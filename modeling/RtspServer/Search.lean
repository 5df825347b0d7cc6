import Mathlib.Data.List.Basic
import Mathlib.Data.List.Infix

/-!
# Searching a list for a pattern

`find` is the first position at which a pattern occurs (`std::search`,
`std::string::find`), `findLast` the last one (`std::find_end`, `rfind`). A
position `i` is an occurrence when the pattern is a prefix of `l.drop i`.

Each search is characterised by the occurrences (`find_eq_some_iff`,
`findLast_eq_some_iff` and the two `_eq_none_iff`), so that later proofs
never look at the recursion.
-/

namespace Search

variable {α : Type*} [DecidableEq α] {pat l l' : List α} {i : ℕ}

/-- The first occurrence of a pattern. -/
def find (pat : List α) : List α → Option ℕ
  | [] => if pat = [] then some 0 else none
  | a :: l => if pat <+: a :: l then some 0 else (find pat l).map (· + 1)

/-- The last occurrence of a pattern. -/
def findLast (pat : List α) : List α → Option ℕ
  | [] => if pat = [] then some 0 else none
  | a :: l => match findLast pat l with
    | some i => some (i + 1)
    | none => if pat <+: a :: l then some 0 else none

/-! ## No occurrence -/

omit [DecidableEq α] in
/-- An occurrence further on is an occurrence in the tail. -/
theorem forall_occurrence_cons {a : α} :
    (∀ j ≤ (a :: l).length, ¬ pat <+: (a :: l).drop j)
      ↔ ¬ pat <+: a :: l ∧ ∀ j ≤ l.length, ¬ pat <+: l.drop j := by
  constructor
  · intro h
    exact ⟨h 0 (Nat.zero_le _), fun j hj => h (j + 1) (by simpa using hj)⟩
  · rintro ⟨h₀, h⟩ j hj
    cases j with
    | zero => exact h₀
    | succ j => exact h j (by simpa using hj)

theorem find_eq_none_iff :
    find pat l = none ↔ ∀ j ≤ l.length, ¬ pat <+: l.drop j := by
  induction l with
  | nil => by_cases hp : pat = [] <;> simp [find, hp]
  | cons a l ih =>
    rw [forall_occurrence_cons, ← ih]
    by_cases hp : pat <+: a :: l <;> simp [find, hp]

theorem findLast_eq_none_iff :
    findLast pat l = none ↔ ∀ j ≤ l.length, ¬ pat <+: l.drop j := by
  induction l with
  | nil => by_cases hp : pat = [] <;> simp [findLast, hp]
  | cons a l ih =>
    rw [forall_occurrence_cons, ← ih]
    cases hf : findLast pat l with
    | some k => simp [findLast, hf]
    | none => by_cases hp : pat <+: a :: l <;> simp [findLast, hf, hp]

omit [DecidableEq α] in
/-- An occurrence at some position is an infix. -/
theorem isInfix_iff_exists_drop : pat <:+: l ↔ ∃ j ≤ l.length, pat <+: l.drop j := by
  constructor
  · rintro ⟨s, t, rfl⟩
    refine ⟨s.length, by simp, ?_⟩
    rw [List.append_assoc, List.drop_left]
    exact List.prefix_append _ _
  · rintro ⟨j, -, h⟩
    exact h.isInfix.trans (List.drop_suffix j l).isInfix

/-- **The two searches find nothing in the same lists.** -/
theorem find_eq_none_iff_not_isInfix : find pat l = none ↔ ¬ pat <:+: l := by
  rw [find_eq_none_iff, isInfix_iff_exists_drop]
  exact ⟨fun h ⟨j, hj, hat⟩ => h j hj hat, fun h j hj hat => h ⟨j, hj, hat⟩⟩

theorem findLast_eq_none_iff_not_isInfix : findLast pat l = none ↔ ¬ pat <:+: l := by
  rw [findLast_eq_none_iff, ← find_eq_none_iff, find_eq_none_iff_not_isInfix]

/-! ## The first and the last occurrence -/

/-- **A first occurrence** is one before which there is none. -/
theorem find_eq_some_iff :
    find pat l = some i ↔ i ≤ l.length ∧ pat <+: l.drop i ∧ ∀ j < i, ¬ pat <+: l.drop j := by
  induction l generalizing i with
  | nil =>
    by_cases hp : pat = []
    · subst hp
      simp only [find, if_true, Option.some.injEq]
      constructor
      · rintro rfl; exact ⟨le_refl 0, List.nil_prefix, fun j hj => by omega⟩
      · rintro ⟨h, -⟩; exact (Nat.le_zero.mp h).symm
    · simp [find, hp]
  | cons a l ih =>
    by_cases hp : pat <+: a :: l
    · simp only [find, if_pos hp, Option.some.injEq]
      constructor
      · rintro rfl
        exact ⟨Nat.zero_le _, hp, fun j hj => absurd hj (Nat.not_lt_zero j)⟩
      · rintro ⟨-, -, h⟩
        by_contra hi
        exact h 0 (Nat.pos_of_ne_zero (Ne.symm hi)) hp
    · simp only [find, if_neg hp, Option.map_eq_some_iff]
      constructor
      · rintro ⟨k, hk, rfl⟩
        obtain ⟨hlen, hat, hbefore⟩ := ih.mp hk
        refine ⟨by simpa using hlen, hat, fun j hj => ?_⟩
        cases j with
        | zero => exact hp
        | succ j => exact hbefore j (by omega)
      · rintro ⟨hlen, hat, hbefore⟩
        cases i with
        | zero => exact absurd hat hp
        | succ i =>
          refine ⟨i, ih.mpr ⟨by simpa using hlen, hat, fun j hj => ?_⟩, rfl⟩
          exact hbefore (j + 1) (by omega)

/-- **A last occurrence** is one after which there is none. -/
theorem findLast_eq_some_iff :
    findLast pat l = some i
      ↔ i ≤ l.length ∧ pat <+: l.drop i ∧ ∀ j, i < j → j ≤ l.length → ¬ pat <+: l.drop j := by
  -- two last occurrences are one, so it is enough that what is found is one
  suffices hspec : ∀ k, findLast pat l = some k →
      k ≤ l.length ∧ pat <+: l.drop k ∧ ∀ j, k < j → j ≤ l.length → ¬ pat <+: l.drop j by
    refine ⟨hspec i, fun ⟨hlen, hat, hafter⟩ => ?_⟩
    cases hf : findLast pat l with
    | none => exact absurd hat (findLast_eq_none_iff.mp hf i hlen)
    | some k =>
      obtain ⟨hlen', hat', hafter'⟩ := hspec k hf
      rcases Nat.lt_trichotomy k i with h | h | h
      · exact absurd hat (hafter' i h hlen)
      · rw [h]
      · exact absurd hat' (hafter k h hlen')
  induction l with
  | nil =>
    intro k hk
    by_cases hp : pat = []
    · simp only [findLast, if_pos hp, Option.some.injEq] at hk
      subst hk
      exact ⟨le_refl 0, by rw [hp]; exact List.nil_prefix, fun j hj hj' => by
        simp only [List.length_nil] at hj'; omega⟩
    · simp [findLast, hp] at hk
  | cons a l ih =>
    intro k hk
    cases hf : findLast pat l with
    | some m =>
      simp only [findLast, hf, Option.some.injEq] at hk
      subst hk
      obtain ⟨hlen, hat, hafter⟩ := ih m hf
      refine ⟨by simpa using hlen, hat, fun j hj hj' => ?_⟩
      cases j with
      | zero => omega
      | succ j => exact hafter j (by omega) (by simpa using hj')
    | none =>
      by_cases hp : pat <+: a :: l
      · simp only [findLast, hf, if_pos hp, Option.some.injEq] at hk
        subst hk
        refine ⟨Nat.zero_le _, hp, fun j hj hj' => ?_⟩
        cases j with
        | zero => omega
        | succ j => exact findLast_eq_none_iff.mp hf j (by simpa using hj')
      · simp [findLast, hf, hp] at hk

/-! ## Searching a concatenation -/

/-- An occurrence found in a prefix is found in the whole list. -/
theorem find_append_of_some (h : find pat l = some i) : find pat (l ++ l') = some i := by
  obtain ⟨hlen, hat, hbefore⟩ := find_eq_some_iff.mp h
  refine find_eq_some_iff.mpr ⟨by rw [List.length_append]; omega, ?_, fun j hj hp => ?_⟩
  · rw [List.drop_append_of_le_length hlen]
    exact hat.trans (List.prefix_append _ _)
  · rw [List.drop_append_of_le_length (by omega)] at hp
    -- the earlier occurrence would reach no further than the one at `i`
    have hplen : pat.length ≤ (l.drop j).length := by
      have := hat.length_le
      rw [List.length_drop] at this ⊢
      omega
    exact hbefore j hj (List.prefix_of_prefix_length_le hp (List.prefix_append _ _) hplen)

end Search
