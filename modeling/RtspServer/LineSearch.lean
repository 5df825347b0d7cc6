import Mathlib.Data.List.DropRight
import RtspServer.Search

/-!
# Searching a text of lines

A text of lines is a list of lines, each followed by a separator. A pattern
that shares no element with the separator occurs in the text where it occurs
in a line, and the first occurrence is the first one in the first line that
has the pattern (`find_text`). Nothing is asked of the lines.
-/

namespace Search

variable {α : Type*} {pat l rest sep : List α}

/-- Lines, each with its end. -/
def text (sep : List α) (lines : List (List α)) : List α := lines.flatMap (· ++ sep)

@[simp] theorem text_nil : text sep [] = [] := rfl

@[simp] theorem text_cons (l : List α) (lines : List (List α)) :
    text sep (l :: lines) = l ++ (sep ++ text sep lines) := by
  unfold text
  rw [List.flatMap_cons, List.append_assoc]

theorem text_append (lines lines' : List (List α)) :
    text sep (lines ++ lines') = text sep lines ++ text sep lines' := List.flatMap_append

/-! ## Over a separator -/

/-- **No occurrence reaches over a separator**: it lies in front of it or
behind it. -/
theorem occurrence_append_sep (hsep : sep ≠ []) (hpat : pat ≠ []) (hdisj : ∀ a ∈ sep, a ∉ pat)
    {j : ℕ} (h : pat <+: (l ++ (sep ++ rest)).drop j) :
    (j + pat.length ≤ l.length ∧ pat <+: l.drop j) ∨
      ∃ i, j = (l ++ sep).length + i ∧ pat <+: rest.drop i := by
  have hpos : 0 < pat.length := List.length_pos_iff.mpr hpat
  have hsepPos : 0 < sep.length := List.length_pos_iff.mpr hsep
  by_cases hbefore : j + pat.length ≤ l.length
  · rw [List.drop_append_of_le_length (by omega)] at h
    refine .inl ⟨hbefore, List.prefix_of_prefix_length_le h (List.prefix_append _ _) ?_⟩
    rw [List.length_drop]
    omega
  by_cases hafter : (l ++ sep).length ≤ j
  · obtain ⟨i, rfl⟩ := Nat.exists_eq_add_of_le hafter
    refine .inr ⟨i, rfl, ?_⟩
    rw [← List.append_assoc, ← List.drop_drop, List.drop_left] at h
    exact h
  -- otherwise an element of the separator stands in the pattern
  · exfalso
    rw [List.length_append] at hafter
    have hi : max j l.length - j < pat.length := by omega
    have hlen : max j l.length < (l ++ (sep ++ rest)).length := by
      simp only [List.length_append]
      omega
    have hget : pat.get ⟨max j l.length - j, hi⟩
        = (l ++ (sep ++ rest)).get ⟨max j l.length, hlen⟩ := by
      have heq := h.getElem hi
      rw [List.getElem_drop] at heq
      rw [List.get_eq_getElem, List.get_eq_getElem, heq]
      congr 1
      dsimp only
      omega
    have hmem : (l ++ (sep ++ rest)).get ⟨max j l.length, hlen⟩ ∈ sep := by
      rw [List.get_eq_getElem, List.getElem_append_right (by dsimp only; omega),
        List.getElem_append_left (by dsimp only; omega)]
      exact List.getElem_mem _
    exact hdisj _ hmem (hget ▸ List.get_mem pat _)

theorem isInfix_append_sep (hsep : sep ≠ []) (hpat : pat ≠ []) (hdisj : ∀ a ∈ sep, a ∉ pat) :
    pat <:+: l ++ (sep ++ rest) ↔ pat <:+: l ∨ pat <:+: rest := by
  constructor
  · intro h
    obtain ⟨j, -, hat⟩ := isInfix_iff_exists_drop.mp h
    rcases occurrence_append_sep hsep hpat hdisj hat with ⟨-, hat⟩ | ⟨i, -, hat⟩
    · exact .inl (hat.isInfix.trans (List.drop_suffix j l).isInfix)
    · exact .inr (hat.isInfix.trans (List.drop_suffix i rest).isInfix)
  · rintro (h | h)
    · exact h.trans (List.prefix_append _ _).isInfix
    · exact h.trans ((List.suffix_append _ _).isInfix.trans (List.suffix_append _ _).isInfix)

/-- **A pattern occurs in a text where it occurs in a line.** -/
theorem isInfix_text_iff (hsep : sep ≠ []) (hpat : pat ≠ []) (hdisj : ∀ a ∈ sep, a ∉ pat)
    {lines : List (List α)} : pat <:+: text sep lines ↔ ∃ l ∈ lines, pat <:+: l := by
  induction lines with
  | nil => simp [hpat]
  | cons l lines ih =>
    rw [text_cons, isInfix_append_sep hsep hpat hdisj, ih, List.exists_mem_cons_iff]

/-! ## The first occurrence -/

variable [DecidableEq α]

/-- The first occurrence behind a separator, when there is none in front of
it. -/
theorem find_append_sep (hsep : sep ≠ []) (hpat : pat ≠ []) (hdisj : ∀ a ∈ sep, a ∉ pat)
    (hl : ¬ pat <:+: l) {i : ℕ} (h : find pat rest = some i) :
    find pat (l ++ (sep ++ rest)) = some ((l ++ sep).length + i) := by
  obtain ⟨hi, hat, hbefore⟩ := find_eq_some_iff.mp h
  refine find_eq_some_iff.mpr ⟨by simp only [List.length_append]; omega, ?_, fun j hj hj' => ?_⟩
  · rw [← List.append_assoc, ← List.drop_drop, List.drop_left]
    exact hat
  · rcases occurrence_append_sep hsep hpat hdisj hj' with ⟨-, hat'⟩ | ⟨k, rfl, hat'⟩
    · exact hl (hat'.isInfix.trans (List.drop_suffix j l).isInfix)
    · exact hbefore k (by omega) hat'

/-- Lines without the pattern are passed over. -/
theorem find_text_append (hsep : sep ≠ []) (hpat : pat ≠ []) (hdisj : ∀ a ∈ sep, a ∉ pat)
    {lines : List (List α)} (hlines : ∀ l ∈ lines, ¬ pat <:+: l) {i : ℕ}
    (h : find pat rest = some i) :
    find pat (text sep lines ++ rest) = some ((text sep lines).length + i) := by
  induction lines with
  | nil => simpa using h
  | cons l lines ih =>
    have htail := ih fun l hl => hlines l (List.mem_cons_of_mem _ hl)
    rw [text_cons, List.append_assoc, List.append_assoc,
      find_append_sep hsep hpat hdisj (hlines l List.mem_cons_self) htail]
    simp only [List.length_append]
    congr 1
    omega

/-- **The first occurrence in a text** is the first one in the first line that
has the pattern. -/
theorem find_text (hsep : sep ≠ []) (hpat : pat ≠ []) (hdisj : ∀ a ∈ sep, a ∉ pat)
    {lines lines' : List (List α)} (hlines : ∀ l ∈ lines, ¬ pat <:+: l) {i : ℕ}
    (h : find pat l = some i) :
    find pat (text sep (lines ++ l :: lines')) = some ((text sep lines).length + i) ∧
    (text sep (lines ++ l :: lines')).drop ((text sep lines).length + i)
      = l.drop i ++ (sep ++ text sep lines') := by
  have hi := (find_eq_some_iff.mp h).1
  constructor
  · rw [text_append, text_cons]
    exact find_text_append hsep hpat hdisj hlines (find_append_of_some h)
  · rw [text_append, ← List.drop_drop, List.drop_left, text_cons, List.drop_append_of_le_length hi]

/-- A pattern that occurs in a line occurs first in some line. -/
theorem exists_first_line {lines : List (List α)} (h : ∃ l ∈ lines, pat <:+: l) :
    ∃ before l after i, lines = before ++ l :: after ∧ (∀ l ∈ before, ¬ pat <:+: l) ∧
      find pat l = some i := by
  induction lines with
  | nil => obtain ⟨l, hl, -⟩ := h; cases hl
  | cons l lines ih =>
    cases hfind : find pat l with
    | some i => exact ⟨[], l, lines, i, rfl, nofun, hfind⟩
    | none =>
      have hnot := find_eq_none_iff_not_isInfix.mp hfind
      obtain ⟨before, l', after, i, rfl, hbefore, hi⟩ := ih (by
        obtain ⟨l', hl', hin⟩ := h
        rcases List.mem_cons.mp hl' with rfl | hl'
        · exact absurd hin hnot
        · exact ⟨l', hl', hin⟩)
      refine ⟨l :: before, l', after, i, rfl, fun l₀ hl₀ => ?_, hi⟩
      rcases List.mem_cons.mp hl₀ with rfl | hl₀
      · exact hnot
      · exact hbefore l₀ hl₀

end Search
