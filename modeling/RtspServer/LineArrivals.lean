import RtspServer.LineSearch

/-!
# Which lines arrive in which read

A text of lines comes in pieces that may be cut anywhere. A line has arrived when its
separator has, so a piece brings some lines to their end, and may leave the beginning of
the next one (`Search.arrivals`). Which lines these are depends on the lengths of the
pieces only: the text is known.

`Search.Carried` is the situation between two pieces: some lines have not arrived, a
beginning of the first of them has, and the pieces to come are the rest. It is kept by
every piece (`Search.Carried.step`), and in the end every line has arrived in one piece
(`Search.Carried.arrived_arrivals`).

A reader that takes one line with each piece is through in the end exactly when the lines
do not come too fast, from any piece on (`Search.Paced`).
-/

namespace Search

variable {α : Type*}

/-- The number of the lines that have ended within the first `n` elements of their
text. -/
def ended (sep : List α) : List (List α) → ℕ → ℕ
  | [], _ => 0
  | l :: ls, n => if (l ++ sep).length ≤ n then ended sep ls (n - (l ++ sep).length) + 1 else 0

/-- **The lines that end in each piece**, and how much of the next line has come by then;
of the first line `k` elements have come before. -/
def arrivals (sep : List α) : List (List α) → ℕ → List (List α) → List (List (List α) × ℕ)
  | _, _, [] => []
  | ls, k, c :: cs =>
    let m := ended sep ls (k + c.length)
    let k' := k + c.length - (text sep (ls.take m)).length
    (ls.take m, k') :: arrivals sep (ls.drop m) k' cs

/-- The lines of some arrivals. -/
def arrived (xs : List (List (List α) × ℕ)) : List (List α) := xs.flatMap Prod.fst

@[simp] theorem arrived_nil : arrived ([] : List (List (List α) × ℕ)) = [] := rfl

@[simp] theorem arrived_cons (x : List (List α) × ℕ) (xs : List (List (List α) × ℕ)) :
    arrived (x :: xs) = x.1 ++ arrived xs := rfl

theorem arrived_append (xs ys : List (List (List α) × ℕ)) :
    arrived (xs ++ ys) = arrived xs ++ arrived ys := List.flatMap_append

variable {sep : List α} {ls : List (List α)} {k : ℕ} {c : List α} {cs : List (List α)}

/-- **The first `n` elements of a text** are the lines that have ended in them, and a
part of the next line that does not end. -/
theorem take_text (sep : List α) (ls : List (List α)) (n : ℕ) :
    (text sep ls).take n = text sep (ls.take (ended sep ls n)) ++
      (text sep (ls.drop (ended sep ls n))).take
        (n - (text sep (ls.take (ended sep ls n))).length) ∧
    ∀ l rest, ls.drop (ended sep ls n) = l :: rest →
      n - (text sep (ls.take (ended sep ls n))).length < (l ++ sep).length := by
  induction ls generalizing n with
  | nil => exact ⟨rfl, fun l rest h => by rw [List.drop_nil] at h; cases h⟩
  | cons l ls ih =>
    by_cases hl : (l ++ sep).length ≤ n
    · obtain ⟨htake, hshort⟩ := ih (n - (l ++ sep).length)
      have hended : ended sep (l :: ls) n = ended sep ls (n - (l ++ sep).length) + 1 := if_pos hl
      have hlen : n - (text sep (l :: ls.take (ended sep ls (n - (l ++ sep).length)))).length
          = n - (l ++ sep).length
            - (text sep (ls.take (ended sep ls (n - (l ++ sep).length)))).length := by
        rw [text_cons, ← List.append_assoc, List.length_append, Nat.sub_add_eq]
      rw [hended, List.take_succ_cons, List.drop_succ_cons, hlen]
      refine ⟨?_, hshort⟩
      calc (text sep (l :: ls)).take n
          = (l ++ sep ++ text sep ls).take n := by rw [text_cons, List.append_assoc]
        _ = l ++ sep ++ (text sep ls).take (n - (l ++ sep).length) := by
          rw [List.take_append, List.take_of_length_le hl]
        _ = _ := by rw [htake, text_cons]; simp only [List.append_assoc]
    · have hended : ended sep (l :: ls) n = 0 := if_neg hl
      rw [hended]
      refine ⟨rfl, fun l' rest h => ?_⟩
      cases h
      exact Nat.lt_of_not_le hl

/-- **Between two pieces**: of the lines that have not ended, the first has begun with
`k` elements, and the pieces to come are the rest of their text. -/
structure Carried (sep : List α) (ls : List (List α)) (k : ℕ) (cs : List (List α)) : Prop where
  bytes : (text sep ls).take k ++ cs.flatten = text sep ls
  le_length : k ≤ (text sep ls).length
  short : ∀ l rest, ls = l :: rest → k < (l ++ sep).length

/-- Before the first piece nothing has come. -/
theorem Carried.init (hsep : sep ≠ []) (h : cs.flatten = text sep ls) : Carried sep ls 0 cs := by
  refine ⟨h, Nat.zero_le _, fun l rest _ => ?_⟩
  rw [List.length_append]
  exact Nat.lt_of_lt_of_le (List.length_pos_iff.mpr hsep) (Nat.le_add_left _ _)

/-- **One piece**: what has come is the lines that have ended and the beginning of the
next one. -/
theorem Carried.step (h : Carried sep ls k (c :: cs)) :
    (text sep ls).take k ++ c = text sep (ls.take (ended sep ls (k + c.length))) ++
      (text sep (ls.drop (ended sep ls (k + c.length)))).take
        (k + c.length - (text sep (ls.take (ended sep ls (k + c.length)))).length) ∧
    Carried sep (ls.drop (ended sep ls (k + c.length)))
      (k + c.length - (text sep (ls.take (ended sep ls (k + c.length)))).length) cs := by
  obtain ⟨htake, hshort⟩ := take_text sep ls (k + c.length)
  have hbytes := h.bytes
  rw [List.flatten_cons, ← List.append_assoc] at hbytes
  have hcome : (text sep ls).take k ++ c = (text sep ls).take (k + c.length) := by
    have hlen : ((text sep ls).take k ++ c).length = min (k + c.length) (text sep ls).length := by
      have htotal := congrArg List.length hbytes
      simp only [List.length_append, List.length_take] at htotal ⊢
      omega
    have hprefix : (text sep ls).take k ++ c <+: text sep ls := ⟨cs.flatten, hbytes⟩
    rw [List.prefix_iff_eq_take.mp hprefix, hlen, ← List.take_take, List.take_length]
  have hsplit : text sep ls = text sep (ls.take (ended sep ls (k + c.length))) ++
      text sep (ls.drop (ended sep ls (k + c.length))) := by
    rw [← text_append, List.take_append_drop]
  refine ⟨hcome.trans htake, ?_, ?_, hshort⟩
  · rw [hcome.trans htake, List.append_assoc] at hbytes
    exact List.append_cancel_left (hbytes.trans hsplit)
  · have htotal := congrArg List.length hbytes
    have hlen := congrArg List.length hsplit
    have hle := h.le_length
    simp only [List.length_append, List.length_take] at htotal hlen
    omega

/-- **Every line arrives**, in the order of the text. -/
theorem Carried.arrived_arrivals (h : Carried sep ls k cs) :
    arrived (arrivals sep ls k cs) = ls := by
  induction cs generalizing ls k with
  | nil =>
    cases ls with
    | nil => rfl
    | cons l rest =>
      -- the first line would have come without its end
      have hbytes := congrArg List.length h.bytes
      have hshort := h.short l rest rfl
      rw [List.flatten_nil, List.append_nil, List.length_take, text_cons, ← List.append_assoc,
        List.length_append] at hbytes
      omega
  | cons c cs ih =>
    rw [arrivals, arrived_cons, ih h.step.2]
    exact List.take_append_drop _ _

/-! ## One line for each piece -/

/-- **The lines do not come faster than one is taken for each piece.** `q` lines are there
before, which must be taken as well; and from every piece on there are as many pieces as
lines, or more. -/
def Paced (q : ℕ) (xs : List (List (List α) × ℕ)) : Prop :=
  q + (arrived xs).length ≤ xs.length ∧ ∀ j, (arrived (xs.drop j)).length ≤ (xs.drop j).length

theorem paced_nil {q : ℕ} : Paced q ([] : List (List (List α) × ℕ)) ↔ q = 0 := by
  constructor
  · rintro ⟨hall, -⟩
    exact Nat.le_zero.mp hall
  · rintro rfl
    exact ⟨le_refl 0, fun j => by rw [List.drop_nil]; exact le_refl 0⟩

/-- **With a piece** its lines are added and one is taken, if there is one. -/
theorem paced_cons {q : ℕ} {x : List (List α) × ℕ} {xs : List (List (List α) × ℕ)} :
    Paced q (x :: xs) ↔ Paced (q + x.1.length - 1) xs := by
  unfold Paced
  rw [arrived_cons, List.length_append, List.length_cons]
  constructor
  · rintro ⟨hall, hfrom⟩
    have htail := hfrom 1
    rw [List.drop_succ_cons, List.drop_zero] at htail
    refine ⟨by omega, fun j => ?_⟩
    have hj := hfrom (j + 1)
    rwa [List.drop_succ_cons] at hj
  · rintro ⟨hall, hfrom⟩
    refine ⟨by omega, fun j => ?_⟩
    cases j with
    | zero =>
      rw [List.drop_zero, arrived_cons, List.length_append, List.length_cons]
      omega
    | succ j =>
      rw [List.drop_succ_cons]
      exact hfrom j

theorem paced_zero {xs : List (List (List α) × ℕ)} :
    Paced 0 xs ↔ ∀ j, (arrived (xs.drop j)).length ≤ (xs.drop j).length := by
  refine ⟨fun h => h.2, fun h => ⟨?_, h⟩⟩
  have hall := h 0
  rwa [List.drop_zero, ← Nat.zero_add (arrived xs).length] at hall

end Search
