import RtspServer.Memory
import RtspServer.Search

/-!
# `muduo::net::Buffer`

The input buffer of a connection, by its readable bytes: `append` adds at the
end, `retrieve` takes from the front, and the position of the indices inside
the allocated storage does not matter. The build defines `NDEBUG`, so that
`retrieve` does not check its argument: asked for more than there is, it
empties the buffer.
-/

/-- The readable bytes of a buffer. -/
abbrev Buffer := Bytes

/-- `kCRLF`. -/
def crlf : Bytes := [0x0d, 0x0a]

namespace Buffer

def findCRLF (buf : Buffer) : Option ℕ := Search.find crlf buf

def findLastCRLF (buf : Buffer) : Option ℕ := Search.findLast crlf buf

def retrieve (buf : Buffer) (len : ℕ) : Buffer :=
  if len < buf.length then buf.drop len else []

/-- Taking at most what is there leaves the rest. -/
theorem retrieve_eq_drop (buf : Buffer) (len : ℕ) : buf.retrieve len = buf.drop len := by
  unfold retrieve
  by_cases h : len < buf.length
  · rw [if_pos h]
  · rw [if_neg h, List.drop_of_length_le (Nat.le_of_not_lt h)]

end Buffer

/-! ## Lines -/

/-- Bytes without a carriage return or a line feed. -/
def IsLine (bs : Bytes) : Prop := ∀ b ∈ bs, b ≠ 0x0d ∧ b ≠ 0x0a

instance (bs : Bytes) : Decidable (IsLine bs) :=
  List.decidableBAll (fun b => b ≠ 0x0d ∧ b ≠ 0x0a) bs

theorem IsLine.append {bs cs : Bytes} (h : IsLine bs) (h' : IsLine cs) : IsLine (bs ++ cs) := by
  intro b hb
  rcases List.mem_append.mp hb with hb | hb
  · exact h b hb
  · exact h' b hb

theorem crlf_prefix_iff {bs : Bytes} : crlf <+: bs ↔ ∃ t, bs = 0x0d :: 0x0a :: t :=
  ⟨fun ⟨t, ht⟩ => ⟨t, ht.symm⟩, fun ⟨t, ht⟩ => ⟨t, ht.symm⟩⟩

/-- No CRLF starts inside a line. -/
theorem IsLine.not_crlf_drop {line : Bytes} (h : IsLine line) (rest : Bytes) {j : ℕ}
    (hj : j < line.length) : ¬ crlf <+: (line ++ rest).drop j := by
  rw [List.drop_append_of_le_length (Nat.le_of_lt hj), crlf_prefix_iff]
  rintro ⟨t, ht⟩
  have hget : line.get ⟨j, hj⟩ = 0x0d := by
    rw [List.drop_eq_getElem_cons hj, List.cons_append, List.cons.injEq] at ht
    exact ht.1
  exact (h _ (List.get_mem line ⟨j, hj⟩)).1 hget

namespace Buffer

/-- **The first CRLF of a buffer that begins with a line is the line's own.** -/
theorem findCRLF_line {line : Bytes} (h : IsLine line) (rest : Bytes) :
    findCRLF (line ++ crlf ++ rest) = some line.length := by
  rw [findCRLF, Search.find_eq_some_iff]
  refine ⟨by simp only [List.length_append]; omega, ?_, fun j hj => ?_⟩
  · rw [List.append_assoc, List.drop_left]
    exact List.prefix_append _ _
  · rw [List.append_assoc]
    exact h.not_crlf_drop _ hj

/-- **The last CRLF of a buffer is one with no CRLF after it.** -/
theorem findLastCRLF_append (text : Bytes) {rest : Bytes} (h : ¬ crlf <:+: rest) :
    findLastCRLF (text ++ crlf ++ rest) = some text.length := by
  rw [findLastCRLF, Search.findLast_eq_some_iff]
  refine ⟨by simp only [List.length_append]; omega, ?_, fun j hj hj' hat => ?_⟩
  · rw [List.append_assoc, List.drop_left]
    exact List.prefix_append _ _
  · obtain ⟨k, rfl⟩ := Nat.exists_eq_add_of_lt hj
    rw [List.append_assoc, Nat.add_assoc, ← List.drop_drop, List.drop_left] at hat
    cases k with
    | zero => exact absurd (crlf_prefix_iff.mp hat) (by rintro ⟨t, ht⟩; cases ht)
    | succ k =>
      have hinfix : (rest.drop k) <:+: rest := (List.drop_suffix k rest).isInfix
      exact h (List.IsInfix.trans (List.IsPrefix.isInfix hat) hinfix)

/-- The last CRLF of a buffer that has one splits it. -/
theorem exists_last_crlf {buf : Buffer} (h : crlf <:+: buf) :
    ∃ text tail, buf = text ++ crlf ++ tail ∧ ¬ crlf <:+: tail := by
  cases hlast : findLastCRLF buf with
  | none => exact absurd h (Search.findLast_eq_none_iff_not_isInfix.mp hlast)
  | some k =>
    obtain ⟨hk, ⟨tail, htail⟩, hafter⟩ := Search.findLast_eq_some_iff.mp hlast
    have hbuf : buf = buf.take k ++ crlf ++ tail := by
      rw [List.append_assoc, htail, List.take_append_drop]
    refine ⟨buf.take k, tail, hbuf, fun hinfix => ?_⟩
    -- an occurrence in the tail is a later one in the buffer
    obtain ⟨j, hj, hat⟩ := Search.isInfix_iff_exists_drop.mp hinfix
    have hdrop : buf.drop (k + (2 + j)) = tail.drop j := by
      rw [← List.drop_drop, ← htail, ← List.drop_drop]
      rfl
    have htotal := congrArg List.length htail
    rw [List.length_append, List.length_drop, show crlf.length = 2 from rfl] at htotal
    exact hafter (k + (2 + j)) (by omega) (by omega) (hdrop ▸ hat)

/-- There is one such split. -/
theorem last_crlf_unique {text text' tail tail' : Bytes} (h : ¬ crlf <:+: tail)
    (h' : ¬ crlf <:+: tail') (heq : text ++ crlf ++ tail = text' ++ crlf ++ tail') :
    text = text' ∧ tail = tail' := by
  have hlast := findLastCRLF_append text h
  rw [heq, findLastCRLF_append text' h', Option.some.injEq] at hlast
  rw [List.append_assoc, List.append_assoc] at heq
  obtain ⟨htext, hrest⟩ := List.append_inj heq hlast.symm
  exact ⟨htext, List.append_cancel_left hrest⟩

theorem findLastCRLF_eq_none_iff {buf : Buffer} :
    findLastCRLF buf = none ↔ ¬ crlf <:+: buf := Search.findLast_eq_none_iff_not_isInfix

theorem findCRLF_eq_none_iff {buf : Buffer} :
    findCRLF buf = none ↔ ¬ crlf <:+: buf := Search.find_eq_none_iff_not_isInfix

end Buffer
