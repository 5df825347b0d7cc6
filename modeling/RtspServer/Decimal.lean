import RtspServer.RtspMessage
import RtspServer.ScanfWords

/-!
# Numbers printed and read back

What `%hu` prints is what `%hu` reads: the digits of a number in front of
anything but a digit scan as the number (`scan_hu`). With it stand the rules by
which a format moves over a text whose parts are known, one for each directive.
-/

namespace Scanf

open RtspRequest (decimal)

/-- A digit of a printed number. -/
theorem isDigit_of_mem_decimal {n : ℕ} {b : UInt8} (h : b ∈ decimal n) : isDigit b = true := by
  obtain ⟨c, hc, rfl⟩ := List.mem_map.mp h
  have hdigit : c.isDigit = true := Nat.isDigit_of_mem_toDigits (by decide) (by decide) hc
  simp only [Char.isDigit, Bool.and_eq_true, decide_eq_true_eq, ge_iff_le] at hdigit
  obtain ⟨hlow, hhigh⟩ := hdigit
  rw [UInt32.le_iff_toNat_le] at hlow hhigh
  replace hlow : 48 ≤ c.toNat := hlow
  replace hhigh : c.toNat ≤ 57 := hhigh
  have hbyte : c.toNat.toUInt8.toNat = c.toNat := UInt8.toNat_ofNat_of_lt' (show _ < 256 by omega)
  unfold isDigit
  simp only [Bool.and_eq_true, decide_eq_true_eq, UInt8.le_iff_toNat_le, hbyte]
  exact ⟨hlow, hhigh⟩

theorem decimal_ne_nil (n : ℕ) : decimal n ≠ [] := fun h =>
  Nat.toDigits_ne_nil (List.map_eq_nil_iff.mp h)

/-- How long a printed number is. -/
theorem length_decimal_le {n k : ℕ} (hk : 0 < k) (h : n < 10 ^ k) : (decimal n).length ≤ k := by
  unfold decimal
  rw [List.length_map]
  exact (Nat.length_toDigits_le_iff (by decide) hk).mpr h

/-- A printed number of 16 bits. -/
theorem length_decimal_uint16 (n : UInt16) : (decimal n.toNat).length ≤ 5 := by
  have hn := n.toNat_lt
  exact length_decimal_le (by decide) (by omega)

/-- A printed number of 32 bits. -/
theorem length_decimal_uint32 (n : UInt32) : (decimal n.toNat).length ≤ 10 := by
  have hn := n.toNat_lt
  exact length_decimal_le (by decide) (by omega)

/-- The digits of characters that are digits, as bytes. -/
theorem foldl_digits (cs : List Char) : ∀ (v : ℕ), (∀ c ∈ cs, c.isDigit = true) →
    (cs.map fun c => c.toNat.toUInt8).foldl (fun v d => 10 * v + (d.toNat - 48)) v
      = Nat.ofDigitChars 10 cs v := by
  induction cs with
  | nil => intro v _; rw [Nat.ofDigitChars_nil]; rfl
  | cons c cs ih =>
    intro v h
    have hdigit := h c List.mem_cons_self
    simp only [Char.isDigit, Bool.and_eq_true, decide_eq_true_eq, UInt32.le_iff_toNat_le] at hdigit
    have hhigh : c.toNat ≤ 57 := hdigit.2
    have hbyte : c.toNat.toUInt8.toNat = c.toNat :=
      UInt8.toNat_ofNat_of_lt' (show _ < 256 by omega)
    rw [List.map_cons, List.foldl_cons, Nat.ofDigitChars_cons, hbyte]
    exact ih _ fun c hc => h c (List.mem_cons_of_mem _ hc)

/-- **The value of a printed number.** -/
theorem decimalValue_decimal (n : ℕ) : decimalValue (decimal n) = n := by
  unfold decimalValue decimal
  rw [foldl_digits _ 0 fun c hc => Nat.isDigit_of_mem_toDigits (by decide) (by decide) hc]
  exact Nat.ofDigitChars_ten_toDigits

theorem decimal_injective : Function.Injective decimal := fun m n h => by
  rw [← decimalValue_decimal m, h, decimalValue_decimal]

/-- A printed number ends where its digits end. -/
theorem decimal_append_inj {m n : ℕ} {rest rest' : Bytes}
    (hrest : ∀ b, rest.head? = some b → isDigit b = false)
    (hrest' : ∀ b, rest'.head? = some b → isDigit b = false)
    (h : decimal m ++ rest = decimal n ++ rest') : m = n ∧ rest = rest' := by
  obtain ⟨htake, hdrop⟩ := takeWhile_append_stop
    (fun _ (h : _ ∈ decimal m) => isDigit_of_mem_decimal h) hrest
  obtain ⟨htake', hdrop'⟩ := takeWhile_append_stop
    (fun _ (h : _ ∈ decimal n) => isDigit_of_mem_decimal h) hrest'
  rw [h] at htake hdrop
  exact ⟨decimal_injective (htake.symm.trans htake'), hdrop.symm.trans hdrop'⟩

/-- A printed number is a numeral. -/
theorem isNumeral_decimal (n : ℕ) : IsNumeral (decimal n) :=
  ⟨decimal_ne_nil n, fun _ => isDigit_of_mem_decimal⟩

/-! ## Directives on a known text -/

/-- `%*[^c]` moves up to the next `c`. -/
theorem scan_skipUpTo {c : UInt8} {text : Bytes} (hc : c ∉ text) (hne : text ≠ []) (rest : Bytes)
    (ds : List Directive) :
    scan (.skipUpTo c :: ds) (text ++ c :: rest) = scan ds (c :: rest) := by
  obtain ⟨htake, hdrop⟩ := takeWhile_ne_append hc rest
  simp only [scan, htake, hdrop, if_neg hne]

theorem scan_lit (c : UInt8) (rest : Bytes) (ds : List Directive) :
    scan (.lit c :: ds) (c :: rest) = scan ds rest := if_pos rfl

/-- `%hu` in front of a printed number of 16 bits. -/
theorem scan_hu {n : ℕ} (hn : n < 65536) {rest : Bytes}
    (hrest : ∀ b, rest.head? = some b → isDigit b = false) (ds : List Directive) :
    scan (.hu :: ds) (decimal n ++ rest)
      = (scan ds rest).map (.num (.ofNat n) :: ·) := by
  have hvalue := decimalValue_decimal n
  rw [scan_hu_numeral (isNumeral_decimal n) (by rw [hvalue]; exact hn) hrest, hvalue]

/-- The text of a NUL-terminated string begins with what has no NUL. -/
theorem cstr_append {text : Bytes} (h : 0 ∉ text) (rest : Bytes) :
    cstr (text ++ rest) = text ++ cstr rest := by
  unfold cstr
  exact List.takeWhile_append_of_pos fun b hb => decide_eq_true fun h0 => h (h0 ▸ hb)

/-- What stops a number in front of a text stops it in the string. -/
theorem isDigit_head_cstr {text : Bytes} (h : ∀ b, text.head? = some b → isDigit b = false) :
    ∀ b, (cstr text).head? = some b → isDigit b = false := by
  intro b hb
  cases text with
  | nil => cases hb
  | cons c text =>
    unfold cstr at hb
    rw [List.takeWhile_cons] at hb
    split at hb
    · exact h b hb
    · cases hb

/-- A printed number has no NUL. -/
theorem nul_notMem_decimal (n : ℕ) : 0 ∉ decimal n := fun h => by
  have hdigit := isDigit_of_mem_decimal h
  cases hdigit

end Scanf
