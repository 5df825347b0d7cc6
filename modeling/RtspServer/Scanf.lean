import Mathlib.Data.List.TakeWhile
import RtspServer.Memory

/-!
# `sscanf`

The conversions of C's `sscanf` on a NUL-terminated string: `%s`, `%[^c]` and
its suppressed form `%*[^c]`, `%u`, `%hu`, literal characters and white space.
A format is a list of `Directive`s; `sscanf` gives the values converted before
the first directive that fails, so that the C function's result is the length
of the list (an input that ends before the first conversion counts as no
conversion: no caller here tells `EOF` from 0).

A string conversion carries the size of the array it stores into. C stores
the token and a NUL without looking at the size; here a token that does not
fit is `Fault.outOfBounds`.

Numbers are read as glibc does: with `strtoul` on a 64-bit `unsigned long`,
which stops at the greatest value and negates after a minus sign, then cut to
the width of the target.
-/

namespace Scanf

/-- `isspace` in the C locale. -/
def isSpace (b : UInt8) : Bool := b == 0x20 || (0x09 ≤ b && b ≤ 0x0d)

/-- `isdigit`. -/
def isDigit (b : UInt8) : Bool := 0x30 ≤ b && b ≤ 0x39

/-- The string a `char*` points to: the bytes before the first NUL. -/
def cstr (bs : Bytes) : Bytes := bs.takeWhile (· ≠ 0)

/-- The value of a string of decimal digits. -/
def decimalValue (ds : Bytes) : ℕ := ds.foldl (fun v d => 10 * v + (d.toNat - 48)) 0

/-- The result of `strtoul` for a number of this absolute value. -/
@[irreducible] def strtoul (neg : Bool) (v : ℕ) : ℕ :=
  if 2 ^ 64 ≤ v then 2 ^ 64 - 1 else if neg then (2 ^ 64 - v) % 2 ^ 64 else v

/-- A decimal number in front of a string, with an optional sign, and what
follows it. -/
def number (bs : Bytes) : Option (ℕ × Bytes) :=
  let unsigned (neg : Bool) (bs : Bytes) : Option (ℕ × Bytes) :=
    if bs.takeWhile isDigit = [] then none
    else some (strtoul neg (decimalValue (bs.takeWhile isDigit)), bs.dropWhile isDigit)
  match bs with
  | [] => none
  | b :: rest =>
    if b = 0x2d then unsigned true rest
    else if b = 0x2b then unsigned false rest
    else unsigned false bs

/-- One element of a format. -/
inductive Directive where
  /-- White space: any amount of it, also none. -/
  | space
  /-- A character that must be there. -/
  | lit (b : UInt8)
  /-- `%s` into an array of `size` bytes. -/
  | str (size : ℕ)
  /-- `%[^c]` into an array of `size` bytes. -/
  | upTo (c : UInt8) (size : ℕ)
  /-- `%*[^c]`. -/
  | skipUpTo (c : UInt8)
  /-- `%u`. -/
  | u
  /-- `%hu`. -/
  | hu
deriving DecidableEq

/-- A converted value. -/
inductive Value where
  | str (bs : Bytes)
  | num (n : UInt32)
deriving DecidableEq

/-- A format applied to a string. -/
def scan : List Directive → Bytes → Except Fault (List Value)
  | [], _ => .ok []
  | .space :: ds, bs => scan ds (bs.dropWhile isSpace)
  | .lit c :: ds, bs =>
    match bs with
    | b :: rest => if b = c then scan ds rest else .ok []
    | [] => .ok []
  | .str size :: ds, bs =>
    let bs := bs.dropWhile isSpace
    let token := bs.takeWhile (!isSpace ·)
    if token = [] then .ok []
    else if size ≤ token.length then .error .outOfBounds
    else do
      let rest ← scan ds (bs.dropWhile (!isSpace ·))
      return .str token :: rest
  | .upTo c size :: ds, bs =>
    let token := bs.takeWhile (· ≠ c)
    if token = [] then .ok []
    else if size ≤ token.length then .error .outOfBounds
    else do
      let rest ← scan ds (bs.dropWhile (· ≠ c))
      return .str token :: rest
  | .skipUpTo c :: ds, bs =>
    if bs.takeWhile (· ≠ c) = [] then .ok [] else scan ds (bs.dropWhile (· ≠ c))
  | .u :: ds, bs =>
    match number (bs.dropWhile isSpace) with
    | none => .ok []
    | some (n, rest) => do
      let rest ← scan ds rest
      return .num (.ofNat n) :: rest
  | .hu :: ds, bs =>
    match number (bs.dropWhile isSpace) with
    | none => .ok []
    | some (n, rest) => do
      let rest ← scan ds rest
      return .num (.ofNat (n % 65536)) :: rest

/-- `sscanf`. -/
def sscanf (bs : Bytes) (format : List Directive) : Except Fault (List Value) :=
  scan format (cstr bs)

/-- What stands in front of the first byte that fails a test. -/
theorem takeWhile_append_stop {test : UInt8 → Bool} {text rest : Bytes}
    (htext : ∀ b ∈ text, test b = true) (hrest : ∀ b, rest.head? = some b → test b = false) :
    (text ++ rest).takeWhile test = text ∧ (text ++ rest).dropWhile test = rest := by
  have hstop : rest.takeWhile test = [] ∧ rest.dropWhile test = rest := by
    cases rest with
    | nil => exact ⟨rfl, rfl⟩
    | cons b rest =>
      have hb : ¬ test b = true := by rw [hrest b rfl]; exact Bool.false_ne_true
      exact ⟨List.takeWhile_cons_of_neg hb, List.dropWhile_cons_of_neg hb⟩
  rw [List.takeWhile_append_of_pos htext, List.dropWhile_append_of_pos htext, hstop.1, hstop.2,
    List.append_nil]
  exact ⟨rfl, rfl⟩

/-- A number that fits is read as it is. -/
theorem strtoul_of_lt {v : ℕ} (h : v < 4294967296) : strtoul false v = v := by
  have hpow : ¬ (2 ^ 64 ≤ v) := by omega
  rw [strtoul, if_neg hpow]
  rfl

/-- Whether a directive writes into an array. -/
def Directive.stores : Directive → Bool
  | .str _ | .upTo _ _ => true
  | _ => false

/-- **A format without string conversions never fails.** -/
theorem scan_isOk {ds : List Directive} (h : ∀ d ∈ ds, d.stores = false) (bs : Bytes) :
    ∃ vs, scan ds bs = .ok vs := by
  induction ds generalizing bs with
  | nil => exact ⟨[], rfl⟩
  | cons d ds ih =>
    have htail : ∀ bs, ∃ vs, scan ds bs = .ok vs := ih fun d hd => h d (List.mem_cons_of_mem _ hd)
    have hhead := h d List.mem_cons_self
    cases d with
    | space => exact htail _
    | lit c =>
      cases bs with
      | nil => exact ⟨[], rfl⟩
      | cons b rest =>
        by_cases hb : b = c
        · simp only [scan, if_pos hb]; exact htail _
        · simp only [scan, if_neg hb]; exact ⟨[], rfl⟩
    | str size => cases hhead
    | upTo c size => cases hhead
    | skipUpTo c =>
      by_cases ht : bs.takeWhile (· ≠ c) = []
      · simp only [scan, if_pos ht]; exact ⟨[], rfl⟩
      · simp only [scan, if_neg ht]; exact htail _
    | u =>
      cases hn : number (bs.dropWhile isSpace) with
      | none => simp only [scan, hn]; exact ⟨[], rfl⟩
      | some r =>
        obtain ⟨vs, hvs⟩ := htail r.2
        exact ⟨.num (.ofNat r.1) :: vs, by simp only [scan, hn, hvs]; rfl⟩
    | hu =>
      cases hn : number (bs.dropWhile isSpace) with
      | none => simp only [scan, hn]; exact ⟨[], rfl⟩
      | some r =>
        obtain ⟨vs, hvs⟩ := htail r.2
        exact ⟨.num (.ofNat (r.1 % 65536)) :: vs, by simp only [scan, hn, hvs]; rfl⟩

/-- `sscanf` with a format that stores numbers only; such a format never
fails. -/
def sscanfNumbers (bs : Bytes) (format : List Directive) : List Value :=
  match sscanf bs format with
  | .ok vs => vs
  | .error _ => []

/-- No failure is thrown away by `sscanfNumbers`: such a format has none. -/
theorem sscanf_eq_sscanfNumbers {format : List Directive}
    (h : ∀ d ∈ format, d.stores = false) (bs : Bytes) :
    sscanf bs format = .ok (sscanfNumbers bs format) := by
  obtain ⟨vs, hvs⟩ := scan_isOk h (cstr bs)
  unfold sscanfNumbers sscanf
  rw [hvs]

end Scanf
