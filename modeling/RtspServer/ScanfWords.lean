import Mathlib.Data.List.DropRight
import RtspServer.Scanf

/-!
# Words and numerals in scanned strings

`%s` takes the first *word* of what is left of a string: the bytes up to the
next white space. What a string conversion does is said here by cutting the
string (`firstWord`, `afterWord` for `%s`, and the part in front of a
character for `%[^c]`), without hypotheses on the string, and from it how a
conversion reads a word or a numeral that stands in front of a known text.
-/

namespace Scanf

/-- **A word**: a non-empty string without white space and NUL. -/
structure IsWord (bs : Bytes) : Prop where
  ne_nil : bs ≠ []
  not_isSpace : ∀ b ∈ bs, isSpace b = false
  nul_notMem : 0 ∉ bs

instance (bs : Bytes) : Decidable (IsWord bs) :=
  decidable_of_iff (bs ≠ [] ∧ (∀ b ∈ bs, isSpace b = false) ∧ 0 ∉ bs)
    ⟨fun ⟨h, h', h''⟩ => ⟨h, h', h''⟩, fun ⟨h, h', h''⟩ => ⟨h, h', h''⟩⟩

/-- **A numeral**: a non-empty string of digits. -/
structure IsNumeral (bs : Bytes) : Prop where
  ne_nil : bs ≠ []
  isDigit : ∀ b ∈ bs, isDigit b = true

instance (bs : Bytes) : Decidable (IsNumeral bs) :=
  decidable_of_iff (bs ≠ [] ∧ ∀ b ∈ bs, Scanf.isDigit b = true)
    ⟨fun ⟨h, h'⟩ => ⟨h, h'⟩, fun ⟨h, h'⟩ => ⟨h, h'⟩⟩

/-- The word a string begins with, after white space; empty when there is
none. -/
def firstWord (bs : Bytes) : Bytes := (bs.dropWhile isSpace).takeWhile (!isSpace ·)

/-- What follows the first word. -/
def afterWord (bs : Bytes) : Bytes := (bs.dropWhile isSpace).dropWhile (!isSpace ·)

/-! ## Cutting a string -/

@[simp] theorem firstWord_dropWhile (bs : Bytes) :
    firstWord (bs.dropWhile isSpace) = firstWord bs := by
  unfold firstWord
  rw [List.dropWhile_idempotent]

@[simp] theorem afterWord_dropWhile (bs : Bytes) :
    afterWord (bs.dropWhile isSpace) = afterWord bs := by
  unfold afterWord
  rw [List.dropWhile_idempotent]

/-- A string without a first word has no second one. -/
theorem firstWord_afterWord {bs : Bytes} (h : firstWord bs = []) :
    firstWord (afterWord bs) = [] := by
  have hnil : bs.dropWhile isSpace = [] := by
    cases hd : bs.dropWhile isSpace with
    | nil => rfl
    | cons b rest =>
      have hb : isSpace b = false := by
        have hhead := List.head_dropWhile_not isSpace (l := bs)
          (by rw [hd]; exact List.cons_ne_nil _ _)
        simpa [hd] using hhead
      rw [firstWord, hd, List.takeWhile_cons_of_pos (by rw [hb]; rfl)] at h
      cases h
  rw [afterWord, hnil]
  rfl

/-- No white space stands in front of a word. -/
theorem IsWord.dropWhile {word : Bytes} (h : IsWord word) (rest : Bytes) :
    (word ++ rest).dropWhile isSpace = word ++ rest := by
  obtain ⟨b, bs, rfl⟩ := List.exists_cons_of_ne_nil h.ne_nil
  have hb : ¬ isSpace b = true := by
    rw [h.not_isSpace b List.mem_cons_self]
    exact Bool.false_ne_true
  exact List.dropWhile_cons_of_neg hb

/-- **A word in front of white space or the end** is the first word. -/
theorem IsWord.firstWord {word rest : Bytes} (h : IsWord word)
    (hrest : ∀ b, rest.head? = some b → isSpace b = true) :
    firstWord (word ++ rest) = word ∧ afterWord (word ++ rest) = rest := by
  unfold Scanf.firstWord afterWord
  rw [h.dropWhile]
  refine takeWhile_append_stop (fun b hb => ?_) fun b hb => ?_
  · rw [h.not_isSpace b hb]
    rfl
  · rw [hrest b hb]
    rfl

theorem IsWord.append {bs cs : Bytes} (h : IsWord bs) (h' : IsWord cs) : IsWord (bs ++ cs) := by
  refine ⟨fun hnil => h.ne_nil (List.append_eq_nil_iff.mp hnil).1, fun b hb => ?_, fun hb => ?_⟩
  · rcases List.mem_append.mp hb with hb | hb
    · exact h.not_isSpace b hb
    · exact h'.not_isSpace b hb
  · rcases List.mem_append.mp hb with hb | hb
    · exact h.nul_notMem hb
    · exact h'.nul_notMem hb

/-- What stands in front of the first `c`. -/
theorem takeWhile_ne_append {c : UInt8} {text : Bytes} (hc : c ∉ text) (rest : Bytes) :
    (text ++ c :: rest).takeWhile (· ≠ c) = text ∧
    (text ++ c :: rest).dropWhile (· ≠ c) = c :: rest := by
  refine takeWhile_append_stop (fun b hb => decide_eq_true fun h => hc (h ▸ hb)) ?_
  rintro b ⟨rfl⟩
  exact decide_eq_false (not_not_intro rfl)

/-- What follows the first `c` of a string that has one. -/
theorem dropWhile_eq_cons {c b : UInt8} {bs rest : Bytes} (h : bs.dropWhile (· ≠ c) = b :: rest) :
    b = c := by
  have hhead := List.head?_dropWhile_not (· ≠ c) bs
  rw [h] at hhead
  simpa using hhead

/-- A string without NUL is read to its end. -/
theorem cstr_of_notMem {bs : Bytes} (h : 0 ∉ bs) : cstr bs = bs :=
  List.takeWhile_eq_self_iff.mpr fun _ hb => decide_eq_true fun h0 => h (h0 ▸ hb)

/-! ## String conversions -/

/-- **`%s`**, by the first word. -/
theorem scan_str_eq (size : ℕ) (ds : List Directive) (bs : Bytes) :
    scan (.str size :: ds) bs =
      if firstWord bs = [] then .ok []
      else if size ≤ (firstWord bs).length then .error .outOfBounds
      else (scan ds (afterWord bs)).map (.str (firstWord bs) :: ·) := by
  show (if firstWord bs = [] then _ else if size ≤ (firstWord bs).length then _ else _) = _
  by_cases hnil : firstWord bs = []
  · rw [if_pos hnil, if_pos hnil]
  · rw [if_neg hnil, if_neg hnil]
    by_cases hsize : size ≤ (firstWord bs).length
    · rw [if_pos hsize, if_pos hsize]
    · rw [if_neg hsize, if_neg hsize]
      show (do let rest ← scan ds (afterWord bs); return Value.str (firstWord bs) :: rest) = _
      cases scan ds (afterWord bs) <;> rfl

/-- **`%[^c]`**, by what stands in front of the first `c`. -/
theorem scan_upTo_eq (c : UInt8) (size : ℕ) (ds : List Directive) (bs : Bytes) :
    scan (.upTo c size :: ds) bs =
      if bs.takeWhile (· ≠ c) = [] then .ok []
      else if size ≤ (bs.takeWhile (· ≠ c)).length then .error .outOfBounds
      else (scan ds (bs.dropWhile (· ≠ c))).map (.str (bs.takeWhile (· ≠ c)) :: ·) := by
  simp only [scan]
  by_cases hnil : bs.takeWhile (· ≠ c) = []
  · rw [if_pos hnil, if_pos hnil]
  · rw [if_neg hnil, if_neg hnil]
    by_cases hsize : size ≤ (bs.takeWhile (· ≠ c)).length
    · rw [if_pos hsize, if_pos hsize]
    · rw [if_neg hsize, if_neg hsize]
      cases scan ds (bs.dropWhile (· ≠ c)) <;> rfl

/-- `%s` in front of a word that fits. -/
theorem scan_str_word {word rest : Bytes} (h : IsWord word)
    (hrest : ∀ b, rest.head? = some b → isSpace b = true) {size : ℕ} (hsize : word.length < size)
    (ds : List Directive) :
    scan (.str size :: ds) (word ++ rest) = (scan ds rest).map (.str word :: ·) := by
  obtain ⟨hfirst, hafter⟩ := h.firstWord hrest
  rw [scan_str_eq, hfirst, hafter, if_neg h.ne_nil, if_neg (Nat.not_le.mpr hsize)]

/-- `%s` in front of a word that does not fit. -/
theorem scan_str_word_of_le {word rest : Bytes} (h : IsWord word)
    (hrest : ∀ b, rest.head? = some b → isSpace b = true) {size : ℕ} (hsize : size ≤ word.length)
    (ds : List Directive) : scan (.str size :: ds) (word ++ rest) = .error .outOfBounds := by
  obtain ⟨hfirst, -⟩ := h.firstWord hrest
  rw [scan_str_eq, hfirst, if_neg h.ne_nil, if_pos hsize]

/-- A blank in front of a word is skipped. -/
theorem scan_space_word {word : Bytes} (h : IsWord word) (rest : Bytes) (ds : List Directive) :
    scan (.space :: ds) ([0x20] ++ (word ++ rest)) = scan ds (word ++ rest) := by
  show scan ds ((0x20 :: (word ++ rest)).dropWhile isSpace) = _
  rw [List.dropWhile_cons_of_pos (by decide), h.dropWhile]

/-! ## Numerals -/

theorem isSpace_of_isDigit {b : UInt8} (h : isDigit b = true) : isSpace b = false := by
  simp only [isDigit, Bool.and_eq_true, decide_eq_true_eq, UInt8.le_iff_toNat_le] at h
  simp only [isSpace, Bool.or_eq_false_iff, beq_eq_false_iff_ne, Bool.and_eq_false_iff,
    decide_eq_false_iff_not, UInt8.le_iff_toNat_le, ne_eq, ← UInt8.toNat_inj]
  simp only [UInt8.reduceToNat] at h ⊢
  omega

/-- A numeral is a word. -/
theorem IsNumeral.isWord {ds : Bytes} (h : IsNumeral ds) : IsWord ds :=
  ⟨h.ne_nil, fun b hb => isSpace_of_isDigit (h.isDigit b hb), fun hb => by
    have hdigit := h.isDigit 0 hb
    cases hdigit⟩

/-- **A numeral is read as its value**, up to the bound of `strtoul`. -/
theorem IsNumeral.number {ds rest : Bytes} (h : IsNumeral ds)
    (hrest : ∀ b, rest.head? = some b → Scanf.isDigit b = false) :
    number (ds ++ rest) = some (strtoul false (decimalValue ds), rest) := by
  obtain ⟨htake, hdrop⟩ := takeWhile_append_stop h.isDigit hrest
  obtain ⟨b, bs, hb⟩ := List.exists_cons_of_ne_nil h.ne_nil
  have hdigit : Scanf.isDigit b = true := h.isDigit b (hb ▸ List.mem_cons_self)
  have hminus : b ≠ 0x2d := by rintro rfl; cases hdigit
  have hplus : b ≠ 0x2b := by rintro rfl; cases hdigit
  have hcons : ds ++ rest = b :: (bs ++ rest) := by rw [hb]; rfl
  rw [hcons] at htake hdrop ⊢
  unfold Scanf.number
  dsimp only
  rw [if_neg hminus, if_neg hplus, htake, hdrop, if_neg h.ne_nil]

/-- The digits that a string begins with, and what follows them. -/
theorem takeWhile_isDigit_iff {bs rest : Bytes} :
    (bs.takeWhile isDigit ≠ [] ∧ bs.dropWhile isDigit = rest) ↔
      ∃ digits, IsNumeral digits ∧ bs = digits ++ rest ∧
        ∀ b, rest.head? = some b → isDigit b = false := by
  constructor
  · rintro ⟨hne, rfl⟩
    refine ⟨bs.takeWhile isDigit, ⟨hne, fun b hb => List.mem_takeWhile_imp hb⟩,
      List.takeWhile_append_dropWhile.symm, fun b hb => ?_⟩
    have hhead := List.head?_dropWhile_not isDigit bs
    rw [hb] at hhead
    simpa using hhead
  · rintro ⟨digits, hdigits, rfl, hrest⟩
    obtain ⟨htake, hdrop⟩ := takeWhile_append_stop hdigits.isDigit hrest
    rw [htake]
    exact ⟨hdigits.ne_nil, hdrop⟩

/-- **What is read as a number**: digits, with or without a sign. -/
theorem number_eq_some_iff {bs rest : Bytes} : (∃ v, number bs = some (v, rest)) ↔
    ∃ sign digits, (sign = [] ∨ sign = [0x2d] ∨ sign = [0x2b]) ∧ IsNumeral digits ∧
      bs = sign ++ (digits ++ rest) ∧ ∀ b, rest.head? = some b → isDigit b = false := by
  have hunsigned : ∀ (neg : Bool) (bs : Bytes), (∃ v, (if bs.takeWhile isDigit = [] then none
      else some (strtoul neg (decimalValue (bs.takeWhile isDigit)), bs.dropWhile isDigit))
        = some (v, rest)) ↔ bs.takeWhile isDigit ≠ [] ∧ bs.dropWhile isDigit = rest := by
    intro neg bs
    by_cases h : bs.takeWhile isDigit = [] <;> simp [h]
  constructor
  · rintro ⟨v, hv⟩
    cases bs with
    | nil => cases hv
    | cons b bs =>
      unfold number at hv
      dsimp only at hv
      split at hv
      · next hb =>
        obtain ⟨digits, hdigits, rfl, hrest⟩ :=
          takeWhile_isDigit_iff.mp ((hunsigned _ _).mp ⟨v, hv⟩)
        exact ⟨[0x2d], digits, .inr (.inl rfl), hdigits, by rw [hb]; rfl, hrest⟩
      · split at hv
        · next hb =>
          obtain ⟨digits, hdigits, rfl, hrest⟩ :=
            takeWhile_isDigit_iff.mp ((hunsigned _ _).mp ⟨v, hv⟩)
          exact ⟨[0x2b], digits, .inr (.inr rfl), hdigits, by rw [hb]; rfl, hrest⟩
        · obtain ⟨digits, hdigits, hbs, hrest⟩ :=
            takeWhile_isDigit_iff.mp ((hunsigned _ _).mp ⟨v, hv⟩)
          exact ⟨[], digits, .inl rfl, hdigits, hbs, hrest⟩
  · rintro ⟨sign, digits, hsign, hdigits, rfl, hrest⟩
    have hdrop := takeWhile_isDigit_iff.mpr ⟨digits, hdigits, rfl, hrest⟩
    rcases hsign with rfl | rfl | rfl
    · exact ⟨_, hdigits.number hrest⟩
    · exact (hunsigned true _).mpr hdrop
    · exact (hunsigned false _).mpr hdrop

/-- `%hu` in front of a numeral of 16 bits. -/
theorem scan_hu_numeral {ds : Bytes} (h : IsNumeral ds) (hlt : decimalValue ds < 65536)
    {rest : Bytes} (hrest : ∀ b, rest.head? = some b → isDigit b = false) (fs : List Directive) :
    scan (.hu :: fs) (ds ++ rest)
      = (scan fs rest).map (.num (.ofNat (decimalValue ds)) :: ·) := by
  have h32 : decimalValue ds < 4294967296 := by omega
  simp only [scan, h.isWord.dropWhile, h.number hrest, strtoul_of_lt h32, Nat.mod_eq_of_lt hlt]
  cases scan fs rest <;> rfl

/-! ## Skipping to a character -/

/-- What follows the first `c`, when something stands in front of it: what
`%*[^c]` and a literal `c` leave. -/
def skipPast (c : UInt8) (bs : Bytes) : Option Bytes :=
  match bs.dropWhile (· ≠ c) with
  | [] => none
  | _ :: rest => if bs.takeWhile (· ≠ c) = [] then none else some rest

theorem scan_skipPast (c : UInt8) (ds : List Directive) (bs : Bytes) :
    scan (.skipUpTo c :: .lit c :: ds) bs =
      match skipPast c bs with
      | some rest => scan ds rest
      | none => .ok [] := by
  unfold skipPast
  simp only [scan]
  cases hdrop : bs.dropWhile (· ≠ c) with
  | nil =>
    dsimp only
    split <;> rfl
  | cons b rest =>
    have hb : b = c := dropWhile_eq_cons hdrop
    dsimp only
    by_cases hnil : bs.takeWhile (· ≠ c) = []
    · rw [if_pos hnil, if_pos hnil]
    · rw [if_neg hnil, if_neg hnil, if_pos hb]

/-- What is skipped is the part in front of the first `c`. -/
theorem skipPast_eq_some_iff {c : UInt8} {bs rest : Bytes} : skipPast c bs = some rest ↔
    ∃ text, bs = text ++ c :: rest ∧ text ≠ [] ∧ c ∉ text := by
  constructor
  · intro h
    unfold skipPast at h
    split at h
    · cases h
    · next b rest' hdrop =>
      split at h
      · cases h
      · next hne =>
        cases h
        obtain rfl := dropWhile_eq_cons hdrop
        refine ⟨bs.takeWhile (· ≠ b), ?_, hne, fun hmem => ?_⟩
        · rw [← hdrop, List.takeWhile_append_dropWhile]
        · simpa using List.mem_takeWhile_imp hmem
  · rintro ⟨text, rfl, hne, hc⟩
    obtain ⟨htake, hdrop⟩ := takeWhile_ne_append hc rest
    unfold skipPast
    rw [htake, hdrop]
    dsimp only
    rw [if_neg hne]

/-- **A character that is there is found there**, whatever follows. -/
theorem skipPast_append {c : UInt8} {bs : Bytes} (h : c ∈ bs) (rest : Bytes) :
    skipPast c (bs ++ rest) = (skipPast c bs).map (· ++ rest) := by
  obtain ⟨text, tail, rfl, hc⟩ := List.eq_append_cons_of_mem h
  obtain ⟨htake, hdrop⟩ := takeWhile_ne_append hc tail
  obtain ⟨htake', hdrop'⟩ := takeWhile_ne_append hc (tail ++ rest)
  unfold skipPast
  rw [List.append_assoc, List.cons_append, htake, hdrop, htake', hdrop']
  dsimp only
  split <;> rfl

/-- Digits end in front of a byte that is none, whatever follows it. -/
theorem takeWhile_isDigit_append {bs : Bytes} {b : UInt8} (hmem : b ∈ bs)
    (hdigit : isDigit b = false) (rest : Bytes) :
    (bs ++ rest).takeWhile isDigit = bs.takeWhile isDigit ∧
    (bs ++ rest).dropWhile isDigit = bs.dropWhile isDigit ++ rest := by
  have hin : b ∈ bs.dropWhile isDigit := by
    rw [← List.takeWhile_append_dropWhile (p := isDigit) (l := bs)] at hmem
    rcases List.mem_append.mp hmem with h | h
    · rw [List.mem_takeWhile_imp h] at hdigit
      cases hdigit
    · exact h
  have hstop : ∀ c, (bs.dropWhile isDigit ++ rest).head? = some c → isDigit c = false := by
    intro c hc
    obtain ⟨c', tail, hdrop⟩ := List.exists_cons_of_ne_nil (List.ne_nil_of_mem hin)
    have hhead := List.head?_dropWhile_not isDigit bs
    rw [hdrop] at hc hhead
    cases hc
    simpa using hhead
  have hcut := takeWhile_append_stop
    (fun c (hc : c ∈ bs.takeWhile isDigit) => List.mem_takeWhile_imp hc) hstop
  rw [← List.append_assoc, List.takeWhile_append_dropWhile] at hcut
  exact hcut

/-- A byte that a number cannot have is behind it. -/
theorem mem_of_number {bs : Bytes} {b : UInt8} (hmem : b ∈ bs) (hdigit : isDigit b = false)
    (hsign : b ≠ 0x2d ∧ b ≠ 0x2b) {v : ℕ} {tail : Bytes} (hv : number bs = some (v, tail)) :
    b ∈ tail := by
  obtain ⟨sign, digits, hsigns, hdigits, rfl, -⟩ := number_eq_some_iff.mp ⟨v, hv⟩
  rcases List.mem_append.mp hmem with h | h
  · rcases hsigns with rfl | rfl | rfl
    · cases h
    · exact absurd (List.mem_singleton.mp h) hsign.1
    · exact absurd (List.mem_singleton.mp h) hsign.2
  · rcases List.mem_append.mp h with h | h
    · rw [hdigits.isDigit b h] at hdigit
      cases hdigit
    · exact h

/-- **A number ends in front of a byte that it cannot have**, whatever follows
it. -/
theorem number_append {bs : Bytes} {b : UInt8} (hmem : b ∈ bs) (hdigit : isDigit b = false)
    (hsign : b ≠ 0x2d ∧ b ≠ 0x2b) (rest : Bytes) :
    number (bs ++ rest) = (number bs).map (fun res => (res.1, res.2 ++ rest)) := by
  have hunsigned : ∀ (neg : Bool) {cs : Bytes}, b ∈ cs →
      (if (cs ++ rest).takeWhile isDigit = [] then none
        else some (strtoul neg (decimalValue ((cs ++ rest).takeWhile isDigit)),
          (cs ++ rest).dropWhile isDigit))
        = (if cs.takeWhile isDigit = [] then none
          else some (strtoul neg (decimalValue (cs.takeWhile isDigit)), cs.dropWhile isDigit)).map
            (fun res => (res.1, res.2 ++ rest)) := by
    intro neg cs hcs
    obtain ⟨htake, hdrop⟩ := takeWhile_isDigit_append hcs hdigit rest
    rw [htake, hdrop]
    split <;> rfl
  obtain ⟨c, bs, rfl⟩ := List.exists_cons_of_ne_nil (List.ne_nil_of_mem hmem)
  have hrest : c = 0x2d ∨ c = 0x2b → b ∈ bs := by
    intro hc
    refine (List.mem_cons.mp hmem).resolve_left fun h => ?_
    exact hc.elim (fun hminus => hsign.1 (h.trans hminus)) fun hplus => hsign.2 (h.trans hplus)
  unfold number
  rw [List.cons_append]
  dsimp only
  by_cases hminus : c = 0x2d
  · rw [if_pos hminus, if_pos hminus]
    exact hunsigned true (hrest (.inl hminus))
  · rw [if_neg hminus, if_neg hminus]
    by_cases hplus : c = 0x2b
    · rw [if_pos hplus, if_pos hplus]
      exact hunsigned false (hrest (.inr hplus))
    · rw [if_neg hplus, if_neg hplus]
      exact hunsigned false hmem

end Scanf
