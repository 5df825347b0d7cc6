import RtspServer.HeaderReading

/-!
# A transport at the end of a text

The numbers of a transport stand behind its third part. The scan for them
(`scanPair`) is a scan for three parts and one for two numbers
(`scanPair_eq`), and goes as far as it has to, over the ends of lines. It ends
in its line when the line has both numbers (`numberPair_append_of_some`).

A call of the parser gives a text without the end of its last line. This end
makes no difference to any of the searches (`completes_append_crlf`), so that
the text of a call may be taken for the lines it has.
-/

open Scanf

namespace Scanf

/-- What follows an occurrence of `c` is left when the first one is passed. -/
theorem suffix_of_skipPast {c : UInt8} {before after rest : Bytes}
    (h : skipPast c (before ++ c :: after) = some rest) : after <:+ rest := by
  obtain ⟨text, heq, -, hc⟩ := skipPast_eq_some_iff.mp h
  have hlen : text.length ≤ before.length := by
    by_contra hlong
    -- the other occurrence would stand in front of the first one
    have hget : text[before.length]? = some c := by
      have hat : (text ++ c :: rest)[before.length]? = text[before.length]? :=
        List.getElem?_append_left (by omega)
      rw [← hat, ← heq]
      simp
    exact hc (List.mem_of_getElem? hget)
  refine List.suffix_of_suffix_length_le (⟨before ++ [c], by simp⟩ : after <:+ before ++ c :: after)
    ⟨text ++ [c], by rw [heq]; simp⟩ ?_
  have htotal := congrArg List.length heq
  simp only [List.length_append, List.length_cons] at htotal
  omega

/-- White space in front of a byte that is none is skipped up to it. -/
theorem mem_dropWhile_isSpace {bs : Bytes} {b : UInt8} (h : b ∈ bs) (hb : isSpace b = false) :
    b ∈ bs.dropWhile isSpace := by
  rw [← List.takeWhile_append_dropWhile (p := isSpace) (l := bs)] at h
  rcases List.mem_append.mp h with h | h
  · rw [List.mem_takeWhile_imp h] at hb
    cases hb
  · exact h

theorem dropWhile_isSpace_append {bs : Bytes} (h : bs.dropWhile isSpace ≠ []) (rest : Bytes) :
    (bs ++ rest).dropWhile isSpace = bs.dropWhile isSpace ++ rest := by
  rw [List.dropWhile_append, if_neg (by simpa using h)]

/-! ## The numbers of a transport -/

/-- Two numbers with a dash between them, in front of a text. -/
def numberPair (bs : Bytes) : Option (UInt32 × UInt32) :=
  match number (bs.dropWhile isSpace) with
  | some (a, c :: rest) =>
    if c = 0x2d then
      (number (rest.dropWhile isSpace)).map fun res => (.ofNat (a % 65536), .ofNat (res.1 % 65536))
    else none
  | _ => none

/-- What follows the third part of a transport up to its `=`. -/
def pairText (bs : Bytes) : Option Bytes :=
  ((skipPast 0x3b bs).bind (skipPast 0x3b)).bind (skipPast 0x3d)

end Scanf

namespace RtspRequest

/-- The scan for two numbers. -/
theorem scan_numberPair (bs : Bytes) : ∃ vs, scan [.hu, .lit 0x2d, .hu] bs = .ok vs ∧
    (match vs with
      | [.num a, .num b] => some (a, b)
      | _ => none) = numberPair bs := by
  unfold numberPair
  simp only [scan]
  cases number (bs.dropWhile isSpace) with
  | none => exact ⟨[], rfl, rfl⟩
  | some res =>
    obtain ⟨a, rest⟩ := res
    cases rest with
    | nil => exact ⟨_, rfl, rfl⟩
    | cons c rest =>
      by_cases hc : c = 0x2d
      · simp only [if_pos hc]
        cases number (rest.dropWhile isSpace) with
        | none => exact ⟨_, rfl, rfl⟩
        | some res => exact ⟨_, rfl, rfl⟩
      · simp only [if_neg hc]
        exact ⟨_, rfl, rfl⟩

/-- **A scan for a transport** is one for three parts and one for two
numbers. -/
theorem scanPair_eq (text : Bytes) : scanPair text = (pairText (cstr text)).bind numberPair := by
  unfold scanPair sscanfNumbers sscanf pairText
  rw [scan_skipPast]
  cases skipPast 0x3b (cstr text) with
  | none => rfl
  | some first =>
    dsimp only
    rw [scan_skipPast, Option.bind_some]
    cases skipPast 0x3b first with
    | none => rfl
    | some second =>
      dsimp only
      rw [scan_skipPast, Option.bind_some]
      cases skipPast 0x3d second with
      | none => rfl
      | some third =>
        obtain ⟨vs, hvs, hpair⟩ := scan_numberPair third
        dsimp only
        rw [hvs]
        exact hpair

end RtspRequest

namespace Scanf

/-- Two numbers are not changed by what follows a byte that they cannot
have. -/
theorem numberPair_append {bs : Bytes} {b : UInt8} (hmem : b ∈ bs) (hspace : isSpace b = false)
    (hdigit : isDigit b = false) (hsign : b ≠ 0x2d ∧ b ≠ 0x2b) (rest : Bytes) :
    numberPair (bs ++ rest) = numberPair bs := by
  have hnumber : ∀ {cs : Bytes}, b ∈ cs → number ((cs ++ rest).dropWhile isSpace)
      = (number (cs.dropWhile isSpace)).map (fun res => (res.1, res.2 ++ rest)) ∧
      ∀ v tail, number (cs.dropWhile isSpace) = some (v, tail) → b ∈ tail := by
    intro cs hcs
    have hin := mem_dropWhile_isSpace hcs hspace
    rw [dropWhile_isSpace_append (List.ne_nil_of_mem hin)]
    exact ⟨number_append hin hdigit hsign rest,
      fun v tail => mem_of_number hin hdigit hsign⟩
  obtain ⟨heq, htail⟩ := hnumber hmem
  unfold numberPair
  rw [heq]
  cases hfirst : number (bs.dropWhile isSpace) with
  | none => rfl
  | some res =>
    obtain ⟨a, tail⟩ := res
    have hin := htail a tail hfirst
    obtain ⟨c, tail, rfl⟩ := List.exists_cons_of_ne_nil (List.ne_nil_of_mem hin)
    dsimp only [Option.map_some, List.cons_append]
    by_cases hc : c = 0x2d
    · rw [if_pos hc, if_pos hc,
        (hnumber ((List.mem_cons.mp hin).resolve_left fun h => hsign.1 (h.trans hc))).1]
      cases number (tail.dropWhile isSpace) <;> rfl
    · rw [if_neg hc, if_neg hc]

/-- **Two numbers that end in front of the end of a line** are not changed by
what follows. -/
theorem numberPair_append_of_some {bs : Bytes} (hend : [0x0a] <:+ bs) {ab : UInt32 × UInt32}
    (h : numberPair bs = some ab) (rest : Bytes) : numberPair (bs ++ rest) = some ab := by
  have hdrop : ∀ {cs : Bytes}, [0x0a] <:+ cs → cs.dropWhile isSpace ≠ [] →
      [0x0a] <:+ cs.dropWhile isSpace := fun hcs hne =>
    List.suffix_of_suffix_length_le hcs (List.dropWhile_suffix _) (List.length_pos_iff.mpr hne)
  have hnumber : ∀ {cs : Bytes} {v : ℕ} {tail : Bytes}, [0x0a] <:+ cs →
      number (cs.dropWhile isSpace) = some (v, tail) →
      number ((cs ++ rest).dropWhile isSpace) = some (v, tail ++ rest) ∧ 0x0a ∈ tail ∧
        tail <:+ cs := by
    intro cs v tail hcs hv
    have hne : cs.dropWhile isSpace ≠ [] := by
      intro hnil
      rw [hnil] at hv
      cases hv
    have hin : 0x0a ∈ cs.dropWhile isSpace := (hdrop hcs hne).subset List.mem_cons_self
    have heq := number_append hin (by decide) (by decide) rest
    obtain ⟨sign, digits, -, -, hcut, -⟩ := number_eq_some_iff.mp ⟨v, hv⟩
    refine ⟨?_, mem_of_number hin (by decide) (by decide) hv, ?_⟩
    · rw [dropWhile_isSpace_append hne, heq, hv]
      rfl
    · refine List.IsSuffix.trans ⟨sign ++ digits, ?_⟩ (List.dropWhile_suffix (l := cs) isSpace)
      rw [hcut, List.append_assoc]
  unfold numberPair at h ⊢
  cases hfirst : number (bs.dropWhile isSpace) with
  | none => rw [hfirst] at h; cases h
  | some res =>
    obtain ⟨a, tail⟩ := res
    obtain ⟨heq, hin, hsuffix⟩ := hnumber hend hfirst
    obtain ⟨c, tail, rfl⟩ := List.exists_cons_of_ne_nil (List.ne_nil_of_mem hin)
    rw [hfirst] at h
    rw [heq]
    dsimp only [List.cons_append] at h ⊢
    by_cases hc : c = 0x2d
    · rw [if_pos hc] at h ⊢
      obtain ⟨⟨b, tail'⟩, hsecond, rfl⟩ := Option.map_eq_some_iff.mp h
      have hne : tail ≠ [] := by
        rintro rfl
        cases hsecond
      have hend' : [0x0a] <:+ tail := List.suffix_of_suffix_length_le hend
        ((List.suffix_cons c tail).trans hsuffix) (List.length_pos_iff.mpr hne)
      rw [(hnumber hend' hsecond).1]
      rfl
    · rw [if_neg hc] at h
      cases h

/-- What is found after the three parts stands at the end of the text. -/
theorem pairText_spec {bs third : Bytes} (h : pairText bs = some third) (rest : Bytes) :
    third <:+ bs ∧ pairText (bs ++ rest) = some (third ++ rest) := by
  have hskip : ∀ {c : UInt8} {cs tail : Bytes}, skipPast c cs = some tail →
      tail <:+ cs ∧ skipPast c (cs ++ rest) = some (tail ++ rest) := by
    intro c cs tail hcs
    obtain ⟨text, heq, -, -⟩ := skipPast_eq_some_iff.mp hcs
    refine ⟨⟨text ++ [c], by rw [heq]; simp⟩, ?_⟩
    rw [skipPast_append (by rw [heq]; simp), hcs, Option.map_some]
  unfold pairText at h ⊢
  obtain ⟨second, hsecond, hthird⟩ := Option.bind_eq_some_iff.mp h
  obtain ⟨first, hfirst, hsecond⟩ := Option.bind_eq_some_iff.mp hsecond
  obtain ⟨hsuffix₁, hread₁⟩ := hskip hfirst
  obtain ⟨hsuffix₂, hread₂⟩ := hskip hsecond
  obtain ⟨hsuffix₃, hread₃⟩ := hskip hthird
  rw [hread₁, Option.bind_some, hread₂, Option.bind_some, hread₃]
  exact ⟨hsuffix₃.trans (hsuffix₂.trans hsuffix₁), rfl⟩

/-- A string with a NUL ends there. -/
theorem cstr_append_of_mem {bs : Bytes} (h : 0 ∈ bs) (rest : Bytes) :
    cstr (bs ++ rest) = cstr bs := by
  obtain ⟨text, tail, rfl, hnul⟩ := List.eq_append_cons_of_mem h
  rw [List.append_assoc, cstr_append hnul, cstr_append hnul]
  rfl

end Scanf

namespace RtspRequest

/-- **A number that is looked for behind a colon** in front of a `CSeq` line is
not the number of the line. -/
theorem sscanfNumbers_decoy {bs : Bytes} (h : 0x3a ∈ bs ∨ 0 ∈ bs) (rest rest' : Bytes) :
    sscanfNumbers (bs ++ (ascii "CSeq: " ++ rest)) [.skipUpTo 0x3a, .lit 0x3a, .space, .u]
      = sscanfNumbers (bs ++ (ascii "CSeq: " ++ rest')) [.skipUpTo 0x3a, .lit 0x3a, .space, .u] := by
  have hsame : ∀ rest, sscanfNumbers (bs ++ (ascii "CSeq: " ++ rest))
      [.skipUpTo 0x3a, .lit 0x3a, .space, .u]
      = sscanfNumbers (bs ++ ascii "CSeq: ") [.skipUpTo 0x3a, .lit 0x3a, .space, .u] := by
    intro rest
    unfold sscanfNumbers sscanf
    by_cases hnul : 0 ∈ bs
    · rw [cstr_append_of_mem hnul, cstr_append_of_mem hnul]
    · have hcolon : 0x3a ∈ bs := h.resolve_right hnul
      rw [cstr_append hnul, cstr_append (by decide), cstr_append hnul,
        show cstr (ascii "CSeq: ") = ascii "CSeq: " from rfl, scan_skipPast, scan_skipPast,
        skipPast_append hcolon, skipPast_append hcolon]
      generalize cstr rest = rest
      cases skipPast 0x3a bs with
      | none => rfl
      | some tail =>
        have hin : 0x43 ∈ (tail ++ ascii "CSeq: ").dropWhile isSpace :=
          mem_dropWhile_isSpace (List.mem_append_right _ List.mem_cons_self) (by decide)
        have hnumber := number_append hin (by decide) (by decide) rest
        have hdrop := dropWhile_isSpace_append (List.ne_nil_of_mem hin) rest
        rw [Option.map_some, Option.map_some, ← List.append_assoc]
        dsimp only [scan]
        rw [List.dropWhile_idempotent, List.dropWhile_idempotent, hdrop, hnumber]
        cases number ((tail ++ ascii "CSeq: ").dropWhile isSpace) <;> rfl
  rw [hsame, hsame]

end RtspRequest

/-! ## The end of the last line -/

namespace Search

variable {α : Type*} [DecidableEq α] {pat sep : List α}

/-- A pattern is not found in a separator. -/
theorem find_append_end (hsep : sep ≠ []) (hpat : pat ≠ []) (hdisj : ∀ a ∈ sep, a ∉ pat)
    (l : List α) : find pat (l ++ sep) = find pat l := by
  cases hfind : find pat l with
  | some i => exact find_append_of_some hfind
  | none =>
    rw [find_eq_none_iff_not_isInfix] at hfind ⊢
    intro hin
    rw [← List.append_nil sep] at hin
    rcases (isInfix_append_sep hsep hpat hdisj).mp hin with hin | hin
    · exact hfind hin
    · exact hpat (List.infix_nil.mp hin)

end Search

namespace Scanf

theorem skipPast_append_crlf {c : UInt8} (hc : c ∉ crlf) (bs : Bytes) :
    skipPast c (bs ++ crlf) = (skipPast c bs).map (· ++ crlf) := by
  by_cases hmem : c ∈ bs
  · exact skipPast_append hmem crlf
  · have hnone : ∀ {cs : Bytes}, c ∉ cs → skipPast c cs = none := by
      intro cs hcs
      by_contra hsome
      obtain ⟨rest, hrest⟩ := Option.ne_none_iff_exists'.mp hsome
      obtain ⟨text, rfl, -, -⟩ := skipPast_eq_some_iff.mp hrest
      exact hcs (by simp)
    rw [hnone hmem, hnone (by simp [hmem, hc])]
    rfl

/-- A number ends in front of the end of a line. -/
theorem number_append_crlf (bs : Bytes) :
    number (bs ++ crlf) = (number bs).map fun res => (res.1, res.2 ++ crlf) := by
  have hcut : ∀ cs : Bytes, (cs ++ crlf).takeWhile isDigit = cs.takeWhile isDigit ∧
      (cs ++ crlf).dropWhile isDigit = cs.dropWhile isDigit ++ crlf := by
    intro cs
    have hstop : ∀ b, (cs.dropWhile isDigit ++ crlf).head? = some b → isDigit b = false := by
      intro b hb
      have hhead := List.head?_dropWhile_not isDigit cs
      cases hdrop : cs.dropWhile isDigit with
      | nil =>
        rw [hdrop] at hb
        cases hb
        rfl
      | cons b' rest =>
        rw [hdrop] at hb hhead
        cases hb
        simpa using hhead
    have hboth := takeWhile_append_stop
      (fun b (hb : b ∈ cs.takeWhile isDigit) => List.mem_takeWhile_imp hb) hstop
    rw [← List.append_assoc, List.takeWhile_append_dropWhile] at hboth
    exact hboth
  have hunsigned : ∀ (neg : Bool) (cs : Bytes),
      (if (cs ++ crlf).takeWhile isDigit = [] then none
        else some (strtoul neg (decimalValue ((cs ++ crlf).takeWhile isDigit)),
          (cs ++ crlf).dropWhile isDigit))
        = (if cs.takeWhile isDigit = [] then none
          else some (strtoul neg (decimalValue (cs.takeWhile isDigit)), cs.dropWhile isDigit)).map
            (fun res => (res.1, res.2 ++ crlf)) := by
    intro neg cs
    rw [(hcut cs).1, (hcut cs).2]
    split <;> rfl
  cases bs with
  | nil => rfl
  | cons c bs =>
    unfold number
    rw [List.cons_append]
    dsimp only
    by_cases hminus : c = 0x2d
    · rw [if_pos hminus, if_pos hminus]
      exact hunsigned true bs
    · rw [if_neg hminus, if_neg hminus]
      by_cases hplus : c = 0x2b
      · rw [if_pos hplus, if_pos hplus]
        exact hunsigned false bs
      · rw [if_neg hplus, if_neg hplus]
        exact hunsigned false (c :: bs)

/-- White space and a number, in front of the end of a line. -/
theorem number_dropWhile_append_crlf (bs : Bytes) : number ((bs ++ crlf).dropWhile isSpace)
    = (number (bs.dropWhile isSpace)).map fun res => (res.1, res.2 ++ crlf) := by
  by_cases hnil : bs.dropWhile isSpace = []
  · have hend : crlf.dropWhile isSpace = [] := rfl
    rw [List.dropWhile_append, hnil, if_pos List.isEmpty_nil, hend]
    rfl
  · rw [dropWhile_isSpace_append hnil, number_append_crlf]

theorem numberPair_append_crlf (bs : Bytes) : numberPair (bs ++ crlf) = numberPair bs := by
  unfold numberPair
  rw [number_dropWhile_append_crlf]
  cases number (bs.dropWhile isSpace) with
  | none => rfl
  | some res =>
    obtain ⟨a, tail⟩ := res
    cases tail with
    | nil => exact if_neg (by decide)
    | cons c tail =>
      dsimp only [Option.map_some, List.cons_append]
      by_cases hc : c = 0x2d
      · rw [if_pos hc, if_pos hc, number_dropWhile_append_crlf]
        cases number (tail.dropWhile isSpace) <;> rfl
      · rw [if_neg hc, if_neg hc]

/-- A string and the end of its last line. -/
theorem cstr_append_crlf (bs : Bytes) :
    cstr (bs ++ crlf) = cstr bs ∨ cstr (bs ++ crlf) = cstr bs ++ crlf := by
  by_cases hnul : 0 ∈ bs
  · exact .inl (cstr_append_of_mem hnul crlf)
  · refine .inr ?_
    rw [cstr_append hnul, cstr_of_notMem hnul]
    rfl

end Scanf

namespace RtspRequest

theorem scanPair_append_crlf (bs : Bytes) : scanPair (bs ++ crlf) = scanPair bs := by
  rw [scanPair_eq, scanPair_eq]
  rcases cstr_append_crlf bs with h | h
  · rw [h]
  · rw [h]
    unfold pairText
    rw [skipPast_append_crlf (by decide)]
    cases skipPast 0x3b (cstr bs) with
    | none => rfl
    | some first =>
      rw [Option.map_some, Option.bind_some, Option.bind_some, skipPast_append_crlf (by decide)]
      cases skipPast 0x3b first with
      | none => rfl
      | some second =>
        rw [Option.map_some, Option.bind_some, Option.bind_some, skipPast_append_crlf (by decide)]
        cases skipPast 0x3d second with
        | none => rfl
        | some third => exact numberPair_append_crlf third

/-- The number behind a colon. -/
theorem sscanfNumbers_append_crlf (bs : Bytes) :
    sscanfNumbers (bs ++ crlf) [.skipUpTo 0x3a, .lit 0x3a, .space, .u]
      = sscanfNumbers bs [.skipUpTo 0x3a, .lit 0x3a, .space, .u] := by
  unfold sscanfNumbers sscanf
  rcases cstr_append_crlf bs with h | h
  · rw [h]
  · rw [h, scan_skipPast, scan_skipPast, skipPast_append_crlf (by decide)]
    cases skipPast 0x3a (cstr bs) with
    | none => rfl
    | some tail =>
      dsimp only [Option.map_some, scan]
      rw [List.dropWhile_idempotent, List.dropWhile_idempotent, number_dropWhile_append_crlf]
      cases number (tail.dropWhile isSpace) <;> rfl

variable {pat : Bytes} {pos : ℕ}

/-- A keyword is found where it is found without the end of the last line. -/
theorem find_append_crlf (hpat : pat ≠ []) (hdisj : ∀ b ∈ crlf, b ∉ pat) (text : Bytes) :
    Search.find pat (text ++ crlf) = Search.find pat text :=
  Search.find_append_end (by decide) hpat hdisj text

theorem drop_append_crlf {text : Bytes} (h : Search.find pat text = some pos) :
    (text ++ crlf).drop pos = text.drop pos ++ crlf :=
  List.drop_append_of_le_length (Search.find_eq_some_iff.mp h).1

theorem cseqOf_append_crlf (text : Bytes) : cseqOf (text ++ crlf) = cseqOf text := by
  unfold cseqOf
  rw [find_append_crlf (by decide) (by decide)]
  cases hfind : Search.find (ascii "CSeq") text with
  | none => rfl
  | some pos => rw [Option.map_some, Option.map_some, drop_append_crlf hfind,
      sscanfNumbers_append_crlf]

theorem readTransport_append_crlf (text : Bytes) :
    readTransport (text ++ crlf) = readTransport text := by
  have hfrom : ∀ {pat : Bytes}, pat ≠ [] → (∀ b ∈ crlf, b ∉ pat) → ∀ bs : Bytes,
      (Search.find pat (bs ++ crlf)).isSome = (Search.find pat bs).isSome :=
    fun hpat hdisj bs => by rw [find_append_crlf hpat hdisj]
  unfold readTransport findFrom
  rw [find_append_crlf (by decide) (by decide), find_append_crlf (by decide) (by decide),
    find_append_crlf (by decide) (by decide)]
  split
  · rfl
  · cases htcp : Search.find (ascii "RTP/AVP/TCP") text with
    | some pos =>
      dsimp only
      rw [drop_append_crlf htcp, scanPair_append_crlf]
    | none =>
      cases hrtp : Search.find (ascii "RTP/AVP") text with
      | none => rfl
      | some pos =>
        dsimp only
        rw [drop_append_crlf hrtp, scanPair_append_crlf, hfrom (by decide) (by decide),
          hfrom (by decide) (by decide)]

theorem setupOf_append_crlf (text : Bytes) : setupOf (text ++ crlf) = setupOf text := by
  unfold setupOf transportNumber
  rw [readTransport_append_crlf]

/-- **The end of the last line does not matter** to what a method asks for. -/
theorem completes_append_crlf (m : Method) (text : Bytes) :
    completes m (text ++ crlf) = completes m text := by
  have hlast : ∀ {pat : Bytes}, pat ≠ [] → (∀ b ∈ crlf, b ∉ pat) →
      (Search.findLast pat (text ++ crlf)).isSome = (Search.findLast pat text).isSome := by
    intro pat hpat hdisj
    rw [Bool.eq_iff_iff, Option.isSome_iff_ne_none, Option.isSome_iff_ne_none, Ne, Ne,
      Search.findLast_eq_none_iff_not_isInfix, Search.findLast_eq_none_iff_not_isInfix,
      ← Search.find_eq_none_iff_not_isInfix, ← Search.find_eq_none_iff_not_isInfix,
      find_append_crlf hpat hdisj]
  unfold completes
  cases m with
  | options => rfl
  | teardown => rfl
  | getParameter => rfl
  | rtcp => rfl
  | none => rfl
  | describe =>
    dsimp only
    unfold parseAccept
    rw [hlast (by decide) (by decide), hlast (by decide) (by decide)]
  | setup =>
    dsimp only
    rw [readTransport_append_crlf]
  | play =>
    dsimp only
    unfold parseSessionId
    rw [find_append_crlf (by decide) (by decide)]
    cases hfind : Search.find (ascii "Session") text with
    | none => rfl
    | some pos =>
      dsimp only
      rw [drop_append_crlf hfind, sscanfNumbers_append_crlf]

end RtspRequest
