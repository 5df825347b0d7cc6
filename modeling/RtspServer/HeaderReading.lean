import RtspServer.Decimal
import RtspServer.LineSearch
import RtspServer.RequestCuts
import RtspServer.RequestLine

/-!
# What a header text reads as

The header lines of a request are one text to the parser. What is read in it
is said here by where the first keyword of each search stands: the number
behind `CSeq` (`cseqOf_of_find`), the pair of numbers behind a transport
(`readTransport_of_tcp`, `readTransport_of_udp`), the number of a session
(`parseSessionId_of_find`); and what these make of a parser that has just
read a request line (`headersRead_number`, `headersRead_pair`).
-/

open Scanf

/-- A line that begins with the CR of its end does not begin with a digit. -/
theorem isDigit_head_crlf (rest : Bytes) :
    ∀ b, (crlf ++ rest).head? = some b → isDigit b = false := by
  rintro b ⟨rfl⟩
  rfl

/-- A word stands on one line. -/
theorem Scanf.IsWord.isLine {bs : Bytes} (h : IsWord bs) : IsLine bs := fun b hb =>
  ⟨fun hcr => absurd (h.not_isSpace b hb) (hcr ▸ by decide),
    fun hlf => absurd (h.not_isSpace b hb) (hlf ▸ by decide)⟩

namespace RtspRequest

/-- `%*[^:]: %u` on a header with a number. -/
theorem sscanfNumbers_header (name : Bytes) {digits rest : Bytes} (hne : name ≠ [])
    (hcolon : 0x3a ∉ name) (hnul : 0 ∉ name) (hdigits : IsNumeral digits)
    (hrest : ∀ b, rest.head? = some b → isDigit b = false) :
    sscanfNumbers (name ++ (0x3a :: 0x20 :: (digits ++ rest)))
      [.skipUpTo 0x3a, .lit 0x3a, .space, .u]
      = [.num (.ofNat (strtoul false (decimalValue digits)))] := by
  have hcstr : cstr (name ++ (0x3a :: 0x20 :: (digits ++ rest)))
      = name ++ 0x3a :: ([0x20] ++ (digits ++ cstr rest)) := by
    rw [cstr_append hnul, show 0x3a :: 0x20 :: (digits ++ rest) = [0x3a, 0x20] ++ (digits ++ rest)
      from rfl, cstr_append (by decide), cstr_append hdigits.isWord.nul_notMem]
    rfl
  unfold sscanfNumbers sscanf
  rw [hcstr, scan_skipUpTo hcolon hne, scan_lit, scan_space_word hdigits.isWord]
  simp only [scan, hdigits.isWord.dropWhile, hdigits.number (isDigit_head_cstr hrest)]
  rfl

/-- **The number behind the first `CSeq`** of a header text. -/
theorem cseqOf_numeral {message digits rest : Bytes} {pos : ℕ}
    (hfind : Search.find (ascii "CSeq") message = some pos)
    (hdrop : message.drop pos = ascii "CSeq: " ++ (digits ++ rest)) (hdigits : IsNumeral digits)
    (hrest : ∀ b, rest.head? = some b → isDigit b = false) :
    cseqOf message = some (.ofNat (strtoul false (decimalValue digits))) := by
  have hscan := sscanfNumbers_header (ascii "CSeq") (by decide) (by decide) (by decide)
    hdigits hrest
  unfold cseqOf
  rw [hfind, Option.map_some, hdrop,
    show ascii "CSeq: " ++ (digits ++ rest) = ascii "CSeq" ++ (0x3a :: 0x20 :: (digits ++ rest))
      from rfl, hscan]

/-- The number is read as it is, when it has 32 bits. -/
theorem cseqOf_of_find {message digits rest : Bytes} {pos : ℕ}
    (hfind : Search.find (ascii "CSeq") message = some pos)
    (hdrop : message.drop pos = ascii "CSeq: " ++ (digits ++ rest)) (hdigits : IsNumeral digits)
    (hlt : decimalValue digits < 4294967296)
    (hrest : ∀ b, rest.head? = some b → isDigit b = false) :
    cseqOf message = some (.ofNat (decimalValue digits)) := by
  rw [cseqOf_numeral hfind hdrop hdigits hrest, strtoul_of_lt hlt]

/-- A session with a number is one that PLAY accepts. -/
theorem parseSessionId_of_find {message digits rest : Bytes} {pos : ℕ}
    (hfind : Search.find (ascii "Session") message = some pos)
    (hdrop : message.drop pos = ascii "Session: " ++ (digits ++ rest)) (hdigits : IsNumeral digits)
    (hrest : ∀ b, rest.head? = some b → isDigit b = false) : parseSessionId message = true := by
  have hscan := sscanfNumbers_header (ascii "Session") (by decide) (by decide) (by decide)
    hdigits hrest
  unfold parseSessionId
  rw [hfind]
  dsimp only
  rw [hdrop, show ascii "Session: " ++ (digits ++ rest)
    = ascii "Session" ++ (0x3a :: 0x20 :: (digits ++ rest)) from rfl, hscan]
  rfl

/-- **The numbers of a transport** are the first two of its third part. -/
theorem scanPair_numerals {first second third a b rest : Bytes}
    (hfirst : first ≠ [] ∧ 0x3b ∉ first ∧ 0 ∉ first)
    (hsecond : second ≠ [] ∧ 0x3b ∉ second ∧ 0 ∉ second)
    (hthird : third ≠ [] ∧ 0x3d ∉ third ∧ 0 ∉ third)
    (ha : IsNumeral a ∧ decimalValue a < 65536) (hb : IsNumeral b ∧ decimalValue b < 65536)
    (hrest : ∀ c, rest.head? = some c → isDigit c = false) :
    scanPair (first ++ 0x3b :: (second ++ 0x3b :: (third ++ 0x3d :: (a ++ 0x2d :: (b ++ rest)))))
      = some (.ofNat (decimalValue a), .ofNat (decimalValue b)) := by
  have hcons : ∀ (c : UInt8) (bs : Bytes), c ≠ 0 → cstr (c :: bs) = c :: cstr bs :=
    fun c bs h => List.takeWhile_cons_of_pos (decide_eq_true h)
  have hcstr : cstr (first ++ 0x3b :: (second ++ 0x3b :: (third ++ 0x3d :: (a ++ 0x2d ::
      (b ++ rest))))) = first ++ 0x3b :: (second ++ 0x3b :: (third ++ 0x3d :: (a ++ 0x2d ::
        (b ++ cstr rest)))) := by
    rw [cstr_append hfirst.2.2, hcons _ _ (by decide), cstr_append hsecond.2.2,
      hcons _ _ (by decide), cstr_append hthird.2.2, hcons _ _ (by decide),
      cstr_append ha.1.isWord.nul_notMem, hcons _ _ (by decide),
      cstr_append hb.1.isWord.nul_notMem]
  have hdash : ∀ c, (0x2d :: (b ++ cstr rest)).head? = some c → isDigit c = false := by
    rintro c ⟨rfl⟩
    rfl
  unfold scanPair sscanfNumbers sscanf
  rw [hcstr, scan_skipUpTo hfirst.2.1 hfirst.1, scan_lit, scan_skipUpTo hsecond.2.1 hsecond.1,
    scan_lit, scan_skipUpTo hthird.2.1 hthird.1, scan_lit, scan_hu_numeral ha.1 ha.2 hdash,
    scan_lit, scan_hu_numeral hb.1 hb.2 (isDigit_head_cstr hrest)]
  rfl

/-! ## The transport of a text -/

theorem find_isSome_of_isInfix {pat bs : Bytes} (h : pat <:+: bs) :
    (Search.find pat bs).isSome = true :=
  Option.isSome_iff_ne_none.mpr fun hnone => Search.find_eq_none_iff_not_isInfix.mp hnone h

theorem find_isSome_of_not_isInfix {pat bs : Bytes} (h : ¬ pat <:+: bs) :
    (Search.find pat bs).isSome = false := by
  rw [Search.find_eq_none_iff_not_isInfix.mpr h]
  rfl

variable {message : Bytes} {pos : ℕ}

/-- A transport over TCP. -/
theorem readTransport_of_tcp (htransport : ascii "Transport" <:+: message)
    (hfind : Search.find (ascii "RTP/AVP/TCP") message = some pos) :
    readTransport message = (some .rtpOverTcp, (scanPair (message.drop pos)).map
      fun (a, b) => ((.rtpChannel, a), (.rtcpChannel, b))) := by
  unfold readTransport
  rw [if_neg fun h => Search.find_eq_none_iff_not_isInfix.mp h htransport, hfind]

/-- A transport over UDP. -/
theorem readTransport_of_udp (htransport : ascii "Transport" <:+: message)
    (htcp : ¬ ascii "RTP/AVP/TCP" <:+: message)
    (hfind : Search.find (ascii "RTP/AVP") message = some pos)
    (hunicast : ascii "unicast" <:+: message.drop pos) :
    readTransport message = (some .rtpOverUdp, (scanPair (message.drop pos)).map
      fun (a, b) => ((.rtpPort, a), (.rtcpPort, b))) := by
  unfold readTransport
  rw [if_neg fun h => Search.find_eq_none_iff_not_isInfix.mp h htransport,
    Search.find_eq_none_iff_not_isInfix.mpr htcp, hfind]
  exact if_pos (find_isSome_of_isInfix hunicast)

/-- A transport that is not over UDP, by whether it has `multicast`. -/
theorem readTransport_of_not_unicast (htransport : ascii "Transport" <:+: message)
    (htcp : ¬ ascii "RTP/AVP/TCP" <:+: message)
    (hfind : Search.find (ascii "RTP/AVP") message = some pos)
    (hunicast : ¬ ascii "unicast" <:+: message.drop pos) :
    readTransport message = if ascii "multicast" <:+: message.drop pos then
      (some .rtpOverMulticast, some ((.rtpPort, 0), (.rtcpPort, 0))) else (none, none) := by
  have hnot : ¬ findFrom (ascii "unicast") message pos = true := by
    rw [findFrom, find_isSome_of_not_isInfix hunicast]
    exact Bool.false_ne_true
  unfold readTransport
  rw [if_neg fun h => Search.find_eq_none_iff_not_isInfix.mp h htransport,
    Search.find_eq_none_iff_not_isInfix.mpr htcp, hfind]
  dsimp only
  rw [if_neg hnot]
  by_cases hmulticast : ascii "multicast" <:+: message.drop pos
  · rw [if_pos hmulticast]
    exact if_pos (find_isSome_of_isInfix hmulticast)
  · rw [if_neg hmulticast]
    refine if_neg ?_
    rw [findFrom, find_isSome_of_not_isInfix hmulticast]
    exact Bool.false_ne_true

/-! ## After a request line -/

/-- **A parser that has read a request line** of a new request. -/
structure AtHeaders (q : RtspRequest) (m : Method) (url : Bytes) : Prop where
  state : q.state = .parseHeadersLine
  method : q.method = m
  url : q.requestLineParam .url = some (url, 0)
  headerLineParam : q.headerLineParam = fun _ => none

variable {q : RtspRequest} {m : Method} {url : Bytes}

/-- The completion and the number of a request, by its header text. -/
theorem AtHeaders.headersRead (h : q.AtHeaders m url) (message : Bytes) :
    (q.headersRead message).gotAll = ((cseqOf message).isSome && completes m message) ∧
    (q.headersRead message).method = m ∧
    (q.headersRead message).requestLineParam = q.requestLineParam ∧
    (q.headersRead message).getCSeq = (cseqOf message).getD 0 := by
  obtain ⟨hstate, hmethod, hline, hnumber⟩ := RtspRequest.headersRead_spec h.state message
  rw [h.headerLineParam, h.method] at hstate
  rw [h.headerLineParam] at hnumber
  refine ⟨?_, hmethod.trans h.method, hline, ?_⟩
  · rw [gotAll, hstate]
    cases cseqOf message with
    | none => rfl
    | some cseq => cases completes m message <;> rfl
  · rw [getCSeq, numberParam, hnumber]
    cases cseqOf message <;> rfl

/-- The transport, the numbers and the track of a SETUP that its header text
completes. -/
theorem AtHeaders.setup (h : q.AtHeaders .setup url) (hcseq : (cseqOf message).isSome = true)
    (hpair : (readTransport message).2.isSome = true) :
    (q.headersRead message).transport = (readTransport message).1.getD q.transport ∧
    (q.headersRead message).channelId = trackOf url ∧
    ∀ k, k ≠ .cseq → (q.headersRead message).numberParam k = transportNumber message k := by
  obtain ⟨-, -, hline, -⟩ := q.seeCSeq_spec message
  have hseen := q.isSome_seeCSeq hcseq
  have hothers : ∀ k, k ≠ .cseq → (q.seeCSeq message).headerLineParam k = none := by
    intro k hk
    unfold seeCSeq
    split
    · rw [h.headerLineParam]
    · dsimp only
      rw [Params.emplace_of_ne _ hk, h.headerLineParam]
  have hurl : ((q.seeCSeq message).seeTransport message).requestLineParam .url = some (url, 0) := by
    show (q.seeCSeq message).requestLineParam .url = _
    rw [hline, h.url]
  have hread := headersRead_setup h.method hseen hpair
  rw [parseMediaChannel_of_url hurl] at hread
  refine ⟨transport_headersRead h.method hseen, by rw [hread], fun k hk => ?_⟩
  obtain ⟨⟨⟨k₁, a⟩, ⟨k₂, b⟩⟩, hab⟩ := Option.isSome_iff_exists.mp hpair
  obtain ⟨hk₁, hk₂⟩ := keys_of_readTransport hab
  have hne : k₁ ≠ k₂ := by
    rcases readTransport_cases hab with ⟨-, rfl, rfl⟩ | ⟨-, rfl, rfl⟩ | ⟨-, rfl, rfl⟩ <;> decide
  have hparams : (q.headersRead message).headerLineParam
      = ((q.seeCSeq message).headerLineParam.emplace k₁ ([], a)).emplace k₂ ([], b) := by
    rw [hread]
    unfold seeTransport
    rw [hab]
  obtain ⟨ha, hb⟩ := numberParam_emplace hne (hothers k₁ hk₁.symm) (hothers k₂ hk₂.symm) hparams
  unfold transportNumber
  rw [hab]
  dsimp only
  by_cases h₁ : k = k₁
  · rw [if_pos h₁, h₁, ha]
  · by_cases h₂ : k = k₂
    · rw [if_neg h₁, if_pos h₂, h₂, hb]
    · rw [if_neg h₁, if_neg h₂]
      unfold numberParam
      rw [hparams, Params.emplace_of_ne _ h₂, Params.emplace_of_ne _ h₁, hothers k hk]
      rfl

/-! ## A request in one call -/

/-- One call of `parseRequest` reads a line and then the rest. -/
theorem parseRequest_lineText {p : RtspRequest} (hp : p.state = .parseRequestLine) {line : Bytes}
    (hline : IsLine line) (hhead : ∀ rest, (line ++ rest).head? ≠ some 0x24) (text : Bytes) :
    p.parseRequest (line ++ crlf ++ (text ++ crlf)) = (do
      let (ret, q) ← p.parseRequestLine line
      if q.state = .parseHeadersLine then return q.parseHeaders ret (text ++ crlf)
      else return (ret, q, text ++ crlf)) := by
  have hhead' : (line ++ crlf ++ (text ++ crlf)).head? ≠ some 0x24 := by
    rw [List.append_assoc]
    exact hhead _
  have htake : (line ++ crlf ++ (text ++ crlf)).take line.length = line := by
    rw [List.append_assoc, List.take_left]
  have hdrop : (line ++ crlf ++ (text ++ crlf)).drop (line.length + 2) = text ++ crlf := by
    rw [show line.length + 2 = (line ++ crlf).length by rw [List.length_append]; rfl,
      List.drop_left]
  rw [RtspReader.parseRequest_line hp (Buffer.findCRLF_line hline _) hhead', htake, hdrop]

/-- **A request in one call** of `parseRequest`: its line is read, and what
follows up to the last CRLF as its header text. -/
theorem parseRequest_whole {p : RtspRequest} (hp : p.state = .parseRequestLine) {line : Bytes}
    (hline : IsLine line) (hread : p.parseRequestLine line = .ok (true, q))
    (hq : q.state = .parseHeadersLine) (text : Bytes) :
    p.parseRequest (line ++ crlf ++ (text ++ crlf))
      = .ok ((q.parseHeadersLine text).1, q.headersRead text, []) := by
  have hhead : ∀ rest, (line ++ rest).head? ≠ some 0x24 := by
    intro rest
    obtain ⟨hne, hhead⟩ := RequestLine.head_of_read hread
    obtain ⟨b, bs, rfl⟩ := List.exists_cons_of_ne_nil hne
    exact hhead
  have hlast : Buffer.findLastCRLF (text ++ crlf) = some text.length := by
    rw [← List.append_nil (text ++ crlf)]
    exact Buffer.findLastCRLF_append text (by decide)
  have hend : (text ++ crlf).drop (text.length + 2) = [] :=
    List.drop_of_length_le (by rw [List.length_append]; rfl)
  rw [parseRequest_lineText hp hline hhead, hread, Except.ok_bind]
  dsimp only
  rw [if_pos hq, parseHeaders, hlast]
  dsimp only
  rw [Buffer.retrieve_eq_drop, List.take_left, hend]
  rfl

end RtspRequest
