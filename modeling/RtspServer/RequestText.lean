import RtspServer.HeaderReading
import RtspServer.UrlParsing

/-!
# Well-formed requests and what they read as

A request line with a URL that names a port, and header lines in any order: a
`CSeq` with a number of 32 bits, the header of the method, and any others that
have none of the strings that the parser looks for (`RequestText`). Such a
request is complete after one call, and every getter returns what the request
says (`RequestText.parsed_whole`).

The parser finds every string it looks for in the line it belongs to, since
no search can succeed over the end of a line; and every scan begins there and
ends in that line.
-/

open Scanf

/-- The strings that the parser looks for in header lines. -/
def keywords : List Bytes :=
  [ascii "CSeq", ascii "Accept", ascii "sdp", ascii "Transport", ascii "RTP/AVP", ascii "unicast",
    ascii "multicast", ascii "Session"]

/-- **A header line that the parser has no interest in.** -/
structure IsOther (l : Bytes) : Prop where
  isLine : IsLine l
  nul_notMem : 0 ∉ l
  not_isInfix : ∀ k ∈ keywords, ¬ k <:+: l

/-- The header that a method asks for. -/
inductive OwnHeader where
  | none
  | accept
  | clientPorts (a b : Bytes)
  | interleaved (a b : Bytes)
  | session (k : Bytes)

namespace OwnHeader

/-- The header as it is written. -/
def lines : OwnHeader → List Bytes
  | none => []
  | accept => [ascii "Accept: application/sdp"]
  | clientPorts a b => [ascii "Transport: RTP/AVP;unicast;client_port=" ++ (a ++ 0x2d :: b)]
  | interleaved a b => [ascii "Transport: RTP/AVP/TCP;unicast;interleaved=" ++ (a ++ 0x2d :: b)]
  | session k => [ascii "Session: " ++ k]

/-- The header is the method's, and its numbers are in range. -/
def Belongs : Method → OwnHeader → Prop
  | .describe, accept => True
  | .setup, clientPorts a b =>
    (IsNumeral a ∧ decimalValue a < 65536) ∧ IsNumeral b ∧ decimalValue b < 65536
  | .setup, interleaved a b =>
    (IsNumeral a ∧ decimalValue a < 256) ∧ IsNumeral b ∧ decimalValue b < 256
  | .play, session k => IsNumeral k
  | .options, none | .teardown, none | .getParameter, none => True
  | _, _ => False

/-- **What the parser reads of the header**: the mode and the two ports or
channels of a transport. -/
def ReadAs (q : RtspRequest) : OwnHeader → Prop
  | clientPorts a b => q.transport = .rtpOverUdp ∧ q.getRtpPort.toNat = decimalValue a ∧
      q.getRtcpPort.toNat = decimalValue b
  | interleaved a b => q.transport = .rtpOverTcp ∧ q.getRtpChannel.toNat = decimalValue a ∧
      q.getRtcpChannel.toNat = decimalValue b
  | _ => True

end OwnHeader

/-- **A well-formed request** whose URL names a port. -/
structure RequestText where
  method : Method
  url : UrlText
  version : Bytes
  cseq : Bytes
  own : OwnHeader
  others : List Bytes
  headers : List Bytes
  supported : method ∈ Method.supported
  port_isSome : url.port.isSome = true
  fits : url.Fits
  isWord_version : IsWord version
  version_fits : version.length < 16
  isNumeral_cseq : IsNumeral cseq
  cseq_lt : decimalValue cseq < 4294967296
  belongs : own.Belongs method
  isOther : ∀ l ∈ others, IsOther l
  perm : headers.Perm ((ascii "CSeq: " ++ cseq) :: (own.lines ++ others))

namespace RequestText

def requestLine (t : RequestText) : Bytes := t.url.requestLine t.method t.version

/-- The header lines, each with its end. -/
def headerText (t : RequestText) : Bytes := Search.text crlf t.headers

/-- The request as it is sent. -/
def bytes (t : RequestText) : Bytes := t.requestLine ++ crlf ++ (t.headerText ++ crlf)

/-! ## Where the strings stand -/

/-- A header line is that of the `CSeq`, the method's own, or one of the
others. -/
theorem mem_headers {t : RequestText} {l : Bytes} :
    l ∈ t.headers ↔ l = ascii "CSeq: " ++ t.cseq ∨ l ∈ t.own.lines ∨ l ∈ t.others := by
  rw [t.perm.mem_iff, List.mem_cons, List.mem_append]

/-- A string without a digit and a dash does not reach into numbers. -/
theorem isInfix_append_numbers {pat text numbers : Bytes} (hpat : pat ≠ [])
    (hdigit : ∀ b ∈ pat, isDigit b = false ∧ b ≠ 0x2d) (hne : numbers ≠ [])
    (hnumbers : ∀ b ∈ numbers, isDigit b = true ∨ b = 0x2d) :
    pat <:+: text ++ numbers ↔ pat <:+: text := by
  have hdisj : ∀ b ∈ numbers, b ∉ pat := by
    intro b hb hmem
    obtain ⟨hnot, hdash⟩ := hdigit b hmem
    rcases hnumbers b hb with h | h
    · rw [hnot] at h
      cases h
    · exact hdash h
  have hnil : ¬ pat <:+: [] := fun h => hpat (List.infix_nil.mp h)
  have hiff := @Search.isInfix_append_sep _ pat text [] numbers hne hpat hdisj
  rw [List.append_nil] at hiff
  exact hiff.trans (or_iff_left hnil)

end RequestText

namespace OwnHeader

/-- The header without its numbers. -/
def name : OwnHeader → Bytes
  | none => []
  | accept => ascii "Accept: application/sdp"
  | clientPorts _ _ => ascii "Transport: RTP/AVP;unicast;client_port="
  | interleaved _ _ => ascii "Transport: RTP/AVP/TCP;unicast;interleaved="
  | session _ => ascii "Session: "

/-- No header of a method has a `CSeq`. -/
theorem not_cseq_name (own : OwnHeader) : ¬ ascii "CSeq" <:+: own.name := by
  cases own <;> (dsimp only [name]; decide)

/-- What is found in the header of a method stands in front of its numbers. -/
theorem isInfix_name {m : Method} {own : OwnHeader} (h : own.Belongs m) {pat l : Bytes}
    (hpat : pat ≠ []) (hdigit : ∀ b ∈ pat, isDigit b = false ∧ b ≠ 0x2d) (hl : l ∈ own.lines)
    (hin : pat <:+: l) : pat <:+: own.name := by
  have hpair : ∀ {a b : Bytes} {k : ℕ}, (IsNumeral a ∧ decimalValue a < k) ∧ IsNumeral b ∧
      decimalValue b < k → ∀ c ∈ a ++ 0x2d :: b, isDigit c = true ∨ c = 0x2d := by
    intro a b k hab c hc
    rcases List.mem_append.mp hc with hc | hc
    · exact .inl (hab.1.1.isDigit c hc)
    · rcases List.mem_cons.mp hc with rfl | hc
      · exact .inr rfl
      · exact .inl (hab.2.1.isDigit c hc)
  cases own with
  | none => cases hl
  | accept => rwa [List.mem_singleton.mp hl] at hin
  | clientPorts a b =>
    have hab : (IsNumeral a ∧ decimalValue a < 65536) ∧ IsNumeral b ∧ decimalValue b < 65536 := by
      cases m <;> first | exact h | exact False.elim h
    rw [List.mem_singleton.mp hl] at hin
    exact (RequestText.isInfix_append_numbers hpat hdigit (by simp) (hpair hab)).mp hin
  | interleaved a b =>
    have hab : (IsNumeral a ∧ decimalValue a < 256) ∧ IsNumeral b ∧ decimalValue b < 256 := by
      cases m <;> first | exact h | exact False.elim h
    rw [List.mem_singleton.mp hl] at hin
    exact (RequestText.isInfix_append_numbers hpat hdigit (by simp) (hpair hab)).mp hin
  | session k =>
    have hk : IsNumeral k := by
      cases m <;> first | exact h | exact False.elim h
    rw [List.mem_singleton.mp hl] at hin
    exact (RequestText.isInfix_append_numbers hpat hdigit hk.ne_nil
      fun c hc => .inl (hk.isDigit c hc)).mp hin

end OwnHeader

/-- **A string that the parser looks for**, or one that begins with one. -/
structure IsKeyword (pat : Bytes) : Prop where
  ne_nil : pat ≠ []
  crlf_notMem : ∀ b ∈ crlf, b ∉ pat
  digit : ∀ b ∈ pat, isDigit b = false ∧ b ≠ 0x2d
  keyword : ∃ k ∈ keywords, k <:+: pat

instance (pat : Bytes) : Decidable (IsKeyword pat) :=
  decidable_of_iff (pat ≠ [] ∧ (∀ b ∈ crlf, b ∉ pat) ∧
      (∀ b ∈ pat, isDigit b = false ∧ b ≠ 0x2d) ∧ ∃ k ∈ keywords, k <:+: pat)
    ⟨fun ⟨h₁, h₂, h₃, h₄⟩ => ⟨h₁, h₂, h₃, h₄⟩, fun ⟨h₁, h₂, h₃, h₄⟩ => ⟨h₁, h₂, h₃, h₄⟩⟩

namespace RequestText

variable {t : RequestText} {pat l : Bytes}

/-- **A keyword stands in the line it belongs to.** -/
theorem line_of_isInfix (hpat : IsKeyword pat) (hl : l ∈ t.headers) (hin : pat <:+: l) :
    (l = ascii "CSeq: " ++ t.cseq ∧ pat <:+: ascii "CSeq: ") ∨
      (l ∈ t.own.lines ∧ pat <:+: t.own.name) := by
  rcases mem_headers.mp hl with rfl | hl | hl
  · have hdigits := (isInfix_append_numbers hpat.ne_nil hpat.digit t.isNumeral_cseq.ne_nil
      fun c hc => .inl (t.isNumeral_cseq.isDigit c hc)).mp hin
    exact .inl ⟨rfl, hdigits⟩
  · exact .inr ⟨hl, OwnHeader.isInfix_name t.belongs hpat.ne_nil hpat.digit hl hin⟩
  · obtain ⟨k, hk, hkp⟩ := hpat.keyword
    exact absurd (hkp.trans hin) ((t.isOther l hl).not_isInfix k hk)

/-- A keyword is found in the header text where it is found in a line. -/
theorem isInfix_headerText_iff (hpat : IsKeyword pat) :
    pat <:+: t.headerText ↔ ∃ l ∈ t.headers, pat <:+: l :=
  Search.isInfix_text_iff (by decide) hpat.ne_nil hpat.crlf_notMem

/-- A keyword that belongs to no line of the request is not found. -/
theorem not_isInfix_headerText (hpat : IsKeyword pat) (hcseq : ¬ pat <:+: ascii "CSeq: ")
    (hown : ¬ pat <:+: t.own.name) : ¬ pat <:+: t.headerText := by
  intro hin
  obtain ⟨l, hl, hin⟩ := (isInfix_headerText_iff hpat).mp hin
  rcases line_of_isInfix hpat hl hin with ⟨-, h⟩ | ⟨-, h⟩
  · exact hcseq h
  · exact hown h

/-- **Where a keyword of one line is found.** -/
theorem find_headerText (hpat : IsKeyword pat) (hl : l ∈ t.headers)
    (honly : ∀ l' ∈ t.headers, pat <:+: l' → l' = l) {i : ℕ} (hi : Search.find pat l = some i) :
    ∃ pos rest, Search.find pat t.headerText = some pos ∧
      t.headerText.drop pos = l.drop i ++ (crlf ++ rest) := by
  have hfound : ∀ {l : Bytes} {i : ℕ}, Search.find pat l = some i → pat <:+: l := by
    intro l i hi
    by_contra hnot
    rw [Search.find_eq_none_iff_not_isInfix.mpr hnot] at hi
    cases hi
  obtain ⟨before, l', after, j, hheaders, hbefore, hj⟩ :=
    Search.exists_first_line ⟨l, hl, hfound hi⟩
  obtain rfl := honly l' (by rw [hheaders]; simp) (hfound hj)
  rw [hi, Option.some.injEq] at hj
  subst hj
  have hsep : crlf ≠ [] := by decide
  obtain ⟨hfind, hdrop⟩ := Search.find_text hsep hpat.ne_nil hpat.crlf_notMem hbefore hi
  unfold headerText
  rw [hheaders]
  exact ⟨_, _, hfind, hdrop⟩

/-! ## What is read -/

/-- The line of the `CSeq`. -/
theorem cseqLine_mem (t : RequestText) : ascii "CSeq: " ++ t.cseq ∈ t.headers :=
  mem_headers.mpr (.inl rfl)

/-- **The number of the request is read.** -/
theorem cseqOf_headerText (t : RequestText) :
    RtspRequest.cseqOf t.headerText = some (.ofNat (decimalValue t.cseq)) := by
  have hpat : IsKeyword (ascii "CSeq") := by decide
  have honly : ∀ l ∈ t.headers, ascii "CSeq" <:+: l → l = ascii "CSeq: " ++ t.cseq := by
    intro l hl hin
    rcases line_of_isInfix hpat hl hin with ⟨h, -⟩ | ⟨-, h⟩
    · exact h
    · exact absurd h (OwnHeader.not_cseq_name t.own)
  have hi : Search.find (ascii "CSeq") (ascii "CSeq: " ++ t.cseq) = some 0 :=
    Search.find_append_of_some (by decide)
  obtain ⟨pos, rest, hfind, hdrop⟩ := find_headerText hpat t.cseqLine_mem honly hi
  rw [List.drop_zero, List.append_assoc] at hdrop
  exact RtspRequest.cseqOf_of_find hfind hdrop t.isNumeral_cseq t.cseq_lt (isDigit_head_crlf rest)

/-- A keyword of the method's header that the `CSeq` line does not have is
found in the method's header. -/
theorem find_own (hpat : IsKeyword pat) (hcseq : ¬ pat <:+: ascii "CSeq: ")
    (hown : t.own.lines = [l]) {i : ℕ} (hi : Search.find pat l = some i) :
    ∃ pos rest, Search.find pat t.headerText = some pos ∧
      t.headerText.drop pos = l.drop i ++ (crlf ++ rest) := by
  refine find_headerText hpat (mem_headers.mpr (.inr (.inl (by rw [hown]; simp)))) ?_ hi
  intro l' hl' hin
  rcases line_of_isInfix hpat hl' hin with ⟨-, h⟩ | ⟨h, -⟩
  · exact absurd h hcseq
  · rw [hown] at h
    exact List.mem_singleton.mp h

/-- A keyword of the method's header is found. -/
theorem isInfix_own (hpat : IsKeyword pat) (hown : t.own.lines = [l]) (hin : pat <:+: l) :
    pat <:+: t.headerText :=
  (isInfix_headerText_iff hpat).mpr ⟨l, mem_headers.mpr (.inr (.inl (by rw [hown]; simp))), hin⟩

/-- A DESCRIBE accepts SDP. -/
theorem parseAccept_headerText (hown : t.own = .accept) :
    RtspRequest.parseAccept t.headerText = true := by
  have hfound : ∀ pat, IsKeyword pat → pat <:+: ascii "Accept: application/sdp" →
      (Search.findLast pat t.headerText).isSome = true := fun pat hpat hin =>
    Option.isSome_iff_ne_none.mpr fun hnone => Search.findLast_eq_none_iff_not_isInfix.mp hnone
      (isInfix_own hpat (by rw [hown]; rfl) hin)
  unfold RtspRequest.parseAccept
  rw [hfound (ascii "Accept") (by decide) (by decide), hfound (ascii "sdp") (by decide) (by decide)]
  rfl

/-- A PLAY has a session. -/
theorem parseSessionId_headerText {k : Bytes} (hown : t.own = .session k) (hk : IsNumeral k) :
    RtspRequest.parseSessionId t.headerText = true := by
  have hi : Search.find (ascii "Session") (ascii "Session: " ++ k) = some 0 :=
    Search.find_append_of_some (by decide)
  obtain ⟨pos, rest, hfind, hdrop⟩ :=
    find_own (t := t) (by decide) (by decide) (by rw [hown]; rfl) hi
  rw [List.drop_zero, List.append_assoc] at hdrop
  exact RtspRequest.parseSessionId_of_find hfind hdrop hk (isDigit_head_crlf rest)

/-- **The ports of a SETUP over UDP are read.** -/
theorem readTransport_clientPorts {a b : Bytes} (hown : t.own = .clientPorts a b)
    (ha : IsNumeral a ∧ decimalValue a < 65536) (hb : IsNumeral b ∧ decimalValue b < 65536) :
    RtspRequest.readTransport t.headerText = (some .rtpOverUdp,
      some ((.rtpPort, .ofNat (decimalValue a)), (.rtcpPort, .ofNat (decimalValue b)))) := by
  have hline : t.own.lines
      = [ascii "Transport: RTP/AVP;unicast;client_port=" ++ (a ++ 0x2d :: b)] := by
    rw [hown]
    rfl
  have hstart : ∀ pat, pat <:+: ascii "Transport: RTP/AVP;unicast;client_port=" →
      pat <:+: ascii "Transport: RTP/AVP;unicast;client_port=" ++ (a ++ 0x2d :: b) :=
    fun pat h => h.trans (List.prefix_append _ _).isInfix
  have hi : Search.find (ascii "RTP/AVP") (ascii "Transport: RTP/AVP;unicast;client_port="
      ++ (a ++ 0x2d :: b)) = some 11 := Search.find_append_of_some (by decide)
  obtain ⟨pos, rest, hfind, hdrop⟩ := find_own (by decide) (by decide) hline hi
  have htext : t.headerText.drop pos = ascii "RTP/AVP" ++ 0x3b :: (ascii "unicast" ++ 0x3b ::
      (ascii "client_port" ++ 0x3d :: (a ++ 0x2d :: (b ++ (crlf ++ rest))))) := by
    rw [hdrop, List.drop_append_of_le_length (by decide), List.append_assoc, List.append_assoc]
    rfl
  have htcp : ¬ ascii "RTP/AVP/TCP" <:+: t.headerText :=
    not_isInfix_headerText (by decide) (by decide) (by
      rw [hown]
      dsimp only [OwnHeader.name]
      decide)
  have hunicast : ascii "unicast" <:+: t.headerText.drop pos := by
    rw [htext]
    exact ⟨ascii "RTP/AVP;", 0x3b :: (ascii "client_port" ++ 0x3d :: (a ++ 0x2d ::
      (b ++ (crlf ++ rest)))), by simp [ascii]⟩
  rw [RtspRequest.readTransport_of_udp (isInfix_own (by decide) hline (hstart _ (by decide))) htcp
    hfind hunicast, htext, RtspRequest.scanPair_numerals (by decide) (by decide) (by decide) ha hb
    (isDigit_head_crlf rest)]
  rfl

/-- **The channels of a SETUP over TCP are read.** -/
theorem readTransport_interleaved {a b : Bytes} (hown : t.own = .interleaved a b)
    (ha : IsNumeral a ∧ decimalValue a < 65536) (hb : IsNumeral b ∧ decimalValue b < 65536) :
    RtspRequest.readTransport t.headerText = (some .rtpOverTcp,
      some ((.rtpChannel, .ofNat (decimalValue a)), (.rtcpChannel, .ofNat (decimalValue b)))) := by
  have hline : t.own.lines
      = [ascii "Transport: RTP/AVP/TCP;unicast;interleaved=" ++ (a ++ 0x2d :: b)] := by
    rw [hown]
    rfl
  have hi : Search.find (ascii "RTP/AVP/TCP") (ascii "Transport: RTP/AVP/TCP;unicast;interleaved="
      ++ (a ++ 0x2d :: b)) = some 11 := Search.find_append_of_some (by decide)
  have htransport : ascii "Transport" <:+: ascii "Transport: RTP/AVP/TCP;unicast;interleaved="
      ++ (a ++ 0x2d :: b) :=
    List.IsInfix.trans (by decide) (List.prefix_append _ _).isInfix
  obtain ⟨pos, rest, hfind, hdrop⟩ := find_own (by decide) (by decide) hline hi
  have htext : t.headerText.drop pos = ascii "RTP/AVP/TCP" ++ 0x3b :: (ascii "unicast" ++ 0x3b ::
      (ascii "interleaved" ++ 0x3d :: (a ++ 0x2d :: (b ++ (crlf ++ rest))))) := by
    rw [hdrop, List.drop_append_of_le_length (by decide), List.append_assoc, List.append_assoc]
    rfl
  rw [RtspRequest.readTransport_of_tcp (isInfix_own (by decide) hline htransport) hfind, htext,
    RtspRequest.scanPair_numerals (by decide) (by decide) (by decide) ha hb
      (isDigit_head_crlf rest)]
  rfl

/-- **The header of the method completes the request**, and its numbers are
read. -/
theorem completes_headerText (t : RequestText) :
    RtspRequest.completes t.method t.headerText = true := by
  have h := t.belongs
  cases hown : t.own with
  | none =>
    rw [hown] at h
    cases hm : t.method <;> rw [hm] at h <;> first | rfl | exact False.elim h
  | accept =>
    rw [hown] at h
    cases hm : t.method <;> rw [hm] at h <;>
      first | exact parseAccept_headerText hown | exact False.elim h
  | clientPorts a b =>
    rw [hown] at h
    cases hm : t.method <;> rw [hm] at h <;> try exact False.elim h
    unfold RtspRequest.completes
    rw [readTransport_clientPorts hown h.1 h.2]
    rfl
  | interleaved a b =>
    rw [hown] at h
    cases hm : t.method <;> rw [hm] at h <;> try exact False.elim h
    unfold RtspRequest.completes
    rw [readTransport_interleaved hown ⟨h.1.1, h.1.2.trans (by decide)⟩
      ⟨h.2.1, h.2.2.trans (by decide)⟩]
    rfl
  | session k =>
    rw [hown] at h
    cases hm : t.method <;> rw [hm] at h <;>
      first | exact parseSessionId_headerText hown h | exact False.elim h

theorem isLine_requestLine (t : RequestText) : IsLine t.requestLine := by
  have hblank : ∀ {bs cs : Bytes}, IsLine bs → IsLine cs → IsLine (bs ++ 0x20 :: cs) :=
    fun h h' => h.append (.append (by decide : IsLine [0x20]) h')
  unfold requestLine UrlText.requestLine
  exact hblank (Method.isToken_name t.supported).isLine
    (hblank t.url.isWord_bytes.isLine t.isWord_version.isLine)

/-- **The request line is accepted**, with the parts of the URL. -/
theorem parseRequestLine_requestLine (t : RequestText) {p : RtspRequest} (hp : p.IsInitial) :
    ∃ q, p.parseRequestLine t.requestLine = .ok (true, q) ∧ q.AtHeaders t.method t.url.bytes ∧
      q.requestLineParam .urlIp = some (t.url.host, 0) ∧
      q.requestLineParam .urlSuffix = some (t.url.suffix, 0) := by
  obtain ⟨digits, hport⟩ := Option.isSome_iff_exists.mp t.port_isSome
  obtain ⟨hfits, hparts⟩ := UrlText.urlParts_of_port hport t.fits.host t.fits.suffix
  obtain ⟨hmethod, hurlWord, -⟩ := RequestLine.words_of_line
    (Method.isToken_name t.supported).isWord t.url.isWord_bytes t.isWord_version
  obtain ⟨hurl, hip, -, hsuffix⟩ := RequestLine.enter_spec hp.requestLineParam t.requestLine
    (t.url.host, .ofNat (decimalValue digits), t.url.suffix)
  have hread : p.parseRequestLine t.requestLine = .ok (true, RequestLine.enter p t.requestLine
      (t.url.host, .ofNat (decimalValue digits), t.url.suffix)) := by
    unfold requestLine
    rw [UrlText.parseRequestLine_eq t.fits t.supported t.isWord_version t.version_fits,
      if_pos hfits, hparts]
  refine ⟨_, hread, ⟨rfl, ?_, ?_, hp.headerLineParam⟩, hip, hsuffix⟩
  · show Method.ofName (RequestLine.methodWord _) = t.method
    rw [requestLine, UrlText.requestLine, hmethod, Method.ofName_name t.supported]
  · rw [hurl, requestLine, UrlText.requestLine, hurlWord]

/-- What the parser holds after the request. -/
structure Parsed (t : RequestText) (q : RtspRequest) : Prop where
  gotAll : q.gotAll = true
  method : q.method = t.method
  url : q.getRtspUrl = t.url.bytes
  suffix : q.getRtspUrlSuffix = t.url.suffix
  ip : q.getIp = t.url.host
  cseq : q.getCSeq.toNat = decimalValue t.cseq
  own : t.own.ReadAs q

/-- **The transport of a SETUP is what its header says.** -/
theorem readAs_headersRead (t : RequestText) {q : RtspRequest}
    (hq : q.AtHeaders t.method t.url.bytes) : t.own.ReadAs (q.headersRead t.headerText) := by
  have h := t.belongs
  have hcseq : (RtspRequest.cseqOf t.headerText).isSome = true := by
    rw [t.cseqOf_headerText]
    rfl
  have hport : ∀ {n : ℕ}, n < 65536 → (UInt32.ofNat n).toUInt16.toNat = n := fun {n} hn => by
    rw [UInt32.toNat_toUInt16, UInt32.toNat_ofNat_of_lt' (show _ < 4294967296 by omega),
      Nat.mod_eq_of_lt hn]
  have hchannel : ∀ {n : ℕ}, n < 256 → (UInt32.ofNat n).toUInt8.toNat = n := fun {n} hn => by
    rw [UInt32.toNat_toUInt8, UInt32.toNat_ofNat_of_lt' (show _ < 4294967296 by omega),
      Nat.mod_eq_of_lt hn]
  cases hown : t.own with
  | none => trivial
  | accept => trivial
  | session k => trivial
  | clientPorts a b =>
    rw [hown] at h
    cases hm : t.method <;> rw [hm] at h <;> try exact False.elim h
    rw [hm] at hq
    have hread := readTransport_clientPorts hown h.1 h.2
    obtain ⟨hmode, -, hnumber⟩ := hq.setup hcseq (by rw [hread]; rfl)
    refine ⟨by rw [hmode, hread]; rfl, ?_, ?_⟩
    · rw [RtspRequest.getRtpPort, hnumber .rtpPort (by decide), RtspRequest.transportNumber, hread]
      exact hport h.1.2
    · rw [RtspRequest.getRtcpPort, hnumber .rtcpPort (by decide), RtspRequest.transportNumber,
        hread]
      exact hport h.2.2
  | interleaved a b =>
    rw [hown] at h
    cases hm : t.method <;> rw [hm] at h <;> try exact False.elim h
    rw [hm] at hq
    have hread := readTransport_interleaved hown ⟨h.1.1, h.1.2.trans (by decide)⟩
      ⟨h.2.1, h.2.2.trans (by decide)⟩
    obtain ⟨hmode, -, hnumber⟩ := hq.setup hcseq (by rw [hread]; rfl)
    refine ⟨by rw [hmode, hread]; rfl, ?_, ?_⟩
    · rw [RtspRequest.getRtpChannel, hnumber .rtpChannel (by decide), RtspRequest.transportNumber,
        hread]
      exact hchannel h.1.2
    · rw [RtspRequest.getRtcpChannel, hnumber .rtcpChannel (by decide),
        RtspRequest.transportNumber, hread]
      exact hchannel h.2.2

/-- **What a parser makes of the header text.** -/
theorem parsed_headersRead (t : RequestText) {q : RtspRequest}
    (hq : q.AtHeaders t.method t.url.bytes)
    (hip : q.requestLineParam .urlIp = some (t.url.host, 0))
    (hsuffix : q.requestLineParam .urlSuffix = some (t.url.suffix, 0)) :
    t.Parsed (q.headersRead t.headerText) := by
  obtain ⟨hgot, hmethod, hline, hcseq⟩ := hq.headersRead t.headerText
  rw [t.cseqOf_headerText] at hgot hcseq
  have hparam : ∀ {k : RequestLineKey} {bs : Bytes}, q.requestLineParam k = some (bs, 0) →
      (q.headersRead t.headerText).stringParam k = bs := by
    intro k bs h
    unfold RtspRequest.stringParam
    rw [hline, h]
    rfl
  refine ⟨?_, hmethod, hparam hq.url, hparam hsuffix, hparam hip, ?_, ?_⟩
  · rw [hgot, t.completes_headerText]
    rfl
  · rw [hcseq]
    exact UInt32.toNat_ofNat_of_lt' t.cseq_lt
  · exact t.readAs_headersRead hq

/-- A well-formed request is read in one call, which dispatches it. -/
theorem readStep_bytes (t : RequestText) {p : RtspRequest} (hp : p.IsInitial) :
    ∃ q : RtspRequest, q.AtHeaders t.method t.url.bytes ∧ t.Parsed (q.headersRead t.headerText) ∧
      p.parseRequest t.bytes = .ok (true, q.headersRead t.headerText, []) ∧
      RtspReader.readStep p t.bytes
        = .ok ((q.headersRead t.headerText).reset, [], some (q.headersRead t.headerText)) := by
  obtain ⟨q, hread, hq, hip, hsuffix⟩ := t.parseRequestLine_requestLine hp
  have hline := t.isLine_requestLine
  have hparsed := t.parsed_headersRead hq hip hsuffix
  have hparse : p.parseRequest t.bytes = .ok (true, q.headersRead t.headerText, []) := by
    unfold bytes
    rw [RtspRequest.parseRequest_whole hp.state hline hread hq.state t.headerText,
      RtspRequest.parseHeadersLine_of_gotAll hq.state hparsed.gotAll]
  have hmethod : (q.headersRead t.headerText).method ≠ .rtcp := by
    rw [hparsed.method]
    intro hrtcp
    have hsupported := t.supported
    rw [hrtcp] at hsupported
    exact absurd hsupported (by decide)
  refine ⟨q, hq, hparsed, hparse, ?_⟩
  rw [RtspReader.readStep_of_parseRequest hparse (fun _ => rfl) hmethod, RtspReader.finish,
    if_pos hparsed.gotAll]
  rfl

/-- The track that a dispatched SETUP selects. -/
theorem channelId_headersRead (t : RequestText) (hm : t.method = .setup) {q : RtspRequest}
    (hq : q.AtHeaders t.method t.url.bytes) :
    (q.headersRead t.headerText).channelId = RtspRequest.trackOf t.url.bytes := by
  have hpair := t.completes_headerText
  rw [hm] at hq hpair
  exact (hq.setup (by rw [t.cseqOf_headerText]; rfl) hpair).2.1

/-- **A well-formed request is parsed in one call**: delivered whole to a
parser between two requests, it is complete, the buffer is empty, and the
getters return what the request says; the same read dispatches it and leaves
the parser and the buffer as a new connection has them. -/
theorem parsed_whole (t : RequestText) {p : RtspRequest} (hp : p.IsInitial) :
    ∃ q, p.parseRequest t.bytes = .ok (true, q, []) ∧ t.Parsed q ∧
      RtspReader.readStep p t.bytes = .ok (q.reset, [], some q) ∧ q.reset.IsInitial := by
  obtain ⟨q, -, hparsed, hparse, hread⟩ := t.readStep_bytes hp
  exact ⟨_, hparse, hparsed, hread, RtspRequest.isInitial_reset _⟩

/-- What a SETUP has to meet. -/
structure IsSetup (url : UrlText) (cseq : Bytes) (own : OwnHeader) (others headers : List Bytes) :
    Prop where
  port_isSome : url.port.isSome = true
  fits : url.Fits
  isNumeral_cseq : IsNumeral cseq
  cseq_lt : decimalValue cseq < 4294967296
  belongs : own.Belongs .setup
  isOther : ∀ l ∈ others, IsOther l
  perm : headers.Perm ((ascii "CSeq: " ++ cseq) :: (own.lines ++ others))

theorem setup_mem_supported : Method.setup ∈ Method.supported := by decide

theorem isWord_rtsp : IsWord (ascii "RTSP/1.0") := by decide

theorem length_rtsp_lt : (ascii "RTSP/1.0").length < 16 := by decide

/-- A SETUP of version 1.0. -/
def setup (url : UrlText) (cseq : Bytes) (own : OwnHeader) (others headers : List Bytes)
    (h : IsSetup url cseq own others headers) : RequestText :=
  { h with
    method := .setup
    url := url
    version := ascii "RTSP/1.0"
    cseq := cseq
    own := own
    others := others
    headers := headers
    supported := setup_mem_supported
    isWord_version := isWord_rtsp
    version_fits := length_rtsp_lt }

theorem isWord_track : IsWord (ascii "live/track1") := by decide

theorem isNumeral_port_track : ∀ digits ∈ some (ascii "8554"),
    IsNumeral digits ∧ decimalValue digits < 65536 := by
  rintro _ ⟨rfl⟩
  decide

/-- `rtsp://10.0.0.1:8554/live/track1`. -/
def trackUrl : UrlText where
  host := ascii "10.0.0.1"
  port := some (ascii "8554")
  suffix := ascii "live/track1"
  isWord_host := UrlText.isWord_address
  colon_notMem := UrlText.colon_notMem_address
  slash_notMem := UrlText.slash_notMem_address
  isNumeral_port := isNumeral_port_track
  isWord_suffix := isWord_track

theorem isSetup_track : IsSetup trackUrl (ascii "4")
    (.clientPorts (ascii "50002") (ascii "50003")) [ascii "User-Agent: LibVLC"]
    [ascii "Transport: RTP/AVP;unicast;client_port=50002-50003", ascii "User-Agent: LibVLC",
      ascii "CSeq: 4"] where
  port_isSome := rfl
  fits := ⟨by decide, by decide, by decide⟩
  isNumeral_cseq := by decide
  cseq_lt := by decide
  belongs := by
    unfold OwnHeader.Belongs
    decide
  isOther := by
    intro l hl
    rw [List.mem_singleton.mp hl]
    exact ⟨by decide, by decide, by decide⟩
  perm := by decide

/-- A SETUP with its transport in front of its number. -/
def trackSetup : RequestText := setup _ _ _ _ _ isSetup_track

/-- The SETUP is read by a new parser. -/
theorem parsed_whole_trackSetup : ∃ q, RtspRequest.parseRequest
      ⟨.none, .channel0, .rtpOverTcp, fun _ => none, fun _ => none, .parseRequestLine⟩
      trackSetup.bytes = .ok (true, q, []) ∧ trackSetup.Parsed q ∧
    RtspReader.readStep
      ⟨.none, .channel0, .rtpOverTcp, fun _ => none, fun _ => none, .parseRequestLine⟩
      trackSetup.bytes = .ok (q.reset, [], some q) ∧ q.reset.IsInitial :=
  parsed_whole trackSetup ⟨rfl, rfl, rfl⟩

end RequestText
