import RtspServer.RejectedRequest
import RtspServer.TransportPlace

/-!
# Header lines that the request does not need

The header text of a SETUP is searched as a whole, so that a header line other
than `CSeq` and `Transport` can take part in what is read. The two lines are read as if
they stood alone when the other lines leave each search where it is: none of them takes
the place of the `CSeq`, of the words that decide on the mode of the transport, or of its
numbers (`OtherHeaders.Own`). This is a condition on one request, for the number and the
`Transport` line that it has. A line in front that says `RTP/AVP` does no harm to a
transport over TCP, nor to one over UDP as long as the `=` that the scan comes to is that
of the `Transport` line.

Two SETUPs that are read from their own lines are read alike, complete or not
(`sameOutcome_iff`). Conversely a SETUP that is read like one of this kind, with two
numbers of the `CSeq` and with two pairs of numbers in the `Transport` line, is of this
kind as well: other lines that take part are found out, unless they happen to say the
same.
-/

open Scanf

/-! ## The other lines of a SETUP -/

/-- The line of a `CSeq`. -/
def cseqLine (digits : Bytes) : Bytes := ascii "CSeq: " ++ digits

/-- **A `Transport` line**, whatever it says. -/
structure IsTransport (t : Bytes) : Prop where
  name : ascii "Transport:" <+: t
  isLine : IsLine t

instance (t : Bytes) : Decidable (IsTransport t) :=
  decidable_of_iff (ascii "Transport:" <+: t ∧ IsLine t)
    ⟨fun h => ⟨h.1, h.2⟩, fun h => ⟨h.name, h.isLine⟩⟩

/-- The line names itself. -/
theorem IsTransport.isInfix {t : Bytes} (ht : IsTransport t) :
    ascii "Transport" <:+: t ++ crlf := by
  obtain ⟨rest, hrest⟩ := ht.name
  exact ⟨[], 0x3a :: rest ++ crlf, by rw [← hrest]; rfl⟩

/-- **The header lines of a SETUP other than its two**, by where they stand:
before, between and after the `CSeq` line and the `Transport` line, of which
either may be the first. -/
structure OtherHeaders where
  transportFirst : Bool
  before : List Bytes
  between : List Bytes
  after : List Bytes

namespace OtherHeaders

/-- The lines in front of the `CSeq` line up to the `Transport` line, which is
one of them if it is the first. -/
def upToTransport (o : OtherHeaders) (t : Bytes) : List Bytes :=
  if o.transportFirst then o.before ++ [t] else []

/-- The other lines in front of the `CSeq` line. -/
def frontOfCSeq (o : OtherHeaders) : List Bytes :=
  if o.transportFirst then o.between else o.before

def behindCSeq (o : OtherHeaders) (t : Bytes) : List Bytes :=
  if o.transportFirst then o.after else o.between ++ t :: o.after

/-- **The header lines of the SETUP.** -/
def lines (o : OtherHeaders) (c t : Bytes) : List Bytes :=
  o.upToTransport t ++ (o.frontOfCSeq ++ c :: o.behindCSeq t)

def frontOfTransport (o : OtherHeaders) (c : Bytes) : List Bytes :=
  if o.transportFirst then o.before else o.before ++ c :: o.between

def behindTransport (o : OtherHeaders) (c : Bytes) : List Bytes :=
  if o.transportFirst then o.between ++ c :: o.after else o.after

theorem lines_eq (o : OtherHeaders) (c t : Bytes) :
    o.lines c t = o.frontOfTransport c ++ t :: o.behindTransport c := by
  unfold lines upToTransport frontOfCSeq behindCSeq frontOfTransport behindTransport
  cases o.transportFirst <;> simp

/-- The header text. -/
def text (o : OtherHeaders) (digits t : Bytes) : Bytes :=
  Search.text crlf (o.lines (cseqLine digits) t)

/-- The header text in front of the `CSeq` line. -/
def upToCSeq (o : OtherHeaders) (t : Bytes) : Bytes :=
  Search.text crlf (o.upToTransport t ++ o.frontOfCSeq)

/-- **The SETUP is read from its own two lines.** `parseCSeq` reads the number behind the
first colon that follows the first `CSeq`, so a `CSeq` in front of the line is harmless
when the colon of the line is the first one behind it (and no NUL ends the scan before).
What the `Transport` line needs is that it decides on the transport of the whole text. -/
structure Own (o : OtherHeaders) (digits t : Bytes) : Prop where
  /-- No other line takes the place of the `CSeq` line. -/
  cseq : ∀ k ∈ Search.find (ascii "CSeq") (o.upToCSeq t),
    0x3a ∉ (o.upToCSeq t).drop k ∧ 0 ∉ (o.upToCSeq t).drop k
  /-- No other line takes a part of the `Transport` line's. -/
  transport : RtspRequest.TransportOf
    (Search.text crlf (o.frontOfTransport (cseqLine digits))) (t ++ crlf)
    (Search.text crlf (o.behindTransport (cseqLine digits)))

variable {o o' : OtherHeaders} {digits digits' t t' : Bytes}

/-! ## The number of the request -/

/-- The header text around the `CSeq` line. -/
theorem text_eq_cseq (o : OtherHeaders) (digits t : Bytes) : o.text digits t = o.upToCSeq t ++
    (ascii "CSeq: " ++ (digits ++ (crlf ++ Search.text crlf (o.behindCSeq t)))) := by
  unfold text lines upToCSeq cseqLine
  rw [← List.append_assoc, Search.text_append, Search.text_cons, List.append_assoc (ascii _)]

/-- **With its own line the number is that of the `CSeq` line.** -/
theorem Own.cseqOf_text (h : o.Own digits t) (hdigits : IsNumeral digits) :
    RtspRequest.cseqOf (o.text digits t)
      = some (.ofNat (strtoul false (decimalValue digits))) := by
  rw [text_eq_cseq]
  have hend := isDigit_head_crlf (Search.text crlf (o.behindCSeq t))
  cases hfind : Search.find (ascii "CSeq") (o.upToCSeq t) with
  | none =>
    have hfront : ∀ l ∈ o.upToTransport t ++ o.frontOfCSeq, ¬ ascii "CSeq" <:+: l :=
      fun l hl hin => Search.find_eq_none_iff_not_isInfix.mp hfind
        ((Search.isInfix_text_iff (by decide) (by decide) (by decide)).mpr ⟨l, hl, hin⟩)
    have hline : Search.find (ascii "CSeq")
        (ascii "CSeq: " ++ (digits ++ (crlf ++ Search.text crlf (o.behindCSeq t)))) = some 0 :=
      Search.find_append_of_some (by decide)
    refine RtspRequest.cseqOf_numeral
      (Search.find_text_append (by decide) (by decide) (by decide) hfront hline) ?_ hdigits hend
    exact List.drop_left
  | some k =>
    obtain ⟨hcolon, hnul⟩ := h.cseq k hfind
    have hk := (Search.find_eq_some_iff.mp hfind).1
    have hname : (o.upToCSeq t).drop k ++ ascii "CSeq" ≠ [] :=
      fun hnil => absurd (List.append_eq_nil_iff.mp hnil).2 (by decide)
    have hscan := RtspRequest.sscanfNumbers_header
      ((o.upToCSeq t).drop k ++ ascii "CSeq") hname
      (by simp only [List.mem_append, not_or]; exact ⟨hcolon, by decide⟩)
      (by simp only [List.mem_append, not_or]; exact ⟨hnul, by decide⟩) hdigits hend
    have hdrop : (o.upToCSeq t ++ (ascii "CSeq: " ++ (digits ++ (crlf ++
        Search.text crlf (o.behindCSeq t))))).drop k
        = (o.upToCSeq t).drop k ++ ascii "CSeq" ++
          (0x3a :: 0x20 :: (digits ++ (crlf ++ Search.text crlf (o.behindCSeq t)))) := by
      rw [List.drop_append_of_le_length hk, List.append_assoc]
      rfl
    unfold RtspRequest.cseqOf
    rw [Search.find_append_of_some hfind, Option.map_some, hdrop, hscan]

/-- **A `CSeq` in front of the line**, with a colon before the line, hides its
number. -/
theorem cseqOf_hidden {front : Bytes} {k : ℕ} (hk : Search.find (ascii "CSeq") front = some k)
    (h : 0x3a ∈ front.drop k ∨ 0 ∈ front.drop k) (rest rest' : Bytes) :
    RtspRequest.cseqOf (front ++ (ascii "CSeq: " ++ rest))
      = RtspRequest.cseqOf (front ++ (ascii "CSeq: " ++ rest')) := by
  have hlen := (Search.find_eq_some_iff.mp hk).1
  unfold RtspRequest.cseqOf
  rw [Search.find_append_of_some hk, Search.find_append_of_some hk, Option.map_some,
    Option.map_some, List.drop_append_of_le_length hlen, List.drop_append_of_le_length hlen,
    RtspRequest.sscanfNumbers_decoy h rest rest']

/-- A text with a `CSeq` line has a number, if not the one of the line. -/
theorem exists_cseqOf_text (o : OtherHeaders) (digits t : Bytes) :
    ∃ cseq, RtspRequest.cseqOf (o.text digits t) = some cseq := by
  have hin : ascii "CSeq" <:+: o.text digits t := by
    rw [text_eq_cseq]
    exact List.IsInfix.trans (by decide)
      ((List.prefix_append (ascii "CSeq: ") _).isInfix.trans (List.suffix_append _ _).isInfix)
  obtain ⟨k, hk⟩ := Option.isSome_iff_exists.mp (RtspRequest.find_isSome_of_isInfix hin)
  unfold RtspRequest.cseqOf
  rw [hk]
  exact ⟨_, rfl⟩

/-! ## The transport -/

/-- The header text around the `Transport` line. -/
theorem text_eq_transport (o : OtherHeaders) (digits t : Bytes) :
    o.text digits t = Search.text crlf (o.frontOfTransport (cseqLine digits)) ++
      ((t ++ crlf) ++ Search.text crlf (o.behindTransport (cseqLine digits))) := by
  unfold text
  rw [lines_eq, Search.text_append, Search.text_cons, List.append_assoc t]

/-- **With its own line the transport is that of the `Transport` line.** -/
theorem Own.readTransport_text (h : o.Own digits t) (ht : IsTransport t) :
    RtspRequest.readTransport (o.text digits t) = RtspRequest.readTransport (t ++ crlf) := by
  rw [text_eq_transport]
  exact h.transport.readTransport ⟨t ++ [0x0d], by rw [List.append_assoc]; rfl⟩ ht.isInfix

end OtherHeaders

/-! ## Two SETUPs -/

/-- **What a SETUP is read as**: whether it is complete, its number, and its
mode with the two channels and the two ports. -/
structure SetupOutcome where
  gotAll : Bool
  cseq : UInt32
  transport : TransportMode
  pairs : UInt8 × UInt8 × UInt16 × UInt16

namespace RtspRequest

def setupOutcome (r : RtspRequest) : SetupOutcome where
  gotAll := r.gotAll
  cseq := r.getCSeq
  transport := r.transport
  pairs := (r.getRtpChannel, r.getRtcpChannel, r.getRtpPort, r.getRtcpPort)

variable {p q : RtspRequest} {url message line : Bytes}

/-- A parser that has accepted the line of a new request. -/
theorem atHeaders_of_read (hp : p.IsInitial) (h : p.parseRequestLine line = .ok (true, q)) :
    q.AtHeaders q.method (RequestLine.urlWord line) := by
  obtain ⟨-, parts, rfl⟩ := RequestLine.enter_of_read h
  exact ⟨rfl, rfl, (RequestLine.enter_spec hp.requestLineParam line parts).1, hp.headerLineParam⟩

/-- The numbers of a SETUP, also of one that is not complete: it has none then. -/
theorem AtHeaders.numberParam (h : q.AtHeaders .setup url)
    (hcseq : (cseqOf message).isSome = true) {k : HeaderLineKey} (hk : k ≠ .cseq) :
    (q.headersRead message).numberParam k = transportNumber message k := by
  cases hpair : (readTransport message).2 with
  | some _ => exact (h.setup hcseq (by rw [hpair]; rfl)).2.2 k hk
  | none =>
    have hnone : (q.seeCSeq message).headerLineParam k = none := by
      unfold seeCSeq
      split
      · rw [h.headerLineParam]
      · exact (Params.emplace_of_ne _ hk _).trans (by rw [h.headerLineParam])
    have hread : q.headersRead message = (q.seeCSeq message).seeTransport message := by
      obtain ⟨-, hmethod, -, -⟩ := q.seeCSeq_spec message
      unfold RtspRequest.headersRead
      rw [parseHeadersLine_eq, if_pos (q.isSome_seeCSeq hcseq), completeHeaders,
        hmethod.trans h.method]
      dsimp only
      rw [parseTransport_eq, hpair]
      rfl
    unfold transportNumber RtspRequest.numberParam
    rw [hread, hpair]
    unfold seeTransport
    rw [hpair]
    dsimp only
    rw [hnone]
    rfl

/-- **The outcome of a SETUP**, by what its header text says. -/
theorem AtHeaders.setupOutcome (h : q.AtHeaders .setup url) {cseq : UInt32}
    (hcseq : cseqOf message = some cseq) :
    (q.headersRead message).setupOutcome = ⟨(readTransport message).2.isSome, cseq,
      (readTransport message).1.getD q.transport, (setupOf message).2⟩ := by
  have hsome : (cseqOf message).isSome = true := by
    rw [hcseq]
    rfl
  obtain ⟨hgot, -, -, hnumber⟩ := h.headersRead message
  have hmode := transport_headersRead h.method (q.isSome_seeCSeq hsome)
  have hnumbers := fun k hk => h.numberParam hsome (k := k) hk
  rw [hcseq] at hgot hnumber
  unfold RtspRequest.setupOutcome setupOf getRtpChannel getRtcpChannel getRtpPort getRtcpPort
  rw [hgot, hnumber, hmode, hnumbers .rtpChannel (by decide), hnumbers .rtcpChannel (by decide),
    hnumbers .rtpPort (by decide), hnumbers .rtcpPort (by decide)]
  rfl

end RtspRequest

/-- **A line that the server takes for the request line of a SETUP.** Whether it does is
the same for every parser, whatever an earlier request has left in it. -/
structure IsSetupLine (line : Bytes) : Prop where
  isLine : IsLine line
  accepted : ∀ p : RtspRequest, ∃ q, p.parseRequestLine line = .ok (true, q)
  method : Method.ofName (RequestLine.methodWord line) = .setup

namespace OtherHeaders

/-- **Two SETUPs are read alike**: with the same request line, `CSeq` line and
`Transport` line, each is delivered whole to the same new parser, and what is read is
the same. -/
def SameOutcome (line : Bytes) (o o' : OtherHeaders) (digits t : Bytes) : Prop :=
  ∀ p : RtspRequest, p.IsInitial → ∃ ret r r',
    p.parseRequest (line ++ crlf ++ (o.text digits t ++ crlf)) = .ok (ret, r, []) ∧
    p.parseRequest (line ++ crlf ++ (o'.text digits t ++ crlf)) = .ok (ret, r', []) ∧
    r.setupOutcome = r'.setupOutcome

variable {line : Bytes} {o o' : OtherHeaders} {digits digits' t t' : Bytes}

/-- What becomes of the SETUP in one call of the parser. -/
theorem parseRequest_text (hline : IsSetupLine line) {p : RtspRequest} (hp : p.IsInitial)
    (o : OtherHeaders) (digits t : Bytes) {cseq : UInt32}
    (hcseq : RtspRequest.cseqOf (o.text digits t) = some cseq) : ∃ r,
      p.parseRequest (line ++ crlf ++ (o.text digits t ++ crlf)) = .ok (true, r, []) ∧
      r.setupOutcome = ⟨(RtspRequest.readTransport (o.text digits t)).2.isSome, cseq,
        (RtspRequest.readTransport (o.text digits t)).1.getD p.transport,
        (RtspRequest.setupOf (o.text digits t)).2⟩ := by
  obtain ⟨q, hread⟩ := hline.accepted p
  obtain ⟨-, parts, heq⟩ := RequestLine.enter_of_read hread
  have hq := RtspRequest.atHeaders_of_read hp hread
  have hmethod : q.method = .setup := by
    rw [heq]
    exact hline.method
  have htransport : q.transport = p.transport := by
    rw [heq]
    rfl
  rw [hmethod] at hq
  have hsome : (RtspRequest.cseqOf (o.text digits t)).isSome = true := by
    rw [hcseq]
    rfl
  refine ⟨q.headersRead (o.text digits t), ?_, htransport ▸ hq.setupOutcome hcseq⟩
  rw [RtspRequest.parseRequest_whole hp.state hline.isLine hread hq.state,
    RtspRequest.parseHeadersLine_eq, if_pos (q.isSome_seeCSeq hsome)]

/-- **Two SETUPs are read alike exactly when** their texts say the same. -/
theorem sameOutcome_iff_texts (hline : IsSetupLine line) : SameOutcome line o o' digits t ↔
    RtspRequest.cseqOf (o.text digits t) = RtspRequest.cseqOf (o'.text digits t) ∧
    (RtspRequest.readTransport (o.text digits t)).2.isSome
      = (RtspRequest.readTransport (o'.text digits t)).2.isSome ∧
    RtspRequest.setupOf (o.text digits t) = RtspRequest.setupOf (o'.text digits t) := by
  obtain ⟨cseq, hcseq⟩ := exists_cseqOf_text o digits t
  obtain ⟨cseq', hcseq'⟩ := exists_cseqOf_text o' digits t
  constructor
  · intro hsame
    have hreads : ∀ mode : TransportMode,
        (⟨(RtspRequest.readTransport (o.text digits t)).2.isSome, cseq,
          (RtspRequest.readTransport (o.text digits t)).1.getD mode,
          (RtspRequest.setupOf (o.text digits t)).2⟩ : SetupOutcome)
        = ⟨(RtspRequest.readTransport (o'.text digits t)).2.isSome, cseq',
          (RtspRequest.readTransport (o'.text digits t)).1.getD mode,
          (RtspRequest.setupOf (o'.text digits t)).2⟩ := by
      intro mode
      have hp : (⟨.none, .channel0, mode, fun _ => none, fun _ => none,
          .parseRequestLine⟩ : RtspRequest).IsInitial := ⟨rfl, rfl, rfl⟩
      obtain ⟨r, hparse, hr⟩ := parseRequest_text hline hp o digits t hcseq
      obtain ⟨r', hparse', hr'⟩ := parseRequest_text hline hp o' digits t hcseq'
      obtain ⟨ret, x, x', hx, hx', houtcome⟩ := hsame _ hp
      rw [hparse, Except.ok.injEq, Prod.mk.injEq] at hx
      rw [hparse', Except.ok.injEq, Prod.mk.injEq] at hx'
      obtain ⟨-, rfl, -⟩ := hx
      obtain ⟨-, rfl, -⟩ := hx'
      rw [hr, hr'] at houtcome
      exact houtcome
    -- a text without a mode leaves the one before, which may be any
    have hmode : (RtspRequest.setupOf (o.text digits t)).1
        = (RtspRequest.setupOf (o'.text digits t)).1 := by
      have htcp := congrArg SetupOutcome.transport (hreads .rtpOverTcp)
      have hudp := congrArg SetupOutcome.transport (hreads .rtpOverUdp)
      dsimp only at htcp hudp
      show (RtspRequest.readTransport _).1 = (RtspRequest.readTransport _).1
      cases hone : (RtspRequest.readTransport (o.text digits t)).1 with
      | none =>
        cases htwo : (RtspRequest.readTransport (o'.text digits t)).1 with
        | none => rfl
        | some mode =>
          rw [hone, htwo, Option.getD_none, Option.getD_some] at htcp hudp
          exact absurd (htcp.trans hudp.symm) (by decide)
      | some mode =>
        cases htwo : (RtspRequest.readTransport (o'.text digits t)).1 with
        | none =>
          rw [hone, htwo, Option.getD_none, Option.getD_some] at htcp hudp
          exact absurd (htcp.symm.trans hudp) (by decide)
        | some mode' =>
          rw [hone, htwo, Option.getD_some, Option.getD_some] at htcp
          rw [htcp]
    refine ⟨?_, congrArg SetupOutcome.gotAll (hreads .rtpOverTcp),
      Prod.ext hmode (congrArg SetupOutcome.pairs (hreads .rtpOverTcp))⟩
    rw [hcseq, hcseq', show cseq = cseq' from congrArg SetupOutcome.cseq (hreads .rtpOverTcp)]
  · rintro ⟨hnumber, hcomplete, hsetup⟩ p hp
    obtain ⟨r, hparse, hr⟩ := parseRequest_text hline hp o digits t hcseq
    obtain ⟨r', hparse', hr'⟩ := parseRequest_text hline hp o' digits t hcseq'
    refine ⟨true, r, r', hparse, hparse', ?_⟩
    rw [hcseq, hcseq', Option.some.injEq] at hnumber
    have hmode : (RtspRequest.setupOf (o.text digits t)).1
        = (RtspRequest.setupOf (o'.text digits t)).1 := congrArg Prod.fst hsetup
    have hmode : (RtspRequest.readTransport (o.text digits t)).1
        = (RtspRequest.readTransport (o'.text digits t)).1 := hmode
    rw [hr, hr', hnumber, hcomplete, hmode, hsetup]

/-- Two texts of one transport say the same of it. -/
theorem Own.setupOf_text (h : o.Own digits t) (ht : IsTransport t) :
    RtspRequest.setupOf (o.text digits t) = RtspRequest.setupOf (t ++ crlf) := by
  unfold RtspRequest.setupOf RtspRequest.transportNumber
  rw [h.readTransport_text ht]

/-- **SETUPs that are read from their own lines are read alike.** -/
theorem Own.sameOutcome (hline : IsSetupLine line) (hdigits : IsNumeral digits)
    (ht : IsTransport t) (h : o.Own digits t) (h' : o'.Own digits t) :
    SameOutcome line o o' digits t := by
  refine (sameOutcome_iff_texts hline).mpr ⟨?_, ?_, ?_⟩
  · rw [h.cseqOf_text hdigits, h'.cseqOf_text hdigits]
  · rw [h.readTransport_text ht, h'.readTransport_text ht]
  · rw [h.setupOf_text ht, h'.setupOf_text ht]

/-! ## Lines that take part are found out -/

/-- The `Transport` line has two numbers, and both are there. -/
def TakesPair (t : Bytes) : Prop :=
  RtspRequest.HasNumbers (t ++ crlf) ∧ (RtspRequest.transportPair
    (RtspRequest.transportKey (t ++ crlf)) (t ++ crlf)).isSome = true

/-- **The same `Transport` line with other numbers**: the lines differ behind the place
of the numbers only, and are read as different transports. -/
structure Renumbered (t t' : Bytes) : Prop where
  same_front : ∃ pre tail tail', t = pre ++ tail ∧ t' = pre ++ tail' ∧
    RtspRequest.transportPlace (RtspRequest.transportKey (t ++ crlf)) pre = some pre.length
  hasNumbers : RtspRequest.HasNumbers (t ++ crlf) ∧ RtspRequest.HasNumbers (t' ++ crlf)
  same_key : RtspRequest.transportKey (t ++ crlf) = RtspRequest.transportKey (t' ++ crlf)
  others : RtspRequest.setupOf (t ++ crlf) ≠ RtspRequest.setupOf (t' ++ crlf)

theorem Renumbered.symm (h : Renumbered t t') : Renumbered t' t := by
  obtain ⟨pre, tail, tail', heq, heq', hplace⟩ := h.same_front
  exact ⟨⟨pre, tail', tail, heq', heq, h.same_key ▸ hplace⟩, h.hasNumbers.symm, h.same_key.symm,
    h.others.symm⟩

/-- What a SETUP is read as that is read like one which reads its own lines. -/
theorem SameOutcome.read_eq (hsame : SameOutcome line o o' digits t) (hline : IsSetupLine line)
    (hdigits : IsNumeral digits) (ht : IsTransport t) (h' : o'.Own digits t) :
    RtspRequest.cseqOf (o.text digits t) = some (.ofNat (strtoul false (decimalValue digits))) ∧
    (RtspRequest.readTransport (o.text digits t)).2.isSome
      = (RtspRequest.readTransport (t ++ crlf)).2.isSome ∧
    RtspRequest.setupOf (o.text digits t) = RtspRequest.setupOf (t ++ crlf) := by
  have htexts := (sameOutcome_iff_texts hline).mp hsame
  rw [h'.cseqOf_text hdigits, h'.readTransport_text ht, h'.setupOf_text ht] at htexts
  exact htexts

/-- **The number is that of the line** if it is for two lines. -/
theorem cseq_of_cseqOf_text (hne : UInt32.ofNat (strtoul false (decimalValue digits))
      ≠ .ofNat (strtoul false (decimalValue digits')))
    (h : RtspRequest.cseqOf (o.text digits t)
      = some (.ofNat (strtoul false (decimalValue digits))))
    (h' : RtspRequest.cseqOf (o.text digits' t)
      = some (.ofNat (strtoul false (decimalValue digits')))) :
    ∀ k ∈ Search.find (ascii "CSeq") (o.upToCSeq t),
      0x3a ∉ (o.upToCSeq t).drop k ∧ 0 ∉ (o.upToCSeq t).drop k := by
  intro k hk
  rw [← not_or]
  intro hmem
  rw [text_eq_cseq] at h h'
  rw [cseqOf_hidden hk hmem _ (digits' ++ (crlf ++ Search.text crlf (o.behindCSeq t))), h',
    Option.some.injEq] at h
  exact hne h.symm

/-- **The place of the numbers is that of the line** if both of two lines have their
numbers read. -/
theorem place_of_setupOf_text {front behind : Bytes} (ht : IsTransport t) (ht' : IsTransport t')
    (hform : Renumbered t t')
    (hkey : RtspRequest.transportKey (front ++ ((t ++ crlf) ++ behind))
      = RtspRequest.transportKey (t ++ crlf))
    (hkey' : RtspRequest.transportKey (front ++ ((t' ++ crlf) ++ behind))
      = RtspRequest.transportKey (t' ++ crlf))
    (h : RtspRequest.setupOf (front ++ ((t ++ crlf) ++ behind))
      = RtspRequest.setupOf (t ++ crlf))
    (h' : RtspRequest.setupOf (front ++ ((t' ++ crlf) ++ behind))
      = RtspRequest.setupOf (t' ++ crlf)) :
    RtspRequest.transportPlace (RtspRequest.transportKey (t ++ crlf))
        (front ++ ((t ++ crlf) ++ behind))
      = (RtspRequest.transportPlace (RtspRequest.transportKey (t ++ crlf)) (t ++ crlf)).map
        (front.length + ·) := by
  obtain ⟨pre, tail, tail', heq, heq', hplace⟩ := hform.same_front
  have hcut : ∀ {l tail : Bytes}, l = pre ++ tail → front ++ ((l ++ crlf) ++ behind)
      = front ++ (pre ++ (tail ++ crlf ++ behind)) := by
    rintro l tail rfl
    simp only [List.append_assoc]
  rcases RtspRequest.transportPair_fixed hplace front with hown | hfixed
  · have hpart := RtspRequest.transportPlace_append hplace (tail ++ crlf)
    rw [← List.append_assoc, ← heq] at hpart
    rw [hpart, Option.map_some, hcut heq, hown]
  · -- else the two lines would be read with the same numbers
    refine absurd ?_ hform.others
    rw [← h, ← h']
    refine RtspRequest.setupOf_congr (RtspRequest.isInfix_around ht.isInfix _ _)
      (RtspRequest.isInfix_around ht'.isInfix _ _) (hform.hasNumbers.1.around _ _)
      (hform.hasNumbers.2.around _ _) (hkey.trans (hform.same_key.trans hkey'.symm)) ?_
    rw [hkey, hkey', ← hform.same_key, hcut heq, hcut heq']
    exact hfixed _ _

/-- **A SETUP that is read like one which reads its own lines** reads its own lines too:
for two numbers of the `CSeq`, and, when the `Transport` line has numbers, for another
line with other numbers. -/
theorem own_of_sameOutcome (hline : IsSetupLine line) (hdigits : IsNumeral digits)
    (hdigits' : IsNumeral digits') (hne : UInt32.ofNat (strtoul false (decimalValue digits))
      ≠ .ofNat (strtoul false (decimalValue digits')))
    (ht : IsTransport t) (ht' : IsTransport t') (hform : TakesPair t → Renumbered t t')
    (h₁ : o'.Own digits t ∧ SameOutcome line o o' digits t)
    (h₂ : o'.Own digits' t ∧ SameOutcome line o o' digits' t)
    (h₃ : o'.Own digits t' ∧ SameOutcome line o o' digits t') : o.Own digits t := by
  obtain ⟨hcseq₁, hsome₁, hsetup₁⟩ := h₁.2.read_eq hline hdigits ht h₁.1
  obtain ⟨hcseq₂, -, -⟩ := h₂.2.read_eq hline hdigits' ht h₂.1
  obtain ⟨-, -, hsetup₃⟩ := h₃.2.read_eq hline hdigits ht' h₃.1
  rw [text_eq_transport] at hsome₁ hsetup₁ hsetup₃
  have hmode₁ := (Prod.ext_iff.mp hsetup₁).1
  have hmode₃ := (Prod.ext_iff.mp hsetup₃).1
  obtain ⟨htcp, hunicast, hmulticast⟩ := RtspRequest.words_of_fst ht.isInfix hmode₁
  obtain ⟨htcp', -, -⟩ := RtspRequest.words_of_fst ht'.isInfix hmode₃
  have hkey := RtspRequest.transportKey_around htcp
  have hkey' := RtspRequest.transportKey_around htcp'
  refine ⟨cseq_of_cseqOf_text hne hcseq₁ hcseq₂, htcp, hunicast, hmulticast, ?_, ?_⟩
  · intro hnumbers hpair
    exact place_of_setupOf_text ht ht' (hform ⟨hnumbers, hpair⟩) hkey hkey' hsetup₁ hsetup₃
  · intro hnumbers hnone
    have hname := RtspRequest.isInfix_around ht.isInfix
    rw [RtspRequest.isSome_readTransport ht.isInfix hnumbers, hnone,
      RtspRequest.isSome_readTransport (hname _ _) (hnumbers.around _ _), hkey] at hsome₁
    exact Option.isNone_iff_eq_none.mp (Option.isSome_eq_false_iff.mp hsome₁)

/-- **When the other lines of a SETUP take no part in its outcome.** Two SETUPs with the
same request line, the same `CSeq` line and the same `Transport` line, complete or not,
have the same outcome when each is read from its own two lines, whatever the other lines
are. And that is what it takes: take two numbers for the `CSeq` line and, if the
`Transport` line has numbers, others for it. A SETUP has the outcome of one that is read
from its own lines, each time, exactly when it is read from its own lines itself, each
time. -/
theorem sameOutcome_iff (hline : IsSetupLine line) :
    (∀ (o o' : OtherHeaders) (digits t : Bytes), IsNumeral digits → IsTransport t →
      o.Own digits t → o'.Own digits t → SameOutcome line o o' digits t) ∧
    ∀ (o o' : OtherHeaders) (digits digits' t t' : Bytes),
      IsNumeral digits → IsNumeral digits' →
      UInt32.ofNat (strtoul false (decimalValue digits))
        ≠ .ofNat (strtoul false (decimalValue digits')) →
      IsTransport t → IsTransport t' → (t' = t ∧ ¬ TakesPair t ∨ Renumbered t t') →
      (∀ d ∈ [digits, digits'], ∀ l ∈ [t, t'], o'.Own d l) →
      ((∀ d ∈ [digits, digits'], ∀ l ∈ [t, t'], SameOutcome line o o' d l) ↔
        ∀ d ∈ [digits, digits'], ∀ l ∈ [t, t'], o.Own d l) := by
  refine ⟨fun _ _ _ _ hdigits ht h h' => h.sameOutcome hline hdigits ht h', ?_⟩
  intro o o' digits digits' t t' hdigits hdigits' hne ht ht' hform hown
  have hnumeral : ∀ d ∈ [digits, digits'], IsNumeral d := by simp [hdigits, hdigits']
  have htransport : ∀ l ∈ [t, t'], IsTransport l := by simp [ht, ht']
  refine ⟨fun hsame d hd l hl => ?_, fun h d hd l hl =>
    (h d hd l hl).sameOutcome hline (hnumeral d hd) (htransport l hl) (hown d hd l hl)⟩
  -- the other number and the other line
  obtain ⟨d', hd', hne'⟩ : ∃ d' ∈ [digits, digits'],
      UInt32.ofNat (strtoul false (decimalValue d))
        ≠ .ofNat (strtoul false (decimalValue d')) := by
    simp only [List.mem_cons, List.not_mem_nil, or_false] at hd
    rcases hd with rfl | rfl
    · exact ⟨digits', by simp, hne⟩
    · exact ⟨digits, by simp, hne.symm⟩
  obtain ⟨l', hl', hform'⟩ : ∃ l' ∈ [t, t'], TakesPair l → Renumbered l l' := by
    simp only [List.mem_cons, List.not_mem_nil, or_false] at hl
    rcases hform with ⟨rfl, hnone⟩ | hform
    · rw [or_self] at hl
      exact ⟨t', by simp, fun htakes => absurd (hl ▸ htakes) hnone⟩
    · rcases hl with rfl | rfl
      · exact ⟨t', by simp, fun _ => hform⟩
      · exact ⟨t, by simp, fun _ => hform.symm⟩
  exact own_of_sameOutcome hline (hnumeral d hd) (hnumeral d' hd') hne' (htransport l hl)
    (htransport l' hl') hform' ⟨hown d hd l hl, hsame d hd l hl⟩
    ⟨hown d' hd' l hl, hsame d' hd' l hl⟩ ⟨hown d hd l' hl', hsame d hd l' hl'⟩

/-! ## Two clients -/

instance (o : OtherHeaders) (digits t : Bytes) : Decidable (o.Own digits t) :=
  decidable_of_iff ((∀ k ∈ Search.find (ascii "CSeq") (o.upToCSeq t),
      0x3a ∉ (o.upToCSeq t).drop k ∧ 0 ∉ (o.upToCSeq t).drop k) ∧
    RtspRequest.TransportOf (Search.text crlf (o.frontOfTransport (cseqLine digits)))
      (t ++ crlf) (Search.text crlf (o.behindTransport (cseqLine digits))))
    ⟨fun h => ⟨h.1, h.2⟩, fun h => ⟨h.cseq, h.transport⟩⟩

/-- A line that one parser takes for the request line of a SETUP. -/
theorem isSetupLine_of_read {p q : RtspRequest} (hline : IsLine line)
    (h : p.parseRequestLine line = .ok (true, q)) (hmethod : q.method = .setup) :
    IsSetupLine line := by
  refine ⟨hline, fun p' => ?_, ?_⟩
  · rcases RtspRequest.parseRequestLine_cases line with ⟨e, he⟩ | hrejected | haccepted
    · rw [he p] at h
      cases h
    · obtain ⟨q', hq', -⟩ := hrejected p
      rw [hq'] at h
      cases h
    · obtain ⟨q', hq', -⟩ := haccepted p'
      exact ⟨q', hq'⟩
  · obtain ⟨-, parts, rfl⟩ := RequestLine.enter_of_read h
    exact hmethod

theorem isSetupLine_track : IsSetupLine RequestText.trackSetup.requestLine := by
  have hp : (⟨.none, .channel0, .rtpOverTcp, fun _ => none, fun _ => none,
      .parseRequestLine⟩ : RtspRequest).IsInitial := ⟨rfl, rfl, rfl⟩
  obtain ⟨q, hread, hq, -⟩ := RequestText.trackSetup.parseRequestLine_requestLine hp
  exact isSetupLine_of_read RequestText.trackSetup.isLine_requestLine hread hq.method

/-- A transport over TCP. -/
def tcpTransport (channels : Bytes) : Bytes :=
  ascii "Transport: RTP/AVP/TCP;unicast;interleaved=" ++ channels

/-- A client that says what it can do, in front of the two lines. -/
def capable : OtherHeaders where
  transportFirst := false
  before := [ascii "X-Can: RTP/AVP"]
  between := []
  after := []

/-- A language behind the two lines. -/
def language : OtherHeaders where
  transportFirst := true
  before := []
  between := []
  after := [ascii "Accept-Language: en"]

/-- What the two clients are read as over TCP. -/
theorem own_clients : ∀ d ∈ [ascii "1", ascii "2"],
    ∀ l ∈ [tcpTransport (ascii "0-1"), tcpTransport (ascii "2-3")],
      capable.Own d l ∧ language.Own d l := by
  decide +kernel

theorem renumbered_tcp :
    Renumbered (tcpTransport (ascii "0-1")) (tcpTransport (ascii "2-3")) := by
  refine ⟨⟨ascii "Transport: RTP/AVP/TCP;unicast;interleaved=", ascii "0-1", ascii "2-3", rfl,
    rfl, ?_⟩, ?_, ?_, ?_⟩ <;> decide +kernel

/-- `sameOutcome_iff` for a line that says `RTP/AVP` in front of a transport over TCP. -/
theorem sameOutcome_capable :
    SameOutcome RequestText.trackSetup.requestLine capable language (ascii "1")
      (tcpTransport (ascii "0-1")) ∧
    ((∀ d ∈ [ascii "1", ascii "2"], ∀ l ∈ [tcpTransport (ascii "0-1"), tcpTransport (ascii "2-3")],
        SameOutcome RequestText.trackSetup.requestLine capable language d l) ↔
      ∀ d ∈ [ascii "1", ascii "2"],
        ∀ l ∈ [tcpTransport (ascii "0-1"), tcpTransport (ascii "2-3")], capable.Own d l) := by
  have hown := own_clients _ List.mem_cons_self _ List.mem_cons_self
  exact ⟨(sameOutcome_iff isSetupLine_track).1 _ _ _ _ (by decide) (by decide) hown.1 hown.2,
    (sameOutcome_iff isSetupLine_track).2 _ _ _ _ _ _ (by decide) (by decide) (by decide +kernel)
      (by decide) (by decide) (.inr renumbered_tcp) fun d hd l hl => (own_clients d hd l hl).2⟩

/-- **A header line other than the two.** -/
def IsOtherHeader (l : Bytes) : Prop :=
  ∃ name value, l = name ++ 0x3a :: value ∧ IsWord name ∧ 0x3a ∉ name ∧ IsLine value ∧
    name ≠ ascii "CSeq" ∧ name ≠ ascii "Transport"

/-- A client's name in front of the two lines. -/
def userAgent : OtherHeaders where
  transportFirst := false
  before := [ascii "User-Agent: LibVLC"]
  between := []
  after := []

/-- A client that says in its name what it can do. -/
def tcpAgent : OtherHeaders where
  transportFirst := false
  before := [ascii "User-Agent: player (RTP/AVP/TCP)"]
  between := []
  after := []

/-- A transport over UDP. -/
def udpTransport : Bytes := ascii "Transport: RTP/AVP;unicast;client_port=1-2"

/-- What the two names make of a transport over UDP. -/
theorem setupOf_agents :
    (RtspRequest.setupOf (tcpAgent.text (ascii "1") udpTransport)).1 = some .rtpOverTcp ∧
    (RtspRequest.setupOf (userAgent.text (ascii "1") udpTransport)).1 = some .rtpOverUdp := by
  decide +kernel

/-- **A name with `RTP/AVP/TCP` changes the outcome of a SETUP.** -/
theorem not_sameOutcome_tcpAgent : ¬ ∀ (line : Bytes) (o o' : OtherHeaders) (digits t : Bytes),
    IsSetupLine line → IsNumeral digits → IsTransport t →
    (∀ l ∈ o.before ++ (o.between ++ o.after), IsOtherHeader l) →
    (∀ l ∈ o'.before ++ (o'.between ++ o'.after), IsOtherHeader l) →
    SameOutcome line o o' digits t := by
  intro h
  have hsame : SameOutcome RequestText.trackSetup.requestLine tcpAgent userAgent (ascii "1")
      udpTransport := by
    refine h _ _ _ _ _ isSetupLine_track (by decide) (by decide) (fun l hl => ?_) (fun l hl => ?_)
    · obtain rfl := List.mem_singleton.mp hl
      exact ⟨ascii "User-Agent", ascii " player (RTP/AVP/TCP)", rfl, by decide, by decide,
        by decide, by decide, by decide⟩
    · obtain rfl := List.mem_singleton.mp hl
      exact ⟨ascii "User-Agent", ascii " LibVLC", rfl, by decide, by decide, by decide,
        by decide, by decide⟩
  have hmode := congrArg Prod.fst ((sameOutcome_iff_texts isSetupLine_track).mp hsame).2.2
  rw [setupOf_agents.1, setupOf_agents.2] at hmode
  cases hmode

end OtherHeaders
