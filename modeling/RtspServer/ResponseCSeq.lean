import RtspServer.RequestHistory
import RtspServer.ResponseText

/-!
# The CSeq of a response

A response repeats the number of its request, which went through one scan and
a map of 32-bit numbers. Of the formats that print it some take it for unsigned
(`cseqLine`) and some for signed (`cseqLineSigned`); both stand in the second
line, in front of everything that may be cut. So a client reads its own number
exactly when the scan found that, and it is below `2 ^ 31` where the answer is
one that prints it as a signed number (`echoesCSeq_iff`).
-/

open RtspRequest (line decimal signedDecimal response snprintf)

namespace ResponseText

/-! ## The second line -/

/-- What is asked of a status line: it is one line, not a long one, and no
`CSeq` header. -/
structure IsStatus (status : Bytes) : Prop where
  isLine : IsLine status
  ne_nil : status ≠ []
  not_cseq : ¬ ascii "CSeq" ++ ascii ": " <+: status
  fits : status.length < 100

/-- **The CSeq of a response is read from its second line**, whatever follows
that and is cut. -/
theorem headerNumber_cseq {status : String} (hstatus : IsStatus (ascii ("RTSP/1.0 " ++ status)))
    {value : Bytes} (hvalue : IsLine value) (hfits : value.length < 100) (headers : List Bytes)
    (body : Bytes) :
    headerNumber (ascii "CSeq")
      (snprintf [] 1024 (response status ((ascii "CSeq: " ++ value) :: headers) ++ body))
        = number value := by
  have hline : IsLine (ascii "CSeq: " ++ value) :=
    IsLine.append (by decide : IsLine (ascii "CSeq: ")) hvalue
  have hne : ascii "CSeq: " ++ value ≠ [] := fun h => by cases h
  -- the two lines that are not cut
  have htext : response status ((ascii "CSeq: " ++ value) :: headers) ++ body
      = line (ascii ("RTSP/1.0 " ++ status)) ++ line (ascii "CSeq: " ++ value)
        ++ ((headers.map line).flatten ++ crlf ++ body) := by
    unfold response
    rw [List.map_cons, List.flatten_cons]
    simp only [List.append_assoc]
  have hlength : (line (ascii ("RTSP/1.0 " ++ status)) ++ line (ascii "CSeq: " ++ value)).length
      < 1024 := by
    have hname : (ascii "CSeq: ").length = 6 := by decide
    have := hstatus.fits
    rw [List.length_append, RtspRequest.length_line, RtspRequest.length_line, List.length_append]
    omega
  have hcseq : ascii "CSeq: " ++ value = ascii "CSeq" ++ ascii ": " ++ value := rfl
  unfold headerNumber headLines
  rw [htext, RtspRequest.snprintf_append hlength, List.append_assoc,
    splitHead_line hstatus.isLine hstatus.ne_nil, splitHead_line hline hne,
    header_cons_of_not hstatus.not_cseq, hcseq, header_cons, Option.bind_some]

/-! ## The two ways to print a number -/

theorem isLine_signedDecimal (n : UInt32) : IsLine (signedDecimal n) := by
  unfold signedDecimal
  split
  · exact isLine_decimal _
  · exact IsLine.append (by decide : IsLine (ascii "-")) (isLine_decimal _)

theorem length_signedDecimal_lt (n : UInt32) : (signedDecimal n).length < 100 := by
  unfold signedDecimal
  split
  · have := Scanf.length_decimal_uint32 n
    omega
  · have hdigits : (decimal (4294967296 - n.toNat)).length ≤ 10 :=
      Scanf.length_decimal_le (by decide) (by omega)
    have hsign : (ascii "-").length = 1 := rfl
    rw [List.length_append]
    omega

/-- **A number printed as signed is read back** below `2 ^ 31` only: from there on
it has a sign. -/
theorem number_signedDecimal (n : UInt32) :
    number (signedDecimal n) = if n.toNat < 2147483648 then some n.toNat else none := by
  unfold signedDecimal
  split
  · exact number_decimal n.toNat
  · have hsign : ¬ Scanf.IsNumeral (ascii "-" ++ decimal (4294967296 - n.toNat)) := fun h =>
      absurd (h.isDigit 0x2d List.mem_cons_self) (by decide)
    unfold number
    rw [if_neg hsign]

end ResponseText

/-! ## The answers of the handlers -/

namespace RtspRequest

open ResponseText

theorem isStatus_ok : IsStatus (ascii ("RTSP/1.0 " ++ "200 OK")) := by
  constructor <;> decide

theorem isStatus_notFound : IsStatus (ascii ("RTSP/1.0 " ++ "404 Stream Not Found")) := by
  constructor <;> decide

theorem isStatus_serverError :
    IsStatus (ascii ("RTSP/1.0 " ++ "500 Internal Server Error")) := by
  constructor <;> decide

theorem isStatus_unsupported :
    IsStatus (ascii ("RTSP/1.0 " ++ "461 Unsupported transport")) := by
  constructor <;> decide

/-- **A response with the number as `%u`** gives the number. -/
theorem headerNumber_cseqLine (r : RtspRequest) {status : String}
    (hstatus : IsStatus (ascii ("RTSP/1.0 " ++ status))) {headers : List Bytes} {body text : Bytes}
    (htext : text = response status (r.cseqLine :: headers) ++ body) :
    headerNumber (ascii "CSeq") (snprintf [] 1024 text) = some r.getCSeq.toNat := by
  have hlength := Scanf.length_decimal_uint32 r.getCSeq
  rw [htext]
  exact (headerNumber_cseq hstatus (isLine_decimal _) (by omega) headers body).trans
    (number_decimal _)

/-- The number of a response with the number as `%d`. -/
def signedNumber (r : RtspRequest) : Option ℕ :=
  if r.getCSeq.toNat < 2147483648 then some r.getCSeq.toNat else none

/-- **A response with the number as `%d`** gives it below `2 ^ 31`. -/
theorem headerNumber_cseqLineSigned (r : RtspRequest) {status : String}
    (hstatus : IsStatus (ascii ("RTSP/1.0 " ++ status))) {headers : List Bytes} {body text : Bytes}
    (htext : text = response status (r.cseqLineSigned :: headers) ++ body) :
    headerNumber (ascii "CSeq") (snprintf [] 1024 text) = r.signedNumber := by
  rw [htext]
  exact (headerNumber_cseq hstatus (isLine_signedDecimal _) (length_signedDecimal_lt _) headers
    body).trans (number_signedDecimal _)

/-- The response to PLAY is one text in the end. -/
theorem buildPlayRes_eq (r : RtspRequest) (sessionId : UInt32) :
    r.buildPlayRes 1024 none sessionId = snprintf [] 1024 (response "200 OK"
      [r.cseqLineSigned, ascii "Range: npt=0.000-",
        sessionLine sessionId ++ ascii "; timeout=60"]) := by
  unfold buildPlayRes
  dsimp only
  rw [snprintf_snprintf]
  unfold response
  simp only [List.map_cons, List.map_nil, List.flatten_cons, List.flatten_nil, List.append_assoc,
    List.append_nil]
  rfl

end RtspRequest

namespace Serving

open ResponseText

/-- The one message that was sent is the one that was given to `sendMessage`. -/
theorem message_of_sent {x y : Serving} {message message' : Bytes} (hy : y.sent = x.sent)
    (h : (y.sendMessage message).sent = x.sent ++ [message']) : message' = message := by
  unfold sendMessage at h
  split at h
  · exact (List.singleton_inj.mp (List.append_cancel_left (hy ▸ h))).symm
  · rw [hy] at h
    exact absurd (congrArg List.length h) (by simp)

/-- OPTIONS is answered with the number. -/
theorem handleCmdOption_number {r : RtspRequest} {x : Serving} {message : Bytes}
    (hsent : (x.handleCmdOption r).sent = x.sent ++ [message]) :
    headerNumber (ascii "CSeq") message = some r.getCSeq.toNat := by
  rw [message_of_sent rfl hsent]
  exact r.headerNumber_cseqLine RtspRequest.isStatus_ok (List.append_nil _).symm

/-- **DESCRIBE is answered with the number**, be the answer 200, 404 or 500. -/
theorem handleCmdDescribe_number {env : Env} {r : RtspRequest} {x : Serving} {message : Bytes}
    (hsent : (x.handleCmdDescribe env r).sent = x.sent ++ [message]) :
    headerNumber (ascii "CSeq") message = some r.getCSeq.toNat := by
  obtain ⟨-, -, -, -, hcreated⟩ := createRtpConn_spec env x
  unfold handleCmdDescribe at hsent
  rcases hc : x.createRtpConn env with ⟨ref, y⟩
  rw [hc] at hcreated hsent
  dsimp only at hcreated hsent
  generalize y.world.rtsp.lookMediaSessionBySuffix r.getRtspUrlSuffix = found at hsent
  obtain ⟨_ | ⟨id, session⟩, rtsp⟩ := found
  · rw [message_of_sent (by exact hcreated) hsent]
    exact r.headerNumber_cseqLine RtspRequest.isStatus_notFound (List.append_nil _).symm
  · dsimp only at hsent
    split at hsent
    · rw [message_of_sent (by exact hcreated) hsent]
      exact r.headerNumber_cseqLine RtspRequest.isStatus_serverError (List.append_nil _).symm
    · rw [message_of_sent (by exact hcreated) hsent]
      exact r.headerNumber_cseqLine RtspRequest.isStatus_ok rfl

/-- **The commands that are answered with a signed number**: PLAY, TEARDOWN and
GET_PARAMETER, and a SETUP whose transport is refused. -/
def AnswersSigned (x : Serving) (m : Method) (transport : TransportMode) : Prop :=
  match m with
  | .play | .teardown | .getParameter => True
  | .setup => transport = .rtpOverMulticast ∧
      x.world.rtsp.lookMediaSession x.conn.sessionId ≠ none
  | _ => False

/-- The transport matters for a SETUP only. -/
theorem answersSigned_congr {x : Serving} {m : Method} {t t' : TransportMode}
    (h : m = .setup → t = t') : x.AnswersSigned m t ↔ x.AnswersSigned m t' := by
  cases m with
  | setup => rw [h rfl]
  | _ => exact Iff.rfl

/-- **The number in the answer to a command.** -/
structure AnswersNumber (x : Serving) (r : RtspRequest) (message : Bytes) : Prop where
  unsigned : ¬ x.AnswersSigned r.method r.transport →
    headerNumber (ascii "CSeq") message = some r.getCSeq.toNat
  signed : x.AnswersSigned r.method r.transport →
    headerNumber (ascii "CSeq") message = r.signedNumber

theorem AnswersNumber.of_not_signed {x : Serving} {r : RtspRequest} {message : Bytes}
    (hnot : ¬ x.AnswersSigned r.method r.transport)
    (h : headerNumber (ascii "CSeq") message = some r.getCSeq.toNat) : x.AnswersNumber r message :=
  ⟨fun _ => h, fun hsigned => absurd hsigned hnot⟩

theorem AnswersNumber.of_signed {x : Serving} {r : RtspRequest} {message : Bytes}
    (hsigned : x.AnswersSigned r.method r.transport)
    (h : headerNumber (ascii "CSeq") message = r.signedNumber) : x.AnswersNumber r message :=
  ⟨fun hnot => absurd hsigned hnot, fun _ => h⟩

/-- **SETUP is answered with the number** if the answer is 200 or 500; the answer
461 has it as a signed one. -/
theorem handleCmdSetup_number {env : Env} {r : RtspRequest} {x x' : Serving} {message : Bytes}
    (hm : r.method = .setup) (h : x.handleCmdSetup env r = .ok x')
    (hsent : x'.sent = x.sent ++ [message]) : x.AnswersNumber r message := by
  have hsetup : x.AnswersSigned r.method r.transport ↔ x.AnswersSigned .setup r.transport := by
    rw [hm]
  unfold handleCmdSetup at h
  cases hsession : x.world.rtsp.lookMediaSession x.conn.sessionId with
  | none =>
    rw [hsession] at h
    cases h
    refine .of_not_signed (fun hyes => (hsetup.mp hyes).2 hsession) ?_
    rw [message_of_sent rfl hsent]
    exact r.headerNumber_cseqLine RtspRequest.isStatus_serverError (List.append_nil _).symm
  | some session =>
    rw [hsession] at h
    cases ht : r.transport with
    | rtpOverTcp =>
      simp only [ht] at h
      obtain ⟨⟨ref, c⟩, -, h⟩ := Except.bind_eq_ok_iff.mp h
      cases h
      refine .of_not_signed (fun hyes => by cases ht ▸ (hsetup.mp hyes).1) ?_
      rw [message_of_sent rfl hsent]
      exact r.headerNumber_cseqLine RtspRequest.isStatus_ok (List.append_nil _).symm
    | rtpOverUdp =>
      simp only [ht] at h
      obtain ⟨⟨ref, c⟩, -, h⟩ := Except.bind_eq_ok_iff.mp h
      refine .of_not_signed (fun hyes => by cases ht ▸ (hsetup.mp hyes).1) ?_
      dsimp only at h
      split at h
      · cases h
        rw [message_of_sent rfl hsent]
        exact r.headerNumber_cseqLine RtspRequest.isStatus_ok (List.append_nil _).symm
      · cases h
        rw [message_of_sent rfl hsent]
        exact r.headerNumber_cseqLine RtspRequest.isStatus_serverError (List.append_nil _).symm
    | rtpOverMulticast =>
      simp only [ht] at h
      cases h
      refine .of_signed (hsetup.mpr ⟨ht, hsession ▸ Option.some_ne_none session⟩) ?_
      rw [message_of_sent rfl hsent]
      exact r.headerNumber_cseqLineSigned RtspRequest.isStatus_unsupported
        (List.append_nil _).symm

/-- **Every answer to a command** has its number, printed one way or the
other. -/
theorem handleCmd_number {env : Env} {r : RtspRequest} {x x' : Serving} {message : Bytes}
    (h : x.handleCmd env r = .ok x') (hsent : x'.sent = x.sent ++ [message]) :
    x.AnswersNumber r message := by
  have hnothing : x'.sent ≠ x.sent := fun hsame =>
    absurd (congrArg List.length (hsame ▸ hsent)) (by simp)
  unfold handleCmd at h
  cases hm : r.method with
  | options =>
    rw [hm] at h
    cases h
    exact .of_not_signed (by rw [hm]; exact id) (handleCmdOption_number hsent)
  | describe =>
    rw [hm] at h
    cases h
    exact .of_not_signed (by rw [hm]; exact id) (handleCmdDescribe_number hsent)
  | setup =>
    rw [hm] at h
    exact handleCmdSetup_number hm h hsent
  | play =>
    rw [hm] at h
    obtain ⟨⟨ref, c⟩, -, h⟩ := Except.bind_eq_ok_iff.mp h
    cases h
    refine .of_signed (by rw [hm]; trivial) ?_
    rw [message_of_sent rfl hsent, r.buildPlayRes_eq]
    exact r.headerNumber_cseqLineSigned RtspRequest.isStatus_ok (List.append_nil _).symm
  | teardown =>
    rw [hm] at h
    obtain ⟨⟨ref, c⟩, -, h⟩ := Except.bind_eq_ok_iff.mp h
    cases h
    refine .of_signed (by rw [hm]; trivial) ?_
    rw [message_of_sent rfl hsent]
    exact r.headerNumber_cseqLineSigned RtspRequest.isStatus_ok (List.append_nil _).symm
  | getParameter =>
    rw [hm] at h
    obtain ⟨⟨ref, c⟩, -, h⟩ := Except.bind_eq_ok_iff.mp h
    cases h
    refine .of_signed (by rw [hm]; trivial) ?_
    rw [message_of_sent rfl hsent]
    exact r.headerNumber_cseqLineSigned RtspRequest.isStatus_ok (List.append_nil _).symm
  | rtcp =>
    rw [hm] at h
    cases h
    exact absurd rfl hnothing
  | none =>
    rw [hm] at h
    cases h
    exact absurd rfl hnothing

end Serving

namespace Conversation

open ResponseText

/-- **A read that sends something dispatched its request**: the parser read the
request line, then the header lines, and found what it looks for. -/
theorem Ready.dispatched {s : Conversation} (hs : s.Ready) {d : Delivery} {s' : Conversation}
    {message : Bytes} (hread : s.read d = .ok s')
    (hsent : s'.serving.sent = s.serving.sent ++ [message]) :
    ∃ q, s.parser.LineRead d.request q ∧ (q.headersRead d.request.headerText).gotAll = true ∧
      (s.meets d).handleCmd d.env (q.headersRead d.request.headerText) = .ok s'.serving := by
  unfold read at hread
  rw [RtspReader.handleRtspMessage_eq, hs.buffer, List.nil_append] at hread
  obtain ⟨⟨parser, buffer, serving⟩, hmessage, h⟩ := Except.bind_eq_ok_iff.mp hread
  cases h
  obtain ⟨⟨parser', buffer', dispatched⟩, hstep, hcmd⟩ := Except.bind_eq_ok_iff.mp hmessage
  cases dispatched with
  | none =>
    cases hcmd
    have hlength : s.serving.sent.length = (s.serving.sent ++ [message]).length :=
      congrArg List.length hsent
    rw [List.length_append, List.length_singleton] at hlength
    omega
  | some r =>
    obtain ⟨x, hx, h⟩ := Except.bind_eq_ok_iff.mp hcmd
    cases h
    by_cases hacc : d.request.Accepted
    · obtain ⟨q, hq, haccepted⟩ := RtspReader.readStep_accepted hs.parser.state hacc []
      rw [List.append_nil, hstep, RtspReader.readHeaders_append q d.request.headerText (by decide),
        RtspReader.finish] at haccepted
      split at haccepted
      · next hgot =>
        cases haccepted
        exact ⟨q, hq, hgot, hx⟩
      · cases haccepted
    · rcases RtspReader.readStep_not_accepted hs.parser.state hacc [] with ⟨e, he⟩ | ⟨q, -, hq⟩
      · rw [List.append_nil, hstep] at he
        cases he
      · rw [List.append_nil, hstep] at hq
        cases hq

/-- **When a response repeats the number of its request.** A response to a
request that came in one read has a CSeq that reads as the request's if and only
if the first `CSeq` in the header text is followed by that number, and the number
is below `2 ^ 31` or the command is not among those that are answered with a
signed one. -/
theorem echoesCSeq_iff {s : Conversation} (hs : s.Ready) {d : Delivery} {s' : Conversation}
    {message : Bytes} (hread : s.read d = .ok s')
    (hsent : s'.serving.sent = s.serving.sent ++ [message]) :
    headerNumber (ascii "CSeq") message = some d.request.cseq ↔
      (∃ cseq, RtspRequest.cseqOf d.request.headerText = some cseq ∧
        cseq.toNat = d.request.cseq) ∧
      (d.request.cseq < 2147483648 ∨ ¬ (s.meets d).AnswersSigned d.request.method
        ((RtspRequest.readTransport d.request.headerText).1.getD .rtpOverTcp)) := by
  obtain ⟨q, hq, hgot, hcmd⟩ := hs.dispatched hread hsent
  obtain ⟨hdone, hmethod, -, hnumber⟩ := hq.headersRead_spec hs.parser d.request.headerText
  rw [hdone, Bool.and_eq_true] at hgot
  obtain ⟨hseen, hcompletes⟩ := hgot
  obtain ⟨cseq, hcseq⟩ := Option.isSome_iff_exists.mp hseen
  have hcarried : (q.headersRead d.request.headerText).getCSeq = cseq := by
    rw [hnumber, hcseq]
    rfl
  have hcommand : (s.meets d).AnswersSigned d.request.method
      (q.headersRead d.request.headerText).transport ↔
      (s.meets d).AnswersSigned d.request.method
        ((RtspRequest.readTransport d.request.headerText).1.getD .rtpOverTcp) :=
    Serving.answersSigned_congr fun hm => hq.transport_headersRead hm hseen hcompletes
  obtain ⟨hunsigned, hsigned⟩ := Serving.handleCmd_number hcmd hsent
  rw [hmethod, hcommand, hcarried] at hunsigned
  rw [hmethod, hcommand, RtspRequest.signedNumber, hcarried] at hsigned
  rw [hcseq]
  by_cases hyes : (s.meets d).AnswersSigned d.request.method
      ((RtspRequest.readTransport d.request.headerText).1.getD .rtpOverTcp)
  · rw [hsigned hyes]
    constructor
    · intro h
      obtain ⟨hsmall, h⟩ := Option.ite_none_right_eq_some.mp h
      exact ⟨⟨cseq, rfl, Option.some_inj.mp h⟩, .inl (Option.some_inj.mp h ▸ hsmall)⟩
    · rintro ⟨⟨cseq', ⟨⟩, hvalue⟩, hsmall | hnot⟩
      · rw [hvalue, if_pos hsmall]
      · exact absurd hyes hnot
  · rw [hunsigned hyes]
    constructor
    · intro h
      exact ⟨⟨cseq, rfl, Option.some_inj.mp h⟩, .inr hyes⟩
    · rintro ⟨⟨cseq', ⟨⟩, hvalue⟩, -⟩
      rw [hvalue]

/-! ## The least number that is printed with a sign, and the one before -/

/-- A request with one header has the number of that. -/
theorem findSome?_singleton {h : HeaderLine} {cseq : ℕ} (hcseq : h.cseq? = some cseq) :
    [h].findSome? HeaderLine.cseq? = some cseq := by
  rw [List.findSome?_cons, hcseq]

/-- A GET_PARAMETER with a number. -/
def getParameterWith (value : Bytes) (isLine_value : IsLine value) (nul_notMem : 0 ∉ value)
    (cseq : ℕ)
    (cseq_eq : (HeaderLine.plainCSeq value isLine_value nul_notMem).cseq? = some cseq) :
    Request :=
  { Request.plainOptions with
    method := .getParameter
    headers := [HeaderLine.plainCSeq value isLine_value nul_notMem]
    cseq := cseq
    supported := by decide
    cseq_eq := findSome?_singleton cseq_eq }

/-- The greatest number that is printed as it is. -/
def lastPositive : Request :=
  getParameterWith (ascii " 2147483647") (by decide) (by decide) (2147483647 : UInt32).toNat
    (by decide)

/-- The least one that is printed with a sign. -/
def firstNegative : Request :=
  getParameterWith (ascii " 2147483648") (by decide) (by decide) (2147483648 : UInt32).toNat
    (by decide)

/-- A connection that has its `RtpConnection`. -/
def described : Conversation :=
  { fresh with serving.conn.rtpConnPtr := some 0 }

theorem ready_described : described.Ready := ⟨⟨rfl, rfl, rfl⟩, rfl⟩

/-- Such a request is answered there. -/
theorem answers_getParameterWith {value : Bytes} {isLine_value : IsLine value}
    {nul_notMem : 0 ∉ value} {n : UInt32}
    {cseq_eq : (HeaderLine.plainCSeq value isLine_value nul_notMem).cseq? = some n.toNat}
    (hcseq : RtspRequest.cseqOf
      (getParameterWith value isLine_value nul_notMem n.toNat cseq_eq).headerText = some n) :
    described.Answers
      (deliver (getParameterWith value isLine_value nul_notMem n.toNat cseq_eq)) := by
  have hservable : described.Servable
      (deliver (getParameterWith value isLine_value nul_notMem n.toNat cseq_eq)) := {
    accepted := Request.accepted_plain rfl rfl
    cseq := ⟨n, hcseq, rfl⟩
    completes := rfl
    connected := rfl
    rtpConn := Option.some_ne_none 0 }
  exact (ready_described.answers hservable).1

/-- The greatest number that is printed as it is comes back. -/
theorem echoesCSeq_lastPositive : ∃ s' message, described.read (deliver lastPositive) = .ok s' ∧
    s'.serving.sent = [] ++ [message] ∧
    headerNumber (ascii "CSeq") message = some 2147483647 := by
  have hcseq : RtspRequest.cseqOf lastPositive.headerText = some 2147483647 := by decide +kernel
  obtain ⟨q, s', message, -, -, -, hsent, hread⟩ := answers_getParameterWith hcseq
  exact ⟨s', message, hread, hsent, (echoesCSeq_iff ready_described hread hsent).mpr
    ⟨⟨2147483647, hcseq, rfl⟩, .inl (by decide)⟩⟩

/-- **The next one comes back with a sign.** -/
theorem firstNegative_not_echoed : ¬ ∀ (s : Conversation), s.Ready →
    ∀ (d : Delivery) (s' : Conversation) (message : Bytes), d.request.cseq < 4294967296 →
      s.read d = .ok s' → s'.serving.sent = s.serving.sent ++ [message] →
      headerNumber (ascii "CSeq") message = some d.request.cseq := by
  intro hall
  have hcseq : RtspRequest.cseqOf firstNegative.headerText = some 2147483648 := by decide +kernel
  obtain ⟨q, s', message, -, hcarries, hcmd, hsent, hread⟩ := answers_getParameterWith hcseq
  have hnumber := hall described ready_described (deliver firstNegative) s' message (by decide)
    hread hsent
  have hsigned := (Serving.handleCmd_number hcmd hsent).signed (by rw [hcarries.method]; trivial)
  have hbig : ¬ q.getCSeq.toNat < 2147483648 := by
    rw [hcarries.cseq]
    decide
  rw [hsigned, RtspRequest.signedNumber, if_neg hbig] at hnumber
  cases hnumber

end Conversation
