import RtspServer.Request
import RtspServer.RtspReader

/-!
# Reading a request

What one call of `handleRtspMessage` makes of the bytes of a request. A call
in the initial state reads the request line up to the first CRLF
(`readStep_requestLine`); the same call, or a later one, reads as header
lines everything up to the *last* CRLF there is (`headersRead`), and looks in
this text for `CSeq` (`cseqOf`) and for what the method asks for
(`completes`). When both were found the request is complete, whatever the
text contains besides, and a command is dispatched.
-/

namespace RtspRequest

/-- **A text that is given as a request line** faults, or is rejected and
leaves the parser as it was, or takes it to the header lines; which of these
does not depend on the parser. -/
theorem parseRequestLine_cases (message : Bytes) :
    (∃ e, ∀ p : RtspRequest, p.parseRequestLine message = .error e) ∨
    (∀ p : RtspRequest, ∃ q, p.parseRequestLine message = .ok (false, q) ∧ q.state = p.state ∧
      q.requestLineParam = p.requestLineParam ∧ q.headerLineParam = p.headerLineParam) ∨
    ∀ p : RtspRequest, ∃ q, p.parseRequestLine message = .ok (true, q) ∧
      q.state = .parseHeadersLine ∧ q.method ≠ .rtcp := by
  unfold parseRequestLine
  cases Scanf.sscanf message [.str 32, .space, .str 128, .space, .str 16] with
  | error e => exact .inl ⟨e, fun p => rfl⟩
  | ok vs =>
    by_cases hshape : ∃ method url version, vs = [.str method, .str url, .str version]
    · obtain ⟨method, url, version, rfl⟩ := hshape
      simp only [Except.ok_bind, pure, Except.pure]
      by_cases hnone : Method.ofName method = .none
      · simp only [hnone, if_true]
        exact .inr (.inl fun p => ⟨_, rfl, rfl, rfl, rfl⟩)
      · simp only [if_neg hnone]
        by_cases hscheme : ascii "rtsp://" <+: url
        · simp only [hscheme, not_true, if_false]
          cases scanUrl url with
          | error e => exact .inl ⟨e, fun p => rfl⟩
          | ok parts =>
            cases parts with
            | none => exact .inr (.inl fun p => ⟨_, rfl, rfl, rfl, rfl⟩)
            | some parts =>
              refine .inr (.inr fun p => ⟨_, rfl, rfl, ?_⟩)
              intro hrtcp
              have hsupported := (Method.name_of_ofName hnone).2
              rw [show Method.ofName method = .rtcp from hrtcp] at hsupported
              exact absurd hsupported (by decide)
        · simp only [hscheme, not_false_iff, if_true]
          exact .inr (.inl fun p => ⟨_, rfl, rfl, rfl, rfl⟩)
    · refine .inr (.inl fun p => ⟨p, ?_, rfl, rfl, rfl⟩)
      simp only [Except.ok_bind]
      split
      · exact absurd ⟨_, _, _, rfl⟩ hshape
      · rfl

/-! ## The header text -/

/-- The number that `parseCSeq` reads in a header text. -/
def cseqOf (message : Bytes) : Option UInt32 :=
  (Search.find (ascii "CSeq") message).map fun pos =>
    match Scanf.sscanfNumbers (message.drop pos) [.skipUpTo 0x3a, .lit 0x3a, .space, .u] with
    | [.num cseq] => cseq
    | _ => 0

/-- The parser after `parseCSeq`: the first number is kept. -/
def seeCSeq (p : RtspRequest) (message : Bytes) : RtspRequest :=
  match cseqOf message with
  | none => p
  | some cseq => { p with headerLineParam := p.headerLineParam.emplace .cseq ([], cseq) }

theorem parseCSeq_eq (p : RtspRequest) (message : Bytes) :
    p.parseCSeq message = ((cseqOf message).isSome, p.seeCSeq message) := by
  unfold parseCSeq seeCSeq cseqOf
  cases Search.find (ascii "CSeq") message <;> rfl

/-- What `parseTransport` reads in a header text: the mode, and two keys with
their numbers. A mode without numbers is set all the same. -/
def readTransport (message : Bytes) :
    Option TransportMode × Option ((HeaderLineKey × UInt32) × (HeaderLineKey × UInt32)) :=
  if Search.find (ascii "Transport") message = none then (none, none)
  else match Search.find (ascii "RTP/AVP/TCP") message with
    | some pos => (some .rtpOverTcp, (scanPair (message.drop pos)).map
        fun (a, b) => ((.rtpChannel, a), (.rtcpChannel, b)))
    | none => match Search.find (ascii "RTP/AVP") message with
      | none => (none, none)
      | some pos =>
        if findFrom (ascii "unicast") message pos then
          (some .rtpOverUdp, (scanPair (message.drop pos)).map
            fun (a, b) => ((.rtpPort, a), (.rtcpPort, b)))
        else if findFrom (ascii "multicast") message pos then
          (some .rtpOverMulticast, some ((.rtpPort, 0), (.rtcpPort, 0)))
        else (none, none)

/-- The parser after `parseTransport`. -/
def seeTransport (p : RtspRequest) (message : Bytes) : RtspRequest :=
  { p with
    transport := (readTransport message).1.getD p.transport
    headerLineParam := match (readTransport message).2 with
      | none => p.headerLineParam
      | some ((k, a), (k', b)) => (p.headerLineParam.emplace k ([], a)).emplace k' ([], b) }

theorem parseTransport_eq (p : RtspRequest) (message : Bytes) :
    p.parseTransport message = ((readTransport message).2.isSome, p.seeTransport message) := by
  unfold parseTransport seeTransport readTransport
  cases Search.find (ascii "Transport") message with
  | none => rfl
  | some pos =>
    simp only [reduceCtorEq, if_false]
    cases Search.find (ascii "RTP/AVP/TCP") message with
    | some pos =>
      dsimp only
      cases scanPair (message.drop pos) <;> rfl
    | none =>
      dsimp only
      cases Search.find (ascii "RTP/AVP") message with
      | none => rfl
      | some pos =>
        dsimp only
        split
        · cases scanPair (message.drop pos) <;> rfl
        · split <;> rfl

/-- What a transport that was read says. -/
theorem readTransport_cases {message : Bytes} {k k' : HeaderLineKey} {a b : UInt32}
    (h : (readTransport message).2 = some ((k, a), (k', b))) :
    (readTransport message).1 = some .rtpOverTcp ∧ k = .rtpChannel ∧ k' = .rtcpChannel ∨
    (readTransport message).1 = some .rtpOverUdp ∧ k = .rtpPort ∧ k' = .rtcpPort ∨
    (readTransport message).1 = some .rtpOverMulticast ∧ k = .rtpPort ∧ k' = .rtcpPort := by
  unfold readTransport at h ⊢
  split at h
  · cases h
  · next hfound =>
    rw [if_neg hfound]
    split at h
    · obtain ⟨_, -, h⟩ := Option.map_eq_some_iff.mp h
      cases h
      exact .inl ⟨rfl, rfl, rfl⟩
    · split at h
      · cases h
      · split at h
        · next hcast =>
          obtain ⟨_, -, h⟩ := Option.map_eq_some_iff.mp h
          cases h
          rw [if_pos hcast]
          exact .inr (.inl ⟨rfl, rfl, rfl⟩)
        · next hcast =>
          rw [if_neg hcast]
          split at h
          · next hmulti =>
            cases h
            rw [if_pos hmulti]
            exact .inr (.inr ⟨rfl, rfl, rfl⟩)
          · cases h

/-- The keys of the transport are not the key of the `CSeq`. -/
theorem keys_of_readTransport {message : Bytes} {k k' : HeaderLineKey} {a b : UInt32}
    (h : (readTransport message).2 = some ((k, a), (k', b))) :
    HeaderLineKey.cseq ≠ k ∧ HeaderLineKey.cseq ≠ k' := by
  rcases readTransport_cases h with ⟨-, rfl, rfl⟩ | ⟨-, rfl, rfl⟩ | ⟨-, rfl, rfl⟩
  · decide
  · decide
  · decide

/-- **The test of a method** on a header text. -/
def completes (m : Method) (message : Bytes) : Bool :=
  match m with
  | .options | .teardown | .getParameter => true
  | .describe => parseAccept message
  | .setup => (readTransport message).2.isSome
  | .play => parseSessionId message
  | .rtcp | .none => false

/-- A parser that was advanced within one request: what came before stays. -/
structure SameRequest (p q : RtspRequest) : Prop where
  method : q.method = p.method
  requestLineParam : q.requestLineParam = p.requestLineParam
  cseq : q.headerLineParam .cseq = p.headerLineParam .cseq

theorem SameRequest.refl (p : RtspRequest) : SameRequest p p := ⟨rfl, rfl, rfl⟩

theorem sameRequest_seeTransport (p : RtspRequest) (message : Bytes) :
    SameRequest p (p.seeTransport message) := by
  refine ⟨rfl, rfl, ?_⟩
  unfold seeTransport
  dsimp only
  cases h : (readTransport message).2 with
  | none => rfl
  | some params =>
    obtain ⟨hk, hk'⟩ := keys_of_readTransport h
    exact (Params.emplace_of_ne _ hk' _).trans (Params.emplace_of_ne _ hk _)

/-- The channel is all that `parseMediaChannel` sets. -/
theorem parseMediaChannel_eq (p : RtspRequest) :
    ∃ channelId, p.parseMediaChannel = { p with channelId := channelId } := by
  unfold parseMediaChannel
  split
  · split
    · exact ⟨_, rfl⟩
    · exact ⟨_, rfl⟩
  · exact ⟨_, rfl⟩

/-- **A request is completed exactly by a text that passes its test.** -/
theorem completeHeaders_spec {p : RtspRequest} (hp : p.state = .parseHeadersLine)
    (message : Bytes) :
    (p.completeHeaders message).state
      = (if completes p.method message then .gotAll else .parseHeadersLine) ∧
    SameRequest p (p.completeHeaders message) := by
  unfold completeHeaders completes
  cases hm : p.method with
  | options => exact ⟨rfl, hm.symm, rfl, rfl⟩
  | describe =>
    dsimp only
    by_cases h : parseAccept message = true
    · rw [if_pos h, if_pos h]; exact ⟨rfl, hm.symm, rfl, rfl⟩
    · rw [if_neg h, if_neg h]; exact ⟨hp, .refl p⟩
  | setup =>
    dsimp only
    rw [parseTransport_eq]
    have hsame := p.sameRequest_seeTransport message
    cases (readTransport message).2.isSome with
    | false => exact ⟨hp, hsame⟩
    | true =>
      obtain ⟨channelId, hch⟩ := (p.seeTransport message).parseMediaChannel_eq
      dsimp only
      rw [hch]
      exact ⟨rfl, hm ▸ hsame.method, hsame.requestLineParam, hsame.cseq⟩
  | play =>
    dsimp only
    by_cases h : parseSessionId message = true
    · rw [if_pos h, if_pos h]; exact ⟨rfl, hm.symm, rfl, rfl⟩
    · rw [if_neg h, if_neg h]; exact ⟨hp, .refl p⟩
  | teardown => exact ⟨rfl, hm.symm, rfl, rfl⟩
  | getParameter => exact ⟨rfl, hm.symm, rfl, rfl⟩
  | rtcp => exact ⟨hp, .refl p⟩
  | none => exact ⟨hp, .refl p⟩

/-- A text that fails the test changes the transport mode of a SETUP at
most. -/
theorem completeHeaders_of_not_completes {p : RtspRequest} {message : Bytes}
    (h : completes p.method message = false) : p.completeHeaders message = p ∨
      p.method = .setup ∧ ∃ mode, p.completeHeaders message = { p with transport := mode } := by
  unfold completes at h
  unfold completeHeaders
  cases hm : p.method with
  | options => rw [hm] at h; cases h
  | describe =>
    rw [hm] at h
    dsimp only at h ⊢
    exact .inl (if_neg (by rw [h]; exact Bool.false_ne_true))
  | setup =>
    rw [hm] at h
    dsimp only at h ⊢
    rw [parseTransport_eq, h]
    dsimp only
    rw [Option.isSome_eq_false_iff, Option.isNone_iff_eq_none] at h
    refine .inr ⟨rfl, (readTransport message).1.getD p.transport, ?_⟩
    unfold seeTransport
    rw [h, ← hm]
  | play =>
    rw [hm] at h
    dsimp only at h ⊢
    exact .inl (if_neg (by rw [h]; exact Bool.false_ne_true))
  | teardown => rw [hm] at h; cases h
  | getParameter => rw [hm] at h; cases h
  | rtcp => exact .inl rfl
  | none => exact .inl rfl

theorem seeCSeq_spec (p : RtspRequest) (message : Bytes) :
    (p.seeCSeq message).state = p.state ∧ (p.seeCSeq message).method = p.method ∧
    (p.seeCSeq message).requestLineParam = p.requestLineParam ∧
    (p.seeCSeq message).headerLineParam .cseq = (p.headerLineParam .cseq <|>
      (cseqOf message).map fun cseq => ([], cseq)) := by
  unfold seeCSeq
  cases cseqOf message with
  | none =>
    refine ⟨rfl, rfl, rfl, ?_⟩
    rw [Option.map_none, Option.orElse_eq_orElse, Option.orElse_eq_or, Option.or_none]
  | some cseq =>
    refine ⟨rfl, rfl, rfl, ?_⟩
    cases h : p.headerLineParam .cseq with
    | none => exact Params.emplace_of_none h _
    | some v => dsimp only; rw [Params.emplace_of_some h]; exact h

/-- A number in the text is seen, unless one was before. -/
theorem isSome_seeCSeq (p : RtspRequest) {message : Bytes} (h : (cseqOf message).isSome = true) :
    ((p.seeCSeq message).headerLineParam .cseq).isSome = true := by
  obtain ⟨cseq, hcseq⟩ := Option.isSome_iff_exists.mp h
  rw [(p.seeCSeq_spec message).2.2.2, hcseq]
  cases p.headerLineParam .cseq <;> rfl

/-- The parser after the header text of a call. -/
theorem parseHeadersLine_eq (p : RtspRequest) (message : Bytes) :
    p.parseHeadersLine message =
      if ((p.seeCSeq message).headerLineParam .cseq).isSome then
        (true, (p.seeCSeq message).completeHeaders message)
      else (false, p.seeCSeq message) := by
  obtain ⟨-, -, -, hcseq⟩ := p.seeCSeq_spec message
  unfold parseHeadersLine
  rw [parseCSeq_eq, hcseq]
  cases h : cseqOf message with
  | none =>
    have hsee : p.seeCSeq message = p := by unfold seeCSeq; rw [h]
    rw [hsee]
    cases hp : p.headerLineParam .cseq <;> simp [hp]
  | some cseq =>
    cases hp : p.headerLineParam .cseq with
    | none => rfl
    | some v => rfl

/-- What the text of a call leads to. -/
def headersRead (p : RtspRequest) (message : Bytes) : RtspRequest :=
  (p.parseHeadersLine message).2

/-- **What a header text leads to**, by what was seen up to it. -/
theorem headersRead_spec {p : RtspRequest} (hp : p.state = .parseHeadersLine) (message : Bytes) :
    let cseq := p.headerLineParam .cseq <|> (cseqOf message).map fun cseq => ([], cseq)
    (p.headersRead message).state
      = (if cseq.isSome && completes p.method message then .gotAll else .parseHeadersLine) ∧
    (p.headersRead message).method = p.method ∧
    (p.headersRead message).requestLineParam = p.requestLineParam ∧
    (p.headersRead message).headerLineParam .cseq = cseq := by
  obtain ⟨hstate, hmethod, hline, hcseq⟩ := p.seeCSeq_spec message
  obtain ⟨hdone, hsame⟩ := completeHeaders_spec (hstate.trans hp) message
  dsimp only
  unfold headersRead
  rw [parseHeadersLine_eq, hcseq]
  split
  · rename_i hsome
    rw [hsome, Bool.true_and, ← hmethod]
    exact ⟨hdone, hsame.method, hsame.requestLineParam.trans hline, hsame.cseq.trans hcseq⟩
  · rename_i hnone
    rw [Bool.not_eq_true] at hnone
    rw [hnone, Bool.false_and]
    exact ⟨hstate.trans hp, hmethod, hline, hcseq⟩

/-- A SETUP that its header text completes. -/
theorem headersRead_setup {p : RtspRequest} (hm : p.method = .setup) {message : Bytes}
    (hcseq : ((p.seeCSeq message).headerLineParam .cseq).isSome = true)
    (htransport : (readTransport message).2.isSome = true) :
    p.headersRead message =
      { ((p.seeCSeq message).seeTransport message).parseMediaChannel with state := .gotAll } := by
  obtain ⟨-, hmethod, -, -⟩ := p.seeCSeq_spec message
  unfold headersRead
  rw [parseHeadersLine_eq, if_pos hcseq, completeHeaders, hmethod, hm]
  dsimp only
  rw [parseTransport_eq, htransport]

/-- Two keys that are new get their numbers. -/
theorem numberParam_emplace {p : RtspRequest} {params : Params HeaderLineKey}
    {k k' : HeaderLineKey} (hne : k ≠ k') (hk : params k = none) (hk' : params k' = none)
    {a b : UInt32}
    (hp : p.headerLineParam = (params.emplace k ([], a)).emplace k' ([], b)) :
    p.numberParam k = a ∧ p.numberParam k' = b := by
  have hlast : params.emplace k ([], a) k' = none := by
    rw [Params.emplace_of_ne _ hne.symm, hk']
  unfold numberParam
  rw [hp, Params.emplace_of_ne _ hne, Params.emplace_of_none hk, Params.emplace_of_none hlast]
  exact ⟨rfl, rfl⟩

/-- The transport of a SETUP after its header text. -/
theorem transport_headersRead {p : RtspRequest} (hm : p.method = .setup) {message : Bytes}
    (h : ((p.seeCSeq message).headerLineParam .cseq).isSome = true) :
    (p.headersRead message).transport = (readTransport message).1.getD p.transport := by
  obtain ⟨-, hmethod, -, -⟩ := p.seeCSeq_spec message
  have htransport : (p.seeCSeq message).transport = p.transport := by
    unfold seeCSeq
    split <;> rfl
  have hsee : ((p.seeCSeq message).seeTransport message).transport
      = (readTransport message).1.getD p.transport :=
    congrArg (readTransport message).1.getD htransport
  unfold headersRead
  rw [parseHeadersLine_eq, if_pos h, completeHeaders, hmethod, hm]
  dsimp only
  rw [parseTransport_eq]
  cases (readTransport message).2.isSome with
  | false => exact hsee
  | true =>
    obtain ⟨channelId, hch⟩ := ((p.seeCSeq message).seeTransport message).parseMediaChannel_eq
    dsimp only
    rw [hch]
    exact hsee

/-- A text that completes the request holds a `CSeq`, or came after one. -/
theorem parseHeadersLine_of_gotAll {p : RtspRequest} (hp : p.state = .parseHeadersLine)
    {message : Bytes} (h : (p.headersRead message).gotAll = true) :
    (p.parseHeadersLine message).1 = true := by
  unfold headersRead at h
  rw [parseHeadersLine_eq] at h ⊢
  split
  · rfl
  · rename_i hnone
    rw [if_neg hnone, gotAll, (p.seeCSeq_spec message).1, hp] at h
    cases h

/-- **The request object carries the request**: its method, its URL and its
number. -/
structure Carries (q : RtspRequest) (r : Request) : Prop where
  method : q.method = r.method
  url : q.getRtspUrl = r.url
  cseq : q.getCSeq.toNat = r.cseq

theorem LineRead.method_ne {p q : RtspRequest} {r : Request} (hq : p.LineRead r q) :
    q.method ≠ .rtcp := by
  rw [hq.method]
  intro hrtcp
  have hsupported := r.supported
  rw [hrtcp] at hsupported
  exact absurd hsupported (by decide)

/-- **The header text after a request line**, read by a parser that has
nothing of an earlier request. -/
theorem LineRead.headersRead_spec {p q : RtspRequest} {r : Request} (hq : p.LineRead r q)
    (hp : p.IsInitial) (message : Bytes) :
    (q.headersRead message).gotAll = ((cseqOf message).isSome && completes r.method message) ∧
    (q.headersRead message).method = r.method ∧ (q.headersRead message).getRtspUrl = r.url ∧
    (q.headersRead message).getCSeq = (cseqOf message).getD 0 := by
  have hcseq : q.headerLineParam .cseq = none := by
    rw [hq.headerLineParam, hp.headerLineParam]
  obtain ⟨hstate, hmethod, hline, hnumber⟩ := RtspRequest.headersRead_spec hq.state message
  rw [hcseq] at hstate hnumber
  refine ⟨?_, hmethod.trans hq.method, ?_, ?_⟩
  · rw [gotAll, hstate, ← hq.method]
    cases cseqOf message with
    | none => rfl
    | some cseq => cases completes q.method message <;> rfl
  · rw [getRtspUrl, stringParam, hline, hq.url (by rw [hp.requestLineParam])]
    rfl
  · rw [getCSeq, numberParam, hnumber]
    cases cseqOf message <;> rfl

/-- The transport of a SETUP that its header text completes is the one there. -/
theorem LineRead.transport_headersRead {p q : RtspRequest} {r : Request} (hq : p.LineRead r q)
    (hm : r.method = .setup) {message : Bytes} (hcseq : (cseqOf message).isSome = true)
    (hcompletes : completes r.method message = true) :
    (q.headersRead message).transport = (readTransport message).1.getD .rtpOverTcp := by
  rw [hm] at hcompletes
  obtain ⟨⟨⟨k, a⟩, ⟨k', b⟩⟩, hpair⟩ := Option.isSome_iff_exists.mp hcompletes
  rw [RtspRequest.transport_headersRead (hq.method.trans hm) (q.isSome_seeCSeq hcseq)]
  rcases readTransport_cases hpair with ⟨hmode, -⟩ | ⟨hmode, -⟩ | ⟨hmode, -⟩
  · rw [hmode]; rfl
  · rw [hmode]; rfl
  · rw [hmode]; rfl

end RtspRequest

namespace RtspReader

open RtspRequest

/-- The buffer after a call: one that has grown too long is emptied. -/
def trim (buf : Buffer) : Buffer := if buf.length > maxRtspMessageSize then [] else buf

/-- The end of a call that leaves a parser and a buffer: a complete request
is dispatched. -/
def finish (p : RtspRequest) (buf : Buffer) : RtspRequest × Buffer × Option RtspRequest :=
  if p.gotAll then (p.reset, trim buf, some p) else (p, trim buf, none)

/-- A call in the header state. -/
def readHeaders (p : RtspRequest) (buf : Buffer) : RtspRequest × Buffer × Option RtspRequest :=
  match buf.findLastCRLF with
  | none => finish p buf
  | some lastCrlf => finish (p.headersRead (buf.take lastCrlf)) (buf.drop (lastCrlf + 2))

/-- The end of a call that parsed no frame. -/
theorem readStep_of_parseRequest {p q : RtspRequest} {buf buf' : Buffer} {ret : Bool}
    (h : p.parseRequest buf = .ok (ret, q, buf')) (hret : q.gotAll = true → ret = true)
    (hmethod : q.method ≠ .rtcp) : readStep p buf = .ok (finish q buf') := by
  unfold readStep handleRtspMessage handleRtspRequest finish trim
  rw [h, Except.ok_bind]
  cases hgot : q.gotAll with
  | false =>
    cases ret <;>
      simp only [hgot, Bool.false_eq_true, if_false, if_true, if_neg hmethod, Bool.not_false,
        pure, Except.pure, Except.ok_bind] <;> split <;> rfl
  | true =>
    simp only [hgot, hret hgot, if_true, if_neg hmethod, Bool.not_true, Bool.false_eq_true,
      if_false, pure, Except.pure, Except.ok_bind]
    split <;> rfl

/-- The parser returns what `readHeaders` finishes with. -/
theorem readStep_of_parseHeaders {p q : RtspRequest} {buf rest : Buffer} {ret : Bool}
    (h : p.parseRequest buf = .ok (q.parseHeaders ret rest)) (hq : q.state = .parseHeadersLine)
    (hmethod : q.method ≠ .rtcp) : readStep p buf = .ok (readHeaders q rest) := by
  unfold parseHeaders at h
  unfold readHeaders
  cases hlast : Buffer.findLastCRLF rest with
  | none =>
    rw [hlast] at h
    refine readStep_of_parseRequest h (fun hgot => ?_) hmethod
    rw [gotAll, hq] at hgot
    cases hgot
  | some lastCrlf =>
    rw [hlast] at h
    dsimp only at h ⊢
    rw [Buffer.retrieve_eq_drop] at h
    obtain ⟨-, hm, -, -⟩ := headersRead_spec hq (rest.take lastCrlf)
    exact readStep_of_parseRequest h (parseHeadersLine_of_gotAll hq) (hm ▸ hmethod)

/-- **A call in the header state** reads everything up to the last CRLF. -/
theorem readStep_headers {p : RtspRequest} (hp : p.state = .parseHeadersLine)
    (hmethod : p.method ≠ .rtcp) {buf : Buffer} (hhead : buf.head? ≠ some 0x24) :
    readStep p buf = .ok (readHeaders p buf) := by
  have hparse : p.parseRequest buf = .ok (p.parseHeaders true buf) := by
    unfold parseRequest
    rw [if_neg hhead, hp]
  exact readStep_of_parseHeaders hparse hp hmethod

/-- Reading header lines stays in the header state, or dispatches a command. -/
theorem readHeaders_cases {p : RtspRequest} (hp : p.state = .parseHeadersLine) (buf : Buffer) :
    (∃ q buf', readHeaders p buf = (q, buf', none) ∧ q.state = .parseHeadersLine) ∨
    ∃ q buf' r, readHeaders p buf = (q, buf', some r) := by
  unfold readHeaders
  cases buf.findLastCRLF with
  | none =>
    refine .inl ⟨p, trim buf, ?_, hp⟩
    unfold finish gotAll
    rw [hp]
    rfl
  | some lastCrlf =>
    obtain ⟨hstate, -, -, -⟩ := headersRead_spec hp (buf.take lastCrlf)
    dsimp only
    unfold finish
    cases hgot : (p.headersRead (buf.take lastCrlf)).gotAll with
    | true => exact .inr ⟨_, _, _, rfl⟩
    | false =>
      refine .inl ⟨_, _, rfl, ?_⟩
      unfold gotAll at hgot
      rw [hstate] at hgot ⊢
      split at hgot
      · cases hgot
      · next hno => exact if_neg hno

/-- What is no frame is not retrieved as one. -/
theorem handleRtcp_of_head {buf : Buffer} (hhead : buf.head? ≠ some 0x24) :
    handleRtcp buf = buf := by
  have hnone : rtcpRetrieve buf = none := by
    unfold rtcpRetrieve
    split
    · exact if_neg fun h => hhead (congrArg some h.1)
    · rfl
  unfold handleRtcp
  rw [hnone]

/-- A call that finds no line to read waits. -/
theorem readStep_noLine {p : RtspRequest} (hp : p.state = .parseRequestLine) {buf : Buffer}
    (hline : buf.findCRLF = none) (hhead : buf.head? ≠ some 0x24) :
    readStep p buf = .ok (p, trim buf, none) := by
  have hparse : p.parseRequest buf = .ok (true, p, buf) := by
    unfold parseRequest
    rw [if_neg hhead, hp]
    dsimp only
    rw [hline]
  have hgot : p.gotAll = false := by
    unfold gotAll
    rw [hp]
    rfl
  unfold readStep handleRtspMessage handleRtspRequest trim
  rw [hparse, Except.ok_bind]
  simp only [handleRtcp_of_head hhead, hgot, Bool.not_false, if_true, ite_self, pure, Except.pure,
    Except.ok_bind]
  split <;> rfl

/-- **A call that finds a frame in front** dispatches nothing. -/
theorem readStep_frame (p : RtspRequest) {buf : Buffer} (hhead : buf.head? = some 0x24) :
    readStep p buf = .ok ({ p with method := .rtcp }, trim (handleRtcp buf), none) := by
  have hparse : p.parseRequest buf = .ok (true, { p with method := .rtcp }, buf) := by
    unfold parseRequest
    rw [if_pos hhead]
  unfold readStep handleRtspMessage handleRtspRequest trim
  rw [hparse, Except.ok_bind]
  simp only [if_true, pure, Except.pure, Except.ok_bind]
  split <;> rfl

/-- **A call in the header state** stays in it, or dispatches a command. After
a frame it stays for good: the method is `RTCP` then, which no text
completes. -/
theorem readStep_of_header {p : RtspRequest} (hp : p.state = .parseHeadersLine) (buf : Buffer) :
    (∃ q buf', readStep p buf = .ok (q, buf', none) ∧ q.state = .parseHeadersLine ∧
      (p.method = .rtcp → q.method = .rtcp)) ∨
    ∃ q buf' r, readStep p buf = .ok (q, buf', some r) ∧ p.method ≠ .rtcp := by
  by_cases hhead : buf.head? = some 0x24
  · exact .inl ⟨_, _, readStep_frame p hhead, hp, fun _ => rfl⟩
  · by_cases hm : p.method = .rtcp
    · -- the header text is read, and what is left is no frame
      have hparse : ∃ ret q buf', p.parseRequest buf = .ok (ret, q, buf') ∧
          q.state = .parseHeadersLine ∧ q.method = .rtcp := by
        unfold parseRequest parseHeaders
        rw [if_neg hhead, hp]
        dsimp only
        cases buf.findLastCRLF with
        | none => exact ⟨_, _, _, rfl, hp, hm⟩
        | some lastCrlf =>
          obtain ⟨hstate, hmethod, -, -⟩ := headersRead_spec hp (buf.take lastCrlf)
          refine ⟨_, _, _, rfl, ?_, hmethod.trans hm⟩
          rw [hm, show completes .rtcp _ = false from rfl, Bool.and_false] at hstate
          exact hstate
      obtain ⟨ret, q, buf', hparse, hstate, hmethod⟩ := hparse
      refine .inl ⟨q, trim (if ret then handleRtcp buf' else buf'), ?_, hstate, fun _ => hmethod⟩
      unfold readStep handleRtspMessage handleRtspRequest trim
      rw [hparse, Except.ok_bind]
      cases ret with
      | false =>
        simp only [Bool.false_eq_true, if_false, pure, Except.pure, Except.ok_bind]
        split <;> rfl
      | true =>
        simp only [if_true, hmethod, pure, Except.pure, Except.ok_bind]
        split <;> rfl
    · rw [readStep_headers hp hm hhead]
      rcases readHeaders_cases hp buf with ⟨q, buf', hread, hq⟩ | ⟨q, buf', r, hread⟩
      · exact .inl ⟨q, buf', by rw [hread], hq, fun h => absurd h hm⟩
      · exact .inr ⟨q, buf', r, by rw [hread], hm⟩

/-- The call reads the first line of the buffer. -/
theorem parseRequest_line {p : RtspRequest} (hp : p.state = .parseRequestLine) {buf : Buffer}
    {k : ℕ} (hline : buf.findCRLF = some k) (hhead : buf.head? ≠ some 0x24) :
    p.parseRequest buf = (do
      let (ret, q) ← p.parseRequestLine (buf.take k)
      if q.state = .parseHeadersLine then return q.parseHeaders ret (buf.drop (k + 2))
      else return (ret, q, buf.drop (k + 2))) := by
  unfold parseRequest
  rw [if_neg hhead, hp]
  dsimp only
  rw [hline]
  dsimp only
  rw [Buffer.retrieve_eq_drop]

/-- **A call that starts with a request line** reads it, and what follows as
header lines. -/
theorem readStep_requestLine {p q : RtspRequest} (hp : p.state = .parseRequestLine)
    {buf : Buffer} {k : ℕ} (hline : buf.findCRLF = some k) (hhead : buf.head? ≠ some 0x24)
    (h : p.parseRequestLine (buf.take k) = .ok (true, q)) (hq : q.state = .parseHeadersLine)
    (hmethod : q.method ≠ .rtcp) :
    readStep p buf = .ok (readHeaders q (buf.drop (k + 2))) := by
  have hparse : p.parseRequest buf = .ok (q.parseHeaders true (buf.drop (k + 2))) := by
    rw [parseRequest_line hp hline hhead, h, Except.ok_bind]
    dsimp only
    rw [if_pos hq]
    rfl
  exact readStep_of_parseHeaders hparse hq hmethod

/-- A line that is no request line is dropped. -/
theorem readStep_rejected {p q : RtspRequest} (hp : p.state = .parseRequestLine)
    {buf : Buffer} {k : ℕ} (hline : buf.findCRLF = some k) (hhead : buf.head? ≠ some 0x24)
    (h : p.parseRequestLine (buf.take k) = .ok (false, q)) (hq : q.state = .parseRequestLine) :
    readStep p buf = .ok (q, trim (buf.drop (k + 2)), none) := by
  have hparse : p.parseRequest buf = .ok (false, q, buf.drop (k + 2)) := by
    rw [parseRequest_line hp hline hhead, h, Except.ok_bind]
    dsimp only
    rw [hq]
    rfl
  unfold readStep handleRtspMessage handleRtspRequest trim
  rw [hparse, Except.ok_bind]
  simp only [Bool.false_eq_true, if_false, pure, Except.pure, Except.ok_bind]
  split <;> rfl

/-- A line that the parser cannot read without a fault ends the call. -/
theorem readStep_error {p : RtspRequest} (hp : p.state = .parseRequestLine) {buf : Buffer} {k : ℕ}
    (hline : buf.findCRLF = some k) (hhead : buf.head? ≠ some 0x24) {e : Fault}
    (h : p.parseRequestLine (buf.take k) = .error e) : readStep p buf = .error e := by
  unfold readStep handleRtspMessage handleRtspRequest
  rw [parseRequest_line hp hline hhead, h]
  rfl

/-! ## A request in front of other bytes -/

/-- The first line of what begins with a request, and what follows it. -/
theorem findCRLF_bytes_append (r : Request) (tail : Bytes) :
    (r.bytes ++ tail).head? ≠ some 0x24 ∧
    Buffer.findCRLF (r.bytes ++ tail) = some r.requestLine.length ∧
    (r.bytes ++ tail).take r.requestLine.length = r.requestLine ∧
    (r.bytes ++ tail).drop (r.requestLine.length + 2) = r.headerText ++ crlf ++ tail := by
  have hbytes : r.bytes ++ tail = r.requestLine ++ crlf ++ (r.headerText ++ crlf ++ tail) := by
    simp only [Request.bytes, List.append_assoc]
  rw [hbytes]
  refine ⟨?_, Buffer.findCRLF_line r.isLine_requestLine _, ?_, ?_⟩
  · rw [List.append_assoc]
    exact r.head_requestLine _
  · rw [List.append_assoc, List.take_left]
  · rw [show r.requestLine.length + 2 = (r.requestLine ++ crlf).length by
      rw [List.length_append]; rfl, List.drop_left]

/-- **An accepted request line** is read, and what follows it as header
lines. -/
theorem readStep_acceptedLine {p : RtspRequest} (hp : p.state = .parseRequestLine) {r : Request}
    (h : r.Accepted) (rest : Bytes) : ∃ q, p.LineRead r q ∧
      readStep p (r.requestLine ++ crlf ++ rest) = .ok (readHeaders q rest) := by
  obtain ⟨q, hq, hread⟩ := h.parseRequestLine p
  have hhead : (r.requestLine ++ crlf ++ rest).head? ≠ some 0x24 := by
    rw [List.append_assoc]
    exact r.head_requestLine _
  have htake : (r.requestLine ++ crlf ++ rest).take r.requestLine.length = r.requestLine := by
    rw [List.append_assoc, List.take_left]
  have hdrop : (r.requestLine ++ crlf ++ rest).drop (r.requestLine.length + 2) = rest := by
    rw [show r.requestLine.length + 2 = (r.requestLine ++ crlf).length by
      rw [List.length_append]; rfl, List.drop_left]
  refine ⟨q, hread, ?_⟩
  rw [readStep_requestLine hp (Buffer.findCRLF_line r.isLine_requestLine rest) hhead
    (by rw [htake]; exact hq) hread.state hread.method_ne, hdrop]

/-- **An accepted request** leads to a reading of its header lines, with
whatever follows the request in the buffer. -/
theorem readStep_accepted {p : RtspRequest} (hp : p.state = .parseRequestLine) {r : Request}
    (h : r.Accepted) (tail : Bytes) : ∃ q, p.LineRead r q ∧
      readStep p (r.bytes ++ tail) = .ok (readHeaders q (r.headerText ++ crlf ++ tail)) := by
  have hbytes : r.bytes ++ tail = r.requestLine ++ crlf ++ (r.headerText ++ crlf ++ tail) := by
    simp only [Request.bytes, List.append_assoc]
  rw [hbytes]
  exact readStep_acceptedLine hp h _

/-- **A request that is not accepted** is not dispatched. -/
theorem readStep_not_accepted {p : RtspRequest} (hp : p.state = .parseRequestLine) {r : Request}
    (h : ¬ r.Accepted) (tail : Bytes) : (∃ e, readStep p (r.bytes ++ tail) = .error e) ∨
      ∃ q, q.state = .parseRequestLine ∧ readStep p (r.bytes ++ tail)
        = .ok (q, trim (r.headerText ++ crlf ++ tail), none) := by
  obtain ⟨hhead, hfind, htake, hdrop⟩ := findCRLF_bytes_append r tail
  rw [← hdrop]
  rcases Request.parseRequestLine_of_not_accepted h p with ⟨e, he⟩ | ⟨q, hq, hstate⟩
  · exact .inl ⟨e, readStep_error hp hfind hhead (by rw [htake]; exact he)⟩
  · have hstate' := hstate.trans hp
    exact .inr ⟨q, hstate', readStep_rejected hp hfind hhead (by rw [htake]; exact hq) hstate'⟩

/-- The header lines of a call, when what follows the last CRLF is known. -/
theorem readHeaders_append (q : RtspRequest) (text : Bytes) {tail : Bytes}
    (htail : ¬ crlf <:+: tail) :
    readHeaders q (text ++ crlf ++ tail) = finish (q.headersRead text) tail := by
  have htake : (text ++ crlf ++ tail).take text.length = text := by
    rw [List.append_assoc, List.take_left]
  have hdrop : (text ++ crlf ++ tail).drop (text.length + 2) = tail := by
    rw [show text.length + 2 = (text ++ crlf).length by rw [List.length_append]; rfl,
      List.drop_left]
  unfold readHeaders
  rw [Buffer.findLastCRLF_append text htail]
  dsimp only
  rw [htake, hdrop]

end RtspReader
