import RtspServer.RequestReading
import RtspServer.RtspConnection
import RtspServer.Transition

/-!
# Requests one after another

A client sends requests on one connection, each of which reaches the server
whole and in a read of its own. Between the reads anything may happen to the
rest of the server.

A request that does not pass the test of its method is not answered, and the
parser goes on waiting in the header state with the parameters it has: the
next request is read as more header lines of this one. The invariant is
therefore that the parser is in its initial state between two reads
(`Conversation.Ready`); a step keeps it when the request is `Servable` – the
server accepts its request line, its header text passes the test and the
first `CSeq` in it is that of its `CSeq` header – and then one response is
sent (`answers_of_run`).
-/

/-- The parser and the input buffer of a connection, and what it serves. -/
structure Conversation where
  parser : RtspRequest
  buffer : Buffer
  serving : Serving

/-- A request that is delivered: what the system contributes, and the server
as it is by then. -/
structure Delivery where
  request : Request
  env : Env
  world : World

namespace Conversation

/-- What the command finds. -/
def meets (s : Conversation) (d : Delivery) : Serving := { s.serving with world := d.world }

/-- The read of a request. -/
def read (s : Conversation) (d : Delivery) : Except Fault Conversation := do
  let (parser, buffer, serving) ← RtspReader.handleRtspMessage (Serving.handleCmd d.env) s.parser
    (s.buffer ++ d.request.bytes) (s.meets d)
  return ⟨parser, buffer, serving⟩

/-- The reads of a connection from its start. The members of the parser that
have no initial value have any. -/
def system : System Conversation Delivery where
  init s := s.parser.IsInitial ∧ s.buffer = [] ∧ s.serving.sent = [] ∧
    ∃ fd, s.serving.conn = { tcpConn := { fd := fd } }
  step s d s' := s.read d = .ok s'

/-- **The read answers the request**: it dispatches one command, with the
method, the URL and the number of the request, and its handler sends one
response. The last line ties this to what the connection does with the read: it does
this and nothing more. -/
def Answers (s : Conversation) (d : Delivery) : Prop :=
  ∃ q s' message,
    RtspReader.readStep s.parser (s.buffer ++ d.request.bytes) = .ok (s'.parser, s'.buffer, some q) ∧
    q.Carries d.request ∧
    (s.meets d).handleCmd d.env q = .ok s'.serving ∧
    s'.serving.sent = s.serving.sent ++ [message] ∧
    s.read d = .ok s'

/-- **A request that the server answers.** The first three fields are about its
text: the request line is accepted, the number behind the first `CSeq` is that
of the header, and the header text passes the test of the method. The other two
are about the connection that it meets: it was not shut down, and there is the
`RtpConnection` that the command uses. -/
structure Servable (s : Conversation) (d : Delivery) : Prop where
  accepted : d.request.Accepted
  cseq : ∃ cseq, RtspRequest.cseqOf d.request.headerText = some cseq ∧
    cseq.toNat = d.request.cseq
  completes : RtspRequest.completes d.request.method d.request.headerText = true
  connected : s.serving.conn.tcpConn.connected = true
  rtpConn : (s.meets d).HasRtpConn d.request.method
    ((RtspRequest.readTransport d.request.headerText).1.getD .rtpOverTcp)

/-- **Between two reads** nothing of a request is left: the parser waits for a request
line and has no parameters, and the buffer is empty. -/
structure Ready (s : Conversation) : Prop where
  parser : s.parser.IsInitial
  buffer : s.buffer = []

/-- **A servable request is dispatched in its read**, and leaves nothing
behind. -/
theorem Ready.dispatches {s : Conversation} (hs : s.Ready) {d : Delivery} (h : s.Servable d) :
    ∃ q, q.Carries d.request ∧ (s.meets d).HasRtpConn q.method q.transport ∧
      RtspReader.readStep s.parser (s.buffer ++ d.request.bytes) = .ok (q.reset, [], some q) := by
  obtain ⟨cseq, hcseq, hnumber⟩ := h.cseq
  obtain ⟨q, hq, hread⟩ := RtspReader.readStep_accepted hs.parser.state h.accepted []
  obtain ⟨hgot, hmethod, hurl, hcs⟩ := hq.headersRead_spec hs.parser d.request.headerText
  have hdone : (q.headersRead d.request.headerText).gotAll = true := by
    rw [hgot, hcseq, h.completes]
    rfl
  rw [hcseq] at hcs
  refine ⟨q.headersRead d.request.headerText, ⟨hmethod, hurl, hcs ▸ hnumber⟩, ?_, ?_⟩
  · rw [hmethod]
    refine h.rtpConn.of_transport fun hsetup hmulti => ?_
    exact (hq.transport_headersRead hsetup (by rw [hcseq]; rfl) h.completes).trans hmulti
  · rw [hs.buffer, List.nil_append]
    rw [RtspReader.readHeaders_append q d.request.headerText (by decide), List.append_nil] at hread
    rw [hread, RtspReader.finish, if_pos hdone]
    rfl

/-- **The step lemma**: a servable request is answered, and the next one
finds the parser ready. -/
theorem Ready.answers {s : Conversation} (hs : s.Ready) {d : Delivery} (h : s.Servable d) :
    s.Answers d ∧ ∀ s', s.read d = .ok s' → s'.Ready := by
  obtain ⟨q, hcarries, hrtp, hread⟩ := hs.dispatches h
  obtain ⟨x, hx, hsent⟩ := Serving.handleCmd_answers d.env hrtp
  obtain ⟨message, hmessage⟩ := hsent h.connected (hcarries.method ▸ d.request.supported)
  have hstep : s.read d = .ok ⟨q.reset, [], x⟩ := by
    unfold read
    rw [RtspReader.handleRtspMessage_eq, hread, Except.ok_bind]
    dsimp only
    rw [hx]
    rfl
  refine ⟨⟨q, ⟨q.reset, [], x⟩, message, hread, hcarries, hx, hmessage, hstep⟩, fun s' hs' => ?_⟩
  rw [hstep] at hs'
  cases hs'
  exact ⟨RtspRequest.isInitial_reset q, rfl⟩

theorem ready_of_run {deliveries : List Delivery} {s : Conversation}
    (hrun : (system.restrict Servable).Run deliveries s) : s.Ready := by
  have hinit : ∀ s, (system.restrict Servable).init s → s.Ready := fun s h => ⟨h.1, h.2.1⟩
  have hstep : ∀ s d s', s.Ready → (system.restrict Servable).step s d s' → s'.Ready :=
    fun s d s' hs h => (hs.answers h.1).2 s' h.2
  exact hrun.invariant hinit hstep

/-- **Every request is answered in its own read**, in every history of
requests that are servable. The invariant is that the parser and the buffer are
between two reads as those of a new connection; one request that the parser waits
with would take the next one for its header lines. -/
theorem answers_of_run {deliveries : List Delivery} {s : Conversation}
    (hrun : (system.restrict Servable).Run deliveries s) {d : Delivery} (h : s.Servable d) :
    s.Answers d :=
  ((ready_of_run hrun).answers h).1

/-- **What the next request finds**: a connection that is still up, unless this one
was a TEARDOWN, and the `RtpConnection` that there was, or that a DESCRIBE has made. -/
theorem Ready.next {s : Conversation} (hs : s.Ready) {d : Delivery} (h : s.Servable d)
    (hm : d.request.method ≠ .teardown) : ∃ s', s.read d = .ok s' ∧
      s'.serving.conn.tcpConn.connected = true ∧
      (s.serving.conn.rtpConnPtr ≠ none ∨ d.request.method = .describe →
        s'.serving.conn.rtpConnPtr ≠ none) := by
  obtain ⟨⟨q, s', message, -, hcarries, hcmd, -, hread⟩, -⟩ := hs.answers h
  have hup : (s.meets d).conn.tcpConn.connected = true := h.connected
  refine ⟨s', hread, ?_⟩
  by_cases hdescribe : q.method = .describe
  · obtain ⟨hptr, htcp⟩ := Serving.handleCmdDescribe_conn d.env q (s.meets d)
    rw [Serving.eq_handleCmdDescribe hcmd hdescribe, htcp, hptr]
    exact ⟨hup, fun _ => Option.some_ne_none _⟩
  · have howner := Serving.sameOwner_handleCmd hcmd hdescribe
    have hnot : (q.method == .teardown) = false := by
      rw [hcarries.method]
      simpa using hm
    rw [howner.tcpConn, howner.rtpConnPtr, hnot]
    refine ⟨hup, fun hor => hor.resolve_right fun hd => ?_⟩
    exact hdescribe (hcarries.method.trans hd)

/-! ## A request that leaks into the next -/

/-- **A request that does not pass its test is kept waiting for**: the read
dispatches nothing, and the parser stays in the header state with its
parameters. -/
theorem Ready.waits {s : Conversation} (hs : s.Ready) {d : Delivery} (h : d.request.Accepted)
    (hfail : RtspRequest.completes d.request.method d.request.headerText = false) :
    ∃ s', s.read d = .ok s' ∧ s'.parser.state = .parseHeadersLine ∧
      s'.parser.method = d.request.method ∧ s'.buffer = [] := by
  obtain ⟨q, hq, hread⟩ := RtspReader.readStep_accepted hs.parser.state h []
  obtain ⟨hgot, hmethod, -, -⟩ := hq.headersRead_spec hs.parser d.request.headerText
  obtain ⟨hstate, -, -, -⟩ := RtspRequest.headersRead_spec hq.state d.request.headerText
  have hnot : ¬ (q.headersRead d.request.headerText).gotAll = true := by
    rw [hgot, hfail, Bool.and_false]
    exact Bool.false_ne_true
  rw [RtspReader.readHeaders_append q d.request.headerText (by decide), List.append_nil,
    RtspReader.finish, if_neg hnot] at hread
  refine ⟨⟨q.headersRead d.request.headerText, [], s.meets d⟩, ?_, ?_, hmethod, rfl⟩
  · unfold read
    rw [hs.buffer, List.nil_append, RtspReader.handleRtspMessage_eq, hread]
    rfl
  · rw [hstate, hq.method, hfail, Bool.and_false]
    rfl

/-- A connection that was just made. -/
def fresh : Conversation where
  parser := { method := .none, channelId := .channel0, transport := .rtpOverTcp }
  buffer := []
  serving := { conn := { tcpConn := { fd := 7 } }, world := ⟨{}, fun _ => .zeroed, 0⟩ }

theorem run_fresh {S : System Conversation Delivery} (h : S.init = system.init) :
    S.Run [] fresh := by
  refine .nil ?_
  rw [h]
  exact ⟨⟨rfl, rfl, rfl⟩, rfl, rfl, 7, rfl⟩

/-- A delivery to a server without sessions. -/
def deliver (r : Request) : Delivery := ⟨r, .quiet, ⟨{}, fun _ => .zeroed, 0⟩⟩

/-- The requests of a client that views a stream over UDP. -/
def viewing : List Request :=
  [Request.plainOptions, Request.acceptingDescribe,
    Request.plainSetup (ascii "5000-5001") (by decide) (by decide), Request.plainPlay]

/-- They are answered one after the other. -/
theorem run_viewing : ∃ s, (system.restrict Servable).Run (viewing.map deliver) s ∧
    s.serving.conn.tcpConn.connected = true ∧ s.serving.conn.rtpConnPtr ≠ none := by
  have hfresh : (system.restrict Servable).Run [] fresh := run_fresh rfl
  have hoptions : fresh.Servable (deliver Request.plainOptions) :=
    ⟨Request.accepted_plain rfl rfl, ⟨2, by decide +kernel, rfl⟩, rfl, rfl, trivial⟩
  obtain ⟨s₁, hread₁, hup₁, -⟩ := (ready_of_run hfresh).next hoptions (by decide)
  have hrun₁ := hfresh.snoc (show (system.restrict Servable).step _ _ _ from ⟨hoptions, hread₁⟩)
  have hdescribe : s₁.Servable (deliver Request.acceptingDescribe) :=
    ⟨Request.accepted_plain rfl rfl, ⟨1, by decide +kernel, rfl⟩, by decide +kernel, hup₁, trivial⟩
  obtain ⟨s₂, hread₂, hup₂, hptr₂⟩ := (ready_of_run hrun₁).next hdescribe (by decide)
  have hrun₂ := hrun₁.snoc (show (system.restrict Servable).step _ _ _ from ⟨hdescribe, hread₂⟩)
  have hmade := hptr₂ (.inr rfl)
  have hsetup : s₂.Servable
      (deliver (Request.plainSetup (ascii "5000-5001") (by decide) (by decide))) :=
    ⟨Request.accepted_plain rfl rfl, ⟨2, by decide +kernel, rfl⟩, by decide +kernel, hup₂,
      .inl hmade⟩
  obtain ⟨s₃, hread₃, hup₃, hptr₃⟩ := (ready_of_run hrun₂).next hsetup (by decide)
  have hrun₃ := hrun₂.snoc (show (system.restrict Servable).step _ _ _ from ⟨hsetup, hread₃⟩)
  have hplay : s₃.Servable (deliver Request.plainPlay) :=
    ⟨Request.accepted_plain rfl rfl, ⟨2, by decide +kernel, rfl⟩, by decide +kernel, hup₃,
      hptr₃ (.inl hmade)⟩
  obtain ⟨s₄, hread₄, hup₄, hptr₄⟩ := (ready_of_run hrun₃).next hplay (by decide)
  exact ⟨s₄, hrun₃.snoc ⟨hplay, hread₄⟩, hup₄, hptr₄ (.inl (hptr₃ (.inl hmade)))⟩

/-- The TEARDOWN behind an OPTIONS, a DESCRIBE, a SETUP and a PLAY that were all
answered. -/
theorem answers_teardown : ∃ s, (system.restrict Servable).Run (viewing.map deliver) s ∧
    s.Answers (deliver Request.plainTeardown) := by
  obtain ⟨s, hrun, hup, hptr⟩ := run_viewing
  refine ⟨s, hrun, answers_of_run hrun ?_⟩
  exact ⟨Request.accepted_plain rfl rfl, ⟨2, by decide +kernel, rfl⟩, rfl, hup, hptr⟩

/-- **The DESCRIBE is waited for, and the OPTIONS behind it is read as more of
its header lines**, so that neither is answered. -/
theorem plainOptions_not_answered : ¬ ∀ deliveries s, system.Run deliveries s →
    ∀ d, s.Answers d := by
  intro hall
  have hready : fresh.Ready := ⟨⟨rfl, rfl, rfl⟩, rfl⟩
  obtain ⟨s, hread, hstate, hmethod, hbuf⟩ := hready.waits
    (d := deliver Request.plainDescribe) (Request.accepted_plain rfl rfl) (by decide +kernel)
  replace hmethod : s.parser.method = .describe := hmethod
  obtain ⟨q, s', message, hstep, -⟩ := hall _ s ((run_fresh rfl).snoc hread)
    (deliver Request.plainOptions)
  -- everything up to the blank line is one header text of the DESCRIBE
  have htext : s.buffer ++ Request.plainOptions.bytes
      = Request.plainOptions.requestLine ++ crlf ++ Request.plainOptions.headerText
        ++ crlf ++ [] := by
    rw [hbuf, Request.bytes]
    simp only [List.append_assoc, List.nil_append, List.append_nil]
  have hfail : RtspRequest.completes .describe
      (Request.plainOptions.requestLine ++ crlf ++ Request.plainOptions.headerText) = false := by
    decide +kernel
  obtain ⟨hdone, -, -, -⟩ := RtspRequest.headersRead_spec hstate
    (Request.plainOptions.requestLine ++ crlf ++ Request.plainOptions.headerText)
  have hnot : ¬ (s.parser.headersRead
      (Request.plainOptions.requestLine ++ crlf ++
        Request.plainOptions.headerText)).gotAll = true := by
    rw [RtspRequest.gotAll, hdone, hmethod, hfail, Bool.and_false]
    decide
  rw [RtspReader.readStep_headers hstate (by rw [hmethod]; decide) (by rw [hbuf]; decide),
    show s.buffer ++ (deliver Request.plainOptions).request.bytes = _ from htext,
    RtspReader.readHeaders_append _ _ (by decide), RtspReader.finish, if_neg hnot] at hstep
  have hnone : none = some q := congrArg (fun x => x.2.2) (Except.ok.inj hstep)
  cases hnone

end Conversation
