import RtspServer.RtspConnection
import RtspServer.Transition

/-!
# Commands in any order

A client may send commands in any order, and sessions come and go on the
server meanwhile. The handlers of PLAY, TEARDOWN and GET_PARAMETER use
`_rtpConnPtr` without a look at it; that of SETUP is protected by looking up
the session the client described, whose id is 0 before the first DESCRIBE.

The invariant of a connection (`Waiting`) says what holds until the first
DESCRIBE: there is no `RtpConnection`, the session id is 0 and the connection
is up. From it comes exactly when a command is answered as it should
(`answered_iff`): when a DESCRIBE came before it – or, for SETUP, when there
is no session under id 0 or the transport is refused anyway.
-/

/-- What happens on the server between two requests of a client, and the
requests themselves. A session that is added gets the next number of the
counter as its id. -/
inductive ClientEvent where
  | request (env : Env) (r : RtspRequest)
  | addMediaSession (session : MediaSession RtpRef)
  | removeMediaSession (sessionId : MediaSessionId)

/-- A client's connection, and the counter of session ids. -/
structure ClientState where
  serving : Serving
  lastMediaSessionId : UInt32

namespace ClientState

/-- The tables of the server. -/
def rtsp (s : ClientState) : Rtsp RtpRef := s.serving.world.rtsp

def setRtsp (s : ClientState) (rtsp : Rtsp RtpRef) : ClientState :=
  { s with serving.world.rtsp := rtsp }

def step (s : ClientState) : ClientEvent → Except Fault ClientState
  | .request env r => do
    let serving ← s.serving.handleCmd env r
    return { s with serving := serving }
  | .addMediaSession session =>
    let id := s.lastMediaSessionId + 1
    .ok { s.setRtsp (s.rtsp.addMediaSession { session with sessionId := id }).2 with
      lastMediaSessionId := id }
  | .removeMediaSession sessionId => do
    let rtsp ← s.rtsp.removeMediaSession sessionId
    return s.setRtsp rtsp

/-- A new connection to a server. -/
def new (fd : ℤ) (world : World) (lastMediaSessionId : UInt32) : ClientState :=
  ⟨{ conn := { tcpConn := { fd := fd } }, world := world }, lastMediaSessionId⟩

/-- What happens to a client from its connection on. -/
def system (fd : ℤ) (world : World) (lastMediaSessionId : UInt32) :
    System ClientState ClientEvent :=
  System.ofStep (· = new fd world lastMediaSessionId) step

/-- The commands that act on the `RtpConnection`. -/
def needsRtpConn : Method → Bool
  | .setup | .play | .teardown | .getParameter => true
  | _ => false

/-- A response with a status of 400 or more. -/
def IsErrorResponse (message : Bytes) : Prop :=
  ascii "RTSP/1.0 4" <+: message ∨ ascii "RTSP/1.0 5" <+: message

/-- **What a request should meet with**: its handler ends without a fault,
and where it has no `RtpConnection` to act on the answer is an error. A fault
is a use of `_rtpConnPtr` while it is null. Where there is an `RtpConnection`,
nothing is asked of the answer. -/
def Answered (s : ClientState) (env : Env) (r : RtspRequest) : Prop :=
  ∃ x, s.serving.handleCmd env r = .ok x ∧
    (s.serving.conn.rtpConnPtr = none → needsRtpConn r.method = true →
      ∃ message, x.sent = s.serving.sent ++ [message] ∧ IsErrorResponse message)

/-- A DESCRIBE is among the events. -/
def Described (events : List ClientEvent) : Prop :=
  ∃ env r, ClientEvent.request env r ∈ events ∧ r.method = .describe

/-- **When a request comes in order.** PLAY, TEARDOWN and GET_PARAMETER use the
`RtpConnection` that a DESCRIBE has made, and no handler looks whether there is
one. SETUP looks first whether its session is there, and a connection that has
described nothing asks for session 0; it is answered with an error then, and
so it is when it asks for multicast. -/
def InOrder (events : List ClientEvent) (s : ClientState) (r : RtspRequest) : Prop :=
  match r.method with
  | .play | .teardown | .getParameter => Described events
  | .setup => Described events ∨ s.rtsp.lookMediaSession 0 = none
      ∨ r.transport = .rtpOverMulticast
  | _ => True

/-! ## Before the first DESCRIBE -/

/-- A connection that has not described anything: it has no `RtpConnection`,
its `_sessionId` is still 0, and no TEARDOWN has shut it down. -/
structure Waiting (x : Serving) : Prop where
  rtpConnPtr : x.conn.rtpConnPtr = none
  sessionId : x.conn.sessionId = 0
  connected : x.conn.tcpConn.connected = true

/-- **The invariant**: until the first DESCRIBE the connection waits, and from
then on it has an `RtpConnection`, which no command takes from it. A DESCRIBE makes
one also when it finds no session. -/
structure Inv (events : List ClientEvent) (s : ClientState) : Prop where
  waiting : ¬ Described events → Waiting s.serving
  described : Described events → s.serving.conn.rtpConnPtr ≠ none

theorem described_snoc {events : List ClientEvent} {e : ClientEvent} :
    Described (events ++ [e]) ↔ Described events ∨
      ∃ env r, e = .request env r ∧ r.method = .describe := by
  constructor
  · rintro ⟨env, r, hmem, hr⟩
    rcases List.mem_append.mp hmem with h | h
    · exact .inl ⟨env, r, h, hr⟩
    · exact .inr ⟨env, r, (List.mem_singleton.mp h).symm, hr⟩
  · rintro (⟨env, r, hmem, hr⟩ | ⟨env, r, rfl, hr⟩)
    · exact ⟨env, r, List.mem_append_left _ hmem, hr⟩
    · exact ⟨env, r, List.mem_append_right _ (List.mem_singleton.mpr rfl), hr⟩

theorem inv_new (fd : ℤ) (world : World) (last : UInt32) : Inv [] (new fd world last) where
  waiting _ := ⟨rfl, rfl, rfl⟩
  described := fun ⟨_, _, h, _⟩ => absurd h List.not_mem_nil

/-- Events on the server's side leave the connection alone. -/
theorem Inv.of_conn_eq {events : List ClientEvent} {e : ClientEvent} {s s' : ClientState}
    (hs : Inv events s) (he : ∀ env r, e ≠ .request env r)
    (hconn : s'.serving.conn = s.serving.conn) : Inv (events ++ [e]) s' := by
  have hd : Described (events ++ [e]) ↔ Described events :=
    described_snoc.trans (or_iff_left fun ⟨env, r, h, _⟩ => he env r h)
  refine ⟨fun h => ?_, fun h => ?_⟩
  · have hw := hs.waiting (mt hd.mpr h)
    exact ⟨hconn ▸ hw.rtpConnPtr, hconn ▸ hw.sessionId, hconn ▸ hw.connected⟩
  · rw [hconn]
    exact hs.described (hd.mp h)

/-- Without an `RtpConnection` to read, a handler that reads it fails. -/
theorem Waiting.rtpConn {x : Serving} (hx : Waiting x) : x.rtpConn = .error .nullPointer := by
  unfold Serving.rtpConn
  rw [hx.rtpConnPtr]

/-- Before the first DESCRIBE a TEARDOWN ends in a fault. -/
theorem Waiting.not_teardown {x x' : Serving} {env : Env} {r : RtspRequest} (hx : Waiting x)
    (h : x.handleCmd env r = .ok x') : r.method ≠ .teardown := by
  intro hr
  simp only [Serving.handleCmd, hr, Serving.handleCmdTeardown, hx.rtpConn] at h
  cases h

/-- **A request keeps the invariant.** -/
theorem Inv.request {events : List ClientEvent} {s : ClientState} (hs : Inv events s)
    {env : Env} {r : RtspRequest} {x : Serving} (h : s.serving.handleCmd env r = .ok x) :
    Inv (events ++ [.request env r]) { s with serving := x } := by
  by_cases hr : r.method = .describe
  · have hx : x = s.serving.handleCmdDescribe env r := Serving.eq_handleCmdDescribe h hr
    refine ⟨fun hd => absurd (described_snoc.mpr (.inr ⟨env, r, rfl, hr⟩)) hd, fun _ => ?_⟩
    show x.conn.rtpConnPtr ≠ none
    rw [hx, (Serving.handleCmdDescribe_conn env r s.serving).1]
    exact Option.some_ne_none _
  · have hsame := Serving.sameOwner_handleCmd h hr
    have hd : Described (events ++ [.request env r]) ↔ Described events := by
      refine described_snoc.trans (or_iff_left ?_)
      rintro ⟨env', r', heq, hr'⟩
      cases heq
      exact hr hr'
    refine ⟨fun hnd => ?_, fun hnd => ?_⟩
    · have hw := hs.waiting (mt hd.mpr hnd)
      refine ⟨hsame.rtpConnPtr.trans hw.rtpConnPtr, hsame.sessionId.trans hw.sessionId, ?_⟩
      show x.conn.tcpConn.connected = true
      rw [hsame.tcpConn, beq_eq_false_iff_ne.mpr (hw.not_teardown h)]
      exact hw.connected
    · show x.conn.rtpConnPtr ≠ none
      rw [hsame.rtpConnPtr]
      exact hs.described (hd.mp hnd)

theorem Inv.step {events : List ClientEvent} {s s' : ClientState} {e : ClientEvent}
    (hs : Inv events s) (h : s.step e = .ok s') : Inv (events ++ [e]) s' := by
  cases e with
  | request env r =>
    obtain ⟨x, hx, h⟩ := Except.bind_eq_ok_iff.mp h
    cases h
    exact hs.request hx
  | addMediaSession session =>
    cases h
    exact hs.of_conn_eq (fun _ _ h => (by cases h)) rfl
  | removeMediaSession sessionId =>
    obtain ⟨rtsp, -, h⟩ := Except.bind_eq_ok_iff.mp h
    cases h
    exact hs.of_conn_eq (fun _ _ h => (by cases h)) rfl

/-- **The invariant holds after every run.** -/
theorem inv_of_run {fd : ℤ} {world : World} {last : UInt32} {events : List ClientEvent}
    {s : ClientState} (hrun : (system fd world last).Run events s) : Inv events s := by
  induction hrun with
  | nil hinit => exact hinit ▸ inv_new fd world last
  | snoc _ hstep ih => exact ih.step hstep

/-! ## Which requests are answered -/

/-- A response begins with its status line. -/
theorem prefix_response {pat : Bytes} {status : String}
    (h : pat <+: ascii ("RTSP/1.0 " ++ status)) (hlen : pat.length ≤ 1023)
    (headers : List Bytes) :
    pat <+: RtspRequest.snprintf [] 1024 (RtspRequest.response status headers) := by
  refine List.prefix_take_iff.mpr ⟨?_, hlen⟩
  rw [List.nil_append, RtspRequest.response, RtspRequest.line, List.append_assoc,
    List.append_assoc]
  exact h.trans (List.prefix_append _ _)

theorem isErrorResponse_serverError (r : RtspRequest) :
    IsErrorResponse (r.buildServerErrorRes 1024) :=
  .inr (prefix_response (by decide) (by decide) _)

theorem isErrorResponse_unsupported (r : RtspRequest) :
    IsErrorResponse (r.buildUnsupportedRes 1024) :=
  .inl (prefix_response (by decide) (by decide) _)

/-- A SETUP before the first DESCRIBE. -/
theorem Waiting.answered_setup_iff {s : ClientState} (hx : Waiting s.serving) {env : Env}
    {r : RtspRequest} (hr : r.method = .setup) :
    Answered s env r ↔ s.rtsp.lookMediaSession 0 = none ∨ r.transport = .rtpOverMulticast := by
  unfold Answered
  simp only [Serving.handleCmd, hr, Serving.handleCmdSetup, hx.sessionId]
  cases hs : s.serving.world.rtsp.lookMediaSession 0 with
  | none =>
    refine iff_of_true ⟨_, rfl, fun _ _ => ⟨_, ?_, isErrorResponse_serverError r⟩⟩ (.inl hs)
    exact Serving.sendMessage_sent hx.connected _
  | some session =>
    have hsome : s.rtsp.lookMediaSession 0 ≠ none := by
      rw [show s.rtsp.lookMediaSession 0 = some session from hs]
      exact Option.some_ne_none _
    cases ht : r.transport with
    | rtpOverTcp =>
      simp only [hx.rtpConn, Except.error_bind]
      refine iff_of_false ?_ (by simp [hsome])
      rintro ⟨x, h, -⟩
      cases h
    | rtpOverUdp =>
      simp only [hx.rtpConn, Except.error_bind]
      refine iff_of_false ?_ (by simp [hsome])
      rintro ⟨x, h, -⟩
      cases h
    | rtpOverMulticast =>
      refine iff_of_true ⟨_, rfl, fun _ _ => ⟨_, ?_, isErrorResponse_unsupported r⟩⟩ (.inr rfl)
      exact Serving.sendMessage_sent hx.connected _

/-- The handlers of PLAY, TEARDOWN and GET_PARAMETER fail before the first
DESCRIBE. -/
theorem Waiting.not_answered {s : ClientState} (hx : Waiting s.serving) {env : Env}
    {r : RtspRequest} (hr : r.method = .play ∨ r.method = .teardown ∨ r.method = .getParameter) :
    ¬ Answered s env r := by
  rintro ⟨x, h, -⟩
  have hplay : Serving.rtpConn { s.serving with
      conn := { s.serving.conn with connState := .startPlay } } = .error .nullPointer :=
    hx.rtpConn
  rcases hr with hr | hr | hr
  · simp only [Serving.handleCmd, hr, Serving.handleCmdPlay, hplay, Except.error_bind] at h
    cases h
  · simp only [Serving.handleCmd, hr, Serving.handleCmdTeardown, hx.rtpConn,
      Except.error_bind] at h
    cases h
  · simp only [Serving.handleCmd, hr, Serving.handleCmdGetParamter, hx.rtpConn,
      Except.error_bind] at h
    cases h

/-- **A request is answered exactly when it comes in order.** In every run of
a connection and its server, a request meets no null `_rtpConnPtr` and is
answered with an error where it has no `RtpConnection` to act on, if and only
if a DESCRIBE came before it – or it needs none, or it is a SETUP that finds
no session under id 0 or asks for a transport that is refused. -/
theorem answered_iff {fd : ℤ} {world : World} {last : UInt32} {events : List ClientEvent}
    {s : ClientState} (hrun : (system fd world last).Run events s) (env : Env)
    (r : RtspRequest) : Answered s env r ↔ InOrder events s r := by
  have hinv := inv_of_run hrun
  by_cases hd : Described events
  · -- the connection has its `RtpConnection`: every command is answered, and in order
    obtain ⟨ref, href⟩ := Option.ne_none_iff_exists'.mp (hinv.described hd)
    obtain ⟨x, hx, -⟩ := Serving.handleCmd_answers env (Serving.hasRtpConn_of_some href r)
    refine iff_of_true ⟨x, hx, fun hnone => ?_⟩ ?_
    · rw [href] at hnone
      cases hnone
    · unfold InOrder
      cases r.method <;> first | exact hd | exact .inl hd | trivial
  · have hw := hinv.waiting hd
    unfold InOrder
    cases hr : r.method with
    | options =>
      refine iff_of_true ⟨s.serving.handleCmdOption r, ?_, fun _ h => ?_⟩ trivial
      · simp only [Serving.handleCmd, hr]
      · rw [hr] at h; cases h
    | describe =>
      refine iff_of_true ⟨s.serving.handleCmdDescribe env r, ?_, fun _ h => ?_⟩ trivial
      · simp only [Serving.handleCmd, hr]
      · rw [hr] at h; cases h
    | setup =>
      rw [hw.answered_setup_iff hr]
      exact (or_iff_right hd).symm
    | play => exact iff_of_false (hw.not_answered (.inl hr)) hd
    | teardown => exact iff_of_false (hw.not_answered (.inr (.inl hr))) hd
    | getParameter => exact iff_of_false (hw.not_answered (.inr (.inr hr))) hd
    | rtcp =>
      refine iff_of_true ⟨s.serving, ?_, fun _ h => ?_⟩ trivial
      · simp only [Serving.handleCmd, hr]
      · rw [hr] at h; cases h
    | none =>
      refine iff_of_true ⟨s.serving, ?_, fun _ h => ?_⟩ trivial
      · simp only [Serving.handleCmd, hr]
      · rw [hr] at h; cases h

/-- A server without sessions. -/
def emptyWorld : World where
  rtsp := {}
  rtpConn _ := RtpConnection.zeroed

/-- A parsed request with a `CSeq` and nothing else. -/
def bareRequest (method : Method) : RtspRequest where
  method := method
  channelId := .channel0
  transport := .rtpOverTcp
  headerLineParam
    | .cseq => some ([], 1)
    | _ => none
  state := .gotAll

/-- A PLAY after a DESCRIBE of an unknown stream. -/
theorem answered_iff_playAfterDescribe :
    ∃ s, (system 7 emptyWorld 1).Run [.request .quiet (bareRequest .describe)] s ∧
      (Answered s .quiet (bareRequest .play)
        ↔ InOrder [.request .quiet (bareRequest .describe)] s (bareRequest .play)) := by
  have hrun : (system 7 emptyWorld 1).Run [.request .quiet (bareRequest .describe)] _ :=
    System.run_of_foldlM rfl
  exact ⟨_, hrun, answered_iff hrun .quiet (bareRequest .play)⟩

/-- A PLAY as the first command reads through the null `_rtpConnPtr`. -/
theorem firstPlay_not_answered :
    ¬ ∀ (fd : ℤ) (world : World) (last : UInt32) (events : List ClientEvent) (s : ClientState),
      (system fd world last).Run events s → ∀ env r, r.state = .gotAll → Answered s env r := by
  intro h
  obtain ⟨x, hx, -⟩ := h 7 emptyWorld 1 [] _ (.nil rfl) .quiet (bareRequest .play) rfl
  have hfault : Serving.handleCmd .quiet (bareRequest .play) (new 7 emptyWorld 1).serving
      = .error .nullPointer := rfl
  rw [hfault] at hx
  cases hx

end ClientState
