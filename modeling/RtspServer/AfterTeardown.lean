import RtspServer.RtpRun
import RtspServer.SetupHistory

/-!
# Packets after TEARDOWN

`sendRtpPacket` looks at `_isClosed` and queues a task; the task itself looks
at the play flags of the channel only. `teardown` clears the flags, so what
is in the queue then comes to nothing, unless a PLAY or a record sets the
flags once more: neither looks at `_isClosed`.

A media thread tests and queues in two steps here, and any number of such
calls can be under way. The state remembers what a PLAY or a record has
started after the teardown, and what was transmitted since.
-/

namespace RtpConnection

/-! ## What the operations do to the flags -/

/-- Neither the closed flag nor what plays or records is changed. -/
structure KeepsActive (c c' : RtpConnection) : Prop where
  isClosed : c'.isClosed = c.isClosed
  isActive : ∀ ch, c'.isActive ch = c.isActive ch

theorem KeepsActive.refl (c : RtpConnection) : c.KeepsActive c := ⟨rfl, fun _ => rfl⟩

theorem KeepsActive.trans {c c' c'' : RtpConnection} (h : c.KeepsActive c')
    (h' : c'.KeepsActive c'') : c.KeepsActive c'' :=
  ⟨h'.isClosed.trans h.isClosed, fun ch => (h'.isActive ch).trans (h.isActive ch)⟩

/-- The flags of a channel are read from its record. -/
theorem isActive_of_info {c c' : RtpConnection} {ch : MediaChannelId}
    (hplay : (c'.mediaChannelInfo ch).isPlay = (c.mediaChannelInfo ch).isPlay)
    (hrecord : (c'.mediaChannelInfo ch).isRecord = (c.mediaChannelInfo ch).isRecord) :
    c'.isActive ch = c.isActive ch := by
  unfold isActive
  rw [hplay, hrecord]

theorem keepsActive_modifyInfo (c : RtpConnection) (ch : MediaChannelId)
    {f : MediaChannelInfo → MediaChannelInfo}
    (hf : ∀ info, (f info).isPlay = info.isPlay ∧ (f info).isRecord = info.isRecord) :
    c.KeepsActive (c.modifyInfo ch f) := by
  refine ⟨rfl, fun ch' => isActive_of_info ?_ ?_⟩
  · exact c.modifyInfo_proj ch ch' (·.isPlay) fun info => (hf info).1
  · exact c.modifyInfo_proj ch ch' (·.isRecord) fun info => (hf info).2

theorem keepsActive_setupRtpOverTcp (c : RtpConnection) (tcpConn : Option TcpPeer)
    (ch : MediaChannelId) (rtpChannel rtcpChannel : UInt16) :
    c.KeepsActive (c.setupRtpOverTcp tcpConn ch rtpChannel rtcpChannel).2 := by
  cases tcpConn with
  | none => exact .refl c
  | some tcp =>
    have hinfo := c.keepsActive_modifyInfo ch (f := fun info =>
      { info with rtpChannel := rtpChannel, rtcpChannel := rtcpChannel, isSetup := true })
      fun _ => ⟨rfl, rfl⟩
    exact hinfo.trans ⟨rfl, fun _ => rfl⟩

theorem keepsActive_setupRtpOverUdp (c : RtpConnection) (tcpConn : Option TcpPeer)
    (attempts : Fin 10 → UdpAttempt) (ch : MediaChannelId) (rtpPort rtcpPort : UInt16) :
    c.KeepsActive (c.setupRtpOverUdp tcpConn attempts ch rtpPort rtcpPort).2.1 := by
  cases tcpConn with
  | none => exact .refl c
  | some tcp =>
    obtain ⟨-, -, -, -, hspec⟩ := setupRtpOverUdp_spec c tcp attempts ch rtpPort rtcpPort
    refine ⟨hspec.isClosed, fun ch' => ?_⟩
    unfold isActive
    rw [hspec.mediaChannelInfo]
    by_cases hch : ch' = ch
    · subst hch
      rw [Function.update_self]
    · rw [Function.update_of_ne hch]

theorem keepsActive_setFrameType (c : RtpConnection) (frameType : UInt8) :
    c.KeepsActive (c.setFrameType frameType) := by
  obtain ⟨hasIDRFrame, h⟩ := c.setFrameType_eq frameType
  rw [h]
  exact ⟨rfl, fun _ => rfl⟩

theorem keepsActive_prepare (c : RtpConnection) (ch : MediaChannelId) (pkt : RtpPacket) :
    c.KeepsActive (c.prepare ch pkt).1 := by
  have hframe := c.keepsActive_setFrameType pkt.type
  rcases prepare_cases c ch pkt with ⟨-, h⟩ | ⟨-, h⟩
  · rw [h]
    dsimp only
    exact hframe.trans (keepsActive_modifyInfo _ ch fun _ => ⟨rfl, rfl⟩)
  · rw [h]
    exact hframe

/-- A PLAY or a record starts the channels that are set up. -/
theorem isActive_play (c : RtpConnection) (ch : MediaChannelId) :
    c.play.isActive ch = ((c.mediaChannelInfo ch).isSetup || c.isActive ch) := by
  unfold isActive play
  rw [mapInfo_mediaChannelInfo]
  cases hsetup : (c.mediaChannelInfo ch).isSetup with
  | false => rfl
  | true => rfl

theorem isActive_record (c : RtpConnection) (ch : MediaChannelId) :
    c.record.isActive ch = ((c.mediaChannelInfo ch).isSetup || c.isActive ch) := by
  unfold isActive record
  rw [mapInfo_mediaChannelInfo]
  cases hsetup : (c.mediaChannelInfo ch).isSetup with
  | false => rfl
  | true => rfl

/-- A connection that was torn down is closed; if it was open, nothing plays
or records. -/
theorem teardown_cases (c : RtpConnection) :
    c.isClosed = true ∧ c.teardown = c ∨
    c.isClosed = false ∧ c.teardown.isClosed = true ∧ ∀ ch, c.teardown.isActive ch = false := by
  unfold teardown
  cases hclosed : c.isClosed with
  | true => exact .inl ⟨rfl, rfl⟩
  | false => exact .inr ⟨rfl, rfl, fun _ => rfl⟩

/-- The commands that start channels. -/
def Op.starts : Op → Bool
  | .play | .record => true
  | _ => false

/-- **What an operation that is no task does to the flags.** -/
theorem exec_cases {c c' : RtpConnection} {op : Op} (h : c.exec op = .ok c')
    (hop : ∀ tcpConn sendtoFails ch pkt, op ≠ .task tcpConn sendtoFails ch pkt) :
    op.starts = false ∧ c.KeepsActive c' ∨
    op.starts = true ∧ c'.isClosed = c.isClosed ∧
      (∀ ch, c'.isActive ch = ((c.mediaChannelInfo ch).isSetup || c.isActive ch)) ∨
    op.starts = false ∧ c' = c.teardown := by
  cases op with
  | setClockRate ch clockRate =>
    cases h
    exact .inl ⟨rfl, keepsActive_modifyInfo c ch fun _ => ⟨rfl, rfl⟩⟩
  | setPayloadType ch payload =>
    cases h
    exact .inl ⟨rfl, keepsActive_modifyInfo c ch fun _ => ⟨rfl, rfl⟩⟩
  | setupRtpOverTcp tcpConn ch rtpChannel rtcpChannel =>
    cases h
    exact .inl ⟨rfl, keepsActive_setupRtpOverTcp c tcpConn ch rtpChannel rtcpChannel⟩
  | setupRtpOverUdp tcpConn attempts ch rtpPort rtcpPort =>
    cases h
    exact .inl ⟨rfl, keepsActive_setupRtpOverUdp c tcpConn attempts ch rtpPort rtcpPort⟩
  | play =>
    cases h
    exact .inr (.inl ⟨rfl, rfl, c.isActive_play⟩)
  | record =>
    cases h
    exact .inr (.inl ⟨rfl, rfl, c.isActive_record⟩)
  | teardown =>
    cases h
    exact .inr (.inr ⟨rfl, rfl⟩)
  | task tcpConn sendtoFails ch pkt => exact absurd rfl (hop tcpConn sendtoFails ch pkt)

/-- **When a task transmits nothing**: the channel does not play or record,
or no key frame went by, or the TCP connection it would use is gone. -/
theorem sendTask_eq_nil_iff {c c' : RtpConnection} {tcpConn : Option TcpPeer}
    {sendtoFails : Bool} {ch : MediaChannelId} {pkt : RtpPacket} {out : List Transmission}
    (h : c.sendTask tcpConn sendtoFails ch pkt = .ok (c', out)) :
    out = [] ↔ ¬ (c.isActive ch = true ∧ (c.setFrameType pkt.type).hasIDRFrame = true ∧
      (c.transportMode = .rtpOverTcp → tcpConn.isSome = true)) := by
  have hgate : (c.setFrameType pkt.type).isSending ch
      = (c.isActive ch && (c.setFrameType pkt.type).hasIDRFrame) := by
    unfold isSending isActive
    rw [setFrameType_mediaChannelInfo]
  have hmode : (c.prepare ch pkt).1.transportMode = c.transportMode :=
    (keepsTransport_prepare c ch pkt).transportMode
  unfold sendTask at h
  rcases prepare_cases c ch pkt with ⟨hopen, hprepare⟩ | ⟨hclosed, hprepare⟩
  · rw [hgate, Bool.and_eq_true] at hopen
    rw [hprepare] at h hmode
    dsimp only at h hmode
    have hudp : ∀ d : RtpConnection, ∀ p, d.sendRtpOverUdp sendtoFails ch p = .ok (c', out) →
        out ≠ [] := by
      intro d p h
      obtain ⟨bytes, -, h⟩ := Except.bind_eq_ok_iff.mp h
      cases h
      exact List.cons_ne_nil _ _
    cases hm : c.transportMode with
    | rtpOverTcp =>
      rw [hmode, hm] at h
      dsimp only at h
      cases tcpConn with
      | none =>
        cases h
        exact iff_of_true rfl fun ⟨_, _, halive⟩ => Bool.noConfusion (halive rfl)
      | some tcp =>
        obtain ⟨sent, hsent, h⟩ := Except.bind_eq_ok_iff.mp h
        obtain ⟨bytes, -, hbytes⟩ := Except.bind_eq_ok_iff.mp hsent
        cases hbytes
        cases h
        exact iff_of_false (List.cons_ne_nil _ _) (not_not_intro ⟨hopen.1, hopen.2, fun _ => rfl⟩)
    | rtpOverUdp =>
      rw [hmode, hm] at h
      exact iff_of_false (hudp _ _ h) (not_not_intro ⟨hopen.1, hopen.2, nofun⟩)
    | rtpOverMulticast =>
      rw [hmode, hm] at h
      exact iff_of_false (hudp _ _ h) (not_not_intro ⟨hopen.1, hopen.2, nofun⟩)
  · rw [hprepare] at h
    cases h
    refine iff_of_true rfl fun ⟨hactive, hkey, _⟩ => ?_
    rw [hgate, hactive, hkey] at hclosed
    cases hclosed

/-! ## Tasks in flight -/

/-- A connection with the calls of `sendRtpPacket` that have passed the test
and not queued their task yet, and the tasks in the queue. `restarted` are
the channels that a PLAY or a record started after the teardown, and `late`
is what was transmitted after it. -/
structure Queueing where
  conn : RtpConnection
  tested : List (MediaChannelId × RtpPacket) := []
  queue : List (MediaChannelId × RtpPacket) := []
  restarted : MediaChannelId → Bool := fun _ => false
  late : List Transmission := []

/-- What media threads, the loop and the commands do. -/
inductive QueueingEvent where
  | test (tcpConn : Option TcpPeer) (ch : MediaChannelId) (pkt : RtpPacket)
  | enqueue (ch : MediaChannelId) (pkt : RtpPacket)
  | task (tcpConn : Option TcpPeer) (sendtoFails : Bool) (ch : MediaChannelId) (pkt : RtpPacket)
  | command (op : Op)

/-- **One step.** A call under way may be the next to queue its task,
whichever was tested first. The media threads test and queue without a lock, so that
a task may be queued after the teardown although its call was tested before it. -/
inductive QueueingStep : Queueing → QueueingEvent → Queueing → Prop where
  | test {s : Queueing} {tcpConn : Option TcpPeer} {ch : MediaChannelId} {pkt : RtpPacket}
      (hopen : s.conn.sendRtpPacket tcpConn = true) :
      QueueingStep s (.test tcpConn ch pkt) { s with tested := (ch, pkt) :: s.tested }
  | enqueue {s : Queueing} {ch : MediaChannelId} {pkt : RtpPacket}
      {before after : List (MediaChannelId × RtpPacket)}
      (htested : s.tested = before ++ (ch, pkt) :: after) :
      QueueingStep s (.enqueue ch pkt)
        { s with tested := before ++ after, queue := s.queue ++ [(ch, pkt)] }
  | task {s : Queueing} {tcpConn : Option TcpPeer} {sendtoFails : Bool} {ch : MediaChannelId}
      {pkt : RtpPacket} {queue : List (MediaChannelId × RtpPacket)} {c : RtpConnection}
      {out : List Transmission} (hqueue : s.queue = (ch, pkt) :: queue)
      (htask : s.conn.sendTask tcpConn sendtoFails ch pkt = .ok (c, out)) :
      QueueingStep s (.task tcpConn sendtoFails ch pkt) { s with
        conn := c
        queue := queue
        late := if s.conn.isClosed then s.late ++ out else s.late }
  | command {s : Queueing} {op : Op} {c : RtpConnection}
      (hop : ∀ tcpConn sendtoFails ch pkt, op ≠ .task tcpConn sendtoFails ch pkt)
      (hexec : s.conn.exec op = .ok c) :
      QueueingStep s (.command op) { s with
        conn := c
        restarted := fun ch => s.restarted ch ||
          (s.conn.isClosed && op.starts && (s.conn.mediaChannelInfo ch).isSetup) }

namespace Queueing

/-- The runs of a connection from its constructor. -/
def system : System Queueing QueueingEvent where
  init s := ∃ garbage rd, s = { conn := RtpConnection.new garbage rd }
  step := QueueingStep

/-- **A task that comes to nothing after a teardown**: no PLAY and no record
has started its channel since, or no key frame went by, or the TCP connection
it would use is gone. The teardown stops the channels and sets `_isClosed`, at
which neither `play` nor `record` nor a task in the queue looks: a channel that
is started again is sent to as before. -/
def Quiet (s : Queueing) : QueueingEvent → Prop
  | .task tcpConn _ ch pkt => s.conn.isClosed = true →
    ¬ (s.restarted ch = true ∧ (s.conn.setFrameType pkt.type).hasIDRFrame = true ∧
      (s.conn.transportMode = .rtpOverTcp → tcpConn.isSome = true))
  | _ => True

/-- **The invariant**: after a teardown, the channels that play or record are
those that were started since. Before it, none is noted as started again. -/
structure Inv (s : Queueing) : Prop where
  opened : s.conn.isClosed = false → ∀ ch, s.restarted ch = false
  closed : s.conn.isClosed = true → ∀ ch, s.conn.isActive ch = s.restarted ch

theorem inv_init {s : Queueing} (h : system.init s) : s.Inv := by
  obtain ⟨garbage, rd, rfl⟩ := h
  exact ⟨fun _ _ => rfl, fun hclosed => by cases hclosed⟩

/-- A connection whose flags stay, or that is torn down. -/
theorem Inv.of_conn {s : Queueing} (hs : s.Inv) {c d : RtpConnection} (hd : s.conn.KeepsActive d)
    (hc : c = d ∨ c = d.teardown) {queue : List (MediaChannelId × RtpPacket)}
    {late : List Transmission} : Inv { s with conn := c, queue := queue, late := late } := by
  have hkeep : ∀ ch, d.isActive ch = s.conn.isActive ch := hd.isActive
  rcases hc with rfl | rfl
  · refine ⟨fun hopen => hs.opened (hd.isClosed.symm.trans hopen), fun hclosed ch => ?_⟩
    exact (hkeep ch).trans (hs.closed (hd.isClosed.symm.trans hclosed) ch)
  · rcases d.teardown_cases with ⟨hclosed, hsame⟩ | ⟨hopen, hclosed, hinactive⟩
    · rw [hsame]
      have hconn := hd.isClosed.symm.trans hclosed
      exact ⟨fun h => absurd (hclosed.symm.trans h) (by decide),
        fun _ ch => (hkeep ch).trans (hs.closed hconn ch)⟩
    · refine ⟨fun h => absurd (hclosed.symm.trans h) (by decide), fun _ ch => ?_⟩
      rw [hinactive]
      exact (hs.opened (hd.isClosed.symm.trans hopen) ch).symm

theorem Inv.command {s : Queueing} (hs : s.Inv) {op : Op} {c : RtpConnection}
    (hop : ∀ tcpConn sendtoFails ch pkt, op ≠ .task tcpConn sendtoFails ch pkt)
    (hexec : s.conn.exec op = .ok c) : Inv { s with
      conn := c
      restarted := fun ch => s.restarted ch ||
        (s.conn.isClosed && op.starts && (s.conn.mediaChannelInfo ch).isSetup) } := by
  have hnone : op.starts = false → (fun ch => s.restarted ch ||
      (s.conn.isClosed && op.starts && (s.conn.mediaChannelInfo ch).isSetup)) = s.restarted := by
    intro hstarts
    funext ch
    rw [hstarts, Bool.and_false, Bool.false_and, Bool.or_false]
  rcases exec_cases hexec hop with ⟨hstarts, hkeeps⟩ | ⟨hstarts, hclosed, hactive⟩ | ⟨hstarts, rfl⟩
  · rw [hnone hstarts]
    exact hs.of_conn hkeeps (.inl rfl)
  · refine ⟨fun hopen ch => ?_, fun hshut ch => ?_⟩
    · have hopen := hclosed.symm.trans hopen
      dsimp only
      rw [hopen, hs.opened hopen]
      rfl
    · have hshut := hclosed.symm.trans hshut
      dsimp only
      rw [hactive, hs.closed hshut, hshut, hstarts, Bool.true_and, Bool.true_and, Bool.or_comm]
  · rw [hnone hstarts]
    exact hs.of_conn (.refl _) (.inr rfl)

theorem Inv.step {s s' : Queueing} {e : QueueingEvent} (hs : s.Inv) (h : QueueingStep s e s') :
    s'.Inv := by
  cases h with
  | test hopen => exact ⟨hs.opened, hs.closed⟩
  | enqueue htested => exact ⟨hs.opened, hs.closed⟩
  | task hqueue htask => exact hs.of_conn (keepsActive_prepare _ _ _) (sendTask_conn htask)
  | command hop hexec => exact hs.command hop hexec

theorem inv_of_run {es : List QueueingEvent} {s : Queueing} (h : system.Run es s) : s.Inv :=
  h.invariant (fun _ => inv_init) fun _ _ _ hs hstep => hs.step hstep

/-- **A step transmits something after the teardown** if and only if it is
not quiet. -/
theorem late_step {s s' : Queueing} {e : QueueingEvent} (hs : s.Inv) (h : QueueingStep s e s') :
    s'.late = [] ↔ s.late = [] ∧ s.Quiet e := by
  cases h with
  | test hopen => exact (and_iff_left trivial).symm
  | enqueue htested => exact (and_iff_left trivial).symm
  | @task tcpConn sendtoFails ch pkt queue c out hqueue htask =>
    unfold Quiet
    dsimp only
    cases hclosed : s.conn.isClosed with
    | false => exact (and_iff_left nofun).symm
    | true =>
      rw [if_pos rfl, List.append_eq_nil_iff, sendTask_eq_nil_iff htask, hs.closed hclosed]
      exact and_congr_right fun _ => (imp_iff_right rfl).symm
  | command hop hexec => exact (and_iff_left trivial).symm

/-- **Nothing is transmitted after a teardown** in exactly the runs whose
steps are all quiet. A step that is not quiet transmits at once, which is why the
condition is exact; and what was transmitted stays on record, which is why it is
about the whole run. -/
theorem late_eq_nil_iff {es : List QueueingEvent} {s : Queueing} (hrun : system.Run es s) :
    s.late = [] ↔ (system.restrict Quiet).Run es s := by
  refine hrun.restrict_iff ?_ fun _ _ _ _ hbefore hstep => late_step (inv_of_run hbefore) hstep
  rintro s ⟨garbage, rd, rfl⟩
  rfl

/-! ## A client that is torn down -/

/-- A packet of a key frame. -/
def keyFrame : RtpPacket :=
  { data := .filled 1600 7, size := 20, timestamp := 90000, type := videoFrameI, last := 1 }

/-- What happened to a client over TCP that played and was torn down with a
task in the queue. -/
def tornDownEvents : List QueueingEvent :=
  [.command (.setupRtpOverTcp (some ⟨7, none⟩) .channel0 0 1), .command .play,
    .test (some ⟨7, none⟩) .channel0 keyFrame, .enqueue .channel0 keyFrame, .command .teardown]

/-- The client. -/
def tornDown : Queueing where
  conn := ((RtpConnection.new zeroed fun _ => 0).setupRtpOverTcp (some ⟨7, none⟩) .channel0 0
    1).2.play.teardown
  queue := [(.channel0, keyFrame)]

theorem run_tornDown : system.Run tornDownEvents tornDown := by
  have hnew : system.Run [] { conn := RtpConnection.new zeroed fun _ => 0 } := .nil ⟨_, _, rfl⟩
  have hsetup := hnew.snoc (show QueueingStep _ (.command
    (.setupRtpOverTcp (some ⟨7, none⟩) .channel0 0 1)) _ from .command nofun rfl)
  have hplay := hsetup.snoc (show QueueingStep _ (.command .play) _ from .command nofun rfl)
  have htest := hplay.snoc (show QueueingStep _ (.test (some ⟨7, none⟩) .channel0 keyFrame) _ from
    .test rfl)
  have hqueued := htest.snoc (show QueueingStep _ (.enqueue .channel0 keyFrame) _ from
    .enqueue (show _ = [] ++ (MediaChannelId.channel0, keyFrame) :: [] from rfl))
  exact hqueued.snoc (show QueueingStep _ (.command .teardown) tornDown from .command nofun rfl)

/-- `late_eq_nil_iff` where the task finds its channel stopped. -/
theorem late_eq_nil_iff_tornDown : ∃ s, s.conn.isClosed = true ∧ s.queue = [] ∧ s.late = [] ∧
    (system.restrict Quiet).Run (tornDownEvents ++ [.task (some ⟨7, none⟩) false .channel0 keyFrame])
      s := by
  have htask := run_tornDown.snoc (show QueueingStep _
    (.task (some ⟨7, none⟩) false .channel0 keyFrame) _ from .task rfl rfl)
  exact ⟨_, rfl, rfl, rfl, (late_eq_nil_iff htask).mp rfl⟩

/-- **A PLAY after the TEARDOWN**: the task that was in the queue transmits. -/
theorem transmits_after_teardown : ¬ ∀ es s, system.Run es s → s.late = [] := by
  intro h
  have hplay := run_tornDown.snoc (show QueueingStep _ (.command .play) _ from .command nofun rfl)
  have htask := hplay.snoc (show QueueingStep _
    (.task (some ⟨7, none⟩) false .channel0 keyFrame) _ from .task rfl rfl)
  exact List.cons_ne_nil _ _ (h _ _ htask)

end Queueing

end RtpConnection
