import RtspServer.AfterTeardown

/-!
# The first packet after PLAY

A client can decode nothing before a key frame, and `_hasIDRFrame` is there
to hold packets back until one goes by. The flag is one for the connection and
is set by every task that carries such a packet, sent or not; it is never
cleared. A channel that starts to play later, or after the other one, starts
with whatever comes first.

`Viewing` follows a connection and keeps the frame types of the packets that
were the first on their channel since it started. They are key frames in
exactly the runs in which no other packet comes first after a key frame was
noted (`first_of_run`).
-/

namespace RtpConnection

/-- The frame types that `setFrameType` waits for. -/
def isKeyFrame (frameType : UInt8) : Bool := frameType == 0 || frameType == videoFrameI

/-- The flag is set by a key frame, and stays. -/
theorem hasIDRFrame_setFrameType (c : RtpConnection) (frameType : UInt8) :
    (c.setFrameType frameType).hasIDRFrame = (c.hasIDRFrame || isKeyFrame frameType) := by
  have hkey : (frameType == 0 || frameType == videoFrameI) = isKeyFrame frameType := rfl
  unfold setFrameType
  rw [hkey]
  cases c.hasIDRFrame with
  | true => rfl
  | false => cases isKeyFrame frameType <;> rfl

theorem hasIDRFrame_teardown (c : RtpConnection) : c.teardown.hasIDRFrame = c.hasIDRFrame := by
  unfold teardown
  split <;> rfl

/-- A task notes the frame type of its packet, whether it sends it or not. -/
theorem hasIDRFrame_sendTask {c c' : RtpConnection} {tcpConn : Option TcpPeer}
    {sendtoFails : Bool} {ch : MediaChannelId} {pkt : RtpPacket} {out : List Transmission}
    (h : c.sendTask tcpConn sendtoFails ch pkt = .ok (c', out)) :
    c'.hasIDRFrame = (c.hasIDRFrame || isKeyFrame pkt.type) := by
  have hprepare : (c.prepare ch pkt).1.hasIDRFrame = (c.setFrameType pkt.type).hasIDRFrame := by
    rcases prepare_cases c ch pkt with ⟨-, h⟩ | ⟨-, h⟩
    · rw [h]
      rfl
    · rw [h]
  rw [← hasIDRFrame_setFrameType, ← hprepare]
  rcases sendTask_conn h with rfl | rfl
  · rfl
  · exact hasIDRFrame_teardown _

/-- No other operation touches the flag. -/
theorem hasIDRFrame_exec {c c' : RtpConnection} {op : Op} (h : c.exec op = .ok c')
    (hop : ∀ tcpConn sendtoFails ch pkt, op ≠ .task tcpConn sendtoFails ch pkt) :
    c'.hasIDRFrame = c.hasIDRFrame := by
  cases op with
  | setClockRate ch clockRate => cases h; rfl
  | setPayloadType ch payload => cases h; rfl
  | setupRtpOverTcp tcpConn ch rtpChannel rtcpChannel =>
    cases h
    cases tcpConn <;> rfl
  | setupRtpOverUdp tcpConn attempts ch rtpPort rtcpPort =>
    cases h
    cases tcpConn with
    | none => rfl
    | some tcp =>
      exact (setupRtpOverUdp_spec c tcp attempts ch rtpPort rtcpPort).2.2.2.2.hasIDRFrame
  | play => cases h; rfl
  | record => cases h; rfl
  | teardown =>
    cases h
    exact c.hasIDRFrame_teardown
  | task tcpConn sendtoFails ch pkt => exact absurd rfl (hop tcpConn sendtoFails ch pkt)

/-! ## What a viewer gets first -/

/-- **A connection with what its client got to see.** `keySeen` says whether a
task had a key frame so far, on any channel; a channel is `fresh` when it has
started and nothing was transmitted on it since; and `first` are the frame
types of the packets that were transmitted on a fresh channel. -/
structure Viewing where
  conn : RtpConnection
  keySeen : Bool := false
  fresh : MediaChannelId → Bool := fun _ => false
  first : List UInt8 := []

namespace Viewing

/-- A task whose result is known. -/
def sent (s : Viewing) (conn : RtpConnection) (ch : MediaChannelId) (pkt : RtpPacket)
    (out : List Transmission) : Viewing :=
  let keySeen := s.keySeen || isKeyFrame pkt.type
  if out = [] then { s with conn := conn, keySeen := keySeen }
  else
    { conn := conn
      keySeen := keySeen
      fresh := Function.update s.fresh ch false
      first := if s.fresh ch then s.first ++ [pkt.type] else s.first }

/-- One operation of a run. -/
def step (s : Viewing) : Op → Except Fault Viewing
  | .task tcpConn sendtoFails ch pkt => do
    let (conn, out) ← s.conn.sendTask tcpConn sendtoFails ch pkt
    return s.sent conn ch pkt out
  | op => do
    let conn ← s.conn.exec op
    return { s with
      conn := conn
      fresh := fun ch => s.fresh ch || (conn.isActive ch && !s.conn.isActive ch) }

/-- The runs of one connection from its constructor. -/
def system (garbage : RtpConnection) (rd : ℕ → UInt32) : System Viewing Op :=
  System.ofStep (· = { conn := RtpConnection.new garbage rd }) step

/-- **Every channel starts with a key frame.** `first` has, for each start of a
channel, the type of the first packet that was transmitted on it since; a
channel that has transmitted nothing yet has none there. -/
def StartsDecodable (s : Viewing) : Prop := ∀ frameType ∈ s.first, isKeyFrame frameType = true

/-- **No other packet comes first after a key frame was noted**: when the task
of one runs on a channel that plays, or records, with nothing transmitted since
it started (and with the TCP connection there, if it is to be sent on that), no
task before had a key frame, on any channel. The source has one flag for the
whole connection, which is set once and never cleared; so a channel that starts
later, or starts again, is let through at whatever packet comes. -/
def Gated (s : Viewing) : Op → Prop
  | .task tcpConn _ ch pkt =>
    s.fresh ch = true → s.conn.isActive ch = true →
      (s.conn.transportMode = .rtpOverTcp → tcpConn.isSome = true) →
        isKeyFrame pkt.type = false → s.keySeen = false
  | _ => True

/-- **The invariant**: the flag of the connection is whether a key frame went
by. The tasks note the type of their packet before they look whether the channel
plays, so that also a key frame which is not sent is counted. -/
def Inv (s : Viewing) : Prop := s.conn.hasIDRFrame = s.keySeen

/-- An operation that is no task only starts channels. -/
theorem step_eq_ok_iff {s s' : Viewing} {op : Op}
    (hop : ∀ tcpConn sendtoFails ch pkt, op ≠ .task tcpConn sendtoFails ch pkt) :
    s.step op = .ok s' ↔ ∃ conn, s.conn.exec op = .ok conn ∧ s' = { s with
      conn := conn
      fresh := fun ch => s.fresh ch || (conn.isActive ch && !s.conn.isActive ch) } := by
  have hstep : s.step op = (do
      let conn ← s.conn.exec op
      return { s with
        conn := conn
        fresh := fun ch => s.fresh ch || (conn.isActive ch && !s.conn.isActive ch) }) := by
    cases op with
    | task tcpConn sendtoFails ch pkt => exact absurd rfl (hop tcpConn sendtoFails ch pkt)
    | _ => rfl
  rw [hstep, Except.bind_eq_ok_iff]
  constructor
  · rintro ⟨conn, hconn, h⟩
    cases h
    exact ⟨conn, hconn, rfl⟩
  · rintro ⟨conn, hconn, rfl⟩
    exact ⟨conn, hconn, rfl⟩

/-- What can be a step: a task with its result, or another operation. -/
theorem step_cases {s s' : Viewing} {op : Op} (h : s.step op = .ok s') :
    (∃ tcpConn sendtoFails ch pkt conn out, op = .task tcpConn sendtoFails ch pkt ∧
      s.conn.sendTask tcpConn sendtoFails ch pkt = .ok (conn, out) ∧
        s' = s.sent conn ch pkt out) ∨
    (∀ tcpConn sendtoFails ch pkt, op ≠ .task tcpConn sendtoFails ch pkt) ∧
      s.conn.exec op = .ok s'.conn ∧ s'.keySeen = s.keySeen ∧ s'.first = s.first := by
  by_cases hop : ∀ tcpConn sendtoFails ch pkt, op ≠ .task tcpConn sendtoFails ch pkt
  · obtain ⟨conn, hconn, rfl⟩ := (step_eq_ok_iff hop).mp h
    exact .inr ⟨hop, hconn, rfl, rfl⟩
  · push Not at hop
    obtain ⟨tcpConn, sendtoFails, ch, pkt, rfl⟩ := hop
    obtain ⟨⟨conn, out⟩, htask, h⟩ := Except.bind_eq_ok_iff.mp h
    cases h
    exact .inl ⟨tcpConn, sendtoFails, ch, pkt, conn, out, rfl, htask, rfl⟩

theorem Inv.step {s s' : Viewing} {op : Op} (hs : s.Inv) (h : s.step op = .ok s') : s'.Inv := by
  unfold Inv at hs ⊢
  rcases step_cases h with ⟨tcpConn, sendtoFails, ch, pkt, conn, out, rfl, htask, rfl⟩ |
    ⟨hop, hexec, hkey, -⟩
  · have hflag := hasIDRFrame_sendTask htask
    rw [hs] at hflag
    unfold sent
    split <;> exact hflag
  · rw [hasIDRFrame_exec hexec hop, hkey]
    exact hs

theorem inv_of_run {garbage : RtpConnection} {rd : ℕ → UInt32} {ops : List Op} {s : Viewing}
    (hrun : (system garbage rd).Run ops s) : s.Inv := by
  refine hrun.invariant ?_ fun _ _ _ hs hstep => hs.step hstep
  rintro s rfl
  rfl

/-- **A step keeps the first packets decodable exactly when** it is gated. -/
theorem startsDecodable_step {s s' : Viewing} {op : Op} (hs : s.Inv) (h : s.step op = .ok s') :
    s'.StartsDecodable ↔ s.StartsDecodable ∧ s.Gated op := by
  rcases step_cases h with ⟨tcpConn, sendtoFails, ch, pkt, conn, out, rfl, htask, rfl⟩ |
    ⟨hop, -, -, hfirst⟩
  · have hnothing := sendTask_eq_nil_iff htask
    rw [hasIDRFrame_setFrameType, hs] at hnothing
    unfold Gated sent StartsDecodable
    by_cases hout : out = []
    · -- nothing is sent: the channel does not play, or no key frame went by
      rw [if_pos hout]
      refine (and_iff_left fun _ hactive htcp hkey => ?_).symm
      have hnone := hnothing.mp hout
      rw [hkey, Bool.or_false] at hnone
      cases hseen : s.keySeen with
      | false => rfl
      | true => exact absurd ⟨hactive, hseen, htcp⟩ hnone
    · rw [if_neg hout]
      obtain ⟨hactive, hkeys, htcp⟩ := not_not.mp (mt hnothing.mpr hout)
      cases hfresh : s.fresh ch with
      | false =>
        rw [if_neg Bool.false_ne_true]
        exact (and_iff_left fun h => by rw [hfresh] at h; cases h).symm
      | true =>
        rw [if_pos rfl, List.forall_mem_append, List.forall_mem_singleton]
        refine and_congr_right fun _ => ⟨fun hkey _ _ _ hother => ?_, fun hgated => ?_⟩
        · rw [hkey] at hother
          cases hother
        · cases hkey : isKeyFrame pkt.type with
          | true => rfl
          | false =>
            rw [hkey, hgated hfresh hactive htcp hkey] at hkeys
            cases hkeys
  · unfold StartsDecodable
    rw [hfirst]
    refine (and_iff_left ?_).symm
    cases op with
    | task tcpConn sendtoFails ch pkt => exact absurd rfl (hop tcpConn sendtoFails ch pkt)
    | _ => trivial

/-- **A client starts with key frames** on every channel it plays in exactly
the runs in which no other packet comes first after a key frame was noted. Before
one was noted nothing is transmitted, so that the first part of a run does no
harm whatever comes in it. -/
theorem first_of_run {garbage : RtpConnection} {rd : ℕ → UInt32} {ops : List Op} {s : Viewing}
    (hrun : (system garbage rd).Run ops s) :
    s.StartsDecodable ↔ ((system garbage rd).restrict Gated).Run ops s := by
  refine hrun.restrict_iff ?_ fun _ _ _ _ hbefore hstep =>
    startsDecodable_step (inv_of_run hbefore) hstep
  rintro s rfl
  exact List.forall_mem_nil _

/-- A packet of a frame that depends on others. -/
def otherFrame : RtpPacket :=
  { data := .filled 1600 7, size := 20, timestamp := 93600, type := 2, last := 1 }

/-- A client over TCP that plays gets a key frame, and then another one. -/
def keyFrameFirst : List Op :=
  [.setupRtpOverTcp (some ⟨7, none⟩) .channel0 0 1, .play,
    .task (some ⟨7, none⟩) false .channel0 otherFrame,
    .task (some ⟨7, none⟩) false .channel0 Queueing.keyFrame,
    .task (some ⟨7, none⟩) false .channel0 otherFrame]

/-- The client starts with the key frame, since the packet before it was held
back. -/
theorem first_of_run_keyFrameFirst : ∃ s, s.first = [videoFrameI] ∧
    ((system zeroed fun _ => 0).restrict Gated).Run keyFrameFirst s := by
  have hrun : (system zeroed fun _ => 0).Run keyFrameFirst _ := System.run_of_foldlM rfl
  exact ⟨_, rfl, (first_of_run hrun).mp (List.forall_mem_singleton.mpr rfl)⟩

/-- A client that is set up while a key frame goes by, and plays after it. -/
def playsLate : List Op :=
  [.setupRtpOverTcp (some ⟨7, none⟩) .channel0 0 1,
    .task (some ⟨7, none⟩) false .channel0 Queueing.keyFrame, .play,
    .task (some ⟨7, none⟩) false .channel0 otherFrame]

/-- **A PLAY after the key frame**: the client starts with the frame that
follows. -/
theorem playsLate_not_startsDecodable : ¬ ∀ (garbage : RtpConnection) (rd : ℕ → UInt32)
    (ops : List Op) (s : Viewing), (system garbage rd).Run ops s → s.StartsDecodable := by
  intro h
  have hrun : (system zeroed fun _ => 0).Run playsLate _ := System.run_of_foldlM rfl
  have hfirst := h _ _ _ _ hrun 2 List.mem_cons_self
  cases hfirst

end Viewing

end RtpConnection
