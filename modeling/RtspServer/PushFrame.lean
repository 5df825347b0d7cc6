import RtspServer.H264Source
import RtspServer.Rtsp

/-!
# `pushFrame`: a frame for the clients of a session

The program pushes a frame into a session by its id. The session gives it to
the source of the channel, which cuts it into packets and calls the session's
send callback for each. The callback locks the client map; what it sends is
not part of the session.

Between two packets connections may come and go: `live k` and `hasId k` say
what the callback finds when it is called for the `k`-th packet.
-/

namespace H264Source

variable {σ : Type}

/-- What the callback keeps, sending a packet keeps. -/
theorem send_keeps {P : σ → Prop} {cb : Option (SendFrameCallback σ)} {ch : MediaChannelId}
    (hcb : ∀ f, cb = some f → ∀ pkt s, P s → P (f ch pkt s).2) (pkt : RtpPacket) {s : σ}
    (hs : P s) : P (send cb ch pkt s).2 := by
  cases cb with
  | none => exact hs
  | some f => exact hcb f rfl pkt s hs

/-- What the callback keeps, the fragmentation loop keeps. -/
theorem fragments_keeps {P : σ → Prop} {cb : Option (SendFrameCallback σ)} {ch : MediaChannelId}
    (hcb : ∀ f, cb = some f → ∀ pkt s, P s → P (f ch pkt s).2) {heap : ℕ → Block 1600}
    {frame : AVFrame} {fuA0 : UInt8} {k : ℕ} {fuA1 : UInt8} {frameBuf : ℕ} {frameSize : UInt32}
    {s : σ} {res : Bool × σ} (hs : P s)
    (h : fragments cb ch heap frame fuA0 k fuA1 frameBuf frameSize s = .ok res) : P res.2 := by
  induction k, fuA1, frameBuf, frameSize, s using fragments.induct with
  | case1 k fuA1 frameBuf frameSize s hmore ih =>
    rw [fragments, if_pos hmore] at h
    obtain ⟨pkt, -, h⟩ := Except.bind_eq_ok_iff.mp h
    have hsend := send_keeps hcb pkt hs
    rcases hres : send cb ch pkt s with ⟨_ | _, s'⟩
    · rw [hres] at h hsend
      cases h
      exact hsend
    · rw [hres] at h hsend
      exact ih s' hsend h
  | case2 k fuA1 frameBuf frameSize s hlast =>
    rw [fragments, if_neg hlast] at h
    obtain ⟨pkt, -, h⟩ := Except.bind_eq_ok_iff.mp h
    cases h
    exact send_keeps hcb pkt hs

/-- **What the callback keeps, the packetizer keeps.** -/
theorem handleFrame_keeps {P : σ → Prop} {cb : Option (SendFrameCallback σ)} {now : UInt32}
    {heap : ℕ → Block 1600} {ch : MediaChannelId} {frame : AVFrame}
    (hcb : ∀ f, cb = some f → ∀ pkt s, P s → P (f ch pkt s).2) {s : σ} {res : Bool × σ}
    (hs : P s) (h : handleFrame now heap cb ch frame s = .ok res) : P res.2 := by
  unfold handleFrame at h
  dsimp only at h
  split at h
  · obtain ⟨pkt, -, h⟩ := Except.bind_eq_ok_iff.mp h
    cases h
    exact send_keeps hcb pkt hs
  · split at h
    · cases h
    · exact fragments_keeps hcb hs h

end H264Source

namespace MediaSession

variable {ρ : Type}

/-- `handleFrame`, with a callback on a state: whether there is a source. -/
def handleFrame {σ : Type} (mediaSources : MediaChannelId → Option MediaSource) (now : UInt32)
    (heap : ℕ → Block 1600) (cb : SendFrameCallback σ) (channelId : MediaChannelId)
    (frame : AVFrame) (s : σ) : Except Fault (Bool × σ) :=
  match mediaSources channelId with
  | none => .ok (false, s)
  | some _ => do
    let (_, s) ← H264Source.handleFrame now heap (some cb) channelId frame s
    return (true, s)

/-- What the send callback does to the session: it locks the clients. The
state counts the packets. -/
def lockForPacket (live hasId : ℕ → ρ → Bool) : SendFrameCallback (ℕ × MediaSession ρ) :=
  fun _ _ (k, s) => (true, k + 1, (s.lockClients (live k) (hasId k)).2)

end MediaSession

namespace Rtsp

variable {ρ : Type}

/-- `pushFrame`: nothing is done for a session that is not there or has no
clients. -/
def pushFrame (t : Rtsp ρ) (now : UInt32) (heap : ℕ → Block 1600) (live hasId : ℕ → ρ → Bool)
    (sessionId : MediaSessionId) (channelId : MediaChannelId) (frame : AVFrame) :
    Except Fault (Bool × Rtsp ρ) :=
  match t.lookMediaSession sessionId with
  | none => .ok (false, t)
  | some session =>
    if session.getNumClient ≠ 0 then do
      let (ret, _, session) ← MediaSession.handleFrame session.mediaSources now heap
        (MediaSession.lockForPacket live hasId) channelId frame (0, session)
      return (ret, t.setMediaSession sessionId session)
    else .ok (false, t)

/-- **Pushing a frame leaves the tables alone**, up to the clients of the
session. -/
theorem pushFrame_spec {t t' : Rtsp ρ} {now : UInt32} {heap : ℕ → Block 1600}
    {live hasId : ℕ → ρ → Bool} {sessionId : MediaSessionId} {channelId : MediaChannelId}
    {frame : AVFrame} {ret : Bool}
    (h : t.pushFrame now heap live hasId sessionId channelId frame = .ok (ret, t')) :
    t' = t ∨ ∃ session clients, t.lookMediaSession sessionId = some session ∧
      t' = t.setMediaSession sessionId { session with clients := clients } := by
  unfold pushFrame at h
  cases hlook : t.lookMediaSession sessionId with
  | none =>
    simp only [hlook] at h
    cases h
    exact .inl rfl
  | some session =>
    simp only [hlook] at h
    split at h
    · obtain ⟨⟨ret', k, session'⟩, hframe, h⟩ := Except.bind_eq_ok_iff.mp h
      cases h
      -- the callback changes the clients of the session, and nothing else of it
      have hclients : ∃ clients, session' = { session with clients := clients } := by
        unfold MediaSession.handleFrame at hframe
        cases hsource : session.mediaSources channelId with
        | none =>
          simp only [hsource] at hframe
          cases hframe
          exact ⟨session.clients, rfl⟩
        | some source =>
          simp only [hsource] at hframe
          obtain ⟨⟨b, x⟩, hx, hframe⟩ := Except.bind_eq_ok_iff.mp hframe
          cases hframe
          refine H264Source.handleFrame_keeps
            (P := fun x : ℕ × MediaSession ρ =>
              ∃ clients, x.2 = { session with clients := clients })
            ?_ ⟨session.clients, rfl⟩ hx
          rintro f ⟨rfl⟩ pkt ⟨k, s⟩ ⟨clients, rfl⟩
          exact ⟨_, rfl⟩
      obtain ⟨clients, rfl⟩ := hclients
      exact .inr ⟨session, clients, rfl, rfl⟩
    · cases h
      exact .inl rfl

end Rtsp
