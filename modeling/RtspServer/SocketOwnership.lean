import RtspServer.Sockets
import RtspServer.Transition

/-!
# Who owns a descriptor

`_rtpfd` and `_rtcpfd` hold numbers of three kinds: of sockets that a UDP
set-up opened, of the socket of the TCP connection, and of sockets that a
failed set-up has closed again. The destructor closes whatever positive
number stands there.

The state has the table of the descriptors in use in the process, which other
code changes too. The set-ups are `Orderly` when a channel is set up over UDP
with success at most once and as the last thing done to it, and the channels
that are not set up so hold no number; then every socket is closed exactly
once, and nothing else is (`owns_of_run`).
-/

open ResourceTable
open SysCall (uses uses_append)

namespace RtpConnection

/-- The descriptor fields, in the order the destructor goes through them. -/
def descriptors (c : RtpConnection) : List ℤ :=
  [MediaChannelId.channel0, .channel1].flatMap fun chn => [c.rtpfd chn, c.rtcpfd chn]

/-- The destructor. -/
def destroy (c : RtpConnection) : List SysCall :=
  (c.descriptors.filter (0 < ·)).map .close

/-- An `RtpConnection` and the descriptors of the process. `tcp` is the
descriptor of the `TcpConnection` while that exists; `calls` are the system
calls made so far, and `opened` records the channels on which a UDP set-up
succeeded. -/
structure SocketState where
  conn : RtpConnection
  tcp : Option ℤ
  inUse : Finset ℤ
  calls : List SysCall := []
  opened : MediaChannelId → Bool := fun _ => false
  destroyed : Bool := false

/-- What happens to the descriptors. -/
inductive SocketEvent where
  | setupRtpOverTcp (channelId : MediaChannelId) (rtpChannel rtcpChannel : UInt16)
  | setupRtpOverUdp (peerName : Option SockAddr) (attempts : Fin 10 → UdpAttempt)
      (channelId : MediaChannelId) (rtpPort rtcpPort : UInt16)
  | destroy
  | tcpClosed
  | openElsewhere (fd : ℤ)
  | closeElsewhere (fd : ℤ)

namespace SocketState

/-- The sockets obtained and not yet closed. -/
def owned (s : SocketState) : Finset ℤ := after ∅ (uses s.calls)

/-- `_tcpConn.lock()`. -/
def peer (s : SocketState) (peerName : Option SockAddr) : Option TcpPeer :=
  s.tcp.map fun fd => ⟨fd, peerName⟩

/-- The state after calls. -/
def make (s : SocketState) (calls : List SysCall) : SocketState :=
  { s with inUse := after s.inUse (uses calls), calls := s.calls ++ calls }

end SocketState

open SocketState in
/-- **One step.** `socket` returns a number that is not in use. The connection is
set up over TCP or UDP or destroyed; its TCP connection is closed; and the rest of the
process opens numbers that are free, or closes such as are not of this connection. -/
inductive SocketStep : SocketState → SocketEvent → SocketState → Prop where
  | setupRtpOverTcp {s : SocketState} {ch : MediaChannelId} {a b : UInt16}
      (halive : s.destroyed = false) :
      SocketStep s (.setupRtpOverTcp ch a b)
        { s with conn := (s.conn.setupRtpOverTcp (s.peer none) ch a b).2 }
  | setupRtpOverUdp {s : SocketState} {peerName : Option SockAddr}
      {attempts : Fin 10 → UdpAttempt} {ch : MediaChannelId} {a b : UInt16} {ok : Bool}
      {c : RtpConnection} {calls : List SysCall} (halive : s.destroyed = false)
      (hres : s.conn.setupRtpOverUdp (s.peer peerName) attempts ch a b = (ok, c, calls))
      (hfresh : Fresh s.inUse (uses calls)) (hnonneg : ∀ fd, .socket fd ∈ calls → 0 ≤ fd) :
      SocketStep s (.setupRtpOverUdp peerName attempts ch a b)
        { s.make calls with conn := c, opened := Function.update s.opened ch (ok || s.opened ch) }
  | destroy {s : SocketState} (halive : s.destroyed = false) :
      SocketStep s .destroy { s.make s.conn.destroy with destroyed := true }
  | tcpClosed {s : SocketState} {fd : ℤ} (htcp : s.tcp = some fd) :
      SocketStep s .tcpClosed { s with tcp := none, inUse := s.inUse.erase fd }
  | openElsewhere {s : SocketState} {fd : ℤ} (hfree : fd ∉ s.inUse) :
      SocketStep s (.openElsewhere fd) { s with inUse := insert fd s.inUse }
  | closeElsewhere {s : SocketState} {fd : ℤ} (hother : fd ∉ s.owned) (htcp : s.tcp ≠ some fd) :
      SocketStep s (.closeElsewhere fd) { s with inUse := s.inUse.erase fd }

namespace SocketState

/-- An `RtpConnection` from its construction on, with its TCP connection. -/
def system : System SocketState SocketEvent where
  init s := ∃ garbage rd fd inUse, fd ∈ inUse ∧
    s = { conn := RtpConnection.new garbage rd, tcp := some fd, inUse := inUse }
  step := SocketStep

/-- **What the `RtpConnection` closes is its own**: at each `close` it owns
the number, the socket of the TCP connection is never one it owns, and in the
end every socket was closed as often as one was obtained under its number. The
calls are those of the whole life, so that a number which the kernel gives out
again is counted again. -/
structure Owns (s : SocketState) : Prop where
  closes_owned : ReleasesOwned ∅ (uses s.calls)
  tcp_notMem : ∀ fd, s.tcp = some fd → fd ∉ s.owned
  closes_all : s.destroyed = true → s.owned = ∅ ∧
    ∀ fd, (uses s.calls).count (.obtain fd) = (uses s.calls).count (.release fd)

/-- **The order in which nothing goes wrong.** A channel is not set up again
after a UDP set-up succeeded on it: the source writes the new descriptors over
the old ones, which nobody closes then. The two sockets of such a set-up are not
number 0, which the destructor takes for no socket. And in the end every other
channel holds no positive number: a set-up over TCP writes the descriptor of the
`TcpConnection` there, ten failed rounds those of closed sockets, and the
destructor closes what it finds. -/
def Orderly (s : SocketState) : SocketEvent → Prop
  | .setupRtpOverTcp ch _ _ => s.tcp = none ∨ s.opened ch = false
  | .setupRtpOverUdp _ attempts ch _ _ => s.tcp = none ∨ s.opened ch = false ∧
      ∀ a, boundAttempt (List.ofFn attempts) = some a → a.rtpSocket ≠ 0 ∧ a.rtcpSocket ≠ 0
  | .destroy => ∀ ch, s.opened ch = false → s.conn.rtpfd ch ≤ 0 ∧ s.conn.rtcpfd ch ≤ 0
  | _ => True

/-! ## The invariant -/

/-- The descriptors of the channels that were set up over UDP are the numbers
that are owned. They are positive, and no number is in two places; without this
the destructor would miss one, or close one twice. -/
structure Opened (s : SocketState) : Prop where
  mem_owned : ∀ fd, fd ∈ s.owned ↔
    ∃ ch, s.opened ch = true ∧ (fd = s.conn.rtpfd ch ∨ fd = s.conn.rtcpfd ch)
  pos : ∀ {ch}, s.opened ch = true → 0 < s.conn.rtpfd ch ∧ 0 < s.conn.rtcpfd ch
  ne : ∀ {ch}, s.opened ch = true → s.conn.rtpfd ch ≠ s.conn.rtcpfd ch
  disjoint : ∀ {ch ch'}, s.opened ch = true → s.opened ch' = true → ch ≠ ch' →
    s.conn.rtpfd ch ≠ s.conn.rtpfd ch' ∧ s.conn.rtpfd ch ≠ s.conn.rtcpfd ch' ∧
      s.conn.rtcpfd ch ≠ s.conn.rtcpfd ch'

/-- **The invariant of an orderly run.** So far only what was owned has been closed,
and nothing was obtained that was owned; what is owned is still open, and is not the
socket of the TCP connection; and while the object lives these are the descriptors in
its channels. -/
structure Inv (s : SocketState) : Prop where
  releases : ReleasesOwned ∅ (uses s.calls)
  fresh : Fresh ∅ (uses s.calls)
  owned_subset : s.owned ⊆ s.inUse
  tcp : ∀ fd, s.tcp = some fd → fd ∈ s.inUse ∧ fd ∉ s.owned
  opened : s.destroyed = false → s.Opened
  destroyed : s.destroyed = true → s.owned = ∅

theorem inv_init {s : SocketState} (h : system.init s) : s.Inv := by
  obtain ⟨garbage, rd, fd, inUse, hfd, rfl⟩ := h
  refine ⟨trivial, trivial, Finset.empty_subset _, ?_, fun _ => ?_, fun h => by cases h⟩
  · rintro fd' ⟨rfl⟩
    exact ⟨hfd, Finset.notMem_empty _⟩
  · refine ⟨fun fd => ?_, fun h => ?_, fun h => ?_, fun h => ?_⟩
    · exact iff_of_false (Finset.notMem_empty fd) fun ⟨_, h, _⟩ => by cases h
    · cases h
    · cases h
    · cases h

theorem owned_make (s : SocketState) (calls : List SysCall) :
    (s.make calls).owned = after s.owned (uses calls) := by
  unfold owned make
  rw [uses_append, after_append]

/-- The invariant of the calls, after calls that keep to what is owned. -/
theorem Inv.make {s : SocketState} (hs : s.Inv) {calls : List SysCall}
    (hfresh : Fresh s.inUse (uses calls)) (hreleases : ReleasesOwned s.owned (uses calls)) :
    ReleasesOwned ∅ (uses (s.make calls).calls) ∧ Fresh ∅ (uses (s.make calls).calls) := by
  show ReleasesOwned ∅ (uses (s.calls ++ calls)) ∧ Fresh ∅ (uses (s.calls ++ calls))
  rw [uses_append, releasesOwned_append, fresh_append]
  exact ⟨⟨hs.releases, hreleases⟩, hs.fresh, hfresh.mono hs.owned_subset⟩

/-- The descriptors of the opened channels stay when no opened channel's
change. -/
theorem Opened.of_frame {s s' : SocketState} (hs : s.Opened) (howned : s'.owned = s.owned)
    (hopened : s'.opened = s.opened)
    (hsame : ∀ ch, s.opened ch = true → s'.conn.rtpfd ch = s.conn.rtpfd ch ∧
      s'.conn.rtcpfd ch = s.conn.rtcpfd ch) : s'.Opened := by
  refine ⟨fun fd => ?_, fun h => ?_, fun h => ?_, fun h h' hdiff => ?_⟩
  · rw [howned, hs.mem_owned, hopened]
    refine exists_congr fun ch => and_congr_right fun h => ?_
    rw [(hsame ch h).1, (hsame ch h).2]
  · rw [hopened] at h
    rw [(hsame _ h).1, (hsame _ h).2]
    exact hs.pos h
  · rw [hopened] at h
    rw [(hsame _ h).1, (hsame _ h).2]
    exact hs.ne h
  · rw [hopened] at h h'
    rw [(hsame _ h).1, (hsame _ h).2, (hsame _ h').1, (hsame _ h').2]
    exact hs.disjoint h h' hdiff

/-- A channel is opened under two numbers that no other channel has. -/
theorem Opened.open {s s' : SocketState} (hs : s.Opened) {ch : MediaChannelId} {p q : ℤ}
    (hch : s.opened ch = false) (hp : p ∉ s.owned) (hq : q ∉ insert p s.owned)
    (hpos : 0 < p ∧ 0 < q) (howned : s'.owned = insert q (insert p s.owned))
    (hopened : s'.opened = Function.update s.opened ch true)
    (hfds : s'.conn.rtpfd ch = p ∧ s'.conn.rtcpfd ch = q)
    (hother : ∀ ch' ≠ ch, s'.conn.rtpfd ch' = s.conn.rtpfd ch' ∧
      s'.conn.rtcpfd ch' = s.conn.rtcpfd ch') : s'.Opened := by
  obtain ⟨hrtp, hrtcp⟩ := hfds
  obtain ⟨hqp, hq⟩ := not_or.mp (mt Finset.mem_insert.mpr hq)
  -- an opened channel is the new one, or another that was opened before
  have hcases : ∀ {ch'}, s'.opened ch' = true → ch' = ch ∨ (ch' ≠ ch ∧ s.opened ch' = true) := by
    intro ch' h
    by_cases heq : ch' = ch
    · exact .inl heq
    · rw [hopened, Function.update_of_ne heq] at h
      exact .inr ⟨heq, h⟩
  have hold : ∀ {ch'}, s.opened ch' = true → s.conn.rtpfd ch' ∈ s.owned ∧
      s.conn.rtcpfd ch' ∈ s.owned := fun {ch'} h =>
    ⟨(hs.mem_owned _).mpr ⟨ch', h, .inl rfl⟩, (hs.mem_owned _).mpr ⟨ch', h, .inr rfl⟩⟩
  have hnew : ∀ {ch'}, ch' ≠ ch → s.opened ch' = true →
      p ≠ s'.conn.rtpfd ch' ∧ p ≠ s'.conn.rtcpfd ch' ∧
      q ≠ s'.conn.rtpfd ch' ∧ q ≠ s'.conn.rtcpfd ch' := by
    intro ch' hne h
    rw [(hother ch' hne).1, (hother ch' hne).2]
    obtain ⟨h₁, h₂⟩ := hold h
    refine ⟨?_, ?_, ?_, ?_⟩
    · rintro rfl; exact hp h₁
    · rintro rfl; exact hp h₂
    · rintro rfl; exact hq h₁
    · rintro rfl; exact hq h₂
  refine ⟨fun fd => ?_, fun h => ?_, fun h => ?_, fun {ch₁ ch₂} h₁ h₂ hdiff => ?_⟩
  · rw [howned, Finset.mem_insert, Finset.mem_insert, hs.mem_owned]
    constructor
    · rintro (rfl | rfl | ⟨ch', h, hfd⟩)
      · exact ⟨ch, by rw [hopened, Function.update_self], .inr hrtcp.symm⟩
      · exact ⟨ch, by rw [hopened, Function.update_self], .inl hrtp.symm⟩
      · have hne : ch' ≠ ch := by
          rintro rfl
          rw [hch] at h
          cases h
        refine ⟨ch', by rw [hopened, Function.update_of_ne hne]; exact h, ?_⟩
        rw [(hother ch' hne).1, (hother ch' hne).2]
        exact hfd
    · rintro ⟨ch', h, hfd⟩
      rcases hcases h with rfl | ⟨hne, h⟩
      · rw [hrtp, hrtcp] at hfd
        exact hfd.elim (fun h => .inr (.inl h)) .inl
      · rw [(hother ch' hne).1, (hother ch' hne).2] at hfd
        exact .inr (.inr ⟨ch', h, hfd⟩)
  · rcases hcases h with rfl | ⟨hne, h⟩
    · rw [hrtp, hrtcp]; exact hpos
    · rw [(hother _ hne).1, (hother _ hne).2]; exact hs.pos h
  · rcases hcases h with rfl | ⟨hne, h⟩
    · rw [hrtp, hrtcp]; exact Ne.symm hqp
    · rw [(hother _ hne).1, (hother _ hne).2]; exact hs.ne h
  · rcases hcases h₁ with rfl | ⟨hne₁, h₁⟩
    · rcases hcases h₂ with rfl | ⟨hne₂, h₂⟩
      · exact absurd rfl hdiff
      · rw [hrtp, hrtcp]
        obtain ⟨hn₁, hn₂, -, hn₄⟩ := hnew hne₂ h₂
        exact ⟨hn₁, hn₂, hn₄⟩
    · rcases hcases h₂ with rfl | ⟨hne₂, h₂⟩
      · rw [hrtp, hrtcp]
        obtain ⟨hn₁, -, hn₃, hn₄⟩ := hnew hne₁ h₁
        exact ⟨hn₁.symm, hn₃.symm, hn₄.symm⟩
      · rw [(hother _ hne₁).1, (hother _ hne₁).2, (hother _ hne₂).1, (hother _ hne₂).2]
        exact hs.disjoint h₁ h₂ hdiff

/-- A step that leaves the descriptors as they were. -/
theorem Inv.of_frame {s s' : SocketState} (hs : s.Inv)
    (hcalls : ReleasesOwned ∅ (uses s'.calls) ∧ Fresh ∅ (uses s'.calls))
    (howned : s'.owned = s.owned) (hinUse : s'.inUse = s.inUse) (htcp : s'.tcp = s.tcp)
    (hdestroyed : s'.destroyed = s.destroyed)
    (hopened : s.destroyed = false → s'.opened = s.opened ∧ ∀ ch, s.opened ch = true →
      s'.conn.rtpfd ch = s.conn.rtpfd ch ∧ s'.conn.rtcpfd ch = s.conn.rtcpfd ch) : s'.Inv := by
  refine ⟨hcalls.1, hcalls.2, ?_, ?_, fun halive => ?_, ?_⟩
  · rw [howned, hinUse]
    exact hs.owned_subset
  · rw [htcp, hinUse, howned]
    exact hs.tcp
  · rw [hdestroyed] at halive
    obtain ⟨hopened, hsame⟩ := hopened halive
    exact (hs.opened halive).of_frame howned hopened hsame
  · rw [hdestroyed, howned]
    exact hs.destroyed

/-- A step that opens a channel under two new numbers. -/
theorem Inv.open {s s' : SocketState} (hs : s.Inv) {ch : MediaChannelId} {p q : ℤ}
    (halive : s.destroyed = false) (hch : s.opened ch = false) (hp : p ∉ s.inUse)
    (hq : q ∉ insert p s.inUse) (hpos : 0 < p ∧ 0 < q)
    (hcalls : ReleasesOwned ∅ (uses s'.calls) ∧ Fresh ∅ (uses s'.calls))
    (howned : s'.owned = insert q (insert p s.owned))
    (hinUse : s'.inUse = insert q (insert p s.inUse)) (htcp : s'.tcp = s.tcp)
    (hdestroyed : s'.destroyed = s.destroyed)
    (hopened : s'.opened = Function.update s.opened ch true)
    (hfds : s'.conn.rtpfd ch = p ∧ s'.conn.rtcpfd ch = q)
    (hother : ∀ ch' ≠ ch, s'.conn.rtpfd ch' = s.conn.rtpfd ch' ∧
      s'.conn.rtcpfd ch' = s.conn.rtcpfd ch') : s'.Inv := by
  have hsub : insert p s.owned ⊆ insert p s.inUse := Finset.insert_subset_insert _ hs.owned_subset
  refine ⟨hcalls.1, hcalls.2, ?_, fun fd h => ?_, fun _ => ?_, fun h => ?_⟩
  · rw [howned, hinUse]
    exact Finset.insert_subset_insert _ hsub
  · rw [htcp] at h
    obtain ⟨hfd, hfdowned⟩ := hs.tcp fd h
    rw [howned, hinUse]
    refine ⟨Finset.mem_insert_of_mem (Finset.mem_insert_of_mem hfd), fun hmem => ?_⟩
    rcases Finset.mem_insert.mp hmem with rfl | hmem
    · exact hq (Finset.mem_insert_of_mem hfd)
    · rcases Finset.mem_insert.mp hmem with rfl | hmem
      · exact hp hfd
      · exact hfdowned hmem
  · exact (hs.opened halive).open hch (fun h => hp (hs.owned_subset h)) (fun h => hq (hsub h))
      hpos howned hopened hfds hother
  · rw [hdestroyed, halive] at h
    cases h

/-! ## The steps -/

/-- The socket of the TCP connection is there. -/
theorem peer_eq_none {s : SocketState} {peerName : Option SockAddr} :
    s.peer peerName = none ↔ s.tcp = none := Option.map_eq_none_iff

theorem Inv.setupRtpOverTcp {s : SocketState} (hs : s.Inv) {ch : MediaChannelId} {a b : UInt16}
    (hgood : s.Orderly (.setupRtpOverTcp ch a b)) :
    Inv { s with conn := (s.conn.setupRtpOverTcp (s.peer none) ch a b).2 } := by
  refine hs.of_frame ⟨hs.releases, hs.fresh⟩ rfl rfl rfl rfl fun _ => ⟨rfl, fun ch' h => ?_⟩
  show (s.conn.setupRtpOverTcp (s.peer none) ch a b).2.rtpfd ch' = s.conn.rtpfd ch' ∧
    (s.conn.setupRtpOverTcp (s.peer none) ch a b).2.rtcpfd ch' = s.conn.rtcpfd ch'
  cases hpeer : s.peer none with
  | none => exact ⟨rfl, rfl⟩
  | some tcp =>
    have htcp : s.tcp ≠ none := by
      rw [Ne, ← peer_eq_none (s := s), hpeer]
      exact Option.some_ne_none tcp
    have hne : ch' ≠ ch := by
      rintro rfl
      rw [hgood.resolve_left htcp] at h
      cases h
    exact ⟨Function.update_of_ne hne .., Function.update_of_ne hne ..⟩

/-- The sockets of the round that succeeds are among the calls. -/
theorem mem_openPorts_calls (ch : MediaChannelId) {b : UdpAttempt} (attempts : List UdpAttempt) :
    ∀ c : RtpConnection, boundAttempt attempts = some b →
      .socket b.rtpSocket ∈ (c.openPorts ch attempts).2.2 ∧
      .socket b.rtcpSocket ∈ (c.openPorts ch attempts).2.2 := by
  induction attempts with
  | nil => intro c hb; cases hb
  | cons a attempts ih =>
    intro c hb
    rw [boundAttempt, List.find?_cons] at hb
    cases ha : a.rtpBound && a.rtcpBound with
    | true =>
      rw [ha] at hb
      cases hb
      obtain ⟨hrtp, hrtcp⟩ := Bool.and_eq_true_iff.mp ha
      simp only [openPorts, hrtp, hrtcp, if_true]
      exact ⟨by simp, by simp⟩
    | false =>
      rw [ha] at hb
      rw [openPorts_cons ha]
      obtain ⟨hp, hq⟩ := ih (c.failedFields ch a) hb
      exact ⟨List.mem_append_right _ hp, List.mem_append_right _ hq⟩

/-- **What a set-up over UDP does** to the descriptors: nothing when the TCP
connection is gone; otherwise it leaves them as they were, or two new sockets
open, as its rounds find ports or not. -/
inductive UdpStep (s : SocketState) (peerName : Option SockAddr)
    (attempts : Fin 10 → UdpAttempt) (ch : MediaChannelId) (a b : UInt16) :
    Bool → RtpConnection → List SysCall → Prop where
  | gone (htcp : s.tcp = none) : UdpStep s peerName attempts ch a b false s.conn []
  | failed {tcp : TcpPeer} {c : RtpConnection} {calls : List SysCall}
      (hpeer : s.peer peerName = some tcp) (hbound : boundAttempt (List.ofFn attempts) = none)
      (hspec : UdpSetUp s.conn tcp ch a b false c)
      (hreleases : ReleasesOwned s.owned (uses calls))
      (howned : (s.make calls).owned = s.owned) (hinUse : (s.make calls).inUse = s.inUse)
      (hrtpfd : c.rtpfd ch ∉ s.inUse) : UdpStep s peerName attempts ch a b false c calls
  | opened {tcp : TcpPeer} {r : UdpAttempt} {c : RtpConnection} {calls : List SysCall}
      (hpeer : s.peer peerName = some tcp) (hbound : boundAttempt (List.ofFn attempts) = some r)
      (hspec : UdpSetUp s.conn tcp ch a b true c)
      (hreleases : ReleasesOwned s.owned (uses calls))
      (howned : (s.make calls).owned = insert r.rtcpSocket (insert r.rtpSocket s.owned))
      (hinUse : (s.make calls).inUse = insert r.rtcpSocket (insert r.rtpSocket s.inUse))
      (hp : r.rtpSocket ∉ s.inUse) (hq : r.rtcpSocket ∉ insert r.rtpSocket s.inUse)
      (hfds : c.rtpfd ch = r.rtpSocket ∧ c.rtcpfd ch = r.rtcpSocket)
      (hcalls : .socket r.rtpSocket ∈ calls ∧ .socket r.rtcpSocket ∈ calls) :
      UdpStep s peerName attempts ch a b true c calls

theorem udpStep {s : SocketState} (hsub : s.owned ⊆ s.inUse) {peerName : Option SockAddr}
    {attempts : Fin 10 → UdpAttempt} {ch : MediaChannelId} {a b : UInt16} {ok : Bool}
    {c : RtpConnection} {calls : List SysCall}
    (hres : s.conn.setupRtpOverUdp (s.peer peerName) attempts ch a b = (ok, c, calls))
    (hfresh : Fresh s.inUse (uses calls)) : s.UdpStep peerName attempts ch a b ok c calls := by
  cases hpeer : s.peer peerName with
  | none =>
    rw [hpeer] at hres
    cases hres
    exact .gone (peer_eq_none.mp hpeer)
  | some tcp =>
    obtain ⟨hok, hcalls, hrtpfd, hrtcpfd, hspec⟩ := setupRtpOverUdp_spec s.conn tcp attempts ch a b
    rw [← hpeer, hres] at hok hcalls hrtpfd hrtcpfd hspec
    dsimp only at hok hcalls hrtpfd hrtcpfd hspec
    set asked := s.conn.udpAsked tcp ch a b
    rw [hcalls] at hfresh
    -- the same search, seen from the sockets owned and from the descriptors in use
    cases hbound : boundAttempt (List.ofFn attempts) with
    | none =>
      obtain ⟨hfail, hreleases, hafter, hfd⟩ :=
        openPorts_failed hsub (List.ofFn attempts) asked hbound hfresh
      obtain ⟨-, -, hafter', -⟩ :=
        openPorts_failed (Finset.Subset.refl _) (List.ofFn attempts) asked hbound hfresh
      rw [hfail] at hok hspec
      rw [← hcalls] at hreleases hafter hafter'
      rw [← hrtpfd] at hfd
      subst hok
      refine .failed hpeer hbound hspec hreleases ((owned_make s _).trans hafter) hafter' ?_
      refine hfd.resolve_right fun hnil => ?_
      exact absurd (congrArg List.length hnil.2) (by rw [List.length_ofFn]; decide)
    | some r =>
      obtain ⟨hdone, hrtp, hrtcp, hreleases, hafter, hp, hq⟩ :=
        openPorts_opened hsub (List.ofFn attempts) asked hbound hfresh
      obtain ⟨-, -, -, -, hafter', -⟩ :=
        openPorts_opened (Finset.Subset.refl _) (List.ofFn attempts) asked hbound hfresh
      have hmem := mem_openPorts_calls ch (List.ofFn attempts) asked hbound
      rw [hdone] at hok hspec
      rw [← hcalls] at hreleases hafter hafter' hmem
      subst hok
      exact .opened hpeer hbound hspec hreleases ((owned_make s _).trans hafter) hafter' hp hq
        ⟨(congrFun hrtpfd ch).trans hrtp, (congrFun hrtcpfd ch).trans hrtcp⟩ hmem

theorem Inv.setupRtpOverUdp {s : SocketState} (hs : s.Inv) {peerName : Option SockAddr}
    {attempts : Fin 10 → UdpAttempt} {ch : MediaChannelId} {a b : UInt16} {ok : Bool}
    {c : RtpConnection} {calls : List SysCall} (halive : s.destroyed = false)
    (hres : s.conn.setupRtpOverUdp (s.peer peerName) attempts ch a b = (ok, c, calls))
    (hfresh : Fresh s.inUse (uses calls)) (hnonneg : ∀ fd, .socket fd ∈ calls → 0 ≤ fd)
    (hgood : s.Orderly (.setupRtpOverUdp peerName attempts ch a b)) :
    Inv { s.make calls with
      conn := c, opened := Function.update s.opened ch (ok || s.opened ch) } := by
  have hpeer_ne : ∀ {tcp}, s.peer peerName = some tcp → s.tcp ≠ none := by
    intro tcp hpeer
    rw [Ne, ← peer_eq_none, hpeer]
    exact Option.some_ne_none tcp
  cases udpStep hs.owned_subset hres hfresh with
  | gone htcp =>
    have hcalls := @Inv.make s hs [] trivial trivial
    refine hs.of_frame hcalls (owned_make s []) rfl rfl rfl
      fun _ => ⟨?_, fun _ _ => ⟨rfl, rfl⟩⟩
    exact Function.update_eq_self ch s.opened
  | failed hpeer hbound hspec hreleases howned hinUse hrtpfd =>
    obtain ⟨hch, -⟩ := hgood.resolve_left (hpeer_ne hpeer)
    refine hs.of_frame (hs.make hfresh hreleases) howned hinUse rfl rfl
      fun _ => ⟨?_, fun ch' h => hspec.descriptors ch' ?_⟩
    · exact Function.update_eq_self ch s.opened
    · rintro rfl
      rw [hch] at h
      cases h
  | opened hpeer hbound hspec hreleases howned hinUse hp hq hfds hmem =>
    obtain ⟨hch, hzero⟩ := hgood.resolve_left (hpeer_ne hpeer)
    obtain ⟨hp0, hq0⟩ := hzero _ hbound
    have hpos := And.intro (lt_of_le_of_ne (hnonneg _ hmem.1) hp0.symm)
      (lt_of_le_of_ne (hnonneg _ hmem.2) hq0.symm)
    exact hs.open halive hch hp hq hpos (hs.make hfresh hreleases) howned hinUse rfl rfl rfl hfds
      hspec.descriptors

/-- **What the destructor closes** in an orderly run: each number that is
owned, once. -/
theorem Opened.closes {s : SocketState} (hs : s.Opened) (hgood : s.Orderly .destroy) :
    (s.conn.descriptors.filter (0 < ·)).Nodup ∧
      s.owned = (s.conn.descriptors.filter (0 < ·)).toFinset := by
  have hnone : ∀ ch, s.opened ch = false →
      [s.conn.rtpfd ch, s.conn.rtcpfd ch].filter (0 < ·) = [] := by
    intro ch h
    obtain ⟨hp, hq⟩ := hgood ch h
    exact List.filter_eq_nil_iff.mpr (by simp [hp, hq])
  have hsome : ∀ ch, s.opened ch = true →
      [s.conn.rtpfd ch, s.conn.rtcpfd ch].filter (0 < ·) = [s.conn.rtpfd ch, s.conn.rtcpfd ch] := by
    intro ch h
    obtain ⟨hp, hq⟩ := hs.pos h
    exact List.filter_eq_self.mpr (by simp [hp, hq])
  unfold descriptors
  rw [List.filter_flatMap]
  constructor
  · rw [List.nodup_flatMap]
    refine ⟨fun ch _ => ?_, ?_⟩
    · cases h : s.opened ch with
      | false => rw [hnone ch h]; exact List.nodup_nil
      | true => rw [hsome ch h]; simp [hs.ne h]
    · refine List.pairwise_pair.mpr ?_
      show List.Disjoint ([s.conn.rtpfd .channel0, s.conn.rtcpfd .channel0].filter (0 < ·))
        ([s.conn.rtpfd .channel1, s.conn.rtcpfd .channel1].filter (0 < ·))
      cases h₀ : s.opened .channel0 with
      | false => rw [hnone _ h₀]; exact List.disjoint_nil_left _
      | true =>
        cases h₁ : s.opened .channel1 with
        | false => rw [hnone _ h₁]; exact List.disjoint_nil_right _
        | true =>
          rw [hsome _ h₀, hsome _ h₁]
          obtain ⟨h₁₁, h₁₂, h₂₂⟩ := hs.disjoint h₀ h₁ (by decide)
          obtain ⟨-, h₂₁, -⟩ := hs.disjoint h₁ h₀ (by decide)
          simp [h₁₁.symm, h₁₂.symm, h₂₁, h₂₂.symm]
  · ext fd
    rw [hs.mem_owned, List.mem_toFinset, List.mem_flatMap]
    have hmem : ∀ ch : MediaChannelId, ch ∈ [MediaChannelId.channel0, .channel1] := by
      rintro (_ | _) <;> decide
    constructor
    · rintro ⟨ch, h, hfd⟩
      refine ⟨ch, hmem ch, ?_⟩
      rw [hsome ch h]
      simpa using hfd
    · rintro ⟨ch, -, hfd⟩
      cases h : s.opened ch with
      | false => rw [hnone ch h] at hfd; cases hfd
      | true =>
        rw [hsome ch h] at hfd
        exact ⟨ch, h, by simpa using hfd⟩

theorem Inv.destroy {s : SocketState} (hs : s.Inv) (halive : s.destroyed = false)
    (hgood : s.Orderly .destroy) : Inv { s.make s.conn.destroy with destroyed := true } := by
  obtain ⟨hnodup, howned⟩ := (hs.opened halive).closes hgood
  have huses : uses s.conn.destroy = (s.conn.descriptors.filter (0 < ·)).map .release := by
    unfold RtpConnection.destroy uses
    rw [List.filterMap_map]
    exact congrFun List.filterMap_eq_map _
  obtain ⟨hreleases, hafter⟩ := releaseAll _ _ hnodup howned
  rw [← huses] at hreleases hafter
  have hfresh : Fresh s.inUse (uses s.conn.destroy) := by
    rw [huses]
    exact fresh_release _ _
  have hempty : (s.make s.conn.destroy).owned = ∅ := (owned_make s _).trans hafter
  obtain ⟨hreleases, hfresh⟩ := hs.make hfresh hreleases
  refine ⟨hreleases, hfresh, ?_, ?_, fun h => ?_, fun _ => hempty⟩
  · show (s.make _).owned ⊆ _
    rw [hempty]
    exact Finset.empty_subset _
  · show ∀ fd, s.tcp = some fd → fd ∈ after s.inUse (uses s.conn.destroy) ∧
      fd ∉ (s.make _).owned
    rw [hempty, huses]
    intro fd h
    obtain ⟨hin, hnot⟩ := hs.tcp fd h
    refine ⟨(mem_after_release _ _).mpr ⟨hin, fun hmem => hnot ?_⟩, Finset.notMem_empty _⟩
    rw [howned]
    exact List.mem_toFinset.mpr hmem
  · cases h

theorem Inv.tcpClosed {s : SocketState} (hs : s.Inv) {fd : ℤ} (htcp : s.tcp = some fd) :
    Inv { s with tcp := none, inUse := s.inUse.erase fd } := by
  refine ⟨hs.releases, hs.fresh, ?_, fun fd' h => ?_, fun halive => ?_, hs.destroyed⟩
  · exact Finset.subset_erase.mpr ⟨hs.owned_subset, (hs.tcp fd htcp).2⟩
  · cases h
  · exact (hs.opened halive).of_frame rfl rfl fun _ _ => ⟨rfl, rfl⟩

theorem Inv.openElsewhere {s : SocketState} (hs : s.Inv) (fd : ℤ) :
    Inv { s with inUse := insert fd s.inUse } := by
  refine ⟨hs.releases, hs.fresh, ?_, fun fd' h => ?_, fun halive => ?_, hs.destroyed⟩
  · exact hs.owned_subset.trans (Finset.subset_insert _ _)
  · obtain ⟨hin, hnot⟩ := hs.tcp fd' h
    exact ⟨Finset.mem_insert_of_mem hin, hnot⟩
  · exact (hs.opened halive).of_frame rfl rfl fun _ _ => ⟨rfl, rfl⟩

theorem Inv.closeElsewhere {s : SocketState} (hs : s.Inv) {fd : ℤ} (hother : fd ∉ s.owned)
    (htcp : s.tcp ≠ some fd) : Inv { s with inUse := s.inUse.erase fd } := by
  refine ⟨hs.releases, hs.fresh, ?_, fun fd' h => ?_, fun halive => ?_, hs.destroyed⟩
  · exact Finset.subset_erase.mpr ⟨hs.owned_subset, hother⟩
  · obtain ⟨hin, hnot⟩ := hs.tcp fd' h
    have hne : fd' ≠ fd := by
      rintro rfl
      exact htcp h
    exact ⟨Finset.mem_erase.mpr ⟨hne, hin⟩, hnot⟩
  · exact (hs.opened halive).of_frame rfl rfl fun _ _ => ⟨rfl, rfl⟩

theorem Inv.step {s s' : SocketState} {e : SocketEvent} (hs : s.Inv) (hgood : s.Orderly e)
    (h : SocketStep s e s') : s'.Inv := by
  cases h with
  | setupRtpOverTcp _ => exact hs.setupRtpOverTcp hgood
  | setupRtpOverUdp halive hres hfresh hnonneg =>
    exact hs.setupRtpOverUdp halive hres hfresh hnonneg hgood
  | destroy halive => exact hs.destroy halive hgood
  | tcpClosed htcp => exact hs.tcpClosed htcp
  | openElsewhere _ => exact hs.openElsewhere _
  | closeElsewhere hother htcp => exact hs.closeElsewhere hother htcp

theorem Inv.owns {s : SocketState} (hs : s.Inv) : s.Owns := by
  refine ⟨hs.releases, fun fd h => (hs.tcp fd h).2, fun h => ⟨hs.destroyed h, fun fd => ?_⟩⟩
  have hcount := count_obtain fd (uses s.calls) ∅ ∅ (Finset.Subset.refl _) hs.fresh hs.releases
  have hempty : after ∅ (uses s.calls) = ∅ := hs.destroyed h
  rw [hempty] at hcount
  simpa using hcount

/-- **An orderly run closes each socket exactly once**, and nothing that is
not its own. The invariant is that what the object owns are the descriptors of the
channels that were set up over UDP, all different; so the destructor, which goes
by the numbers that it finds in the channels, finds these. -/
theorem owns_of_run {es : List SocketEvent} {s : SocketState}
    (h : (system.restrict Orderly).Run es s) : s.Owns := by
  have hinv : s.Inv := by
    refine System.Run.invariant (S := system.restrict Orderly) ?_ ?_ h
    · intro s hs
      exact inv_init hs
    · rintro s e s' hs ⟨hgood, hstep⟩
      exact hs.step hgood hstep
  exact hinv.owns

/-! ## Two runs -/

/-- A client whose TCP connection is descriptor 7. -/
def client : SocketState where
  conn := RtpConnection.new zeroed fun _ => 0
  tcp := some 7
  inUse := {7}

theorem init_client : system.init client :=
  ⟨zeroed, fun _ => 0, 7, {7}, by decide, rfl⟩

/-- The RTCP port is taken at first; the second round gets both ports, under
the numbers that the first one closed. -/
def secondRound (i : Fin 10) : UdpAttempt := ⟨20000 + 2 * i.val.toUInt32, 8, true, 9, i != 0⟩

/-- The client with one channel set up over UDP. -/
def udpClient : SocketState :=
  let r := client.conn.setupRtpOverUdp (client.peer none) secondRound .channel0 5000 5001
  { client.make r.2.2 with
    conn := r.2.1
    opened := Function.update client.opened .channel0 true }

theorem step_udpClient :
    SocketStep client (.setupRtpOverUdp none secondRound .channel0 5000 5001) udpClient := by
  let r := client.conn.setupRtpOverUdp (client.peer none) secondRound .channel0 5000 5001
  have hfresh : Fresh client.inUse (uses r.2.2) := by decide
  have hcalls : r.2.2 = [.socket 8, .bind 8 20000 true, .socket 9, .bind 9 20001 false,
      .close 9, .close 8, .socket 8, .bind 8 20002 true, .socket 9, .bind 9 20003 true] := by
    decide
  have hnonneg : ∀ fd, .socket fd ∈ r.2.2 → 0 ≤ fd := by
    intro fd h
    rw [hcalls] at h
    have hfd : fd = 8 ∨ fd = 9 ∨ fd = 8 ∨ fd = 9 := by simpa using h
    omega
  have hres : client.conn.setupRtpOverUdp (client.peer none) secondRound .channel0 5000 5001
      = (true, r.2.1, r.2.2) := rfl
  exact .setupRtpOverUdp rfl hres hfresh hnonneg

/-- A channel is set up over UDP, other code opens and closes a descriptor, the TCP
connection goes, and the object is destroyed. -/
def udpRun : List SocketEvent :=
  [] ++ [.setupRtpOverUdp none secondRound .channel0 5000 5001] ++ [.openElsewhere 10] ++
    [.tcpClosed] ++ [.closeElsewhere 10] ++ [.destroy]

theorem run_udpRun : ∃ s, (system.restrict Orderly).Run udpRun s ∧
    s.destroyed = true ∧ s.opened .channel0 = true := by
  have hudp : client.Orderly (.setupRtpOverUdp none secondRound .channel0 5000 5001) := by
    refine .inr ⟨rfl, fun a ha => ?_⟩
    cases ha
    exact ⟨by decide, by decide⟩
  have hopen : SocketStep udpClient (.openElsewhere 10) _ := .openElsewhere (by decide)
  have hclosed : SocketStep { udpClient with inUse := insert 10 udpClient.inUse } .tcpClosed _ :=
    .tcpClosed rfl
  have hother : SocketStep { udpClient with
      tcp := none
      inUse := (insert 10 udpClient.inUse).erase 7 } (.closeElsewhere 10) _ :=
    .closeElsewhere (by decide) fun h => by cases h
  have hstart : (system.restrict Orderly).Run [] client := .nil init_client
  have hgone := (((hstart.snoc_restrict step_udpClient hudp).snoc_restrict hopen trivial
    ).snoc_restrict hclosed trivial).snoc_restrict hother trivial
  refine ⟨_, hgone.snoc_restrict (SocketStep.destroy rfl) ?_, rfl, rfl⟩
  rintro (_ | _) h
  · cases h
  · exact ⟨le_refl _, le_refl _⟩

/-- `owns_of_run` for this run. -/
theorem owns_udpRun : ∃ s, (system.restrict Orderly).Run udpRun s ∧
    s.destroyed = true ∧ s.opened .channel0 = true ∧ s.Owns := by
  obtain ⟨s, hrun, hdestroyed, hopened⟩ := run_udpRun
  exact ⟨s, hrun, hdestroyed, hopened, owns_of_run hrun⟩

/-- **A channel set up over TCP**: the destructor closes the descriptor of
the TCP connection, and twice. -/
theorem tcp_socket_closed : ¬ ∀ es s, system.Run es s → s.Owns := by
  intro h
  let c := (client.conn.setupRtpOverTcp (client.peer none) .channel0 0 1).2
  have hsetup : system.Run [.setupRtpOverTcp .channel0 0 1] { client with conn := c } :=
    .snoc (.nil init_client) (.setupRtpOverTcp rfl)
  have hclosed := (h _ _ (hsetup.snoc (.destroy rfl))).closes_owned
  revert hclosed
  decide

end SocketState

end RtpConnection
