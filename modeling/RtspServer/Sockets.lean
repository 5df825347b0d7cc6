import RtspServer.ResourceTable
import RtspServer.RtpConnection

/-!
# The sockets of a UDP set-up

`setupRtpOverUdp` tries up to ten pairs of ports. A round that fails closes
the sockets it opened; the first round in which both ports are bound
(`boundAttempt`) leaves its two sockets in `_rtpfd` and `_rtcpfd`. When no
round succeeds, what stands in `_rtpfd` is the number of a socket that was
closed.
-/

open ResourceTable

namespace SysCall

/-- What a call does to the descriptors. -/
def use : SysCall → Option (Use ℤ)
  | .socket fd => some (.obtain fd)
  | .bind _ _ _ => none
  | .close fd => some (.release fd)

/-- What calls do to the descriptors. -/
def uses (calls : List SysCall) : List (Use ℤ) := calls.filterMap use

theorem uses_append (calls calls' : List SysCall) :
    uses (calls ++ calls') = uses calls ++ uses calls' :=
  List.filterMap_append

end SysCall

open SysCall (uses uses_append)

namespace RtpConnection

/-- The first attempt in which both ports are bound. -/
def boundAttempt (attempts : List UdpAttempt) : Option UdpAttempt :=
  attempts.find? fun a => a.rtpBound && a.rtcpBound

/-- The calls of a round that fails. -/
def failedRound (a : UdpAttempt) : List SysCall :=
  let rtpPort : UInt16 := (a.draw &&& 0xfffe).toUInt16
  let rtp : List SysCall := [.socket a.rtpSocket, .bind a.rtpSocket rtpPort a.rtpBound]
  if a.rtpBound then
    rtp ++ [.socket a.rtcpSocket, .bind a.rtcpSocket (rtpPort + 1) a.rtcpBound]
      ++ [.close a.rtcpSocket, .close a.rtpSocket]
  else rtp ++ [.close a.rtpSocket]

/-- What a round that fails leaves in the fields. -/
def failedFields (c : RtpConnection) (ch : MediaChannelId) (a : UdpAttempt) : RtpConnection :=
  { c with
    localRtpPort := Function.update c.localRtpPort ch (a.draw &&& 0xfffe).toUInt16
    localRtcpPort := Function.update c.localRtcpPort ch ((a.draw &&& 0xfffe).toUInt16 + 1)
    rtpfd := Function.update c.rtpfd ch a.rtpSocket
    rtcpfd := if a.rtpBound then Function.update c.rtcpfd ch a.rtcpSocket else c.rtcpfd }

/-- A round that fails is followed by the next. -/
theorem openPorts_cons {a : UdpAttempt} (h : (a.rtpBound && a.rtcpBound) = false)
    (c : RtpConnection) (ch : MediaChannelId) (attempts : List UdpAttempt) :
    c.openPorts ch (a :: attempts) = (((c.failedFields ch a).openPorts ch attempts).1,
      ((c.failedFields ch a).openPorts ch attempts).2.1,
      failedRound a ++ ((c.failedFields ch a).openPorts ch attempts).2.2) := by
  by_cases hrtp : a.rtpBound
  · have hrtcp : ¬ a.rtcpBound = true := by
      intro hrtcp
      rw [hrtp, hrtcp] at h
      cases h
    simp only [openPorts, failedRound, failedFields, hrtp, hrtcp, if_true, Bool.false_eq_true,
      if_false]
  · simp only [openPorts, failedRound, failedFields, hrtp, Bool.false_eq_true, if_false]

/-- **The port search writes ports and descriptors of its channel only.** -/
theorem openPorts_frame (ch : MediaChannelId) (attempts : List UdpAttempt) :
    ∀ c : RtpConnection, ∃ rtpPorts rtcpPorts rtpfds rtcpfds,
      (c.openPorts ch attempts).2.1 = { c with
        localRtpPort := rtpPorts
        localRtcpPort := rtcpPorts
        rtpfd := rtpfds
        rtcpfd := rtcpfds } ∧
      ∀ ch' ≠ ch, rtpfds ch' = c.rtpfd ch' ∧ rtcpfds ch' = c.rtcpfd ch' := by
  induction attempts with
  | nil => intro c; exact ⟨_, _, _, _, rfl, fun _ _ => ⟨rfl, rfl⟩⟩
  | cons a attempts ih =>
    intro c
    cases ha : a.rtpBound && a.rtcpBound with
    | true =>
      obtain ⟨hrtp, hrtcp⟩ := Bool.and_eq_true_iff.mp ha
      simp only [openPorts, hrtp, hrtcp, if_true]
      exact ⟨_, _, _, _, rfl, fun ch' h => ⟨Function.update_of_ne h .., Function.update_of_ne h ..⟩⟩
    | false =>
      obtain ⟨_, _, _, _, heq, hother⟩ := ih (c.failedFields ch a)
      rw [openPorts_cons ha]
      refine ⟨_, _, _, _, heq, fun ch' h => ?_⟩
      rw [(hother ch' h).1, (hother ch' h).2]
      refine ⟨Function.update_of_ne h .., ?_⟩
      unfold failedFields
      dsimp only
      split
      · exact Function.update_of_ne h ..
      · rfl

/-- **A round that fails leaves the descriptors as they were.** -/
theorem failedRound_spec {a : UdpAttempt} {inUse owned : Finset ℤ} (hsub : owned ⊆ inUse)
    {rest : List (Use ℤ)} (hfresh : Fresh inUse (uses (failedRound a) ++ rest)) :
    ReleasesOwned owned (uses (failedRound a)) ∧ after owned (uses (failedRound a)) = owned ∧
      a.rtpSocket ∉ inUse ∧ Fresh inUse rest := by
  unfold failedRound at hfresh ⊢
  by_cases hrtp : a.rtpBound
  · simp only [hrtp, if_true] at hfresh ⊢
    obtain ⟨hp, hq, hfresh⟩ := hfresh
    replace hfresh : Fresh (((insert a.rtcpSocket (insert a.rtpSocket inUse)).erase
      a.rtcpSocket).erase a.rtpSocket) rest := hfresh
    rw [Finset.erase_insert hq, Finset.erase_insert hp] at hfresh
    have hp' : a.rtpSocket ∉ owned := fun h => hp (hsub h)
    have hq' : a.rtcpSocket ∉ insert a.rtpSocket owned := fun h =>
      hq (Finset.insert_subset_insert _ hsub h)
    refine ⟨⟨Finset.mem_insert_self .., ?_, trivial⟩, ?_, hp, hfresh⟩
    · rw [Finset.erase_insert hq']
      exact Finset.mem_insert_self ..
    · show ((insert a.rtcpSocket (insert a.rtpSocket owned)).erase a.rtcpSocket).erase
        a.rtpSocket = owned
      rw [Finset.erase_insert hq', Finset.erase_insert hp']
  · simp only [hrtp, Bool.false_eq_true, if_false] at hfresh ⊢
    obtain ⟨hp, hfresh⟩ := hfresh
    replace hfresh : Fresh ((insert a.rtpSocket inUse).erase a.rtpSocket) rest := hfresh
    rw [Finset.erase_insert hp] at hfresh
    have hp' : a.rtpSocket ∉ owned := fun h => hp (hsub h)
    refine ⟨⟨Finset.mem_insert_self .., trivial⟩, ?_, hp, hfresh⟩
    show (insert a.rtpSocket owned).erase a.rtpSocket = owned
    rw [Finset.erase_insert hp']

/-- **A search in which no round succeeds** leaves the descriptors as they
were, and the number of a closed socket in `_rtpfd`. -/
theorem openPorts_failed {ch : MediaChannelId} {inUse owned : Finset ℤ} (hsub : owned ⊆ inUse)
    (attempts : List UdpAttempt) : ∀ c : RtpConnection, boundAttempt attempts = none →
      Fresh inUse (uses (c.openPorts ch attempts).2.2) →
      (c.openPorts ch attempts).1 = false ∧
      ReleasesOwned owned (uses (c.openPorts ch attempts).2.2) ∧
      after owned (uses (c.openPorts ch attempts).2.2) = owned ∧
      ((c.openPorts ch attempts).2.1.rtpfd ch ∉ inUse ∨
        (c.openPorts ch attempts).2.1.rtpfd ch = c.rtpfd ch ∧ attempts = []) := by
  induction attempts with
  | nil => intro c _ _; exact ⟨rfl, trivial, rfl, .inr ⟨rfl, rfl⟩⟩
  | cons a attempts ih =>
    intro c hnone hfresh
    obtain ⟨ha, hnone⟩ : (a.rtpBound && a.rtcpBound) = false ∧ boundAttempt attempts = none := by
      rw [boundAttempt, List.find?_cons] at hnone
      cases hboth : a.rtpBound && a.rtcpBound with
      | true => rw [hboth] at hnone; cases hnone
      | false => rw [hboth] at hnone; exact ⟨rfl, hnone⟩
    rw [openPorts_cons ha] at hfresh ⊢
    dsimp only at hfresh ⊢
    rw [uses_append] at hfresh ⊢
    obtain ⟨hreleases, hafter, hsocket, hfresh⟩ := failedRound_spec hsub hfresh
    obtain ⟨hok, hrest, hafter', hfd⟩ := ih (c.failedFields ch a) hnone hfresh
    refine ⟨hok, (releasesOwned_append ..).mpr ⟨hreleases, hafter.symm ▸ hrest⟩, ?_, .inl ?_⟩
    · rw [after_append, hafter, hafter']
    · rcases hfd with hfd | ⟨hfd, -⟩
      · exact hfd
      · have hlast : (c.failedFields ch a).rtpfd ch = a.rtpSocket := Function.update_self ..
        rw [hfd, hlast]
        exact hsocket

/-- **A search that succeeds** leaves two new sockets open, those in `_rtpfd`
and `_rtcpfd`. -/
theorem openPorts_opened {ch : MediaChannelId} {inUse owned : Finset ℤ} (hsub : owned ⊆ inUse)
    {b : UdpAttempt} (attempts : List UdpAttempt) : ∀ c : RtpConnection,
      boundAttempt attempts = some b → Fresh inUse (uses (c.openPorts ch attempts).2.2) →
      (c.openPorts ch attempts).1 = true ∧
      (c.openPorts ch attempts).2.1.rtpfd ch = b.rtpSocket ∧
      (c.openPorts ch attempts).2.1.rtcpfd ch = b.rtcpSocket ∧
      ReleasesOwned owned (uses (c.openPorts ch attempts).2.2) ∧
      after owned (uses (c.openPorts ch attempts).2.2)
        = insert b.rtcpSocket (insert b.rtpSocket owned) ∧
      b.rtpSocket ∉ inUse ∧ b.rtcpSocket ∉ insert b.rtpSocket inUse := by
  induction attempts with
  | nil => intro c hb; cases hb
  | cons a attempts ih =>
    intro c hb hfresh
    rw [boundAttempt, List.find?_cons] at hb
    cases ha : a.rtpBound && a.rtcpBound with
    | true =>
      rw [ha] at hb
      cases hb
      obtain ⟨hrtp, hrtcp⟩ := Bool.and_eq_true_iff.mp ha
      simp only [openPorts, hrtp, hrtcp, if_true] at hfresh ⊢
      obtain ⟨hp, hq, -⟩ := hfresh
      exact ⟨trivial, Function.update_self .., Function.update_self .., trivial, rfl, hp, hq⟩
    | false =>
      rw [ha] at hb
      rw [openPorts_cons ha] at hfresh ⊢
      dsimp only at hfresh ⊢
      rw [uses_append] at hfresh ⊢
      obtain ⟨hreleases, hafter, -, hfresh⟩ := failedRound_spec hsub hfresh
      obtain ⟨hok, hrtp, hrtcp, hrest, hafter', hnew⟩ := ih (c.failedFields ch a) hb hfresh
      refine ⟨hok, hrtp, hrtcp, (releasesOwned_append ..).mpr ⟨hreleases, hafter.symm ▸ hrest⟩,
        ?_, hnew⟩
      rw [after_append, hafter, hafter']

/-! ## The set-up as a whole -/

/-- What the set-up writes before it looks for ports. -/
def udpAsked (c : RtpConnection) (tcp : TcpPeer) (ch : MediaChannelId)
    (rtpPort rtcpPort : UInt16) : RtpConnection :=
  { c with peerAddr := tcp.peerName.getD c.peerAddr }.modifyInfo ch fun info =>
    { info with rtpPort := rtpPort, rtcpPort := rtcpPort }

/-- **What a UDP set-up does to the fields that matter for sending.** `ok` is
whether it found ports. -/
structure UdpSetUp (c : RtpConnection) (tcp : TcpPeer) (ch : MediaChannelId)
    (rtpPort rtcpPort : UInt16) (ok : Bool) (c' : RtpConnection) : Prop where
  isClosed : c'.isClosed = c.isClosed
  hasIDRFrame : c'.hasIDRFrame = c.hasIDRFrame
  transportMode : c'.transportMode = if ok then .rtpOverUdp else c.transportMode
  mediaChannelInfo : c'.mediaChannelInfo = Function.update c.mediaChannelInfo ch
    { c.mediaChannelInfo ch with
      rtpPort := rtpPort
      rtcpPort := rtcpPort
      isSetup := ok || (c.mediaChannelInfo ch).isSetup }
  descriptors : ∀ ch' ≠ ch, c'.rtpfd ch' = c.rtpfd ch' ∧ c'.rtcpfd ch' = c.rtcpfd ch'
  peers : c'.peerRtpAddr = (if ok then Function.update c.peerRtpAddr ch
        ⟨afInet, (tcp.peerName.getD c.peerAddr).addr, htons rtcpPort⟩ else c.peerRtpAddr) ∧
    c'.peerRtcpAddr = (if ok then Function.update c.peerRtcpAddr ch
        ⟨afInet, (tcp.peerName.getD c.peerAddr).addr, htons rtcpPort⟩ else c.peerRtcpAddr)

/-- **The set-up over UDP**: the search for ports, and what it does to the
fields. -/
theorem setupRtpOverUdp_spec (c : RtpConnection) (tcp : TcpPeer) (attempts : Fin 10 → UdpAttempt)
    (ch : MediaChannelId) (rtpPort rtcpPort : UInt16) :
    let r := (c.udpAsked tcp ch rtpPort rtcpPort).openPorts ch (List.ofFn attempts)
    let res := c.setupRtpOverUdp (some tcp) attempts ch rtpPort rtcpPort
    res.1 = r.1 ∧ res.2.2 = r.2.2 ∧ res.2.1.rtpfd = r.2.1.rtpfd ∧ res.2.1.rtcpfd = r.2.1.rtcpfd ∧
      UdpSetUp c tcp ch rtpPort rtcpPort r.1 res.2.1 := by
  intro r res
  obtain ⟨rtpPorts, rtcpPorts, rtpfds, rtcpfds, hframe, hother⟩ :=
    openPorts_frame ch (List.ofFn attempts) (c.udpAsked tcp ch rtpPort rtcpPort)
  rcases hr : r with ⟨ok, e, calls⟩
  have he : e = _ := (congrArg (fun r => r.2.1) hr).symm.trans hframe
  have hres : res = c.setupRtpOverUdp (some tcp) attempts ch rtpPort rtcpPort := rfl
  unfold setupRtpOverUdp at hres
  dsimp only at hres
  rw [show openPorts (modifyInfo _ ch _) ch (List.ofFn attempts) = (ok, e, calls) from hr] at hres
  subst he
  cases ok with
  | false =>
    rw [hres]
    exact ⟨rfl, rfl, rfl, rfl, rfl, rfl, rfl, rfl, hother, rfl, rfl⟩
  | true =>
    rw [hres]
    refine ⟨rfl, rfl, rfl, rfl, rfl, rfl, rfl, ?_, hother, ?_, ?_⟩
    · show Function.update (Function.update c.mediaChannelInfo ch _) ch _ = _
      rw [Function.update_idem]
      simp only [udpAsked, modifyInfo_self]
      rfl
    · simp only [udpAsked, modifyInfo_self]
      rfl
    · simp only [udpAsked, modifyInfo_self]
      rfl

/-- The set-up closes only what it opened. -/
theorem setupRtpOverUdp_releasesOwned {c c' : RtpConnection} {tcp : TcpPeer}
    {attempts : Fin 10 → UdpAttempt} {ch : MediaChannelId} {rtpPort rtcpPort : UInt16} {ok : Bool}
    {calls : List SysCall}
    (hres : c.setupRtpOverUdp (some tcp) attempts ch rtpPort rtcpPort = (ok, c', calls))
    {inUse owned : Finset ℤ} (hsub : owned ⊆ inUse) (hfresh : Fresh inUse (uses calls)) :
    ReleasesOwned owned (uses calls) := by
  obtain ⟨-, hcalls, -⟩ := setupRtpOverUdp_spec c tcp attempts ch rtpPort rtcpPort
  rw [hres] at hcalls
  dsimp only at hcalls
  rw [hcalls] at hfresh ⊢
  cases hbound : boundAttempt (List.ofFn attempts) with
  | none => exact (openPorts_failed hsub _ _ hbound hfresh).2.1
  | some a => exact (openPorts_opened hsub _ _ hbound hfresh).2.2.2.1

end RtpConnection
