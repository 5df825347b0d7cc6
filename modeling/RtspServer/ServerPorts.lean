import RtspServer.ClientPorts

/-!
# The server's ports

`setupRtpOverUdp` draws a number, clears all but fifteen of its bits, and binds
two sockets, to the port that is left and to the next. `getRtpPort` and
`getRtcpPort` report what was drawn, and the response to a SETUP announces it.
To `bind` port 0 stands for any free port, so that a round in which nothing is
left of the number drawn ends with a socket on a port that no one is told of
(`announcesBound_iff`).

The system is modelled by the ports that the sockets of the process are bound
to, and the ports that others use.
-/

/-! ## The system -/

/-- The sockets of the process: for a number that is in use, the UDP port that
the socket is bound to, if any. -/
abbrev SocketTable := ℤ → Option (Option UInt16)

/-- **What the system does on a call.** `socket` gives a number that is not in
use; `bind` takes the port asked for, or any for port 0, where no other socket
is bound to it. `used` are the ports of other processes. A `bind` may also be
refused, for whatever reason, and then leaves the socket without a port. -/
inductive Kernel (used : Set UInt16) : SocketTable → SysCall → SocketTable → Prop where
  | socket {t : SocketTable} {fd : ℤ} (hfd : t fd = none) :
      Kernel used t (.socket fd) (Function.update t fd (some none))
  | bind {t : SocketTable} {fd : ℤ} {port p : UInt16} (hfd : t fd = some none)
      (hport : port ≠ 0 → p = port) (hp : p ≠ 0) (hused : p ∉ used)
      (hfree : ∀ fd', t fd' ≠ some (some p)) :
      Kernel used t (.bind fd port true) (Function.update t fd (some (some p)))
  | refuse {t : SocketTable} {fd : ℤ} {port : UInt16} : Kernel used t (.bind fd port false) t
  | close {t : SocketTable} {fd : ℤ} : Kernel used t (.close fd) (Function.update t fd none)

/-- The system, from sockets that are there. -/
def kernelSystem (used : Set UInt16) (t : SocketTable) : System SocketTable SysCall where
  init := (· = t)
  step := Kernel used

/-- **Two sockets bound one after the other** are two, and each has the port
that was asked for, unless that is port 0. -/
theorem Kernel.two_bound {used : Set UInt16} {t t' : SocketTable} {calls : List SysCall}
    {p q : ℤ} {port port' : UInt16}
    (h : (kernelSystem used t).Run (calls ++ [.socket p] ++ [.bind p port true] ++ [.socket q]
      ++ [.bind q port' true]) t') :
    ∃ x y, t' p = some (some x) ∧ t' q = some (some y) ∧ (port ≠ 0 → x = port) ∧ x ≠ 0 ∧
      (port' ≠ 0 → y = port') := by
  -- the run is taken apart from its end, one call at a time
  obtain ⟨t₃, h, hbind'⟩ := h.of_snoc
  obtain ⟨t₂, h, hsocket'⟩ := h.of_snoc
  obtain ⟨t₁, -, hbind⟩ := h.of_snoc
  obtain _ | ⟨-, hport, hx, -, -⟩ := hbind
  obtain ⟨hq⟩ := hsocket'
  obtain _ | ⟨-, hport', -, -, -⟩ := hbind'
  have hne : p ≠ q := by
    rintro rfl
    rw [Function.update_self] at hq
    cases hq
  refine ⟨_, _, ?_, Function.update_self .., hport, hx, hport'⟩
  rw [Function.update_of_ne hne, Function.update_of_ne hne, Function.update_self]

namespace RtpConnection

/-! ## The ports of a set-up -/

/-- What is left of a number drawn is an even port, and the next one is no
smaller. -/
theorem drawnPort_spec (draw : UInt32) :
    (draw &&& 0xfffe).toUInt16.toNat % 2 = 0 ∧
      ((draw &&& 0xfffe).toUInt16 + 1).toNat = (draw &&& 0xfffe).toUInt16.toNat + 1 ∧
      ((draw &&& 0xfffe).toUInt16 = 0 ↔ draw &&& 0xfffe = 0) := by
  have hand : (draw &&& 0xfffe).toNat = draw.toNat &&& 65534 := UInt32.toNat_and ..
  have hle : draw.toNat &&& 65534 ≤ 65534 := Nat.and_le_right
  have heven : (draw.toNat &&& 65534) % 2 = 0 := by
    have h := @Nat.and_mod_two_pow draw.toNat 65534 1
    simpa using h
  have hport : (draw &&& 0xfffe).toUInt16.toNat = draw.toNat &&& 65534 := by
    rw [UInt32.toNat_toUInt16, hand]
    exact Nat.mod_eq_of_lt (by omega)
  refine ⟨by rw [hport, heven], ?_, ?_⟩
  · rw [UInt16.toNat_add, hport]
    exact Nat.mod_eq_of_lt (by show (draw.toNat &&& 65534) + 1 < 65536; omega)
  · rw [← UInt16.toNat_inj, ← UInt32.toNat_inj, hport, hand]
    rfl

/-- **The calls of a search that succeeds** end with those of the round that
succeeds, whose ports and sockets are the ones in the fields. -/
theorem openPorts_calls (ch : MediaChannelId) (attempts : List UdpAttempt) :
    ∀ c : RtpConnection, (c.openPorts ch attempts).1 = true → ∃ b calls,
      boundAttempt attempts = some b ∧
      (c.openPorts ch attempts).2.2 = calls ++ [.socket b.rtpSocket]
        ++ [.bind b.rtpSocket (b.draw &&& 0xfffe).toUInt16 true] ++ [.socket b.rtcpSocket]
        ++ [.bind b.rtcpSocket ((b.draw &&& 0xfffe).toUInt16 + 1) true] ∧
      (c.openPorts ch attempts).2.1.localRtpPort ch = (b.draw &&& 0xfffe).toUInt16 ∧
      (c.openPorts ch attempts).2.1.localRtcpPort ch = (b.draw &&& 0xfffe).toUInt16 + 1 ∧
      (c.openPorts ch attempts).2.1.rtpfd ch = b.rtpSocket ∧
      (c.openPorts ch attempts).2.1.rtcpfd ch = b.rtcpSocket := by
  induction attempts with
  | nil => intro c hok; cases hok
  | cons a attempts ih =>
    intro c hok
    rw [boundAttempt, List.find?_cons]
    cases ha : a.rtpBound && a.rtcpBound with
    | true =>
      obtain ⟨hrtp, hrtcp⟩ := Bool.and_eq_true_iff.mp ha
      simp only [openPorts, hrtp, hrtcp, if_true]
      exact ⟨a, [], rfl, rfl, Function.update_self .., Function.update_self ..,
        Function.update_self .., Function.update_self ..⟩
    | false =>
      rw [openPorts_cons ha] at hok ⊢
      obtain ⟨b, calls, hbound, hcalls, hports⟩ := ih (c.failedFields ch a) hok
      refine ⟨b, failedRound a ++ calls, hbound, ?_, hports⟩
      dsimp only
      rw [hcalls]
      simp only [List.append_assoc]

/-- The set-up reports the ports of the search. -/
theorem setupRtpOverUdp_ports (c : RtpConnection) (tcp : TcpPeer) (attempts : Fin 10 → UdpAttempt)
    (ch : MediaChannelId) (rtpPort rtcpPort : UInt16) :
    let r := (c.udpAsked tcp ch rtpPort rtcpPort).openPorts ch (List.ofFn attempts)
    let res := c.setupRtpOverUdp (some tcp) attempts ch rtpPort rtcpPort
    res.2.1.localRtpPort = r.2.1.localRtpPort ∧ res.2.1.localRtcpPort = r.2.1.localRtcpPort := by
  intro r res
  rcases hr : r with ⟨ok, e, calls⟩
  have hres : res = c.setupRtpOverUdp (some tcp) attempts ch rtpPort rtcpPort := rfl
  unfold setupRtpOverUdp at hres
  dsimp only at hres
  rw [show openPorts (modifyInfo _ ch _) ch (List.ofFn attempts) = (ok, e, calls) from hr] at hres
  cases ok with
  | false => rw [hres]; exact ⟨rfl, rfl⟩
  | true => rw [hres]; exact ⟨rfl, rfl⟩

/-- **The sockets of a channel are bound to the ports that it reports**, an
even port and its successor, as RTP and RTCP have them. The table is the
kernel's: a socket that was bound to port 0 has there the port that the kernel
chose. -/
structure BoundToLocal (c : RtpConnection) (ch : MediaChannelId) (t : SocketTable) : Prop where
  rtp : t (c.rtpfd ch) = some (some (c.localRtpPort ch))
  rtcp : t (c.rtcpfd ch) = some (some (c.localRtcpPort ch))
  even : (c.localRtpPort ch).toNat % 2 = 0
  succ : (c.localRtcpPort ch).toNat = (c.localRtpPort ch).toNat + 1

/-- **The round that finds ports draws one**: what is left of the number is
not 0. The source clears the lowest bit of a random number and keeps sixteen; one
in 2^15 gives 0, and a socket that is bound to 0 is given some port that nobody
asks for. -/
def DrawsPort (attempts : Fin 10 → UdpAttempt) : Prop :=
  ∀ a, boundAttempt (List.ofFn attempts) = some a → a.draw &&& 0xfffe ≠ 0

/-- **A set-up over UDP that returns `true` reports the ports of its sockets**
if and only if it drew one. -/
theorem boundToLocal_iff {c c' : RtpConnection} {tcpConn : Option TcpPeer}
    {attempts : Fin 10 → UdpAttempt} {ch : MediaChannelId} {rtpPort rtcpPort : UInt16}
    {calls : List SysCall}
    (hres : c.setupRtpOverUdp tcpConn attempts ch rtpPort rtcpPort = (true, c', calls))
    {used : Set UInt16} {t t' : SocketTable} (hrun : (kernelSystem used t).Run calls t') :
    c'.BoundToLocal ch t' ↔ DrawsPort attempts := by
  cases tcpConn with
  | none => cases hres
  | some tcp =>
    obtain ⟨hok, hcalls, hrtpfd, hrtcpfd, -⟩ :=
      setupRtpOverUdp_spec c tcp attempts ch rtpPort rtcpPort
    obtain ⟨hrtp, hrtcp⟩ := setupRtpOverUdp_ports c tcp attempts ch rtpPort rtcpPort
    rw [hres] at hok hcalls hrtpfd hrtcpfd hrtp hrtcp
    dsimp only at hok hcalls hrtpfd hrtcpfd hrtp hrtcp
    obtain ⟨b, front, hbound, hend, hports⟩ := openPorts_calls ch _ _ hok.symm
    rw [← hrtp, ← hrtcp, ← hrtpfd, ← hrtcpfd] at hports
    rw [← hcalls] at hend
    subst hend
    obtain ⟨hlocal, hlocal', hp, hq⟩ := hports
    obtain ⟨x, y, hx, hy, hport, hzero, hport'⟩ := Kernel.two_bound hrun
    obtain ⟨heven, hsucc, hnone⟩ := drawnPort_spec b.draw
    have hdraws : DrawsPort attempts ↔ (b.draw &&& 0xfffe).toUInt16 ≠ 0 := by
      refine Iff.trans ⟨fun h => h b hbound, fun h a ha => ?_⟩ (not_congr hnone).symm
      rw [hbound] at ha
      cases ha
      exact h
    -- the RTCP port is never 0: the RTP port is even, so that adding 1 does not wrap
    have hnext : (b.draw &&& 0xfffe).toUInt16 + 1 ≠ 0 := by
      intro h
      rw [h] at hsucc
      exact Nat.succ_ne_zero _ hsucc.symm
    rw [hdraws]
    constructor
    · rintro ⟨hbound, -, -, -⟩ heq
      -- what is reported is 0, and no socket is bound to that
      rw [hp, hlocal, hx, heq] at hbound
      exact hzero (Option.some.inj (Option.some.inj hbound))
    · intro hdrawn
      refine ⟨?_, ?_, ?_, ?_⟩
      · rw [hp, hlocal, hx, hport hdrawn]
      · rw [hq, hlocal', hy, hport' hnext]
      · rw [hlocal, heven]
      · rw [hlocal, hlocal', hsucc]

end RtpConnection

/-! ## The ports of a response -/

/-- A response to `r` that announces the ports `p` and `q` of the server. -/
def RtspRequest.AnnouncesPorts (r : RtspRequest) (message : Bytes) (p q : UInt16) : Prop :=
  ∃ session, message = response "200 OK"
    [r.cseqLine, ascii "Transport: RTP/AVP;unicast;client_port=" ++ (decimal r.getRtpPort.toNat
      ++ (0x2d :: (decimal r.getRtcpPort.toNat ++ (ascii ";server_port=" ++ (decimal p.toNat
        ++ ascii "-" ++ decimal q.toNat))))), session]

namespace Serving

/-- **The client is told the ports that its sockets are bound to**: after a
SETUP that leads from `x` to `x'` the object of the connection is bound to what
it reports, and every message that was sent announces this. -/
def AnnouncesBound (x : Serving) (r : RtspRequest) (x' : Serving) (t : SocketTable) : Prop :=
  ∃ c, x'.object = some c ∧ c.BoundToLocal r.channelId t ∧
    ∀ m ∈ x'.sent.drop x.sent.length,
      r.AnnouncesPorts m (c.localRtpPort r.channelId) (c.localRtcpPort r.channelId)

/-- **A SETUP over UDP announces the ports of its sockets** if and only if the
round that finds ports has drawn one. What the kernel does with the calls of the
set-up is a run of its own, with some ports used by others; it binds a socket to
what was asked for, or refuses, and chooses only where port 0 was asked for. -/
theorem announcesBound_iff {env : Env} {r : RtspRequest} {x x' : Serving}
    (h : x.handleCmdSetup env r = .ok x')
    (hudp : (x.setupRecord env r x').outcome = some .rtpOverUdp) {used : Set UInt16}
    {t t' : SocketTable} (hrun : (kernelSystem used t).Run (x.setupRecord env r x').calls t') :
    x.AnnouncesBound r x' t' ↔ RtpConnection.DrawsPort env.attempts := by
  cases handleCmdSetup_cases h with
  | refused hasks _ =>
    rw [Streaming.outcome_of_not_udp (by rw [hasks]; exact nofun), hasks] at hudp
    cases hudp
  | tcp hasks ref href _ =>
    rw [Streaming.outcome_of_not_udp (by rw [hasks]; exact nofun), hasks] at hudp
    cases hudp
  | udp hasks ref href ok c calls hres hx' =>
    obtain ⟨hcalls, hsucceeded⟩ : (x.setupRecord env r x').calls = calls ∧
        (x.setupRecord env r x').succeeded = ok := Streaming.record_of_udp href hasks hres
    obtain rfl : ok = true := by
      unfold SetupRecord.outcome at hudp
      rw [hsucceeded] at hudp
      cases ok with
      | false => cases hudp
      | true => rfl
    rw [hcalls] at hrun
    have hobject : x'.object = some c := by
      unfold object
      rw [hx', Streaming.conn_answerWith, href]
      exact congrArg some (Streaming.rtpConn_answerWith ..)
    rw [← RtpConnection.boundToLocal_iff hres hrun]
    constructor
    · rintro ⟨c', hc', hbound, -⟩
      rw [hobject] at hc'
      cases hc'
      exact hbound
    · intro hbound
      refine ⟨c, hobject, hbound, fun m hm => ?_⟩
      rw [hx'] at hm
      rw [@Streaming.messages_answerWith env r x ref c _ m hm]
      exact ⟨_, RtspRequest.buildSetupUdpRes_eq ..⟩

/-! ## Two draws -/

/-- Both ports of the pair that `draw` gives are free. -/
def drawing (draw : UInt32) : Env :=
  { Streaming.freePorts with attempts := fun _ => ⟨draw, 8, true, 9, true⟩ }

/-- A SETUP of a client that described its session. -/
def setupDescribed (draw : UInt32) : Except Fault Serving :=
  Streaming.described.serving.handleCmdSetup (drawing draw)
    (Streaming.setupRequest .channel0 .rtpOverUdp)

/-- Its TCP connection is the only descriptor. -/
def onlySeven : SocketTable := Function.update (fun _ => none) 7 (some none)

/-- The sockets when the system has given the two new ones the ports `p` and
`q`. -/
def bothBound (p q : UInt16) : SocketTable :=
  Function.update (Function.update (Function.update (Function.update onlySeven 8
    (some none)) 8 (some (some p))) 9 (some none)) 9 (some (some q))

/-- A port stays free when another entry is written. -/
theorem free_update {t : SocketTable} {p : UInt16} (h : ∀ fd, t fd ≠ some (some p)) (fd : ℤ)
    {entry : Option (Option UInt16)} (hentry : entry ≠ some (some p)) (fd' : ℤ) :
    Function.update t fd entry fd' ≠ some (some p) := by
  by_cases hfd : fd' = fd
  · subst hfd
    rw [Function.update_self]
    exact hentry
  · rw [Function.update_of_ne hfd]
    exact h fd'

theorem run_bothBound (draw : UInt32) (x' : Serving) {p q : UInt16}
    (hport : (draw &&& 0xfffe).toUInt16 ≠ 0 → p = (draw &&& 0xfffe).toUInt16)
    (hport' : (draw &&& 0xfffe).toUInt16 + 1 ≠ 0 → q = (draw &&& 0xfffe).toUInt16 + 1)
    (hp : p ≠ 0) (hq : q ≠ 0) (hpq : p ≠ q) :
    (kernelSystem ∅ onlySeven).Run (Streaming.described.serving.setupRecord (drawing draw)
      (Streaming.setupRequest .channel0 .rtpOverUdp) x').calls (bothBound p q) := by
  have hnone : ∀ n : UInt16, (none : Option (Option UInt16)) ≠ some (some n) ∧
      (some none : Option (Option UInt16)) ≠ some (some n) := fun _ => ⟨nofun, nofun⟩
  have hfree : ∀ n fd, onlySeven fd ≠ some (some n) := fun n =>
    free_update (fun _ => (hnone n).1) 7 (hnone n).2
  have hopen : ∀ n fd, Function.update onlySeven 8 (some none) fd ≠ some (some n) := fun n =>
    free_update (hfree n) 8 (hnone n).2
  have hne : some (some p) ≠ some (some q) := fun h =>
    hpq (Option.some.inj (Option.some.inj h))
  have hstart : (kernelSystem ∅ onlySeven).Run [] onlySeven := .nil rfl
  have hsocket := hstart.snoc (show Kernel ∅ _ (.socket 8) _ from .socket rfl)
  have hbind := hsocket.snoc (show Kernel ∅ _ (.bind 8 (draw &&& 0xfffe).toUInt16 true) _ from
    .bind (Function.update_self ..) hport hp (Set.notMem_empty p) (hopen p))
  have hsocket' := hbind.snoc (show Kernel ∅ _ (.socket 9) _ from .socket rfl)
  exact hsocket'.snoc (show Kernel ∅ _ (.bind 9 ((draw &&& 0xfffe).toUInt16 + 1) true) _ from
    .bind (Function.update_self ..) hport' hq (Set.notMem_empty q)
      (free_update (free_update (hopen q) 8 hne) 9 (hnone q).2))

/-- `announcesBound_iff` for a pair of ports that was drawn. -/
theorem announcesBound_described : ∃ x', setupDescribed 20003 = .ok x' ∧
    Streaming.described.serving.AnnouncesBound (Streaming.setupRequest .channel0 .rtpOverUdp) x'
      (bothBound 20002 20003) := by
  refine ⟨_, rfl, (announcesBound_iff rfl rfl (run_bothBound 20003 _ (fun _ => rfl) (fun _ => rfl)
    (by decide) (by decide) (by decide))).mpr ?_⟩
  intro a ha
  cases ha
  decide

/-- **A draw of 1**: the response announces port 0, and the socket is bound to
a port that the system chose. -/
theorem not_announcesBound_zero : ¬ ∀ (env : Env) (r : RtspRequest) (x x' : Serving)
    (used : Set UInt16) (t t' : SocketTable), x.handleCmdSetup env r = .ok x' →
    (x.setupRecord env r x').outcome = some .rtpOverUdp →
    (kernelSystem used t).Run (x.setupRecord env r x').calls t' → x.AnnouncesBound r x' t' := by
  intro h
  obtain ⟨c, hc, hbound, -⟩ := h (drawing 1) (Streaming.setupRequest .channel0 .rtpOverUdp)
    Streaming.described.serving _ ∅ onlySeven (bothBound 40000 1) rfl rfl
    (run_bothBound 1 _ (fun h => absurd rfl h) (fun _ => rfl) (by decide) (by decide) (by decide))
  cases hc
  have hport : some (some (40000 : UInt16)) = some (some 0) := hbound.rtp
  exact absurd hport (by decide)

end Serving
