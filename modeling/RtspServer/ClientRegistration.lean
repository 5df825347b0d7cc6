import RtspServer.ServerRun

/-!
# Clients and descriptor numbers

A session enters a client under the descriptor number of its connection, and
`addClient` leaves an entry that is already there. Entries are removed when a
packet is fanned out and their `RtpConnection` has expired; `removeClient`,
which a comment in the source says is called when a connection closes, is
called nowhere. A descriptor that is reused before the next packet therefore
meets the entry of its last owner, and the new client is answered with 200
and not entered.

`Registered` is the property that every client that was answered is entered.
It holds in every run in which no DESCRIBE meets such an entry
(`registered_of_run`).
-/

namespace ServerState

/-- **Every open connection whose last DESCRIBE of a session was answered
with 200 is a client of that session**, under its own descriptor and with its
own `RtpConnection`. The descriptor matters because the packets are fanned out
over the entries, and whoever has an entry under a number keeps others out. -/
def Registered (s : ServerState) : Prop :=
  ∀ name c, s.conns name = some c → ∀ id, s.answered name id →
    ∃ session ref, s.world.rtsp.lookMediaSession id = some session ∧
      c.rtpConnPtr = some ref ∧ session.clients.lookup c.tcpConn.fd = some ref

/-- **A DESCRIBE that meets no foreign entry**: if the session it finds has an
entry under the connection's descriptor, that is the connection's own, which is
there when it describes the session once more. A foreign one is left by a
connection that had the number before; `addClient` inserts nothing over it, and
`handleCmdDescribe` does not look at what it returns. -/
def MeetsNoForeignEntry (s : ServerState) : ServerEvent → Prop
  | .request name _ r => r.method = .describe → ∀ c, s.conns name = some c →
    ∀ id session, (s.world.rtsp.lookMediaSessionBySuffix r.getRtspUrlSuffix).1
      = some (id, session) →
    ∀ ref, session.clients.lookup c.tcpConn.fd = some ref → c.rtpConnPtr = some ref
  | _ => True

/-- The property only reads connections, sessions and the record. -/
theorem Registered.of_subset {s s' : ServerState} (hs : s.Registered)
    (hconns : ∀ {name c}, s'.conns name = some c → s.conns name = some c)
    (hans : s'.answered = s.answered)
    (hrtsp : ∀ name c ref id session fd, s'.conns name = some c → c.rtpConnPtr = some ref →
      s.world.rtsp.lookMediaSession id = some session →
      session.clients.lookup fd = some ref → ∃ session',
        s'.world.rtsp.lookMediaSession id = some session' ∧
        session'.clients.lookup fd = some ref) : s'.Registered := by
  intro name c hc id hid
  rw [hans] at hid
  obtain ⟨session, ref, hsession, hptr, hentry⟩ := hs name c (hconns hc) id hid
  obtain ⟨session', hsession', hentry'⟩ := hrtsp name c ref id session _ hc hptr hsession hentry
  exact ⟨session', ref, hsession', hptr, hentry'⟩

/-- A new connection has nothing answered yet. -/
theorem Registered.connect {s : ServerState} (hwf : s.WellFormed) (hs : s.Registered)
    (fd : ℤ) : (s.afterConnect fd).Registered := by
  intro name c hc id hid
  have hname : name ≠ s.nextConn := (hwf.answered_lt hid).ne
  have hc' : s.conns name = some c := by
    rwa [show (s.afterConnect fd).conns name = s.conns name from
      Function.update_of_ne hname ..] at hc
  exact hs name c hc' id hid

/-- Locking the clients of a session keeps the entries of open connections:
their `RtpConnection`s have an owner. -/
theorem Registered.lock {s : ServerState} (hs : s.Registered) {thread : ℕ}
    {id : MediaSessionId} {session : MediaSession RtpRef} {f : Option FanOut}
    {live hasId : RtpRef → Bool} (hsession : s.world.rtsp.lookMediaSession id = some session)
    (hlive : ∀ ref, live ref = true ↔ s.Live ref) :
    Registered { s with
      world := { s.world with
        rtsp := s.world.rtsp.setMediaSession id (session.lockClients live hasId).2 }
      fanOuts := Function.update s.fanOuts thread f } := by
  refine hs.of_subset (fun h => h) rfl fun name c ref id' session' fd hc hptr hlook hentry => ?_
  show ∃ session'', (s.world.rtsp.setMediaSession id _).lookMediaSession id' = some session'' ∧ _
  rw [Rtsp.lookMediaSession_setMediaSession]
  by_cases hid : id' = id
  · subst hid
    rw [hsession, Option.some.injEq] at hlook
    subst hlook
    refine ⟨_, if_pos rfl, ?_⟩
    rw [MediaSession.lookup_lockClients, hentry]
    have hl : live ref = true := (hlive ref).mpr (.inl ⟨name, c, hc, hptr⟩)
    simp only [Option.filter_some, hl, if_true]
  · exact ⟨session', by rw [if_neg hid]; exact hlook, hentry⟩

/-- Only a DESCRIBE that finds the session records an answer. -/
theorem answered_of_answeredAfter {s : ServerState} {name name' : ConnName} {r : RtspRequest}
    {x : Serving} {id : MediaSessionId} (hans : s.answeredAfter name r x name' id)
    (hnot : ¬ (name' = name ∧ r.method = .describe ∧
      (s.world.rtsp.lookMediaSessionBySuffix r.getRtspUrlSuffix).1.map (·.1) = some id)) :
    s.answered name' id := by
  unfold answeredAfter at hans
  rwa [if_neg hnot] at hans

/-- The connections after a request are registered where they were before: the
connection's own object does not change. -/
theorem Registered.entry {s : ServerState} (hs : s.Registered) {name name' : ConnName}
    {env : Env} {r : RtspRequest} {c c' : RtspConnection} {x : Serving} {id : MediaSessionId}
    (hconn : s.conns name = some c)
    (hx : Serving.handleCmd env r { conn := c, world := s.world } = .ok x)
    (hc' : (if name' = name then some x.conn else s.conns name') = some c')
    (hans : s.answered name' id) :
    ∃ session ref, s.world.rtsp.lookMediaSession id = some session ∧
      c'.rtpConnPtr = some ref ∧ session.clients.lookup c'.tcpConn.fd = some ref := by
  by_cases hname : name' = name
  · rw [if_pos hname, Option.some.injEq] at hc'
    subst hname hc'
    obtain ⟨hfd, -, hptr⟩ := handleCmd_conn hx
    obtain ⟨session, ref, hsession, href, hentry⟩ := hs _ c hconn id hans
    refine ⟨session, ref, hsession, ?_, hfd ▸ hentry⟩
    rcases hptr with ⟨hsame, -⟩ | ⟨hnone, -, -⟩
    · exact hsame.trans href
    · rw [hnone] at href
      cases href
  · rw [if_neg hname] at hc'
    exact hs name' c' hc' id hans

/-- A DESCRIBE of a session leaves the entries of the other clients, in this
session and in every other one. -/
theorem Registered.entry_described {s : ServerState} (hwf : s.WellFormed) (hs : s.Registered)
    {name name' : ConnName} {env : Env} {r : RtspRequest} {c c' : RtspConnection} {x : Serving}
    {id fid : MediaSessionId} {fsession session' : MediaSession RtpRef} {ref' : RtpRef}
    (hconn : s.conns name = some c)
    (hx : Serving.handleCmd env r { conn := c, world := s.world } = .ok x)
    (hc' : (if name' = name then some x.conn else s.conns name') = some c')
    (hfound : s.world.rtsp.lookMediaSession fid = some fsession)
    (hclients : session'.clients = (fsession.addClient c.tcpConn.fd ref').2.1.clients)
    (hne : ¬ (name' = name ∧ id = fid)) (hans : s.answered name' id) :
    ∃ session ref,
      (if id = fid then some session' else s.world.rtsp.lookMediaSession id) = some session ∧
      c'.rtpConnPtr = some ref ∧ session.clients.lookup c'.tcpConn.fd = some ref := by
  obtain ⟨session, ref, hsession, href, hentry⟩ := hs.entry hconn hx hc' hans
  by_cases hid : id = fid
  · -- another client of the session that is described
    subst hid
    have hname : name' ≠ name := fun h => hne ⟨h, rfl⟩
    rw [if_neg hname] at hc'
    rw [hfound, Option.some.injEq] at hsession
    subst hsession
    refine ⟨session', ref, if_pos rfl, href, ?_⟩
    rw [hclients, MediaSession.lookup_addClient, if_neg (hwf.fd_ne hc' hconn hname)]
    exact hentry
  · refine ⟨session, ref, ?_, href, hentry⟩
    rw [if_neg hid]
    exact hsession

/-- **A request keeps clients registered**, unless it is a DESCRIBE that
meets a foreign entry. -/
theorem Registered.request {s : ServerState} (hwf : s.WellFormed) (hs : s.Registered)
    {name : ConnName} {env : Env} {r : RtspRequest} {c : RtspConnection} {x : Serving}
    (hgood : s.MeetsNoForeignEntry (.request name env r)) (hconn : s.conns name = some c)
    (hx : Serving.handleCmd env r { conn := c, world := s.world } = .ok x) :
    (s.afterRequest name r x).Registered := by
  intro name' c' hc' id hid
  have hconns : (s.afterRequest name r x).conns name'
      = if name' = name then some x.conn else s.conns name' := Function.update_apply ..
  rw [hconns] at hc'
  have hans : s.answeredAfter name r x name' id := hid
  show ∃ session ref, x.world.rtsp.lookMediaSession id = some session ∧ _
  by_cases hr : r.method = .describe
  · have hxeq : x = Serving.handleCmdDescribe env r { conn := c, world := s.world } :=
      Serving.eq_handleCmdDescribe hx hr
    cases hl : (s.world.rtsp.lookMediaSessionBySuffix r.getRtspUrlSuffix).1 with
    | none =>
      rw [hxeq]
      simp only [(Serving.handleCmdDescribe_notFound env (x := { conn := c, world := s.world })
        hl).2.1]
      refine hs.entry hconn hx hc' (answered_of_answeredAfter hans ?_)
      rw [hl]
      rintro ⟨-, -, h⟩
      cases h
    | some found =>
      obtain ⟨fid, fsession⟩ := found
      obtain ⟨hxconn, ⟨session', ⟨-, hclients⟩, hrtsp⟩, -⟩ := Serving.handleCmdDescribe_found
        env (x := { conn := c, world := s.world }) hl
      rw [← hxeq] at hxconn hrtsp
      have hfound := (Rtsp.lookMediaSessionBySuffix_spec _ _).1 fid fsession hl
      rw [hrtsp]
      by_cases hmatch : name' = name ∧ id = fid
      · -- the client that is described now: its entry is its own, or is made
        obtain ⟨rfl, rfl⟩ := hmatch
        rw [if_pos rfl, Option.some.injEq] at hc'
        subst hc'
        refine ⟨session', _, if_pos rfl, by rw [hxconn], ?_⟩
        rw [hclients, (handleCmd_conn hx).1, MediaSession.lookup_addClient, if_pos rfl,
          Option.some.injEq]
        cases hentry : fsession.clients.lookup c.tcpConn.fd with
        | none => rfl
        | some ref =>
          have hown := hgood hr c hconn id fsession hl ref hentry
          show ref = c.rtpConnPtr.getD s.world.nextRef
          rw [hown]
          rfl
      · refine hs.entry_described hwf hconn hx hc' hfound hclients hmatch
          (answered_of_answeredAfter hans ?_)
        rw [hl]
        rintro ⟨hname, -, hid'⟩
        exact hmatch ⟨hname, (Option.some.inj hid').symm⟩
  · have hsame := Serving.sameOwner_handleCmd hx hr
    rw [hsame.rtsp]
    exact hs.entry hconn hx hc' (answered_of_answeredAfter hans fun h => hr h.2.1)

theorem Registered.step {s s' : ServerState} {e : ServerEvent} (hwf : s.WellFormed)
    (hs : s.Registered) (hgood : s.MeetsNoForeignEntry e) (h : ServerStep s e s') :
    s'.Registered := by
  cases h with
  | connect hfree => exact hs.connect hwf _
  | request hconn hx => exact hs.request hwf hgood hconn hx
  | disconnect hconn =>
    exact hs.of_subset of_update_none rfl
      fun _ _ _ _ session _ _ _ hlook hentry => ⟨session, hlook, hentry⟩
  | closeTcp hconn =>
    exact hs.of_subset (fun h => h) rfl
      fun _ _ _ _ session _ _ _ hlook hentry => ⟨session, hlook, hentry⟩
  | lock hidle hsession hlive => exact hs.lock hsession hlive
  | send hfan hpending =>
    exact hs.of_subset (fun h => h) rfl
      fun _ _ _ _ session _ _ _ hlook hentry => ⟨session, hlook, hentry⟩
  | drop hfan hdone =>
    exact hs.of_subset (fun h => h) rfl
      fun _ _ _ _ session _ _ _ hlook hentry => ⟨session, hlook, hentry⟩
  | runTask hqueue hrun =>
    exact hs.of_subset (fun h => h) rfl
      fun _ _ _ _ session _ _ _ hlook hentry => ⟨session, hlook, hentry⟩

/-- **Every answered client is registered**, in every state that the server
reaches by a run in which no DESCRIBE meets the entry of another
connection. Entries go away only where their `RtpConnection` has expired, and
that of an open connection has not; so what was entered stays. -/
theorem registered_of_run {events : List ServerEvent} {s : ServerState}
    (hrun : (serverSystem.restrict MeetsNoForeignEntry).Run events s) : s.Registered := by
  have hinit : ∀ s, (serverSystem.restrict MeetsNoForeignEntry).init s →
      s.WellFormed ∧ s.Registered := by
    intro s h
    refine ⟨wellFormed_init h, ?_⟩
    obtain ⟨world, rfl, -⟩ := h
    intro name c hc
    cases hc
  have hstep : ∀ s e s', s.WellFormed ∧ s.Registered →
      (serverSystem.restrict MeetsNoForeignEntry).step s e s' →
      s'.WellFormed ∧ s'.Registered :=
    fun s e s' hs h => ⟨hs.1.step h.2, hs.2.step hs.1 h.1 h.2⟩
  exact (hrun.invariant hinit hstep).2

/-! ## A descriptor that is reused -/

/-- The same server after the client has gone. -/
def firstGone : ServerState :=
  { firstClient with
    conns := Function.update firstClient.conns 0 none
    tcp := Function.update firstClient.tcp 0 none }

/-- No connection has the descriptor then. -/
theorem firstGone_tcp (name : ConnName) : firstGone.tcp name ≠ some 7 := by
  intro h
  have hother : (({ world := liveWorld } : ServerState).afterConnect 7).tcp name = some 7 :=
    of_update_none h
  have hname : name ≠ 0 := by
    rintro rfl
    cases h
  rw [show (({ world := liveWorld } : ServerState).afterConnect 7).tcp name = none from
    Function.update_of_ne hname ..] at hother
  cases hother

/-- Another client was given the number and described the session. -/
def secondClient : ServerState := (firstGone.afterConnect 7).describing 1 onSeven

theorem step_secondClient :
    ServerStep (firstGone.afterConnect 7) (.request 1 .quiet describeLive) secondClient :=
  .request rfl rfl

/-- The run continues: the client goes, and its descriptor is given to
another, which describes the session as well. -/
theorem run_secondClient :
    serverSystem.Run ([.connect 7, .request 0 .quiet describeLive] ++ [.disconnect 0]
      ++ [.closeTcp 0] ++ [.connect 7] ++ [.request 1 .quiet describeLive]) secondClient := by
  have hfirst := (run_firstClient (fun _ _ => True) trivial trivial).of_restrict
  have hdisconnect : ServerStep firstClient (.disconnect 0)
      { firstClient with conns := Function.update firstClient.conns 0 none } :=
    .disconnect rfl
  have hclose : ServerStep
      { firstClient with conns := Function.update firstClient.conns 0 none } (.closeTcp 0)
      firstGone :=
    .closeTcp rfl
  have hconnect : ServerStep firstGone (.connect 7) (firstGone.afterConnect 7) :=
    .connect firstGone_tcp
  exact (((hfirst.snoc hdisconnect).snoc hclose).snoc hconnect).snoc
    step_secondClient

/-- The client has gone, and a packet was pushed to the session since. -/
def erased (pkt : RtpPacket) : ServerState :=
  { firstClient with conns := Function.update firstClient.conns 0 none }.afterLock 0 2 .channel0 pkt
    (liveSession.addClient 7 0).2.1 fun _ => false

/-- The media thread is through, and the descriptor is free. -/
def erasedGone (pkt : RtpPacket) : ServerState :=
  { erased pkt with
    fanOuts := Function.update (erased pkt).fanOuts 0 none
    tcp := Function.update (erased pkt).tcp 0 none }

/-- A client describes the session and goes, a packet is pushed, and a second client is given
the descriptor and describes the session. -/
def reusedLater (pkt : RtpPacket) : List ServerEvent :=
  [.connect 7, .request 0 .quiet describeLive] ++ [.disconnect 0] ++ [.lock 0 2 .channel0 pkt] ++
    [.drop 0] ++ [.closeTcp 0] ++ [.connect 7] ++ [.request 1 .quiet describeLive]

/-- **After the next packet the descriptor can be reused**: the fan-out has erased the
entry of its last owner, and the second client is registered. -/
theorem registered_afterErasure : ∃ s pkt,
    (serverSystem.restrict MeetsNoForeignEntry).Run (reusedLater pkt) s ∧ s.Registered ∧
    s.answered 1 2 := by
  let pkt : RtpPacket := { data := .filled 1600 0 }
  have hfirst := run_firstClient MeetsNoForeignEntry trivial fun _ c _ id session hfound ref
      hentry => by
    have hclients := liveWorld_clients id session
      ((Rtsp.lookMediaSessionBySuffix_spec _ _).1 id session hfound)
    rw [hclients] at hentry
    cases hentry
  have hnone : ∀ name,
      ({ firstClient with conns := Function.update firstClient.conns 0 none } :
        ServerState).conns name = none := by
    intro name
    by_cases hname : name = 0
    · rw [hname]
      show Function.update firstClient.conns 0 none 0 = none
      exact Function.update_self ..
    · exact (Function.update_of_ne hname ..).trans (firstClient_conns hname)
  have hdead : ∀ ref, (false = true) ↔ ServerState.Live
      { firstClient with conns := Function.update firstClient.conns 0 none } ref := by
    refine fun ref => iff_of_false (by decide) ?_
    rintro (⟨name, c, hc, -⟩ | ⟨thread, f, hf, -⟩)
    · rw [hnone] at hc
      cases hc
    · cases hf
  have hdisconnect : ServerStep firstClient (.disconnect 0) _ := .disconnect rfl
  have hlock : ServerStep _ (.lock 0 2 .channel0 pkt) (erased pkt) := .lock rfl rfl hdead
  have hdrop : ServerStep (erased pkt) (.drop 0) _ := .drop rfl rfl
  have hclose : ServerStep
      { erased pkt with fanOuts := Function.update (erased pkt).fanOuts 0 none } (.closeTcp 0)
      (erasedGone pkt) := .closeTcp rfl
  have hfree : ∀ name, (erasedGone pkt).tcp name ≠ some 7 := by
    intro name h
    have hother : firstGone.tcp name = some 7 := h
    exact firstGone_tcp name hother
  have hconnect : ServerStep (erasedGone pkt) (.connect 7) ((erasedGone pkt).afterConnect 7) :=
    .connect hfree
  have hsecond : ServerStep ((erasedGone pkt).afterConnect 7) (.request 1 .quiet describeLive) _ :=
    .request rfl rfl
  have hmeets : MeetsNoForeignEntry ((erasedGone pkt).afterConnect 7)
      (.request 1 .quiet describeLive) := by
    intro _ c _ id session hfound ref hentry
    cases hfound
    cases hentry
  have hrun := (((((hfirst.snoc_restrict hdisconnect trivial).snoc_restrict hlock trivial
    ).snoc_restrict hdrop trivial).snoc_restrict hclose trivial).snoc_restrict hconnect trivial
    ).snoc_restrict hsecond hmeets
  refine ⟨_, pkt, hrun, registered_of_run hrun, _, rfl, ?_⟩
  unfold IsOkResponse
  decide

/-- **The second client is answered with 200 and is not entered**: the session
still has the first client's entry under the descriptor. -/
theorem secondClient_not_registered : ¬ ∀ events s, serverSystem.Run events s → s.Registered := by
  intro hall
  have hans : secondClient.answered 1 2 := by
    refine ⟨_, rfl, ?_⟩
    unfold IsOkResponse
    decide
  obtain ⟨session, ref, hsession, hptr, hentry⟩ :=
    hall _ _ run_secondClient 1 _ rfl 2 hans
  have hfirst : (secondClient.world.rtsp.lookMediaSession 2).bind (·.clients.lookup 7)
      = some 0 := by decide
  rw [hsession, Option.bind_some] at hfirst
  have hptr' : (1 : RtpRef) = ref := Option.some.inj hptr
  have hentry' : session.clients.lookup 7 = some ref := hentry
  rw [hfirst, ← hptr'] at hentry'
  cases hentry'

end ServerState
