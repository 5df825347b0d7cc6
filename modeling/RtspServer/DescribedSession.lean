import RtspServer.ServerRun
import RtspServer.SessionTables

/-!
# The session that a connection is a client of

A connection has one `RtpConnection`, which a DESCRIBE enters in the client
map of the session that it finds, and remembers one session id, that of the
last DESCRIBE. No DESCRIBE takes the `RtpConnection` out of another session.
A connection that describes one session only is a client of that session and
no other, and is sent the packets of that session only; a DESCRIBE of a second
session always ends this (`onlyDescribed_of_run`).
-/

namespace Rtsp

variable {ρ : Type}

/-- **Every session is stored under its own id.** -/
def OwnIds (t : Rtsp ρ) : Prop :=
  ∀ id session, t.lookMediaSession id = some session → session.sessionId = id

theorem OwnIds.setMediaSession {t : Rtsp ρ} (ht : t.OwnIds) {id : MediaSessionId}
    {session : MediaSession ρ} (h : session.sessionId = id) :
    (t.setMediaSession id session).OwnIds := by
  intro id' session' hlook
  rw [lookMediaSession_setMediaSession] at hlook
  split at hlook
  · next hid =>
    cases hlook
    rw [h, hid]
  · exact ht id' session' hlook

/-- An operation leads to no session that was not there, but the one it
adds. -/
theorem OwnIds.of_subset {t t' : Rtsp ρ} (ht : t.OwnIds)
    (h : ∀ id session, t'.lookMediaSession id = some session →
      t.lookMediaSession id = some session ∨ session.sessionId = id) : t'.OwnIds := by
  intro id session hlook
  rcases h id session hlook with hold | hnew
  · exact ht id session hold
  · exact hnew

theorem OwnIds.addMediaSession {t : Rtsp ρ} (ht : t.OwnIds) (session : MediaSession ρ) :
    (t.addMediaSession session).2.OwnIds := by
  refine ht.of_subset fun id session' hlook => ?_
  unfold Rtsp.addMediaSession at hlook
  by_cases htaken : (t.rtspSuffixMap.lookup session.suffix).isSome
  · rw [if_pos htaken] at hlook
    exact .inl hlook
  · rw [if_neg htaken] at hlook
    by_cases hid : (t.mediaSessions.lookup session.sessionId).isSome
    · rw [lookMediaSession] at hlook
      rw [if_pos hid] at hlook
      exact .inl hlook
    · rw [lookMediaSession] at hlook
      dsimp only at hlook
      rw [if_neg hid] at hlook
      by_cases heq : id = session.sessionId
      · subst heq
        rw [AList.lookup_insert] at hlook
        cases hlook
        exact .inr rfl
      · rw [AList.lookup_insert_ne heq] at hlook
        exact .inl hlook

theorem OwnIds.removeMediaSession {t t' : Rtsp ρ} (ht : t.OwnIds) {sessionId : MediaSessionId}
    (h : t.removeMediaSession sessionId = .ok t') : t'.OwnIds := by
  unfold Rtsp.removeMediaSession at h
  cases hlook : t.mediaSessions.lookup sessionId with
  | none =>
    rw [hlook] at h
    cases h
    exact ht
  | some found =>
    cases found with
    | none =>
      rw [hlook] at h
      cases h
    | some session =>
      rw [hlook] at h
      cases h
      refine ht.of_subset fun id session' hlook' => .inl ?_
      rw [lookMediaSession] at hlook'
      dsimp only at hlook'
      by_cases hid : id = sessionId
      · rw [hid, AList.lookup_erase] at hlook'
        cases hlook'
      · rwa [AList.lookup_erase_ne hid] at hlook'

/-- **The operations of the tables store every session under its id.** -/
theorem ownIds_of_run {events : List (TableEvent ρ)} {t : Rtsp ρ}
    (hrun : (tableSystem ρ).Run events t) : t.OwnIds := by
  have hinit : ∀ t, (tableSystem ρ).init t → t.OwnIds := by
    rintro t ⟨version, rfl⟩ id session hlook
    cases hlook
  have hstep : ∀ t e t', t.OwnIds → (tableSystem ρ).step t e t' → t'.OwnIds := by
    rintro t e t' ht ⟨-, hexec⟩
    cases e with
    | addMediaSession session =>
      cases hexec
      exact ht.addMediaSession session
    | removeMediaSession sessionId => exact ht.removeMediaSession hexec
    | lookMediaSessionBySuffix suffix =>
      cases hexec
      refine ht.of_subset fun id session hlook => .inl ?_
      rwa [(lookMediaSessionBySuffix_spec t suffix).2] at hlook
    | lookMediaSession sessionId =>
      cases hexec
      exact ht
    | pushFrame now heap live hasId sessionId channelId frame =>
      obtain ⟨⟨ret, t''⟩, hpush, rfl⟩ := Except.map_eq_ok_iff.mp hexec
      rcases pushFrame_spec hpush with rfl | ⟨session, clients, hlook, rfl⟩
      · exact ht
      · exact ht.setMediaSession (ht sessionId session hlook)
    | setRtspUrlSuffix sessionId suffix =>
      unfold exec at hexec
      cases hlook : t.lookMediaSession sessionId with
      | none =>
        simp only [hlook] at hexec
        cases hexec
        exact ht
      | some session =>
        simp only [hlook] at hexec
        cases hexec
        exact ht.setMediaSession (ht sessionId session hlook)
  exact hrun.invariant hinit hstep

end Rtsp

namespace ServerState

/-- **The `RtpConnection` is a client of the session**: there is an entry for it, under
whatever descriptor. -/
def ClientOf (s : ServerState) (ref : RtpRef) (id : MediaSessionId) : Prop :=
  ∃ session fd, s.world.rtsp.lookMediaSession id = some session ∧
    session.clients.lookup fd = some ref

/-- **A connection is a client only of the session it last described.** This
is the session whose tracks its SETUPs look up and whose packets it should get;
as a client of another one it is sent that one's packets, too, over the same
channels. -/
def OnlyDescribed (s : ServerState) (name : ConnName) : Prop :=
  ∀ c ref id, s.conns name = some c → c.rtpConnPtr = some ref → s.ClientOf ref id →
    id = c.sessionId

/-- **A DESCRIBE that finds a session finds the only one** that its
`RtpConnection` is a client of, if it is one already. The source adds the
client to what it finds and takes it out of nothing: `removeClient` is called
nowhere, and the entry of a session described before is left in place. So
another session may be described only when none was. -/
def DescribesOne (name : ConnName) (s : ServerState) : ServerEvent → Prop
  | .request name' _ r => name' = name → r.method = .describe → ∀ id session,
    (s.world.rtsp.lookMediaSessionBySuffix r.getRtspUrlSuffix).1 = some (id, session) →
    ∀ ref id', s.OwnedBy name ref → s.ClientOf ref id' → id' = id
  | _ => True

/-- The server with sessions that the operations of the tables have made. -/
def describedSystem : System ServerState ServerEvent where
  init s := serverSystem.init s ∧ ∃ events, (Rtsp.tableSystem RtpRef).Run events s.world.rtsp
  step := ServerStep

/-- **What the server knows of its clients**: references that were given.
Then a new `RtpConnection`, whose reference is the next number, is a client of
no session yet. -/
structure ClientsKnown (s : ServerState) : Prop where
  wellFormed : s.WellFormed
  ownIds : s.world.rtsp.OwnIds
  client_lt : ∀ {ref id}, s.ClientOf ref id → ref < s.world.nextRef
  held_lt : ∀ {thread ref}, s.HeldBy thread ref → ref < s.world.nextRef

/-! ## What a request does to the clients -/

/-- **A request changes no session**, or it is a DESCRIBE that finds one: then
this has the connection's `RtpConnection` entered, and is remembered. -/
theorem handleCmd_sessions {env : Env} {r : RtspRequest} {x x' : Serving}
    (h : x.handleCmd env r = .ok x') :
    ((r.method = .describe → (x.world.rtsp.lookMediaSessionBySuffix r.getRtspUrlSuffix).1 = none) ∧
      x'.conn.sessionId = x.conn.sessionId ∧
      ∀ id, x'.world.rtsp.lookMediaSession id = x.world.rtsp.lookMediaSession id) ∨
    ∃ id session session', r.method = .describe ∧
      (x.world.rtsp.lookMediaSessionBySuffix r.getRtspUrlSuffix).1 = some (id, session) ∧
      x.world.rtsp.lookMediaSession id = some session ∧
      x'.conn.sessionId = session.sessionId ∧ x'.conn.rtpConnPtr = some x.describedRef ∧
      session'.sessionId = session.sessionId ∧
      session'.clients = (session.addClient x.conn.tcpConn.fd x.describedRef).2.1.clients ∧
      ∀ id', x'.world.rtsp.lookMediaSession id'
        = if id' = id then some session' else x.world.rtsp.lookMediaSession id' := by
  by_cases hr : r.method = .describe
  · have hx : x' = x.handleCmdDescribe env r := Serving.eq_handleCmdDescribe h hr
    subst hx
    cases hl : (x.world.rtsp.lookMediaSessionBySuffix r.getRtspUrlSuffix).1 with
    | none =>
      obtain ⟨hconn, hlook, -⟩ := Serving.handleCmdDescribe_notFound env hl
      exact .inl ⟨fun _ => rfl, by rw [hconn], hlook⟩
    | some found =>
      obtain ⟨id, session⟩ := found
      obtain ⟨hconn, ⟨session', ⟨hid, hclients⟩, hlook⟩, -⟩ :=
        Serving.handleCmdDescribe_found env hl
      have hfound := (Rtsp.lookMediaSessionBySuffix_spec _ _).1 id session hl
      exact .inr ⟨id, session, session', hr, rfl, hfound, by rw [hconn], by rw [hconn], hid,
        hclients, hlook⟩
  · have hsame := Serving.sameOwner_handleCmd h hr
    exact .inl ⟨fun h => absurd h hr, hsame.sessionId, fun id => by rw [hsame.rtsp]⟩

variable {s s' : ServerState} {name name' : ConnName} {env : Env} {r : RtspRequest}
  {c : RtspConnection} {x : Serving} {ref : RtpRef} {id : MediaSessionId}

/-- A client stays one when a request is handled. -/
theorem ClientOf.request (hx : Serving.handleCmd env r { conn := c, world := s.world } = .ok x)
    (h : s.ClientOf ref id) : (s.afterRequest name r x).ClientOf ref id := by
  obtain ⟨session, fd, hlook, hentry⟩ := h
  rcases handleCmd_sessions hx with
    ⟨-, -, hsame⟩ | ⟨id', session', after, -, -, hfound, -, -, -, hclients, hafter⟩
  · exact ⟨session, fd, (hsame id).trans hlook, hentry⟩
  · dsimp only at hfound hclients hafter
    by_cases hid : id = id'
    · subst hid
      rw [hlook, Option.some.injEq] at hfound
      subst hfound
      refine ⟨after, fd, (hafter id).trans (if_pos rfl), ?_⟩
      rw [hclients, MediaSession.lookup_addClient]
      by_cases hfd : fd = c.tcpConn.fd
      · rw [if_pos hfd, ← hfd, hentry]
        rfl
      · rw [if_neg hfd, hentry]
    · exact ⟨session, fd, (hafter id).trans ((if_neg hid).trans hlook), hentry⟩

/-- **A client after a request** was one before, or is the `RtpConnection` of
the connection, in the session that the connection remembers. -/
theorem ClientOf.of_request (hids : s.world.rtsp.OwnIds)
    (hx : Serving.handleCmd env r { conn := c, world := s.world } = .ok x)
    (h : (s.afterRequest name r x).ClientOf ref id) :
    s.ClientOf ref id ∨ (x.conn.rtpConnPtr = some ref ∧ id = x.conn.sessionId) := by
  obtain ⟨session, fd, hlook, hentry⟩ := h
  have hlook' : x.world.rtsp.lookMediaSession id = some session := hlook
  rcases handleCmd_sessions hx with
    ⟨-, -, hsame⟩ | ⟨id', session', after, -, -, hfound, hremembered, hptr, -, hclients, hafter⟩
  · exact .inl ⟨session, fd, (hsame id).symm.trans hlook', hentry⟩
  · dsimp only at hfound hclients hafter
    rw [hafter] at hlook'
    by_cases hid : id = id'
    · rw [if_pos hid, Option.some.injEq] at hlook'
      rw [← hlook', hclients, MediaSession.lookup_addClient] at hentry
      by_cases hfd : fd = c.tcpConn.fd
      · rw [if_pos hfd, Option.some.injEq] at hentry
        cases hold : session'.clients.lookup c.tcpConn.fd with
        | none =>
          rw [hold] at hentry
          refine .inr ⟨hptr.trans (congrArg some hentry), ?_⟩
          rw [hremembered, hids id' session' hfound, hid]
        | some ref' =>
          rw [hold] at hentry
          exact .inl ⟨session', c.tcpConn.fd, hid ▸ hfound, hold.trans (congrArg some hentry)⟩
      · rw [if_neg hfd] at hentry
        exact .inl ⟨session', fd, hid ▸ hfound, hentry⟩
    · rw [if_neg hid] at hlook'
      exact .inl ⟨session, fd, hlook', hentry⟩

/-! ## What a media thread does to the clients -/

/-- Locking a session's clients erases the expired ones and enters none. -/
theorem clientOf_lock_iff {thread : ℕ} {id' : MediaSessionId} {ch : MediaChannelId}
    {pkt : RtpPacket} {session : MediaSession RtpRef} {live : RtpRef → Bool}
    (hsession : s.world.rtsp.lookMediaSession id' = some session) :
    (s.afterLock thread id' ch pkt session live).ClientOf ref id ↔
      s.ClientOf ref id ∧ (id = id' → live ref = true) := by
  have hlook : ∀ id, (s.afterLock thread id' ch pkt session live).world.rtsp.lookMediaSession id
      = if id = id' then some (session.lockClients live
          fun ref => (s.tcp (s.tcpOf ref)).isSome).2 else s.world.rtsp.lookMediaSession id :=
    fun id => Rtsp.lookMediaSession_setMediaSession ..
  unfold ClientOf
  rw [hlook]
  by_cases hid : id = id'
  · subst hid
    rw [if_pos rfl, hsession]
    constructor
    · rintro ⟨_, fd, ⟨rfl⟩, hentry⟩
      rw [MediaSession.lookup_lockClients, Option.filter_eq_some_iff] at hentry
      exact ⟨⟨session, fd, rfl, hentry.1⟩, fun _ => hentry.2⟩
    · rintro ⟨⟨_, fd, ⟨rfl⟩, hentry⟩, hlive⟩
      refine ⟨_, fd, rfl, ?_⟩
      rw [MediaSession.lookup_lockClients, Option.filter_eq_some_iff]
      exact ⟨hentry, hlive rfl⟩
  · rw [if_neg hid]
    exact ⟨fun h => ⟨h, fun heq => absurd heq hid⟩, fun h => h.1⟩

/-- A media thread holds what it held, or the clients that it locks. -/
theorem HeldBy.of_lock {thread thread' : ℕ} {id' : MediaSessionId} {ch : MediaChannelId}
    {pkt : RtpPacket} {session : MediaSession RtpRef} {live : RtpRef → Bool}
    (hsession : s.world.rtsp.lookMediaSession id' = some session)
    (h : (s.afterLock thread id' ch pkt session live).HeldBy thread' ref) :
    (thread' ≠ thread ∧ s.HeldBy thread' ref) ∨
      (thread' = thread ∧ s.ClientOf ref id' ∧ live ref = true) := by
  obtain ⟨f, hf, hmem⟩ := h
  have hfan : (s.afterLock thread id' ch pkt session live).fanOuts thread'
      = if thread' = thread then some ⟨ch, pkt, (session.lockClients live
          fun ref => (s.tcp (s.tcpOf ref)).isSome).1, (session.lockClients live
          fun ref => (s.tcp (s.tcpOf ref)).isSome).1⟩ else s.fanOuts thread' :=
    Function.update_apply ..
  rw [hfan] at hf
  by_cases hthread : thread' = thread
  · rw [if_pos hthread] at hf
    cases hf
    obtain ⟨⟨fd, hentry⟩, hlive, -⟩ := MediaSession.mem_lockClients.mp hmem
    exact .inr ⟨hthread, ⟨session, fd, hsession, hentry⟩, hlive⟩
  · rw [if_neg hthread] at hf
    exact .inl ⟨hthread, f, hf, hmem⟩

/-- A step that is neither a request nor a lock leaves the clients alone, and
no thread holds more. -/
theorem HeldBy.of_update {thread thread' : ℕ} {f : Option FanOut}
    (hfan : s'.fanOuts = Function.update s.fanOuts thread f)
    (hf : ∀ g, f = some g → ∃ g', s.fanOuts thread = some g' ∧ g.held = g'.held)
    (h : s'.HeldBy thread' ref) : s.HeldBy thread' ref := by
  obtain ⟨g, hg, hmem⟩ := h
  rw [hfan] at hg
  by_cases hthread : thread' = thread
  · subst hthread
    rw [Function.update_self] at hg
    obtain ⟨g', hg', hheld⟩ := hf g hg
    exact ⟨g', hg', hheld ▸ hmem⟩
  · rw [Function.update_of_ne hthread] at hg
    exact ⟨g, hg, hmem⟩

/-- **Every step keeps what is known of the clients.** -/
theorem ClientsKnown.step {e : ServerEvent} (hs : s.ClientsKnown) (h : ServerStep s e s') :
    s'.ClientsKnown := by
  have hwf := hs.wellFormed.step h
  cases h with
  | connect hfree => exact ⟨hwf, hs.ownIds, hs.client_lt, hs.held_lt⟩
  | request hconn hx =>
    have hnext := (handleCmd_conn hx).2.1
    refine ⟨hwf, fun id session hlook => ?_, fun hclient => ?_, fun hheld => ?_⟩
    · rcases handleCmd_sessions hx with
        ⟨-, -, hsame⟩ | ⟨id', session', after, -, -, hfound, -, -, hid, -, hafter⟩
      · exact hs.ownIds id session ((hsame id).symm.trans hlook)
      · have hlook' := (hafter id).symm.trans hlook
        by_cases heq : id = id'
        · rw [if_pos heq, Option.some.injEq] at hlook'
          rw [← hlook', hid, hs.ownIds id' session' hfound, heq]
        · rw [if_neg heq] at hlook'
          exact hs.ownIds id session hlook'
    · rcases ClientOf.of_request hs.ownIds hx hclient with hold | ⟨hptr, -⟩
      · exact lt_of_lt_of_le (hs.client_lt hold) hnext
      · exact hwf.ref_lt ⟨_, Function.update_self .., hptr⟩
    · exact lt_of_lt_of_le (hs.held_lt hheld) hnext
  | disconnect hconn => exact ⟨hwf, hs.ownIds, hs.client_lt, hs.held_lt⟩
  | closeTcp hconn => exact ⟨hwf, hs.ownIds, hs.client_lt, hs.held_lt⟩
  | lock hidle hsession hlive =>
    have hid := hs.ownIds _ _ hsession
    refine ⟨hwf, hs.ownIds.setMediaSession hid, fun hclient => ?_, fun hheld => ?_⟩
    · exact hs.client_lt ((clientOf_lock_iff hsession).mp hclient).1
    · rcases hheld.of_lock hsession with ⟨-, hold⟩ | ⟨-, hclient, -⟩
      · exact hs.held_lt hold
      · exact hs.client_lt hclient
  | send hfan hpending =>
    refine ⟨hwf, hs.ownIds, hs.client_lt, fun hheld => hs.held_lt (hheld.of_update rfl ?_)⟩
    rintro g ⟨rfl⟩
    exact ⟨_, hfan, rfl⟩
  | drop hfan hdone =>
    refine ⟨hwf, hs.ownIds, hs.client_lt, fun hheld => hs.held_lt (hheld.of_update rfl ?_)⟩
    rintro g ⟨⟩
  | runTask hqueue hrun => exact ⟨hwf, hs.ownIds, hs.client_lt, hs.held_lt⟩

/-! ## What a step does to the property -/

/-- The property is kept when the connection is what it was, or is gone, and
is a client of nothing more. -/
theorem OnlyDescribed.of_subset (hs : s.OnlyDescribed name)
    (hconns : ∀ c, s'.conns name = some c → s.conns name = some c)
    (hclients : ∀ ref id, s'.ClientOf ref id → s.ClientOf ref id) : s'.OnlyDescribed name :=
  fun c ref id hc hptr hclient => hs c ref id (hconns c hc) hptr (hclients ref id hclient)

/-- A new connection is no client yet. -/
theorem OnlyDescribed.connect (hs : s.OnlyDescribed name) (fd : ℤ) :
    (s.afterConnect fd).OnlyDescribed name := by
  intro c ref id hc hptr hclient
  have hconns : (s.afterConnect fd).conns name
      = if name = s.nextConn then some { tcpConn := { fd := fd } } else s.conns name :=
    Function.update_apply ..
  rw [hconns] at hc
  by_cases hname : name = s.nextConn
  · rw [if_pos hname, Option.some.injEq] at hc
    subst hc
    cases hptr
  · rw [if_neg hname] at hc
    exact hs c ref id hc hptr hclient

/-- A request on another connection enters the `RtpConnection` of that
connection. -/
theorem OnlyDescribed.request_other (hk : s.ClientsKnown) (hs : s.OnlyDescribed name)
    (hne : name ≠ name') (hconn : s.conns name' = some c)
    (hx : Serving.handleCmd env r { conn := c, world := s.world } = .ok x) :
    (s.afterRequest name' r x).OnlyDescribed name := by
  intro c' ref id hc' hptr hclient
  have hold : s.conns name = some c' := by
    rw [← hc']
    exact (Function.update_of_ne hne ..).symm
  rcases ClientOf.of_request hk.ownIds hx hclient with hbefore | ⟨hother, -⟩
  · exact hs c' ref id hold hptr hbefore
  · have hwf := hk.wellFormed.request hconn hx
    exact absurd (hwf.ref_inj ⟨c', hc', hptr⟩ ⟨x.conn, Function.update_self .., hother⟩) hne

/-- **A request keeps the property exactly when** it is no DESCRIBE of a
second session. -/
theorem OnlyDescribed.request_iff (hk : s.ClientsKnown) (hs : s.OnlyDescribed name)
    (hconn : s.conns name = some c)
    (hx : Serving.handleCmd env r { conn := c, world := s.world } = .ok x) :
    (s.afterRequest name r x).OnlyDescribed name ↔ DescribesOne name s (.request name env r) := by
  have hafter : (s.afterRequest name r x).conns name = some x.conn := Function.update_self ..
  obtain ⟨-, -, hptr⟩ := handleCmd_conn hx
  rcases handleCmd_sessions hx with
    ⟨hnone, hid, hsame⟩ | ⟨id, session, after, hr, hl, hfound, hid, href, -, -, -⟩
  · -- the sessions are what they were, and so is the one that is remembered
    refine iff_of_true (fun c' ref id hc' hptr' hclient => ?_) fun _ hr id session hl => ?_
    · obtain ⟨session, fd, hlook, hentry⟩ := hclient
      have hbefore : s.ClientOf ref id := ⟨session, fd, (hsame id).symm.trans hlook, hentry⟩
      rw [hafter, Option.some.injEq] at hc'
      subst hc'
      rcases hptr with ⟨hold, -⟩ | ⟨-, hnew, -⟩
      · rw [hid]
        exact hs c ref id hconn (hold.symm.trans hptr') hbefore
      · rw [hnew, Option.some.injEq] at hptr'
        subst hptr'
        exact absurd (hk.client_lt hbefore) (lt_irrefl _)
    · rw [hnone hr] at hl
      cases hl
  · -- a DESCRIBE that finds `id`, which is remembered
    rw [hk.ownIds id session hfound] at hid
    constructor
    · intro hkept _ _ id' session' hl' ref id'' howned hclient
      rw [hl, Option.some.injEq, Prod.mk.injEq] at hl'
      obtain ⟨c', hc', hptr'⟩ := howned
      rw [hconn, Option.some.injEq] at hc'
      subst hc'
      have hstays : x.conn.rtpConnPtr = some ref := by
        rcases hptr with ⟨hold, -⟩ | ⟨hnone, -, -⟩
        · exact hold.trans hptr'
        · dsimp only at hnone
          rw [hptr'] at hnone
          cases hnone
      rw [← hl'.1, ← hid]
      exact hkept x.conn ref id'' hafter hstays (hclient.request hx)
    · intro hgood c' ref id' hc' hptr' hclient
      rw [hafter, Option.some.injEq] at hc'
      subst hc'
      rcases ClientOf.of_request hk.ownIds hx hclient with hbefore | ⟨-, hnow⟩
      · rcases hptr with ⟨hold, -⟩ | ⟨-, hnew, -⟩
        · rw [hid]
          exact hgood rfl hr id session hl ref id' ⟨c, hconn, hold.symm.trans hptr'⟩ hbefore
        · rw [hnew, Option.some.injEq] at hptr'
          subst hptr'
          exact absurd (hk.client_lt hbefore) (lt_irrefl _)
      · exact hnow

/-- **A step keeps the property exactly when** it is no DESCRIBE of a second
session on the connection. -/
theorem OnlyDescribed.step_iff {e : ServerEvent} (hk : s.ClientsKnown) (hs : s.OnlyDescribed name)
    (h : ServerStep s e s') : s'.OnlyDescribed name ↔ DescribesOne name s e := by
  cases h with
  | connect hfree => exact iff_of_true (hs.connect _) trivial
  | @request name' env r c x hconn hx =>
    by_cases hname : name = name'
    · subst hname
      exact hs.request_iff hk hconn hx
    · exact iff_of_true (hs.request_other hk hname hconn hx) fun heq => absurd heq.symm hname
  | disconnect hconn =>
    exact iff_of_true (hs.of_subset (fun _ => of_update_none) fun _ _ h => h) trivial
  | closeTcp hconn => exact iff_of_true (hs.of_subset (fun _ h => h) fun _ _ h => h) trivial
  | lock hidle hsession hlive =>
    exact iff_of_true (hs.of_subset (fun _ h => h)
      fun _ _ h => ((clientOf_lock_iff hsession).mp h).1) trivial
  | send hfan hpending => exact iff_of_true (hs.of_subset (fun _ h => h) fun _ _ h => h) trivial
  | drop hfan hdone => exact iff_of_true (hs.of_subset (fun _ h => h) fun _ _ h => h) trivial
  | runTask hqueue hrun => exact iff_of_true (hs.of_subset (fun _ h => h) fun _ _ h => h) trivial

/-! ## What is pushed -/

/-- The session whose clients a thread locked last. -/
def lockedSession (events : List ServerEvent) (thread : ℕ) : Option MediaSessionId :=
  events.foldl (fun last e => match e with
    | .lock thread' id _ _ => if thread' = thread then some id else last
    | _ => last) none

theorem lockedSession_snoc (events : List ServerEvent) (e : ServerEvent) (thread : ℕ) :
    lockedSession (events ++ [e]) thread = match e with
      | .lock thread' id _ _ => if thread' = thread then some id else lockedSession events thread
      | _ => lockedSession events thread := by
  unfold lockedSession
  rw [List.foldl_append]
  rfl

/-- **A thread sends to clients of the session that it locked**, and these
stay its clients while the thread holds them. -/
structure PushesLocked (events : List ServerEvent) (s : ServerState) : Prop where
  pending_held : ∀ {thread f}, s.fanOuts thread = some f → f.pending ⊆ f.held
  client_of_held : ∀ {thread ref}, s.HeldBy thread ref →
    ∃ id, lockedSession events thread = some id ∧ s.ClientOf ref id

/-- A step that locks nothing. -/
theorem PushesLocked.of_kept {events : List ServerEvent} {e : ServerEvent}
    (hs : PushesLocked events s)
    (hlocked : ∀ thread, lockedSession (events ++ [e]) thread = lockedSession events thread)
    (hpending : ∀ {thread f}, s'.fanOuts thread = some f → f.pending ⊆ f.held)
    (hheld : ∀ {thread ref}, s'.HeldBy thread ref → s.HeldBy thread ref)
    (hclients : ∀ {ref id}, s.ClientOf ref id → s'.ClientOf ref id) :
    PushesLocked (events ++ [e]) s' := by
  refine ⟨hpending, fun {thread ref} h => ?_⟩
  obtain ⟨id, hid, hclient⟩ := hs.client_of_held (hheld h)
  exact ⟨id, (hlocked thread).trans hid, hclients hclient⟩

/-- What a thread has still to send to, after its fan-out was replaced. -/
theorem PushesLocked.pending_update {events : List ServerEvent} (hs : PushesLocked events s)
    {thread thread' : ℕ} {f : Option FanOut} {g : FanOut}
    (hfan : s'.fanOuts = Function.update s.fanOuts thread f)
    (hf : ∀ g, f = some g → g.pending ⊆ g.held) (hg : s'.fanOuts thread' = some g) :
    g.pending ⊆ g.held := by
  rw [hfan] at hg
  by_cases hthread : thread' = thread
  · rw [hthread, Function.update_self] at hg
    exact hf g hg
  · rw [Function.update_of_ne hthread] at hg
    exact hs.pending_held hg

/-- **Every step keeps what is pushed with the session that was locked.** -/
theorem PushesLocked.step {events : List ServerEvent} {e : ServerEvent}
    (hs : PushesLocked events s) (h : ServerStep s e s') : PushesLocked (events ++ [e]) s' := by
  cases h with
  | connect hfree =>
    exact hs.of_kept (lockedSession_snoc events _) hs.pending_held (fun h => h) fun h => h
  | request hconn hx =>
    exact hs.of_kept (lockedSession_snoc events _) hs.pending_held (fun h => h)
      fun h => h.request hx
  | disconnect hconn =>
    exact hs.of_kept (lockedSession_snoc events _) hs.pending_held (fun h => h) fun h => h
  | closeTcp hconn =>
    exact hs.of_kept (lockedSession_snoc events _) hs.pending_held (fun h => h) fun h => h
  | lock hidle hsession hlive =>
    refine ⟨fun hg => hs.pending_update rfl ?_ hg, fun {thread' ref} hheld => ?_⟩
    · rintro g ⟨rfl⟩
      exact List.Subset.refl _
    · rw [lockedSession_snoc]
      rcases hheld.of_lock hsession with ⟨hthread, hold⟩ | ⟨rfl, hclient, hl⟩
      · obtain ⟨id, hid, hclient⟩ := hs.client_of_held hold
        refine ⟨id, (if_neg hthread.symm).trans hid, (clientOf_lock_iff hsession).mpr
          ⟨hclient, fun _ => ?_⟩⟩
        exact (hlive ref).mpr (.inr ⟨thread', hold⟩)
      · exact ⟨_, if_pos rfl, (clientOf_lock_iff hsession).mpr ⟨hclient, fun _ => hl⟩⟩
  | send hfan hpending =>
    refine hs.of_kept (lockedSession_snoc events _) (fun hg => hs.pending_update rfl ?_ hg)
      (fun h => h.of_update rfl ?_) fun h => h
    · rintro g ⟨rfl⟩
      exact fun ref hmem => hs.pending_held hfan (hpending ▸ List.mem_cons_of_mem _ hmem)
    · rintro g ⟨rfl⟩
      exact ⟨_, hfan, rfl⟩
  | drop hfan hdone =>
    refine hs.of_kept (lockedSession_snoc events _) (fun hg => hs.pending_update rfl ?_ hg)
      (fun h => h.of_update rfl ?_) fun h => h
    · rintro g ⟨⟩
    · rintro g ⟨⟩
  | runTask hqueue hrun =>
    exact hs.of_kept (lockedSession_snoc events _) hs.pending_held (fun h => h) fun h => h

/-- A server that starts has no clients. -/
theorem clientsKnown_init (h : describedSystem.init s) :
    s.ClientsKnown ∧ s.OnlyDescribed name ∧ PushesLocked [] s := by
  obtain ⟨hinit, events, hrun⟩ := h
  have hwf := wellFormed_init hinit
  obtain ⟨world, rfl, hempty⟩ := hinit
  have hnone : ∀ ref id, ¬ ClientOf { world := world } ref id := by
    rintro ref id ⟨session, fd, hlook, hentry⟩
    rw [hempty id session hlook] at hentry
    cases hentry
  refine ⟨⟨hwf, Rtsp.ownIds_of_run hrun, fun h => absurd h (hnone _ _), ?_⟩, ?_, ⟨?_, ?_⟩⟩
  · rintro thread ref ⟨f, hf, -⟩
    cases hf
  · intro c ref id hc
    cases hc
  · intro thread f hf
    cases hf
  · rintro thread ref ⟨f, hf, -⟩
    cases hf

/-- **A connection is a client only of the session it last described, and is
sent the packets of that session only**, in every state that the server
reaches by a run in which no DESCRIBE on the connection finds a second
session; and the next step keeps this exactly when it is no such DESCRIBE. -/
theorem onlyDescribed_of_run {events : List ServerEvent}
    (hrun : (describedSystem.restrict (DescribesOne name)).Run events s) :
    s.OnlyDescribed name ∧
    (∀ thread f ref rest c, s.fanOuts thread = some f → f.pending = ref :: rest →
      s.conns name = some c → c.rtpConnPtr = some ref →
      lockedSession events thread = some c.sessionId) ∧
    ∀ e s', ServerStep s e s' → (s'.OnlyDescribed name ↔ DescribesOne name s e) := by
  have hall : s.ClientsKnown ∧ s.OnlyDescribed name ∧ PushesLocked events s := by
    induction hrun with
    | nil hinit => exact clientsKnown_init hinit
    | snoc hrun hstep ih =>
      obtain ⟨hk, honly, hpushes⟩ := ih
      exact ⟨hk.step hstep.2, (honly.step_iff hk hstep.2).mpr hstep.1, hpushes.step hstep.2⟩
  obtain ⟨hk, honly, hpushes⟩ := hall
  refine ⟨honly, fun thread f ref rest c hf hpending hc hptr => ?_, fun e s' h =>
    honly.step_iff hk h⟩
  have hheld : s.HeldBy thread ref :=
    ⟨f, hf, hpushes.pending_held hf (hpending ▸ List.mem_cons_self)⟩
  obtain ⟨id, hid, hclient⟩ := hpushes.client_of_held hheld
  rw [hid, honly c ref id hc hptr hclient]

/-! ## One session, and two -/

/-- The tables with the session `live`. -/
theorem run_liveWorld : (Rtsp.tableSystem RtpRef).Run [.addMediaSession liveSession]
    liveWorld.rtsp := by
  have hstart : (Rtsp.tableSystem RtpRef).Run [] {} := .nil ⟨[], rfl⟩
  exact hstart.snoc ⟨rfl, rfl⟩

/-- The client when it has described the session once more. -/
def firstAgain : ServerState := firstClient.describing 0 describedOnSeven

theorem firstAgain_live (ref : RtpRef) : (ref == 0) = true ↔ firstAgain.Live ref :=
  live_iff_of_single rfl rfl
    (fun _ h => (Function.update_of_ne h ..).trans (firstClient_conns h)) (fun _ => rfl) ref

/-- A client that describes one session twice, and a packet that is pushed to it. -/
def describesTwice (pkt : RtpPacket) : List ServerEvent :=
  [] ++ [.connect 7] ++ [.request 0 .quiet describeLive] ++ [.request 0 .quiet describeLive] ++
    [.lock 0 2 .channel0 pkt]

/-- **A client that described one session twice** is a client of that session only, and is
sent its packets. -/
theorem onlyDescribed_firstAgain : ∃ s pkt,
    (describedSystem.restrict (DescribesOne 0)).Run (describesTwice pkt) s ∧
    s.OnlyDescribed 0 ∧ (s.fanOuts 0).map FanOut.pending = some [0] ∧
    lockedSession (describesTwice pkt) 0 = some 2 := by
  let pkt : RtpPacket := { data := .filled 1600 0 }
  have hstart : (describedSystem.restrict (DescribesOne 0)).Run [] { world := liveWorld } :=
    .nil ⟨⟨liveWorld, rfl, liveWorld_clients⟩, _, run_liveWorld⟩
  have hopen : (describedSystem.restrict (DescribesOne 0)).Run ([] ++ [.connect 7])
      (({ world := liveWorld } : ServerState).afterConnect 7) :=
    hstart.snoc_restrict (ServerStep.connect fun _ h => by cases h) trivial
  have hfirst := hopen.snoc_restrict step_firstClient fun _ _ id session _ ref id' ⟨c, hc, hptr⟩ =>
    by cases hc; cases hptr
  -- the second time it finds the session that it is a client of
  have honce : DescribesOne 0 firstClient (.request 0 .quiet describeLive) := by
    rintro - - id session hfound ref id' ⟨c, hc, hptr⟩ hclient
    obtain rfl : id = 2 := by
      cases hfound
      rfl
    rw [(onlyDescribed_of_run hfirst).1 c ref id' hc hptr hclient]
    cases hc
    rfl
  have hagain : ServerStep firstClient (.request 0 .quiet describeLive) firstAgain :=
    .request rfl rfl
  have hlock : ServerStep firstAgain (.lock 0 2 .channel0 pkt) _ := .lock rfl rfl firstAgain_live
  have hrun := (hfirst.snoc_restrict hagain honce).snoc_restrict hlock trivial
  exact ⟨_, pkt, hrun, (onlyDescribed_of_run hrun).1, rfl,
    (onlyDescribed_of_run hrun).2.1 0 _ 0 [] describedOnSeven rfl rfl rfl rfl⟩

/-- A second session. -/
def doorSession : MediaSession RtpRef where
  sessionId := 3
  suffix := ascii "door"
  sdp := ascii "v=0"

/-- A server with both sessions. -/
def twoWorld : World where
  rtsp := (liveWorld.rtsp.addMediaSession doorSession).2
  rtpConn _ := RtpConnection.zeroed

/-- A parsed DESCRIBE of the second one. -/
def describeDoor : RtspRequest :=
  { describeLive with
    requestLineParam := fun
      | .urlSuffix => some (ascii "door", 0)
      | key => describeLive.requestLineParam key }

/-- A client that described one session. -/
def liveClient : ServerState :=
  (({ world := twoWorld } : ServerState).afterConnect 7).describing 0 onSeven

/-- The connection after the first DESCRIBE. -/
def liveConn : RtspConnection := { onSeven with sessionId := 2, rtpConnPtr := some 0 }

/-- The same client when it has described the other one as well. -/
def bothClient : ServerState :=
  liveClient.afterRequest 0 describeDoor
    (Serving.handleCmdDescribe .quiet describeDoor { conn := liveConn, world := liveClient.world })

theorem twoWorld_clients (id : MediaSessionId) (session : MediaSession RtpRef)
    (h : twoWorld.rtsp.lookMediaSession id = some session) : session.clients = ∅ := by
  have hinsert : twoWorld.rtsp
      = ({ liveWorld.rtsp with rtspSuffixMap := twoWorld.rtsp.rtspSuffixMap } :
        Rtsp RtpRef).setMediaSession 3 doorSession := rfl
  rw [hinsert, Rtsp.lookMediaSession_setMediaSession] at h
  split at h
  · cases h
    rfl
  · exact liveWorld_clients id session h

/-- The client describes one session and then the other. -/
theorem run_bothClient : describedSystem.Run ([.connect 7]
    ++ [.request 0 .quiet describeLive] ++ [.request 0 .quiet describeDoor]) bothClient := by
  have htables : (Rtsp.tableSystem RtpRef).Run ([.addMediaSession liveSession]
      ++ [.addMediaSession doorSession]) twoWorld.rtsp :=
    run_liveWorld.snoc ⟨rfl, rfl⟩
  have hstart : describedSystem.Run [] { world := twoWorld } :=
    .nil ⟨⟨twoWorld, rfl, twoWorld_clients⟩, _, htables⟩
  have hopen : describedSystem.Run [.connect 7]
      (({ world := twoWorld } : ServerState).afterConnect 7) :=
    hstart.snoc (.connect fun _ h => by cases h)
  have hlive : describedSystem.Run ([.connect 7] ++ [.request 0 .quiet describeLive])
      liveClient := hopen.snoc (.request rfl rfl)
  exact hlive.snoc (.request rfl rfl)

/-- **A client that described two sessions is a client of both.** -/
theorem bothClient_not_onlyDescribed : ¬ ∀ events s name, describedSystem.Run events s →
    s.OnlyDescribed name := by
  intro hall
  have hfirst : (bothClient.world.rtsp.lookMediaSession 2).bind (·.clients.lookup 7)
      = some 0 := by decide
  obtain ⟨session, hlook, hentry⟩ := Option.bind_eq_some_iff.mp hfirst
  have hid : (2 : MediaSessionId) = 3 :=
    hall _ _ 0 run_bothClient _ 0 2 rfl rfl ⟨session, 7, hlook, hentry⟩
  exact absurd hid (by decide)

end ServerState
