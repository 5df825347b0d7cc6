import Mathlib.Data.List.AList
import RtspServer.ConnectionSteps
import RtspServer.Decimal
import RtspServer.SharedHeap
import RtspServer.Transition

/-!
# `muduo::net::TcpServer` and the connections of an `RtspServer`

A server keeps its connections in a table by their names, and the `RtspServer` that
is told of them keeps an `RtspConnection` for each in a second one. A connection is
deleted when nothing refers to it any longer: neither of the tables (an
`RtspConnection` has a pointer to its connection) nor a functor in the queue of the
loop, where `connectDestroyed` is put when the connection was closed.

The server has no threads of its own for its connections, so that all of them are in
its own loop. `send` and `shutdown` may be called in any thread; in another one than the
loop's, such a call is one step here, in which the state is read and the functor queued.
The destructor of the server is left out. What is followed without a check must be
there: where it is not, a function has no result. `TcpServer.nothingMissing_of_run` says
that this does not happen, and `TcpServer.tables_of_run` what the tables and the heap have
in common.
-/

namespace Muduo

/-- The functors with a `shared_ptr` to the connection; the others have a plain
pointer. -/
def Functor.Owns : Functor → Prop
  | .sendInLoop _ => False
  | .shutdownInLoop => False
  | .forceCloseInLoop => True
  | .writeCompleteCallback => True
  | .highWaterMarkCallback _ => True

instance : DecidablePred Functor.Owns
  | .sendInLoop _ => inferInstanceAs (Decidable False)
  | .shutdownInLoop => inferInstanceAs (Decidable False)
  | .forceCloseInLoop => inferInstanceAs (Decidable True)
  | .writeCompleteCallback => inferInstanceAs (Decidable True)
  | .highWaterMarkCallback _ => inferInstanceAs (Decidable True)

/-- What is the same for all connections of a server. The buffer in `newConnection`
has room for every address that `toIpPort` returns. -/
structure ServerOptions where
  name : Bytes
  ipPort : Bytes
  length_ipPort : ipPort.length ≤ 51
  connection : ConnectionOptions := {}

/-- A functor in the queue of the loop, by the connection it is for. -/
inductive Task where
  | functor (conn : ℕ)
  | connectDestroyed (conn : ℕ)
deriving DecidableEq

/-- A server. `conns` are the connections on the heap, with their names. -/
structure TcpServer where
  conns : ℕ → Option (Bytes × TcpConnection) := fun _ => none
  nextConnId : ℕ := 1
  connections : AList (fun _ : Bytes => ℕ) := ∅
  rtspConnMap : AList (fun _ : Bytes => ℕ) := ∅
  pendingFunctors : List Task := []

namespace TcpServer

/-- `"-%s#%d"`, printed into a buffer of 64 bytes behind the name of the server. -/
def connName (o : ServerOptions) (connId : ℕ) : Bytes :=
  o.name ++ RtspRequest.snprintf [] 64
    (ascii "-" ++ o.ipPort ++ ascii "#" ++ RtspRequest.decimal connId)

/-- `RtspServer::onConnection`. -/
def onConnection (s : TcpServer) (conn : ℕ) (name : Bytes) (connected : Bool) : TcpServer :=
  if connected then { s with rtspConnMap := s.rtspConnMap.insert name conn }
  else { s with rtspConnMap := s.rtspConnMap.erase name }

/-- `RtspServer::onMessage`, which follows the pointer that it finds. -/
def onMessage (s : TcpServer) (name : Bytes) : Option TcpServer :=
  (s.rtspConnMap.lookup name).map fun _ => s

def removeConnectionInLoop (s : TcpServer) (conn : ℕ) (name : Bytes) : Option TcpServer := do
  assert (name ∈ s.connections)
  return { s with
    connections := s.connections.erase name
    pendingFunctors := s.pendingFunctors ++ [.connectDestroyed conn] }

/-- The callbacks that a connection is given. -/
def callback (conn : ℕ) (name : Bytes) (s : TcpServer) : Callback → Option TcpServer
  | .up => some (s.onConnection conn name true)
  | .message => s.onMessage name
  | .down => some (s.onConnection conn name false)
  | .close => s.removeConnectionInLoop conn name
  | .writeComplete => some s
  | .highWaterMark _ => some s

/-- The connection is referred to. -/
def Held (s : TcpServer) (conn : ℕ) (c : TcpConnection) : Prop :=
  conn ∈ s.connections.entries.map (·.2) ∨ conn ∈ s.rtspConnMap.entries.map (·.2) ∨
    .connectDestroyed conn ∈ s.pendingFunctors ∨ ∃ f ∈ c.pending, f.Owns

instance (s : TcpServer) (conn : ℕ) (c : TcpConnection) : Decidable (s.Held conn c) :=
  inferInstanceAs (Decidable (_ ∨ _ ∨ _ ∨ ∃ f ∈ c.pending, f.Owns))

/-- A connection that is not referred to is deleted; `~TcpConnection` expects that it
is down, and `~Channel` that the channel was removed from the loop. -/
def release (s : TcpServer) (conn : ℕ) : Option TcpServer := do
  let (_, c) ← s.conns conn
  if s.Held conn c then
    return s
  else
    assert (c.state = .kDisconnected ∧ c.addedToLoop = false)
    return { s with conns := Function.update s.conns conn none }

/-- An event of a connection: what it calls, what it puts into the queue, and what
becomes of it. -/
def connEvent (o : ServerOptions) (s : TcpServer) (conn : ℕ) (e : TcpConnection.Event) :
    Option TcpServer := do
  let (name, c) ← s.conns conn
  let c' ← c.step o.connection e
  let queued := List.replicate (c'.pending.length - (c.taken e).length) (Task.functor conn)
  let s' ← (c'.callbacks.drop c.callbacks.length).foldlM (callback conn name) { s with
    conns := Function.update s.conns conn (some (name, c'))
    pendingFunctors := s.pendingFunctors ++ queued }
  s'.release conn

/-- `newConnection`, with the address of the new connection. -/
def newConnection (o : ServerOptions) (s : TcpServer) (conn : ℕ) : Option TcpServer :=
  let name := connName o s.nextConnId
  connEvent o { s with
    conns := Function.update s.conns conn (some (name, {}))
    nextConnId := s.nextConnId + 1
    connections := s.connections.insert name conn } conn (.established [])

/-- The functor at the head of the queue is called. -/
def callFunctor (o : ServerOptions) (s : TcpServer) (r : WriteResult) : Option TcpServer :=
  match s.pendingFunctors with
  | [] => none
  | .functor conn :: rest => connEvent o { s with pendingFunctors := rest } conn (.functor r)
  | .connectDestroyed conn :: rest =>
    connEvent o { s with pendingFunctors := rest } conn .destroyed

/-- What happens to a server. -/
inductive Event where
  | accept (conn : ℕ)
  | conn (conn : ℕ) (e : TcpConnection.Event)
  | functor (r : WriteResult)

/-- When it can happen: the number of a new connection is an `int`, and the results
of `write` are such as the socket can give. -/
def Enabled (o : ServerOptions) (s : TcpServer) : Event → Prop
  | .accept conn => s.conns conn = none ∧ s.nextConnId < 2 ^ 31
  | .conn conn e => e.External ∧
      ∃ name c, s.conns conn = some (name, c) ∧ (c.step o.connection e).isSome
  | .functor r => s.pendingFunctors ≠ [] ∧ ∀ conn rest name c, c.pending ≠ [] →
      s.pendingFunctors = .functor conn :: rest → s.conns conn = some (name, c) →
        (c.step o.connection (.functor r)).isSome

def exec (o : ServerOptions) (s : TcpServer) : Event → Option TcpServer
  | .accept conn => s.newConnection o conn
  | .conn conn e => s.connEvent o conn e
  | .functor r => s.callFunctor o r

/-- The runs of a server that has no connections yet. -/
def system (o : ServerOptions) : System TcpServer Event where
  init s := s = {}
  step s e s' := s.Enabled o e ∧ s.exec o e = some s'

/-! ## Names -/

/-- **Two connections do not get the same name** as long as the numbers of the
connections fit into an `int`. -/
theorem connName_inj (o : ServerOptions) {m n : ℕ} (hm : m < 2 ^ 31) (hn : n < 2 ^ 31)
    (h : connName o m = connName o n) : m = n := by
  have hfits : ∀ k < 2 ^ 31, connName o k =
      o.name ++ (ascii "-" ++ o.ipPort ++ ascii "#" ++ RtspRequest.decimal k) := by
    intro k hk
    have hlength : (RtspRequest.decimal k).length ≤ 10 :=
      Scanf.length_decimal_le (Nat.succ_pos 9) (hk.trans (by decide))
    have hipPort := o.length_ipPort
    rw [connName, RtspRequest.snprintf_of_lt]
    simp only [List.length_append, show (ascii "-").length = 1 from rfl,
      show (ascii "#").length = 1 from rfl]
    omega
  rw [hfits m hm, hfits n hn] at h
  exact Scanf.decimal_injective (List.append_cancel_left (List.append_cancel_left h))

/-! ## The invariant -/

theorem lookup_erase_eq_some {β : Type*} {l : AList (fun _ : Bytes => β)} {n n' : Bytes} {v : β} :
    (l.erase n).lookup n' = some v ↔ n' ≠ n ∧ l.lookup n' = some v := by
  by_cases hn : n' = n
  · subst hn
    simp [AList.lookup_erase]
  · simp [AList.lookup_erase_ne hn, hn]

/-- **What the tables, the queue and the heap have in common.** A connection that is
open is in both tables; one that is not is in neither, and its `connectDestroyed` is
queued behind all functors for it. So the functor that lets the object go is the last
that needs it, also where the others have a plain pointer only. -/
structure Inv (o : ServerOptions) (s : TcpServer) : Prop where
  conn : ∀ a name c, s.conns a = some (name, c) →
    c.Inv ∧ (c.isOpen = true ∨ c.state = .kDisconnected) ∧ ∃ n < s.nextConnId, name = connName o n
  addedToLoop : ∀ a name c, s.conns a = some (name, c) → c.addedToLoop = true
  nextConnId : s.nextConnId ≤ 2 ^ 31
  unique : ∀ a b name c c', s.conns a = some (name, c) → s.conns b = some (name, c') → a = b
  opened : ∀ a name c, s.conns a = some (name, c) → c.isOpen = true →
    s.connections.lookup name = some a ∧ s.rtspConnMap.lookup name = some a
  connections : ∀ name a, s.connections.lookup name = some a →
    ∃ c, s.conns a = some (name, c) ∧ c.isOpen = true
  rtspConnMap : ∀ name a, s.rtspConnMap.lookup name = some a →
    ∃ c, s.conns a = some (name, c) ∧ c.isOpen = true
  functors : ∀ a name c, s.conns a = some (name, c) →
    s.pendingFunctors.count (.functor a) = c.pending.length
  functor : ∀ a, .functor a ∈ s.pendingFunctors → (s.conns a).isSome
  destroyed : ∀ a, .connectDestroyed a ∈ s.pendingFunctors ↔
    ∃ name c, s.conns a = some (name, c) ∧ c.state = .kDisconnected
  order : s.pendingFunctors.Pairwise fun t u =>
    ∀ a, t = .connectDestroyed a → u ≠ .functor a ∧ u ≠ .connectDestroyed a

/-- What is left of the queue after the functor of an event was taken from it, `base`
being what is left of those of the connection. -/
structure Rest (s : TcpServer) (a : ℕ) (base : List Functor) (q : List Task) : Prop where
  count : q.count (.functor a) = base.length
  others : ∀ b ≠ a, q.count (.functor b) = s.pendingFunctors.count (.functor b)
  destroyed : ∀ b, .connectDestroyed b ∈ q ↔ .connectDestroyed b ∈ s.pendingFunctors
  order : q.Pairwise fun t u =>
    ∀ a, t = .connectDestroyed a → u ≠ .functor a ∧ u ≠ .connectDestroyed a

theorem Inv.rest {o : ServerOptions} {s : TcpServer} (h : Inv o s) {a : ℕ} {name : Bytes}
    {c : TcpConnection} (ha : s.conns a = some (name, c)) :
    Rest s a c.pending s.pendingFunctors :=
  ⟨h.functors a name c ha, fun _ _ => rfl, fun _ => Iff.rfl, h.order⟩

theorem Inv.rest_tail {o : ServerOptions} {s : TcpServer} (h : Inv o s) {a : ℕ} {name : Bytes}
    {c : TcpConnection} {q : List Task} (ha : s.conns a = some (name, c))
    (hq : s.pendingFunctors = .functor a :: q) : Rest s a c.pending.tail q := by
  have hcount := h.functors a name c ha
  have horder := h.order
  rw [hq] at hcount horder
  rw [List.count_cons_self] at hcount
  refine ⟨?_, fun b hb => ?_, fun b => ?_, horder.of_cons⟩
  · rw [List.length_tail, ← hcount, Nat.add_sub_cancel]
  · rw [hq, List.count_cons_of_ne (by simpa using hb.symm)]
  · rw [hq]
    simp

/-! ## A table of connections -/

/-- **A table that leads to open connections only**, and to each by its own name. Both
tables of the server are kept so by the same steps. -/
def LeadsToOpen (conns : ℕ → Option (Bytes × TcpConnection)) (t : AList fun _ : Bytes => ℕ) :
    Prop :=
  ∀ name a, t.lookup name = some a → ∃ c, conns a = some (name, c) ∧ c.isOpen = true

namespace LeadsToOpen

variable {conns : ℕ → Option (Bytes × TcpConnection)} {t : AList fun _ : Bytes => ℕ} {a : ℕ}
  {name : Bytes} {c c' : TcpConnection}

/-- A connection that stays open, or down. -/
theorem update (h : LeadsToOpen conns t) (ha : conns a = some (name, c))
    (hopen : c'.isOpen = c.isOpen) :
    LeadsToOpen (Function.update conns a (some (name, c'))) t := by
  intro name' b hl
  obtain ⟨d, hb, hd⟩ := h name' b hl
  by_cases hba : b = a
  · subst hba
    cases ha.symm.trans hb
    exact ⟨c', Function.update_self .., hopen.trans hd⟩
  · exact ⟨d, by rw [Function.update_of_ne hba, hb], hd⟩

/-- A connection that was closed, and taken out of the table. -/
theorem erase (h : LeadsToOpen conns t) (ha : conns a = some (name, c)) :
    LeadsToOpen (Function.update conns a (some (name, c'))) (t.erase name) := by
  intro name' b hl
  obtain ⟨hne, hl⟩ := lookup_erase_eq_some.mp hl
  obtain ⟨d, hb, hopen⟩ := h name' b hl
  refine ⟨d, update_eq_some.mpr (.inr ⟨?_, hb⟩), hopen⟩
  rintro rfl
  cases ha.symm.trans hb
  exact hne rfl

/-- A connection that was deleted when it was down. -/
theorem delete (h : LeadsToOpen conns t) (ha : conns a = some (name, c))
    (hdown : ¬ c.isOpen = true) : LeadsToOpen (Function.update conns a none) t := by
  intro name' b hl
  obtain ⟨d, hb, hopen⟩ := h name' b hl
  refine ⟨d, update_none_eq_some.mpr ⟨?_, hb⟩, hopen⟩
  rintro rfl
  cases ha.symm.trans hb
  exact hdown hopen

/-- A new connection, at an address that was not in use. -/
theorem insert (h : LeadsToOpen conns t) (ha : conns a = none) (hopen : c.isOpen = true) :
    LeadsToOpen (Function.update conns a (some (name, c))) (t.insert name a) := by
  intro name' b hl
  by_cases hname : name' = name
  · subst hname
    cases (AList.lookup_insert _).symm.trans hl
    exact ⟨c, Function.update_self .., hopen⟩
  · obtain ⟨d, hb, hd⟩ := h name' b ((AList.lookup_insert_ne hname).symm.trans hl)
    refine ⟨d, update_eq_some.mpr (.inr ⟨?_, hb⟩), hd⟩
    rintro rfl
    cases ha.symm.trans hb

end LeadsToOpen

/-- Names stay different when a connection is entered whose name no other has. -/
theorem unique_update {conns : ℕ → Option (Bytes × TcpConnection)} {a : ℕ} {name : Bytes}
    {c' : TcpConnection}
    (h : ∀ b b' name' d d', conns b = some (name', d) → conns b' = some (name', d') → b = b')
    (hother : ∀ b name' d, conns b = some (name', d) → b ≠ a → name' ≠ name) :
    ∀ b b' name' d d', Function.update conns a (some (name, c')) b = some (name', d) →
      Function.update conns a (some (name, c')) b' = some (name', d') → b = b' := by
  intro b b' name' d d' hb hb'
  rcases update_eq_some.mp hb with ⟨rfl, heq⟩ | ⟨hba, hb₁⟩
  · rcases update_eq_some.mp hb' with ⟨rfl, -⟩ | ⟨hba', hb₂⟩
    · rfl
    · cases heq
      exact absurd rfl (hother b' _ d' hb₂ hba')
  · rcases update_eq_some.mp hb' with ⟨rfl, heq⟩ | ⟨-, hb₂⟩
    · cases heq
      exact absurd rfl (hother b _ d hb₁ hba)
    · exact h b b' name' d d' hb₁ hb₂

/-! ## What the steps do with it -/

section

variable {o : ServerOptions} {s : TcpServer} {a : ℕ} {name : Bytes} {c c' : TcpConnection}
  {base : List Functor} {q : List Task}

theorem state_ne_of_isOpen (h : c.isOpen = true) : c.state ≠ .kDisconnected := by
  rcases TcpConnection.isOpen_iff.mp h with h | h
  · simp [h]
  · simp [h]

/-- No other connection has the name. -/
theorem Inv.name_ne (h : Inv o s) (ha : s.conns a = some (name, c)) :
    ∀ b name' d, s.conns b = some (name', d) → b ≠ a → name' ≠ name := by
  rintro b name' d hb hba rfl
  exact hba (h.unique b a name' d c hb ha)

/-- The functors that are left are for connections that are there, and so are those that
are queued for the connection itself. -/
theorem Inv.isSome_of_rest (h : Inv o s) (hq : Rest s a base q) (x : Bytes × TcpConnection) {b : ℕ}
    (hin : b ≠ a → .functor b ∈ q) : (Function.update s.conns a (some x) b).isSome := by
  by_cases hba : b = a
  · rw [hba, Function.update_self, Option.isSome_some]
  · rw [Function.update_of_ne hba]
    refine h.functor b (List.count_pos_iff.mp ?_)
    rw [← hq.others b hba]
    exact List.count_pos_iff.mpr (hin hba)

/-- An event that leaves the connection open, or down. -/
theorem Inv.stays (h : Inv o s) (ha : s.conns a = some (name, c))
    (hs : TcpConnection.Stays base c c') (hc' : c'.Inv) (hq : Rest s a base q) {k : ℕ}
    (hk : c'.pending.length = base.length + k) :
    Inv o { s with
      conns := Function.update s.conns a (some (name, c'))
      pendingFunctors := q ++ List.replicate k (.functor a) } := by
  obtain ⟨-, hstate, n, hn, hname⟩ := h.conn a name c ha
  have hconns : ∀ b name' d, Function.update s.conns a (some (name, c')) b = some (name', d) →
      ∃ d', s.conns b = some (name', d') ∧ d.isOpen = d'.isOpen ∧
        (d.state = .kDisconnected ↔ d'.state = .kDisconnected) ∧ (b ≠ a → d = d') := by
    intro b name' d hb
    rcases update_eq_some.mp hb with ⟨rfl, heq⟩ | ⟨-, hb⟩
    · cases heq
      exact ⟨c, ha, hs.isOpen, hs.state, fun hne => absurd rfl hne⟩
    · exact ⟨d, hb, rfl, Iff.rfl, fun _ => rfl⟩
  have hback : ∀ b name' d', s.conns b = some (name', d') →
      ∃ d, Function.update s.conns a (some (name, c')) b = some (name', d) ∧
        (d.state = .kDisconnected ↔ d'.state = .kDisconnected) := by
    intro b name' d' hb
    by_cases hba : b = a
    · subst hba
      cases ha.symm.trans hb
      exact ⟨c', Function.update_self .., hs.state⟩
    · exact ⟨d', by rw [Function.update_of_ne hba, hb], Iff.rfl⟩
  have hdown : k ≠ 0 → c.state ≠ .kDisconnected := by
    intro hne hdown
    obtain ⟨fs, hfs, hnone⟩ := hs.pending
    rw [hfs, hnone hdown] at hk
    simp at hk
    exact hne hk
  refine ⟨fun b name' d hb => ?_, fun b name' d hb => ?_, h.nextConnId,
    unique_update h.unique (h.name_ne ha), fun b name' d hb hopen => ?_,
    LeadsToOpen.update h.connections ha hs.isOpen, LeadsToOpen.update h.rtspConnMap ha hs.isOpen,
    fun b name' d hb => ?_, fun b hin => ?_, fun b => ?_, ?_⟩
  · obtain ⟨d', hb', hopen, hdown', hsame⟩ := hconns b name' d hb
    obtain ⟨hinv, hstate', hnumber⟩ := h.conn b name' d' hb'
    refine ⟨?_, ?_, hnumber⟩
    · rcases update_eq_some.mp hb with ⟨-, heq⟩ | ⟨hba, -⟩
      · cases heq
        exact hc'
      · exact hsame hba ▸ hinv
    · rw [hopen, hdown']
      exact hstate'
  · rcases update_eq_some.mp hb with ⟨-, heq⟩ | ⟨-, hb⟩
    · cases heq
      exact hs.addedToLoop.trans (h.addedToLoop a name c ha)
    · exact h.addedToLoop b name' d hb
  · obtain ⟨d', hb', hopen', -⟩ := hconns b name' d hb
    exact h.opened b name' d' hb' (hopen' ▸ hopen)
  · show (q ++ List.replicate k (Task.functor a)).count (.functor b) = d.pending.length
    rw [List.count_append, List.count_replicate]
    rcases update_eq_some.mp hb with ⟨rfl, heq⟩ | ⟨hba, -⟩
    · cases heq
      rw [hq.count, hk]
      simp
    · obtain ⟨d', hb', -, -, hsame⟩ := hconns b name' d hb
      rw [hq.others b hba, hsame hba, h.functors b name' d' hb',
        if_neg (by simpa using Ne.symm hba), Nat.add_zero]
  · refine h.isSome_of_rest hq (name, c') fun hba => ?_
    refine (List.mem_append.mp hin).resolve_right fun hin => ?_
    exact hba (Task.functor.inj (List.eq_of_mem_replicate hin))
  · rw [List.mem_append, hq.destroyed, h.destroyed]
    constructor
    · rintro (⟨name', d', hb', hd'⟩ | hin)
      · obtain ⟨d, hb, hiff⟩ := hback b name' d' hb'
        exact ⟨name', d, hb, hiff.mpr hd'⟩
      · cases List.eq_of_mem_replicate hin
    · rintro ⟨name', d, hb, hd⟩
      obtain ⟨d', hb', -, hiff, -⟩ := hconns b name' d hb
      exact .inl ⟨name', d', hb', hiff.mp hd⟩
  · refine List.pairwise_append.mpr ⟨hq.order, ?_, fun t ht u hu b heq => ?_⟩
    · refine List.pairwise_replicate.mpr (.inr fun b heq => ?_)
      cases heq
    · -- the connection is not down when something is queued for it
      rw [List.eq_of_mem_replicate hu]
      refine ⟨fun hab => ?_, nofun⟩
      cases hab
      have hk : k ≠ 0 := by
        rintro rfl
        simp at hu
      rw [heq, hq.destroyed, h.destroyed] at ht
      obtain ⟨name', d, hd, hdown'⟩ := ht
      cases ha.symm.trans hd
      exact hdown hk hdown'

/-- An event in which the connection is closed. -/
theorem Inv.closes (h : Inv o s) (ha : s.conns a = some (name, c))
    (hs : TcpConnection.Closes base c c') (hc' : c'.Inv) (hq : Rest s a base q) :
    Inv o { s with
      conns := Function.update s.conns a (some (name, c'))
      connections := s.connections.erase name
      rtspConnMap := s.rtspConnMap.erase name
      pendingFunctors := q ++ [.connectDestroyed a] } := by
  obtain ⟨-, -, n, hn, hname⟩ := h.conn a name c ha
  have hup := state_ne_of_isOpen hs.isOpen
  have hclosed : ¬ c'.isOpen = true := fun hopen => state_ne_of_isOpen hopen hs.state
  have hother := h.name_ne ha
  refine ⟨fun b name' d hb => ?_, fun b name' d hb => ?_, h.nextConnId,
    unique_update h.unique hother, fun b name' d hb hopen => ?_,
    LeadsToOpen.erase h.connections ha, LeadsToOpen.erase h.rtspConnMap ha,
    fun b name' d hb => ?_, fun b hin => ?_, fun b => ?_, ?_⟩
  · rcases update_eq_some.mp hb with ⟨rfl, heq⟩ | ⟨-, hb⟩
    · cases heq
      exact ⟨hc', .inr hs.state, n, hn, hname⟩
    · exact h.conn b name' d hb
  · rcases update_eq_some.mp hb with ⟨-, heq⟩ | ⟨-, hb⟩
    · cases heq
      exact hs.addedToLoop.trans (h.addedToLoop a name c ha)
    · exact h.addedToLoop b name' d hb
  · rcases update_eq_some.mp hb with ⟨-, heq⟩ | ⟨hba, hb⟩
    · cases heq
      exact absurd hopen hclosed
    · have hne := hother b name' d hb hba
      obtain ⟨hl, hl'⟩ := h.opened b name' d hb hopen
      exact ⟨(AList.lookup_erase_ne hne).trans hl, (AList.lookup_erase_ne hne).trans hl'⟩
  · show (q ++ [Task.connectDestroyed a]).count (.functor b) = d.pending.length
    rw [List.count_append, List.count_singleton, if_neg (by simp), Nat.add_zero]
    rcases update_eq_some.mp hb with ⟨rfl, heq⟩ | ⟨hba, hb⟩
    · cases heq
      rw [hq.count, hs.pending]
    · rw [hq.others b hba, h.functors b name' d hb]
  · refine h.isSome_of_rest hq (name, c') fun _ => ?_
    refine (List.mem_append.mp hin).resolve_right fun hin => ?_
    cases List.mem_singleton.mp hin
  · rw [List.mem_append, hq.destroyed, h.destroyed, List.mem_singleton]
    constructor
    · rintro (⟨name', d, hb, hd⟩ | heq)
      · refine ⟨name', d, update_eq_some.mpr (.inr ⟨?_, hb⟩), hd⟩
        rintro rfl
        cases ha.symm.trans hb
        exact hup hd
      · cases heq
        exact ⟨name, c', Function.update_self .., hs.state⟩
    · rintro ⟨name', d, hb, hd⟩
      rcases update_eq_some.mp hb with ⟨rfl, -⟩ | ⟨-, hb⟩
      · exact .inr rfl
      · exact .inl ⟨name', d, hb, hd⟩
  · refine List.pairwise_append.mpr ⟨hq.order, List.pairwise_singleton _ _,
      fun t ht u hu b heq => ?_⟩
    rw [List.mem_singleton.mp hu]
    refine ⟨nofun, fun hab => ?_⟩
    cases hab
    rw [heq, hq.destroyed, h.destroyed] at ht
    obtain ⟨name', d, hd, hdown⟩ := ht
    cases ha.symm.trans hd
    exact hup hdown

/-- A connection that was closed is deleted after `connectDestroyed`. -/
theorem Inv.destroyed_functor (h : Inv o s) (hq : s.pendingFunctors = .connectDestroyed a :: q)
    (ha : s.conns a = some (name, c)) (hdown : c.state = .kDisconnected) :
    c.pending = [] ∧ Inv o { s with
      conns := Function.update s.conns a none
      pendingFunctors := q } := by
  have horder := h.order
  rw [hq] at horder
  obtain ⟨hfirst, horder⟩ := List.pairwise_cons.mp horder
  have hnone : .functor a ∉ q := fun hin => (hfirst _ hin a rfl).1 rfl
  have hnone' : .connectDestroyed a ∉ q := fun hin => (hfirst _ hin a rfl).2 rfl
  have hcount : ∀ b, s.pendingFunctors.count (.functor b) = q.count (.functor b) := fun b => by
    rw [hq, List.count_cons_of_ne (by simp)]
  have hpending : c.pending = [] := by
    refine List.length_eq_zero_iff.mp ?_
    rw [← h.functors a name c ha, hcount]
    exact List.count_eq_zero.mpr hnone
  have hclosed : ¬ c.isOpen = true := fun hopen => state_ne_of_isOpen hopen hdown
  refine ⟨hpending, fun b name' d hb => h.conn b name' d (update_none_eq_some.mp hb).2,
    fun b name' d hb => h.addedToLoop b name' d (update_none_eq_some.mp hb).2, h.nextConnId,
    fun b b' name' d d' hb hb' => ?_, fun b name' d hb => ?_,
    LeadsToOpen.delete h.connections ha hclosed, LeadsToOpen.delete h.rtspConnMap ha hclosed,
    fun b name' d hb => ?_, fun b hin => ?_, fun b => ?_, horder⟩
  · exact h.unique b b' name' d d' (update_none_eq_some.mp hb).2 (update_none_eq_some.mp hb').2
  · exact h.opened b name' d (update_none_eq_some.mp hb).2
  · exact (hcount b).symm.trans (h.functors b name' d (update_none_eq_some.mp hb).2)
  · show (Function.update s.conns a none b).isSome
    have hba : b ≠ a := by
      rintro rfl
      exact hnone hin
    rw [Function.update_of_ne hba]
    exact h.functor b (hq ▸ List.mem_cons_of_mem _ hin)
  · have hmem := h.destroyed b
    rw [hq, List.mem_cons] at hmem
    constructor
    · intro hin
      obtain ⟨name', d, hb, hd⟩ := hmem.mp (.inr hin)
      refine ⟨name', d, update_none_eq_some.mpr ⟨?_, hb⟩, hd⟩
      rintro rfl
      exact hnone' hin
    · rintro ⟨name', d, hb, hd⟩
      obtain ⟨hba, hb⟩ := update_none_eq_some.mp hb
      exact (hmem.mpr ⟨name', d, hb, hd⟩).resolve_left fun heq =>
        hba (Task.connectDestroyed.inj heq)

/-- A connection that was accepted, and established. -/
theorem Inv.accept (h : Inv o s) (ha : s.conns a = none) (hid : s.nextConnId < 2 ^ 31)
    (hc : c.Inv) (hopen : c.isOpen = true) (hpending : c.pending = []) :
    Inv o { s with
      conns := Function.update s.conns a (some (connName o s.nextConnId, c))
      nextConnId := s.nextConnId + 1
      connections := s.connections.insert (connName o s.nextConnId) a
      rtspConnMap := s.rtspConnMap.insert (connName o s.nextConnId) a } := by
  have hfresh : ∀ b name d, s.conns b = some (name, d) → name ≠ connName o s.nextConnId := by
    intro b name d hb heq
    obtain ⟨-, -, n, hn, rfl⟩ := h.conn b name d hb
    exact hn.ne (connName_inj o (hn.trans hid) hid heq)
  have hold : ∀ b x, s.conns b = some x → b ≠ a := by
    rintro b x hb rfl
    rw [ha] at hb
    cases hb
  have hnone : .functor a ∉ s.pendingFunctors := fun hin => by
    have := h.functor a hin
    rw [ha] at this
    cases this
  refine ⟨fun b name d hb => ?_, fun b name d hb => ?_, hid,
    unique_update h.unique fun b name d hb _ => hfresh b name d hb,
    fun b name d hb hopen' => ?_,
    LeadsToOpen.insert h.connections ha hopen, LeadsToOpen.insert h.rtspConnMap ha hopen,
    fun b name d hb => ?_, fun b hin => ?_, fun b => ?_, h.order⟩
  · rcases update_eq_some.mp hb with ⟨-, heq⟩ | ⟨-, hb⟩
    · cases heq
      exact ⟨hc, .inl hopen, _, Nat.lt_succ_self _, rfl⟩
    · obtain ⟨hinv, hstate, n, hn, hname⟩ := h.conn b name d hb
      exact ⟨hinv, hstate, n, hn.trans (Nat.lt_succ_self _), hname⟩
  · rcases update_eq_some.mp hb with ⟨-, heq⟩ | ⟨-, hb⟩
    · cases heq
      exact hc.addedToLoop hopen
    · exact h.addedToLoop b name d hb
  · rcases update_eq_some.mp hb with ⟨rfl, heq⟩ | ⟨-, hb⟩
    · cases heq
      exact ⟨AList.lookup_insert _, AList.lookup_insert _⟩
    · have hne := hfresh b name d hb
      obtain ⟨hl, hl'⟩ := h.opened b name d hb hopen'
      exact ⟨(AList.lookup_insert_ne hne).trans hl, (AList.lookup_insert_ne hne).trans hl'⟩
  · rcases update_eq_some.mp hb with ⟨rfl, heq⟩ | ⟨-, hb⟩
    · cases heq
      rw [hpending]
      exact List.count_eq_zero.mpr hnone
    · exact h.functors b name d hb
  · show (Function.update s.conns a (some (_, c)) b).isSome
    have hba : b ≠ a := by
      rintro rfl
      exact hnone hin
    rw [Function.update_of_ne hba]
    exact h.functor b hin
  · rw [h.destroyed]
    constructor
    · rintro ⟨name, d, hb, hd⟩
      exact ⟨name, d, update_eq_some.mpr (.inr ⟨hold b _ hb, hb⟩), hd⟩
    · rintro ⟨name, d, hb, hd⟩
      rcases update_eq_some.mp hb with ⟨-, heq⟩ | ⟨-, hb⟩
      · cases heq
        exact absurd hd (state_ne_of_isOpen hopen)
      · exact ⟨name, d, hb, hd⟩

theorem mem_values_of_lookup {l : AList (fun _ : Bytes => ℕ)} (h : l.lookup name = some a) :
    a ∈ l.entries.map (·.2) :=
  List.mem_map.mpr ⟨_, AList.mem_lookup_iff.mp h, rfl⟩

/-- The callbacks of an event that does not close the connection change nothing: there
is an `RtspConnection` for every message. -/
theorem foldlM_callback {new : List Callback} (hup : .up ∉ new) (hdown : .down ∉ new)
    (hclose : .close ∉ new) (hmessage : .message ∈ new → s.rtspConnMap.lookup name = some a) :
    new.foldlM (callback a name) s = some s := by
  induction new with
  | nil => rfl
  | cons x new ih =>
    have hx : callback a name s x = some s := by
      cases x with
      | up => simp at hup
      | message =>
        show (s.rtspConnMap.lookup name).map _ = _
        rw [hmessage List.mem_cons_self, Option.map_some]
      | down => simp at hdown
      | close => simp at hclose
      | writeComplete => rfl
      | highWaterMark len => rfl
    rw [List.foldlM_cons, hx]
    exact ih (fun h => hup (List.mem_cons_of_mem _ h)) (fun h => hdown (List.mem_cons_of_mem _ h))
      (fun h => hclose (List.mem_cons_of_mem _ h)) fun h => hmessage (List.mem_cons_of_mem _ h)

/-- The callbacks of a connection that is closed. -/
theorem foldlM_closed (hin : name ∈ s.connections) :
    [Callback.down, .close].foldlM (callback a name) s = some { s with
      connections := s.connections.erase name
      rtspConnMap := s.rtspConnMap.erase name
      pendingFunctors := s.pendingFunctors ++ [.connectDestroyed a] } := by
  have hclose : removeConnectionInLoop { s with rtspConnMap := s.rtspConnMap.erase name } a name =
      some { s with
        connections := s.connections.erase name
        rtspConnMap := s.rtspConnMap.erase name
        pendingFunctors := s.pendingFunctors ++ [.connectDestroyed a] } :=
    assert_bind_eq_some.mpr ⟨hin, rfl⟩
  show (removeConnectionInLoop { s with rtspConnMap := s.rtspConnMap.erase name } a name).bind _ = _
  rw [hclose]
  rfl

/-- An event after which the connection is still referred to. -/
theorem connEvent_of_held {e : TcpConnection.Event} {s' : TcpServer}
    (ha : s.conns a = some (name, c)) (hstep : c.step o.connection e = some c')
    (hfold : (c'.callbacks.drop c.callbacks.length).foldlM (callback a name) { s with
      conns := Function.update s.conns a (some (name, c'))
      pendingFunctors := s.pendingFunctors ++
        List.replicate (c'.pending.length - (c.taken e).length) (.functor a) } = some s')
    (ha' : s'.conns a = some (name, c')) (hheld : s'.Held a c') : connEvent o s a e = some s' :=
  Option.bind_eq_some_iff.mpr ⟨_, ha, Option.bind_eq_some_iff.mpr ⟨c', hstep,
    Option.bind_eq_some_iff.mpr ⟨s', hfold, Option.bind_eq_some_iff.mpr ⟨_, ha', if_pos hheld⟩⟩⟩⟩

theorem Inv.connEvent_stays (h : Inv o s) (ha : s.conns a = some (name, c))
    {e : TcpConnection.Event} (hstep : c.step o.connection e = some c')
    (hs : TcpConnection.Stays (c.taken e) c c') (hq : Rest s a (c.taken e) q) :
    ∃ s', connEvent o { s with pendingFunctors := q } a e = some s' ∧ Inv o s' := by
  obtain ⟨hc, hstate, -⟩ := h.conn a name c ha
  obtain ⟨fs, hfs, -⟩ := hs.pending
  obtain ⟨new, hnew, hup, hdown, hclose, hmessage⟩ := hs.callbacks
  have hk : c'.pending.length = (c.taken e).length +
      (c'.pending.length - (c.taken e).length) := by
    rw [hfs, List.length_append]
    omega
  have hinv := h.stays ha hs (hc.step hstep) hq hk
  refine ⟨_, connEvent_of_held (s := { s with pendingFunctors := q }) ha hstep ?_
    (Function.update_self ..) ?_, hinv⟩
  · rw [hnew, List.drop_left]
    exact foldlM_callback hup hdown hclose fun hin => (h.opened a name c ha (hmessage hin)).2
  · rcases hstate with hopen | hdown'
    · exact .inl (mem_values_of_lookup (h.opened a name c ha hopen).1)
    · refine .inr (.inr (.inl (List.mem_append_left _ ?_)))
      exact (hq.destroyed a).mpr ((h.destroyed a).mpr ⟨name, c, ha, hdown'⟩)

theorem Inv.connEvent_closes (h : Inv o s) (ha : s.conns a = some (name, c))
    {e : TcpConnection.Event} (hstep : c.step o.connection e = some c')
    (hs : TcpConnection.Closes (c.taken e) c c') (hq : Rest s a (c.taken e) q) :
    ∃ s', connEvent o { s with pendingFunctors := q } a e = some s' ∧ Inv o s' := by
  obtain ⟨hc, -, -⟩ := h.conn a name c ha
  have hin : name ∈ s.connections :=
    AList.lookup_isSome.mp (by rw [(h.opened a name c ha hs.isOpen).1, Option.isSome_some])
  have hinv := h.closes ha hs (hc.step hstep) hq
  refine ⟨_, connEvent_of_held (s := { s with pendingFunctors := q }) ha hstep ?_
    (Function.update_self ..) ?_, hinv⟩
  · rw [hs.callbacks, List.drop_left, hs.pending, Nat.sub_self, List.replicate_zero,
      List.append_nil]
    exact foldlM_closed hin
  · exact .inr (.inr (.inl (List.mem_append_right _ (List.mem_singleton_self _))))

/-- An event of a connection that is not the first, and not the last. -/
theorem Inv.connEvent (h : Inv o s) (ha : s.conns a = some (name, c)) {e : TcpConnection.Event}
    (hstep : c.step o.connection e = some c') (he : ∀ calls, e ≠ .established calls)
    (hdestroyed : e ≠ .destroyed) (hq : Rest s a (c.taken e) q) :
    ∃ s', TcpServer.connEvent o { s with pendingFunctors := q } a e = some s' ∧ Inv o s' := by
  obtain ⟨hc, -, -⟩ := h.conn a name c ha
  rcases hc.stays_or_closes hstep he hdestroyed with hs | hs
  · exact h.connEvent_stays ha hstep hs hq
  · exact h.connEvent_closes ha hstep hs hq

/-- `connectDestroyed` is the last that is done for a connection: it is deleted. -/
theorem Inv.connectDestroyed (h : Inv o s) (hq : s.pendingFunctors = .connectDestroyed a :: q) :
    TcpServer.connEvent o { s with pendingFunctors := q } a .destroyed = some { s with
        conns := Function.update s.conns a none
        pendingFunctors := q } ∧
      Inv o { s with
        conns := Function.update s.conns a none
        pendingFunctors := q } := by
  obtain ⟨name, c, ha, hdown⟩ := (h.destroyed a).mp (hq ▸ List.mem_cons_self)
  obtain ⟨hc, -, -⟩ := h.conn a name c ha
  obtain ⟨hpending, hinv⟩ := h.destroyed_functor hq ha hdown
  let c' : TcpConnection := { c with addedToLoop := false }
  have hstep : c.step o.connection .destroyed = some c' :=
    hc.connectDestroyed_eq hdown (h.addedToLoop a name c ha)
  have hentry : ∀ l : AList (fun _ : Bytes => ℕ), (∀ n b, l.lookup n = some b →
      ∃ d, s.conns b = some (n, d) ∧ d.isOpen = true) → a ∉ l.entries.map (·.2) := by
    intro l hl hin
    obtain ⟨⟨n, b⟩, hentry, rfl⟩ := List.mem_map.mp hin
    obtain ⟨d, hb, hopen⟩ := hl n b (AList.mem_lookup_iff.mpr hentry)
    cases ha.symm.trans hb
    exact state_ne_of_isOpen hopen hdown
  have horder := h.order
  rw [hq] at horder
  let s₁ : TcpServer := { s with
    conns := Function.update s.conns a (some (name, c'))
    pendingFunctors := q }
  have hnot : ¬ s₁.Held a c' := by
    rintro (hin | hin | hin | ⟨f, hf, -⟩)
    · exact hentry _ h.connections hin
    · exact hentry _ h.rtspConnMap hin
    · exact ((List.pairwise_cons.mp horder).1 _ hin a rfl).2 rfl
    · rw [show c'.pending = [] from hpending] at hf
      cases hf
  refine ⟨Option.bind_eq_some_iff.mpr ⟨_, ha, Option.bind_eq_some_iff.mpr ⟨c', hstep,
    Option.bind_eq_some_iff.mpr ⟨s₁, ?_, Option.bind_eq_some_iff.mpr ⟨(name, c'),
      Function.update_self .., (if_neg hnot).trans
        (assert_bind_eq_some.mpr ⟨⟨hdown, rfl⟩, ?_⟩)⟩⟩⟩⟩, hinv⟩
  · rw [show c'.callbacks.drop c.callbacks.length = [] from List.drop_length,
      show c'.pending = [] from hpending]
    show some _ = some s₁
    simp [s₁]
  · show some { s with
      conns := Function.update (Function.update s.conns a (some (name, c'))) a none
      pendingFunctors := q } = _
    rw [Function.update_idem]

/-- What `accept` comes to: the new connection is established. -/
theorem newConnection_eq (o : ServerOptions) (s : TcpServer) (a : ℕ) :
    s.newConnection o a = some { s with
      conns := Function.update s.conns a
        (some (connName o s.nextConnId, TcpConnection.connectEstablished {}))
      nextConnId := s.nextConnId + 1
      connections := s.connections.insert (connName o s.nextConnId) a
      rtspConnMap := s.rtspConnMap.insert (connName o s.nextConnId) a } := by
  refine connEvent_of_held (c := {}) (Function.update_self ..) rfl ?_ (Function.update_self ..)
    (.inl (mem_values_of_lookup (AList.lookup_insert _)))
  show some { s with
    conns := Function.update (Function.update s.conns a _) a _
    nextConnId := s.nextConnId + 1
    connections := s.connections.insert (connName o s.nextConnId) a
    rtspConnMap := s.rtspConnMap.insert (connName o s.nextConnId) a
    pendingFunctors := s.pendingFunctors ++ [] } = _
  rw [Function.update_idem, List.append_nil]

theorem Inv.newConnection (h : Inv o s) (ha : s.conns a = none) (hid : s.nextConnId < 2 ^ 31) :
    ∃ s', s.newConnection o a = some s' ∧ Inv o s' := by
  have hstep : TcpConnection.step o.connection {} (.established []) =
      some (TcpConnection.connectEstablished {}) := rfl
  exact ⟨_, newConnection_eq o s a,
    h.accept ha hid (TcpConnection.inv_new.step hstep) rfl rfl⟩

/-- **Every event that can happen has a result**, after which the invariant holds
again. -/
theorem Inv.exec (h : Inv o s) {e : Event} (he : s.Enabled o e) :
    ∃ s', s.exec o e = some s' ∧ Inv o s' := by
  cases e with
  | accept a => exact h.newConnection he.1 he.2
  | conn a e =>
    obtain ⟨hexternal, name, c, ha, hsome⟩ := he
    obtain ⟨c', hstep⟩ := Option.isSome_iff_exists.mp hsome
    have htaken : c.taken e = c.pending := by
      cases e with
      | functor r => exact absurd hexternal id
      | _ => rfl
    refine h.connEvent ha hstep ?_ ?_ (htaken ▸ h.rest ha)
    · rintro calls rfl
      exact hexternal
    · rintro rfl
      exact hexternal
  | functor r =>
    obtain ⟨hne, hpossible⟩ := he
    obtain ⟨t, q, hq⟩ := List.exists_cons_of_ne_nil hne
    show ∃ s', s.callFunctor o r = some s' ∧ Inv o s'
    cases t with
    | functor a =>
      obtain ⟨⟨name, c⟩, ha⟩ := Option.isSome_iff_exists.mp (h.functor a (hq ▸ List.mem_cons_self))
      have hpending : c.pending ≠ [] := by
        intro hnil
        have hcount := h.functors a name c ha
        rw [hnil, hq, List.count_cons_self] at hcount
        simp at hcount
      obtain ⟨c', hstep⟩ := Option.isSome_iff_exists.mp (hpossible a q name c hpending hq ha)
      rw [callFunctor, hq]
      exact h.connEvent ha hstep nofun nofun (h.rest_tail ha hq)
    | connectDestroyed a =>
      rw [callFunctor, hq]
      exact ⟨_, h.connectDestroyed hq⟩

end

theorem Inv.init (o : ServerOptions) : Inv o {} where
  conn _ _ _ ha := by cases ha
  addedToLoop _ _ _ ha := by cases ha
  nextConnId := Nat.one_le_two_pow
  unique _ _ _ _ _ ha := by cases ha
  opened _ _ _ ha := by cases ha
  connections _ _ hl := by cases hl
  rtspConnMap _ _ hl := by cases hl
  functors _ _ _ ha := by cases ha
  functor _ hin := by cases hin
  destroyed _ := ⟨fun hin => (by cases hin), fun ⟨_, _, ha, _⟩ => (by cases ha)⟩
  order := List.Pairwise.nil

theorem inv_of_run {o : ServerOptions} {es : List Event} {s : TcpServer}
    (h : (system o).Run es s) : Inv o s := by
  refine h.invariant ?_ fun s e s' hinv hs => ?_
  · rintro s rfl
    exact Inv.init o
  · obtain ⟨s₁, hs₁, hinv'⟩ := hinv.exec hs.1
    cases hs₁.symm.trans hs.2
    exact hinv'

/-- **Nothing that a server follows is missing.** No functor in the queue is for a
connection that was deleted; every message finds the `RtspConnection` of its
connection; a connection that is closed is in the table; and a connection is deleted
only when it is down. -/
theorem nothingMissing_of_run {o : ServerOptions} {es : List Event} {s : TcpServer}
    (h : (system o).Run es s) {e : Event} (he : s.Enabled o e) : (s.exec o e).isSome := by
  obtain ⟨s', hs', -⟩ := (inv_of_run h).exec he
  rw [hs', Option.isSome_some]

/-- The server of the example program. -/
def rtspServer : ServerOptions where
  name := ascii "RtspServer"
  ipPort := ascii "0.0.0.0:554"
  length_ipPort := by decide

theorem run_accept {es : List Event} {s : TcpServer} {o : ServerOptions}
    (h : (system o).Run es s) {a : ℕ} (ha : s.conns a = none) (hid : s.nextConnId < 2 ^ 31) :
    (system o).Run (es ++ [.accept a]) { s with
      conns := Function.update s.conns a
        (some (connName o s.nextConnId, TcpConnection.connectEstablished {}))
      nextConnId := s.nextConnId + 1
      connections := s.connections.insert (connName o s.nextConnId) a
      rtspConnMap := s.rtspConnMap.insert (connName o s.nextConnId) a } :=
  h.snoc ⟨⟨ha, hid⟩, newConnection_eq o s a⟩

/-- A server with one connection, at address 7. -/
def oneClient : TcpServer where
  conns := Function.update (fun _ => none) 7
    (some (connName rtspServer 1, TcpConnection.connectEstablished {}))
  nextConnId := 2
  connections := AList.insert (connName rtspServer 1) 7 ∅
  rtspConnMap := AList.insert (connName rtspServer 1) 7 ∅

theorem run_oneClient : (system rtspServer).Run [.accept 7] oneClient := by
  have hnil : (system rtspServer).Run [] {} := .nil rfl
  exact run_accept hnil rfl (by decide)

/-- Another thread has sent a message to the client: `sendInLoop` is in the queue, with a
plain pointer. -/
def sentElsewhere : TcpServer :=
  { oneClient with
    conns := Function.update oneClient.conns 7 (some (connName rtspServer 1,
      (TcpConnection.connectEstablished {}).sendElsewhere [1, 2, 3]))
    pendingFunctors := [.functor 7] }

theorem run_sentElsewhere :
    (system rtspServer).Run [.accept 7, .conn 7 (.sendElsewhere [1, 2, 3])] sentElsewhere := by
  refine run_oneClient.snoc ⟨⟨trivial, _, _, rfl, rfl⟩, ?_⟩
  exact connEvent_of_held rfl rfl rfl (by simp [sentElsewhere])
    (.inl (mem_values_of_lookup (AList.lookup_insert _)))

/-- The functor is called: the connection that it is for is there. -/
theorem nothingMissing_of_run_sentElsewhere :
    (sentElsewhere.exec rtspServer (.functor (.wrote 3))).isSome := by
  refine nothingMissing_of_run run_sentElsewhere ⟨by simp [sentElsewhere], ?_⟩
  intro conn rest name c _ hq hconn
  cases hq
  cases hconn
  rfl

/-- A second client has come, at address 8. -/
def twoClients : TcpServer :=
  { oneClient with
    conns := Function.update oneClient.conns 8
      (some (connName rtspServer 2, TcpConnection.connectEstablished {}))
    nextConnId := 3
    connections := oneClient.connections.insert (connName rtspServer 2) 8
    rtspConnMap := oneClient.rtspConnMap.insert (connName rtspServer 2) 8 }

/-- The first client has closed its connection. -/
def firstClosed : TcpServer :=
  { twoClients with
    conns := Function.update twoClients.conns 7
      (some (connName rtspServer 1, (TcpConnection.connectEstablished {}).handleClose))
    connections := twoClients.connections.erase (connName rtspServer 1)
    rtspConnMap := twoClients.rtspConnMap.erase (connName rtspServer 1)
    pendingFunctors := [.connectDestroyed 7] }

/-- The connection is deleted. -/
def secondClient : TcpServer :=
  { firstClosed with
    conns := Function.update firstClosed.conns 7 none
    pendingFunctors := [] }

theorem run_secondClient : (system rtspServer).Run [.accept 7, .accept 8,
    .conn 7 (.event { pollIn := true } .endOfStream [] .wouldBlock), .functor .wouldBlock]
    secondClient := by
  have htwo : (system rtspServer).Run [.accept 7, .accept 8] twoClients :=
    run_accept run_oneClient rfl (by decide)
  have hin : connName rtspServer 1 ∈ twoClients.connections :=
    AList.lookup_isSome.mp rfl
  have hclosed : (system rtspServer).Run ([.accept 7, .accept 8] ++
      [.conn 7 (.event { pollIn := true } .endOfStream [] .wouldBlock)]) firstClosed := by
    refine htwo.snoc ⟨⟨trivial, _, _, rfl, rfl⟩, ?_⟩
    exact connEvent_of_held rfl rfl (foldlM_closed hin) (by simp [firstClosed])
      (.inr (.inr (.inl (List.mem_singleton_self _))))
  refine hclosed.snoc ⟨⟨List.cons_ne_nil _ _, fun _ _ _ _ _ hq => (by cases hq)⟩, ?_⟩
  exact ((inv_of_run hclosed).connectDestroyed (q := []) rfl).1

end TcpServer

end Muduo
