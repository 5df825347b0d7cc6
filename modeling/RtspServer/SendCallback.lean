import RtspServer.SharedHeap
import RtspServer.MediaSession

/-!
# The send callback

The callback that a session gives to its sources fans a packet out. Under the
lock it walks through `_clients`, erases the entries that have expired,
and for each of the others whose TCP connection is there copies the packet into a
buffer of its own, in a map under the name of the connection; then it calls
`sendRtpPacket` on each with the copy of its name.

A packet is passed with a pointer to its buffer, and what is sent is written
into that buffer in place, now or while the callback goes on. Here a packet is
a `PacketRef` into a heap, and after each call the buffers given away so far
may hold anything. With names that differ every client nevertheless gets the
source's packet, in a buffer that no one else has (`sendCallback_spec`).
-/

/-- An `RtpPacket` with its pointer: `data` is the address of the buffer. -/
structure PacketRef where
  data : ℕ
  size : UInt32 := 0
  timestamp : UInt32 := 0
  type : UInt8 := 0
  last : UInt8 := 0
deriving DecidableEq

namespace PacketRef

/-- The packet as it is now. -/
def packet (p : PacketRef) (heap : SharedHeap (Block 1600)) : RtpPacket :=
  { data := heap.block p.data
    size := p.size
    timestamp := p.timestamp
    type := p.type
    last := p.last }

/-- The copy of a packet, in a buffer of its own. -/
def copy (p : PacketRef) (heap : SharedHeap (Block 1600)) :
    Except Fault (PacketRef × SharedHeap (Block 1600)) := do
  let (data, heap) := heap.alloc
  let block ← (heap.block data).memcpy 0 (heap.block p.data).toList 0 p.size.toNat
  let tmpPkt : PacketRef :=
    { data := data
      size := p.size
      last := p.last
      timestamp := p.timestamp
      type := p.type }
  return (tmpPkt, heap.write data block)

end PacketRef

/-- A call of `sendRtpPacket`: the connection, the channel, the buffer and the
packet as the call finds it. -/
structure SendCall (ρ : Type) where
  conn : ρ
  channelId : MediaChannelId
  data : ℕ
  packet : RtpPacket

namespace MediaSession

variable {ρ : Type}

/-- The callback while it holds the lock. -/
structure Locked (ρ : Type) where
  heap : SharedHeap (Block 1600)
  clients : AList (fun _ : ℤ => ρ)
  packets : AList (fun _ : Bytes => PacketRef) := ∅
  rtpConnList : List ρ := []

/-- `getId`: the name of the TCP connection, empty when it is gone. -/
def getId (tcpName : ρ → Option Bytes) (r : ρ) : Bytes := (tcpName r).getD []

/-- The body of the loop over `_clients`. -/
def visit (live : ρ → Bool) (tcpName : ρ → Option Bytes) (pkt : PacketRef) (st : Locked ρ)
    (e : Σ _ : ℤ, ρ) : Except Fault (Locked ρ) :=
  if live e.2 then
    let id := getId tcpName e.2
    if id ≠ [] then
      match st.packets.lookup id with
      | some _ => .ok { st with rtpConnList := e.2 :: st.rtpConnList }
      | none => do
        let (tmpPkt, heap) ← pkt.copy st.heap
        return { st with
          heap := heap
          packets := st.packets.insert id tmpPkt
          rtpConnList := e.2 :: st.rtpConnList }
    else .ok st
  else .ok { st with clients := st.clients.erase e.1 }

/-- The key that `begin()` of the map stands at, none for `end()`. -/
def begin (clients : AList (fun _ : ℤ => ρ)) : Option ℤ := clients.entries.head?.map (·.1)

/-- The key after `fd`, where an iterator at `fd` is advanced to. -/
def next (clients : AList (fun _ : ℤ => ρ)) (fd : ℤ) : Option ℤ :=
  ((clients.entries.dropWhile fun e => e.1 ≠ fd).drop 1).head?.map (·.1)

/-- The loop over `_clients`, with the iterator as a key of the map as it is
now. The iterator is advanced before its entry may be erased; an iterator to
an entry that is gone is a fault. Each round takes one of the `n`. -/
def walk (live : ρ → Bool) (tcpName : ρ → Option Bytes) (pkt : PacketRef) :
    ℕ → Option ℤ → Locked ρ → Except Fault (Locked ρ)
  | 0, _, st => .ok st
  | _ + 1, none, st => .ok st
  | n + 1, some fd, st =>
    match st.clients.lookup fd with
    | none => .error .nullPointer
    | some r => do
      let iter := next st.clients fd
      let st ← visit live tcpName pkt st ⟨fd, r⟩
      walk live tcpName pkt n iter st

/-- The loop over the connections: the heap at its end, and the calls made.
After a call the buffers given away may hold anything. -/
def sendAll (tcpName : ρ → Option Bytes) (touch : List (SendCall ρ) → ℕ → Block 1600)
    (channelId : MediaChannelId) (packets : AList (fun _ : Bytes => PacketRef)) :
    List ρ → SharedHeap (Block 1600) → List (SendCall ρ) →
      SharedHeap (Block 1600) × List (SendCall ρ)
  | [], heap, calls => (heap, calls)
  | r :: conns, heap, calls =>
    let id := getId tcpName r
    if id ≠ [] then
      match packets.lookup id with
      | some pkt =>
        let calls := calls ++ [⟨r, channelId, pkt.data, pkt.packet heap⟩]
        sendAll tcpName touch channelId packets conns
          (heap.scrambled (calls.map (·.data)) (touch calls)) calls
      | none => sendAll tcpName touch channelId packets conns heap calls
    else sendAll tcpName touch channelId packets conns heap calls

/-- What the callback leaves behind. -/
structure FannedOut (ρ : Type) where
  heap : SharedHeap (Block 1600)
  session : MediaSession ρ
  calls : List (SendCall ρ)

/-- The send callback. -/
def sendCallback (live : ρ → Bool) (tcpName : ρ → Option Bytes)
    (touch : List (SendCall ρ) → ℕ → Block 1600) (channelId : MediaChannelId) (pkt : PacketRef)
    (heap : SharedHeap (Block 1600)) (s : MediaSession ρ) : Except Fault (FannedOut ρ) := do
  let st ← walk live tcpName pkt s.clients.entries.length (begin s.clients)
    { heap := heap, clients := s.clients }
  let (heap, calls) := sendAll tcpName touch channelId st.packets st.rtpConnList st.heap []
  return ⟨heap, { s with clients := st.clients }, calls⟩

/-! ## The copies -/

/-- A copy of the packet `src`, as it is in the heap now. -/
structure IsCopy (src : RtpPacket) (heap : SharedHeap (Block 1600)) (p : PacketRef) : Prop where
  size : p.size = src.size
  timestamp : p.timestamp = src.timestamp
  type : p.type = src.type
  last : p.last = src.last
  used : (p.packet heap).used = src.used

/-- A copy stays one while its buffer is not written. -/
theorem IsCopy.of_block {src : RtpPacket} {heap heap' : SharedHeap (Block 1600)} {p : PacketRef}
    (h : IsCopy src heap p) (hblock : heap'.block p.data = heap.block p.data) :
    IsCopy src heap' p := by
  refine ⟨h.size, h.timestamp, h.type, h.last, ?_⟩
  rw [← h.used]
  unfold PacketRef.packet
  rw [hblock]

/-- **Copying a packet** that fits the buffers. -/
theorem copy_spec {p : PacketRef} {heap : SharedHeap (Block 1600)} (hsize : p.size.toNat ≤ 1600) :
    ∃ q heap', p.copy heap = .ok (q, heap') ∧ q.data = heap.next ∧ heap'.next = heap.next + 1 ∧
      heap.Extends heap' ∧ IsCopy (p.packet heap) heap' q := by
  have hlength : (heap.block p.data).toList.length = 1600 := List.Vector.toList_length _
  have hfits : 0 + p.size.toNat ≤ (heap.block p.data).toList.length := by omega
  have hcopy := Block.memcpy_eq_ok (heap.block heap.next) hfits
    (show 0 + p.size.toNat ≤ 1600 by omega)
  unfold PacketRef.copy
  dsimp only
  rw [SharedHeap.alloc_block]
  rw [show heap.block heap.alloc.1 = heap.block heap.next from rfl, hcopy]
  refine ⟨_, _, rfl, rfl, rfl, heap.extends_alloc_write _, rfl, rfl, rfl, rfl, ?_⟩
  unfold PacketRef.packet RtpPacket.used
  dsimp only
  rw [SharedHeap.write_self, Block.toList_write, List.drop_zero]
  have hused : ((heap.block p.data).toList.take p.size.toNat).length = p.size.toNat :=
    List.length_take_of_le (by omega)
  unfold overwrite
  rw [List.take_zero, List.nil_append]
  exact List.take_left' hused

/-! ## The walk through the clients

An entry that is erased is the one the iterator has just left, so the walk
comes by every entry the map has at its beginning, once and in order. -/

variable {live : ρ → Bool} {tcpName : ρ → Option Bytes}

/-- A round of the loop erases its own entry, or none. -/
theorem visit_clients {pkt : PacketRef} {st st' : Locked ρ} {e : Σ _ : ℤ, ρ}
    (h : visit live tcpName pkt st e = .ok st') :
    st'.clients = st.clients ∨ st'.clients = st.clients.erase e.1 := by
  unfold visit at h
  dsimp only at h
  split at h
  · split at h
    · split at h
      · cases h
        exact .inl rfl
      · obtain ⟨_, -, h⟩ := Except.bind_eq_ok_iff.mp h
        cases h
        exact .inl rfl
    · cases h
      exact .inl rfl
  · cases h
    exact .inr rfl

/-- The iterator after an entry stands at the next one. -/
theorem next_eq {clients : AList (fun _ : ℤ => ρ)} {pre rest : List (Σ _ : ℤ, ρ)}
    {e : Σ _ : ℤ, ρ} (h : clients.entries = pre ++ e :: rest) :
    next clients e.1 = rest.head?.map (·.1) := by
  have hkeys : (pre ++ e :: rest).NodupKeys := h ▸ clients.nodupKeys
  have hpre : ∀ x ∈ pre, (decide (x.1 ≠ e.1)) = true := by
    intro x hx
    exact decide_eq_true ((List.pairwise_append.mp (List.nodupKeys_iff_pairwise.mp hkeys)).2.2
      x hx e List.mem_cons_self)
  unfold next
  rw [h, List.dropWhile_append_of_pos hpre, List.dropWhile_cons_of_neg (by simp)]
  rfl

/-- Erasing the entry in the middle. -/
theorem entries_erase {clients : AList (fun _ : ℤ => ρ)} {pre rest : List (Σ _ : ℤ, ρ)}
    {e : Σ _ : ℤ, ρ} (h : clients.entries = pre ++ e :: rest) :
    (clients.erase e.1).entries = pre ++ rest := by
  have hkeys : (pre ++ e :: rest).NodupKeys := h ▸ clients.nodupKeys
  have hpre : e.1 ∉ pre.keys := by
    intro hmem
    obtain ⟨r, hr⟩ := List.exists_of_mem_keys hmem
    exact (List.pairwise_append.mp (List.nodupKeys_iff_pairwise.mp hkeys)).2.2
      ⟨e.1, r⟩ hr e List.mem_cons_self rfl
  show clients.entries.kerase e.1 = pre ++ rest
  rw [h, List.kerase_append_right hpre, List.kerase_cons_eq rfl]

/-- **The loop visits the entries of the map in order**, although it erases
from the map it walks through. -/
theorem walk_eq_foldlM (pkt : PacketRef) {n : ℕ} {pre rest : List (Σ _ : ℤ, ρ)} {st : Locked ρ}
    (hst : st.clients.entries = pre ++ rest) (hn : rest.length ≤ n) :
    walk live tcpName pkt n (rest.head?.map (·.1)) st
      = rest.foldlM (visit live tcpName pkt) st := by
  induction rest generalizing n pre st with
  | nil => cases n <;> rfl
  | cons e rest ih =>
    obtain ⟨n, rfl⟩ : ∃ k, n = k + 1 := ⟨n - 1, by simp only [List.length_cons] at hn; omega⟩
    have hlook : st.clients.lookup e.1 = some e.2 :=
      AList.mem_lookup_iff.mpr (hst ▸ List.mem_append_right _ List.mem_cons_self)
    rw [List.head?_cons, Option.map_some, List.foldlM_cons]
    unfold walk
    rw [hlook]
    dsimp only
    rw [next_eq hst]
    cases hvisit : visit live tcpName pkt st e with
    | error f => rfl
    | ok st' =>
      have hrest : ∃ pre', st'.clients.entries = pre' ++ rest := by
        rcases visit_clients hvisit with heq | heq <;> rw [heq]
        · exact ⟨pre ++ [e], by rw [hst, List.append_assoc]; rfl⟩
        · exact ⟨pre, entries_erase hst⟩
      obtain ⟨pre', hpre'⟩ := hrest
      exact ih hpre' (Nat.le_of_succ_le_succ hn)

/-- The entry is not expired, and its TCP connection is there. -/
def reachable (live : ρ → Bool) (tcpName : ρ → Option Bytes) (r : ρ) : Bool :=
  live r && (tcpName r).isSome

/-- **After the entries `done` were visited**, with `heap` as it was before:
the entries of these that have expired are erased, the connections to send to
are the others with a TCP connection, and each has under its name a copy in a
new buffer, no two names in the same. -/
structure Visited (live : ρ → Bool) (tcpName : ρ → Option Bytes) (s : MediaSession ρ)
    (heap : SharedHeap (Block 1600)) (pkt : PacketRef) (done : List (Σ _ : ℤ, ρ))
    (st : Locked ρ) : Prop where
  clients : ∀ fd r, st.clients.lookup fd = some r ↔
    s.clients.lookup fd = some r ∧ (⟨fd, r⟩ ∈ done → live r = true)
  rtpConnList : st.rtpConnList = ((done.map (·.2)).filter (reachable live tcpName)).reverse
  found : ∀ r ∈ st.rtpConnList, (st.packets.lookup (getId tcpName r)).isSome = true
  grown : heap.Extends st.heap
  copies : ∀ id p, st.packets.lookup id = some p →
    heap.next ≤ p.data ∧ p.data < st.heap.next ∧ IsCopy (pkt.packet heap) st.heap p
  apart : ∀ id id' p p', st.packets.lookup id = some p → st.packets.lookup id' = some p' →
    p.data = p'.data → id = id'

theorem visited_nil (s : MediaSession ρ) (heap : SharedHeap (Block 1600)) (pkt : PacketRef) :
    Visited live tcpName s heap pkt [] { heap := heap, clients := s.clients } := by
  refine ⟨fun fd r => ?_, rfl, List.forall_mem_nil _, .refl heap, fun id p h => ?_,
    fun id id' p p' h => ?_⟩
  · exact (and_iff_left fun h => absurd h List.not_mem_nil).symm
  · cases h
  · cases h

section Step

variable {s : MediaSession ρ} {heap : SharedHeap (Block 1600)} {pkt : PacketRef}
  {done : List (Σ _ : ℤ, ρ)} {st : Locked ρ} {e : Σ _ : ℤ, ρ}

/-- What the connections to send to are after one more entry. -/
theorem Visited.rtpConnList_append (h : Visited live tcpName s heap pkt done st)
    (e : Σ _ : ℤ, ρ) : (((done ++ [e]).map (·.2)).filter (reachable live tcpName)).reverse
      = (if reachable live tcpName e.2 then [e.2] else []) ++ st.rtpConnList := by
  rw [h.rtpConnList, List.map_append, List.filter_append, List.reverse_append, List.map_singleton,
    List.filter_singleton]
  cases reachable live tcpName e.2 <;> rfl

/-- An entry that has expired is erased. -/
theorem Visited.expired (h : Visited live tcpName s heap pkt done st)
    (he : s.clients.lookup e.1 = some e.2) (hlive : live e.2 = false) :
    Visited live tcpName s heap pkt (done ++ [e]) { st with clients := st.clients.erase e.1 } := by
  have hconns : (if reachable live tcpName e.2 then [e.2] else []) = ([] : List ρ) := by
    unfold reachable
    rw [hlive]
    rfl
  refine ⟨fun fd r => ?_, ?_, h.found, h.grown, h.copies, h.apart⟩
  · show (st.clients.erase e.1).lookup fd = some r ↔ _
    by_cases hfd : fd = e.1
    · subst hfd
      rw [AList.lookup_erase]
      refine iff_of_false nofun fun ⟨hr, hall⟩ => ?_
      cases he.symm.trans hr
      have := hall (List.mem_append_right _ (List.mem_singleton.mpr rfl))
      rw [hlive] at this
      cases this
    · have hne : (⟨fd, r⟩ : Σ _ : ℤ, ρ) ≠ e := fun h => hfd (congrArg Sigma.fst h)
      rw [AList.lookup_erase_ne hfd, h.clients, List.mem_append, List.mem_singleton,
        or_iff_left hne]
  · rw [h.rtpConnList_append, hconns]
    rfl

/-- An entry that is kept. -/
theorem Visited.kept (h : Visited live tcpName s heap pkt done st) (hlive : live e.2 = true)
    (fd : ℤ) (r : ρ) : st.clients.lookup fd = some r ↔
      s.clients.lookup fd = some r ∧ (⟨fd, r⟩ ∈ done ++ [e] → live r = true) := by
  rw [h.clients]
  refine and_congr_right fun _ => ⟨fun hall hmem => ?_, fun hall hmem => ?_⟩
  · rcases List.mem_append.mp hmem with hmem | hmem
    · exact hall hmem
    · rw [← List.mem_singleton.mp hmem] at hlive
      exact hlive
  · exact hall (List.mem_append_left _ hmem)

/-- What stands in a map after an insertion was inserted, or was there under
another name. -/
theorem lookup_insert_cases {packets : AList (fun _ : Bytes => PacketRef)} {id i : Bytes}
    {q p : PacketRef} (h : (packets.insert id q).lookup i = some p) :
    i = id ∧ p = q ∨ i ≠ id ∧ packets.lookup i = some p := by
  by_cases hi : i = id
  · subst hi
    rw [AList.lookup_insert] at h
    exact .inl ⟨rfl, (Option.some.inj h).symm⟩
  · rw [AList.lookup_insert_ne hi] at h
    exact .inr ⟨hi, h⟩

theorem lookup_insert_isSome {packets : AList (fun _ : Bytes => PacketRef)} {id i : Bytes}
    {q : PacketRef} (h : (packets.lookup i).isSome = true) :
    ((packets.insert id q).lookup i).isSome = true := by
  by_cases hi : i = id
  · subst hi
    rw [AList.lookup_insert]
    rfl
  · rw [AList.lookup_insert_ne hi]
    exact h

/-- What the connections to send to are after an entry that is reachable. -/
theorem Visited.rtpConnList_reachable (h : Visited live tcpName s heap pkt done st)
    (hlive : live e.2 = true) {id : Bytes} (htcp : tcpName e.2 = some id) :
    e.2 :: st.rtpConnList
      = (((done ++ [e]).map (·.2)).filter (reachable live tcpName)).reverse := by
  rw [h.rtpConnList_append]
  unfold reachable
  rw [htcp, hlive]
  rfl

/-- The packet is copied under a name that is new: the copy is in a new buffer,
and the others stay copies of what the source gave. -/
theorem Visited.copied (h : Visited live tcpName s heap pkt done st)
    (hsize : pkt.size.toNat ≤ 1600) (hpkt : pkt.data < heap.next) (hlive : live e.2 = true)
    {id : Bytes} (htcp : tcpName e.2 = some id) : ∃ q heap', pkt.copy st.heap = .ok (q, heap') ∧
      Visited live tcpName s heap pkt (done ++ [e])
        { st with
          heap := heap'
          packets := st.packets.insert id q
          rtpConnList := e.2 :: st.rtpConnList } := by
  have hid : getId tcpName e.2 = id := by
    unfold getId
    rw [htcp]
    rfl
  have hsrc : pkt.packet st.heap = pkt.packet heap := by
    unfold PacketRef.packet
    rw [h.grown.block_eq _ hpkt]
  obtain ⟨q, heap', hcopy, hdata, hnext, hgrown, hq⟩ := @copy_spec pkt st.heap hsize
  rw [hsrc] at hq
  have hold : ∀ i p, st.packets.lookup i = some p → p.data < st.heap.next := fun i p hp =>
    (h.copies i p hp).2.1
  refine ⟨q, heap', hcopy, h.kept hlive, h.rtpConnList_reachable hlive htcp, ?_,
    h.grown.trans hgrown, ?_, ?_⟩
  · refine List.forall_mem_cons.mpr ⟨?_, fun r hr => lookup_insert_isSome (h.found r hr)⟩
    rw [hid, AList.lookup_insert]
    rfl
  · intro i p hp
    rcases lookup_insert_cases hp with ⟨-, rfl⟩ | ⟨-, hp⟩
    · exact ⟨hdata ▸ h.grown.next_le, by rw [hdata, hnext]; exact Nat.lt_succ_self _, hq⟩
    · obtain ⟨hnew, hlt, hcopied⟩ := h.copies i p hp
      exact ⟨hnew, hlt.trans_le hgrown.next_le, hcopied.of_block (hgrown.block_eq _ hlt)⟩
  · intro i i' p p' hp hp' heq
    rcases lookup_insert_cases hp with ⟨hi, hpq⟩ | ⟨-, hpold⟩ <;>
      rcases lookup_insert_cases hp' with ⟨hi', hpq'⟩ | ⟨-, hpold'⟩
    · exact hi.trans hi'.symm
    · rw [hpq, hdata] at heq
      exact absurd heq (hold _ _ hpold').ne'
    · rw [hpq', hdata] at heq
      exact absurd heq (hold _ _ hpold).ne
    · exact h.apart i i' p p' hpold hpold' heq

/-- **One round of the loop.** -/
theorem Visited.visit (h : Visited live tcpName s heap pkt done st)
    (hsize : pkt.size.toNat ≤ 1600) (hpkt : pkt.data < heap.next)
    (hname : live e.2 = true → tcpName e.2 ≠ some []) (he : s.clients.lookup e.1 = some e.2) :
    ∃ st', MediaSession.visit live tcpName pkt st e = .ok st' ∧
      Visited live tcpName s heap pkt (done ++ [e]) st' := by
  unfold MediaSession.visit
  cases hlive : live e.2 with
  | false =>
    rw [if_neg Bool.false_ne_true]
    exact ⟨_, rfl, h.expired he hlive⟩
  | true =>
    rw [if_pos rfl]
    cases htcp : tcpName e.2 with
    | none =>
      have hid : getId tcpName e.2 = [] := by
        unfold getId
        rw [htcp]
        rfl
      dsimp only
      rw [if_neg (not_not_intro hid)]
      refine ⟨st, rfl, h.kept hlive, ?_, h.found, h.grown, h.copies, h.apart⟩
      rw [h.rtpConnList_append]
      unfold reachable
      rw [htcp, hlive]
      rfl
    | some id =>
      have hid : getId tcpName e.2 = id := by
        unfold getId
        rw [htcp]
        rfl
      have hne : id ≠ [] := fun hnil => hname hlive (htcp.trans (congrArg some hnil))
      dsimp only
      rw [hid, if_pos hne]
      cases hlook : st.packets.lookup id with
      | some p =>
        refine ⟨_, rfl, h.kept hlive, h.rtpConnList_reachable hlive htcp,
          List.forall_mem_cons.mpr ⟨?_, h.found⟩, h.grown, h.copies, h.apart⟩
        rw [hid, hlook]
        rfl
      | none =>
        obtain ⟨q, heap', hcopy, hvisited⟩ := h.copied hsize hpkt hlive htcp
        rw [hcopy]
        exact ⟨_, rfl, hvisited⟩

/-- **After the loop.** -/
theorem Visited.foldlM (hsize : pkt.size.toNat ≤ 1600) (hpkt : pkt.data < heap.next)
    (hname : ∀ fd r, s.clients.lookup fd = some r → live r = true → tcpName r ≠ some [])
    (rest : List (Σ _ : ℤ, ρ)) (hrest : ∀ e ∈ rest, s.clients.lookup e.1 = some e.2)
    (h : Visited live tcpName s heap pkt done st) :
    ∃ st', rest.foldlM (MediaSession.visit live tcpName pkt) st = .ok st' ∧
      Visited live tcpName s heap pkt (done ++ rest) st' := by
  induction rest generalizing done st with
  | nil => exact ⟨st, rfl, by rwa [List.append_nil]⟩
  | cons e rest ih =>
    obtain ⟨he, hrest⟩ := List.forall_mem_cons.mp hrest
    obtain ⟨st', hvisit, h'⟩ := h.visit hsize hpkt (hname _ _ he) he
    obtain ⟨st'', hfold, h''⟩ := ih hrest h'
    refine ⟨st'', ?_, ?_⟩
    · rw [List.foldlM_cons, hvisit]
      exact hfold
    · rw [List.append_assoc] at h''
      exact h''

end Step

/-! ## The calls -/

/-- The call `c` sends `src` to `r`, in the buffer under the name of `r`. -/
structure Sends (tcpName : ρ → Option Bytes) (channelId : MediaChannelId)
    (packets : AList (fun _ : Bytes => PacketRef)) (src : RtpPacket) (r : ρ) (c : SendCall ρ) :
    Prop where
  conn : c.conn = r
  channelId : c.channelId = channelId
  buffer : ∃ p, packets.lookup (getId tcpName r) = some p ∧ c.data = p.data
  size : c.packet.size = src.size
  timestamp : c.packet.timestamp = src.timestamp
  type : c.packet.type = src.type
  last : c.packet.last = src.last
  used : c.packet.used = src.used

section Calls

variable {channelId : MediaChannelId} {packets : AList (fun _ : Bytes => PacketRef)}
  {src : RtpPacket} {touch : List (SendCall ρ) → ℕ → Block 1600}

/-- **Every connection gets the packet**, whatever the earlier calls do with
their buffers. -/
theorem sendAll_spec (hapart : ∀ id id' p p', packets.lookup id = some p →
      packets.lookup id' = some p' → p.data = p'.data → id = id')
    (conns : List ρ) (heap : SharedHeap (Block 1600)) (calls : List (SendCall ρ))
    (hid : ∀ r ∈ conns, getId tcpName r ≠ [])
    (hfound : ∀ r ∈ conns, ∃ p, packets.lookup (getId tcpName r) = some p ∧
      IsCopy src heap p ∧ p.data ∉ calls.map (·.data))
    (hnames : (conns.map (getId tcpName)).Nodup) :
    ∃ new, (sendAll tcpName touch channelId packets conns heap calls).2 = calls ++ new ∧
      List.Forall₂ (Sends tcpName channelId packets src) conns new := by
  induction conns generalizing heap calls with
  | nil => exact ⟨[], (List.append_nil _).symm, .nil⟩
  | cons r conns ih =>
    obtain ⟨hidr, hid⟩ := List.forall_mem_cons.mp hid
    obtain ⟨⟨p, hlook, hcopy, -⟩, hfound⟩ := List.forall_mem_cons.mp hfound
    obtain ⟨hnew, hnames⟩ := List.nodup_cons.mp hnames
    let c : SendCall ρ := ⟨r, channelId, p.data, p.packet heap⟩
    have hstill : ∀ r' ∈ conns, ∃ p', packets.lookup (getId tcpName r') = some p' ∧
        IsCopy src (heap.scrambled ((calls ++ [c]).map (·.data)) (touch (calls ++ [c]))) p' ∧
        p'.data ∉ (calls ++ [c]).map (·.data) := by
      intro r' hr'
      obtain ⟨p', hlook', hcopy', hfresh⟩ := hfound r' hr'
      have hne : p'.data ≠ p.data := fun heq =>
        hnew (hapart _ _ _ _ hlook' hlook heq ▸ List.mem_map_of_mem hr')
      have hnotin : p'.data ∉ (calls ++ [c]).map (·.data) := by
        rw [List.map_append, List.mem_append, List.map_singleton, List.mem_singleton]
        exact not_or.mpr ⟨hfresh, hne⟩
      exact ⟨p', hlook', hcopy'.of_block (heap.scrambled_of_notMem hnotin _), hnotin⟩
    obtain ⟨new, hsend, hall⟩ := ih _ (calls ++ [c]) hid hstill hnames
    refine ⟨c :: new, ?_, .cons ⟨rfl, rfl, ⟨p, hlook, rfl⟩, hcopy.size, hcopy.timestamp,
      hcopy.type, hcopy.last, hcopy.used⟩ hall⟩
    unfold sendAll
    dsimp only
    rw [if_pos hidr, hlook]
    dsimp only
    rw [hsend, List.append_assoc]
    rfl

variable {conns : List ρ} {calls : List (SendCall ρ)}

theorem Sends.map_conn (h : List.Forall₂ (Sends tcpName channelId packets src) conns calls) :
    calls.map (·.conn) = conns := by
  induction h with
  | nil => rfl
  | cons hc _ ih => rw [List.map_cons, hc.conn, ih]

theorem Sends.of_mem (h : List.Forall₂ (Sends tcpName channelId packets src) conns calls)
    {c : SendCall ρ} (hc : c ∈ calls) :
    c.conn ∈ conns ∧ Sends tcpName channelId packets src c.conn c := by
  induction h with
  | nil => exact absurd hc List.not_mem_nil
  | cons hsend _ ih =>
    rcases List.mem_cons.mp hc with rfl | hc
    · rw [hsend.conn]
      exact ⟨List.mem_cons_self, hsend⟩
    · exact ⟨List.mem_cons_of_mem _ (ih hc).1, (ih hc).2⟩

/-- **No two calls have the same buffer.** -/
theorem Sends.nodup_data (h : List.Forall₂ (Sends tcpName channelId packets src) conns calls)
    (hapart : ∀ id id' p p', packets.lookup id = some p → packets.lookup id' = some p' →
      p.data = p'.data → id = id')
    (hnames : (conns.map (getId tcpName)).Nodup) : (calls.map (·.data)).Nodup := by
  induction h with
  | nil => exact List.nodup_nil
  | cons hc hall ih =>
    obtain ⟨hnew, hnames⟩ := List.nodup_cons.mp hnames
    refine List.nodup_cons.mpr ⟨fun hmem => ?_, ih hnames⟩
    obtain ⟨c', hc', hdata⟩ := List.mem_map.mp hmem
    obtain ⟨hconn, hsend⟩ := Sends.of_mem hall hc'
    obtain ⟨p, hlook, hp⟩ := hc.buffer
    obtain ⟨p', hlook', hp'⟩ := hsend.buffer
    have heq : p'.data = p.data := hp'.symm.trans (hdata.trans hp)
    exact hnew (hapart _ _ _ _ hlook' hlook heq ▸ List.mem_map_of_mem hconn)

end Calls

/-! ## One run of the callback -/

/-- The names of the TCP connections: none is empty, and no two clients have the
same. The callback keeps the copies under these names, and leaves out a client
without one; that of `TcpServer` ends in the number of the connection. -/
structure Named (live : ρ → Bool) (tcpName : ρ → Option Bytes) (s : MediaSession ρ) : Prop where
  nonempty : ∀ fd r, s.clients.lookup fd = some r → live r = true → tcpName r ≠ some []
  distinct : ∀ fd fd' r r' id, s.clients.lookup fd = some r → s.clients.lookup fd' = some r' →
    live r = true → live r' = true → tcpName r = some id → tcpName r' = some id → fd = fd'

/-- **What the callback is for**: each client that is reachable is called, and
called once; it gets the packet of the source, in a buffer that neither the
source nor another client has; and the entries that have expired are gone,
no other. The connections are those of `lockClients`, in that order. -/
structure FansOut (live : ρ → Bool) (tcpName : ρ → Option Bytes) (channelId : MediaChannelId)
    (pkt : PacketRef) (heap : SharedHeap (Block 1600)) (s : MediaSession ρ) (res : FannedOut ρ) :
    Prop where
  locked : res.calls.map (·.conn) = (s.lockClients live fun r => (tcpName r).isSome).1
  called_iff : ∀ r, r ∈ res.calls.map (·.conn) ↔
    (∃ fd, s.clients.lookup fd = some r) ∧ live r = true ∧ (tcpName r).isSome = true
  once : (res.calls.map (·.conn)).Nodup
  channelId : ∀ c ∈ res.calls, c.channelId = channelId
  size : ∀ c ∈ res.calls, c.packet.size = pkt.size
  timestamp : ∀ c ∈ res.calls, c.packet.timestamp = pkt.timestamp
  type : ∀ c ∈ res.calls, c.packet.type = pkt.type
  last : ∀ c ∈ res.calls, c.packet.last = pkt.last
  used : ∀ c ∈ res.calls, c.packet.used = (pkt.packet heap).used
  unshared : ∀ c ∈ res.calls, c.data ≠ pkt.data
  apart : (res.calls.map (·.data)).Nodup
  clients : ∀ fd, res.session.clients.lookup fd = (s.clients.lookup fd).filter live
  session : res.session = { s with clients := res.session.clients }

/-- The entries that are reachable are those that locking the clients gives. -/
theorem reachable_eq_lockClients (s : MediaSession ρ) :
    ((s.clients.entries.map (·.2)).filter (reachable live tcpName)).reverse
      = (s.lockClients live fun r => (tcpName r).isSome).1 := by
  unfold lockClients
  dsimp only
  rw [List.filter_reverse, List.filter_map, List.filter_map, List.filter_filter]
  congr 3
  funext e
  exact Bool.and_comm ..

/-- The names of the connections to send to are different. -/
theorem Named.nodup {s : MediaSession ρ} (h : Named live tcpName s) :
    ((s.lockClients live fun r => (tcpName r).isSome).1.map (getId tcpName)).Nodup := by
  refine nodup_lockClients fun fd fd' r r' hr hr' hlive hlive' hid hid' hsame => ?_
  obtain ⟨id, hname⟩ := Option.isSome_iff_exists.mp hid
  obtain ⟨id', hname'⟩ := Option.isSome_iff_exists.mp hid'
  unfold getId at hsame
  rw [hname, hname'] at hsame
  exact h.distinct fd fd' r r' id hr hr' hlive hlive' hname
    (hname'.trans (congrArg some hsame.symm))

/-- **The send callback fans a packet out**: one run of it never faults, and
does what it is for. The walk erases entries as it goes, and is right in doing so
because it moves on before it erases. Each call may write into the buffers given
out so far (`touch`), and the later clients still get the packet of the source:
their copies were made on the walk, all of them, before the first was sent. -/
theorem sendCallback_spec (touch : List (SendCall ρ) → ℕ → Block 1600)
    (channelId : MediaChannelId) {pkt : PacketRef} {heap : SharedHeap (Block 1600)}
    {s : MediaSession ρ} (hsize : pkt.size.toNat ≤ 1600) (hpkt : pkt.data < heap.next)
    (hnamed : Named live tcpName s) :
    ∃ res, sendCallback live tcpName touch channelId pkt heap s = .ok res ∧
      FansOut live tcpName channelId pkt heap s res := by
  obtain ⟨st, hwalk, h⟩ := (@visited_nil ρ live tcpName s heap pkt).foldlM
    hsize hpkt hnamed.nonempty s.clients.entries fun e he => AList.mem_lookup_iff.mpr he
  rw [List.nil_append] at h
  have hconns := h.rtpConnList.trans (reachable_eq_lockClients s)
  have hloop : walk live tcpName pkt s.clients.entries.length (begin s.clients)
      { heap := heap, clients := s.clients } = .ok st :=
    (walk_eq_foldlM pkt (show s.clients.entries = [] ++ s.clients.entries from rfl)
      le_rfl).trans hwalk
  have hnames : (st.rtpConnList.map (getId tcpName)).Nodup := by
    rw [hconns]
    exact hnamed.nodup
  have hid : ∀ r ∈ st.rtpConnList, getId tcpName r ≠ [] := by
    intro r hr hnil
    obtain ⟨⟨fd, hfd⟩, hlive, htcp⟩ := mem_lockClients.mp (hconns ▸ hr)
    obtain ⟨id, hname⟩ := Option.isSome_iff_exists.mp htcp
    unfold getId at hnil
    rw [hname] at hnil
    exact hnamed.nonempty fd r hfd hlive (hname.trans (congrArg some hnil))
  have hfound : ∀ r ∈ st.rtpConnList, ∃ p, st.packets.lookup (getId tcpName r) = some p ∧
      IsCopy (pkt.packet heap) st.heap p ∧ p.data ∉ ([] : List (SendCall ρ)).map (·.data) := by
    intro r hr
    obtain ⟨p, hp⟩ := Option.isSome_iff_exists.mp (h.found r hr)
    exact ⟨p, hp, (h.copies _ p hp).2.2, List.not_mem_nil⟩
  obtain ⟨calls, hcalls, hall⟩ : ∃ new,
      (sendAll tcpName touch channelId st.packets st.rtpConnList st.heap []).2 = [] ++ new ∧
        List.Forall₂ (Sends tcpName channelId st.packets (pkt.packet heap)) st.rtpConnList new :=
    sendAll_spec h.apart st.rtpConnList st.heap [] hid hfound hnames
  rw [List.nil_append] at hcalls
  have hcalled := Sends.map_conn hall
  have hsends : ∀ c ∈ calls, Sends tcpName channelId st.packets (pkt.packet heap) c.conn c :=
    fun c hc => (Sends.of_mem hall hc).2
  refine ⟨⟨(sendAll tcpName touch channelId st.packets st.rtpConnList st.heap []).1,
    { s with clients := st.clients }, calls⟩, ?_, ?_⟩
  · unfold sendCallback
    rw [hloop]
    show Except.ok _ = _
    rw [← hcalls]
  · refine
      { locked := hcalled.trans hconns
        called_iff := fun r => ?_
        once := ?_
        channelId := fun c hc => (hsends c hc).channelId
        size := fun c hc => (hsends c hc).size
        timestamp := fun c hc => (hsends c hc).timestamp
        type := fun c hc => (hsends c hc).type
        last := fun c hc => (hsends c hc).last
        used := fun c hc => (hsends c hc).used
        unshared := fun c hc => ?_
        apart := Sends.nodup_data hall h.apart hnames
        clients := fun fd => ?_
        session := rfl }
    · rw [hcalled, hconns]
      exact mem_lockClients
    · rw [hcalled]
      exact hnames.of_map _
    · obtain ⟨p, hlook, hdata⟩ := (hsends c hc).buffer
      rw [hdata]
      exact (hpkt.trans_le (h.copies _ p hlook).1).ne'
    · refine Option.ext fun r => ?_
      rw [Option.filter_eq_some_iff, h.clients]
      exact and_congr_right fun hr => ⟨fun hkeep => hkeep (AList.mem_lookup_iff.mp hr),
        fun hlive _ => hlive⟩

/-- Four clients: the first has expired and the second has lost its TCP
connection. -/
def fourClients : MediaSession ℕ :=
  { suffix := ascii "live"
    clients := ((((∅ : AList _).insert 8 4).insert 7 3).insert 6 2).insert 5 1 }

/-- The names that the TCP connections of these have. -/
def fourNames (r : ℕ) : Option Bytes := if r = 2 then none else some [.ofNat r]

theorem named_fourClients : Named (· != 1) fourNames fourClients := by
  have hmem : ∀ {fd : ℤ} {r : ℕ}, fourClients.clients.lookup fd = some r →
      fd = 5 ∧ r = 1 ∨ fd = 6 ∧ r = 2 ∨ fd = 7 ∧ r = 3 ∨ fd = 8 ∧ r = 4 := by
    intro fd r h
    have h : (⟨fd, r⟩ : Σ _ : ℤ, ℕ) ∈ ([⟨5, 1⟩, ⟨6, 2⟩, ⟨7, 3⟩, ⟨8, 4⟩] : List (Σ _ : ℤ, ℕ)) :=
      AList.mem_lookup_iff.mp h
    simpa using h
  refine ⟨fun fd r h _ => ?_, fun fd fd' r r' id h h' hlive hlive' hid hid' => ?_⟩
  · unfold fourNames
    split <;> nofun
  · have hsame := hid.trans hid'.symm
    have hsome : (fourNames r).isSome = true := Option.isSome_of_eq_some hid
    rcases hmem h with ⟨rfl, rfl⟩ | ⟨rfl, rfl⟩ | ⟨rfl, rfl⟩ | ⟨rfl, rfl⟩ <;>
      rcases hmem h' with ⟨rfl, rfl⟩ | ⟨rfl, rfl⟩ | ⟨rfl, rfl⟩ | ⟨rfl, rfl⟩ <;>
        first
        | rfl
        | exact absurd hlive (by decide)
        | exact absurd hlive' (by decide)
        | exact absurd hsome (by decide)
        | exact absurd hsame (by decide)

/-- The two clients that are left get a packet of eight hundred bytes, with
what is sent written over each copy as soon as it is passed on. -/
theorem sendCallback_spec_fourClients :
    ∃ res, sendCallback (· != 1) fourNames (fun _ _ => List.Vector.replicate 1600 255) .channel0
        { data := 0, size := 800, last := 1 }
        { block := fun _ => List.Vector.replicate 1600 7, next := 1 } fourClients = .ok res ∧
      FansOut (· != 1) fourNames .channel0 { data := 0, size := 800, last := 1 }
        { block := fun _ => List.Vector.replicate 1600 7, next := 1 } fourClients res :=
  sendCallback_spec _ _ (by decide) (by decide) named_fourClients

end MediaSession
