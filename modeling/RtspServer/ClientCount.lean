import RtspServer.SendCallback
import RtspServer.Transition

/-!
# The number of clients that is reported

A session tells the notify callback how many clients it has when one is
entered and when one is removed. Its map loses entries a third way: the send
callback erases those whose `RtpConnection` has expired, and does not call the
notify callback.

`Reporting` is a session with a notify callback and the connections its
entries point to. The count it last reported is the number of its clients, after
every operation, in exactly the runs in which no fan-out finds an expired entry
(`reported_of_run`).
-/

namespace MediaSession

variable {ρ : Type} {live : ρ → Bool} {tcpName : ρ → Option Bytes}

/-! ## What a fan-out leaves in the map -/

/-- A round of the loop keeps its entry if that is live, and every other. -/
theorem visit_entries {pkt : PacketRef} {st st' : Locked ρ} {e : Σ _ : ℤ, ρ}
    {pre rest : List (Σ _ : ℤ, ρ)} (hst : st.clients.entries = pre ++ e :: rest)
    (h : visit live tcpName pkt st e = .ok st') :
    st'.clients.entries = pre ++ ([e].filter fun e => live e.2) ++ rest := by
  unfold visit at h
  cases hlive : live e.2 with
  | false =>
    rw [hlive, if_neg Bool.false_ne_true] at h
    cases h
    rw [List.filter_singleton, hlive, cond_false, List.append_nil]
    exact entries_erase hst
  | true =>
    rw [hlive, if_pos rfl] at h
    have hclients : st'.clients = st.clients := by
      dsimp only at h
      split at h
      · split at h
        · cases h
          rfl
        · obtain ⟨_, -, h⟩ := Except.bind_eq_ok_iff.mp h
          cases h
          rfl
      · cases h
        rfl
    rw [hclients, hst, List.filter_singleton, hlive, cond_true, List.append_assoc]
    rfl

/-- The loop keeps the live entries. -/
theorem foldlM_visit_entries {pkt : PacketRef} {st st' : Locked ρ}
    {pre rest : List (Σ _ : ℤ, ρ)} (hst : st.clients.entries = pre ++ rest)
    (h : rest.foldlM (visit live tcpName pkt) st = .ok st') :
    st'.clients.entries = pre ++ rest.filter fun e => live e.2 := by
  induction rest generalizing pre st with
  | nil =>
    cases h
    exact hst
  | cons e rest ih =>
    rw [List.foldlM_cons] at h
    obtain ⟨st₁, hvisit, h⟩ := Except.bind_eq_ok_iff.mp h
    rw [ih (visit_entries hst hvisit) h, List.append_assoc, ← List.filter_append,
      List.singleton_append]

/-- **A fan-out keeps the live entries**, and changes nothing else. -/
theorem sendCallback_session {touch : List (SendCall ρ) → ℕ → Block 1600}
    {channelId : MediaChannelId} {pkt : PacketRef} {heap : SharedHeap (Block 1600)}
    {s : MediaSession ρ} {res : FannedOut ρ}
    (h : sendCallback live tcpName touch channelId pkt heap s = .ok res) :
    res.session.clients.entries = (s.clients.entries.filter fun e => live e.2) ∧
      res.session.notifies = s.notifies := by
  unfold sendCallback at h
  obtain ⟨st, hwalk, h⟩ := Except.bind_eq_ok_iff.mp h
  cases h
  refine ⟨?_, rfl⟩
  rw [← List.nil_append (s.clients.entries.filter _)]
  exact foldlM_visit_entries (show s.clients.entries = [] ++ s.clients.entries from rfl)
    ((walk_eq_foldlM pkt (show s.clients.entries = [] ++ s.clients.entries from rfl)
      le_rfl).symm.trans hwalk)

/-! ## A session that reports -/

/-- The count that is left by calls of the notify callback. -/
def lastCount (last : UInt32) (calls : List Notification) : UInt32 :=
  calls.foldl (fun _ call => call.numClients) last

/-- **Entering a client reports the new count**, and nothing when it is
there already. -/
theorem addClient_reports {s : MediaSession ρ} (hnotifies : s.notifies = true) (rtspfd : ℤ)
    (rtpConn : ρ) :
    (s.addClient rtspfd rtpConn).2.1.notifies = true ∧
      lastCount s.getNumClient (s.addClient rtspfd rtpConn).2.2
        = (s.addClient rtspfd rtpConn).2.1.getNumClient := by
  unfold addClient
  split
  · dsimp only
    rw [hnotifies]
    exact ⟨rfl, rfl⟩
  · exact ⟨hnotifies, rfl⟩

/-- **Removing a client reports the new count**, and nothing when there is
none. -/
theorem removeClient_reports {s : MediaSession ρ} (hnotifies : s.notifies = true) (rtspfd : ℤ) :
    (s.removeClient rtspfd).1.notifies = true ∧
      lastCount s.getNumClient (s.removeClient rtspfd).2
        = (s.removeClient rtspfd).1.getNumClient := by
  unfold removeClient
  split
  · dsimp only
    rw [hnotifies]
    exact ⟨rfl, rfl⟩
  · exact ⟨hnotifies, rfl⟩

/-- **A session with its notify callback.** `live` says which connections are
still there; `last` is the count last passed to the callback, and `seen` has,
for each operation so far, that count and `getNumClient()` when it returned. -/
structure Reporting (ρ : Type) where
  session : MediaSession ρ
  live : ρ → Bool := fun _ => true
  last : UInt32 := 0
  seen : List (UInt32 × UInt32) := []

namespace Reporting

/-- What happens to a session and the connections of its clients. -/
inductive Op (ρ : Type) where
  | addClient (rtspfd : ℤ) (rtpConn : ρ)
  | removeClient (rtspfd : ℤ)
  | expire (rtpConn : ρ)
  | fanOut (tcpName : ρ → Option Bytes) (touch : List (SendCall ρ) → ℕ → Block 1600)
      (channelId : MediaChannelId) (pkt : PacketRef) (heap : SharedHeap (Block 1600))

/-- An operation that has returned, with the calls of the notify callback it
made. -/
def returned (s : Reporting ρ) (session : MediaSession ρ) (calls : List Notification) :
    Reporting ρ :=
  let last := lastCount s.last calls
  { s with session := session, last := last, seen := s.seen ++ [(last, session.getNumClient)] }

variable [DecidableEq ρ]

/-- One operation. -/
def step (s : Reporting ρ) : Op ρ → Except Fault (Reporting ρ)
  | .addClient rtspfd rtpConn =>
    let (_, session, calls) := s.session.addClient rtspfd rtpConn
    .ok (s.returned session calls)
  | .removeClient rtspfd =>
    let (session, calls) := s.session.removeClient rtspfd
    .ok (s.returned session calls)
  | .expire rtpConn =>
    .ok ({ s with live := Function.update s.live rtpConn false }.returned s.session [])
  | .fanOut tcpName touch channelId pkt heap => do
    let res ← sendCallback s.live tcpName touch channelId pkt heap s.session
    return s.returned res.session []

/-- The runs of a session, from `creatNew` and `setNotifyCallback`. -/
def system (lastMediaSessionId : UInt32) (rtspUrlSuffix : Bytes) :
    System (Reporting ρ) (Op ρ) :=
  System.ofStep
    (· = { session := { (creatNew lastMediaSessionId rtspUrlSuffix).2 with notifies := true } })
    step

/-- **Whenever an operation had returned**, the count last reported was the
number of clients. The two are kept together for every operation, so that the
property is about the moments in between and not only about the last one. -/
def Reported (s : Reporting ρ) : Prop := ∀ counts ∈ s.seen, counts.1 = counts.2

/-- **A fan-out finds no client that has expired**, or a number of them that a
`uint32_t` does not tell from none. Joining and leaving notify; the send
callback, which erases the entries of expired clients on its walk, does not, and
`getNumClient` counts in a `uint32_t`. -/
def PurgesNone (s : Reporting ρ) : Op ρ → Prop
  | .fanOut .. => (s.session.clients.entries.countP fun e => !s.live e.2) % 2 ^ 32 = 0
  | _ => True

/-- **The invariant**: the callback is set, and the counts agree now unless
they once did not. The second is what the next operation starts from: where it reports
the two are equal, and where it changes nothing they stay so. -/
structure Inv (s : Reporting ρ) : Prop where
  notifies : s.session.notifies = true
  last : s.Reported → s.last = s.session.getNumClient

omit [DecidableEq ρ] in
/-- A fan-out leaves the number of clients as it was exactly when it purges
none. -/
theorem getNumClient_filter {s s' : MediaSession ρ} {live : ρ → Bool}
    (h : s'.clients.entries = s.clients.entries.filter fun e => live e.2) :
    s.getNumClient = s'.getNumClient
      ↔ (s.clients.entries.countP fun e => !live e.2) % 2 ^ 32 = 0 := by
  have hsplit : s.clients.entries.length
      = s'.clients.entries.length + s.clients.entries.countP fun e => !live e.2 := by
    rw [h, ← List.countP_eq_length_filter, s.clients.entries.length_eq_countP_add_countP
      fun e => live e.2]
    congr 2
    funext e
    cases live e.2 <;> rfl
  unfold getNumClient
  rw [← UInt32.toNat_inj, UInt32.toNat_ofNat', UInt32.toNat_ofNat', hsplit]
  omega

omit [DecidableEq ρ] in
/-- An operation has reported what it left behind, or not. -/
theorem Inv.returned {s : Reporting ρ} {session : MediaSession ρ} {calls : List Notification}
    (hs : s.Inv) (hnotifies : session.notifies = true) :
    (s.returned session calls).Inv ∧ ((s.returned session calls).Reported ↔
      s.Reported ∧ lastCount s.session.getNumClient calls = session.getNumClient) := by
  have hreported : (s.returned session calls).Reported ↔
      s.Reported ∧ lastCount s.last calls = session.getNumClient := by
    unfold Reported Reporting.returned
    rw [List.forall_mem_append, List.forall_mem_singleton]
  refine ⟨⟨hnotifies, fun h => (hreported.mp h).2⟩, hreported.trans ?_⟩
  exact and_congr_right fun hbefore => by rw [hs.last hbefore]

/-- **One operation**: it keeps the invariant, and the counts agree after it
exactly when they did before and it purges no client. -/
theorem Inv.step {s s' : Reporting ρ} {op : Op ρ} (hs : s.Inv) (h : s.step op = .ok s') :
    s'.Inv ∧ (s'.Reported ↔ s.Reported ∧ s.PurgesNone op) := by
  cases op with
  | addClient rtspfd rtpConn =>
    cases h
    obtain ⟨hnotifies, hcount⟩ := addClient_reports hs.notifies rtspfd rtpConn
    obtain ⟨hinv, hreported⟩ := hs.returned hnotifies
    exact ⟨hinv, hreported.trans (and_congr_right fun _ => iff_of_true hcount trivial)⟩
  | removeClient rtspfd =>
    cases h
    obtain ⟨hnotifies, hcount⟩ := removeClient_reports hs.notifies rtspfd
    obtain ⟨hinv, hreported⟩ := hs.returned hnotifies
    exact ⟨hinv, hreported.trans (and_congr_right fun _ => iff_of_true hcount trivial)⟩
  | expire rtpConn =>
    cases h
    have hexpired : Inv { s with live := Function.update s.live rtpConn false } :=
      ⟨hs.notifies, hs.last⟩
    obtain ⟨hinv, hreported⟩ := hexpired.returned hs.notifies
    exact ⟨hinv, hreported.trans (and_congr_right fun _ => iff_of_true rfl trivial)⟩
  | fanOut tcpName touch channelId pkt heap =>
    obtain ⟨res, hsend, h⟩ := Except.bind_eq_ok_iff.mp h
    cases h
    obtain ⟨hentries, hnotifies⟩ := sendCallback_session hsend
    obtain ⟨hinv, hreported⟩ := hs.returned (hnotifies.trans hs.notifies)
    exact ⟨hinv, hreported.trans (and_congr_right fun _ => getNumClient_filter hentries)⟩

theorem inv_of_run {lastMediaSessionId : UInt32} {rtspUrlSuffix : Bytes} {ops : List (Op ρ)}
    {s : Reporting ρ} (hrun : (system lastMediaSessionId rtspUrlSuffix).Run ops s) : s.Inv := by
  refine hrun.invariant ?_ fun _ _ _ hs hstep => (hs.step hstep).1
  rintro s rfl
  exact ⟨rfl, fun _ => rfl⟩

/-- **The count last reported is the number of clients**, after every
operation of exactly the runs in which no fan-out purges a client. The invariant
is that the two agree unless they have disagreed before: once a count is wrong
the run has failed, even where a later report puts it right. -/
theorem reported_of_run {lastMediaSessionId : UInt32} {rtspUrlSuffix : Bytes}
    {ops : List (Op ρ)} {s : Reporting ρ}
    (hrun : (system lastMediaSessionId rtspUrlSuffix).Run ops s) :
    s.Reported ↔ ((system lastMediaSessionId rtspUrlSuffix).restrict PurgesNone).Run ops s := by
  refine hrun.restrict_iff ?_ fun _ _ _ _ hbefore hstep => ((inv_of_run hbefore).step hstep).2
  rintro s rfl
  exact List.forall_mem_nil _

/-- The fan-out of a packet of three bytes. -/
def threeBytes : Op ℕ :=
  .fanOut (fun r => some [.ofNat r]) (fun _ _ => .filled 1600 0) .channel0
    { data := 0, size := 3, last := 1 } { block := fun _ => .filled 1600 7, next := 1 }

/-- A client that is removed before its connection expires. -/
def removesFirst : List (Op ℕ) := [.addClient 5 1, .removeClient 5, .expire 1, threeBytes]

/-- Every change is reported. -/
theorem reported_of_run_removesFirst : ∃ s : Reporting ℕ,
    s.seen = [(1, 1), (0, 0), (0, 0), (0, 0)] ∧
      ((system 0 (ascii "live")).restrict PurgesNone).Run removesFirst s := by
  have hrun : (system 0 (ascii "live")).Run removesFirst _ := System.run_of_foldlM rfl
  have hcounts : ∀ counts ∈ ([(1, 1), (0, 0), (0, 0), (0, 0)] : List (UInt32 × UInt32)),
      counts.1 = counts.2 := by simp
  refine ⟨_, ?_, (reported_of_run hrun).mp hcounts⟩
  rfl

/-- A client whose connection expires while it is in the map. -/
def expiresFirst : List (Op ℕ) := [.addClient 5 1, .expire 1, threeBytes]

/-- **A client that is purged** goes unreported: the callback was last told of
one client, and there is none. -/
theorem expiresFirst_not_reported : ¬ ∀ (lastMediaSessionId : UInt32) (rtspUrlSuffix : Bytes)
    (ops : List (Op ℕ)) (s : Reporting ℕ),
    (system lastMediaSessionId rtspUrlSuffix).Run ops s → s.Reported := by
  intro h
  have hrun : (system 0 (ascii "live")).Run expiresFirst _ := System.run_of_foldlM rfl
  have hcounts := h _ _ _ _ hrun (1, 0) (by decide)
  cases hcounts

end Reporting

end MediaSession
