import RtspServer.TcpConnection

/-!
# What a step of a connection adds

A step of a `TcpConnection` calls callbacks and puts functors into the queue of the
loop. Seen from outside, it leaves the connection open or down, as it was, or it
closes it (`TcpConnection.Inv.stays_or_closes`); what is left to a connection that is
down is that its channel is removed (`TcpConnection.Inv.connectDestroyed_eq`).
-/

namespace Muduo

namespace TcpConnection

/-- A step in which the connection is not closed: `base` is the queue without what
the step has taken from it. -/
structure Stays (base : List Functor) (c c' : TcpConnection) : Prop where
  isOpen : c'.isOpen = c.isOpen
  state : c'.state = .kDisconnected ↔ c.state = .kDisconnected
  addedToLoop : c'.addedToLoop = c.addedToLoop
  pending : ∃ fs, c'.pending = base ++ fs ∧ (c.state = .kDisconnected → fs = [])
  callbacks : ∃ new, c'.callbacks = c.callbacks ++ new ∧ .up ∉ new ∧ .down ∉ new ∧ .close ∉ new ∧
    (.message ∈ new → c.isOpen = true)

/-- A step in which it is closed. -/
structure Closes (base : List Functor) (c c' : TcpConnection) : Prop where
  isOpen : c.isOpen = true
  state : c'.state = .kDisconnected
  addedToLoop : c'.addedToLoop = c.addedToLoop
  pending : c'.pending = base
  callbacks : c'.callbacks = c.callbacks ++ [.down, .close]

namespace Stays

variable {base : List Functor} {c c' c'' : TcpConnection}

theorem refl (c : TcpConnection) : Stays c.pending c c :=
  ⟨rfl, Iff.rfl, rfl, ⟨[], by simp⟩, ⟨[], by simp⟩⟩

theorem trans (h : Stays base c c') (h' : Stays c'.pending c' c'') : Stays base c c'' := by
  obtain ⟨fs, hfs, hdown⟩ := h.pending
  obtain ⟨fs', hfs', hdown'⟩ := h'.pending
  obtain ⟨new, hnew, hup, hnone, hclose, hmessage⟩ := h.callbacks
  obtain ⟨new', hnew', hup', hnone', hclose', hmessage'⟩ := h'.callbacks
  refine ⟨h'.isOpen.trans h.isOpen, h'.state.trans h.state,
    h'.addedToLoop.trans h.addedToLoop, ⟨fs ++ fs', ?_, fun hc => ?_⟩,
    ⟨new ++ new', ?_, ?_, ?_, ?_, fun hin => ?_⟩⟩
  · rw [hfs', hfs, List.append_assoc]
  · rw [hdown hc, hdown' (h.state.mpr hc)]
    rfl
  · rw [hnew', hnew, List.append_assoc]
  · simp [hup, hup']
  · simp [hnone, hnone']
  · simp [hclose, hclose']
  · rcases List.mem_append.mp hin with hin | hin
    · exact hmessage hin
    · exact h.isOpen ▸ hmessage' hin

/-- A step that calls nothing, and queues nothing where the connection is down. -/
theorem of_callbacks_eq (hopen : c'.isOpen = c.isOpen)
    (hstate : c'.state = .kDisconnected ↔ c.state = .kDisconnected)
    (hadded : c'.addedToLoop = c.addedToLoop)
    (hpending : ∃ fs, c'.pending = base ++ fs ∧ (c.state = .kDisconnected → fs = []))
    (hcallbacks : c'.callbacks = c.callbacks) : Stays base c c' :=
  ⟨hopen, hstate, hadded, hpending, ⟨[], by simp [hcallbacks]⟩⟩

theorem sendInLoop {o : ConnectionOptions} {data : Bytes} {r : WriteResult}
    (h : c.sendInLoop o data r = some c') : Stays c.pending c c' := by
  rcases sendInLoop_cases h with ⟨rfl, -⟩ | rfl | ⟨hk, hup⟩
  · exact .of_callbacks_eq rfl Iff.rfl rfl ⟨[], by simp⟩ rfl
  · exact .of_callbacks_eq rfl Iff.rfl rfl ⟨[], by simp⟩ rfl
  · obtain ⟨fs, hfs, -⟩ := hk.pending
    exact .of_callbacks_eq (by simp [TcpConnection.isOpen, hk.state]) (by rw [hk.state])
      hk.addedToLoop ⟨fs, hfs, fun hdown => absurd hdown hup⟩ hk.callbacks

theorem shutdownInLoop (c : TcpConnection) : Stays c.pending c c.shutdownInLoop := by
  unfold TcpConnection.shutdownInLoop
  split
  · exact refl c
  · exact .of_callbacks_eq rfl Iff.rfl rfl ⟨[], by simp⟩ rfl

/-- `shutdown`, `forceClose` and `forceCloseWithDelay` begin to close a connection
that is open, and may queue a functor. -/
theorem disconnecting {l : List Functor} (hopen : c.isOpen = true)
    (hstate : c'.state = .kDisconnecting) (hadded : c'.addedToLoop = c.addedToLoop)
    (hpending : c'.pending = c.pending ++ l)
    (hcallbacks : c'.callbacks = c.callbacks) : Stays c.pending c c' := by
  have hup : c.state ≠ .kDisconnected := by
    rcases isOpen_iff.mp hopen with h | h
    · simp [h]
    · simp [h]
  refine .of_callbacks_eq ?_ ?_ hadded ⟨l, hpending, fun h => absurd h hup⟩ hcallbacks
  · rw [hopen]
    exact isOpen_iff.mpr (.inr hstate)
  · simp [hstate, hup]

theorem forceClose (c : TcpConnection) : Stays c.pending c c.forceClose := by
  unfold TcpConnection.forceClose
  split
  · rename_i hopen
    exact disconnecting hopen rfl rfl rfl rfl
  · exact refl c

theorem offer (c : TcpConnection) (message : Bytes) : Stays c.pending c (c.offer message) :=
  .of_callbacks_eq rfl Iff.rfl rfl ⟨[], by simp [TcpConnection.offer]⟩ rfl

theorem send {o : ConnectionOptions} {message : Bytes} {r : WriteResult}
    (h : c.send o message r = some c') : Stays c.pending c c' := by
  unfold TcpConnection.send at h
  split at h
  · exact (offer c message).trans (sendInLoop h)
  · cases h
    exact offer c message

theorem call {o : ConnectionOptions} {x : Call} (h : c.call o x = some c') :
    Stays c.pending c c' := by
  cases x with
  | send message r => exact send h
  | shutdown =>
    cases h
    unfold shutdown
    split
    · rename_i hconnected
      have hdown : Stays c.pending c { c with state := .kDisconnecting, shutdownCalled := true } :=
        disconnecting (l := []) (isOpen_iff.mpr (.inl hconnected)) rfl rfl (by simp) rfl
      exact hdown.trans (shutdownInLoop _)
    · exact refl c
  | forceClose =>
    cases h
    exact forceClose c
  | forceCloseWithDelay =>
    cases h
    unfold forceCloseWithDelay
    split
    · rename_i hopen
      exact disconnecting (l := []) hopen rfl rfl (by simp) rfl
    · exact refl c

theorem calls {o : ConnectionOptions} {xs : List Call}
    (h : xs.foldlM (TcpConnection.call o) c = some c') : Stays c.pending c c' := by
  induction xs generalizing c with
  | nil =>
    cases h
    exact refl _
  | cons x xs ih =>
    rw [List.foldlM_cons] at h
    obtain ⟨c₁, h₁, h⟩ := Option.bind_eq_some_iff.mp h
    exact (call h₁).trans (ih h)

theorem outputWritten {o : ConnectionOptions} (hup : c.state ≠ .kDisconnected) :
    Stays c.pending c (c.outputWritten o) := by
  have hqueued : ∀ {fs : List Functor},
      Stays c.pending c { c with writing := false, pending := c.pending ++ fs } := fun {fs} =>
    .of_callbacks_eq rfl Iff.rfl rfl ⟨fs, rfl, fun h => absurd h hup⟩ rfl
  have hnone : Stays c.pending c { c with writing := false } :=
    .of_callbacks_eq rfl Iff.rfl rfl ⟨[], by simp⟩ rfl
  have hshut : ∀ {d : TcpConnection}, Stays c.pending c d →
      Stays c.pending c (if d.state = .kDisconnecting then d.shutdownInLoop else d) := by
    intro d hd
    split
    · exact hd.trans (shutdownInLoop d)
    · exact hd
  cases hcallback : o.writeCompleteCallback with
  | true =>
    simp only [TcpConnection.outputWritten, hcallback, if_true]
    exact hshut hqueued
  | false =>
    simp only [TcpConnection.outputWritten, hcallback, Bool.false_eq_true, if_false]
    exact hshut hnone

theorem handleWrite {o : ConnectionOptions} {r : WriteResult}
    (hwriting : c.writing = true → c.state ≠ .kDisconnected) (h : c.handleWrite o r = some c') :
    Stays c.pending c c' := by
  unfold TcpConnection.handleWrite at h
  split at h
  · rename_i hw
    split at h
    · split at h
      · cases h
        have hwritten : Stays c.pending c { c with
            sent := c.sent ++ c.outputBuffer.readable.take r.count
            outputBuffer := c.outputBuffer.retrieve r.count } :=
          .of_callbacks_eq rfl Iff.rfl rfl ⟨[], by simp⟩ rfl
        dsimp only
        split
        · exact hwritten.trans (outputWritten (hwriting hw))
        · exact hwritten
      · cases h
        exact refl c
    · cases h
  · cases h
    exact refl c

end Stays

theorem closes_handleClose {c : TcpConnection} (hopen : c.isOpen = true) :
    Closes c.pending c c.handleClose :=
  ⟨hopen, rfl, rfl, rfl, rfl⟩

/-- Nothing is called or queued after the connection was closed in the same event. -/
theorem Closes.handleWrite {c c' c'' : TcpConnection} {base : List Functor}
    {o : ConnectionOptions} {r : WriteResult} (h : Closes base c c') (hw : c'.writing = false)
    (hs : c'.handleWrite o r = some c'') : Closes base c c'' := by
  unfold TcpConnection.handleWrite at hs
  rw [hw] at hs
  cases hs
  exact h

/-- The queue of a connection after its next functor was taken from it. -/
def taken (c : TcpConnection) : Event → List Functor
  | .functor _ => c.pending.tail
  | _ => c.pending

theorem Inv.stays_or_closes_event {o : ConnectionOptions} {c c' : TcpConnection}
    {revents : Revents} {read : ReadResult} {calls : List Call} {r : WriteResult} (hc : c.Inv)
    (hreg : c.reading = true) (hrev : revents.Possible)
    (h : c.handleEvent o revents read calls r = some c') :
    Stays c.pending c c' ∨ Closes c.pending c c' := by
  have hopen := hc.reading.mp hreg
  obtain ⟨c₁, hread, hwrite⟩ := Option.bind_eq_some_iff.mp h
  -- what happens before the socket is written
  have hfirst : Stays c.pending c c₁ ∧ (c₁.writing = true → c₁.state ≠ .kDisconnected) ∨
      Closes c.pending c c₁ ∧ c₁.writing = false := by
    have hclosed : Closes c.pending c c.handleClose ∧ c.handleClose.writing = false :=
      ⟨closes_handleClose hopen, rfl⟩
    have hup : c.state ≠ .kDisconnected := by
      rcases isOpen_iff.mp hopen with h | h
      · simp [h]
      · simp [h]
    by_cases hhup : (revents.pollHup && !revents.pollIn) = true
    · obtain ⟨hh, hin⟩ : revents.pollHup = true ∧ revents.pollIn = false := by simpa using hhup
      obtain ⟨hpri, hrdhup⟩ := hrev hh hin
      rw [if_pos hhup, hin, hpri, hrdhup] at hread
      cases hread
      exact .inr hclosed
    · rw [if_neg hhup] at hread
      split at hread
      · cases read with
        | data =>
          have hmessage : Stays c.pending c { c with callbacks := c.callbacks ++ [.message] } :=
            ⟨rfl, Iff.rfl, rfl, ⟨[], by simp⟩, ⟨[.message], rfl, by simp [hopen]⟩⟩
          have hstays := hmessage.trans (Stays.calls hread)
          exact .inl ⟨hstays, fun _ hdown => hup (hstays.state.mp hdown)⟩
        | endOfStream =>
          cases hread
          exact .inr hclosed
        | failed =>
          cases hread
          exact .inl ⟨Stays.refl c, fun _ => hup⟩
      · cases hread
        exact .inl ⟨Stays.refl c, fun _ => hup⟩
  split at hwrite
  · rcases hfirst with ⟨hstays, hw⟩ | ⟨hcloses, hw⟩
    · exact .inl (hstays.trans (Stays.handleWrite hw hwrite))
    · exact .inr (hcloses.handleWrite hw hwrite)
  · cases hwrite
    exact hfirst.imp And.left And.left

/-- **A step leaves the connection open or closed, as it was, or closes it;** a
connection that is closed calls nothing and queues nothing. -/
theorem Inv.stays_or_closes {o : ConnectionOptions} {c c' : TcpConnection} {e : Event}
    (hc : c.Inv) (h : c.step o e = some c')
    (he : ∀ calls, e ≠ .established calls) (hdestroyed : e ≠ .destroyed) :
    Stays (c.taken e) c c' ∨ Closes (c.taken e) c c' := by
  have hwriting : c.writing = true → c.state ≠ .kDisconnected := fun hw => (hc.writing.mp hw).2
  cases e with
  | established calls => exact absurd rfl (he calls)
  | event revents read calls r =>
    rw [TcpConnection.step] at h
    split at h
    · rename_i hguard
      exact hc.stays_or_closes_event hguard.1 hguard.2 h
    · cases h
  | call x => exact .inl (Stays.call h)
  | sendElsewhere message =>
    cases h
    refine .inl ?_
    unfold TcpConnection.sendElsewhere
    split
    · rename_i hconnected
      refine (Stays.offer c message).trans ?_
      exact .of_callbacks_eq rfl Iff.rfl rfl
        ⟨_, rfl, fun h => by simp [TcpConnection.offer, hconnected] at h⟩ rfl
    · exact Stays.offer c message
  | shutdownElsewhere =>
    cases h
    refine .inl ?_
    unfold TcpConnection.shutdownElsewhere
    split
    · rename_i hconnected
      exact Stays.disconnecting (isOpen_iff.mpr (.inl hconnected)) rfl rfl rfl rfl
    · exact Stays.refl c
  | functor r =>
    rw [TcpConnection.step] at h
    split at h
    · cases h
    · rename_i f rest hpending
      show Stays c.pending.tail c c' ∨ Closes c.pending.tail c c'
      rw [hpending, List.tail_cons]
      have hrest : Stays rest c { c with pending := rest } :=
        .of_callbacks_eq rfl Iff.rfl rfl ⟨[], by simp⟩ rfl
      have hcall : ∀ x : Callback, x ≠ .up → x ≠ .down → x ≠ .close → x ≠ .message →
          Stays rest c { c with pending := rest, callbacks := c.callbacks ++ [x] } :=
        fun x hup hnone hclose hmessage => ⟨rfl, Iff.rfl, rfl, ⟨[], by simp⟩,
          ⟨[x], rfl, by simp [hup.symm, hnone.symm, hclose.symm, hmessage.symm]⟩⟩
      cases f with
      | sendInLoop message => exact .inl (hrest.trans (Stays.sendInLoop h))
      | shutdownInLoop =>
        cases h
        exact .inl (hrest.trans (Stays.shutdownInLoop _))
      | forceCloseInLoop =>
        cases h
        unfold TcpConnection.forceCloseInLoop
        split
        · exact .inr ⟨‹_›, rfl, rfl, rfl, rfl⟩
        · exact .inl hrest
      | writeCompleteCallback =>
        cases h
        exact .inl (hcall _ (by simp) (by simp) (by simp) (by simp))
      | highWaterMarkCallback len =>
        cases h
        exact .inl (hcall _ (by simp) (by simp) (by simp) (by simp))
  | timer =>
    rw [TcpConnection.step] at h
    split at h
    · cases h
      have hless : Stays c.pending c { c with delayed := c.delayed - 1 } :=
        .of_callbacks_eq rfl Iff.rfl rfl ⟨[], by simp⟩ rfl
      exact .inl (hless.trans (Stays.forceClose _))
    · cases h
  | destroyed => exact absurd rfl hdestroyed

/-- **A connection that is down has no interest left**, so that its channel can be
removed. -/
theorem Inv.connectDestroyed_eq {c : TcpConnection} (hc : c.Inv)
    (hdown : c.state = .kDisconnected) (hadded : c.addedToLoop = true) :
    c.connectDestroyed = some { c with addedToLoop := false } := by
  have hwriting : c.writing = false := by
    rw [← Bool.not_eq_true, hc.writing]
    simp [hdown]
  have hreading : c.reading = false := by
    rw [← Bool.not_eq_true, hc.reading, isOpen_iff]
    simp [hdown]
  rw [TcpConnection.connectDestroyed, if_neg (by simp [hdown]), TcpConnection.removeChannel,
    if_pos ⟨hwriting, hreading, hadded⟩]

/-- The events that come neither from the server nor from the queue of the loop:
those of the channel and of its timers, and the calls in any thread. -/
def Event.External : Event → Prop
  | .event .. => True
  | .call _ => True
  | .timer => True
  | .sendElsewhere _ => True
  | .shutdownElsewhere => True
  | _ => False

end TcpConnection

end Muduo
