import RtspServer.TimerQueue

/-!
# What becomes of a timer

Each timer that is created is called or cancelled: `TimerQueue.history_of_run`
follows the timers through a run, and `TimerQueue.cancelInLoop_of_run` says how
often a timer can still be called after it was cancelled.
-/

namespace Muduo

namespace TimerQueue

open TimerEntry

/-! ## What becomes of a timer -/

/-- A timer that has not been deleted, by its address, its sequence number, and
whether it repeats. -/
def Live (heap : ℕ → Option Timer) (a q : ℕ) (r : Bool) : Prop :=
  ∃ t, heap a = some t ∧ t.sequence = q ∧ t.repeats = r

theorem live_update_none {heap : ℕ → Option Timer} {a b q : ℕ} {r : Bool} :
    Live (Function.update heap a none) b q r ↔ b ≠ a ∧ Live heap b q r := by
  by_cases hb : b = a
  · subst hb
    simp [Live]
  · simp [Live, hb]

/-- A timer at an address at which there was none. -/
theorem live_update_new {heap : ℕ → Option Timer} {a b q : ℕ} {r : Bool} {t : Timer}
    (ha : heap a = none) : Live (Function.update heap a (some t)) b q r ↔
      Live heap b q r ∨ b = a ∧ q = t.sequence ∧ r = t.repeats := by
  by_cases hb : b = a
  · subst hb
    simp [Live, ha, eq_comm]
  · simp [Live, hb]

/-- A change of the expiration is not seen. -/
theorem live_update_restart {heap : ℕ → Option Timer} {a x : ℕ} {t : Timer} (ha : heap a = some t) :
    Live (Function.update heap a (some { t with expiration := x })) = Live heap := by
  funext b q r
  by_cases hb : b = a
  · subst hb
    simp [Live, ha]
  · simp [Live, hb]

/-- Different timers on the heap have different sequence numbers. -/
structure Distinct (live : ℕ → ℕ → Bool → Prop) : Prop where
  address : ∀ a b q r r', live a q r → live b q r' → a = b
  object : ∀ a q q' r r', live a q r → live a q' r' → q = q' ∧ r = r'

theorem Agree.distinct {s : TimerQueue} {out : Finset ℕ} (h : Agree s out) :
    Distinct (Live s.heap) := by
  constructor
  · rintro a b q r r' ⟨t, ht, hq, -⟩ ⟨u, hu, hq', -⟩
    exact h.unique a b t u ht hu (hq.trans hq'.symm)
  · rintro a q q' r r' ⟨t, ht, rfl, rfl⟩ ⟨u, hu, rfl, rfl⟩
    cases ht.symm.trans hu
    exact ⟨rfl, rfl⟩

/-- **The history of a queue.** Every timer that was created is live or has a last
note; a timer that was cancelled is not live; and one that was called and does not
repeat is live only until the round in which it was called is over. -/
structure History (live : ℕ → ℕ → Bool → Prop) (numCreated : ℕ) (batch todo : List TimerEntry)
    (notes : List TimerNote) : Prop where
  known : ∀ n ∈ notes, n.sequence ≤ numCreated
  called : ∀ e ∈ batch, e ∉ todo → ∀ q r, live (timer e) q r → ∃ due at_, .ran q due at_ r ∈ notes
  cancelled : ∀ q, .cancelled q ∈ notes → ∀ a r, ¬ live a q r
  ran : ∀ q due at_ r, .ran q due at_ r ∈ notes → ∀ a r', live a q r' →
    r' = r ∧ (r = false → ∃ e ∈ batch, e ∉ todo ∧ timer e = a)
  accounted : ∀ q, 0 < q → q ≤ numCreated →
    (∃ a r, live a q r) ∨ ∃ n ∈ notes, n.Final ∧ n.sequence = q
  ordered : notes.Pairwise fun n m => n.Final → ¬ m.RunOf n.sequence
  due : ∀ q due at_ r, .ran q due at_ r ∈ notes → due ≤ at_

namespace History

variable {live live' : ℕ → ℕ → Bool → Prop} {numCreated : ℕ} {batch todo : List TimerEntry}
  {notes : List TimerNote}

/-- A new timer. -/
theorem create (h : History live numCreated batch todo notes) {a : ℕ} {r : Bool}
    (ha : ∀ e ∈ batch, timer e ≠ a)
    (hlive : ∀ b q r', live' b q r' ↔ live b q r' ∨ b = a ∧ q = numCreated + 1 ∧ r' = r) :
    History live' (numCreated + 1) batch todo notes := by
  have hold : ∀ n ∈ notes, n.sequence ≠ numCreated + 1 := fun n hn =>
    (Nat.lt_succ_of_le (h.known n hn)).ne
  refine ⟨fun n hn => (h.known n hn).trans (Nat.le_succ _), fun e he hnot q r' hl => ?_,
    fun q hq b r' hl => ?_, fun q d w r' hran b r'' hl => ?_, fun q hpos hq => ?_, h.ordered, h.due⟩
  · rcases (hlive _ _ _).mp hl with hl | ⟨heq, -, -⟩
    · exact h.called e he hnot q r' hl
    · exact absurd heq (ha e he)
  · rcases (hlive _ _ _).mp hl with hl | ⟨-, heq, -⟩
    · exact h.cancelled q hq b r' hl
    · exact hold _ hq heq
  · rcases (hlive _ _ _).mp hl with hl | ⟨-, heq, -⟩
    · exact h.ran q d w r' hran b r'' hl
    · exact absurd heq (hold _ hran)
  · rcases Nat.lt_or_eq_of_le hq with hlt | rfl
    · rcases h.accounted q hpos (Nat.le_of_lt_succ hlt) with ⟨b, r', hl⟩ | hnote
      · exact .inl ⟨b, r', (hlive _ _ _).mpr (.inl hl)⟩
      · exact .inr hnote
    · exact .inl ⟨a, r, (hlive _ _ _).mpr (.inr ⟨rfl, rfl, rfl⟩)⟩

/-- A timer is deleted: it was cancelled, or it was called and does not repeat. -/
theorem delete (h : History live numCreated batch todo notes) (hdistinct : Distinct live)
    {batch' : List TimerEntry} {ns : List TimerNote} {a q : ℕ} {r : Bool} (ha : live a q r)
    (hq : q ≤ numCreated) (hlive : ∀ b q' r', live' b q' r' ↔ b ≠ a ∧ live b q' r')
    (hbatch : ∀ e, e ∈ batch' ↔ e ∈ batch ∧ timer e ≠ a)
    (hlast : ns = [.cancelled q] ∨ ns = [] ∧ ∃ due at_, .ran q due at_ false ∈ notes) :
    History live' numCreated batch' todo (notes ++ ns) := by
  have hmem : ∀ n, n ∈ notes ++ ns → n ∈ notes ∨ n = .cancelled q := by
    intro n hn
    rcases List.mem_append.mp hn with hn | hn
    · exact .inl hn
    · rcases hlast with rfl | ⟨rfl, -⟩
      · exact .inr (List.mem_singleton.mp hn)
      · cases hn
  have hran : ∀ q' d w r', .ran q' d w r' ∈ notes ++ ns → .ran q' d w r' ∈ notes := by
    intro q' d w r' hn
    rcases hmem _ hn with hn | hn
    · exact hn
    · cases hn
  have hends : ∃ n ∈ notes ++ ns, n.Final ∧ n.sequence = q := by
    rcases hlast with rfl | ⟨rfl, due, at_, hin⟩
    · exact ⟨.cancelled q, by simp, trivial, rfl⟩
    · exact ⟨_, List.mem_append_left _ hin, rfl, rfl⟩
  refine ⟨fun n hn => ?_, fun e he hnot q' r' hl => ?_, fun q' hn b r' hl => ?_,
    fun q' d w r' hn b r'' hl => ?_, fun q' hpos hle => ?_, ?_, fun q' d w r' hn => ?_⟩
  · rcases hmem n hn with hn | rfl
    · exact h.known n hn
    · exact hq
  · obtain ⟨d, w, hin⟩ := h.called e ((hbatch e).mp he).1 hnot q' r' ((hlive _ _ _).mp hl).2
    exact ⟨d, w, List.mem_append_left _ hin⟩
  · obtain ⟨hne, hl⟩ := (hlive _ _ _).mp hl
    rcases hmem _ hn with hn | hn
    · exact h.cancelled q' hn b r' hl
    · cases hn
      exact hne (hdistinct.address b a q _ _ hl ha)
  · obtain ⟨hne, hl⟩ := (hlive _ _ _).mp hl
    obtain ⟨heq, hround⟩ := h.ran q' d w r' (hran _ _ _ _ hn) b r'' hl
    refine ⟨heq, fun hr => ?_⟩
    obtain ⟨e, he, hnot, rfl⟩ := hround hr
    exact ⟨e, (hbatch e).mpr ⟨he, hne⟩, hnot, rfl⟩
  · rcases h.accounted q' hpos hle with ⟨b, r', hl⟩ | ⟨n, hn, hfinal⟩
    · by_cases hb : b = a
      · subst hb
        rw [(hdistinct.object b q' q _ _ hl ha).1]
        exact .inr hends
      · exact .inl ⟨b, r', (hlive _ _ _).mpr ⟨hb, hl⟩⟩
    · exact .inr ⟨n, List.mem_append_left _ hn, hfinal⟩
  · refine List.pairwise_append.mpr ⟨h.ordered, ?_, fun n _ m hm _ => ?_⟩
    · rcases hlast with rfl | ⟨rfl, -⟩
      · exact List.pairwise_singleton _ _
      · exact List.Pairwise.nil
    · rcases hlast with rfl | ⟨rfl, -⟩
      · rw [List.mem_singleton.mp hm]
        exact id
      · cases hm
  · exact h.due q' d w r' (hran _ _ _ _ hn)

/-- A round begins. -/
theorem start (h : History live numCreated [] [] notes) (batch : List TimerEntry) :
    History live numCreated batch batch notes :=
  { h with
    called := fun e he hnot => absurd he hnot
    ran := fun q due at_ r hran a r' hl => by
      obtain ⟨heq, hround⟩ := h.ran q due at_ r hran a r' hl
      refine ⟨heq, fun hr => ?_⟩
      obtain ⟨e, he, -⟩ := hround hr
      cases he }

/-- The next timer of a round is called. -/
theorem run {e : TimerEntry} (h : History live numCreated batch (e :: todo) notes)
    (hdistinct : Distinct live) (hnodup : (batch.map timer).Nodup) (htodo : e :: todo <:+ batch)
    {q at_ : ℕ} {r : Bool} (hl : live (timer e) q r) (hq : q ≤ numCreated) (hdue : when e ≤ at_) :
    History live numCreated batch todo (notes ++ [.ran q (when e) at_ r]) := by
  have hin : e ∈ batch := htodo.subset List.mem_cons_self
  have hnot : e ∉ todo := by
    obtain ⟨hnot, -⟩ := List.nodup_cons.mp ((htodo.sublist.map timer).nodup hnodup)
    exact fun he => hnot (List.mem_map_of_mem he)
  refine ⟨fun n hn => ?_, fun e' he' hnot' q' r' hl' => ?_, fun q' hn b r' => ?_,
    fun q' d w r' hn b r'' hl' => ?_, fun q' hpos hle => ?_, ?_, fun q' d w r' hn => ?_⟩
  · rcases List.mem_append.mp hn with hn | hn
    · exact h.known n hn
    · rw [List.mem_singleton.mp hn]
      exact hq
  · by_cases he : e' = e
    · subst he
      obtain ⟨rfl, rfl⟩ := hdistinct.object _ _ _ _ _ hl' hl
      exact ⟨_, _, List.mem_append_right _ (List.mem_singleton.mpr rfl)⟩
    · obtain ⟨d, w, hran⟩ := h.called e' he' (List.not_mem_cons_of_ne_of_not_mem he hnot') q' r' hl'
      exact ⟨d, w, List.mem_append_left _ hran⟩
  · rcases List.mem_append.mp hn with hn | hn
    · exact h.cancelled q' hn b r'
    · simp at hn
  · rcases List.mem_append.mp hn with hn | hn
    · obtain ⟨heq, hround⟩ := h.ran q' d w r' hn b r'' hl'
      refine ⟨heq, fun hr => ?_⟩
      obtain ⟨e', he', hnot', heq'⟩ := hround hr
      exact ⟨e', he', fun hin' => hnot' (List.mem_cons_of_mem _ hin'), heq'⟩
    · obtain ⟨rfl, -, -, rfl⟩ := by simpa using hn
      obtain rfl := hdistinct.address _ _ _ _ _ hl' hl
      exact ⟨(hdistinct.object _ _ _ _ _ hl' hl).2, fun _ => ⟨e, hin, hnot, rfl⟩⟩
  · rcases h.accounted q' hpos hle with hl' | ⟨n, hn, hfinal⟩
    · exact .inl hl'
    · exact .inr ⟨n, List.mem_append_left _ hn, hfinal⟩
  · refine List.pairwise_append.mpr ⟨h.ordered, List.pairwise_singleton _ _, fun n hn m hm => ?_⟩
    rw [List.mem_singleton.mp hm]
    -- a timer that is still to be called has no last note
    intro hfinal heq
    cases n with
    | ran q' d w r' =>
      obtain rfl : q = q' := heq
      obtain ⟨-, hround⟩ := h.ran q d w r' hn _ _ hl
      obtain ⟨e', he', hnot', htimer⟩ := hround hfinal
      rw [List.inj_on_of_nodup_map hnodup he' hin htimer] at hnot'
      exact hnot' List.mem_cons_self
    | cancelled q' =>
      obtain rfl : q = q' := heq
      exact h.cancelled q hn _ _ hl
  · rcases List.mem_append.mp hn with hn | hn
    · exact h.due q' d w r' hn
    · obtain ⟨-, rfl, rfl, -⟩ := by simpa using hn
      exact hdue

/-- A timer that repeats is not in the round any more. -/
theorem restart {e : TimerEntry} (h : History live numCreated (e :: batch) todo notes)
    (hdistinct : Distinct live) {q : ℕ} (hl : live (timer e) q true) :
    History live numCreated batch todo notes :=
  { h with
    called := fun e' he' => h.called e' (List.mem_cons_of_mem _ he')
    ran := fun q' d w r hran a r' hl' => by
      obtain ⟨heq, hround⟩ := h.ran q' d w r hran a r' hl'
      refine ⟨heq, fun hr => ?_⟩
      obtain ⟨e', he', hnot, rfl⟩ := hround hr
      rcases List.mem_cons.mp he' with rfl | he'
      · have := (hdistinct.object _ _ _ _ _ hl' hl).2
        rw [heq, hr] at this
        cases this
      · exact ⟨e', he', hnot, rfl⟩ }

end History

/-- What is known of a queue between any two steps, with its history. -/
structure Known (s : TimerQueue) : Prop extends Inv s where
  history : History (Live s.heap) s.numCreated s.expired s.todo s.notes
  due : ∀ e ∈ s.expired, when e ≤ s.readAt

/-- The loop of `reset`, and the history. -/
theorem History.resetTimer {s s' : TimerQueue} {e : TimerEntry} {batch : List TimerEntry}
    (hsets : Sets s (e :: batch)) (htodo : s.todo = [])
    (h : History (Live s.heap) s.numCreated (e :: batch) s.todo s.notes)
    (hs : s.resetTimer e = some s') :
    History (Live s'.heap) s'.numCreated batch s'.todo s'.notes := by
  have hdistinct := hsets.agree.distinct
  obtain ⟨hfirst, -⟩ := List.nodup_cons.mp hsets.nodup
  obtain ⟨t, ht, ⟨hrepeat, -, t', rfl, rfl⟩ | ⟨ns, hns, rfl⟩⟩ := resetTimer_cases hs
  · show History (Live (Function.update s.heap (timer e) _)) _ _ _ _
    rw [live_update_restart ht]
    exact h.restart hdistinct ⟨t, ht, rfl, hrepeat⟩
  · refine h.delete hdistinct ⟨t, ht, rfl, rfl⟩ (hsets.agree.sequence _ t ht)
      (fun _ _ _ => live_update_none) (fun e' => ?_) ?_
    · rw [List.mem_cons]
      constructor
      · exact fun he' => ⟨.inr he', fun heq => hfirst (heq ▸ List.mem_map_of_mem he')⟩
      · rintro ⟨rfl | he', hne⟩
        · exact absurd rfl hne
        · exact he'
    · rcases hns with ⟨hrepeat, rfl⟩ | rfl
      · have hcalled := h.called e List.mem_cons_self (by simp [htodo]) _ _ ⟨t, ht, rfl, rfl⟩
        rw [hrepeat] at hcalled
        exact .inr ⟨rfl, hcalled⟩
      · exact .inl rfl

theorem Known.step {s s' : TimerQueue} {e : Event} (h : Known s) (hs : system.step s e s') :
    Known s' := by
  suffices hrest : History (Live s'.heap) s'.numCreated s'.expired s'.todo s'.notes ∧
      (∀ e ∈ s'.expired, when e ≤ s'.readAt) from
    { h.toInv.step hs with history := hrest.1, due := hrest.2 }
  have hdistinct := h.sets.agree.distinct
  obtain ⟨he, hexec⟩ := hs
  cases e with
  | tick d =>
    cases hexec
    exact ⟨h.history, h.due⟩
  | setClock now =>
    cases hexec
    exact ⟨h.history, h.due⟩
  | createTimer a w i r =>
    cases hexec
    refine ⟨h.history.create (fun e hin heq => ?_) fun _ _ _ => live_update_new he.1, h.due⟩
    obtain ⟨t, ht⟩ := h.sets.agree.exists_of_out (Sets.mem_out hin)
    rw [heq, show s.heap a = none from he.1] at ht
    cases ht
  | addTimerInLoop a =>
    obtain ⟨t, -, rfl⟩ := addTimerInLoop_eq hexec
    exact ⟨h.history, h.due⟩
  | returnTimer a =>
    obtain ⟨l, rfl⟩ := returnTimer_eq hexec
    exact ⟨h.history, h.due⟩
  | cancelInLoop a q =>
    rcases cancelInLoop_cases hexec with ⟨t, ht, hin, rfl⟩ | ⟨-, c, rfl, -⟩
    · obtain ⟨u, hu, rfl⟩ := h.sets.agree.active a q hin
      refine ⟨h.history.delete hdistinct ⟨u, hu, rfl, rfl⟩ (h.sets.agree.sequence a u hu)
        (fun _ _ _ => live_update_none) (fun e => ?_) (.inl rfl), h.due⟩
      exact (and_iff_left_of_imp fun he => h.sets.timer_ne_of_active he hin).symm
    · exact ⟨h.history, h.due⟩
  | handleRead =>
    have hexpired := h.idle he
    have htodo : s.todo = [] := List.suffix_nil.mp (hexpired ▸ h.todo)
    obtain ⟨active, -, heq⟩ := handleRead_eq h.sets.agree
    have hs' : s.handleRead = some s' := hexec
    rw [heq] at hs'
    cases hs'
    have hhistory := h.history
    rw [hexpired, htodo] at hhistory
    refine ⟨hhistory.start _, fun e hin => ?_⟩
    exact (Finset.mem_filter.mp ((Finset.mem_sort _).mp hin)).2
  | run =>
    obtain ⟨e, todo, t, htodo, ht, rfl⟩ := run_eq hexec
    have hsuffix := h.todo
    have hhistory := h.history
    rw [htodo] at hsuffix hhistory
    refine ⟨hhistory.run hdistinct h.sets.nodup hsuffix ⟨t, ht, rfl, rfl⟩
      (h.sets.agree.sequence _ t ht) (h.due e (hsuffix.subset List.mem_cons_self)), h.due⟩
  | reset =>
    obtain ⟨s₁, hs₁, hexec⟩ := Option.bind_eq_some_iff.mp hexec
    have hstart : Sets { s with callingExpiredTimers := false } s.expired := h.sets.frame
    obtain ⟨s₂, hs₂, hsets, htodo, hhistory⟩ := exists_foldlM
      (P := fun s l => Sets s l ∧ s.todo = [] ∧
        History (Live s.heap) s.numCreated l s.todo s.notes)
      (f := resetTimer)
      (fun s e l hP => by
        obtain ⟨hsets, htodo, hhistory⟩ := hP
        obtain ⟨s', hs', hsets'⟩ := hsets.resetTimer
        have hhistory' := hhistory.resetTimer hsets htodo hs'
        obtain ⟨_, _, _, _, rfl⟩ := resetTimer_frame hs'
        exact ⟨_, hs', hsets', htodo, hhistory'⟩) ⟨hstart, he.2, h.history⟩
    cases hs₁.symm.trans hs₂
    have hend : Sets { s₁ with expired := [] } [] := hsets.frame
    obtain ⟨alarm, halarm, -⟩ := resetAlarm_spec hend.agree
    cases hexec.symm.trans halarm
    exact ⟨hhistory, fun e hin => absurd hin List.not_mem_nil⟩

theorem Known.init (now : ℕ) : Known { now := now } where
  toInv := Inv.init now
  history := ⟨by simp, by simp, by simp, by simp,
    fun q hpos hle => absurd hpos (Nat.not_lt.mpr hle), by simp, by simp⟩
  due := by simp

theorem known_of_system {es : List Event} {s : TimerQueue} (h : system.Run es s) : Known s :=
  h.invariant (fun _ ⟨now, _, hs⟩ => hs ▸ Known.init now) fun _ _ _ => Known.step

/-- **No timer is called before it is due, or again after its last note, and none is
lost:** each one that was created has a last note, or is on the heap and is still to
be added, in both sets, or in the round that is under way. A last note is that of the
call of a timer that does not repeat, or of its deletion because it was cancelled; due
is meant by the clock that `handleRead` has read. -/
theorem history_of_run {es : List Event} {s : TimerQueue} (h : system.Run es s) :
    (∀ q due at_ r, .ran q due at_ r ∈ s.notes → due ≤ at_) ∧
    s.notes.Pairwise (fun n m => n.Final → ¬ m.RunOf n.sequence) ∧
    ∀ q, 0 < q → q ≤ s.numCreated →
      (∃ a t, s.heap a = some t ∧ t.sequence = q ∧
        (a ∈ s.added ∨ (entry t.expiration a ∈ s.timers ∧ (a, q) ∈ s.activeTimers) ∨
          ∃ e ∈ s.expired, timer e = a)) ∨
      ∃ n ∈ s.notes, n.Final ∧ n.sequence = q := by
  have hknown := known_of_system h
  refine ⟨hknown.history.due, hknown.history.ordered, fun q hpos hle => ?_⟩
  rcases hknown.history.accounted q hpos hle with ⟨a, r, t, ht, rfl, -⟩ | hlast
  · refine .inl ⟨a, t, ht, rfl, ?_⟩
    by_cases hin : (a, t.sequence) ∈ s.activeTimers
    · exact .inr (.inl ⟨(hknown.sets.agree.timers _ a).mpr ⟨t, ht, rfl, hin⟩, hin⟩)
    · rcases Finset.mem_union.mp ((hknown.sets.agree.out a).mpr ⟨t, ht, hin⟩) with hin | hin
      · exact .inl hin
      · exact .inr (.inr (List.mem_map.mp (List.mem_toFinset.mp hin)))
  · exact .inr hlast

/-- Of two timers, the first was called when it was due, and does not repeat; the second
was called and cancelled. -/
theorem history_of_run_roundOver :
    (∀ q due at_ r, .ran q due at_ r ∈ roundOver.notes → due ≤ at_) ∧
    roundOver.notes.Pairwise (fun n m => n.Final → ¬ m.RunOf n.sequence) ∧
    ∀ q, 0 < q → q ≤ 2 →
      (∃ a t, roundOver.heap a = some t ∧ t.sequence = q ∧
        (a ∈ roundOver.added ∨ (entry t.expiration a ∈ roundOver.timers ∧
          (a, q) ∈ roundOver.activeTimers) ∨ ∃ e ∈ roundOver.expired, timer e = a)) ∨
      ∃ n ∈ roundOver.notes, n.Final ∧ n.sequence = q :=
  history_of_run run_roundOver

/-! ## Cancelling -/

/-- The calls of a timer. -/
def runs (q : ℕ) (notes : List TimerNote) : ℕ := notes.countP fun n => decide (n.RunOf q)

theorem runs_append_cancelled (q q' : ℕ) (notes : List TimerNote) :
    runs q (notes ++ [.cancelled q']) = runs q notes := by
  rw [runs, List.countP_append, List.countP_singleton]
  rfl

theorem runs_append_ran (q q' due at_ : ℕ) (r : Bool) (notes : List TimerNote) :
    runs q (notes ++ [.ran q' due at_ r]) = runs q notes + if q' = q then 1 else 0 := by
  by_cases hq : q' = q
  · simp [runs, TimerNote.RunOf, hq]
  · simp [runs, TimerNote.RunOf, hq]

/-- What holds of a timer from the moment it is cancelled: it is gone, or it is in the
round that is under way and will be deleted at its end. At most `calls` calls were
made, or are still to come. -/
structure Doomed (a q calls : ℕ) (s : TimerQueue) : Prop where
  known : q ≤ s.numCreated
  most : runs q s.notes ≤ calls
  doomed : (∀ b r, ¬ Live s.heap b q r) ∨ (s.callingExpiredTimers = true ∧
    (a, q) ∈ s.cancelingTimers ∧ (∃ r, Live s.heap a q r) ∧ a ∈ s.expired.map timer ∧
    runs q s.notes + (s.todo.map timer).count a ≤ calls)

theorem Doomed.resetTimer {a q calls : ℕ} {s s' : TimerQueue} {e : TimerEntry}
    {batch : List TimerEntry} (hsets : Sets s (e :: batch)) (hs : s.resetTimer e = some s')
    (hmost : runs q s.notes ≤ calls)
    (h : (∀ b r, ¬ Live s.heap b q r) ∨
      (a, q) ∈ s.cancelingTimers ∧ a ∈ (e :: batch).map timer ∧ ∃ r, Live s.heap a q r) :
    runs q s'.notes ≤ calls ∧ ((∀ b r, ¬ Live s'.heap b q r) ∨
      (a, q) ∈ s'.cancelingTimers ∧ a ∈ batch.map timer ∧ ∃ r, Live s'.heap a q r) := by
  have hdistinct := hsets.agree.distinct
  obtain ⟨t, ht, ⟨hrepeat, hnot, t', rfl, rfl⟩ | ⟨ns, hns, rfl⟩⟩ := resetTimer_cases hs
  · refine ⟨hmost, ?_⟩
    show (∀ b r, ¬ Live (Function.update s.heap (timer e) _) b q r) ∨ _ ∧ _ ∧ ∃ r,
      Live (Function.update s.heap (timer e) _) a q r
    rw [live_update_restart ht]
    refine h.imp_right fun ⟨hcancel, hin, r, hl⟩ => ⟨hcancel, ?_, r, hl⟩
    -- the cancelled timer is not restarted
    refine (List.mem_cons.mp hin).resolve_left fun heq => hnot ?_
    obtain ⟨u, hu, rfl, -⟩ := hl
    rw [show a = timer e from heq, ht] at hu
    rw [← show a = timer e from heq, Option.some.inj hu]
    exact hcancel
  · refine ⟨?_, ?_⟩
    · rcases hns with ⟨-, rfl⟩ | rfl
      · rwa [List.append_nil]
      · rwa [runs_append_cancelled]
    · rcases h with h | ⟨hcancel, hin, r, hl⟩
      · exact .inl fun b r hl => h b r (live_update_none.mp hl).2
      · by_cases heq : a = timer e
        · refine .inl fun b r' hl' => ?_
          obtain ⟨hne, hl'⟩ := live_update_none.mp hl'
          exact hne (heq ▸ hdistinct.address b a q r' r hl' hl)
        · exact .inr ⟨hcancel, (List.mem_cons.mp hin).resolve_left heq, r,
            live_update_none.mpr ⟨heq, hl⟩⟩

/-- A callback is called: one call less is to come where it is that of the timer. -/
theorem Doomed.run {a q calls : ℕ} {s s' : TimerQueue} (hknown : Known s)
    (h : Doomed a q calls s) (hexec : s.run = some s') : Doomed a q calls s' := by
  obtain ⟨e, todo, t, htodo, ht, rfl⟩ := run_eq hexec
  have hruns := runs_append_ran q t.sequence (when e) s.readAt t.repeats s.notes
  rcases h.doomed with hgone | ⟨hcalling, hcancel, ⟨r, hl⟩, hround, hle⟩
  · have hne : t.sequence ≠ q := fun heq => hgone (timer e) t.repeats ⟨t, ht, heq, rfl⟩
    rw [if_neg hne] at hruns
    exact ⟨h.known, hruns.symm ▸ h.most, .inl hgone⟩
  · rw [htodo, List.map_cons, List.count_cons] at hle
    have hsame : t.sequence = q ↔ timer e = a := by
      constructor
      · exact fun heq => hknown.sets.agree.distinct.address _ _ _ _ _ ⟨t, ht, heq, rfl⟩ hl
      · intro heq
        obtain ⟨u, hu, hseq, -⟩ := hl
        rw [← heq, ht] at hu
        rw [Option.some.inj hu, hseq]
    have hle : runs q (s.notes ++ [.ran t.sequence (when e) s.readAt t.repeats]) +
        (todo.map timer).count a ≤ calls := by
      simp only [beq_iff_eq, ← hsame] at hle
      omega
    exact ⟨h.known, (Nat.le_add_right _ _).trans hle,
      .inr ⟨hcalling, hcancel, ⟨r, hl⟩, hround, hle⟩⟩

/-- The round is over: where the timer was in it, it is deleted now. -/
theorem Doomed.reset {a q calls : ℕ} {s s' : TimerQueue} (hknown : Known s)
    (h : Doomed a q calls s) (hexec : s.reset = some s') : Doomed a q calls s' := by
  obtain ⟨s₁, hs₁, hexec⟩ := Option.bind_eq_some_iff.mp hexec
  have hstart : Sets { s with callingExpiredTimers := false } s.expired := hknown.sets.frame
  obtain ⟨s₂, hs₂, hsets, hcreated, hmost, hdoomed⟩ := exists_foldlM
    (P := fun s' l => Sets s' l ∧ q ≤ s'.numCreated ∧ runs q s'.notes ≤ calls ∧
      ((∀ b r, ¬ Live s'.heap b q r) ∨
        (a, q) ∈ s'.cancelingTimers ∧ a ∈ l.map timer ∧ ∃ r, Live s'.heap a q r))
    (f := TimerQueue.resetTimer)
    (fun s e l hP => by
      obtain ⟨hsets, hcreated, hmost, hdoomed⟩ := hP
      obtain ⟨s', hs', hsets'⟩ := hsets.resetTimer
      obtain ⟨hmost', hdoomed'⟩ := Doomed.resetTimer hsets hs' hmost hdoomed
      obtain ⟨_, _, _, _, rfl⟩ := resetTimer_frame hs'
      exact ⟨_, hs', hsets', hcreated, hmost', hdoomed'⟩)
    ⟨hstart, h.known, h.most, h.doomed.imp_right fun ⟨_, hcancel, hl, hround, _⟩ =>
      ⟨hcancel, hround, hl⟩⟩
  cases hs₁.symm.trans hs₂
  have hend : Sets { s₁ with expired := [] } [] := hsets.frame
  obtain ⟨alarm, halarm, -⟩ := resetAlarm_spec hend.agree
  cases hexec.symm.trans halarm
  refine ⟨hcreated, hmost, .inl (hdoomed.resolve_right ?_)⟩
  rintro ⟨-, hin, -⟩
  cases hin

theorem Doomed.step {a q calls : ℕ} {s s' : TimerQueue} {e : Event} (hknown : Known s)
    (h : Doomed a q calls s) (hs : system.step s e s') : Doomed a q calls s' := by
  obtain ⟨he, hexec⟩ := hs
  cases e with
  | tick d =>
    cases hexec
    exact ⟨h.known, h.most, h.doomed⟩
  | setClock now =>
    cases hexec
    exact ⟨h.known, h.most, h.doomed⟩
  | createTimer b w i r =>
    cases hexec
    refine ⟨h.known.trans (Nat.le_succ _), h.most, ?_⟩
    refine h.doomed.imp (fun hgone c r' hl => ?_) fun ⟨hcalling, hcancel, ⟨r', hl⟩, hrest⟩ => ?_
    · rcases (live_update_new he.1).mp hl with hl | ⟨-, heq, -⟩
      · exact hgone c r' hl
      · exact absurd h.known (Nat.not_le.mpr (heq ▸ Nat.lt_succ_self _))
    · exact ⟨hcalling, hcancel, ⟨r', (live_update_new he.1).mpr (.inl hl)⟩, hrest⟩
  | addTimerInLoop b =>
    obtain ⟨t, -, rfl⟩ := addTimerInLoop_eq hexec
    exact ⟨h.known, h.most, h.doomed⟩
  | returnTimer b =>
    obtain ⟨l, rfl⟩ := returnTimer_eq hexec
    exact ⟨h.known, h.most, h.doomed⟩
  | cancelInLoop b q' =>
    rcases cancelInLoop_cases hexec with ⟨t, ht, hin, rfl⟩ | ⟨-, c, rfl, hsub, -⟩
    · have hruns : runs q (s.notes ++ [.cancelled q']) = runs q s.notes :=
        runs_append_cancelled ..
      refine ⟨h.known, hruns.symm ▸ h.most, ?_⟩
      refine h.doomed.imp (fun hgone c r hl => hgone c r (live_update_none.mp hl).2) ?_
      rintro ⟨hcalling, hcancel, ⟨r, hl⟩, hround, hle⟩
      refine ⟨hcalling, hcancel, ⟨r, live_update_none.mpr ⟨?_, hl⟩⟩, hround, hruns.symm ▸ hle⟩
      -- a timer of the round is in neither set
      rintro rfl
      obtain ⟨e, he, heq⟩ := List.mem_map.mp hround
      exact hknown.sets.timer_ne_of_active he hin heq
    · refine ⟨h.known, h.most, h.doomed.imp_right ?_⟩
      exact fun ⟨hcalling, hcancel, hrest⟩ => ⟨hcalling, hsub hcancel, hrest⟩
  | handleRead =>
    obtain ⟨active, -, heq⟩ := handleRead_eq hknown.sets.agree
    have hs' : s.handleRead = some s' := hexec
    rw [heq] at hs'
    cases hs'
    refine ⟨h.known, h.most, .inl ?_⟩
    rcases h.doomed with hgone | ⟨hcalling, -⟩
    · exact hgone
    · rw [show s.callingExpiredTimers = false from he] at hcalling
      cases hcalling
  | run => exact h.run hknown hexec
  | reset => exact h.reset hknown hexec

/-- **What `cancel` does.** A timer that is cancelled is called at most once more, and
this only if it has expired and its call in the round that is under way is still to
come; and it is deleted when that round is over, at the latest. -/
theorem cancelInLoop_of_run {es fs : List Event} {s₁ s₂ s : TimerQueue} (h : system.Run es s₁)
    {a : ℕ} {t : Timer} (ht : s₁.heap a = some t) (ha : a ∉ s₁.added)
    (hs : s₁.cancelInLoop a t.sequence = some s₂) (h' : (system.after s₂).Run fs s) :
    runs t.sequence s.notes
        ≤ runs t.sequence s₁.notes + (if a ∈ s₁.todo.map timer then 1 else 0) ∧
      (s.callingExpiredTimers = false → ∀ b u, s.heap b = some u → u.sequence ≠ t.sequence) := by
  have hknown := known_of_system h
  have hstart : Doomed a t.sequence
      (runs t.sequence s₁.notes + (s₁.todo.map timer).count a) s₂ := by
    rcases cancelInLoop_cases hs with ⟨u, hu, hin, rfl⟩ | ⟨hnot, c, rfl, -, hcancel⟩
    · refine ⟨hknown.sets.agree.sequence a t ht, ?_, .inl fun b r hl => ?_⟩
      · rw [runs_append_cancelled]
        exact Nat.le_add_right _ _
      · obtain ⟨hne, hl⟩ := live_update_none.mp hl
        exact hne (hknown.sets.agree.distinct.address _ _ _ _ _ hl ⟨t, ht, rfl, rfl⟩)
    · have hround : a ∈ s₁.expired.map timer := List.mem_toFinset.mp
        ((Finset.mem_union.mp ((hknown.sets.agree.out a).mpr ⟨t, ht, hnot⟩)).resolve_left ha)
      have hcalling : s₁.callingExpiredTimers = true := by
        by_contra hidle
        rw [hknown.idle (by simpa using hidle)] at hround
        cases hround
      exact ⟨hknown.sets.agree.sequence a t ht, Nat.le_add_right _ _, .inr ⟨hcalling,
        hcancel hcalling, ⟨_, t, ht, rfl, rfl⟩, hround, le_refl _⟩⟩
  have hknown₂ : Known s₂ := hknown.step (e := .cancelInLoop a t.sequence) ⟨trivial, hs⟩
  have hend : Known s ∧ Doomed a t.sequence
      (runs t.sequence s₁.notes + (s₁.todo.map timer).count a) s := by
    refine @System.Run.invariant _ _ _ (fun s => Known s ∧ Doomed a t.sequence _ s) ?_ ?_ _ _ h'
    · rintro s₀ rfl
      exact ⟨hknown₂, hstart⟩
    · exact fun s₃ _ s₄ hb hstep => ⟨hb.1.step hstep, hb.2.step hb.1 hstep⟩
  have hnodup : (s₁.todo.map timer).Nodup :=
    (hknown.todo.sublist.map timer).nodup hknown.sets.nodup
  refine ⟨hnodup.count ▸ hend.2.most, fun hidle b u hu hseq => ?_⟩
  rcases hend.2.doomed with hgone | ⟨hcalling, -⟩
  · exact hgone b _ ⟨u, hu, hseq, rfl⟩
  · rw [hidle] at hcalling
    cases hcalling

/-- A timer that repeats is cancelled in its round, in front of its own call: it is
called once more, and gone when the round is over. -/
theorem cancelInLoop_of_run_roundOver : runs 2 roundOver.notes ≤ 0 + 1 ∧
    ∀ b u, roundOver.heap b = some u → u.sequence ≠ 2 := by
  have hcancel : inRound.cancelInLoop 8 2 = some { inRound with cancelingTimers := {(8, 2)} } :=
    rfl
  have hnil : (system.after { inRound with cancelingTimers := {(8, 2)} }).Run [] _ := .nil rfl
  obtain ⟨hruns, hgone⟩ := cancelInLoop_of_run (a := 8) (t := ⟨20, 5, true, 2⟩) run_inRound rfl
    (Finset.notMem_empty 8) hcancel ((hnil.snoc step_bothCalled).snoc step_roundOver)
  exact ⟨hruns, hgone rfl⟩

end TimerQueue

end Muduo
