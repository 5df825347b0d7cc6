import RtspServer.TimerHistory

/-!
# The alarm of a timer queue

The loop is told by a `timerfd` that timers have expired, which has to be set
again whenever the earliest timer changes. `TimerQueue.alarm_of_run` says that it
is never set too late, as long as the clock is not set forward: the `timerfd` runs
by the monotonic clock, and one that is armed already does not follow the other.
-/

namespace Muduo

namespace TimerQueue

open TimerEntry

/-! ## The alarm -/

/-- The `timerfd` can be read at the time `w` of the clock as it goes now, or 100
microseconds from now if this is past or close. -/
def AlarmBy (s : TimerQueue) (w : ℕ) : Prop :=
  ∃ x, s.alarm = some x ∧ x ≤ s.ticks + s.howMuchTimeFromNow w

theorem howMuchTimeFromNow_le {s s' : TimerQueue} (hnow : s'.now ≤ s.now) {w w' : ℕ}
    (hw : w ≤ w') : s.howMuchTimeFromNow w ≤ s'.howMuchTimeFromNow w' := by
  show max (w - s.now) 100 ≤ max (w' - s'.now) 100
  omega

theorem AlarmBy.mono {s : TimerQueue} {w w' : ℕ} (h : s.AlarmBy w) (hw : w ≤ w') :
    s.AlarmBy w' := by
  obtain ⟨x, hx, hle⟩ := h
  exact ⟨x, hx, hle.trans (Nat.add_le_add_left (howMuchTimeFromNow_le (le_refl _) hw) _)⟩

/-- Time goes by. -/
theorem AlarmBy.tick {s : TimerQueue} {w : ℕ} (h : s.AlarmBy w) (d : ℕ) :
    AlarmBy { s with now := s.now + d, ticks := s.ticks + d } w := by
  obtain ⟨x, hx, hle⟩ := h
  refine ⟨x, hx, hle.trans ?_⟩
  show s.ticks + max (w - s.now) 100 ≤ s.ticks + d + max (w - (s.now + d)) 100
  omega

/-- The clock is set back. -/
theorem AlarmBy.setClock {s : TimerQueue} {w : ℕ} (h : s.AlarmBy w) {now : ℕ}
    (hnow : now ≤ s.now) : AlarmBy { s with now := now } w := by
  obtain ⟨x, hx, hle⟩ := h
  exact ⟨x, hx, hle.trans (Nat.add_le_add_left (howMuchTimeFromNow_le hnow (le_refl w)) _)⟩

/-- **The `timerfd` is set for every timer,** except while the timers of a round are
called: then it is only set for those that `reset` would not set it for, whose
expiration is 0 and taken for no time at all. A timer that is added from a callback
sets it as any other; `reset` sets it again, for the first of all. -/
structure Alarm (s : TimerQueue) : Prop where
  idle : s.callingExpiredTimers = false → ∀ e ∈ s.timers, s.AlarmBy (when e)
  zero : s.callingExpiredTimers = true → ∀ e ∈ s.timers, when e = 0 → s.AlarmBy 0
  readAt : s.callingExpiredTimers = true → 0 < s.readAt
  now : 0 < s.now

namespace Alarm

variable {s s' : TimerQueue}

theorem addTimerInLoop (h : Alarm s) {a : ℕ} (hs : s.addTimerInLoop a = some s') : Alarm s' := by
  obtain ⟨t, -, rfl⟩ := addTimerInLoop_eq hs
  by_cases hfirst : ∀ e ∈ s.timers, t.expiration < when e
  · -- the `timerfd` is set for the new timer, which is the earliest
    have hset : ∀ w, t.expiration ≤ w → AlarmBy { s with
        added := s.added.erase a
        timers := Insert.insert (entry t.expiration a) s.timers
        activeTimers := Insert.insert (a, t.sequence) s.activeTimers
        alarm := if ∀ e ∈ s.timers, t.expiration < when e then
          some (s.ticks + s.howMuchTimeFromNow t.expiration) else s.alarm } w := fun w hw =>
      ⟨_, if_pos hfirst, Nat.add_le_add_left (howMuchTimeFromNow_le (le_refl _) hw) _⟩
    refine ⟨fun _ e he => hset _ ?_, fun _ e he hzero => hset _ ?_, h.readAt, h.now⟩
    · rcases Finset.mem_insert.mp he with rfl | he
      · exact le_refl _
      · exact (hfirst e he).le
    · rcases Finset.mem_insert.mp he with rfl | he
      · exact hzero.le
      · exact ((hfirst e he).trans_eq hzero).le
  · -- it is set for an earlier one already
    obtain ⟨e₀, he₀, hle⟩ : ∃ e₀ ∈ s.timers, when e₀ ≤ t.expiration := by
      simpa using hfirst
    have hkeep : ∀ w, s.AlarmBy w → AlarmBy { s with
        added := s.added.erase a
        timers := Insert.insert (entry t.expiration a) s.timers
        activeTimers := Insert.insert (a, t.sequence) s.activeTimers
        alarm := if ∀ e ∈ s.timers, t.expiration < when e then
          some (s.ticks + s.howMuchTimeFromNow t.expiration) else s.alarm } w :=
      fun w ⟨x, hx, hw⟩ => ⟨x, (if_neg hfirst).trans hx, hw⟩
    refine ⟨fun hidle e he => hkeep _ ?_, fun hcalling e he hzero => hkeep _ ?_, h.readAt, h.now⟩
    · rcases Finset.mem_insert.mp he with rfl | he
      · exact (h.idle hidle e₀ he₀).mono hle
      · exact h.idle hidle e he
    · rcases Finset.mem_insert.mp he with rfl | he
      · exact h.zero hcalling e₀ he₀ (Nat.le_zero.mp (hle.trans_eq hzero))
      · exact h.zero hcalling e he hzero

theorem cancelInLoop (h : Alarm s) {a q : ℕ} (hs : s.cancelInLoop a q = some s') : Alarm s' := by
  rcases cancelInLoop_cases hs with ⟨t, -, -, rfl⟩ | ⟨-, c, rfl, -⟩
  · exact ⟨fun hidle e he => h.idle hidle e (Finset.mem_of_mem_erase he),
      fun hcalling e he => h.zero hcalling e (Finset.mem_of_mem_erase he), h.readAt, h.now⟩
  · exact ⟨h.idle, h.zero, h.readAt, h.now⟩

theorem handleRead (h : Alarm s) {out : Finset ℕ} (hagree : Agree s out)
    (hs : s.handleRead = some s') : Alarm s' := by
  obtain ⟨active, -, heq⟩ := handleRead_eq hagree
  obtain rfl := Option.some.inj (heq.symm.trans hs)
  refine ⟨fun hidle => absurd hidle (by simp), fun _ e hin hzero => ?_, fun _ => h.now, h.now⟩
  -- a timer with expiration 0 is in the round
  have hlate := (Finset.mem_filter.mp hin).2
  rw [hzero] at hlate
  exact absurd hlate (Nat.not_lt_zero _)

/-- The end of `reset` sets the alarm for all timers. -/
theorem resetAlarm {out : Finset ℕ} (hagree : Agree s out) (hs : s.resetAlarm = some s')
    (hidle : s.callingExpiredTimers = false) (hnow : 0 < s.now)
    (hzero : ∀ e ∈ s.timers, when e = 0 → s.AlarmBy 0) : Alarm s' := by
  have hnot : ¬ s.callingExpiredTimers = true := by
    rw [hidle]
    exact Bool.false_ne_true
  obtain ⟨alarm, heq, ⟨hempty, rfl⟩ | ⟨m, ⟨e, he, hm⟩, hfirst, rfl⟩⟩ := resetAlarm_spec hagree
  · obtain rfl := Option.some.inj (heq.symm.trans hs)
    refine ⟨fun _ e he => ?_, fun h => absurd h hnot, fun h => absurd h hnot, hnow⟩
    rw [show s.timers = ∅ from hempty] at he
    cases he
  · obtain rfl := Option.some.inj (heq.symm.trans hs)
    refine ⟨fun _ e' he' => ?_, fun h => absurd h hnot, fun h => absurd h hnot, hnow⟩
    by_cases hvalid : 0 < m
    · exact ⟨_, if_pos hvalid,
        Nat.add_le_add_left (howMuchTimeFromNow_le (le_refl _) (hfirst e' he')) _⟩
    · obtain ⟨x, hx, hle⟩ := (hzero e he (hm.trans (Nat.eq_zero_of_not_pos hvalid))).mono
        (Nat.zero_le (when e'))
      exact ⟨x, (if_neg hvalid).trans hx, hle⟩

theorem step (hknown : Known s) (h : Alarm s) {e : Event} (hsteady : s.Steady e)
    (hs : system.step s e s') : Alarm s' := by
  obtain ⟨he, hexec⟩ := hs
  cases e with
  | tick d =>
    cases hexec
    exact ⟨fun hidle e hin => (h.idle hidle e hin).tick d,
      fun hcalling e hin hzero => (h.zero hcalling e hin hzero).tick d, h.readAt,
      Nat.add_pos_left h.now d⟩
  | setClock now =>
    cases hexec
    exact ⟨fun hidle e hin => (h.idle hidle e hin).setClock hsteady,
      fun hcalling e hin hzero => (h.zero hcalling e hin hzero).setClock hsteady, h.readAt, he⟩
  | createTimer a w i r =>
    cases hexec
    exact ⟨h.idle, h.zero, h.readAt, h.now⟩
  | addTimerInLoop a => exact h.addTimerInLoop hexec
  | returnTimer a =>
    obtain ⟨l, rfl⟩ := returnTimer_eq hexec
    exact ⟨h.idle, h.zero, h.readAt, h.now⟩
  | cancelInLoop a q => exact h.cancelInLoop hexec
  | handleRead => exact h.handleRead hknown.sets.agree hexec
  | run =>
    obtain ⟨e, todo, t, -, -, rfl⟩ := run_eq hexec
    exact ⟨h.idle, h.zero, h.readAt, h.now⟩
  | reset =>
    obtain ⟨s₁, hs₁, hexec⟩ := Option.bind_eq_some_iff.mp hexec
    have hstart : Sets { s with callingExpiredTimers := false } s.expired := hknown.sets.frame
    obtain ⟨s₂, hs₂, hsets, hidle, hread, hnow, hzero⟩ := exists_foldlM
      (P := fun s l => Sets s l ∧ s.callingExpiredTimers = false ∧ 0 < s.readAt ∧ 0 < s.now ∧
        ∀ e ∈ s.timers, when e = 0 → s.AlarmBy 0)
      (f := TimerQueue.resetTimer)
      (fun s e l hP => by
        obtain ⟨hsets, hidle, hread, hnow, hzero⟩ := hP
        obtain ⟨s', hs', hsets'⟩ := hsets.resetTimer
        obtain ⟨t, -, ⟨-, -, t', rfl, rfl⟩ | ⟨ns, -, rfl⟩⟩ := resetTimer_cases hs'
        · refine ⟨_, hs', hsets', hidle, hread, hnow, fun e' hin hzero' => ?_⟩
          rcases Finset.mem_insert.mp hin with rfl | hin
          · -- a timer that repeats is due after the round
            exact absurd hzero' (Nat.add_pos_left hread t.interval).ne'
          · exact hzero e' hin hzero'
        · exact ⟨_, hs', hsets', hidle, hread, hnow, hzero⟩)
      ⟨hstart, rfl, h.readAt he.1, h.now, h.zero he.1⟩
    obtain rfl := Option.some.inj (hs₂.symm.trans hs₁)
    have hend : Sets { s₂ with expired := [] } [] := hsets.frame
    exact resetAlarm hend.agree hexec hidle hnow hzero

end Alarm

theorem Alarm.init {now : ℕ} (hnow : 0 < now) : Alarm { now := now } where
  idle _ e he := absurd he (Finset.notMem_empty e)
  zero h := absurd h Bool.false_ne_true
  readAt h := absurd h Bool.false_ne_true
  now := hnow

/-- **No timer is forgotten.** Between two rounds the `timerfd` is set for every timer
that was added: it can be read when the timer is due, or, where this is past or close,
in at most 100 microseconds. And a round begins with every timer that is due. The first
is said of runs in which the clock is not set forward; where it is, the `timerfd` is
late by as much. -/
theorem alarm_of_run {es : List Event} {s : TimerQueue} (h : (system.restrict Steady).Run es s)
    (hidle : s.callingExpiredTimers = false) {a : ℕ} {t : Timer} (ht : s.heap a = some t)
    (ha : a ∉ s.added) :
    (∃ x, s.alarm = some x ∧ x ≤ s.ticks + max (t.expiration - s.now) 100) ∧
      ∀ s', t.expiration ≤ s.now → s.handleRead = some s' → entry t.expiration a ∈ s'.todo := by
  obtain ⟨hknown, halarm⟩ : Known s ∧ Alarm s := by
    refine @System.Run.invariant _ _ _ (fun s => Known s ∧ Alarm s) ?_ ?_ _ _ h
    · rintro s₀ ⟨now, hnow, rfl⟩
      exact ⟨Known.init now, Alarm.init hnow⟩
    · exact fun s₁ _ s₂ hb hs => ⟨hb.1.step hs.2, hb.2.step hb.1 hs.1 hs.2⟩
  have hin : (a, t.sequence) ∈ s.activeTimers := by
    by_contra hnot
    have hout := (hknown.sets.agree.out a).mpr ⟨t, ht, hnot⟩
    rw [hknown.idle hidle] at hout
    simp [ha] at hout
  have hentry : entry t.expiration a ∈ s.timers :=
    (hknown.sets.agree.timers _ _).mpr ⟨t, ht, rfl, hin⟩
  constructor
  · exact halarm.idle hidle _ hentry
  · intro s' hdue hs'
    obtain ⟨active, -, heq⟩ := handleRead_eq hknown.sets.agree
    obtain rfl := Option.some.inj (heq.symm.trans hs')
    exact (Finset.mem_sort _).mpr (Finset.mem_filter.mpr ⟨hentry, hdue⟩)

/-- Two timers that are due: the `timerfd` can be read, and the second is in the round. -/
theorem alarm_of_run_twoTimers : (∃ x, twoTimers.alarm = some x ∧ x ≤ 119 + max (20 - 120) 100) ∧
    entry 20 8 ∈ roundBegun.todo := by
  obtain ⟨halarm, hround⟩ := alarm_of_run (a := 8) (t := ⟨20, 5, true, 2⟩) run_twoTimers rfl rfl
    (Finset.notMem_empty 8)
  exact ⟨halarm, hround _ (by decide) handleRead_twoTimers⟩

end TimerQueue

end Muduo
