import Mathlib.Data.Finset.Sort
import Mathlib.Data.Prod.Lex
import RtspServer.SharedHeap
import RtspServer.Transition

/-!
# `muduo::net::TimerQueue`

The timers of an event loop. A timer is an object on the heap; the queue keeps it
in two sets, `timers_` by expiration and `activeTimers_` by address and sequence
number, and takes it out of both while the callbacks of the timers that have
expired are called. A callback may add timers and cancel timers, also the one it
belongs to and others of the same round. An address may be used again for a new
timer once a timer was deleted, so that a timer is told from an older one by its
sequence number.

A pointer that is followed must point to a timer that has not been deleted, and
what the code asserts must hold: where it does not, a function has no result
(`none`). `TimerQueue.isSome_exec_of_run` says that this never happens in the
loop's thread. `addTimer` may be called in other threads, too; it reads the
sequence number of its timer when the loop has been given the timer already, and
this read is the one exception.

There are two clocks: the expirations are times of the clock that `gettimeofday`
reads, and can be set; the `timerfd` runs by the monotonic clock and is armed with
differences of the former.
-/

namespace Muduo

/-- A timer; `interval` is in microseconds, as are all times. -/
structure Timer where
  expiration : ℕ
  interval : ℕ
  repeats : Bool
  sequence : ℕ
deriving DecidableEq

/-- `TimerQueue::Entry`, ordered by expiration and then by address. -/
abbrev TimerEntry := ℕ ×ₗ ℕ

namespace TimerEntry

def entry (when timer : ℕ) : TimerEntry := toLex (when, timer)

def when (e : TimerEntry) : ℕ := (ofLex e).1

def timer (e : TimerEntry) : ℕ := (ofLex e).2

@[simp] theorem when_entry (w a : ℕ) : when (entry w a) = w := rfl

@[simp] theorem timer_entry (w a : ℕ) : timer (entry w a) = a := rfl

@[simp] theorem entry_eta (e : TimerEntry) : entry (when e) (timer e) = e := rfl

theorem entry_inj {w a w' a' : ℕ} : entry w a = entry w' a' ↔ w = w' ∧ a = a' :=
  ⟨fun h => ⟨congrArg when h, congrArg timer h⟩, fun ⟨hw, ha⟩ => by rw [hw, ha]⟩

theorem when_le_of_entry_le {w a w' a' : ℕ} (h : entry w a ≤ entry w' a') : w ≤ w' := by
  rcases Prod.Lex.toLex_le_toLex.mp h with h | ⟨h, -⟩
  · exact le_of_lt h
  · exact le_of_eq h

end TimerEntry

/-- What is known of a timer afterwards: that its callback was called, when it was
due and when it was called, or that it was cancelled. -/
inductive TimerNote where
  | ran (sequence due at_ : ℕ) (repeats : Bool)
  | cancelled (sequence : ℕ)
deriving DecidableEq

namespace TimerNote

def sequence : TimerNote → ℕ
  | .ran q _ _ _ => q
  | .cancelled q => q

/-- The timer is not called again after this. -/
def Final : TimerNote → Prop
  | .ran _ _ _ r => r = false
  | .cancelled _ => True

def RunOf (q : ℕ) : TimerNote → Prop
  | .ran q' _ _ _ => q' = q
  | .cancelled _ => False

instance (q : ℕ) : DecidablePred (RunOf q)
  | .ran q' _ _ _ => inferInstanceAs (Decidable (q' = q))
  | .cancelled _ => inferInstanceAs (Decidable False)

end TimerNote

/-- A timer queue, and the timers on the heap by their addresses. `added` are the
timers for which `addTimerInLoop` is still to be called, and `returning` those for
which `addTimer` has not returned yet. `expired` and `readAt` are the variables of
`handleRead` while it calls callbacks, and `todo` is what it has not called yet.
`now` is the time that `Timestamp::now` gives, `ticks` that of the monotonic clock,
and `alarm` the time of the latter at which the `timerfd` can be read, if it is
set. -/
structure TimerQueue where
  heap : ℕ → Option Timer := fun _ => none
  numCreated : ℕ := 0
  timers : Finset TimerEntry := ∅
  activeTimers : Finset (ℕ × ℕ) := ∅
  cancelingTimers : Finset (ℕ × ℕ) := ∅
  callingExpiredTimers : Bool := false
  added : Finset ℕ := ∅
  returning : List ℕ := []
  expired : List TimerEntry := []
  todo : List TimerEntry := []
  readAt : ℕ := 0
  now : ℕ := 0
  ticks : ℕ := 0
  alarm : Option ℕ := none
  notes : List TimerNote := []

namespace TimerQueue

open TimerEntry

/-- The first part of `addTimer`: `new Timer`, at an address that is not in use. -/
def createTimer (s : TimerQueue) (timer when interval : ℕ) (repeats : Bool) : TimerQueue :=
  { s with
    heap := Function.update s.heap timer (some ⟨when, interval, repeats, s.numCreated + 1⟩)
    numCreated := s.numCreated + 1
    added := Insert.insert timer s.added
    returning := timer :: s.returning }

/-- The last part of `addTimer`, which reads the sequence number of the timer. -/
def returnTimer (s : TimerQueue) (timer : ℕ) : Option (ℕ × TimerQueue) :=
  (s.heap timer).map fun t => (t.sequence, { s with returning := s.returning.erase timer })

def howMuchTimeFromNow (s : TimerQueue) (when_ : ℕ) : ℕ := max (when_ - s.now) 100

def resetTimerfd (s : TimerQueue) (expiration : ℕ) : TimerQueue :=
  { s with alarm := some (s.ticks + s.howMuchTimeFromNow expiration) }

/-- The two sets have the same size. -/
def SameSize (s : TimerQueue) : Prop := s.timers.card = s.activeTimers.card

instance (s : TimerQueue) : Decidable s.SameSize := inferInstanceAs (Decidable (_ = _))

/-- Whether the timer is the earliest one now, and the queue with it. -/
def insert (s : TimerQueue) (timer : ℕ) : Option (Bool × TimerQueue) := do
  assert s.SameSize
  let t ← s.heap timer
  assert (entry t.expiration timer ∉ s.timers)
  assert ((timer, t.sequence) ∉ s.activeTimers)
  let s' := { s with
    timers := Insert.insert (entry t.expiration timer) s.timers
    activeTimers := Insert.insert (timer, t.sequence) s.activeTimers }
  assert s'.SameSize
  return (decide (∀ e ∈ s.timers, t.expiration < when e), s')

def addTimerInLoop (s : TimerQueue) (timer : ℕ) : Option TimerQueue := do
  let (earliestChanged, s') ← insert { s with added := s.added.erase timer } timer
  let t ← s'.heap timer
  return if earliestChanged then s'.resetTimerfd t.expiration else s'

def cancelInLoop (s : TimerQueue) (timer sequence : ℕ) : Option TimerQueue := do
  assert s.SameSize
  if (timer, sequence) ∈ s.activeTimers then
    let t ← s.heap timer
    assert (entry t.expiration timer ∈ s.timers)
    let s' := { s with
      timers := s.timers.erase (entry t.expiration timer)
      heap := Function.update s.heap timer none
      activeTimers := s.activeTimers.erase (timer, sequence)
      notes := s.notes ++ [.cancelled sequence] }
    assert s'.SameSize
    return s'
  else if s.callingExpiredTimers then
    return { s with cancelingTimers := Insert.insert (timer, sequence) s.cancelingTimers }
  else
    return s

/-- An expired timer is taken out of `activeTimers_`. -/
def eraseExpired (s : TimerQueue) (e : TimerEntry) : Option TimerQueue := do
  let t ← s.heap (timer e)
  assert ((timer e, t.sequence) ∈ s.activeTimers)
  return { s with activeTimers := s.activeTimers.erase (timer e, t.sequence) }

/-- `UINTPTR_MAX`. No timer has this address. -/
def uintptrMax : ℕ := 2 ^ 64 - 1

/-- The expired timers, earliest first, are taken out of both sets. They are the
entries in front of `sentry`; the second assertion is about the first one that is
left. -/
def getExpired (s : TimerQueue) (now : ℕ) : Option TimerQueue := do
  assert s.SameSize
  let sentry := entry now uintptrMax
  let rest := s.timers.filter (sentry ≤ ·)
  assert (∀ e ∈ (rest.sort (· ≤ ·)).head?, now < when e)
  let expired := (s.timers.filter (· < sentry)).sort
  let s' ← expired.foldlM eraseExpired { s with expired := expired, timers := rest }
  assert s'.SameSize
  return s'

/-- Reading the `timerfd` disarms it, if it can be read. Otherwise (a callback that
was called in front of `handleRead` has armed it again) `handleRead` logs an error and
goes on. -/
def readTimerfd (s : TimerQueue) : TimerQueue :=
  { s with alarm := s.alarm.filter (s.ticks < ·) }

/-- The first part of `handleRead`, up to the calls of the callbacks. -/
def handleRead (s : TimerQueue) : Option TimerQueue :=
  (s.readTimerfd.getExpired s.now).map fun s' =>
    { s' with
      todo := s'.expired
      readAt := s.now
      callingExpiredTimers := true
      cancelingTimers := ∅ }

/-- The next callback is called. -/
def run (s : TimerQueue) : Option TimerQueue :=
  match s.todo with
  | [] => none
  | e :: todo => (s.heap (timer e)).map fun t =>
      { s with
        todo := todo
        notes := s.notes ++ [.ran t.sequence (when e) s.readAt t.repeats] }

/-- One pass through the loop of `reset`. -/
def resetTimer (s : TimerQueue) (e : TimerEntry) : Option TimerQueue :=
  (s.heap (timer e)).bind fun t =>
    if t.repeats ∧ (timer e, t.sequence) ∉ s.cancelingTimers then
      let t' := { t with expiration := s.readAt + t.interval }
      (insert { s with heap := Function.update s.heap (timer e) (some t') } (timer e)).map (·.2)
    else
      some { s with
        heap := Function.update s.heap (timer e) none
        notes := if (timer e, t.sequence) ∈ s.cancelingTimers then
          s.notes ++ [.cancelled t.sequence] else s.notes }

/-- The end of `reset`: the `timerfd` is set for the earliest timer. -/
def resetAlarm (s : TimerQueue) : Option TimerQueue :=
  match s.timers.sort with
  | [] => some s
  | e :: _ => (s.heap (timer e)).map fun t =>
      if 0 < t.expiration then s.resetTimerfd t.expiration else s

/-- The last part of `handleRead`. -/
def reset (s : TimerQueue) : Option TimerQueue :=
  (s.expired.foldlM resetTimer { s with callingExpiredTimers := false }).bind fun s' =>
    resetAlarm { s' with expired := [] }

/-- What happens to a timer queue: time goes by, the clock is set, and its functions
are called. A call of `addTimer` in the loop's thread is `createTimer`,
`addTimerInLoop` and `returnTimer` one directly after another; in another thread
anything can come between them. -/
inductive Event where
  | tick (microseconds : ℕ)
  | setClock (now : ℕ)
  | createTimer (timer when interval : ℕ) (repeats : Bool)
  | addTimerInLoop (timer : ℕ)
  | returnTimer (timer : ℕ)
  | cancelInLoop (timer sequence : ℕ)
  | handleRead
  | run
  | reset

/-- When it can happen. The clock is not set to the beginning of the epoch; a new timer
gets an address that is not in use; `addTimerInLoop` is called for a timer that was
created; and `handleRead` may be called whenever no round is under way, calls all
callbacks, and resets the timers. -/
def Enabled (s : TimerQueue) : Event → Prop
  | .tick _ => True
  | .setClock now => 0 < now
  | .createTimer timer _ _ _ => s.heap timer = none ∧ timer < uintptrMax
  | .addTimerInLoop timer => timer ∈ s.added
  | .returnTimer timer => timer ∈ s.returning
  | .cancelInLoop _ _ => True
  | .handleRead => s.callingExpiredTimers = false
  | .run => s.callingExpiredTimers = true ∧ s.todo ≠ []
  | .reset => s.callingExpiredTimers = true ∧ s.todo = []

def exec (s : TimerQueue) : Event → Option TimerQueue
  | .tick d => some { s with now := s.now + d, ticks := s.ticks + d }
  | .setClock now => some { s with now := now }
  | .createTimer timer when interval repeats => some (s.createTimer timer when interval repeats)
  | .addTimerInLoop timer => s.addTimerInLoop timer
  | .returnTimer timer => (s.returnTimer timer).map (·.2)
  | .cancelInLoop timer sequence => s.cancelInLoop timer sequence
  | .handleRead => s.handleRead
  | .run => s.run
  | .reset => s.reset

/-- The runs of a new timer queue. -/
def system : System TimerQueue Event where
  init s := ∃ now, 0 < now ∧ s = { now := now }
  step s e s' := s.Enabled e ∧ s.exec e = some s'

/-- The clock is not set forward, only back. The timerfd counts on a clock of its own,
which nobody sets, and is armed for the time that is left until the expiration; when
the wall clock jumps ahead the timer is due at once, and the timerfd does not know. -/
def Steady (s : TimerQueue) : Event → Prop
  | .setClock now => now ≤ s.now
  | _ => True

/-! ## The sets and the heap -/

/-- **The two sets hold the same timers**, which are on the heap, each once; and
`out` are the other timers on the heap. `timers` is ordered by the expiration and
`activeTimers` by the address: `getExpired` searches the one and `cancelInLoop` the
other, and each erases from both. -/
structure Agree (s : TimerQueue) (out : Finset ℕ) : Prop where
  timers : ∀ w a, entry w a ∈ s.timers ↔
    ∃ t, s.heap a = some t ∧ t.expiration = w ∧ (a, t.sequence) ∈ s.activeTimers
  active : ∀ a q, (a, q) ∈ s.activeTimers → ∃ t, s.heap a = some t ∧ t.sequence = q
  out : ∀ a, a ∈ out ↔ ∃ t, s.heap a = some t ∧ (a, t.sequence) ∉ s.activeTimers
  sequence : ∀ a t, s.heap a = some t → t.sequence ≤ s.numCreated
  unique : ∀ a b t u, s.heap a = some t → s.heap b = some u → t.sequence = u.sequence → a = b
  address : ∀ a t, s.heap a = some t → a < uintptrMax

namespace Agree

variable {s : TimerQueue} {out : Finset ℕ}

theorem exists_of_out (h : Agree s out) {a : ℕ} (ha : a ∈ out) : ∃ t, s.heap a = some t :=
  let ⟨t, ht, _⟩ := (h.out a).mp ha
  ⟨t, ht⟩

/-- The entries of different timers have different addresses. -/
theorem eq_of_timer_eq (h : Agree s out) {e e' : TimerEntry} (he : e ∈ s.timers)
    (he' : e' ∈ s.timers) (heq : timer e = timer e') : e = e' := by
  obtain ⟨t, ht, hw, -⟩ := (h.timers (when e) (timer e)).mp he
  obtain ⟨t', ht', hw', -⟩ := (h.timers (when e') (timer e')).mp he'
  have : t = t' := Option.some.inj (by rw [← ht, ← ht', heq])
  have : when e = when e' := by rw [← hw, ← hw', this]
  rw [← entry_eta e, ← entry_eta e', this, heq]

/-- The entries in front of `sentry` are those that have expired. -/
theorem lt_sentry_iff (h : Agree s out) {e : TimerEntry} (he : e ∈ s.timers) (now : ℕ) :
    e < entry now uintptrMax ↔ when e ≤ now := by
  obtain ⟨t, ht, -⟩ := (h.timers (when e) (timer e)).mp he
  have haddress := h.address _ t ht
  rw [← entry_eta e, entry, entry, Prod.Lex.toLex_lt_toLex]
  show when e < now ∨ when e = now ∧ timer e < uintptrMax ↔ when e ≤ now
  omega

theorem sameSize (h : Agree s out) : s.SameSize := by
  have htimers : (s.timers.image timer).card = s.timers.card :=
    Finset.card_image_of_injOn fun e he e' he' => h.eq_of_timer_eq he he'
  have hactive : (s.activeTimers.image Prod.fst).card = s.activeTimers.card := by
    refine Finset.card_image_of_injOn fun p hp p' hp' heq => Prod.ext heq ?_
    obtain ⟨t, ht, hseq⟩ := h.active p.1 p.2 hp
    obtain ⟨t', ht', hseq'⟩ := h.active p'.1 p'.2 hp'
    have : t = t' := Option.some.inj (by rw [← ht, ← ht', heq])
    rw [← hseq, ← hseq', this]
  have hsame : s.timers.image timer = s.activeTimers.image Prod.fst := by
    ext a
    simp only [Finset.mem_image]
    constructor
    · rintro ⟨e, he, rfl⟩
      obtain ⟨t, -, -, hin⟩ := (h.timers (when e) (timer e)).mp he
      exact ⟨_, hin, rfl⟩
    · rintro ⟨⟨b, q⟩, hin, rfl⟩
      obtain ⟨t, ht, rfl⟩ := h.active b q hin
      exact ⟨entry t.expiration b, (h.timers _ _).mpr ⟨t, ht, rfl, hin⟩, rfl⟩
  show s.timers.card = s.activeTimers.card
  rw [← htimers, ← hactive, hsame]

/-- Another timer, at a fresh address. -/
theorem create (h : Agree s out) {a w i : ℕ} {r : Bool} (ha : s.heap a = none)
    (hlt : a < uintptrMax) :
    Agree (s.createTimer a w i r) (Insert.insert a out) := by
  have hother : ∀ b t, s.heap b = some t → b ≠ a := by
    rintro b t hb rfl
    rw [ha] at hb
    cases hb
  have hheap : ∀ b t, (s.createTimer a w i r).heap b = some t ↔
      b = a ∧ t = ⟨w, i, r, s.numCreated + 1⟩ ∨ s.heap b = some t := by
    intro b t
    show Function.update s.heap a _ b = some t ↔ _
    by_cases hb : b = a
    · subst hb
      simp [ha, eq_comm]
    · simp [hb]
  have hnew : ∀ q, (a, q) ∉ s.activeTimers := fun q hq => by
    obtain ⟨t, ht, -⟩ := h.active a q hq
    rw [ha] at ht
    cases ht
  refine ⟨fun x b => ?_, fun b q hq => ?_, fun b => ?_, fun b t hb => ?_, fun b c t u hb hc => ?_,
    fun b t hb => ?_⟩
  · rw [show (s.createTimer a w i r).timers = s.timers from rfl, h.timers]
    constructor
    · rintro ⟨t, ht, hx, hactive⟩
      exact ⟨t, (hheap b t).mpr (.inr ht), hx, hactive⟩
    · rintro ⟨t, ht, hx, hactive⟩
      rcases (hheap b t).mp ht with ⟨rfl, -⟩ | ht
      · exact absurd hactive (hnew _)
      · exact ⟨t, ht, hx, hactive⟩
  · obtain ⟨t, ht, hseq⟩ := h.active b q hq
    exact ⟨t, (hheap b t).mpr (.inr ht), hseq⟩
  · rw [Finset.mem_insert, h.out]
    constructor
    · rintro (rfl | ⟨t, ht, hactive⟩)
      · exact ⟨_, (hheap b _).mpr (.inl ⟨rfl, rfl⟩), hnew _⟩
      · exact ⟨t, (hheap b t).mpr (.inr ht), hactive⟩
    · rintro ⟨t, ht, hactive⟩
      rcases (hheap b t).mp ht with ⟨rfl, -⟩ | ht
      · exact .inl rfl
      · exact .inr ⟨t, ht, hactive⟩
  · show t.sequence ≤ s.numCreated + 1
    rcases (hheap b t).mp hb with ⟨-, rfl⟩ | ht
    · exact le_refl _
    · exact (h.sequence b t ht).trans (Nat.le_succ _)
  · intro hseq
    rcases (hheap b t).mp hb with ⟨rfl, rfl⟩ | ht
    · rcases (hheap c u).mp hc with ⟨rfl, -⟩ | hu
      · rfl
      · have := h.sequence c u hu
        simp only at hseq
        omega
    · rcases (hheap c u).mp hc with ⟨rfl, rfl⟩ | hu
      · have := h.sequence b t ht
        simp only at hseq
        omega
      · exact h.unique b c t u ht hu hseq
  · rcases (hheap b t).mp hb with ⟨rfl, -⟩ | ht
    · exact hlt
    · exact h.address b t ht

/-- A timer that is in neither set is put into both. -/
theorem insert (h : Agree s out) {a : ℕ} {t : Timer} (ha : a ∈ out) (ht : s.heap a = some t) :
    Agree { s with
      timers := Insert.insert (entry t.expiration a) s.timers
      activeTimers := Insert.insert (a, t.sequence) s.activeTimers } (out.erase a) := by
  refine ⟨fun w b => ?_, fun b q hq => ?_, fun b => ?_, h.sequence, h.unique, h.address⟩
  · rw [Finset.mem_insert, entry_inj, h.timers]
    constructor
    · rintro (⟨rfl, rfl⟩ | ⟨u, hu, hw, hactive⟩)
      · exact ⟨t, ht, rfl, Finset.mem_insert_self _ _⟩
      · exact ⟨u, hu, hw, Finset.mem_insert_of_mem hactive⟩
    · rintro ⟨u, hu, hw, hactive⟩
      by_cases hb : b = a
      · subst hb
        cases ht.symm.trans hu
        exact .inl ⟨hw.symm, rfl⟩
      · exact .inr ⟨u, hu, hw, (Finset.mem_insert.mp hactive).resolve_left fun he =>
          hb (congrArg Prod.fst he)⟩
  · rcases Finset.mem_insert.mp hq with he | hq
    · cases he
      exact ⟨t, ht, rfl⟩
    · exact h.active b q hq
  · rw [Finset.mem_erase, h.out]
    constructor
    · rintro ⟨hb, u, hu, hactive⟩
      refine ⟨u, hu, fun hin => ?_⟩
      rcases Finset.mem_insert.mp hin with he | hin
      · exact hb (congrArg Prod.fst he)
      · exact hactive hin
    · rintro ⟨u, hu, hactive⟩
      refine ⟨?_, u, hu, fun hin => hactive (Finset.mem_insert_of_mem hin)⟩
      rintro rfl
      cases ht.symm.trans hu
      exact hactive (Finset.mem_insert_self _ _)

/-- A timer that is in neither set is deleted. -/
theorem delete (h : Agree s out) {a : ℕ} (ha : a ∈ out) :
    Agree { s with heap := Function.update s.heap a none } (out.erase a) := by
  obtain ⟨t, ht, hnot⟩ := (h.out a).mp ha
  have hheap : ∀ b u, Function.update s.heap a none b = some u ↔ b ≠ a ∧ s.heap b = some u :=
    fun _ _ => update_none_eq_some
  have hactive : ∀ b q, (b, q) ∈ s.activeTimers → b ≠ a := by
    rintro b q hq rfl
    obtain ⟨u, hu, rfl⟩ := h.active b q hq
    cases ht.symm.trans hu
    exact hnot hq
  refine ⟨fun w b => ?_, fun b q hq => ?_, fun b => ?_, fun b u hb => ?_,
    fun b c u v hb hc => ?_, fun b u hb => h.address b u ((hheap b u).mp hb).2⟩
  · rw [h.timers]
    constructor
    · rintro ⟨u, hu, hw, hin⟩
      exact ⟨u, (hheap b u).mpr ⟨hactive b _ hin, hu⟩, hw, hin⟩
    · rintro ⟨u, hu, hw, hin⟩
      exact ⟨u, ((hheap b u).mp hu).2, hw, hin⟩
  · obtain ⟨u, hu, hseq⟩ := h.active b q hq
    exact ⟨u, (hheap b u).mpr ⟨hactive b q hq, hu⟩, hseq⟩
  · rw [Finset.mem_erase, h.out]
    constructor
    · rintro ⟨hb, u, hu, hin⟩
      exact ⟨u, (hheap b u).mpr ⟨hb, hu⟩, hin⟩
    · rintro ⟨u, hu, hin⟩
      exact ⟨((hheap b u).mp hu).1, u, ((hheap b u).mp hu).2, hin⟩
  · exact h.sequence b u ((hheap b u).mp hb).2
  · exact h.unique b c u v ((hheap b u).mp hb).2 ((hheap c v).mp hc).2

/-- The expiration of a timer that is in neither set is changed. -/
theorem restart (h : Agree s out) {a x : ℕ} {t : Timer} (ha : a ∈ out) (ht : s.heap a = some t) :
    Agree { s with heap := Function.update s.heap a (some { t with expiration := x }) } out := by
  have hnot : (a, t.sequence) ∉ s.activeTimers := by
    obtain ⟨u, hu, hnot⟩ := (h.out a).mp ha
    cases ht.symm.trans hu
    exact hnot
  have hheap : ∀ b u, Function.update s.heap a (some { t with expiration := x }) b = some u →
      ∃ v, s.heap b = some v ∧ v.sequence = u.sequence ∧ (b ≠ a → v = u) := by
    intro b u hb
    by_cases he : b = a
    · subst he
      rw [Function.update_self, Option.some.injEq] at hb
      exact ⟨t, ht, by rw [← hb], fun hne => absurd rfl hne⟩
    · rw [Function.update_of_ne he] at hb
      exact ⟨u, hb, rfl, fun _ => rfl⟩
  have hback : ∀ b v, s.heap b = some v →
      ∃ u, Function.update s.heap a (some { t with expiration := x }) b = some u ∧
        v.sequence = u.sequence ∧ (b ≠ a → v = u) := by
    intro b v hb
    by_cases he : b = a
    · subst he
      cases ht.symm.trans hb
      exact ⟨_, Function.update_self .., rfl, fun hne => absurd rfl hne⟩
    · exact ⟨v, by rw [Function.update_of_ne he, hb], rfl, fun _ => rfl⟩
  have hne : ∀ b q, (b, q) ∈ s.activeTimers → b ≠ a := by
    rintro b q hq rfl
    obtain ⟨u, hu, rfl⟩ := h.active b q hq
    cases ht.symm.trans hu
    exact hnot hq
  refine ⟨fun w b => ?_, fun b q hq => ?_, fun b => ?_, fun b u hb => ?_,
    fun b c u v hb hc hseq => ?_, fun b u hb => ?_⟩
  · rw [h.timers]
    constructor
    · rintro ⟨v, hv, hw, hin⟩
      obtain ⟨u, hu, hseq, hsame⟩ := hback b v hv
      have := hsame (hne b _ hin)
      subst this
      exact ⟨v, hu, hw, hin⟩
    · rintro ⟨u, hu, hw, hin⟩
      obtain ⟨v, hv, hseq, hsame⟩ := hheap b u hu
      have := hsame (hne b _ hin)
      subst this
      exact ⟨v, hv, hw, hin⟩
  · obtain ⟨v, hv, hseq⟩ := h.active b q hq
    obtain ⟨u, hu, hsame, -⟩ := hback b v hv
    exact ⟨u, hu, hsame ▸ hseq⟩
  · rw [h.out]
    constructor
    · rintro ⟨v, hv, hin⟩
      obtain ⟨u, hu, hseq, -⟩ := hback b v hv
      exact ⟨u, hu, hseq ▸ hin⟩
    · rintro ⟨u, hu, hin⟩
      obtain ⟨v, hv, hseq, -⟩ := hheap b u hu
      exact ⟨v, hv, hseq ▸ hin⟩
  · obtain ⟨v, hv, hseq, -⟩ := hheap b u hb
    exact hseq ▸ h.sequence b v hv
  · obtain ⟨u', hu', hseqb, -⟩ := hheap b u hb
    obtain ⟨v', hv', hseqc, -⟩ := hheap c v hc
    exact h.unique b c u' v' hu' hv' (hseqb.trans (hseq.trans hseqc.symm))
  · obtain ⟨v, hv, -⟩ := hheap b u hb
    exact h.address b v hv

/-- A timer is taken out of both sets. -/
theorem withdraw (h : Agree s out) {a : ℕ} {t : Timer} (ht : s.heap a = some t)
    (ha : (a, t.sequence) ∈ s.activeTimers) :
    Agree { s with
      timers := s.timers.erase (entry t.expiration a)
      activeTimers := s.activeTimers.erase (a, t.sequence) } (Insert.insert a out) := by
  refine ⟨fun w b => ?_, fun b q hq => h.active b q (Finset.mem_of_mem_erase hq), fun b => ?_,
    h.sequence, h.unique, h.address⟩
  · rw [Finset.mem_erase, h.timers, Ne, entry_inj]
    constructor
    · rintro ⟨hne, u, hu, hw, hin⟩
      refine ⟨u, hu, hw, Finset.mem_erase.mpr ⟨fun he => hne ?_, hin⟩⟩
      obtain ⟨rfl, -⟩ := Prod.mk.inj he
      cases ht.symm.trans hu
      exact ⟨hw.symm, rfl⟩
    · rintro ⟨u, hu, hw, hin⟩
      obtain ⟨hne, hin⟩ := Finset.mem_erase.mp hin
      refine ⟨fun ⟨_, hb⟩ => hne ?_, u, hu, hw, hin⟩
      subst hb
      cases ht.symm.trans hu
      rfl
  · rw [Finset.mem_insert, h.out]
    constructor
    · rintro (rfl | ⟨u, hu, hin⟩)
      · exact ⟨t, ht, Finset.notMem_erase _ _⟩
      · exact ⟨u, hu, fun hin' => hin (Finset.mem_of_mem_erase hin')⟩
    · rintro ⟨u, hu, hin⟩
      by_cases hb : b = a
      · exact .inl hb
      · exact .inr ⟨u, hu, fun hin' => hin (Finset.mem_erase.mpr
          ⟨fun he => hb (congrArg Prod.fst he), hin'⟩)⟩

/-- A timer that is in both sets is deleted. -/
theorem cancel (h : Agree s out) {a : ℕ} {t : Timer} (ht : s.heap a = some t)
    (ha : (a, t.sequence) ∈ s.activeTimers) :
    Agree { s with
      timers := s.timers.erase (entry t.expiration a)
      heap := Function.update s.heap a none
      activeTimers := s.activeTimers.erase (a, t.sequence) } out := by
  have hnot : a ∉ out := fun hin => by
    obtain ⟨u, hu, hnot⟩ := (h.out a).mp hin
    cases ht.symm.trans hu
    exact hnot ha
  have hdelete := (h.withdraw ht ha).delete (Finset.mem_insert_self a out)
  rwa [Finset.erase_insert hnot] at hdelete

/-- The timers that have expired are taken out of both sets. -/
theorem getExpired (h : Agree s out) {now : ℕ} {active : Finset (ℕ × ℕ)}
    (hactive : ∀ a q, (a, q) ∈ active ↔ (a, q) ∈ s.activeTimers ∧
      ∀ t, s.heap a = some t → t.sequence = q → now < t.expiration) :
    Agree { s with timers := s.timers.filter (now < when ·), activeTimers := active }
      (out ∪ (s.timers.filter (when · ≤ now)).image timer) := by
  refine ⟨fun w b => ?_, fun b q hq => h.active b q ((hactive b q).mp hq).1, fun b => ?_,
    h.sequence, h.unique, h.address⟩
  · rw [Finset.mem_filter, h.timers]
    constructor
    · rintro ⟨⟨u, hu, hw, hin⟩, hlate⟩
      refine ⟨u, hu, hw, (hactive b _).mpr ⟨hin, fun v hv _ => ?_⟩⟩
      cases hu.symm.trans hv
      exact hw ▸ hlate
    · rintro ⟨u, hu, hw, hin⟩
      obtain ⟨hin, hlate⟩ := (hactive b _).mp hin
      exact ⟨⟨u, hu, hw, hin⟩, hw ▸ hlate u hu rfl⟩
  · rw [Finset.mem_union, h.out, Finset.mem_image]
    constructor
    · rintro (⟨u, hu, hin⟩ | ⟨e, he, rfl⟩)
      · exact ⟨u, hu, fun hin' => hin ((hactive b _).mp hin').1⟩
      · obtain ⟨he, hdue⟩ := Finset.mem_filter.mp he
        obtain ⟨u, hu, hw, hin⟩ := (h.timers (when e) (timer e)).mp he
        refine ⟨u, hu, fun hin' => ?_⟩
        have hlate := ((hactive _ _).mp hin').2 u hu rfl
        omega
    · rintro ⟨u, hu, hin⟩
      by_cases hin' : (b, u.sequence) ∈ s.activeTimers
      · refine .inr ⟨entry u.expiration b, ?_, rfl⟩
        refine Finset.mem_filter.mpr ⟨(h.timers _ b).mpr ⟨u, hu, rfl, hin'⟩, ?_⟩
        rw [when_entry]
        by_contra hlate
        refine hin ((hactive b _).mpr ⟨hin', fun v hv _ => ?_⟩)
        cases hu.symm.trans hv
        omega
      · exact .inl ⟨u, hu, hin'⟩

end Agree

/-- The loop of `getExpired` takes the timers of its list out of `activeTimers_`. -/
theorem foldlM_eraseExpired : ∀ {l : List TimerEntry} {s : TimerQueue}, (l.map timer).Nodup →
    (∀ a q, (a, q) ∈ s.activeTimers → ∃ t, s.heap a = some t ∧ t.sequence = q) →
    (∀ e ∈ l, ∃ t, s.heap (timer e) = some t ∧ (timer e, t.sequence) ∈ s.activeTimers) →
    ∃ active, (∀ a q, (a, q) ∈ active ↔ (a, q) ∈ s.activeTimers ∧ a ∉ l.map timer) ∧
      l.foldlM eraseExpired s = some { s with activeTimers := active } := by
  intro l
  induction l with
  | nil => exact fun _ _ _ => ⟨_, by simp, rfl⟩
  | cons e l ih =>
    intro s hnodup hactive hlive
    obtain ⟨t, ht, hin⟩ := hlive e List.mem_cons_self
    obtain ⟨hfirst, hnodup⟩ := List.nodup_cons.mp hnodup
    have herase : s.eraseExpired e =
        some { s with activeTimers := s.activeTimers.erase (timer e, t.sequence) } := by
      simp [eraseExpired, ht, assert_of hin]
    obtain ⟨active, hiff, hfold⟩ := ih
      (s := { s with activeTimers := s.activeTimers.erase (timer e, t.sequence) }) hnodup
      (fun a q hq => hactive a q (Finset.mem_of_mem_erase hq)) fun e' he' => by
        obtain ⟨t', ht', hin'⟩ := hlive e' (List.mem_cons_of_mem _ he')
        refine ⟨t', ht', Finset.mem_erase.mpr ⟨fun heq => hfirst ?_, hin'⟩⟩
        rw [← (Prod.mk.inj heq).1]
        exact List.mem_map_of_mem he'
    refine ⟨active, fun a q => ?_, by rw [List.foldlM_cons, herase]; exact hfold⟩
    rw [hiff, Finset.mem_erase, List.map_cons, List.mem_cons, not_or]
    constructor
    · rintro ⟨⟨hne, hq⟩, hrest⟩
      refine ⟨hq, fun ha => hne ?_, hrest⟩
      obtain ⟨u, hu, hseq⟩ := hactive a q hq
      subst ha
      cases ht.symm.trans hu
      rw [hseq]
    · rintro ⟨hq, ha, hrest⟩
      exact ⟨⟨fun heq => ha (congrArg Prod.fst heq), hq⟩, hrest⟩

/-- What `getExpired` does: the timers that have expired leave both sets, and are
returned earliest first. -/
theorem getExpired_spec {s : TimerQueue} {out : Finset ℕ} (h : Agree s out) (now : ℕ) :
    ∃ active, (∀ a q, (a, q) ∈ active ↔ (a, q) ∈ s.activeTimers ∧
        ∀ t, s.heap a = some t → t.sequence = q → now < t.expiration) ∧
      s.getExpired now = some { s with
        expired := (s.timers.filter (when · ≤ now)).sort
        timers := s.timers.filter (now < when ·)
        activeTimers := active } := by
  have hmem : ∀ e, e ∈ (s.timers.filter (when · ≤ now)).sort ↔ e ∈ s.timers ∧ when e ≤ now :=
    fun e => (Finset.mem_sort _).trans Finset.mem_filter
  obtain ⟨active, hiff, hfold⟩ := foldlM_eraseExpired
    (l := (s.timers.filter (when · ≤ now)).sort) (s := { s with
      expired := (s.timers.filter (when · ≤ now)).sort
      timers := s.timers.filter (now < when ·) })
    (List.Nodup.map_on (fun e he e' he' => h.eq_of_timer_eq ((hmem e).mp he).1 ((hmem e').mp he').1)
      (Finset.sort_nodup _ _)) h.active fun e he => by
    obtain ⟨t, ht, -, hin⟩ := (h.timers (when e) (timer e)).mp ((hmem e).mp he).1
    exact ⟨t, ht, hin⟩
  have hactive : ∀ a q, (a, q) ∈ active ↔ (a, q) ∈ s.activeTimers ∧
      ∀ t, s.heap a = some t → t.sequence = q → now < t.expiration := by
    intro a q
    rw [hiff]
    refine and_congr_right fun hin => ⟨fun hnone t ht hq => ?_, fun hlate ha => ?_⟩
    · by_contra hdue
      have hentry : entry t.expiration a ∈ s.timers :=
        (h.timers _ _).mpr ⟨t, ht, rfl, hq.symm ▸ hin⟩
      exact hnone (List.mem_map.mpr ⟨_, (hmem _).mpr ⟨hentry, Nat.not_lt.mp hdue⟩, rfl⟩)
    · obtain ⟨e, he, rfl⟩ := List.mem_map.mp ha
      obtain ⟨he, hdue⟩ := (hmem e).mp he
      obtain ⟨t, ht, hseq⟩ := h.active _ _ hin
      obtain ⟨v, hv, hw, -⟩ := (h.timers (when e) (timer e)).mp he
      cases ht.symm.trans hv
      have := hlate t ht hseq
      omega
  refine ⟨active, hactive, ?_⟩
  have hfront : s.timers.filter (· < entry now uintptrMax) = s.timers.filter (when · ≤ now) :=
    Finset.filter_congr fun e he => h.lt_sentry_iff he now
  have hrest : s.timers.filter (entry now uintptrMax ≤ ·) = s.timers.filter (now < when ·) :=
    Finset.filter_congr fun e he => by rw [← not_lt, h.lt_sentry_iff he now, not_le]
  have hfirst : ∀ e ∈ ((s.timers.filter (now < when ·)).sort (· ≤ ·)).head?, now < when e :=
    fun e he => (Finset.mem_filter.mp ((Finset.mem_sort _).mp (List.mem_of_head? he))).2
  have hsize := (h.getExpired hactive).sameSize
  simp only [TimerQueue.getExpired, hfront, hrest]
  refine assert_bind_eq_some.mpr ⟨h.sameSize, assert_bind_eq_some.mpr ⟨hfirst, ?_⟩⟩
  exact Option.bind_eq_some_iff.mpr ⟨_, hfold, assert_bind_eq_some.mpr ⟨hsize, rfl⟩⟩

/-! ## What the operations do -/

theorem insert_eq {s s' : TimerQueue} {a : ℕ} {b : Bool} (h : s.insert a = some (b, s')) :
    ∃ t, s.heap a = some t ∧ b = decide (∀ e ∈ s.timers, t.expiration < when e) ∧ s' = { s with
      timers := Insert.insert (entry t.expiration a) s.timers
      activeTimers := Insert.insert (a, t.sequence) s.activeTimers } := by
  simp only [insert, Option.bind_eq_bind, assert_bind_eq_some] at h
  obtain ⟨-, h⟩ := h
  obtain ⟨t, ht, h⟩ := Option.bind_eq_some_iff.mp h
  simp only [assert_bind_eq_some] at h
  obtain ⟨-, -, -, h⟩ := h
  obtain ⟨hb, hs⟩ := Prod.mk.inj (Option.some.inj h)
  exact ⟨t, ht, hb.symm, hs.symm⟩

theorem insert_spec {s : TimerQueue} {out : Finset ℕ} (h : Agree s out) {a : ℕ} (ha : a ∈ out) :
    ∃ t, s.heap a = some t ∧ s.insert a = some (decide (∀ e ∈ s.timers, t.expiration < when e),
      { s with
        timers := Insert.insert (entry t.expiration a) s.timers
        activeTimers := Insert.insert (a, t.sequence) s.activeTimers }) := by
  obtain ⟨t, ht, hnot⟩ := (h.out a).mp ha
  have hentry : entry t.expiration a ∉ s.timers := fun hin => by
    obtain ⟨u, hu, -, hin⟩ := (h.timers _ _).mp hin
    cases ht.symm.trans hu
    exact hnot hin
  refine ⟨t, ht, assert_bind_eq_some.mpr ⟨h.sameSize, ?_⟩⟩
  refine Option.bind_eq_some_iff.mpr ⟨t, ht, ?_⟩
  refine assert_bind_eq_some.mpr ⟨hentry, assert_bind_eq_some.mpr ⟨hnot, ?_⟩⟩
  exact assert_bind_eq_some.mpr ⟨(h.insert ha ht).sameSize, rfl⟩

theorem addTimerInLoop_eq {s s' : TimerQueue} {a : ℕ} (h : s.addTimerInLoop a = some s') :
    ∃ t, s.heap a = some t ∧ s' = { s with
      added := s.added.erase a
      timers := Insert.insert (entry t.expiration a) s.timers
      activeTimers := Insert.insert (a, t.sequence) s.activeTimers
      alarm := if ∀ e ∈ s.timers, t.expiration < when e then
        some (s.ticks + s.howMuchTimeFromNow t.expiration) else s.alarm } := by
  obtain ⟨⟨b, s₁⟩, hinsert, h⟩ := Option.bind_eq_some_iff.mp h
  obtain ⟨t, ht, rfl, rfl⟩ := insert_eq hinsert
  obtain ⟨u, hu, h⟩ := Option.bind_eq_some_iff.mp h
  have ht : s.heap a = some t := ht
  have hu : s.heap a = some u := hu
  have htu : t = u := Option.some.inj (ht.symm.trans hu)
  subst htu
  refine ⟨t, ht, (Option.some.inj h).symm.trans ?_⟩
  simp only [decide_eq_true_eq]
  split
  · rfl
  · rfl

theorem returnTimer_eq {s s' : TimerQueue} {a : ℕ} (h : s.exec (.returnTimer a) = some s') :
    ∃ l, s' = { s with returning := l } := by
  obtain ⟨⟨q, s₁⟩, hreturn, rfl⟩ := Option.map_eq_some_iff.mp h
  obtain ⟨t, -, heq⟩ := Option.map_eq_some_iff.mp hreturn
  exact ⟨_, (congrArg Prod.snd heq).symm⟩

theorem cancelInLoop_cases {s s' : TimerQueue} {a q : ℕ} (h : s.cancelInLoop a q = some s') :
    (∃ t, s.heap a = some t ∧ (a, q) ∈ s.activeTimers ∧ s' = { s with
      timers := s.timers.erase (entry t.expiration a)
      heap := Function.update s.heap a none
      activeTimers := s.activeTimers.erase (a, q)
      notes := s.notes ++ [.cancelled q] }) ∨
    (a, q) ∉ s.activeTimers ∧ ∃ c, s' = { s with cancelingTimers := c } ∧
      s.cancelingTimers ⊆ c ∧ (s.callingExpiredTimers = true → (a, q) ∈ c) := by
  simp only [cancelInLoop, Option.bind_eq_bind, assert_bind_eq_some] at h
  obtain ⟨-, h⟩ := h
  split at h
  · rename_i hin
    obtain ⟨t, ht, h⟩ := Option.bind_eq_some_iff.mp h
    simp only [assert_bind_eq_some] at h
    obtain ⟨-, -, h⟩ := h
    exact .inl ⟨t, ht, hin, (Option.some.inj h).symm⟩
  · rename_i hin
    split at h
    · exact .inr ⟨hin, _, (Option.some.inj h).symm, Finset.subset_insert _ _,
        fun _ => Finset.mem_insert_self _ _⟩
    · rename_i hcalling
      exact .inr ⟨hin, s.cancelingTimers, (Option.some.inj h).symm, subset_rfl,
        fun h => absurd h hcalling⟩

theorem isSome_cancelInLoop {s : TimerQueue} {out : Finset ℕ} (h : Agree s out) (a q : ℕ) :
    ∃ s', s.cancelInLoop a q = some s' := by
  by_cases hin : (a, q) ∈ s.activeTimers
  · obtain ⟨t, ht, rfl⟩ := h.active a q hin
    have hentry : entry t.expiration a ∈ s.timers := (h.timers _ _).mpr ⟨t, ht, rfl, hin⟩
    have hsize := (h.cancel ht hin).sameSize
    simp only [cancelInLoop, assert_of h.sameSize, Option.bind_eq_bind, Option.bind_some,
      if_pos hin, ht, assert_of hentry]
    exact ⟨_, assert_bind_eq_some.mpr ⟨hsize, rfl⟩⟩
  · simp only [cancelInLoop, assert_of h.sameSize, Option.bind_eq_bind, Option.bind_some,
      if_neg hin]
    by_cases hcalling : s.callingExpiredTimers
    · exact ⟨_, if_pos hcalling⟩
    · exact ⟨_, if_neg hcalling⟩

theorem handleRead_eq {s : TimerQueue} {out : Finset ℕ} (h : Agree s out) :
    ∃ active, (∀ a q, (a, q) ∈ active ↔ (a, q) ∈ s.activeTimers ∧
        ∀ t, s.heap a = some t → t.sequence = q → s.now < t.expiration) ∧
      s.handleRead = some { s with
        expired := (s.timers.filter (when · ≤ s.now)).sort
        todo := (s.timers.filter (when · ≤ s.now)).sort
        timers := s.timers.filter (s.now < when ·)
        activeTimers := active
        readAt := s.now
        callingExpiredTimers := true
        cancelingTimers := ∅
        alarm := s.alarm.filter (s.ticks < ·) } := by
  obtain ⟨active, hactive, hget⟩ := getExpired_spec (s := s.readTimerfd)
    ⟨h.timers, h.active, h.out, h.sequence, h.unique, h.address⟩ s.now
  exact ⟨active, hactive, by rw [handleRead, hget]; rfl⟩

theorem run_eq {s s' : TimerQueue} (h : s.run = some s') :
    ∃ e todo t, s.todo = e :: todo ∧ s.heap (timer e) = some t ∧ s' = { s with
      todo := todo
      notes := s.notes ++ [.ran t.sequence (when e) s.readAt t.repeats] } := by
  unfold run at h
  split at h
  · cases h
  · rename_i e todo htodo
    obtain ⟨t, ht, rfl⟩ := Option.map_eq_some_iff.mp h
    exact ⟨e, todo, t, htodo, ht, rfl⟩

theorem resetTimer_cases {s s' : TimerQueue} {e : TimerEntry} (h : s.resetTimer e = some s') :
    ∃ t, s.heap (timer e) = some t ∧
      ((t.repeats = true ∧ (timer e, t.sequence) ∉ s.cancelingTimers ∧
        ∃ t', t' = { t with expiration := s.readAt + t.interval } ∧ s' = { s with
        heap := Function.update s.heap (timer e) (some t')
        timers := Insert.insert (entry t'.expiration (timer e)) s.timers
        activeTimers := Insert.insert (timer e, t'.sequence) s.activeTimers }) ∨
      (∃ notes, (t.repeats = false ∧ notes = [] ∨ notes = [.cancelled t.sequence]) ∧ s' = { s with
        heap := Function.update s.heap (timer e) none
        notes := s.notes ++ notes })) := by
  obtain ⟨t, ht, h⟩ := Option.bind_eq_some_iff.mp h
  refine ⟨t, ht, ?_⟩
  split at h
  · rename_i hrepeat
    obtain ⟨⟨b, s₁⟩, hinsert, rfl⟩ := Option.map_eq_some_iff.mp h
    obtain ⟨u, hu, -, rfl⟩ := insert_eq hinsert
    have hu : u = { t with expiration := s.readAt + t.interval } :=
      Option.some.inj (hu.symm.trans (Function.update_self ..))
    subst hu
    exact .inl ⟨hrepeat.1, hrepeat.2, _, rfl, rfl⟩
  · rename_i hnot
    by_cases hcancel : (timer e, t.sequence) ∈ s.cancelingTimers
    · rw [if_pos hcancel] at h
      exact .inr ⟨_, .inr rfl, (Option.some.inj h).symm⟩
    · rw [if_neg hcancel] at h
      refine .inr ⟨[], .inl ⟨?_, rfl⟩, (Option.some.inj h).symm.trans (by simp)⟩
      by_contra hrepeat
      exact hnot ⟨by simpa using hrepeat, hcancel⟩

/-! ## No timer is used after it was deleted, and none leaks -/

/-- **Every timer on the heap is in both sets, still to be added, or in `batch`,**
and in one of these only. The batch is that of the round under way, or what is left
of it while `reset` puts the timers back one by one. -/
structure Sets (s : TimerQueue) (batch : List TimerEntry) : Prop where
  agree : Agree s (s.added ∪ (batch.map timer).toFinset)
  nodup : (batch.map timer).Nodup
  disjoint : ∀ e ∈ batch, timer e ∉ s.added

/-- `Agree` and `Sets` are about the heap, the two sets and `added` only. -/
theorem Sets.frame {s : TimerQueue} {batch : List TimerEntry} (h : Sets s batch)
    {canceling : Finset (ℕ × ℕ)} {calling : Bool} {expired todo : List TimerEntry}
    {returning : List ℕ} {readAt now ticks : ℕ} {alarm : Option ℕ} {notes : List TimerNote} :
    Sets { s with
      cancelingTimers := canceling
      callingExpiredTimers := calling
      expired := expired
      todo := todo
      returning := returning
      readAt := readAt
      now := now
      ticks := ticks
      alarm := alarm
      notes := notes } batch :=
  ⟨⟨h.agree.timers, h.agree.active, h.agree.out, h.agree.sequence, h.agree.unique, h.agree.address⟩,
    h.nodup, h.disjoint⟩

namespace Sets

variable {s s' : TimerQueue} {batch : List TimerEntry} {e : TimerEntry}

theorem mem_out (he : e ∈ batch) : timer e ∈ s.added ∪ (batch.map timer).toFinset :=
  Finset.mem_union_right _ (List.mem_toFinset.mpr (List.mem_map_of_mem he))

/-- A timer that is in the sets is not in the batch. -/
theorem timer_ne_of_active (h : Sets s batch) (he : e ∈ batch) {a q : ℕ}
    (hin : (a, q) ∈ s.activeTimers) : timer e ≠ a := by
  rintro rfl
  obtain ⟨t, ht, rfl⟩ := h.agree.active _ q hin
  obtain ⟨u, hu, hnot⟩ := (h.agree.out _).mp (mem_out he)
  cases hu.symm.trans ht
  exact hnot hin

theorem erase_out (h : Sets s (e :: batch)) :
    (s.added ∪ ((e :: batch).map timer).toFinset).erase (timer e) =
      s.added ∪ (batch.map timer).toFinset := by
  obtain ⟨hfirst, -⟩ := List.nodup_cons.mp h.nodup
  have hadded := h.disjoint e List.mem_cons_self
  rw [List.map_cons, List.toFinset_cons, Finset.union_insert, Finset.erase_insert]
  simp only [Finset.mem_union, List.mem_toFinset, not_or]
  exact ⟨hadded, hfirst⟩

theorem createTimer (h : Sets s batch) {a w i : ℕ} {r : Bool} (ha : s.heap a = none)
    (hlt : a < uintptrMax) : Sets (s.createTimer a w i r) batch := by
  refine ⟨?_, h.nodup, fun e he hin => ?_⟩
  · have := h.agree.create (w := w) (i := i) (r := r) ha hlt
    rwa [← Finset.insert_union] at this
  · rcases Finset.mem_insert.mp hin with hin | hin
    · obtain ⟨t, ht⟩ := h.agree.exists_of_out (mem_out he)
      rw [hin, ha] at ht
      cases ht
    · exact h.disjoint e he hin

theorem addTimerInLoop (h : Sets s batch) {a : ℕ} (ha : a ∈ s.added) :
    ∃ s', s.addTimerInLoop a = some s' ∧ Sets s' batch := by
  have hbatch : a ∉ (batch.map timer).toFinset := fun hin => by
    obtain ⟨e, he, rfl⟩ := List.mem_map.mp (List.mem_toFinset.mp hin)
    exact h.disjoint e he ha
  have hout : a ∈ s.added ∪ (batch.map timer).toFinset := Finset.mem_union_left _ ha
  have herase : (s.added ∪ (batch.map timer).toFinset).erase a =
      s.added.erase a ∪ (batch.map timer).toFinset := by
    rw [Finset.erase_union_distrib, Finset.erase_eq_of_notMem hbatch]
  have hagree : Agree { s with added := s.added.erase a } (s.added ∪ (batch.map timer).toFinset) :=
    ⟨h.agree.timers, h.agree.active, h.agree.out, h.agree.sequence, h.agree.unique, h.agree.address⟩
  obtain ⟨t, ht, hinsert⟩ := insert_spec hagree hout
  obtain ⟨s', hs'⟩ : ∃ s', s.addTimerInLoop a = some s' :=
    ⟨_, Option.bind_eq_some_iff.mpr ⟨_, hinsert, Option.bind_eq_some_iff.mpr ⟨t, ht, rfl⟩⟩⟩
  obtain ⟨u, hu, rfl⟩ := addTimerInLoop_eq hs'
  refine ⟨_, hs', ?_, h.nodup, fun e he hin => h.disjoint e he (Finset.mem_of_mem_erase hin)⟩
  have := h.agree.insert hout hu
  rw [herase] at this
  exact ⟨this.timers, this.active, this.out, this.sequence, this.unique, this.address⟩

theorem cancelInLoop (h : Sets s batch) (a q : ℕ) :
    ∃ s', s.cancelInLoop a q = some s' ∧ Sets s' batch := by
  obtain ⟨s', hs'⟩ := isSome_cancelInLoop h.agree a q
  refine ⟨s', hs', ?_⟩
  rcases cancelInLoop_cases hs' with ⟨t, ht, hin, rfl⟩ | ⟨-, c, rfl, -⟩
  · obtain ⟨u, hu, rfl⟩ := h.agree.active a q hin
    cases ht.symm.trans hu
    have := h.agree.cancel ht hin
    exact ⟨⟨this.timers, this.active, this.out, this.sequence, this.unique, this.address⟩,
      h.nodup, h.disjoint⟩
  · exact h.frame

theorem handleRead (h : Sets s []) : ∃ s', s.handleRead = some s' ∧ Sets s' s'.expired := by
  obtain ⟨active, hactive, hs'⟩ := handleRead_eq h.agree
  refine ⟨_, hs', ?_, ?_, fun e he hin => ?_⟩
  · have := h.agree.getExpired hactive
    refine ⟨this.timers, this.active, fun a => ?_, this.sequence, this.unique, this.address⟩
    rw [← this.out]
    simp [List.mem_toFinset, Finset.mem_sort]
  · refine List.Nodup.map_on (fun e he e' he' => ?_) (Finset.sort_nodup _ _)
    exact h.agree.eq_of_timer_eq (Finset.mem_filter.mp ((Finset.mem_sort _).mp he)).1
      (Finset.mem_filter.mp ((Finset.mem_sort _).mp he')).1
  · have he := (Finset.mem_filter.mp ((Finset.mem_sort _).mp he)).1
    obtain ⟨t, ht, -, hin'⟩ := (h.agree.timers (when e) (timer e)).mp he
    obtain ⟨u, hu, hnot⟩ := (h.agree.out (timer e)).mp (Finset.mem_union_left _ hin)
    cases ht.symm.trans hu
    exact hnot hin'

theorem resetTimer (h : Sets s (e :: batch)) :
    ∃ s', s.resetTimer e = some s' ∧ Sets s' batch := by
  have hout : timer e ∈ s.added ∪ ((e :: batch).map timer).toFinset := mem_out List.mem_cons_self
  obtain ⟨t, ht⟩ := h.agree.exists_of_out hout
  obtain ⟨s', hs'⟩ : ∃ s', s.resetTimer e = some s' := by
    by_cases hrepeat : t.repeats ∧ (timer e, t.sequence) ∉ s.cancelingTimers
    · obtain ⟨u, -, hinsert⟩ := insert_spec
        (h.agree.restart (x := s.readAt + t.interval) hout ht) hout
      exact ⟨_, Option.bind_eq_some_iff.mpr ⟨t, ht, (if_pos hrepeat).trans
        (Option.map_eq_some_iff.mpr ⟨_, hinsert, rfl⟩)⟩⟩
    · exact ⟨_, Option.bind_eq_some_iff.mpr ⟨t, ht, if_neg hrepeat⟩⟩
  refine ⟨s', hs', ?_⟩
  have hnodup := (List.nodup_cons.mp h.nodup).2
  obtain ⟨u, hu, ⟨-, -, t', rfl, rfl⟩ | ⟨notes, -, rfl⟩⟩ := resetTimer_cases hs'
  · have := (h.agree.restart (x := s.readAt + u.interval) hout hu).insert hout
      (Function.update_self ..)
    rw [h.erase_out] at this
    exact ⟨this, hnodup, fun e' he' => h.disjoint e' (List.mem_cons_of_mem _ he')⟩
  · have := h.agree.delete hout
    rw [h.erase_out] at this
    exact ⟨⟨this.timers, this.active, this.out, this.sequence, this.unique, this.address⟩, hnodup,
      fun e' he' => h.disjoint e' (List.mem_cons_of_mem _ he')⟩

end Sets

/-- What `resetTimer` leaves alone. -/
theorem resetTimer_frame {s s' : TimerQueue} {e : TimerEntry} (h : s.resetTimer e = some s') :
    ∃ heap timers activeTimers notes, s' = { s with
      heap := heap, timers := timers, activeTimers := activeTimers, notes := notes } := by
  obtain ⟨t, -, ⟨-, -, t', -, rfl⟩ | ⟨notes, -, rfl⟩⟩ := resetTimer_cases h
  · exact ⟨_, _, _, _, rfl⟩
  · exact ⟨_, s.timers, s.activeTimers, _, rfl⟩

/-- What `reset` does at its end, `m` being the expiration of the earliest timer. -/
theorem resetAlarm_spec {s : TimerQueue} {out : Finset ℕ} (h : Agree s out) :
    ∃ alarm, s.resetAlarm = some { s with alarm := alarm } ∧
      (s.timers = ∅ ∧ alarm = s.alarm ∨ ∃ m, (∃ e ∈ s.timers, when e = m) ∧
        (∀ e ∈ s.timers, m ≤ when e) ∧
        alarm = if 0 < m then some (s.ticks + s.howMuchTimeFromNow m) else s.alarm) := by
  cases hsort : s.timers.sort with
  | nil =>
    refine ⟨s.alarm, by rw [resetAlarm, hsort], .inl ⟨?_, rfl⟩⟩
    rw [← Finset.sort_toFinset s.timers (· ≤ ·), hsort, List.toFinset_nil]
  | cons e l =>
    have hmem : ∀ e', e' ∈ s.timers ↔ e' ∈ e :: l := fun e' => by
      rw [← hsort, Finset.mem_sort]
    obtain ⟨t, ht, hw, -⟩ := (h.timers (when e) (timer e)).mp ((hmem e).mpr List.mem_cons_self)
    have hfirst : ∀ e' ∈ s.timers, t.expiration ≤ when e' := by
      intro e' he'
      rcases List.mem_cons.mp ((hmem e').mp he') with rfl | he'
      · exact hw.le
      · have hsorted := Finset.pairwise_sort s.timers (· ≤ ·)
        rw [hsort] at hsorted
        rw [hw]
        exact when_le_of_entry_le ((List.pairwise_cons.mp hsorted).1 e' he')
    refine ⟨_, ?_, .inr ⟨t.expiration, ⟨e, (hmem e).mpr List.mem_cons_self, hw.symm⟩, hfirst, rfl⟩⟩
    rw [resetAlarm, hsort]
    show (s.heap (timer e)).map _ = _
    rw [ht, Option.map_some]
    split
    · rfl
    · rfl

/-- **What holds between any two steps.** -/
structure Inv (s : TimerQueue) : Prop where
  sets : Sets s s.expired
  todo : s.todo <:+ s.expired
  idle : s.callingExpiredTimers = false → s.expired = []

/-- **Every step that can be taken has a result**, after which the invariant holds
again, or is the return of an `addTimer` whose timer was deleted. -/
theorem Inv.exec {s : TimerQueue} {e : Event} (h : Inv s) (he : s.Enabled e) :
    (∃ s', s.exec e = some s' ∧ Inv s') ∨ ∃ a, e = .returnTimer a ∧ s.heap a = none := by
  cases e with
  | tick d => exact .inl ⟨_, rfl, h.sets.frame, h.todo, h.idle⟩
  | setClock now => exact .inl ⟨_, rfl, h.sets.frame, h.todo, h.idle⟩
  | createTimer a w i r =>
    exact .inl ⟨_, rfl, h.sets.createTimer he.1 he.2, h.todo, h.idle⟩
  | addTimerInLoop a =>
    obtain ⟨s', hs', hsets⟩ := h.sets.addTimerInLoop he
    obtain ⟨t, ht, rfl⟩ := addTimerInLoop_eq hs'
    exact .inl ⟨_, hs', hsets, h.todo, h.idle⟩
  | returnTimer a =>
    cases ha : s.heap a with
    | none => exact .inr ⟨a, rfl, ha⟩
    | some t =>
      have hs' : s.exec (.returnTimer a) = some { s with returning := s.returning.erase a } := by
        simp [TimerQueue.exec, returnTimer, ha]
      exact .inl ⟨_, hs', h.sets.frame, h.todo, h.idle⟩
  | cancelInLoop a q =>
    obtain ⟨s', hs', hsets⟩ := h.sets.cancelInLoop a q
    rcases cancelInLoop_cases hs' with ⟨t, -, -, rfl⟩ | ⟨-, c, rfl, -⟩
    · exact .inl ⟨_, hs', hsets, h.todo, h.idle⟩
    · exact .inl ⟨_, hs', hsets, h.todo, h.idle⟩
  | handleRead =>
    have hsets : Sets s [] := h.idle he ▸ h.sets
    obtain ⟨s', hs', hsets'⟩ := hsets.handleRead
    obtain ⟨active, -, heq⟩ := handleRead_eq hsets.agree
    have hs'' : s.handleRead = some s' := hs'
    rw [heq] at hs''
    cases hs''
    refine .inl ⟨_, hs', hsets', List.suffix_refl _, fun hidle => ?_⟩
    simp at hidle
  | run =>
    obtain ⟨e, todo, htodo⟩ := List.exists_cons_of_ne_nil he.2
    have hin : e ∈ s.expired := h.todo.subset (htodo ▸ List.mem_cons_self)
    obtain ⟨t, ht⟩ := h.sets.agree.exists_of_out (Sets.mem_out hin)
    obtain ⟨s', hs'⟩ : ∃ s', s.run = some s' := by
      simp [TimerQueue.run, htodo, ht]
    obtain ⟨e', todo', t', htodo', -, rfl⟩ := run_eq hs'
    refine .inl ⟨_, hs', h.sets.frame, ?_, h.idle⟩
    exact (htodo' ▸ List.suffix_cons e' todo').trans h.todo
  | reset =>
    have hstart : Sets { s with callingExpiredTimers := false } s.expired := h.sets.frame
    obtain ⟨s₁, hs₁, hsets, htodo⟩ := exists_foldlM
      (P := fun s l => Sets s l ∧ s.todo = []) (f := resetTimer)
      (fun s e l hP => by
        obtain ⟨s', hs', hsets⟩ := hP.1.resetTimer
        obtain ⟨_, _, _, _, rfl⟩ := resetTimer_frame hs'
        exact ⟨_, hs', hsets, hP.2⟩) ⟨hstart, he.2⟩
    have hend : Sets { s₁ with expired := [] } [] := hsets.frame
    obtain ⟨alarm, halarm, -⟩ := resetAlarm_spec hend.agree
    refine .inl ⟨_, Option.bind_eq_some_iff.mpr ⟨s₁, hs₁, halarm⟩, hsets.frame, ?_, fun _ => rfl⟩
    exact htodo ▸ List.suffix_refl _

theorem Inv.step {s s' : TimerQueue} {e : Event} (h : Inv s) (hs : system.step s e s') :
    Inv s' := by
  rcases h.exec hs.1 with ⟨s₁, hs₁, h₁⟩ | ⟨a, rfl, ha⟩
  · cases hs₁.symm.trans hs.2
    exact h₁
  · have hnone : s.exec (.returnTimer a) = none := by
      simp [TimerQueue.exec, returnTimer, ha]
    cases hnone.symm.trans hs.2

theorem Inv.init (now : ℕ) : Inv { now := now } :=
  ⟨⟨⟨by simp, by simp, by simp, by simp, by simp, by simp⟩, by simp, by simp⟩, by simp,
    fun _ => rfl⟩

theorem inv_of_system {es : List Event} {s : TimerQueue} (h : system.Run es s) : Inv s :=
  h.invariant (fun _ ⟨now, _, hs⟩ => hs ▸ Inv.init now) fun _ _ _ => Inv.step

/-- **No function of a timer queue follows a pointer to a timer that was deleted,
and no assertion fails,** in whatever order timers are added, cancelled and called,
and however the clock is set. The one exception is the return of an `addTimer`: it
finds the timer unless this was deleted since it was added, which can happen only
when `addTimer` is called in another thread, for directly after `addTimerInLoop` the
timer is there. -/
theorem isSome_exec_of_run {es : List Event} {s : TimerQueue} (h : system.Run es s) {e : Event}
    (he : s.Enabled e) :
    ((s.exec e).isSome ∨ ∃ a, e = .returnTimer a ∧ s.heap a = none) ∧
      ∀ a s', e = .addTimerInLoop a → s.exec e = some s' → (s'.exec (.returnTimer a)).isSome := by
  constructor
  · rcases (inv_of_system h).exec he with ⟨s', hs', -⟩ | hgone
    · exact .inl (by rw [hs', Option.isSome_some])
    · exact .inr hgone
  · rintro a s' rfl hs'
    obtain ⟨t, ht, rfl⟩ := addTimerInLoop_eq hs'
    simp [exec, returnTimer, ht]

/-! ## A round -/

/-- Two timers that are due: the one at address 7 is called once, the one at address 8
every 5 microseconds. -/
def twoTimers : TimerQueue where
  heap := Function.update (Function.update (fun _ => none) 7 (some ⟨10, 0, false, 1⟩)) 8
    (some ⟨20, 5, true, 2⟩)
  numCreated := 2
  timers := {entry 20 8, entry 10 7}
  activeTimers := {(8, 2), (7, 1)}
  returning := [8, 7]
  now := 120
  ticks := 119
  alarm := some 100

theorem run_twoTimers : (system.restrict Steady).Run [.createTimer 7 10 0 false,
    .addTimerInLoop 7, .createTimer 8 20 5 true, .addTimerInLoop 8, .tick 119] twoTimers := by
  have hnil : (system.restrict Steady).Run [] { now := 1 } := .nil ⟨1, Nat.one_pos, rfl⟩
  have h₁ := hnil.snoc (show (system.restrict Steady).step _ (.createTimer 7 10 0 false) _ from
    ⟨trivial, ⟨rfl, by decide⟩, rfl⟩)
  have h₂ := h₁.snoc (show (system.restrict Steady).step _ (.addTimerInLoop 7) _ from
    ⟨trivial, Finset.mem_insert_self _ _, rfl⟩)
  have h₃ := h₂.snoc (show (system.restrict Steady).step _ (.createTimer 8 20 5 true) _ from
    ⟨trivial, ⟨rfl, by decide⟩, rfl⟩)
  have h₄ := h₃.snoc (show (system.restrict Steady).step _ (.addTimerInLoop 8) _ from
    ⟨trivial, Finset.mem_insert_self _ _, rfl⟩)
  exact h₄.snoc ⟨trivial, trivial, rfl⟩

/-- The beginning of their round. -/
def roundBegun : TimerQueue :=
  { twoTimers with
    timers := ∅
    activeTimers := ∅
    callingExpiredTimers := true
    expired := [entry 10 7, entry 20 8]
    todo := [entry 10 7, entry 20 8]
    readAt := 120
    alarm := none }

theorem handleRead_twoTimers : twoTimers.handleRead = some roundBegun := by
  have hsort : (twoTimers.timers.filter (when · ≤ twoTimers.now)).sort
      = [entry 10 7, entry 20 8] := by
    have hfilter : twoTimers.timers.filter (when · ≤ twoTimers.now)
        = Insert.insert (entry 10 7) {entry 20 8} := by
      decide
    rw [hfilter, Finset.sort_insert, Finset.sort_singleton]
    · decide
    · decide
  obtain ⟨active, hiff, hread⟩ :=
    handleRead_eq (inv_of_system run_twoTimers.of_restrict).sets.agree
  have hactive : active = ∅ := by
    refine Finset.eq_empty_of_forall_notMem fun ⟨a, q⟩ hin => ?_
    obtain ⟨hin, hlate⟩ := (hiff a q).mp hin
    have hdue : ∀ p ∈ twoTimers.activeTimers, ∃ t, twoTimers.heap p.1 = some t ∧
        t.sequence = p.2 ∧ t.expiration ≤ twoTimers.now := by
      simp [twoTimers]
    obtain ⟨t, ht, hseq, hle⟩ := hdue _ hin
    exact absurd (hlate t ht hseq) (Nat.not_lt.mpr hle)
  rw [hread, hsort, hactive]
  rfl

/-- The first of them was called. -/
def inRound : TimerQueue :=
  { roundBegun with
    todo := [entry 20 8]
    notes := [.ran 1 10 120 false] }

theorem run_inRound : system.Run ([.createTimer 7 10 0 false, .addTimerInLoop 7,
    .createTimer 8 20 5 true, .addTimerInLoop 8, .tick 119] ++ [.handleRead] ++ [.run])
    inRound := by
  have hbegun := run_twoTimers.of_restrict.snoc
    (show system.step _ .handleRead _ from ⟨rfl, handleRead_twoTimers⟩)
  exact hbegun.snoc ⟨⟨rfl, List.cons_ne_nil _ _⟩, rfl⟩

/-- In the callback the other timer is cancelled, whose own call is still to come. -/
theorem isSome_exec_of_run_inRound : (inRound.exec (.cancelInLoop 8 2)).isSome := by
  refine (isSome_exec_of_run run_inRound (e := .cancelInLoop 8 2) trivial).1.resolve_right ?_
  rintro ⟨a, ha, -⟩
  cases ha

/-- The second timer was cancelled and called. -/
def bothCalled : TimerQueue :=
  { inRound with
    cancelingTimers := {(8, 2)}
    todo := []
    notes := [.ran 1 10 120 false, .ran 2 20 120 true] }

/-- The queue when the round is over. -/
def roundOver : TimerQueue :=
  { twoTimers with
    heap := Function.update (Function.update twoTimers.heap 7 none) 8 none
    timers := ∅
    activeTimers := ∅
    cancelingTimers := {(8, 2)}
    readAt := 120
    alarm := none
    notes := [.ran 1 10 120 false, .ran 2 20 120 true, .cancelled 2] }

theorem step_bothCalled :
    system.step { inRound with cancelingTimers := {(8, 2)} } .run bothCalled :=
  ⟨⟨rfl, List.cons_ne_nil _ _⟩, rfl⟩

theorem step_roundOver : system.step bothCalled .reset roundOver := by
  have hloop : bothCalled.expired.foldlM resetTimer { bothCalled with callingExpiredTimers := false }
      = some { roundOver with expired := bothCalled.expired } := rfl
  refine ⟨⟨rfl, rfl⟩, ?_⟩
  show reset bothCalled = some roundOver
  rw [reset, hloop, Option.bind_some]
  show resetAlarm roundOver = some roundOver
  rw [resetAlarm, show roundOver.timers = ∅ from rfl, Finset.sort_empty]

theorem run_roundOver : system.Run ([.createTimer 7 10 0 false, .addTimerInLoop 7,
    .createTimer 8 20 5 true, .addTimerInLoop 8, .tick 119] ++ [.handleRead] ++ [.run] ++
    [.cancelInLoop 8 2] ++ [.run] ++ [.reset]) roundOver := by
  have hcancel := run_inRound.snoc (show system.step _ (.cancelInLoop 8 2) _ from ⟨trivial, rfl⟩)
  exact (hcancel.snoc step_bothCalled).snoc step_roundOver

/-- The exception is real: these timers were added by another thread, and `addTimer` has
not returned for either of them yet. -/
example : 7 ∈ roundOver.returning ∧ roundOver.exec (.returnTimer 7) = none :=
  ⟨by decide, rfl⟩

end TimerQueue

end Muduo
