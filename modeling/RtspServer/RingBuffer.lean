import Mathlib.Data.Vector.Basic
import RtspServer.CircularArray
import RtspServer.Transition

/-!
# `RingBuffer`: a bounded queue

The ring buffer that a session has for each channel. It is a vector of
`_capacity` elements, two positions that go round in it, and a counter;
`push_back` expects that there is room and `pop_front` and `front` that there
is something, which `full` and `empty` tell.

What it is for is a first-in first-out queue. `Usage` puts beside a ring buffer
what was pushed and how much of it was popped since it was made, and
`Usage.IsFifo` says what the ring buffer has to do with that. Whoever asks
`full` and `empty` first has such a queue at any time (`isFifo_of_run`).
-/

/-- What ends a call before it returns. -/
inductive RingBuffer.Abort where
  /-- An `assert` that does not hold. -/
  | assertion
  /-- An access outside the bounds of the vector. -/
  | outOfBounds
deriving DecidableEq, Repr

/-- The fields of `class RingBuffer`, with `_capacity` as the length of the
vector. -/
structure RingBuffer (α : Type) (capacity : ℕ) where
  buffer : List.Vector α capacity
  numDatas : ℤ := 0
  putPos : ℕ := 0
  getPos : ℕ := 0
deriving DecidableEq

namespace RingBuffer

variable {α : Type} {n : ℕ}

/-- The constructor, which fills the vector with default elements. -/
def new (α : Type) [Inhabited α] (capacity : ℕ) : RingBuffer α capacity where
  buffer := List.Vector.replicate capacity default

/-- The position behind a position. -/
def add (capacity pos : ℕ) : ℕ := if pos + 1 = capacity then 0 else pos + 1

def pushData (r : RingBuffer α n) (data : α) : Except Abort (RingBuffer α n) :=
  if r.numDatas < n then
    if h : r.putPos < n then
      .ok { r with
        buffer := r.buffer.set ⟨r.putPos, h⟩ data
        putPos := add n r.putPos
        numDatas := r.numDatas + 1 }
    else .error .outOfBounds
  else .error .assertion

/-- `push_back`, which copies its argument. -/
def pushBack (r : RingBuffer α n) (data : α) : Except Abort (RingBuffer α n) := r.pushData data

def popFront (r : RingBuffer α n) : RingBuffer α n :=
  { r with getPos := add n r.getPos, numDatas := r.numDatas - 1 }

def front (r : RingBuffer α n) : Except Abort α :=
  if r.numDatas > 0 then
    if h : r.getPos < n then .ok (r.buffer.get ⟨r.getPos, h⟩) else .error .outOfBounds
  else .error .assertion

def full (r : RingBuffer α n) : Bool := r.numDatas == n

def empty (r : RingBuffer α n) : Bool := r.numDatas == 0

def size (r : RingBuffer α n) : ℤ := r.numDatas

/-! ## Calls one after another -/

/-- A call of one of the three functions that ask for a condition. -/
inductive Call (α : Type) where
  | pushBack (data : α)
  | popFront
  | front

/-- The call is made where its condition was asked for: `push_back` after `full`, and
`pop_front` and `front` after `empty`. `pop_front` has no assertion of its own. -/
def Admits (r : RingBuffer α n) : Call α → Prop
  | .pushBack _ => r.full = false
  | .popFront => r.empty = false
  | .front => r.empty = false

/-- **A ring buffer with its history**: everything that was pushed, and how
many of these elements were popped. -/
structure Usage (α : Type) (n : ℕ) where
  ring : RingBuffer α n
  pushed : List α := []
  popped : ℕ := 0

namespace Usage

/-- A call on the ring buffer, entered in the history. -/
def perform (s : Usage α n) : Call α → Except Abort (Usage α n)
  | .pushBack data => do
    let ring ← s.ring.pushBack data
    return { s with ring := ring, pushed := s.pushed ++ [data] }
  | .popFront => return { s with ring := s.ring.popFront, popped := s.popped + 1 }
  | .front => do
    let _ ← s.ring.front
    return s

/-- The calls on a ring buffer from its constructor on. -/
def system (α : Type) [Inhabited α] (n : ℕ) : System (Usage α n) (Call α) where
  init s := s = { ring := RingBuffer.new α n }
  step s c s' := s.ring.Admits c ∧ s.perform c = .ok s'

/-- **The ring buffer is the queue of what was pushed and not popped yet.** Its size,
and whether it is empty or full, are those of this queue; `front` is the oldest
element; and every element is at its number modulo the capacity, where none of the
calls to come can write over it. -/
structure IsFifo (s : Usage α n) : Prop where
  popped_le : s.popped ≤ s.pushed.length
  size_eq : s.ring.size = s.pushed.length - s.popped
  size_le : s.ring.size ≤ n
  empty_iff : s.ring.empty = true ↔ s.popped = s.pushed.length
  full_iff : s.ring.full = true ↔ s.pushed.length = s.popped + n
  /-- The oldest element that was not popped yet. -/
  front : s.ring.empty = false → ∃ a, s.ring.front = .ok a ∧ s.pushed[s.popped]? = some a
  /-- No call that is admitted ends early. -/
  performs : ∀ c, s.ring.Admits c → ∃ s', s.perform c = .ok s'
  putPos : s.ring.putPos = s.pushed.length % n
  getPos : s.ring.getPos = s.popped % n
  /-- Every element that was not popped yet is where it was put, -/
  kept : ∀ k, s.popped ≤ k → k < s.pushed.length →
    s.ring.buffer.toList[k % n]? = s.pushed[k]?
  /-- and the next one is put where none of these is. -/
  free : s.ring.full = false → ∀ k, s.popped ≤ k → k < s.pushed.length → s.ring.putPos ≠ k % n

/-- **The invariant**: the two positions and the counter follow the history,
and the elements not popped yet are in their cells. -/
structure Inv (s : Usage α n) : Prop where
  popped_le : s.popped ≤ s.pushed.length
  pushed_le : s.pushed.length ≤ s.popped + n
  numDatas : s.ring.numDatas = s.pushed.length - s.popped
  putPos : s.ring.putPos = s.pushed.length % n
  getPos : s.ring.getPos = s.popped % n
  kept : CircularArray.Keeps s.ring.buffer.get s.pushed s.popped

/-- A new ring buffer is empty. -/
theorem inv_new [Inhabited α] : Inv ({ ring := RingBuffer.new α n } : Usage α n) where
  popped_le := le_rfl
  pushed_le := Nat.zero_le _
  numDatas := rfl
  putPos := (Nat.zero_mod n).symm
  getPos := (Nat.zero_mod n).symm
  kept := CircularArray.keeps_nil _ _

section Step

variable {s s' : Usage α n}

theorem Inv.full_iff (hs : s.Inv) : s.ring.full = true ↔ s.pushed.length = s.popped + n := by
  have hle := hs.popped_le
  unfold RingBuffer.full
  rw [beq_iff_eq, hs.numDatas]
  omega

theorem Inv.empty_iff (hs : s.Inv) : s.ring.empty = true ↔ s.popped = s.pushed.length := by
  have hle := hs.popped_le
  unfold RingBuffer.empty
  rw [beq_iff_eq, hs.numDatas]
  omega

/-- A ring buffer that is not full has room for one more. -/
theorem Inv.room (hs : s.Inv) (h : s.ring.full = false) : s.pushed.length < s.popped + n := by
  have hne : s.pushed.length ≠ s.popped + n := fun heq => by
    rw [hs.full_iff.mpr heq] at h
    cases h
  have hle := hs.pushed_le
  omega

/-- A ring buffer that is not empty has an element that was not popped. -/
theorem Inv.unread (hs : s.Inv) (h : s.ring.empty = false) : s.popped < s.pushed.length := by
  have hne : s.popped ≠ s.pushed.length := fun heq => by
    rw [hs.empty_iff.mpr heq] at h
    cases h
  have hle := hs.popped_le
  omega

theorem Inv.pos (hs : s.Inv) (h : s.ring.full = false) : 0 < n := by
  have := hs.popped_le
  have := hs.room h
  omega

/-- **An element is put** in the cell of its number. -/
theorem Inv.pushBack (hs : s.Inv) (h : s.ring.full = false) (data : α) :
    ∃ ring, s.ring.pushBack data = .ok ring ∧
      Inv { s with ring := ring, pushed := s.pushed ++ [data] } := by
  have hroom := hs.room h
  have hle := hs.popped_le
  have hput : s.ring.putPos < n := by
    rw [hs.putPos]
    exact Nat.mod_lt _ (hs.pos h)
  have hcount : s.ring.numDatas < n := by
    rw [hs.numDatas]
    omega
  refine ⟨_, by rw [RingBuffer.pushBack, pushData, if_pos hcount, dif_pos hput], ?_⟩
  constructor
  · show s.popped ≤ (s.pushed ++ [data]).length
    rw [List.length_append, List.length_singleton]
    omega
  · show (s.pushed ++ [data]).length ≤ s.popped + n
    rw [List.length_append, List.length_singleton]
    omega
  · show s.ring.numDatas + 1 = _
    rw [hs.numDatas, List.length_append, List.length_singleton]
    push_cast
    omega
  · show add n s.ring.putPos = _
    rw [List.length_append, List.length_singleton, CircularArray.succ_mod (hs.pos h), hs.putPos]
    rfl
  · exact hs.getPos
  · have hcells : (s.ring.buffer.set ⟨s.ring.putPos, hput⟩ data).get
        = Function.update s.ring.buffer.get ⟨s.ring.putPos, hput⟩ data := by
      funext i
      by_cases hi : i = ⟨s.ring.putPos, hput⟩
      · subst hi
        rw [List.Vector.get_set_same, Function.update_self]
      · rw [List.Vector.get_set_of_ne (Ne.symm hi), Function.update_of_ne hi]
    show CircularArray.Keeps (s.ring.buffer.set _ data).get _ _
    rw [hcells]
    exact hs.kept.snoc hroom hs.putPos data

/-- **The oldest element is taken off.** -/
theorem Inv.popFront (hs : s.Inv) (h : s.ring.empty = false) :
    Inv { s with ring := s.ring.popFront, popped := s.popped + 1 } := by
  have hunread := hs.unread h
  have hle := hs.pushed_le
  constructor
  · exact hunread
  · show s.pushed.length ≤ s.popped + 1 + n
    omega
  · show s.ring.numDatas - 1 = _
    rw [hs.numDatas]
    push_cast
    omega
  · exact hs.putPos
  · show add n s.ring.getPos = (s.popped + 1) % n
    rw [CircularArray.succ_mod (by omega), hs.getPos]
    rfl
  · exact hs.kept.mono (Nat.le_succ _)

/-- **The oldest element is at the front.** -/
theorem Inv.front (hs : s.Inv) (h : s.ring.empty = false) :
    ∃ a, s.ring.front = .ok a ∧ s.pushed[s.popped]? = some a := by
  have hunread := hs.unread h
  have hle := hs.pushed_le
  have hget : s.ring.getPos < n := by
    rw [hs.getPos]
    exact Nat.mod_lt _ (by omega)
  have hcount : s.ring.numDatas > 0 := by
    rw [hs.numDatas]
    omega
  have hread := List.getElem?_eq_getElem hunread
  refine ⟨s.pushed[s.popped], ?_, hread⟩
  rw [RingBuffer.front, if_pos hcount, dif_pos hget]
  exact congrArg Except.ok (hs.kept s.popped _ le_rfl hread ⟨_, hget⟩ hs.getPos)

/-- **No admitted call ends early**, and each keeps the invariant. -/
theorem Inv.perform (hs : s.Inv) {c : Call α} (hc : s.ring.Admits c) :
    ∃ s', s.perform c = .ok s' ∧ s'.Inv := by
  cases c with
  | pushBack data =>
    obtain ⟨ring, hring, hinv⟩ := hs.pushBack hc data
    exact ⟨_, by rw [Usage.perform, hring]; rfl, hinv⟩
  | popFront => exact ⟨_, rfl, hs.popFront hc⟩
  | front =>
    obtain ⟨a, ha, -⟩ := hs.front hc
    exact ⟨s, by rw [Usage.perform, ha]; rfl, hs⟩

/-- With the invariant the ring buffer is the queue. -/
theorem Inv.isFifo (hs : s.Inv) : s.IsFifo where
  popped_le := hs.popped_le
  size_eq := hs.numDatas
  size_le := by
    have hle := hs.pushed_le
    show s.ring.numDatas ≤ n
    rw [hs.numDatas]
    omega
  empty_iff := hs.empty_iff
  full_iff := hs.full_iff
  front := hs.front
  performs := fun c hc => by
    obtain ⟨s', hs', -⟩ := hs.perform hc
    exact ⟨s', hs'⟩
  putPos := hs.putPos
  getPos := hs.getPos
  kept := by
    intro k hlo hk
    have hle := hs.pushed_le
    have hlt : k % n < n := Nat.mod_lt _ (by omega)
    have hread := List.getElem?_eq_getElem hk
    have hcell := hs.kept k _ hlo hread ⟨k % n, hlt⟩ rfl
    rw [hread, ← hcell, List.Vector.get_eq_get_toList,
      List.getElem?_eq_getElem (by rw [List.Vector.toList_length]; exact hlt)]
    rfl
  free := fun h k hlo hk => by
    rw [hs.putPos]
    exact CircularArray.next_free (hs.room h) hlo hk

end Step

/-- **A ring buffer is a first-in first-out queue** after every sequence of
calls that each were made where their condition holds, whatever its
capacity. The two positions run around the array, and the number of elements is
kept apart from them; so the full buffer and the empty one, for which they are the
same, are told apart. -/
theorem isFifo_of_run [Inhabited α] {calls : List (Call α)} {s : Usage α n}
    (hrun : (system α n).Run calls s) : s.IsFifo := by
  refine Inv.isFifo (hrun.invariant ?_ ?_)
  · rintro s rfl
    exact inv_new
  · rintro s c s' hs ⟨hc, hstep⟩
    obtain ⟨s'', hs'', hinv⟩ := hs.perform hc
    cases hstep.symm.trans hs''
    exact hinv

/-- A ring buffer for two elements with the second and the third of three, the
third in the first cell. -/
def wrapped : Usage ℕ 2 where
  ring := { buffer := ⟨[7, 6], rfl⟩, numDatas := 2, putPos := 1, getPos := 1 }
  pushed := [5, 6, 7]
  popped := 1

/-- The ring buffer after three pushes and a pop. -/
theorem isFifo_wrapped : wrapped.IsFifo := by
  have hrun : (system ℕ 2).Run
      ((([] ++ [.pushBack 5]) ++ [.pushBack 6]) ++ [.popFront] ++ [.pushBack 7]) wrapped := by
    refine .snoc (.snoc (.snoc (.snoc (.nil rfl) ⟨rfl, rfl⟩) ⟨rfl, rfl⟩) ⟨rfl, rfl⟩) ⟨?_, ?_⟩
    · rfl
    · rfl
  exact isFifo_of_run hrun

end Usage

end RingBuffer
