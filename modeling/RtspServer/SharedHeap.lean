import Mathlib.Logic.Function.Basic
import Mathlib.Order.Basic
import Mathlib.Data.Nat.Basic

/-!
# Shared buffers

Buffers that are reached by address: whoever holds the address of a buffer
sees what others write into it. A new buffer has an address that was not
given out before, and is filled with what the memory held.

`scrambled` stands for what other code does to buffers it was given: it may
leave anything in them, and does not touch the rest.

Objects that are created and deleted are a partial map, which is changed at one
address at a time (`update_eq_some`, `update_none_eq_some`).
-/

/-- Buffers by address, and the next address. -/
structure SharedHeap (α : Type*) where
  block : ℕ → α
  next : ℕ

namespace SharedHeap

variable {α : Type*}

/-- A new buffer. -/
def alloc (h : SharedHeap α) : ℕ × SharedHeap α := (h.next, { h with next := h.next + 1 })

/-- Writing a buffer. -/
def write (h : SharedHeap α) (a : ℕ) (x : α) : SharedHeap α :=
  { h with block := Function.update h.block a x }

/-- Other code writes the buffers it was given. -/
def scrambled (h : SharedHeap α) (given : List ℕ) (x : ℕ → α) : SharedHeap α :=
  { h with block := fun a => if a ∈ given then x a else h.block a }

@[simp] theorem alloc_block (h : SharedHeap α) : h.alloc.2.block = h.block := rfl

@[simp] theorem write_self (h : SharedHeap α) (a : ℕ) (x : α) : (h.write a x).block a = x :=
  Function.update_self ..

theorem write_of_ne (h : SharedHeap α) {a b : ℕ} (hne : b ≠ a) (x : α) :
    (h.write a x).block b = h.block b := Function.update_of_ne hne ..

/-- **A buffer that was not given away is as it was.** -/
theorem scrambled_of_notMem (h : SharedHeap α) {given : List ℕ} {a : ℕ} (ha : a ∉ given)
    (x : ℕ → α) : (h.scrambled given x).block a = h.block a := if_neg ha

/-- What has been allocated so far is not changed from `h` to `h'`. -/
structure Extends (h h' : SharedHeap α) : Prop where
  next_le : h.next ≤ h'.next
  block_eq : ∀ a < h.next, h'.block a = h.block a

theorem Extends.refl (h : SharedHeap α) : h.Extends h := ⟨le_rfl, fun _ _ => rfl⟩

theorem Extends.trans {h h' h'' : SharedHeap α} (hle : h.Extends h') (hle' : h'.Extends h'') :
    h.Extends h'' :=
  ⟨hle.next_le.trans hle'.next_le, fun a ha =>
    (hle'.block_eq a (ha.trans_le hle.next_le)).trans (hle.block_eq a ha)⟩

/-- **A new buffer that is filled changes no other.** -/
theorem extends_alloc_write (h : SharedHeap α) (x : α) :
    h.Extends (h.alloc.2.write h.alloc.1 x) :=
  ⟨Nat.le_succ _, fun _ ha => write_of_ne _ (Nat.ne_of_lt ha) x⟩

end SharedHeap

/-! ## Objects by address -/

section

variable {κ β : Type*} [DecidableEq κ] {f : κ → Option β} {a b : κ}

theorem update_eq_some {v x : β} :
    Function.update f a (some v) b = some x ↔ b = a ∧ x = v ∨ b ≠ a ∧ f b = some x := by
  by_cases hba : b = a
  · subst hba
    simp [eq_comm]
  · simp [hba]

theorem update_none_eq_some {x : β} :
    Function.update f a none b = some x ↔ b ≠ a ∧ f b = some x := by
  by_cases hba : b = a
  · subst hba
    simp
  · simp [hba]

end
