import Mathlib.Data.Nat.ModEq
import Mathlib.Logic.Function.Basic

/-!
# A growing list in a circular array

A list that grows at its end and is read from its front can be kept in an
array of `n` cells: element `k` is put in cell `k % n`. As long as no more
than `n` elements are there that have not been read, none of these is
overwritten, however often the array is gone round.

`Keeps cells xs lo` says that the elements of `xs` from position `lo` on are in
their cells. It holds of an empty list, of a list with one more element when
there is room (`Keeps.snoc`), and of a list that is read further
(`Keeps.mono`).
-/

namespace CircularArray

variable {α : Type*} {n : ℕ}

/-- The cell behind a cell, with the first one behind the last. -/
theorem succ_mod (hn : 0 < n) (k : ℕ) :
    (k + 1) % n = if k % n + 1 = n then 0 else k % n + 1 := by
  have hlt := Nat.mod_lt k hn
  have hmod : (k + 1) % n = (k % n + 1) % n := (Nat.mod_add_mod k n 1).symm
  by_cases hlast : k % n + 1 = n
  · rw [if_pos hlast, hmod, hlast, Nat.mod_self]
  · rw [if_neg hlast, hmod, Nat.mod_eq_of_lt (by omega)]

/-- Elements less than `n` positions apart are in different cells. -/
theorem mod_ne_mod {i j : ℕ} (h : i < j) (hnear : j < i + n) : i % n ≠ j % n := by
  intro heq
  have hdvd : n ∣ j - i := (Nat.modEq_iff_dvd' h.le).mp heq
  have hle := Nat.le_of_dvd (by omega) hdvd
  omega

/-- **The elements of `xs` from `lo` on are in their cells.** -/
def Keeps (cells : Fin n → α) (xs : List α) (lo : ℕ) : Prop :=
  ∀ k a, lo ≤ k → xs[k]? = some a → ∀ i : Fin n, (i : ℕ) = k % n → cells i = a

theorem keeps_nil (cells : Fin n → α) (lo : ℕ) : Keeps cells [] lo := by
  intro k a _ hk
  cases hk

theorem Keeps.mono {cells : Fin n → α} {xs : List α} {lo lo' : ℕ} (h : Keeps cells xs lo)
    (hle : lo ≤ lo') : Keeps cells xs lo' := fun k a hk => h k a (hle.trans hk)

/-- **The cell of the next element is free**: none of the elements to be kept
is in it, if there is room for one more. -/
theorem next_free {xs : List α} {lo k : ℕ} (hroom : xs.length < lo + n) (hlo : lo ≤ k)
    (hk : k < xs.length) : xs.length % n ≠ k % n := (mod_ne_mod hk (by omega)).symm

/-- **One more element**, put in its cell. -/
theorem Keeps.snoc {cells : Fin n → α} {xs : List α} {lo : ℕ} (h : Keeps cells xs lo)
    (hroom : xs.length < lo + n) {i : Fin n} (hi : (i : ℕ) = xs.length % n) (a : α) :
    Keeps (Function.update cells i a) (xs ++ [a]) lo := by
  intro k b hlo hk j hj
  obtain ⟨hlt, -⟩ := List.getElem?_eq_some_iff.mp hk
  rw [List.length_append, List.length_singleton] at hlt
  rcases Nat.lt_succ_iff_lt_or_eq.mp hlt with hold | rfl
  · have hne : j ≠ i := by
      rintro rfl
      exact next_free hroom hlo hold (hi.symm.trans hj)
    rw [List.getElem?_append_left hold] at hk
    rw [Function.update_of_ne hne]
    exact h k b hlo hk j hj
  · obtain rfl : j = i := Fin.ext (hj.trans hi.symm)
    rw [List.getElem?_concat_length] at hk
    rw [Function.update_self]
    exact Option.some.inj hk

end CircularArray
