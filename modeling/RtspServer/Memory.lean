import Mathlib.Data.Vector.Basic
import Mathlib.Data.List.Basic

/-!
# Byte blocks and checked copies

C++ code copies bytes between arrays whose sizes the language does not
check. Here an array is a `Block n`, a list of bytes that carries its own
length, and `Block.memcpy` is the copy that fails with a `Fault` exactly
where the original would read or write outside one of the two arrays. A
computation that may fail this way lives in `Except Fault`; a value
`.ok v` says that every access on the way to `v` was inside its array.

The lemmas are about overwriting a segment of a list: how long the result
is, what stands before, in and after the segment, and that two adjacent
writes are one (`overwrite_overwrite`). Copying a segment of a list towards
its front is one such write (`copyWithin_eq`).
-/

/-- A string of bytes. -/
abbrev Bytes := List UInt8

/-- What holds of the bytes of a string is decided byte by byte. -/
instance decidableForallBytes (p : UInt8 → Prop) [DecidablePred p] (bs : Bytes) :
    Decidable (∀ b ∈ bs, p b) :=
  List.decidableBAll p bs

/-- The bytes of an ASCII string. -/
def ascii (s : String) : Bytes := s.toList.map (fun c => c.toNat.toUInt8)

/-- **What can go wrong in memory.** A computation that meets one of these
has no defined result. -/
inductive Fault where
  /-- An access outside the bounds of an array. -/
  | outOfBounds
  /-- A member access through a null pointer. -/
  | nullPointer
deriving DecidableEq, Repr

namespace Except

variable {ε : Type*} {α β : Type}

/-- A bind succeeds exactly when both of its halves do. -/
theorem bind_eq_ok_iff {x : Except ε α} {f : α → Except ε β} {b : β} :
    (x >>= f) = .ok b ↔ ∃ a, x = .ok a ∧ f a = .ok b := by
  cases x with
  | error e => exact ⟨fun h => (by cases h), fun ⟨_, h, _⟩ => (by cases h)⟩
  | ok a => exact ⟨fun h => ⟨a, rfl, h⟩, fun ⟨_, h, hf⟩ => (by cases h; exact hf)⟩

@[simp] theorem ok_bind (a : α) (f : α → Except ε β) :
    ((.ok a : Except ε α) >>= f) = f a := rfl

@[simp] theorem error_bind (e : ε) (f : α → Except ε β) :
    ((.error e : Except ε α) >>= f) = .error e := rfl

theorem map_eq_ok_iff {ε α β : Type} {x : Except ε α} {f : α → β} {b : β} :
    x.map f = .ok b ↔ ∃ a, x = .ok a ∧ f a = b := by
  cases x <;> simp [Except.map]

theorem map_eq_error_iff {ε α β : Type} {x : Except ε α} {f : α → β} {e : ε} :
    x.map f = .error e ↔ x = .error e := by
  cases x <;> simp [Except.map]

/-- Two computations that both fail in the same way, or both succeed with
related results. -/
inductive Related {ε α β : Type} (R : α → β → Prop) : Except ε α → Except ε β → Prop where
  | ok {a : α} {b : β} (h : R a b) : Related R (.ok a) (.ok b)
  | error (e : ε) : Related R (.error e) (.error e)

theorem Related.refl {ε α : Type} (x : Except ε α) : Related Eq x x := by
  cases x with
  | ok a => exact .ok rfl
  | error e => exact .error e

/-- **Related computations stay related when they go on in related ways.** -/
theorem Related.bind {ε α β α' β' : Type} {R : α → β → Prop} {R' : α' → β' → Prop}
    {x : Except ε α} {y : Except ε β} {f : α → Except ε α'} {g : β → Except ε β'}
    (h : Related R x y) (hnext : ∀ a b, R a b → Related R' (f a) (g b)) :
    Related R' (x >>= f) (y >>= g) := by
  cases h with
  | ok h => exact hnext _ _ h
  | error e => exact .error e

theorem Related.mono {ε α β : Type} {R R' : α → β → Prop} {x : Except ε α} {y : Except ε β}
    (h : Related R x y) (hR : ∀ a b, R a b → R' a b) : Related R' x y := by
  cases h with
  | ok h => exact .ok (hR _ _ h)
  | error e => exact .error e

theorem Related.of_ok {ε α β : Type} {R : α → β → Prop} {a : α} {y : Except ε β}
    (h : Related R (.ok a : Except ε α) y) : ∃ b, y = .ok b ∧ R a b := by
  cases h with
  | ok h => exact ⟨_, rfl, h⟩

theorem Related.to_ok {ε α β : Type} {R : α → β → Prop} {x : Except ε α} {b : β}
    (h : Related R x (.ok b : Except ε β)) : ∃ a, x = .ok a ∧ R a b := by
  cases h with
  | ok h => exact ⟨_, rfl, h⟩

end Except

/-- A statement about a byte may be checked on the 256 bytes. -/
theorem forall_byte {P : UInt8 → Prop} (h : ∀ i : Fin 256, P (UInt8.ofNat i)) (b : UInt8) :
    P b := by
  have hb := h ⟨b.toNat, b.toNat_lt⟩
  rwa [UInt8.ofNat_toNat] at hb

/-! ## Overwriting a segment of a list -/

section Overwrite

variable {α : Type*}

/-- The list with the segment starting at `off` replaced by `xs`. -/
def overwrite (l : List α) (off : ℕ) (xs : List α) : List α :=
  l.take off ++ xs ++ l.drop (off + xs.length)

theorem length_overwrite {l : List α} {off : ℕ} {xs : List α}
    (h : off + xs.length ≤ l.length) : (overwrite l off xs).length = l.length := by
  unfold overwrite
  simp only [List.length_append, List.length_take, List.length_drop]
  omega

/-- What stands before the segment is unchanged. -/
theorem take_overwrite {l : List α} {off : ℕ} {xs : List α}
    (h : off ≤ l.length) : (overwrite l off xs).take off = l.take off := by
  have hlen : (l.take off).length = off := List.length_take_of_le h
  unfold overwrite
  rw [List.append_assoc, List.take_append_of_le_length hlen.ge,
    List.take_of_length_le hlen.le]

/-- From the segment on, the list reads the new bytes and then what followed
the old ones. -/
theorem drop_overwrite {l : List α} {off : ℕ} {xs : List α}
    (h : off ≤ l.length) :
    (overwrite l off xs).drop off = xs ++ l.drop (off + xs.length) := by
  have hlen : (l.take off).length = off := List.length_take_of_le h
  unfold overwrite
  rw [List.append_assoc, List.drop_append_of_le_length hlen.ge,
    List.drop_of_length_le hlen.le, List.nil_append]

/-- Beyond the segment nothing changes. -/
theorem drop_overwrite_of_le {l : List α} {off k : ℕ} {xs : List α}
    (h : off ≤ l.length) (hk : off + xs.length ≤ k) :
    (overwrite l off xs).drop k = l.drop k := by
  obtain ⟨j, rfl⟩ := Nat.exists_eq_add_of_le hk
  rw [show off + xs.length + j = off + (xs.length + j) by omega,
    ← List.drop_drop, drop_overwrite h, ← List.drop_drop, List.drop_left,
    List.drop_drop]
  congr 1
  omega

/-- The segment itself. -/
theorem take_drop_overwrite {l : List α} {off : ℕ} {xs : List α}
    (h : off ≤ l.length) :
    ((overwrite l off xs).drop off).take xs.length = xs := by
  rw [drop_overwrite h, List.take_left]

/-- **Two adjacent writes are one.** -/
theorem overwrite_overwrite {l : List α} {off : ℕ} {xs ys : List α}
    (h : off + xs.length ≤ l.length) :
    overwrite (overwrite l off xs) (off + xs.length) ys
      = overwrite l off (xs ++ ys) := by
  have hoff : off ≤ l.length := by omega
  have htake : (overwrite l off xs).take (off + xs.length) = l.take off ++ xs := by
    rw [List.take_add, take_overwrite hoff, take_drop_overwrite hoff]
  have hdrop : (overwrite l off xs).drop (off + xs.length + ys.length)
      = l.drop (off + (xs ++ ys).length) := by
    rw [drop_overwrite_of_le hoff (by omega), List.length_append, Nat.add_assoc]
  show (overwrite l off xs).take (off + xs.length) ++ ys
      ++ (overwrite l off xs).drop (off + xs.length + ys.length) = _
  rw [htake, hdrop, List.append_assoc (l.take off)]
  rfl

theorem set_eq_overwrite {l : List α} {i : ℕ} (x : α) (h : i < l.length) :
    l.set i x = overwrite l i [x] := by
  rw [List.set_eq_take_append_cons_drop, if_pos h]
  show l.take i ++ x :: l.drop (i + 1) = l.take i ++ [x] ++ l.drop (i + 1)
  rw [List.append_assoc]
  rfl

end Overwrite

/-! ## Copying within a list -/

section CopyWithin

variable {α : Type*} [Inhabited α]

/-- `std::copy(begin() + src, begin() + src + n, begin() + dst)`, one element
after the other. -/
def copyWithin (l : List α) (src dst : ℕ) : ℕ → List α
  | 0 => l
  | n + 1 => copyWithin (l.set dst (l.getD src default)) (src + 1) (dst + 1) n

theorem length_copyWithin (n : ℕ) :
    ∀ (l : List α) (src dst : ℕ), (copyWithin l src dst n).length = l.length := by
  induction n with
  | zero => exact fun _ _ _ => rfl
  | succ n ih => exact fun l src dst => (ih _ (src + 1) (dst + 1)).trans List.length_set

/-- **Copying towards the front moves the segment**, also where it overlaps
the place it is copied to: an element is read before it is overwritten. -/
theorem copyWithin_eq (n : ℕ) : ∀ (l : List α) (src dst : ℕ), dst ≤ src → src + n ≤ l.length →
    copyWithin l src dst n = overwrite l dst ((l.drop src).take n) := by
  induction n with
  | zero =>
    intro l src dst _ _
    show l = l.take dst ++ [] ++ l.drop (dst + 0)
    rw [List.append_nil, Nat.add_zero, List.take_append_drop]
  | succ n ih =>
    intro l src dst hle hlen
    have hsrc : src < l.length := by omega
    have hfirst : l.getD src default = l[src] := by simp [hsrc]
    have hrest : (l.set dst l[src]).drop (src + 1) = l.drop (src + 1) :=
      List.drop_set_of_lt (by omega)
    show copyWithin (l.set dst (l.getD src default)) (src + 1) (dst + 1) n = _
    rw [hfirst, ih _ (src + 1) (dst + 1) (by omega) (by rw [List.length_set]; omega), hrest,
      set_eq_overwrite _ (by omega), List.drop_eq_getElem_cons hsrc, List.take_succ_cons]
    exact overwrite_overwrite (show dst + 1 ≤ l.length by omega)

end CopyWithin

/-! ## Blocks -/

/-- An array of `n` bytes. -/
abbrev Block (n : ℕ) := List.Vector UInt8 n

namespace Block

variable {n : ℕ}

/-- A block filled with one byte. -/
def filled (n : ℕ) (b : UInt8) : Block n := List.Vector.replicate n b

/-- The block with the bytes from `off` on replaced by `xs`. -/
def write (b : Block n) (off : ℕ) (xs : Bytes) (h : off + xs.length ≤ n) : Block n :=
  ⟨overwrite b.toList off xs,
    (length_overwrite (by rw [b.toList_length]; exact h)).trans b.toList_length⟩

@[simp] theorem toList_write (b : Block n) (off : ℕ) (xs : Bytes)
    (h : off + xs.length ≤ n) :
    (b.write off xs h).toList = overwrite b.toList off xs := rfl

/-- `b[off] = c`, failing outside the block. -/
def store (b : Block n) (off : ℕ) (c : UInt8) : Except Fault (Block n) :=
  if h : off + [c].length ≤ n then .ok (b.write off [c] h) else .error .outOfBounds

/-- `memcpy(b + off, src + srcOff, len)`, failing where the copy would read
past `src` or write past `b`. -/
def memcpy (b : Block n) (off : ℕ) (src : Bytes) (srcOff len : ℕ) :
    Except Fault (Block n) :=
  if h : srcOff + len ≤ src.length ∧ off + len ≤ n then
    .ok (b.write off ((src.drop srcOff).take len) (by
      rw [List.length_take, List.length_drop]; omega))
  else .error .outOfBounds

/-- A store inside the block. -/
theorem store_eq_ok (b : Block n) {off : ℕ} (c : UInt8) (h : off + 1 ≤ n) :
    b.store off c = .ok (b.write off [c] h) := dif_pos h

/-- A copy whose source and target are both inside their arrays. -/
theorem memcpy_eq_ok (b : Block n) {off : ℕ} {src : Bytes} {srcOff len : ℕ}
    (hsrc : srcOff + len ≤ src.length) (hdst : off + len ≤ n) :
    b.memcpy off src srcOff len
      = .ok (b.write off ((src.drop srcOff).take len) (by
          rw [List.length_take, List.length_drop]; omega)) :=
  dif_pos ⟨hsrc, hdst⟩

end Block
