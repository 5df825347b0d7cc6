import Mathlib.Data.Finset.Insert
import Mathlib.Data.Finset.Basic
import Mathlib.Data.List.Basic

/-!
# Resources with numbers

A resource is obtained under a number that is not in use and released by this
number, which may then be given again. `after` follows a set of numbers
through a list of uses; `Fresh` is what the giver of numbers promises, and
`ReleasesOwned` what is expected of the one who uses them: every number
released is owned at that moment.

When both hold, numbers are released as often as they were obtained, up to
those owned at the start and at the end (`count_obtain`): a user who is left
with nothing has released everything exactly once.
-/

namespace ResourceTable

/-- A use of a resource. -/
inductive Use (ν : Type*) where
  | obtain (n : ν)
  | release (n : ν)
deriving DecidableEq

variable {ν : Type*} [DecidableEq ν]

/-- The numbers after some uses. -/
def after (owned : Finset ν) : List (Use ν) → Finset ν
  | [] => owned
  | .obtain n :: uses => after (insert n owned) uses
  | .release n :: uses => after (owned.erase n) uses

/-- Numbers that are obtained are not in use. Whoever gives the numbers out sees to
it, as the kernel does for descriptors; a number may come again after a release. -/
def Fresh (inUse : Finset ν) : List (Use ν) → Prop
  | [] => True
  | .obtain n :: uses => n ∉ inUse ∧ Fresh (insert n inUse) uses
  | .release n :: uses => Fresh (inUse.erase n) uses

/-- **Every number that is released is owned** at that moment. A release of what was
never obtained fails here, and so does a second one of the same number, unless it was
obtained again between the two. -/
def ReleasesOwned (owned : Finset ν) : List (Use ν) → Prop
  | [] => True
  | .obtain n :: uses => ReleasesOwned (insert n owned) uses
  | .release n :: uses => n ∈ owned ∧ ReleasesOwned (owned.erase n) uses

instance decidableFresh : (inUse : Finset ν) → (uses : List (Use ν)) → Decidable (Fresh inUse uses)
  | _, [] => .isTrue trivial
  | inUse, .obtain n :: uses =>
    have := decidableFresh (insert n inUse) uses
    inferInstanceAs (Decidable (n ∉ inUse ∧ Fresh (insert n inUse) uses))
  | inUse, .release n :: uses => decidableFresh (inUse.erase n) uses

instance decidableReleasesOwned :
    (owned : Finset ν) → (uses : List (Use ν)) → Decidable (ReleasesOwned owned uses)
  | _, [] => .isTrue trivial
  | owned, .obtain n :: uses => decidableReleasesOwned (insert n owned) uses
  | owned, .release n :: uses =>
    have := decidableReleasesOwned (owned.erase n) uses
    inferInstanceAs (Decidable (n ∈ owned ∧ ReleasesOwned (owned.erase n) uses))

theorem after_append (uses uses' : List (Use ν)) :
    ∀ owned, after owned (uses ++ uses') = after (after owned uses) uses' := by
  induction uses with
  | nil => intro owned; rfl
  | cons use uses ih =>
    intro owned
    cases use with
    | obtain n => exact ih _
    | release n => exact ih _

theorem releasesOwned_append (uses uses' : List (Use ν)) :
    ∀ owned, ReleasesOwned owned (uses ++ uses')
      ↔ ReleasesOwned owned uses ∧ ReleasesOwned (after owned uses) uses' := by
  induction uses with
  | nil => intro owned; exact (and_iff_right trivial).symm
  | cons use uses ih =>
    intro owned
    cases use with
    | obtain n => exact ih _
    | release n => exact (and_congr_right fun _ => ih _).trans and_assoc.symm

theorem fresh_append (uses uses' : List (Use ν)) :
    ∀ inUse, Fresh inUse (uses ++ uses') ↔ Fresh inUse uses ∧ Fresh (after inUse uses) uses' := by
  induction uses with
  | nil => intro inUse; exact (and_iff_right trivial).symm
  | cons use uses ih =>
    intro inUse
    cases use with
    | obtain n => exact (and_congr_right fun _ => ih _).trans and_assoc.symm
    | release n => exact ih _

/-- What is not in use is not owned either. -/
theorem Fresh.mono {uses : List (Use ν)} : ∀ {owned inUse : Finset ν}, owned ⊆ inUse →
    Fresh inUse uses → Fresh owned uses := by
  induction uses with
  | nil => intro _ _ _ _; trivial
  | cons use uses ih =>
    intro owned inUse hsub h
    cases use with
    | obtain n => exact ⟨fun hn => h.1 (hsub hn), ih (Finset.insert_subset_insert n hsub) h.2⟩
    | release n => exact ih (Finset.erase_subset_erase n hsub) h

/-- **Another's number stays another's.** -/
theorem after_other {m : ν} {uses : List (Use ν)} : ∀ {owned inUse : Finset ν},
    owned ⊆ inUse → Fresh inUse uses → ReleasesOwned owned uses → m ∈ inUse → m ∉ owned →
    m ∈ after inUse uses ∧ m ∉ after owned uses := by
  induction uses with
  | nil => exact fun _ _ _ hin hout => ⟨hin, hout⟩
  | cons use uses ih =>
    intro owned inUse hsub hfresh hreleases hin hout
    cases use with
    | obtain n =>
      obtain ⟨hn, hfresh⟩ := hfresh
      have hmn : m ≠ n := by
        rintro rfl
        exact hn hin
      have hout' : m ∉ insert n owned := fun h => (Finset.mem_insert.mp h).elim hmn hout
      exact ih (Finset.insert_subset_insert n hsub) hfresh hreleases
        (Finset.mem_insert_of_mem hin) hout'
    | release n =>
      obtain ⟨hn, hreleases⟩ := hreleases
      have hmn : m ≠ n := by
        rintro rfl
        exact hout hn
      exact ih (Finset.erase_subset_erase n hsub) hfresh hreleases
        (Finset.mem_erase.mpr ⟨hmn, hin⟩) fun h => hout (Finset.mem_of_mem_erase h)

/-- Releasing everything that is owned, each number once. -/
theorem releaseAll (ns : List ν) : ∀ owned : Finset ν, ns.Nodup → owned = ns.toFinset →
    ReleasesOwned owned (ns.map .release) ∧ after owned (ns.map .release) = ∅ := by
  induction ns with
  | nil => intro owned _ h; exact ⟨trivial, h⟩
  | cons n ns ih =>
    intro owned hnodup h
    obtain ⟨hn, hnodup⟩ := List.nodup_cons.mp hnodup
    have hrest : owned.erase n = ns.toFinset := by
      rw [h, List.toFinset_cons, Finset.erase_insert fun hmem => hn (List.mem_toFinset.mp hmem)]
    obtain ⟨hreleases, hafter⟩ := ih _ hnodup hrest
    refine ⟨⟨?_, hreleases⟩, hafter⟩
    rw [h, List.toFinset_cons]
    exact Finset.mem_insert_self n _

/-- Releases obtain nothing. -/
theorem fresh_release (ns : List ν) : ∀ inUse : Finset ν, Fresh inUse (ns.map .release) := by
  induction ns with
  | nil => intro _; trivial
  | cons n ns ih => intro inUse; exact ih _

theorem mem_after_release {m : ν} (ns : List ν) :
    ∀ owned : Finset ν, m ∈ after owned (ns.map .release) ↔ m ∈ owned ∧ m ∉ ns := by
  induction ns with
  | nil => intro owned; simp [after]
  | cons n ns ih =>
    intro owned
    refine (ih (owned.erase n)).trans ?_
    rw [Finset.mem_erase, List.mem_cons, not_or]
    tauto

/-- **Numbers are released as often as they are obtained**, up to what is
owned before and after. -/
theorem count_obtain (n : ν) (uses : List (Use ν)) : ∀ owned inUse : Finset ν, owned ⊆ inUse →
    Fresh inUse uses → ReleasesOwned owned uses →
    uses.count (.obtain n) + (if n ∈ owned then 1 else 0)
      = uses.count (.release n) + (if n ∈ after owned uses then 1 else 0) := by
  induction uses with
  | nil => intro owned inUse _ _ _; rfl
  | cons use uses ih =>
    intro owned inUse hsub hfresh hreleases
    cases use with
    | obtain m =>
      obtain ⟨hm, hfresh⟩ := hfresh
      have hstep := ih (insert m owned) (insert m inUse) (Finset.insert_subset_insert m hsub)
        hfresh hreleases
      have hother : (Use.obtain m : Use ν) ≠ .release n := fun h => by cases h
      show _ = List.count (Use.release n) (.obtain m :: uses)
        + (if n ∈ after (insert m owned) uses then 1 else 0)
      rw [List.count_cons_of_ne hother, ← hstep]
      by_cases hnm : n = m
      · subst hnm
        have hold : n ∉ owned := fun h => hm (hsub h)
        rw [List.count_cons_self, if_neg hold, if_pos (Finset.mem_insert_self n owned)]
      · have hne : (Use.obtain m : Use ν) ≠ .obtain n := fun h => by cases h; exact hnm rfl
        rw [List.count_cons_of_ne hne]
        simp only [Finset.mem_insert, hnm, false_or]
    | release m =>
      obtain ⟨hm, hreleases⟩ := hreleases
      have hstep := ih (owned.erase m) (inUse.erase m) (Finset.erase_subset_erase m hsub)
        hfresh hreleases
      have hother : (Use.release m : Use ν) ≠ .obtain n := fun h => by cases h
      show List.count (Use.obtain n) (.release m :: uses) + _
        = List.count (Use.release n) (.release m :: uses)
          + (if n ∈ after (owned.erase m) uses then 1 else 0)
      rw [List.count_cons_of_ne hother]
      by_cases hnm : n = m
      · subst hnm
        rw [if_neg (Finset.notMem_erase n owned)] at hstep
        rw [List.count_cons_self, if_pos hm]
        omega
      · have hne : (Use.release m : Use ν) ≠ .release n := fun h => by cases h; exact hnm rfl
        rw [List.count_cons_of_ne hne, ← hstep]
        simp only [Finset.mem_erase, ne_eq, hnm, not_false_eq_true, true_and]

end ResourceTable
