import Mathlib.Data.List.Basic
import Mathlib.Data.List.Induction

/-!
# Transition systems and their runs

A system has initial states and labelled steps; a run is a list of labels
taken in order from an initial state. An invariant that holds initially and
is kept by every step holds wherever a run ends, and that is proved once
here (`Run.invariant`).

`System.restrict` keeps the steps that meet a condition on the state they
start from and their label. A property of the runs of a restricted system is
a property of the runs *all of whose steps meet the condition*
(`run_restrict_iff`), which is how a defect that some steps trigger is
separated from the steps that do not. `Run.repeats` is about systems that are
deterministic up to a relation: what a run does after it came back to its start
looks like what it did from there.
-/

/-- A transition system on states `σ` with labels `α`. -/
structure System (σ α : Type*) where
  init : σ → Prop
  step : σ → α → σ → Prop

namespace System

variable {σ α ε : Type*} {S : System σ α}

/-- The runs of a system: the labels taken, and the state reached. A run grows at its
end, so that an induction on it has the last step to look at, and what was before is
again a run. -/
inductive Run (S : System σ α) : List α → σ → Prop where
  | nil {s : σ} : S.init s → Run S [] s
  | snoc {as : List α} {a : α} {s s' : σ} :
      Run S as s → S.step s a s' → Run S (as ++ [a]) s'

/-- The steps of a system that meet a condition. The condition is on the state before
the step and on its label; a run of the restricted system is a run of the system all
of whose steps have met it. -/
def restrict (S : System σ α) (good : σ → α → Prop) : System σ α where
  init := S.init
  step s a s' := good s a ∧ S.step s a s'

/-- What a system does from a given state on. -/
def after (S : System σ α) (s₀ : σ) : System σ α where
  init s := s = s₀
  step := S.step

/-- **The invariant rule.** What holds at the start and is kept by each step holds in
every state that a run reaches. -/
theorem Run.invariant {Inv : σ → Prop} (hinit : ∀ s, S.init s → Inv s)
    (hstep : ∀ s a s', Inv s → S.step s a s' → Inv s') {as : List α} {s : σ}
    (h : S.Run as s) : Inv s := by
  induction h with
  | nil hs => exact hinit _ hs
  | snoc _ hs ih => exact hstep _ _ _ ih hs

/-- A non-empty run ends with a step from a state that a run reaches. -/
theorem Run.of_snoc {as : List α} {a : α} {s' : σ} (h : S.Run (as ++ [a]) s') :
    ∃ s, S.Run as s ∧ S.step s a s' := by
  generalize hb : as ++ [a] = bs at h
  cases h with
  | nil _ => simp at hb
  | snoc hrun hs =>
    obtain ⟨rfl, rfl⟩ := by simpa using hb
    exact ⟨_, hrun, hs⟩

/-- An empty run ends where it began. -/
theorem Run.of_nil {s : σ} (h : S.Run [] s) : S.init s := by
  generalize hb : ([] : List α) = bs at h
  cases h with
  | nil hs => exact hs
  | snoc _ _ => simp at hb

/-- The first part of a run is a run. -/
theorem Run.of_append {as bs : List α} {s' : σ} (h : S.Run (as ++ bs) s') :
    ∃ s, S.Run as s := by
  induction bs using List.reverseRecOn generalizing s' with
  | nil => exact ⟨s', by rwa [List.append_nil] at h⟩
  | append_singleton bs b ih =>
    rw [← List.append_assoc] at h
    obtain ⟨s, hrun, -⟩ := h.of_snoc
    exact ih hrun

/-- **A run of the restricted system is a run whose steps all meet the
condition.** -/
theorem run_restrict_iff {good : σ → α → Prop} {as : List α} {a : α} {s' : σ} :
    (S.restrict good).Run (as ++ [a]) s'
      ↔ ∃ s, (S.restrict good).Run as s ∧ good s a ∧ S.step s a s' :=
  ⟨Run.of_snoc, fun ⟨_, hrun, hs⟩ => .snoc hrun hs⟩

/-- A run of the restricted system goes on with a step that meets the condition. -/
theorem Run.snoc_restrict {good : σ → α → Prop} {as : List α} {a : α} {s s' : σ}
    (h : (S.restrict good).Run as s) (hstep : S.step s a s') (hgood : good s a) :
    (S.restrict good).Run (as ++ [a]) s' := h.snoc ⟨hgood, hstep⟩

/-- The runs of the restricted system are runs. -/
theorem Run.of_restrict {good : σ → α → Prop} {as : List α} {s : σ}
    (h : (S.restrict good).Run as s) : S.Run as s := by
  induction h with
  | nil hs => exact .nil hs
  | snoc _ hs ih => exact .snoc ih hs.2

/-- **A property that a step keeps exactly when it meets the condition**, and
that no step restores, holds at the end of exactly the runs whose steps all
meet the condition. -/
theorem Run.restrict_iff {good : σ → α → Prop} {P : σ → Prop} (hinit : ∀ s, S.init s → P s)
    (hstep : ∀ as s a s', S.Run as s → S.step s a s' → (P s' ↔ P s ∧ good s a)) {as : List α}
    {s : σ} (h : S.Run as s) : P s ↔ (S.restrict good).Run as s := by
  constructor
  · intro hP
    induction h with
    | nil hs => exact .nil hs
    | snoc hrun hs ih =>
      obtain ⟨hbefore, hgood⟩ := (hstep _ _ _ _ hrun hs).mp hP
      exact (ih hbefore).snoc ⟨hgood, hs⟩
  · intro hgood
    clear h
    induction hgood with
    | nil hs => exact hinit _ hs
    | snoc hrun hs ih => exact (hstep _ _ _ _ hrun.of_restrict hs.2).mpr ⟨ih, hs.1⟩

/-- **A deterministic system repeats itself.** If states that are related take
steps that look alike, to related states, then what a run does after it has come
back to a state related to the initial ones looks like what it did from the
start. -/
theorem Run.repeats {β : Type*} {look : α → β} {R : σ → σ → Prop}
    (hdet : ∀ {s t a b s' t'}, R s t → S.step s a s' → S.step t b t' → look a = look b ∧ R s' t')
    {as bs : List α} {s' : σ} (hback : ∀ s t, S.Run as s → S.init t → R s t)
    (h : S.Run (as ++ bs) s') : bs.map look <+: (as ++ bs).map look := by
  suffices hfirst : bs.map look = ((as ++ bs).take bs.length).map look ∧
      ∀ t, S.Run ((as ++ bs).take bs.length) t → R s' t by
    rw [hfirst.1]
    exact (List.take_prefix _ _).map look
  induction bs using List.reverseRecOn generalizing s' with
  | nil =>
    rw [List.append_nil] at h
    exact ⟨rfl, fun t ht => hback s' t h ht.of_nil⟩
  | append_singleton bs b ih =>
    rw [← List.append_assoc] at h ⊢
    obtain ⟨s, hrun, hstep⟩ := h.of_snoc
    obtain ⟨hlook, hrel⟩ := ih hrun
    -- the label from the start that `b` is to look like
    obtain ⟨a, htake⟩ : ∃ a, (as ++ bs ++ [b]).take (bs ++ [b]).length
        = (as ++ bs).take bs.length ++ [a] := by
      have hlt : bs.length < (as ++ bs ++ [b]).length := by
        rw [List.length_append, List.length_append, List.length_singleton]
        omega
      refine ⟨(as ++ bs ++ [b])[bs.length], ?_⟩
      rw [List.length_append, List.length_singleton, List.take_succ_eq_append_getElem hlt,
        List.take_append_of_le_length (by simp)]
    have hend : ∀ t', S.Run ((as ++ bs).take bs.length ++ [a]) t' → look b = look a ∧ R s' t' := by
      intro t' ht'
      obtain ⟨t, ht, hstep'⟩ := ht'.of_snoc
      exact hdet (hrel t ht) hstep hstep'
    rw [htake]
    obtain ⟨t', ht'⟩ : ∃ t', S.Run ((as ++ bs).take bs.length ++ [a]) t' := by
      rw [← List.take_append_drop (bs ++ [b]).length (as ++ bs ++ [b]), htake] at h
      exact h.of_append
    refine ⟨?_, fun t' ht' => (hend t' ht').2⟩
    rw [List.map_append, List.map_append, hlook, List.map_singleton, List.map_singleton,
      (hend t' ht').1]

/-- The system of a step function that may fail: a failing step leads
nowhere. -/
def ofStep (init : σ → Prop) (f : σ → α → Except ε σ) : System σ α where
  init := init
  step s a s' := f s a = .ok s'

/-- Computing on from where a run ends prolongs the run. -/
theorem Run.foldlM {init : σ → Prop} {f : σ → α → Except ε σ} {as : List α} :
    ∀ {bs : List α} {s s' : σ}, (ofStep init f).Run bs s → as.foldlM f s = .ok s' →
      (ofStep init f).Run (bs ++ as) s' := by
  induction as with
  | nil =>
    intro bs s s' hrun h
    cases h
    rwa [List.append_nil]
  | cons a as ih =>
    intro bs s s' hrun h
    rw [List.foldlM_cons] at h
    cases ha : f s a with
    | error e => rw [ha] at h; cases h
    | ok s₁ =>
      rw [ha] at h
      rw [List.append_cons]
      exact ih (.snoc hrun ha) h

/-- **Computing along the labels is a run.** -/
theorem run_of_foldlM {s₀ s : σ} {f : σ → α → Except ε σ} {as : List α}
    (h : as.foldlM f s₀ = .ok s) : (ofStep (· = s₀) f).Run as s := by
  have hnil : (ofStep (· = s₀) f).Run [] s₀ := .nil rfl
  exact hnil.foldlM h

end System

/-! ## Computations that may fail -/

/-- `assert`. -/
def assert (p : Prop) [Decidable p] : Option Unit := if p then some () else none

@[simp] theorem assert_eq_some {p : Prop} [Decidable p] {u : Unit} : assert p = some u ↔ p := by
  simp [assert]

theorem assert_of {p : Prop} [Decidable p] (h : p) : assert p = some () :=
  assert_eq_some.mpr h

@[simp] theorem assert_bind_eq_some {α : Type*} {p : Prop} [Decidable p] {f : Unit → Option α}
    {b : α} : (assert p).bind f = some b ↔ p ∧ f () = some b := by
  by_cases h : p
  · simp [assert, h]
  · simp [assert, h]

/-- A loop whose steps succeed and keep what is said of the rest of its list. -/
theorem exists_foldlM {σ α : Type*} {P : σ → List α → Prop} {f : σ → α → Option σ}
    (hstep : ∀ s a l, P s (a :: l) → ∃ s', f s a = some s' ∧ P s' l) :
    ∀ {l : List α} {s : σ}, P s l → ∃ s', l.foldlM f s = some s' ∧ P s' [] := by
  intro l
  induction l with
  | nil => exact fun h => ⟨_, rfl, h⟩
  | cons a l ih =>
    intro s h
    obtain ⟨s₁, hs₁, h₁⟩ := hstep s a l h
    obtain ⟨s', hs', h'⟩ := ih h₁
    exact ⟨s', by rw [List.foldlM_cons, hs₁]; exact hs', h'⟩
