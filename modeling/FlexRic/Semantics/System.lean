import Mathlib.Data.List.Basic

/-!
# Transition systems with assertions

A system is a state, what its environment and its scheduler may do next (`enabled`) and what the
program then does (`step`), where `none` is a failing assertion. A run is a finite sequence of
steps that went through; `Safe` says that the next one will, whatever it is.
-/

namespace FlexRic

universe u v

/-- A labelled transition system whose steps may fail an assertion. -/
structure System (S : Type u) (A : Type v) where
  /-- the state before the first step -/
  init : S
  /-- what the environment and the scheduler may do next -/
  enabled : S → A → Prop
  /-- what the program does then; `none` is a failing assertion -/
  step : S → A → Option S

namespace System

variable {S : Type u} {A : Type v}

/-- `M.Steps s tr t`: from `s` the system went to `t`. The trace `tr` has every action with the
state in which it was taken, the latest one first. -/
inductive Steps (M : System S A) (s : S) : List (S × A) → S → Prop
  | nil : Steps M s [] s
  | cons {tr : List (S × A)} {t u : S} {a : A} :
      Steps M s tr t → M.enabled t a → M.step t a = some u → Steps M s ((t, a) :: tr) u

/-- A run starts at the initial state. -/
abbrev Run (M : System S A) (tr : List (S × A)) (s : S) : Prop := M.Steps M.init tr s

/-- The states of a sequence of steps, the last one first. -/
def visited (tr : List (S × A)) (s : S) : List S := s :: tr.map Prod.fst

/-- Some run ends in the state. -/
def Reachable (M : System S A) (s : S) : Prop := ∃ tr, M.Run tr s

/-- No assertion fails in the next step. -/
def Safe (M : System S A) (s : S) : Prop := ∀ a, M.enabled s a → M.step s a ≠ none

/-- The system with fewer runs: every step must also satisfy the guard. -/
def restrict (M : System S A) (guard : S → A → Prop) : System S A :=
  { M with enabled := fun s a => M.enabled s a ∧ guard s a }

variable {M : System S A}

theorem Reachable.init : M.Reachable M.init := ⟨[], .nil⟩

theorem Reachable.step {s t : S} {a : A} (hs : M.Reachable s) (he : M.enabled s a)
    (ht : M.step s a = some t) : M.Reachable t := by
  obtain ⟨tr, hrun⟩ := hs
  exact ⟨_, hrun.cons he ht⟩

theorem Steps.trans {s t u : S} {tr tr' : List (S × A)} (h : M.Steps s tr t)
    (h' : M.Steps t tr' u) : M.Steps s (tr' ++ tr) u := by
  induction h' with
  | nil => exact h
  | cons _ he ht ih => exact ih.cons he ht

/-- A step of a sequence cuts it in two. -/
theorem Steps.split {s t u : S} {tr tr' : List (S × A)} {a : A}
    (h : M.Steps s (tr' ++ (t, a) :: tr) u) :
    M.Steps s tr t ∧ M.enabled t a ∧ ∃ v, M.step t a = some v ∧ M.Steps v tr' u := by
  induction tr' generalizing u with
  | nil =>
    cases h with
    | cons hrun he ht => exact ⟨hrun, he, u, ht, .nil⟩
  | cons p tr' ih =>
    cases h with
    | cons hrun he ht =>
      obtain ⟨hrun, hen, v, hv, hrest⟩ := ih hrun
      exact ⟨hrun, hen, v, hv, hrest.cons he ht⟩

/-- One step as a sequence of steps. -/
theorem Steps.single {s t : S} {a : A} (he : M.enabled s a) (ht : M.step s a = some t) :
    M.Steps s [(s, a)] t :=
  Steps.nil.cons he ht

/-- The states in which the actions of a run were taken are reachable. -/
theorem Steps.reachable_of_mem {s t : S} {tr : List (S × A)} (h : M.Steps s tr t)
    (hs : M.Reachable s) : M.Reachable t ∧ ∀ p ∈ tr, M.Reachable p.1 ∧ M.enabled p.1 p.2 := by
  induction h with
  | nil => exact ⟨hs, by simp⟩
  | cons _ he ht ih =>
    refine ⟨ih.1.step he ht, ?_⟩
    intro p hp
    rcases List.mem_cons.1 hp with rfl | hp
    · exact ⟨ih.1, he⟩
    · exact ih.2 p hp

/-- Every state of a run ends a part of it. -/
theorem Steps.of_mem_visited {s t u : S} {tr : List (S × A)} (h : M.Steps s tr t)
    (hu : u ∈ visited tr t) : ∃ tr', M.Steps s tr' u ∧ tr' ⊆ tr := by
  induction h with
  | nil =>
    cases List.mem_singleton.1 hu
    exact ⟨[], .nil, List.nil_subset _⟩
  | cons hrun he ht ih =>
    rcases List.mem_cons.1 hu with rfl | hu
    · exact ⟨_, hrun.cons he ht, List.Subset.refl _⟩
    · obtain ⟨tr', hrun', hsub⟩ := ih hu
      exact ⟨tr', hrun', List.subset_cons_of_subset _ hsub⟩

/-- The step after a state of a run leads to a state of the run. -/
theorem Steps.exists_visited {s t : S} {tr : List (S × A)} (h : M.Steps s tr t) :
    ∀ p ∈ tr, M.enabled p.1 p.2 ∧ ∃ u ∈ visited tr t, M.step p.1 p.2 = some u := by
  induction h with
  | nil => exact fun p hp => absurd hp List.not_mem_nil
  | @cons tr t u a _ he ht ih =>
    intro p hp
    rcases List.mem_cons.1 hp with rfl | hp
    · exact ⟨he, u, List.mem_cons_self, ht⟩
    · obtain ⟨hen, v, hv, hstep⟩ := ih p hp
      exact ⟨hen, v, List.mem_cons_of_mem _ hv, hstep⟩

/-- What holds at the start and is kept by every step holds in every reachable state. -/
theorem Reachable.invariant {P : S → Prop} {s : S} (h : M.Reachable s) (hinit : P M.init)
    (hstep : ∀ s a t, P s → M.enabled s a → M.step s a = some t → P t) : P s := by
  obtain ⟨tr, hrun⟩ := h
  induction hrun with
  | nil => exact hinit
  | cons _ he ht ih => exact hstep _ _ _ ih he ht

/-- A system that can always take a step with less work left comes to the end of its work. -/
theorem exists_steps_of_measure {P Q : S → Prop} {R : A → Prop} (work : S → ℕ)
    (hstep : ∀ s, P s → ¬Q s → ∃ a t, M.enabled s a ∧ M.step s a = some t ∧ R a ∧ P t ∧
      work t < work s) {s : S} (hs : P s) :
    ∃ tr t, M.Steps s tr t ∧ (∀ p ∈ tr, R p.2) ∧ P t ∧ Q t := by
  induction hn : work s using Nat.strongRecOn generalizing s with
  | ind n ih =>
    by_cases hq : Q s
    · exact ⟨[], s, .nil, fun _ hp => absurd hp List.not_mem_nil, hs, hq⟩
    · obtain ⟨a, t, he, ht, hr, hp, hlt⟩ := hstep s hs hq
      obtain ⟨tr, u, hrun, hrest, hu⟩ := ih (work t) (hn ▸ hlt) hp rfl
      refine ⟨tr ++ [(s, a)], u, (Steps.single he ht).trans hrun, fun p hmem => ?_, hu⟩
      rcases List.mem_append.1 hmem with hmem | hmem
      · exact hrest p hmem
      · exact List.mem_singleton.1 hmem ▸ hr

/-- From `s` the actions can be taken one after the other, and lead to `t`. -/
def Sched (M : System S A) : S → List A → S → Prop
  | s, [], t => s = t
  | s, a :: as, t => M.enabled s a ∧ ∃ u, M.step s a = some u ∧ M.Sched u as t

theorem Sched.steps {s t : S} {as : List A} (h : M.Sched s as t) :
    ∃ tr, M.Steps s tr t ∧ tr.map Prod.snd = as.reverse := by
  induction as generalizing s with
  | nil =>
    cases h
    exact ⟨[], .nil, rfl⟩
  | cons a as ih =>
    obtain ⟨he, u, hu, hrest⟩ := h
    obtain ⟨tr, hsteps, hacts⟩ := ih hrest
    refine ⟨tr ++ [(s, a)], (Steps.single he hu).trans hsteps, ?_⟩
    rw [List.map_append, hacts, List.reverse_cons]
    rfl

theorem Sched.append {s t u : S} {as bs : List A} (h : M.Sched s as t) (h' : M.Sched t bs u) :
    M.Sched s (as ++ bs) u := by
  induction as generalizing s with
  | nil =>
    cases h
    exact h'
  | cons a as ih =>
    obtain ⟨he, v, hv, hrest⟩ := h
    exact ⟨he, v, hv, ih hrest⟩

/-- The runs of a restricted system are the runs whose steps all satisfy the guard. -/
theorem steps_restrict {guard : S → A → Prop} {s t : S} {tr : List (S × A)} :
    (M.restrict guard).Steps s tr t ↔ M.Steps s tr t ∧ ∀ p ∈ tr, guard p.1 p.2 := by
  constructor
  · intro h
    induction h with
    | nil => exact ⟨.nil, by simp⟩
    | cons _ he ht ih => exact ⟨ih.1.cons he.1 ht, List.forall_mem_cons.2 ⟨he.2, ih.2⟩⟩
  · rintro ⟨h, hguard⟩
    induction h with
    | nil => exact .nil
    | cons _ he ht ih =>
      obtain ⟨hlast, hrest⟩ := List.forall_mem_cons.1 hguard
      exact (ih hrest).cons ⟨he, hlast⟩ ht

/-- With a weaker guard there are more runs. -/
theorem Steps.restrict_mono {guard guard' : S → A → Prop} {s t : S} {tr : List (S × A)}
    (h : (M.restrict guard).Steps s tr t) (hguard : ∀ s a, guard s a → guard' s a) :
    (M.restrict guard').Steps s tr t := by
  obtain ⟨hsteps, hall⟩ := steps_restrict.1 h
  exact steps_restrict.2 ⟨hsteps, fun p hp => hguard _ _ (hall p hp)⟩

end System

end FlexRic
