import Mathlib.Data.List.Perm.Basic

/-!
# Machines that answer their operations

A machine has a state and answers operations; an operation may also not be taken. For a program
this is a failing assertion, for a specification a request that nobody has to answer. A program
follows a specification along a sequence of operations if it gives the same answers and its states
correspond to those of the specification all the way.
-/

namespace FlexRic

universe u v w x

/-- A machine with its answers. -/
structure Machine (S : Type u) (Op : Type v) (Ans : Type w) where
  /-- the state before the first operation -/
  init : S
  /-- the answer to an operation and the state after it; `none` is an operation not taken -/
  step : S → Op → Option (Ans × S)

namespace Machine

variable {S : Type u} {T : Type x} {Op : Type v} {Ans : Type w}

/-- From `s` and `t` on, the machine `C` gives the answers of `A` to the operations, as long as `A`
takes them, and the states correspond after each of them. -/
def Follows (C : Machine S Op Ans) (A : Machine T Op Ans) (R : S → T → Prop) :
    S → T → List Op → Prop
  | s, t, [] => R s t
  | s, t, op :: ops => R s t ∧ ∀ ans t', A.step t op = some (ans, t') →
      ∃ s', C.step s op = some (ans, s') ∧ C.Follows A R s' t' ops

/-- The operations that the machine takes, from `t` on, all meet the guard. -/
def Along (A : Machine T Op Ans) (guard : T → Op → Prop) : T → List Op → Prop
  | _, [] => True
  | t, op :: ops => ∀ ans t', A.step t op = some (ans, t') → guard t op ∧ A.Along guard t' ops

/-- The program `C` simulates the specification `A` exactly in the steps that meet the guard. -/
structure Simulates (C : Machine S Op Ans) (A : Machine T Op Ans) (R : S → T → Prop)
    (guard : T → Op → Prop) : Prop where
  init : R C.init A.init
  step : ∀ {s t op ans t'}, R s t → A.step t op = some (ans, t') →
    ((∃ s', C.step s op = some (ans, s') ∧ R s' t') ↔ guard t op)

variable {C : Machine S Op Ans} {A : Machine T Op Ans} {R : S → T → Prop} {guard : T → Op → Prop}

theorem Follows.related {s : S} {t : T} {ops : List Op} (h : C.Follows A R s t ops) : R s t := by
  cases ops with
  | nil => exact h
  | cons op ops => exact h.1

theorem along_true (t : T) (ops : List Op) : A.Along (fun _ _ => True) t ops := by
  induction ops generalizing t with
  | nil => trivial
  | cons op ops ih => exact fun _ t' _ => ⟨trivial, ih t'⟩

/-- A program that simulates its specification in the guarded steps follows it along a sequence of
operations if and only if all of them meet the guard. -/
theorem Simulates.follows_iff (h : C.Simulates A R guard) {s : S} {t : T} (hR : R s t)
    (ops : List Op) : C.Follows A R s t ops ↔ A.Along guard t ops := by
  induction ops generalizing s t with
  | nil => exact ⟨fun _ => trivial, fun _ => hR⟩
  | cons op ops ih =>
    constructor
    · intro hfollows ans t' hA
      obtain ⟨s', hC, hrest⟩ := hfollows.2 ans t' hA
      have hguard := (h.step hR hA).1 ⟨s', hC, hrest.related⟩
      exact ⟨hguard, (ih hrest.related).1 hrest⟩
    · intro halong
      refine ⟨hR, fun ans t' hA => ?_⟩
      obtain ⟨hguard, hrest⟩ := halong ans t' hA
      obtain ⟨s', hC, hR'⟩ := (h.step hR hA).2 hguard
      exact ⟨s', hC, (ih hR').2 hrest⟩

/-- The operations that both machines take, from `s` and `t` on, all meet a guard that looks at the
program too. -/
def AlongBoth (C : Machine S Op Ans) (A : Machine T Op Ans) (guard : S → T → Op → Prop) :
    S → T → List Op → Prop
  | _, _, [] => True
  | s, t, op :: ops => ∀ ans t', A.step t op = some (ans, t') →
      guard s t op ∧ ∀ s', C.step s op = some (ans, s') → C.AlongBoth A guard s' t' ops

/-- The program `C` simulates the specification `A` exactly in the steps that meet a guard that
looks at the program too. -/
structure SimulatesBoth (C : Machine S Op Ans) (A : Machine T Op Ans) (R : S → T → Prop)
    (guard : S → T → Op → Prop) : Prop where
  init : R C.init A.init
  step : ∀ {s t op ans t'}, R s t → A.step t op = some (ans, t') →
    ((∃ s', C.step s op = some (ans, s') ∧ R s' t') ↔ guard s t op)

theorem SimulatesBoth.follows_iff {guard : S → T → Op → Prop} (h : C.SimulatesBoth A R guard)
    {s : S} {t : T} (hR : R s t) (ops : List Op) :
    C.Follows A R s t ops ↔ C.AlongBoth A guard s t ops := by
  induction ops generalizing s t with
  | nil => exact ⟨fun _ => trivial, fun _ => hR⟩
  | cons op ops ih =>
    constructor
    · intro hfollows ans t' hA
      obtain ⟨s', hC, hrest⟩ := hfollows.2 ans t' hA
      refine ⟨(h.step hR hA).1 ⟨s', hC, hrest.related⟩, fun u hu => ?_⟩
      cases hC.symm.trans hu
      exact (ih hrest.related).1 hrest
    · intro halong
      refine ⟨hR, fun ans t' hA => ?_⟩
      obtain ⟨hguard, hrest⟩ := halong ans t' hA
      obtain ⟨s', hC, hR'⟩ := (h.step hR hA).2 hguard
      exact ⟨s', hC, (ih hR').2 (hrest s' hC)⟩

end Machine

/-- A specification that keeps its entries in a list takes one of them out with a filter. -/
theorem perm_cons_filter {E : Type u} {es : List E} {p : E → Bool} {e : E} (hnodup : es.Nodup)
    (he : e ∈ es) (hp : ∀ d ∈ es, p d = false ↔ d = e) : es.Perm (e :: es.filter p) := by
  have hnotin : e ∉ es.filter p := by
    intro hmem
    have hpe := (List.mem_filter.1 hmem).2
    rw [(hp e he).2 rfl] at hpe
    cases hpe
  refine (List.perm_ext_iff_of_nodup hnodup (List.nodup_cons.2 ⟨hnotin, hnodup.filter p⟩)).2 ?_
  intro d
  rw [List.mem_cons, List.mem_filter]
  constructor
  · intro hd
    cases hpd : p d with
    | false => exact .inl ((hp d hd).1 hpd)
    | true => exact .inr ⟨hd, rfl⟩
  · rintro (rfl | ⟨hd, -⟩)
    · exact he
    · exact hd

end FlexRic
