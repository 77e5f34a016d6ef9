import FlexRic.Semantics.Outcome
import Mathlib.Data.List.Forall2
import Mathlib.Data.List.Infix

/-!
# Comparisons that may fail

An equality function that is written out by hand compares one part after the other, leaves at the
first difference, and may stop or fault on its way. It is described by two conditions on what it
compares: on the first it does not come back, and otherwise it answers whether the second holds.
These conditions go along with the code, a conjunction with a conjunction and a loop with the
elements of its arrays.
-/

namespace FlexRic

namespace Outcome

variable {A B : Type} {o o' : Outcome Bool}

/-! ## The code of a comparison -/

/-- A comparison without side effects. -/
def test (p : Prop) [Decidable p] : Outcome Bool := returns (decide p)

/-- `if(first == false) return false;` before the rest, and `first && rest`. -/
def andThen (first rest : Outcome Bool) : Outcome Bool := do
  if ← first then rest else return false

/-- Comparisons one after the other, up to the first that answers false. -/
def allOf : List (Outcome Bool) → Outcome Bool
  | [] => returns true
  | o :: os => andThen o (allOf os)

/-- `for(i = 0; i < len; ++i) if(eq(&a[i], &b[i]) == false) return false;` with the length of the
first array. -/
def eqArray (eq : A → B → Outcome Bool) : List A → List B → Outcome Bool
  | [], _ => returns true
  | _ :: _, [] => faults .pastEnd
  | a :: as, b :: bs => andThen (eq a b) (eqArray eq as bs)

/-- `if(eq == false){ assert(0!=0); return false; }` -/
def orAbort (eq : Outcome Bool) : Outcome Bool := do
  if ← eq then return true else stops

/-- `assert(eq(a, b) == true)`. -/
def assertTrue (eq : Outcome Bool) : Outcome Unit := do
  let ret ← eq
  check (ret = true)

/-- `if(eq) return false;`, the wrong way round. -/
def negate (eq : Outcome Bool) : Outcome Bool := do
  let ret ← eq
  return !ret

/-! ## When the answer is true -/

@[simp] theorem test_eq_true {p : Prop} [Decidable p] : test p = returns true ↔ p := by
  simp [test]

@[simp] theorem andThen_eq_true :
    andThen o o' = returns true ↔ o = returns true ∧ o' = returns true := by
  cases o with
  | returns b => cases b <;> simp [andThen]
  | stops => simp [andThen]
  | faults f => simp [andThen]

@[simp] theorem allOf_nil : allOf [] = returns true := rfl

@[simp] theorem allOf_cons_eq_true {os : List (Outcome Bool)} :
    allOf (o :: os) = returns true ↔ o = returns true ∧ allOf os = returns true :=
  andThen_eq_true

@[simp] theorem orAbort_eq_true : orAbort o = returns true ↔ o = returns true := by
  cases o with
  | returns b => cases b <;> simp [orAbort]
  | stops => simp [orAbort]
  | faults f => simp [orAbort]

theorem assertTrue_bind_eq_returns {k : Unit → Outcome A} {a : A} :
    (assertTrue o >>= k) = returns a ↔ o = returns true ∧ k () = returns a := by
  cases o with
  | returns b => cases b <;> simp [assertTrue, check]
  | stops => simp [assertTrue]
  | faults f => simp [assertTrue]

theorem eqArray_eq_true {eq : A → B → Outcome Bool} {as : List A} {bs : List B}
    (hlen : as.length = bs.length) :
    eqArray eq as bs = returns true ↔ List.Forall₂ (fun a b => eq a b = returns true) as bs := by
  induction as generalizing bs with
  | nil =>
    rw [List.length_nil, eq_comm, List.length_eq_zero_iff] at hlen
    simp [hlen, eqArray]
  | cons a as ih =>
    cases bs with
    | nil => cases hlen
    | cons b bs => rw [eqArray, andThen_eq_true, ih (Nat.succ.inj hlen), List.forall₂_cons]

/-! ## Deciding -/

/-- The comparison comes back, and its answer is whether the condition holds. -/
structure Decides (o : Outcome Bool) (p : Prop) : Prop where
  eq_true : p → o = returns true
  eq_false : ¬p → o = returns false

/-- The comparison does not come back on the first condition, and otherwise decides the second. -/
structure Answers (o : Outcome Bool) (fails alike : Prop) : Prop where
  not_returns : fails → ∀ b, o ≠ returns b
  decides : ¬fails → Decides o alike

variable {p p' fails fails' alike alike' : Prop}

theorem Decides.congr (h : Decides o p) (hp : p ↔ p') : Decides o p' :=
  ⟨fun h' => h.eq_true (hp.2 h'), fun h' => h.eq_false (hp.not.2 h')⟩

theorem Decides.eq_true_iff (h : Decides o p) : o = returns true ↔ p := by
  constructor
  · intro htrue
    by_contra hp
    rw [h.eq_false hp] at htrue
    cases htrue
  · exact h.eq_true

theorem Decides.returns (h : Decides o p) : ∃ b, o = returns b := by
  by_cases hp : p
  · exact ⟨true, h.eq_true hp⟩
  · exact ⟨false, h.eq_false hp⟩

theorem Decides.safe (h : Decides o p) : o.Safe := by
  obtain ⟨b, hb⟩ := h.returns
  rw [hb]
  exact safe_returns b

theorem decides_and_safe_iff : Decides o p ∧ o.Safe ↔ Decides o p :=
  ⟨And.left, fun h => ⟨h, h.safe⟩⟩

/-- Two comparisons that decide the same condition are equal. -/
theorem Decides.unique (h : Decides o p) (h' : Decides o' p) : o = o' := by
  by_cases hp : p
  · rw [h.eq_true hp, h'.eq_true hp]
  · rw [h.eq_false hp, h'.eq_false hp]

theorem Decides.answers (h : Decides o p) : Answers o False p :=
  ⟨False.elim, fun _ => h⟩

theorem Answers.congr (h : Answers o fails alike) (hf : fails ↔ fails') (ha : alike ↔ alike') :
    Answers o fails' alike' :=
  ⟨fun h' => h.not_returns (hf.2 h'), fun h' => (h.decides (hf.not.2 h')).congr ha⟩

/-- A comparison that never fails decides. -/
theorem Answers.decides_of (h : Answers o fails alike) (hf : ¬fails) (ha : alike ↔ p) :
    Decides o p :=
  (h.decides hf).congr ha

/-- A comparison decides another condition if it does not fail and the two conditions agree. -/
theorem Answers.decides_iff (h : Answers o fails alike) :
    Decides o p ↔ ¬fails ∧ (alike ↔ p) := by
  constructor
  · intro hd
    have hf : ¬fails := by
      intro hf
      obtain ⟨b, hb⟩ := hd.returns
      exact h.not_returns hf b hb
    exact ⟨hf, (h.decides hf).eq_true_iff.symm.trans hd.eq_true_iff⟩
  · rintro ⟨hf, ha⟩
    exact h.decides_of hf ha

/-- What is found alike decides a stronger condition if and only if the rest of it always holds. -/
theorem Answers.decides_and_iff (h : Answers o fails alike) :
    Decides o (alike ∧ p) ↔ ¬fails ∧ (alike → p) := by
  rw [h.decides_iff]
  constructor
  · rintro ⟨hfails, hiff⟩
    exact ⟨hfails, fun ha => (hiff.1 ha).2⟩
  · rintro ⟨hfails, himp⟩
    exact ⟨hfails, fun ha => ⟨ha, himp ha⟩, And.left⟩

theorem Answers.decides_false_iff (h : Answers o fails alike) :
    Decides o False ↔ ¬fails ∧ ¬alike := by
  rw [h.decides_iff, iff_false]

theorem Decides.decides_iff (h : Decides o p) : Decides o p' ↔ (p ↔ p') :=
  h.answers.decides_iff.trans (and_iff_right not_false)

theorem Answers.eq_true_iff (h : Answers o fails alike) :
    o = returns true ↔ ¬fails ∧ alike := by
  by_cases hf : fails
  · simp [hf, h.not_returns hf]
  · simp [hf, (h.decides hf).eq_true_iff]

/-! ## Combining -/

theorem decides_test [Decidable p] : Decides (test p) p :=
  ⟨fun h => by simp [h], fun h => by simp [test, h]⟩

theorem decides_true (hp : p) : Decides (Outcome.returns true) p :=
  ⟨fun _ => rfl, fun h => absurd hp h⟩

theorem decides_false (hp : ¬p) : Decides (Outcome.returns false) p :=
  ⟨fun h => absurd h hp, fun _ => rfl⟩

theorem decides_allOf_nil : Decides (allOf []) True := decides_true trivial

/-- The second comparison is reached if the first has found no difference. -/
theorem Answers.andThen (h : Answers o fails alike) (h' : alike → Answers o' fails' alike') :
    Answers (andThen o o') (fails ∨ alike ∧ fails') (alike ∧ alike') := by
  by_cases hf : fails
  · refine ⟨fun _ b hb => ?_, fun hn => absurd (Or.inl hf) hn⟩
    cases o with
    | returns b' => exact h.not_returns hf b' rfl
    | stops => cases hb
    | faults f => cases hb
  · by_cases ha : alike
    · have heq : Outcome.andThen o o' = o' := by
        rw [(h.decides hf).eq_true ha]
        rfl
      rw [heq]
      exact (h' ha).congr (by simp [hf, ha]) (by simp [ha])
    · have heq : Outcome.andThen o o' = Outcome.returns false := by
        rw [(h.decides hf).eq_false ha]
        rfl
      rw [heq]
      exact ⟨fun hn => by simp [hf, ha] at hn, fun _ => ⟨fun hn => absurd hn.1 ha, fun _ => rfl⟩⟩

theorem Decides.andThen (h : Decides o p) (h' : p → Decides o' p') :
    Decides (andThen o o') (p ∧ p') :=
  (h.answers.andThen fun hp => (h' hp).answers).decides_of (by simp) Iff.rfl

theorem Answers.allOf_cons {os : List (Outcome Bool)} (h : Answers o fails alike)
    (h' : alike → Answers (allOf os) fails' alike') :
    Answers (allOf (o :: os)) (fails ∨ alike ∧ fails') (alike ∧ alike') :=
  h.andThen h'

theorem Decides.allOf_cons {os : List (Outcome Bool)} (h : Decides o p)
    (h' : p → Decides (allOf os) p') : Decides (allOf (o :: os)) (p ∧ p') :=
  h.andThen h'

theorem Decides.negate (h : Decides o p) : Decides (negate o) ¬p := by
  constructor
  · intro hn
    rw [h.eq_false hn]
    rfl
  · intro hn
    rw [h.eq_true (not_not.1 hn)]
    rfl

/-- The last comparison. -/
theorem Answers.allOf_singleton (h : Answers o fails alike) : Answers (allOf [o]) fails alike :=
  (h.allOf_cons fun _ => decides_allOf_nil.answers).congr (by rw [and_false, or_false])
    (by rw [and_true])

theorem Decides.allOf_singleton (h : Decides o p) : Decides (allOf [o]) p :=
  h.answers.allOf_singleton.decides_of not_false Iff.rfl

/-! ## Arrays -/

theorem listForall₂_and {r s : A → B → Prop} {as : List A} {bs : List B} :
    List.Forall₂ (fun a b => r a b ∧ s a b) as bs ↔
      List.Forall₂ r as bs ∧ List.Forall₂ s as bs := by
  constructor
  · intro h
    exact ⟨h.imp fun _ _ => And.left, h.imp fun _ _ => And.right⟩
  · rintro ⟨hr, hs⟩
    induction hr with
    | nil => exact .nil
    | cons hhead _ ih =>
      rw [List.forall₂_cons] at hs
      exact .cons ⟨hhead, hs.1⟩ (ih hs.2)

/-- All elements before some place are alike, and there the comparison fails. -/
inductive ReachesFailure (fails alike : A → B → Prop) : List A → List B → Prop where
  | here {a : A} {b : B} {as : List A} {bs : List B} : fails a b →
      ReachesFailure fails alike (a :: as) (b :: bs)
  | later {a : A} {b : B} {as : List A} {bs : List B} : alike a b →
      ReachesFailure fails alike as bs → ReachesFailure fails alike (a :: as) (b :: bs)

theorem reachesFailure_cons {fails alike : A → B → Prop} {a : A} {b : B} {as : List A}
    {bs : List B} :
    ReachesFailure fails alike (a :: as) (b :: bs) ↔
      fails a b ∨ alike a b ∧ ReachesFailure fails alike as bs := by
  constructor
  · intro h
    cases h with
    | here h => exact .inl h
    | later ha h => exact .inr ⟨ha, h⟩
  · rintro (h | ⟨ha, h⟩)
    · exact .here h
    · exact .later ha h

theorem not_reachesFailure {fails alike : A → B → Prop} {as : List A} {bs : List B}
    (h : ∀ a ∈ as, ∀ b ∈ bs, ¬fails a b) : ¬ReachesFailure fails alike as bs := by
  intro hr
  induction hr with
  | here hf => exact h _ List.mem_cons_self _ List.mem_cons_self hf
  | later ha _ ih =>
    apply ih
    intro a hmem b hmem'
    exact h a (List.mem_cons_of_mem _ hmem) b (List.mem_cons_of_mem _ hmem')

/-- The loop over two arrays of the same length fails where the comparison of two elements is the
first to fail, and decides whether the arrays agree element by element. -/
theorem answers_eqArray {eq : A → B → Outcome Bool} {fails alike : A → B → Prop} {as : List A}
    {bs : List B} (hlen : as.length = bs.length)
    (h : ∀ a ∈ as, ∀ b ∈ bs, Answers (eq a b) (fails a b) (alike a b)) :
    Answers (eqArray eq as bs) (ReachesFailure fails alike as bs) (List.Forall₂ alike as bs) := by
  induction as generalizing bs with
  | nil =>
    rw [List.length_nil, eq_comm, List.length_eq_zero_iff] at hlen
    subst hlen
    refine ⟨fun hr => ?_, fun _ => ⟨fun _ => rfl, fun hn => absurd .nil hn⟩⟩
    cases hr
  | cons a as ih =>
    cases bs with
    | nil => cases hlen
    | cons b bs =>
      have hhead := h a List.mem_cons_self b List.mem_cons_self
      have htail := ih (Nat.succ.inj hlen) fun a' ha b' hb =>
        h a' (List.mem_cons_of_mem _ ha) b' (List.mem_cons_of_mem _ hb)
      exact (hhead.andThen fun _ => htail).congr reachesFailure_cons.symm List.forall₂_cons.symm

theorem decides_eqArray {eq : A → B → Outcome Bool} {alike : A → B → Prop} {as : List A}
    {bs : List B} (hlen : as.length = bs.length)
    (h : ∀ a ∈ as, ∀ b ∈ bs, Decides (eq a b) (alike a b)) :
    Decides (eqArray eq as bs) (List.Forall₂ alike as bs) := by
  have hanswers := answers_eqArray hlen fun a ha b hb => (h a ha b hb).answers
  exact hanswers.decides_of (not_reachesFailure fun _ _ _ _ => id) Iff.rfl

/-- The comparison of the lengths, and then a loop that compares element by element. -/
theorem answers_allOf_array {eq : A → A → Outcome Bool} {as bs : List A}
    {rest : List (Outcome Bool)} (heq : ∀ a b, Decides (eq a b) (a = b))
    (hrest : as = bs → Answers (allOf rest) fails alike) :
    Answers (allOf (test (as.length = bs.length) :: eqArray eq as bs :: rest)) (as = bs ∧ fails)
      (as = bs ∧ alike) := by
  have hloop : as.length = bs.length → Decides (eqArray eq as bs) (as = bs) := by
    intro hlen
    refine (decides_eqArray hlen fun a _ b _ => heq a b).congr ?_
    rw [List.forall₂_eq_eq_eq]
  refine (decides_test.answers.allOf_cons fun hlen =>
    (hloop hlen).answers.allOf_cons hrest).congr ?_ ?_
  · rw [false_or, false_or]
    exact and_iff_right_of_imp fun h => congrArg _ h.1
  · exact and_iff_right_of_imp fun h => congrArg _ h.1

theorem decides_allOf_array {eq : A → A → Outcome Bool} {as bs : List A}
    {rest : List (Outcome Bool)} (heq : ∀ a b, Decides (eq a b) (a = b))
    (hrest : as = bs → Decides (allOf rest) p) :
    Decides (allOf (test (as.length = bs.length) :: eqArray eq as bs :: rest)) (as = bs ∧ p) :=
  (answers_allOf_array heq fun h => (hrest h).answers).decides_of And.right Iff.rfl

/-- A loop that makes the same comparison again and again. -/
theorem Answers.allOf_repeat (h : Answers o fails alike) (l : List A) :
    Answers (allOf (o :: l.map fun _ => o)) fails alike := by
  induction l with
  | nil => exact h.allOf_singleton
  | cons a l ih =>
    refine (h.allOf_cons fun _ => ih).congr ?_ (and_self_iff)
    constructor
    · rintro (hf | ⟨-, hf⟩)
      · exact hf
      · exact hf
    · exact .inl

/-- Without a comparison of the lengths, the loop reads past the end of the second array if it is
a proper beginning of the first, and otherwise decides whether the first is a beginning of the
second. -/
theorem answers_eqArray_test [DecidableEq A] (as bs : List A) :
    Answers (eqArray (fun a b => test (a = b)) as bs) (bs <+: as ∧ bs ≠ as) (as <+: bs) := by
  induction as generalizing bs with
  | nil =>
    refine ⟨fun hn => absurd (List.prefix_nil.1 hn.1) hn.2, fun _ => ?_⟩
    exact ⟨fun _ => rfl, fun hn => absurd List.nil_prefix hn⟩
  | cons a as ih =>
    cases bs with
    | nil =>
      refine ⟨fun _ b hb => ?_, fun hn => ?_⟩
      · cases hb
      · exact absurd ⟨List.nil_prefix, (List.cons_ne_nil a as).symm⟩ hn
    | cons b bs =>
      refine (decides_test.answers.andThen fun _ => ih bs).congr ?_ ?_
      · rw [List.cons_prefix_cons, false_or]
        constructor
        · rintro ⟨rfl, hpre, hne⟩
          exact ⟨⟨rfl, hpre⟩, fun heq => hne (List.cons.inj heq).2⟩
        · rintro ⟨⟨rfl, hpre⟩, hne⟩
          exact ⟨rfl, hpre, fun heq => hne (congrArg _ heq)⟩
      · exact List.cons_prefix_cons.symm

/-! ## Comparisons that stop at a difference -/

theorem orAbort_ne_false : orAbort o ≠ returns false := by
  cases o with
  | returns b => cases b <;> simp [orAbort]
  | stops => simp [orAbort]
  | faults f => simp [orAbort]

theorem andThen_ne_false (h : o ≠ returns false) (h' : o' ≠ returns false) :
    andThen o o' ≠ returns false := by
  cases o with
  | returns b =>
    cases b with
    | true => exact h'
    | false => exact absurd rfl h
  | stops => simp [andThen]
  | faults f => simp [andThen]

theorem allOf_ne_false {os : List (Outcome Bool)} (h : ∀ o ∈ os, o ≠ returns false) :
    allOf os ≠ returns false := by
  induction os with
  | nil => simp
  | cons o os ih =>
    obtain ⟨ho, hos⟩ := List.forall_mem_cons.1 h
    exact andThen_ne_false ho (ih hos)

theorem eqArray_ne_false {eq : A → B → Outcome Bool}
    (h : ∀ a b, eq a b ≠ returns false) (as : List A) (bs : List B) :
    eqArray eq as bs ≠ returns false := by
  induction as generalizing bs with
  | nil => simp [eqArray]
  | cons a as ih =>
    cases bs with
    | nil => simp [eqArray]
    | cons b bs => exact andThen_ne_false (h a b) (ih bs)

/-- A comparison that never answers false decides a condition if and only if it holds. -/
theorem decides_iff_of_ne_false (hne : o ≠ Outcome.returns false)
    (htrue : p → o = Outcome.returns true) : Decides o p ↔ p := by
  constructor
  · intro h
    by_contra hn
    exact hne (h.eq_false hn)
  · intro h
    exact ⟨htrue, fun hn => absurd h hn⟩

end Outcome

end FlexRic
