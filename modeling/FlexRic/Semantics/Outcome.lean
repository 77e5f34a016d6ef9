import FlexRic.Semantics.Codec

/-!
# Outcomes of code that may touch what is not there

A function returns, stops at one of its own checks, or touches memory that is not its own: it reads
past the end of an array, goes through a pointer that was never set, or reads a structure of
another type. What the last kind of run does is undefined; a run is safe if it is of one of the
first two kinds. Forgetting how a run fails gives back a function that may fail.
-/

namespace FlexRic

universe u

/-- How a run touches what is not there. -/
inductive Fault : Type where
  /-- it reads or writes past the end of an array -/
  | pastEnd
  /-- it goes through a pointer that was not set -/
  | unset
  /-- it reads one structure as another -/
  | misread
  deriving DecidableEq, Repr

/-- What comes of a run. -/
inductive Outcome (A : Type u) : Type u where
  | returns (a : A)
  | stops
  | faults (f : Fault)
  deriving DecidableEq, Repr

namespace Outcome

variable {A B C : Type}

/-- Go on with the result. -/
protected def bind (o : Outcome A) (k : A → Outcome B) : Outcome B :=
  match o with
  | returns a => k a
  | stops => stops
  | faults f => faults f

instance : Monad Outcome where
  pure := returns
  bind := Outcome.bind

protected theorem id_map (o : Outcome A) : id <$> o = o := by
  cases o <;> rfl

protected theorem bind_assoc (o : Outcome A) (k : A → Outcome B) (l : B → Outcome C) :
    o >>= k >>= l = o >>= fun a => k a >>= l := by
  cases o <;> rfl

instance : LawfulMonad Outcome :=
  LawfulMonad.mk' Outcome Outcome.id_map (fun _ _ => rfl) Outcome.bind_assoc

/-- The program goes on only if the condition holds. -/
def check (p : Prop) [Decidable p] : Outcome Unit := if p then returns () else stops

/-- The program goes on only if there is a value. -/
def orStop : Option A → Outcome A
  | some a => returns a
  | none => stops

/-- The program goes on in any case, whether there is a value or not. -/
def orFault (f : Fault) : Option A → Outcome A
  | some a => returns a
  | none => faults f

/-- Read an element of an array. -/
def read (l : List A) (i : ℕ) : Outcome A := orFault .pastEnd l[i]?

/-- The run touches only what is there. -/
def Safe (o : Outcome A) : Prop := ∀ f, o ≠ faults f

/-- The result, if there is one. -/
def toOption : Outcome A → Option A
  | returns a => some a
  | _ => none

variable {p : Prop} [Decidable p] {o : Outcome A} {k : A → Outcome B} {f : Fault}

@[simp] theorem pure_eq (a : A) : (pure a : Outcome A) = returns a := rfl

@[simp] theorem returns_bind (a : A) (k : A → Outcome B) : returns a >>= k = k a := rfl

@[simp] theorem stops_bind (k : A → Outcome B) : (stops : Outcome A) >>= k = stops := rfl

@[simp] theorem faults_bind (k : A → Outcome B) : (faults f : Outcome A) >>= k = faults f := rfl

/-! ## Safe runs -/

@[simp] theorem safe_returns (a : A) : (returns a).Safe := by simp [Safe]

@[simp] theorem safe_stops : (stops : Outcome A).Safe := by simp [Safe]

@[simp] theorem not_safe_faults : ¬(faults f : Outcome A).Safe := by simp [Safe]

theorem safe_bind : (o >>= k).Safe ↔ o.Safe ∧ ∀ a, o = returns a → (k a).Safe := by
  cases o <;> simp

@[simp] theorem safe_check : (check p).Safe := by
  by_cases h : p <;> simp [check, h]

@[simp] theorem safe_orStop (a : Option A) : (orStop a).Safe := by
  cases a <;> simp [orStop]

@[simp] theorem safe_orFault {a : Option A} : (orFault f a).Safe ↔ a.isSome := by
  cases a <;> simp [orFault]

@[simp] theorem safe_check_bind {k : Unit → Outcome B} :
    (check p >>= k).Safe ↔ (p → (k ()).Safe) := by
  by_cases h : p <;> simp [check, h]

@[simp] theorem safe_orStop_bind {a : Option A} :
    (orStop a >>= k).Safe ↔ ∀ b, a = some b → (k b).Safe := by
  cases a <;> simp [orStop]

@[simp] theorem safe_orFault_bind {a : Option A} :
    (orFault f a >>= k).Safe ↔ ∃ b, a = some b ∧ (k b).Safe := by
  cases a <;> simp [orFault]

theorem Safe.bind (h : o.Safe) (hk : ∀ a, (k a).Safe) : (o >>= k).Safe :=
  safe_bind.2 ⟨h, fun a _ => hk a⟩

/-- A loop is safe if its turns are. -/
theorem safe_mapM {g : A → Outcome B} {l : List A} (h : ∀ a ∈ l, (g a).Safe) :
    (l.mapM g).Safe := by
  induction l with
  | nil => exact safe_returns _
  | cons a l ih =>
    rw [List.mapM_cons]
    obtain ⟨ha, hl⟩ := List.forall_mem_cons.1 h
    exact ha.bind fun _ => (ih hl).bind fun _ => safe_returns _

/-- A loop is safe if its turns are, whatever they start with. -/
theorem safe_foldlM {g : B → A → Outcome B} {l : List A} (h : ∀ b, ∀ a ∈ l, (g b a).Safe)
    (b : B) : (l.foldlM g b).Safe := by
  induction l generalizing b with
  | nil => exact safe_returns _
  | cons a l ih =>
    rw [List.foldlM_cons]
    exact (h b a List.mem_cons_self).bind
      (ih fun b a ha => h b a (List.mem_cons_of_mem _ ha))

/-! ## Results -/

@[simp] theorem toOption_returns (a : A) : (returns a).toOption = some a := rfl

@[simp] theorem toOption_stops : (stops : Outcome A).toOption = none := rfl

@[simp] theorem toOption_faults : (faults f : Outcome A).toOption = none := rfl

theorem toOption_eq_some {a : A} : o.toOption = some a ↔ o = returns a := by
  cases o <;> simp

@[simp] theorem toOption_bind (o : Outcome A) (k : A → Outcome B) :
    (o >>= k).toOption = o.toOption.bind fun a => (k a).toOption := by
  cases o <;> rfl

@[simp] theorem toOption_check : (check p).toOption = assert p := by
  by_cases h : p <;> simp [check, h]

@[simp] theorem toOption_orStop (a : Option A) : (orStop a).toOption = a := by
  cases a <;> rfl

@[simp] theorem toOption_orFault (a : Option A) : (orFault f a).toOption = a := by
  cases a <;> rfl

@[simp] theorem toOption_read (l : List A) (i : ℕ) : (read l i).toOption = l[i]? :=
  toOption_orFault _

theorem bind_eq_returns {b : B} : o >>= k = returns b ↔ ∃ a, o = returns a ∧ k a = returns b := by
  cases o <;> simp

@[simp] theorem check_eq_returns {u : Unit} : check p = returns u ↔ p := by
  by_cases h : p <;> simp [check, h]

theorem check_bind_eq_returns {k : Unit → Outcome B} {b : B} :
    check p >>= k = returns b ↔ p ∧ k () = returns b := by
  by_cases h : p <;> simp [check, h]

/-- What a loop that fills an array comes back with. -/
theorem mapM_eq_returns {g : A → Outcome B} {l : List A} {bs : List B} :
    l.mapM g = returns bs ↔ List.Forall₂ (fun a b => g a = returns b) l bs := by
  induction l generalizing bs with
  | nil => simp [eq_comm]
  | cons a l ih =>
    rw [List.mapM_cons, bind_eq_returns, List.forall₂_cons_left_iff]
    constructor
    · rintro ⟨b, ha, h⟩
      obtain ⟨bs', hl, hbs⟩ := bind_eq_returns.1 h
      cases hbs
      exact ⟨b, bs', ha, ih.1 hl, rfl⟩
    · rintro ⟨b, bs', ha, hl, rfl⟩
      exact ⟨b, ha, bind_eq_returns.2 ⟨bs', ih.2 hl, rfl⟩⟩

/-- A loop that copies each element as it is. -/
theorem mapM_eq_self {cp : A → Outcome A} {l : List A} (h : ∀ a ∈ l, cp a = returns a) :
    l.mapM cp = returns l :=
  mapM_eq_returns.2 (List.forall₂_same.2 h)

/-- A loop of checks comes back if and only if every check does. -/
theorem forM_eq_returns {g : A → Outcome Unit} {l : List A} :
    l.forM g = returns () ↔ ∀ a ∈ l, g a = returns () := by
  induction l with
  | nil => exact iff_of_true rfl fun a ha => absurd ha List.not_mem_nil
  | cons a l ih =>
    change (g a >>= fun _ => l.forM g) = returns () ↔ _
    rw [bind_eq_returns, List.forall_mem_cons]
    constructor
    · rintro ⟨u, ha, hl⟩
      exact ⟨ha, ih.1 hl⟩
    · rintro ⟨ha, hl⟩
      exact ⟨(), ha, ih.2 hl⟩

theorem toOption_mapM (g : A → Outcome B) (l : List A) :
    (l.mapM g).toOption = l.mapM fun a => (g a).toOption := by
  induction l with
  | nil => rfl
  | cons a l ih =>
    rw [List.mapM_cons, List.mapM_cons, toOption_bind]
    refine congrArg (Option.bind _) (funext fun b => ?_)
    rw [toOption_bind, ih]
    rfl

theorem toOption_foldlM (g : B → A → Outcome B) (l : List A) (b : B) :
    (l.foldlM g b).toOption = l.foldlM (fun b a => (g b a).toOption) b := by
  induction l generalizing b with
  | nil => rfl
  | cons a l ih =>
    rw [List.foldlM_cons, List.foldlM_cons, toOption_bind]
    exact congrArg (Option.bind _) (funext fun b => ih b)

/-! ## Loops over an array -/

/-- A loop over places of an array. -/
def loop (places : List ℕ) (l : List A) (g : B → A → Outcome B) (b : B) : Outcome B :=
  places.foldlM (fun b i => read l i >>= g b) b

/-- A loop over places that are there is a loop over what is there. -/
theorem loop_eq_foldlM {places : List ℕ} {l as : List A} {g : B → A → Outcome B}
    (h : List.Forall₂ (fun i a => l[i]? = some a) places as) (b : B) :
    loop places l g b = as.foldlM g b := by
  induction h generalizing b with
  | nil => rfl
  | @cons i a places as hi h ih =>
    rw [loop, List.foldlM_cons, List.foldlM_cons, read, hi, orFault, returns_bind]
    exact congrArg (Outcome.bind _) (funext ih)

theorem forall₂_range (l : List A) :
    List.Forall₂ (fun i a => l[i]? = some a) (List.range l.length) l := by
  rw [List.forall₂_iff_get]
  refine ⟨List.length_range, fun i _ hi => ?_⟩
  simp [hi]

/-- The loop `while (i < count)` from a place on. -/
theorem loop_up (k : ℕ) (l : List A) (g : B → A → Outcome B) (b : B) :
    loop ((List.range l.length).drop k) l g b = (l.drop k).foldlM g b :=
  loop_eq_foldlM (List.forall₂_drop k (forall₂_range l)) b

/-- The loop from `count - 1` down to a place. -/
theorem loop_down (k : ℕ) (l : List A) (g : B → A → Outcome B) (b : B) :
    loop ((List.range l.length).drop k).reverse l g b = (l.drop k).reverse.foldlM g b :=
  loop_eq_foldlM (List.rel_reverse (List.forall₂_drop k (forall₂_range l))) b

/-! ## Filling an array -/

/-- The loop `for (j = 0; j < count; j++) f(&array[j], list[j])`. -/
def fillArray (f : A → B → Outcome A) : List A → List B → Outcome (List A)
  | array, [] => returns array
  | [], _ :: _ => faults .pastEnd
  | a :: array, b :: list => do
    let a' ← f a b
    let array' ← fillArray f array list
    returns (a' :: array')

/-- What the loop leaves at the first places of an array of equal elements: it fills them one by
one, if there are enough of them. -/
theorem take_fillArray_replicate (f : A → B → Outcome A) (a : A) (list : List B) (n : ℕ) :
    (fillArray f (List.replicate n a) list).toOption.map (List.take list.length) =
      if list.length ≤ n then list.mapM fun b => (f a b).toOption else none := by
  induction list generalizing n with
  | nil => cases n <;> simp [fillArray, List.replicate_succ]
  | cons b list ih =>
    cases n with
    | zero => simp [fillArray]
    | succ n =>
      have hmap : (fillArray f (List.replicate (n + 1) a) (b :: list)).toOption.map
          (List.take (b :: list).length) = (f a b).toOption.bind fun a' =>
            ((fillArray f (List.replicate n a) list).toOption.map (List.take list.length)).bind
              fun as => some (a' :: as) := by
        rw [List.replicate_succ, fillArray, toOption_bind]
        cases (f a b).toOption with
        | none => rfl
        | some a' =>
          cases fillArray f (List.replicate n a) list <;> rfl
      have hle : (b :: list).length ≤ n + 1 ↔ list.length ≤ n := Nat.succ_le_succ_iff
      rw [hmap, ih]
      by_cases hlen : list.length ≤ n
      · rw [if_pos hlen, if_pos (hle.2 hlen), List.mapM_cons]
        rfl
      · rw [if_neg hlen, if_neg (hle.not.2 hlen)]
        cases (f a b).toOption <;> rfl

end Outcome

/-! ## Reading by place -/

section CutShort

variable {A : Type}

/-- The list ends at a place that is read when all the elements before it have passed their
checks. -/
def CutShort : List (A → Prop) → List A → Prop
  | _, [] => True
  | [], _ :: _ => False
  | c :: cs, a :: l => c a ∧ CutShort cs l

/-- A list that goes on behind the checks is not cut short. -/
theorem not_cutShort_of_lt {cs : List (A → Prop)} {l : List A} (h : cs.length < l.length) :
    ¬CutShort cs l := by
  induction cs generalizing l with
  | nil =>
    cases l with
    | nil => exact absurd h (Nat.lt_irrefl _)
    | cons a l => exact id
  | cons c cs ih =>
    cases l with
    | nil => exact absurd h (Nat.not_lt_zero _)
    | cons a l => exact fun hcut => ih (Nat.lt_of_succ_lt_succ h) hcut.2

end CutShort

end FlexRic
