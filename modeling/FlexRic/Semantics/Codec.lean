import Mathlib.Data.Nat.Notation
import Mathlib.Data.List.Forall2
import Mathlib.Data.Option.Basic

/-!
# Encoders and decoders

An encoder and a decoder are functions that may fail, and a value round trips if the encoder
accepts it and the decoder gives it back. A list is coded element by element, so it round trips
exactly if its elements do. An enumeration is coded by the place of the enumerator.
-/

namespace FlexRic

section Assert

variable {A : Type} {p : Prop} [Decidable p]

/-- The program goes on only if the condition holds. -/
def assert (p : Prop) [Decidable p] : Option Unit := if p then some () else none

theorem assert_of (h : p) : assert p = some () := if_pos h

@[simp] theorem assert_true : assert True = some () := rfl

@[simp] theorem assert_false : assert False = none := rfl

@[simp] theorem assert_eq_some {u : Unit} : assert p = some u ↔ p := by
  by_cases h : p <;> simp [assert, h]

@[simp] theorem assert_bind_eq_some {f : Unit → Option A} {a : A} :
    (assert p).bind f = some a ↔ p ∧ f () = some a := by
  by_cases h : p <;> simp [assert, h]

@[simp] theorem assert_isSome : (assert p).isSome ↔ p := by
  by_cases h : p <;> simp [assert, h]

@[simp] theorem assert_bind_isSome {f : Unit → Option A} :
    ((assert p).bind f).isSome ↔ p ∧ (f ()).isSome := by
  by_cases h : p <;> simp [assert, h]

theorem assert_bind_assert {q : Prop} [Decidable q] {f : Unit → Option A} :
    ((assert p).bind fun _ => (assert q).bind f) = (assert (p ∧ q)).bind f := by
  by_cases h : p <;> simp [assert, h]

end Assert

/-- What only builds a value from a part fails where the part does. -/
@[simp] theorem bind_some_isSome {A B : Type} {o : Option A} {f : A → B} :
    (o.bind fun a => some (f a)).isSome = o.isSome := by
  cases o <;> rfl

section RoundTrips

variable {A B : Type} {enc : A → Option B} {dec : B → Option A}

/-- The encoder accepts the value and the decoder gives it back. -/
def RoundTrips (enc : A → Option B) (dec : B → Option A) (a : A) : Prop :=
  (enc a).bind dec = some a

instance [DecidableEq A] (a : A) : Decidable (RoundTrips enc dec a) :=
  inferInstanceAs (Decidable (_ = _))

theorem roundTrips_iff {a : A} {b : B} (h : enc a = some b) :
    RoundTrips enc dec a ↔ dec b = some a := by
  rw [RoundTrips, h, Option.bind_some]

/-- Coding a list is coding its elements. -/
theorem mapM_eq_some_iff {l : List A} {bs : List B} :
    l.mapM enc = some bs ↔ List.Forall₂ (fun a b => enc a = some b) l bs := by
  induction l generalizing bs with
  | nil =>
    rw [List.mapM_nil, List.forall₂_nil_left_iff]
    exact ⟨fun h => (Option.some.inj h).symm, fun h => congrArg some h.symm⟩
  | cons a l ih =>
    rw [List.mapM_cons]
    constructor
    · intro h
      obtain ⟨b, hb, h⟩ := Option.bind_eq_some_iff.1 h
      obtain ⟨bs', hbs, h⟩ := Option.bind_eq_some_iff.1 h
      obtain rfl := Option.some.inj h
      exact .cons hb (ih.1 hbs)
    · intro h
      cases h with
      | cons hb hbs =>
        rw [hb, ih.2 hbs]
        rfl

theorem length_of_mapM {l : List A} {bs : List B} (h : l.mapM enc = some bs) :
    bs.length = l.length :=
  (List.Forall₂.length_eq (mapM_eq_some_iff.1 h)).symm

/-- A list round trips exactly if its elements do. -/
theorem mapM_roundTrips_iff {l : List A} {bs : List B} (h : l.mapM enc = some bs) :
    bs.mapM dec = some l ↔ ∀ a ∈ l, RoundTrips enc dec a := by
  rw [mapM_eq_some_iff] at h ⊢
  induction h with
  | nil => simp
  | cons hb hbs ih => rw [List.forall₂_cons, ih, List.forall_mem_cons, roundTrips_iff hb]

/-- A list round trips if every element that is accepted does. -/
theorem mapM_dec_of {l : List A} {bs : List B} (h : l.mapM enc = some bs)
    (hdec : ∀ a b, enc a = some b → dec b = some a) : bs.mapM dec = some l := by
  rw [mapM_eq_some_iff] at h ⊢
  exact h.flip.imp fun b a hb => hdec a b hb

/-- A list that is coded without assertions. -/
theorem mapM_map_iff {f : A → B} {l : List A} :
    (l.map f).mapM dec = some l ↔ ∀ a ∈ l, dec (f a) = some a := by
  rw [mapM_eq_some_iff, List.forall₂_map_left_iff, List.forall₂_same]

/-- An encoder that accepts the elements accepts the list. -/
theorem mapM_isSome_iff {l : List A} : (l.mapM enc).isSome ↔ ∀ a ∈ l, (enc a).isSome := by
  induction l with
  | nil => simp
  | cons a l ih =>
    rw [List.mapM_cons, List.forall_mem_cons, ← ih]
    cases enc a with
    | none => simp
    | some b => cases l.mapM enc <;> simp

/-- Coding element by element round trips exactly if coding an element does. -/
theorem roundTrips_mapM_iff {l : List A} :
    RoundTrips (List.mapM enc) (List.mapM dec) l ↔ ∀ a ∈ l, RoundTrips enc dec a := by
  constructor
  · intro h
    obtain ⟨bs, henc, hdec⟩ := Option.bind_eq_some_iff.1 h
    exact (mapM_roundTrips_iff henc).1 hdec
  · intro h
    have hsome : (l.mapM enc).isSome := mapM_isSome_iff.2 fun a ha => by
      obtain ⟨b, hb, -⟩ := Option.bind_eq_some_iff.1 (h a ha)
      rw [hb, Option.isSome_some]
    obtain ⟨bs, henc⟩ := Option.isSome_iff_exists.1 hsome
    exact (roundTrips_iff henc).2 ((mapM_roundTrips_iff henc).2 h)

end RoundTrips

/-- The enumerators of an enumeration, in the order of the numbers that stand for them. -/
class Enumeration (E : Type) where
  /-- the enumerators, from `0` on -/
  values : List E
  /-- no enumerator is missing -/
  mem_values : ∀ e, e ∈ values

namespace Enumeration

variable {E : Type} [DecidableEq E] [Enumeration E]

/-- The number of an enumerator. -/
def toNat (e : E) : ℕ := values.idxOf e

/-- The enumerator of a number: no value of the type has a number out of the range. -/
def ofNat (n : ℕ) : Option E := values[n]?

@[simp] theorem ofNat_toNat (e : E) : ofNat (toNat e) = some e := by
  have hlt : values.idxOf e < (values : List E).length := List.idxOf_lt_length_iff.2 (mem_values e)
  rw [ofNat, toNat, List.getElem?_eq_getElem hlt, List.getElem_idxOf]

end Enumeration

end FlexRic
