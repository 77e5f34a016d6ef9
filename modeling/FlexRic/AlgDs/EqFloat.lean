import FlexRic.Semantics.Comparing

/-!
# Comparing floats (`util/alg_ds/alg/eq_float.c`)

The messages hold a `float` as the word of its four bytes; its value and the arithmetic are those
of `Float32` and, where the code computes in `double`, of `Float`. Two floats that C takes for
equal are equal here too, and a NaN stops the comparison.
-/

namespace FlexRic

open Outcome

/-- The conversion from `float` to `double`, which is exact. -/
def widen (x : Float32) : Float :=
  .ofModel <| .pack <| match x.toModel.unpack with
    | .finite sign mantissa exponent _ =>
      Float.Model.UnpackedFloat.round Float.Model.Format.binary64 sign mantissa exponent
    | special => special

/-- `FLT_MIN`, as a `double`. -/
def fltMin : Float := Float.ofBits 0x3810000000000000

/-- `eq_float`. -/
def eqFloat (a b : Float32) (eps : Float) : Outcome Bool := do
  check (a.isNaN = false)
  check (b.isNaN = false)
  check (eps.isNaN = false)
  let absA := a.abs
  let absB := b.abs
  let diff := (widen (a - b)).abs
  if a == b then
    -- infinite case and normal equality
    return true
  else if a == Float32.ofBits 0 || b == Float32.ofBits 0 || diff < fltMin then
    -- `a` or `b` is zero, or they are extremely close to each other
    return decide (diff < eps * fltMin)
  else return decide (diff / widen (absA + absB) < eps)

variable {a b : Float32} {eps : Float}

/-! ## Equality of floats -/

/-- Only a NaN is not equal to itself. -/
theorem float32_beq_self : (a == a) = true ↔ a.isNaN = false := by
  change a.toModel.unpack.beq a.toModel.unpack = true ↔ a.toModel.unpack.isNaN = false
  cases a.toModel.unpack with
  | notANumber =>
    constructor
    · intro h
      cases h
    · intro h
      cases h
  | infinity s => cases s <;> exact ⟨fun _ => rfl, fun _ => rfl⟩
  | zero s => cases s <;> exact ⟨fun _ => rfl, fun _ => rfl⟩
  | finite s m e hm =>
    have heq : (compare e e).then (compare m m) = .eq := by simp
    cases s with
    | positive =>
      change (some ((compare e e).then (compare m m)) == some .eq) = true ↔ false = false
      rw [heq]
      exact ⟨fun _ => rfl, fun _ => rfl⟩
    | negative =>
      change (some ((compare e e).then (compare m m)).swap == some .eq) = true ↔ false = false
      rw [heq]
      exact ⟨fun _ => rfl, fun _ => rfl⟩

/-- `a == b` for the `float`s with these words. -/
def FloatEq (a b : UInt32) : Prop := (Float32.ofBits a == Float32.ofBits b) = true

instance FloatEq.decidable (a b : UInt32) : Decidable (FloatEq a b) :=
  inferInstanceAs (Decidable ((Float32.ofBits a == Float32.ofBits b) = true))

theorem floatEq_self {a : UInt32} : FloatEq a a ↔ (Float32.ofBits a).isNaN = false :=
  float32_beq_self

/-! ## Equality up to a tolerance -/

/-- A comparison that comes back has not met a NaN. -/
theorem isNaN_of_eqFloat {x : Bool} (h : eqFloat a b eps = returns x) :
    a.isNaN = false ∧ b.isNaN = false := by
  by_cases ha : a.isNaN = false
  · by_cases hb : b.isNaN = false
    · exact ⟨ha, hb⟩
    · rw [eqFloat, check, check, if_pos ha, if_neg hb] at h
      cases h
  · rw [eqFloat, check, if_neg ha] at h
    cases h

/-- Floats that C takes for equal are within every tolerance. -/
theorem eqFloat_of_beq (ha : a.isNaN = false) (hb : b.isNaN = false) (heps : eps.isNaN = false)
    (h : (a == b) = true) : eqFloat a b eps = returns true := by
  rw [eqFloat, check, check, check, if_pos ha, if_pos hb, if_pos heps]
  simp only [returns_bind, if_pos h, pure_eq]

/-- A float is within a tolerance of itself if and only if it is no NaN. -/
theorem eqFloat_self (heps : eps.isNaN = false) :
    eqFloat a a eps = returns true ↔ a.isNaN = false :=
  ⟨fun h => (isNaN_of_eqFloat h).1, fun h => eqFloat_of_beq h h heps (float32_beq_self.2 h)⟩

/-- Without a NaN the comparison comes back. -/
theorem decides_eqFloat (ha : a.isNaN = false) (hb : b.isNaN = false) (heps : eps.isNaN = false) :
    Decides (eqFloat a b eps) (eqFloat a b eps = returns true) := by
  have hreturns : ∃ x, eqFloat a b eps = returns x := by
    rw [eqFloat, check, check, check, if_pos ha, if_pos hb, if_pos heps]
    simp only [returns_bind, pure_eq]
    split
    · exact ⟨true, rfl⟩
    · split
      · exact ⟨_, rfl⟩
      · exact ⟨_, rfl⟩
  obtain ⟨x, hx⟩ := hreturns
  rw [hx]
  cases x with
  | true => exact ⟨id, fun h => absurd rfl h⟩
  | false => exact ⟨fun h => h, fun _ => rfl⟩

end FlexRic
