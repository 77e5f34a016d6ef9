import FlexRic.AlgDs.AssocRbTree

/-!
# Comparators that look closer at some keys

A comparator that compares keys of one kind by all they have, and keys of different kinds only by
what these kinds share. It is an order unless a key of another kind gets in between.
-/

namespace FlexRic

universe u

variable {K : Type u}

/-- The fine comparator for keys that are near to each other, the coarse one for the others. -/
def cmpNear (near : K → K → Bool) (fine coarse : K → K → Ordering) (a b : K) : Ordering :=
  if near a b then fine a b else coarse a b

/-- The fine comparator has `x` before `y`, and the coarse one does not, for it has `z`, which is
near to neither, between `y` and `x`. -/
def Between3 (near : K → K → Bool) (fine coarse : K → K → Ordering) (x y z : K) : Prop :=
  near x y = true ∧ near x z = false ∧ fine x y = .lt ∧ (coarse y z).isLE ∧ (coarse z x).isLE

variable {near : K → K → Bool} {fine coarse : K → K → Ordering} {a b c : K}

theorem cmpNear_pos (h : near a b = true) : cmpNear near fine coarse a b = fine a b := if_pos h

theorem cmpNear_neg (h : near a b = false) : cmpNear near fine coarse a b = coarse a b := by
  rw [cmpNear, h]
  rfl

/-- What is known of nearness: it is symmetric and transitive, and the coarse comparator does not
tell keys apart that the fine one does not. -/
structure NearFacts (near : K → K → Bool) (fine coarse : K → K → Ordering) : Prop where
  symm : ∀ a b, near a b = near b a
  trans : ∀ {a b c}, near a b = true → near b c = near a c
  coarse_eq : ∀ {a b}, near a b = true → fine a b = .eq → coarse a b = .eq

variable [Std.TransCmp fine] [Std.TransCmp coarse]

omit [Std.TransCmp fine] in
/-- Two keys in fine order, and a third one that the coarse comparator has between them. -/
theorem NearFacts.between (h : NearFacts near fine coarse) (hab : near a b = true)
    (hac : near a c = false) (hfine : (fine a b).isLE) (hbc : (coarse b c).isLE)
    (hca : (coarse c a).isLE) (hne : coarse b c ≠ .eq ∨ coarse c a ≠ .eq) :
    Between3 near fine coarse a b c := by
  refine ⟨hab, hac, ?_, hbc, hca⟩
  cases hlt : fine a b with
  | lt => rfl
  | gt =>
    rw [hlt] at hfine
    cases hfine
  | eq =>
    have hcab : coarse c a = coarse c b := Std.TransCmp.congr_right (h.coarse_eq hab hlt)
    have hcb : (coarse c b).isLE := hcab ▸ hca
    rcases hne with hne | hne
    · exact absurd (Std.OrientedCmp.isLE_antisymm hbc hcb) hne
    · exact absurd (hcab.trans (Std.OrientedCmp.isLE_antisymm hcb hbc)) hne

/-- The comparator is transitive on some keys exactly if no three of them are in such a position. -/
theorem NearFacts.transOn_iff (h : NearFacts near fine coarse) (S : K → Prop) :
    TransOn (cmpNear near fine coarse) S ↔
      ∀ x y z, S x → S y → S z → ¬Between3 near fine coarse x y z := by
  constructor
  · rintro htrans x y z hx hy hz ⟨hxy, hxz, hlt, hyz, hzx⟩
    have hyz' : near y z = false := (h.trans hxy).trans hxz
    have hzx' : near z x = false := (h.symm z x).trans hxz
    have hle := htrans y z x hy hz hx (by rwa [cmpNear_neg hyz']) (by rwa [cmpNear_neg hzx'])
    rw [cmpNear_pos ((h.symm y x).trans hxy), Std.OrientedCmp.gt_of_lt hlt] at hle
    cases hle
  · intro hno a b c ha hb hc hab hbc
    by_contra hac
    -- otherwise the three are in a circle; it has a fine and a coarse comparison
    cases hnab : near a b with
    | true =>
      have hnac : near a c = near b c := (h.trans hnab).symm
      rw [cmpNear_pos hnab] at hab
      cases hnbc : near b c with
      | true =>
        rw [cmpNear_pos hnbc] at hbc
        rw [cmpNear_pos (hnac.trans hnbc)] at hac
        exact hac (Std.TransCmp.isLE_trans hab hbc)
      | false =>
        rw [cmpNear_neg hnbc] at hbc
        rw [cmpNear_neg (hnac.trans hnbc)] at hac
        have hca := Std.OrientedCmp.lt_of_not_isLE hac
        exact hno a b c ha hb hc
          (h.between hnab (hnac.trans hnbc) hab hbc (by simp [hca]) (.inr (by simp [hca])))
    | false =>
      rw [cmpNear_neg hnab] at hab
      cases hnbc : near b c with
      | true =>
        have hnba : near b a = false := (h.symm b a).trans hnab
        have hnac : near a c = false := by
          rw [h.symm, ← h.trans ((h.symm c b).trans hnbc), hnba]
        rw [cmpNear_pos hnbc] at hbc
        rw [cmpNear_neg hnac] at hac
        have hca := Std.OrientedCmp.lt_of_not_isLE hac
        exact hno b c a hb hc ha
          (h.between hnbc hnba hbc (by simp [hca]) hab (.inl (by simp [hca])))
      | false =>
        rw [cmpNear_neg hnbc] at hbc
        cases hnac : near a c with
        | true =>
          rw [cmpNear_pos hnac] at hac
          exact hno c a b hc ha hb ⟨(h.symm c a).trans hnac, (h.symm c b).trans hnbc,
            Std.OrientedCmp.lt_of_not_isLE hac, hab, hbc⟩
        | false =>
          rw [cmpNear_neg hnac] at hac
          exact hac (Std.TransCmp.isLE_trans hab hbc)

end FlexRic
