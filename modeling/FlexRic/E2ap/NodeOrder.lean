import FlexRic.AlgDs.Comparators
import FlexRic.E2ap.Types

/-!
# The order of the E2 nodes (`lib/ap/e2ap_types/common/e2ap_global_node_id.c`)

`cmp_global_e2_node_id` compares two monolithic nodes, and two nodes that are CUs or DUs, by their
types first, and all other pairs of nodes by PLMN and `nb_id` only. So it is an order on a set of
nodes exactly if none of them gets between two nodes of another kind whose types are the other way
round.
-/

namespace FlexRic

namespace GlobalE2NodeId

/-- The first two branches: both nodes are monolithic, or both are CUs or DUs. -/
def sameKind (m₀ m₁ : GlobalE2NodeId) : Bool :=
  (m₀.type.isMonolithic && m₁.type.isMonolithic) ||
    ((m₀.type.isCU || m₀.type.isDU) && (m₁.type.isCU || m₁.type.isDU))

/-- The last branch, which is a part of the others: `cmp_plmn` and then `nb_id`. -/
def cmpPlmnNbId : GlobalE2NodeId → GlobalE2NodeId → Ordering :=
  compareLex (fun m₀ m₁ => cmpPlmn m₀.plmn m₁.plmn) fun m₀ m₁ => compareOn nbId m₁ m₀

/-- The `cu_du_id`, where it is compared. -/
def subId (m : GlobalE2NodeId) : UInt64 := if m.type.isMonolithic then 0 else m.cuDuId.getD 0

/-- The first two branches in one. -/
def cmpSameKind : GlobalE2NodeId → GlobalE2NodeId → Ordering :=
  compareLex (fun m₀ m₁ => compareOn (fun m : GlobalE2NodeId => m.type.toNat) m₁ m₀)
    (compareLex cmpPlmnNbId fun m₀ m₁ => compareOn subId m₁ m₀)

theorem cmpGlobalE2NodeId_eq (m₀ m₁ : GlobalE2NodeId) :
    cmpGlobalE2NodeId m₀ m₁ = cmpNear sameKind cmpSameKind cmpPlmnNbId m₀ m₁ := by
  cases hmono : m₀.type.isMonolithic && m₁.type.isMonolithic with
  | true =>
    obtain ⟨h₀, h₁⟩ := Bool.and_eq_true_iff.1 hmono
    have hsub : compareOn subId m₁ m₀ = .eq := by
      simp only [compareOn, subId, h₀, h₁, if_true]
      rfl
    have hsame : sameKind m₀ m₁ = true := by rw [sameKind, hmono, Bool.true_or]
    simp only [cmpGlobalE2NodeId, cmpNear_pos hsame, hmono, if_true, cmpSameKind, cmpPlmnNbId,
      compareLex, hsub, Ordering.then_eq]
  | false =>
    cases hsplit : (m₀.type.isCU || m₀.type.isDU) && (m₁.type.isCU || m₁.type.isDU) with
    | true =>
      obtain ⟨h₀, h₁⟩ := Bool.and_eq_true_iff.1 hsplit
      have hsame : sameKind m₀ m₁ = true := by rw [sameKind, hsplit, Bool.or_true]
      simp only [cmpGlobalE2NodeId, cmpNear_pos hsame, hsplit, if_true, Bool.and_self,
        Bool.false_eq_true, if_false, cmpSameKind, cmpPlmnNbId, compareLex, Ordering.then_assoc,
        compareOn, subId, NgranNode.not_isMonolithic h₀, NgranNode.not_isMonolithic h₁]
    | false =>
      have hsame : sameKind m₀ m₁ = false := by rw [sameKind, hmono, hsplit, Bool.or_false]
      simp only [cmpGlobalE2NodeId, cmpNear_neg hsame, hmono, hsplit, Bool.false_eq_true, if_false,
        cmpPlmnNbId, compareLex]

instance : Std.TransCmp cmpPlmn :=
  inferInstanceAs (Std.TransCmp fun m₀ m₁ => compareLex (compareOn Plmn.mcc)
    (compareLex (compareOn Plmn.mnc) (compareOn Plmn.mncDigitLen)) m₁ m₀)

instance : Std.TransCmp cmpPlmnNbId :=
  have : Std.TransCmp fun m₀ m₁ : GlobalE2NodeId => cmpPlmn m₀.plmn m₁.plmn :=
    transCmp_comap GlobalE2NodeId.plmn
  inferInstanceAs (Std.TransCmp (compareLex _ _))

instance : Std.TransCmp cmpSameKind := inferInstanceAs (Std.TransCmp (compareLex _ _))

/-- A kind is monolithic or not, and no type is of two kinds. -/
theorem nearFacts : NearFacts sameKind cmpSameKind cmpPlmnNbId where
  symm := by
    intro a b
    rw [sameKind, sameKind, Bool.and_comm, Bool.and_comm (a.type.isCU || a.type.isDU)]
  trans := by
    intro a b c hab
    have hkinds : ∀ m : GlobalE2NodeId, m.type.isMonolithic = true →
        (m.type.isCU || m.type.isDU) = false := fun m hm => by
      cases hs : m.type.isCU || m.type.isDU with
      | false => rfl
      | true => rw [NgranNode.not_isMonolithic hs] at hm; cases hm
    rcases Bool.or_eq_true_iff.1 hab with hmono | hsplit
    · obtain ⟨ha, hb⟩ := Bool.and_eq_true_iff.1 hmono
      simp only [sameKind, ha, hb, hkinds a ha, hkinds b hb]
    · obtain ⟨ha, hb⟩ := Bool.and_eq_true_iff.1 hsplit
      simp only [sameKind, ha, hb, NgranNode.not_isMonolithic ha, NgranNode.not_isMonolithic hb]
  coarse_eq := by
    intro a b _ heq
    exact (compareLex_eq_eq.1 (compareLex_eq_eq.1 heq).2).1

/-- What the maps rely on: the equality is an equivalence, and the comparator is a strict total
order on its classes. -/
structure Ordered (N : GlobalE2NodeId → Prop) : Prop where
  eq_refl : ∀ a, N a → eqGlobalE2NodeId a a = true
  eq_symm : ∀ a b, N a → N b → eqGlobalE2NodeId a b = true → eqGlobalE2NodeId b a = true
  eq_trans : ∀ a b c, N a → N b → N c → eqGlobalE2NodeId a b = true →
    eqGlobalE2NodeId b c = true → eqGlobalE2NodeId a c = true
  /-- the comparator is 0 exactly on equal nodes -/
  cmp_eq : ∀ a b, N a → N b → (cmpGlobalE2NodeId a b = .eq ↔ eqGlobalE2NodeId a b = true)
  /-- it answers the other way round when its sides are exchanged -/
  cmp_swap : ∀ a b, N a → N b → cmpGlobalE2NodeId b a = (cmpGlobalE2NodeId a b).swap
  cmp_trans : ∀ a b c, N a → N b → N c → cmpGlobalE2NodeId a b = .lt →
    cmpGlobalE2NodeId b c = .lt → cmpGlobalE2NodeId a c = .lt
  /-- it does not tell equal nodes apart -/
  cmp_congr : ∀ a b c, N a → N b → N c → eqGlobalE2NodeId a b = true →
    cmpGlobalE2NodeId a c = cmpGlobalE2NodeId b c

/-- The type of `x` is greater than that of `y`, or they are CUs or DUs of one type, PLMN and
`nb_id` and the `cu_du_id` of `x` is greater. -/
def Above (x y : GlobalE2NodeId) : Prop :=
  y.type.toNat < x.type.toNat ∨
    (x.type = y.type ∧ cmpPlmnNbId x y = .eq ∧ y.subId < x.subId)

/-- The node `z` gets between two nodes of another kind, of which `x` is above `y`: by PLMN and
`nb_id` it is not smaller than `x` and not greater than `y`. -/
structure Straddled (x y z : GlobalE2NodeId) : Prop where
  kind : sameKind x y = true
  other : sameKind x z = false
  above : Above x y
  lower : (cmpPlmnNbId z x).isLE
  upper : (cmpPlmnNbId y z).isLE

variable {a b c x y z : GlobalE2NodeId} {N : GlobalE2NodeId → Prop}

theorem straddled_iff :
    Straddled x y z ↔ Between3 sameKind cmpSameKind cmpPlmnNbId x y z := by
  have hlt : (cmpPlmnNbId y x).isLE → (cmpSameKind x y = .lt ↔ Above x y) := by
    intro hle
    have hne : cmpPlmnNbId x y ≠ .lt := fun hlt => Std.OrientedCmp.not_isLE_of_lt hlt hle
    simp only [cmpSameKind, compareLex, compareOn, Ordering.then_eq_lt, Above,
      Nat.compare_eq_eq, Std.compare_eq_lt, hne, false_or, NgranNode.toNat_injective.eq_iff,
      @eq_comm _ y.type]
  constructor
  · rintro ⟨hkind, hother, habove, hlower, hupper⟩
    exact ⟨hkind, hother, (hlt (Std.TransCmp.isLE_trans hupper hlower)).2 habove, hupper, hlower⟩
  · rintro ⟨hkind, hother, hxy, hupper, hlower⟩
    exact ⟨hkind, hother, (hlt (Std.TransCmp.isLE_trans hupper hlower)).1 hxy, hlower, hupper⟩

theorem cmpGlobalE2NodeId_eq_cmpNear :
    cmpGlobalE2NodeId = cmpNear sameKind cmpSameKind cmpPlmnNbId := by
  funext a b
  exact cmpGlobalE2NodeId_eq a b

/-- The comparator leads round in a circle. -/
theorem Straddled.circle (h : Straddled x y z) : cmpGlobalE2NodeId x y = .lt ∧
    (cmpGlobalE2NodeId y z).isLE ∧ (cmpGlobalE2NodeId z x).isLE := by
  obtain ⟨hxy, hxz, hlt, hyz, hzx⟩ := straddled_iff.1 h
  have hyz' : sameKind y z = false := (nearFacts.trans hxy).trans hxz
  have hzx' : sameKind z x = false := (nearFacts.symm z x).trans hxz
  rw [cmpGlobalE2NodeId_eq_cmpNear, cmpNear_pos hxy, cmpNear_neg hyz', cmpNear_neg hzx']
  exact ⟨hlt, hyz, hzx⟩

/-- The three nodes are different ones. -/
theorem Straddled.ne (h : Straddled x y z) : z ≠ y ∧ z ≠ x := by
  refine ⟨?_, ?_⟩
  · rintro rfl
    have hother := h.other
    rw [h.kind] at hother
    cases hother
  · rintro rfl
    have hother := h.other
    rw [← nearFacts.trans h.kind, nearFacts.symm, h.kind] at hother
    cases hother

theorem transOn_iff : TransOn cmpGlobalE2NodeId N ↔
    ∀ x y z, N x → N y → N z → ¬Straddled x y z := by
  simp only [cmpGlobalE2NodeId_eq_cmpNear, nearFacts.transOn_iff N, straddled_iff]

theorem Ordered.transOn (h : Ordered N) : TransOn cmpGlobalE2NodeId N := by
  intro a b c ha hb hc hab hbc
  cases hlt : cmpGlobalE2NodeId a b with
  | gt =>
    rw [hlt] at hab
    cases hab
  | eq =>
    rw [h.cmp_congr a b c ha hb hc ((h.cmp_eq a b ha hb).1 hlt)]
    exact hbc
  | lt =>
    cases hlt' : cmpGlobalE2NodeId b c with
    | gt =>
      rw [hlt'] at hbc
      cases hbc
    | lt =>
      rw [h.cmp_trans a b c ha hb hc hlt hlt']
      rfl
    | eq =>
      have hcb := h.cmp_congr b c a hb hc ha ((h.cmp_eq b c hb hc).1 hlt')
      rw [h.cmp_swap c a hc ha, ← hcb, ← h.cmp_swap b a hb ha, hlt]
      rfl

/-- A transitive comparator is an order, as far as the nodes are well formed. -/
theorem ordered_of_transOn (hN : ∀ id, N id → id.WellFormed) (h : TransOn cmpGlobalE2NodeId N) :
    Ordered N := by
  have hcmp : ∀ a b, N a → N b →
      (cmpGlobalE2NodeId a b = .eq ↔ eqGlobalE2NodeId a b = true) := fun a b ha hb =>
    (hN a ha).cmp_eq_iff (hN b hb)
  have hle : ∀ {a b}, cmpGlobalE2NodeId a b = .eq → (cmpGlobalE2NodeId a b).isLE := by
    intro a b heq
    rw [heq]
    rfl
  have htrans : ∀ a b c, N a → N b → N c → cmpGlobalE2NodeId a b = .eq →
      cmpGlobalE2NodeId b c = .eq → cmpGlobalE2NodeId a c = .eq := by
    intro a b c ha hb hc hab hbc
    have hcb := hle (Std.OrientedCmp.eq_symm hbc)
    have hba := hle (Std.OrientedCmp.eq_symm hab)
    exact Std.OrientedCmp.isLE_antisymm (h a b c ha hb hc (hle hab) (hle hbc))
      (h c b a hc hb ha hcb hba)
  refine ⟨fun a ha => (hcmp a a ha ha).1 Std.ReflCmp.compare_self, ?_, ?_, hcmp,
    fun a b _ _ => Std.OrientedCmp.eq_swap, ?_, ?_⟩
  · intro a b _ _ hab
    rw [eqGlobalE2NodeId_comm]
    exact hab
  · intro a b c ha hb hc hab hbc
    exact (hcmp a c ha hc).1
      (htrans a b c ha hb hc ((hcmp a b ha hb).2 hab) ((hcmp b c hb hc).2 hbc))
  · intro a b c ha hb hc hab hbc
    exact h.lt_of_lt_of_isLE ha hb hc hab (by rw [hbc]; rfl)
  · intro a b c ha hb hc hab
    have hab := (hcmp a b ha hb).2 hab
    cases hbc : cmpGlobalE2NodeId b c with
    | lt => exact h.lt_of_isLE_of_lt ha hb hc (hle hab) hbc
    | eq => exact htrans a b c ha hb hc hab hbc
    | gt =>
      have hcb := Std.OrientedCmp.lt_of_gt hbc
      have hba := hle (Std.OrientedCmp.eq_symm hab)
      exact Std.OrientedCmp.gt_of_lt (h.lt_of_lt_of_isLE hc hb ha hcb hba)

/-- On a set of well-formed nodes, the equality is an equivalence and the comparator an order of
its classes exactly if no node gets between two nodes of another kind in this way. -/
theorem ordered_iff_not_straddled (hN : ∀ id, N id → id.WellFormed) :
    Ordered N ↔ ∀ x y z, N x → N y → N z → ¬Straddled x y z :=
  ⟨fun h => transOn_iff.1 h.transOn, fun h => ordered_of_transOn hN (transOn_iff.2 h)⟩

/-- The nodes of one monolithic type. -/
theorem ordered_iff_not_straddled_gNB : Ordered (fun id => id.type = .gNB) := by
  refine (ordered_iff_not_straddled ?_).2 ?_
  · rintro id hid hsplit
    rw [hid] at hsplit
    cases hsplit
  · rintro x y z hx hy hz ⟨-, hother, -, -, -⟩
    rw [sameKind, hx, hz] at hother
    cases hother

/-- A monolithic gNB next to a CU and a DU: the CU is smaller than the DU by its type, and the gNB
is between the DU and the CU by its `nb_id`. -/
theorem not_ordered_circle : ¬Ordered (· ∈ ([⟨.gNB, ⟨208, 95, 2⟩, 15, none⟩,
    ⟨.gNBDU, ⟨208, 95, 2⟩, 9, some 1⟩, ⟨.gNBCU, ⟨208, 95, 2⟩, 20, some 1⟩] :
      List GlobalE2NodeId)) := by
  intro h
  have hcircle := h.cmp_trans ⟨.gNB, ⟨208, 95, 2⟩, 15, none⟩ ⟨.gNBDU, ⟨208, 95, 2⟩, 9, some 1⟩
    ⟨.gNBCU, ⟨208, 95, 2⟩, 20, some 1⟩ (by decide) (by decide) (by decide) (by decide) (by decide)
  revert hcircle
  decide

end GlobalE2NodeId

end FlexRic
