import Mathlib.Algebra.Group.Nat.Defs
import Mathlib.Data.List.Nodup
import Mathlib.Order.Basic

/-!
# E2AP data (`lib/ap/e2ap_types`, `lib/pending_events.h`, `lib/ep/sctp_msg.h`)

The ids, keys and messages that the handlers read. The comparators are those of the C code, with
`1` for "the first goes to the left" as `Ordering.lt`; the comparators of `global_e2_node_id_t`
and of `e2_node_ric_req_t` answer `-1` there, so they appear here with the sides exchanged.
-/

namespace FlexRic

/-- Comparing by a key keeps a comparator transitive. -/
theorem transCmp_comap {A B : Type} {cmp : B → B → Ordering} [Std.TransCmp cmp] (f : A → B) :
    Std.TransCmp fun a b => cmp (f a) (f b) where
  eq_swap := Std.OrientedCmp.eq_swap
  isLE_trans := Std.TransCmp.isLE_trans

/-- A file descriptor. -/
abbrev Fd : Type := ℕ

/-- `cmp_fd`. -/
def cmpFd : Fd → Fd → Ordering := compareOn id

instance : Std.TransCmp cmpFd := inferInstanceAs (Std.TransCmp (compareOn id))

instance : Std.LawfulEqCmp cmpFd where
  eq_of_compare := by
    intro a b h
    have hnat : compare (id a) (id b) = .eq := h
    exact Std.LawfulEqOrd.compare_eq_iff_eq.1 hnat

/-- Among elements with different keys, one is taken out by its key. -/
theorem filter_key_perm {A B : Type} [DecidableEq B] (f : A → B) {l : List A} {a : A}
    (hnodup : (l.map f).Nodup) (ha : a ∈ l) : l.Perm (a :: l.filter fun b => f b ≠ f a) := by
  obtain ⟨before, after, rfl⟩ := List.append_of_mem ha
  have hperm := (@List.perm_middle _ a before after).map f
  obtain ⟨hfresh, -⟩ := List.nodup_cons.1 (hperm.nodup_iff.1 hnodup)
  have hkeep : (before ++ after).filter (fun b => f b ≠ f a) = before ++ after := by
    apply List.filter_eq_self.2
    intro b hb
    apply decide_eq_true
    intro heq
    exact hfresh (List.mem_map.2 ⟨b, hb, heq⟩)
  have hfilter := (@List.perm_middle _ a before after).filter fun b => f b ≠ f a
  rw [List.filter_cons_of_neg (by simp), hkeep] at hfilter
  exact List.perm_middle.trans (hfilter.symm.cons a)

/-- Among elements with different keys, one is found by its key. -/
theorem find_key_eq_some {A B : Type} [DecidableEq B] (f : A → B) {l : List A} {a : A}
    (hnodup : (l.map f).Nodup) (ha : a ∈ l) : (l.find? fun b => f b = f a) = some a := by
  obtain ⟨b, hb⟩ := Option.isSome_iff_exists.1
    (List.find?_isSome.2 ⟨a, ha, decide_eq_true rfl⟩ : (l.find? fun b => f b = f a).isSome)
  have hkey : f b = f a := by simpa using List.find?_some hb
  rw [hb, List.inj_on_of_nodup_map hnodup (List.mem_of_find?_eq_some hb) ha hkey]

/-- The element with a key does not depend on the order. -/
theorem find_key_perm {A B : Type} [DecidableEq B] (f : A → B) {l l' : List A}
    (hnodup : (l.map f).Nodup) (hperm : l.Perm l') (b : B) :
    (l.find? fun a => f a = b) = l'.find? fun a => f a = b := by
  cases ha : l'.find? fun a => f a = b with
  | none =>
    rw [List.find?_eq_none] at ha ⊢
    exact fun a hmem => ha a (hperm.mem_iff.1 hmem)
  | some a =>
    have hkey : f a = b := by simpa using List.find?_some ha
    subst hkey
    exact find_key_eq_some f hnodup (hperm.mem_iff.2 (List.mem_of_find?_eq_some ha))

/-- Taking one timer out of the epoll instance takes it out of the armed timers. -/
theorem filter_erase_perm {A : Type} {io : List Fd} {ts ts' : List (Fd × A)} {t : Fd × A}
    {e : Fd} (hnodup : io.Nodup) (hio : io.Perm (ts.map Prod.fst ++ [e]))
    (hts : ts.Perm (t :: ts')) :
    (ts.filter fun t' => t'.1 ∈ io.erase t.1).Perm ts' ∧
      (io.erase t.1).Perm (ts'.map Prod.fst ++ [e]) := by
  have hio' : io.Perm (t.1 :: (ts'.map Prod.fst ++ [e])) :=
    hio.trans ((hts.map Prod.fst).append_right [e])
  have herase : (io.erase t.1).Perm (ts'.map Prod.fst ++ [e]) := by
    simpa using hio'.erase t.1
  have hfresh : t.1 ∉ io.erase t.1 := fun h => (List.Nodup.mem_erase_iff hnodup).1 h |>.1 rfl
  refine ⟨?_, herase⟩
  have hfilter := hts.filter fun t' => t'.1 ∈ io.erase t.1
  rw [List.filter_cons_of_neg (by simpa using hfresh)] at hfilter
  refine hfilter.trans (.of_eq (List.filter_eq_self.2 ?_))
  intro t' ht'
  exact decide_eq_true (herase.mem_iff.2 (List.mem_append_left _ (List.mem_map_of_mem ht')))

/-! ## Pending events -/

/-- `pending_event_t`. -/
inductive PendingEvent : Type where
  | setupRequest
  | subscriptionRequest
  | subscriptionDeleteRequest
  | controlRequest
  | e42SetupRequest
  | e42RicSubscriptionRequest
  | ricSubscriptionDeleteRequest
  | e42RicSubscriptionDeleteRequest
  | e42RicControlRequest
  deriving DecidableEq, Repr

/-- The value of the enumerator. -/
def PendingEvent.toNat : PendingEvent → ℕ
  | setupRequest => 0
  | subscriptionRequest => 1
  | subscriptionDeleteRequest => 2
  | controlRequest => 3
  | e42SetupRequest => 4
  | e42RicSubscriptionRequest => 5
  | ricSubscriptionDeleteRequest => 6
  | e42RicSubscriptionDeleteRequest => 7
  | e42RicControlRequest => 8

theorem PendingEvent.toNat_injective : Function.Injective PendingEvent.toNat := by
  intro a b h
  cases a <;> cases b <;> first | rfl | cases h

/-- `cmp_pending_event`. -/
def cmpPendingEvent : PendingEvent → PendingEvent → Ordering := compareOn PendingEvent.toNat

instance : Std.TransCmp cmpPendingEvent :=
  inferInstanceAs (Std.TransCmp (compareOn PendingEvent.toNat))

instance : Std.LawfulEqCmp cmpPendingEvent where
  eq_of_compare := by
    intro a b h
    have hnat : compare a.toNat b.toNat = .eq := h
    exact PendingEvent.toNat_injective (Std.LawfulEqOrd.compare_eq_iff_eq.1 hnat)

/-! ## Request ids -/

/-- `ric_gen_id_t`. -/
structure RicGenId : Type where
  ricReqId : UInt32
  ricInstId : UInt16
  ranFuncId : UInt16
  deriving DecidableEq, Repr

/-- `cmp_ric_gen_id`. -/
def cmpRicGenId : RicGenId → RicGenId → Ordering :=
  compareLex (compareOn RicGenId.ranFuncId)
    (compareLex (compareOn RicGenId.ricInstId) (compareOn RicGenId.ricReqId))

instance : Std.TransCmp cmpRicGenId := inferInstanceAs (Std.TransCmp (compareLex _ _))

instance : Std.LawfulEqCmp cmpRicGenId where
  eq_of_compare := by
    rintro ⟨a₁, a₂, a₃⟩ ⟨b₁, b₂, b₃⟩ h
    simp only [cmpRicGenId, compareLex_eq_eq, compareOn, Std.LawfulEqOrd.compare_eq_iff_eq] at h
    obtain ⟨rfl, rfl, rfl⟩ := h
    rfl

/-- `*(uint16_t*)&id.ric_req_id = v` on a little-endian machine: only the low half changes. -/
def RicGenId.setReqIdLow (id : RicGenId) (v : UInt16) : RicGenId :=
  { id with ricReqId := UInt32.ofNat (id.ricReqId.toNat / 2 ^ 16 * 2 ^ 16 + v.toNat) }

@[simp] theorem RicGenId.setReqIdLow_ricInstId (id : RicGenId) (v : UInt16) :
    (id.setReqIdLow v).ricInstId = id.ricInstId := by
  rw [setReqIdLow]

@[simp] theorem RicGenId.setReqIdLow_ranFuncId (id : RicGenId) (v : UInt16) :
    (id.setReqIdLow v).ranFuncId = id.ranFuncId := by
  rw [setReqIdLow]

@[simp] theorem RicGenId.setReqIdLow_low (id : RicGenId) (v : UInt16) :
    (id.setReqIdLow v).ricReqId.toUInt16 = v := by
  apply UInt16.toNat_inj.1
  rw [setReqIdLow, UInt32.toNat_toUInt16, UInt32.toNat_ofNat', Nat.mod_mod_of_dvd _ (by decide)]
  exact Nat.mul_add_mod_of_lt v.toNat_lt

/-- `xapp_ric_id_t`. -/
structure XappRicId : Type where
  ricId : RicGenId
  xappId : UInt16
  deriving DecidableEq, Repr

/-- `cmp_xapp_ric_gen_id`. -/
def cmpXappRicGenId : XappRicId → XappRicId → Ordering :=
  compareLex (compareOn XappRicId.xappId) fun m₀ m₁ => cmpRicGenId m₀.ricId m₁.ricId

/-- `pending_event_ric_t`: what a timer of the near-RIC waits for. -/
structure PendingEventRic : Type where
  ev : PendingEvent
  id : RicGenId
  deriving DecidableEq, Repr

/-- `cmp_pending_event_ric`: `cmp_pending_event` reads the first member, the event kind. -/
def cmpPendingEventRic : PendingEventRic → PendingEventRic → Ordering :=
  compareLex (fun p₁ p₂ => cmpPendingEvent p₁.ev p₂.ev) fun p₁ p₂ => cmpRicGenId p₁.id p₂.id

instance : Std.TransCmp cmpXappRicGenId :=
  have : Std.TransCmp fun m₀ m₁ : XappRicId => cmpRicGenId m₀.ricId m₁.ricId :=
    transCmp_comap XappRicId.ricId
  inferInstanceAs (Std.TransCmp (compareLex _ _))

instance : Std.TransCmp cmpPendingEventRic :=
  have : Std.TransCmp fun p₁ p₂ : PendingEventRic => cmpPendingEvent p₁.ev p₂.ev :=
    transCmp_comap PendingEventRic.ev
  have : Std.TransCmp fun p₁ p₂ : PendingEventRic => cmpRicGenId p₁.id p₂.id :=
    transCmp_comap PendingEventRic.id
  inferInstanceAs (Std.TransCmp (compareLex _ _))

instance : Std.LawfulEqCmp cmpPendingEventRic where
  eq_of_compare := by
    rintro ⟨a₁, a₂⟩ ⟨b₁, b₂⟩ h
    simp only [cmpPendingEventRic, compareLex_eq_eq, Std.LawfulEqCmp.compare_eq_iff_eq] at h
    obtain ⟨rfl, rfl⟩ := h
    rfl

/-! ## E2 nodes -/

/-- `plmn_t`. -/
structure Plmn : Type where
  mcc : UInt16
  mnc : UInt16
  mncDigitLen : UInt8
  deriving DecidableEq, Repr

/-- `cmp_plmn`, with the sides exchanged: it answers `-1` for smaller. -/
def cmpPlmn (m₀ m₁ : Plmn) : Ordering :=
  compareLex (compareOn Plmn.mcc) (compareLex (compareOn Plmn.mnc) (compareOn Plmn.mncDigitLen))
    m₁ m₀

/-- `ngran_node_t`. -/
inductive NgranNode : Type where
  | eNB
  | ngENB
  | gNB
  | eNBCU
  | ngENBCU
  | gNBCU
  | eNBDU
  | gNBDU
  | eNBMBMSSTA
  deriving DecidableEq, Repr

namespace NgranNode

/-- The value of the enumerator. -/
def toNat : NgranNode → ℕ
  | eNB => 0
  | ngENB => 1
  | gNB => 2
  | eNBCU => 3
  | ngENBCU => 4
  | gNBCU => 5
  | eNBDU => 6
  | gNBDU => 7
  | eNBMBMSSTA => 8

/-- `NODE_IS_MONOLITHIC`. -/
def isMonolithic (t : NgranNode) : Bool := t = eNB || t = ngENB || t = gNB

/-- `NODE_IS_CU`. -/
def isCU (t : NgranNode) : Bool := t = eNBCU || t = ngENBCU || t = gNBCU

/-- `NODE_IS_DU`. -/
def isDU (t : NgranNode) : Bool := t = eNBDU || t = gNBDU

end NgranNode

/-- `global_e2_node_id_t`. -/
structure GlobalE2NodeId : Type where
  type : NgranNode
  plmn : Plmn
  nbId : UInt32
  /-- a pointer that is null for the monolithic nodes -/
  cuDuId : Option UInt64
  deriving DecidableEq, Repr

/-- `eq_global_e2_node_id`. -/
def eqGlobalE2NodeId (m₀ m₁ : GlobalE2NodeId) : Bool :=
  if m₀.type.isMonolithic && m₁.type.isMonolithic then
    m₀.type = m₁.type && m₀.plmn = m₁.plmn && m₀.nbId = m₁.nbId
  else if (m₀.type.isCU || m₀.type.isDU) && (m₁.type.isCU || m₁.type.isDU) then
    match m₀.cuDuId, m₁.cuDuId with
    | some c₀, some c₁ =>
      m₀.type = m₁.type && m₀.plmn = m₁.plmn && m₀.nbId = m₁.nbId && c₀ = c₁
    | _, _ => false
  else m₀.plmn = m₁.plmn && m₀.nbId = m₁.nbId

theorem eqGlobalE2NodeId_comm (m₀ m₁ : GlobalE2NodeId) :
    eqGlobalE2NodeId m₀ m₁ = eqGlobalE2NodeId m₁ m₀ := by
  rw [eqGlobalE2NodeId, eqGlobalE2NodeId, Bool.and_comm m₁.type.isMonolithic,
    Bool.and_comm (m₁.type.isCU || m₁.type.isDU)]
  simp only [@eq_comm _ m₁.type, @eq_comm _ m₁.plmn, @eq_comm _ m₁.nbId]
  cases m₀.cuDuId with
  | none => cases m₁.cuDuId <;> rfl
  | some c₀ =>
    cases m₁.cuDuId with
    | none => rfl
    | some c₁ => simp only [@eq_comm _ c₁]

/-- `cmp_global_e2_node_id`, with the sides exchanged: it answers `-1` for smaller. The CU and DU
nodes are compared through their `cu_du_id`, which the setup handler has dereferenced before. -/
def cmpGlobalE2NodeId (m₀ m₁ : GlobalE2NodeId) : Ordering :=
  let byType := compareOn fun m : GlobalE2NodeId => m.type.toNat
  let byPlmn := fun m₁ m₀ : GlobalE2NodeId => cmpPlmn m₀.plmn m₁.plmn
  let byNbId := compareOn GlobalE2NodeId.nbId
  if m₀.type.isMonolithic && m₁.type.isMonolithic then
    compareLex byType (compareLex byPlmn byNbId) m₁ m₀
  else if (m₀.type.isCU || m₀.type.isDU) && (m₁.type.isCU || m₁.type.isDU) then
    compareLex byType (compareLex byPlmn (compareLex byNbId
      (compareOn fun m : GlobalE2NodeId => m.cuDuId.getD 0))) m₁ m₀
  else compareLex byPlmn byNbId m₁ m₀

theorem cmpPlmn_eq_iff {m₀ m₁ : Plmn} : cmpPlmn m₀ m₁ = .eq ↔ m₀ = m₁ := by
  obtain ⟨a₀, b₀, c₀⟩ := m₀
  obtain ⟨a₁, b₁, c₁⟩ := m₁
  simp only [cmpPlmn, compareLex_eq_eq, compareOn, Std.LawfulEqOrd.compare_eq_iff_eq,
    Plmn.mk.injEq, @eq_comm _ a₁, @eq_comm _ b₁, @eq_comm _ c₁]

theorem NgranNode.toNat_injective : Function.Injective NgranNode.toNat := by
  intro a b h
  cases a <;> cases b <;> first | rfl | cases h

theorem NgranNode.not_isMonolithic {t : NgranNode} (h : (t.isCU || t.isDU) = true) :
    t.isMonolithic = false := by
  cases t <;> first | rfl | cases h

instance : Std.OrientedCmp fun m₁ m₀ : GlobalE2NodeId => cmpPlmn m₀.plmn m₁.plmn where
  eq_swap := by
    intro a b
    have horiented : Std.OrientedCmp (compareLex (compareOn Plmn.mcc)
      (compareLex (compareOn Plmn.mnc) (compareOn Plmn.mncDigitLen))) := inferInstance
    exact horiented.eq_swap

/-- The comparator of the E2 nodes answers the other way round when its sides are exchanged. It is
not transitive: next to a monolithic node the types are not compared. -/
instance : Std.OrientedCmp cmpGlobalE2NodeId where
  eq_swap := by
    intro a b
    simp only [cmpGlobalE2NodeId]
    rw [Bool.and_comm b.type.isMonolithic, Bool.and_comm (b.type.isCU || b.type.isDU)]
    split
    · exact Std.OrientedCmp.eq_swap
    · split
      · exact Std.OrientedCmp.eq_swap
      · exact Std.OrientedCmp.eq_swap

/-- A `cu_du_id` is there when the setup handler reads it. -/
def GlobalE2NodeId.Readable (id : GlobalE2NodeId) : Prop :=
  id.type.isMonolithic = false → id.cuDuId.isSome

/-- A CU or a DU has a `cu_du_id`. -/
def GlobalE2NodeId.WellFormed (id : GlobalE2NodeId) : Prop :=
  (id.type.isCU || id.type.isDU) = true → id.cuDuId.isSome

theorem GlobalE2NodeId.Readable.wellFormed {id : GlobalE2NodeId} (h : id.Readable) :
    id.WellFormed :=
  fun hsplit => h (NgranNode.not_isMonolithic hsplit)

/-- The comparator and the equality of the E2 nodes agree. -/
theorem GlobalE2NodeId.WellFormed.cmp_eq_iff {m₀ m₁ : GlobalE2NodeId} (h₀ : m₀.WellFormed)
    (h₁ : m₁.WellFormed) : cmpGlobalE2NodeId m₀ m₁ = .eq ↔ eqGlobalE2NodeId m₀ m₁ = true := by
  simp only [cmpGlobalE2NodeId, eqGlobalE2NodeId]
  split
  · simp only [compareLex_eq_eq, compareOn, Std.LawfulEqOrd.compare_eq_iff_eq, cmpPlmn_eq_iff,
      NgranNode.toNat_injective.eq_iff, Bool.and_eq_true, decide_eq_true_eq, and_assoc,
      @eq_comm _ m₁.type, @eq_comm _ m₁.nbId]
  · split
    · next hkind =>
      obtain ⟨hk₀, hk₁⟩ := Bool.and_eq_true_iff.1 hkind
      obtain ⟨c₀, hc₀⟩ := Option.isSome_iff_exists.1 (h₀ hk₀)
      obtain ⟨c₁, hc₁⟩ := Option.isSome_iff_exists.1 (h₁ hk₁)
      simp only [hc₀, hc₁, compareLex_eq_eq, compareOn, Std.LawfulEqOrd.compare_eq_iff_eq,
        cmpPlmn_eq_iff, NgranNode.toNat_injective.eq_iff, Option.getD_some, Bool.and_eq_true,
        decide_eq_true_eq, and_assoc, @eq_comm _ m₁.type, @eq_comm _ m₁.nbId, @eq_comm _ c₁]
    · simp only [compareLex_eq_eq, compareOn, Std.LawfulEqOrd.compare_eq_iff_eq, cmpPlmn_eq_iff,
        Bool.and_eq_true, decide_eq_true_eq, @eq_comm _ m₁.nbId]

theorem cmpGlobalE2NodeId_eq_iff {m₀ m₁ : GlobalE2NodeId} (h₀ : m₀.Readable) (h₁ : m₁.Readable) :
    cmpGlobalE2NodeId m₀ m₁ = .eq ↔ eqGlobalE2NodeId m₀ m₁ = true :=
  h₀.wellFormed.cmp_eq_iff h₁.wellFormed

/-- `ran_function_t`. -/
structure RanFunction : Type where
  definition : List UInt8
  id : UInt16
  rev : UInt16
  oid : Option (List UInt8)
  deriving DecidableEq, Repr

/-- `sctp_info_t`: the peer's address. The comparator of the maps ignores the other members. -/
structure SctpInfo : Type where
  sinPort : UInt16
  sinAddr : UInt32
  sinFamily : UInt16
  deriving DecidableEq, Repr

/-- `cmp_sctp_info_wrapper`. -/
def cmpSctpInfo : SctpInfo → SctpInfo → Ordering :=
  compareLex (compareOn SctpInfo.sinPort)
    (compareLex (compareOn SctpInfo.sinAddr) (compareOn SctpInfo.sinFamily))

instance : Std.TransCmp cmpSctpInfo := inferInstanceAs (Std.TransCmp (compareLex _ _))

instance : Std.LawfulEqCmp cmpSctpInfo where
  eq_of_compare := by
    rintro ⟨a₁, a₂, a₃⟩ ⟨b₁, b₂, b₃⟩ h
    simp only [cmpSctpInfo, compareLex_eq_eq, compareOn, Std.LawfulEqOrd.compare_eq_iff_eq] at h
    obtain ⟨rfl, rfl, rfl⟩ := h
    rfl

/-! ## Messages -/

/-- `e2_setup_request_t`. -/
structure E2SetupRequest : Type where
  id : GlobalE2NodeId
  ranFuncItem : List RanFunction
  deriving DecidableEq, Repr

/-- `e2_setup_response_t`: the accepted RAN functions. -/
structure E2SetupResponse : Type where
  plmn : Plmn
  nearRicId : UInt32
  accepted : List UInt16
  deriving DecidableEq, Repr

/-- `ric_subscription_response_t`: the ids of the admitted actions and the number of actions that
were not admitted. -/
structure RicSubscriptionResponse : Type where
  ricId : RicGenId
  admitted : List UInt8
  lenNa : ℕ
  deriving DecidableEq, Repr

/-- `ric_subscription_delete_response_t`. -/
structure RicSubscriptionDeleteResponse : Type where
  ricId : RicGenId
  deriving DecidableEq, Repr

/-- `ric_control_status_t`. -/
inductive RicControlStatus : Type where
  | success
  | rejected
  | failed
  deriving DecidableEq, Repr

/-- `ric_control_acknowledge_t`. -/
structure RicControlAcknowledge : Type where
  ricId : RicGenId
  status : RicControlStatus
  deriving DecidableEq, Repr

/-- `ric_indication_type_e`. -/
inductive RicIndicationType : Type where
  | report
  | insert
  deriving DecidableEq, Repr

/-- `ric_indication_t`. -/
structure RicIndication : Type where
  ricId : RicGenId
  actionId : UInt8
  sn : Option UInt16
  type : RicIndicationType
  hdr : List UInt8
  msg : List UInt8
  callProcessId : Option (List UInt8)
  deriving DecidableEq, Repr

/-- The E2 messages that the near-RIC hands over to the iApp (`notify_msg_iapp`). -/
inductive E2Answer : Type where
  | subscriptionResponse : RicSubscriptionResponse → E2Answer
  | subscriptionDeleteResponse : RicSubscriptionDeleteResponse → E2Answer
  | controlAcknowledge : RicControlAcknowledge → E2Answer
  | indication : RicIndication → E2Answer
  deriving DecidableEq, Repr

namespace E2Answer

/-- The request the message is about. -/
def ricId : E2Answer → RicGenId
  | subscriptionResponse m => m.ricId
  | subscriptionDeleteResponse m => m.ricId
  | controlAcknowledge m => m.ricId
  | indication m => m.ricId

/-- The same message about another request. -/
def setRicId (id : RicGenId) : E2Answer → E2Answer
  | subscriptionResponse m => subscriptionResponse { m with ricId := id }
  | subscriptionDeleteResponse _ => subscriptionDeleteResponse ⟨id⟩
  | controlAcknowledge m => controlAcknowledge { m with ricId := id }
  | indication m => indication { m with ricId := id }

/-- The pending event of the near-RIC that the message stops; an indication stops none. -/
def pendingEvent : E2Answer → Option PendingEventRic
  | subscriptionResponse m => some ⟨.subscriptionRequest, m.ricId⟩
  | subscriptionDeleteResponse m => some ⟨.subscriptionDeleteRequest, m.ricId⟩
  | controlAcknowledge m => some ⟨.controlRequest, m.ricId⟩
  | indication _ => none

end E2Answer

/-- `e42_setup_request_t`. -/
structure E42SetupRequest : Type where
  ranFuncItem : List RanFunction
  deriving DecidableEq, Repr

/-- `e2_node_connected_t`. -/
structure E2NodeConnected : Type where
  id : GlobalE2NodeId
  ackRf : List RanFunction
  deriving DecidableEq, Repr

/-- `e42_setup_response_t`. -/
structure E42SetupResponse : Type where
  xappId : UInt16
  nodes : List E2NodeConnected
  deriving DecidableEq, Repr

/-- `e42_ric_subscription_request_t` and `e42_ric_control_request_t`, down to the members that the
iApp reads. -/
structure E42RicRequest : Type where
  xappId : UInt16
  id : GlobalE2NodeId
  ricId : RicGenId
  deriving DecidableEq, Repr

/-- `e42_ric_subscription_delete_request_t`. -/
structure E42RicSubscriptionDeleteRequest : Type where
  xappId : UInt16
  ricId : RicGenId
  deriving DecidableEq, Repr

end FlexRic
