import FlexRic.AlgDs.EqFloat
import FlexRic.Sm.Tc.DataIe

/-!
# Equality of indication messages (`sm/tc_sm/ie/tc_data_ie.c`)

`eq_tc_ind_msg` with the functions below it. It stops at an assertion wherever it has found a
difference, so it never answers false: it decides whether two messages agree only if they do.
-/

namespace FlexRic

open Outcome

/-! ## The code -/

/-- `eq_tc_sch_rr`. -/
def eqTcSchRr (_m₀ _m₁ : UInt32) : Outcome Bool := return true

/-- `eq_tc_sch_prio`. -/
def eqTcSchPrio (m₀ m₁ : List UInt32) : Outcome Bool :=
  allOf [test (m₀.length = m₁.length), eqArray (fun a b => test (a = b)) m₀ m₁]

/-- `eq_tc_sch`. -/
def eqTcSch : TcSch → TcSch → Outcome Bool
  | .rr m₀, .rr m₁ => eqTcSchRr m₀ m₁
  | .prio m₀, .prio m₁ => eqTcSchPrio m₀ m₁
  | _, _ => return false

/-- `eq_tc_mtr`. -/
def eqTcMtr (m₀ m₁ : TcMtr) : Outcome Bool :=
  allOf [test (m₀.timeWindowMs = m₁.timeWindowMs),
    eqFloat (.ofBits m₀.bnd) (.ofBits m₁.bnd) 0.01]

/-- `eq_tc_pcr`. -/
def eqTcPcr (m₀ m₁ : TcPcr) : Outcome Bool :=
  allOf [test (m₀.type = m₁.type), test (m₀.id = m₁.id), eqTcMtr m₀.mtr m₁.mtr]

/-- `eq_L3_filter`. -/
def eqL3Filter (m₀ m₁ : L3Filter) : Outcome Bool :=
  allOf [test (m₀.srcAddr = m₁.srcAddr), test (m₀.dstAddr = m₁.dstAddr)]

/-- `eq_L4_filter`. -/
def eqL4Filter (m₀ m₁ : L4Filter) : Outcome Bool :=
  allOf [test (m₀.srcPort = m₁.srcPort), test (m₀.dstPort = m₁.dstPort),
    test (m₀.protocol = m₁.protocol)]

/-- `eq_tc_cls_osi_filter`. -/
def eqTcClsOsiFilter (m₀ m₁ : TcClsOsiFilter) : Outcome Bool :=
  allOf [test (m₀.id = m₁.id), eqL3Filter m₀.l3 m₁.l3, eqL4Filter m₀.l4 m₁.l4,
    test (m₀.dstQueue = m₁.dstQueue)]

/-- `eq_tc_cls_osi`. -/
def eqTcClsOsi (m₀ m₁ : List TcClsOsiFilter) : Outcome Bool :=
  allOf [test (m₀.length = m₁.length), eqArray eqTcClsOsiFilter m₀ m₁]

/-- `eq_tc_cls`. -/
def eqTcCls : TcCls → TcCls → Outcome Bool
  | .rr m₀, .rr m₁ => test (m₀ = m₁)
  | .osi m₀, .osi m₁ => eqTcClsOsi m₀ m₁
  | .sto m₀, .sto m₁ => test (m₀ = m₁)
  | _, _ => return false

/-- `eq_tc_shp`: `max_rate_kbps` is not compared. -/
def eqTcShp (m₀ m₁ : TcShp) : Outcome Bool :=
  allOf [test (m₀.id = m₁.id), test (m₀.active = m₁.active), eqTcMtr m₀.mtr m₁.mtr]

/-- `eq_tc_drp`. -/
def eqTcDrp (m₀ m₁ : TcDrp) : Outcome Bool := test (m₀.droppedPkts = m₁.droppedPkts)

/-- `eq_tc_mrk`. -/
def eqTcMrk (m₀ m₁ : TcMrk) : Outcome Bool := test (m₀.markedPkts = m₁.markedPkts)

/-- `eq_tc_plc`. -/
def eqTcPlc (m₀ m₁ : TcPlc) : Outcome Bool :=
  allOf [test (m₀.id = m₁.id), eqTcMtr m₀.mtr m₁.mtr, eqTcDrp m₀.drp m₁.drp,
    eqTcMrk m₀.mrk m₁.mrk, eqFloat (.ofBits m₀.maxRateKbps) (.ofBits m₁.maxRateKbps) 0.01,
    test (m₀.active = m₁.active ∧ m₀.dstId = m₁.dstId ∧ m₀.devId = m₁.devId)]

/-- `eq_tc_queue_fifo`: `last_sojourn_time` is not compared. -/
def eqTcQueueFifo (m₀ m₁ : TcQueueFifo) : Outcome Bool :=
  allOf [eqTcDrp m₀.drp m₁.drp,
    eqFloat (.ofBits m₀.avgSojournTime) (.ofBits m₁.avgSojournTime) 0.001,
    test (m₀.bytes = m₁.bytes ∧ m₀.pkts = m₁.pkts ∧ m₀.bytesFwd = m₁.bytesFwd ∧
      m₀.pktsFwd = m₁.pktsFwd)]

/-- `eq_tc_queue_codel`: `last_sojourn_time` is not compared. -/
def eqTcQueueCodel (m₀ m₁ : TcQueueCodel) : Outcome Bool :=
  allOf [eqTcDrp m₀.drp m₁.drp,
    eqFloat (.ofBits m₀.avgSojournTime) (.ofBits m₁.avgSojournTime) 0.001,
    test (m₀.bytes = m₁.bytes ∧ m₀.pkts = m₁.pkts ∧ m₀.bytesFwd = m₁.bytesFwd ∧
      m₀.pktsFwd = m₁.pktsFwd)]

/-- `eq_tc_queue_ecn_codel`: `last_sojourn_time` is not compared. -/
def eqTcQueueEcnCodel (m₀ m₁ : TcQueueEcnCodel) : Outcome Bool :=
  allOf [eqTcMrk m₀.mrk m₁.mrk,
    eqFloat (.ofBits m₀.avgSojournTime) (.ofBits m₁.avgSojournTime) 0.001,
    test (m₀.bytes = m₁.bytes ∧ m₀.pkts = m₁.pkts ∧ m₀.bytesFwd = m₁.bytesFwd ∧
      m₀.pktsFwd = m₁.pktsFwd)]

/-- `eq_tc_q`: the id is not compared. -/
def eqTcQ (m₀ m₁ : TcQueue) : Outcome Bool :=
  match m₀.kind, m₁.kind with
  | .fifo q₀, .fifo q₁ => eqTcQueueFifo q₀ q₁
  | .codel q₀, .codel q₁ => eqTcQueueCodel q₀ q₁
  | .ecn q₀, .ecn q₁ => eqTcQueueEcnCodel q₀ q₁
  | _, _ => return false

/-- The body of the loop in `eq_tc_ind_msg`. -/
def eqTcShpPlcQ (m₀ m₁ : TcShp × TcPlc × TcQueue) : Outcome Bool :=
  allOf [orAbort (eqTcShp m₀.1 m₁.1), orAbort (eqTcPlc m₀.2.1 m₁.2.1),
    orAbort (eqTcQ m₀.2.2 m₁.2.2)]

/-- `eq_tc_ind_msg`. -/
def eqTcIndMsg (m₀ m₁ : TcIndMsg) : Outcome Bool :=
  allOf [orAbort (test (m₀.tstamp = m₁.tstamp)), orAbort (eqTcSch m₀.sch m₁.sch),
    orAbort (eqTcPcr m₀.pcr m₁.pcr), orAbort (eqTcCls m₀.cls m₁.cls),
    orAbort (test (m₀.shpPlcQ.length = m₁.shpPlcQ.length)),
    eqArray eqTcShpPlcQ m₀.shpPlcQ m₁.shpPlcQ]

/-! ## Messages that agree -/

/-- How two `float`s, given by their words, agree where the code allows for a tolerance. -/
abbrev FloatRel : Type := Float → UInt32 → UInt32 → Prop

/-- The `float`s are equal. -/
def sameFloat : FloatRel := fun _ a b => FloatEq a b

/-- The `float`s are within the tolerance. -/
def nearFloat : FloatRel := fun eps a b =>
  eqFloat (Float32.ofBits a) (Float32.ofBits b) eps = returns true

/-- The filter without its padding. -/
def TcClsOsiFilter.clearPad (flt : TcClsOsiFilter) : TcClsOsiFilter := { flt with pad := 0 }

/-- The classifier without padding. -/
def TcCls.clearPad : TcCls → TcCls
  | .osi flt => .osi (flt.map TcClsOsiFilter.clearPad)
  | cls => cls

/-- The message without padding. -/
def TcIndMsg.clearPad (m : TcIndMsg) : TcIndMsg := { m with cls := m.cls.clearPad }

variable (near : FloatRel)

/-- The meters agree. -/
def TcMtr.Agree (m₀ m₁ : TcMtr) : Prop :=
  m₀.timeWindowMs = m₁.timeWindowMs ∧ near 0.01 m₀.bnd m₁.bnd

/-- The pacers agree. -/
structure TcPcr.Agree (m₀ m₁ : TcPcr) : Prop where
  type : m₀.type = m₁.type
  id : m₀.id = m₁.id
  mtr : m₀.mtr.Agree near m₁.mtr

/-- The shapers agree. -/
structure TcShp.Agree (m₀ m₁ : TcShp) : Prop where
  id : m₀.id = m₁.id
  active : m₀.active = m₁.active
  maxRateKbps : m₀.maxRateKbps = m₁.maxRateKbps
  mtr : m₀.mtr.Agree near m₁.mtr

/-- The policers agree. -/
structure TcPlc.Agree (m₀ m₁ : TcPlc) : Prop where
  id : m₀.id = m₁.id
  mtr : m₀.mtr.Agree near m₁.mtr
  drp : m₀.drp = m₁.drp
  mrk : m₀.mrk = m₁.mrk
  maxRateKbps : near 0.01 m₀.maxRateKbps m₁.maxRateKbps
  active : m₀.active = m₁.active
  dstId : m₀.dstId = m₁.dstId
  devId : m₀.devId = m₁.devId

/-- The queues are of the same type and agree. -/
def TcQueueKind.Agree : TcQueueKind → TcQueueKind → Prop
  | .fifo q₀, .fifo q₁ => near 0.001 q₀.avgSojournTime q₁.avgSojournTime ∧
      { q₀ with avgSojournTime := 0 } = { q₁ with avgSojournTime := 0 }
  | .codel q₀, .codel q₁ => near 0.001 q₀.avgSojournTime q₁.avgSojournTime ∧
      { q₀ with avgSojournTime := 0 } = { q₁ with avgSojournTime := 0 }
  | .ecn q₀, .ecn q₁ => near 0.001 q₀.avgSojournTime q₁.avgSojournTime ∧
      { q₀ with avgSojournTime := 0 } = { q₁ with avgSojournTime := 0 }
  | _, _ => False

/-- The shapers, the policers and the queues agree. -/
structure ShpPlcQAgree (m₀ m₁ : TcShp × TcPlc × TcQueue) : Prop where
  shp : m₀.1.Agree near m₁.1
  plc : m₀.2.1.Agree near m₁.2.1
  id : m₀.2.2.id = m₁.2.2.id
  kind : m₀.2.2.kind.Agree near m₁.2.2.kind

/-- The messages agree in every field that their tags select. -/
structure TcIndMsg.Agree (m₀ m₁ : TcIndMsg) : Prop where
  tstamp : m₀.tstamp = m₁.tstamp
  sch : m₀.sch = m₁.sch
  pcr : m₀.pcr.Agree near m₁.pcr
  cls : m₀.cls.clearPad = m₁.cls.clearPad
  shpPlcQ : List.Forall₂ (ShpPlcQAgree near) m₀.shpPlcQ m₁.shpPlcQ

/-! ## Messages without NaNs -/

/-- The meter's bound is no NaN. -/
def TcMtr.NoNan (m : TcMtr) : Prop := (Float32.ofBits m.bnd).isNaN = false

/-- The word of the average sojourn time. -/
def TcQueueKind.avgSojournTime : TcQueueKind → UInt32
  | .fifo q => q.avgSojournTime
  | .codel q => q.avgSojournTime
  | .ecn q => q.avgSojournTime

/-- The rates and the sojourn time are no NaNs. -/
structure ShpPlcQNoNan (m : TcShp × TcPlc × TcQueue) : Prop where
  shp : m.1.mtr.NoNan
  plc : m.2.1.mtr.NoNan
  maxRateKbps : (Float32.ofBits m.2.1.maxRateKbps).isNaN = false
  avgSojournTime : (Float32.ofBits m.2.2.kind.avgSojournTime).isNaN = false

/-- No `float` of the message is a NaN. -/
structure TcIndMsg.NoNan (m : TcIndMsg) : Prop where
  pcr : m.pcr.mtr.NoNan
  shpPlcQ : ∀ x ∈ m.shpPlcQ, ShpPlcQNoNan x

theorem TcMtr.NoNan.agree_self {m : TcMtr} (h : m.NoNan) : m.Agree sameFloat m :=
  ⟨rfl, floatEq_self.2 h⟩

theorem ShpPlcQNoNan.agree_self {m : TcShp × TcPlc × TcQueue} (h : ShpPlcQNoNan m) :
    ShpPlcQAgree sameFloat m m where
  shp := ⟨rfl, rfl, rfl, h.shp.agree_self⟩
  plc := ⟨rfl, h.plc.agree_self, rfl, rfl, floatEq_self.2 h.maxRateKbps, rfl, rfl, rfl⟩
  id := rfl
  kind := by
    obtain ⟨shp, plc, id, kind⟩ := m
    have htime := floatEq_self.2 h.avgSojournTime
    cases kind with
    | fifo q => exact ⟨htime, rfl⟩
    | codel q => exact ⟨htime, rfl⟩
    | ecn q => exact ⟨htime, rfl⟩

/-- A message without NaNs agrees with every message that is the same but for the padding. -/
theorem TcIndMsg.NoNan.agree {m₀ m₁ : TcIndMsg} (h : m₀.NoNan) (heq : m₀.clearPad = m₁.clearPad) :
    m₀.Agree sameFloat m₁ := by
  obtain ⟨sch₀, pcr₀, cls₀, shpPlcQ₀, tstamp₀⟩ := m₀
  obtain ⟨sch₁, pcr₁, cls₁, shpPlcQ₁, tstamp₁⟩ := m₁
  simp only [TcIndMsg.clearPad, TcIndMsg.mk.injEq] at heq
  obtain ⟨rfl, rfl, hcls, rfl, rfl⟩ := heq
  refine ⟨rfl, rfl, ⟨rfl, rfl, h.pcr.agree_self⟩, hcls, ?_⟩
  exact List.forall₂_same.2 fun x hx => (h.shpPlcQ x hx).agree_self

/-! ## Equality of messages that agree -/

variable {near}

/-- Without NaNs, what agrees is within the tolerance. -/
def Tolerated (near : FloatRel) : Prop :=
  ∀ eps a b, Float.isNaN eps = false → (Float32.ofBits a).isNaN = false →
    (Float32.ofBits b).isNaN = false → near eps a b → nearFloat eps a b

theorem tolerated_sameFloat : Tolerated sameFloat :=
  fun _ _ _ heps ha hb h => eqFloat_of_beq ha hb heps h

theorem tolerated_nearFloat : Tolerated nearFloat :=
  fun _ _ _ _ _ _ h => h

/-- The tolerance of the rates is no NaN. -/
theorem isNaN_rateEps : Float.isNaN 0.01 = false := by decide +kernel

/-- The tolerance of the sojourn times is no NaN. -/
theorem isNaN_sojournEps : Float.isNaN 0.001 = false := by decide +kernel

theorem eqTcSch_self (m : TcSch) : eqTcSch m m = returns true := by
  cases m with
  | rr dummy => rfl
  | prio q =>
    have hloop : eqArray (fun a b => test (a = b)) q q = returns true :=
      (eqArray_eq_true rfl).2 (List.forall₂_same.2 fun a _ => test_eq_true.2 rfl)
    simp [eqTcSch, eqTcSchPrio, hloop]

theorem eqTcClsOsiFilter_of_clearPad {m₀ m₁ : TcClsOsiFilter} (h : m₀.clearPad = m₁.clearPad) :
    eqTcClsOsiFilter m₀ m₁ = returns true := by
  obtain ⟨id₀, pad₀, l3₀, l4₀, dstQueue₀⟩ := m₀
  obtain ⟨id₁, pad₁, l3₁, l4₁, dstQueue₁⟩ := m₁
  simp only [TcClsOsiFilter.clearPad, TcClsOsiFilter.mk.injEq, true_and] at h
  obtain ⟨rfl, rfl, rfl, rfl⟩ := h
  simp [eqTcClsOsiFilter, eqL3Filter, eqL4Filter]

theorem eqTcCls_of_clearPad {m₀ m₁ : TcCls} (h : m₀.clearPad = m₁.clearPad) :
    eqTcCls m₀ m₁ = returns true := by
  cases m₀ with
  | rr d₀ =>
    cases m₁ with
    | rr d₁ =>
      cases h
      exact test_eq_true.2 rfl
    | osi flt => cases h
    | sto d₁ => cases h
  | osi flt₀ =>
    cases m₁ with
    | rr d₁ => cases h
    | osi flt₁ =>
      have hmap : flt₀.map TcClsOsiFilter.clearPad = flt₁.map TcClsOsiFilter.clearPad :=
        TcCls.osi.inj h
      have hlen : flt₀.length = flt₁.length := by simpa using congrArg List.length hmap
      have hall : List.Forall₂ (fun a b => eqTcClsOsiFilter a b = returns true) flt₀ flt₁ := by
        rw [← List.forall₂_eq_eq_eq, List.forall₂_map_left_iff, List.forall₂_map_right_iff] at hmap
        exact hmap.imp fun _ _ => eqTcClsOsiFilter_of_clearPad
      simp [eqTcCls, eqTcClsOsi, hlen, (eqArray_eq_true hlen).2 hall]
    | sto d₁ => cases h
  | sto d₀ =>
    cases m₁ with
    | rr d₁ => cases h
    | osi flt => cases h
    | sto d₁ =>
      cases h
      exact test_eq_true.2 rfl

theorem eqTcMtr_of_agree (hnear : Tolerated near) {m₀ m₁ : TcMtr} (h₀ : m₀.NoNan) (h₁ : m₁.NoNan)
    (h : m₀.Agree near m₁) : eqTcMtr m₀ m₁ = returns true := by
  have hbnd : eqFloat (.ofBits m₀.bnd) (.ofBits m₁.bnd) 0.01 = returns true :=
    hnear _ _ _ isNaN_rateEps h₀ h₁ h.2
  simp [eqTcMtr, h.1, hbnd]

theorem eqTcPcr_of_agree (hnear : Tolerated near) {m₀ m₁ : TcPcr} (h₀ : m₀.mtr.NoNan)
    (h₁ : m₁.mtr.NoNan) (h : m₀.Agree near m₁) : eqTcPcr m₀ m₁ = returns true := by
  simp [eqTcPcr, h.type, h.id, eqTcMtr_of_agree hnear h₀ h₁ h.mtr]

theorem eqTcShp_of_agree (hnear : Tolerated near) {m₀ m₁ : TcShp} (h₀ : m₀.mtr.NoNan)
    (h₁ : m₁.mtr.NoNan) (h : m₀.Agree near m₁) : eqTcShp m₀ m₁ = returns true := by
  simp [eqTcShp, h.id, h.active, eqTcMtr_of_agree hnear h₀ h₁ h.mtr]

theorem eqTcPlc_of_agree (hnear : Tolerated near) {m₀ m₁ : TcPlc} (h₀ : m₀.mtr.NoNan)
    (h₁ : m₁.mtr.NoNan) (hr₀ : (Float32.ofBits m₀.maxRateKbps).isNaN = false)
    (hr₁ : (Float32.ofBits m₁.maxRateKbps).isNaN = false) (h : m₀.Agree near m₁) :
    eqTcPlc m₀ m₁ = returns true := by
  have hrate : eqFloat (.ofBits m₀.maxRateKbps) (.ofBits m₁.maxRateKbps) 0.01 = returns true :=
    hnear _ _ _ isNaN_rateEps hr₀ hr₁ h.maxRateKbps
  simp [eqTcPlc, h.id, eqTcMtr_of_agree hnear h₀ h₁ h.mtr, eqTcDrp, h.drp, eqTcMrk, h.mrk, hrate,
    h.active, h.dstId, h.devId]

theorem eqTcQ_of_agree (hnear : Tolerated near) {m₀ m₁ : TcQueue}
    (h₀ : (Float32.ofBits m₀.kind.avgSojournTime).isNaN = false)
    (h₁ : (Float32.ofBits m₁.kind.avgSojournTime).isNaN = false)
    (h : m₀.kind.Agree near m₁.kind) : eqTcQ m₀ m₁ = returns true := by
  obtain ⟨id₀, kind₀⟩ := m₀
  obtain ⟨id₁, kind₁⟩ := m₁
  have htime : near 0.001 kind₀.avgSojournTime kind₁.avgSojournTime →
      eqFloat (.ofBits kind₀.avgSojournTime) (.ofBits kind₁.avgSojournTime) 0.001 = returns true :=
    hnear _ _ _ isNaN_sojournEps h₀ h₁
  cases kind₀ with
  | fifo q₀ =>
    cases kind₁ with
    | fifo q₁ =>
      obtain ⟨htol, heq⟩ := h
      simp only [TcQueueFifo.mk.injEq, true_and] at heq
      obtain ⟨hbytes, hpkts, hbytesFwd, hpktsFwd, hdrp, -⟩ := heq
      have hq : eqFloat (.ofBits q₀.avgSojournTime) (.ofBits q₁.avgSojournTime) 0.001 =
        returns true := htime htol
      simp [eqTcQ, eqTcQueueFifo, eqTcDrp, hbytes, hpkts, hbytesFwd, hpktsFwd, hdrp, hq]
    | codel q₁ => exact h.elim
    | ecn q₁ => exact h.elim
  | codel q₀ =>
    cases kind₁ with
    | fifo q₁ => exact h.elim
    | codel q₁ =>
      obtain ⟨htol, heq⟩ := h
      simp only [TcQueueCodel.mk.injEq, true_and] at heq
      obtain ⟨hbytes, hpkts, hbytesFwd, hpktsFwd, hdrp, -⟩ := heq
      have hq : eqFloat (.ofBits q₀.avgSojournTime) (.ofBits q₁.avgSojournTime) 0.001 =
        returns true := htime htol
      simp [eqTcQ, eqTcQueueCodel, eqTcDrp, hbytes, hpkts, hbytesFwd, hpktsFwd, hdrp, hq]
    | ecn q₁ => exact h.elim
  | ecn q₀ =>
    cases kind₁ with
    | fifo q₁ => exact h.elim
    | codel q₁ => exact h.elim
    | ecn q₁ =>
      obtain ⟨htol, heq⟩ := h
      simp only [TcQueueEcnCodel.mk.injEq, true_and] at heq
      obtain ⟨hbytes, hpkts, hbytesFwd, hpktsFwd, hmrk, -⟩ := heq
      have hq : eqFloat (.ofBits q₀.avgSojournTime) (.ofBits q₁.avgSojournTime) 0.001 =
        returns true := htime htol
      simp [eqTcQ, eqTcQueueEcnCodel, eqTcMrk, hbytes, hpkts, hbytesFwd, hpktsFwd, hmrk, hq]

theorem eqTcShpPlcQ_of_agree (hnear : Tolerated near) {m₀ m₁ : TcShp × TcPlc × TcQueue}
    (h₀ : ShpPlcQNoNan m₀) (h₁ : ShpPlcQNoNan m₁) (h : ShpPlcQAgree near m₀ m₁) :
    eqTcShpPlcQ m₀ m₁ = returns true := by
  simp [eqTcShpPlcQ, eqTcShp_of_agree hnear h₀.shp h₁.shp h.shp,
    eqTcPlc_of_agree hnear h₀.plc h₁.plc h₀.maxRateKbps h₁.maxRateKbps h.plc,
    eqTcQ_of_agree hnear h₀.avgSojournTime h₁.avgSojournTime h.kind]

/-- The comparison of messages that agree answers true. -/
theorem eqTcIndMsg_of_agree (hnear : Tolerated near) {m₀ m₁ : TcIndMsg} (h₀ : m₀.NoNan)
    (h₁ : m₁.NoNan) (h : m₀.Agree near m₁) : eqTcIndMsg m₀ m₁ = returns true := by
  have hlen : m₀.shpPlcQ.length = m₁.shpPlcQ.length := h.shpPlcQ.length_eq
  have hloop : eqArray eqTcShpPlcQ m₀.shpPlcQ m₁.shpPlcQ = returns true := by
    rw [eqArray_eq_true hlen, List.forall₂_iff_get]
    refine ⟨hlen, fun i hi₀ hi₁ => ?_⟩
    exact eqTcShpPlcQ_of_agree hnear (h₀.shpPlcQ _ (List.get_mem _ _))
      (h₁.shpPlcQ _ (List.get_mem _ _)) (h.shpPlcQ.get hi₀ hi₁)
  simp [eqTcIndMsg, h.tstamp, h.sch, eqTcSch_self, eqTcPcr_of_agree hnear h₀.pcr h₁.pcr h.pcr,
    eqTcCls_of_clearPad h.cls, hlen, hloop]

/-! ## The comparison never answers false -/

theorem eqTcIndMsg_ne_false (m₀ m₁ : TcIndMsg) : eqTcIndMsg m₀ m₁ ≠ returns false := by
  have hbody : ∀ x₀ x₁, eqTcShpPlcQ x₀ x₁ ≠ returns false := by
    intro x₀ x₁
    apply allOf_ne_false
    simp [orAbort_ne_false]
  apply allOf_ne_false
  simp [orAbort_ne_false, eqArray_ne_false hbody]

/-- The comparison decides whether two messages agree if and only if they do. -/
theorem eqTcIndMsg_decides_agree_iff (hnear : Tolerated near) {m₀ m₁ : TcIndMsg} (h₀ : m₀.NoNan)
    (h₁ : m₁.NoNan) : Decides (eqTcIndMsg m₀ m₁) (m₀.Agree near m₁) ↔ m₀.Agree near m₁ :=
  decides_iff_of_ne_false (eqTcIndMsg_ne_false m₀ m₁) (eqTcIndMsg_of_agree hnear h₀ h₁)

/-- The comparison decides whether two messages without NaNs agree if and only if they do, whether
the floats have to be equal or within the tolerance. -/
theorem eqTcIndMsg_decides_iff {m₀ m₁ : TcIndMsg} (h₀ : m₀.NoNan) (h₁ : m₁.NoNan) :
    (Decides (eqTcIndMsg m₀ m₁) (m₀.Agree sameFloat m₁) ↔ m₀.Agree sameFloat m₁) ∧
      (Decides (eqTcIndMsg m₀ m₁) (m₀.Agree nearFloat m₁) ↔ m₀.Agree nearFloat m₁) :=
  ⟨eqTcIndMsg_decides_agree_iff tolerated_sameFloat h₀ h₁,
    eqTcIndMsg_decides_agree_iff tolerated_nearFloat h₀ h₁⟩

/-- A message with one queue, the queue's id, and the time stamp. -/
def tcIndMsgOneQueue (id : UInt32) (tstamp : Int64) : TcIndMsg where
  sch := .prio [1]
  pcr := ⟨0, 0, ⟨100, 0x3f800000⟩⟩
  cls := .osi [⟨7, 0, ⟨-1, -1⟩, ⟨-1, 80, 6⟩, 0⟩]
  shpPlcQ := [(⟨0, 1, 0, ⟨100, 0x3f800000⟩⟩,
    ⟨0, ⟨100, 0x3f800000⟩, ⟨0⟩, ⟨0⟩, 0x3f800000, 1, 0, 0⟩,
    ⟨id, .codel ⟨1500, 1, 0, 0, ⟨0⟩, 0x3f800000, 0⟩⟩)]
  tstamp := tstamp

theorem isNaN_one : (Float32.ofBits 0x3f800000).isNaN = false := by decide

theorem tcIndMsgOneQueue_noNan (id : UInt32) (tstamp : Int64) :
    (tcIndMsgOneQueue id tstamp).NoNan where
  pcr := isNaN_one
  shpPlcQ := by
    intro x hx
    rw [List.mem_singleton.1 hx]
    exact ⟨isNaN_one, isNaN_one, isNaN_one, isNaN_one⟩

/-- The condition is met by a message and itself. -/
theorem eqTcIndMsg_decides_oneQueue :
    Decides (eqTcIndMsg (tcIndMsgOneQueue 0 0) (tcIndMsgOneQueue 0 0))
      ((tcIndMsgOneQueue 0 0).Agree sameFloat (tcIndMsgOneQueue 0 0)) := by
  have hnoNan := tcIndMsgOneQueue_noNan 0 0
  exact (eqTcIndMsg_decides_iff hnoNan hnoNan).1.2 (hnoNan.agree rfl)

/-- The comparison of two messages with different time stamps stops at an assertion. -/
theorem eqTcIndMsg_tstamp_stops :
    (tcIndMsgOneQueue 0 0).NoNan ∧ (tcIndMsgOneQueue 0 1).NoNan ∧
      eqTcIndMsg (tcIndMsgOneQueue 0 0) (tcIndMsgOneQueue 0 1) = stops ∧
      ¬Decides (eqTcIndMsg (tcIndMsgOneQueue 0 0) (tcIndMsgOneQueue 0 1))
        ((tcIndMsgOneQueue 0 0).Agree sameFloat (tcIndMsgOneQueue 0 1)) ∧
      ¬Decides (eqTcIndMsg (tcIndMsgOneQueue 0 0) (tcIndMsgOneQueue 0 1))
        ((tcIndMsgOneQueue 0 0).Agree nearFloat (tcIndMsgOneQueue 0 1)) := by
  have hstops : eqTcIndMsg (tcIndMsgOneQueue 0 0) (tcIndMsgOneQueue 0 1) = stops := rfl
  refine ⟨tcIndMsgOneQueue_noNan 0 0, tcIndMsgOneQueue_noNan 0 1, hstops, ?_, ?_⟩
  · intro h
    obtain ⟨b, hb⟩ := h.returns
    rw [hstops] at hb
    cases hb
  · intro h
    obtain ⟨b, hb⟩ := h.returns
    rw [hstops] at hb
    cases hb

end FlexRic
