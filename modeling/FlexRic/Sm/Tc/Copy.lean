import FlexRic.Sm.Tc.Equality

/-!
# Copies of indication messages (`sm/tc_sm/ie/tc_data_ie.c`)

`cp_tc_ind_msg` with the functions below it. A copy starts from zeroed memory, so a field that is
not copied is zero in it: the rate of a shaper, the id of a queue and its last sojourn time. The
last assertion compares the copy with `eq_tc_ind_msg`, which looks at none of these fields.
-/

namespace FlexRic

open Outcome

/-! ## The code -/

/-- `cp_tc_sch_rr`. -/
def cpTcSchRr (src : UInt32) : UInt32 := src

/-- `cp_tc_sch_prio`. -/
def cpTcSchPrio (src : List UInt32) : List UInt32 := src.map fun q => q

/-- `cp_tc_sch`. -/
def cpTcSch : TcSch → TcSch
  | .rr rr => .rr (cpTcSchRr rr)
  | .prio prio => .prio (cpTcSchPrio prio)

/-- `cp_tc_mtr`. -/
def cpTcMtr (src : TcMtr) : TcMtr where
  bnd := src.bnd
  timeWindowMs := src.timeWindowMs

/-- `cp_tc_pcr`. -/
def cpTcPcr (src : TcPcr) : TcPcr where
  type := src.type
  id := src.id
  mtr := cpTcMtr src.mtr

/-- `cp_L3_filter`. -/
def cpL3Filter (src : L3Filter) : L3Filter where
  srcAddr := src.srcAddr
  dstAddr := src.dstAddr

/-- `cp_L4_filter`. -/
def cpL4Filter (src : L4Filter) : L4Filter where
  srcPort := src.srcPort
  dstPort := src.dstPort
  protocol := src.protocol

/-- `cp_tc_cls_osi_filter`; the padding of the local variable is any word. -/
def cpTcClsOsiFilter (pad : UInt32) (src : TcClsOsiFilter) : TcClsOsiFilter where
  id := src.id
  pad := pad
  dstQueue := src.dstQueue
  l3 := cpL3Filter src.l3
  l4 := cpL4Filter src.l4

/-- `cp_tc_cls_osi`. -/
def cpTcClsOsi (pad : UInt32) (src : List TcClsOsiFilter) : List TcClsOsiFilter :=
  src.map (cpTcClsOsiFilter pad)

/-- `cp_tc_cls`. -/
def cpTcCls (pad : UInt32) : TcCls → TcCls
  | .rr dummy => .rr dummy
  | .osi osi => .osi (cpTcClsOsi pad osi)
  | .sto dummy => .sto dummy

/-- `cp_tc_drp`. -/
def cpTcDrp (src : TcDrp) : TcDrp where
  droppedPkts := src.droppedPkts

/-- `cp_tc_mrk`. -/
def cpTcMrk (src : TcMrk) : TcMrk where
  markedPkts := src.markedPkts

/-- The branches of `cp_tc_queue`: the last sojourn time is not copied. -/
def cpTcQueueKind : TcQueueKind → TcQueueKind
  | .fifo q => .fifo {
      bytes := q.bytes, pkts := q.pkts, bytesFwd := q.bytesFwd, pktsFwd := q.pktsFwd,
      avgSojournTime := q.avgSojournTime, drp := cpTcDrp q.drp, lastSojournTime := 0 }
  | .codel q => .codel {
      bytes := q.bytes, pkts := q.pkts, bytesFwd := q.bytesFwd, pktsFwd := q.pktsFwd,
      avgSojournTime := q.avgSojournTime, drp := cpTcDrp q.drp, lastSojournTime := 0 }
  | .ecn q => .ecn {
      bytes := q.bytes, pkts := q.pkts, bytesFwd := q.bytesFwd, pktsFwd := q.pktsFwd,
      avgSojournTime := q.avgSojournTime, mrk := cpTcMrk q.mrk, lastSojournTime := 0 }

/-- `cp_tc_queue`: the id is not copied. -/
def cpTcQueue (src : TcQueue) : TcQueue where
  id := 0
  kind := cpTcQueueKind src.kind

/-- `cp_tc_shp`: the rate is not copied. -/
def cpTcShp (src : TcShp) : Outcome TcShp := do
  check (src.active = 0 ∨ src.active = 1)
  return { mtr := cpTcMtr src.mtr, id := src.id, active := src.active, maxRateKbps := 0 }

/-- `cp_tc_plc`. -/
def cpTcPlc (src : TcPlc) : Outcome TcPlc := do
  check (src.active = 0 ∨ src.active = 1)
  return {
    id := src.id
    mtr := cpTcMtr src.mtr
    drp := cpTcDrp src.drp
    mrk := cpTcMrk src.mrk
    maxRateKbps := src.maxRateKbps
    active := src.active
    dstId := src.dstId
    devId := src.devId }

/-- The body of the loop in `cp_tc_shp_q_plc`. -/
def cpTcShpPlcQ (src : TcShp × TcPlc × TcQueue) : Outcome (TcShp × TcPlc × TcQueue) := do
  let q := cpTcQueue src.2.2
  let shp ← cpTcShp src.1
  let plc ← cpTcPlc src.2.1
  return (shp, plc, q)

/-- `cp_tc_ind_msg`. -/
def cpTcIndMsg (pad : UInt32) (src : TcIndMsg) : Outcome TcIndMsg := do
  let sch := cpTcSch src.sch
  let pcr := cpTcPcr src.pcr
  let cls := cpTcCls pad src.cls
  let shpPlcQ ← src.shpPlcQ.mapM cpTcShpPlcQ
  let dst := { sch, pcr, cls, shpPlcQ, tstamp := src.tstamp }
  let eq ← eqTcIndMsg src dst
  check (eq = true)
  return dst

/-! ## What is copied -/

/-- The word of the last sojourn time. -/
def TcQueueKind.lastSojournTime : TcQueueKind → Int64
  | .fifo q => q.lastSojournTime
  | .codel q => q.lastSojournTime
  | .ecn q => q.lastSojournTime

/-- The active flags are booleans, and what is not copied is zero already. -/
structure ShpPlcQCopied (m : TcShp × TcPlc × TcQueue) : Prop where
  shpActive : m.1.active = 0 ∨ m.1.active = 1
  plcActive : m.2.1.active = 0 ∨ m.2.1.active = 1
  shpMaxRateKbps : m.1.maxRateKbps = 0
  id : m.2.2.id = 0
  lastSojournTime : m.2.2.kind.lastSojournTime = 0

@[simp] theorem cpTcSch_eq (src : TcSch) : cpTcSch src = src := by
  cases src with
  | rr rr => rfl
  | prio prio => simp [cpTcSch, cpTcSchPrio]

@[simp] theorem clearPad_cpTcCls (pad : UInt32) (src : TcCls) :
    (cpTcCls pad src).clearPad = src.clearPad := by
  cases src with
  | rr dummy => rfl
  | osi osi =>
    simp only [cpTcCls, TcCls.clearPad, cpTcClsOsi, List.map_map]
    rfl
  | sto dummy => rfl

theorem cpTcQueueKind_eq_self_iff {src : TcQueueKind} :
    cpTcQueueKind src = src ↔ src.lastSojournTime = 0 := by
  cases src with
  | fifo q =>
    obtain ⟨bytes, pkts, bytesFwd, pktsFwd, drp, avg, last⟩ := q
    simp [cpTcQueueKind, TcQueueKind.lastSojournTime, cpTcDrp, eq_comm]
  | codel q =>
    obtain ⟨bytes, pkts, bytesFwd, pktsFwd, drp, avg, last⟩ := q
    simp [cpTcQueueKind, TcQueueKind.lastSojournTime, cpTcDrp, eq_comm]
  | ecn q =>
    obtain ⟨bytes, pkts, bytesFwd, pktsFwd, mrk, avg, last⟩ := q
    simp [cpTcQueueKind, TcQueueKind.lastSojournTime, cpTcMrk, eq_comm]

theorem cpTcQueue_eq_self_iff {src : TcQueue} :
    cpTcQueue src = src ↔ src.id = 0 ∧ src.kind.lastSojournTime = 0 := by
  obtain ⟨id, kind⟩ := src
  rw [cpTcQueue, TcQueue.mk.injEq, cpTcQueueKind_eq_self_iff, eq_comm]

theorem cpTcShp_eq_self_iff {src : TcShp} :
    cpTcShp src = returns src ↔ (src.active = 0 ∨ src.active = 1) ∧ src.maxRateKbps = 0 := by
  obtain ⟨id, active, maxRateKbps, mtr⟩ := src
  rw [cpTcShp, check_bind_eq_returns]
  simp [cpTcMtr, eq_comm]

theorem cpTcPlc_eq_returns_iff {src dst : TcPlc} :
    cpTcPlc src = returns dst ↔ (src.active = 0 ∨ src.active = 1) ∧ src = dst := by
  rw [cpTcPlc, check_bind_eq_returns, pure_eq, Outcome.returns.injEq]
  rfl

theorem cpTcShpPlcQ_eq_self_iff {m : TcShp × TcPlc × TcQueue} :
    cpTcShpPlcQ m = returns m ↔ ShpPlcQCopied m := by
  obtain ⟨shp, plc, q⟩ := m
  constructor
  · intro h
    obtain ⟨shp', hshp, h⟩ := bind_eq_returns.1 h
    obtain ⟨plc', hplc, h⟩ := bind_eq_returns.1 h
    simp only [pure_eq, Outcome.returns.injEq, Prod.mk.injEq] at h
    obtain ⟨rfl, rfl, hq⟩ := h
    obtain ⟨hactive, hrate⟩ := cpTcShp_eq_self_iff.1 hshp
    obtain ⟨hid, hlast⟩ := cpTcQueue_eq_self_iff.1 hq
    exact ⟨hactive, (cpTcPlc_eq_returns_iff.1 hplc).1, hrate, hid, hlast⟩
  · intro h
    have hshp : cpTcShp shp = returns shp := cpTcShp_eq_self_iff.2 ⟨h.shpActive, h.shpMaxRateKbps⟩
    have hplc : cpTcPlc plc = returns plc := cpTcPlc_eq_returns_iff.2 ⟨h.plcActive, rfl⟩
    have hq : cpTcQueue q = q := cpTcQueue_eq_self_iff.2 ⟨h.id, h.lastSojournTime⟩
    simp [cpTcShpPlcQ, hshp, hplc, hq]

/-! ## What the last assertion finds -/

theorem noNan_of_eqTcMtr {m₀ m₁ : TcMtr} (h : eqTcMtr m₀ m₁ = returns true) : m₀.NoNan := by
  simp only [eqTcMtr, allOf_cons_eq_true] at h
  exact (isNaN_of_eqFloat h.2.1).1

theorem noNan_of_eqTcQ {m₀ m₁ : TcQueue} (h : eqTcQ m₀ m₁ = returns true) :
    (Float32.ofBits m₀.kind.avgSojournTime).isNaN = false := by
  obtain ⟨id₀, kind₀⟩ := m₀
  obtain ⟨id₁, kind₁⟩ := m₁
  cases kind₀ with
  | fifo q₀ =>
    cases kind₁ with
    | fifo q₁ =>
      simp only [eqTcQ, eqTcQueueFifo, allOf_cons_eq_true] at h
      exact (isNaN_of_eqFloat h.2.1).1
    | codel q₁ => cases h
    | ecn q₁ => cases h
  | codel q₀ =>
    cases kind₁ with
    | fifo q₁ => cases h
    | codel q₁ =>
      simp only [eqTcQ, eqTcQueueCodel, allOf_cons_eq_true] at h
      exact (isNaN_of_eqFloat h.2.1).1
    | ecn q₁ => cases h
  | ecn q₀ =>
    cases kind₁ with
    | fifo q₁ => cases h
    | codel q₁ => cases h
    | ecn q₁ =>
      simp only [eqTcQ, eqTcQueueEcnCodel, allOf_cons_eq_true] at h
      exact (isNaN_of_eqFloat h.2.1).1

theorem noNan_of_eqTcShpPlcQ {m₀ m₁ : TcShp × TcPlc × TcQueue}
    (h : eqTcShpPlcQ m₀ m₁ = returns true) : ShpPlcQNoNan m₀ := by
  simp only [eqTcShpPlcQ, eqTcShp, eqTcPlc, allOf_cons_eq_true, orAbort_eq_true] at h
  obtain ⟨⟨-, -, hshp, -⟩, ⟨-, hplc, -, -, hrate, -⟩, hq, -⟩ := h
  exact ⟨noNan_of_eqTcMtr hshp, noNan_of_eqTcMtr hplc, (isNaN_of_eqFloat hrate).1,
    noNan_of_eqTcQ hq⟩

/-- The copy of a message comes back and is the same as the message, but for the padding, if and
only if what is not copied is zero, the active flags are booleans and no `float` is a NaN. -/
theorem cpTcIndMsg_iff (pad : UInt32) (src : TcIndMsg) :
    (∃ dst, cpTcIndMsg pad src = returns dst ∧ dst.clearPad = src.clearPad) ↔
      src.NoNan ∧ ∀ m ∈ src.shpPlcQ, ShpPlcQCopied m := by
  constructor
  · rintro ⟨dst, h, hsame⟩
    obtain ⟨shpPlcQ, hloop, h⟩ := bind_eq_returns.1 h
    obtain ⟨eq, heq, h⟩ := bind_eq_returns.1 h
    obtain ⟨rfl, h⟩ := check_bind_eq_returns.1 h
    cases h
    have hlist : shpPlcQ = src.shpPlcQ := congrArg TcIndMsg.shpPlcQ hsame
    subst hlist
    simp only [eqTcIndMsg, allOf_cons_eq_true, orAbort_eq_true, eqTcPcr] at heq
    obtain ⟨-, -, ⟨-, -, hpcr, -⟩, -, -, hbody, -⟩ := heq
    have hall := List.forall₂_same.1 ((eqArray_eq_true rfl).1 hbody)
    refine ⟨⟨noNan_of_eqTcMtr hpcr, fun m hm => noNan_of_eqTcShpPlcQ (hall m hm)⟩, ?_⟩
    intro m hm
    exact cpTcShpPlcQ_eq_self_iff.1 (List.forall₂_same.1 (mapM_eq_returns.1 hloop) m hm)
  · rintro ⟨hnoNan, hcopied⟩
    have hloop : src.shpPlcQ.mapM cpTcShpPlcQ = returns src.shpPlcQ :=
      mapM_eq_self fun m hm => cpTcShpPlcQ_eq_self_iff.2 (hcopied m hm)
    let dst : TcIndMsg := { src with cls := cpTcCls pad src.cls }
    have hpad : src.clearPad = dst.clearPad := by
      simp [TcIndMsg.clearPad, dst]
    have hdst : dst.NoNan := ⟨hnoNan.pcr, hnoNan.shpPlcQ⟩
    have heq : eqTcIndMsg src dst = returns true :=
      eqTcIndMsg_of_agree tolerated_sameFloat hnoNan hdst (hnoNan.agree hpad)
    refine ⟨dst, ?_, hpad.symm⟩
    have hmsg : TcIndMsg.mk (cpTcSch src.sch) (cpTcPcr src.pcr) (cpTcCls pad src.cls) src.shpPlcQ
        src.tstamp = dst := by
      rw [cpTcSch_eq]
      rfl
    rw [cpTcIndMsg, hloop, returns_bind, hmsg]
    simp only [heq, returns_bind]
    rfl

/-- The id of the queue is lost in the copy, which comes back all the same. -/
theorem cpTcIndMsg_queue_id :
    cpTcIndMsg 0 (tcIndMsgOneQueue 3 0) = returns (tcIndMsgOneQueue 0 0) ∧
      ¬∃ dst, cpTcIndMsg 0 (tcIndMsgOneQueue 3 0) = returns dst ∧
        dst.clearPad = (tcIndMsgOneQueue 3 0).clearPad := by
  have hcopy : cpTcIndMsg 0 (tcIndMsgOneQueue 3 0) = returns (tcIndMsgOneQueue 0 0) := by
    decide +kernel
  refine ⟨hcopy, ?_⟩
  rintro ⟨dst, hdst, hsame⟩
  rw [hcopy] at hdst
  cases hdst
  exact absurd hsame (by decide)

end FlexRic
