import Mathlib.Algebra.Ring.Nat
import FlexRic.Semantics.Layout
import FlexRic.Sm.Tc.DataIe

/-!
# The encoder of the traffic control messages (`sm/tc_sm/enc/tc_enc_plain.c`)

A function `cal…` computes the size of a part of the message, and a function `enc…` copies the
part into the buffer. The fields that it copies, and the checks it makes in between, are its
`Layout` here; where the code copies a whole struct, these are the fields of the struct. The
allocation of the buffer succeeds.
-/

namespace FlexRic

open Layout

/-! ## Sizes of the indication message -/

/-- `cal_sch_payload`. -/
def calSchPayload : TcSch → ℕ
  | .rr _ => 4
  | .prio qPrio => 4 + 4 + 4 * qPrio.length

/-- `cal_mtr_payload`. -/
def calMtrPayload (_ : TcMtr) : ℕ := 4 + 4

/-- `cal_pcr_payload`. -/
def calPcrPayload (pcr : TcPcr) : ℕ := 4 + 4 + calMtrPayload pcr.mtr

/-- `cal_cls_rr_payload`. -/
def calClsRrPayload (_ : UInt32) : ℕ := 4

/-- `cal_cls_osi_payload`. -/
def calClsOsiPayload (flt : List TcClsOsiFilter) : ℕ := 4 + 40 * flt.length

/-- `cal_cls_sto_payload`. -/
def calClsStoPayload (_ : UInt32) : ℕ := 4

/-- `cal_cls_payload`. -/
def calClsPayload : TcCls → ℕ
  | .rr dummy => 4 + calClsRrPayload dummy
  | .osi flt => 4 + calClsOsiPayload flt
  | .sto dummy => 4 + calClsStoPayload dummy

/-- `cal_drp_payload`. -/
def calDrpPayload (_ : TcDrp) : ℕ := 4

/-- `cal_mrk_payload`. -/
def calMrkPayload (_ : TcMrk) : ℕ := 4

/-- `cal_q_payload`: it leaves the id of the queue out. -/
def calQPayload (q : TcQueue) : ℕ :=
  match q.kind with
  | .fifo q => 4 + 4 + 4 + 4 + 4 + calDrpPayload q.drp + 4 + 8
  | .codel q => 4 + 4 + 4 + 4 + 4 + calDrpPayload q.drp + 4 + 8
  | .ecn q => 4 + 4 + 4 + 4 + 4 + calMrkPayload q.mrk + 4 + 8

/-- `cal_shp_payload`. -/
def calShpPayload (shp : TcShp) : ℕ := 4 + 4 + 4 + calMtrPayload shp.mtr

/-- `cal_plc_payload`. -/
def calPlcPayload (plc : TcPlc) : ℕ :=
  4 + calMtrPayload plc.mtr + calDrpPayload plc.drp + calMrkPayload plc.mrk + 4 + 4 + 4 + 4

/-- One round of the loop of `cal_ind_msg_payload`. -/
def calShpPlcQPayload : TcShp × TcPlc × TcQueue → ℕ
  | (shp, plc, q) => calQPayload q + calShpPayload shp + calPlcPayload plc

/-- `cal_ind_msg_payload`. -/
def calIndMsgPayload (m : TcIndMsg) : ℕ :=
  calSchPayload m.sch + calPcrPayload m.pcr + calClsPayload m.cls + 4 +
    (m.shpPlcQ.map calShpPlcQPayload).sum + 8

/-! ## The indication message -/

/-- `tc_enc_sch_rr`: it copies nothing. -/
def tcEncSchRr (_ : UInt32) : Layout := []

/-- `tc_enc_sch_prio`. -/
def tcEncSchPrio (qPrio : List UInt32) : Layout :=
  u32 (UInt32.ofNat qPrio.length) ++ qPrio.flatMap u32

/-- `tc_enc_sch`. -/
def tcEncSch (sch : TcSch) : Layout :=
  u32 sch.type.toUInt32 ++
    match sch with
    | .rr dummy => tcEncSchRr dummy
    | .prio qPrio => tcEncSchPrio qPrio

/-- `tc_enc_mtr`. -/
def tcEncMtr (mtr : TcMtr) : Layout := u32 mtr.bnd ++ u32 mtr.timeWindowMs

/-- `tc_enc_pcr`. -/
def tcEncPcr (pcr : TcPcr) : Layout := u32 pcr.type ++ (u32 pcr.id ++ tcEncMtr pcr.mtr)

/-- `tc_enc_cls_rr`. -/
def tcEncClsRr (dummy : UInt32) : Layout := u32 dummy

/-- The `memcpy` of a `tc_cls_osi_filter_t`. -/
def tcEncClsOsiFilter (flt : TcClsOsiFilter) : Layout :=
  u32 flt.id ++ (u32 flt.pad ++ (i64 flt.l3.srcAddr ++ (i64 flt.l3.dstAddr ++
    (i32 flt.l4.srcPort ++ (i32 flt.l4.dstPort ++ (i32 flt.l4.protocol ++ i32 flt.dstQueue))))))

/-- `tc_enc_cls_osi`. -/
def tcEncClsOsi (flt : List TcClsOsiFilter) : Layout :=
  u32 (UInt32.ofNat flt.length) ++ flt.flatMap tcEncClsOsiFilter

/-- `tc_enc_cls_sto`. -/
def tcEncClsSto (dummy : UInt32) : Layout := u32 dummy

/-- `tc_enc_cls`. -/
def tcEncCls (cls : TcCls) : Layout :=
  u32 cls.type.toUInt32 ++
    match cls with
    | .rr dummy => tcEncClsRr dummy
    | .osi flt => tcEncClsOsi flt
    | .sto dummy => tcEncClsSto dummy

/-- `tc_enc_shp`. -/
def tcEncShp (shp : TcShp) : Layout :=
  u32 shp.id ++ (u32 shp.active ++ (u32 shp.maxRateKbps ++ tcEncMtr shp.mtr))

/-- `tc_enc_drp`. -/
def tcEncDrp (drp : TcDrp) : Layout := u32 drp.droppedPkts

/-- `tc_enc_mrk`. -/
def tcEncMrk (mrk : TcMrk) : Layout := u32 mrk.markedPkts

/-- `tc_enc_plc`. -/
def tcEncPlc (plc : TcPlc) : Layout :=
  u32 plc.id ++ (tcEncMtr plc.mtr ++ (tcEncDrp plc.drp ++ (tcEncMrk plc.mrk ++
    (u32 plc.maxRateKbps ++ (u32 plc.active ++ (u32 plc.dstId ++ u32 plc.devId))))))

/-- `tc_enc_q_fifo`. -/
def tcEncQFifo (q : TcQueueFifo) : Layout :=
  u32 q.bytes ++ (u32 q.pkts ++ (u32 q.bytesFwd ++ (u32 q.pktsFwd ++ (tcEncDrp q.drp ++
    (u32 q.avgSojournTime ++ i64 q.lastSojournTime)))))

/-- `tc_enc_q_codel`. -/
def tcEncQCodel (q : TcQueueCodel) : Layout :=
  u32 q.bytes ++ (u32 q.pkts ++ (u32 q.bytesFwd ++ (u32 q.pktsFwd ++ (tcEncDrp q.drp ++
    (u32 q.avgSojournTime ++ i64 q.lastSojournTime)))))

/-- `tc_enc_q_ecn_codel`. -/
def tcEncQEcnCodel (q : TcQueueEcnCodel) : Layout :=
  u32 q.bytes ++ (u32 q.pkts ++ (u32 q.bytesFwd ++ (u32 q.pktsFwd ++ (tcEncMrk q.mrk ++
    (u32 q.avgSojournTime ++ i64 q.lastSojournTime)))))

/-- `tc_enc_q`: it leaves the id of the queue out. -/
def tcEncQ (q : TcQueue) : Layout :=
  u32 q.kind.type.toUInt32 ++
    match q.kind with
    | .fifo q => tcEncQFifo q
    | .codel q => tcEncQCodel q
    | .ecn q => tcEncQEcnCodel q

/-- One round of the loop of `tc_enc_ind_msg_plain`. -/
def tcEncShpPlcQ : TcShp × TcPlc × TcQueue → Layout
  | (shp, plc, q) =>
    tcEncShp shp ++ ([.check] ++ (tcEncPlc plc ++ ([.check] ++ (tcEncQ q ++ [.check]))))

/-- The layout of `tc_enc_ind_msg_plain`. -/
def tcEncIndMsg (m : TcIndMsg) : Layout :=
  tcEncSch m.sch ++ ([.check] ++ (tcEncPcr m.pcr ++ ([.check] ++ (tcEncCls m.cls ++ ([.check] ++
    (u32 (UInt32.ofNat m.shpPlcQ.length) ++ ([.check] ++
      (m.shpPlcQ.flatMap tcEncShpPlcQ ++ i64 m.tstamp))))))))

/-- `tc_enc_ind_msg_plain`. -/
def tcEncIndMsgPlain (m : TcIndMsg) : Option (List UInt8) :=
  (tcEncIndMsg m).emit (calIndMsgPayload m) []

/-! The encoder fills the buffer exactly. -/

theorem length_bytes_tcEncMtr (mtr : TcMtr) : (tcEncMtr mtr).bytes.length = calMtrPayload mtr := by
  simp [tcEncMtr, calMtrPayload]

theorem length_bytes_tcEncSch (sch : TcSch) : (tcEncSch sch).bytes.length = calSchPayload sch := by
  cases sch with
  | rr dummy => simp [tcEncSch, tcEncSchRr, calSchPayload]
  | prio qPrio =>
    simp [tcEncSch, tcEncSchPrio, calSchPayload, bytes_flatMap, List.length_flatMap]
    omega

theorem length_bytes_tcEncPcr (pcr : TcPcr) : (tcEncPcr pcr).bytes.length = calPcrPayload pcr := by
  simp [tcEncPcr, calPcrPayload, length_bytes_tcEncMtr]
  omega

theorem length_bytes_tcEncClsOsiFilter (flt : TcClsOsiFilter) :
    (tcEncClsOsiFilter flt).bytes.length = 40 := by
  simp [tcEncClsOsiFilter]

theorem length_bytes_tcEncCls (cls : TcCls) : (tcEncCls cls).bytes.length = calClsPayload cls := by
  cases cls with
  | rr dummy => simp [tcEncCls, tcEncClsRr, calClsPayload, calClsRrPayload]
  | osi flt =>
    simp [tcEncCls, tcEncClsOsi, calClsPayload, calClsOsiPayload, bytes_flatMap,
      List.length_flatMap, length_bytes_tcEncClsOsiFilter]
    omega
  | sto dummy => simp [tcEncCls, tcEncClsSto, calClsPayload, calClsStoPayload]

theorem length_bytes_tcEncShp (shp : TcShp) : (tcEncShp shp).bytes.length = calShpPayload shp := by
  simp [tcEncShp, calShpPayload, length_bytes_tcEncMtr]
  omega

theorem length_bytes_tcEncPlc (plc : TcPlc) : (tcEncPlc plc).bytes.length = calPlcPayload plc := by
  simp [tcEncPlc, tcEncDrp, tcEncMrk, calPlcPayload, calDrpPayload, calMrkPayload,
    length_bytes_tcEncMtr]
  omega

theorem length_bytes_tcEncQ (q : TcQueue) : (tcEncQ q).bytes.length = calQPayload q := by
  obtain ⟨id, kind⟩ := q
  cases kind with
  | fifo q => simp [tcEncQ, tcEncQFifo, tcEncDrp, calQPayload, calDrpPayload]
  | codel q => simp [tcEncQ, tcEncQCodel, tcEncDrp, calQPayload, calDrpPayload]
  | ecn q => simp [tcEncQ, tcEncQEcnCodel, tcEncMrk, calQPayload, calMrkPayload]

theorem length_bytes_tcEncShpPlcQ (t : TcShp × TcPlc × TcQueue) :
    (tcEncShpPlcQ t).bytes.length = calShpPlcQPayload t := by
  obtain ⟨shp, plc, q⟩ := t
  simp [tcEncShpPlcQ, calShpPlcQPayload, length_bytes_tcEncShp, length_bytes_tcEncPlc,
    length_bytes_tcEncQ]
  omega

theorem length_bytes_tcEncIndMsg (m : TcIndMsg) :
    (tcEncIndMsg m).bytes.length = calIndMsgPayload m := by
  have hsum : (m.shpPlcQ.flatMap fun t => (tcEncShpPlcQ t).bytes).length =
      (m.shpPlcQ.map calShpPlcQPayload).sum := by
    rw [List.length_flatMap]
    exact congrArg List.sum (List.map_congr_left fun t _ => length_bytes_tcEncShpPlcQ t)
  simp [tcEncIndMsg, calIndMsgPayload, length_bytes_tcEncSch, length_bytes_tcEncPcr,
    length_bytes_tcEncCls, bytes_flatMap, hsum]
  omega

/-- The last field comes after the last check. -/
theorem guarded_tcEncIndMsg (m : TcIndMsg) : (tcEncIndMsg m).Guarded := by
  obtain ⟨l, hl⟩ : ∃ l, tcEncIndMsg m = l ++ i64 m.tstamp := by
    simp only [tcEncIndMsg, ← List.append_assoc]
    exact ⟨_, rfl⟩
  rw [hl]
  apply Guarded.append_left l (plain_i64 m.tstamp).guarded
  exact List.ne_nil_of_length_pos (by rw [length_bytes_i64]; omega)

theorem tcEncIndMsgPlain_eq (m : TcIndMsg) : tcEncIndMsgPlain m = some (tcEncIndMsg m).bytes :=
  (guarded_tcEncIndMsg m).emit_eq [] (length_bytes_tcEncIndMsg m).symm

/-! ## Sizes of the control message -/

/-- `cal_tc_add_ctrl_payload_cls_rr`. -/
def calTcAddCtrlPayloadClsRr (_ : UInt32) : ℕ := 4

/-- `cal_tc_add_ctrl_payload_cls_osi`. -/
def calTcAddCtrlPayloadClsOsi (_ : TcAddClsOsi) : ℕ := 16 + 12 + 0 + 4

/-- `cal_tc_add_ctrl_payload_cls_sto`. -/
def calTcAddCtrlPayloadClsSto (_ : UInt32) : ℕ := 4

/-- `cal_tc_add_ctrl_payload_cls`. -/
def calTcAddCtrlPayloadCls : TcAddCtrlCls → ℕ
  | .rr dummy => 4 + calTcAddCtrlPayloadClsRr dummy
  | .osi osi => 4 + calTcAddCtrlPayloadClsOsi osi
  | .sto dummy => 4 + calTcAddCtrlPayloadClsSto dummy

/-- `cal_tc_mod_ctrl_payload_cls_rr`. -/
def calTcModCtrlPayloadClsRr (_ : UInt32) : ℕ := 4

/-- `cal_tc_mod_ctrl_payload_cls_osi`. -/
def calTcModCtrlPayloadClsOsi (_ : TcClsOsiFilter) : ℕ := 40

/-- `cal_tc_mod_ctrl_payload_cls_sto`. -/
def calTcModCtrlPayloadClsSto (_ : UInt32) : ℕ := 4

/-- `cal_tc_mod_ctrl_payload_cls`. -/
def calTcModCtrlPayloadCls : TcModCtrlCls → ℕ
  | .rr dummy => 4 + calTcModCtrlPayloadClsRr dummy
  | .osi filter => 4 + calTcModCtrlPayloadClsOsi filter
  | .sto dummy => 4 + calTcModCtrlPayloadClsSto dummy

/-- `cal_tc_del_ctrl_payload_cls_rr`. -/
def calTcDelCtrlPayloadClsRr (_ : UInt32) : ℕ := 4

/-- `cal_tc_del_ctrl_payload_cls_osi`. -/
def calTcDelCtrlPayloadClsOsi (_ : UInt32) : ℕ := 4

/-- `cal_tc_del_ctrl_payload_cls_sto`. -/
def calTcDelCtrlPayloadClsSto (_ : UInt32) : ℕ := 4

/-- `cal_tc_del_ctrl_payload_cls`. -/
def calTcDelCtrlPayloadCls : TcDelCtrlCls → ℕ
  | .rr dummy => 4 + calTcDelCtrlPayloadClsRr dummy
  | .osi filterId => 4 + calTcDelCtrlPayloadClsOsi filterId
  | .sto dummy => 4 + calTcDelCtrlPayloadClsSto dummy

/-- The sum of the tag `act` and the part that it selects, as all of `cal_tc_ctrl_payload_cls`,
`…_plc`, `…_q`, `…_sch`, `…_shp` and `…_pcr` compute it. -/
def calTcCtrlPayload {Add Mod Del : Type} (add : Add → ℕ) (mod : Mod → ℕ) (del : Del → ℕ) :
    TcCtrl Add Mod Del → ℕ
  | .add a => 4 + add a
  | .mod m => 4 + mod m
  | .del d => 4 + del d

/-- `cal_tc_ctrl_payload_cls`. -/
def calTcCtrlPayloadCls : TcCtrl TcAddCtrlCls TcModCtrlCls TcDelCtrlCls → ℕ :=
  calTcCtrlPayload calTcAddCtrlPayloadCls calTcModCtrlPayloadCls calTcDelCtrlPayloadCls

/-- `cal_tc_add_ctrl_payload_plc`. -/
def calTcAddCtrlPayloadPlc (_ : UInt32) : ℕ := 4

/-- `cal_tc_mod_ctrl_payload_plc`. -/
def calTcModCtrlPayloadPlc (_ : TcModCtrlPlc) : ℕ := 4 + 4 + 4 + 4 + 4

/-- `cal_tc_del_ctrl_payload_plc`. -/
def calTcDelCtrlPayloadPlc (_ : UInt32) : ℕ := 4

/-- `cal_tc_ctrl_payload_plc`. -/
def calTcCtrlPayloadPlc : TcCtrl UInt32 TcModCtrlPlc UInt32 → ℕ :=
  calTcCtrlPayload calTcAddCtrlPayloadPlc calTcModCtrlPayloadPlc calTcDelCtrlPayloadPlc

/-- `cal_tc_ctrl_payload_q_fifo`. -/
def calTcCtrlPayloadQFifo (_ : UInt32) : ℕ := 4

/-- `cal_tc_ctrl_payload_q_codel`. -/
def calTcCtrlPayloadQCodel (_ : TcCtrlQueueCodel) : ℕ := 4 + 4

/-- `cal_tc_ctrl_payload_q_ecn_codel`. -/
def calTcCtrlPayloadQEcnCodel (_ : TcCtrlQueueCodel) : ℕ := 4 + 4

/-- `cal_tc_ctrl_payload_q_add`. -/
def calTcCtrlPayloadQAdd : TcAddCtrlQueue → ℕ
  | .fifo dummy => 4 + calTcCtrlPayloadQFifo dummy
  | .codel q => 4 + calTcCtrlPayloadQCodel q
  | .ecn q => 4 + calTcCtrlPayloadQEcnCodel q

/-- `cal_tc_ctrl_payload_q_mod`. -/
def calTcCtrlPayloadQMod (mod : TcModCtrlQueue) : ℕ :=
  match mod.kind with
  | .fifo dummy => 4 + 4 + calTcCtrlPayloadQFifo dummy
  | .codel q => 4 + 4 + calTcCtrlPayloadQCodel q
  | .ecn q => 4 + 4 + calTcCtrlPayloadQEcnCodel q

/-- `cal_tc_ctrl_payload_q_del`. -/
def calTcCtrlPayloadQDel (_ : TcDelCtrlQueue) : ℕ := 4 + 4

/-- `cal_tc_ctrl_payload_q`. -/
def calTcCtrlPayloadQ : TcCtrl TcAddCtrlQueue TcModCtrlQueue TcDelCtrlQueue → ℕ :=
  calTcCtrlPayload calTcCtrlPayloadQAdd calTcCtrlPayloadQMod calTcCtrlPayloadQDel

/-- `cal_tc_ctrl_payload_sch_add`. -/
def calTcCtrlPayloadSchAdd (_ : UInt32) : ℕ := 4

/-- `cal_tc_ctrl_payload_sch_mod_rr`. -/
def calTcCtrlPayloadSchModRr (_ : UInt32) : ℕ := 4

/-- `cal_tc_ctrl_payload_sch_mod_prio`. -/
def calTcCtrlPayloadSchModPrio (qPrio : List UInt32) : ℕ := 4 + qPrio.length * 4

/-- `cal_tc_ctrl_payload_sch_mod`. -/
def calTcCtrlPayloadSchMod : TcModCtrlSch → ℕ
  | .rr dummy => 4 + calTcCtrlPayloadSchModRr dummy
  | .prio qPrio => 4 + calTcCtrlPayloadSchModPrio qPrio

/-- `cal_tc_ctrl_payload_sch_del`. -/
def calTcCtrlPayloadSchDel (_ : UInt32) : ℕ := 4

/-- `cal_tc_ctrl_payload_sch`. -/
def calTcCtrlPayloadSch : TcCtrl UInt32 TcModCtrlSch UInt32 → ℕ :=
  calTcCtrlPayload calTcCtrlPayloadSchAdd calTcCtrlPayloadSchMod calTcCtrlPayloadSchDel

/-- `cal_tc_ctrl_payload_shp_add`. -/
def calTcCtrlPayloadShpAdd (_ : UInt32) : ℕ := 4

/-- `cal_tc_ctrl_payload_shp_mod`. -/
def calTcCtrlPayloadShpMod (_ : TcModCtrlShp) : ℕ := 4 + 4 + 4 + 4

/-- `cal_tc_ctrl_payload_shp_del`. -/
def calTcCtrlPayloadShpDel (_ : UInt32) : ℕ := 4

/-- `cal_tc_ctrl_payload_shp`. -/
def calTcCtrlPayloadShp : TcCtrl UInt32 TcModCtrlShp UInt32 → ℕ :=
  calTcCtrlPayload calTcCtrlPayloadShpAdd calTcCtrlPayloadShpMod calTcCtrlPayloadShpDel

/-- `cal_tc_ctrl_payload_pcr_add`. -/
def calTcCtrlPayloadPcrAdd (_ : UInt32) : ℕ := 4

/-- `cal_tc_ctrl_payload_pcr_mod_dummy`. -/
def calTcCtrlPayloadPcrModDummy (_ : UInt32) : ℕ := 4

/-- `cal_tc_ctrl_payload_pcr_mod_bdp`. -/
def calTcCtrlPayloadPcrModBdp (_ : TcPcr5gBdp) : ℕ := 4 + 8

/-- `cal_tc_ctrl_payload_pcr_mod`. -/
def calTcCtrlPayloadPcrMod : TcModCtrlPcr → ℕ
  | .dummy dummy => 4 + calTcCtrlPayloadPcrModDummy dummy
  | .bdp bdp => 4 + calTcCtrlPayloadPcrModBdp bdp

/-- `cal_tc_ctrl_payload_pcr_del`. -/
def calTcCtrlPayloadPcrDel (_ : UInt32) : ℕ := 4

/-- `cal_tc_ctrl_payload_pcr`. -/
def calTcCtrlPayloadPcr : TcCtrl UInt32 TcModCtrlPcr UInt32 → ℕ :=
  calTcCtrlPayload calTcCtrlPayloadPcrAdd calTcCtrlPayloadPcrMod calTcCtrlPayloadPcrDel

/-- `cal_tc_ctrl_payload`. -/
def calTcCtrlMsgPayload : TcCtrlMsg → ℕ
  | .cls cls => 4 + calTcCtrlPayloadCls cls
  | .plc plc => 4 + calTcCtrlPayloadPlc plc
  | .queue q => 4 + calTcCtrlPayloadQ q
  | .sch sch => 4 + calTcCtrlPayloadSch sch
  | .shp shp => 4 + calTcCtrlPayloadShp shp
  | .pcr pcr => 4 + calTcCtrlPayloadPcr pcr

/-! ## The control message -/

/-- `enc_tc_add_ctrl_payload_cls_rr`. -/
def encTcAddCtrlPayloadClsRr (dummy : UInt32) : Layout := u32 dummy

/-- `enc_tc_add_ctrl_payload_cls_osi`. -/
def encTcAddCtrlPayloadClsOsi (osi : TcAddClsOsi) : Layout :=
  i64 osi.l3.srcAddr ++ (i64 osi.l3.dstAddr ++ (i32 osi.l4.srcPort ++ (i32 osi.l4.dstPort ++
    (i32 osi.l4.protocol ++ i32 osi.dstQueue))))

/-- `enc_tc_add_ctrl_payload_cls_sto`. -/
def encTcAddCtrlPayloadClsSto (dummy : UInt32) : Layout := u32 dummy

/-- `enc_tc_add_ctrl_payload_cls`. -/
def encTcAddCtrlPayloadCls (add : TcAddCtrlCls) : Layout :=
  u32 add.type.toUInt32 ++
    match add with
    | .rr dummy => encTcAddCtrlPayloadClsRr dummy
    | .osi osi => encTcAddCtrlPayloadClsOsi osi
    | .sto dummy => encTcAddCtrlPayloadClsSto dummy

/-- `enc_tc_mod_ctrl_payload_cls_rr`. -/
def encTcModCtrlPayloadClsRr (dummy : UInt32) : Layout := u32 dummy

/-- `enc_tc_mod_ctrl_payload_cls_osi`: it copies the struct. -/
def encTcModCtrlPayloadClsOsi (filter : TcClsOsiFilter) : Layout := tcEncClsOsiFilter filter

/-- `enc_tc_mod_ctrl_payload_cls_sto`. -/
def encTcModCtrlPayloadClsSto (dummy : UInt32) : Layout := u32 dummy

/-- `enc_tc_mod_ctrl_payload_cls`. -/
def encTcModCtrlPayloadCls (mod : TcModCtrlCls) : Layout :=
  u32 mod.type.toUInt32 ++
    match mod with
    | .rr dummy => encTcModCtrlPayloadClsRr dummy
    | .osi filter => encTcModCtrlPayloadClsOsi filter
    | .sto dummy => encTcModCtrlPayloadClsSto dummy

/-- `enc_tc_del_ctrl_payload_cls_rr`. -/
def encTcDelCtrlPayloadClsRr (dummy : UInt32) : Layout := u32 dummy

/-- `enc_tc_del_ctrl_payload_cls_osi`. -/
def encTcDelCtrlPayloadClsOsi (filterId : UInt32) : Layout := u32 filterId

/-- `enc_tc_del_ctrl_payload_cls_sto`. -/
def encTcDelCtrlPayloadClsSto (dummy : UInt32) : Layout := u32 dummy

/-- `enc_tc_del_ctrl_payload_cls`. -/
def encTcDelCtrlPayloadCls (del : TcDelCtrlCls) : Layout :=
  u32 del.type.toUInt32 ++
    match del with
    | .rr dummy => encTcDelCtrlPayloadClsRr dummy
    | .osi filterId => encTcDelCtrlPayloadClsOsi filterId
    | .sto dummy => encTcDelCtrlPayloadClsSto dummy

/-- The tag `act` and the part that it selects, as all of `enc_tc_ctrl_payload_cls`, `…_plc`,
`…_q`, `…_sch`, `…_shp` and `…_pcr` copy it. -/
def encTcCtrlPayload {Add Mod Del : Type} (add : Add → Layout) (mod : Mod → Layout)
    (del : Del → Layout) (c : TcCtrl Add Mod Del) : Layout :=
  u32 c.act.toUInt32 ++
    match c with
    | .add a => add a
    | .mod m => mod m
    | .del d => del d

/-- `enc_tc_ctrl_payload_cls`. -/
def encTcCtrlPayloadCls : TcCtrl TcAddCtrlCls TcModCtrlCls TcDelCtrlCls → Layout :=
  encTcCtrlPayload encTcAddCtrlPayloadCls encTcModCtrlPayloadCls encTcDelCtrlPayloadCls

/-- `enc_tc_add_ctrl_payload_plc`. -/
def encTcAddCtrlPayloadPlc (dummy : UInt32) : Layout := u32 dummy

/-- `enc_tc_mod_ctrl_payload_plc`. -/
def encTcModCtrlPayloadPlc (mod : TcModCtrlPlc) : Layout :=
  u32 mod.id ++ (u32 mod.dropRateKbps ++ (u32 mod.devId ++ (u32 mod.devRateKbps ++
    u32 mod.active)))

/-- `enc_tc_del_ctrl_payload_plc`. -/
def encTcDelCtrlPayloadPlc (id : UInt32) : Layout := u32 id

/-- `enc_tc_ctrl_payload_plc`. -/
def encTcCtrlPayloadPlc : TcCtrl UInt32 TcModCtrlPlc UInt32 → Layout :=
  encTcCtrlPayload encTcAddCtrlPayloadPlc encTcModCtrlPayloadPlc encTcDelCtrlPayloadPlc

/-- `enc_tc_ctrl_payload_q_fifo`. -/
def encTcCtrlPayloadQFifo (dummy : UInt32) : Layout := u32 dummy

/-- `enc_tc_ctrl_payload_q_codel`. -/
def encTcCtrlPayloadQCodel (q : TcCtrlQueueCodel) : Layout := u32 q.targetMs ++ u32 q.intervalMs

/-- `enc_tc_ctrl_payload_q_ecn_codel`. -/
def encTcCtrlPayloadQEcnCodel (q : TcCtrlQueueCodel) : Layout :=
  u32 q.targetMs ++ u32 q.intervalMs

/-- The part of a queue that its tag selects. -/
def encTcCtrlPayloadQKind : TcAddCtrlQueue → Layout
  | .fifo dummy => encTcCtrlPayloadQFifo dummy
  | .codel q => encTcCtrlPayloadQCodel q
  | .ecn q => encTcCtrlPayloadQEcnCodel q

/-- `enc_tc_add_ctrl_payload_q`. -/
def encTcAddCtrlPayloadQ (add : TcAddCtrlQueue) : Layout :=
  u32 add.type.toUInt32 ++ encTcCtrlPayloadQKind add

/-- `enc_tc_mod_ctrl_payload_q`. -/
def encTcModCtrlPayloadQ (mod : TcModCtrlQueue) : Layout :=
  u32 mod.id ++ (u32 mod.kind.type.toUInt32 ++ encTcCtrlPayloadQKind mod.kind)

/-- `enc_tc_del_ctrl_payload_q`. -/
def encTcDelCtrlPayloadQ (del : TcDelCtrlQueue) : Layout := u32 del.id ++ u32 del.type

/-- `enc_tc_ctrl_payload_q`. -/
def encTcCtrlPayloadQ : TcCtrl TcAddCtrlQueue TcModCtrlQueue TcDelCtrlQueue → Layout :=
  encTcCtrlPayload encTcAddCtrlPayloadQ encTcModCtrlPayloadQ encTcDelCtrlPayloadQ

/-- `enc_tc_add_ctrl_payload_sch`. -/
def encTcAddCtrlPayloadSch (dummy : UInt32) : Layout := u32 dummy

/-- `enc_tc_mod_ctrl_payload_sch_rr`. -/
def encTcModCtrlPayloadSchRr (dummy : UInt32) : Layout := u32 dummy

/-- `enc_tc_mod_ctrl_payload_sch_prio`. -/
def encTcModCtrlPayloadSchPrio (qPrio : List UInt32) : Layout :=
  u32 (UInt32.ofNat qPrio.length) ++ qPrio.flatMap u32

/-- `enc_tc_mod_ctrl_payload_sch`. -/
def encTcModCtrlPayloadSch (mod : TcModCtrlSch) : Layout :=
  u32 mod.type.toUInt32 ++
    match mod with
    | .rr dummy => encTcModCtrlPayloadSchRr dummy
    | .prio qPrio => encTcModCtrlPayloadSchPrio qPrio

/-- `enc_tc_del_ctrl_payload_sch`. -/
def encTcDelCtrlPayloadSch (dummy : UInt32) : Layout := u32 dummy

/-- `enc_tc_ctrl_payload_sch`. -/
def encTcCtrlPayloadSch : TcCtrl UInt32 TcModCtrlSch UInt32 → Layout :=
  encTcCtrlPayload encTcAddCtrlPayloadSch encTcModCtrlPayloadSch encTcDelCtrlPayloadSch

/-- `enc_tc_add_ctrl_payload_shp`. -/
def encTcAddCtrlPayloadShp (dummy : UInt32) : Layout := u32 dummy

/-- `enc_tc_mod_ctrl_payload_shp`. -/
def encTcModCtrlPayloadShp (mod : TcModCtrlShp) : Layout :=
  u32 mod.id ++ (u32 mod.timeWindowMs ++ (u32 mod.maxRateKbps ++ u32 mod.active))

/-- `enc_tc_del_ctrl_payload_shp`. -/
def encTcDelCtrlPayloadShp (id : UInt32) : Layout := u32 id

/-- `enc_tc_ctrl_payload_shp`. -/
def encTcCtrlPayloadShp : TcCtrl UInt32 TcModCtrlShp UInt32 → Layout :=
  encTcCtrlPayload encTcAddCtrlPayloadShp encTcModCtrlPayloadShp encTcDelCtrlPayloadShp

/-- `enc_tc_add_ctrl_payload_pcr`. -/
def encTcAddCtrlPayloadPcr (dummy : UInt32) : Layout := u32 dummy

/-- `enc_tc_mod_ctrl_payload_pcr_dummy`. -/
def encTcModCtrlPayloadPcrDummy (dummy : UInt32) : Layout := u32 dummy

/-- `enc_tc_mod_ctrl_payload_pcr_bdp`. -/
def encTcModCtrlPayloadPcrBdp (bdp : TcPcr5gBdp) : Layout := u32 bdp.drbSz ++ i64 bdp.tstamp

/-- `enc_tc_mod_ctrl_payload_pcr`. -/
def encTcModCtrlPayloadPcr (mod : TcModCtrlPcr) : Layout :=
  u32 mod.type.toUInt32 ++
    match mod with
    | .dummy dummy => encTcModCtrlPayloadPcrDummy dummy
    | .bdp bdp => encTcModCtrlPayloadPcrBdp bdp

/-- `enc_tc_del_ctrl_payload_pcr`. -/
def encTcDelCtrlPayloadPcr (dummy : UInt32) : Layout := u32 dummy

/-- `enc_tc_ctrl_payload_pcr`. -/
def encTcCtrlPayloadPcr : TcCtrl UInt32 TcModCtrlPcr UInt32 → Layout :=
  encTcCtrlPayload encTcAddCtrlPayloadPcr encTcModCtrlPayloadPcr encTcDelCtrlPayloadPcr

/-- The layout of `tc_enc_ctrl_msg_plain`. -/
def tcEncCtrlMsg (m : TcCtrlMsg) : Layout :=
  u32 m.type.toUInt32 ++
    match m with
    | .cls cls => encTcCtrlPayloadCls cls
    | .plc plc => encTcCtrlPayloadPlc plc
    | .queue q => encTcCtrlPayloadQ q
    | .sch sch => encTcCtrlPayloadSch sch
    | .shp shp => encTcCtrlPayloadShp shp
    | .pcr pcr => encTcCtrlPayloadPcr pcr

/-- `tc_enc_ctrl_msg_plain`. -/
def tcEncCtrlMsgPlain (m : TcCtrlMsg) : Option (List UInt8) :=
  (tcEncCtrlMsg m).emit (calTcCtrlMsgPayload m) []

/-! The encoder fills the buffer exactly, and makes no checks on the way. -/

/-- The layout has the size `sz` and no checks. -/
structure Fills (l : Layout) (sz : ℕ) : Prop where
  length : l.bytes.length = sz
  plain : l.Plain

theorem fills_u32 (v : UInt32) : Fills (u32 v) 4 := ⟨length_bytes_u32 v, plain_u32 v⟩

theorem fills_tcEncClsOsiFilter (flt : TcClsOsiFilter) : Fills (tcEncClsOsiFilter flt) 40 :=
  ⟨length_bytes_tcEncClsOsiFilter flt, by simp [tcEncClsOsiFilter]⟩

theorem Fills.append {l l' : Layout} {sz sz' : ℕ} (h : Fills l sz) (h' : Fills l' sz') :
    Fills (l ++ l') (sz + sz') :=
  ⟨by rw [bytes_append, List.length_append, h.length, h'.length],
    plain_append.2 ⟨h.plain, h'.plain⟩⟩

theorem fills_encTcCtrlPayload {Add Mod Del : Type} {encAdd : Add → Layout} {calAdd : Add → ℕ}
    {encMod : Mod → Layout} {calMod : Mod → ℕ} {encDel : Del → Layout} {calDel : Del → ℕ}
    (hadd : ∀ a, Fills (encAdd a) (calAdd a)) (hmod : ∀ m, Fills (encMod m) (calMod m))
    (hdel : ∀ d, Fills (encDel d) (calDel d)) (c : TcCtrl Add Mod Del) :
    Fills (encTcCtrlPayload encAdd encMod encDel c) (calTcCtrlPayload calAdd calMod calDel c) := by
  cases c with
  | add a => exact (fills_u32 _).append (hadd a)
  | mod m => exact (fills_u32 _).append (hmod m)
  | del d => exact (fills_u32 _).append (hdel d)

theorem fills_encTcCtrlPayloadCls (cls : TcCtrl TcAddCtrlCls TcModCtrlCls TcDelCtrlCls) :
    Fills (encTcCtrlPayloadCls cls) (calTcCtrlPayloadCls cls) := by
  refine fills_encTcCtrlPayload (fun add => ?_) (fun mod => ?_) (fun del => ?_) cls
  · cases add with
    | rr dummy => exact (fills_u32 _).append (fills_u32 _)
    | osi osi =>
      refine (fills_u32 _).append ⟨?_, ?_⟩
      · simp [encTcAddCtrlPayloadClsOsi, calTcAddCtrlPayloadClsOsi]
      · simp [encTcAddCtrlPayloadClsOsi]
    | sto dummy => exact (fills_u32 _).append (fills_u32 _)
  · cases mod with
    | rr dummy => exact (fills_u32 _).append (fills_u32 _)
    | osi filter => exact (fills_u32 _).append (fills_tcEncClsOsiFilter filter)
    | sto dummy => exact (fills_u32 _).append (fills_u32 _)
  · cases del with
    | rr dummy => exact (fills_u32 _).append (fills_u32 _)
    | osi filterId => exact (fills_u32 _).append (fills_u32 _)
    | sto dummy => exact (fills_u32 _).append (fills_u32 _)

theorem fills_encTcCtrlPayloadPlc (plc : TcCtrl UInt32 TcModCtrlPlc UInt32) :
    Fills (encTcCtrlPayloadPlc plc) (calTcCtrlPayloadPlc plc) := by
  refine fills_encTcCtrlPayload fills_u32 (fun mod => ⟨?_, ?_⟩) fills_u32 plc
  · simp [encTcModCtrlPayloadPlc, calTcModCtrlPayloadPlc]
  · simp [encTcModCtrlPayloadPlc]

theorem fills_encTcCtrlPayloadQ (q : TcCtrl TcAddCtrlQueue TcModCtrlQueue TcDelCtrlQueue) :
    Fills (encTcCtrlPayloadQ q) (calTcCtrlPayloadQ q) := by
  refine fills_encTcCtrlPayload (fun add => ?_) (fun mod => ?_)
    (fun del => (fills_u32 _).append (fills_u32 _)) q
  · cases add with
    | fifo dummy => exact (fills_u32 _).append (fills_u32 _)
    | codel q => exact (fills_u32 _).append ((fills_u32 _).append (fills_u32 _))
    | ecn q => exact (fills_u32 _).append ((fills_u32 _).append (fills_u32 _))
  · obtain ⟨id, kind⟩ := mod
    cases kind with
    | fifo dummy => exact (fills_u32 _).append ((fills_u32 _).append (fills_u32 _))
    | codel q =>
      exact (fills_u32 _).append ((fills_u32 _).append ((fills_u32 _).append (fills_u32 _)))
    | ecn q =>
      exact (fills_u32 _).append ((fills_u32 _).append ((fills_u32 _).append (fills_u32 _)))

theorem fills_encTcCtrlPayloadSch (sch : TcCtrl UInt32 TcModCtrlSch UInt32) :
    Fills (encTcCtrlPayloadSch sch) (calTcCtrlPayloadSch sch) := by
  refine fills_encTcCtrlPayload fills_u32 (fun mod => ?_) fills_u32 sch
  cases mod with
  | rr dummy => exact (fills_u32 _).append (fills_u32 _)
  | prio qPrio =>
    refine (fills_u32 _).append ((fills_u32 _).append ⟨?_, ?_⟩)
    · simp [bytes_flatMap, List.length_flatMap]
    · simp

theorem fills_encTcCtrlPayloadShp (shp : TcCtrl UInt32 TcModCtrlShp UInt32) :
    Fills (encTcCtrlPayloadShp shp) (calTcCtrlPayloadShp shp) := by
  refine fills_encTcCtrlPayload fills_u32 (fun mod => ⟨?_, ?_⟩) fills_u32 shp
  · simp [encTcModCtrlPayloadShp, calTcCtrlPayloadShpMod]
  · simp [encTcModCtrlPayloadShp]

theorem fills_encTcCtrlPayloadPcr (pcr : TcCtrl UInt32 TcModCtrlPcr UInt32) :
    Fills (encTcCtrlPayloadPcr pcr) (calTcCtrlPayloadPcr pcr) := by
  refine fills_encTcCtrlPayload fills_u32 (fun mod => ?_) fills_u32 pcr
  cases mod with
  | dummy dummy => exact (fills_u32 _).append (fills_u32 _)
  | bdp bdp => exact (fills_u32 _).append ((fills_u32 _).append ⟨by simp, by simp⟩)

theorem fills_tcEncCtrlMsg (m : TcCtrlMsg) : Fills (tcEncCtrlMsg m) (calTcCtrlMsgPayload m) := by
  cases m with
  | cls cls => exact (fills_u32 _).append (fills_encTcCtrlPayloadCls cls)
  | plc plc => exact (fills_u32 _).append (fills_encTcCtrlPayloadPlc plc)
  | queue q => exact (fills_u32 _).append (fills_encTcCtrlPayloadQ q)
  | sch sch => exact (fills_u32 _).append (fills_encTcCtrlPayloadSch sch)
  | shp shp => exact (fills_u32 _).append (fills_encTcCtrlPayloadShp shp)
  | pcr pcr => exact (fills_u32 _).append (fills_encTcCtrlPayloadPcr pcr)

theorem tcEncCtrlMsgPlain_eq (m : TcCtrlMsg) :
    tcEncCtrlMsgPlain m = some (tcEncCtrlMsg m).bytes :=
  (fills_tcEncCtrlMsg m).plain.emit_eq [] (fills_tcEncCtrlMsg m).length.symm

/-- The size that is computed first is the number of the bytes that are written then, every write
stays inside of the buffer, and no check fails. -/
theorem tcEnc_fitsIn :
    (∀ m : TcIndMsg, (tcEncIndMsg m).FitsIn (calIndMsgPayload m) ∧
      tcEncIndMsgPlain m = some (tcEncIndMsg m).bytes) ∧
    ∀ m : TcCtrlMsg, (tcEncCtrlMsg m).FitsIn (calTcCtrlMsgPayload m) ∧
      tcEncCtrlMsgPlain m = some (tcEncCtrlMsg m).bytes := by
  constructor
  · intro m
    exact ⟨(guarded_tcEncIndMsg m).fitsIn (length_bytes_tcEncIndMsg m), tcEncIndMsgPlain_eq m⟩
  · intro m
    have hfills := fills_tcEncCtrlMsg m
    exact ⟨hfills.plain.guarded.fitsIn hfills.length, tcEncCtrlMsgPlain_eq m⟩

end FlexRic
