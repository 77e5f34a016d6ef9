import FlexRic.Sm.Tc.EncPlain

/-!
# The decoder of the traffic control messages (`sm/tc_sm/dec/tc_dec_plain.c`)

The decoder reads tags and lengths and goes on by their values. It compares its position with the
end of the bytes after each part of an indication message and at the end of a message, and
nowhere else. The memory for the lists can always be allocated.
-/

namespace FlexRic

open Decoder

/-! ## The indication message -/

/-- `tc_dec_sch_rr`: it reads nothing, the message was zeroed before. -/
def tcDecSchRr : Decoder UInt32 := pure 0

/-- `tc_dec_sch_prio`. -/
def tcDecSchPrio : Decoder (List UInt32) := do
  let lenQPrio ← u32
  repeatN u32 lenQPrio.toNat

/-- `tc_dec_sch`. -/
def tcDecSch : Decoder TcSch := do
  let type ← u32
  if type = TcSchE.rr.toUInt32 then TcSch.rr <$> tcDecSchRr
  else if type = TcSchE.prio.toUInt32 then TcSch.prio <$> tcDecSchPrio
  else reject

/-- `tc_dec_mtr`. -/
def tcDecMtr : Decoder TcMtr := do
  let bnd ← u32
  let timeWindowMs ← u32
  pure ⟨timeWindowMs, bnd⟩

/-- `tc_dec_pcr`. -/
def tcDecPcr : Decoder TcPcr := do
  let type ← u32
  let id ← u32
  let mtr ← tcDecMtr
  pure ⟨type, id, mtr⟩

/-- `tc_dec_cls_rr`. -/
def tcDecClsRr : Decoder UInt32 := u32

/-- The `memcpy` of a `tc_cls_osi_filter_t`. -/
def tcDecClsOsiFilter : Decoder TcClsOsiFilter := do
  let id ← u32
  let pad ← u32
  let srcAddr ← i64
  let dstAddr ← i64
  let srcPort ← i32
  let dstPort ← i32
  let protocol ← i32
  let dstQueue ← i32
  pure ⟨id, pad, ⟨srcAddr, dstAddr⟩, ⟨srcPort, dstPort, protocol⟩, dstQueue⟩

/-- `tc_dec_cls_osi`. -/
def tcDecClsOsi : Decoder (List TcClsOsiFilter) := do
  let len ← u32
  repeatN tcDecClsOsiFilter len.toNat

/-- `tc_dec_cls_sto`. -/
def tcDecClsSto : Decoder UInt32 := u32

/-- `tc_dec_cls`. -/
def tcDecCls : Decoder TcCls := do
  let type ← u32
  if type = TcClsE.rr.toUInt32 then TcCls.rr <$> tcDecClsRr
  else if type = TcClsE.osi.toUInt32 then TcCls.osi <$> tcDecClsOsi
  else if type = TcClsE.sto.toUInt32 then TcCls.sto <$> tcDecClsSto
  else reject

/-- `tc_dec_shp`. -/
def tcDecShp : Decoder TcShp := do
  let id ← u32
  let active ← u32
  let maxRateKbps ← u32
  let mtr ← tcDecMtr
  pure ⟨id, active, maxRateKbps, mtr⟩

/-- `tc_dec_drp`. -/
def tcDecDrp : Decoder TcDrp := TcDrp.mk <$> u32

/-- `tc_dec_mrk`. -/
def tcDecMrk : Decoder TcMrk := TcMrk.mk <$> u32

/-- `tc_dec_plc`. -/
def tcDecPlc : Decoder TcPlc := do
  let id ← u32
  let mtr ← tcDecMtr
  let drp ← tcDecDrp
  let mrk ← tcDecMrk
  let maxRateKbps ← u32
  let active ← u32
  let dstId ← u32
  let devId ← u32
  pure ⟨id, mtr, drp, mrk, maxRateKbps, active, dstId, devId⟩

/-- `tc_dec_q_fifo`. -/
def tcDecQFifo : Decoder TcQueueFifo := do
  let bytes ← u32
  let pkts ← u32
  let bytesFwd ← u32
  let pktsFwd ← u32
  let drp ← tcDecDrp
  let avgSojournTime ← u32
  let lastSojournTime ← i64
  pure ⟨bytes, pkts, bytesFwd, pktsFwd, drp, avgSojournTime, lastSojournTime⟩

/-- `tc_dec_q_codel`. -/
def tcDecQCodel : Decoder TcQueueCodel := do
  let bytes ← u32
  let pkts ← u32
  let bytesFwd ← u32
  let pktsFwd ← u32
  let drp ← tcDecDrp
  let avgSojournTime ← u32
  let lastSojournTime ← i64
  pure ⟨bytes, pkts, bytesFwd, pktsFwd, drp, avgSojournTime, lastSojournTime⟩

/-- `tc_dec_q_ecn_codel`. -/
def tcDecQEcnCodel : Decoder TcQueueEcnCodel := do
  let bytes ← u32
  let pkts ← u32
  let bytesFwd ← u32
  let pktsFwd ← u32
  let mrk ← tcDecMrk
  let avgSojournTime ← u32
  let lastSojournTime ← i64
  pure ⟨bytes, pkts, bytesFwd, pktsFwd, mrk, avgSojournTime, lastSojournTime⟩

/-- `tc_dec_q`: the id of the queue stays zero. -/
def tcDecQ : Decoder TcQueue := do
  let type ← u32
  if type = TcQueueE.fifo.toUInt32 then (fun q => ⟨0, .fifo q⟩) <$> tcDecQFifo
  else if type = TcQueueE.codel.toUInt32 then (fun q => ⟨0, .codel q⟩) <$> tcDecQCodel
  else if type = TcQueueE.ecnCodel.toUInt32 then (fun q => ⟨0, .ecn q⟩) <$> tcDecQEcnCodel
  else reject

/-- One round of the loop of `tc_dec_ind_msg_plain`. -/
def tcDecShpPlcQ : Decoder (TcShp × TcPlc × TcQueue) := do
  let shp ← tcDecShp
  check
  let plc ← tcDecPlc
  check
  let q ← tcDecQ
  check
  pure (shp, plc, q)

/-- What `tc_dec_ind_msg_plain` reads. -/
def tcDecIndMsg : Decoder TcIndMsg := do
  let sch ← tcDecSch
  check
  let pcr ← tcDecPcr
  check
  let cls ← tcDecCls
  check
  let lenQ ← u32
  check
  let shpPlcQ ← repeatN tcDecShpPlcQ lenQ.toNat
  let tstamp ← i64
  pure ⟨sch, pcr, cls, shpPlcQ, tstamp⟩

/-- `tc_dec_ind_msg_plain`. -/
def tcDecIndMsgPlain : Decoder TcIndMsg := tcDecIndMsg.last

/-! ## The control message -/

/-- `dec_tc_add_ctrl_payload_cls_rr`. -/
def decTcAddCtrlPayloadClsRr : Decoder UInt32 := u32

/-- `dec_tc_add_ctrl_payload_cls_osi`. -/
def decTcAddCtrlPayloadClsOsi : Decoder TcAddClsOsi := do
  let srcAddr ← i64
  let dstAddr ← i64
  let srcPort ← i32
  let dstPort ← i32
  let protocol ← i32
  let dstQueue ← i32
  pure ⟨⟨srcAddr, dstAddr⟩, ⟨srcPort, dstPort, protocol⟩, dstQueue⟩

/-- `dec_tc_add_ctrl_payload_cls_sto`. -/
def decTcAddCtrlPayloadClsSto : Decoder UInt32 := u32

/-- `dec_tc_add_ctrl_payload_cls`. -/
def decTcAddCtrlPayloadCls : Decoder TcAddCtrlCls := do
  let type ← u32
  if type = TcClsE.rr.toUInt32 then TcAddCtrlCls.rr <$> decTcAddCtrlPayloadClsRr
  else if type = TcClsE.osi.toUInt32 then TcAddCtrlCls.osi <$> decTcAddCtrlPayloadClsOsi
  else if type = TcClsE.sto.toUInt32 then TcAddCtrlCls.sto <$> decTcAddCtrlPayloadClsSto
  else reject

/-- `dec_tc_del_ctrl_payload_cls_rr`. -/
def decTcDelCtrlPayloadClsRr : Decoder UInt32 := u32

/-- `dec_tc_del_ctrl_payload_cls_osi`. -/
def decTcDelCtrlPayloadClsOsi : Decoder UInt32 := u32

/-- `dec_tc_del_ctrl_payload_cls_sto`. -/
def decTcDelCtrlPayloadClsSto : Decoder UInt32 := u32

/-- `dec_tc_del_ctrl_payload_cls`. -/
def decTcDelCtrlPayloadCls : Decoder TcDelCtrlCls := do
  let type ← u32
  if type = TcClsE.rr.toUInt32 then TcDelCtrlCls.rr <$> decTcDelCtrlPayloadClsRr
  else if type = TcClsE.osi.toUInt32 then TcDelCtrlCls.osi <$> decTcDelCtrlPayloadClsOsi
  else if type = TcClsE.sto.toUInt32 then TcDelCtrlCls.sto <$> decTcDelCtrlPayloadClsSto
  else reject

/-- `dec_tc_mod_ctrl_payload_cls_rr`. -/
def decTcModCtrlPayloadClsRr : Decoder UInt32 := u32

/-- `dec_tc_mod_ctrl_payload_cls_osi`: it copies the struct. -/
def decTcModCtrlPayloadClsOsi : Decoder TcClsOsiFilter := tcDecClsOsiFilter

/-- `dec_tc_mod_ctrl_payload_cls_sto`. -/
def decTcModCtrlPayloadClsSto : Decoder UInt32 := u32

/-- `dec_tc_mod_ctrl_payload_cls`. -/
def decTcModCtrlPayloadCls : Decoder TcModCtrlCls := do
  let type ← u32
  if type = TcClsE.rr.toUInt32 then TcModCtrlCls.rr <$> decTcModCtrlPayloadClsRr
  else if type = TcClsE.osi.toUInt32 then TcModCtrlCls.osi <$> decTcModCtrlPayloadClsOsi
  else if type = TcClsE.sto.toUInt32 then TcModCtrlCls.sto <$> decTcModCtrlPayloadClsSto
  else reject

/-- The tag `act` and the part that it selects, as all of `dec_tc_ctrl_payload_cls`, `…_plc`,
`…_q`, `…_sch`, `…_shp` and `…_pcr` read it. -/
def decTcCtrlPayload {Add Mod Del : Type} (add : Decoder Add) (mod : Decoder Mod)
    (del : Decoder Del) : Decoder (TcCtrl Add Mod Del) := do
  let act ← u32
  if act = TcCtrlActE.add.toUInt32 then TcCtrl.add <$> add
  else if act = TcCtrlActE.del.toUInt32 then TcCtrl.del <$> del
  else if act = TcCtrlActE.mod.toUInt32 then TcCtrl.mod <$> mod
  else reject

/-- `dec_tc_ctrl_payload_cls`. -/
def decTcCtrlPayloadCls : Decoder (TcCtrl TcAddCtrlCls TcModCtrlCls TcDelCtrlCls) :=
  decTcCtrlPayload decTcAddCtrlPayloadCls decTcModCtrlPayloadCls decTcDelCtrlPayloadCls

/-- `dec_tc_add_ctrl_payload_plc`. -/
def decTcAddCtrlPayloadPlc : Decoder UInt32 := u32

/-- `dec_tc_del_ctrl_payload_plc`. -/
def decTcDelCtrlPayloadPlc : Decoder UInt32 := u32

/-- `dec_tc_mod_ctrl_payload_plc`. -/
def decTcModCtrlPayloadPlc : Decoder TcModCtrlPlc := do
  let id ← u32
  let dropRateKbps ← u32
  let devId ← u32
  let devRateKbps ← u32
  let active ← u32
  pure ⟨id, dropRateKbps, devId, devRateKbps, active⟩

/-- `dec_tc_ctrl_payload_plc`. -/
def decTcCtrlPayloadPlc : Decoder (TcCtrl UInt32 TcModCtrlPlc UInt32) :=
  decTcCtrlPayload decTcAddCtrlPayloadPlc decTcModCtrlPayloadPlc decTcDelCtrlPayloadPlc

/-- `dec_tc_ctrl_payload_q_fifo`. -/
def decTcCtrlPayloadQFifo : Decoder UInt32 := u32

/-- `dec_tc_ctrl_payload_q_codel`. -/
def decTcCtrlPayloadQCodel : Decoder TcCtrlQueueCodel := do
  let targetMs ← u32
  let intervalMs ← u32
  pure ⟨targetMs, intervalMs⟩

/-- `dec_tc_ctrl_payload_q_ecn_codel`. -/
def decTcCtrlPayloadQEcnCodel : Decoder TcCtrlQueueCodel := do
  let targetMs ← u32
  let intervalMs ← u32
  pure ⟨targetMs, intervalMs⟩

/-- `dec_tc_add_ctrl_payload_q`, and the same part of `dec_tc_mod_ctrl_payload_q`. -/
def decTcAddCtrlPayloadQ : Decoder TcAddCtrlQueue := do
  let type ← u32
  if type = TcQueueE.fifo.toUInt32 then TcAddCtrlQueue.fifo <$> decTcCtrlPayloadQFifo
  else if type = TcQueueE.codel.toUInt32 then TcAddCtrlQueue.codel <$> decTcCtrlPayloadQCodel
  else if type = TcQueueE.ecnCodel.toUInt32 then
    TcAddCtrlQueue.ecn <$> decTcCtrlPayloadQEcnCodel
  else reject

/-- `dec_tc_del_ctrl_payload_q`. -/
def decTcDelCtrlPayloadQ : Decoder TcDelCtrlQueue := do
  let id ← u32
  let type ← u32
  pure ⟨id, type⟩

/-- `dec_tc_mod_ctrl_payload_q`. -/
def decTcModCtrlPayloadQ : Decoder TcModCtrlQueue := do
  let id ← u32
  let kind ← decTcAddCtrlPayloadQ
  pure ⟨id, kind⟩

/-- `dec_tc_ctrl_payload_q`. -/
def decTcCtrlPayloadQ : Decoder (TcCtrl TcAddCtrlQueue TcModCtrlQueue TcDelCtrlQueue) :=
  decTcCtrlPayload decTcAddCtrlPayloadQ decTcModCtrlPayloadQ decTcDelCtrlPayloadQ

/-- `dec_tc_add_ctrl_payload_sch`. -/
def decTcAddCtrlPayloadSch : Decoder UInt32 := u32

/-- `dec_tc_del_ctrl_payload_sch`. -/
def decTcDelCtrlPayloadSch : Decoder UInt32 := u32

/-- `dec_tc_mod_ctrl_payload_sch_rr`. -/
def decTcModCtrlPayloadSchRr : Decoder UInt32 := u32

/-- `dec_tc_mod_ctrl_payload_sch_prio`. -/
def decTcModCtrlPayloadSchPrio : Decoder (List UInt32) := do
  let lenQPrio ← u32
  repeatN u32 lenQPrio.toNat

/-- `dec_tc_mod_ctrl_payload_sch`. -/
def decTcModCtrlPayloadSch : Decoder TcModCtrlSch := do
  let type ← u32
  if type = TcSchE.rr.toUInt32 then TcSch.rr <$> decTcModCtrlPayloadSchRr
  else if type = TcSchE.prio.toUInt32 then TcSch.prio <$> decTcModCtrlPayloadSchPrio
  else reject

/-- `dec_tc_ctrl_payload_sch`. -/
def decTcCtrlPayloadSch : Decoder (TcCtrl UInt32 TcModCtrlSch UInt32) :=
  decTcCtrlPayload decTcAddCtrlPayloadSch decTcModCtrlPayloadSch decTcDelCtrlPayloadSch

/-- `dec_tc_add_ctrl_payload_shp`. -/
def decTcAddCtrlPayloadShp : Decoder UInt32 := u32

/-- `dec_tc_del_ctrl_payload_shp`. -/
def decTcDelCtrlPayloadShp : Decoder UInt32 := u32

/-- `dec_tc_mod_ctrl_payload_shp`. -/
def decTcModCtrlPayloadShp : Decoder TcModCtrlShp := do
  let id ← u32
  let timeWindowMs ← u32
  let maxRateKbps ← u32
  let active ← u32
  pure ⟨id, timeWindowMs, maxRateKbps, active⟩

/-- `dec_tc_ctrl_payload_shp`. -/
def decTcCtrlPayloadShp : Decoder (TcCtrl UInt32 TcModCtrlShp UInt32) :=
  decTcCtrlPayload decTcAddCtrlPayloadShp decTcModCtrlPayloadShp decTcDelCtrlPayloadShp

/-- `dec_tc_add_ctrl_payload_pcr`. -/
def decTcAddCtrlPayloadPcr : Decoder UInt32 := u32

/-- `dec_tc_del_ctrl_payload_pcr`. -/
def decTcDelCtrlPayloadPcr : Decoder UInt32 := u32

/-- `dec_tc_mod_ctrl_payload_pcr_dummy`. -/
def decTcModCtrlPayloadPcrDummy : Decoder UInt32 := u32

/-- `dec_tc_mod_ctrl_payload_pcr_bdp`. -/
def decTcModCtrlPayloadPcrBdp : Decoder TcPcr5gBdp := do
  let drbSz ← u32
  let tstamp ← i64
  pure ⟨drbSz, tstamp⟩

/-- `dec_tc_mod_ctrl_payload_pcr`. -/
def decTcModCtrlPayloadPcr : Decoder TcModCtrlPcr := do
  let type ← u32
  if type = TcPcrE.dummy.toUInt32 then TcModCtrlPcr.dummy <$> decTcModCtrlPayloadPcrDummy
  else if type = TcPcrE.bdp5g.toUInt32 then TcModCtrlPcr.bdp <$> decTcModCtrlPayloadPcrBdp
  else reject

/-- `dec_tc_ctrl_payload_pcr`. -/
def decTcCtrlPayloadPcr : Decoder (TcCtrl UInt32 TcModCtrlPcr UInt32) :=
  decTcCtrlPayload decTcAddCtrlPayloadPcr decTcModCtrlPayloadPcr decTcDelCtrlPayloadPcr

/-- What `tc_dec_ctrl_msg_plain` reads. -/
def tcDecCtrlMsg : Decoder TcCtrlMsg := do
  let type ← u32
  if type = TcCtrlMsgE.cls.toUInt32 then TcCtrlMsg.cls <$> decTcCtrlPayloadCls
  else if type = TcCtrlMsgE.plc.toUInt32 then TcCtrlMsg.plc <$> decTcCtrlPayloadPlc
  else if type = TcCtrlMsgE.queue.toUInt32 then TcCtrlMsg.queue <$> decTcCtrlPayloadQ
  else if type = TcCtrlMsgE.sch.toUInt32 then TcCtrlMsg.sch <$> decTcCtrlPayloadSch
  else if type = TcCtrlMsgE.shp.toUInt32 then TcCtrlMsg.shp <$> decTcCtrlPayloadShp
  else if type = TcCtrlMsgE.pcr.toUInt32 then TcCtrlMsg.pcr <$> decTcCtrlPayloadPcr
  else reject

/-- `tc_dec_ctrl_msg_plain`: it asserts that there are bytes at all. -/
def tcDecCtrlMsgPlain : Decoder TcCtrlMsg := do
  check
  tcDecCtrlMsg.last

end FlexRic
