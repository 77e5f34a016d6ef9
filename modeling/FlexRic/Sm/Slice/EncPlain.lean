import Mathlib.Algebra.Ring.Nat
import FlexRic.Semantics.Layout
import FlexRic.Sm.Slice.DataIe

/-!
# The encoder of the slice messages (`sm/slice_sm/enc/slice_enc_plain.c`)

A function `cal…` computes the size of a part of the message, and a function `fill…` copies the
part into the buffer. The fields that it copies, and the checks it makes in between, are its
`Layout` here. The allocation of the buffer succeeds.

The message is handed over as a pointer. `fill_edf` writes through it, so each function that
reaches `fill_edf` also returns the part of the message as it leaves it.
-/

namespace FlexRic

namespace SliceEncPlain

open Layout

/-! ## Sizes -/

/-- `cal_static`. -/
def calStatic (_ : StaticSlice) : ℕ := 4 + 4

/-- `cal_nvs`. -/
def calNvs : NvsSlice → ℕ
  | .rate _ => 4 + 4 + 4
  | .capacity _ => 4 + 4

/-- `cal_scn19`. -/
def calScn19 : Scn19Slice → ℕ
  | .dynamic _ => 4 + 4 + 4
  | .fixed _ => 4 + 4 + 4
  | .onDemand _ => 4 + 4 + 4 + 4

/-- `cal_edf`. -/
def calEdf (edf : EdfSlice) : ℕ := 4 + 4 + 4 + 4 + 4 * edf.overIds.length

/-- `cal_params`. -/
def calParams : SliceParams → ℕ
  | .sta sta => 4 + calStatic sta
  | .nvs nvs => 4 + calNvs nvs
  | .scn19 scn => 4 + calScn19 scn
  | .edf edf => 4 + calEdf edf

/-- One round of the loop of `cal_slc`. -/
def calSlice (slc : FrSlice) : ℕ :=
  4 + 4 + slc.label.length + 4 + slc.sched.length + calParams slc.params

/-- `cal_slc`. -/
def calSlc (slc : List FrSlice) : ℕ := (slc.map calSlice).sum

/-- `cal_ul_dl`. -/
def calUlDl (slc : UlDlSliceConf) : ℕ := 4 + slc.schedName.length + 4 + calSlc slc.slices

/-- `cal_slice_conf`. -/
def calSliceConf (slc : SliceConf) : ℕ := calUlDl slc.ul + calUlDl slc.dl

/-- `cal_ue_slice_assoc`. -/
def calUeSliceAssoc (_ : UeSliceAssoc) : ℕ := 4 + 4 + 2

/-- `cal_ue_slice_conf`. -/
def calUeSliceConf (slc : UeSliceConf) : ℕ := 4 + (slc.ues.map calUeSliceAssoc).sum

/-- `cal_ind_msg_payload`. -/
def calIndMsgPayload (m : SliceIndMsg) : ℕ :=
  calSliceConf m.sliceConf + calUeSliceConf m.ueSliceConf + 8

/-- `cal_del_slice`. -/
def calDelSlice (del : DelSliceConf) : ℕ := 4 + del.dl.length * 4 + 4 + del.ul.length * 4

/-- `cal_ctrl_msg_payload`. -/
def calCtrlMsgPayload : SliceCtrlMsg → ℕ
  | .addModSlice conf => 4 + calSliceConf conf
  | .delSlice conf => 4 + calDelSlice conf
  | .ueSlice conf => 4 + calUeSliceConf conf

/-! ## The parameters of a slice -/

/-- `fill_static`. -/
def fillStatic (sta : StaticSlice) : Layout := [.check] ++ (u32 sta.posHigh ++ u32 sta.posLow)

/-- `fill_rate`. -/
def fillRate (nvs : NvsRate) : Layout := u32 nvs.mbpsReference ++ u32 nvs.mbpsRequired

/-- `fill_capacity`. -/
def fillCapacity (nvs : NvsCapacity) : Layout := u32 nvs.pctReserved

/-- `fill_nvs`. -/
def fillNvs (nvs : NvsSlice) : Layout :=
  u32 nvs.conf.toUInt32 ++
    match nvs with
    | .rate rate => fillRate rate
    | .capacity capacity => fillCapacity capacity

/-- `fill_on_demand`. -/
def fillOnDemand (scn : Scn19OnDemand) : Layout :=
  u32 scn.logDelta ++ (u32 scn.pctReserved ++ u32 scn.tau)

/-- `fill_scn19`. -/
def fillScn19 (scn : Scn19Slice) : Layout :=
  u32 scn.conf.toUInt32 ++
    match scn with
    | .dynamic dynamic => fillRate dynamic
    | .fixed fixed => fillStatic fixed
    | .onDemand onDemand => fillOnDemand onDemand

/-- `fill_edf`: where the message has sharing ids, it first points `over` to a new array, which
`calloc` fills with zeros, and then copies that array. -/
def fillEdf (edf : EdfSlice) : Layout × EdfSlice :=
  let overIds := if 0 < edf.overIds.length then List.replicate edf.overIds.length 0 else edf.overIds
  (u32 edf.deadline ++ (u32 edf.guaranteedPrbs ++ (u32 edf.maxReplenish ++
    (u32 (UInt32.ofNat edf.overIds.length) ++ overIds.flatMap u32))), { edf with overIds })

/-- `fill_params`. -/
def fillParams (par : SliceParams) : Layout × SliceParams :=
  let (part, after) := match par with
    | .sta sta => (fillStatic sta, SliceParams.sta sta)
    | .nvs nvs => (fillNvs nvs, SliceParams.nvs nvs)
    | .scn19 scn => (fillScn19 scn, SliceParams.scn19 scn)
    | .edf edf => ((fillEdf edf).1, SliceParams.edf (fillEdf edf).2)
  (u32 par.type.toUInt32 ++ part, after)

/-! ## The indication message -/

/-- `fill_slice`. -/
def fillSlice (slc : FrSlice) : Layout × FrSlice :=
  let (params, after) := fillParams slc.params
  ([.check] ++ (u32 slc.id ++ (u32 (UInt32.ofNat slc.label.length) ++ ([.field slc.label] ++
    (u32 (UInt32.ofNat slc.sched.length) ++ ([.field slc.sched] ++ params))))),
    { slc with params := after })

/-- `fill_ul_dl_slice_conf`. -/
def fillUlDlSliceConf (conf : UlDlSliceConf) : Layout × UlDlSliceConf :=
  let slices := conf.slices.map fillSlice
  (u32 (UInt32.ofNat conf.schedName.length) ++ ([.field conf.schedName] ++
    (u32 (UInt32.ofNat conf.slices.length) ++ slices.flatMap Prod.fst)),
    { conf with slices := slices.map Prod.snd })

/-- `fill_slice_conf`. -/
def fillSliceConf (conf : SliceConf) : Layout × SliceConf :=
  let (dl, dlAfter) := fillUlDlSliceConf conf.dl
  let (ul, ulAfter) := fillUlDlSliceConf conf.ul
  (dl ++ ul, ⟨dlAfter, ulAfter⟩)

/-- `fill_ue_slice_assoc`. -/
def fillUeSliceAssoc (assoc : UeSliceAssoc) : Layout :=
  [.check] ++ (u32 assoc.dlId ++ (u32 assoc.ulId ++ u16 assoc.rnti))

/-- `fill_ue_slice_conf`. -/
def fillUeSliceConf (slc : UeSliceConf) : Layout :=
  u32 (UInt32.ofNat slc.ues.length) ++ slc.ues.flatMap fillUeSliceAssoc

/-- What `slice_enc_ind_msg_plain` copies, and the message as it leaves it. -/
def fillIndMsg (m : SliceIndMsg) : Layout × SliceIndMsg :=
  let (conf, after) := fillSliceConf m.sliceConf
  (conf ++ (fillUeSliceConf m.ueSliceConf ++ i64 m.tstamp), { m with sliceConf := after })

/-- `slice_enc_ind_msg_plain`: the bytes, and the message as it leaves it. -/
def sliceEncIndMsgPlain (m : SliceIndMsg) : Option (List UInt8 × SliceIndMsg) := do
  let (layout, after) := fillIndMsg m
  let bs ← layout.emit (calIndMsgPayload m) []
  pure (bs, after)

/-! ## The control message -/

/-- `fill_del_slice_conf`. -/
def fillDelSliceConf (conf : DelSliceConf) : Layout :=
  u32 (UInt32.ofNat conf.dl.length) ++ (conf.dl.flatMap u32 ++
    (u32 (UInt32.ofNat conf.ul.length) ++ conf.ul.flatMap u32))

/-- `fill_slice_ctrl_msg`. -/
def fillSliceCtrlMsg (m : SliceCtrlMsg) : Layout × SliceCtrlMsg :=
  let (part, after) := match m with
    | .addModSlice conf => ((fillSliceConf conf).1, SliceCtrlMsg.addModSlice (fillSliceConf conf).2)
    | .delSlice conf => (fillDelSliceConf conf, SliceCtrlMsg.delSlice conf)
    | .ueSlice conf => (fillUeSliceConf conf, SliceCtrlMsg.ueSlice conf)
  (u32 m.type.toUInt32 ++ part, after)

/-- `slice_enc_ctrl_msg_plain`: the bytes, and the message as it leaves it. -/
def sliceEncCtrlMsgPlain (m : SliceCtrlMsg) : Option (List UInt8 × SliceCtrlMsg) := do
  let (layout, after) := fillSliceCtrlMsg m
  let bs ← layout.emit (calCtrlMsgPayload m) []
  pure (bs, after)

end SliceEncPlain

end FlexRic
