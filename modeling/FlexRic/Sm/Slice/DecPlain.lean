import FlexRic.Semantics.Layout
import FlexRic.Sm.Slice.DataIe

/-!
# The decoder of the slice messages (`sm/slice_sm/dec/slice_dec_plain.c`)

The decoder reads tags and lengths and goes on by their values. It compares its position with the
end of the bytes in `fill_static` and at the end of a message, and nowhere else. The memory for
the lists can always be allocated.

The array of a string has room for its bytes and a zero behind them, and its size is computed with
`uint32_t`. So it is zero for a string of 2 ^ 32 - 1 bytes, and the copy leaves the array.
-/

namespace FlexRic

/-- The array of a string has room for its bytes. -/
def Allocated (s : List UInt8) : Prop := s.length < 2 ^ 32 - 1

instance : DecidablePred Allocated := fun s => inferInstanceAs (Decidable (s.length < 2 ^ 32 - 1))

/-- The arrays of the strings have room. -/
structure FrSlice.Allocated (slc : FrSlice) : Prop where
  label : FlexRic.Allocated slc.label
  sched : FlexRic.Allocated slc.sched

/-- The arrays of the strings have room. -/
structure UlDlSliceConf.Allocated (conf : UlDlSliceConf) : Prop where
  schedName : FlexRic.Allocated conf.schedName
  slices : ∀ slc ∈ conf.slices, slc.Allocated

/-- The arrays of the strings have room. -/
structure SliceConf.Allocated (conf : SliceConf) : Prop where
  dl : conf.dl.Allocated
  ul : conf.ul.Allocated

/-- The arrays of the strings have room. -/
def SliceIndMsg.Allocated (m : SliceIndMsg) : Prop := m.sliceConf.Allocated

/-- The arrays of the strings have room. -/
def SliceCtrlMsg.Allocated : SliceCtrlMsg → Prop
  | addModSlice conf => conf.Allocated
  | delSlice _ => True
  | ueSlice _ => True

instance FrSlice.decidableAllocated : DecidablePred FrSlice.Allocated := fun slc =>
  decidable_of_iff (FlexRic.Allocated slc.label ∧ FlexRic.Allocated slc.sched)
    ⟨fun ⟨hlabel, hsched⟩ => ⟨hlabel, hsched⟩, fun h => ⟨h.label, h.sched⟩⟩

instance UlDlSliceConf.decidableAllocated : DecidablePred UlDlSliceConf.Allocated := fun conf =>
  decidable_of_iff (FlexRic.Allocated conf.schedName ∧ ∀ slc ∈ conf.slices, slc.Allocated)
    ⟨fun ⟨hname, hslices⟩ => ⟨hname, hslices⟩, fun h => ⟨h.schedName, h.slices⟩⟩

instance SliceConf.decidableAllocated : DecidablePred SliceConf.Allocated := fun conf =>
  decidable_of_iff (conf.dl.Allocated ∧ conf.ul.Allocated)
    ⟨fun ⟨hdl, hul⟩ => ⟨hdl, hul⟩, fun h => ⟨h.dl, h.ul⟩⟩

instance SliceIndMsg.decidableAllocated : DecidablePred SliceIndMsg.Allocated := fun m =>
  inferInstanceAs (Decidable m.sliceConf.Allocated)

instance SliceCtrlMsg.decidableAllocated : DecidablePred SliceCtrlMsg.Allocated
  | addModSlice conf => inferInstanceAs (Decidable conf.Allocated)
  | delSlice _ => .isTrue trivial
  | ueSlice _ => .isTrue trivial

namespace SliceDecPlain

open Decoder

/-! ## The parameters of a slice -/

/-- `fill_static`. -/
def fillStatic : Decoder StaticSlice := do
  check
  let posHigh ← u32
  let posLow ← u32
  pure ⟨posLow, posHigh⟩

/-- `fill_rate`. -/
def fillRate : Decoder NvsRate := do
  let mbpsReference ← u32
  let mbpsRequired ← u32
  pure ⟨mbpsRequired, mbpsReference⟩

/-- `fill_capacity`. -/
def fillCapacity : Decoder NvsCapacity := NvsCapacity.mk <$> u32

/-- `fill_nvs`. -/
def fillNvs : Decoder NvsSlice := do
  let conf ← u32
  if conf = NvsSliceConfE.rate.toUInt32 then NvsSlice.rate <$> fillRate
  else if conf = NvsSliceConfE.capacity.toUInt32 then NvsSlice.capacity <$> fillCapacity
  else reject

/-- `fill_on_demand`. -/
def fillOnDemand : Decoder Scn19OnDemand := do
  let logDelta ← u32
  let pctReserved ← u32
  let tau ← u32
  pure ⟨pctReserved, logDelta, tau⟩

/-- `fill_scn19`. -/
def fillScn19 : Decoder Scn19Slice := do
  let conf ← u32
  if conf = Scn19SliceConfE.dynamic.toUInt32 then Scn19Slice.dynamic <$> fillRate
  else if conf = Scn19SliceConfE.fixed.toUInt32 then Scn19Slice.fixed <$> fillStatic
  else if conf = Scn19SliceConfE.onDemand.toUInt32 then Scn19Slice.onDemand <$> fillOnDemand
  else reject

/-- `fill_edf`. -/
def fillEdf : Decoder EdfSlice := do
  let deadline ← u32
  let guaranteedPrbs ← u32
  let maxReplenish ← u32
  let lenOver ← u32
  let overIds ← repeatN u32 lenOver.toNat
  pure ⟨deadline, guaranteedPrbs, maxReplenish, overIds⟩

/-- `fill_params`. -/
def fillParams : Decoder SliceParams := do
  let type ← u32
  if type = SliceAlgorithmE.static.toUInt32 then SliceParams.sta <$> fillStatic
  else if type = SliceAlgorithmE.nvs.toUInt32 then SliceParams.nvs <$> fillNvs
  else if type = SliceAlgorithmE.scn19.toUInt32 then SliceParams.scn19 <$> fillScn19
  else if type = SliceAlgorithmE.edf.toUInt32 then SliceParams.edf <$> fillEdf
  else reject

/-! ## The indication message -/

/-- `fill_slice`. -/
def fillSlice : Decoder FrSlice := do
  let id ← u32
  let lenLabel ← u32
  let label ← take lenLabel.toNat
  let lenSched ← u32
  let sched ← take lenSched.toNat
  let params ← fillParams
  pure ⟨id, label, sched, params⟩

/-- `fill_ul_dl_slice_conf`. -/
def fillUlDlSliceConf : Decoder UlDlSliceConf := do
  let lenSchedName ← u32
  let schedName ← take lenSchedName.toNat
  let lenSlices ← u32
  let slices ← repeatN fillSlice lenSlices.toNat
  pure ⟨slices, schedName⟩

/-- `fill_slice_conf`. -/
def fillSliceConf : Decoder SliceConf := do
  let dl ← fillUlDlSliceConf
  let ul ← fillUlDlSliceConf
  pure ⟨dl, ul⟩

/-- `fill_ue_slice_assoc`. -/
def fillUeSliceAssoc : Decoder UeSliceAssoc := do
  let dlId ← u32
  let ulId ← u32
  let rnti ← u16
  pure ⟨dlId, ulId, rnti⟩

/-- `fill_ue_slice_conf`. -/
def fillUeSliceConf : Decoder UeSliceConf := do
  let lenUeSlice ← u32
  let ues ← repeatN fillUeSliceAssoc lenUeSlice.toNat
  pure ⟨ues⟩

/-- What `slice_dec_ind_msg_plain` reads. -/
def fillIndMsg : Decoder SliceIndMsg := do
  let sliceConf ← fillSliceConf
  let ueSliceConf ← fillUeSliceConf
  let tstamp ← i64
  pure ⟨sliceConf, ueSliceConf, tstamp⟩

/-- `slice_dec_ind_msg_plain`. No message comes back when a string was copied out of its array. -/
def sliceDecIndMsgPlain : Decoder SliceIndMsg := fillIndMsg.last.only SliceIndMsg.Allocated

/-! ## The control message and the control outcome -/

/-- `fill_del_slice`. -/
def fillDelSlice : Decoder DelSliceConf := do
  let lenDl ← u32
  let dl ← repeatN u32 lenDl.toNat
  let lenUl ← u32
  let ul ← repeatN u32 lenUl.toNat
  pure ⟨dl, ul⟩

/-- What `slice_dec_ctrl_msg_plain` reads. -/
def fillCtrlMsg : Decoder SliceCtrlMsg := do
  let type ← u32
  if type = SliceCtrlMsgE.add.toUInt32 then SliceCtrlMsg.addModSlice <$> fillSliceConf
  else if type = SliceCtrlMsgE.del.toUInt32 then SliceCtrlMsg.delSlice <$> fillDelSlice
  else if type = SliceCtrlMsgE.ueSliceAssoc.toUInt32 then SliceCtrlMsg.ueSlice <$> fillUeSliceConf
  else reject

/-- `slice_dec_ctrl_msg_plain`. No message comes back when a string was copied out of its array. -/
def sliceDecCtrlMsgPlain : Decoder SliceCtrlMsg := fillCtrlMsg.last.only SliceCtrlMsg.Allocated

/-- `slice_dec_ctrl_out_plain`: it does not look at the end of the bytes, and `ans` stays zero. -/
def sliceDecCtrlOutPlain : Decoder SliceCtrlOut := do
  let lenDiag ← u32
  let diagnostic ← take lenDiag.toNat
  pure ⟨0, diagnostic⟩

end SliceDecPlain

end FlexRic
