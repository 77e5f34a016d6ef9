import Mathlib.Algebra.Ring.Nat
import Mathlib.Data.List.Basic

/-!
# The data of the slice service model (`sm/slice_sm/ie/slice_data_ie.h`)

The indication message, the control message and the control outcome. A tagged union is an
inductive type, and its tag is a function (`type`, `conf`). A `float` is the word of its four
bytes, and a string is the list of the bytes that its length counts.
-/

namespace FlexRic

/-! ## Tags -/

/-- `slice_algorithm_e`. -/
inductive SliceAlgorithmE : Type where
  | none
  | static
  | nvs
  | scn19
  | edf
  deriving DecidableEq, Repr

/-- The number of the enumerator. -/
def SliceAlgorithmE.toUInt32 : SliceAlgorithmE → UInt32
  | none => 0
  | static => 1
  | nvs => 2
  | scn19 => 3
  | edf => 4

/-- `nvs_slice_conf_e`. -/
inductive NvsSliceConfE : Type where
  | rate
  | capacity
  deriving DecidableEq, Repr

/-- The number of the enumerator. -/
def NvsSliceConfE.toUInt32 : NvsSliceConfE → UInt32
  | rate => 0
  | capacity => 1

/-- `scn19_slice_conf_e`. -/
inductive Scn19SliceConfE : Type where
  | dynamic
  | fixed
  | onDemand
  deriving DecidableEq, Repr

/-- The number of the enumerator. -/
def Scn19SliceConfE.toUInt32 : Scn19SliceConfE → UInt32
  | dynamic => 0
  | fixed => 1
  | onDemand => 2

/-- `slice_ctrl_msg_e`. -/
inductive SliceCtrlMsgE : Type where
  | add
  | del
  | ueSliceAssoc
  deriving DecidableEq, Repr

/-- The number of the enumerator. -/
def SliceCtrlMsgE.toUInt32 : SliceCtrlMsgE → UInt32
  | add => 0
  | del => 1
  | ueSliceAssoc => 2

/-! ## Parameters of a slice -/

/-- `static_slice_t`. -/
structure StaticSlice : Type where
  posLow : UInt32
  posHigh : UInt32
  deriving DecidableEq

/-- `nvs_rate_t`: two `float`s. -/
structure NvsRate : Type where
  mbpsRequired : UInt32
  mbpsReference : UInt32
  deriving DecidableEq

/-- `nvs_capacity_t`: a `float`. -/
structure NvsCapacity : Type where
  pctReserved : UInt32
  deriving DecidableEq

/-- `nvs_slice_t`. -/
inductive NvsSlice : Type where
  | rate (rate : NvsRate)
  | capacity (capacity : NvsCapacity)
  deriving DecidableEq

/-- The tag. -/
def NvsSlice.conf : NvsSlice → NvsSliceConfE
  | rate _ => .rate
  | capacity _ => .capacity

/-- `scn19_on_demand_t`. -/
structure Scn19OnDemand : Type where
  /-- a `float` -/
  pctReserved : UInt32
  /-- a `float` -/
  logDelta : UInt32
  tau : UInt32
  deriving DecidableEq

/-- `scn19_slice_t`. -/
inductive Scn19Slice : Type where
  | dynamic (dynamic : NvsRate)
  | fixed (fixed : StaticSlice)
  | onDemand (onDemand : Scn19OnDemand)
  deriving DecidableEq

/-- The tag. -/
def Scn19Slice.conf : Scn19Slice → Scn19SliceConfE
  | dynamic _ => .dynamic
  | fixed _ => .fixed
  | onDemand _ => .onDemand

/-- `edf_slice_t`. -/
structure EdfSlice : Type where
  deadline : UInt32
  guaranteedPrbs : UInt32
  maxReplenish : UInt32
  /-- `over`: the ids of the slices that share the resources -/
  overIds : List UInt32
  deriving DecidableEq

/-- `slice_params_t`. There are no parameters for `SLICE_ALG_SM_V0_NONE`, which the encoder and
the decoder reject. -/
inductive SliceParams : Type where
  | sta (sta : StaticSlice)
  | nvs (nvs : NvsSlice)
  | scn19 (scn19 : Scn19Slice)
  | edf (edf : EdfSlice)
  deriving DecidableEq

/-- The tag. -/
def SliceParams.type : SliceParams → SliceAlgorithmE
  | sta _ => .static
  | nvs _ => .nvs
  | scn19 _ => .scn19
  | edf _ => .edf

/-! ## Indication message -/

/-- `fr_slice_t`. -/
structure FrSlice : Type where
  id : UInt32
  label : List UInt8
  sched : List UInt8
  params : SliceParams
  deriving DecidableEq

/-- `ul_dl_slice_conf_t`. -/
structure UlDlSliceConf : Type where
  slices : List FrSlice
  schedName : List UInt8
  deriving DecidableEq

/-- `slice_conf_t`. -/
structure SliceConf : Type where
  dl : UlDlSliceConf
  ul : UlDlSliceConf
  deriving DecidableEq

/-- `ue_slice_assoc_t`. -/
structure UeSliceAssoc : Type where
  dlId : UInt32
  ulId : UInt32
  rnti : UInt16
  deriving DecidableEq

/-- `ue_slice_conf_t`. -/
structure UeSliceConf : Type where
  ues : List UeSliceAssoc
  deriving DecidableEq

/-- `slice_ind_msg_t`. -/
structure SliceIndMsg : Type where
  sliceConf : SliceConf
  ueSliceConf : UeSliceConf
  tstamp : Int64
  deriving DecidableEq

/-! ## Control message and control outcome -/

/-- `del_slice_conf_t`. -/
structure DelSliceConf : Type where
  dl : List UInt32
  ul : List UInt32
  deriving DecidableEq

/-- `slice_ctrl_msg_t`. -/
inductive SliceCtrlMsg : Type where
  | addModSlice (conf : SliceConf)
  | delSlice (conf : DelSliceConf)
  | ueSlice (conf : UeSliceConf)
  deriving DecidableEq

/-- The tag. -/
def SliceCtrlMsg.type : SliceCtrlMsg → SliceCtrlMsgE
  | addModSlice _ => .add
  | delSlice _ => .del
  | ueSlice _ => .ueSliceAssoc

/-- `slice_ctrl_out_t`. -/
structure SliceCtrlOut : Type where
  /-- a `slice_ctrl_out_e` that is not sent -/
  ans : UInt32
  diagnostic : List UInt8
  deriving DecidableEq

/-! ## Well-formed messages -/

/-- The length of the list fits into its field. -/
def EdfSlice.WellFormed (edf : EdfSlice) : Prop := edf.overIds.length < 2 ^ 32

/-- The lengths fit into their fields. -/
def SliceParams.WellFormed : SliceParams → Prop
  | .edf e => e.WellFormed
  | _ => True

/-- The lengths fit into their fields. -/
structure FrSlice.WellFormed (slc : FrSlice) : Prop where
  label : slc.label.length < 2 ^ 32
  sched : slc.sched.length < 2 ^ 32
  params : slc.params.WellFormed

/-- The lengths fit into their fields. -/
structure UlDlSliceConf.WellFormed (conf : UlDlSliceConf) : Prop where
  schedName : conf.schedName.length < 2 ^ 32
  len : conf.slices.length < 2 ^ 32
  slices : ∀ slc ∈ conf.slices, slc.WellFormed

/-- The lengths fit into their fields. -/
structure SliceConf.WellFormed (conf : SliceConf) : Prop where
  dl : conf.dl.WellFormed
  ul : conf.ul.WellFormed

/-- The length of the list fits into its field. -/
def UeSliceConf.WellFormed (conf : UeSliceConf) : Prop := conf.ues.length < 2 ^ 32

/-- The lengths fit into their fields. -/
structure SliceIndMsg.WellFormed (m : SliceIndMsg) : Prop where
  sliceConf : m.sliceConf.WellFormed
  ueSliceConf : m.ueSliceConf.WellFormed

/-- The lengths of the lists fit into their fields. -/
structure DelSliceConf.WellFormed (conf : DelSliceConf) : Prop where
  dl : conf.dl.length < 2 ^ 32
  ul : conf.ul.length < 2 ^ 32

/-- The lengths fit into their fields. -/
def SliceCtrlMsg.WellFormed : SliceCtrlMsg → Prop
  | addModSlice conf => conf.WellFormed
  | delSlice conf => conf.WellFormed
  | ueSlice conf => conf.WellFormed

instance EdfSlice.decidableWellFormed : DecidablePred EdfSlice.WellFormed := fun edf =>
  inferInstanceAs (Decidable (edf.overIds.length < 2 ^ 32))

instance SliceParams.decidableWellFormed : DecidablePred SliceParams.WellFormed
  | .sta _ => .isTrue trivial
  | .nvs _ => .isTrue trivial
  | .scn19 _ => .isTrue trivial
  | .edf e => inferInstanceAs (Decidable e.WellFormed)

instance FrSlice.decidableWellFormed : DecidablePred FrSlice.WellFormed := fun slc =>
  decidable_of_iff
    (slc.label.length < 2 ^ 32 ∧ slc.sched.length < 2 ^ 32 ∧ slc.params.WellFormed)
    ⟨fun ⟨hlabel, hsched, hparams⟩ => ⟨hlabel, hsched, hparams⟩,
      fun h => ⟨h.label, h.sched, h.params⟩⟩

instance UlDlSliceConf.decidableWellFormed : DecidablePred UlDlSliceConf.WellFormed := fun conf =>
  decidable_of_iff
    (conf.schedName.length < 2 ^ 32 ∧ conf.slices.length < 2 ^ 32 ∧
      ∀ slc ∈ conf.slices, slc.WellFormed)
    ⟨fun ⟨hname, hlen, hslices⟩ => ⟨hname, hlen, hslices⟩,
      fun h => ⟨h.schedName, h.len, h.slices⟩⟩

instance SliceConf.decidableWellFormed : DecidablePred SliceConf.WellFormed := fun conf =>
  decidable_of_iff (conf.dl.WellFormed ∧ conf.ul.WellFormed)
    ⟨fun ⟨hdl, hul⟩ => ⟨hdl, hul⟩, fun h => ⟨h.dl, h.ul⟩⟩

instance UeSliceConf.decidableWellFormed : DecidablePred UeSliceConf.WellFormed := fun conf =>
  inferInstanceAs (Decidable (conf.ues.length < 2 ^ 32))

instance SliceIndMsg.decidableWellFormed : DecidablePred SliceIndMsg.WellFormed := fun m =>
  decidable_of_iff (m.sliceConf.WellFormed ∧ m.ueSliceConf.WellFormed)
    ⟨fun ⟨hconf, hues⟩ => ⟨hconf, hues⟩, fun h => ⟨h.sliceConf, h.ueSliceConf⟩⟩

end FlexRic
