import FlexRic.Sm.Slice.Equality

/-!
# Copies of slice messages (`sm/slice_sm/ie/slice_data_ie.c`)

`cp_slice_ind_msg` and `cp_slice_ctrl_msg` with the functions below them. Each level of the copy
asserts that what it has copied is equal to the source. There is no memory for the sharing ids of
an EDF slice: the loop that copies them writes through a null pointer.
-/

namespace FlexRic

open Outcome

/-! ## The code -/

/-- `cp_scn19_slice`. -/
def cpScn19Slice : Scn19Slice → Scn19Slice
  | .dynamic src => .dynamic {
      mbpsReference := src.mbpsReference, mbpsRequired := src.mbpsRequired }
  | .fixed src => .fixed { posHigh := src.posHigh, posLow := src.posLow }
  | .onDemand src => .onDemand {
      logDelta := src.logDelta, pctReserved := src.pctReserved, tau := src.tau }

/-- `dst.u.edf.over[i] = src->u.edf.over[i]`, where `dst.u.edf.over` is null. -/
def cpOver : List UInt32 → Outcome (List UInt32)
  | [] => return []
  | _ :: _ => faults .unset

/-- The branches of `cp_slice_params`. -/
def cpSliceParamsBody : SliceParams → Outcome SliceParams
  | .sta src => return .sta { posHigh := src.posHigh, posLow := src.posLow }
  | .nvs (.rate src) => return .nvs (.rate {
      mbpsReference := src.mbpsReference, mbpsRequired := src.mbpsRequired })
  | .nvs (.capacity src) => return .nvs (.capacity { pctReserved := src.pctReserved })
  | .scn19 src => return .scn19 (cpScn19Slice src)
  | .edf src => do
    let overIds ← cpOver src.overIds
    return .edf {
      deadline := src.deadline
      guaranteedPrbs := src.guaranteedPrbs
      maxReplenish := src.maxReplenish
      overIds := overIds }

/-- `cp_slice_params`. -/
def cpSliceParams (src : SliceParams) : Outcome SliceParams := do
  let dst ← cpSliceParamsBody src
  assertTrue (eqSliceParams dst src)
  return dst

/-- `cpy_slice`. -/
def cpySlice (src : FrSlice) : Outcome FrSlice := do
  let params ← cpSliceParams src.params
  let dst := { id := src.id, label := src.label, sched := src.sched, params := params }
  assertTrue (eqSlice src dst)
  return dst

/-- `cpy_ul_dl_slice_conf`. -/
def cpyUlDlSliceConf (src : UlDlSliceConf) : Outcome UlDlSliceConf := do
  let slices ← src.slices.mapM cpySlice
  let dst := { schedName := src.schedName, slices := slices }
  assertTrue (eqUlDlSliceConf src dst)
  return dst

/-- `cp_slice_conf`. -/
def cpSliceConf (src : SliceConf) : Outcome SliceConf := do
  let dl ← cpyUlDlSliceConf src.dl
  let ul ← cpyUlDlSliceConf src.ul
  let dst := { dl := dl, ul := ul }
  assertTrue (eqSliceConf src dst)
  return dst

/-- `cp_ue_slice_assoc`. -/
def cpUeSliceAssoc (src : UeSliceAssoc) : UeSliceAssoc where
  ulId := src.ulId
  dlId := src.dlId
  rnti := src.rnti

/-- `cp_ue_slice_conf`. -/
def cpUeSliceConf (src : UeSliceConf) : UeSliceConf where
  ues := src.ues.map cpUeSliceAssoc

/-- `cp_slice_ind_msg`. -/
def cpSliceIndMsg (src : SliceIndMsg) : Outcome SliceIndMsg := do
  let sliceConf ← cpSliceConf src.sliceConf
  let ueSliceConf := cpUeSliceConf src.ueSliceConf
  let out := { sliceConf, ueSliceConf, tstamp := src.tstamp }
  assertTrue (eqSliceIndMsg src out)
  return out

/-- `cp_del_slice`. -/
def cpDelSlice (src : DelSliceConf) : DelSliceConf where
  dl := src.dl.map fun id => id
  ul := src.ul.map fun id => id

/-- `cp_slice_ctrl_msg`. -/
def cpSliceCtrlMsg : SliceCtrlMsg → Outcome SliceCtrlMsg
  | .addModSlice src => do
    let conf ← cpSliceConf src
    return .addModSlice conf
  | .delSlice src => return .delSlice (cpDelSlice src)
  | .ueSlice src => return .ueSlice (cpUeSliceConf src)

/-! ## What can be copied -/

/-- No rate is a NaN. -/
def NvsRate.NoNan (m : NvsRate) : Prop :=
  (Float32.ofBits m.mbpsReference).isNaN = false ∧ (Float32.ofBits m.mbpsRequired).isNaN = false

/-- No `float` is a NaN. -/
def NvsSlice.NoNan : NvsSlice → Prop
  | .rate m => m.NoNan
  | .capacity m => (Float32.ofBits m.pctReserved).isNaN = false

/-- No `float` is a NaN. -/
def Scn19Slice.NoNan : Scn19Slice → Prop
  | .dynamic m => m.NoNan
  | .fixed _ => True
  | .onDemand m => (Float32.ofBits m.logDelta).isNaN = false ∧
      (Float32.ofBits m.pctReserved).isNaN = false

/-- No `float` is a NaN, and an EDF slice shares no resources. -/
def SliceParams.Copyable : SliceParams → Prop
  | .sta _ => True
  | .nvs m => m.NoNan
  | .scn19 m => m.NoNan
  | .edf m => m.overIds = []

/-- The parameters of all slices can be copied. -/
def UlDlSliceConf.Copyable (m : UlDlSliceConf) : Prop := ∀ slc ∈ m.slices, slc.params.Copyable

/-- Both directions can be copied. -/
def SliceConf.Copyable (m : SliceConf) : Prop := m.ul.Copyable ∧ m.dl.Copyable

/-- A control message with slices can be copied if its slices can, and all others can be. -/
def SliceCtrlMsg.Copyable : SliceCtrlMsg → Prop
  | .addModSlice conf => conf.Copyable
  | .delSlice _ => True
  | .ueSlice _ => True

/-! ## A message and itself -/

theorem NvsRate.agree_self_iff {m : NvsRate} : m.Agree m ↔ m.NoNan :=
  and_congr floatEq_self floatEq_self

theorem NvsSlice.agree_self_iff {m : NvsSlice} : m.Agree m ↔ m.NoNan := by
  cases m with
  | rate r => exact NvsRate.agree_self_iff
  | capacity c => exact floatEq_self

theorem Scn19Slice.agree_self_iff {m : Scn19Slice} : m.Agree m ↔ m.NoNan := by
  cases m with
  | dynamic r => exact NvsRate.agree_self_iff
  | fixed s => exact iff_of_true rfl trivial
  | onDemand d =>
    refine and_congr floatEq_self ?_
    rw [and_iff_left rfl]
    exact floatEq_self

theorem SliceParams.not_overruns_self (m : SliceParams) : ¬m.Overruns m := by
  cases m with
  | sta s => exact id
  | nvs n => exact id
  | scn19 s => exact id
  | edf e => exact fun h => h.2 rfl

theorem SliceParams.Copyable.agree_self {m : SliceParams} (h : m.Copyable) : m.Agree m := by
  cases m with
  | sta s => exact (rfl : s = s)
  | nvs n => exact NvsSlice.agree_self_iff.2 h
  | scn19 s => exact Scn19Slice.agree_self_iff.2 h
  | edf e => exact (rfl : e = e)

theorem eqSliceParams_self {m : SliceParams} : eqSliceParams m m = returns true ↔ m.Agree m := by
  rw [(answers_eqSliceParams m m).eq_true_iff]
  exact and_iff_right m.not_overruns_self

theorem SliceParams.Copyable.eqSlice_self {m : FrSlice} (h : m.params.Copyable) :
    eqSlice m m = returns true := by
  have hover : ¬m.Overruns m := fun hn => m.params.not_overruns_self hn.params
  exact ((answers_eqSlice m m).decides hover).eq_true ⟨rfl, rfl, rfl, h.agree_self⟩

theorem UlDlSliceConf.Copyable.eq_self {m : UlDlSliceConf} (h : m.Copyable) :
    eqUlDlSliceConf m m = returns true := by
  have hloop : eqArray eqSlice m.slices m.slices = returns true :=
    (eqArray_eq_true rfl).2 (List.forall₂_same.2 fun slc hslc => (h slc hslc).eqSlice_self)
  simp [eqUlDlSliceConf, hloop]

theorem SliceConf.Copyable.eq_self {m : SliceConf} (h : m.Copyable) :
    eqSliceConf m m = returns true := by
  simp [eqSliceConf, h.1.eq_self, h.2.eq_self]

theorem SliceConf.Copyable.eqSliceIndMsg_self {m : SliceIndMsg} (h : m.sliceConf.Copyable) :
    eqSliceIndMsg m m = returns true := by
  have hues := (decides_eqUeSliceConf m.ueSliceConf m.ueSliceConf).eq_true rfl
  simp [eqSliceIndMsg, h.eq_self, hues]

/-! ## Copies -/

@[simp] theorem cpScn19Slice_eq (src : Scn19Slice) : cpScn19Slice src = src := by
  cases src <;> rfl

@[simp] theorem cpUeSliceConf_eq (src : UeSliceConf) : cpUeSliceConf src = src := by
  have hassoc : cpUeSliceAssoc = id := rfl
  rw [cpUeSliceConf, hassoc, List.map_id]

@[simp] theorem cpDelSlice_eq (src : DelSliceConf) : cpDelSlice src = src := by
  simp [cpDelSlice]

/-- Without its last assertion the copy fails only on the sharing ids. -/
theorem cpSliceParamsBody_eq_returns {src dst : SliceParams} :
    cpSliceParamsBody src = returns dst ↔ dst = src ∧ ∀ e, src = .edf e → e.overIds = [] := by
  cases src with
  | sta s => simp [cpSliceParamsBody, eq_comm]
  | nvs n => cases n <;> simp [cpSliceParamsBody, eq_comm]
  | scn19 s => simp [cpSliceParamsBody, eq_comm]
  | edf e =>
    obtain ⟨deadline, prbs, replenish, ids⟩ := e
    cases ids with
    | nil => simp [cpSliceParamsBody, cpOver, eq_comm]
    | cons id ids => simp [cpSliceParamsBody, cpOver]

theorem SliceParams.copyable_iff {m : SliceParams} :
    m.Copyable ↔ (∀ e, m = .edf e → e.overIds = []) ∧ m.Agree m := by
  constructor
  · intro h
    refine ⟨?_, h.agree_self⟩
    rintro e rfl
    exact h
  · rintro ⟨hover, hagree⟩
    cases m with
    | sta s => trivial
    | nvs n => exact NvsSlice.agree_self_iff.1 hagree
    | scn19 s => exact Scn19Slice.agree_self_iff.1 hagree
    | edf e => exact hover e rfl

theorem cpSliceParams_eq_returns {src dst : SliceParams} :
    cpSliceParams src = returns dst ↔ dst = src ∧ src.Copyable := by
  rw [cpSliceParams, bind_eq_returns, SliceParams.copyable_iff]
  constructor
  · rintro ⟨params, hbody, h⟩
    obtain ⟨rfl, hover⟩ := cpSliceParamsBody_eq_returns.1 hbody
    obtain ⟨heq, h⟩ := assertTrue_bind_eq_returns.1 h
    cases h
    exact ⟨rfl, hover, eqSliceParams_self.1 heq⟩
  · rintro ⟨rfl, hover, hagree⟩
    exact ⟨dst, cpSliceParamsBody_eq_returns.2 ⟨rfl, hover⟩,
      assertTrue_bind_eq_returns.2 ⟨eqSliceParams_self.2 hagree, rfl⟩⟩

/-- A copy that is put together from one part that is copied, and then compared with its source. -/
theorem copy_assert_eq_returns {A B : Type} {part : Outcome B} {mk : B → A}
    {eq : A → Outcome Bool} {b : B} {dst : A} {copyable : Prop}
    (hpart : ∀ b', part = returns b' ↔ b' = b ∧ copyable)
    (heq : copyable → eq (mk b) = returns true) :
    (part >>= fun b' => assertTrue (eq (mk b')) >>= fun _ => pure (mk b')) = returns dst ↔
      dst = mk b ∧ copyable := by
  rw [bind_eq_returns]
  constructor
  · rintro ⟨b', hb', h⟩
    obtain ⟨rfl, hcopyable⟩ := (hpart b').1 hb'
    obtain ⟨-, h⟩ := assertTrue_bind_eq_returns.1 h
    cases h
    exact ⟨rfl, hcopyable⟩
  · rintro ⟨rfl, hcopyable⟩
    exact ⟨b, (hpart b).2 ⟨rfl, hcopyable⟩,
      assertTrue_bind_eq_returns.2 ⟨heq hcopyable, rfl⟩⟩

theorem cpySlice_eq_returns {src dst : FrSlice} :
    cpySlice src = returns dst ↔ dst = src ∧ src.params.Copyable :=
  copy_assert_eq_returns (fun _ => cpSliceParams_eq_returns) SliceParams.Copyable.eqSlice_self

/-- The loop that copies the slices. -/
theorem mapM_cpySlice_eq_returns {src dst : List FrSlice} :
    src.mapM cpySlice = returns dst ↔ dst = src ∧ ∀ slc ∈ src, slc.params.Copyable := by
  rw [mapM_eq_returns]
  constructor
  · intro h
    induction h with
    | nil => exact ⟨rfl, fun _ hslc => absurd hslc List.not_mem_nil⟩
    | cons hhead _ ih =>
      obtain ⟨rfl, hcopyable⟩ := cpySlice_eq_returns.1 hhead
      obtain ⟨rfl, hall⟩ := ih
      exact ⟨rfl, List.forall_mem_cons.2 ⟨hcopyable, hall⟩⟩
  · rintro ⟨rfl, hall⟩
    exact List.forall₂_same.2 fun slc hslc => cpySlice_eq_returns.2 ⟨rfl, hall slc hslc⟩

theorem cpyUlDlSliceConf_eq_returns {src dst : UlDlSliceConf} :
    cpyUlDlSliceConf src = returns dst ↔ dst = src ∧ src.Copyable :=
  copy_assert_eq_returns (fun _ => mapM_cpySlice_eq_returns) UlDlSliceConf.Copyable.eq_self

theorem cpSliceConf_eq_returns {src dst : SliceConf} :
    cpSliceConf src = returns dst ↔ dst = src ∧ src.Copyable := by
  rw [cpSliceConf, bind_eq_returns]
  constructor
  · rintro ⟨dl, hdl, h⟩
    obtain ⟨ul, hul, h⟩ := bind_eq_returns.1 h
    obtain ⟨rfl, hdlCopyable⟩ := cpyUlDlSliceConf_eq_returns.1 hdl
    obtain ⟨rfl, hulCopyable⟩ := cpyUlDlSliceConf_eq_returns.1 hul
    obtain ⟨-, h⟩ := assertTrue_bind_eq_returns.1 h
    cases h
    exact ⟨rfl, hulCopyable, hdlCopyable⟩
  · rintro ⟨rfl, hcopyable⟩
    refine ⟨dst.dl, cpyUlDlSliceConf_eq_returns.2 ⟨rfl, hcopyable.2⟩, bind_eq_returns.2 ?_⟩
    exact ⟨dst.ul, cpyUlDlSliceConf_eq_returns.2 ⟨rfl, hcopyable.1⟩,
      assertTrue_bind_eq_returns.2 ⟨hcopyable.eq_self, rfl⟩⟩

theorem cpSliceIndMsg_eq_returns {src dst : SliceIndMsg} :
    cpSliceIndMsg src = returns dst ↔ dst = src ∧ src.sliceConf.Copyable := by
  rw [cpSliceIndMsg, cpUeSliceConf_eq]
  exact copy_assert_eq_returns (fun _ => cpSliceConf_eq_returns)
    SliceConf.Copyable.eqSliceIndMsg_self

theorem cpSliceCtrlMsg_eq_returns {src dst : SliceCtrlMsg} :
    cpSliceCtrlMsg src = returns dst ↔ dst = src ∧ src.Copyable := by
  cases src with
  | addModSlice conf =>
    rw [cpSliceCtrlMsg, bind_eq_returns]
    constructor
    · rintro ⟨conf', hconf, h⟩
      obtain ⟨rfl, hcopyable⟩ := cpSliceConf_eq_returns.1 hconf
      cases h
      exact ⟨rfl, hcopyable⟩
    · rintro ⟨rfl, hcopyable⟩
      exact ⟨conf, cpSliceConf_eq_returns.2 ⟨rfl, hcopyable⟩, rfl⟩
  | delSlice conf => simp [cpSliceCtrlMsg, SliceCtrlMsg.Copyable, eq_comm]
  | ueSlice conf => simp [cpSliceCtrlMsg, SliceCtrlMsg.Copyable, eq_comm]

end FlexRic
