import FlexRic.AlgDs.EqFloat
import FlexRic.Sm.Slice.DataIe
import Mathlib.Tactic.Tauto

/-!
# Equality of slice messages (`sm/slice_sm/ie/slice_data_ie.c`)

`eq_slice_ind_msg` and `eq_slice_ctrl_msg` with the functions below them. The comparison of two
slices looks at the length of the scheduler's name and not at the name, the comparison of two EDF
slices looks at the sharing ids before it looks at their number, and the comparison of two control
messages does not look at the type of the second one.
-/

namespace FlexRic

open Outcome

/-! ## The code -/

/-- `eq_static_slice`. -/
def eqStaticSlice (m₀ m₁ : StaticSlice) : Outcome Bool :=
  test (m₀.posHigh = m₁.posHigh ∧ m₀.posLow = m₁.posLow)

/-- `eq_nvs_rate`. -/
def eqNvsRate (m₀ m₁ : NvsRate) : Outcome Bool :=
  test (FloatEq m₀.mbpsReference m₁.mbpsReference ∧ FloatEq m₀.mbpsRequired m₁.mbpsRequired)

/-- `eq_nvs_cap`. -/
def eqNvsCap (m₀ m₁ : NvsCapacity) : Outcome Bool :=
  test (FloatEq m₀.pctReserved m₁.pctReserved)

/-- `eq_nvs_slice`. -/
def eqNvsSlice : NvsSlice → NvsSlice → Outcome Bool
  | .rate m₀, .rate m₁ => eqNvsRate m₀ m₁
  | .capacity m₀, .capacity m₁ => eqNvsCap m₀ m₁
  | _, _ => return false

/-- `eq_scn19_on_demand`. -/
def eqScn19OnDemand (m₀ m₁ : Scn19OnDemand) : Outcome Bool :=
  test (FloatEq m₀.logDelta m₁.logDelta ∧ FloatEq m₀.pctReserved m₁.pctReserved ∧ m₀.tau = m₁.tau)

/-- `eq_scn19_slice`. -/
def eqScn19Slice : Scn19Slice → Scn19Slice → Outcome Bool
  | .dynamic m₀, .dynamic m₁ => eqNvsRate m₀ m₁
  | .fixed m₀, .fixed m₁ => eqStaticSlice m₀ m₁
  | .onDemand m₀, .onDemand m₁ => eqScn19OnDemand m₀ m₁
  | _, _ => return false

/-- `eq_edf_slice`: the loop comes before the comparison of the lengths. -/
def eqEdfSlice (m₀ m₁ : EdfSlice) : Outcome Bool :=
  allOf [eqArray (fun a b => test (a = b)) m₀.overIds m₁.overIds,
    test (m₀.deadline = m₁.deadline ∧ m₀.guaranteedPrbs = m₁.guaranteedPrbs ∧
      m₀.maxReplenish = m₁.maxReplenish ∧ m₀.overIds.length = m₁.overIds.length)]

/-- `eq_slice_params`. -/
def eqSliceParams : SliceParams → SliceParams → Outcome Bool
  | .sta m₀, .sta m₁ => eqStaticSlice m₀ m₁
  | .nvs m₀, .nvs m₁ => eqNvsSlice m₀ m₁
  | .scn19 m₀, .scn19 m₁ => eqScn19Slice m₀ m₁
  | .edf m₀, .edf m₁ => eqEdfSlice m₀ m₁
  | _, _ => return false

/-- `eq_slice`: of the scheduler's name only the length is compared. -/
def eqSlice (m₀ m₁ : FrSlice) : Outcome Bool :=
  allOf [test (m₀.id = m₁.id), test (m₀.label.length = m₁.label.length),
    test (m₀.label = m₁.label), test (m₀.sched.length = m₁.sched.length),
    eqSliceParams m₀.params m₁.params]

/-- `eq_ul_dl_slice_conf`. -/
def eqUlDlSliceConf (m₀ m₁ : UlDlSliceConf) : Outcome Bool :=
  allOf [test (m₀.schedName.length = m₁.schedName.length),
    test (m₀.slices.length = m₁.slices.length), test (m₀.schedName = m₁.schedName),
    eqArray eqSlice m₀.slices m₁.slices]

/-- `eq_slice_conf`. -/
def eqSliceConf (m₀ m₁ : SliceConf) : Outcome Bool :=
  allOf [eqUlDlSliceConf m₀.ul m₁.ul, eqUlDlSliceConf m₀.dl m₁.dl]

/-- `eq_ue_slice_assoc`. -/
def eqUeSliceAssoc (m₀ m₁ : UeSliceAssoc) : Outcome Bool :=
  test (m₀.dlId = m₁.dlId ∧ m₀.rnti = m₁.rnti ∧ m₀.ulId = m₁.ulId)

/-- An array as a function finds it in a message that may be of another type: the length that
stands in its place, and the elements, if there are any of this type. -/
structure Found (A : Type) : Type where
  len : Outcome ℕ
  elems : Outcome (List A)

/-- The array is there. -/
def Found.array {A : Type} (l : List A) : Found A := ⟨returns l.length, returns l⟩

/-- `if(len != m1->len) return false;` -/
def eqLen {A : Type} (m₀ : List A) (m₁ : Found A) : Outcome Bool := do
  let len ← m₁.len
  test (m₀.length = len)

/-- A loop over the first array, which reads the second only in its body. -/
def eqFound {A : Type} (eq : A → A → Outcome Bool) (m₀ : List A) (m₁ : Found A) : Outcome Bool :=
  match m₀ with
  | [] => return true
  | _ :: _ => do
    let elems ← m₁.elems
    eqArray eq m₀ elems

/-- `eq_ue_slice_conf`. -/
def eqUeSliceConf (m₀ : UeSliceConf) (m₁ : Found UeSliceAssoc) : Outcome Bool :=
  allOf [eqLen m₀.ues m₁, eqFound eqUeSliceAssoc m₀.ues m₁]

/-- `eq_slice_ind_msg`. -/
def eqSliceIndMsg (m₀ m₁ : SliceIndMsg) : Outcome Bool :=
  allOf [eqSliceConf m₀.sliceConf m₁.sliceConf,
    eqUeSliceConf m₀.ueSliceConf (.array m₁.ueSliceConf.ues), test (m₀.tstamp = m₁.tstamp)]

/-- `eq_del_slice`. -/
def eqDelSlice (m₀ : DelSliceConf) (dl ul : Found UInt32) : Outcome Bool :=
  allOf [eqLen m₀.dl dl, eqFound (fun a b => test (a = b)) m₀.dl dl,
    eqLen m₀.ul ul, eqFound (fun a b => test (a = b)) m₀.ul ul]

/-- `m1->u.del_slice.dl`. The first member of each structure of the union is a length. -/
def SliceCtrlMsg.dl : SliceCtrlMsg → Found UInt32
  | .addModSlice conf => ⟨returns conf.dl.slices.length, faults .misread⟩
  | .delSlice conf => .array conf.dl
  | .ueSlice conf => ⟨returns conf.ues.length, faults .misread⟩

/-- `m1->u.del_slice.ul`. The length of the scheduler's name stands in the same place; the structure
with the UEs ends before it. -/
def SliceCtrlMsg.ul : SliceCtrlMsg → Found UInt32
  | .addModSlice conf => ⟨returns conf.dl.schedName.length, faults .misread⟩
  | .delSlice conf => .array conf.ul
  | .ueSlice _ => ⟨faults .misread, faults .misread⟩

/-- `m1->u.ue_slice.ues`. -/
def SliceCtrlMsg.ues : SliceCtrlMsg → Found UeSliceAssoc
  | .addModSlice conf => ⟨returns conf.dl.slices.length, faults .misread⟩
  | .delSlice conf => ⟨returns conf.dl.length, faults .misread⟩
  | .ueSlice conf => .array conf.ues

/-- `eq_slice_ctrl_msg`: the type of the second message is not compared. What `eq_slice_conf` reads
first, the scheduler's name of the uplink, stands behind the end of the other two structures. -/
def eqSliceCtrlMsg (m₀ m₁ : SliceCtrlMsg) : Outcome Bool :=
  match m₀, m₁ with
  | .addModSlice conf₀, .addModSlice conf₁ => eqSliceConf conf₀ conf₁
  | .addModSlice _, _ => faults .misread
  | .delSlice conf₀, m₁ => eqDelSlice conf₀ m₁.dl m₁.ul
  | .ueSlice conf₀, m₁ => eqUeSliceConf conf₀ m₁.ues

/-! ## Messages that agree -/

/-- The rates agree. -/
def NvsRate.Agree (m₀ m₁ : NvsRate) : Prop :=
  FloatEq m₀.mbpsReference m₁.mbpsReference ∧ FloatEq m₀.mbpsRequired m₁.mbpsRequired

/-- The slices are of the same type and agree. -/
def NvsSlice.Agree : NvsSlice → NvsSlice → Prop
  | .rate m₀, .rate m₁ => m₀.Agree m₁
  | .capacity m₀, .capacity m₁ => FloatEq m₀.pctReserved m₁.pctReserved
  | _, _ => False

/-- The slices are of the same type and agree. -/
def Scn19Slice.Agree : Scn19Slice → Scn19Slice → Prop
  | .dynamic m₀, .dynamic m₁ => m₀.Agree m₁
  | .fixed m₀, .fixed m₁ => m₀ = m₁
  | .onDemand m₀, .onDemand m₁ => FloatEq m₀.logDelta m₁.logDelta ∧
      FloatEq m₀.pctReserved m₁.pctReserved ∧ m₀.tau = m₁.tau
  | _, _ => False

/-- The parameters are of the same type and agree. -/
def SliceParams.Agree : SliceParams → SliceParams → Prop
  | .sta m₀, .sta m₁ => m₀ = m₁
  | .nvs m₀, .nvs m₁ => m₀.Agree m₁
  | .scn19 m₀, .scn19 m₁ => m₀.Agree m₁
  | .edf m₀, .edf m₁ => m₀ = m₁
  | _, _ => False

/-- The slices agree. -/
structure FrSlice.Agree (m₀ m₁ : FrSlice) : Prop where
  id : m₀.id = m₁.id
  label : m₀.label = m₁.label
  sched : m₀.sched = m₁.sched
  params : m₀.params.Agree m₁.params

/-- The slices agree in what the code compares. -/
structure FrSlice.LooksLike (m₀ m₁ : FrSlice) : Prop where
  id : m₀.id = m₁.id
  label : m₀.label = m₁.label
  sched : m₀.sched.length = m₁.sched.length
  params : m₀.params.Agree m₁.params

section AgreeBy

variable (alike : FrSlice → FrSlice → Prop)

/-- The names agree, and the slices one by one. -/
def UlDlSliceConf.AgreeBy (m₀ m₁ : UlDlSliceConf) : Prop :=
  m₀.schedName = m₁.schedName ∧ List.Forall₂ alike m₀.slices m₁.slices

/-- Both directions agree. -/
def SliceConf.AgreeBy (m₀ m₁ : SliceConf) : Prop :=
  m₀.ul.AgreeBy alike m₁.ul ∧ m₀.dl.AgreeBy alike m₁.dl

/-- The indication messages agree. -/
structure SliceIndMsg.AgreeBy (m₀ m₁ : SliceIndMsg) : Prop where
  sliceConf : m₀.sliceConf.AgreeBy alike m₁.sliceConf
  ueSliceConf : m₀.ueSliceConf = m₁.ueSliceConf
  tstamp : m₀.tstamp = m₁.tstamp

/-- The control messages are of the same type and agree. -/
def SliceCtrlMsg.AgreeBy : SliceCtrlMsg → SliceCtrlMsg → Prop
  | .addModSlice conf₀, .addModSlice conf₁ => conf₀.AgreeBy alike conf₁
  | .delSlice conf₀, .delSlice conf₁ => conf₀ = conf₁
  | .ueSlice conf₀, .ueSlice conf₁ => conf₀ = conf₁
  | _, _ => False

end AgreeBy

/-- The messages agree in every field that their tags select. -/
abbrev SliceIndMsg.Agree : SliceIndMsg → SliceIndMsg → Prop := SliceIndMsg.AgreeBy FrSlice.Agree

/-- The messages agree in every field that their tags select. -/
abbrev SliceCtrlMsg.Agree : SliceCtrlMsg → SliceCtrlMsg → Prop := SliceCtrlMsg.AgreeBy FrSlice.Agree

/-! ## What goes wrong -/

/-- The sharing ids of the second slice are a proper beginning of those of the first. -/
def EdfSlice.Overruns (m₀ m₁ : EdfSlice) : Prop :=
  m₁.overIds <+: m₀.overIds ∧ m₁.overIds ≠ m₀.overIds

/-- Both are EDF slices, and the first has more sharing ids. -/
def SliceParams.Overruns : SliceParams → SliceParams → Prop
  | .edf m₀, .edf m₁ => m₀.Overruns m₁
  | _, _ => False

/-- The parameters are reached. -/
structure FrSlice.Overruns (m₀ m₁ : FrSlice) : Prop where
  id : m₀.id = m₁.id
  label : m₀.label = m₁.label
  sched : m₀.sched.length = m₁.sched.length
  params : m₀.params.Overruns m₁.params

/-- The slices before look alike. -/
structure UlDlSliceConf.Overruns (m₀ m₁ : UlDlSliceConf) : Prop where
  schedName : m₀.schedName = m₁.schedName
  len : m₀.slices.length = m₁.slices.length
  slices : ReachesFailure FrSlice.Overruns FrSlice.LooksLike m₀.slices m₁.slices

/-- The downlink is reached if the uplink looks alike. -/
def SliceConf.Overruns (m₀ m₁ : SliceConf) : Prop :=
  m₀.ul.Overruns m₁.ul ∨ m₀.ul.AgreeBy FrSlice.LooksLike m₁.ul ∧ m₀.dl.Overruns m₁.dl

/-- The slices have the same scheduler's names. -/
def SliceConf.SameScheds (m₀ m₁ : SliceConf) : Prop :=
  m₀.ul.slices.map FrSlice.sched = m₁.ul.slices.map FrSlice.sched ∧
    m₀.dl.slices.map FrSlice.sched = m₁.dl.slices.map FrSlice.sched

/-- The comparison reads no array past its end, and if it finds no difference, the names of the
schedulers are the same. -/
def SliceIndMsg.Compared (m₀ m₁ : SliceIndMsg) : Prop :=
  ¬m₀.sliceConf.Overruns m₁.sliceConf ∧
    (m₀.AgreeBy FrSlice.LooksLike m₁ → m₀.sliceConf.SameScheds m₁.sliceConf)

/-- The comparison reads no array past its end, and if it finds no difference, the names of the
schedulers are the same. Where the types are different, it finds a difference between the lengths
that stand in the same place. -/
def SliceCtrlMsg.Compared : SliceCtrlMsg → SliceCtrlMsg → Prop
  | .addModSlice conf₀, .addModSlice conf₁ => ¬conf₀.Overruns conf₁ ∧
      (conf₀.AgreeBy FrSlice.LooksLike conf₁ → conf₀.SameScheds conf₁)
  | .addModSlice _, _ => False
  | .delSlice _, .delSlice _ => True
  | .delSlice conf₀, .addModSlice conf₁ => conf₀.dl.length ≠ conf₁.dl.slices.length ∨
      conf₀.dl = [] ∧ conf₀.ul.length ≠ conf₁.dl.schedName.length
  | .delSlice conf₀, .ueSlice conf₁ => conf₀.dl.length ≠ conf₁.ues.length
  | .ueSlice _, .ueSlice _ => True
  | .ueSlice conf₀, .addModSlice conf₁ => conf₀.ues.length ≠ conf₁.dl.slices.length
  | .ueSlice conf₀, .delSlice conf₁ => conf₀.ues.length ≠ conf₁.dl.length

/-! ## Parameters -/

theorem decides_eqStaticSlice (m₀ m₁ : StaticSlice) : Decides (eqStaticSlice m₀ m₁) (m₀ = m₁) := by
  obtain ⟨low₀, high₀⟩ := m₀
  obtain ⟨low₁, high₁⟩ := m₁
  refine decides_test.congr ?_
  rw [StaticSlice.mk.injEq]
  exact And.comm

theorem decides_eqNvsRate (m₀ m₁ : NvsRate) : Decides (eqNvsRate m₀ m₁) (m₀.Agree m₁) :=
  decides_test

theorem decides_eqNvsSlice (m₀ m₁ : NvsSlice) : Decides (eqNvsSlice m₀ m₁) (m₀.Agree m₁) := by
  cases m₀ with
  | rate r₀ =>
    cases m₁ with
    | rate r₁ => exact decides_eqNvsRate r₀ r₁
    | capacity c₁ => exact decides_false id
  | capacity c₀ =>
    cases m₁ with
    | rate r₁ => exact decides_false id
    | capacity c₁ => exact decides_test

theorem decides_eqScn19Slice (m₀ m₁ : Scn19Slice) :
    Decides (eqScn19Slice m₀ m₁) (m₀.Agree m₁) := by
  cases m₀ with
  | dynamic r₀ =>
    cases m₁ with
    | dynamic r₁ => exact decides_eqNvsRate r₀ r₁
    | fixed s₁ => exact decides_false id
    | onDemand d₁ => exact decides_false id
  | fixed s₀ =>
    cases m₁ with
    | dynamic r₁ => exact decides_false id
    | fixed s₁ => exact decides_eqStaticSlice s₀ s₁
    | onDemand d₁ => exact decides_false id
  | onDemand d₀ =>
    cases m₁ with
    | dynamic r₁ => exact decides_false id
    | fixed s₁ => exact decides_false id
    | onDemand d₁ => exact decides_test

/-- The sharing ids of the first slice are read from the second before the lengths are compared. -/
theorem answers_eqEdfSlice (m₀ m₁ : EdfSlice) :
    Answers (eqEdfSlice m₀ m₁) (m₀.Overruns m₁) (m₀ = m₁) := by
  have hloop := answers_eqArray_test m₀.overIds m₁.overIds
  refine (hloop.allOf_cons fun _ => decides_test.answers.allOf_singleton).congr ?_ ?_
  · rw [and_false, or_false]
    rfl
  · obtain ⟨deadline₀, prbs₀, replenish₀, over₀⟩ := m₀
    obtain ⟨deadline₁, prbs₁, replenish₁, over₁⟩ := m₁
    rw [EdfSlice.mk.injEq]
    constructor
    · rintro ⟨hpre, hdeadline, hprbs, hreplenish, hlen⟩
      exact ⟨hdeadline, hprbs, hreplenish, hpre.eq_of_length hlen⟩
    · rintro ⟨hdeadline, hprbs, hreplenish, rfl⟩
      exact ⟨List.prefix_rfl, hdeadline, hprbs, hreplenish, rfl⟩

theorem answers_eqSliceParams (m₀ m₁ : SliceParams) :
    Answers (eqSliceParams m₀ m₁) (m₀.Overruns m₁) (m₀.Agree m₁) := by
  cases m₀ with
  | sta s₀ =>
    cases m₁ with
    | sta s₁ => exact (decides_eqStaticSlice s₀ s₁).answers
    | nvs n₁ => exact (decides_false id).answers
    | scn19 s₁ => exact (decides_false id).answers
    | edf e₁ => exact (decides_false id).answers
  | nvs n₀ =>
    cases m₁ with
    | sta s₁ => exact (decides_false id).answers
    | nvs n₁ => exact (decides_eqNvsSlice n₀ n₁).answers
    | scn19 s₁ => exact (decides_false id).answers
    | edf e₁ => exact (decides_false id).answers
  | scn19 s₀ =>
    cases m₁ with
    | sta s₁ => exact (decides_false id).answers
    | nvs n₁ => exact (decides_false id).answers
    | scn19 s₁ => exact (decides_eqScn19Slice s₀ s₁).answers
    | edf e₁ => exact (decides_false id).answers
  | edf e₀ =>
    cases m₁ with
    | sta s₁ => exact (decides_false id).answers
    | nvs n₁ => exact (decides_false id).answers
    | scn19 s₁ => exact (decides_false id).answers
    | edf e₁ => exact answers_eqEdfSlice e₀ e₁

/-! ## Slices -/

theorem answers_eqSlice (m₀ m₁ : FrSlice) :
    Answers (eqSlice m₀ m₁) (m₀.Overruns m₁) (m₀.LooksLike m₁) := by
  have hparams := (answers_eqSliceParams m₀.params m₁.params).allOf_singleton
  refine (decides_test.answers.allOf_cons fun _ => decides_test.answers.allOf_cons fun _ =>
    decides_test.answers.allOf_cons fun _ => decides_test.answers.allOf_cons fun _ =>
    hparams).congr ?_ ?_
  · simp only [false_or]
    constructor
    · rintro ⟨hid, -, hlabel, hsched, hover⟩
      exact ⟨hid, hlabel, hsched, hover⟩
    · rintro ⟨hid, hlabel, hsched, hover⟩
      exact ⟨hid, congrArg _ hlabel, hlabel, hsched, hover⟩
  · constructor
    · rintro ⟨hid, -, hlabel, hsched, halike⟩
      exact ⟨hid, hlabel, hsched, halike⟩
    · rintro ⟨hid, hlabel, hsched, halike⟩
      exact ⟨hid, congrArg _ hlabel, hlabel, hsched, halike⟩

theorem answers_eqUlDlSliceConf (m₀ m₁ : UlDlSliceConf) :
    Answers (eqUlDlSliceConf m₀ m₁) (m₀.Overruns m₁) (m₀.AgreeBy FrSlice.LooksLike m₁) := by
  refine (decides_test.answers.allOf_cons fun _ => decides_test.answers.allOf_cons fun hlen =>
    decides_test.answers.allOf_cons fun _ =>
    (answers_eqArray hlen fun a _ b _ => answers_eqSlice a b).allOf_singleton).congr ?_ ?_
  · simp only [false_or]
    constructor
    · rintro ⟨-, hlen, hname, hslices⟩
      exact ⟨hname, hlen, hslices⟩
    · rintro ⟨hname, hlen, hslices⟩
      exact ⟨congrArg _ hname, hlen, hname, hslices⟩
  · constructor
    · rintro ⟨-, -, hname, hslices⟩
      exact ⟨hname, hslices⟩
    · rintro ⟨hname, hslices⟩
      exact ⟨congrArg _ hname, hslices.length_eq, hname, hslices⟩

theorem answers_eqSliceConf (m₀ m₁ : SliceConf) :
    Answers (eqSliceConf m₀ m₁) (m₀.Overruns m₁) (m₀.AgreeBy FrSlice.LooksLike m₁) := by
  exact (answers_eqUlDlSliceConf m₀.ul m₁.ul).allOf_cons fun _ =>
    (answers_eqUlDlSliceConf m₀.dl m₁.dl).allOf_singleton

/-! ## What is not compared -/

theorem FrSlice.agree_iff {m₀ m₁ : FrSlice} :
    m₀.Agree m₁ ↔ m₀.LooksLike m₁ ∧ m₀.sched = m₁.sched := by
  constructor
  · intro h
    exact ⟨⟨h.id, h.label, congrArg _ h.sched, h.params⟩, h.sched⟩
  · rintro ⟨hlike, hsched⟩
    exact ⟨hlike.id, hlike.label, hsched, hlike.params⟩

/-- Slices agree if and only if they look alike and have the same scheduler's names. -/
theorem forall₂_agree_iff {as bs : List FrSlice} :
    List.Forall₂ FrSlice.Agree as bs ↔
      List.Forall₂ FrSlice.LooksLike as bs ∧ as.map FrSlice.sched = bs.map FrSlice.sched := by
  have hagree : FrSlice.Agree = fun m₀ m₁ => m₀.LooksLike m₁ ∧ m₀.sched = m₁.sched :=
    funext₂ fun _ _ => propext FrSlice.agree_iff
  have hsched : as.map FrSlice.sched = bs.map FrSlice.sched ↔
      List.Forall₂ (fun m₀ m₁ => m₀.sched = m₁.sched) as bs := by
    rw [← List.forall₂_eq_eq_eq, List.forall₂_map_left_iff, List.forall₂_map_right_iff]
  rw [hagree, listForall₂_and, hsched]

theorem SliceConf.agreeBy_agree_iff {m₀ m₁ : SliceConf} :
    m₀.AgreeBy FrSlice.Agree m₁ ↔ m₀.AgreeBy FrSlice.LooksLike m₁ ∧ m₀.SameScheds m₁ := by
  simp only [SliceConf.AgreeBy, UlDlSliceConf.AgreeBy, SliceConf.SameScheds, forall₂_agree_iff]
  constructor
  · rintro ⟨⟨hname, hlike, hsched⟩, hname', hlike', hsched'⟩
    exact ⟨⟨⟨hname, hlike⟩, hname', hlike'⟩, hsched, hsched'⟩
  · rintro ⟨⟨⟨hname, hlike⟩, hname', hlike'⟩, hsched, hsched'⟩
    exact ⟨⟨hname, hlike, hsched⟩, hname', hlike', hsched'⟩

theorem SliceIndMsg.agree_iff {m₀ m₁ : SliceIndMsg} :
    m₀.Agree m₁ ↔ m₀.AgreeBy FrSlice.LooksLike m₁ ∧ m₀.sliceConf.SameScheds m₁.sliceConf := by
  constructor
  · rintro ⟨hconf, hues, htstamp⟩
    obtain ⟨hlike, hsched⟩ := SliceConf.agreeBy_agree_iff.1 hconf
    exact ⟨⟨hlike, hues, htstamp⟩, hsched⟩
  · rintro ⟨⟨hlike, hues, htstamp⟩, hsched⟩
    exact ⟨SliceConf.agreeBy_agree_iff.2 ⟨hlike, hsched⟩, hues, htstamp⟩

/-! ## Associations and ids -/

theorem decides_eqUeSliceAssoc (m₀ m₁ : UeSliceAssoc) :
    Decides (eqUeSliceAssoc m₀ m₁) (m₀ = m₁) := by
  obtain ⟨dl₀, ul₀, rnti₀⟩ := m₀
  obtain ⟨dl₁, ul₁, rnti₁⟩ := m₁
  refine decides_test.congr ?_
  rw [UeSliceAssoc.mk.injEq]
  constructor
  · rintro ⟨hdl, hrnti, hul⟩
    exact ⟨hdl, hul, hrnti⟩
  · rintro ⟨hdl, hul, hrnti⟩
    exact ⟨hdl, hrnti, hul⟩

section Found

variable {A : Type} {eq : A → A → Outcome Bool} {rest : List (Outcome Bool)} {p : Prop}

theorem eqFound_array (m₀ m₁ : List A) : eqFound eq m₀ (.array m₁) = eqArray eq m₀ m₁ := by
  cases m₀ <;> rfl

theorem decides_eqLen_eqFound (heq : ∀ a b, Decides (eq a b) (a = b)) {m₀ m₁ : List A}
    (hrest : m₀ = m₁ → Decides (allOf rest) p) :
    Decides (allOf (eqLen m₀ (.array m₁) :: eqFound eq m₀ (.array m₁) :: rest))
      (m₀ = m₁ ∧ p) := by
  rw [eqFound_array]
  exact decides_allOf_array heq hrest

/-- Where the array is of another type, only its length is compared without a misread. -/
theorem answers_eqLen_eqFound_misread {m₀ : List A} {len : ℕ} {fails alike : Prop}
    (hrest : m₀ = [] → Answers (allOf rest) fails alike) :
    Answers (allOf (eqLen m₀ ⟨returns len, faults .misread⟩ ::
        eqFound eq m₀ ⟨returns len, faults .misread⟩ :: rest))
      (m₀.length = len ∧ (m₀ ≠ [] ∨ m₀ = [] ∧ fails)) (m₀.length = len ∧ m₀ = [] ∧ alike) := by
  have hlen : Decides (eqLen m₀ (⟨returns len, faults .misread⟩ : Found A))
      (m₀.length = len) := decides_test
  have hloop : Answers (eqFound eq m₀ ⟨returns len, faults .misread⟩) (m₀ ≠ []) (m₀ = []) := by
    cases m₀ with
    | nil => exact ⟨fun h => absurd rfl h, fun _ => ⟨fun _ => rfl, fun h => absurd rfl h⟩⟩
    | cons a as =>
      refine ⟨fun _ b hb => ?_, fun h => absurd (List.cons_ne_nil a as) h⟩
      cases hb
  refine (hlen.answers.allOf_cons fun _ => hloop.allOf_cons hrest).congr ?_ Iff.rfl
  rw [false_or]

end Found

theorem decides_eqUeSliceConf (m₀ m₁ : UeSliceConf) :
    Decides (eqUeSliceConf m₀ (.array m₁.ues)) (m₀ = m₁) := by
  obtain ⟨ues₀⟩ := m₀
  obtain ⟨ues₁⟩ := m₁
  refine (decides_eqLen_eqFound decides_eqUeSliceAssoc fun _ => decides_allOf_nil).congr ?_
  rw [and_true, UeSliceConf.mk.injEq]

theorem decides_eqDelSlice (m₀ m₁ : DelSliceConf) :
    Decides (eqDelSlice m₀ (.array m₁.dl) (.array m₁.ul)) (m₀ = m₁) := by
  obtain ⟨dl₀, ul₀⟩ := m₀
  obtain ⟨dl₁, ul₁⟩ := m₁
  have hid : ∀ a b : UInt32, Decides (test (a = b)) (a = b) := fun _ _ => decides_test
  refine (decides_eqLen_eqFound hid fun _ => decides_eqLen_eqFound hid fun _ =>
    decides_allOf_nil).congr ?_
  rw [and_true, DelSliceConf.mk.injEq]

/-! ## The messages -/

theorem answers_eqSliceIndMsg (m₀ m₁ : SliceIndMsg) :
    Answers (eqSliceIndMsg m₀ m₁) (m₀.sliceConf.Overruns m₁.sliceConf)
      (m₀.AgreeBy FrSlice.LooksLike m₁) := by
  refine ((answers_eqSliceConf _ _).allOf_cons fun _ =>
    (decides_eqUeSliceConf _ _).answers.allOf_cons fun _ =>
    decides_test.answers.allOf_singleton).congr ?_ ?_
  · rw [and_false, or_false, and_false, or_false]
  · constructor
    · rintro ⟨hconf, hues, htstamp⟩
      exact ⟨hconf, hues, htstamp⟩
    · rintro ⟨hconf, hues, htstamp⟩
      exact ⟨hconf, hues, htstamp⟩

theorem SliceIndMsg.decides_iff (m₀ m₁ : SliceIndMsg) :
    Decides (eqSliceIndMsg m₀ m₁) (m₀.Agree m₁) ↔ m₀.Compared m₁ := by
  rw [SliceIndMsg.agree_iff]
  exact (answers_eqSliceIndMsg m₀ m₁).decides_and_iff

theorem SliceCtrlMsg.decides_iff (m₀ m₁ : SliceCtrlMsg) :
    Decides (eqSliceCtrlMsg m₀ m₁) (m₀.Agree m₁) ↔ m₀.Compared m₁ := by
  have hmisread : Answers (faults .misread) True False :=
    ⟨fun _ b hb => (by cases hb), fun h => absurd trivial h⟩
  cases m₀ with
  | addModSlice conf₀ =>
    cases m₁ with
    | addModSlice conf₁ =>
      change Decides (eqSliceConf conf₀ conf₁) (conf₀.AgreeBy FrSlice.Agree conf₁) ↔ _
      rw [SliceConf.agreeBy_agree_iff]
      exact (answers_eqSliceConf conf₀ conf₁).decides_and_iff
    | delSlice conf₁ =>
      refine hmisread.decides_false_iff.trans ?_
      exact ⟨fun h => absurd trivial h.1, False.elim⟩
    | ueSlice conf₁ =>
      refine hmisread.decides_false_iff.trans ?_
      exact ⟨fun h => absurd trivial h.1, False.elim⟩
  | delSlice conf₀ =>
    cases m₁ with
    | addModSlice conf₁ =>
      have hanswers : Answers (eqSliceCtrlMsg (.delSlice conf₀) (.addModSlice conf₁)) _ _ :=
        answers_eqLen_eqFound_misread fun _ => answers_eqLen_eqFound_misread fun _ =>
          decides_allOf_nil.answers
      refine hanswers.decides_false_iff.trans ?_
      simp only [SliceCtrlMsg.Compared]
      tauto
    | delSlice conf₁ => exact ⟨fun _ => trivial, fun _ => decides_eqDelSlice conf₀ conf₁⟩
    | ueSlice conf₁ =>
      have hul : Answers (allOf [eqLen conf₀.ul ⟨faults .misread, faults .misread⟩,
          eqFound (fun a b => test (a = b)) conf₀.ul ⟨faults .misread, faults .misread⟩])
          True False := hmisread
      have hanswers : Answers (eqSliceCtrlMsg (.delSlice conf₀) (.ueSlice conf₁)) _ _ :=
        answers_eqLen_eqFound_misread fun _ => hul
      refine hanswers.decides_false_iff.trans ?_
      simp only [SliceCtrlMsg.Compared]
      tauto
  | ueSlice conf₀ =>
    cases m₁ with
    | addModSlice conf₁ =>
      have hanswers : Answers (eqSliceCtrlMsg (.ueSlice conf₀) (.addModSlice conf₁)) _ _ :=
        answers_eqLen_eqFound_misread fun _ => decides_allOf_nil.answers
      refine hanswers.decides_false_iff.trans ?_
      simp only [SliceCtrlMsg.Compared]
      tauto
    | delSlice conf₁ =>
      have hanswers : Answers (eqSliceCtrlMsg (.ueSlice conf₀) (.delSlice conf₁)) _ _ :=
        answers_eqLen_eqFound_misread fun _ => decides_allOf_nil.answers
      refine hanswers.decides_false_iff.trans ?_
      simp only [SliceCtrlMsg.Compared]
      tauto
    | ueSlice conf₁ => exact ⟨fun _ => trivial, fun _ => decides_eqUeSliceConf conf₀ conf₁⟩

/-- An indication message with one slice. -/
def sliceIndMsgOneSlice (sched : List UInt8) (params : SliceParams) : SliceIndMsg where
  sliceConf := {
    dl := { slices := [], schedName := [] }
    ul := { slices := [{ id := 1, label := [], sched := sched, params := params }],
            schedName := [] } }
  ueSliceConf := { ues := [] }
  tstamp := 0

end FlexRic
