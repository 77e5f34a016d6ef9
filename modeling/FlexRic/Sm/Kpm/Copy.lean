import FlexRic.Semantics.Comparing
import FlexRic.Sm.Kpm.DataIe

/-!
# Copies of KPM messages and their comparison (`sm/kpm_sm_v2.02/ie/kpm_data_ie.c`)

`cp_kpm_ind_msg` and `eq_kpm_ind_msg`. The copy allocates a granularity period of its own, and the
comparison looks at where the periods are, not at what they are. It counts the records of the data
items up to the length of the first list, also where the lengths are known to be different.
-/

namespace FlexRic.Kpm

open Outcome

/-! ## The code -/

/-- A value in memory. -/
structure Located (A : Type) : Type where
  addr : UInt64
  val : A
  deriving DecidableEq

/-- `kpm_ind_msg_t` in memory, with the address of the granularity period. -/
structure StoredKpmIndMsg : Type where
  measData : List AdapterMeasDataItem
  measInfo : List MeasInfo
  granulPeriod : Option (Located UInt64)
  deriving DecidableEq

/-- The message. -/
def StoredKpmIndMsg.contents (m : StoredKpmIndMsg) : KpmIndMsg where
  measData := m.measData
  measInfo := m.measInfo
  granulPeriod := m.granulPeriod.map Located.val

/-- `sizeof(adapter_MeasRecord_t)`. -/
def AdapterMeasRecord.sizeof : ℕ := 4 + 4 + 8 + 8

/-- `sizeof(adapter_MeasDataItem_t)`. -/
def AdapterMeasDataItem.sizeof : ℕ := 8 + 8 + 8

/-- The copy of the records of a data item: the number of bytes is counted in data items. -/
def cpMeasRecord (src : List AdapterMeasRecord) : Outcome (List AdapterMeasRecord) :=
  if src.length * AdapterMeasDataItem.sizeof = src.length * AdapterMeasRecord.sizeof then
    return src
  else faults .pastEnd

/-- The body of the loop over the data items. -/
def cpMeasDataItem (src : AdapterMeasDataItem) : Outcome AdapterMeasDataItem := do
  let measRecord ← cpMeasRecord src.measRecord
  return { measRecord := measRecord, incompleteFlag := src.incompleteFlag }

/-- `cp_label_info`, into a label that has been copied byte by byte already. -/
def cpLabelInfo (src : AdapterLabelInfoItem) : Outcome AdapterLabelInfoItem :=
  match src.noLabel with
  | some noLabel => return { src with noLabel := some noLabel }
  | none =>
    match src.plmnID with
    | some plmnID => return { src with plmnID := some plmnID }
    | none => stops

/-- The body of the loop over the measurement descriptions. -/
def cpMeasInfo (src : MeasInfo) : Outcome MeasInfo := do
  let labelInfo ← src.labelInfo.mapM cpLabelInfo
  return { measType := src.measType, labelInfo := labelInfo }

/-- `cp_kpm_ind_msg`, where `malloc` gives this address for the granularity period. -/
def cpKpmIndMsg (addr : UInt64) (src : StoredKpmIndMsg) : Outcome StoredKpmIndMsg := do
  let granulPeriod := src.granulPeriod.map fun period => { addr := addr, val := period.val }
  let measData ← src.measData.mapM cpMeasDataItem
  let measInfo ← src.measInfo.mapM cpMeasInfo
  return { measData := measData, measInfo := measInfo, granulPeriod := granulPeriod }

/-- The loop of `eq_kpm_ind_msg`, which goes on after a difference. -/
def eqMeasRecordLen (ret : Bool) : List AdapterMeasDataItem → List AdapterMeasDataItem →
    Outcome Bool
  | [], _ => return ret
  | _ :: _, [] => faults .pastEnd
  | m₀ :: ms₀, m₁ :: ms₁ =>
    eqMeasRecordLen (ret && m₀.measRecord.length == m₁.measRecord.length) ms₀ ms₁

/-- `eq_kpm_ind_msg`. -/
def eqKpmIndMsg (m₀ m₁ : StoredKpmIndMsg) : Outcome Bool :=
  let ret := match m₀.granulPeriod with
    | some period => m₁.granulPeriod.map Located.addr == some period.addr
    | none => true
  let ret := ret && m₀.measData.length == m₁.measData.length
  let ret := ret && m₀.measInfo.length == m₁.measInfo.length
  eqMeasRecordLen ret m₀.measData m₁.measData

/-! ## Copies -/

/-- A label that can be copied: it is empty, or there is a PLMN id. -/
def AdapterLabelInfoItem.Supported (label : AdapterLabelInfoItem) : Prop :=
  label.noLabel ≠ none ∨ label.plmnID ≠ none

/-- All labels of the message can be copied. -/
def StoredKpmIndMsg.Supported (m : StoredKpmIndMsg) : Prop :=
  ∀ info ∈ m.measInfo, ∀ label ∈ info.labelInfo, label.Supported

/-- The message with its granularity period elsewhere. -/
def StoredKpmIndMsg.relocate (addr : UInt64) (m : StoredKpmIndMsg) : StoredKpmIndMsg :=
  { m with granulPeriod := m.granulPeriod.map fun period => { addr := addr, val := period.val } }

@[simp] theorem StoredKpmIndMsg.contents_relocate (addr : UInt64) (m : StoredKpmIndMsg) :
    (m.relocate addr).contents = m.contents := by
  simp [StoredKpmIndMsg.contents, StoredKpmIndMsg.relocate, Function.comp_def]

/-- A record is as large as a data item. -/
theorem cpMeasRecord_eq (src : List AdapterMeasRecord) : cpMeasRecord src = returns src :=
  if_pos rfl

theorem cpMeasDataItem_eq (src : AdapterMeasDataItem) : cpMeasDataItem src = returns src := by
  rw [cpMeasDataItem, cpMeasRecord_eq]
  rfl

theorem cpLabelInfo_of_supported {src : AdapterLabelInfoItem} (h : src.Supported) :
    cpLabelInfo src = returns src := by
  obtain ⟨noLabel, plmnID⟩ := src
  cases noLabel with
  | some noLabel => rfl
  | none =>
    cases plmnID with
    | some plmnID => rfl
    | none =>
      rcases h with h | h
      · exact absurd rfl h
      · exact absurd rfl h

theorem cpMeasInfo_of_supported {src : MeasInfo} (h : ∀ label ∈ src.labelInfo, label.Supported) :
    cpMeasInfo src = returns src := by
  have hlabels : src.labelInfo.mapM cpLabelInfo = returns src.labelInfo :=
    mapM_eq_self fun label hlabel => cpLabelInfo_of_supported (h label hlabel)
  rw [cpMeasInfo, hlabels]
  rfl

theorem cpKpmIndMsg_of_supported {addr : UInt64} {src : StoredKpmIndMsg} (h : src.Supported) :
    cpKpmIndMsg addr src = returns (src.relocate addr) := by
  have hdata : src.measData.mapM cpMeasDataItem = returns src.measData :=
    mapM_eq_self fun item _ => cpMeasDataItem_eq item
  have hinfo : src.measInfo.mapM cpMeasInfo = returns src.measInfo :=
    mapM_eq_self fun info hinfo => cpMeasInfo_of_supported (h info hinfo)
  rw [cpKpmIndMsg, hdata, hinfo]
  rfl

/-! ## The comparison -/

theorem eqMeasRecordLen_self (ret : Bool) (ms : List AdapterMeasDataItem) :
    eqMeasRecordLen ret ms ms = returns ret := by
  induction ms with
  | nil => rfl
  | cons m ms ih => simpa [eqMeasRecordLen] using ih

theorem eqMeasRecordLen_safe_iff (ret : Bool) (ms₀ ms₁ : List AdapterMeasDataItem) :
    (eqMeasRecordLen ret ms₀ ms₁).Safe ↔ ms₀.length ≤ ms₁.length := by
  induction ms₀ generalizing ret ms₁ with
  | nil => exact iff_of_true (safe_returns ret) (Nat.zero_le _)
  | cons m₀ ms₀ ih =>
    cases ms₁ with
    | nil => exact iff_of_false not_safe_faults (Nat.not_succ_le_zero _)
    | cons m₁ ms₁ =>
      rw [eqMeasRecordLen, ih, List.length_cons, List.length_cons, Nat.add_le_add_iff_right]

/-- A message and the same message elsewhere are taken for equal only without a granularity
period. -/
theorem eqKpmIndMsg_relocate {addr : UInt64} {m : StoredKpmIndMsg}
    (haddr : ∀ period ∈ m.granulPeriod, period.addr ≠ addr) :
    eqKpmIndMsg m (m.relocate addr) = returns true ↔ m.granulPeriod = none := by
  obtain ⟨measData, measInfo, granulPeriod⟩ := m
  cases granulPeriod with
  | none => simp [eqKpmIndMsg, StoredKpmIndMsg.relocate, eqMeasRecordLen_self]
  | some period =>
    have hne : addr ≠ period.addr := (haddr period rfl).symm
    simp [eqKpmIndMsg, StoredKpmIndMsg.relocate, eqMeasRecordLen_self, hne]

/-- The copy of a message comes back with the same contents, and it is taken for equal to the
message if and only if there is no granularity period. The comparison of two messages stays within
their lists of data items if and only if the first has no more of them than the second. -/
theorem cpKpmIndMsg_eqKpmIndMsg {addr : UInt64} {m : StoredKpmIndMsg} (hm : m.Supported)
    (haddr : ∀ period ∈ m.granulPeriod, period.addr ≠ addr) (m₀ m₁ : StoredKpmIndMsg) :
    (∃ dst, cpKpmIndMsg addr m = returns dst ∧ dst.contents = m.contents ∧
      (eqKpmIndMsg m dst = returns true ↔ m.granulPeriod = none)) ∧
    ((eqKpmIndMsg m₀ m₁).Safe ↔ m₀.measData.length ≤ m₁.measData.length) := by
  constructor
  · exact ⟨m.relocate addr, cpKpmIndMsg_of_supported hm, StoredKpmIndMsg.contents_relocate addr m,
      eqKpmIndMsg_relocate haddr⟩
  · exact eqMeasRecordLen_safe_iff _ m₀.measData m₁.measData

/-- A message with these data items, one measurement description, and a granularity period. -/
def storedKpmIndMsg (measData : List AdapterMeasDataItem) (granulPeriod : Option (Located UInt64)) :
    StoredKpmIndMsg where
  measData := measData
  measInfo := [⟨.id 1, [{ noLabel := some 0 }]⟩]
  granulPeriod := granulPeriod

theorem storedKpmIndMsg_supported (measData : List AdapterMeasDataItem)
    (granulPeriod : Option (Located UInt64)) :
    (storedKpmIndMsg measData granulPeriod).Supported := by
  intro info hinfo label hlabel
  rw [List.mem_singleton.1 hinfo] at hlabel
  rw [List.mem_singleton.1 hlabel]
  exact .inl (Option.some_ne_none 0)

/-- The period of the copy is at another address. -/
theorem cpKpmIndMsg_eqKpmIndMsg_period :
    ∃ dst, cpKpmIndMsg 2 (storedKpmIndMsg [] (some ⟨1, 1000⟩)) = returns dst ∧
      dst.contents = (storedKpmIndMsg [] (some ⟨1, 1000⟩)).contents ∧
      (eqKpmIndMsg (storedKpmIndMsg [] (some ⟨1, 1000⟩)) dst = returns true ↔
        some (⟨1, 1000⟩ : Located UInt64) = none) :=
  (cpKpmIndMsg_eqKpmIndMsg (storedKpmIndMsg_supported [] (some ⟨1, 1000⟩)) (by decide)
    (storedKpmIndMsg [] none) (storedKpmIndMsg [] none)).1

/-- A message with a granularity period is not taken for equal to its copy, and the comparison
reads past the end of a list without data items. -/
theorem eqKpmIndMsg_not_copy :
    cpKpmIndMsg 2 (storedKpmIndMsg [] (some ⟨1, 1000⟩)) =
        returns (storedKpmIndMsg [] (some ⟨2, 1000⟩)) ∧
      eqKpmIndMsg (storedKpmIndMsg [] (some ⟨1, 1000⟩)) (storedKpmIndMsg [] (some ⟨2, 1000⟩)) =
        returns false ∧
      eqKpmIndMsg (storedKpmIndMsg [⟨[.int 5], -1⟩] none) (storedKpmIndMsg [] none) =
        faults .pastEnd := by
  decide

end FlexRic.Kpm
