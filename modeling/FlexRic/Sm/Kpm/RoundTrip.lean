import FlexRic.Sm.Kpm.DecAsn
import FlexRic.Sm.Kpm.EncAsn

/-!
# Round trips of the KPM indication message

The data of a message comes back. Of the measurements, only those come back whose labels all have
`noLabel`, and no more labels than the first measurement has: a PLMN id is copied through a pointer
that was never set, and the array of the labels of each measurement has the size of the first one.
-/

namespace FlexRic.Kpm

open Kpm.Asn
open Outcome (fillArray take_fillArray_replicate toOption_bind toOption_eq_some toOption_mapM)

/-! ## Messages -/

/-- The label is `noLabel` or a PLMN id. -/
def AdapterLabelInfoItem.IsNoLabelOrPlmnID (l : AdapterLabelInfoItem) : Prop :=
  l.noLabel.isSome ∧ l.plmnID = none ∨ l.noLabel = none ∧ l.plmnID.isSome

/-- The incomplete flag has one of its two values, each label is `noLabel` or a PLMN id, and there
is no granularity period. -/
structure KpmIndMsg.WellFormed (m : KpmIndMsg) : Prop where
  incompleteFlag : ∀ item ∈ m.measData, item.incompleteFlag = 0 ∨ item.incompleteFlag = -1
  label : ∀ info ∈ m.measInfo, ∀ l ∈ info.labelInfo, l.IsNoLabelOrPlmnID
  granulPeriod : m.granulPeriod = none

/-- No label is a PLMN id, and no measurement has more labels than the first one. -/
structure KpmIndMsg.LabelsFit (m : KpmIndMsg) : Prop where
  plmnID : ∀ info ∈ m.measInfo, ∀ l ∈ info.labelInfo, l.plmnID = none
  len : ∀ info ∈ m.measInfo,
    info.labelInfo.length ≤ firstLen (m.measInfo.map MeasInfo.labelInfo)

instance : DecidablePred AdapterLabelInfoItem.IsNoLabelOrPlmnID := fun l =>
  inferInstanceAs (Decidable (l.noLabel.isSome ∧ l.plmnID = none ∨
    l.noLabel = none ∧ l.plmnID.isSome))

instance : DecidablePred KpmIndMsg.WellFormed := fun m =>
  decidable_of_iff
    ((∀ item ∈ m.measData, item.incompleteFlag = 0 ∨ item.incompleteFlag = -1) ∧
      (∀ info ∈ m.measInfo, ∀ l ∈ info.labelInfo, l.IsNoLabelOrPlmnID) ∧ m.granulPeriod = none)
    ⟨fun ⟨hflag, hlabel, hgranul⟩ => ⟨hflag, hlabel, hgranul⟩,
      fun h => ⟨h.incompleteFlag, h.label, h.granulPeriod⟩⟩

instance : DecidablePred KpmIndMsg.LabelsFit := fun m =>
  decidable_of_iff
    ((∀ info ∈ m.measInfo, ∀ l ∈ info.labelInfo, l.plmnID = none) ∧
      ∀ info ∈ m.measInfo, info.labelInfo.length ≤ firstLen (m.measInfo.map MeasInfo.labelInfo))
    ⟨fun ⟨hplmn, hlen⟩ => ⟨hplmn, hlen⟩, fun h => ⟨h.plmnID, h.len⟩⟩

/-! ## Data -/

theorem toOption_decMeasRecord (r : AdapterMeasRecord) :
    (decMeasRecord (encMeasRecord r)).toOption = some r := by
  cases r <;> rfl

theorem toOption_decMeasDataItem {item : AdapterMeasDataItem} {b : MeasurementDataItem}
    (hflag : item.incompleteFlag = 0 ∨ item.incompleteFlag = -1)
    (henc : encMeasDataItem item = some b) : (decMeasDataItem b).toOption = some item := by
  obtain ⟨measRecord, flag⟩ := item
  obtain ⟨-, henc⟩ := assert_bind_eq_some.1 henc
  obtain rfl := Option.some.inj henc
  have hrecord : (measRecord.map encMeasRecord).mapM (fun r => (decMeasRecord r).toOption) =
      some measRecord := mapM_map_iff.2 fun r _ => toOption_decMeasRecord r
  rw [decMeasDataItem, toOption_bind, toOption_mapM, hrecord]
  cases hflag with
  | inl hzero =>
    obtain rfl : flag = 0 := hzero
    rfl
  | inr hneg =>
    obtain rfl : flag = -1 := hneg
    rfl

/-! ## Measurements -/

/-- A label comes back from a zeroed place if it has `noLabel` and nothing else. -/
theorem toOption_cpLabelInfoItem {l : AdapterLabelInfoItem} :
    (cpLabelInfoItemFromAsn {} (cpLabelInfoItemIntoAsn l)).toOption = some l ↔
      l.noLabel.isSome ∧ l.plmnID = none := by
  obtain ⟨noLabel, plmnID⟩ := l
  cases noLabel with
  | none => simp [cpLabelInfoItemIntoAsn, cpLabelInfoItemFromAsn,
      byteArrayHeapCpFromOctetStringPointers]
  | some noLabel => simp [cpLabelInfoItemIntoAsn, cpLabelInfoItemFromAsn, eq_comm]

theorem decMeasType_of_enc {t : MeasType} {b : MeasurementType} (henc : encMeasType t = some b) :
    decMeasType b = t := by
  cases t <;> cases henc <;> rfl

/-- A measurement comes back if its labels do and fit into the array. -/
theorem toOption_decMeasInfo {info : MeasInfo} {b : MeasurementInfoItem} {n : ℕ}
    (henc : encMeasInfo info = some b) :
    (decMeasInfo n b).toOption = some info ↔ info.labelInfo.length ≤ n ∧
      ∀ l ∈ info.labelInfo, l.noLabel.isSome ∧ l.plmnID = none := by
  obtain ⟨measType, labelInfo⟩ := info
  obtain ⟨t, ht, henc⟩ := Option.bind_eq_some_iff.1 henc
  obtain rfl := Option.some.inj henc
  have hdec : (decMeasInfo n ⟨t, labelInfo.map cpLabelInfoItemIntoAsn⟩).toOption =
      ((fillArray cpLabelInfoItemFromAsn (List.replicate n {})
        (labelInfo.map cpLabelInfoItemIntoAsn)).toOption.map
        (List.take (labelInfo.map cpLabelInfoItemIntoAsn).length)).map
        (MeasInfo.mk measType) := by
    rw [decMeasInfo, toOption_bind, decMeasType_of_enc ht, Option.map_map, Option.map_eq_bind]
    rfl
  have hlabels : (labelInfo.map cpLabelInfoItemIntoAsn).mapM
      (fun b => (cpLabelInfoItemFromAsn {} b).toOption) = some labelInfo ↔
      ∀ l ∈ labelInfo, l.noLabel.isSome ∧ l.plmnID = none :=
    mapM_map_iff.trans (forall₂_congr fun l _ => toOption_cpLabelInfoItem)
  rw [hdec, take_fillArray_replicate, List.length_map, ← hlabels]
  by_cases hlen : labelInfo.length ≤ n
  · simp [-List.mapM_map, hlen]
  · simp [hlen]

/-- The encoder keeps the number of the labels. -/
theorem length_labelInfoList {info : MeasInfo} {b : MeasurementInfoItem}
    (henc : encMeasInfo info = some b) : b.labelInfoList.length = info.labelInfo.length := by
  obtain ⟨t, -, henc⟩ := Option.bind_eq_some_iff.1 henc
  obtain rfl := Option.some.inj henc
  exact List.length_map _

theorem firstLen_labelInfoList {infos : List MeasInfo} {list : List MeasurementInfoItem}
    (henc : infos.mapM encMeasInfo = some list) :
    firstLen (list.map MeasurementInfoItem.labelInfoList) =
      firstLen (infos.map MeasInfo.labelInfo) := by
  cases mapM_eq_some_iff.1 henc with
  | nil => rfl
  | cons hb hbs => exact length_labelInfoList hb

/-- The measurements come back if each of them does. -/
theorem toOption_decMeasInfoList {infos : List MeasInfo}
    {list : Option (List MeasurementInfoItem)} (henc : encMeasInfoList infos = some list) :
    (decMeasInfoList list).toOption = some infos ↔ ∀ info ∈ infos,
      info.labelInfo.length ≤ firstLen (infos.map MeasInfo.labelInfo) ∧
        ∀ l ∈ info.labelInfo, l.noLabel.isSome ∧ l.plmnID = none := by
  rw [encMeasInfoList] at henc
  by_cases hpos : 0 < infos.length
  · rw [if_pos hpos] at henc
    obtain ⟨-, henc⟩ := assert_bind_eq_some.1 henc
    obtain ⟨items, hitems, henc⟩ := Option.bind_eq_some_iff.1 henc
    obtain rfl := Option.some.inj henc
    rw [decMeasInfoList, toOption_mapM, mapM_roundTrips_iff hitems, firstLen_labelInfoList hitems]
    refine forall₂_congr fun info hinfo => ?_
    have hsome := mapM_isSome_iff.1 (Option.isSome_of_mem hitems) info hinfo
    obtain ⟨b, hb⟩ := Option.isSome_iff_exists.1 hsome
    rw [roundTrips_iff hb, toOption_decMeasInfo hb]
  · obtain rfl : infos = [] := List.eq_nil_of_length_eq_zero (by omega)
    rw [if_neg hpos] at henc
    obtain rfl := Option.some.inj henc
    simp [decMeasInfoList]

/-! ## Round trips -/

theorem KpmIndMsg.labelsFit_iff {m : KpmIndMsg} (hm : m.WellFormed) :
    m.LabelsFit ↔ ∀ info ∈ m.measInfo,
      info.labelInfo.length ≤ firstLen (m.measInfo.map MeasInfo.labelInfo) ∧
        ∀ l ∈ info.labelInfo, l.noLabel.isSome ∧ l.plmnID = none := by
  constructor
  · intro h info hinfo
    refine ⟨h.len info hinfo, fun l hl => ?_⟩
    have hplmn := h.plmnID info hinfo l hl
    rcases hm.label info hinfo l hl with hlabel | ⟨-, hsome⟩
    · exact hlabel
    · rw [hplmn] at hsome
      cases hsome
  · intro h
    exact ⟨fun info hinfo l hl => ((h info hinfo).2 l hl).2, fun info hinfo => (h info hinfo).1⟩

/-- The decoder gives back a message that the encoder accepts, and stays inside the arrays of the
labels, exactly if the labels fit. -/
theorem roundTrip_kpmIndMsg_iff (encodes : IndicationMessage → Prop) [DecidablePred encodes]
    (m : KpmIndMsg) (hm : m.WellFormed) (pdu : IndicationMessage)
    (henc : kpmEncIndMsgAsn encodes m = some pdu) :
    kpmDecIndMsgAsn pdu = .returns m ↔ m.LabelsFit := by
  obtain ⟨-, henc⟩ := assert_bind_eq_some.1 henc
  obtain ⟨measData, hdata, henc⟩ := Option.bind_eq_some_iff.1 henc
  obtain ⟨measInfoList, hinfo, henc⟩ := Option.bind_eq_some_iff.1 henc
  obtain ⟨-, henc⟩ := assert_bind_eq_some.1 henc
  obtain rfl := Option.some.inj henc
  have hgranul := hm.granulPeriod
  have hdec : (measData.mapM decMeasDataItem).toOption = some m.measData := by
    rw [toOption_mapM, mapM_roundTrips_iff hdata]
    intro item hitem
    have hsome := mapM_isSome_iff.1 (Option.isSome_of_mem hdata) item hitem
    obtain ⟨b, hb⟩ := Option.isSome_iff_exists.1 hsome
    exact (roundTrips_iff hb).2 (toOption_decMeasDataItem (hm.incompleteFlag item hitem) hb)
  rw [KpmIndMsg.labelsFit_iff hm, ← toOption_decMeasInfoList hinfo, ← toOption_eq_some,
    kpmDecIndMsgAsn, toOption_bind, hdec, hgranul]
  obtain ⟨data, infos, granulPeriod⟩ := m
  obtain rfl : granulPeriod = none := hgranul
  cases decMeasInfoList measInfoList <;> simp [Outcome.check]

/-- A message of one record, with the given measurements. -/
def KpmIndMsg.ofMeasInfo (measInfo : List MeasInfo) : KpmIndMsg where
  measData := [⟨[.int 5, .noval], 0⟩]
  measInfo := measInfo
  granulPeriod := none

/-- The label `noLabel`. -/
def AdapterLabelInfoItem.noLabelTrue : AdapterLabelInfoItem := ⟨some 0, none⟩

theorem roundTrip_kpmIndMsg_ofMeasInfo :
    let m := KpmIndMsg.ofMeasInfo [⟨.name [68, 82, 66], [.noLabelTrue, .noLabelTrue]⟩,
      ⟨.id 7, [.noLabelTrue]⟩]
    (kpmEncIndMsgAsn (fun _ => True) m).map kpmDecIndMsgAsn = some (.returns m) := by
  intro m
  obtain ⟨pdu, henc⟩ : ∃ pdu, kpmEncIndMsgAsn (fun _ => True) m = some pdu := ⟨_, rfl⟩
  have h := (roundTrip_kpmIndMsg_iff (fun _ => True) m (by decide) pdu henc).2 (by decide)
  rw [henc, Option.map_some, h]

/-- The second measurement has one label more than the first one. -/
theorem not_roundTrip_kpmIndMsg :
    ¬∀ (encodes : IndicationMessage → Prop) [DecidablePred encodes] (m : KpmIndMsg)
      (pdu : IndicationMessage), m.WellFormed → kpmEncIndMsgAsn encodes m = some pdu →
        kpmDecIndMsgAsn pdu = .returns m := by
  intro h
  have hdec := h (fun _ => True) (.ofMeasInfo [⟨.name [68, 82, 66], [.noLabelTrue]⟩,
    ⟨.id 7, [.noLabelTrue, .noLabelTrue]⟩]) _ (by decide) rfl
  revert hdec
  decide

end FlexRic.Kpm
