import FlexRic.Sm.Kpm.RoundTrip

/-!
# Round trips of the KPM action definition and indication header

The measurements of an action definition come back if no label is a PLMN id. What is optional does
not: the encoder goes through a pointer that was never set, or fails its own assertion.
-/

namespace FlexRic.Kpm

open Kpm.Asn
open Outcome (check fillArray take_fillArray_replicate toOption_bind toOption_eq_some toOption_mapM)

/-! ## Action definition -/

/-- A style-1 action definition that meets the assertions of the encoder: it has measurements by
name or id, each with labels, and no more of them than the protocol allows. -/
structure KpmActionDef.Accepted (a : KpmActionDef) : Prop where
  style : a.ricStyleType = 1
  measInfo : a.measInfo.length ≤ maxnoofMeasurementInfo ∧ 0 < a.measInfo.length
  measType : ∀ info ∈ a.measInfo, info.measType ≠ .unset
  labelInfo : ∀ info ∈ a.measInfo,
    info.labelInfo.length ≤ maxnoofLabelInfo ∧ 0 < info.labelInfo.length
  cellGlobalId : a.cellGlobalId ≠ .unknown

/-- It has no cell id, and each label is `noLabel` and nothing else. -/
structure KpmActionDef.Survives (a : KpmActionDef) : Prop where
  cellGlobalId : a.cellGlobalId = .nothing
  label : ∀ info ∈ a.measInfo, ∀ l ∈ info.labelInfo, l.noLabel.isSome ∧ l.plmnID = none

theorem encMeasType_isSome {t : MeasType} : (encMeasType t).isSome ↔ t ≠ .unset := by
  cases t <;> simp [encMeasType]

theorem encMeasType_ne_nothing {t : MeasType} {b : MeasurementType} (h : encMeasType t = some b) :
    b ≠ .nothing := by
  cases t <;> cases h <;> exact nofun

theorem encActionMeasInfo_isSome {info : MeasInfo} (htype : info.measType ≠ .unset)
    (hlen : info.labelInfo.length ≤ maxnoofLabelInfo ∧ 0 < info.labelInfo.length) :
    (encActionMeasInfo info).isSome := by
  obtain ⟨t, ht⟩ := Option.isSome_iff_exists.1 (encMeasType_isSome.2 htype)
  rw [encActionMeasInfo, ht, Option.bind_eq_bind, Option.bind_some, assert_of hlen]
  rfl

/-- A measurement comes back if its labels do. -/
theorem toOption_decActionMeasInfo {info : MeasInfo} {b : MeasurementInfoItem}
    (henc : encActionMeasInfo info = some b) :
    (decActionMeasInfo b).toOption = some info ↔
      ∀ l ∈ info.labelInfo, l.noLabel.isSome ∧ l.plmnID = none := by
  obtain ⟨t, ht, henc⟩ := Option.bind_eq_some_iff.1 henc
  obtain ⟨-, henc⟩ := assert_bind_eq_some.1 henc
  have henc' : encMeasInfo info = some b := by
    rw [encMeasInfo, ht]
    exact henc
  have hlen := length_labelInfoList henc'
  have htype : b.measType ≠ .nothing := by
    obtain rfl := Option.some.inj henc
    exact encMeasType_ne_nothing ht
  rw [decActionMeasInfo, if_neg htype, toOption_decMeasInfo henc', hlen]
  exact and_iff_right le_rfl

/-- The assertions of the encoder hold, and only the cell id can still stop it. -/
theorem KpmActionDef.Accepted.pdu_eq {a : KpmActionDef} (h : a.Accepted) :
    ∃ list, a.measInfo.mapM encActionMeasInfo = some list ∧
      actionDefPdu a = encCellGlobalId none a.cellGlobalId >>= fun cellGlobalID =>
        .returns ⟨a.ricStyleType, .format1 ⟨list, a.granularityPeriod, cellGlobalID⟩⟩ := by
  have hsome : (a.measInfo.mapM encActionMeasInfo).isSome := mapM_isSome_iff.2 fun info hinfo =>
    encActionMeasInfo_isSome (h.measType info hinfo) (h.labelInfo info hinfo)
  obtain ⟨list, hlist⟩ := Option.isSome_iff_exists.1 hsome
  have hstyle : 0 < a.ricStyleType ∧ a.ricStyleType < 6 := by
    rw [h.style]
    decide
  refine ⟨list, hlist, ?_⟩
  rw [actionDefPdu, hlist, check, if_pos hstyle, check, if_pos h.style, check, if_pos h.measInfo]
  rfl

/-- Without a cell id the measurements decide. -/
theorem roundTrip_measInfo {a : KpmActionDef} {list : List MeasurementInfoItem}
    (hlist : a.measInfo.mapM encActionMeasInfo = some list) (hcell : a.cellGlobalId = .nothing) :
    kpmDecActionDefAsn ⟨a.ricStyleType, .format1 ⟨list, a.granularityPeriod, none⟩⟩ = .returns a ↔
      ∀ info ∈ a.measInfo, ∀ l ∈ info.labelInfo, l.noLabel.isSome ∧ l.plmnID = none := by
  have hinfos : (list.mapM decActionMeasInfo).toOption = some a.measInfo ↔
      ∀ info ∈ a.measInfo, ∀ l ∈ info.labelInfo, l.noLabel.isSome ∧ l.plmnID = none := by
    rw [toOption_mapM, mapM_roundTrips_iff hlist]
    apply forall₂_congr
    intro info hinfo
    have hsome := mapM_isSome_iff.1 (Option.isSome_of_mem hlist) info hinfo
    obtain ⟨b, hb⟩ := Option.isSome_iff_exists.1 hsome
    rw [roundTrips_iff hb, toOption_decActionMeasInfo hb]
  rw [← hinfos, ← toOption_eq_some, kpmDecActionDefAsn, toOption_bind]
  obtain ⟨style, granularity, infos, cell⟩ := a
  obtain rfl : cell = .nothing := hcell
  cases list.mapM decActionMeasInfo <;> simp

/-- An action definition that the encoder accepts comes back exactly if it has no cell id and each
of its labels is `noLabel`. -/
theorem roundTrip_kpmActionDef_iff (encodes : ActionDefinition → Prop) [DecidablePred encodes]
    {a : KpmActionDef} (ha : a.Accepted)
    (henc : ∀ pdu, actionDefPdu a = .returns pdu → encodes pdu) :
    (kpmEncActionDefAsn encodes a >>= kpmDecActionDefAsn) = .returns a ↔ a.Survives := by
  obtain ⟨list, hlist, hpdu⟩ := ha.pdu_eq
  rw [kpmEncActionDefAsn]
  cases hcell : a.cellGlobalId with
  | nothing =>
    rw [hcell] at hpdu
    have hencodes := henc _ hpdu
    have hiff := roundTrip_measInfo hlist hcell
    rw [hpdu]
    simp only [encCellGlobalId, Outcome.returns_bind, check, if_pos hencodes]
    exact hiff.trans ⟨fun hlabel => ⟨hcell, hlabel⟩, fun h => h.label⟩
  | nrCgi pLMNIdentity nRCellIdentity =>
    rw [hpdu, hcell]
    refine iff_of_false (fun heq => ?_) fun h => ?_
    · cases heq
    · rw [h.cellGlobalId] at hcell
      cases hcell
  | eutraCgi pLMNIdentity eUTRACellIdentity =>
    rw [hpdu, hcell]
    refine iff_of_false (fun heq => ?_) fun h => ?_
    · cases heq
    · rw [h.cellGlobalId] at hcell
      cases hcell
  | unknown => exact absurd hcell ha.cellGlobalId

/-! ## Indication header -/

/-- It has none of the optional strings. -/
structure KpmIndHdr.Survives (h : KpmIndHdr) : Prop where
  fileFormatversion : h.fileFormatversion = none
  senderName : h.senderName = none
  senderType : h.senderType = none
  vendorName : h.vendorName = none

/-- There is nowhere to copy a string to, so the first one that is there stops the encoder. -/
theorem indHdrPdu_eq (h : KpmIndHdr) (hnone : ¬h.Survives) : indHdrPdu h = .stops := by
  obtain ⟨ts, version, name, type, vendor⟩ := h
  cases version with
  | some version => rfl
  | none =>
    cases name with
    | some name => rfl
    | none =>
      cases type with
      | some type => rfl
      | none =>
        cases vendor with
        | some vendor => rfl
        | none => exact absurd ⟨rfl, rfl, rfl, rfl⟩ hnone

/-- An indication header comes back exactly if it has none of the optional strings. -/
theorem roundTrip_kpmIndHdr_iff (encodes : IndicationHeader → Prop) [DecidablePred encodes]
    {h : KpmIndHdr} (henc : ∀ pdu, indHdrPdu h = .returns pdu → encodes pdu) :
    (kpmEncIndHdrAsn encodes h >>= kpmDecIndHdrAsn) = .returns h ↔ h.Survives := by
  by_cases hsurvives : h.Survives
  · refine iff_of_true ?_ hsurvives
    obtain ⟨ts, version, name, type, vendor⟩ := h
    obtain ⟨rfl, rfl, rfl, rfl⟩ := hsurvives
    have hpdu : indHdrPdu ⟨ts, none, none, none, none⟩ = .returns (.format1
      ⟨FlexRic.Asn.int32ToOctetString (FlexRic.Asn.htonl ts), none, none, none, none⟩) := rfl
    rw [kpmEncIndHdrAsn, hpdu, Outcome.returns_bind, check, if_pos (henc _ hpdu)]
    simp only [Outcome.returns_bind, kpmDecIndHdrAsn,
      FlexRic.Asn.octetStringToInt32_int32ToOctetString, Outcome.orFault, decPrintableString,
      FlexRic.Asn.htonl_htonl]
  · refine iff_of_false (fun heq => ?_) hsurvives
    rw [kpmEncIndHdrAsn, indHdrPdu_eq h hsurvives] at heq
    cases heq

/-! ## Both -/

/-- If the library encodes the trees that are built, an action definition and an indication header
come back exactly if they have nothing that is optional, and no label is a PLMN id. -/
theorem roundTrip_kpmActionDef_kpmIndHdr (encodesAct : ActionDefinition → Prop)
    (encodesHdr : IndicationHeader → Prop) [DecidablePred encodesAct] [DecidablePred encodesHdr] :
    (∀ a : KpmActionDef, a.Accepted → (∀ pdu, actionDefPdu a = .returns pdu → encodesAct pdu) →
      ((kpmEncActionDefAsn encodesAct a >>= kpmDecActionDefAsn) = .returns a ↔ a.Survives)) ∧
    ∀ h : KpmIndHdr, (∀ pdu, indHdrPdu h = .returns pdu → encodesHdr pdu) →
      ((kpmEncIndHdrAsn encodesHdr h >>= kpmDecIndHdrAsn) = .returns h ↔ h.Survives) :=
  ⟨fun _ ha henc => roundTrip_kpmActionDef_iff encodesAct ha henc,
    fun _ henc => roundTrip_kpmIndHdr_iff encodesHdr henc⟩

/-- An action definition of two measurements and a cell id. -/
def KpmActionDef.ofCellGlobalId (cellGlobalId : CellGlobalId) : KpmActionDef where
  ricStyleType := 1
  granularityPeriod := 1000
  measInfo := [⟨.name [68, 82, 66], [.noLabelTrue, .noLabelTrue]⟩, ⟨.id 7, [.noLabelTrue]⟩]
  cellGlobalId := cellGlobalId

theorem accepted_ofCellGlobalId {c : CellGlobalId} (hc : c ≠ .unknown) :
    (KpmActionDef.ofCellGlobalId c).Accepted := by
  refine ⟨rfl, ?_, ?_, ?_, hc⟩
  · simp [KpmActionDef.ofCellGlobalId, maxnoofMeasurementInfo]
  · simp [KpmActionDef.ofCellGlobalId]
  · simp [KpmActionDef.ofCellGlobalId, maxnoofLabelInfo]

/-- Without a cell id it comes back, and so does a header without strings. -/
theorem roundTrip_kpmActionDef_kpmIndHdr_nothing :
    (kpmEncActionDefAsn (fun _ => True) (.ofCellGlobalId .nothing) >>= kpmDecActionDefAsn) =
        .returns (.ofCellGlobalId .nothing) ∧
      (kpmEncIndHdrAsn (fun _ => True) ⟨5, none, none, none, none⟩ >>= kpmDecIndHdrAsn) =
        .returns ⟨5, none, none, none, none⟩ := by
  have h := roundTrip_kpmActionDef_kpmIndHdr (fun _ => True) (fun _ => True)
  have hact := h.1 (.ofCellGlobalId .nothing) (accepted_ofCellGlobalId nofun) fun _ _ => trivial
  have hhdr := h.2 ⟨5, none, none, none, none⟩ fun _ _ => trivial
  exact ⟨hact.2 ⟨rfl, by decide⟩, hhdr.2 ⟨rfl, rfl, rfl, rfl⟩⟩

/-- With an NR cell id the encoder goes through a pointer that is `NULL`, and a header with the name
of its sender stops it. -/
theorem not_roundTrip_kpmActionDef_kpmIndHdr :
    (¬∀ a : KpmActionDef, a.Accepted →
      (kpmEncActionDefAsn (fun _ => True) a >>= kpmDecActionDefAsn) = .returns a) ∧
    ¬∀ h : KpmIndHdr, (kpmEncIndHdrAsn (fun _ => True) h >>= kpmDecIndHdrAsn) = .returns h := by
  constructor
  · intro h
    have hdec := h (.ofCellGlobalId (.nrCgi [0x13, 0x00, 0x14] 5)) (accepted_ofCellGlobalId nofun)
    revert hdec
    decide
  · intro h
    have hdec := h ⟨5, none, some [82, 73, 67], none, none⟩
    revert hdec
    decide

end FlexRic.Kpm
