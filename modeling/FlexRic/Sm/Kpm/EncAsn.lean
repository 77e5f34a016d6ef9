import FlexRic.E2ap.Conversions
import FlexRic.Semantics.Outcome
import FlexRic.Sm.Kpm.DataIe

/-!
# The encoders of the KPM service model (`sm/kpm_sm_v2.02/enc/kpm_enc_asn.c`)

They build the PDU tree, and `asn_encode_to_buffer` makes bytes of it. The ASN.1 library is a
parameter: `encodes` says whether the tree becomes bytes that fit into the buffer.

What is optional in an action definition or in an indication header is behind a pointer, and the
encoders allocate nothing for it.
-/

namespace FlexRic.Kpm

open Kpm.Asn

/-- `cp_label_info_item_into_asn`: a label that has `noLabel` has nothing else. -/
def cpLabelInfoItemIntoAsn (src : AdapterLabelInfoItem) : LabelInfoItem :=
  match src.noLabel with
  | some noLabel => ⟨some noLabel, none⟩
  | none => ⟨none, src.plmnID⟩

/-- The `switch` over the type of a record. -/
def encMeasRecord : AdapterMeasRecord → MeasurementRecordItem
  | .int intVal => .integer intVal
  | .real realVal => .real realVal
  | .noval => .noValue

/-- One round of the loop over `MeasData`. -/
def encMeasDataItem (item : AdapterMeasDataItem) : Option MeasurementDataItem := do
  assert (item.measRecord.length ≤ maxnoofMeasurementValue ∧ 0 < item.measRecord.length)
  some
    { measRecord := item.measRecord.map encMeasRecord
      incompleteFlag := if item.incompleteFlag = 0 then some 0 else none }

/-- The `switch` over the type of a measurement. -/
def encMeasType : MeasType → Option MeasurementType
  | .name measName => some (.measName measName)
  | .id measID => some (.measID measID)
  | .unset => none

/-- One round of the loop over `MeasInfo`. -/
def encMeasInfo (info : MeasInfo) : Option MeasurementInfoItem := do
  let measType ← encMeasType info.measType
  some ⟨measType, info.labelInfo.map cpLabelInfoItemIntoAsn⟩

/-- `measInfoList`, which is optional. -/
def encMeasInfoList (measInfo : List MeasInfo) : Option (Option (List MeasurementInfoItem)) :=
  if 0 < measInfo.length then do
    assert (measInfo.length ≤ maxnoofMeasurementInfo)
    let list ← measInfo.mapM encMeasInfo
    some (some list)
  else some none

section

variable (encodes : IndicationMessage → Prop) [DecidablePred encodes]

/-- `kpm_enc_ind_msg_asn`. -/
def kpmEncIndMsgAsn (indMsg : KpmIndMsg) : Option IndicationMessage := do
  assert (indMsg.measData.length ≤ maxnoofMeasurementRecord ∧ 0 < indMsg.measData.length)
  let measData ← indMsg.measData.mapM encMeasDataItem
  let measInfoList ← encMeasInfoList indMsg.measInfo
  let pdu := IndicationMessage.format1 ⟨measData, measInfoList, indMsg.granulPeriod⟩
  assert (encodes pdu)
  some pdu

end

/-! ## Action definition -/

open Outcome (check orFault orStop)

/-- One round of the loop over `MeasInfo` of an action definition. -/
def encActionMeasInfo (info : MeasInfo) : Option MeasurementInfoItem := do
  let measType ← encMeasType info.measType
  assert (info.labelInfo.length ≤ maxnoofLabelInfo ∧ 0 < info.labelInfo.length)
  some ⟨measType, info.labelInfo.map cpLabelInfoItemIntoAsn⟩

/-- `cellGlobalID`. It goes through the pointer, and through the one of the alternative that it
selects. The octets that are copied there are freed at the end of the block. -/
def encCellGlobalId (cellGlobalID : Option CGI) : CellGlobalId → Outcome (Option CGI)
  | .nothing => .returns cellGlobalID
  | .nrCgi _ _ => do
    let cgi ← orFault .unset cellGlobalID
    let _ ← orFault .unset cgi.choice
    .returns (some (.nRCGI (some ⟨[], []⟩)))
  | .eutraCgi _ _ => do
    let cgi ← orFault .unset cellGlobalID
    let _ ← orFault .unset cgi.choice
    .returns (some (.eUTRACGI (some ⟨[], []⟩)))
  | .unknown => .stops

/-- The PDU tree of an action definition; `adf_p` was zeroed. -/
def actionDefPdu (actionDef : KpmActionDef) : Outcome ActionDefinition := do
  check (0 < actionDef.ricStyleType ∧ actionDef.ricStyleType < 6)
  check (actionDef.ricStyleType = 1)
  check (actionDef.measInfo.length ≤ maxnoofMeasurementInfo ∧ 0 < actionDef.measInfo.length)
  let measInfoList ← orStop (actionDef.measInfo.mapM encActionMeasInfo)
  let cellGlobalID ← encCellGlobalId none actionDef.cellGlobalId
  .returns ⟨actionDef.ricStyleType,
    .format1 ⟨measInfoList, actionDef.granularityPeriod, cellGlobalID⟩⟩

/-- `kpm_enc_action_def_asn`. -/
def kpmEncActionDefAsn (encodes : ActionDefinition → Prop) [DecidablePred encodes]
    (actionDef : KpmActionDef) : Outcome ActionDefinition := do
  let pdu ← actionDefPdu actionDef
  check (encodes pdu)
  .returns pdu

/-! ## Indication header -/

/-- `OCTET_STRING_fromBuf` of an optional string. It fails if there is nowhere to copy it to, and
then so does the assertion. -/
def encPrintableString (st : Option (List UInt8)) : Option (List UInt8) →
    Outcome (Option (List UInt8))
  | none => .returns st
  | some str => do
    check (st.isSome)
    .returns (some str)

/-- The PDU tree of an indication header; `ih_p` was zeroed. -/
def indHdrPdu (indHdr : KpmIndHdr) : Outcome IndicationHeader := do
  let fileFormatversion ← encPrintableString none indHdr.fileFormatversion
  let senderName ← encPrintableString none indHdr.senderName
  let senderType ← encPrintableString none indHdr.senderType
  let vendorName ← encPrintableString none indHdr.vendorName
  .returns (.format1 ⟨FlexRic.Asn.int32ToOctetString (FlexRic.Asn.htonl indHdr.collectStartTime),
    fileFormatversion, senderName, senderType, vendorName⟩)

/-- `kpm_enc_ind_hdr_asn`. -/
def kpmEncIndHdrAsn (encodes : IndicationHeader → Prop) [DecidablePred encodes]
    (indHdr : KpmIndHdr) : Outcome IndicationHeader := do
  let pdu ← indHdrPdu indHdr
  check (encodes pdu)
  .returns pdu

end FlexRic.Kpm
