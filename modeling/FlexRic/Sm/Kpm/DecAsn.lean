import FlexRic.E2ap.Conversions
import FlexRic.Semantics.Outcome
import FlexRic.Sm.Kpm.DataIe

/-!
# The decoders of the KPM service model (`sm/kpm_sm_v2.02/dec/kpm_dec_asn.c`)

They receive the PDU tree that `asn_decode` makes of the bytes. The memory for the arrays can always
be allocated, also for arrays of no elements.
-/

namespace FlexRic.Kpm

open Kpm.Asn
open Outcome (check orFault fillArray)

/-- The macro `BYTE_ARRAY_HEAP_CP_FROM_OCTET_STRING_POINTERS` goes through both pointers. -/
def byteArrayHeapCpFromOctetStringPointers (ba octet : Option (List UInt8)) :
    Outcome (List UInt8) := do
  let _ ← orFault .unset ba
  orFault .unset octet

/-- `cp_label_info_item_from_asn`. The `if` in front of the macro guards only its first statement,
so the macro goes through the pointers in any case; `dst` was zeroed. -/
def cpLabelInfoItemFromAsn (dst : AdapterLabelInfoItem) (src : LabelInfoItem) :
    Outcome AdapterLabelInfoItem :=
  match src.noLabel with
  | some noLabel => .returns { dst with noLabel := some noLabel }
  | none => do
    let plmnID ← byteArrayHeapCpFromOctetStringPointers dst.plmnID src.plmnID
    .returns { dst with plmnID := some plmnID }

/-- The `switch` over the type of a record. -/
def decMeasRecord : MeasurementRecordItem → Outcome AdapterMeasRecord
  | .noValue => .returns .noval
  | .integer integer => .returns (.int integer)
  | .real real => .returns (.real real)
  | .nothing => .stops

/-- One round of the loop over `measData`. -/
def decMeasDataItem (item : MeasurementDataItem) : Outcome AdapterMeasDataItem := do
  let measRecord ← item.measRecord.mapM decMeasRecord
  .returns
    { measRecord
      incompleteFlag := if item.incompleteFlag.isSome then 0 else -1 }

/-- The `switch` over the type of a measurement: without a type, the zeroed memory stays. -/
def decMeasType : MeasurementType → MeasType
  | .measName measName => .name measName
  | .measID measID => .id measID
  | .nothing => .unset

/-- One round of the loop over `measInfoList`. The array of the labels gets its size from
`ret.MeasInfo->labelInfo_len`, which belongs to the first measurement. -/
def decMeasInfo (firstLen : ℕ) (mInfo : MeasurementInfoItem) : Outcome MeasInfo := do
  let labelInfo ← fillArray cpLabelInfoItemFromAsn (List.replicate firstLen {}) mInfo.labelInfoList
  .returns ⟨decMeasType mInfo.measType, labelInfo.take mInfo.labelInfoList.length⟩

/-- The length of the first one of some lists. -/
def firstLen {A : Type} (lists : List (List A)) : ℕ := (lists.headD []).length

/-- `measInfoList`, which is optional. -/
def decMeasInfoList : Option (List MeasurementInfoItem) → Outcome (List MeasInfo)
  | some list => list.mapM (decMeasInfo (firstLen (list.map MeasurementInfoItem.labelInfoList)))
  | none => .returns []

/-- `kpm_dec_ind_msg_asn`. -/
def kpmDecIndMsgAsn : IndicationMessage → Outcome KpmIndMsg
  | .format1 msg => do
    let measData ← msg.measData.mapM decMeasDataItem
    let measInfo ← decMeasInfoList msg.measInfoList
    check (msg.granulPeriod = none)
    .returns ⟨measData, measInfo, none⟩
  | .other => .returns ⟨[], [], none⟩

/-! ## Action definition -/

/-- One round of the loop over `measInfoList` of an action definition. Here the array of the labels
gets its size from its own measurement. -/
def decActionMeasInfo (mInfo : MeasurementInfoItem) : Outcome MeasInfo :=
  if mInfo.measType = .nothing then .returns ⟨.unset, []⟩
  else decMeasInfo mInfo.labelInfoList.length mInfo

/-- `kpm_dec_action_def_asn`. The cell id is left for later. -/
def kpmDecActionDefAsn (pdu : ActionDefinition) : Outcome KpmActionDef :=
  match pdu.actionDefinitionFormats with
  | .nothing => .returns ⟨pdu.ricStyleType, 0, [], .nothing⟩
  | .format1 adf => do
    let measInfo ← adf.measInfoList.mapM decActionMeasInfo
    .returns ⟨pdu.ricStyleType, adf.granulPeriod, measInfo, .nothing⟩
  | .other => .stops

/-! ## Indication header -/

/-- An optional string. There is memory for a pointer only, and `buf` of the byte array is behind
it. -/
def decPrintableString : Option (List UInt8) → Outcome (Option (List UInt8))
  | none => .returns none
  | some _ => .faults .pastEnd

/-- `kpm_dec_ind_hdr_asn`. -/
def kpmDecIndHdrAsn : IndicationHeader → Outcome KpmIndHdr
  | .format1 hdr => do
    let reversedTs ← orFault .pastEnd (FlexRic.Asn.octetStringToInt32 hdr.colletStartTime)
    let fileFormatversion ← decPrintableString hdr.fileFormatversion
    let senderName ← decPrintableString hdr.senderName
    let senderType ← decPrintableString hdr.senderType
    let vendorName ← decPrintableString hdr.vendorName
    .returns ⟨FlexRic.Asn.htonl reversedTs, fileFormatversion, senderName, senderType, vendorName⟩
  | .other => .returns ⟨0, none, none, none, none⟩

end FlexRic.Kpm
