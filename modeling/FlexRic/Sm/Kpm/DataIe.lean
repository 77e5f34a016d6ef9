import Mathlib.Data.List.Basic

/-!
# The data of the KPM service model (`sm/kpm_sm_v2.02/ie`)

The action definition, the indication header and the indication message (`kpm_data_ie.h`), and the
part of the PDU trees (`asn/…`) that their encoders build and their decoders ask for. Where a tag
selects what is valid, the structure is an inductive type. Of a label, the fields behind the PLMN id
are left out: no function reads or writes them. A `double` is the word of its eight bytes.
-/

namespace FlexRic.Kpm

/-! ## Indication message -/

/-- `adapter_LabelInfoItem_t`. -/
structure AdapterLabelInfoItem : Type where
  noLabel : Option Int64 := none
  plmnID : Option (List UInt8) := none
  deriving DecidableEq

/-- `meas_type_e`, with the name or the id that it selects. -/
inductive MeasType : Type where
  /-- no enumerator, as in zeroed memory -/
  | unset
  | name (measName : List UInt8)
  | id (measID : Int64)
  deriving DecidableEq

/-- `MeasInfo_t`. -/
structure MeasInfo : Type where
  measType : MeasType
  labelInfo : List AdapterLabelInfoItem
  deriving DecidableEq

/-- `adapter_MeasRecord_t`. -/
inductive AdapterMeasRecord : Type where
  | int (intVal : UInt64)
  /-- a `double` -/
  | real (realVal : UInt64)
  | noval
  deriving DecidableEq

/-- `adapter_MeasDataItem_t`. -/
structure AdapterMeasDataItem : Type where
  measRecord : List AdapterMeasRecord
  /-- 0 if the flag is there, and -1 if it is not -/
  incompleteFlag : Int64
  deriving DecidableEq

/-- `kpm_ind_msg_t`. -/
structure KpmIndMsg : Type where
  measData : List AdapterMeasDataItem
  measInfo : List MeasInfo
  granulPeriod : Option UInt64
  deriving DecidableEq

/-! ## Action definition and indication header -/

/-- `cell_global_id_t`, with what it selects. -/
inductive CellGlobalId : Type where
  | nothing
  | nrCgi (pLMNIdentity : List UInt8) (nRCellIdentity : UInt64)
  | eutraCgi (pLMNIdentity : List UInt8) (eUTRACellIdentity : UInt64)
  /-- no enumerator -/
  | unknown
  deriving DecidableEq

/-- `kpm_action_def_t`. -/
structure KpmActionDef : Type where
  ricStyleType : Int64
  granularityPeriod : UInt64
  measInfo : List MeasInfo
  cellGlobalId : CellGlobalId
  deriving DecidableEq

/-- `kpm_ind_hdr_t`. -/
structure KpmIndHdr : Type where
  collectStartTime : UInt32
  fileFormatversion : Option (List UInt8)
  senderName : Option (List UInt8)
  senderType : Option (List UInt8)
  vendorName : Option (List UInt8)
  deriving DecidableEq

/-! ## PDU tree -/

namespace Asn

/-- `maxnoofMeasurementRecord`. -/
def maxnoofMeasurementRecord : ℕ := 65535

/-- `maxnoofMeasurementValue`. -/
def maxnoofMeasurementValue : ℕ := 2147483647

/-- `maxnoofMeasurementInfo`. -/
def maxnoofMeasurementInfo : ℕ := 65535

/-- `MeasurementRecordItem_t`. -/
inductive MeasurementRecordItem : Type where
  | nothing
  | integer (integer : UInt64)
  | real (real : UInt64)
  | noValue
  deriving DecidableEq

/-- `MeasurementDataItem_t`. -/
structure MeasurementDataItem : Type where
  measRecord : List MeasurementRecordItem
  incompleteFlag : Option Int64
  deriving DecidableEq

/-- `MeasurementType_t`. -/
inductive MeasurementType : Type where
  | nothing
  | measName (measName : List UInt8)
  | measID (measID : Int64)
  deriving DecidableEq

/-- `LabelInfoItem_t`, which is nothing but a `MeasurementLabel_t`. -/
structure LabelInfoItem : Type where
  noLabel : Option Int64
  plmnID : Option (List UInt8)
  deriving DecidableEq

/-- `MeasurementInfoItem_t`. -/
structure MeasurementInfoItem : Type where
  measType : MeasurementType
  labelInfoList : List LabelInfoItem
  deriving DecidableEq

/-- `E2SM_KPM_IndicationMessage_Format1_t`. -/
structure IndicationMessageFormat1 : Type where
  measData : List MeasurementDataItem
  measInfoList : Option (List MeasurementInfoItem)
  granulPeriod : Option UInt64
  deriving DecidableEq

/-- `E2SM_KPM_IndicationMessage_t`. -/
inductive IndicationMessage : Type where
  | format1 (msg : IndicationMessageFormat1)
  /-- a format that is not implemented -/
  | other
  deriving DecidableEq

/-- `maxnoofLabelInfo`. -/
def maxnoofLabelInfo : ℕ := 2147483647

/-- `NR_CGI_t` and `EUTRA_CGI_t`: the octets of the PLMN and of the cell. -/
structure CellCGI : Type where
  pLMNIdentity : List UInt8
  cellIdentity : List UInt8
  deriving DecidableEq

/-- `CGI_t`; the alternative is behind a pointer. -/
inductive CGI : Type where
  | nothing
  | nRCGI (cgi : Option CellCGI)
  | eUTRACGI (cgi : Option CellCGI)
  deriving DecidableEq

/-- The pointer of the alternative. -/
def CGI.choice : CGI → Option CellCGI
  | nothing => none
  | nRCGI cgi => cgi
  | eUTRACGI cgi => cgi

/-- `E2SM_KPM_ActionDefinition_Format1_t`. -/
structure ActionDefinitionFormat1 : Type where
  measInfoList : List MeasurementInfoItem
  granulPeriod : UInt64
  cellGlobalID : Option CGI
  deriving DecidableEq

/-- The formats of `E2SM_KPM_ActionDefinition_t`. -/
inductive ActionDefinitionFormats : Type where
  | nothing
  | format1 (adf : ActionDefinitionFormat1)
  /-- a format that is not implemented -/
  | other
  deriving DecidableEq

/-- `E2SM_KPM_ActionDefinition_t`. -/
structure ActionDefinition : Type where
  ricStyleType : Int64
  actionDefinitionFormats : ActionDefinitionFormats
  deriving DecidableEq

/-- `E2SM_KPM_IndicationHeader_Format1_t`. -/
structure IndicationHeaderFormat1 : Type where
  colletStartTime : List UInt8
  fileFormatversion : Option (List UInt8)
  senderName : Option (List UInt8)
  senderType : Option (List UInt8)
  vendorName : Option (List UInt8)
  deriving DecidableEq

/-- `E2SM_KPM_IndicationHeader_t`. -/
inductive IndicationHeader : Type where
  | format1 (hdr : IndicationHeaderFormat1)
  /-- a format that is not implemented -/
  | other
  deriving DecidableEq

end Asn

end FlexRic.Kpm
