import FlexRic.E2ap.Conversions

/-!
# The PDU tree (`lib/ap/ie/asn`)

The structures that the ASN.1 compiler generates, down to the choices that the encoders build and
the decoders ask for. A choice is an inductive type, its `present` tag the constructor; the IEs of
all the messages share one type of values, since a tag means the same in each of them. A `long` is a
natural number, for the ranges of the ASN.1 types have no negative ones. The library is trusted
with one thing: the decoder receives the tree that was encoded.
-/

namespace FlexRic.Asn

/-- `Criticality_t`. -/
inductive Criticality : Type where
  | reject
  | ignore
  | notify
  deriving DecidableEq, Repr

/-- `E2AP_PDU_PR`. -/
inductive PduPresent : Type where
  | initiatingMessage
  | successfulOutcome
  | unsuccessfulOutcome
  deriving DecidableEq, Repr

/-- `ProcedureCode_id_…`. -/
inductive ProcedureCode : Type where
  | e2setup
  | errorIndication
  | ricControl
  | ricIndication
  | ricSubscription
  | ricServiceQuery
  | ricServiceUpdate
  | e2nodeConfigurationUpdate
  | e42Setup
  | e42RicSubscription
  | e42RicControl
  deriving DecidableEq, Repr

/-- `value.present` of a message, in the three kinds of PDUs. -/
inductive ValuePresent : Type where
  | ricSubscriptionRequest
  | ricSubscriptionResponse
  | ricSubscriptionFailure
  | ricIndication
  | ricControlRequest
  | ricControlAcknowledge
  | ricControlFailure
  | errorIndication
  | e2setupRequest
  | e2setupResponse
  | e2setupFailure
  | ricServiceUpdate
  | ricServiceUpdateAcknowledge
  | ricServiceUpdateFailure
  | ricServiceQuery
  | e2nodeConfigurationUpdate
  | e42setupRequest
  | e42setupResponse
  | e42RicSubscriptionRequest
  | e42RicControlRequest
  deriving DecidableEq, Repr

/-- `ProtocolIE_ID_id_…`. -/
inductive ProtocolIeId : Type where
  | cause
  | criticalityDiagnostics
  | globalE2nodeID
  | globalRicID
  | ranFunctionID
  | ranFunctionIDItem
  | ranFunctionIEcauseItem
  | ranFunctionItem
  | ranFunctionsAccepted
  | ranFunctionsAdded
  | ranFunctionsDeleted
  | ranFunctionsModified
  | ranFunctionsRejected
  | ricActionAdmittedItem
  | ricActionID
  | ricActionNotAdmittedItem
  | ricActionToBeSetupItem
  | ricActionsAdmitted
  | ricActionsNotAdmitted
  | ricCallProcessID
  | ricControlAckRequest
  | ricControlHeader
  | ricControlMessage
  | ricControlOutcome
  | ricControlStatus
  | ricIndicationHeader
  | ricIndicationMessage
  | ricIndicationSN
  | ricIndicationType
  | ricRequestID
  | ricSubscriptionDetails
  | timeToWait
  | e2connectionSetupFailed
  | e2nodeComponentConfigUpdate
  | e2nodeComponentConfigUpdateAck
  | e2nodeComponentConfigUpdateItem
  | e2nodesConnected
  | tnlInformation
  | xappID
  deriving DecidableEq, Repr

/-- `ProtocolIE-Field`: an IE of a message or of one of its lists. -/
structure ProtocolIeField (V : Type) : Type where
  id : ProtocolIeId
  criticality : Criticality
  value : V
  deriving DecidableEq, Repr

/-- `Cause_t`. -/
inductive Cause : Type where
  | nothing
  | ricRequest (n : ℕ)
  | ricService (n : ℕ)
  | transport (n : ℕ)
  | protocol (n : ℕ)
  | misc (n : ℕ)
  deriving DecidableEq, Repr

/-- `RICsubsequentAction_t`: the time to wait is no pointer, so it is always there. -/
structure RicSubsequentAction : Type where
  ricSubsequentActionType : ℕ
  ricTimeToWait : ℕ
  deriving DecidableEq, Repr

/-- `RICaction_ToBeSetup_Item_t`. -/
structure RicActionToBeSetupItem : Type where
  ricActionID : ℕ
  ricActionType : ℕ
  ricActionDefinition : Option OctetString
  ricSubsequentAction : Option RicSubsequentAction
  deriving DecidableEq, Repr

/-- `RICsubscriptionDetails_t`. -/
structure RicSubscriptionDetails : Type where
  ricEventTriggerDefinition : OctetString
  ricActionToBeSetupList : List (ProtocolIeField RicActionToBeSetupItem)
  deriving DecidableEq, Repr

/-- `RICaction_NotAdmitted_Item_t`. -/
structure RicActionNotAdmittedItem : Type where
  ricActionID : ℕ
  cause : Cause
  deriving DecidableEq, Repr

/-- `ENB_ID_t`. -/
inductive EnbId : Type where
  | macroENBID (bs : BitString)
  | homeENBID (bs : BitString)
  | shortMacroENBID (bs : BitString)
  | longMacroENBID (bs : BitString)
  deriving DecidableEq, Repr

/-- `GlobalE2node_gNB_ID_t`, with its `GlobalgNB_ID_t`. -/
structure GlobalE2nodeGnbId : Type where
  plmnId : OctetString
  gnbID : BitString
  gNBCUUPID : Option Integer
  gNBDUID : Option Integer
  deriving DecidableEq, Repr

/-- `GlobalE2node_eNB_ID_t`, with its `GlobalENB_ID_t`. -/
structure GlobalE2nodeEnbId : Type where
  pLMNIdentity : OctetString
  eNBID : EnbId
  deriving DecidableEq, Repr

/-- `GlobalE2node_ID_t`; the en-gNBs and the ng-eNBs are not coded. -/
inductive GlobalE2nodeId : Type where
  | gNB (id : GlobalE2nodeGnbId)
  | enGNB
  | ngENB
  | eNB (id : GlobalE2nodeEnbId)
  deriving DecidableEq, Repr

/-- `RANfunction_Item_t`. -/
structure RanFunctionItem : Type where
  ranFunctionID : ℕ
  ranFunctionDefinition : OctetString
  ranFunctionRevision : ℕ
  ranFunctionOID : Option OctetString
  deriving DecidableEq, Repr

/-- `E2nodeComponentID_t`. -/
inductive E2nodeComponentId : Type where
  | gNBCUUP (id : Integer)
  | gNBDU (id : Integer)
  deriving DecidableEq, Repr

/-- `E2nodeComponentConfigUpdate_PR`. -/
inductive ConfigUpdatePresent : Type where
  | gNBconfigUpdate
  | enGNBconfigUpdate
  | ngENBconfigUpdate
  | eNBconfigUpdate
  deriving DecidableEq, Repr

/-- The structure that `E2nodeComponentConfigUpdate_t.choice` points to. -/
inductive ConfigUpdateChoice : Type where
  | gNB (ngAP xnAP e1AP f1AP : Option OctetString)
  | enGNB (x2AP : Option OctetString)
  | ngENB (ngAP xnAP : Option OctetString)
  | eNB (s1AP x2AP : Option OctetString)
  deriving DecidableEq, Repr

/-- `E2nodeComponentConfigUpdate_t`: the tag and the structure are set apart from each other. -/
structure E2nodeComponentConfigUpdate : Type where
  present : ConfigUpdatePresent
  choice : ConfigUpdateChoice
  deriving DecidableEq, Repr

/-- `E2nodeComponentConfigUpdate_Item_t`. -/
structure E2nodeComponentConfigUpdateItem : Type where
  e2nodeComponentType : ℕ
  e2nodeComponentID : Option E2nodeComponentId
  e2nodeComponentConfigUpdate : E2nodeComponentConfigUpdate
  deriving DecidableEq, Repr

/-- `RANfunctionIDcause_Item_t`. -/
structure RanFunctionIDcauseItem : Type where
  ranFunctionID : ℕ
  cause : Cause
  deriving DecidableEq, Repr

/-- `RANfunctionID_Item_t`. -/
structure RanFunctionIDItem : Type where
  ranFunctionID : ℕ
  ranFunctionRevision : ℕ
  deriving DecidableEq, Repr

/-- An item of a `RANfunctionsID_List` of the service messages. The list holds pointers, and the
encoders put items of three types into it. -/
inductive RanFunctionsIDListItem : Type where
  | ranFunctionIDItem (item : RanFunctionIDItem)
  | ranFunctionItem (item : RanFunctionItem)
  | ranFunctionIDcauseItem (item : RanFunctionIDcauseItem)
  deriving DecidableEq, Repr

/-- `value` of an `E2nodeConnected_ItemIEs_t`. -/
inductive E2nodeConnectedItem : Type where
  | globalE2nodeID (id : GlobalE2nodeId)
  | ranFunctionsList (l : List (ProtocolIeField RanFunctionItem))
  deriving DecidableEq, Repr

/-- `TNLinformation_t`. -/
structure TnlInformation : Type where
  tnlAddress : BitString
  tnlPort : Option BitString
  deriving DecidableEq, Repr

/-- `value` of an IE of a message. -/
inductive IeValue : Type where
  | cause (c : Cause)
  | criticalityDiagnostics
  | globalE2nodeID (id : GlobalE2nodeId)
  | globalRicID (pLMNIdentity : OctetString) (ricID : BitString)
  | ranFunctionID (n : ℕ)
  | ranFunctionsList (l : List (ProtocolIeField RanFunctionItem))
  | ranFunctionsIDList (l : List (ProtocolIeField ℕ))
  | ranFunctionsIDcauseList (l : List (ProtocolIeField RanFunctionIDcauseItem))
  | serviceRanFunctionsIDList (l : List (ProtocolIeField RanFunctionsIDListItem))
  | ricActionAdmittedList (l : List (ProtocolIeField ℕ))
  | ricActionNotAdmittedList (l : List (ProtocolIeField RicActionNotAdmittedItem))
  | ricActionID (n : ℕ)
  | ricCallProcessID (os : OctetString)
  | ricControlAckRequest (n : ℕ)
  | ricControlHeader (os : OctetString)
  | ricControlMessage (os : OctetString)
  | ricControlOutcome (os : OctetString)
  | ricControlStatus (n : ℕ)
  | ricIndicationHeader (os : OctetString)
  | ricIndicationMessage (os : OctetString)
  | ricIndicationSN (n : ℕ)
  | ricIndicationType (n : ℕ)
  | ricRequestID (ricRequestorID ricInstanceID : ℕ)
  | ricSubscriptionDetails (d : RicSubscriptionDetails)
  | timeToWait (n : ℕ)
  | e2nodeComponentConfigUpdateList (l : List (ProtocolIeField E2nodeComponentConfigUpdateItem))
  | e2nodeComponentConfigUpdateAckList (l : List (ProtocolIeField Unit))
  | e2nodeConnectedList (l : List (ProtocolIeField E2nodeConnectedItem))
  | tnlInformation (t : TnlInformation)
  | xappID (n : ℕ)
  deriving DecidableEq, Repr

/-- An IE of a message. -/
abbrev Ie : Type := ProtocolIeField IeValue

/-- `E2AP_PDU_t`. -/
structure E2apPdu : Type where
  present : PduPresent
  procedureCode : ProcedureCode
  criticality : Criticality
  value : ValuePresent
  protocolIEs : List Ie
  deriving DecidableEq, Repr

/-! ## Bounds (`lib/ap/global_consts.h`) -/

/-- `MAX_NUM_ACTION_DEF`. -/
def maxNumActionDef : ℕ := 16

/-- `MAX_NUM_RAN_FUNC_ID`, the number of RAN functions of a node. -/
def maxNumRanFuncId : ℕ := 256

/-- `MAX_NUM_E2_NODE_COMPONENTS`. -/
def maxNumE2NodeComponents : ℕ := 1024

/-- `MAX_RAN_FUNC_ID`, the bound of the id of a RAN function. -/
def maxRanFuncId : ℕ := 4096

/-- `MAX_RAN_FUNC_REV`. -/
def maxRanFuncRev : ℕ := 4096

/-- `MAX_RIC_REQUEST_ID`. -/
def maxRicRequestId : ℕ := 65536

/-- `MAX_RIC_INSTANCE_ID`. -/
def maxRicInstanceId : ℕ := 65536

/-- `MAX_RIC_ACTION_ID`. -/
def maxRicActionId : ℕ := 256

/-- `MAX_RIC_INDICATION_SN`. -/
def maxRicIndicationSn : ℕ := 65536

end FlexRic.Asn
