import FlexRic.E2ap.Asn
import FlexRic.E2ap.Messages

/-!
# The encoders (`lib/ap/enc/e2ap_msg_enc_asn.c`)

Each `e2ap_enc_…_asn_pdu` builds the PDU tree of one message, and has no result where an assertion
fails or a null pointer is read. Several of them build an IE with the same text; it is one
definition here. A byte array with a null buffer or of length zero is the empty list, and the
bounds that the encoders assert of an enumeration are the sizes of its type.
-/

namespace FlexRic.Ap

open Asn (Ie E2apPdu ProtocolIeField maxNumActionDef maxNumRanFuncId
  maxNumE2NodeComponents)

/-! ## Parts of several messages -/

/-- The IE of the RIC request ID. -/
def encRicRequestId (id : RicGenId) : Ie :=
  ⟨.ricRequestID, .reject, .ricRequestID id.ricReqId.toNat id.ricInstId.toNat⟩

/-- The IE of the RAN function ID. -/
def encRanFunctionId (id : RicGenId) : Ie :=
  ⟨.ranFunctionID, .reject, .ranFunctionID id.ranFuncId.toNat⟩

/-- The RIC request ID and the RAN function ID. -/
def encRicGenId (id : RicGenId) : List Ie := [encRicRequestId id, encRanFunctionId id]

/-- `copy_cause`. -/
def encCause : Cause → Option Asn.Cause
  | .nothing => none
  | .ricRequest c => some (.ricRequest (Enumeration.toNat c))
  | .ricService c => some (.ricService (Enumeration.toNat c))
  | .transport c => some (.transport (Enumeration.toNat c))
  | .protocol c => some (.protocol (Enumeration.toNat c))
  | .misc c => some (.misc (Enumeration.toNat c))

/-- An optional IE: it is left out for a null pointer. -/
def encOptional {A : Type} (enc : A → Option Ie) (a : Option A) : Option (List Ie) :=
  a.toList.mapM enc

/-- The IE of the call process id. -/
def encCallProcessId (bytes : List UInt8) : Option Ie := do
  assert (bytes ≠ [])
  some ⟨.ricCallProcessID, .reject, .ricCallProcessID bytes⟩

/-- The IE of the control outcome. -/
def encControlOutcome (bytes : List UInt8) : Option Ie := do
  assert (bytes ≠ [])
  some ⟨.ricControlOutcome, .reject, .ricControlOutcome bytes⟩

/-- The IE of a cause. -/
def encCauseIe (cause : Cause) : Option Ie := do
  let c ← encCause cause
  some ⟨.cause, .reject, .cause c⟩

/-- The criticality diagnostics are not implemented. -/
def encCritDiag (_ : CriticalityDiagnostics) : Option Ie := none

/-- The E2 node ID. A CU or a DU has a `cu_du_id`; the other kinds are not coded. -/
def encGlobalE2nodeId (id : GlobalE2NodeId) : Option Asn.GlobalE2nodeId :=
  let gnb : Asn.GlobalE2nodeGnbId :=
    { plmnId := Asn.mccMncToPlmnId id.plmn
      gnbID := Asn.macroGnbIdToBitString id.nbId
      gNBCUUPID := none
      gNBDUID := none }
  match id.type with
  | .gNB => some (.gNB gnb)
  | .gNBCU => do
    let cuDuId ← id.cuDuId
    some (.gNB { gnb with gNBCUUPID := some (Asn.asnUint642INTEGER cuDuId) })
  | .gNBDU => do
    let cuDuId ← id.cuDuId
    some (.gNB { gnb with gNBDUID := some (Asn.asnUint642INTEGER cuDuId) })
  | .eNB => some (.eNB
      { pLMNIdentity := Asn.mccMncToPlmnId id.plmn
        eNBID := .macroENBID (Asn.macroEnbIdToBitString id.nbId) })
  | _ => none

/-- The xApp ID and the E2 node ID in front of an E42 request. -/
def encE42 (xappId : UInt16) (id : GlobalE2NodeId) : Option (List Ie) := do
  let node ← encGlobalE2nodeId id
  some [⟨.xappID, .reject, .xappID xappId.toNat⟩,
    ⟨.globalE2nodeID, .reject, .globalE2nodeID node⟩]

/-! ## Subscriptions -/

/-- The subsequent action of an action. -/
def encSubseqAction (src : RicSubsequentAction) : Option Asn.RicSubsequentAction := do
  let timeToWait : ℕ ← match src.timeToWaitMs with
    | none => some 0
    | some ms => do
      assert (ms < 18)
      some ms.toNat
  some { ricSubsequentActionType := Enumeration.toNat src.type, ricTimeToWait := timeToWait }

/-- The item of an action. -/
def encAction (src : RicAction) : Option (ProtocolIeField Asn.RicActionToBeSetupItem) := do
  let subsequent ← src.subseqAction.mapM encSubseqAction
  some
    { id := .ricActionToBeSetupItem
      criticality := .reject
      value :=
        { ricActionID := src.id.toNat
          ricActionType := Enumeration.toNat src.type
          ricActionDefinition := src.definition
          ricSubsequentAction := subsequent } }

/-- The IEs of a subscription request. -/
def encSubscriptionIes (sr : RicSubscriptionRequest) : Option (List Ie) := do
  assert (sr.eventTrigger ≠ [])
  assert (sr.action.length ≤ maxNumActionDef)
  let items ← sr.action.mapM encAction
  some (encRicGenId sr.ricId ++ [⟨.ricSubscriptionDetails, .reject, .ricSubscriptionDetails
    { ricEventTriggerDefinition := sr.eventTrigger, ricActionToBeSetupList := items }⟩])

/-- `e2ap_enc_subscription_request_asn_pdu`. -/
def encSubscriptionRequest (sr : RicSubscriptionRequest) : Option E2apPdu := do
  let ies ← encSubscriptionIes sr
  some
    { present := .initiatingMessage
      procedureCode := .ricSubscription
      criticality := .reject
      value := .ricSubscriptionRequest
      protocolIEs := ies }

/-- `e2ap_enc_e42_subscription_request_asn_pdu`. -/
def encE42SubscriptionRequest (e42Sr : E42RicSubscriptionRequest) : Option E2apPdu := do
  let e42 ← encE42 e42Sr.xappId e42Sr.id
  let ies ← encSubscriptionIes e42Sr.sr
  some
    { present := .initiatingMessage
      procedureCode := .e42RicSubscription
      criticality := .reject
      value := .e42RicSubscriptionRequest
      protocolIEs := e42 ++ ies }

/-- The item of an admitted action. -/
def encAdmitted (ricActId : UInt8) : ProtocolIeField ℕ :=
  ⟨.ricActionAdmittedItem, .reject, ricActId.toNat⟩

/-- The item of an action that is not admitted. -/
def encNotAdmitted (src : RicActionNotAdmitted) :
    Option (ProtocolIeField Asn.RicActionNotAdmittedItem) := do
  let cause ← encCause src.cause
  some
    { id := .ricActionNotAdmittedItem
      criticality := .reject
      value := { ricActionID := src.ricActId.toNat, cause := cause } }

/-- `e2ap_enc_subscription_response_asn_pdu`. -/
def encSubscriptionResponse (sr : RicSubscriptionResponse) : Option E2apPdu := do
  let notAdmitted ← sr.notAdmitted.mapM encNotAdmitted
  some
    { present := .successfulOutcome
      procedureCode := .ricSubscription
      criticality := .reject
      value := .ricSubscriptionResponse
      protocolIEs := encRicGenId sr.ricId ++
        [⟨.ricActionsAdmitted, .reject, .ricActionAdmittedList (sr.admitted.map encAdmitted)⟩,
          ⟨.ricActionsNotAdmitted, .reject, .ricActionNotAdmittedList notAdmitted⟩] }

/-- `e2ap_enc_subscription_failure_asn_pdu`. -/
def encSubscriptionFailure (sf : RicSubscriptionFailure) : Option E2apPdu := do
  let notAdmitted ← sf.notAdmitted.mapM encNotAdmitted
  let critDiag ← encOptional encCritDiag sf.critDiag
  some
    { present := .unsuccessfulOutcome
      procedureCode := .ricSubscription
      criticality := .reject
      value := .ricSubscriptionFailure
      protocolIEs := encRicGenId sf.ricId ++
        [⟨.ricActionsNotAdmitted, .reject, .ricActionNotAdmittedList notAdmitted⟩] ++ critDiag }

/-! ## Indications and controls -/

/-- `e2ap_enc_indication_asn_pdu`. -/
def encIndication (ind : RicIndication) : Option E2apPdu := do
  assert (ind.hdr ≠ [])
  assert (ind.msg ≠ [])
  let proc ← encOptional encCallProcessId ind.callProcessId
  let sn := ind.sn.toList.map fun sn =>
    (⟨.ricIndicationSN, .reject, .ricIndicationSN sn.toNat⟩ : Ie)
  some
    { present := .initiatingMessage
      procedureCode := .ricIndication
      criticality := .reject
      value := .ricIndication
      protocolIEs := encRicGenId ind.ricId ++
        ⟨.ricActionID, .reject, .ricActionID ind.actionId.toNat⟩ :: (sn ++
        [⟨.ricIndicationType, .reject, .ricIndicationType (Enumeration.toNat ind.type)⟩,
          ⟨.ricIndicationHeader, .reject, .ricIndicationHeader ind.hdr⟩,
          ⟨.ricIndicationMessage, .reject, .ricIndicationMessage ind.msg⟩] ++ proc) }

/-- The IEs of a control request. -/
def encControlIes (ctrl : RicControlRequest) : Option (List Ie) := do
  assert (ctrl.hdr ≠ [])
  assert (ctrl.msg ≠ [])
  let proc ← encOptional encCallProcessId ctrl.callProcessId
  let ackReq := ctrl.ackReq.toList.map fun a =>
    (⟨.ricControlAckRequest, .reject, .ricControlAckRequest (Enumeration.toNat a)⟩ : Ie)
  some (encRicGenId ctrl.ricId ++ (proc ++
    [⟨.ricControlHeader, .reject, .ricControlHeader ctrl.hdr⟩,
      ⟨.ricControlMessage, .reject, .ricControlMessage ctrl.msg⟩] ++ ackReq))

/-- `e2ap_enc_control_request_asn_pdu`. -/
def encControlRequest (ricReq : RicControlRequest) : Option E2apPdu := do
  let ies ← encControlIes ricReq
  some
    { present := .initiatingMessage
      procedureCode := .ricControl
      criticality := .reject
      value := .ricControlRequest
      protocolIEs := ies }

/-- `e2ap_enc_e42_control_request_asn_pdu`. -/
def encE42ControlRequest (e42RicReq : E42RicControlRequest) : Option E2apPdu := do
  let ies ← encControlIes e42RicReq.ctrlReq
  let e42 ← encE42 e42RicReq.xappId e42RicReq.id
  some
    { present := .initiatingMessage
      procedureCode := .e42RicControl
      criticality := .reject
      value := .e42RicControlRequest
      protocolIEs := e42 ++ ies }

/-- `e2ap_enc_control_ack_asn_pdu`. -/
def encControlAck (ca : RicControlAcknowledge) : Option E2apPdu := do
  let proc ← encOptional encCallProcessId ca.callProcessId
  let outcome ← encOptional encControlOutcome ca.controlOutcome
  some
    { present := .successfulOutcome
      procedureCode := .ricControl
      criticality := .reject
      value := .ricControlAcknowledge
      protocolIEs := encRicGenId ca.ricId ++ (proc ++
        [⟨.ricControlStatus, .reject, .ricControlStatus (Enumeration.toNat ca.status)⟩] ++
        outcome) }

/-- `e2ap_enc_control_failure_asn_pdu`. -/
def encControlFailure (cf : RicControlFailure) : Option E2apPdu := do
  let proc ← encOptional encCallProcessId cf.callProcessId
  let cause ← encCauseIe cf.cause
  let outcome ← encOptional encControlOutcome cf.controlOutcome
  some
    { present := .unsuccessfulOutcome
      procedureCode := .ricControl
      criticality := .reject
      value := .ricControlFailure
      protocolIEs := encRicGenId cf.ricId ++ (proc ++ [cause] ++ outcome) }

/-- `e2ap_enc_error_indication_asn_pdu`. -/
def encErrorIndication (ei : E2apErrorIndication) : Option E2apPdu := do
  let cause ← encOptional encCauseIe ei.cause
  let critDiag ← encOptional encCritDiag ei.critDiag
  some
    { present := .initiatingMessage
      procedureCode := .errorIndication
      criticality := .reject
      value := .errorIndication
      protocolIEs := ei.ricId.toList.flatMap encRicGenId ++ cause ++ critDiag }

/-! ## Setup -/

/-- `copy_ran_function`. -/
def encRanFunction (src : RanFunction) : Asn.RanFunctionItem where
  ranFunctionID := src.id.toNat
  ranFunctionDefinition := src.definition
  ranFunctionRevision := src.rev.toNat
  ranFunctionOID := src.oid

/-- The id of a component. -/
def encComponentId : E2NodeComponentId → Asn.E2nodeComponentId
  | .gnbCuUp id => .gNBCUUP (Asn.asnUint642INTEGER id)
  | .gnbDu id => .gNBDU (Asn.asnUint642INTEGER id)

/-- The configuration of a component. -/
def encComponentConfig : E2NodeComponentConfig → Option Asn.E2nodeComponentConfigUpdate
  | .nothing => none
  | .gnb ngap xnap e1ap f1ap => some ⟨.gNBconfigUpdate, .gNB ngap xnap e1ap f1ap⟩
  | .enGnb x2ap => some ⟨.enGNBconfigUpdate, .enGNB x2ap⟩
  | .ngEnb ngap xnap => some ⟨.ngENBconfigUpdate, .ngENB ngap xnap⟩
  -- the tag is that of the ng-eNB
  | .enb s1ap x2ap => some ⟨.ngENBconfigUpdate, .eNB s1ap x2ap⟩

/-- `copy_e2_node_component_conf_update`. -/
def encComponentConfUpdate (src : E2NodeComponentConfigUpdate) :
    Option (ProtocolIeField Asn.E2nodeComponentConfigUpdateItem) := do
  let update ← encComponentConfig src.update
  some
    { id := .e2nodeComponentConfigUpdateItem
      criticality := .reject
      value :=
        { e2nodeComponentType := Enumeration.toNat src.e2NodeComponentType
          e2nodeComponentID := src.id.map encComponentId
          e2nodeComponentConfigUpdate := update } }

/-- A list in an IE of its own, which is left out for the empty list. -/
def encList {A : Type} (ie : List A → Ie) (l : List A) : List Ie := if l = [] then [] else [ie l]

/-- `e2ap_enc_setup_request_asn_pdu`. -/
def encSetupRequest (sr : E2SetupRequest) : Option E2apPdu := do
  assert (sr.ranFuncItem.length ≤ maxNumRanFuncId)
  let node ← encGlobalE2nodeId sr.id
  let ranFunctions := sr.ranFuncItem.map fun rf =>
    (⟨.ranFunctionItem, .reject, encRanFunction rf⟩ : ProtocolIeField Asn.RanFunctionItem)
  let compUpdates ← sr.compConfUpdate.mapM encComponentConfUpdate
  some
    { present := .initiatingMessage
      procedureCode := .e2setup
      criticality := .reject
      value := .e2setupRequest
      protocolIEs := ⟨.globalE2nodeID, .reject, .globalE2nodeID node⟩ ::
        (encList (fun l => ⟨.ranFunctionsAdded, .reject, .ranFunctionsList l⟩) ranFunctions ++
        encList (fun l => ⟨.e2nodeComponentConfigUpdate, .reject,
          .e2nodeComponentConfigUpdateList l⟩) compUpdates) }

/-- The item of a rejected RAN function. -/
def encRejected (src : RejectedRanFunction) :
    Option (ProtocolIeField Asn.RanFunctionIDcauseItem) := do
  let cause ← encCause src.cause
  some
    { id := .ranFunctionIDItem
      criticality := .ignore
      value := { ranFunctionID := src.id.toNat, cause := cause } }

/-- `e2ap_enc_setup_response_asn_pdu`: the acknowledgements of the component configurations are not
implemented. -/
def encSetupResponse (sr : E2SetupResponse) : Option E2apPdu := do
  assert (sr.accepted.length ≤ maxNumRanFuncId)
  assert (sr.rejected.length ≤ maxNumRanFuncId)
  assert (sr.compConfUpdateAckList.length ≤ maxNumE2NodeComponents)
  let accepted := sr.accepted.map fun id =>
    (⟨.ranFunctionIDItem, .ignore, id.toNat⟩ : ProtocolIeField ℕ)
  let rejected ← sr.rejected.mapM encRejected
  assert (sr.compConfUpdateAckList = [])
  some
    { present := .successfulOutcome
      procedureCode := .e2setup
      criticality := .reject
      value := .e2setupResponse
      protocolIEs := ⟨.globalRicID, .reject, .globalRicID (Asn.mccMncToPlmnId sr.id.plmn)
          (Asn.macroEnbIdToBitString sr.id.nearRicId)⟩ ::
        (encList (fun l => ⟨.ranFunctionsAccepted, .reject, .ranFunctionsIDList l⟩) accepted ++
        encList (fun l => ⟨.ranFunctionsRejected, .reject, .ranFunctionsIDcauseList l⟩)
          rejected) }

/-- `copy_ba_to_bit_string`. -/
def copyBaToBitString (bytes : List UInt8) : Asn.BitString := ⟨bytes, 0⟩

/-- The transport layer information. -/
def encTlInfo (src : TransportLayerInformation) : Asn.TnlInformation where
  tnlAddress := copyBaToBitString src.address
  tnlPort := src.port.map copyBaToBitString

/-- `e2ap_enc_setup_failure_asn_pdu`. -/
def encSetupFailure (sf : E2SetupFailure) : Option E2apPdu := do
  let cause ← encCause sf.cause
  let timeToWait := sf.timeToWaitMs.toList.map fun t =>
    (⟨.timeToWait, .ignore, .timeToWait (Enumeration.toNat t)⟩ : Ie)
  let critDiag ← encOptional encCritDiag sf.critDiag
  let tlInfo := sf.tlInfo.toList.map fun t =>
    (⟨.tnlInformation, .ignore, .tnlInformation (encTlInfo t)⟩ : Ie)
  some
    { present := .unsuccessfulOutcome
      procedureCode := .e2setup
      criticality := .reject
      value := .e2setupFailure
      protocolIEs := ⟨.e2connectionSetupFailed, .ignore, .cause cause⟩ ::
        (timeToWait ++ critDiag ++ tlInfo) }

/-! ## Service updates and queries -/

/-- The item of a RAN function. -/
def encRanFunctionItem (rf : RanFunction) : ProtocolIeField Asn.RanFunctionItem :=
  ⟨.ranFunctionItem, .reject, encRanFunction rf⟩

/-- The item of an id with its revision: a RAN function of which nothing else is set. -/
def encIdRev (src : RanFunctionIdRev) : ProtocolIeField Asn.RanFunctionItem where
  id := .ranFunctionItem
  criticality := .reject
  value :=
    { ranFunctionID := src.id.toNat
      ranFunctionDefinition := []
      ranFunctionRevision := src.rev.toNat
      ranFunctionOID := none }

/-- `e2ap_enc_service_update_asn_pdu`. -/
def encServiceUpdate (su : RicServiceUpdate) : Option E2apPdu := do
  assert (su.added.length ≤ maxNumRanFuncId)
  assert (su.deleted.length ≤ maxNumRanFuncId)
  assert (su.modified.length ≤ maxNumRanFuncId)
  let ranAdd := su.added.map encRanFunctionItem
  -- the items of the deleted functions are added to the list of the modified ones
  let ranMod := su.modified.map encRanFunctionItem ++ su.deleted.map encIdRev
  some
    { present := .initiatingMessage
      procedureCode := .ricServiceUpdate
      criticality := .reject
      value := .ricServiceUpdate
      protocolIEs := [⟨.ranFunctionsAdded, .reject, .ranFunctionsList ranAdd⟩,
        ⟨.ranFunctionsModified, .reject, .ranFunctionsList ranMod⟩,
        ⟨.ranFunctionsDeleted, .reject, .serviceRanFunctionsIDList []⟩] }

/-- The item of an accepted RAN function. -/
def encAcceptedItem (src : RanFunctionId) : ProtocolIeField Asn.RanFunctionsIDListItem :=
  ⟨.ranFunctionItem, .reject, .ranFunctionIDItem ⟨src.id.toNat, src.rev.toNat⟩⟩

/-- The item of a rejected RAN function. -/
def encRejectedItem (src : RejectedRanFunction) :
    Option (ProtocolIeField Asn.RanFunctionIDcauseItem) := do
  let cause ← encCause src.cause
  some
    { id := .ranFunctionIEcauseItem
      criticality := .ignore
      value := { ranFunctionID := src.id.toNat, cause := cause } }

/-- An item of a list of causes in the list of an acknowledgement, which has the tag of a list of
ids. -/
def asIDListItem (item : ProtocolIeField Asn.RanFunctionIDcauseItem) :
    ProtocolIeField Asn.RanFunctionsIDListItem :=
  ⟨item.id, item.criticality, .ranFunctionIDcauseItem item.value⟩

/-- `e2ap_enc_service_update_ack_asn_pdu`. -/
def encServiceUpdateAck (su : RicServiceUpdateAck) : Option E2apPdu := do
  assert (su.accepted.length ≤ maxNumRanFuncId)
  assert (su.rejected.length ≤ maxNumRanFuncId)
  let accepted := su.accepted.map encAcceptedItem
  let rejected ← su.rejected.mapM encRejectedItem
  some
    { present := .successfulOutcome
      procedureCode := .ricServiceUpdate
      criticality := .reject
      value := .ricServiceUpdateAcknowledge
      protocolIEs :=
        encList (fun l => ⟨.ranFunctionsAccepted, .ignore, .serviceRanFunctionsIDList l⟩)
          accepted ++
        encList (fun l => ⟨.ranFunctionsRejected, .ignore,
          .serviceRanFunctionsIDList (l.map asIDListItem)⟩) rejected }

/-- `e2ap_enc_service_update_failure_asn_pdu`. -/
def encServiceUpdateFailure (uf : RicServiceUpdateFailure) : Option E2apPdu := do
  let rejected ← uf.rejected.mapM encRejectedItem
  let updateFailure : Ie := ⟨.ranFunctionsRejected, .reject, .ranFunctionsIDcauseList rejected⟩
  -- the IE of the time to wait is made, but it is the first IE that is added once more
  let timeToWait := uf.timeToWait.toList.map fun _ => updateFailure
  let critDiag ← encOptional encCritDiag uf.critDiag
  some
    { present := .unsuccessfulOutcome
      procedureCode := .ricServiceUpdate
      criticality := .reject
      value := .ricServiceUpdateFailure
      protocolIEs := updateFailure :: (timeToWait ++ critDiag) }

/-- An item of a RAN function in the list of a query, which has the tag of a list of ids. -/
def asQueryItem (item : ProtocolIeField Asn.RanFunctionItem) :
    ProtocolIeField Asn.RanFunctionsIDListItem :=
  ⟨item.id, item.criticality, .ranFunctionItem item.value⟩

/-- `e2ap_enc_service_query_asn_pdu`. -/
def encServiceQuery (sq : RicServiceQuery) : Option E2apPdu := do
  assert (sq.accepted.length ≤ maxNumRanFuncId)
  some
    { present := .initiatingMessage
      procedureCode := .ricServiceQuery
      criticality := .reject
      value := .ricServiceQuery
      protocolIEs := [⟨.ranFunctionsAccepted, .ignore,
        .serviceRanFunctionsIDList (sq.accepted.map fun f => asQueryItem (encIdRev f))⟩] }

/-- `e2ap_enc_node_configuration_update_asn_pdu`. -/
def encNodeConfigurationUpdate (cu : E2NodeConfigurationUpdate) : Option E2apPdu := do
  assert (cu.compConfUpdateList.length ≤ maxNumActionDef)
  let items ← cu.compConfUpdateList.mapM encComponentConfUpdate
  some
    { present := .initiatingMessage
      procedureCode := .e2nodeConfigurationUpdate
      criticality := .reject
      value := .e2nodeConfigurationUpdate
      protocolIEs := [⟨.e2nodeComponentConfigUpdate, .ignore,
        .e2nodeComponentConfigUpdateList items⟩] }

/-! ## Setup of the xApps -/

/-- `e2ap_enc_e42_setup_request_asn_pdu`. -/
def encE42SetupRequest (sr : E42SetupRequest) : Option E2apPdu := do
  assert (sr.ranFuncItem.length ≤ maxNumRanFuncId)
  some
    { present := .initiatingMessage
      procedureCode := .e42Setup
      criticality := .reject
      value := .e42setupRequest
      protocolIEs := encList (fun l => ⟨.ranFunctionsAdded, .reject, .ranFunctionsList l⟩)
        (sr.ranFuncItem.map encRanFunctionItem) }

/-- The IE of a connected E2 node: its id and its RAN functions. -/
def encE2nodeConnected (node : E2NodeConnected) : Option Ie := do
  let id ← encGlobalE2nodeId node.id
  some ⟨.e2nodesConnected, .reject, .e2nodeConnectedList
    [⟨.globalE2nodeID, .reject, .globalE2nodeID id⟩,
      ⟨.ranFunctionsAdded, .reject, .ranFunctionsList (node.ackRf.map encRanFunctionItem)⟩]⟩

/-- `e2ap_enc_e42_setup_response_asn_pdu`. The last assertion asks for an IE of the other kind of
message, which is at the same place. -/
def encE42SetupResponse (sr : E42SetupResponse) : Option E2apPdu := do
  assert (0 < sr.nodes.length)
  let nodes ← sr.nodes.mapM encE2nodeConnected
  some
    { present := .successfulOutcome
      procedureCode := .e42Setup
      criticality := .reject
      value := .e42setupResponse
      protocolIEs := ⟨.xappID, .reject, .xappID sr.xappId.toNat⟩ :: nodes }

/-- The encoder of a message: `enc_msg` of `init_ap_asn`. -/
def e2apMsgEnc : E2apMsg → Option E2apPdu
  | .ricSubscriptionRequest m => encSubscriptionRequest m
  | .ricSubscriptionResponse m => encSubscriptionResponse m
  | .ricSubscriptionFailure m => encSubscriptionFailure m
  | .ricIndication m => encIndication m
  | .ricControlRequest m => encControlRequest m
  | .ricControlAcknowledge m => encControlAck m
  | .ricControlFailure m => encControlFailure m
  | .e2apErrorIndication m => encErrorIndication m
  | .e2SetupRequest m => encSetupRequest m
  | .e2SetupResponse m => encSetupResponse m
  | .e2SetupFailure m => encSetupFailure m
  | .ricServiceUpdate m => encServiceUpdate m
  | .ricServiceUpdateAck m => encServiceUpdateAck m
  | .ricServiceUpdateFailure m => encServiceUpdateFailure m
  | .ricServiceQuery m => encServiceQuery m
  | .e2NodeConfigurationUpdate m => encNodeConfigurationUpdate m
  | .e42SetupRequest m => encE42SetupRequest m
  | .e42SetupResponse m => encE42SetupResponse m
  | .e42RicSubscriptionRequest m => encE42SubscriptionRequest m
  | .e42RicControlRequest m => encE42ControlRequest m

end FlexRic.Ap
