import FlexRic.E2ap.Asn
import FlexRic.E2ap.Messages

/-!
# The decoders (`lib/ap/dec/e2ap_msg_dec_asn.c`)

Each `e2ap_dec_…` reads the PDU tree of one message into a message that is all zeros before, and
has no result where an assertion fails or an IE is missing. Several of them read an IE with the
same text; it is one definition here, with the checks that not all of them make as arguments.
-/

namespace FlexRic.Ap

open Asn (Ie E2apPdu ProtocolIeField maxNumActionDef maxNumRanFuncId
  maxNumE2NodeComponents maxRanFuncId maxRanFuncRev maxRicRequestId maxRicInstanceId
  maxRicActionId maxRicIndicationSn)

/-! ## Parts of several messages -/

/-- What a decoder checks of the RIC request ID and of the RAN function ID. -/
structure RicGenIdChecks : Type where
  /-- the criticality of the two IEs -/
  criticality : Bool
  /-- the request id and the instance id are below `2 ^ 16` -/
  request : Bool
  /-- the bound of the RAN function id, if there is one -/
  ranFunc : Option ℕ
  deriving DecidableEq, Repr

/-- Reads the RIC request ID and the RAN function ID. -/
def decRicGenId (checks : RicGenIdChecks) (req ran : Ie) : Option RicGenId := do
  assert (req.id = .ricRequestID)
  assert (checks.criticality → req.criticality = .reject)
  let .ricRequestID requestor inst := req.value | none
  assert (checks.request → requestor < maxRicRequestId ∧ inst < maxRicInstanceId)
  assert (ran.id = .ranFunctionID)
  assert (checks.criticality → ran.criticality = .reject)
  let .ranFunctionID func := ran.value | none
  assert (∀ bound ∈ checks.ranFunc, func < bound)
  some
    { ricReqId := UInt32.ofNat requestor
      ricInstId := UInt16.ofNat inst
      ranFuncId := UInt16.ofNat func }

/-- `copy_cause`. -/
def decCause : Asn.Cause → Option Cause
  | .nothing => none
  | .ricRequest n => do
    let c ← Enumeration.ofNat n
    some (.ricRequest c)
  | .ricService n => do
    let c ← Enumeration.ofNat n
    some (.ricService c)
  | .transport n => do
    let c ← Enumeration.ofNat n
    some (.transport c)
  | .protocol n => do
    let c ← Enumeration.ofNat n
    some (.protocol c)
  | .misc n => do
    let c ← Enumeration.ofNat n
    some (.misc c)

/-- `asn_INTEGER2ulong` into zeroed memory: its answer is not looked at. -/
def decInteger (st : Asn.Integer) : UInt64 := (Asn.asnINTEGER2ulong st).getD 0

/-- Reads an E2 node ID. -/
def decGlobalE2nodeId : Asn.GlobalE2nodeId → Option GlobalE2NodeId
  | .gNB gnb => do
    let plmn ← Asn.plmnIdToMccMnc gnb.plmnId
    let nbId ← Asn.bitStringToMacroGnbId gnb.gnbID
    match gnb.gNBCUUPID, gnb.gNBDUID with
    | some cuUpId, _ => some ⟨.gNBCU, plmn, nbId, some (decInteger cuUpId)⟩
    | none, some duId => some ⟨.gNBDU, plmn, nbId, some (decInteger duId)⟩
    | none, none => some ⟨.gNB, plmn, nbId, none⟩
  | .eNB enb => do
    let .macroENBID bs := enb.eNBID | none
    let plmn ← Asn.plmnIdToMccMnc enb.pLMNIdentity
    let nbId ← Asn.bitStringToMacroEnbId bs
    some ⟨.eNB, plmn, nbId, none⟩
  | _ => none

/-- Reads the IE of an E2 node ID. -/
def decGlobalE2nodeIe (ie : Ie) : Option GlobalE2NodeId := do
  assert (ie.id = .globalE2nodeID)
  assert (ie.criticality = .reject)
  let .globalE2nodeID id := ie.value | none
  decGlobalE2nodeId id

/-- Reads the IE of an xApp ID. -/
def decXappId (ie : Ie) : Option UInt16 := do
  assert (ie.id = .xappID)
  assert (ie.criticality = .reject)
  let .xappID n := ie.value | none
  some (UInt16.ofNat n)

/-! ## Subscriptions -/

/-- Reads a subsequent action: a time to wait of zero stands for no time to wait. -/
def decSubseqAction (src : Asn.RicSubsequentAction) : Option RicSubsequentAction := do
  let type ← Enumeration.ofNat src.ricSubsequentActionType
  some
    { type := type
      timeToWaitMs :=
        if src.ricTimeToWait ≠ 0 then some (UInt32.ofNat src.ricTimeToWait) else none }

/-- Reads the item of an action. -/
def decAction (item : ProtocolIeField Asn.RicActionToBeSetupItem) : Option RicAction := do
  assert (item.id = .ricActionToBeSetupItem)
  let type ← Enumeration.ofNat item.value.ricActionType
  let subsequent ← item.value.ricSubsequentAction.mapM decSubseqAction
  some
    { id := UInt8.ofNat item.value.ricActionID
      type := type
      definition := item.value.ricActionDefinition
      subseqAction := subsequent }

/-- Reads the IEs of a subscription request. -/
def decSubscriptionIes (req ran det : Ie) : Option RicSubscriptionRequest := do
  let ricId ← decRicGenId ⟨true, false, none⟩ req ran
  assert (det.id = .ricSubscriptionDetails)
  assert (det.criticality = .reject)
  let .ricSubscriptionDetails details := det.value | none
  let items := details.ricActionToBeSetupList
  assert (0 < items.length ∧ items.length ≤ maxNumActionDef)
  let action ← items.mapM decAction
  some { ricId := ricId, eventTrigger := details.ricEventTriggerDefinition, action := action }

/-- `e2ap_dec_subscription_request`: the type is left at zero, which is the right one. -/
def decSubscriptionRequest (pdu : E2apPdu) : Option E2apMsg := do
  assert (pdu.present = .initiatingMessage)
  assert (pdu.procedureCode = .ricSubscription)
  assert (pdu.value = .ricSubscriptionRequest)
  let [req, ran, det] := pdu.protocolIEs | none
  let sr ← decSubscriptionIes req ran det
  some (.ricSubscriptionRequest sr)

/-- `e2ap_dec_e42_subscription_request`. -/
def decE42SubscriptionRequest (pdu : E2apPdu) : Option E2apMsg := do
  assert (pdu.present = .initiatingMessage)
  assert (pdu.procedureCode = .e42RicSubscription)
  assert (pdu.value = .e42RicSubscriptionRequest)
  let [xapp, node, req, ran, det] := pdu.protocolIEs | none
  let xappId ← decXappId xapp
  let id ← decGlobalE2nodeIe node
  let sr ← decSubscriptionIes req ran det
  some (.e42RicSubscriptionRequest ⟨xappId, id, sr⟩)

/-- Reads the item of an admitted action. -/
def decAdmitted (item : ProtocolIeField ℕ) : Option UInt8 := do
  assert (item.id = .ricActionAdmittedItem)
  assert (item.criticality = .reject)
  assert (item.value < maxRicActionId)
  some (UInt8.ofNat item.value)

/-- Reads the item of an action that is not admitted. -/
def decNotAdmitted (item : ProtocolIeField Asn.RicActionNotAdmittedItem) :
    Option RicActionNotAdmitted := do
  assert (item.id = .ricActionNotAdmittedItem)
  assert (item.criticality = .reject)
  let cause ← decCause item.value.cause
  some { ricActId := UInt8.ofNat item.value.ricActionID, cause := cause }

/-- Reads the IE of the admitted actions. -/
def decAdmittedIe (ie : Ie) : Option (List UInt8) := do
  assert (ie.id = .ricActionsAdmitted)
  assert (ie.criticality = .reject)
  let .ricActionAdmittedList items := ie.value | none
  items.mapM decAdmitted

/-- Reads the IE of the actions that are not admitted. -/
def decNotAdmittedIe (ie : Ie) : Option (List RicActionNotAdmitted) := do
  assert (ie.id = .ricActionsNotAdmitted)
  assert (ie.criticality = .reject)
  let .ricActionNotAdmittedList items := ie.value | none
  items.mapM decNotAdmitted

/-- `e2ap_dec_subscription_response`: `len_na` is never set, so that the array of the actions that
are not admitted is filled, and has the length zero. -/
def decSubscriptionResponse (pdu : E2apPdu) : Option E2apMsg := do
  assert (pdu.present = .successfulOutcome)
  assert (pdu.procedureCode = .ricSubscription)
  assert (pdu.criticality = .reject)
  assert (pdu.value = .ricSubscriptionResponse)
  let req :: ran :: adm :: notAdm :: _ := pdu.protocolIEs | none
  let ricId ← decRicGenId ⟨true, true, some maxNumRanFuncId⟩ req ran
  let admitted ← decAdmittedIe adm
  let notAdmitted ← decNotAdmittedIe notAdm
  let lenNa := 0
  some (.ricSubscriptionResponse
    { ricId := ricId, admitted := admitted, notAdmitted := notAdmitted.take lenNa })

/-- `e2ap_dec_subscription_failure`: the criticality diagnostics are not implemented. -/
def decSubscriptionFailure (pdu : E2apPdu) : Option E2apMsg := do
  assert (pdu.present = .unsuccessfulOutcome)
  assert (pdu.procedureCode = .ricSubscription)
  assert (pdu.criticality = .reject)
  assert (pdu.value = .ricSubscriptionFailure)
  let [req, ran, notAdm] := pdu.protocolIEs | none
  let ricId ← decRicGenId ⟨true, false, some maxRanFuncId⟩ req ran
  let notAdmitted ← decNotAdmittedIe notAdm
  some (.ricSubscriptionFailure { ricId := ricId, notAdmitted := notAdmitted, critDiag := none })

/-! ## Indications and controls -/

/-- One turn of the loop of `e2ap_dec_indication`. -/
def decIndicationIe (ind : RicIndication) (ie : Ie) : Option RicIndication := do
  assert (ie.criticality = .reject)
  match ie.id, ie.value with
  | .ricIndicationSN, .ricIndicationSN n => do
    assert (n < maxRicIndicationSn)
    some { ind with sn := some (UInt16.ofNat n) }
  | .ricIndicationType, .ricIndicationType n => do
    let type ← Enumeration.ofNat n
    some { ind with type := type }
  | .ricIndicationHeader, .ricIndicationHeader os => some { ind with hdr := os }
  | .ricIndicationMessage, .ricIndicationMessage os => some { ind with msg := os }
  | .ricCallProcessID, .ricCallProcessID os => some { ind with callProcessId := some os }
  | _, _ => none

/-- `e2ap_dec_indication`. -/
def decIndication (pdu : E2apPdu) : Option E2apMsg := do
  assert (pdu.present = .initiatingMessage)
  assert (pdu.procedureCode = .ricIndication)
  assert (pdu.criticality = .reject)
  assert (pdu.value = .ricIndication)
  let req :: ran :: act :: ies := pdu.protocolIEs | none
  let ricId ← decRicGenId ⟨true, true, some maxRanFuncId⟩ req ran
  assert (act.id = .ricActionID)
  assert (act.criticality = .reject)
  let .ricActionID actionId := act.value | none
  assert (actionId < maxRicActionId)
  let ind ← ies.foldlM decIndicationIe
    { ricId := ricId
      actionId := UInt8.ofNat actionId
      sn := none
      type := .report
      hdr := []
      msg := []
      callProcessId := none }
  some (.ricIndication ind)

/-- One turn of the loop of the control requests: the criticality is not looked at. -/
def decControlIe (ctrl : RicControlRequest) (ie : Ie) : Option RicControlRequest :=
  match ie.id, ie.value with
  | .ricCallProcessID, .ricCallProcessID os => some { ctrl with callProcessId := some os }
  | .ricControlHeader, .ricControlHeader os => some { ctrl with hdr := os }
  | .ricControlMessage, .ricControlMessage os => some { ctrl with msg := os }
  | .ricControlAckRequest, .ricControlAckRequest n => do
    let ackReq ← Enumeration.ofNat n
    some { ctrl with ackReq := some ackReq }
  | _, _ => none

/-- Reads the IEs of a control request. -/
def decControlIes (req ran : Ie) (ies : List Ie) : Option RicControlRequest := do
  let ricId ← decRicGenId ⟨false, true, some maxRanFuncId⟩ req ran
  ies.foldlM decControlIe
    { ricId := ricId, callProcessId := none, hdr := [], msg := [], ackReq := none }

/-- `e2ap_dec_control_request`. -/
def decControlRequest (pdu : E2apPdu) : Option E2apMsg := do
  assert (pdu.present = .initiatingMessage)
  assert (pdu.procedureCode = .ricControl)
  assert (pdu.value = .ricControlRequest)
  let req :: ran :: ies := pdu.protocolIEs | none
  let ctrl ← decControlIes req ran ies
  some (.ricControlRequest ctrl)

/-- `e2ap_dec_e42_control_request`. -/
def decE42ControlRequest (pdu : E2apPdu) : Option E2apMsg := do
  assert (pdu.present = .initiatingMessage)
  assert (pdu.procedureCode = .e42RicControl)
  assert (pdu.value = .e42RicControlRequest)
  let xapp :: node :: req :: ran :: ies := pdu.protocolIEs | none
  let xappId ← decXappId xapp
  let id ← decGlobalE2nodeIe node
  let ctrl ← decControlIes req ran ies
  some (.e42RicControlRequest ⟨xappId, id, ctrl⟩)

/-- One turn of the loop of `e2ap_dec_control_ack`. -/
def decControlAckIe (ctrl : RicControlAcknowledge) (ie : Ie) : Option RicControlAcknowledge := do
  assert (ie.criticality = .reject)
  match ie.id, ie.value with
  | .ricCallProcessID, .ricCallProcessID os => some { ctrl with callProcessId := some os }
  | .ricControlStatus, .ricControlStatus n => do
    let status ← Enumeration.ofNat n
    some { ctrl with status := status }
  | .ricControlOutcome, .ricControlOutcome os => some { ctrl with controlOutcome := some os }
  | _, _ => none

/-- `e2ap_dec_control_ack`. -/
def decControlAck (pdu : E2apPdu) : Option E2apMsg := do
  assert (pdu.present = .successfulOutcome)
  assert (pdu.procedureCode = .ricControl)
  assert (pdu.criticality = .reject)
  assert (pdu.value = .ricControlAcknowledge)
  let req :: ran :: ies := pdu.protocolIEs | none
  let ricId ← decRicGenId ⟨true, true, some maxRanFuncId⟩ req ran
  let ctrl ← ies.foldlM decControlAckIe
    { ricId := ricId, callProcessId := none, status := .success, controlOutcome := none }
  some (.ricControlAcknowledge ctrl)

/-- One turn of the loop of `e2ap_dec_control_failure`. -/
def decControlFailureIe (cf : RicControlFailure) (ie : Ie) : Option RicControlFailure := do
  assert (ie.criticality = .reject)
  match ie.id, ie.value with
  | .ricCallProcessID, .ricCallProcessID os => some { cf with callProcessId := some os }
  | .cause, .cause c => do
    let cause ← decCause c
    some { cf with cause := cause }
  | .ricControlOutcome, .ricControlOutcome os => some { cf with controlOutcome := some os }
  | _, _ => none

/-- `e2ap_dec_control_failure`. -/
def decControlFailure (pdu : E2apPdu) : Option E2apMsg := do
  assert (pdu.present = .unsuccessfulOutcome)
  assert (pdu.procedureCode = .ricControl)
  assert (pdu.criticality = .reject)
  assert (pdu.value = .ricControlFailure)
  let req :: ran :: ies := pdu.protocolIEs | none
  let ricId ← decRicGenId ⟨true, false, some maxNumRanFuncId⟩ req ran
  let cf ← ies.foldlM decControlFailureIe
    { ricId := ricId, callProcessId := none, cause := .nothing, controlOutcome := none }
  some (.ricControlFailure cf)

/-- One turn of the loop of `e2ap_dec_error_indication`. -/
def decErrorIndicationIe (dst : E2apErrorIndication) (ie : Ie) : Option E2apErrorIndication := do
  assert (ie.criticality = .reject)
  match ie.id, ie.value with
  | .ricRequestID, .ricRequestID requestor inst =>
    some { dst with ricId := some ⟨UInt32.ofNat requestor, UInt16.ofNat inst, 0⟩ }
  | .ranFunctionID, .ranFunctionID func => do
    assert (func < maxNumRanFuncId)
    let ricId ← dst.ricId
    some { dst with ricId := some { ricId with ranFuncId := UInt16.ofNat func } }
  | .cause, .cause c => do
    let cause ← decCause c
    some { dst with cause := some cause }
  -- the criticality diagnostics are not implemented
  | _, _ => none

/-- `e2ap_dec_error_indication`. -/
def decErrorIndication (pdu : E2apPdu) : Option E2apMsg := do
  assert (pdu.present = .initiatingMessage)
  assert (pdu.procedureCode = .errorIndication)
  assert (pdu.criticality = .reject)
  assert (pdu.value = .errorIndication)
  let dst ← pdu.protocolIEs.foldlM decErrorIndicationIe
    { ricId := none, cause := none, critDiag := none }
  some (.e2apErrorIndication dst)

/-! ## Setup -/

/-- Reads a RAN function. The decoder also asserts that the revision is not negative. -/
def decRanFunction (item : ProtocolIeField Asn.RanFunctionItem) : Option RanFunction := do
  let src := item.value
  assert (src.ranFunctionID ≤ maxRanFuncId)
  assert (src.ranFunctionRevision ≤ maxRanFuncRev)
  some
    { definition := src.ranFunctionDefinition
      id := UInt16.ofNat src.ranFunctionID
      rev := UInt16.ofNat src.ranFunctionRevision
      oid := src.ranFunctionOID }

/-- Reads the configuration of a component. The structures of the two kinds of eNBs hold two
pointers each, so that one is read in the place of the other; the others have different sizes. -/
def decComponentConfig (src : Asn.E2nodeComponentConfigUpdate) : Option E2NodeComponentConfig :=
  match src.present, src.choice with
  | .gNBconfigUpdate, .gNB ngAP xnAP e1AP f1AP => some (.gnb ngAP xnAP e1AP f1AP)
  | .enGNBconfigUpdate, .enGNB x2AP => some (.enGnb x2AP)
  | .ngENBconfigUpdate, .ngENB ngAP xnAP => some (.ngEnb ngAP xnAP)
  | .ngENBconfigUpdate, .eNB s1AP x2AP => some (.ngEnb s1AP x2AP)
  | .eNBconfigUpdate, .eNB s1AP x2AP => some (.enb s1AP x2AP)
  | .eNBconfigUpdate, .ngENB ngAP xnAP => some (.enb ngAP xnAP)
  | _, _ => none

/-- Reads the id of a component. -/
def decComponentId : Asn.E2nodeComponentId → E2NodeComponentId
  | .gNBCUUP id => .gnbCuUp (decInteger id)
  | .gNBDU id => .gnbDu (decInteger id)

/-- `copy_e2_node_component_conf_update`, with the component id that the caller reads. -/
def decComponentConfUpdate (item : ProtocolIeField Asn.E2nodeComponentConfigUpdateItem) :
    Option E2NodeComponentConfigUpdate := do
  assert (item.id = .e2nodeComponentConfigUpdateItem)
  assert (item.criticality = .reject)
  let type ← Enumeration.ofNat item.value.e2nodeComponentType
  let update ← decComponentConfig item.value.e2nodeComponentConfigUpdate
  some
    { e2NodeComponentType := type
      id := item.value.e2nodeComponentID.map decComponentId
      update := update }

/-- Reads the list of the RAN functions. -/
def decRanFunctions (items : List (ProtocolIeField Asn.RanFunctionItem)) :
    Option (List RanFunction) := do
  assert (items.length < maxNumRanFuncId)
  items.mapM decRanFunction

/-- Reads the list of the component configurations. -/
def decComponentConfUpdates (items : List (ProtocolIeField Asn.E2nodeComponentConfigUpdateItem)) :
    Option (List E2NodeComponentConfigUpdate) := do
  assert (items.length < maxNumE2NodeComponents)
  items.mapM decComponentConfUpdate

/-- One turn of the loop of `e2ap_dec_setup_request`. -/
def decSetupRequestIe (sr : E2SetupRequest) (ie : Ie) : Option E2SetupRequest := do
  assert (ie.criticality = .reject)
  match ie.id, ie.value with
  | .ranFunctionsAdded, .ranFunctionsList items => do
    let ranFuncItem ← decRanFunctions items
    some { sr with ranFuncItem := ranFuncItem }
  | .e2nodeComponentConfigUpdate, .e2nodeComponentConfigUpdateList items => do
    let compConfUpdate ← decComponentConfUpdates items
    some { sr with compConfUpdate := compConfUpdate }
  | _, _ => none

/-- `e2ap_dec_setup_request`: after the first IE, the others are read from the last one on. -/
def decSetupRequest (pdu : E2apPdu) : Option E2apMsg := do
  assert (pdu.present = .initiatingMessage)
  assert (pdu.procedureCode = .e2setup)
  assert (pdu.criticality = .reject)
  assert (pdu.value = .e2setupRequest)
  let node :: ies := pdu.protocolIEs | none
  assert (ies.length < 3)
  let id ← decGlobalE2nodeIe node
  let sr ← ies.reverse.foldlM decSetupRequestIe
    { id := id, ranFuncItem := [], compConfUpdate := [] }
  some (.e2SetupRequest sr)

/-- Reads an accepted RAN function. -/
def decAccepted (item : ProtocolIeField ℕ) : Option UInt16 := do
  assert (item.id = .ranFunctionIDItem)
  assert (item.criticality = .ignore)
  assert (item.value < maxRanFuncId)
  some (UInt16.ofNat item.value)

/-- Reads a rejected RAN function. -/
def decRejected (item : ProtocolIeField Asn.RanFunctionIDcauseItem) :
    Option RejectedRanFunction := do
  assert (item.id = .ranFunctionIDItem)
  assert (item.criticality = .ignore)
  assert (item.value.ranFunctionID < maxRanFuncId)
  let cause ← decCause item.value.cause
  some { id := UInt16.ofNat item.value.ranFunctionID, cause := cause }

/-- Reads the list of the accepted RAN functions. -/
def decAcceptedList (items : List (ProtocolIeField ℕ)) : Option (List UInt16) := do
  assert (items.length < maxNumRanFuncId)
  items.mapM decAccepted

/-- One turn of the loop of `e2ap_dec_setup_response_success`. -/
def decSetupResponseIe (sr : E2SetupResponse) (ie : Ie) : Option E2SetupResponse := do
  assert (ie.criticality = .reject)
  match ie.id, ie.value with
  | .ranFunctionsAccepted, .ranFunctionsIDList items => do
    let accepted ← decAcceptedList items
    some { sr with accepted := accepted }
  | .ranFunctionsRejected, .ranFunctionsIDcauseList items => do
    let rejected ← items.mapM decRejected
    some { sr with rejected := rejected }
  | .e2nodeComponentConfigUpdateAck, .e2nodeComponentConfigUpdateAckList items => do
    -- an acknowledgement is not implemented
    assert (items = [])
    some { sr with compConfUpdateAckList := [] }
  | _, _ => none

/-- `e2ap_dec_setup_response`: an unsuccessful outcome is not implemented. -/
def decSetupResponse (pdu : E2apPdu) : Option E2apMsg := do
  assert (pdu.present = .successfulOutcome)
  assert (pdu.procedureCode = .e2setup)
  assert (pdu.criticality = .reject)
  assert (pdu.value = .e2setupResponse)
  let ric :: ies := pdu.protocolIEs | none
  assert (ies.length < 3)
  assert (ric.id = .globalRicID)
  assert (ric.criticality = .reject)
  let .globalRicID pLMNIdentity ricID := ric.value | none
  let plmn ← Asn.plmnIdToMccMnc pLMNIdentity
  let nearRicId ← Asn.bitStringToMacroEnbId ricID
  let sr ← ies.reverse.foldlM decSetupResponseIe
    { id := ⟨plmn, nearRicId⟩, accepted := [], rejected := [], compConfUpdateAckList := [] }
  some (.e2SetupResponse sr)

/-- `copy_bs_to_ba`. -/
def copyBsToBa (bs : Asn.BitString) : Option (List UInt8) := do
  assert (bs.bitsUnused = 0)
  some bs.buf

/-- Reads the transport layer information. -/
def decTlInfo (src : Asn.TnlInformation) : Option TransportLayerInformation := do
  let address ← copyBsToBa src.tnlAddress
  let port ← src.tnlPort.mapM copyBsToBa
  some { address := address, port := port }

/-- One turn of the loop of `e2ap_dec_setup_failure`, which goes by the tag of the value. -/
def decSetupFailureIe (sf : E2SetupFailure) (ie : Ie) : Option E2SetupFailure := do
  assert (ie.criticality = .ignore)
  match ie.value, ie.id with
  | .timeToWait n, .timeToWait => do
    let timeToWait ← Enumeration.ofNat n
    some { sf with timeToWaitMs := some timeToWait }
  | .tnlInformation t, .tnlInformation => do
    let tlInfo ← decTlInfo t
    some { sf with tlInfo := some tlInfo }
  -- the criticality diagnostics are not implemented
  | _, _ => none

/-- `e2ap_dec_setup_failure`. -/
def decSetupFailure (pdu : E2apPdu) : Option E2apMsg := do
  assert (pdu.present = .unsuccessfulOutcome)
  assert (pdu.procedureCode = .e2setup)
  assert (pdu.criticality = .reject)
  assert (pdu.value = .e2setupFailure)
  let first :: ies := pdu.protocolIEs | none
  assert (first.id = .e2connectionSetupFailed)
  assert (first.criticality = .ignore)
  let .cause c := first.value | none
  let cause ← decCause c
  assert (ies.length < 4)
  let sf ← ies.reverse.foldlM decSetupFailureIe
    { cause := cause, timeToWaitMs := none, critDiag := none, tlInfo := none }
  some (.e2SetupFailure sf)

/-! ## Service updates and queries -/

/-- `copy_ran_function`, which checks nothing. -/
def copyRanFunction (src : Asn.RanFunctionItem) : RanFunction where
  definition := src.ranFunctionDefinition
  id := UInt16.ofNat src.ranFunctionID
  rev := UInt16.ofNat src.ranFunctionRevision
  oid := src.ranFunctionOID

/-- Reads the item of a RAN function. -/
def decRanFunctionItem (item : ProtocolIeField Asn.RanFunctionItem) : Option RanFunction := do
  assert (item.id = .ranFunctionItem)
  assert (item.criticality = .reject)
  some (copyRanFunction item.value)

/-- Reads the item of an id with its revision, which is the item of a RAN function. -/
def decIdRev (item : ProtocolIeField Asn.RanFunctionsIDListItem) : Option RanFunctionIdRev := do
  assert (item.id = .ranFunctionItem)
  assert (item.criticality = .reject)
  let .ranFunctionItem src := item.value | none
  some { id := UInt16.ofNat src.ranFunctionID, rev := UInt16.ofNat src.ranFunctionRevision }

/-- Reads the IE of the added or of the modified RAN functions. -/
def decRanFunctionsIe (id : Asn.ProtocolIeId) (ie : Ie) : Option (List RanFunction) := do
  assert (ie.id = id)
  assert (ie.criticality = .reject)
  let .ranFunctionsList items := ie.value | none
  items.mapM decRanFunctionItem

/-- `e2ap_dec_service_update`. -/
def decServiceUpdate (pdu : E2apPdu) : Option E2apMsg := do
  assert (pdu.present = .initiatingMessage)
  assert (pdu.procedureCode = .ricServiceUpdate)
  assert (pdu.criticality = .reject)
  assert (pdu.value = .ricServiceUpdate)
  let ranAdd :: ranMod :: ranDel :: _ := pdu.protocolIEs | none
  let added ← decRanFunctionsIe .ranFunctionsAdded ranAdd
  let modified ← decRanFunctionsIe .ranFunctionsModified ranMod
  assert (ranDel.id = .ranFunctionsDeleted)
  assert (ranDel.criticality = .reject)
  let .serviceRanFunctionsIDList items := ranDel.value | none
  let deleted ← items.mapM decIdRev
  some (.ricServiceUpdate { added := added, modified := modified, deleted := deleted })

/-- Reads the item of an accepted RAN function. -/
def decAcceptedItem (item : ProtocolIeField Asn.RanFunctionsIDListItem) :
    Option RanFunctionId := do
  assert (item.id = .ranFunctionItem)
  assert (item.criticality = .reject)
  let .ranFunctionIDItem src := item.value | none
  some { id := UInt16.ofNat src.ranFunctionID, rev := UInt16.ofNat src.ranFunctionRevision }

/-- Reads the item of a rejected RAN function. -/
def decRejectedItem (item : ProtocolIeField Asn.RanFunctionIDcauseItem) :
    Option RejectedRanFunction := do
  assert (item.criticality = .ignore)
  assert (item.id = .ranFunctionIEcauseItem)
  let cause ← decCause item.value.cause
  some { id := UInt16.ofNat item.value.ranFunctionID, cause := cause }

/-- Reads the item of a rejected RAN function in a list with the tag of a list of ids. -/
def decRejectedIDListItem (item : ProtocolIeField Asn.RanFunctionsIDListItem) :
    Option RejectedRanFunction := do
  let .ranFunctionIDcauseItem src := item.value | none
  decRejectedItem ⟨item.id, item.criticality, src⟩

/-- One turn of the loop of `e2ap_dec_service_update_ack`: `len_rejected` is never set, so that the
array of the rejected functions is filled, and has the length zero. -/
def decServiceUpdateAckIe (su : RicServiceUpdateAck) (ie : Ie) : Option RicServiceUpdateAck := do
  match ie.id, ie.value with
  | .ranFunctionsAccepted, .serviceRanFunctionsIDList items => do
    assert (ie.criticality = .ignore)
    let accepted ← items.mapM decAcceptedItem
    some { su with accepted := accepted }
  | .ranFunctionsRejected, .serviceRanFunctionsIDList items => do
    assert (ie.criticality = .ignore)
    let rejected ← items.mapM decRejectedIDListItem
    let lenRejected := 0
    some { su with rejected := rejected.take lenRejected }
  | _, _ => none

/-- `e2ap_dec_service_update_ack`. -/
def decServiceUpdateAck (pdu : E2apPdu) : Option E2apMsg := do
  assert (pdu.present = .successfulOutcome)
  assert (pdu.procedureCode = .ricServiceUpdate)
  assert (pdu.criticality = .reject)
  assert (pdu.value = .ricServiceUpdateAcknowledge)
  let su ← pdu.protocolIEs.foldlM decServiceUpdateAckIe { accepted := [], rejected := [] }
  some (.ricServiceUpdateAck su)

/-- One turn of the loop of `e2ap_dec_service_update_failure`, which goes by the tag of the
value. -/
def decServiceUpdateFailureIe (uf : RicServiceUpdateFailure) (ie : Ie) :
    Option RicServiceUpdateFailure := do
  match ie.value with
  | .timeToWait n => do
    assert (ie.id = .ranFunctionsRejected)
    assert (ie.criticality = .reject)
    let timeToWait ← Enumeration.ofNat n
    some { uf with timeToWait := some timeToWait }
  -- the criticality diagnostics are not implemented
  | _ => none

/-- `e2ap_dec_service_update_failure`: after the first IE, the others are read from the last one
on. -/
def decServiceUpdateFailure (pdu : E2apPdu) : Option E2apMsg := do
  assert (pdu.present = .unsuccessfulOutcome)
  assert (pdu.procedureCode = .ricServiceUpdate)
  assert (pdu.criticality = .reject)
  assert (pdu.value = .ricServiceUpdateFailure)
  let updateFailure :: ies := pdu.protocolIEs | none
  assert (updateFailure.id = .ranFunctionsRejected)
  assert (updateFailure.criticality = .reject)
  let .ranFunctionsIDcauseList items := updateFailure.value | none
  let rejected ← items.mapM decRejectedItem
  let uf ← ies.reverse.foldlM decServiceUpdateFailureIe
    { rejected := rejected, timeToWait := none, critDiag := none }
  some (.ricServiceUpdateFailure uf)

/-- `e2ap_dec_service_query`. -/
def decServiceQuery (pdu : E2apPdu) : Option E2apMsg := do
  assert (pdu.present = .initiatingMessage)
  assert (pdu.procedureCode = .ricServiceQuery)
  assert (pdu.criticality = .reject)
  assert (pdu.value = .ricServiceQuery)
  let servQuery :: _ := pdu.protocolIEs | none
  assert (servQuery.id = .ranFunctionsAccepted)
  assert (servQuery.criticality = .ignore)
  let .serviceRanFunctionsIDList items := servQuery.value | none
  let accepted ← items.mapM decIdRev
  some (.ricServiceQuery { accepted := accepted })

/-- `copy_e2_node_component_conf_update`: the component id is left at the null pointer. -/
def copyE2NodeComponentConfUpdate (src : Asn.E2nodeComponentConfigUpdateItem) :
    Option E2NodeComponentConfigUpdate := do
  let type ← Enumeration.ofNat src.e2nodeComponentType
  let update ← decComponentConfig src.e2nodeComponentConfigUpdate
  some { e2NodeComponentType := type, id := none, update := update }

/-- `e2ap_dec_node_configuration_update`: the ids and the criticalities of the items are not looked
at, and the caller does not read the component ids. -/
def decNodeConfigurationUpdate (pdu : E2apPdu) : Option E2apMsg := do
  assert (pdu.present = .initiatingMessage)
  assert (pdu.procedureCode = .e2nodeConfigurationUpdate)
  assert (pdu.criticality = .reject)
  assert (pdu.value = .e2nodeConfigurationUpdate)
  let confUpdate :: _ := pdu.protocolIEs | none
  assert (confUpdate.id = .e2nodeComponentConfigUpdate)
  assert (confUpdate.criticality = .ignore)
  let .e2nodeComponentConfigUpdateList items := confUpdate.value | none
  let compConfUpdateList ← items.mapM fun n => copyE2NodeComponentConfUpdate n.value
  some (.e2NodeConfigurationUpdate { compConfUpdateList := compConfUpdateList })

/-! ## Setup of the xApps -/

/-- `e2ap_dec_e42_setup_request`. -/
def decE42SetupRequest (pdu : E2apPdu) : Option E2apMsg := do
  assert (pdu.present = .initiatingMessage)
  assert (pdu.procedureCode = .e42Setup)
  assert (pdu.criticality = .reject)
  assert (pdu.value = .e42setupRequest)
  let ranList :: _ := pdu.protocolIEs | none
  assert (ranList.id = .ranFunctionsAdded)
  assert (ranList.criticality = .reject)
  let .ranFunctionsList items := ranList.value | none
  let ranFuncItem ← items.mapM decRanFunction
  some (.e42SetupRequest { ranFuncItem := ranFuncItem })

/-- Reads the IE of a connected E2 node. -/
def decE2nodeConnected (connList : Ie) : Option E2NodeConnected := do
  assert (connList.id = .e2nodesConnected)
  assert (connList.criticality = .reject)
  let .e2nodeConnectedList [src, srcRan] := connList.value | none
  assert (src.id = .globalE2nodeID)
  assert (src.criticality = .reject)
  let .globalE2nodeID node := src.value | none
  let id ← decGlobalE2nodeId node
  assert (srcRan.id = .ranFunctionsAdded)
  assert (srcRan.criticality = .reject)
  let .ranFunctionsList items := srcRan.value | none
  let ackRf ← items.mapM decRanFunction
  some { id := id, ackRf := ackRf }

/-- `e2ap_dec_e42_setup_response`: the length of the array is a `uint8_t`. -/
def decE42SetupResponse (pdu : E2apPdu) : Option E2apMsg := do
  assert (pdu.present = .successfulOutcome)
  assert (pdu.procedureCode = .e42Setup)
  assert (pdu.criticality = .reject)
  assert (pdu.value = .e42setupResponse)
  let setupRid :: connLists := pdu.protocolIEs | none
  let xappId ← decXappId setupRid
  let lenE2NodesConn := UInt8.ofNat connLists.length
  let nodes ← connLists.mapM decE2nodeConnected
  some (.e42SetupResponse { xappId := xappId, nodes := nodes.take lenE2NodesConn.toNat })

/-- `e2ap_msg_dec_asn`: `e2ap_get_msg_type` chooses the decoder by the procedure code and the kind
of the PDU. -/
def e2apMsgDec (pdu : E2apPdu) : Option E2apMsg :=
  match pdu.procedureCode, pdu.present with
  | .e2setup, .initiatingMessage => decSetupRequest pdu
  | .e2setup, .successfulOutcome => decSetupResponse pdu
  | .e2setup, .unsuccessfulOutcome => decSetupFailure pdu
  | .errorIndication, _ => decErrorIndication pdu
  | .ricControl, .initiatingMessage => decControlRequest pdu
  | .ricControl, .successfulOutcome => decControlAck pdu
  | .ricControl, .unsuccessfulOutcome => decControlFailure pdu
  | .ricIndication, _ => decIndication pdu
  | .ricServiceQuery, _ => decServiceQuery pdu
  | .ricServiceUpdate, .initiatingMessage => decServiceUpdate pdu
  | .ricServiceUpdate, .successfulOutcome => decServiceUpdateAck pdu
  | .ricServiceUpdate, .unsuccessfulOutcome => decServiceUpdateFailure pdu
  | .ricSubscription, .initiatingMessage => decSubscriptionRequest pdu
  | .ricSubscription, .successfulOutcome => decSubscriptionResponse pdu
  | .ricSubscription, .unsuccessfulOutcome => decSubscriptionFailure pdu
  | .e2nodeConfigurationUpdate, .initiatingMessage => decNodeConfigurationUpdate pdu
  -- the answers to a configuration update are not implemented
  | .e2nodeConfigurationUpdate, _ => none
  | .e42Setup, .initiatingMessage => decE42SetupRequest pdu
  | .e42Setup, .successfulOutcome => decE42SetupResponse pdu
  | .e42Setup, .unsuccessfulOutcome => decSetupFailure pdu
  | .e42RicSubscription, .initiatingMessage => decE42SubscriptionRequest pdu
  | .e42RicSubscription, .successfulOutcome => decSubscriptionResponse pdu
  | .e42RicSubscription, .unsuccessfulOutcome => decSubscriptionFailure pdu
  | .e42RicControl, .initiatingMessage => decE42ControlRequest pdu
  | .e42RicControl, .successfulOutcome => decControlAck pdu
  | .e42RicControl, .unsuccessfulOutcome => decControlFailure pdu

end FlexRic.Ap
