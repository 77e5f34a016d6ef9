import FlexRic.E2ap.Dec
import FlexRic.Semantics.Outcome

/-!
# Decoding what a peer sends (`lib/ap/dec/e2ap_msg_dec_asn.c`)

The decoders of the messages that come from outside, with the places of the array at which they
read. A list of IEs from a peer may be shorter than the encoders make it, or in another order. Each
decoder forgets to the one that only says whether there is a message.
-/

namespace FlexRic.Ap

open Asn (Ie E2apPdu ProtocolIeField maxNumRanFuncId maxNumE2NodeComponents maxRanFuncId
  maxRicRequestId maxRicInstanceId maxRicActionId)
open Outcome (check orStop orFault read loop)

/-! ## Parts of several messages -/

/-- Reads the RIC request ID: the requestor and the instance. -/
def readRicRequestId (checks : RicGenIdChecks) (req : Ie) : Option (ℕ × ℕ) := do
  assert (req.id = .ricRequestID)
  assert (checks.criticality → req.criticality = .reject)
  let .ricRequestID requestor inst := req.value | none
  assert (checks.request → requestor < maxRicRequestId ∧ inst < maxRicInstanceId)
  some (requestor, inst)

/-- Reads the RAN function ID. -/
def readRanFunctionId (checks : RicGenIdChecks) (ran : Ie) : Option ℕ := do
  assert (ran.id = .ranFunctionID)
  assert (checks.criticality → ran.criticality = .reject)
  let .ranFunctionID func := ran.value | none
  assert (∀ bound ∈ checks.ranFunc, func < bound)
  some func

/-- The id of a request and a RAN function. -/
def ricGenId (req : ℕ × ℕ) (func : ℕ) : RicGenId where
  ricReqId := UInt32.ofNat req.1
  ricInstId := UInt16.ofNat req.2
  ranFuncId := UInt16.ofNat func

/-- The two IEs are read at the first two places. -/
def e2apDecRicGenId (checks : RicGenIdChecks) (list : List Ie) : Outcome RicGenId := do
  let req ← read list 0
  let id ← orStop (readRicRequestId checks req)
  let ran ← read list 1
  let func ← orStop (readRanFunctionId checks ran)
  .returns (ricGenId id func)

/-- Reads an E2 node ID: the octets of the PLMN and of the node are taken without a look at their
number. -/
def e2apDecGlobalE2nodeId : Asn.GlobalE2nodeId → Outcome GlobalE2NodeId
  | .gNB gnb => do
    let plmn ← orFault .pastEnd (Asn.plmnIdToMccMnc gnb.plmnId)
    check (gnb.gnbID.bitsUnused = 4)
    let nbId ← orFault .pastEnd (Asn.bitStringToMacroGnbId gnb.gnbID)
    match gnb.gNBCUUPID, gnb.gNBDUID with
    | some cuUpId, _ => .returns ⟨.gNBCU, plmn, nbId, some (decInteger cuUpId)⟩
    | none, some duId => .returns ⟨.gNBDU, plmn, nbId, some (decInteger duId)⟩
    | none, none => .returns ⟨.gNB, plmn, nbId, none⟩
  | .eNB enb => do
    let .macroENBID bs := enb.eNBID | .stops
    let plmn ← orFault .pastEnd (Asn.plmnIdToMccMnc enb.pLMNIdentity)
    check (bs.bitsUnused = 4)
    let nbId ← orFault .pastEnd (Asn.bitStringToMacroEnbId bs)
    .returns ⟨.eNB, plmn, nbId, none⟩
  | _ => .stops

/-! ## Subscriptions -/

/-- `e2ap_dec_subscription_response`. -/
def e2apDecSubscriptionResponse (pdu : E2apPdu) : Outcome E2apMsg := do
  check (pdu.present = .successfulOutcome)
  check (pdu.procedureCode = .ricSubscription)
  check (pdu.criticality = .reject)
  check (pdu.value = .ricSubscriptionResponse)
  let list := pdu.protocolIEs
  let ricId ← e2apDecRicGenId ⟨true, true, some maxNumRanFuncId⟩ list
  let adm ← read list 2
  let admitted ← orStop (decAdmittedIe adm)
  let notAdm ← read list 3
  let notAdmitted ← orStop (decNotAdmittedIe notAdm)
  let lenNa := 0
  .returns (.ricSubscriptionResponse
    { ricId := ricId, admitted := admitted, notAdmitted := notAdmitted.take lenNa })

/-- `e2ap_dec_subscription_failure`. -/
def e2apDecSubscriptionFailure (pdu : E2apPdu) : Outcome E2apMsg := do
  check (pdu.present = .unsuccessfulOutcome)
  check (pdu.procedureCode = .ricSubscription)
  check (pdu.criticality = .reject)
  check (pdu.value = .ricSubscriptionFailure)
  let list := pdu.protocolIEs
  let ricId ← e2apDecRicGenId ⟨true, false, some maxRanFuncId⟩ list
  let notAdm ← read list 2
  let notAdmitted ← orStop (decNotAdmittedIe notAdm)
  -- the criticality diagnostics are not implemented
  check (list.length ≤ 3)
  .returns (.ricSubscriptionFailure
    { ricId := ricId, notAdmitted := notAdmitted, critDiag := none })

/-! ## Indications -/

/-- `e2ap_dec_indication`. -/
def e2apDecIndication (pdu : E2apPdu) : Outcome E2apMsg := do
  check (pdu.present = .initiatingMessage)
  check (pdu.procedureCode = .ricIndication)
  check (pdu.criticality = .reject)
  check (pdu.value = .ricIndication)
  let list := pdu.protocolIEs
  let ricId ← e2apDecRicGenId ⟨true, true, some maxRanFuncId⟩ list
  let act ← read list 2
  check (act.id = .ricActionID)
  check (act.criticality = .reject)
  let .ricActionID actionId := act.value | .stops
  check (actionId < maxRicActionId)
  let ind ← loop ((List.range list.length).drop 3) list
    (fun ind ie => orStop (decIndicationIe ind ie))
    { ricId := ricId
      actionId := UInt8.ofNat actionId
      sn := none
      type := .report
      hdr := []
      msg := []
      callProcessId := none }
  .returns (.ricIndication ind)

/-- One turn of the loop of `e2ap_dec_error_indication`: the RAN function ID is stored through the
pointer that the RIC request ID sets. -/
def e2apDecErrorIndicationIe (dst : E2apErrorIndication) (ie : Ie) :
    Outcome E2apErrorIndication := do
  check (ie.criticality = .reject)
  match ie.id, ie.value with
  | .ricRequestID, .ricRequestID requestor inst =>
    .returns { dst with ricId := some ⟨UInt32.ofNat requestor, UInt16.ofNat inst, 0⟩ }
  | .ranFunctionID, .ranFunctionID func => do
    check (func < maxNumRanFuncId)
    let ricId ← orFault .unset dst.ricId
    .returns { dst with ricId := some { ricId with ranFuncId := UInt16.ofNat func } }
  | .cause, .cause c => do
    let cause ← orStop (decCause c)
    .returns { dst with cause := some cause }
  -- the criticality diagnostics are not implemented
  | _, _ => .stops

/-- `e2ap_dec_error_indication`. -/
def e2apDecErrorIndication (pdu : E2apPdu) : Outcome E2apMsg := do
  check (pdu.present = .initiatingMessage)
  check (pdu.procedureCode = .errorIndication)
  check (pdu.criticality = .reject)
  check (pdu.value = .errorIndication)
  let list := pdu.protocolIEs
  let dst ← loop ((List.range list.length).drop 0) list e2apDecErrorIndicationIe
    { ricId := none, cause := none, critDiag := none }
  .returns (.e2apErrorIndication dst)

/-! ## Setup requests -/

/-- `copy_e2_node_component_conf_update`, with the component id that the caller reads. The tag says
which structure is read. -/
def e2apDecComponentConfUpdate (item : ProtocolIeField Asn.E2nodeComponentConfigUpdateItem) :
    Outcome E2NodeComponentConfigUpdate := do
  check (item.id = .e2nodeComponentConfigUpdateItem)
  check (item.criticality = .reject)
  let type ← orStop (Enumeration.ofNat item.value.e2nodeComponentType)
  let update ← orFault .misread (decComponentConfig item.value.e2nodeComponentConfigUpdate)
  .returns
    { e2NodeComponentType := type
      id := item.value.e2nodeComponentID.map decComponentId
      update := update }

/-- One turn of the loop of `e2ap_dec_setup_request`. -/
def e2apDecSetupRequestIe (sr : E2SetupRequest) (ie : Ie) : Outcome E2SetupRequest := do
  check (ie.criticality = .reject)
  match ie.id, ie.value with
  | .ranFunctionsAdded, .ranFunctionsList items => do
    let ranFuncItem ← orStop (decRanFunctions items)
    .returns { sr with ranFuncItem := ranFuncItem }
  | .e2nodeComponentConfigUpdate, .e2nodeComponentConfigUpdateList items => do
    check (items.length < maxNumE2NodeComponents)
    let compConfUpdate ← items.mapM e2apDecComponentConfUpdate
    .returns { sr with compConfUpdate := compConfUpdate }
  | _, _ => .stops

/-- `e2ap_dec_setup_request`: the number of the IEs is checked before they are read. -/
def e2apDecSetupRequest (pdu : E2apPdu) : Outcome E2apMsg := do
  check (pdu.present = .initiatingMessage)
  check (pdu.procedureCode = .e2setup)
  check (pdu.criticality = .reject)
  check (pdu.value = .e2setupRequest)
  let list := pdu.protocolIEs
  check (0 < list.length ∧ list.length < 4)
  let node ← read list 0
  check (node.id = .globalE2nodeID)
  check (node.criticality = .reject)
  let .globalE2nodeID nodeId := node.value | .stops
  let id ← e2apDecGlobalE2nodeId nodeId
  let sr ← loop ((List.range list.length).drop 1).reverse list e2apDecSetupRequestIe
    { id := id, ranFuncItem := [], compConfUpdate := [] }
  .returns (.e2SetupRequest sr)

/-! ## Forgetting how a decoder fails -/

theorem decRicGenId_eq_read (checks : RicGenIdChecks) (req ran : Ie) :
    decRicGenId checks req ran = (readRicRequestId checks req).bind fun id =>
      (readRanFunctionId checks ran).map (ricGenId id) := by
  obtain ⟨reqId, reqCrit, reqVal⟩ := req
  obtain ⟨ranId, ranCrit, ranVal⟩ := ran
  cases reqVal with
  | ricRequestID requestor inst =>
    cases ranVal with
    | ranFunctionID func =>
      simp [decRicGenId, readRicRequestId, readRanFunctionId, ricGenId, Option.map_eq_bind,
        Option.bind_assoc, Function.comp_def]
    | _ => simp [decRicGenId, readRicRequestId, readRanFunctionId]
  | _ => simp [decRicGenId, readRicRequestId]

/-- A list with two IEs at least is read as they are. -/
theorem toOption_e2apDecRicGenId_cons (checks : RicGenIdChecks) (req ran : Ie) (ies : List Ie) :
    (e2apDecRicGenId checks (req :: ran :: ies)).toOption = decRicGenId checks req ran := by
  simp [e2apDecRicGenId, decRicGenId_eq_read, Option.map_eq_bind]

theorem toOption_e2apDecSubscriptionResponse (pdu : E2apPdu) :
    (e2apDecSubscriptionResponse pdu).toOption = decSubscriptionResponse pdu := by
  obtain ⟨present, code, crit, value, ies⟩ := pdu
  match ies with
  | [] | [_] | [_, _] | [_, _, _] =>
    simp [e2apDecSubscriptionResponse, decSubscriptionResponse, e2apDecRicGenId]
  | req :: ran :: adm :: notAdm :: ies =>
    simp [e2apDecSubscriptionResponse, decSubscriptionResponse, toOption_e2apDecRicGenId_cons]

theorem toOption_e2apDecSubscriptionFailure (pdu : E2apPdu) :
    (e2apDecSubscriptionFailure pdu).toOption = decSubscriptionFailure pdu := by
  obtain ⟨present, code, crit, value, ies⟩ := pdu
  match ies with
  | [] | [_] | [_, _] =>
    simp [e2apDecSubscriptionFailure, decSubscriptionFailure, e2apDecRicGenId]
  | [req, ran, notAdm] =>
    simp [e2apDecSubscriptionFailure, decSubscriptionFailure, toOption_e2apDecRicGenId_cons]
  | req :: ran :: notAdm :: critDiag :: ies =>
    simp [e2apDecSubscriptionFailure, decSubscriptionFailure, toOption_e2apDecRicGenId_cons]

theorem toOption_e2apDecIndication (pdu : E2apPdu) :
    (e2apDecIndication pdu).toOption = decIndication pdu := by
  obtain ⟨present, code, crit, value, ies⟩ := pdu
  simp only [e2apDecIndication, decIndication, Outcome.loop_up]
  match ies with
  | [] | [_] | [_, _] => simp [e2apDecRicGenId]
  | req :: ran :: ⟨actId, actCrit, actVal⟩ :: ies =>
    cases actVal <;> simp [toOption_e2apDecRicGenId_cons, Outcome.toOption_foldlM]

theorem toOption_e2apDecErrorIndicationIe (dst : E2apErrorIndication) (ie : Ie) :
    (e2apDecErrorIndicationIe dst ie).toOption = decErrorIndicationIe dst ie := by
  rw [e2apDecErrorIndicationIe, decErrorIndicationIe, Outcome.toOption_bind,
    Outcome.toOption_check]
  refine congrArg (Option.bind _) (funext fun _ => ?_)
  obtain ⟨id, crit, value⟩ := ie
  dsimp only
  split <;> simp

theorem toOption_e2apDecErrorIndication (pdu : E2apPdu) :
    (e2apDecErrorIndication pdu).toOption = decErrorIndication pdu := by
  simp only [e2apDecErrorIndication, decErrorIndication, Outcome.loop_up]
  simp [Outcome.toOption_foldlM, toOption_e2apDecErrorIndicationIe]

theorem toOption_e2apDecComponentConfUpdate
    (item : ProtocolIeField Asn.E2nodeComponentConfigUpdateItem) :
    (e2apDecComponentConfUpdate item).toOption = decComponentConfUpdate item := by
  simp [e2apDecComponentConfUpdate, decComponentConfUpdate]

theorem toOption_e2apDecSetupRequestIe (sr : E2SetupRequest) (ie : Ie) :
    (e2apDecSetupRequestIe sr ie).toOption = decSetupRequestIe sr ie := by
  rw [e2apDecSetupRequestIe, decSetupRequestIe, Outcome.toOption_bind, Outcome.toOption_check]
  refine congrArg (Option.bind _) (funext fun _ => ?_)
  obtain ⟨id, crit, value⟩ := ie
  dsimp only
  split <;>
    simp [decComponentConfUpdates, Outcome.toOption_mapM, toOption_e2apDecComponentConfUpdate,
      Option.bind_assoc]

/-- Checking the unused bits once more makes no difference. -/
theorem assert_bitStringToMacroGnbId (bs : Asn.BitString) :
    ((assert (bs.bitsUnused = 4)).bind fun _ => Asn.bitStringToMacroGnbId bs) =
      Asn.bitStringToMacroGnbId bs := by
  by_cases h : bs.bitsUnused = 4 <;> simp [Asn.bitStringToMacroGnbId, h]

theorem assert_bitStringToMacroEnbId (bs : Asn.BitString) :
    ((assert (bs.bitsUnused = 4)).bind fun _ => Asn.bitStringToMacroEnbId bs) =
      Asn.bitStringToMacroEnbId bs := by
  by_cases h : bs.bitsUnused = 4 <;> simp [Asn.bitStringToMacroEnbId, h]

theorem toOption_e2apDecGlobalE2nodeId (id : Asn.GlobalE2nodeId) :
    (e2apDecGlobalE2nodeId id).toOption = decGlobalE2nodeId id := by
  cases id with
  | gNB gnb =>
    obtain ⟨plmnId, gnbID, cuUpId, duId⟩ := gnb
    simp only [e2apDecGlobalE2nodeId, decGlobalE2nodeId, Outcome.toOption_bind,
      Outcome.toOption_orFault, Outcome.toOption_check, Option.bind_eq_bind, ← Option.bind_assoc,
      assert_bitStringToMacroGnbId]
    cases cuUpId <;> cases duId <;> rfl
  | eNB enb =>
    obtain ⟨plmnId, eNBID⟩ := enb
    cases eNBID with
    | macroENBID bs =>
      simp only [e2apDecGlobalE2nodeId, decGlobalE2nodeId, Outcome.toOption_bind,
        Outcome.toOption_orFault, Outcome.toOption_check, Option.bind_eq_bind,
        ← Option.bind_assoc, assert_bitStringToMacroEnbId]
      rfl
    | _ => rfl
  | _ => rfl

theorem toOption_e2apDecSetupRequest (pdu : E2apPdu) :
    (e2apDecSetupRequest pdu).toOption = decSetupRequest pdu := by
  obtain ⟨present, code, crit, value, ies⟩ := pdu
  simp only [e2apDecSetupRequest, decSetupRequest, Outcome.loop_down]
  cases ies with
  | nil => simp
  | cons node ies =>
    obtain ⟨nodeId, nodeCrit, nodeVal⟩ := node
    have hcount : ies.length + 1 < 4 ↔ ies.length < 3 := Nat.succ_lt_succ_iff
    cases nodeVal <;>
      simp [decGlobalE2nodeIe, hcount, Outcome.toOption_foldlM, toOption_e2apDecSetupRequestIe,
        toOption_e2apDecGlobalE2nodeId, Option.bind_assoc, -List.foldlM_reverse]

end FlexRic.Ap
