import FlexRic.E2ap.Types
import FlexRic.Semantics.Codec

/-!
# E2AP messages (`lib/ap/e2ap_types`)

The messages with all the members that are sent. A pointer that may be null is an option, and an
array with its length is a list. The handlers read less of a message; what they read is in the
types outside of this namespace.
-/

namespace FlexRic.Ap

/-! ## Enumerations -/

/-- `ric_action_type_t`. -/
inductive RicActionType : Type where
  | report
  | insert
  | policy
  deriving DecidableEq, Repr

/-- `ric_subseq_action_type_t`. -/
inductive RicSubseqActionType : Type where
  | subsReqContinue
  | subsReqHalt
  deriving DecidableEq, Repr

/-- `ric_control_ack_req_t`. -/
inductive RicControlAckReq : Type where
  | noAck
  | ack
  | nack
  deriving DecidableEq, Repr

/-- `cause_RIC_e`. -/
inductive CauseRic : Type where
  | ranFunctionIdInvalid
  | actionNotSupported
  | excessiveActions
  | duplicateAction
  | duplicateEvent
  | functionResourceLimit
  | requestIdUnknown
  | inconsistentActionSubsequentActionSequence
  | controlMessageInvalid
  | callProcessIdInvalid
  | unspecified
  deriving DecidableEq, Repr

/-- `cause_RIC_service_e`. -/
inductive CauseRicService : Type where
  | functionNotRequired
  | excessiveFunctions
  | ricResourceLimit
  deriving DecidableEq, Repr

/-- `cause_transport_e`. -/
inductive CauseTransport : Type where
  | unspecified
  | transportResourceUnavailable
  deriving DecidableEq, Repr

/-- `cause_protocol_e`. -/
inductive CauseProtocol : Type where
  | transferSyntaxError
  | abstractSyntaxErrorReject
  | abstractSyntaxErrorIgnoreAndNotify
  | messageNotCompatibleWithReceiverState
  | semanticError
  | abstractSyntaxErrorFalselyConstructedMessage
  | unspecified
  deriving DecidableEq, Repr

/-- `cause_misc_e`. -/
inductive CauseMisc : Type where
  | controlProcessingOverload
  | hardwareFailure
  | omIntervention
  | unspecified
  deriving DecidableEq, Repr

/-- `e2ap_time_to_wait_e`. -/
inductive E2apTimeToWait : Type where
  | v1s
  | v2s
  | v5s
  | v10s
  | v20s
  | v60s
  deriving DecidableEq, Repr

/-- `e2_node_component_type_e`. -/
inductive E2NodeComponentType : Type where
  | gnb
  | gnbCuUp
  | gnbDu
  | enGnb
  | enb
  | ngEnb
  deriving DecidableEq, Repr

instance : Enumeration RicActionType where
  values := [.report, .insert, .policy]
  mem_values := fun e => by cases e <;> decide

instance : Enumeration RicSubseqActionType where
  values := [.subsReqContinue, .subsReqHalt]
  mem_values := fun e => by cases e <;> decide

instance : Enumeration RicIndicationType where
  values := [.report, .insert]
  mem_values := fun e => by cases e <;> decide

instance : Enumeration RicControlAckReq where
  values := [.noAck, .ack, .nack]
  mem_values := fun e => by cases e <;> decide

instance : Enumeration RicControlStatus where
  values := [.success, .rejected, .failed]
  mem_values := fun e => by cases e <;> decide

instance : Enumeration CauseRic where
  values := [.ranFunctionIdInvalid, .actionNotSupported, .excessiveActions, .duplicateAction,
    .duplicateEvent, .functionResourceLimit, .requestIdUnknown,
    .inconsistentActionSubsequentActionSequence, .controlMessageInvalid, .callProcessIdInvalid,
    .unspecified]
  mem_values := fun e => by cases e <;> decide

instance : Enumeration CauseRicService where
  values := [.functionNotRequired, .excessiveFunctions, .ricResourceLimit]
  mem_values := fun e => by cases e <;> decide

instance : Enumeration CauseTransport where
  values := [.unspecified, .transportResourceUnavailable]
  mem_values := fun e => by cases e <;> decide

instance : Enumeration CauseProtocol where
  values := [.transferSyntaxError, .abstractSyntaxErrorReject, .abstractSyntaxErrorIgnoreAndNotify,
    .messageNotCompatibleWithReceiverState, .semanticError,
    .abstractSyntaxErrorFalselyConstructedMessage, .unspecified]
  mem_values := fun e => by cases e <;> decide

instance : Enumeration CauseMisc where
  values := [.controlProcessingOverload, .hardwareFailure, .omIntervention, .unspecified]
  mem_values := fun e => by cases e <;> decide

instance : Enumeration E2apTimeToWait where
  values := [.v1s, .v2s, .v5s, .v10s, .v20s, .v60s]
  mem_values := fun e => by cases e <;> decide

instance : Enumeration E2NodeComponentType where
  values := [.gnb, .gnbCuUp, .gnbDu, .enGnb, .enb, .ngEnb]
  mem_values := fun e => by cases e <;> decide

/-! ## Messages of the functional procedures -/

/-- `ric_subsequent_action_t`. -/
structure RicSubsequentAction : Type where
  type : RicSubseqActionType
  timeToWaitMs : Option UInt32
  deriving DecidableEq, Repr

/-- `ric_action_t`. -/
structure RicAction : Type where
  id : UInt8
  type : RicActionType
  definition : Option (List UInt8)
  subseqAction : Option RicSubsequentAction
  deriving DecidableEq, Repr

/-- `ric_subscription_request_t`. -/
structure RicSubscriptionRequest : Type where
  ricId : RicGenId
  eventTrigger : List UInt8
  action : List RicAction
  deriving DecidableEq, Repr

/-- `e42_ric_subscription_request_t`. -/
structure E42RicSubscriptionRequest : Type where
  xappId : UInt16
  id : GlobalE2NodeId
  sr : RicSubscriptionRequest
  deriving DecidableEq, Repr

/-- `cause_t`. -/
inductive Cause : Type where
  | nothing
  | ricRequest (c : CauseRic)
  | ricService (c : CauseRicService)
  | transport (c : CauseTransport)
  | protocol (c : CauseProtocol)
  | misc (c : CauseMisc)
  deriving DecidableEq, Repr

/-- `ric_action_not_admitted_t`. -/
structure RicActionNotAdmitted : Type where
  ricActId : UInt8
  cause : Cause
  deriving DecidableEq, Repr

/-- `ric_subscription_response_t`: an admitted action is its id. -/
structure RicSubscriptionResponse : Type where
  ricId : RicGenId
  admitted : List UInt8
  notAdmitted : List RicActionNotAdmitted
  deriving DecidableEq, Repr

/-- `criticality_diagnostics_t`, of which no member is ever read. -/
structure CriticalityDiagnostics : Type where
  deriving DecidableEq, Repr

/-- `ric_subscription_failure_t`. -/
structure RicSubscriptionFailure : Type where
  ricId : RicGenId
  notAdmitted : List RicActionNotAdmitted
  critDiag : Option CriticalityDiagnostics
  deriving DecidableEq, Repr

/-- `ric_control_request_t`. -/
structure RicControlRequest : Type where
  ricId : RicGenId
  callProcessId : Option (List UInt8)
  hdr : List UInt8
  msg : List UInt8
  ackReq : Option RicControlAckReq
  deriving DecidableEq, Repr

/-- `e42_ric_control_request_t`. -/
structure E42RicControlRequest : Type where
  xappId : UInt16
  id : GlobalE2NodeId
  ctrlReq : RicControlRequest
  deriving DecidableEq, Repr

/-- `ric_control_acknowledge_t`. -/
structure RicControlAcknowledge : Type where
  ricId : RicGenId
  callProcessId : Option (List UInt8)
  status : RicControlStatus
  controlOutcome : Option (List UInt8)
  deriving DecidableEq, Repr

/-- `ric_control_failure_t`. -/
structure RicControlFailure : Type where
  ricId : RicGenId
  callProcessId : Option (List UInt8)
  cause : Cause
  controlOutcome : Option (List UInt8)
  deriving DecidableEq, Repr

/-! ## Messages of the global procedures -/

/-- `e2ap_error_indication_t`. -/
structure E2apErrorIndication : Type where
  ricId : Option RicGenId
  cause : Option Cause
  critDiag : Option CriticalityDiagnostics
  deriving DecidableEq, Repr

/-- The id of a component: `id_present` says which of the two it is. -/
inductive E2NodeComponentId : Type where
  | gnbCuUp (id : UInt64)
  | gnbDu (id : UInt64)
  deriving DecidableEq, Repr

/-- The configuration of a component: `update_present` with the structure of the union. -/
inductive E2NodeComponentConfig : Type where
  | nothing
  | gnb (ngap xnap e1ap f1ap : Option (List UInt8))
  | enGnb (x2ap : Option (List UInt8))
  | ngEnb (ngap xnap : Option (List UInt8))
  | enb (s1ap x2ap : Option (List UInt8))
  deriving DecidableEq, Repr

/-- `e2_node_component_config_update_t`. -/
structure E2NodeComponentConfigUpdate : Type where
  e2NodeComponentType : E2NodeComponentType
  id : Option E2NodeComponentId
  update : E2NodeComponentConfig
  deriving DecidableEq, Repr

/-- `e2_setup_request_t`. -/
structure E2SetupRequest : Type where
  id : GlobalE2NodeId
  ranFuncItem : List RanFunction
  compConfUpdate : List E2NodeComponentConfigUpdate
  deriving DecidableEq, Repr

/-- `global_ric_id_t`. -/
structure GlobalRicId : Type where
  plmn : Plmn
  nearRicId : UInt32
  deriving DecidableEq, Repr

/-- `rejected_ran_function_t`. -/
structure RejectedRanFunction : Type where
  id : UInt16
  cause : Cause
  deriving DecidableEq, Repr

/-- `e2_setup_response_t`. -/
structure E2SetupResponse : Type where
  id : GlobalRicId
  accepted : List UInt16
  rejected : List RejectedRanFunction
  compConfUpdateAckList : List E2NodeComponentConfigUpdate
  deriving DecidableEq, Repr

/-- `transport_layer_information_t`. -/
structure TransportLayerInformation : Type where
  address : List UInt8
  port : Option (List UInt8)
  deriving DecidableEq, Repr

/-- `e2_setup_failure_t`. -/
structure E2SetupFailure : Type where
  cause : Cause
  timeToWaitMs : Option E2apTimeToWait
  critDiag : Option CriticalityDiagnostics
  tlInfo : Option TransportLayerInformation
  deriving DecidableEq, Repr

/-- `e2ap_ran_function_id_rev_t`. -/
structure RanFunctionIdRev : Type where
  id : UInt16
  rev : UInt16
  deriving DecidableEq, Repr

/-- `ran_function_id_t`. -/
structure RanFunctionId : Type where
  id : UInt16
  rev : UInt16
  deriving DecidableEq, Repr

/-- `ric_service_update_t`. -/
structure RicServiceUpdate : Type where
  added : List RanFunction
  modified : List RanFunction
  deleted : List RanFunctionIdRev
  deriving DecidableEq, Repr

/-- `ric_service_update_ack_t`. -/
structure RicServiceUpdateAck : Type where
  accepted : List RanFunctionId
  rejected : List RejectedRanFunction
  deriving DecidableEq, Repr

/-- `ric_service_update_failure_t`. -/
structure RicServiceUpdateFailure : Type where
  rejected : List RejectedRanFunction
  timeToWait : Option E2apTimeToWait
  critDiag : Option CriticalityDiagnostics
  deriving DecidableEq, Repr

/-- `ric_service_query_t`. -/
structure RicServiceQuery : Type where
  accepted : List RanFunctionIdRev
  deriving DecidableEq, Repr

/-- `e2_node_configuration_update_t`. -/
structure E2NodeConfigurationUpdate : Type where
  compConfUpdateList : List E2NodeComponentConfigUpdate
  deriving DecidableEq, Repr

/-- `e2ap_msg_t`: the tag and the union. -/
inductive E2apMsg : Type where
  | ricSubscriptionRequest (m : RicSubscriptionRequest)
  | ricSubscriptionResponse (m : RicSubscriptionResponse)
  | ricSubscriptionFailure (m : RicSubscriptionFailure)
  | ricIndication (m : RicIndication)
  | ricControlRequest (m : RicControlRequest)
  | ricControlAcknowledge (m : RicControlAcknowledge)
  | ricControlFailure (m : RicControlFailure)
  | e2apErrorIndication (m : E2apErrorIndication)
  | e2SetupRequest (m : E2SetupRequest)
  | e2SetupResponse (m : E2SetupResponse)
  | e2SetupFailure (m : E2SetupFailure)
  | ricServiceUpdate (m : RicServiceUpdate)
  | ricServiceUpdateAck (m : RicServiceUpdateAck)
  | ricServiceUpdateFailure (m : RicServiceUpdateFailure)
  | ricServiceQuery (m : RicServiceQuery)
  | e2NodeConfigurationUpdate (m : E2NodeConfigurationUpdate)
  | e42SetupRequest (m : E42SetupRequest)
  | e42SetupResponse (m : E42SetupResponse)
  | e42RicSubscriptionRequest (m : E42RicSubscriptionRequest)
  | e42RicControlRequest (m : E42RicControlRequest)
  deriving DecidableEq, Repr

end FlexRic.Ap
