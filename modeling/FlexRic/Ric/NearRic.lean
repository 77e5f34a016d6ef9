import FlexRic.AlgDs.Bimap
import FlexRic.MsgHand.RegE2Nodes
import FlexRic.Sm.PluginRic

/-!
# The near-RIC (`ric/near_ric.c`, `ric/msg_handler_ric.c`, `ric/asio_ric.c`)

The data and the functions of the thread that talks to the E2 nodes. A request is forwarded by the
iApp's thread in several steps that the other thread can see one by one (the id, the timer, its
registration as pending, the sending), so each of them is a function of its own here.

`none` is a failing assertion. Encoding and decoding are left out: a message is its content.
-/

namespace FlexRic

/-- `e2_node_t`. -/
structure E2Node : Type where
  id : GlobalE2NodeId
  accepted : List UInt16
  deriving DecidableEq, Repr

/-- `near_ric_t`. -/
structure NearRic : Type where
  /-- the socket, `ep.base.fd` -/
  epFd : Fd
  /-- `ep.e2_nodes`: the addresses of the E2 nodes -/
  e2Nodes : BiMap GlobalE2NodeId SctpInfo
  /-- the descriptors in the epoll instance of `io` -/
  io : List Fd
  /-- `plugin.sm_ds`, in iteration order -/
  plugin : List SmRic
  /-- the keys of `pub_sub` -/
  pubSub : List UInt16
  connE2Nodes : List E2Node
  /-- the next request id, an `atomic_int` -/
  reqId : UInt32
  /-- left key: the timer, right key: the event it waits for -/
  pending : BiMap Fd PendingEventRic

namespace NearRic

/-- `init_near_ric`: the socket is the only descriptor and every plugin has its listeners. -/
def init (epFd : Fd) (plugin : List SmRic) : NearRic where
  epFd := epFd
  e2Nodes := .init
  io := [epFd]
  plugin := plugin
  pubSub := plugin.map SmRic.ranFuncId
  connE2Nodes := []
  reqId := 1021
  pending := .init

/-! ## Descriptors and timers -/

/-- `create_timer_ms_asio_ric`: the kernel has answered with the descriptor `fd`, which is added to
the epoll instance. -/
def createTimerMsAsioRic (ric : NearRic) (fd : Fd) : Option NearRic :=
  if 0 < fd ∧ fd ∉ ric.io then some { ric with io := fd :: ric.io } else none

/-- `rm_fd_asio_ric`. -/
def rmFdAsioRic (ric : NearRic) (fd : Fd) : Option NearRic :=
  if fd ∈ ric.io then some { ric with io := ric.io.erase fd } else none

/-- `pend_event`: the event that the timer `fd` waits for. -/
def pendEvent (ric : NearRic) (fd : Fd) : Option PendingEventRic :=
  if 0 < fd ∧ ric.pending.size = some 1 then
    (ric.pending.left.findIf fun fd' => fd = fd').map Prod.snd
  else none

/-- What `e2ap_recv_msg_ric` has received. -/
inductive SctpMsgType : Type where
  | payload
  | notification
  deriving DecidableEq, Repr

/-- `async_event_t`. -/
inductive AsyncEvent : Type where
  | checkStopTokenEvent
  | sctpMsgArrivedEvent
  | sctpConnectionShutdownEvent
  | pendingEvent (ev : PendingEventRic)
  deriving DecidableEq, Repr

/-- `next_asio_event_ric`, when `event_asio_ric` answers with `fd` (`none` is the time-out) and,
should that be the socket, `e2ap_recv_msg_ric` with a message of type `msg`. -/
def nextAsioEventRic (ric : NearRic) (fd : Option Fd) (msg : SctpMsgType) : Option AsyncEvent :=
  match fd with
  | none => some .checkStopTokenEvent
  | some fd =>
    if fd = ric.epFd then
      match msg with
      | .notification => some .sctpConnectionShutdownEvent
      | .payload => some .sctpMsgArrivedEvent
    else (ric.pendEvent fd).map .pendingEvent

/-! ## Forwarding a request

`fwd_ric_subscription_request` and `fwd_ric_control_request` take the id, arm a timer, register it
and send the request; `fwd_ric_subscription_request_delete` does the same with the id it is
given. -/

/-- `ric->req_id++`, truncated to the `uint16_t` it is assigned to. -/
def nextReqId (ric : NearRic) : UInt16 × NearRic :=
  (ric.reqId.toUInt16, { ric with reqId := ric.reqId + 1 })

/-- The insertion in `pending`, under `pend_mtx`. -/
def insertPending (ric : NearRic) (fd : Fd) (ev : PendingEventRic) : NearRic :=
  { ric with pending := ric.pending.insert cmpFd cmpPendingEventRic fd ev }

/-- `find_map_e2_node_sad`: the address that `e2ap_send_bytes_ric` sends to. -/
def findMapE2NodeSad (ric : NearRic) (id : GlobalE2NodeId) : Option SctpInfo :=
  (ric.e2Nodes.left.findIf (eqGlobalE2NodeId id)).map Prod.snd

/-! ## Messages from the E2 nodes -/

/-- `stop_pending_event`. -/
def stopPendingEvent (ric : NearRic) (ev : PendingEventRic) : Option NearRic :=
  (ric.pending.extractRight cmpFd cmpPendingEventRic ev).bind fun (fd, pending) =>
    if 0 < fd then { ric with pending := pending }.rmFdAsioRic fd else none

/-- `e2ap_handle_subscription_response_ric`, up to the notification of the iApp. -/
def e2apHandleSubscriptionResponseRic (ric : NearRic) (resp : RicSubscriptionResponse) :
    Option NearRic :=
  (ric.stopPendingEvent ⟨.subscriptionRequest, resp.ricId⟩).bind fun ric =>
    if resp.lenNa = 0 ∧ resp.admitted = [0] then some ric else none

/-- `e2ap_handle_subscription_delete_response_ric`, up to the notification of the iApp. -/
def e2apHandleSubscriptionDeleteResponseRic (ric : NearRic)
    (resp : RicSubscriptionDeleteResponse) : Option NearRic :=
  ric.stopPendingEvent ⟨.subscriptionDeleteRequest, resp.ricId⟩

/-- `e2ap_handle_control_ack_ric`, up to the notification of the iApp. -/
def e2apHandleControlAckRic (ric : NearRic) (ack : RicControlAcknowledge) : Option NearRic :=
  if ack.status = .success then ric.stopPendingEvent ⟨.controlRequest, ack.ricId⟩ else none

/-- `e2ap_handle_indication_ric` with `publish_ind_msg`, up to the notification of the iApp. -/
def e2apHandleIndicationRic (ric : NearRic) (ind : RicIndication) : Option NearRic :=
  (smPluginRic ric.plugin ind.ricId.ranFuncId).bind fun sm =>
    if sm.onIndication ind ≠ .tcStatsV0 ∧ ind.ricId.ranFuncId ∈ ric.pubSub then some ric else none

/-- `e2ap_msg_handle_ric` on the messages that are then handed over to the iApp. -/
def e2apMsgHandleRic (ric : NearRic) : E2Answer → Option NearRic
  | .subscriptionResponse m => ric.e2apHandleSubscriptionResponseRic m
  | .subscriptionDeleteResponse m => ric.e2apHandleSubscriptionDeleteResponseRic m
  | .controlAcknowledge m => ric.e2apHandleControlAckRic m
  | .indication m => ric.e2apHandleIndicationRic m

/-- `generate_setup_response`: it asserts that every RAN function is known to the RIC and has a
short definition. -/
def generateSetupResponse (ric : NearRic) (req : E2SetupRequest) : Option E2SetupResponse :=
  if req.ranFuncItem.all fun rf =>
      ric.plugin.any (fun sm => sm.ranFuncId = rf.id) && rf.definition.length < 127 then
    some ⟨req.id.plmn, 25, req.ranFuncItem.map RanFunction.id⟩
  else none

/-- `e2ap_reg_sock_addr_ric`. -/
def e2apRegSockAddrRic (ric : NearRic) (id : GlobalE2NodeId) (info : SctpInfo) : NearRic :=
  { ric with e2Nodes := ric.e2Nodes.insert cmpGlobalE2NodeId cmpSctpInfo id info }

/-- `e2ap_handle_setup_request_ric`. It dereferences the `cu_du_id` of a node that is not
monolithic, and `add_e2_node_iapp_api` adds the node to the iApp's registry `nodes`. -/
def e2apHandleSetupRequestRic (ric : NearRic) (nodes : RegE2Nodes) (req : E2SetupRequest) :
    Option (E2SetupResponse × NearRic × RegE2Nodes) :=
  if !req.id.type.isMonolithic && req.id.cuDuId.isNone then none
  else (nodes.add req.id req.ranFuncItem).bind fun nodes =>
    (ric.generateSetupResponse req).map fun resp =>
      (resp, { ric with connE2Nodes := ric.connE2Nodes ++ [⟨req.id, resp.accepted⟩] }, nodes)

/-- `notification_handle_ric` on a shutdown of the association with the peer `info`: its E2 node is
taken out of the map, out of `conn_e2_nodes` and, by `rm_e2_node_iapp_api`, out of the iApp's
registry `nodes`. -/
def notificationHandleRic (ric : NearRic) (nodes : RegE2Nodes) (info : SctpInfo) :
    Option (NearRic × RegE2Nodes) :=
  (ric.e2Nodes.extractRight cmpGlobalE2NodeId cmpSctpInfo info).bind fun (id, e2Nodes) =>
    if ric.connE2Nodes.any fun n => eqGlobalE2NodeId n.id id then
      (nodes.rm id).map fun nodes =>
        ({ ric with
            e2Nodes := e2Nodes
            connE2Nodes := ric.connE2Nodes.eraseP fun n => eqGlobalE2NodeId n.id id }, nodes)
    else none

/-! ## What the handlers do to the pending timers -/

variable {ric ric' : NearRic} {fd : Fd} {ev : PendingEventRic} {ans : E2Answer}

theorem rmFdAsioRic_eq_some : ric.rmFdAsioRic fd = some ric' ↔
    fd ∈ ric.io ∧ ric' = { ric with io := ric.io.erase fd } := by
  rw [rmFdAsioRic, Option.ite_none_right_eq_some, Option.some_inj, eq_comm]

theorem createTimer_eq_some : ric.createTimerMsAsioRic fd = some ric' ↔
    (0 < fd ∧ fd ∉ ric.io) ∧ ric' = { ric with io := fd :: ric.io } := by
  rw [createTimerMsAsioRic, Option.ite_none_right_eq_some, Option.some_inj, eq_comm]

theorem stopPendingEvent_eq_some (h : ric.stopPendingEvent ev = some ric') :
    ∃ fd pending, ric.pending.extractRight cmpFd cmpPendingEventRic ev = some (fd, pending) ∧
      0 < fd ∧ fd ∈ ric.io ∧ ric' = { ric with pending := pending, io := ric.io.erase fd } := by
  obtain ⟨⟨fd, pending⟩, hext, h⟩ := Option.bind_eq_some_iff.1 h
  obtain ⟨hfd, h⟩ := Option.ite_none_right_eq_some.1 h
  obtain ⟨hmem, rfl⟩ := rmFdAsioRic_eq_some.1 h
  exact ⟨fd, pending, hext, hfd, hmem, rfl⟩

/-- The near-RIC knows the RAN functions, and their definitions are short. -/
def Supports (ric : NearRic) (ranFunc : List RanFunction) : Prop :=
  ∀ rf ∈ ranFunc, (∃ sm ∈ ric.plugin, sm.ranFuncId = rf.id) ∧ rf.definition.length < 127

theorem generateSetupResponse_eq_some {req : E2SetupRequest} {resp : E2SetupResponse} :
    ric.generateSetupResponse req = some resp ↔
      ric.Supports req.ranFuncItem ∧
        resp = ⟨req.id.plmn, 25, req.ranFuncItem.map RanFunction.id⟩ := by
  rw [generateSetupResponse, Option.ite_none_right_eq_some, Option.some_inj, List.all_eq_true,
    eq_comm]
  simp only [Bool.and_eq_true, List.any_eq_true, decide_eq_true_eq]
  rfl

/-- An E2 node is set up exactly if it is new and the near-RIC supports it. -/
theorem e2apHandleSetupRequestRic_eq_some {nodes nodes' : RegE2Nodes} {req : E2SetupRequest}
    {resp : E2SetupResponse} (hid : req.id.type.isMonolithic = false → req.id.cuDuId.isSome) :
    ric.e2apHandleSetupRequestRic nodes req = some (resp, ric', nodes') ↔
      nodes.add req.id req.ranFuncItem = some nodes' ∧ ric.Supports req.ranFuncItem ∧
        resp = ⟨req.id.plmn, 25, req.ranFuncItem.map RanFunction.id⟩ ∧
        ric' = { ric with connE2Nodes := ric.connE2Nodes ++ [⟨req.id, resp.accepted⟩] } := by
  have hcuDu : ¬(!req.id.type.isMonolithic && req.id.cuDuId.isNone) = true := by
    cases hmono : req.id.type.isMonolithic with
    | true => simp
    | false =>
      obtain ⟨cuDu, hcuDu⟩ := Option.isSome_iff_exists.1 (hid hmono)
      simp [hcuDu]
  rw [e2apHandleSetupRequestRic, if_neg hcuDu, Option.bind_eq_some_iff]
  constructor
  · rintro ⟨n, hadd, h⟩
    obtain ⟨r, hgen, heq⟩ := Option.map_eq_some_iff.1 h
    cases heq
    obtain ⟨hsup, rfl⟩ := generateSetupResponse_eq_some.1 hgen
    exact ⟨hadd, hsup, rfl, rfl⟩
  · rintro ⟨hadd, hsup, rfl, rfl⟩
    refine ⟨nodes', hadd, ?_⟩
    rw [generateSetupResponse_eq_some.2 ⟨hsup, rfl⟩, Option.map_some]

/-- A message that is handed over to the iApp stops its pending event, if it has one, and changes
nothing else. -/
theorem e2apMsgHandleRic_eq_some (h : ric.e2apMsgHandleRic ans = some ric') :
    match ans.pendingEvent with
    | some ev => ric.stopPendingEvent ev = some ric'
    | none => ric' = ric := by
  cases ans with
  | subscriptionResponse m =>
    obtain ⟨r, hr, h⟩ := Option.bind_eq_some_iff.1 h
    obtain ⟨-, heq⟩ := Option.ite_none_right_eq_some.1 h
    cases heq
    exact hr
  | subscriptionDeleteResponse m => exact h
  | controlAcknowledge m =>
    exact (Option.ite_none_right_eq_some.1 h).2
  | indication m =>
    obtain ⟨sm, -, h⟩ := Option.bind_eq_some_iff.1 h
    obtain ⟨-, heq⟩ := Option.ite_none_right_eq_some.1 h
    cases heq
    rfl

end NearRic

end FlexRic
