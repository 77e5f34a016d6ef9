import FlexRic.AlgDs.Bimap
import FlexRic.E2ap.Types

/-!
# The E2 agent (`agent/e2_agent.c`, `agent/msg_handler_agent.c`, `agent/asio_agent.c`)

The part of the agent that sets up the connection to the near-RIC: it sends its E2 setup request,
arms a timer, and goes into its event loop, where the timer makes it send the request again and a
response stops the timer. All of it runs in one thread.

`none` is a failing assertion. Decoding is left out, and so is what the encoder does but for its
assertions on the E2 node.
-/

namespace FlexRic

/-- `ind_event_t`, without the service model. -/
structure IndEvent : Type where
  ricId : RicGenId
  actionId : UInt8
  deriving DecidableEq, Repr

/-- `e2_agent_t`. -/
structure E2Agent : Type where
  /-- the socket, `ep.base.fd` -/
  epFd : Fd
  /-- the descriptors in the epoll instance of `io` -/
  io : List Fd
  /-- the RAN functions of `plugin`, as they go into the setup request -/
  plugin : List RanFunction
  /-- left key: the timer, right key: the subscription whose indications it makes -/
  indEvent : BiMap Fd IndEvent
  /-- left key: the timer, right key: the event it waits for -/
  pending : BiMap Fd PendingEvent
  globalE2NodeId : GlobalE2NodeId

namespace E2Agent

/-- `e2_init_agent`. -/
def init (epFd : Fd) (plugin : List RanFunction) (ge2nid : GlobalE2NodeId) : E2Agent where
  epFd := epFd
  io := [epFd]
  plugin := plugin
  indEvent := .init
  pending := .init
  globalE2NodeId := ge2nid

/-! ## Descriptors and timers -/

/-- `create_timer_ms_asio_agent`: the kernel has answered with the descriptor `fd`, which is added
to the epoll instance. -/
def createTimerMsAsioAgent (ag : E2Agent) (fd : Fd) : Option E2Agent :=
  if 0 < fd ∧ fd ∉ ag.io then some { ag with io := fd :: ag.io } else none

/-- `rm_fd_asio_agent`. -/
def rmFdAsioAgent (ag : E2Agent) (fd : Fd) : Option E2Agent :=
  if fd ∈ ag.io then some { ag with io := ag.io.erase fd } else none

/-- `ind_event`: the subscription that the timer `fd` makes an indication for. -/
def indEventFd (ag : E2Agent) (fd : Fd) : Option IndEvent :=
  (ag.indEvent.left.findIf fun fd' => fd = fd').map Prod.snd

/-- `pend_event`: the event that the timer `fd` waits for. -/
def pendEvent (ag : E2Agent) (fd : Fd) : Option PendingEvent :=
  if 0 < fd ∧ ag.pending.size = some 1 then
    (ag.pending.left.findIf fun fd' => fd = fd').map Prod.snd
  else none

/-- `async_event_t` when a timer has fired. -/
inductive AsyncEvent : Type where
  | indicationEvent (ev : IndEvent)
  | pendingEvent (ev : PendingEvent)
  deriving DecidableEq, Repr

/-- `next_async_event_agent` when `event_asio_agent` answers with the timer `fd`. -/
def nextAsyncEventAgent (ag : E2Agent) (fd : Fd) : Option AsyncEvent :=
  match ag.indEventFd fd with
  | some ev => some (.indicationEvent ev)
  | none => (ag.pendEvent fd).map .pendingEvent

/-! ## The setup -/

/-- `generate_setup_request`. -/
def generateSetupRequest (ag : E2Agent) : Option E2SetupRequest :=
  if 0 < ag.plugin.length then some ⟨ag.globalE2NodeId, ag.plugin⟩ else none

/-- What `e2ap_enc_setup_request_asn_pdu` asserts about the E2 node. It dereferences the `cu_du_id`
of a CU and of a DU. -/
def encodableE2SetupRequest (req : E2SetupRequest) : Bool :=
  match req.id.type with
  | .gNB | .eNB => true
  | .gNBCU | .gNBDU => req.id.cuDuId.isSome
  | _ => false

/-- The setup request as it is sent. -/
def sendSetupRequest (ag : E2Agent) : Option E2SetupRequest :=
  ag.generateSetupRequest.filter encodableE2SetupRequest

/-- `e2_start_agent` up to the event loop: the request is sent, and the timer `fd` created and
registered. -/
def e2StartAgent (ag : E2Agent) (fd : Fd) : Option (E2SetupRequest × E2Agent) :=
  ag.sendSetupRequest.bind fun req =>
    (ag.createTimerMsAsioAgent fd).map fun ag =>
      (req, { ag with pending := ag.pending.insert cmpFd cmpPendingEvent fd .setupRequest })

/-- The event loop when the timer `fd` of a pending event fires: the setup request is sent again. -/
def resendAfterTimeout (ag : E2Agent) (fd : Fd) : Option E2SetupRequest :=
  (ag.nextAsyncEventAgent fd).bind fun e =>
    if e = .pendingEvent .setupRequest then ag.sendSetupRequest else none

/-- `stop_pending_event`. -/
def stopPendingEvent (ag : E2Agent) (event : PendingEvent) : Option E2Agent :=
  (ag.pending.extractRight cmpFd cmpPendingEvent event).bind fun (fd, pending) =>
    if 0 < fd then { ag with pending := pending }.rmFdAsioAgent fd else none

/-- `e2ap_handle_setup_response_agent`, which reads nothing of the response. -/
def e2apHandleSetupResponseAgent (ag : E2Agent) (_ : E2SetupResponse) : Option E2Agent :=
  ag.stopPendingEvent .setupRequest

/-! ## The setup timer -/

/-- What holds of an agent whose setup timer is `fd`. -/
structure WaitsForSetup (ag : E2Agent) (fd : Fd) : Prop where
  /-- the setup request can be sent -/
  request : ∃ req, ag.sendSetupRequest = some req
  /-- the timer is the only one -/
  io : ag.io = [fd, ag.epFd]
  /-- it is a descriptor -/
  pos : 0 < fd
  /-- there are no indications yet -/
  indEvent : ag.indEvent.left.toList = []
  /-- it waits for the setup response, and nothing else is waited for -/
  map : ag.pending.WF cmpFd cmpPendingEvent
  pending : ag.pending.toList = [(fd, .setupRequest)]

variable {ag ag' : E2Agent} {fd epFd : Fd} {plugin : List RanFunction} {id : GlobalE2NodeId}
  {req : E2SetupRequest} {resp : E2SetupResponse}

theorem sendSetupRequest_eq_some (h : ag.sendSetupRequest = some req) :
    req = ⟨ag.globalE2NodeId, ag.plugin⟩ ∧ ag.plugin ≠ [] ∧
      (req.id.type.isMonolithic = false → req.id.cuDuId.isSome) := by
  obtain ⟨hgen, henc⟩ := Option.filter_eq_some_iff.1 h
  obtain ⟨hlen, heq⟩ := Option.ite_none_right_eq_some.1 hgen
  cases heq
  refine ⟨rfl, List.ne_nil_of_length_pos hlen, fun hmono => ?_⟩
  rw [encodableE2SetupRequest] at henc
  split at henc
  · next htype =>
    rw [htype] at hmono
    cases hmono
  · next htype =>
    rw [htype] at hmono
    cases hmono
  · exact henc
  · exact henc
  · cases henc

/-- The agent that goes into the event loop waits for the setup response. -/
theorem waitsForSetup_of_start (h : (init epFd plugin id).e2StartAgent fd = some (req, ag)) :
    ag.WaitsForSetup fd ∧ ag.sendSetupRequest = some req ∧ ag.plugin = plugin ∧
      ag.globalE2NodeId = id := by
  obtain ⟨req', hreq, h⟩ := Option.bind_eq_some_iff.1 h
  obtain ⟨ag', htimer, heq⟩ := Option.map_eq_some_iff.1 h
  cases heq
  obtain ⟨hfd, heq⟩ := Option.ite_none_right_eq_some.1 htimer
  cases heq
  refine ⟨⟨⟨req, hreq⟩, rfl, hfd.1, rfl, BiMap.wf_init.insert fd _, ?_⟩, hreq, rfl, rfl⟩
  exact List.perm_singleton.1 (BiMap.perm_insert _ _ _ _ _)

/-- A timer that can fire is the setup timer, and makes the agent send its request again. -/
theorem WaitsForSetup.resend (h : ag.WaitsForSetup fd) {t : Fd} (hmem : t ∈ ag.io)
    (hne : t ≠ ag.epFd) : ag.resendAfterTimeout t ≠ none := by
  obtain ⟨req, hreq⟩ := h.request
  have ht : t = fd := by
    rw [h.io] at hmem
    rcases List.mem_cons.1 hmem with ht | ht
    · exact ht
    · exact absurd (List.mem_singleton.1 ht) hne
  have hind : ag.indEventFd fd = none := by
    rw [indEventFd, AssocRbTree.findIf, h.indEvent]
    rfl
  have hpend : ag.pendEvent fd = some .setupRequest := by
    have hleft : ag.pending.left.toList = [(fd, .setupRequest)] := h.pending
    have hsize : ag.pending.size = some 1 := by
      rw [h.map.size_eq, h.pending]
      rfl
    rw [pendEvent, if_pos ⟨h.pos, hsize⟩, AssocRbTree.findIf, hleft]
    simp
  have hresend : ag.resendAfterTimeout t = ag.sendSetupRequest := by
    rw [ht, resendAfterTimeout, nextAsyncEventAgent, hind, hpend]
    rfl
  rw [hresend, hreq]
  exact Option.some_ne_none req

/-- A setup response stops the timer, and the next one fails an assertion. -/
theorem WaitsForSetup.setupResponse (h : ag.WaitsForSetup fd) :
    ∃ ag', (∀ resp, ag.e2apHandleSetupResponseAgent resp = some ag') ∧ ag'.io = [ag.epFd] ∧
      ag'.epFd = ag.epFd ∧ ag'.pending.toList = [] ∧
      ∀ resp, ag'.e2apHandleSetupResponseAgent resp = none := by
  obtain ⟨pending, hext, hwf, hnil⟩ := h.map.extractRight_singleton h.pending
  refine ⟨{ ag with pending := pending, io := ag.io.erase fd }, fun resp => ?_, ?_, rfl, hnil,
    fun resp => ?_⟩
  · rw [e2apHandleSetupResponseAgent, stopPendingEvent, hext]
    have hmem : fd ∈ ag.io := by
      rw [h.io]
      exact List.mem_cons_self
    simp only [Option.bind_some, if_pos h.pos, rmFdAsioAgent, if_pos hmem]
  · simp only [h.io, List.erase_cons_head]
  · rw [e2apHandleSetupResponseAgent, stopPendingEvent, hwf.extractRight_eq_none hnil,
      Option.bind_none]

end E2Agent

end FlexRic
