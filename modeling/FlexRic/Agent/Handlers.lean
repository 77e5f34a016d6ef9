import FlexRic.Agent.Subscriptions
import FlexRic.E2ap.Messages

/-!
# The messages of the E2 agent (`agent/msg_handler_agent.c`, `agent/e2_agent.c`)

What arrives at the agent from the near-RIC, with all that the near-RIC puts into it, and what the
agent sends back. To the event loop of the subscriptions this adds the control requests, which the
agent answers at once and which leave it as it was.
-/

namespace FlexRic

/-- A message of the near-RIC to an E2 node. -/
inductive E2RicMsg : Type where
  | setupResponse (resp : E2SetupResponse)
  | subscriptionRequest (sr : Ap.RicSubscriptionRequest)
  | subscriptionDeleteRequest (id : RicGenId)
  | controlRequest (cr : Ap.RicControlRequest)
  deriving DecidableEq, Repr

/-- A message of an E2 node to the near-RIC. -/
inductive E2NodeMsg : Type where
  | setupRequest (req : E2SetupRequest)
  | answer (ans : E2Answer)
  deriving DecidableEq, Repr

/-- What the agent sends, as a message of its E2 node. -/
def AgentMsg.toNodeMsg : AgentMsg → E2NodeMsg
  | setupRequest req => .setupRequest req
  | subscriptionResponse resp => .answer (.subscriptionResponse resp)
  | subscriptionDeleteResponse resp => .answer (.subscriptionDeleteResponse resp)
  | indication ind => .answer (.indication ind)

/-- What the handler reads of the type of an action. -/
def Ap.RicActionType.read : Ap.RicActionType → FlexRic.RicActionType
  | report => .report
  | insert => .insert
  | policy => .policy

/-- What the handler reads of an action. -/
def Ap.RicAction.read (a : Ap.RicAction) : RicActionItem := ⟨a.id, a.type.read, a.definition⟩

/-- What the handler reads of a subscription request. -/
def Ap.RicSubscriptionRequest.read (sr : Ap.RicSubscriptionRequest) :
    FlexRic.RicSubscriptionRequest :=
  ⟨sr.ricId, sr.eventTrigger, sr.action.map Ap.RicAction.read⟩

@[simp] theorem Ap.RicSubscriptionRequest.read_ricId (sr : Ap.RicSubscriptionRequest) :
    sr.read.ricId = sr.ricId := rfl

/-- `sm_ctrl_req_data_t`. -/
structure SmCtrlReqData : Type where
  ctrlHdr : List UInt8
  ctrlMsg : List UInt8
  deriving DecidableEq, Repr

/-- `ba_from_ctrl_out`. -/
def baFromCtrlOut (ctrlOut : List UInt8) : Option (List UInt8) :=
  if 0 < ctrlOut.length then some ctrlOut else none

namespace E2Agent

/-- `e2ap_handle_control_request_agent` with the service models `sms`. The answer of the service
model's `on_control` to its data is `onControl`, where `none` is an assertion of it that fails. -/
def e2apHandleControlRequestAgent (sms : List SmAgent)
    (onControl : SmCtrlReqData → Option (List UInt8)) (ctrlReq : Ap.RicControlRequest) :
    Option Ap.RicControlAcknowledge :=
  if ctrlReq.ackReq = some .ack then
    (smPluginAg sms ctrlReq.ricId.ranFuncId).bind fun _ =>
      (onControl ⟨ctrlReq.hdr, ctrlReq.msg⟩).map fun ctrlOut =>
        ⟨ctrlReq.ricId, none, .success, baFromCtrlOut ctrlOut⟩
  else none

end E2Agent

namespace AgentState

/-- `e2ap_msg_handle_agent` on a message of the near-RIC, and what the event loop sends then. The
kernel has the descriptor `fd` for a new timer, and `onControl` is how the service model that is
asked would act on a control request. -/
def receive (sms : List SmAgent) (s : AgentState) (fd : Fd)
    (onControl : SmCtrlReqData → Option (List UInt8)) :
    E2RicMsg → Option (Option E2NodeMsg × AgentState)
  | .setupResponse resp =>
    (s.turn sms (.setupResponse resp)).map fun p => (p.1.map AgentMsg.toNodeMsg, p.2)
  | .subscriptionRequest sr =>
    (s.turn sms (.subscriptionRequest sr.read fd)).map fun p => (p.1.map AgentMsg.toNodeMsg, p.2)
  | .subscriptionDeleteRequest id =>
    (s.turn sms (.subscriptionDeleteRequest id)).map fun p => (p.1.map AgentMsg.toNodeMsg, p.2)
  | .controlRequest cr =>
    (E2Agent.e2apHandleControlRequestAgent sms onControl cr).map fun ack =>
      (some (.answer (.controlAcknowledge ⟨ack.ricId, ack.status⟩)), s)

/-- `e2_start_agent` up to the event loop, with the setup request that is sent. -/
def startUp (epFd : Fd) (sms : List SmAgent) (ge2nid : GlobalE2NodeId) (fd : Fd) :
    Option (E2SetupRequest × AgentState) :=
  ((E2Agent.init epFd (sms.map SmAgent.ranFunction) ge2nid).e2StartAgent fd).map fun (req, ag) =>
    (req, ⟨ag, [(fd, 3000)], []⟩)

/-- What an agent does with a message that it handles. -/
inductive Handles (sms : List SmAgent) (s : AgentState) (fd : Fd) :
    E2RicMsg → Option E2NodeMsg → AgentState → Prop
  | setupResponse {resp : E2SetupResponse} {t : AgentState} (hlive : t.live = s.live) :
      Handles sms s fd (.setupResponse resp) none t
  | subscriptionRequest {sr : Ap.RicSubscriptionRequest} {action : Ap.RicAction} {ms : UInt32}
      {t : AgentState} (haction : sr.action = [action]) (htype : action.type = .report)
      (hlive : t.live = ⟨fd, sr.read, ms⟩ :: s.live) :
      Handles sms s fd (.subscriptionRequest sr)
        (some (.answer (.subscriptionResponse ⟨sr.ricId, [action.id], 0⟩))) t
  | subscriptionDeleteRequest {id : RicGenId} {t : AgentState} (hmem : id ∈ s.liveIds)
      (hlive : t.live = s.live.filter fun l => l.request.ricId ≠ id) :
      Handles sms s fd (.subscriptionDeleteRequest id)
        (some (.answer (.subscriptionDeleteResponse ⟨id⟩))) t
  | controlRequest {cr : Ap.RicControlRequest} (hack : cr.ackReq = some .ack) :
      Handles sms s fd (.controlRequest cr)
        (some (.answer (.controlAcknowledge ⟨cr.ricId, .success⟩))) s

section Receive

variable {sms : List SmAgent} {s s₀ t : AgentState} {fd : Fd}
  {onControl : SmCtrlReqData → Option (List UInt8)} {msg : E2RicMsg} {ans : Option E2NodeMsg}

/-- What the environment of the agent owes it when a message arrives: a subscription request has
none of the live ids, and the descriptor is new. -/
def Receivable (s : AgentState) (fd : Fd) (msg : E2RicMsg) : Prop :=
  0 < fd ∧ fd ∉ s.ag.io ∧ ∀ sr, msg = .subscriptionRequest sr → sr.ricId ∉ s.liveIds

/-- A message that is handled is a turn of the event loop, or the agent stays as it was. -/
theorem turn_of_receive (he : s.Receivable fd msg)
    (h : s.receive sms fd onControl msg = some (ans, t)) :
    t = s ∨ ∃ a, s.enabled a ∧ (eventLoop sms s₀).step s a = some t := by
  cases msg with
  | setupResponse resp =>
    obtain ⟨⟨m, t'⟩, hturn, heq⟩ := Option.map_eq_some_iff.1 h
    cases heq
    exact .inr ⟨.setupResponse resp, trivial, Option.map_eq_some_iff.2 ⟨_, hturn, rfl⟩⟩
  | subscriptionRequest sr =>
    obtain ⟨⟨m, t'⟩, hturn, heq⟩ := Option.map_eq_some_iff.1 h
    cases heq
    exact .inr ⟨.subscriptionRequest sr.read fd, ⟨he.2.2 sr rfl, he.1, he.2.1⟩,
      Option.map_eq_some_iff.2 ⟨_, hturn, rfl⟩⟩
  | subscriptionDeleteRequest id =>
    obtain ⟨⟨m, t'⟩, hturn, heq⟩ := Option.map_eq_some_iff.1 h
    cases heq
    exact .inr ⟨.subscriptionDeleteRequest id, trivial, Option.map_eq_some_iff.2 ⟨_, hturn, rfl⟩⟩
  | controlRequest cr =>
    obtain ⟨ack, -, heq⟩ := Option.map_eq_some_iff.1 h
    cases heq
    exact .inl rfl

/-- The inversion of `receive`. -/
theorem SubsInv.handles (hinv : s.SubsInv sms) (he : s.Receivable fd msg)
    (h : s.receive sms fd onControl msg = some (ans, t)) :
    t.SubsInv sms ∧ s.Handles sms fd msg ans t := by
  cases msg with
  | setupResponse resp =>
    obtain ⟨⟨m, t'⟩, hturn, heq⟩ := Option.map_eq_some_iff.1 h
    obtain ⟨hinv', rfl, hlive⟩ := hinv.setupResponse hturn
    cases heq
    exact ⟨hinv', .setupResponse hlive⟩
  | subscriptionRequest sr =>
    obtain ⟨⟨m, t'⟩, hturn, heq⟩ := Option.map_eq_some_iff.1 h
    obtain ⟨hinv', -, -⟩ := hinv.subscriptionRequest (he.2.2 sr rfl) hturn
    obtain ⟨⟨resp, ev, ms, ag'⟩, hsub, heq'⟩ := Option.map_eq_some_iff.1 hturn
    cases heq'
    cases heq
    obtain ⟨⟨item, -, hitem, htype, -, -, -, rfl⟩, -⟩ :=
      E2Agent.e2apHandleSubscriptionRequestAgent_eq_some hsub
    obtain ⟨action, haction, rfl⟩ := List.map_eq_singleton_iff.1 hitem
    have htype' : action.type = .report := by
      change action.type.read = .report at htype
      cases hact : action.type <;> rw [hact] at htype <;> first | rfl | cases htype
    exact ⟨hinv', .subscriptionRequest haction htype' rfl⟩
  | subscriptionDeleteRequest id =>
    obtain ⟨⟨m, t'⟩, hturn, heq⟩ := Option.map_eq_some_iff.1 h
    obtain ⟨hinv', rfl, hlive⟩ := hinv.subscriptionDeleteRequest hturn
    cases heq
    have hstep : (eventLoop sms s).step s (.subscriptionDeleteRequest id) ≠ none := by
      rw [show (eventLoop sms s).step s (.subscriptionDeleteRequest id) =
        (s.turn sms (.subscriptionDeleteRequest id)).map Prod.snd from rfl, hturn]
      exact Option.some_ne_none _
    exact ⟨hinv', .subscriptionDeleteRequest ((hinv.delete_iff id).1 hstep) hlive⟩
  | controlRequest cr =>
    obtain ⟨ack, hack, heq⟩ := Option.map_eq_some_iff.1 h
    obtain ⟨hreq, hack⟩ := Option.ite_none_right_eq_some.1 hack
    obtain ⟨sm, -, hack⟩ := Option.bind_eq_some_iff.1 hack
    obtain ⟨out, -, rfl⟩ := Option.map_eq_some_iff.1 hack
    cases heq
    exact ⟨hinv, .controlRequest hreq⟩

/-- The agent stays that of its E2 node, and what it waits for changes with a setup response
only. -/
theorem SubsInv.frame_of_receive (hinv : s.SubsInv sms)
    (h : s.receive sms fd onControl msg = some (ans, t)) :
    t.ag.globalE2NodeId = s.ag.globalE2NodeId ∧
      ((∀ resp, msg ≠ .setupResponse resp) → t.ag.pending = s.ag.pending) := by
  cases msg with
  | setupResponse resp =>
    obtain ⟨⟨m, t'⟩, hturn, heq⟩ := Option.map_eq_some_iff.1 h
    cases heq
    obtain ⟨ag', hresp, heq⟩ := Option.map_eq_some_iff.1 hturn
    cases heq
    obtain ⟨⟨fd', pending⟩, -, hrm⟩ := Option.bind_eq_some_iff.1 hresp
    obtain ⟨-, hrm⟩ := Option.ite_none_right_eq_some.1 hrm
    obtain ⟨-, rfl⟩ := E2Agent.rmFdAsioAgent_eq_some.1 hrm
    exact ⟨rfl, fun hne => absurd rfl (hne resp)⟩
  | subscriptionRequest sr =>
    obtain ⟨⟨m, t'⟩, hturn, heq⟩ := Option.map_eq_some_iff.1 h
    cases heq
    obtain ⟨⟨resp, ev, ms, ag'⟩, hsub, heq⟩ := Option.map_eq_some_iff.1 hturn
    cases heq
    obtain ⟨-, -, rfl⟩ := E2Agent.e2apHandleSubscriptionRequestAgent_eq_some hsub
    exact ⟨rfl, fun _ => rfl⟩
  | subscriptionDeleteRequest id =>
    obtain ⟨⟨m, t'⟩, hturn, heq⟩ := Option.map_eq_some_iff.1 h
    cases heq
    obtain ⟨⟨resp, ag'⟩, hdel, heq⟩ := Option.map_eq_some_iff.1 hturn
    cases heq
    obtain ⟨ag'', hstop, heq⟩ := Option.map_eq_some_iff.1 hdel
    cases heq
    obtain ⟨l, -, -, indEvent, rfl, -⟩ := hinv.stopIndEvent_spec hstop
    exact ⟨rfl, fun _ => rfl⟩
  | controlRequest cr =>
    obtain ⟨ack, -, heq⟩ := Option.map_eq_some_iff.1 h
    cases heq
    exact ⟨rfl, fun _ => rfl⟩

/-- What a timer makes the agent send: its setup request, or the indication of a live
subscription. -/
theorem SubsInv.timerExpiry_cases (hinv : s.SubsInv sms) {data : SmIndData} {m : Option AgentMsg}
    (he : s.enabled (.timerExpiry fd data))
    (h : s.turn sms (.timerExpiry fd data) = some (m, t)) :
    t = s ∧ ((∃ req, m = some (.setupRequest req) ∧ req.id = s.ag.globalE2NodeId) ∨
      ∃ l ∈ s.live, m = some (.indication (generateIndication data l.event))) := by
  obtain ⟨ms, hfd, -⟩ := he
  rcases hinv.owner hfd with hpend | ⟨l, hl, rfl, rfl⟩
  · obtain ⟨hind, hpend⟩ := hinv.pendEvent_eq hpend
    obtain ⟨req, hreq⟩ := hinv.request
    have hmsg : s.ag.sendAfterTimeout fd data = some (.setupRequest req) := by
      rw [E2Agent.sendAfterTimeout, E2Agent.nextAsyncEventAgent, hind, hpend]
      simp only [Option.map_some, Option.bind_some, if_true, hreq]
    rw [turn, hmsg] at h
    cases h
    exact ⟨rfl, .inl ⟨req, rfl, by rw [(E2Agent.sendSetupRequest_eq_some hreq).1]⟩⟩
  · rw [turn, hinv.sendAfterTimeout_live hl] at h
    cases h
    exact ⟨rfl, .inr ⟨l, hl, rfl⟩⟩

/-- The agent of an E2 node starts with the id of that node, which its setup request has. -/
theorem start_of_startUp {epFd fd₀ : Fd} {ge2nid : GlobalE2NodeId} {req : E2SetupRequest}
    (h : startUp epFd sms ge2nid fd₀ = some (req, s)) :
    start epFd sms ge2nid fd₀ = some s ∧ s.ag.globalE2NodeId = ge2nid ∧ req.id = ge2nid := by
  obtain ⟨⟨req', ag⟩, hstart, heq⟩ := Option.map_eq_some_iff.1 h
  cases heq
  obtain ⟨-, hreq, -, hid⟩ := E2Agent.waitsForSetup_of_start hstart
  refine ⟨Option.map_eq_some_iff.2 ⟨_, hstart, rfl⟩, hid, ?_⟩
  rw [(E2Agent.sendSetupRequest_eq_some hreq).1, hid]

end Receive

end AgentState

end FlexRic
