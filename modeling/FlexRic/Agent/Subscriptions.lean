import FlexRic.Agent.E2Agent
import FlexRic.Semantics.Layout
import FlexRic.Semantics.System

/-!
# The subscriptions of the E2 agent (`agent/msg_handler_agent.c`, `agent/e2_agent.c`)

A subscription request makes the agent ask the service model for a period, create a periodic timer
and register the pair of both in `ind_event`. Each expiration sends one indication, and the delete
request closes the timer that `ind_event` has for its id. The comparator of `ind_event` reads the
id of the request only, and so does the delete request, which has no action id.

The agent is followed together with the timers that the kernel keeps for it. A timer that was set
to a period of 0 is disarmed, as `timerfd_settime` has it.
-/

namespace FlexRic

/-! ## The service models and the messages -/

/-- `sm_subs_data_t`: the event trigger, and the action definition if there is one. -/
structure SmSubsData : Type where
  eventTrigger : List UInt8
  actionDef : Option (List UInt8)
  deriving DecidableEq, Repr

/-- `sm_agent_t`. -/
structure SmAgent : Type where
  /-- `ran_func_id`, and what `on_e2_setup` answers -/
  ranFunction : RanFunction
  /-- `on_subscription`: the period in milliseconds, `none` if the decoder fails -/
  onSubscription : SmSubsData → Option UInt32

/-- `sm_ind_data_t`: what `on_indication` has read from the RAN. -/
structure SmIndData : Type where
  indHdr : List UInt8
  indMsg : List UInt8
  callProcessId : Option (List UInt8)
  deriving DecidableEq, Repr

/-- `ric_action_type_t`. -/
inductive RicActionType : Type where
  | report
  | insert
  | policy
  deriving DecidableEq, Repr

/-- `ric_action_t`, without the subsequent action. -/
structure RicActionItem : Type where
  id : UInt8
  type : RicActionType
  definition : Option (List UInt8)
  deriving DecidableEq, Repr

/-- `ric_subscription_request_t`. -/
structure RicSubscriptionRequest : Type where
  ricId : RicGenId
  eventTrigger : List UInt8
  action : List RicActionItem
  deriving DecidableEq, Repr

/-- What the agent sends once it is set up. -/
inductive AgentMsg : Type where
  | setupRequest (req : E2SetupRequest)
  | subscriptionResponse (resp : RicSubscriptionResponse)
  | subscriptionDeleteResponse (resp : RicSubscriptionDeleteResponse)
  | indication (ind : RicIndication)
  deriving DecidableEq, Repr

/-- `cmp_ind_event`. -/
def cmpIndEvent (m₀ m₁ : IndEvent) : Ordering := cmpRicGenId m₀.ricId m₁.ricId

instance : Std.TransCmp cmpIndEvent := @transCmp_comap _ _ cmpRicGenId _ IndEvent.ricId

theorem cmpIndEvent_eq_iff {m₀ m₁ : IndEvent} : cmpIndEvent m₀ m₁ = .eq ↔ m₀.ricId = m₁.ricId :=
  @Std.LawfulEqCmp.compare_eq_iff_eq _ cmpRicGenId _ _ _

/-- `sm_plugin_ag`. -/
def smPluginAg (plugin : List SmAgent) (key : UInt16) : Option SmAgent :=
  if 0 < key then plugin.find? fun sm => sm.ranFunction.id = key else none

/-- `supported_ric_subscription_request`: the one action of the request, which must be a report. -/
def supportedRicSubscriptionRequest (sr : RicSubscriptionRequest) : Option RicActionItem :=
  match sr.action with
  | [action] => if action.type = .report then some action else none
  | _ => none

/-- `generate_sm_subs_data`. -/
def generateSmSubsData (sr : RicSubscriptionRequest) (action : RicActionItem) : SmSubsData :=
  ⟨sr.eventTrigger, action.definition⟩

/-- `generate_subscription_response`. -/
def generateSubscriptionResponse (ricId : RicGenId) (ricActId : UInt8) : RicSubscriptionResponse :=
  ⟨ricId, [ricActId], 0⟩

/-- `generate_indication`. -/
def generateIndication (data : SmIndData) (ev : IndEvent) : RicIndication where
  ricId := ev.ricId
  actionId := ev.actionId
  sn := none
  type := .report
  hdr := data.indHdr
  msg := data.indMsg
  callProcessId := data.callProcessId

/-! ## The handlers -/

namespace E2Agent

/-- `e2ap_handle_subscription_request_agent` with the service models `sms`, where the kernel answers
with the timer `fd`. The result has the event and the period of the timer. -/
def e2apHandleSubscriptionRequestAgent (sms : List SmAgent) (ag : E2Agent)
    (sr : RicSubscriptionRequest) (fd : Fd) :
    Option (RicSubscriptionResponse × IndEvent × UInt32 × E2Agent) :=
  (supportedRicSubscriptionRequest sr).bind fun action =>
    (smPluginAg sms sr.ricId.ranFuncId).bind fun sm =>
      (sm.onSubscription (generateSmSubsData sr action)).bind fun ms =>
        (ag.createTimerMsAsioAgent fd).map fun ag =>
          let ev : IndEvent := ⟨sr.ricId, action.id⟩
          (generateSubscriptionResponse sr.ricId action.id, ev, ms,
            { ag with indEvent := ag.indEvent.insert cmpFd cmpIndEvent fd ev })

/-- `stop_ind_event`. -/
def stopIndEvent (ag : E2Agent) (id : RicGenId) : Option E2Agent :=
  (ag.indEvent.extractRight cmpFd cmpIndEvent ⟨id, 0⟩).bind fun (fd, indEvent) =>
    if 0 < fd then { ag with indEvent := indEvent }.rmFdAsioAgent fd else none

/-- `e2ap_handle_subscription_delete_request_agent`. -/
def e2apHandleSubscriptionDeleteRequestAgent (ag : E2Agent) (id : RicGenId) :
    Option (RicSubscriptionDeleteResponse × E2Agent) :=
  (ag.stopIndEvent id).map fun ag => (⟨id⟩, ag)

/-- The event loop when the timer `fd` fires: an indication with the data of the service model, or
the setup request once more. -/
def sendAfterTimeout (ag : E2Agent) (fd : Fd) (data : SmIndData) : Option AgentMsg :=
  (ag.nextAsyncEventAgent fd).bind fun
    | .indicationEvent ev => some (.indication (generateIndication data ev))
    | .pendingEvent event =>
      if event = .setupRequest then ag.sendSetupRequest.map .setupRequest else none

variable {ag ag' : E2Agent} {fd : Fd} {sms : List SmAgent} {sr : RicSubscriptionRequest}

theorem createTimerMsAsioAgent_eq_some :
    ag.createTimerMsAsioAgent fd = some ag' ↔
      (0 < fd ∧ fd ∉ ag.io) ∧ ag' = { ag with io := fd :: ag.io } := by
  rw [createTimerMsAsioAgent, Option.ite_none_right_eq_some, Option.some_inj, eq_comm (b := ag')]

theorem rmFdAsioAgent_eq_some :
    ag.rmFdAsioAgent fd = some ag' ↔ fd ∈ ag.io ∧ ag' = { ag with io := ag.io.erase fd } := by
  rw [rmFdAsioAgent, Option.ite_none_right_eq_some, Option.some_inj, eq_comm (b := ag')]

/-- What a subscription request did when it was answered. -/
theorem e2apHandleSubscriptionRequestAgent_eq_some {resp : RicSubscriptionResponse} {ev : IndEvent}
    {ms : UInt32} (h : ag.e2apHandleSubscriptionRequestAgent sms sr fd = some (resp, ev, ms, ag')) :
    (∃ action sm, sr.action = [action] ∧ action.type = .report ∧
      smPluginAg sms sr.ricId.ranFuncId = some sm ∧
      sm.onSubscription (generateSmSubsData sr action) = some ms ∧
      ev = ⟨sr.ricId, action.id⟩ ∧ resp = ⟨sr.ricId, [action.id], 0⟩) ∧
    (0 < fd ∧ fd ∉ ag.io) ∧
    ag' = { ag with
      io := fd :: ag.io
      indEvent := ag.indEvent.insert cmpFd cmpIndEvent fd ev } := by
  obtain ⟨action, haction, h⟩ := Option.bind_eq_some_iff.1 h
  obtain ⟨sm, hsm, h⟩ := Option.bind_eq_some_iff.1 h
  obtain ⟨ms', hms, h⟩ := Option.bind_eq_some_iff.1 h
  obtain ⟨ag₁, htimer, heq⟩ := Option.map_eq_some_iff.1 h
  obtain ⟨hfd, rfl⟩ := createTimerMsAsioAgent_eq_some.1 htimer
  cases heq
  refine ⟨⟨action, sm, ?_⟩, hfd, rfl⟩
  rw [supportedRicSubscriptionRequest] at haction
  split at haction
  · next hlist =>
    obtain ⟨htype, heq⟩ := Option.ite_none_right_eq_some.1 haction
    cases heq
    exact ⟨hlist, htype, hsm, hms, rfl, rfl⟩
  · cases haction

end E2Agent

/-! ## The agent and its timers -/

/-- A subscription that was answered and not deleted since. -/
structure LiveSubscription : Type where
  /-- the descriptor of the timer that was created for it -/
  fd : Fd
  request : RicSubscriptionRequest
  /-- the period that the service model asked for -/
  ms : UInt32
  deriving DecidableEq, Repr

/-- The id of the request and the id of its action, `action[0].id`. -/
def LiveSubscription.event (l : LiveSubscription) : IndEvent :=
  ⟨l.request.ricId, (l.request.action.map RicActionItem.id).headD 0⟩

/-- The period is the one that the service model of the request asked for. -/
def LiveSubscription.HasPeriod (sms : List SmAgent) (l : LiveSubscription) : Prop :=
  ∃ sm action, smPluginAg sms l.request.ricId.ranFuncId = some sm ∧
    l.request.action = [action] ∧
    sm.onSubscription (generateSmSubsData l.request action) = some l.ms

/-- The agent in its event loop. -/
structure AgentState : Type where
  ag : E2Agent
  /-- the open timers of the kernel, with their periods in milliseconds -/
  timers : List (Fd × UInt32)
  /-- the live subscriptions, the last one first; the code has no such list -/
  live : List LiveSubscription

/-- What may happen to the agent in its event loop. -/
inductive AgentAction : Type where
  /-- a setup response arrives -/
  | setupResponse (resp : E2SetupResponse)
  /-- a subscription request arrives, and the kernel has the descriptor `fd` for its timer -/
  | subscriptionRequest (sr : RicSubscriptionRequest) (fd : Fd)
  /-- a request to delete a subscription arrives -/
  | subscriptionDeleteRequest (id : RicGenId)
  /-- a timer fires, and the service model would read `data` -/
  | timerExpiry (fd : Fd) (data : SmIndData)
  deriving DecidableEq, Repr

namespace AgentState

/-- The timer `fd` is open and runs. -/
def Armed (s : AgentState) (fd : Fd) (ms : UInt32) : Prop := (fd, ms) ∈ s.timers ∧ ms ≠ 0

/-- The ids of the live subscriptions. -/
def liveIds (s : AgentState) : List RicGenId := s.live.map fun l => l.request.ricId

/-- The timers that are still open when the agent is `ag`: what left the epoll instance was
closed. -/
def openTimers (s : AgentState) (ag : E2Agent) : List (Fd × UInt32) :=
  s.timers.filter fun t => t.1 ∈ ag.io

/-- What the environment may do: a subscription request has none of the live ids and the kernel's
new descriptor is not in use, and only a running timer fires. -/
def enabled (s : AgentState) : AgentAction → Prop
  | .setupResponse _ => True
  | .subscriptionRequest sr fd => sr.ricId ∉ s.liveIds ∧ 0 < fd ∧ fd ∉ s.ag.io
  | .subscriptionDeleteRequest _ => True
  | .timerExpiry fd _ => ∃ ms, s.Armed fd ms

/-- One turn of the event loop: what the agent sends, if anything, and its state then. -/
def turn (sms : List SmAgent) (s : AgentState) : AgentAction → Option (Option AgentMsg × AgentState)
  | .setupResponse resp =>
    (s.ag.e2apHandleSetupResponseAgent resp).map fun ag =>
      (none, { s with ag := ag, timers := s.openTimers ag })
  | .subscriptionRequest sr fd =>
    (s.ag.e2apHandleSubscriptionRequestAgent sms sr fd).map fun (resp, _, ms, ag) =>
      (some (.subscriptionResponse resp),
        { ag := ag, timers := (fd, ms) :: s.timers, live := ⟨fd, sr, ms⟩ :: s.live })
  | .subscriptionDeleteRequest id =>
    (s.ag.e2apHandleSubscriptionDeleteRequestAgent id).map fun (resp, ag) =>
      (some (.subscriptionDeleteResponse resp),
        { ag := ag, timers := s.openTimers ag,
          live := s.live.filter fun l => l.request.ricId ≠ id })
  | .timerExpiry fd data => (s.ag.sendAfterTimeout fd data).map fun msg => (some msg, s)

/-- What the agent sends in its turn. -/
def sent (sms : List SmAgent) (s : AgentState) (a : AgentAction) : Option AgentMsg :=
  (s.turn sms a).bind Prod.fst

/-- `e2_start_agent` up to the event loop: the setup request is sent and its timer runs with a
period of 3000 ms. -/
def start (epFd : Fd) (sms : List SmAgent) (ge2nid : GlobalE2NodeId) (fd : Fd) :
    Option AgentState :=
  ((E2Agent.init epFd (sms.map SmAgent.ranFunction) ge2nid).e2StartAgent fd).map fun (_, ag) =>
    ⟨ag, [(fd, 3000)], []⟩

/-- The event loop from the state `s₀`. -/
def eventLoop (sms : List SmAgent) (s₀ : AgentState) : System AgentState AgentAction where
  init := s₀
  enabled := enabled
  step s a := (s.turn sms a).map Prod.snd

/-! ## The subscriptions and their timers -/

/-- What holds of the agent in its event loop: `ind_event` has one pair for each live subscription,
and the open timers are those of the live subscriptions and the one of the setup request while it
is pending. -/
structure SubsInv (sms : List SmAgent) (s : AgentState) : Prop where
  /-- both maps are well formed -/
  indEvent_wf : s.ag.indEvent.WF cmpFd cmpIndEvent
  pending_wf : s.ag.pending.WF cmpFd cmpPendingEvent
  /-- `ind_event` has the live subscriptions with their timers -/
  indEvent_perm : s.ag.indEvent.toList.Perm (s.live.map fun l => (l.fd, l.event))
  /-- the live subscriptions have different ids -/
  liveIds_nodup : s.liveIds.Nodup
  /-- each has the period that its service model asked for -/
  period : ∀ l ∈ s.live, l.HasPeriod sms
  /-- only the setup request can be pending, and it can be sent -/
  pending : ∀ e ∈ s.ag.pending.toList, s.ag.pending.toList = [e] ∧ e.2 = .setupRequest
  request : ∃ req, s.ag.sendSetupRequest = some req
  /-- the timers are those of the setup request and of the live subscriptions -/
  timers_perm : s.timers.Perm
    (s.ag.pending.toList.map (fun e => (e.1, 3000)) ++ s.live.map fun l => (l.fd, l.ms))
  /-- each timer and the socket have a descriptor of their own -/
  io_nodup : s.ag.io.Nodup
  io_perm : s.ag.io.Perm (s.timers.map Prod.fst ++ [s.ag.epFd])
  pos : ∀ t ∈ s.timers, 0 < t.1

namespace SubsInv

variable {sms : List SmAgent} {s : AgentState} {l : LiveSubscription}

theorem timers_nodup (h : s.SubsInv sms) : (s.timers.map Prod.fst).Nodup :=
  (List.nodup_append.1 (h.io_perm.nodup_iff.1 h.io_nodup)).1

theorem mem_timers (h : s.SubsInv sms) (hl : l ∈ s.live) : (l.fd, l.ms) ∈ s.timers := by
  apply h.timers_perm.mem_iff.2
  exact List.mem_append_right _ (List.mem_map_of_mem (f := fun l => (l.fd, l.ms)) hl)

theorem mem_io (h : s.SubsInv sms) {t : Fd × UInt32} (ht : t ∈ s.timers) : t.1 ∈ s.ag.io :=
  h.io_perm.mem_iff.2 (List.mem_append_left _ (List.mem_map_of_mem ht))

/-- The timers of the setup request and those of the live subscriptions, by descriptor. -/
theorem fds_nodup (h : s.SubsInv sms) :
    (s.ag.pending.toList.map Prod.fst ++ s.live.map LiveSubscription.fd).Nodup := by
  have hperm := h.timers_perm.map Prod.fst
  simp only [List.map_append, List.map_map] at hperm
  exact hperm.nodup_iff.1 h.timers_nodup

/-- Different live subscriptions have different timers. -/
theorem live_nodup (h : s.SubsInv sms) : (s.live.map LiveSubscription.fd).Nodup :=
  (List.nodup_append.1 h.fds_nodup).2.1

theorem indEvent_nodup (h : s.SubsInv sms) : (s.ag.indEvent.toList.map Prod.fst).Nodup := by
  have hperm := h.indEvent_perm.map Prod.fst
  simp only [List.map_map] at hperm
  exact hperm.nodup_iff.2 h.live_nodup

/-- The timer of a live subscription resolves to its event. -/
theorem indEventFd_eq (h : s.SubsInv sms) (hl : l ∈ s.live) :
    s.ag.indEventFd l.fd = some l.event := by
  have hmem : (l.fd, l.event) ∈ s.ag.indEvent.toList :=
    h.indEvent_perm.mem_iff.2 (List.mem_map_of_mem (f := fun l => (l.fd, l.event)) hl)
  obtain ⟨e, he⟩ : ∃ e, (s.ag.indEvent.left.findIf fun fd' => l.fd = fd') = some e :=
    AssocRbTree.exists_findIf hmem (by simp)
  obtain ⟨hmem', hfd⟩ := AssocRbTree.findIf_eq_some he
  have hpair := List.inj_on_of_nodup_map h.indEvent_nodup hmem' hmem (of_decide_eq_true hfd).symm
  rw [E2Agent.indEventFd, he, hpair]
  rfl

/-- The timer of the setup request resolves to its pending event. -/
theorem pendEvent_eq (h : s.SubsInv sms) {fd : Fd} (hfd : fd ∈ s.ag.pending.toList.map Prod.fst) :
    s.ag.indEventFd fd = none ∧ s.ag.pendEvent fd = some .setupRequest := by
  obtain ⟨e, he, rfl⟩ := List.mem_map.1 hfd
  obtain ⟨hlist, hev⟩ := h.pending e he
  constructor
  · have hfind : (s.ag.indEvent.left.findIf fun fd' => e.1 = fd') = none := by
      apply Option.eq_none_iff_forall_ne_some.2
      intro e' he'
      obtain ⟨hmem, hfd'⟩ := AssocRbTree.findIf_eq_some he'
      obtain ⟨l, hl, rfl⟩ := List.mem_map.1 (h.indEvent_perm.mem_iff.1 hmem)
      have hne := (List.nodup_append.1 h.fds_nodup).2.2 _ hfd _ (List.mem_map_of_mem hl)
      exact hne (of_decide_eq_true hfd')
    rw [E2Agent.indEventFd, hfind]
    rfl
  · have hpos : 0 < e.1 := by
      apply h.pos (e.1, 3000)
      apply h.timers_perm.mem_iff.2
      exact List.mem_append_left _ (List.mem_map_of_mem (f := fun e => (e.1, (3000 : UInt32))) he)
    have hsize : s.ag.pending.size = some 1 := by
      rw [h.pending_wf.size_eq, hlist]
      rfl
    have hleft : s.ag.pending.left.toList = [e] := hlist
    rw [E2Agent.pendEvent, if_pos ⟨hpos, hsize⟩, AssocRbTree.findIf, hleft]
    simp [hev]

/-- A running timer is that of the setup request or of one live subscription. -/
theorem owner (h : s.SubsInv sms) {fd : Fd} {ms : UInt32} (hfd : (fd, ms) ∈ s.timers) :
    fd ∈ s.ag.pending.toList.map Prod.fst ∨ ∃ l ∈ s.live, l.fd = fd ∧ l.ms = ms := by
  rcases List.mem_append.1 (h.timers_perm.mem_iff.1 hfd) with hmem | hmem
  · obtain ⟨e, he, heq⟩ := List.mem_map.1 hmem
    cases heq
    exact .inl (List.mem_map_of_mem he)
  · obtain ⟨l, hl, heq⟩ := List.mem_map.1 hmem
    cases heq
    exact .inr ⟨l, hl, rfl, rfl⟩

/-- The timer of a live subscription makes the agent send its indication. -/
theorem sendAfterTimeout_live (h : s.SubsInv sms) (hl : l ∈ s.live) (data : SmIndData) :
    s.ag.sendAfterTimeout l.fd data = some (.indication (generateIndication data l.event)) := by
  rw [E2Agent.sendAfterTimeout, E2Agent.nextAsyncEventAgent, h.indEventFd_eq hl]
  rfl

/-- The timer of the setup request makes the agent send it again. -/
theorem sendAfterTimeout_pending (h : s.SubsInv sms) {fd : Fd}
    (hfd : fd ∈ s.ag.pending.toList.map Prod.fst) (data : SmIndData) :
    ∃ req, s.ag.sendAfterTimeout fd data = some (.setupRequest req) := by
  obtain ⟨req, hreq⟩ := h.request
  obtain ⟨hind, hpend⟩ := h.pendEvent_eq hfd
  refine ⟨req, ?_⟩
  rw [E2Agent.sendAfterTimeout, E2Agent.nextAsyncEventAgent, hind, hpend]
  simp only [Option.map_some, Option.bind_some, if_true, hreq]

/-- A request for a live subscription stops its timer. -/
theorem stopIndEvent_ne_none (h : s.SubsInv sms) (hl : l ∈ s.live) :
    s.ag.stopIndEvent l.request.ricId ≠ none := by
  have hmem : (l.fd, l.event) ∈ s.ag.indEvent.toList :=
    h.indEvent_perm.mem_iff.2 (List.mem_map_of_mem (f := fun l => (l.fd, l.event)) hl)
  obtain ⟨fd, indEvent, hext⟩ := h.indEvent_wf.extractRight_isSome h.indEvent_nodup hmem
    (cmpIndEvent_eq_iff.2 (rfl : IndEvent.ricId ⟨l.request.ricId, 0⟩ = l.event.ricId))
  obtain ⟨-, key, -, hperm⟩ := h.indEvent_wf.extractRight_spec h.indEvent_nodup hext
  obtain ⟨l', hl', heq⟩ :=
    List.mem_map.1 (h.indEvent_perm.mem_iff.1 (hperm.mem_iff.2 List.mem_cons_self))
  cases heq
  have htimer := h.mem_timers hl'
  rw [E2Agent.stopIndEvent, hext]
  simp only [Option.bind_some, if_pos (h.pos _ htimer), E2Agent.rmFdAsioAgent,
    if_pos (h.mem_io htimer)]
  exact Option.some_ne_none _

/-- What a delete request did when it was answered: the timer it has stopped is that of the one
live subscription with its id. -/
theorem stopIndEvent_spec (h : s.SubsInv sms) {id : RicGenId} {ag' : E2Agent}
    (hstop : s.ag.stopIndEvent id = some ag') :
    ∃ l ∈ s.live, l.request.ricId = id ∧ ∃ indEvent,
      ag' = { s.ag with indEvent := indEvent, io := s.ag.io.erase l.fd } ∧
      indEvent.WF cmpFd cmpIndEvent ∧
      s.ag.indEvent.toList.Perm ((l.fd, l.event) :: indEvent.toList) := by
  obtain ⟨⟨fd, indEvent⟩, hext, hrm⟩ := Option.bind_eq_some_iff.1 hstop
  obtain ⟨-, hrm⟩ := Option.ite_none_right_eq_some.1 hrm
  obtain ⟨hwf, key, hkey, hperm⟩ := h.indEvent_wf.extractRight_spec h.indEvent_nodup hext
  obtain ⟨l, hl, heq⟩ :=
    List.mem_map.1 (h.indEvent_perm.mem_iff.1 (hperm.mem_iff.2 List.mem_cons_self))
  cases heq
  exact ⟨l, hl, (cmpIndEvent_eq_iff.1 hkey).symm, indEvent, (E2Agent.rmFdAsioAgent_eq_some.1 hrm).2,
    hwf, hperm⟩

end SubsInv

/-- The event loop starts with the timer of the setup request and no subscription. -/
theorem subsInv_start {epFd fd : Fd} {sms : List SmAgent} {ge2nid : GlobalE2NodeId}
    {s : AgentState} (h : start epFd sms ge2nid fd = some s) : s.SubsInv sms ∧ s.live = [] := by
  obtain ⟨⟨req, ag⟩, hstart, heq⟩ := Option.map_eq_some_iff.1 h
  cases heq
  obtain ⟨hwait, hreq, -⟩ := E2Agent.waitsForSetup_of_start hstart
  obtain ⟨req', -, hstart⟩ := Option.bind_eq_some_iff.1 hstart
  obtain ⟨ag', htimer, heq⟩ := Option.map_eq_some_iff.1 hstart
  cases heq
  obtain ⟨hfd, rfl⟩ := E2Agent.createTimerMsAsioAgent_eq_some.1 htimer
  refine ⟨?_, rfl⟩
  exact {
    indEvent_wf := BiMap.wf_init
    pending_wf := hwait.map
    indEvent_perm := .refl _
    liveIds_nodup := List.nodup_nil
    period := by simp
    pending := by simp [hwait.pending]
    request := hwait.request
    timers_perm := by simp [hwait.pending]
    io_nodup := List.nodup_cons.2 ⟨hfd.2, List.nodup_singleton epFd⟩
    io_perm := .refl _
    pos := by simp [hfd.1] }

section Steps

variable {s t : AgentState} {sms : List SmAgent} {msg : Option AgentMsg}

/-- A setup response closes the timer of the setup request. -/
theorem SubsInv.setupResponse (h : s.SubsInv sms) {resp : E2SetupResponse}
    (ht : s.turn sms (.setupResponse resp) = some (msg, t)) :
    t.SubsInv sms ∧ msg = none ∧ t.live = s.live := by
  obtain ⟨ag', hresp, heq⟩ := Option.map_eq_some_iff.1 ht
  cases heq
  obtain ⟨⟨fd, pending⟩, hext, hrm⟩ := Option.bind_eq_some_iff.1 hresp
  obtain ⟨-, hrm⟩ := Option.ite_none_right_eq_some.1 hrm
  obtain ⟨-, rfl⟩ := E2Agent.rmFdAsioAgent_eq_some.1 hrm
  have hnodup := (List.nodup_append.1 h.fds_nodup).1
  obtain ⟨hwf, key, -, hperm⟩ := h.pending_wf.extractRight_spec hnodup hext
  obtain ⟨hlist, -⟩ := h.pending _ (hperm.mem_iff.2 List.mem_cons_self)
  have hnil : pending.toList = [] := by
    rw [hlist] at hperm
    exact List.perm_nil.1 hperm.cons_inv.symm
  have htimers := h.timers_perm
  rw [hlist, List.map_singleton] at htimers
  obtain ⟨hopen, hio⟩ := filter_erase_perm h.io_nodup h.io_perm htimers
  refine ⟨?_, rfl, rfl⟩
  exact {
    indEvent_wf := h.indEvent_wf
    pending_wf := hwf
    indEvent_perm := h.indEvent_perm
    liveIds_nodup := h.liveIds_nodup
    period := h.period
    pending := by simp [hnil]
    request := h.request
    timers_perm := by
      rw [hnil]
      exact hopen
    io_nodup := h.io_nodup.erase fd
    io_perm := hio.trans ((hopen.symm.map Prod.fst).append_right _)
    pos := fun t ht => h.pos t (List.mem_of_mem_filter ht) }

/-- A subscription request adds its timer and its event. -/
theorem SubsInv.subscriptionRequest (h : s.SubsInv sms) {sr : RicSubscriptionRequest} {fd : Fd}
    (hfresh : sr.ricId ∉ s.liveIds)
    (ht : s.turn sms (.subscriptionRequest sr fd) = some (msg, t)) :
    t.SubsInv sms ∧ (∃ resp, msg = some (.subscriptionResponse resp)) ∧
      ∃ ms, t.live = ⟨fd, sr, ms⟩ :: s.live := by
  obtain ⟨⟨resp, ev, ms, ag'⟩, hsub, heq⟩ := Option.map_eq_some_iff.1 ht
  cases heq
  obtain ⟨⟨action, sm, haction, -, hsm, hms, hev, -⟩, ⟨hpos, hfd⟩, rfl⟩ :=
    E2Agent.e2apHandleSubscriptionRequestAgent_eq_some hsub
  have hevent : ev = LiveSubscription.event ⟨fd, sr, ms⟩ := by
    rw [hev, LiveSubscription.event, haction]
    rfl
  subst hevent
  refine ⟨?_, ⟨resp, rfl⟩, ms, rfl⟩
  exact {
    indEvent_wf := h.indEvent_wf.insert fd _
    pending_wf := h.pending_wf
    indEvent_perm := (BiMap.perm_insert _ _ _ _ _).trans (h.indEvent_perm.cons _)
    liveIds_nodup := List.nodup_cons.2 ⟨hfresh, h.liveIds_nodup⟩
    period := List.forall_mem_cons.2 ⟨⟨sm, action, hsm, haction, hms⟩, h.period⟩
    pending := h.pending
    request := h.request
    timers_perm := (h.timers_perm.cons _).trans List.perm_middle.symm
    io_nodup := List.nodup_cons.2 ⟨hfd, h.io_nodup⟩
    io_perm := h.io_perm.cons fd
    pos := List.forall_mem_cons.2 ⟨hpos, h.pos⟩ }

/-- A delete request closes the timer of the subscription with its id and takes out its event. -/
theorem SubsInv.subscriptionDeleteRequest (h : s.SubsInv sms) {id : RicGenId}
    (ht : s.turn sms (.subscriptionDeleteRequest id) = some (msg, t)) :
    t.SubsInv sms ∧ msg = some (.subscriptionDeleteResponse ⟨id⟩) ∧
      t.live = s.live.filter fun l => l.request.ricId ≠ id := by
  obtain ⟨⟨resp, ag'⟩, hdel, heq⟩ := Option.map_eq_some_iff.1 ht
  cases heq
  obtain ⟨ag'', hstop, heq⟩ := Option.map_eq_some_iff.1 hdel
  cases heq
  obtain ⟨l, hl, rfl, indEvent, rfl, hwf, hperm⟩ := h.stopIndEvent_spec hstop
  have hlive := filter_key_perm (fun l : LiveSubscription => l.request.ricId) h.liveIds_nodup hl
  have htimers : s.timers.Perm ((l.fd, l.ms) ::
      (s.ag.pending.toList.map (fun e => (e.1, 3000)) ++
        (s.live.filter fun l' => l'.request.ricId ≠ l.request.ricId).map fun l => (l.fd, l.ms))) :=
    h.timers_perm.trans (((hlive.map _).append_left _).trans List.perm_middle)
  obtain ⟨hopen, hio⟩ := filter_erase_perm h.io_nodup h.io_perm htimers
  refine ⟨?_, rfl, rfl⟩
  exact {
    indEvent_wf := hwf
    pending_wf := h.pending_wf
    indEvent_perm := by
      have hmap := hlive.map fun l => (l.fd, l.event)
      exact List.Perm.cons_inv (hperm.symm.trans (h.indEvent_perm.trans hmap))
    liveIds_nodup := (List.filter_sublist.map _).nodup h.liveIds_nodup
    period := fun l hl => h.period l (List.mem_of_mem_filter hl)
    pending := h.pending
    request := h.request
    timers_perm := hopen
    io_nodup := h.io_nodup.erase l.fd
    io_perm := hio.trans ((hopen.symm.map Prod.fst).append_right _)
    pos := fun t ht => h.pos t (List.mem_of_mem_filter ht) }

/-- An expiration changes nothing. What it sends is the indication of the live subscription with
that timer, or the setup request. -/
theorem SubsInv.timerExpiry (h : s.SubsInv sms) {fd : Fd} {ms : UInt32} {data : SmIndData}
    (hfd : (fd, ms) ∈ s.timers) :
    (∃ req, s.turn sms (.timerExpiry fd data) = some (some (.setupRequest req), s)) ∨
      ∃ l ∈ s.live, l.fd = fd ∧ l.ms = ms ∧ s.turn sms (.timerExpiry fd data) =
        some (some (.indication (generateIndication data l.event)), s) := by
  rcases h.owner hfd with hpend | ⟨l, hl, rfl, rfl⟩
  · obtain ⟨req, hreq⟩ := h.sendAfterTimeout_pending hpend data
    refine .inl ⟨req, ?_⟩
    rw [turn, hreq]
    rfl
  · refine .inr ⟨l, hl, rfl, rfl, ?_⟩
    rw [turn, h.sendAfterTimeout_live hl]
    rfl

end Steps

section Runs

variable {epFd fd₀ : Fd} {sms : List SmAgent} {ge2nid : GlobalE2NodeId} {s₀ s t u : AgentState}
  {a : AgentAction} {tr : List (AgentState × AgentAction)}

theorem SubsInv.step (h : s.SubsInv sms) (he : s.enabled a)
    (ht : (eventLoop sms s₀).step s a = some t) : t.SubsInv sms := by
  obtain ⟨⟨msg, t⟩, hturn, rfl⟩ := Option.map_eq_some_iff.1 ht
  cases a with
  | setupResponse resp => exact (h.setupResponse hturn).1
  | subscriptionRequest sr fd => exact (h.subscriptionRequest he.1 hturn).1
  | subscriptionDeleteRequest id => exact (h.subscriptionDeleteRequest hturn).1
  | timerExpiry fd data =>
    obtain ⟨ms, hfd, -⟩ := he
    rcases h.timerExpiry hfd with ⟨req, heq⟩ | ⟨l, -, -, -, heq⟩
    · cases heq.symm.trans hturn
      exact h
    · cases heq.symm.trans hturn
      exact h

theorem subsInv_reachable (h₀ : start epFd sms ge2nid fd₀ = some s₀)
    (h : (eventLoop sms s₀).Reachable s) : s.SubsInv sms :=
  h.invariant (P := SubsInv sms) (subsInv_start h₀).1 fun _ _ _ hs he ht => hs.step he ht

/-- An indication is sent for the timer of a live subscription only. -/
theorem SubsInv.sent_indication (h : s.SubsInv sms) (he : s.enabled a) {ind : RicIndication}
    (hind : s.sent sms a = some (.indication ind)) :
    ∃ data, ∃ l ∈ s.live, a = .timerExpiry l.fd data ∧ ind = generateIndication data l.event := by
  obtain ⟨⟨msg, t⟩, hturn, hmsg⟩ := Option.bind_eq_some_iff.1 hind
  subst hmsg
  cases a with
  | setupResponse resp => cases (h.setupResponse hturn).2.1
  | subscriptionRequest sr fd =>
    obtain ⟨-, ⟨resp, heq⟩, -⟩ := h.subscriptionRequest he.1 hturn
    cases heq
  | subscriptionDeleteRequest id => cases (h.subscriptionDeleteRequest hturn).2.1
  | timerExpiry fd data =>
    obtain ⟨ms, hfd, -⟩ := he
    rcases h.timerExpiry hfd with ⟨req, heq⟩ | ⟨l, hl, rfl, -, heq⟩
    · cases heq.symm.trans hturn
    · cases heq.symm.trans hturn
      exact ⟨data, l, hl, rfl, rfl⟩

/-- An id that is not live stays so until a subscription with it is requested. -/
theorem SubsInv.not_mem_liveIds {id : RicGenId} (h : s.SubsInv sms) (hid : id ∉ s.liveIds)
    (hsteps : (eventLoop sms s₀).Steps s tr t)
    (htr : ∀ p ∈ tr, ∀ sr fd, p.2 = .subscriptionRequest sr fd → sr.ricId ≠ id) :
    t.SubsInv sms ∧ id ∉ t.liveIds := by
  induction hsteps with
  | nil => exact ⟨h, hid⟩
  | @cons tr t u a _ he hu ih =>
    obtain ⟨hlast, hrest⟩ := List.forall_mem_cons.1 htr
    obtain ⟨hinv, hid⟩ := ih hrest
    refine ⟨hinv.step he hu, ?_⟩
    obtain ⟨⟨msg, u⟩, hturn, rfl⟩ := Option.map_eq_some_iff.1 hu
    cases a with
    | setupResponse resp =>
      rw [liveIds, (hinv.setupResponse hturn).2.2]
      exact hid
    | subscriptionRequest sr fd =>
      obtain ⟨-, -, ms, hlive⟩ := hinv.subscriptionRequest he.1 hturn
      rw [liveIds, hlive]
      intro hmem
      rcases List.mem_cons.1 hmem with heq | hmem
      · exact hlast sr fd rfl heq.symm
      · exact hid hmem
    | subscriptionDeleteRequest id' =>
      rw [liveIds, (hinv.subscriptionDeleteRequest hturn).2.2]
      intro hmem
      exact hid ((List.filter_sublist.map _).subset hmem)
    | timerExpiry fd data =>
      obtain ⟨ms, hfd, -⟩ := he
      rcases hinv.timerExpiry hfd with ⟨req, heq⟩ | ⟨l, -, -, -, heq⟩
      · cases heq.symm.trans hturn
        exact hid
      · cases heq.symm.trans hturn
        exact hid

/-- `ind_event` has exactly one pair for each live subscription, with a timer of its own that is
open, has the period that the service model asked for and runs unless this is 0. -/
structure OneTimerEach (sms : List SmAgent) (s : AgentState) : Prop where
  perm : s.ag.indEvent.toList.Perm (s.live.map fun l => (l.fd, l.event))
  nodup : (s.live.map LiveSubscription.fd).Nodup
  polled : ∀ l ∈ s.live, l.fd ∈ s.ag.io
  period : ∀ l ∈ s.live, l.HasPeriod sms ∧ ∀ ms, (l.fd, ms) ∈ s.timers ↔ ms = l.ms
  armed : ∀ l ∈ s.live, s.Armed l.fd l.ms ↔ l.ms ≠ 0
  /-- there is no other timer but that of the setup request -/
  owner : ∀ t ∈ s.timers,
    t.1 ∈ s.ag.pending.toList.map Prod.fst ∨ ∃ l ∈ s.live, l.fd = t.1 ∧ l.ms = t.2

theorem SubsInv.oneTimerEach (h : s.SubsInv sms) : s.OneTimerEach sms where
  perm := h.indEvent_perm
  nodup := h.live_nodup
  polled l hl := h.mem_io (h.mem_timers hl)
  period l hl := by
    refine ⟨h.period l hl, fun ms => ?_⟩
    constructor
    · intro hms
      exact congrArg Prod.snd (List.inj_on_of_nodup_map h.timers_nodup hms (h.mem_timers hl) rfl)
    · rintro rfl
      exact h.mem_timers hl
  armed l hl := and_iff_right (h.mem_timers hl)
  owner t ht := h.owner ht

/-- A delete request is answered exactly if there is a live subscription with its id. -/
theorem SubsInv.delete_iff (h : s.SubsInv sms) (id : RicGenId) :
    (eventLoop sms s₀).step s (.subscriptionDeleteRequest id) ≠ none ↔ id ∈ s.liveIds := by
  have hstep : (eventLoop sms s₀).step s (.subscriptionDeleteRequest id) ≠ none ↔
      s.ag.stopIndEvent id ≠ none := by
    simp [eventLoop, turn, E2Agent.e2apHandleSubscriptionDeleteRequestAgent]
  rw [hstep]
  constructor
  · intro hstop
    obtain ⟨ag', hag'⟩ := Option.ne_none_iff_exists'.1 hstop
    obtain ⟨l, hl, rfl, -⟩ := h.stopIndEvent_spec hag'
    exact List.mem_map_of_mem (f := fun l => l.request.ricId) hl
  · intro hid
    obtain ⟨l, hl, rfl⟩ := List.mem_map.1 hid
    exact h.stopIndEvent_ne_none hl

/-- The subscriptions of the agent in any order of requests, responses and expirations: each live
subscription has its own timer, the timer makes the agent send the indications of that
subscription and nothing else does, and after a delete request was answered there are no more of
them until a subscription with the same id is requested again. -/
theorem subscriptions_of_reachable (h₀ : start epFd sms ge2nid fd₀ = some s₀)
    (h : (eventLoop sms s₀).Reachable s) :
    s.OneTimerEach sms ∧
      (∀ a, s.enabled a → ∀ ind, s.sent sms a = some (.indication ind) →
        ∃ data, ∃ l ∈ s.live, a = .timerExpiry l.fd data ∧
          ind = generateIndication data l.event) ∧
      (∀ l ∈ s.live, ∀ data, s.sent sms (.timerExpiry l.fd data) =
        some (.indication (generateIndication data l.event))) ∧
      (∀ id, (eventLoop sms s₀).step s (.subscriptionDeleteRequest id) ≠ none ↔ id ∈ s.liveIds) ∧
      ∀ id t, (eventLoop sms s₀).step s (.subscriptionDeleteRequest id) = some t →
        ∀ tr u, (eventLoop sms s₀).Steps t tr u →
          (∀ p ∈ tr, ∀ sr fd, p.2 = .subscriptionRequest sr fd → sr.ricId ≠ id) →
          ∀ a, u.enabled a → ∀ ind, u.sent sms a = some (.indication ind) → ind.ricId ≠ id := by
  have hinv := subsInv_reachable h₀ h
  refine ⟨hinv.oneTimerEach, fun a he ind => hinv.sent_indication he, ?_, hinv.delete_iff, ?_⟩
  · intro l hl data
    rw [sent, turn, hinv.sendAfterTimeout_live hl]
    rfl
  · intro id t ht tr u hsteps htr a he ind hind heq
    have htinv := hinv.step (a := .subscriptionDeleteRequest id) trivial ht
    obtain ⟨⟨msg, t⟩, hturn, rfl⟩ := Option.map_eq_some_iff.1 ht
    have hgone : id ∉ t.liveIds := by
      rw [liveIds, (hinv.subscriptionDeleteRequest hturn).2.2]
      simp
    obtain ⟨huinv, hid⟩ := htinv.not_mem_liveIds hgone hsteps htr
    obtain ⟨data, l, hl, -, rfl⟩ := huinv.sent_indication he hind
    exact hid (heq ▸ List.mem_map_of_mem (f := fun l => l.request.ricId) hl)

end Runs

end AgentState

namespace Sample

/-- The MAC service model of the agent: the event trigger is the period. -/
def macSm : SmAgent where
  ranFunction := ⟨[], 142, 0, none⟩
  onSubscription data :=
    if data.eventTrigger.length < 4 then none
    else some (.ofNat (ofWordBytes (data.eventTrigger.take 4)))

/-- An E2 node. -/
def gNB : GlobalE2NodeId := ⟨.gNB, ⟨505, 1, 2⟩, 1, none⟩

/-- The agent of that node with the setup timer `4`, as it goes into its event loop. -/
def started : AgentState := (AgentState.start 3 [macSm] gNB 4).get rfl

theorem start_started : AgentState.start 3 [macSm] gNB 4 = some started := rfl

/-- Its event loop. -/
def eventLoop : System AgentState AgentAction := AgentState.eventLoop [macSm] started

/-- A request for reports every `ms` milliseconds. -/
def macSubscription (ms : UInt8) : RicSubscriptionRequest :=
  ⟨⟨1021, 0, 142⟩, [ms, 0, 0, 0], [⟨7, .report, none⟩]⟩

end Sample

namespace AgentState

/-- The timer of a subscription with a period of 10 ms. -/
theorem subscriptions_of_reachable_one : ∃ s l, Sample.eventLoop.Reachable s ∧ s.live = [l] ∧
    s.OneTimerEach [Sample.macSm] ∧ s.Armed 5 10 ∧ l.event = ⟨⟨1021, 0, 142⟩, 7⟩ := by
  have hsched : ∃ s, Sample.eventLoop.Sched Sample.eventLoop.init
      [.subscriptionRequest (Sample.macSubscription 10) 5] s ∧
      s.live = [⟨5, Sample.macSubscription 10, 10⟩] :=
    ⟨_, ⟨⟨by decide, by decide, by decide⟩, _, rfl, rfl⟩, rfl⟩
  obtain ⟨s, hsched, hlive⟩ := hsched
  obtain ⟨tr, hsteps, -⟩ := hsched.steps
  obtain ⟨hone, -⟩ := subscriptions_of_reachable Sample.start_started ⟨tr, hsteps⟩
  refine ⟨s, _, ⟨tr, hsteps⟩, hlive, hone, ?_, rfl⟩
  exact (hone.armed ⟨5, Sample.macSubscription 10, 10⟩ (by simp [hlive])).2 (by decide)

/-- A subscription with a period of 0 has no running timer, and an id that was deleted may come
back: then there are indications with it again. -/
theorem disarmed_and_again :
    (∃ s, Sample.eventLoop.Reachable s ∧ ∃ l ∈ s.live, ∀ ms, ¬s.Armed l.fd ms) ∧
      ∃ s t tr u a ind, Sample.eventLoop.Reachable s ∧
        Sample.eventLoop.step s (.subscriptionDeleteRequest ⟨1021, 0, 142⟩) = some t ∧
        Sample.eventLoop.Steps t tr u ∧ u.enabled a ∧
        u.sent [Sample.macSm] a = some (.indication ind) ∧ ind.ricId = ⟨1021, 0, 142⟩ := by
  constructor
  · have hsched : ∃ s, Sample.eventLoop.Sched Sample.eventLoop.init
        [.subscriptionRequest (Sample.macSubscription 0) 5] s ∧
        s.live = [⟨5, Sample.macSubscription 0, 0⟩] ∧ s.timers = [(5, 0), (4, 3000)] :=
      ⟨_, ⟨⟨by decide, by decide, by decide⟩, _, rfl, rfl⟩, rfl, rfl⟩
    obtain ⟨s, hsched, hlive, htimers⟩ := hsched
    obtain ⟨tr, hsteps, -⟩ := hsched.steps
    refine ⟨s, ⟨tr, hsteps⟩, ⟨5, Sample.macSubscription 0, 0⟩, by simp [hlive], ?_⟩
    rintro ms ⟨hmem, hne⟩
    rw [htimers] at hmem
    simp [hne] at hmem
  · have hsched : ∃ s t u, Sample.eventLoop.Sched Sample.eventLoop.init
        [.subscriptionRequest (Sample.macSubscription 10) 5] s ∧
        Sample.eventLoop.step s (.subscriptionDeleteRequest ⟨1021, 0, 142⟩) = some t ∧
        Sample.eventLoop.Sched t [.subscriptionRequest (Sample.macSubscription 20) 5] u ∧
        u.timers = [(5, 20), (4, 3000)] ∧
        u.sent [Sample.macSm] (.timerExpiry 5 ⟨[], [1], none⟩) =
          some (.indication ⟨⟨1021, 0, 142⟩, 7, none, .report, [], [1], none⟩) :=
      ⟨_, _, _, ⟨⟨by decide, by decide, by decide⟩, _, rfl, rfl⟩, rfl,
        ⟨⟨by decide, by decide, by decide⟩, _, rfl, rfl⟩, rfl, rfl⟩
    obtain ⟨s, t, u, hsched, hdelete, hsched', htimers, hsent⟩ := hsched
    obtain ⟨tr, hsteps, -⟩ := hsched.steps
    obtain ⟨tr', hsteps', -⟩ := hsched'.steps
    refine ⟨s, t, tr', u, .timerExpiry 5 ⟨[], [1], none⟩, _, ⟨tr, hsteps⟩, hdelete, hsteps',
      ⟨20, ?_, by decide⟩, hsent, rfl⟩
    rw [htimers]
    exact List.mem_cons_self

end AgentState

end FlexRic
