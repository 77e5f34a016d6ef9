import FlexRic.Net.E2Network
import FlexRic.XApp.Dispatch

/-!
# The process of an xApp (`xApp/e42_xapp.c`, `xApp/msg_generator_xapp.c`, `xApp/msg_handler_xapp.c`)

An xApp from its start on: it sends its setup request, takes its id from the response, and from
then on its threads are those of `xappDispatch`. To these the process adds what they send: the
requests with all that the near-RIC gets to read of them.
-/

namespace FlexRic

/-! ## Messages -/

/-- A message of an xApp to the iApp. -/
inductive E42Msg : Type where
  | setupRequest (req : E42SetupRequest)
  | request (xappId : UInt16) (id : GlobalE2NodeId) (c : E42Content)
  | subscriptionDeleteRequest (req : E42RicSubscriptionDeleteRequest)
  deriving DecidableEq, Repr

/-- A message to an xApp. -/
inductive XappMsg : Type where
  | setupResponse (resp : E42SetupResponse)
  | answer (ans : E2Answer)
  deriving DecidableEq, Repr

/-- By what a response is matched with its request: the event that it removes, and the id. -/
abbrev ReqKey : Type := PendingEvent × RicGenId

/-- The event of the xApp that waits for the response. -/
def E42Kind.eventXapp : E42Kind → PendingEvent
  | subscription => .e42RicSubscriptionRequest
  | control => .e42RicControlRequest

/-- The event of the xApp that waits for the response to the request. -/
def FwdKind.eventXapp : FwdKind → PendingEvent
  | request kind => kind.eventXapp
  | subscriptionDelete => .e42RicSubscriptionDeleteRequest

/-- What the message asks for, if it is a request about an E2 node. -/
def E42Msg.ask : E42Msg → Option (FwdKind × XappRicId)
  | setupRequest _ => none
  | request xappId _ c => some (.request c.kind, ⟨c.ricId, xappId⟩)
  | subscriptionDeleteRequest req => some (.subscriptionDelete, ⟨req.ricId, req.xappId⟩)

/-- What the message is answered by. -/
def E42Msg.key (msg : E42Msg) : Option ReqKey :=
  msg.ask.map fun q => (q.1.eventXapp, q.2.ricId)

theorem E42Msg.filterMap_key (sent : List E42Msg) : sent.filterMap key =
    (sent.filterMap ask).map fun q => (q.1.eventXapp, q.2.ricId) := by
  rw [List.map_filterMap]
  rfl

/-- What the message answers, if it is a response of an E2 node. -/
def E2Answer.key (ans : E2Answer) : Option ReqKey := ans.eventXapp.map fun ev => (ev, ans.ricId)

/-- The message of an E2 node that the xApp is sent. -/
def XappMsg.answer? : XappMsg → Option E2Answer
  | setupResponse _ => none
  | answer ans => some ans

def XappMsg.key (msg : XappMsg) : Option ReqKey := msg.answer?.bind E2Answer.key

def UiRequest.key (r : UiRequest) : ReqKey := (r.call.event, r.id)

theorem UiRequest.answeredBy_iff {r : UiRequest} {ans : E2Answer} :
    r.answeredBy ans = true ↔ ans.key = some r.key := by
  rw [answeredBy, Bool.and_eq_true, decide_eq_true_iff, decide_eq_true_iff, E2Answer.key, key,
    Option.map_eq_some_iff]
  constructor
  · rintro ⟨hev, hid⟩
    exact ⟨_, hev, by rw [hid]⟩
  · rintro ⟨ev, hev, heq⟩
    obtain ⟨rfl, hid⟩ := Prod.mk.inj heq
    exact ⟨hev, hid⟩

/-- `generate_subscription_request` on what the service model's `on_subscription` has answered. -/
def generateSubscriptionRequest (ricId : RicGenId) (data : SmSubsData) :
    Ap.RicSubscriptionRequest :=
  ⟨ricId, data.eventTrigger, [⟨0, .report, data.actionDef, none⟩]⟩

/-- `generate_ric_control_request` on what the service model's `on_control_req` has answered. -/
def generateRicControlRequest (ricId : RicGenId) (data : SmCtrlReqData) :
    Option Ap.RicControlRequest :=
  if data.ctrlHdr.length < 2049 ∧ data.ctrlMsg.length < 2049 then
    some ⟨ricId, none, data.ctrlHdr, data.ctrlMsg, some .ack⟩
  else none

/-! ## The calls of the UI thread -/

/-- What an xApp is started with. -/
structure XappConfig : Type where
  epFd : Fd
  pluginAg : List RanFunction
  pluginRic : List SmRic
  /-- `on_subscription` of the service model of the function, for the interval -/
  onSubscription : UInt16 → InterXapp → SmSubsData

/-- A call of the API. The data of a control request is what the service model makes of it. -/
inductive ApiCall : Type where
  | report (id : GlobalE2NodeId) (ranFuncId : UInt16) (i : InterXapp) (cb : SmCb)
  | rmReport (handle : UInt16)
  | control (id : GlobalE2NodeId) (ranFuncId : UInt16) (data : SmCtrlReqData)

/-- The call as a step of the UI thread. -/
def ApiCall.toThread : ApiCall → XappAction
  | report id ranFuncId i cb => .report id ranFuncId i cb
  | rmReport handle => .rmReport handle
  | control id ranFuncId _ => .control id ranFuncId

/-- The E2 node that the call names. -/
def ApiCall.node : ApiCall → Option GlobalE2NodeId
  | report id _ _ _ => some id
  | rmReport _ => none
  | control id _ _ => some id

/-- The message that a call is going to send: `send_subscription_request`,
`send_ric_subscription_delete` and `send_control_request`. -/
def E42Xapp.draft (x : E42Xapp) (cfg : XappConfig) : ApiCall → Option E42Msg
  | .report id ranFuncId i cb => (x.reportSmSyncXapp id ranFuncId i cb).map fun (ricId, _) =>
      .request x.id id
        (.subscription (generateSubscriptionRequest ricId (cfg.onSubscription ranFuncId i)))
  | .rmReport handle => (x.rmReportSmSyncXapp handle).map fun (ricId, _) =>
      .subscriptionDeleteRequest ⟨x.id, ricId⟩
  | .control id ranFuncId data => (x.controlSmSyncXapp id ranFuncId).bind fun (ricId, _) =>
      (generateRicControlRequest ricId data).map fun cr => .request x.id id (.control cr)

/-- What the near-RIC makes of the request of a call. -/
def UiCall.kind : UiCall → FwdKind
  | report => .request .subscription
  | rmReport => .subscriptionDelete
  | control => .request .control

theorem UiCall.eventXapp_kind (call : UiCall) : call.kind.eventXapp = call.event := by
  cases call <;> rfl

theorem UiCall.eq_rmReport_of_kind {call : UiCall} (h : call.kind = .subscriptionDelete) :
    call = .rmReport := by
  cases call with
  | rmReport => rfl
  | report => cases h
  | control => cases h

/-- The message of a call is about the request that the call begins, and from the xApp. -/
theorem E42Xapp.draft_eq_some {x : E42Xapp} {cfg : XappConfig} {a : ApiCall} {msg : E42Msg}
    (h : x.draft cfg a = some msg) : ∃ call id y, a.toThread.request x = some (call, some (id, y)) ∧
      msg.ask = some (call.kind, ⟨id, x.id⟩) ∧
      ∀ xappId node c, msg = .request xappId node c → a.node = some node := by
  cases a with
  | report node ranFuncId i cb =>
    obtain ⟨⟨id, y⟩, hreq, rfl⟩ := Option.map_eq_some_iff.1 h
    refine ⟨.report, id, y, congrArg (fun r => some (UiCall.report, r)) hreq, rfl, ?_⟩
    rintro _ _ _ ⟨⟩
    rfl
  | rmReport handle =>
    obtain ⟨⟨id, y⟩, hreq, rfl⟩ := Option.map_eq_some_iff.1 h
    refine ⟨.rmReport, id, y, congrArg (fun r => some (UiCall.rmReport, r)) hreq, rfl, ?_⟩
    rintro _ _ _ ⟨⟩
  | control node ranFuncId data =>
    obtain ⟨⟨id, y⟩, hreq, h⟩ := Option.bind_eq_some_iff.1 h
    obtain ⟨cr, hcr, rfl⟩ := Option.map_eq_some_iff.1 h
    obtain ⟨-, heq⟩ := Option.ite_none_right_eq_some.1 hcr
    cases heq
    refine ⟨.control, id, y, congrArg (fun r => some (UiCall.control, r)) hreq, rfl, ?_⟩
    rintro _ _ _ ⟨⟩
    rfl

/-! ## The process -/

/-- Where an xApp is. -/
inductive XappProc : Type where
  /-- not started -/
  | off
  /-- its setup request is sent -/
  | connecting (x : E42Xapp)
  /-- its threads run, and the UI thread is going to send the message `draft` -/
  | connected (d : DispatchState) (draft : Option E42Msg)

/-- A step of an xApp. -/
inductive XappProcAction : Type where
  /-- the xApp starts, and the timer of its setup request is `fd` -/
  | start (fd : Fd)
  /-- the timer `fd` fires before the xApp is connected -/
  | setupTimer (fd : Fd)
  /-- the UI thread makes a call -/
  | call (a : ApiCall)
  /-- the request of the call is sent -/
  | send
  /-- the event loop takes a message -/
  | receive (msg : XappMsg)
  /-- a step that neither takes nor sends a message -/
  | turn (a : DispatchAction)

/-- The steps that neither take nor send a message, and do not begin a call. -/
def DispatchAction.isInternal : DispatchAction → Bool
  | thread (.report _ _ _ _) => false
  | thread (.rmReport _) => false
  | thread (.control _ _) => false
  | thread .sendRequest => false
  | thread (.e2Answer _) => false
  | indication _ => false
  | _ => true

/-- What the threads do with an answer. -/
def E2Answer.toDispatch : E2Answer → DispatchAction
  | indication ind => .indication ind
  | ans => .thread (.e2Answer ans)

/-- The message of an E2 node that the threads take. -/
def DispatchAction.answer? : DispatchAction → Option E2Answer
  | thread (.e2Answer ans) => some ans
  | indication ind => some (.indication ind)
  | _ => none

@[simp] theorem E2Answer.answer?_toDispatch (ans : E2Answer) :
    ans.toDispatch.answer? = some ans := by
  cases ans <;> rfl

theorem DispatchAction.answer?_of_isInternal {a : DispatchAction} (h : a.isInternal = true) :
    a.answer? = none := by
  cases a with
  | thread a => cases a <;> first | rfl | cases h
  | indication => cases h
  | _ => rfl

namespace XappProc

/-- What can happen next. -/
def Enabled (cfg : XappConfig) (p : XappProc) : XappProcAction → Prop
  | .start fd => p = off ∧ 0 < fd ∧ fd ≠ cfg.epFd
  | .setupTimer fd => ∃ x, p = connecting x ∧ fd ∈ x.io ∧ fd ≠ x.epFd
  | .call a => ∃ d m, p = connected d m ∧ d.Enabled (.thread a.toThread)
  | .send => ∃ d m, p = connected d m ∧ d.Enabled (.thread .sendRequest)
  | .receive _ => p ≠ off ∧ ∀ d m, p = connected d m → d.ui.loopPc = .idle ∧ d.pushing = none
  | .turn a => a.isInternal = true ∧ ∃ d m, p = connected d m ∧ d.Enabled a

/-- What the program does, with the message that it sends; `none` is a failing assertion. -/
def step (cfg : XappConfig) (p : XappProc) : XappProcAction → Option (Option E42Msg × XappProc)
  | .start fd =>
    ((E42Xapp.init cfg.epFd cfg.pluginAg cfg.pluginRic).e2apHandleE42SetupRequestXapp fd).map
      fun (req, x) => (some (.setupRequest req), connecting x)
  | .setupTimer fd =>
    match p with
    | connecting x => (x.resendAfterTimeout fd).map fun req => (some (.setupRequest req), p)
    | _ => none
  | .call a =>
    match p with
    | connected d _ => (d.ui.xapp.draft cfg a).bind fun msg =>
        (d.step (.thread a.toThread)).map fun d => (none, connected d (some msg))
    | _ => none
  | .send =>
    match p with
    | connected d draft => draft.bind fun msg =>
        (d.step (.thread .sendRequest)).map fun d => (some msg, connected d none)
    | _ => none
  | .receive (.setupResponse resp) =>
    match p with
    | off => none
    | connecting x => (x.e2apHandleE42SetupResponseXapp resp).map fun x =>
        (none, connected (.init x) none)
    | connected d draft => (d.ui.xapp.e2apHandleE42SetupResponseXapp resp).map fun x =>
        (none, connected { d with ui := { d.ui with xapp := x } } draft)
  | .receive (.answer ans) =>
    match p with
    | off => none
    -- there is no active procedure, so all that can pass is an indication
    | connecting x => (x.e2apMsgHandleXapp ans).map fun (_, x) => (none, connecting x)
    | connected d draft => (d.step ans.toDispatch).map fun d => (none, connected d draft)
  | .turn a =>
    match p with
    | connected d draft => (d.step a).map fun d => (none, connected d draft)
    | _ => none

variable {cfg : XappConfig}

theorem enabled_receive_connecting (x : E42Xapp) (msg : XappMsg) :
    (connecting x).Enabled cfg (.receive msg) := by
  refine ⟨?_, ?_⟩
  · intro heq
    cases heq
  · intro d draft heq
    cases heq

theorem enabled_receive_connected {d : DispatchState} (draft : Option E42Msg) (msg : XappMsg)
    (hpc : d.ui.loopPc = .idle) (hpushing : d.pushing = none) :
    (connected d draft).Enabled cfg (.receive msg) := by
  refine ⟨?_, ?_⟩
  · intro heq
    cases heq
  · intro d' draft' heq
    cases heq
    exact ⟨hpc, hpushing⟩

end XappProc

end FlexRic
