import FlexRic.Semantics.System
import FlexRic.Ric.NearRic
import FlexRic.Ric.Iapp

/-!
# The two threads of the near-RIC

The iApp's thread takes the requests of the xApps and forwards them; the near-RIC's thread takes
the messages of the E2 nodes and the timers, and answers the xApps. They share the near-RIC's
pending timers and the iApp's maps. `threads` is their interleaving: an action is one step of one
of the two threads, cut at the points where the other one can see or change something.

* `map_ric_id.mtx` is held from the acceptance of a subscription or control request until its
  insertion in the map, and the near-RIC's thread needs it to look an answer up.
* The system also records what went in and out: the timers armed so far, the requests forwarded,
  those of them not answered yet, the messages received and delivered, and the xApp ids assigned.
  No function of the code reads these.
-/

namespace FlexRic

/-- A request that an xApp can make of an E2 node. -/
inductive E42Kind : Type where
  | subscription
  | control
  deriving DecidableEq, Repr

/-- A request that the near-RIC forwards. -/
inductive FwdKind : Type where
  | request (kind : E42Kind)
  | subscriptionDelete
  deriving DecidableEq, Repr

/-- The event that the timer of a forwarded request waits for. -/
def FwdKind.event : FwdKind → PendingEvent
  | request .subscription => .subscriptionRequest
  | request .control => .controlRequest
  | subscriptionDelete => .subscriptionDeleteRequest

/-- A request on its way to an E2 node. -/
structure Fwd : Type where
  kind : FwdKind
  /-- the E2 node it goes to -/
  node : GlobalE2NodeId
  /-- the id it is forwarded with -/
  ricId : RicGenId
  /-- the xApp's own request, as in `map_ric_id` -/
  x : XappRicId
  /-- where the xApp's message came from -/
  src : SctpInfo
  deriving DecidableEq, Repr

/-- The pending event of a forwarded request. -/
def Fwd.event (r : Fwd) : PendingEventRic := ⟨r.kind.event, r.ricId⟩

/-- The request, if it is one that goes to `map_ric_id`. -/
def Fwd.newEntry (r : Fwd) : List Fwd :=
  match r.kind with
  | .request _ => [r]
  | .subscriptionDelete => []

/-- The id that a request has in `map_ric_id`. -/
def Fwd.reqId (r : Fwd) : UInt16 := r.ricId.ricReqId.toUInt16

/-- Where the iApp's thread is. -/
inductive IappPc : Type where
  /-- waiting for a message -/
  | idle
  /-- the request is checked and has its id -/
  | start (r : Fwd)
  /-- its timer is armed -/
  | armed (r : Fwd) (fd : Fd)
  /-- its timer is registered -/
  | registered (r : Fwd)
  /-- it is sent but not in `map_ric_id` yet -/
  | sent (r : Fwd)
  deriving DecidableEq, Repr

namespace IappPc

/-- The request on its way to `map_ric_id`; a delete request does not go there. -/
def entering : IappPc → List Fwd
  | idle => []
  | start r => r.newEntry
  | armed r _ => r.newEntry
  | registered r => r.newEntry
  | sent r => [r]

/-- The request being forwarded. -/
def current : IappPc → List Fwd
  | idle => []
  | start r => [r]
  | armed r _ => [r]
  | registered r => [r]
  | sent r => [r]

/-- The request that will be sent and then go to `map_ric_id`. -/
def unsentEntry : IappPc → List Fwd
  | sent _ => []
  | pc => pc.entering

@[simp] theorem entering_idle : idle.entering = [] := rfl
@[simp] theorem entering_start (r : Fwd) : (start r).entering = r.newEntry := rfl
@[simp] theorem entering_armed (r : Fwd) (fd : Fd) : (armed r fd).entering = r.newEntry := rfl
@[simp] theorem entering_registered (r : Fwd) : (registered r).entering = r.newEntry := rfl
@[simp] theorem entering_sent (r : Fwd) : (sent r).entering = [r] := rfl

/-- Whether the iApp's thread holds `map_ric_id.mtx`. -/
def holdsMapMtx (pc : IappPc) : Bool := !pc.entering.isEmpty

/-- The timers armed and not registered yet. -/
def unregistered : IappPc → List (Fd × PendingEventRic)
  | armed r fd => [(fd, r.event)]
  | _ => []

/-- The events registered for a request that is not sent yet. -/
def unsent : IappPc → List PendingEventRic
  | registered r => [r.event]
  | _ => []

end IappPc

/-- Where the near-RIC's thread is. -/
inductive RicPc : Type where
  /-- waiting for an event -/
  | idle
  /-- the iApp is to be notified of a message -/
  | notify (ans : E2Answer)
  /-- the message is found to answer the request `x` -/
  | routed (x : XappRicId) (ans : E2Answer)
  deriving DecidableEq, Repr

/-- The message that the near-RIC's thread works on. -/
def RicPc.answers : RicPc → List E2Answer
  | idle => []
  | notify ans => [ans]
  | routed _ ans => [ans]

/-- An answer on its way to an xApp. -/
structure Delivery : Type where
  /-- the message of the E2 node -/
  ans : E2Answer
  /-- where the answer is sent to -/
  dst : SctpInfo
  /-- the message that is sent -/
  msg : E2Answer
  deriving DecidableEq, Repr

/-- The state of the two threads and the record of what happened. -/
structure RicState : Type where
  ric : NearRic
  iapp : Iapp
  iappPc : IappPc
  ricPc : RicPc
  /-- the timers armed and not stopped, each with the event it was armed for -/
  timers : List (Fd × PendingEventRic)
  forwarded : List Fwd
  /-- the events of the forwarded requests that have no answer yet -/
  outstanding : List PendingEventRic
  received : List E2Answer
  delivered : List Delivery
  /-- the xApp ids given out in E42 setup responses -/
  assigned : List UInt16

/-- A step of one of the two threads. -/
inductive RicAction : Type where
  /-- an E42 setup request from the address `src` -/
  | e42SetupRequest (req : E42SetupRequest) (src : SctpInfo)
  /-- an E42 subscription or control request -/
  | e42RicRequest (kind : E42Kind) (req : E42RicRequest) (src : SctpInfo)
  /-- an E42 subscription delete request -/
  | e42RicSubscriptionDeleteRequest (req : E42RicSubscriptionDeleteRequest) (src : SctpInfo)
  /-- the timer is created; the kernel gives it the descriptor `fd` -/
  | createTimer (fd : Fd)
  /-- the timer is registered in `pending` -/
  | insertPending
  /-- the request is sent to its E2 node -/
  | sendRequest
  /-- the request is entered in `map_ric_id` -/
  | addMapRicId
  /-- an E2 setup request from the address `src` -/
  | e2SetupRequest (req : E2SetupRequest) (src : SctpInfo)
  /-- a message of an E2 node that the near-RIC handles for the iApp -/
  | e2Answer (ans : E2Answer)
  /-- the answered request is looked up -/
  | findXapp
  /-- the answer is sent to the xApp -/
  | sendAnswer
  /-- the timer `fd` fires -/
  | timerExpiry (fd : Fd)
  deriving DecidableEq, Repr

namespace RicState

/-- The start of `nearRT-RIC`. -/
def init (epFd : Fd) (plugin : List SmRic) : RicState where
  ric := .init epFd plugin
  iapp := .init
  iappPc := .idle
  ricPc := .idle
  timers := []
  forwarded := []
  outstanding := []
  received := []
  delivered := []
  assigned := []

/-- What can happen next: each thread does one thing at a time, the kernel answers
`timerfd_create` with an unused descriptor, and only the timers in the epoll instance fire. -/
def Enabled (s : RicState) : RicAction → Prop
  | .e42SetupRequest _ _ => s.iappPc = .idle
  | .e42RicRequest _ _ _ => s.iappPc = .idle
  | .e42RicSubscriptionDeleteRequest _ _ => s.iappPc = .idle
  | .createTimer fd => (∃ r, s.iappPc = .start r) ∧ 0 < fd ∧ fd ∉ s.ric.io
  | .insertPending => ∃ r fd, s.iappPc = .armed r fd
  | .sendRequest => ∃ r, s.iappPc = .registered r
  | .addMapRicId => ∃ r, s.iappPc = .sent r
  | .e2SetupRequest _ _ => s.ricPc = .idle
  | .e2Answer _ => s.ricPc = .idle
  | .findXapp => (∃ ans, s.ricPc = .notify ans) ∧ s.iappPc.holdsMapMtx = false
  | .sendAnswer => ∃ x ans, s.ricPc = .routed x ans
  | .timerExpiry fd => s.ricPc = .idle ∧ fd ∈ s.ric.io ∧ fd ≠ s.ric.epFd

/-- Acceptance of an E42 setup request. -/
def setupXapp (s : RicState) (req : E42SetupRequest) (src : SctpInfo) : Option RicState :=
  (s.iapp.setupXapp req src).map fun (resp, iapp) =>
    { s with iapp := iapp, assigned := resp.xappId :: s.assigned }

/-- Acceptance of an E42 subscription or control request: after its checks it gets a fresh id,
which is written into the low half of its `ric_req_id`. -/
def acceptRequest (s : RicState) (kind : E42Kind) (req : E42RicRequest) (src : SctpInfo) :
    Option RicState :=
  (s.iapp.checkE42RicRequest req).map fun x =>
    let (newId, ric) := s.ric.nextReqId
    { s with
      ric := ric
      iappPc := .start ⟨.request kind, req.id, req.ricId.setReqIdLow newId, x, src⟩ }

/-- Acceptance of an E42 subscription delete request. -/
def acceptDelete (s : RicState) (req : E42RicSubscriptionDeleteRequest) (src : SctpInfo) :
    Option RicState :=
  (s.iapp.checkE42RicSubscriptionDeleteRequest req).map fun (node, ricId) =>
    { s with iappPc := .start ⟨.subscriptionDelete, node, ricId, ⟨req.ricId, req.xappId⟩, src⟩ }

/-- After the sending a delete request is done, the other requests go on to `map_ric_id`. -/
def afterSend (r : Fwd) : IappPc :=
  match r.kind with
  | .request _ => .sent r
  | .subscriptionDelete => .idle

/-- What the program does; `none` is a failing assertion. -/
def step (s : RicState) : RicAction → Option RicState
  | .e42SetupRequest req src => s.setupXapp req src
  | .e42RicRequest kind req src => s.acceptRequest kind req src
  | .e42RicSubscriptionDeleteRequest req src => s.acceptDelete req src
  | .createTimer fd =>
    match s.iappPc with
    | .start r => (s.ric.createTimerMsAsioRic fd).map fun ric =>
        { s with ric := ric, iappPc := .armed r fd, timers := (fd, r.event) :: s.timers }
    | _ => none
  | .insertPending =>
    match s.iappPc with
    | .armed r fd => some
        { s with ric := s.ric.insertPending fd r.event, iappPc := .registered r }
    | _ => none
  | .sendRequest =>
    match s.iappPc with
    | .registered r => (s.ric.findMapE2NodeSad r.node).map fun _ =>
        { s with
          iappPc := afterSend r
          forwarded := r :: s.forwarded
          outstanding := r.event :: s.outstanding }
    | _ => none
  | .addMapRicId =>
    match s.iappPc with
    | .sent r => (s.iapp.addMapRicId ⟨r.node, r.reqId⟩ r.x).map fun iapp =>
        { s with iapp := iapp, iappPc := .idle }
    | _ => none
  | .e2SetupRequest req src =>
    let ric := s.ric.e2apRegSockAddrRic req.id src
    (ric.e2apHandleSetupRequestRic s.iapp.e2Nodes req).map fun (_, ric, nodes) =>
      { s with ric := ric, iapp := { s.iapp with e2Nodes := nodes } }
  | .e2Answer ans =>
    (s.ric.e2apMsgHandleRic ans).map fun ric =>
      { s with
        ric := ric
        ricPc := .notify ans
        timers := s.timers.filter fun t => t.1 ∈ ric.io
        outstanding := ans.pendingEvent.elim s.outstanding fun ev => s.outstanding.erase ev
        received := ans :: s.received }
  | .findXapp =>
    match s.ricPc with
    | .notify ans => (s.iapp.findXappMapRicId ans.ricId.ricReqId.toUInt16).map fun x =>
        { s with ricPc := .routed x ans }
    | _ => none
  | .sendAnswer =>
    match s.ricPc with
    | .routed x ans => (s.iapp.e2apMsgHandleIapp x ans).map fun (dst, msg) =>
        { s with ricPc := .idle, delivered := ⟨ans, dst, msg⟩ :: s.delivered }
    | _ => none
  | .timerExpiry fd =>
    match s.ric.nextAsioEventRic (some fd) .payload with
    | some (.pendingEvent _) => some s
    | _ => none

end RicState

/-- The interleaving of the two threads. The socket's descriptor and the plugins found at start-up
are parameters. -/
def threads (epFd : Fd) (plugin : List SmRic) : System RicState RicAction where
  init := .init epFd plugin
  enabled := RicState.Enabled
  step := RicState.step

/-! ## What a step can do -/

namespace RicState

/-- Sending a request leaves nothing to be registered and nothing to be sent. -/
@[simp] theorem unregistered_afterSend (r : Fwd) : (afterSend r).unregistered = [] := by
  cases r with
  | mk kind => cases kind <;> rfl

@[simp] theorem unsentEntry_afterSend (r : Fwd) : (afterSend r).unsentEntry = [] := by
  cases r with
  | mk kind => cases kind <;> rfl

@[simp] theorem unsent_afterSend (r : Fwd) : (afterSend r).unsent = [] := by
  cases r with
  | mk kind => cases kind <;> rfl

/-- After the sending the request is on its way to `map_ric_id` if it was before. -/
@[simp] theorem entering_afterSend (r : Fwd) : (afterSend r).entering = r.newEntry := by
  cases r with
  | mk kind => cases kind <;> rfl

/-- The steps that go through, with the state each one leads to. -/
inductive Trans (s : RicState) : RicAction → RicState → Prop
  | e42SetupRequest {req : E42SetupRequest} {src : SctpInfo} {resp : E42SetupResponse}
      {iapp : Iapp} (hpc : s.iappPc = .idle) (h : s.iapp.setupXapp req src = some (resp, iapp)) :
      Trans s (.e42SetupRequest req src)
        { s with iapp := iapp, assigned := resp.xappId :: s.assigned }
  | e42RicRequest {kind : E42Kind} {req : E42RicRequest} {src : SctpInfo}
      (hpc : s.iappPc = .idle) (hid : s.iapp.validXappId req.xappId)
      (hnode : s.iapp.validGlobalE2Node req.id = some true) :
      Trans s (.e42RicRequest kind req src) { s with
        ric := { s.ric with reqId := s.ric.reqId + 1 }
        iappPc := .start ⟨.request kind, req.id, req.ricId.setReqIdLow s.ric.reqId.toUInt16,
          ⟨req.ricId, req.xappId⟩, src⟩ }
  | e42RicSubscriptionDeleteRequest {req : E42RicSubscriptionDeleteRequest} {src : SctpInfo}
      {n : E2NodeRicReq} (hpc : s.iappPc = .idle)
      (h : ((⟨req.ricId, req.xappId⟩ : XappRicId), n) ∈ s.iapp.mapRicId.right.toList) :
      Trans s (.e42RicSubscriptionDeleteRequest req src) { s with
        iappPc := .start ⟨.subscriptionDelete, n.e2NodeId,
          { req.ricId with ricReqId := n.ricReqId.toUInt32 }, ⟨req.ricId, req.xappId⟩, src⟩ }
  | createTimer {fd : Fd} {r : Fwd} (hpc : s.iappPc = .start r) (hpos : 0 < fd)
      (hfresh : fd ∉ s.ric.io) :
      Trans s (.createTimer fd) { s with
        ric := { s.ric with io := fd :: s.ric.io }
        iappPc := .armed r fd
        timers := (fd, r.event) :: s.timers }
  | insertPending {r : Fwd} {fd : Fd} (hpc : s.iappPc = .armed r fd) :
      Trans s .insertPending
        { s with ric := s.ric.insertPending fd r.event, iappPc := .registered r }
  | sendRequest {r : Fwd} {dst : SctpInfo} (hpc : s.iappPc = .registered r)
      (h : s.ric.findMapE2NodeSad r.node = some dst) :
      Trans s .sendRequest { s with
        iappPc := afterSend r
        forwarded := r :: s.forwarded
        outstanding := r.event :: s.outstanding }
  | addMapRicId {r : Fwd} (hpc : s.iappPc = .sent r)
      (h : ∀ e ∈ s.iapp.mapRicId.toList, e.1.ricReqId ≠ r.reqId) :
      Trans s .addMapRicId { s with
        iapp := { s.iapp with
          mapRicId := s.iapp.mapRicId.insert cmpE2NodeRicReq cmpXappRicGenId
            ⟨r.node, r.reqId⟩ r.x }
        iappPc := .idle }
  | e2SetupRequest {req : E2SetupRequest} {src : SctpInfo} {resp : E2SetupResponse}
      {nodes : RegE2Nodes} (hpc : s.ricPc = .idle)
      (hadd : s.iapp.e2Nodes.add req.id req.ranFuncItem = some nodes) :
      Trans s (.e2SetupRequest req src) { s with
        ric := { s.ric.e2apRegSockAddrRic req.id src with
          connE2Nodes := s.ric.connE2Nodes ++ [⟨req.id, resp.accepted⟩] }
        iapp := { s.iapp with e2Nodes := nodes } }
  | response {ans : E2Answer} {ev : PendingEventRic} {fd : Fd}
      {pending : BiMap Fd PendingEventRic} (hpc : s.ricPc = .idle)
      (hev : ans.pendingEvent = some ev)
      (h : s.ric.pending.extractRight cmpFd cmpPendingEventRic ev = some (fd, pending))
      (hfd : fd ∈ s.ric.io) :
      Trans s (.e2Answer ans) { s with
        ric := { s.ric with pending := pending, io := s.ric.io.erase fd }
        ricPc := .notify ans
        timers := s.timers.filter fun t => t.1 ∈ s.ric.io.erase fd
        outstanding := s.outstanding.erase ev
        received := ans :: s.received }
  | indication {ans : E2Answer} (hpc : s.ricPc = .idle) (hev : ans.pendingEvent = none) :
      Trans s (.e2Answer ans) { s with
        ricPc := .notify ans
        timers := s.timers.filter fun t => t.1 ∈ s.ric.io
        received := ans :: s.received }
  | findXapp {ans : E2Answer} {x : XappRicId} (hpc : s.ricPc = .notify ans)
      (hmtx : s.iappPc.holdsMapMtx = false)
      (h : s.iapp.findXappMapRicId ans.ricId.ricReqId.toUInt16 = some x) :
      Trans s .findXapp { s with ricPc := .routed x ans }
  | sendAnswer {x : XappRicId} {ans msg : E2Answer} {dst : SctpInfo}
      (hpc : s.ricPc = .routed x ans)
      (h : s.iapp.e2apMsgHandleIapp x ans = some (dst, msg)) :
      Trans s .sendAnswer
        { s with ricPc := .idle, delivered := ⟨ans, dst, msg⟩ :: s.delivered }
  | timerExpiry {fd : Fd} (hpc : s.ricPc = .idle) : Trans s (.timerExpiry fd) s

/-- The inversion of `step`. -/
theorem trans_of_step {s t : RicState} {a : RicAction} (he : s.Enabled a)
    (h : s.step a = some t) : s.Trans a t := by
  cases a with
  | e42SetupRequest req src =>
    obtain ⟨⟨resp, iapp⟩, hset, rfl⟩ := Option.map_eq_some_iff.1 h
    exact .e42SetupRequest he hset
  | e42RicRequest kind req src =>
    obtain ⟨x, hx, rfl⟩ := Option.map_eq_some_iff.1 h
    obtain ⟨⟨hid, hnode⟩, rfl⟩ := Iapp.checkE42RicRequest_eq_some.1 hx
    exact .e42RicRequest he hid hnode
  | e42RicSubscriptionDeleteRequest req src =>
    obtain ⟨⟨node, ricId⟩, hx, rfl⟩ := Option.map_eq_some_iff.1 h
    obtain ⟨n, hmem, rfl, rfl⟩ := Iapp.checkE42RicSubscriptionDeleteRequest_eq_some hx
    exact .e42RicSubscriptionDeleteRequest he hmem
  | createTimer fd =>
    obtain ⟨⟨r, hpc⟩, hpos, hfresh⟩ := he
    simp only [step, hpc] at h
    obtain ⟨ric, hric, rfl⟩ := Option.map_eq_some_iff.1 h
    obtain ⟨-, rfl⟩ := NearRic.createTimer_eq_some.1 hric
    exact .createTimer hpc hpos hfresh
  | insertPending =>
    obtain ⟨r, fd, hpc⟩ := he
    simp only [step, hpc] at h
    cases h
    exact .insertPending hpc
  | sendRequest =>
    obtain ⟨r, hpc⟩ := he
    simp only [step, hpc] at h
    obtain ⟨dst, hdst, rfl⟩ := Option.map_eq_some_iff.1 h
    exact .sendRequest hpc hdst
  | addMapRicId =>
    obtain ⟨r, hpc⟩ := he
    simp only [step, hpc] at h
    obtain ⟨iapp, hadd, rfl⟩ := Option.map_eq_some_iff.1 h
    obtain ⟨hfresh, rfl⟩ := Iapp.addMapRicId_eq_some.1 hadd
    exact .addMapRicId hpc hfresh
  | e2SetupRequest req src =>
    obtain ⟨⟨resp, ric, nodes⟩, hset, rfl⟩ := Option.map_eq_some_iff.1 h
    obtain ⟨-, hset⟩ := Option.ite_none_left_eq_some.1 hset
    obtain ⟨nodes', hadd, hset⟩ := Option.bind_eq_some_iff.1 hset
    obtain ⟨resp', -, heq⟩ := Option.map_eq_some_iff.1 hset
    cases heq
    exact .e2SetupRequest he hadd
  | e2Answer ans =>
    obtain ⟨ric, hric, rfl⟩ := Option.map_eq_some_iff.1 h
    have hhandled := NearRic.e2apMsgHandleRic_eq_some hric
    cases hev : ans.pendingEvent with
    | none =>
      simp only [hev] at hhandled
      subst hhandled
      exact .indication he hev
    | some ev =>
      simp only [hev] at hhandled
      obtain ⟨fd, pending, hext, -, hfd, rfl⟩ := NearRic.stopPendingEvent_eq_some hhandled
      exact .response he hev hext hfd
  | findXapp =>
    obtain ⟨⟨ans, hpc⟩, hmtx⟩ := he
    simp only [step, hpc] at h
    obtain ⟨x, hx, rfl⟩ := Option.map_eq_some_iff.1 h
    exact .findXapp hpc hmtx hx
  | sendAnswer =>
    obtain ⟨x, ans, hpc⟩ := he
    simp only [step, hpc] at h
    obtain ⟨⟨dst, msg⟩, hx, rfl⟩ := Option.map_eq_some_iff.1 h
    exact .sendAnswer hpc hx
  | timerExpiry fd =>
    simp only [step] at h
    split at h
    · cases h
      exact .timerExpiry he.1
    · cases h

end RicState

/-- An invariant of the two threads, checked on the steps that go through. -/
theorem threads_invariant {epFd : Fd} {plugin : List SmRic} {P : RicState → Prop} {s : RicState}
    (h : (threads epFd plugin).Reachable s) (hinit : P (.init epFd plugin))
    (hstep : ∀ s a t, P s → s.Trans a t → P t) : P s :=
  h.invariant hinit fun s a t hs he ht => hstep s a t hs (RicState.trans_of_step he ht)

/-- The registry of the iApp stays well formed. -/
theorem RicState.e2Nodes_wf {epFd : Fd} {plugin : List SmRic} {s : RicState}
    (h : (threads epFd plugin).Reachable s) : s.iapp.e2Nodes.WF := by
  apply @threads_invariant epFd plugin (fun s => s.iapp.e2Nodes.WF) s h RegE2Nodes.wf_init
  intro s a t hwf htrans
  cases htrans with
  | e42SetupRequest _ hset =>
    obtain ⟨⟨-, -, rfl⟩, -⟩ := Iapp.setupXapp_eq_some.1 hset
    exact hwf
  | e2SetupRequest _ hadd => exact hwf.add hadd
  | _ => exact hwf

/-- A run goes on with a step that is enabled and goes through. -/
theorem threads_cons {epFd : Fd} {plugin : List SmRic} {tr : List (RicState × RicAction)}
    {s t : RicState} {a : RicAction} (h : (threads epFd plugin).Run tr s) (he : s.Enabled a)
    (ht : s.step a = some t) : (threads epFd plugin).Run ((s, a) :: tr) t :=
  h.cons he ht

/-! ## A small network

The E2 node and one xApp, for the runs below. -/

namespace Sample

/-- A request of the xApp, which has the id 7. -/
def request : E42RicRequest := ⟨7, node, ⟨5, 0, 142⟩⟩

/-- The near-RIC of the network. -/
def ric : System RicState RicAction := threads 3 [sm]

/-- The E2 node has set up. -/
def registered : RicState :=
  (RicState.step (.init 3 [sm]) (.e2SetupRequest ⟨node, [rf]⟩ nodeAddr)).get rfl

/-- The xApp has set up as well. -/
def connected : RicState := (registered.step (.e42SetupRequest ⟨[rf]⟩ xappAddr)).get rfl

/-- The two setups. -/
def setup : List (RicState × RicAction) :=
  [(registered, .e42SetupRequest ⟨[rf]⟩ xappAddr),
    (.init 3 [sm], .e2SetupRequest ⟨node, [rf]⟩ nodeAddr)]

theorem run_setup : ric.Run setup connected :=
  threads_cons (threads_cons .nil rfl rfl) rfl rfl

/-- The steps that forward a request with the timer `fd`. -/
def forward (kind : E42Kind) (fd : Fd) : List RicAction :=
  [.e42RicRequest kind request xappAddr, .createTimer fd, .insertPending, .sendRequest,
    .addMapRicId]

/-- What can be done after the setup leads to a reachable state. -/
theorem reachable_of_sched {as : List RicAction} {s : RicState} (h : ric.Sched connected as s) :
    ric.Reachable s := by
  obtain ⟨tr, hsteps, -⟩ := h.steps
  exact ⟨_, run_setup.trans hsteps⟩

end Sample

end FlexRic
