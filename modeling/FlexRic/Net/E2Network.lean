import FlexRic.Semantics.Channels
import FlexRic.Agent.Handlers
import FlexRic.Ric.Routing

/-!
# The network of the near-RIC and its E2 nodes

The two threads of the near-RIC and the event loops of the agents run side by side, and every
message between them is in flight for a while. An association delivers the messages of one
direction in order, since everything is sent on one stream. The requests of the xApps come from
outside.

The near-RIC is the one of `threads`, and an agent is the one of its event loop; here a request has
its content as well, which the handler of the iApp keeps until it is sent. The network records
which requests were sent, and the channels what was delivered; no function of the code reads these.
-/

namespace FlexRic

/-- The E2 nodes that connect to a near-RIC. -/
structure E2Network (ι : Type) : Type where
  /-- the socket of the near-RIC -/
  epFd : Fd
  /-- its service models -/
  plugin : List SmRic
  /-- the service models of each agent -/
  sms : ι → List SmAgent
  /-- the id of each node -/
  nodeId : ι → GlobalE2NodeId
  /-- the address that each node sends from -/
  addr : ι → SctpInfo
  /-- no two nodes have the same address -/
  addr_injective : Function.Injective addr
  /-- no two nodes have the same id, as the program compares ids -/
  distinct : ∀ i j, eqGlobalE2NodeId (nodeId i) (nodeId j) = true → i = j

/-- A request of an xApp, with what it says. -/
inductive E42Content : Type where
  | subscription (sr : Ap.RicSubscriptionRequest)
  | control (cr : Ap.RicControlRequest)
  deriving DecidableEq, Repr

namespace E42Content

def kind : E42Content → E42Kind
  | subscription _ => .subscription
  | control _ => .control

/-- The xApp's id of the request. -/
def ricId : E42Content → RicGenId
  | subscription sr => sr.ricId
  | control cr => cr.ricId

/-- The request as the near-RIC sends it: nothing but the id is replaced. -/
def forward (id : RicGenId) : E42Content → E2RicMsg
  | subscription sr => .subscriptionRequest { sr with ricId := id }
  | control cr => .controlRequest { cr with ricId := id }

end E42Content

/-- The message that a request is sent as. A subscription or control request has its content. -/
def Fwd.message (r : Fwd) (content : Option E42Content) : Option E2RicMsg :=
  match r.kind with
  | .request _ => content.map (E42Content.forward r.ricId)
  | .subscriptionDelete => some (.subscriptionDeleteRequest r.ricId)

/-- A request that was sent to a node. -/
structure SentRequest (ι : Type) : Type where
  node : ι
  fwd : Fwd
  content : Option E42Content

/-- The state of a network. -/
structure NetState (ι : Type) : Type where
  ric : RicState
  /-- the content of the request that the iApp's thread forwards -/
  content : Option E42Content
  /-- the agents that were started -/
  node : ι → Option AgentState
  /-- from the near-RIC to the nodes -/
  down : Channels ι E2RicMsg
  /-- from the nodes to the near-RIC -/
  up : Channels ι E2NodeMsg
  /-- the requests sent so far, the last one first -/
  sent : List (SentRequest ι)

/-- A step of a network. -/
inductive NetAction (ι : Type) : Type where
  /-- a step of the near-RIC with nothing to or from the E2 nodes -/
  | ric (a : RicAction)
  /-- an E42 subscription or control request arrives from the address `src` -/
  | e42Request (xappId : UInt16) (id : GlobalE2NodeId) (c : E42Content) (src : SctpInfo)
  /-- the request that is being forwarded goes out to the node `i` -/
  | sendRequest (i : ι)
  /-- the near-RIC takes a message of the node `i` -/
  | ricReceive (i : ι)
  /-- the agent of the node `i` starts with the socket `epFd` and the timer `fd` -/
  | start (i : ι) (epFd fd : Fd)
  /-- the agent takes a message; a new timer would be `fd`, and `onControl` is what its service
  model would do -/
  | nodeReceive (i : ι) (fd : Fd) (onControl : SmCtrlReqData → Option (List UInt8))
  /-- a timer of the agent fires, and the service model would read `data` -/
  | nodeTimer (i : ι) (fd : Fd) (data : SmIndData)

/-- The steps of the near-RIC that are its own. -/
def RicAction.isInternal : RicAction → Bool
  | .e42RicRequest _ _ _ => false
  | .sendRequest => false
  | .e2SetupRequest _ _ => false
  | .e2Answer _ => false
  | _ => true

/-- The response to the setup request of the node at the address `src`. -/
def RicState.setupResponse (s : RicState) (req : E2SetupRequest) (src : SctpInfo) :
    Option E2SetupResponse :=
  ((s.ric.e2apRegSockAddrRic req.id src).e2apHandleSetupRequestRic s.iapp.e2Nodes req).map Prod.fst

namespace NetState

variable {ι : Type} [DecidableEq ι]

/-- Nothing is started and nothing is in flight. -/
def init (N : E2Network ι) : NetState ι where
  ric := .init N.epFd N.plugin
  content := none
  node := fun _ => none
  down := ⟨[], []⟩
  up := ⟨[], []⟩
  sent := []

/-- The state after a turn of an agent, which may send a message. -/
def answer (s : NetState ι) (i : ι) (msg : Option E2NodeMsg) (ag : AgentState) : NetState ι :=
  { s with
    node := Function.update s.node i (some ag)
    up := msg.elim s.up (s.up.send i) }

/-- What can happen next: what can happen in the near-RIC and in the agents, when the messages it
takes are there. A request goes out to the node with the address that is found for it. -/
def Enabled (N : E2Network ι) (s : NetState ι) : NetAction ι → Prop
  | .ric a => a.isInternal = true ∧ s.ric.Enabled a
  | .e42Request _ _ _ _ => s.ric.iappPc = .idle
  | .sendRequest i => ∃ r, s.ric.iappPc = .registered r ∧
      ∀ dst, s.ric.ric.findMapE2NodeSad r.node = some dst → N.addr i = dst
  | .ricReceive i => s.ric.ricPc = .idle ∧ ∃ m, (i, m) ∈ s.up.flight
  | .start i _ _ => s.node i = none
  | .nodeReceive i fd _ => ∃ ag, s.node i = some ag ∧ 0 < fd ∧ fd ∉ ag.ag.io ∧
      ∃ m, (i, m) ∈ s.down.flight
  | .nodeTimer i fd _ => ∃ ag ms, s.node i = some ag ∧ ag.Armed fd ms

/-- What the programs do; `none` is a failing assertion in one of them. -/
def step (N : E2Network ι) (s : NetState ι) : NetAction ι → Option (NetState ι)
  | .ric a => (s.ric.step a).map fun ric => { s with ric := ric }
  | .e42Request xappId id c src =>
    (s.ric.step (.e42RicRequest c.kind ⟨xappId, id, c.ricId⟩ src)).map fun ric =>
      { s with ric := ric, content := some c }
  | .sendRequest i =>
    match s.ric.iappPc with
    | .registered r =>
      (s.ric.step .sendRequest).bind fun ric => (r.message s.content).map fun msg =>
        { s with
          ric := ric
          down := s.down.send i msg
          sent := ⟨i, r, s.content⟩ :: s.sent }
    | _ => none
  | .ricReceive i =>
    (s.up.receive i).bind fun
      | (.setupRequest req, up) =>
        (s.ric.setupResponse req (N.addr i)).bind fun resp =>
          (s.ric.step (.e2SetupRequest req (N.addr i))).map fun ric =>
            { s with ric := ric, up := up, down := s.down.send i (.setupResponse resp) }
      | (.answer ans, up) =>
        (s.ric.step (.e2Answer ans)).map fun ric => { s with ric := ric, up := up }
  | .start i epFd fd =>
    (AgentState.startUp epFd (N.sms i) (N.nodeId i) fd).map fun (req, ag) =>
      s.answer i (some (.setupRequest req)) ag
  | .nodeReceive i fd onControl =>
    (s.node i).bind fun ag => (s.down.receive i).bind fun (msg, down) =>
      (ag.receive (N.sms i) fd onControl msg).map fun (ans, ag) =>
        { s with down := down }.answer i ans ag
  | .nodeTimer i fd data =>
    (s.node i).bind fun ag =>
      (ag.turn (N.sms i) (.timerExpiry fd data)).map fun (msg, ag) =>
        s.answer i (msg.map AgentMsg.toNodeMsg) ag

end NetState

/-- The network. -/
def e2Network {ι : Type} [DecidableEq ι] (N : E2Network ι) : System (NetState ι) (NetAction ι) where
  init := .init N
  enabled := NetState.Enabled N
  step := NetState.step N

namespace NetState

variable {ι : Type} [DecidableEq ι] {N : E2Network ι}

/-! ## What a step can do -/

/-- The steps that go through, with the state each one leads to. -/
inductive Trans (N : E2Network ι) (s : NetState ι) : NetAction ι → NetState ι → Prop
  | ric {a : RicAction} {ric : RicState} (hint : a.isInternal = true) (he : s.ric.Enabled a)
      (h : s.ric.step a = some ric) : Trans N s (.ric a) { s with ric := ric }
  | e42Request {xappId : UInt16} {id : GlobalE2NodeId} {c : E42Content} {src : SctpInfo}
      {ric : RicState} (he : s.ric.iappPc = .idle)
      (h : s.ric.step (.e42RicRequest c.kind ⟨xappId, id, c.ricId⟩ src) = some ric) :
      Trans N s (.e42Request xappId id c src) { s with ric := ric, content := some c }
  | sendRequest {i : ι} {r : Fwd} {ric : RicState} {msg : E2RicMsg}
      (hpc : s.ric.iappPc = .registered r)
      (hdst : s.ric.ric.findMapE2NodeSad r.node = some (N.addr i))
      (h : s.ric.step .sendRequest = some ric) (hmsg : r.message s.content = some msg) :
      Trans N s (.sendRequest i) { s with
        ric := ric
        down := s.down.send i msg
        sent := ⟨i, r, s.content⟩ :: s.sent }
  | setupRequest {i : ι} {req : E2SetupRequest} {up : Channels ι E2NodeMsg}
      {resp : E2SetupResponse} {ric : RicState} (hpc : s.ric.ricPc = .idle)
      (hup : s.up.receive i = some (.setupRequest req, up))
      (h : s.ric.step (.e2SetupRequest req (N.addr i)) = some ric) :
      Trans N s (.ricReceive i)
        { s with ric := ric, up := up, down := s.down.send i (.setupResponse resp) }
  | e2Answer {i : ι} {ans : E2Answer} {up : Channels ι E2NodeMsg} {ric : RicState}
      (hpc : s.ric.ricPc = .idle) (hup : s.up.receive i = some (.answer ans, up))
      (h : s.ric.step (.e2Answer ans) = some ric) :
      Trans N s (.ricReceive i) { s with ric := ric, up := up }
  | start {i : ι} {epFd fd : Fd} {req : E2SetupRequest} {ag : AgentState}
      (hnew : s.node i = none)
      (h : AgentState.startUp epFd (N.sms i) (N.nodeId i) fd = some (req, ag)) :
      Trans N s (.start i epFd fd) (s.answer i (some (.setupRequest req)) ag)
  | nodeReceive {i : ι} {fd : Fd} {onControl : SmCtrlReqData → Option (List UInt8)}
      {ag ag' : AgentState} {msg : E2RicMsg} {down : Channels ι E2RicMsg} {ans : Option E2NodeMsg}
      (hag : s.node i = some ag) (hpos : 0 < fd) (hfd : fd ∉ ag.ag.io)
      (hdown : s.down.receive i = some (msg, down))
      (h : ag.receive (N.sms i) fd onControl msg = some (ans, ag')) :
      Trans N s (.nodeReceive i fd onControl) ({ s with down := down }.answer i ans ag')
  | nodeTimer {i : ι} {fd : Fd} {data : SmIndData} {ag ag' : AgentState} {msg : Option AgentMsg}
      (hag : s.node i = some ag) (he : ag.enabled (.timerExpiry fd data))
      (h : ag.turn (N.sms i) (.timerExpiry fd data) = some (msg, ag')) :
      Trans N s (.nodeTimer i fd data) (s.answer i (msg.map AgentMsg.toNodeMsg) ag')

/-- The inversion of `step`. -/
theorem trans_of_step {s t : NetState ι} {a : NetAction ι} (he : s.Enabled N a)
    (h : s.step N a = some t) : s.Trans N a t := by
  cases a with
  | ric a =>
    obtain ⟨ric, hric, rfl⟩ := Option.map_eq_some_iff.1 h
    exact .ric he.1 he.2 hric
  | e42Request xappId id c src =>
    obtain ⟨ric, hric, rfl⟩ := Option.map_eq_some_iff.1 h
    exact .e42Request he hric
  | sendRequest i =>
    obtain ⟨r, hpc, hdst⟩ := he
    simp only [step, hpc] at h
    obtain ⟨ric, hric, h⟩ := Option.bind_eq_some_iff.1 h
    obtain ⟨msg, hmsg, rfl⟩ := Option.map_eq_some_iff.1 h
    have hfind : ∃ dst, s.ric.ric.findMapE2NodeSad r.node = some dst := by
      simp only [RicState.step, hpc] at hric
      obtain ⟨dst, hdst, -⟩ := Option.map_eq_some_iff.1 hric
      exact ⟨dst, hdst⟩
    obtain ⟨dst, hfind⟩ := hfind
    exact .sendRequest hpc (hdst dst hfind ▸ hfind) hric hmsg
  | ricReceive i =>
    obtain ⟨⟨msg, up⟩, hup, h⟩ := Option.bind_eq_some_iff.1 h
    cases msg with
    | setupRequest req =>
      obtain ⟨resp, -, h⟩ := Option.bind_eq_some_iff.1 h
      obtain ⟨ric, hric, rfl⟩ := Option.map_eq_some_iff.1 h
      exact .setupRequest he.1 hup hric
    | answer ans =>
      obtain ⟨ric, hric, rfl⟩ := Option.map_eq_some_iff.1 h
      exact .e2Answer he.1 hup hric
  | start i epFd fd =>
    obtain ⟨⟨req, ag⟩, hstart, rfl⟩ := Option.map_eq_some_iff.1 h
    exact .start he hstart
  | nodeReceive i fd onControl =>
    obtain ⟨ag, hag, hpos, hfd, -⟩ := he
    obtain ⟨ag', hag', h⟩ := Option.bind_eq_some_iff.1 h
    cases hag.symm.trans hag'
    obtain ⟨⟨msg, down⟩, hdown, h⟩ := Option.bind_eq_some_iff.1 h
    obtain ⟨⟨ans, ag'⟩, hrecv, rfl⟩ := Option.map_eq_some_iff.1 h
    exact .nodeReceive hag hpos hfd hdown hrecv
  | nodeTimer i fd data =>
    obtain ⟨ag, ms, hag, harmed⟩ := he
    obtain ⟨ag', hag', h⟩ := Option.bind_eq_some_iff.1 h
    cases hag.symm.trans hag'
    obtain ⟨⟨msg, ag'⟩, hturn, rfl⟩ := Option.map_eq_some_iff.1 h
    exact .nodeTimer hag ⟨ms, harmed⟩ hturn

theorem node_answer_self (s : NetState ι) (i : ι) (msg : Option E2NodeMsg) (ag : AgentState) :
    (s.answer i msg ag).node i = some ag := by
  show Function.update s.node i (some ag) i = some ag
  rw [Function.update_self]

theorem node_answer_of_ne (s : NetState ι) {i j : ι} (h : j ≠ i) (msg : Option E2NodeMsg)
    (ag : AgentState) : (s.answer i msg ag).node j = s.node j := by
  show Function.update s.node i (some ag) j = s.node j
  rw [Function.update_of_ne h]

end NetState

end FlexRic
