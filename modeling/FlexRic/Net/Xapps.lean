import FlexRic.Net.Exchange
import FlexRic.Net.XappRuns

/-!
# xApps, near-RIC and E2 nodes

The network with the xApps in it: each one a process of three threads, with an association to the
iApp that delivers the messages of one direction in order. What came from outside in the network is
now what the xApps send, and an answer is on its way until its xApp takes it.
-/

namespace FlexRic

/-- The xApps and the E2 nodes that connect to a near-RIC. -/
structure XappNetwork (κ ι : Type) : Type extends E2Network ι where
  /-- what each xApp is started with -/
  xapp : κ → XappConfig
  /-- the address that each xApp sends from -/
  xappAddr : κ → SctpInfo
  /-- no two xApps have the same address -/
  xappAddr_injective : Function.Injective xappAddr

/-- The state of the whole system. -/
structure TierState (κ ι : Type) : Type where
  net : NetState ι
  xapp : κ → XappProc
  /-- from the xApps to the iApp -/
  toIapp : Channels κ E42Msg
  /-- from the iApp to the xApps -/
  toXapp : Channels κ XappMsg

/-- A step of the whole system. -/
inductive TierAction (κ ι : Type) : Type where
  /-- a step of the near-RIC and the E2 nodes with nothing to or from the xApps -/
  | net (a : NetAction ι)
  /-- the iApp takes a message of the xApp `k` -/
  | iappReceive (k : κ)
  /-- the answer that is being handled goes out to the xApp `k` -/
  | sendAnswer (k : κ)
  /-- a step of the xApp `k` in which it takes no message -/
  | xapp (k : κ) (a : XappProcAction)
  /-- the xApp `k` takes a message -/
  | xappReceive (k : κ)

/-- Whether the message is a subscription or control request. -/
def E42Msg.isRequest : E42Msg → Bool
  | request _ _ _ => true
  | _ => false

/-- What the iApp does with a message from the address `src`. -/
def E42Msg.toNet {ι : Type} (src : SctpInfo) : E42Msg → NetAction ι
  | setupRequest req => .ric (.e42SetupRequest req src)
  | request xappId id c => .e42Request xappId id c src
  | subscriptionDeleteRequest req => .ric (.e42RicSubscriptionDeleteRequest req src)

/-- The iApp's own response to a message from the address `src`. -/
def Iapp.respond (iapp : Iapp) (src : SctpInfo) : E42Msg → Option XappMsg
  | .setupRequest req => (iapp.setupXapp req src).map fun (resp, _) => .setupResponse resp
  | _ => none

namespace TierState

variable {κ ι : Type} [DecidableEq κ] [DecidableEq ι]

/-- Nothing is started and nothing is in flight. -/
def init (N : XappNetwork κ ι) : TierState κ ι where
  net := .init N.toE2Network
  xapp := fun _ => .off
  toIapp := ⟨[], []⟩
  toXapp := ⟨[], []⟩

/-- The state after a turn of an xApp, which may send a message. -/
def turn (s : TierState κ ι) (k : κ) (msg : Option E42Msg) (p : XappProc) : TierState κ ι :=
  { s with
    xapp := Function.update s.xapp k p
    toIapp := msg.elim s.toIapp (s.toIapp.send k) }

/-- What can happen next: what can happen in the network and in the xApps, when the messages they
take are there. An answer goes out to the xApp with the address that is found for it. -/
def Enabled (N : XappNetwork κ ι) (s : TierState κ ι) : TierAction κ ι → Prop
  | .net a => a.isInternal = true ∧ s.net.Enabled N.toE2Network a
  | .iappReceive k => s.net.ric.iappPc = .idle ∧ ∃ m, (k, m) ∈ s.toIapp.flight
  | .sendAnswer k => ∃ x ans, s.net.ric.ricPc = .routed x ans ∧
      ∀ dst msg, s.net.ric.iapp.e2apMsgHandleIapp x ans = some (dst, msg) → N.xappAddr k = dst
  | .xapp k a => a.taken = none ∧ (s.xapp k).Enabled (N.xapp k) a
  | .xappReceive k => ∃ m toXapp, s.toXapp.receive k = some (m, toXapp) ∧
      (s.xapp k).Enabled (N.xapp k) (.receive m)

/-- What the programs do; `none` is a failing assertion in one of them. -/
def step (N : XappNetwork κ ι) (s : TierState κ ι) : TierAction κ ι → Option (TierState κ ι)
  | .net a => (s.net.step N.toE2Network a).map fun net => { s with net := net }
  | .iappReceive k =>
    (s.toIapp.receive k).bind fun (msg, toIapp) =>
      (s.net.step N.toE2Network (msg.toNet (N.xappAddr k))).map fun net =>
        { s with
          net := net
          toIapp := toIapp
          toXapp := (s.net.ric.iapp.respond (N.xappAddr k) msg).elim s.toXapp (s.toXapp.send k) }
  | .sendAnswer k =>
    match s.net.ric.ricPc with
    | .routed x ans =>
      (s.net.ric.iapp.e2apMsgHandleIapp x ans).bind fun (_, msg) =>
        (s.net.step N.toE2Network (.ric .sendAnswer)).map fun net =>
          { s with net := net, toXapp := s.toXapp.send k (.answer msg) }
    | _ => none
  | .xapp k a => ((s.xapp k).step (N.xapp k) a).map fun (msg, p) => s.turn k msg p
  | .xappReceive k =>
    (s.toXapp.receive k).bind fun (msg, toXapp) =>
      ((s.xapp k).step (N.xapp k) (.receive msg)).map fun (out, p) =>
        { s with toXapp := toXapp }.turn k out p

end TierState

/-- The whole system. -/
def xappNetwork {κ ι : Type} [DecidableEq κ] [DecidableEq ι] (N : XappNetwork κ ι) :
    System (TierState κ ι) (TierAction κ ι) where
  init := .init N
  enabled := TierState.Enabled N
  step := TierState.step N

namespace TierState

variable {κ ι : Type} [DecidableEq κ] [DecidableEq ι] {N : XappNetwork κ ι}

/-! ## What a step can do -/

/-- The steps that go through, with the state each one leads to. -/
inductive Trans (N : XappNetwork κ ι) (s : TierState κ ι) : TierAction κ ι → TierState κ ι → Prop
  | net {a : NetAction ι} {net : NetState ι} (hint : a.isInternal = true)
      (he : s.net.Enabled N.toE2Network a) (h : s.net.step N.toE2Network a = some net) :
      Trans N s (.net a) { s with net := net }
  | iappReceive {k : κ} {msg : E42Msg} {toIapp : Channels κ E42Msg} {net : NetState ι}
      (hpc : s.net.ric.iappPc = .idle) (hrecv : s.toIapp.receive k = some (msg, toIapp))
      (he : s.net.Enabled N.toE2Network (msg.toNet (N.xappAddr k)))
      (h : s.net.step N.toE2Network (msg.toNet (N.xappAddr k)) = some net) :
      Trans N s (.iappReceive k) { s with
        net := net
        toIapp := toIapp
        toXapp := (s.net.ric.iapp.respond (N.xappAddr k) msg).elim s.toXapp (s.toXapp.send k) }
  | sendAnswer {k : κ} {x : XappRicId} {ans msg : E2Answer} {net : NetState ι}
      (hpc : s.net.ric.ricPc = .routed x ans)
      (hmsg : s.net.ric.iapp.e2apMsgHandleIapp x ans = some (N.xappAddr k, msg))
      (h : s.net.step N.toE2Network (.ric .sendAnswer) = some net) :
      Trans N s (.sendAnswer k) { s with net := net, toXapp := s.toXapp.send k (.answer msg) }
  | xapp {k : κ} {a : XappProcAction} {out : Option E42Msg} {p : XappProc} (ha : a.taken = none)
      (h : XappProc.Trans (N.xapp k) (s.xapp k) a out p) : Trans N s (.xapp k a) (s.turn k out p)
  | xappReceive {k : κ} {msg : XappMsg} {toXapp : Channels κ XappMsg} {out : Option E42Msg}
      {p : XappProc} (hrecv : s.toXapp.receive k = some (msg, toXapp))
      (h : XappProc.Trans (N.xapp k) (s.xapp k) (.receive msg) out p) :
      Trans N s (.xappReceive k) ({ s with toXapp := toXapp }.turn k out p)

/-- The inversion of `step`. -/
theorem trans_of_step {s t : TierState κ ι} {a : TierAction κ ι} (he : s.Enabled N a)
    (h : s.step N a = some t) : s.Trans N a t := by
  cases a with
  | net a =>
    obtain ⟨net, hnet, rfl⟩ := Option.map_eq_some_iff.1 h
    exact .net he.1 he.2 hnet
  | iappReceive k =>
    obtain ⟨⟨msg, toIapp⟩, hrecv, h⟩ := Option.bind_eq_some_iff.1 h
    obtain ⟨net, hnet, rfl⟩ := Option.map_eq_some_iff.1 h
    refine .iappReceive he.1 hrecv ?_ hnet
    cases msg with
    | setupRequest req => exact ⟨rfl, he.1⟩
    | request xappId id c => exact he.1
    | subscriptionDeleteRequest req => exact ⟨rfl, he.1⟩
  | sendAnswer k =>
    obtain ⟨x, ans, hpc, hdst⟩ := he
    simp only [step, hpc] at h
    obtain ⟨⟨dst, msg⟩, hmsg, h⟩ := Option.bind_eq_some_iff.1 h
    obtain ⟨net, hnet, rfl⟩ := Option.map_eq_some_iff.1 h
    exact .sendAnswer hpc (hdst dst msg hmsg ▸ hmsg) hnet
  | xapp k a =>
    obtain ⟨⟨out, p⟩, hstep, rfl⟩ := Option.map_eq_some_iff.1 h
    exact .xapp he.1 (XappProc.trans_of_step he.2 hstep)
  | xappReceive k =>
    obtain ⟨m, toXapp, hrecv, hen⟩ := he
    obtain ⟨⟨msg, toXapp'⟩, hrecv', h⟩ := Option.bind_eq_some_iff.1 h
    cases hrecv.symm.trans hrecv'
    obtain ⟨⟨out, p⟩, hstep, rfl⟩ := Option.map_eq_some_iff.1 h
    exact .xappReceive hrecv (XappProc.trans_of_step hen hstep)

omit [DecidableEq ι] in
theorem xapp_turn_self (s : TierState κ ι) (k : κ) (msg : Option E42Msg) (p : XappProc) :
    (s.turn k msg p).xapp k = p := by
  show Function.update s.xapp k p k = p
  rw [Function.update_self]

omit [DecidableEq ι] in
theorem xapp_turn_of_ne (s : TierState κ ι) {k j : κ} (h : j ≠ k) (msg : Option E42Msg)
    (p : XappProc) : (s.turn k msg p).xapp j = s.xapp j := by
  show Function.update s.xapp k p j = s.xapp j
  rw [Function.update_of_ne h]

/-! ## The invariant -/

/-- The xApps ask for E2 nodes by the ids of these. -/
def NamesNode (N : XappNetwork κ ι) (a : ApiCall) : Prop :=
  ∀ node, a.node = some node → ∃ i, node = N.nodeId i

/-- The calls of the xApps are about nodes of the network. -/
def ApiGuard (N : XappNetwork κ ι) (_ : TierState κ ι) : TierAction κ ι → Prop
  | .xapp _ (.call a) => NamesNode N a
  | _ => True

/-- The number of subscription and control requests that the iApp has taken. -/
def requests (s : TierState κ ι) : ℕ := s.toIapp.taken.countP fun p => p.2.isRequest

/-- A request in the network is one that the iApp has taken from an xApp. -/
def Took (N : XappNetwork κ ι) (s : TierState κ ι) : NetAction ι → Prop
  | .e42Request xappId id c src =>
      ∃ k, src = N.xappAddr k ∧ (k, .request xappId id c) ∈ s.toIapp.taken
  | _ => True

/-- The xApp `k` can be set up with the response. -/
structure SetUp (N : XappNetwork κ ι) (net : NetState ι) (k : κ) (resp : E42SetupResponse) :
    Prop where
  /-- the id is registered with the address of the xApp -/
  id : (resp.xappId, N.xappAddr k) ∈ net.ric.iapp.xapps.toList
  /-- the nodes are registered -/
  nodes : ∀ node ∈ resp.nodes, node.id ∈ net.registered
  /-- and the xApp can register them -/
  adds : ∃ nodes,
    resp.nodes.foldlM (fun (n : RegE2Nodes) e => n.add e.id e.ackRf) .init = some nodes

/-- What holds of the whole system. -/
structure TierInv (N : XappNetwork κ ι) (s : TierState κ ι) : Prop where
  /-- the network has made a run in which its assumptions hold -/
  net : ∃ tr, ((e2Network N.toE2Network).restrict (NetState.XappGuard N.toE2Network)).Run tr s.net ∧
    NetState.requests tr = s.requests ∧ ∀ p ∈ tr, s.Took N p.2
  /-- so have the xApps -/
  xapp : ∀ k, XappProc.RunInv (N.xapp k) (NamesNode N) (s.toIapp.sent k)
    (Channels.on k s.toXapp.taken) (s.xapp k)
  /-- what was sent in response to setup requests -/
  setup : ∀ k resp, (k, .setupResponse resp) ∈ s.toXapp.all → SetUp N s.net k resp
  /-- the requests of an xApp that were accepted are those taken from it -/
  accepted : ∀ k, (Channels.on k s.toIapp.taken).filterMap E42Msg.ask =
    (s.net.ric.accepted.reverse.filter fun r => r.src = N.xappAddr k).map fun r => (r.kind, r.x)
  /-- the answers that were delivered to it are those that were sent to it -/
  delivered : ∀ k, (s.toXapp.sent k).filterMap XappMsg.answer? =
    (s.net.ric.delivered.reverse.filter fun d => d.dst = N.xappAddr k).map Delivery.msg

end TierState

end FlexRic
