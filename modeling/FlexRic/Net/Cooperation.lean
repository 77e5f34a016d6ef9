import FlexRic.Net.Assumptions
import FlexRic.Ric.Orderly

/-!
# What keeps the programs going

The programs assert what they rely on. This is what none of these assertions fails for: the agents
and the near-RIC have the same service models, the xApps ask for what the service models of a node
can do and make their requests in order, and every message gets there before the timer that waits
for the response fires.
-/

namespace FlexRic

/-- The setup request of a node. -/
def E2Network.setupRequest {ι : Type} (N : E2Network ι) (i : ι) : E2SetupRequest :=
  ⟨N.nodeId i, (N.sms i).map SmAgent.ranFunction⟩

/-- Networks whose nodes can be set up. -/
structure E2Network.Deployable {ι : Type} (N : E2Network ι) : Prop where
  /-- every agent has a service model -/
  sms : ∀ i, N.sms i ≠ []
  /-- its setup request can be encoded -/
  encodable : ∀ i, E2Agent.encodableE2SetupRequest (N.setupRequest i)
  /-- the near-RIC has the same service models, and their definitions are short -/
  supported : ∀ i, ∀ sm ∈ N.sms i, (∃ r ∈ N.plugin, r.ranFuncId = sm.ranFunction.id) ∧
    sm.ranFunction.definition.length < 127

/-- The service models can do what the message asks for. A subscription is for reports of the
action 0, which is the only one that the near-RIC takes as admitted. -/
def E2RicMsg.ServedBy (sms : List SmAgent) : E2RicMsg → Prop
  | subscriptionRequest sr => ∃ action sm ms, sr.action = [action] ∧ action.type = .report ∧
      action.id = 0 ∧ smPluginAg sms sr.ricId.ranFuncId = some sm ∧
      sm.onSubscription ⟨sr.eventTrigger, action.definition⟩ = some ms
  | controlRequest cr => cr.ackReq = some .ack ∧ ∃ sm, smPluginAg sms cr.ricId.ranFuncId = some sm
  | _ => True

/-- What a request asks for does not depend on the request id. -/
theorem E42Content.servedBy_forward {sms : List SmAgent} {c : E42Content} {id id' : RicGenId}
    (h : (c.forward id).ServedBy sms) (hid : id'.ranFuncId = id.ranFuncId) :
    (c.forward id').ServedBy sms := by
  cases c with
  | subscription sr =>
    obtain ⟨action, sm, ms, haction, htype, hact, hsm, hms⟩ := h
    exact ⟨action, sm, ms, haction, htype, hact, hid ▸ hsm, hms⟩
  | control cr => exact ⟨h.1, hid ▸ h.2⟩

/-- The service model of a node is one that the near-RIC has. -/
theorem E2Network.Deployable.exists_plugin {ι : Type} {N : E2Network ι} (h : N.Deployable) {i : ι}
    {sm : SmAgent} {id : UInt16} (hsm : smPluginAg (N.sms i) id = some sm) :
    0 < id ∧ ∃ r, (N.plugin.find? fun r => r.ranFuncId = id) = some r := by
  obtain ⟨hpos, hfind⟩ := Option.ite_none_right_eq_some.1 hsm
  obtain ⟨⟨r, hr, heq⟩, -⟩ := h.supported i sm (List.mem_of_find?_eq_some hfind)
  have hid : sm.ranFunction.id = id := by simpa using List.find?_some hfind
  refine ⟨hpos, Option.isSome_iff_exists.1 (List.find?_isSome.2 ⟨r, hr, ?_⟩)⟩
  exact decide_eq_true (heq.trans hid)

/-- The nodes that can be set up. -/
theorem E2Network.Deployable.type_cases {ι : Type} {N : E2Network ι} (h : N.Deployable) (i : ι) :
    ((N.nodeId i).type = .gNB ∨ (N.nodeId i).type = .eNB) ∨
      ((N.nodeId i).type = .gNBCU ∨ (N.nodeId i).type = .gNBDU) ∧
        ∃ cuDuId, (N.nodeId i).cuDuId = some cuDuId := by
  have henc := h.encodable i
  rw [E2Agent.encodableE2SetupRequest, setupRequest] at henc
  split at henc
  · next htype => exact .inl (.inl htype)
  · next htype => exact .inl (.inr htype)
  · next htype => exact .inr ⟨.inl htype, Option.isSome_iff_exists.1 henc⟩
  · next htype => exact .inr ⟨.inr htype, Option.isSome_iff_exists.1 henc⟩
  · cases henc

/-- A node that can be set up is found by its own id. -/
theorem E2Network.Deployable.eq_self {ι : Type} {N : E2Network ι} (h : N.Deployable) (i : ι) :
    eqGlobalE2NodeId (N.nodeId i) (N.nodeId i) = true := by
  rcases h.type_cases i with (htype | htype) | ⟨htype | htype, c, hc⟩ <;>
    simp [eqGlobalE2NodeId, NgranNode.isMonolithic, NgranNode.isCU, NgranNode.isDU, *]

/-! ## The agent -/

namespace AgentState

variable {sms : List SmAgent} {s : AgentState} {fd : Fd}

/-- The agent waits for the response to its setup request. -/
def AwaitsSetup (s : AgentState) : Prop := s.ag.pending.toList ≠ []

/-- An agent with service models starts. -/
theorem startUp_ne_none {epFd : Fd} {id : GlobalE2NodeId} (hsms : sms ≠ [])
    (henc : E2Agent.encodableE2SetupRequest ⟨id, sms.map SmAgent.ranFunction⟩) (hpos : 0 < fd)
    (hfd : fd ≠ epFd) : startUp epFd sms id fd ≠ none := by
  have hlen : 0 < (sms.map SmAgent.ranFunction).length := by
    rw [List.length_map]
    exact List.length_pos_of_ne_nil hsms
  have hsend : (E2Agent.init epFd (sms.map SmAgent.ranFunction) id).sendSetupRequest =
      some ⟨id, sms.map SmAgent.ranFunction⟩ :=
    Option.filter_eq_some_iff.2 ⟨if_pos hlen, henc⟩
  have hfd' : fd ∉ (E2Agent.init epFd (sms.map SmAgent.ranFunction) id).io :=
    fun hmem => hfd (List.mem_singleton.1 hmem)
  rw [startUp, E2Agent.e2StartAgent, hsend, Option.bind_some,
    E2Agent.createTimerMsAsioAgent_eq_some.2 ⟨⟨hpos, hfd'⟩, rfl⟩]
  exact Option.some_ne_none _

/-- It sends the setup request with them, and waits for the response. -/
theorem awaitsSetup_of_startUp {epFd : Fd} {id : GlobalE2NodeId} {req : E2SetupRequest}
    (h : startUp epFd sms id fd = some (req, s)) :
    req = ⟨id, sms.map SmAgent.ranFunction⟩ ∧ s.AwaitsSetup := by
  obtain ⟨⟨req', ag⟩, hstart, heq⟩ := Option.map_eq_some_iff.1 h
  cases heq
  obtain ⟨hwaits, hsend, hplugin, hid⟩ := E2Agent.waitsForSetup_of_start hstart
  obtain ⟨rfl, -, -⟩ := E2Agent.sendSetupRequest_eq_some hsend
  rw [hplugin, hid]
  refine ⟨rfl, ?_⟩
  rw [AwaitsSetup, hwaits.pending]
  exact List.cons_ne_nil _ _

/-- A setup response is taken by an agent that waits for it. -/
theorem SubsInv.setupResponse_ne_none (h : s.SubsInv sms) (hsetup : s.AwaitsSetup)
    (resp : E2SetupResponse) : s.turn sms (.setupResponse resp) ≠ none := by
  obtain ⟨⟨fd, ev⟩, hmem⟩ := List.exists_mem_of_ne_nil _ hsetup
  obtain ⟨hlist, rfl⟩ := h.pending _ hmem
  obtain ⟨pending, hext, -⟩ := h.pending_wf.extractRight_singleton hlist
  have htimer : (fd, 3000) ∈ s.timers := by
    refine h.timers_perm.mem_iff.2 (List.mem_append_left _ ?_)
    rw [hlist]
    exact List.mem_singleton_self _
  have hstop : s.ag.stopPendingEvent .setupRequest =
      some { s.ag with pending := pending, io := s.ag.io.erase fd } := by
    rw [E2Agent.stopPendingEvent, hext, Option.bind_some]
    simp only [if_pos (h.pos _ htimer)]
    exact E2Agent.rmFdAsioAgent_eq_some.2 ⟨h.mem_io htimer, rfl⟩
  rw [turn, E2Agent.e2apHandleSetupResponseAgent, hstop]
  exact Option.some_ne_none _

/-- A message is handled that the service models serve and the agent waits for. -/
theorem SubsInv.receive_ne_none (h : s.SubsInv sms)
    {onControl : SmCtrlReqData → Option (List UInt8)} {msg : E2RicMsg} (hpos : 0 < fd)
    (hfd : fd ∉ s.ag.io) (hserved : msg.ServedBy sms) (hcontrol : ∀ data, onControl data ≠ none)
    (hsetup : ∀ resp, msg = .setupResponse resp → s.AwaitsSetup)
    (hdelete : ∀ id, msg = .subscriptionDeleteRequest id → id ∈ s.liveIds) :
    s.receive sms fd onControl msg ≠ none := by
  cases msg with
  | setupResponse resp =>
    exact mt Option.map_eq_none_iff.1 (h.setupResponse_ne_none (hsetup resp rfl) resp)
  | subscriptionRequest sr =>
    obtain ⟨action, sm, ms, haction, htype, -, hsm, hms⟩ := hserved
    have hsupported : supportedRicSubscriptionRequest sr.read = some action.read := by
      rw [supportedRicSubscriptionRequest, Ap.RicSubscriptionRequest.read, haction]
      exact if_pos (congrArg Ap.RicActionType.read htype)
    have hsm' : smPluginAg sms sr.read.ricId.ranFuncId = some sm := hsm
    have hms' : sm.onSubscription (generateSmSubsData sr.read action.read) = some ms := hms
    rw [receive, turn, E2Agent.e2apHandleSubscriptionRequestAgent, hsupported, Option.bind_some,
      hsm', Option.bind_some, hms', Option.bind_some,
      E2Agent.createTimerMsAsioAgent_eq_some.2 ⟨⟨hpos, hfd⟩, rfl⟩]
    exact Option.some_ne_none _
  | subscriptionDeleteRequest id =>
    have hstep : (eventLoop sms s).step s (.subscriptionDeleteRequest id) ≠ none :=
      (h.delete_iff id).2 (hdelete id rfl)
    exact mt Option.map_eq_none_iff.1 (mt Option.map_eq_none_iff.2 hstep)
  | controlRequest cr =>
    obtain ⟨hack, sm, hsm⟩ := hserved
    obtain ⟨out, hout⟩ := Option.ne_none_iff_exists'.1 (hcontrol ⟨cr.hdr, cr.msg⟩)
    rw [receive, E2Agent.e2apHandleControlRequestAgent, if_pos hack, hsm, Option.bind_some, hout]
    exact Option.some_ne_none _

end AgentState

/-! ## The parties outside of the programs -/

namespace NetState

variable {ι : Type}

/-- The ids of the nodes that are set up, in the registry of the iApp. -/
def registered (s : NetState ι) : List GlobalE2NodeId :=
  s.ric.iapp.e2Nodes.nodeToRf.toList.map Prod.fst

/-- What the xApps, the RAN and the kernel do. The xApps set up when there is a node and while
there are ids for them; they make requests in order, of nodes that are set up and can serve them.
Responses come before the timers fire that wait for them, and the indications are ones that the
near-RIC publishes. -/
def Cooperates (N : E2Network ι) (s : NetState ι) : NetAction ι → Prop
  | .ric (.e42SetupRequest req _) => req.ranFuncItem ≠ [] ∧ s.ric.assigned.length < 65536 ∧
      s.registered ≠ [] ∧ s.registered.length < 256
  | .ric (.e42RicSubscriptionDeleteRequest req src) =>
      (req.xappId, src) ∈ s.ric.iapp.xapps.toList ∧ ∃ r, s.ric.Live ⟨req.ricId, req.xappId⟩ r
  | .ric (.timerExpiry _) => False
  | .ric _ => True
  | .e42Request xappId id c src => (xappId, src) ∈ s.ric.iapp.xapps.toList ∧
      s.ric.InOrder (.e42RicRequest c.kind ⟨xappId, id, c.ricId⟩ src) ∧
      s.registered.length < 256 ∧
      ∃ i, id = N.nodeId i ∧ id ∈ s.registered ∧ (c.forward c.ricId).ServedBy (N.sms i)
  | .start _ epFd fd => 0 < fd ∧ fd ≠ epFd
  | .nodeReceive _ _ onControl => ∀ data, onControl data ≠ none
  | .nodeTimer i fd data => ∃ ag l, s.node i = some ag ∧ l ∈ ag.live ∧ l.fd = fd ∧
      ∀ sm ∈ N.plugin, sm.onIndication (generateIndication data l.event) ≠ .tcStatsV0
  | _ => True

theorem Cooperates.xappGuard {N : E2Network ι} {s : NetState ι} {a : NetAction ι}
    (h : s.Cooperates N a) : s.XappGuard N a := by
  cases a with
  | ric a =>
    cases a with
    | e42RicSubscriptionDeleteRequest req src => exact h.1
    | _ => trivial
  | e42Request xappId id c src =>
    obtain ⟨hsrc, -, -, i, hid, -⟩ := h
    exact ⟨hsrc, i, hid⟩
  | _ => trivial

end NetState

/-! ## One subscription

An xApp subscribes at the only E2 node, gets a report and deletes the subscription. -/

namespace Sample

/-- The network of one node. -/
def network : E2Network Unit where
  epFd := 3
  plugin := [sm]
  sms := fun _ => [macSm]
  nodeId := fun _ => gNB
  addr := fun _ => nodeAddr
  addr_injective := fun _ _ _ => rfl
  distinct := fun _ _ _ => rfl

theorem network_deployable : network.Deployable where
  sms := fun _ => List.cons_ne_nil _ _
  encodable := fun _ => rfl
  supported := by
    rintro i _ (_ | ⟨_, ⟨⟩⟩)
    exact ⟨⟨sm, List.mem_singleton_self _, rfl⟩, by decide⟩

/-- Its runs in which the parties cooperate. -/
def cooperating : System (NetState Unit) (NetAction Unit) :=
  (e2Network network).restrict (NetState.Cooperates network)

/-- A request for reports every 10 ms. -/
def macReports : Ap.RicSubscriptionRequest :=
  ⟨⟨5, 0, 142⟩, [10, 0, 0, 0], [⟨0, .report, none, none⟩]⟩

/-- The node and the xApp are set up, and the xApp asks for a subscription. -/
def ask : List (NetAction Unit) :=
  [.start () 3 4, .ricReceive (), .nodeReceive () 9 fun _ => some [],
    .ric (.e42SetupRequest ⟨[rf]⟩ xappAddr), .e42Request 7 gNB (.subscription macReports) xappAddr]

/-- The request as it is forwarded. -/
def fwd : Fwd :=
  ⟨.request .subscription, gNB, ⟨1021, 0, 142⟩, ⟨⟨5, 0, 142⟩, 7⟩, xappAddr⟩

/-- The subscription with its first report. -/
def subscribe : List (NetAction Unit) :=
  [.ric (.createTimer 4), .ric .insertPending, .sendRequest (), .ric .addMapRicId,
    .nodeReceive () 5 fun _ => some [], .ricReceive (), .ric .findXapp, .ric .sendAnswer,
    .nodeTimer () 5 ⟨[1], [2], none⟩, .ricReceive (), .ric .findXapp, .ric .sendAnswer]

/-- The subscription is deleted. -/
def unsubscribe : List (NetAction Unit) :=
  [.ric (.e42RicSubscriptionDeleteRequest ⟨7, ⟨5, 0, 142⟩⟩ xappAddr), .ric (.createTimer 4),
    .ric .insertPending, .sendRequest (), .nodeReceive () 6 fun _ => some [], .ricReceive (),
    .ric .findXapp, .ric .sendAnswer]

theorem sched_subscription : ∃ r s t, cooperating.Sched (.init network) ask r ∧
    cooperating.Sched r subscribe s ∧ cooperating.Sched s unsubscribe t ∧
    (r.ric.iappPc = .start fwd ∧ r.ric.forwarded = [] ∧ r.ric.ric.io = [3]) ∧
    (∃ ag l, s.node () = some ag ∧ ag.live = [l] ∧ l.request.ricId = ⟨1021, 0, 142⟩) ∧
    (s.ric.delivered.map fun d => (d.dst, d.msg)) =
      [(xappAddr, .indication ⟨⟨5, 0, 142⟩, 0, none, .report, [1], [2], none⟩),
        (xappAddr, .subscriptionResponse ⟨⟨5, 0, 142⟩, [0], 0⟩)] ∧
    .subscriptionDeleteResponse ⟨⟨1021, 0, 142⟩⟩ ∈ t.ric.received ∧
    t.ric.forwarded.length = 2 ∧ ∃ r ∈ t.ric.forwarded, r.newEntry = [r] := by
  have hcontrol : ∀ data : SmCtrlReqData, (fun _ => some []) data ≠ (none : Option (List UInt8)) :=
    fun _ => Option.some_ne_none _
  refine ⟨_, _, _, ⟨⟨rfl, by decide, by decide⟩, _, rfl,
    ⟨⟨rfl, _, List.mem_singleton_self _⟩, trivial⟩, _, rfl,
    ⟨⟨_, rfl, by decide, by decide, _, List.mem_singleton_self _⟩, hcontrol⟩, _, rfl,
    ⟨⟨rfl, rfl⟩, List.cons_ne_nil _ _, (by decide : 0 < 65536), List.cons_ne_nil _ _,
      (by decide : 1 < 256)⟩, _, rfl,
    ⟨rfl, List.mem_singleton_self _,
      ⟨(by decide : 5 < 65536), fun _ h => absurd h List.not_mem_nil⟩, (by decide : 1 < 256),
      (), rfl, List.mem_singleton_self _, _, _, _, rfl, rfl, rfl, rfl, rfl⟩, _, rfl, rfl⟩,
    ⟨⟨⟨rfl, ⟨_, rfl⟩, by decide, by decide⟩, trivial⟩, _, rfl, ⟨⟨rfl, _, _, rfl⟩, trivial⟩, _, rfl,
    ⟨⟨_, rfl, fun _ h => Option.some.inj h⟩, trivial⟩, _, rfl, ⟨⟨rfl, _, rfl⟩, trivial⟩, _, rfl,
    ⟨⟨_, rfl, by decide, by decide, _, List.mem_singleton_self _⟩, hcontrol⟩, _, rfl,
    ⟨⟨rfl, _, List.mem_singleton_self _⟩, trivial⟩, _, rfl,
    ⟨⟨rfl, ⟨_, rfl⟩, rfl⟩, trivial⟩, _, rfl, ⟨⟨rfl, _, _, rfl⟩, trivial⟩, _, rfl,
    ⟨⟨_, 10, rfl, by decide, by decide⟩, _, _, rfl, List.mem_singleton_self _, rfl,
      List.forall_mem_singleton.2 nofun⟩, _, rfl,
    ⟨⟨rfl, _, List.mem_singleton_self _⟩, trivial⟩, _, rfl,
    ⟨⟨rfl, ⟨_, rfl⟩, rfl⟩, trivial⟩, _, rfl, ⟨⟨rfl, _, _, rfl⟩, trivial⟩, _, rfl, rfl⟩,
    ⟨⟨⟨rfl, rfl⟩, List.mem_singleton_self _, _, List.mem_singleton_self _, rfl, rfl,
      List.forall_mem_singleton.2 nofun⟩, _, rfl,
    ⟨⟨rfl, ⟨_, rfl⟩, by decide, by decide⟩, trivial⟩, _, rfl, ⟨⟨rfl, _, _, rfl⟩, trivial⟩, _, rfl,
    ⟨⟨_, rfl, fun _ h => Option.some.inj h⟩, trivial⟩, _, rfl,
    ⟨⟨_, rfl, by decide, by decide, _, List.mem_singleton_self _⟩, hcontrol⟩, _, rfl,
    ⟨⟨rfl, _, List.mem_singleton_self _⟩, trivial⟩, _, rfl,
    ⟨⟨rfl, ⟨_, rfl⟩, rfl⟩, trivial⟩, _, rfl, ⟨⟨rfl, _, _, rfl⟩, trivial⟩, _, rfl, rfl⟩,
    ⟨rfl, rfl, rfl⟩, ⟨_, _, rfl, rfl, rfl⟩, rfl, List.mem_cons_self, rfl, _,
    List.mem_cons_of_mem _ List.mem_cons_self, rfl⟩

/-- There are as many requests as among the actions. -/
theorem requests_of_sched {tr : List (NetState Unit × NetAction Unit)}
    {acts : List (NetAction Unit)} (h : tr.map Prod.snd = acts.reverse) :
    NetState.requests tr = acts.countP NetState.givesId := by
  rw [NetState.requests, ← Function.comp_def, ← List.countP_map, h, List.countP_reverse]

end Sample

end FlexRic
