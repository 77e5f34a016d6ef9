import FlexRic.Net.SettingUp

/-!
# Requests that can be served

What is on its way to a node its service models can do, and what is on its way back the near-RIC
can handle. A delete request gets to its node while the subscription is live there: it was sent
after the subscription request on the same channel, and no other delete request was.
-/

namespace FlexRic

namespace NetState

variable {ι : Type}

/-- What is on its way is something that can be done. -/
structure ServeInv (N : E2Network ι) (s : NetState ι) : Prop where
  /-- the request that is being forwarded -/
  current : ∀ r ∈ s.ric.iappPc.current, ∀ i msg, r.node = N.nodeId i →
    r.message s.content = some msg → msg.ServedBy (N.sms i)
  /-- the messages to the nodes -/
  down : ∀ i msg, (i, msg) ∈ s.down.flight → msg.ServedBy (N.sms i)
  /-- the answers to the near-RIC -/
  up : ∀ i ans, (i, .answer ans) ∈ s.up.flight → RicState.Supported N.plugin ans

theorem serveInv_init [DecidableEq ι] (N : E2Network ι) : (init N).ServeInv N where
  current := fun _ hr => absurd hr List.not_mem_nil
  down := nofun
  up := nofun

/-- The answer to a request that is served is one that the near-RIC supports. -/
theorem supported_of_handles {plugin : List SmRic} {sms : List SmAgent} {ag ag' : AgentState}
    {fd : Fd} {msg : E2RicMsg} {ans : E2Answer} (hserved : msg.ServedBy sms)
    (h : ag.Handles sms fd msg (some (.answer ans)) ag') : RicState.Supported plugin ans := by
  cases h with
  | subscriptionRequest haction =>
    obtain ⟨action, sm, ms, haction', -, hid, -⟩ := hserved
    cases haction.symm.trans haction'
    exact ⟨rfl, by rw [hid]⟩
  | subscriptionDeleteRequest => trivial
  | controlRequest => rfl

namespace ServeInv

variable {N : E2Network ι} {s t : NetState ι}

/-- The steps that add nothing to what is on its way. -/
theorem mono (h : s.ServeInv N)
    (hcurrent : ∀ r ∈ t.ric.iappPc.current, r ∈ s.ric.iappPc.current ∨ r.kind = .subscriptionDelete)
    (hcontent : t.content = s.content) (hdown : ∀ p ∈ t.down.flight, p ∈ s.down.flight)
    (hup : ∀ p ∈ t.up.flight, p ∈ s.up.flight) : t.ServeInv N where
  current r hr i msg hnode hmsg := by
    rcases hcurrent r hr with hr | hkind
    · exact h.current r hr i msg hnode (hcontent ▸ hmsg)
    · rw [Fwd.message, hkind] at hmsg
      cases hmsg
      trivial
  down i msg hmem := h.down i msg (hdown _ hmem)
  up i ans hmem := h.up i ans (hup _ hmem)

/-- The step of an agent. -/
theorem answer [DecidableEq ι] (h : s.ServeInv N) {i : ι} {ag : AgentState}
    {down : Channels ι E2RicMsg} {msg : Option E2NodeMsg}
    (hdown : ∀ p ∈ down.flight, p ∈ s.down.flight)
    (hmsg : ∀ ans, msg = some (.answer ans) → RicState.Supported N.plugin ans) :
    ({ s with down := down }.answer i msg ag).ServeInv N where
  current := h.current
  down j msg' hmem := h.down j msg' (hdown _ hmem)
  up j ans hmem := by
    cases msg with
    | none => exact h.up j ans hmem
    | some m =>
      rcases List.mem_append.1 hmem with hmem | hmem
      · exact h.up j ans hmem
      · cases List.mem_singleton.1 hmem
        exact hmsg ans rfl

/-- The near-RIC publishes the indications of the subscriptions that an agent has. -/
theorem supported_indication (hN : N.Deployable) {i : ι} {ag : AgentState} {l : LiveSubscription}
    {data : SmIndData} (hsubs : ag.SubsInv (N.sms i)) (hl : l ∈ ag.live)
    (hsm : ∀ sm ∈ N.plugin, sm.onIndication (generateIndication data l.event) ≠ .tcStatsV0) :
    RicState.Supported N.plugin (.indication (generateIndication data l.event)) := by
  obtain ⟨sm, action, hplugin, -⟩ := hsubs.period l hl
  obtain ⟨hpos, r, hr⟩ := hN.exists_plugin hplugin
  exact ⟨hpos, r, hr, hsm r (List.mem_of_find?_eq_some hr)⟩

variable [DecidableEq ι]

theorem step (h : s.ServeInv N) (hN : N.Deployable) {n : ℕ} (hnet : s.NetInv N n) {a : NetAction ι}
    (hguard : s.Cooperates N a) (ht : s.Trans N a t) : t.ServeInv N := by
  cases ht with
  | @ric a ric hint he hric =>
    refine h.mono ?_ rfl (fun p hp => hp) (fun p hp => hp)
    cases RicState.trans_of_step he hric with
    | e42RicRequest => cases hint
    | sendRequest => cases hint
    | e42RicSubscriptionDeleteRequest => exact List.forall_mem_singleton.2 (.inr rfl)
    | createTimer hpc => exact fun r hr => .inl (by simpa [hpc, IappPc.current] using hr)
    | insertPending hpc => exact fun r hr => .inl (by simpa [hpc, IappPc.current] using hr)
    | addMapRicId => exact fun _ hr => absurd hr List.not_mem_nil
    | _ => exact fun r hr => .inl hr
  | @e42Request xappId id c src ric he hric =>
    have he' : s.ric.Enabled (.e42RicRequest c.kind ⟨xappId, id, c.ricId⟩ src) := he
    obtain ⟨-, -, -, i, rfl, -, hserved⟩ := hguard
    refine { h with current := ?_ }
    cases RicState.trans_of_step he' hric with
    | e42RicRequest =>
      refine List.forall_mem_singleton.2 fun j msg hnode hmsg => ?_
      cases N.distinct i j ((congrArg (eqGlobalE2NodeId _) hnode.symm).trans (hN.eq_self i))
      cases hmsg
      exact E42Content.servedBy_forward hserved (RicGenId.setReqIdLow_ranFuncId _ _)
  | @sendRequest i r ric msg hpc hdst hric hmsg =>
    have he : s.ric.Enabled .sendRequest := ⟨r, hpc⟩
    have hr : r ∈ s.ric.iappPc.current := by simp [hpc, IappPc.current]
    obtain ⟨⟨j, hnode⟩, -⟩ := hnet.forward.current r hr
    cases hnet.forward.eq_of_findMapE2NodeSad (hnode ▸ hdst)
    refine ⟨?_, ?_, h.up⟩
    · cases RicState.trans_of_step he hric with
      | sendRequest hpc' =>
        cases hpc.symm.trans hpc'
        intro q hq
        have hqr : q = r := by
          obtain ⟨kind⟩ := r
          cases kind with
          | request kind => exact List.mem_singleton.1 hq
          | subscriptionDelete => cases hq
        exact hqr ▸ h.current r hr
    · intro k msg' hmem
      rcases List.mem_append.1 hmem with hmem | hmem
      · exact h.down k msg' hmem
      · cases List.mem_singleton.1 hmem
        exact h.current r hr i msg hnode hmsg
  | @setupRequest i req up resp ric hpc hup hric =>
    have he : s.ric.Enabled (.e2SetupRequest req (N.addr i)) := hpc
    have hperm := Channels.flight_perm_of_receive hup
    refine ⟨?_, ?_, fun j ans hmem => h.up j ans (hperm.mem_iff.2 (List.mem_cons_of_mem _ hmem))⟩
    · cases RicState.trans_of_step he hric with
      | e2SetupRequest => exact h.current
    · intro j msg hmem
      rcases List.mem_append.1 hmem with hmem | hmem
      · exact h.down j msg hmem
      · cases List.mem_singleton.1 hmem
        trivial
  | @e2Answer i ans up ric hpc hup hric =>
    have he : s.ric.Enabled (.e2Answer ans) := hpc
    have hperm := Channels.flight_perm_of_receive hup
    refine h.mono ?_ rfl (fun p hp => hp) fun p hp => hperm.mem_iff.2 (List.mem_cons_of_mem _ hp)
    cases RicState.trans_of_step he hric with
    | response => exact fun r hr => .inl hr
    | indication => exact fun r hr => .inl hr
  | start =>
    refine h.answer (fun p hp => hp) fun ans heq => ?_
    cases heq
  | @nodeReceive i fd onControl ag ag' msg down ans hag hpos hfd hdown hrecv =>
    have hperm := Channels.flight_perm_of_receive hdown
    have hserved := h.down i msg (Channels.mem_flight_of_receive hdown)
    have hsubs := (hnet.node i ag hag).subsInv
    obtain ⟨-, hhandles⟩ := hsubs.handles (hnet.receivable hag hpos hfd hdown) hrecv
    refine h.answer (fun p hp => hperm.mem_iff.2 (List.mem_cons_of_mem _ hp)) ?_
    rintro a rfl
    exact supported_of_handles hserved hhandles
  | @nodeTimer i fd data ag ag' msg hag he hturn =>
    obtain ⟨ag₁, l, hag₁, hl, rfl, hsm⟩ := hguard
    cases hag.symm.trans hag₁
    have hsubs := (hnet.node i ag hag).subsInv
    rw [AgentState.turn, hsubs.sendAfterTimeout_live hl] at hturn
    cases hturn
    refine h.answer (fun p hp => hp) ?_
    rintro a ⟨⟩
    exact supported_indication hN hsubs hl hsm

end ServeInv

end NetState

/-! ## Delete requests -/

namespace E2RicMsg

/-- The ids of the live subscriptions of a node when it has taken the message. -/
def live (ids : List RicGenId) : E2RicMsg → List RicGenId
  | subscriptionRequest sr => sr.ricId :: ids
  | subscriptionDeleteRequest id => ids.filter fun id' => id' ≠ id
  | _ => ids

/-- Every delete request among the messages comes while its subscription is live. -/
def Finds : List RicGenId → List E2RicMsg → Prop
  | _, [] => True
  | ids, msg :: msgs =>
    (∀ id, msg = .subscriptionDeleteRequest id → id ∈ ids) ∧ Finds (msg.live ids) msgs

theorem Finds.append {ids : List RicGenId} {msgs : List E2RicMsg} {msg : E2RicMsg}
    (h : Finds ids msgs)
    (hmsg : ∀ id, msg = .subscriptionDeleteRequest id → id ∈ msgs.foldl live ids) :
    Finds ids (msgs ++ [msg]) := by
  induction msgs generalizing ids with
  | nil => exact ⟨hmsg, trivial⟩
  | cons m msgs ih => exact ⟨h.1, ih h.2 hmsg⟩

end E2RicMsg

/-- What a message does to the live subscriptions of an agent that handles it. -/
theorem AgentState.Handles.liveIds {sms : List SmAgent} {s t : AgentState} {fd : Fd}
    {msg : E2RicMsg} {ans : Option E2NodeMsg} (h : s.Handles sms fd msg ans t) :
    t.liveIds = msg.live s.liveIds := by
  cases h with
  | setupResponse hlive => exact congrArg (List.map fun l => l.request.ricId) hlive
  | subscriptionRequest _ _ hlive =>
    rw [AgentState.liveIds, hlive, E2RicMsg.live, AgentState.liveIds]
    rfl
  | subscriptionDeleteRequest _ hlive =>
    rw [AgentState.liveIds, hlive, E2RicMsg.live, AgentState.liveIds, List.filter_map]
    rfl
  | controlRequest => rfl

namespace NetState

variable {ι : Type} [DecidableEq ι]

/-- The ids of the live subscriptions of the node when it has taken what is on its way. -/
def willLive (s : NetState ι) (i : ι) (ag : AgentState) : List RicGenId :=
  (Channels.on i s.down.flight).foldl E2RicMsg.live ag.liveIds

/-- A subscription that an xApp has will be live at its node, and every delete request finds the
subscription that it is for. -/
structure LifeInv (N : E2Network ι) (s : NetState ι) : Prop where
  order : s.ric.OrderInv
  finds : ∀ i ag, s.node i = some ag → E2RicMsg.Finds ag.liveIds (Channels.on i s.down.flight)
  live : ∀ x r, s.ric.Live x r → ∀ i ag, r.node = N.nodeId i → s.node i = some ag →
    r.ricId ∈ s.willLive i ag

theorem lifeInv_init (N : E2Network ι) : (init N).LifeInv N where
  order := RicState.orderInv_init _ _
  finds := nofun
  live := fun _ _ _ _ _ _ => nofun

namespace LifeInv

variable {N : E2Network ι} {s t : NetState ι}

/-- The near-RIC goes on and forwards nothing. -/
theorem ric (h : s.LifeInv N) (horder : t.ric.OrderInv)
    (hforwarded : t.ric.forwarded = s.ric.forwarded) (hnode : t.node = s.node)
    (hdown : t.down = s.down) : t.LifeInv N where
  order := horder
  finds := by
    rw [hnode, hdown]
    exact h.finds
  live x r hlive i ag hr hag := by
    obtain ⟨hmem, hkind, hids, hnot⟩ := hlive
    rw [hforwarded] at hmem hnot
    rw [willLive, hdown]
    exact h.live x r ⟨hmem, hkind, hids, hnot⟩ i ag hr (hnode ▸ hag)

/-- A message goes out to a node. -/
theorem send (h : s.LifeInv N) {i : ι} {msg : E2RicMsg} (horder : t.ric.OrderInv)
    (hnode : t.node = s.node) (hdown : t.down = s.down.send i msg)
    (hdelete : ∀ id ag, msg = .subscriptionDeleteRequest id → s.node i = some ag →
      id ∈ s.willLive i ag)
    (hlive : ∀ x r, t.ric.Live x r → ∀ j ag, r.node = N.nodeId j → s.node j = some ag →
      r.ricId ∈ if i = j then msg.live (s.willLive j ag) else s.willLive j ag) :
    t.LifeInv N := by
  refine ⟨horder, ?_, ?_⟩
  · rw [hnode, hdown, Channels.flight_send]
    intro j ag hag
    by_cases hij : i = j
    · subst hij
      rw [Channels.on_concat_self]
      exact (h.finds i ag hag).append fun id hid => hdelete id ag hid hag
    · rw [Channels.on_concat_of_ne hij]
      exact h.finds j ag hag
  · intro x r hr j ag hrj hag
    have hmem := hlive x r hr j ag hrj (hnode ▸ hag)
    rw [willLive, hdown, Channels.flight_send]
    by_cases hij : i = j
    · subst hij
      rw [Channels.on_concat_self, List.foldl_append]
      rwa [if_pos rfl] at hmem
    · rw [Channels.on_concat_of_ne hij]
      rwa [if_neg hij] at hmem

/-- A setup response changes nothing of the subscriptions. -/
theorem setupResponse (h : s.LifeInv N) {i : ι} {resp : E2SetupResponse} {ric : RicState}
    {up : Channels ι E2NodeMsg} (horder : ric.OrderInv)
    (hforwarded : ric.forwarded = s.ric.forwarded) :
    LifeInv N { s with ric := ric, up := up, down := s.down.send i (.setupResponse resp) } := by
  refine h.send horder rfl rfl (fun _ _ heq => by cases heq) fun x r hr j ag hrj hag => ?_
  obtain ⟨hmem, hkind, hids, hnot⟩ := hr
  change r ∈ ric.forwarded at hmem
  change ∀ d ∈ ric.forwarded, _ at hnot
  rw [hforwarded] at hmem hnot
  have hlive := h.live x r ⟨hmem, hkind, hids, hnot⟩ j ag hrj hag
  split <;> exact hlive

/-- A request goes out to its node. -/
theorem sendRequest (h : s.LifeInv N) (hN : N.Deployable) {i : ι} {r : Fwd} {ric : RicState}
    {msg : E2RicMsg} {sent : List (SentRequest ι)} (hpc : s.ric.iappPc = .registered r)
    (hri : r.node = N.nodeId i) (horder : ric.OrderInv)
    (hforwarded : ric.forwarded = r :: s.ric.forwarded)
    (hcontent : r.HasContent s.content) (hmsg : r.message s.content = some msg) :
    LifeInv N { s with ric := ric, down := s.down.send i msg, sent := sent } := by
  have hcurrent : r ∈ s.ric.iappPc.current := by simp [hpc, IappPc.current]
  refine h.send horder rfl rfl ?_ ?_
  · -- the subscription that a delete request is for is live, since no other was sent for it
    rintro id ag rfl hag
    have hkind : r.kind = .subscriptionDelete := by
      obtain ⟨kind⟩ := r
      cases kind with
      | request kind =>
        obtain ⟨c, -, heq⟩ := Option.map_eq_some_iff.1 hmsg
        cases c <;> cases heq
      | subscriptionDelete => rfl
    rw [Fwd.message, hkind] at hmsg
    cases hmsg
    obtain ⟨q, hq, hdel⟩ := h.order.deletes r (List.mem_append_left _ hcurrent) hkind
    have hid : q.reqId = r.reqId := by rw [Fwd.reqId, hdel.ricId, Fwd.reqId]
    have hlive : s.ric.Live q.x q := by
      refine ⟨(RicState.mem_requestsSent.1 hq).1, hdel.kind, rfl, fun d hd hdkind heq => ?_⟩
      exact h.order.once r hcurrent hkind d hd hdkind
        ⟨heq.1.trans hdel.node, heq.2.trans hid⟩
    have hmem := h.live q.x q hlive i ag (hdel.node.trans hri) hag
    exact hdel.ricId ▸ hmem
  · intro x q hlive j ag hqj hag
    obtain ⟨hmem, hkind, hids, hnot⟩ := hlive
    change q ∈ ric.forwarded at hmem
    change ∀ d ∈ ric.forwarded, _ at hnot
    rw [hforwarded] at hmem hnot
    rcases List.mem_cons.1 hmem with rfl | hmem
    · -- the new subscription
      have hij : i = j := N.distinct i j (by
        rw [← hri, hqj]
        exact hN.eq_self j)
      obtain ⟨c, hc, hckind, -⟩ := hcontent _ hkind
      rw [Fwd.message, hkind, hc] at hmsg
      cases hmsg
      rw [if_pos hij]
      cases c with
      | subscription sr => exact List.mem_cons_self
      | control cr => cases hckind
    · -- the others, none of which is deleted by the request
      have hold := h.live x q ⟨hmem, hkind, hids, fun d hd => hnot d (List.mem_cons_of_mem _ hd)⟩
        j ag hqj hag
      split
      · next hij =>
        cases hr : r.kind with
        | request kind =>
          obtain ⟨c, hc, -⟩ := hcontent _ hr
          rw [Fwd.message, hr, hc] at hmsg
          cases hmsg
          cases c with
          | subscription sr => exact List.mem_cons_of_mem _ hold
          | control cr => exact hold
        | subscriptionDelete =>
          rw [Fwd.message, hr] at hmsg
          cases hmsg
          refine List.mem_filter.2 ⟨hold, decide_eq_true fun heq => ?_⟩
          refine hnot r List.mem_cons_self hr ⟨hri.trans (hij ▸ hqj.symm), ?_⟩
          rw [Fwd.reqId, ← heq, Fwd.reqId]
      · exact hold

/-- A node starts, and nothing was sent to it before. -/
theorem start (h : s.LifeInv N) {i : ι} {msg : Option E2NodeMsg} {ag : AgentState}
    (hdown : ∀ msg, (i, msg) ∉ s.down.flight)
    (hforwarded : ∀ r ∈ s.ric.forwarded, r.node ≠ N.nodeId i) : (s.answer i msg ag).LifeInv N := by
  have hnil : Channels.on i s.down.flight = [] :=
    List.eq_nil_iff_forall_not_mem.2 fun m hm => hdown m (Channels.mem_on.1 hm)
  refine ⟨h.order, fun j ag' hag' => ?_, fun x r hr j ag' hrj hag' => ?_⟩
  · by_cases hij : j = i
    · rw [hij]
      show E2RicMsg.Finds _ (Channels.on i s.down.flight)
      rw [hnil]
      trivial
    · rw [node_answer_of_ne s hij] at hag'
      exact h.finds j ag' hag'
  · by_cases hij : j = i
    · exact absurd (hij ▸ hrj) (hforwarded r hr.mem)
    · rw [node_answer_of_ne s hij] at hag'
      exact h.live x r hr j ag' hrj hag'

/-- A node takes a message. -/
theorem nodeReceive (h : s.LifeInv N) {i : ι} {fd : Fd} {ag ag' : AgentState} {msg : E2RicMsg}
    {down : Channels ι E2RicMsg} {ans : Option E2NodeMsg} (hag : s.node i = some ag)
    (hdown : s.down.receive i = some (msg, down))
    (hhandles : ag.Handles (N.sms i) fd msg ans ag') :
    ({ s with down := down }.answer i ans ag').LifeInv N := by
  have hids := hhandles.liveIds
  refine ⟨h.order, fun j agj hagj => ?_, fun x r hr j agj hrj hagj => ?_⟩
  · by_cases hij : j = i
    · subst hij
      rw [node_answer_self] at hagj
      cases hagj
      have hfinds := h.finds j ag hag
      rw [Channels.on_of_receive hdown] at hfinds
      rw [hids]
      exact hfinds.2
    · rw [node_answer_of_ne _ hij] at hagj
      have hfinds := h.finds j agj hagj
      rw [Channels.on_of_receive_of_ne hdown (Ne.symm hij)] at hfinds
      exact hfinds
  · show r.ricId ∈ (Channels.on j down.flight).foldl E2RicMsg.live agj.liveIds
    by_cases hij : j = i
    · subst hij
      rw [node_answer_self] at hagj
      cases hagj
      have hmem := h.live x r hr j ag hrj hag
      rw [willLive, Channels.on_of_receive hdown] at hmem
      rw [hids]
      exact hmem
    · rw [node_answer_of_ne _ hij] at hagj
      have hmem := h.live x r hr j agj hrj hagj
      rw [willLive, Channels.on_of_receive_of_ne hdown (Ne.symm hij)] at hmem
      exact hmem

/-- A node that was not started was not sent a request. -/
theorem node_ne_of_forwarded {n : ℕ} (hsetup : s.SetupInv N) (hnet : s.NetInv N n) {i : ι}
    (hnone : s.node i = none) : ∀ r ∈ s.ric.forwarded, r.node ≠ N.nodeId i := by
  intro r hr hri
  obtain ⟨entered, hinv⟩ := RicState.deleteInv_reachable hnet.reachable
  obtain ⟨dst, hdst⟩ := hinv.address r hr
  obtain ⟨e, hfind, haddr⟩ := Option.map_eq_some_iff.1 hdst
  obtain ⟨j, rfl⟩ := hnet.forward.e2Nodes e (AssocRbTree.findIf_eq_some hfind).1
  cases haddr
  cases hnet.forward.eq_of_findMapE2NodeSad (hri ▸ hdst)
  exact hsetup.node_of_find hdst hnone

theorem step (h : s.LifeInv N) (hN : N.Deployable) (hsetup : s.SetupInv N) {n : ℕ}
    (hnet : s.NetInv N n) (hn : n < 64515) {a : NetAction ι} (hguard : s.Cooperates N a)
    (ht : s.Trans N a t) : t.LifeInv N := by
  have hmap := (hnet.routeInv hn).map
  cases ht with
  | @ric a ric hint he hric =>
    have htrans := RicState.trans_of_step he hric
    obtain ⟨horder, hforwarded⟩ : s.ric.InOrder a ∧ ric.forwarded = s.ric.forwarded := by
      cases htrans with
      | e42RicRequest => cases hint
      | sendRequest => cases hint
      | e42RicSubscriptionDeleteRequest => exact ⟨hguard.2, rfl⟩
      | _ => exact ⟨trivial, rfl⟩
    exact h.ric (h.order.step hmap htrans horder) hforwarded rfl rfl
  | @e42Request xappId id c src ric he hric =>
    have he' : s.ric.Enabled (.e42RicRequest c.kind ⟨xappId, id, c.ricId⟩ src) := he
    have htrans := RicState.trans_of_step he' hric
    have hforwarded : ric.forwarded = s.ric.forwarded := by
      cases htrans with
      | e42RicRequest => rfl
    exact h.ric (h.order.step hmap htrans hguard.2.1) hforwarded rfl rfl
  | @sendRequest i r ric msg hpc hdst hric hmsg =>
    have he : s.ric.Enabled .sendRequest := ⟨r, hpc⟩
    have htrans := RicState.trans_of_step he hric
    obtain ⟨⟨j, hnode⟩, hcontent⟩ := hnet.forward.current r (by simp [hpc, IappPc.current])
    cases hnet.forward.eq_of_findMapE2NodeSad (hnode ▸ hdst)
    have hforwarded : ric.forwarded = r :: s.ric.forwarded := by
      cases htrans with
      | sendRequest hpc' =>
        cases hpc.symm.trans hpc'
        rfl
    exact h.sendRequest hN hpc hnode (h.order.step hmap htrans trivial) hforwarded hcontent hmsg
  | @setupRequest i req up resp ric hpc hup hric =>
    have he : s.ric.Enabled (.e2SetupRequest req (N.addr i)) := hpc
    have htrans := RicState.trans_of_step he hric
    have hforwarded : ric.forwarded = s.ric.forwarded := by
      cases htrans with
      | e2SetupRequest => rfl
    exact h.setupResponse (h.order.step hmap htrans trivial) hforwarded
  | @e2Answer i ans up ric hpc hup hric =>
    have he : s.ric.Enabled (.e2Answer ans) := hpc
    have htrans := RicState.trans_of_step he hric
    have hforwarded : ric.forwarded = s.ric.forwarded := by
      cases htrans with
      | response => rfl
      | indication => rfl
    exact h.ric (h.order.step hmap htrans trivial) hforwarded rfl rfl
  | @start i epFd fd req ag hnone hstart =>
    exact h.start (hsetup.notStarted i hnone).1 (node_ne_of_forwarded hsetup hnet hnone)
  | @nodeReceive i fd onControl ag ag' msg down ans hag hpos hfd hdown hrecv =>
    obtain ⟨-, hhandles⟩ := (hnet.node i ag hag).subsInv.handles
      (hnet.receivable hag hpos hfd hdown) hrecv
    exact h.nodeReceive hag hdown hhandles
  | @nodeTimer i fd data ag ag' msg hag he hturn =>
    obtain ⟨rfl, -⟩ := (hnet.node i ag hag).subsInv.timerExpiry_cases he hturn
    have hsame : (s.answer i (msg.map AgentMsg.toNodeMsg) ag').node = s.node :=
      Function.update_eq_self_iff.2 hag.symm
    exact h.ric h.order rfl hsame rfl

end LifeInv

end NetState

end FlexRic
