import FlexRic.Net.Cooperation

/-!
# From the xApps to the E2 nodes and back

What a run of the network means for the xApps: a message that one of them gets answers a request of
its own and comes from the node that it asked, a subscription at a node is one that an xApp asked
for there, the response to a delete request is the last message about a subscription, and no
request or response is lost or answered twice.
-/

namespace FlexRic

/-- An answer to a request that was forwarded with the id `id`. -/
def E42Content.AnsweredBy (id : RicGenId) : E42Content → E2Answer → Prop
  | subscription sr, .subscriptionResponse m =>
    ∃ action, sr.action = [action] ∧ m = ⟨id, [action.id], 0⟩
  | subscription sr, .indication m =>
    ∃ action data, sr.action = [action] ∧ m = generateIndication data ⟨id, action.id⟩
  | subscription _, .subscriptionDeleteResponse m => m = ⟨id⟩
  | control _, .controlAcknowledge m => m = ⟨id, .success⟩
  | _, _ => False

/-- A message with a new id is sent for a subscription or control request. -/
theorem Fwd.message_newId {r : Fwd} {content : Option E42Content} {msg : E2RicMsg} {id : RicGenId}
    (h : r.message content = some msg) (hid : msg.newId = some id) :
    id = r.ricId ∧ (∃ kind, r.kind = .request kind) ∧
      ∃ c, content = some c ∧ msg = c.forward r.ricId := by
  obtain ⟨kind, node, ricId, x, src⟩ := r
  cases kind with
  | request kind =>
    obtain ⟨c, rfl, rfl⟩ := Option.map_eq_some_iff.1 h
    refine ⟨?_, ⟨kind, rfl⟩, c, rfl, rfl⟩
    cases c <;> exact (Option.some.inj hid).symm
  | subscriptionDelete =>
    cases h
    cases hid

namespace E2Answer.Answers

variable {ι : Type} {taken : List (ι × E2RicMsg)} {i : ι} {ans : E2Answer}

/-- An answer is about a subscription or control request that was taken. -/
theorem exists_newId (h : ans.Answers taken i) :
    ∃ msg, (i, msg) ∈ taken ∧ msg.newId = some ans.ricId ∧
      ∀ (c : E42Content) id, msg = c.forward id → c.AnsweredBy id ans := by
  cases ans with
  | subscriptionResponse m =>
    obtain ⟨sr, action, hmem, haction, rfl⟩ := h
    refine ⟨_, hmem, rfl, ?_⟩
    rintro (sr' | cr) id ⟨⟩
    exact ⟨action, haction, rfl⟩
  | subscriptionDeleteResponse m =>
    obtain ⟨-, sr, hmem, hid⟩ := h
    refine ⟨_, hmem, congrArg some hid, ?_⟩
    rintro (sr' | cr) id ⟨⟩
    exact congrArg RicSubscriptionDeleteResponse.mk hid.symm
  | controlAcknowledge m =>
    obtain ⟨cr, hmem, rfl⟩ := h
    refine ⟨_, hmem, rfl, ?_⟩
    rintro (sr' | cr') id ⟨⟩
    rfl
  | indication m =>
    obtain ⟨sr, action, data, hmem, haction, rfl⟩ := h
    refine ⟨_, hmem, rfl, ?_⟩
    rintro (sr' | cr) id ⟨⟩
    exact ⟨action, data, haction, rfl⟩

end E2Answer.Answers

/-- Where an answer went is where the request with its id came from. -/
theorem RicState.RouteInv.delivered_eq {s : RicState} (h : s.RouteInv) (hids : s.reqIds.Nodup)
    {d : Delivery} (hd : d ∈ s.delivered) {r : Fwd} (hr : r ∈ s.forwarded)
    (hid : r.ricId = d.ans.ricId) : d.dst = r.src ∧ d.msg = d.ans.setRicId r.x.ricId := by
  obtain ⟨r', hr', hid', hdst, hmsg⟩ := h.delivered d hd
  have hx : r.x = r'.x := (h.forwarded r hr).known.x_eq (h.forwarded r' hr').known hids
    (by rw [Fwd.reqId, Fwd.reqId, hid, hid'])
  have hpair := List.inj_on_of_nodup_map h.xapps (h.forwarded r hr).src (h.forwarded r' hr').src
    (by rw [hx])
  have hsrc : r.src = r'.src := congrArg Prod.snd hpair
  exact ⟨hdst.trans hsrc.symm, hx ▸ hmsg⟩

/-- When every response answers an outstanding request, the forwarded requests are those with a
response and the outstanding ones. -/
theorem RicState.forwarded_perm {epFd : Fd} {plugin : List SmRic}
    {tr : List (RicState × RicAction)} {s : RicState} (h : (threads epFd plugin).Run tr s)
    (hout : ∀ p ∈ tr, p.1.AnswersOutstanding p.2) :
    (s.forwarded.map Fwd.event).Perm
      (s.received.flatMap (fun ans => ans.pendingEvent.toList) ++ s.outstanding) := by
  induction h with
  | nil => exact .refl _
  | @cons tr t u a hrun he hu ih =>
    obtain ⟨hlast, hrest⟩ := List.forall_mem_cons.1 hout
    have ih := ih hrest
    cases RicState.trans_of_step he hu with
    | @sendRequest r dst hpc => exact (ih.cons r.event).trans List.perm_middle.symm
    | @response ans ev fd pending hpc hev =>
      have hmem : ev ∈ t.outstanding := hlast ev hev
      have hperm := ih.trans ((List.perm_cons_erase hmem).append_left _)
      rw [List.flatMap_cons, hev]
      exact hperm.trans List.perm_middle
    | indication hpc hev =>
      rw [List.flatMap_cons, hev]
      exact ih
    | _ => exact ih

/-- A request with the event of a subscription or control request is one as well. -/
theorem Fwd.newEntry_of_event {r q : Fwd} (heq : q.event = r.event) (hnew : r.newEntry = [r]) :
    q.newEntry = [q] := by
  have hev : q.kind.event = r.kind.event := congrArg PendingEventRic.ev heq
  rw [newEntry] at hnew ⊢
  cases hr : r.kind with
  | subscriptionDelete =>
    rw [hr] at hnew
    cases hnew
  | request kind =>
    cases hq : q.kind with
    | request kind' => rfl
    | subscriptionDelete =>
      rw [hr, hq] at hev
      cases kind <;> cases hev

/-- The subscription and control requests have different ids, so their events are different. -/
theorem RicState.RouteInv.count_event {s : RicState} (h : s.RouteInv) {r : Fwd}
    (hr : r ∈ s.forwarded) (hnew : r.newEntry = [r]) :
    (s.forwarded.map Fwd.event).count r.event = 1 := by
  obtain ⟨before, after, hsplit⟩ := List.append_of_mem hr
  have hids := h.ids
  rw [hsplit, List.map_append] at hids
  have hnodup := (List.nodup_append.1 hids).2.1
  rw [List.flatMap_append, List.flatMap_cons, hnew, List.map_append, List.map_append,
    List.map_singleton] at hnodup
  have hperm : (before ++ r :: after).Perm (r :: (before ++ after)) := List.perm_middle
  rw [hsplit, (hperm.map Fwd.event).count_eq, List.map_cons, List.count_cons_self]
  refine congrArg (· + 1) (List.count_eq_zero.2 fun hmem => ?_)
  obtain ⟨q, hq, heq⟩ := List.mem_map.1 hmem
  -- a request with the same event is one of the same kind and with the same id
  have hqnew := Fwd.newEntry_of_event heq hnew
  have hqid : q.reqId = r.reqId := by
    rw [Fwd.reqId, Fwd.reqId]
    exact congrArg (fun e : PendingEventRic => e.id.ricReqId.toUInt16) heq
  rw [List.singleton_append, List.perm_middle.nodup_iff, ← List.map_append,
    ← List.flatMap_append] at hnodup
  refine (List.nodup_cons.1 hnodup).1 (hqid ▸ List.mem_map_of_mem ?_)
  exact List.mem_flatMap.2 ⟨q, hq, by rw [hqnew]; exact List.mem_singleton_self q⟩

namespace NetState

variable {ι : Type} {tr : List (NetState ι × NetAction ι)}

/-! ## The requests of a run -/

/-- The request was made in the run, with the content. -/
def Asked (tr : List (NetState ι × NetAction ι)) (r : Fwd) (content : Option E42Content) : Prop :=
  ∀ kind, r.kind = .request kind →
    ∃ c, content = some c ∧ ∃ p ∈ tr, p.2 = .e42Request r.x.xappId r.node c r.src

theorem Asked.mono {r : Fwd} {content : Option E42Content} (h : Asked tr r content)
    (p : NetState ι × NetAction ι) : Asked (p :: tr) r content := by
  intro kind hkind
  obtain ⟨c, hc, q, hq, heq⟩ := h kind hkind
  exact ⟨c, hc, q, List.mem_cons_of_mem _ hq, heq⟩

variable [DecidableEq ι] {N : E2Network ι} {s t : NetState ι} {n : ℕ}

/-- The requests that were sent were made by xApps in the run, and so was the one that is being
forwarded. -/
theorem asked_run (h : (e2Network N).Run tr s) :
    (∀ r ∈ s.ric.iappPc.current, Asked tr r s.content) ∧
      ∀ q ∈ s.sent, Asked tr q.fwd q.content := by
  induction h with
  | nil => exact ⟨fun _ hr => absurd hr List.not_mem_nil, fun _ hq => absurd hq List.not_mem_nil⟩
  | @cons tr t u a _ he hu ih =>
    obtain ⟨hcurrent, hsent⟩ := ih
    have hsent' : ∀ q ∈ t.sent, Asked ((t, a) :: tr) q.fwd q.content :=
      fun q hq => (hsent q hq).mono _
    have hcurrent' : ∀ r ∈ t.ric.iappPc.current, Asked ((t, a) :: tr) r t.content :=
      fun r hr => (hcurrent r hr).mono _
    cases trans_of_step he hu with
    | ric hint hen hric =>
      refine ⟨?_, hsent'⟩
      cases RicState.trans_of_step hen hric with
      | e42RicRequest => cases hint
      | sendRequest => cases hint
      | response => cases hint
      | indication => cases hint
      | e2SetupRequest => cases hint
      | e42RicSubscriptionDeleteRequest =>
        refine List.forall_mem_singleton.2 fun kind hkind => ?_
        cases hkind
      | createTimer hpc =>
        rw [hpc] at hcurrent'
        exact hcurrent'
      | insertPending hpc =>
        rw [hpc] at hcurrent'
        exact hcurrent'
      | addMapRicId => exact fun _ hr => absurd hr List.not_mem_nil
      | _ => exact hcurrent'
    | @e42Request xappId id c src ric hen hric =>
      refine ⟨?_, hsent'⟩
      have hen' : t.ric.Enabled (.e42RicRequest c.kind ⟨xappId, id, c.ricId⟩ src) := hen
      cases RicState.trans_of_step hen' hric with
      | e42RicRequest =>
        exact List.forall_mem_singleton.2 fun kind hkind => ⟨c, rfl, _, List.mem_cons_self, rfl⟩
    | @sendRequest i r ric msg hpc hdst hric hmsg =>
      have hr : Asked ((t, .sendRequest i) :: tr) r t.content :=
        hcurrent' r (by simp [hpc, IappPc.current])
      have hen : t.ric.Enabled .sendRequest := ⟨r, hpc⟩
      refine ⟨?_, List.forall_mem_cons.2 ⟨hr, hsent'⟩⟩
      cases RicState.trans_of_step hen hric with
      | sendRequest hpc' =>
        cases hpc.symm.trans hpc'
        intro q hq
        have hqr : q = r := by
          cases r with
          | mk kind => cases kind <;> simp_all [RicState.afterSend, IappPc.current]
        exact hqr ▸ hr
    | @setupRequest i req up resp ric hpc hup hric =>
      have hen : t.ric.Enabled (.e2SetupRequest req (N.addr i)) := hpc
      cases RicState.trans_of_step hen hric with
      | e2SetupRequest => exact ⟨hcurrent', hsent'⟩
    | @e2Answer i ans up ric hpc hup hric =>
      have hen : t.ric.Enabled (.e2Answer ans) := hpc
      cases RicState.trans_of_step hen hric with
      | response => exact ⟨hcurrent', hsent'⟩
      | indication => exact ⟨hcurrent', hsent'⟩
    | start => exact ⟨hcurrent', hsent'⟩
    | nodeReceive => exact ⟨hcurrent', hsent'⟩
    | nodeTimer => exact ⟨hcurrent', hsent'⟩

namespace NetInv

/-- A request that a node took was sent to it for an xApp. -/
theorem exists_sent (h : s.NetInv N n) {i : ι} {msg : E2RicMsg} (hmem : (i, msg) ∈ s.down.taken)
    {id : RicGenId} (hid : msg.newId = some id) :
    ∃ q ∈ s.sent, q.node = i ∧ q.fwd.ricId = id ∧ (∃ kind, q.fwd.kind = .request kind) ∧
      ∃ c, q.content = some c ∧ msg = c.forward id := by
  rcases h.down.request _ (Channels.mem_all_of_taken hmem) with ⟨resp, rfl⟩ | ⟨q, hq, hnode, hmsg⟩
  · cases hid
  · obtain ⟨rfl, hkind, c, hc, hforward⟩ := Fwd.message_newId hmsg hid
    exact ⟨q, hq, hnode, rfl, hkind, c, hc, hforward⟩

/-- The id of an answer tells the node that it comes from. -/
theorem node_eq_of_ricId (h : s.NetInv N n) {i j : ι} {a b : E2Answer}
    (ha : (i, .answer a) ∈ s.up.all) (hb : (j, .answer b) ∈ s.up.all) (heq : a.ricId = b.ricId) :
    i = j := by
  obtain ⟨msg, hmem, hid, -⟩ := E2Answer.Answers.exists_newId (h.up.answer i a ha)
  obtain ⟨msg', hmem', hid', -⟩ := E2Answer.Answers.exists_newId (h.up.answer j b hb)
  exact congrArg Prod.fst (h.down.eq_of_newId (Channels.mem_all_of_taken hmem)
    (Channels.mem_all_of_taken hmem') hid (heq ▸ hid'))

/-- What the near-RIC has received it has taken from a node. -/
theorem exists_taken (h : s.NetInv N n) {ans : E2Answer} (hans : ans ∈ s.ric.received) :
    ∃ i, (i, .answer ans) ∈ s.up.taken := by
  have hmem := List.mem_reverse.2 hans
  rw [h.received] at hmem
  obtain ⟨⟨i, msg⟩, hmem, hans⟩ := List.mem_flatMap.1 hmem
  cases msg with
  | setupRequest req => cases hans
  | answer a =>
    cases List.mem_singleton.1 hans
    exact ⟨i, hmem⟩

theorem reqIds_nodup (h : s.NetInv N n) (hn : n < 64515) : s.ric.reqIds.Nodup := by
  obtain ⟨tr, hrun, rfl, -⟩ := h.run
  exact (RicState.reqIdInv_run (System.steps_restrict.1 hrun).1 (Nat.le_of_lt hn)).nodup

end NetInv

end NetState

/-! ## One subscription

An xApp subscribes at the only E2 node, gets a report and deletes the subscription. -/

namespace Sample

/-- The runs of the network in which the xApp does as it should. -/
def net : System (NetState Unit) (NetAction Unit) :=
  (e2Network network).restrict (NetState.XappGuard network)

/-- What is done from the start is a run, with as many requests as there are among the actions. -/
theorem run_of_sched {acts : List (NetAction Unit)} {s : NetState Unit}
    (h : cooperating.Sched (.init network) acts s) :
    ∃ tr, net.Run tr s ∧ NetState.requests tr = acts.countP NetState.givesId := by
  obtain ⟨tr, hsteps, hacts⟩ := h.steps
  exact ⟨tr, hsteps.restrict_mono fun _ _ => NetState.Cooperates.xappGuard,
    requests_of_sched hacts⟩

/-- A run with a report. -/
theorem exists_subscribed : ∃ tr s, net.Run tr s ∧ NetState.requests tr = 1 ∧
    (∃ ag l, s.node () = some ag ∧ ag.live = [l] ∧ l.request.ricId = ⟨1021, 0, 142⟩) ∧
    s.ric.delivered.length = 2 := by
  obtain ⟨r, s, -, hr, hs, -, -, hlive, hdelivered, -⟩ := sched_subscription
  obtain ⟨tr, hrun, hreq⟩ := run_of_sched (hr.append hs)
  have hlen := congrArg List.length hdelivered
  rw [List.length_map] at hlen
  exact ⟨tr, s, hrun, hreq, hlive, hlen⟩

/-- A run with the response to the delete request. -/
theorem exists_unsubscribed : ∃ tr t, net.Run tr t ∧ NetState.requests tr = 1 ∧
    .subscriptionDeleteResponse ⟨⟨1021, 0, 142⟩⟩ ∈ t.ric.received ∧
    t.ric.forwarded.length = 2 ∧ ∃ r ∈ t.ric.forwarded, r.newEntry = [r] := by
  obtain ⟨r, s, t, hr, hs, ht, -, -, -, hfacts⟩ := sched_subscription
  obtain ⟨tr, hrun, hreq⟩ := run_of_sched ((hr.append hs).append ht)
  exact ⟨tr, t, hrun, hreq, hfacts⟩

end Sample

/-! ## The runs of the network -/

namespace NetState

variable {ι : Type} [DecidableEq ι] {N : E2Network ι} {tr : List (NetState ι × NetAction ι)}
  {s : NetState ι}

/-- **Assumptions.** In every run of the network with fewer than 65536 - 1021 requests, the
near-RIC has made a run in which the answers carry the ids of forwarded requests and every response
answers an outstanding one, and every agent is where its event loop can be when no subscription
request has a live id: each party does what the others rely on. -/
theorem parties_of_run (h : ((e2Network N).restrict (XappGuard N)).Run tr s)
    (hn : requests tr < 65536 - 1021) :
    (∃ tr', ((threads N.epFd N.plugin).restrict RicState.RoutingGuard).Run tr' s.ric ∧
      RicState.requests tr' = requests tr ∧ ∀ p ∈ tr', p.1.AnswersOutstanding p.2) ∧
    ∀ i ag, s.node i = some ag → ∃ epFd fd ag₀,
      AgentState.start epFd (N.sms i) (N.nodeId i) fd = some ag₀ ∧
        (AgentState.eventLoop (N.sms i) ag₀).Reachable ag := by
  have hinv := netInv_run h hn
  exact ⟨hinv.run, fun i ag hag => (hinv.node i ag hag).reachable⟩

theorem parties_of_unsubscribed : ∃ t : NetState Unit,
    .subscriptionDeleteResponse ⟨⟨1021, 0, 142⟩⟩ ∈ t.ric.received ∧
    (∃ tr, ((threads 3 [Sample.sm]).restrict RicState.RoutingGuard).Run tr t.ric ∧
      RicState.requests tr = 1 ∧ ∀ p ∈ tr, p.1.AnswersOutstanding p.2) ∧
    ∀ i ag, t.node i = some ag → ∃ epFd fd ag₀,
      AgentState.start epFd [Sample.macSm] Sample.gNB fd = some ag₀ ∧
        (AgentState.eventLoop [Sample.macSm] ag₀).Reachable ag := by
  obtain ⟨tr, t, hrun, hreq, hdel, -⟩ := Sample.exists_unsubscribed
  have hparties := parties_of_run hrun (by omega)
  rw [hreq] at hparties
  exact ⟨t, hdel, hparties⟩

/-- **Subscriptions.** Every live subscription of an agent is one that an xApp has made for this
node in the run, with the event trigger and the actions that the xApp has asked for, and no two
live subscriptions of the network, at one node or at two, have the same id. -/
theorem live_of_run (h : ((e2Network N).restrict (XappGuard N)).Run tr s)
    (hn : requests tr < 65536 - 1021) {i : ι} {ag : AgentState} (hag : s.node i = some ag)
    {l : LiveSubscription} (hl : l ∈ ag.live) :
    (∃ xappId sr src id, (∃ p ∈ tr, p.2 = .e42Request xappId (N.nodeId i) (.subscription sr) src) ∧
      l.request = Ap.RicSubscriptionRequest.read { sr with ricId := id }) ∧
    ∀ j ag', s.node j = some ag' → ∀ l' ∈ ag'.live,
      l'.request.ricId = l.request.ricId → j = i ∧ l' = l := by
  have hinv := netInv_run h hn
  have hnode := hinv.node i ag hag
  obtain ⟨sr, action, hmem, haction, hreq⟩ := hnode.live l hl
  constructor
  · obtain ⟨q, hq, rfl, hqid, ⟨kind, hkind⟩, c, hc, hforward⟩ := hinv.exists_sent hmem rfl
    obtain ⟨hnode', -⟩ := hinv.forward.toNode q hq
    obtain ⟨c', hc', p, hp, heq⟩ := (asked_run (System.steps_restrict.1 h).1).2 q hq kind hkind
    cases hc.symm.trans hc'
    cases c with
    | control cr => cases hforward
    | subscription sr' =>
      rw [E2RicMsg.subscriptionRequest.inj hforward] at hreq
      exact ⟨_, sr', _, sr.ricId, ⟨p, hp, hnode' ▸ heq⟩, hreq⟩
  · intro j ag' hag' l' hl' hid
    obtain ⟨sr', action', hmem', haction', hreq'⟩ := (hinv.node j ag' hag').live l' hl'
    have hsame := hinv.down.eq_of_newId (Channels.mem_all_of_taken hmem)
      (Channels.mem_all_of_taken hmem') (rfl : E2RicMsg.newId _ = some sr.ricId) (by
        rw [E2RicMsg.newId, ← Ap.RicSubscriptionRequest.read_ricId sr', ← hreq', hid, hreq,
          Ap.RicSubscriptionRequest.read_ricId])
    cases hsame
    cases hag.symm.trans hag'
    refine ⟨rfl, ?_⟩
    exact List.inj_on_of_nodup_map hnode.subsInv.liveIds_nodup hl' hl hid

theorem live_of_subscribed : ∃ (tr : List (NetState Unit × NetAction Unit)) (l : LiveSubscription),
    l.request.ricId = ⟨1021, 0, 142⟩ ∧
    ∃ xappId sr src id, (∃ p ∈ tr, p.2 = .e42Request xappId Sample.gNB (.subscription sr) src) ∧
      l.request = Ap.RicSubscriptionRequest.read { sr with ricId := id } := by
  obtain ⟨tr, s, hrun, hreq, ⟨ag, l, hag, hlive, hid⟩, -⟩ := Sample.exists_subscribed
  have hl : l ∈ ag.live := hlive ▸ List.mem_singleton_self l
  exact ⟨tr, l, hid, (live_of_run hrun (by omega) hag hl).1⟩

/-- **Responses.** No request and no response is lost or duplicated: the requests that were
forwarded are those on their way to a node, those whose response is on its way back, and those
whose response was received. A subscription or control request is one of these, once. -/
theorem responses_of_run (h : ((e2Network N).restrict (XappGuard N)).Run tr s)
    (hn : requests tr < 65536 - 1021) :
    (s.ric.forwarded.map Fwd.event).Perm
      (s.ric.received.flatMap (fun ans => ans.pendingEvent.toList) ++
        (s.down.flight.flatMap (fun p => p.2.event.toList) ++
          s.up.flight.flatMap fun p => p.2.event.toList)) ∧
    ∀ r ∈ s.ric.forwarded, r.newEntry = [r] →
      (s.ric.received.flatMap fun ans => ans.pendingEvent.toList).count r.event +
        ((s.down.flight.flatMap fun p => p.2.event.toList).count r.event +
          (s.up.flight.flatMap fun p => p.2.event.toList).count r.event) = 1 := by
  have hinv := netInv_run h hn
  obtain ⟨tr', hrun, -, hout⟩ := hinv.run
  have hperm := (RicState.forwarded_perm (System.steps_restrict.1 hrun).1 hout).trans
    (List.Perm.append_left _ hinv.conserved)
  refine ⟨hperm, fun r hr hnew => ?_⟩
  rw [← List.count_append, ← List.count_append, ← hperm.count_eq]
  exact (hinv.routeInv hn).count_event hr hnew

theorem responses_of_unsubscribed : ∃ (t : NetState Unit) (r : Fwd),
    t.ric.forwarded.length = 2 ∧ r ∈ t.ric.forwarded ∧
    (t.ric.received.flatMap fun ans => ans.pendingEvent.toList).count r.event +
      ((t.down.flight.flatMap fun p => p.2.event.toList).count r.event +
        (t.up.flight.flatMap fun p => p.2.event.toList).count r.event) = 1 := by
  obtain ⟨tr, t, hrun, hreq, -, hlen, r, hr, hnew⟩ := Sample.exists_unsubscribed
  exact ⟨t, r, hlen, hr, (responses_of_run hrun (by omega)).2 r hr hnew⟩

end NetState

end FlexRic
