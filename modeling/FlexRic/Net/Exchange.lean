import FlexRic.Net.Draining
import FlexRic.Net.EndToEnd
import FlexRic.Net.XappProcess

/-!
# The exchange of the near-RIC with the xApps

A request counts by where it came from and by what answers it there, and an answer by where it goes
and by what it answers. The near-RIC delivers no response more often than it has accepted the
request, so no xApp gets a response that it does not wait for.
-/

namespace FlexRic

theorem FwdKind.event_inj {kind kind' : FwdKind} (h : kind.event = kind'.event) :
    kind = kind' := by
  cases kind with
  | request k =>
    cases kind' with
    | request k' => cases k <;> cases k' <;> first | rfl | cases h
    | subscriptionDelete => cases k <;> cases h
  | subscriptionDelete =>
    cases kind' with
    | request k' => cases k' <;> cases h
    | subscriptionDelete => rfl

/-- An indication is delivered with another id. -/
theorem RicState.RouteInv.ans_of_indication {s : RicState} (h : s.RouteInv) {d : Delivery}
    (hd : d ∈ s.delivered) {ind : RicIndication} (hmsg : d.msg = .indication ind) :
    ∃ ind', d.ans = .indication ind' ∧ ind = { ind' with ricId := ind.ricId } := by
  obtain ⟨r, -, -, -, heq⟩ := h.delivered d hd
  rw [hmsg] at heq
  cases hans : d.ans with
  | indication ind' =>
    rw [hans] at heq
    cases heq
    exact ⟨ind', rfl, rfl⟩
  | _ =>
    rw [hans] at heq
    cases heq

/-- Where the request came from, and what answers it there. -/
def Fwd.xkey (r : Fwd) : SctpInfo × ReqKey := (r.src, r.kind.eventXapp, r.x.ricId)

/-- Where the answer went, and what it answers there, if it is a response. -/
def Delivery.xkey (d : Delivery) : Option (SctpInfo × ReqKey) :=
  d.msg.key.map fun key => (d.dst, key)

/-- A response to a request with the event is one to the xApp's request. -/
theorem E2Answer.key_setRicId {ans : E2Answer} {kind : FwdKind} {id : RicGenId}
    (h : ans.pendingEvent = some ⟨kind.event, id⟩) (x : RicGenId) :
    (ans.setRicId x).key = some (kind.eventXapp, x) := by
  have hkind : ∀ k : FwdKind, ans.pendingEvent.map PendingEventRic.ev = some k.event →
      kind = k := by
    intro k hk
    rw [h] at hk
    exact FwdKind.event_inj (Option.some.inj hk)
  cases ans with
  | subscriptionResponse m =>
    rw [hkind (.request .subscription) rfl]
    rfl
  | subscriptionDeleteResponse m =>
    rw [hkind .subscriptionDelete rfl]
    rfl
  | controlAcknowledge m =>
    rw [hkind (.request .control) rfl]
    rfl
  | indication m => cases h

theorem E2Answer.ricId_eq {ans : E2Answer} {ev : PendingEventRic} (h : ans.pendingEvent = some ev) :
    ev.id = ans.ricId := by
  cases ans <;> cases h <;> rfl

theorem E2Answer.ricId_setRicId (ans : E2Answer) (id : RicGenId) :
    (ans.setRicId id).ricId = id := by
  cases ans <;> rfl

theorem E2Answer.key_eq_none {ans : E2Answer} (h : ans.pendingEvent = none) (x : RicGenId) :
    (ans.setRicId x).key = none := by
  cases ans <;> first | rfl | cases h

/-- Whether a message comes from an xApp or goes to one. -/
def RicAction.isExchange : RicAction → Bool
  | e42SetupRequest _ _ => true
  | e42RicRequest _ _ _ => true
  | e42RicSubscriptionDeleteRequest _ _ => true
  | sendAnswer => true
  | _ => false

namespace RicState

variable {s t : RicState} {a : RicAction}

/-- The event of a request tells the xApp's request. -/
theorem RouteInv.xkey_eq (h : s.RouteInv) (hids : s.reqIds.Nodup) {q r : Fwd}
    (hq : q ∈ s.forwarded) (hr : r ∈ s.forwarded) (heq : q.event = r.event) : q.xkey = r.xkey := by
  have hid : q.ricId = r.ricId := congrArg PendingEventRic.id heq
  have hkind : q.kind = r.kind := FwdKind.event_inj (congrArg PendingEventRic.ev heq)
  have hx : q.x = r.x := (h.forwarded q hq).known.x_eq (h.forwarded r hr).known hids
    (by rw [Fwd.reqId, Fwd.reqId, hid])
  have hpair := List.inj_on_of_nodup_map h.xapps (h.forwarded q hq).src (h.forwarded r hr).src
    (by rw [hx])
  have hsrc : q.src = r.src := congrArg Prod.snd hpair
  rw [Fwd.xkey, Fwd.xkey, hsrc, hkind, hx]

/-- The xApp's request of an event. -/
def xkeyOf (s : RicState) (ev : PendingEventRic) : Option (SctpInfo × ReqKey) :=
  (s.forwarded.find? fun r => r.event = ev).map Fwd.xkey

theorem RouteInv.xkeyOf_event (h : s.RouteInv) (hids : s.reqIds.Nodup) {r : Fwd}
    (hr : r ∈ s.forwarded) : s.xkeyOf r.event = some r.xkey := by
  have hsome : (s.forwarded.find? fun q => q.event = r.event).isSome :=
    List.find?_isSome.2 ⟨r, hr, decide_eq_true rfl⟩
  obtain ⟨q, hq⟩ := Option.isSome_iff_exists.1 hsome
  have heq : q.event = r.event := by simpa using List.find?_some hq
  rw [xkeyOf, hq, Option.map_some, h.xkey_eq hids (List.mem_of_find?_eq_some hq) hr heq]

/-- The other steps neither accept a request nor deliver an answer. -/
theorem Trans.exchange (h : s.Trans a t) (hx : a.isExchange = false) :
    t.accepted = s.accepted ∧ t.delivered = s.delivered ∧ t.iapp.xapps = s.iapp.xapps := by
  cases h with
  | e42SetupRequest => cases hx
  | e42RicRequest => cases hx
  | e42RicSubscriptionDeleteRequest => cases hx
  | sendAnswer => cases hx
  | createTimer hpc => exact ⟨by simp [accepted, hpc, IappPc.toSend], rfl, rfl⟩
  | insertPending hpc => exact ⟨by simp [accepted, hpc, IappPc.toSend], rfl, rfl⟩
  | @sendRequest r dst hpc =>
    refine ⟨?_, rfl, rfl⟩
    obtain ⟨kind⟩ := r
    cases kind <;> simp [accepted, hpc, IappPc.toSend, afterSend]
  | addMapRicId hpc => exact ⟨by simp [accepted, hpc, IappPc.toSend], rfl, rfl⟩
  | _ => exact ⟨rfl, rfl, rfl⟩

/-- A node that is registered stays so. -/
theorem Trans.nodes_subset (h : s.Trans a t) {e : GlobalE2NodeId × List RanFunction}
    (he : e ∈ s.iapp.e2Nodes.nodeToRf.toList) : e ∈ t.iapp.e2Nodes.nodeToRf.toList := by
  cases ha : a.setsUp with
  | false =>
    obtain ⟨-, hnodes⟩ := nodes_of_trans h ha
    exact hnodes ▸ he
  | true =>
    cases h with
    | e2SetupRequest hpc hadd =>
      obtain ⟨-, rfl⟩ := RegE2Nodes.add_eq_some.1 hadd
      exact AssocRbTree.mem_insert.2 (.inr he)
    | _ => cases ha

end RicState

/-- The steps of the network in which nothing comes from an xApp or goes to one. -/
def NetAction.isInternal {ι : Type} : NetAction ι → Bool
  | ric a => !a.isExchange
  | e42Request _ _ _ _ => false
  | _ => true

namespace NetState

variable {ι : Type} [DecidableEq ι] {N : E2Network ι} {n : ℕ} {s t : NetState ι} {a : NetAction ι}

theorem Trans.exchange (h : s.Trans N a t) (hint : a.isInternal = true) :
    t.ric.accepted = s.ric.accepted ∧ t.ric.delivered = s.ric.delivered ∧
      t.ric.iapp.xapps = s.ric.iapp.xapps := by
  cases h with
  | @ric a ric _ he hric =>
    apply (RicState.trans_of_step he hric).exchange
    rwa [NetAction.isInternal, Bool.not_eq_true'] at hint
  | e42Request => cases hint
  | @sendRequest i r ric msg hpc hdst hric =>
    have he : s.ric.Enabled .sendRequest := ⟨r, hpc⟩
    exact (RicState.trans_of_step he hric).exchange rfl
  | @setupRequest i req up resp ric hpc hup hric =>
    have he : s.ric.Enabled (.e2SetupRequest req (N.addr i)) := hpc
    exact (RicState.trans_of_step he hric).exchange rfl
  | @e2Answer i ans up ric hpc hup hric =>
    have he : s.ric.Enabled (.e2Answer ans) := hpc
    exact (RicState.trans_of_step he hric).exchange rfl
  | start => exact ⟨rfl, rfl, rfl⟩
  | nodeReceive => exact ⟨rfl, rfl, rfl⟩
  | nodeTimer => exact ⟨rfl, rfl, rfl⟩

omit [DecidableEq ι] in
/-- A step in which nothing comes from an xApp gives out no id. -/
theorem givesId_of_isInternal (hint : a.isInternal = true) : givesId a = false := by
  cases a with
  | e42Request => cases hint
  | _ => rfl

/-- The requests that the step brings in come in order. -/
def InOrder (s : NetState ι) : NetAction ι → Prop
  | .ric a => s.ric.InOrder a
  | .e42Request xappId id c src => s.ric.InOrder (.e42RicRequest c.kind ⟨xappId, id, c.ricId⟩ src)
  | _ => True

/-- The near-RIC takes at most one step in a step of the network. -/
theorem Trans.ric_cases (h : s.Trans N a t) : t.ric = s.ric ∨
    ∃ b, s.ric.Trans b t.ric ∧ (s.InOrder a → s.ric.InOrder b) := by
  cases h with
  | ric hint he hric => exact .inr ⟨_, RicState.trans_of_step he hric, id⟩
  | @e42Request xappId id c src ric he hric =>
    have he' : s.ric.Enabled (.e42RicRequest c.kind ⟨xappId, id, c.ricId⟩ src) := he
    exact .inr ⟨_, RicState.trans_of_step he' hric, fun horder => horder⟩
  | @sendRequest i r ric msg hpc hdst hric =>
    have he : s.ric.Enabled .sendRequest := ⟨r, hpc⟩
    exact .inr ⟨_, RicState.trans_of_step he hric, fun _ => trivial⟩
  | @setupRequest i req up resp ric hpc hup hric =>
    have he : s.ric.Enabled (.e2SetupRequest req (N.addr i)) := hpc
    exact .inr ⟨_, RicState.trans_of_step he hric, fun _ => trivial⟩
  | @e2Answer i ans up ric hpc hup hric =>
    have he : s.ric.Enabled (.e2Answer ans) := hpc
    exact .inr ⟨_, RicState.trans_of_step he hric, fun _ => trivial⟩
  | start => exact .inl rfl
  | nodeReceive => exact .inl rfl
  | nodeTimer => exact .inl rfl

theorem Trans.registered_subset (h : s.Trans N a t) : s.registered ⊆ t.registered := by
  intro id hid
  obtain ⟨e, he, rfl⟩ := List.mem_map.1 hid
  apply List.mem_map_of_mem
  rcases h.ric_cases with hsame | ⟨b, htrans, -⟩
  · exact hsame ▸ he
  · exact htrans.nodes_subset he

/-- No response is delivered more often than its request was forwarded. -/
theorem NetInv.delivered_le (h : s.NetInv N n) (hn : n < 64515) (key : SctpInfo × ReqKey) :
    (s.ric.delivered.filterMap Delivery.xkey).count key ≤
      (s.ric.forwarded.map Fwd.xkey).count key := by
  obtain ⟨tr, hrun, -, hout⟩ := h.run
  have hroute := h.routeInv hn
  have hids := h.reqIds_nodup hn
  have hperm := RicState.forwarded_perm (System.steps_restrict.1 hrun).1 hout
  have hkeys := hperm.filterMap s.ric.xkeyOf
  -- the events of the forwarded requests are those of the xApps' requests
  have hforwarded : (s.ric.forwarded.map Fwd.event).filterMap s.ric.xkeyOf =
      s.ric.forwarded.map Fwd.xkey := by
    rw [List.filterMap_map, ← List.filterMap_eq_map]
    exact List.filterMap_congr fun r hr => hroute.xkeyOf_event hids hr
  -- and those of the delivered responses are what these answer
  have hdelivered : (s.ric.delivered.filterMap fun d => d.ans.pendingEvent).filterMap
      s.ric.xkeyOf = s.ric.delivered.filterMap Delivery.xkey := by
    rw [List.filterMap_filterMap]
    refine List.filterMap_congr fun d hd => ?_
    cases hev : d.ans.pendingEvent with
    | none =>
      obtain ⟨r, -, -, -, hmsg⟩ := hroute.delivered d hd
      rw [Delivery.xkey, hmsg, E2Answer.key_eq_none hev]
      rfl
    | some ev =>
      have hmem : ev ∈ s.ric.forwarded.map Fwd.event := by
        refine hperm.mem_iff.2 (List.mem_append_left _ (List.mem_flatMap.2 ⟨d.ans, ?_, ?_⟩))
        · rw [hroute.received]
          exact List.mem_append_right _ (List.mem_map_of_mem hd)
        · rw [hev]
          exact List.mem_singleton_self ev
      obtain ⟨r, hr, rfl⟩ := List.mem_map.1 hmem
      obtain ⟨hdst, hmsg⟩ := hroute.delivered_eq hids hd hr (E2Answer.ricId_eq hev)
      rw [Option.bind_some, hroute.xkeyOf_event hids hr, Delivery.xkey, hmsg, hdst,
        E2Answer.key_setRicId hev]
      rfl
  rw [hforwarded, List.filterMap_append, ← List.filterMap_eq_flatMap_toList, hroute.received,
    List.filterMap_append, List.filterMap_append, List.filterMap_map] at hkeys
  rw [hkeys.count_eq, List.count_append, List.count_append, ← hdelivered]
  exact Nat.le_trans (Nat.le_add_left _ _) (Nat.le_add_right _ _)

/-- An indication that was delivered comes from the node of its subscription, and went to where the
request for it came from. -/
theorem NetInv.exists_subscription (h : s.NetInv N n) (hn : n < 64515) {d : Delivery}
    (hd : d ∈ s.ric.delivered) {ind : RicIndication} (hind : d.ans = .indication ind) :
    ∃ q ∈ s.sent, ∃ sr, (q.node, .answer (.indication ind)) ∈ s.up.taken ∧
      q.content = some (.subscription sr) ∧ q.fwd.kind = .request .subscription ∧
      q.fwd.ricId = ind.ricId ∧ d.dst = q.fwd.src ∧
      d.msg = .indication { ind with ricId := q.fwd.x.ricId } ∧
      (E42Content.subscription sr).AnsweredBy ind.ricId (.indication ind) := by
  have hroute := h.routeInv hn
  have hreceived : .indication ind ∈ s.ric.received := by
    rw [hroute.received]
    exact List.mem_append_right _ (List.mem_map.2 ⟨d, hd, hind⟩)
  obtain ⟨i, htaken⟩ := h.exists_taken hreceived
  obtain ⟨sr, action, data, hmem, haction, hdata⟩ :=
    h.up.answer i (.indication ind) (Channels.mem_all_of_taken htaken)
  obtain ⟨q, hq, rfl, hid, ⟨kind, hkind⟩, c, hc, hforward⟩ := h.exists_sent hmem rfl
  have hricId : q.fwd.ricId = ind.ricId := by
    rw [hid, hdata]
    rfl
  obtain ⟨c', hc', hkind', -⟩ := (h.forward.toNode q hq).2 kind hkind
  cases hc.symm.trans hc'
  obtain ⟨hdst, hmsg⟩ := hroute.delivered_eq (h.reqIds_nodup hn) hd
    (h.forward.forwarded ▸ List.mem_map_of_mem hq) (hind ▸ hricId)
  rw [hind] at hmsg
  cases c with
  | control cr => cases hforward
  | subscription sr' =>
    subst hkind'
    have hsame := congrArg Ap.RicSubscriptionRequest.action
      (E2RicMsg.subscriptionRequest.inj hforward)
    exact ⟨q, hq, sr', htaken, hc, hkind, hricId, hdst, hmsg, action, data,
      hsame.symm.trans haction, hdata ▸ rfl⟩

/-- What was delivered is about a request, and an indication about a subscription. -/
theorem NetInv.exists_request (h : s.NetInv N n) (hn : n < 64515) {d : Delivery}
    (hd : d ∈ s.ric.delivered) : ∃ r ∈ s.ric.forwarded, d.dst = r.src ∧
      d.msg.ricId = r.x.ricId ∧ (d.msg.key = none → r.kind = .request .subscription) := by
  cases hans : d.ans with
  | indication ind =>
    obtain ⟨q, hq, -, -, -, hkind, -, hdst, hmsg, -⟩ := h.exists_subscription hn hd hans
    exact ⟨q.fwd, h.forward.forwarded ▸ List.mem_map_of_mem hq, hdst, by rw [hmsg]; rfl,
      fun _ => hkind⟩
  | _ =>
    obtain ⟨r, hr, -, hdst, hmsg⟩ := (h.routeInv hn).delivered d hd
    refine ⟨r, hr, hdst, by rw [hmsg, E2Answer.ricId_setRicId], fun hkey => ?_⟩
    rw [hmsg, hans] at hkey
    cases hkey

end NetState

end FlexRic
