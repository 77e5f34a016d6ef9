import FlexRic.Net.XappProgress

/-!
# Reports, from the call to the callback

In the whole system a run is one of the near-RIC and the E2 nodes, and one of the threads of every
xApp. What an application is told through the callback of a report is then what the node that it
asked has sent for it.
-/

namespace FlexRic

/-- A report gets an id of its service model. -/
theorem E42Xapp.ranFuncId_of_report {x y : E42Xapp} {node : GlobalE2NodeId} {ranFuncId : UInt16}
    {i : InterXapp} {cb : SmCb} {id : RicGenId}
    (h : x.reportSmSyncXapp node ranFuncId i cb = some (id, y)) : id.ranFuncId = ranFuncId := by
  obtain ⟨⟨ricId, z⟩, hgen, h⟩ := Option.bind_eq_some_iff.1 h
  obtain ⟨-, h⟩ := Option.ite_none_right_eq_some.1 h
  obtain ⟨sm, -, heq⟩ := Option.map_eq_some_iff.1 h
  cases heq
  exact ranFuncId_of_generate hgen

/-- The indication among the messages of an E2 node. -/
def E2Answer.indication? : E2Answer → Option RicIndication
  | indication ind => some ind
  | _ => none

theorem E2Answer.indication?_eq_some {ans : E2Answer} {ind : RicIndication} :
    ans.indication? = some ind ↔ ans = .indication ind := by
  cases ans <;> simp [indication?]

/-- The message, if it is an indication with the id. -/
def E2Answer.indicationOf (id : RicGenId) (ans : E2Answer) : Option RicIndication :=
  ans.indication?.filter fun ind => ind.ricId = id

theorem E2Answer.indicationOf_indication (id : RicGenId) (ind : RicIndication) :
    (indication ind).indicationOf id = if ind.ricId = id then some ind else none := by
  by_cases h : ind.ricId = id <;> simp [indicationOf, indication?, Option.filter, h]

theorem E2Answer.indicationOf_eq_some {id : RicGenId} {ans : E2Answer} {ind : RicIndication} :
    ans.indicationOf id = some ind ↔ ans = .indication ind ∧ ind.ricId = id := by
  rw [indicationOf, Option.filter_eq_some_iff, indication?_eq_some, decide_eq_true_iff]

/-- The indications that the threads take are those among the messages that they take. -/
theorem DispatchState.indications_eq {x : E42Xapp} {tr : List (DispatchState × DispatchAction)}
    {s : DispatchState} (h : (xappDispatch x).Run tr s) : indications tr =
      (tr.reverse.filterMap fun e => e.2.answer?).filterMap E2Answer.indication? := by
  induction h with
  | nil => rfl
  | @cons tr s t a h he ht ih =>
    have hanswer : a.indication? = a.answer?.bind E2Answer.indication? := by
      cases a with
      | thread b =>
        cases b with
        | e2Answer ans =>
          cases ans with
          | indication ind => cases he.2.1
          | _ => rfl
        | _ => rfl
      | _ => rfl
    rw [indications_cons, ih, List.reverse_cons, filterMap_concat, List.filterMap_append, hanswer]
    cases a.answer? with
    | none => rfl
    | some ans => exact congrArg _ (filterMap_concat E2Answer.indication? [] ans).symm

namespace XappProc

variable {cfg : XappConfig} {P Q : ApiCall → Prop} {sent : List E42Msg} {taken : List XappMsg}
  {x : E42Xapp} {tr : List (DispatchState × DispatchAction)} {d : DispatchState}
  {draft : Option E42Msg} {p : XappProc}

theorem ConnectedInv.mono (h : ConnectedInv cfg P sent taken x tr d draft)
    (hPQ : ∀ c, P c → Q c) : ConnectedInv cfg Q sent taken x tr d draft where
  fresh := h.fresh
  noProcedures := h.noProcedures
  plugin := h.plugin
  setup := h.setup
  connected := h.connected
  run := h.run
  const := h.const
  drafted msg hmsg hask := by
    obtain ⟨s, c, hmem, hc, hdraft⟩ := h.drafted msg hmsg hask
    exact ⟨s, c, hmem, hPQ c hc, hdraft⟩
  asked := h.asked
  answers := h.answers
  knownIds := h.knownIds
  balance := h.balance
  draft := h.draft

theorem RunInv.mono (h : RunInv cfg P sent taken p) (hPQ : ∀ c, P c → Q c) :
    RunInv cfg Q sent taken p := by
  cases h with
  | off hsent htaken => exact .off hsent htaken
  | connecting hwaits hx hplugin hsent htaken =>
    exact .connecting hwaits hx hplugin hsent htaken
  | connected h => exact .connected (h.mono hPQ)

/-- A subscription request is that of a report. -/
theorem ConnectedInv.report_of_sent (h : ConnectedInv cfg P sent taken x tr d draft)
    {xappId : UInt16} {node : GlobalE2NodeId} {sr : Ap.RicSubscriptionRequest}
    (hmem : .request xappId node (.subscription sr) ∈ sent) : ∃ ranFuncId i cb,
      P (.report node ranFuncId i cb) ∧
      sr = generateSubscriptionRequest sr.ricId (cfg.onSubscription ranFuncId i) ∧
      sr.ricId.ranFuncId = ranFuncId ∧
      ⟨.ricSubscriptionProcedureActive, sr.ricId, some cb, node⟩ ∈ DispatchState.procs tr := by
  obtain ⟨u, c, hu, hc, hdraft⟩ := h.drafted _ (.inr hmem) (Option.some_ne_none _)
  have hui : (u.ui, c.toThread) ∈ DispatchState.uiTrace tr := DispatchState.mem_uiTrace hu
  cases c with
  | report id ranFuncId i cb =>
    obtain ⟨⟨ricId, y⟩, hreq, heq⟩ := Option.map_eq_some_iff.1 hdraft
    cases heq
    refine ⟨ranFuncId, i, cb, hc, rfl, E42Xapp.ranFuncId_of_report hreq, ?_⟩
    exact List.mem_filterMap.2 ⟨_, hui, congrArg (Option.map _) hreq⟩
  | rmReport handle =>
    obtain ⟨r, -, heq⟩ := Option.map_eq_some_iff.1 hdraft
    cases heq
  | control id ranFuncId data =>
    obtain ⟨r, -, hcr⟩ := Option.bind_eq_some_iff.1 hdraft
    obtain ⟨cr, -, heq⟩ := Option.map_eq_some_iff.1 hcr
    cases heq

/-- What the dispatcher has got for a procedure that is active is what the xApp has taken for it. -/
theorem ConnectedInv.messages_of_active (h : ConnectedInv cfg P sent taken x tr d draft)
    {v : ActProcVal} (hv : v ∈ d.ui.xapp.actProc.procs) {sm : SmRic}
    (hsm : smPluginRic cfg.pluginRic v.id.ranFuncId = some sm) :
    (d.messages.filter fun m => m.reqId = v.id.ricReqId) =
      ((taken.filterMap XappMsg.answer?).filterMap (E2Answer.indicationOf v.id)).map
        fun ind => DispatchState.message sm v { ind with ricId := v.id } := by
  have hproc := XappState.procInv_run h.noProcedures (DispatchState.uiSteps h.run)
  have hmessages : (d.messages.filter fun m => m.reqId = v.id.ricReqId) =
      ((taken.filterMap XappMsg.answer?).filterMap (E2Answer.indicationOf v.id)).map
        (DispatchState.message sm v) := by
    rw [DispatchState.messages_of_live h.noProcedures h.run h.knownIds
      (hproc.perm.mem_iff.1 hv) (h.plugin ▸ hsm), DispatchState.indications_eq h.run,
      ← h.answers, List.filter_filterMap]
    rfl
  rw [hmessages]
  refine List.map_congr_left fun ind hind => ?_
  obtain ⟨ans, -, hans⟩ := List.mem_filterMap.1 hind
  rw [← (E2Answer.indicationOf_eq_some.1 hans).2]

end XappProc

/-- What was received was delivered or is being handled. -/
theorem RicState.RouteInv.received_reverse {s : RicState} (h : s.RouteInv) :
    s.received.reverse = (s.delivered.map Delivery.ans).reverse ++ s.ricPc.answers := by
  rw [h.received, List.reverse_append]
  cases s.ricPc <;> rfl

namespace NetState

/-- What was sent on to a node is among the messages to it. -/
theorem mem_down_of_sent {ι : Type} [DecidableEq ι] {N : E2Network ι}
    {tr : List (NetState ι × NetAction ι)} {s : NetState ι} (h : (e2Network N).Run tr s) :
    ∀ q ∈ s.sent, ∃ msg, q.fwd.message q.content = some msg ∧ (q.node, msg) ∈ s.down.all := by
  induction h with
  | nil => exact fun q hq => absurd hq List.not_mem_nil
  | @cons tr t u a _ he hu ih =>
    have hsend : ∀ {i : ι} {msg : E2RicMsg}, ∀ q ∈ t.sent, ∃ m,
        q.fwd.message q.content = some m ∧ (q.node, m) ∈ (t.down.send i msg).all := by
      intro i msg q hq
      obtain ⟨m, hm, hmem⟩ := ih q hq
      rw [Channels.all_send]
      exact ⟨m, hm, List.mem_append_left _ hmem⟩
    cases trans_of_step he hu with
    | @sendRequest i r ric msg hpc hdst hric hmsg =>
      refine List.forall_mem_cons.2 ⟨⟨msg, hmsg, ?_⟩, hsend⟩
      rw [Channels.all_send]
      exact List.mem_append_right _ (List.mem_singleton_self _)
    | setupRequest => exact hsend
    | nodeReceive hag hpos hfd hdown =>
      intro q hq
      obtain ⟨m, hm, hmem⟩ := ih q hq
      exact ⟨m, hm, (Channels.all_perm_of_receive hdown).mem_iff.2 hmem⟩
    | _ => exact ih

end NetState

namespace Sample

/-- A run in which the callback of a report is called. -/
theorem exists_reported : ∃ tr t d,
    ((xappNetwork tiers).restrict (TierState.ApiGuard tiers)).Run tr t ∧ t.requests = 1 ∧
      (∃ q ∈ t.net.sent, q.fwd = tierFwd) ∧ t.xapp () = .connected d none ∧
      d.called = [⟨.macStatsV0, some 1, 1⟩] ∧ tierProc ∈ d.ui.xapp.actProc.procs := by
  obtain ⟨r, s, t, hr, hs, ht, -, hreq, hsent, d, hp, hcalled, hproc⟩ := sched_tiers
  obtain ⟨tr, hrun, -⟩ := ((hr.append hs).append ht).steps
  have hguard := (TierState.coopInv_run tiers_deployable hrun (by omega)).1
  exact ⟨tr, t, d, hguard, hreq, hsent, hp, hcalled, hproc⟩

end Sample

namespace TierState

variable {κ ι : Type} [DecidableEq κ] [DecidableEq ι] {N : XappNetwork κ ι} {s : TierState κ ι}
  {tr : List (TierState κ ι × TierAction κ ι)} {k : κ} {d : DispatchState} {draft : Option E42Msg}

/-- **Composition.** In a run in which the applications ask for nodes of the network, and fewer than
65536 - 1021 requests are made, the near-RIC and the E2 nodes have made a run in which the xApps do
as they should; and the threads of every xApp have made a run since the setup response, with an id
that the iApp has registered for the xApp's address. The responses that an xApp has no more to take
are those that its threads do not wait for. -/
theorem tiers_of_run (h : ((xappNetwork N).restrict (ApiGuard N)).Run tr s)
    (hn : s.requests < 65536 - 1021) :
    (∃ tr', ((e2Network N.toE2Network).restrict (NetState.XappGuard N.toE2Network)).Run tr' s.net ∧
      NetState.requests tr' = s.requests) ∧
    ∀ k d draft, s.xapp k = .connected d draft → ∃ x tr',
      XappState.Fresh x ∧ XappState.NoProcedures x ∧ (xappDispatch x).Run tr' d ∧
        (x.id, N.xappAddr k) ∈ s.net.ric.iapp.xapps.toList ∧
        ((s.toIapp.sent k).filterMap E42Msg.key).Perm
          ((Channels.on k s.toXapp.taken).filterMap XappMsg.key ++
            d.ui.outstanding.map UiRequest.key) := by
  have hinv := tierInv_run h hn
  obtain ⟨tr', hrun, hreq, -⟩ := hinv.net
  refine ⟨⟨tr', hrun, hreq⟩, fun k d draft hp => ?_⟩
  obtain ⟨x, xtr, hconn⟩ := hinv.connectedInv hp
  obtain ⟨resp, hresp, hid, -⟩ := hconn.setup
  have hreg := (hinv.setup k resp (Channels.mem_all_of_taken (Channels.mem_on.1 hresp))).id
  exact ⟨x, xtr, hconn.fresh, hconn.noProcedures, hconn.run, hid ▸ hreg, hconn.balance⟩

theorem tiers_of_reported : ∃ t : TierState Unit Unit,
    (∃ tr, ((e2Network Sample.network).restrict (NetState.XappGuard Sample.network)).Run tr t.net ∧
      NetState.requests tr = 1) ∧
    ∃ d, t.xapp () = .connected d none ∧ ∃ x tr,
      XappState.Fresh x ∧ XappState.NoProcedures x ∧ (xappDispatch x).Run tr d ∧
        (x.id, Sample.xappAddr) ∈ t.net.ric.iapp.xapps.toList ∧
        ((t.toIapp.sent ()).filterMap E42Msg.key).Perm
          ((Channels.on () t.toXapp.taken).filterMap XappMsg.key ++
            d.ui.outstanding.map UiRequest.key) := by
  obtain ⟨tr, t, d, hrun, hreq, -, hp, -⟩ := Sample.exists_reported
  obtain ⟨hnet, hxapps⟩ := tiers_of_run hrun (by omega)
  rw [hreq] at hnet
  exact ⟨t, hnet, d, hp, hxapps () d none hp⟩

/-! ## The calls of the applications -/

/-- The application of the xApp `k` has made the call in the run. -/
def Called (tr : List (TierState κ ι × TierAction κ ι)) (k : κ) (c : ApiCall) : Prop :=
  ∃ u, (u, .xapp k (.call c)) ∈ tr

omit [DecidableEq κ] [DecidableEq ι] in
theorem Called.mono {c : ApiCall} (h : Called tr k c) (e : TierState κ ι × TierAction κ ι) :
    Called (e :: tr) k c := by
  obtain ⟨u, hu⟩ := h
  exact ⟨u, List.mem_cons_of_mem _ hu⟩

/-- The calls that the threads of an xApp have made are those of its application. -/
theorem called_run (h : ((xappNetwork N).restrict (ApiGuard N)).Run tr s)
    (hn : s.requests < 64515) (k : κ) : XappProc.RunInv (N.xapp k) (Called tr k)
      (s.toIapp.sent k) (Channels.on k s.toXapp.taken) (s.xapp k) := by
  induction h with
  | nil => exact .off rfl rfl
  | @cons tr s t a hrun he ht ih =>
    have htrans := trans_of_step he.1 ht
    have hlt := Nat.lt_of_le_of_lt htrans.requests_le hn
    have hinv := tierInv_run hrun hlt
    have hprev := (ih hlt).mono (Q := Called ((s, a) :: tr) k) fun c hc => hc.mono _
    cases htrans with
    | net => exact hprev
    | @iappReceive j msg toIapp net hpc hrecv =>
      rw [Channels.taken_elim_send, Channels.sent_of_receive hrecv]
      exact hprev
    | sendAnswer => exact hprev
    | @xapp j b out p hb htrans =>
      refine runInv_turn (b := b) ?_ hprev ?_
      · simp [hb]
      · rintro rfl
        exact hprev.step htrans (fun c hc => ⟨s, hc ▸ List.mem_cons_self⟩)
          fun ans hans => by subst hans; cases hb
    | @xappReceive j msg toXapp out p hrecv htrans =>
      apply runInv_turn (b := .receive msg) (Channels.on_taken_of_receive hrecv k) hprev
      rintro rfl
      refine hprev.step htrans (fun c hc => by cases hc) fun ans hans => ?_
      cases hans
      exact hinv.answers_request hlt hrecv

/-! ## The way of a report -/

/-- The request that was sent to a node for an xApp is one that the xApp has sent. -/
theorem TierInv.mem_sent_of_request (h : s.TierInv N) (hn : s.requests < 64515)
    {q : SentRequest ι} (hq : q ∈ s.net.sent) {kind : E42Kind}
    (hkind : q.fwd.kind = .request kind) (hsrc : q.fwd.src = N.xappAddr k) {c : E42Content}
    (hc : q.content = some c) :
    .request q.fwd.x.xappId (N.nodeId q.node) c ∈ s.toIapp.sent k ∧ c.ricId = q.fwd.x.ricId := by
  obtain ⟨tr, hrun, -, htook⟩ := h.net
  obtain ⟨hnode, hcontent⟩ := (h.netInv hn).forward.toNode q hq
  obtain ⟨c', hc', -, hid⟩ := hcontent kind hkind
  cases hc.symm.trans hc'
  obtain ⟨c', hc', p, hp, hreq⟩ :=
    (NetState.asked_run (System.steps_restrict.1 hrun).1).2 q hq kind hkind
  cases hc.symm.trans hc'
  have hp' := htook p hp
  rw [hreq] at hp'
  obtain ⟨j, hj, hmem⟩ := hp'
  cases N.xappAddr_injective (hsrc.symm.trans hj)
  exact ⟨hnode ▸ Channels.mem_sent.2 (Channels.mem_all_of_taken hmem), hid⟩

/-- The indications about the request `q` of the xApp `k` that the node has sent and the xApp has
not taken, the oldest first. -/
def onItsWay (s : TierState κ ι) (k : κ) (q : SentRequest ι) : List RicIndication :=
  ((Channels.on k s.toXapp.flight).filterMap XappMsg.answer?).filterMap
      (E2Answer.indicationOf q.fwd.x.ricId) ++
    (s.net.ric.ricPc.answers ++
      (Channels.on q.node s.net.up.flight).filterMap E2NodeMsg.answer?).filterMap
        (E2Answer.indicationOf q.fwd.ricId)

namespace TierInv

/-- Only the node of a request sends messages about it. -/
theorem node_of_answer (h : s.TierInv N) (hn : s.requests < 64515) {q : SentRequest ι}
    (hq : q ∈ s.net.sent) {kind : E42Kind} (hkind : q.fwd.kind = .request kind) {i : ι}
    {ans : E2Answer} (hans : (i, .answer ans) ∈ s.net.up.all) (hid : ans.ricId = q.fwd.ricId) :
    i = q.node := by
  have hnet := h.netInv hn
  obtain ⟨tr, hrun, -⟩ := h.net
  obtain ⟨msg, hmem, hnew, -⟩ := E2Answer.Answers.exists_newId (hnet.up.answer i ans hans)
  obtain ⟨msg', hmsg', hmem'⟩ :=
    NetState.mem_down_of_sent (System.steps_restrict.1 hrun).1 q hq
  have hnew' := (Fwd.message_eq_some (hnet.forward.toNode q hq).2 hmsg').2
  have hentry : q.fwd.newEntry = [q.fwd] := by rw [Fwd.newEntry, hkind]
  rw [hentry, List.map_singleton, ← hid] at hnew'
  exact congrArg Prod.fst (hnet.down.eq_of_newId (Channels.mem_all_of_taken hmem) hmem' hnew
    (Option.mem_toList.1 (hnew' ▸ List.mem_singleton_self _)))

/-- The requests that were sent on for an xApp have its id. -/
theorem xappId_of_src (h : s.TierInv N) (hn : s.requests < 64515) {P : ApiCall → Prop}
    {taken : List XappMsg} {x : E42Xapp} {xtr : List (DispatchState × DispatchAction)}
    (hconn : XappProc.ConnectedInv (N.xapp k) P (s.toIapp.sent k) taken x xtr d draft)
    {q : SentRequest ι} (hq : q ∈ s.net.sent) {kind : E42Kind}
    (hkind : q.fwd.kind = .request kind) (hsrc : q.fwd.src = N.xappAddr k) :
    q.fwd.x.xappId = x.id := by
  obtain ⟨c, hc, -⟩ := ((h.netInv hn).forward.toNode q hq).2 kind hkind
  obtain ⟨hmem, -⟩ := h.mem_sent_of_request hn hq hkind hsrc hc
  exact hconn.xappId_eq (List.mem_filterMap.2 ⟨_, hmem, rfl⟩)

/-- An indication goes to the xApp with the xApp's id of a request exactly if it is about it. -/
theorem indicationOf_delivery (h : s.TierInv N) (hn : s.requests < 64515)
    (horder : s.net.ric.OrderInv) {P : ApiCall → Prop} {taken : List XappMsg} {x : E42Xapp}
    {xtr : List (DispatchState × DispatchAction)}
    (hconn : XappProc.ConnectedInv (N.xapp k) P (s.toIapp.sent k) taken x xtr d draft)
    {q : SentRequest ι} (hq : q ∈ s.net.sent) (hkind : q.fwd.kind = .request .subscription)
    (hsrc : q.fwd.src = N.xappAddr k) {e : Delivery} (he : e ∈ s.net.ric.delivered) :
    (if e.dst = N.xappAddr k then e.msg.indicationOf q.fwd.x.ricId else none) =
      (e.ans.indicationOf q.fwd.ricId).map fun ind => { ind with ricId := q.fwd.x.ricId } := by
  have hnet := h.netInv hn
  have hroute := hnet.routeInv hn
  have hsubs : ∀ p ∈ s.net.sent, p.fwd.kind = .request .subscription →
      p.fwd ∈ s.net.ric.requestsSent := fun p hp hkind =>
    RicState.mem_requestsSent.2 ⟨hnet.forward.forwarded ▸ List.mem_map_of_mem hp, _, hkind⟩
  cases hans : e.ans with
  | indication ind =>
    obtain ⟨q', hq', sr, -, hcontent, hkind', hid, hdst, hmsg, -⟩ :=
      hnet.exists_subscription hn he hans
    by_cases hind : ind.ricId = q.fwd.ricId
    · have hsame : q'.fwd = q.fwd := hroute.eq_of_reqId (hsubs q' hq' hkind') (hsubs q hq hkind)
        (by rw [Fwd.reqId, Fwd.reqId, hid, hind])
      rw [hsame] at hdst hmsg
      simp [E2Answer.indicationOf_indication, hdst, hsrc, hmsg, hind]
    · -- a request of the same xApp has another id
      have hnot : e.dst = N.xappAddr k → q'.fwd.x.ricId ≠ q.fwd.x.ricId := by
        intro hk hx
        have hxapp := h.xappId_of_src hn hconn hq' hkind' (hdst.symm.trans hk)
        have hxapp' := h.xappId_of_src hn hconn hq hkind hsrc
        have hsame := horder.eq_of_x (hsubs q' hq' hkind') (hsubs q hq hkind)
          (congrArg₂ XappRicId.mk hx (hxapp.trans hxapp'.symm))
        exact hind (hid.symm.trans (congrArg Fwd.ricId hsame))
      rw [hmsg, E2Answer.indicationOf_indication, E2Answer.indicationOf_indication, if_neg hind]
      by_cases hk : e.dst = N.xappAddr k
      · rw [if_pos hk, if_neg (hnot hk)]
        rfl
      · rw [if_neg hk]
        rfl
  | _ =>
    obtain ⟨r, -, -, -, hmsg⟩ := hroute.delivered e he
    rw [hmsg, hans]
    exact ite_self none

/-- What was sent to the xApp about a request is what was delivered for it. -/
theorem indications_sent (h : s.TierInv N) (hn : s.requests < 64515)
    (horder : s.net.ric.OrderInv) {P : ApiCall → Prop} {taken : List XappMsg} {x : E42Xapp}
    {xtr : List (DispatchState × DispatchAction)}
    (hconn : XappProc.ConnectedInv (N.xapp k) P (s.toIapp.sent k) taken x xtr d draft)
    {q : SentRequest ι} (hq : q ∈ s.net.sent) (hkind : q.fwd.kind = .request .subscription)
    (hsrc : q.fwd.src = N.xappAddr k) :
    ((s.toXapp.sent k).filterMap XappMsg.answer?).filterMap
        (E2Answer.indicationOf q.fwd.x.ricId) =
      ((s.net.ric.delivered.map Delivery.ans).reverse.filterMap
        (E2Answer.indicationOf q.fwd.ricId)).map
          fun ind => { ind with ricId := q.fwd.x.ricId } := by
  rw [h.delivered k, List.filterMap_map, List.filterMap_filter, ← List.map_reverse,
    List.filterMap_map, List.map_filterMap]
  refine List.filterMap_congr fun e he => ?_
  have hdelivery := h.indicationOf_delivery hn horder hconn hq hkind hsrc (List.mem_reverse.1 he)
  simpa using hdelivery

/-- What was received about a request came from its node. -/
theorem indications_received (h : s.TierInv N) (hn : s.requests < 64515) {q : SentRequest ι}
    (hq : q ∈ s.net.sent) {kind : E42Kind} (hkind : q.fwd.kind = .request kind) :
    s.net.ric.received.reverse.filterMap (E2Answer.indicationOf q.fwd.ricId) =
      ((Channels.on q.node s.net.up.taken).filterMap E2NodeMsg.answer?).filterMap
        (E2Answer.indicationOf q.fwd.ricId) := by
  rw [(h.netInv hn).received, ← List.filterMap_eq_flatMap_toList, List.filterMap_filterMap,
    List.filterMap_filterMap]
  refine Channels.filterMap_on (fun msg : E2NodeMsg => msg.answer?.bind _) ?_
  rintro ⟨i, msg⟩ hmem ind hind
  obtain ⟨ans, hans, hof⟩ := Option.bind_eq_some_iff.1 hind
  cases msg with
  | setupRequest req => cases hans
  | answer ans' =>
    cases hans
    obtain ⟨rfl, hricId⟩ := E2Answer.indicationOf_eq_some.1 hof
    exact h.node_of_answer hn hq hkind (Channels.mem_all_of_taken hmem) hricId

end TierInv

/-- **Reports.** While a report is active in its xApp, what the callback was called with, what the
dispatcher still has for it and what is on its way are together, in this order, the indications
that the node of the report has sent for it: none is lost, none comes twice, and none overtakes
another. -/
theorem reported_of_run (h : ((xappNetwork N).restrict (ApiGuard N)).Run tr s)
    (hn : s.requests < 65536 - 1021) (hp : s.xapp k = .connected d draft) {v : ActProcVal}
    (hv : v ∈ d.ui.xapp.actProc.procs) {sm : SmRic}
    (hsm : smPluginRic (N.xapp k).pluginRic v.id.ranFuncId = some sm) {q : SentRequest ι}
    (hq : q ∈ s.net.sent) (hkind : q.fwd.kind = .request .subscription)
    (hsrc : q.fwd.src = N.xappAddr k) (hid : q.fwd.x.ricId = v.id) :
    (d.messages.filter fun m => m.reqId = v.id.ricReqId) ++
        (s.onItsWay k q).map (fun ind => DispatchState.message sm v { ind with ricId := v.id }) =
      (((s.net.up.sent q.node).filterMap E2NodeMsg.answer?).filterMap
        (E2Answer.indicationOf q.fwd.ricId)).map
          fun ind => DispatchState.message sm v { ind with ricId := v.id } := by
  have hinv := tierInv_run h hn
  obtain ⟨x, xtr, hconn⟩ := hinv.connectedInv hp
  -- from the dispatcher back to the node, what was taken at each place of what was sent before it
  have htaken := hconn.messages_of_active hv hsm
  have hdelivered := hinv.indications_sent hn (orderInv_run h hn) hconn hq hkind hsrc
  have hreceived := hinv.indications_received hn hq hkind
  rw [((hinv.netInv hn).routeInv hn).received_reverse, List.filterMap_append] at hreceived
  rw [Channels.sent_eq, List.filterMap_append, List.filterMap_append, hid] at hdelivered
  rw [htaken, onItsWay, hid, ← List.map_append, ← List.append_assoc, hdelivered,
    Channels.sent_eq, List.filterMap_append, List.filterMap_append, List.filterMap_append,
    ← hreceived, List.map_append, List.map_append, List.map_append, List.map_append,
    List.map_map, List.append_assoc]
  rfl

theorem reported_of_reported : ∃ (t : TierState Unit Unit) (d : DispatchState)
    (q : SentRequest Unit), t.xapp () = .connected d none ∧ q.fwd = Sample.tierFwd ∧
    d.called = [⟨.macStatsV0, some 1, 1⟩] ∧
    (d.messages.filter fun m => m.reqId = 1) ++
        (t.onItsWay () q).map (fun ind =>
          DispatchState.message Sample.sm Sample.tierProc { ind with ricId := ⟨1, 0, 142⟩ }) =
      (((t.net.up.sent q.node).filterMap E2NodeMsg.answer?).filterMap
        (E2Answer.indicationOf q.fwd.ricId)).map fun ind =>
          DispatchState.message Sample.sm Sample.tierProc { ind with ricId := ⟨1, 0, 142⟩ } := by
  obtain ⟨tr, t, d, hrun, hreq, ⟨q, hq, hfwd⟩, hp, hcalled, hproc⟩ := Sample.exists_reported
  exact ⟨t, d, q, hp, hfwd, hcalled, reported_of_run hrun (by omega) hp hproc rfl hq
    (by rw [hfwd]; rfl) (by rw [hfwd]; rfl) (by rw [hfwd]; rfl)⟩

end TierState

end FlexRic
