import FlexRic.Net.XappAssumptions

/-!
# The requests of the xApps come in order

An xApp uses every id for one report or one control request, and asks for the removal of a report
once and after the report. The association delivers its messages in order, so the near-RIC gets the
requests in order: it never sees an id again, and a delete request finds the subscription alive.
-/

namespace FlexRic

/-- A request came from the address that its xApp is registered with. -/
theorem RicState.RouteInv.src_eq {s : RicState} (h : s.RouteInv) {r : Fwd} {src : SctpInfo}
    (hr : r ∈ s.forwarded) (hreg : (r.x.xappId, src) ∈ s.iapp.xapps.toList) : r.src = src :=
  congrArg Prod.snd (List.inj_on_of_nodup_map h.xapps (h.forwarded r hr).src hreg rfl)

/-- Two requests that were forwarded with the same id are the same. -/
theorem RicState.RouteInv.eq_of_reqId {s : RicState} (h : s.RouteInv) {q r : Fwd}
    (hq : q ∈ s.requestsSent) (hr : r ∈ s.requestsSent) (heq : q.reqId = r.reqId) : q = r := by
  have hids := h.ids
  rw [List.map_append] at hids
  exact List.inj_on_of_nodup_map (List.nodup_append.1 hids).2.1 hq hr heq

/-- Between two requests, the accepted ones are those that were forwarded. -/
theorem RicState.accepted_of_idle {s : RicState} (hpc : s.iappPc = .idle) :
    s.accepted = s.forwarded := by
  rw [accepted, hpc]
  rfl

namespace TierState

variable {κ ι : Type} [DecidableEq κ] [DecidableEq ι] {N : XappNetwork κ ι} {s t : TierState κ ι}
  {a : TierAction κ ι} {k : κ}

namespace TierInv

/-- The xApp's call of a request that the iApp takes: the calls before it are those whose requests
were taken before. -/
theorem asked_split (h : s.TierInv N) {msg : E42Msg} {toIapp : Channels κ E42Msg}
    {q : FwdKind × XappRicId} (hrecv : s.toIapp.receive k = some (msg, toIapp))
    (hask : msg.ask = some q) : ∃ x tr d draft call id l l',
      XappProc.ConnectedInv (N.xapp k) (NamesNode N) (s.toIapp.sent k)
        (Channels.on k s.toXapp.taken) x tr d draft ∧
      (x.id, N.xappAddr k) ∈ s.net.ric.iapp.xapps.toList ∧ q = (call.kind, ⟨id, x.id⟩) ∧
      XappState.asked (DispatchState.uiTrace tr) = l ++ (call, id) :: l' ∧
      ((Channels.on k s.toIapp.taken).filterMap E42Msg.ask).reverse =
        l'.map fun p => (p.1.kind, ⟨p.2, x.id⟩) := by
  have hmem : msg ∈ s.toIapp.sent k :=
    Channels.mem_sent.2 (Channels.mem_all_of_flight (Channels.mem_flight_of_receive hrecv))
  obtain ⟨x, tr, d, draft, -, hconn, hreg, -⟩ := h.connected hmem hask
  have hasked := hconn.asked
  rw [Channels.sent_eq, Channels.on_of_receive hrecv,
    List.reverse_append, List.reverse_cons, List.append_assoc, ← List.append_assoc,
    List.filterMap_append, List.singleton_append, List.filterMap_cons_some hask,
    List.filterMap_reverse] at hasked
  obtain ⟨l, m, hsplit, -, hm⟩ := List.map_eq_append_iff.1 hasked.symm
  obtain ⟨⟨call, id⟩, l', rfl, hq, hl'⟩ := List.map_eq_cons_iff.1 hm
  exact ⟨x, tr, d, draft, call, id, l, l', hconn, hreg, hq.symm, hsplit, hl'.symm⟩

/-- What is forwarded for an xApp was asked for in one of the calls before. -/
theorem mem_of_forwarded (h : s.TierInv N) (hn : s.requests < 64515)
    (hpc : s.net.ric.iappPc = .idle) {x : E42Xapp} {l' : List (UiCall × RicGenId)}
    (hreg : (x.id, N.xappAddr k) ∈ s.net.ric.iapp.xapps.toList)
    (hl' : ((Channels.on k s.toIapp.taken).filterMap E42Msg.ask).reverse =
      l'.map fun p => (p.1.kind, ⟨p.2, x.id⟩)) {r : Fwd} {id : RicGenId}
    (hr : r ∈ s.net.ric.forwarded) (hx : r.x = ⟨id, x.id⟩) :
    ∃ call, (call, id) ∈ l' ∧ call.kind = r.kind := by
  have hsrc : r.src = N.xappAddr k :=
    ((h.netInv hn).routeInv hn).src_eq hr (congrArg XappRicId.xappId hx ▸ hreg)
  have hask : (r.kind, r.x) ∈ (Channels.on k s.toIapp.taken).filterMap E42Msg.ask :=
    h.mem_asks.2 ⟨r, RicState.accepted_of_idle hpc ▸ hr, hsrc, rfl⟩
  rw [← List.mem_reverse, hl'] at hask
  obtain ⟨⟨call, id'⟩, hmem, heq⟩ := List.mem_map.1 hask
  obtain ⟨hkind, hx'⟩ := Prod.mk.inj heq
  cases hx'.trans hx
  exact ⟨call, hmem, hkind⟩

/-- The iApp has not forwarded a request with the ids of the one that it takes. -/
theorem fresh_of_receive (h : s.TierInv N) (hn : s.requests < 64515)
    (hpc : s.net.ric.iappPc = .idle) {msg : E42Msg} {toIapp : Channels κ E42Msg} {kind : E42Kind}
    {x : XappRicId} (hrecv : s.toIapp.receive k = some (msg, toIapp))
    (hask : msg.ask = some (.request kind, x)) :
    x.ricId.ricReqId.toNat < 65536 ∧ ∀ r ∈ s.net.ric.requestsSent, r.x ≠ x := by
  obtain ⟨y, tr, d, draft, call, id, l, l', hconn, hreg, heq, hasked, hl'⟩ :=
    h.asked_split hrecv hask
  obtain ⟨hcall, rfl⟩ := Prod.mk.inj heq
  have hrun := DispatchState.uiSteps hconn.run
  have hproc := XappState.procInv_run hconn.noProcedures hrun
  have hcalls := XappState.callsInv_run hconn.noProcedures hrun
  have hmem : (call, id) ∈ XappState.asked (DispatchState.uiTrace tr) := by
    rw [hasked]
    exact List.mem_append_right _ List.mem_cons_self
  refine ⟨Nat.lt_of_lt_of_le (hcalls.asked_lt hproc hmem) hproc.wf.keyId, fun r hr hx => ?_⟩
  obtain ⟨hforwarded, kind', hkind'⟩ := RicState.mem_requestsSent.1 hr
  obtain ⟨call', hmem', hcall'⟩ := h.mem_of_forwarded hn hpc hreg hl' hforwarded hx
  have hbefore : (call', id) ∈ XappState.asked (DispatchState.uiTrace tr) := by
    rw [hasked]
    exact List.mem_append_right _ (List.mem_cons_of_mem _ hmem')
  have hne : ∀ c : UiCall, ∀ kind, c.kind = .request kind → c ≠ .rmReport := by
    rintro _ _ hc rfl
    cases hc
  cases hcalls.eq_of_asked hmem hbefore (hne _ _ hcall.symm) (hne _ _ (hcall'.trans hkind'))
  -- the same call twice
  exact hcalls.not_mem_of_asked hasked hmem'

/-- The subscription that a delete request is for is live, when the iApp takes the request. -/
theorem live_of_receive (h : s.TierInv N) (hn : s.requests < 64515) (horder : s.net.ric.OrderInv)
    (hpc : s.net.ric.iappPc = .idle) {msg : E42Msg} {toIapp : Channels κ E42Msg} {x : XappRicId}
    (hrecv : s.toIapp.receive k = some (msg, toIapp))
    (hask : msg.ask = some (.subscriptionDelete, x)) : ∃ r, s.net.ric.Live x r := by
  obtain ⟨y, tr, d, draft, call, id, l, l', hconn, hreg, heq, hasked, hl'⟩ :=
    h.asked_split hrecv hask
  obtain ⟨hcall, rfl⟩ := Prod.mk.inj heq
  have hroute := (h.netInv hn).routeInv hn
  obtain rfl : call = .rmReport := UiCall.eq_rmReport_of_kind hcall.symm
  have hrun := DispatchState.uiSteps hconn.run
  have hcalls := XappState.callsInv_run hconn.noProcedures hrun
  -- the report was asked for before, so its request was forwarded
  have hreport := XappState.asked_before hconn.noProcedures hrun hasked
  have hask' : (.request .subscription, ⟨id, y.id⟩) ∈
      (Channels.on k s.toIapp.taken).filterMap E42Msg.ask := by
    rw [← List.mem_reverse, hl']
    exact List.mem_map.2 ⟨_, hreport, rfl⟩
  obtain ⟨r, hr, -, heq⟩ := h.mem_asks.1 hask'
  obtain ⟨hkind, hx⟩ := Prod.mk.inj heq
  rw [RicState.accepted_of_idle hpc] at hr
  refine ⟨r, hr, hkind, hx, fun d hd hdel hsame => ?_⟩
  -- a delete request for it would have come from a call before this one
  obtain ⟨r', hr', hdeletes⟩ := horder.deletes d (List.mem_append_right _ hd) hdel
  obtain rfl : r' = r := by
    refine hroute.eq_of_reqId hr' (RicState.mem_requestsSent.2 ⟨hr, _, hkind⟩) ?_
    rw [← hsame.2, Fwd.reqId, Fwd.reqId, hdeletes.ricId]
  obtain ⟨call', hmem', hcall'⟩ :=
    h.mem_of_forwarded hn hpc hreg hl' hd (hdeletes.ids.symm.trans hx)
  have hrm : call' = .rmReport := UiCall.eq_rmReport_of_kind (hcall'.trans hdel)
  exact hcalls.not_mem_of_asked hasked (hrm ▸ hmem')

/-- What the iApp takes from an xApp comes in order. -/
theorem inOrder_of_receive (h : s.TierInv N) (hn : s.requests < 64515)
    (horder : s.net.ric.OrderInv) (hpc : s.net.ric.iappPc = .idle) {msg : E42Msg}
    {toIapp : Channels κ E42Msg} (hrecv : s.toIapp.receive k = some (msg, toIapp)) :
    s.net.InOrder (msg.toNet (N.xappAddr k) : NetAction ι) := by
  cases msg with
  | setupRequest req => trivial
  | request xappId id c => exact h.fresh_of_receive hn hpc hrecv rfl
  | subscriptionDeleteRequest req => exact h.live_of_receive hn horder hpc hrecv rfl

end TierInv

/-- In a run that does not use up the ids, the requests come to the near-RIC in order. -/
theorem orderInv_run {tr : List (TierState κ ι × TierAction κ ι)}
    (h : ((xappNetwork N).restrict (ApiGuard N)).Run tr s) (hn : s.requests < 64515) :
    s.net.ric.OrderInv := by
  induction h with
  | nil => exact RicState.orderInv_init _ _
  | @cons tr s t a hrun he ht ih =>
    have htrans := trans_of_step he.1 ht
    have hlt := Nat.lt_of_le_of_lt htrans.requests_le hn
    have hinv := tierInv_run hrun hlt
    have hmap := ((hinv.netInv hlt).routeInv hlt).map
    have hstep : ∀ {b : NetAction ι} {net : NetState ι}, s.net.Trans N.toE2Network b net →
        s.net.InOrder b → net.ric.OrderInv := by
      intro b net hnet hb
      rcases hnet.ric_cases with hsame | ⟨c, hric, hc⟩
      · exact hsame ▸ ih hlt
      · exact (ih hlt).step hmap hric (hc hb)
    cases htrans with
    | @net b net hint hen hnet =>
      apply hstep (NetState.trans_of_step hen hnet)
      cases b with
      | ric b =>
        cases b with
        | e42RicRequest => cases hint
        | e42RicSubscriptionDeleteRequest => cases hint
        | _ => trivial
      | e42Request => cases hint
      | _ => trivial
    | iappReceive hpc hrecv hen hnet =>
      exact hstep (NetState.trans_of_step hen hnet) (hinv.inOrder_of_receive hlt (ih hlt) hpc hrecv)
    | @sendAnswer k x ans msg net hpc hmsg hnet =>
      have hen : s.net.Enabled N.toE2Network (.ric .sendAnswer) := ⟨rfl, x, ans, hpc⟩
      exact hstep (NetState.trans_of_step hen hnet) trivial
    | xapp => exact ih hlt
    | xappReceive => exact ih hlt

end TierState

end FlexRic
