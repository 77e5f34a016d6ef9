import FlexRic.Ric.ReqIds

/-!
# Routing

A forwarded request is known to the iApp from the moment the E2 node can answer it: its id is in
`map_ric_id`, or the iApp's thread is about to put it there and still holds the mutex that the
lookup needs. As the ids are different, an answer finds the request it answers and no other.
-/

namespace FlexRic

namespace RicState

/-- The xApps send from the address that their id was registered with, and the answers of the E2
nodes carry the id of a forwarded request. -/
def RoutingGuard (s : RicState) : RicAction → Prop
  | .e42RicRequest _ req src => (req.xappId, src) ∈ s.iapp.xapps.toList
  | .e42RicSubscriptionDeleteRequest req src => (req.xappId, src) ∈ s.iapp.xapps.toList
  | .e2Answer ans => ∃ r ∈ s.forwarded, r.ricId = ans.ricId
  | _ => True

/-- The iApp knows the request: it is in `map_ric_id` or on its way there. -/
def Known (iapp : Iapp) (pc : IappPc) (r : Fwd) : Prop :=
  (∃ n, (n, r.x) ∈ iapp.mapRicId.toList ∧ n.ricReqId = r.reqId) ∨ r ∈ pc.entering

/-- What holds of a request that is or was forwarded. -/
structure Traced (iapp : Iapp) (pc : IappPc) (r : Fwd) : Prop where
  /-- it came from the registered address of its xApp -/
  src : (r.x.xappId, r.src) ∈ iapp.xapps.toList
  /-- it is about the function and the instance of the xApp's request -/
  ids : r.ricId.ranFuncId = r.x.ricId.ranFuncId ∧ r.ricId.ricInstId = r.x.ricId.ricInstId
  /-- the iApp knows it -/
  known : Known iapp pc r

/-- The invariant of the routing. -/
structure RouteInv (s : RicState) : Prop where
  /-- `map_ric_id` holds the same pairs both ways -/
  map : s.iapp.mapRicId.WF cmpE2NodeRicReq cmpXappRicGenId
  /-- every xApp has one address -/
  xapps : (s.iapp.xapps.toList.map Prod.fst).Nodup
  /-- the requests forwarded so far -/
  forwarded : ∀ r ∈ s.forwarded, Traced s.iapp s.iappPc r
  /-- the request being forwarded -/
  current : ∀ r ∈ s.iappPc.current, Traced s.iapp s.iappPc r
  /-- the subscription and control requests have different ids -/
  ids : ((s.iappPc.unsentEntry ++ s.forwarded.flatMap Fwd.newEntry).map Fwd.reqId).Nodup
  /-- the answer being handled is one to a forwarded request -/
  answering : ∀ ans ∈ s.ricPc.answers, ∃ r ∈ s.forwarded, r.ricId = ans.ricId
  /-- the request found is the one that is answered -/
  routed : ∀ x ans, s.ricPc = .routed x ans → ∃ r ∈ s.forwarded, r.ricId = ans.ricId ∧ r.x = x
  /-- the answers went where they had to, as the messages they had to be -/
  delivered : ∀ d ∈ s.delivered, ∃ r ∈ s.forwarded, r.ricId = d.ans.ricId ∧ d.dst = r.src ∧
    d.msg = d.ans.setRicId r.x.ricId
  /-- every answer is sent once -/
  received : s.received = s.ricPc.answers ++ s.delivered.map Delivery.ans

theorem routeInv_init (epFd : Fd) (plugin : List SmRic) : (init epFd plugin).RouteInv where
  map := BiMap.wf_init
  xapps := List.nodup_nil
  forwarded := by simp [init]
  current := by simp [init, IappPc.current]
  ids := List.nodup_nil
  answering := by simp [init, RicPc.answers]
  routed := nofun
  delivered := by simp [init]
  received := rfl

variable {s t : RicState} {r r' : Fwd}

/-- A known request has an id in use. -/
theorem Known.mem_reqIds (h : Known s.iapp s.iappPc r) : r.reqId ∈ s.reqIds := by
  rcases h with ⟨n, hmem, hid⟩ | hmem
  · exact List.mem_append_right _ (List.mem_map.2 ⟨_, hmem, hid⟩)
  · exact List.mem_append_left _ (List.mem_map_of_mem hmem)

/-- Two known requests with the same id are the same request of the same xApp. -/
theorem Known.x_eq (h : Known s.iapp s.iappPc r) (h' : Known s.iapp s.iappPc r')
    (hids : s.reqIds.Nodup) (heq : r.reqId = r'.reqId) : r.x = r'.x := by
  obtain ⟨hent, hmap, hdisj⟩ := List.nodup_append.1 hids
  have hne : ∀ {q q' : Fwd}, q ∈ s.iappPc.entering →
      (∃ n, (n, q'.x) ∈ s.iapp.mapRicId.toList ∧ n.ricReqId = q'.reqId) → q.reqId ≠ q'.reqId := by
    rintro q q' hq ⟨n, hmem, hid⟩
    exact hdisj _ (List.mem_map_of_mem hq) _ (List.mem_map.2 ⟨_, hmem, hid⟩)
  rcases h with ⟨n, hmem, hid⟩ | hmem
  · rcases h' with ⟨n', hmem', hid'⟩ | hmem'
    · have hpair := List.inj_on_of_nodup_map hmap hmem hmem' (by rw [hid, hid', heq])
      exact congrArg Prod.snd hpair
    · exact absurd heq.symm (hne hmem' ⟨n, hmem, hid⟩)
  · rcases h' with hmap' | hmem'
    · exact absurd heq (hne hmem hmap')
    · rw [List.inj_on_of_nodup_map hent hmem hmem' heq]

/-- A request stays known when the map only grows and what enters it is the request on its way. -/
theorem Known.mono {iapp iapp' : Iapp} {pc pc' : IappPc} (h : Known iapp pc r)
    (hmap : ∀ e ∈ iapp.mapRicId.toList, e ∈ iapp'.mapRicId.toList)
    (hentering : ∀ q ∈ pc.entering, Known iapp' pc' q) : Known iapp' pc' r := by
  rcases h with ⟨n, hmem, hid⟩ | hmem
  · exact .inl ⟨n, hmap _ hmem, hid⟩
  · exact hentering r hmem

/-- A request stays traced when it stays known and the xApps keep their addresses. -/
theorem Traced.mono {iapp iapp' : Iapp} {pc pc' : IappPc} (h : Traced iapp pc r)
    (hxapps : ∀ e ∈ iapp.xapps.toList, e ∈ iapp'.xapps.toList)
    (hmap : ∀ e ∈ iapp.mapRicId.toList, e ∈ iapp'.mapRicId.toList)
    (hentering : ∀ q ∈ pc.entering, Known iapp' pc' q) : Traced iapp' pc' r :=
  ⟨hxapps _ h.src, h.ids, h.known.mono hmap hentering⟩

/-- The steps of the iApp's thread that leave the maps alone and keep the request it forwards. -/
theorem RouteInv.samePc (h : s.RouteInv) (hmap : t.iapp.mapRicId = s.iapp.mapRicId)
    (hxapps : t.iapp.xapps = s.iapp.xapps) (hentering : t.iappPc.entering = s.iappPc.entering)
    (hcurrent : t.iappPc.current = s.iappPc.current)
    (hunsent : t.iappPc.unsentEntry = s.iappPc.unsentEntry) (hricPc : t.ricPc = s.ricPc)
    (hforwarded : t.forwarded = s.forwarded) (hdelivered : t.delivered = s.delivered)
    (hreceived : t.received = s.received) : t.RouteInv := by
  have htraced : ∀ q, Traced s.iapp s.iappPc q → Traced t.iapp t.iappPc q := fun q hq =>
    hq.mono (by simp [hxapps]) (by simp [hmap]) fun q' hq' => .inr (by rw [hentering]; exact hq')
  refine ⟨?_, ?_, ?_, ?_, ?_, ?_, ?_, ?_, ?_⟩
  · rw [hmap]
    exact h.map
  · rw [hxapps]
    exact h.xapps
  · rw [hforwarded]
    exact fun q hq => htraced q (h.forwarded q hq)
  · rw [hcurrent]
    exact fun q hq => htraced q (h.current q hq)
  · rw [hunsent, hforwarded]
    exact h.ids
  · rw [hricPc, hforwarded]
    exact h.answering
  · rw [hricPc, hforwarded]
    exact h.routed
  · rw [hdelivered, hforwarded]
    exact h.delivered
  · rw [hreceived, hricPc, hdelivered]
    exact h.received

/-- Accepting a request keeps the invariant: a new id is different from those of the forwarded
requests, which are all in use. -/
theorem RouteInv.accept (h : s.RouteInv) (hpc : s.iappPc = .idle) (hiapp : t.iapp = s.iapp)
    (hpc' : t.iappPc = .start r) (hricPc : t.ricPc = s.ricPc)
    (hforwarded : t.forwarded = s.forwarded) (hdelivered : t.delivered = s.delivered)
    (hreceived : t.received = s.received) (htraced : Traced t.iapp t.iappPc r)
    (hnew : ∀ q ∈ r.newEntry, q.reqId ∉ s.reqIds) : t.RouteInv := by
  have hmono : ∀ q, Traced s.iapp s.iappPc q → Traced t.iapp t.iappPc q := fun q hq =>
    hq.mono (by simp [hiapp]) (by simp [hiapp]) (by simp [hpc])
  refine ⟨?_, ?_, ?_, ?_, ?_, ?_, ?_, ?_, ?_⟩
  · rw [hiapp]
    exact h.map
  · rw [hiapp]
    exact h.xapps
  · rw [hforwarded]
    exact fun q hq => hmono q (h.forwarded q hq)
  · intro q hq
    rw [hpc'] at hq
    exact List.mem_singleton.1 hq ▸ htraced
  · have hids := h.ids
    rw [hpc] at hids
    rw [hpc', hforwarded, List.map_append]
    refine List.nodup_append.2 ⟨?_, by simpa [IappPc.unsentEntry] using hids, ?_⟩
    · cases r with
      | mk kind => cases kind <;> simp [IappPc.unsentEntry, Fwd.newEntry]
    · intro id hid id' hid' heq
      obtain ⟨q, hq, rfl⟩ := List.mem_map.1 hid
      obtain ⟨q', hq', rfl⟩ := List.mem_map.1 hid'
      obtain ⟨q'', hq'', hmem⟩ := List.mem_flatMap.1 hq'
      have heq' : q' = q'' := by
        cases q'' with
        | mk kind => cases kind <;> simp_all [Fwd.newEntry]
      subst heq'
      exact hnew q hq (heq ▸ (h.forwarded _ hq'').known.mem_reqIds)
  · rw [hricPc, hforwarded]
    exact h.answering
  · rw [hricPc, hforwarded]
    exact h.routed
  · rw [hdelivered, hforwarded]
    exact h.delivered
  · rw [hreceived, hricPc, hdelivered]
    exact h.received

/-- The request that is sent is still the one on its way. -/
theorem RouteInv.sendRequest (h : s.RouteInv) (hpc : s.iappPc = .registered r) :
    RouteInv { s with
      iappPc := afterSend r
      forwarded := r :: s.forwarded
      outstanding := r.event :: s.outstanding } := by
  have hmono : ∀ q, Traced s.iapp s.iappPc q → Traced s.iapp (afterSend r) q := fun q hq =>
    hq.mono (fun e he => he) (fun e he => he) fun q' hq' => .inr (by simpa [hpc] using hq')
  have hr : Traced s.iapp s.iappPc r := h.current r (by simp [hpc, IappPc.current])
  refine { h with
    forwarded := List.forall_mem_cons.2 ⟨hmono r hr, fun q hq => hmono q (h.forwarded q hq)⟩
    current := ?_
    ids := ?_
    answering := ?_
    routed := ?_
    delivered := ?_ }
  · intro q hq
    have hq' : q = r := by
      cases r with
      | mk kind => cases kind <;> simp_all [afterSend, IappPc.current]
    exact hq' ▸ hmono r hr
  · have hold := h.ids
    rw [hpc] at hold
    rw [unsentEntry_afterSend]
    simpa [IappPc.unsentEntry] using hold
  · intro ans hans
    obtain ⟨q, hq, heq⟩ := h.answering ans hans
    exact ⟨q, List.mem_cons_of_mem _ hq, heq⟩
  · intro x ans hroute
    obtain ⟨q, hq, heq⟩ := h.routed x ans hroute
    exact ⟨q, List.mem_cons_of_mem _ hq, heq⟩
  · intro d hd
    obtain ⟨q, hq, heq⟩ := h.delivered d hd
    exact ⟨q, List.mem_cons_of_mem _ hq, heq⟩

/-- The request on its way is the one that enters the map. -/
theorem RouteInv.addMapRicId (h : s.RouteInv) (hpc : s.iappPc = .sent r) :
    RouteInv { s with
      iapp := { s.iapp with
        mapRicId := s.iapp.mapRicId.insert cmpE2NodeRicReq cmpXappRicGenId ⟨r.node, r.reqId⟩ r.x }
      iappPc := .idle } := by
  have hmono : ∀ q, Traced s.iapp s.iappPc q → Traced { s.iapp with
      mapRicId := s.iapp.mapRicId.insert cmpE2NodeRicReq cmpXappRicGenId ⟨r.node, r.reqId⟩ r.x }
      .idle q := by
    intro q hq
    refine hq.mono (fun e he => he) (fun e he => BiMap.mem_insert.2 (.inr he)) ?_
    rw [hpc]
    exact List.forall_mem_singleton.2 (.inl ⟨_, BiMap.mem_insert.2 (.inl rfl), rfl⟩)
  refine { h with
    map := h.map.insert _ _
    forwarded := fun q hq => hmono q (h.forwarded q hq)
    current := by simp [IappPc.current]
    ids := ?_ }
  have hold := h.ids
  rw [hpc] at hold
  simpa [IappPc.unsentEntry] using hold

/-- When the mutex is free a forwarded request is in the map, and its id is there only once: the
lookup finds the request that is answered. -/
theorem RouteInv.x_eq_of_find (h : s.RouteInv) {n : ℕ} (hids : s.ReqIdInv n)
    (hmtx : s.iappPc.holdsMapMtx = false) {q : Fwd} (hq : q ∈ s.forwarded) {ans : E2Answer}
    (heq : q.ricId = ans.ricId) {x : XappRicId}
    (hfind : s.iapp.findXappMapRicId ans.ricId.ricReqId.toUInt16 = some x) : q.x = x := by
  obtain ⟨n, hmem, hid⟩ := Iapp.findXappMapRicId_eq_some hfind
  have hempty : s.iappPc.entering = [] := by simpa [IappPc.holdsMapMtx] using hmtx
  rcases (h.forwarded q hq).known with ⟨n', hmem', hid'⟩ | hent
  · have hmap := (List.nodup_append.1 hids.nodup).2.1
    have hpair := List.inj_on_of_nodup_map hmap hmem' hmem
      (by rw [hid, hid', Fwd.reqId, heq])
    exact congrArg Prod.snd hpair
  · rw [hempty] at hent
    cases hent

theorem RouteInv.step {n : ℕ} {a : RicAction} (h : s.RouteInv) (hids : s.ReqIdInv n)
    (hn : n + (givesId a).toNat < 64515) (hguard : s.RoutingGuard a) (ht : s.Trans a t) :
    t.RouteInv := by
  cases ht with
  | @e42SetupRequest req src resp iapp hpc hset =>
    obtain ⟨⟨-, hfresh, rfl⟩, -⟩ := Iapp.setupXapp_eq_some.1 hset
    have hmono : ∀ q, Traced s.iapp s.iappPc q → Traced { s.iapp with
        xappId := s.iapp.xappId + 1
        xapps := s.iapp.xapps.insert cmpUInt16 s.iapp.xappId.toUInt16 src } s.iappPc q :=
      fun q hq => hq.mono (fun e he => AssocRbTree.mem_insert.2 (.inr he)) (fun e he => he)
        (fun q' hq' => .inr hq')
    refine { h with
      xapps := ?_
      forwarded := fun q hq => hmono q (h.forwarded q hq)
      current := fun q hq => hmono q (h.current q hq) }
    have hperm := (AssocRbTree.perm_insert cmpUInt16 s.iapp.xapps s.iapp.xappId.toUInt16 src).map
      Prod.fst
    refine hperm.nodup_iff.2 (List.nodup_cons.2 ⟨fun hmem => ?_, h.xapps⟩)
    obtain ⟨e, he, heq⟩ := List.mem_map.1 hmem
    exact hfresh e he heq
  | @e42RicRequest kind req src hpc hid hnode =>
    refine h.accept hpc rfl rfl rfl rfl rfl rfl ⟨hguard, ⟨rfl, rfl⟩, .inr ?_⟩ ?_
    · simp [Fwd.newEntry]
    · have hfresh := (hids.newReqId (Nat.lt_of_le_of_lt (Nat.le_add_right _ _) hn)).2
      simpa [Fwd.newEntry, Fwd.reqId, RicState.newReqId, NearRic.nextReqId] using hfresh
  | @e42RicSubscriptionDeleteRequest req src n hpc hmem =>
    refine h.accept hpc rfl rfl rfl rfl rfl rfl ⟨hguard, ⟨rfl, rfl⟩, .inl ⟨n, ?_, ?_⟩⟩ ?_
    · exact h.map.mem_right.1 hmem
    · simp [Fwd.reqId]
    · simp [Fwd.newEntry]
  | createTimer hpc =>
    exact h.samePc rfl rfl (by simp [hpc]) (by simp [hpc, IappPc.current])
      (by simp [hpc, IappPc.unsentEntry]) rfl rfl rfl rfl
  | insertPending hpc =>
    exact h.samePc rfl rfl (by simp [hpc]) (by simp [hpc, IappPc.current])
      (by simp [hpc, IappPc.unsentEntry]) rfl rfl rfl rfl
  | sendRequest hpc => exact h.sendRequest hpc
  | addMapRicId hpc => exact h.addMapRicId hpc
  | e2SetupRequest => exact h.samePc rfl rfl rfl rfl rfl rfl rfl rfl rfl
  | response hpc =>
    have hrec := h.received
    rw [hpc] at hrec
    exact { h with
      answering := List.forall_mem_singleton.2 hguard
      routed := fun _ _ h => by cases h
      received := congrArg _ hrec }
  | indication hpc =>
    have hrec := h.received
    rw [hpc] at hrec
    exact { h with
      answering := List.forall_mem_singleton.2 hguard
      routed := fun _ _ h => by cases h
      received := congrArg _ hrec }
  | @findXapp ans x hpc hmtx hfind =>
    obtain ⟨q, hq, heq⟩ := h.answering ans (by simp [hpc, RicPc.answers])
    have hrec := h.received
    rw [hpc] at hrec
    refine { h with
      answering := List.forall_mem_singleton.2 ⟨q, hq, heq⟩
      routed := ?_
      received := hrec }
    rintro x' ans' hroute
    cases hroute
    exact ⟨q, hq, heq, h.x_eq_of_find hids hmtx hq heq hfind⟩
  | @sendAnswer x ans msg dst hpc hmsg =>
    obtain ⟨-, hdst, rfl⟩ := Iapp.e2apMsgHandleIapp_eq_some hmsg
    obtain ⟨q, hq, heq, rfl⟩ := h.routed x ans hpc
    have hrec := h.received
    rw [hpc] at hrec
    refine { h with
      answering := by simp [RicPc.answers]
      routed := fun _ _ h => by cases h
      delivered := List.forall_mem_cons.2 ⟨⟨q, hq, heq, ?_, rfl⟩, h.delivered⟩
      received := hrec }
    -- the xApp's id has one address
    have hpair := List.inj_on_of_nodup_map h.xapps (Iapp.findMapXappsSad_eq_some hdst)
      (h.forwarded q hq).src rfl
    exact congrArg Prod.snd hpair
  | timerExpiry => exact h

theorem routeInv_run {epFd : Fd} {plugin : List SmRic} {tr : List (RicState × RicAction)}
    (h : ((threads epFd plugin).restrict RoutingGuard).Run tr s) (hn : requests tr < 64515) :
    s.RouteInv := by
  induction h with
  | nil => exact routeInv_init epFd plugin
  | cons hrun he ht ih =>
    rw [requests_cons] at hn
    have hids := reqIdInv_run (System.steps_restrict.1 hrun).1 (by omega)
    exact (ih (by omega)).step hids hn he.2 (trans_of_step he.1 ht)

/-! ## The answers of the E2 nodes -/

/-- The answers that the near-RIC's handlers support. -/
def Supported (plugin : List SmRic) : E2Answer → Prop
  | .subscriptionResponse m => m.lenNa = 0 ∧ m.admitted = [0]
  | .subscriptionDeleteResponse _ => True
  | .controlAcknowledge m => m.status = .success
  | .indication m => 0 < m.ricId.ranFuncId ∧
      ∃ sm, (plugin.find? fun sm => sm.ranFuncId = m.ricId.ranFuncId) = some sm ∧
        sm.onIndication m ≠ .tcStatsV0

/-- The plugins and their listeners stay what they were at the start. -/
theorem plugin_reachable {epFd : Fd} {plugin : List SmRic}
    (h : (threads epFd plugin).Reachable s) :
    s.ric.plugin = plugin ∧ s.ric.pubSub = plugin.map SmRic.ranFuncId := by
  obtain ⟨tr, hrun⟩ := h
  induction hrun with
  | nil => exact ⟨rfl, rfl⟩
  | cons hrun he ht ih => cases trans_of_step he ht <;> exact ih

/-- The near-RIC handles a supported answer whose request is still pending. -/
theorem e2Answer_ne_none {epFd : Fd} {plugin : List SmRic} {ans : E2Answer}
    (h : (threads epFd plugin).Reachable s) (hsupported : Supported plugin ans)
    (hpending : ∀ ev, ans.pendingEvent = some ev → ev ∈ s.ric.pending.toList.map Prod.snd) :
    s.step (.e2Answer ans) ≠ none := by
  have hinv := timerInv_reachable h
  obtain ⟨hplugin, hpubSub⟩ := plugin_reachable h
  have hhandle : ∃ ric', s.ric.e2apMsgHandleRic ans = some ric' := by
    cases ans with
    | subscriptionResponse m =>
      obtain ⟨ric', hstop⟩ := hinv.stopPendingEvent_ne_none (hpending _ rfl)
      exact ⟨ric', Option.bind_eq_some_iff.2 ⟨ric', hstop, if_pos hsupported⟩⟩
    | subscriptionDeleteResponse m => exact hinv.stopPendingEvent_ne_none (hpending _ rfl)
    | controlAcknowledge m =>
      obtain ⟨ric', hstop⟩ := hinv.stopPendingEvent_ne_none (hpending _ rfl)
      exact ⟨ric', (if_pos hsupported).trans hstop⟩
    | indication m =>
      obtain ⟨hpos, sm, hfind, htype⟩ := hsupported
      have hsm : smPluginRic s.ric.plugin m.ricId.ranFuncId = some sm := by
        rw [smPluginRic, if_pos hpos, hplugin, hfind]
      have hmem : m.ricId.ranFuncId ∈ s.ric.pubSub := by
        rw [hpubSub, List.mem_map]
        exact ⟨sm, List.mem_of_find?_eq_some hfind, by simpa using List.find?_some hfind⟩
      exact ⟨s.ric, Option.bind_eq_some_iff.2 ⟨sm, hsm, if_pos ⟨htype, hmem⟩⟩⟩
  obtain ⟨ric', hric'⟩ := hhandle
  simp [step, hric']

/-- The request that an answer is about is found, whenever the lookup can be made. -/
theorem RouteInv.findXapp_ne_none (h : s.RouteInv) {n : ℕ} (hids : s.ReqIdInv n)
    (he : s.Enabled .findXapp) : s.step .findXapp ≠ none := by
  obtain ⟨⟨ans, hpc⟩, hmtx⟩ := he
  obtain ⟨r, hr, heq⟩ := h.answering ans (by simp [hpc, RicPc.answers])
  have hempty : s.iappPc.entering = [] := by simpa [IappPc.holdsMapMtx] using hmtx
  have hknown := (h.forwarded r hr).known
  rcases hknown with ⟨m, hmem, hid⟩ | hent
  · have hpos : 0 < m.ricReqId := by
      have hlt := (hids.lt m.ricReqId (List.mem_append_right _ (List.mem_map.2 ⟨_, hmem, rfl⟩))).1
      rw [UInt16.lt_iff_toNat_lt]
      exact Nat.lt_of_lt_of_le (by decide) hlt
    obtain ⟨x, hx⟩ := Iapp.findXappMapRicId_of_mem hmem hpos
    rw [hid, Fwd.reqId, heq] at hx
    simp [RicState.step, hpc, hx]
  · rw [hempty] at hent
    cases hent

/-- The address of the xApp is found, and the answer is about its request. -/
theorem RouteInv.sendAnswer_ne_none (h : s.RouteInv) (he : s.Enabled .sendAnswer) :
    s.step .sendAnswer ≠ none := by
  obtain ⟨x, ans, hpc⟩ := he
  obtain ⟨r, hr, heq, rfl⟩ := h.routed x ans hpc
  have htraced := h.forwarded r hr
  have hids := htraced.ids
  rw [heq] at hids
  obtain ⟨info, hinfo⟩ := Option.isSome_iff_exists.1
    (Iapp.findMapXappsSad_isSome.2 ⟨_, htraced.src, rfl⟩)
  have hmsg := s.iapp.e2apMsgHandleIapp_eq r.x ans hids
  rw [hinfo] at hmsg
  simp [RicState.step, hpc, hmsg]

/-- **Routing.** In every run with fewer than 65536 - 1021 requests, the subscription and control
requests are forwarded with different ids; every answer taken from an E2 node is sent once, to the
address of the xApp whose request it answers and with the id of that xApp's own request; neither
the lookup of the request nor that of the address fails; and as long as responses answer
outstanding requests, the near-RIC takes every supported answer to one. -/
theorem routing_correct {epFd : Fd} {plugin : List SmRic} {tr : List (RicState × RicAction)}
    (h : ((threads epFd plugin).restrict RoutingGuard).Run tr s)
    (hn : requests tr < 65536 - 1021) :
    ((s.forwarded.flatMap Fwd.newEntry).map Fwd.reqId).Nodup ∧
    (∀ d ∈ s.delivered, (∃ r ∈ s.forwarded, r.ricId = d.ans.ricId) ∧
      ∀ r ∈ s.forwarded, r.ricId = d.ans.ricId →
        d.dst = r.src ∧ d.msg = d.ans.setRicId r.x.ricId) ∧
    s.received = s.ricPc.answers ++ s.delivered.map Delivery.ans ∧
    (s.Enabled .findXapp → s.step .findXapp ≠ none) ∧
    (s.Enabled .sendAnswer → s.step .sendAnswer ≠ none) ∧
    ((∀ p ∈ tr, p.1.AnswersOutstanding p.2) → ∀ ans, Supported plugin ans →
      (∀ ev, ans.pendingEvent = some ev → ev ∈ s.outstanding) →
        s.step (.e2Answer ans) ≠ none) := by
  have hrun := (System.steps_restrict.1 h).1
  have hinv := routeInv_run h hn
  have hids := reqIdInv_run hrun (Nat.le_of_lt hn)
  refine ⟨?_, ?_, hinv.received, hinv.findXapp_ne_none hids, hinv.sendAnswer_ne_none, ?_⟩
  · have hnodup := hinv.ids
    rw [List.map_append] at hnodup
    exact (List.nodup_append.1 hnodup).2.1
  · intro d hd
    obtain ⟨r, hr, heq, hdst, hmsg⟩ := hinv.delivered d hd
    refine ⟨⟨r, hr, heq⟩, ?_⟩
    intro q hq heq'
    -- a request with the same id is one of the same xApp
    have hx : q.x = r.x := (hinv.forwarded q hq).known.x_eq (hinv.forwarded r hr).known
      hids.nodup (by rw [Fwd.reqId, Fwd.reqId, heq, heq'])
    have hsrc : q.src = r.src := by
      have hpair := List.inj_on_of_nodup_map hinv.xapps (hinv.forwarded q hq).src
        (hinv.forwarded r hr).src (by rw [hx])
      exact congrArg Prod.snd hpair
    rw [hx, hsrc]
    exact ⟨hdst, hmsg⟩
  · intro hanswers ans hsupported hout
    refine e2Answer_ne_none ⟨tr, hrun⟩ hsupported fun ev hev => ?_
    exact (outstandingInv_run hrun hanswers).mem_iff.2 (List.mem_append_right _ (hout ev hev))

/-- The acknowledgement of the xApp's control request reaches it with the xApp's own id. -/
theorem routing_first : ∃ s ans, Sample.ric.Reachable s ∧
    s.delivered = [⟨ans, Sample.xappAddr, ans.setRicId Sample.request.ricId⟩] := by
  have hsetup : (Sample.ric.restrict RoutingGuard).Run Sample.setup Sample.connected :=
    System.steps_restrict.2 ⟨Sample.run_setup,
      List.forall_mem_cons.2 ⟨trivial, List.forall_mem_singleton.2 trivial⟩⟩
  have hsched : ∃ s, (Sample.ric.restrict RoutingGuard).Sched Sample.connected
      (Sample.forward .control 4 ++
        [.e2Answer (.controlAcknowledge ⟨⟨1021, 0, 142⟩, .success⟩), .findXapp, .sendAnswer]) s ∧
      ∃ r d, s.forwarded = [r] ∧ s.delivered = [d] ∧ r.ricId = d.ans.ricId ∧
        r.src = Sample.xappAddr ∧ r.x.ricId = Sample.request.ricId :=
    ⟨_, ⟨⟨rfl, List.mem_singleton_self _⟩, _, rfl,
      ⟨⟨⟨_, rfl⟩, by decide, by decide⟩, trivial⟩, _, rfl, ⟨⟨_, _, rfl⟩, trivial⟩, _, rfl,
      ⟨⟨_, rfl⟩, trivial⟩, _, rfl, ⟨⟨_, rfl⟩, trivial⟩, _, rfl,
      ⟨rfl, _, List.mem_singleton.2 rfl, rfl⟩, _, rfl, ⟨⟨⟨_, rfl⟩, rfl⟩, trivial⟩, _, rfl,
      ⟨⟨_, _, rfl⟩, trivial⟩, _, rfl, rfl⟩, _, _, rfl, rfl, rfl, rfl, rfl⟩
  obtain ⟨s, hsched, r, d, hforwarded, hdelivered, hid, hsrc, hx⟩ := hsched
  obtain ⟨tr, hsteps, hacts⟩ := hsched.steps
  have hrun := hsetup.trans hsteps
  have hn : requests (tr ++ Sample.setup) < 65536 - 1021 := by
    have hone : (tr.map Prod.snd).countP givesId = 1 := by
      rw [hacts]
      rfl
    rw [requests, List.countP_append, ← Function.comp_def, ← List.countP_map, hone]
    decide
  obtain ⟨-, hroute, -⟩ := routing_correct hrun hn
  obtain ⟨-, hall⟩ := hroute d (by rw [hdelivered]; simp)
  obtain ⟨hdst, hmsg⟩ := hall r (by rw [hforwarded]; simp) hid
  refine ⟨s, d.ans, ⟨_, (System.steps_restrict.1 hrun).1⟩, ?_⟩
  rw [hdelivered, ← hsrc, ← hdst, ← hx, ← hmsg]

end RicState

end FlexRic
