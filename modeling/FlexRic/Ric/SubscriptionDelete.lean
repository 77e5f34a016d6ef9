import FlexRic.Ric.Threads

/-!
# The E42 subscription delete

A delete request names a subscription by the xApp's own ids, and the iApp looks them up in
`map_ric_id`. Subscription and control requests enter the map alike, nothing is ever taken out, and
the search stops at the first entry in the order of the tree, which is the oldest one. So the delete
of a live subscription is forwarded as such exactly if this subscription is the first request that
the xApp has made under the ids; any other delete request goes to an old entry or fails an
assertion, where it should be refused.
-/

namespace FlexRic

/-- The request that is sent and not in `map_ric_id` yet. -/
def IappPc.toEnter : IappPc → List Fwd
  | .sent r => [r]
  | _ => []

namespace RicState

/-- The subscription and control requests forwarded so far, the latest one first. -/
def requestsSent (s : RicState) : List Fwd := s.forwarded.flatMap Fwd.newEntry

/-- The first subscription or control request that the xApp has made under the ids. -/
def firstRequest (s : RicState) (x : XappRicId) : Option Fwd :=
  s.requestsSent.reverse.find? fun r => r.x = x

/-- A live subscription of the xApp under the ids: it was forwarded, and no delete of it was. -/
structure Live (s : RicState) (x : XappRicId) (r : Fwd) : Prop where
  mem : r ∈ s.forwarded
  kind : r.kind = .request .subscription
  ids : r.x = x
  notDeleted : ∀ d ∈ s.forwarded, d.kind = .subscriptionDelete →
    ¬(d.node = r.node ∧ d.reqId = r.reqId)

/-- The request for the deletion of the subscription `r`. -/
def deleteFwd (req : E42RicSubscriptionDeleteRequest) (src : SctpInfo) (r : Fwd) : Fwd :=
  ⟨.subscriptionDelete, r.node, { req.ricId with ricReqId := r.reqId.toUInt32 },
    ⟨req.ricId, req.xappId⟩, src⟩

/-- `e2ap_handle_e42_ric_subscription_delete_request_iapp`, whose timer gets the descriptor `fd`:
the steps of the iApp's thread, one after the other. -/
def e2apHandleE42RicSubscriptionDeleteRequestIapp (s : RicState)
    (req : E42RicSubscriptionDeleteRequest) (src : SctpInfo) (fd : Fd) : Option RicState := do
  let s ← s.step (.e42RicSubscriptionDeleteRequest req src)
  let s ← s.step (.createTimer fd)
  let s ← s.step .insertPending
  s.step .sendRequest

/-- The delete request is handled as it has to be: if the xApp has a live subscription under the
ids, the delete of one is forwarded, and otherwise the request is refused and nothing changes. -/
def DeleteHandled (s : RicState) (req : E42RicSubscriptionDeleteRequest) (src : SctpInfo)
    (fd : Fd) : Prop :=
  (∃ r t, s.Live ⟨req.ricId, req.xappId⟩ r ∧
    s.e2apHandleE42RicSubscriptionDeleteRequestIapp req src fd = some t ∧
    t.forwarded = deleteFwd req src r :: s.forwarded) ∨
  (∀ r, ¬s.Live ⟨req.ricId, req.xappId⟩ r) ∧
    s.e2apHandleE42RicSubscriptionDeleteRequestIapp req src fd = some s

/-! ## What `map_ric_id` holds -/

/-- The entry of a request in `map_ric_id`, from the side of the xApps. -/
def entry (r : Fwd) : XappRicId × E2NodeRicReq := (r.x, ⟨r.node, r.reqId⟩)

/-- The requests `entered` are in `map_ric_id`, the latest one first. -/
structure DeleteInv (s : RicState) (entered : List Fwd) : Prop where
  /-- all requests but the one on its way -/
  split : s.requestsSent = s.iappPc.toEnter ++ entered
  right : s.iapp.mapRicId.right.WF cmpXappRicGenId
  /-- the search finds the oldest one -/
  first : ∀ x, s.iapp.mapRicId.right.findIf (fun x' => x = x') =
    (entered.reverse.find? fun r => r.x = x).map entry
  mem : ∀ r ∈ entered, (⟨r.node, r.reqId⟩, r.x) ∈ s.iapp.mapRicId.toList
  /-- their ids are different -/
  nodup : (entered.map Fwd.reqId).Nodup
  /-- their E2 nodes have addresses -/
  address : ∀ r ∈ s.forwarded, ∃ dst, s.ric.findMapE2NodeSad r.node = some dst

variable {s t : RicState} {entered : List Fwd}

theorem deleteInv_init (epFd : Fd) (plugin : List SmRic) : (init epFd plugin).DeleteInv [] where
  split := rfl
  right := AssocRbTree.wf_init
  first := fun _ => rfl
  mem := fun _ h => absurd h List.not_mem_nil
  nodup := .nil
  address := fun r h => absurd (show r ∈ [] from h) List.not_mem_nil

/-- The steps that neither send a request nor enter one. -/
theorem DeleteInv.same (h : s.DeleteInv entered) (hpc : t.iappPc.toEnter = s.iappPc.toEnter)
    (hforwarded : t.forwarded = s.forwarded) (hmap : t.iapp.mapRicId = s.iapp.mapRicId)
    (hnodes : t.ric.e2Nodes = s.ric.e2Nodes) : t.DeleteInv entered := by
  refine ⟨?_, ?_, ?_, ?_, h.nodup, ?_⟩
  · rw [requestsSent, hforwarded, hpc]
    exact h.split
  · rw [hmap]
    exact h.right
  · rw [hmap]
    exact h.first
  · rw [hmap]
    exact h.mem
  · rw [hforwarded]
    intro r hr
    obtain ⟨dst, hdst⟩ := h.address r hr
    refine ⟨dst, ?_⟩
    rw [NearRic.findMapE2NodeSad, hnodes]
    exact hdst

/-- A new E2 node takes no address away. -/
theorem exists_findMapE2NodeSad_reg {ric ric' : NearRic} {id id' : GlobalE2NodeId}
    {info dst : SctpInfo} (h : ric.findMapE2NodeSad id' = some dst)
    (hric : ric'.e2Nodes = (ric.e2apRegSockAddrRic id info).e2Nodes) :
    ∃ dst', ric'.findMapE2NodeSad id' = some dst' := by
  obtain ⟨e, hfind, -⟩ := Option.map_eq_some_iff.1 h
  obtain ⟨hmem, heq⟩ := AssocRbTree.findIf_eq_some hfind
  have hmem' : e ∈ ric'.e2Nodes.left.toList := by
    rw [hric]
    exact AssocRbTree.mem_insert.2 (.inr hmem)
  obtain ⟨e', he'⟩ := AssocRbTree.exists_findIf hmem' heq
  exact ⟨e'.2, by rw [NearRic.findMapE2NodeSad, he', Option.map_some]⟩

/-- A request that enters the map is found if none of the older ones is. -/
theorem DeleteInv.enter {r : Fwd} (h : s.DeleteInv entered) (hpc : s.iappPc = .sent r)
    (hfresh : ∀ e ∈ s.iapp.mapRicId.toList, e.1.ricReqId ≠ r.reqId) :
    DeleteInv { s with
      iapp := { s.iapp with
        mapRicId := s.iapp.mapRicId.insert cmpE2NodeRicReq cmpXappRicGenId ⟨r.node, r.reqId⟩ r.x }
      iappPc := .idle } (r :: entered) := by
  have hsplit := h.split
  rw [hpc] at hsplit
  refine ⟨hsplit, h.right.insert _ _, ?_, ?_, ?_, h.address⟩
  · intro x
    have hcmp : decide (x = r.x) = true → ∀ x', decide (x = x') = true →
        cmpXappRicGenId r.x x' = .eq := by
      intro hx x' hx'
      obtain rfl := of_decide_eq_true hx
      obtain rfl := of_decide_eq_true hx'
      exact Std.ReflCmp.compare_self
    change (s.iapp.mapRicId.right.insert cmpXappRicGenId r.x ⟨r.node, r.reqId⟩).findIf _ = _
    rw [h.right.findIf_insert hcmp, h.first, List.reverse_cons, List.find?_append]
    cases (entered.reverse.find? fun r => r.x = x) with
    | some r' => rfl
    | none =>
      by_cases hx : x = r.x
      · simp [hx, entry]
      · simp [hx, Ne.symm hx]
  · exact List.forall_mem_cons.2 ⟨BiMap.mem_insert.2 (.inl rfl), fun q hq =>
      BiMap.mem_insert.2 (.inr (h.mem q hq))⟩
  · refine List.nodup_cons.2 ⟨?_, h.nodup⟩
    intro hmem
    obtain ⟨q, hq, heq⟩ := List.mem_map.1 hmem
    exact hfresh _ (h.mem q hq) heq

theorem DeleteInv.step {a : RicAction} (h : s.DeleteInv entered) (ht : s.Trans a t) :
    ∃ entered', t.DeleteInv entered' := by
  cases ht with
  | e42SetupRequest hpc hset =>
    obtain ⟨⟨-, -, rfl⟩, -⟩ := Iapp.setupXapp_eq_some.1 hset
    exact ⟨entered, h.same rfl rfl rfl rfl⟩
  | e42RicRequest hpc =>
    exact ⟨entered, h.same (by rw [hpc]; rfl) rfl rfl rfl⟩
  | e42RicSubscriptionDeleteRequest hpc =>
    exact ⟨entered, h.same (by rw [hpc]; rfl) rfl rfl rfl⟩
  | createTimer hpc =>
    exact ⟨entered, h.same (by rw [hpc]; rfl) rfl rfl rfl⟩
  | insertPending hpc =>
    exact ⟨entered, h.same (by rw [hpc]; rfl) rfl rfl rfl⟩
  | @sendRequest r dst hpc hdst =>
    have hsplit := h.split
    rw [hpc] at hsplit
    refine ⟨entered, ?_, h.right, h.first, h.mem, h.nodup, ?_⟩
    · have henter : (afterSend r).toEnter = r.newEntry := by
        obtain ⟨kind⟩ := r
        cases kind <;> rfl
      change r.newEntry ++ s.requestsSent = (afterSend r).toEnter ++ entered
      rw [henter, hsplit]
      rfl
    · exact List.forall_mem_cons.2 ⟨⟨dst, hdst⟩, h.address⟩
  | addMapRicId hpc hfresh => exact ⟨_, h.enter hpc hfresh⟩
  | e2SetupRequest =>
    refine ⟨entered, h.split, h.right, h.first, h.mem, h.nodup, ?_⟩
    intro r hr
    obtain ⟨dst, hdst⟩ := h.address r hr
    exact exists_findMapE2NodeSad_reg hdst rfl
  | response => exact ⟨entered, h.same rfl rfl rfl rfl⟩
  | indication => exact ⟨entered, h.same rfl rfl rfl rfl⟩
  | findXapp => exact ⟨entered, h.same rfl rfl rfl rfl⟩
  | sendAnswer => exact ⟨entered, h.same rfl rfl rfl rfl⟩
  | timerExpiry => exact ⟨entered, h⟩

theorem deleteInv_reachable {epFd : Fd} {plugin : List SmRic}
    (h : (threads epFd plugin).Reachable s) : ∃ entered, s.DeleteInv entered := by
  apply @threads_invariant epFd plugin (fun s => ∃ entered, s.DeleteInv entered) s h
  · exact ⟨[], deleteInv_init epFd plugin⟩
  · rintro s a t ⟨entered, hs⟩ ht
    exact hs.step ht

/-! ## What the handler does -/

section Handler

variable {req : E42RicSubscriptionDeleteRequest} {src : SctpInfo} {fd : Fd} {r : Fwd}

theorem DeleteInv.requestsSent_eq (h : s.DeleteInv entered) (hpc : s.iappPc = .idle) :
    s.requestsSent = entered := by
  have hsplit := h.split
  rw [hpc] at hsplit
  exact hsplit

/-- While the iApp's thread waits for a message, the search finds the first request. -/
theorem DeleteInv.findRicReqMapRicId (h : s.DeleteInv entered) (hpc : s.iappPc = .idle)
    (x : XappRicId) : s.iapp.findRicReqMapRicId x =
      (s.firstRequest x).map fun r => ⟨r.node, r.reqId⟩ := by
  rw [Iapp.findRicReqMapRicId, h.first, Option.map_map, firstRequest, h.requestsSent_eq hpc]
  rfl

theorem reqId_deleteFwd : (deleteFwd req src r).reqId = r.reqId :=
  UInt16.toUInt16_toUInt32 r.reqId

theorem mem_requestsSent :
    r ∈ s.requestsSent ↔ r ∈ s.forwarded ∧ ∃ kind, r.kind = .request kind := by
  have hentry : ∀ q : Fwd, r ∈ q.newEntry ↔ r = q ∧ ∃ kind, r.kind = .request kind := by
    rintro ⟨kind⟩
    cases kind with
    | request kind => simpa [Fwd.newEntry] using fun h => ⟨kind, by rw [h]⟩
    | subscriptionDelete => simpa [Fwd.newEntry] using fun h => by simp [h]
  rw [requestsSent, List.mem_flatMap]
  constructor
  · rintro ⟨q, hq, hr⟩
    obtain ⟨rfl, hkind⟩ := (hentry q).1 hr
    exact ⟨hq, hkind⟩
  · rintro ⟨hr, hkind⟩
    exact ⟨r, hr, (hentry r).2 ⟨rfl, hkind⟩⟩

/-- The steps of the handler in one. -/
theorem e2apHandleE42RicSubscriptionDeleteRequestIapp_eq (hpos : 0 < fd) (hfd : fd ∉ s.ric.io) :
    s.e2apHandleE42RicSubscriptionDeleteRequestIapp req src fd =
      (s.iapp.checkE42RicSubscriptionDeleteRequest req).bind fun (node, ricId) =>
        let d : Fwd := ⟨.subscriptionDelete, node, ricId, ⟨req.ricId, req.xappId⟩, src⟩
        (s.ric.findMapE2NodeSad node).map fun _ =>
          { s with
            ric := { s.ric with io := fd :: s.ric.io }.insertPending fd d.event
            iappPc := .idle
            timers := (fd, d.event) :: s.timers
            forwarded := d :: s.forwarded
            outstanding := d.event :: s.outstanding } := by
  have hcreate : s.ric.createTimerMsAsioRic fd = some { s.ric with io := fd :: s.ric.io } :=
    NearRic.createTimer_eq_some.2 ⟨⟨hpos, hfd⟩, rfl⟩
  cases hcheck : s.iapp.checkE42RicSubscriptionDeleteRequest req with
  | none =>
    simp [e2apHandleE42RicSubscriptionDeleteRequestIapp, RicState.step, acceptDelete, hcheck]
  | some n =>
    simp only [e2apHandleE42RicSubscriptionDeleteRequestIapp, RicState.step, acceptDelete, hcheck,
      hcreate, Option.map_some, Option.bind_eq_bind, Option.bind_some]
    rfl

/-- What the handler forwards is the delete of the first request. -/
theorem DeleteInv.handled (h : s.DeleteInv entered) (hpc : s.iappPc = .idle) (hpos : 0 < fd)
    (hfd : fd ∉ s.ric.io)
    (ht : s.e2apHandleE42RicSubscriptionDeleteRequestIapp req src fd = some t) :
    ∃ r, s.firstRequest ⟨req.ricId, req.xappId⟩ = some r ∧
      t.forwarded = deleteFwd req src r :: s.forwarded := by
  rw [e2apHandleE42RicSubscriptionDeleteRequestIapp_eq hpos hfd] at ht
  obtain ⟨⟨node, ricId⟩, hcheck, ht⟩ := Option.bind_eq_some_iff.1 ht
  obtain ⟨dst, -, rfl⟩ := Option.map_eq_some_iff.1 ht
  obtain ⟨n, hfind, heq⟩ := Option.map_eq_some_iff.1 hcheck
  rw [h.findRicReqMapRicId hpc] at hfind
  obtain ⟨r, hr, rfl⟩ := Option.map_eq_some_iff.1 hfind
  cases heq
  exact ⟨r, hr, rfl⟩

/-- The delete of the first request is forwarded. -/
theorem DeleteInv.exists_handled (h : s.DeleteInv entered) (hpc : s.iappPc = .idle) (hpos : 0 < fd)
    (hfd : fd ∉ s.ric.io) (hr : s.firstRequest ⟨req.ricId, req.xappId⟩ = some r)
    (hmem : r ∈ s.forwarded) :
    ∃ t, s.e2apHandleE42RicSubscriptionDeleteRequestIapp req src fd = some t ∧
      t.forwarded = deleteFwd req src r :: s.forwarded := by
  obtain ⟨dst, hdst⟩ := h.address r hmem
  have hcheck : s.iapp.checkE42RicSubscriptionDeleteRequest req =
      some (r.node, { req.ricId with ricReqId := r.reqId.toUInt32 }) := by
    rw [Iapp.checkE42RicSubscriptionDeleteRequest, h.findRicReqMapRicId hpc, hr]
    rfl
  rw [e2apHandleE42RicSubscriptionDeleteRequestIapp_eq hpos hfd, hcheck, Option.bind_some]
  dsimp only
  rw [hdst]
  exact ⟨_, rfl, rfl⟩

end Handler

/-- In whatever order requests and answers have come so far, a delete request is handled as it has
to be exactly if the first request that the xApp has made under the ids is a live subscription. -/
theorem deleteHandled_iff {epFd : Fd} {plugin : List SmRic} {fd : Fd}
    (h : (threads epFd plugin).Reachable s) (hpc : s.iappPc = .idle) (hpos : 0 < fd)
    (hfd : fd ∉ s.ric.io) (req : E42RicSubscriptionDeleteRequest) (src : SctpInfo) :
    s.DeleteHandled req src fd ↔ ∃ r, s.firstRequest ⟨req.ricId, req.xappId⟩ = some r ∧
      s.Live ⟨req.ricId, req.xappId⟩ r := by
  obtain ⟨entered, hinv⟩ := deleteInv_reachable h
  constructor
  · rintro (⟨r, t, hlive, ht, hforwarded⟩ | ⟨-, ht⟩)
    · obtain ⟨q, hq, hforwarded'⟩ := hinv.handled hpc hpos hfd ht
      -- the first request has the id of the live subscription, so it is the live subscription
      have hsame : deleteFwd req src q = deleteFwd req src r :=
        (List.cons.inj (hforwarded'.symm.trans hforwarded)).1
      have hid : q.reqId = r.reqId := by
        rw [← reqId_deleteFwd, hsame, reqId_deleteFwd]
      have hsent := hinv.requestsSent_eq hpc
      have hqmem : q ∈ entered := by
        rw [← hsent]
        exact List.mem_reverse.1 (List.mem_of_find?_eq_some hq)
      have hrmem : r ∈ entered := by
        rw [← hsent]
        exact mem_requestsSent.2 ⟨hlive.mem, _, hlive.kind⟩
      obtain rfl := List.inj_on_of_nodup_map hinv.nodup hqmem hrmem hid
      exact ⟨q, hq, hlive⟩
    · obtain ⟨q, -, hforwarded⟩ := hinv.handled hpc hpos hfd ht
      exact absurd hforwarded.symm (List.cons_ne_self _ _)
  · rintro ⟨r, hr, hlive⟩
    obtain ⟨t, ht, hforwarded⟩ := hinv.exists_handled hpc hpos hfd hr hlive.mem
    exact .inl ⟨r, t, hlive, ht, hforwarded⟩

end RicState

namespace Sample

/-- The xApp deletes its subscription. -/
def deleteRequest : E42RicSubscriptionDeleteRequest := ⟨7, ⟨5, 0, 142⟩⟩

/-- The subscription that is forwarded with the id `id`. -/
def subscription (id : UInt32) : Fwd :=
  ⟨.request .subscription, node, ⟨id, 0, 142⟩, ⟨⟨5, 0, 142⟩, 7⟩, xappAddr⟩

/-- The delete of the subscription `r`. -/
def delete (r : Fwd) : Fwd := RicState.deleteFwd deleteRequest xappAddr r

/-- The steps that forward a delete request with the timer `fd`. -/
def forwardDelete (fd : Fd) : List RicAction :=
  [.e42RicSubscriptionDeleteRequest deleteRequest xappAddr, .createTimer fd, .insertPending,
    .sendRequest]

end Sample

namespace RicState

/-- The delete of the only subscription is handled as it has to be. -/
theorem deleteHandled_only : ∃ s, Sample.ric.Reachable s ∧
    s.DeleteHandled Sample.deleteRequest Sample.xappAddr 5 := by
  have hsched : ∃ s, Sample.ric.Sched Sample.connected (Sample.forward .subscription 4) s ∧
      s.iappPc = .idle ∧ 5 ∉ s.ric.io ∧ s.forwarded = [Sample.subscription 1021] :=
    ⟨_, ⟨rfl, _, rfl, ⟨⟨_, rfl⟩, by decide, by decide⟩, _, rfl, ⟨_, _, rfl⟩, _, rfl, ⟨_, rfl⟩, _,
      rfl, ⟨_, rfl⟩, _, rfl, rfl⟩, rfl, by decide, rfl⟩
  obtain ⟨s, hsched, hpc, hfd, hforwarded⟩ := hsched
  have hreach := Sample.reachable_of_sched hsched
  refine ⟨s, hreach, (deleteHandled_iff hreach hpc (by decide) hfd _ _).2
    ⟨Sample.subscription 1021, ?_, ?_, rfl, rfl, ?_⟩⟩
  · rw [firstRequest, requestsSent, hforwarded]
    rfl
  · rw [hforwarded]
    exact List.mem_singleton_self _
  · rw [hforwarded]
    exact List.forall_mem_singleton.2 nofun

/-- The xApp subscribes, deletes its subscription and subscribes again with the same ids: its next
delete goes to the subscription that is deleted already. And while it has no subscription, the
delete is not refused but fails an assertion. -/
theorem delete_stale : ∃ s, Sample.ric.Reachable s ∧ s.iappPc = .idle ∧
    s.Live ⟨Sample.deleteRequest.ricId, Sample.deleteRequest.xappId⟩ (Sample.subscription 1022) ∧
    (∃ t, s.e2apHandleE42RicSubscriptionDeleteRequestIapp Sample.deleteRequest Sample.xappAddr 7 =
      some t ∧ t.forwarded = Sample.delete (Sample.subscription 1021) :: s.forwarded) ∧
    ¬s.DeleteHandled Sample.deleteRequest Sample.xappAddr 7 ∧
    Sample.connected.e2apHandleE42RicSubscriptionDeleteRequestIapp Sample.deleteRequest
      Sample.xappAddr 7 = none := by
  have hsched : ∃ s, Sample.ric.Sched Sample.connected (Sample.forward .subscription 4 ++
      Sample.forwardDelete 5 ++ Sample.forward .subscription 6) s ∧ s.iappPc = .idle ∧
      s.forwarded = [Sample.subscription 1022, Sample.delete (Sample.subscription 1021),
        Sample.subscription 1021] ∧
      ∃ t, s.e2apHandleE42RicSubscriptionDeleteRequestIapp Sample.deleteRequest Sample.xappAddr 7 =
        some t ∧ t.forwarded = Sample.delete (Sample.subscription 1021) :: s.forwarded :=
    ⟨_, ⟨rfl, _, rfl, ⟨⟨_, rfl⟩, by decide, by decide⟩, _, rfl, ⟨_, _, rfl⟩, _, rfl, ⟨_, rfl⟩, _,
      rfl, ⟨_, rfl⟩, _, rfl,
      rfl, _, rfl, ⟨⟨_, rfl⟩, by decide, by decide⟩, _, rfl, ⟨_, _, rfl⟩, _, rfl, ⟨_, rfl⟩, _, rfl,
      rfl, _, rfl, ⟨⟨_, rfl⟩, by decide, by decide⟩, _, rfl, ⟨_, _, rfl⟩, _, rfl, ⟨_, rfl⟩, _,
      rfl, ⟨_, rfl⟩, _, rfl, rfl⟩, rfl, rfl, _, rfl, rfl⟩
  obtain ⟨s, hsched, hpc, hforwarded, t, ht, hsent⟩ := hsched
  have hlive : s.Live ⟨Sample.deleteRequest.ricId, Sample.deleteRequest.xappId⟩
      (Sample.subscription 1022) := by
    refine ⟨?_, rfl, rfl, ?_⟩
    · rw [hforwarded]
      exact List.mem_cons_self
    · rw [hforwarded]
      decide
  refine ⟨s, Sample.reachable_of_sched hsched, hpc, hlive, ⟨t, ht, hsent⟩, ?_, rfl⟩
  rintro (⟨r, t', hr, ht', hsent'⟩ | ⟨hnone, -⟩)
  · obtain rfl := Option.some.inj (ht.symm.trans ht')
    -- what is forwarded is the delete of `r`, and it has been forwarded before
    have hsame : deleteFwd Sample.deleteRequest Sample.xappAddr r =
        Sample.delete (Sample.subscription 1021) := (List.cons.inj (hsent'.symm.trans hsent)).1
    refine hr.notDeleted (Sample.delete (Sample.subscription 1021)) ?_ rfl ⟨?_, ?_⟩
    · rw [hforwarded]
      exact List.mem_cons_of_mem _ List.mem_cons_self
    · rw [← hsame]
      rfl
    · rw [← hsame, reqId_deleteFwd]
  · exact hnone _ hlive

end RicState

end FlexRic
