import FlexRic.Net.E2Network

/-!
# Requests on their way to the E2 nodes

A request of an xApp goes to the node it names, with the content it came with, and no two
subscription or control requests go out with the same id.
-/

namespace FlexRic

/-- The event that the near-RIC waits for when it has sent the message. -/
def E2RicMsg.event : E2RicMsg → Option PendingEventRic
  | setupResponse _ => none
  | subscriptionRequest sr => some ⟨.subscriptionRequest, sr.ricId⟩
  | subscriptionDeleteRequest id => some ⟨.subscriptionDeleteRequest, id⟩
  | controlRequest cr => some ⟨.controlRequest, cr.ricId⟩

/-- The id that the near-RIC has chosen for the message. -/
def E2RicMsg.newId : E2RicMsg → Option RicGenId
  | subscriptionRequest sr => some sr.ricId
  | controlRequest cr => some cr.ricId
  | _ => none

/-- The content is that of the request: it is of its kind, and has the id the xApp gave it. -/
def Fwd.HasContent (r : Fwd) (content : Option E42Content) : Prop :=
  ∀ kind, r.kind = .request kind → ∃ c, content = some c ∧ c.kind = kind ∧ c.ricId = r.x.ricId

/-- What a request is sent as. -/
theorem Fwd.message_eq_some {r : Fwd} {content : Option E42Content} {msg : E2RicMsg}
    (hcontent : r.HasContent content) (h : r.message content = some msg) :
    msg.event = some r.event ∧ msg.newId.toList = r.newEntry.map Fwd.ricId := by
  obtain ⟨kind, node, ricId, x, src⟩ := r
  cases kind with
  | request kind =>
    obtain ⟨c, rfl, rfl, -⟩ := hcontent kind rfl
    cases c <;> cases h <;> exact ⟨rfl, rfl⟩
  | subscriptionDelete =>
    cases h
    exact ⟨rfl, rfl⟩

/-- The near-RIC reaches each node that is set up at its own address, and what it forwards are
requests for nodes of the network. -/
structure ForwardInv {ι : Type} (N : E2Network ι) (ric : RicState) (content : Option E42Content)
    (sent : List (SentRequest ι)) : Prop where
  /-- the nodes that are set up, with their addresses -/
  e2Nodes : ∀ e ∈ ric.ric.e2Nodes.toList, ∃ i, e = (N.nodeId i, N.addr i)
  /-- the nodes of the requests in `map_ric_id` -/
  mapNodes : ∀ e ∈ ric.iapp.mapRicId.toList, ∃ i, e.1.e2NodeId = N.nodeId i
  /-- the request being forwarded -/
  current : ∀ r ∈ ric.iappPc.current, (∃ i, r.node = N.nodeId i) ∧ r.HasContent content
  /-- the requests that were sent went to the nodes they name -/
  toNode : ∀ q ∈ sent, q.fwd.node = N.nodeId q.node ∧ q.fwd.HasContent q.content
  /-- all requests that were forwarded are among them -/
  forwarded : sent.map SentRequest.fwd = ric.forwarded

namespace ForwardInv

variable {ι : Type} {N : E2Network ι} {ric ric' : RicState} {content : Option E42Content}
  {sent : List (SentRequest ι)}

theorem init (N : E2Network ι) : ForwardInv N (.init N.epFd N.plugin) none [] where
  e2Nodes := by simp [RicState.init, NearRic.init]
  mapNodes := by simp [RicState.init, Iapp.init]
  current := by simp [RicState.init, IappPc.current]
  toNode := by simp
  forwarded := rfl

/-- The request being forwarded stays the same while its timer is created and registered. -/
theorem samePc (h : ForwardInv N ric content sent) (hnodes : ric'.ric.e2Nodes = ric.ric.e2Nodes)
    (hmap : ric'.iapp.mapRicId = ric.iapp.mapRicId)
    (hcurrent : ric'.iappPc.current = ric.iappPc.current)
    (hforwarded : ric'.forwarded = ric.forwarded) : ForwardInv N ric' content sent where
  e2Nodes := hnodes ▸ h.e2Nodes
  mapNodes := hmap ▸ h.mapNodes
  current := hcurrent ▸ h.current
  toNode := h.toNode
  forwarded := h.forwarded.trans hforwarded.symm

/-- The steps of the near-RIC that are its own. -/
theorem internal (h : ForwardInv N ric content sent) {a : RicAction}
    (hmap : ric.iapp.mapRicId.WF cmpE2NodeRicReq cmpXappRicGenId) (hint : a.isInternal = true)
    (ht : ric.Trans a ric') : ForwardInv N ric' content sent := by
  cases ht with
  | e42SetupRequest hpc hset =>
    obtain ⟨⟨-, -, rfl⟩, -⟩ := Iapp.setupXapp_eq_some.1 hset
    exact h.samePc rfl rfl rfl rfl
  | e42RicRequest => cases hint
  | @e42RicSubscriptionDeleteRequest req src n hpc hmem =>
    refine { h with current := ?_ }
    refine List.forall_mem_singleton.2 ⟨h.mapNodes _ (hmap.mem_right.1 hmem), ?_⟩
    intro kind hkind
    cases hkind
  | createTimer hpc => exact h.samePc rfl rfl (by simp [hpc, IappPc.current]) rfl
  | insertPending hpc => exact h.samePc rfl rfl (by simp [hpc, IappPc.current]) rfl
  | sendRequest => cases hint
  | @addMapRicId r hpc =>
    obtain ⟨hnode, -⟩ := h.current r (by simp [hpc, IappPc.current])
    refine { h with mapNodes := ?_, current := by simp [IappPc.current] }
    intro e he
    rcases BiMap.mem_insert.1 he with rfl | he
    · exact hnode
    · exact h.mapNodes e he
  | e2SetupRequest => cases hint
  | response => cases hint
  | indication => cases hint
  | findXapp => exact h.samePc rfl rfl rfl rfl
  | sendAnswer => exact h.samePc rfl rfl rfl rfl
  | timerExpiry => exact h

/-- A new request is for a node of the network, and its content is the one that came with it. -/
theorem e42Request (h : ForwardInv N ric content sent) {xappId : UInt16} {i : ι} {c : E42Content}
    {src : SctpInfo}
    (ht : ric.Trans (.e42RicRequest c.kind ⟨xappId, N.nodeId i, c.ricId⟩ src) ric') :
    ForwardInv N ric' (some c) sent := by
  cases ht with
  | e42RicRequest =>
    refine { h with current := List.forall_mem_singleton.2 ⟨⟨i, rfl⟩, ?_⟩ }
    intro kind hkind
    cases hkind
    exact ⟨c, rfl, rfl, rfl⟩

/-- An address that is found for a node of the network is its own. -/
theorem eq_of_findMapE2NodeSad (h : ForwardInv N ric content sent) {i j : ι}
    (hfind : ric.ric.findMapE2NodeSad (N.nodeId j) = some (N.addr i)) : j = i := by
  obtain ⟨e, hfind, haddr⟩ := Option.map_eq_some_iff.1 hfind
  obtain ⟨hmem, heq⟩ := AssocRbTree.findIf_eq_some hfind
  obtain ⟨k, rfl⟩ := h.e2Nodes e hmem
  cases N.addr_injective haddr
  exact N.distinct j i heq

/-- A request goes to the node it names. -/
theorem sendRequest (h : ForwardInv N ric content sent) {i : ι} {r : Fwd}
    (hpc : ric.iappPc = .registered r)
    (hdst : ric.ric.findMapE2NodeSad r.node = some (N.addr i)) (ht : ric.Trans .sendRequest ric') :
    ForwardInv N ric' content (⟨i, r, content⟩ :: sent) := by
  obtain ⟨⟨j, hnode⟩, hcontent⟩ := h.current r (by simp [hpc, IappPc.current])
  have hij : j = i := h.eq_of_findMapE2NodeSad (hnode ▸ hdst)
  cases ht with
  | @sendRequest r' dst hpc' hdst' =>
    cases hpc.symm.trans hpc'
    refine { h with
      current := ?_
      toNode := List.forall_mem_cons.2 ⟨⟨hij ▸ hnode, hcontent⟩, h.toNode⟩
      forwarded := congrArg _ h.forwarded }
    intro q hq
    have hqr : q = r := by
      cases r with
      | mk kind => cases kind <;> simp_all [RicState.afterSend, IappPc.current]
    exact hqr ▸ ⟨⟨j, hnode⟩, hcontent⟩

/-- The set-up of a node registers it at its address. -/
theorem e2SetupRequest (h : ForwardInv N ric content sent) {i : ι} {req : E2SetupRequest}
    (hid : req.id = N.nodeId i) (ht : ric.Trans (.e2SetupRequest req (N.addr i)) ric') :
    ForwardInv N ric' content sent := by
  cases ht with
  | e2SetupRequest =>
    refine { h with e2Nodes := ?_ }
    intro e he
    rcases BiMap.mem_insert.1 he with rfl | he
    · exact ⟨i, by rw [hid]⟩
    · exact h.e2Nodes e he

theorem e2Answer (h : ForwardInv N ric content sent) {ans : E2Answer}
    (ht : ric.Trans (.e2Answer ans) ric') : ForwardInv N ric' content sent := by
  cases ht with
  | response => exact h.samePc rfl rfl rfl rfl
  | indication => exact h.samePc rfl rfl rfl rfl

end ForwardInv

/-- What is or was on its way to the nodes: setup responses, and the requests that were sent, each
to its node. -/
structure DownInv {ι : Type} (down : Channels ι E2RicMsg) (sent : List (SentRequest ι)) :
    Prop where
  request : ∀ p ∈ down.all, (∃ resp, p.2 = .setupResponse resp) ∨
    ∃ q ∈ sent, q.node = p.1 ∧ q.fwd.message q.content = some p.2
  /-- every id that the near-RIC has chosen goes out once -/
  newIds : (down.all.flatMap fun p => p.2.newId.toList).Nodup

namespace DownInv

variable {ι : Type} {down down' : Channels ι E2RicMsg} {sent : List (SentRequest ι)}

theorem init : DownInv (⟨[], []⟩ : Channels ι E2RicMsg) [] where
  request := nofun
  newIds := List.nodup_nil

theorem receive [DecidableEq ι] (h : DownInv down sent) {i : ι} {msg : E2RicMsg}
    (hrecv : down.receive i = some (msg, down')) : DownInv down' sent where
  request p hp := h.request p ((Channels.all_perm_of_receive hrecv).mem_iff.1 hp)
  newIds := ((Channels.all_perm_of_receive hrecv).flatMap_right _).nodup_iff.2 h.newIds

theorem setupResponse (h : DownInv down sent) (i : ι) (resp : E2SetupResponse) :
    DownInv (down.send i (.setupResponse resp)) sent where
  request := by
    rw [Channels.all_send]
    intro p hp
    rcases List.mem_append.1 hp with hp | hp
    · exact h.request p hp
    · cases List.mem_singleton.1 hp
      exact .inl ⟨resp, rfl⟩
  newIds := by
    rw [Channels.all_send, List.flatMap_append]
    exact (List.append_nil _).symm ▸ h.newIds

/-- The ids on their way are ids of forwarded requests. -/
theorem exists_forwarded (h : DownInv down sent)
    (hsent : ∀ q ∈ sent, q.fwd.HasContent q.content) {id : RicGenId}
    (hid : id ∈ down.all.flatMap fun p => p.2.newId.toList) :
    ∃ q ∈ sent, id ∈ q.fwd.newEntry.map Fwd.ricId := by
  obtain ⟨p, hp, hid⟩ := List.mem_flatMap.1 hid
  rcases h.request p hp with ⟨resp, heq⟩ | ⟨q, hq, -, hmsg⟩
  · rw [heq] at hid
    cases hid
  · exact ⟨q, hq, (Fwd.message_eq_some (hsent q hq) hmsg).2 ▸ hid⟩

/-- A request that is sent has an id of its own. -/
theorem sendRequest (h : DownInv down sent) (hsent : ∀ q ∈ sent, q.fwd.HasContent q.content)
    {i : ι} {r : Fwd} {content : Option E42Content} {msg : E2RicMsg}
    (hcontent : r.HasContent content) (hmsg : r.message content = some msg)
    (hfresh : ∀ q ∈ sent, ∀ r₁ ∈ r.newEntry, ∀ r₂ ∈ q.fwd.newEntry, r₁.ricId ≠ r₂.ricId) :
    DownInv (down.send i msg) (⟨i, r, content⟩ :: sent) where
  request := by
    rw [Channels.all_send]
    intro p hp
    rcases List.mem_append.1 hp with hp | hp
    · rcases h.request p hp with hresp | ⟨q, hq, hnode, hmsg⟩
      · exact .inl hresp
      · exact .inr ⟨q, List.mem_cons_of_mem _ hq, hnode, hmsg⟩
    · cases List.mem_singleton.1 hp
      exact .inr ⟨_, List.mem_cons_self, rfl, hmsg⟩
  newIds := by
    rw [Channels.all_send, List.flatMap_append, List.flatMap_singleton]
    have hids := (Fwd.message_eq_some hcontent hmsg).2
    refine List.nodup_append.2 ⟨h.newIds, ?_, ?_⟩
    · cases msg.newId <;> simp
    · intro id hid id' hid' heq
      obtain ⟨q, hq, hmem⟩ := h.exists_forwarded hsent hid
      obtain ⟨r₂, hr₂, rfl⟩ := List.mem_map.1 hmem
      rw [hids] at hid'
      obtain ⟨r₁, hr₁, rfl⟩ := List.mem_map.1 hid'
      exact hfresh q hq r₁ hr₁ r₂ hr₂ heq.symm

/-- Two messages with the same new id are the same message to the same node. -/
theorem eq_of_newId (h : DownInv down sent) {p q : ι × E2RicMsg} (hp : p ∈ down.all)
    (hq : q ∈ down.all) {id : RicGenId} (hpid : p.2.newId = some id)
    (hqid : q.2.newId = some id) : p = q := by
  by_contra hne
  obtain ⟨before, after, hall⟩ := List.append_of_mem hp
  have hq' : q ∈ before ++ after := by
    have hmem : q ∈ p :: (before ++ after) := List.perm_middle.mem_iff.1 (hall ▸ hq)
    exact (List.mem_cons.1 hmem).resolve_left fun heq => hne heq.symm
  have hnodup := h.newIds
  have hperm : (before ++ p :: after).Perm (p :: (before ++ after)) := List.perm_middle
  rw [hall, (hperm.flatMap_right _).nodup_iff, List.flatMap_cons, hpid] at hnodup
  refine (List.nodup_cons.1 hnodup).1 (List.mem_flatMap.2 ⟨q, hq', ?_⟩)
  rw [hqid]
  exact List.mem_singleton_self id

end DownInv

end FlexRic
