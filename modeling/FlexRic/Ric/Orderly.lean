import FlexRic.Ric.Routing
import FlexRic.Ric.SubscriptionDelete
import FlexRic.Ric.XappIds

/-!
# Orderly requests

The xApps that use the ids of a request once, and delete a subscription only while they have it,
get every request forwarded: the near-RIC has the address of the node that a request is for, and a
delete request finds the subscription that it is about.
-/

namespace FlexRic

/-- The id of a request is that of its xApp, but for a request id of 16 bits. -/
def Fwd.HasShortId (r : Fwd) : Prop :=
  r.ricId = { r.x.ricId with ricReqId := r.reqId.toUInt32 }

namespace RicState

variable {s t : RicState} {r : Fwd} {a : RicAction}

/-! ## The addresses of the E2 nodes -/

/-- The near-RIC has an address for the node. -/
def Reaches (s : RicState) (id : GlobalE2NodeId) : Prop :=
  ∃ dst, s.ric.findMapE2NodeSad id = some dst

/-- The nodes that the iApp's thread can send to. -/
structure AddressInv (s : RicState) : Prop where
  /-- those that are set up -/
  nodes : ∀ e ∈ s.iapp.e2Nodes.nodeToRf.toList, s.Reaches e.1
  /-- the one that a request is being forwarded to -/
  current : ∀ r ∈ s.iappPc.current, s.Reaches r.node
  /-- those in `map_ric_id` -/
  map : ∀ e ∈ s.iapp.mapRicId.toList, s.Reaches e.1.e2NodeId

theorem addressInv_init (epFd : Fd) (plugin : List SmRic) : (init epFd plugin).AddressInv where
  nodes := by simp [init, Iapp.init, RegE2Nodes.init]
  current := by simp [init, IappPc.current]
  map := by simp [init, Iapp.init]

/-- A request is for a node with an address, and a new node is found by its own id. -/
def AddressGuard (s : RicState) : RicAction → Prop
  | .e42RicRequest _ req _ => s.Reaches req.id
  | .e2SetupRequest req _ => eqGlobalE2NodeId req.id req.id = true
  | _ => True

theorem AddressInv.step (h : s.AddressInv)
    (hmap : s.iapp.mapRicId.WF cmpE2NodeRicReq cmpXappRicGenId) (ht : s.Trans a t)
    (hguard : s.AddressGuard a) : t.AddressInv := by
  have hcurrent := h.current
  cases ht with
  | e42SetupRequest hpc hset =>
    obtain ⟨⟨-, -, rfl⟩, -⟩ := Iapp.setupXapp_eq_some.1 hset
    exact ⟨h.nodes, h.current, h.map⟩
  | e42RicRequest =>
    exact ⟨h.nodes, List.forall_mem_singleton.2 hguard, h.map⟩
  | e42RicSubscriptionDeleteRequest hpc hmem =>
    exact ⟨h.nodes, List.forall_mem_singleton.2 (h.map _ (hmap.mem_right.1 hmem)), h.map⟩
  | createTimer hpc =>
    rw [hpc] at hcurrent
    exact ⟨h.nodes, hcurrent, h.map⟩
  | insertPending hpc =>
    rw [hpc] at hcurrent
    exact ⟨h.nodes, hcurrent, h.map⟩
  | @sendRequest r dst hpc =>
    rw [hpc] at hcurrent
    refine ⟨h.nodes, fun q hq => hcurrent q ?_, h.map⟩
    obtain ⟨kind⟩ := r
    cases kind with
    | request kind => exact hq
    | subscriptionDelete => cases hq
  | @addMapRicId r hpc =>
    rw [hpc] at hcurrent
    refine ⟨h.nodes, nofun, fun e he => ?_⟩
    rcases BiMap.mem_insert.1 he with rfl | he
    · exact hcurrent r List.mem_cons_self
    · exact h.map e he
  | @e2SetupRequest req src resp nodes hpc hadd =>
    have hmono : ∀ id, s.Reaches id → Reaches { s with
        ric := { s.ric.e2apRegSockAddrRic req.id src with
          connE2Nodes := s.ric.connE2Nodes ++ [⟨req.id, resp.accepted⟩] }
        iapp := { s.iapp with e2Nodes := nodes } } id :=
      fun id ⟨dst, hdst⟩ => exists_findMapE2NodeSad_reg hdst rfl
    obtain ⟨-, rfl⟩ := RegE2Nodes.add_eq_some.1 hadd
    refine ⟨fun e he => ?_, fun r hr => hmono _ (h.current r hr), fun e he => hmono _ (h.map e he)⟩
    rcases AssocRbTree.mem_insert.1 he with rfl | he
    · obtain ⟨e', he'⟩ := AssocRbTree.exists_findIf (f := eqGlobalE2NodeId req.id)
        (AssocRbTree.mem_insert.2 (.inl rfl) :
          (req.id, src) ∈ (s.ric.e2apRegSockAddrRic req.id src).e2Nodes.left.toList)
        hguard
      exact ⟨e'.2, congrArg (Option.map Prod.snd) he'⟩
    · exact hmono _ (h.nodes e he)
  | response => exact ⟨h.nodes, h.current, h.map⟩
  | indication => exact ⟨h.nodes, h.current, h.map⟩
  | findXapp => exact ⟨h.nodes, h.current, h.map⟩
  | sendAnswer => exact ⟨h.nodes, h.current, h.map⟩
  | timerExpiry => exact h

/-! ## The ids of the requests -/

/-- An xApp makes a request under ids that it has not used, with a request id of 16 bits, and
deletes a subscription that it has. -/
def InOrder (s : RicState) : RicAction → Prop
  | .e42RicRequest _ req _ => req.ricId.ricReqId.toNat < 65536 ∧
      ∀ r ∈ s.requestsSent, r.x ≠ ⟨req.ricId, req.xappId⟩
  | .e42RicSubscriptionDeleteRequest req _ => ∃ r, s.Live ⟨req.ricId, req.xappId⟩ r
  | _ => True

/-- The delete request `d` is for the subscription `r`. -/
structure Deletes (d r : Fwd) : Prop where
  kind : r.kind = .request .subscription
  ids : r.x = d.x
  ricId : r.ricId = d.ricId
  node : r.node = d.node

/-- What holds when the requests come in order. -/
structure OrderInv (s : RicState) : Prop where
  /-- `map_ric_id` has requests that were forwarded -/
  entries : ∀ e ∈ s.iapp.mapRicId.toList, ∃ r ∈ s.requestsSent, e = (⟨r.node, r.reqId⟩, r.x)
  /-- and what goes there was forwarded -/
  entering : ∀ r, s.iappPc = .sent r → r ∈ s.requestsSent
  /-- no two requests have the same ids -/
  xs : ((s.iappPc.unsentEntry ++ s.requestsSent).map Fwd.x).Nodup
  /-- the ids that they are forwarded with have 16 bits -/
  shortIds : ∀ r ∈ s.iappPc.unsentEntry ++ s.requestsSent, Fwd.HasShortId r
  /-- a delete request is for a subscription that was forwarded -/
  deletes : ∀ d ∈ s.iappPc.current ++ s.forwarded, d.kind = .subscriptionDelete →
    ∃ r ∈ s.requestsSent, Deletes d r
  /-- and it is the only one for this subscription -/
  once : ∀ d ∈ s.iappPc.current, d.kind = .subscriptionDelete → ∀ d' ∈ s.forwarded,
    d'.kind = .subscriptionDelete → ¬(d'.node = d.node ∧ d'.reqId = d.reqId)

theorem orderInv_init (epFd : Fd) (plugin : List SmRic) : (init epFd plugin).OrderInv where
  entries := by simp [init, Iapp.init]
  entering := nofun
  xs := List.nodup_nil
  shortIds := by simp [init, IappPc.unsentEntry, requestsSent]
  deletes := by simp [init, IappPc.current]
  once := by simp [init, IappPc.current]

/-- The steps that keep the request on its way and what was forwarded. -/
theorem OrderInv.samePc (h : s.OrderInv) (hmap : t.iapp.mapRicId = s.iapp.mapRicId)
    (hentering : ∀ r, t.iappPc = .sent r → s.iappPc = .sent r)
    (hunsent : t.iappPc.unsentEntry = s.iappPc.unsentEntry)
    (hcurrent : t.iappPc.current = s.iappPc.current) (hforwarded : t.forwarded = s.forwarded) :
    t.OrderInv := by
  have hsent : t.requestsSent = s.requestsSent := by rw [requestsSent, hforwarded, requestsSent]
  refine ⟨?_, ?_, ?_, ?_, ?_, ?_⟩
  · rw [hmap, hsent]
    exact h.entries
  · rw [hsent]
    exact fun r hr => h.entering r (hentering r hr)
  · rw [hunsent, hsent]
    exact h.xs
  · rw [hunsent, hsent]
    exact h.shortIds
  · rw [hcurrent, hforwarded, hsent]
    exact h.deletes
  · rw [hcurrent, hforwarded]
    exact h.once

/-- A request id of 16 bits is replaced as a whole. -/
theorem setReqIdLow_of_short {id : RicGenId} (h : id.ricReqId.toNat < 65536) (v : UInt16) :
    id.setReqIdLow v = { id with ricReqId := v.toUInt32 } := by
  have hhigh : id.ricReqId.toNat / 2 ^ 16 = 0 := Nat.div_eq_of_lt h
  have hlow : UInt32.ofNat v.toNat = v.toUInt32 := by
    apply UInt32.toNat_inj.1
    rw [UInt32.toNat_ofNat', UInt16.toNat_toUInt32]
    exact Nat.mod_eq_of_lt (Nat.lt_trans v.toNat_lt (by decide))
  rw [RicGenId.setReqIdLow, hhigh, Nat.zero_mul, Nat.zero_add, hlow]

/-- Two subscription or control requests with the same ids are the same. -/
theorem OrderInv.eq_of_x (h : s.OrderInv) {q r : Fwd} (hq : q ∈ s.requestsSent)
    (hr : r ∈ s.requestsSent) (hx : q.x = r.x) : q = r := by
  have hxs := h.xs
  rw [List.map_append] at hxs
  exact List.inj_on_of_nodup_map (List.nodup_append.1 hxs).2.1 hq hr hx

/-- A delete request that is accepted is for the live subscription. -/
theorem OrderInv.accept_delete (h : s.OrderInv) {req : E42RicSubscriptionDeleteRequest}
    {src : SctpInfo} {n : E2NodeRicReq} (hpc : s.iappPc = .idle)
    (hmem : (n, (⟨req.ricId, req.xappId⟩ : XappRicId)) ∈ s.iapp.mapRicId.toList)
    (hlive : s.Live ⟨req.ricId, req.xappId⟩ r) : OrderInv { s with
      iappPc := .start ⟨.subscriptionDelete, n.e2NodeId,
        { req.ricId with ricReqId := n.ricReqId.toUInt32 }, ⟨req.ricId, req.xappId⟩, src⟩ } := by
  have hr : r ∈ s.requestsSent := mem_requestsSent.2 ⟨hlive.mem, _, hlive.kind⟩
  obtain ⟨q, hq, heq⟩ := h.entries _ hmem
  obtain ⟨hn, hx⟩ := Prod.mk.inj heq
  -- the entry is that of the subscription, since no other request has its ids
  cases h.eq_of_x hq hr (hx.symm.trans hlive.ids.symm)
  subst hn
  have hshort := h.shortIds r (List.mem_append_right _ hr)
  have hxs := h.xs
  rw [hpc] at hxs
  refine ⟨h.entries, nofun, hxs, ?_, ?_, ?_⟩
  · exact fun q hq => h.shortIds q (List.mem_append_right _ hq)
  · intro d hd hkind
    rcases List.mem_cons.1 hd with rfl | hd
    · refine ⟨r, hr, hlive.kind, hlive.ids, ?_, rfl⟩
      rw [hshort, hlive.ids]
    · exact h.deletes d (List.mem_append_right _ hd) hkind
  · refine List.forall_mem_singleton.2 fun _ d' hd' hkind heq => ?_
    refine hlive.notDeleted d' hd' hkind ⟨heq.1, heq.2.trans ?_⟩
    exact UInt16.toUInt16_toUInt32 r.reqId

/-- The request that is sent is no longer the one on its way. -/
theorem OrderInv.sendRequest (h : s.OrderInv) (hpc : s.iappPc = .registered r) : OrderInv { s with
    iappPc := afterSend r
    forwarded := r :: s.forwarded
    outstanding := r.event :: s.outstanding } := by
  obtain ⟨hentries, -, hxs, hshort, hdeletes, -⟩ := h
  rw [hpc] at hxs hshort hdeletes
  have hsub : ∀ q ∈ s.requestsSent, q ∈ r.newEntry ++ s.requestsSent :=
    fun q hq => List.mem_append_right _ hq
  have hdel : ∀ d ∈ r :: s.forwarded, d.kind = .subscriptionDelete →
      ∃ q ∈ r.newEntry ++ s.requestsSent, Deletes d q := by
    intro d hd hkind
    obtain ⟨q, hq, hdq⟩ := hdeletes d hd hkind
    exact ⟨q, hsub q hq, hdq⟩
  refine ⟨?_, ?_, ?_, ?_, ?_, ?_⟩
  · intro e he
    obtain ⟨q, hq, heq⟩ := hentries e he
    exact ⟨q, hsub q hq, heq⟩
  · intro q hq
    have hrq : q ∈ r.newEntry := by
      obtain ⟨kind⟩ := r
      cases kind with
      | request kind =>
        cases hq
        exact List.mem_cons_self
      | subscriptionDelete => cases hq
    exact List.mem_append_left _ hrq
  · rw [unsentEntry_afterSend]
    exact hxs
  · rw [unsentEntry_afterSend]
    exact hshort
  · intro d hd hkind
    refine hdel d ?_ hkind
    rcases List.mem_append.1 hd with hd | hd
    · obtain ⟨kind⟩ := r
      cases kind with
      | request kind => exact List.mem_cons.2 (.inl (List.mem_singleton.1 hd))
      | subscriptionDelete => cases hd
    · exact hd
  · intro d hd hkind
    obtain ⟨kind⟩ := r
    cases kind with
    | request kind =>
      cases List.mem_singleton.1 hd
      cases hkind
    | subscriptionDelete => cases hd

theorem OrderInv.step (h : s.OrderInv)
    (hmap : s.iapp.mapRicId.WF cmpE2NodeRicReq cmpXappRicGenId) (ht : s.Trans a t)
    (hguard : s.InOrder a) : t.OrderInv := by
  cases ht with
  | e42SetupRequest hpc hset =>
    obtain ⟨⟨-, -, rfl⟩, -⟩ := Iapp.setupXapp_eq_some.1 hset
    exact h.samePc rfl (fun _ hr => hr) rfl rfl rfl
  | @e42RicRequest kind req src hpc =>
    obtain ⟨hshort, hfresh⟩ := hguard
    have hxs := h.xs
    rw [hpc] at hxs
    refine ⟨h.entries, fun r hr => ?_, ?_, ?_, ?_, ?_⟩
    · cases hr
    · refine List.nodup_cons.2 ⟨fun hmem => ?_, hxs⟩
      obtain ⟨q, hq, hx⟩ := List.mem_map.1 hmem
      exact hfresh q hq hx
    · refine List.forall_mem_cons.2 ⟨?_, fun q hq => h.shortIds q (List.mem_append_right _ hq)⟩
      rw [Fwd.HasShortId, Fwd.reqId, RicGenId.setReqIdLow_low]
      exact setReqIdLow_of_short hshort _
    · intro d hd hkind
      rcases List.mem_cons.1 hd with rfl | hd
      · cases hkind
      · exact h.deletes d (List.mem_append_right _ hd) hkind
    · refine List.forall_mem_singleton.2 fun hkind => ?_
      cases hkind
  | e42RicSubscriptionDeleteRequest hpc hmem =>
    obtain ⟨r, hlive⟩ := hguard
    exact h.accept_delete hpc (hmap.mem_right.1 hmem) hlive
  | createTimer hpc =>
    refine h.samePc rfl (fun r hr => ?_) (by simp [hpc, IappPc.unsentEntry])
      (by simp [hpc, IappPc.current]) rfl
    cases hr
  | insertPending hpc =>
    refine h.samePc rfl (fun r hr => ?_) (by simp [hpc, IappPc.unsentEntry])
      (by simp [hpc, IappPc.current]) rfl
    cases hr
  | @sendRequest r dst hpc => exact h.sendRequest hpc
  | @addMapRicId r hpc =>
    have hxs := h.xs
    have hshort := h.shortIds
    have hdeletes := h.deletes
    rw [hpc] at hxs hshort hdeletes
    refine ⟨fun e he => ?_, fun q hq => ?_, hxs, hshort, ?_, ?_⟩
    · rcases BiMap.mem_insert.1 he with rfl | he
      · exact ⟨r, h.entering r hpc, rfl⟩
      · exact h.entries e he
    · cases hq
    · exact fun d hd => hdeletes d (List.mem_append_right _ hd)
    · exact fun d hd => absurd hd List.not_mem_nil
  | e2SetupRequest => exact h.samePc rfl (fun _ hr => hr) rfl rfl rfl
  | response => exact h.samePc rfl (fun _ hr => hr) rfl rfl rfl
  | indication => exact h.samePc rfl (fun _ hr => hr) rfl rfl rfl
  | findXapp => exact h.samePc rfl (fun _ hr => hr) rfl rfl rfl
  | sendAnswer => exact h.samePc rfl (fun _ hr => hr) rfl rfl rfl
  | timerExpiry => exact h

/-! ## What is accepted -/

/-- The id of a registered xApp is valid. -/
theorem XappInv.validXappId (h : s.XappInv) {id : UInt16} {src : SctpInfo}
    (hmem : (id, src) ∈ s.iapp.xapps.toList) : s.iapp.validXappId id = true := by
  have hassigned := (h.range id).1 ((h.mem id).2 ⟨_, hmem, rfl⟩)
  have hnext := h.next
  have hlt := id.toNat_lt
  apply decide_eq_true
  rw [UInt32.le_iff_toNat_le, UInt16.toNat_toUInt32]
  omega

/-- As long as there are ids left, the next one is not assigned. -/
theorem XappInv.fresh (h : s.XappInv) (hlen : s.assigned.length < 65536) :
    ∀ e ∈ s.iapp.xapps.toList, e.1 ≠ s.iapp.xappId.toUInt16 := by
  intro e he heq
  have hassigned := (h.range _).1 ((h.mem _).2 ⟨e, he, heq⟩)
  rw [UInt32.toNat_toUInt16, h.next] at hassigned
  omega

/-- A request of a registered xApp for a node that is set up is accepted. -/
theorem XappInv.acceptRequest (h : s.XappInv) {kind : E42Kind} {req : E42RicRequest}
    {src : SctpInfo} (hsrc : (req.xappId, src) ∈ s.iapp.xapps.toList)
    (hnodes : s.iapp.e2Nodes.nodeToRf.toList.length < 256)
    (hnode : ∃ e ∈ s.iapp.e2Nodes.nodeToRf.toList, eqGlobalE2NodeId e.1 req.id = true) :
    s.step (.e42RicRequest kind req src) ≠ none := by
  have harr := RegE2Nodes.generateE2NodeArr_eq_some.2 ⟨hnodes, rfl⟩
  have hvalid : s.iapp.validGlobalE2Node req.id = some true := by
    rw [Iapp.validGlobalE2Node, harr, Option.map_some, List.any_map]
    obtain ⟨e, he, heq⟩ := hnode
    refine congrArg some (List.any_eq_true.2 ⟨e, ?_, heq⟩)
    exact (RegE2Nodes.perm_copy _).1.mem_iff.2 he
  have hcheck := Iapp.checkE42RicRequest_eq_some.2 ⟨⟨h.validXappId hsrc, hvalid⟩, rfl⟩
  rw [RicState.step, RicState.acceptRequest, hcheck]
  exact Option.some_ne_none _

/-- A delete request for a live subscription is accepted. -/
theorem acceptDelete_ne_none {epFd : Fd} {plugin : List SmRic}
    (h : (threads epFd plugin).Reachable s) (hpc : s.iappPc = .idle)
    {req : E42RicSubscriptionDeleteRequest} {src : SctpInfo}
    (hlive : s.Live ⟨req.ricId, req.xappId⟩ r) :
    s.step (.e42RicSubscriptionDeleteRequest req src) ≠ none := by
  obtain ⟨entered, hinv⟩ := deleteInv_reachable h
  have hr : r ∈ s.requestsSent := mem_requestsSent.2 ⟨hlive.mem, _, hlive.kind⟩
  have hfirst : (s.firstRequest ⟨req.ricId, req.xappId⟩).isSome :=
    List.find?_isSome.2 ⟨r, List.mem_reverse.2 hr, decide_eq_true hlive.ids⟩
  obtain ⟨q, hq⟩ := Option.isSome_iff_exists.1 hfirst
  have hfind := hinv.findRicReqMapRicId hpc ⟨req.ricId, req.xappId⟩
  rw [hq] at hfind
  rw [RicState.step, RicState.acceptDelete, Iapp.checkE42RicSubscriptionDeleteRequest, hfind]
  exact Option.some_ne_none _

end RicState

end FlexRic
