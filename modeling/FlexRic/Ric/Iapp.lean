import FlexRic.AlgDs.BimapRuns
import FlexRic.MsgHand.RegE2Nodes

/-!
# The iApp (`ric/iApp/e42_iapp.c`, `msg_handler_iapp.c`, `map_ric_id.c`, `map_xapps_sockaddr.c`)

The part of the near-RIC that talks to the xApps. It forwards their requests under an id of the
RIC's own and keeps in `map_ric_id` whose request each id stands for, so that the answers of the
E2 nodes find their way back.
-/

namespace FlexRic

/-- `e2_node_ric_req_t`. -/
structure E2NodeRicReq : Type where
  e2NodeId : GlobalE2NodeId
  ricReqId : UInt16
  deriving DecidableEq, Repr

/-- `cmp_e2_node_ric_req_wrapper`, which looks at the id only, with the sides exchanged:
`cmp_uint16` answers `-1` for smaller. -/
def cmpE2NodeRicReq (m₀ m₁ : E2NodeRicReq) : Ordering := compareOn E2NodeRicReq.ricReqId m₁ m₀

instance : Std.TransCmp cmpE2NodeRicReq where
  eq_swap := by
    intro a b
    exact Std.OrientedOrd.eq_swap
  isLE_trans := by
    intro a b c hab hbc
    have hba : (compare b.ricReqId a.ricReqId).isLE := hab
    have hcb : (compare c.ricReqId b.ricReqId).isLE := hbc
    exact Std.TransOrd.isLE_trans hcb hba

/-- `cmp_uint16_wrapper` of `map_xapps_sockaddr.c`. -/
def cmpUInt16 : UInt16 → UInt16 → Ordering := compareOn id

/-- `e42_iapp_t`. -/
structure Iapp : Type where
  /-- the id for the next xApp that sets up -/
  xappId : UInt32
  e2Nodes : RegE2Nodes
  /-- left key: the request at the E2 node, right key: the xApp's request -/
  mapRicId : BiMap E2NodeRicReq XappRicId
  /-- `ep.xapps`: the addresses of the xApps -/
  xapps : AssocRbTree UInt16 SctpInfo

namespace Iapp

/-- `init_e42_iapp`. -/
def init : Iapp where
  xappId := 7
  e2Nodes := .init
  mapRicId := .init
  xapps := .init

/-! ## The maps -/

/-- `add_map_ric_id`: it asserts that the request id is not in the map. -/
def addMapRicId (iapp : Iapp) (node : E2NodeRicReq) (x : XappRicId) : Option Iapp :=
  if (iapp.mapRicId.left.findIf fun n => node.ricReqId = n.ricReqId).isSome then none
  else some
    { iapp with mapRicId := iapp.mapRicId.insert cmpE2NodeRicReq cmpXappRicGenId node x }

/-- `rm_map_ric_id`. The request id of an `e2_node_ric_req_t` comes after the node id, past the end
of an `xapp_ric_id_t`: `asReq` is what the memory holds there. -/
def rmMapRicId (asReq : XappRicId → E2NodeRicReq) (iapp : Iapp) (node : E2NodeRicReq) :
    Option Iapp :=
  (iapp.mapRicId.extractLeft cmpE2NodeRicReq cmpXappRicGenId asReq node).map fun (_, mapRicId) =>
    { iapp with mapRicId := mapRicId }

/-- `find_xapp_map_ric_id`. -/
def findXappMapRicId (iapp : Iapp) (ricReqId : UInt16) : Option XappRicId :=
  if 0 < ricReqId then
    (iapp.mapRicId.left.findIf fun n => ricReqId = n.ricReqId).map Prod.snd
  else none

/-- `find_ric_req_map_ric_id`. -/
def findRicReqMapRicId (iapp : Iapp) (x : XappRicId) : Option E2NodeRicReq :=
  (iapp.mapRicId.right.findIf fun x' => x = x').map Prod.snd

/-- `add_map_xapps_sad`: it asserts that the xApp's id is not in the map. -/
def addMapXappsSad (iapp : Iapp) (xappId : UInt16) (info : SctpInfo) : Option Iapp :=
  if (iapp.xapps.findIf fun id => xappId = id).isSome then none
  else some { iapp with xapps := iapp.xapps.insert cmpUInt16 xappId info }

/-- `find_map_xapps_sad`. -/
def findMapXappsSad (iapp : Iapp) (xappId : UInt16) : Option SctpInfo :=
  (iapp.xapps.findIf fun id => xappId = id).map Prod.snd

/-! ## Requests from the xApps -/

/-- `e2ap_handle_e42_setup_request_iapp` with `generate_setup_response`. -/
def e2apHandleE42SetupRequestIapp (iapp : Iapp) (req : E42SetupRequest) :
    Option (E42SetupResponse × Iapp) :=
  if req.ranFuncItem = [] then none
  else iapp.e2Nodes.generateE2NodeArr.map fun nodes =>
    (⟨iapp.xappId.toUInt16, nodes⟩, { iapp with xappId := iapp.xappId + 1 })

/-- The assertions of `e2ap_enc_e42_setup_response_asn_pdu`. -/
def encodableE42SetupResponse (resp : E42SetupResponse) : Bool :=
  resp.nodes ≠ [] && resp.nodes.all fun n =>
    n.id.type = .gNB || n.id.type = .gNBCU || n.id.type = .gNBDU || n.id.type = .eNB

/-- What `e2_event_loop_iapp` does with an E42 setup request that came from `src`: the response is
generated, the xApp's address registered, and the response encoded to be sent to `src`. -/
def setupXapp (iapp : Iapp) (req : E42SetupRequest) (src : SctpInfo) :
    Option (E42SetupResponse × Iapp) :=
  (iapp.e2apHandleE42SetupRequestIapp req).bind fun (resp, iapp) =>
    (iapp.addMapXappsSad resp.xappId src).bind fun iapp =>
      if encodableE42SetupResponse resp then some (resp, iapp) else none

/-- `valid_xapp_id`. The field is a `uint16_t`, so the assertion on its bound cannot fail. -/
def validXappId (iapp : Iapp) (xappId : UInt16) : Bool := xappId.toUInt32 ≤ iapp.xappId

/-- `valid_global_e2_node`. -/
def validGlobalE2Node (iapp : Iapp) (id : GlobalE2NodeId) : Option Bool :=
  iapp.e2Nodes.generateE2NodeArr.map fun nodes => nodes.any fun n => eqGlobalE2NodeId n.id id

/-- `e2ap_handle_e42_ric_subscription_request_iapp` and `e2ap_handle_e42_ric_control_request_iapp`
up to the forwarding: the checks, and the xApp's request as `map_ric_id` will know it. -/
def checkE42RicRequest (iapp : Iapp) (req : E42RicRequest) : Option XappRicId :=
  if iapp.validXappId req.xappId ∧ iapp.validGlobalE2Node req.id = some true then
    some ⟨req.ricId, req.xappId⟩
  else none

/-- `e2ap_handle_e42_ric_subscription_delete_request_iapp` up to the forwarding: the E2 node and
the id under which the subscription was forwarded. -/
def checkE42RicSubscriptionDeleteRequest (iapp : Iapp)
    (req : E42RicSubscriptionDeleteRequest) : Option (GlobalE2NodeId × RicGenId) :=
  (iapp.findRicReqMapRicId ⟨req.ricId, req.xappId⟩).map fun n =>
    (n.e2NodeId, { req.ricId with ricReqId := n.ricReqId.toUInt32 })

/-! ## Answers from the E2 nodes

The four handlers look the answered request up with `find_xapp_map_ric_id`. What they do with the
result `x` is: check it against the answer, build the message for the xApp and look its address
up. -/

/-- The common part of the four handlers. -/
def answerXapp (iapp : Iapp) (x : XappRicId) (src : RicGenId) (dst : E2Answer) :
    Option (SctpInfo × E2Answer) :=
  if src.ranFuncId = x.ricId.ranFuncId ∧ src.ricInstId = x.ricId.ricInstId then
    (iapp.findMapXappsSad x.xappId).map fun info => (info, dst)
  else none

/-- `e2ap_handle_subscription_response_iapp`. -/
def e2apHandleSubscriptionResponseIapp (iapp : Iapp) (x : XappRicId)
    (src : RicSubscriptionResponse) : Option (SctpInfo × E2Answer) :=
  iapp.answerXapp x src.ricId (.subscriptionResponse
    { src with ricId := { src.ricId with ricReqId := x.ricId.ricReqId } })

/-- `e2ap_handle_subscription_delete_response_iapp`. -/
def e2apHandleSubscriptionDeleteResponseIapp (iapp : Iapp) (x : XappRicId)
    (src : RicSubscriptionDeleteResponse) : Option (SctpInfo × E2Answer) :=
  iapp.answerXapp x src.ricId (.subscriptionDeleteResponse ⟨x.ricId⟩)

/-- `e2ap_handle_e42_ric_control_ack_iapp`. -/
def e2apHandleE42RicControlAckIapp (iapp : Iapp) (x : XappRicId)
    (src : RicControlAcknowledge) : Option (SctpInfo × E2Answer) :=
  iapp.answerXapp x src.ricId (.controlAcknowledge ⟨x.ricId, src.status⟩)

/-- `e2ap_handle_ric_indication_iapp`. -/
def e2apHandleRicIndicationIapp (iapp : Iapp) (x : XappRicId) (src : RicIndication) :
    Option (SctpInfo × E2Answer) :=
  iapp.answerXapp x src.ricId (.indication
    { src with ricId := { src.ricId with ricReqId := x.ricId.ricReqId } })

/-- `e2ap_msg_handle_iapp` on the messages of the near-RIC. -/
def e2apMsgHandleIapp (iapp : Iapp) (x : XappRicId) : E2Answer → Option (SctpInfo × E2Answer)
  | .subscriptionResponse m => iapp.e2apHandleSubscriptionResponseIapp x m
  | .subscriptionDeleteResponse m => iapp.e2apHandleSubscriptionDeleteResponseIapp x m
  | .controlAcknowledge m => iapp.e2apHandleE42RicControlAckIapp x m
  | .indication m => iapp.e2apHandleRicIndicationIapp x m

/-! ## Lookups -/

variable {iapp iapp' : Iapp} {node : E2NodeRicReq} {x : XappRicId} {info : SctpInfo}

theorem addMapRicId_eq_some : iapp.addMapRicId node x = some iapp' ↔
    (∀ e ∈ iapp.mapRicId.toList, e.1.ricReqId ≠ node.ricReqId) ∧ iapp' = { iapp with
      mapRicId := iapp.mapRicId.insert cmpE2NodeRicReq cmpXappRicGenId node x } := by
  have hfind : (iapp.mapRicId.left.findIf fun n => node.ricReqId = n.ricReqId).isSome ↔
      ∃ e ∈ iapp.mapRicId.toList, node.ricReqId = e.1.ricReqId := by
    rw [AssocRbTree.findIf_isSome]
    simp only [decide_eq_true_eq]
    rfl
  rw [addMapRicId, Option.ite_none_left_eq_some, hfind, Option.some_inj, eq_comm]
  apply and_congr_left
  intro _
  constructor
  · intro hnew e he heq
    exact hnew ⟨e, he, heq.symm⟩
  · rintro hnew ⟨e, he, heq⟩
    exact hnew e he heq.symm

theorem findXappMapRicId_eq_some {ricReqId : UInt16}
    (h : iapp.findXappMapRicId ricReqId = some x) :
    ∃ node, (node, x) ∈ iapp.mapRicId.toList ∧ node.ricReqId = ricReqId := by
  obtain ⟨-, h⟩ := Option.ite_none_right_eq_some.1 h
  obtain ⟨⟨n, x'⟩, hfind, rfl⟩ := Option.map_eq_some_iff.1 h
  obtain ⟨hmem, heq⟩ := AssocRbTree.findIf_eq_some hfind
  exact ⟨n, hmem, (of_decide_eq_true heq).symm⟩

/-- An id that is in the map is found. -/
theorem findXappMapRicId_of_mem (hmem : (node, x) ∈ iapp.mapRicId.toList)
    (hpos : 0 < node.ricReqId) : ∃ x', iapp.findXappMapRicId node.ricReqId = some x' := by
  obtain ⟨e, he⟩ : ∃ e, (iapp.mapRicId.left.findIf fun n => node.ricReqId = n.ricReqId) = some e :=
    AssocRbTree.exists_findIf hmem (by simp)
  exact ⟨e.2, by rw [findXappMapRicId, if_pos hpos, he, Option.map_some]⟩

theorem findRicReqMapRicId_eq_some (h : iapp.findRicReqMapRicId x = some node) :
    (x, node) ∈ iapp.mapRicId.right.toList := by
  obtain ⟨⟨x', n⟩, hfind, rfl⟩ := Option.map_eq_some_iff.1 h
  obtain ⟨hmem, heq⟩ := AssocRbTree.findIf_eq_some hfind
  cases of_decide_eq_true heq
  exact hmem

theorem addMapXappsSad_eq_some {id : UInt16} : iapp.addMapXappsSad id info = some iapp' ↔
    (∀ e ∈ iapp.xapps.toList, e.1 ≠ id) ∧
      iapp' = { iapp with xapps := iapp.xapps.insert cmpUInt16 id info } := by
  have hfind : (iapp.xapps.findIf fun id' => id = id').isSome ↔
      ∃ e ∈ iapp.xapps.toList, id = e.1 := by
    rw [AssocRbTree.findIf_isSome]
    simp only [decide_eq_true_eq]
  rw [addMapXappsSad, Option.ite_none_left_eq_some, hfind, Option.some_inj, eq_comm]
  apply and_congr_left
  intro _
  constructor
  · intro hnew e he heq
    exact hnew ⟨e, he, heq.symm⟩
  · rintro hnew ⟨e, he, heq⟩
    exact hnew e he heq.symm

theorem findMapXappsSad_eq_some {id : UInt16} (h : iapp.findMapXappsSad id = some info) :
    (id, info) ∈ iapp.xapps.toList := by
  obtain ⟨⟨id', info'⟩, hfind, rfl⟩ := Option.map_eq_some_iff.1 h
  obtain ⟨hmem, heq⟩ := AssocRbTree.findIf_eq_some hfind
  cases of_decide_eq_true heq
  exact hmem

/-- The lookup succeeds exactly for the registered xApps. -/
theorem findMapXappsSad_isSome {id : UInt16} :
    (iapp.findMapXappsSad id).isSome ↔ ∃ e ∈ iapp.xapps.toList, e.1 = id := by
  rw [findMapXappsSad, Option.isSome_map, AssocRbTree.findIf_isSome]
  simp only [decide_eq_true_eq, @eq_comm _ id]

/-- The address of an id that is there once. -/
theorem findMapXappsSad_of_unique {id : UInt16} (hmem : (id, info) ∈ iapp.xapps.toList)
    (hunique : ∀ e ∈ iapp.xapps.toList, e.1 = id → e = (id, info)) :
    iapp.findMapXappsSad id = some info := by
  obtain ⟨info', hfind⟩ := Option.isSome_iff_exists.1 (findMapXappsSad_isSome.2 ⟨_, hmem, rfl⟩)
  cases hunique _ (findMapXappsSad_eq_some hfind) rfl
  exact hfind

/-- An id that is new gets the address it is registered with. -/
theorem findMapXappsSad_insert {id : UInt16} (hfresh : ∀ e ∈ iapp.xapps.toList, e.1 ≠ id)
    (next : UInt32) : { iapp with
      xappId := next
      xapps := iapp.xapps.insert cmpUInt16 id info }.findMapXappsSad id = some info := by
  apply findMapXappsSad_of_unique (AssocRbTree.mem_insert.2 (.inl rfl))
  intro e he hid
  rcases AssocRbTree.mem_insert.1 he with rfl | he
  · rfl
  · exact absurd hid (hfresh e he)

/-- An xApp is set up exactly if its id is new and the response can be sent. -/
theorem setupXapp_eq_some {req : E42SetupRequest} {src : SctpInfo} {resp : E42SetupResponse} :
    iapp.setupXapp req src = some (resp, iapp') ↔
      (resp.xappId = iapp.xappId.toUInt16 ∧
        (∀ e ∈ iapp.xapps.toList, e.1 ≠ iapp.xappId.toUInt16) ∧
        iapp' = { iapp with
          xappId := iapp.xappId + 1
          xapps := iapp.xapps.insert cmpUInt16 iapp.xappId.toUInt16 src }) ∧
      req.ranFuncItem ≠ [] ∧ iapp.e2Nodes.generateE2NodeArr = some resp.nodes ∧
        encodableE42SetupResponse resp := by
  constructor
  · intro h
    obtain ⟨⟨r, i₁⟩, hgen, h⟩ := Option.bind_eq_some_iff.1 h
    obtain ⟨i₂, hadd, h⟩ := Option.bind_eq_some_iff.1 h
    obtain ⟨hreq, hgen⟩ := Option.ite_none_left_eq_some.1 hgen
    obtain ⟨nodes, hnodes, heq⟩ := Option.map_eq_some_iff.1 hgen
    cases heq
    obtain ⟨hfresh, rfl⟩ := addMapXappsSad_eq_some.1 hadd
    obtain ⟨henc, heq⟩ := Option.ite_none_right_eq_some.1 h
    cases heq
    exact ⟨⟨rfl, hfresh, rfl⟩, hreq, hnodes, henc⟩
  · rintro ⟨⟨hid, hfresh, rfl⟩, hreq, hnodes, henc⟩
    have hgen : iapp.e2apHandleE42SetupRequestIapp req =
        some (resp, { iapp with xappId := iapp.xappId + 1 }) := by
      rw [e2apHandleE42SetupRequestIapp, if_neg hreq, hnodes, Option.map_some, ← hid]
    have hadd : { iapp with xappId := iapp.xappId + 1 }.addMapXappsSad resp.xappId src =
        some { iapp with
          xappId := iapp.xappId + 1
          xapps := iapp.xapps.insert cmpUInt16 iapp.xappId.toUInt16 src } := by
      rw [hid]
      exact addMapXappsSad_eq_some.2 ⟨hfresh, rfl⟩
    rw [setupXapp, hgen, Option.bind_some]
    dsimp only
    rw [hadd, Option.bind_some, if_pos henc]

theorem checkE42RicRequest_eq_some {req : E42RicRequest} : iapp.checkE42RicRequest req = some x ↔
    (iapp.validXappId req.xappId ∧ iapp.validGlobalE2Node req.id = some true) ∧
      x = ⟨req.ricId, req.xappId⟩ := by
  rw [checkE42RicRequest, Option.ite_none_right_eq_some, Option.some_inj, @eq_comm _ x]

theorem checkE42RicSubscriptionDeleteRequest_eq_some {req : E42RicSubscriptionDeleteRequest}
    {id : GlobalE2NodeId} {ricId : RicGenId}
    (h : iapp.checkE42RicSubscriptionDeleteRequest req = some (id, ricId)) :
    ∃ n : E2NodeRicReq, ((⟨req.ricId, req.xappId⟩ : XappRicId), n) ∈
        iapp.mapRicId.right.toList ∧ id = n.e2NodeId ∧
      ricId = { req.ricId with ricReqId := n.ricReqId.toUInt32 } := by
  obtain ⟨n, hfind, heq⟩ := Option.map_eq_some_iff.1 h
  cases heq
  exact ⟨n, findRicReqMapRicId_eq_some hfind, rfl, rfl⟩

/-- A request can be removed only if its id is what the memory behind the xApp's id holds. -/
theorem rmMapRicId_isSome_iff {M : Matching cmpE2NodeRicReq cmpXappRicGenId}
    {asReq : XappRicId → E2NodeRicReq} (h : iapp.mapRicId.Mirrors M) (hmem : (node, x) ∈ M.pairs) :
    (iapp.rmMapRicId asReq node).isSome ↔ (asReq x).ricReqId = node.ricReqId := by
  obtain ⟨m, hext, -⟩ := h.extractLeft asReq hmem Std.ReflCmp.compare_self
  have heq : cmpE2NodeRicReq (asReq x) node = .eq ↔ (asReq x).ricReqId = node.ricReqId :=
    Std.LawfulEqOrd.compare_eq_iff_eq.trans eq_comm
  rw [rmMapRicId, hext, Option.isSome_map]
  by_cases hid : (asReq x).ricReqId = node.ricReqId
  · simp only [heq, hid, if_true, Option.isSome_some]
  · simp only [heq, hid, if_false, Option.isSome_none, Bool.false_eq_true]

/-- What an answer becomes for the xApp: the same message, about the xApp's own request. -/
theorem e2apMsgHandleIapp_eq (iapp : Iapp) (x : XappRicId) (ans : E2Answer)
    (h : ans.ricId.ranFuncId = x.ricId.ranFuncId ∧ ans.ricId.ricInstId = x.ricId.ricInstId) :
    iapp.e2apMsgHandleIapp x ans =
      (iapp.findMapXappsSad x.xappId).map fun info => (info, ans.setRicId x.ricId) := by
  obtain ⟨⟨q, i, f⟩, xid⟩ := x
  cases ans with
  | subscriptionResponse m =>
    obtain ⟨⟨mq, mi, mf⟩, madm, mna⟩ := m
    obtain ⟨rfl, rfl⟩ := h
    exact if_pos ⟨rfl, rfl⟩
  | subscriptionDeleteResponse m => exact if_pos h
  | controlAcknowledge m => exact if_pos h
  | indication m =>
    obtain ⟨⟨mq, mi, mf⟩, hdr, msg, cpid⟩ := m
    obtain ⟨rfl, rfl⟩ := h
    exact if_pos ⟨rfl, rfl⟩

/-- Every handler asserts that the answer is about the function and the instance of the request. -/
theorem e2apMsgHandleIapp_eq_some {ans msg : E2Answer}
    (h : iapp.e2apMsgHandleIapp x ans = some (info, msg)) :
    (ans.ricId.ranFuncId = x.ricId.ranFuncId ∧ ans.ricId.ricInstId = x.ricId.ricInstId) ∧
      iapp.findMapXappsSad x.xappId = some info ∧ msg = ans.setRicId x.ricId := by
  have hids : ans.ricId.ranFuncId = x.ricId.ranFuncId ∧
      ans.ricId.ricInstId = x.ricId.ricInstId := by
    by_contra hne
    have hnone : iapp.e2apMsgHandleIapp x ans = none := by
      cases ans <;> exact if_neg hne
    rw [hnone] at h
    cases h
  rw [e2apMsgHandleIapp_eq iapp x ans hids] at h
  obtain ⟨i, hi, heq⟩ := Option.map_eq_some_iff.1 h
  cases heq
  exact ⟨hids, hi, rfl⟩

end Iapp

end FlexRic
