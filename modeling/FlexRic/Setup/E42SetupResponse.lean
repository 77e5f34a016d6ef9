import FlexRic.E2ap.SetupRoundTrip
import FlexRic.Ric.XappIds

/-!
# The E42 setup response

An E42 setup request is answered with the E2 nodes of the iApp's registry. The encoder asserts that
there are some, so an xApp that comes before the first E2 node is not answered, although the
decoder reads a response without nodes. What else a registry has to be for its nodes to arrive is
worked out from the inside out: the id of a node, the node with its RAN functions, the response,
and then the states of the iApp.
-/

namespace FlexRic

/-- An E2 node ID that survives its coding: one of the four kinds, with the `cu_du_id` that its
kind has, and a PLMN and an id that fit their fields. -/
structure GlobalE2NodeId.Kept (id : GlobalE2NodeId) : Prop where
  plmn : id.plmn.Fits
  kind : (id.type = .gNB ∧ id.cuDuId = none ∨
      (id.type = .gNBCU ∨ id.type = .gNBDU) ∧ id.cuDuId.isSome) ∧ id.nbId.toNat < 2 ^ 28 ∨
    id.type = .eNB ∧ id.cuDuId = none ∧ id.nbId.toNat < 2 ^ 20

/-- A RAN function with an id and a revision that the decoders take. -/
def RanFunction.Kept (rf : RanFunction) : Prop := rf.id.toNat ≤ 4096 ∧ rf.rev.toNat ≤ 4096

/-- An E2 node that survives the coding of the response. -/
structure E2NodeConnected.Kept (node : E2NodeConnected) : Prop where
  id : node.id.Kept
  ackRf : ∀ rf ∈ node.ackRf, rf.Kept

namespace Ap

open Asn (Ie E2apPdu ProtocolIeField)

/-! ## The coding of the response -/

theorem roundTrips_globalE2nodeId_iff {id : GlobalE2NodeId} :
    RoundTrips encGlobalE2nodeId decGlobalE2nodeId id ↔ id.Kept := by
  have hkept : id.Kept ↔ id.plmn.Fits ∧ ((id.type = .gNB ∧ id.cuDuId = none ∨
      (id.type = .gNBCU ∨ id.type = .gNBDU) ∧ id.cuDuId.isSome) ∧ id.nbId.toNat < 2 ^ 28 ∨
      id.type = .eNB ∧ id.cuDuId = none ∧ id.nbId.toNat < 2 ^ 20) :=
    ⟨fun h => ⟨h.plmn, h.kind⟩, fun h => ⟨h.1, h.2⟩⟩
  rw [hkept, ← Asn.plmnIdToMccMnc_mccMncToPlmnId_iff, ← Asn.bitStringToMacroGnbId_iff,
    ← Asn.bitStringToMacroEnbId_iff]
  obtain ⟨type, plmn, nbId, cuDuId⟩ := id
  cases type <;> cases cuDuId <;>
    simp [RoundTrips, encGlobalE2nodeId, decGlobalE2nodeId, decInteger,
      Option.bind_eq_some_iff]

theorem decRanFunction_iff {rf : RanFunction} :
    decRanFunction ⟨.ranFunctionItem, .reject, encRanFunction rf⟩ = some rf ↔ rf.Kept := by
  change _ ↔ rf.id.toNat ≤ Asn.maxRanFuncId ∧ rf.rev.toNat ≤ Asn.maxRanFuncRev
  refine (assert_bind_eq_some.trans (and_congr_right fun _ => assert_bind_eq_some)).trans ?_
  simp [encRanFunction]

/-- A node is read as it was exactly if its id and its RAN functions are. -/
theorem roundTrips_e2nodeConnected_iff {node : E2NodeConnected} :
    RoundTrips encE2nodeConnected decE2nodeConnected node ↔ node.Kept := by
  have hkept : node.Kept ↔ node.id.Kept ∧ ∀ rf ∈ node.ackRf, rf.Kept :=
    ⟨fun h => ⟨h.id, h.ackRf⟩, fun h => ⟨h.1, h.2⟩⟩
  have hrf : (node.ackRf.map encRanFunctionItem).mapM decRanFunction = some node.ackRf ↔
      ∀ rf ∈ node.ackRf, rf.Kept :=
    mapM_map_iff.trans (forall₂_congr fun rf _ => decRanFunction_iff)
  rw [hkept, ← hrf, ← roundTrips_globalE2nodeId_iff, RoundTrips, RoundTrips]
  obtain ⟨id, ackRf⟩ := node
  cases henc : encGlobalE2nodeId id with
  | none => simp [encE2nodeConnected, henc]
  | some n =>
    simp [encE2nodeConnected, henc, decE2nodeConnected, Option.bind_eq_some_iff, -List.mapM_map]

/-- Only the four kinds are encoded. -/
theorem type_of_encE2nodeConnected {node : E2NodeConnected} (h : (encE2nodeConnected node).isSome) :
    ((node.id.type = .gNB ∨ node.id.type = .gNBCU) ∨ node.id.type = .gNBDU) ∨
      node.id.type = .eNB := by
  obtain ⟨⟨type, plmn, nbId, cuDuId⟩, ackRf⟩ := node
  cases type <;> simp [encE2nodeConnected, encGlobalE2nodeId] at h ⊢

/-- The PDU of a response, with the IEs of the nodes. -/
def e42SetupResponsePdu (xappId : UInt16) (nodes : List Ie) : E2apPdu where
  present := .successfulOutcome
  procedureCode := .e42Setup
  criticality := .reject
  value := .e42setupResponse
  protocolIEs := ⟨.xappID, .reject, .xappID xappId.toNat⟩ :: nodes

theorem encE42SetupResponse_eq_some {sr : E42SetupResponse} {pdu : E2apPdu} :
    e2apMsgEnc (.e42SetupResponse sr) = some pdu ↔ sr.nodes ≠ [] ∧
      ∃ nodes, sr.nodes.mapM encE2nodeConnected = some nodes ∧
        e42SetupResponsePdu sr.xappId nodes = pdu := by
  have hpos : 0 < sr.nodes.length ↔ sr.nodes ≠ [] := List.length_pos_iff
  refine assert_bind_eq_some.trans (and_congr hpos (Option.bind_eq_some_iff.trans ?_))
  exact exists_congr fun nodes => and_congr_right fun _ => Option.some_inj

theorem decE42SetupResponse_eq (xappId : UInt16) (nodes : List Ie) :
    e2apMsgDec (e42SetupResponsePdu xappId nodes) =
      (nodes.mapM decE2nodeConnected).map fun l =>
        .e42SetupResponse ⟨xappId, l.take (nodes.length % 256)⟩ := by
  simp [e42SetupResponsePdu, e2apMsgDec, decE42SetupResponse, decXappId, Option.map_eq_bind]

/-- A response comes back as it was sent exactly if it has nodes, no more than its count can tell,
and each of them is read as it was. -/
theorem e42SetupResponse_roundTrips_iff {sr : E42SetupResponse} :
    RoundTrips e2apMsgEnc e2apMsgDec (.e42SetupResponse sr) ↔
      sr.nodes ≠ [] ∧ sr.nodes.length < 256 ∧ ∀ node ∈ sr.nodes, node.Kept := by
  have hnodes : RoundTrips (List.mapM encE2nodeConnected) (List.mapM decE2nodeConnected) sr.nodes ↔
      ∀ node ∈ sr.nodes, node.Kept :=
    roundTrips_mapM_iff.trans (forall₂_congr fun _ _ => roundTrips_e2nodeConnected_iff)
  rw [← hnodes]
  constructor
  · intro hround
    obtain ⟨pdu, henc, hdec⟩ := Option.bind_eq_some_iff.1 hround
    obtain ⟨hne, nodes, hnodes, rfl⟩ := encE42SetupResponse_eq_some.1 henc
    rw [decE42SetupResponse_eq] at hdec
    obtain ⟨l, hl, hsame⟩ := Option.map_eq_some_iff.1 hdec
    -- the nodes that are read are cut to the count, so the count is that of the nodes
    have htake : l.take (nodes.length % 256) = sr.nodes :=
      congrArg E42SetupResponse.nodes (E2apMsg.e42SetupResponse.inj hsame)
    have hlength := congrArg List.length htake
    rw [List.length_take, length_of_mapM hl, length_of_mapM hnodes] at hlength
    have hlt : sr.nodes.length % 256 < 256 := Nat.mod_lt _ (by decide)
    refine ⟨hne, by omega, (roundTrips_iff hnodes).2 ?_⟩
    rw [hl, ← htake, List.take_of_length_le]
    rw [length_of_mapM hl, length_of_mapM hnodes]
    omega
  · rintro ⟨hne, hlt, hround⟩
    obtain ⟨nodes, hnodes, hdec⟩ := Option.bind_eq_some_iff.1 hround
    refine (roundTrips_iff (encE42SetupResponse_eq_some.2 ⟨hne, nodes, hnodes, rfl⟩)).2 ?_
    rw [decE42SetupResponse_eq, hdec, length_of_mapM hnodes, Nat.mod_eq_of_lt hlt, Option.map_some,
      List.take_length]

end Ap

/-! ## The iApp's answer -/

namespace Iapp

/-- What `e2_event_loop_iapp` does with an E42 setup request that came from `src`: the response is
generated, the address of the xApp registered, and the response encoded. -/
def answerE42Setup (iapp : Iapp) (req : E42SetupRequest) (src : SctpInfo) :
    Option (Asn.E2apPdu × Iapp) := do
  let (resp, iapp) ← iapp.e2apHandleE42SetupRequestIapp req
  let iapp ← iapp.addMapXappsSad resp.xappId src
  let pdu ← Ap.e2apMsgEnc (.e42SetupResponse resp)
  some (pdu, iapp)

/-- The request is answered: no assertion fails, and what the xApp's decoder makes of the PDU is the
id under which the iApp has registered the xApp, and the array of the E2 nodes of the registry. -/
def Answers (iapp : Iapp) (req : E42SetupRequest) (src : SctpInfo) : Prop :=
  ∃ pdu iapp' resp, iapp.answerE42Setup req src = some (pdu, iapp') ∧
    Ap.e2apMsgDec pdu = some (.e42SetupResponse resp) ∧
    (resp.xappId = iapp.xappId.toUInt16 ∧ iapp'.findMapXappsSad resp.xappId = some src) ∧
    iapp.e2Nodes.generateE2NodeArr = some resp.nodes ∧
    resp.nodes.Perm (iapp.e2Nodes.nodeToRf.toList.map fun e => ⟨e.1, e.2⟩)

/-- The states in which the iApp can answer. -/
structure CanAnswer (iapp : Iapp) : Prop where
  /-- an E2 node has set up -/
  nonempty : iapp.e2Nodes.nodeToRf.toList ≠ []
  /-- their number is a `uint8_t` -/
  short : iapp.e2Nodes.nodeToRf.toList.length < 256
  /-- they survive the coding -/
  kept : ∀ e ∈ iapp.e2Nodes.nodeToRf.toList, E2NodeConnected.Kept ⟨e.1, e.2⟩
  /-- there is an xApp id left -/
  ids : iapp.xappId.toNat < 7 + 65536

/-- No xApp has the next id exactly if the iApp has not given out all of them. -/
theorem fresh_iff {s : RicState} (h : s.XappInv) :
    (∀ e ∈ s.iapp.xapps.toList, e.1 ≠ s.iapp.xappId.toUInt16) ↔
      s.iapp.xappId.toNat < 7 + 65536 := by
  have hassigned : (∀ e ∈ s.iapp.xapps.toList, e.1 ≠ s.iapp.xappId.toUInt16) ↔
      s.iapp.xappId.toUInt16 ∉ s.assigned := by
    rw [h.mem]
    simp only [not_exists, not_and, ne_eq]
  rw [hassigned, h.range, UInt32.toNat_toUInt16, h.next]
  omega

/-- The answer is the response, registered and encoded. -/
theorem answerE42Setup_eq_some {iapp iapp' : Iapp} {req : E42SetupRequest} {src : SctpInfo}
    {pdu : Asn.E2apPdu} (hreq : req.ranFuncItem ≠ []) :
    iapp.answerE42Setup req src = some (pdu, iapp') ↔
      ((∀ e ∈ iapp.xapps.toList, e.1 ≠ iapp.xappId.toUInt16) ∧ iapp' = { iapp with
        xappId := iapp.xappId + 1
        xapps := iapp.xapps.insert cmpUInt16 iapp.xappId.toUInt16 src }) ∧
      ∃ nodes, iapp.e2Nodes.generateE2NodeArr = some nodes ∧
        Ap.e2apMsgEnc (.e42SetupResponse ⟨iapp.xappId.toUInt16, nodes⟩) = some pdu := by
  have hgen : iapp.e2apHandleE42SetupRequestIapp req = iapp.e2Nodes.generateE2NodeArr.map
      fun nodes => (⟨iapp.xappId.toUInt16, nodes⟩, { iapp with xappId := iapp.xappId + 1 }) :=
    if_neg hreq
  rw [answerE42Setup, hgen]
  constructor
  · intro h
    obtain ⟨⟨resp, i₁⟩, hresp, h⟩ := Option.bind_eq_some_iff.1 h
    obtain ⟨nodes, hnodes, heq⟩ := Option.map_eq_some_iff.1 hresp
    cases heq
    obtain ⟨i₂, hadd, h⟩ := Option.bind_eq_some_iff.1 h
    obtain ⟨p, henc, h⟩ := Option.bind_eq_some_iff.1 h
    cases h
    exact ⟨addMapXappsSad_eq_some.1 hadd, nodes, hnodes, henc⟩
  · rintro ⟨hadd, nodes, hnodes, henc⟩
    rw [hnodes]
    refine Option.bind_eq_some_iff.2 ⟨_, rfl, Option.bind_eq_some_iff.2 ⟨iapp', ?_, ?_⟩⟩
    · exact addMapXappsSad_eq_some.2 hadd
    · exact Option.bind_eq_some_iff.2 ⟨pdu, henc, rfl⟩

/-- What is answered is a step of the two threads, which ask less of the nodes. -/
theorem setupXapp_of_answer {iapp iapp' : Iapp} {req : E42SetupRequest} {src : SctpInfo}
    {pdu : Asn.E2apPdu} (hreq : req.ranFuncItem ≠ [])
    (h : iapp.answerE42Setup req src = some (pdu, iapp')) :
    ∃ resp, iapp.setupXapp req src = some (resp, iapp') := by
  obtain ⟨⟨hfresh, rfl⟩, nodes, hgen, henc⟩ := (answerE42Setup_eq_some hreq).1 h
  obtain ⟨hne, ies, hies, -⟩ := Ap.encE42SetupResponse_eq_some.1 henc
  have hencodable : encodableE42SetupResponse ⟨iapp.xappId.toUInt16, nodes⟩ := by
    have htypes : ∀ node ∈ nodes, ((node.id.type = .gNB ∨ node.id.type = .gNBCU) ∨
        node.id.type = .gNBDU) ∨ node.id.type = .eNB := by
      intro node hnode
      apply Ap.type_of_encE2nodeConnected
      exact mapM_isSome_iff.1 (by rw [hies, Option.isSome_some]) node hnode
    simpa [encodableE42SetupResponse] using ⟨hne, htypes⟩
  exact ⟨_, setupXapp_eq_some.2 ⟨⟨rfl, hfresh, rfl⟩, hreq, hgen, hencodable⟩⟩

end Iapp

namespace RicState

/-- In whatever order E2 nodes and xApps have come so far, an xApp is answered exactly if there is
an E2 node, their count can tell how many there are, all of them survive the coding, and an xApp id
is left. -/
theorem answers_iff {epFd : Fd} {plugin : List SmRic} {s : RicState}
    (h : (threads epFd plugin).Reachable s) {req : E42SetupRequest}
    (hreq : req.ranFuncItem ≠ []) (src : SctpInfo) :
    s.iapp.Answers req src ↔ s.iapp.CanAnswer := by
  have hfresh := Iapp.fresh_iff (xappInv_reachable h)
  constructor
  · rintro ⟨pdu, iapp', ⟨id, nodes⟩, hans, hdec, ⟨rfl, -⟩, hgen, hperm⟩
    obtain ⟨⟨hnew, -⟩, nodes', hgen', henc⟩ := (Iapp.answerE42Setup_eq_some hreq).1 hans
    obtain rfl := Option.some.inj (hgen'.symm.trans hgen)
    obtain ⟨hne, hshort, hkept⟩ :=
      Ap.e42SetupResponse_roundTrips_iff.1 ((roundTrips_iff henc).2 hdec)
    dsimp only at hne hshort hkept hperm
    refine ⟨?_, ?_, ?_, hfresh.1 hnew⟩
    · intro hnil
      rw [hnil, List.map_nil] at hperm
      exact hne hperm.eq_nil
    · rw [hperm.length_eq, List.length_map] at hshort
      exact hshort
    · intro e he
      exact hkept _ (hperm.mem_iff.2 (List.mem_map_of_mem he))
  · rintro ⟨hne, hshort, hkept, hids⟩
    obtain ⟨nodes, hgen⟩ : ∃ nodes, s.iapp.e2Nodes.generateE2NodeArr = some nodes :=
      ⟨_, RegE2Nodes.generateE2NodeArr_eq_some.2 ⟨hshort, rfl⟩⟩
    have hperm := RegE2Nodes.perm_generateE2NodeArr hgen
    have hround : RoundTrips Ap.e2apMsgEnc Ap.e2apMsgDec
        (.e42SetupResponse ⟨s.iapp.xappId.toUInt16, nodes⟩) := by
      apply Ap.e42SetupResponse_roundTrips_iff.2
      refine ⟨?_, ?_, ?_⟩
      · rintro rfl
        exact hne (List.map_eq_nil_iff.1 hperm.nil_eq.symm)
      · rw [hperm.length_eq, List.length_map]
        exact hshort
      · intro node hnode
        obtain ⟨e, he, rfl⟩ := List.mem_map.1 (hperm.mem_iff.1 hnode)
        exact hkept e he
    obtain ⟨pdu, henc, hdec⟩ := Option.bind_eq_some_iff.1 hround
    refine ⟨pdu, _, _, (Iapp.answerE42Setup_eq_some hreq).2
      ⟨⟨hfresh.2 hids, rfl⟩, nodes, hgen, henc⟩, hdec, ⟨rfl, ?_⟩, hgen, hperm⟩
    exact Iapp.findMapXappsSad_insert (hfresh.2 hids) _

/-- An xApp that comes after the E2 node is answered. -/
theorem answers_registered : Sample.registered.iapp.Answers ⟨[Sample.rf]⟩ Sample.xappAddr := by
  have hrun : Sample.ric.Run [(.init 3 [Sample.sm], .e2SetupRequest ⟨Sample.node, [Sample.rf]⟩
      Sample.nodeAddr)] Sample.registered := threads_cons .nil rfl rfl
  have hnodes : Sample.registered.iapp.e2Nodes.nodeToRf.toList = [(Sample.node, [Sample.rf])] := rfl
  refine (answers_iff ⟨_, hrun⟩ (List.cons_ne_nil _ _) _).2 ⟨?_, ?_, ?_, by decide⟩
  · rw [hnodes]
    exact List.cons_ne_nil _ _
  · rw [hnodes]
    decide
  · rw [hnodes]
    refine List.forall_mem_singleton.2 ⟨⟨⟨by decide, by decide⟩, by decide⟩, ?_⟩
    exact List.forall_mem_singleton.2 ⟨by decide, by decide⟩

/-- An xApp that comes before the first E2 node gets a response without nodes, which the encoder
refuses and the decoder would read. -/
theorem not_answers_init : Sample.ric.Reachable (.init 3 [Sample.sm]) ∧
    (∃ iapp', (Iapp.init).e2apHandleE42SetupRequestIapp ⟨[Sample.rf]⟩ = some (⟨7, []⟩, iapp')) ∧
    Ap.e2apMsgEnc (.e42SetupResponse ⟨7, []⟩) = none ∧
    Ap.e2apMsgDec (Ap.e42SetupResponsePdu 7 []) = some (.e42SetupResponse ⟨7, []⟩) ∧
    ¬(init 3 [Sample.sm]).iapp.Answers ⟨[Sample.rf]⟩ Sample.xappAddr := by
  refine ⟨.init, ⟨_, rfl⟩, rfl, by decide, ?_⟩
  rintro ⟨pdu, iapp', resp, hans, -⟩
  cases hans

end RicState

end FlexRic
