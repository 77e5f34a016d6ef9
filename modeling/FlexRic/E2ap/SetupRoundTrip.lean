import FlexRic.E2ap.RoundTrip

/-!
# Round trips of the E2 setup

The lists of a setup message are IEs of their own, which the encoders leave out for the empty list
and the decoders read from the last one on. What a list has to be for its decoder is worked out
first, and the messages are put together from it.
-/

namespace FlexRic.Ap

open Asn (Ie E2apPdu ProtocolIeField)

/-! ## Lists that are read from the last one on -/

section Walk

variable {A A' B B' S : Type} {g : S → Ie → Option S}

theorem reverse_encList (ie : List B → Ie) (l : List B) :
    (encList ie l).reverse = encList ie l := by
  by_cases h : l = [] <;> simp [encList, h]

theorem length_encList_le (ie : List B → Ie) (l : List B) : (encList ie l).length ≤ 1 := by
  by_cases h : l = [] <;> simp [encList, h]

/-- A list that is left out is read as the empty one. -/
theorem foldlM_encList {ie : List B → Ie} (dec : List B → Option (List A)) (l : List B)
    (f : List A → S) (hnil : dec [] = some []) (hstep : ∀ l, g (f []) (ie l) = (dec l).map f) :
    (encList ie l).foldlM g (f []) = (dec l).map f := by
  by_cases h : l = []
  · subst h
    simp [encList, hnil]
  · simp [encList, h, hstep]

variable {ie : List B → Ie} {ie' : List B' → Ie}

/-- There are at most two lists. -/
theorem length_encLists_lt (l : List B) (l' : List B') :
    (encList ie l ++ encList ie' l').length < 3 := by
  have h := length_encList_le ie l
  have h' := length_encList_le ie' l'
  rw [List.length_append]
  omega

/-- The second list is read first, and then the first one. -/
theorem foldlM_reverse_encLists (dec : List B → Option (List A)) (dec' : List B' → Option (List A'))
    (l : List B) (l' : List B') (f : List A → List A' → S) (hnil : dec [] = some [])
    (hnil' : dec' [] = some []) (hstep : ∀ a' l, g (f [] a') (ie l) = (dec l).map (f · a'))
    (hstep' : ∀ l', g (f [] []) (ie' l') = (dec' l').map (f [])) :
    (encList ie l ++ encList ie' l').reverse.foldlM g (f [] []) =
      (dec' l').bind fun a' => (dec l).map (f · a') := by
  rw [List.reverse_append, reverse_encList, reverse_encList, List.foldlM_append,
    foldlM_encList dec' l' (f []) hnil' hstep']
  cases dec' l' with
  | none => rfl
  | some a' => exact foldlM_encList dec l (f · a') hnil (hstep a')

end Walk

/-! ## Setup requests -/

theorem decRanFunction_encRanFunction {rf : RanFunction} (hid : rf.id.toNat < 4096)
    (hrev : rf.rev.toNat < 4096) :
    decRanFunction ⟨.ranFunctionItem, .reject, encRanFunction rf⟩ = some rf := by
  have hid' : rf.id.toNat ≤ Asn.maxRanFuncId := hid.le
  have hrev' : rf.rev.toNat ≤ Asn.maxRanFuncRev := hrev.le
  simp [decRanFunction, encRanFunction, hid', hrev']

/-- The configuration of an eNB, which is sent with the tag of an ng-eNB. -/
def E2NodeComponentConfig.IsEnb : E2NodeComponentConfig → Prop
  | .enb _ _ => True
  | _ => False

theorem encComponentConfig_isSome_iff {c : E2NodeComponentConfig} :
    (encComponentConfig c).isSome ↔ c ≠ .nothing := by
  cases c <;> simp [encComponentConfig]

/-- Every configuration but that of an eNB is read as it was. -/
theorem roundTrips_componentConfig_iff {c : E2NodeComponentConfig} (h : c ≠ .nothing) :
    RoundTrips encComponentConfig decComponentConfig c ↔ ¬c.IsEnb := by
  cases c with
  | nothing => exact absurd rfl h
  | _ => simp [RoundTrips, encComponentConfig, decComponentConfig, E2NodeComponentConfig.IsEnb]

theorem decComponentId_encComponentId (id : E2NodeComponentId) :
    decComponentId (encComponentId id) = id := by
  cases id <;> simp [encComponentId, decComponentId, decInteger]

theorem encComponentConfUpdate_isSome_iff {u : E2NodeComponentConfigUpdate} :
    (encComponentConfUpdate u).isSome ↔ u.update ≠ .nothing := by
  simp [encComponentConfUpdate, encComponentConfig_isSome_iff]

theorem roundTrips_componentConfUpdate_iff {u : E2NodeComponentConfigUpdate}
    (h : u.update ≠ .nothing) :
    RoundTrips encComponentConfUpdate decComponentConfUpdate u ↔ ¬u.update.IsEnb := by
  rw [← roundTrips_componentConfig_iff h]
  obtain ⟨config, hconfig⟩ := Option.isSome_iff_exists.1 (encComponentConfig_isSome_iff.2 h)
  rw [roundTrips_iff hconfig]
  obtain ⟨type, id, update⟩ := u
  have hid : Option.map (decComponentId ∘ encComponentId) id = id := by
    cases id <;> simp [decComponentId_encComponentId]
  dsimp only at hconfig ⊢
  simp [RoundTrips, encComponentConfUpdate, decComponentConfUpdate, hconfig, hid,
    Option.bind_eq_some_iff]

/-- A setup request that the encoder accepts, with ids and revisions in the range of ASN.1. -/
structure E2SetupRequest.Encodable (sr : E2SetupRequest) : Prop where
  id : sr.id.Supported
  length : sr.ranFuncItem.length ≤ 256
  ranFunc : ∀ rf ∈ sr.ranFuncItem, rf.id.toNat < 4096 ∧ rf.rev.toNat < 4096
  update : ∀ u ∈ sr.compConfUpdate, u.update ≠ .nothing

/-- What a setup request has to be for its decoder. -/
structure E2SetupRequest.Kept (sr : E2SetupRequest) : Prop where
  ranFunc : sr.ranFuncItem.length < 256
  component : sr.compConfUpdate.length < 1024
  update : ∀ u ∈ sr.compConfUpdate, ¬u.update.IsEnb

/-- The two lists of a setup request are read from the last one on. -/
theorem setupRequest_walk (id : GlobalE2NodeId)
    (ranFunctions : List (ProtocolIeField Asn.RanFunctionItem))
    (compUpdates : List (ProtocolIeField Asn.E2nodeComponentConfigUpdateItem)) :
    (encList (fun l => ⟨.ranFunctionsAdded, .reject, .ranFunctionsList l⟩) ranFunctions ++
        encList (fun l => ⟨.e2nodeComponentConfigUpdate, .reject,
          .e2nodeComponentConfigUpdateList l⟩) compUpdates).reverse.foldlM decSetupRequestIe
        ⟨id, [], []⟩ =
      (decComponentConfUpdates compUpdates).bind fun c =>
        (decRanFunctions ranFunctions).map fun r => ⟨id, r, c⟩ := by
  apply foldlM_reverse_encLists decRanFunctions decComponentConfUpdates ranFunctions compUpdates
    (fun r c => (⟨id, r, c⟩ : E2SetupRequest)) rfl rfl
  · intro c l
    simp [decSetupRequestIe, Option.map_eq_bind]
  · intro l
    simp [decSetupRequestIe, Option.map_eq_bind]

/-- What the decoder makes of a setup request, by its parts. -/
theorem decSetupRequest_eq {node : Asn.GlobalE2nodeId} {id : GlobalE2NodeId}
    (hnode : decGlobalE2nodeId node = some id)
    (ranFunctions : List (ProtocolIeField Asn.RanFunctionItem))
    (compUpdates : List (ProtocolIeField Asn.E2nodeComponentConfigUpdateItem)) :
    e2apMsgDec ⟨.initiatingMessage, .e2setup, .reject, .e2setupRequest,
        ⟨.globalE2nodeID, .reject, .globalE2nodeID node⟩ ::
          (encList (fun l => ⟨.ranFunctionsAdded, .reject, .ranFunctionsList l⟩) ranFunctions ++
          encList (fun l => ⟨.e2nodeComponentConfigUpdate, .reject,
            .e2nodeComponentConfigUpdateList l⟩) compUpdates)⟩ =
      (decComponentConfUpdates compUpdates).bind fun c =>
        (decRanFunctions ranFunctions).map fun r => .e2SetupRequest ⟨id, r, c⟩ := by
  simp only [e2apMsgDec, decSetupRequest, decGlobalE2nodeIe, hnode, assert_true,
    assert_of (length_encLists_lt ranFunctions compUpdates), setupRequest_walk,
    Option.bind_eq_bind, Option.bind_some, Option.bind_assoc, Option.map_eq_bind,
    Function.comp_def]

theorem decRanFunctions_iff {l : List RanFunction}
    (h : ∀ rf ∈ l, rf.id.toNat < 4096 ∧ rf.rev.toNat < 4096) :
    decRanFunctions (l.map fun rf => ⟨.ranFunctionItem, .reject, encRanFunction rf⟩) = some l ↔
      l.length < 256 := by
  have hitems : (l.map fun rf => ⟨.ranFunctionItem, .reject, encRanFunction rf⟩).mapM
      decRanFunction = some l :=
    mapM_map_iff.2 fun rf hrf => decRanFunction_encRanFunction (h rf hrf).1 (h rf hrf).2
  simp [decRanFunctions, hitems, Asn.maxNumRanFuncId]

theorem decComponentConfUpdates_iff {l : List E2NodeComponentConfigUpdate}
    {items : List (ProtocolIeField Asn.E2nodeComponentConfigUpdateItem)}
    (h : ∀ u ∈ l, u.update ≠ .nothing) (hitems : l.mapM encComponentConfUpdate = some items) :
    decComponentConfUpdates items = some l ↔ l.length < 1024 ∧ ∀ u ∈ l, ¬u.update.IsEnb := by
  have hcount : items.length = l.length := length_of_mapM hitems
  have hiff : items.mapM decComponentConfUpdate = some l ↔ ∀ u ∈ l, ¬u.update.IsEnb :=
    (mapM_roundTrips_iff hitems).trans
      (forall₂_congr fun u hu => roundTrips_componentConfUpdate_iff (h u hu))
  simp [decComponentConfUpdates, hcount, hiff, Asn.maxNumE2NodeComponents]

/-- What is sent for a setup request. -/
theorem E2SetupRequest.Encodable.encSetupRequest {sr : E2SetupRequest} (h : sr.Encodable) :
    ∃ node items, decGlobalE2nodeId node = some sr.id ∧
      sr.compConfUpdate.mapM encComponentConfUpdate = some items ∧
      e2apMsgEnc (.e2SetupRequest sr) = some ⟨.initiatingMessage, .e2setup, .reject,
        .e2setupRequest, ⟨.globalE2nodeID, .reject, .globalE2nodeID node⟩ ::
          (encList (fun l => ⟨.ranFunctionsAdded, .reject, .ranFunctionsList l⟩)
            (sr.ranFuncItem.map fun rf => ⟨.ranFunctionItem, .reject, encRanFunction rf⟩) ++
          encList (fun l => ⟨.e2nodeComponentConfigUpdate, .reject,
            .e2nodeComponentConfigUpdateList l⟩) items)⟩ := by
  obtain ⟨node, hnode, hdec⟩ := Option.bind_eq_some_iff.1 (roundTrips_globalE2nodeId h.id)
  obtain ⟨items, hitems⟩ := Option.isSome_iff_exists.1
    (mapM_isSome_iff.2 fun u hu => encComponentConfUpdate_isSome_iff.2 (h.update u hu))
  have hbound : sr.ranFuncItem.length ≤ Asn.maxNumRanFuncId := h.length
  refine ⟨node, items, hdec, hitems, ?_⟩
  simp only [e2apMsgEnc, Ap.encSetupRequest, assert_of hbound, hnode, hitems, Option.bind_eq_bind,
    Option.bind_some]

/-- A setup request comes back as it was sent exactly if it is kept. -/
theorem setupRequest_roundTrips_iff {sr : E2SetupRequest} (h : sr.Encodable) :
    RoundTrips e2apMsgEnc e2apMsgDec (.e2SetupRequest sr) ↔ sr.Kept := by
  obtain ⟨node, items, hnode, hitems, henc⟩ := h.encSetupRequest
  have hkept : sr.Kept ↔ (sr.compConfUpdate.length < 1024 ∧
      ∀ u ∈ sr.compConfUpdate, ¬u.update.IsEnb) ∧ sr.ranFuncItem.length < 256 :=
    ⟨fun h => ⟨⟨h.component, h.update⟩, h.ranFunc⟩, fun h => ⟨h.2, h.1.1, h.1.2⟩⟩
  rw [hkept, ← decComponentConfUpdates_iff h.update hitems, ← decRanFunctions_iff h.ranFunc,
    roundTrips_iff henc, decSetupRequest_eq hnode]
  obtain ⟨id, ranFuncItem, compConfUpdate⟩ := sr
  simp [Option.bind_eq_some_iff]

/-- A request with one RAN function and one component. -/
def componentRequest (id : GlobalE2NodeId) (update : E2NodeComponentConfig) : E2SetupRequest where
  id := id
  ranFuncItem := [⟨[1, 2], 147, 1, some [3]⟩]
  compConfUpdate := [⟨.gnbDu, some (.gnbDu 255), update⟩]

theorem encodable_componentRequest {id : GlobalE2NodeId} {update : E2NodeComponentConfig}
    (hid : id.Supported) (hupdate : update ≠ .nothing) :
    (componentRequest id update).Encodable where
  id := hid
  length := by simp [componentRequest]
  ranFunc := by simp [componentRequest]
  update := by simpa [componentRequest] using hupdate

theorem supported_du : GlobalE2NodeId.Supported ⟨.gNBDU, ⟨310, 410, 3⟩, 7, some 9⟩ :=
  ⟨⟨by decide, by decide⟩, .inl ⟨.inr ⟨.inr rfl, rfl⟩, by decide⟩⟩

theorem componentRequest_gnb_roundTrips :
    RoundTrips e2apMsgEnc e2apMsgDec (.e2SetupRequest
      (componentRequest ⟨.gNBDU, ⟨310, 410, 3⟩, 7, some 9⟩ (.gnb none none none (some [5])))) := by
  have hupdate : E2NodeComponentConfig.gnb none none none (some [5]) ≠ .nothing := by simp
  have h := encodable_componentRequest supported_du hupdate
  apply (setupRequest_roundTrips_iff h).2
  exact ⟨by decide, by decide, by simp [componentRequest, E2NodeComponentConfig.IsEnb]⟩

/-- The configuration of an eNB comes back as that of an ng-eNB. -/
theorem componentRequest_enb :
    (componentRequest ⟨.eNB, ⟨310, 410, 3⟩, 7, none⟩ (.enb (some [5]) none)).Encodable ∧
      (e2apMsgEnc (.e2SetupRequest (componentRequest ⟨.eNB, ⟨310, 410, 3⟩, 7, none⟩
        (.enb (some [5]) none)))).bind e2apMsgDec = some (.e2SetupRequest (componentRequest
          ⟨.eNB, ⟨310, 410, 3⟩, 7, none⟩ (.ngEnb (some [5]) none))) ∧
      ¬RoundTrips e2apMsgEnc e2apMsgDec (.e2SetupRequest
        (componentRequest ⟨.eNB, ⟨310, 410, 3⟩, 7, none⟩ (.enb (some [5]) none))) := by
  have hid : GlobalE2NodeId.Supported ⟨.eNB, ⟨310, 410, 3⟩, 7, none⟩ :=
    ⟨⟨by decide, by decide⟩, .inr ⟨rfl, rfl, by decide⟩⟩
  exact ⟨encodable_componentRequest hid (by simp), by decide, by decide⟩

/-! ## Setup responses and failures -/

theorem decAccepted_iff {id : UInt16} :
    decAccepted ⟨.ranFunctionIDItem, .ignore, id.toNat⟩ = some id ↔ id.toNat < 4096 := by
  change _ ↔ id.toNat < Asn.maxRanFuncId
  simp [decAccepted]

theorem encRejected_isSome_iff {r : RejectedRanFunction} :
    (encRejected r).isSome ↔ r.cause ≠ .nothing := by
  simp [encRejected, encCause_isSome_iff]

theorem roundTrips_rejected_iff {r : RejectedRanFunction} (h : r.cause ≠ .nothing) :
    RoundTrips encRejected decRejected r ↔ r.id.toNat < 4096 := by
  obtain ⟨c, hc⟩ := Option.isSome_iff_exists.1 (encCause_isSome_iff.2 h)
  have hdec := decCause_of_encCause r.cause c hc
  change _ ↔ r.id.toNat < Asn.maxRanFuncId
  simp [RoundTrips, encRejected, decRejected, hc, hdec]

/-- The two lists of a setup response are read from the last one on. -/
theorem setupResponse_walk (id : GlobalRicId) (accepted : List (ProtocolIeField ℕ))
    (rejected : List (ProtocolIeField Asn.RanFunctionIDcauseItem)) :
    (encList (fun l => ⟨.ranFunctionsAccepted, .reject, .ranFunctionsIDList l⟩) accepted ++
        encList (fun l => ⟨.ranFunctionsRejected, .reject, .ranFunctionsIDcauseList l⟩)
          rejected).reverse.foldlM decSetupResponseIe ⟨id, [], [], []⟩ =
      (rejected.mapM decRejected).bind fun r =>
        (decAcceptedList accepted).map fun a => ⟨id, a, r, []⟩ := by
  apply foldlM_reverse_encLists decAcceptedList (List.mapM decRejected) accepted rejected
    (fun a r => (⟨id, a, r, []⟩ : E2SetupResponse)) rfl rfl
  · intro r l
    simp [decSetupResponseIe, Option.map_eq_bind]
  · intro l
    simp [decSetupResponseIe, Option.map_eq_bind]

/-- What the decoder makes of a setup response, by its parts. -/
theorem decSetupResponse_eq (id : GlobalRicId) (hric : id.nearRicId.toNat < 2 ^ 20)
    (accepted : List (ProtocolIeField ℕ))
    (rejected : List (ProtocolIeField Asn.RanFunctionIDcauseItem)) :
    e2apMsgDec ⟨.successfulOutcome, .e2setup, .reject, .e2setupResponse,
        ⟨.globalRicID, .reject, .globalRicID (Asn.mccMncToPlmnId id.plmn)
          (Asn.macroEnbIdToBitString id.nearRicId)⟩ ::
          (encList (fun l => ⟨.ranFunctionsAccepted, .reject, .ranFunctionsIDList l⟩) accepted ++
          encList (fun l => ⟨.ranFunctionsRejected, .reject, .ranFunctionsIDcauseList l⟩)
            rejected)⟩ =
      (Asn.plmnIdToMccMnc (Asn.mccMncToPlmnId id.plmn)).bind fun plmn =>
        (rejected.mapM decRejected).bind fun r =>
          (decAcceptedList accepted).map fun a =>
            .e2SetupResponse ⟨⟨plmn, id.nearRicId⟩, a, r, []⟩ := by
  simp only [e2apMsgDec, decSetupResponse, assert_true,
    assert_of (length_encLists_lt accepted rejected), setupResponse_walk,
    Asn.bitStringToMacroEnbId_of_lt hric, Option.bind_eq_bind, Option.bind_some,
    Option.bind_assoc, Option.map_eq_bind, Function.comp_def]

theorem decAcceptedList_iff {l : List UInt16} :
    decAcceptedList (l.map fun id => ⟨.ranFunctionIDItem, .ignore, id.toNat⟩) = some l ↔
      l.length < 256 ∧ ∀ id ∈ l, id.toNat < 4096 := by
  have hiff : (l.map fun id => ⟨.ranFunctionIDItem, .ignore, id.toNat⟩).mapM decAccepted =
      some l ↔ ∀ id ∈ l, id.toNat < 4096 :=
    mapM_map_iff.trans (forall₂_congr fun id _ => decAccepted_iff)
  rw [← hiff, ← List.length_map (f := fun id : UInt16 =>
    (⟨.ranFunctionIDItem, .ignore, id.toNat⟩ : ProtocolIeField ℕ))]
  exact assert_bind_eq_some

/-- What is sent for a setup response. -/
theorem encSetupResponse_eq {sr : E2SetupResponse} (haccepted : sr.accepted.length ≤ 256)
    (hrejected : sr.rejected.length ≤ 256) (hcause : ∀ r ∈ sr.rejected, r.cause ≠ .nothing)
    (hack : sr.compConfUpdateAckList = []) :
    ∃ items, sr.rejected.mapM encRejected = some items ∧
      e2apMsgEnc (.e2SetupResponse sr) = some ⟨.successfulOutcome, .e2setup, .reject,
        .e2setupResponse, ⟨.globalRicID, .reject, .globalRicID (Asn.mccMncToPlmnId sr.id.plmn)
          (Asn.macroEnbIdToBitString sr.id.nearRicId)⟩ ::
          (encList (fun l => ⟨.ranFunctionsAccepted, .reject, .ranFunctionsIDList l⟩)
            (sr.accepted.map fun id => ⟨.ranFunctionIDItem, .ignore, id.toNat⟩) ++
          encList (fun l => ⟨.ranFunctionsRejected, .reject, .ranFunctionsIDcauseList l⟩)
            items)⟩ := by
  obtain ⟨items, hitems⟩ := Option.isSome_iff_exists.1
    (mapM_isSome_iff.2 fun r hr => encRejected_isSome_iff.2 (hcause r hr))
  have hbound₁ : sr.accepted.length ≤ Asn.maxNumRanFuncId := haccepted
  have hbound₂ : sr.rejected.length ≤ Asn.maxNumRanFuncId := hrejected
  have hbound₃ : sr.compConfUpdateAckList.length ≤ Asn.maxNumE2NodeComponents := by simp [hack]
  refine ⟨items, hitems, ?_⟩
  simp only [e2apMsgEnc, encSetupResponse, assert_of hbound₁, assert_of hbound₂,
    assert_of hbound₃, assert_of hack, hitems, Option.bind_eq_bind, Option.bind_some]

theorem setupResponse_roundTrips_iff {sr : E2SetupResponse} (hric : sr.id.nearRicId.toNat < 2 ^ 20)
    (haccepted : sr.accepted.length ≤ 256) (hrejected : sr.rejected.length ≤ 256)
    (hcause : ∀ r ∈ sr.rejected, r.cause ≠ .nothing) (hack : sr.compConfUpdateAckList = []) :
    RoundTrips e2apMsgEnc e2apMsgDec (.e2SetupResponse sr) ↔
      sr.id.plmn.Fits ∧ (∀ r ∈ sr.rejected, r.id.toNat < 4096) ∧ sr.accepted.length < 256 ∧
        ∀ id ∈ sr.accepted, id.toNat < 4096 := by
  obtain ⟨items, hitems, henc⟩ := encSetupResponse_eq haccepted hrejected hcause hack
  have hdecRejected : items.mapM decRejected = some sr.rejected ↔
      ∀ r ∈ sr.rejected, r.id.toNat < 4096 :=
    (mapM_roundTrips_iff hitems).trans
      (forall₂_congr fun r hr => roundTrips_rejected_iff (hcause r hr))
  rw [← Asn.plmnIdToMccMnc_mccMncToPlmnId_iff, ← hdecRejected, ← decAcceptedList_iff,
    roundTrips_iff henc, decSetupResponse_eq sr.id hric]
  obtain ⟨id, accepted, rejected, acks⟩ := sr
  obtain rfl := hack
  obtain ⟨plmn, nearRicId⟩ := id
  simp [Option.bind_eq_some_iff]

theorem decTlInfo_encTlInfo (t : TransportLayerInformation) :
    decTlInfo (encTlInfo t) = some t := by
  obtain ⟨address, _ | port⟩ := t <;> simp [encTlInfo, decTlInfo, copyBaToBitString, copyBsToBa]

theorem setupFailure_roundTrips {sf : E2SetupFailure} (hcause : sf.cause ≠ .nothing)
    (hdiag : sf.critDiag = none) :
    RoundTrips e2apMsgEnc e2apMsgDec (.e2SetupFailure sf) := by
  obtain ⟨cause, timeToWaitMs, critDiag, tlInfo⟩ := sf
  dsimp only at hcause hdiag
  subst hdiag
  obtain ⟨c, hc⟩ := Option.isSome_iff_exists.1 (encCause_isSome_iff.2 hcause)
  have hdec := decCause_of_encCause cause c hc
  have hnone : encOptional encCritDiag none = some [] := rfl
  cases timeToWaitMs <;> cases tlInfo <;>
    simp [RoundTrips, e2apMsgEnc, encSetupFailure, hc, hnone, e2apMsgDec, decSetupFailure, hdec,
      decSetupFailureIe, decTlInfo_encTlInfo]

/-- An answer that the encoders accept, with a near-RT RIC id that fits its field. -/
def E2apMsg.SetupAnswer : E2apMsg → Prop
  | .e2SetupResponse sr =>
      sr.id.nearRicId.toNat < 2 ^ 20 ∧ sr.accepted.length ≤ 256 ∧ sr.rejected.length ≤ 256 ∧
        (∀ r ∈ sr.rejected, r.cause ≠ .nothing) ∧ sr.compConfUpdateAckList = []
  | .e2SetupFailure sf => sf.cause ≠ .nothing ∧ sf.critDiag = none
  | _ => False

/-- What a response has to be for its decoder, which takes a list of accepted functions only if it
is shorter than the longest that the encoder takes. -/
def E2apMsg.AnswerKept : E2apMsg → Prop
  | .e2SetupResponse sr =>
      sr.id.plmn.Fits ∧ (∀ r ∈ sr.rejected, r.id.toNat < 4096) ∧ sr.accepted.length < 256 ∧
        ∀ id ∈ sr.accepted, id.toNat < 4096
  | _ => True

/-- A failure comes back as it was sent, and a response exactly if it is kept. -/
theorem setupAnswer_roundTrips_iff {msg : E2apMsg} (h : msg.SetupAnswer) :
    RoundTrips e2apMsgEnc e2apMsgDec msg ↔ msg.AnswerKept := by
  cases msg with
  | e2SetupResponse sr =>
    obtain ⟨hric, haccepted, hrejected, hcause, hack⟩ := h
    exact setupResponse_roundTrips_iff hric haccepted hrejected hcause hack
  | e2SetupFailure sf =>
    obtain ⟨hcause, hdiag⟩ := h
    exact iff_of_true (setupFailure_roundTrips hcause hdiag) trivial
  | _ => exact h.elim

/-- A response that accepts the first RAN functions. -/
def acceptingResponse (n : ℕ) : E2SetupResponse where
  id := ⟨⟨1, 1, 2⟩, 7⟩
  accepted := (List.range n).map UInt16.ofNat
  rejected := []
  compConfUpdateAckList := []

theorem acceptingResponse_setupAnswer {n : ℕ} (h : n ≤ 256) :
    (E2apMsg.e2SetupResponse (acceptingResponse n)).SetupAnswer := by
  simp [E2apMsg.SetupAnswer, acceptingResponse, h]

theorem acceptingResponse_3_roundTrips :
    RoundTrips e2apMsgEnc e2apMsgDec (.e2SetupResponse (acceptingResponse 3)) := by
  apply (setupAnswer_roundTrips_iff (acceptingResponse_setupAnswer (by decide))).2
  refine ⟨⟨by decide, by decide⟩, ?_, by decide, ?_⟩
  · simp [acceptingResponse]
  · simp [acceptingResponse, List.range_succ]

/-- The longest list of accepted functions is sent and not read. -/
theorem acceptingResponse_256 :
    (E2apMsg.e2SetupResponse (acceptingResponse 256)).SetupAnswer ∧
      (e2apMsgEnc (.e2SetupResponse (acceptingResponse 256))).isSome ∧
      ¬RoundTrips e2apMsgEnc e2apMsgDec (.e2SetupResponse (acceptingResponse 256)) := by
  have h := acceptingResponse_setupAnswer (Nat.le_refl 256)
  refine ⟨h, ?_⟩
  obtain ⟨hric, haccepted, hrejected, hcause, hack⟩ := h
  constructor
  · obtain ⟨items, -, henc⟩ := encSetupResponse_eq haccepted hrejected hcause hack
    rw [henc, Option.isSome_some]
  · rw [setupResponse_roundTrips_iff hric haccepted hrejected hcause hack]
    simp [acceptingResponse]

end FlexRic.Ap
