import FlexRic.E2ap.Dec
import FlexRic.E2ap.Enc

/-!
# Round trips of the functional procedures

What the decoders make of what the encoders build, part by part: the ids, the causes, the node ids
and the optional IEs, and from these the messages. A message round trips if its encoder accepts it
and the decoder that the PDU is handed to gives it back.
-/

namespace FlexRic

/-- An E2 node ID that the encoders take over as a whole: one of the four kinds, with the
`cu_du_id` that its kind has and an id that fits its field. -/
structure GlobalE2NodeId.Supported (id : GlobalE2NodeId) : Prop where
  plmn : id.plmn.Valid
  kind : (id.type = .gNB ∧ id.cuDuId = none ∨
      (id.type = .gNBCU ∨ id.type = .gNBDU) ∧ id.cuDuId.isSome) ∧ id.nbId.toNat < 2 ^ 28 ∨
    id.type = .eNB ∧ id.cuDuId = none ∧ id.nbId.toNat < 2 ^ 20

namespace Ap

open Asn (Ie E2apPdu ProtocolIeField)

/-! ## Parts of several messages -/

/-- What the checks let through. -/
def RicGenIdChecks.Accepts (checks : RicGenIdChecks) (id : RicGenId) : Prop :=
  (checks.request → id.ricReqId.toNat < 2 ^ 16) ∧ ∀ bound ∈ checks.ranFunc,
    id.ranFuncId.toNat < bound

instance (checks : RicGenIdChecks) (id : RicGenId) : Decidable (checks.Accepts id) :=
  inferInstanceAs (Decidable (_ ∧ _))

/-- The ids are read as they were, if the checks let them through. -/
theorem decRicGenId_eq (checks : RicGenIdChecks) (id : RicGenId) :
    decRicGenId checks (encRicRequestId id) (encRanFunctionId id) =
      (assert (checks.Accepts id)).bind fun _ => some id := by
  have hinst := id.ricInstId.toNat_lt
  have hrequest : (checks.request = true → id.ricReqId.toNat < Asn.maxRicRequestId ∧
      id.ricInstId.toNat < Asn.maxRicInstanceId) ↔
      (checks.request = true → id.ricReqId.toNat < 2 ^ 16) := by
    rw [Asn.maxRicRequestId, Asn.maxRicInstanceId]
    refine imp_congr_right fun _ => ?_
    omega
  simp only [decRicGenId, encRicRequestId, encRanFunctionId, hrequest, implies_true, assert_true,
    Option.bind_eq_bind, Option.bind_some, UInt16.ofNat_toNat, UInt32.ofNat_toNat,
    assert_bind_assert]
  rfl

theorem decRicGenId_eq_some_iff {checks : RicGenIdChecks} {id id' : RicGenId} :
    decRicGenId checks (encRicRequestId id) (encRanFunctionId id) = some id' ↔
      checks.Accepts id ∧ id' = id := by
  rw [decRicGenId_eq, assert_bind_eq_some, Option.some.injEq, eq_comm (a := id)]

theorem accepts_iff {criticality request : Bool} {bound : ℕ} {id : RicGenId} :
    RicGenIdChecks.Accepts ⟨criticality, request, some bound⟩ id ↔
      (request → id.ricReqId.toNat < 2 ^ 16) ∧ id.ranFuncId.toNat < bound := by
  simp [RicGenIdChecks.Accepts]

/-- `copy_cause` of the decoders undoes `copy_cause` of the encoders. -/
theorem decCause_of_encCause (cause : Cause) (c : Asn.Cause) (h : encCause cause = some c) :
    decCause c = some cause := by
  cases cause with
  | nothing => cases h
  | ricRequest c | ricService c | transport c | protocol c | misc c =>
    obtain rfl := Option.some.inj h
    simp [decCause]

theorem encCause_isSome_iff {cause : Cause} : (encCause cause).isSome ↔ cause ≠ .nothing := by
  cases cause <;> simp [encCause]

/-- A supported E2 node ID round trips. -/
theorem roundTrips_globalE2nodeId {id : GlobalE2NodeId} (h : id.Supported) :
    RoundTrips encGlobalE2nodeId decGlobalE2nodeId id := by
  obtain ⟨hplmn, hkind⟩ := h
  obtain ⟨type, plmn, nbId, cuDuId⟩ := id
  have hdigits := Asn.plmnIdToMccMnc_mccMncToPlmnId hplmn
  dsimp only at hkind hdigits
  obtain ⟨hgnb, hlt⟩ | ⟨rfl, rfl, hlt⟩ := hkind
  · have hbits := Asn.bitStringToMacroGnbId_of_lt hlt
    obtain ⟨rfl, rfl⟩ | ⟨rfl | rfl, hsome⟩ := hgnb
    · simp [RoundTrips, encGlobalE2nodeId, decGlobalE2nodeId, hdigits, hbits]
    · obtain ⟨cuUpId, rfl⟩ := Option.isSome_iff_exists.1 hsome
      simp [RoundTrips, encGlobalE2nodeId, decGlobalE2nodeId, hdigits, hbits, decInteger]
    · obtain ⟨duId, rfl⟩ := Option.isSome_iff_exists.1 hsome
      simp [RoundTrips, encGlobalE2nodeId, decGlobalE2nodeId, hdigits, hbits, decInteger]
  · have hbits := Asn.bitStringToMacroEnbId_of_lt hlt
    simp [RoundTrips, encGlobalE2nodeId, decGlobalE2nodeId, hdigits, hbits]

/-- The two IEs in front of an E42 request. -/
theorem encE42_of_supported {id : GlobalE2NodeId} (h : id.Supported)
    (xappId : UInt16) : ∃ xapp node, encE42 xappId id = some [xapp, node] ∧
      decXappId xapp = some xappId ∧ decGlobalE2nodeIe node = some id := by
  obtain ⟨node, hnode, hdec⟩ := Option.bind_eq_some_iff.1 (roundTrips_globalE2nodeId h)
  refine ⟨⟨.xappID, .reject, .xappID xappId.toNat⟩, ⟨.globalE2nodeID, .reject,
    .globalE2nodeID node⟩, ?_, ?_, ?_⟩
  · rw [encE42, hnode]
    rfl
  · simp [decXappId]
  · simp [decGlobalE2nodeIe, hdec]

section Walk

variable {A S : Type} {g : S → Ie → Option S} {enc : A → Option Ie}

/-- A decoder that reads an optional IE sets the member to it, and one that finds no IE leaves the
member at null. -/
theorem foldlM_encOptional {a : Option A} {ies : List Ie} (h : encOptional enc a = some ies)
    (f : Option A → S)
    (hstep : ∀ a ie, enc a = some ie → g (f none) ie = some (f (some a))) :
    ies.foldlM g (f none) = some (f a) := by
  cases a with
  | none =>
    obtain rfl := Option.some.inj h
    rfl
  | some a =>
    obtain ⟨ie, hie, rfl⟩ : ∃ ie, enc a = some ie ∧ ies = [ie] := by
      cases hie : enc a with
      | none => simp [encOptional, hie] at h
      | some ie => exact ⟨ie, rfl, by simpa [encOptional, hie] using h.symm⟩
    rw [List.foldlM_cons, hstep a ie hie]
    rfl

/-- An optional IE that is built without assertions. -/
theorem foldlM_map_toList (ie : A → Ie) (a : Option A) (f : Option A → S)
    (hstep : ∀ a, g (f none) (ie a) = some (f (some a))) :
    (a.toList.map ie).foldlM g (f none) = some (f a) := by
  cases a with
  | none => rfl
  | some a =>
    rw [Option.toList_some, List.map_singleton, List.foldlM_cons, hstep a]
    rfl

end Walk

/-! ## Subscriptions -/

/-- The subsequent action of the action waits for no time: zero is not told from no time to
wait. -/
def RicAction.ZeroWait (a : RicAction) : Prop :=
  ∃ sub ∈ a.subseqAction, sub.timeToWaitMs = some 0

/-- A time to wait that the encoders take. -/
def RicAction.WaitsBelow (a : RicAction) : Prop :=
  ∀ sub ∈ a.subseqAction, ∀ ms ∈ sub.timeToWaitMs, ms < 18

theorem encSubseqAction_isSome_iff {sub : RicSubsequentAction} :
    (encSubseqAction sub).isSome ↔ ∀ ms ∈ sub.timeToWaitMs, ms < 18 := by
  obtain ⟨type, _ | ms⟩ := sub
  · simp [encSubseqAction]
  · by_cases h : ms < 18 <;> simp [encSubseqAction, assert, h]

/-- A subsequent action is read as it was, unless its time to wait is zero. -/
theorem roundTrips_subseqAction_iff {sub : RicSubsequentAction}
    (henc : (encSubseqAction sub).isSome) :
    RoundTrips encSubseqAction decSubseqAction sub ↔ sub.timeToWaitMs ≠ some 0 := by
  obtain ⟨type, _ | ms⟩ := sub
  · simp [RoundTrips, encSubseqAction, decSubseqAction]
  · have hlt : ms < 18 := encSubseqAction_isSome_iff.1 henc ms rfl
    have hzero : ms.toNat = 0 ↔ ms = 0 := by rw [← UInt32.toNat_inj, UInt32.toNat_zero]
    simp [RoundTrips, encSubseqAction, decSubseqAction, assert_of hlt, hzero]

theorem encAction_isSome_iff {a : RicAction} : (encAction a).isSome ↔ a.WaitsBelow := by
  obtain ⟨id, type, definition, _ | sub⟩ := a
  · simp [encAction, RicAction.WaitsBelow]
  · have h : (encSubseqAction sub).isSome ↔ ∀ ms ∈ sub.timeToWaitMs, ms < 18 :=
      encSubseqAction_isSome_iff
    cases hsub : encSubseqAction sub <;>
      simp_all [encAction, RicAction.WaitsBelow]

/-- An action is read as it was, unless it waits for no time. -/
theorem roundTrips_action_iff {a : RicAction} (henc : a.WaitsBelow) :
    RoundTrips encAction decAction a ↔ ¬a.ZeroWait := by
  obtain ⟨id, type, definition, _ | sub⟩ := a
  · simp [RoundTrips, encAction, decAction, RicAction.ZeroWait]
  · have hsome := encSubseqAction_isSome_iff.2 (henc sub rfl)
    have hiff := roundTrips_subseqAction_iff hsome
    obtain ⟨item, hitem⟩ := Option.isSome_iff_exists.1 hsome
    rw [roundTrips_iff hitem] at hiff
    simp [RoundTrips, encAction, decAction, RicAction.ZeroWait, hitem, hiff,
      Option.bind_eq_some_iff]

/-- A subscription request that the encoders accept, with at least one action. -/
structure RicSubscriptionRequest.Encodable (sr : RicSubscriptionRequest) : Prop where
  eventTrigger : sr.eventTrigger ≠ []
  action : sr.action ≠ []
  length : sr.action.length ≤ 16
  waits : ∀ a ∈ sr.action, a.WaitsBelow

/-- The IEs of a subscription request are read as they were, unless an action waits for no time. -/
theorem RicSubscriptionRequest.Encodable.ies {sr : RicSubscriptionRequest} (h : sr.Encodable) :
    ∃ det, encSubscriptionIes sr = some (encRicGenId sr.ricId ++ [det]) ∧
      (decSubscriptionIes (encRicRequestId sr.ricId) (encRanFunctionId sr.ricId) det = some sr ↔
        ∀ a ∈ sr.action, ¬a.ZeroWait) := by
  obtain ⟨htrigger, hne, hle, hwaits⟩ := h
  obtain ⟨ricId, eventTrigger, action⟩ := sr
  dsimp only at htrigger hne hle hwaits ⊢
  obtain ⟨items, hitems⟩ := Option.isSome_iff_exists.1
    (mapM_isSome_iff.2 fun a ha => encAction_isSome_iff.2 (hwaits a ha))
  have hlength : items.length = action.length := length_of_mapM hitems
  have hpos := List.length_pos_of_ne_nil hne
  have hbound : action.length ≤ Asn.maxNumActionDef := hle
  refine ⟨⟨.ricSubscriptionDetails, .reject, .ricSubscriptionDetails
    { ricEventTriggerDefinition := eventTrigger, ricActionToBeSetupList := items }⟩, ?_, ?_⟩
  · rw [encSubscriptionIes, assert_of htrigger, assert_of hbound, hitems]
    rfl
  · have hboth : 0 < items.length ∧ items.length ≤ Asn.maxNumActionDef := by
      rw [hlength]
      exact ⟨hpos, hbound⟩
    have haccepts : RicGenIdChecks.Accepts ⟨true, false, none⟩ ricId := by
      simp [RicGenIdChecks.Accepts]
    have haction : items.mapM decAction = some action ↔ ∀ a ∈ action, ¬a.ZeroWait :=
      (mapM_roundTrips_iff hitems).trans
        (forall₂_congr fun a ha => roundTrips_action_iff (hwaits a ha))
    simp [decSubscriptionIes, decRicGenId_eq, assert_of haccepts, assert_of hboth, haction,
      Option.bind_eq_some_iff]

theorem subscriptionRequest_roundTrips_iff {sr : RicSubscriptionRequest} (h : sr.Encodable) :
    RoundTrips e2apMsgEnc e2apMsgDec (.ricSubscriptionRequest sr) ↔
      ∀ a ∈ sr.action, ¬a.ZeroWait := by
  obtain ⟨det, henc, hdec⟩ := h.ies
  rw [← hdec]
  simp [RoundTrips, e2apMsgEnc, encSubscriptionRequest, henc, encRicGenId, e2apMsgDec,
    decSubscriptionRequest, Option.bind_eq_some_iff]

theorem e42SubscriptionRequest_roundTrips_iff {sr : RicSubscriptionRequest} (h : sr.Encodable)
    {id : GlobalE2NodeId} (hid : id.Supported) (xappId : UInt16) :
    RoundTrips e2apMsgEnc e2apMsgDec (.e42RicSubscriptionRequest ⟨xappId, id, sr⟩) ↔
      ∀ a ∈ sr.action, ¬a.ZeroWait := by
  obtain ⟨det, henc, hdec⟩ := h.ies
  obtain ⟨xapp, node, he42, hxapp, hnode⟩ := encE42_of_supported hid xappId
  rw [← hdec]
  simp [RoundTrips, e2apMsgEnc, encE42SubscriptionRequest, henc, he42, encRicGenId, e2apMsgDec,
    decE42SubscriptionRequest, hxapp, hnode, Option.bind_eq_some_iff]

/-- What is encodable is what the encoder accepts, but that it takes a request of no action, which
the decoders refuse. -/
theorem RicSubscriptionRequest.encodable_iff {sr : RicSubscriptionRequest} :
    sr.Encodable ↔ sr.action ≠ [] ∧ (e2apMsgEnc (.ricSubscriptionRequest sr)).isSome := by
  constructor
  · intro h
    obtain ⟨det, henc, -⟩ := h.ies
    simp [e2apMsgEnc, encSubscriptionRequest, henc, h.action]
  · rintro ⟨hne, hsome⟩
    obtain ⟨pdu, hpdu⟩ := Option.isSome_iff_exists.1 hsome
    obtain ⟨ies, hies, -⟩ := Option.bind_eq_some_iff.1 hpdu
    obtain ⟨htrigger, hies⟩ := assert_bind_eq_some.1 hies
    obtain ⟨hlength, hies⟩ := assert_bind_eq_some.1 hies
    obtain ⟨items, hitems, -⟩ := Option.bind_eq_some_iff.1 hies
    have hwaits := mapM_isSome_iff.1 (Option.isSome_iff_exists.2 ⟨items, hitems⟩)
    exact ⟨htrigger, hne, hlength, fun a ha => encAction_isSome_iff.1 (hwaits a ha)⟩

/-- A subscription request comes back as it was sent, alone or for an E2 node, exactly if no
subsequent action waits for zero. -/
theorem subscription_roundTrips_iff {sr : RicSubscriptionRequest} (h : sr.Encodable) :
    (RoundTrips e2apMsgEnc e2apMsgDec (.ricSubscriptionRequest sr) ↔
      ∀ a ∈ sr.action, ¬a.ZeroWait) ∧
    ∀ (xappId : UInt16) (id : GlobalE2NodeId), id.Supported →
      (RoundTrips e2apMsgEnc e2apMsgDec (.e42RicSubscriptionRequest ⟨xappId, id, sr⟩) ↔
        ∀ a ∈ sr.action, ¬a.ZeroWait) :=
  ⟨subscriptionRequest_roundTrips_iff h, fun xappId _ hid =>
    e42SubscriptionRequest_roundTrips_iff h hid xappId⟩

/-- A request with one action, whose subsequent action has the time to wait. -/
def waitingRequest (timeToWaitMs : Option UInt32) : RicSubscriptionRequest where
  ricId := ⟨1, 2, 3⟩
  eventTrigger := [7]
  action := [⟨0, .report, some [1, 2], some ⟨.subsReqContinue, timeToWaitMs⟩⟩]

theorem encodable_waitingRequest {timeToWaitMs : Option UInt32}
    (h : ∀ ms ∈ timeToWaitMs, ms < 18) : (waitingRequest timeToWaitMs).Encodable where
  eventTrigger := by simp [waitingRequest]
  action := by simp [waitingRequest]
  length := by simp [waitingRequest]
  waits := by simpa [waitingRequest, RicAction.WaitsBelow] using h

/-- A gNB of the public test network. -/
theorem supported_gnb : GlobalE2NodeId.Supported ⟨.gNB, ⟨1, 1, 2⟩, 7, none⟩ :=
  ⟨⟨by decide, by decide⟩, .inl ⟨.inl ⟨rfl, rfl⟩, by decide⟩⟩

theorem waitingRequest_roundTrips :
    RoundTrips e2apMsgEnc e2apMsgDec (.ricSubscriptionRequest (waitingRequest (some 5))) ∧
      RoundTrips e2apMsgEnc e2apMsgDec (.e42RicSubscriptionRequest
        ⟨9, ⟨.gNB, ⟨1, 1, 2⟩, 7, none⟩, waitingRequest (some 5)⟩) := by
  have h : (waitingRequest (some 5)).Encodable := encodable_waitingRequest (by simp)
  have hwait : ∀ a ∈ (waitingRequest (some 5)).action, ¬a.ZeroWait := by
    simp [waitingRequest, RicAction.ZeroWait]
  obtain ⟨hplain, he42⟩ := subscription_roundTrips_iff h
  exact ⟨hplain.2 hwait, (he42 9 _ supported_gnb).2 hwait⟩

/-- A wait of zero is lost: the encoder accepts the request, and the decoder gives back a subsequent
action with no time to wait. -/
theorem waitingRequest_zero :
    (waitingRequest (some 0)).Encodable ∧
      (e2apMsgEnc (.ricSubscriptionRequest (waitingRequest (some 0)))).bind e2apMsgDec =
        some (.ricSubscriptionRequest (waitingRequest none)) ∧
      ¬RoundTrips e2apMsgEnc e2apMsgDec (.ricSubscriptionRequest (waitingRequest (some 0))) :=
  ⟨encodable_waitingRequest (by simp), by decide, by decide⟩

theorem decAdmitted_encAdmitted (ricActId : UInt8) :
    decAdmitted (encAdmitted ricActId) = some ricActId := by
  have hbound : ricActId.toNat < Asn.maxRicActionId := ricActId.toNat_lt
  simp [decAdmitted, encAdmitted, hbound]

theorem decNotAdmitted_of_encNotAdmitted (a : RicActionNotAdmitted)
    (item : ProtocolIeField Asn.RicActionNotAdmittedItem) (h : encNotAdmitted a = some item) :
    decNotAdmitted item = some a := by
  obtain ⟨c, hc, hitem⟩ := Option.bind_eq_some_iff.1 h
  obtain rfl := Option.some.inj hitem
  simp [decNotAdmitted, decCause_of_encCause a.cause c hc]

theorem encNotAdmitted_isSome_iff {a : RicActionNotAdmitted} :
    (encNotAdmitted a).isSome ↔ a.cause ≠ .nothing := by
  rw [← encCause_isSome_iff]
  cases h : encCause a.cause <;> simp [encNotAdmitted, h]

/-- The list of the actions that are not admitted is read as it was. -/
theorem notAdmitted_items {l : List RicActionNotAdmitted} (h : ∀ a ∈ l, a.cause ≠ .nothing) :
    ∃ items, l.mapM encNotAdmitted = some items ∧
      decNotAdmittedIe ⟨.ricActionsNotAdmitted, .reject, .ricActionNotAdmittedList items⟩ =
        some l := by
  obtain ⟨items, hitems⟩ := Option.isSome_iff_exists.1
    (mapM_isSome_iff.2 fun a ha => encNotAdmitted_isSome_iff.2 (h a ha))
  have hdec := mapM_dec_of hitems decNotAdmitted_of_encNotAdmitted
  exact ⟨items, hitems, by simp [decNotAdmittedIe, hdec]⟩

theorem subscriptionFailure_roundTrips_iff {sf : RicSubscriptionFailure}
    (h : ∀ a ∈ sf.notAdmitted, a.cause ≠ .nothing) (hdiag : sf.critDiag = none) :
    RoundTrips e2apMsgEnc e2apMsgDec (.ricSubscriptionFailure sf) ↔
      sf.ricId.ranFuncId.toNat < 4096 := by
  obtain ⟨ricId, notAdmitted, critDiag⟩ := sf
  obtain ⟨items, hitems, hnotAdmitted⟩ := notAdmitted_items h
  dsimp only at hitems hnotAdmitted hdiag ⊢
  subst hdiag
  simp [RoundTrips, e2apMsgEnc, encSubscriptionFailure, hitems, encRicGenId, encOptional,
    e2apMsgDec, decSubscriptionFailure, decRicGenId_eq_some_iff, hnotAdmitted,
    Option.bind_eq_some_iff, accepts_iff, Asn.maxRanFuncId]

theorem subscriptionResponse_roundTrips_iff {sr : RicSubscriptionResponse}
    (h : ∀ a ∈ sr.notAdmitted, a.cause ≠ .nothing) :
    RoundTrips e2apMsgEnc e2apMsgDec (.ricSubscriptionResponse sr) ↔
      sr.ricId.ricReqId.toNat < 2 ^ 16 ∧ sr.ricId.ranFuncId.toNat < 256 ∧ sr.notAdmitted = [] := by
  obtain ⟨ricId, admitted, notAdmitted⟩ := sr
  obtain ⟨items, hitems, hnotAdmitted⟩ := notAdmitted_items h
  dsimp only at hitems hnotAdmitted ⊢
  have hadmitted : (admitted.map encAdmitted).mapM decAdmitted = some admitted :=
    mapM_map_iff.2 fun a _ => decAdmitted_encAdmitted a
  simp [RoundTrips, e2apMsgEnc, encSubscriptionResponse, hitems, encRicGenId, e2apMsgDec,
    decSubscriptionResponse, decRicGenId_eq_some_iff, decAdmittedIe, hadmitted, hnotAdmitted,
    Option.bind_eq_some_iff, eq_comm (a := []), accepts_iff, Asn.maxNumRanFuncId, and_assoc]

/-- An outcome of a subscription whose causes are given, as the encoders require. A failure carries
the RAN function id of a request and no criticality diagnostics. -/
def E2apMsg.SubscriptionOutcome : E2apMsg → Prop
  | .ricSubscriptionResponse sr => ∀ a ∈ sr.notAdmitted, a.cause ≠ .nothing
  | .ricSubscriptionFailure sf => (∀ a ∈ sf.notAdmitted, a.cause ≠ .nothing) ∧
      sf.critDiag = none ∧ sf.ricId.ranFuncId.toNat < 4096
  | _ => False

/-- What a response has to be for its decoder: it leaves out the actions that are not admitted, and
bounds the RAN function id by the number of RAN functions that a message may hold. -/
def E2apMsg.OutcomeKept : E2apMsg → Prop
  | .ricSubscriptionResponse sr =>
      sr.ricId.ricReqId.toNat < 2 ^ 16 ∧ sr.ricId.ranFuncId.toNat < 256 ∧ sr.notAdmitted = []
  | _ => True

/-- A failure comes back as it was sent, and a response exactly if it is kept. -/
theorem subscriptionOutcome_roundTrips_iff {msg : E2apMsg} (h : msg.SubscriptionOutcome) :
    RoundTrips e2apMsgEnc e2apMsgDec msg ↔ msg.OutcomeKept := by
  cases msg with
  | ricSubscriptionResponse sr => exact subscriptionResponse_roundTrips_iff h
  | ricSubscriptionFailure sf =>
    obtain ⟨hcause, hdiag, hran⟩ := h
    rw [subscriptionFailure_roundTrips_iff hcause hdiag]
    exact iff_of_true hran trivial
  | _ => exact h.elim

/-- A response that admits one action and refuses the others. -/
def refusingResponse (notAdmitted : List RicActionNotAdmitted) : RicSubscriptionResponse where
  ricId := ⟨1, 2, 3⟩
  admitted := [5]
  notAdmitted := notAdmitted

theorem refusingResponse_nil_roundTrips :
    RoundTrips e2apMsgEnc e2apMsgDec (.ricSubscriptionResponse (refusingResponse [])) :=
  (subscriptionOutcome_roundTrips_iff (by simp [E2apMsg.SubscriptionOutcome, refusingResponse])).2
    ⟨by decide, by decide, rfl⟩

/-- One action that is not admitted is lost. -/
theorem refusingResponse_cons :
    (E2apMsg.ricSubscriptionResponse
        (refusingResponse [⟨6, .ricRequest .actionNotSupported⟩])).SubscriptionOutcome ∧
      (e2apMsgEnc (.ricSubscriptionResponse (refusingResponse [⟨6, .ricRequest
        .actionNotSupported⟩]))).bind e2apMsgDec =
          some (.ricSubscriptionResponse (refusingResponse [])) ∧
      ¬RoundTrips e2apMsgEnc e2apMsgDec (.ricSubscriptionResponse
        (refusingResponse [⟨6, .ricRequest .actionNotSupported⟩])) :=
  ⟨by simp [E2apMsg.SubscriptionOutcome, refusingResponse], by decide, by decide⟩

end Ap

end FlexRic
