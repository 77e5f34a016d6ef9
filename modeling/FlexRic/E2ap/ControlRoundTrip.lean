import FlexRic.E2ap.RoundTrip

/-!
# Round trips of the indications, the controls and the error indication

The encoders append the IEs in a fixed order and leave out the optional ones that are not there, and
the decoders walk the rest of the IEs. So each encoder has one lemma that says which IEs it builds
and that the walk over them gives the message; the decoder adds what it checks of the ids.
-/

namespace FlexRic

/-- Ids that the decoders of the requests let through. -/
structure RicGenId.InRange (id : RicGenId) : Prop where
  ricReqId : id.ricReqId.toNat < 2 ^ 16
  ranFuncId : id.ranFuncId.toNat < 4096

namespace Ap

open Asn (Ie E2apPdu)

/-- Such ids pass the checks of the requests and of their successful answers. -/
theorem accepts_of_inRange {id : RicGenId} (h : id.InRange) (criticality request : Bool) :
    RicGenIdChecks.Accepts ⟨criticality, request, some Asn.maxRanFuncId⟩ id :=
  accepts_iff.2 ⟨fun _ => h.ricReqId, h.ranFuncId⟩

/-! ## What the encoders build -/

theorem encOptional_isSome_iff {A : Type} {enc : A → Option Ie} {a : Option A} :
    (encOptional enc a).isSome ↔ ∀ b ∈ a, (enc b).isSome := by
  rw [encOptional, mapM_isSome_iff]
  simp

theorem encCallProcessId_eq_some_iff {bytes : List UInt8} {ie : Ie} :
    encCallProcessId bytes = some ie ↔
      bytes ≠ [] ∧ ie = ⟨.ricCallProcessID, .reject, .ricCallProcessID bytes⟩ := by
  rw [eq_comm (a := ie)]
  simp [encCallProcessId]

theorem encControlOutcome_eq_some_iff {bytes : List UInt8} {ie : Ie} :
    encControlOutcome bytes = some ie ↔
      bytes ≠ [] ∧ ie = ⟨.ricControlOutcome, .reject, .ricControlOutcome bytes⟩ := by
  rw [eq_comm (a := ie)]
  simp [encControlOutcome]

section Walk

variable {S : Type} {g : S → Ie → Option S} {a : Option (List UInt8)} {ies : List Ie}

theorem foldlM_callProcessId (h : encOptional encCallProcessId a = some ies)
    (f : Option (List UInt8) → S)
    (hstep : ∀ bytes, g (f none) ⟨.ricCallProcessID, .reject, .ricCallProcessID bytes⟩ =
      some (f (some bytes))) :
    ies.foldlM g (f none) = some (f a) :=
  foldlM_encOptional h f fun bytes ie hie => by
    obtain ⟨-, rfl⟩ := encCallProcessId_eq_some_iff.1 hie
    exact hstep bytes

theorem foldlM_controlOutcome (h : encOptional encControlOutcome a = some ies)
    (f : Option (List UInt8) → S)
    (hstep : ∀ bytes, g (f none) ⟨.ricControlOutcome, .reject, .ricControlOutcome bytes⟩ =
      some (f (some bytes))) :
    ies.foldlM g (f none) = some (f a) :=
  foldlM_encOptional h f fun bytes ie hie => by
    obtain ⟨-, rfl⟩ := encControlOutcome_eq_some_iff.1 hie
    exact hstep bytes

end Walk

/-- What is sent for an indication, and what the loop of the decoder makes of it. -/
theorem encIndication_spec {ind : RicIndication} {pdu : E2apPdu}
    (h : encIndication ind = some pdu) :
    ∃ ies, pdu = ⟨.initiatingMessage, .ricIndication, .reject, .ricIndication,
        encRicRequestId ind.ricId :: encRanFunctionId ind.ricId ::
          ⟨.ricActionID, .reject, .ricActionID ind.actionId.toNat⟩ :: ies⟩ ∧
      ies.foldlM decIndicationIe ⟨ind.ricId, ind.actionId, none, .report, [], [], none⟩ =
        some ind := by
  simp only [encIndication, Option.bind_eq_bind, Option.bind_eq_some_iff] at h
  obtain ⟨_, -, _, -, proc, hproc, hpdu⟩ := h
  obtain rfl := Option.some.inj hpdu
  refine ⟨_, rfl, ?_⟩
  obtain ⟨ricId, actionId, sn, type, hdr, msg, callProcessId⟩ := ind
  have hsn := foldlM_map_toList (g := decIndicationIe)
    (fun sn => ⟨.ricIndicationSN, .reject, .ricIndicationSN sn.toNat⟩) sn
    (fun sn => ⟨ricId, actionId, sn, .report, [], [], none⟩) fun sn => by
      have hlt : sn.toNat < Asn.maxRicIndicationSn := sn.toNat_lt
      simp [decIndicationIe, hlt]
  have hcall := foldlM_callProcessId (g := decIndicationIe) hproc
    (fun callProcessId => ⟨ricId, actionId, sn, type, hdr, msg, callProcessId⟩) fun bytes => by
      simp [decIndicationIe]
  rw [List.foldlM_append, List.foldlM_append, hsn]
  simp [decIndicationIe, hcall]

/-- What is sent for a control request. -/
theorem encControlIes_spec {ctrl : RicControlRequest} {out : List Ie}
    (h : encControlIes ctrl = some out) :
    ∃ ies, out = encRicRequestId ctrl.ricId :: encRanFunctionId ctrl.ricId :: ies ∧
      ies.foldlM decControlIe ⟨ctrl.ricId, none, [], [], none⟩ = some ctrl := by
  simp only [encControlIes, Option.bind_eq_bind, Option.bind_eq_some_iff] at h
  obtain ⟨_, -, _, -, proc, hproc, hout⟩ := h
  obtain rfl := Option.some.inj hout
  refine ⟨_, rfl, ?_⟩
  obtain ⟨ricId, callProcessId, hdr, msg, ackReq⟩ := ctrl
  have hcall := foldlM_callProcessId (g := decControlIe) hproc
    (fun callProcessId => ⟨ricId, callProcessId, [], [], none⟩) fun bytes => rfl
  have hack := foldlM_map_toList (g := decControlIe)
    (fun a => ⟨.ricControlAckRequest, .reject, .ricControlAckRequest (Enumeration.toNat a)⟩)
    ackReq (fun ackReq => ⟨ricId, callProcessId, hdr, msg, ackReq⟩) fun ackReq => by
      simp [decControlIe]
  change (proc ++ _ ++ List.map _ ackReq.toList).foldlM decControlIe _ = _
  rw [List.foldlM_append, List.foldlM_append, hcall]
  simpa [decControlIe] using hack

/-- What is sent for an acknowledgement. -/
theorem encControlAck_spec {ca : RicControlAcknowledge} {pdu : E2apPdu}
    (h : encControlAck ca = some pdu) :
    ∃ ies, pdu = ⟨.successfulOutcome, .ricControl, .reject, .ricControlAcknowledge,
        encRicRequestId ca.ricId :: encRanFunctionId ca.ricId :: ies⟩ ∧
      ies.foldlM decControlAckIe ⟨ca.ricId, none, .success, none⟩ = some ca := by
  simp only [encControlAck, Option.bind_eq_bind, Option.bind_eq_some_iff] at h
  obtain ⟨proc, hproc, outcome, houtcome, hpdu⟩ := h
  obtain rfl := Option.some.inj hpdu
  refine ⟨_, rfl, ?_⟩
  obtain ⟨ricId, callProcessId, status, controlOutcome⟩ := ca
  have hcall := foldlM_callProcessId (g := decControlAckIe) hproc
    (fun callProcessId => ⟨ricId, callProcessId, .success, none⟩) fun bytes => by
      simp [decControlAckIe]
  have hout := foldlM_controlOutcome (g := decControlAckIe) houtcome
    (fun controlOutcome => ⟨ricId, callProcessId, status, controlOutcome⟩) fun bytes => by
      simp [decControlAckIe]
  change (proc ++ _ ++ outcome).foldlM decControlAckIe _ = _
  rw [List.foldlM_append, List.foldlM_append, hcall]
  simp [decControlAckIe, hout]

/-- What is sent for a failure. -/
theorem encControlFailure_spec {cf : RicControlFailure} {pdu : E2apPdu}
    (h : encControlFailure cf = some pdu) :
    ∃ ies, pdu = ⟨.unsuccessfulOutcome, .ricControl, .reject, .ricControlFailure,
        encRicRequestId cf.ricId :: encRanFunctionId cf.ricId :: ies⟩ ∧
      ies.foldlM decControlFailureIe ⟨cf.ricId, none, .nothing, none⟩ = some cf := by
  simp only [encControlFailure, Option.bind_eq_bind, Option.bind_eq_some_iff] at h
  obtain ⟨proc, hproc, causeIe, hcause, outcome, houtcome, hpdu⟩ := h
  obtain rfl := Option.some.inj hpdu
  refine ⟨_, rfl, ?_⟩
  obtain ⟨ricId, callProcessId, cause, controlOutcome⟩ := cf
  obtain ⟨c, hc, hcauseIe⟩ := Option.bind_eq_some_iff.1 hcause
  obtain rfl := Option.some.inj hcauseIe
  have hcall := foldlM_callProcessId (g := decControlFailureIe) hproc
    (fun callProcessId => ⟨ricId, callProcessId, .nothing, none⟩) fun bytes => by
      simp [decControlFailureIe]
  have hout := foldlM_controlOutcome (g := decControlFailureIe) houtcome
    (fun controlOutcome => ⟨ricId, callProcessId, cause, controlOutcome⟩) fun bytes => by
      simp [decControlFailureIe]
  change (proc ++ _ ++ outcome).foldlM decControlFailureIe _ = _
  rw [List.foldlM_append, List.foldlM_append, hcall]
  simp [decControlFailureIe, decCause_of_encCause cause c hc, hout]

/-- What is sent for an error indication: the ids first, if it carries them. -/
theorem encErrorIndication_spec {ei : E2apErrorIndication} {pdu : E2apPdu}
    (h : encErrorIndication ei = some pdu) :
    ∃ ies, pdu = ⟨.initiatingMessage, .errorIndication, .reject, .errorIndication,
        ei.ricId.toList.flatMap encRicGenId ++ ies⟩ ∧
      ies.foldlM decErrorIndicationIe ⟨ei.ricId, none, none⟩ = some ei := by
  simp only [encErrorIndication, Option.bind_eq_bind, Option.bind_eq_some_iff] at h
  obtain ⟨cause, hcause, critDiag, hdiag, hpdu⟩ := h
  obtain rfl := Option.some.inj hpdu
  obtain ⟨ricId, c, _ | diag⟩ := ei
  · obtain rfl := Option.some.inj hdiag
    refine ⟨cause, by simp, ?_⟩
    exact foldlM_encOptional (g := decErrorIndicationIe) hcause
      (fun c => ⟨ricId, c, none⟩) fun c ie hie => by
        obtain ⟨c', hc', hie⟩ := Option.bind_eq_some_iff.1 hie
        obtain rfl := Option.some.inj hie
        simp [decErrorIndicationIe, decCause_of_encCause c c' hc']
  · cases hdiag

/-! ## Which messages the encoders accept -/

/-- The parts that the encoders assert to be there: byte strings that are not empty and causes. -/
def E2apMsg.PartsGiven : E2apMsg → Prop
  | .ricIndication m => m.hdr ≠ [] ∧ m.msg ≠ [] ∧ ∀ b ∈ m.callProcessId, b ≠ []
  | .ricControlRequest m => m.hdr ≠ [] ∧ m.msg ≠ [] ∧ ∀ b ∈ m.callProcessId, b ≠ []
  | .e42RicControlRequest m =>
      m.ctrlReq.hdr ≠ [] ∧ m.ctrlReq.msg ≠ [] ∧ ∀ b ∈ m.ctrlReq.callProcessId, b ≠ []
  | .ricControlAcknowledge m => (∀ b ∈ m.callProcessId, b ≠ []) ∧ ∀ b ∈ m.controlOutcome, b ≠ []
  | .ricControlFailure m =>
      (∀ b ∈ m.callProcessId, b ≠ []) ∧ m.cause ≠ .nothing ∧ ∀ b ∈ m.controlOutcome, b ≠ []
  | .e2apErrorIndication m => (∀ c ∈ m.cause, c ≠ .nothing) ∧ m.critDiag = none
  | _ => True

theorem encOptional_callProcessId {a : Option (List UInt8)} :
    (encOptional encCallProcessId a).isSome ↔ ∀ b ∈ a, b ≠ [] := by
  simp [encOptional_isSome_iff, encCallProcessId]

theorem encOptional_controlOutcome {a : Option (List UInt8)} :
    (encOptional encControlOutcome a).isSome ↔ ∀ b ∈ a, b ≠ [] := by
  simp [encOptional_isSome_iff, encControlOutcome]

theorem encOptional_causeIe {a : Option Cause} :
    (encOptional encCauseIe a).isSome ↔ ∀ c ∈ a, c ≠ .nothing := by
  simp [encOptional_isSome_iff, encCauseIe, encCause_isSome_iff]

theorem encIndication_isSome_iff {ind : RicIndication} :
    (e2apMsgEnc (.ricIndication ind)).isSome ↔ (E2apMsg.ricIndication ind).PartsGiven := by
  simp [e2apMsgEnc, encIndication, E2apMsg.PartsGiven, encOptional_callProcessId]

theorem encControlIes_isSome_iff {ctrl : RicControlRequest} :
    (encControlIes ctrl).isSome ↔ (E2apMsg.ricControlRequest ctrl).PartsGiven := by
  simp [encControlIes, E2apMsg.PartsGiven, encOptional_callProcessId]

theorem encControlRequest_isSome_iff {ctrl : RicControlRequest} :
    (e2apMsgEnc (.ricControlRequest ctrl)).isSome ↔
      (E2apMsg.ricControlRequest ctrl).PartsGiven := by
  simp [e2apMsgEnc, encControlRequest, encControlIes_isSome_iff]

theorem encE42ControlRequest_isSome_iff {m : E42RicControlRequest} (h : m.id.Supported) :
    (e2apMsgEnc (.e42RicControlRequest m)).isSome ↔
      (E2apMsg.e42RicControlRequest m).PartsGiven := by
  obtain ⟨xapp, node, he42, -⟩ := encE42_of_supported h m.xappId
  simp [e2apMsgEnc, encE42ControlRequest, he42, encControlIes_isSome_iff, E2apMsg.PartsGiven]

theorem encControlAck_isSome_iff {ca : RicControlAcknowledge} :
    (e2apMsgEnc (.ricControlAcknowledge ca)).isSome ↔
      (E2apMsg.ricControlAcknowledge ca).PartsGiven := by
  rw [E2apMsg.PartsGiven, ← encOptional_callProcessId, ← encOptional_controlOutcome]
  cases h : encOptional encCallProcessId ca.callProcessId <;>
    simp [e2apMsgEnc, encControlAck, h]

theorem encControlFailure_isSome_iff {cf : RicControlFailure} :
    (e2apMsgEnc (.ricControlFailure cf)).isSome ↔
      (E2apMsg.ricControlFailure cf).PartsGiven := by
  rw [E2apMsg.PartsGiven, ← encOptional_callProcessId, ← encOptional_controlOutcome,
    ← encCause_isSome_iff]
  cases h : encOptional encCallProcessId cf.callProcessId <;> cases hcause : encCause cf.cause <;>
    simp [e2apMsgEnc, encControlFailure, encCauseIe, h, hcause]

theorem encErrorIndication_isSome_iff {ei : E2apErrorIndication} :
    (e2apMsgEnc (.e2apErrorIndication ei)).isSome ↔
      (E2apMsg.e2apErrorIndication ei).PartsGiven := by
  rw [E2apMsg.PartsGiven, ← encOptional_causeIe]
  cases hdiag : ei.critDiag with
  | none =>
    have hnone : encOptional encCritDiag none = some [] := rfl
    simp [e2apMsgEnc, encErrorIndication, hdiag, hnone]
  | some diag =>
    have hsome : encOptional encCritDiag (some diag) = none := rfl
    simp [e2apMsgEnc, encErrorIndication, hdiag, hsome]

/-! ## What the decoders give back -/

theorem indication_decodes {ind : RicIndication} {pdu : E2apPdu} (h : ind.ricId.InRange)
    (henc : e2apMsgEnc (.ricIndication ind) = some pdu) :
    e2apMsgDec pdu = some (.ricIndication ind) := by
  obtain ⟨ies, rfl, hwalk⟩ := encIndication_spec henc
  have haccepts := accepts_of_inRange h true true
  have hact : ind.actionId.toNat < Asn.maxRicActionId := ind.actionId.toNat_lt
  simp [e2apMsgDec, decIndication, decRicGenId_eq, haccepts, hact, hwalk]

/-- The IEs of a control request, alone or behind those of an E42 request. -/
theorem controlIes_decode {ctrl : RicControlRequest} {ies : List Ie} (h : ctrl.ricId.InRange)
    (henc : encControlIes ctrl = some ies) :
    ∃ req ran rest, ies = req :: ran :: rest ∧ decControlIes req ran rest = some ctrl := by
  obtain ⟨rest, rfl, hwalk⟩ := encControlIes_spec henc
  have haccepts := accepts_of_inRange h false true
  exact ⟨_, _, rest, rfl, by simp [decControlIes, decRicGenId_eq, haccepts, hwalk]⟩

theorem controlRequest_decodes {ctrl : RicControlRequest} {pdu : E2apPdu} (h : ctrl.ricId.InRange)
    (henc : e2apMsgEnc (.ricControlRequest ctrl) = some pdu) :
    e2apMsgDec pdu = some (.ricControlRequest ctrl) := by
  obtain ⟨ies, hies, hpdu⟩ := Option.bind_eq_some_iff.1 henc
  obtain rfl := Option.some.inj hpdu
  obtain ⟨req, ran, rest, rfl, hdec⟩ := controlIes_decode h hies
  simp [e2apMsgDec, decControlRequest, hdec]

theorem e42ControlRequest_decodes {m : E42RicControlRequest} {pdu : E2apPdu}
    (hid : m.id.Supported) (h : m.ctrlReq.ricId.InRange)
    (henc : e2apMsgEnc (.e42RicControlRequest m) = some pdu) :
    e2apMsgDec pdu = some (.e42RicControlRequest m) := by
  obtain ⟨ies, hies, henc⟩ := Option.bind_eq_some_iff.1 henc
  obtain ⟨req, ran, rest, rfl, hdec⟩ := controlIes_decode h hies
  obtain ⟨xapp, node, he42, hxapp, hnode⟩ := encE42_of_supported hid m.xappId
  rw [he42] at henc
  obtain rfl := Option.some.inj henc
  simp [e2apMsgDec, decE42ControlRequest, hxapp, hnode, hdec]

theorem controlAck_decodes {ca : RicControlAcknowledge} {pdu : E2apPdu} (h : ca.ricId.InRange)
    (henc : e2apMsgEnc (.ricControlAcknowledge ca) = some pdu) :
    e2apMsgDec pdu = some (.ricControlAcknowledge ca) := by
  obtain ⟨ies, rfl, hwalk⟩ := encControlAck_spec henc
  have haccepts := accepts_of_inRange h true true
  simp [e2apMsgDec, decControlAck, decRicGenId_eq, haccepts, hwalk]

theorem controlFailure_decodes_iff {cf : RicControlFailure} {pdu : E2apPdu}
    (henc : e2apMsgEnc (.ricControlFailure cf) = some pdu) :
    e2apMsgDec pdu = some (.ricControlFailure cf) ↔ cf.ricId.ranFuncId.toNat < 256 := by
  obtain ⟨ies, rfl, hwalk⟩ := encControlFailure_spec henc
  simp [e2apMsgDec, decControlFailure, decRicGenId_eq, accepts_iff, Option.bind_assoc, hwalk,
    Asn.maxNumRanFuncId]

/-- The walk over the ids of an error indication: the bound of the decoder is that of the number of
RAN functions. -/
theorem errorIndication_ids (ricId : Option RicGenId) :
    (ricId.toList.flatMap encRicGenId).foldlM decErrorIndicationIe ⟨none, none, none⟩ =
      (assert (∀ id ∈ ricId, id.ranFuncId.toNat < 256)).bind fun _ =>
        some ⟨ricId, none, none⟩ := by
  cases ricId with
  | none => simp
  | some id =>
    by_cases h : id.ranFuncId.toNat < 256 <;>
      simp [encRicGenId, encRicRequestId, encRanFunctionId, decErrorIndicationIe,
        Asn.maxNumRanFuncId, h]

theorem errorIndication_decodes_iff {ei : E2apErrorIndication} {pdu : E2apPdu}
    (henc : e2apMsgEnc (.e2apErrorIndication ei) = some pdu) :
    e2apMsgDec pdu = some (.e2apErrorIndication ei) ↔
      ∀ id ∈ ei.ricId, id.ranFuncId.toNat < 256 := by
  obtain ⟨ies, rfl, hwalk⟩ := encErrorIndication_spec henc
  simp [e2apMsgDec, decErrorIndication, errorIndication_ids, Option.bind_assoc, hwalk]

/-! ## Round trips -/

/-- An indication, a control request or its acknowledgement, with ids that the decoders let
through. -/
def E2apMsg.Control : E2apMsg → Prop
  | .ricIndication m => m.ricId.InRange
  | .ricControlRequest m => m.ricId.InRange
  | .e42RicControlRequest m => m.id.Supported ∧ m.ctrlReq.ricId.InRange
  | .ricControlAcknowledge m => m.ricId.InRange
  | _ => False

/-- The encoders accept the messages whose parts are given, and what they build is read as it was
sent. -/
theorem control_roundTrips {msg : E2apMsg} (h : msg.Control) :
    ((e2apMsgEnc msg).isSome ↔ msg.PartsGiven) ∧
      ∀ pdu, e2apMsgEnc msg = some pdu → e2apMsgDec pdu = some msg := by
  cases msg with
  | ricIndication ind =>
    exact ⟨encIndication_isSome_iff, fun _ henc => indication_decodes h henc⟩
  | ricControlRequest ctrl =>
    exact ⟨encControlRequest_isSome_iff, fun _ henc => controlRequest_decodes h henc⟩
  | e42RicControlRequest m =>
    obtain ⟨hid, hran⟩ := h
    exact ⟨encE42ControlRequest_isSome_iff hid, fun _ henc =>
      e42ControlRequest_decodes hid hran henc⟩
  | ricControlAcknowledge ca =>
    exact ⟨encControlAck_isSome_iff, fun _ henc => controlAck_decodes h henc⟩
  | _ => exact h.elim

/-- An indication at the ends of the ranges, with both optional parts. -/
def fullIndication : RicIndication where
  ricId := ⟨65535, 65535, 4095⟩
  actionId := 255
  sn := some 65535
  type := .insert
  hdr := [1]
  msg := [2, 3]
  callProcessId := some [4]

theorem fullIndication_roundTrips :
    RoundTrips e2apMsgEnc e2apMsgDec (.ricIndication fullIndication) := by
  have h : (E2apMsg.ricIndication fullIndication).Control := ⟨by decide, by decide⟩
  have hparts : (E2apMsg.ricIndication fullIndication).PartsGiven := by
    simp [E2apMsg.PartsGiven, fullIndication]
  obtain ⟨haccepts, hdec⟩ := control_roundTrips h
  obtain ⟨pdu, hpdu⟩ := Option.isSome_iff_exists.1 (haccepts.2 hparts)
  exact (roundTrips_iff hpdu).2 (hdec pdu hpdu)

/-- The ids of the request that a failure or an error indication answers. -/
def E2apMsg.answeredId : E2apMsg → Option RicGenId
  | .ricControlFailure m => some m.ricId
  | .e2apErrorIndication m => m.ricId
  | _ => none

/-- A control failure or an error indication. -/
def E2apMsg.Refusal : E2apMsg → Prop
  | .ricControlFailure _ | .e2apErrorIndication _ => True
  | _ => False

/-- A refusal comes back as it was sent exactly if the RAN function id that it carries is below the
number of RAN functions that a message may hold, while the requests take ids up to the largest. -/
theorem refusal_roundTrips_iff {msg : E2apMsg} (h : msg.Refusal) (hparts : msg.PartsGiven) :
    RoundTrips e2apMsgEnc e2apMsgDec msg ↔ ∀ id ∈ msg.answeredId, id.ranFuncId.toNat < 256 := by
  cases msg with
  | ricControlFailure cf =>
    obtain ⟨pdu, hpdu⟩ := Option.isSome_iff_exists.1 (encControlFailure_isSome_iff.2 hparts)
    rw [roundTrips_iff hpdu, controlFailure_decodes_iff hpdu]
    simp [E2apMsg.answeredId]
  | e2apErrorIndication ei =>
    obtain ⟨pdu, hpdu⟩ := Option.isSome_iff_exists.1 (encErrorIndication_isSome_iff.2 hparts)
    rw [roundTrips_iff hpdu, errorIndication_decodes_iff hpdu]
    rfl
  | _ => exact h.elim

/-- A failure that answers a request to the RAN function. -/
def failureOf (ranFuncId : UInt16) : RicControlFailure where
  ricId := ⟨1, 2, ranFuncId⟩
  callProcessId := some [9]
  cause := .ricRequest .controlMessageInvalid
  controlOutcome := none

theorem failureOf_partsGiven (ranFuncId : UInt16) :
    (E2apMsg.ricControlFailure (failureOf ranFuncId)).PartsGiven := by
  simp [E2apMsg.PartsGiven, failureOf]

theorem failureOf_255_roundTrips :
    RoundTrips e2apMsgEnc e2apMsgDec (.ricControlFailure (failureOf 255)) := by
  have h : (E2apMsg.ricControlFailure (failureOf 255)).Refusal := trivial
  apply (refusal_roundTrips_iff h (failureOf_partsGiven 255)).2
  simp [E2apMsg.answeredId, failureOf]

/-- The first id for which the request is read and its failure is not. -/
theorem failureOf_256 :
    (failureOf 256).ricId.InRange ∧
      (e2apMsgEnc (.ricControlFailure (failureOf 256))).isSome ∧
      ¬RoundTrips e2apMsgEnc e2apMsgDec (.ricControlFailure (failureOf 256)) :=
  ⟨⟨by decide, by decide⟩, encControlFailure_isSome_iff.2 (failureOf_partsGiven 256), by decide⟩

end Ap

end FlexRic
