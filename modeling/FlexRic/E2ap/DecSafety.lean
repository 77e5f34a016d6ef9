import FlexRic.E2ap.DecOutcome

/-!
# What a peer can make a decoder do

The lists of IEs that lead a decoder past the end of the array, or through a pointer that no IE has
set: lists that end too early, and error indications that name a RAN function before a request. No
message that is encoded here is among them. The library hands over strings of the sizes that the
ASN.1 description fixes, and structures that go with their tags.
-/

namespace FlexRic

namespace Asn

/-! ## What the library hands over -/

/-- `SIZE(22..32)`, for the id of a gNB. -/
def BitString.IsGnbId (bs : BitString) : Prop :=
  bs.bitsUnused < 8 ∧ 22 + bs.bitsUnused ≤ 8 * bs.buf.length ∧
    8 * bs.buf.length ≤ 32 + bs.bitsUnused

/-- `SIZE(20)`, for the id of a macro eNB. -/
def BitString.IsMacroEnbId (bs : BitString) : Prop :=
  bs.bitsUnused < 8 ∧ 8 * bs.buf.length = 20 + bs.bitsUnused

/-- The octets of a PLMN and the bits of a node id are as many as the types say. -/
def GlobalE2nodeId.Sized : GlobalE2nodeId → Prop
  | .gNB gnb => gnb.plmnId.length = 3 ∧ gnb.gnbID.IsGnbId
  | .eNB enb => enb.pLMNIdentity.length = 3 ∧ match enb.eNBID with
    | .macroENBID bs => bs.IsMacroEnbId
    | _ => True
  | _ => True

/-- The structure of a configuration is the one that its tag names. -/
def E2nodeComponentConfigUpdate.Tagged (u : E2nodeComponentConfigUpdate) : Prop :=
  match u.present, u.choice with
  | .gNBconfigUpdate, .gNB _ _ _ _ => True
  | .enGNBconfigUpdate, .enGNB _ => True
  | .ngENBconfigUpdate, .ngENB _ _ => True
  | .eNBconfigUpdate, .eNB _ _ => True
  | _, _ => False

/-- An IE as the library hands it over. -/
def IeValue.Constrained : IeValue → Prop
  | .globalE2nodeID id => id.Sized
  | .e2nodeComponentConfigUpdateList items =>
      ∀ item ∈ items, item.value.e2nodeComponentConfigUpdate.Tagged
  | _ => True

/-- A PDU as the library hands it over. -/
def E2apPdu.Constrained (pdu : E2apPdu) : Prop := ∀ ie ∈ pdu.protocolIEs, ie.value.Constrained

/-- The number of a cause is one of those of its kind. -/
def Cause.Known : Cause → Prop
  | .nothing => False
  | .ricRequest n => n < 11
  | .ricService n => n < 3
  | .transport n => n < 2
  | .protocol n => n < 7
  | .misc n => n < 4

theorem plmnIdToMccMnc_isSome {octets : OctetString} (h : octets.length = 3) :
    (plmnIdToMccMnc octets).isSome := by
  match octets with
  | [b₀, b₁, b₂] => rfl

theorem bitStringToMacroGnbId_isSome {bs : BitString} (h : bs.IsGnbId) (hbits : bs.bitsUnused = 4) :
    (bitStringToMacroGnbId bs).isSome := by
  obtain ⟨buf, bitsUnused⟩ := bs
  dsimp only at hbits
  subst hbits
  obtain ⟨-, hmin, hmax⟩ := h
  dsimp only at hmin hmax
  have hlen : buf.length = 4 := by omega
  match buf with
  | [b₀, b₁, b₂, b₃] => simp [bitStringToMacroGnbId]

theorem bitStringToMacroEnbId_isSome {bs : BitString} (h : bs.IsMacroEnbId)
    (hbits : bs.bitsUnused = 4) : (bitStringToMacroEnbId bs).isSome := by
  obtain ⟨buf, bitsUnused⟩ := bs
  dsimp only at hbits
  subst hbits
  obtain ⟨-, hsize⟩ := h
  dsimp only at hsize
  have hlen : buf.length = 3 := by omega
  match buf with
  | [b₀, b₁, b₂] => simp [bitStringToMacroEnbId]

end Asn

namespace Ap

open Asn (Ie E2apPdu ProtocolIeField maxNumRanFuncId maxNumE2NodeComponents maxRanFuncId
  maxRicRequestId maxRicInstanceId maxRicActionId)
open Outcome (check orStop orFault read loop)

/-! ## The checks of the IEs that are read by place -/

/-- A RIC request ID that is taken; not every decoder bounds the request and the instance. -/
def IsRicRequestId (bounded : Bool) (ie : Ie) : Prop :=
  ie.id = .ricRequestID ∧ ie.criticality = .reject ∧ ∃ requestor inst,
    ie.value = .ricRequestID requestor inst ∧ (bounded → requestor < maxRicRequestId ∧
      inst < maxRicInstanceId)

/-- A RAN function ID below a bound. -/
def IsRanFunctionId (bound : ℕ) (ie : Ie) : Prop :=
  ie.id = .ranFunctionID ∧ ie.criticality = .reject ∧ ∃ func,
    ie.value = .ranFunctionID func ∧ func < bound

/-- A list of admitted actions that is taken. -/
def IsActionsAdmitted (ie : Ie) : Prop :=
  ie.id = .ricActionsAdmitted ∧ ie.criticality = .reject ∧ ∃ items,
    ie.value = .ricActionAdmittedList items ∧
      ∀ item ∈ items, item.id = .ricActionAdmittedItem ∧ item.criticality = .reject ∧
        item.value < maxRicActionId

/-- A cause that is taken. -/
def IsCause (ie : Ie) : Prop :=
  ie.id = .cause ∧ ie.criticality = .reject ∧ ∃ c : Asn.Cause, ie.value = .cause c ∧ c.Known

/-- The RAN function ID comes after nothing but causes. -/
def NamesFunctionFirst : List Ie → Prop
  | [] => False
  | ie :: ies => IsRanFunctionId maxNumRanFuncId ie ∨ IsCause ie ∧ NamesFunctionFirst ies

theorem readRicRequestId_isSome_iff {bounded : Bool} {ranFunc : Option ℕ} {ie : Ie} :
    (readRicRequestId ⟨true, bounded, ranFunc⟩ ie).isSome ↔ IsRicRequestId bounded ie := by
  obtain ⟨id, crit, value⟩ := ie
  cases value with
  | ricRequestID requestor inst =>
    simp [readRicRequestId, IsRicRequestId]
  | _ => simp [readRicRequestId, IsRicRequestId]

theorem readRanFunctionId_isSome_iff {request : Bool} {bound : ℕ} {ie : Ie} :
    (readRanFunctionId ⟨true, request, some bound⟩ ie).isSome ↔ IsRanFunctionId bound ie := by
  obtain ⟨id, crit, value⟩ := ie
  cases value with
  | ranFunctionID func => simp [readRanFunctionId, IsRanFunctionId]
  | _ => simp [readRanFunctionId, IsRanFunctionId]

theorem decAdmittedIe_isSome_iff {ie : Ie} : (decAdmittedIe ie).isSome ↔ IsActionsAdmitted ie := by
  obtain ⟨id, crit, value⟩ := ie
  cases value with
  | ricActionAdmittedList items =>
    have hitem : ∀ item : ProtocolIeField ℕ, (decAdmitted item).isSome ↔
        item.id = .ricActionAdmittedItem ∧ item.criticality = .reject ∧
          item.value < maxRicActionId := by
      simp [decAdmitted]
    simp [decAdmittedIe, IsActionsAdmitted, mapM_isSome_iff, hitem]
  | _ => simp [decAdmittedIe, IsActionsAdmitted]

theorem decCause_isSome_iff {c : Asn.Cause} : (decCause c).isSome ↔ c.Known := by
  cases c <;> simp [decCause, Asn.Cause.Known, Enumeration.ofNat, Enumeration.values]

/-! ## The decoders that read by place -/

/-- What is read is checked, and whether the rest is safe does not depend on it. -/
theorem safe_orStop_bind_iff {A B : Type} {a : Option A} {k : A → Outcome B} {p : Prop}
    (h : ∀ b, (k b).Safe ↔ p) : (orStop a >>= k).Safe ↔ (a.isSome → p) := by
  cases a <;> simp [orStop, h]

theorem read_cons_zero {A : Type} (a : A) (l : List A) : read (a :: l) 0 = .returns a := rfl

theorem read_cons_succ {A : Type} (a : A) (l : List A) (i : ℕ) :
    read (a :: l) (i + 1) = read l i := rfl

theorem read_nil {A : Type} (i : ℕ) : read ([] : List A) i = .faults .pastEnd := rfl

/-- The two ids are read, and then what comes behind them. -/
theorem safe_e2apDecRicGenId_bind_iff {bounded : Bool} {bound : ℕ} {list : List Ie}
    {k : RicGenId → Outcome E2apMsg} {cs : List (Ie → Prop)}
    (h : ∀ req ran ies, list = req :: ran :: ies → ∀ id, (k id).Safe ↔ ¬CutShort cs ies) :
    (e2apDecRicGenId ⟨true, bounded, some bound⟩ list >>= k).Safe ↔
      ¬CutShort (IsRicRequestId bounded :: IsRanFunctionId bound :: cs) list := by
  match list with
  | [] => simp [e2apDecRicGenId, read_nil, CutShort]
  | [req] =>
    rw [e2apDecRicGenId, read_cons_zero, Outcome.returns_bind, Outcome.bind_assoc,
      safe_orStop_bind_iff (p := False) fun b => by simp [read_cons_succ, read_nil],
      readRicRequestId_isSome_iff]
    simp [CutShort]
  | req :: ran :: ies =>
    have hran : ∀ id, (orStop (readRanFunctionId ⟨true, bounded, some bound⟩ ran) >>=
        fun func => k (ricGenId id func)).Safe ↔
          (IsRanFunctionId bound ran → ¬CutShort cs ies) := by
      intro id
      rw [safe_orStop_bind_iff fun func => h req ran ies rfl (ricGenId id func),
        readRanFunctionId_isSome_iff]
    simp only [e2apDecRicGenId, read_cons_zero, read_cons_succ, Outcome.returns_bind,
      Outcome.bind_assoc]
    rw [safe_orStop_bind_iff hran, readRicRequestId_isSome_iff]
    simp [CutShort]

theorem safe_e2apDecSubscriptionResponse_iff {pdu : E2apPdu}
    (hpdu : pdu.present = .successfulOutcome ∧ pdu.procedureCode = .ricSubscription ∧
      pdu.value = .ricSubscriptionResponse) :
    (e2apDecSubscriptionResponse pdu).Safe ↔ (pdu.criticality = .reject → ¬CutShort
      [IsRicRequestId true, IsRanFunctionId maxNumRanFuncId, IsActionsAdmitted]
      pdu.protocolIEs) := by
  obtain ⟨present, code, crit, value, list⟩ := pdu
  obtain ⟨rfl, rfl, rfl⟩ := hpdu
  simp only [e2apDecSubscriptionResponse, Outcome.safe_check_bind, true_implies]
  refine imp_congr_right fun _ => safe_e2apDecRicGenId_bind_iff ?_
  rintro req ran ies rfl id
  cases ies with
  | nil => simp [read_cons_succ, read_nil, CutShort]
  | cons adm ies =>
    cases ies with
    | nil =>
      simp only [read_cons_succ, read_cons_zero, read_nil, Outcome.returns_bind,
        Outcome.faults_bind]
      rw [safe_orStop_bind_iff fun _ => iff_false_intro Outcome.not_safe_faults,
        decAdmittedIe_isSome_iff]
      simp [CutShort]
    | cons notAdm ies => simp [read_cons_succ, read_cons_zero, CutShort]

theorem safe_e2apDecSubscriptionFailure_iff {pdu : E2apPdu}
    (hpdu : pdu.present = .unsuccessfulOutcome ∧ pdu.procedureCode = .ricSubscription ∧
      pdu.value = .ricSubscriptionFailure) :
    (e2apDecSubscriptionFailure pdu).Safe ↔ (pdu.criticality = .reject → ¬CutShort
      [IsRicRequestId false, IsRanFunctionId maxRanFuncId] pdu.protocolIEs) := by
  obtain ⟨present, code, crit, value, list⟩ := pdu
  obtain ⟨rfl, rfl, rfl⟩ := hpdu
  simp only [e2apDecSubscriptionFailure, Outcome.safe_check_bind, true_implies]
  refine imp_congr_right fun _ => safe_e2apDecRicGenId_bind_iff ?_
  rintro req ran ies rfl id
  cases ies with
  | nil => simp [read_cons_succ, read_nil, CutShort]
  | cons notAdm ies => simp [read_cons_succ, read_cons_zero, CutShort]

theorem safe_e2apDecIndication_iff {pdu : E2apPdu}
    (hpdu : pdu.present = .initiatingMessage ∧ pdu.procedureCode = .ricIndication ∧
      pdu.value = .ricIndication) :
    (e2apDecIndication pdu).Safe ↔ (pdu.criticality = .reject → ¬CutShort
      [IsRicRequestId true, IsRanFunctionId maxRanFuncId] pdu.protocolIEs) := by
  obtain ⟨present, code, crit, value, list⟩ := pdu
  obtain ⟨rfl, rfl, rfl⟩ := hpdu
  simp only [e2apDecIndication, Outcome.safe_check_bind, Outcome.loop_up, true_implies]
  refine imp_congr_right fun _ => safe_e2apDecRicGenId_bind_iff ?_
  rintro req ran ies rfl id
  cases ies with
  | nil => simp [read_cons_succ, read_nil, CutShort]
  | cons act ies =>
    obtain ⟨actId, actCrit, actVal⟩ := act
    have hloop : ∀ ind, (ies.foldlM (fun ind ie => orStop (decIndicationIe ind ie)) ind).Safe :=
      Outcome.safe_foldlM fun _ _ _ => Outcome.safe_orStop _
    cases actVal <;>
      simp [read_cons_succ, read_cons_zero, CutShort, (hloop _).bind]

/-! ## The decoders that read in loops -/

/-- What one IE of an error indication does. -/
theorem e2apDecErrorIndicationIe_spec (dst : E2apErrorIndication) (ie : Ie) :
    ((e2apDecErrorIndicationIe dst ie).Safe ↔
        (dst.ricId = none → ¬IsRanFunctionId maxNumRanFuncId ie)) ∧
      ((∃ dst', e2apDecErrorIndicationIe dst ie = .returns dst' ∧ dst'.ricId = none) ↔
        dst.ricId = none ∧ IsCause ie) := by
  obtain ⟨id, crit, value⟩ := ie
  by_cases hcrit : crit = .reject
  · subst hcrit
    simp only [e2apDecErrorIndicationIe, check, if_true, Outcome.returns_bind]
    split
    · simp [IsRanFunctionId, IsCause]
    · next func =>
      obtain ⟨_ | ricId, cause, critDiag⟩ := dst <;> by_cases hfunc : func < maxNumRanFuncId <;>
        simp [IsRanFunctionId, IsCause, hfunc, orFault]
    · next c =>
      cases hdec : decCause c <;>
        simp [IsRanFunctionId, IsCause, orStop, ← decCause_isSome_iff, hdec]
    · next hreq hran hcause =>
      have hfunc : ¬IsRanFunctionId maxNumRanFuncId ⟨id, .reject, value⟩ := by
        rintro ⟨hid, -, func, hvalue, -⟩
        exact hran func hid hvalue
      have hc : ¬IsCause ⟨id, .reject, value⟩ := by
        rintro ⟨hid, -, c, hvalue, -⟩
        exact hcause c hid hvalue
      simp [hfunc, hc]
  · simp [e2apDecErrorIndicationIe, check, hcrit, IsRanFunctionId, IsCause]

/-- The RAN function ID is stored safely only behind a RIC request ID. -/
theorem safe_errorIndication_loop_iff {ies : List Ie} {dst : E2apErrorIndication} :
    (ies.foldlM e2apDecErrorIndicationIe dst).Safe ↔
      (dst.ricId = none → ¬NamesFunctionFirst ies) := by
  induction ies generalizing dst with
  | nil => simp [NamesFunctionFirst]
  | cons ie ies ih =>
    obtain ⟨hsafe, hnone⟩ := e2apDecErrorIndicationIe_spec dst ie
    rw [List.foldlM_cons, Outcome.safe_bind, hsafe, NamesFunctionFirst]
    simp only [ih]
    constructor
    · rintro ⟨hfirst, hrest⟩ hdst (hran | ⟨hcause, hlater⟩)
      · exact hfirst hdst hran
      · obtain ⟨dst', hdst', hnone'⟩ := hnone.2 ⟨hdst, hcause⟩
        exact hrest dst' hdst' hnone' hlater
    · intro h
      refine ⟨fun hdst hran => h hdst (.inl hran), fun dst' hdst' hnone' hlater => ?_⟩
      obtain ⟨hdst, hcause⟩ := hnone.1 ⟨dst', hdst', hnone'⟩
      exact h hdst (.inr ⟨hcause, hlater⟩)

theorem safe_e2apDecErrorIndication_iff {pdu : E2apPdu}
    (hpdu : pdu.present = .initiatingMessage ∧ pdu.procedureCode = .errorIndication ∧
      pdu.value = .errorIndication) :
    (e2apDecErrorIndication pdu).Safe ↔
      (pdu.criticality = .reject → ¬NamesFunctionFirst pdu.protocolIEs) := by
  obtain ⟨present, code, crit, value, list⟩ := pdu
  obtain ⟨rfl, rfl, rfl⟩ := hpdu
  simp only [e2apDecErrorIndication, Outcome.safe_check_bind, Outcome.loop_up, true_implies]
  refine imp_congr_right fun _ => ?_
  rw [Outcome.safe_bind, List.drop_zero, safe_errorIndication_loop_iff]
  simp

theorem safe_e2apDecGlobalE2nodeId {id : Asn.GlobalE2nodeId} (h : id.Sized) :
    (e2apDecGlobalE2nodeId id).Safe := by
  cases id with
  | gNB gnb =>
    obtain ⟨plmnId, gnbID, cuUpId, duId⟩ := gnb
    obtain ⟨hplmn, hgnb⟩ := h
    refine Outcome.safe_orFault_bind.2 ?_
    obtain ⟨plmn, hplmn⟩ := Option.isSome_iff_exists.1 (Asn.plmnIdToMccMnc_isSome hplmn)
    refine ⟨plmn, hplmn, Outcome.safe_check_bind.2 fun hbits => Outcome.safe_orFault_bind.2 ?_⟩
    obtain ⟨nbId, hnbId⟩ :=
      Option.isSome_iff_exists.1 (Asn.bitStringToMacroGnbId_isSome hgnb hbits)
    refine ⟨nbId, hnbId, ?_⟩
    cases cuUpId <;> cases duId <;> exact Outcome.safe_returns _
  | eNB enb =>
    obtain ⟨plmnId, eNBID⟩ := enb
    obtain ⟨hplmn, henb⟩ := h
    cases eNBID with
    | macroENBID bs =>
      refine Outcome.safe_orFault_bind.2 ?_
      obtain ⟨plmn, hplmn⟩ := Option.isSome_iff_exists.1 (Asn.plmnIdToMccMnc_isSome hplmn)
      refine ⟨plmn, hplmn, Outcome.safe_check_bind.2 fun hbits => Outcome.safe_orFault_bind.2 ?_⟩
      obtain ⟨nbId, hnbId⟩ :=
        Option.isSome_iff_exists.1 (Asn.bitStringToMacroEnbId_isSome henb hbits)
      exact ⟨nbId, hnbId, Outcome.safe_returns _⟩
    | _ => exact Outcome.safe_stops
  | _ => exact Outcome.safe_stops

theorem decComponentConfig_isSome {u : Asn.E2nodeComponentConfigUpdate} (h : u.Tagged) :
    (decComponentConfig u).isSome := by
  obtain ⟨present, choice⟩ := u
  cases present <;> cases choice <;> first | rfl | exact h.elim

theorem safe_e2apDecSetupRequestIe {sr : E2SetupRequest} {ie : Ie} (h : ie.value.Constrained) :
    (e2apDecSetupRequestIe sr ie).Safe := by
  obtain ⟨id, crit, value⟩ := ie
  refine Outcome.safe_check_bind.2 fun _ => ?_
  dsimp only
  split
  · exact (Outcome.safe_orStop _).bind fun _ => Outcome.safe_returns _
  · refine Outcome.safe_check_bind.2 fun _ => Outcome.Safe.bind (Outcome.safe_mapM ?_)
      fun _ => Outcome.safe_returns _
    intro item hitem
    refine Outcome.safe_check_bind.2 fun _ => Outcome.safe_check_bind.2 fun _ =>
      Outcome.safe_orStop_bind.2 fun _ _ => Outcome.safe_orFault_bind.2 ?_
    obtain ⟨update, hupdate⟩ :=
      Option.isSome_iff_exists.1 (decComponentConfig_isSome (h item hitem))
    exact ⟨update, hupdate, Outcome.safe_returns _⟩
  · exact Outcome.safe_stops

/-- A setup request cannot harm its decoder. -/
theorem safe_e2apDecSetupRequest {pdu : E2apPdu} (h : pdu.Constrained) :
    (e2apDecSetupRequest pdu).Safe := by
  obtain ⟨present, code, crit, value, list⟩ := pdu
  simp only [e2apDecSetupRequest, Outcome.safe_check_bind, Outcome.loop_down]
  rintro - - - - ⟨hpos, -⟩
  cases list with
  | nil => exact absurd hpos (Nat.lt_irrefl _)
  | cons node ies =>
    obtain ⟨nodeId, nodeCrit, nodeVal⟩ := node
    obtain ⟨hnode, hies⟩ := List.forall_mem_cons.1 h
    rw [read_cons_zero, Outcome.returns_bind]
    refine Outcome.safe_check_bind.2 fun _ => Outcome.safe_check_bind.2 fun _ => ?_
    cases nodeVal with
    | globalE2nodeID id =>
      refine (safe_e2apDecGlobalE2nodeId hnode).bind fun _ => Outcome.Safe.bind ?_
        fun _ => Outcome.safe_returns _
      refine Outcome.safe_foldlM (fun sr ie hie => safe_e2apDecSetupRequestIe (hies ie ?_)) _
      simpa using hie
    | _ => exact Outcome.safe_stops

/-! ## All five -/

/-- A decoder of a message that comes from a peer. -/
inductive PeerDecoder : Type where
  | subscriptionResponse
  | subscriptionFailure
  | indication
  | errorIndication
  | setupRequest
  deriving DecidableEq, Repr

namespace PeerDecoder

/-- What the decoder does with a PDU. -/
def run : PeerDecoder → E2apPdu → Outcome E2apMsg
  | subscriptionResponse => e2apDecSubscriptionResponse
  | subscriptionFailure => e2apDecSubscriptionFailure
  | indication => e2apDecIndication
  | errorIndication => e2apDecErrorIndication
  | setupRequest => e2apDecSetupRequest

/-- The PDU is of the type that the decoder expects. -/
def Expects : PeerDecoder → E2apPdu → Prop
  | subscriptionResponse, pdu => pdu.present = .successfulOutcome ∧
      pdu.procedureCode = .ricSubscription ∧ pdu.value = .ricSubscriptionResponse
  | subscriptionFailure, pdu => pdu.present = .unsuccessfulOutcome ∧
      pdu.procedureCode = .ricSubscription ∧ pdu.value = .ricSubscriptionFailure
  | indication, pdu => pdu.present = .initiatingMessage ∧
      pdu.procedureCode = .ricIndication ∧ pdu.value = .ricIndication
  | errorIndication, pdu => pdu.present = .initiatingMessage ∧
      pdu.procedureCode = .errorIndication ∧ pdu.value = .errorIndication
  | setupRequest, pdu => pdu.present = .initiatingMessage ∧
      pdu.procedureCode = .e2setup ∧ pdu.value = .e2setupRequest

/-- The IEs that mislead the decoder. -/
def Misleads (ies : List Ie) : PeerDecoder → Prop
  | subscriptionResponse =>
      CutShort [IsRicRequestId true, IsRanFunctionId maxNumRanFuncId, IsActionsAdmitted] ies
  | subscriptionFailure => CutShort [IsRicRequestId false, IsRanFunctionId maxRanFuncId] ies
  | indication => CutShort [IsRicRequestId true, IsRanFunctionId maxRanFuncId] ies
  | errorIndication => NamesFunctionFirst ies
  | setupRequest => False

/-- The decoder that the message table calls is this one. -/
theorem toOption_run {d : PeerDecoder} {pdu : E2apPdu} (h : d.Expects pdu) :
    (d.run pdu).toOption = e2apMsgDec pdu := by
  obtain ⟨present, code, crit, value, list⟩ := pdu
  cases d <;> obtain ⟨rfl, rfl, rfl⟩ := h
  · exact toOption_e2apDecSubscriptionResponse _
  · exact toOption_e2apDecSubscriptionFailure _
  · exact toOption_e2apDecIndication _
  · exact toOption_e2apDecErrorIndication _
  · exact toOption_e2apDecSetupRequest _

end PeerDecoder

/-- A decoder returns a message or stops at a check, unless the IEs mislead it. -/
theorem peerDecoder_safe_iff {d : PeerDecoder} {pdu : E2apPdu} (hpdu : d.Expects pdu)
    (h : pdu.Constrained) :
    (d.run pdu).Safe ↔ (pdu.criticality = .reject → ¬d.Misleads pdu.protocolIEs) := by
  cases d with
  | subscriptionResponse => exact safe_e2apDecSubscriptionResponse_iff hpdu
  | subscriptionFailure => exact safe_e2apDecSubscriptionFailure_iff hpdu
  | indication => exact safe_e2apDecIndication_iff hpdu
  | errorIndication => exact safe_e2apDecErrorIndication_iff hpdu
  | setupRequest => exact iff_of_true (safe_e2apDecSetupRequest h) fun _ => id

/-- A subscription response with these IEs behind the two ids. -/
def responsePdu (ies : List Ie) : E2apPdu where
  present := .successfulOutcome
  procedureCode := .ricSubscription
  criticality := .reject
  value := .ricSubscriptionResponse
  protocolIEs := ⟨.ricRequestID, .reject, .ricRequestID 1 0⟩ ::
    ⟨.ranFunctionID, .reject, .ranFunctionID 142⟩ :: ies

/-- An error indication with these IEs. -/
def errorPdu (ies : List Ie) : E2apPdu where
  present := .initiatingMessage
  procedureCode := .errorIndication
  criticality := .reject
  value := .errorIndication
  protocolIEs := ies

/-- The first action is admitted. -/
def admittedIe : Ie :=
  ⟨.ricActionsAdmitted, .reject, .ricActionAdmittedList [⟨.ricActionAdmittedItem, .reject, 1⟩]⟩

theorem peerDecoder_safe_response :
    (PeerDecoder.subscriptionResponse.run (responsePdu
      [admittedIe, ⟨.ricActionsNotAdmitted, .reject, .ricActionNotAdmittedList []⟩])).Safe := by
  have hpdu : PeerDecoder.subscriptionResponse.Expects (responsePdu
      [admittedIe, ⟨.ricActionsNotAdmitted, .reject, .ricActionNotAdmittedList []⟩]) :=
    ⟨rfl, rfl, rfl⟩
  refine (peerDecoder_safe_iff hpdu ?_).2 fun _ => not_cutShort_of_lt (by decide)
  simp [E2apPdu.Constrained, responsePdu, admittedIe, Asn.IeValue.Constrained]

/-- A response without the list of the actions that are not admitted, which may be left out, is
read past its end. An error indication that names a RAN function only is stored through a null
pointer. -/
theorem peerDecoder_unsafe :
    (PeerDecoder.subscriptionResponse.Expects (responsePdu [admittedIe]) ∧
      (responsePdu [admittedIe]).Constrained ∧
      PeerDecoder.subscriptionResponse.run (responsePdu [admittedIe]) = .faults .pastEnd ∧
      ¬(PeerDecoder.subscriptionResponse.run (responsePdu [admittedIe])).Safe) ∧
    PeerDecoder.errorIndication.Expects
        (errorPdu [⟨.ranFunctionID, .reject, .ranFunctionID 142⟩]) ∧
      (errorPdu [⟨.ranFunctionID, .reject, .ranFunctionID 142⟩]).Constrained ∧
      PeerDecoder.errorIndication.run
        (errorPdu [⟨.ranFunctionID, .reject, .ranFunctionID 142⟩]) = .faults .unset ∧
      ¬(PeerDecoder.errorIndication.run
        (errorPdu [⟨.ranFunctionID, .reject, .ranFunctionID 142⟩])).Safe := by
  have hresponse : PeerDecoder.subscriptionResponse.run (responsePdu [admittedIe]) =
      .faults .pastEnd := by decide
  have herror : PeerDecoder.errorIndication.run
      (errorPdu [⟨.ranFunctionID, .reject, .ranFunctionID 142⟩]) = .faults .unset := by decide
  refine ⟨⟨⟨rfl, rfl, rfl⟩, ?_, hresponse, fun h => h _ hresponse⟩, ⟨rfl, rfl, rfl⟩, ?_, herror,
    fun h => h _ herror⟩
  · simp [E2apPdu.Constrained, responsePdu, admittedIe, Asn.IeValue.Constrained]
  · simp [E2apPdu.Constrained, errorPdu, Asn.IeValue.Constrained]

end Ap

end FlexRic
