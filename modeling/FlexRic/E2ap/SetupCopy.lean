import FlexRic.E2ap.Dec
import FlexRic.Semantics.Outcome

/-!
# Copies of setup requests (`lib/ap/e2ap_types/e2_setup_request.c`)

`cp_e2_setup_request` with the functions below it, on the requests that `e2ap_dec_setup_request`
makes. The decoder leaves the pointer to a byte string null when the peer has not sent it, and
`create_assign_ba` goes through the pointer in any case. The copy has the pointers to the id of the
central or distributed unit and to the kind of a component id in common with the source.
-/

namespace FlexRic.Ap

open Outcome

/-! ## The code -/

/-- `copy_byte_array`. -/
def copyByteArray (src : List UInt8) : List UInt8 := src

/-- `cp_ran_function`. -/
def cpRanFunction (src : RanFunction) : RanFunction where
  id := src.id
  rev := src.rev
  definition := copyByteArray src.definition
  oid := src.oid.map copyByteArray

/-- `create_assign_ba`, which does not ask whether there is a byte array. -/
def createAssignBa (src : Option (List UInt8)) : Outcome (Option (List UInt8)) := do
  let ba ← orFault .unset src
  return some (copyByteArray ba)

/-- The branches of `cp_e2_node_component_config_update`: there is none for no update. -/
def cpComponentConfig : E2NodeComponentConfig → Outcome E2NodeComponentConfig
  | .gnb ngap xnap e1ap f1ap => do
    let ngap ← createAssignBa ngap
    let xnap ← createAssignBa xnap
    let e1ap ← createAssignBa e1ap
    let f1ap ← createAssignBa f1ap
    return .gnb ngap xnap e1ap f1ap
  | .enGnb x2ap => do
    let x2ap ← createAssignBa x2ap
    return .enGnb x2ap
  | .ngEnb ngap xnap => do
    let ngap ← createAssignBa ngap
    let xnap ← createAssignBa xnap
    return .ngEnb ngap xnap
  | .enb s1ap x2ap => do
    let s1ap ← createAssignBa s1ap
    let x2ap ← createAssignBa x2ap
    return .enb s1ap x2ap
  | .nothing => stops

/-- `cp_e2_node_component_config_update`. -/
def cpE2NodeComponentConfigUpdate (src : E2NodeComponentConfigUpdate) :
    Outcome E2NodeComponentConfigUpdate := do
  let update ← cpComponentConfig src.update
  return { e2NodeComponentType := src.e2NodeComponentType, id := src.id, update := update }

/-- `cp_e2_setup_request`. -/
def cpE2SetupRequest (src : E2SetupRequest) : Outcome E2SetupRequest := do
  let ranFuncItem := src.ranFuncItem.map cpRanFunction
  let compConfUpdate ← src.compConfUpdate.mapM cpE2NodeComponentConfigUpdate
  return { id := src.id, ranFuncItem := ranFuncItem, compConfUpdate := compConfUpdate }

/-! ## One component -/

/-- The pointers to byte strings of an update. -/
def E2NodeComponentConfig.parts : E2NodeComponentConfig → List (Option (List UInt8))
  | .gnb ngap xnap e1ap f1ap => [ngap, xnap, e1ap, f1ap]
  | .enGnb x2ap => [x2ap]
  | .ngEnb ngap xnap => [ngap, xnap]
  | .enb s1ap x2ap => [s1ap, x2ap]
  | .nothing => []

/-- Every byte string that an update of its kind may have is there. -/
def E2NodeComponentConfig.Complete (update : E2NodeComponentConfig) : Prop :=
  ∀ ba ∈ update.parts, ba.isSome

instance (update : E2NodeComponentConfig) : Decidable update.Complete :=
  inferInstanceAs (Decidable (∀ ba ∈ update.parts, ba.isSome))

theorem cpRanFunction_eq (src : RanFunction) : cpRanFunction src = src := by
  cases src with
  | mk definition id rev oid =>
    rw [cpRanFunction]
    cases oid <;> rfl

/-- A kind of update is copied if all of its byte strings are there. -/
theorem cpComponentConfig_eq {src : E2NodeComponentConfig} (h : src ≠ .nothing) :
    cpComponentConfig src = if src.Complete then returns src else faults .unset := by
  cases src with
  | nothing => exact absurd rfl h
  | gnb ngap xnap e1ap f1ap =>
    cases ngap <;> cases xnap <;> cases e1ap <;> cases f1ap <;> rfl
  | enGnb x2ap => cases x2ap <;> rfl
  | ngEnb ngap xnap => cases ngap <;> cases xnap <;> rfl
  | enb s1ap x2ap => cases s1ap <;> cases x2ap <;> rfl

theorem cpE2NodeComponentConfigUpdate_eq {src : E2NodeComponentConfigUpdate}
    (h : src.update ≠ .nothing) : cpE2NodeComponentConfigUpdate src =
      if src.update.Complete then returns src else faults .unset := by
  rw [cpE2NodeComponentConfigUpdate, cpComponentConfig_eq h]
  split <;> rfl

/-! ## What the decoder returns -/

/-- Every component is updated in one of the four ways. -/
def E2SetupRequest.Updated (sr : E2SetupRequest) : Prop :=
  ∀ c ∈ sr.compConfUpdate, c.update ≠ .nothing

theorem ne_nothing_of_decComponentConfig {src : Asn.E2nodeComponentConfigUpdate}
    {update : E2NodeComponentConfig} (h : decComponentConfig src = some update) :
    update ≠ .nothing := by
  rintro rfl
  obtain ⟨present, choice⟩ := src
  cases present <;> cases choice <;> cases h

theorem ne_nothing_of_decComponentConfUpdate
    {item : Asn.ProtocolIeField Asn.E2nodeComponentConfigUpdateItem}
    {c : E2NodeComponentConfigUpdate} (h : decComponentConfUpdate item = some c) :
    c.update ≠ .nothing := by
  simp only [decComponentConfUpdate, Option.bind_eq_bind, Option.bind_eq_some_iff] at h
  obtain ⟨_, -, _, -, type, -, update, hupdate, heq⟩ := h
  cases heq
  exact ne_nothing_of_decComponentConfig hupdate

theorem updated_of_decComponentConfUpdates
    {items : List (Asn.ProtocolIeField Asn.E2nodeComponentConfigUpdateItem)}
    {cs : List E2NodeComponentConfigUpdate} (h : decComponentConfUpdates items = some cs) :
    ∀ c ∈ cs, c.update ≠ .nothing := by
  have hall := mapM_eq_some_iff.1 (assert_bind_eq_some.1 h).2
  clear h
  induction hall with
  | nil => exact fun c hc => absurd hc List.not_mem_nil
  | cons hitem _ ih =>
    exact List.forall_mem_cons.2 ⟨ne_nothing_of_decComponentConfUpdate hitem, ih⟩

/-- One turn of the loop over the IEs. -/
theorem updated_of_decSetupRequestIe {sr sr' : E2SetupRequest} {ie : Asn.Ie} (h : sr.Updated)
    (hie : decSetupRequestIe sr ie = some sr') : sr'.Updated := by
  obtain ⟨-, hie⟩ := assert_bind_eq_some.1 hie
  split at hie
  · obtain ⟨fs, -, heq⟩ := Option.bind_eq_some_iff.1 hie
    cases heq
    exact h
  · obtain ⟨cs, hcs, heq⟩ := Option.bind_eq_some_iff.1 hie
    cases heq
    exact updated_of_decComponentConfUpdates hcs
  · cases hie

/-- The loop over the IEs. -/
theorem updated_of_foldlM {ies : List Asn.Ie} {sr sr' : E2SetupRequest} (h : sr.Updated)
    (hies : ies.foldlM decSetupRequestIe sr = some sr') : sr'.Updated := by
  induction ies generalizing sr with
  | nil =>
    cases hies
    exact h
  | cons ie ies ih =>
    rw [List.foldlM_cons] at hies
    obtain ⟨sr₁, hie, hies⟩ := Option.bind_eq_some_iff.1 hies
    exact ih (updated_of_decSetupRequestIe h hie) hies

theorem updated_of_decSetupRequest {pdu : Asn.E2apPdu} {sr : E2SetupRequest}
    (h : decSetupRequest pdu = some (.e2SetupRequest sr)) : sr.Updated := by
  simp only [decSetupRequest, Option.bind_eq_bind, assert_bind_eq_some] at h
  obtain ⟨-, -, -, -, h⟩ := h
  cases hies : pdu.protocolIEs with
  | nil =>
    rw [hies] at h
    cases h
  | cons node ies =>
    simp only [hies, Option.bind_eq_some_iff] at h
    obtain ⟨_, -, id, -, sr', hloop, heq⟩ := h
    cases heq
    exact updated_of_foldlM (fun c hc => absurd hc List.not_mem_nil) hloop

/-! ## Requests -/

/-- A loop whose turns copy their elements or go through a null pointer. -/
theorem mapM_copy {A : Type} {cp : A → Outcome A} {p : A → Prop} [DecidablePred p] {l : List A}
    (h : ∀ a ∈ l, cp a = if p a then returns a else faults .unset) :
    l.mapM cp = if ∀ a ∈ l, p a then returns l else faults .unset := by
  induction l with
  | nil => exact (if_pos fun a ha => absurd ha List.not_mem_nil).symm
  | cons a l ih =>
    obtain ⟨ha, hl⟩ := List.forall_mem_cons.1 h
    rw [List.mapM_cons, ha, ih hl]
    by_cases hp : p a
    · by_cases hps : ∀ a ∈ l, p a
      · rw [if_pos hp, if_pos hps, if_pos (List.forall_mem_cons.2 ⟨hp, hps⟩)]
        rfl
      · rw [if_pos hp, if_neg hps, if_neg fun hall => hps (List.forall_mem_cons.1 hall).2]
        rfl
    · rw [if_neg hp, if_neg fun hall => hp (List.forall_mem_cons.1 hall).1]
      rfl

/-- No byte string is missing in any of the components. -/
def E2SetupRequest.Complete (sr : E2SetupRequest) : Prop :=
  ∀ c ∈ sr.compConfUpdate, c.update.Complete

instance (sr : E2SetupRequest) : Decidable sr.Complete :=
  inferInstanceAs (Decidable (∀ c ∈ sr.compConfUpdate, c.update.Complete))

/-- The copy of a request comes back and is the request, or goes through a null pointer. -/
theorem E2SetupRequest.Updated.cpE2SetupRequest_eq {sr : E2SetupRequest} (h : sr.Updated) :
    cpE2SetupRequest sr = if sr.Complete then returns sr else faults .unset := by
  have hranFunc : sr.ranFuncItem.map cpRanFunction = sr.ranFuncItem := by
    rw [funext cpRanFunction_eq, List.map_id'']
    exact fun rf => rfl
  have hcomponents : sr.compConfUpdate.mapM cpE2NodeComponentConfigUpdate =
      if sr.Complete then returns sr.compConfUpdate else faults .unset :=
    mapM_copy fun c hc => cpE2NodeComponentConfigUpdate_eq (h c hc)
  rw [cpE2SetupRequest, hranFunc, hcomponents]
  by_cases hcomplete : sr.Complete
  · rw [if_pos hcomplete, if_pos hcomplete]
    rfl
  · rw [if_neg hcomplete, if_neg hcomplete]
    rfl

/-- A request that the decoder returns is copied as it is if and only if no component misses a byte
string; otherwise the copy goes through a null pointer. -/
theorem cpE2SetupRequest_decoded {pdu : Asn.E2apPdu} {sr : E2SetupRequest}
    (h : decSetupRequest pdu = some (.e2SetupRequest sr)) :
    (cpE2SetupRequest sr = returns sr ↔ sr.Complete) ∧
      (¬sr.Complete → cpE2SetupRequest sr = faults .unset) := by
  rw [(updated_of_decSetupRequest h).cpE2SetupRequest_eq]
  by_cases hcomplete : sr.Complete
  · rw [if_pos hcomplete]
    exact ⟨iff_of_true rfl hcomplete, fun hnot => absurd hcomplete hnot⟩
  · rw [if_neg hcomplete]
    exact ⟨iff_of_false nofun hcomplete, fun _ => rfl⟩

/-- The setup request of a gNB with one component. -/
def setupRequestPdu (xnAP : Option Asn.OctetString) : Asn.E2apPdu where
  present := .initiatingMessage
  procedureCode := .e2setup
  criticality := .reject
  value := .e2setupRequest
  protocolIEs := [
    ⟨.globalE2nodeID, .reject, .globalE2nodeID (.gNB {
      plmnId := [0x05, 0xf5, 0x10]
      gnbID := ⟨[0, 0, 0, 16], 4⟩
      gNBCUUPID := none
      gNBDUID := none })⟩,
    ⟨.e2nodeComponentConfigUpdate, .reject, .e2nodeComponentConfigUpdateList [
      ⟨.e2nodeComponentConfigUpdateItem, .reject, {
        e2nodeComponentType := 0
        e2nodeComponentID := none
        e2nodeComponentConfigUpdate :=
          ⟨.gNBconfigUpdate, .gNB (some [1]) xnAP (some [2]) (some [3])⟩ }⟩]⟩]

/-- What the decoder makes of it. -/
def setupRequestOf (xnap : Option (List UInt8)) : E2SetupRequest where
  id := ⟨.gNB, ⟨505, 1, 2⟩, 1, none⟩
  ranFuncItem := []
  compConfUpdate := [⟨.gnb, none, .gnb (some [1]) xnap (some [2]) (some [3])⟩]

theorem cpE2SetupRequest_decoded_gnb :
    decSetupRequest (setupRequestPdu (some [4])) =
        some (.e2SetupRequest (setupRequestOf (some [4]))) ∧
      cpE2SetupRequest (setupRequestOf (some [4])) = returns (setupRequestOf (some [4])) := by
  have hdec : decSetupRequest (setupRequestPdu (some [4])) =
      some (.e2SetupRequest (setupRequestOf (some [4]))) := by decide
  exact ⟨hdec, (cpE2SetupRequest_decoded hdec).1.2 (by decide)⟩

/-- A peer that leaves out one byte string makes the copy go through a null pointer. -/
theorem cpE2SetupRequest_unset :
    decSetupRequest (setupRequestPdu none) = some (.e2SetupRequest (setupRequestOf none)) ∧
      cpE2SetupRequest (setupRequestOf none) = faults .unset := by
  decide

end FlexRic.Ap
