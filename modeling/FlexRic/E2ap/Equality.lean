import FlexRic.E2ap.Messages
import FlexRic.Semantics.Comparing

/-!
# Equality of E2AP messages (`lib/ap/e2ap_types`)

`eq_ric_service_update` and `eq_e2_setup_response` with the functions below them. The loop over the
modified functions leaves at the first pair that is equal, and the loop over the components compares
the first ones each time.
-/

namespace FlexRic.Ap

open Outcome

/-! ## The code of the service update -/

/-- Two pointers, to one object or to two. -/
inductive Pointers (A : Type) : Type where
  | one (m : A)
  | two (m₀ m₁ : A)

/-- What the first pointer points to. -/
def Pointers.fst {A : Type} : Pointers A → A
  | one m => m
  | two m₀ _ => m₀

/-- What the second pointer points to. -/
def Pointers.snd {A : Type} : Pointers A → A
  | one m => m
  | two _ m₁ => m₁

/-- `eq_byte_array`. -/
def eqByteArray : Option (List UInt8) → Option (List UInt8) → Outcome Bool
  | none, none => return true
  | some m₀, some m₁ => allOf [test (m₀.length = m₁.length), test (m₀ = m₁)]
  | _, _ => return false

/-- `eq_ran_function`. -/
def eqRanFunction (m₀ m₁ : RanFunction) : Outcome Bool :=
  allOf [eqByteArray (some m₀.definition) (some m₁.definition), test (m₀.id = m₁.id),
    test (m₀.rev = m₁.rev), eqByteArray m₀.oid m₁.oid]

/-- `eq_ran_function_id_rev`. -/
def eqRanFunctionIdRev (m₀ m₁ : RanFunctionIdRev) : Outcome Bool :=
  allOf [test (m₀.id = m₁.id), test (m₀.rev = m₁.rev)]

/-- `eq_ric_service_update`: the loop over the modified functions leaves where two are equal. -/
def eqRicServiceUpdate : Pointers RicServiceUpdate → Outcome Bool
  | .one _ => return true
  | .two m₀ m₁ => allOf [
      test (m₀.added.length = m₁.added.length), eqArray eqRanFunction m₀.added m₁.added,
      test (m₀.modified.length = m₁.modified.length),
      eqArray (fun f₀ f₁ => negate (eqRanFunction f₀ f₁)) m₀.modified m₁.modified,
      test (m₀.deleted.length = m₁.deleted.length),
      eqArray eqRanFunctionIdRev m₀.deleted m₁.deleted]

/-! ## The code of the setup response -/

/-- `cause_t` in memory: the tag and the word of the union. -/
structure StoredCause : Type where
  present : UInt32
  word : UInt32
  deriving DecidableEq

/-- `rejected_ran_function_t`. -/
structure StoredRejectedRanFunction : Type where
  id : UInt16
  cause : StoredCause
  deriving DecidableEq

/-- `e2_node_component_id_present_e`. -/
inductive E2NodeComponentIdPresent : Type where
  | gnbCuUp
  | gnbDu
  deriving DecidableEq

/-- `e2_node_component_config_update_t` in memory: the id is there also if none is present. -/
structure StoredConfigUpdate : Type where
  e2NodeComponentType : E2NodeComponentType
  idPresent : Option E2NodeComponentIdPresent
  gnbCuUpId : UInt64
  update : E2NodeComponentConfig
  deriving DecidableEq

/-- `e2_setup_response_t`. -/
structure StoredE2SetupResponse : Type where
  id : GlobalRicId
  accepted : List UInt16
  rejected : List StoredRejectedRanFunction
  compConfUpdateAckList : List StoredConfigUpdate
  deriving DecidableEq

/-- `eq_plmn`. -/
def eqPlmn (m₀ m₁ : Plmn) : Outcome Bool :=
  allOf [test (m₀.mcc = m₁.mcc), test (m₀.mnc = m₁.mnc), test (m₀.mncDigitLen = m₁.mncDigitLen)]

/-- `eq_global_ric_id`. -/
def eqGlobalRicId (m₀ m₁ : GlobalRicId) : Outcome Bool :=
  allOf [eqPlmn m₀.plmn m₁.plmn, test (m₀.nearRicId = m₁.nearRicId)]

/-- `eq_cause`, which compares the bytes. -/
def eqCause (m₀ m₁ : StoredCause) : Outcome Bool := test (m₀ = m₁)

/-- `eq_rejected_ran_function`. -/
def eqRejectedRanFunction (m₀ m₁ : StoredRejectedRanFunction) : Outcome Bool :=
  allOf [test (m₀.id = m₁.id), eqCause m₀.cause m₁.cause]

/-- The branches of `eq_e2_node_component_config_update`: there is none for no update. -/
def eqComponentConfig : E2NodeComponentConfig → E2NodeComponentConfig → Outcome Bool
  | .gnb ngap₀ xnap₀ e1ap₀ f1ap₀, .gnb ngap₁ xnap₁ e1ap₁ f1ap₁ =>
    allOf [eqByteArray ngap₀ ngap₁, eqByteArray xnap₀ xnap₁, eqByteArray e1ap₀ e1ap₁,
      eqByteArray f1ap₀ f1ap₁]
  | .enGnb x2ap₀, .enGnb x2ap₁ => allOf [eqByteArray x2ap₀ x2ap₁]
  | .ngEnb ngap₀ xnap₀, .ngEnb ngap₁ xnap₁ =>
    allOf [eqByteArray ngap₀ ngap₁, eqByteArray xnap₀ xnap₁]
  | .enb s1ap₀ x2ap₀, .enb s1ap₁ x2ap₁ =>
    allOf [eqByteArray s1ap₀ s1ap₁, eqByteArray x2ap₀ x2ap₁]
  | .nothing, .nothing => stops
  | _, _ => return false

/-- `eq_e2_node_component_config_update`, where the pointers may be the same. -/
def eqE2NodeComponentConfigUpdate (same : Bool) (m₀ m₁ : StoredConfigUpdate) : Outcome Bool :=
  if same then return true
  else allOf [test (m₀.e2NodeComponentType = m₁.e2NodeComponentType),
    test (m₀.idPresent = m₁.idPresent), test (m₀.gnbCuUpId = m₁.gnbCuUpId),
    eqComponentConfig m₀.update m₁.update]

/-- The loop over the components, which compares the first ones each time. -/
def eqComponents (shared : Bool) : List StoredConfigUpdate → List StoredConfigUpdate → Outcome Bool
  | [], _ => return true
  | _ :: _, [] => faults .pastEnd
  | m₀ :: ms₀, m₁ :: _ =>
    allOf ((m₀ :: ms₀).map fun _ => eqE2NodeComponentConfigUpdate shared m₀ m₁)

/-- `eq_e2_setup_response`, where the two messages may share the array of the components. -/
def eqE2SetupResponse (shared : Bool) : Pointers StoredE2SetupResponse → Outcome Bool
  | .one _ => return true
  | .two m₀ m₁ => allOf [
      eqGlobalRicId m₀.id m₁.id,
      test (m₀.accepted.length = m₁.accepted.length),
      eqArray (fun a b => test (a = b)) m₀.accepted m₁.accepted,
      test (m₀.rejected.length = m₁.rejected.length),
      eqArray eqRejectedRanFunction m₀.rejected m₁.rejected,
      test (m₀.compConfUpdateAckList.length = m₁.compConfUpdateAckList.length),
      eqComponents shared m₀.compConfUpdateAckList m₁.compConfUpdateAckList]

/-! ## Comparisons that decide -/

theorem decides_eqByteArray (m₀ m₁ : Option (List UInt8)) :
    Decides (eqByteArray m₀ m₁) (m₀ = m₁) := by
  cases m₀ with
  | none =>
    cases m₁ with
    | none => exact decides_true rfl
    | some b => exact decides_false (Option.some_ne_none b).symm
  | some a =>
    cases m₁ with
    | none => exact decides_false (Option.some_ne_none a)
    | some b =>
      refine (decides_test.allOf_cons fun _ => decides_test.allOf_singleton).congr ?_
      rw [Option.some.injEq]
      constructor
      · exact And.right
      · intro h
        exact ⟨congrArg _ h, h⟩

theorem decides_eqRanFunction (m₀ m₁ : RanFunction) :
    Decides (eqRanFunction m₀ m₁) (m₀ = m₁) := by
  obtain ⟨def₀, id₀, rev₀, oid₀⟩ := m₀
  obtain ⟨def₁, id₁, rev₁, oid₁⟩ := m₁
  refine ((decides_eqByteArray _ _).allOf_cons fun _ => decides_test.allOf_cons fun _ =>
    decides_test.allOf_cons fun _ => (decides_eqByteArray _ _).allOf_singleton).congr ?_
  rw [RanFunction.mk.injEq, Option.some.injEq]

theorem decides_eqRanFunctionIdRev (m₀ m₁ : RanFunctionIdRev) :
    Decides (eqRanFunctionIdRev m₀ m₁) (m₀ = m₁) := by
  obtain ⟨id₀, rev₀⟩ := m₀
  obtain ⟨id₁, rev₁⟩ := m₁
  refine (decides_test.allOf_cons fun _ => decides_test.allOf_singleton).congr ?_
  rw [RanFunctionIdRev.mk.injEq]

theorem decides_eqGlobalRicId (m₀ m₁ : GlobalRicId) :
    Decides (eqGlobalRicId m₀ m₁) (m₀ = m₁) := by
  obtain ⟨⟨mcc₀, mnc₀, digits₀⟩, ric₀⟩ := m₀
  obtain ⟨⟨mcc₁, mnc₁, digits₁⟩, ric₁⟩ := m₁
  have hplmn : Decides (eqPlmn ⟨mcc₀, mnc₀, digits₀⟩ ⟨mcc₁, mnc₁, digits₁⟩) _ :=
    decides_test.allOf_cons fun _ => decides_test.allOf_cons fun _ => decides_test.allOf_singleton
  refine (hplmn.allOf_cons fun _ => decides_test.allOf_singleton).congr ?_
  rw [GlobalRicId.mk.injEq, Plmn.mk.injEq]

theorem decides_eqRejectedRanFunction (m₀ m₁ : StoredRejectedRanFunction) :
    Decides (eqRejectedRanFunction m₀ m₁) (m₀ = m₁) := by
  obtain ⟨id₀, cause₀⟩ := m₀
  obtain ⟨id₁, cause₁⟩ := m₁
  have hcause : Decides (eqCause cause₀ cause₁) (cause₀ = cause₁) := decides_test
  refine (decides_test.allOf_cons fun _ => hcause.allOf_singleton).congr ?_
  rw [StoredRejectedRanFunction.mk.injEq]

/-! ## The service update -/

/-- If everything else agrees, no function is modified, or the functions agree in one place and
differ in another. -/
def ServiceUpdateCompared : Pointers RicServiceUpdate → Prop
  | .one _ => True
  | .two m₀ m₁ => m₀.added = m₁.added → m₀.deleted = m₁.deleted →
      m₀.modified.length = m₁.modified.length → m₀.modified = [] ∨
        (∃ f ∈ m₀.modified.zip m₁.modified, f.1 = f.2) ∧
          ∃ f ∈ m₀.modified.zip m₁.modified, f.1 ≠ f.2

theorem decides_eqRicServiceUpdate (m₀ m₁ : RicServiceUpdate) :
    Decides (eqRicServiceUpdate (.two m₀ m₁)) (m₀.added = m₁.added ∧
      List.Forall₂ (fun f₀ f₁ => f₀ ≠ f₁) m₀.modified m₁.modified ∧ m₀.deleted = m₁.deleted) := by
  have hmodified : m₀.modified.length = m₁.modified.length →
      Decides (eqArray (fun f₀ f₁ => negate (eqRanFunction f₀ f₁)) m₀.modified m₁.modified)
        (List.Forall₂ (fun f₀ f₁ => f₀ ≠ f₁) m₀.modified m₁.modified) := fun hlen =>
    decides_eqArray hlen fun f₀ _ f₁ _ => (decides_eqRanFunction f₀ f₁).negate
  refine (decides_allOf_array decides_eqRanFunction fun _ => decides_test.allOf_cons fun hlen =>
    (hmodified hlen).allOf_cons fun _ => decides_allOf_array decides_eqRanFunctionIdRev fun _ =>
    decides_allOf_nil).congr ?_
  constructor
  · rintro ⟨hadded, -, hne, hdeleted, -⟩
    exact ⟨hadded, hne, hdeleted⟩
  · rintro ⟨hadded, hne, hdeleted⟩
    exact ⟨hadded, hne.length_eq, hne, hdeleted, trivial⟩

/-- Lists of the same length that are not empty cannot be different everywhere and be equal. So
"different everywhere" is the answer to "equal" where neither is the case. -/
theorem forall₂_ne_iff_eq {A : Type} {as bs : List A} (hlen : as.length = bs.length) :
    (List.Forall₂ (fun a b => a ≠ b) as bs ↔ as = bs) ↔
      as = [] ∨ (∃ p ∈ as.zip bs, p.1 = p.2) ∧ ∃ p ∈ as.zip bs, p.1 ≠ p.2 := by
  have hne : List.Forall₂ (fun a b => a ≠ b) as bs ↔ ∀ p ∈ as.zip bs, p.1 ≠ p.2 := by
    rw [List.forall₂_iff_zip, and_iff_right hlen, Prod.forall]
  have heq : as = bs ↔ ∀ p ∈ as.zip bs, p.1 = p.2 := by
    rw [← List.forall₂_eq_eq_eq, List.forall₂_iff_zip, and_iff_right hlen, Prod.forall]
  cases as with
  | nil =>
    rw [List.length_nil, eq_comm, List.length_eq_zero_iff] at hlen
    subst hlen
    exact iff_of_true (iff_of_true .nil rfl) (.inl rfl)
  | cons a as =>
    cases bs with
    | nil => cases hlen
    | cons b bs =>
      rw [hne, heq, or_iff_right (List.cons_ne_nil a as)]
      have hmem : (a, b) ∈ (a :: as).zip (b :: bs) := List.mem_cons_self
      constructor
      · intro hiff
        have hsame : ¬∀ p ∈ (a :: as).zip (b :: bs), p.1 = p.2 := fun h =>
          hiff.2 h _ hmem (h _ hmem)
        have hdiff : ¬∀ p ∈ (a :: as).zip (b :: bs), p.1 ≠ p.2 := fun h => hsame (hiff.1 h)
        push Not at hsame hdiff
        exact ⟨hdiff, hsame⟩
      · rintro ⟨⟨p, hp, hpeq⟩, q, hq, hqne⟩
        exact iff_of_false (fun h => h p hp hpeq) fun h => hqne (h q hq)

theorem eqRicServiceUpdate_decides_iff (ms : Pointers RicServiceUpdate) :
    Decides (eqRicServiceUpdate ms) (ms.fst = ms.snd) ↔ ServiceUpdateCompared ms := by
  cases ms with
  | one m => exact iff_of_true (decides_true rfl) trivial
  | two m₀ m₁ =>
    rw [(decides_eqRicServiceUpdate m₀ m₁).decides_iff]
    obtain ⟨added₀, modified₀, deleted₀⟩ := m₀
    obtain ⟨added₁, modified₁, deleted₁⟩ := m₁
    simp only [Pointers.fst, Pointers.snd, RicServiceUpdate.mk.injEq, ServiceUpdateCompared]
    by_cases hadded : added₀ = added₁
    · by_cases hdeleted : deleted₀ = deleted₁
      · by_cases hlen : modified₀.length = modified₁.length
        · rw [← forall₂_ne_iff_eq hlen]
          simp [hadded, hdeleted, hlen]
        · have hne : ¬List.Forall₂ (fun f₀ f₁ => f₀ ≠ f₁) modified₀ modified₁ := fun h =>
            hlen h.length_eq
          have heq : modified₀ ≠ modified₁ := fun h => hlen (congrArg _ h)
          simp [hne, heq, hlen]
      · simp [hdeleted]
    · simp [hadded]

/-! ## The setup response -/

/-- If everything before the components agrees and there are as many of them, they share an array,
or the first ones differ, or these are updated and the others agree. -/
def SetupResponseCompared (shared : Bool) : Pointers StoredE2SetupResponse → Prop
  | .one _ => True
  | .two m₀ m₁ => m₀.id = m₁.id → m₀.accepted = m₁.accepted → m₀.rejected = m₁.rejected →
      m₀.compConfUpdateAckList.length = m₁.compConfUpdateAckList.length → shared = true ∨
        ∀ c cs₀ cs₁, m₀.compConfUpdateAckList = c :: cs₀ → m₁.compConfUpdateAckList = c :: cs₁ →
          c.update ≠ .nothing ∧ cs₀ = cs₁

/-- Updates of different kinds. -/
theorem answers_eqComponentConfig_of_ne {m₀ m₁ : E2NodeComponentConfig} (hne : m₀ ≠ m₁)
    (h : eqComponentConfig m₀ m₁ = returns false) :
    Answers (eqComponentConfig m₀ m₁) (m₀ = .nothing ∧ m₁ = .nothing) (m₀ = m₁) := by
  rw [h]
  refine (decides_false hne).answers.congr (iff_of_false id ?_) Iff.rfl
  rintro ⟨rfl, rfl⟩
  exact hne rfl

/-- Updates of the same kind. -/
theorem answers_of_ne_nothing {o : Outcome Bool} {m₀ m₁ : E2NodeComponentConfig}
    {p : Prop} (h : Decides o p) (hp : p ↔ m₀ = m₁) (hne : m₀ ≠ .nothing) :
    Answers o (m₀ = .nothing ∧ m₁ = .nothing) (m₀ = m₁) :=
  h.answers.congr (iff_of_false id fun hn => hne hn.1) hp

/-- Two components that are not updated run into the assertion. -/
theorem answers_eqComponentConfig (m₀ m₁ : E2NodeComponentConfig) :
    Answers (eqComponentConfig m₀ m₁) (m₀ = .nothing ∧ m₁ = .nothing) (m₀ = m₁) := by
  cases m₀ with
  | nothing =>
    cases m₁ with
    | nothing => exact ⟨fun _ b hb => (by cases hb), fun h => absurd ⟨rfl, rfl⟩ h⟩
    | _ => exact answers_eqComponentConfig_of_ne (by simp) rfl
  | gnb ngap₀ xnap₀ e1ap₀ f1ap₀ =>
    cases m₁ with
    | gnb ngap₁ xnap₁ e1ap₁ f1ap₁ =>
      refine answers_of_ne_nothing ((decides_eqByteArray ngap₀ ngap₁).allOf_cons fun _ =>
        (decides_eqByteArray xnap₀ xnap₁).allOf_cons fun _ =>
        (decides_eqByteArray e1ap₀ e1ap₁).allOf_cons fun _ =>
        (decides_eqByteArray f1ap₀ f1ap₁).allOf_singleton) ?_ (by simp)
      rw [E2NodeComponentConfig.gnb.injEq]
    | _ => exact answers_eqComponentConfig_of_ne (by simp) rfl
  | enGnb x2ap₀ =>
    cases m₁ with
    | enGnb x2ap₁ =>
      refine answers_of_ne_nothing (decides_eqByteArray x2ap₀ x2ap₁).allOf_singleton ?_ (by simp)
      rw [E2NodeComponentConfig.enGnb.injEq]
    | _ => exact answers_eqComponentConfig_of_ne (by simp) rfl
  | ngEnb ngap₀ xnap₀ =>
    cases m₁ with
    | ngEnb ngap₁ xnap₁ =>
      refine answers_of_ne_nothing ((decides_eqByteArray ngap₀ ngap₁).allOf_cons fun _ =>
        (decides_eqByteArray xnap₀ xnap₁).allOf_singleton) ?_ (by simp)
      rw [E2NodeComponentConfig.ngEnb.injEq]
    | _ => exact answers_eqComponentConfig_of_ne (by simp) rfl
  | enb s1ap₀ x2ap₀ =>
    cases m₁ with
    | enb s1ap₁ x2ap₁ =>
      refine answers_of_ne_nothing ((decides_eqByteArray s1ap₀ s1ap₁).allOf_cons fun _ =>
        (decides_eqByteArray x2ap₀ x2ap₁).allOf_singleton) ?_ (by simp)
      rw [E2NodeComponentConfig.enb.injEq]
    | _ => exact answers_eqComponentConfig_of_ne (by simp) rfl

theorem answers_eqE2NodeComponentConfigUpdate (m₀ m₁ : StoredConfigUpdate) :
    Answers (eqE2NodeComponentConfigUpdate false m₀ m₁) (m₀ = m₁ ∧ m₀.update = .nothing)
      (m₀ = m₁) := by
  obtain ⟨type₀, present₀, id₀, update₀⟩ := m₀
  obtain ⟨type₁, present₁, id₁, update₁⟩ := m₁
  refine (decides_test.answers.allOf_cons fun _ => decides_test.answers.allOf_cons fun _ =>
    decides_test.answers.allOf_cons fun _ =>
    (answers_eqComponentConfig update₀ update₁).allOf_singleton).congr ?_ ?_
  · rw [StoredConfigUpdate.mk.injEq]
    simp only [false_or]
    constructor
    · rintro ⟨htype, hpresent, hid, rfl, rfl⟩
      exact ⟨⟨htype, hpresent, hid, rfl⟩, rfl⟩
    · rintro ⟨⟨htype, hpresent, hid, rfl⟩, rfl⟩
      exact ⟨htype, hpresent, hid, rfl, rfl⟩
  · rw [StoredConfigUpdate.mk.injEq]

/-- What the loop over the components does not come back from. -/
def ComponentsFail : List StoredConfigUpdate → List StoredConfigUpdate → Prop
  | c₀ :: _, c₁ :: _ => c₀ = c₁ ∧ c₀.update = .nothing
  | _, _ => False

/-- What the loop over the components takes for equal. -/
def ComponentsAlike : List StoredConfigUpdate → List StoredConfigUpdate → Prop
  | c₀ :: _, c₁ :: _ => c₀ = c₁
  | _, _ => True

theorem answers_eqComponents {cs₀ cs₁ : List StoredConfigUpdate}
    (hlen : cs₀.length = cs₁.length) :
    Answers (eqComponents false cs₀ cs₁) (ComponentsFail cs₀ cs₁) (ComponentsAlike cs₀ cs₁) := by
  cases cs₀ with
  | nil => exact decides_allOf_nil.answers
  | cons c₀ cs₀ =>
    cases cs₁ with
    | nil => cases hlen
    | cons c₁ cs₁ => exact (answers_eqE2NodeComponentConfigUpdate c₀ c₁).allOf_repeat cs₀

theorem eqComponents_shared {cs₀ cs₁ : List StoredConfigUpdate}
    (hlen : cs₀.length = cs₁.length) : Decides (eqComponents true cs₀ cs₁) True := by
  cases cs₀ with
  | nil => exact decides_allOf_nil
  | cons c₀ cs₀ =>
    cases cs₁ with
    | nil => cases hlen
    | cons c₁ cs₁ => exact (decides_allOf_nil.answers.allOf_repeat cs₀).decides_of id Iff.rfl

/-- What stands before the components agrees, and there are as many of them. -/
structure SetupResponseHeadAgree (m₀ m₁ : StoredE2SetupResponse) : Prop where
  id : m₀.id = m₁.id
  accepted : m₀.accepted = m₁.accepted
  rejected : m₀.rejected = m₁.rejected
  len : m₀.compConfUpdateAckList.length = m₁.compConfUpdateAckList.length

/-- The comparison of two setup responses goes as that of their components does. -/
theorem answers_eqE2SetupResponse {shared : Bool} (m₀ m₁ : StoredE2SetupResponse)
    {fails alike : Prop}
    (h : m₀.compConfUpdateAckList.length = m₁.compConfUpdateAckList.length →
      Answers (eqComponents shared m₀.compConfUpdateAckList m₁.compConfUpdateAckList)
        fails alike) :
    Answers (eqE2SetupResponse shared (.two m₀ m₁)) (SetupResponseHeadAgree m₀ m₁ ∧ fails)
      (SetupResponseHeadAgree m₀ m₁ ∧ alike) := by
  have hhead : ∀ p, (m₀.id = m₁.id ∧ m₀.accepted = m₁.accepted ∧ m₀.rejected = m₁.rejected ∧
      m₀.compConfUpdateAckList.length = m₁.compConfUpdateAckList.length ∧ p) ↔
        SetupResponseHeadAgree m₀ m₁ ∧ p := by
    intro p
    constructor
    · rintro ⟨hid, hacc, hrej, hlen, hp⟩
      exact ⟨⟨hid, hacc, hrej, hlen⟩, hp⟩
    · rintro ⟨⟨hid, hacc, hrej, hlen⟩, hp⟩
      exact ⟨hid, hacc, hrej, hlen, hp⟩
  have hid : ∀ a b : UInt16, Decides (test (a = b)) (a = b) := fun _ _ => decides_test
  refine ((decides_eqGlobalRicId m₀.id m₁.id).answers.allOf_cons fun _ =>
    answers_allOf_array hid fun _ => answers_allOf_array decides_eqRejectedRanFunction fun _ =>
    decides_test.answers.allOf_cons fun hlen => (h hlen).allOf_singleton).congr ?_ (hhead alike)
  rw [false_or, false_or]
  exact hhead fails

/-- Setup responses are equal if and only if they agree up to the components and in them. -/
theorem eq_iff_headAgree {m₀ m₁ : StoredE2SetupResponse} :
    m₀ = m₁ ↔ SetupResponseHeadAgree m₀ m₁ ∧
      m₀.compConfUpdateAckList = m₁.compConfUpdateAckList := by
  constructor
  · rintro rfl
    exact ⟨⟨rfl, rfl, rfl, rfl⟩, rfl⟩
  · obtain ⟨id₀, acc₀, rej₀, comps₀⟩ := m₀
    obtain ⟨id₁, acc₁, rej₁, comps₁⟩ := m₁
    rintro ⟨⟨rfl, rfl, rfl, -⟩, rfl⟩
    rfl

theorem components_compared_iff {cs₀ cs₁ : List StoredConfigUpdate}
    (hlen : cs₀.length = cs₁.length) :
    ¬ComponentsFail cs₀ cs₁ ∧ (ComponentsAlike cs₀ cs₁ ↔ cs₀ = cs₁) ↔
      ∀ c cs cs', cs₀ = c :: cs → cs₁ = c :: cs' → c.update ≠ .nothing ∧ cs = cs' := by
  cases cs₀ with
  | nil =>
    rw [List.length_nil, eq_comm, List.length_eq_zero_iff] at hlen
    subst hlen
    refine iff_of_true ⟨id, iff_of_true trivial rfl⟩ ?_
    intro c cs cs' h
    cases h
  | cons c₀ cs₀ =>
    cases cs₁ with
    | nil => cases hlen
    | cons c₁ cs₁ =>
      constructor
      · rintro ⟨hfail, halike⟩ c cs cs' h₀ h₁
        cases h₀
        cases h₁
        exact ⟨fun hn => hfail ⟨rfl, hn⟩, (List.cons.inj (halike.1 rfl)).2⟩
      · intro h
        refine ⟨?_, ?_⟩
        · rintro ⟨rfl, hn⟩
          exact (h c₀ cs₀ cs₁ rfl rfl).1 hn
        · constructor
          · intro hc
            have hc' : c₀ = c₁ := hc
            subst hc'
            rw [(h c₀ cs₀ cs₁ rfl rfl).2]
          · exact fun hl => (List.cons.inj hl).1

theorem eqE2SetupResponse_decides_iff {shared : Bool} {ms : Pointers StoredE2SetupResponse}
    (hshared : shared = true →
      ms.fst.compConfUpdateAckList <+: ms.snd.compConfUpdateAckList ∨
        ms.snd.compConfUpdateAckList <+: ms.fst.compConfUpdateAckList) :
    Decides (eqE2SetupResponse shared ms) (ms.fst = ms.snd) ↔ SetupResponseCompared shared ms := by
  cases ms with
  | one m => exact iff_of_true (decides_true rfl) trivial
  | two m₀ m₁ =>
    rw [Pointers.fst, Pointers.snd, eq_iff_headAgree]
    cases shared with
    | true =>
      refine iff_of_true ?_ fun _ _ _ _ => .inl rfl
      have hanswers := answers_eqE2SetupResponse m₀ m₁ fun hlen =>
        (eqComponents_shared hlen).answers
      refine hanswers.decides_of And.right (and_congr_right fun hhead => ?_)
      rw [true_iff]
      rcases hshared rfl with hpre | hpre
      · exact hpre.eq_of_length hhead.len
      · exact (hpre.eq_of_length hhead.len.symm).symm
    | false =>
      rw [(answers_eqE2SetupResponse m₀ m₁ answers_eqComponents).decides_iff]
      constructor
      · rintro ⟨hfail, halike⟩ hid hacc hrej hlen
        have hhead : SetupResponseHeadAgree m₀ m₁ := ⟨hid, hacc, hrej, hlen⟩
        refine .inr ((components_compared_iff hlen).1 ⟨fun h => hfail ⟨hhead, h⟩, ?_⟩)
        simpa only [hhead, true_and] using halike
      · intro h
        by_cases hhead : SetupResponseHeadAgree m₀ m₁
        · obtain ⟨hid, hacc, hrej, hlen⟩ := hhead
          have hcompared := (h hid hacc hrej hlen).resolve_left Bool.false_ne_true
          obtain ⟨hfail, halike⟩ := (components_compared_iff hlen).2 hcompared
          exact ⟨fun hf => hfail hf.2, and_congr_right fun _ => halike⟩
        · exact ⟨fun hf => hhead hf.1, iff_of_false (fun ha => hhead ha.1) fun he => hhead he.1⟩

/-! ## Both messages -/

/-- The comparison of two service updates decides whether they are equal unless they differ at most
in functions that are modified, of which all agree or all differ; that of two setup responses,
unless they differ at most behind their first component, and the first ones agree and are not
updated or another one differs. -/
theorem eqProcedures_decides_iff (us : Pointers RicServiceUpdate) {shared : Bool}
    {rs : Pointers StoredE2SetupResponse}
    (hshared : shared = true →
      rs.fst.compConfUpdateAckList <+: rs.snd.compConfUpdateAckList ∨
        rs.snd.compConfUpdateAckList <+: rs.fst.compConfUpdateAckList) :
    (Decides (eqRicServiceUpdate us) (us.fst = us.snd) ↔ ServiceUpdateCompared us) ∧
      (Decides (eqE2SetupResponse shared rs) (rs.fst = rs.snd) ↔
        SetupResponseCompared shared rs) :=
  ⟨eqRicServiceUpdate_decides_iff us, eqE2SetupResponse_decides_iff hshared⟩

/-- A setup response with these components, and nothing else. -/
def setupResponseOf (comps : List StoredConfigUpdate) : StoredE2SetupResponse where
  id := ⟨⟨505, 1, 2⟩, 1⟩
  accepted := []
  rejected := []
  compConfUpdateAckList := comps

/-- The condition is met by setup responses with one component in an array that they share. -/
theorem eqProcedures_decides_shared :
    Decides (eqE2SetupResponse true (.two (setupResponseOf [⟨.gnb, none, 0, .nothing⟩])
        (setupResponseOf [⟨.gnb, none, 0, .nothing⟩])))
      (setupResponseOf [⟨.gnb, none, 0, .nothing⟩] =
        setupResponseOf [⟨.gnb, none, 0, .nothing⟩]) :=
  (eqProcedures_decides_iff (.one ⟨[], [], []⟩) fun _ => .inl List.prefix_rfl).2.2
    fun _ _ _ _ => .inl rfl

/-- Two equal service updates with a modified function are taken for different, and two with
different ones for equal. Two setup responses that differ in their second component are taken for
equal, and the comparison of two equal ones with a component that is not updated stops. -/
theorem eqProcedures_not_compared :
    eqRicServiceUpdate (.two ⟨[], [⟨[], 1, 0, none⟩], []⟩ ⟨[], [⟨[], 1, 0, none⟩], []⟩) =
        returns false ∧
      eqRicServiceUpdate (.two ⟨[], [⟨[], 1, 0, none⟩], []⟩ ⟨[], [⟨[], 2, 0, none⟩], []⟩) =
        returns true ∧
      eqE2SetupResponse false
          (.two (setupResponseOf [⟨.enb, none, 0, .enGnb none⟩, ⟨.enb, none, 1, .enGnb none⟩])
            (setupResponseOf [⟨.enb, none, 0, .enGnb none⟩, ⟨.enb, none, 2, .enGnb none⟩])) =
        returns true ∧
      eqE2SetupResponse false (.two (setupResponseOf [⟨.gnb, none, 0, .nothing⟩])
        (setupResponseOf [⟨.gnb, none, 0, .nothing⟩])) = stops := by
  decide

end FlexRic.Ap
