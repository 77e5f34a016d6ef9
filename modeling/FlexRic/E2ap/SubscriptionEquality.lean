import FlexRic.E2ap.Equality

/-!
# Equality of subscription requests (`lib/ap/e2ap_types/ric_subscription_request.c`)

`eq_ric_subscritption_request` with the functions below it. The comparison of two waiting times
looks for a null pointer on one side only. All pointers to one object are equal here as what they
point to is, since no answer depends on more.
-/

namespace FlexRic.Ap

open Outcome

/-! ## The code -/

/-- `eq_ric_gen_id`. -/
def eqRicGenId (m₀ m₁ : RicGenId) : Outcome Bool :=
  test (m₀.ricReqId = m₁.ricReqId ∧ m₀.ricInstId = m₁.ricInstId ∧ m₀.ranFuncId = m₁.ranFuncId)

/-- The waiting times in `eq_ric_subsequent_action`: the second pointer is not looked at before it
is followed. -/
def eqTimeToWaitMs : Option UInt32 → Option UInt32 → Outcome Bool
  | none, none => return true
  | none, some _ => return false
  | some _, none => faults .unset
  | some t₀, some t₁ => test (t₀ = t₁)

/-- `eq_ric_subsequent_action`. -/
def eqRicSubsequentAction : Option RicSubsequentAction → Option RicSubsequentAction → Outcome Bool
  | none, none => return true
  | some m₀, some m₁ => allOf [test (m₀.type = m₁.type),
      eqTimeToWaitMs m₀.timeToWaitMs m₁.timeToWaitMs]
  | _, _ => return false

/-- `eq_ric_action`. -/
def eqRicAction (m₀ m₁ : RicAction) : Outcome Bool :=
  allOf [test (m₀.id = m₁.id), test (m₀.type = m₁.type), eqByteArray m₀.definition m₁.definition,
    eqRicSubsequentAction m₀.subseqAction m₁.subseqAction]

/-- `eq_ric_subscritption_request`. -/
def eqRicSubscritptionRequest (m₀ m₁ : RicSubscriptionRequest) : Outcome Bool :=
  allOf [eqRicGenId m₀.ricId m₁.ricId, eqByteArray (some m₀.eventTrigger) (some m₁.eventTrigger),
    test (m₀.action.length = m₁.action.length), eqArray eqRicAction m₀.action m₁.action]

/-! ## Null pointers -/

/-- A waiting time is there in the first action and not in the second, and is reached. -/
def SubsequentActionDerefs : Option RicSubsequentAction → Option RicSubsequentAction → Prop
  | some m₀, some m₁ => m₀.type = m₁.type ∧ m₀.timeToWaitMs ≠ none ∧ m₁.timeToWaitMs = none
  | _, _ => False

/-- The subsequent actions are reached. -/
structure RicActionDerefs (m₀ m₁ : RicAction) : Prop where
  id : m₀.id = m₁.id
  type : m₀.type = m₁.type
  definition : m₀.definition = m₁.definition
  subseqAction : SubsequentActionDerefs m₀.subseqAction m₁.subseqAction

/-- The ids and the event triggers agree, there are as many actions, and an action that is reached
has a waiting time in the first request only. -/
structure SubscriptionRequestDerefs (m₀ m₁ : RicSubscriptionRequest) : Prop where
  ricId : m₀.ricId = m₁.ricId
  eventTrigger : m₀.eventTrigger = m₁.eventTrigger
  len : m₀.action.length = m₁.action.length
  action : ReachesFailure RicActionDerefs Eq m₀.action m₁.action

/-! ## Comparisons -/

theorem decides_eqRicGenId (m₀ m₁ : RicGenId) : Decides (eqRicGenId m₀ m₁) (m₀ = m₁) := by
  obtain ⟨req₀, inst₀, func₀⟩ := m₀
  obtain ⟨req₁, inst₁, func₁⟩ := m₁
  refine decides_test.congr ?_
  rw [RicGenId.mk.injEq]

theorem answers_eqTimeToWaitMs (t₀ t₁ : Option UInt32) :
    Answers (eqTimeToWaitMs t₀ t₁) (t₀ ≠ none ∧ t₁ = none) (t₀ = t₁) := by
  cases t₀ with
  | none =>
    refine Answers.congr ?_ (iff_of_false id fun h => h.1 rfl) Iff.rfl
    cases t₁ with
    | none => exact (decides_true rfl).answers
    | some t => exact (decides_false (Option.some_ne_none t).symm).answers
  | some t =>
    cases t₁ with
    | none =>
      refine ⟨fun _ b hb => ?_, fun h => absurd ⟨Option.some_ne_none t, rfl⟩ h⟩
      cases hb
    | some t' =>
      refine (decides_test.answers).congr (iff_of_false id fun h => ?_) ?_
      · exact Option.some_ne_none t' h.2
      · rw [Option.some.injEq]

theorem answers_eqRicSubsequentAction (m₀ m₁ : Option RicSubsequentAction) :
    Answers (eqRicSubsequentAction m₀ m₁) (SubsequentActionDerefs m₀ m₁) (m₀ = m₁) := by
  cases m₀ with
  | none =>
    cases m₁ with
    | none => exact (decides_true rfl).answers
    | some a => exact (decides_false (Option.some_ne_none a).symm).answers
  | some a =>
    cases m₁ with
    | none => exact (decides_false (Option.some_ne_none a)).answers
    | some b =>
      obtain ⟨type₀, time₀⟩ := a
      obtain ⟨type₁, time₁⟩ := b
      refine (decides_test.answers.allOf_cons fun _ =>
        (answers_eqTimeToWaitMs time₀ time₁).allOf_singleton).congr ?_ ?_
      · rw [false_or]
        rfl
      · rw [Option.some.injEq, RicSubsequentAction.mk.injEq]

theorem answers_eqRicAction (m₀ m₁ : RicAction) :
    Answers (eqRicAction m₀ m₁) (RicActionDerefs m₀ m₁) (m₀ = m₁) := by
  refine (decides_test.answers.allOf_cons fun _ => decides_test.answers.allOf_cons fun _ =>
    (decides_eqByteArray _ _).answers.allOf_cons fun _ =>
    (answers_eqRicSubsequentAction _ _).allOf_singleton).congr ?_ ?_
  · simp only [false_or]
    constructor
    · rintro ⟨hid, htype, hdef, hsubseq⟩
      exact ⟨hid, htype, hdef, hsubseq⟩
    · rintro ⟨hid, htype, hdef, hsubseq⟩
      exact ⟨hid, htype, hdef, hsubseq⟩
  · obtain ⟨id₀, type₀, def₀, subseq₀⟩ := m₀
    obtain ⟨id₁, type₁, def₁, subseq₁⟩ := m₁
    rw [RicAction.mk.injEq]

theorem answers_eqRicSubscritptionRequest (m₀ m₁ : RicSubscriptionRequest) :
    Answers (eqRicSubscritptionRequest m₀ m₁) (SubscriptionRequestDerefs m₀ m₁) (m₀ = m₁) := by
  refine ((decides_eqRicGenId _ _).answers.allOf_cons fun _ =>
    (decides_eqByteArray _ _).answers.allOf_cons fun _ =>
    decides_test.answers.allOf_cons fun hlen =>
    (answers_eqArray hlen fun a _ b _ => answers_eqRicAction a b).allOf_singleton).congr ?_ ?_
  · simp only [false_or, Option.some.injEq]
    constructor
    · rintro ⟨hid, htrigger, hlen, haction⟩
      exact ⟨hid, htrigger, hlen, haction⟩
    · rintro ⟨hid, htrigger, hlen, haction⟩
      exact ⟨hid, htrigger, hlen, haction⟩
  · obtain ⟨id₀, trigger₀, action₀⟩ := m₀
    obtain ⟨id₁, trigger₁, action₁⟩ := m₁
    rw [RicSubscriptionRequest.mk.injEq, Option.some.injEq, List.forall₂_eq_eq_eq]
    constructor
    · rintro ⟨hid, htrigger, -, haction⟩
      exact ⟨hid, htrigger, haction⟩
    · rintro ⟨hid, htrigger, haction⟩
      exact ⟨hid, htrigger, congrArg _ haction, haction⟩

/-- The comparison of two subscription requests decides whether they are equal, is symmetric, and
follows no null pointer, if and only if neither of them has a waiting time, in an action that is
reached, that the other one has not. -/
theorem eqRicSubscritptionRequest_iff (m₀ m₁ : RicSubscriptionRequest) :
    (Decides (eqRicSubscritptionRequest m₀ m₁) (m₀ = m₁) ∧
        eqRicSubscritptionRequest m₁ m₀ = eqRicSubscritptionRequest m₀ m₁ ∧
        (eqRicSubscritptionRequest m₀ m₁).Safe) ↔
      ¬SubscriptionRequestDerefs m₀ m₁ ∧ ¬SubscriptionRequestDerefs m₁ m₀ := by
  have h₀₁ := answers_eqRicSubscritptionRequest m₀ m₁
  have h₁₀ := answers_eqRicSubscritptionRequest m₁ m₀
  constructor
  · rintro ⟨hdecides, hsymm, -⟩
    obtain ⟨b, hb⟩ := hdecides.returns
    exact ⟨fun h => h₀₁.not_returns h b hb, fun h => h₁₀.not_returns h b (hsymm.trans hb)⟩
  · rintro ⟨hn₀₁, hn₁₀⟩
    have hdecides : Decides (eqRicSubscritptionRequest m₀ m₁) (m₀ = m₁) := h₀₁.decides hn₀₁
    exact ⟨hdecides, ((h₁₀.decides hn₁₀).congr eq_comm).unique hdecides, hdecides.safe⟩

/-- A subscription request with one action, in which only a waiting time may be. -/
def subscriptionRequestOf (timeToWaitMs : Option UInt32) : RicSubscriptionRequest where
  ricId := ⟨1, 0, 142⟩
  eventTrigger := []
  action := [⟨0, .report, none, some ⟨.subsReqContinue, timeToWaitMs⟩⟩]

/-- A request with a waiting time and one without are compared through a null pointer in one order,
and in the other order they are different. -/
theorem eqRicSubscritptionRequest_unset :
    eqRicSubscritptionRequest (subscriptionRequestOf (some 5)) (subscriptionRequestOf none) =
        faults .unset ∧
      eqRicSubscritptionRequest (subscriptionRequestOf none) (subscriptionRequestOf (some 5)) =
        returns false := by
  decide

end FlexRic.Ap
