import FlexRic.Semantics.System
import Mathlib.Data.List.Count

/-!
# Retransmission

A client sends a request, and sends it again whenever one of its timers fires; a server answers
the requests, and the client handles the responses. No message is lost, and those in flight are
delivered in any order and after any delay.

Both parties may fail an assertion. `Settles` says that no order in which the messages in flight
can be delivered makes one fail, and that all of them end well. For a client that handles one
response only, `settles_iff` says when this is so.
-/

namespace FlexRic

universe u

/-- A client and a server, from the moment the client has sent its request. -/
structure Exchange (C S T Q R : Type u) : Type u where
  /-- the client that has sent the request -/
  client : C
  /-- the server before it has received anything -/
  server : S
  /-- the request -/
  request : Q
  /-- the timers that can fire -/
  armed : C → T → Prop
  /-- what the client sends when a timer fires -/
  resend : C → T → Option Q
  /-- what the server does with a request: its response, and itself after that -/
  serve : S → Q → Option (R × S)
  /-- what the client does with a response -/
  finish : C → R → Option C

namespace Exchange

/-- The two parties and the messages between them. -/
structure State (C S Q R : Type u) : Type u where
  client : C
  server : S
  /-- the requests in flight -/
  requests : List Q
  /-- the responses in flight -/
  responses : List R
  /-- the responses that the client has handled -/
  handled : List R

/-- What can happen. -/
inductive Action (T Q R : Type u) : Type u where
  /-- a timer of the client fires -/
  | timerExpiry (t : T)
  /-- the server receives a request -/
  | deliverRequest (q : Q)
  /-- the client receives a response -/
  | deliverResponse (r : R)

/-- Whether a timer fires. -/
def Action.isTimerExpiry {T Q R : Type u} : Action T Q R → Bool
  | timerExpiry _ => true
  | _ => false

variable {C S T Q R : Type u} [DecidableEq Q] [DecidableEq R]

/-- What can happen next. -/
def Enabled (x : Exchange C S T Q R) (s : State C S Q R) : Action T Q R → Prop
  | .timerExpiry t => x.armed s.client t
  | .deliverRequest q => q ∈ s.requests
  | .deliverResponse r => r ∈ s.responses

/-- What the parties do then; `none` is a failing assertion. -/
def step (x : Exchange C S T Q R) (s : State C S Q R) : Action T Q R → Option (State C S Q R)
  | .timerExpiry t => (x.resend s.client t).map fun q => { s with requests := q :: s.requests }
  | .deliverRequest q => (x.serve s.server q).map fun (r, server) =>
      { s with
        server := server
        requests := s.requests.erase q
        responses := r :: s.responses }
  | .deliverResponse r => (x.finish s.client r).map fun client =>
      { s with
        client := client
        responses := s.responses.erase r
        handled := r :: s.handled }

/-- Every order of the timers and of the deliveries. -/
def system (x : Exchange C S T Q R) : System (State C S Q R) (Action T Q R) where
  init := ⟨x.client, x.server, [x.request], [], []⟩
  enabled := x.Enabled
  step := x.step

/-- The same when no timer fires. -/
def deliveries (x : Exchange C S T Q R) : System (State C S Q R) (Action T Q R) :=
  x.system.restrict fun _ a => a.isTimerExpiry = false

/-- In whatever order the messages in flight are delivered, no assertion fails, and `good` holds
when they all are. -/
def Settles (x : Exchange C S T Q R) (good : State C S Q R → Prop) (s : State C S Q R) : Prop :=
  ∀ tr t, x.deliveries.Steps s tr t →
    x.system.Safe t ∧ (t.requests = [] → t.responses = [] → good t)

/-- The client handles one response only. -/
structure FinishesOnce (x : Exchange C S T Q R) : Prop where
  /-- a timer that fires before makes it send a request -/
  resend : ∀ t, x.armed x.client t → x.resend x.client t ≠ none
  /-- no timer is left after -/
  disarmed : ∀ {r c}, x.finish x.client r = some c → ∀ t, ¬ x.armed c t
  /-- a second response fails an assertion -/
  finished : ∀ {r c}, x.finish x.client r = some c → ∀ r', x.finish c r' = none

/-- The request is answered, its response handled, and `good` holds then. -/
def Accepts (x : Exchange C S T Q R) (good : State C S Q R → Prop) : Prop :=
  ∃ r server client, x.serve x.server x.request = some (r, server) ∧
    x.finish x.client r = some client ∧ good ⟨client, server, [], [], [r]⟩

variable {x : Exchange C S T Q R} {good : State C S Q R → Prop} {s t : State C S Q R}
  {tr : List (State C S Q R × Action T Q R)}

/-! ## Counting the messages -/

/-- Each request is in flight, its response is, or its response was handled. -/
theorem length_eq (h : x.system.Run tr s) :
    s.requests.length + s.responses.length + s.handled.length =
      1 + tr.countP fun p => p.2.isTimerExpiry := by
  induction h with
  | nil => rfl
  | @cons tr s u a _ he hstep ih =>
    cases a with
    | timerExpiry t =>
      obtain ⟨q, -, rfl⟩ := Option.map_eq_some_iff.1 hstep
      rw [List.countP_cons_of_pos rfl]
      dsimp only
      rw [List.length_cons]
      omega
    | deliverRequest q =>
      obtain ⟨⟨r, server⟩, -, rfl⟩ := Option.map_eq_some_iff.1 hstep
      have hpos : 0 < s.requests.length := List.length_pos_of_mem he
      rw [List.countP_cons_of_neg Bool.false_ne_true, ← ih]
      dsimp only
      rw [List.length_cons, List.length_erase_of_mem he]
      omega
    | deliverResponse r =>
      obtain ⟨client, -, rfl⟩ := Option.map_eq_some_iff.1 hstep
      have hpos : 0 < s.responses.length := List.length_pos_of_mem he
      rw [List.countP_cons_of_neg Bool.false_ne_true, ← ih]
      dsimp only
      rw [List.length_cons, List.length_erase_of_mem he]
      omega

/-- The client is the one that sent the request or the one that has handled one response. -/
theorem FinishesOnce.client_eq (hx : x.FinishesOnce) (h : x.system.Run tr s) :
    s.handled = [] ∧ s.client = x.client ∨
      ∃ r, s.handled = [r] ∧ x.finish x.client r = some s.client := by
  induction h with
  | nil => exact .inl ⟨rfl, rfl⟩
  | @cons tr s u a _ _ hstep ih =>
    cases a with
    | timerExpiry t =>
      obtain ⟨q, -, rfl⟩ := Option.map_eq_some_iff.1 hstep
      exact ih
    | deliverRequest q =>
      obtain ⟨⟨r, server⟩, -, rfl⟩ := Option.map_eq_some_iff.1 hstep
      exact ih
    | deliverResponse r =>
      obtain ⟨client, hfin, rfl⟩ := Option.map_eq_some_iff.1 hstep
      rcases ih with ⟨hnil, hclient⟩ | ⟨r', -, hfin'⟩
      · right
        refine ⟨r, ?_, ?_⟩
        · rw [hnil]
        · rw [← hclient]
          exact hfin
      · rw [hx.finished hfin'] at hfin
        cases hfin

theorem FinishesOnce.handled_length (hx : x.FinishesOnce) (h : x.system.Run tr s) :
    s.handled.length ≤ 1 := by
  rcases hx.client_eq h with ⟨hnil, -⟩ | ⟨r, hr, -⟩
  · rw [hnil]
    exact Nat.zero_le 1
  · rw [hr]
    exact Nat.le_refl 1

/-! ## Runs in which no timer fires -/

/-- Without timers there is one message at a time. -/
theorem shape_of_deliveries (h : x.deliveries.Run tr s) :
    s = ⟨x.client, x.server, [x.request], [], []⟩ ∨
      ∃ r server, x.serve x.server x.request = some (r, server) ∧
        (s = ⟨x.client, server, [], [r], []⟩ ∨
          ∃ client, x.finish x.client r = some client ∧ s = ⟨client, server, [], [], [r]⟩) := by
  induction h with
  | nil => exact .inl rfl
  | @cons tr s u a _ he hstep ih =>
    obtain ⟨he, hdelivery⟩ := he
    cases a with
    | timerExpiry t => cases hdelivery
    | deliverRequest q =>
      rcases ih with rfl | ⟨r, server, -, rfl | ⟨client, -, rfl⟩⟩
      · cases List.mem_singleton.1 he
        obtain ⟨⟨r, server⟩, hserve, rfl⟩ := Option.map_eq_some_iff.1 hstep
        refine .inr ⟨r, server, hserve, .inl ?_⟩
        rw [List.erase_cons_head]
      · cases he
      · cases he
    | deliverResponse r =>
      rcases ih with rfl | ⟨r', server, hserve, rfl | ⟨client, -, rfl⟩⟩
      · cases he
      · cases List.mem_singleton.1 he
        obtain ⟨client, hfin, rfl⟩ := Option.map_eq_some_iff.1 hstep
        refine .inr ⟨r, server, hserve, .inr ⟨client, hfin, ?_⟩⟩
        rw [List.erase_cons_head]
      · cases he

/-- No assertion fails next if neither party fails one on what it can get. -/
theorem safe_of (hresend : ∀ t, x.armed s.client t → x.resend s.client t ≠ none)
    (hserve : ∀ q ∈ s.requests, x.serve s.server q ≠ none)
    (hfinish : ∀ r ∈ s.responses, x.finish s.client r ≠ none) : x.system.Safe s := by
  intro a he hnone
  cases a with
  | timerExpiry t => exact hresend t he (Option.map_eq_none_iff.1 hnone)
  | deliverRequest q => exact hserve q he (Option.map_eq_none_iff.1 hnone)
  | deliverResponse r => exact hfinish r he (Option.map_eq_none_iff.1 hnone)

/-- Without timers, a request that is accepted leaves no assertion to fail. -/
theorem FinishesOnce.safe_of_deliveries (hx : x.FinishesOnce) (hacc : x.Accepts good)
    (h : x.deliveries.Run tr s) :
    x.system.Safe s ∧ (s.requests = [] → s.responses = [] → good s) := by
  obtain ⟨r, server, client, hserve, hfin, hgood⟩ := hacc
  rcases shape_of_deliveries h with rfl | ⟨r', server', hserve', hs⟩
  · refine ⟨safe_of hx.resend (fun q hq => ?_) nofun, nofun⟩
    cases List.mem_singleton.1 hq
    rw [hserve]
    nofun
  · rw [hserve] at hserve'
    cases hserve'
    rcases hs with rfl | ⟨client', hfin', rfl⟩
    · refine ⟨safe_of hx.resend nofun fun r' hr' => ?_, nofun⟩
      cases List.mem_singleton.1 hr'
      rw [hfin]
      nofun
    · rw [hfin] at hfin'
      cases hfin'
      refine ⟨safe_of (fun t ht => ?_) nofun nofun, fun _ _ => hgood⟩
      exact absurd ht (hx.disarmed hfin t)

/-! ## Delivering everything -/

/-- What settles can be delivered to the end. -/
theorem Settles.drain (h : x.Settles good s) :
    ∃ tr t, x.deliveries.Steps s tr t ∧ t.requests = [] ∧ t.responses = [] := by
  -- a request that is delivered becomes a response, so it counts twice
  induction hn : 2 * s.requests.length + s.responses.length using Nat.strongRecOn
    generalizing s with
  | ind n ih =>
    have hnext : ∀ (a : Action T Q R) (u : State C S Q R), x.Enabled s a →
        a.isTimerExpiry = false → x.step s a = some u →
        2 * u.requests.length + u.responses.length < n →
        ∃ tr t, x.deliveries.Steps s tr t ∧ t.requests = [] ∧ t.responses = [] := by
      intro a u he ha hstep hlt
      have hsingle : x.deliveries.Steps s [(s, a)] u := System.Steps.single ⟨he, ha⟩ hstep
      have hsettles : x.Settles good u := fun tr t hsteps => h _ t (hsingle.trans hsteps)
      obtain ⟨tr, t, hsteps, hdone⟩ := ih _ hlt hsettles rfl
      exact ⟨_, t, hsingle.trans hsteps, hdone⟩
    have hsafe := (h [] s .nil).1
    cases hreq : s.requests with
    | cons q qs =>
      have he : x.Enabled s (.deliverRequest q) := by
        rw [Enabled, hreq]
        exact List.mem_cons_self
      obtain ⟨u, hstep⟩ := Option.ne_none_iff_exists'.1 (hsafe (.deliverRequest q) he)
      obtain ⟨⟨r, server⟩, -, rfl⟩ := Option.map_eq_some_iff.1 hstep
      refine hnext _ _ he rfl hstep ?_
      rw [hreq, List.length_cons] at hn
      dsimp only
      rw [hreq, List.erase_cons_head, List.length_cons]
      omega
    | nil =>
      cases hresp : s.responses with
      | nil => exact ⟨[], s, .nil, hreq, hresp⟩
      | cons r rs =>
        have he : x.Enabled s (.deliverResponse r) := by
          rw [Enabled, hresp]
          exact List.mem_cons_self
        obtain ⟨u, hstep⟩ := Option.ne_none_iff_exists'.1 (hsafe (.deliverResponse r) he)
        obtain ⟨client, -, rfl⟩ := Option.map_eq_some_iff.1 hstep
        refine hnext _ _ he rfl hstep ?_
        rw [hresp, List.length_cons] at hn
        dsimp only
        rw [hresp, List.erase_cons_head]
        omega

/-- When the client handles one response only, a run settles exactly if no timer has fired in it
and the request is accepted. -/
theorem FinishesOnce.settles_iff (hx : x.FinishesOnce) (h : x.system.Run tr s) :
    x.Settles good s ↔ (∀ p ∈ tr, p.2.isTimerExpiry = false) ∧ x.Accepts good := by
  constructor
  · intro hsettles
    obtain ⟨tr', t, hsteps, hreq, hresp⟩ := hsettles.drain
    obtain ⟨hsteps', hdelivery⟩ := System.steps_restrict.1 hsteps
    have hrun : x.system.Run (tr' ++ tr) t := System.Steps.trans h hsteps'
    -- as many responses were handled as requests were sent, and at most one was handled
    have hcount := length_eq hrun
    have hle := hx.handled_length hrun
    rw [hreq, hresp, List.length_nil, List.length_nil] at hcount
    have hzero : (tr' ++ tr).countP (fun p => p.2.isTimerExpiry) = 0 := by omega
    have hnone : ∀ p ∈ tr' ++ tr, p.2.isTimerExpiry = false := fun p hp =>
      Bool.eq_false_iff.2 (List.countP_eq_zero.1 hzero p hp)
    refine ⟨fun p hp => hnone p (List.mem_append_right _ hp), ?_⟩
    rcases shape_of_deliveries (System.steps_restrict.2 ⟨hrun, hnone⟩) with
      rfl | ⟨r, server, hserve, rfl | ⟨client, hfin, rfl⟩⟩
    · cases hreq
    · cases hresp
    · exact ⟨r, server, client, hserve, hfin, (hsettles tr' _ hsteps).2 rfl rfl⟩
  · rintro ⟨htimers, hacc⟩ tr' t hsteps
    have hrun : x.deliveries.Run tr s := System.steps_restrict.2 ⟨h, htimers⟩
    exact hx.safe_of_deliveries hacc (System.Steps.trans hrun hsteps)

end Exchange

end FlexRic
