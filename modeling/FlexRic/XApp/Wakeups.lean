import FlexRic.XApp.Threads

/-!
# The wake-ups of the UI thread

The UI thread resets the flags when it begins to wait, which is after the request was sent. A
response that is signalled before is forgotten, and the wait runs into its deadline. In the runs
where every wait begins before its response is signalled, and no response is signalled after the
deadline, every wait ends with its own response.
-/

namespace FlexRic

/-- The request whose response the UI thread is going to wait for. -/
def UiPc.awaiting : UiPc → List UiRequest
  | sent r => [r]
  | armed r _ => [r]
  | registered r => [r]
  | waiting r => [r]
  | timedOut r => [r]
  | _ => []

/-- The request of the call that the UI thread is in. -/
def UiPc.current : UiPc → List UiRequest
  | idle => []
  | start r => [r]
  | sent r => [r]
  | armed r _ => [r]
  | registered r => [r]
  | waiting r => [r]
  | timedOut r => [r]
  | released r => [r]

/-- The call whose response is being handled. -/
def LoopPc.serials : LoopPc → List ℕ
  | idle => []
  | rmPending serial _ => [serial]
  | signal serial => [serial]

namespace XappState

/-- After its wait a call awaits nothing. -/
@[simp] theorem awaiting_afterWait (r : UiRequest) : (afterWait r).awaiting = [] := by
  cases r with
  | mk call => cases call <;> rfl

/-- The calls whose request was sent and whose response was not signalled. -/
def inFlight (s : XappState) : List ℕ := s.outstanding.map UiRequest.serial ++ s.loopPc.serials

/-- What holds of the call that the UI thread is in. -/
structure CallInv (s : XappState) : Prop where
  /-- the calls are numbered -/
  lt : ∀ n, n ∈ s.signalled ∨ n ∈ s.inFlight ∨ n ∈ s.uiPc.current.map UiRequest.serial →
    n < s.calls
  /-- a new call has no response -/
  start : ∀ r, s.uiPc = .start r → r.serial ∉ s.signalled
  /-- only the request of this call can be unanswered -/
  outstanding : ∀ q ∈ s.outstanding, q ∈ s.uiPc.awaiting
  /-- without one, nothing is in flight -/
  idle : s.uiPc.awaiting = [] → s.inFlight = []
  /-- its response is in flight or signalled -/
  awaiting : ∀ r ∈ s.uiPc.awaiting, (s.inFlight = [r.serial] ∧ r.serial ∉ s.signalled) ∨
    (s.inFlight = [] ∧ r.serial ∈ s.signalled)
  /-- what sets the flag of a wait is its response -/
  flag : ∀ r, s.uiPc = .waiting r → s.xapp.sync.flagSync = true →
    r.serial ∈ s.signalled ∧ s.xapp.sync.msgAck = true

theorem callInv_init (x : E42Xapp) : (init x).CallInv where
  lt := by simp [init, inFlight, UiPc.current, LoopPc.serials]
  start := nofun
  outstanding := by simp [init]
  idle _ := rfl
  awaiting := by simp [init, UiPc.awaiting]
  flag := nofun

variable {s t : XappState} {a : XappAction}

/-- The steps that keep the flags and what is in flight. -/
theorem CallInv.congr (h : s.CallInv) (hsync : t.xapp.sync = s.xapp.sync)
    (hcurrent : t.uiPc.current = s.uiPc.current) (hawaiting : t.uiPc.awaiting = s.uiPc.awaiting)
    (hstart : ∀ r, t.uiPc = .start r → s.uiPc = .start r)
    (hwaiting : ∀ r, t.uiPc = .waiting r → s.uiPc = .waiting r)
    (hout : ∀ q ∈ t.outstanding, q ∈ s.outstanding) (hflight : t.inFlight = s.inFlight)
    (hcalls : t.calls = s.calls) (hsignalled : t.signalled = s.signalled) : t.CallInv where
  lt := by
    rw [hsignalled, hflight, hcurrent, hcalls]
    exact h.lt
  start r hpc := by
    rw [hsignalled]
    exact h.start r (hstart r hpc)
  outstanding q hq := by
    rw [hawaiting]
    exact h.outstanding q (hout q hq)
  idle := by
    rw [hawaiting, hflight]
    exact h.idle
  awaiting := by
    rw [hawaiting, hflight, hsignalled]
    exact h.awaiting
  flag r hpc := by
    rw [hsync, hsignalled]
    exact h.flag r (hwaiting r hpc)

/-- The request that is awaited, when something is in flight. -/
theorem CallInv.exists_awaiting (h : s.CallInv) {n : ℕ} (hn : n ∈ s.inFlight) :
    ∃ r, s.uiPc.awaiting = [r] ∧ r.serial = n ∧ s.inFlight = [n] ∧ n ∉ s.signalled := by
  have hone : ∀ pc : UiPc, pc.awaiting = [] ∨ ∃ r, pc.awaiting = [r] := by
    intro pc
    cases pc <;> simp [UiPc.awaiting]
  rcases hone s.uiPc with hnone | ⟨r, hr⟩
  · rw [h.idle hnone] at hn
    cases hn
  · have hmem : r ∈ s.uiPc.awaiting := by
      rw [hr]
      exact List.mem_singleton_self r
    rcases h.awaiting r hmem with ⟨hflight, hsig⟩ | ⟨hflight, -⟩
    · rw [hflight] at hn
      cases List.mem_singleton.1 hn
      exact ⟨r, hr, rfl, hflight, hsig⟩
    · rw [hflight] at hn
      cases hn

theorem CallInv.outstanding_eq_nil (h : s.CallInv) (hawaiting : s.uiPc.awaiting = []) :
    s.outstanding = [] :=
  List.map_eq_nil_iff.1 (List.append_eq_nil_iff.1 (h.idle hawaiting)).1

/-- When a wait ends, its response is signalled and nothing is in flight. -/
theorem CallInv.of_flag (h : s.CallInv) {r : UiRequest} (hpc : s.uiPc = .waiting r)
    (hflag : s.xapp.sync.flagSync = true) : r.serial ∈ s.signalled ∧ s.inFlight = [] := by
  have hsig := (h.flag r hpc hflag).1
  refine ⟨hsig, ?_⟩
  rcases h.awaiting r (by rw [hpc]; exact List.mem_singleton_self r) with ⟨-, hnot⟩ | ⟨hnil, -⟩
  · exact absurd hsig hnot
  · exact hnil

/-- When a response is signalled, it was the only thing in flight. -/
theorem CallInv.of_signal (h : s.CallInv) {serial : ℕ} (hpc : s.loopPc = .signal serial) :
    ∃ r, s.uiPc.awaiting = [r] ∧ r.serial = serial ∧ s.outstanding = [] := by
  have hmem : serial ∈ s.inFlight :=
    List.mem_append_right _ (by rw [hpc]; exact List.mem_singleton_self _)
  obtain ⟨r, hr, hserial, hflight, -⟩ := h.exists_awaiting hmem
  refine ⟨r, hr, hserial, ?_⟩
  rw [inFlight, hpc, LoopPc.serials] at hflight
  simpa using hflight

theorem CallInv.sendRequest (h : s.CallInv) {r : UiRequest} (hpc : s.uiPc = .start r) :
    CallInv { s with uiPc := .sent r, outstanding := r :: s.outstanding } := by
  have hawaiting : s.uiPc.awaiting = [] := by rw [hpc]; rfl
  have hflight : inFlight { s with uiPc := .sent r, outstanding := r :: s.outstanding } =
      [r.serial] := congrArg (r.serial :: ·) (h.idle hawaiting)
  refine ⟨?_, nofun, ?_, nofun, ?_, nofun⟩
  · rw [hflight]
    have hlt := h.lt
    rw [hpc] at hlt
    rintro n (hn | hn | hn)
    · exact hlt n (.inl hn)
    · exact hlt n (.inr (.inr hn))
    · exact hlt n (.inr (.inr hn))
  · rw [h.outstanding_eq_nil hawaiting]
    exact fun q hq => hq
  · intro q hq
    cases List.mem_singleton.1 hq
    exact .inl ⟨hflight, h.start _ hpc⟩

/-- A response is taken out of the requests and handled now. -/
theorem CallInv.serials_response (h : s.CallInv) (hpc : s.loopPc = .idle) {r : UiRequest}
    (hr : r ∈ s.outstanding) :
    (s.outstanding.erase r).map UiRequest.serial ++ [r.serial] = s.inFlight := by
  have hserial : r.serial ∈ s.inFlight := List.mem_append_left _ (List.mem_map_of_mem hr)
  obtain ⟨q, hq, -, hflight, -⟩ := h.exists_awaiting hserial
  have hsingle : s.outstanding.map UiRequest.serial = [r.serial] := by
    rw [inFlight, hpc, LoopPc.serials, List.append_nil] at hflight
    exact hflight
  have herase : (s.outstanding.erase r).map UiRequest.serial = [] := by
    have hlen := congrArg List.length hsingle
    rw [List.length_map, List.length_singleton] at hlen
    rw [List.map_eq_nil_iff, ← List.length_eq_zero_iff, List.length_erase_of_mem hr, hlen]
  rw [hflight, herase, List.nil_append]

/-- The response is that of the call that waits, if one does. -/
theorem CallInv.signal (h : s.CallInv) {serial : ℕ} (hpc : s.loopPc = .signal serial) :
    CallInv { s with
      xapp := { s.xapp with sync := s.xapp.sync.signal }
      loopPc := .idle
      signalled := serial :: s.signalled } := by
  obtain ⟨r, hr, rfl, hout⟩ := h.of_signal hpc
  have hflight : s.outstanding.map UiRequest.serial ++ LoopPc.idle.serials = [] := by
    rw [hout]
    rfl
  refine ⟨?_, ?_, h.outstanding, fun _ => hflight, ?_, ?_⟩
  · rintro n (hn | hn | hn)
    · rcases List.mem_cons.1 hn with rfl | hn
      · apply h.lt _ (.inr (.inl (List.mem_append_right _ _)))
        rw [hpc]
        exact List.mem_singleton_self _
      · exact h.lt n (.inl hn)
    · rw [inFlight, hflight] at hn
      cases hn
    · exact h.lt n (.inr (.inr hn))
  · intro q hq
    rw [hq] at hr
    cases hr
  · intro q hq
    rw [hr] at hq
    cases List.mem_singleton.1 hq
    exact .inr ⟨hflight, List.mem_cons_self⟩
  · intro q hq _
    rw [hq] at hr
    cases hr
    exact ⟨List.mem_cons_self, rfl⟩

theorem CallInv.step (h : s.CallInv) (ht : s.Trans a t) : t.CallInv := by
  cases ht with
  | @begin a call id x hpc hreq =>
    have hawaiting : s.uiPc.awaiting = [] := by rw [hpc]; rfl
    have hflight := h.idle hawaiting
    refine ⟨?_, ?_, ?_, fun _ => hflight, nofun, nofun⟩
    · rintro n (hn | hn | hn)
      · exact Nat.lt_succ_of_lt (h.lt n (.inl hn))
      · exact Nat.lt_succ_of_lt (h.lt n (.inr (.inl hn)))
      · cases List.mem_singleton.1 hn
        exact Nat.lt_succ_self _
    · rintro r ⟨⟩ hmem
      exact Nat.lt_irrefl _ (h.lt _ (.inl hmem))
    · intro q hq
      rw [h.outstanding_eq_nil hawaiting] at hq
      cases hq
  | sendRequest hpc => exact h.sendRequest hpc
  | createTimer hpc =>
    exact h.congr rfl (by simp [hpc, UiPc.current]) (by simp [hpc, UiPc.awaiting]) nofun nofun
      (fun q hq => hq) rfl rfl rfl
  | addPending hpc =>
    exact h.congr rfl (by simp [hpc, UiPc.current]) (by simp [hpc, UiPc.awaiting]) nofun nofun
      (fun q hq => hq) rfl rfl rfl
  | @condWait r hpc =>
    have hlt := h.lt
    have hout := h.outstanding
    have hawaiting := h.awaiting
    rw [hpc] at hlt hout hawaiting
    -- the flags are reset, so no response has set them
    exact ⟨hlt, nofun, hout, nofun, hawaiting, nofun⟩
  | deadline hpc =>
    exact h.congr rfl (by simp [hpc, UiPc.current]) (by simp [hpc, UiPc.awaiting]) nofun nofun
      (fun q hq => hq) rfl rfl rfl
  | @wake r hpc hflag =>
    obtain ⟨-, hflight⟩ := h.of_flag hpc hflag
    have hlt := h.lt
    rw [hpc] at hlt
    obtain ⟨call, id, serial⟩ := r
    have hout := List.map_eq_nil_iff.1 (List.append_eq_nil_iff.1 hflight).1
    cases call with
    | report =>
      refine ⟨?_, nofun, by simp [hout], fun _ => hflight, nofun, nofun⟩
      rintro n (hn | hn | hn)
      · exact hlt n (.inl hn)
      · exact hlt n (.inr (.inl hn))
      · cases hn
    | rmReport => exact ⟨hlt, nofun, by simp [hout], fun _ => hflight, nofun, nofun⟩
    | control => exact ⟨hlt, nofun, by simp [hout], fun _ => hflight, nofun, nofun⟩
  | @rmActProc r p hpc hrm =>
    have hawaiting : s.uiPc.awaiting = [] := by rw [hpc]; rfl
    have hout := h.outstanding_eq_nil hawaiting
    refine ⟨?_, nofun, by simp [hout], fun _ => h.idle hawaiting, nofun, nofun⟩
    rintro n (hn | hn | hn)
    · exact h.lt n (.inl hn)
    · exact h.lt n (.inr (.inl hn))
    · cases hn
  | @response ans r ev x hpc hr hans hev =>
    obtain ⟨⟨p, rfl, -⟩, -⟩ := E42Xapp.eventOfProcedure_eq_some hev
    exact h.congr rfl rfl rfl (fun _ => id) (fun _ => id) (fun q hq => List.mem_of_mem_erase hq)
      (h.serials_response hpc hr) rfl rfl
  | indication hpc hind =>
    obtain ⟨y, ⟨p, rfl, -⟩, msgDisp, rfl⟩ := E42Xapp.e2apHandleIndicationXapp_eq_some hind
    exact h.congr rfl rfl rfl (fun _ => id) (fun _ => id) (fun q hq => hq) rfl rfl rfl
  | rmPending hpc hrm =>
    obtain ⟨fd, pending, -, -, rfl⟩ := E42Xapp.rmPendingEventXapp_eq_some hrm
    exact h.congr rfl rfl rfl (fun _ => id) (fun _ => id) (fun q hq => hq)
      (by simp [inFlight, hpc, LoopPc.serials]) rfl rfl
  | signal hpc => exact h.signal hpc
  | timerExpiry => exact h

theorem callInv_reachable {x : E42Xapp} (h : (xappThreads x).Reachable s) : s.CallInv :=
  xappThreads_invariant h (callInv_init x) fun _ _ _ hs ht => hs.step ht

/-! ## Waits and signals -/

/-- The request of the wait that the UI thread is in. -/
def blocked (s : XappState) : List UiRequest :=
  match s.uiPc with
  | .waiting r => [r]
  | .timedOut r => [r]
  | _ => []

/-- A wait whose response was signalled can end, and ends well. -/
def WaitEnds (s : XappState) : Prop :=
  ∀ r ∈ s.blocked, r.serial ∈ s.signalled → s.Enabled .wake ∧ s.step .wake ≠ none

/-- No wake-up is lost: in every state of the run a wait whose response was signalled ends, and
every wait that has ended did so after its own response was signalled. -/
def NoLostWakeup (tr : List (XappState × XappAction)) (s : XappState) : Prop :=
  (∀ u ∈ System.visited tr s, u.WaitEnds) ∧
    ∀ p ∈ tr, p.2 = .wake → ∀ r ∈ p.1.blocked, r.serial ∈ p.1.signalled

/-- The step does not come too late: a wait begins before its response is signalled, and nothing is
signalled after the deadline of a wait. -/
def Timely (s : XappState) : XappAction → Prop
  | .condWait => ∀ r, s.uiPc = .registered r → r.serial ∉ s.signalled
  | .signal => ∀ r, s.uiPc ≠ .timedOut r
  | _ => True

/-- A wait whose response was signalled has its flag set, and its deadline has not passed. -/
structure WaitInv (s : XappState) : Prop where
  /-- the flag is set -/
  flag : ∀ r, s.uiPc = .waiting r → r.serial ∈ s.signalled → s.xapp.sync.flagSync = true
  /-- the response comes before the deadline -/
  deadline : ∀ r, s.uiPc = .timedOut r → r.serial ∉ s.signalled

theorem WaitInv.step (h : s.WaitInv) (htimely : s.Timely a) (ht : s.Trans a t) : t.WaitInv := by
  cases ht with
  | begin => exact ⟨nofun, nofun⟩
  | sendRequest => exact ⟨nofun, nofun⟩
  | createTimer => exact ⟨nofun, nofun⟩
  | addPending => exact ⟨nofun, nofun⟩
  | @condWait r hpc =>
    refine ⟨?_, nofun⟩
    rintro q ⟨⟩ hsig
    exact absurd hsig (htimely r hpc)
  | @deadline r hpc hflag =>
    refine ⟨nofun, ?_⟩
    rintro q ⟨⟩ hsig
    rw [h.flag r hpc hsig] at hflag
    cases hflag
  | @wake r =>
    obtain ⟨call, id, serial⟩ := r
    cases call <;> exact ⟨nofun, nofun⟩
  | rmActProc => exact ⟨nofun, nofun⟩
  | response hpc hr hans hev =>
    obtain ⟨⟨p, rfl, -⟩, -⟩ := E42Xapp.eventOfProcedure_eq_some hev
    exact ⟨h.flag, h.deadline⟩
  | indication hpc hind =>
    obtain ⟨y, ⟨p, rfl, -⟩, msgDisp, rfl⟩ := E42Xapp.e2apHandleIndicationXapp_eq_some hind
    exact ⟨h.flag, h.deadline⟩
  | rmPending hpc hrm =>
    obtain ⟨fd, pending, -, -, rfl⟩ := E42Xapp.rmPendingEventXapp_eq_some hrm
    exact ⟨h.flag, h.deadline⟩
  | signal => exact ⟨fun _ _ _ => rfl, fun q hq => absurd hq (htimely q)⟩
  | timerExpiry => exact h

theorem waitInv_run {x : E42Xapp} {tr : List (XappState × XappAction)}
    (h : (xappThreads x).Run tr s) (htimely : ∀ p ∈ tr, p.1.Timely p.2) : s.WaitInv := by
  induction h with
  | nil => exact ⟨nofun, nofun⟩
  | cons _ he ht ih =>
    obtain ⟨hlast, hrest⟩ := List.forall_mem_cons.1 htimely
    exact (ih hrest).step hlast (trans_of_step he ht)

theorem WaitInv.waitEnds (h : s.WaitInv) (hcall : s.CallInv) : s.WaitEnds := by
  intro r hr hsig
  rw [blocked] at hr
  cases hpc : s.uiPc with
  | waiting q =>
    rw [hpc] at hr
    cases List.mem_singleton.1 hr
    have hflag := h.flag r hpc hsig
    have hack := (hcall.flag r hpc hflag).2
    refine ⟨.inl ⟨⟨r, hpc⟩, hflag⟩, ?_⟩
    simp [XappState.step, hpc, hflag, hack]
  | timedOut q =>
    rw [hpc] at hr
    cases List.mem_singleton.1 hr
    exact absurd hsig (h.deadline r hpc)
  | _ =>
    rw [hpc] at hr
    cases hr

/-- A wait ends after its own response was signalled, in every run. -/
theorem CallInv.signalled_of_wake (h : s.CallInv) (ht : s.Trans .wake t) :
    ∀ r ∈ s.blocked, r.serial ∈ s.signalled := by
  intro r hr
  cases ht with
  | begin hpc hreq => cases hreq
  | @wake q hpc hflag =>
    rw [blocked, hpc] at hr
    cases List.mem_singleton.1 hr
    exact (h.flag r hpc hflag).1

/-- **Wake-ups.** No wake-up of a run is lost exactly if every wait of the run begins before its
response is signalled and no response is signalled after the deadline of the wait. -/
theorem noLostWakeup_iff {x : E42Xapp} {tr : List (XappState × XappAction)}
    (h : (xappThreads x).Run tr s) : NoLostWakeup tr s ↔ ∀ p ∈ tr, p.1.Timely p.2 := by
  have hreach : ∀ p ∈ tr, (xappThreads x).Reachable p.1 := fun p hp =>
    ((h.reachable_of_mem .init).2 p hp).1
  constructor
  · rintro ⟨hends, -⟩ ⟨u, a⟩ hp
    obtain ⟨he, v, hv, hstep⟩ := h.exists_visited _ hp
    have ht : u.Trans a v := trans_of_step he hstep
    have hend := hends v hv
    cases a with
    | condWait =>
      intro r hr hsig
      cases ht with
      | begin hpc hreq => cases hreq
      | @condWait q hpc =>
        rw [hr] at hpc
        cases hpc
        -- the flag has just been reset, so the wait cannot end
        rcases (hend r (List.mem_singleton_self r) hsig).1 with ⟨-, hflag⟩ | ⟨q, hq⟩
        · cases hflag
        · cases hq
    | signal =>
      intro r hr
      cases ht with
      | begin hpc hreq => cases hreq
      | @signal serial hpc =>
        obtain ⟨q, hq, rfl, -⟩ := (callInv_reachable (hreach _ hp)).of_signal hpc
        rw [hr] at hq
        cases hq
        -- the wait has run into its deadline, so its end is a failing assertion
        have hpc' : u.uiPc = .timedOut r := hr
        refine (hend r ?_ List.mem_cons_self).2 ?_
        · simp [blocked, hpc']
        · simp [XappState.step, hpc']
    | _ => trivial
  · intro htimely
    refine ⟨?_, ?_⟩
    · intro u hu
      obtain ⟨tr', hrun, hsub⟩ := h.of_mem_visited hu
      exact (waitInv_run hrun fun p hp => htimely p (hsub hp)).waitEnds
        (callInv_reachable ⟨tr', hrun⟩)
    · rintro ⟨u, a⟩ hp rfl
      obtain ⟨he, v, -, hstep⟩ := h.exists_visited _ hp
      exact (callInv_reachable (hreach _ hp)).signalled_of_wake (trans_of_step he hstep)

/-- A response that comes during the wait ends it. -/
theorem noLostWakeup_first : ∃ tr s, (xappThreads Sample.xapp).Run tr s ∧ s.signalled = [0] ∧
    s.uiPc = .idle ∧ NoLostWakeup tr s := by
  have hsched : ∃ s, ((xappThreads Sample.xapp).restrict Timely).Sched (.init Sample.xapp)
      (Sample.report ++ .condWait :: (Sample.response ++ [.wake])) s ∧ s.signalled = [0] ∧
      s.uiPc = .idle :=
    ⟨_, ⟨⟨rfl, trivial⟩, _, rfl, ⟨⟨_, rfl⟩, trivial⟩, _, rfl,
      ⟨⟨⟨_, rfl⟩, by decide, by decide⟩, trivial⟩, _, rfl, ⟨⟨_, _, rfl⟩, trivial⟩, _, rfl,
      ⟨⟨_, rfl⟩, fun _ _ => List.not_mem_nil⟩, _, rfl,
      ⟨⟨rfl, fun _ => ⟨_, List.mem_singleton_self _, rfl⟩⟩, trivial⟩, _, rfl,
      ⟨⟨_, _, rfl⟩, trivial⟩, _, rfl, ⟨⟨_, rfl⟩, nofun⟩, _, rfl,
      ⟨.inl ⟨⟨_, rfl⟩, rfl⟩, trivial⟩, _, rfl, rfl⟩, rfl, rfl⟩
  obtain ⟨s, hsched, hsig, hpc⟩ := hsched
  obtain ⟨tr, hsteps, -⟩ := hsched.steps
  obtain ⟨hrun, htimely⟩ := System.steps_restrict.1 hsteps
  exact ⟨tr, s, hrun, hsig, hpc, (noLostWakeup_iff hrun).2 htimely⟩

/-- A response that is signalled before the wait begins is lost: the flag is reset, and the wait
runs into its deadline and fails an assertion. -/
theorem wakeup_lost : ∃ tr s, (xappThreads Sample.xapp).Run tr s ∧ s.signalled = [0] ∧
    (∃ r, s.uiPc = .waiting r ∧ r.serial = 0) ∧ ¬s.Enabled .wake ∧
    (∃ t, s.step .deadline = some t ∧ t.step .wake = none) ∧ ¬NoLostWakeup tr s := by
  have hsched : ∃ s, (xappThreads Sample.xapp).Sched (.init Sample.xapp)
      (Sample.report ++ (Sample.response ++ [.condWait])) s ∧ s.signalled = [0] ∧
      (∃ r, s.uiPc = .waiting r ∧ r.serial = 0) ∧ s.xapp.sync.flagSync = false ∧
      ∃ t, s.step .deadline = some t ∧ t.step .wake = none :=
    ⟨_, ⟨rfl, _, rfl, ⟨_, rfl⟩, _, rfl, ⟨⟨_, rfl⟩, by decide, by decide⟩, _, rfl, ⟨_, _, rfl⟩, _,
      rfl, ⟨rfl, fun _ => ⟨_, List.mem_singleton_self _, rfl⟩⟩, _, rfl, ⟨_, _, rfl⟩, _, rfl,
      ⟨_, rfl⟩, _, rfl, ⟨_, rfl⟩, _, rfl, rfl⟩, rfl, ⟨_, rfl, rfl⟩, rfl, _, rfl, rfl⟩
  obtain ⟨s, hsched, hsig, ⟨r, hpc, hserial⟩, hflag, hdeadline⟩ := hsched
  obtain ⟨tr, hrun, -⟩ := hsched.steps
  have hwake : ¬s.Enabled .wake := by
    rintro (⟨-, hset⟩ | ⟨q, hq⟩)
    · rw [hflag] at hset
      cases hset
    · rw [hpc] at hq
      cases hq
  refine ⟨tr, s, hrun, hsig, ⟨r, hpc, hserial⟩, hwake, hdeadline, fun hno => hwake ?_⟩
  refine (hno.1 s List.mem_cons_self r ?_ ?_).1
  · simp [blocked, hpc]
  · rw [hsig, hserial]
    exact List.mem_singleton_self 0

end XappState

end FlexRic
