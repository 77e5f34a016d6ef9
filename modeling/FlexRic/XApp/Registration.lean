import FlexRic.XApp.Wakeups

/-!
# The registration of the pending events

The handlers of the UI thread send a request first and add its pending event afterwards. When the
event loop removes the pending event of a response, it is there exactly if the UI thread has got
that far.
-/

namespace FlexRic

/-- The request whose pending event was added. -/
def UiPc.timed : UiPc → List UiRequest
  | registered r => [r]
  | waiting r => [r]
  | timedOut r => [r]
  | _ => []

/-- Whether the UI thread has sent its request and not added the pending event yet. -/
def UiPc.unregistered : UiPc → Bool
  | sent _ => true
  | armed _ _ => true
  | _ => false

namespace XappState

/-- Whether the event loop has still to remove the pending event of the request in flight. -/
def unanswered (s : XappState) : Bool :=
  match s.loopPc with
  | .idle => !s.outstanding.isEmpty
  | .rmPending _ _ => true
  | .signal _ => false

/-- What holds of the active procedures and of the pending events. -/
structure RegInv (s : XappState) : Prop where
  /-- the registry of the procedures is well formed -/
  actProc : s.xapp.actProc.WF
  /-- the procedure of the call is active -/
  holds : ∀ r ∈ s.uiPc.current, s.xapp.actProc.Holds r.id
  /-- the map of the pending events is well formed -/
  wf : s.xapp.pending.WF
  /-- its timers can fire -/
  io : ∀ e ∈ s.xapp.pending.toList, e.1 ∈ s.xapp.io
  /-- it has the event of the request in flight, once that is added, and no other -/
  pending : s.xapp.pending.toList.map Prod.snd =
    if s.unanswered then s.uiPc.timed.map UiRequest.event else []
  /-- the timer that is to be added can fire -/
  armed : ∀ r fd, s.uiPc = .armed r fd → fd ∈ s.xapp.io
  /-- no response is handled to its end before the event is added -/
  early : s.uiPc.unregistered = true → s.unanswered = true
  /-- the event that is to be removed is that of the request -/
  event : ∀ serial ev, s.loopPc = .rmPending serial ev →
    ∀ r ∈ s.uiPc.awaiting, ev.ev = r.call.event ∧ ev.id = r.id

/-- A connected xApp without active procedures and pending events. -/
structure Fresh (x : E42Xapp) : Prop where
  /-- the registry of the procedures is well formed -/
  actProc : x.actProc.WF
  /-- the map of the pending events is well formed -/
  wf : x.pending.WF
  /-- there is no pending event -/
  pending : x.pending.toList = []

variable {s t : XappState} {a : XappAction}

theorem regInv_init {x : E42Xapp} (h : Fresh x) : (init x).RegInv where
  actProc := h.actProc
  holds := by simp [init, UiPc.current]
  wf := h.wf
  io := by simp [init, h.pending]
  pending := by simp [init, h.pending, unanswered]
  armed := nofun
  early := nofun
  event := nofun

theorem current_of_awaiting {pc : UiPc} {r : UiRequest} (h : r ∈ pc.awaiting) : r ∈ pc.current := by
  cases pc <;> first | exact h | cases h

theorem eq_of_awaiting {pc : UiPc} {q r : UiRequest} (hq : q ∈ pc.awaiting) (hr : r ∈ pc.awaiting) :
    q = r := by
  cases pc <;>
    first | exact (List.mem_singleton.1 hq).trans (List.mem_singleton.1 hr).symm | cases hq

theorem timed_of_unregistered {pc : UiPc} (h : pc.unregistered = true) : pc.timed = [] := by
  cases pc <;> first | rfl | cases h

theorem timed_of_awaiting {pc : UiPc} (h : pc.unregistered = false) : pc.timed = pc.awaiting := by
  cases pc <;> first | rfl | cases h

theorem length_timed_le (pc : UiPc) : pc.timed.length ≤ 1 := by
  cases pc <;> simp [UiPc.timed]

/-- With nothing in flight, nothing is unanswered. -/
theorem unanswered_eq_false (h : s.inFlight = []) : s.unanswered = false ∧ s.loopPc = .idle := by
  obtain ⟨hout, hserials⟩ := List.append_eq_nil_iff.1 h
  rw [unanswered, List.map_eq_nil_iff.1 hout]
  cases hpc : s.loopPc with
  | idle => exact ⟨rfl, rfl⟩
  | rmPending serial ev =>
    rw [hpc] at hserials
    cases hserials
  | signal serial =>
    rw [hpc] at hserials
    cases hserials

theorem unanswered_of_mem {r : UiRequest} (hpc : s.loopPc = .idle) (hr : r ∈ s.outstanding) :
    s.unanswered = true := by
  rw [unanswered, hpc]
  cases hout : s.outstanding with
  | nil =>
    rw [hout] at hr
    cases hr
  | cons => rfl

/-- Before a pending event is added, there is none. -/
theorem RegInv.pending_eq_nil (h : s.RegInv) (htimed : s.uiPc.timed = []) :
    s.xapp.pending.toList = [] := by
  have hpending := h.pending
  rw [htimed] at hpending
  rw [← List.map_eq_nil_iff, hpending]
  exact ite_self []

theorem RegInv.length_pending_le (h : s.RegInv) : s.xapp.pending.toList.length ≤ 1 := by
  have hpending := congrArg List.length h.pending
  rw [List.length_map] at hpending
  have hle := length_timed_le s.uiPc
  rw [hpending]
  split
  · rwa [List.length_map]
  · exact Nat.zero_le _

/-- The event that is added is the only one. -/
theorem RegInv.toList_add (h : s.RegInv) {r : UiRequest} {fd : Fd} {p : PendingEventXappDs}
    (hpc : s.uiPc = .armed r fd) (hadd : s.xapp.pending.add fd r.event = some p) :
    p.toList = [(fd, r.event)] := by
  have hperm := PendingEventXappDs.perm_add hadd
  rw [h.pending_eq_nil (by rw [hpc]; rfl)] at hperm
  exact List.perm_singleton.1 hperm

/-- The steps of the UI thread that leave the pending events alone. -/
theorem RegInv.uiStep (h : s.RegInv) (hactProc : t.xapp.actProc = s.xapp.actProc)
    (hpending : t.xapp.pending = s.xapp.pending) (hio : t.xapp.io = s.xapp.io)
    (hcurrent : t.uiPc.current = s.uiPc.current) (htimed : t.uiPc.timed = s.uiPc.timed)
    (hawaiting : t.uiPc.awaiting = s.uiPc.awaiting) (harmed : ∀ r fd, t.uiPc ≠ .armed r fd)
    (hearly : t.uiPc.unregistered = false) (hloop : t.loopPc = s.loopPc)
    (hunanswered : t.unanswered = s.unanswered) : t.RegInv where
  actProc := by
    rw [hactProc]
    exact h.actProc
  holds := by
    rw [hactProc, hcurrent]
    exact h.holds
  wf := by
    rw [hpending]
    exact h.wf
  io := by
    rw [hpending, hio]
    exact h.io
  pending := by
    rw [hpending, hunanswered, htimed]
    exact h.pending
  armed r fd hpc := absurd hpc (harmed r fd)
  early htrue := by
    rw [hearly] at htrue
    cases htrue
  event := by
    rw [hloop, hawaiting]
    exact h.event

/-- The steps that write into the registry of the procedures only. -/
theorem RegInv.actProcStep (h : s.RegInv) {p : ActProc} (hwf : p.WF)
    (hmono : ∀ id, s.xapp.actProc.Holds id → p.Holds id)
    (hactProc : t.xapp.actProc = p) (hpending : t.xapp.pending = s.xapp.pending)
    (hio : t.xapp.io = s.xapp.io) (hui : t.uiPc = s.uiPc)
    (hunanswered : t.unanswered = s.unanswered)
    (hevent : ∀ serial ev, t.loopPc = .rmPending serial ev →
      ∀ r ∈ s.uiPc.awaiting, ev.ev = r.call.event ∧ ev.id = r.id) : t.RegInv where
  actProc := by
    rw [hactProc]
    exact hwf
  holds := by
    rw [hactProc, hui]
    exact fun r hr => hmono _ (h.holds r hr)
  wf := by
    rw [hpending]
    exact h.wf
  io := by
    rw [hpending, hio]
    exact h.io
  pending := by
    rw [hpending, hunanswered, hui]
    exact h.pending
  armed := by
    rw [hui, hio]
    exact h.armed
  early := by
    rw [hui, hunanswered]
    exact h.early
  event := by
    rw [hui]
    exact hevent

theorem RegInv.step (h : s.RegInv) (hcall : s.CallInv) (ht : s.Trans a t) : t.RegInv := by
  cases ht with
  | @begin a call id x hpc hreq =>
    obtain ⟨⟨p, rfl, hp⟩, hid⟩ := XappAction.request_eq_some hreq
    have hpending := h.pending_eq_nil (by rw [hpc]; rfl)
    refine ⟨(hp h.actProc).1, ?_, h.wf, h.io, ?_, nofun, nofun, fun _ _ _ r hr => nomatch hr⟩
    · intro r hr
      cases List.mem_singleton.1 hr
      exact hid h.actProc
    · simp [hpending, UiPc.timed]
  | @sendRequest r hpc =>
    have hpending := h.pending_eq_nil (by rw [hpc]; rfl)
    have hholds := h.holds
    rw [hpc] at hholds
    obtain ⟨-, hidle⟩ := unanswered_eq_false (hcall.idle (by rw [hpc]; rfl))
    refine ⟨h.actProc, hholds, h.wf, h.io, ?_, nofun, ?_, ?_⟩
    · simp [hpending, UiPc.timed]
    · simp [unanswered, hidle]
    · simp [hidle]
  | @createTimer fd r hpc hpos hfresh =>
    have hpending := h.pending_eq_nil (by rw [hpc]; rfl)
    have hholds := h.holds
    have hearly := h.early
    have hevent := h.event
    rw [hpc] at hholds hearly hevent
    refine ⟨h.actProc, hholds, h.wf, fun e he => List.mem_cons_of_mem _ (h.io e he), ?_, ?_, hearly,
      hevent⟩
    · simp [hpending, UiPc.timed]
    · rintro q fd' ⟨⟩
      exact List.mem_cons_self
  | @addPending r fd p hpc hadd =>
    have hpending := h.pending_eq_nil (by rw [hpc]; rfl)
    have hholds := h.holds
    have hevent := h.event
    have hunanswered := h.early (by rw [hpc]; rfl)
    rw [hpc] at hholds hevent
    have hlist := h.toList_add hpc hadd
    refine ⟨h.actProc, hholds, h.wf.add (by simp [hpending]) hadd, ?_, ?_, nofun, nofun, hevent⟩
    · rw [hlist]
      exact List.forall_mem_singleton.2 (h.armed r fd hpc)
    · have hsame : unanswered { s with
          xapp := { s.xapp with pending := p }
          uiPc := .registered r } = true := hunanswered
      rw [hsame, hlist]
      rfl
  | condWait hpc =>
    exact h.uiStep rfl rfl rfl (by rw [hpc]; rfl) (by rw [hpc]; rfl) (by rw [hpc]; rfl) nofun
      rfl rfl rfl
  | deadline hpc =>
    exact h.uiStep rfl rfl rfl (by rw [hpc]; rfl) (by rw [hpc]; rfl) (by rw [hpc]; rfl) nofun
      rfl rfl rfl
  | @wake r hpc hflag =>
    obtain ⟨-, hflight⟩ := hcall.of_flag hpc hflag
    obtain ⟨hunanswered, hidle⟩ := unanswered_eq_false hflight
    have hpending := h.pending
    rw [hunanswered] at hpending
    have hnil : s.xapp.pending.toList = [] := List.map_eq_nil_iff.1 hpending
    have hholds := h.holds
    rw [hpc] at hholds
    obtain ⟨call, id, serial⟩ := r
    cases call with
    | report =>
      exact ⟨h.actProc, nofun, h.wf, h.io, by simp [hnil, afterWait, UiPc.timed], nofun, nofun,
        by simp [hidle]⟩
    | rmReport =>
      exact ⟨h.actProc, hholds, h.wf, h.io, by simp [hnil, afterWait, UiPc.timed], nofun, nofun,
        by simp [hidle]⟩
    | control =>
      exact ⟨h.actProc, hholds, h.wf, h.io, by simp [hnil, afterWait, UiPc.timed], nofun, nofun,
        by simp [hidle]⟩
  | @rmActProc r p hpc hrm =>
    have hpending := h.pending_eq_nil (by rw [hpc]; rfl)
    refine ⟨h.actProc.rm hrm, nofun, h.wf, h.io, ?_, nofun, nofun, fun _ _ _ r hr => nomatch hr⟩
    simp [hpending, UiPc.timed]
  | @response ans r ev x hpc hr hans hev =>
    obtain ⟨⟨p, rfl, hp⟩, hkind, hid⟩ := E42Xapp.eventOfProcedure_eq_some hev
    obtain ⟨hwf, hmono⟩ := hp h.actProc
    have hawaiting := hcall.outstanding r hr
    have hunanswered := unanswered_of_mem hpc hr
    refine h.actProcStep hwf hmono rfl rfl rfl rfl hunanswered.symm ?_
    rintro serial ev' ⟨⟩ q hq
    cases eq_of_awaiting hq hawaiting
    exact ⟨hkind, hid h.actProc (h.holds _ (current_of_awaiting hawaiting))⟩
  | indication hpc hind =>
    obtain ⟨y, ⟨p, rfl, hp⟩, msgDisp, rfl⟩ := E42Xapp.e2apHandleIndicationXapp_eq_some hind
    obtain ⟨hwf, hmono⟩ := hp h.actProc
    exact h.actProcStep hwf hmono rfl rfl rfl rfl rfl h.event
  | @rmPending serial ev x hpc hrm =>
    obtain ⟨fd, pending, hrmEv, -, rfl⟩ := E42Xapp.rmPendingEventXapp_eq_some hrm
    obtain ⟨hwf, ev', -, hperm⟩ := h.wf.rmEv hrmEv
    have hnil : pending.toList = [] := by
      have hlen := h.length_pending_le
      rw [hperm.length_eq, List.length_cons] at hlen
      exact List.length_eq_zero_iff.1 (by omega)
    -- there was an event to remove, so it had been added
    have htimed : s.uiPc.timed ≠ [] := fun htimed => by
      rw [h.pending_eq_nil htimed] at hperm
      exact absurd hperm.symm.eq_nil (List.cons_ne_nil _ _)
    refine ⟨h.actProc, h.holds, hwf, by simp [hnil], by simp [hnil, unanswered], ?_, ?_, nofun⟩
    · intro r fd' hpc'
      exact absurd (by rw [hpc']; rfl) htimed
    · intro hun
      exact absurd (timed_of_unregistered hun) htimed
  | @signal serial hpc =>
    obtain ⟨r, hr, rfl, hout⟩ := hcall.of_signal hpc
    have hunanswered : s.unanswered = false := by rw [unanswered, hpc]
    have hpending := h.pending
    have hearly := h.early
    rw [hunanswered] at hpending hearly
    refine ⟨h.actProc, h.holds, h.wf, h.io, ?_, h.armed, fun hun => absurd (hearly hun) nofun,
      nofun⟩
    simpa [unanswered, hout] using hpending
  | timerExpiry => exact h

theorem regInv_reachable {x : E42Xapp} (hx : Fresh x) (h : (xappThreads x).Reachable s) :
    s.RegInv := by
  obtain ⟨tr, hrun⟩ := h
  induction hrun with
  | nil => exact regInv_init hx
  | cons hrun he ht ih => exact ih.step (callInv_reachable ⟨_, hrun⟩) (trans_of_step he ht)

/-- The event loop, about to remove the pending event of a response, finds that of its request. -/
def PendingFound (s : XappState) : Prop :=
  ∀ serial ev, s.loopPc = .rmPending serial ev → ∃ r ∈ s.uiPc.current, r.serial = serial ∧
    ∃ fd p, (fd, r.event) ∈ s.xapp.pending.toList ∧ s.xapp.pending.rmEv ev = some (fd, p) ∧
      s.step .rmPending ≠ none

/-- **Registration.** Whatever the two threads do, the pending event of a response is found exactly
if the UI thread is not between the sending of a request and the adding of its pending event. -/
theorem pendingFound_iff {x : E42Xapp} (hx : Fresh x) (h : (xappThreads x).Reachable s) :
    s.PendingFound ↔
      ∀ serial ev, s.loopPc = .rmPending serial ev → s.uiPc.unregistered = false := by
  have hcall := callInv_reachable h
  have hinv := regInv_reachable hx h
  constructor
  · intro hfound serial ev hpc
    obtain ⟨r, -, -, fd, p, hmem, -⟩ := hfound serial ev hpc
    rw [← Bool.not_eq_true]
    intro hun
    rw [hinv.pending_eq_nil (timed_of_unregistered hun)] at hmem
    cases hmem
  · intro hregistered serial ev hpc
    have hmem : serial ∈ s.inFlight :=
      List.mem_append_right _ (by rw [hpc]; exact List.mem_singleton_self _)
    obtain ⟨r, hr, hserial, -⟩ := hcall.exists_awaiting hmem
    have hawaiting : r ∈ s.uiPc.awaiting := by
      rw [hr]
      exact List.mem_singleton_self r
    obtain ⟨hkind, -⟩ := hinv.event serial ev hpc r hawaiting
    -- the map has the event of the request and no other
    have hpending := hinv.pending
    rw [timed_of_awaiting (hregistered serial ev hpc), hr, unanswered, hpc, if_pos rfl] at hpending
    obtain ⟨⟨fd, ev'⟩, hlist, heq⟩ := List.map_eq_singleton_iff.1 hpending
    have hev' : ev' = r.event := heq
    subst hev'
    have hin : (fd, r.event) ∈ s.xapp.pending.toList := by
      rw [hlist]
      exact List.mem_singleton_self _
    obtain ⟨p, hrm, -⟩ := hinv.wf.rmEv_of_mem hin fun e he _ => by
      rw [hlist] at he
      exact List.mem_singleton.1 he
    have hrm' : s.xapp.pending.rmEv ev = some (fd, p) :=
      (PendingEventXappDs.rmEv_congr hkind).trans hrm
    refine ⟨r, current_of_awaiting hawaiting, hserial, fd, p, hin, hrm', ?_⟩
    have hstep : s.xapp.rmPendingEventXapp ev =
        some { s.xapp with pending := p, io := s.xapp.io.erase fd } := by
      rw [E42Xapp.rmPendingEventXapp, hrm']
      exact E42Xapp.rmFdAsioXapp_eq_some.2 ⟨hinv.io _ hin, rfl⟩
    simp [XappState.step, hpc, hstep]

/-- The connected xApp of the small network has no procedures and no pending events. -/
theorem fresh_xapp : Fresh Sample.xapp :=
  ⟨ActProc.wf_init, PendingEventXappDs.wf_init, rfl⟩

/-- A response that is handled after the pending event was added finds it. -/
theorem pendingFound_first : ∃ s serial ev, (xappThreads Sample.xapp).Reachable s ∧
    s.loopPc = .rmPending serial ev ∧ s.PendingFound := by
  have hsched : ∃ s, (xappThreads Sample.xapp).Sched (.init Sample.xapp)
      (Sample.report ++ [.e2Answer (.subscriptionResponse ⟨⟨1, 0, 142⟩, [0], 0⟩)]) s ∧
      s.uiPc.unregistered = false ∧ ∃ serial ev, s.loopPc = .rmPending serial ev :=
    ⟨_, ⟨rfl, _, rfl, ⟨_, rfl⟩, _, rfl, ⟨⟨_, rfl⟩, by decide, by decide⟩, _, rfl, ⟨_, _, rfl⟩, _,
      rfl, ⟨rfl, fun _ => ⟨_, List.mem_singleton_self _, rfl⟩⟩, _, rfl, rfl⟩, rfl, _, _, rfl⟩
  obtain ⟨s, hsched, hregistered, serial, ev, hpc⟩ := hsched
  obtain ⟨tr, hrun, -⟩ := hsched.steps
  exact ⟨s, serial, ev, ⟨tr, hrun⟩, hpc,
    (pendingFound_iff fresh_xapp ⟨tr, hrun⟩).2 fun _ _ _ => hregistered⟩

/-- A response that is handled before the pending event was added finds nothing, which is a failing
assertion. -/
theorem pending_missing : ∃ s serial ev, (xappThreads Sample.xapp).Reachable s ∧
    s.loopPc = .rmPending serial ev ∧ s.xapp.pending.toList = [] ∧ s.step .rmPending = none ∧
    ¬s.PendingFound := by
  have hsched : ∃ s, (xappThreads Sample.xapp).Sched (.init Sample.xapp)
      (Sample.report.take 2 ++ [.e2Answer (.subscriptionResponse ⟨⟨1, 0, 142⟩, [0], 0⟩)]) s ∧
      (∃ serial ev, s.loopPc = .rmPending serial ev) ∧ s.xapp.pending.toList = [] ∧
      s.step .rmPending = none :=
    ⟨_, ⟨rfl, _, rfl, ⟨_, rfl⟩, _, rfl, ⟨rfl, fun _ => ⟨_, List.mem_singleton_self _, rfl⟩⟩, _, rfl,
      rfl⟩, ⟨_, _, rfl⟩, rfl, rfl⟩
  obtain ⟨s, hsched, ⟨serial, ev, hpc⟩, hnil, hstep⟩ := hsched
  obtain ⟨tr, hrun, -⟩ := hsched.steps
  refine ⟨s, serial, ev, ⟨tr, hrun⟩, hpc, hnil, hstep, fun hfound => ?_⟩
  obtain ⟨r, -, -, fd, p, -, -, hne⟩ := hfound serial ev hpc
  exact hne hstep

end XappState

end FlexRic
