import FlexRic.XApp.Procedures

/-!
# The calls of a run

What the calls of the UI thread have asked for, and the procedures that they have entered. An xApp
uses every id once: no two procedures get the same id, and a report is removed at most once and
only after it was made.
-/

namespace FlexRic

/-- The call that enters the procedure. -/
def ActProcVal.call (v : ActProcVal) : UiCall :=
  match v.type with
  | .ricSubscriptionProcedureActive => .report
  | .ricControlProcedureActive => .control

theorem ActProcVal.call_ne_rmReport (v : ActProcVal) : v.call ≠ .rmReport := by
  obtain ⟨type⟩ := v
  cases type
  · rintro ⟨⟩
  · rintro ⟨⟩

namespace XappAction

/-- What the action asks for, if it begins a call. -/
def asks (x : E42Xapp) (a : XappAction) : Option (UiCall × RicGenId) :=
  (a.request x).bind fun (call, req) => req.map fun (id, _) => (call, id)

/-- The procedure that the action enters. -/
def proc (x : E42Xapp) : XappAction → Option ActProcVal
  | .report id ranFuncId i cb => (x.reportSmSyncXapp id ranFuncId i cb).map fun (ricId, _) =>
      ⟨.ricSubscriptionProcedureActive, ricId, some cb, id⟩
  | .control id ranFuncId => (x.controlSmSyncXapp id ranFuncId).map fun (ricId, _) =>
      ⟨.ricControlProcedureActive, ricId, none, id⟩
  | _ => none

variable {x : E42Xapp} {a : XappAction} {v : ActProcVal}

/-- A call asks for the procedure that it enters. -/
theorem asks_of_proc (h : a.proc x = some v) : a.asks x = some (v.call, v.id) := by
  cases a with
  | report id ranFuncId i cb =>
    obtain ⟨⟨ricId, y⟩, hreq, rfl⟩ := Option.map_eq_some_iff.1 h
    simp [asks, request, hreq, ActProcVal.call]
  | control id ranFuncId =>
    obtain ⟨⟨ricId, y⟩, hreq, rfl⟩ := Option.map_eq_some_iff.1 h
    simp [asks, request, hreq, ActProcVal.call]
  | _ => cases h

/-- A call that removes nothing enters a procedure. -/
theorem proc_of_asks {call : UiCall} {id : RicGenId} (h : a.asks x = some (call, id))
    (hcall : call ≠ .rmReport) : ∃ v, a.proc x = some v ∧ v.call = call ∧ v.id = id := by
  cases a with
  | report node ranFuncId i cb =>
    obtain ⟨⟨ricId, y⟩, hreq, heq⟩ := Option.map_eq_some_iff.1 h
    cases heq
    exact ⟨_, congrArg (Option.map _) hreq, rfl, rfl⟩
  | control node ranFuncId =>
    obtain ⟨⟨ricId, y⟩, hreq, heq⟩ := Option.map_eq_some_iff.1 h
    cases heq
    exact ⟨_, congrArg (Option.map _) hreq, rfl, rfl⟩
  | rmReport handle =>
    obtain ⟨⟨ricId, y⟩, hreq, heq⟩ := Option.map_eq_some_iff.1 h
    cases heq
    exact absurd rfl hcall
  | _ => cases h

end XappAction

namespace XappState

/-- What the calls of a trace have asked for, the latest one first. -/
def asked (tr : List (XappState × XappAction)) : List (UiCall × RicGenId) :=
  tr.filterMap fun p => p.2.asks p.1.xapp

/-- The procedures that the calls of a trace have entered, the latest one first. -/
def entered (tr : List (XappState × XappAction)) : List ActProcVal :=
  tr.filterMap fun p => p.2.proc p.1.xapp

variable {tr : List (XappState × XappAction)} {s t : XappState} {a : XappAction}
  {plugin : List SmRic} {v : ActProcVal} {q : UiCall × RicGenId}

theorem mem_asked_of_entered (h : v ∈ entered tr) : (v.call, v.id) ∈ asked tr := by
  obtain ⟨p, hp, hproc⟩ := List.mem_filterMap.1 h
  exact List.mem_filterMap.2 ⟨p, hp, XappAction.asks_of_proc hproc⟩

theorem entered_of_mem_asked (h : q ∈ asked tr) (hcall : q.1 ≠ .rmReport) :
    ∃ v ∈ entered tr, v.call = q.1 ∧ v.id = q.2 := by
  obtain ⟨p, hp, hasks⟩ := List.mem_filterMap.1 h
  obtain ⟨v, hproc, hv⟩ := XappAction.proc_of_asks hasks hcall
  exact ⟨v, List.mem_filterMap.2 ⟨p, hp, hproc⟩, hv⟩

/-- Between two calls there is none. -/
theorem not_mem_current (hpc : s.uiPc = .idle) (r : UiRequest) : r ∉ s.uiPc.current := by
  rw [hpc]
  exact List.not_mem_nil

/-- What holds of the calls of a trace. -/
structure CallsInv (tr : List (XappState × XappAction)) (s : XappState) : Prop where
  /-- the active procedures were entered -/
  live : ∀ v ∈ liveProcs tr, v ∈ entered tr
  /-- what was entered is active or was removed -/
  entered : ∀ v ∈ entered tr,
    v ∈ liveProcs tr ∨ ∃ id ∈ removedIds tr, id.ricReqId = v.id.ricReqId
  /-- no two procedures have the same id -/
  ids : ((XappState.entered tr).map fun v => v.id.ricReqId).Nodup
  /-- a control procedure is that of the present call -/
  control : ∀ v ∈ liveProcs tr, v.call = .control →
    ∃ r ∈ s.uiPc.current, r.call = .control ∧ r.id = v.id
  /-- a report that is removed was made, and it is active only during the call that removes it -/
  removal : ∀ id, (.rmReport, id) ∈ asked tr →
    (∃ v ∈ XappState.entered tr, v.call = .report ∧ v.id = id) ∧
      ((∃ r ∈ s.uiPc.current, r.call = .rmReport ∧ r.id = id) ∨
        ∀ v ∈ liveProcs tr, v.id.ricReqId ≠ id.ricReqId)
  /-- nothing is asked for twice -/
  nodup : (asked tr).Nodup

namespace CallsInv

/-- Every id that was given is below the counter. -/
theorem lt (h : CallsInv tr s) (hproc : ProcInv plugin tr s) (hv : v ∈ XappState.entered tr) :
    v.id.ricReqId.toNat < s.xapp.actProc.reg.keyId := by
  rcases h.entered v hv with hlive | ⟨id, hid, heq⟩
  · exact (hproc.wf.procs_lt (hproc.perm.mem_iff.2 hlive)).2
  · rw [← heq]
    exact (hproc.removed id hid).1.2

theorem pos (h : CallsInv tr s) (hproc : ProcInv plugin tr s) (hv : v ∈ XappState.entered tr) :
    0 < v.id.ricReqId := by
  rcases h.entered v hv with hlive | ⟨id, hid, heq⟩
  · exact (hproc.wf.procs_lt (hproc.perm.mem_iff.2 hlive)).1
  · rw [← heq]
    exact (hproc.removed id hid).1.1

theorem asked_lt (h : CallsInv tr s) (hproc : ProcInv plugin tr s) (hq : q ∈ asked tr) :
    q.2.ricReqId.toNat < s.xapp.actProc.reg.keyId := by
  by_cases hcall : q.1 = .rmReport
  · obtain ⟨⟨v, hv, -, hid⟩, -⟩ := h.removal q.2 (hcall ▸ hq)
    exact hid ▸ h.lt hproc hv
  · obtain ⟨v, hv, -, hid⟩ := entered_of_mem_asked hq hcall
    exact hid ▸ h.lt hproc hv

/-- The steps that neither begin a call nor remove a procedure. -/
theorem keep (h : CallsInv tr s) (hlive : liveProcs ((s, a) :: tr) = liveProcs tr)
    (hremoved : removedIds ((s, a) :: tr) = removedIds tr) (hproc : a.proc s.xapp = none)
    (hasks : a.asks s.xapp = none)
    (hcurrent : ∀ r ∈ s.uiPc.current, r ∈ t.uiPc.current ∨ r.call = .report) :
    CallsInv ((s, a) :: tr) t := by
  have hentered : XappState.entered ((s, a) :: tr) = XappState.entered tr :=
    List.filterMap_cons_none hproc
  have hasked : asked ((s, a) :: tr) = asked tr := List.filterMap_cons_none hasks
  refine ⟨?_, ?_, ?_, ?_, ?_, ?_⟩
  · rw [hlive, hentered]
    exact h.live
  · rw [hlive, hentered, hremoved]
    exact h.entered
  · rw [hentered]
    exact h.ids
  · rw [hlive]
    intro v hv hcall
    obtain ⟨r, hr, hkind, hid⟩ := h.control v hv hcall
    rcases hcurrent r hr with hr | hreport
    · exact ⟨r, hr, hkind, hid⟩
    · rw [hreport] at hkind
      cases hkind
  · rw [hlive, hentered, hasked]
    intro id hid
    obtain ⟨hmade, hcur⟩ := h.removal id hid
    refine ⟨hmade, ?_⟩
    rcases hcur with ⟨r, hr, hkind, hrid⟩ | hnot
    · rcases hcurrent r hr with hr | hreport
      · exact .inl ⟨r, hr, hkind, hrid⟩
      · rw [hreport] at hkind
        cases hkind
    · exact .inr hnot
  · rw [hasked]
    exact h.nodup

/-- A call that enters its procedure, with an id that none before it had. -/
theorem add (h : CallsInv tr s) (hpi : ProcInv plugin tr s) {call : UiCall} {x : E42Xapp}
    (hpc : s.uiPc = .idle) (hx : s.xapp.AddsProc x v) (hv : v.call = call)
    (hproc : a.proc s.xapp = some v) (hlive : liveProcs ((s, a) :: tr) = v :: liveProcs tr)
    (hremoved : removedIds ((s, a) :: tr) = removedIds tr) : CallsInv ((s, a) :: tr)
      { s with xapp := x, uiPc := .start ⟨call, v.id, s.calls⟩, calls := s.calls + 1 } := by
  obtain ⟨p, -, -, -, -, hid⟩ := hx
  have hentered : XappState.entered ((s, a) :: tr) = v :: XappState.entered tr :=
    List.filterMap_cons_some hproc
  have hasked : asked ((s, a) :: tr) = (v.call, v.id) :: asked tr :=
    List.filterMap_cons_some (XappAction.asks_of_proc hproc)
  have hidle := not_mem_current hpc
  refine ⟨?_, ?_, ?_, ?_, ?_, ?_⟩
  · rw [hlive, hentered]
    exact fun w hw => (List.mem_cons.1 hw).elim (fun heq => heq ▸ List.mem_cons_self)
      fun hw => List.mem_cons_of_mem _ (h.live w hw)
  · rw [hlive, hentered, hremoved]
    intro w hw
    rcases List.mem_cons.1 hw with rfl | hw
    · exact .inl List.mem_cons_self
    · exact (h.entered w hw).imp_left (List.mem_cons_of_mem _)
  · rw [hentered]
    refine List.nodup_cons.2 ⟨fun hmem => ?_, h.ids⟩
    obtain ⟨w, hw, heq⟩ := List.mem_map.1 hmem
    have hlt := h.lt hpi hw
    rw [heq, hid] at hlt
    exact Nat.lt_irrefl _ hlt
  · rw [hlive]
    intro w hw hcall
    rcases List.mem_cons.1 hw with rfl | hw
    · exact ⟨_, List.mem_singleton_self _, hv.symm.trans hcall, rfl⟩
    · obtain ⟨r, hr, -⟩ := h.control w hw hcall
      exact absurd hr (hidle r)
  · rw [hlive, hentered, hasked]
    intro id hmem
    have hmem' : (UiCall.rmReport, id) ∈ asked tr := by
      rcases List.mem_cons.1 hmem with heq | hmem
      · exact absurd (congrArg Prod.fst heq).symm v.call_ne_rmReport
      · exact hmem
    obtain ⟨⟨w, hw, hmade⟩, hcur⟩ := h.removal id hmem'
    refine ⟨⟨w, List.mem_cons_of_mem _ hw, hmade⟩, .inr ?_⟩
    rcases hcur with ⟨r, hr, -⟩ | hnot
    · exact absurd hr (hidle r)
    · refine List.forall_mem_cons.2 ⟨fun heq => ?_, hnot⟩
      have hlt := h.asked_lt hpi hmem'
      rw [← heq, hid] at hlt
      exact Nat.lt_irrefl _ hlt
  · rw [hasked]
    refine List.nodup_cons.2 ⟨fun hmem => ?_, h.nodup⟩
    have hlt := h.asked_lt hpi hmem
    rw [hid] at hlt
    exact Nat.lt_irrefl _ hlt

/-- The call that removes a report which is active. -/
theorem rmReport (h : CallsInv tr s) (hpi : ProcInv plugin tr s) {handle : UInt16} {x : E42Xapp}
    {id : RicGenId} (hpc : s.uiPc = .idle)
    (hreq : s.xapp.rmReportSmSyncXapp handle = some (id, x)) :
    CallsInv ((s, .rmReport handle) :: tr)
      { s with xapp := x, uiPc := .start ⟨.rmReport, id, s.calls⟩, calls := s.calls + 1 } := by
  obtain ⟨-, v, hv, rfl⟩ := E42Xapp.rmReportSmSyncXapp_spec hpi.wf hreq
  have hlive := hpi.perm.mem_iff.1 hv
  have hasks : (XappAction.rmReport handle).asks s.xapp = some (.rmReport, v.id) := by
    simp [XappAction.asks, XappAction.request, hreq]
  have hasked : asked ((s, .rmReport handle) :: tr) = (.rmReport, v.id) :: asked tr :=
    List.filterMap_cons_some hasks
  have hidle := not_mem_current hpc
  refine ⟨h.live, h.entered, h.ids, ?_, ?_, ?_⟩
  · intro w hw hcall
    obtain ⟨r, hr, -⟩ := h.control w hw hcall
    exact absurd hr (hidle r)
  · rw [hasked]
    intro id hmem
    rcases List.mem_cons.1 hmem with heq | hmem
    · cases heq
      refine ⟨⟨v, h.live v hlive, ?_, rfl⟩, .inl ⟨_, List.mem_singleton_self _, rfl, rfl⟩⟩
      -- between two calls there is no control procedure
      cases hcall : v.call with
      | report => rfl
      | control =>
        obtain ⟨r, hr, -⟩ := h.control v hlive hcall
        exact absurd hr (hidle r)
      | rmReport => exact absurd hcall v.call_ne_rmReport
    · obtain ⟨hmade, hcur⟩ := h.removal id hmem
      refine ⟨hmade, .inr ?_⟩
      rcases hcur with ⟨r, hr, -⟩ | hnot
      · exact absurd hr (hidle r)
      · exact hnot
  · rw [hasked]
    refine List.nodup_cons.2 ⟨fun hmem => ?_, h.nodup⟩
    obtain ⟨-, ⟨r, hr, -⟩ | hnot⟩ := h.removal v.id hmem
    · exact absurd hr (hidle r)
    · exact hnot v hlive rfl

/-- The end of a call that removes its procedure. -/
theorem remove (h : CallsInv tr s) {r : UiRequest} (hpc : s.uiPc = .released r)
    (x : E42Xapp) : CallsInv ((s, .rmActProc) :: tr) { s with xapp := x, uiPc := .idle } := by
  have hlive : liveProcs ((s, .rmActProc) :: tr) =
      (liveProcs tr).filter fun v => v.id.ricReqId ≠ r.id.ricReqId := by
    rw [liveProcs_rmActProc, hpc]
  have hremoved : removedIds ((s, .rmActProc) :: tr) = r.id :: removedIds tr := by
    rw [removedIds_rmActProc, hpc]
  have hcurrent : ∀ q ∈ s.uiPc.current, q = r := by
    rw [hpc]
    exact fun q hq => List.mem_singleton.1 hq
  refine ⟨?_, ?_, h.ids, ?_, ?_, h.nodup⟩
  · rw [hlive]
    exact fun v hv => h.live v (List.mem_filter.1 hv).1
  · rw [hlive, hremoved]
    intro v hv
    by_cases hid : v.id.ricReqId = r.id.ricReqId
    · exact .inr ⟨r.id, List.mem_cons_self, hid.symm⟩
    · rcases h.entered v hv with hmem | ⟨id, hmem, heq⟩
      · exact .inl (List.mem_filter.2 ⟨hmem, decide_eq_true hid⟩)
      · exact .inr ⟨id, List.mem_cons_of_mem _ hmem, heq⟩
  · rw [hlive]
    intro v hv hcall
    obtain ⟨hv, hne⟩ := List.mem_filter.1 hv
    obtain ⟨q, hq, -, hid⟩ := h.control v hv hcall
    cases hcurrent q hq
    exact absurd (congrArg RicGenId.ricReqId hid).symm (of_decide_eq_true hne)
  · rw [hlive]
    intro id hmem
    obtain ⟨hmade, hcur⟩ := h.removal id hmem
    refine ⟨hmade, .inr fun v hv heq => ?_⟩
    obtain ⟨hv, hne⟩ := List.mem_filter.1 hv
    rcases hcur with ⟨q, hq, -, rfl⟩ | hnot
    · cases hcurrent q hq
      exact of_decide_eq_true hne heq
    · exact hnot v hv heq

theorem step (h : CallsInv tr s) (hpi : ProcInv plugin tr s) (ht : s.Trans a t) :
    CallsInv ((s, a) :: tr) t := by
  cases ht with
  | @begin _ call id x hpc hreq =>
    cases a with
    | report node ranFuncId i cb =>
      obtain ⟨rfl, hgen⟩ := Prod.mk.inj (Option.some.inj hreq)
      exact h.add hpi (v := ⟨_, id, some cb, node⟩) hpc (E42Xapp.reportSmSyncXapp_spec hpi.wf hgen)
        rfl (congrArg (Option.map _) hgen) (by rw [liveProcs_report, hgen]) rfl
    | control node ranFuncId =>
      obtain ⟨rfl, hgen⟩ := Prod.mk.inj (Option.some.inj hreq)
      exact h.add hpi (v := ⟨_, id, none, node⟩) hpc (E42Xapp.controlSmSyncXapp_spec hpi.wf hgen)
        rfl (congrArg (Option.map _) hgen) (by rw [liveProcs_control, hgen]) rfl
    | rmReport handle =>
      obtain ⟨rfl, hgen⟩ := Prod.mk.inj (Option.some.inj hreq)
      exact h.rmReport hpi hpc hgen
    | _ => cases hreq
  | @wake r hpc hflag =>
    refine h.keep rfl rfl rfl rfl fun q hq => ?_
    rw [hpc] at hq
    cases List.mem_singleton.1 hq
    obtain ⟨call, id, serial⟩ := r
    cases call with
    | report => exact .inr rfl
    | rmReport => exact .inl (List.mem_singleton_self _)
    | control => exact .inl (List.mem_singleton_self _)
  | rmActProc hpc hrm => exact h.remove hpc _
  | sendRequest hpc => exact h.keep rfl rfl rfl rfl fun r hr => .inl (by rwa [hpc] at hr)
  | createTimer hpc => exact h.keep rfl rfl rfl rfl fun r hr => .inl (by rwa [hpc] at hr)
  | addPending hpc => exact h.keep rfl rfl rfl rfl fun r hr => .inl (by rwa [hpc] at hr)
  | condWait hpc => exact h.keep rfl rfl rfl rfl fun r hr => .inl (by rwa [hpc] at hr)
  | deadline hpc => exact h.keep rfl rfl rfl rfl fun r hr => .inl (by rwa [hpc] at hr)
  | response => exact h.keep rfl rfl rfl rfl fun r hr => .inl hr
  | indication => exact h.keep rfl rfl rfl rfl fun r hr => .inl hr
  | rmPending => exact h.keep rfl rfl rfl rfl fun r hr => .inl hr
  | signal => exact h.keep rfl rfl rfl rfl fun r hr => .inl hr
  | timerExpiry => exact h.keep rfl rfl rfl rfl fun r hr => .inl hr

end CallsInv

theorem callsInv_run {x : E42Xapp} (hx : NoProcedures x) (h : (xappThreads x).Run tr s) :
    CallsInv tr s := by
  induction h with
  | nil => exact ⟨nofun, nofun, .nil, nofun, nofun, .nil⟩
  | cons hrun he ht ih => exact ih.step (procInv_run hx hrun) (trans_of_step he ht)

/-- Two calls that ask for procedures with the same id are the same. -/
theorem CallsInv.eq_of_asked (h : CallsInv tr s) {call call' : UiCall} {id : RicGenId}
    (hq : (call, id) ∈ asked tr) (hq' : (call', id) ∈ asked tr) (hcall : call ≠ .rmReport)
    (hcall' : call' ≠ .rmReport) : call = call' := by
  obtain ⟨v, hv, hvcall, hvid⟩ := entered_of_mem_asked hq hcall
  obtain ⟨w, hw, hwcall, hwid⟩ := entered_of_mem_asked hq' hcall'
  have hvw : v = w := List.inj_on_of_nodup_map h.ids hv hw
    (congrArg RicGenId.ricReqId (hvid.trans hwid.symm))
  exact hvcall.symm.trans (hvw ▸ hwcall)

/-- What is asked for was not asked for before. -/
theorem CallsInv.not_mem_of_asked (h : CallsInv tr s) {l l' : List (UiCall × RicGenId)}
    (hasked : asked tr = l ++ q :: l') : q ∉ l' := by
  have hnodup := h.nodup
  rw [hasked] at hnodup
  exact (List.nodup_cons.1 (List.nodup_append.1 hnodup).2.1).1

/-- A report is asked for before its removal is. -/
theorem asked_before {x : E42Xapp} (hx : NoProcedures x) (h : (xappThreads x).Run tr s)
    {l l' : List (UiCall × RicGenId)} {id : RicGenId}
    (hasked : asked tr = l ++ (.rmReport, id) :: l') : (.report, id) ∈ l' := by
  induction h generalizing l with
  | nil => exact absurd hasked.symm (by simp [asked])
  | @cons tr t u a hrun he ht ih =>
    cases hasks : a.asks t.xapp with
    | none =>
      have hsame : asked ((t, a) :: tr) = asked tr := List.filterMap_cons_none hasks
      exact ih (hsame.symm.trans hasked)
    | some q =>
      have hcons : asked ((t, a) :: tr) = q :: asked tr := List.filterMap_cons_some hasks
      rw [hcons] at hasked
      cases l with
      | cons q' l => exact ih (List.cons.inj hasked).2
      | nil =>
        obtain ⟨rfl, rfl⟩ := List.cons.inj hasked
        -- the report was made, and not by this call
        have hinv := callsInv_run hx (hrun.cons he ht)
        obtain ⟨⟨v, hv, hcall, hid⟩, -⟩ := hinv.removal id (hcons ▸ List.mem_cons_self)
        have hmem := mem_asked_of_entered hv
        rw [hcall, hid, hcons] at hmem
        rcases List.mem_cons.1 hmem with heq | hmem
        · cases heq
        · exact hmem

end XappState

end FlexRic
