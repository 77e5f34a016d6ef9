import FlexRic.XApp.Calls
import FlexRic.XApp.Dispatch

/-!
# The callbacks of the reports

When every indication has the id of a report that was made before, as it is when the near-RIC sends
it, every callback that is called is that of the report of its indication; and while a report is
active, the callback is called for its indications in the order in which they arrive, once for each.
-/

namespace FlexRic

/-- The indication that arrives. -/
def DispatchAction.indication? : DispatchAction → Option RicIndication
  | indication ind => some ind
  | _ => none

namespace DispatchState

/-- The messages that the dispatcher has got, in the order in which their callbacks are called. -/
def messages (s : DispatchState) : List MsgDispatch := s.called.reverse ++ s.pending

/-- The indications of a trace, in the order of their arrival. -/
def indications (tr : List (DispatchState × DispatchAction)) : List RicIndication :=
  tr.reverse.filterMap fun e => e.2.indication?

/-- The procedures that the calls of a trace have entered. -/
def procs (tr : List (DispatchState × DispatchAction)) : List ActProcVal :=
  XappState.entered (uiTrace tr)

/-- Every indication has the id of a report that was made before. -/
def KnownIds : List (DispatchState × DispatchAction) → Prop
  | [] => True
  | e :: tr =>
    (∀ ind, e.2 = .indication ind → ∃ v ∈ procs tr, v.call = .report ∧ v.id = ind.ricId) ∧
      KnownIds tr

/-- The message that an indication of the procedure becomes. -/
def message (sm : SmRic) (v : ActProcVal) (ind : RicIndication) : MsgDispatch :=
  ⟨sm.onIndication ind, v.smCb, v.id.ricReqId⟩

variable {x : E42Xapp} {tr : List (DispatchState × DispatchAction)} {s t : DispatchState}
  {a : DispatchAction} {v : ActProcVal} {ind : RicIndication}

theorem indications_cons (e : DispatchState × DispatchAction) :
    indications (e :: tr) = indications tr ++ e.2.indication?.toList := by
  rw [indications, List.reverse_cons, List.filterMap_append, indications]
  cases h : e.2.indication? <;> simp [h]

theorem uiTrace_cons_subset (e : DispatchState × DispatchAction) :
    uiTrace tr ⊆ uiTrace (e :: tr) := by
  obtain ⟨s, a⟩ := e
  cases a with
  | thread a => exact List.subset_cons_self _ _
  | indication ind => exact List.subset_cons_self _ _
  | _ => exact List.Subset.refl _

theorem mem_uiTrace {b : XappAction} (h : (s, .thread b) ∈ tr) : (s.ui, b) ∈ uiTrace tr := by
  induction tr with
  | nil => cases h
  | cons e tr ih =>
    rcases List.mem_cons.1 h with rfl | h
    · exact List.mem_cons_self
    · exact uiTrace_cons_subset e (ih h)

/-- What was entered stays so. -/
theorem procs_mono (e : DispatchState × DispatchAction) (h : v ∈ procs tr) :
    v ∈ procs (e :: tr) := by
  obtain ⟨p, hp, hv⟩ := List.mem_filterMap.1 h
  exact List.mem_filterMap.2 ⟨p, uiTrace_cons_subset e hp, hv⟩

theorem exists_known (h : KnownIds tr) (hind : ind ∈ indications tr) :
    ∃ v ∈ procs tr, v.call = .report ∧ v.id = ind.ricId := by
  induction tr with
  | nil => cases hind
  | cons e tr ih =>
    rw [indications_cons, List.mem_append] at hind
    rcases hind with hind | hind
    · obtain ⟨v, hv, hid⟩ := ih h.2 hind
      exact ⟨v, procs_mono e hv, hid⟩
    · obtain ⟨s, a⟩ := e
      cases a with
      | indication ind' =>
        cases List.mem_singleton.1 hind
        obtain ⟨v, hv, hrest⟩ := h.1 ind rfl
        exact ⟨v, procs_mono _ hv, hrest⟩
      | _ => cases hind

/-- The messages stay the same but for those of the indications. -/
theorem Trans.messages_eq (h : s.Trans a t) :
    t.messages = s.messages ++ (a.indication?.bind s.ui.xapp.indicationMsg).toList := by
  cases h with
  | thread _ _ _ hpending hcalled =>
    rw [messages, hpending, hcalled]
    exact (List.append_nil _).symm
  | indication _ _ hpending hcalled =>
    rw [messages, hpending, hcalled, messages, List.append_assoc]
    rfl
  | move ha _ hpending hcalled =>
    rw [messages, hpending, hcalled]
    rcases ha with rfl | rfl <;> exact (List.append_nil _).symm
  | smCb _ _ _ hpending hcalled =>
    rw [messages, messages, hcalled, hpending, List.reverse_cons, List.append_assoc,
      List.singleton_append]
    exact (List.append_nil _).symm

/-- An indication becomes the message of the active procedure that has its id. -/
theorem indicationMsg_of_mem {y : E42Xapp} (hwf : y.actProc.WF) (hv : v ∈ y.actProc.procs)
    (hid : v.id = ind.ricId) {sm : SmRic}
    (hsm : smPluginRic y.pluginRic ind.ricId.ranFuncId = some sm) :
    y.indicationMsg ind = some (message sm v ind) := by
  have hlt := hwf.procs_lt hv
  have hkey := hwf.toUInt16_toUInt32_of_lt hlt.2
  rw [hid] at hlt hkey
  obtain ⟨val, p, hfind⟩ := hwf.find_ne_none (hkey.symm ▸ hlt.1)
  obtain ⟨-, -, -, hval⟩ := hwf.find_spec hfind
  rw [hkey, ← hid,
    find_key_eq_some (fun v : ActProcVal => v.id.ricReqId) hwf.procs_nodup hv] at hval
  rw [E42Xapp.indicationMsg, hsm, Option.bind_some, hfind, Option.bind_some, hval]
  rfl

/-- The message of an indication is that of the procedure with its id, which is active. -/
theorem indicationMsg_of_known (hx : XappState.NoProcedures x)
    (hrun : (xappDispatch x).Run tr s) (hv : v ∈ procs tr) (hid : v.id = ind.ricId)
    {msg : MsgDispatch} (h : s.ui.xapp.indicationMsg ind = some msg) :
    v ∈ XappState.liveProcs (uiTrace tr) ∧
      ∃ sm, smPluginRic x.pluginRic ind.ricId.ranFuncId = some sm ∧ msg = message sm v ind := by
  have hproc := XappState.procInv_run hx (uiSteps hrun)
  have hcalls := XappState.callsInv_run hx (uiSteps hrun)
  have hkey : ind.ricId.ricReqId.toUInt16.toUInt32 = ind.ricId.ricReqId := by
    rw [← hid]
    exact hproc.wf.toUInt16_toUInt32_of_lt (hcalls.lt hproc hv)
  obtain ⟨sm, hsm, h⟩ := Option.bind_eq_some_iff.1 h
  obtain ⟨⟨val, p⟩, hfind, h⟩ := Option.bind_eq_some_iff.1 h
  obtain ⟨w, rfl, rfl⟩ := Option.map_eq_some_iff.1 h
  obtain ⟨-, -, -, hval⟩ := hproc.wf.find_spec hfind
  have hw := hproc.perm.mem_iff.1 (List.mem_of_find?_eq_some hval.symm)
  have hwid : w.id.ricReqId = ind.ricId.ricReqId := by
    have heq := List.find?_some hval.symm
    rw [hkey] at heq
    exact of_decide_eq_true heq
  have hwv : w = v := List.inj_on_of_nodup_map hcalls.ids (hcalls.live w hw) hv
    (hwid.trans (congrArg RicGenId.ricReqId hid).symm)
  subst hwv
  exact ⟨hw, sm, hproc.plugin ▸ hsm, rfl⟩

/-- What the dispatcher has got is of indications of procedures that were entered. -/
theorem mem_messages (hx : XappState.NoProcedures x) (hrun : (xappDispatch x).Run tr s)
    (hknown : KnownIds tr) : ∀ msg ∈ s.messages, ∃ v ∈ procs tr, ∃ ind ∈ indications tr, ∃ sm,
      v.call = .report ∧ v.id = ind.ricId ∧
        smPluginRic x.pluginRic ind.ricId.ranFuncId = some sm ∧ msg = message sm v ind := by
  induction hrun with
  | nil => exact fun msg hmsg => absurd hmsg List.not_mem_nil
  | @cons tr s t a hrun he ht ih =>
    intro msg hmsg
    rw [(trans_of_step he ht).messages_eq, List.mem_append] at hmsg
    rcases hmsg with hmsg | hmsg
    · obtain ⟨v, hv, ind, hind, hrest⟩ := ih hknown.2 msg hmsg
      refine ⟨v, procs_mono _ hv, ind, ?_, hrest⟩
      rw [indications_cons]
      exact List.mem_append_left _ hind
    · obtain ⟨ind, ha, hind⟩ := Option.bind_eq_some_iff.1 (Option.mem_toList.1 hmsg)
      cases a with
      | indication ind' =>
        cases ha
        obtain ⟨v, hv, hcall, hid⟩ := hknown.1 ind rfl
        obtain ⟨-, sm, hsm, rfl⟩ := indicationMsg_of_known hx hrun hv hid hind
        refine ⟨v, procs_mono _ hv, ind, ?_, sm, hcall, hid, hsm, rfl⟩
        rw [indications_cons]
        exact List.mem_append_right _ (List.mem_singleton_self _)
      | _ => cases ha

/-- A procedure that is active after a step was active before or is entered in it. -/
theorem mem_liveProcs_cons (e : DispatchState × DispatchAction)
    (h : v ∈ XappState.liveProcs (uiTrace (e :: tr))) :
    v ∈ XappState.liveProcs (uiTrace tr) ∨
      ∃ b, e.2 = .thread b ∧ b.proc e.1.ui.xapp = some v := by
  obtain ⟨s, a⟩ := e
  cases a with
  | thread b =>
    cases b with
    | report id ranFuncId i cb =>
      rw [uiTrace, XappState.liveProcs_report] at h
      split at h
      · next ricId y hreq =>
        rcases List.mem_cons.1 h with rfl | h
        · exact .inr ⟨_, rfl, congrArg (Option.map _) hreq⟩
        · exact .inl h
      · exact .inl h
    | control id ranFuncId =>
      rw [uiTrace, XappState.liveProcs_control] at h
      split at h
      · next ricId y hreq =>
        rcases List.mem_cons.1 h with rfl | h
        · exact .inr ⟨_, rfl, congrArg (Option.map _) hreq⟩
        · exact .inl h
      · exact .inl h
    | rmActProc =>
      rw [uiTrace, XappState.liveProcs_rmActProc] at h
      split at h
      · exact .inl (List.mem_filter.1 h).1
      · exact .inl h
    | _ => exact .inl h
  | _ => exact .inl h

/-- An indication adds a message to those of an active procedure exactly if it has its id. -/
theorem filter_message (hx : XappState.NoProcedures x) (hrun : (xappDispatch x).Run tr s)
    (hknown : ∃ w ∈ procs tr, w.id = ind.ricId) (hv : v ∈ XappState.liveProcs (uiTrace tr))
    {sm : SmRic} (hsm : smPluginRic x.pluginRic v.id.ranFuncId = some sm) :
    (s.ui.xapp.indicationMsg ind).toList.filter (fun msg => msg.reqId = v.id.ricReqId) =
      ([ind].filter fun ind => ind.ricId = v.id).map (message sm v) := by
  have hproc := XappState.procInv_run hx (uiSteps hrun)
  have hcalls := XappState.callsInv_run hx (uiSteps hrun)
  by_cases hid : ind.ricId = v.id
  · rw [← hid, ← hproc.plugin] at hsm
    rw [indicationMsg_of_mem hproc.wf (hproc.perm.mem_iff.2 hv) hid.symm hsm]
    simp [hid, message]
  · have hnot : ∀ msg, s.ui.xapp.indicationMsg ind = some msg →
        ¬decide (msg.reqId = v.id.ricReqId) = true := by
      intro msg hmsg heq
      obtain ⟨w, hw, hwid⟩ := hknown
      obtain ⟨-, sm', -, rfl⟩ := indicationMsg_of_known hx hrun hw hwid hmsg
      have hwv : w = v :=
        List.inj_on_of_nodup_map hcalls.ids hw (hcalls.live v hv) (of_decide_eq_true heq)
      exact hid (hwid.symm.trans (congrArg ActProcVal.id hwv))
    rw [List.filter_cons_of_neg (by simpa using hid)]
    refine List.filter_eq_nil_iff.2 fun msg hmsg => hnot msg (Option.mem_toList.1 hmsg)

/-- While a procedure is active, every indication with its id becomes a message of it, in the order
of their arrival. -/
theorem messages_of_live (hx : XappState.NoProcedures x) (hrun : (xappDispatch x).Run tr s)
    (hknown : KnownIds tr) (hv : v ∈ XappState.liveProcs (uiTrace tr)) {sm : SmRic}
    (hsm : smPluginRic x.pluginRic v.id.ranFuncId = some sm) :
    s.messages.filter (fun msg => msg.reqId = v.id.ricReqId) =
      ((indications tr).filter fun ind => ind.ricId = v.id).map (message sm v) := by
  induction hrun with
  | nil => cases hv
  | @cons tr s t a hrun he ht ih =>
    have hcalls := XappState.callsInv_run hx (uiSteps (hrun.cons he ht))
    have hentered := hcalls.live v hv
    rw [(trans_of_step he ht).messages_eq, indications_cons, List.filter_append,
      List.filter_append, List.map_append]
    rcases mem_liveProcs_cons _ hv with hlive | ⟨b, hb, hproc⟩
    · rw [ih hknown.2 hlive]
      apply congrArg (_ ++ ·)
      cases a with
      | indication ind =>
        obtain ⟨w, hw, -, hid⟩ := hknown.1 ind rfl
        exact filter_message hx hrun ⟨w, hw, hid⟩ hlive hsm
      | _ => rfl
    · -- the procedure is entered in this step, so there is nothing with its id yet
      cases hb
      have hids := hcalls.ids
      have hcons : XappState.entered (uiTrace ((s, .thread b) :: tr)) = v :: procs tr :=
        List.filterMap_cons_some hproc
      rw [hcons, List.map_cons, List.nodup_cons] at hids
      have hnew : ∀ w ∈ procs tr, w.id.ricReqId ≠ v.id.ricReqId := fun w hw heq =>
        hids.1 (heq ▸ List.mem_map_of_mem hw)
      have hmessages : s.messages.filter (fun msg => msg.reqId = v.id.ricReqId) = [] := by
        refine List.filter_eq_nil_iff.2 fun msg hmsg heq => ?_
        obtain ⟨w, hw, ind, -, sm', -, -, -, rfl⟩ := mem_messages hx hrun hknown.2 msg hmsg
        exact hnew w hw (of_decide_eq_true heq)
      have hindications : (indications tr).filter (fun ind => ind.ricId = v.id) = [] := by
        refine List.filter_eq_nil_iff.2 fun ind hind heq => ?_
        obtain ⟨w, hw, -, hid⟩ := exists_known hknown.2 hind
        exact hnew w hw (congrArg RicGenId.ricReqId (hid.trans (of_decide_eq_true heq)))
      rw [hmessages, hindications]
      rfl

end DispatchState

end FlexRic
