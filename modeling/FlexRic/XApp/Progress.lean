import FlexRic.XApp.Callbacks
import FlexRic.XApp.Registration

/-!
# The threads of an xApp go on

What an xApp has to be used like and what it has to be sent, so that no assertion fails in its
threads: its calls are about functions that it has a plugin for and about reports that it has made,
every response comes before the deadline of its wait and after the pending event was added, and the
indications are ones that the plugins take.
-/

namespace FlexRic

/-- A procedure that is active can be removed. -/
theorem ActProc.WF.rm_of_holds {p : ActProc} (h : p.WF) {id : RicGenId} (hid : p.Holds id) :
    ∃ p', p.rm id.ricReqId.toUInt16 = some p' := by
  have hkey := h.toUInt16_toUInt32 hid
  obtain ⟨val, hmem, -⟩ := hid
  obtain ⟨it, hit⟩ := AssocReg.mem_toList.1 hmem
  rw [ActProc.rm, hkey, h.reg.findReg_of_mem hit]
  exact ⟨_, rfl⟩

namespace E42Xapp

variable {x : E42Xapp}

/-- The xApp can have a procedure for the function. -/
structure CanEnter (x : E42Xapp) (ranFuncId : UInt16) : Prop where
  valid : validRanFuncId ranFuncId = true
  /-- it has a plugin -/
  plugin : smPluginRic x.pluginRic ranFuncId ≠ none
  /-- it has an id left -/
  keyId : x.actProc.reg.keyId < 65536

/-- The xApp can make the call. -/
def CanCall (x : E42Xapp) : XappAction → Prop
  | .report _ ranFuncId i _ => x.CanEnter ranFuncId ∧ i ≠ .msEnd
  | .rmReport handle => ∃ v ∈ x.actProc.procs, v.id.ricReqId = handle.toUInt32
  | .control _ ranFuncId => x.CanEnter ranFuncId
  | _ => True

/-- A procedure gets an id of its service model. -/
theorem ranFuncId_of_generate {type : ActProcValE} {ranFuncId : UInt16} {e2Node : GlobalE2NodeId}
    {cb : Option SmCb} {id : RicGenId} {y : E42Xapp}
    (h : x.generateRicGenId type ranFuncId e2Node cb = some (id, y)) :
    id.ranFuncId = ranFuncId := by
  obtain ⟨-, h⟩ := Option.ite_none_right_eq_some.1 h
  obtain ⟨⟨key, p⟩, -, h⟩ := Option.bind_eq_some_iff.1 h
  obtain ⟨-, heq⟩ := Option.ite_none_right_eq_some.1 h
  cases heq
  rfl

theorem pluginRic_of_generate {type : ActProcValE} {ranFuncId : UInt16} {e2Node : GlobalE2NodeId}
    {cb : Option SmCb} {id : RicGenId} {y : E42Xapp}
    (h : x.generateRicGenId type ranFuncId e2Node cb = some (id, y)) :
    y.pluginRic = x.pluginRic := by
  obtain ⟨⟨p, rfl, -⟩, -⟩ := generateRicGenId_eq_some h
  rfl

theorem CanEnter.report {ranFuncId : UInt16} (h : x.CanEnter ranFuncId) {i : InterXapp}
    (hi : i ≠ .msEnd) (id : GlobalE2NodeId) (cb : SmCb) :
    x.reportSmSyncXapp id ranFuncId i cb ≠ none := by
  obtain ⟨y, hy⟩ := generateRicGenId_ne_none h.keyId h.valid .ricSubscriptionProcedureActive id
    (some cb)
  obtain ⟨p, hp⟩ := Option.ne_none_iff_exists'.1 h.plugin
  have hplugin : smPluginRic y.pluginRic ranFuncId = some p := by
    rw [pluginRic_of_generate hy, hp]
  rw [reportSmSyncXapp, hy, Option.bind_some]
  simp [hi, hplugin]

theorem CanEnter.control {ranFuncId : UInt16} (h : x.CanEnter ranFuncId) (id : GlobalE2NodeId) :
    x.controlSmSyncXapp id ranFuncId ≠ none := by
  obtain ⟨y, hy⟩ := generateRicGenId_ne_none h.keyId h.valid .ricControlProcedureActive id none
  obtain ⟨p, hp⟩ := Option.ne_none_iff_exists'.1 h.plugin
  have hplugin : smPluginRic y.pluginRic ranFuncId = some p := by
    rw [pluginRic_of_generate hy, hp]
  rw [controlSmSyncXapp, hy, Option.bind_some]
  simp [hplugin]

theorem rmReportSmSyncXapp_of_mem (hwf : x.actProc.WF) {handle : UInt16}
    (h : ∃ v ∈ x.actProc.procs, v.id.ricReqId = handle.toUInt32) :
    x.rmReportSmSyncXapp handle ≠ none := by
  obtain ⟨v, hv, hid⟩ := h
  obtain ⟨val, p, hfind⟩ := hwf.find_ne_none (hid ▸ (hwf.procs_lt hv).1)
  obtain ⟨-, -, -, hval⟩ := hwf.find_spec hfind
  rw [← hid, find_key_eq_some (fun v : ActProcVal => v.id.ricReqId) hwf.procs_nodup hv] at hval
  rw [rmReportSmSyncXapp, hfind, hval]
  exact Option.some_ne_none _

/-- A call that can be made begins. -/
theorem CanCall.request_ne_none (hwf : x.actProc.WF) {a : XappAction} (h : x.CanCall a)
    {call : UiCall} {req : Option (RicGenId × E42Xapp)} (hreq : a.request x = some (call, req)) :
    req ≠ none := by
  cases a with
  | report id ranFuncId i cb =>
    cases hreq
    exact h.1.report h.2 id cb
  | rmReport handle =>
    cases hreq
    exact rmReportSmSyncXapp_of_mem hwf h
  | control id ranFuncId =>
    cases hreq
    exact CanEnter.control h id
  | _ => cases hreq

/-- An indication for a plugin, with an id that can be an active one, is handled. -/
theorem e2apHandleIndicationXapp_ne_none (hwf : x.actProc.WF) {ind : RicIndication}
    (hplugin : smPluginRic x.pluginRic ind.ricId.ranFuncId ≠ none)
    (htype : ∀ sm ∈ x.pluginRic, sm.onIndication ind ≠ .tcStatsV0)
    (hpos : 0 < ind.ricId.ricReqId.toUInt16.toUInt32) :
    x.e2apHandleIndicationXapp ind ≠ none := by
  obtain ⟨sm, hsm⟩ := Option.ne_none_iff_exists'.1 hplugin
  obtain ⟨val, p, hfind⟩ := hwf.find_ne_none hpos
  obtain ⟨-, hmem⟩ := Option.ite_none_right_eq_some.1 hsm
  have htype' := htype sm (List.mem_of_find?_eq_some hmem)
  simp [e2apHandleIndicationXapp, hsm, htype', hfind]

end E42Xapp

/-- A procedure is entered for a function that the xApp has a plugin for, and that of a report with
a callback. -/
theorem XappAction.proc_eq_some {x : E42Xapp} {a : XappAction} {v : ActProcVal}
    (h : a.proc x = some v) : smPluginRic x.pluginRic v.id.ranFuncId ≠ none ∧
      (v.call = .report → v.smCb ≠ none) := by
  cases a with
  | report id ranFuncId i cb =>
    obtain ⟨⟨ricId, y⟩, hreq, rfl⟩ := Option.map_eq_some_iff.1 h
    refine ⟨?_, fun _ => Option.some_ne_none cb⟩
    obtain ⟨⟨ricId', z⟩, hgen, hreq⟩ := Option.bind_eq_some_iff.1 hreq
    obtain ⟨-, hreq⟩ := Option.ite_none_right_eq_some.1 hreq
    obtain ⟨sm, hsm, heq⟩ := Option.map_eq_some_iff.1 hreq
    cases heq
    rw [E42Xapp.ranFuncId_of_generate hgen, ← E42Xapp.pluginRic_of_generate hgen]
    exact Option.ne_none_iff_exists'.2 ⟨sm, hsm⟩
  | control id ranFuncId =>
    obtain ⟨⟨ricId, y⟩, hreq, rfl⟩ := Option.map_eq_some_iff.1 h
    refine ⟨?_, nofun⟩
    obtain ⟨⟨ricId', z⟩, hgen, hreq⟩ := Option.bind_eq_some_iff.1 hreq
    obtain ⟨sm, hsm, heq⟩ := Option.map_eq_some_iff.1 hreq
    cases heq
    rw [E42Xapp.ranFuncId_of_generate hgen, ← E42Xapp.pluginRic_of_generate hgen]
    exact Option.ne_none_iff_exists'.2 ⟨sm, hsm⟩
  | _ => cases h

/-- The wait has not run into its deadline, and a timer has a descriptor. -/
def UiPc.InTime : UiPc → Prop
  | armed _ fd => 0 < fd
  | timedOut _ => False
  | _ => True

namespace XappState

/-- What the application, the near-RIC and the kernel do. The application makes calls that the xApp
can make. Every response comes before the deadline and the timer of its request, and after the
pending event was added. -/
def Cooperates (s : XappState) : XappAction → Prop
  | .deadline => False
  | .timerExpiry _ => False
  | .rmPending => s.uiPc.unregistered = false
  | .e2Answer (.controlAcknowledge ack) => ack.status = .success
  | .e2Answer (.indication ind) => ∀ sm ∈ s.xapp.pluginRic, sm.onIndication ind ≠ .tcStatsV0
  | a => s.xapp.CanCall a

variable {s t : XappState} {a : XappAction}

theorem Trans.inTime (h : s.Trans a t) (hne : a ≠ .deadline) (htime : s.uiPc.InTime) :
    t.uiPc.InTime := by
  cases h with
  | createTimer hpc hpos => exact hpos
  | deadline => exact absurd rfl hne
  | @wake r hpc hflag =>
    obtain ⟨call, id, serial⟩ := r
    cases call <;> trivial
  | response => exact htime
  | indication => exact htime
  | rmPending => exact htime
  | signal => exact htime
  | timerExpiry => exact htime
  | _ => trivial

/-- The pending event of a response is removed, once it was added. -/
theorem RegInv.rmPending_ne_none (h : s.RegInv) (hcall : s.CallInv) {serial : ℕ}
    {ev : PendingEventXapp} (hpc : s.loopPc = .rmPending serial ev)
    (hregistered : s.uiPc.unregistered = false) : s.step .rmPending ≠ none := by
  have hmem : serial ∈ s.inFlight :=
    List.mem_append_right _ (by rw [hpc]; exact List.mem_singleton_self _)
  obtain ⟨r, hr, -⟩ := hcall.exists_awaiting hmem
  obtain ⟨hkind, -⟩ := h.event serial ev hpc r (hr ▸ List.mem_singleton_self r)
  have hpending := h.pending
  rw [timed_of_awaiting hregistered, hr, unanswered, hpc, if_pos rfl] at hpending
  obtain ⟨⟨fd, ev'⟩, hlist, rfl⟩ := List.map_eq_singleton_iff.1 hpending
  have hin : (fd, r.event) ∈ s.xapp.pending.toList := by
    rw [hlist]
    exact List.mem_singleton_self _
  obtain ⟨p, hrm, -⟩ := h.wf.rmEv_of_mem hin fun e he _ => List.mem_singleton.1 (hlist ▸ he)
  rw [← PendingEventXappDs.rmEv_congr (hkind : ev.ev = r.event.ev)] at hrm
  have hrm' : s.xapp.rmPendingEventXapp ev =
      some { s.xapp with pending := p, io := s.xapp.io.erase fd } := by
    rw [E42Xapp.rmPendingEventXapp, hrm]
    exact E42Xapp.rmFdAsioXapp_eq_some.2 ⟨h.io _ hin, rfl⟩
  simp [XappState.step, hpc, hrm']

/-- Nothing that the parties do makes an assertion fail in the UI thread or in the event loop, when
the indication that arrives is for a plugin and has an id that can be an active one. -/
theorem step_ne_none {plugin : List SmRic} {tr : List (XappState × XappAction)}
    (hreg : s.RegInv) (hcall : s.CallInv) (hproc : ProcInv plugin tr s)
    (htime : s.uiPc.InTime) (he : s.Enabled a) (hcoop : s.Cooperates a)
    (hind : ∀ ind, a = .e2Answer (.indication ind) →
      smPluginRic plugin ind.ricId.ranFuncId ≠ none ∧
        0 < ind.ricId.ricReqId.toUInt16.toUInt32) : s.step a ≠ none := by
  have hbegin : ∀ {call : UiCall} {req : Option (RicGenId × E42Xapp)}, s.xapp.CanCall a →
      a.request s.xapp = some (call, req) → s.begin call req ≠ none := fun hcan hreq =>
    mt Option.map_eq_none_iff.1 (hcan.request_ne_none hproc.wf hreq)
  cases a with
  | report id ranFuncId i cb => exact hbegin hcoop rfl
  | rmReport handle => exact hbegin hcoop rfl
  | control id ranFuncId => exact hbegin hcoop rfl
  | sendRequest =>
    obtain ⟨r, hpc⟩ := he
    rw [XappState.step, hpc]
    exact Option.some_ne_none _
  | createTimer fd =>
    obtain ⟨⟨r, hpc⟩, hpos, hfd⟩ := he
    rw [XappState.step, hpc]
    exact mt Option.map_eq_none_iff.1
      (Option.ne_none_iff_exists'.2 ⟨_, E42Xapp.createTimer_eq_some.2 ⟨⟨hpos, hfd⟩, rfl⟩⟩)
  | addPending =>
    obtain ⟨r, fd, hpc⟩ := he
    rw [hpc] at htime
    have hpos : 0 < fd := htime
    simp [XappState.step, hpc, E42Xapp.addPendingEvent, PendingEventXappDs.add, hpos]
  | condWait =>
    obtain ⟨r, hpc⟩ := he
    rw [XappState.step, hpc]
    exact Option.some_ne_none _
  | deadline => exact hcoop.elim
  | wake =>
    rcases he with ⟨⟨r, hpc⟩, hflag⟩ | ⟨r, hpc⟩
    · have hack := (hcall.flag r hpc hflag).2
      simp [XappState.step, hpc, hflag, hack]
    · rw [hpc] at htime
      exact htime.elim
  | rmActProc =>
    obtain ⟨r, hpc⟩ := he
    obtain ⟨p, hrm⟩ := hreg.actProc.rm_of_holds (hreg.holds r (by simp [hpc, UiPc.current]))
    simp [XappState.step, hpc, E42Xapp.rmActProc, hrm]
  | e2Answer ans =>
    apply mt Option.map_eq_none_iff.1
    cases ans with
    | indication ind =>
      obtain ⟨hplugin, hpos⟩ := hind ind rfl
      apply mt Option.map_eq_none_iff.1
      exact E42Xapp.e2apHandleIndicationXapp_ne_none hproc.wf (hproc.plugin ▸ hplugin) hcoop hpos
    | controlAcknowledge ack =>
      obtain ⟨r, hr, hans⟩ := he.2 (Option.some_ne_none _)
      obtain ⟨y, hy, -⟩ := hproc.response hcall hr hans (by rintro _ ⟨⟩; exact hcoop)
      rw [hy]
      exact Option.some_ne_none _
    | _ =>
      obtain ⟨r, hr, hans⟩ := he.2 (Option.some_ne_none _)
      obtain ⟨y, hy, -⟩ := hproc.response hcall hr hans (by rintro _ ⟨⟩)
      rw [hy]
      exact Option.some_ne_none _
  | rmPending =>
    obtain ⟨serial, ev, hpc⟩ := he
    exact hreg.rmPending_ne_none hcall hpc hcoop
  | signal =>
    obtain ⟨serial, hpc⟩ := he
    rw [XappState.step, hpc]
    exact Option.some_ne_none _
  | timerExpiry fd => exact hcoop.elim

end XappState

namespace DispatchState

/-- What the other two threads rely on. -/
def Cooperates (s : DispatchState) : DispatchAction → Prop
  | .thread a => s.ui.Cooperates a
  | .indication ind => s.ui.Cooperates (.e2Answer (.indication ind))
  | _ => True

variable {x : E42Xapp} {tr : List (DispatchState × DispatchAction)} {s t : DispatchState}
  {a : DispatchAction} {v : ActProcVal}

theorem Trans.inTime (h : s.Trans a t) (hne : a ≠ .thread .deadline)
    (htime : s.ui.uiPc.InTime) : t.ui.uiPc.InTime := by
  cases h with
  | thread hstep he =>
    exact (XappState.trans_of_step he hstep).inTime (fun heq => hne (congrArg _ heq)) htime
  | indication hstep he => exact (XappState.trans_of_step he hstep).inTime nofun htime
  | move ha hui => exact hui ▸ htime
  | smCb hcalling hcb hui => exact hui ▸ htime

/-- What was entered has a plugin, and a report has a callback. -/
theorem procs_eq (hx : XappState.NoProcedures x) (hrun : (xappDispatch x).Run tr s)
    (hv : v ∈ procs tr) : smPluginRic x.pluginRic v.id.ranFuncId ≠ none ∧
      (v.call = .report → v.smCb ≠ none) := by
  obtain ⟨p, hp, hproc⟩ := List.mem_filterMap.1 hv
  obtain ⟨⟨tr', hrun'⟩, -⟩ := ((uiSteps hrun).reachable_of_mem .init).2 p hp
  rw [← (XappState.procInv_run hx hrun').plugin]
  exact XappAction.proc_eq_some hproc

/-- No assertion fails in the three threads, and no callback is null, as long as the indications
are those of reports that were made. -/
theorem step_ne_none (hfresh : XappState.Fresh x) (hx : XappState.NoProcedures x)
    (hrun : (xappDispatch x).Run tr s) (hknown : KnownIds tr) (htime : s.ui.uiPc.InTime)
    (he : s.Enabled a) (hcoop : s.Cooperates a)
    (hind : ∀ ind, a = .indication ind → ∃ v ∈ procs tr, v.call = .report ∧ v.id = ind.ricId) :
    s.step a ≠ none := by
  have hui := uiSteps hrun
  have hproc := XappState.procInv_run hx hui
  have hcalls := XappState.callsInv_run hx hui
  have hreg := XappState.regInv_reachable hfresh ⟨_, hui⟩
  have hcall := XappState.callInv_reachable ⟨_, hui⟩
  cases a with
  | thread b =>
    apply mt Option.map_eq_none_iff.1
    apply XappState.step_ne_none hreg hcall hproc htime he.1 hcoop
    rintro ind rfl
    cases he.2.1
  | indication ind =>
    apply mt Option.map_eq_none_iff.1
    apply XappState.step_ne_none hreg hcall hproc htime he.1 hcoop
    rintro _ ⟨⟩
    obtain ⟨v, hv, -, hid⟩ := hind ind rfl
    have hkey := hproc.wf.toUInt16_toUInt32_of_lt (hcalls.lt hproc hv)
    rw [← hid, hkey]
    exact ⟨(procs_eq hx hrun hv).1, hcalls.pos hproc hv⟩
  | sendMsgDispatcher => exact mt Option.map_eq_none_iff.1 he
  | waitAndPop =>
    obtain ⟨msg, q, hq⟩ := List.exists_cons_of_ne_nil he.2
    rw [step, hq]
    exact Option.some_ne_none _
  | smCb =>
    obtain ⟨msg, hmsg⟩ := Option.ne_none_iff_exists'.1 he
    have hmem : msg ∈ s.messages := by
      rw [messages, pending, hmsg]
      exact List.mem_append_right _ List.mem_cons_self
    obtain ⟨v, hv, ind, -, sm, hreport, -, -, rfl⟩ := mem_messages hx hrun hknown msg hmem
    obtain ⟨cb, hcb⟩ := Option.ne_none_iff_exists'.1 ((procs_eq hx hrun hv).2 hreport)
    simp [step, hmsg, message, hcb]

end DispatchState

end FlexRic
