import FlexRic.XApp.Procedures

/-!
# The dispatcher of the xApp (`xApp/msg_dispatcher_xapp.c`)

The third thread of the xApp takes the indications from the queue, each with a copy of the callback
that its procedure had, and calls the callbacks. Nothing takes a message back: when the call that
removes a report returns, the indications of the report that were found to be active before are
still on their way, and their callback is called afterwards.

An indication is followed through four places: the event loop has found its procedure and is about
to push it, it is queued, the dispatcher has taken it out, or its callback was called. The steps of
the other two threads are those of `xappThreads`.
-/

namespace FlexRic

/-- `msg_dispatch_t`, with the `ric_req_id` of the indication, which the code does not keep. -/
structure MsgDispatch : Type where
  rd : SmAgIfRd
  smCb : Option SmCb
  reqId : UInt32
  deriving DecidableEq, Repr

/-- The message that `e2ap_handle_indication_xapp` makes of an indication before it calls
`send_msg_dispatcher`, if the procedure is active. -/
def E42Xapp.indicationMsg (x : E42Xapp) (ind : RicIndication) : Option MsgDispatch :=
  (smPluginRic x.pluginRic ind.ricId.ranFuncId).bind fun sm =>
    (x.actProc.find ind.ricId.ricReqId.toUInt16).bind fun (val, _) =>
      val.map fun val => ⟨sm.onIndication ind, val.smCb, val.id.ricReqId⟩

/-- The three threads of the xApp. -/
structure DispatchState : Type where
  /-- the UI thread and the event loop; `msgDisp` has all messages, also those that were called -/
  ui : XappState
  /-- what the event loop is about to push -/
  pushing : Option MsgDispatch
  /-- the queue of `msg_disp`, the oldest message first -/
  q : List MsgDispatch
  /-- what the dispatcher has taken out of the queue, before the callback is called -/
  calling : Option MsgDispatch
  /-- the messages whose callback was called, the latest one first; the code has no such list -/
  called : List MsgDispatch

/-- A step of one of the three threads. -/
inductive DispatchAction : Type where
  /-- a step of the UI thread or of the event loop, but for the indications -/
  | thread (a : XappAction)
  /-- `e2ap_handle_indication_xapp` up to `send_msg_dispatcher` -/
  | indication (ind : RicIndication)
  /-- `send_msg_dispatcher` -/
  | sendMsgDispatcher
  /-- the dispatcher: `wait_and_pop_tsq` returns with a message -/
  | waitAndPop
  /-- the dispatcher: the callback is called -/
  | smCb
  deriving Repr

/-- The steps of the event loop. -/
def XappAction.isLoop : XappAction → Bool
  | e2Answer _ => true
  | rmPending => true
  | signal => true
  | timerExpiry _ => true
  | _ => false

/-- Whether the action is the arrival of an indication. -/
def XappAction.isIndication : XappAction → Bool
  | e2Answer (.indication _) => true
  | _ => false

namespace DispatchState

/-- The threads when the UI thread has found the xApp connected. -/
def init (x : E42Xapp) : DispatchState := ⟨.init x, none, [], none, []⟩

/-- What can happen next: the event loop finishes the handling of an indication first. -/
def Enabled (s : DispatchState) : DispatchAction → Prop
  | .thread a => s.ui.Enabled a ∧ a.isIndication = false ∧ (a.isLoop = true → s.pushing = none)
  | .indication ind => s.ui.Enabled (.e2Answer (.indication ind)) ∧ s.pushing = none
  | .sendMsgDispatcher => s.pushing ≠ none
  | .waitAndPop => s.calling = none ∧ s.q ≠ []
  | .smCb => s.calling ≠ none

/-- What the program does. A callback that is null fails, as does an assertion. -/
def step (s : DispatchState) : DispatchAction → Option DispatchState
  | .thread a => (s.ui.step a).map fun ui => { s with ui := ui }
  | .indication ind => (s.ui.step (.e2Answer (.indication ind))).map fun ui =>
      { s with ui := ui, pushing := s.ui.xapp.indicationMsg ind }
  | .sendMsgDispatcher =>
    s.pushing.map fun msg => { s with pushing := none, q := s.q ++ [msg] }
  | .waitAndPop =>
    match s.q with
    | [] => none
    | msg :: q => some { s with q := q, calling := some msg }
  | .smCb => s.calling.bind fun msg => msg.smCb.map fun _ =>
      { s with calling := none, called := msg :: s.called }

/-- The messages whose callback is still to be called, in the order of the dispatcher. -/
def pending (s : DispatchState) : List MsgDispatch :=
  s.calling.toList ++ s.q ++ s.pushing.toList

end DispatchState

/-- The interleaving of the three threads from the moment the xApp is connected. -/
def xappDispatch (x : E42Xapp) : System DispatchState DispatchAction where
  init := .init x
  enabled := DispatchState.Enabled
  step := DispatchState.step

namespace DispatchState

/-- The steps that go through, by what they do to the messages on their way. -/
inductive Trans (s : DispatchState) : DispatchAction → DispatchState → Prop
  | thread {a : XappAction} {t : DispatchState} (h : s.ui.step a = some t.ui)
      (he : s.ui.Enabled a) (hind : a.isIndication = false) (hpending : t.pending = s.pending)
      (hcalled : t.called = s.called) : Trans s (.thread a) t
  | indication {ind : RicIndication} {t : DispatchState}
      (h : s.ui.step (.e2Answer (.indication ind)) = some t.ui)
      (he : s.ui.Enabled (.e2Answer (.indication ind)))
      (hpending : t.pending = s.pending ++ (s.ui.xapp.indicationMsg ind).toList)
      (hcalled : t.called = s.called) : Trans s (.indication ind) t
  | move {a : DispatchAction} {t : DispatchState} (ha : a = .sendMsgDispatcher ∨ a = .waitAndPop)
      (hui : t.ui = s.ui) (hpending : t.pending = s.pending) (hcalled : t.called = s.called) :
      Trans s a t
  | smCb {msg : MsgDispatch} {t : DispatchState} (hcalling : s.calling = some msg)
      (hcb : msg.smCb ≠ none) (hui : t.ui = s.ui) (hpending : s.pending = msg :: t.pending)
      (hcalled : t.called = msg :: s.called) : Trans s .smCb t

variable {s t u : DispatchState} {a : DispatchAction}

/-- The inversion of `step`. -/
theorem trans_of_step (he : s.Enabled a) (h : s.step a = some t) : s.Trans a t := by
  cases a with
  | thread a =>
    obtain ⟨ui, hui, rfl⟩ := Option.map_eq_some_iff.1 h
    exact .thread hui he.1 he.2.1 rfl rfl
  | indication ind =>
    obtain ⟨ui, hui, rfl⟩ := Option.map_eq_some_iff.1 h
    refine .indication hui he.1 ?_ rfl
    simp [pending, he.2]
  | sendMsgDispatcher =>
    obtain ⟨msg, hmsg, rfl⟩ := Option.map_eq_some_iff.1 h
    refine .move (.inl rfl) rfl ?_ rfl
    simp [pending, hmsg]
  | waitAndPop =>
    rw [step] at h
    split at h
    · cases h
    · next msg q hq =>
      cases h
      refine .move (.inr rfl) rfl ?_ rfl
      simp [pending, hq, he.1]
  | smCb =>
    obtain ⟨msg, hmsg, h⟩ := Option.bind_eq_some_iff.1 h
    obtain ⟨cb, hcb, rfl⟩ := Option.map_eq_some_iff.1 h
    refine .smCb hmsg ?_ rfl ?_ rfl
    · rw [hcb]
      exact Option.some_ne_none cb
    · simp [pending, hmsg]

/-! ## The other two threads -/

/-- The steps of the UI thread and the event loop in a trace of the three threads. -/
def uiTrace : List (DispatchState × DispatchAction) → List (XappState × XappAction)
  | [] => []
  | (s, .thread a) :: tr => (s.ui, a) :: uiTrace tr
  | (s, .indication ind) :: tr => (s.ui, .e2Answer (.indication ind)) :: uiTrace tr
  | _ :: tr => uiTrace tr

/-- They are steps of the system of these two threads. -/
theorem uiSteps {x : E42Xapp} {tr : List (DispatchState × DispatchAction)}
    (h : (xappDispatch x).Steps s tr t) : (xappThreads x).Steps s.ui (uiTrace tr) t.ui := by
  induction h with
  | nil => exact .nil
  | cons hrun he ht ih =>
    cases trans_of_step he ht with
    | thread hstep hen => exact ih.cons hen hstep
    | indication hstep hen => exact ih.cons hen hstep
    | move ha hui =>
      rw [hui]
      rcases ha with rfl | rfl <;> exact ih
    | smCb hcalling hcb hui =>
      rw [hui]
      exact ih

/-! ## The messages on their way -/

/-- Every message on its way is that of an active procedure and has its callback, or that of a
procedure which was removed. -/
def MsgsInv (tr : List (XappState × XappAction)) (s : DispatchState) : Prop :=
  ∀ msg ∈ s.pending, (∃ id ∈ XappState.removedIds tr, id.ricReqId = msg.reqId) ∨
    ∃ v ∈ XappState.liveProcs tr, v.id.ricReqId = msg.reqId ∧ v.smCb = msg.smCb

theorem MsgsInv.cons {tr : List (XappState × XappAction)} (h : MsgsInv tr s)
    (p : XappState × XappAction) (hpending : t.pending = s.pending) : MsgsInv (p :: tr) t := by
  intro msg hmsg
  rw [hpending] at hmsg
  rcases h msg hmsg with ⟨id, hid, heq⟩ | ⟨v, hv, hkey, hcb⟩
  · exact .inl ⟨id, XappState.removedIds_mono p hid, heq⟩
  · rcases XappState.liveProcs_step p hv with hlive | ⟨id, hid, heq⟩
    · exact .inr ⟨v, hlive, hkey, hcb⟩
    · exact .inl ⟨id, hid, heq.trans hkey⟩

/-- The message of an indication has the id and the callback of an active procedure. -/
theorem indicationMsg_eq_some {x : E42Xapp} (hwf : x.actProc.WF) {ind : RicIndication}
    {msg : MsgDispatch} (h : x.indicationMsg ind = some msg) :
    ∃ v ∈ x.actProc.procs, v.id.ricReqId = msg.reqId ∧ v.smCb = msg.smCb := by
  obtain ⟨sm, -, h⟩ := Option.bind_eq_some_iff.1 h
  obtain ⟨⟨val, p⟩, hfind, h⟩ := Option.bind_eq_some_iff.1 h
  obtain ⟨v, rfl, rfl⟩ := Option.map_eq_some_iff.1 h
  obtain ⟨-, -, -, hval⟩ := hwf.find_spec hfind
  exact ⟨v, List.mem_of_find?_eq_some hval.symm, rfl, rfl⟩

/-- `e2ap_handle_indication_xapp` hands that message over. -/
theorem msgDisp_of_indication {x y : E42Xapp} {ind : RicIndication}
    (h : x.e2apHandleIndicationXapp ind = some y) : y.msgDisp =
      ((x.indicationMsg ind).toList.map fun msg => (msg.smCb, msg.rd)) ++ x.msgDisp := by
  obtain ⟨sm, hsm, h⟩ := Option.bind_eq_some_iff.1 h
  obtain ⟨-, h⟩ := Option.ite_none_right_eq_some.1 h
  obtain ⟨⟨val, p⟩, hfind, rfl⟩ := Option.map_eq_some_iff.1 h
  rw [E42Xapp.indicationMsg, hsm, Option.bind_some, hfind, Option.bind_some]
  cases val <;> rfl

theorem msgsInv_run {x : E42Xapp} (hx : XappState.NoProcedures x)
    {tr : List (DispatchState × DispatchAction)} (h : (xappDispatch x).Run tr s) :
    MsgsInv (uiTrace tr) s := by
  induction h with
  | nil => exact fun msg hmsg => absurd hmsg List.not_mem_nil
  | @cons tr s t a hrun he ht ih =>
    have hproc := XappState.procInv_run hx (uiSteps hrun)
    cases trans_of_step he ht with
    | thread _ _ _ hpending => exact ih.cons _ hpending
    | @indication ind _ _ _ hpending =>
      intro msg hmsg
      rw [hpending] at hmsg
      rcases List.mem_append.1 hmsg with hmsg | hmsg
      · exact ih.cons (t := s) _ rfl msg hmsg
      · obtain ⟨v, hv, hkey, hcb⟩ := indicationMsg_eq_some hproc.wf (Option.mem_toList.1 hmsg)
        exact .inr ⟨v, hproc.perm.mem_iff.1 hv, hkey, hcb⟩
    | move ha _ hpending =>
      intro msg hmsg
      rw [hpending] at hmsg
      rcases ha with rfl | rfl <;> exact ih msg hmsg
    | smCb _ _ _ hpending =>
      intro msg hmsg
      exact ih msg (hpending ▸ List.mem_cons_of_mem _ hmsg)

/-- The messages of the dispatcher are those that the indications have put on its queue, in the
order of their arrival: those that were called and then those on their way. -/
theorem msgDisp_eq {x : E42Xapp} (hx : XappState.NoProcedures x)
    {tr : List (DispatchState × DispatchAction)} (h : (xappDispatch x).Run tr s) :
    s.ui.xapp.msgDisp.reverse =
      (s.called.reverse ++ s.pending).map fun msg => (msg.smCb, msg.rd) := by
  induction h with
  | nil =>
    have hnil : x.msgDisp.reverse = [] := by rw [hx.msgDisp, List.reverse_nil]
    exact hnil
  | @cons tr s t a hrun he ht ih =>
    have hproc := XappState.procInv_run hx (uiSteps hrun)
    cases trans_of_step he ht with
    | @thread a t hstep hen hind hpending hcalled =>
      have hproc' := hproc.step hen hstep
      have hqueue : t.ui.xapp.msgDisp = s.ui.xapp.msgDisp := by
        rw [hproc'.queue, hproc.queue]
        cases a with
        | e2Answer ans =>
          cases ans with
          | indication ind => cases hind
          | _ => rfl
        | _ => rfl
      rw [hqueue, hpending, hcalled, ih]
    | @indication ind t hstep hen hpending hcalled =>
      obtain ⟨out, y, hhandle, hy, -⟩ := XappState.handle_eq_some hstep
      obtain ⟨y, hind, heq⟩ := Option.map_eq_some_iff.1 hhandle
      cases heq
      rw [hy, msgDisp_of_indication hind, hpending, hcalled, List.reverse_append, ih]
      simp only [List.map_append, List.append_assoc]
      cases s.ui.xapp.indicationMsg ind <;> rfl
    | move _ hui hpending hcalled => rw [hui, hpending, hcalled, ih]
    | smCb _ _ hui hpending hcalled =>
      rw [hui, hcalled, ih, hpending, List.reverse_cons, List.append_assoc, List.singleton_append]

/-! ## Callbacks after a report was removed -/

/-- The dispatcher gets to a message with the id: none before it has a null callback. -/
def delivers (reqId : UInt32) : List MsgDispatch → Bool
  | [] => false
  | msg :: msgs => msg.smCb.isSome && (msg.reqId = reqId || delivers reqId msgs)

theorem delivers_append {reqId : UInt32} {msg : MsgDispatch} (hne : msg.reqId ≠ reqId)
    (msgs : List MsgDispatch) : delivers reqId (msgs ++ [msg]) = delivers reqId msgs := by
  induction msgs with
  | nil => simp [delivers, hne]
  | cons m msgs ih => rw [List.cons_append, delivers, delivers, ih]

/-- The next step of the UI thread is the last one of `rm_report_sm_sync_xapp`, called with the
handle of the report `v`. The trace has the report call. -/
def Returns (s : DispatchState) (tr : List (DispatchState × DispatchAction)) (v : ActProcVal) :
    Prop :=
  v ∈ XappState.liveProcs (uiTrace tr) ∧
    ∃ r, s.ui.uiPc = .released r ∧ r.call = .rmReport ∧ r.id = v.id

/-- The step calls the callback of the report `v` for an indication of that report. -/
def Calls (v : ActProcVal) (p : DispatchState × DispatchAction) : Prop :=
  p.2 = .smCb ∧ ∃ msg, p.1.calling = some msg ∧ msg.reqId = v.id.ricReqId ∧ msg.smCb = v.smCb

/-- No callback is called after its report was removed: in the trace, no step after a return of
`rm_report_sm_sync_xapp` calls the callback of the report. -/
def NoLateCallback (tr : List (DispatchState × DispatchAction)) : Prop :=
  ∀ tr₁ s tr₂, tr = tr₁ ++ (s, .thread .rmActProc) :: tr₂ → ∀ v, s.Returns tr₂ v →
    ∀ p ∈ tr₁, ¬Calls v p

/-- No return of the trace leaves a message behind that the dispatcher gets to. -/
def QuietReturns (tr : List (DispatchState × DispatchAction)) : Prop :=
  ∀ tr₁ s tr₂, tr = tr₁ ++ (s, .thread .rmActProc) :: tr₂ → ∀ v, s.Returns tr₂ v →
    delivers v.id.ricReqId s.pending = false

theorem uiTrace_append (tr' tr : List (DispatchState × DispatchAction)) :
    uiTrace (tr' ++ tr) = uiTrace tr' ++ uiTrace tr := by
  induction tr' with
  | nil => rfl
  | cons p tr' ih =>
    obtain ⟨s, a⟩ := p
    cases a with
    | thread a => exact congrArg ((s.ui, a) :: ·) ih
    | indication ind => exact congrArg ((s.ui, .e2Answer (.indication ind)) :: ·) ih
    | _ => exact ih

variable {x : E42Xapp} {tr tr' : List (DispatchState × DispatchAction)} {v : ActProcVal}
  {reqId : UInt32}

/-- When a report was removed and the dispatcher gets to none of its messages, it stays so, and no
callback is called for the report. -/
theorem not_delivers_steps (hx : XappState.NoProcedures x) (hrun : (xappDispatch x).Run tr s)
    (hgone : ∃ id ∈ XappState.removedIds (uiTrace tr), id.ricReqId = reqId)
    (hquiet : delivers reqId s.pending = false) (h : (xappDispatch x).Steps s tr' t) :
    delivers reqId t.pending = false ∧
      ∀ p ∈ tr', p.2 = .smCb → ∀ msg, p.1.calling = some msg → msg.reqId ≠ reqId := by
  induction h with
  | nil => exact ⟨hquiet, by simp⟩
  | @cons tr' t u a hsteps he ht ih =>
    obtain ⟨hquiet, hcalls⟩ := ih
    rw [List.forall_mem_cons]
    cases trans_of_step he ht with
    | thread _ _ _ hpending => exact ⟨hpending ▸ hquiet, nofun, hcalls⟩
    | @indication ind _ _ _ hpending =>
      refine ⟨?_, nofun, hcalls⟩
      rw [hpending]
      cases hmsg : t.ui.xapp.indicationMsg ind with
      | none => simpa using hquiet
      | some msg =>
        -- the procedure of a new message is active, so it is another one
        have hproc := XappState.procInv_run hx (uiSteps (hrun.trans hsteps))
        obtain ⟨v, hv, hkey, -⟩ := indicationMsg_eq_some hproc.wf hmsg
        obtain ⟨id, hid, rfl⟩ := hgone
        have hne : msg.reqId ≠ id.ricReqId := by
          intro heq
          have hid' := XappState.removedIds_append (uiTrace tr') hid
          rw [← uiTrace_append] at hid'
          apply (hproc.removed id hid').2
          rw [← heq, ← hkey]
          exact List.mem_map_of_mem (hproc.perm.mem_iff.1 hv)
        exact (delivers_append hne _).trans hquiet
    | move ha _ hpending =>
      refine ⟨hpending ▸ hquiet, ?_, hcalls⟩
      rintro rfl
      rcases ha with ha | ha <;> cases ha
    | @smCb msg _ hcalling hcb _ hpending =>
      rw [hpending, delivers, Option.isSome_iff_ne_none.2 hcb, Bool.true_and,
        Bool.or_eq_false_iff, decide_eq_false_iff_not] at hquiet
      refine ⟨hquiet.2, fun _ msg' hmsg' => ?_, hcalls⟩
      cases hcalling.symm.trans hmsg'
      exact hquiet.1

/-- The dispatcher can take out the first message on its way. -/
theorem exists_calling {msg : MsgDispatch} {msgs : List MsgDispatch}
    (h : s.pending = msg :: msgs) : ∃ tr u, (xappDispatch x).Steps s tr u ∧
      u.calling = some msg ∧ u.pending = msg :: msgs := by
  obtain ⟨ui, pushing, q, calling, called⟩ := s
  cases calling with
  | some m =>
    cases h
    exact ⟨[], _, .nil, rfl, rfl⟩
  | none =>
    cases q with
    | cons m q =>
      cases h
      exact ⟨_, _, System.Steps.single (a := DispatchAction.waitAndPop)
        ⟨rfl, List.cons_ne_nil _ _⟩ rfl, rfl, rfl⟩
    | nil =>
      cases pushing with
      | none => cases h
      | some m =>
        cases h
        have hsend := System.Steps.single (M := xappDispatch x)
          (s := ⟨ui, some msg, [], none, called⟩) (a := DispatchAction.sendMsgDispatcher)
          (Option.some_ne_none msg) rfl
        exact ⟨_, _, hsend.cons (a := DispatchAction.waitAndPop)
          ⟨rfl, List.cons_ne_nil _ _⟩ rfl, rfl, rfl⟩

/-- The dispatcher calls the callback of a message that it gets to. -/
theorem exists_call {msgs : List MsgDispatch} (hpending : s.pending = msgs)
    (h : delivers reqId msgs = true) : ∃ tr u, (xappDispatch x).Steps s tr u ∧ ∃ p ∈ tr,
      p.2 = .smCb ∧ ∃ msg ∈ msgs, p.1.calling = some msg ∧ msg.reqId = reqId := by
  induction msgs generalizing s with
  | nil => cases h
  | cons msg msgs ih =>
    obtain ⟨tr, u, hsteps, hcalling, hpending⟩ := exists_calling (x := x) hpending
    rw [delivers, Bool.and_eq_true, Option.isSome_iff_exists] at h
    obtain ⟨⟨cb, hcb⟩, h⟩ := h
    have hen : u.calling ≠ none := by
      rw [hcalling]
      exact Option.some_ne_none msg
    have hstep : u.step .smCb = some { u with calling := none, called := msg :: u.called } := by
      rw [step, hcalling, Option.bind_some, hcb]
      rfl
    have hcall := hsteps.cons (a := DispatchAction.smCb) hen hstep
    by_cases hid : msg.reqId = reqId
    · exact ⟨_, _, hcall, _, List.mem_cons_self, rfl, msg, List.mem_cons_self, hcalling, hid⟩
    · rw [decide_eq_false hid, Bool.false_or] at h
      have hrest : pending { u with calling := none, called := msg :: u.called } = msgs := by
        rw [pending, hcalling] at hpending
        exact List.tail_eq_of_cons_eq hpending
      obtain ⟨tr', w, hsteps', p, hp, hsmCb, m, hm, hcalling', hkey⟩ := ih hrest h
      exact ⟨_, w, hcall.trans hsteps', p, List.mem_append_left _ hp, hsmCb, m,
        List.mem_cons_of_mem _ hm, hcalling', hkey⟩

/-- The return of `rm_report_sm_sync_xapp`. -/
theorem Returns.step (hv : s.Returns tr v)
    (ht : (xappDispatch x).step s (.thread .rmActProc) = some t) :
    (xappDispatch x).enabled s (.thread .rmActProc) ∧ t.pending = s.pending ∧
      ∃ id ∈ XappState.removedIds (uiTrace ((s, .thread .rmActProc) :: tr)),
        id.ricReqId = v.id.ricReqId := by
  obtain ⟨-, r, hpc, -, hid⟩ := hv
  have he : s.Enabled (.thread .rmActProc) := ⟨⟨r, hpc⟩, rfl, nofun⟩
  refine ⟨he, ?_, r.id, ?_, congrArg RicGenId.ricReqId hid⟩
  · cases trans_of_step he ht with
    | thread _ _ _ hpending => exact hpending
    | move ha => rcases ha with ha | ha <;> cases ha
  · rw [uiTrace, XappState.removedIds_rmActProc, hpc]
    exact List.mem_cons_self

/-- After the return there is a callback for the report in some continuation exactly if the
dispatcher gets to a message of the report that is on its way at the return. -/
theorem Returns.calls_iff (hx : XappState.NoProcedures x) (hrun : (xappDispatch x).Run tr s)
    (hv : s.Returns tr v) (ht : (xappDispatch x).step s (.thread .rmActProc) = some t) :
    (∀ tr' u, (xappDispatch x).Steps t tr' u → ∀ p ∈ tr', ¬Calls v p) ↔
      delivers v.id.ricReqId s.pending = false := by
  obtain ⟨he, hpending, hgone⟩ := hv.step ht
  constructor
  · intro hnone
    by_contra hdelivers
    rw [Bool.not_eq_false] at hdelivers
    obtain ⟨tr', u, hsteps, p, hp, hsmCb, msg, hmsg, hcalling, hkey⟩ :=
      exists_call (x := x) hpending hdelivers
    refine hnone tr' u hsteps p hp ⟨hsmCb, msg, hcalling, hkey, ?_⟩
    -- the report was active at the return, so the message has its callback
    have hproc := XappState.procInv_run hx (uiSteps hrun)
    rcases msgsInv_run hx hrun msg hmsg with ⟨id, hid, heq⟩ | ⟨w, hw, hwkey, hcb⟩
    · refine absurd ?_ (hproc.removed id hid).2
      rw [heq, hkey]
      exact List.mem_map_of_mem hv.1
    · have hwv : w = v := List.inj_on_of_nodup_map hproc.liveProcs_nodup hw hv.1 (hwkey.trans hkey)
      rw [← hcb, hwv]
  · intro hquiet tr' u hsteps p hp
    rintro ⟨hsmCb, msg, hcalling, hkey, -⟩
    have hcalls := (not_delivers_steps hx (hrun.cons he ht) hgone (hpending ▸ hquiet) hsteps).2
    exact hcalls p hp hsmCb msg hcalling hkey

/-- **No callback after unsubscribe.** In a run whose returns of `rm_report_sm_sync_xapp` all leave
no message of the report that the dispatcher gets to, no callback is called after its report was
removed; and whenever a return leaves one, some continuation calls the callback. -/
theorem noLateCallback_of_quietReturns (hx : XappState.NoProcedures x)
    (hrun : (xappDispatch x).Run tr s) :
    (QuietReturns tr → NoLateCallback tr) ∧
      ∀ v t, s.Returns tr v → (xappDispatch x).step s (.thread .rmActProc) = some t →
        ((∀ tr' u, (xappDispatch x).Steps t tr' u → ∀ p ∈ tr', ¬Calls v p) ↔
          delivers v.id.ricReqId s.pending = false) := by
  refine ⟨?_, fun v t hv ht => hv.calls_iff hx hrun ht⟩
  rintro hquiet tr₁ u tr₂ rfl v hv p hp
  obtain ⟨hrun', -, t, ht, hsteps⟩ := hrun.split
  exact (hv.calls_iff hx hrun' ht).2 (hquiet tr₁ u tr₂ rfl v hv) tr₁ s hsteps p hp

end DispatchState

namespace Sample

/-- The three threads of the xApp with the id 7. -/
def dispatch : System DispatchState DispatchAction := xappDispatch xapp

theorem noProcedures_xapp : XappState.NoProcedures xapp := ⟨rfl, rfl⟩

/-- The call that removes the first report, with the timer 5, and its response. -/
def removal : List XappAction :=
  [.rmReport 1, .sendRequest, .createTimer 5, .addPending, .condWait,
    .e2Answer (.subscriptionDeleteResponse ⟨⟨1, 0, 142⟩⟩), .rmPending, .signal, .wake]

/-- The first report and its removal, up to the return. -/
def reportAndRemoval : List DispatchAction :=
  (report ++ XappAction.condWait :: (response ++ XappAction.wake :: removal)).map .thread

/-- The first report as an active procedure. -/
def reportProc : ActProcVal := ⟨.ricSubscriptionProcedureActive, ⟨1, 0, 142⟩, some 1, node⟩

/-- The state in which the call that removes the report is about to return. -/
def atReturn : DispatchState := (reportAndRemoval.foldlM DispatchState.step dispatch.init).get rfl

/-- An indication of the first report. -/
def indication : RicIndication := ⟨⟨1, 0, 142⟩, 0, none, .report, [], [], none⟩

end Sample

namespace DispatchState

/-- A report is removed without an indication. -/
theorem sched_atReturn :
    Sample.dispatch.Sched Sample.dispatch.init Sample.reportAndRemoval Sample.atReturn :=
  ⟨⟨rfl, rfl, fun _ => rfl⟩, _, rfl, ⟨⟨_, rfl⟩, rfl, fun _ => rfl⟩, _, rfl,
    ⟨⟨⟨_, rfl⟩, by decide, by decide⟩, rfl, fun _ => rfl⟩, _, rfl,
    ⟨⟨_, _, rfl⟩, rfl, fun _ => rfl⟩, _, rfl, ⟨⟨_, rfl⟩, rfl, fun _ => rfl⟩, _, rfl,
    ⟨⟨rfl, fun _ => ⟨_, List.mem_singleton_self _, rfl⟩⟩, rfl, fun _ => rfl⟩, _, rfl,
    ⟨⟨_, _, rfl⟩, rfl, fun _ => rfl⟩, _, rfl, ⟨⟨_, rfl⟩, rfl, fun _ => rfl⟩, _, rfl,
    ⟨.inl ⟨⟨_, rfl⟩, rfl⟩, rfl, fun _ => rfl⟩, _, rfl, ⟨rfl, rfl, fun _ => rfl⟩, _, rfl,
    ⟨⟨_, rfl⟩, rfl, fun _ => rfl⟩, _, rfl,
    ⟨⟨⟨_, rfl⟩, by decide, by decide⟩, rfl, fun _ => rfl⟩, _, rfl,
    ⟨⟨_, _, rfl⟩, rfl, fun _ => rfl⟩, _, rfl, ⟨⟨_, rfl⟩, rfl, fun _ => rfl⟩, _, rfl,
    ⟨⟨rfl, fun _ => ⟨_, List.mem_singleton_self _, rfl⟩⟩, rfl, fun _ => rfl⟩, _, rfl,
    ⟨⟨_, _, rfl⟩, rfl, fun _ => rfl⟩, _, rfl, ⟨⟨_, rfl⟩, rfl, fun _ => rfl⟩, _, rfl,
    ⟨.inl ⟨⟨_, rfl⟩, rfl⟩, rfl, fun _ => rfl⟩, _, rfl, rfl⟩

/-- The call returns there when the report is the only procedure. -/
theorem returns_of_procs (hrun : Sample.dispatch.Run tr s)
    (hprocs : s.ui.xapp.actProc.procs = [Sample.reportProc])
    (hpc : s.ui.uiPc = .released ⟨.rmReport, ⟨1, 0, 142⟩, 1⟩) :
    s.Returns tr Sample.reportProc := by
  have hproc := XappState.procInv_run Sample.noProcedures_xapp (uiSteps hrun)
  refine ⟨hproc.perm.mem_iff.1 ?_, _, hpc, rfl, rfl⟩
  rw [hprocs]
  exact List.mem_singleton_self _

/-- Without an indication no callback is called after the return. -/
theorem noLateCallback_of_quietReturns_one : ∃ t,
    Sample.dispatch.step Sample.atReturn (.thread .rmActProc) = some t ∧
      ∀ tr' u, Sample.dispatch.Steps t tr' u → ∀ p ∈ tr', ¬Calls Sample.reportProc p := by
  obtain ⟨tr, hrun, -⟩ := sched_atReturn.steps
  have hv := returns_of_procs hrun rfl rfl
  refine ⟨_, rfl, ?_⟩
  apply ((noLateCallback_of_quietReturns Sample.noProcedures_xapp hrun).2 _ _ hv rfl).2
  rfl

/-- An indication of the report arrives before the call that removes the report returns, and the
dispatcher takes it out of the queue afterwards. -/
theorem called_after_rmReport : ∃ tr s, Sample.dispatch.Run tr s ∧ ¬NoLateCallback tr := by
  obtain ⟨tr, hrun, -⟩ := sched_atReturn.steps
  have hind := hrun.cons (a := DispatchAction.indication Sample.indication)
    ⟨⟨rfl, nofun⟩, rfl⟩ rfl
  have hsend := hind.cons (a := DispatchAction.sendMsgDispatcher) (Option.some_ne_none _) rfl
  have hv := returns_of_procs hsend rfl rfl
  have hret := hsend.cons (a := DispatchAction.thread .rmActProc) ⟨⟨_, rfl⟩, rfl, nofun⟩ rfl
  have hpop := hret.cons (a := DispatchAction.waitAndPop) ⟨rfl, List.cons_ne_nil _ _⟩ rfl
  have hcall := hpop.cons (a := DispatchAction.smCb) (Option.some_ne_none _) rfl
  refine ⟨_, _, hcall, fun hlate => ?_⟩
  apply hlate [_, _] _ _ rfl _ hv _ List.mem_cons_self
  exact ⟨rfl, _, rfl, rfl, rfl⟩

end DispatchState

end FlexRic
