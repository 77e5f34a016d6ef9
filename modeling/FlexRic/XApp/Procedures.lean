import FlexRic.XApp.Registration

/-!
# The active procedures of a run (`xApp/act_proc.c`, `xApp/msg_handler_xapp.c`)

A call is entered into the registry with a `ric_req_id` of 0, since the registry makes the id; a
search writes it into the value that it finds. Here the procedures are what a search would answer
with, and the registry of every state of a run is compared with the calls of the run: the ids that
the responses yield, and the callbacks of the indications.
-/

namespace FlexRic

namespace ActProc

/-- The procedures, as `find_act_proc` answers with them: the key is their `ric_req_id`. -/
def procs (p : ActProc) : List ActProcVal :=
  p.reg.toList.map fun e => { e.2 with id := { e.2.id with ricReqId := e.1 } }

variable {p p' : ActProc}

/-- Active procedures have pairwise different ids. -/
theorem WF.procs_nodup (h : p.WF) : (p.procs.map fun v => v.id.ricReqId).Nodup := by
  have hkeys := h.reg.keys_nodup
  rw [procs, List.map_map]
  exact hkeys

/-- The ids are positive and below the counter. -/
theorem WF.procs_lt (h : p.WF) {v : ActProcVal} (hv : v ∈ p.procs) :
    0 < v.id.ricReqId ∧ v.id.ricReqId.toNat < p.reg.keyId := by
  obtain ⟨⟨key, val⟩, hmem, rfl⟩ := List.mem_map.1 hv
  obtain ⟨it, hit⟩ := AssocReg.mem_toList.1 hmem
  exact h.reg.key _ (List.mem_iff_getElem?.2 ⟨it, hit⟩)

/-- Nothing is lost when the 16 bits of an id are taken. -/
theorem WF.toUInt16_toUInt32_of_lt (h : p.WF) {id : UInt32} (hid : id.toNat < p.reg.keyId) :
    id.toUInt16.toUInt32 = id := by
  have hle := h.keyId
  apply UInt32.toNat_inj.1
  rw [UInt16.toNat_toUInt32, UInt32.toNat_toUInt16]
  exact Nat.mod_eq_of_lt (by omega)

/-- `add_act_proc` adds a procedure whose id is the counter. -/
theorem procs_add {type : ActProcValE} {id : RicGenId} {e2Node : GlobalE2NodeId}
    {smCb : Option SmCb} {key : UInt32} (h : p.add type id e2Node smCb = some (key, p')) :
    key = .ofNat p.reg.keyId ∧ p'.reg.keyId = p.reg.keyId + 1 ∧
      p'.procs = p.procs ++ [⟨type, { id with ricReqId := key }, smCb, e2Node⟩] := by
  obtain ⟨⟨key, reg⟩, hpush, heq⟩ := Option.map_eq_some_iff.1 h
  cases heq
  obtain ⟨hkey, hlist, hkeyId⟩ := AssocReg.toList_pushBack hpush
  refine ⟨hkey, hkeyId, ?_⟩
  rw [procs, hlist, List.map_append]
  rfl

/-- `find_act_proc` finds the procedure with the id, if there is one, and changes no procedure. -/
theorem WF.find_spec (h : p.WF) {ricReqId : UInt16} {val : Option ActProcVal}
    (hfind : p.find ricReqId = some (val, p')) :
    p'.procs = p.procs ∧ p'.reg.keyId = p.reg.keyId ∧ (val = none → p' = p) ∧
      val = p.procs.find? fun v => v.id.ricReqId = ricReqId.toUInt32 := by
  obtain ⟨it, hit, hfind⟩ := Option.bind_eq_some_iff.1 hfind
  cases it with
  | none =>
    cases hfind
    refine ⟨rfl, rfl, fun _ => rfl, (List.find?_eq_none.2 fun v hv hkey => ?_).symm⟩
    -- a procedure with the key would have been found
    obtain ⟨⟨key, val⟩, hmem, rfl⟩ := List.mem_map.1 hv
    obtain ⟨i, hi⟩ := AssocReg.mem_toList.1 hmem
    have hkey' : key = ricReqId.toUInt32 := of_decide_eq_true hkey
    subst hkey'
    rw [h.reg.findReg_of_mem hi] at hit
    cases hit
  | some it =>
    obtain ⟨v, hbucket⟩ := AssocReg.findReg_eq_some hit
    simp only [AssocReg.value_eq_some hbucket, Option.map_some] at hfind
    cases hfind
    obtain ⟨-, before, after, hlist, hlist'⟩ :=
      h.reg.setValue hbucket { v with id := { v.id with ricReqId := ricReqId.toUInt32 } }
    refine ⟨?_, rfl, nofun, ?_⟩
    · rw [procs, hlist', procs, hlist, List.map_append, List.map_append]
      rfl
    · have hmem : { v with id := { v.id with ricReqId := ricReqId.toUInt32 } } ∈ p.procs :=
        List.mem_map.2 ⟨_, AssocReg.mem_toList.2 ⟨it, hbucket⟩, rfl⟩
      exact (find_key_eq_some (fun v : ActProcVal => v.id.ricReqId) h.procs_nodup hmem).symm

/-- `find_act_proc` ends for every id that is not 0. -/
theorem WF.find_ne_none (h : p.WF) {ricReqId : UInt16} (hpos : 0 < ricReqId.toUInt32) :
    ∃ val p', p.find ricReqId = some (val, p') := by
  obtain ⟨it, hit⟩ := Option.ne_none_iff_exists'.1 (h.reg.findReg_ne_none hpos)
  rw [ActProc.find, hit, Option.bind_some]
  cases it with
  | none => exact ⟨_, _, rfl⟩
  | some it =>
    obtain ⟨v, hbucket⟩ := AssocReg.findReg_eq_some hit
    simp only [AssocReg.value_eq_some hbucket, Option.map_some]
    exact ⟨_, _, rfl⟩

/-- `rm_act_proc` removes the procedure with the id, and no other one. -/
theorem WF.rm_spec (h : p.WF) {ricReqId : UInt16} (hrm : p.rm ricReqId = some p') :
    p'.reg.keyId = p.reg.keyId ∧
      p'.procs.Perm (p.procs.filter fun v => v.id.ricReqId ≠ ricReqId.toUInt32) := by
  obtain ⟨it, hit, hrm⟩ := Option.bind_eq_some_iff.1 hrm
  obtain ⟨i, rfl, rfl⟩ := Option.map_eq_some_iff.1 hrm
  obtain ⟨v, hbucket⟩ := AssocReg.findReg_eq_some hit
  refine ⟨AssocReg.keyId_erase, ?_⟩
  have hperm := (h.reg.erase hbucket).2.map fun e : UInt32 × ActProcVal =>
    { e.2 with id := { e.2.id with ricReqId := e.1 } }
  have hmem := hperm.mem_iff.2 List.mem_cons_self
  have hfilter := filter_key_perm (fun v : ActProcVal => v.id.ricReqId) h.procs_nodup hmem
  exact List.Perm.cons_inv (hperm.symm.trans hfilter)

end ActProc

/-! ## What the functions do to the procedures -/

namespace E42Xapp

variable {x y : E42Xapp} {id : RicGenId}

/-- `y` has the procedures of `x`, its queue and its plugins. -/
structure SameProcs (x y : E42Xapp) : Prop where
  wf : y.actProc.WF
  procs : y.actProc.procs = x.actProc.procs
  keyId : y.actProc.reg.keyId = x.actProc.reg.keyId
  msgDisp : y.msgDisp = x.msgDisp
  pluginRic : y.pluginRic = x.pluginRic

/-- So it is when the registry, the queue and the plugins are the same. -/
theorem sameProcs_of_eq (hwf : x.actProc.WF) (hactProc : y.actProc = x.actProc)
    (hmsgDisp : y.msgDisp = x.msgDisp) (hpluginRic : y.pluginRic = x.pluginRic) :
    x.SameProcs y :=
  ⟨hactProc ▸ hwf, by rw [hactProc], by rw [hactProc], hmsgDisp, hpluginRic⟩

/-- `y` is `x` with one procedure more, whose id is that of the counter. -/
def AddsProc (x y : E42Xapp) (v : ActProcVal) : Prop :=
  ∃ p, y = { x with actProc := p } ∧ p.WF ∧ p.procs = x.actProc.procs ++ [v] ∧
    p.reg.keyId = x.actProc.reg.keyId + 1 ∧ v.id.ricReqId.toNat = x.actProc.reg.keyId

theorem generateRicGenId_spec {type : ActProcValE} {ranFuncId : UInt16} {e2Node : GlobalE2NodeId}
    {cb : Option SmCb} (hwf : x.actProc.WF)
    (h : x.generateRicGenId type ranFuncId e2Node cb = some (id, y)) :
    x.AddsProc y ⟨type, id, cb, e2Node⟩ := by
  obtain ⟨-, h⟩ := Option.ite_none_right_eq_some.1 h
  obtain ⟨⟨key, p⟩, hadd, h⟩ := Option.bind_eq_some_iff.1 h
  obtain ⟨hkey, heq⟩ := Option.ite_none_right_eq_some.1 h
  cases heq
  obtain ⟨hid, hkeyId, hprocs⟩ := ActProc.procs_add hadd
  refine ⟨p, rfl, (hwf.add hadd hkey).1, hprocs, hkeyId, ?_⟩
  have hle := hwf.keyId
  rw [hid]
  exact UInt32.toNat_ofNat_of_lt (by rw [UInt32.size]; omega)

theorem reportSmSyncXapp_spec {e2Node : GlobalE2NodeId} {ranFuncId : UInt16} {i : InterXapp}
    {cb : SmCb} (hwf : x.actProc.WF)
    (h : x.reportSmSyncXapp e2Node ranFuncId i cb = some (id, y)) :
    x.AddsProc y ⟨.ricSubscriptionProcedureActive, id, some cb, e2Node⟩ := by
  obtain ⟨⟨ricId, y⟩, hgen, h⟩ := Option.bind_eq_some_iff.1 h
  obtain ⟨-, h⟩ := Option.ite_none_right_eq_some.1 h
  obtain ⟨sm, -, heq⟩ := Option.map_eq_some_iff.1 h
  cases heq
  exact generateRicGenId_spec hwf hgen

theorem controlSmSyncXapp_spec {e2Node : GlobalE2NodeId} {ranFuncId : UInt16} (hwf : x.actProc.WF)
    (h : x.controlSmSyncXapp e2Node ranFuncId = some (id, y)) :
    x.AddsProc y ⟨.ricControlProcedureActive, id, none, e2Node⟩ := by
  obtain ⟨⟨ricId, y⟩, hgen, h⟩ := Option.bind_eq_some_iff.1 h
  obtain ⟨sm, -, heq⟩ := Option.map_eq_some_iff.1 h
  cases heq
  exact generateRicGenId_spec hwf hgen

/-- A search keeps the procedures. -/
theorem sameProcs_of_find (hwf : x.actProc.WF) {ricReqId : UInt16} {val : Option ActProcVal}
    {p : ActProc} (hfind : x.actProc.find ricReqId = some (val, p)) :
    x.SameProcs { x with actProc := p } := by
  obtain ⟨hprocs, hkeyId, -⟩ := hwf.find_spec hfind
  exact ⟨(hwf.find hfind).1, hprocs, hkeyId, rfl, rfl⟩

/-- The request to remove a report has the id of an active procedure. -/
theorem rmReportSmSyncXapp_spec {handle : UInt16} (hwf : x.actProc.WF)
    (h : x.rmReportSmSyncXapp handle = some (id, y)) :
    x.SameProcs y ∧ ∃ v ∈ x.actProc.procs, v.id = id := by
  obtain ⟨⟨val, p⟩, hfind, h⟩ := Option.bind_eq_some_iff.1 h
  obtain ⟨v, rfl, heq⟩ := Option.map_eq_some_iff.1 h
  cases heq
  obtain ⟨-, -, -, hval⟩ := hwf.find_spec hfind
  exact ⟨sameProcs_of_find hwf hfind, v, List.mem_of_find?_eq_some hval.symm, rfl⟩

theorem eventOfProcedure_spec {kind : PendingEvent} {ev : PendingEventXapp} (hwf : x.actProc.WF)
    (h : x.eventOfProcedure kind id = some (ev, y)) : x.SameProcs y := by
  obtain ⟨⟨val, p⟩, hfind, h⟩ := Option.bind_eq_some_iff.1 h
  obtain ⟨v, rfl, heq⟩ := Option.map_eq_some_iff.1 h
  cases heq
  exact sameProcs_of_find hwf hfind

/-- The handler of a response yields the id of an active procedure, if it is given it. -/
theorem eventOfProcedure_of_mem {v : ActProcVal} (hwf : x.actProc.WF) (hv : v ∈ x.actProc.procs)
    (kind : PendingEvent) :
    ∃ y, x.eventOfProcedure kind v.id = some (⟨kind, v.id, 0⟩, y) ∧ x.SameProcs y := by
  have hkey := hwf.toUInt16_toUInt32_of_lt (hwf.procs_lt hv).2
  have hpos : 0 < v.id.ricReqId.toUInt16.toUInt32 := by
    rw [hkey]
    exact (hwf.procs_lt hv).1
  obtain ⟨val, p, hfind⟩ := hwf.find_ne_none hpos
  obtain ⟨-, -, -, hval⟩ := hwf.find_spec hfind
  rw [hkey, find_key_eq_some (fun v : ActProcVal => v.id.ricReqId) hwf.procs_nodup hv] at hval
  subst hval
  refine ⟨{ x with actProc := p }, ?_, sameProcs_of_find hwf hfind⟩
  rw [eventOfProcedure, hfind]
  rfl

/-- An id is generated as long as the counter has 16 bits. -/
theorem generateRicGenId_ne_none (hkeyId : x.actProc.reg.keyId < 65536) {ranFuncId : UInt16}
    (hfunc : validRanFuncId ranFuncId = true) (type : ActProcValE) (e2Node : GlobalE2NodeId)
    (cb : Option SmCb) : ∃ y, x.generateRicGenId type ranFuncId e2Node cb =
      some (⟨.ofNat x.actProc.reg.keyId, 0, ranFuncId⟩, y) := by
  have hnat : (UInt32.ofNat x.actProc.reg.keyId).toNat = x.actProc.reg.keyId :=
    UInt32.toNat_ofNat_of_lt (Nat.lt_trans hkeyId (by decide))
  have hlt : UInt32.ofNat x.actProc.reg.keyId < 65536 := by
    rw [UInt32.lt_iff_toNat_lt, hnat]
    exact hkeyId
  obtain ⟨reg, hpush⟩ := AssocReg.exists_pushBack (Nat.lt_trans hkeyId (by decide))
    (⟨type, ⟨0, 0, ranFuncId⟩, cb, e2Node⟩ : ActProcVal)
  rw [generateRicGenId, if_pos hfunc, ActProc.add, hpush]
  simp only [Option.map_some, Option.bind_some, if_pos hlt]
  exact ⟨_, rfl⟩

/-- What the handler of an indication puts on the queue of the dispatcher: the indication with the
callback of the procedure that has its `ric_req_id`, or nothing. -/
def toDispatch (plugin : List SmRic) (procs : List ActProcVal) (ind : RicIndication) :
    List (Option SmCb × SmAgIfRd) :=
  match smPluginRic plugin ind.ricId.ranFuncId,
    procs.find? fun v => v.id.ricReqId = ind.ricId.ricReqId.toUInt16.toUInt32 with
  | some sm, some v => [(v.smCb, sm.onIndication ind)]
  | _, _ => []

theorem e2apHandleIndicationXapp_spec {ind : RicIndication} (hwf : x.actProc.WF)
    (h : x.e2apHandleIndicationXapp ind = some y) : ∃ p,
      y = { x with
        actProc := p, msgDisp := toDispatch x.pluginRic x.actProc.procs ind ++ x.msgDisp } ∧
      x.SameProcs { x with actProc := p } := by
  obtain ⟨sm, hsm, h⟩ := Option.bind_eq_some_iff.1 h
  obtain ⟨-, h⟩ := Option.ite_none_right_eq_some.1 h
  obtain ⟨⟨val, p⟩, hfind, rfl⟩ := Option.map_eq_some_iff.1 h
  obtain ⟨-, -, -, hval⟩ := hwf.find_spec hfind
  refine ⟨p, ?_, sameProcs_of_find hwf hfind⟩
  rw [toDispatch, hsm, ← hval]
  cases val <;> rfl

/-- An indication of an active procedure is put on the queue with the callback of the procedure. -/
theorem e2apHandleIndicationXapp_of_mem {ind : RicIndication} (hwf : x.actProc.WF) {sm : SmRic}
    (hsm : smPluginRic x.pluginRic ind.ricId.ranFuncId = some sm)
    (htype : sm.onIndication ind ≠ .tcStatsV0) {v : ActProcVal} (hv : v ∈ x.actProc.procs)
    (hid : v.id.ricReqId = ind.ricId.ricReqId) :
    ∃ y, x.e2apHandleIndicationXapp ind = some y ∧
      y.msgDisp = (v.smCb, sm.onIndication ind) :: x.msgDisp ∧
      y.actProc.procs = x.actProc.procs := by
  have hlt := hwf.procs_lt hv
  have hkey := hwf.toUInt16_toUInt32_of_lt hlt.2
  rw [hid] at hlt hkey
  have hpos : 0 < ind.ricId.ricReqId.toUInt16.toUInt32 := hkey.symm ▸ hlt.1
  obtain ⟨val, p, hfind⟩ := hwf.find_ne_none hpos
  obtain ⟨hprocs, -, -, hval⟩ := hwf.find_spec hfind
  rw [hkey, ← hid,
    find_key_eq_some (fun v : ActProcVal => v.id.ricReqId) hwf.procs_nodup hv] at hval
  subst hval
  refine ⟨{ x with actProc := p, msgDisp := (v.smCb, sm.onIndication ind) :: x.msgDisp }, ?_, rfl,
    hprocs⟩
  simp only [e2apHandleIndicationXapp, hsm, Option.bind_some, if_pos htype, hfind, Option.map_some]

/-- An indication of no active procedure changes nothing at all. -/
theorem e2apHandleIndicationXapp_of_not_mem {ind : RicIndication} (hwf : x.actProc.WF) {sm : SmRic}
    (hsm : smPluginRic x.pluginRic ind.ricId.ranFuncId = some sm)
    (htype : sm.onIndication ind ≠ .tcStatsV0)
    (hpos : 0 < ind.ricId.ricReqId.toUInt16.toUInt32)
    (hnot : ind.ricId.ricReqId.toUInt16.toUInt32 ∉ x.actProc.procs.map fun v => v.id.ricReqId) :
    x.e2apHandleIndicationXapp ind = some x := by
  obtain ⟨val, p, hfind⟩ := hwf.find_ne_none hpos
  obtain ⟨-, -, hsame, hval⟩ := hwf.find_spec hfind
  have hnone : val = none := by
    rw [hval]
    apply List.find?_eq_none.2
    intro v hv hkey
    exact hnot (List.mem_map.2 ⟨v, hv, of_decide_eq_true hkey⟩)
  have hp := hsame hnone
  simp only [e2apHandleIndicationXapp, hsm, Option.bind_some, if_pos htype, hfind, hnone, hp,
    Option.map_some]

end E42Xapp

/-! ## The calls of a run -/

namespace XappState

/-- The procedures that are active after a trace, by its calls: a report and a control enter the
procedure that they were called for, with the id that they send, and `rm_act_proc` removes that of
the call which ends. -/
def liveProcs : List (XappState × XappAction) → List ActProcVal
  | [] => []
  | (s, .report id ranFuncId i cb) :: tr =>
    match s.xapp.reportSmSyncXapp id ranFuncId i cb with
    | some (ricId, _) => ⟨.ricSubscriptionProcedureActive, ricId, some cb, id⟩ :: liveProcs tr
    | none => liveProcs tr
  | (s, .control id ranFuncId) :: tr =>
    match s.xapp.controlSmSyncXapp id ranFuncId with
    | some (ricId, _) => ⟨.ricControlProcedureActive, ricId, none, id⟩ :: liveProcs tr
    | none => liveProcs tr
  | (s, .rmActProc) :: tr =>
    match s.uiPc with
    | .released r => (liveProcs tr).filter fun v => v.id.ricReqId ≠ r.id.ricReqId
    | _ => liveProcs tr
  | _ :: tr => liveProcs tr

/-- The procedures that were removed. -/
def removedIds : List (XappState × XappAction) → List RicGenId
  | [] => []
  | (s, .rmActProc) :: tr =>
    match s.uiPc with
    | .released r => r.id :: removedIds tr
    | _ => removedIds tr
  | _ :: tr => removedIds tr

section

variable {s : XappState} {tr : List (XappState × XappAction)}

theorem liveProcs_report (id : GlobalE2NodeId) (ranFuncId : UInt16) (i : InterXapp) (cb : SmCb) :
    liveProcs ((s, .report id ranFuncId i cb) :: tr) =
      match s.xapp.reportSmSyncXapp id ranFuncId i cb with
      | some (ricId, _) => ⟨.ricSubscriptionProcedureActive, ricId, some cb, id⟩ :: liveProcs tr
      | none => liveProcs tr :=
  rfl

theorem liveProcs_control (id : GlobalE2NodeId) (ranFuncId : UInt16) :
    liveProcs ((s, .control id ranFuncId) :: tr) =
      match s.xapp.controlSmSyncXapp id ranFuncId with
      | some (ricId, _) => ⟨.ricControlProcedureActive, ricId, none, id⟩ :: liveProcs tr
      | none => liveProcs tr :=
  rfl

theorem liveProcs_rmActProc : liveProcs ((s, .rmActProc) :: tr) =
    match s.uiPc with
    | .released r => (liveProcs tr).filter fun v => v.id.ricReqId ≠ r.id.ricReqId
    | _ => liveProcs tr :=
  rfl

theorem removedIds_rmActProc : removedIds ((s, .rmActProc) :: tr) =
    match s.uiPc with
    | .released r => r.id :: removedIds tr
    | _ => removedIds tr :=
  rfl

end

/-- What the indications of a trace have put on the queue of the dispatcher, the latest one
first. -/
def dispatched (plugin : List SmRic) :
    List (XappState × XappAction) → List (Option SmCb × SmAgIfRd)
  | [] => []
  | (_, .e2Answer (.indication ind)) :: tr =>
    E42Xapp.toDispatch plugin (liveProcs tr) ind ++ dispatched plugin tr
  | _ :: tr => dispatched plugin tr

/-- What was removed stays so. -/
theorem removedIds_mono (p : XappState × XappAction) {tr : List (XappState × XappAction)}
    {id : RicGenId} (h : id ∈ removedIds tr) : id ∈ removedIds (p :: tr) := by
  obtain ⟨s, a⟩ := p
  cases a with
  | rmActProc =>
    rw [removedIds_rmActProc]
    split
    · exact List.mem_cons_of_mem _ h
    · exact h
  | _ => exact h

theorem removedIds_append (tr' : List (XappState × XappAction))
    {tr : List (XappState × XappAction)} {id : RicGenId} (h : id ∈ removedIds tr) :
    id ∈ removedIds (tr' ++ tr) := by
  induction tr' with
  | nil => exact h
  | cons p tr' ih => exact removedIds_mono p ih

/-- An active procedure stays active until it is removed. -/
theorem liveProcs_step (p : XappState × XappAction) {tr : List (XappState × XappAction)}
    {v : ActProcVal} (h : v ∈ liveProcs tr) :
    v ∈ liveProcs (p :: tr) ∨ ∃ id ∈ removedIds (p :: tr), id.ricReqId = v.id.ricReqId := by
  obtain ⟨s, a⟩ := p
  cases a with
  | report id ranFuncId i cb =>
    rw [liveProcs_report]
    split
    · exact .inl (List.mem_cons_of_mem _ h)
    · exact .inl h
  | control id ranFuncId =>
    rw [liveProcs_control]
    split
    · exact .inl (List.mem_cons_of_mem _ h)
    · exact .inl h
  | rmActProc =>
    rw [liveProcs_rmActProc, removedIds_rmActProc]
    split
    · next r _ =>
      by_cases hkey : v.id.ricReqId = r.id.ricReqId
      · exact .inr ⟨r.id, List.mem_cons_self, hkey.symm⟩
      · exact .inl (List.mem_filter.2 ⟨h, decide_eq_true hkey⟩)
    · exact .inl h
  | _ => exact .inl h

/-- What holds of the registry and of the queue after a trace. -/
structure ProcInv (plugin : List SmRic) (tr : List (XappState × XappAction)) (s : XappState) :
    Prop where
  /-- the registry is well formed, and each call has taken at most one id -/
  wf : s.xapp.actProc.WF
  keyId : s.xapp.actProc.reg.keyId ≤ s.calls + 1
  /-- it has the procedures of the calls -/
  perm : s.xapp.actProc.procs.Perm (liveProcs tr)
  /-- the procedure of the present call is among them -/
  current : ∀ r ∈ s.uiPc.current, ∃ v ∈ liveProcs tr, v.id = r.id
  /-- the ids that were removed are not given again -/
  removed : ∀ id ∈ removedIds tr,
    (0 < id.ricReqId ∧ id.ricReqId.toNat < s.xapp.actProc.reg.keyId) ∧
      id.ricReqId ∉ (liveProcs tr).map fun v => v.id.ricReqId
  /-- the queue has what was put on it -/
  queue : s.xapp.msgDisp = dispatched plugin tr
  plugin : s.xapp.pluginRic = plugin

/-- After its wait a call is done or still to remove its procedure. -/
theorem current_afterWait {r r' : UiRequest} (h : r' ∈ (afterWait r).current) : r' ∈ [r] := by
  obtain ⟨call, id, serial⟩ := r
  cases call with
  | report => cases h
  | rmReport => exact h
  | control => exact h

/-- Handling a message leaves the UI thread where it is. -/
theorem handle_eq_some {s t : XappState} {ans : E2Answer} (h : s.handle ans = some t) :
    ∃ out x, s.xapp.e2apMsgHandleXapp ans = some (out, x) ∧ t.xapp = x ∧ t.uiPc = s.uiPc ∧
      t.calls = s.calls := by
  obtain ⟨⟨out, x⟩, hhandle, rfl⟩ := Option.map_eq_some_iff.1 h
  refine ⟨out, x, hhandle, ?_⟩
  dsimp only
  split <;> exact ⟨rfl, rfl, rfl⟩

namespace ProcInv

variable {plugin : List SmRic} {tr : List (XappState × XappAction)} {s t : XappState}
  {a : XappAction}

theorem liveProcs_nodup (h : ProcInv plugin tr s) :
    ((liveProcs tr).map fun v => v.id.ricReqId).Nodup :=
  (h.perm.map _).nodup_iff.1 h.wf.procs_nodup

/-- The steps that keep the procedures, the queue and the call. -/
theorem keep (h : ProcInv plugin tr s) (hx : s.xapp.SameProcs t.xapp) (hcalls : s.calls ≤ t.calls)
    (hcurrent : ∀ r ∈ t.uiPc.current, r ∈ s.uiPc.current)
    (hlive : liveProcs ((s, a) :: tr) = liveProcs tr)
    (hremoved : removedIds ((s, a) :: tr) = removedIds tr)
    (hdispatched : dispatched plugin ((s, a) :: tr) = dispatched plugin tr) :
    ProcInv plugin ((s, a) :: tr) t where
  wf := hx.wf
  keyId := by
    rw [hx.keyId]
    exact Nat.le_trans h.keyId (Nat.succ_le_succ hcalls)
  perm := by
    rw [hx.procs, hlive]
    exact h.perm
  current r hr := by
    rw [hlive]
    exact h.current r (hcurrent r hr)
  removed := by
    rw [hremoved, hlive, hx.keyId]
    exact h.removed
  queue := by
    rw [hx.msgDisp, hdispatched]
    exact h.queue
  plugin := hx.pluginRic.trans h.plugin

/-- A call that enters its procedure. -/
theorem add (h : ProcInv plugin tr s) {call : UiCall} {x : E42Xapp} {v : ActProcVal}
    (hx : s.xapp.AddsProc x v) (hlive : liveProcs ((s, a) :: tr) = v :: liveProcs tr)
    (hremoved : removedIds ((s, a) :: tr) = removedIds tr)
    (hdispatched : dispatched plugin ((s, a) :: tr) = dispatched plugin tr) :
    ProcInv plugin ((s, a) :: tr)
      { s with xapp := x, uiPc := .start ⟨call, v.id, s.calls⟩, calls := s.calls + 1 } := by
  obtain ⟨p, rfl, hwf, hprocs, hkeyId, hid⟩ := hx
  have hle := h.keyId
  refine ⟨hwf, ?_, ?_, ?_, ?_, hdispatched ▸ h.queue, h.plugin⟩
  · rw [hkeyId]
    exact Nat.succ_le_succ hle
  · rw [hprocs, hlive]
    exact (List.perm_append_singleton _ _).trans (h.perm.cons v)
  · intro r hr
    cases List.mem_singleton.1 hr
    rw [hlive]
    exact ⟨v, List.mem_cons_self, rfl⟩
  · rw [hremoved, hlive, hkeyId]
    intro id hmem
    obtain ⟨⟨hpos, hlt⟩, hnot⟩ := h.removed id hmem
    refine ⟨⟨hpos, Nat.lt_succ_of_lt hlt⟩, ?_⟩
    rw [List.map_cons, List.mem_cons, not_or]
    refine ⟨fun heq => ?_, hnot⟩
    rw [heq, hid] at hlt
    exact Nat.lt_irrefl _ hlt

/-- The end of a call that removes its procedure. -/
theorem remove (h : ProcInv plugin tr s) {r : UiRequest} {p : ActProc} (hpc : s.uiPc = .released r)
    (hrm : s.xapp.actProc.rm r.id.ricReqId.toUInt16 = some p) :
    ProcInv plugin ((s, .rmActProc) :: tr)
      { s with xapp := { s.xapp with actProc := p }, uiPc := .idle } := by
  obtain ⟨hkeyId, hperm⟩ := h.wf.rm_spec hrm
  obtain ⟨v, hv, hvid⟩ := h.current r (by rw [hpc]; exact List.mem_singleton_self r)
  have hmem := h.perm.mem_iff.2 hv
  have hlt := h.wf.procs_lt hmem
  rw [hvid] at hlt
  rw [h.wf.toUInt16_toUInt32_of_lt hlt.2] at hperm
  have hlive : liveProcs ((s, .rmActProc) :: tr) =
      (liveProcs tr).filter fun v => v.id.ricReqId ≠ r.id.ricReqId := by
    rw [liveProcs_rmActProc, hpc]
  have hremoved : removedIds ((s, .rmActProc) :: tr) = r.id :: removedIds tr := by
    rw [removedIds_rmActProc, hpc]
  refine ⟨h.wf.rm hrm, hkeyId.trans_le h.keyId, ?_, nofun, ?_, h.queue, h.plugin⟩
  · rw [hlive]
    exact hperm.trans (h.perm.filter _)
  · rw [hlive, hremoved, hkeyId]
    refine List.forall_mem_cons.2 ⟨⟨hlt, by simp⟩, fun id hid => ?_⟩
    obtain ⟨hlt, hnot⟩ := h.removed id hid
    exact ⟨hlt, fun hmem => hnot ((List.filter_sublist.map _).subset hmem)⟩

/-- An indication puts at most itself on the queue. -/
theorem indication (h : ProcInv plugin tr s) {ind : RicIndication} {x : E42Xapp}
    (hind : s.xapp.e2apHandleIndicationXapp ind = some x) :
    ProcInv plugin ((s, .e2Answer (.indication ind)) :: tr) { s with xapp := x } := by
  obtain ⟨p, rfl, hx⟩ := E42Xapp.e2apHandleIndicationXapp_spec h.wf hind
  have hqueue : E42Xapp.toDispatch s.xapp.pluginRic s.xapp.actProc.procs ind ++ s.xapp.msgDisp =
      dispatched plugin ((s, .e2Answer (.indication ind)) :: tr) := by
    rw [dispatched, h.queue, h.plugin, E42Xapp.toDispatch, E42Xapp.toDispatch,
      find_key_perm (fun v : ActProcVal => v.id.ricReqId) h.wf.procs_nodup h.perm]
  exact ⟨hx.wf, hx.keyId.trans_le h.keyId, hx.procs ▸ h.perm, h.current,
    fun id hid => hx.keyId ▸ h.removed id hid, hqueue, h.plugin⟩

theorem step (h : ProcInv plugin tr s) (he : s.Enabled a) (hstep : s.step a = some t) :
    ProcInv plugin ((s, a) :: tr) t := by
  have hsame {x : E42Xapp} (hactProc : x.actProc = s.xapp.actProc)
      (hmsgDisp : x.msgDisp = s.xapp.msgDisp) (hpluginRic : x.pluginRic = s.xapp.pluginRic) :
      s.xapp.SameProcs x := E42Xapp.sameProcs_of_eq h.wf hactProc hmsgDisp hpluginRic
  cases a with
  | report id ranFuncId i cb =>
    obtain ⟨⟨ricId, x⟩, hreq, rfl⟩ := Option.map_eq_some_iff.1 hstep
    exact h.add (E42Xapp.reportSmSyncXapp_spec h.wf hreq) (by rw [liveProcs_report, hreq]) rfl rfl
  | control id ranFuncId =>
    obtain ⟨⟨ricId, x⟩, hreq, rfl⟩ := Option.map_eq_some_iff.1 hstep
    exact h.add (E42Xapp.controlSmSyncXapp_spec h.wf hreq) (by rw [liveProcs_control, hreq]) rfl rfl
  | rmReport handle =>
    obtain ⟨⟨ricId, x⟩, hreq, rfl⟩ := Option.map_eq_some_iff.1 hstep
    obtain ⟨hx, v, hv, rfl⟩ := E42Xapp.rmReportSmSyncXapp_spec h.wf hreq
    have hkeep : ProcInv plugin ((s, .rmReport handle) :: tr)
        { s with xapp := x, uiPc := .idle, calls := s.calls + 1 } :=
      h.keep hx (Nat.le_succ _) nofun rfl rfl rfl
    refine { hkeep with current := fun r hr => ?_ }
    cases List.mem_singleton.1 hr
    exact ⟨v, h.perm.mem_iff.1 hv, rfl⟩
  | rmActProc =>
    cases trans_of_step he hstep with
    | begin hpc hreq => cases hreq
    | rmActProc hpc hrm => exact h.remove hpc hrm
  | e2Answer ans =>
    obtain ⟨out, x, hhandle, hx, hui, hcalls⟩ := handle_eq_some hstep
    cases ans with
    | indication ind =>
      obtain ⟨y, hind, heq⟩ := Option.map_eq_some_iff.1 hhandle
      cases heq
      have hinv := h.indication hind
      exact ⟨hx ▸ hinv.wf, hx ▸ hcalls ▸ hinv.keyId, hx ▸ hinv.perm, hui ▸ hinv.current,
        hx ▸ hinv.removed, hx ▸ hinv.queue, hx ▸ hinv.plugin⟩
    | _ =>
      rcases E42Xapp.e2apMsgHandleXapp_eq_some hhandle with
        ⟨kind, ev, -, -, hev⟩ | ⟨ind, hkind, -⟩
      · exact h.keep (hx ▸ E42Xapp.eventOfProcedure_spec h.wf hev) (Nat.le_of_eq hcalls.symm)
          (fun r hr => hui ▸ hr) rfl rfl rfl
      · cases hkind
  | sendRequest =>
    cases trans_of_step he hstep with
    | begin hpc hreq => cases hreq
    | sendRequest hpc =>
      exact h.keep (hsame rfl rfl rfl) (Nat.le_refl _) (fun r hr => hpc ▸ hr) rfl rfl rfl
  | createTimer fd =>
    cases trans_of_step he hstep with
    | begin hpc hreq => cases hreq
    | createTimer hpc =>
      exact h.keep (hsame rfl rfl rfl) (Nat.le_refl _) (fun r hr => hpc ▸ hr) rfl rfl rfl
  | addPending =>
    cases trans_of_step he hstep with
    | begin hpc hreq => cases hreq
    | addPending hpc hadd =>
      exact h.keep (hsame rfl rfl rfl) (Nat.le_refl _) (fun r hr => hpc ▸ hr) rfl rfl rfl
  | condWait =>
    cases trans_of_step he hstep with
    | begin hpc hreq => cases hreq
    | condWait hpc =>
      exact h.keep (hsame rfl rfl rfl) (Nat.le_refl _) (fun r hr => hpc ▸ hr) rfl rfl rfl
  | deadline =>
    cases trans_of_step he hstep with
    | begin hpc hreq => cases hreq
    | deadline hpc =>
      exact h.keep (hsame rfl rfl rfl) (Nat.le_refl _) (fun r hr => hpc ▸ hr) rfl rfl rfl
  | wake =>
    cases trans_of_step he hstep with
    | begin hpc hreq => cases hreq
    | wake hpc hflag =>
      exact h.keep (hsame rfl rfl rfl) (Nat.le_refl _) (fun r hr => hpc ▸ current_afterWait hr) rfl
        rfl rfl
  | rmPending =>
    cases trans_of_step he hstep with
    | begin hpc hreq => cases hreq
    | rmPending hpc hrm =>
      obtain ⟨fd, pending, -, -, rfl⟩ := E42Xapp.rmPendingEventXapp_eq_some hrm
      exact h.keep (hsame rfl rfl rfl) (Nat.le_refl _) (fun _ => id) rfl rfl rfl
  | signal =>
    cases trans_of_step he hstep with
    | begin hpc hreq => cases hreq
    | signal hpc => exact h.keep (hsame rfl rfl rfl) (Nat.le_refl _) (fun _ => id) rfl rfl rfl
  | timerExpiry fd =>
    cases trans_of_step he hstep with
    | begin hpc hreq => cases hreq
    | timerExpiry hpc => exact h.keep (hsame rfl rfl rfl) (Nat.le_refl _) (fun _ => id) rfl rfl rfl

end ProcInv

/-- An xApp that was just connected: it has no procedures and nothing to dispatch. -/
structure NoProcedures (x : E42Xapp) : Prop where
  actProc : x.actProc = .init
  msgDisp : x.msgDisp = []

variable {x : E42Xapp} {tr : List (XappState × XappAction)} {s t : XappState}

theorem procInv_init (hx : NoProcedures x) : ProcInv x.pluginRic [] (init x) where
  wf := hx.actProc ▸ ActProc.wf_init
  keyId := Nat.le_of_eq (congrArg (fun p : ActProc => p.reg.keyId) hx.actProc)
  perm := .of_eq (congrArg ActProc.procs hx.actProc)
  current := nofun
  removed := nofun
  queue := hx.msgDisp
  plugin := rfl

theorem procInv_run (hx : NoProcedures x) (h : (xappThreads x).Run tr s) :
    ProcInv x.pluginRic tr s := by
  induction h with
  | nil => exact procInv_init hx
  | cons _ he ht ih => exact ih.step he ht

/-- The response to a request that was sent finds its procedure and yields the id of the
request. -/
theorem ProcInv.response {plugin : List SmRic} (h : ProcInv plugin tr s) (hcall : s.CallInv)
    {r : UiRequest} (hr : r ∈ s.outstanding) {ans : E2Answer} (hans : r.answeredBy ans = true)
    (hack : ∀ ack, ans = .controlAcknowledge ack → ack.status = .success) :
    ∃ y, s.xapp.e2apMsgHandleXapp ans = some (some ⟨r.call.event, r.id, 0⟩, y) ∧
      s.xapp.SameProcs y := by
  obtain ⟨v, hv, hid⟩ := h.current r (current_of_awaiting (hcall.outstanding r hr))
  obtain ⟨y, hev, hy⟩ := E42Xapp.eventOfProcedure_of_mem h.wf (h.perm.mem_iff.2 hv) r.call.event
  rw [UiRequest.answeredBy, Bool.and_eq_true, decide_eq_true_iff, decide_eq_true_iff] at hans
  obtain ⟨hkind, hans⟩ := hans
  rw [hid, ← hans] at hev
  refine ⟨y, ?_, hy⟩
  rw [← hans]
  cases ans with
  | subscriptionResponse m =>
    rw [← Option.some.inj hkind] at hev ⊢
    exact congrArg (Option.map _) hev
  | subscriptionDeleteResponse m =>
    rw [← Option.some.inj hkind] at hev ⊢
    exact congrArg (Option.map _) hev
  | controlAcknowledge m =>
    rw [← Option.some.inj hkind] at hev ⊢
    have hcontrol : s.xapp.e2apHandleControlAckXapp m =
        some (⟨.e42RicControlRequest, m.ricId, 0⟩, y) := by
      rw [E42Xapp.e2apHandleControlAckXapp, if_pos (hack m rfl)]
      exact hev
    exact congrArg (Option.map _) hcontrol
  | indication m => cases hkind

/-- The procedures of the xApp in any order of the calls of the UI thread, the responses and the
indications. Live procedures have different ids; the response to a request finds its procedure and
yields the id that was sent; the queue of the dispatcher has the indications of the live procedures
with their callbacks, each once and in the order of their arrival; and the indication of a
procedure that was removed changes nothing. -/
theorem procedures_of_run (hx : NoProcedures x) (h : (xappThreads x).Run tr s) :
    ((liveProcs tr).map fun v => v.id.ricReqId).Nodup ∧
      (∀ r ∈ s.outstanding, ∀ ans, r.answeredBy ans = true →
        (∀ ack, ans = .controlAcknowledge ack → ack.status = .success) →
        ∃ y, s.xapp.e2apMsgHandleXapp ans = some (some ⟨r.call.event, r.id, 0⟩, y) ∧
          s.xapp.SameProcs y) ∧
      s.xapp.msgDisp = dispatched x.pluginRic tr ∧
      (∀ ind sm, smPluginRic x.pluginRic ind.ricId.ranFuncId = some sm →
        sm.onIndication ind ≠ .tcStatsV0 →
        (∀ v ∈ liveProcs tr, v.id.ricReqId = ind.ricId.ricReqId →
          ∃ y, s.xapp.e2apHandleIndicationXapp ind = some y ∧
            y.msgDisp = (v.smCb, sm.onIndication ind) :: s.xapp.msgDisp ∧
            y.actProc.procs = s.xapp.actProc.procs) ∧
        ∀ id ∈ removedIds tr, id.ricReqId = ind.ricId.ricReqId →
          s.xapp.e2apHandleIndicationXapp ind = some s.xapp) ∧
      (s.calls < 65535 → ∀ type ranFuncId e2Node cb, E42Xapp.validRanFuncId ranFuncId = true →
        s.xapp.generateRicGenId type ranFuncId e2Node cb ≠ none) := by
  have hinv := procInv_run hx h
  have hcall := callInv_reachable ⟨tr, h⟩
  refine ⟨hinv.liveProcs_nodup, fun r hr ans => hinv.response hcall hr, hinv.queue, ?_, ?_⟩
  · intro ind sm hsm htype
    rw [← hinv.plugin] at hsm
    constructor
    · intro v hv hid
      exact E42Xapp.e2apHandleIndicationXapp_of_mem hinv.wf hsm htype (hinv.perm.mem_iff.2 hv) hid
    · intro id hmem hid
      obtain ⟨⟨hpos, hlt⟩, hnot⟩ := hinv.removed id hmem
      have hkey := hinv.wf.toUInt16_toUInt32_of_lt hlt
      rw [hid] at hkey hpos hnot
      apply E42Xapp.e2apHandleIndicationXapp_of_not_mem hinv.wf hsm htype
      · rw [hkey]
        exact hpos
      · rw [hkey]
        exact fun hlive => hnot ((hinv.perm.map _).mem_iff.1 hlive)
  · intro hcalls type ranFuncId e2Node cb hfunc
    have hkeyId : s.xapp.actProc.reg.keyId < 65536 :=
      Nat.lt_of_le_of_lt hinv.keyId (Nat.succ_lt_succ hcalls)
    obtain ⟨y, hy⟩ := E42Xapp.generateRicGenId_ne_none hkeyId hfunc type e2Node cb
    rw [hy]
    exact Option.some_ne_none _

/-- A report whose indication arrives before its response. -/
theorem procedures_of_run_one : ∃ tr s, (xappThreads Sample.xapp).Run tr s ∧
    (liveProcs tr).map ActProcVal.id = [⟨1, 0, 142⟩] ∧
    s.xapp.msgDisp = [(some 1, .macStatsV0)] := by
  have hrun : ∃ tr s, (xappThreads Sample.xapp).Run tr s ∧
      (liveProcs tr).map ActProcVal.id = [⟨1, 0, 142⟩] ∧
      dispatched Sample.xapp.pluginRic tr = [(some 1, .macStatsV0)] := by
    have h₁ := System.Steps.nil (M := xappThreads Sample.xapp) (s := .init Sample.xapp)
    have h₂ := h₁.cons (a := XappAction.report Sample.node 142 .ms10 1) rfl rfl
    have h₃ := h₂.cons (a := XappAction.sendRequest) ⟨_, rfl⟩ rfl
    have h₄ := h₃.cons
      (a := XappAction.e2Answer (.indication ⟨⟨1, 0, 142⟩, 0, none, .report, [], [], none⟩))
      ⟨rfl, nofun⟩ rfl
    exact ⟨_, _, h₄, rfl, rfl⟩
  obtain ⟨tr, s, hrun, hlive, hdispatched⟩ := hrun
  exact ⟨tr, s, hrun, hlive, (procedures_of_run ⟨rfl, rfl⟩ hrun).2.2.1.trans hdispatched⟩

end XappState

end FlexRic
