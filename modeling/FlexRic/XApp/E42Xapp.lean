import FlexRic.AlgDs.AssocReg
import FlexRic.MsgHand.RegE2Nodes
import FlexRic.Sm.PluginRic
import FlexRic.XApp.PendingEvents

/-!
# The xApp (`xApp/e42_xapp.c`, `xApp/msg_handler_xapp.c`, `xApp/act_proc.c`, `xApp/sync_ui.c`)

The data that the xApp's two threads share and the functions they call. A call of the UI thread
and the handling of its response are cut into the parts between which the other thread may run, so
the functions here are these parts.

`none` is a failing assertion. Encoding and decoding are left out: a message is its content.
-/

namespace FlexRic

/-! ## The active procedures -/

/-- `sm_cb`: the address of a callback. -/
abbrev SmCb : Type := ℕ

/-- `act_proc_val_e`. -/
inductive ActProcValE : Type where
  | ricSubscriptionProcedureActive
  | ricControlProcedureActive
  deriving DecidableEq, Repr

/-- `act_proc_val_t`. -/
structure ActProcVal : Type where
  type : ActProcValE
  id : RicGenId
  /-- null for a control procedure -/
  smCb : Option SmCb
  e2Node : GlobalE2NodeId
  deriving DecidableEq, Repr

/-- `act_proc_t`. -/
structure ActProc : Type where
  reg : AssocReg ActProcVal

namespace ActProc

/-- `init_act_proc`. -/
def init : ActProc := ⟨.init⟩

/-- `add_act_proc`. -/
def add (p : ActProc) (type : ActProcValE) (id : RicGenId) (e2Node : GlobalE2NodeId)
    (smCb : Option SmCb) : Option (UInt32 × ActProc) :=
  (p.reg.pushBack ⟨type, id, smCb, e2Node⟩).map fun (key, reg) => (key, ⟨reg⟩)

/-- `rm_act_proc`: it asserts that the id is in the registry. -/
def rm (p : ActProc) (ricReqId : UInt16) : Option ActProc :=
  (p.reg.findReg ricReqId.toUInt32).bind fun it => it.map fun it => ⟨p.reg.erase it⟩

/-- `find_act_proc`: the id that was asked for is written into the value that is found. -/
def find (p : ActProc) (ricReqId : UInt16) : Option (Option ActProcVal × ActProc) :=
  (p.reg.findReg ricReqId.toUInt32).bind fun it =>
    match it with
    | none => some (none, p)
    | some it => (p.reg.value it).map fun val =>
        let val := { val with id := { val.id with ricReqId := ricReqId.toUInt32 } }
        (some val, ⟨p.reg.setValue it val⟩)

/-- What the operations keep. -/
structure WF (p : ActProc) : Prop where
  /-- the registry is well formed -/
  reg : p.reg.WF
  /-- the ids fit into 16 bits -/
  keyId : p.reg.keyId ≤ 65536

/-- The procedure with the id is active. Its `ric_req_id` is the key, whatever is stored in the
value. -/
def Holds (p : ActProc) (id : RicGenId) : Prop :=
  ∃ val, (id.ricReqId, val) ∈ p.reg.toList ∧ val.id.ricInstId = id.ricInstId ∧
    val.id.ranFuncId = id.ranFuncId

variable {p p' : ActProc} {id : RicGenId}

theorem wf_init : init.WF := ⟨AssocReg.wf_init, by decide⟩

/-- The id of an active procedure fits into 16 bits. -/
theorem WF.toUInt16_toUInt32 (h : p.WF) (hid : p.Holds id) :
    id.ricReqId.toUInt16.toUInt32 = id.ricReqId := by
  obtain ⟨val, hmem, -⟩ := hid
  obtain ⟨it, hit⟩ := AssocReg.mem_toList.1 hmem
  have hlt := (h.reg.key _ (List.mem_iff_getElem?.2 ⟨it, hit⟩)).2
  have hkey := h.keyId
  apply UInt32.toNat_inj.1
  rw [UInt16.toNat_toUInt32, UInt32.toNat_toUInt16]
  exact Nat.mod_eq_of_lt (by dsimp only at hlt; omega)

/-- A new procedure is active, and so are the others. -/
theorem WF.add (h : p.WF) {type : ActProcValE} {e2Node : GlobalE2NodeId} {smCb : Option SmCb}
    {key : UInt32} (hadd : p.add type id e2Node smCb = some (key, p')) (hkey : key < 65536) :
    p'.WF ∧ p'.Holds { id with ricReqId := key } ∧ ∀ id', p.Holds id' → p'.Holds id' := by
  obtain ⟨⟨key, reg⟩, hpush, heq⟩ := Option.map_eq_some_iff.1 hadd
  cases heq
  obtain ⟨rfl, hlist, hkeyId⟩ := AssocReg.toList_pushBack hpush
  have hle := h.keyId
  have hnat : (UInt32.ofNat p.reg.keyId).toNat = p.reg.keyId :=
    UInt32.toNat_ofNat_of_lt (by rw [UInt32.size]; omega)
  have hlt : p.reg.keyId < 65536 := by
    rw [UInt32.lt_iff_toNat_lt, hnat] at hkey
    exact hkey
  refine ⟨⟨h.reg.pushBack (by omega) hpush, ?_⟩,
    ⟨⟨type, id, smCb, e2Node⟩, ?_, rfl, rfl⟩, ?_⟩
  · rw [hkeyId]
    exact hlt
  · rw [hlist]
    exact List.mem_append_right _ (List.mem_singleton_self _)
  · rintro id' ⟨val, hmem, hval⟩
    exact ⟨val, by rw [hlist]; exact List.mem_append_left _ hmem, hval⟩

/-- A search changes no procedure, and what it finds is active under the id asked for. -/
theorem WF.find (h : p.WF) {ricReqId : UInt16} {val : Option ActProcVal}
    (hfind : p.find ricReqId = some (val, p')) :
    p'.WF ∧ (∀ id, p.Holds id → p'.Holds id) ∧
      ∀ v, val = some v → v.id.ricReqId = ricReqId.toUInt32 ∧ p.Holds v.id := by
  obtain ⟨it, hit, hfind⟩ := Option.bind_eq_some_iff.1 hfind
  cases it with
  | none =>
    cases hfind
    exact ⟨h, fun id hid => hid, nofun⟩
  | some it =>
    obtain ⟨v, hbucket⟩ := AssocReg.findReg_eq_some hit
    simp only [AssocReg.value_eq_some hbucket, Option.map_some] at hfind
    cases hfind
    obtain ⟨hwf, before, after, hlist, hlist'⟩ :=
      h.reg.setValue hbucket { v with id := { v.id with ricReqId := ricReqId.toUInt32 } }
    refine ⟨⟨hwf, h.keyId⟩, ?_, ?_⟩
    · rintro id ⟨val, hmem, hinst, hfunc⟩
      rw [hlist, List.mem_append, List.mem_cons] at hmem
      rcases hmem with hmem | hmem | hmem
      · exact ⟨val, by rw [hlist']; exact List.mem_append_left _ hmem, hinst, hfunc⟩
      · obtain ⟨hkey, rfl⟩ := Prod.mk.inj hmem
        refine ⟨{ val with id := { val.id with ricReqId := ricReqId.toUInt32 } }, ?_, hinst, hfunc⟩
        rw [hlist', hkey]
        exact List.mem_append_right _ List.mem_cons_self
      · refine ⟨val, ?_, hinst, hfunc⟩
        rw [hlist']
        exact List.mem_append_right _ (List.mem_cons_of_mem _ hmem)
    · rintro _ ⟨⟩
      exact ⟨rfl, v, AssocReg.mem_toList.2 ⟨it, hbucket⟩, rfl, rfl⟩

/-- An active procedure is found, with its id. -/
theorem WF.find_of_holds (h : p.WF) (hid : p.Holds id) :
    ∃ v p', p.find id.ricReqId.toUInt16 = some (some v, p') ∧ v.id = id := by
  have hkey := h.toUInt16_toUInt32 hid
  obtain ⟨val, hmem, hinst, hfunc⟩ := hid
  obtain ⟨it, hit⟩ := AssocReg.mem_toList.1 hmem
  rw [ActProc.find, hkey, h.reg.findReg_of_mem hit, Option.bind_some]
  simp only [AssocReg.value_eq_some hit, Option.map_some]
  refine ⟨_, _, rfl, ?_⟩
  rw [hinst, hfunc]

theorem WF.rm (h : p.WF) {ricReqId : UInt16} (hrm : p.rm ricReqId = some p') : p'.WF := by
  obtain ⟨it, hit, hrm⟩ := Option.bind_eq_some_iff.1 hrm
  obtain ⟨i, rfl, rfl⟩ := Option.map_eq_some_iff.1 hrm
  obtain ⟨v, hbucket⟩ := AssocReg.findReg_eq_some hit
  refine ⟨(h.reg.erase hbucket).1, ?_⟩
  rw [AssocReg.keyId_erase]
  exact h.keyId

end ActProc

/-! ## The wait of the UI thread -/

/-- `sync_ui_t`, down to what its mutex protects. -/
structure SyncUi : Type where
  flagSync : Bool
  msgAck : Bool
  deriving DecidableEq, Repr

/-- `init_sync_ui`. -/
def SyncUi.init : SyncUi := ⟨false, false⟩

/-- `cond_wait_sync_ui` up to its loop: the flags are reset. -/
def SyncUi.reset (_ : SyncUi) : SyncUi := ⟨false, false⟩

/-- `signal_sync_ui`. -/
def SyncUi.signal (_ : SyncUi) : SyncUi := ⟨true, true⟩

/-! ## The xApp -/

/-- `inter_xapp_e`. -/
inductive InterXapp : Type where
  | ms1
  | ms2
  | ms5
  | ms10
  | msEnd
  deriving DecidableEq, Repr

/-- `e42_xapp_t`. -/
structure E42Xapp : Type where
  /-- the socket, `ep.base.fd` -/
  epFd : Fd
  /-- the descriptors in the epoll instance of `io` -/
  io : List Fd
  /-- the RAN functions of `plugin_ag`, as they go into the setup request -/
  pluginAg : List RanFunction
  pluginRic : List SmRic
  e2Nodes : RegE2Nodes
  /-- the id that the iApp has given -/
  id : UInt16
  sync : SyncUi
  actProc : ActProc
  pending : PendingEventXappDs
  /-- the queue of `msg_disp`, the latest message first -/
  msgDisp : List (Option SmCb × SmAgIfRd)
  connected : Bool

/-- The event that a message of an E2 node removes; an indication removes none. -/
def E2Answer.eventXapp : E2Answer → Option PendingEvent
  | subscriptionResponse _ => some .e42RicSubscriptionRequest
  | subscriptionDeleteResponse _ => some .e42RicSubscriptionDeleteRequest
  | controlAcknowledge _ => some .e42RicControlRequest
  | indication _ => none

namespace E42Xapp

/-- `init_e42_xapp`. -/
def init (epFd : Fd) (pluginAg : List RanFunction) (pluginRic : List SmRic) : E42Xapp where
  epFd := epFd
  io := [epFd]
  pluginAg := pluginAg
  pluginRic := pluginRic
  e2Nodes := .init
  id := 0
  sync := .init
  actProc := .init
  pending := .init
  msgDisp := []
  connected := false

/-! ### Descriptors and timers -/

/-- `create_timer_ms_asio_xapp`: the kernel has answered with the descriptor `fd`, which is added
to the epoll instance. -/
def createTimerMsAsioXapp (x : E42Xapp) (fd : Fd) : Option E42Xapp :=
  if 0 < fd ∧ fd ∉ x.io then some { x with io := fd :: x.io } else none

/-- `rm_fd_asio_xapp`. -/
def rmFdAsioXapp (x : E42Xapp) (fd : Fd) : Option E42Xapp :=
  if fd ∈ x.io then some { x with io := x.io.erase fd } else none

/-- `add_pending_event`, the second half of `add_pending_event_xapp`; the first one has created the
timer `fd`. -/
def addPendingEvent (x : E42Xapp) (fd : Fd) (ev : PendingEventXapp) : Option E42Xapp :=
  (x.pending.add fd ev).map fun pending => { x with pending := pending }

/-- `rm_pending_event_xapp`. -/
def rmPendingEventXapp (x : E42Xapp) (ev : PendingEventXapp) : Option E42Xapp :=
  (x.pending.rmEv ev).bind fun (fd, pending) => { x with pending := pending }.rmFdAsioXapp fd

/-- `pend_event`: the event that the timer `fd` waits for. -/
def pendEvent (x : E42Xapp) (fd : Fd) : Option PendingEvent :=
  if 0 < fd then (x.pending.pending.left.findIf fun fd' => fd = fd').map fun e => e.2.ev else none

/-- `generate_e42_setup_request`. -/
def generateE42SetupRequest (x : E42Xapp) : Option E42SetupRequest :=
  if 0 < x.pluginAg.length ∧ x.pluginAg.length = x.pluginRic.length then some ⟨x.pluginAg⟩
  else none

/-- `e2ap_handle_e42_setup_request_xapp`, with which the xApp starts: the request is sent, and the
timer `fd` created and its event added. -/
def e2apHandleE42SetupRequestXapp (x : E42Xapp) (fd : Fd) : Option (E42SetupRequest × E42Xapp) :=
  x.generateE42SetupRequest.bind fun req =>
    (x.createTimerMsAsioXapp fd).bind fun x =>
      (x.addPendingEvent fd ⟨.e42SetupRequest, ⟨0, 0, 0⟩, 3000⟩).map fun x => (req, x)

/-- The event loop when the timer `fd` fires: only the setup request is sent again, and a timer of
any other request ends the xApp. -/
def resendAfterTimeout (x : E42Xapp) (fd : Fd) : Option E42SetupRequest :=
  (x.pendEvent fd).bind fun ev =>
    if ev = .e42SetupRequest then x.generateE42SetupRequest else none

/-! ### The calls of the UI thread -/

/-- `valid_ran_func_id`. -/
def validRanFuncId (ranFuncId : UInt16) : Bool :=
  ranFuncId = 145 || ranFuncId = 142 || ranFuncId = 143 || ranFuncId = 144 || ranFuncId = 146 ||
    ranFuncId = 148 || ranFuncId = 147

/-- `generate_ric_gen_id`. -/
def generateRicGenId (x : E42Xapp) (type : ActProcValE) (ranFuncId : UInt16) (id : GlobalE2NodeId)
    (cb : Option SmCb) : Option (RicGenId × E42Xapp) :=
  if validRanFuncId ranFuncId then
    (x.actProc.add type ⟨0, 0, ranFuncId⟩ id cb).bind fun (reqId, actProc) =>
      if reqId < 65536 then some (⟨reqId, 0, ranFuncId⟩, { x with actProc := actProc }) else none
  else none

/-- `report_sm_sync_xapp` with `send_subscription_request`, up to the handler that sends the
request. -/
def reportSmSyncXapp (x : E42Xapp) (id : GlobalE2NodeId) (ranFuncId : UInt16) (i : InterXapp)
    (cb : SmCb) : Option (RicGenId × E42Xapp) :=
  (x.generateRicGenId .ricSubscriptionProcedureActive ranFuncId id (some cb)).bind
    fun (ricId, x) =>
      if i ≠ .msEnd then (smPluginRic x.pluginRic ranFuncId).map fun _ => (ricId, x) else none

/-- `rm_report_sm_sync_xapp`, up to the handler that sends the request. -/
def rmReportSmSyncXapp (x : E42Xapp) (ricReqId : UInt16) : Option (RicGenId × E42Xapp) :=
  (x.actProc.find ricReqId).bind fun (val, actProc) =>
    val.map fun val => (val.id, { x with actProc := actProc })

/-- `control_sm_sync_xapp` with `send_control_request`, up to the handler that sends the
request. -/
def controlSmSyncXapp (x : E42Xapp) (id : GlobalE2NodeId) (ranFuncId : UInt16) :
    Option (RicGenId × E42Xapp) :=
  (x.generateRicGenId .ricControlProcedureActive ranFuncId id none).bind fun (ricId, x) =>
    (smPluginRic x.pluginRic ranFuncId).map fun _ => (ricId, x)

/-- `rm_act_proc`, at the end of a call. -/
def rmActProc (x : E42Xapp) (ricReqId : UInt16) : Option E42Xapp :=
  (x.actProc.rm ricReqId).map fun actProc => { x with actProc := actProc }

/-! ### The messages of the near-RIC -/

/-- The handlers of the responses up to `rm_pending_event_xapp`: the pending event of kind `ev` is
to be removed, about the procedure of the response. -/
def eventOfProcedure (x : E42Xapp) (ev : PendingEvent) (ricId : RicGenId) :
    Option (PendingEventXapp × E42Xapp) :=
  (x.actProc.find ricId.ricReqId.toUInt16).bind fun (val, actProc) =>
    val.map fun val => (⟨ev, val.id, 0⟩, { x with actProc := actProc })

/-- `e2ap_handle_subscription_response_xapp`, up to `rm_pending_event_xapp`. -/
def e2apHandleSubscriptionResponseXapp (x : E42Xapp) (resp : RicSubscriptionResponse) :
    Option (PendingEventXapp × E42Xapp) :=
  x.eventOfProcedure .e42RicSubscriptionRequest resp.ricId

/-- `e2ap_handle_subscription_delete_response_xapp`, up to `rm_pending_event_xapp`. -/
def e2apHandleSubscriptionDeleteResponseXapp (x : E42Xapp)
    (resp : RicSubscriptionDeleteResponse) : Option (PendingEventXapp × E42Xapp) :=
  x.eventOfProcedure .e42RicSubscriptionDeleteRequest resp.ricId

/-- `e2ap_handle_control_ack_xapp`, up to `rm_pending_event_xapp`. -/
def e2apHandleControlAckXapp (x : E42Xapp) (ack : RicControlAcknowledge) :
    Option (PendingEventXapp × E42Xapp) :=
  if ack.status = .success then x.eventOfProcedure .e42RicControlRequest ack.ricId else none

/-- `e2ap_handle_indication_xapp`: the message of a procedure that is not active is dropped. -/
def e2apHandleIndicationXapp (x : E42Xapp) (ind : RicIndication) : Option E42Xapp :=
  (smPluginRic x.pluginRic ind.ricId.ranFuncId).bind fun sm =>
    let rd := sm.onIndication ind
    if rd ≠ .tcStatsV0 then
      (x.actProc.find ind.ricId.ricReqId.toUInt16).map fun (val, actProc) =>
        match val with
        | none => { x with actProc := actProc }
        | some val => { x with actProc := actProc, msgDisp := (val.smCb, rd) :: x.msgDisp }
    else none

/-- `e2ap_msg_handle_xapp` on the messages of the E2 nodes: a response has a pending event that is
to be removed next, an indication is done. -/
def e2apMsgHandleXapp (x : E42Xapp) : E2Answer → Option (Option PendingEventXapp × E42Xapp)
  | .subscriptionResponse m =>
      (x.e2apHandleSubscriptionResponseXapp m).map fun (ev, x) => (some ev, x)
  | .subscriptionDeleteResponse m =>
      (x.e2apHandleSubscriptionDeleteResponseXapp m).map fun (ev, x) => (some ev, x)
  | .controlAcknowledge m => (x.e2apHandleControlAckXapp m).map fun (ev, x) => (some ev, x)
  | .indication m => (x.e2apHandleIndicationXapp m).map fun x => (none, x)

/-- `e2ap_handle_e42_setup_response_xapp`. -/
def e2apHandleE42SetupResponseXapp (x : E42Xapp) (resp : E42SetupResponse) : Option E42Xapp :=
  if x.connected then none
  else
    (resp.nodes.foldlM (fun (nodes : RegE2Nodes) n => nodes.add n.id n.ackRf) x.e2Nodes).bind
      fun nodes =>
        let x : E42Xapp := { x with id := resp.xappId, e2Nodes := nodes }
        (x.rmPendingEventXapp ⟨.e42SetupRequest, ⟨0, 0, 0⟩, 0⟩).map fun (x : E42Xapp) =>
          { x with connected := true }

/-! ### What the functions change -/

variable {x x' : E42Xapp} {id : RicGenId} {ev : PendingEventXapp} {fd : Fd} {ans : E2Answer}

/-- `y` is `x` with other active procedures, which are as good and include those of `x`. -/
def ChangesActProc (x y : E42Xapp) : Prop :=
  ∃ p, y = { x with actProc := p } ∧
    (x.actProc.WF → p.WF ∧ ∀ id, x.actProc.Holds id → p.Holds id)

theorem generateRicGenId_eq_some {type : ActProcValE} {ranFuncId : UInt16} {e2Node : GlobalE2NodeId}
    {cb : Option SmCb} (h : x.generateRicGenId type ranFuncId e2Node cb = some (id, x')) :
    x.ChangesActProc x' ∧ (x.actProc.WF → x'.actProc.Holds id) := by
  obtain ⟨-, h⟩ := Option.ite_none_right_eq_some.1 h
  obtain ⟨⟨key, p⟩, hadd, h⟩ := Option.bind_eq_some_iff.1 h
  obtain ⟨hkey, heq⟩ := Option.ite_none_right_eq_some.1 h
  cases heq
  refine ⟨⟨p, rfl, fun hwf => ?_⟩, fun hwf => ?_⟩
  · obtain ⟨hwf', -, hmono⟩ := hwf.add hadd hkey
    exact ⟨hwf', hmono⟩
  · exact (hwf.add hadd hkey).2.1

theorem reportSmSyncXapp_eq_some {e2Node : GlobalE2NodeId} {ranFuncId : UInt16} {i : InterXapp}
    {cb : SmCb} (h : x.reportSmSyncXapp e2Node ranFuncId i cb = some (id, x')) :
    x.ChangesActProc x' ∧ (x.actProc.WF → x'.actProc.Holds id) := by
  obtain ⟨⟨ricId, y⟩, hgen, h⟩ := Option.bind_eq_some_iff.1 h
  obtain ⟨-, h⟩ := Option.ite_none_right_eq_some.1 h
  obtain ⟨sm, -, heq⟩ := Option.map_eq_some_iff.1 h
  cases heq
  exact generateRicGenId_eq_some hgen

theorem controlSmSyncXapp_eq_some {e2Node : GlobalE2NodeId} {ranFuncId : UInt16}
    (h : x.controlSmSyncXapp e2Node ranFuncId = some (id, x')) :
    x.ChangesActProc x' ∧ (x.actProc.WF → x'.actProc.Holds id) := by
  obtain ⟨⟨ricId, y⟩, hgen, h⟩ := Option.bind_eq_some_iff.1 h
  obtain ⟨sm, -, heq⟩ := Option.map_eq_some_iff.1 h
  cases heq
  exact generateRicGenId_eq_some hgen

theorem rmReportSmSyncXapp_eq_some {ricReqId : UInt16}
    (h : x.rmReportSmSyncXapp ricReqId = some (id, x')) :
    x.ChangesActProc x' ∧ (x.actProc.WF → x'.actProc.Holds id) := by
  obtain ⟨⟨val, p⟩, hfind, h⟩ := Option.bind_eq_some_iff.1 h
  obtain ⟨v, rfl, heq⟩ := Option.map_eq_some_iff.1 h
  cases heq
  refine ⟨⟨p, rfl, fun hwf => ?_⟩, fun hwf => ?_⟩
  · obtain ⟨hwf', hmono, -⟩ := hwf.find hfind
    exact ⟨hwf', hmono⟩
  · obtain ⟨-, hmono, hval⟩ := hwf.find hfind
    exact hmono _ (hval v rfl).2

theorem eventOfProcedure_eq_some {kind : PendingEvent}
    (h : x.eventOfProcedure kind id = some (ev, x')) :
    x.ChangesActProc x' ∧ ev.ev = kind ∧ (x.actProc.WF → x.actProc.Holds id → ev.id = id) := by
  obtain ⟨⟨val, p⟩, hfind, h⟩ := Option.bind_eq_some_iff.1 h
  obtain ⟨v, rfl, heq⟩ := Option.map_eq_some_iff.1 h
  cases heq
  refine ⟨⟨p, rfl, fun hwf => ?_⟩, rfl, fun hwf hid => ?_⟩
  · obtain ⟨hwf', hmono, -⟩ := hwf.find hfind
    exact ⟨hwf', hmono⟩
  · obtain ⟨v', p', hfind', rfl⟩ := hwf.find_of_holds hid
    rw [hfind] at hfind'
    cases hfind'
    rfl

theorem rmFdAsioXapp_eq_some : x.rmFdAsioXapp fd = some x' ↔
    fd ∈ x.io ∧ x' = { x with io := x.io.erase fd } := by
  rw [rmFdAsioXapp, Option.ite_none_right_eq_some, Option.some_inj, eq_comm]

theorem createTimer_eq_some : x.createTimerMsAsioXapp fd = some x' ↔
    (0 < fd ∧ fd ∉ x.io) ∧ x' = { x with io := fd :: x.io } := by
  rw [createTimerMsAsioXapp, Option.ite_none_right_eq_some, Option.some_inj, eq_comm]

theorem rmPendingEventXapp_eq_some (h : x.rmPendingEventXapp ev = some x') :
    ∃ fd pending, x.pending.rmEv ev = some (fd, pending) ∧ fd ∈ x.io ∧
      x' = { x with pending := pending, io := x.io.erase fd } := by
  obtain ⟨⟨fd, pending⟩, hrm, h⟩ := Option.bind_eq_some_iff.1 h
  obtain ⟨hmem, rfl⟩ := rmFdAsioXapp_eq_some.1 h
  exact ⟨fd, pending, hrm, hmem, rfl⟩

/-- An indication changes nothing but the registry, in which it writes an id, and the queue of the
dispatcher. -/
theorem e2apHandleIndicationXapp_eq_some {ind : RicIndication}
    (h : x.e2apHandleIndicationXapp ind = some x') :
    ∃ y, x.ChangesActProc y ∧ ∃ msgDisp, x' = { y with msgDisp := msgDisp } := by
  obtain ⟨sm, -, h⟩ := Option.bind_eq_some_iff.1 h
  obtain ⟨-, h⟩ := Option.ite_none_right_eq_some.1 h
  obtain ⟨⟨val, p⟩, hfind, rfl⟩ := Option.map_eq_some_iff.1 h
  refine ⟨{ x with actProc := p }, ⟨p, rfl, fun hwf => ?_⟩, ?_⟩
  · obtain ⟨hwf', hmono, -⟩ := hwf.find hfind
    exact ⟨hwf', hmono⟩
  · cases val with
    | none => exact ⟨x.msgDisp, rfl⟩
    | some v => exact ⟨(v.smCb, _) :: x.msgDisp, rfl⟩

/-- A response has its pending event removed, about the procedure of its id. -/
theorem e2apMsgHandleXapp_eq_some {out : Option PendingEventXapp}
    (h : x.e2apMsgHandleXapp ans = some (out, x')) :
    (∃ kind ev, ans.eventXapp = some kind ∧ out = some ev ∧
      x.eventOfProcedure kind ans.ricId = some (ev, x')) ∨
    (∃ ind, ans.eventXapp = none ∧ out = none ∧ x.e2apHandleIndicationXapp ind = some x') := by
  cases ans with
  | subscriptionResponse m =>
    obtain ⟨⟨ev, y⟩, hev, heq⟩ := Option.map_eq_some_iff.1 h
    cases heq
    exact .inl ⟨_, ev, rfl, rfl, hev⟩
  | subscriptionDeleteResponse m =>
    obtain ⟨⟨ev, y⟩, hev, heq⟩ := Option.map_eq_some_iff.1 h
    cases heq
    exact .inl ⟨_, ev, rfl, rfl, hev⟩
  | controlAcknowledge m =>
    obtain ⟨⟨ev, y⟩, hev, heq⟩ := Option.map_eq_some_iff.1 h
    cases heq
    obtain ⟨-, hev⟩ := Option.ite_none_right_eq_some.1 hev
    exact .inl ⟨_, ev, rfl, rfl, hev⟩
  | indication m =>
    obtain ⟨y, hind, heq⟩ := Option.map_eq_some_iff.1 h
    cases heq
    exact .inr ⟨m, rfl, rfl, hind⟩

/-! ### The setup timer -/

/-- What holds of an xApp whose setup timer is `fd`. -/
structure WaitsForSetup (x : E42Xapp) (fd : Fd) : Prop where
  /-- the setup request can be sent -/
  request : ∃ req, x.generateE42SetupRequest = some req
  /-- the timer is the only one -/
  io : x.io = [fd, x.epFd]
  /-- it waits for the setup response, and nothing else is waited for -/
  wf : x.pending.WF
  pending : x.pending.toList = [(fd, ⟨.e42SetupRequest, ⟨0, 0, 0⟩, 3000⟩)]
  /-- there was no response yet -/
  connected : x.connected = false
  e2Nodes : x.e2Nodes = .init

variable {epFd : Fd} {pluginAg : List RanFunction} {pluginRic : List SmRic} {req : E42SetupRequest}

theorem generateE42SetupRequest_eq_some (h : x.generateE42SetupRequest = some req) :
    req.ranFuncItem ≠ [] := by
  obtain ⟨hlen, heq⟩ := Option.ite_none_right_eq_some.1 h
  cases heq
  exact List.ne_nil_of_length_pos hlen.1

/-- The xApp that goes into the event loop waits for the setup response. -/
theorem waitsForSetup_of_start
    (h : (init epFd pluginAg pluginRic).e2apHandleE42SetupRequestXapp fd = some (req, x)) :
    x.WaitsForSetup fd ∧ req.ranFuncItem ≠ [] := by
  obtain ⟨req', hreq, h⟩ := Option.bind_eq_some_iff.1 h
  obtain ⟨x₁, htimer, h⟩ := Option.bind_eq_some_iff.1 h
  obtain ⟨x₂, hadd, heq⟩ := Option.map_eq_some_iff.1 h
  cases heq
  obtain ⟨-, rfl⟩ := createTimer_eq_some.1 htimer
  obtain ⟨pending, hpending, rfl⟩ := Option.map_eq_some_iff.1 hadd
  refine ⟨⟨⟨req, hreq⟩, rfl, ?_, ?_, rfl, rfl⟩, generateE42SetupRequest_eq_some hreq⟩
  · exact PendingEventXappDs.wf_init.add List.not_mem_nil hpending
  · exact List.perm_singleton.1 (PendingEventXappDs.perm_add hpending)

/-- A timer that can fire is the setup timer, and makes the xApp send its request again. -/
theorem WaitsForSetup.resend (h : x.WaitsForSetup fd) {t : Fd} (hmem : t ∈ x.io)
    (hne : t ≠ x.epFd) : x.resendAfterTimeout t ≠ none := by
  obtain ⟨req, hreq⟩ := h.request
  have ht : t = fd := by
    rw [h.io] at hmem
    rcases List.mem_cons.1 hmem with ht | ht
    · exact ht
    · exact absurd (List.mem_singleton.1 ht) hne
  have hpend : x.pendEvent fd = some .e42SetupRequest := by
    have hleft : x.pending.pending.left.toList = [(fd, ⟨.e42SetupRequest, ⟨0, 0, 0⟩, 3000⟩)] :=
      h.pending
    have hpos : 0 < fd := h.wf.pos _ (by rw [h.pending]; exact List.mem_singleton_self _)
    rw [pendEvent, if_pos hpos, AssocRbTree.findIf, hleft]
    simp
  have hresend : x.resendAfterTimeout t = x.generateE42SetupRequest := by
    rw [ht, resendAfterTimeout, hpend]
    rfl
  rw [hresend, hreq]
  exact Option.some_ne_none req

/-- A setup response whose nodes can be registered makes the xApp connected and stops the timer. -/
theorem WaitsForSetup.setupResponse (h : x.WaitsForSetup fd) :
    ∃ pending, pending.toList = [] ∧ ∀ resp, x.e2apHandleE42SetupResponseXapp resp =
      (resp.nodes.foldlM (fun (n : RegE2Nodes) e => n.add e.id e.ackRf) .init).map fun nodes =>
        { x with
          id := resp.xappId, e2Nodes := nodes, pending := pending, io := [x.epFd]
          connected := true } := by
  have hmem : (fd, (⟨.e42SetupRequest, ⟨0, 0, 0⟩, 3000⟩ : PendingEventXapp)) ∈
      x.pending.toList := by
    rw [h.pending]
    exact List.mem_singleton_self _
  obtain ⟨pending, hrm, hperm⟩ := h.wf.rmEv_of_mem hmem fun e he _ =>
    List.mem_singleton.1 (h.pending ▸ he)
  rw [h.pending] at hperm
  have hio : fd ∈ x.io ∧ x.io.erase fd = [x.epFd] := by
    rw [h.io, List.erase_cons_head]
    exact ⟨List.mem_cons_self, rfl⟩
  refine ⟨pending, List.perm_nil.1 hperm.cons_inv.symm, fun resp => ?_⟩
  have hconn : ¬x.connected = true := by simp [h.connected]
  rw [e2apHandleE42SetupResponseXapp, if_neg hconn, h.e2Nodes]
  cases resp.nodes.foldlM (fun (n : RegE2Nodes) e => n.add e.id e.ackRf) .init with
  | none => rfl
  | some nodes =>
    have hcongr : x.pending.rmEv ⟨.e42SetupRequest, ⟨0, 0, 0⟩, 0⟩ =
        x.pending.rmEv ⟨.e42SetupRequest, ⟨0, 0, 0⟩, 3000⟩ := PendingEventXappDs.rmEv_congr rfl
    have hrm' := hcongr.trans hrm
    simp only [Option.bind_some, Option.map_some, rmPendingEventXapp, hrm', rmFdAsioXapp,
      if_pos hio.1, hio.2]

/-- The xApp takes its id from a setup response whose nodes can be registered. -/
theorem WaitsForSetup.exists_setupResponse (h : x.WaitsForSetup fd) {resp : E42SetupResponse}
    (hnodes : ∃ nodes,
      resp.nodes.foldlM (fun (n : RegE2Nodes) e => n.add e.id e.ackRf) .init = some nodes) :
    ∃ x', x.e2apHandleE42SetupResponseXapp resp = some x' ∧ x'.connected = true ∧
      x'.id = resp.xappId := by
  obtain ⟨nodes, hnodes⟩ := hnodes
  obtain ⟨pending, -, hresp⟩ := h.setupResponse
  rw [hresp resp, hnodes]
  exact ⟨_, rfl, rfl, rfl⟩

/-- A connected xApp fails an assertion on a setup response. -/
theorem e2apHandleE42SetupResponseXapp_of_connected (h : x.connected = true)
    (resp : E42SetupResponse) : x.e2apHandleE42SetupResponseXapp resp = none := by
  rw [e2apHandleE42SetupResponseXapp, if_pos h]

end E42Xapp

end FlexRic
