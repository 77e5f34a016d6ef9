import FlexRic.XApp.E42Xapp

/-!
# The two threads of the xApp

The UI thread makes one call after the other and waits in each of them for a response; the event
loop takes the messages of the near-RIC and the timers. `xappThreads` is their interleaving from
the moment the xApp is connected: an action is one step of one of the two threads, cut at the
points where the other one can see or change something.

* `sync.mtx_sync` makes the reset of the flags and the start of the wait one step, and the signal
  another one.
* The system numbers the calls and records which requests are sent and not answered and which
  responses were signalled. No function of the code reads these.
-/

namespace FlexRic

/-- A call of the UI thread. -/
inductive UiCall : Type where
  /-- `report_sm_xapp_api` -/
  | report
  /-- `rm_report_sm_xapp_api` -/
  | rmReport
  /-- `control_sm_xapp_api` -/
  | control
  deriving DecidableEq, Repr

/-- The event that the timer of a call waits for. -/
def UiCall.event : UiCall → PendingEvent
  | report => .e42RicSubscriptionRequest
  | rmReport => .e42RicSubscriptionDeleteRequest
  | control => .e42RicControlRequest

/-- The request of a call. -/
structure UiRequest : Type where
  call : UiCall
  id : RicGenId
  /-- the number of the call -/
  serial : ℕ
  deriving DecidableEq, Repr

/-- The pending event that the handler of the request adds. -/
def UiRequest.event (r : UiRequest) : PendingEventXapp := ⟨r.call.event, r.id, 5000⟩

/-- Whether a message is the response to the request. -/
def UiRequest.answeredBy (r : UiRequest) (ans : E2Answer) : Bool :=
  ans.eventXapp = some r.call.event && ans.ricId = r.id

/-- Where the UI thread is. -/
inductive UiPc : Type where
  /-- outside of the xApp -/
  | idle
  /-- the request is generated -/
  | start (r : UiRequest)
  /-- the request is sent -/
  | sent (r : UiRequest)
  /-- its timer is armed -/
  | armed (r : UiRequest) (fd : Fd)
  /-- its pending event is added -/
  | registered (r : UiRequest)
  /-- in the loop of `cond_wait_sync_ui` -/
  | waiting (r : UiRequest)
  /-- in the loop as well, and `pthread_cond_timedwait` will return `ETIMEDOUT` -/
  | timedOut (r : UiRequest)
  /-- the wait has ended, and the active procedure is to be removed -/
  | released (r : UiRequest)
  deriving DecidableEq, Repr

/-- Where the event loop is. -/
inductive LoopPc : Type where
  /-- waiting for an event -/
  | idle
  /-- handling the response to the call `serial`: `ev` is to be removed -/
  | rmPending (serial : ℕ) (ev : PendingEventXapp)
  /-- handling the response to the call `serial`: the UI thread is to be signalled -/
  | signal (serial : ℕ)
  deriving DecidableEq, Repr

/-- The state of the two threads and the record of what happened. -/
structure XappState : Type where
  xapp : E42Xapp
  uiPc : UiPc
  loopPc : LoopPc
  /-- the number of calls so far -/
  calls : ℕ
  /-- the requests that were sent and have no response yet -/
  outstanding : List UiRequest
  /-- the calls whose response was signalled -/
  signalled : List ℕ

/-- A step of one of the two threads. -/
inductive XappAction : Type where
  | report (id : GlobalE2NodeId) (ranFuncId : UInt16) (i : InterXapp) (cb : SmCb)
  | rmReport (handle : UInt16)
  | control (id : GlobalE2NodeId) (ranFuncId : UInt16)
  /-- the request is sent -/
  | sendRequest
  /-- the timer is created; the kernel gives it the descriptor `fd` -/
  | createTimer (fd : Fd)
  /-- the pending event is added -/
  | addPending
  /-- the flags are reset and the wait begins -/
  | condWait
  /-- the deadline of the wait passes -/
  | deadline
  /-- the wait ends -/
  | wake
  /-- the active procedure is removed -/
  | rmActProc
  /-- a message of the near-RIC that comes from an E2 node -/
  | e2Answer (ans : E2Answer)
  /-- the pending event of the response is removed -/
  | rmPending
  /-- the UI thread is signalled -/
  | signal
  /-- the timer `fd` fires -/
  | timerExpiry (fd : Fd)
  deriving Repr

namespace XappState

/-- The threads when the UI thread has found the xApp connected. -/
def init (x : E42Xapp) : XappState where
  xapp := x
  uiPc := .idle
  loopPc := .idle
  calls := 0
  outstanding := []
  signalled := []

/-- What can happen next: each thread does one thing at a time, a response answers a request that
was sent and has no response yet, the kernel answers `timerfd_create` with an unused descriptor,
only the timers in the epoll instance fire, and the wait goes on while its flag is not set and its
deadline has not passed. -/
def Enabled (s : XappState) : XappAction → Prop
  | .report _ _ _ _ => s.uiPc = .idle
  | .rmReport _ => s.uiPc = .idle
  | .control _ _ => s.uiPc = .idle
  | .sendRequest => ∃ r, s.uiPc = .start r
  | .createTimer fd => (∃ r, s.uiPc = .sent r) ∧ 0 < fd ∧ fd ∉ s.xapp.io
  | .addPending => ∃ r fd, s.uiPc = .armed r fd
  | .condWait => ∃ r, s.uiPc = .registered r
  | .deadline => (∃ r, s.uiPc = .waiting r) ∧ s.xapp.sync.flagSync = false
  | .wake => (∃ r, s.uiPc = .waiting r) ∧ s.xapp.sync.flagSync = true ∨ ∃ r, s.uiPc = .timedOut r
  | .rmActProc => ∃ r, s.uiPc = .released r
  | .e2Answer ans => s.loopPc = .idle ∧
      (ans.eventXapp ≠ none → ∃ r ∈ s.outstanding, r.answeredBy ans = true)
  | .rmPending => ∃ serial ev, s.loopPc = .rmPending serial ev
  | .signal => ∃ serial, s.loopPc = .signal serial
  | .timerExpiry fd => s.loopPc = .idle ∧ fd ∈ s.xapp.io ∧ fd ≠ s.xapp.epFd

/-- The UI thread begins a call with the request it has generated. -/
def begin (s : XappState) (call : UiCall) (req : Option (RicGenId × E42Xapp)) :
    Option XappState :=
  req.map fun (id, x) =>
    { s with xapp := x, uiPc := .start ⟨call, id, s.calls⟩, calls := s.calls + 1 }

/-- After the wait a report is done, the other calls remove their active procedure. -/
def afterWait (r : UiRequest) : UiPc :=
  match r.call with
  | .report => .idle
  | .rmReport => .released r
  | .control => .released r

/-- The event loop handles a message of an E2 node. -/
def handle (s : XappState) (ans : E2Answer) : Option XappState :=
  (s.xapp.e2apMsgHandleXapp ans).map fun (ev, x) =>
    match ev, s.outstanding.find? fun r => r.answeredBy ans with
    | some ev, some r =>
      { s with
        xapp := x
        loopPc := .rmPending r.serial ev
        outstanding := s.outstanding.erase r }
    | _, _ => { s with xapp := x }

/-- What the program does; `none` is a failing assertion. -/
def step (s : XappState) : XappAction → Option XappState
  | .report id ranFuncId i cb => s.begin .report (s.xapp.reportSmSyncXapp id ranFuncId i cb)
  | .rmReport handle => s.begin .rmReport (s.xapp.rmReportSmSyncXapp handle)
  | .control id ranFuncId => s.begin .control (s.xapp.controlSmSyncXapp id ranFuncId)
  | .sendRequest =>
    match s.uiPc with
    | .start r => some { s with uiPc := .sent r, outstanding := r :: s.outstanding }
    | _ => none
  | .createTimer fd =>
    match s.uiPc with
    | .sent r => (s.xapp.createTimerMsAsioXapp fd).map fun x =>
        { s with xapp := x, uiPc := .armed r fd }
    | _ => none
  | .addPending =>
    match s.uiPc with
    | .armed r fd => (s.xapp.addPendingEvent fd r.event).map fun x =>
        { s with xapp := x, uiPc := .registered r }
    | _ => none
  | .condWait =>
    match s.uiPc with
    | .registered r => some
        { s with xapp := { s.xapp with sync := s.xapp.sync.reset }, uiPc := .waiting r }
    | _ => none
  | .deadline =>
    match s.uiPc with
    | .waiting r => some { s with uiPc := .timedOut r }
    | _ => none
  | .wake =>
    match s.uiPc with
    | .waiting r =>
      if s.xapp.sync.flagSync && s.xapp.sync.msgAck then some { s with uiPc := afterWait r }
      else none
    | _ => none
  | .rmActProc =>
    match s.uiPc with
    | .released r => (s.xapp.rmActProc r.id.ricReqId.toUInt16).map fun x =>
        { s with xapp := x, uiPc := .idle }
    | _ => none
  | .e2Answer ans => s.handle ans
  | .rmPending =>
    match s.loopPc with
    | .rmPending serial ev => (s.xapp.rmPendingEventXapp ev).map fun x =>
        { s with xapp := x, loopPc := .signal serial }
    | _ => none
  | .signal =>
    match s.loopPc with
    | .signal serial => some
        { s with
          xapp := { s.xapp with sync := s.xapp.sync.signal }
          loopPc := .idle
          signalled := serial :: s.signalled }
    | _ => none
  | .timerExpiry fd => (s.xapp.resendAfterTimeout fd).map fun _ => s

end XappState

/-- The interleaving of the two threads from the moment the xApp is connected. Its state then is a
parameter: it has no active procedure, no pending event and no descriptor but the socket. -/
def xappThreads (x : E42Xapp) : System XappState XappAction where
  init := .init x
  enabled := XappState.Enabled
  step := XappState.step

/-! ## What a step can do -/

/-- The call that an action of the UI thread begins, with the request that it generates. -/
def XappAction.request (x : E42Xapp) : XappAction → Option (UiCall × Option (RicGenId × E42Xapp))
  | .report id ranFuncId i cb => some (.report, x.reportSmSyncXapp id ranFuncId i cb)
  | .rmReport handle => some (.rmReport, x.rmReportSmSyncXapp handle)
  | .control id ranFuncId => some (.control, x.controlSmSyncXapp id ranFuncId)
  | _ => none

/-- The request of a call is active, and nothing but the registry changes. -/
theorem XappAction.request_eq_some {x x' : E42Xapp} {a : XappAction} {call : UiCall} {id : RicGenId}
    (h : a.request x = some (call, some (id, x'))) :
    x.ChangesActProc x' ∧ (x.actProc.WF → x'.actProc.Holds id) := by
  cases a with
  | report => exact E42Xapp.reportSmSyncXapp_eq_some (Prod.mk.inj (Option.some.inj h)).2
  | rmReport => exact E42Xapp.rmReportSmSyncXapp_eq_some (Prod.mk.inj (Option.some.inj h)).2
  | control => exact E42Xapp.controlSmSyncXapp_eq_some (Prod.mk.inj (Option.some.inj h)).2
  | _ => cases h

namespace XappState

/-- The steps that go through, with the state each one leads to. -/
inductive Trans (s : XappState) : XappAction → XappState → Prop
  | begin {a : XappAction} {call : UiCall} {id : RicGenId} {x : E42Xapp} (hpc : s.uiPc = .idle)
      (h : a.request s.xapp = some (call, some (id, x))) :
      Trans s a
        { s with xapp := x, uiPc := .start ⟨call, id, s.calls⟩, calls := s.calls + 1 }
  | sendRequest {r : UiRequest} (hpc : s.uiPc = .start r) :
      Trans s .sendRequest { s with uiPc := .sent r, outstanding := r :: s.outstanding }
  | createTimer {fd : Fd} {r : UiRequest} (hpc : s.uiPc = .sent r) (hpos : 0 < fd)
      (hfresh : fd ∉ s.xapp.io) :
      Trans s (.createTimer fd)
        { s with xapp := { s.xapp with io := fd :: s.xapp.io }, uiPc := .armed r fd }
  | addPending {r : UiRequest} {fd : Fd} {pending : PendingEventXappDs} (hpc : s.uiPc = .armed r fd)
      (h : s.xapp.pending.add fd r.event = some pending) :
      Trans s .addPending
        { s with xapp := { s.xapp with pending := pending }, uiPc := .registered r }
  | condWait {r : UiRequest} (hpc : s.uiPc = .registered r) :
      Trans s .condWait
        { s with xapp := { s.xapp with sync := s.xapp.sync.reset }, uiPc := .waiting r }
  | deadline {r : UiRequest} (hpc : s.uiPc = .waiting r) (hflag : s.xapp.sync.flagSync = false) :
      Trans s .deadline { s with uiPc := .timedOut r }
  | wake {r : UiRequest} (hpc : s.uiPc = .waiting r) (hflag : s.xapp.sync.flagSync = true) :
      Trans s .wake { s with uiPc := afterWait r }
  | rmActProc {r : UiRequest} {p : ActProc} (hpc : s.uiPc = .released r)
      (h : s.xapp.actProc.rm r.id.ricReqId.toUInt16 = some p) :
      Trans s .rmActProc { s with xapp := { s.xapp with actProc := p }, uiPc := .idle }
  | response {ans : E2Answer} {r : UiRequest} {ev : PendingEventXapp} {x : E42Xapp}
      (hpc : s.loopPc = .idle) (hr : r ∈ s.outstanding) (hans : r.answeredBy ans = true)
      (h : s.xapp.eventOfProcedure r.call.event r.id = some (ev, x)) :
      Trans s (.e2Answer ans) { s with
        xapp := x
        loopPc := .rmPending r.serial ev
        outstanding := s.outstanding.erase r }
  | indication {ans : E2Answer} {ind : RicIndication} {x : E42Xapp} (hpc : s.loopPc = .idle)
      (h : s.xapp.e2apHandleIndicationXapp ind = some x) :
      Trans s (.e2Answer ans) { s with xapp := x }
  | rmPending {serial : ℕ} {ev : PendingEventXapp} {x : E42Xapp}
      (hpc : s.loopPc = .rmPending serial ev) (h : s.xapp.rmPendingEventXapp ev = some x) :
      Trans s .rmPending { s with xapp := x, loopPc := .signal serial }
  | signal {serial : ℕ} (hpc : s.loopPc = .signal serial) :
      Trans s .signal { s with
        xapp := { s.xapp with sync := s.xapp.sync.signal }
        loopPc := .idle
        signalled := serial :: s.signalled }
  | timerExpiry {fd : Fd} (hpc : s.loopPc = .idle) : Trans s (.timerExpiry fd) s

/-- The inversion of `begin`. -/
theorem trans_of_begin {s t : XappState} {a : XappAction} {call : UiCall}
    {req : Option (RicGenId × E42Xapp)} (ha : a.request s.xapp = some (call, req))
    (hpc : s.uiPc = .idle) (h : s.begin call req = some t) : s.Trans a t := by
  obtain ⟨⟨id, x⟩, rfl, rfl⟩ := Option.map_eq_some_iff.1 h
  exact .begin hpc ha

/-- The inversion of `step`. -/
theorem trans_of_step {s t : XappState} {a : XappAction} (he : s.Enabled a)
    (h : s.step a = some t) : s.Trans a t := by
  cases a with
  | report id ranFuncId i cb => exact trans_of_begin rfl he h
  | rmReport handle => exact trans_of_begin rfl he h
  | control id ranFuncId => exact trans_of_begin rfl he h
  | sendRequest =>
    obtain ⟨r, hpc⟩ := he
    simp only [step, hpc] at h
    cases h
    exact .sendRequest hpc
  | createTimer fd =>
    obtain ⟨⟨r, hpc⟩, hpos, hfresh⟩ := he
    simp only [step, hpc] at h
    obtain ⟨x, hx, rfl⟩ := Option.map_eq_some_iff.1 h
    obtain ⟨-, rfl⟩ := E42Xapp.createTimer_eq_some.1 hx
    exact .createTimer hpc hpos hfresh
  | addPending =>
    obtain ⟨r, fd, hpc⟩ := he
    simp only [step, hpc] at h
    obtain ⟨x, hx, rfl⟩ := Option.map_eq_some_iff.1 h
    obtain ⟨pending, hadd, rfl⟩ := Option.map_eq_some_iff.1 hx
    exact .addPending hpc hadd
  | condWait =>
    obtain ⟨r, hpc⟩ := he
    simp only [step, hpc] at h
    cases h
    exact .condWait hpc
  | deadline =>
    obtain ⟨⟨r, hpc⟩, hflag⟩ := he
    simp only [step, hpc] at h
    cases h
    exact .deadline hpc hflag
  | wake =>
    rcases he with ⟨⟨r, hpc⟩, hflag⟩ | ⟨r, hpc⟩
    · simp only [step, hpc] at h
      obtain ⟨-, heq⟩ := Option.ite_none_right_eq_some.1 h
      cases heq
      exact .wake hpc hflag
    · simp only [step, hpc] at h
      cases h
  | rmActProc =>
    obtain ⟨r, hpc⟩ := he
    simp only [step, hpc] at h
    obtain ⟨x, hx, rfl⟩ := Option.map_eq_some_iff.1 h
    obtain ⟨p, hp, rfl⟩ := Option.map_eq_some_iff.1 hx
    exact .rmActProc hpc hp
  | e2Answer ans =>
    obtain ⟨hpc, hguard⟩ := he
    obtain ⟨⟨out, x⟩, hhandle, rfl⟩ := Option.map_eq_some_iff.1 h
    rcases E42Xapp.e2apMsgHandleXapp_eq_some hhandle with
      ⟨kind, ev, hkind, rfl, hev⟩ | ⟨ind, hkind, rfl, hind⟩
    · obtain ⟨q, hq, hans⟩ := hguard (by rw [hkind]; nofun)
      have hsome : (s.outstanding.find? fun r => r.answeredBy ans).isSome :=
        List.find?_isSome.2 ⟨q, hq, hans⟩
      obtain ⟨r, hr⟩ := Option.isSome_iff_exists.1 hsome
      simp only [hr]
      have hans' : r.answeredBy ans = true := by simpa using List.find?_some hr
      have hmatch := hans'
      rw [UiRequest.answeredBy, Bool.and_eq_true, decide_eq_true_iff, decide_eq_true_iff,
        hkind] at hmatch
      obtain ⟨hk, hid⟩ := hmatch
      cases hk
      exact .response hpc (List.mem_of_find?_eq_some hr) hans' (hid ▸ hev)
    · exact .indication hpc hind
  | rmPending =>
    obtain ⟨serial, ev, hpc⟩ := he
    simp only [step, hpc] at h
    obtain ⟨x, hx, rfl⟩ := Option.map_eq_some_iff.1 h
    exact .rmPending hpc hx
  | signal =>
    obtain ⟨serial, hpc⟩ := he
    simp only [step, hpc] at h
    cases h
    exact .signal hpc
  | timerExpiry fd =>
    obtain ⟨req, -, rfl⟩ := Option.map_eq_some_iff.1 h
    exact .timerExpiry he.1

end XappState

/-- An invariant of the two threads, checked on the steps that go through. -/
theorem xappThreads_invariant {x : E42Xapp} {P : XappState → Prop} {s : XappState}
    (h : (xappThreads x).Reachable s) (hinit : P (.init x))
    (hstep : ∀ s a t, P s → s.Trans a t → P t) : P s :=
  h.invariant hinit fun s a t hs he ht => hstep s a t hs (XappState.trans_of_step he ht)

/-! ## A connected xApp -/

namespace Sample

/-- The xApp with the id 7. -/
def xapp : E42Xapp := { E42Xapp.init 3 [rf] [sm] with id := 7, connected := true }

/-- A report call up to the registration of its pending event, with the timer 4. -/
def report : List XappAction :=
  [.report node 142 .ms10 1, .sendRequest, .createTimer 4, .addPending]

/-- The handling of the response to the first call. -/
def response : List XappAction :=
  [.e2Answer (.subscriptionResponse ⟨⟨1, 0, 142⟩, [0], 0⟩), .rmPending, .signal]

end Sample

end FlexRic
