import FlexRic.Net.XappProcess
import FlexRic.XApp.Callbacks
import FlexRic.XApp.Registration

/-!
# The runs of an xApp's process

From the setup response on, the threads of an xApp make a run of `xappDispatch` as long as every
response that the process takes answers a request that it has sent. The requests that have no
response are those that the threads count as outstanding.
-/

namespace FlexRic

theorem filterMap_concat {α β : Type} (f : α → Option β) (l : List α) (a : α) :
    (l ++ [a]).filterMap f = l.filterMap f ++ (f a).toList := by
  rw [List.filterMap_append]
  cases h : f a <;> simp [h]

namespace E42Xapp

variable {x y : E42Xapp} {fd : Fd}

/-- The setup response connects the xApp, which begins without procedures and pending events. -/
theorem WaitsForSetup.fresh (h : x.WaitsForSetup fd) (hx : XappState.NoProcedures x)
    {resp : E42SetupResponse} (hresp : x.e2apHandleE42SetupResponseXapp resp = some y) :
    XappState.Fresh y ∧ XappState.NoProcedures y ∧ y.pluginRic = x.pluginRic ∧
      y.id = resp.xappId ∧ y.connected = true ∧
      ∀ e ∈ y.e2Nodes.nodeToRf.toList, ∃ node ∈ resp.nodes, node.id = e.1 := by
  have hconn : ¬x.connected = true := by simp [h.connected]
  rw [e2apHandleE42SetupResponseXapp, if_neg hconn, h.e2Nodes] at hresp
  obtain ⟨nodes, hnodes, hresp⟩ := Option.bind_eq_some_iff.1 hresp
  obtain ⟨x', hrm, rfl⟩ := Option.map_eq_some_iff.1 hresp
  obtain ⟨fd', pending, hev, -, rfl⟩ := rmPendingEventXapp_eq_some hrm
  obtain ⟨hwf, ev, -, hperm⟩ := h.wf.rmEv hev
  refine ⟨⟨hx.actProc ▸ ActProc.wf_init, hwf, ?_⟩, ⟨hx.actProc, hx.msgDisp⟩, rfl, rfl, rfl, ?_⟩
  · have hlen := hperm.length_eq
    rw [h.pending] at hlen
    exact List.length_eq_zero_iff.1 (Nat.succ.inj hlen).symm
  · intro e he
    rcases RegE2Nodes.mem_foldlM_add hnodes he with he | hmem
    · cases he
    · exact hmem

/-- The two have the same from the setup response. -/
structure SameSetup (x y : E42Xapp) : Prop where
  id : x.id = y.id
  e2Nodes : x.e2Nodes = y.e2Nodes
  connected : x.connected = y.connected

/-- The xApp that has sent its setup request has no procedures. -/
theorem noProcedures_of_start {epFd : Fd} {pluginAg : List RanFunction} {pluginRic : List SmRic}
    {req : E42SetupRequest}
    (h : (init epFd pluginAg pluginRic).e2apHandleE42SetupRequestXapp fd = some (req, x)) :
    XappState.NoProcedures x ∧ x.pluginRic = pluginRic := by
  obtain ⟨req', -, h⟩ := Option.bind_eq_some_iff.1 h
  obtain ⟨x₁, htimer, h⟩ := Option.bind_eq_some_iff.1 h
  obtain ⟨x₂, hadd, heq⟩ := Option.map_eq_some_iff.1 h
  cases heq
  obtain ⟨-, rfl⟩ := createTimer_eq_some.1 htimer
  obtain ⟨pending, -, rfl⟩ := Option.map_eq_some_iff.1 hadd
  exact ⟨⟨rfl, rfl⟩, rfl⟩

end E42Xapp

/-- The request that is generated and not sent yet. -/
def UiPc.starting : UiPc → Option UiRequest
  | start r => some r
  | _ => none

namespace XappState

variable {s t : XappState} {a : XappAction}

/-- The two threads keep what the xApp has from the setup response. -/
theorem Trans.const (h : s.Trans a t) : t.xapp.SameSetup s.xapp := by
  cases h with
  | begin hpc hreq =>
    obtain ⟨⟨p, rfl, -⟩, -⟩ := XappAction.request_eq_some hreq
    exact ⟨rfl, rfl, rfl⟩
  | response hpc hr hans hev =>
    obtain ⟨⟨p, rfl, -⟩, -⟩ := E42Xapp.eventOfProcedure_eq_some hev
    exact ⟨rfl, rfl, rfl⟩
  | indication hpc hind =>
    obtain ⟨y, ⟨p, rfl, -⟩, msgDisp, rfl⟩ := E42Xapp.e2apHandleIndicationXapp_eq_some hind
    exact ⟨rfl, rfl, rfl⟩
  | rmPending hpc hrm =>
    obtain ⟨fd, pending, -, -, rfl⟩ := E42Xapp.rmPendingEventXapp_eq_some hrm
    exact ⟨rfl, rfl, rfl⟩
  | _ => exact ⟨rfl, rfl, rfl⟩

/-- Without a message, a call does not begin and its request is neither sent nor answered. -/
theorem Trans.internal (h : s.Trans a t) (hint : (DispatchAction.thread a).isInternal = true) :
    t.outstanding = s.outstanding ∧ t.uiPc.starting = s.uiPc.starting ∧
      a.asks s.xapp = none := by
  cases h with
  | begin hpc hreq => cases a <;> cases hint <;> cases hreq
  | sendRequest => cases hint
  | response => cases hint
  | indication => cases hint
  | @wake q hpc hflag =>
    obtain ⟨call, id, serial⟩ := q
    rw [hpc]
    cases call <;> exact ⟨rfl, rfl, rfl⟩
  | createTimer hpc => exact ⟨rfl, by rw [hpc]; rfl, rfl⟩
  | addPending hpc => exact ⟨rfl, by rw [hpc]; rfl, rfl⟩
  | condWait hpc => exact ⟨rfl, by rw [hpc]; rfl, rfl⟩
  | deadline hpc => exact ⟨rfl, by rw [hpc]; rfl, rfl⟩
  | rmActProc hpc => exact ⟨rfl, by rw [hpc]; rfl, rfl⟩
  | rmPending => exact ⟨rfl, rfl, rfl⟩
  | signal => exact ⟨rfl, rfl, rfl⟩
  | timerExpiry => exact ⟨rfl, rfl, rfl⟩

/-- A call begins with its request. -/
theorem Trans.of_request (h : s.Trans a t) {call : UiCall} {id : RicGenId} {x : E42Xapp}
    (hreq : a.request s.xapp = some (call, some (id, x))) : s.uiPc = .idle ∧
      t.outstanding = s.outstanding ∧ t.uiPc = .start ⟨call, id, s.calls⟩ := by
  cases h with
  | begin hpc hreq' =>
    cases hreq.symm.trans hreq'
    exact ⟨hpc, rfl, rfl⟩
  | _ => cases hreq

/-- A response takes its request off the outstanding ones, and an indication takes none. -/
theorem key_perm_of_answer {ans : E2Answer} (he : s.Enabled (.e2Answer ans))
    (h : s.step (.e2Answer ans) = some t) : t.uiPc = s.uiPc ∧
      (s.outstanding.map UiRequest.key).Perm
        (ans.key.toList ++ t.outstanding.map UiRequest.key) := by
  obtain ⟨⟨out, x⟩, hhandle, rfl⟩ := Option.map_eq_some_iff.1 h
  rcases E42Xapp.e2apMsgHandleXapp_eq_some hhandle with
    ⟨kind, ev, hkind, rfl, -⟩ | ⟨ind, hkind, rfl, -⟩
  · obtain ⟨q, hq, hans⟩ := he.2 (by rw [hkind]; exact Option.some_ne_none kind)
    have hsome : (s.outstanding.find? fun r => r.answeredBy ans).isSome :=
      List.find?_isSome.2 ⟨q, hq, hans⟩
    obtain ⟨r, hr⟩ := Option.isSome_iff_exists.1 hsome
    have hkey : ans.key = some r.key :=
      UiRequest.answeredBy_iff.1 (by simpa using List.find?_some hr)
    have hperm := (List.perm_cons_erase (List.mem_of_find?_eq_some hr)).map UiRequest.key
    rw [hkey]
    simp only [hr]
    exact ⟨trivial, hperm⟩
  · have hkey : ans.key = none := congrArg (Option.map _) hkind
    rw [hkey]
    exact ⟨rfl, .refl _⟩

end XappState

namespace DispatchState

variable {s t : DispatchState} {a : DispatchAction}

theorem Trans.const (h : s.Trans a t) : t.ui.xapp.SameSetup s.ui.xapp := by
  cases h with
  | thread hstep he => exact (XappState.trans_of_step he hstep).const
  | indication hstep he => exact (XappState.trans_of_step he hstep).const
  | move ha hui => exact hui ▸ ⟨rfl, rfl, rfl⟩
  | smCb hcalling hcb hui => exact hui ▸ ⟨rfl, rfl, rfl⟩

theorem Trans.internal (h : s.Trans a t) (hint : a.isInternal = true)
    (tr : List (DispatchState × DispatchAction)) : t.ui.outstanding = s.ui.outstanding ∧
      t.ui.uiPc.starting = s.ui.uiPc.starting ∧
      XappState.asked (uiTrace ((s, a) :: tr)) = XappState.asked (uiTrace tr) := by
  cases h with
  | thread hstep he =>
    obtain ⟨hout, hstart, hasks⟩ := (XappState.trans_of_step he hstep).internal hint
    exact ⟨hout, hstart, List.filterMap_cons_none hasks⟩
  | indication => cases hint
  | move ha hui =>
    rw [hui]
    rcases ha with rfl | rfl <;> exact ⟨rfl, rfl, rfl⟩
  | smCb hcalling hcb hui =>
    rw [hui]
    exact ⟨rfl, rfl, rfl⟩

end DispatchState

/-- The message that the action takes. -/
def XappProcAction.taken : XappProcAction → Option XappMsg
  | receive msg => some msg
  | _ => none

namespace XappProc

/-! ## What a step can do -/

/-- The steps that go through, with the message that is sent and the state each one leads to. -/
inductive Trans (cfg : XappConfig) :
    XappProc → XappProcAction → Option E42Msg → XappProc → Prop
  | start {fd : Fd} {req : E42SetupRequest} {x : E42Xapp}
      (h : (E42Xapp.init cfg.epFd cfg.pluginAg cfg.pluginRic).e2apHandleE42SetupRequestXapp fd =
        some (req, x)) :
      Trans cfg off (.start fd) (some (.setupRequest req)) (connecting x)
  | setupTimer {x : E42Xapp} {fd : Fd} {req : E42SetupRequest} :
      Trans cfg (connecting x) (.setupTimer fd) (some (.setupRequest req)) (connecting x)
  | call {d d' : DispatchState} {draft : Option E42Msg} {a : ApiCall} {msg : E42Msg}
      (hdraft : d.ui.xapp.draft cfg a = some msg) (he : d.Enabled (.thread a.toThread))
      (h : d.step (.thread a.toThread) = some d') :
      Trans cfg (connected d draft) (.call a) none (connected d' (some msg))
  | send {d d' : DispatchState} {msg : E42Msg} (he : d.Enabled (.thread .sendRequest))
      (h : d.step (.thread .sendRequest) = some d') :
      Trans cfg (connected d (some msg)) .send (some msg) (connected d' none)
  | setupResponse {x y : E42Xapp} {resp : E42SetupResponse}
      (h : x.e2apHandleE42SetupResponseXapp resp = some y) :
      Trans cfg (connecting x) (.receive (.setupResponse resp)) none (connected (.init y) none)
  | secondResponse {d : DispatchState} {draft : Option E42Msg} {x : E42Xapp}
      {resp : E42SetupResponse} (h : d.ui.xapp.e2apHandleE42SetupResponseXapp resp = some x)
      (p : XappProc) : Trans cfg (connected d draft) (.receive (.setupResponse resp)) none p
  | early {x y : E42Xapp} {ans : E2Answer} {out : Option PendingEventXapp}
      (h : x.e2apMsgHandleXapp ans = some (out, y)) :
      Trans cfg (connecting x) (.receive (.answer ans)) none (connecting y)
  | answer {d d' : DispatchState} {draft : Option E42Msg} {ans : E2Answer}
      (hpc : d.ui.loopPc = .idle) (hpushing : d.pushing = none)
      (h : d.step ans.toDispatch = some d') :
      Trans cfg (connected d draft) (.receive (.answer ans)) none (connected d' draft)
  | turn {d d' : DispatchState} {draft : Option E42Msg} {a : DispatchAction}
      (hint : a.isInternal = true) (he : d.Enabled a) (h : d.step a = some d') :
      Trans cfg (connected d draft) (.turn a) none (connected d' draft)

variable {cfg : XappConfig} {p q : XappProc} {a : XappProcAction} {out : Option E42Msg}

/-- The inversion of `step`. -/
theorem trans_of_step (he : p.Enabled cfg a) (h : p.step cfg a = some (out, q)) :
    Trans cfg p a out q := by
  cases a with
  | start fd =>
    obtain ⟨rfl, -⟩ := he
    obtain ⟨⟨req, x⟩, hstart, heq⟩ := Option.map_eq_some_iff.1 h
    cases heq
    exact .start hstart
  | setupTimer fd =>
    obtain ⟨x, rfl, -⟩ := he
    obtain ⟨req, -, heq⟩ := Option.map_eq_some_iff.1 h
    cases heq
    exact .setupTimer
  | call a =>
    obtain ⟨d, m, rfl, hen⟩ := he
    obtain ⟨msg, hdraft, h⟩ := Option.bind_eq_some_iff.1 h
    obtain ⟨d', hstep, heq⟩ := Option.map_eq_some_iff.1 h
    cases heq
    exact .call hdraft hen hstep
  | send =>
    obtain ⟨d, m, rfl, hen⟩ := he
    obtain ⟨msg, rfl, h⟩ := Option.bind_eq_some_iff.1 h
    obtain ⟨d', hstep, heq⟩ := Option.map_eq_some_iff.1 h
    cases heq
    exact .send hen hstep
  | receive msg =>
    obtain ⟨hne, hidle⟩ := he
    cases p with
    | off => exact absurd rfl hne
    | connecting x =>
      cases msg with
      | setupResponse resp =>
        obtain ⟨y, hresp, heq⟩ := Option.map_eq_some_iff.1 h
        cases heq
        exact .setupResponse hresp
      | answer ans =>
        obtain ⟨⟨ev, y⟩, hans, heq⟩ := Option.map_eq_some_iff.1 h
        cases heq
        exact .early hans
    | connected d draft =>
      obtain ⟨hpc, hpushing⟩ := hidle d draft rfl
      cases msg with
      | setupResponse resp =>
        obtain ⟨x, hresp, heq⟩ := Option.map_eq_some_iff.1 h
        cases heq
        exact .secondResponse hresp _
      | answer ans =>
        obtain ⟨d', hstep, heq⟩ := Option.map_eq_some_iff.1 h
        cases heq
        exact .answer hpc hpushing hstep
  | turn a =>
    obtain ⟨hint, d, m, rfl, hen⟩ := he
    obtain ⟨d', hstep, heq⟩ := Option.map_eq_some_iff.1 h
    cases heq
    exact .turn hint hen hstep

/-! ## The invariant of a run -/

/-- The message is that of a call of the run. -/
def Drafted (cfg : XappConfig) (P : ApiCall → Prop) (tr : List (DispatchState × DispatchAction))
    (msg : E42Msg) : Prop :=
  ∃ s a, (s, .thread a.toThread) ∈ tr ∧ P a ∧ s.ui.xapp.draft cfg a = some msg

theorem Drafted.mono {P : ApiCall → Prop} {tr : List (DispatchState × DispatchAction)}
    {msg : E42Msg} (h : Drafted cfg P tr msg) (e : DispatchState × DispatchAction) :
    Drafted cfg P (e :: tr) msg := by
  obtain ⟨s, a, hmem, hrest⟩ := h
  exact ⟨s, a, List.mem_cons_of_mem _ hmem, hrest⟩

/-- What holds of the threads that have made the run `tr` since the setup response connected `x`,
when the xApp has sent `sent` and taken `taken`; `P` holds of its calls. -/
structure ConnectedInv (cfg : XappConfig) (P : ApiCall → Prop) (sent : List E42Msg)
    (taken : List XappMsg) (x : E42Xapp) (tr : List (DispatchState × DispatchAction))
    (d : DispatchState) (draft : Option E42Msg) : Prop where
  fresh : XappState.Fresh x
  noProcedures : XappState.NoProcedures x
  plugin : x.pluginRic = cfg.pluginRic
  /-- the id and the nodes are those of a setup response -/
  setup : ∃ resp, .setupResponse resp ∈ taken ∧ resp.xappId = x.id ∧
    ∀ e ∈ x.e2Nodes.nodeToRf.toList, ∃ node ∈ resp.nodes, node.id = e.1
  connected : x.connected = true
  run : (xappDispatch x).Run tr d
  const : d.ui.xapp.SameSetup x
  /-- the requests are those of the calls -/
  drafted : ∀ msg, msg ∈ draft.toList ∨ msg ∈ sent → msg.ask ≠ none → Drafted cfg P tr msg
  /-- they ask for what the calls ask for, with the id of the xApp -/
  asked : (draft.toList ++ sent.reverse).filterMap E42Msg.ask =
    (XappState.asked (DispatchState.uiTrace tr)).map fun q => (q.1.kind, ⟨q.2, x.id⟩)
  /-- the threads have taken the messages of the E2 nodes in this order -/
  answers : taken.filterMap XappMsg.answer? = tr.reverse.filterMap fun e => e.2.answer?
  /-- the indications are about requests -/
  knownIds : DispatchState.KnownIds tr
  /-- every request has its response or is outstanding -/
  balance : (sent.filterMap E42Msg.key).Perm
    (taken.filterMap XappMsg.key ++ d.ui.outstanding.map UiRequest.key)
  /-- the request that is going to be sent is that of the call -/
  draft : draft.map E42Msg.key = d.ui.uiPc.starting.map fun r => some r.key

/-- Where an xApp is that has sent `sent` and taken `taken`. -/
inductive RunInv (cfg : XappConfig) (P : ApiCall → Prop) (sent : List E42Msg)
    (taken : List XappMsg) : XappProc → Prop
  | off (hsent : sent = []) (htaken : taken = []) : RunInv cfg P sent taken off
  | connecting {x : E42Xapp} {fd : Fd} (hwaits : x.WaitsForSetup fd)
      (hx : XappState.NoProcedures x) (hplugin : x.pluginRic = cfg.pluginRic)
      (hsent : sent.filterMap E42Msg.ask = []) (htaken : taken.filterMap XappMsg.answer? = []) :
      RunInv cfg P sent taken (connecting x)
  | connected {x : E42Xapp} {tr : List (DispatchState × DispatchAction)} {d : DispatchState}
      {draft : Option E42Msg} (h : ConnectedInv cfg P sent taken x tr d draft) :
      RunInv cfg P sent taken (connected d draft)

variable {P : ApiCall → Prop} {sent : List E42Msg} {taken : List XappMsg} {x : E42Xapp}
  {tr : List (DispatchState × DispatchAction)} {d d' : DispatchState} {draft : Option E42Msg}

namespace ConnectedInv

/-- The threads of the setup response. -/
theorem init (hfresh : XappState.Fresh x) (hx : XappState.NoProcedures x)
    (hplugin : x.pluginRic = cfg.pluginRic) (hconn : x.connected = true)
    (hsetup : ∃ resp, .setupResponse resp ∈ taken ∧ resp.xappId = x.id ∧
      ∀ e ∈ x.e2Nodes.nodeToRf.toList, ∃ node ∈ resp.nodes, node.id = e.1)
    (hsent : sent.filterMap E42Msg.ask = []) (htaken : taken.filterMap XappMsg.answer? = []) :
    ConnectedInv cfg P sent taken x [] (.init x) none where
  fresh := hfresh
  noProcedures := hx
  plugin := hplugin
  setup := hsetup
  connected := hconn
  run := .nil
  const := ⟨rfl, rfl, rfl⟩
  drafted msg hmsg hask := by
    rcases hmsg with hmsg | hmsg
    · cases hmsg
    · obtain ⟨q, hq⟩ := Option.ne_none_iff_exists'.1 hask
      have hmem : q ∈ sent.filterMap E42Msg.ask := List.mem_filterMap.2 ⟨msg, hmsg, hq⟩
      rw [hsent] at hmem
      cases hmem
  asked := by
    show sent.reverse.filterMap E42Msg.ask = []
    rw [List.filterMap_reverse, hsent]
    rfl
  answers := htaken
  knownIds := trivial
  balance := by
    have hkeys : taken.filterMap XappMsg.key = [] := by
      show taken.filterMap (fun msg => msg.answer?.bind E2Answer.key) = []
      rw [← List.filterMap_filterMap, htaken]
      rfl
    rw [E42Msg.filterMap_key, hsent, hkeys]
    exact .nil
  draft := rfl

/-- A step of the threads, with what it does to the messages. -/
theorem cons (h : ConnectedInv cfg P sent taken x tr d draft) {a : DispatchAction}
    (he : d.Enabled a) (hstep : d.step a = some d') {sent' : List E42Msg} {taken' : List XappMsg}
    {draft' : Option E42Msg} (htaken : ∀ msg ∈ taken, msg ∈ taken')
    (hdrafted : ∀ msg, msg ∈ draft'.toList ∨ msg ∈ sent' → (msg ∈ draft.toList ∨ msg ∈ sent) ∨
      Drafted cfg P ((d, a) :: tr) msg)
    (hasked : (draft'.toList ++ sent'.reverse).filterMap E42Msg.ask =
      (XappState.asked (DispatchState.uiTrace ((d, a) :: tr))).map
        fun q => (q.1.kind, ⟨q.2, x.id⟩))
    (hanswers : taken'.filterMap XappMsg.answer? =
      taken.filterMap XappMsg.answer? ++ a.answer?.toList)
    (hknown : ∀ ind, a = .indication ind →
      ∃ v ∈ DispatchState.procs tr, v.call = .report ∧ v.id = ind.ricId)
    (hbalance : (sent'.filterMap E42Msg.key).Perm
      (taken'.filterMap XappMsg.key ++ d'.ui.outstanding.map UiRequest.key))
    (hdraft : draft'.map E42Msg.key = d'.ui.uiPc.starting.map fun r => some r.key) :
    ConnectedInv cfg P sent' taken' x ((d, a) :: tr) d' draft' where
  fresh := h.fresh
  noProcedures := h.noProcedures
  plugin := h.plugin
  setup := by
    obtain ⟨resp, hresp, hrest⟩ := h.setup
    exact ⟨resp, htaken _ hresp, hrest⟩
  connected := h.connected
  run := h.run.cons he hstep
  const := by
    have hsame := (DispatchState.trans_of_step he hstep).const
    exact ⟨hsame.id.trans h.const.id, hsame.e2Nodes.trans h.const.e2Nodes,
      hsame.connected.trans h.const.connected⟩
  drafted msg hmsg hask := by
    rcases hdrafted msg hmsg with hmsg | hmsg
    · exact (h.drafted msg hmsg hask).mono _
    · exact hmsg
  asked := hasked
  answers := by
    rw [hanswers, h.answers, List.reverse_cons, filterMap_concat]
  knownIds := ⟨hknown, h.knownIds⟩
  balance := hbalance
  draft := hdraft

/-- A step in which no message is sent or taken. -/
theorem turn (h : ConnectedInv cfg P sent taken x tr d draft) {a : DispatchAction}
    (hint : a.isInternal = true) (he : d.Enabled a) (hstep : d.step a = some d') :
    ConnectedInv cfg P sent taken x ((d, a) :: tr) d' draft := by
  obtain ⟨hout, hstart, hasked⟩ := (DispatchState.trans_of_step he hstep).internal hint tr
  refine h.cons he hstep (fun _ hmsg => hmsg) (fun _ hmsg => .inl hmsg) ?_ ?_ ?_ ?_ ?_
  · rw [hasked]
    exact h.asked
  · rw [DispatchAction.answer?_of_isInternal hint]
    exact (List.append_nil _).symm
  · rintro ind rfl
    cases hint
  · rw [hout]
    exact h.balance
  · rw [hstart]
    exact h.draft

/-- A call begins. -/
theorem call (h : ConnectedInv cfg P sent taken x tr d draft) {a : ApiCall} {msg : E42Msg}
    (hdraft : d.ui.xapp.draft cfg a = some msg) (hP : P a) (he : d.Enabled (.thread a.toThread))
    (hstep : d.step (.thread a.toThread) = some d') :
    ConnectedInv cfg P sent taken x ((d, .thread a.toThread) :: tr) d' (some msg) := by
  obtain ⟨call, id, y, hreq, hask, -⟩ := E42Xapp.draft_eq_some hdraft
  rw [h.const.id] at hask
  obtain ⟨ui, hui, rfl⟩ := Option.map_eq_some_iff.1 hstep
  obtain ⟨hidle, hout, hpc⟩ := (XappState.trans_of_step he.1 hui).of_request hreq
  have hasks : a.toThread.asks d.ui.xapp = some (call, id) := by
    rw [XappAction.asks, hreq]
    rfl
  have hnone : draft = none := by
    have hstart := h.draft
    rw [hidle] at hstart
    exact Option.map_eq_none_iff.1 hstart
  have hasked := h.asked
  rw [hnone] at hasked
  refine h.cons he hstep (fun _ hmsg => hmsg) ?_ ?_ ?_ ?_ ?_ ?_
  · rintro msg' (hmsg | hmsg)
    · cases Option.mem_toList.1 hmsg
      exact .inr ⟨d, a, List.mem_cons_self, hP, hdraft⟩
    · exact .inl (.inr hmsg)
  · have hcons : XappState.asked (DispatchState.uiTrace ((d, .thread a.toThread) :: tr)) =
        (call, id) :: XappState.asked (DispatchState.uiTrace tr) :=
      List.filterMap_cons_some hasks
    rw [hcons, List.map_cons, ← hasked]
    exact List.filterMap_cons_some hask
  · have hnot : (DispatchAction.thread a.toThread).answer? = none := by cases a <;> rfl
    rw [hnot]
    exact (List.append_nil _).symm
  · intro ind hind
    cases hind
  · show (sent.filterMap E42Msg.key).Perm (_ ++ ui.outstanding.map UiRequest.key)
    rw [hout]
    exact h.balance
  · show some msg.key = ui.uiPc.starting.map fun r => some r.key
    rw [hpc, E42Msg.key, hask, Option.map_some, UiCall.eventXapp_kind]
    rfl

/-- The request of a call is sent. -/
theorem send {msg : E42Msg} (h : ConnectedInv cfg P sent taken x tr d (some msg))
    (he : d.Enabled (.thread .sendRequest)) (hstep : d.step (.thread .sendRequest) = some d') :
    ConnectedInv cfg P (sent ++ [msg]) taken x ((d, .thread .sendRequest) :: tr) d' none := by
  obtain ⟨ui, hui, rfl⟩ := Option.map_eq_some_iff.1 hstep
  have htrans : ∃ r, d.ui.uiPc = .start r ∧ ui.outstanding = r :: d.ui.outstanding ∧
      ui.uiPc = .sent r := by
    cases XappState.trans_of_step he.1 hui with
    | begin hpc hreq => cases hreq
    | sendRequest hpc => exact ⟨_, hpc, rfl, rfl⟩
  obtain ⟨r, hpc, hout, hpc'⟩ := htrans
  have hkey : msg.key = some r.key := by
    have hdraft := h.draft
    rw [hpc] at hdraft
    exact Option.some.inj hdraft
  refine h.cons he hstep (fun _ hmsg => hmsg) ?_ ?_ (List.append_nil _).symm nofun ?_ ?_
  · rintro msg' (hmsg | hmsg)
    · cases hmsg
    · rcases List.mem_append.1 hmsg with hmsg | hmsg
      · exact .inl (.inr hmsg)
      · cases List.mem_singleton.1 hmsg
        exact .inl (.inl (List.mem_singleton_self _))
  · rw [List.reverse_append]
    exact h.asked
  · show ((sent ++ [msg]).filterMap E42Msg.key).Perm (_ ++ ui.outstanding.map UiRequest.key)
    rw [hout, filterMap_concat, hkey]
    exact (h.balance.append_right _).trans (List.perm_append_singleton _ _ |>.trans
      List.perm_middle.symm)
  · show none = ui.uiPc.starting.map fun r => some r.key
    rw [hpc']
    rfl

theorem mem_asked (h : ConnectedInv cfg P sent taken x tr d draft) {q : FwdKind × XappRicId}
    (hq : q ∈ sent.filterMap E42Msg.ask) : ∃ r ∈ XappState.asked (DispatchState.uiTrace tr),
      q = (r.1.kind, ⟨r.2, x.id⟩) := by
  have hmem : q ∈ (draft.toList ++ sent.reverse).filterMap E42Msg.ask := by
    rw [List.filterMap_append, List.filterMap_reverse]
    exact List.mem_append_right _ (List.mem_reverse.2 hq)
  rw [h.asked] at hmem
  obtain ⟨r, hr, rfl⟩ := List.mem_map.1 hmem
  exact ⟨r, hr, rfl⟩

/-- The requests have the id of the xApp. -/
theorem xappId_eq (h : ConnectedInv cfg P sent taken x tr d draft) {q : FwdKind × XappRicId}
    (hq : q ∈ sent.filterMap E42Msg.ask) : q.2.xappId = x.id := by
  obtain ⟨r, -, rfl⟩ := h.mem_asked hq
  rfl

/-- A subscription request that was sent is that of a report. -/
theorem exists_report (h : ConnectedInv cfg P sent taken x tr d draft) {id : XappRicId}
    (hq : (.request .subscription, id) ∈ sent.filterMap E42Msg.ask) :
    ∃ v ∈ DispatchState.procs tr, v.call = .report ∧ v.id = id.ricId := by
  obtain ⟨⟨call, id⟩, hasked, heq⟩ := h.mem_asked hq
  cases call with
  | report =>
    obtain ⟨v, hv, hcall, hid⟩ := XappState.entered_of_mem_asked hasked nofun
    exact ⟨v, hv, hcall, hid.trans (congrArg (fun q => q.2.ricId) heq).symm⟩
  | rmReport => cases congrArg Prod.fst heq
  | control => cases congrArg Prod.fst heq

/-- The threads can take a message of an E2 node, if a response is one to a request without. -/
theorem enabled_answer (h : ConnectedInv cfg P sent taken x tr d draft) {ans : E2Answer}
    (hpc : d.ui.loopPc = .idle) (hpushing : d.pushing = none)
    (hcount : ∀ key, ans.key = some key →
      (taken.filterMap XappMsg.key).count key < (sent.filterMap E42Msg.key).count key) :
    d.ui.Enabled (.e2Answer ans) ∧ d.Enabled ans.toDispatch := by
  have hguard : ans.eventXapp ≠ none → ∃ r ∈ d.ui.outstanding, r.answeredBy ans = true := by
    intro hne
    obtain ⟨ev, hev⟩ := Option.ne_none_iff_exists'.1 hne
    have hkey : ans.key = some (ev, ans.ricId) := congrArg (Option.map _) hev
    have hlt := hcount _ hkey
    rw [h.balance.count_eq, List.count_append] at hlt
    have hmem : (ev, ans.ricId) ∈ d.ui.outstanding.map UiRequest.key :=
      List.count_pos_iff.1 (by omega)
    obtain ⟨r, hr, heq⟩ := List.mem_map.1 hmem
    exact ⟨r, hr, UiRequest.answeredBy_iff.2 (heq ▸ hkey)⟩
  have hui : d.ui.Enabled (.e2Answer ans) := ⟨hpc, hguard⟩
  refine ⟨hui, ?_⟩
  cases ans with
  | indication ind => exact ⟨hui, hpushing⟩
  | _ => exact ⟨hui, rfl, fun _ => hpushing⟩

/-- A message of an E2 node is taken. It is about a request that was sent, and a response only if
there is a request without. -/
theorem answer (h : ConnectedInv cfg P sent taken x tr d draft) {ans : E2Answer}
    (hpc : d.ui.loopPc = .idle) (hpushing : d.pushing = none)
    (hsent : ∃ q ∈ sent.filterMap E42Msg.ask, q.2.ricId = ans.ricId ∧
      (ans.key = none → q.1 = .request .subscription))
    (hcount : ∀ key, ans.key = some key →
      (taken.filterMap XappMsg.key).count key < (sent.filterMap E42Msg.key).count key)
    (hstep : d.step ans.toDispatch = some d') :
    ConnectedInv cfg P sent (taken ++ [.answer ans]) x ((d, ans.toDispatch) :: tr) d' draft := by
  obtain ⟨hui, hen⟩ := h.enabled_answer hpc hpushing hcount
  have hstep' : d.ui.step (.e2Answer ans) = some d'.ui := by
    cases ans <;> obtain ⟨ui, hthread, rfl⟩ := Option.map_eq_some_iff.1 hstep <;> exact hthread
  obtain ⟨hpc', hperm⟩ := XappState.key_perm_of_answer hui hstep'
  refine h.cons hen hstep (fun _ hmsg => List.mem_append_left _ hmsg) (fun _ hmsg => .inl hmsg)
    ?_ ?_ ?_ ?_ ?_
  · have hsame : XappState.asked (DispatchState.uiTrace ((d, ans.toDispatch) :: tr)) =
        XappState.asked (DispatchState.uiTrace tr) := by
      cases ans <;> rfl
    rw [hsame]
    exact h.asked
  · rw [filterMap_concat, E2Answer.answer?_toDispatch]
    rfl
  · intro ind hind
    cases ans <;> cases hind
    obtain ⟨⟨kind, id⟩, hq, hid, hkind⟩ := hsent
    cases hkind rfl
    obtain ⟨v, hv, hcall, hvid⟩ := h.exists_report hq
    exact ⟨v, hv, hcall, hvid.trans hid⟩
  · rw [filterMap_concat, List.append_assoc]
    exact h.balance.trans (hperm.append_left _)
  · rw [hpc']
    exact h.draft

end ConnectedInv

/-- What a step keeps, if the messages of the E2 nodes are about requests that were sent and a
response answers one that has no response. -/
theorem RunInv.step (h : RunInv cfg P sent taken p) (ht : Trans cfg p a out q)
    (hcall : ∀ c, a = .call c → P c)
    (hanswer : ∀ ans, a = .receive (.answer ans) →
      (∃ q ∈ sent.filterMap E42Msg.ask, q.2.ricId = ans.ricId ∧
        (ans.key = none → q.1 = .request .subscription)) ∧
      ∀ key, ans.key = some key →
        (taken.filterMap XappMsg.key).count key < (sent.filterMap E42Msg.key).count key) :
    RunInv cfg P (sent ++ out.toList) (taken ++ a.taken.toList) q := by
  cases ht with
  | start hstart =>
    cases h with
    | off hnone hnone' =>
      obtain ⟨hwaits, -⟩ := E42Xapp.waitsForSetup_of_start hstart
      obtain ⟨hx, hplugin⟩ := E42Xapp.noProcedures_of_start hstart
      subst hnone hnone'
      exact .connecting hwaits hx hplugin rfl rfl
  | @setupTimer x fd req =>
    cases h with
    | connecting hwaits hx hplugin hnone hnone' =>
      have hsent := (filterMap_concat E42Msg.ask sent (.setupRequest req)).trans
        (congrArg (· ++ []) hnone)
      show RunInv cfg P (sent ++ [_]) (taken ++ []) _
      rw [List.append_nil]
      exact .connecting hwaits hx hplugin hsent hnone'
  | call hdraft he hstep =>
    cases h with
    | connected h =>
      show RunInv cfg P (sent ++ []) (taken ++ []) _
      rw [List.append_nil, List.append_nil]
      exact .connected (h.call hdraft (hcall _ rfl) he hstep)
  | send he hstep =>
    cases h with
    | connected h =>
      show RunInv cfg P (sent ++ [_]) (taken ++ []) _
      rw [List.append_nil]
      exact .connected (h.send he hstep)
  | @setupResponse x y resp hresp =>
    cases h with
    | connecting hwaits hx hplugin hnone hnone' =>
      obtain ⟨hfresh, hnew, hsame, hid, hconn, hnodes⟩ := hwaits.fresh hx hresp
      have htaken := (filterMap_concat XappMsg.answer? taken (.setupResponse resp)).trans
        (congrArg (· ++ []) hnone')
      show RunInv cfg P (sent ++ []) (taken ++ [_]) _
      rw [List.append_nil]
      exact .connected (.init hfresh hnew (hsame.trans hplugin) hconn
        ⟨_, List.mem_append_right _ (List.mem_singleton_self _), hid.symm, hnodes⟩ hnone htaken)
  | secondResponse hresp =>
    cases h with
    | connected h =>
      have hconn := h.const.connected.trans h.connected
      rw [E42Xapp.e2apHandleE42SetupResponseXapp_of_connected hconn] at hresp
      cases hresp
  | early hans =>
    cases h with
    | connecting hwaits hx hplugin hnone =>
      obtain ⟨⟨q, hq, -⟩, -⟩ := hanswer _ rfl
      rw [hnone] at hq
      cases hq
  | answer hpc hpushing hstep =>
    cases h with
    | connected h =>
      obtain ⟨hsent, hcount⟩ := hanswer _ rfl
      show RunInv cfg P (sent ++ []) (taken ++ [_]) _
      rw [List.append_nil]
      exact .connected (h.answer hpc hpushing hsent hcount hstep)
  | turn hint he hstep =>
    cases h with
    | connected h =>
      show RunInv cfg P (sent ++ []) (taken ++ []) _
      rw [List.append_nil, List.append_nil]
      exact .connected (h.turn hint he hstep)

end XappProc

end FlexRic
