import FlexRic.Net.XappCooperation

/-!
# No assertion fails in the whole system

When the applications, the RAN and the kernel cooperate, all programs go on: nothing that can happen
makes an assertion fail, in the xApps, in the near-RIC or in an agent.
-/

namespace FlexRic

/-- An xApp with service models starts. -/
theorem E42Xapp.start_ne_none {epFd fd : Fd} {pluginAg : List RanFunction} {pluginRic : List SmRic}
    (hplugins : pluginAg ≠ [] ∧ pluginAg.length = pluginRic.length) (hpos : 0 < fd)
    (hfd : fd ≠ epFd) :
    (init epFd pluginAg pluginRic).e2apHandleE42SetupRequestXapp fd ≠ none := by
  have hlen : 0 < pluginAg.length ∧ pluginAg.length = pluginRic.length :=
    ⟨List.length_pos_of_ne_nil hplugins.1, hplugins.2⟩
  have hreq : (init epFd pluginAg pluginRic).generateE42SetupRequest = some ⟨pluginAg⟩ :=
    if_pos hlen
  have hio : fd ∉ (init epFd pluginAg pluginRic).io := fun hmem => hfd (List.mem_singleton.1 hmem)
  rw [e2apHandleE42SetupRequestXapp, hreq, Option.bind_some,
    createTimer_eq_some.2 ⟨⟨hpos, hio⟩, rfl⟩]
  simp [addPendingEvent, PendingEventXappDs.add, hpos]

/-- A control acknowledgement that was delivered reports success. -/
theorem NetState.NetInv.status_of_delivered {ι : Type} [DecidableEq ι] {N : E2Network ι}
    {s : NetState ι} {n : ℕ} (h : s.NetInv N n) (hn : n < 64515) {d : Delivery}
    (hd : d ∈ s.ric.delivered) {ack : RicControlAcknowledge}
    (hmsg : d.msg = .controlAcknowledge ack) : ack.status = .success := by
  have hroute := h.routeInv hn
  have hreceived : d.ans ∈ s.ric.received := by
    rw [hroute.received]
    exact List.mem_append_right _ (List.mem_map_of_mem hd)
  obtain ⟨i, htaken⟩ := h.exists_taken hreceived
  have hanswers := h.up.answer i d.ans (Channels.mem_all_of_taken htaken)
  obtain ⟨r, -, -, -, heq⟩ := hroute.delivered d hd
  rw [hmsg] at heq
  cases hans : d.ans with
  | controlAcknowledge m =>
    rw [hans] at heq hanswers
    obtain ⟨cr, -, rfl⟩ := hanswers
    cases heq
    rfl
  | _ =>
    rw [hans] at heq
    cases heq

namespace XappProc.ConnectedInv

variable {cfg : XappConfig} {P : ApiCall → Prop} {sent : List E42Msg} {taken : List XappMsg}
  {x : E42Xapp} {tr : List (DispatchState × DispatchAction)} {d : DispatchState}
  {draft : Option E42Msg}

/-- A step of the threads goes through, if an indication is about a report. -/
theorem step_ne_none (h : ConnectedInv cfg P sent taken x tr d draft) {a : DispatchAction}
    (htime : d.ui.uiPc.InTime) (he : d.Enabled a) (hcoop : d.Cooperates a)
    (hind : ∀ ind, a = .indication ind →
      ∃ v ∈ DispatchState.procs tr, v.call = .report ∧ v.id = ind.ricId) : d.step a ≠ none :=
  DispatchState.step_ne_none h.fresh h.noProcedures h.run h.knownIds htime he hcoop hind

/-- A call that the application may make begins. -/
theorem call_ne_none (h : ConnectedInv cfg P sent taken x tr d draft) {c : ApiCall}
    (htime : d.ui.uiPc.InTime) (he : d.Enabled (.thread c.toThread))
    (hcan : d.ui.xapp.CanCall c.toThread) (hfits : c.Fits) :
    (XappProc.connected d draft).step cfg (.call c) ≠ none := by
  have hwf := (XappState.procInv_run h.noProcedures (DispatchState.uiSteps h.run)).wf
  obtain ⟨msg, hmsg⟩ := Option.ne_none_iff_exists'.1 (hcan.draft_ne_none hwf cfg hfits)
  have hcoop : d.Cooperates (.thread c.toThread) := by cases c <;> exact hcan
  have hstep := h.step_ne_none htime he hcoop nofun
  rw [XappProc.step, hmsg, Option.bind_some]
  exact mt Option.map_eq_none_iff.1 hstep

/-- The request of a call is sent. -/
theorem send_ne_none (h : ConnectedInv cfg P sent taken x tr d draft) (htime : d.ui.uiPc.InTime)
    (he : d.Enabled (.thread .sendRequest)) :
    (XappProc.connected d draft).step cfg .send ≠ none := by
  have hdraft := h.draft
  obtain ⟨r, hpc⟩ := he.1
  rw [hpc] at hdraft
  obtain ⟨msg, rfl, -⟩ := Option.map_eq_some_iff.1 hdraft
  exact mt Option.map_eq_none_iff.1 (h.step_ne_none htime he trivial nofun)

end XappProc.ConnectedInv

namespace TierState

variable {κ ι : Type} [DecidableEq κ] [DecidableEq ι] {N : XappNetwork κ ι} {s : TierState κ ι}
  {a : TierAction κ ι} {k : κ}

namespace CoopInv

/-- An xApp goes on when it takes no message. -/
theorem xapp_ne_none (h : s.CoopInv N) (hinv : s.TierInv N) (hN : N.Deployable)
    {b : XappProcAction} (hb : b.taken = none) (he : (s.xapp k).Enabled (N.xapp k) b)
    (hguard : s.Cooperates N (.xapp k b)) : (s.xapp k).step (N.xapp k) b ≠ none := by
  generalize hp : s.xapp k = q at he
  cases b with
  | start fd =>
    obtain ⟨-, hpos, hfd⟩ := he
    exact mt Option.map_eq_none_iff.1 (E42Xapp.start_ne_none (hN.plugins k) hpos hfd)
  | setupTimer fd => exact hguard.elim
  | call c =>
    obtain ⟨d, draft, rfl, hen⟩ := he
    obtain ⟨x, tr, hconn⟩ := hinv.connectedInv hp
    have hmay := hguard d draft hp
    exact hconn.call_ne_none (h.time k d draft hp) hen hmay.can hmay.fits
  | send =>
    obtain ⟨d, draft, rfl, hen⟩ := he
    obtain ⟨x, tr, hconn⟩ := hinv.connectedInv hp
    exact hconn.send_ne_none (h.time k d draft hp) hen
  | receive msg => cases hb
  | turn c =>
    obtain ⟨hint, d, draft, rfl, hen⟩ := he
    obtain ⟨x, tr, hconn⟩ := hinv.connectedInv hp
    apply mt Option.map_eq_none_iff.1
    apply hconn.step_ne_none (h.time k d draft hp) hen (hguard d draft hp)
    rintro ind rfl
    cases hint

/-- A connected xApp gets no setup response. -/
theorem not_setupResponse (h : s.CoopInv N) (hinv : s.TierInv N) {d : DispatchState}
    {draft : Option E42Msg} (hp : s.xapp k = .connected d draft) {resp : E42SetupResponse} :
    (k, .setupResponse resp) ∉ s.toXapp.flight := by
  intro hmem
  obtain ⟨x, tr, hconn⟩ := hinv.connectedInv hp
  obtain ⟨resp', hresp', -⟩ := hconn.setup
  have htaken : 0 < (Channels.on k s.toXapp.taken).countP XappMsg.isSetup :=
    List.countP_pos_iff.2 ⟨_, hresp', rfl⟩
  have hflight : 0 < (Channels.on k s.toXapp.flight).countP XappMsg.isSetup :=
    List.countP_pos_iff.2 ⟨_, Channels.mem_on.2 hmem, rfl⟩
  have hresponses := h.responses k
  have hsetup := h.setup k
  rw [Channels.sent_eq, List.countP_append] at hresponses hsetup
  omega

/-- A message of an E2 node is one that the threads can take. -/
theorem cooperates_of_answer (h : s.CoopInv N) (hinv : s.TierInv N) (hn : s.requests < 64515)
    {d : DispatchState} {draft : Option E42Msg} (hp : s.xapp k = .connected d draft)
    {ans : E2Answer} (hmem : (k, .answer ans) ∈ s.toXapp.flight) :
    d.Cooperates ans.toDispatch := by
  obtain ⟨x, tr, hconn⟩ := hinv.connectedInv hp
  have hnet := hinv.netInv hn
  have hans : ans ∈ (s.toXapp.sent k).filterMap XappMsg.answer? :=
    List.mem_filterMap.2 ⟨.answer ans,
      Channels.mem_sent.2 (Channels.mem_all_of_flight hmem), rfl⟩
  obtain ⟨e, he, -, hmsg⟩ := hinv.mem_answers.1 hans
  cases ans with
  | controlAcknowledge ack => exact hnet.status_of_delivered hn he hmsg
  | indication ind =>
    intro sm hsm
    have hproc := XappState.procInv_run hconn.noProcedures (DispatchState.uiSteps hconn.run)
    rw [hproc.plugin, hconn.plugin] at hsm
    obtain ⟨ind', hind, heq⟩ := (hnet.routeInv hn).ans_of_indication he hmsg
    obtain ⟨q, -, sr, htaken, -⟩ := hnet.exists_subscription hn he hind
    rw [heq]
    exact h.published _ _ (Channels.mem_all_of_taken htaken) k sm hsm _
  | _ => trivial

/-- An xApp goes on with every message that it takes. -/
theorem xappReceive_ne_none (h : s.CoopInv N) (hinv : s.TierInv N) (hn : s.requests < 64515)
    {msg : XappMsg} {toXapp : Channels κ XappMsg}
    (hrecv : s.toXapp.receive k = some (msg, toXapp))
    (he : (s.xapp k).Enabled (N.xapp k) (.receive msg)) :
    (s.xapp k).step (N.xapp k) (.receive msg) ≠ none := by
  have hflight := Channels.mem_flight_of_receive hrecv
  obtain ⟨hne, hidle⟩ := he
  cases hp : s.xapp k with
  | off => exact absurd hp hne
  | connecting x =>
    have hxapp := hinv.xapp k
    rw [hp] at hxapp
    cases hxapp with
    | connecting hwaits _ _ hnone =>
      cases msg with
      | setupResponse resp =>
        have hset := hinv.setup k resp (Channels.mem_all_of_flight hflight)
        obtain ⟨y, hy, -⟩ := hwaits.exists_setupResponse hset.adds
        rw [XappProc.step, hy]
        exact Option.some_ne_none _
      | answer ans =>
        obtain ⟨⟨q, hq, -⟩, -⟩ := hinv.answers_request hn hrecv
        rw [hnone] at hq
        cases hq
  | connected d draft =>
    cases msg with
    | setupResponse resp => exact absurd hflight (h.not_setupResponse hinv hp)
    | answer ans =>
      obtain ⟨x, tr, hconn⟩ := hinv.connectedInv hp
      obtain ⟨hpc, hpushing⟩ := hidle d draft hp
      obtain ⟨⟨q, hq, hid, hkind⟩, hcount⟩ := hinv.answers_request hn hrecv
      obtain ⟨-, hen⟩ := hconn.enabled_answer hpc hpushing hcount
      apply mt Option.map_eq_none_iff.1
      refine hconn.step_ne_none (h.time k d draft hp) hen
        (h.cooperates_of_answer hinv hn hp hflight) ?_
      rintro ind hind
      cases ans <;> cases hind
      obtain ⟨kind, id⟩ := q
      cases hkind rfl
      obtain ⟨v, hv, hcall, hvid⟩ := hconn.exists_report hq
      exact ⟨v, hv, hcall, hvid.trans hid⟩

end CoopInv

end TierState

end FlexRic
