import FlexRic.Net.Serving

/-!
# No assertion fails

When the parties outside of the programs cooperate, the programs go on: nothing that can happen in
the network makes an assertion fail, in the near-RIC or in an agent.
-/

namespace FlexRic

namespace NetState

variable {ι : Type} [DecidableEq ι]

/-- What holds of a network whose parties cooperate, when `n` ids were given out. -/
structure CooperationInv (N : E2Network ι) (n : ℕ) (s : NetState ι) : Prop where
  net : s.NetInv N n
  setup : s.SetupInv N
  serve : s.ServeInv N
  life : s.LifeInv N

variable {N : E2Network ι} {n : ℕ} {s : NetState ι}

theorem CooperationInv.step {t : NetState ι} (h : s.CooperationInv N n) (hN : N.Deployable)
    {a : NetAction ι} (hn : n + (givesId a).toNat < 64515) (hguard : s.Cooperates N a)
    (ht : s.Trans N a t) : t.CooperationInv N (n + (givesId a).toNat) := by
  obtain ⟨hnet, hsetup, hserve, hlife⟩ := h
  have hlt : n < 64515 := by omega
  exact ⟨hnet.step hn hguard.xappGuard ht, hsetup.step hN hnet hlt hguard ht,
    hserve.step hN hnet hguard ht, hlife.step hN hsetup hnet hlt hguard ht⟩

theorem cooperationInv_run (hN : N.Deployable) {tr : List (NetState ι × NetAction ι)}
    (h : ((e2Network N).restrict (Cooperates N)).Run tr s) (hn : requests tr < 64515) :
    s.CooperationInv N (requests tr) := by
  induction h with
  | nil => exact ⟨netInv_init N, setupInv_init N, serveInv_init N, lifeInv_init N⟩
  | @cons tr t u a _ he ht ih =>
    rw [requests_cons] at hn ⊢
    exact (ih (by omega)).step hN hn he.2 (trans_of_step he.1 ht)

namespace CooperationInv

theorem reqIdInv (h : s.CooperationInv N n) (hn : n < 64515) : s.ric.ReqIdInv n := by
  obtain ⟨tr, hrun, rfl, -⟩ := h.net.run
  exact RicState.reqIdInv_run (System.steps_restrict.1 hrun).1 (Nat.le_of_lt hn)

/-- The events of the outstanding requests are pending. -/
theorem pending (h : s.CooperationInv N n) {ev : PendingEventRic} (hev : ev ∈ s.ric.outstanding) :
    ev ∈ s.ric.ric.pending.toList.map Prod.snd := by
  obtain ⟨tr, hrun, -, hout⟩ := h.net.run
  have hinv := RicState.outstandingInv_run (System.steps_restrict.1 hrun).1 hout
  exact hinv.mem_iff.2 (List.mem_append_right _ hev)

/-- An xApp is set up. -/
theorem setupXapp (h : s.CooperationInv N n) (hN : N.Deployable) {req : E42SetupRequest}
    {src : SctpInfo} (hguard : s.Cooperates N (.ric (.e42SetupRequest req src))) :
    s.ric.step (.e42SetupRequest req src) ≠ none := by
  obtain ⟨hreq, hids, hne, hlen⟩ := hguard
  rw [registered, List.length_map] at hlen
  obtain ⟨nodes, hnodes⟩ : ∃ nodes, s.ric.iapp.e2Nodes.generateE2NodeArr = some nodes :=
    ⟨_, RegE2Nodes.generateE2NodeArr_eq_some.2 ⟨hlen, rfl⟩⟩
  have hperm := RegE2Nodes.perm_generateE2NodeArr hnodes
  have henc : Iapp.encodableE42SetupResponse ⟨s.ric.iapp.xappId.toUInt16, nodes⟩ := by
    rw [Iapp.encodableE42SetupResponse, Bool.and_eq_true]
    constructor
    · refine decide_eq_true fun (hnil : nodes = []) => hne ?_
      rw [hnil] at hperm
      rw [registered, List.map_eq_nil_iff]
      exact List.map_eq_nil_iff.1 (List.nil_perm.1 hperm)
    · refine List.all_eq_true.2 fun e he => ?_
      obtain ⟨e', he', rfl⟩ := List.mem_map.1 (hperm.mem_iff.1 he)
      obtain ⟨i, hi, -⟩ := h.setup.nodes _ (List.mem_map_of_mem he')
      rcases hN.type_cases i with (htype | htype) | ⟨htype | htype, -⟩ <;> simp [hi, htype]
  have hfresh := (RicState.xappInv_reachable h.net.reachable).fresh hids
  obtain ⟨r, hset⟩ : ∃ r, s.ric.iapp.setupXapp req src = some r :=
    ⟨_, Iapp.setupXapp_eq_some.2 ⟨⟨rfl, hfresh, rfl⟩, hreq, hnodes, henc⟩⟩
  rw [RicState.step, RicState.setupXapp, hset]
  exact Option.some_ne_none _

/-- The steps of the near-RIC that are its own. -/
theorem ric_ne_none (h : s.CooperationInv N n) (hN : N.Deployable) (hn : n < 64515)
    {a : RicAction} (hint : a.isInternal = true) (he : s.ric.Enabled a)
    (hguard : s.Cooperates N (.ric a)) : s.ric.step a ≠ none := by
  cases a with
  | e42SetupRequest req src => exact h.setupXapp hN hguard
  | e42RicRequest => cases hint
  | e42RicSubscriptionDeleteRequest req src =>
    obtain ⟨r, hlive⟩ := hguard.2
    exact RicState.acceptDelete_ne_none h.net.reachable he hlive
  | createTimer fd =>
    obtain ⟨⟨r, hpc⟩, hpos, hfd⟩ := he
    rw [RicState.step, hpc]
    exact mt Option.map_eq_none_iff.1
      (Option.ne_none_iff_exists'.2 ⟨_, NearRic.createTimer_eq_some.2 ⟨⟨hpos, hfd⟩, rfl⟩⟩)
  | insertPending =>
    obtain ⟨r, fd, hpc⟩ := he
    rw [RicState.step, hpc]
    exact Option.some_ne_none _
  | sendRequest => cases hint
  | addMapRicId =>
    obtain ⟨r, hpc⟩ := he
    exact RicState.addMapRicId_ne_none hpc (h.reqIdInv hn).nodup
  | e2SetupRequest => cases hint
  | e2Answer => cases hint
  | findXapp => exact (h.net.routeInv hn).findXapp_ne_none (h.reqIdInv hn) he
  | sendAnswer => exact (h.net.routeInv hn).sendAnswer_ne_none he
  | timerExpiry => exact hguard.elim

/-- A request goes out to its node. -/
theorem sendRequest_ne_none (h : s.CooperationInv N n) {i : ι}
    (he : s.Enabled N (.sendRequest i)) : s.step N (.sendRequest i) ≠ none := by
  obtain ⟨r, hpc, -⟩ := he
  have hr : r ∈ s.ric.iappPc.current := by simp [hpc, IappPc.current]
  obtain ⟨dst, hdst⟩ := h.setup.address.current r hr
  obtain ⟨-, hcontent⟩ := h.net.forward.current r hr
  obtain ⟨msg, hmsg⟩ : ∃ msg, r.message s.content = some msg := by
    cases hkind : r.kind with
    | request kind =>
      obtain ⟨c, hc, -⟩ := hcontent kind hkind
      exact ⟨c.forward r.ricId, by rw [Fwd.message, hkind, hc]; rfl⟩
    | subscriptionDelete => exact ⟨_, by rw [Fwd.message, hkind]⟩
  simp [NetState.step, hpc, RicState.step, hdst, hmsg]

/-- The near-RIC takes a message of a node. -/
theorem ricReceive_ne_none (h : s.CooperationInv N n) (hN : N.Deployable) {i : ι}
    (he : s.Enabled N (.ricReceive i)) : s.step N (.ricReceive i) ≠ none := by
  obtain ⟨-, m, hmem⟩ := he
  obtain ⟨msg, up, hup⟩ := Channels.exists_receive hmem
  have hflight := Channels.mem_flight_of_receive hup
  rw [NetState.step, hup, Option.bind_some]
  cases msg with
  | setupRequest req =>
    obtain ⟨rfl, hnew⟩ := h.setup.request i req hflight
    obtain ⟨nodes, hadd⟩ : ∃ nodes, s.ric.iapp.e2Nodes.add (N.setupRequest i).id
        (N.setupRequest i).ranFuncItem = some nodes := by
      refine ⟨_, RegE2Nodes.add_eq_some.2 ⟨⟨?_, fun e he => ?_⟩, rfl⟩⟩
      · exact fun hnil => hN.sms i (List.map_eq_nil_iff.1 hnil)
      · obtain ⟨j, hj, -⟩ := h.setup.nodes _ (List.mem_map_of_mem he)
        rw [hj]
        refine Bool.eq_false_iff.2 fun heq => hnew ?_
        cases N.distinct i j heq
        exact hj ▸ List.mem_map_of_mem he
    have hid : (N.setupRequest i).id.type.isMonolithic = false →
        (N.setupRequest i).id.cuDuId.isSome := by
      rcases hN.type_cases i with (htype | htype) | ⟨-, c, hc⟩ <;>
        simp [E2Network.setupRequest, NgranNode.isMonolithic, *]
    have hsupports : (s.ric.ric.e2apRegSockAddrRic (N.setupRequest i).id (N.addr i)).Supports
        (N.setupRequest i).ranFuncItem := by
      intro rf hrf
      obtain ⟨sm, hsm, rfl⟩ := List.mem_map.1 hrf
      have hplugin := (RicState.plugin_reachable h.net.reachable).1
      exact hplugin.symm ▸ hN.supported i sm hsm
    have hhandle := (NearRic.e2apHandleSetupRequestRic_eq_some hid).2 ⟨hadd, hsupports, rfl, rfl⟩
    simp [RicState.setupResponse, RicState.step, hhandle]
  | answer ans =>
    have hne := RicState.e2Answer_ne_none h.net.reachable (h.serve.up i ans hflight)
      fun ev hev => h.pending ((h.net.conserved.receiveUp hup).1 ev hev)
    exact mt Option.map_eq_none_iff.1 hne

/-- An agent takes a message. -/
theorem nodeReceive_ne_none (h : s.CooperationInv N n) {i : ι} {fd : Fd}
    {onControl : SmCtrlReqData → Option (List UInt8)}
    (he : s.Enabled N (.nodeReceive i fd onControl)) (hcontrol : ∀ data, onControl data ≠ none) :
    s.step N (.nodeReceive i fd onControl) ≠ none := by
  obtain ⟨ag, hag, hpos, hfd, m, hmem⟩ := he
  obtain ⟨msg, down, hdown⟩ := Channels.exists_receive hmem
  have hflight := Channels.mem_flight_of_receive hdown
  have hrecv : ag.receive (N.sms i) fd onControl msg ≠ none := by
    refine (h.net.node i ag hag).subsInv.receive_ne_none hpos hfd (h.serve.down i msg hflight)
      hcontrol ?_ ?_
    · rintro resp rfl
      refine h.setup.waiting i (List.mem_append_right _ ?_) ag hag
      exact List.mem_flatMap.2 ⟨_, hflight, List.mem_singleton_self i⟩
    · rintro id rfl
      have hfinds := h.life.finds i ag hag
      rw [Channels.on_of_receive hdown] at hfinds
      exact hfinds.1 id rfl
  rw [NetState.step, hag, Option.bind_some, hdown, Option.bind_some]
  exact mt Option.map_eq_none_iff.1 hrecv

/-- No step that can be taken fails an assertion. -/
theorem step_ne_none (h : s.CooperationInv N n) (hN : N.Deployable) (hn : n < 64515)
    {a : NetAction ι} (he : s.Enabled N a) (hguard : s.Cooperates N a) : s.step N a ≠ none := by
  cases a with
  | ric a => exact mt Option.map_eq_none_iff.1 (h.ric_ne_none hN hn he.1 he.2 hguard)
  | e42Request xappId id c src =>
    obtain ⟨hsrc, -, hlen, i, rfl, hreg, -⟩ := hguard
    obtain ⟨e, hmem, heq⟩ := List.mem_map.1 hreg
    rw [registered, List.length_map] at hlen
    refine mt Option.map_eq_none_iff.1 ?_
    exact (RicState.xappInv_reachable h.net.reachable).acceptRequest hsrc hlen
      ⟨e, hmem, heq ▸ hN.eq_self i⟩
  | sendRequest i => exact h.sendRequest_ne_none he
  | ricReceive i => exact h.ricReceive_ne_none hN he
  | start i epFd fd =>
    refine mt Option.map_eq_none_iff.1 ?_
    exact AgentState.startUp_ne_none (hN.sms i) (hN.encodable i) hguard.1 hguard.2
  | nodeReceive i fd onControl => exact h.nodeReceive_ne_none he hguard
  | nodeTimer i fd data =>
    obtain ⟨ag, l, hag, hl, rfl, -⟩ := hguard
    have hturn := (h.net.node i ag hag).subsInv.sendAfterTimeout_live hl data
    rw [NetState.step, hag, Option.bind_some, AgentState.turn, hturn]
    exact Option.some_ne_none _

end CooperationInv

end NetState

end FlexRic
