import FlexRic.Net.Answers

/-!
# What the parties of the network rely on

The near-RIC relies on the E2 nodes for the ids of their answers, and that each response answers a
request it sent and has no response yet; an agent relies on the near-RIC for the ids of its
subscriptions, which must not be live. In the network each of them gets this from the others, as
long as the near-RIC does not run out of ids: a run of the network is a run of the near-RIC and of
every agent.
-/

namespace FlexRic

namespace NetState

variable {ι : Type}

/-- The xApps send from the address that their id was registered with, and ask for nodes by the
ids of these. -/
def XappGuard (N : E2Network ι) (s : NetState ι) : NetAction ι → Prop
  | .e42Request xappId id _ src => (xappId, src) ∈ s.ric.iapp.xapps.toList ∧ ∃ i, id = N.nodeId i
  | .ric (.e42RicSubscriptionDeleteRequest req src) =>
    (req.xappId, src) ∈ s.ric.iapp.xapps.toList
  | _ => True

/-- Whether the action gives an id out. -/
def givesId : NetAction ι → Bool
  | .e42Request _ _ _ _ => true
  | _ => false

/-- The number of ids given out in a run. -/
def requests (tr : List (NetState ι × NetAction ι)) : ℕ := tr.countP fun p => givesId p.2

theorem requests_cons (p : NetState ι × NetAction ι) (tr : List (NetState ι × NetAction ι)) :
    requests (p :: tr) = requests tr + (givesId p.2).toNat := by
  rw [requests, List.countP_cons, requests]
  cases givesId p.2 <;> rfl

variable [DecidableEq ι]

/-- What holds of a network that has given out `n` ids. -/
structure NetInv (N : E2Network ι) (n : ℕ) (s : NetState ι) : Prop where
  /-- the near-RIC has made a run in which its assumptions hold -/
  run : ∃ tr, ((threads N.epFd N.plugin).restrict RicState.RoutingGuard).Run tr s.ric ∧
    RicState.requests tr = n ∧ ∀ p ∈ tr, p.1.AnswersOutstanding p.2
  forward : ForwardInv N s.ric s.content s.sent
  down : DownInv s.down s.sent
  node : ∀ i ag, s.node i = some ag → NodeInv N s.down.taken i ag
  /-- a node that was not started has taken nothing -/
  notStarted : ∀ i, s.node i = none → ∀ msg, (i, msg) ∉ s.down.taken
  up : UpInv N s.down.taken s.up
  conserved : Conserved s.ric.outstanding s.down s.up
  /-- what the near-RIC has received is what was taken from the nodes -/
  received : s.ric.received.reverse = s.up.taken.flatMap fun p => p.2.answer?.toList

variable {N : E2Network ι} {n : ℕ} {s t : NetState ι}

theorem netInv_init (N : E2Network ι) : (init N).NetInv N 0 where
  run := ⟨[], .nil, rfl, by simp⟩
  forward := .init N
  down := .init
  node := nofun
  notStarted := fun _ _ _ => List.not_mem_nil
  up := .init N
  conserved := .refl _
  received := rfl

namespace NetInv

/-- The near-RIC of the network keeps the invariant of its routing. -/
theorem routeInv (h : s.NetInv N n) (hn : n < 64515) : s.ric.RouteInv := by
  obtain ⟨tr, hrun, rfl, -⟩ := h.run
  exact RicState.routeInv_run hrun hn

theorem reachable (h : s.NetInv N n) : (threads N.epFd N.plugin).Reachable s.ric := by
  obtain ⟨tr, hrun, -⟩ := h.run
  exact ⟨tr, (System.steps_restrict.1 hrun).1⟩

/-- The near-RIC goes on with a step in which its assumptions hold. -/
theorem cons_run (h : s.NetInv N n) {a : RicAction} {ric : RicState} (he : s.ric.Enabled a)
    (hguard : s.ric.RoutingGuard a) (hout : s.ric.AnswersOutstanding a)
    (hric : s.ric.step a = some ric) :
    ∃ tr, ((threads N.epFd N.plugin).restrict RicState.RoutingGuard).Run tr ric ∧
      RicState.requests tr = n + (RicState.givesId a).toNat ∧
      ∀ p ∈ tr, p.1.AnswersOutstanding p.2 := by
  obtain ⟨tr, hrun, rfl, hall⟩ := h.run
  exact ⟨(s.ric, a) :: tr, hrun.cons ⟨he, hguard⟩ hric, RicState.requests_cons _ _,
    List.forall_mem_cons.2 ⟨hout, hall⟩⟩

/-- An answer in flight has the id of a request that was forwarded. -/
theorem exists_forwarded (h : s.NetInv N n) {i : ι} {ans : E2Answer}
    (hmem : (i, .answer ans) ∈ s.up.all) : ∃ r ∈ s.ric.forwarded, r.ricId = ans.ricId := by
  obtain ⟨msg, ev, htaken, hev, hid⟩ := (h.up.answer i ans hmem).exists_event
  rcases h.down.request _ (Channels.mem_all_of_taken htaken) with ⟨resp, rfl⟩ | ⟨q, hq, -, hmsg⟩
  · cases hev
  · have hev' := (Fwd.message_eq_some (h.forward.toNode q hq).2 hmsg).1
    refine ⟨q.fwd, h.forward.forwarded ▸ List.mem_map_of_mem hq, ?_⟩
    rw [← hid, ← Option.some.inj (hev'.symm.trans hev)]
    rfl

/-- A step of the near-RIC that is its own. -/
theorem ric (h : s.NetInv N n) (hn : n < 64515) {a : RicAction} {ric : RicState}
    (hint : a.isInternal = true) (he : s.ric.Enabled a) (hric : s.ric.step a = some ric)
    (hguard : s.XappGuard N (.ric a)) : NetInv N n { s with ric := ric } := by
  have htrans := RicState.trans_of_step he hric
  obtain ⟨hguard', hout, hgives⟩ : s.ric.RoutingGuard a ∧ s.ric.AnswersOutstanding a ∧
      RicState.givesId a = false := by
    cases a with
    | e42RicRequest => cases hint
    | e2Answer => cases hint
    | e42RicSubscriptionDeleteRequest => exact ⟨hguard, trivial, rfl⟩
    | _ => exact ⟨trivial, trivial, rfl⟩
  obtain ⟨hsame, hrec⟩ : ric.outstanding = s.ric.outstanding ∧ ric.received = s.ric.received := by
    cases htrans with
    | e42RicRequest => cases hint
    | sendRequest => cases hint
    | response => cases hint
    | indication => cases hint
    | _ => exact ⟨rfl, rfl⟩
  have hrun := h.cons_run he hguard' hout hric
  rw [hgives] at hrun
  exact { h with
    run := hrun
    forward := h.forward.internal (h.routeInv hn).map hint htrans
    conserved := hsame ▸ h.conserved
    received := hrec ▸ h.received }

/-- A request of an xApp arrives. -/
theorem e42Request (h : s.NetInv N n) {xappId : UInt16} {id : GlobalE2NodeId} {c : E42Content}
    {src : SctpInfo} {ric : RicState} (he : s.ric.iappPc = .idle)
    (hric : s.ric.step (.e42RicRequest c.kind ⟨xappId, id, c.ricId⟩ src) = some ric)
    (hguard : s.XappGuard N (.e42Request xappId id c src)) :
    NetInv N (n + 1) { s with ric := ric, content := some c } := by
  obtain ⟨hsrc, i, rfl⟩ := hguard
  have he' : s.ric.Enabled (.e42RicRequest c.kind ⟨xappId, N.nodeId i, c.ricId⟩ src) := he
  have htrans := RicState.trans_of_step he' hric
  have hrun := h.cons_run he' hsrc trivial hric
  obtain ⟨hsame, hrec⟩ : ric.outstanding = s.ric.outstanding ∧ ric.received = s.ric.received := by
    cases htrans with
    | e42RicRequest => exact ⟨rfl, rfl⟩
  exact { h with
    run := hrun
    forward := h.forward.e42Request htrans
    conserved := hsame ▸ h.conserved
    received := hrec ▸ h.received }

/-- A request goes out to its node. -/
theorem sendRequest (h : s.NetInv N n) (hn : n < 64515) {i : ι} {r : Fwd} {ric : RicState}
    {msg : E2RicMsg} (hpc : s.ric.iappPc = .registered r)
    (hdst : s.ric.ric.findMapE2NodeSad r.node = some (N.addr i))
    (hric : s.ric.step .sendRequest = some ric) (hmsg : r.message s.content = some msg) :
    NetInv N n { s with
      ric := ric, down := s.down.send i msg, sent := ⟨i, r, s.content⟩ :: s.sent } := by
  have he : s.ric.Enabled .sendRequest := ⟨r, hpc⟩
  have htrans := RicState.trans_of_step he hric
  have hcontent := (h.forward.current r (by simp [hpc, IappPc.current])).2
  have hrun := h.cons_run he trivial trivial hric
  -- the ids of the forwarded requests and the one on its way are different
  have hfresh : ∀ q ∈ s.sent, ∀ r₁ ∈ r.newEntry, ∀ r₂ ∈ q.fwd.newEntry, r₁.ricId ≠ r₂.ricId := by
    intro q hq r₁ hr₁ r₂ hr₂ heq
    have hids := (h.routeInv hn).ids
    rw [hpc, List.map_append] at hids
    refine (List.nodup_append.1 hids).2.2 r₁.reqId (List.mem_map_of_mem hr₁) r₂.reqId ?_ ?_
    · refine List.mem_map_of_mem (List.mem_flatMap.2 ⟨q.fwd, ?_, hr₂⟩)
      exact h.forward.forwarded ▸ List.mem_map_of_mem hq
    · rw [Fwd.reqId, Fwd.reqId, heq]
  obtain ⟨hsame, hrec⟩ : ric.outstanding = r.event :: s.ric.outstanding ∧
      ric.received = s.ric.received := by
    cases htrans with
    | sendRequest hpc' =>
      cases hpc.symm.trans hpc'
      exact ⟨rfl, rfl⟩
  have hevent := (Fwd.message_eq_some hcontent hmsg).1
  have hsend := h.conserved.sendDown i msg
  rw [hevent] at hsend
  exact { h with
    run := hrun
    forward := h.forward.sendRequest hpc hdst htrans
    down := h.down.sendRequest (fun q hq => (h.forward.toNode q hq).2) hcontent hmsg hfresh
    conserved := hsame ▸ hsend
    received := hrec ▸ h.received }

/-- The near-RIC takes a setup request and responds to it. -/
theorem setupRequest (h : s.NetInv N n) {i : ι} {req : E2SetupRequest} {up : Channels ι E2NodeMsg}
    {resp : E2SetupResponse} {ric : RicState} (hpc : s.ric.ricPc = .idle)
    (hup : s.up.receive i = some (.setupRequest req, up))
    (hric : s.ric.step (.e2SetupRequest req (N.addr i)) = some ric) :
    NetInv N n { s with ric := ric, up := up, down := s.down.send i (.setupResponse resp) } := by
  have he : s.ric.Enabled (.e2SetupRequest req (N.addr i)) := hpc
  have htrans := RicState.trans_of_step he hric
  have hid := h.up.setup i req (Channels.mem_all_of_flight (Channels.mem_flight_of_receive hup))
  obtain ⟨hsame, hrec⟩ : ric.outstanding = s.ric.outstanding ∧ ric.received = s.ric.received := by
    cases htrans with
    | e2SetupRequest => exact ⟨rfl, rfl⟩
  have hsend := (h.conserved.receiveUp hup).2.sendDown i (.setupResponse resp)
  refine { h with
    run := h.cons_run he trivial trivial hric
    forward := h.forward.e2SetupRequest hid htrans
    down := h.down.setupResponse i resp
    up := h.up.receive hup
    conserved := hsame ▸ hsend
    received := ?_ }
  rw [hrec, h.received, Channels.taken_of_receive hup, List.flatMap_append]
  exact (List.append_nil _).symm

/-- The near-RIC takes an answer. -/
theorem e2Answer (h : s.NetInv N n) {i : ι} {ans : E2Answer} {up : Channels ι E2NodeMsg}
    {ric : RicState} (hpc : s.ric.ricPc = .idle) (hup : s.up.receive i = some (.answer ans, up))
    (hric : s.ric.step (.e2Answer ans) = some ric) :
    NetInv N n { s with ric := ric, up := up } := by
  have he : s.ric.Enabled (.e2Answer ans) := hpc
  have htrans := RicState.trans_of_step he hric
  have hmem := Channels.mem_all_of_flight (Channels.mem_flight_of_receive hup)
  obtain ⟨hout, hconserved⟩ := h.conserved.receiveUp hup
  obtain ⟨hsame, hrec⟩ : ric.outstanding =
      (ans.pendingEvent.elim s.ric.outstanding fun ev => s.ric.outstanding.erase ev) ∧
      ric.received = ans :: s.ric.received := by
    cases htrans with
    | response _ hev =>
      rw [hev]
      exact ⟨rfl, rfl⟩
    | indication _ hev =>
      rw [hev]
      exact ⟨rfl, rfl⟩
  refine { h with
    run := h.cons_run he (h.exists_forwarded hmem) hout hric
    forward := h.forward.e2Answer htrans
    up := h.up.receive hup
    conserved := hsame ▸ hconserved
    received := ?_ }
  rw [hrec, List.reverse_cons, h.received, Channels.taken_of_receive hup, List.flatMap_append]
  rfl

/-- A node starts. -/
theorem start (h : s.NetInv N n) {i : ι} {epFd fd : Fd} {req : E2SetupRequest} {ag : AgentState}
    (hnone : s.node i = none)
    (hstart : AgentState.startUp epFd (N.sms i) (N.nodeId i) fd = some (req, ag)) :
    NetInv N n (s.answer i (some (.setupRequest req)) ag) := by
  refine { h with
    node := ?_
    notStarted := ?_
    up := ?_
    conserved := h.conserved.sendUp rfl }
  · intro j ag' hj
    by_cases hij : j = i
    · subst hij
      rw [node_answer_self] at hj
      cases hj
      exact .start hstart fun id => h.notStarted j hnone _
    · rw [node_answer_of_ne s hij] at hj
      exact h.node j ag' hj
  · intro j hj
    by_cases hij : j = i
    · subst hij
      rw [node_answer_self] at hj
      cases hj
    · rw [node_answer_of_ne s hij] at hj
      exact h.notStarted j hj
  · refine h.up.send ?_ nofun (fun _ _ _ => nofun)
    intro req' heq
    cases heq
    exact (AgentState.start_of_startUp hstart).2.2

/-- The id of a message that a node takes is new, if the near-RIC has chosen it. -/
theorem newId_ne (h : s.NetInv N n) {i j : ι} {msg msg' : E2RicMsg} {down : Channels ι E2RicMsg}
    (hdown : s.down.receive i = some (msg, down)) (hmem : (j, msg') ∈ s.down.taken)
    {id : RicGenId} (hid : msg'.newId = some id) : msg.newId ≠ some id := by
  intro hid'
  have hnodup := h.down.newIds
  rw [Channels.all, List.flatMap_append] at hnodup
  refine (List.nodup_append.1 hnodup).2.2 id ?_ id ?_ rfl
  · refine List.mem_flatMap.2 ⟨_, hmem, ?_⟩
    rw [hid]
    exact List.mem_singleton_self id
  · refine List.mem_flatMap.2 ⟨_, Channels.mem_flight_of_receive hdown, ?_⟩
    rw [hid']
    exact List.mem_singleton_self id

/-- What a node takes it can receive: a subscription request has an id that none before it had, so
it is not live. -/
theorem receivable (h : s.NetInv N n) {i : ι} {fd : Fd} {ag : AgentState} {msg : E2RicMsg}
    {down : Channels ι E2RicMsg} (hag : s.node i = some ag) (hpos : 0 < fd) (hfd : fd ∉ ag.ag.io)
    (hdown : s.down.receive i = some (msg, down)) : ag.Receivable fd msg := by
  refine ⟨hpos, hfd, ?_⟩
  rintro sr rfl hid
  obtain ⟨sr', hmem, hid'⟩ := (h.node i ag hag).exists_of_mem_liveIds hid
  exact h.newId_ne hdown hmem rfl (congrArg some hid'.symm)

/-- A node takes a message and sends the answer to it. -/
theorem nodeReceive (h : s.NetInv N n) {i : ι} {fd : Fd}
    {onControl : SmCtrlReqData → Option (List UInt8)} {ag ag' : AgentState} {msg : E2RicMsg}
    {down : Channels ι E2RicMsg} {ans : Option E2NodeMsg} (hag : s.node i = some ag)
    (hpos : 0 < fd) (hfd : fd ∉ ag.ag.io) (hdown : s.down.receive i = some (msg, down))
    (hrecv : ag.receive (N.sms i) fd onControl msg = some (ans, ag')) :
    NetInv N n ({ s with down := down }.answer i ans ag') := by
  have hnode := h.node i ag hag
  have htaken := Channels.taken_of_receive hdown
  have hnew : ∀ sr, (i, .subscriptionRequest sr) ∈ s.down.taken → msg.newId ≠ some sr.ricId :=
    fun sr hmem => h.newId_ne hdown hmem rfl
  have hreceivable := h.receivable hag hpos hfd hdown
  obtain ⟨-, hhandles⟩ := hnode.subsInv.handles hreceivable hrecv
  refine { h with
    down := h.down.receive hdown
    node := ?_
    notStarted := ?_
    up := ?_
    conserved := h.conserved.answer hdown hhandles.event
    received := ?_ }
  · intro j agj hj
    show NodeInv N down.taken j agj
    rw [htaken]
    by_cases hij : j = i
    · subst hij
      rw [node_answer_self] at hj
      cases hj
      exact hnode.receive hreceivable hnew hrecv
    · rw [node_answer_of_ne _ hij] at hj
      exact (h.node j agj hj).other (Ne.symm hij)
  · intro j hj msg' hmem
    by_cases hij : j = i
    · subst hij
      rw [node_answer_self] at hj
      cases hj
    · rw [node_answer_of_ne _ hij] at hj
      have hmem' : (j, msg') ∈ s.down.taken ++ [(i, msg)] := htaken ▸ hmem
      rcases List.mem_append.1 hmem' with hmem' | hmem'
      · exact h.notStarted j hj msg' hmem'
      · exact hij (congrArg Prod.fst (List.mem_singleton.1 hmem'))
  · show UpInv N down.taken (ans.elim s.up (s.up.send i))
    rw [htaken]
    have hup : UpInv N (s.down.taken ++ [(i, msg)]) s.up :=
      h.up.mono fun p hp => List.mem_append_left _ hp
    cases ans with
    | none => exact hup
    | some msg' =>
      obtain ⟨a, rfl, hanswers, hdeleted⟩ := hnode.answer hnew hhandles
      refine hup.send nofun ?_ ?_
      · rintro _ ⟨⟩
        exact hanswers
      · rintro m hmem _ ⟨⟩
        exact hdeleted _ (h.up.of_deleted hmem).1
  · cases ans <;> exact h.received

/-- A timer of an agent fires. -/
theorem nodeTimer (h : s.NetInv N n) {i : ι} {fd : Fd} {data : SmIndData} {ag ag' : AgentState}
    {msg : Option AgentMsg} (hag : s.node i = some ag) (he : ag.enabled (.timerExpiry fd data))
    (hturn : ag.turn (N.sms i) (.timerExpiry fd data) = some (msg, ag')) :
    NetInv N n (s.answer i (msg.map AgentMsg.toNodeMsg) ag') := by
  have hnode := h.node i ag hag
  obtain ⟨rfl, hmsg⟩ := hnode.subsInv.timerExpiry_cases he hturn
  have hevent : ∃ msg', msg.map AgentMsg.toNodeMsg = some msg' ∧ msg'.event = none ∧
      UpInv N s.down.taken (s.up.send i msg') := by
    rcases hmsg with ⟨req, rfl, hid⟩ | ⟨l, hl, rfl⟩
    · refine ⟨_, rfl, rfl, h.up.send ?_ nofun (fun _ _ _ => nofun)⟩
      rintro _ ⟨⟩
      exact hid.trans hnode.nodeId
    · obtain ⟨hanswers, hdeleted⟩ := hnode.indication hl data
      refine ⟨_, rfl, rfl, h.up.send nofun ?_ ?_⟩
      · rintro _ ⟨⟩
        exact hanswers
      · rintro m hmem _ ⟨⟩
        exact hdeleted _ (h.up.of_deleted hmem).1
  obtain ⟨msg', hmsg', hev, hup⟩ := hevent
  rw [hmsg']
  have hsame : (s.answer i (some msg') ag').node = s.node :=
    Function.update_eq_self_iff.2 hag.symm
  refine { h with
    node := hsame ▸ h.node
    notStarted := hsame ▸ h.notStarted
    up := hup
    conserved := h.conserved.sendUp hev }

theorem step (h : s.NetInv N n) {a : NetAction ι} (hn : n + (givesId a).toNat < 64515)
    (hguard : s.XappGuard N a) (ht : s.Trans N a t) : t.NetInv N (n + (givesId a).toNat) := by
  cases ht with
  | ric hint he hric => exact h.ric hn hint he hric hguard
  | e42Request he hric => exact h.e42Request he hric hguard
  | sendRequest hpc hdst hric hmsg => exact h.sendRequest hn hpc hdst hric hmsg
  | setupRequest hpc hup hric => exact h.setupRequest hpc hup hric
  | e2Answer hpc hup hric => exact h.e2Answer hpc hup hric
  | start hnone hstart => exact h.start hnone hstart
  | nodeReceive hag hpos hfd hdown hrecv => exact h.nodeReceive hag hpos hfd hdown hrecv
  | nodeTimer hag he hturn => exact h.nodeTimer hag he hturn

end NetInv

/-- The invariant holds in every run that does not use up the ids. -/
theorem netInv_run {tr : List (NetState ι × NetAction ι)}
    (h : ((e2Network N).restrict (XappGuard N)).Run tr s) (hn : requests tr < 64515) :
    s.NetInv N (requests tr) := by
  induction h with
  | nil => exact netInv_init N
  | cons _ he ht ih =>
    rw [requests_cons] at hn ⊢
    exact (ih (by omega)).step hn he.2 (trans_of_step he.1 ht)

end NetState

end FlexRic
