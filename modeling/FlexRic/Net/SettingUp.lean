import FlexRic.Net.Cooperation

/-!
# Nodes that are set up

A node sends one setup request and gets one setup response: while either is in flight the agent
waits for the response, and the near-RIC registers the node when it takes the request. So neither
the registry nor the agent sees it twice.
-/

namespace FlexRic

/-- The node that is being set up with the message. -/
def E2NodeMsg.settingUp {ι : Type} (p : ι × E2NodeMsg) : List ι :=
  match p.2 with
  | .setupRequest _ => [p.1]
  | .answer _ => []

/-- The node that is being set up with the message. -/
def E2RicMsg.settingUp {ι : Type} (p : ι × E2RicMsg) : List ι :=
  match p.2 with
  | .setupResponse _ => [p.1]
  | _ => []

theorem E2RicMsg.settingUp_of_event {ι : Type} {i : ι} {msg : E2RicMsg} {ev : PendingEventRic}
    (h : msg.event = some ev) : settingUp (i, msg) = [] := by
  cases msg with
  | setupResponse => cases h
  | _ => rfl

/-- Whether a node is set up in the step. -/
def RicAction.setsUp : RicAction → Bool
  | .e2SetupRequest _ _ => true
  | _ => false

/-- Only a setup request makes the near-RIC know another node. -/
theorem RicState.nodes_of_trans {s t : RicState} {a : RicAction} (ht : s.Trans a t)
    (ha : a.setsUp = false) :
    t.ric.e2Nodes = s.ric.e2Nodes ∧ t.iapp.e2Nodes = s.iapp.e2Nodes := by
  cases ht with
  | e42SetupRequest hpc hset =>
    obtain ⟨⟨-, -, rfl⟩, -⟩ := Iapp.setupXapp_eq_some.1 hset
    exact ⟨rfl, rfl⟩
  | e2SetupRequest => cases ha
  | _ => exact ⟨rfl, rfl⟩

namespace NetState

variable {ι : Type}

/-- The nodes whose setup request or response is in flight. -/
def settingUp (s : NetState ι) : List ι :=
  s.up.flight.flatMap E2NodeMsg.settingUp ++ s.down.flight.flatMap E2RicMsg.settingUp

/-- What holds of the nodes and their set-up. -/
structure SetupInv (N : E2Network ι) (s : NetState ι) : Prop where
  address : s.ric.AddressInv
  /-- nothing comes from a node that was not started, and nothing goes there -/
  notStarted : ∀ i, s.node i = none →
    (∀ msg, (i, msg) ∉ s.down.flight) ∧ ∀ msg, (i, msg) ∉ s.up.flight
  /-- the addresses that the near-RIC knows are those of agents that were started -/
  started : ∀ e ∈ s.ric.ric.e2Nodes.toList, ∃ i, e.2 = N.addr i ∧ s.node i ≠ none
  /-- and so are the nodes in the registry -/
  nodes : ∀ id ∈ s.registered, ∃ i, id = N.nodeId i ∧ s.node i ≠ none
  /-- a setup request comes from a node that is not registered -/
  request : ∀ i req, (i, .setupRequest req) ∈ s.up.flight →
    req = N.setupRequest i ∧ N.nodeId i ∉ s.registered
  /-- a node is set up once -/
  once : s.settingUp.Nodup
  /-- and waits for the response -/
  waiting : ∀ i ∈ s.settingUp, ∀ ag, s.node i = some ag → ag.AwaitsSetup

theorem setupInv_init [DecidableEq ι] (N : E2Network ι) : (init N).SetupInv N where
  address := RicState.addressInv_init _ _
  notStarted := fun _ _ => ⟨fun _ => List.not_mem_nil, fun _ => List.not_mem_nil⟩
  started := by simp [init, RicState.init, NearRic.init]
  nodes := by simp [init, registered, RicState.init, Iapp.init, RegE2Nodes.init]
  request := nofun
  once := List.nodup_nil
  waiting := nofun

namespace SetupInv

variable {N : E2Network ι} {s t : NetState ι}

/-- The near-RIC goes on with a step that is no set-up, and no set-up is sent or taken. -/
theorem ric (h : s.SetupInv N) {a : RicAction} (ht : s.ric.Trans a t.ric)
    (ha : a.setsUp = false) (haddress : t.ric.AddressInv) (hnode : t.node = s.node)
    (hdown : ∀ p ∈ t.down.flight, p ∈ s.down.flight ∨ s.node p.1 ≠ none)
    (hup : ∀ p ∈ t.up.flight, p ∈ s.up.flight) (hsetting : t.settingUp.Perm s.settingUp) :
    t.SetupInv N := by
  obtain ⟨he2, hreg⟩ := RicState.nodes_of_trans ht ha
  have hregistered : t.registered = s.registered := by rw [registered, hreg, registered]
  refine ⟨haddress, ?_, ?_, ?_, ?_, ?_, ?_⟩
  · rw [hnode]
    refine fun i hi => ⟨fun msg hmem => ?_, fun msg hmem => (h.notStarted i hi).2 _ (hup _ hmem)⟩
    rcases hdown _ hmem with hmem | hne
    · exact (h.notStarted i hi).1 _ hmem
    · exact hne hi
  · rw [he2, hnode]
    exact h.started
  · rw [hregistered, hnode]
    exact h.nodes
  · rw [hregistered]
    exact fun i req hmem => h.request i req (hup _ hmem)
  · exact hsetting.nodup_iff.2 h.once
  · rw [hnode]
    exact fun i hi => h.waiting i (hsetting.mem_iff.1 hi)

/-- A request goes to a node that was started. -/
theorem node_of_find (h : s.SetupInv N) {i : ι} {id : GlobalE2NodeId}
    (hdst : s.ric.ric.findMapE2NodeSad id = some (N.addr i)) : s.node i ≠ none := by
  obtain ⟨e, hfind, haddr⟩ := Option.map_eq_some_iff.1 hdst
  obtain ⟨j, hj, hnode⟩ := h.started e (AssocRbTree.findIf_eq_some hfind).1
  cases N.addr_injective (haddr.symm.trans hj)
  exact hnode

/-- A request goes out to its node. -/
theorem sendRequest (h : s.SetupInv N) {i : ι} {r : Fwd} {ric : RicState} {msg : E2RicMsg}
    {sent : List (SentRequest ι)} (hdst : s.ric.ric.findMapE2NodeSad r.node = some (N.addr i))
    (ht : s.ric.Trans .sendRequest ric) (haddress : ric.AddressInv)
    (hmsg : msg.event = some r.event) :
    SetupInv N { s with ric := ric, down := s.down.send i msg, sent := sent } := by
  refine h.ric ht rfl haddress rfl ?_ (fun p hp => hp) (.of_eq ?_)
  · intro p hp
    change p ∈ (s.down.send i msg).flight at hp
    rw [Channels.flight_send] at hp
    rcases List.mem_append.1 hp with hp | hp
    · exact .inl hp
    · cases List.mem_singleton.1 hp
      exact .inr (h.node_of_find hdst)
  · rw [settingUp, Channels.flight_send, List.flatMap_append, List.flatMap_singleton,
      E2RicMsg.settingUp_of_event hmsg, List.append_nil, settingUp]

variable [DecidableEq ι]

/-- The near-RIC takes an answer. -/
theorem e2Answer (h : s.SetupInv N) {i : ι} {ans : E2Answer} {up : Channels ι E2NodeMsg}
    {ric : RicState} (hup : s.up.receive i = some (.answer ans, up))
    (ht : s.ric.Trans (.e2Answer ans) ric) (haddress : ric.AddressInv) :
    SetupInv N { s with ric := ric, up := up } := by
  have hperm := Channels.flight_perm_of_receive hup
  refine h.ric ht rfl haddress rfl (fun p hp => .inl hp)
    (fun p hp => hperm.mem_iff.2 (List.mem_cons_of_mem _ hp)) ?_
  exact (hperm.symm.flatMap_right E2NodeMsg.settingUp).append_right _

/-- The near-RIC sets a node up. -/
theorem setupRequest (h : s.SetupInv N) (hN : N.Deployable) {i : ι} {req : E2SetupRequest}
    {up : Channels ι E2NodeMsg} {resp : E2SetupResponse} {ric : RicState}
    (hup : s.up.receive i = some (.setupRequest req, up))
    (ht : s.ric.Trans (.e2SetupRequest req (N.addr i)) ric) (haddress : ric.AddressInv) :
    SetupInv N { s with ric := ric, up := up, down := s.down.send i (.setupResponse resp) } := by
  have hmem := Channels.mem_flight_of_receive hup
  obtain ⟨rfl, -⟩ := h.request i req hmem
  have hnode : s.node i ≠ none := fun hnone => (h.notStarted i hnone).2 _ hmem
  have hperm := Channels.flight_perm_of_receive hup
  have hsub : ∀ p ∈ up.flight, p ∈ s.up.flight :=
    fun p hp => hperm.mem_iff.2 (List.mem_cons_of_mem _ hp)
  have hsetting : s.settingUp.Perm
      (i :: (up.flight.flatMap E2NodeMsg.settingUp ++ s.down.flight.flatMap E2RicMsg.settingUp)) :=
    (hperm.flatMap_right E2NodeMsg.settingUp).append_right _
  have hnot : i ∉ up.flight.flatMap E2NodeMsg.settingUp := fun hi =>
    (List.nodup_cons.1 (hsetting.nodup_iff.1 h.once)).1 (List.mem_append_left _ hi)
  have hsetting' : settingUp { s with
      ric := ric, up := up, down := s.down.send i (.setupResponse resp) } =
      up.flight.flatMap E2NodeMsg.settingUp ++
        (s.down.flight.flatMap E2RicMsg.settingUp ++ [i]) := by
    rw [settingUp, Channels.flight_send, List.flatMap_append]
    rfl
  have hmoved : (settingUp { s with
      ric := ric, up := up, down := s.down.send i (.setupResponse resp) }).Perm s.settingUp := by
    rw [hsetting', ← List.append_assoc]
    exact (List.perm_append_singleton _ _).trans hsetting.symm
  cases ht with
  | @e2SetupRequest _ _ resp' nodes hpc hadd =>
    obtain ⟨-, rfl⟩ := RegE2Nodes.add_eq_some.1 hadd
    refine ⟨haddress, ?_, ?_, ?_, ?_, hmoved.nodup_iff.2 h.once,
      fun j hj => h.waiting j (hmoved.mem_iff.1 hj)⟩
    · refine fun j hj => ⟨fun msg hmsg => ?_, fun msg hmsg => (h.notStarted j hj).2 _ (hsub _ hmsg)⟩
      rcases List.mem_append.1 hmsg with hmsg | hmsg
      · exact (h.notStarted j hj).1 msg hmsg
      · cases List.mem_singleton.1 hmsg
        exact hnode hj
    · intro e he
      rcases BiMap.mem_insert.1 he with rfl | he
      · exact ⟨i, rfl, hnode⟩
      · exact h.started e he
    · intro id hid
      obtain ⟨e, he, rfl⟩ := List.mem_map.1 hid
      rcases AssocRbTree.mem_insert.1 he with rfl | he
      · exact ⟨i, rfl, hnode⟩
      · exact h.nodes _ (List.mem_map_of_mem he)
    · intro j req' hreq'
      obtain ⟨hreq, hnew⟩ := h.request j req' (hsub _ hreq')
      refine ⟨hreq, fun hj => ?_⟩
      obtain ⟨e, he, heq⟩ := List.mem_map.1 hj
      rcases AssocRbTree.mem_insert.1 he with rfl | he
      · -- no other setup request of this node is in flight
        have hij : i = j := N.distinct i j (by
          rw [← heq]
          exact hN.eq_self i)
        subst hij
        exact hnot (List.mem_flatMap.2 ⟨_, hreq', List.mem_singleton_self _⟩)
      · exact hnew (heq ▸ List.mem_map_of_mem he)

/-- A node starts with its setup request. -/
theorem start (h : s.SetupInv N) (hN : N.Deployable) {i : ι} {epFd fd : Fd} {req : E2SetupRequest}
    {ag : AgentState} (hnone : s.node i = none)
    (hstart : AgentState.startUp epFd (N.sms i) (N.nodeId i) fd = some (req, ag)) :
    (s.answer i (some (.setupRequest req)) ag).SetupInv N := by
  obtain ⟨rfl, hawaits⟩ := AgentState.awaitsSetup_of_startUp hstart
  obtain ⟨hdown, hup⟩ := h.notStarted i hnone
  have hmono : ∀ j, s.node j ≠ none →
      (s.answer i (some (.setupRequest (N.setupRequest i))) ag).node j ≠ none := by
    intro j hj
    have hij : j ≠ i := by
      rintro rfl
      exact hj hnone
    rw [node_answer_of_ne s hij]
    exact hj
  have hnot : i ∉ s.settingUp := by
    intro hi
    rcases List.mem_append.1 hi with hi | hi
    · obtain ⟨⟨j, msg⟩, hmem, hj⟩ := List.mem_flatMap.1 hi
      cases msg with
      | setupRequest req =>
        cases List.mem_singleton.1 hj
        exact hup _ hmem
      | answer ans => cases hj
    · obtain ⟨⟨j, msg⟩, hmem, hj⟩ := List.mem_flatMap.1 hi
      cases msg with
      | setupResponse resp =>
        cases List.mem_singleton.1 hj
        exact hdown _ hmem
      | _ => cases hj
  have hsetting : (s.answer i (some (.setupRequest (N.setupRequest i))) ag).settingUp.Perm
      (i :: s.settingUp) := by
    show ((s.up.send i (.setupRequest (N.setupRequest i))).flight.flatMap E2NodeMsg.settingUp ++
      s.down.flight.flatMap E2RicMsg.settingUp).Perm _
    rw [Channels.flight_send, List.flatMap_append]
    exact (List.perm_append_singleton _ _).append_right _
  refine ⟨h.address, ?_, ?_, ?_, ?_, ?_, ?_⟩
  · intro j hj
    have hij : j ≠ i := by
      rintro rfl
      rw [node_answer_self] at hj
      cases hj
    rw [node_answer_of_ne s hij] at hj
    refine ⟨(h.notStarted j hj).1, fun msg hmem => ?_⟩
    rcases List.mem_append.1 hmem with hmem | hmem
    · exact (h.notStarted j hj).2 msg hmem
    · exact hij (congrArg Prod.fst (List.mem_singleton.1 hmem))
  · intro e he
    obtain ⟨j, hj, hnode⟩ := h.started e he
    exact ⟨j, hj, hmono j hnode⟩
  · intro id hid
    obtain ⟨j, hj, hnode⟩ := h.nodes id hid
    exact ⟨j, hj, hmono j hnode⟩
  · intro j req' hmem
    rcases List.mem_append.1 hmem with hmem | hmem
    · exact h.request j req' hmem
    · cases List.mem_singleton.1 hmem
      refine ⟨rfl, fun hi => ?_⟩
      obtain ⟨j, hj, hnode⟩ := h.nodes _ hi
      have hij : i = j := N.distinct i j (hj ▸ hN.eq_self i)
      exact hnode (hij ▸ hnone)
  · exact hsetting.nodup_iff.2 (List.nodup_cons.2 ⟨hnot, h.once⟩)
  · intro j hj ag' hag'
    rcases List.mem_cons.1 (hsetting.mem_iff.1 hj) with rfl | hj
    · rw [node_answer_self] at hag'
      cases hag'
      exact hawaits
    · have hij : j ≠ i := fun hij => hnot (hij ▸ hj)
      rw [node_answer_of_ne s hij] at hag'
      exact h.waiting j hj ag' hag'

/-- An agent goes on, with what it sends if it sends something. -/
theorem answer (h : s.SetupInv N) {i : ι} {ag ag' : AgentState} {down : Channels ι E2RicMsg}
    {msg : Option E2NodeMsg} {l : List ι} (hag : s.node i = some ag)
    (hmsg : ∀ m, msg = some m → E2NodeMsg.settingUp (i, m) = [])
    (hdown : ∀ p ∈ down.flight, p ∈ s.down.flight)
    (hsetting : (s.down.flight.flatMap E2RicMsg.settingUp).Perm
      (l ++ down.flight.flatMap E2RicMsg.settingUp))
    (hawaits : i ∉ l → ag.AwaitsSetup → ag'.AwaitsSetup) :
    ({ s with down := down }.answer i msg ag').SetupInv N := by
  have hup : ∀ p ∈ (msg.elim s.up (s.up.send i)).flight, p ∈ s.up.flight ∨
      (p.1 = i ∧ E2NodeMsg.settingUp p = []) := by
    intro p hp
    cases msg with
    | none => exact .inl hp
    | some m =>
      rcases List.mem_append.1 hp with hp | hp
      · exact .inl hp
      · cases List.mem_singleton.1 hp
        exact .inr ⟨rfl, hmsg m rfl⟩
  have hsame : (msg.elim s.up (s.up.send i)).flight.flatMap E2NodeMsg.settingUp =
      s.up.flight.flatMap E2NodeMsg.settingUp := by
    cases msg with
    | none => rfl
    | some m =>
      show (s.up.flight ++ [(i, m)]).flatMap E2NodeMsg.settingUp = _
      rw [List.flatMap_append, List.flatMap_singleton, hmsg m rfl, List.append_nil]
  have hperm : s.settingUp.Perm (l ++ ({ s with down := down }.answer i msg ag').settingUp) := by
    show List.Perm _ (l ++ ((msg.elim s.up (s.up.send i)).flight.flatMap E2NodeMsg.settingUp ++
      down.flight.flatMap E2RicMsg.settingUp))
    rw [hsame]
    exact (hsetting.append_left _).trans (List.perm_append_comm_assoc _ _ _)
  have hnodup := List.nodup_append.1 (hperm.nodup_iff.1 h.once)
  have hmono : ∀ j, s.node j ≠ none → ({ s with down := down }.answer i msg ag').node j ≠ none := by
    intro j hj
    by_cases hij : j = i
    · rw [hij, node_answer_self]
      exact Option.some_ne_none _
    · rw [node_answer_of_ne _ hij]
      exact hj
  refine ⟨h.address, ?_, ?_, ?_, ?_, hnodup.2.1, ?_⟩
  · intro j hj
    have hij : j ≠ i := by
      rintro rfl
      rw [node_answer_self] at hj
      cases hj
    rw [node_answer_of_ne _ hij] at hj
    refine ⟨fun m hm => (h.notStarted j hj).1 m (hdown _ hm), fun m hm => ?_⟩
    rcases hup _ hm with hm | ⟨heq, -⟩
    · exact (h.notStarted j hj).2 m hm
    · exact hij heq
  · intro e he
    obtain ⟨j, hj, hnode⟩ := h.started e he
    exact ⟨j, hj, hmono j hnode⟩
  · intro id hid
    obtain ⟨j, hj, hnode⟩ := h.nodes id hid
    exact ⟨j, hj, hmono j hnode⟩
  · intro j req hm
    rcases hup _ hm with hm | ⟨-, hnil⟩
    · exact h.request j req hm
    · cases hnil
  · intro j hj agj hagj
    have hj' : j ∈ s.settingUp := hperm.mem_iff.2 (List.mem_append_right _ hj)
    by_cases hij : j = i
    · subst hij
      rw [node_answer_self] at hagj
      cases hagj
      exact hawaits (fun hl => hnodup.2.2 _ hl _ hj rfl) (h.waiting j hj' ag hag)
    · rw [node_answer_of_ne _ hij] at hagj
      exact h.waiting j hj' agj hagj

/-- A node takes a message. -/
theorem nodeReceive (h : s.SetupInv N) {i : ι} {fd : Fd}
    {onControl : SmCtrlReqData → Option (List UInt8)} {ag ag' : AgentState} {msg : E2RicMsg}
    {down : Channels ι E2RicMsg} {ans : Option E2NodeMsg} (hag : s.node i = some ag)
    (hsubs : ag.SubsInv (N.sms i)) (he : ag.Receivable fd msg)
    (hdown : s.down.receive i = some (msg, down))
    (hrecv : ag.receive (N.sms i) fd onControl msg = some (ans, ag')) :
    ({ s with down := down }.answer i ans ag').SetupInv N := by
  have hperm := Channels.flight_perm_of_receive hdown
  have hans : ∀ m, ans = some m → E2NodeMsg.settingUp (i, m) = [] := by
    obtain ⟨-, hhandles⟩ := hsubs.handles he hrecv
    rintro m rfl
    cases hhandles <;> rfl
  refine h.answer hag hans (fun p hp => hperm.mem_iff.2 (List.mem_cons_of_mem _ hp))
    (hperm.flatMap_right E2RicMsg.settingUp) fun hi hawaits => ?_
  have hne : ∀ resp, msg ≠ .setupResponse resp := by
    rintro resp rfl
    exact hi (List.mem_singleton_self i)
  rw [AgentState.AwaitsSetup, (hsubs.frame_of_receive hrecv).2 hne]
  exact hawaits

/-- A timer of an agent fires for an indication. -/
theorem nodeTimer (h : s.SetupInv N) {i : ι} {ag : AgentState} {ans : E2Answer}
    (hag : s.node i = some ag) : (s.answer i (some (.answer ans)) ag).SetupInv N := by
  have hmsg : ∀ m, some (E2NodeMsg.answer ans) = some m → E2NodeMsg.settingUp (i, m) = [] := by
    rintro m ⟨⟩
    rfl
  have hsetting : (s.down.flight.flatMap E2RicMsg.settingUp).Perm
      ([] ++ s.down.flight.flatMap E2RicMsg.settingUp) := .refl _
  exact h.answer hag hmsg (fun _ hp => hp) hsetting fun _ hawaits => hawaits

theorem step (h : s.SetupInv N) (hN : N.Deployable) {n : ℕ} (hnet : s.NetInv N n) (hn : n < 64515)
    {a : NetAction ι} (hguard : s.Cooperates N a) (ht : s.Trans N a t) : t.SetupInv N := by
  have hmap := (hnet.routeInv hn).map
  cases ht with
  | @ric a ric hint he hric =>
    have htrans := RicState.trans_of_step he hric
    obtain ⟨hsetup, haddress⟩ : a.setsUp = false ∧ s.ric.AddressGuard a := by
      cases a with
      | e42RicRequest => cases hint
      | e2SetupRequest => cases hint
      | _ => exact ⟨rfl, trivial⟩
    exact h.ric htrans hsetup (h.address.step hmap htrans haddress) rfl (fun p hp => .inl hp)
      (fun p hp => hp) (.refl _)
  | @e42Request xappId id c src ric he hric =>
    have he' : s.ric.Enabled (.e42RicRequest c.kind ⟨xappId, id, c.ricId⟩ src) := he
    have htrans := RicState.trans_of_step he' hric
    obtain ⟨-, -, -, i, -, hreg, -⟩ := hguard
    have haddress : s.ric.Reaches id := by
      obtain ⟨e, he, heq⟩ := List.mem_map.1 hreg
      exact heq ▸ h.address.nodes e he
    exact h.ric htrans rfl (h.address.step hmap htrans haddress) rfl (fun p hp => .inl hp)
      (fun p hp => hp) (.refl _)
  | @sendRequest i r ric msg hpc hdst hric hmsg =>
    have he : s.ric.Enabled .sendRequest := ⟨r, hpc⟩
    have htrans := RicState.trans_of_step he hric
    have hcontent := (hnet.forward.current r (by simp [hpc, IappPc.current])).2
    exact h.sendRequest hdst htrans (h.address.step hmap htrans trivial)
      (Fwd.message_eq_some hcontent hmsg).1
  | @setupRequest i req up resp ric hpc hup hric =>
    have he : s.ric.Enabled (.e2SetupRequest req (N.addr i)) := hpc
    have htrans := RicState.trans_of_step he hric
    have haddress : eqGlobalE2NodeId req.id req.id = true := by
      obtain ⟨rfl, -⟩ := h.request i req (Channels.mem_flight_of_receive hup)
      exact hN.eq_self i
    exact h.setupRequest hN hup htrans (h.address.step hmap htrans haddress)
  | @e2Answer i ans up ric hpc hup hric =>
    have he : s.ric.Enabled (.e2Answer ans) := hpc
    have htrans := RicState.trans_of_step he hric
    exact h.e2Answer hup htrans (h.address.step hmap htrans trivial)
  | start hnone hstart => exact h.start hN hnone hstart
  | nodeReceive hag hpos hfd hdown hrecv =>
    exact h.nodeReceive hag (hnet.node _ _ hag).subsInv (hnet.receivable hag hpos hfd hdown) hdown
      hrecv
  | @nodeTimer i fd data ag ag' msg hag he hturn =>
    obtain ⟨ag₁, l, hag₁, hl, rfl, -⟩ := hguard
    cases hag.symm.trans hag₁
    rw [AgentState.turn, (hnet.node i ag hag).subsInv.sendAfterTimeout_live hl] at hturn
    cases hturn
    exact h.nodeTimer hag

end SetupInv

end NetState

end FlexRic
