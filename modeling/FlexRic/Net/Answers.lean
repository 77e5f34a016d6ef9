import FlexRic.Net.Forwarding

/-!
# Answers on their way to the near-RIC

What an agent sends answers a request that it took, and its indications are those of a
subscription that it took. With the response to a delete request it has said the last word about
the subscription: nothing that it sends later is about it.
-/

namespace FlexRic

/-- The answer in a message of a node, if it is one. -/
def E2NodeMsg.answer? : E2NodeMsg → Option E2Answer
  | setupRequest _ => none
  | answer ans => some ans

/-- The event of the near-RIC that the message stops. -/
def E2NodeMsg.event (msg : E2NodeMsg) : Option PendingEventRic :=
  msg.answer?.bind E2Answer.pendingEvent

/-- What the node `i` had taken from the near-RIC when it sent the answer. -/
def E2Answer.Answers {ι : Type} (taken : List (ι × E2RicMsg)) (i : ι) : E2Answer → Prop
  | subscriptionResponse m => ∃ sr action, (i, .subscriptionRequest sr) ∈ taken ∧
      sr.action = [action] ∧ m = ⟨sr.ricId, [action.id], 0⟩
  | subscriptionDeleteResponse m => (i, .subscriptionDeleteRequest m.ricId) ∈ taken ∧
      ∃ sr, (i, .subscriptionRequest sr) ∈ taken ∧ sr.ricId = m.ricId
  | controlAcknowledge m => ∃ cr, (i, .controlRequest cr) ∈ taken ∧ m = ⟨cr.ricId, .success⟩
  | indication m => ∃ sr action data, (i, .subscriptionRequest sr) ∈ taken ∧
      sr.action = [action] ∧ m = generateIndication data ⟨sr.ricId, action.id⟩

/-- Nothing after the response to a delete request is about the same subscription. -/
def E2NodeMsg.NotAfterDelete (msg msg' : E2NodeMsg) : Prop :=
  ∀ m ans, msg = .answer (.subscriptionDeleteResponse m) → msg' = .answer ans → ans.ricId ≠ m.ricId

theorem E2Answer.Answers.mono {ι : Type} {taken taken' : List (ι × E2RicMsg)} {i : ι}
    {ans : E2Answer} (h : ans.Answers taken i) (hsub : ∀ p ∈ taken, p ∈ taken') :
    ans.Answers taken' i := by
  cases ans with
  | subscriptionResponse m =>
    obtain ⟨sr, action, hmem, hrest⟩ := h
    exact ⟨sr, action, hsub _ hmem, hrest⟩
  | subscriptionDeleteResponse m =>
    obtain ⟨hdel, sr, hmem, hid⟩ := h
    exact ⟨hsub _ hdel, sr, hsub _ hmem, hid⟩
  | controlAcknowledge m =>
    obtain ⟨cr, hmem, hrest⟩ := h
    exact ⟨cr, hsub _ hmem, hrest⟩
  | indication m =>
    obtain ⟨sr, action, data, hmem, hrest⟩ := h
    exact ⟨sr, action, data, hsub _ hmem, hrest⟩

/-- An answer has the id of a request that was taken. -/
theorem E2Answer.Answers.exists_event {ι : Type} {taken : List (ι × E2RicMsg)} {i : ι}
    {ans : E2Answer} (h : ans.Answers taken i) :
    ∃ msg ev, (i, msg) ∈ taken ∧ msg.event = some ev ∧ ev.id = ans.ricId := by
  cases ans with
  | subscriptionResponse m =>
    obtain ⟨sr, action, hmem, -, rfl⟩ := h
    exact ⟨_, _, hmem, rfl, rfl⟩
  | subscriptionDeleteResponse m => exact ⟨_, _, h.1, rfl, rfl⟩
  | controlAcknowledge m =>
    obtain ⟨cr, hmem, rfl⟩ := h
    exact ⟨_, _, hmem, rfl, rfl⟩
  | indication m =>
    obtain ⟨sr, action, data, hmem, -, rfl⟩ := h
    exact ⟨_, _, hmem, rfl, rfl⟩

/-- An agent of the network, when `taken` was taken from the near-RIC. -/
structure NodeInv {ι : Type} (N : E2Network ι) (taken : List (ι × E2RicMsg)) (i : ι)
    (ag : AgentState) : Prop where
  /-- it is where its event loop can be -/
  reachable : ∃ epFd fd ag₀, AgentState.start epFd (N.sms i) (N.nodeId i) fd = some ag₀ ∧
    (AgentState.eventLoop (N.sms i) ag₀).Reachable ag
  /-- it is the agent of the node -/
  nodeId : ag.ag.globalE2NodeId = N.nodeId i
  /-- its live subscriptions were requested -/
  live : ∀ l ∈ ag.live, ∃ sr action, (i, .subscriptionRequest sr) ∈ taken ∧
    sr.action = [action] ∧ l.request = sr.read
  /-- what was deleted was requested, and is not live -/
  deleted : ∀ id, (i, .subscriptionDeleteRequest id) ∈ taken → id ∉ ag.liveIds ∧
    ∃ sr, (i, .subscriptionRequest sr) ∈ taken ∧ sr.ricId = id

namespace NodeInv

variable {ι : Type} {N : E2Network ι} {taken : List (ι × E2RicMsg)} {i j : ι} {ag ag' : AgentState}
  {msg : E2RicMsg} {ans : Option E2NodeMsg}

theorem subsInv (h : NodeInv N taken i ag) : ag.SubsInv (N.sms i) := by
  obtain ⟨epFd, fd, ag₀, hstart, hreach⟩ := h.reachable
  exact AgentState.subsInv_reachable hstart hreach

theorem start {epFd fd : Fd} {req : E2SetupRequest}
    (h : AgentState.startUp epFd (N.sms i) (N.nodeId i) fd = some (req, ag))
    (hnew : ∀ id, (i, .subscriptionDeleteRequest id) ∉ taken) : NodeInv N taken i ag := by
  obtain ⟨hstart, hid, -⟩ := AgentState.start_of_startUp h
  obtain ⟨-, hlive⟩ := AgentState.subsInv_start hstart
  exact ⟨⟨_, _, _, hstart, .init⟩, hid, by simp [hlive], fun id hmem => absurd hmem (hnew id)⟩

/-- What another node takes does not matter. -/
theorem other (h : NodeInv N taken i ag) (hne : j ≠ i) : NodeInv N (taken ++ [(j, msg)]) i ag where
  reachable := h.reachable
  nodeId := h.nodeId
  live l hl := by
    obtain ⟨sr, action, hmem, hrest⟩ := h.live l hl
    exact ⟨sr, action, List.mem_append_left _ hmem, hrest⟩
  deleted id hid := by
    rcases List.mem_append.1 hid with hid | hid
    · obtain ⟨hdead, sr, hmem, hsr⟩ := h.deleted id hid
      exact ⟨hdead, sr, List.mem_append_left _ hmem, hsr⟩
    · exact absurd (congrArg Prod.fst (List.mem_singleton.1 hid)).symm hne

/-- A live subscription was requested with its id. -/
theorem exists_of_mem_liveIds (h : NodeInv N taken i ag) {id : RicGenId} (hid : id ∈ ag.liveIds) :
    ∃ sr, (i, .subscriptionRequest sr) ∈ taken ∧ sr.ricId = id := by
  obtain ⟨l, hl, rfl⟩ := List.mem_map.1 hid
  obtain ⟨sr, action, hmem, -, hreq⟩ := h.live l hl
  exact ⟨sr, hmem, by rw [hreq, Ap.RicSubscriptionRequest.read_ricId]⟩

/-- The node takes a message. Its new subscriptions were not requested before. -/
theorem receive (h : NodeInv N taken i ag) {fd : Fd}
    {onControl : SmCtrlReqData → Option (List UInt8)} (he : ag.Receivable fd msg)
    (hnew : ∀ sr, (i, .subscriptionRequest sr) ∈ taken → msg.newId ≠ some sr.ricId)
    (hrecv : ag.receive (N.sms i) fd onControl msg = some (ans, ag')) :
    NodeInv N (taken ++ [(i, msg)]) i ag' := by
  have hinv := h.subsInv
  obtain ⟨-, hhandles⟩ := hinv.handles he hrecv
  have hreachable : ∃ epFd fd ag₀, AgentState.start epFd (N.sms i) (N.nodeId i) fd = some ag₀ ∧
      (AgentState.eventLoop (N.sms i) ag₀).Reachable ag' := by
    obtain ⟨epFd, fd', ag₀, hstart, hreach⟩ := h.reachable
    refine ⟨epFd, fd', ag₀, hstart, ?_⟩
    rcases AgentState.turn_of_receive he hrecv with rfl | ⟨a, hen, hstep⟩
    · exact hreach
    · exact hreach.step hen hstep
  have hold : ∀ l ∈ ag.live, ∃ sr action,
      (i, E2RicMsg.subscriptionRequest sr) ∈ taken ++ [(i, msg)] ∧
        sr.action = [action] ∧ l.request = sr.read := by
    intro l hl
    obtain ⟨sr, action, hmem, hrest⟩ := h.live l hl
    exact ⟨sr, action, List.mem_append_left _ hmem, hrest⟩
  refine ⟨hreachable, (hinv.frame_of_receive hrecv).1.trans h.nodeId, ?_, ?_⟩
  · cases hhandles with
    | setupResponse hlive => exact hlive ▸ hold
    | @subscriptionRequest sr action ms _ haction _ hlive =>
      rw [hlive]
      exact List.forall_mem_cons.2 ⟨⟨sr, action, by simp, haction, rfl⟩, hold⟩
    | subscriptionDeleteRequest _ hlive =>
      rw [hlive]
      exact fun l hl => hold l (List.mem_of_mem_filter hl)
    | controlRequest => exact hold
  · intro id hid
    rcases List.mem_append.1 hid with hdel | hdel
    · obtain ⟨hdead, sr', hmem', hsr'⟩ := h.deleted id hdel
      refine ⟨?_, sr', List.mem_append_left _ hmem', hsr'⟩
      cases hhandles with
      | setupResponse hlive => rwa [AgentState.liveIds, hlive]
      | @subscriptionRequest sr action ms _ haction _ hlive =>
        rw [AgentState.liveIds, hlive]
        intro hmem
        rcases List.mem_cons.1 hmem with heq | hmem
        · exact absurd (congrArg some (heq.symm.trans hsr'.symm)) (hnew sr' hmem')
        · exact hdead hmem
      | subscriptionDeleteRequest _ hlive =>
        rw [AgentState.liveIds, hlive]
        exact fun hmem => hdead ((List.filter_sublist.map _).subset hmem)
      | controlRequest => exact hdead
    · cases List.mem_singleton.1 hdel
      cases hhandles with
      | subscriptionDeleteRequest hid hlive =>
        obtain ⟨sr, hmem, hsr⟩ := h.exists_of_mem_liveIds hid
        refine ⟨?_, sr, List.mem_append_left _ hmem, hsr⟩
        rw [AgentState.liveIds, hlive]
        simp

/-- What the node sends when it takes a message: an answer to it, about a subscription that was not
deleted. -/
theorem answer (h : NodeInv N taken i ag) {fd : Fd} {msg' : E2NodeMsg}
    (hnew : ∀ sr, (i, .subscriptionRequest sr) ∈ taken → msg.newId ≠ some sr.ricId)
    (hhandles : ag.Handles (N.sms i) fd msg (some msg') ag') :
    ∃ a, msg' = .answer a ∧ a.Answers (taken ++ [(i, msg)]) i ∧
      ∀ id, (i, .subscriptionDeleteRequest id) ∈ taken → a.ricId ≠ id := by
  have hlast : (i, msg) ∈ taken ++ [(i, msg)] :=
    List.mem_append_right _ (List.mem_singleton_self _)
  cases hhandles with
  | @subscriptionRequest sr action ms _ haction =>
    refine ⟨_, rfl, ⟨sr, action, hlast, haction, rfl⟩, ?_⟩
    rintro id hdel rfl
    obtain ⟨-, sr', hmem, hid⟩ := h.deleted _ hdel
    exact hnew sr' hmem (congrArg some hid.symm)
  | @subscriptionDeleteRequest id _ hid =>
    obtain ⟨sr, hmem, hsr⟩ := h.exists_of_mem_liveIds hid
    refine ⟨_, rfl, ⟨hlast, sr, List.mem_append_left _ hmem, hsr⟩, ?_⟩
    rintro id' hdel rfl
    exact (h.deleted _ hdel).1 hid
  | @controlRequest cr =>
    refine ⟨_, rfl, ⟨cr, hlast, rfl⟩, ?_⟩
    rintro id hdel rfl
    obtain ⟨-, sr', hmem, hid⟩ := h.deleted _ hdel
    exact hnew sr' hmem (congrArg some hid.symm)

/-- An indication is about a subscription that was requested and not deleted. -/
theorem indication (h : NodeInv N taken i ag) {l : LiveSubscription} (hl : l ∈ ag.live)
    (data : SmIndData) :
    (E2Answer.indication (generateIndication data l.event)).Answers taken i ∧
      ∀ id, (i, .subscriptionDeleteRequest id) ∈ taken →
        (generateIndication data l.event).ricId ≠ id := by
  obtain ⟨sr, action, hmem, haction, hreq⟩ := h.live l hl
  have hevent : l.event = ⟨sr.ricId, action.id⟩ := by
    rw [LiveSubscription.event, hreq, Ap.RicSubscriptionRequest.read, haction]
    rfl
  refine ⟨⟨sr, action, data, hmem, haction, by rw [hevent]⟩, ?_⟩
  rintro id hdel rfl
  exact (h.deleted _ hdel).1 (List.mem_map_of_mem (f := fun l => l.request.ricId) hl)

/-- An expiration leaves the agent where it was. -/
theorem timerExpiry (h : NodeInv N taken i ag) {fd : Fd} {data : SmIndData} {m : Option AgentMsg}
    (he : ag.enabled (.timerExpiry fd data))
    (hturn : ag.turn (N.sms i) (.timerExpiry fd data) = some (m, ag')) : NodeInv N taken i ag' := by
  obtain ⟨rfl, -⟩ := h.subsInv.timerExpiry_cases he hturn
  exact h

end NodeInv

/-- What the nodes have sent, when `taken` was taken from the near-RIC. -/
structure UpInv {ι : Type} [DecidableEq ι] (N : E2Network ι) (taken : List (ι × E2RicMsg))
    (up : Channels ι E2NodeMsg) : Prop where
  /-- a setup request has the id of its node -/
  setup : ∀ i req, (i, .setupRequest req) ∈ up.all → req.id = N.nodeId i
  /-- an answer answers what its node took -/
  answer : ∀ i ans, (i, .answer ans) ∈ up.all → ans.Answers taken i
  /-- and is not about a subscription that the node has reported as deleted -/
  deleted : ∀ i, (up.sent i).Pairwise E2NodeMsg.NotAfterDelete

namespace UpInv

variable {ι : Type} [DecidableEq ι] {N : E2Network ι} {taken taken' : List (ι × E2RicMsg)}
  {up up' : Channels ι E2NodeMsg} {i : ι} {msg : E2NodeMsg}

theorem init (N : E2Network ι) : UpInv N [] ⟨[], []⟩ where
  setup := nofun
  answer := nofun
  deleted := fun _ => .nil

theorem mono (h : UpInv N taken up) (hsub : ∀ p ∈ taken, p ∈ taken') : UpInv N taken' up where
  setup := h.setup
  answer i ans hmem := (h.answer i ans hmem).mono hsub
  deleted := h.deleted

theorem receive (h : UpInv N taken up) (hrecv : up.receive i = some (msg, up')) :
    UpInv N taken up' where
  setup j req hmem := h.setup j req ((Channels.all_perm_of_receive hrecv).mem_iff.1 hmem)
  answer j ans hmem := h.answer j ans ((Channels.all_perm_of_receive hrecv).mem_iff.1 hmem)
  deleted j := by
    rw [Channels.sent_of_receive hrecv]
    exact h.deleted j

/-- A node sends a message. -/
theorem send (h : UpInv N taken up) (hsetup : ∀ req, msg = .setupRequest req → req.id = N.nodeId i)
    (hanswer : ∀ ans, msg = .answer ans → ans.Answers taken i)
    (hdeleted : ∀ m, (i, .answer (.subscriptionDeleteResponse m)) ∈ up.all →
      ∀ ans, msg = .answer ans → ans.ricId ≠ m.ricId) : UpInv N taken (up.send i msg) where
  setup := by
    intro j req hmem
    rw [Channels.all_send] at hmem
    rcases List.mem_append.1 hmem with hmem | hmem
    · exact h.setup j req hmem
    · cases List.mem_singleton.1 hmem
      exact hsetup req rfl
  answer := by
    intro j ans hmem
    rw [Channels.all_send] at hmem
    rcases List.mem_append.1 hmem with hmem | hmem
    · exact h.answer j ans hmem
    · cases List.mem_singleton.1 hmem
      exact hanswer ans rfl
  deleted := by
    intro j
    by_cases hij : i = j
    · subst hij
      rw [Channels.sent_send_self, List.pairwise_append]
      refine ⟨h.deleted i, List.pairwise_singleton _ _, ?_⟩
      intro msg₁ hmem msg₂ hmem₂ m ans hm hans
      cases List.mem_singleton.1 hmem₂
      exact hdeleted m (Channels.mem_sent.1 (hm ▸ hmem)) ans hans
    · rw [Channels.sent_send_of_ne up hij]
      exact h.deleted j

/-- What a node has reported as deleted it was asked for and was asked to delete. -/
theorem of_deleted (h : UpInv N taken up) {m : RicSubscriptionDeleteResponse}
    (hmem : (i, .answer (.subscriptionDeleteResponse m)) ∈ up.all) :
    (i, .subscriptionDeleteRequest m.ricId) ∈ taken ∧
      ∃ sr, (i, .subscriptionRequest sr) ∈ taken ∧ sr.ricId = m.ricId :=
  h.answer i _ hmem

end UpInv

/-- The events that the near-RIC waits for are those of the requests and answers in flight. -/
def Conserved {ι : Type} (outstanding : List PendingEventRic) (down : Channels ι E2RicMsg)
    (up : Channels ι E2NodeMsg) : Prop :=
  outstanding.Perm ((down.flight.flatMap fun p => p.2.event.toList) ++
    up.flight.flatMap fun p => p.2.event.toList)

namespace Conserved

variable {ι : Type} {outstanding : List PendingEventRic} {down down' : Channels ι E2RicMsg}
  {up up' : Channels ι E2NodeMsg} {i : ι}

theorem sendDown (h : Conserved outstanding down up) (i : ι) (msg : E2RicMsg) :
    Conserved (msg.event.toList ++ outstanding) (down.send i msg) up := by
  rw [Conserved, Channels.flight_send, List.flatMap_append, List.flatMap_singleton,
    List.append_assoc]
  refine (h.append_left _).trans ?_
  rw [← List.append_assoc, ← List.append_assoc]
  exact List.perm_append_comm.append_right _

theorem sendUp (h : Conserved outstanding down up) {msg : E2NodeMsg} (hmsg : msg.event = none) :
    Conserved outstanding down (up.send i msg) := by
  rw [Conserved, Channels.flight_send, List.flatMap_append, List.flatMap_singleton, hmsg]
  exact (List.append_nil _).symm ▸ h

variable [DecidableEq ι]

/-- The near-RIC takes a message, and with it the event off its list. -/
theorem receiveUp (h : Conserved outstanding down up) {msg : E2NodeMsg}
    (hrecv : up.receive i = some (msg, up')) :
    (∀ ev, msg.event = some ev → ev ∈ outstanding) ∧
      Conserved (msg.event.elim outstanding fun ev => outstanding.erase ev) down up' := by
  have hperm := (Channels.flight_perm_of_receive hrecv).flatMap_right fun p => p.2.event.toList
  rw [List.flatMap_cons] at hperm
  have hall := h.trans ((hperm.append_left _).trans (List.perm_append_comm_assoc _ _ _))
  cases hev : msg.event with
  | none =>
    rw [hev] at hall
    exact ⟨nofun, hall⟩
  | some ev =>
    rw [hev] at hall
    have hmem : ev ∈ outstanding := hall.mem_iff.2 List.mem_cons_self
    refine ⟨fun ev' hev' => Option.some.inj hev' ▸ hmem, ?_⟩
    exact ((List.perm_cons_erase hmem).symm.trans hall).cons_inv

/-- A node takes a request and sends the answer to it. -/
theorem answer (h : Conserved outstanding down up) {msg : E2RicMsg} {ans : Option E2NodeMsg}
    (hrecv : down.receive i = some (msg, down'))
    (hans : (ans.bind E2NodeMsg.event) = msg.event) :
    Conserved outstanding down' (ans.elim up (up.send i)) := by
  have hperm := (Channels.flight_perm_of_receive hrecv).flatMap_right fun p => p.2.event.toList
  rw [List.flatMap_cons, ← hans] at hperm
  have hall := h.trans (hperm.append_right _)
  cases ans with
  | none => exact hall
  | some ans =>
    rw [Conserved, Option.elim_some, Channels.flight_send, List.flatMap_append,
      List.flatMap_singleton]
    rw [List.append_assoc] at hall
    exact hall.trans (List.perm_append_comm.trans (.of_eq (List.append_assoc _ _ _)))

end Conserved

/-- The answer to a message stops the event of the message. -/
theorem AgentState.Handles.event {sms : List SmAgent} {ag ag' : AgentState} {fd : Fd}
    {msg : E2RicMsg} {ans : Option E2NodeMsg} (h : ag.Handles sms fd msg ans ag') :
    ans.bind E2NodeMsg.event = msg.event := by
  cases h <;> rfl

end FlexRic
