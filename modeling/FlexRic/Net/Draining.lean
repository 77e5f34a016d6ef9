import FlexRic.Net.EndToEnd
import FlexRic.Net.Progress
import Mathlib.Data.Fintype.EquivFin

/-!
# Every request is answered

A network whose parties cooperate does not get stuck. Whatever is on its way, the programs can go
on with what has arrived, without another request or timer, until nothing is on its way any more,
and then every request that was forwarded has its response, which was delivered.
-/

namespace FlexRic

/-! ## The work that is left -/

/-- What the iApp's thread has left to do with a request, with the answer to it. -/
def IappPc.work : IappPc → ℕ
  | idle => 0
  | start _ => 8
  | armed _ _ => 7
  | registered _ => 6
  | sent _ => 1

/-- The request that is not sent yet. -/
def IappPc.toSend : IappPc → List Fwd
  | start r => [r]
  | armed r _ => [r]
  | registered r => [r]
  | _ => []

/-- The requests that were accepted: the one on its way, and those that were sent. -/
def RicState.accepted (s : RicState) : List Fwd := s.iappPc.toSend ++ s.forwarded

/-- What the near-RIC's thread has left to do with an answer. -/
def RicPc.work : RicPc → ℕ
  | idle => 0
  | notify _ => 2
  | routed _ _ => 1

/-- What is done when the message arrives: a request is answered. -/
def E2RicMsg.work : E2RicMsg → ℕ
  | setupResponse _ => 1
  | _ => 4

/-- What is done when the message arrives: a setup request is answered, and an answer handed on. -/
def E2NodeMsg.work : E2NodeMsg → ℕ
  | setupRequest _ => 2
  | answer _ => 3

/-- The steps of the programs with what has arrived. -/
def NetAction.isOwn {ι : Type} : NetAction ι → Bool
  | ric (.createTimer _) => true
  | ric .insertPending => true
  | ric .addMapRicId => true
  | ric .findXapp => true
  | ric .sendAnswer => true
  | sendRequest _ => true
  | ricReceive _ => true
  | nodeReceive _ _ _ => true
  | _ => false

namespace NetState

variable {ι : Type}

/-- The work that is left. -/
def work (s : NetState ι) : ℕ :=
  s.ric.iappPc.work + s.ric.ricPc.work + s.down.weight E2RicMsg.work + s.up.weight E2NodeMsg.work

/-- Nothing is on its way. -/
structure Quiet (s : NetState ι) : Prop where
  iappPc : s.ric.iappPc = .idle
  ricPc : s.ric.ricPc = .idle
  down : s.down.flight = []
  up : s.up.flight = []

variable [DecidableEq ι] {N : E2Network ι} {n : ℕ} {s t : NetState ι}

theorem work_afterSend (r : Fwd) : (RicState.afterSend r).work ≤ 1 := by
  obtain ⟨kind⟩ := r
  cases kind
  · exact Nat.le_refl 1
  · exact Nat.zero_le 1

/-- A request leaves at most this much work. -/
theorem work_of_event {msg : E2RicMsg} {ev : PendingEventRic} (h : msg.event = some ev) :
    msg.work = 4 := by
  cases msg with
  | setupResponse => cases h
  | _ => rfl

/-- With every step of its own there is less work left. -/
theorem CooperationInv.work_lt (h : s.CooperationInv N n) {a : NetAction ι} (hown : a.isOwn = true)
    (ht : s.Trans N a t) : t.work < s.work := by
  cases ht with
  | @ric a ric hint he hric =>
    cases RicState.trans_of_step he hric with
    | createTimer hpc => simp [work, hpc, IappPc.work]
    | insertPending hpc => simp [work, hpc, IappPc.work]
    | addMapRicId hpc => simp [work, hpc, IappPc.work]
    | findXapp hpc => simp [work, hpc, RicPc.work]
    | sendAnswer hpc => simp [work, hpc, RicPc.work]
    | _ => cases hown
  | e42Request => cases hown
  | @sendRequest i r ric msg hpc hdst hric hmsg =>
    have he : s.ric.Enabled .sendRequest := ⟨r, hpc⟩
    have hcontent := (h.net.forward.current r (by simp [hpc, IappPc.current])).2
    have hwork := work_of_event (Fwd.message_eq_some hcontent hmsg).1
    have hafter := work_afterSend r
    cases RicState.trans_of_step he hric with
    | sendRequest hpc' =>
      cases hpc.symm.trans hpc'
      have hregistered : (IappPc.registered r).work = 6 := rfl
      show (RicState.afterSend r).work + s.ric.ricPc.work +
        (s.down.send i msg).weight E2RicMsg.work + s.up.weight E2NodeMsg.work < s.work
      rw [work, Channels.weight_send, hpc, hwork, hregistered]
      omega
  | @setupRequest i req up resp ric hpc hup hric =>
    have he : s.ric.Enabled (.e2SetupRequest req (N.addr i)) := hpc
    cases RicState.trans_of_step he hric with
    | e2SetupRequest =>
      rw [work, work, Channels.weight_send, Channels.weight_of_receive hup]
      simp only [E2NodeMsg.work, E2RicMsg.work]
      omega
  | @e2Answer i ans up ric hpc hup hric =>
    have he : s.ric.Enabled (.e2Answer ans) := hpc
    have hpc' : ric.iappPc = s.ric.iappPc ∧ ric.ricPc = .notify ans := by
      cases RicState.trans_of_step he hric with
      | response => exact ⟨rfl, rfl⟩
      | indication => exact ⟨rfl, rfl⟩
    rw [work, work, Channels.weight_of_receive hup, hpc'.1, hpc'.2, hpc]
    simp only [E2NodeMsg.work, RicPc.work]
    omega
  | start => cases hown
  | @nodeReceive i fd onControl ag ag' msg down ans hag hpos hfd hdown hrecv =>
    obtain ⟨-, hhandles⟩ := (h.net.node i ag hag).subsInv.handles
      (h.net.receivable hag hpos hfd hdown) hrecv
    show s.ric.iappPc.work + s.ric.ricPc.work + down.weight E2RicMsg.work +
      (ans.elim s.up (s.up.send i)).weight E2NodeMsg.work < s.work
    rw [work, Channels.weight_of_receive hdown]
    cases hhandles with
    | setupResponse =>
      show _ + s.up.weight E2NodeMsg.work < _
      simp only [E2RicMsg.work]
      omega
    | _ =>
      show _ + (s.up.send i _).weight E2NodeMsg.work < _
      rw [Channels.weight_send]
      simp only [E2RicMsg.work, E2NodeMsg.work]
      omega
  | nodeTimer => cases hown

/-- It takes no request and loses none. -/
theorem accepted_of_isOwn {a : NetAction ι} (hown : a.isOwn = true) (ht : s.Trans N a t) :
    t.ric.accepted = s.ric.accepted := by
  cases ht with
  | @ric a ric hint he hric =>
    cases RicState.trans_of_step he hric with
    | createTimer hpc => simp [RicState.accepted, hpc, IappPc.toSend]
    | insertPending hpc => simp [RicState.accepted, hpc, IappPc.toSend]
    | addMapRicId hpc => simp [RicState.accepted, hpc, IappPc.toSend]
    | findXapp => rfl
    | sendAnswer => rfl
    | _ => cases hown
  | e42Request => cases hown
  | @sendRequest i r ric msg hpc hdst hric hmsg =>
    have he : s.ric.Enabled .sendRequest := ⟨r, hpc⟩
    cases RicState.trans_of_step he hric with
    | sendRequest hpc' =>
      cases hpc.symm.trans hpc'
      obtain ⟨kind⟩ := r
      cases kind <;> simp [RicState.accepted, RicState.afterSend, hpc, IappPc.toSend]
  | @setupRequest i req up resp ric hpc hup hric =>
    have he : s.ric.Enabled (.e2SetupRequest req (N.addr i)) := hpc
    cases RicState.trans_of_step he hric with
    | e2SetupRequest => rfl
  | @e2Answer i ans up ric hpc hup hric =>
    have he : s.ric.Enabled (.e2Answer ans) := hpc
    cases RicState.trans_of_step he hric with
    | response => rfl
    | indication => rfl
  | start => cases hown
  | nodeReceive => rfl
  | nodeTimer => cases hown

/-- There is a descriptor for a new timer. -/
theorem exists_fresh (io : List Fd) : ∃ fd : Fd, 0 < fd ∧ fd ∉ io := by
  obtain ⟨fd, hfd⟩ := Infinite.exists_notMem_finset (insert 0 io.toFinset)
  rw [Finset.mem_insert, List.mem_toFinset, not_or] at hfd
  exact ⟨fd, Nat.pos_of_ne_zero hfd.1, hfd.2⟩

/-- While something is on its way, one of the programs can go on. -/
theorem CooperationInv.exists_own (h : s.CooperationInv N n) (hbusy : ¬s.Quiet) :
    ∃ a, NetAction.isOwn a = true ∧ s.Enabled N a ∧ s.Cooperates N a := by
  cases hpc : s.ric.iappPc with
  | start r =>
    obtain ⟨fd, hpos, hfd⟩ := exists_fresh s.ric.ric.io
    exact ⟨.ric (.createTimer fd), rfl, ⟨rfl, ⟨r, hpc⟩, hpos, hfd⟩, trivial⟩
  | armed r fd => exact ⟨.ric .insertPending, rfl, ⟨rfl, r, fd, hpc⟩, trivial⟩
  | registered r =>
    obtain ⟨dst, hdst⟩ := h.setup.address.current r (by simp [hpc, IappPc.current])
    obtain ⟨e, he, rfl⟩ := Option.map_eq_some_iff.1 hdst
    obtain ⟨i, hi⟩ := h.net.forward.e2Nodes e ((AssocRbTree.findIf_eq_some he).1)
    refine ⟨.sendRequest i, rfl, ⟨r, hpc, fun dst' hdst' => ?_⟩, trivial⟩
    rw [← Option.some.inj (hdst.symm.trans hdst'), hi]
  | sent r => exact ⟨.ric .addMapRicId, rfl, ⟨rfl, r, hpc⟩, trivial⟩
  | idle =>
    cases hric : s.ric.ricPc with
    | notify ans =>
      have hmtx : s.ric.iappPc.holdsMapMtx = false := by rw [hpc]; rfl
      exact ⟨.ric .findXapp, rfl, ⟨rfl, ⟨ans, hric⟩, hmtx⟩, trivial⟩
    | routed x ans => exact ⟨.ric .sendAnswer, rfl, ⟨rfl, x, ans, hric⟩, trivial⟩
    | idle =>
      by_cases hup : s.up.flight = []
      · have hdown : s.down.flight ≠ [] := fun hdown => hbusy ⟨hpc, hric, hdown, hup⟩
        obtain ⟨⟨i, msg⟩, hmem⟩ := List.exists_mem_of_ne_nil _ hdown
        have hnode : s.node i ≠ none := fun hnone => (h.setup.notStarted i hnone).1 msg hmem
        obtain ⟨ag, hag⟩ := Option.ne_none_iff_exists'.1 hnode
        obtain ⟨fd, hpos, hfd⟩ := exists_fresh ag.ag.io
        exact ⟨.nodeReceive i fd fun _ => some [], rfl, ⟨ag, hag, hpos, hfd, msg, hmem⟩,
          fun _ => Option.some_ne_none _⟩
      · obtain ⟨⟨i, msg⟩, hmem⟩ := List.exists_mem_of_ne_nil _ hup
        exact ⟨.ricReceive i, rfl, ⟨hric, msg, hmem⟩, trivial⟩

/-- When nothing is on its way, the requests have their responses. -/
theorem CooperationInv.answered (h : s.CooperationInv N n) (hn : n < 64515) (hquiet : s.Quiet) :
    (s.ric.forwarded.map Fwd.event).Perm
      (s.ric.delivered.flatMap fun d => d.ans.pendingEvent.toList) := by
  obtain ⟨tr, hrun, -, hout⟩ := h.net.run
  have hperm := RicState.forwarded_perm (System.steps_restrict.1 hrun).1 hout
  have houtstanding : s.ric.outstanding = [] := by
    have hconserved := h.net.conserved
    rw [Conserved, hquiet.down, hquiet.up] at hconserved
    exact hconserved.eq_nil
  have hreceived := (h.net.routeInv hn).received
  rw [hquiet.ricPc] at hreceived
  rw [houtstanding, List.append_nil, hreceived, List.flatMap_append, List.flatMap_map] at hperm
  exact hperm

end NetState

end FlexRic
