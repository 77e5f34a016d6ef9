import FlexRic.Semantics.System
import FlexRic.AlgDs.BimapRuns
import FlexRic.E2ap.Types
import Mathlib.Data.List.Pairwise

/-!
# The pending events of an xApp (`xApp/pending_event_xapp.c`)

A timer of the xApp waits for the answer to one request. The timers are kept in a bidirectional
map whose right comparator sees the kind of the event only, so the removal of an event may stop
the timer of another request of the same kind. The search for an event compares it with the nodes
of the map instead of their keys.

The addresses are those of a 64-bit little-endian machine.
-/

namespace FlexRic

/-- `pending_event_xapp_t`. -/
structure PendingEventXapp : Type where
  ev : PendingEvent
  id : RicGenId
  waitMs : ℕ
  deriving DecidableEq, Repr

/-- `eq_pending_event_xapp`. -/
def eqPendingEventXapp (m₀ m₁ : PendingEventXapp) : Bool := m₀.ev = m₁.ev && m₀.id = m₁.id

theorem eqPendingEventXapp_iff {m₀ m₁ : PendingEventXapp} :
    eqPendingEventXapp m₀ m₁ = true ↔ m₀.ev = m₁.ev ∧ m₀.id = m₁.id := by
  simp [eqPendingEventXapp]

theorem eqPendingEventXapp_self (m : PendingEventXapp) : eqPendingEventXapp m m = true :=
  eqPendingEventXapp_iff.2 ⟨rfl, rfl⟩

theorem eqPendingEventXapp_comm (m₀ m₁ : PendingEventXapp) :
    eqPendingEventXapp m₀ m₁ = eqPendingEventXapp m₁ m₀ := by
  rw [Bool.eq_iff_iff, eqPendingEventXapp_iff, eqPendingEventXapp_iff, eq_comm, @eq_comm _ m₀.id]

/-- `cmp_pending_event` on two `pending_event_xapp_t`: it reads the first member, the kind. -/
def cmpPendingEventXapp (m₀ m₁ : PendingEventXapp) : Ordering := cmpPendingEvent m₀.ev m₁.ev

instance : Std.TransCmp cmpPendingEventXapp := transCmp_comap PendingEventXapp.ev

theorem cmpPendingEventXapp_eq {m₀ m₁ : PendingEventXapp} :
    cmpPendingEventXapp m₀ m₁ = .eq ↔ m₀.ev = m₁.ev := by
  rw [cmpPendingEventXapp]
  exact Std.LawfulEqCmp.compare_eq_iff_eq

/-- An address that `malloc` has answered with. -/
structure HeapPtr : Type where
  addr : UInt64
  /-- it is suitable for an object of any type -/
  aligned : addr.toNat % 16 = 0

/-- The first two members of an `assoc_node_t`, both of them pointers. -/
structure AssocNodePtrs : Type where
  key : HeapPtr
  value : HeapPtr

namespace AssocNodePtrs

/-- The member `ev` of the `pending_event_xapp_t` that a node is taken for. -/
def ev (n : AssocNodePtrs) : ℕ := n.key.addr.toNat % 2 ^ 32

/-- The member `id` of the `pending_event_xapp_t` that a node is taken for. -/
def id (n : AssocNodePtrs) : RicGenId where
  ricReqId := UInt32.ofNat (n.key.addr.toNat / 2 ^ 32)
  ricInstId := UInt16.ofNat n.value.addr.toNat
  ranFuncId := UInt16.ofNat (n.value.addr.toNat / 2 ^ 16)

end AssocNodePtrs

/-- `eq_ev` on an event and a node. -/
def eqEv (m₀ : PendingEventXapp) (m₁ : AssocNodePtrs) : Bool :=
  m₀.ev.toNat = m₁.ev && m₀.id = m₁.id

/-- `pending_event_xapp_ds_t`. -/
structure PendingEventXappDs : Type where
  pending : BiMap Fd PendingEventXapp

namespace PendingEventXappDs

/-- `init_pending_events`. -/
def init : PendingEventXappDs := ⟨.init⟩

/-- `add_pending_event`. -/
def add (p : PendingEventXappDs) (fd : Fd) (ev : PendingEventXapp) : Option PendingEventXappDs :=
  if 0 < fd then some ⟨p.pending.insert cmpFd cmpPendingEventXapp fd ev⟩ else none

/-- `rm_pending_event_ev`: it answers with the timer of the event it has removed. -/
def rmEv (p : PendingEventXappDs) (ev : PendingEventXapp) : Option (Fd × PendingEventXappDs) :=
  p.pending.size.bind fun sz =>
    (p.pending.extractRight cmpFd cmpPendingEventXapp ev).bind fun (fd, pending) =>
      if some sz = pending.size.map (· + 1) ∧ 0 < fd then some (fd, ⟨pending⟩) else none

/-- What `cmp_fd` reads in the memory of an event: the first member, the kind. -/
def asFd (ev : PendingEventXapp) : Fd := ev.ev.toNat

/-- `rm_pending_event_fd`. -/
def rmFd (p : PendingEventXappDs) (fd : Fd) : Option PendingEventXappDs :=
  if 0 < fd then
    (p.pending.extractLeft cmpFd cmpPendingEventXapp asFd fd).map fun (_, pending) => ⟨pending⟩
  else none

/-- `find_pending_event_ev`, where `mem` has the addresses of the key and of the value of each node
of the right tree: `find_if_bi_map_right` hands the node itself over to `eq_ev`. -/
def findEv (mem : PendingEventXapp → Fd → AssocNodePtrs) (p : PendingEventXappDs)
    (ev : PendingEventXapp) : Bool :=
  p.pending.right.toList.any fun n => eqEv ev (mem n.1 n.2)

/-- The timers with the events they wait for. -/
def toList (p : PendingEventXappDs) : List (Fd × PendingEventXapp) := p.pending.toList

variable {p p' : PendingEventXappDs} {fd : Fd} {ev ev' : PendingEventXapp}

theorem rmEv_eq_some (h : p.rmEv ev = some (fd, p')) :
    p.pending.extractRight cmpFd cmpPendingEventXapp ev = some (fd, p'.pending) := by
  obtain ⟨sz, -, h⟩ := Option.bind_eq_some_iff.1 h
  obtain ⟨⟨fd', pending⟩, hext, h⟩ := Option.bind_eq_some_iff.1 h
  obtain ⟨-, heq⟩ := Option.ite_none_right_eq_some.1 h
  cases heq
  exact hext

/-- `rm_pending_event_ev` sees the kind of its event only. -/
theorem rmEv_congr (h : ev.ev = ev'.ev) : p.rmEv ev = p.rmEv ev' := by
  rw [rmEv, rmEv, BiMap.WF.extractRight_congr (cmpPendingEventXapp_eq.2 h)]

/-- The timer of an event whose kind no other has can be removed by its descriptor only if the
descriptor is the number of this kind. -/
theorem rmFd_isSome_iff {M : Matching cmpFd cmpPendingEventXapp} (h : p.pending.Mirrors M)
    (hmem : (fd, ev) ∈ M.pairs) (hfd : 0 < fd) : (p.rmFd fd).isSome ↔ ev.ev.toNat = fd := by
  obtain ⟨m, hext, -⟩ := h.extractLeft asFd hmem Std.ReflCmp.compare_self
  have heq : cmpFd (asFd ev) fd = .eq ↔ ev.ev.toNat = fd := Std.LawfulEqCmp.compare_eq_iff_eq
  rw [rmFd, if_pos hfd, hext, Option.isSome_map]
  by_cases hkind : ev.ev.toNat = fd
  · simp only [heq, hkind, if_true, Option.isSome_some]
  · simp only [heq, hkind, if_false, Option.isSome_none, Bool.false_eq_true]

/-- The timer 7 of an E42 setup request is added and removed by its descriptor: this fails. -/
theorem not_follows_setup :
    ¬(BiMap.machine cmpFd cmpPendingEventXapp asFd).Follows
      (Matching.machine cmpFd cmpPendingEventXapp) BiMap.Mirrors .init ⟨[], .nil⟩
      [.insert 7 ⟨.e42SetupRequest, ⟨0, 0, 0⟩, 3000⟩, .extractLeft 7] := by
  rintro ⟨-, hinsert⟩
  obtain ⟨m, hm, -, hextract⟩ := hinsert _ _ rfl
  cases hm
  obtain ⟨m', hm', -⟩ := hextract _ _ rfl
  cases hm'

/-- What is asked of the timers: the map is well formed, and the descriptors are positive and
pairwise different. -/
structure WF (p : PendingEventXappDs) : Prop where
  /-- the map is well formed -/
  map : p.pending.WF cmpFd cmpPendingEventXapp
  /-- every timer waits for one event -/
  fds : (p.toList.map Prod.fst).Nodup
  /-- the descriptors are positive -/
  pos : ∀ e ∈ p.toList, 0 < e.1

theorem wf_init : init.WF := ⟨BiMap.wf_init, List.nodup_nil, by simp [init, toList]⟩

theorem perm_add (h : p.add fd ev = some p') : p'.toList.Perm ((fd, ev) :: p.toList) := by
  obtain ⟨-, heq⟩ := Option.ite_none_right_eq_some.1 h
  cases heq
  exact BiMap.perm_insert cmpFd cmpPendingEventXapp p.pending fd ev

theorem WF.add (h : p.WF) (hfd : fd ∉ p.toList.map Prod.fst) (hadd : p.add fd ev = some p') :
    p'.WF := by
  have hperm := perm_add hadd
  obtain ⟨hpos, heq⟩ := Option.ite_none_right_eq_some.1 hadd
  cases heq
  refine ⟨h.map.insert fd ev, ?_, ?_⟩
  · rw [(hperm.map Prod.fst).nodup_iff]
    exact List.nodup_cons.2 ⟨hfd, h.fds⟩
  · intro e he
    rcases List.mem_cons.1 (hperm.mem_iff.1 he) with rfl | he
    · exact hpos
    · exact h.pos e he

/-- A removal takes out one timer, and its event has the kind that was asked for. -/
theorem WF.rmEv (h : p.WF) (hrm : p.rmEv ev = some (fd, p')) :
    p'.WF ∧ ∃ ev', ev'.ev = ev.ev ∧ p.toList.Perm ((fd, ev') :: p'.toList) := by
  obtain ⟨hwf, ev', hcmp, hperm⟩ := h.map.extractRight_spec h.fds (rmEv_eq_some hrm)
  have hfds := (hperm.map Prod.fst).nodup_iff.1 h.fds
  refine ⟨⟨hwf, (List.nodup_cons.1 hfds).2, fun e he => ?_⟩, ev', ?_, hperm⟩
  · exact h.pos e (hperm.mem_iff.2 (List.mem_cons_of_mem _ he))
  · exact (cmpPendingEventXapp_eq.1 hcmp).symm

/-- An event whose kind no other timer waits for is removed with its own timer. -/
theorem WF.rmEv_of_mem (h : p.WF) (hmem : (fd, ev) ∈ p.toList)
    (hunique : ∀ e ∈ p.toList, e.2.ev = ev.ev → e = (fd, ev)) :
    ∃ p', p.rmEv ev = some (fd, p') ∧ p.toList.Perm ((fd, ev) :: p'.toList) := by
  obtain ⟨pending, hext, hwf, hperm⟩ := h.map.extractRight_of_mem h.fds
    (fun e he hcmp => hunique e he (cmpPendingEventXapp_eq.1 hcmp).symm) hmem
  refine ⟨⟨pending⟩, ?_, hperm⟩
  have hsize : some p.pending.toList.length = pending.size.map (· + 1) := by
    rw [hwf.size_eq, hperm.length_eq]
    rfl
  rw [PendingEventXappDs.rmEv, h.map.size_eq, Option.bind_some, hext, Option.bind_some]
  exact if_pos ⟨hsize, h.pos _ hmem⟩

/-- The pointers of a node are never the event of an xApp: the low half of an aligned address is
no kind but `SETUP_REQUEST_PENDING_EVENT`, which is one of the agent. -/
theorem eqEv_eq_false (hev : ev.ev ≠ .setupRequest) (n : AssocNodePtrs) : eqEv ev n = false := by
  have halign := n.key.aligned
  have hne : ev.ev.toNat ≠ n.ev := by
    intro heq
    have hmod : ev.ev.toNat % 16 = 0 := by
      rw [heq, AssocNodePtrs.ev]
      omega
    cases hkind : ev.ev with
    | setupRequest => exact hev hkind
    | _ =>
      rw [hkind] at hmod
      cases hmod
  simp [eqEv, hne]

/-- `find_pending_event_ev` finds no event of an xApp. -/
theorem findEv_eq_false (mem : PendingEventXapp → Fd → AssocNodePtrs)
    (hev : ev.ev ≠ .setupRequest) : p.findEv mem ev = false := by
  rw [findEv, List.any_eq_false]
  intro n _
  rw [eqEv_eq_false hev]
  decide

end PendingEventXappDs

/-! ## Adding and removing in any order -/

/-- The pending events of the xApp together with the requests that are outstanding. -/
structure PendingState : Type where
  ds : PendingEventXappDs
  /-- the timers added and not removed, each with the event it was added with -/
  outstanding : List (Fd × PendingEventXapp)

/-- A call of `add_pending_event` or of `rm_pending_event_ev`. -/
inductive PendingAction : Type where
  | add (fd : Fd) (ev : PendingEventXapp)
  | rm (ev : PendingEventXapp)

namespace PendingState

/-- A timer is added with a new descriptor and an event of the xApp that is not outstanding; an
event is removed when it is outstanding. -/
def Enabled (s : PendingState) : PendingAction → Prop
  | .add fd ev => ev.ev ≠ .setupRequest ∧ 0 < fd ∧ fd ∉ s.ds.toList.map Prod.fst ∧
      ∀ e ∈ s.outstanding, eqPendingEventXapp ev e.2 = false
  | .rm ev => ∃ e ∈ s.outstanding, eqPendingEventXapp ev e.2 = true

/-- What the calls do. -/
def step (s : PendingState) : PendingAction → Option PendingState
  | .add fd ev => (s.ds.add fd ev).map fun ds => ⟨ds, (fd, ev) :: s.outstanding⟩
  | .rm ev => (s.ds.rmEv ev).map fun (_, ds) =>
      ⟨ds, s.outstanding.eraseP fun e => eqPendingEventXapp ev e.2⟩

/-- The calls in any order. -/
def system : System PendingState PendingAction where
  init := ⟨.init, []⟩
  enabled := Enabled
  step := step

/-- The removal of an outstanding event answers with its own timer and leaves the others. -/
def RmCorrect (s : PendingState) : Prop :=
  ∀ e ∈ s.outstanding, ∀ ev, eqPendingEventXapp ev e.2 = true →
    ∃ ds', s.ds.rmEv ev = some (e.1, ds') ∧ ds'.toList.Perm (s.outstanding.erase e)

/-- An event of the xApp is found if and only if it is outstanding, wherever the nodes of the map
are. -/
def FindCorrect (s : PendingState) : Prop :=
  ∀ mem ev, ev.ev ≠ .setupRequest →
    (s.ds.findEv mem ev = true ↔ ∃ e ∈ s.outstanding, eqPendingEventXapp ev e.2 = true)

/-- No two outstanding events have the same kind. -/
def DistinctKinds (s : PendingState) : Prop :=
  (s.outstanding.map fun e => e.2.ev).Nodup

/-- The map holds the outstanding events. -/
structure Agree (s : PendingState) : Prop where
  /-- the map is well formed -/
  wf : s.ds.WF
  /-- it holds the outstanding events and no others -/
  perm : s.ds.toList.Perm s.outstanding
  /-- they are events of the xApp -/
  kind : ∀ e ∈ s.outstanding, e.2.ev ≠ .setupRequest
  /-- they are pairwise different -/
  distinct : s.outstanding.Pairwise fun e e' => eqPendingEventXapp e.2 e'.2 = false

variable {s t : PendingState} {a : PendingAction}

theorem agree_init : system.init.Agree :=
  ⟨PendingEventXappDs.wf_init, .refl _, nofun, .nil⟩

/-- Only one outstanding event is the one that is removed. -/
theorem Agree.erase_perm (h : s.Agree) {e : Fd × PendingEventXapp} {ev : PendingEventXapp}
    (he : e ∈ s.outstanding) (heq : eqPendingEventXapp ev e.2 = true) :
    (s.outstanding.erase e).Perm (s.outstanding.eraseP fun e => eqPendingEventXapp ev e.2) := by
  obtain ⟨e', l₁, l₂, -, heq', hl, herase⟩ :=
    @List.exists_of_eraseP _ (fun e => eqPendingEventXapp ev e.2) _ _ he heq
  have he' : e' ∈ s.outstanding := by
    rw [hl]
    exact List.mem_append_right _ List.mem_cons_self
  have hsame : e = e' := by
    by_contra hne
    obtain ⟨hkind, hid⟩ := eqPendingEventXapp_iff.1 heq
    obtain ⟨hkind', hid'⟩ := eqPendingEventXapp_iff.1 heq'
    have hsymm : Std.Symm fun e e' : Fd × PendingEventXapp =>
        eqPendingEventXapp e.2 e'.2 = false :=
      ⟨fun x y hxy => (eqPendingEventXapp_comm _ _).trans hxy⟩
    have hdiff : eqPendingEventXapp e.2 e'.2 = false := h.distinct.forall he he' hne
    rw [eqPendingEventXapp_iff.2 ⟨hkind.symm.trans hkind', hid.symm.trans hid'⟩] at hdiff
    cases hdiff
  subst hsame
  rw [herase]
  have hperm : s.outstanding.Perm (e :: (l₁ ++ l₂)) := by
    rw [hl]
    exact List.perm_middle
  exact ((List.perm_cons_erase he).symm.trans hperm).cons_inv

/-- As long as the removals are right, the map holds the outstanding events. -/
theorem Agree.step (h : s.Agree) (hrm : s.RmCorrect) (he : s.Enabled a) (ht : s.step a = some t) :
    t.Agree := by
  cases a with
  | add fd ev =>
    obtain ⟨hkind, -, hfd, hnew⟩ := he
    obtain ⟨ds, hadd, rfl⟩ := Option.map_eq_some_iff.1 ht
    refine ⟨h.wf.add hfd hadd, (PendingEventXappDs.perm_add hadd).trans (h.perm.cons _),
      List.forall_mem_cons.2 ⟨hkind, h.kind⟩, List.pairwise_cons.2 ⟨hnew, h.distinct⟩⟩
  | rm ev =>
    obtain ⟨e, he, heq⟩ := he
    obtain ⟨⟨fd, ds⟩, hrmEv, rfl⟩ := Option.map_eq_some_iff.1 ht
    obtain ⟨ds', hrmEv', hperm⟩ := hrm e he ev heq
    rw [hrmEv] at hrmEv'
    cases hrmEv'
    have hsub : (s.outstanding.eraseP fun e => eqPendingEventXapp ev e.2).Sublist s.outstanding :=
      List.eraseP_sublist
    exact ⟨(h.wf.rmEv hrmEv).1, hperm.trans (h.erase_perm he heq),
      fun e' he' => h.kind e' (hsub.subset he'), h.distinct.sublist hsub⟩

/-- Where the map holds the outstanding events, the removals are right exactly if no two of the
events have the same kind. -/
theorem Agree.rmCorrect_iff (h : s.Agree) : s.RmCorrect ↔ s.DistinctKinds := by
  have hnodup : s.outstanding.Nodup := h.perm.nodup_iff.1 (h.wf.fds.of_map _)
  have hfds : (s.outstanding.map Prod.fst).Nodup := (h.perm.map Prod.fst).nodup_iff.1 h.wf.fds
  rw [DistinctKinds, List.nodup_map_iff_inj_on hnodup]
  constructor
  · intro hrm e he e' he' hkind
    obtain ⟨ds, hds, -⟩ := hrm e he e.2 (eqPendingEventXapp_self _)
    obtain ⟨ds', hds', -⟩ := hrm e' he' e'.2 (eqPendingEventXapp_self _)
    -- the two removals see the same kind, so they answer with the same timer
    rw [PendingEventXappDs.rmEv_congr hkind, hds'] at hds
    injection hds with hpair
    injection hpair with hfd
    exact List.inj_on_of_nodup_map hfds he he' hfd.symm
  · intro hkinds e he ev heq
    have hkind := (eqPendingEventXapp_iff.1 heq).1
    obtain ⟨ds', hds', hperm⟩ := h.wf.rmEv_of_mem (h.perm.mem_iff.2 he) fun e' he' hkind' =>
      hkinds e' (h.perm.mem_iff.1 he') e he hkind'
    refine ⟨ds', (PendingEventXappDs.rmEv_congr hkind).trans hds', ?_⟩
    have herase := List.perm_cons_erase he
    exact (hperm.symm.trans (h.perm.trans herase)).cons_inv

/-- Where the map holds the outstanding events, the search is right exactly if there are none. -/
theorem Agree.findCorrect_iff (h : s.Agree) : s.FindCorrect ↔ s.outstanding = [] := by
  constructor
  · intro hfind
    apply List.eq_nil_iff_forall_not_mem.2
    intro e he
    have hfound := (hfind (fun _ _ => ⟨⟨16, rfl⟩, ⟨16, rfl⟩⟩) e.2 (h.kind e he)).2
      ⟨e, he, eqPendingEventXapp_self _⟩
    rw [PendingEventXappDs.findEv_eq_false _ (h.kind e he)] at hfound
    cases hfound
  · intro hnil mem ev hkind
    rw [PendingEventXappDs.findEv_eq_false mem hkind, hnil]
    simp

/-- A run keeps the map and the outstanding events together as long as its removals are right. -/
theorem agree_run {tr : List (PendingState × PendingAction)} (h : system.Run tr s)
    (hrm : ∀ p ∈ tr, p.1.RmCorrect) : s.Agree := by
  induction h with
  | nil => exact agree_init
  | cons _ he ht ih =>
    obtain ⟨hlast, hrest⟩ := List.forall_mem_cons.1 hrm
    exact (ih hrest).step hlast he ht

/-- In the runs without two outstanding events of one kind all removals are right. -/
theorem rmCorrect_run {tr : List (PendingState × PendingAction)} (h : system.Run tr s)
    (hkinds : ∀ u ∈ System.visited tr s, u.DistinctKinds) :
    ∀ u ∈ System.visited tr s, u.RmCorrect := by
  induction h with
  | nil =>
    refine List.forall_mem_singleton.2 (agree_init.rmCorrect_iff.2 ?_)
    exact hkinds _ List.mem_cons_self
  | @cons tr t u a hrun he ht ih =>
    obtain ⟨hlast, hrest⟩ := List.forall_mem_cons.1 hkinds
    have hbefore := ih hrest
    refine List.forall_mem_cons.2 ⟨?_, hbefore⟩
    have hagree : u.Agree := agree_run (hrun.cons he ht) fun p hp =>
      hbefore _ (List.mem_map_of_mem hp)
    exact hagree.rmCorrect_iff.2 hlast

/-- In every run, the removals are right in all states exactly if no two outstanding events ever
have the same kind; the removals and the searches are, exactly if nothing is ever outstanding. -/
theorem pendingEvents_iff {tr : List (PendingState × PendingAction)} (h : system.Run tr s) :
    ((∀ u ∈ System.visited tr s, u.RmCorrect ∧ u.FindCorrect) ↔
      ∀ u ∈ System.visited tr s, u.outstanding = []) ∧
    ((∀ u ∈ System.visited tr s, u.RmCorrect) ↔
      ∀ u ∈ System.visited tr s, u.DistinctKinds) := by
  have hagree : (∀ u ∈ System.visited tr s, u.RmCorrect) → ∀ u ∈ System.visited tr s, u.Agree := by
    intro hrm u hu
    obtain ⟨tr', hrun, hsub⟩ := h.of_mem_visited hu
    exact agree_run hrun fun p hp => hrm _ (List.mem_cons_of_mem _ (List.mem_map_of_mem (hsub hp)))
  refine ⟨⟨?_, ?_⟩, ?_, rmCorrect_run h⟩
  · intro hcorrect u hu
    exact ((hagree fun u hu => (hcorrect u hu).1) u hu).findCorrect_iff.1 (hcorrect u hu).2
  · intro hnil
    have hrm := rmCorrect_run h fun u hu => by simp [DistinctKinds, hnil u hu]
    exact fun u hu => ⟨hrm u hu, (hagree hrm u hu).findCorrect_iff.2 (hnil u hu)⟩
  · intro hrm u hu
    exact (hagree hrm u hu).rmCorrect_iff.1 (hrm u hu)

/-- The event of the subscription request with the id `reqId`. -/
def subscription (reqId : UInt32) : PendingEventXapp :=
  ⟨.e42RicSubscriptionRequest, ⟨reqId, 0, 142⟩, 5000⟩

/-- The timer of the only outstanding request is the one that is removed. -/
theorem pendingEvents_one : ∃ tr s, system.Run tr s ∧ s.outstanding = [(4, subscription 1)] ∧
    s.RmCorrect := by
  have henabled : system.enabled system.init (.add 4 (subscription 1)) :=
    ⟨nofun, by decide, List.not_mem_nil, nofun⟩
  have hstep : system.step system.init (.add 4 (subscription 1)) = some _ := rfl
  have hrun := System.Steps.single henabled hstep
  refine ⟨_, _, hrun, rfl, (pendingEvents_iff hrun).2.2 ?_ _ List.mem_cons_self⟩
  exact List.forall_mem_cons.2 ⟨List.nodup_singleton _, List.forall_mem_singleton.2 List.nodup_nil⟩

/-- With two subscription requests outstanding, the removal of the second one answers with the
timer of the first one, and the search finds neither of them. -/
theorem pendingEvents_two : ∃ tr s, system.Run tr s ∧
    s.outstanding = [(5, subscription 2), (4, subscription 1)] ∧
    (∃ ds, s.ds.rmEv (subscription 2) = some (4, ds)) ∧
    (∀ mem, s.ds.findEv mem (subscription 2) = false) ∧
    ¬∀ u ∈ System.visited tr s, u.RmCorrect ∧ u.FindCorrect := by
  have hsched : ∃ s, system.Sched system.init
      [.add 4 (subscription 1), .add 5 (subscription 2)] s ∧
      s.outstanding = [(5, subscription 2), (4, subscription 1)] ∧
      ∃ ds, s.ds.rmEv (subscription 2) = some (4, ds) :=
    ⟨_, ⟨⟨nofun, by decide, List.not_mem_nil, nofun⟩, _, rfl,
      ⟨nofun, by decide, by decide, List.forall_mem_singleton.2 rfl⟩, _, rfl, rfl⟩, rfl, _, rfl⟩
  obtain ⟨s, hsched, hout, ds, hrm⟩ := hsched
  obtain ⟨tr, hrun, -⟩ := hsched.steps
  refine ⟨tr, s, hrun, hout, ⟨ds, hrm⟩,
    fun mem => PendingEventXappDs.findEv_eq_false mem nofun, fun hcorrect => ?_⟩
  obtain ⟨ds', hds', -⟩ := (hcorrect s List.mem_cons_self).1 (5, subscription 2)
    (by rw [hout]; exact List.mem_cons_self) _ (eqPendingEventXapp_self _)
  rw [hrm] at hds'
  cases hds'

end PendingState

end FlexRic
