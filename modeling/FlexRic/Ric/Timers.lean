import FlexRic.Ric.Threads

/-!
# The pending timers of the near-RIC

Every armed timer is registered in `pending` with the event it was armed for, except the one that
the iApp's thread is about to register. From this follow both results: which timers the expiry
handling can resolve, and that a response stops exactly the timer of its request.
-/

namespace FlexRic

namespace RicState

/-- The timers in the epoll instance are the armed ones, each with its own descriptor, and
`pending` holds all of them but the one not registered yet. -/
structure TimerInv (s : RicState) : Prop where
  /-- `pending` is well formed -/
  wf : s.ric.pending.WF cmpFd cmpPendingEventRic
  /-- no descriptor is in the epoll instance twice -/
  io_nodup : s.ric.io.Nodup
  /-- the descriptors are those of the timers and the socket -/
  io_perm : s.ric.io.Perm (s.timers.map Prod.fst ++ [s.ric.epFd])
  /-- the timers have positive descriptors -/
  pos : ∀ t ∈ s.timers, 0 < t.1
  /-- the timers are the one not registered yet and those in `pending` -/
  timers_perm : s.timers.Perm (s.iappPc.unregistered ++ s.ric.pending.toList)

namespace TimerInv

variable {s : RicState}

theorem timers_nodup (h : s.TimerInv) : (s.timers.map Prod.fst).Nodup :=
  (List.nodup_append.1 (h.io_perm.nodup_iff.1 h.io_nodup)).1

theorem mem_io (h : s.TimerInv) {t : Fd × PendingEventRic} (ht : t ∈ s.timers) :
    t.1 ∈ s.ric.io :=
  h.io_perm.mem_iff.2 (List.mem_append_left _ (List.mem_map_of_mem ht))

theorem ne_epFd (h : s.TimerInv) {t : Fd × PendingEventRic} (ht : t ∈ s.timers) :
    t.1 ≠ s.ric.epFd := by
  have hnodup := List.nodup_append.1 (h.io_perm.nodup_iff.1 h.io_nodup)
  exact hnodup.2.2 _ (List.mem_map_of_mem ht) _ List.mem_cons_self

theorem mem_timers (h : s.TimerInv) {t : Fd × PendingEventRic}
    (ht : t ∈ s.ric.pending.toList) : t ∈ s.timers :=
  h.timers_perm.mem_iff.2 (List.mem_append_right _ ht)

theorem pending_nodup (h : s.TimerInv) : (s.ric.pending.toList.map Prod.fst).Nodup := by
  have hperm := (h.timers_perm.map Prod.fst).nodup_iff.1 h.timers_nodup
  rw [List.map_append] at hperm
  exact (List.nodup_append.1 hperm).2.1

/-- A timer is in `pending` only once, and not if it is still to be registered. -/
theorem eq_of_fd_eq (h : s.TimerInv) {t t' : Fd × PendingEventRic} (ht : t ∈ s.timers)
    (ht' : t' ∈ s.timers) (heq : t.1 = t'.1) : t = t' :=
  List.inj_on_of_nodup_map h.timers_nodup ht ht' heq

/-- An event that is pending can be stopped. -/
theorem stopPendingEvent_ne_none (h : s.TimerInv) {ev : PendingEventRic}
    (hev : ev ∈ s.ric.pending.toList.map Prod.snd) :
    ∃ ric', s.ric.stopPendingEvent ev = some ric' := by
  obtain ⟨⟨fd, ev'⟩, hmem, rfl⟩ := List.mem_map.1 hev
  obtain ⟨fd', pending', hext⟩ :=
    h.wf.extractRight_isSome h.pending_nodup hmem Std.ReflCmp.compare_self
  obtain ⟨-, key, -, hperm⟩ := h.wf.extractRight_spec h.pending_nodup hext
  have htimer := h.mem_timers (hperm.mem_iff.2 List.mem_cons_self)
  refine ⟨{ s.ric with pending := pending', io := s.ric.io.erase fd' }, ?_⟩
  rw [NearRic.stopPendingEvent, hext, Option.bind_some]
  simp only [if_pos (h.pos _ htimer)]
  exact NearRic.rmFdAsioRic_eq_some.2 ⟨h.mem_io htimer, rfl⟩

end TimerInv

theorem timerInv_init (epFd : Fd) (plugin : List SmRic) : (init epFd plugin).TimerInv where
  wf := BiMap.wf_init
  io_nodup := List.nodup_singleton epFd
  io_perm := .refl _
  pos := by simp [init]
  timers_perm := .refl _

theorem TimerInv.step {s t : RicState} {a : RicAction} (h : s.TimerInv) (ht : s.Trans a t) :
    t.TimerInv := by
  have hperm := h.timers_perm
  cases ht with
  | e42SetupRequest hpc => exact { h with }
  | e42RicRequest hpc =>
    rw [hpc] at hperm
    exact { h with timers_perm := hperm }
  | e42RicSubscriptionDeleteRequest hpc =>
    rw [hpc] at hperm
    exact { h with timers_perm := hperm }
  | @createTimer fd r hpc hpos hfresh =>
    rw [hpc] at hperm
    exact { h with
      io_nodup := List.nodup_cons.2 ⟨hfresh, h.io_nodup⟩
      io_perm := h.io_perm.cons fd
      pos := List.forall_mem_cons.2 ⟨hpos, h.pos⟩
      timers_perm := hperm.cons _ }
  | @insertPending r fd hpc =>
    rw [hpc] at hperm
    exact { h with
      wf := h.wf.insert fd r.event
      timers_perm := hperm.trans (BiMap.perm_insert _ _ _ _ _).symm }
  | @sendRequest r dst hpc =>
    rw [hpc] at hperm
    refine { h with timers_perm := ?_ }
    rw [unregistered_afterSend]
    exact hperm
  | addMapRicId hpc =>
    rw [hpc] at hperm
    exact { h with timers_perm := hperm }
  | e2SetupRequest => exact { h with }
  | @response ans ev fd pending hpc hev hext hfd =>
    obtain ⟨hwf, key, hkey, hpend⟩ := h.wf.extractRight_spec h.pending_nodup hext
    have hts : s.timers.Perm ((fd, key) :: (s.iappPc.unregistered ++ pending.toList)) :=
      hperm.trans ((hpend.append_left _).trans List.perm_middle)
    obtain ⟨hfilter, hio⟩ := filter_erase_perm h.io_nodup h.io_perm hts
    refine ⟨hwf, h.io_nodup.erase fd, ?_, ?_, hfilter⟩
    · exact hio.trans ((hfilter.symm.map Prod.fst).append_right _)
    · exact fun t' ht' => h.pos t' (List.mem_of_mem_filter ht')
  | indication hpc =>
    have hall : (s.timers.filter fun t' => t'.1 ∈ s.ric.io) = s.timers :=
      List.filter_eq_self.2 fun t' ht' => decide_eq_true (h.mem_io ht')
    rw [hall]
    exact { h with }
  | findXapp => exact { h with }
  | sendAnswer => exact { h with }
  | timerExpiry => exact h

/-- The timer invariant holds whatever the threads and the network do. -/
theorem timerInv_reachable {epFd : Fd} {plugin : List SmRic} {s : RicState}
    (h : (threads epFd plugin).Reachable s) : s.TimerInv :=
  threads_invariant h (timerInv_init epFd plugin) fun _ _ _ hs ht => hs.step ht

/-! ## Expiry -/

/-- `pend_event` resolves a timer exactly if the timer is registered and no other one is. -/
theorem TimerInv.pendEvent_eq_some {s : RicState} (h : s.TimerInv) {t : Fd × PendingEventRic}
    (ht : t ∈ s.timers) :
    s.ric.pendEvent t.1 = some t.2 ↔ s.ric.pending.toList = [t] := by
  have hsize := h.wf.size_eq
  constructor
  · intro hev
    obtain ⟨hcond, hev⟩ := Option.ite_none_right_eq_some.1 hev
    obtain ⟨e, hfind, heq⟩ := Option.map_eq_some_iff.1 hev
    have hmem : e ∈ s.ric.pending.toList := (AssocRbTree.findIf_eq_some hfind).1
    have hfd := (AssocRbTree.findIf_eq_some hfind).2
    have het : e = t :=
      h.eq_of_fd_eq (h.mem_timers hmem) ht (of_decide_eq_true hfd).symm
    rw [hcond.2, Option.some_inj] at hsize
    obtain ⟨e', he'⟩ := List.length_eq_one_iff.1 hsize.symm
    rw [he'] at hmem ⊢
    rw [← het, List.mem_singleton.1 hmem]
  · intro hlist
    have hfind : ∃ e, (s.ric.pending.left.findIf fun fd' => t.1 = fd') = some e :=
      AssocRbTree.exists_findIf (show t ∈ s.ric.pending.toList by rw [hlist]; simp) (by simp)
    obtain ⟨e, he⟩ := hfind
    have hmem : e ∈ s.ric.pending.toList := (AssocRbTree.findIf_eq_some he).1
    rw [hlist, List.mem_singleton] at hmem
    rw [NearRic.pendEvent, if_pos ⟨h.pos t ht, by rw [hsize, hlist]; rfl⟩, he, hmem]
    rfl

/-- Whichever timer fires, its event is found. -/
def ExpiryResolves (s : RicState) : Prop :=
  ∀ t ∈ s.timers, ∀ msg, s.ric.nextAsioEventRic (some t.1) msg = some (.pendingEvent t.2)

/-- The expiry handling works exactly as long as at most one timer is armed, and that one is
registered: `pend_event` asserts that one event is pending. -/
theorem expiryResolves_iff {epFd : Fd} {plugin : List SmRic} {s : RicState}
    (h : (threads epFd plugin).Reachable s) :
    s.ExpiryResolves ↔
      s.timers = [] ∨ (s.timers.length = 1 ∧ s.iappPc.unregistered = []) := by
  have hinv := timerInv_reachable h
  have hnext : ∀ t ∈ s.timers, ∀ msg,
      s.ric.nextAsioEventRic (some t.1) msg = some (.pendingEvent t.2) ↔
        s.ric.pending.toList = [t] := by
    intro t ht msg
    rw [← hinv.pendEvent_eq_some ht]
    simp only [NearRic.nextAsioEventRic, if_neg (hinv.ne_epFd ht)]
    cases s.ric.pendEvent t.1 <;> simp
  have hlen := hinv.timers_perm.length_eq
  rw [List.length_append] at hlen
  constructor
  · intro hres
    cases htimers : s.timers with
    | nil => exact .inl rfl
    | cons t ts =>
      have ht : t ∈ s.timers := by simp [htimers]
      have hpend := (hnext t ht .payload).1 (hres t ht .payload)
      right
      -- every armed timer is the registered one, so there is only one
      have hall : ∀ t' ∈ s.timers, t' = t := by
        intro t' ht'
        have hpend' := (hnext t' ht' .payload).1 (hres t' ht' .payload)
        rw [hpend] at hpend'
        exact (List.cons.inj hpend').1.symm
      have hts : ts = [] := by
        apply List.eq_nil_iff_forall_not_mem.2
        intro t' ht'
        have hnodup := hinv.timers_nodup
        rw [htimers, List.map_cons, List.nodup_cons] at hnodup
        have heq := hall t' (by simp [htimers, ht'])
        exact hnodup.1 (heq ▸ List.mem_map_of_mem ht')
      rw [htimers, hts, hpend] at hlen
      rw [hts]
      exact ⟨rfl, List.length_eq_zero_iff.1 (by simp only [List.length_singleton] at hlen; omega)⟩
  · rintro (hnil | ⟨hone, hreg⟩) t ht msg
    · rw [hnil] at ht
      cases ht
    · obtain ⟨t', ht'⟩ := List.length_eq_one_iff.1 hone
      have hperm := hinv.timers_perm
      rw [hreg, ht'] at hperm
      rw [ht', List.mem_singleton] at ht
      rw [hnext t (by rw [ht', ht]; simp) msg, ht]
      exact List.perm_singleton.1 hperm.symm

/-- One registered timer, in the small network: its expiry is handled. -/
theorem expiryResolves_one : ∃ s, Sample.ric.Reachable s ∧ s.timers.length = 1 ∧
    s.ExpiryResolves := by
  have hsched : ∃ s, Sample.ric.Sched Sample.connected (Sample.forward .subscription 4) s ∧
      s.timers.length = 1 ∧ s.iappPc.unregistered = [] :=
    ⟨_, ⟨rfl, _, rfl, ⟨⟨_, rfl⟩, by decide, by decide⟩, _, rfl, ⟨_, _, rfl⟩, _, rfl, ⟨_, rfl⟩, _,
      rfl, ⟨_, rfl⟩, _, rfl, rfl⟩, rfl, rfl⟩
  obtain ⟨s, hsched, hone, hreg⟩ := hsched
  have hreach := Sample.reachable_of_sched hsched
  exact ⟨s, hreach, hone, (expiryResolves_iff hreach).2 (.inr ⟨hone, hreg⟩)⟩

/-- Two subscriptions that are not answered yet: the first timer that fires fails an assertion. -/
theorem expiry_fails_two : ∃ s, Sample.ric.Reachable s ∧ ¬s.ExpiryResolves := by
  have hsched : ∃ s, Sample.ric.Sched Sample.connected
      (Sample.forward .subscription 4 ++ Sample.forward .subscription 5) s ∧
      (5 ∈ s.timers.map Prod.fst ∧ s.ric.nextAsioEventRic (some 5) .payload = none) :=
    ⟨_, ⟨rfl, _, rfl, ⟨⟨_, rfl⟩, by decide, by decide⟩, _, rfl, ⟨_, _, rfl⟩, _, rfl, ⟨_, rfl⟩, _,
      rfl, ⟨_, rfl⟩, _, rfl, rfl, _, rfl, ⟨⟨_, rfl⟩, by decide, by decide⟩, _, rfl, ⟨_, _, rfl⟩, _,
      rfl, ⟨_, rfl⟩, _, rfl, ⟨_, rfl⟩, _, rfl, rfl⟩, by decide, rfl⟩
  obtain ⟨s, hsched, hmem, hnone⟩ := hsched
  refine ⟨s, Sample.reachable_of_sched hsched, fun hres => ?_⟩
  obtain ⟨⟨fd, ev⟩, ht, heq⟩ := List.mem_map.1 hmem
  cases heq
  have hsome := hres _ ht .payload
  rw [hnone] at hsome
  cases hsome

/-! ## Responses

From here on every response answers a request that was sent and not answered before. -/

/-- Every response answers an outstanding request. -/
def AnswersOutstanding (s : RicState) : RicAction → Prop
  | .e2Answer ans => ∀ ev, ans.pendingEvent = some ev → ev ∈ s.outstanding
  | _ => True

/-- The pending events are those of the outstanding requests, and of the request that is
registered but not sent yet. -/
def OutstandingInv (s : RicState) : Prop :=
  (s.ric.pending.toList.map Prod.snd).Perm (s.iappPc.unsent ++ s.outstanding)

theorem OutstandingInv.step {s t : RicState} {a : RicAction} (h : s.OutstandingInv)
    (hinv : s.TimerInv) (hguard : s.AnswersOutstanding a) (ht : s.Trans a t) :
    t.OutstandingInv := by
  rw [OutstandingInv] at h
  cases ht with
  | e42SetupRequest hpc => exact h
  | e42RicRequest hpc =>
    rw [hpc] at h
    exact h
  | e42RicSubscriptionDeleteRequest hpc =>
    rw [hpc] at h
    exact h
  | createTimer hpc =>
    rw [hpc] at h
    exact h
  | insertPending hpc =>
    rw [hpc] at h
    exact ((BiMap.perm_insert _ _ _ _ _).map Prod.snd).trans (h.cons _)
  | @sendRequest r dst hpc =>
    rw [hpc] at h
    show (s.ric.pending.toList.map Prod.snd).Perm ((afterSend r).unsent ++ r.event :: s.outstanding)
    rw [unsent_afterSend]
    exact h
  | addMapRicId hpc =>
    rw [hpc] at h
    exact h
  | e2SetupRequest => exact h
  | @response ans ev fd pending hpc hev hext hfd =>
    obtain ⟨-, key, hkey, hpend⟩ := hinv.wf.extractRight_spec hinv.pending_nodup hext
    cases Std.LawfulEqCmp.eq_of_compare hkey
    have herase : s.outstanding.Perm (ev :: s.outstanding.erase ev) :=
      List.perm_cons_erase (hguard ev hev)
    have hcons := ((hpend.map Prod.snd).symm.trans h).trans
      ((herase.append_left _).trans List.perm_middle)
    exact hcons.cons_inv
  | indication => exact h
  | findXapp => exact h
  | sendAnswer => exact h
  | timerExpiry => exact h

/-- In runs whose responses all answer outstanding requests, the event of every outstanding
request is pending. -/
theorem outstandingInv_run {epFd : Fd} {plugin : List SmRic} {tr : List (RicState × RicAction)}
    {s : RicState} (h : (threads epFd plugin).Run tr s)
    (hguard : ∀ p ∈ tr, p.1.AnswersOutstanding p.2) : s.OutstandingInv := by
  induction h with
  | nil => exact .refl _
  | cons hrun he ht ih =>
    obtain ⟨hlast, hrest⟩ := List.forall_mem_cons.1 hguard
    exact (ih hrest).step (timerInv_reachable ⟨_, hrun⟩) hlast (trans_of_step he ht)

/-- The requests in flight are pairwise different, as pairs of event kind and id, and every
response answers an outstanding request. -/
def DistinctRequests (s : RicState) : RicAction → Prop
  | .createTimer _ => ∀ r, s.iappPc = .start r → r.event ∉ s.timers.map Prod.snd
  | a => s.AnswersOutstanding a

theorem DistinctRequests.answers {s : RicState} {a : RicAction} (h : s.DistinctRequests a) :
    s.AnswersOutstanding a := by
  cases a with
  | createTimer => trivial
  | _ => exact h

/-- With distinct requests no two timers wait for the same event. -/
theorem events_nodup {epFd : Fd} {plugin : List SmRic} {s : RicState}
    (h : ((threads epFd plugin).restrict DistinctRequests).Reachable s) :
    (s.timers.map Prod.snd).Nodup := by
  obtain ⟨tr, hrun⟩ := h
  induction hrun with
  | nil => exact List.nodup_nil
  | cons _ he ht ih =>
    obtain ⟨he, hdistinct⟩ := he
    cases trans_of_step he ht with
    | createTimer hpc => exact List.nodup_cons.2 ⟨hdistinct _ hpc, ih⟩
    | response => exact ih.sublist (List.filter_sublist.map Prod.snd)
    | indication => exact ih.sublist (List.filter_sublist.map Prod.snd)
    | _ => exact ih

/-- A response stops exactly the timer armed for its pair of event kind and id. The timer is
found, it is the only one armed for the pair, it alone leaves the epoll instance and `pending`, and
every other timer stays registered for its own event or is still to be registered for it. -/
theorem stopPendingEvent_exact {epFd : Fd} {plugin : List SmRic} {s : RicState}
    (h : ((threads epFd plugin).restrict DistinctRequests).Reachable s) {ev : PendingEventRic}
    (hev : ev ∈ s.outstanding) :
    ∃ fd ric', s.ric.stopPendingEvent ev = some ric' ∧
      (∀ fd', (fd', ev) ∈ s.timers ↔ fd' = fd) ∧
      (∀ fd', fd' ∈ ric'.io ↔ fd' ∈ s.ric.io ∧ fd' ≠ fd) ∧
      ric'.pending.WF cmpFd cmpPendingEventRic ∧
      (∀ t, t ∈ ric'.pending.toList ↔ t ∈ s.ric.pending.toList ∧ t ≠ (fd, ev)) ∧
      ∀ t ∈ s.timers, t ≠ (fd, ev) → t ∈ s.iappPc.unregistered ++ ric'.pending.toList := by
  obtain ⟨tr, hrun⟩ := h
  obtain ⟨hrun', hguard⟩ := System.steps_restrict.1 hrun
  have hinv := timerInv_reachable ⟨tr, hrun'⟩
  have hout := outstandingInv_run hrun' fun p hp => (hguard p hp).answers
  have hnodup := events_nodup ⟨tr, hrun⟩
  -- the event is pending, since its request is outstanding
  obtain ⟨⟨fd, ev'⟩, hpending, rfl⟩ :=
    List.mem_map.1 (hout.mem_iff.2 (List.mem_append_right _ hev))
  have honly : ∀ fd', (fd', ev') ∈ s.timers ↔ fd' = fd := by
    intro fd'
    constructor
    · intro hfd'
      exact congrArg Prod.fst
        (List.inj_on_of_nodup_map hnodup hfd' (hinv.mem_timers hpending) rfl)
    · rintro rfl
      exact hinv.mem_timers hpending
  obtain ⟨pending', hext, hwf, hperm⟩ := hinv.wf.extractRight_of_mem hinv.pending_nodup
    (fun e he hcmp => by
      cases Std.LawfulEqCmp.eq_of_compare hcmp
      exact Prod.ext ((honly e.1).1 (hinv.mem_timers he)) rfl) hpending
  have hfd := hinv.mem_io (hinv.mem_timers hpending)
  have hpos := hinv.pos _ (hinv.mem_timers hpending)
  have hmem : ∀ t, t ∈ pending'.toList ↔ t ∈ s.ric.pending.toList ∧ t ≠ (fd, ev') := by
    intro t
    have hnd := hperm.nodup_iff.1 (hinv.pending_nodup.of_map _)
    rw [hperm.mem_iff, List.mem_cons]
    constructor
    · intro ht
      exact ⟨.inr ht, fun heq => (List.nodup_cons.1 hnd).1 (heq ▸ ht)⟩
    · rintro ⟨rfl | ht, hne⟩
      · exact absurd rfl hne
      · exact ht
  refine ⟨fd, { s.ric with pending := pending', io := s.ric.io.erase fd }, ?_, honly, ?_, hwf,
    hmem, ?_⟩
  · rw [NearRic.stopPendingEvent, hext, Option.bind_some]
    simp only [if_pos hpos]
    exact NearRic.rmFdAsioRic_eq_some.2 ⟨hfd, rfl⟩
  · intro fd'
    rw [hinv.io_nodup.mem_erase_iff, and_comm]
  · intro t ht hne
    rcases List.mem_append.1 (hinv.timers_perm.mem_iff.1 ht) with ht | ht
    · exact List.mem_append_left _ ht
    · exact List.mem_append_right _ ((hmem t).2 ⟨ht, hne⟩)

/-- The acknowledgement of the one control request of the small network stops its timer. -/
theorem stopPendingEvent_one : ∃ (s : RicState) (fd : Fd) (ric' : NearRic) (ev : PendingEventRic),
    ev ∈ s.outstanding ∧ s.ric.stopPendingEvent ev = some ric' ∧ s.timers = [(fd, ev)] ∧
      fd ∉ ric'.io := by
  have hsetup : (Sample.ric.restrict DistinctRequests).Run Sample.setup Sample.connected :=
    System.steps_restrict.2 ⟨Sample.run_setup,
      List.forall_mem_cons.2 ⟨trivial, List.forall_mem_singleton.2 trivial⟩⟩
  have hsched : ∃ s, (Sample.ric.restrict DistinctRequests).Sched Sample.connected
      (Sample.forward .control 4) s ∧ ∃ ev, s.outstanding = [ev] ∧ s.timers = [(4, ev)] :=
    ⟨_, ⟨⟨rfl, trivial⟩, _, rfl,
      ⟨⟨⟨_, rfl⟩, by decide, by decide⟩, fun _ _ => List.not_mem_nil⟩, _, rfl,
      ⟨⟨_, _, rfl⟩, trivial⟩, _, rfl, ⟨⟨_, rfl⟩, trivial⟩, _, rfl, ⟨⟨_, rfl⟩, trivial⟩, _, rfl,
      rfl⟩, _, rfl, rfl⟩
  obtain ⟨s, hsched, ev, hout, htimers⟩ := hsched
  obtain ⟨tr, hsteps, -⟩ := hsched.steps
  have hev : ev ∈ s.outstanding := by rw [hout]; simp
  obtain ⟨fd, ric', hstop, honly, hio, -⟩ :=
    stopPendingEvent_exact ⟨_, hsetup.trans hsteps⟩ hev
  have hfd : 4 = fd := (honly 4).1 (by rw [htimers]; simp)
  subst hfd
  exact ⟨s, 4, ric', ev, hev, hstop, htimers, fun h => ((hio 4).1 h).2 rfl⟩

end RicState

end FlexRic
