import FlexRic.XApp.Db

/-!
# What becomes of the records

The records that the thread of the database has taken out are written and freed one by one, in the
order in which they were put on the queue; those that are left when the queue is freed are only
freed. This holds as long as no record is put on a queue of `2 ^ 32 - 1` records: there the ring
wraps, and loses them all. With `2 ^ 32` places the iteration over the queue does not come back to
the start of its array: a pop of 10 or 100 records then leaves the array if the records go past its
end, and so does `seq_free`.
-/

namespace FlexRic

/-- A record is written and then freed. -/
def DbEvent.handle (d : E2NodeAgIf) : List DbEvent := [.writeDbGen d, .free d]

namespace DbState

/-- What the thread of the database will still do with the records that it has taken out. -/
def todo (s : DbState) : List DbEvent :=
  match s.worker with
  | .write data sz i => (((s.statics.vals data).take sz).drop i).flatMap DbEvent.handle
  | .free data sz i => ((((s.statics.vals data).take sz).drop i).flatMap DbEvent.handle).tail
  | _ => []

/-- Every record that was accepted is in one of two groups. Those that were handed to the thread of
the database are written once and then freed once, in the order of their acceptance; the others are
still in the queue, or were freed once with it and never written. -/
def Accounted (s : DbState) : Prop :=
  ∃ handed kept, s.accepted = handed ++ kept ∧
    s.log ++ s.todo = handed.flatMap DbEvent.handle ++
      (if s.closer.hasFreed then kept.map .free else []) ∧
    (s.closer.hasFreed = false → s.q.r.contents = kept)

/-- What the place of the thread of the database says. -/
def WorkerInv (s : DbState) : Prop :=
  match s.worker with
  | .pop sz => s.closer.hasFreed = false → sz ≤ s.q.r.size
  | .write data sz i => sz = data.size ∧ i < sz
  | .free data sz i => sz = data.size ∧ i < sz
  | _ => True

/-- The invariant of the three threads. -/
structure Inv (s : DbState) : Prop where
  ring : s.closer.hasFreed = false → s.q.r.WF
  statics : s.statics.WF
  worker : s.WorkerInv
  /-- the queue is stopped once the thread of the database has left its loop -/
  stopped : s.q.stopped = true ↔ s.worker = .stopping ∨ s.worker = .done
  token : s.q.stopToken = true ↔ s.closer ≠ .running
  closed : s.q.stopped = true → s.q.stopToken = true
  freed : s.closer.hasFreed = true → s.q.stopped = true
  /-- no signal is lost -/
  wakeup : s.worker = .waiting → s.waked = false →
    s.q.r.contents = [] ∧ (s.closer = .running ∨ s.closer = .stopSet)
  /-- every record has a table -/
  tables : ∀ d ∈ s.accepted, d.rd ≠ .tcStatsV0
  accounted : s.Accounted

/-- The queue has room for another record. -/
def Room (s : DbState) : Prop := s.q.r.size + 1 < 2 ^ 32

/-- The records that the step goes over are reached in the array of the queue. -/
def InArray (s : DbState) : DbAction → Prop
  | .pop => ∀ sz, s.worker = .pop sz → s.q.stopToken = false → 10 < sz →
      s.q.r.Reads (if 100 < sz then 100 else 10)
  | .seqFree => s.q.r.Unwrapped
  | _ => True

/-- If the queue has to be enlarged there is memory for it. -/
def HasMem (s : DbState) : DbAction → Prop
  | .writeDbXapp _ mem => s.q.r.full = true → mem = true
  | _ => True

/-- The steps of a state that satisfies the invariant, by what they do. -/
inductive Trans (s : DbState) : DbAction → DbState → Prop
  | writeDbXapp {d : E2NodeAgIf} {mem : Bool} {r : SeqRing E2NodeAgIf}
      (hopen : s.closer.hasFreed = false) (htable : d.rd ≠ .tcStatsV0) (hwf : r.WF)
      (hcontents : r.contents = s.q.r.contents ++ [d]) :
      Trans s (.writeDbXapp d mem)
        { s with q.r := r, waked := s.signal, accepted := s.accepted ++ [d] }
  | sizeTsq (hworker : s.worker = .top) :
      Trans s .sizeTsq { s with worker := .pop s.q.r.size }
  | wait {a : DbAction} (hworker : s.worker = .waiting ∨ ∃ sz, s.worker = .pop sz)
      (hcontents : s.q.r.contents = []) (htoken : s.q.stopToken = false) :
      Trans s a { s with worker := .waiting, waked := false }
  | null {a : DbAction} {statics : DbStatics}
      (hworker : s.worker = .waiting ∨ ∃ sz, s.worker = .pop sz) (htoken : s.q.stopToken = true)
      (hstatics : statics.WF) :
      Trans s a { s with q.stopped := true, statics := statics, worker := .stopping }
  | popped {a : DbAction} {data : DbData} {r : SeqRing E2NodeAgIf} {statics : DbStatics}
      (hworker : s.worker = .waiting ∨ ∃ sz, s.worker = .pop sz) (htoken : s.q.stopToken = false)
      (hwf : r.WF) (hcontents : s.q.r.contents = statics.vals data ++ r.contents)
      (hunwrapped : s.q.r.Unwrapped → r.Unwrapped) (hstatics : statics.WF) :
      Trans s a { s with q.r := r, statics := statics, worker := .write data data.size 0 }
  | writeDbGen {data : DbData} {sz i : ℕ} {d : E2NodeAgIf} (hworker : s.worker = .write data sz i)
      (hd : (s.statics.vals data)[i]? = some d) :
      Trans s .writeDbGen
        { s with worker := .free data sz i, log := s.log ++ [.writeDbGen d] }
  | free {data : DbData} {sz i : ℕ} {d : E2NodeAgIf} (hworker : s.worker = .free data sz i)
      (hd : (s.statics.vals data)[i]? = some d) :
      Trans s .free
        { s with
          worker := if i + 1 < sz then .write data sz (i + 1) else .top
          log := s.log ++ [.free d] }
  | stop (hworker : s.worker = .stopping) :
      Trans s .stop { s with q.stopped := true, worker := .done }
  | setStopToken (hcloser : s.closer = .running) :
      Trans s .setStopToken { s with q.stopToken := true, closer := .stopSet }
  | condSignal (hcloser : s.closer = .stopSet) :
      Trans s .condSignal { s with waked := s.signal, closer := .signalled }
  | seqFree (hcloser : s.closer = .signalled) (hstopped : s.q.stopped = true) :
      Trans s .seqFree
        { s with q.r.array := [], closer := .freed, log := s.log ++ s.q.r.contents.map .free }
  | pthreadJoin (hcloser : s.closer = .freed) (hworker : s.worker = .done) :
      Trans s .pthreadJoin { s with closer := .closed }

variable {s t : DbState} {a : DbAction}

/-- Before the queue is freed the records in it are those that were not handed out. -/
theorem accounted_iff_of_open (hopen : s.closer.hasFreed = false) : s.Accounted ↔
    ∃ handed, s.accepted = handed ++ s.q.r.contents ∧
      s.log ++ s.todo = handed.flatMap DbEvent.handle := by
  have hfreed : ¬s.closer.hasFreed = true := Bool.eq_false_iff.1 hopen
  constructor
  · rintro ⟨handed, kept, haccepted, hlog, hkept⟩
    rw [if_neg hfreed, List.append_nil] at hlog
    exact ⟨handed, by rw [hkept hopen, haccepted], hlog⟩
  · rintro ⟨handed, haccepted, hlog⟩
    refine ⟨handed, s.q.r.contents, haccepted, ?_, fun _ => rfl⟩
    rw [if_neg hfreed, List.append_nil, hlog]

/-- While the thread of the database is in its loop the queue is not freed. -/
theorem Inv.hasFreed_eq_false (h : s.Inv) (hstopping : s.worker ≠ .stopping)
    (hdone : s.worker ≠ .done) : s.closer.hasFreed = false := by
  rw [← Bool.not_eq_true]
  intro hfreed
  rcases h.stopped.1 (h.freed hfreed) with hw | hw
  · exact hstopping hw
  · exact hdone hw

/-- The queue is not freed before a pop function returns. -/
theorem Inv.open_of_pop (h : s.Inv) (hworker : s.worker = .waiting ∨ ∃ sz, s.worker = .pop sz) :
    s.closer.hasFreed = false := by
  apply h.hasFreed_eq_false <;> rcases hworker with hw | ⟨sz, hw⟩ <;> rw [hw] <;> nofun

/-- The records that `size_tsq` saw are still in the queue. -/
theorem Inv.le_size (h : s.Inv) {sz : ℕ} (hworker : s.worker = .pop sz) : sz ≤ s.q.r.size := by
  have hworkerInv := h.worker
  rw [WorkerInv, hworker] at hworkerInv
  exact hworkerInv (h.open_of_pop (.inr ⟨sz, hworker⟩))

/-- `wait_and_pop_tsq` waits, finds the queue stopped or takes one record. -/
theorem Inv.waitAndPop_spec (h : s.Inv)
    (hworker : s.worker = .waiting ∨ ∃ sz, s.worker = .pop sz) (a : DbAction) :
    ∃ t, s.waitAndPop = some t ∧ s.Trans a t := by
  have hwf := h.ring (h.open_of_pop hworker)
  rw [waitAndPop]
  by_cases hwaits : s.q.waits = true
  · rw [if_pos hwaits]
    obtain ⟨hcontents, htoken⟩ := (Tsq.waits_iff hwf).1 hwaits
    exact ⟨_, rfl, .wait hworker hcontents htoken⟩
  rw [if_neg hwaits]
  cases htoken : s.q.stopToken with
  | true =>
    rw [Tsq.waitAndPopTsq_stop htoken]
    exact ⟨_, rfl, .null hworker htoken h.statics⟩
  | false =>
    have hne : s.q.r.contents ≠ [] := fun hnil => hwaits ((Tsq.waits_iff hwf).2 ⟨hnil, htoken⟩)
    have hpos : 0 < s.q.r.size := by
      rw [← hwf.length_contents]
      exact List.length_pos_iff.2 hne
    obtain ⟨r, hwf', hcontents, hunwrapped, hpop⟩ :=
      Tsq.waitAndPopTsq_spec (f := DbStatics.createVal) hwf htoken hpos
    obtain ⟨st, hfold, hst, hvals⟩ := DbStatics.foldlM_createVal (l := s.q.r.contents.take 1)
      h.statics (by rw [List.length_take, hwf.length_contents]; omega)
    rw [hpop, hfold]
    refine ⟨_, rfl, .popped hworker htoken hwf' ?_ hunwrapped hst⟩
    rw [hvals, hcontents, List.take_append_drop]

/-- `pop_tsq_10` and `pop_tsq_100` find the queue stopped or take as many records as there is
place for. -/
theorem Inv.popTsq_spec (h : s.Inv) {sz : ℕ} (hworker : s.worker = .pop sz) (data : DbData)
    (hsz : data.size ≤ sz) (hreads : s.q.stopToken = false → s.q.r.Reads data.size)
    {f : DbStatics → E2NodeAgIf → Option DbStatics} {st : DbStatics} (hst : st.WF)
    (hf : ∀ l : List E2NodeAgIf, l.length = data.size →
      ∃ st', l.foldlM f st = some st' ∧ st'.WF ∧ st'.vals data = l) (a : DbAction) :
    ∃ t, (s.q.popTsq data.size f st).map (popped { s with statics := st } data data.size) =
      some t ∧ s.Trans a t := by
  have hwf := h.ring (h.open_of_pop (.inr ⟨sz, hworker⟩))
  have hle := h.le_size hworker
  cases htoken : s.q.stopToken with
  | true =>
    rw [Tsq.popTsq_stop htoken]
    exact ⟨_, rfl, .null (.inr ⟨sz, hworker⟩) htoken hst⟩
  | false =>
    have hsize := Nat.le_trans hsz hle
    obtain ⟨r, hwf', hcontents, hunwrapped, hpop⟩ :=
      Tsq.popTsq_spec (f := f) hwf htoken data.size_pos hsize (hreads htoken)
    obtain ⟨st', hfold, hst', hvals⟩ := hf (s.q.r.contents.take data.size)
      (List.length_take_of_le (hsize.trans hwf.length_contents.ge))
    rw [hpop, hfold]
    refine ⟨_, rfl, .popped (.inr ⟨sz, hworker⟩) htoken hwf' ?_ hunwrapped hst'⟩
    rw [hvals, hcontents, List.take_append_drop]

/-- The branches of `worker_thread`. -/
theorem Inv.popSized_spec (h : s.Inv) {sz : ℕ} (hworker : s.worker = .pop sz)
    (hin : s.InArray .pop) (a : DbAction) : ∃ t, s.popSized sz = some t ∧ s.Trans a t := by
  have hreads := hin sz hworker
  have hstatics := h.statics
  rw [popSized]
  by_cases hhundred : 100 < sz
  · rw [if_pos hhundred]
    rw [if_pos hhundred] at hreads
    exact h.popTsq_spec hworker .hundred (Nat.le_of_lt hhundred)
      (fun htoken => hreads htoken (Nat.lt_trans (by decide) hhundred))
      hstatics.reset_hundred (fun l hl => DbStatics.foldlM_createVal100 hstatics hl) a
  rw [if_neg hhundred]
  by_cases hten : 10 < sz
  · rw [if_pos hten]
    rw [if_neg hhundred] at hreads
    exact h.popTsq_spec hworker .ten (Nat.le_of_lt hten)
      (fun htoken => hreads htoken hten) hstatics.reset_ten
      (fun l hl => DbStatics.foldlM_createVal10 hstatics hl) a
  rw [if_neg hten]
  exact h.waitAndPop_spec (.inr ⟨sz, hworker⟩) a

/-- A pop of 10 or 100 records that go past the end of the array leaves it. -/
theorem Inv.popSized_eq_none (h : s.Inv) {sz : ℕ} (hworker : s.worker = .pop sz)
    (htoken : s.q.stopToken = false) (hten : 10 < sz)
    (hreads : ¬s.q.r.Reads (if 100 < sz then 100 else 10)) : s.popSized sz = none := by
  have hwf := h.ring (h.open_of_pop (.inr ⟨sz, hworker⟩))
  rw [popSized]
  by_cases hhundred : 100 < sz
  · rw [if_pos hhundred] at hreads ⊢
    exact congrArg (Option.map _) (Tsq.popTsq_eq_none hwf htoken hreads _)
  · rw [if_neg hhundred] at hreads ⊢
    rw [if_pos hten]
    exact congrArg (Option.map _) (Tsq.popTsq_eq_none hwf htoken hreads _)

/-- The index of the thread of the database is in its array. -/
theorem Inv.exists_data (h : s.Inv) {data : DbData} {sz i : ℕ}
    (hworker : s.worker = .write data sz i ∨ s.worker = .free data sz i) :
    ∃ d, (s.statics.vals data)[i]? = some d ∧ sz = (s.statics.vals data).length := by
  have hworkerInv := h.worker
  have hlt : sz = data.size ∧ i < sz := by
    rcases hworker with hw | hw <;> rw [WorkerInv, hw] at hworkerInv <;> exact hworkerInv
  have hlen := h.statics data
  exact ⟨_, List.getElem?_eq_getElem (by omega), hlt.1.trans hlen.symm⟩

theorem Inv.data_eq (h : s.Inv) {data : DbData} {sz i : ℕ} {d : E2NodeAgIf}
    (hworker : s.worker = .write data sz i ∨ s.worker = .free data sz i)
    (hd : (s.statics.vals data)[i]? = some d) : ((s.statics.vals data).take sz).drop i =
      d :: ((s.statics.vals data).take sz).drop (i + 1) := by
  obtain ⟨d', hd', hsz⟩ := h.exists_data hworker
  obtain ⟨hlt, rfl⟩ := List.getElem?_eq_some_iff.1 hd
  rw [hsz, List.take_length, List.drop_eq_getElem_cons hlt]

theorem Inv.todo_of_write (h : s.Inv) {data : DbData} {sz i : ℕ} {d : E2NodeAgIf}
    (hworker : s.worker = .write data sz i) (hd : (s.statics.vals data)[i]? = some d) :
    s.todo = .writeDbGen d :: .free d ::
      (((s.statics.vals data).take sz).drop (i + 1)).flatMap DbEvent.handle := by
  simp only [todo, hworker, h.data_eq (.inl hworker) hd]
  rfl

theorem Inv.todo_of_free (h : s.Inv) {data : DbData} {sz i : ℕ} {d : E2NodeAgIf}
    (hworker : s.worker = .free data sz i) (hd : (s.statics.vals data)[i]? = some d) :
    s.todo = .free d ::
      (((s.statics.vals data).take sz).drop (i + 1)).flatMap DbEvent.handle := by
  simp only [todo, hworker, h.data_eq (.inr hworker) hd]
  rfl

/-- A record that is written was accepted. -/
theorem Inv.table_of_write (h : s.Inv) {data : DbData} {sz i : ℕ}
    (hworker : s.worker = .write data sz i) {d : E2NodeAgIf}
    (hd : (s.statics.vals data)[i]? = some d) : d.rd ≠ .tcStatsV0 := by
  have hopen := h.hasFreed_eq_false (by rw [hworker]; nofun) (by rw [hworker]; nofun)
  obtain ⟨handed, haccepted, hlog⟩ := (accounted_iff_of_open hopen).1 h.accounted
  rw [h.todo_of_write hworker hd] at hlog
  have hmem : DbEvent.writeDbGen d ∈ handed.flatMap DbEvent.handle := by
    rw [← hlog]
    exact List.mem_append_right _ List.mem_cons_self
  obtain ⟨d', hd', heq⟩ := List.mem_flatMap.1 hmem
  have heq : d' = d := by
    rcases List.mem_cons.1 heq with heq | heq
    · cases heq
      rfl
    · cases List.mem_singleton.1 heq
  apply h.tables
  rw [haccepted, ← heq]
  exact List.mem_append_left _ hd'

theorem Inv.step_writeDbGen (h : s.Inv) {data : DbData} {sz i : ℕ}
    (hworker : s.worker = .write data sz i) : ∃ d, (s.statics.vals data)[i]? = some d ∧
      s.step .writeDbGen =
        some { s with worker := .free data sz i, log := s.log ++ [.writeDbGen d] } := by
  obtain ⟨d, hd, -⟩ := h.exists_data (.inl hworker)
  refine ⟨d, hd, ?_⟩
  simp only [step, hworker, hd, Option.bind_some, if_pos (h.table_of_write hworker hd)]

theorem Inv.step_free (h : s.Inv) {data : DbData} {sz i : ℕ}
    (hworker : s.worker = .free data sz i) : ∃ d, (s.statics.vals data)[i]? = some d ∧
      s.step .free = some { s with
        worker := if i + 1 < sz then .write data sz (i + 1) else .top
        log := s.log ++ [.free d] } := by
  obtain ⟨d, hd, -⟩ := h.exists_data (.inr hworker)
  refine ⟨d, hd, ?_⟩
  simp only [step, hworker, hd, Option.map_some]

/-- In a state that satisfies the invariant every step goes through that stays in the array of the
queue. -/
theorem Inv.step_spec (h : s.Inv) (he : s.Enabled a) (hmem : s.HasMem a) (hin : s.InArray a)
    (hroom : ∀ d mem, a = .writeDbXapp d mem → s.Room) :
    ∃ t, s.step a = some t ∧ s.Trans a t := by
  cases a with
  | writeDbXapp d mem =>
    obtain ⟨r, hpush, hwf, hcontents, -⟩ :=
      Tsq.pushTsq_spec (h.ring he.1) hmem (hroom d mem rfl) d
    refine ⟨_, congrArg (Option.map _) hpush, .writeDbXapp he.1 he.2 hwf hcontents⟩
  | sizeTsq => exact ⟨_, rfl, .sizeTsq he⟩
  | pop =>
    obtain ⟨sz, hworker⟩ := he
    rw [step, hworker]
    exact h.popSized_spec hworker hin _
  | wake => exact h.waitAndPop_spec (.inl he) _
  | writeDbGen =>
    obtain ⟨data, sz, i, hworker⟩ := he
    obtain ⟨d, hd, hstep⟩ := h.step_writeDbGen hworker
    exact ⟨_, hstep, .writeDbGen hworker hd⟩
  | free =>
    obtain ⟨data, sz, i, hworker⟩ := he
    obtain ⟨d, hd, hstep⟩ := h.step_free hworker
    exact ⟨_, hstep, .free hworker hd⟩
  | stop => exact ⟨_, rfl, .stop he⟩
  | setStopToken => exact ⟨_, rfl, .setStopToken he⟩
  | condSignal => exact ⟨_, rfl, .condSignal he⟩
  | seqFree =>
    obtain ⟨hcloser, hstopped⟩ := he
    have hfree := (h.ring (by rw [hcloser]; rfl)).free_eq hin
    exact ⟨_, congrArg (Option.map _) hfree, .seqFree hcloser hstopped⟩
  | pthreadJoin => exact ⟨_, rfl, .pthreadJoin he.1 he.2⟩

/-- `assert(tmp_buffer != NULL)` -/
theorem hasMem_of_step (ht : s.step a = some t) : s.HasMem a := by
  cases a with
  | writeDbXapp d mem =>
    intro hfull
    cases mem with
    | true => rfl
    | false =>
      have hnone : s.q.r.pushBack false d = none := by
        rw [SeqRing.pushBack, if_pos hfull, SeqRing.enlargeBuffer, if_pos hfull]
        rfl
      rw [step, Tsq.pushTsq, hnone] at ht
      cases ht
  | _ => trivial

/-- A step that goes through stays in the array of the queue. -/
theorem Inv.inArray_of_step (h : s.Inv) (he : s.Enabled a) (ht : s.step a = some t) :
    s.InArray a := by
  cases a with
  | pop =>
    intro sz hworker htoken hten
    by_contra hreads
    have hnone := h.popSized_eq_none hworker htoken hten hreads
    rw [step, hworker] at ht
    cases hnone.symm.trans ht
  | seqFree =>
    have hwf := h.ring (by rw [he.1]; rfl)
    by_contra hwrapped
    rw [step, hwf.free_eq_none_iff.2 hwrapped] at ht
    cases ht
  | _ => trivial

/-- The inversion of `step`. -/
theorem Inv.trans_of_step (h : s.Inv) (he : s.Enabled a)
    (hroom : ∀ d mem, a = .writeDbXapp d mem → s.Room) (ht : s.step a = some t) :
    s.Trans a t := by
  obtain ⟨u, hu, htrans⟩ :=
    h.step_spec he (hasMem_of_step ht) (h.inArray_of_step he ht) hroom
  cases ht.symm.trans hu
  exact htrans

/-! ## One step -/

theorem accounted_init : init.Accounted := ⟨[], [], rfl, rfl, fun _ => SeqRing.contents_init⟩

/-- A step that hands out no record and frees no queue. -/
theorem Accounted.congr (h : s.Accounted) (haccepted : t.accepted = s.accepted)
    (hlog : t.log ++ t.todo = s.log ++ s.todo) (hfreed : t.closer.hasFreed = s.closer.hasFreed)
    (hcontents : t.q.r.contents = s.q.r.contents) : t.Accounted := by
  obtain ⟨handed, kept, haccepted', hlog', hkept⟩ := h
  refine ⟨handed, kept, haccepted.trans haccepted', ?_, fun hopen => ?_⟩
  · rw [hlog, hlog', hfreed]
  · rw [hcontents]
    exact hkept (hfreed ▸ hopen)

/-- Before a pop function returns nothing is to do for the records that were taken out. -/
theorem todo_of_pop (hworker : s.worker = .waiting ∨ ∃ sz, s.worker = .pop sz) : s.todo = [] := by
  rcases hworker with hw | ⟨sz, hw⟩ <;> rw [todo, hw]

theorem Inv.todo_of_stopped (h : s.Inv) (hstopped : s.q.stopped = true) : s.todo = [] := by
  rw [todo]
  rcases h.stopped.1 hstopped with hw | hw <;> rw [hw]

/-- The records stay accounted for. -/
theorem Inv.accounted_trans (h : s.Inv) (ht : s.Trans a t) : t.Accounted := by
  have haccounted := h.accounted
  cases ht with
  | @writeDbXapp d mem r hopen htable hwf hcontents =>
    obtain ⟨handed, haccepted, hlog⟩ := (accounted_iff_of_open hopen).1 haccounted
    refine (accounted_iff_of_open (by exact hopen)).2 ⟨handed, ?_, hlog⟩
    rw [haccepted, hcontents, List.append_assoc]
  | sizeTsq hworker =>
    have htodo : s.todo = [] := by rw [todo, hworker]
    exact haccounted.congr rfl (congrArg (s.log ++ ·) htodo.symm) rfl rfl
  | wait hworker =>
    exact haccounted.congr rfl (congrArg (s.log ++ ·) (todo_of_pop hworker).symm) rfl rfl
  | null hworker =>
    exact haccounted.congr rfl (congrArg (s.log ++ ·) (todo_of_pop hworker).symm) rfl rfl
  | @popped _ data r statics hworker _ hwf hcontents _ hstatics =>
    have hopen := h.open_of_pop hworker
    obtain ⟨handed, haccepted, hlog⟩ := (accounted_iff_of_open hopen).1 haccounted
    rw [todo_of_pop hworker, List.append_nil] at hlog
    refine (accounted_iff_of_open (by exact hopen)).2 ⟨handed ++ statics.vals data, ?_, ?_⟩
    · rw [haccepted, hcontents, List.append_assoc]
    · rw [List.flatMap_append, ← hlog]
      simp only [todo]
      rw [List.drop_zero, ← hstatics data, List.take_length]
  | writeDbGen hworker hd =>
    refine haccounted.congr rfl ?_ rfl rfl
    rw [h.todo_of_write hworker hd]
    simp only [todo, h.data_eq (.inl hworker) hd, List.append_assoc]
    rfl
  | @free data sz i d hworker hd =>
    refine haccounted.congr rfl ?_ rfl rfl
    rw [h.todo_of_free hworker hd, List.append_assoc, List.singleton_append]
    congr 2
    rw [todo]
    by_cases hlt : i + 1 < sz
    · rw [if_pos hlt]
    · rw [if_neg hlt, List.drop_of_length_le]
      · rfl
      · rw [List.length_take]
        omega
  | stop hworker =>
    have htodo : s.todo = [] := by rw [todo, hworker]
    exact haccounted.congr rfl (congrArg (s.log ++ ·) htodo.symm) rfl rfl
  | setStopToken hcloser =>
    refine haccounted.congr rfl rfl ?_ rfl
    rw [hcloser]
    rfl
  | condSignal hcloser =>
    refine haccounted.congr rfl rfl ?_ rfl
    rw [hcloser]
    rfl
  | seqFree hcloser hstopped =>
    have hopen : s.closer.hasFreed = false := by
      rw [hcloser]
      rfl
    obtain ⟨handed, haccepted, hlog⟩ := (accounted_iff_of_open hopen).1 haccounted
    have htodo := h.todo_of_stopped hstopped
    rw [htodo, List.append_nil] at hlog
    refine ⟨handed, s.q.r.contents, haccepted, ?_, nofun⟩
    change (s.log ++ s.q.r.contents.map .free) ++ s.todo =
      handed.flatMap DbEvent.handle ++ s.q.r.contents.map .free
    rw [htodo, hlog, List.append_nil]
  | pthreadJoin hcloser hworker =>
    refine haccounted.congr rfl rfl ?_ rfl
    rw [hcloser]
    rfl

theorem inv_init : init.Inv where
  ring _ := SeqRing.wf_init
  statics := DbStatics.wf_init
  worker := trivial
  stopped := by simp [init, Tsq.init]
  token := by simp [init, Tsq.init]
  closed := nofun
  freed := nofun
  wakeup := nofun
  tables := nofun
  accounted := accounted_init

/-- The thread of the database goes on in its loop. -/
theorem Inv.stopped_of_loop (h : s.Inv) {w : DbWorker}
    (hs : s.worker ≠ .stopping ∧ s.worker ≠ .done) (hw : w ≠ .stopping ∧ w ≠ .done) :
    s.q.stopped = true ↔ w = .stopping ∨ w = .done :=
  ⟨fun hstopped => absurd (h.stopped.1 hstopped) (not_or.2 hs), fun h => absurd h (not_or.2 hw)⟩

/-- A step of another thread that does not make the queue shorter. -/
theorem WorkerInv.congr (h : s.WorkerInv) (hworker : t.worker = s.worker)
    (hsize : t.closer.hasFreed = false →
      s.closer.hasFreed = false ∧ s.q.r.size ≤ t.q.r.size) : t.WorkerInv := by
  rw [WorkerInv] at h ⊢
  rw [hworker]
  cases hw : s.worker with
  | pop sz =>
    rw [hw] at h
    exact fun hopen => Nat.le_trans (h (hsize hopen).1) (hsize hopen).2
  | write =>
    rw [hw] at h
    exact h
  | free =>
    rw [hw] at h
    exact h
  | _ => trivial

/-- A step keeps the invariant. -/
theorem Inv.trans (h : s.Inv) (ht : s.Trans a t) : t.Inv := by
  have haccounted := h.accounted_trans ht
  have hpop : (s.worker = .waiting ∨ ∃ sz, s.worker = .pop sz) →
      s.worker ≠ .stopping ∧ s.worker ≠ .done := by
    rintro (hw | ⟨sz, hw⟩) <;> rw [hw] <;> exact ⟨nofun, nofun⟩
  have hsignal : s.worker = .waiting → s.signal = false → False := by
    intro hw hsignal
    rw [signal, hw] at hsignal
    simp at hsignal
  cases ht with
  | @writeDbXapp d mem r hopen htable hwf hcontents =>
    refine { h with
      ring := fun _ => hwf
      worker := ?_
      wakeup := fun hw hsig => (hsignal hw hsig).elim
      tables := ?_
      accounted := haccounted }
    · refine h.worker.congr rfl fun _ => ⟨hopen, ?_⟩
      rw [← hwf.length_contents, hcontents, List.length_append, (h.ring hopen).length_contents]
      exact Nat.le_add_right _ _
    · intro d' hd'
      rcases List.mem_append.1 hd' with hd' | hd'
      · exact h.tables d' hd'
      · cases List.mem_singleton.1 hd'
        exact htable
  | sizeTsq hworker =>
    exact { h with
      worker := fun _ => Nat.le_refl _
      stopped := h.stopped_of_loop (by rw [hworker]; exact ⟨nofun, nofun⟩) ⟨nofun, nofun⟩
      wakeup := nofun
      accounted := haccounted }
  | wait hworker hcontents htoken =>
    refine { h with
      worker := trivial
      stopped := h.stopped_of_loop (hpop hworker) ⟨nofun, nofun⟩
      wakeup := fun _ _ => ⟨hcontents, .inl ?_⟩
      accounted := haccounted }
    by_contra hcloser
    rw [h.token.2 hcloser] at htoken
    cases htoken
  | null hworker htoken hstatics =>
    exact { h with
      statics := hstatics
      worker := trivial
      stopped := ⟨fun _ => .inl rfl, fun _ => rfl⟩
      closed := fun _ => htoken
      freed := fun _ => rfl
      wakeup := nofun
      accounted := haccounted }
  | @popped _ data r statics hworker htoken hwf hcontents _ hstatics =>
    exact { h with
      ring := fun _ => hwf
      statics := hstatics
      worker := ⟨rfl, data.size_pos⟩
      stopped := h.stopped_of_loop (hpop hworker) ⟨nofun, nofun⟩
      wakeup := nofun
      accounted := haccounted }
  | writeDbGen hworker hd =>
    have hworkerInv := h.worker
    rw [WorkerInv, hworker] at hworkerInv
    exact { h with
      worker := hworkerInv
      stopped := h.stopped_of_loop (by rw [hworker]; exact ⟨nofun, nofun⟩) ⟨nofun, nofun⟩
      wakeup := nofun
      accounted := haccounted }
  | @free data sz i d hworker hd =>
    have hworkerInv := h.worker
    rw [WorkerInv, hworker] at hworkerInv
    have hs : s.worker ≠ .stopping ∧ s.worker ≠ .done := by
      rw [hworker]
      exact ⟨nofun, nofun⟩
    by_cases hlt : i + 1 < sz
    · simp only [if_pos hlt] at haccounted ⊢
      exact { h with
        worker := ⟨hworkerInv.1, hlt⟩
        stopped := h.stopped_of_loop hs ⟨nofun, nofun⟩
        wakeup := nofun
        accounted := haccounted }
    · simp only [if_neg hlt] at haccounted ⊢
      exact { h with
        worker := trivial
        stopped := h.stopped_of_loop hs ⟨nofun, nofun⟩
        wakeup := nofun
        accounted := haccounted }
  | stop hworker =>
    exact { h with
      worker := trivial
      stopped := ⟨fun _ => .inr rfl, fun _ => rfl⟩
      closed := fun _ => h.closed (h.stopped.2 (.inl hworker))
      freed := fun _ => rfl
      wakeup := nofun
      accounted := haccounted }
  | setStopToken hcloser =>
    exact { h with
      ring := fun _ => h.ring (by rw [hcloser]; rfl)
      worker := h.worker.congr rfl fun _ => ⟨by rw [hcloser]; rfl, Nat.le_refl _⟩
      token := ⟨fun _ => nofun, fun _ => rfl⟩
      closed := fun _ => rfl
      freed := nofun
      wakeup := fun hw hwaked => ⟨(h.wakeup hw hwaked).1, .inr rfl⟩
      accounted := haccounted }
  | condSignal hcloser =>
    have htoken := h.token.2 (by rw [hcloser]; nofun)
    exact { h with
      ring := fun _ => h.ring (by rw [hcloser]; rfl)
      worker := h.worker.congr rfl fun _ => ⟨by rw [hcloser]; rfl, Nat.le_refl _⟩
      token := ⟨fun _ => nofun, fun _ => htoken⟩
      freed := nofun
      wakeup := fun hw hsig => (hsignal hw hsig).elim
      accounted := haccounted }
  | seqFree hcloser hstopped =>
    have htoken := h.token.2 (by rw [hcloser]; nofun)
    exact { h with
      ring := nofun
      worker := h.worker.congr rfl nofun
      token := ⟨fun _ => nofun, fun _ => htoken⟩
      freed := fun _ => hstopped
      wakeup := fun hw => absurd (h.stopped.1 hstopped) (by rw [hw]; rintro (hw | hw) <;> cases hw)
      accounted := haccounted }
  | pthreadJoin hcloser hworker =>
    have htoken := h.token.2 (by rw [hcloser]; nofun)
    exact { h with
      ring := nofun
      worker := h.worker.congr rfl nofun
      token := ⟨fun _ => nofun, fun _ => htoken⟩
      freed := fun _ => h.freed (by rw [hcloser]; rfl)
      wakeup := fun hw => absurd (hw.symm.trans hworker) nofun
      accounted := haccounted }

/-! ## Runs -/

/-- Every record of the trace was put on a queue with room for it. -/
def Roomy (tr : List (DbState × DbAction)) : Prop :=
  ∀ p ∈ tr, ∀ d mem, p.2 = .writeDbXapp d mem → p.1.Room

/-- The records were handed to the database and freed one after the other, or, from some record on,
only freed. -/
def Settled (s : DbState) : Prop :=
  ∃ handed kept, s.accepted = handed ++ kept ∧
    s.log = handed.flatMap DbEvent.handle ++ kept.map .free

theorem inv_run {tr : List (DbState × DbAction)} (h : dbThreads.Run tr s) (hroomy : Roomy tr) :
    s.Inv := by
  induction h with
  | nil => exact inv_init
  | @cons tr s t a hrun he ht ih =>
    obtain ⟨hlast, hrest⟩ := List.forall_mem_cons.1 hroomy
    have hinv := ih hrest
    exact hinv.trans (hinv.trans_of_step he hlast ht)

theorem inv_visited {tr : List (DbState × DbAction)} (h : dbThreads.Run tr s)
    (hroomy : Roomy tr) : ∀ u ∈ System.visited tr s, u.Inv := by
  induction h with
  | nil => exact List.forall_mem_singleton.2 inv_init
  | cons hrun he ht ih =>
    have hinv := inv_run (hrun.cons he ht) hroomy
    exact List.forall_mem_cons.2 ⟨hinv, ih (List.forall_mem_cons.1 hroomy).2⟩

/-- When the queue is freed all records are settled. -/
theorem Inv.settled (h : s.Inv) (hfreed : s.closer.hasFreed = true) : s.Settled := by
  obtain ⟨handed, kept, haccepted, hlog, -⟩ := h.accounted
  rw [h.todo_of_stopped (h.freed hfreed), List.append_nil, if_pos hfreed] at hlog
  exact ⟨handed, kept, haccepted, hlog⟩

/-- A record that is put on a queue without room is lost, with all that are in the queue. -/
theorem Inv.not_accounted (h : s.Inv) (hroom : ¬s.Room) {d : E2NodeAgIf} {mem : Bool}
    (he : s.Enabled (.writeDbXapp d mem)) (hmem : s.HasMem (.writeDbXapp d mem)) :
    ∃ t, s.step (.writeDbXapp d mem) = some t ∧ ¬t.Accounted := by
  have hwf := h.ring he.1
  have hsize : s.q.r.size + 1 = 2 ^ 32 := by
    have hlt := hwf.size
    have hle := hwf.cap_le
    rw [Room] at hroom
    omega
  have hfull : s.q.r.full = true := by
    have hlt := hwf.size
    have hle := hwf.cap_le
    apply hwf.full_iff.2
    omega
  obtain ⟨r, hpush, hcontents⟩ := hwf.pushBack_wraps hsize d
  refine ⟨{ s with q.r := r, waked := s.signal, accepted := s.accepted ++ [d] }, ?_, ?_⟩
  · rw [hmem hfull, step, Tsq.pushTsq, hpush]
    rfl
  · intro haccounted
    obtain ⟨handed', haccepted', hlog'⟩ := (accounted_iff_of_open (by exact he.1)).1 haccounted
    obtain ⟨handed, haccepted, hlog⟩ := (accounted_iff_of_open he.1).1 h.accounted
    rw [hcontents, List.append_nil] at haccepted'
    have heq := hlog.symm.trans hlog'
    rw [← haccepted', haccepted, List.append_assoc, List.flatMap_append, List.flatMap_append,
      List.self_eq_append_right, List.append_eq_nil_iff] at heq
    cases heq.2

/-- No assertion fails but that on the memory for the queue, and no array is accessed past its end
but that of the queue. -/
theorem Inv.step_ne_none_iff (h : s.Inv) (he : s.Enabled a) (hmem : s.HasMem a) :
    s.step a ≠ none ↔ s.InArray a := by
  constructor
  · intro hne
    obtain ⟨t, ht⟩ := Option.ne_none_iff_exists'.1 hne
    exact h.inArray_of_step he ht
  · intro hin
    have hsome : ∃ t, s.step a = some t := by
      by_cases hroom : ∀ d mem, a = .writeDbXapp d mem → s.Room
      · obtain ⟨t, ht, -⟩ := h.step_spec he hmem hin hroom
        exact ⟨t, ht⟩
      · push Not at hroom
        obtain ⟨d, mem, rfl, hroom⟩ := hroom
        obtain ⟨t, ht, -⟩ := h.not_accounted hroom he hmem
        exact ⟨t, ht⟩
    obtain ⟨t, ht⟩ := hsome
    rw [ht]
    exact Option.some_ne_none t

/-- If the iteration reaches all records every step stays in the array of the queue. -/
theorem Inv.inArray (h : s.Inv) (hunwrapped : s.q.r.Unwrapped) (a : DbAction) : s.InArray a := by
  cases a with
  | pop =>
    intro sz hworker htoken hten
    have hle := h.le_size hworker
    apply hunwrapped.reads
    split <;> omega
  | seqFree => exact hunwrapped
  | _ => trivial

/-- An array with another number of places is not left. -/
theorem inArray_of_cap {c : ℕ} (hcap : s.q.r.cap = c) (hc : c ≠ 2 ^ 32) (a : DbAction) :
    s.InArray a := by
  have hne : s.q.r.cap ≠ 2 ^ 32 := hcap.trans_ne hc
  cases a with
  | pop => exact fun _ _ _ _ h => absurd h hne
  | seqFree => exact fun h => absurd h hne
  | _ => trivial

theorem Inv.safe_iff (h : s.Inv) :
    (dbThreads.restrict HasMem).Safe s ↔ ∀ a, s.Enabled a → s.InArray a := by
  constructor
  · intro hsafe a he
    have hin : s.HasMem a → s.InArray a := fun hmem =>
      (h.step_ne_none_iff he hmem).1 (hsafe a ⟨he, hmem⟩)
    cases a with
    | writeDbXapp => trivial
    | _ => exact hin trivial
  · rintro hin a ⟨he, hmem⟩
    exact (h.step_ne_none_iff he hmem).2 (hin a he)

/-- Every step but `write_db_xapp` leaves the records reached. -/
theorem Trans.unwrapped (ht : s.Trans a t) (haccepted : t.accepted = s.accepted)
    (hunwrapped : s.q.r.Unwrapped) : t.q.r.Unwrapped := by
  cases ht with
  | writeDbXapp => exact absurd haccepted.symm (by simp)
  | popped _ _ _ _ hkeep => exact hkeep hunwrapped
  | _ => exact hunwrapped

/-! ## The ends of a run -/

/-- Some steps other than `write_db_xapp` lead from one state to the other. -/
def Leads (s t : DbState) : Prop :=
  (∃ tr, dbThreads.Steps s tr t) ∧ t.Inv ∧ t.accepted = s.accepted ∧
    (s.q.r.Unwrapped → t.q.r.Unwrapped)

theorem Inv.leads (h : s.Inv) : s.Leads s := ⟨⟨_, .nil⟩, h, rfl, id⟩

theorem Leads.trans {u : DbState} (h : s.Leads t) (h' : t.Leads u) : s.Leads u := by
  obtain ⟨⟨tr, hsteps⟩, -, haccepted, hunwrapped⟩ := h
  obtain ⟨⟨tr', hsteps'⟩, hinv, haccepted', hunwrapped'⟩ := h'
  exact ⟨⟨_, hsteps.trans hsteps'⟩, hinv, haccepted'.trans haccepted,
    fun hu => hunwrapped' (hunwrapped hu)⟩

theorem Inv.leads_of_trans (h : s.Inv) (he : s.Enabled a) (ht : s.step a = some t)
    (htrans : s.Trans a t) (haccepted : t.accepted = s.accepted) : s.Leads t :=
  ⟨⟨_, System.Steps.single he ht⟩, h.trans htrans, haccepted, htrans.unwrapped haccepted⟩

/-- The thread of the database finishes what it has taken out. -/
theorem Inv.leads_top_of_write (h : s.Inv) {data : DbData} {sz i : ℕ}
    (hworker : s.worker = .write data sz i) :
    ∃ t, s.Leads t ∧ t.worker = .top ∧ t.q = s.q ∧ t.closer = s.closer := by
  induction hn : sz - i generalizing s i with
  | zero =>
    have hworkerInv := h.worker
    rw [WorkerInv, hworker] at hworkerInv
    have hlt : i < sz := hworkerInv.2
    omega
  | succ n ih =>
    obtain ⟨d, hd, hwrite⟩ := h.step_writeDbGen hworker
    have hleads := h.leads_of_trans (a := DbAction.writeDbGen) ⟨data, sz, i, hworker⟩ hwrite
      (.writeDbGen hworker hd) rfl
    obtain ⟨d', hd', hfree⟩ := hleads.2.1.step_free rfl
    have hleads' := hleads.trans (hleads.2.1.leads_of_trans (a := DbAction.free)
      ⟨data, sz, i, rfl⟩ hfree (.free rfl hd') rfl)
    by_cases hlt : i + 1 < sz
    · obtain ⟨t, ht, hrest⟩ := ih hleads'.2.1 (i := i + 1) (if_pos hlt) (by omega)
      exact ⟨t, hleads'.trans ht, hrest⟩
    · exact ⟨_, hleads', if_neg hlt, rfl, rfl⟩

theorem Inv.leads_top_of_free (h : s.Inv) {data : DbData} {sz i : ℕ}
    (hworker : s.worker = .free data sz i) :
    ∃ t, s.Leads t ∧ t.worker = .top ∧ t.q = s.q ∧ t.closer = s.closer := by
  obtain ⟨d, hd, hfree⟩ := h.step_free hworker
  have hleads := h.leads_of_trans (a := DbAction.free) ⟨data, sz, i, hworker⟩ hfree
    (.free hworker hd) rfl
  by_cases hlt : i + 1 < sz
  · obtain ⟨t, ht, hrest⟩ := hleads.2.1.leads_top_of_write (i := i + 1) (if_pos hlt)
    exact ⟨t, hleads.trans ht, hrest⟩
  · exact ⟨_, hleads, if_neg hlt, rfl, rfl⟩

/-- The thread of the database calls a pop function. -/
theorem Inv.leads_pop (h : s.Inv) (hstopping : s.worker ≠ .stopping) (hdone : s.worker ≠ .done) :
    ∃ t, s.Leads t ∧ (t.worker = .waiting ∨ ∃ sz, t.worker = .pop sz) ∧ t.q = s.q ∧
      t.closer = s.closer := by
  have htop : ∀ u : DbState, s.Leads u → u.worker = .top → u.q = s.q → u.closer = s.closer →
      ∃ t, s.Leads t ∧ (t.worker = .waiting ∨ ∃ sz, t.worker = .pop sz) ∧ t.q = s.q ∧
        t.closer = s.closer := by
    intro u hu hworker hq hcloser
    have hleads := hu.2.1.leads_of_trans (a := DbAction.sizeTsq) hworker rfl (.sizeTsq hworker) rfl
    exact ⟨_, hu.trans hleads, .inr ⟨_, rfl⟩, hq, hcloser⟩
  cases hworker : s.worker with
  | top => exact htop s h.leads hworker rfl rfl
  | pop sz => exact ⟨s, h.leads, .inr ⟨sz, hworker⟩, rfl, rfl⟩
  | waiting => exact ⟨s, h.leads, .inl hworker, rfl, rfl⟩
  | write data sz i =>
    obtain ⟨u, hu, hu', hq, hcloser⟩ := h.leads_top_of_write hworker
    exact htop u hu hu' hq hcloser
  | free data sz i =>
    obtain ⟨u, hu, hu', hq, hcloser⟩ := h.leads_top_of_free hworker
    exact htop u hu hu' hq hcloser
  | stopping => exact absurd hworker hstopping
  | done => exact absurd hworker hdone

/-- The pop function that is called next. -/
theorem Inv.exists_pop (h : s.Inv) (hworker : s.worker = .waiting ∨ ∃ sz, s.worker = .pop sz)
    (hin : s.InArray .pop) :
    ∃ a t, (a = .pop ∨ a = .wake) ∧ s.Enabled a ∧ s.step a = some t ∧ s.Trans a t := by
  rcases hworker with hw | ⟨sz, hw⟩
  · obtain ⟨t, ht, htrans⟩ := h.step_spec (a := DbAction.wake) hw trivial trivial nofun
    exact ⟨_, t, .inr rfl, hw, ht, htrans⟩
  · obtain ⟨t, ht, htrans⟩ := h.step_spec (a := DbAction.pop) ⟨sz, hw⟩ trivial hin nofun
    exact ⟨_, t, .inl rfl, ⟨sz, hw⟩, ht, htrans⟩

/-- Once the stop token is set the thread of the database ends. -/
theorem Inv.leads_done (h : s.Inv) (htoken : s.q.stopToken = true) :
    ∃ t, s.Leads t ∧ t.worker = .done ∧ t.closer = s.closer := by
  have hstop : ∀ u : DbState, s.Leads u → u.worker = .stopping → u.closer = s.closer →
      ∃ t, s.Leads t ∧ t.worker = .done ∧ t.closer = s.closer := by
    intro u hu hworker hcloser
    have hleads := hu.2.1.leads_of_trans (a := DbAction.stop) hworker rfl (.stop hworker) rfl
    exact ⟨_, hu.trans hleads, rfl, hcloser⟩
  by_cases hdone : s.worker = .done
  · exact ⟨s, h.leads, hdone, rfl⟩
  by_cases hstopping : s.worker = .stopping
  · exact hstop s h.leads hstopping rfl
  obtain ⟨u, hu, hworker, hq, hcloser⟩ := h.leads_pop hstopping hdone
  have hin : u.InArray .pop := by
    intro sz _ hfalse
    rw [hq, htoken] at hfalse
    cases hfalse
  obtain ⟨a, t, ha, he, ht, htrans⟩ := hu.2.1.exists_pop hworker hin
  have hnull : t.worker = .stopping ∧ t.closer = u.closer ∧ t.accepted = u.accepted := by
    rw [← hq] at htoken
    cases htrans with
    | null => exact ⟨rfl, rfl, rfl⟩
    | wait _ _ hfalse => cases htoken.symm.trans hfalse
    | popped _ hfalse => cases htoken.symm.trans hfalse
    | _ => rcases ha with ha | ha <;> cases ha
  obtain ⟨hworker', hcloser', haccepted⟩ := hnull
  exact hstop t (hu.trans (hu.2.1.leads_of_trans he ht htrans haccepted)) hworker'
    (hcloser'.trans hcloser)

/-- `close_db_xapp` can come to its end if `seq_free` reaches all records. -/
theorem Inv.leads_closed (h : s.Inv) (hunwrapped : s.q.r.Unwrapped) :
    ∃ t, s.Leads t ∧ t.closer = .closed := by
  have hjoin : ∀ u : DbState, s.Leads u → u.closer = .freed →
      ∃ t, s.Leads t ∧ t.closer = .closed := by
    intro u hu hcloser
    have htoken := hu.2.1.token.2 (by rw [hcloser]; nofun)
    obtain ⟨t, ht, hdone, hcloser'⟩ := hu.2.1.leads_done htoken
    have hcloser' := hcloser'.trans hcloser
    have hleads := ht.2.1.leads_of_trans (a := DbAction.pthreadJoin) ⟨hcloser', hdone⟩ rfl
      (.pthreadJoin hcloser' hdone) rfl
    exact ⟨_, (hu.trans ht).trans hleads, rfl⟩
  have hfree : ∀ u : DbState, s.Leads u → u.closer = .signalled →
      ∃ t, s.Leads t ∧ t.closer = .closed := by
    intro u hu hcloser
    have htoken := hu.2.1.token.2 (by rw [hcloser]; nofun)
    obtain ⟨t, ht, hdone, hcloser'⟩ := hu.2.1.leads_done htoken
    have hcloser' := hcloser'.trans hcloser
    have hstopped := ht.2.1.stopped.2 (.inr hdone)
    have hreads := ht.2.2.2 (hu.2.2.2 hunwrapped)
    have hring := (ht.2.1.ring (by rw [hcloser']; rfl)).free_eq hreads
    have hleads := ht.2.1.leads_of_trans (a := DbAction.seqFree) ⟨hcloser', hstopped⟩
      (congrArg (Option.map _) hring) (.seqFree hcloser' hstopped) rfl
    exact hjoin _ ((hu.trans ht).trans hleads) rfl
  have hsignal : ∀ u : DbState, s.Leads u → u.closer = .stopSet →
      ∃ t, s.Leads t ∧ t.closer = .closed := by
    intro u hu hcloser
    have hleads := hu.2.1.leads_of_trans (a := DbAction.condSignal) hcloser rfl
      (.condSignal hcloser) rfl
    exact hfree _ (hu.trans hleads) rfl
  cases hcloser : s.closer with
  | running =>
    have hleads := h.leads_of_trans (a := DbAction.setStopToken) hcloser rfl
      (.setStopToken hcloser) rfl
    exact hsignal _ hleads rfl
  | stopSet => exact hsignal s h.leads hcloser
  | signalled => exact hfree s h.leads hcloser
  | freed => exact hjoin s h.leads hcloser
  | closed => exact ⟨s, h.leads, hcloser⟩

/-- Before the queue is closed the thread of the database is in its loop. -/
theorem Inv.loop_of_running (h : s.Inv) (hcloser : s.closer = .running) :
    s.q.stopToken = false ∧ s.worker ≠ .stopping ∧ s.worker ≠ .done := by
  have htoken : s.q.stopToken = false := by
    rw [← Bool.not_eq_true, h.token, hcloser]
    exact not_not_intro rfl
  refine ⟨htoken, not_or.1 fun hw => ?_⟩
  rw [h.closed (h.stopped.2 hw)] at htoken
  cases htoken

/-- As long as the queue is not closed, all its records can be written. -/
theorem Inv.leads_handled (h : s.Inv) (hunwrapped : s.q.r.Unwrapped)
    (hcloser : s.closer = .running) :
    ∃ t, s.Leads t ∧ t.log = s.accepted.flatMap DbEvent.handle := by
  induction hn : s.q.r.contents.length using Nat.strong_induction_on generalizing s with
  | _ n ih =>
    obtain ⟨htoken, hstopping, hdone⟩ := h.loop_of_running hcloser
    obtain ⟨u, hu, hworker, hq, hcloser'⟩ := h.leads_pop hstopping hdone
    have hcloser' := hcloser'.trans hcloser
    rw [← hq] at htoken hn
    by_cases hnil : u.q.r.contents = []
    · have hopen : u.closer.hasFreed = false := by
        rw [hcloser']
        rfl
      obtain ⟨handed, haccepted, hlog⟩ := (accounted_iff_of_open hopen).1 hu.2.1.accounted
      rw [todo_of_pop hworker, List.append_nil] at hlog
      rw [hnil, List.append_nil] at haccepted
      exact ⟨u, hu, by rw [hlog, ← haccepted, hu.2.2.1]⟩
    · have hin := hu.2.1.inArray (hu.2.2.2 hunwrapped) .pop
      obtain ⟨a, t, ha, he, ht, htrans⟩ := hu.2.1.exists_pop hworker hin
      have hpopped : t.q.r.contents.length < n ∧ t.closer = u.closer ∧
          t.accepted = u.accepted := by
        cases htrans with
        | null _ hfalse => cases htoken.symm.trans hfalse
        | wait _ hfalse => exact absurd hfalse hnil
        | @popped _ data r statics _ _ _ hcontents _ hstatics =>
          have hpos := data.size_pos
          rw [hcontents, List.length_append, hstatics data] at hn
          exact ⟨show r.contents.length < n by omega, rfl, rfl⟩
        | _ => rcases ha with ha | ha <;> cases ha
      obtain ⟨hlt, hcloser'', haccepted⟩ := hpopped
      have hleads := hu.trans (hu.2.1.leads_of_trans he ht htrans haccepted)
      obtain ⟨v, hv, hlog⟩ :=
        ih _ hlt hleads.2.1 (hleads.2.2.2 hunwrapped) (hcloser''.trans hcloser') rfl
      exact ⟨v, hleads.trans hv, hlog.trans (by rw [hleads.2.2.1])⟩

/-- The records are accounted for all along a run exactly if each was put on a queue with room. -/
theorem accounted_visited_iff {tr : List (DbState × DbAction)} (h : dbThreads.Run tr s) :
    (∀ u ∈ System.visited tr s, u.Accounted) ↔ Roomy tr := by
  induction h with
  | nil =>
    refine ⟨fun _ p hp => absurd hp List.not_mem_nil, fun _ u hu => ?_⟩
    cases List.mem_singleton.1 hu
    exact accounted_init
  | @cons tr s t a hrun he ht ih =>
    constructor
    · intro hall
      have hroomy := ih.1 fun u hu => hall u (List.mem_cons_of_mem _ hu)
      refine List.forall_mem_cons.2 ⟨?_, hroomy⟩
      rintro d mem rfl
      by_contra hroom
      obtain ⟨u, hu, hnot⟩ :=
        (inv_run hrun hroomy).not_accounted hroom he (hasMem_of_step ht)
      cases ht.symm.trans hu
      exact hnot (hall t List.mem_cons_self)
    · intro hroomy
      obtain ⟨hroom, hroomy⟩ := List.forall_mem_cons.1 hroomy
      have hinv := inv_run hrun hroomy
      refine List.forall_mem_cons.2 ⟨?_, ih.2 hroomy⟩
      exact (hinv.trans (hinv.trans_of_step he hroom ht)).accounted

/-- **The records of the database.** All along a run every record is accounted for and the next step
is safe, exactly if each record was put on a queue with room for it and the steps stay in the array
of the queue: a record is written once, in the order of acceptance, and then freed once, or it is
still in the queue, or it was freed once with the queue without being written. With room no signal
is lost and, when the database is closed, all records are settled; if the records in the queue are
reached they can all be written as long as it is not closed, and closing it can come to its end. -/
theorem accounted_iff_roomy {tr : List (DbState × DbAction)} (h : dbThreads.Run tr s) :
    ((∀ u ∈ System.visited tr s, u.Accounted ∧ (dbThreads.restrict HasMem).Safe u) ↔
      Roomy tr ∧ ∀ u ∈ System.visited tr s, ∀ a, u.Enabled a → u.InArray a) ∧
      (Roomy tr →
        (s.worker = .waiting → s.waked = false →
          s.q.r.contents = [] ∧ (s.closer = .running ∨ s.closer = .stopSet)) ∧
        (s.closer = .closed → s.Settled) ∧
        (s.q.r.Unwrapped →
          (s.closer = .running → ∃ tr' t, dbThreads.Steps s tr' t ∧
            t.log = s.accepted.flatMap DbEvent.handle) ∧
          ∃ tr' t, dbThreads.Steps s tr' t ∧ t.closer = .closed ∧ t.accepted = s.accepted)) := by
  constructor
  · constructor
    · intro hall
      have hroomy := (accounted_visited_iff h).1 fun u hu => (hall u hu).1
      refine ⟨hroomy, fun u hu => ?_⟩
      exact (inv_visited h hroomy u hu).safe_iff.1 (hall u hu).2
    · rintro ⟨hroomy, hin⟩ u hu
      have hinv := inv_visited h hroomy u hu
      exact ⟨hinv.accounted, hinv.safe_iff.2 (hin u hu)⟩
  · intro hroomy
    have hinv := inv_run h hroomy
    refine ⟨hinv.wakeup, fun hcloser => hinv.settled (by rw [hcloser]; rfl), fun hunwrapped => ?_⟩
    constructor
    · intro hcloser
      obtain ⟨t, ⟨⟨tr', hsteps⟩, -⟩, hlog⟩ := hinv.leads_handled hunwrapped hcloser
      exact ⟨tr', t, hsteps, hlog⟩
    · obtain ⟨t, ⟨⟨tr', hsteps⟩, -, haccepted, -⟩, hcloser⟩ := hinv.leads_closed hunwrapped
      exact ⟨tr', t, hsteps, hcloser, haccepted⟩

/-- One record is put on the queue, taken out, written and freed. -/
theorem accounted_iff_roomy_one : ∃ tr s, dbThreads.Run tr s ∧
    s.log = [.writeDbGen ⟨Sample.node, .macStatsV0⟩, .free ⟨Sample.node, .macStatsV0⟩] ∧
    ∀ u ∈ System.visited tr s, u.Accounted ∧ (dbThreads.restrict HasMem).Safe u := by
  have h₁ := System.Steps.single (M := dbThreads) (s := init)
    (a := DbAction.writeDbXapp ⟨Sample.node, .macStatsV0⟩ true) ⟨rfl, nofun⟩ rfl
  have h₂ := h₁.cons (a := DbAction.sizeTsq) rfl rfl
  have h₃ := h₂.cons (a := DbAction.pop) ⟨1, rfl⟩ rfl
  have h₄ := h₃.cons (a := DbAction.writeDbGen) ⟨.one, 1, 0, rfl⟩ rfl
  have h₅ := h₄.cons (a := DbAction.free) ⟨.one, 1, 0, rfl⟩ rfl
  refine ⟨_, _, h₅, rfl, (accounted_iff_roomy h₅).1.2 ⟨?_, ?_⟩⟩
  · intro p hp d mem heq
    simp only [List.mem_cons, List.not_mem_nil, or_false] at hp
    rcases hp with rfl | rfl | rfl | rfl | rfl
    · cases heq
    · cases heq
    · cases heq
    · cases heq
    · change (SeqRing.init : SeqRing E2NodeAgIf).size + 1 < 2 ^ 32
      rw [SeqRing.size_init]
      decide
  · intro u hu a _
    simp only [System.visited, List.map, List.mem_cons, List.not_mem_nil, or_false] at hu
    rcases hu with rfl | rfl | rfl | rfl | rfl | rfl <;> exact inArray_of_cap (c := 32) rfl nofun a

/-- The event loop can put any number of records below `2 ^ 32` on the queue. -/
theorem exists_run (n : ℕ) (hn : n < 2 ^ 32) : ∃ tr s, dbThreads.Run tr s ∧ Roomy tr ∧
    s.closer = .running ∧ s.q.r.contents.length = n := by
  induction n with
  | zero =>
    refine ⟨[], init, .nil, fun p hp => absurd hp List.not_mem_nil, rfl, ?_⟩
    exact congrArg List.length SeqRing.contents_init
  | succ n ih =>
    obtain ⟨tr, s, hrun, hroomy, hcloser, hlen⟩ := ih (Nat.lt_of_succ_lt hn)
    have hinv := inv_run hrun hroomy
    have hopen : s.closer.hasFreed = false := by
      rw [hcloser]
      rfl
    have hroom : s.Room := by
      rw [Room, ← (hinv.ring hopen).length_contents, hlen]
      exact hn
    obtain ⟨r, hpush, hwf, hcontents, -⟩ := Tsq.pushTsq_spec (hinv.ring hopen) (fun _ => rfl) hroom
      (⟨Sample.node, .macStatsV0⟩ : E2NodeAgIf)
    have hstep := hrun.cons (a := DbAction.writeDbXapp ⟨Sample.node, .macStatsV0⟩ true)
      ⟨hopen, nofun⟩ (congrArg (Option.map _) hpush)
    refine ⟨_, _, hstep, List.forall_mem_cons.2 ⟨fun _ _ _ => hroom, hroomy⟩, hcloser, ?_⟩
    change r.contents.length = n + 1
    rw [hcontents, List.length_append, hlen]
    rfl

/-- The queue has `2 ^ 32 - 1` records, and another one is put on it. -/
theorem not_accounted_of_full : ∃ tr s, dbThreads.Run tr s ∧ ¬s.Accounted := by
  obtain ⟨tr, s, hrun, hroomy, hcloser, hlen⟩ := exists_run (2 ^ 32 - 1) (by decide)
  have hinv := inv_run hrun hroomy
  have hopen : s.closer.hasFreed = false := by
    rw [hcloser]
    rfl
  have hroom : ¬s.Room := by
    rw [Room, ← (hinv.ring hopen).length_contents, hlen]
    decide
  have he : s.Enabled (.writeDbXapp ⟨Sample.node, .macStatsV0⟩ true) := ⟨hopen, nofun⟩
  obtain ⟨t, ht, hnot⟩ := hinv.not_accounted hroom he fun _ => rfl
  exact ⟨_, t, hrun.cons (a := DbAction.writeDbXapp _ true) he ht, hnot⟩

end DbState

end FlexRic
