import FlexRic.AlgDs.TsQueue
import FlexRic.Semantics.System
import FlexRic.Sm.PluginRic

/-!
# The database of the xApp (`xApp/db/db.c`)

The event loop puts a copy of every indication on a queue, and a thread of the database takes the
records out and writes them. It takes one record, 10 or 100, as there are in the queue when it
looks, into a static array for that number. `close_db_xapp` stops the queue: what the thread has
taken out is still written, what is left in the queue is only freed.

`free_e42_xapp` stops the event loop before it closes the database. Here the event loop may still
write until `free_tsq` has seen that the thread stopped.
-/

namespace FlexRic

/-- `e2_node_ag_if_t` -/
structure E2NodeAgIf : Type where
  id : GlobalE2NodeId
  rd : SmAgIfRd
  deriving DecidableEq, Repr

/-- The record whose bytes are zero. -/
instance : Inhabited E2NodeAgIf := ⟨⟨⟨.eNB, ⟨0, 0, 0⟩, 0, none⟩, .macStatsV0⟩⟩

/-- A static array of records, with the index at which the next one is put. -/
structure StaticVals : Type where
  vals : List E2NodeAgIf
  val : ℕ
  deriving Repr

/-- `create_val_10` and `create_val_100`, for the length of the array. -/
def StaticVals.createVal (n : ℕ) (s : StaticVals) (it : E2NodeAgIf) : Option StaticVals :=
  (Buffer.store s.vals s.val it).bind fun vals =>
    if s.val + 1 < n + 1 then some ⟨vals, s.val + 1⟩ else none

/-- What `data` points to. -/
inductive DbData : Type where
  | one
  | ten
  | hundred
  deriving DecidableEq, Repr

/-- The static arrays of the database. -/
structure DbStatics : Type where
  /-- `static_e2_node_ag_if`, as an array -/
  one : List E2NodeAgIf
  ten : StaticVals
  hundred : StaticVals
  deriving Repr

namespace DbStatics

/-- The arrays before the first record. -/
def init : DbStatics :=
  ⟨[default], ⟨List.replicate 10 default, 0⟩, ⟨List.replicate 100 default, 0⟩⟩

/-- The array that `data` points to. -/
def vals (s : DbStatics) : DbData → List E2NodeAgIf
  | .one => s.one
  | .ten => s.ten.vals
  | .hundred => s.hundred.vals

/-- `create_val` -/
def createVal (s : DbStatics) (it : E2NodeAgIf) : Option DbStatics :=
  (Buffer.store s.one 0 it).map fun one => { s with one := one }

/-- `create_val_10` -/
def createVal10 (s : DbStatics) (it : E2NodeAgIf) : Option DbStatics :=
  (s.ten.createVal 10 it).map fun ten => { s with ten := ten }

/-- `create_val_100` -/
def createVal100 (s : DbStatics) (it : E2NodeAgIf) : Option DbStatics :=
  (s.hundred.createVal 100 it).map fun hundred => { s with hundred := hundred }

end DbStatics

/-- Where the thread of the database is in `worker_thread`. -/
inductive DbWorker : Type where
  /-- before `size_tsq` -/
  | top
  /-- before the pop function that the size `sz` selects -/
  | pop (sz : ℕ)
  /-- in `pthread_cond_wait` -/
  | waiting
  /-- before `write_db_gen` for `data[i]` -/
  | write (data : DbData) (sz i : ℕ)
  /-- before `data[i]` is freed -/
  | free (data : DbData) (sz i : ℕ)
  /-- after the loop -/
  | stopping
  | done
  deriving DecidableEq, Repr

/-- Where the thread that closes the database is in `close_db_xapp`. -/
inductive DbCloser : Type where
  /-- the function was not called -/
  | running
  /-- the stop token is set -/
  | stopSet
  /-- before it has seen that the thread of the database stopped -/
  | signalled
  /-- after `seq_free` -/
  | freed
  /-- the thread of the database has ended and the database is closed -/
  | closed
  deriving DecidableEq, Repr

/-- Whether `seq_free` was called. -/
def DbCloser.hasFreed : DbCloser → Bool
  | freed => true
  | closed => true
  | _ => false

/-- What is done with a record. -/
inductive DbEvent : Type where
  | writeDbGen (d : E2NodeAgIf)
  /-- `free_global_e2_node_id` and `free_sm_ag_if_rd` -/
  | free (d : E2NodeAgIf)
  deriving DecidableEq, Repr

/-- The event loop, the thread of the database and the thread that closes it. -/
structure DbState : Type where
  q : Tsq E2NodeAgIf
  statics : DbStatics
  worker : DbWorker
  closer : DbCloser
  /-- the waiting thread was signalled -/
  waked : Bool
  /-- the records that were put on the queue, in that order -/
  accepted : List E2NodeAgIf
  /-- what was done with the records, in that order -/
  log : List DbEvent

/-- A step of one of the three threads. -/
inductive DbAction : Type where
  /-- `write_db_xapp`; `mem` says whether there is memory for a larger queue -/
  | writeDbXapp (d : E2NodeAgIf) (mem : Bool)
  /-- the thread of the database: `size_tsq` -/
  | sizeTsq
  /-- the pop function, up to its wait or its return -/
  | pop
  /-- the wait of `wait_and_pop_tsq` ends, with or without a signal -/
  | wake
  | writeDbGen
  | free
  /-- `db->q.stopped = true` after the loop -/
  | stop
  /-- `free_tsq`: the stop token is set -/
  | setStopToken
  /-- `free_tsq`: `pthread_cond_signal` -/
  | condSignal
  /-- `free_tsq`: `seq_free`, once the thread of the database stopped -/
  | seqFree
  /-- `pthread_join` and `close_db_gen` -/
  | pthreadJoin
  deriving DecidableEq, Repr

namespace DbState

/-- The threads after `init_db_xapp`. -/
def init : DbState := ⟨.init, .init, .top, .running, false, [], []⟩

/-- What can happen next. The event loop writes only the statistics that
`e2ap_handle_indication_xapp` lets through. -/
def Enabled (s : DbState) : DbAction → Prop
  | .writeDbXapp d _ => s.closer.hasFreed = false ∧ d.rd ≠ .tcStatsV0
  | .sizeTsq => s.worker = .top
  | .pop => ∃ sz, s.worker = .pop sz
  | .wake => s.worker = .waiting
  | .writeDbGen => ∃ data sz i, s.worker = .write data sz i
  | .free => ∃ data sz i, s.worker = .free data sz i
  | .stop => s.worker = .stopping
  | .setStopToken => s.closer = .running
  | .condSignal => s.closer = .stopSet
  | .seqFree => s.closer = .signalled ∧ s.q.stopped = true
  | .pthreadJoin => s.closer = .freed ∧ s.worker = .done

/-- `pthread_cond_signal` -/
def signal (s : DbState) : Bool := s.waked || s.worker = .waiting

/-- The thread of the database after a pop function returned. -/
def popped (s : DbState) (data : DbData) (sz : ℕ) : Option DbStatics × Tsq E2NodeAgIf → DbState
  | (some statics, q) => { s with q := q, statics := statics, worker := .write data sz 0 }
  | (none, q) => { s with q := q, worker := .stopping }

/-- `wait_and_pop_tsq` from the check of its loop on. -/
def waitAndPop (s : DbState) : Option DbState :=
  if s.q.waits then some { s with worker := .waiting, waked := false }
  else (s.q.waitAndPopTsq DbStatics.createVal s.statics).map (s.popped .one 1)

/-- The branches of `worker_thread`. -/
def popSized (s : DbState) (sz : ℕ) : Option DbState :=
  if 100 < sz then
    let s := { s with statics.hundred.val := 0 }
    (s.q.popTsq100 DbStatics.createVal100 s.statics).map (s.popped .hundred 100)
  else if 10 < sz then
    let s := { s with statics.ten.val := 0 }
    (s.q.popTsq10 DbStatics.createVal10 s.statics).map (s.popped .ten 10)
  else s.waitAndPop

/-- What the program does. `write_db_sqlite3` fails on statistics without a table. -/
def step (s : DbState) : DbAction → Option DbState
  | .writeDbXapp d mem => (s.q.pushTsq mem d).map fun q =>
      { s with q := q, waked := s.signal, accepted := s.accepted ++ [d] }
  | .sizeTsq => some { s with worker := .pop s.q.sizeTsq }
  | .pop =>
    match s.worker with
    | .pop sz => s.popSized sz
    | _ => none
  | .wake => s.waitAndPop
  | .writeDbGen =>
    match s.worker with
    | .write data sz i => (s.statics.vals data)[i]?.bind fun d =>
      if d.rd ≠ .tcStatsV0 then
        some { s with worker := .free data sz i, log := s.log ++ [.writeDbGen d] }
      else none
    | _ => none
  | .free =>
    match s.worker with
    | .free data sz i => (s.statics.vals data)[i]?.map fun d =>
      { s with
        worker := if i + 1 < sz then .write data sz (i + 1) else .top
        log := s.log ++ [.free d] }
    | _ => none
  | .stop => some { s with q.stopped := true, worker := .done }
  | .setStopToken => some { s with q.stopToken := true, closer := .stopSet }
  | .condSignal => some { s with waked := s.signal, closer := .signalled }
  | .seqFree => s.q.r.free.map fun ds =>
      { s with q.r.array := [], closer := .freed, log := s.log ++ ds.map .free }
  | .pthreadJoin => some { s with closer := .closed }

end DbState

/-- The interleaving of the three threads. -/
def dbThreads : System DbState DbAction where
  init := .init
  enabled := DbState.Enabled
  step := DbState.step

/-! ## The static arrays -/

/-- A fold over a part of a state changes only that part. -/
theorem foldlM_lift {σ τ α : Type} (f : τ → α → Option τ) {g : σ → α → Option σ} (get : σ → τ)
    (set : σ → τ → σ) (hg : ∀ s x, g s x = (f (get s) x).map (set s))
    (hget : ∀ s t, get (set s t) = t) (hset : ∀ s t t', set (set s t) t' = set s t')
    (hself : ∀ s, set s (get s) = s) (l : List α) (s : σ) :
    l.foldlM g s = (l.foldlM f (get s)).map (set s) := by
  induction l generalizing s with
  | nil => exact congrArg some (hself s).symm
  | cons x l ih =>
    rw [List.foldlM_cons, List.foldlM_cons, hg]
    cases f (get s) x with
    | none => rfl
    | some t =>
      refine (ih (set s t)).trans ?_
      rw [hget]
      exact congrArg (Option.map · _) (funext (hset s t))

/-- The callback puts the elements one after the other into the array. -/
theorem StaticVals.foldlM_createVal {n : ℕ} {l : List E2NodeAgIf} {s : StaticVals}
    (hlen : s.vals.length = n) (hl : s.val + l.length ≤ n) : ∃ vals,
      l.foldlM (StaticVals.createVal n) s = some ⟨vals, s.val + l.length⟩ ∧ vals.length = n ∧
        vals.take (s.val + l.length) = s.vals.take s.val ++ l := by
  induction l generalizing s with
  | nil => exact ⟨s.vals, rfl, hlen, (List.append_nil _).symm⟩
  | cons x l ih =>
    rw [List.length_cons] at hl
    have hlt : s.val < s.vals.length := by omega
    have hstore : s.createVal n x = some ⟨s.vals.set s.val x, s.val + 1⟩ := by
      rw [createVal, Buffer.store_of_lt hlt, Option.bind_some, if_pos (by omega)]
    obtain ⟨vals, hfold, hlen', htake⟩ :=
      ih (s := ⟨s.vals.set s.val x, s.val + 1⟩) (List.length_set.trans hlen) (by dsimp only; omega)
    have hcount : s.val + 1 + l.length = s.val + (x :: l).length := by
      rw [List.length_cons]
      omega
    refine ⟨vals, ?_, hlen', ?_⟩
    · rw [List.foldlM_cons, hstore, ← hcount]
      exact hfold
    · rw [← hcount, htake, List.take_add_one, List.getElem?_set_self hlt,
        List.take_set_of_le (Nat.le_refl _), List.append_assoc]
      rfl

namespace DbData

/-- The length of the array. -/
def size : DbData → ℕ
  | one => 1
  | ten => 10
  | hundred => 100

theorem size_pos (data : DbData) : 0 < data.size := by cases data <;> decide

end DbData

namespace DbStatics

/-- The arrays have the lengths that they are declared with. -/
def WF (s : DbStatics) : Prop := ∀ data, (s.vals data).length = data.size

theorem wf_init : init.WF
  | .one => rfl
  | .ten => rfl
  | .hundred => rfl

variable {s : DbStatics} {l : List E2NodeAgIf}

theorem WF.reset_ten (h : s.WF) : WF { s with ten.val := 0 }
  | .one => h .one
  | .ten => h .ten
  | .hundred => h .hundred

theorem WF.reset_hundred (h : s.WF) : WF { s with hundred.val := 0 }
  | .one => h .one
  | .ten => h .ten
  | .hundred => h .hundred

/-- `create_val` keeps the one record that is popped. -/
theorem foldlM_createVal (h : s.WF) (hl : l.length = 1) :
    ∃ t, l.foldlM createVal s = some t ∧ t.WF ∧ t.vals .one = l := by
  obtain ⟨x, rfl⟩ := List.length_eq_one_iff.1 hl
  obtain ⟨y, hone⟩ := List.length_eq_one_iff.1 (h .one)
  have hone : s.one = [y] := hone
  refine ⟨{ s with one := [x] }, ?_, ?_, rfl⟩
  · rw [List.foldlM_cons, createVal, hone]
    rfl
  · intro data
    cases data with
    | one => rfl
    | ten => exact h .ten
    | hundred => exact h .hundred

/-- `create_val_10` keeps the 10 records that are popped. -/
theorem foldlM_createVal10 (h : s.WF) (hl : l.length = 10) :
    ∃ t, l.foldlM createVal10 { s with ten.val := 0 } = some t ∧ t.WF ∧ t.vals .ten = l := by
  have hlift : ∀ s, l.foldlM createVal10 s =
      (l.foldlM (StaticVals.createVal 10) s.ten).map fun vals => { s with ten := vals } :=
    foldlM_lift (StaticVals.createVal 10) ten (fun s vals => { s with ten := vals })
      (fun _ _ => rfl) (fun _ _ => rfl) (fun _ _ _ => rfl) (fun _ => rfl) l
  obtain ⟨vals, hfold, hlen, htake⟩ := StaticVals.foldlM_createVal (n := 10) (l := l)
    (s := ⟨s.ten.vals, 0⟩) (h .ten) ((Nat.zero_add _).trans_le hl.le)
  refine ⟨{ s with ten := ⟨vals, 0 + l.length⟩ }, ?_, ?_, ?_⟩
  · rw [hlift]
    exact congrArg (Option.map _) hfold
  · intro data
    cases data with
    | one => exact h .one
    | ten => exact hlen
    | hundred => exact h .hundred
  · rw [Nat.zero_add, hl, ← hlen, List.take_length] at htake
    exact htake

/-- `create_val_100` keeps the 100 records that are popped. -/
theorem foldlM_createVal100 (h : s.WF) (hl : l.length = 100) :
    ∃ t, l.foldlM createVal100 { s with hundred.val := 0 } = some t ∧ t.WF ∧
      t.vals .hundred = l := by
  have hlift : ∀ s, l.foldlM createVal100 s =
      (l.foldlM (StaticVals.createVal 100) s.hundred).map fun vals => { s with hundred := vals } :=
    foldlM_lift (StaticVals.createVal 100) hundred (fun s vals => { s with hundred := vals })
      (fun _ _ => rfl) (fun _ _ => rfl) (fun _ _ _ => rfl) (fun _ => rfl) l
  obtain ⟨vals, hfold, hlen, htake⟩ := StaticVals.foldlM_createVal (n := 100) (l := l)
    (s := ⟨s.hundred.vals, 0⟩) (h .hundred) ((Nat.zero_add _).trans_le hl.le)
  refine ⟨{ s with hundred := ⟨vals, 0 + l.length⟩ }, ?_, ?_, ?_⟩
  · rw [hlift]
    exact congrArg (Option.map _) hfold
  · intro data
    cases data with
    | one => exact h .one
    | ten => exact h .ten
    | hundred => exact hlen
  · rw [Nat.zero_add, hl, ← hlen, List.take_length] at htake
    exact htake

end DbStatics

end FlexRic
