import FlexRic.AlgDs.SeqRing

/-!
# Thread safe queues (`util/alg_ds/ds/ts_queue/ts_queue.c`)

A queue is a ring with a mutex; here a function is what happens while it holds the mutex. The pop
functions hand each element to a callback, which keeps it somewhere, before they erase it. They
return nothing once the stop token of the queue is set. A pop that takes several elements goes from
one to the next as `seq_ring_next` does, and may so leave an array with `2 ^ 32` places.
-/

namespace FlexRic

universe u v

/-- `tsq_t`, without the mutex and the condition variable. -/
structure Tsq (α : Type u) : Type u where
  r : SeqRing α
  stopToken : Bool
  stopped : Bool

namespace Tsq

section Operations

variable {α : Type u} {σ : Type v} [Inhabited α]

/-- `init_tsq` -/
def init : Tsq α := ⟨.init, false, false⟩

/-- `push_tsq` -/
def pushTsq (mem : Bool) (q : Tsq α) (val : α) : Option (Tsq α) :=
  (q.r.pushBack mem val).map fun r => { q with r := r }

/-- `size_tsq` -/
def sizeTsq (q : Tsq α) : ℕ := q.r.size

/-- The condition under which `wait_and_pop_tsq` waits. -/
def waits (q : Tsq α) : Bool := q.r.size = 0 && !q.stopToken

/-- The answer of a pop function whose queue was stopped: there is no element. -/
def stop (q : Tsq α) : Option σ × Tsq α := (none, { q with stopped := true })

/-- `wait_and_pop_tsq` after its wait. The callback has the memory `st`. -/
def waitAndPopTsq (q : Tsq α) (f : σ → α → Option σ) (st : σ) : Option (Option σ × Tsq α) :=
  if q.stopToken then some q.stop
  else
    let it := q.r.front
    q.r.array[it]?.bind fun x => (f st x).bind fun st =>
      if it = q.r.seqEnd then none
      else (q.r.erase it (q.r.next it)).map fun r => (some st, { q with r := r })

/-- The loop of `pop_tsq_10` and `pop_tsq_100`. -/
def popLoop (r : SeqRing α) (f : σ → α → Option σ) : ℕ → ℕ → σ → Option (σ × ℕ)
  | 0, next, st => some (st, next)
  | n + 1, next, st =>
    r.array[next]?.bind fun x => (f st x).bind fun st => popLoop r f n (r.next next) st

/-- `pop_tsq_10` and `pop_tsq_100`, for the number of elements that they pop. -/
def popTsq (n : ℕ) (q : Tsq α) (f : σ → α → Option σ) (st : σ) : Option (Option σ × Tsq α) :=
  if q.stopToken then some q.stop
  else if n ≤ q.r.size then
    let it := q.r.front
    if it = q.r.seqEnd then none
    else (popLoop q.r f n it st).bind fun (st, next) =>
      (q.r.erase it next).map fun r => (some st, { q with r := r })
  else none

/-- `pop_tsq_10` -/
def popTsq10 (q : Tsq α) (f : σ → α → Option σ) (st : σ) : Option (Option σ × Tsq α) :=
  q.popTsq 10 f st

/-- `pop_tsq_100` -/
def popTsq100 (q : Tsq α) (f : σ → α → Option σ) (st : σ) : Option (Option σ × Tsq α) :=
  q.popTsq 100 f st

end Operations

variable {α : Type u} {σ : Type v} {q : Tsq α} {f : σ → α → Option σ} {st : σ} {n : ℕ}

theorem waits_iff (h : q.r.WF) : q.waits = true ↔ q.r.contents = [] ∧ q.stopToken = false := by
  rw [waits, Bool.and_eq_true, decide_eq_true_iff, Bool.not_eq_true', ← h.length_contents,
    List.length_eq_zero_iff]

/-- The loop hands the elements to the callback in order, as long as it reaches them. -/
theorem popLoop_eq {r : SeqRing α} (h : r.WF) {i : ℕ} (hreads : r.Reads (i + n))
    (hn : i + n ≤ r.size) :
    popLoop r f n (r.iter i) st =
      (((r.contents.drop i).take n).foldlM f st).map fun st => (st, r.iter (i + n)) := by
  induction n generalizing i st with
  | zero => rfl
  | succ n ih =>
    have hlt : i < r.contents.length := by
      rw [h.length_contents]
      omega
    have hnext : i + 1 + n = i + (n + 1) := by omega
    rw [popLoop, h.getElem?_iter hreads (by omega) hn, List.getElem?_eq_getElem hlt,
      List.drop_eq_getElem_cons hlt, List.take_succ_cons, List.foldlM_cons, h.next_iter]
    cases hf : f st r.contents[i] with
    | none =>
      simp [hf]
    | some st' =>
      simp only [Option.bind_some, hf, Option.bind_eq_bind]
      rw [ih (by rwa [hnext]) (by omega), hnext]

/-- The loop reads past the end of an array with `2 ^ 32` places. -/
theorem popLoop_eq_none {r : SeqRing α} (h : r.WF) (hcap : r.cap = 2 ^ 32) {i : ℕ}
    (hi : r.front + i ≤ 2 ^ 32) (hn : 2 ^ 32 < r.front + (i + n)) :
    popLoop r f n (r.front + i) st = none := by
  induction n generalizing i st with
  | zero => omega
  | succ n ih =>
    rw [popLoop]
    by_cases hlast : r.front + i = 2 ^ 32
    · rw [hlast, h.getElem?_of_cap hcap]
      rfl
    · rw [SeqRing.next_of_le hcap.ge, Nat.add_assoc, Option.bind_eq_none_iff]
      intro x _
      rw [Option.bind_eq_none_iff]
      intro st' _
      exact ih (by omega) (by omega)

/-- A ring that is not empty has an element to pop. -/
theorem front_ne_seqEnd {r : SeqRing α} (h : r.WF) (hpos : 0 < r.size) : r.front ≠ r.seqEnd := by
  have hfront : r.front = (r.front + 0) % r.cap := (Nat.mod_eq_of_lt h.front_lt).symm
  rw [hfront]
  exact mt (h.eq_seqEnd_iff (Nat.zero_le _)).1 (Nat.ne_of_lt hpos)

variable [Inhabited α]

/-- `push_tsq` adds the element at the end. -/
theorem pushTsq_spec (h : q.r.WF) {mem : Bool} (hmem : q.r.full = true → mem = true)
    (hroom : q.r.size + 1 < 2 ^ 32) (x : α) : ∃ r, q.pushTsq mem x = some { q with r := r } ∧
      r.WF ∧ r.contents = q.r.contents ++ [x] ∧
        (q.r.Unwrapped → (r.Unwrapped ↔ q.r.Room)) := by
  obtain ⟨r, hpush, hspec⟩ := h.pushBack_spec hmem hroom x
  refine ⟨r, ?_, hspec⟩
  rw [pushTsq, hpush]
  rfl

theorem waitAndPopTsq_stop (h : q.stopToken = true) : q.waitAndPopTsq f st = some q.stop :=
  if_pos h

theorem popTsq_stop (h : q.stopToken = true) : q.popTsq n f st = some q.stop := if_pos h

/-- `pop_tsq_10` and `pop_tsq_100` hand the first elements to the callback, if they reach them. -/
theorem popTsq_spec (h : q.r.WF) (hstop : q.stopToken = false) (hpos : 0 < n)
    (hn : n ≤ q.r.size) (hreads : q.r.Reads n) :
    ∃ r, r.WF ∧ r.contents = q.r.contents.drop n ∧ (q.r.Unwrapped → r.Unwrapped) ∧ ∀ st : σ,
      q.popTsq n f st =
        ((q.r.contents.take n).foldlM f st).map fun st => (some st, { q with r := r }) := by
  obtain ⟨r, herase, hwf, hcontents, hunwrapped⟩ := h.erase_spec hpos hn
  refine ⟨r, hwf, hcontents, hunwrapped, fun st => ?_⟩
  have hne := front_ne_seqEnd h (Nat.lt_of_lt_of_le hpos hn)
  have hloop : popLoop q.r f n (q.r.iter 0) st = _ :=
    popLoop_eq h (by rwa [Nat.zero_add]) (by omega)
  rw [← h.front_eq_iter, List.drop_zero, Nat.zero_add] at hloop
  rw [popTsq, if_neg (by simp [hstop]), if_pos hn]
  dsimp only
  rw [if_neg hne, hloop]
  cases (q.r.contents.take n).foldlM f st with
  | none => rfl
  | some st' => exact congrArg (Option.map _) herase

/-- They read past the end of the array otherwise. -/
theorem popTsq_eq_none (h : q.r.WF) (hstop : q.stopToken = false) (hreads : ¬q.r.Reads n) (st : σ) :
    q.popTsq n f st = none := by
  rw [SeqRing.Reads, Classical.not_imp, Nat.not_le] at hreads
  have hfront := Nat.le_of_lt (h.front_lt.trans_le h.cap_le)
  have hloop : popLoop q.r f n (q.r.front + 0) st = none :=
    popLoop_eq_none h hreads.1 hfront (by omega)
  rw [popTsq, if_neg (by simp [hstop])]
  split
  · dsimp only
    rw [← Nat.add_zero q.r.front, hloop]
    split <;> rfl
  · rfl

/-- `wait_and_pop_tsq` hands the first element to the callback. -/
theorem waitAndPopTsq_spec (h : q.r.WF) (hstop : q.stopToken = false) (hpos : 0 < q.r.size) :
    ∃ r, r.WF ∧ r.contents = q.r.contents.drop 1 ∧ (q.r.Unwrapped → r.Unwrapped) ∧
      ∀ st : σ, q.waitAndPopTsq f st =
        ((q.r.contents.take 1).foldlM f st).map fun st => (some st, { q with r := r }) := by
  obtain ⟨r, herase, hwf, hcontents, hunwrapped⟩ := h.erase_spec (n := 1) Nat.one_pos hpos
  refine ⟨r, hwf, hcontents, hunwrapped, fun st => ?_⟩
  have hnext := h.next_iter 0
  rw [← h.front_eq_iter] at hnext
  rw [← hnext] at herase
  have hreads : q.r.Reads 1 := fun hcap => by
    have hlt := h.front_lt
    omega
  have hfront := h.getElem?_iter hreads Nat.one_pos hpos
  rw [← h.front_eq_iter] at hfront
  rw [waitAndPopTsq, if_neg (by simp [hstop])]
  dsimp only
  simp only [hfront, if_neg (front_ne_seqEnd h hpos), herase]
  cases hxs : q.r.contents with
  | nil =>
    rw [← h.length_contents, hxs] at hpos
    cases hpos
  | cons x xs =>
    rw [List.getElem?_cons_zero, Option.bind_some, List.take_succ_cons, List.take_zero,
      List.foldlM_cons]
    cases f st x <;> rfl

end Tsq

end FlexRic
