import FlexRic.AlgDs.TsQueue
import FlexRic.Semantics.Refinement
import Mathlib.Logic.Function.Iterate

/-!
# What rings and queues are for

A ring is a list to which elements are pushed at one end and from which they are erased at the
other. A queue on it hands out the elements that were pushed, each once and in order. Both are so
as long as nothing is pushed on a ring with `2 ^ 32` places whose head is at the last one.

An element is a value of any type; in the code it is a block of `elt_size` bytes, and all offsets
are multiples of this size. There is always memory for a larger array.
-/

namespace FlexRic

universe u

/-- The operations on a ring. -/
inductive RingOp (α : Type u) : Type u where
  /-- `seq_ring_push_back` -/
  | push (x : α) : RingOp α
  /-- `seq_ring_erase` from the front on, for this many elements -/
  | erase (n : ℕ) : RingOp α

/-- The operations on a queue that has not been stopped. -/
inductive TsqOp (α : Type u) : Type u where
  /-- `push_tsq` -/
  | push (x : α) : TsqOp α
  /-- `wait_and_pop_tsq` after its wait -/
  | waitAndPop : TsqOp α
  /-- `pop_tsq_10` -/
  | pop10 : TsqOp α
  /-- `pop_tsq_100` -/
  | pop100 : TsqOp α

variable {α : Type u}

/-- A list as a ring. -/
def listMachine (α : Type u) : Machine (List α) (RingOp α) Unit where
  init := []
  step l
    | .push x => some ((), l ++ [x])
    | .erase n => if n ≤ l.length then some ((), l.drop n) else none

/-- There is room for a push. -/
def ringRoom (r : SeqRing α) (_ : List α) : RingOp α → Prop
  | .push _ => r.Room
  | .erase _ => True

/-- All that was pushed on a queue, and how many elements of it were handed out. -/
structure Fifo (α : Type u) : Type u where
  pushed : List α
  popped : ℕ
  le : popped ≤ pushed.length

namespace Fifo

/-- The elements that were pushed and not handed out. -/
def waiting (q : Fifo α) : List α := q.pushed.drop q.popped

/-- The next elements are handed out, if they are there. -/
def pop (q : Fifo α) (n : ℕ) : Option (List α × Fifo α) :=
  if h : q.popped + n ≤ q.pushed.length then some (q.waiting.take n, ⟨q.pushed, q.popped + n, h⟩)
  else none

/-- The queues as a machine: the answer to a pop are the elements handed out. -/
def machine (α : Type u) : Machine (Fifo α) (TsqOp α) (List α) where
  init := ⟨[], 0, Nat.le_refl 0⟩
  step q
    | .push x => some ([], ⟨q.pushed ++ [x], q.popped, by
        rw [List.length_append]
        exact Nat.le_trans q.le (Nat.le_add_right _ _)⟩)
    | .waitAndPop => q.pop 1
    | .pop10 => q.pop 10
    | .pop100 => q.pop 100

variable {q q' : Fifo α} {n : ℕ} {ans : List α}

theorem pop_eq_some (h : q.pop n = some (ans, q')) :
    n ≤ q.waiting.length ∧ ans = q.waiting.take n ∧ q'.waiting = q.waiting.drop n := by
  obtain ⟨hle, heq⟩ := Option.dite_none_right_eq_some.1 h
  cases heq
  refine ⟨?_, rfl, ?_⟩
  · rw [waiting, List.length_drop]
    omega
  · rw [waiting, waiting, List.drop_drop]

end Fifo

namespace SeqRing

variable [Inhabited α]

/-- The operations as the code computes them. -/
def step (r : SeqRing α) : RingOp α → Option (Unit × SeqRing α)
  | .push x => (r.pushBack true x).map fun r => ((), r)
  | .erase n => (r.erase r.front (r.next^[n] r.front)).map fun r => ((), r)

/-- The ring as a machine, from `seq_ring_init` on. -/
def machine (α : Type u) [Inhabited α] : Machine (SeqRing α) (RingOp α) Unit := ⟨init, step⟩

omit [Inhabited α] in
/-- The ring is the list: the size is the number of elements, the elements are where they are looked
for and in the order of the iteration, and the capacity is a power of two greater than the size. -/
structure Represents (r : SeqRing α) (l : List α) : Prop where
  wf : r.WF
  size : r.size = l.length
  atPos : ∀ i < l.length, r.atPos (UInt32.ofNat i) = l[i]?
  next : ∀ i < l.length, r.array[r.next^[i] r.front]? = l[i]?
  /-- the iteration comes to the end after the last element and not before -/
  seqEnd : ∀ i ≤ l.length, (r.next^[i] r.front = r.seqEnd ↔ i = l.length)
  cap : (∃ k, r.cap = 2 ^ k) ∧ l.length < r.cap

section Represents

omit [Inhabited α]

variable {r : SeqRing α} {l : List α}

theorem WF.iterate_next (h : r.WF) (i : ℕ) : r.next^[i] r.front = r.iter i := by
  induction i with
  | zero => exact h.front_eq_iter
  | succ i ih => rw [Function.iterate_succ_apply', ih, h.next_iter]

theorem represents_iff : r.Represents l ↔ r.WF ∧ r.Unwrapped ∧ r.contents = l := by
  constructor
  · intro h
    have hunwrapped : r.Unwrapped := by
      intro hcap
      have hend := (h.seqEnd l.length (Nat.le_refl _)).2 rfl
      rw [h.wf.iterate_next, iter, if_pos hcap, ← h.size] at hend
      rw [hend]
      exact UInt32.toNat_lt _
    refine ⟨h.wf, hunwrapped, h.wf.contents_eq h.size.symm fun i hi => ?_⟩
    have hnext := h.next i (h.size ▸ hi)
    rw [h.wf.iterate_next, h.wf.getElem?_iter (hunwrapped.reads (Nat.le_refl _)) hi
      (Nat.le_refl _), h.wf.getElem?_contents hi] at hnext
    exact hnext
  · rintro ⟨h, hunwrapped, rfl⟩
    have hlen := h.length_contents
    obtain ⟨k, -, -, hcap⟩ := h.cap
    refine ⟨h, hlen.symm, fun i hi => ?_, fun i hi => ?_, fun i hi => ?_, ⟨k, hcap⟩,
      hlen ▸ h.size⟩
    · rw [SeqRing.atPos, h.mask_add, ← SeqRing.front]
      exact (h.getElem?_contents (hlen ▸ hi)).symm
    · rw [h.iterate_next]
      exact h.getElem?_iter (hunwrapped.reads (Nat.le_refl _)) (hlen ▸ hi) (Nat.le_refl _)
    · rw [h.iterate_next, hlen]
      exact h.iter_eq_seqEnd_iff hunwrapped (hlen ▸ hi)

theorem size_lt (r : SeqRing α) : r.size < 2 ^ 32 := UInt32.toNat_lt _

theorem Represents.length_lt (h : r.Represents l) : l.length < 2 ^ 32 := by
  rw [← h.size]
  exact r.size_lt

end Represents

/-- A push and an erasure on the ring and on the list. -/
theorem simulates : (machine α).SimulatesBoth (listMachine α) Represents ringRoom where
  init := represents_iff.2 ⟨wf_init, unwrapped_init, contents_init⟩
  step := by
    intro r l op ans l' h hstep
    obtain ⟨hwf, hunwrapped, rfl⟩ := represents_iff.1 h
    cases op with
    | push x =>
      cases hstep
      constructor
      · rintro ⟨r', hr', hrep⟩
        have hlt := hrep.length_lt
        rw [List.length_append, List.length_singleton, ← h.size] at hlt
        obtain ⟨r'', hpush, -, -, hiff⟩ := hwf.pushBack_spec (fun _ => rfl) hlt x
        have heq : some ((), r'') = some ((), r') := (congrArg (Option.map _) hpush).symm.trans hr'
        cases heq
        exact (hiff hunwrapped).1 (represents_iff.1 hrep).2.1
      · intro hroom
        obtain ⟨r', hpush, hwf', hcontents, hiff⟩ :=
          hwf.pushBack_spec (fun _ => rfl) (hwf.lt_of_room hunwrapped hroom) x
        exact ⟨r', congrArg (Option.map _) hpush,
          represents_iff.2 ⟨hwf', (hiff hunwrapped).2 hroom, hcontents⟩⟩
    | erase n =>
      obtain ⟨hn, heq⟩ := Option.ite_none_right_eq_some.1 hstep
      cases heq
      refine ⟨fun _ => trivial, fun _ => ?_⟩
      have hn : n ≤ r.size := h.size ▸ hn
      rcases Nat.eq_zero_or_pos n with rfl | hpos
      · have herase : r.erase r.front r.front = some r := by rw [erase, if_pos rfl, if_pos rfl]
        exact ⟨r, congrArg (Option.map _) herase, represents_iff.2 ⟨hwf, hunwrapped, rfl⟩⟩
      · obtain ⟨r', herase, hwf', hcontents, hunwrapped'⟩ := hwf.erase_spec hpos hn
        rw [← hwf.iterate_next] at herase
        exact ⟨r', congrArg (Option.map _) herase,
          represents_iff.2 ⟨hwf', hunwrapped' hunwrapped, hcontents⟩⟩

end SeqRing

namespace Tsq

variable [Inhabited α]

/-- A callback that keeps the elements it is called on. -/
def keep (kept : List α) (x : α) : Option (List α) := some (kept ++ [x])

/-- The elements that a pop has handed out; a stopped queue hands out nothing. -/
def handedOut : Option (List α) × Tsq α → Option (List α × Tsq α)
  | (some kept, q) => some (kept, q)
  | (none, _) => none

/-- The operations as the code computes them. -/
def step (q : Tsq α) : TsqOp α → Option (List α × Tsq α)
  | .push x => (q.pushTsq true x).map fun q => ([], q)
  | .waitAndPop => (q.waitAndPopTsq keep []).bind handedOut
  | .pop10 => (q.popTsq10 keep []).bind handedOut
  | .pop100 => (q.popTsq100 keep []).bind handedOut

/-- The queue as a machine, from `init_tsq` on. -/
def machine (α : Type u) [Inhabited α] : Machine (Tsq α) (TsqOp α) (List α) := ⟨init, step⟩

omit [Inhabited α] in
/-- There is room for a push. -/
def HasRoom (q : Tsq α) (_ : Fifo α) : TsqOp α → Prop
  | .push _ => q.r.Room
  | _ => True

omit [Inhabited α] in
/-- The ring holds the elements that were not handed out. -/
structure Represents (q : Tsq α) (f : Fifo α) : Prop where
  ring : q.r.Represents f.waiting
  running : q.stopToken = false

omit [Inhabited α] in
theorem foldlM_keep (xs kept : List α) : xs.foldlM keep kept = some (kept ++ xs) := by
  induction xs generalizing kept with
  | nil => rw [List.append_nil]; rfl
  | cons x xs ih =>
    rw [List.foldlM_cons, keep]
    exact (ih _).trans (by rw [List.append_assoc]; rfl)

variable {q : Tsq α} {f f' : Fifo α} {n : ℕ} {ans : List α}

omit [Inhabited α] in
/-- A pop function hands out the next elements. -/
theorem Represents.pop (h : q.Represents f) (hpop : f.pop n = some (ans, f'))
    {p : Option (Option (List α) × Tsq α)}
    (hp : n ≤ q.r.size → ∃ r, r.WF ∧ r.contents = q.r.contents.drop n ∧
      (q.r.Unwrapped → r.Unwrapped) ∧
      p = ((q.r.contents.take n).foldlM keep []).map fun kept => (some kept, { q with r := r })) :
    ∃ q', p.bind handedOut = some (ans, q') ∧ q'.Represents f' := by
  obtain ⟨hle, rfl, hwaiting⟩ := Fifo.pop_eq_some hpop
  obtain ⟨-, hunwrapped, hcontents⟩ := SeqRing.represents_iff.1 h.ring
  obtain ⟨r, hwf, hr, hunwrapped', rfl⟩ := hp (h.ring.size ▸ hle)
  refine ⟨{ q with r := r }, ?_,
    SeqRing.represents_iff.2 ⟨hwf, hunwrapped' hunwrapped, ?_⟩, h.running⟩
  · rw [foldlM_keep, hcontents]
    rfl
  · rw [hr, hcontents, hwaiting]

/-- An operation on the queue. -/
theorem simulates : (machine α).SimulatesBoth (Fifo.machine α) Represents HasRoom where
  init := ⟨SeqRing.represents_iff.2 ⟨SeqRing.wf_init, SeqRing.unwrapped_init,
    SeqRing.contents_init⟩, rfl⟩
  step := by
    intro q f op ans f' h hstep
    obtain ⟨hwf, hunwrapped, hcontents⟩ := SeqRing.represents_iff.1 h.ring
    have hpop : ∀ {n}, 0 < n → n ≤ q.r.size → ∃ r, r.WF ∧
        r.contents = q.r.contents.drop n ∧ (q.r.Unwrapped → r.Unwrapped) ∧
        q.popTsq n keep [] = ((q.r.contents.take n).foldlM keep []).map fun kept =>
          (some kept, { q with r := r }) := by
      intro n hpos hle
      obtain ⟨r, hwf', hr, hunwrapped', heq⟩ :=
        popTsq_spec (f := keep) hwf h.running hpos hle (hunwrapped.reads hle)
      exact ⟨r, hwf', hr, hunwrapped', heq []⟩
    cases op with
    | push x =>
      cases hstep
      have hwaiting : (f.pushed ++ [x]).drop f.popped = f.waiting ++ [x] :=
        List.drop_append_of_le_length f.le
      constructor
      · rintro ⟨q', hq', hrep⟩
        have hlt := hrep.ring.length_lt
        rw [Fifo.waiting, hwaiting, List.length_append, List.length_singleton,
          ← h.ring.size] at hlt
        obtain ⟨r, hpush, -, -, hiff⟩ := pushTsq_spec hwf (fun _ => rfl) hlt x
        have heq : some (([] : List α), { q with r := r }) = some ([], q') :=
          (congrArg (Option.map _) hpush).symm.trans hq'
        cases heq
        exact (hiff hunwrapped).1 (SeqRing.represents_iff.1 hrep.ring).2.1
      · intro hroom
        obtain ⟨r, hpush, hwf', hr, hiff⟩ :=
          pushTsq_spec hwf (fun _ => rfl) (hwf.lt_of_room hunwrapped hroom) x
        refine ⟨_, congrArg (Option.map _) hpush,
          SeqRing.represents_iff.2 ⟨hwf', (hiff hunwrapped).2 hroom, ?_⟩, h.running⟩
        rw [hr, hcontents]
        exact hwaiting.symm
    | waitAndPop =>
      refine ⟨fun _ => trivial, fun _ => h.pop hstep fun hle => ?_⟩
      obtain ⟨r, hwf', hr, hunwrapped', heq⟩ := waitAndPopTsq_spec (f := keep) hwf h.running hle
      exact ⟨r, hwf', hr, hunwrapped', heq []⟩
    | pop10 => exact ⟨fun _ => trivial, fun _ => h.pop hstep (hpop (by decide))⟩
    | pop100 => exact ⟨fun _ => trivial, fun _ => h.pop hstep (hpop (by decide))⟩

/-- The ring is a list and the queue hands out each element once and in order, exactly as long as
nothing is pushed on a ring with `2 ^ 32` places whose head is at the last one. -/
theorem fifo_iff_room :
    (∀ ops : List (RingOp α), (SeqRing.machine α).Follows (listMachine α) SeqRing.Represents
      .init [] ops ↔ (SeqRing.machine α).AlongBoth (listMachine α) ringRoom .init [] ops) ∧
    ∀ ops : List (TsqOp α), (machine α).Follows (Fifo.machine α) Represents init
      (Fifo.machine α).init ops ↔
        (machine α).AlongBoth (Fifo.machine α) HasRoom init (Fifo.machine α).init ops :=
  ⟨fun ops => SeqRing.simulates.follows_iff SeqRing.simulates.init ops,
    fun ops => simulates.follows_iff simulates.init ops⟩

/-- Pushes, one after the other. -/
theorem length_of_follows {r : SeqRing α} {l : List α} {x : α}
    (h : (SeqRing.machine α).Follows (listMachine α) SeqRing.Represents r l
      (List.replicate n (.push x))) : l.length + n < 2 ^ 32 := by
  induction n generalizing r l with
  | zero => exact h.related.length_lt
  | succ n ih =>
    obtain ⟨r', -, hrest⟩ := h.2 _ _ rfl
    have hlt := ih hrest
    rw [List.length_append, List.length_singleton] at hlt
    omega

/-- `2 ^ 32` pushes on a ring. -/
theorem not_follows_wrap : ¬(SeqRing.machine Unit).Follows (listMachine Unit) SeqRing.Represents
    .init [] (List.replicate (2 ^ 32) (.push ())) := by
  intro h
  have hlt := length_of_follows h
  rw [List.length_nil, Nat.zero_add] at hlt
  exact Nat.lt_irrefl _ hlt

end Tsq

end FlexRic
