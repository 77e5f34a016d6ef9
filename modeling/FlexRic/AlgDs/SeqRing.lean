import Mathlib.Data.List.Rotate
import Mathlib.Data.Nat.ModEq
import FlexRic.Semantics.Buffer

/-!
# Rings (`util/alg_ds/ds/seq_container/seq_ring.c`)

A ring keeps its elements in an array between two cursors of 32 bits that count the elements that
were pushed and erased; the position of a cursor is its value modulo the capacity, which is a power
of two. The capacity is doubled when all places but one are taken.

`contents` are the elements from the tail to the head. With fewer than `2 ^ 32 - 1` elements a push
adds one at the end, whatever the capacity is. With `2 ^ 32 - 1` elements the capacity becomes
`2 ^ 33`, the head wraps, and the ring is empty. With `2 ^ 32` places an iterator that leaves the
array at its end does not come back at its start, because its position has 32 bits.
-/

namespace FlexRic

universe u v

/-- `seq_ring_t`. The elements are values, so `elt_size` is not needed. -/
structure SeqRing (α : Type u) : Type u where
  array : List α
  cap : ℕ
  head : UInt32
  tail : UInt32
  deriving Repr

namespace SeqRing

/-- `DEFAULT_ELM` -/
def defaultElm : ℕ := 32

/-- `mask`; the capacity is converted to 32 bits. -/
def mask (cap : ℕ) (val : UInt32) : UInt32 := val &&& (UInt32.ofNat cap - 1)

section Operations

variable {α : Type u}

/-- `seq_ring_size` -/
def size (r : SeqRing α) : ℕ := (r.head - r.tail).toNat

/-- `full` -/
def full (r : SeqRing α) : Bool := r.size = r.cap - 1

/-- `seq_ring_front`: an iterator is the index of an element. -/
def front (r : SeqRing α) : ℕ := (mask r.cap r.tail).toNat

/-- `seq_ring_end` -/
def seqEnd (r : SeqRing α) : ℕ := (mask r.cap r.head).toNat

/-- `seq_ring_next`: the position has 32 bits. -/
def next (r : SeqRing α) (it : ℕ) : ℕ :=
  let pos := UInt32.ofNat it
  if (pos + 1).toNat = r.cap then 0 else it + 1

/-- `seq_ring_at`: the element at the position, counted from the tail. -/
def atPos (r : SeqRing α) (pos : UInt32) : Option α := r.array[(mask r.cap (r.tail + pos)).toNat]?

/-- `seq_ring_init`, when there is memory for the array. -/
def init [Inhabited α] : SeqRing α := ⟨List.replicate defaultElm default, defaultElm, 0, 0⟩

/-- `enlarge_buffer`: the elements go to the start of an array of twice the size. -/
def enlargeBuffer [Inhabited α] (mem : Bool) (r : SeqRing α) : Option (SeqRing α) :=
  if r.full then
    (Buffer.calloc mem (r.cap * 2)).bind fun tmpBuffer =>
      let headPos := r.seqEnd
      let tailPos := r.front
      (if tailPos < headPos then
        Buffer.memcpy tmpBuffer 0 r.array tailPos (headPos - tailPos)
      else
        (Buffer.memcpy tmpBuffer 0 r.array tailPos (r.cap - tailPos)).bind fun tmpBuffer =>
          Buffer.memcpy tmpBuffer (r.cap - tailPos) r.array 0 headPos).map fun tmpBuffer =>
        { array := tmpBuffer
          cap := r.cap * 2
          tail := 0
          head := UInt32.ofNat (r.cap * 2 / 2 - 1) }
  else none

/-- `seq_ring_push_back` -/
def pushBack [Inhabited α] (mem : Bool) (r : SeqRing α) (data : α) : Option (SeqRing α) :=
  (if r.full then r.enlargeBuffer mem else some r).bind fun r =>
    (Buffer.store r.array (mask r.cap r.head).toNat data).map fun array =>
      { r with array := array, head := r.head + 1 }

/-- The cursor of `seq_ring_erase` after its elements were set to zero, with its last assertion. -/
def advance (r : SeqRing α) (array : List α) (n itEnd : ℕ) : Option (SeqRing α) :=
  let tail := r.tail + UInt32.ofNat n
  if (mask r.cap tail).toNat = itEnd then some { r with array := array, tail := tail } else none

/-- `seq_ring_erase`: the positions have 32 bits. -/
def erase [Inhabited α] (r : SeqRing α) (itStart itEnd : ℕ) : Option (SeqRing α) :=
  if itStart = r.front then
    if itStart = itEnd then some r
    else
      let startPos := (UInt32.ofNat itStart).toNat
      let endPos := (UInt32.ofNat itEnd).toNat
      if endPos ≤ r.cap ∧ endPos ≠ startPos then
        if startPos < endPos then
          (Buffer.memset r.array itStart (endPos - startPos)).bind fun array =>
            r.advance array (endPos - startPos) endPos
        else
          (Buffer.memset r.array itStart (r.cap - startPos)).bind fun array =>
            (Buffer.memset array 0 endPos).bind fun array =>
              r.advance array (r.cap - startPos + endPos) endPos
      else none
  else none

/-- The loop of `seq_ring_free` with the callback `fp`, which is called on the elements from the
iterator on. It goes around the ring at most once. -/
def freeLoop (r : SeqRing α) : ℕ → ℕ → Option (List α)
  | 0, it => if it = r.seqEnd then some [] else none
  | fuel + 1, it =>
    if it = r.seqEnd then some []
    else r.array[it]?.bind fun x => (r.freeLoop fuel (r.next it)).map (x :: ·)

/-- `seq_ring_free`: the elements that `fp` is called on. -/
def free (r : SeqRing α) : Option (List α) := r.freeLoop r.cap r.front

/-- The elements from the tail to the head. -/
def contents (r : SeqRing α) : List α := (r.array.rotate r.front).take r.size

/-- The array has the capacity, which is a power of two that the cursors can be masked with, and one
place is free. -/
structure WF (r : SeqRing α) : Prop where
  length : r.array.length = r.cap
  cap : ∃ k, 5 ≤ k ∧ k ≤ 32 ∧ r.cap = 2 ^ k
  size : r.size < r.cap

/-- The position after some steps from the front, which has left the array if the ring has `2 ^ 32`
places and the steps go past its end. -/
def iter (r : SeqRing α) (n : ℕ) : ℕ :=
  if r.cap = 2 ^ 32 then r.front + n else (r.front + n) % r.cap

/-- The first `n` elements are reached by the iteration. -/
def Reads (r : SeqRing α) (n : ℕ) : Prop := r.cap = 2 ^ 32 → r.front + n ≤ 2 ^ 32

/-- The iteration reaches all elements, and comes to the end behind them. -/
def Unwrapped (r : SeqRing α) : Prop := r.cap = 2 ^ 32 → r.front + r.size < 2 ^ 32

/-- A push does not wrap a head that the iteration has to follow. -/
def Room (r : SeqRing α) : Prop := r.cap = 2 ^ 32 → r.head.toNat + 1 < 2 ^ 32

end Operations

/-! ## Positions -/

theorem toNat_mask {k : ℕ} (hk : k ≤ 32) (val : UInt32) :
    (mask (2 ^ k) val).toNat = val.toNat % 2 ^ k := by
  have hpos : 0 < 2 ^ k := Nat.two_pow_pos k
  have hle : 2 ^ k ≤ 2 ^ 32 := Nat.pow_le_pow_right (by decide) hk
  have hsub : (UInt32.ofNat (2 ^ k) - 1).toNat = 2 ^ k - 1 := by
    rw [UInt32.toNat_sub, UInt32.toNat_ofNat']
    rcases Nat.lt_or_ge k 32 with hlt | hge
    · have hlt : 2 ^ k < 2 ^ 32 := Nat.pow_lt_pow_right (by decide) hlt
      have hone : (1 : UInt32).toNat = 1 := rfl
      rw [hone]
      omega
    · rw [Nat.le_antisymm hk hge]
      rfl
  rw [mask, UInt32.toNat_and, hsub, Nat.and_two_pow_sub_one_eq_mod]

/-- The remainder of a position that may go once around. -/
theorem mod_of_lt_two_mul {a c : ℕ} (h : a < 2 * c) : a % c = if a < c then a else a - c := by
  split
  · next hlt => exact Nat.mod_eq_of_lt hlt
  · next hge =>
    rw [Nat.mod_eq_sub_mod (Nat.le_of_not_lt hge)]
    exact Nat.mod_eq_of_lt (by omega)

/-- Different places in the window of the ring are different positions. -/
theorem mod_inj {a c i j : ℕ} (hi : i < c) (hj : j < c) (h : (a + i) % c = (a + j) % c) :
    i = j := by
  have hmod : i % c = j % c := Nat.ModEq.add_left_cancel' a h
  rwa [Nat.mod_eq_of_lt hi, Nat.mod_eq_of_lt hj] at hmod

/-- In a ring with fewer than `2 ^ 32` places the iterators go around. -/
theorem next_of_lt {α : Type u} {r : SeqRing α} {pos : ℕ} (hcap : r.cap < 2 ^ 32)
    (hlt : pos < r.cap) : r.next pos = (pos + 1) % r.cap := by
  have hpos : (UInt32.ofNat pos + 1).toNat = pos + 1 := by
    rw [UInt32.toNat_add, UInt32.toNat_ofNat', Nat.mod_add_mod, UInt32.toNat_one]
    exact Nat.mod_eq_of_lt (by omega)
  rw [mod_of_lt_two_mul (by omega), next, hpos]
  split
  · rw [if_neg (by omega)]
    omega
  · rw [if_pos (by omega)]

/-- In a larger ring no position is the last one, and the iterators leave the array. -/
theorem next_of_le {α : Type u} {r : SeqRing α} (hcap : 2 ^ 32 ≤ r.cap) (pos : ℕ) :
    r.next pos = pos + 1 := by
  -- The position that follows is 0, and never the capacity.
  have hlt := UInt32.toNat_lt (UInt32.ofNat pos + 1)
  rw [next]
  exact if_neg (by omega)

/-- An iterator in the array is at the position of its element. -/
theorem iter_eq {α : Type u} {r : SeqRing α} {n : ℕ}
    (hn : r.cap = 2 ^ 32 → r.front + n < 2 ^ 32) :
    r.iter n = (r.front + n) % r.cap := by
  rw [iter]
  split
  · next hcap =>
    rw [hcap]
    exact (Nat.mod_eq_of_lt (hn hcap)).symm
  · rfl

namespace WF

variable {α : Type u} {r : SeqRing α}

theorem cap_pos (h : r.WF) : 0 < r.cap := Nat.lt_of_le_of_lt (Nat.zero_le _) h.size

theorem le_cap (h : r.WF) : 32 ≤ r.cap := by
  obtain ⟨k, hk, -, hcap⟩ := h.cap
  rw [hcap]
  exact Nat.pow_le_pow_right (n := 2) Nat.two_pos hk

theorem cap_dvd (h : r.WF) : r.cap ∣ 2 ^ 32 := by
  obtain ⟨k, -, hk, hcap⟩ := h.cap
  rw [hcap]
  exact Nat.pow_dvd_pow 2 hk

theorem cap_le (h : r.WF) : r.cap ≤ 2 ^ 32 := Nat.le_of_dvd (by decide) h.cap_dvd

theorem toNat_mask (h : r.WF) (val : UInt32) : (mask r.cap val).toNat = val.toNat % r.cap := by
  obtain ⟨k, -, hk, hcap⟩ := h.cap
  rw [hcap]
  exact SeqRing.toNat_mask hk val

theorem front_lt (h : r.WF) : r.front < r.cap := by
  rw [front, h.toNat_mask]
  exact Nat.mod_lt _ h.cap_pos

/-- Advancing a cursor advances its position, also when the cursor wraps. -/
theorem mask_add (h : r.WF) (val : UInt32) (n : ℕ) :
    (mask r.cap (val + UInt32.ofNat n)).toNat = ((mask r.cap val).toNat + n) % r.cap := by
  rw [h.toNat_mask, h.toNat_mask, UInt32.toNat_add, UInt32.toNat_ofNat',
    Nat.mod_mod_of_dvd _ h.cap_dvd, Nat.mod_add_mod]
  rw [Nat.add_mod, Nat.mod_mod_of_dvd _ h.cap_dvd, ← Nat.add_mod]

theorem seqEnd_eq (h : r.WF) : r.seqEnd = (r.front + r.size) % r.cap := by
  have hhead : r.head = r.tail + UInt32.ofNat r.size := by
    rw [SeqRing.size, UInt32.ofNat_toNat]
    rw [UInt32.add_comm, UInt32.sub_add_cancel]
  rw [seqEnd, hhead, h.mask_add, front]

theorem front_eq_iter (h : r.WF) : r.front = r.iter 0 := by
  rw [iter]
  split
  · rfl
  · exact (Nat.mod_eq_of_lt h.front_lt).symm

/-- A step of the iteration. -/
theorem next_iter (h : r.WF) (n : ℕ) : r.next (r.iter n) = r.iter (n + 1) := by
  rw [iter, iter]
  split
  · next hcap =>
    rw [next_of_le hcap.ge, Nat.add_assoc]
  · next hcap =>
    have hcap : r.cap < 2 ^ 32 := Nat.lt_of_le_of_ne h.cap_le hcap
    rw [next_of_lt hcap (Nat.mod_lt _ h.cap_pos), Nat.mod_add_mod, Nat.add_assoc]

/-- The position of an iterator in 32 bits. -/
theorem toNat_iter (h : r.WF) (n : ℕ) :
    (UInt32.ofNat (r.iter n)).toNat = (r.front + n) % r.cap := by
  rw [UInt32.toNat_ofNat', iter]
  split
  · next hcap => rw [hcap]
  · exact Nat.mod_eq_of_lt (Nat.lt_of_lt_of_le (Nat.mod_lt _ h.cap_pos) h.cap_le)

/-- The head of the largest ring, as long as it did not wrap. -/
theorem toNat_head (h : r.WF) (hcap : r.cap = 2 ^ 32) (hunwrapped : r.Unwrapped) :
    r.head.toNat = r.front + r.size := by
  have hend := h.seqEnd_eq
  rw [seqEnd, h.toNat_mask, hcap, Nat.mod_eq_of_lt (hunwrapped hcap)] at hend
  rwa [Nat.mod_eq_of_lt (UInt32.toNat_lt _)] at hend

theorem length_contents (h : r.WF) : r.contents.length = r.size := by
  rw [contents, List.length_take, List.length_rotate, h.length]
  exact Nat.min_eq_left (Nat.le_of_lt h.size)

theorem getElem?_contents (h : r.WF) {i : ℕ} (hi : i < r.size) :
    r.contents[i]? = r.array[(r.front + i) % r.cap]? := by
  have hlt : i < r.array.length := by
    rw [h.length]
    exact Nat.lt_trans hi h.size
  rw [contents, List.getElem?_take_of_lt hi, List.getElem?_rotate hlt, h.length, Nat.add_comm]

/-- The contents, element by element. -/
theorem contents_eq (h : r.WF) {l : List α} (hlen : l.length = r.size)
    (hl : ∀ i < r.size, r.array[(r.front + i) % r.cap]? = l[i]?) : r.contents = l := by
  apply List.ext_getElem?'
  intro i hi
  rw [h.length_contents, hlen, Nat.max_self] at hi
  rw [h.getElem?_contents hi, hl i hi]

theorem full_iff (h : r.WF) : r.full = true ↔ r.size + 1 = r.cap := by
  have hpos := h.cap_pos
  rw [full, decide_eq_true_iff]
  omega

/-- A full ring begins at the start of its array or wraps. -/
theorem seqEnd_of_full (h : r.WF) (hfull : r.full = true) :
    (r.front = 0 ∧ r.seqEnd = r.cap - 1) ∨ (0 < r.front ∧ r.seqEnd = r.front - 1) := by
  have hsize := h.full_iff.1 hfull
  have hfront := h.front_lt
  have hend := h.seqEnd_eq
  rw [mod_of_lt_two_mul (by omega)] at hend
  split at hend <;> omega

end WF

/-! ## Push -/

section PushBack

variable {α : Type u} {r : SeqRing α} {mem : Bool}

/-- A push into a ring that is not full. -/
theorem WF.store_spec (h : r.WF) (hroom : r.size + 1 < r.cap) (x : α) : ∃ r', r'.WF ∧
    (Buffer.store r.array (mask r.cap r.head).toNat x).map (fun array =>
      { r with array := array, head := r.head + 1 }) = some r' ∧
    r'.contents = r.contents ++ [x] ∧ r'.cap = r.cap ∧ r'.front = r.front := by
  have hend := h.seqEnd_eq
  have hlt : r.seqEnd < r.array.length := by
    rw [h.length, hend]
    exact Nat.mod_lt _ h.cap_pos
  have hsize : ((r.head + 1) - r.tail).toNat = r.size + 1 := by
    have hle := h.cap_le
    have hsub : r.head + 1 - r.tail = r.head - r.tail + 1 := by
      rw [UInt32.sub_eq_add_neg, UInt32.sub_eq_add_neg, UInt32.add_assoc, UInt32.add_comm 1,
        UInt32.add_assoc]
    rw [hsub, UInt32.toNat_add]
    exact Nat.mod_eq_of_lt (Nat.lt_of_lt_of_le hroom hle)
  have hwf : WF { r with array := r.array.set r.seqEnd x, head := r.head + 1 } :=
    ⟨List.length_set.trans h.length, h.cap, hsize.trans_lt hroom⟩
  refine ⟨_, hwf, ?_, hwf.contents_eq ?_ ?_, rfl, rfl⟩
  · rw [← seqEnd, Buffer.store_of_lt hlt]
    rfl
  · rw [List.length_append, h.length_contents]
    exact hsize.symm
  · intro i hi
    have hi : i < r.size + 1 := hsize ▸ hi
    change (r.array.set r.seqEnd x)[(r.front + i) % r.cap]? = _
    rcases Nat.lt_succ_iff_lt_or_eq.1 hi with hi | rfl
    · have hne : r.seqEnd ≠ (r.front + i) % r.cap := by
        rw [hend]
        intro heq
        exact absurd (mod_inj h.size (Nat.lt_trans hi h.size) heq) (Nat.ne_of_gt hi)
      rw [List.getElem?_set_ne hne, ← h.getElem?_contents hi, List.getElem?_append_left]
      rwa [h.length_contents]
    · rw [← hend, List.getElem?_set_self hlt, List.getElem?_append_right, h.length_contents,
        Nat.sub_self]
      · rfl
      · exact h.length_contents.le

variable [Inhabited α]

theorem size_init : (init : SeqRing α).size = 0 := by
  rw [size, init, UInt32.sub_self, UInt32.toNat_zero]

theorem wf_init : (init : SeqRing α).WF where
  length := List.length_replicate
  cap := ⟨5, by decide, by decide, rfl⟩
  size := size_init.trans_lt (Nat.succ_pos 31)

theorem unwrapped_init : (init : SeqRing α).Unwrapped := by
  intro hcap
  cases hcap

@[simp] theorem contents_init : (init : SeqRing α).contents = [] := by
  rw [contents, size_init, List.take_zero]

/-- The elements are at the start of the new array, in order. -/
theorem WF.enlargeBuffer_eq (h : r.WF) (hfull : r.full = true) : ∃ rest : List α,
    rest.length = r.cap + 1 ∧ r.enlargeBuffer true =
      some ⟨r.contents ++ rest, r.cap * 2, UInt32.ofNat (r.cap - 1), 0⟩ := by
  have hlen := h.length
  have hsize := h.full_iff.1 hfull
  have hfront := h.front_lt
  have htmp : (List.replicate (r.cap * 2) (default : α)).length = r.cap * 2 :=
    List.length_replicate
  have hhead : r.cap * 2 / 2 - 1 = r.cap - 1 := by omega
  have hrotate : r.array.rotate r.front = r.array.drop r.front ++ r.array.take r.front :=
    List.rotate_eq_drop_append_take (by omega)
  rw [enlargeBuffer, if_pos hfull, Buffer.calloc, if_pos rfl, Option.bind_some, hhead]
  generalize List.replicate (r.cap * 2) (default : α) = tmp at htmp
  rcases h.seqEnd_of_full hfull with ⟨hzero, hend⟩ | ⟨hpos, hend⟩
  · -- the elements do not wrap
    have hcopy : Buffer.memcpy tmp 0 r.array r.front (r.seqEnd - r.front) =
        some (r.contents ++ tmp.drop (r.cap - 1)) := by
      have hcount : r.seqEnd - r.front = r.cap - 1 := by omega
      have hsize' : r.size = r.cap - 1 := by omega
      rw [hcount, Buffer.memcpy_zero (by omega) (by omega), contents, hrotate, hzero, hsize',
        List.take_zero, List.append_nil]
    refine ⟨tmp.drop (r.cap - 1), ?_, ?_⟩
    · rw [List.length_drop]
      omega
    · have hlt : r.front < r.seqEnd := by
        have hcap := h.le_cap
        omega
      dsimp only
      rw [if_pos hlt, hcopy]
      rfl
  · have hfirst : Buffer.memcpy tmp 0 r.array r.front (r.cap - r.front) =
        some (r.array.drop r.front ++ tmp.drop (r.cap - r.front)) := by
      rw [Buffer.memcpy_zero (by omega) (by omega), List.take_of_length_le]
      rw [List.length_drop]
      omega
    have hsecond : Buffer.memcpy (r.array.drop r.front ++ tmp.drop (r.cap - r.front))
        (r.cap - r.front) r.array 0 r.seqEnd =
          some (r.contents ++ (tmp.drop (r.cap - r.front)).drop r.seqEnd) := by
      have hdrop : (r.array.drop r.front).length = r.cap - r.front := by
        rw [List.length_drop, hlen]
      have hcount : min (r.size - (r.cap - r.front)) r.front = r.seqEnd := by omega
      have hcontents : r.contents = r.array.drop r.front ++ r.array.take r.seqEnd := by
        rw [contents, hrotate, List.take_append, hdrop, List.take_of_length_le (by omega),
          List.take_take, hcount]
      rw [Buffer.memcpy_append (by omega) _ hdrop.symm, hcontents, List.drop_zero]
      rw [List.length_drop]
      omega
    refine ⟨(tmp.drop (r.cap - r.front)).drop r.seqEnd, ?_, ?_⟩
    · rw [List.length_drop, List.length_drop]
      omega
    · have hge : ¬r.front < r.seqEnd := by omega
      dsimp only
      rw [if_neg hge, hfirst, Option.bind_some, hsecond]
      rfl

/-- Enlarging the array leaves the contents. -/
theorem WF.enlargeBuffer_spec (h : r.WF) (hfull : r.full = true) (hroom : r.size + 1 < 2 ^ 32) :
    ∃ r', r.enlargeBuffer true = some r' ∧ r'.WF ∧ r'.contents = r.contents ∧ r'.size = r.size ∧
      r'.cap = r.cap * 2 ∧ r'.front = 0 := by
  obtain ⟨rest, hrest, heq⟩ := h.enlargeBuffer_eq hfull
  have hfull := h.full_iff.1 hfull
  obtain ⟨k, hlow, -, hcap⟩ := h.cap
  have hk : k < 32 := by
    rw [hfull, hcap] at hroom
    exact (Nat.pow_lt_pow_iff_right Nat.one_lt_two).1 hroom
  have hsize : (UInt32.ofNat (r.cap - 1) - 0).toNat = r.size := by
    rw [UInt32.sub_zero, UInt32.toNat_ofNat', Nat.mod_eq_of_lt (by omega)]
    omega
  have hwf : WF ⟨r.contents ++ rest, r.cap * 2, UInt32.ofNat (r.cap - 1), 0⟩ := by
    refine ⟨?_, ⟨k + 1, by omega, hk, ?_⟩, ?_⟩
    · change (r.contents ++ rest).length = r.cap * 2
      rw [List.length_append, h.length_contents, hrest]
      omega
    · rw [Nat.pow_succ, ← hcap]
    · rw [SeqRing.size, hsize]
      have hlt := h.size
      exact Nat.lt_of_lt_of_le hlt (Nat.le_mul_of_pos_right _ Nat.two_pos)
  have hfront : front ⟨r.contents ++ rest, r.cap * 2, UInt32.ofNat (r.cap - 1), 0⟩ = 0 := by
    rw [front, hwf.toNat_mask]
    exact Nat.zero_mod _
  refine ⟨_, heq, hwf, ?_, hsize, rfl, hfront⟩
  rw [contents, hfront, List.rotate_zero, SeqRing.size, hsize, ← h.length_contents,
    List.take_left]

/-- `seq_ring_push_back` adds the element at the end. The iteration reaches it if and only if there
was room. -/
theorem WF.pushBack_spec (h : r.WF) (hmem : r.full = true → mem = true)
    (hroom : r.size + 1 < 2 ^ 32) (x : α) :
    ∃ r', r.pushBack mem x = some r' ∧ r'.WF ∧ r'.contents = r.contents ++ [x] ∧
      (r.Unwrapped → (r'.Unwrapped ↔ r.Room)) := by
  have hsucc : ∀ {r' : SeqRing α}, r'.WF → r'.contents = r.contents ++ [x] →
      r'.size = r.size + 1 := by
    intro r' hwf hcontents
    rw [← hwf.length_contents, hcontents, List.length_append, h.length_contents]
    rfl
  by_cases hfull : r.full = true
  · obtain ⟨r₁, heq, hwf, hcontents, hsize, hcap, hfront⟩ := h.enlargeBuffer_spec hfull hroom
    have hfull' := h.full_iff.1 hfull
    have hlt : r₁.size + 1 < r₁.cap := by
      have hpos := h.cap_pos
      omega
    obtain ⟨r', hwf', hstore, hcontents', -, hfront'⟩ := hwf.store_spec hlt x
    rw [hcontents] at hcontents'
    have hsize' := hsucc hwf' hcontents'
    refine ⟨r', ?_, hwf', hcontents', fun _ => iff_of_true ?_ ?_⟩
    · rw [pushBack, if_pos hfull, hmem hfull, heq]
      exact hstore
    · -- The elements are at the start of the new array.
      intro _
      rw [hfront', hfront, hsize']
      omega
    · intro hcap
      omega
  · have hlt : r.size + 1 < r.cap := by
      have hsize := h.size
      have hne := mt h.full_iff.2 hfull
      omega
    obtain ⟨r', hwf', hstore, hcontents', hcap', hfront'⟩ := h.store_spec hlt x
    have hsize' := hsucc hwf' hcontents'
    refine ⟨r', ?_, hwf', hcontents', fun hunwrapped => ?_⟩
    · rw [pushBack, if_neg hfull]
      exact hstore
    · rw [Unwrapped, Room, hcap', hfront', hsize']
      refine forall_congr' fun hcap => ?_
      rw [h.toNat_head hcap hunwrapped, Nat.add_assoc]

omit [Inhabited α] in
/-- With room there are fewer than `2 ^ 32 - 1` elements. -/
theorem WF.lt_of_room (h : r.WF) (hunwrapped : r.Unwrapped) (hroom : r.Room) :
    r.size + 1 < 2 ^ 32 := by
  have hsize := h.size
  by_cases hcap : r.cap = 2 ^ 32
  · have hhead := h.toNat_head hcap hunwrapped
    have hlt := hroom hcap
    omega
  · have hle := h.cap_le
    omega

/-- With `2 ^ 32 - 1` elements the head wraps. -/
theorem WF.pushBack_wraps (h : r.WF) (hsize : r.size + 1 = 2 ^ 32) (x : α) :
    ∃ r', r.pushBack true x = some r' ∧ r'.contents = [] := by
  have hcap : r.cap = 2 ^ 32 := Nat.le_antisymm h.cap_le (hsize ▸ h.size)
  have hfull := h.full_iff.2 (hsize.trans hcap.symm)
  obtain ⟨rest, hrest, heq⟩ := h.enlargeBuffer_eq hfull
  have hlt : (mask (r.cap * 2) (UInt32.ofNat (r.cap - 1))).toNat <
      (r.contents ++ rest).length := by
    refine Nat.lt_of_lt_of_le (UInt32.toNat_lt _) ?_
    rw [List.length_append, hrest, hcap]
    omega
  have hpush : ∃ array, r.pushBack true x =
      some ⟨array, r.cap * 2, UInt32.ofNat (r.cap - 1) + 1, 0⟩ := by
    rw [pushBack, if_pos hfull, heq]
    exact ⟨_, congrArg (Option.map _) (Buffer.store_of_lt hlt x)⟩
  obtain ⟨array, hpush⟩ := hpush
  have hzero : (UInt32.ofNat (2 ^ 32 - 1) + 1 - 0).toNat = 0 := by decide
  rw [← hcap] at hzero
  refine ⟨_, hpush, ?_⟩
  rw [contents, SeqRing.size, hzero, List.take_zero]

end PushBack

/-! ## Erase -/

section Erase

variable {α : Type u} {r : SeqRing α} {n : ℕ}

theorem toNat_head_sub (hn : n ≤ r.size) :
    (r.head - (r.tail + UInt32.ofNat n)).toNat = r.size - n := by
  have hof : (UInt32.ofNat n).toNat = n := by
    rw [UInt32.toNat_ofNat']
    exact Nat.mod_eq_of_lt (Nat.lt_of_le_of_lt hn (UInt32.toNat_lt _))
  have hsub : r.head - (r.tail + UInt32.ofNat n) = r.head - r.tail - UInt32.ofNat n := by
    rw [UInt32.sub_eq_add_neg, UInt32.neg_add, UInt32.sub_eq_add_neg, ← UInt32.add_assoc,
      ← UInt32.sub_eq_add_neg r.head]
    exact (UInt32.sub_eq_add_neg _ _).symm
  rw [hsub, UInt32.toNat_sub_of_le, hof]
  · rfl
  · rw [UInt32.le_iff_toNat_le, hof]
    exact hn

/-- Moving the tail, when the elements behind it are left as they were. -/
theorem WF.advance_spec (h : r.WF) (hn : n ≤ r.size) {array : List α}
    (hlen : array.length = r.cap)
    (harray : ∀ i, n ≤ i → i < r.size →
      array[(r.front + i) % r.cap]? = r.array[(r.front + i) % r.cap]?) :
    ∃ r', r.advance array n ((r.front + n) % r.cap) = some r' ∧ r'.WF ∧
      r'.contents = r.contents.drop n ∧ (r.Unwrapped → r'.Unwrapped) := by
  have htail := h.mask_add r.tail n
  rw [← front] at htail
  have hadvance : r.advance array n ((r.front + n) % r.cap) =
      some { r with array := array, tail := r.tail + UInt32.ofNat n } := by
    rw [advance]
    exact if_pos htail
  generalize hr' : { r with array := array, tail := r.tail + UInt32.ofNat n } = r' at hadvance
  have hcap : r'.cap = r.cap := hr' ▸ rfl
  have hfront : r'.front = (r.front + n) % r.cap := hr' ▸ htail
  have hsize : r'.size = r.size - n := hr' ▸ toNat_head_sub hn
  have hwf : r'.WF := by
    refine ⟨?_, hcap ▸ h.cap, ?_⟩
    · rw [← hr']
      exact hlen
    · rw [hsize, hcap]
      exact Nat.lt_of_le_of_lt (Nat.sub_le _ _) h.size
  refine ⟨r', hadvance, hwf, hwf.contents_eq ?_ ?_, fun hunwrapped hmax => ?_⟩
  · rw [List.length_drop, h.length_contents, hsize]
  · intro i hi
    rw [hsize] at hi
    rw [hcap, hfront, Nat.mod_add_mod, Nat.add_assoc, List.getElem?_drop,
      h.getElem?_contents (by omega), ← harray _ (by omega) (by omega), ← hr']
  · have hlt := hunwrapped (hcap ▸ hmax)
    have hmod : (r.front + n) % r.cap = r.front + n :=
      Nat.mod_eq_of_lt (by omega)
    omega

/-- The positions of the first elements, for which the assertions of `seq_ring_erase` hold. -/
theorem WF.erase_eq [Inhabited α] (h : r.WF) (hpos : 0 < n) (hn : n ≤ r.size) :
    r.erase r.front (r.iter n) =
      if r.front < (r.front + n) % r.cap then
        (Buffer.memset r.array r.front ((r.front + n) % r.cap - r.front)).bind fun array =>
          r.advance array ((r.front + n) % r.cap - r.front) ((r.front + n) % r.cap)
      else
        (Buffer.memset r.array r.front (r.cap - r.front)).bind fun array =>
          (Buffer.memset array 0 ((r.front + n) % r.cap)).bind fun array =>
            r.advance array (r.cap - r.front + (r.front + n) % r.cap)
              ((r.front + n) % r.cap) := by
  have hsize := h.size
  have hstart : (UInt32.ofNat r.front).toNat = r.front := by
    rw [UInt32.toNat_ofNat']
    exact Nat.mod_eq_of_lt (Nat.lt_of_lt_of_le h.front_lt h.cap_le)
  have hne : r.front ≠ (r.front + n) % r.cap := by
    have hfront := h.front_lt
    rw [mod_of_lt_two_mul (by omega)]
    split <;> omega
  have hit : r.front ≠ r.iter n := by
    rw [iter]
    split
    · omega
    · exact hne
  rw [erase, if_pos rfl, if_neg hit]
  dsimp only
  rw [h.toNat_iter, hstart, if_pos ⟨Nat.le_of_lt (Nat.mod_lt _ h.cap_pos), hne.symm⟩]

/-- `seq_ring_erase` of the first elements. -/
theorem WF.erase_spec [Inhabited α] (h : r.WF) (hpos : 0 < n) (hn : n ≤ r.size) :
    ∃ r', r.erase r.front (r.iter n) = some r' ∧ r'.WF ∧ r'.contents = r.contents.drop n ∧
      (r.Unwrapped → r'.Unwrapped) := by
  have hfront := h.front_lt
  have hsize := h.size
  have hend := mod_of_lt_two_mul (a := r.front + n) (c := r.cap) (by omega)
  have hlen := h.length
  rw [h.erase_eq hpos hn]
  by_cases hwrap : r.front + n < r.cap
  · rw [if_pos hwrap] at hend
    have hle : r.front + n ≤ r.array.length := by omega
    obtain ⟨array, hset, hlen', hrest⟩ := Buffer.memset_spec hle
    obtain ⟨r', hadvance, hspec⟩ := h.advance_spec hn (hlen'.trans hlen) fun i hi hlt => by
      apply hrest
      rw [mod_of_lt_two_mul (by omega)]
      split <;> omega
    refine ⟨r', ?_, hspec⟩
    rw [← hadvance, hend, if_pos (by omega), Nat.add_sub_cancel_left, hset, Option.bind_some]
  · rw [if_neg hwrap] at hend
    have hle₁ : r.front + (r.cap - r.front) ≤ r.array.length := by omega
    obtain ⟨array₁, hset₁, hlen₁, hrest₁⟩ := Buffer.memset_spec hle₁
    have hle₂ : 0 + (r.front + n - r.cap) ≤ array₁.length := by omega
    obtain ⟨array₂, hset₂, hlen₂, hrest₂⟩ := Buffer.memset_spec hle₂
    obtain ⟨r', hadvance, hspec⟩ :=
      h.advance_spec hn (hlen₂.trans (hlen₁.trans hlen)) fun i hi hlt => by
        have hmod := mod_of_lt_two_mul (a := r.front + i) (c := r.cap) (by omega)
        rw [if_neg (by omega)] at hmod
        rw [hrest₂ _ (by omega), hrest₁ _ (by omega)]
    have hcount : r.cap - r.front + (r.front + n - r.cap) = n := by omega
    refine ⟨r', ?_, hspec⟩
    rw [← hadvance, hend, if_neg (by omega), hset₁, Option.bind_some, hset₂, Option.bind_some,
      hcount]

end Erase

/-! ## Iteration -/

section Iteration

variable {α : Type u} {r : SeqRing α} {i n : ℕ}

/-- The position at the end is reached exactly after the last element. -/
theorem WF.eq_seqEnd_iff (h : r.WF) (hi : i ≤ r.size) :
    (r.front + i) % r.cap = r.seqEnd ↔ i = r.size := by
  rw [h.seqEnd_eq]
  constructor
  · exact mod_inj (Nat.lt_of_le_of_lt hi h.size) h.size
  · rintro rfl
    rfl

theorem Reads.mono (h : r.Reads n) (hi : i ≤ n) : r.Reads i := by
  intro hcap
  have hle := h hcap
  omega

theorem Unwrapped.reads (h : r.Unwrapped) (hn : n ≤ r.size) : r.Reads n := by
  intro hcap
  have hlt := h hcap
  omega

/-- What the iteration reads. -/
theorem WF.getElem?_iter (h : r.WF) (hreads : r.Reads n) (hi : i < n) (hn : n ≤ r.size) :
    r.array[r.iter i]? = r.contents[i]? := by
  have hit : r.iter i = (r.front + i) % r.cap := iter_eq fun hcap => by
    have hle := hreads hcap
    omega
  rw [hit, h.getElem?_contents (by omega)]

/-- The place behind an array with `2 ^ 32` places. -/
theorem WF.getElem?_of_cap (h : r.WF) (hcap : r.cap = 2 ^ 32) : r.array[2 ^ 32]? = none :=
  List.getElem?_eq_none (by rw [h.length, hcap])

theorem WF.iter_eq_seqEnd_iff (h : r.WF) (hunwrapped : r.Unwrapped) (hi : i ≤ r.size) :
    r.iter i = r.seqEnd ↔ i = r.size := by
  have hit : r.iter i = (r.front + i) % r.cap := iter_eq fun hcap => by
    have hlt := hunwrapped hcap
    omega
  rw [hit]
  exact h.eq_seqEnd_iff hi

theorem WF.freeLoop_eq (h : r.WF) (hunwrapped : r.Unwrapped) {fuel : ℕ} (hi : i ≤ r.size)
    (hfuel : r.size - i ≤ fuel) :
    r.freeLoop fuel (r.iter i) = some (r.contents.drop i) := by
  have hend := h.iter_eq_seqEnd_iff hunwrapped hi
  have hlen := h.length_contents
  induction fuel generalizing i with
  | zero =>
    have hlast : i = r.size := by omega
    rw [freeLoop, if_pos (hend.2 hlast), List.drop_of_length_le (by omega)]
  | succ fuel ih =>
    rw [freeLoop]
    by_cases hlast : i = r.size
    · rw [if_pos (hend.2 hlast), List.drop_of_length_le (by omega)]
    · have hlt : i < r.contents.length := by omega
      rw [if_neg (mt hend.1 hlast),
        h.getElem?_iter (hunwrapped.reads (Nat.le_refl _)) (by omega) (Nat.le_refl _), h.next_iter,
        ih (by omega) (by omega) (h.iter_eq_seqEnd_iff hunwrapped (by omega)),
        List.getElem?_eq_getElem hlt, List.drop_eq_getElem_cons hlt]
      rfl

/-- `seq_ring_free` calls its callback on every element once. -/
theorem WF.free_eq (h : r.WF) (hunwrapped : r.Unwrapped) : r.free = some r.contents := by
  rw [free, h.front_eq_iter]
  exact h.freeLoop_eq hunwrapped (Nat.zero_le _) (Nat.le_of_lt h.size)

/-- The iteration leaves an array with `2 ^ 32` places if its elements go past its end. -/
theorem WF.freeLoop_eq_none (h : r.WF) (hcap : r.cap = 2 ^ 32)
    (hwrapped : 2 ^ 32 ≤ r.front + r.size) {fuel : ℕ} (hi : r.front + i ≤ 2 ^ 32) :
    r.freeLoop fuel (r.front + i) = none := by
  have hend : r.seqEnd < r.front := by
    have hsize := h.size
    have hfront := h.front_lt
    rw [h.seqEnd_eq, mod_of_lt_two_mul (by omega), hcap, if_neg (by omega)]
    omega
  induction fuel generalizing i with
  | zero => rw [freeLoop, if_neg (by omega)]
  | succ fuel ih =>
    rw [freeLoop, if_neg (by omega)]
    by_cases hlast : r.front + i = 2 ^ 32
    · rw [hlast, h.getElem?_of_cap hcap]
      rfl
    · rw [next_of_le hcap.ge, Nat.add_assoc, ih (by omega)]
      cases r.array[r.front + i]? <;> rfl

/-- `seq_ring_free` reads past the end of the array exactly if the elements go past it. -/
theorem WF.free_eq_none_iff (h : r.WF) : r.free = none ↔ ¬r.Unwrapped := by
  constructor
  · intro hnone hunwrapped
    rw [h.free_eq hunwrapped] at hnone
    cases hnone
  · intro hwrapped
    rw [Unwrapped, Classical.not_imp, Nat.not_lt] at hwrapped
    exact h.freeLoop_eq_none (i := 0) hwrapped.1 hwrapped.2
      (Nat.le_of_lt (h.front_lt.trans_le h.cap_le))

end Iteration

end SeqRing

end FlexRic
