import FlexRic.Semantics.Buffer
import FlexRic.Semantics.Codec
import FlexRic.Semantics.MachineNumbers
import FlexRic.Semantics.System

/-!
# The dynamic array (`util/alg_ds/ds/seq_container/seq_arr.c`)

A block of bytes with the size of an element, the number of the elements and the capacity. A pointer
into the block is its distance to the start. A failing assertion and an access outside of a block
are `none`; there is always memory for another block.

The block that the array shrinks to has the square of the new capacity as its size in bytes, and the
numbers of bytes that are moved and removed go through an `int`.
-/

namespace FlexRic

/-- `seq_arr_t`. -/
structure SeqArr : Type where
  data : List UInt8
  size : ℕ
  eltSize : ℕ
  cap : ℕ
  deriving DecidableEq, Repr

namespace SeqArr

/-! ## The operations -/

/-- `MIN_SIZE`. -/
def minSize : ℕ := 8

/-- `seq_arr_init`. -/
def init (eltSize : ℕ) : SeqArr where
  data := List.replicate (minSize * eltSize) 0
  size := 0
  eltSize := eltSize
  cap := minSize

/-- `seq_arr_size`. -/
def seqArrSize (arr : SeqArr) : ℕ := arr.size

/-- `seq_arr_front`. -/
def front (_ : SeqArr) : ℕ := 0

/-- `seq_arr_next`. -/
def next (arr : SeqArr) (it : ℕ) : ℕ := it + arr.eltSize

/-- `seq_arr_end`. -/
def endIt (arr : SeqArr) : ℕ := arr.size * arr.eltSize

/-- `seq_arr_at`, with the bytes of the element. -/
def at? (arr : SeqArr) (pos : ℕ) : Option (List UInt8) := do
  assert (pos < arr.size)
  some ((arr.data.drop (pos * arr.eltSize)).take arr.eltSize)

/-- `maybe_expand`. -/
def maybeExpand (arr : SeqArr) (fresh : ℕ → UInt8) : SeqArr :=
  if arr.size + 1 = arr.cap then
    { arr with
      data := Buffer.realloc arr.data fresh (2 * arr.cap * arr.eltSize)
      cap := arr.cap * 2 }
  else arr

/-- The array is to be shrunk. The capacity is a power of two, so that the quotient of the two
`float`s is exact. -/
def Sparse (size cap : ℕ) : Prop := minSize < size ∧ 4 * toFloat size < toFloat cap

instance (size cap : ℕ) : Decidable (Sparse size cap) := inferInstanceAs (Decidable (_ ∧ _))

/-- `maybe_shrink`. -/
def maybeShrink (arr : SeqArr) : Option SeqArr :=
  if Sparse arr.size arr.cap then do
    assert (minSize < arr.cap)
    let tmpCap := arr.cap / 2
    let tmpData ← Buffer.calloc true (tmpCap * tmpCap)
    assert (arr.size ≤ tmpCap)
    let tmpData ← Buffer.memcpy tmpData 0 arr.data 0 (arr.size * arr.eltSize)
    some { arr with data := tmpData, cap := tmpCap }
  else some arr

/-- `seq_arr_push_back`. -/
def pushBack (arr : SeqArr) (fresh : ℕ → UInt8) (data : List UInt8) (len : ℕ) :
    Option SeqArr := do
  assert (len = arr.eltSize)
  let arr := arr.maybeExpand fresh
  let offset := arr.size * arr.eltSize
  let block ← Buffer.memcpy arr.data offset data 0 arr.eltSize
  some { arr with data := block, size := arr.size + 1 }

/-- `seq_arr_erase`. -/
def erase (arr : SeqArr) (startIt endIt : ℕ) : Option SeqArr := do
  assert (startIt ≤ endIt)
  if startIt = endIt then some arr
  else
    let numBytesMove := toInt (arr.endIt - endIt)
    assert (-1 < numBytesMove)
    let data ← Buffer.memmove arr.data startIt endIt (toSizeT numBytesMove)
    let numBytesErase := toInt (endIt - startIt)
    let numElmErase := toInt (toSizeT numBytesErase / arr.eltSize : ℕ)
    assert (0 < numElmErase)
    -- between two iterators of the array there are no more elements than in it
    let arr := { arr with data := data, size := arr.size - numElmErase.toNat }
    let data ← Buffer.memset arr.data arr.endIt (toSizeT numBytesErase)
    maybeShrink { arr with data := data }

/-- An iterator as it is obtained: the front, and so many steps. -/
def iterAt (arr : SeqArr) : ℕ → ℕ
  | 0 => arr.front
  | n + 1 => arr.next (arr.iterAt n)

/-- The elements that `seq_arr_at` gives. -/
def contents (arr : SeqArr) : List (Option (List UInt8)) := (List.range arr.seqArrSize).map arr.at?

/-! ## What the block holds -/

/-- The capacity was doubled and halved only, and there is always a place left. -/
structure WF (arr : SeqArr) : Prop where
  /-- the block has the capacity -/
  length : arr.data.length = arr.cap * arr.eltSize
  /-- which is a power of two -/
  cap : ∃ k, arr.cap = minSize * 2 ^ k
  /-- there is a place left -/
  room : arr.size < arr.cap

/-- The block starts with the elements. -/
structure Holds (arr : SeqArr) (elems : List (List UInt8)) : Prop where
  wf : arr.WF
  size : arr.size = elems.length
  elem : ∀ x ∈ elems, x.length = arr.eltSize
  data : arr.data.take (arr.size * arr.eltSize) = elems.flatten

variable {arr : SeqArr} {elems : List (List UInt8)} {fresh : ℕ → UInt8} {x : List UInt8} {i j : ℕ}

theorem iterAt_eq (arr : SeqArr) (n : ℕ) : arr.iterAt n = n * arr.eltSize := by
  induction n with
  | zero => exact (Nat.zero_mul _).symm
  | succ n ih => rw [iterAt, ih, next, Nat.succ_mul]

theorem holds_init (eltSize : ℕ) : (init eltSize).Holds [] where
  wf := ⟨List.length_replicate, ⟨0, rfl⟩, Nat.zero_lt_succ _⟩
  size := rfl
  elem := nofun
  data := by rw [init, Nat.zero_mul, List.take_zero, List.flatten_nil]

/-- The elements are those that `seq_arr_at` gives. -/
theorem Holds.contents_eq (h : arr.Holds elems) : arr.contents = elems.map some := by
  refine List.ext_getElem ?_ fun n hn hn' => ?_
  · rw [contents, List.length_map, List.length_range, List.length_map, seqArrSize, h.size]
  · rw [List.length_map] at hn'
    have hlt : n < arr.size := h.size.symm ▸ hn'
    have hle : n * arr.eltSize + arr.eltSize ≤ arr.size * arr.eltSize := by
      rw [← Nat.succ_mul]
      exact Nat.mul_le_mul_right _ hlt
    have hslice := Buffer.slice_flatten h.elem hn'
    rw [← h.data, List.drop_take, List.take_take,
      Nat.min_eq_left (Nat.le_sub_of_add_le (by omega))] at hslice
    simp only [contents, List.getElem_map, List.getElem_range, at?, assert_of hlt,
      Option.bind_eq_bind, Option.bind_some, hslice]

theorem WF.cap_pos (h : arr.WF) : 0 < arr.cap := Nat.zero_lt_of_lt h.room

theorem WF.toFloat_cap (h : arr.WF) : toFloat arr.cap = arr.cap := by
  obtain ⟨k, hk⟩ := h.cap
  have hpow : minSize * 2 ^ k = 2 ^ (3 + k) := by
    rw [Nat.pow_add]
    rfl
  rw [hk, hpow, toFloat_two_pow]

/-! ## Insertion -/

/-- `maybe_expand` leaves two places. -/
theorem Holds.maybeExpand (h : arr.Holds elems) (fresh : ℕ → UInt8) :
    (arr.maybeExpand fresh).Holds elems ∧ (arr.maybeExpand fresh).eltSize = arr.eltSize ∧
      (arr.maybeExpand fresh).size + 1 < (arr.maybeExpand fresh).cap := by
  have hroom := h.wf.room
  rw [SeqArr.maybeExpand]
  by_cases hfull : arr.size + 1 = arr.cap
  · rw [if_pos hfull]
    have hold : arr.size * arr.eltSize ≤ arr.data.length := by
      rw [h.wf.length]
      exact Nat.mul_le_mul_right _ (Nat.le_of_lt hroom)
    have hnew : arr.size * arr.eltSize ≤ 2 * arr.cap * arr.eltSize :=
      Nat.mul_le_mul_right _ (by omega)
    obtain ⟨k, hk⟩ := h.wf.cap
    have hcap : arr.cap * 2 = minSize * 2 ^ (k + 1) := by rw [hk, Nat.pow_succ, Nat.mul_assoc]
    have hmin : 0 < minSize * 2 ^ k := Nat.mul_pos (by decide) (Nat.two_pow_pos k)
    refine ⟨⟨⟨?_, ⟨k + 1, hcap⟩, ?_⟩, h.size, h.elem, ?_⟩, rfl, ?_⟩
    · simp only
      rw [Buffer.length_realloc, Nat.mul_comm 2]
    · simp only
      omega
    · simp only
      rw [Buffer.take_realloc hold hnew, h.data]
    · simp only
      have : 2 ≤ arr.cap := by
        rw [hk]
        exact Nat.le_trans (by decide) (Nat.le_mul_of_pos_right minSize (Nat.two_pow_pos k))
      omega
  · rw [if_neg hfull]
    exact ⟨h, rfl, by omega⟩

/-- `seq_arr_push_back` adds the element at the end. -/
theorem Holds.pushBack (h : arr.Holds elems) (hx : x.length = arr.eltSize) (fresh : ℕ → UInt8) :
    ∃ arr', arr.pushBack fresh x x.length = some arr' ∧ arr'.Holds (elems ++ [x]) ∧
      arr'.eltSize = arr.eltSize ∧ arr'.cap = (arr.maybeExpand fresh).cap := by
  rw [SeqArr.pushBack, assert_of hx, Option.bind_eq_bind, Option.bind_some]
  obtain ⟨hexp, helt, hroom⟩ := h.maybeExpand fresh
  revert hexp helt hroom
  generalize arr.maybeExpand fresh = arr₁
  intro hexp helt hroom
  rw [← helt] at hx
  have hplace : arr₁.size * arr₁.eltSize + x.length ≤ arr₁.data.length := by
    rw [hexp.wf.length, hx, ← Nat.succ_mul]
    exact Nat.mul_le_mul_right _ (Nat.le_of_lt hroom)
  have hbefore : (arr₁.data.take (arr₁.size * arr₁.eltSize) ++ x).length =
      (arr₁.size + 1) * arr₁.eltSize := by
    rw [List.length_append, List.length_take, hx, Nat.succ_mul]
    omega
  have hcopy : Buffer.memcpy arr₁.data (arr₁.size * arr₁.eltSize) x 0 arr₁.eltSize =
      some (arr₁.data.take (arr₁.size * arr₁.eltSize) ++ x ++
        arr₁.data.drop (arr₁.size * arr₁.eltSize + x.length)) := by
    rw [Buffer.memcpy, if_pos (by omega), List.drop_zero, List.take_of_length_le (by omega),
      Buffer.splice_of_le hplace]
  simp only [hcopy]
  refine ⟨_, rfl, ⟨⟨?_, hexp.wf.cap, hroom⟩, ?_, ?_, ?_⟩, helt, rfl⟩
  · exact (Buffer.length_splice hplace).trans hexp.wf.length
  · rw [hexp.size, List.length_append]
    rfl
  · intro y hy
    rcases List.mem_append.1 hy with hy | hy
    · exact hexp.elem y hy
    · rw [List.mem_singleton.1 hy, hx]
  · rw [← hbefore, List.take_left, hexp.data, List.flatten_append, List.flatten_singleton]

/-! ## Removal -/

/-- The array is sparse only if there is more than one place for every element in half of the
capacity. -/
theorem WF.lt_of_sparse (h : arr.WF) {size : ℕ} (hsparse : Sparse size arr.cap) :
    minSize < arr.cap ∧ size < arr.cap / 2 := by
  obtain ⟨hmin, hocc⟩ := hsparse
  have hle := le_two_mul_toFloat size
  obtain ⟨k, hk⟩ := h.cap
  rw [h.toFloat_cap] at hocc
  rw [minSize] at hmin hk ⊢
  omega

/-- `maybe_shrink` keeps the elements if the capacity that it shrinks to is the size of one. -/
theorem Holds.maybeShrink (h : arr.Holds elems)
    (hfits : Sparse arr.size arr.cap → arr.cap / 2 = arr.eltSize) :
    ∃ arr', arr.maybeShrink = some arr' ∧ arr'.Holds elems ∧ arr'.eltSize = arr.eltSize := by
  rw [SeqArr.maybeShrink]
  by_cases hsparse : Sparse arr.size arr.cap
  · obtain ⟨hmin, hsize⟩ := h.wf.lt_of_sparse hsparse
    have hhalf := hfits hsparse
    have hsrc : 0 + arr.size * arr.eltSize ≤ arr.data.length := by
      rw [h.wf.length, Nat.zero_add]
      exact Nat.mul_le_mul_right _ (Nat.le_of_lt h.wf.room)
    have hdst : arr.size * arr.eltSize ≤ (arr.cap / 2) * (arr.cap / 2) :=
      hhalf ▸ Nat.mul_le_mul_right _ (Nat.le_of_lt hsize)
    have hcopy := @Buffer.memcpy_zero _ (List.replicate (arr.cap / 2 * (arr.cap / 2)) default)
      arr.data 0 (arr.size * arr.eltSize) hsrc (by rw [List.length_replicate]; exact hdst)
    rw [if_pos hsparse]
    simp only [Option.bind_eq_bind, Option.bind_some, assert_of hmin, Buffer.calloc_true,
      assert_of (Nat.le_of_lt hsize), hcopy]
    have helems : ((arr.data.drop 0).take (arr.size * arr.eltSize)).length =
        arr.size * arr.eltSize := by
      rw [List.length_take, List.length_drop]
      omega
    refine ⟨_, rfl, ⟨⟨?_, ?_, hsize⟩, h.size, h.elem, ?_⟩, rfl⟩
    · simp only
      rw [List.length_append, helems, List.length_drop, List.length_replicate, ← hhalf]
      rw [← hhalf] at hdst
      omega
    · obtain ⟨k, hk⟩ := h.wf.cap
      cases k with
      | zero => exact absurd hk (Nat.ne_of_gt hmin)
      | succ k => exact ⟨k, by
          rw [hk, Nat.pow_succ, ← Nat.mul_assoc, Nat.mul_div_cancel _ Nat.two_pos]⟩
    · simp only
      rw [List.take_left' helems, List.drop_zero, h.data]
  · rw [if_neg hsparse]
    exact ⟨arr, rfl, h, rfl⟩

/-- It copies past the end of the new block if the elements have more bytes than that. -/
theorem Holds.maybeShrink_eq_none (h : arr.Holds elems) (hsparse : Sparse arr.size arr.cap)
    (hbytes : arr.cap / 2 * (arr.cap / 2) < arr.size * arr.eltSize) : arr.maybeShrink = none := by
  obtain ⟨hmin, hsize⟩ := h.wf.lt_of_sparse hsparse
  have hsrc : 0 + arr.size * arr.eltSize ≤ arr.data.length := by
    rw [h.wf.length, Nat.zero_add]
    exact Nat.mul_le_mul_right _ (Nat.le_of_lt h.wf.room)
  have hdst : ¬0 + ((arr.data.drop 0).take (arr.size * arr.eltSize)).length ≤
      (List.replicate (arr.cap / 2 * (arr.cap / 2)) (default : UInt8)).length := by
    rw [List.length_take, List.length_drop, List.length_replicate]
    omega
  rw [SeqArr.maybeShrink, if_pos hsparse]
  simp only [Option.bind_eq_bind, Option.bind_some, assert_of hmin, Buffer.calloc_true,
    assert_of (Nat.le_of_lt hsize), Buffer.memcpy, if_pos hsrc, Buffer.splice, if_neg hdst,
    Option.bind_none]

/-- The removal of the elements from `i` to `j` goes as it should: the bytes that are moved and
removed can be counted by an `int`, and the array does not shrink to a block of another size than
the new capacity asks for. -/
def FitsErase (arr : SeqArr) (i j : ℕ) : Prop :=
  i = j ∨ 0 < arr.eltSize ∧ (arr.size - j) * arr.eltSize < 2 ^ 31 ∧
    (j - i) * arr.eltSize < 2 ^ 31 ∧
    (Sparse (arr.size - (j - i)) arr.cap → arr.cap / 2 = arr.eltSize)

instance (arr : SeqArr) (i j : ℕ) : Decidable (arr.FitsErase i j) :=
  inferInstanceAs (Decidable (_ ∨ _))

/-- The elements behind the range come to its start. -/
theorem Holds.memmove (h : arr.Holds elems) (hij : i ≤ j) (hj : j ≤ elems.length) :
    ∃ data, Buffer.memmove arr.data (i * arr.eltSize) (j * arr.eltSize)
        ((arr.size - j) * arr.eltSize) = some data ∧ data.length = arr.data.length ∧
      data.take ((arr.size - (j - i)) * arr.eltSize) = (elems.take i ++ elems.drop j).flatten := by
  have hsize := h.size
  have hroom : arr.size * arr.eltSize ≤ arr.data.length := by
    rw [h.wf.length]
    exact Nat.mul_le_mul_right _ (Nat.le_of_lt h.wf.room)
  have hij' : i * arr.eltSize ≤ j * arr.eltSize := Nat.mul_le_mul_right _ hij
  have hsplit : j * arr.eltSize + (arr.size - j) * arr.eltSize = arr.size * arr.eltSize := by
    rw [← Nat.add_mul]
    congr 1
    omega
  have hmid : (arr.data.drop (j * arr.eltSize)).take ((arr.size - j) * arr.eltSize) =
      (elems.drop j).flatten := by
    rw [← Buffer.drop_flatten h.elem hj, ← h.data, List.drop_take, ← hsplit,
      Nat.add_sub_cancel_left]
  have hfront : arr.data.take (i * arr.eltSize) = (elems.take i).flatten := by
    rw [← Buffer.take_flatten h.elem (Nat.le_trans hij hj), ← h.data, List.take_take,
      Nat.min_eq_left (by omega)]
  have hmidlen : (elems.drop j).flatten.length = (arr.size - j) * arr.eltSize := by
    rw [Buffer.length_flatten fun x hx => h.elem x (List.mem_of_mem_drop hx), List.length_drop,
      hsize]
  have hfit : i * arr.eltSize + (elems.drop j).flatten.length ≤ arr.data.length := by omega
  refine ⟨_, ?_, Buffer.length_splice hfit, ?_⟩
  · rw [Buffer.memmove, Buffer.memcpy, if_pos (by omega), hmid, Buffer.splice_of_le hfit]
  · have hlen : ((elems.take i).flatten ++ (elems.drop j).flatten).length =
        (arr.size - (j - i)) * arr.eltSize := by
      rw [List.length_append, hmidlen, ← hfront, List.length_take,
        Nat.min_eq_left (by omega), ← Nat.add_mul]
      congr 1
      omega
    rw [hfront, ← hlen, List.take_left, List.flatten_append]

/-- Before `seq_arr_erase` shrinks the array, the elements of the range are taken out. -/
theorem Holds.erase_eq (h : arr.Holds elems) (hij : i < j) (hj : j ≤ elems.length)
    (hpos : 0 < arr.eltSize) (hmove : (arr.size - j) * arr.eltSize < 2 ^ 31)
    (herase : (j - i) * arr.eltSize < 2 ^ 31) :
    ∃ arr' : SeqArr, arr.erase (arr.iterAt i) (arr.iterAt j) = arr'.maybeShrink ∧
      arr'.Holds (elems.take i ++ elems.drop j) ∧ arr'.size = arr.size - (j - i) ∧
      arr'.cap = arr.cap ∧ arr'.eltSize = arr.eltSize := by
  have hle : i * arr.eltSize ≤ j * arr.eltSize := Nat.mul_le_mul_right _ (Nat.le_of_lt hij)
  have hsize : j ≤ arr.size := h.size ▸ hj
  have hne : i * arr.eltSize ≠ j * arr.eltSize := fun heq =>
    Nat.ne_of_lt hij (Nat.eq_of_mul_eq_mul_right hpos heq)
  -- the numbers that go through an `int`
  have hbytesMove : ((arr.endIt : ℤ) - (j * arr.eltSize : ℕ)) =
      ((arr.size - j) * arr.eltSize : ℕ) := by
    rw [endIt, Nat.sub_mul, Int.natCast_sub (Nat.mul_le_mul_right _ hsize)]
  have hbytesErase : (((j * arr.eltSize : ℕ) : ℤ) - (i * arr.eltSize : ℕ)) =
      ((j - i) * arr.eltSize : ℕ) := by
    rw [Nat.sub_mul, Int.natCast_sub hle]
  have helts : (j - i) * arr.eltSize / arr.eltSize = j - i := Nat.mul_div_cancel _ hpos
  have hcount : j - i < 2 ^ 31 := Nat.lt_of_le_of_lt (Nat.le_mul_of_pos_right _ hpos) herase
  obtain ⟨data, hdata, hlen, htake⟩ := h.memmove (Nat.le_of_lt hij) hj
  have hset : (arr.size - (j - i)) * arr.eltSize +
      (List.replicate ((j - i) * arr.eltSize) (default : UInt8)).length ≤ data.length := by
    rw [List.length_replicate, ← Nat.add_mul, hlen, h.wf.length]
    exact Nat.mul_le_mul_right _ (by have := h.wf.room; omega)
  refine ⟨{ arr with
    data := data.take ((arr.size - (j - i)) * arr.eltSize) ++
      List.replicate ((j - i) * arr.eltSize) default ++
      data.drop ((arr.size - (j - i)) * arr.eltSize +
        (List.replicate ((j - i) * arr.eltSize) (default : UInt8)).length)
    size := arr.size - (j - i) }, ?_, ⟨⟨?_, h.wf.cap, ?_⟩, ?_, ?_, ?_⟩, rfl, rfl, rfl⟩
  · rw [SeqArr.erase, iterAt_eq, iterAt_eq, assert_of hle, Option.bind_eq_bind, Option.bind_some,
      if_neg hne, hbytesMove, hbytesErase, toInt_of_lt hmove, toInt_of_lt herase]
    simp only [assert_of (show (-1 : ℤ) < ((arr.size - j) * arr.eltSize : ℕ) by omega),
      toSizeT_of_lt (show (arr.size - j) * arr.eltSize < 2 ^ 64 by omega),
      toSizeT_of_lt (show (j - i) * arr.eltSize < 2 ^ 64 by omega), helts, toInt_of_lt hcount,
      hdata, assert_of (show (0 : ℤ) < (j - i : ℕ) by omega), Int.toNat_natCast, endIt,
      Buffer.memset, Buffer.splice_of_le hset, Option.bind_some, Option.bind_eq_bind]
  · exact (Buffer.length_splice hset).trans (hlen.trans h.wf.length)
  · exact Nat.lt_of_le_of_lt (Nat.sub_le _ _) h.wf.room
  · simp only [List.length_append, List.length_take, List.length_drop]
    have := h.size
    omega
  · intro x hx
    rcases List.mem_append.1 hx with hx | hx
    · exact h.elem x (List.mem_of_mem_take hx)
    · exact h.elem x (List.mem_of_mem_drop hx)
  · exact (Buffer.take_splice hset).trans htake

/-- `seq_arr_erase` takes the elements of the range out. -/
theorem Holds.erase (h : arr.Holds elems) (hij : i ≤ j) (hj : j ≤ elems.length)
    (hfits : arr.FitsErase i j) :
    ∃ arr', arr.erase (arr.iterAt i) (arr.iterAt j) = some arr' ∧
      arr'.Holds (elems.take i ++ elems.drop j) ∧ arr'.eltSize = arr.eltSize := by
  by_cases heq : i = j
  · rw [heq, List.take_append_drop, SeqArr.erase, assert_of le_rfl, Option.bind_eq_bind,
      Option.bind_some, if_pos rfl]
    exact ⟨arr, rfl, h, rfl⟩
  · obtain ⟨hpos, hmove, herase, hshrink⟩ := hfits.resolve_left heq
    obtain ⟨arr₁, heq₁, hholds, hsize, hcap, helt⟩ :=
      h.erase_eq (Nat.lt_of_le_of_ne hij heq) hj hpos hmove herase
    rw [← hsize, ← hcap, ← helt] at hshrink
    obtain ⟨arr', hshrunk, hholds', helt'⟩ := hholds.maybeShrink hshrink
    exact ⟨arr', heq₁.trans hshrunk, hholds', helt'.trans helt⟩

end SeqArr

/-! ## Runs -/

/-- What happens to an array. What `realloc` leaves in new memory is up to it. -/
inductive SeqArrOp : Type where
  | pushBack (x : List UInt8) (fresh : ℕ → UInt8) : SeqArrOp
  /-- from the iterator at the element `i` to the one at the element `j` -/
  | erase (i j : ℕ) : SeqArrOp

/-- An array, with the list to which the same was done. -/
structure SeqArrRun : Type where
  arr : SeqArr
  elems : List (List UInt8)
  deriving DecidableEq, Repr

namespace SeqArrRun

/-- An operation on the array and on the list. -/
def step (s : SeqArrRun) : SeqArrOp → Option SeqArrRun
  | .pushBack x fresh => do
    let arr ← s.arr.pushBack fresh x x.length
    some ⟨arr, s.elems ++ [x]⟩
  | .erase i j => do
    let arr ← s.arr.erase (s.arr.iterAt i) (s.arr.iterAt j)
    some ⟨arr, s.elems.take i ++ s.elems.drop j⟩

/-- Elements have the size that the array was made for, and iterators are handed over that exist,
in their order. -/
def Enabled (s : SeqArrRun) : SeqArrOp → Prop
  | .pushBack x _ => x.length = s.arr.eltSize
  | .erase i j => i ≤ j ∧ j ≤ s.elems.length

/-- An array from `seq_arr_init` on. -/
def system (eltSize : ℕ) : System SeqArrRun SeqArrOp where
  init := ⟨.init eltSize, []⟩
  enabled := Enabled
  step := step

/-- The array does what the list does: the contents are the same, there is a place left, and the
block has the capacity. -/
structure Follows (s : SeqArrRun) : Prop where
  contents : s.arr.contents = s.elems.map some
  room : s.arr.size < s.arr.cap
  block : s.arr.data.length = s.arr.cap * s.arr.eltSize

/-- A removal goes as it should. -/
def Fits (s : SeqArrRun) : SeqArrOp → Prop
  | .erase i j => s.arr.FitsErase i j
  | .pushBack _ _ => True

variable {s s' : SeqArrRun} {op : SeqArrOp} {eltSize : ℕ}

theorem step_of_fits (h : s.arr.Holds s.elems) (he : s.Enabled op) (hfits : s.Fits op) :
    ∃ s', s.step op = some s' ∧ s'.arr.Holds s'.elems := by
  cases op with
  | pushBack x fresh =>
    obtain ⟨arr, harr, hholds, -⟩ := h.pushBack he fresh
    exact ⟨⟨arr, s.elems ++ [x]⟩, by simp [step, harr], hholds⟩
  | erase i j =>
    obtain ⟨arr, harr, hholds, -⟩ := h.erase he.1 he.2 hfits
    exact ⟨⟨arr, _⟩, by simp [step, harr], hholds⟩

theorem holds_of_reachable (h : ((system eltSize).restrict Fits).Reachable s) :
    s.arr.Holds s.elems := by
  apply h.invariant (P := fun s => s.arr.Holds s.elems) (SeqArr.holds_init eltSize)
  rintro s op t hholds ⟨he, hfits⟩ hs
  obtain ⟨t', ht', hholds'⟩ := step_of_fits hholds he hfits
  obtain rfl := Option.some.inj (ht'.symm.trans hs)
  exact hholds'

/-- In every run whose removals go as they should the array does what the list does, and no
assertion fails and no access is outside of a block. -/
theorem follows_of_reachable (h : ((system eltSize).restrict Fits).Reachable s) :
    s.Follows ∧ ((system eltSize).restrict Fits).Safe s := by
  have hholds := holds_of_reachable h
  refine ⟨⟨hholds.contents_eq, hholds.wf.room, hholds.wf.length⟩, ?_⟩
  rintro op ⟨he, hfits⟩ hnone
  obtain ⟨s', hs', -⟩ := step_of_fits hholds he hfits
  exact Option.some_ne_none _ (hs'.symm.trans hnone)

/-- Four elements of two bytes, of which two were taken out. -/
theorem follows_two :
    ∃ s, s.elems = [[1, 2], [7, 8]] ∧ s.Follows ∧ ((system 2).restrict Fits).Safe s := by
  have hsched : ((system 2).restrict Fits).Sched (system 2).init
      [.pushBack [1, 2] fun _ => 0, .pushBack [3, 4] fun _ => 0, .pushBack [5, 6] fun _ => 0,
        .pushBack [7, 8] fun _ => 0, .erase 1 3]
      ⟨⟨[1, 2, 7, 8] ++ List.replicate 12 0, 2, 2, 8⟩, [[1, 2], [7, 8]]⟩ :=
    ⟨⟨rfl, trivial⟩, _, rfl, ⟨rfl, trivial⟩, _, rfl, ⟨rfl, trivial⟩, _, rfl, ⟨rfl, trivial⟩, _, rfl,
      ⟨⟨by decide, by decide⟩, show SeqArr.FitsErase _ _ _ by decide⟩, _, rfl, rfl⟩
  obtain ⟨tr, hrun, -⟩ := hsched.steps
  exact ⟨_, rfl, follows_of_reachable ⟨tr, hrun⟩⟩

/-- The capacity after so many insertions. -/
def capAfter : ℕ → ℕ
  | 0 => SeqArr.minSize
  | n + 1 => if n + 1 = capAfter n then capAfter n * 2 else capAfter n

theorem exists_reachable_size (eltSize n : ℕ) :
    ∃ s, (system eltSize).Reachable s ∧ s.arr.Holds s.elems ∧ s.arr.size = n ∧
      s.arr.eltSize = eltSize ∧ s.arr.cap = capAfter n := by
  induction n with
  | zero => exact ⟨_, .init, SeqArr.holds_init eltSize, rfl, rfl, rfl⟩
  | succ n ih =>
    obtain ⟨s, hs, hholds, hsize, helt, hcap⟩ := ih
    have hx : (List.replicate eltSize (0 : UInt8)).length = s.arr.eltSize := by
      rw [List.length_replicate, helt]
    obtain ⟨arr, harr, hholds', helt', hcap'⟩ := hholds.pushBack hx fun _ => 0
    have henabled : (system eltSize).enabled s
        (.pushBack (List.replicate eltSize 0) fun _ => 0) := hx
    have hstep : (system eltSize).step s (.pushBack (List.replicate eltSize 0) fun _ => 0) =
        some ⟨arr, s.elems ++ [List.replicate eltSize 0]⟩ := by
      simp only [system, step, harr, Option.bind_eq_bind, Option.bind_some]
    refine ⟨_, hs.step henabled hstep, hholds', ?_, helt'.trans helt, ?_⟩
    · rw [hholds'.size, List.length_append, ← hholds.size, hsize]
      rfl
    · simp only
      rw [hcap', SeqArr.maybeExpand, capAfter, hsize, hcap]
      by_cases hfull : n + 1 = capAfter n
      · rw [if_pos hfull, if_pos hfull]
      · rw [if_neg hfull, if_neg hfull]
        exact hcap

/-- After 32 insertions of 128 bytes the removal of 23 of them shrinks the array to a block of
1024 bytes, and copies 1152 bytes to it. -/
theorem not_follows_of_reachable :
    ¬ ∀ s, (system 128).Reachable s → s.Follows ∧ (system 128).Safe s := by
  intro h
  obtain ⟨s, hs, hholds, hsize, helt, hcap⟩ := exists_reachable_size 128 32
  have hcap : s.arr.cap = 64 := hcap.trans (by decide)
  have hlen : s.elems.length = 32 := hholds.size ▸ hsize
  obtain ⟨arr, heq, hholds', hsize', hcap', helt'⟩ :=
    hholds.erase_eq (i := 0) (j := 23) (by omega) (by omega) (by omega)
      (by rw [hsize, helt]; omega) (by rw [helt]; omega)
  have hnone : arr.maybeShrink = none := by
    refine hholds'.maybeShrink_eq_none ?_ ?_
    · rw [hsize', hcap', hsize, hcap]
      decide
    · rw [hsize', hcap', helt', hsize, hcap, helt]
      decide
  refine (h s hs).2 (.erase 0 23) ⟨by omega, by omega⟩ ?_
  simp only [system, step, heq, hnone, Option.bind_eq_bind, Option.bind_none]

end SeqArrRun

end FlexRic
