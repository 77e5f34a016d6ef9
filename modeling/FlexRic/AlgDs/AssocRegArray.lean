import FlexRic.AlgDs.AssocReg
import FlexRic.Semantics.Buffer
import FlexRic.Semantics.Codec
import FlexRic.Semantics.Refinement
import Mathlib.Algebra.Ring.Nat

/-!
# The array of the registry (`util/alg_ds/ds/assoc_container/assoc_reg.c`)

The registry with its whole array: also the buckets behind the occupied ones, and what the array
looks like while it is expanded, compacted and shrunk. A failing assertion and an access outside of
the array are `none`. The loops have a number of rounds, and are `none` when it does not suffice.

What the array holds is a list of entries, to which the operations do what their names say.
-/

namespace FlexRic

/-- A bucket of zeroed memory. -/
instance {V : Type} [Inhabited V] : Inhabited (RegistryBucket V) := ⟨⟨0, false, default⟩⟩

/-- `assoc_reg_t`, with its whole array. -/
structure AssocRegT (V : Type) : Type where
  arr : List (RegistryBucket V)
  sz : ℕ
  cap : ℕ
  occBucket : ℕ
  keyId : ℕ
  deriving Repr

/-! ## Copies of selected elements -/

section Select

variable {α : Type}

/-- `copy_if`: the loop over the elements that are left, with `i_out` places taken. -/
def copyIf (fp : α → Bool) : List α → List α → ℕ → Option (List α × ℕ)
  | [], out, iOut => some (out, iOut)
  | a :: as, out, iOut =>
    if fp a then (Buffer.store out iOut a).bind fun out => copyIf fp as out (iOut + 1)
    else copyIf fp as out iOut

/-- `partition`: the loop with a number of rounds left, at `i`, with `j` places taken. -/
def partition (fp : α → Bool) : ℕ → List α → ℕ → ℕ → Option (List α × ℕ)
  | 0, arr, _, j => some (arr, j)
  | n + 1, arr, i, j =>
    arr[i]?.bind fun a =>
      if fp a then (Buffer.store arr j a).bind fun arr => partition fp n arr (i + 1) (j + 1)
      else partition fp n arr (i + 1) j

variable {fp : α → Bool}

/-- The selected elements come one after the other. -/
theorem copyIf_eq {as out : List α} {iOut : ℕ}
    (hroom : iOut + (as.filter fp).length ≤ out.length) :
    copyIf fp as out iOut =
      some (out.take iOut ++ as.filter fp ++ out.drop (iOut + (as.filter fp).length),
        iOut + (as.filter fp).length) := by
  induction as generalizing out iOut with
  | nil => simp [copyIf]
  | cons a as ih =>
    by_cases ha : fp a = true
    · rw [List.filter_cons_of_pos ha, List.length_cons] at hroom ⊢
      have hlt : iOut < out.length := by omega
      have hroom' : iOut + 1 + (as.filter fp).length ≤ (out.set iOut a).length := by
        rw [List.length_set]
        omega
      rw [copyIf, if_pos ha, Buffer.store_of_lt hlt, Option.bind_some, ih hroom',
        List.drop_set_of_lt (by omega),
        List.take_succ_eq_append_getElem (by rwa [List.length_set]),
        List.take_set_of_le (Nat.le_refl _), List.getElem_set_self, Nat.add_assoc, Nat.add_comm 1]
      simp
    · rw [List.filter_cons_of_neg ha] at hroom ⊢
      rw [copyIf, if_neg ha]
      exact ih hroom

/-- The selected elements come to the front, in the order that they had. -/
theorem partition_eq {n i j : ℕ} {arr : List α} (hji : j ≤ i) (hroom : i + n ≤ arr.length) :
    ∃ arr', partition fp n arr i j = some (arr', j + (((arr.drop i).take n).filter fp).length) ∧
      arr'.length = arr.length ∧
      arr'.take (j + (((arr.drop i).take n).filter fp).length) =
        arr.take j ++ ((arr.drop i).take n).filter fp := by
  induction n generalizing arr i j with
  | zero => exact ⟨arr, by simp [partition]⟩
  | succ n ih =>
    have hlt : i < arr.length := by omega
    have hdrop : (arr.drop i).take (n + 1) = arr[i] :: (arr.drop (i + 1)).take n := by
      rw [List.drop_eq_getElem_cons hlt, List.take_succ_cons]
    rw [partition, List.getElem?_eq_getElem hlt, Option.bind_some, hdrop]
    by_cases ha : fp arr[i] = true
    · have hj : j < arr.length := by omega
      have hrest : (arr.set j arr[i]).drop (i + 1) = arr.drop (i + 1) :=
        List.drop_set_of_lt (by omega)
      obtain ⟨arr', hpart, hlen, htake⟩ := @ih (i + 1) (j + 1) (arr.set j arr[i])
        (by omega) (by rw [List.length_set]; omega)
      have hcount : j + ((((arr.drop (i + 1)).take n).filter fp).length + 1) =
          j + 1 + (((arr.drop (i + 1)).take n).filter fp).length := by omega
      rw [hrest] at hpart htake
      rw [if_pos ha, Buffer.store_of_lt hj, Option.bind_some, List.filter_cons_of_pos ha,
        List.length_cons, hcount]
      refine ⟨arr', hpart, by rw [hlen, List.length_set], ?_⟩
      rw [htake, List.take_succ_eq_append_getElem (by rwa [List.length_set]),
        List.take_set_of_le (Nat.le_refl _), List.getElem_set_self, List.append_assoc]
      rfl
    · rw [if_neg ha, List.filter_cons_of_neg ha]
      exact ih (by omega) (by omega)

end Select

namespace AssocRegT

variable {V : Type}

/-! ## The operations -/

section Operations

variable [Inhabited V] (r : AssocRegT V)

/-- `assoc_reg_init`. -/
def init : AssocRegT V where
  arr := List.replicate AssocReg.minSize default
  sz := 0
  cap := AssocReg.minSize
  occBucket := 0
  keyId := 1

/-- `expand_if_neccesary`. -/
def expandIfNecessary : Option (AssocRegT V) :=
  if r.occBucket < r.cap - 1 then some r
  else do
    let tmpArr ← Buffer.calloc true (r.cap * 2)
    let (arr, outIdx) ← copyIf RegistryBucket.hasValue (r.arr.take r.occBucket) tmpArr 0
    some { r with arr := arr, occBucket := outIdx, cap := r.cap * 2 }

/-- `partition` and `memset`, which `compact_if_necessary` and `shrink_if_necessary` start with. -/
def partitionLive : Option (List (RegistryBucket V) × ℕ) := do
  let (arr, idx) ← partition RegistryBucket.hasValue r.occBucket r.arr 0 0
  assert (idx ≤ r.occBucket)
  let arr ← Buffer.memset arr idx (r.cap - idx)
  some (arr, idx)

/-- `compact_if_necessary`. -/
def compactIfNecessary : Option (AssocRegT V) :=
  if r.sz * 2 > r.occBucket then some r
  else do
    let (arr, idx) ← r.partitionLive
    some { r with arr := arr, occBucket := idx }

/-- `shrink_if_necessary`. -/
def shrinkIfNecessary : Option (AssocRegT V) :=
  if r.cap = AssocReg.minSize ∨ r.sz * 4 > r.cap then some r
  else do
    let (arr, idx) ← r.partitionLive
    let tmp ← Buffer.calloc true (r.cap / 2)
    let tmp ← Buffer.memcpy tmp 0 arr 0 idx
    some { r with arr := tmp, occBucket := idx, cap := r.cap / 2 }

/-- `assoc_reg_push_back`. The key is a number of 32 bits, the counter one of 64 bits. -/
def pushBack (value : V) : Option (UInt32 × AssocRegT V) := do
  let r ← r.expandIfNecessary
  let key := UInt32.ofNat r.keyId
  let arr ← Buffer.store r.arr r.occBucket ⟨key, true, value⟩
  assert (r.keyId ≠ 2 ^ 64 - 1)
  some (key, { r with
    arr := arr
    keyId := r.keyId + 1
    occBucket := r.occBucket + 1
    sz := r.sz + 1 })

/-- The loop of `assoc_reg_front` and `assoc_reg_next`: the next bucket with a value. -/
def scan : ℕ → ℕ → Option ℕ
  | 0, _ => none
  | rounds + 1, idx =>
    if idx = r.occBucket then some idx
    else do
      let b ← r.arr[idx]?
      if b.hasValue then some idx else scan rounds (idx + 1)

/-- `assoc_reg_front`. -/
def front : Option ℕ := r.scan (r.occBucket + 1) 0

/-- `assoc_reg_next`. -/
def next (it : ℕ) : Option ℕ := do
  let b ← r.arr[it]?
  assert b.hasValue
  assert (it < r.occBucket)
  r.scan (r.occBucket + 1) (it + 1)

/-- `assoc_reg_end`. -/
def endIt : ℕ := r.occBucket

/-- Take the value out of a bucket. -/
def clear (it : ℕ) : AssocRegT V :=
  { r with arr := r.arr.modify it fun b => { b with hasValue := false }, sz := r.sz - 1 }

/-- The loop of `assoc_reg_erase`. -/
def eraseLoop : ℕ → AssocRegT V → ℕ → ℕ → Option (AssocRegT V)
  | 0, _, _, _ => none
  | rounds + 1, r, startIt, endIt =>
    if startIt = endIt then some r
    else do
      let it ← r.next startIt
      eraseLoop rounds (r.clear startIt) it endIt

/-- `assoc_reg_erase`. -/
def erase (startIt endIt : ℕ) : Option (AssocRegT V) :=
  if startIt = endIt then some r
  else do
    assert (startIt < r.occBucket)
    let r ← eraseLoop (r.occBucket + 1) r startIt endIt
    let r ← r.compactIfNecessary
    r.shrinkIfNecessary

/-- The loop of `remove_if_range_reg`, with a number of rounds left, at `i`. -/
def removeLoop (f : V → Bool) : ℕ → AssocRegT V → ℕ → Option (List UInt32 × AssocRegT V)
  | 0, r, _ => some ([], r)
  | n + 1, r, i => do
    let b ← r.arr[i]?
    if b.hasValue ∧ f b.val then
      let (keys, r) ← removeLoop f n (r.clear i) (i + 1)
      some (b.key :: keys, r)
    else removeLoop f n r (i + 1)

/-- `remove_if_range_reg`. -/
def removeIfRangeReg (f : V → Bool) : Option (List UInt32 × AssocRegT V) := do
  let (keys, r) ← removeLoop f r.occBucket r 0
  let r ← r.compactIfNecessary
  let r ← r.shrinkIfNecessary
  some (keys, r)

/-- An iterator as it is obtained: the front, and so many steps. -/
def iterAt : ℕ → Option ℕ
  | 0 => r.front
  | n + 1 => do
    let it ← iterAt n
    r.next it

end Operations

/-! ## What the array holds -/

/-- The entries of some buckets. -/
def entriesOf (bs : List (RegistryBucket V)) : List (UInt32 × V) :=
  (bs.filter RegistryBucket.hasValue).map fun b => (b.key, b.val)

/-- The entries of the registry. -/
def entries (r : AssocRegT V) : List (UInt32 × V) := entriesOf (r.arr.take r.occBucket)

/-- What every operation keeps, and every change of the capacity on the way. -/
structure WF (r : AssocRegT V) : Prop where
  /-- the array has the capacity -/
  length : r.arr.length = r.cap
  /-- which was doubled and halved only -/
  cap : ∃ k, r.cap = AssocReg.minSize * 2 ^ k
  /-- there is always a bucket left -/
  room : r.occBucket < r.cap
  /-- the buckets that are left are empty -/
  clear : ∀ b ∈ r.arr.drop r.occBucket, b.hasValue = false
  /-- the size counts the entries -/
  sz : r.sz = r.entries.length

@[simp] theorem entriesOf_nil : entriesOf ([] : List (RegistryBucket V)) = [] := rfl

theorem entriesOf_append (bs bs' : List (RegistryBucket V)) :
    entriesOf (bs ++ bs') = entriesOf bs ++ entriesOf bs' := by
  rw [entriesOf, List.filter_append, List.map_append]
  rfl

theorem entriesOf_cons_of_value {b : RegistryBucket V} (h : b.hasValue = true)
    (bs : List (RegistryBucket V)) :
    entriesOf (b :: bs) = (b.key, b.val) :: entriesOf bs := by
  rw [entriesOf, List.filter_cons_of_pos h]
  rfl

theorem entriesOf_cons_of_clear {b : RegistryBucket V} (h : ¬b.hasValue = true)
    (bs : List (RegistryBucket V)) : entriesOf (b :: bs) = entriesOf bs := by
  rw [entriesOf, List.filter_cons_of_neg h]
  rfl

theorem length_entriesOf_le (bs : List (RegistryBucket V)) :
    (entriesOf bs).length ≤ bs.length := by
  rw [entriesOf, List.length_map]
  exact List.length_filter_le _ _

theorem entriesOf_eq_nil {bs : List (RegistryBucket V)} (h : ∀ b ∈ bs, b.hasValue = false) :
    entriesOf bs = [] := by
  rw [entriesOf, List.filter_eq_nil_iff.2, List.map_nil]
  intro b hb
  rw [h b hb]
  exact Bool.false_ne_true

/-- The buckets without a value do not count. -/
theorem entriesOf_filter (bs : List (RegistryBucket V)) :
    entriesOf (bs.filter RegistryBucket.hasValue) = entriesOf bs := by
  rw [entriesOf, List.filter_filter]
  simp [entriesOf]

theorem WF.length_live {r : AssocRegT V} (h : r.WF) :
    ((r.arr.take r.occBucket).filter RegistryBucket.hasValue).length = r.sz := by
  rw [h.sz, entries, entriesOf, List.length_map]

theorem WF.sz_le {r : AssocRegT V} (h : r.WF) : r.sz ≤ r.occBucket := by
  rw [h.sz]
  exact Nat.le_trans (length_entriesOf_le _) (List.length_take_le _ _)

section

variable [Inhabited V] {r r' : AssocRegT V}

theorem wf_init : (init : AssocRegT V).WF where
  length := List.length_replicate
  cap := ⟨0, rfl⟩
  room := Nat.zero_lt_succ _
  clear b hb := by
    rw [(List.mem_replicate.1 hb).2]
    rfl
  sz := rfl

@[simp] theorem entries_init : (init : AssocRegT V).entries = [] := rfl

/-- The registry with its entries at the front of an array of this capacity. -/
def packed (r : AssocRegT V) (cap : ℕ) : AssocRegT V :=
  let live := (r.arr.take r.occBucket).filter RegistryBucket.hasValue
  { r with
    arr := live ++ List.replicate (cap - live.length) default
    occBucket := live.length
    cap := cap }

@[simp] theorem entries_packed (cap : ℕ) : (r.packed cap).entries = r.entries := by
  rw [entries, packed, List.take_left, entriesOf_filter]
  rfl

theorem WF.packed (h : r.WF) {cap : ℕ} (hcap : ∃ k, cap = AssocReg.minSize * 2 ^ k)
    (hroom : r.sz < cap) : (r.packed cap).WF where
  length := by
    rw [AssocRegT.packed, List.length_append, List.length_replicate, h.length_live]
    exact Nat.add_sub_cancel' (Nat.le_of_lt hroom)
  cap := hcap
  room := by
    rw [AssocRegT.packed, h.length_live]
    exact hroom
  clear b hb := by
    rw [AssocRegT.packed, List.drop_left] at hb
    rw [(List.mem_replicate.1 hb).2]
    rfl
  sz := by
    rw [entries_packed]
    exact h.sz

/-- `expand_if_neccesary` packs the entries into an array of twice the capacity. -/
theorem WF.expandIfNecessary_eq (h : r.WF) : r.expandIfNecessary =
    some (if r.occBucket < r.cap - 1 then r else r.packed (r.cap * 2)) := by
  rw [expandIfNecessary]
  by_cases hroom : r.occBucket < r.cap - 1
  · rw [if_pos hroom, if_pos hroom]
  · have hle := h.sz_le
    have hlt := h.room
    have hcopy := @copyIf_eq _ RegistryBucket.hasValue (r.arr.take r.occBucket)
      (List.replicate (r.cap * 2) default) 0
      (by rw [h.length_live, List.length_replicate]; omega)
    rw [List.take_zero, List.nil_append, Nat.zero_add, List.drop_replicate] at hcopy
    rw [if_neg hroom, if_neg hroom, Buffer.calloc, if_pos rfl, Option.bind_eq_bind,
      Option.bind_some, hcopy]
    rfl

/-- `partition` and `memset` leave the entries at the front of the array. -/
theorem WF.partitionLive_eq (h : r.WF) :
    r.partitionLive = some ((r.packed r.cap).arr, (r.packed r.cap).occBucket) := by
  have hle := h.sz_le
  have hlt := h.room
  have hlive := h.length_live
  obtain ⟨arr, hpart, hlen, htake⟩ := @partition_eq _ RegistryBucket.hasValue
    r.occBucket 0 0 r.arr (Nat.le_refl _)
    (by rw [h.length]; omega)
  rw [List.drop_zero, hlive, Nat.zero_add] at hpart htake
  rw [List.take_zero, List.nil_append] at htake
  have hset : Buffer.memset arr r.sz (r.cap - r.sz) =
      some (arr.take r.sz ++ List.replicate (r.cap - r.sz) default) := by
    rw [Buffer.memset, Buffer.splice_of_le (by
      rw [List.length_replicate, hlen, h.length]
      omega), List.length_replicate, List.drop_eq_nil_of_le (by
      rw [hlen, h.length]
      omega), List.append_nil]
  rw [partitionLive, hpart, AssocRegT.packed, hlive, ← htake]
  simp only [Option.bind_eq_bind, Option.bind_some, assert_of hle, hset]

/-- `compact_if_necessary` packs the entries into the same array. -/
theorem WF.compactIfNecessary_eq (h : r.WF) : r.compactIfNecessary =
    some (if r.sz * 2 > r.occBucket then r else r.packed r.cap) := by
  rw [compactIfNecessary]
  by_cases hdense : r.sz * 2 > r.occBucket
  · rw [if_pos hdense, if_pos hdense]
  · rw [if_neg hdense, if_neg hdense, h.partitionLive_eq]
    rfl

/-- `shrink_if_necessary` packs the entries into an array of half the capacity. -/
theorem WF.shrinkIfNecessary_eq (h : r.WF) : r.shrinkIfNecessary =
    some (if r.cap = AssocReg.minSize ∨ r.sz * 4 > r.cap then r else r.packed (r.cap / 2)) := by
  rw [shrinkIfNecessary]
  by_cases hkeep : r.cap = AssocReg.minSize ∨ r.sz * 4 > r.cap
  · rw [if_pos hkeep, if_pos hkeep]
  · have hlive := h.length_live
    rw [not_or] at hkeep
    have hcopy := @Buffer.memcpy_zero _ (List.replicate (r.cap / 2) default)
      (r.packed r.cap).arr 0 r.sz
      (by rw [AssocRegT.packed, List.length_append, hlive]; omega)
      (by rw [List.length_replicate]; omega)
    have htake : (r.packed r.cap).arr.take r.sz =
        (r.arr.take r.occBucket).filter RegistryBucket.hasValue := by
      rw [AssocRegT.packed, ← hlive, List.take_left]
    rw [List.drop_zero, htake, List.drop_replicate] at hcopy
    have hocc : (r.packed r.cap).occBucket = r.sz := hlive
    rw [if_neg (not_or.2 hkeep), if_neg (not_or.2 hkeep), h.partitionLive_eq, hocc,
      Buffer.calloc, if_pos rfl]
    simp only [Option.bind_eq_bind, Option.bind_some, hcopy]
    rw [AssocRegT.packed, hlive]

/-- What the changes of the capacity keep: everything but the places of the entries. -/
structure Keeps (r r' : AssocRegT V) : Prop where
  wf : r'.WF
  entries : r'.entries = r.entries
  keyId : r'.keyId = r.keyId

theorem WF.keeps_packed (h : r.WF) {cap : ℕ} (hcap : ∃ k, cap = AssocReg.minSize * 2 ^ k)
    (hroom : r.sz < cap) : r.Keeps (r.packed cap) :=
  ⟨h.packed hcap hroom, entries_packed cap, rfl⟩

/-- After an expansion there are two buckets left. -/
theorem WF.expandIfNecessary (h : r.WF) :
    ∃ r', r.expandIfNecessary = some r' ∧ r.Keeps r' ∧ r'.occBucket + 1 < r'.cap := by
  refine ⟨_, h.expandIfNecessary_eq, ?_⟩
  have hle := h.sz_le
  have hlt := h.room
  by_cases hroom : r.occBucket < r.cap - 1
  · rw [if_pos hroom]
    exact ⟨⟨h, rfl, rfl⟩, by omega⟩
  · rw [if_neg hroom]
    obtain ⟨k, hk⟩ := h.cap
    have hcap : ∃ k, r.cap * 2 = AssocReg.minSize * 2 ^ k :=
      ⟨k + 1, by rw [hk, Nat.pow_succ, Nat.mul_assoc]⟩
    refine ⟨h.keeps_packed hcap (by omega), ?_⟩
    rw [AssocRegT.packed, h.length_live]
    have hmin : 0 < AssocReg.minSize * 2 ^ k := Nat.mul_pos (by decide) (Nat.two_pow_pos k)
    simp only
    omega

theorem WF.compactIfNecessary (h : r.WF) :
    ∃ r', r.compactIfNecessary = some r' ∧ r.Keeps r' := by
  refine ⟨_, h.compactIfNecessary_eq, ?_⟩
  by_cases hdense : r.sz * 2 > r.occBucket
  · rw [if_pos hdense]
    exact ⟨h, rfl, rfl⟩
  · rw [if_neg hdense]
    exact h.keeps_packed h.cap (Nat.lt_of_le_of_lt h.sz_le h.room)

theorem WF.shrinkIfNecessary (h : r.WF) :
    ∃ r', r.shrinkIfNecessary = some r' ∧ r.Keeps r' := by
  refine ⟨_, h.shrinkIfNecessary_eq, ?_⟩
  by_cases hkeep : r.cap = AssocReg.minSize ∨ r.sz * 4 > r.cap
  · rw [if_pos hkeep]
    exact ⟨h, rfl, rfl⟩
  · rw [if_neg hkeep]
    rw [not_or] at hkeep
    obtain ⟨k, hk⟩ := h.cap
    cases k with
    | zero => exact absurd hk hkeep.1
    | succ k =>
      rw [Nat.pow_succ, ← Nat.mul_assoc] at hk
      have hmin : 0 < AssocReg.minSize * 2 ^ k := Nat.mul_pos (by decide) (Nat.two_pow_pos k)
      exact h.keeps_packed ⟨k, by omega⟩ (by omega)

/-- The two of them, one after the other. -/
theorem WF.compact_shrink (h : r.WF) :
    ∃ r', (r.compactIfNecessary.bind fun r => r.shrinkIfNecessary) = some r' ∧ r.Keeps r' := by
  obtain ⟨r₁, h₁, hk₁⟩ := h.compactIfNecessary
  obtain ⟨r₂, h₂, hk₂⟩ := hk₁.wf.shrinkIfNecessary
  refine ⟨r₂, by rw [h₁, Option.bind_some, h₂], hk₂.wf, ?_, ?_⟩
  · rw [hk₂.entries, hk₁.entries]
  · rw [hk₂.keyId, hk₁.keyId]

/-! ## Insertion -/

/-- `assoc_reg_push_back` adds the entry at the end. -/
theorem WF.pushBack (h : r.WF) (hkey : r.keyId ≠ 2 ^ 64 - 1) (value : V) :
    ∃ r', r.pushBack value = some (UInt32.ofNat r.keyId, r') ∧ r'.WF ∧
      r'.entries = r.entries ++ [(UInt32.ofNat r.keyId, value)] ∧ r'.keyId = r.keyId + 1 := by
  obtain ⟨r₁, h₁, hk, hroom⟩ := h.expandIfNecessary
  have hocc : r₁.occBucket < r₁.arr.length := by
    rw [hk.wf.length]
    omega
  have hentries : entriesOf ((r₁.arr.set r₁.occBucket ⟨UInt32.ofNat r₁.keyId, true, value⟩).take
      (r₁.occBucket + 1)) = r₁.entries ++ [(UInt32.ofNat r₁.keyId, value)] := by
    rw [List.take_succ_eq_append_getElem (by rwa [List.length_set]),
      List.take_set_of_le (Nat.le_refl _), List.getElem_set_self, entriesOf_append]
    rfl
  refine ⟨{ r₁ with
    arr := r₁.arr.set r₁.occBucket ⟨UInt32.ofNat r₁.keyId, true, value⟩
    keyId := r₁.keyId + 1
    occBucket := r₁.occBucket + 1
    sz := r₁.sz + 1 }, ?_, ⟨?_, hk.wf.cap, hroom, ?_, ?_⟩, ?_, ?_⟩
  · rw [AssocRegT.pushBack, h₁]
    simp only [Option.bind_eq_bind, Option.bind_some, Buffer.store_of_lt hocc, hk.keyId,
      assert_of hkey]
  · rw [List.length_set]
    exact hk.wf.length
  · intro b hb
    rw [List.drop_set_of_lt (Nat.lt_succ_self _)] at hb
    exact hk.wf.clear b ((List.drop_subset_drop_left _ (Nat.le_succ _)) hb)
  · rw [entries, hentries, hk.wf.sz, List.length_append]
    rfl
  · rw [entries, hentries, hk.entries, hk.keyId]
  · rw [hk.keyId]

end

/-! ## Iterators -/

variable {r r' : AssocRegT V} {i j k it it' : ℕ}

/-- The iterator at the entry with the number `k`; at the end if there are only so many. -/
structure IterAt (r : AssocRegT V) (k it : ℕ) : Prop where
  le : it ≤ r.occBucket
  count : (entriesOf (r.arr.take it)).length = k
  hasValue : it < r.occBucket → ∃ b, r.arr[it]? = some b ∧ b.hasValue = true

/-- The loop ends at the next bucket with a value. -/
theorem WF.scan_eq (h : r.WF) {rounds idx : ℕ} (hidx : idx ≤ r.occBucket)
    (hrounds : r.occBucket - idx < rounds) :
    ∃ it, r.scan rounds idx = some it ∧ r.IterAt (entriesOf (r.arr.take idx)).length it := by
  induction rounds generalizing idx with
  | zero => exact absurd hrounds (Nat.not_lt_zero _)
  | succ rounds ih =>
    rw [scan]
    by_cases hend : idx = r.occBucket
    · rw [if_pos hend]
      exact ⟨idx, rfl, hidx, rfl, fun hlt => absurd hend (Nat.ne_of_lt hlt)⟩
    · have hlt : idx < r.occBucket := Nat.lt_of_le_of_ne hidx hend
      have hlen : idx < r.arr.length := by
        rw [h.length]
        exact Nat.lt_trans hlt h.room
      rw [if_neg hend, List.getElem?_eq_getElem hlen, Option.bind_eq_bind, Option.bind_some]
      by_cases hvalue : r.arr[idx].hasValue = true
      · rw [if_pos hvalue]
        exact ⟨idx, rfl, hidx, rfl, fun _ => ⟨_, List.getElem?_eq_getElem hlen, hvalue⟩⟩
      · rw [if_neg hvalue]
        obtain ⟨it, hit, hat⟩ := ih hlt (by omega)
        have hcount : entriesOf (r.arr.take (idx + 1)) = entriesOf (r.arr.take idx) := by
          rw [List.take_succ_eq_append_getElem hlen, entriesOf_append,
            @entriesOf_eq_nil _ [r.arr[idx]] (by simpa using hvalue), List.append_nil]
        rw [hcount] at hat
        exact ⟨it, hit, hat⟩

theorem WF.front (h : r.WF) : ∃ it, r.front = some it ∧ r.IterAt 0 it :=
  h.scan_eq (Nat.zero_le _) (Nat.lt_succ_self _)

/-- An iterator before the end is at a bucket with a value. -/
theorem IterAt.bucket (hit : r.IterAt k it) (hlt : it < r.occBucket) :
    ∃ b, r.arr[it]? = some b ∧ b.hasValue = true ∧ it < r.arr.length ∧
      ∀ n, it < n → entriesOf (r.arr.take n) = entriesOf (r.arr.take it) ++
        (b.key, b.val) :: entriesOf ((r.arr.take n).drop (it + 1)) := by
  obtain ⟨b, hb, hvalue⟩ := hit.hasValue hlt
  obtain ⟨hlen, rfl⟩ := List.getElem?_eq_some_iff.1 hb
  refine ⟨_, hb, hvalue, hlen, fun n hn => ?_⟩
  have hsplit : r.arr.take n = r.arr.take it ++ r.arr[it] :: (r.arr.take n).drop (it + 1) := by
    have hlt : it < (r.arr.take n).length := by
      rw [List.length_take]
      omega
    conv_lhs => rw [← List.take_append_drop it (r.arr.take n), List.drop_eq_getElem_cons hlt,
      List.getElem_take, List.take_take, Nat.min_eq_left (Nat.le_of_lt hn)]
  conv_lhs => rw [hsplit, entriesOf_append]
  rw [entriesOf, entriesOf, List.filter_cons_of_pos hvalue]
  rfl

/-- `assoc_reg_next`. -/
theorem WF.next (h : r.WF) (hit : r.IterAt k it) (hlt : it < r.occBucket) :
    ∃ it', r.next it = some it' ∧ r.IterAt (k + 1) it' := by
  obtain ⟨b, hb, hvalue, hlen, hsplit⟩ := hit.bucket hlt
  obtain ⟨it', hscan, hat⟩ := @WF.scan_eq _ r h (r.occBucket + 1) (it + 1) hlt (by omega)
  have hcount : (entriesOf (r.arr.take (it + 1))).length = k + 1 := by
    rw [hsplit _ (Nat.lt_succ_self _), List.drop_eq_nil_of_le (List.length_take_le _ _),
      List.length_append, hit.count]
    rfl
  rw [hcount] at hat
  refine ⟨it', ?_, hat⟩
  rw [AssocRegT.next, hb]
  simp only [Option.bind_eq_bind, Option.bind_some, assert_of hvalue, assert_of hlt, hscan]

/-- Two iterators at the same entry are the same. -/
theorem IterAt.not_lt (hit : r.IterAt k it) (hit' : r.IterAt k it') : ¬it < it' := by
  intro hlt
  obtain ⟨b, -, -, -, hsplit⟩ := hit.bucket (Nat.lt_of_lt_of_le hlt hit'.le)
  have hcount := congrArg List.length (hsplit it' hlt)
  rw [hit'.count, List.length_append, hit.count, List.length_cons] at hcount
  omega

theorem IterAt.unique (hit : r.IterAt k it) (hit' : r.IterAt k it') : it = it' :=
  Nat.le_antisymm (Nat.le_of_not_lt (hit'.not_lt hit)) (Nat.le_of_not_lt (hit.not_lt hit'))

theorem IterAt.lt (hit : r.IterAt k it) (hk : k < r.entries.length) : it < r.occBucket := by
  apply Nat.lt_of_le_of_ne hit.le
  rintro rfl
  exact absurd hit.count (Nat.ne_of_gt hk)

/-- The steps from the front lead to every entry, and to the end. -/
theorem WF.iterAt (h : r.WF) (hk : k ≤ r.entries.length) :
    ∃ it, r.iterAt k = some it ∧ r.IterAt k it := by
  induction k with
  | zero => exact h.front
  | succ k ih =>
    obtain ⟨it, hit, hat⟩ := ih (Nat.le_of_succ_le hk)
    obtain ⟨it', hnext, hat'⟩ := h.next hat (hat.lt hk)
    refine ⟨it', ?_, hat'⟩
    rw [AssocRegT.iterAt, hit, Option.bind_eq_bind, Option.bind_some, hnext]

/-! ## Removal -/

/-- A bucket loses its value: the buckets up to any later place have one entry less. -/
theorem IterAt.entriesOf_clear (hit : r.IterAt i it) (hlt : it < r.occBucket) {n : ℕ}
    (hn : it < n) :
    entriesOf ((r.clear it).arr.take n) =
      (entriesOf (r.arr.take n)).take i ++ (entriesOf (r.arr.take n)).drop (i + 1) := by
  obtain ⟨b, hb, hvalue, hlen, hsplit⟩ := hit.bucket hlt
  have hlen' : it < (r.arr.take n).length := by
    rw [List.length_take]
    omega
  have hcleared : entriesOf ((r.clear it).arr.take n) =
      entriesOf (r.arr.take it) ++ entriesOf ((r.arr.take n).drop (it + 1)) := by
    rw [clear, List.take_modify, List.modify_eq_take_cons_drop hlen', List.take_take,
      Nat.min_eq_left (Nat.le_of_lt hn), entriesOf_append]
    rfl
  have hcount := hit.count
  rw [hcleared, hsplit n hn, ← hcount, List.take_left, List.drop_append]
  simp

theorem IterAt.entries_clear (hit : r.IterAt i it) (hlt : it < r.occBucket) :
    (r.clear it).entries = r.entries.take i ++ r.entries.drop (i + 1) :=
  hit.entriesOf_clear hlt hlt

theorem WF.clear_wf (h : r.WF) (hit : r.IterAt i it) (hlt : it < r.occBucket) :
    (r.clear it).WF where
  length := by
    rw [AssocRegT.clear, List.length_modify]
    exact h.length
  cap := h.cap
  room := h.room
  clear b hb := by
    rw [AssocRegT.clear, List.drop_modify_of_lt _ _ _ _ hlt] at hb
    exact h.clear b hb
  sz := by
    obtain ⟨b, -, -, -, hsplit⟩ := hit.bucket hlt
    have hcount := congrArg List.length (hsplit r.occBucket hlt)
    rw [List.length_append, hit.count, List.length_cons] at hcount
    have hsz : r.sz = (entriesOf (r.arr.take r.occBucket)).length := h.sz
    rw [hit.entries_clear hlt, List.length_append, List.length_take, List.length_drop, entries]
    simp only [AssocRegT.clear]
    omega

theorem length_entriesOf_take {bs : List (RegistryBucket V)} (hij : i ≤ j) :
    (entriesOf (bs.take i)).length ≤ (entriesOf (bs.take j)).length := by
  rw [entriesOf, entriesOf, List.length_map, List.length_map]
  exact ((List.take_sublist_take_left hij).filter _).length_le

/-- The later iterators count one entry less. -/
theorem IterAt.clear (hit : r.IterAt i it) (hlt : it < r.occBucket) (hit' : r.IterAt (j + 1) it')
    (hij : i ≤ j) : (r.clear it).IterAt j it' := by
  have hlt' : it < it' := by
    by_contra hge
    have hmono := @length_entriesOf_take _ _ _ r.arr (Nat.le_of_not_lt hge)
    rw [hit.count, hit'.count] at hmono
    omega
  refine ⟨hit'.le, ?_, fun hend => ?_⟩
  · have hcount := hit'.count
    rw [hit.entriesOf_clear hlt hlt', List.length_append, List.length_take, List.length_drop]
    omega
  · obtain ⟨b, hb, hvalue⟩ := hit'.hasValue hend
    refine ⟨b, ?_, hvalue⟩
    rw [AssocRegT.clear, List.getElem?_modify_ne _ _ (Nat.ne_of_lt hlt'), hb]

/-- The loop of `assoc_reg_erase` takes out the entries from the one iterator to the other. -/
theorem WF.eraseLoop (h : r.WF) (rounds : ℕ) (hit : r.IterAt i it) (hit' : r.IterAt j it')
    (hij : i ≤ j) (hj : j ≤ r.entries.length) (hrounds : j - i < rounds) :
    ∃ r', AssocRegT.eraseLoop rounds r it it' = some r' ∧ r'.WF ∧ r'.keyId = r.keyId ∧
      r'.entries = r.entries.take i ++ r.entries.drop j := by
  induction rounds generalizing r it j with
  | zero => exact absurd hrounds (Nat.not_lt_zero _)
  | succ rounds ih =>
    rw [AssocRegT.eraseLoop]
    by_cases heq : i = j
    · subst heq
      rw [if_pos (hit.unique hit')]
      exact ⟨r, rfl, h, rfl, (List.take_append_drop i _).symm⟩
    · have hne : it ≠ it' := by
        rintro rfl
        exact heq (hit.count.symm.trans hit'.count)
      have hlt : it < r.occBucket := hit.lt (by omega)
      obtain ⟨next, hnext, hat⟩ := h.next hit hlt
      obtain ⟨j, rfl⟩ := Nat.exists_eq_succ_of_ne_zero (n := j) (by omega)
      have hentries := hit.entries_clear hlt
      obtain ⟨r', hr', hwf, hkey, hrest⟩ := ih (h.clear_wf hit hlt)
        (hit.clear hlt hat (Nat.le_refl _)) (hit.clear hlt hit' (by omega)) (by omega)
        (by
          rw [hentries, List.length_append, List.length_take, List.length_drop]
          omega) (by omega)
      refine ⟨r', ?_, hwf, hkey, ?_⟩
      · rw [if_neg hne, hnext, Option.bind_eq_bind, Option.bind_some, hr']
      · have hlen : (r.entries.take i).length = i := List.length_take_of_le (by omega)
        have hsplit : i + 1 + (j - i) = j + 1 := by omega
        rw [hrest, hentries, List.take_left' hlen, List.drop_append, hlen,
          List.drop_eq_nil_of_le (by omega), List.nil_append, List.drop_drop, hsplit]

/-- `assoc_reg_erase` takes out the entries from the one iterator to the other. -/
theorem WF.erase [Inhabited V] (h : r.WF) (hit : r.IterAt i it) (hit' : r.IterAt j it')
    (hij : i ≤ j) (hj : j ≤ r.entries.length) :
    ∃ r', r.erase it it' = some r' ∧ r'.WF ∧ r'.keyId = r.keyId ∧
      r'.entries = r.entries.take i ++ r.entries.drop j := by
  rw [AssocRegT.erase]
  by_cases heq : it = it'
  · subst heq
    obtain rfl : i = j := hit.count.symm.trans hit'.count
    rw [if_pos rfl]
    exact ⟨r, rfl, h, rfl, (List.take_append_drop i _).symm⟩
  · have hne : i ≠ j := by
      rintro rfl
      exact heq (hit.unique hit')
    have hlt : it < r.occBucket := hit.lt (by omega)
    have hsz : r.entries.length ≤ r.occBucket := h.sz ▸ h.sz_le
    obtain ⟨r₁, h₁, hwf, hkey, hentries⟩ :=
      h.eraseLoop (r.occBucket + 1) hit hit' hij hj (by omega)
    obtain ⟨r₂, h₂, hk⟩ := hwf.compact_shrink
    refine ⟨r₂, ?_, hk.wf, hk.keyId.trans hkey, hk.entries.trans hentries⟩
    rw [if_neg heq]
    simp only [Option.bind_eq_bind, Option.bind_some, assert_of hlt, h₁, h₂]

/-- The buckets behind the one that has lost its value are as before. -/
theorem drop_clear (r : AssocRegT V) (it n : ℕ) :
    ((r.clear it).arr.take n).drop (it + 1) = (r.arr.take n).drop (it + 1) := by
  rw [clear, List.take_modify, List.drop_modify_of_lt _ _ _ _ (Nat.lt_succ_self it)]

/-- The loop of `remove_if_range_reg` takes out the entries that satisfy the predicate, and gives
their keys. -/
theorem WF.removeLoop (h : r.WF) (f : V → Bool) {n : ℕ} (hn : i + n = r.occBucket) :
    ∃ r', AssocRegT.removeLoop f n r i = some
        (((entriesOf ((r.arr.take r.occBucket).drop i)).filter fun e => f e.2).map Prod.fst, r') ∧
      r'.WF ∧ r'.keyId = r.keyId ∧ r'.entries = entriesOf (r.arr.take i) ++
        (entriesOf ((r.arr.take r.occBucket).drop i)).filter fun e => !f e.2 := by
  induction n generalizing r i with
  | zero =>
    have hnil : (r.arr.take r.occBucket).drop i = [] :=
      List.drop_eq_nil_of_le (Nat.le_trans (List.length_take_le _ _) (by omega))
    obtain rfl : i = r.occBucket := hn
    refine ⟨r, ?_, h, rfl, ?_⟩
    · rw [hnil]
      rfl
    · rw [hnil, entriesOf_nil, List.filter_nil, List.append_nil]
      rfl
  | succ n ih =>
    have hlt : i < r.occBucket := by omega
    have hocc : i + 1 + n = r.occBucket := by omega
    have hlen : i < r.arr.length := by
      rw [h.length]
      exact Nat.lt_trans hlt h.room
    have hdrop : (r.arr.take r.occBucket).drop i =
        r.arr[i] :: (r.arr.take r.occBucket).drop (i + 1) := by
      rw [List.drop_eq_getElem_cons (by rw [List.length_take]; omega), List.getElem_take]
    have htake : entriesOf (r.arr.take (i + 1)) =
        entriesOf (r.arr.take i) ++ entriesOf [r.arr[i]] := by
      rw [List.take_succ_eq_append_getElem hlen, entriesOf_append]
    rw [AssocRegT.removeLoop, List.getElem?_eq_getElem hlen, hdrop]
    simp only [Option.bind_eq_bind, Option.bind_some]
    by_cases hvalue : r.arr[i].hasValue = true
    · rw [entriesOf_cons_of_value hvalue] at htake ⊢
      by_cases hf : f r.arr[i].val = true
      · -- the entry is taken out
        have hat : r.IterAt (entriesOf (r.arr.take i)).length i :=
          ⟨Nat.le_of_lt hlt, rfl, fun _ => ⟨_, List.getElem?_eq_getElem hlen, hvalue⟩⟩
        have hbefore : entriesOf ((r.clear i).arr.take (i + 1)) = entriesOf (r.arr.take i) := by
          rw [hat.entriesOf_clear hlt (Nat.lt_succ_self i), htake, List.take_left,
            List.drop_eq_nil_of_le (by simp), List.append_nil]
        obtain ⟨r', hr', hwf, hkey, hentries⟩ := ih (h.clear_wf hat hlt) hocc
        rw [drop_clear] at hr' hentries
        refine ⟨r', ?_, hwf, hkey, ?_⟩
        · rw [if_pos ⟨hvalue, hf⟩, List.filter_cons_of_pos (by simp [hf])]
          simp only [AssocRegT.clear] at hr'
          simp only [AssocRegT.clear, hr', Option.bind_some, List.map_cons]
        · rw [hentries, hbefore, List.filter_cons_of_neg (by simp [hf])]
          rfl
      · obtain ⟨r', hr', hwf, hkey, hentries⟩ := ih h hocc
        refine ⟨r', ?_, hwf, hkey, ?_⟩
        · rw [if_neg fun h => hf h.2, hr', List.filter_cons_of_neg (by simp [hf])]
        · rw [hentries, htake, List.filter_cons_of_pos (by simp [hf]), List.append_assoc]
          rfl
    · rw [entriesOf_cons_of_clear hvalue] at htake ⊢
      obtain ⟨r', hr', hwf, hkey, hentries⟩ := ih h hocc
      refine ⟨r', ?_, hwf, hkey, ?_⟩
      · rw [if_neg fun h => hvalue h.1, hr']
      · rw [hentries, htake, entriesOf_nil, List.append_nil]

/-- `remove_if_range_reg` takes out the entries that satisfy the predicate, and gives their keys. -/
theorem WF.removeIfRangeReg [Inhabited V] (h : r.WF) (f : V → Bool) :
    ∃ r', r.removeIfRangeReg f =
        some ((r.entries.filter fun e => f e.2).map Prod.fst, r') ∧
      r'.WF ∧ r'.keyId = r.keyId ∧ r'.entries = r.entries.filter fun e => !f e.2 := by
  obtain ⟨r₁, h₁, hwf, hkey, hentries⟩ := h.removeLoop f (Nat.zero_add r.occBucket)
  rw [List.drop_zero] at h₁ hentries
  rw [List.take_zero, entriesOf_nil, List.nil_append] at hentries
  obtain ⟨r₂, h₂, hk⟩ := hwf.compact_shrink
  refine ⟨r₂, ?_, hk.wf, hk.keyId.trans hkey, hk.entries.trans hentries⟩
  rw [AssocRegT.removeIfRangeReg, h₁]
  obtain ⟨r₃, h₃, h₂⟩ := Option.bind_eq_some_iff.1 h₂
  simp only [Option.bind_eq_bind, Option.bind_some, h₃, h₂]
  rfl

end AssocRegT

/-! ## Runs -/

/-- What happens to a registry. -/
inductive AssocRegOp (V : Type) : Type where
  | pushBack (value : V) : AssocRegOp V
  /-- from the iterator at the entry `i` to the one at the entry `j` -/
  | erase (i j : ℕ) : AssocRegOp V
  | removeIf (f : V → Bool) : AssocRegOp V

/-- The registry as it is meant to be: the entries in the order in which they came. -/
structure RegEntries (V : Type) : Type where
  entries : List (UInt32 × V)
  keyId : ℕ

namespace RegEntries

variable {V : Type}

/-- An operation on the entries; the answers are keys. -/
def step (s : RegEntries V) : AssocRegOp V → Option (List UInt32 × RegEntries V)
  | .pushBack value =>
    if s.keyId ≠ 2 ^ 64 - 1 then
      some ([UInt32.ofNat s.keyId],
        ⟨s.entries ++ [(UInt32.ofNat s.keyId, value)], s.keyId + 1⟩)
    else none
  | .erase i j =>
    if i ≤ j ∧ j ≤ s.entries.length then
      some ([], ⟨s.entries.take i ++ s.entries.drop j, s.keyId⟩)
    else none
  | .removeIf f =>
    some ((s.entries.filter fun e => f e.2).map Prod.fst,
      ⟨s.entries.filter fun e => !f e.2, s.keyId⟩)

/-- The entries as a machine. -/
def machine (V : Type) : Machine (RegEntries V) (AssocRegOp V) (List UInt32) :=
  ⟨⟨[], 1⟩, step⟩

end RegEntries

namespace AssocRegT

variable {V : Type} [Inhabited V]

/-- An operation as the code computes it. -/
def step (r : AssocRegT V) : AssocRegOp V → Option (List UInt32 × AssocRegT V)
  | .pushBack value => (r.pushBack value).map fun (key, r) => ([key], r)
  | .erase i j => do
    let startIt ← r.iterAt i
    let endIt ← r.iterAt j
    let r ← r.erase startIt endIt
    some ([], r)
  | .removeIf f => r.removeIfRangeReg f

/-- The registry as a machine, from `assoc_reg_init` on. -/
def machine (V : Type) [Inhabited V] : Machine (AssocRegT V) (AssocRegOp V) (List UInt32) :=
  ⟨init, step⟩

/-- The array holds the entries. -/
structure Holds (r : AssocRegT V) (s : RegEntries V) : Prop where
  wf : r.WF
  entries : r.entries = s.entries
  keyId : r.keyId = s.keyId

omit [Inhabited V] in
theorem Holds.sz {r : AssocRegT V} {s : RegEntries V} (h : r.Holds s) :
    r.sz = s.entries.length := by
  rw [h.wf.sz, h.entries]

/-- One operation on the array and on the entries. -/
theorem simulates : (machine V).Simulates (RegEntries.machine V) Holds fun _ _ => True where
  init := ⟨wf_init, rfl, rfl⟩
  step := by
    intro r s op ans s' h hstep
    refine iff_of_true ?_ trivial
    have hwf := h.wf
    obtain ⟨entries, keyId⟩ := s
    obtain rfl : r.entries = entries := h.entries
    obtain rfl : r.keyId = keyId := h.keyId
    cases op with
    | pushBack value =>
      obtain ⟨hkey, heq⟩ := Option.ite_none_right_eq_some.1 hstep
      cases heq
      obtain ⟨r', hr', hwf', hentries, hid⟩ := hwf.pushBack hkey value
      exact ⟨r', congrArg (Option.map _) hr', hwf', hentries, hid⟩
    | erase i j =>
      obtain ⟨⟨hij, hj⟩, heq⟩ := Option.ite_none_right_eq_some.1 hstep
      cases heq
      obtain ⟨it, hit, hat⟩ := hwf.iterAt (k := i) (Nat.le_trans hij hj)
      obtain ⟨it', hit', hat'⟩ := hwf.iterAt (k := j) hj
      obtain ⟨r', hr', hwf', hid, hentries⟩ := hwf.erase hat hat' hij hj
      refine ⟨r', ?_, hwf', hentries, hid⟩
      simp only [machine, step, hit, hit', hr', Option.bind_eq_bind, Option.bind_some]
    | removeIf f =>
      cases hstep
      obtain ⟨r', hr', hwf', hid, hentries⟩ := hwf.removeIfRangeReg f
      exact ⟨r', hr', hwf', hentries, hid⟩

/-- In every sequence of insertions and removals the array holds the entries that were put in and
not taken out, in their order, with the size that counts them and with room behind them. -/
theorem follows_regEntries (V : Type) [Inhabited V] (ops : List (AssocRegOp V)) :
    (machine V).Follows (RegEntries.machine V) Holds (machine V).init (RegEntries.machine V).init
      ops :=
  (simulates.follows_iff simulates.init ops).2 (Machine.along_true _ ops)

end AssocRegT

end FlexRic
