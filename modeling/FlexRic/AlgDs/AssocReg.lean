import Mathlib.Algebra.Group.Nat.Defs
import Mathlib.Data.List.Basic
import Mathlib.Data.Nat.Init
import Mathlib.Order.Basic

/-!
# The registry (`util/alg_ds/ds/assoc_container/assoc_reg.c`)

An array of buckets in the order of their keys, which a counter gives out. An erased bucket stays
in the array without a value until the array is compacted, shrunk or expanded. An iterator is an
index into the array; the number of occupied buckets is the length of the list here.
-/

namespace FlexRic

universe u

/-- `registry_bucket_t`. -/
structure RegistryBucket (V : Type u) : Type u where
  key : UInt32
  hasValue : Bool
  val : V
  deriving Repr

/-- `assoc_reg_t`. -/
structure AssocReg (V : Type u) : Type u where
  /-- the occupied buckets -/
  arr : List (RegistryBucket V)
  sz : ℕ
  cap : ℕ
  /-- the next key -/
  keyId : ℕ
  deriving Repr

namespace AssocReg

variable {V : Type u}

/-- `MIN_SIZE`. -/
def minSize : ℕ := 16

/-- `assoc_reg_init`. -/
def init : AssocReg V := ⟨[], 0, minSize, 1⟩

/-- The buckets that are kept when the array is gone through. -/
def liveBuckets (r : AssocReg V) : List (RegistryBucket V) := r.arr.filter RegistryBucket.hasValue

/-- `expand_if_neccesary`. -/
def expandIfNecessary (r : AssocReg V) : AssocReg V :=
  if r.arr.length < r.cap - 1 then r else { r with arr := r.liveBuckets, cap := r.cap * 2 }

/-- `compact_if_necessary`. -/
def compactIfNecessary (r : AssocReg V) : AssocReg V :=
  if r.arr.length < r.sz * 2 then r else { r with arr := r.liveBuckets }

/-- `shrink_if_necessary`. -/
def shrinkIfNecessary (r : AssocReg V) : AssocReg V :=
  if r.cap = minSize ∨ r.cap < r.sz * 4 then r
  else { r with arr := r.liveBuckets, cap := r.cap / 2 }

/-- `assoc_reg_push_back`: it answers with the key of the value. -/
def pushBack (r : AssocReg V) (value : V) : Option (UInt32 × AssocReg V) :=
  let r := r.expandIfNecessary
  let key := UInt32.ofNat r.keyId
  if r.keyId ≠ 2 ^ 64 - 1 then
    some (key, { r with
      arr := r.arr ++ [⟨key, true, value⟩]
      sz := r.sz + 1
      keyId := r.keyId + 1 })
  else none

/-- `assoc_reg_erase` from the iterator `it` to the next one. -/
def erase (r : AssocReg V) (it : ℕ) : AssocReg V :=
  ({ r with
    arr := r.arr.modify it fun b => { b with hasValue := false }
    sz := r.sz - 1 }).compactIfNecessary.shrinkIfNecessary

/-- The value at an iterator (`assoc_reg_value`). -/
def value (r : AssocReg V) (it : ℕ) : Option V :=
  (r.arr[it]?).bind fun b => if b.hasValue then some b.val else none

/-- A write through the pointer that `assoc_reg_value` answers with. -/
def setValue (r : AssocReg V) (it : ℕ) (val : V) : AssocReg V :=
  { r with arr := r.arr.modify it fun b => { b with val := val } }

/-- `assoc_reg_front`. -/
def front (r : AssocReg V) : ℕ := r.arr.findIdx RegistryBucket.hasValue

/-- The loop of `lower_bound_reg` on the buckets of its range: `len` of them from `lower` on are
left. The first argument is fuel; as many as there are buckets are enough. -/
def lowerBoundLoop (bs : List (RegistryBucket V)) (key : UInt32) : ℕ → ℕ → ℕ → ℕ
  | 0, lower, _ => lower
  | fuel + 1, lower, len =>
    if len = 0 then lower
    else
      let half := len / 2
      match bs[lower + half]? with
      | some b =>
        if b.key < key then lowerBoundLoop bs key fuel (lower + half + 1) (len - half - 1)
        else lowerBoundLoop bs key fuel lower half
      | none => lower

/-- `lower_bound_reg` from the iterator `start` to the end. -/
def lowerBoundReg (r : AssocReg V) (start : ℕ) (key : UInt32) : Option ℕ :=
  let bs := r.arr.drop start
  if bs.length < r.cap then some (start + lowerBoundLoop bs key bs.length 0 bs.length) else none

/-- `find_reg` from the front to the end: the iterator, or `none` for the end. -/
def findReg (r : AssocReg V) (key : UInt32) : Option (Option ℕ) :=
  if 0 < key then
    if r.front = r.arr.length then some none
    else (r.lowerBoundReg r.front key).map fun it =>
      match r.arr[it]? with
      | some b => if b.hasValue = false ∨ b.key ≠ key then none else some it
      | none => none
  else none

/-- The values with their keys. -/
def toList (r : AssocReg V) : List (UInt32 × V) := r.liveBuckets.map fun b => (b.key, b.val)

/-- What the operations keep as long as the keys fit into 32 bits. -/
structure WF (r : AssocReg V) : Prop where
  /-- the keys increase -/
  sorted : r.arr.Pairwise fun b b' => b.key < b'.key
  /-- they come from the counter -/
  key : ∀ b ∈ r.arr, 0 < b.key ∧ b.key.toNat < r.keyId
  /-- the counter has started from one -/
  keyId : 0 < r.keyId ∧ r.keyId ≤ 2 ^ 32
  /-- the capacity was doubled and halved only -/
  cap : ∃ k, r.cap = minSize * 2 ^ k
  /-- the array is not full -/
  room : r.arr.length < r.cap
  /-- the size counts the values -/
  sz : r.sz = r.liveBuckets.length

theorem wf_init : (init : AssocReg V).WF :=
  ⟨.nil, nofun, ⟨Nat.one_pos, Nat.one_le_two_pow⟩, ⟨0, rfl⟩, Nat.zero_lt_succ _, rfl⟩

@[simp] theorem toList_init : (init : AssocReg V).toList = [] := rfl

variable {r r' : AssocReg V} {key : UInt32} {v : V} {it : ℕ}

/-! ## The searches -/

/-- In a sorted range an earlier bucket has a smaller key. -/
theorem key_lt_of_lt {bs : List (RegistryBucket V)}
    (hsorted : bs.Pairwise fun b b' => b.key < b'.key) {i j : ℕ} {b b' : RegistryBucket V}
    (hi : bs[i]? = some b) (hj : bs[j]? = some b') (hij : i < j) : b.key < b'.key := by
  obtain ⟨hi', rfl⟩ := List.getElem?_eq_some_iff.1 hi
  obtain ⟨hj', rfl⟩ := List.getElem?_eq_some_iff.1 hj
  exact List.pairwise_iff_getElem.1 hsorted i j hi' hj' hij

/-- The loop ends at the first bucket whose key is not below the one asked for. -/
theorem lowerBoundLoop_spec {bs : List (RegistryBucket V)}
    (hsorted : bs.Pairwise fun b b' => b.key < b'.key) {fuel lower len : ℕ} (hfuel : len ≤ fuel)
    (hlen : lower + len ≤ bs.length)
    (hlow : ∀ (j : ℕ) (b : RegistryBucket V), bs[j]? = some b → j < lower → b.key < key)
    (hhigh : ∀ (j : ℕ) (b : RegistryBucket V), bs[j]? = some b → lower + len ≤ j → ¬b.key < key) :
    ∀ (j : ℕ) (b : RegistryBucket V), bs[j]? = some b →
      (j < lowerBoundLoop bs key fuel lower len ↔ b.key < key) := by
  -- with nothing left, every bucket is on its side of `lower`
  have hdone : ∀ lower, (∀ (j : ℕ) (b : RegistryBucket V), bs[j]? = some b → j < lower →
      b.key < key) → (∀ (j : ℕ) (b : RegistryBucket V), bs[j]? = some b → lower ≤ j →
      ¬b.key < key) → ∀ (j : ℕ) (b : RegistryBucket V), bs[j]? = some b →
      (j < lower ↔ b.key < key) := by
    intro lower hlow hhigh j b hb
    refine ⟨hlow j b hb, fun hlt => ?_⟩
    by_contra hge
    exact hhigh j b hb (Nat.le_of_not_lt hge) hlt
  induction fuel generalizing lower len with
  | zero => exact hdone lower hlow fun j b hb hj => hhigh j b hb (by omega)
  | succ fuel ih =>
    rw [lowerBoundLoop]
    by_cases hzero : len = 0
    · rw [if_pos hzero]
      exact hdone lower hlow fun j b hb hj => hhigh j b hb (by omega)
    · rw [if_neg hzero]
      obtain ⟨mid, hmid⟩ : ∃ mid, bs[lower + len / 2]? = some mid :=
        ⟨_, List.getElem?_eq_getElem (by omega)⟩
      simp only [hmid]
      by_cases hlt : mid.key < key
      · rw [if_pos hlt]
        have hlow' : ∀ (j : ℕ) (b : RegistryBucket V), bs[j]? = some b →
            j < lower + len / 2 + 1 → b.key < key := by
          intro j b hb hj
          rcases Nat.lt_succ_iff_lt_or_eq.1 hj with hj | rfl
          · exact UInt32.lt_trans (key_lt_of_lt hsorted hb hmid hj) hlt
          · rw [hmid] at hb
            cases hb
            exact hlt
        have hhigh' : ∀ (j : ℕ) (b : RegistryBucket V), bs[j]? = some b →
            lower + len / 2 + 1 + (len - len / 2 - 1) ≤ j → ¬b.key < key :=
          fun j b hb hj => hhigh j b hb (by omega)
        exact ih (by omega) (by omega) hlow' hhigh'
      · rw [if_neg hlt]
        have hhigh' : ∀ (j : ℕ) (b : RegistryBucket V), bs[j]? = some b →
            lower + len / 2 ≤ j → ¬b.key < key := by
          intro j b hb hj hb'
          rcases Nat.eq_or_lt_of_le hj with rfl | hj
          · rw [hmid] at hb
            cases hb
            exact hlt hb'
          · exact hlt (UInt32.lt_trans (key_lt_of_lt hsorted hmid hb hj) hb')
        exact ih (by omega) (by omega) hlow hhigh'

/-- The loop on the whole range. -/
theorem lowerBound_spec {bs : List (RegistryBucket V)}
    (hsorted : bs.Pairwise fun b b' => b.key < b'.key) (key : UInt32) (j : ℕ)
    (b : RegistryBucket V) (hb : bs[j]? = some b) :
    j < lowerBoundLoop bs key bs.length 0 bs.length ↔ b.key < key := by
  refine lowerBoundLoop_spec hsorted (Nat.le_refl _) (Nat.le_of_eq (Nat.zero_add _)) ?_ ?_ j b hb
  · intro j b _ hj
    exact absurd hj (Nat.not_lt_zero j)
  · intro j b hb hj
    have := (List.getElem?_eq_some_iff.1 hb).1
    omega

/-- In a well-formed registry no two values have the same key. -/
theorem WF.keys_nodup (h : r.WF) : (r.toList.map Prod.fst).Nodup := by
  have hlive : r.liveBuckets.Pairwise fun b b' => b.key < b'.key :=
    h.sorted.sublist List.filter_sublist
  rw [toList, List.map_map, List.Nodup, List.pairwise_map]
  refine hlive.imp fun {b b'} hlt heq => ?_
  have hkey : b.key = b'.key := heq
  rw [hkey] at hlt
  exact UInt32.lt_irrefl _ hlt

/-- A value with its key, as a bucket. -/
theorem mem_toList :
    (key, v) ∈ r.toList ↔ ∃ it : ℕ, r.arr[it]? = some (⟨key, true, v⟩ : RegistryBucket V) := by
  rw [toList, List.mem_map]
  constructor
  · rintro ⟨⟨k, hasValue, x⟩, hb, heq⟩
    obtain ⟨hmem, hval⟩ := List.mem_filter.1 hb
    cases heq
    cases hval
    exact List.mem_iff_getElem?.1 hmem
  · rintro ⟨it, hit⟩
    exact ⟨_, List.mem_filter.2 ⟨List.mem_iff_getElem?.2 ⟨it, hit⟩, rfl⟩, rfl⟩

theorem value_eq_some (hit : r.arr[it]? = some ⟨key, true, v⟩) : r.value it = some v := by
  rw [value, hit]
  rfl

/-- What `find_reg` finds is the value with the key. -/
theorem findReg_eq_some (h : r.findReg key = some (some it)) :
    ∃ v, r.arr[it]? = some ⟨key, true, v⟩ := by
  obtain ⟨-, h⟩ := Option.ite_none_right_eq_some.1 h
  by_cases hempty : r.front = r.arr.length
  · rw [if_pos hempty] at h
    cases h
  · rw [if_neg hempty] at h
    obtain ⟨i, -, hi⟩ := Option.map_eq_some_iff.1 h
    cases hb : r.arr[i]? with
    | none =>
      rw [hb] at hi
      cases hi
    | some b =>
      rw [hb] at hi
      obtain ⟨hcond, heq⟩ := Option.ite_none_left_eq_some.1 hi
      cases heq
      obtain ⟨k, hasValue, v⟩ := b
      simp only [not_or, Bool.not_eq_false, ne_eq, Decidable.not_not] at hcond
      obtain ⟨rfl, rfl⟩ := hcond
      exact ⟨v, hb⟩

/-- `find_reg` finds every value by its key. -/
theorem WF.findReg_of_mem (h : r.WF) (hit : r.arr[it]? = some ⟨key, true, v⟩) :
    r.findReg key = some (some it) := by
  obtain ⟨hlt, hbucket⟩ := List.getElem?_eq_some_iff.1 hit
  have hpos : 0 < key := (h.key _ (List.mem_iff_getElem?.2 ⟨it, hit⟩)).1
  have hfront : r.front ≤ it := by
    by_contra hgt
    have hvalue := List.not_of_lt_findIdx (Nat.lt_of_not_le hgt)
    rw [hbucket] at hvalue
    cases hvalue
  have hroom : (r.arr.drop r.front).length < r.cap := by
    have := h.room
    rw [List.length_drop]
    omega
  have hdrop : (r.arr.drop r.front)[it - r.front]? = some ⟨key, true, v⟩ := by
    rw [List.getElem?_drop, Nat.add_sub_cancel' hfront, hit]
  have hsorted : (r.arr.drop r.front).Pairwise fun b b' => b.key < b'.key :=
    h.sorted.sublist (List.drop_sublist _ _)
  have hspec := lowerBound_spec hsorted key
  -- the first bucket that is not below the key is the one with the key
  have hindex : lowerBoundLoop (r.arr.drop r.front) key (r.arr.drop r.front).length 0
      (r.arr.drop r.front).length = it - r.front := by
    apply Nat.le_antisymm
    · by_contra hgt
      exact UInt32.lt_irrefl _ ((hspec _ _ hdrop).1 (Nat.lt_of_not_le hgt))
    · by_contra hgt
      have hlt' := Nat.lt_of_not_le hgt
      have hb := List.getElem?_eq_getElem
        (Nat.lt_trans hlt' (List.getElem?_eq_some_iff.1 hdrop).1)
      exact Nat.lt_irrefl _ ((hspec _ _ hb).2 (key_lt_of_lt hsorted hb hdrop hlt'))
  rw [findReg, if_pos hpos, if_neg (by omega), lowerBoundReg]
  simp only [if_pos hroom, hindex, Nat.add_sub_cancel' hfront, Option.map_some, hit]
  simp

/-- `find_reg` ends for every key that is not zero. -/
theorem WF.findReg_ne_none (h : r.WF) (hkey : 0 < key) : r.findReg key ≠ none := by
  rw [findReg, if_pos hkey]
  by_cases hempty : r.front = r.arr.length
  · rw [if_pos hempty]
    exact Option.some_ne_none _
  · have hroom : (r.arr.drop r.front).length < r.cap := by
      have := h.room
      rw [List.length_drop]
      omega
    rw [if_neg hempty, lowerBoundReg, if_pos hroom, Option.map_some]
    exact Option.some_ne_none _

/-! ## The modifications -/

theorem filter_liveBuckets : r.liveBuckets.filter RegistryBucket.hasValue = r.liveBuckets := by
  rw [liveBuckets, List.filter_filter]
  simp

/-- Dropping the erased buckets changes no value. -/
theorem toList_live (r : AssocReg V) (cap : ℕ) :
    { r with arr := r.liveBuckets, cap := cap }.toList = r.toList := by
  rw [toList, liveBuckets]
  simp only [filter_liveBuckets]
  rfl

@[simp] theorem toList_expandIfNecessary : r.expandIfNecessary.toList = r.toList := by
  rw [expandIfNecessary]
  by_cases hroom : r.arr.length < r.cap - 1
  · rw [if_pos hroom]
  · rw [if_neg hroom]
    exact toList_live r _

@[simp] theorem toList_compactIfNecessary : r.compactIfNecessary.toList = r.toList := by
  rw [compactIfNecessary]
  by_cases hdense : r.arr.length < r.sz * 2
  · rw [if_pos hdense]
  · rw [if_neg hdense]
    exact toList_live r _

@[simp] theorem toList_shrinkIfNecessary : r.shrinkIfNecessary.toList = r.toList := by
  rw [shrinkIfNecessary]
  by_cases hsmall : r.cap = minSize ∨ r.cap < r.sz * 4
  · rw [if_pos hsmall]
  · rw [if_neg hsmall]
    exact toList_live r _

@[simp] theorem keyId_expandIfNecessary : r.expandIfNecessary.keyId = r.keyId := by
  rw [expandIfNecessary]
  split <;> rfl

@[simp] theorem keyId_erase : (r.erase it).keyId = r.keyId := by
  rw [erase, shrinkIfNecessary, compactIfNecessary]
  split <;> split <;> rfl

/-- The array without its erased buckets is well formed, with any capacity that leaves room. -/
theorem WF.live (h : r.WF) {cap : ℕ} (hcap : ∃ k, cap = minSize * 2 ^ k)
    (hroom : r.liveBuckets.length < cap) : { r with arr := r.liveBuckets, cap := cap }.WF where
  sorted := h.sorted.sublist List.filter_sublist
  key b hb := h.key b (List.filter_sublist.subset hb)
  keyId := h.keyId
  cap := hcap
  room := hroom
  sz := by
    rw [h.sz]
    exact congrArg List.length filter_liveBuckets.symm

theorem WF.length_live (h : r.WF) : r.liveBuckets.length < r.cap :=
  Nat.lt_of_le_of_lt (List.length_filter_le _ _) h.room

theorem WF.expandIfNecessary (h : r.WF) : r.expandIfNecessary.WF ∧
    r.expandIfNecessary.arr.length + 1 < r.expandIfNecessary.cap := by
  have hlive := h.length_live
  rw [AssocReg.expandIfNecessary]
  by_cases hroom : r.arr.length < r.cap - 1
  · rw [if_pos hroom]
    exact ⟨h, by omega⟩
  · rw [if_neg hroom]
    obtain ⟨k, hk⟩ := h.cap
    exact ⟨h.live ⟨k + 1, by rw [hk, Nat.pow_succ, Nat.mul_assoc]⟩ (by omega), by simp only; omega⟩

theorem WF.compactIfNecessary (h : r.WF) : r.compactIfNecessary.WF := by
  rw [AssocReg.compactIfNecessary]
  by_cases hdense : r.arr.length < r.sz * 2
  · rw [if_pos hdense]
    exact h
  · rw [if_neg hdense]
    exact h.live h.cap h.length_live

theorem WF.shrinkIfNecessary (h : r.WF) : r.shrinkIfNecessary.WF := by
  rw [AssocReg.shrinkIfNecessary]
  by_cases hsmall : r.cap = minSize ∨ r.cap < r.sz * 4
  · rw [if_pos hsmall]
    exact h
  · rw [if_neg hsmall]
    obtain ⟨k, hk⟩ := h.cap
    have hsz := h.sz
    cases k with
    | zero => exact absurd (.inl hk) hsmall
    | succ k =>
      have hpos := Nat.two_pow_pos k
      rw [Nat.pow_succ, minSize] at hk
      rw [not_or, minSize] at hsmall
      exact h.live ⟨k, by rw [minSize]; omega⟩ (by omega)

/-- `assoc_reg_push_back` adds the value at the end, under the key of the counter. -/
theorem toList_pushBack (h : r.pushBack v = some (key, r')) :
    key = UInt32.ofNat r.keyId ∧ r'.toList = r.toList ++ [(key, v)] ∧ r'.keyId = r.keyId + 1 := by
  obtain ⟨-, heq⟩ := Option.ite_none_right_eq_some.1 h
  cases heq
  refine ⟨by rw [keyId_expandIfNecessary], ?_, by rw [keyId_expandIfNecessary]⟩
  rw [toList, liveBuckets, List.filter_append, List.map_append]
  exact congrArg (· ++ _) toList_expandIfNecessary

/-- `assoc_reg_push_back` goes through as long as the counter has not run over. -/
theorem exists_pushBack (h : r.keyId < 2 ^ 64 - 1) (v : V) :
    ∃ r', r.pushBack v = some (UInt32.ofNat r.keyId, r') := by
  have hne : r.keyId ≠ 2 ^ 64 - 1 := Nat.ne_of_lt h
  rw [AssocReg.pushBack]
  simp only [keyId_expandIfNecessary, if_pos hne]
  exact ⟨_, rfl⟩

theorem WF.pushBack (h : r.WF) (hkey : r.keyId < 2 ^ 32) (hpush : r.pushBack v = some (key, r')) :
    r'.WF := by
  obtain ⟨he, hroom⟩ := h.expandIfNecessary
  have hnat : (UInt32.ofNat r.keyId).toNat = r.keyId := UInt32.toNat_ofNat_of_lt hkey
  have hid : r.expandIfNecessary.keyId = r.keyId := keyId_expandIfNecessary
  obtain ⟨-, heq⟩ := Option.ite_none_right_eq_some.1 hpush
  cases heq
  refine ⟨?_, ?_, ?_, he.cap, by simpa using hroom, ?_⟩
  · refine List.pairwise_append.2 ⟨he.sorted, List.pairwise_singleton _ _, ?_⟩
    intro b hb b' hb'
    cases List.mem_singleton.1 hb'
    rw [UInt32.lt_iff_toNat_lt, hid, hnat]
    exact hid ▸ (he.key b hb).2
  · intro b hb
    rcases List.mem_append.1 hb with hb | hb
    · exact ⟨(he.key b hb).1, Nat.lt_succ_of_lt (he.key b hb).2⟩
    · cases List.mem_singleton.1 hb
      rw [UInt32.lt_iff_toNat_lt, hid, hnat]
      exact ⟨h.keyId.1, Nat.lt_succ_self _⟩
  · rw [hid]
    exact ⟨Nat.succ_pos _, hkey⟩
  · rw [he.sz, liveBuckets, liveBuckets, List.filter_append, List.length_append]
    rfl

/-- A change of the bucket at an iterator, as a change of the list of the values. -/
theorem liveBuckets_modify (hit : r.arr[it]? = some ⟨key, true, v⟩)
    (f : RegistryBucket V → RegistryBucket V) : ∃ before after,
      r.liveBuckets = before ++ ⟨key, true, v⟩ :: after ∧
      (r.arr.modify it f).filter RegistryBucket.hasValue =
        before ++ ([f ⟨key, true, v⟩].filter RegistryBucket.hasValue ++ after) := by
  obtain ⟨hlt, hbucket⟩ := List.getElem?_eq_some_iff.1 hit
  refine ⟨(r.arr.take it).filter RegistryBucket.hasValue,
    (r.arr.drop (it + 1)).filter RegistryBucket.hasValue, ?_, ?_⟩
  · have hsplit : r.arr = r.arr.take it ++ ⟨key, true, v⟩ :: r.arr.drop (it + 1) := by
      rw [← hbucket, List.getElem_cons_drop, List.take_append_drop]
    have hlive := congrArg (List.filter RegistryBucket.hasValue) hsplit
    rw [List.filter_append] at hlive
    exact hlive
  · rw [List.modify_eq_take_cons_drop hlt, hbucket, ← List.singleton_append, List.filter_append,
      List.filter_append]

/-- A bucket that keeps its key keeps the order of the keys. -/
theorem map_key_modify {f : RegistryBucket V → RegistryBucket V} (hf : ∀ b, (f b).key = b.key) :
    (r.arr.modify it f).map RegistryBucket.key = r.arr.map RegistryBucket.key := by
  apply List.ext_getElem?
  intro j
  rw [List.getElem?_map, List.getElem?_map, List.getElem?_modify]
  cases r.arr[j]? with
  | none => rfl
  | some b =>
    by_cases hj : it = j
    · simp [hj, hf]
    · simp [hj]

/-- So does the registry that it belongs to, with a size that counts the values. -/
theorem WF.modify (h : r.WF) (f : RegistryBucket V → RegistryBucket V)
    (hf : ∀ b, (f b).key = b.key) {sz : ℕ}
    (hsz : sz = ((r.arr.modify it f).filter RegistryBucket.hasValue).length) :
    { r with arr := r.arr.modify it f, sz := sz }.WF where
  sorted := by
    have hsorted := List.pairwise_map.2 h.sorted
    rw [← map_key_modify hf] at hsorted
    exact List.pairwise_map.1 hsorted
  key b hb := by
    have hmem : b.key ∈ (r.arr.modify it f).map RegistryBucket.key := List.mem_map_of_mem hb
    rw [map_key_modify hf] at hmem
    obtain ⟨b', hb', heq⟩ := List.mem_map.1 hmem
    exact heq ▸ h.key b' hb'
  keyId := h.keyId
  cap := h.cap
  room := by
    rw [List.length_modify]
    exact h.room
  sz := hsz

/-- `assoc_reg_erase` takes the value at the iterator out. -/
theorem WF.erase (h : r.WF) (hit : r.arr[it]? = some ⟨key, true, v⟩) :
    (r.erase it).WF ∧ r.toList.Perm ((key, v) :: (r.erase it).toList) := by
  obtain ⟨before, after, hlive, hmodify⟩ :=
    liveBuckets_modify hit fun b => { b with hasValue := false }
  have hsz : r.sz - 1 = ((r.arr.modify it fun b => { b with hasValue := false }).filter
      RegistryBucket.hasValue).length := by
    rw [hmodify, h.sz, hlive]
    simp
  refine ⟨(h.modify _ ?_ hsz).compactIfNecessary.shrinkIfNecessary, ?_⟩
  · intro b
    rfl
  · rw [AssocReg.erase, toList_shrinkIfNecessary, toList_compactIfNecessary, toList, hlive, toList,
      liveBuckets, hmodify]
    simp

/-- A write through the pointer to a value keeps its key. -/
theorem WF.setValue (h : r.WF) (hit : r.arr[it]? = some ⟨key, true, v⟩) (v' : V) :
    (r.setValue it v').WF ∧ ∃ before after, r.toList = before ++ (key, v) :: after ∧
      (r.setValue it v').toList = before ++ (key, v') :: after := by
  obtain ⟨before, after, hlive, hmodify⟩ :=
    liveBuckets_modify hit fun b => { b with val := v' }
  have hsz : r.sz = ((r.arr.modify it fun b => { b with val := v' }).filter
      RegistryBucket.hasValue).length := by
    rw [hmodify, h.sz, hlive]
    simp
  refine ⟨h.modify _ ?_ hsz, before.map fun b => (b.key, b.val),
    after.map fun b => (b.key, b.val), ?_, ?_⟩
  · intro b
    rfl
  · rw [toList, hlive, List.map_append]
    rfl
  · rw [AssocReg.setValue, toList, liveBuckets, hmodify, List.map_append]
    rfl

end AssocReg

end FlexRic
