import FlexRic.AlgDs.AssocRegArray
import FlexRic.Semantics.System
import Mathlib.Algebra.Ring.Nat

/-!
# Keys and searches of the registry (`assoc_reg.c`, `alg_ds/alg/lower_bound.c`, `alg/find.c`)

The counter of the keys has 64 bits and a key has 32, and the binary search counts the buckets of
its range with an `int`. As long as the counter has not left the 32 bits the keys increase along the
array, also those of the erased buckets, and a search of less than `2 ^ 31` buckets finds what a
linear search does. After `2 ^ 32 - 1` insertions the key is zero.
-/

namespace FlexRic

namespace AssocRegT

variable {V : Type}

/-! ## The searches -/

/-- `int len = sz`; to the loop a number below zero is as good as zero. -/
def intLen (sz : ℕ) : ℕ := if sz % 2 ^ 32 < 2 ^ 31 then sz % 2 ^ 32 else 0

/-- `lower_bound_reg`. -/
def lowerBoundReg (r : AssocRegT V) (startIt endIt : ℕ) (key : UInt32) : Option ℕ :=
  if startIt = endIt then some endIt
  else do
    let sz := endIt - startIt
    assert (sz < r.cap)
    let len := intLen sz
    some (startIt +
      AssocReg.lowerBoundLoop ((r.arr.take endIt).drop startIt) key len 0 len)

/-- `find_reg`. -/
def findReg (r : AssocRegT V) (startIt endIt : ℕ) (key : UInt32) : Option ℕ := do
  assert (0 < key)
  if startIt = endIt then some endIt
  else
    let it ← r.lowerBoundReg startIt endIt key
    assert (it ≤ endIt)
    if it = endIt then some endIt
    else
      let b ← r.arr[it]?
      if b.hasValue = false ∨ b.key ≠ key then some endIt else some it

/-- The search of the whole registry, as in `find_act_proc`. -/
def find (r : AssocRegT V) (key : UInt32) : Option ℕ := do
  let it ← r.front
  r.findReg it r.endIt key

/-- The linear search of a range. -/
def linearSearch (r : AssocRegT V) (startIt endIt : ℕ) (key : UInt32) : ℕ :=
  startIt + ((r.arr.take endIt).drop startIt).findIdx fun b => b.hasValue && b.key == key

/-- The first entry of a range whose key is not below the key. -/
def firstNotLess (r : AssocRegT V) (startIt endIt : ℕ) (key : UInt32) : ℕ :=
  startIt + ((r.arr.take endIt).drop startIt).findIdx fun b => b.hasValue && decide (key ≤ b.key)

theorem intLen_of_lt {sz : ℕ} (h : sz < 2 ^ 31) : intLen sz = sz := by
  have hmod : sz % 2 ^ 32 = sz := Nat.mod_eq_of_lt (by omega)
  rw [intLen, hmod, if_pos h]

/-- The loop does not leave its range. -/
theorem lowerBoundLoop_le {bs : List (RegistryBucket V)} {key : UInt32} (fuel lower len : ℕ) :
    AssocReg.lowerBoundLoop bs key fuel lower len ≤ lower + len := by
  induction fuel generalizing lower len with
  | zero => exact Nat.le_add_right _ _
  | succ fuel ih =>
    rw [AssocReg.lowerBoundLoop]
    by_cases hzero : len = 0
    · rw [if_pos hzero]
      exact Nat.le_add_right _ _
    · rw [if_neg hzero]
      cases hb : bs[lower + len / 2]? with
      | none =>
        simp only [hb]
        exact Nat.le_add_right _ _
      | some b =>
        simp only [hb]
        by_cases hlt : b.key < key
        · rw [if_pos hlt]
          exact Nat.le_trans (ih _ _) (by omega)
        · rw [if_neg hlt]
          exact Nat.le_trans (ih _ _) (by omega)

/-- The keys increase along the occupied buckets. -/
def Sorted (r : AssocRegT V) : Prop :=
  (r.arr.take r.occBucket).Pairwise fun b b' => b.key < b'.key

variable {r : AssocRegT V} {startIt endIt : ℕ} {key : UInt32}

theorem Sorted.range (h : r.Sorted) (hocc : endIt ≤ r.occBucket) :
    ((r.arr.take endIt).drop startIt).Pairwise fun b b' => b.key < b'.key := by
  refine List.Pairwise.sublist ?_ h
  exact (List.drop_sublist _ _).trans (List.take_sublist_take_left hocc)

/-- `lower_bound_reg` ends at the first bucket, erased or not, whose key is not below the key. -/
theorem WF.lowerBoundReg (hwf : r.WF) (h : r.Sorted) (hle : startIt ≤ endIt)
    (hocc : endIt ≤ r.occBucket) (hlen : endIt - startIt < 2 ^ 31) :
    ∃ it, r.lowerBoundReg startIt endIt key = some it ∧ startIt ≤ it ∧ it ≤ endIt ∧
      ∀ j b, startIt ≤ j → j < endIt → r.arr[j]? = some b → (j < it ↔ b.key < key) := by
  rw [AssocRegT.lowerBoundReg]
  by_cases heq : startIt = endIt
  · rw [if_pos heq]
    exact ⟨endIt, rfl, hle, le_rfl, fun j b hj hj' => absurd hj' (by omega)⟩
  · have hroom : endIt - startIt < r.cap := by
      have := hwf.room
      omega
    have hlength : ((r.arr.take endIt).drop startIt).length = endIt - startIt := by
      have := hwf.room
      rw [List.length_drop, List.length_take, hwf.length]
      omega
    have hbound := @lowerBoundLoop_le _ ((r.arr.take endIt).drop startIt) key
      (endIt - startIt) 0 (endIt - startIt)
    rw [if_neg heq]
    simp only [assert_of hroom, intLen_of_lt hlen, Option.bind_eq_bind, Option.bind_some]
    refine ⟨_, rfl, Nat.le_add_right _ _, by omega, fun j b hj hj' hb => ?_⟩
    have hspec := AssocReg.lowerBound_spec (@Sorted.range _ r startIt endIt h hocc) key
      (j - startIt) b
      (by
        rw [List.getElem?_drop, Nat.add_sub_cancel' hj, List.getElem?_take_of_lt hj', hb])
    rw [hlength] at hspec
    rw [← hspec]
    omega

/-- A bucket of the range, counted from its start. -/
theorem getElem?_range {j : ℕ} (hlt : startIt + j < endIt) :
    ((r.arr.take endIt).drop startIt)[j]? = r.arr[startIt + j]? := by
  rw [List.getElem?_drop, List.getElem?_take_of_lt hlt]

/-- The linear search ends at the first bucket with the key, if it has a value. -/
theorem linearSearch_eq {it : ℕ} {b : RegistryBucket V} (hle : startIt ≤ it) (hlt : it < endIt)
    (hb : r.arr[it]? = some b) (hvalue : b.hasValue = true) (hkey : b.key = key)
    (hfirst : ∀ j b, startIt ≤ j → j < it → r.arr[j]? = some b → b.key ≠ key) :
    r.linearSearch startIt endIt key = it := by
  have hat : ((r.arr.take endIt).drop startIt)[it - startIt]? = some b := by
    rw [getElem?_range (by omega), Nat.add_sub_cancel' hle, hb]
  obtain ⟨hlen, hbucket⟩ := List.getElem?_eq_some_iff.1 hat
  have hidx : ((r.arr.take endIt).drop startIt).findIdx
      (fun b => b.hasValue && b.key == key) = it - startIt := by
    refine (List.findIdx_eq hlen).2 ⟨?_, fun j hj => ?_⟩
    · rw [hbucket, hvalue, hkey]
      simp
    · have hj' := List.getElem?_eq_getElem (Nat.lt_trans hj hlen)
      rw [getElem?_range (by omega)] at hj'
      have hne := hfirst _ _ (Nat.le_add_right _ _) (by omega) hj'
      rw [beq_eq_false_iff_ne.2 hne, Bool.and_false]
  rw [linearSearch, hidx, Nat.add_sub_cancel' hle]

/-- Without such a bucket it ends at the end. -/
theorem linearSearch_eq_end (hle : startIt ≤ endIt) (hlen : endIt ≤ r.arr.length)
    (hnone : ∀ j b, startIt ≤ j → j < endIt → r.arr[j]? = some b →
      ¬(b.hasValue = true ∧ b.key = key)) : r.linearSearch startIt endIt key = endIt := by
  have hnone' : ((r.arr.take endIt).drop startIt).findIdx
      (fun b => b.hasValue && b.key == key) = ((r.arr.take endIt).drop startIt).length := by
    rw [List.findIdx_eq_length]
    intro b hb
    obtain ⟨j, hj⟩ := List.mem_iff_getElem?.1 hb
    have hlt : startIt + j < endIt := by
      have hlt := (List.getElem?_eq_some_iff.1 hj).1
      rw [List.length_drop, List.length_take] at hlt
      omega
    rw [getElem?_range hlt] at hj
    have hb := hnone _ b (Nat.le_add_right _ _) hlt hj
    simpa using hb
  rw [linearSearch, hnone', List.length_drop, List.length_take]
  omega

/-- `find_reg` finds what a linear search finds. -/
theorem WF.findReg (hwf : r.WF) (h : r.Sorted) (hle : startIt ≤ endIt)
    (hocc : endIt ≤ r.occBucket) (hlen : endIt - startIt < 2 ^ 31) (hkey : 0 < key) :
    r.findReg startIt endIt key = some (r.linearSearch startIt endIt key) := by
  have hlength : endIt ≤ r.arr.length := by
    have := hwf.room
    rw [hwf.length]
    omega
  obtain ⟨it, hit, hstart, hend, hspec⟩ := @WF.lowerBoundReg _ r _ _ key hwf h hle hocc hlen
  rw [AssocRegT.findReg, assert_of hkey, hit]
  by_cases heq : startIt = endIt
  · subst heq
    rw [linearSearch_eq_end hle hlength fun j b hj hj' => absurd hj' (by omega)]
    simp
  · simp only [if_neg heq, assert_of hend, Option.bind_eq_bind, Option.bind_some]
    by_cases hitend : it = endIt
    · rw [if_pos hitend, linearSearch_eq_end hle hlength]
      rintro j b hj hj' hb ⟨-, rfl⟩
      exact UInt32.lt_irrefl _ ((hspec j b hj hj' hb).1 (hitend ▸ hj'))
    · have hlt : it < endIt := Nat.lt_of_le_of_ne hend hitend
      have hb := List.getElem?_eq_getElem (Nat.lt_of_lt_of_le hlt hlength)
      have hnot : ¬r.arr[it].key < key := fun hlt' =>
        Nat.lt_irrefl it ((hspec it _ hstart hlt hb).2 hlt')
      rw [if_neg hitend, hb]
      simp only [Option.bind_some]
      by_cases hmiss : r.arr[it].hasValue = false ∨ r.arr[it].key ≠ key
      · rw [if_pos hmiss, linearSearch_eq_end hle hlength]
        rintro j b hj hj' hbj ⟨hvalue, hkeyj⟩
        rcases Nat.lt_trichotomy j it with hji | rfl | hij
        · exact UInt32.lt_irrefl _ (hkeyj ▸ (hspec j b hj hj' hbj).1 hji)
        · rw [hb] at hbj
          cases hbj
          rcases hmiss with hclear | hne
          · rw [hclear] at hvalue
            cases hvalue
          · exact hne hkeyj
        · -- the keys behind it are greater
          have hlt' := AssocReg.key_lt_of_lt h (i := it) (j := j)
            (by rw [List.getElem?_take_of_lt (by omega), hb])
            (by rw [List.getElem?_take_of_lt (by omega), hbj]) hij
          exact hnot (hkeyj ▸ hlt')
      · rw [if_neg hmiss]
        simp only [not_or, Bool.not_eq_false, ne_eq, Decidable.not_not] at hmiss
        rw [linearSearch_eq hstart hlt hb hmiss.1 hmiss.2]
        rintro j b hj hji hbj rfl
        exact UInt32.lt_irrefl _ ((hspec j b hj (by omega) hbj).1 hji)

/-! ## What the operations do to the keys -/

/-- The keys of the occupied buckets. -/
def keys (r : AssocRegT V) : List UInt32 := (r.arr.take r.occBucket).map RegistryBucket.key

/-- The buckets from the first one with a value on. -/
def fromFront (bs : List (RegistryBucket V)) : List (RegistryBucket V) :=
  bs.dropWhile fun b => !b.hasValue

/-- The number of the buckets that a search of the whole registry is about. -/
def span (r : AssocRegT V) : ℕ := (fromFront (r.arr.take r.occBucket)).length

/-- The keys come from the counter, and increase. -/
structure Keyed (r : AssocRegT V) : Prop where
  sorted : r.keys.Pairwise (· < ·)
  key : ∀ k ∈ r.keys, 0 < k ∧ k.toNat < r.keyId

/-- What removals and changes of the capacity do: buckets may be dropped, and lose their values. -/
structure Thins (r r' : AssocRegT V) : Prop where
  keys : r'.keys.Sublist r.keys
  keyId : r'.keyId = r.keyId
  span : r'.span ≤ r.span

theorem Thins.refl (r : AssocRegT V) : r.Thins r := ⟨.refl _, rfl, le_rfl⟩

theorem Thins.trans {r r' r'' : AssocRegT V} (h : r.Thins r') (h' : r'.Thins r'') :
    r.Thins r'' :=
  ⟨h'.keys.trans h.keys, h'.keyId.trans h.keyId, h'.span.trans h.span⟩

theorem Keyed.thin {r' : AssocRegT V} (h : r.Keyed) (hthin : r.Thins r') : r'.Keyed where
  sorted := h.sorted.sublist hthin.keys
  key k hk := by
    rw [hthin.keyId]
    exact h.key k (hthin.keys.subset hk)

theorem Keyed.toSorted (h : r.Keyed) : r.Sorted := List.pairwise_map.1 h.sorted

theorem fromFront_cons_of_value {b : RegistryBucket V} (h : b.hasValue = true)
    (bs : List (RegistryBucket V)) : fromFront (b :: bs) = b :: bs :=
  List.dropWhile_cons_of_neg (by simp [h])

theorem fromFront_cons_of_clear {b : RegistryBucket V} (h : ¬b.hasValue = true)
    (bs : List (RegistryBucket V)) : fromFront (b :: bs) = fromFront bs :=
  List.dropWhile_cons_of_pos (by simp [h])

theorem fromFront_filter_le (bs : List (RegistryBucket V)) :
    (fromFront (bs.filter RegistryBucket.hasValue)).length ≤ (fromFront bs).length := by
  induction bs with
  | nil => exact le_rfl
  | cons b bs ih =>
    by_cases hvalue : b.hasValue = true
    · rw [List.filter_cons_of_pos hvalue, fromFront_cons_of_value hvalue,
        fromFront_cons_of_value hvalue, List.length_cons, List.length_cons]
      exact Nat.succ_le_succ (List.length_filter_le _ _)
    · rw [List.filter_cons_of_neg hvalue, fromFront_cons_of_clear hvalue]
      exact ih

theorem fromFront_clear_le (bs : List (RegistryBucket V)) (it : ℕ) :
    (fromFront (bs.modify it fun b => { b with hasValue := false })).length ≤
      (fromFront bs).length := by
  induction bs generalizing it with
  | nil => simp
  | cons b bs ih =>
    cases it with
    | zero =>
      rw [List.modify_zero_cons, fromFront_cons_of_clear (by simp)]
      by_cases hvalue : b.hasValue = true
      · rw [fromFront_cons_of_value hvalue, List.length_cons]
        exact Nat.le_succ_of_le (List.dropWhile_sublist _).length_le
      · rw [fromFront_cons_of_clear hvalue]
    | succ it =>
      rw [List.modify_succ_cons]
      by_cases hvalue : b.hasValue = true
      · rw [fromFront_cons_of_value hvalue, fromFront_cons_of_value hvalue, List.length_cons,
          List.length_cons, List.length_modify]
      · rw [fromFront_cons_of_clear hvalue, fromFront_cons_of_clear hvalue]
        exact ih it

theorem fromFront_append {bs : List (RegistryBucket V)} {b : RegistryBucket V}
    (hvalue : b.hasValue = true) :
    (fromFront (bs ++ [b])).length = (fromFront bs).length + 1 := by
  induction bs with
  | nil =>
    rw [List.nil_append, fromFront_cons_of_value hvalue]
    rfl
  | cons a bs ih =>
    rw [List.cons_append]
    by_cases ha : a.hasValue = true
    · rw [fromFront_cons_of_value ha, fromFront_cons_of_value ha, List.length_cons,
        List.length_append]
      rfl
    · rw [fromFront_cons_of_clear ha, fromFront_cons_of_clear ha, ih]

theorem thins_clear (r : AssocRegT V) (it : ℕ) : r.Thins (r.clear it) where
  keys := by
    have hkeys : (r.clear it).keys = r.keys := by
      rw [AssocRegT.keys, AssocRegT.clear, List.take_modify]
      exact AssocReg.map_key_modify (r := ⟨r.arr.take r.occBucket, 0, 0, 0⟩) fun _ => rfl
    exact hkeys ▸ .refl _
  keyId := rfl
  span := by
    rw [AssocRegT.span, AssocRegT.clear, List.take_modify]
    exact fromFront_clear_le _ _

theorem thins_packed [Inhabited V] (r : AssocRegT V) (cap : ℕ) : r.Thins (r.packed cap) where
  keys := by
    rw [AssocRegT.keys, packed, List.take_left]
    exact List.filter_sublist.map _
  keyId := rfl
  span := by
    rw [AssocRegT.span, packed, List.take_left]
    exact fromFront_filter_le _

theorem thins_eraseLoop {rounds startIt endIt : ℕ} {r r' : AssocRegT V}
    (h : eraseLoop rounds r startIt endIt = some r') : r.Thins r' := by
  induction rounds generalizing r startIt with
  | zero => cases h
  | succ rounds ih =>
    rw [eraseLoop] at h
    by_cases heq : startIt = endIt
    · rw [if_pos heq] at h
      cases h
      exact .refl _
    · rw [if_neg heq] at h
      obtain ⟨it, -, h⟩ := Option.bind_eq_some_iff.1 h
      exact (thins_clear r startIt).trans (ih h)

theorem thins_removeLoop {f : V → Bool} {n i : ℕ} {ks : List UInt32} {r r' : AssocRegT V}
    (h : removeLoop f n r i = some (ks, r')) : r.Thins r' := by
  induction n generalizing r i ks with
  | zero =>
    cases h
    exact .refl _
  | succ n ih =>
    obtain ⟨b, -, h⟩ := Option.bind_eq_some_iff.1 h
    by_cases hf : b.hasValue = true ∧ f b.val = true
    · rw [if_pos hf] at h
      obtain ⟨⟨ks', r₁⟩, h₁, h⟩ := Option.bind_eq_some_iff.1 h
      cases h
      exact (thins_clear r i).trans (ih h₁)
    · rw [if_neg hf] at h
      exact ih h

/-! ## The search for an entry -/

/-- Before the front there are no entries, and from it on as many buckets as the span counts. -/
theorem WF.span_front (h : r.WF) {it : ℕ} (hit : r.IterAt 0 it) :
    (∀ j b, j < it → r.arr[j]? = some b → b.hasValue = false) ∧ r.span = r.occBucket - it := by
  have hclear : ∀ b ∈ r.arr.take it, b.hasValue = false := by
    intro b hb
    have hnil := List.map_eq_nil_iff.1 (List.eq_nil_of_length_eq_zero hit.count)
    exact Bool.eq_false_iff.2 (List.filter_eq_nil_iff.1 hnil b hb)
  refine ⟨fun j b hj hb => hclear b ?_, ?_⟩
  · rw [← List.getElem?_take_of_lt hj] at hb
    exact List.mem_of_getElem? hb
  · have hsplit : r.arr.take r.occBucket = r.arr.take it ++ (r.arr.take r.occBucket).drop it := by
      conv_lhs => rw [← List.take_append_drop it (r.arr.take r.occBucket), List.take_take,
        Nat.min_eq_left hit.le]
    have hlen : (r.arr.take r.occBucket).length = r.occBucket := by
      rw [List.length_take, h.length]
      exact Nat.min_eq_left (Nat.le_of_lt h.room)
    rw [span, fromFront, hsplit, List.dropWhile_append_of_pos (by simpa using hclear)]
    by_cases hlt : it < r.occBucket
    · obtain ⟨b, hb, hvalue⟩ := hit.hasValue hlt
      obtain ⟨hat, rfl⟩ := List.getElem?_eq_some_iff.1 hb
      have hcons : (r.arr.take r.occBucket).drop it =
          r.arr[it] :: (r.arr.take r.occBucket).drop (it + 1) := by
        rw [List.drop_eq_getElem_cons (hlen.symm ▸ hlt), List.getElem_take]
      have hfront := fromFront_cons_of_value hvalue ((r.arr.take r.occBucket).drop (it + 1))
      rw [← hcons, fromFront] at hfront
      rw [hfront, List.length_drop, hlen]
    · rw [List.drop_eq_nil_of_le (by omega), List.dropWhile_nil]
      exact (Nat.sub_eq_zero_of_le (Nat.le_of_not_lt hlt)).symm

/-- A search of the whole registry with the key of an entry finds it. -/
theorem WF.find (h : r.WF) (hkeyed : r.Keyed) (hspan : r.span < 2 ^ 31) {e : UInt32 × V}
    (he : e ∈ r.entries) :
    ∃ it, r.find e.1 = some it ∧ r.arr[it]? = some ⟨e.1, true, e.2⟩ := by
  obtain ⟨b, hb, rfl⟩ := List.mem_map.1 he
  obtain ⟨hb, hvalue⟩ := List.mem_filter.1 hb
  obtain ⟨j, hj⟩ := List.mem_iff_getElem?.1 hb
  have hjocc : j < r.occBucket := by
    have hlt := (List.getElem?_eq_some_iff.1 hj).1
    rw [List.length_take] at hlt
    exact Nat.lt_of_lt_of_le hlt (Nat.min_le_left _ _)
  have hat : r.arr[j]? = some b := by rw [← hj, List.getElem?_take_of_lt hjocc]
  obtain ⟨it, hfront, hit⟩ := h.front
  obtain ⟨hclear, hcount⟩ := h.span_front hit
  have hle : it ≤ j := by
    by_contra hlt
    rw [hclear j b (Nat.lt_of_not_le hlt) hat] at hvalue
    cases hvalue
  have hpos := (hkeyed.key b.key (List.mem_map_of_mem hb)).1
  refine ⟨j, ?_, ?_⟩
  · rw [AssocRegT.find, hfront, Option.bind_eq_bind, Option.bind_some, endIt,
      h.findReg hkeyed.toSorted hit.le le_rfl (hcount ▸ hspan) hpos,
      linearSearch_eq hle hjocc hat hvalue rfl]
    intro i b' _ hi hb' hkey
    -- the keys before it are smaller
    have hlt := AssocReg.key_lt_of_lt hkeyed.toSorted
      (by rw [List.getElem?_take_of_lt (Nat.lt_trans hi hjocc), hb']) hj hi
    exact UInt32.lt_irrefl _ (hkey ▸ hlt)
  · rw [hat, ← hvalue]

/-! ## What removals and insertions do -/

section

variable [Inhabited V] {r r' : AssocRegT V}

theorem WF.thins_expand (h : r.WF) (hr : r.expandIfNecessary = some r') : r.Thins r' := by
  rw [h.expandIfNecessary_eq] at hr
  cases hr
  by_cases hroom : r.occBucket < r.cap - 1
  · rw [if_pos hroom]
    exact .refl r
  · rw [if_neg hroom]
    exact thins_packed r _

theorem WF.thins_compact_shrink (h : r.WF)
    (hr : (r.compactIfNecessary.bind fun r => r.shrinkIfNecessary) = some r') : r.Thins r' := by
  obtain ⟨r₁, h₁, hk⟩ := h.compactIfNecessary
  rw [h₁, Option.bind_some, hk.wf.shrinkIfNecessary_eq] at hr
  have hfirst : r.Thins r₁ := by
    rw [h.compactIfNecessary_eq] at h₁
    cases h₁
    by_cases hdense : r.sz * 2 > r.occBucket
    · rw [if_pos hdense]
      exact .refl r
    · rw [if_neg hdense]
      exact thins_packed r _
  cases hr
  apply hfirst.trans
  by_cases hkeep : r₁.cap = AssocReg.minSize ∨ r₁.sz * 4 > r₁.cap
  · rw [if_pos hkeep]
    exact .refl r₁
  · rw [if_neg hkeep]
    exact thins_packed r₁ _

theorem WF.thins_erase (h : r.WF) {i j it it' : ℕ} (hit : r.IterAt i it) (hit' : r.IterAt j it')
    (hij : i ≤ j) (hj : j ≤ r.entries.length) (hr : r.erase it it' = some r') : r.Thins r' := by
  rw [AssocRegT.erase] at hr
  by_cases heq : it = it'
  · rw [if_pos heq] at hr
    cases hr
    exact .refl r
  · rw [if_neg heq] at hr
    obtain ⟨-, hr⟩ := assert_bind_eq_some.1 hr
    obtain ⟨r₁, h₁, hr⟩ := Option.bind_eq_some_iff.1 hr
    have hsz : r.entries.length ≤ r.occBucket := h.sz ▸ h.sz_le
    obtain ⟨r₂, h₂, hwf, -⟩ := h.eraseLoop (r.occBucket + 1) hit hit' hij hj (by omega)
    obtain rfl := Option.some.inj (h₁.symm.trans h₂)
    exact (thins_eraseLoop h₁).trans (hwf.thins_compact_shrink hr)

theorem WF.thins_removeIf (h : r.WF) {f : V → Bool} {ks : List UInt32}
    (hr : r.removeIfRangeReg f = some (ks, r')) : r.Thins r' := by
  obtain ⟨⟨ks', r₁⟩, h₁, hr⟩ := Option.bind_eq_some_iff.1 hr
  obtain ⟨r₂, h₂, hwf, -⟩ := h.removeLoop f (Nat.zero_add r.occBucket)
  obtain rfl : r₁ = r₂ := congrArg Prod.snd (Option.some.inj (h₁.symm.trans h₂))
  obtain ⟨r₃, h₃, hr⟩ := Option.bind_eq_some_iff.1 hr
  obtain ⟨r₄, h₄, hr⟩ := Option.bind_eq_some_iff.1 hr
  cases hr
  refine (thins_removeLoop h₁).trans (hwf.thins_compact_shrink ?_)
  rw [h₃, Option.bind_some, h₄]

/-- The buckets that a search of the whole registry is about before the next insertion; the array
may have to be expanded for it. -/
def spanBefore (r : AssocRegT V) : ℕ :=
  if r.occBucket < r.cap - 1 then r.span else r.sz

/-- An insertion adds the next key, at the end. -/
theorem WF.keys_pushBack (h : r.WF) {value : V} {key : UInt32}
    (hr : r.pushBack value = some (key, r')) :
    ∃ r₁, r.Thins r₁ ∧ r'.keys = r₁.keys ++ [UInt32.ofNat r.keyId] ∧
      r'.keyId = r.keyId + 1 ∧ r'.span ≤ r.spanBefore + 1 := by
  obtain ⟨r₁, h₁, hr⟩ := Option.bind_eq_some_iff.1 hr
  obtain ⟨r₂, h₂, hk, hroom⟩ := h.expandIfNecessary
  obtain rfl := Option.some.inj (h₁.symm.trans h₂)
  have hlt : r₁.occBucket < r₁.arr.length := by
    rw [hk.wf.length]
    omega
  obtain ⟨arr, harr, hr⟩ := Option.bind_eq_some_iff.1 hr
  rw [Buffer.store_of_lt hlt] at harr
  cases harr
  obtain ⟨-, hr⟩ := assert_bind_eq_some.1 hr
  cases hr
  have hocc : (r₁.arr.set r₁.occBucket ⟨UInt32.ofNat r₁.keyId, true, value⟩).take
      (r₁.occBucket + 1) = r₁.arr.take r₁.occBucket ++ [⟨UInt32.ofNat r₁.keyId, true, value⟩] := by
    rw [List.take_succ_eq_append_getElem (by rwa [List.length_set]),
      List.take_set_of_le (Nat.le_refl _), List.getElem_set_self]
  have hspan : r₁.span ≤ r.spanBefore := by
    rw [h.expandIfNecessary_eq] at h₁
    cases h₁
    rw [spanBefore]
    by_cases hroom : r.occBucket < r.cap - 1
    · rw [if_pos hroom, if_pos hroom]
    · rw [if_neg hroom, if_neg hroom, span, AssocRegT.packed, List.take_left,
        ← h.length_live]
      exact (List.dropWhile_sublist _).length_le
  refine ⟨r₁, h.thins_expand h₁, ?_, ?_, ?_⟩
  · rw [keys, hocc, List.map_append, hk.keyId]
    rfl
  · rw [hk.keyId]
  · rw [span, hocc, fromFront_append rfl]
    exact Nat.succ_le_succ hspan

/-- As long as the key fits into 32 bits, it is greater than the keys in the array. -/
theorem WF.keyed_pushBack (h : r.WF) (hkeyed : r.Keyed) (hpos : 0 < r.keyId)
    (hlt : r.keyId < 2 ^ 32) {value : V} {key : UInt32}
    (hr : r.pushBack value = some (key, r')) : r'.Keyed := by
  obtain ⟨r₁, hthin, hkeys, hid, -⟩ := h.keys_pushBack hr
  have hkeyed₁ := hkeyed.thin hthin
  have hnat : (UInt32.ofNat r.keyId).toNat = r.keyId := UInt32.toNat_ofNat_of_lt hlt
  refine ⟨?_, fun k hk => ?_⟩
  · rw [hkeys]
    refine List.pairwise_append.2 ⟨hkeyed₁.sorted, List.pairwise_singleton _ _, ?_⟩
    intro k hk k' hk'
    cases List.mem_singleton.1 hk'
    rw [UInt32.lt_iff_toNat_lt, hnat, ← hthin.keyId]
    exact (hkeyed₁.key k hk).2
  · rw [hkeys] at hk
    rw [hid]
    rcases List.mem_append.1 hk with hk | hk
    · have hbound := hkeyed₁.key k hk
      rw [hthin.keyId] at hbound
      exact ⟨hbound.1, Nat.lt_succ_of_lt hbound.2⟩
    · cases List.mem_singleton.1 hk
      rw [UInt32.lt_iff_toNat_lt, hnat]
      exact ⟨hpos, Nat.lt_succ_self _⟩

end

end AssocRegT

/-! ## Runs -/

/-- A registry, with the keys that it has answered with and what was put in under them and not
taken out. -/
structure RegRun (V : Type) : Type where
  reg : AssocRegT V
  keys : List UInt32
  entries : List (UInt32 × V)

namespace RegRun

variable {V : Type} [Inhabited V]

/-- An operation on the registry. -/
def step (s : RegRun V) : AssocRegOp V → Option (RegRun V)
  | .pushBack value => do
    let (key, reg) ← s.reg.pushBack value
    some ⟨reg, s.keys ++ [key], s.entries ++ [(key, value)]⟩
  | .erase i j => do
    let (_, reg) ← s.reg.step (.erase i j)
    some ⟨reg, s.keys, s.entries.take i ++ s.entries.drop j⟩
  | .removeIf f => do
    let (_, reg) ← s.reg.step (.removeIf f)
    some ⟨reg, s.keys, s.entries.filter fun e => !f e.2⟩

omit [Inhabited V] in
/-- Only iterators that exist, in their order, can be handed over. -/
def Enabled (s : RegRun V) : AssocRegOp V → Prop
  | .erase i j => i ≤ j ∧ j ≤ s.entries.length
  | _ => True

/-- A registry from `assoc_reg_init` on. -/
def system (V : Type) [Inhabited V] : System (RegRun V) (AssocRegOp V) where
  init := ⟨.init, [], []⟩
  enabled := Enabled
  step := step

/-- The keys that were answered are not zero, each is greater than the ones before, and a search
with the key of an entry finds it. -/
structure NeverReused (s : RegRun V) : Prop where
  pos : ∀ k ∈ s.keys, 0 < k
  increasing : s.keys.Pairwise (· < ·)
  find : ∀ e ∈ s.entries, ∃ it, s.reg.find e.1 = some it ∧ s.reg.arr[it]? = some ⟨e.1, true, e.2⟩

/-- At an insertion the counter has not left the 32 bits of a key, and the next search will not be
of more buckets than an `int` can count. -/
def InRange (s : RegRun V) : AssocRegOp V → Prop
  | .pushBack _ => s.reg.keyId < 2 ^ 32 ∧ s.reg.spanBefore + 1 < 2 ^ 31
  | _ => True

instance (s : RegRun V) (op : AssocRegOp V) : Decidable (s.InRange op) :=
  match op with
  | .pushBack _ => inferInstanceAs (Decidable (_ ∧ _))
  | .erase _ _ | .removeIf _ => inferInstanceAs (Decidable True)

/-- What holds in every run; the keys are in order as long as the counter has not left 32 bits. -/
structure Inv (s : RegRun V) : Prop where
  wf : s.reg.WF
  entries : s.reg.entries = s.entries
  keyId : 0 < s.reg.keyId
  keyed : s.reg.keyId ≤ 2 ^ 32 → s.reg.Keyed ∧ s.keys.Pairwise (· < ·) ∧
    ∀ k ∈ s.keys, 0 < k ∧ k.toNat < s.reg.keyId

omit [Inhabited V] in
/-- A removal, if the array is thinned out and holds the remaining entries. -/
theorem Inv.remove {s : RegRun V} (h : s.Inv) {reg : AssocRegT V} {entries : List (UInt32 × V)}
    (hwf : reg.WF) (hentries : reg.entries = entries) (hthin : s.reg.Thins reg) :
    (⟨reg, s.keys, entries⟩ : RegRun V).Inv where
  wf := hwf
  entries := hentries
  keyId := hthin.keyId ▸ h.keyId
  keyed hle := by
    obtain ⟨hkeyed, hkeys⟩ := h.keyed (hthin.keyId ▸ hle)
    refine ⟨hkeyed.thin hthin, ?_⟩
    simp only [hthin.keyId]
    exact hkeys

theorem Inv.erase {s : RegRun V} (h : s.Inv) {i j : ℕ} (hij : i ≤ j) (hj : j ≤ s.entries.length) :
    ∃ reg, s.step (.erase i j) = some ⟨reg, s.keys, s.entries.take i ++ s.entries.drop j⟩ ∧
      (⟨reg, s.keys, s.entries.take i ++ s.entries.drop j⟩ : RegRun V).Inv ∧ s.reg.Thins reg := by
  have hwf := h.wf
  rw [← h.entries] at hj
  obtain ⟨it, hit, hat⟩ := hwf.iterAt (k := i) (Nat.le_trans hij hj)
  obtain ⟨it', hit', hat'⟩ := hwf.iterAt (k := j) hj
  obtain ⟨reg, hreg, hwf', -, hentries⟩ := hwf.erase hat hat' hij hj
  have hthin := hwf.thins_erase hat hat' hij hj hreg
  refine ⟨reg, ?_, h.remove hwf' ?_ hthin, hthin⟩
  · simp only [step, AssocRegT.step, hit, hit', hreg, Option.bind_eq_bind, Option.bind_some]
  · rw [hentries, h.entries]

theorem Inv.removeIf {s : RegRun V} (h : s.Inv) (f : V → Bool) :
    ∃ reg, s.step (.removeIf f) = some ⟨reg, s.keys, s.entries.filter fun e => !f e.2⟩ ∧
      (⟨reg, s.keys, s.entries.filter fun e => !f e.2⟩ : RegRun V).Inv ∧ s.reg.Thins reg := by
  obtain ⟨reg, hreg, hwf', -, hentries⟩ := h.wf.removeIfRangeReg f
  have hthin := h.wf.thins_removeIf hreg
  refine ⟨reg, ?_, h.remove hwf' ?_ hthin, hthin⟩
  · simp only [step, AssocRegT.step, hreg, Option.bind_eq_bind, Option.bind_some]
  · rw [hentries, h.entries]

theorem Inv.pushBack {s : RegRun V} (h : s.Inv) (value : V)
    (hkey : s.reg.keyId ≠ 2 ^ 64 - 1) :
    ∃ s', s.step (.pushBack value) = some s' ∧ s'.Inv ∧ s'.reg.keyId = s.reg.keyId + 1 ∧
      s'.reg.span ≤ s.reg.spanBefore + 1 ∧ s'.keys = s.keys ++ [UInt32.ofNat s.reg.keyId] ∧
      s'.entries = s.entries ++ [(UInt32.ofNat s.reg.keyId, value)] := by
  obtain ⟨reg, hreg, hwf', hentries, hid⟩ := h.wf.pushBack hkey value
  obtain ⟨-, -, -, -, hspan⟩ := h.wf.keys_pushBack hreg
  refine ⟨⟨reg, s.keys ++ [UInt32.ofNat s.reg.keyId],
    s.entries ++ [(UInt32.ofNat s.reg.keyId, value)]⟩, ?_, ⟨hwf', ?_, ?_, ?_⟩, hid, hspan,
    rfl, rfl⟩
  · simp only [step, hreg, Option.bind_eq_bind, Option.bind_some]
  · rw [hentries, h.entries]
  · simp only [hid]
    exact Nat.succ_pos _
  · intro hle
    have hlt : s.reg.keyId < 2 ^ 32 := by
      simp only [hid] at hle
      omega
    obtain ⟨hkeyed, hsorted, hbound⟩ := h.keyed (Nat.le_of_lt hlt)
    have hnat : (UInt32.ofNat s.reg.keyId).toNat = s.reg.keyId := UInt32.toNat_ofNat_of_lt hlt
    refine ⟨h.wf.keyed_pushBack hkeyed h.keyId hlt hreg, ?_, fun k hk => ?_⟩
    · refine List.pairwise_append.2 ⟨hsorted, List.pairwise_singleton _ _, ?_⟩
      intro k hk k' hk'
      cases List.mem_singleton.1 hk'
      rw [UInt32.lt_iff_toNat_lt, hnat]
      exact (hbound k hk).2
    · simp only [hid]
      rcases List.mem_append.1 hk with hk | hk
      · exact ⟨(hbound k hk).1, Nat.lt_succ_of_lt (hbound k hk).2⟩
      · cases List.mem_singleton.1 hk
        rw [UInt32.lt_iff_toNat_lt, hnat]
        exact ⟨h.keyId, Nat.lt_succ_self _⟩

theorem inv_init : (system V).init.Inv where
  wf := AssocRegT.wf_init
  entries := rfl
  keyId := Nat.one_pos
  keyed _ := ⟨⟨List.Pairwise.nil, nofun⟩, List.Pairwise.nil, nofun⟩

theorem Inv.step {s s' : RegRun V} (h : s.Inv) {op : AssocRegOp V} (he : s.Enabled op)
    (hs : s.step op = some s') : s'.Inv := by
  cases op with
  | pushBack value =>
    have hkey : s.reg.keyId ≠ 2 ^ 64 - 1 := by
      obtain ⟨⟨key, reg⟩, hpush, -⟩ := Option.bind_eq_some_iff.1 hs
      obtain ⟨r₁, h₁, hpush⟩ := Option.bind_eq_some_iff.1 hpush
      obtain ⟨arr, -, hpush⟩ := Option.bind_eq_some_iff.1 hpush
      rw [← (h.wf.thins_expand h₁).keyId]
      exact (assert_bind_eq_some.1 hpush).1
    obtain ⟨s₁, hs₁, hinv, -⟩ := h.pushBack value hkey
    obtain rfl := Option.some.inj (hs₁.symm.trans hs)
    exact hinv
  | erase i j =>
    obtain ⟨reg, hs₁, hinv, -⟩ := h.erase he.1 he.2
    obtain rfl := Option.some.inj (hs₁.symm.trans hs)
    exact hinv
  | removeIf f =>
    obtain ⟨reg, hs₁, hinv, -⟩ := h.removeIf f
    obtain rfl := Option.some.inj (hs₁.symm.trans hs)
    exact hinv

theorem inv_of_reachable {s : RegRun V} (h : (system V).Reachable s) : s.Inv :=
  h.invariant inv_init fun _ _ _ hinv he hs => hinv.step he hs

/-- A run within the range stays there, and no assertion fails. -/
theorem Inv.step_inRange {s : RegRun V} (h : s.Inv) (hle : s.reg.keyId ≤ 2 ^ 32)
    (hspan : s.reg.span < 2 ^ 31) {op : AssocRegOp V} (he : s.Enabled op) (hr : s.InRange op) :
    ∃ s', s.step op = some s' ∧ s'.reg.keyId ≤ 2 ^ 32 ∧ s'.reg.span < 2 ^ 31 := by
  cases op with
  | pushBack value =>
    obtain ⟨hlt, hbuckets⟩ := hr
    have hne : s.reg.keyId ≠ 2 ^ 64 - 1 := by omega
    obtain ⟨s', hs', -, hid, hspan', -⟩ := h.pushBack value hne
    exact ⟨s', hs', hid ▸ hlt, Nat.lt_of_le_of_lt hspan' hbuckets⟩
  | erase i j =>
    obtain ⟨reg, hs', -, hthin⟩ := h.erase he.1 he.2
    exact ⟨_, hs', hthin.keyId ▸ hle, Nat.lt_of_le_of_lt hthin.span hspan⟩
  | removeIf f =>
    obtain ⟨reg, hs', -, hthin⟩ := h.removeIf f
    exact ⟨_, hs', hthin.keyId ▸ hle, Nat.lt_of_le_of_lt hthin.span hspan⟩

/-- What holds in the runs within the range. -/
theorem inRange_of_reachable {s : RegRun V} (h : ((system V).restrict InRange).Reachable s) :
    s.Inv ∧ s.reg.keyId ≤ 2 ^ 32 ∧ s.reg.span < 2 ^ 31 := by
  refine h.invariant (P := fun s => s.Inv ∧ s.reg.keyId ≤ 2 ^ 32 ∧ s.reg.span < 2 ^ 31)
    ⟨inv_init, Nat.le_of_ble_eq_true rfl, Nat.two_pow_pos 31⟩ ?_
  rintro s op t ⟨hinv, hle, hspan⟩ ⟨he, hr⟩ hs
  obtain ⟨t', ht', hle', hspan'⟩ := hinv.step_inRange hle hspan he hr
  obtain rfl := Option.some.inj (ht'.symm.trans hs)
  exact ⟨hinv.step he hs, hle', hspan'⟩

/-- In every run within the range the keys that were answered are not zero and increase, the
entries are found under them, and no assertion fails. -/
theorem neverReused_of_reachable {s : RegRun V} (h : ((system V).restrict InRange).Reachable s) :
    s.NeverReused ∧ ((system V).restrict InRange).Safe s := by
  obtain ⟨hinv, hle, hspan⟩ := inRange_of_reachable h
  obtain ⟨hkeyed, hkeys, hbound⟩ := hinv.keyed hle
  refine ⟨⟨fun k hk => (hbound k hk).1, hkeys, fun e he => ?_⟩, ?_⟩
  · rw [← hinv.entries] at he
    exact hinv.wf.find hkeyed hspan he
  · rintro op ⟨he, hr⟩ hnone
    obtain ⟨s', hs', -⟩ := hinv.step_inRange hle hspan he hr
    exact Option.some_ne_none _ (hs'.symm.trans hnone)

/-- Three entries, of which the one in the middle was taken out. -/
def sparse : RegRun ℕ where
  reg :=
    { arr := [⟨1, true, 7⟩, ⟨2, false, 8⟩, ⟨3, true, 9⟩] ++ List.replicate 13 default
      sz := 2
      cap := 16
      occBucket := 3
      keyId := 4 }
  keys := [1, 2, 3]
  entries := [(1, 7), (3, 9)]

theorem reachable_sparse : ((system ℕ).restrict InRange).Reachable sparse := by
  have hsched : ((system ℕ).restrict InRange).Sched (system ℕ).init
      [.pushBack 7, .pushBack 8, .pushBack 9, .erase 1 2] sparse :=
    ⟨⟨trivial, by decide⟩, _, rfl, ⟨trivial, by decide⟩, _, rfl, ⟨trivial, by decide⟩, _, rfl,
      ⟨⟨by decide, by decide⟩, trivial⟩, _, rfl, rfl⟩
  obtain ⟨tr, hrun, -⟩ := hsched.steps
  exact ⟨tr, hrun⟩

theorem neverReused_sparse :
    sparse.NeverReused ∧ ((system ℕ).restrict InRange).Safe sparse :=
  neverReused_of_reachable reachable_sparse

/-- An entry that is put in and taken out moves the counter by one. -/
theorem exists_reachable_keyId (v : V) {n : ℕ} (hn : n < 2 ^ 64 - 1) :
    ∃ s : RegRun V, (system V).Reachable s ∧ s.entries = [] ∧ s.reg.keyId = n + 1 := by
  induction n with
  | zero => exact ⟨_, .init, rfl, rfl⟩
  | succ n ih =>
    obtain ⟨s, hs, hnil, hid⟩ := ih (by omega)
    obtain ⟨s₁, h₁, hinv₁, hid₁, -, -, hentries⟩ :=
      (inv_of_reachable hs).pushBack v (by omega)
    have hs₁ := hs.step (show (system V).enabled s (.pushBack v) from trivial) h₁
    rw [hnil, List.nil_append] at hentries
    have he : (system V).enabled s₁ (.erase 0 1) :=
      ⟨Nat.zero_le 1, by rw [hentries]; exact le_rfl⟩
    obtain ⟨reg, h₂, -, hthin⟩ := hinv₁.erase he.1 he.2
    refine ⟨_, hs₁.step he h₂, ?_, ?_⟩
    · rw [hentries]
      rfl
    · rw [hthin.keyId, hid₁, hid]

/-- After `2 ^ 32 - 1` entries that were put in and taken out the next one gets the key zero. -/
theorem not_neverReused_of_reachable :
    ¬ ∀ s : RegRun ℕ, (system ℕ).Reachable s → s.NeverReused := by
  intro h
  obtain ⟨s, hs, -, hid⟩ := exists_reachable_keyId 7 (n := 2 ^ 32 - 1) (by omega)
  obtain ⟨s', hs', -, -, -, hkeys, -⟩ := (inv_of_reachable hs).pushBack 7 (by omega)
  have hpos := (h s' (hs.step (show (system ℕ).enabled s (.pushBack 7) from trivial) hs')).pos 0
    (by rw [hkeys, hid]; exact List.mem_append_right _ (List.mem_singleton_self _))
  exact UInt32.lt_irrefl _ hpos

/-! ## The searches in every run -/

/-- In every run of less than `2 ^ 32` insertions `lower_bound_reg` ends at the first bucket, with
a value or without, whose key is not below the key, and `find_reg` ends where a linear search
does. -/
theorem searches_of_reachable {s : RegRun V} (h : (system V).Reachable s)
    (hkeyId : s.reg.keyId ≤ 2 ^ 32) {startIt endIt : ℕ} (hle : startIt ≤ endIt)
    (hocc : endIt ≤ s.reg.occBucket) (hlen : endIt - startIt < 2 ^ 31) {key : UInt32}
    (hkey : 0 < key) :
    (∃ it, s.reg.lowerBoundReg startIt endIt key = some it ∧ startIt ≤ it ∧ it ≤ endIt ∧
      ∀ j b, startIt ≤ j → j < endIt → s.reg.arr[j]? = some b → (j < it ↔ b.key < key)) ∧
    s.reg.findReg startIt endIt key = some (s.reg.linearSearch startIt endIt key) := by
  have hinv := inv_of_reachable h
  have hsorted := (hinv.keyed hkeyId).1.toSorted
  exact ⟨hinv.wf.lowerBoundReg hsorted hle hocc hlen, hinv.wf.findReg hsorted hle hocc hlen hkey⟩

/-- The search for a key whose bucket has lost its value. -/
theorem searches_sparse :
    (∃ it, sparse.reg.lowerBoundReg 0 3 2 = some it ∧ 0 ≤ it ∧ it ≤ 3 ∧
      ∀ j b, 0 ≤ j → j < 3 → sparse.reg.arr[j]? = some b → (j < it ↔ b.key < 2)) ∧
    sparse.reg.findReg 0 3 2 = some (sparse.reg.linearSearch 0 3 2) :=
  searches_of_reachable (V := ℕ) (s := sparse)
    (by
      obtain ⟨tr, hrun⟩ := reachable_sparse
      exact ⟨tr, (System.steps_restrict.1 hrun).1⟩)
    (by decide) (by decide) (by decide) (by decide) (by decide)

/-- It does not end at the first entry whose key is not below the key. -/
theorem lowerBoundReg_sparse :
    ¬ ∀ (s : RegRun ℕ) (key : UInt32), (system ℕ).Reachable s → 0 < key →
      ∀ it, s.reg.front = some it →
        s.reg.lowerBoundReg it s.reg.endIt key =
          some (s.reg.firstNotLess it s.reg.endIt key) := by
  intro h
  obtain ⟨tr, hrun⟩ := reachable_sparse
  have hbound := h sparse 2 ⟨tr, (System.steps_restrict.1 hrun).1⟩ (by decide) 0 (by decide)
  exact absurd hbound (by decide)

end RegRun

end FlexRic
