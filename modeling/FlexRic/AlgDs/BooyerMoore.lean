import FlexRic.Semantics.Codec
import FlexRic.Semantics.MachineNumbers
import FlexRic.Semantics.Words

/-!
# The search for a string (`util/alg_ds/alg/string/booyer_moore.c` and `search_naive.c`)

The search compares the needle with the haystack from the end of the needle. After a mismatch the
first table says how far the missed character is from the end of the needle, and the second how far
the needle goes until what agreed comes again. Both are added to the position of the mismatch.

A `char` is signed. An access outside of an array, a failing assertion and a loop that needs more
rounds than there is fuel are `none`; there is always memory for the tables.
-/

namespace FlexRic

open Words

/-- The bytes of an object, which has no more of them than a `ptrdiff_t` can count. -/
structure Chars : Type where
  bytes : List UInt8
  fits : bytes.length < 2 ^ 63

namespace BooyerMoore

/-! ## The tables -/

/-- The value of a `char`. -/
def toChar (c : UInt8) : ℤ := if c < 128 then c.toNat else c.toNat - 256

/-- An assignment to an element of an array. -/
def store (arr : List ℤ) (i : ℕ) (x : ℤ) : Option (List ℤ) :=
  if i < arr.length then some (arr.set i x) else none

/-- The decrement of a `size_t`. -/
def decr (i : ℕ) : ℕ := toSizeT (i - 1)

/-- `pre_process_delta_1` after `i` rounds of its loop. -/
def preProcessDelta1 (needle : List UInt8) : ℕ → Option (List ℤ)
  | 0 => some (List.replicate 256 (-1))
  | i + 1 => do
      let arr ← preProcessDelta1 needle i
      let c ← needle[i]?
      let place ← (toChar c).toNat?
      store arr place (toInt i)

/-- An entry of `shift` is set if it is not set yet. -/
def setShift (shift : List ℤ) (j : ℕ) (x : ℤ) : Option (List ℤ) := do
  let old ← shift[j]?
  if old = 0 then store shift j x else some shift

/-- `pattern[j]` as the next `j`. -/
def next (pattern : List ℤ) (j : ℕ) : Option ℕ := (pattern[j]?).map toSizeT

/-- The inner loop of `pre_process_delta_2`. -/
def extendBorder (needle : List UInt8) (pattern : List ℤ) (i : ℕ) :
    (fuel : ℕ) → (j : ℕ) → (shift : List ℤ) → Option (ℕ × List ℤ)
  | 0, _, _ => none
  | fuel + 1, j, shift =>
      if j < needle.length + 1 then do
        let c ← needle[decr i]?
        let c' ← needle[decr j]?
        if c = c' then some (j, shift)
        else do
          let shift ← setShift shift j (toInt (j - i))
          let j ← next pattern j
          extendBorder needle pattern i fuel j shift
      else some (j, shift)

/-- The outer loop of `pre_process_delta_2`. -/
def borders (needle : List UInt8) (fuel : ℕ) :
    (i j : ℕ) → (shift pattern : List ℤ) → Option (List ℤ × List ℤ)
  | 0, _, shift, pattern => some (shift, pattern)
  | i + 1, j, shift, pattern => do
      let (j, shift) ← extendBorder needle pattern (i + 1) fuel j shift
      let pattern ← store pattern i (toInt (decr j))
      borders needle fuel i (decr j) shift pattern

/-- The `j` after a round of the second case. -/
def nextIf (pattern : List ℤ) (i j : ℕ) : Option ℕ := if j = i then next pattern j else some j

/-- The loop of the second case. -/
def fillShift (pattern : List ℤ) : (rounds i j : ℕ) → (shift : List ℤ) → Option (List ℤ)
  | 0, _, _, shift => some shift
  | rounds + 1, i, j, shift => do
      let shift ← setShift shift i (toInt j)
      let j ← nextIf pattern i j
      fillShift pattern rounds (i + 1) j shift

/-- `pre_process_delta_2`. -/
def preProcessDelta2 (needle : List UInt8) (fuel : ℕ) : Option (List ℤ) := do
  let len := needle.length
  let pattern ← store (List.replicate (len + 1) 0) len (toInt (len + 1))
  let (shift, pattern) ← borders needle fuel len (len + 1) (List.replicate (len + 1) 0) pattern
  let j ← next pattern 0
  fillShift pattern (len + 1) 0 j shift

/-! ## The searches -/

/-- `shift`, after the character `c` was not that of the needle at `j`. -/
def shift (needle : List UInt8) (d1 d2 : List ℤ) (j : ℕ) (c : UInt8) : Option ℕ := do
  let last ← d1[toSizeT (toChar c)]?
  let shift1 := toSizeT (needle.length - 1 - last)
  let entry ← d2[j + 1]?
  let shift2 := toSizeT entry
  some (max 1 (max shift1 shift2))

/-- The loop of `search_booyer_moore`. -/
def searchLoop (needle haystack : List UInt8) (d1 d2 : List ℤ) :
    (fuel i j : ℕ) → Option (Option ℕ)
  | 0, _, _ => none
  | fuel + 1, i, j =>
      if i < haystack.length then do
        let c ← haystack[i]?
        let c' ← needle[j]?
        if c ≠ c' then do
          let shift ← shift needle d1 d2 j c
          searchLoop needle haystack d1 d2 fuel (toSizeT (i + shift)) (needle.length - 1)
        else if j = 0 then some (some i)
        else searchLoop needle haystack d1 d2 fuel (decr i) (decr j)
      else some none

/-- `search_booyer_moore`, with the position of what is found. -/
def searchBooyerMoore (needle haystack : List UInt8) (fuel : ℕ) : Option (Option ℕ) :=
  if needle.length = 0 ∨ haystack.length = 0 then some none
  else do
    let d1 ← preProcessDelta1 needle needle.length
    let d2 ← preProcessDelta2 needle fuel
    searchLoop needle haystack d1 d2 fuel (needle.length - 1) (needle.length - 1)

/-- The inner loop of `search_naive`: whether the needle is at `k`. -/
def isAt (haystack : List UInt8) : (needle : List UInt8) → (k : ℕ) → Option Bool
  | [], _ => some true
  | c' :: needle, k => do
      let c ← haystack[k]?
      if c ≠ c' then some false else isAt haystack needle (k + 1)

/-- The loop of `search_naive`. -/
def naiveLoop (needle haystack : List UInt8) : (rounds i : ℕ) → Option (Option ℕ)
  | 0, _ => some none
  | rounds + 1, i => do
      let found ← isAt haystack needle i
      if found then some (some i) else naiveLoop needle haystack rounds (i + 1)

/-- `search_naive`, with the position of what is found. -/
def searchNaive (needle haystack : List UInt8) : Option (Option ℕ) := do
  assert (needle.length ≠ 0)
  assert (haystack.length ≠ 0)
  assert (needle.length ≤ haystack.length)
  naiveLoop needle haystack haystack.length 0

/-! ## The needle from its end -/

/-- The letters of the needle from its end. -/
def letters (needle : List UInt8) (z : ℕ) : UInt8 := needle.reverse.getD z 0

variable {needle haystack : List UInt8}

theorem getElem?_letters {z : ℕ} (hz : z < needle.length) :
    needle[needle.length - 1 - z]? = some (letters needle z) := by
  have hlt : z < needle.reverse.length := by rwa [List.length_reverse]
  rw [← List.getElem?_reverse hz, letters, List.getD_eq_getElem?_getD,
    List.getElem?_eq_getElem hlt, Option.getD_some]

/-- How far the last `c` of the needle is from its end. -/
def badShift (needle : List UInt8) (c : UInt8) : ℕ := needle.reverse.idxOf c

/-- How far the needle goes from a mismatch with `c`, after its last `l` letters agreed. -/
def advance (needle : List UInt8) (l : ℕ) (c : UInt8) : ℕ :=
  max 1 (max (badShift needle c) (goodShift (letters needle) needle.length l))

/-! ## The first table -/

theorem decr_of_pos {i : ℕ} (hpos : 0 < i) (hlt : i < 2 ^ 64) : decr i = i - 1 := by
  have hcast : (i : ℤ) - 1 = (i - 1 : ℕ) := by omega
  rw [decr, hcast, toSizeT_of_lt (by omega)]

theorem store_eq_some {arr : List ℤ} {i : ℕ} (h : i < arr.length) (x : ℤ) :
    store arr i x = some (arr.set i x) :=
  if_pos h

theorem toNat?_toChar {c : UInt8} (hc : c < 128) : (toChar c).toNat? = some c.toNat := by
  rw [toChar, if_pos hc]
  rfl

theorem toChar_neg {c : UInt8} (hc : ¬ c < 128) : toChar c < 0 := by
  have hlt := c.toNat_lt
  rw [toChar, if_neg hc]
  omega

theorem toNat?_eq_none {z : ℤ} (hz : z < 0) : z.toNat? = none := by
  cases z with
  | ofNat n => exact absurd hz (by simp)
  | negSucc n => rfl

/-- One more letter of the needle. -/
theorem take_succ_reverse {i : ℕ} {c : UInt8} (hc : needle[i]? = some c) :
    (needle.take (i + 1)).reverse = c :: (needle.take i).reverse := by
  rw [List.take_add_one, hc, List.reverse_append]
  rfl

/-- The table holds the last place of each character among the letters that were read. -/
theorem preProcessDelta1_eq_some (hlength : needle.length < 2 ^ 31)
    (hascii : ∀ c ∈ needle, c < 128) {i : ℕ} (hi : i ≤ needle.length) :
    ∃ arr, preProcessDelta1 needle i = some arr ∧ arr.length = 256 ∧
      ∀ c : UInt8, arr[c.toNat]? = some (i - 1 - (needle.take i).reverse.idxOf c : ℤ) := by
  induction i with
  | zero =>
    refine ⟨_, rfl, List.length_replicate, fun c => ?_⟩
    rw [List.getElem?_replicate_of_lt c.toNat_lt]
    rfl
  | succ i ih =>
    obtain ⟨arr, harr, hlen, hentry⟩ := ih (by omega)
    have hget : needle[i]? = some needle[i] := List.getElem?_eq_getElem (by omega)
    have hplace := toNat?_toChar (hascii _ (List.getElem_mem (h := hi)))
    refine ⟨arr.set needle[i].toNat i, ?_, by rw [List.length_set, hlen], fun c => ?_⟩
    · rw [preProcessDelta1, harr, Option.bind_eq_bind, Option.bind_some, hget,
        Option.bind_eq_bind, Option.bind_some, hplace, Option.bind_eq_bind, Option.bind_some,
        toInt_of_lt (by omega), store_eq_some (by rw [hlen]; exact needle[i].toNat_lt)]
    · rw [take_succ_reverse hget, List.idxOf_cons]
      by_cases heq : needle[i] = c
      · rw [← heq, List.getElem?_set_self (by rw [hlen]; exact needle[i].toNat_lt),
          beq_self_eq_true]
        simp
      · rw [List.getElem?_set_ne (fun h => heq (UInt8.toNat_inj.1 h)), hentry,
          beq_eq_false_iff_ne.2 heq]
        simp only [cond_false, Option.some.injEq]
        omega

/-- A negative character of the needle is an index outside of the table. -/
theorem preProcessDelta1_eq_none {i k : ℕ} {c : UInt8} (hc : needle[k]? = some c)
    (hneg : ¬ c < 128) (hk : k < i) : preProcessDelta1 needle i = none := by
  induction i with
  | zero => exact absurd hk (Nat.not_lt_zero k)
  | succ i ih =>
    rcases Nat.lt_succ_iff_lt_or_eq.1 hk with hlt | rfl
    · rw [preProcessDelta1, ih hlt]
      rfl
    · rw [preProcessDelta1, hc]
      simp only [Option.bind_eq_bind, Option.bind_some, toNat?_eq_none (toChar_neg hneg)]
      cases preProcessDelta1 needle k
      · rfl
      · rfl

/-! ## The second table

While the last `ℓ` letters are extended, `j` goes through their periods in increasing order, and an
entry that is still zero belongs to no good shift that could have been seen so far. -/

/-- The entries of `shift` when the periods of `ℓ` letters that are less than `t` were seen. -/
structure ShiftOk (needle : List UInt8) (ℓ t : ℕ) (shift : List ℤ) : Prop where
  length : shift.length = needle.length + 1
  entry : ∀ k ≤ needle.length,
    shift[needle.length - k]? = some 0 ∧
        (∀ u, GoodShift (letters needle) needle.length k u → ℓ ≤ k + u ∧ (k + u = ℓ → t ≤ u)) ∨
      shift[needle.length - k]? = some (goodShift (letters needle) needle.length k : ℤ)

/-- The entries of `pattern` for the suffixes of at most `ℓ` letters. -/
structure PatternOk (needle : List UInt8) (ℓ : ℕ) (pattern : List ℤ) : Prop where
  length : pattern.length = needle.length + 1
  entry : ∀ k ≤ ℓ, ∃ t, IsLeast {t | Period (letters needle) k t} t ∧
    pattern[needle.length - k]? = some ((needle.length - k + t : ℕ) : ℤ)

theorem setShift_zero {shift : List ℤ} {j : ℕ} (h : shift[j]? = some 0) (x : ℤ) :
    setShift shift j x = some (shift.set j x) := by
  have hlt : j < shift.length := (List.getElem?_eq_some_iff.1 h).1
  rw [setShift, h, Option.bind_eq_bind, Option.bind_some, if_pos rfl, store_eq_some hlt]

theorem setShift_of_ne {shift : List ℤ} {j : ℕ} {y : ℤ} (h : shift[j]? = some y) (hy : y ≠ 0)
    (x : ℤ) : setShift shift j x = some shift := by
  rw [setShift, h, Option.bind_eq_bind, Option.bind_some, if_neg hy]

/-- An entry is set to the least good shift, or has it already. -/
theorem ShiftOk.setShift {ℓ t k x : ℕ} {shift : List ℤ} (h : ShiftOk needle ℓ t shift)
    (ℓ' t' : ℕ) (hk : k ≤ needle.length)
    (hleast : shift[needle.length - k]? = some 0 →
      goodShift (letters needle) needle.length k = x)
    (hkeep : ∀ k' u, k' ≤ needle.length → k' ≠ k →
      GoodShift (letters needle) needle.length k' u → ℓ ≤ k' + u → (k' + u = ℓ → t ≤ u) →
      ℓ' ≤ k' + u ∧ (k' + u = ℓ' → t' ≤ u)) :
    ∃ shift', setShift shift (needle.length - k) x = some shift' ∧ ShiftOk needle ℓ' t' shift' := by
  have hpos := goodShift_pos (letters needle) needle.length k
  rcases h.entry k hk with ⟨hzero, -⟩ | hset
  · have hlt : needle.length - k < shift.length := by rw [h.length]; omega
    refine ⟨_, setShift_zero hzero x, by rw [List.length_set, h.length], fun k' hk' => ?_⟩
    by_cases heq : k' = k
    · rw [heq, List.getElem?_set_self hlt, hleast hzero]
      exact .inr rfl
    · rw [List.getElem?_set_ne (by omega)]
      rcases h.entry k' hk' with ⟨hzero', hnone⟩ | hset'
      · exact .inl ⟨hzero', fun u hu => hkeep k' u hk' heq hu (hnone u hu).1 (hnone u hu).2⟩
      · exact .inr hset'
  · refine ⟨shift, setShift_of_ne hset (by omega) x, h.length, fun k' hk' => ?_⟩
    by_cases heq : k' = k
    · rw [heq]
      exact .inr hset
    · rcases h.entry k' hk' with ⟨hzero', hnone⟩ | hset'
      · exact .inl ⟨hzero', fun u hu => hkeep k' u hk' heq hu (hnone u hu).1 (hnone u hu).2⟩
      · exact .inr hset'

theorem PatternOk.next {ℓ k : ℕ} {pattern : List ℤ} (h : PatternOk needle ℓ pattern)
    (hlength : needle.length < 2 ^ 31) (hk : k ≤ ℓ) (hℓ : ℓ ≤ needle.length) :
    ∃ t, IsLeast {t | Period (letters needle) k t} t ∧ t ≤ k + 1 ∧
      next pattern (needle.length - k) = some (needle.length - k + t) := by
  obtain ⟨t, hleast, hentry⟩ := h.entry k hk
  have hle : t ≤ k + 1 := hleast.2 (period_of_le (Nat.succ_pos k) (Nat.le_succ k))
  refine ⟨t, hleast, hle, ?_⟩
  rw [BooyerMoore.next, hentry, Option.map_some, toSizeT_of_lt (by omega)]

/-- A mismatch is at a good shift. -/
theorem goodShift_of_differs {ℓ t : ℕ} (hℓ : ℓ < needle.length) (hle : t ≤ ℓ)
    (hperiod : Period (letters needle) ℓ t) (hdiffers : letters needle ℓ ≠ letters needle (ℓ - t)) :
    GoodShift (letters needle) needle.length (ℓ - t) t := by
  have hend : ℓ - t + t = ℓ := Nat.sub_add_cancel hle
  refine (goodShift_iff_period (by omega)).2 ⟨?_, fun _ => ?_⟩
  · rw [hend]
    exact hperiod
  · rw [hend]
    exact hdiffers

/-- The good shifts beyond a period that goes on are those of the rest. -/
theorem ShiftOk.extend {ℓ t : ℕ} {shift : List ℤ} (h : ShiftOk needle ℓ t shift)
    (hℓ : ℓ < needle.length) (hperiod : Period (letters needle) ℓ t)
    (heq : t ≤ ℓ → letters needle ℓ = letters needle (ℓ - t)) :
    ShiftOk needle (ℓ + 1) 0 shift := by
  refine ⟨h.length, fun k hk => ?_⟩
  rcases h.entry k hk with ⟨hzero, hnone⟩ | hset
  · refine .inl ⟨hzero, fun u hu => ⟨?_, fun _ => Nat.zero_le u⟩⟩
    obtain ⟨hge, hend⟩ := hnone u hu
    by_contra hlt
    have hat : k + u = ℓ := by omega
    have htu : t ≤ u := hend hat
    obtain ⟨hu', hdiffers⟩ := (goodShift_iff_period (by omega)).1 hu
    rw [hat] at hu' hdiffers
    rw [heq (by omega)] at hdiffers
    rcases Nat.eq_or_lt_of_le htu with rfl | htu
    · exact hdiffers hℓ (congrArg _ (by omega))
    · have hplace : k + (u - t) = ℓ - t := by omega
      have hrest : GoodShift (letters needle) needle.length k (u - t) := by
        refine (goodShift_iff_period (by omega)).2 ⟨?_, fun _ => ?_⟩
        · rw [hplace]
          exact (hperiod.sub_iff htu).1 hu'
        · rw [hplace]
          exact hdiffers hℓ
      have hge' := (hnone _ hrest).1
      have hpos := hperiod.pos
      omega
  · exact .inr hset

/-- The entry of a mismatch is set, and the loop goes on with the next period. -/
theorem ShiftOk.next {ℓ t u : ℕ} {shift : List ℤ} (h : ShiftOk needle ℓ t shift)
    (hlength : needle.length < 2 ^ 31) (hℓ : ℓ < needle.length) (hle : t ≤ ℓ)
    (hgood : GoodShift (letters needle) needle.length (ℓ - t) t)
    (hnext : IsLeast {t' | t < t' ∧ Period (letters needle) ℓ t'} u) :
    ∃ shift', BooyerMoore.setShift shift (needle.length - ℓ + t)
        (toInt ((needle.length - ℓ + t : ℕ) - (needle.length - ℓ : ℕ))) = some shift' ∧
      ShiftOk needle ℓ u shift' := by
  have hplace : needle.length - ℓ + t = needle.length - (ℓ - t) := by omega
  have hstored : toInt ((needle.length - ℓ + t : ℕ) - (needle.length - ℓ : ℕ)) = (t : ℤ) := by
    rw [← toInt_of_lt (show t < 2 ^ 31 by omega)]
    congr 1
    omega
  rw [hstored, hplace]
  refine h.setShift ℓ u (by omega) (fun hzero => ?_) (fun k v hk hne hv hge hend => ?_)
  · -- what is not set yet has no smaller good shift
    refine goodShift_eq ⟨hgood, fun v hv => ?_⟩
    rcases h.entry (ℓ - t) (by omega) with ⟨-, hnone⟩ | hset
    · by_contra hlt
      have hge := (hnone v hv).1
      omega
    · rw [hset] at hzero
      have hpos := goodShift_pos (letters needle) needle.length (ℓ - t)
      have hzero := Option.some.inj hzero
      omega
  · refine ⟨hge, fun hat => hnext.2 ⟨?_, ?_⟩⟩
    · have hle' := hend hat
      omega
    · have hv' := ((goodShift_iff_period (by omega)).1 hv).1
      rwa [hat] at hv'

/-- The inner loop finds the least period of one letter more. -/
theorem extendBorder_eq_some {ℓ : ℕ} {pattern : List ℤ} (hlength : needle.length < 2 ^ 31 - 1)
    (hℓ : ℓ < needle.length) (hpattern : PatternOk needle ℓ pattern) {t : ℕ} {shift : List ℤ}
    (fuel : ℕ) (hfuel : ℓ + 1 < fuel + t) (hperiod : Period (letters needle) ℓ t) (hle : t ≤ ℓ + 1)
    (hleast : ∀ u, Period (letters needle) (ℓ + 1) u → t ≤ u) (hshift : ShiftOk needle ℓ t shift) :
    ∃ t' shift', extendBorder needle pattern (needle.length - ℓ) fuel (needle.length - ℓ + t) shift
        = some (needle.length - ℓ + t', shift') ∧
      IsLeast {u | Period (letters needle) (ℓ + 1) u} t' ∧ t' ≤ ℓ + 1 ∧
      ShiftOk needle (ℓ + 1) 0 shift' := by
  induction fuel generalizing t shift with
  | zero => exact absurd hfuel (by omega)
  | succ fuel ih =>
    have hpos := hperiod.pos
    by_cases hj : needle.length - ℓ + t < needle.length + 1
    · have hplace : needle.length - ℓ + t = needle.length - (ℓ - t) := by omega
      have hone : needle[decr (needle.length - ℓ)]? = some (letters needle ℓ) := by
        rw [decr_of_pos (by omega) (by omega), Nat.sub_right_comm]
        exact getElem?_letters hℓ
      have htwo : needle[decr (needle.length - ℓ + t)]? = some (letters needle (ℓ - t)) := by
        rw [hplace, decr_of_pos (by omega) (by omega), Nat.sub_right_comm]
        exact getElem?_letters (by omega)
      rw [extendBorder, if_pos hj, hone, htwo]
      simp only [Option.bind_eq_bind, Option.bind_some]
      by_cases heq : letters needle ℓ = letters needle (ℓ - t)
      · rw [if_pos heq]
        refine ⟨t, shift, rfl, ⟨?_, fun u hu => hleast u hu⟩, hle,
          hshift.extend hℓ hperiod fun _ => heq⟩
        exact period_succ_iff.2 ⟨hperiod, fun _ => heq⟩
      · obtain ⟨u, hu, hule, hj'⟩ :=
          hpattern.next (by omega) (Nat.sub_le ℓ t) (Nat.le_of_lt hℓ)
        have hnext := hperiod.isLeast_next hu
        have hgood := goodShift_of_differs hℓ (by omega) hperiod heq
        obtain ⟨shift', hset, hshift'⟩ := hshift.next (by omega) hℓ (by omega) hgood hnext
        rw [if_neg heq, hset, Option.bind_some, hplace, hj', Option.bind_some, ← hplace,
          Nat.add_assoc]
        refine ih (by have := hu.1.pos; omega) hnext.1.2 (by omega) (fun v hv => ?_) hshift'
        -- the mismatch says that the period does not go on
        obtain ⟨hv', hlast⟩ := period_succ_iff.1 hv
        refine hnext.2 ⟨Nat.lt_of_le_of_ne (hleast v hv) ?_, hv'⟩
        rintro rfl
        exact heq (hlast (by omega))
    · rw [extendBorder, if_neg hj]
      refine ⟨t, shift, rfl, ⟨?_, fun u hu => hleast u hu⟩, hle,
        hshift.extend hℓ hperiod fun h => absurd h (by omega)⟩
      exact period_of_le hpos (by omega)

/-- The outer loop finds the least periods of all of the suffixes. -/
theorem borders_eq_some (hlength : needle.length < 2 ^ 31 - 1) {fuel i j ℓ t : ℕ}
    (hfuel : needle.length < fuel) {shift pattern : List ℤ} (hi : i + ℓ = needle.length)
    (hj : j = i + t) (hleast : IsLeast {u | Period (letters needle) ℓ u} t) (hle : t ≤ ℓ + 1)
    (hshift : ShiftOk needle ℓ 0 shift) (hpattern : PatternOk needle ℓ pattern) :
    ∃ shift' pattern', borders needle fuel i j shift pattern = some (shift', pattern') ∧
      ShiftOk needle needle.length 0 shift' ∧ PatternOk needle needle.length pattern' := by
  induction i generalizing j ℓ t shift pattern with
  | zero =>
    rw [Nat.zero_add] at hi
    rw [← hi]
    exact ⟨shift, pattern, rfl, by rwa [hi] at hshift ⊢, by rwa [hi] at hpattern ⊢⟩
  | succ i ih =>
    have hpos := hleast.1.pos
    have hat : needle.length - ℓ = i + 1 := by omega
    -- no period of one letter more is less than the least one
    have hshift' : ShiftOk needle ℓ t shift := by
      refine ⟨hshift.length, fun k hk => ?_⟩
      rcases hshift.entry k hk with ⟨hzero, hnone⟩ | hset
      · refine .inl ⟨hzero, fun u hu => ⟨(hnone u hu).1, fun hend => hleast.2 ?_⟩⟩
        have hu' := ((goodShift_iff_period (by omega)).1 hu).1
        rwa [hend] at hu'
      · exact .inr hset
    obtain ⟨t', shift', hextend, hleast', hle', hok⟩ :=
      extendBorder_eq_some hlength (by omega) hpattern fuel (by omega) hleast.1 hle
        (fun u hu => hleast.2 (period_succ_iff.1 hu).1) hshift'
    rw [hat] at hextend
    have hdecr : decr (i + 1 + t') = i + t' := by
      rw [decr_of_pos (by omega) (by omega)]
      omega
    rw [borders, hj, hextend]
    simp only [Option.bind_eq_bind, Option.bind_some, hdecr]
    rw [store_eq_some (by rw [hpattern.length]; omega), Option.bind_some]
    refine ih (by omega) rfl hleast' (by omega) hok ⟨?_, fun k hk => ?_⟩
    · rw [List.length_set, hpattern.length]
    · by_cases heq : k = ℓ + 1
      · refine ⟨t', by rwa [heq], ?_⟩
        have hplace : needle.length - k = i := by omega
        rw [hplace, List.getElem?_set_self (by rw [hpattern.length]; omega),
          toInt_of_lt (by omega)]
      · obtain ⟨u, hu, hentry⟩ := hpattern.entry k (by omega)
        refine ⟨u, hu, ?_⟩
        rw [List.getElem?_set_ne (by omega)]
        exact hentry

/-- The entries of `shift` when those before `i` were filled. -/
structure FillOk (needle : List UInt8) (i : ℕ) (shift : List ℤ) : Prop where
  length : shift.length = needle.length + 1
  entry : ∀ k ≤ needle.length,
    shift[needle.length - k]? = some (goodShift (letters needle) needle.length k : ℤ) ∨
      i ≤ needle.length - k ∧ shift[needle.length - k]? = some 0 ∧
        ∀ u, GoodShift (letters needle) needle.length k u → needle.length ≤ k + u

/-- An entry that is left is set to the least period that is as long. -/
theorem FillOk.setShift {i j : ℕ} {shift : List ℤ} (h : FillOk needle i shift)
    (hi : i ≤ needle.length) (hlt : j < 2 ^ 31)
    (hj : IsLeast {u | i ≤ u ∧ Period (letters needle) needle.length u} j) :
    ∃ shift', BooyerMoore.setShift shift i (toInt j) = some shift' ∧
      FillOk needle (i + 1) shift' := by
  have hat : needle.length - (needle.length - i) = i := Nat.sub_sub_self hi
  rw [toInt_of_lt hlt]
  rcases h.entry (needle.length - i) (Nat.sub_le _ _) with hdone | ⟨-, hzero, hnone⟩
  · rw [hat] at hdone
    have hpos := goodShift_pos (letters needle) needle.length (needle.length - i)
    refine ⟨shift, setShift_of_ne hdone (by omega) _, h.length, fun k hk => ?_⟩
    by_cases heq : k = needle.length - i
    · rw [heq, hat]
      exact .inl hdone
    · refine (h.entry k hk).imp_right fun hleft => ⟨?_, hleft.2⟩
      have hle := hleft.1
      omega
  · rw [hat] at hzero
    have hlen := h.length
    refine ⟨_, setShift_zero hzero _, by rw [List.length_set, hlen], fun k hk => ?_⟩
    by_cases heq : k = needle.length - i
    · have hgood : goodShift (letters needle) needle.length k = j := by
        rw [heq]
        refine goodShift_eq ⟨?_, fun u hu => ?_⟩
        · have hle := hj.1.1
          exact (goodShift_iff_period_of_le (by omega)).2 hj.1.2
        · have hle := hnone u hu
          exact hj.2 ⟨by omega, (goodShift_iff_period_of_le hle).1 hu⟩
      rw [hgood, heq, hat, List.getElem?_set_self (by omega)]
      exact .inl rfl
    · rw [List.getElem?_set_ne (by omega)]
      refine (h.entry k hk).imp_right fun hleft => ⟨?_, hleft.2⟩
      have hle := hleft.1
      omega

theorem PatternOk.nextIf {i j : ℕ} {pattern : List ℤ} (h : PatternOk needle needle.length pattern)
    (hlength : needle.length < 2 ^ 31) (hi : i ≤ needle.length)
    (hj : IsLeast {u | i ≤ u ∧ Period (letters needle) needle.length u} j) :
    ∃ j', BooyerMoore.nextIf pattern i j = some j' ∧
      IsLeast {u | i + 1 ≤ u ∧ Period (letters needle) needle.length u} j' := by
  by_cases heq : j = i
  · obtain ⟨u, hu, -, hnext⟩ := h.next hlength (Nat.sub_le needle.length i) le_rfl
    rw [Nat.sub_sub_self hi] at hnext
    refine ⟨i + u, by rw [BooyerMoore.nextIf, if_pos heq, heq, hnext], ?_⟩
    rw [heq] at hj
    exact hj.1.2.isLeast_next hu
  · refine ⟨j, by rw [BooyerMoore.nextIf, if_neg heq], ⟨?_, hj.1.2⟩, fun u hu => ?_⟩
    · exact Nat.lt_of_le_of_ne hj.1.1 fun h => heq h.symm
    · exact hj.2 ⟨Nat.le_of_succ_le hu.1, hu.2⟩

/-- The second case fills all of the entries. -/
theorem fillShift_eq_some (hlength : needle.length < 2 ^ 31 - 1) {pattern : List ℤ}
    (hpattern : PatternOk needle needle.length pattern) {rounds i j : ℕ} {shift : List ℤ}
    (hi : i + rounds = needle.length + 1)
    (hj : IsLeast {u | i ≤ u ∧ Period (letters needle) needle.length u} j)
    (hshift : FillOk needle i shift) :
    ∃ shift', fillShift pattern rounds i j shift = some shift' ∧
      ∀ k ≤ needle.length,
        shift'[needle.length - k]? = some (goodShift (letters needle) needle.length k : ℤ) := by
  induction rounds generalizing i j shift with
  | zero =>
    refine ⟨shift, rfl, fun k hk => ?_⟩
    rcases hshift.entry k hk with hdone | ⟨hle, -, -⟩
    · exact hdone
    · exact absurd hle (by omega)
  | succ rounds ih =>
    have hle : j ≤ needle.length + 1 :=
      hj.2 ⟨by omega, period_of_le (Nat.succ_pos _) (Nat.le_succ _)⟩
    obtain ⟨shift', hset, hshift'⟩ := hshift.setShift (by omega) (by omega) hj
    obtain ⟨j', hnext, hj'⟩ := hpattern.nextIf (by omega) (by omega) hj
    rw [fillShift, hset, Option.bind_eq_bind, Option.bind_some, hnext, Option.bind_eq_bind,
      Option.bind_some]
    exact ih (by omega) hj' hshift'

/-- The table holds the least good shifts. -/
theorem preProcessDelta2_eq_some (hlength : needle.length < 2 ^ 31 - 1) {fuel : ℕ}
    (hfuel : needle.length < fuel) :
    ∃ d2, preProcessDelta2 needle fuel = some d2 ∧
      ∀ k ≤ needle.length,
        d2[needle.length - k]? = some (goodShift (letters needle) needle.length k : ℤ) := by
  have hempty : IsLeast {u | Period (letters needle) 0 u} 1 :=
    ⟨period_of_le Nat.one_pos (Nat.zero_le 1), fun u hu => hu.pos⟩
  have hshift : ShiftOk needle 0 0 (List.replicate (needle.length + 1) 0) := by
    refine ⟨List.length_replicate, fun k hk => .inl ⟨?_, fun u hu => ?_⟩⟩
    · exact List.getElem?_replicate_of_lt (by omega)
    · exact ⟨Nat.zero_le _, fun _ => Nat.zero_le _⟩
  have hpattern : PatternOk needle 0
      ((List.replicate (needle.length + 1) 0).set needle.length (needle.length + 1 : ℕ)) := by
    refine ⟨by rw [List.length_set, List.length_replicate], fun k hk => ⟨1, ?_, ?_⟩⟩
    · rwa [Nat.le_zero.1 hk]
    · rw [Nat.le_zero.1 hk, Nat.sub_zero,
        List.getElem?_set_self (by rw [List.length_replicate]; omega)]
  obtain ⟨shift, pattern, hborders, hshift', hpattern'⟩ := borders_eq_some hlength hfuel
    (Nat.add_zero _) (Eq.refl (needle.length + 1)) hempty le_rfl hshift hpattern
  obtain ⟨t, ht, -, hnext⟩ := hpattern'.next (by omega) le_rfl le_rfl
  rw [Nat.sub_self, Nat.zero_add] at hnext
  have hfill : FillOk needle 0 shift := by
    refine ⟨hshift'.length, fun k hk => ?_⟩
    rcases hshift'.entry k hk with ⟨hzero, hnone⟩ | hdone
    · exact .inr ⟨Nat.zero_le _, hzero, fun u hu => (hnone u hu).1⟩
    · exact .inl hdone
  obtain ⟨d2, hd2, hentry⟩ := fillShift_eq_some hlength hpattern' (Nat.zero_add _)
    ⟨⟨Nat.zero_le t, ht.1⟩, fun u hu => ht.2 hu.2⟩ hfill
  refine ⟨d2, ?_, hentry⟩
  have hstored : toInt (needle.length + 1) = (needle.length + 1 : ℕ) := by
    rw [← toInt_of_lt (show needle.length + 1 < 2 ^ 31 by omega)]
    rfl
  rw [preProcessDelta2, hstored,
    store_eq_some (by rw [List.length_replicate]; exact Nat.lt_succ_self _)]
  simp only [Option.bind_eq_bind, Option.bind_some, hborders, hnext, hd2]

/-! ## More fuel -/

theorem extendBorder_mono {pattern : List ℤ} {i j fuel fuel' : ℕ} {shift : List ℤ}
    {res : ℕ × List ℤ} (hle : fuel ≤ fuel')
    (h : extendBorder needle pattern i fuel j shift = some res) :
    extendBorder needle pattern i fuel' j shift = some res := by
  induction fuel generalizing fuel' j shift with
  | zero => cases h
  | succ fuel ih =>
    obtain ⟨fuel', rfl⟩ : ∃ k, fuel' = k + 1 := ⟨fuel' - 1, by omega⟩
    rw [extendBorder] at h ⊢
    by_cases hj : j < needle.length + 1
    · rw [if_pos hj] at h ⊢
      simp only [Option.bind_eq_bind, Option.bind_eq_some_iff] at h ⊢
      obtain ⟨c, hc, c', hc', h⟩ := h
      refine ⟨c, hc, c', hc', ?_⟩
      by_cases heq : c = c'
      · rw [if_pos heq] at h ⊢
        exact h
      · rw [if_neg heq, Option.bind_eq_some_iff] at h ⊢
        obtain ⟨shift', hshift', h⟩ := h
        obtain ⟨j', hj', h⟩ := Option.bind_eq_some_iff.1 h
        exact ⟨shift', hshift', Option.bind_eq_some_iff.2 ⟨j', hj', ih (by omega) h⟩⟩
    · rw [if_neg hj] at h ⊢
      exact h

theorem borders_mono {i j fuel fuel' : ℕ} {shift pattern : List ℤ} {res : List ℤ × List ℤ}
    (hle : fuel ≤ fuel') (h : borders needle fuel i j shift pattern = some res) :
    borders needle fuel' i j shift pattern = some res := by
  induction i generalizing j shift pattern with
  | zero => exact h
  | succ i ih =>
    rw [borders] at h ⊢
    simp only [Option.bind_eq_bind, Option.bind_eq_some_iff] at h ⊢
    obtain ⟨found, hfound, pattern', hpattern', h⟩ := h
    exact ⟨found, extendBorder_mono hle hfound, pattern', hpattern', ih h⟩

theorem preProcessDelta2_mono {fuel fuel' : ℕ} {d2 : List ℤ} (hle : fuel ≤ fuel')
    (h : preProcessDelta2 needle fuel = some d2) : preProcessDelta2 needle fuel' = some d2 := by
  rw [preProcessDelta2] at h ⊢
  simp only [Option.bind_eq_bind, Option.bind_eq_some_iff] at h ⊢
  obtain ⟨pattern, hpattern, found, hfound, h⟩ := h
  exact ⟨pattern, hpattern, found, borders_mono hle hfound, h⟩

/-- The two tables of the needle. -/
structure Tables (needle : List UInt8) (d1 d2 : List ℤ) : Prop where
  length : d1.length = 256
  bad : ∀ c : UInt8, d1[c.toNat]? = some (needle.length - 1 - badShift needle c : ℤ)
  good : ∀ k ≤ needle.length,
    d2[needle.length - k]? = some (goodShift (letters needle) needle.length k : ℤ)

/-- With enough fuel the tables are those of the needle. -/
theorem exists_tables (hlength : needle.length < 2 ^ 31 - 1) (hascii : ∀ c ∈ needle, c < 128) :
    ∃ d1 d2, Tables needle d1 d2 ∧ preProcessDelta1 needle needle.length = some d1 ∧
      ∀ fuel, needle.length < fuel → preProcessDelta2 needle fuel = some d2 := by
  obtain ⟨d1, hd1, hlen, hbad⟩ := preProcessDelta1_eq_some (by omega) hascii le_rfl
  obtain ⟨d2, hd2, hgood⟩ := preProcessDelta2_eq_some hlength (Nat.lt_succ_self _)
  rw [List.take_length] at hbad
  exact ⟨d1, d2, ⟨hlen, hbad, hgood⟩, hd1, fun fuel hfuel => preProcessDelta2_mono hfuel hd2⟩

end BooyerMoore

end FlexRic
