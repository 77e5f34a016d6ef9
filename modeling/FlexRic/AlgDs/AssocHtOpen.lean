import FlexRic.Semantics.Buffer
import FlexRic.Semantics.Codec
import FlexRic.Semantics.Probing
import Mathlib.Algebra.Ring.Nat

/-!
# The hash table with open addressing (`assoc_container/assoc_ht_open_address.c`)

The table over any keys with an equality and a hash that respects it, and the hash of the keys that
are bytes (`alg/murmur_hash_32.c`). A failing assertion and an access outside of the array are
`none`; there is always memory for another array.

A removed entry stays dirty, so that the ways over it to other entries stay. The invariant is that
every entry is reached from the place that its hash asks for over dirty entries. The counters and
the capacity have 32 bits: at the capacity `2 ^ 31` the table cannot grow any more.
-/

namespace FlexRic

/-! ## The hash -/

/-- `murmur_32_scramble`. -/
def murmur32Scramble (k : UInt32) : UInt32 :=
  let k := k * 0xcc9e2d51
  let k := (k <<< 15) ||| (k >>> 17)
  k * 0x1b873593

/-- The loop of `murmur3_32` over the groups of four, and what is left. The bytes of a group are a
number with the lowest byte first. -/
def murmur3Groups : UInt32 → List UInt8 → UInt32 × List UInt8
  | h, b₀ :: b₁ :: b₂ :: b₃ :: key =>
    let k := b₀.toUInt32 ||| b₁.toUInt32 <<< 8 ||| b₂.toUInt32 <<< 16 ||| b₃.toUInt32 <<< 24
    let h := h ^^^ murmur32Scramble k
    let h := (h <<< 13) ||| (h >>> 19)
    murmur3Groups (h * 5 + 0xe6546b64) key
  | h, key => (h, key)

/-- `murmur3_32`. -/
def murmur3 (key : List UInt8) (seed : UInt32) : UInt32 :=
  let (h, rest) := murmur3Groups seed key
  let k : UInt32 := rest.foldr (fun b k => k <<< 8 ||| b.toUInt32) 0
  let h := h ^^^ murmur32Scramble k
  let h := h ^^^ UInt32.ofNat key.length
  let h := (h ^^^ h >>> 16) * 0x85ebca6b
  let h := (h ^^^ h >>> 13) * 0xc2b2ae35
  h ^^^ h >>> 16

/-- `hash_func`: of the first four bytes. -/
def hashFunc (key : List UInt8) : UInt32 := murmur3 (key.take 4) 42

/-! ## The table -/

/-- `hentry_t`. -/
structure Hentry (K V : Type) : Type where
  key : K
  value : V
  hash : UInt32
  isDirty : Bool
  hasValue : Bool
  deriving DecidableEq, Repr

/-- An entry of zeroed memory. -/
instance {K V : Type} [Inhabited K] [Inhabited V] : Inhabited (Hentry K V) :=
  ⟨⟨default, default, 0, false, false⟩⟩

/-- `assoc_ht_open_t`, without the size of the keys and the functions. -/
structure AssocHtOpen (K V : Type) : Type where
  arr : List (Hentry K V)
  sz : ℕ
  cap : ℕ
  numDirty : ℕ
  deriving DecidableEq, Repr

namespace AssocHtOpen

variable {K V : Type}

/-- `MIN_SIZE_HT`. -/
def minSizeHt : ℕ := 16

section Operations

variable (keyEq : K → K → Bool) (hash : K → UInt32) (t : AssocHtOpen K V)

/-- What the loops of `find_idx` and `find_entry` end at. -/
def stops (key : K) (e : Hentry K V) : Bool :=
  e.isDirty == false || e.hasValue == true && keyEq key e.key == true

/-- `find_idx`. -/
def findIdx (key : K) (h : UInt32) : Option ℕ :=
  probe (stops keyEq key) t.arr t.cap (h.toNat % t.cap) t.cap (h.toNat % t.cap)

/-- `find_entry`, with the place of the entry. Its loop is the one of `find_idx`. -/
def findEntry (key : K) : Option (Option (ℕ × Hentry K V)) := do
  let idx ← t.findIdx keyEq key (hash key)
  let entry ← t.arr[idx]?
  if entry.isDirty = false then
    assert (entry.hasValue = false)
    some none
  else some (some (idx, entry))

variable [Inhabited K] [Inhabited V]

/-- `assoc_ht_open_init`. -/
def init : AssocHtOpen K V where
  arr := List.replicate minSizeHt default
  sz := 0
  cap := minSizeHt
  numDirty := 0

/-- The loop of `rehash_table` over the entries of the old array. -/
def rehashLoop : List (Hentry K V) → AssocHtOpen K V → Option (AssocHtOpen K V)
  | [], t => some t
  | e :: es, t =>
    if e.hasValue then do
      assert e.isDirty
      let idxNew ← t.findIdx keyEq e.key e.hash
      let arr ← Buffer.store t.arr idxNew e
      rehashLoop es { t with arr := arr, numDirty := t.numDirty + 1 }
    else rehashLoop es t

/-- `rehash_table`. -/
def rehashTable (cap : ℕ) : Option (AssocHtOpen K V) := do
  let newArr ← Buffer.calloc true cap
  rehashLoop keyEq t.arr { t with arr := newArr, cap := cap, numDirty := 0 }

/-- The choice of `expand_or_shrink_if_neccesary`. -/
def rehashIfNecessary : Option (AssocHtOpen K V) :=
  if t.cap < t.numDirty * 2 % 2 ^ 32 then t.rehashTable keyEq (t.cap * 2 % 2 ^ 32)
  else if t.sz * 4 % 2 ^ 32 < t.cap ∧ minSizeHt < t.cap then t.rehashTable keyEq (t.cap / 2)
  else some t

/-- `expand_or_shrink_if_neccesary`. -/
def expandOrShrinkIfNecessary : Option (AssocHtOpen K V) := do
  let t ← t.rehashIfNecessary keyEq
  assert (t.sz * 2 % 2 ^ 32 ≤ t.cap)
  assert (t.numDirty * 2 % 2 ^ 32 ≤ t.cap)
  some t

/-- `assoc_ht_open_insert`. -/
def insert (key : K) (value : V) : Option (AssocHtOpen K V) := do
  let t ← t.expandOrShrinkIfNecessary keyEq
  assert (t.numDirty * 2 % 2 ^ 32 ≤ t.cap)
  let idx ← t.findIdx keyEq key (hash key)
  assert (idx < t.cap)
  let entry ← t.arr[idx]?
  let (keyDst, sz) ←
    (if entry.hasValue = true then do
      assert (entry.isDirty = true)
      assert (keyEq key entry.key = true)
      some (entry.key, t.sz)
    else some (key, t.sz + 1))
  let arr ← Buffer.store t.arr idx
    { key := keyDst, value := value, hash := hash key, isDirty := true, hasValue := true }
  some { t with
    arr := arr
    sz := sz
    numDirty := if entry.isDirty = false then t.numDirty + 1 else t.numDirty }

/-- `remove_value_htab`. -/
def removeValue (key : K) : Option (AssocHtOpen K V) := do
  let t ← t.expandOrShrinkIfNecessary keyEq
  assert (t.numDirty * 2 % 2 ^ 32 ≤ t.cap)
  match ← t.findEntry keyEq hash key with
  | none => some t
  | some (idx, entry) => do
    assert (entry.isDirty = true ∧ entry.hasValue = true)
    let arr ← Buffer.store t.arr idx { entry with hasValue := false }
    some { t with arr := arr, sz := t.sz - 1 }

/-- `assoc_ht_open_value`. -/
def value (key : K) : Option (Option V) := do
  let entry ← t.findEntry keyEq hash key
  some (entry.map fun (_, entry) => entry.value)

/-- `assoc_ht_open_size`. -/
def size : ℕ := t.sz

end Operations

/-! ## What the table holds -/

/-- An equality of keys, and a hash that does not tell equal keys apart. -/
structure LawfulHash (keyEq : K → K → Bool) (hash : K → UInt32) : Prop where
  refl : ∀ a, keyEq a a = true
  symm : ∀ a b, keyEq a b = true → keyEq b a = true
  trans : ∀ a b c, keyEq a b = true → keyEq b c = true → keyEq a c = true
  hash : ∀ a b, keyEq a b = true → hash a = hash b

/-- The live entries of an array are reached, and no key is stored twice. -/
structure Chained (keyEq : K → K → Bool) (hash : K → UInt32) (arr : List (Hentry K V)) : Prop where
  /-- a live entry is dirty -/
  dirty : ∀ e ∈ arr, e.hasValue = true → e.isDirty = true
  /-- its hash is the one of its key -/
  hash : ∀ e ∈ arr, e.hasValue = true → e.hash = hash e.key
  /-- it is reached from the place that the hash asks for over dirty entries -/
  chain : ∀ (i : ℕ) e, arr[i]? = some e → e.hasValue = true →
    Reaches (fun e => e.isDirty = true) arr arr.length (e.hash.toNat % arr.length) i
  /-- its key is at no other place -/
  unique : ∀ (i j : ℕ) e e', arr[i]? = some e → arr[j]? = some e' → e.hasValue = true →
    e'.hasValue = true → keyEq e.key e'.key = true → i = j

/-- What every operation keeps. -/
structure WF (keyEq : K → K → Bool) (hash : K → UInt32) (t : AssocHtOpen K V) : Prop where
  /-- the array has the capacity -/
  length : t.arr.length = t.cap
  /-- which is a power of two, of at most 32 bits -/
  cap : ∃ k ≤ 27, t.cap = minSizeHt * 2 ^ k
  chained : Chained keyEq hash t.arr
  /-- the size counts the live entries -/
  sz : t.sz = t.arr.countP Hentry.hasValue
  /-- and the other counter the dirty ones -/
  numDirty : t.numDirty = t.arr.countP Hentry.isDirty
  /-- at most half of the entries are dirty, or one more -/
  room : t.numDirty * 2 ≤ t.cap + 2

/-! ## The search -/

variable {keyEq : K → K → Bool} {hash : K → UInt32} {arr : List (Hentry K V)} {key : K} {i : ℕ}
  {old new : Hentry K V}

theorem stops_eq_false {e : Hentry K V} : stops keyEq key e = false ↔
    e.isDirty = true ∧ ¬(e.hasValue = true ∧ keyEq key e.key = true) := by
  simp [stops]

/-- The place for a key: the one of its entry, or a clean one. -/
structure Slot (keyEq : K → K → Bool) (hash : K → UInt32) (arr : List (Hentry K V)) (key : K)
    (i : ℕ) (e : Hentry K V) : Prop where
  entry : arr[i]? = some e
  /-- a live entry has the key -/
  own : e.hasValue = true → keyEq key e.key = true
  /-- and another one is clean -/
  clean : e.hasValue = false → e.isDirty = false
  /-- the key is at no other place -/
  others : ∀ (j : ℕ) e', j ≠ i → arr[j]? = some e' → e'.hasValue = true →
    keyEq key e'.key = false
  reached : Reaches (fun e => e.isDirty = true) arr arr.length ((hash key).toNat % arr.length) i

/-- On the way to the entry of a key nothing stops the search. -/
theorem Chained.reaches (hlaw : LawfulHash keyEq hash) (h : Chained keyEq hash arr)
    {e : Hentry K V} (he : arr[i]? = some e) (hlive : e.hasValue = true)
    (hkey : keyEq key e.key = true) :
    Slot keyEq hash arr key i e ∧
      Reaches (fun e => stops keyEq key e = false) arr arr.length
        ((hash key).toNat % arr.length) i := by
  have hmem := List.mem_of_getElem? he
  have hhash : e.hash = hash key := (h.hash e hmem hlive).trans (hlaw.hash _ _ hkey).symm
  have hchain := h.chain i e he hlive
  rw [hhash] at hchain
  have hothers : ∀ (j : ℕ) e', j ≠ i → arr[j]? = some e' → e'.hasValue = true →
      keyEq key e'.key = false := by
    intro j e' hne he' hlive'
    refine Bool.eq_false_iff.2 fun hkey' => hne ?_
    exact h.unique j i e' e he' he hlive' hlive
      (hlaw.trans _ _ _ (hlaw.symm _ _ hkey') hkey)
  refine ⟨⟨he, fun _ => hkey, fun hnot => ?_, hothers, hchain⟩, ?_⟩
  · rw [hlive] at hnot
    cases hnot
  · obtain ⟨d, hd, hi, hgo⟩ := hchain
    have hstart : (hash key).toNat % arr.length < arr.length :=
      Nat.mod_lt _ (Nat.zero_lt_of_lt hd)
    refine ⟨d, hd, hi, fun d' hd' => ?_⟩
    obtain ⟨e', he', hdirty⟩ := hgo d' hd'
    refine ⟨e', he', stops_eq_false.2 ⟨hdirty, fun ⟨hlive', hkey'⟩ => ?_⟩⟩
    -- the key is at its own place only
    have hne : ((hash key).toNat % arr.length + d') % arr.length ≠ i := fun heq =>
      Nat.ne_of_lt hd' (Probing.place_inj hstart (Nat.lt_trans hd' hd) hd (heq.trans hi.symm))
    rw [hothers _ e' hne he' hlive'] at hkey'
    cases hkey'

/-- If there is a clean place, the search ends at the place for the key. -/
theorem Chained.probe (hlaw : LawfulHash keyEq hash) (h : Chained keyEq hash arr)
    (hclean : ∃ e ∈ arr, e.isDirty = false) (key : K) :
    ∃ i e, FlexRic.probe (stops keyEq key) arr arr.length ((hash key).toNat % arr.length)
      arr.length ((hash key).toNat % arr.length) = some i ∧ Slot keyEq hash arr key i e := by
  have hstart : (hash key).toNat % arr.length < arr.length := by
    obtain ⟨e, he, -⟩ := hclean
    exact Nat.mod_lt _ (List.length_pos_of_mem he)
  by_cases hex : ∃ e ∈ arr, e.hasValue = true ∧ keyEq key e.key = true
  · obtain ⟨e, he, hlive, hkey⟩ := hex
    obtain ⟨i, hi⟩ := List.mem_iff_getElem?.1 he
    obtain ⟨hslot, hreach⟩ := h.reaches hlaw hi hlive hkey
    refine ⟨i, e, hreach.probe_eq hstart hi ?_, hslot⟩
    simp [stops, hlive, hkey]
  · have hnone : ∀ e ∈ arr, e.hasValue = true → keyEq key e.key = false := fun e he hlive =>
      Bool.eq_false_iff.2 fun hkey => hex ⟨e, he, hlive, hkey⟩
    obtain ⟨e₀, he₀, hclean₀⟩ := hclean
    have hstop₀ : stops keyEq key e₀ = true := by simp [stops, hclean₀]
    obtain ⟨i, e, hprobe, he, hstop, hreach⟩ := exists_probe_eq rfl hstart ⟨e₀, he₀, hstop₀⟩
    have hmem := List.mem_of_getElem? he
    have hnotdirty : e.isDirty = false := by
      by_contra hdirty
      refine Bool.eq_false_iff.1 (stops_eq_false.2 ⟨eq_true_of_ne_false hdirty, ?_⟩) hstop
      rintro ⟨hlive, hkey⟩
      rw [hnone e hmem hlive] at hkey
      cases hkey
    refine ⟨i, e, hprobe, he, fun hlive => ?_, fun _ => hnotdirty, fun j e' _ he' hlive' => ?_, ?_⟩
    · rw [h.dirty e hmem hlive] at hnotdirty
      cases hnotdirty
    · exact hnone e' (List.mem_of_getElem? he') hlive'
    · exact hreach.mono fun e he => (stops_eq_false.1 he).1

/-! ## Changes of an entry -/

/-- An entry of an array with one entry replaced. -/
theorem of_getElem?_set {j : ℕ} {e : Hentry K V} (h : (arr.set i new)[j]? = some e) :
    j = i ∧ e = new ∨ j ≠ i ∧ arr[j]? = some e := by
  by_cases heq : i = j
  · subst heq
    have hlt := (List.getElem?_eq_some_iff.1 h).1
    rw [List.length_set] at hlt
    rw [List.getElem?_set_self hlt] at h
    exact .inl ⟨rfl, (Option.some.inj h).symm⟩
  · rw [List.getElem?_set_ne heq] at h
    exact .inr ⟨Ne.symm heq, h⟩

/-- An entry that is not cleaned may be replaced by one that is reached and has a key of its own. -/
theorem Chained.set (hlaw : LawfulHash keyEq hash) (h : Chained keyEq hash arr)
    (hold : arr[i]? = some old) (hdirty : old.isDirty = true → new.isDirty = true)
    (hnew : new.hasValue = true → new.isDirty = true ∧ new.hash = hash new.key ∧
      Reaches (fun e => e.isDirty = true) arr arr.length (new.hash.toNat % arr.length) i ∧
      ∀ (j : ℕ) e', j ≠ i → arr[j]? = some e' → e'.hasValue = true →
        keyEq new.key e'.key = false) : Chained keyEq hash (arr.set i new) where
  dirty e he hlive := by
    rcases List.mem_or_eq_of_mem_set he with he | rfl
    · exact h.dirty e he hlive
    · exact (hnew hlive).1
  hash e he hlive := by
    rcases List.mem_or_eq_of_mem_set he with he | rfl
    · exact h.hash e he hlive
    · exact (hnew hlive).2.1
  chain j e he hlive := by
    rw [List.length_set]
    rcases of_getElem?_set he with ⟨rfl, rfl⟩ | ⟨-, he⟩
    · exact (hnew hlive).2.2.1.set hold hdirty
    · exact (h.chain j e he hlive).set hold hdirty
  unique j j' e e' he he' hlive hlive' hkey := by
    rcases of_getElem?_set he with ⟨rfl, rfl⟩ | ⟨hne, hat⟩
    · rcases of_getElem?_set he' with ⟨rfl, rfl⟩ | ⟨hne', hat'⟩
      · rfl
      · rw [(hnew hlive).2.2.2 j' e' hne' hat' hlive'] at hkey
        cases hkey
    · rcases of_getElem?_set he' with ⟨rfl, rfl⟩ | ⟨-, hat'⟩
      · have hkey' := hlaw.symm _ _ hkey
        rw [(hnew hlive').2.2.2 j e hne hat hlive] at hkey'
        cases hkey'
      · exact h.unique j j' e e' hat hat' hlive hlive' hkey

/-- The entry for a key is put at its place. -/
theorem Chained.put (hlaw : LawfulHash keyEq hash) (h : Chained keyEq hash arr)
    (hslot : Slot keyEq hash arr key i old) (hkey : keyEq key new.key = true)
    (hhash : new.hash = hash key) (hdirty : new.isDirty = true) :
    Chained keyEq hash (arr.set i new) := by
  refine h.set hlaw hslot.entry (fun _ => hdirty) fun _ => ⟨hdirty, ?_, ?_, ?_⟩
  · rw [hhash, hlaw.hash _ _ hkey]
  · rw [hhash]
    exact hslot.reached
  · intro j e' hne he' hlive'
    apply Bool.eq_false_iff.2
    intro hkey'
    have hcontra := hlaw.trans _ _ _ hkey hkey'
    rw [hslot.others j e' hne he' hlive'] at hcontra
    cases hcontra

/-- A count after one entry was replaced. -/
theorem countP_set_of (p : Hentry K V → Bool) (hold : arr[i]? = some old) (new : Hentry K V) :
    (arr.set i new).countP p + (if p old then 1 else 0) =
      arr.countP p + (if p new then 1 else 0) := by
  obtain ⟨hlt, rfl⟩ := List.getElem?_eq_some_iff.1 hold
  rw [List.countP_set hlt]
  by_cases hp : p arr[i] = true
  · have hpos : 0 < arr.countP p := List.countP_pos_iff.2 ⟨_, List.getElem_mem hlt, hp⟩
    rw [if_pos hp]
    omega
  · rw [if_neg hp]
    omega

end AssocHtOpen

end FlexRic
