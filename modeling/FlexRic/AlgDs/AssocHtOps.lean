import FlexRic.AlgDs.AssocHtOpen

/-!
# The operations of the hash table

A table that is not full is rehashed before it has no clean entry left, and then every operation
does what it does on the values that are stored. At the largest capacity it cannot grow any more,
and the operations stop.
-/

namespace FlexRic

namespace AssocHtOpen

variable {K V : Type} {keyEq : K → K → Bool} {hash : K → UInt32} {arr : List (Hentry K V)}
  {key : K} {i : ℕ} {old new : Hentry K V}

/-! ## Rehashing -/

/-- A table whose dirty entries are live, as `rehash_table` fills it. -/
structure Packed (keyEq : K → K → Bool) (hash : K → UInt32) (t : AssocHtOpen K V) : Prop where
  length : t.arr.length = t.cap
  chained : Chained keyEq hash t.arr
  live : ∀ e ∈ t.arr, e.isDirty = true → e.hasValue = true
  numDirty : t.numDirty = t.arr.countP Hentry.isDirty

/-- A table that has dirty entries to spare has a clean one. -/
theorem exists_clean (h : arr.countP Hentry.isDirty < arr.length) :
    ∃ e ∈ arr, e.isDirty = false := by
  by_contra hnone
  refine Nat.ne_of_lt h (List.countP_eq_length.2 fun e he => ?_)
  by_contra hclean
  exact hnone ⟨e, he, Bool.eq_false_iff.2 hclean⟩

theorem Chained.findIdx {t : AssocHtOpen K V} (hlaw : LawfulHash keyEq hash)
    (h : Chained keyEq hash t.arr) (hlen : t.arr.length = t.cap)
    (hroom : t.arr.countP Hentry.isDirty < t.cap) (key : K) :
    ∃ i e, t.findIdx keyEq key (hash key) = some i ∧ Slot keyEq hash t.arr key i e := by
  rw [AssocHtOpen.findIdx, ← hlen]
  exact h.probe hlaw (exists_clean (hlen ▸ hroom)) key

/-- A live entry is put at a clean place. -/
theorem Packed.put (hlaw : LawfulHash keyEq hash) {t : AssocHtOpen K V} {e : Hentry K V}
    (h : Packed keyEq hash t) (hslot : Slot keyEq hash t.arr e.key i old)
    (hclear : old.hasValue = false) (hlive : e.hasValue = true) (hdirty : e.isDirty = true)
    (hhash : e.hash = hash e.key) :
    Packed keyEq hash { t with arr := t.arr.set i e, numDirty := t.numDirty + 1 } ∧
      ∀ e', e'.hasValue = true → (e' ∈ t.arr.set i e ↔ e' ∈ t.arr ∨ e' = e) := by
  have hlt := (List.getElem?_eq_some_iff.1 hslot.entry).1
  have hcount := countP_set_of Hentry.isDirty hslot.entry e
  rw [hslot.clean hclear, hdirty, if_neg Bool.false_ne_true, if_pos rfl] at hcount
  refine ⟨⟨?_, h.chained.put hlaw hslot (hlaw.refl _) hhash hdirty, ?_, ?_⟩, fun e' hlive' => ?_⟩
  · rw [← h.length]
    exact List.length_set
  · intro e' he' hdirty'
    rcases List.mem_or_eq_of_mem_set he' with he' | rfl
    · exact h.live e' he' hdirty'
    · exact hlive
  · rw [h.numDirty]
    exact hcount.symm
  · constructor
    · exact List.mem_or_eq_of_mem_set
    · rintro (he' | rfl)
      · obtain ⟨j, hj⟩ := List.mem_iff_getElem?.1 he'
        have hne : i ≠ j := by
          rintro rfl
          obtain rfl := Option.some.inj (hj.symm.trans hslot.entry)
          rw [hclear] at hlive'
          cases hlive'
        exact List.mem_of_getElem? ((List.getElem?_set_ne hne).trans hj)
      · exact List.mem_set hlt e'

/-- The loop of `rehash_table` puts the live entries into the table. -/
theorem Packed.rehashLoop (hlaw : LawfulHash keyEq hash) {es : List (Hentry K V)}
    {t : AssocHtOpen K V} (h : Packed keyEq hash t)
    (hes : ∀ e ∈ es, e.hasValue = true → e.isDirty = true ∧ e.hash = hash e.key)
    (hfresh : ∀ e ∈ es, e.hasValue = true → ∀ e' ∈ t.arr, e'.hasValue = true →
      keyEq e.key e'.key = false)
    (hpair : es.Pairwise fun e e' => e.hasValue = true → e'.hasValue = true →
      keyEq e'.key e.key = false)
    (hroom : t.numDirty + es.countP Hentry.hasValue < t.cap) :
    ∃ t', AssocHtOpen.rehashLoop keyEq es t = some t' ∧ Packed keyEq hash t' ∧ t'.cap = t.cap ∧
      t'.sz = t.sz ∧ t'.numDirty = t.numDirty + es.countP Hentry.hasValue ∧
      ∀ e, e.hasValue = true → (e ∈ t'.arr ↔ e ∈ t.arr ∨ e ∈ es) := by
  induction es generalizing t with
  | nil => exact ⟨t, rfl, h, rfl, rfl, rfl, fun e _ => by simp⟩
  | cons e es ih =>
    obtain ⟨hdirtyhash, hes⟩ := List.forall_mem_cons.1 hes
    obtain ⟨hfreshe, hfresh⟩ := List.forall_mem_cons.1 hfresh
    obtain ⟨hpaire, hpair⟩ := List.pairwise_cons.1 hpair
    rw [AssocHtOpen.rehashLoop]
    by_cases hlive : e.hasValue = true
    · obtain ⟨hdirty, hhash⟩ := hdirtyhash hlive
      rw [List.countP_cons_of_pos hlive] at hroom ⊢
      obtain ⟨i, old, hfind, hslot⟩ := h.chained.findIdx hlaw h.length
        (h.numDirty ▸ by omega) e.key
      -- the key is not in the table, so that its place is clean
      have hclear : old.hasValue = false := by
        apply Bool.eq_false_iff.2
        intro hlive'
        have hkey := hslot.own hlive'
        rw [hfreshe hlive old (List.mem_of_getElem? hslot.entry) hlive'] at hkey
        cases hkey
      obtain ⟨hput, hmem⟩ := h.put hlaw hslot hclear hlive hdirty hhash
      have hlt := (List.getElem?_eq_some_iff.1 hslot.entry).1
      have hfresh' : ∀ e₂ ∈ es, e₂.hasValue = true → ∀ e' ∈ t.arr.set i e, e'.hasValue = true →
          keyEq e₂.key e'.key = false := by
        intro e₂ he₂ hlive₂ e' he' hlive'
        rcases List.mem_or_eq_of_mem_set he' with he' | rfl
        · exact hfresh e₂ he₂ hlive₂ e' he' hlive'
        · exact hpaire e₂ he₂ hlive hlive₂
      obtain ⟨t', ht', hpacked, hcap, hsz, hnum, hiff⟩ :=
        ih hput hes hfresh' hpair (by simp only; omega)
      refine ⟨t', ?_, hpacked, hcap, hsz, by simp only at hnum; omega, fun e' hlive' => ?_⟩
      · rw [if_pos hlive]
        simp only [hdirty, assert_true, hhash, hfind, Buffer.store_of_lt hlt, Option.bind_eq_bind,
          Option.bind_some, ht']
      · rw [hiff e' hlive', hmem e' hlive', List.mem_cons, or_assoc]
    · rw [List.countP_cons_of_neg hlive] at hroom ⊢
      obtain ⟨t', ht', hpacked, hcap, hsz, hnum, hiff⟩ := ih h hes hfresh hpair hroom
      refine ⟨t', by rw [if_neg hlive, ht'], hpacked, hcap, hsz, hnum, fun e' hlive' => ?_⟩
      rw [hiff e' hlive', List.mem_cons]
      have hne : e' ≠ e := fun heq => hlive (heq ▸ hlive')
      simp [hne]

/-- The table cannot be made larger, or its counters are too large for the comparison. -/
def Full (t : AssocHtOpen K V) : Prop := t.cap = 2 ^ 31 ∧ (2 ^ 30 < t.numDirty ∨ t.sz = 2 ^ 30)

variable {t t' : AssocHtOpen K V}

theorem WF.sz_le (h : t.WF keyEq hash) : t.sz ≤ t.numDirty := by
  rw [h.sz, h.numDirty]
  exact List.countP_mono_left h.chained.dirty

/-- What is known of the capacity. -/
theorem WF.cap_bounds (h : t.WF keyEq hash) : minSizeHt ≤ t.cap ∧ t.cap ≤ 2 ^ 31 := by
  obtain ⟨k, hk, hcap⟩ := h.cap
  have hlow : 1 ≤ 2 ^ k := Nat.one_le_two_pow
  have hhigh : 2 ^ k ≤ 2 ^ 27 := Nat.pow_le_pow_right Nat.two_pos hk
  rw [minSizeHt] at *
  omega

/-- The tables before and after a change of the capacity. -/
structure Rehashed (keyEq : K → K → Bool) (hash : K → UInt32) (t t' : AssocHtOpen K V) : Prop where
  wf : WF keyEq hash t'
  half : t'.numDirty * 2 ≤ t'.cap
  sz : t'.sz = t.sz
  mem : ∀ e, e.hasValue = true → (e ∈ t'.arr ↔ e ∈ t.arr)

section

variable [Inhabited K] [Inhabited V]

/-- Zeroed memory has no live entries. -/
theorem chained_replicate (keyEq : K → K → Bool) (hash : K → UInt32) (n : ℕ) :
    Chained keyEq hash (List.replicate n (default : Hentry K V)) := by
  have hdead : ∀ e ∈ List.replicate n (default : Hentry K V), ¬e.hasValue = true := by
    intro e he
    rw [(List.mem_replicate.1 he).2]
    exact Bool.false_ne_true
  exact ⟨fun e he hlive => absurd hlive (hdead e he), fun e he hlive => absurd hlive (hdead e he),
    fun i e he hlive => absurd hlive (hdead e (List.mem_of_getElem? he)),
    fun i j e e' he _ hlive => absurd hlive (hdead e (List.mem_of_getElem? he))⟩

/-- `rehash_table` keeps the live entries, if they take at most half of the new capacity. -/
theorem WF.rehashTable (hlaw : LawfulHash keyEq hash) (h : t.WF keyEq hash) {cap : ℕ}
    (hcap : ∃ k ≤ 27, cap = minSizeHt * 2 ^ k) (hhalf : t.sz * 2 ≤ cap) :
    ∃ t', t.rehashTable keyEq cap = some t' ∧ Rehashed keyEq hash t t' ∧ t'.cap = cap := by
  have hpos : 0 < cap := by
    obtain ⟨k, -, rfl⟩ := hcap
    exact Nat.mul_pos (by decide) (Nat.two_pow_pos k)
  have hempty : ∀ e ∈ List.replicate cap (default : Hentry K V), e = default := fun e he =>
    (List.mem_replicate.1 he).2
  have hzero : (List.replicate cap (default : Hentry K V)).countP Hentry.isDirty = 0 :=
    List.countP_eq_zero.2 fun e he => by rw [hempty e he]; exact Bool.false_ne_true
  have hpacked : Packed keyEq hash
      { t with arr := List.replicate cap (default : Hentry K V), cap := cap, numDirty := 0 } := by
    refine ⟨List.length_replicate, chained_replicate keyEq hash cap, fun e he hdirty => ?_,
      hzero.symm⟩
    rw [hempty e he] at hdirty
    cases hdirty
  have hpair : t.arr.Pairwise fun e e' => e.hasValue = true → e'.hasValue = true →
      keyEq e'.key e.key = false := by
    apply List.pairwise_iff_getElem.2
    intro i j hi hj hij hlive hlive'
    refine Bool.eq_false_iff.2 fun hkey => Nat.ne_of_gt hij ?_
    exact h.chained.unique j i _ _ (List.getElem?_eq_getElem hj) (List.getElem?_eq_getElem hi)
      hlive' hlive hkey
  obtain ⟨t', ht', hpacked', hcap', hsz', hnum', hiff⟩ :=
    @Packed.rehashLoop _ _ _ _ hlaw t.arr _ hpacked
    (fun e he hlive => ⟨h.chained.dirty e he hlive, h.chained.hash e he hlive⟩)
    (fun e _ _ e' he' hlive' => by rw [hempty e' he'] at hlive'; cases hlive') hpair
    (by simp only; rw [← h.sz]; omega)
  simp only [Nat.zero_add] at hcap' hsz' hnum'
  rw [← h.sz] at hnum'
  refine ⟨t', ?_, ⟨⟨hpacked'.length, hcap' ▸ hcap, hpacked'.chained, ?_, hpacked'.numDirty, ?_⟩, ?_,
    hsz', fun e hlive => ?_⟩, hcap'⟩
  · rw [AssocHtOpen.rehashTable, Buffer.calloc_true, Option.bind_eq_bind, Option.bind_some, ht']
  · rw [hsz', ← hnum', hpacked'.numDirty]
    exact List.countP_congr fun e he => ⟨hpacked'.live e he, hpacked'.chained.dirty e he⟩
  · omega
  · omega
  · rw [hiff e hlive]
    apply or_iff_right
    intro he
    rw [hempty e he] at hlive
    cases hlive

/-- The capacity changes as it should, if the table is not full. -/
theorem WF.rehashIfNecessary (hlaw : LawfulHash keyEq hash) (h : t.WF keyEq hash)
    (hfull : ¬t.Full) : ∃ t', t.rehashIfNecessary keyEq = some t' ∧ Rehashed keyEq hash t t' := by
  have hroom := h.room
  have hle := h.sz_le
  have hmin : 16 ≤ t.cap := h.cap_bounds.1
  have hmax := h.cap_bounds.2
  obtain ⟨k, hk, hcap⟩ := h.cap
  rw [Full, not_and_or, not_or] at hfull
  rw [AssocHtOpen.rehashIfNecessary]
  by_cases hgrow : t.cap < t.numDirty * 2 % 2 ^ 32
  · have hgrow' : t.cap < t.numDirty * 2 := Nat.lt_of_lt_of_le hgrow (Nat.mod_le _ _)
    have hlt : t.cap < 2 ^ 31 := by omega
    have hdouble : t.cap * 2 % 2 ^ 32 = t.cap * 2 := Nat.mod_eq_of_lt (by omega)
    have hk' : k + 1 ≤ 27 := by
      by_contra hge
      obtain rfl : k = 27 := by omega
      exact absurd hcap (Nat.ne_of_lt hlt)
    obtain ⟨t', ht', hre, -⟩ := @WF.rehashTable _ _ _ _ t _ _ hlaw h (t.cap * 2)
      ⟨k + 1, hk', by rw [hcap, Nat.pow_succ, Nat.mul_assoc]⟩ (by omega)
    exact ⟨t', by rw [if_pos hgrow, hdouble, ht'], hre⟩
  · have hsmall : t.numDirty * 2 % 2 ^ 32 = t.numDirty * 2 := Nat.mod_eq_of_lt (by omega)
    have hsz : t.sz * 4 % 2 ^ 32 = t.sz * 4 := Nat.mod_eq_of_lt (by omega)
    rw [hsmall] at hgrow
    by_cases hshrink : t.sz * 4 % 2 ^ 32 < t.cap ∧ minSizeHt < t.cap
    · have hquarter : t.sz * 4 < t.cap := hsz ▸ hshrink.1
      cases k with
      | zero => exact absurd hcap (Nat.ne_of_gt hshrink.2)
      | succ k =>
        rw [Nat.pow_succ, ← Nat.mul_assoc] at hcap
        obtain ⟨t', ht', hre, -⟩ := @WF.rehashTable _ _ _ _ t _ _ hlaw h (t.cap / 2)
          ⟨k, by omega, by rw [hcap, Nat.mul_div_cancel _ Nat.two_pos]⟩ (by omega)
        exact ⟨t', by rw [hsmall, if_neg hgrow, if_pos hshrink, ht'], hre⟩
    · have hre : Rehashed keyEq hash t t := ⟨h, by omega, rfl, fun _ _ => Iff.rfl⟩
      exact ⟨t, by rw [hsmall, if_neg hgrow, if_neg hshrink], hre⟩

/-- `expand_or_shrink_if_neccesary` keeps the live entries, and leaves half of the table clean. -/
theorem WF.expandOrShrink (hlaw : LawfulHash keyEq hash) (h : t.WF keyEq hash) (hfull : ¬t.Full) :
    ∃ t', t.expandOrShrinkIfNecessary keyEq = some t' ∧ Rehashed keyEq hash t t' := by
  obtain ⟨t', ht', hre⟩ := h.rehashIfNecessary hlaw hfull
  have hhalf := hre.half
  have hle := hre.wf.sz_le
  have hsz : t'.sz * 2 % 2 ^ 32 ≤ t'.cap := Nat.le_trans (Nat.mod_le _ _) (by omega)
  have hnum : t'.numDirty * 2 % 2 ^ 32 ≤ t'.cap := Nat.le_trans (Nat.mod_le _ _) hhalf
  refine ⟨t', ?_, hre⟩
  rw [expandOrShrinkIfNecessary, ht']
  simp only [Option.bind_eq_bind, Option.bind_some, assert_of hsz, assert_of hnum]

end

/-! ## What is stored -/

/-- A live entry of the array has the key and the value. -/
def Stores (keyEq : K → K → Bool) (arr : List (Hentry K V)) (key : K) (v : V) : Prop :=
  ∃ e ∈ arr, e.hasValue = true ∧ keyEq key e.key = true ∧ e.value = v

variable {k : K} {v w : V}

theorem Rehashed.stores (h : Rehashed keyEq hash t t') :
    Stores keyEq t'.arr k v ↔ Stores keyEq t.arr k v := by
  constructor
  · rintro ⟨e, he, hlive, hkey, hv⟩
    exact ⟨e, (h.mem e hlive).1 he, hlive, hkey, hv⟩
  · rintro ⟨e, he, hlive, hkey, hv⟩
    exact ⟨e, (h.mem e hlive).2 he, hlive, hkey, hv⟩

/-- At the place for a key there is its entry, if there is one. -/
theorem Slot.stores_iff (hslot : Slot keyEq hash arr key i old) :
    Stores keyEq arr key v ↔ old.hasValue = true ∧ old.value = v := by
  constructor
  · rintro ⟨e, he, hlive, hkey, hv⟩
    obtain ⟨j, hj⟩ := List.mem_iff_getElem?.1 he
    by_cases heq : j = i
    · rw [heq, hslot.entry] at hj
      obtain rfl := Option.some.inj hj
      exact ⟨hlive, hv⟩
    · rw [hslot.others j e heq hj hlive] at hkey
      cases hkey
  · rintro ⟨hlive, hv⟩
    exact ⟨old, List.mem_of_getElem? hslot.entry, hlive, hslot.own hlive, hv⟩

/-- Another key is stored as before, whatever comes to the place. -/
theorem Slot.stores_set_of_ne (hlaw : LawfulHash keyEq hash)
    (hslot : Slot keyEq hash arr key i old) (hnew : new.hasValue = true → keyEq key new.key = true)
    (hne : keyEq key k = false) :
    Stores keyEq (arr.set i new) k v ↔ Stores keyEq arr k v := by
  have hnot : ∀ {k'}, keyEq key k' = true → keyEq k k' = true → False := fun hkey hkey' => by
    rw [hlaw.trans _ _ _ hkey (hlaw.symm _ _ hkey')] at hne
    cases hne
  constructor
  · rintro ⟨e, he, hlive, hkey, hv⟩
    rcases List.mem_or_eq_of_mem_set he with he | rfl
    · exact ⟨e, he, hlive, hkey, hv⟩
    · exact (hnot (hnew hlive) hkey).elim
  · rintro ⟨e, he, hlive, hkey, hv⟩
    obtain ⟨j, hj⟩ := List.mem_iff_getElem?.1 he
    have hij : i ≠ j := by
      rintro rfl
      obtain rfl := Option.some.inj (hj.symm.trans hslot.entry)
      exact hnot (hslot.own hlive) hkey
    exact ⟨e, List.mem_of_getElem? ((List.getElem?_set_ne hij).trans hj), hlive, hkey, hv⟩

/-- A key that is equal is stored with what comes to the place. -/
theorem Slot.stores_set_of_eq (hlaw : LawfulHash keyEq hash)
    (hslot : Slot keyEq hash arr key i old) (hnew : new.hasValue = true → keyEq key new.key = true)
    (heq : keyEq key k = true) :
    Stores keyEq (arr.set i new) k v ↔ new.hasValue = true ∧ new.value = v := by
  have hlt := (List.getElem?_eq_some_iff.1 hslot.entry).1
  constructor
  · rintro ⟨e, he, hlive, hkey, hv⟩
    obtain ⟨j, hj⟩ := List.mem_iff_getElem?.1 he
    rcases of_getElem?_set hj with ⟨-, rfl⟩ | ⟨hne, hj⟩
    · exact ⟨hlive, hv⟩
    · have hkey' := hlaw.trans _ _ _ heq hkey
      rw [hslot.others j e hne hj hlive] at hkey'
      cases hkey'
  · rintro ⟨hlive, hv⟩
    exact ⟨new, List.mem_set hlt new, hlive, hlaw.trans _ _ _ (hlaw.symm _ _ heq) (hnew hlive), hv⟩

/-! ## The operations -/

theorem WF.dirty_lt (h : t.WF keyEq hash) : t.numDirty < t.cap := by
  have hroom := h.room
  have hmin : 16 ≤ t.cap := h.cap_bounds.1
  omega

theorem WF.findIdx (hlaw : LawfulHash keyEq hash) (h : t.WF keyEq hash) (key : K) :
    ∃ i e, t.findIdx keyEq key (hash key) = some i ∧ Slot keyEq hash t.arr key i e :=
  h.chained.findIdx hlaw h.length (h.numDirty ▸ h.dirty_lt) key

/-- `find_entry` gives the entry of the key, if there is one. -/
theorem WF.findEntry (hlaw : LawfulHash keyEq hash) (h : t.WF keyEq hash) (key : K) :
    ∃ i e, Slot keyEq hash t.arr key i e ∧
      t.findEntry keyEq hash key = some (if e.hasValue = true then some (i, e) else none) := by
  obtain ⟨i, e, hfind, hslot⟩ := h.findIdx hlaw key
  refine ⟨i, e, hslot, ?_⟩
  rw [AssocHtOpen.findEntry, hfind]
  simp only [Option.bind_eq_bind, Option.bind_some, hslot.entry]
  by_cases hlive : e.hasValue = true
  · have hdirty := h.chained.dirty e (List.mem_of_getElem? hslot.entry) hlive
    rw [if_neg (by rw [hdirty]; decide), if_pos hlive]
  · have hclear := Bool.eq_false_iff.2 hlive
    rw [if_pos (hslot.clean hclear), if_neg hlive, hclear]
    rfl

/-- `assoc_ht_open_value` gives the value that is stored for the key. -/
theorem WF.value (hlaw : LawfulHash keyEq hash) (h : t.WF keyEq hash) (key : K) :
    ∃ o, t.value keyEq hash key = some o ∧ ∀ v, o = some v ↔ Stores keyEq t.arr key v := by
  obtain ⟨i, e, hslot, hfind⟩ := h.findEntry hlaw key
  rw [AssocHtOpen.value, hfind]
  refine ⟨_, rfl, fun v => ?_⟩
  rw [hslot.stores_iff]
  by_cases hlive : e.hasValue = true
  · simp [hlive]
  · simp [hlive]

/-- An entry for the key comes to its place. -/
theorem WF.put (hlaw : LawfulHash keyEq hash) (h : t.WF keyEq hash) (hhalf : t.numDirty * 2 ≤ t.cap)
    (hslot : Slot keyEq hash t.arr key i old) {keyDst : K} (hkey : keyEq key keyDst = true)
    (v : V) :
    WF keyEq hash { t with
      arr := t.arr.set i ⟨keyDst, v, hash key, true, true⟩
      sz := if old.hasValue = true then t.sz else t.sz + 1
      numDirty := if old.isDirty = false then t.numDirty + 1 else t.numDirty } := by
  have hlive := countP_set_of Hentry.hasValue hslot.entry ⟨keyDst, v, hash key, true, true⟩
  have hdirty := countP_set_of Hentry.isDirty hslot.entry ⟨keyDst, v, hash key, true, true⟩
  refine ⟨?_, h.cap, h.chained.put hlaw hslot hkey rfl rfl, ?_, ?_, ?_⟩
  · rw [← h.length]
    exact List.length_set
  · simp only [h.sz]
    simp only [if_true] at hlive
    by_cases hold : old.hasValue = true
    · rw [if_pos hold] at hlive ⊢
      omega
    · rw [if_neg hold] at hlive ⊢
      omega
  · simp only [h.numDirty]
    simp only [if_true] at hdirty
    by_cases hold : old.isDirty = true
    · rw [if_pos hold] at hdirty
      rw [if_neg (by rw [hold]; decide)]
      omega
    · rw [if_neg hold] at hdirty
      rw [if_pos (Bool.eq_false_iff.2 hold)]
      omega
  · simp only
    split <;> omega

section

variable [Inhabited K] [Inhabited V]

/-- `assoc_ht_open_insert` stores the value for the key. -/
theorem WF.insert (hlaw : LawfulHash keyEq hash) (h : t.WF keyEq hash) (hfull : ¬t.Full) (key : K)
    (v : V) :
    ∃ t', t.insert keyEq hash key v = some t' ∧ t'.WF keyEq hash ∧
      (∀ k w, Stores keyEq t'.arr k w ↔ if keyEq key k = true then v = w
        else Stores keyEq t.arr k w) ∧
      ((∀ w, ¬Stores keyEq t.arr key w) → t'.sz = t.sz + 1) := by
  obtain ⟨t₁, h₁, hre⟩ := h.expandOrShrink hlaw hfull
  have hwf := hre.wf
  have hhalf := hre.half
  obtain ⟨i, e, hfind, hslot⟩ := hwf.findIdx hlaw key
  have hlt := (List.getElem?_eq_some_iff.1 hslot.entry).1
  have hcap : i < t₁.cap := hwf.length ▸ hlt
  have hassert : t₁.numDirty * 2 % 2 ^ 32 ≤ t₁.cap := Nat.le_trans (Nat.mod_le _ _) hhalf
  -- the entry keeps the key that it has
  have hdst : keyEq key (if e.hasValue = true then e.key else key) = true := by
    by_cases hlive : e.hasValue = true
    · rw [if_pos hlive]
      exact hslot.own hlive
    · rw [if_neg hlive]
      exact hlaw.refl key
  refine ⟨_, ?_, hwf.put hlaw hhalf hslot hdst v, fun k w => ?_, fun hfresh => ?_⟩
  · rw [AssocHtOpen.insert, h₁]
    simp only [Option.bind_eq_bind, Option.bind_some, assert_of hassert, hfind, assert_of hcap,
      hslot.entry]
    by_cases hlive : e.hasValue = true
    · have hdirty := hwf.chained.dirty e (List.mem_of_getElem? hslot.entry) hlive
      simp only [if_pos hlive, assert_of hdirty, assert_of (hslot.own hlive), Option.bind_some,
        Buffer.store_of_lt hlt]
    · simp only [if_neg hlive, Option.bind_some, Buffer.store_of_lt hlt]
  · by_cases hkey : keyEq key k = true
    · rw [if_pos hkey, hslot.stores_set_of_eq hlaw (fun _ => hdst) hkey]
      exact and_iff_right rfl
    · rw [if_neg hkey, hslot.stores_set_of_ne hlaw (fun _ => hdst) (Bool.eq_false_iff.2 hkey)]
      exact hre.stores
  · have hclear : ¬e.hasValue = true := fun hlive =>
      hfresh e.value (hre.stores.1 (hslot.stores_iff.2 ⟨hlive, rfl⟩))
    simp only [if_neg hclear, hre.sz]

/-- `remove_value_htab` takes the value of the key out. -/
theorem WF.removeValue (hlaw : LawfulHash keyEq hash) (h : t.WF keyEq hash) (hfull : ¬t.Full)
    (key : K) :
    ∃ t', t.removeValue keyEq hash key = some t' ∧ t'.WF keyEq hash ∧
      ∀ k w, Stores keyEq t'.arr k w ↔ keyEq key k = false ∧ Stores keyEq t.arr k w := by
  obtain ⟨t₁, h₁, hre⟩ := h.expandOrShrink hlaw hfull
  have hwf := hre.wf
  obtain ⟨i, e, hslot, hfind⟩ := hwf.findEntry hlaw key
  have hlt := (List.getElem?_eq_some_iff.1 hslot.entry).1
  have hassert : t₁.numDirty * 2 % 2 ^ 32 ≤ t₁.cap := Nat.le_trans (Nat.mod_le _ _) hre.half
  rw [AssocHtOpen.removeValue, h₁]
  simp only [Option.bind_eq_bind, Option.bind_some, assert_of hassert, hfind]
  by_cases hlive : e.hasValue = true
  · have hdirty := hwf.chained.dirty e (List.mem_of_getElem? hslot.entry) hlive
    have hcountLive := countP_set_of Hentry.hasValue hslot.entry
      { e with hasValue := false }
    have hcountDirty := countP_set_of Hentry.isDirty hslot.entry
      { e with hasValue := false }
    have hnot : ¬false = true := Bool.false_ne_true
    simp only [if_pos hlive, if_neg hnot] at hcountLive
    simp only [if_pos hdirty] at hcountDirty
    have hclear : ∀ {p : Prop}, ({ e with hasValue := false } : Hentry K V).hasValue = true → p :=
      fun h => absurd h Bool.false_ne_true
    simp only [if_pos hlive, assert_of (And.intro hdirty hlive), Buffer.store_of_lt hlt,
      Option.bind_some]
    refine ⟨_, rfl, ⟨?_, hwf.cap, hwf.chained.set hlaw hslot.entry id hclear, ?_, ?_, hwf.room⟩,
      fun k w => ?_⟩
    · rw [← hwf.length]
      exact List.length_set
    · simp only
      rw [hwf.sz]
      omega
    · simp only
      rw [hwf.numDirty]
      omega
    · by_cases hkey : keyEq key k = true
      · rw [hslot.stores_set_of_eq hlaw hclear hkey, hkey]
        simp
      · have hne := Bool.eq_false_iff.2 hkey
        rw [hslot.stores_set_of_ne hlaw hclear hne, hre.stores]
        exact (and_iff_right hne).symm
  · simp only [if_neg hlive]
    refine ⟨t₁, rfl, hwf, fun k w => ?_⟩
    rw [hre.stores]
    refine (and_iff_right_of_imp fun hstores => Bool.eq_false_iff.2 fun hkey => ?_).symm
    obtain ⟨e', he', hlive', hkey', hv⟩ := hre.stores.2 hstores
    exact hlive (hslot.stores_iff.1 ⟨e', he', hlive', hlaw.trans _ _ _ hkey hkey', hv⟩).1

/-! ## A full table -/

omit [Inhabited K] [Inhabited V] in
theorem rehashLoop_keeps {es : List (Hentry K V)} (h : rehashLoop keyEq es t = some t') :
    t'.sz = t.sz ∧ t'.cap = t.cap ∧ (t.arr = [] → t'.arr = []) := by
  induction es generalizing t with
  | nil =>
    cases h
    exact ⟨rfl, rfl, id⟩
  | cons e es ih =>
    rw [rehashLoop] at h
    by_cases hlive : e.hasValue = true
    · rw [if_pos hlive] at h
      obtain ⟨-, h⟩ := assert_bind_eq_some.1 h
      obtain ⟨idx, -, h⟩ := Option.bind_eq_some_iff.1 h
      obtain ⟨arr, harr, h⟩ := Option.bind_eq_some_iff.1 h
      obtain ⟨hsz, hcap, -⟩ := ih h
      refine ⟨hsz, hcap, fun hnil => ?_⟩
      rw [hnil] at harr
      cases harr
    · rw [if_neg hlive] at h
      exact ih h

/-- What `expand_or_shrink_if_neccesary` leaves of a full table, if it comes to its end. -/
theorem WF.expandOrShrink_full (h : t.WF keyEq hash) (hfull : t.Full)
    (ht : t.expandOrShrinkIfNecessary keyEq = some t') : t'.arr = [] := by
  obtain ⟨hcap, hcount⟩ := hfull
  have hroom := h.room
  have hle := h.sz_le
  obtain ⟨t₁, h₁, ht⟩ := Option.bind_eq_some_iff.1 ht
  obtain ⟨hsz, ht⟩ := assert_bind_eq_some.1 ht
  obtain ⟨-, ht⟩ := assert_bind_eq_some.1 ht
  cases ht
  have hsmall : t.numDirty * 2 % 2 ^ 32 = t.numDirty * 2 := Nat.mod_eq_of_lt (by omega)
  rw [AssocHtOpen.rehashIfNecessary, hsmall, hcap] at h₁
  by_cases hgrow : 2 ^ 31 < t.numDirty * 2
  · -- the new capacity is zero
    rw [if_pos hgrow, AssocHtOpen.rehashTable, Buffer.calloc_true] at h₁
    exact (rehashLoop_keeps h₁).2.2 rfl
  · have hthirty : t.sz = 2 ^ 30 := hcount.resolve_left (by omega)
    rw [if_neg hgrow, hthirty, if_pos ⟨by decide, by decide⟩, AssocHtOpen.rehashTable,
      Buffer.calloc_true] at h₁
    obtain ⟨hsz₁, hcap₁, -⟩ := rehashLoop_keeps h₁
    rw [hsz₁, hcap₁, hthirty] at hsz
    have hhalf : 2 ^ 30 * 2 % 2 ^ 32 ≤ 2 ^ 31 / 2 := hsz
    omega

theorem WF.insert_full (h : t.WF keyEq hash) (hfull : t.Full) (key : K) (v : V) :
    t.insert keyEq hash key v = none := by
  by_contra hne
  obtain ⟨t', ht'⟩ := Option.ne_none_iff_exists'.1 hne
  obtain ⟨t₁, h₁, ht'⟩ := Option.bind_eq_some_iff.1 ht'
  obtain ⟨-, ht'⟩ := assert_bind_eq_some.1 ht'
  obtain ⟨idx, hidx, -⟩ := Option.bind_eq_some_iff.1 ht'
  rw [AssocHtOpen.findIdx, h.expandOrShrink_full hfull h₁, probe_nil] at hidx
  cases hidx

theorem WF.removeValue_full (h : t.WF keyEq hash) (hfull : t.Full) (key : K) :
    t.removeValue keyEq hash key = none := by
  by_contra hne
  obtain ⟨t', ht'⟩ := Option.ne_none_iff_exists'.1 hne
  obtain ⟨t₁, h₁, ht'⟩ := Option.bind_eq_some_iff.1 ht'
  obtain ⟨-, ht'⟩ := assert_bind_eq_some.1 ht'
  obtain ⟨e, he, -⟩ := Option.bind_eq_some_iff.1 ht'
  obtain ⟨idx, hidx, -⟩ := Option.bind_eq_some_iff.1 he
  rw [AssocHtOpen.findIdx, h.expandOrShrink_full hfull h₁, probe_nil] at hidx
  cases hidx

theorem wf_init : (init : AssocHtOpen K V).WF keyEq hash where
  length := List.length_replicate
  cap := ⟨0, by decide, rfl⟩
  chained := chained_replicate keyEq hash minSizeHt
  sz := rfl
  numDirty := rfl
  room := Nat.zero_le _

end

/-- The keys of the live entries. -/
def liveKeys (arr : List (Hentry K V)) : List K := (arr.filter Hentry.hasValue).map Hentry.key

theorem Chained.pairwise_liveKeys (h : Chained keyEq hash arr) :
    (liveKeys arr).Pairwise fun a b => keyEq a b = false := by
  rw [liveKeys, List.pairwise_map, List.pairwise_filter]
  apply List.pairwise_iff_getElem.2
  intro i j hi hj hij hlive hlive'
  refine Bool.eq_false_iff.2 fun hkey => Nat.ne_of_lt hij ?_
  exact h.unique i j _ _ (List.getElem?_eq_getElem hi) (List.getElem?_eq_getElem hj) hlive hlive'
    hkey

end AssocHtOpen

end FlexRic
