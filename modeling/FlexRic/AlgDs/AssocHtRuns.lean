import FlexRic.AlgDs.AssocHtOps
import FlexRic.Semantics.System

/-!
# Runs of the hash table

A table from its start on, beside the map of what was inserted last: until the table is full it
refines the map, for any equality of the keys and any hash that respects it, and so for the keys
that are compared and hashed as four bytes.
-/

namespace FlexRic

/-! ## Runs -/

/-- What happens to a table. -/
inductive HtOp (K V : Type) : Type where
  | insert (key : K) (value : V) : HtOp K V
  | remove (key : K) : HtOp K V

/-- A table, with the value last inserted for a key and not removed since. -/
structure HtRun (K V : Type) : Type where
  table : AssocHtOpen K V
  map : K → Option V

namespace HtRun

variable {K V : Type} (keyEq : K → K → Bool) (hash : K → UInt32)

/-- The table refines the map: it answers with its values, counts its keys, stores none of them
twice, and every search ends at a clean entry or at the one of the key. -/
structure Refines (s : HtRun K V) : Prop where
  value : ∀ key, s.table.value keyEq hash key = some (s.map key)
  live : ∀ key, (s.map key).isSome ↔ ∃ k ∈ AssocHtOpen.liveKeys s.table.arr, keyEq key k = true
  once : (AssocHtOpen.liveKeys s.table.arr).Pairwise fun a b => keyEq a b = false
  size : s.table.size = (AssocHtOpen.liveKeys s.table.arr).length
  dirty : s.table.numDirty = s.table.arr.countP Hentry.isDirty ∧ s.table.numDirty < s.table.cap
  search : ∀ key, ∃ idx e, s.table.findIdx keyEq key (hash key) = some idx ∧
    s.table.arr[idx]? = some e ∧
    (e.isDirty = false ∨ e.hasValue = true ∧ keyEq key e.key = true)

/-- What holds in every run. -/
structure Inv (s : HtRun K V) : Prop where
  wf : s.table.WF keyEq hash
  map : ∀ key v, s.map key = some v ↔ AssocHtOpen.Stores keyEq s.table.arr key v

variable {keyEq hash}

theorem Inv.refines (hlaw : AssocHtOpen.LawfulHash keyEq hash) {s : HtRun K V}
    (h : s.Inv keyEq hash) : s.Refines keyEq hash where
  value key := by
    obtain ⟨o, ho, hiff⟩ := h.wf.value hlaw key
    have heq : o = s.map key := Option.ext fun v => (hiff v).trans (h.map key v).symm
    rw [ho, heq]
  live key := by
    rw [Option.isSome_iff_exists]
    constructor
    · rintro ⟨v, hv⟩
      obtain ⟨e, he, hlive, hkey, -⟩ := (h.map key v).1 hv
      exact ⟨e.key, List.mem_map_of_mem (List.mem_filter.2 ⟨he, hlive⟩), hkey⟩
    · rintro ⟨k, hk, hkey⟩
      obtain ⟨e, he, rfl⟩ := List.mem_map.1 hk
      obtain ⟨he, hlive⟩ := List.mem_filter.1 he
      exact ⟨e.value, (h.map key _).2 ⟨e, he, hlive, hkey, rfl⟩⟩
  once := h.wf.chained.pairwise_liveKeys
  size := by
    rw [AssocHtOpen.liveKeys, List.length_map, ← List.countP_eq_length_filter]
    exact h.wf.sz
  dirty := ⟨h.wf.numDirty, h.wf.dirty_lt⟩
  search key := by
    obtain ⟨i, e, hfind, hslot⟩ := h.wf.findIdx hlaw key
    refine ⟨i, e, hfind, hslot.entry, ?_⟩
    by_cases hlive : e.hasValue = true
    · exact .inr ⟨hlive, hslot.own hlive⟩
    · exact .inl (hslot.clean (Bool.eq_false_iff.2 hlive))

variable [Inhabited K] [Inhabited V] (keyEq hash)

/-- An operation on the table and on the map. -/
def step (s : HtRun K V) : HtOp K V → Option (HtRun K V)
  | .insert key value => do
    let table ← s.table.insert keyEq hash key value
    some ⟨table, fun k => if keyEq key k then some value else s.map k⟩
  | .remove key => do
    let table ← s.table.removeValue keyEq hash key
    some ⟨table, fun k => if keyEq key k then none else s.map k⟩

/-- A table from `assoc_ht_open_init` on. -/
def system : System (HtRun K V) (HtOp K V) where
  init := ⟨.init, fun _ => none⟩
  enabled _ _ := True
  step := step keyEq hash

variable {keyEq hash} {s : HtRun K V}

theorem Inv.step (hlaw : AssocHtOpen.LawfulHash keyEq hash) (h : s.Inv keyEq hash)
    (hfull : ¬s.table.Full) (op : HtOp K V) :
    ∃ s', s.step keyEq hash op = some s' ∧ s'.Inv keyEq hash := by
  cases op with
  | insert key v =>
    obtain ⟨t', ht', hwf, hstores, -⟩ := h.wf.insert hlaw hfull key v
    refine ⟨⟨t', fun k => if keyEq key k then some v else s.map k⟩,
      by simp only [HtRun.step, ht', Option.bind_eq_bind, Option.bind_some], hwf, fun k w => ?_⟩
    rw [hstores]
    by_cases hkey : keyEq key k = true
    · simp only [if_pos hkey, Option.some.injEq]
    · simp only [if_neg hkey]
      exact h.map k w
  | remove key =>
    obtain ⟨t', ht', hwf, hstores⟩ := h.wf.removeValue hlaw hfull key
    refine ⟨⟨t', fun k => if keyEq key k then none else s.map k⟩,
      by simp only [HtRun.step, ht', Option.bind_eq_bind, Option.bind_some], hwf, fun k w => ?_⟩
    rw [hstores]
    by_cases hkey : keyEq key k = true
    · simp [hkey]
    · simp only [Bool.eq_false_iff.2 hkey, true_and]
      exact h.map k w

theorem Inv.step_full (h : s.Inv keyEq hash) (hfull : s.table.Full) (op : HtOp K V) :
    s.step keyEq hash op = none := by
  cases op with
  | insert key v =>
    simp only [HtRun.step, h.wf.insert_full hfull key v, Option.bind_eq_bind, Option.bind_none]
  | remove key =>
    simp only [HtRun.step, h.wf.removeValue_full hfull key, Option.bind_eq_bind, Option.bind_none]

theorem inv_init : (system keyEq hash : System (HtRun K V) (HtOp K V)).init.Inv keyEq hash where
  wf := AssocHtOpen.wf_init
  map key v := by
    apply iff_of_false (fun h => by cases h)
    rintro ⟨e, he, hlive, -⟩
    rw [(List.mem_replicate.1 he).2] at hlive
    cases hlive

theorem inv_of_reachable (hlaw : AssocHtOpen.LawfulHash keyEq hash)
    (h : (system keyEq hash).Reachable s) : s.Inv keyEq hash := by
  apply h.invariant (P := fun s => s.Inv keyEq hash) inv_init
  intro s op t hinv _ hs
  by_cases hfull : s.table.Full
  · exact absurd ((hinv.step_full hfull op).symm.trans hs) (Option.some_ne_none t).symm
  · obtain ⟨t', ht', hinv'⟩ := hinv.step hlaw hfull op
    obtain rfl := Option.some.inj (ht'.symm.trans hs)
    exact hinv'

/-- The next operation goes through exactly if the table is not full. -/
theorem Inv.safe_iff (hlaw : AssocHtOpen.LawfulHash keyEq hash)
    (h : s.Inv keyEq hash) : (system keyEq hash).Safe s ↔ ¬s.table.Full := by
  constructor
  · intro hsafe hfull
    exact hsafe (.remove default) trivial (h.step_full hfull (.remove default))
  · intro hfull op _ hnone
    obtain ⟨s', hs', -⟩ := h.step hlaw hfull op
    exact Option.some_ne_none _ (hs'.symm.trans hnone)

end HtRun

/-! ## Keys of bytes -/

/-- A key: so many bytes. -/
abbrev Key (keySz : ℕ) : Type := { bs : List UInt8 // bs.length = keySz }

instance (keySz : ℕ) : Inhabited (Key keySz) := ⟨⟨List.replicate keySz 0, List.length_replicate⟩⟩

/-- An equality of keys of at least four bytes, under which equal keys have the same first four. -/
structure KeyEq (keySz : ℕ) : Type where
  eq : Key keySz → Key keySz → Bool
  four : 4 ≤ keySz
  refl : ∀ a, eq a a = true
  symm : ∀ a b, eq a b = true → eq b a = true
  trans : ∀ a b c, eq a b = true → eq b c = true → eq a c = true
  take_four : ∀ a b, eq a b = true → a.1.take 4 = b.1.take 4

namespace KeyEq

variable {V : Type} [Inhabited V]

/-- The hash of a key. -/
def hash {keySz : ℕ} (key : Key keySz) : UInt32 := hashFunc key.1

theorem lawfulHash {keySz : ℕ} (k : KeyEq keySz) : AssocHtOpen.LawfulHash k.eq hash where
  refl := k.refl
  symm := k.symm
  trans := k.trans
  hash a b h := by rw [hash, hash, hashFunc, hashFunc, k.take_four a b h]

/-- In every run the table refines the map, and the next operation goes through exactly if the
capacity is not `2 ^ 31` with more than `2 ^ 30` dirty entries or as many live ones. -/
theorem refinesMap_of_reachable {keySz : ℕ} (k : KeyEq keySz) {s : HtRun (Key keySz) V}
    (h : (HtRun.system k.eq hash).Reachable s) :
    s.Refines k.eq hash ∧ ((HtRun.system k.eq hash).Safe s ↔ ¬s.table.Full) := by
  have hinv := HtRun.inv_of_reachable k.lawfulHash h
  exact ⟨hinv.refines k.lawfulHash, hinv.safe_iff k.lawfulHash⟩

/-- Four bytes, compared as they are. -/
def fourBytes : KeyEq 4 where
  eq a b := a == b
  four := le_rfl
  refl a := beq_self_eq_true a
  symm a b h := by rw [beq_iff_eq] at *; exact h.symm
  trans a b c h h' := by rw [beq_iff_eq] at *; exact h.trans h'
  take_four a b h := by rw [beq_iff_eq.1 h]

/-- A number as a key. -/
def ofNat (n : ℕ) : Key 4 :=
  ⟨[UInt8.ofNat n, UInt8.ofNat (n / 256), UInt8.ofNat (n / 65536), UInt8.ofNat (n / 16777216)], rfl⟩

/-- One key. -/
theorem refinesMap_one : ∃ s : HtRun (Key 4) ℕ, s.map (ofNat 1) = some 7 ∧
    s.Refines fourBytes.eq hash ∧
      ((HtRun.system fourBytes.eq hash).Safe s ↔ ¬s.table.Full) := by
  have hone : (HtRun.system fourBytes.eq hash).Reachable (_ : HtRun (Key 4) ℕ) :=
    System.Reachable.init.step (a := .insert (ofNat 1) 7) trivial rfl
  exact ⟨_, rfl, refinesMap_of_reachable fourBytes hone⟩

theorem ofNat_inj {m n : ℕ} (hm : m < 2 ^ 32) (hn : n < 2 ^ 32) (h : ofNat m = ofNat n) :
    m = n := by
  have hbytes := Subtype.mk.inj h
  simp only [List.cons.injEq, ← UInt8.toNat_inj, UInt8.toNat_ofNat', and_true] at hbytes
  omega

/-- A table gets full. -/
theorem exists_full : ∃ s : HtRun (Key 4) ℕ,
    (HtRun.system fourBytes.eq hash).Reachable s ∧ s.table.Full := by
  -- up to there every insertion of another key goes through
  have hrun : ∀ n ≤ 2 ^ 30 + 1, (∃ s : HtRun (Key 4) ℕ,
      (HtRun.system fourBytes.eq hash).Reachable s ∧ s.table.Full) ∨
      ∃ s : HtRun (Key 4) ℕ, (HtRun.system fourBytes.eq hash).Reachable s ∧ s.table.sz = n ∧
        ∀ m v, s.map (ofNat m) = some v → m < 2 ^ 32 → m < n := by
    intro n
    induction n with
    | zero => exact fun _ => .inr ⟨_, .init, rfl, fun m v h => by cases h⟩
    | succ n ih =>
      intro hn
      rcases ih (by omega) with hfull | ⟨s, hs, hsz, hkeys⟩
      · exact .inl hfull
      · by_cases hfull : s.table.Full
        · exact .inl ⟨s, hs, hfull⟩
        · have hinv := HtRun.inv_of_reachable fourBytes.lawfulHash hs
          obtain ⟨t', ht', -, -, hsz'⟩ :=
            hinv.wf.insert fourBytes.lawfulHash hfull (ofNat n) 0
          have hstep : (HtRun.system fourBytes.eq hash).step s (.insert (ofNat n) 0) =
              some ⟨t', fun k => if fourBytes.eq (ofNat n) k then some 0 else s.map k⟩ := by
            simp only [HtRun.system, HtRun.step, ht', Option.bind_eq_bind, Option.bind_some]
          refine .inr ⟨_, hs.step trivial hstep, ?_, fun m v hm hlt => ?_⟩
          · rw [hsz' fun w hw => ?_, hsz]
            exact Nat.lt_irrefl n (hkeys n w ((hinv.map _ _).2 hw) (by omega))
          · simp only at hm
            by_cases heq : fourBytes.eq (ofNat n) (ofNat m) = true
            · have := ofNat_inj (by omega) hlt (beq_iff_eq.1 heq)
              omega
            · rw [if_neg heq] at hm
              exact Nat.lt_succ_of_lt (hkeys m v hm hlt)
  rcases hrun _ le_rfl with hfull | ⟨s, hs, hsz, -⟩
  · exact hfull
  · have hwf := (HtRun.inv_of_reachable fourBytes.lawfulHash hs).wf
    have hle := hwf.sz_le
    have hroom := hwf.room
    have hmax := hwf.cap_bounds.2
    exact ⟨s, hs, by omega, .inl (by omega)⟩

/-- The next operation on a full table fails. -/
theorem not_refinesMap_of_reachable :
    ¬ ∀ s : HtRun (Key 4) ℕ, (HtRun.system fourBytes.eq hash).Reachable s →
      s.Refines fourBytes.eq hash ∧ (HtRun.system fourBytes.eq hash).Safe s := by
  intro h
  obtain ⟨s, hs, hfull⟩ := exists_full
  have hinv := HtRun.inv_of_reachable fourBytes.lawfulHash hs
  exact (hinv.safe_iff fourBytes.lawfulHash).1 (h s hs).2 hfull

end KeyEq

end FlexRic
