import FlexRic.AlgDs.AssocRbIter
import FlexRic.Semantics.System
import Mathlib.Logic.Function.Basic

/-!
# Runs of the container in memory

Any sequence of insertions and extractions keeps a balanced search tree in memory and fails no
assertion. With a new key in each insertion the container is a finite map.

Every loop has one more round than the tree has nodes.
-/

namespace FlexRic

variable {K V : Type}

/-- What happens to a container. -/
inductive AssocRbOp (K V : Type) : Type where
  /-- an insertion; `malloc` put the new node at `z` -/
  | insert (z : ℕ) (key : K) (value : V) : AssocRbOp K V
  /-- an extraction -/
  | extract (key : K) : AssocRbOp K V

namespace AssocRbTreeT

/-- The container has an entry with this key. -/
def Present (cmp : K → K → Ordering) (t : AssocRbTreeT K V) (key : K) : Prop :=
  ∃ es, t.visit (t.size + 1) = some es ∧ ∃ e ∈ es, cmp key e.1 = .eq

/-- The value of a key, by `find_rb_tree` and `assoc_rb_tree_value`; `none` at the end. -/
def lookup (fuel : ℕ) (cmp : K → K → Ordering) (t : AssocRbTreeT K V) (key : K) :
    Option (Option V) := do
  let it ← t.findRbTree cmp key fuel t.root
  if it = t.endNode then pure none
  else
    let value ← t.valueAt it
    pure (some value)

end AssocRbTreeT

/-- A container from `assoc_rb_tree_init` on. -/
def assocRbSystem (cmp : K → K → Ordering) (dummy : ℕ) :
    System (AssocRbTreeT K V) (AssocRbOp K V) where
  init := .init dummy
  enabled t
    | .insert z _ _ => t.mem z = none
    | .extract key => t.Present cmp key
  step t
    | .insert z key value => t.insert (t.size + 1) cmp z key value
    | .extract key => (t.extract (t.size + 1) cmp key).map Prod.snd

namespace AssocRbTreeT

/-! ## Trees in memory -/

variable {cmp : K → K → Ordering} {t : AssocRbTreeT K V} {T : AssocRbTree K (ℕ × V)}

/-- The memory holds a balanced search tree. -/
structure Represents (cmp : K → K → Ordering) (t : AssocRbTreeT K V)
    (T : AssocRbTree K (ℕ × V)) : Prop where
  nodes : ∃ s, t.At t.dummy T.size s T.root [] 0
  balanced : T.root.IsRedBlack
  wf : T.WF cmp

theorem represents_init (dummy : ℕ) : Represents cmp (init dummy : AssocRbTreeT K V) .init := by
  refine ⟨⟨null, rfl, rfl, rfl, ?_⟩, AssocRbTree.isRedBlack_init, AssocRbTree.wf_init⟩
  have hempty : Memory.Holds (fun _ => none : Memory (AssocNodeT K V)) 0 :=
    ⟨Multiset.nodup_zero, fun e he => absurd he (Multiset.notMem_zero e)⟩
  exact hempty.alloc rfl _

theorem Represents.size (h : t.Represents cmp T) : t.size = T.toList.length := by
  obtain ⟨s, hat⟩ := h.nodes
  rw [hat.size, h.wf.size_eq]

theorem Represents.insert [Std.TransCmp cmp] (h : t.Represents cmp T) {z : ℕ}
    (hz : t.mem z = none) (key : K) (value : V) :
    ∃ t', t.insert (t.size + 1) cmp z key value = some t' ∧
      t'.Represents cmp (T.insert cmp key (z, value)) := by
  obtain ⟨s, hat⟩ := h.nodes
  have hfuel : T.root.toList.length < t.size + 1 := Nat.lt_succ_of_le h.size.ge
  obtain ⟨t', ht', hat'⟩ := hat.insert h.balanced hz hfuel value
  refine ⟨t', ht', ⟨s, ?_⟩, AssocRbTree.isRedBlack_insert h.balanced cmp key _, h.wf.insert key _⟩
  rw [hat'.dummy]
  exact hat'

theorem Represents.extract (h : t.Represents cmp T) {key : K} {x : ℕ × V}
    {T' : AssocRbTree K (ℕ × V)} (hT : T.extract cmp key = some (x, T')) :
    ∃ t', t.extract (t.size + 1) cmp key = some (x.2, t') ∧ t'.Represents cmp T' := by
  have hbal := AssocRbTree.isRedBlack_extract h.balanced hT
  have hwf := h.wf.extract hT
  obtain ⟨s, hat⟩ := h.nodes
  have hfuel : T.root.toList.length < t.size + 1 := Nat.lt_succ_of_le h.size.ge
  unfold AssocRbTree.extract at hT
  split at hT
  · next c l k x' m p hfind =>
    split at hT
    · cases hT
    · next hsz =>
      cases hT
      obtain ⟨t', s', ht', hat'⟩ := hat.extract h.balanced hfuel hfind hsz
      refine ⟨t', ht', ⟨s', ?_⟩, hbal, hwf⟩
      rw [hat'.dummy]
      exact hat'
  · cases hT

/-- The loop over the container visits the entries of the tree. -/
theorem Represents.visit (h : t.Represents cmp T) :
    t.visit (t.size + 1) = some (T.toList.map fun e => (e.1, e.2.2)) := by
  obtain ⟨s, hat⟩ := h.nodes
  exact hat.visit (Nat.lt_succ_of_le h.size.ge)

theorem Represents.present_iff (h : t.Represents cmp T) {key : K} :
    t.Present cmp key ↔ ∃ e ∈ T.toList, cmp key e.1 = .eq := by
  rw [Present, h.visit]
  constructor
  · rintro ⟨es, hes, e, he, hkey⟩
    obtain rfl := Option.some.inj hes
    obtain ⟨e', he', rfl⟩ := List.mem_map.1 he
    exact ⟨e', he', hkey⟩
  · rintro ⟨e, he, hkey⟩
    exact ⟨_, rfl, _, List.mem_map_of_mem he, hkey⟩

/-- A step from a balanced search tree goes through and leads to one. -/
theorem Represents.step [Std.TransCmp cmp] {dummy : ℕ} {op : AssocRbOp K V}
    (h : t.Represents cmp T) (he : (assocRbSystem cmp dummy).enabled t op) :
    ∃ t' T', (assocRbSystem cmp dummy).step t op = some t' ∧ t'.Represents cmp T' := by
  cases op with
  | insert z key value =>
    obtain ⟨t', ht', h'⟩ := h.insert he key value
    exact ⟨t', _, ht', h'⟩
  | extract key =>
    obtain ⟨e, hmem, hkey⟩ := h.present_iff.1 he
    obtain ⟨x, T', hT⟩ := h.wf.extract_isSome hmem hkey
    obtain ⟨t', ht', h'⟩ := h.extract hT
    refine ⟨t', T', ?_, h'⟩
    simp only [assocRbSystem, ht', Option.map_some]

theorem represents_of_reachable [Std.TransCmp cmp] {dummy : ℕ}
    (h : (assocRbSystem cmp dummy).Reachable t) : ∃ T, t.Represents cmp T := by
  refine h.invariant (P := fun t => ∃ T, t.Represents cmp T) ⟨_, represents_init dummy⟩ ?_
  rintro t op t' ⟨T, hT⟩ he ht'
  obtain ⟨t₁, T', ht₁, hT'⟩ := hT.step he
  obtain rfl := Option.some.inj (ht₁.symm.trans ht')
  exact ⟨T', hT'⟩

/-! ## Balance -/

/-- A balanced search tree in memory; a value comes with the address of its node. -/
structure Balanced (cmp : K → K → Ordering) (t : AssocRbTreeT K V)
    (n : AssocNode K (ℕ × V)) : Prop where
  /-- the memory holds the nodes of the tree -/
  nodes : ∃ s, t.At t.dummy t.size s n [] 0
  /-- every child has the node as its parent -/
  linked : ∀ e ∈ n.toList, ∀ side b, t.child side e.2.1 = some b → b ≠ t.dummy →
    t.parent b = some e.2.1
  /-- the root has no parent -/
  root : t.root ≠ t.dummy → t.parent t.root = some t.dummy
  /-- a search tree in the order of the comparator -/
  sorted : Sorted cmp n.toList
  rootBlack : t.color t.root = some .black
  sentinelBlack : t.color t.dummy = some .black
  noRedRed : n.NoRedRed
  /-- all ways from the root to a leaf have the same number of black nodes -/
  blackCounts : ∃ b, ∀ c ∈ n.blackCounts, c = b
  size : t.size = n.toList.length

theorem At.linked {n : AssocNode K (ℕ × V)} {d sz s : ℕ} {r : AssocCells K V}
    (h : t.At d sz s n [] r) {e : K × ℕ × V} (he : e ∈ n.toList) {side : AssocSide} {b : ℕ}
    (hb : t.child side e.2.1 = some b) (hne : b ≠ d) : t.parent b = some e.2.1 := by
  obtain ⟨es, fs, hsplit⟩ := List.append_of_mem he
  obtain ⟨c, l, m, q, rfl, -, -⟩ := exists_place hsplit
  -- the child on this side is a node, and not the sentinel
  obtain ⟨a, a', hz⟩ : ∃ a a', t.At d sz s (.hang side c a e.1 e.2 a') q r := by
    cases side with
    | left => exact ⟨l, m, at_plug.1 h⟩
    | right => exact ⟨m, l, at_plug.1 h⟩
  obtain rfl : a.addr d = b := Option.some.inj (hz.child.symm.trans hb)
  have ha := at_hang.1 hz
  have hdummy : a ≠ .dummy := by
    rintro rfl
    exact hne rfl
  rw [ha.parent_top fun hd => absurd hd hdummy, AssocPath.top, AssocFrame.addr_hang]

theorem Represents.toBalanced (h : t.Represents cmp T) : t.Balanced cmp T.root := by
  have hsize := h.size
  obtain ⟨s, hat⟩ := h.nodes
  have hroot : t.root = T.root.addr t.dummy := hat.root
  obtain ⟨hblack, b, hrb⟩ := h.balanced
  obtain ⟨hred, hcounts⟩ := redBlack_iff.1 hrb
  refine ⟨⟨s, rfl, rfl, hat.root, hat.holds⟩, fun e he side b => hat.linked he, ?_, h.wf.sorted,
    ?_, hat.sentinel.1, hred, ⟨b, hcounts⟩, hsize⟩
  · intro hne
    rw [hroot]
    refine hat.parent_top fun hd => ?_
    rw [hroot, hd] at hne
    exact absurd rfl hne
  · rw [hroot, hat.color, hblack]

/-- Every run of insertions, also of equal keys, and of extractions of present keys keeps a
balanced search tree, and no assertion fails in the next step. -/
theorem balanced_of_reachable [Std.TransCmp cmp] {dummy : ℕ}
    (h : (assocRbSystem cmp dummy).Reachable t) :
    (∃ n, t.Balanced cmp n) ∧ (assocRbSystem cmp dummy).Safe t := by
  obtain ⟨T, hT⟩ := represents_of_reachable h
  refine ⟨⟨_, hT.toBalanced⟩, fun op he hfail => ?_⟩
  obtain ⟨t', T', ht', -⟩ := hT.step he
  rw [ht'] at hfail
  cases hfail

/-- The container with two entries of one key. -/
theorem balanced_of_reachable_two :
    ∃ t : AssocRbTreeT ℕ ℕ, t.size = 2 ∧ (∃ n, t.Balanced compare n) ∧
      (assocRbSystem compare 1).Safe t := by
  have hfirst := System.Reachable.init.step (M := assocRbSystem (K := ℕ) (V := ℕ) compare 1)
    (a := .insert 2 5 70) rfl rfl
  have hsecond := hfirst.step (a := .insert 3 5 71) (by rfl) rfl
  exact ⟨_, rfl, balanced_of_reachable hsecond⟩

end AssocRbTreeT

/-! ## The finite map -/

/-- A container next to the finite map that it is meant to be. The insertions are of new keys, and
the extractions of present ones. -/
def assocMapSystem [DecidableEq K] (cmp : K → K → Ordering) (dummy : ℕ) :
    System (AssocRbTreeT K V × (K → Option V)) (AssocRbOp K V) where
  init := (.init dummy, fun _ => none)
  enabled s
    | .insert z key _ => s.1.mem z = none ∧ s.2 key = none
    | .extract key => (s.2 key).isSome
  step s
    | .insert z key value => (s.1.insert (s.1.size + 1) cmp z key value).map fun t =>
        (t, Function.update s.2 key (some value))
    | .extract key => (s.1.extract (s.1.size + 1) cmp key).map fun y =>
        (y.2, Function.update s.2 key none)

namespace AssocRbTreeT

section FiniteMap

variable {cmp : K → K → Ordering} {t : AssocRbTreeT K V} {m : K → Option V}

/-- The container is the finite map. -/
structure Refines (cmp : K → K → Ordering) (t : AssocRbTreeT K V) (m : K → Option V) : Prop where
  /-- every key has the value that it has in the map -/
  lookup : ∀ key, t.lookup (t.size + 1) cmp key = some (m key)
  /-- the loop over the container ends, and visits the entries of the map in strict order -/
  visit : ∃ es, t.visit (t.size + 1) = some es ∧
    es.Pairwise (fun a b => cmp a.1 b.1 = .lt) ∧ ∀ key value, (key, value) ∈ es ↔ m key = some value

/-- The tree in memory has the entries of the map. -/
structure Entries (cmp : K → K → Ordering) (t : AssocRbTreeT K V) (m : K → Option V)
    (T : AssocRbTree K (ℕ × V)) : Prop where
  tree : t.Represents cmp T
  nodup : (T.toList.map Prod.fst).Nodup
  mem_iff : ∀ key value, (∃ z, (key, z, value) ∈ T.toList) ↔ m key = some value

variable {T : AssocRbTree K (ℕ × V)}

theorem entries_init (dummy : ℕ) :
    Entries cmp (init dummy : AssocRbTreeT K V) (fun _ => none) .init :=
  ⟨represents_init dummy, List.nodup_nil, by simp⟩

theorem Entries.lookup [Std.TransCmp cmp] [Std.LawfulEqCmp cmp] (h : t.Entries cmp m T)
    (key : K) :
    t.lookup (t.size + 1) cmp key = some (m key) := by
  have hfuel : T.root.toList.length < t.size + 1 := Nat.lt_succ_of_le h.tree.size.ge
  obtain ⟨s, hat⟩ := h.tree.nodes
  have hroot : t.root = T.root.addr t.dummy := hat.root
  have hfind : t.findRbTree cmp key (t.size + 1) (T.root.addr t.dummy) = _ := hat.findRbTree hfuel
  cases hnode : FlexRic.findRbTree cmp key T.root [] with
  | none =>
    rw [hnode, Option.elim_none] at hfind
    have hkey : m key = none := by
      cases hval : m key with
      | none => rfl
      | some value =>
        obtain ⟨z, he⟩ := (h.mem_iff key value).2 hval
        obtain ⟨n, q, hsome⟩ := findRbTree_isSome [] h.tree.wf.sorted he Std.ReflCmp.compare_self
        rw [hnode] at hsome
        cases hsome
    have hend : t.dummy = t.endNode := rfl
    simp only [AssocRbTreeT.lookup, hroot, hfind, if_pos hend, hkey, Option.bind_eq_bind,
      Option.bind_some, Option.pure_def]
  | some y =>
    obtain ⟨n, q⟩ := y
    obtain ⟨c, l, k, x, r, rfl, heq, hsplit⟩ := findRbTree_split hnode
    cases Std.LawfulEqCmp.eq_of_compare heq
    have hplug := plug_findRbTree hnode
    have hz : t.At t.dummy T.size s (.hang .left c l key x r) q 0 :=
      at_plug.1 (hplug.symm ▸ hat)
    have hkey : m key = some x.2 := by
      refine (h.mem_iff key x.2).1 ⟨x.1, ?_⟩
      have hmem : (key, x) ∈ q.before ++ (AssocNode.node c l key x r).toList ++ q.after := by simp
      rw [hsplit] at hmem
      have hroot : (key, x) ∈ T.root.toList := by
        simpa [AssocPath.before, AssocPath.after] using hmem
      exact hroot
    have hend : ¬x.1 = t.endNode := hz.ne_dummy
    have hx : t.findRbTree cmp key (t.size + 1) (T.root.addr t.dummy) = some x.1 := by
      rw [hfind, hnode]
      rfl
    simp only [AssocRbTreeT.lookup, hroot, hx, if_neg hend, hz.keyAt_valueAt.2, hkey,
      Option.bind_eq_bind, Option.bind_some, Option.pure_def]

theorem Entries.refines [Std.TransCmp cmp] [Std.LawfulEqCmp cmp] (h : t.Entries cmp m T) :
    t.Refines cmp m := by
  refine ⟨h.lookup, _, h.tree.visit, ?_, ?_⟩
  · -- the order is strict, since no two entries have one key
    rw [List.pairwise_map]
    have hne := List.pairwise_map.1 h.nodup
    refine (List.Pairwise.and h.tree.wf.sorted hne).imp ?_
    rintro a b ⟨hle, hne⟩
    cases hab : cmp a.1 b.1 with
    | lt => rfl
    | eq => exact absurd (Std.LawfulEqCmp.eq_of_compare hab) hne
    | gt =>
      rw [hab] at hle
      cases hle
  · intro key value
    rw [← h.mem_iff key value, List.mem_map]
    constructor
    · rintro ⟨⟨k, z, v⟩, he, heq⟩
      cases heq
      exact ⟨z, he⟩
    · rintro ⟨z, he⟩
      exact ⟨_, he, rfl⟩

theorem Entries.insert [DecidableEq K] [Std.TransCmp cmp] (h : t.Entries cmp m T) {z : ℕ} {key : K}
    (hz : t.mem z = none) (hkey : m key = none) (value : V) :
    ∃ t', t.insert (t.size + 1) cmp z key value = some t' ∧
      t'.Entries cmp (Function.update m key (some value)) (T.insert cmp key (z, value)) := by
  obtain ⟨t', ht', h'⟩ := h.tree.insert hz key value
  have hperm := AssocRbTree.perm_insert cmp T key (z, value)
  refine ⟨t', ht', h', ?_, ?_⟩
  · rw [(hperm.map Prod.fst).nodup_iff, List.map_cons, List.nodup_cons]
    refine ⟨fun hmem => ?_, h.nodup⟩
    obtain ⟨⟨k, z', v⟩, he, rfl⟩ := List.mem_map.1 hmem
    rw [(h.mem_iff k v).1 ⟨z', he⟩] at hkey
    cases hkey
  · intro k v
    simp only [AssocRbTree.mem_insert, Prod.mk.injEq]
    by_cases hk : k = key
    · subst hk
      rw [Function.update_self]
      constructor
      · rintro ⟨z', ⟨-, -, rfl⟩ | he⟩
        · rfl
        · rw [(h.mem_iff k v).1 ⟨z', he⟩] at hkey
          cases hkey
      · rintro heq
        exact ⟨z, .inl ⟨rfl, rfl, (Option.some.inj heq).symm⟩⟩
    · rw [Function.update_of_ne hk, ← h.mem_iff]
      simp [hk]

theorem Entries.extract [DecidableEq K] [Std.TransCmp cmp] [Std.LawfulEqCmp cmp]
    (h : t.Entries cmp m T) {key : K} {value : V} (hkey : m key = some value) :
    ∃ t' T', t.extract (t.size + 1) cmp key = some (value, t') ∧
      t'.Entries cmp (Function.update m key none) T' := by
  obtain ⟨z, he⟩ := (h.mem_iff key value).2 hkey
  obtain ⟨T', hT, hperm⟩ := h.tree.wf.extract_of_mem h.nodup he
  obtain ⟨t', ht', h'⟩ := h.tree.extract hT
  have hnodup := (hperm.map Prod.fst).nodup_iff.1 h.nodup
  rw [List.map_cons, List.nodup_cons] at hnodup
  refine ⟨t', T', ht', h', hnodup.2, ?_⟩
  intro k v
  by_cases hk : k = key
  · subst hk
    rw [Function.update_self]
    constructor
    · rintro ⟨z', he'⟩
      exact absurd (List.mem_map_of_mem he') hnodup.1
    · exact fun heq => nomatch heq
  · rw [Function.update_of_ne hk, ← h.mem_iff]
    simp [hperm.mem_iff, hk]

theorem entries_of_reachable [DecidableEq K] [Std.TransCmp cmp] [Std.LawfulEqCmp cmp] {dummy : ℕ}
    (h : (assocMapSystem cmp dummy).Reachable (t, m)) : ∃ T, t.Entries cmp m T := by
  refine h.invariant (P := fun s => ∃ T, s.1.Entries cmp s.2 T) ⟨_, entries_init dummy⟩ ?_
  rintro ⟨t, m⟩ op s' ⟨T, hT⟩ he hs'
  cases op with
  | insert z key value =>
    obtain ⟨t', ht', h'⟩ := hT.insert he.1 he.2 value
    simp only [assocMapSystem, ht', Option.map_some, Option.some.injEq] at hs'
    exact hs' ▸ ⟨_, h'⟩
  | extract key =>
    obtain ⟨value, hkey⟩ := Option.isSome_iff_exists.1 he
    obtain ⟨t', T', ht', h'⟩ := hT.extract hkey
    simp only [assocMapSystem, ht', Option.map_some, Option.some.injEq] at hs'
    exact hs' ▸ ⟨_, h'⟩

/-- In every run the container is the finite map of the entries that were inserted and not
extracted. An insertion adds its entry, and an extraction gives the value of its key and removes
only that entry. -/
theorem refines_of_reachable [DecidableEq K] [Std.TransCmp cmp] [Std.LawfulEqCmp cmp] {dummy : ℕ}
    (h : (assocMapSystem cmp dummy).Reachable (t, m)) :
    t.Refines cmp m ∧
      (∀ z key value, t.mem z = none → m key = none →
        ∃ t', t.insert (t.size + 1) cmp z key value = some t' ∧
          t'.Refines cmp (Function.update m key (some value))) ∧
      ∀ key value, m key = some value →
        ∃ t', t.extract (t.size + 1) cmp key = some (value, t') ∧
          t'.Refines cmp (Function.update m key none) ∧
          ∀ key', key' ≠ key →
            t'.lookup (t'.size + 1) cmp key' = t.lookup (t.size + 1) cmp key' := by
  obtain ⟨T, hT⟩ := entries_of_reachable h
  refine ⟨hT.refines, fun z key value hz hkey => ?_, fun key value hkey => ?_⟩
  · obtain ⟨t', ht', h'⟩ := hT.insert hz hkey value
    exact ⟨t', ht', h'.refines⟩
  · obtain ⟨t', T', ht', h'⟩ := hT.extract hkey
    refine ⟨t', ht', h'.refines, fun key' hne => ?_⟩
    rw [h'.lookup, hT.lookup, Function.update_of_ne hne]

theorem refines_of_reachable_one :
    ∃ t : AssocRbTreeT ℕ ℕ, t.lookup 2 compare 5 = some (some 70) ∧
      ∃ t', t.extract 2 compare 5 = some (70, t') ∧
        t'.Refines compare
          (Function.update (Function.update (fun _ => none) 5 (some 70)) 5 none) := by
  have hreach := System.Reachable.init.step (M := assocMapSystem (V := ℕ) compare 1)
    (a := .insert 2 5 70) ⟨rfl, rfl⟩ rfl
  obtain ⟨hrefines, -, hextract⟩ := refines_of_reachable hreach
  obtain ⟨t', ht', h', -⟩ := hextract 5 70 rfl
  exact ⟨_, hrefines.lookup 5, t', ht', h'⟩

end FiniteMap

end AssocRbTreeT

end FlexRic
