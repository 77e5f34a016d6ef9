import FlexRic.AlgDs.AssocRbRuns

/-!
# The iterators of the bidirectional map (`bimap.c`, `alg_ds/alg/find.c`)

There is one copy of each function for either side. The copy of `bi_map_end` for the left side
gives the front of the tree, where the copy for the right side gives its end. The copy of
`find_if_bi_map` for the right side hands the node over to the predicate, where the copy for the
left side hands over its key.
-/

namespace FlexRic

/-! ## Loops over a container -/

/-- The loop `while(it != end) it = next(it)` from `it` on: the iterators that it meets. -/
def walk (next : ℕ → Option ℕ) (endIt : ℕ) : ℕ → ℕ → Option (List ℕ)
  | 0, _ => none
  | rounds + 1, it =>
    if it = endIt then pure []
    else do
      let it' ← next it
      let its ← walk next endIt rounds it'
      pure (it :: its)

/-- The loop that ends at the first iterator that passes the test. -/
def findFrom (next : ℕ → Option ℕ) (endIt : ℕ) (test : ℕ → Option Bool) : ℕ → ℕ → Option ℕ
  | 0, _ => none
  | rounds + 1, it =>
    if it = endIt then pure it
    else do
      let found ← test it
      if found then pure it
      else
        let it' ← next it
        findFrom next endIt test rounds it'

namespace AssocRbTreeT

variable {K V : Type}

/-- The iterator at the first entry that satisfies the predicate, or the end. -/
def firstWhere (endIt : ℕ) (f : K × ℕ × V → Bool) (es : List (K × ℕ × V)) : ℕ :=
  ((es.find? f).map fun e => e.2.1).getD endIt

variable {t : AssocRbTreeT K V} {d sz s fuel rounds : ℕ} {r : AssocCells K V}
  {n : AssocNode K (ℕ × V)} {es fs : List (K × ℕ × V)}

theorem At.walk (h : t.At d sz s n [] r) (hfuel : n.toList.length < fuel)
    (hes : n.toList = es ++ fs) (hrounds : fs.length < rounds) :
    FlexRic.walk (t.next fuel) t.dummy rounds (firstAddr d fs) = some (fs.map fun e => e.2.1) := by
  induction fs generalizing es rounds with
  | nil =>
    cases rounds with
    | zero => exact absurd hrounds (Nat.not_lt_zero _)
    | succ rounds => exact if_pos h.dummy.symm
  | cons e fs ih =>
    cases rounds with
    | zero => exact absurd hrounds (Nat.not_lt_zero _)
    | succ rounds =>
      obtain ⟨hne, -, -, hnext⟩ := h.entry hfuel hes
      have hsplit : n.toList = (es ++ [e]) ++ fs := by
        rw [hes, List.append_assoc]
        rfl
      have hrest := ih hsplit (Nat.lt_of_succ_lt_succ hrounds)
      simp only [FlexRic.walk, firstAddr_cons, if_neg hne, hnext, hrest,
        Option.bind_eq_bind, Option.bind_some, Option.pure_def, List.map_cons]

theorem At.findFrom (h : t.At d sz s n [] r) (hfuel : n.toList.length < fuel)
    (hes : n.toList = es ++ fs) (hrounds : fs.length < rounds) {test : ℕ → Option Bool}
    {f : K × ℕ × V → Bool} (htest : ∀ e ∈ fs, test e.2.1 = some (f e)) :
    FlexRic.findFrom (t.next fuel) t.dummy test rounds (firstAddr d fs) =
      some (firstWhere t.dummy f fs) := by
  induction fs generalizing es rounds with
  | nil =>
    cases rounds with
    | zero => exact absurd hrounds (Nat.not_lt_zero _)
    | succ rounds =>
      rw [FlexRic.findFrom, firstAddr_nil, if_pos h.dummy.symm, h.dummy]
      rfl
  | cons e fs ih =>
    cases rounds with
    | zero => exact absurd hrounds (Nat.not_lt_zero _)
    | succ rounds =>
      obtain ⟨hne, -, -, hnext⟩ := h.entry hfuel hes
      have hfound := htest e List.mem_cons_self
      rw [FlexRic.findFrom, firstAddr_cons, if_neg hne, hfound]
      cases hf : f e with
      | true =>
        rw [firstWhere, List.find?_cons_of_pos hf]
        rfl
      | false =>
        have hsplit : n.toList = (es ++ [e]) ++ fs := by
          rw [hes, List.append_assoc]
          rfl
        have hrest := ih hsplit (Nat.lt_of_succ_lt_succ hrounds) fun e he =>
          htest e (List.mem_cons_of_mem _ he)
        rw [firstWhere, List.find?_cons_of_neg (by simp [hf]), hnext]
        exact hrest

/-- The nodes of a tree have different addresses. -/
theorem map_fst_cells (d p : ℕ) (n : AssocNode K (ℕ × V)) :
    (n.cells d p).map Prod.fst = (n.toList.map fun e => e.2.1 : List ℕ) := by
  induction n generalizing p with
  | dummy => rfl
  | node c l k x r ihl ihr =>
    rw [AssocNode.cells, Multiset.map_add, Multiset.map_add, ihl, ihr, AssocNode.toList_node,
      List.map_append, List.map_cons, Multiset.map_singleton, ← Multiset.coe_add,
      ← Multiset.cons_coe, Multiset.add_cons, Multiset.singleton_add]

/-- The memory holds a balanced search tree with these entries; each has the address of its node. -/
def Lists (cmp : K → K → Ordering) (t : AssocRbTreeT K V) (es : List (K × ℕ × V)) : Prop :=
  ∃ T, t.Represents cmp T ∧ T.toList = es

variable {cmp : K → K → Ordering}

theorem Lists.sorted (h : t.Lists cmp es) : Sorted cmp es := by
  obtain ⟨T, hT, rfl⟩ := h
  exact hT.wf.sorted

theorem Lists.size (h : t.Lists cmp es) : t.size = es.length := by
  obtain ⟨T, hT, rfl⟩ := h
  exact hT.size

theorem Lists.nodup (h : t.Lists cmp es) : (es.map fun e => e.2.1).Nodup := by
  obtain ⟨T, hT, rfl⟩ := h
  obtain ⟨s, hat⟩ := hT.nodes
  have hnodup := hat.holds.nodup
  rw [Multiset.map_add, Multiset.map_add] at hnodup
  have hcells := Multiset.nodup_of_le
    ((Multiset.le_add_right _ _).trans (Multiset.le_add_left _ _)) hnodup
  rwa [map_fst_cells, Multiset.coe_nodup] at hcells

/-- `assoc_rb_tree_front`: the first entry. -/
theorem Lists.front (h : t.Lists cmp es) :
    t.front (t.size + 1) = some (firstAddr t.dummy es) := by
  obtain ⟨T, hT, rfl⟩ := h
  have hsize := hT.size
  obtain ⟨s, hat⟩ := hT.nodes
  rw [AssocRbTreeT.front, show t.root = T.root.addr t.dummy from hat.root]
  exact hat.minimum (Nat.lt_succ_of_le hsize.ge)

theorem Lists.walk (h : t.Lists cmp es) :
    FlexRic.walk (t.next (t.size + 1)) t.dummy (t.size + 1) (firstAddr t.dummy es) =
      some (es.map fun e => e.2.1) := by
  obtain ⟨T, hT, rfl⟩ := h
  have hfuel := Nat.lt_succ_of_le hT.size.ge
  obtain ⟨s, hat⟩ := hT.nodes
  exact hat.walk hfuel (List.nil_append _).symm hfuel

theorem Lists.keyAt (h : t.Lists cmp es) {e : K × ℕ × V} (he : e ∈ es) :
    t.keyAt e.2.1 = some e.1 := by
  obtain ⟨T, hT, rfl⟩ := h
  have hfuel := Nat.lt_succ_of_le hT.size.ge
  obtain ⟨s, hat⟩ := hT.nodes
  obtain ⟨as, bs, hsplit⟩ := List.append_of_mem he
  exact (hat.entry hfuel hsplit).2.1

theorem Lists.mem (h : t.Lists cmp es) {e : K × ℕ × V} (he : e ∈ es) :
    (t.mem e.2.1).isSome := by
  have hkey := h.keyAt he
  cases hmem : t.mem e.2.1 with
  | some n => rfl
  | none =>
    rw [AssocRbTreeT.keyAt, AssocRbTreeT.key, hmem] at hkey
    obtain ⟨_, -, hnone⟩ := Option.bind_eq_some_iff.1 hkey
    cases hnone

theorem Lists.findFrom (h : t.Lists cmp es) (test : ℕ → Option Bool) (f : K × ℕ × V → Bool)
    (htest : ∀ e ∈ es, test e.2.1 = some (f e)) :
    FlexRic.findFrom (t.next (t.size + 1)) t.dummy test (t.size + 1) (firstAddr t.dummy es) =
      some (firstWhere t.dummy f es) := by
  obtain ⟨T, hT, rfl⟩ := h
  have hfuel := Nat.lt_succ_of_le hT.size.ge
  obtain ⟨s, hat⟩ := hT.nodes
  exact hat.findFrom hfuel (List.nil_append _).symm hfuel htest

/-- `assoc_rb_tree_insert` adds one to the size. -/
theorem Represents.insert_some [Std.TransCmp cmp] {T : AssocRbTree K (ℕ × V)}
    (h : t.Represents cmp T) {z : ℕ} (hz : t.mem z = none) {key : K} {value : V}
    {t' : AssocRbTreeT K V} (ht : t.insert (t.size + 1) cmp z key value = some t') :
    (∃ T', t'.Represents cmp T') ∧ t'.size = t.size + 1 := by
  obtain ⟨t₁, ht₁, h₁⟩ := h.insert hz key value
  obtain rfl := Option.some.inj (ht₁.symm.trans ht)
  refine ⟨⟨_, h₁⟩, ?_⟩
  rw [h₁.size, (AssocRbTree.perm_insert cmp T key (z, value)).length_eq, h.size, List.length_cons]

/-- `assoc_rb_tree_extract` returns only if it finds the key. -/
theorem Represents.extract_some {T : AssocRbTree K (ℕ × V)} (h : t.Represents cmp T) {key : K}
    {value : V} {t' : AssocRbTreeT K V} (ht : t.extract (t.size + 1) cmp key = some (value, t')) :
    ∃ T', t'.Represents cmp T' := by
  cases hT : T.extract cmp key with
  | some p =>
    obtain ⟨t₁, ht₁, h₁⟩ := h.extract hT
    rw [ht₁] at ht
    cases ht
    exact ⟨_, h₁⟩
  | none =>
    exfalso
    have hfuel := Nat.lt_succ_of_le h.size.ge
    have hsize := h.wf.size_eq
    obtain ⟨s, hat⟩ := h.nodes
    have hfind : t.findRbTree cmp key (t.size + 1) (T.root.addr t.dummy) = _ :=
      hat.findRbTree hfuel
    rw [← show t.root = T.root.addr t.dummy from hat.root] at hfind
    cases hnode : FlexRic.findRbTree cmp key T.root [] with
    | none =>
      rw [hnode] at hfind
      simp only [AssocRbTreeT.extract, hfind, Option.elim_none, guard, ne_eq, not_true_eq_false,
        if_false, Option.bind_eq_bind, Option.bind_some] at ht
      cases ht
    | some y =>
      obtain ⟨m, q⟩ := y
      obtain ⟨c, l, k, x, r, rfl, -, hsplit⟩ := findRbTree_split hnode
      have hne : T.size ≠ 0 := by
        rw [hsize, AssocRbTree.toList]
        intro hzero
        simp [List.length_eq_zero_iff.1 hzero, AssocPath.before, AssocPath.after] at hsplit
      simp [AssocRbTree.extract, hnode, hne] at hT

end AssocRbTreeT

/-! ## The map in memory -/

/-- `bi_map_t`, with its two trees in memory. -/
structure BiMapT (K₁ K₂ : Type) : Type where
  left : AssocRbTreeT K₁ K₂
  right : AssocRbTreeT K₂ K₁

/-- What happens to a map. -/
inductive BiMapTOp (K₁ K₂ : Type) : Type where
  /-- an insertion; `malloc` put the new nodes at `z₁` and `z₂` -/
  | insert (z₁ z₂ : ℕ) (key₁ : K₁) (key₂ : K₂) : BiMapTOp K₁ K₂
  /-- an extraction by the left key -/
  | extractLeft (key₁ : K₁) : BiMapTOp K₁ K₂
  /-- an extraction by the right key -/
  | extractRight (key₂ : K₂) : BiMapTOp K₁ K₂

namespace BiMapT

variable {K₁ K₂ : Type}

section Model

variable (cmp₁ : K₁ → K₁ → Ordering) (cmp₂ : K₂ → K₂ → Ordering) (asLeft : K₂ → K₁)
  (m : BiMapT K₁ K₂)

/-- `bi_map_init`; the sentinels were allocated at `d₁` and `d₂`. -/
def init (d₁ d₂ : ℕ) : BiMapT K₁ K₂ := ⟨.init d₁, .init d₂⟩

/-- `bi_map_insert`. -/
def insert (z₁ z₂ : ℕ) (key₁ : K₁) (key₂ : K₂) : Option (BiMapT K₁ K₂) := do
  let left ← m.left.insert (m.left.size + 1) cmp₁ z₁ key₁ key₂
  let right ← m.right.insert (m.right.size + 1) cmp₂ z₂ key₂ key₁
  pure ⟨left, right⟩

/-- `bi_map_extract_left`; `asLeft` is what the comparator of the left keys reads in the memory of
a right key. -/
def extractLeft (key₁ : K₁) : Option (K₂ × BiMapT K₁ K₂) := do
  let (key₂, left) ← m.left.extract (m.left.size + 1) cmp₁ key₁
  let (key₃, right) ← m.right.extract (m.right.size + 1) cmp₂ key₂
  guard (cmp₁ (asLeft key₂) key₃ = .eq)
  guard (left.size = right.size)
  pure (key₂, ⟨left, right⟩)

/-- `bi_map_extract_right`. -/
def extractRight (key₂ : K₂) : Option (K₁ × BiMapT K₁ K₂) := do
  let (key₁, right) ← m.right.extract (m.right.size + 1) cmp₂ key₂
  let (key₃, left) ← m.left.extract (m.left.size + 1) cmp₁ key₁
  guard (cmp₂ key₂ key₃ = .eq)
  guard (left.size = right.size)
  pure (key₁, ⟨left, right⟩)

/-- `bi_map_front_left`. -/
def frontLeft : Option ℕ := m.left.front (m.left.size + 1)

/-- `bi_map_next_left`. -/
def nextLeft (it : ℕ) : Option ℕ := m.left.next (m.left.size + 1) it

/-- `bi_map_end_left`. -/
def endLeft : Option ℕ := m.left.front (m.left.size + 1)

/-- `bi_map_front_right`. -/
def frontRight : Option ℕ := m.right.front (m.right.size + 1)

/-- `bi_map_next_right`. -/
def nextRight (it : ℕ) : Option ℕ := m.right.next (m.right.size + 1) it

/-- `bi_map_end_right`. -/
def endRight : Option ℕ := some m.right.endNode

/-- The loop over the map from `bi_map_front_left` to `bi_map_end_left`. -/
def visitLeft : Option (List ℕ) := do
  let startIt ← m.frontLeft
  let endIt ← m.endLeft
  walk m.nextLeft endIt (m.left.size + 1) startIt

/-- The loop over the map from `bi_map_front_right` to `bi_map_end_right`. -/
def visitRight : Option (List ℕ) := do
  let startIt ← m.frontRight
  let endIt ← m.endRight
  walk m.nextRight endIt (m.right.size + 1) startIt

/-- `find_if_bi_map_left`. -/
def findIfBiMapLeft (startIt endIt : ℕ) (f : K₁ → Bool) : Option ℕ :=
  findFrom m.nextLeft endIt (fun it => (m.left.keyAt it).map f) (m.left.size + 1) startIt

/-- `find_if_bi_map_right`. The predicate takes the node for a key: `asKey` is what it reads at the
address of a node. -/
def findIfBiMapRight (asKey : ℕ → K₂) (startIt endIt : ℕ) (f : K₂ → Bool) : Option ℕ :=
  findFrom m.nextRight endIt (fun it => (m.right.mem it).map fun _ => f (asKey it))
    (m.right.size + 1) startIt

/-- The search over the whole map, by the left keys. -/
def findLeft (f : K₁ → Bool) : Option ℕ := do
  let startIt ← m.frontLeft
  let endIt ← m.endLeft
  m.findIfBiMapLeft startIt endIt f

/-- The search over the whole map, by the right keys. -/
def findRight (asKey : ℕ → K₂) (f : K₂ → Bool) : Option ℕ := do
  let startIt ← m.frontRight
  let endIt ← m.endRight
  m.findIfBiMapRight asKey startIt endIt f

end Model

/-- What the iterators are for: the loops meet the entries of either tree, each once and in order,
and the searches give the first one whose key satisfies the predicate, or the end. -/
structure Iterates (asKey : ℕ → K₂) (m : BiMapT K₁ K₂) (es₁ : List (K₁ × ℕ × K₂))
    (es₂ : List (K₂ × ℕ × K₁)) : Prop where
  visitLeft : m.visitLeft = some (es₁.map fun e => e.2.1)
  visitRight : m.visitRight = some (es₂.map fun e => e.2.1)
  findLeft : ∀ f, m.findLeft f =
    m.endLeft.map fun endIt => AssocRbTreeT.firstWhere endIt (fun e => f e.1) es₁
  findRight : ∀ f, m.findRight asKey f =
    m.endRight.map fun endIt => AssocRbTreeT.firstWhere endIt (fun e => f e.1) es₂

variable {cmp₁ : K₁ → K₁ → Ordering} {cmp₂ : K₂ → K₂ → Ordering} {m m' : BiMapT K₁ K₂}
  {es₁ : List (K₁ × ℕ × K₂)} {es₂ : List (K₂ × ℕ × K₁)}

/-- The loop over the left side ends before its first round. -/
theorem visitLeft_eq (h : m.left.Lists cmp₁ es₁) : m.visitLeft = some [] := by
  rw [visitLeft, frontLeft, endLeft, h.front]
  exact if_pos rfl

theorem visitRight_eq (h : m.right.Lists cmp₂ es₂) :
    m.visitRight = some (es₂.map fun e => e.2.1) := by
  rw [visitRight, frontRight, endRight, h.front]
  exact h.walk

/-- The search over the left side looks at no key. -/
theorem findLeft_eq (h : m.left.Lists cmp₁ es₁) (f : K₁ → Bool) :
    m.findLeft f = some (firstAddr m.left.dummy es₁) := by
  rw [findLeft, frontLeft, endLeft, h.front]
  exact if_pos rfl

theorem findLeft_iff (h : m.left.Lists cmp₁ es₁) (f : K₁ → Bool) :
    (m.findLeft f =
        m.endLeft.map fun endIt => AssocRbTreeT.firstWhere endIt (fun e => f e.1) es₁) ↔
      (∀ e ∈ es₁, f e.1 = false) ∨ ∃ e ∈ es₁.head?, f e.1 = true := by
  rw [findLeft_eq h, endLeft, h.front, Option.map_some, Option.some_inj]
  have hnodup := h.nodup
  cases es₁ with
  | nil => exact iff_of_true rfl (.inl fun e he => absurd he List.not_mem_nil)
  | cons e₀ es =>
    simp only [firstAddr_cons, AssocRbTreeT.firstWhere, List.head?_cons, Option.mem_def,
      Option.some_inj, exists_eq_left']
    cases hfind : (e₀ :: es).find? fun e => f e.1 with
    | none =>
      refine iff_of_true rfl (.inl fun e he => ?_)
      simpa using List.find?_eq_none.1 hfind e he
    | some e =>
      have hmem := List.mem_of_find?_eq_some hfind
      have hf : f e.1 = true := by simpa using List.find?_some hfind
      simp only [Option.map_some, Option.getD_some]
      constructor
      · intro haddr
        have heq : e₀ = e := List.inj_on_of_nodup_map hnodup List.mem_cons_self hmem haddr
        exact .inr (heq ▸ hf)
      · rintro (hnone | hfirst)
        · rw [hnone e hmem] at hf
          cases hf
        · rw [List.find?_cons_of_pos (p := fun e : K₁ × ℕ × K₂ => f e.1) hfirst] at hfind
          cases hfind
          rfl

/-- The search over the right side finds the first node that passes for a key as asked for. -/
theorem findRight_eq (h : m.right.Lists cmp₂ es₂) (asKey : ℕ → K₂) (f : K₂ → Bool) :
    m.findRight asKey f =
      some (AssocRbTreeT.firstWhere m.right.dummy (fun e => f (asKey e.2.1)) es₂) := by
  rw [findRight, frontRight, endRight, h.front]
  refine h.findFrom (fun it => (m.right.mem it).map fun _ => f (asKey it)) _ fun e he => ?_
  obtain ⟨n, hn⟩ := Option.isSome_iff_exists.1 (h.mem he)
  rw [hn, Option.map_some]

/-! ## Runs -/

/-- A bidirectional map from `bi_map_init` on. -/
def system (cmp₁ : K₁ → K₁ → Ordering) (cmp₂ : K₂ → K₂ → Ordering) (asLeft : K₂ → K₁)
    (d₁ d₂ : ℕ) : System (BiMapT K₁ K₂) (BiMapTOp K₁ K₂) where
  init := .init d₁ d₂
  enabled m
    | .insert z₁ z₂ _ _ => m.left.mem z₁ = none ∧ m.right.mem z₂ = none
    | _ => True
  step m
    | .insert z₁ z₂ key₁ key₂ => m.insert cmp₁ cmp₂ z₁ z₂ key₁ key₂
    | .extractLeft key₁ => (m.extractLeft cmp₁ cmp₂ asLeft key₁).map Prod.snd
    | .extractRight key₂ => (m.extractRight cmp₁ cmp₂ key₂).map Prod.snd

/-- Both trees are in order, and they have the same size. -/
structure WF (cmp₁ : K₁ → K₁ → Ordering) (cmp₂ : K₂ → K₂ → Ordering) (m : BiMapT K₁ K₂) :
    Prop where
  left : ∃ T, m.left.Represents cmp₁ T
  right : ∃ T, m.right.Represents cmp₂ T
  size : m.left.size = m.right.size

theorem wf_of_reachable [Std.TransCmp cmp₁] [Std.TransCmp cmp₂] {asLeft : K₂ → K₁} {d₁ d₂ : ℕ}
    (h : (system cmp₁ cmp₂ asLeft d₁ d₂).Reachable m) : m.WF cmp₁ cmp₂ := by
  refine h.invariant ⟨⟨_, AssocRbTreeT.represents_init d₁⟩, ⟨_, AssocRbTreeT.represents_init d₂⟩,
    rfl⟩ ?_
  rintro m op m' ⟨⟨T₁, hleft⟩, ⟨T₂, hright⟩, hsize⟩ he hstep
  cases op with
  | insert z₁ z₂ key₁ key₂ =>
    obtain ⟨left, hl, hstep⟩ := Option.bind_eq_some_iff.1 hstep
    obtain ⟨right, hr, hstep⟩ := Option.bind_eq_some_iff.1 hstep
    cases hstep
    obtain ⟨hleft', hlsize⟩ := hleft.insert_some he.1 hl
    obtain ⟨hright', hrsize⟩ := hright.insert_some he.2 hr
    refine ⟨hleft', hright', ?_⟩
    rw [hlsize, hrsize, hsize]
  | extractLeft key₁ =>
    obtain ⟨⟨key₂, m₁⟩, hext, rfl⟩ := Option.map_eq_some_iff.1 hstep
    obtain ⟨⟨_, left⟩, hl, hext⟩ := Option.bind_eq_some_iff.1 hext
    obtain ⟨⟨_, right⟩, hr, hext⟩ := Option.bind_eq_some_iff.1 hext
    obtain ⟨_, -, hext⟩ := Option.bind_eq_some_iff.1 hext
    obtain ⟨_, hsize', hext⟩ := Option.bind_eq_some_iff.1 hext
    cases hext
    exact ⟨hleft.extract_some hl, hright.extract_some hr, (Option.guard_eq_some' _).1 hsize'⟩
  | extractRight key₂ =>
    obtain ⟨⟨key₁, m₁⟩, hext, rfl⟩ := Option.map_eq_some_iff.1 hstep
    obtain ⟨⟨_, right⟩, hr, hext⟩ := Option.bind_eq_some_iff.1 hext
    obtain ⟨⟨_, left⟩, hl, hext⟩ := Option.bind_eq_some_iff.1 hext
    obtain ⟨_, -, hext⟩ := Option.bind_eq_some_iff.1 hext
    obtain ⟨_, hsize', hext⟩ := Option.bind_eq_some_iff.1 hext
    cases hext
    exact ⟨hleft.extract_some hl, hright.extract_some hr, (Option.guard_eq_some' _).1 hsize'⟩

/-- The iterators of a map do what they are for if and only if it is empty. Those of the right side
go through the whole tree; those of the left side do not leave its front. -/
theorem iterates_iff_of_reachable [Std.TransCmp cmp₁] [Std.TransCmp cmp₂] {asLeft : K₂ → K₁}
    {d₁ d₂ : ℕ} (h : (system cmp₁ cmp₂ asLeft d₁ d₂).Reachable m) (asKey : ℕ → K₂) :
    ∃ es₁ es₂, m.left.Lists cmp₁ es₁ ∧ m.right.Lists cmp₂ es₂ ∧
      (m.Iterates asKey es₁ es₂ ↔ m.left.size = 0) ∧
      m.visitRight = some (es₂.map fun e => e.2.1) ∧
      (∀ f, (m.findLeft f =
          m.endLeft.map fun endIt => AssocRbTreeT.firstWhere endIt (fun e => f e.1) es₁) ↔
        (∀ e ∈ es₁, f e.1 = false) ∨ ∃ e ∈ es₁.head?, f e.1 = true) ∧
      ∀ f, m.findRight asKey f =
        m.endRight.map fun endIt =>
          AssocRbTreeT.firstWhere endIt (fun e => f (asKey e.2.1)) es₂ := by
  obtain ⟨⟨T₁, hT₁⟩, ⟨T₂, hT₂⟩, hsize⟩ := wf_of_reachable h
  have h₁ : m.left.Lists cmp₁ T₁.toList := ⟨T₁, hT₁, rfl⟩
  have h₂ : m.right.Lists cmp₂ T₂.toList := ⟨T₂, hT₂, rfl⟩
  refine ⟨_, _, h₁, h₂, ?_, visitRight_eq h₂, findLeft_iff h₁, findRight_eq h₂ asKey⟩
  rw [h₁.size, List.length_eq_zero_iff]
  constructor
  · intro hit
    have hnil := (visitLeft_eq h₁).symm.trans hit.visitLeft
    exact List.map_eq_nil_iff.1 (Option.some.inj hnil).symm
  · intro hnil
    have hnil₂ : T₂.toList = [] := by
      rw [h₁.size, h₂.size, hnil, List.length_nil] at hsize
      exact List.length_eq_zero_iff.1 hsize.symm
    refine ⟨?_, visitRight_eq h₂, fun f => ?_, fun f => ?_⟩
    · rw [visitLeft_eq h₁, hnil]
      rfl
    · rw [findLeft_iff h₁, hnil]
      exact .inl fun e he => absurd he List.not_mem_nil
    · rw [findRight_eq h₂, hnil₂]
      rfl

/-- A map of numbers with one pair. -/
theorem iterates_iff_of_reachable_one :
    ∃ m : BiMapT ℕ ℕ, m.left.size = 1 ∧ ∃ es₁ es₂,
      m.left.Lists compare es₁ ∧ m.right.Lists compare es₂ ∧
        (m.Iterates id es₁ es₂ ↔ m.left.size = 0) := by
  have hone := System.Reachable.init.step
    (M := system compare compare (fun k : ℕ => k) 1 1) (a := .insert 2 2 4 5) ⟨rfl, rfl⟩ rfl
  obtain ⟨es₁, es₂, h₁, h₂, hiff, -⟩ := iterates_iff_of_reachable hone id
  exact ⟨_, rfl, es₁, es₂, h₁, h₂, hiff⟩

/-- The loop over the left side of this map does not meet its pair. -/
theorem not_iterates_one :
    ¬ ∀ m : BiMapT ℕ ℕ, (system compare compare id 1 1).Reachable m →
      ∀ asKey : ℕ → ℕ, ∃ es₁ es₂,
        m.left.Lists compare es₁ ∧ m.right.Lists compare es₂ ∧ m.Iterates asKey es₁ es₂ := by
  intro hall
  have hone := System.Reachable.init.step
    (M := system compare compare (fun k : ℕ => k) 1 1) (a := .insert 2 2 4 5) ⟨rfl, rfl⟩ rfl
  obtain ⟨es₁, es₂, h₁, -, hit⟩ := hall _ hone id
  have hnil := Option.some.inj ((visitLeft_eq h₁).symm.trans hit.visitLeft)
  have hsize := h₁.size
  rw [List.map_eq_nil_iff.1 hnil.symm] at hsize
  cases hsize

end BiMapT

end FlexRic
