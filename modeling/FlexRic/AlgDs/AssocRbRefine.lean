import FlexRic.AlgDs.AssocRbFixup

/-!
# The container in memory refines the container

`assoc_rb_tree_insert` and `assoc_rb_tree_extract` on the nodes in memory do to the tree that the
nodes form what the functions of these names do to the tree alone, and do not fail. The rounds
of their loops are bounded by the number of nodes.
-/

namespace FlexRic

variable {K V : Type}

/-! ## Descents -/

/-- The side of the parent is the one to which the comparison sends the key. -/
def AssocFrame.Fits (cmp : K → K → Ordering) (key : K) : AssocFrame K (ℕ × V) → Prop
  | fromLeft _ k _ _ => cmp key k = .lt
  | fromRight _ _ k _ => cmp key k ≠ .lt

theorem insertPath_fits {cmp : K → K → Ordering} {key : K} {n : AssocNode K (ℕ × V)}
    {p : AssocPath K (ℕ × V)} (hp : ∀ f ∈ p.head?, f.Fits cmp key) :
    ∀ f ∈ (insertPath cmp key n p).head?, f.Fits cmp key := by
  fun_induction insertPath cmp key n p with
  | case1 p => exact hp
  | case2 c l k x r p h ih => exact ih (by simpa [AssocFrame.Fits] using h)
  | case3 c l k x r p h ih => exact ih (by simpa [AssocFrame.Fits] using h)

/-- A path has at most as many nodes as there are entries around its hole. -/
theorem length_path_le (p : AssocPath K (ℕ × V)) :
    p.length ≤ (p.before ++ p.after).length := by
  induction p with
  | nil => exact Nat.zero_le _
  | cons f p ih =>
    cases f with
    | fromLeft c k x r =>
      simp only [AssocPath.before, AssocPath.after, AssocFrame.before, AssocFrame.after,
        List.length_append, List.length_cons, List.length_nil] at ih ⊢
      omega
    | fromRight l c k x =>
      simp only [AssocPath.before, AssocPath.after, AssocFrame.before, AssocFrame.after,
        List.length_append, List.length_cons, List.length_nil] at ih ⊢
      omega

theorem length_path_le_plug (n : AssocNode K (ℕ × V)) (p : AssocPath K (ℕ × V)) :
    p.length + n.toList.length ≤ (AssocPath.plug n p).toList.length := by
  have h := length_path_le p
  rw [AssocPath.toList_plug]
  simp only [List.length_append] at h ⊢
  omega

namespace AssocRbTreeT

variable {t : AssocRbTreeT K V} {d sz s : ℕ} {r : AssocCells K V} {cmp : K → K → Ordering}
  {key : K} {p : AssocPath K (ℕ × V)}

/-- A node as it is in the tree. -/
theorem hang_left (c : AssocColor) (l : AssocNode K (ℕ × V)) (k : K) (x : ℕ × V)
    (n : AssocNode K (ℕ × V)) : AssocNode.hang .left c l k x n = .node c l k x n := rfl

theorem At.findLeaf {n : AssocNode K (ℕ × V)} {fuel : ℕ} (h : t.At d sz s n p r)
    (hfuel : n.toList.length < fuel) :
    t.findLeaf cmp key fuel (n.addr d) (p.top d) = some ((insertPath cmp key n p).top d) := by
  induction fuel generalizing n p with
  | zero => exact absurd hfuel (Nat.not_lt_zero _)
  | succ fuel ih =>
    cases n with
    | dummy => exact if_pos h.dummy.symm
    | node c l k x m =>
      rw [← hang_left] at h
      have hne : x.1 ≠ t.dummy := h.dummy.symm ▸ h.ne_dummy
      simp only [AssocNode.toList_node, List.length_append, List.length_cons] at hfuel
      rw [AssocRbTreeT.findLeaf, AssocNode.addr, if_neg hne, h.key]
      by_cases hlt : cmp key k = .lt
      · simp only [hlt, if_true, h.child, insertPath, Option.bind_eq_bind, Option.bind_some]
        exact ih (at_hang.1 h) (by omega)
      · have hright : t.child .right x.1 = some (m.addr d) := h.child_other
        simp only [hlt, if_false, hright, insertPath, Option.bind_eq_bind, Option.bind_some]
        exact ih (at_other.1 h) (by omega)

theorem At.findRbTree {n : AssocNode K (ℕ × V)} {fuel : ℕ} (h : t.At d sz s n p r)
    (hfuel : n.toList.length < fuel) :
    t.findRbTree cmp key fuel (n.addr d) =
      some ((FlexRic.findRbTree cmp key n p).elim d fun y => y.1.addr d) := by
  induction fuel generalizing n p with
  | zero => exact absurd hfuel (Nat.not_lt_zero _)
  | succ fuel ih =>
    cases n with
    | dummy => exact if_pos h.dummy.symm
    | node c l k x n =>
      rw [← hang_left] at h
      have hne : x.1 ≠ t.dummy := h.dummy.symm ▸ h.ne_dummy
      have hright : t.child .right x.1 = some (n.addr d) := h.child_other
      simp only [AssocNode.toList_node, List.length_append, List.length_cons] at hfuel
      rw [AssocRbTreeT.findRbTree, AssocNode.addr, if_neg hne, h.key, FlexRic.findRbTree]
      cases hcmp : cmp key k with
      | lt =>
        simp only [hcmp, h.child, Option.bind_eq_bind, Option.bind_some]
        exact ih (at_hang.1 h) (by omega)
      | gt =>
        simp only [hcmp, hright, Option.bind_eq_bind, Option.bind_some]
        exact ih (at_other.1 h) (by omega)
      | eq =>
        simp only [hcmp, Option.bind_eq_bind, Option.bind_some]
        rfl

theorem At.leftmost {c : AssocColor} {l : AssocNode K (ℕ × V)} {k : K} {x : ℕ × V}
    {n : AssocNode K (ℕ × V)} {fuel : ℕ} (h : t.At d sz s (.node c l k x n) p r)
    (hfuel : l.toList.length < fuel) :
    t.leftmost fuel x.1 = some (minimumPath c l k x n p).1.2.2.1.1 := by
  induction fuel generalizing c l k x n p with
  | zero => exact absurd hfuel (Nat.not_lt_zero _)
  | succ fuel ih =>
    rw [← hang_left] at h
    cases l with
    | dummy =>
      have hstop : ¬(AssocNode.dummy : AssocNode K (ℕ × V)).addr d ≠ t.dummy :=
        fun hne => hne h.dummy.symm
      simp only [AssocRbTreeT.leftmost, h.child, if_neg hstop, minimumPath, Option.bind_eq_bind,
        Option.bind_some, Option.pure_def]
    | node c' l' k' x' n' =>
      have hchild : t.At d sz s (.hang .left c' l' k' x' n') (.fromLeft c k x n :: p) r :=
        at_hang.1 h
      have hgo : (AssocNode.node c' l' k' x' n').addr d ≠ t.dummy := by
        rw [h.dummy]
        exact hchild.ne_dummy
      simp only [AssocNode.toList_node, List.length_append, List.length_cons] at hfuel
      simp only [AssocRbTreeT.leftmost, h.child, if_pos hgo, minimumPath, Option.bind_eq_bind,
        Option.bind_some]
      exact ih hchild (by omega)

/-! ## Insertion -/

/-- The new node is not in the tree yet. -/
theorem At.createNode {n : AssocNode K (ℕ × V)} {z : ℕ} (h : t.At d sz s n p r)
    (hz : t.mem z = none) (v : V) :
    (t.createNode z key v).At d sz s n p ({(z, .of .left key v d .red d d)} + r) where
  dummy := h.dummy
  size := h.size
  root := h.root
  holds := by
    have hcells := h.holds.alloc hz (.of .left key v d .red d d)
    rw [← h.dummy] at hcells ⊢
    refine hcells.congr ?_
    dsimp only [AssocCells]
    ac_rfl

/-- The parent of a node that is not in the tree is assigned. -/
theorem At.setParent_apart {n : AssocNode K (ℕ × V)} {z q : ℕ} {k : K} {v : V} {c : AssocColor}
    {a b : ℕ} (h : t.At d sz s n p ({(z, .of .left k v q c a b)} + r)) (q' : ℕ) :
    ∃ t', t.setParent z q' = some t' ∧ t'.At d sz s n p ({(z, .of .left k v q' c a b)} + r) := by
  have hz : t.mem.Holds ({(z, .of .left k v q c a b)} + ({(d, .sentinel K V s)} +
      (n.cells d (p.top d) + (p.cells d (n.addr d) + r)))) := h.holds.congr (by ac_rfl)
  obtain ⟨m', hm', h'⟩ := setParent_eq t.dummy t.root t.size hz q'
  exact ⟨_, hm', h.dummy, h.size, h.root, h'.congr (by ac_rfl)⟩

/-- The new node hangs below the leaf that was found. -/
theorem At.attach {z : ℕ} {v : V}
    (h : t.At d sz s .dummy p ({(z, .of .left key v (p.top d) .red d d)} + r))
    (hp : ∀ f ∈ p.head?, f.Fits cmp key) :
    ∃ t', t.attach cmp key (p.top d) z = some t' ∧
      t'.At d sz s (.node .red .dummy key (z, v) .dummy) p r := by
  cases p with
  | nil =>
    refine ⟨{ t with root := z }, if_pos h.dummy.symm, h.dummy, h.size, rfl, ?_⟩
    refine h.holds.congr ?_
    simp only [AssocNode.cells, AssocNode.addr, AssocPath.cells, AssocPath.top,
      Multiset.zero_add, Multiset.add_zero]
  | cons f p =>
    obtain ⟨side, c, k, x, b, rfl⟩ := f.exists_hang
    have hparent := at_hang.2 h
    have hne : x.1 ≠ t.dummy := h.dummy.symm ▸ hparent.ne_dummy
    have hfits := hp _ rfl
    have hset : t.attach cmp key x.1 z = t.setChild side x.1 z := by
      rw [AssocRbTreeT.attach, if_neg hne, hparent.key]
      cases side with
      | left => exact if_pos hfits
      | right => exact if_neg hfits
    obtain ⟨m', hm', h'⟩ := setChild_eq t.dummy t.root t.size hparent.cell z
    refine ⟨⟨m', t.dummy, t.root, t.size⟩, ?_, h.dummy, h.size, ?_, h'.congr ?_⟩
    · rw [AssocPath.top, AssocFrame.addr_hang, hset]
      exact hm'
    · rw [h.root]
      rfl
    · simp only [AssocNode.cells, AssocNode.addr, AssocPath.cells_hang, AssocPath.top,
        AssocFrame.addr_hang, Multiset.zero_add, Multiset.add_zero, AssocCells]
      ac_rfl

theorem plug_ne_dummy {n : AssocNode K (ℕ × V)} (hn : n ≠ .dummy) :
    AssocPath.plug n p ≠ .dummy := by
  induction p generalizing n with
  | nil => exact hn
  | cons f p ih => exact ih fill_ne_dummy

theorem length_insertPath_le (cmp : K → K → Ordering) (key : K) (n : AssocNode K (ℕ × V)) :
    (insertPath cmp key n []).length ≤ n.toList.length := by
  have h := length_path_le_plug .dummy (insertPath cmp key n [])
  rwa [plug_insertPath] at h

/-- `assoc_rb_tree_insert`. -/
theorem At.insert {n : AssocNode K (ℕ × V)} {z fuel : ℕ} (h : t.At d sz s n [] r)
    (hn : n.IsRedBlack) (hz : t.mem z = none) (hfuel : n.toList.length < fuel) (v : V) :
    ∃ t', t.insert fuel cmp z key v = some t' ∧ t'.At d (sz + 1) s
      (FlexRic.insertFixup (.node .red .dummy key (z, v) .dummy) (insertPath cmp key n [])) []
      r := by
  have hlen := length_insertPath_le cmp key n
  have hplug := plug_insertPath cmp key n []
  have hne : z ≠ t.dummy := by
    rintro rfl
    have hread := h.holds.read
    rw [← h.dummy, hz] at hread
    cases hread
  have h₁ : (t.createNode z key v).At d sz s n [] _ := h.createNode hz v
  have hleaf : (t.createNode z key v).findLeaf cmp key fuel _ _ = _ := h₁.findLeaf hfuel
  rw [show n = AssocPath.plug .dummy (insertPath cmp key n []) from hplug.symm, at_plug] at h₁
  obtain ⟨t₂, ht₂, h₂⟩ := h₁.setParent_apart (AssocPath.top d (insertPath cmp key n []))
  obtain ⟨t₃, ht₃, h₃⟩ := h₂.attach (insertPath_fits (n := n) (p := []) fun f hf => nomatch hf)
  -- the tree above the new node is balanced
  rw [← show AssocPath.plug .dummy (insertPath cmp key n []) = n from hplug] at hn
  obtain ⟨j, hj⟩ := isRedBlack_plug.1 hn
  cases hj.node with
  | dummy =>
    obtain ⟨t₄, ht₄, h₄⟩ := h₃.insertFixup rfl (.red .dummy .dummy rfl rfl) hj.path
      (Nat.lt_of_le_of_lt hlen hfuel)
    refine ⟨{ t₄ with size := t₄.size + 1 }, ?_, h₄.dummy, by rw [h₄.size], h₄.root, h₄.holds⟩
    have hroot : (t.createNode z key v).root = n.addr d := h.root
    have hdummy : (t.createNode z key v).dummy = AssocPath.top d ([] : AssocPath K (ℕ × V)) :=
      h.dummy
    have hz' : z ≠ AssocPath.top d ([] : AssocPath K (ℕ × V)) := h.dummy ▸ hne
    have ht₄' : AssocRbTreeT.insertFixup fuel t₃ z = some t₄ := ht₄
    simp only [AssocRbTreeT.insert, guard, hroot, hdummy, if_pos hz', hleaf, ht₂, ht₃, ht₄',
      Option.bind_eq_bind, Option.bind_some, Option.pure_def]

/-! ## Extraction -/

/-- The parent of the hole is another node than one further up. -/
theorem At.top_ne {n : AssocNode K (ℕ × V)} {q : AssocPath K (ℕ × V)} {f : AssocFrame K (ℕ × V)}
    (h : t.At d sz s n (q ++ f :: p) r) (hq : q ≠ []) : AssocPath.top d (q ++ f :: p) ≠ f.addr := by
  have hmem : ∀ (q : AssocPath K (ℕ × V)) (a : ℕ),
      f.addr ∈ (AssocPath.cells d a (q ++ f :: p)).map Prod.fst := by
    intro q
    induction q with
    | nil =>
      intro a
      obtain ⟨side, c, k, x, b, rfl⟩ := f.exists_hang
      rw [List.nil_append, AssocPath.cells_hang]
      simp
    | cons g q ih =>
      intro a
      obtain ⟨side, c, k, x, b, rfl⟩ := g.exists_hang
      rw [List.cons_append, AssocPath.cells_hang]
      simp only [Multiset.map_add, Multiset.mem_add]
      exact .inr (.inr (ih _))
  cases q with
  | nil => exact absurd rfl hq
  | cons g q =>
    obtain ⟨side, c, k, x, b, rfl⟩ := g.exists_hang
    rw [List.cons_append, AssocPath.top, AssocFrame.addr_hang]
    refine (at_hang.2 h).cell.ne_of_mem ?_
    simp only [Multiset.map_add, Multiset.mem_add]
    exact .inr (.inr (.inr (.inl (hmem q _))))

section Successor

variable {c yc : AssocColor} {l yr : AssocNode K (ℕ × V)} {k yk : K} {x yx : ℕ × V}

/-- The memory once the successor `y` of `z` has left its place: `z` is still in the tree, and `y`
has the rest `R` of the right subtree of `z` as its right child. -/
structure Detached (t : AssocRbTreeT K V) (d sz s : ℕ) (c yc : AssocColor)
    (l R : AssocNode K (ℕ × V)) (k yk : K) (x yx : ℕ × V) (p : AssocPath K (ℕ × V))
    (r : AssocCells K V) : Prop where
  dummy : t.dummy = d
  size : t.size = sz
  root : t.root = p.rootAddr x.1
  holds : ∃ q e, t.mem.Holds ({(d, .sentinel K V s)} +
    ({(x.1, .of .left k x.2 (p.top d) c (l.addr d) e)} +
      (p.cells d x.1 + ((AssocNode.node yc .dummy yk yx R).cells d q + (l.cells d x.1 + r)))))

/-- The successor is the right child. -/
theorem At.detachSuccessor_child (h : t.At d sz s (.node c l k x (.node yc .dummy yk yx yr)) p r) :
    ∃ t' s', t.detachSuccessor x.1 yx.1 (yr.addr d) = some t' ∧
      t'.Detached d sz s' c yc l yr k yk x yx p r ∧ (yr = .dummy → s' = yx.1) := by
  have hy : t.At d sz s (.hang .left yc .dummy yk yx yr) (.fromRight l c k x :: p) r := at_fill.1 h
  have hparent : t.parent yx.1 = some x.1 := hy.parent
  obtain ⟨m, d, ρ, sz⟩ := t
  obtain ⟨rfl, rfl, hρ, h⟩ := h
  simp only [AssocNode.cells, AssocNode.addr] at h
  have hyr : m.Holds ({(d, .sentinel K V s)} + (yr.cells d yx.1 +
      ({(x.1, .of .left k x.2 (p.top d) c (l.addr d) yx.1)} + (p.cells d x.1 +
        ({(yx.1, .of .left yk yx.2 x.1 yc d (yr.addr d))} + (l.cells d x.1 + r)))))) :=
    h.congr (by simp only [Multiset.zero_add]; ac_rfl)
  obtain ⟨m', s', hm', h', hs', -⟩ := setParent_cells ρ sz yx.1 yx.1 yr hyr
  refine ⟨⟨m', d, ρ, sz⟩, s', ?_, ⟨rfl, rfl, hρ, x.1, yx.1, h'.congr ?_⟩, hs'⟩
  · simp only [detachSuccessor, hparent, if_true, hm', Option.bind_eq_bind, Option.bind_some]
  · simp only [AssocNode.cells, AssocNode.addr, Multiset.zero_add]
    ac_rfl

/-- The successor is further down. -/
theorem At.detachSuccessor_below {q : AssocPath K (ℕ × V)} (hq : q ≠ [])
    (h : t.At d sz s (.node yc .dummy yk yx yr) (q ++ .fromRight l c k x :: p) r) :
    ∃ t' s', t.detachSuccessor x.1 yx.1 (yr.addr d) = some t' ∧
      t'.Detached d sz s' c yc l (AssocPath.plug yr q) k yk x yx p r ∧
      (yr = .dummy → s' = AssocPath.top d (q ++ .fromRight l c k x :: p)) := by
  rw [← hang_left] at h
  have hparent := h.parent
  have hne : AssocPath.top d (q ++ .fromRight l c k x :: p) ≠ x.1 := h.top_ne hq
  obtain ⟨t₁, s', ht₁, h₁, hs'⟩ := h.transplant_child
  -- the tree without the successor, with `z` in it
  have hz : t₁.At d sz s' (.hang .left c l k x (AssocPath.plug yr q)) p _ :=
    at_fill.2 ((at_append q).2 h₁)
  have hchild : t₁.child .right x.1 = some ((AssocPath.plug yr q).addr d) := hz.child_other
  have hR : AssocPath.plug yr q ≠ .dummy := by
    cases q with
    | nil => exact absurd rfl hq
    | cons f q =>
      rw [AssocPath.plug]
      exact plug_ne_dummy fill_ne_dummy
  generalize AssocPath.plug yr q = R at hz hchild hR ⊢
  obtain ⟨m, d, ρ, sz⟩ := t₁
  obtain ⟨rfl, rfl, hρ, hcells⟩ := hz
  simp only [AssocNode.cells_hang, AssocNode.addr_hang] at hcells hρ
  have hy : m.Holds ({(yx.1, .of .left yk yx.2 _ yc d (yr.addr d))} + ({(d, .sentinel K V s')} +
      ({(x.1, .of .left k x.2 (p.top d) c (l.addr d) (R.addr d))} +
        (R.cells d x.1 + (p.cells d x.1 + (l.cells d x.1 + r)))))) := hcells.congr (by ac_rfl)
  obtain ⟨m₂, hm₂, h₂⟩ := setChild_other_eq d ρ sz hy (R.addr d)
  have h₂' : m₂.Holds ({(d, .sentinel K V s')} + (R.cells d x.1 +
      ({(x.1, .of .left k x.2 (p.top d) c (l.addr d) (R.addr d))} + (p.cells d x.1 +
        ({(yx.1, .of .left yk yx.2 _ yc d (R.addr d))} + (l.cells d x.1 + r)))))) :=
    h₂.congr (by ac_rfl)
  obtain ⟨m₃, s₃, hm₃, h₃, -, hs₃⟩ := setParent_cells ρ sz x.1 yx.1 R h₂'
  rw [hs₃ hR] at h₃
  refine ⟨⟨m₃, d, ρ, sz⟩, s', ?_, ⟨rfl, rfl, hρ,
    AssocPath.top d (q ++ .fromRight l c k x :: p), R.addr d, h₃.congr ?_⟩, hs'⟩
  · simp only [detachSuccessor, hparent, if_neg hne, ht₁, hchild, Option.bind_eq_bind,
      Option.bind_some]
    rw [show AssocSide.right = AssocSide.left.other from rfl, hm₂]
    exact hm₃
  · simp only [AssocNode.cells, AssocNode.addr, Multiset.zero_add]
    ac_rfl

/-- In the end the parent of the place of the successor is `y` itself if the successor was the right
child. -/
theorem At.detachSuccessor {q : AssocPath K (ℕ × V)}
    (h : t.At d sz s (.node yc .dummy yk yx yr) (q ++ .fromRight l c k x :: p) r) :
    ∃ t' s', t.detachSuccessor x.1 yx.1 (yr.addr d) = some t' ∧
      t'.Detached d sz s' c yc l (AssocPath.plug yr q) k yk x yx p r ∧
      (yr = .dummy → s' = AssocPath.top d (q ++ .fromRight l c yk yx :: p)) := by
  cases q with
  | nil => exact At.detachSuccessor_child (at_fill.2 h)
  | cons f q => exact h.detachSuccessor_below (List.cons_ne_nil f q)

/-- The successor takes the place and the color of `z`; the cell of `z` is left over. -/
theorem Detached.takePlace {R : AssocNode K (ℕ × V)}
    (h : t.Detached d sz s c yc l R k yk x yx p r) (hl : l ≠ .dummy) :
    ∃ t₁ t₂ t₃ t₄ e, t.transplant x.1 yx.1 = some t₁ ∧ t₁.child .left x.1 = some (l.addr d) ∧
      t₁.setChild .left yx.1 (l.addr d) = some t₂ ∧ t₂.setParent (l.addr d) yx.1 = some t₃ ∧
      t₃.color x.1 = some c ∧ t₃.setColor yx.1 c = some t₄ ∧
      t₄.At d sz s (.node c l yk yx R) p
        ({(x.1, .of .left k x.2 (p.top d) c (l.addr d) e)} + r) := by
  obtain ⟨m, d, ρ, sz⟩ := t
  obtain ⟨rfl, rfl, hρ, q, e, h⟩ := h
  obtain ⟨m₁, s₁, hm₁, h₁, -, hs₁⟩ := transplant_cells sz h hρ (AssocNodeT.parent_of ..)
  rw [hs₁ (by exact nofun)] at h₁
  simp only [AssocNode.cells, AssocNode.addr, Multiset.zero_add] at h₁ hm₁
  have hz : m₁.Holds ({(x.1, .of .left k x.2 (p.top d) c (l.addr d) e)} +
      ({(d, .sentinel K V s)} + (p.cells d yx.1 +
        ({(yx.1, .of .left yk yx.2 (p.top d) yc d (R.addr d))} + R.cells d yx.1 +
          (l.cells d x.1 + r))))) := h₁.congr (by ac_rfl)
  have hy : m₁.Holds ({(yx.1, .of .left yk yx.2 (p.top d) yc d (R.addr d))} +
      ({(d, .sentinel K V s)} + ({(x.1, .of .left k x.2 (p.top d) c (l.addr d) e)} +
        (p.cells d yx.1 + (R.cells d yx.1 + (l.cells d x.1 + r)))))) := h₁.congr (by ac_rfl)
  obtain ⟨m₂, hm₂, h₂⟩ := setChild_eq d (p.rootAddr yx.1) sz hy (l.addr d)
  have h₂' : m₂.Holds ({(d, .sentinel K V s)} + (l.cells d x.1 +
      ({(x.1, .of .left k x.2 (p.top d) c (l.addr d) e)} +
        ({(yx.1, .of .left yk yx.2 (p.top d) yc (l.addr d) (R.addr d))} +
          (p.cells d yx.1 + (R.cells d yx.1 + r)))))) := h₂.congr (by ac_rfl)
  obtain ⟨m₃, s₃, hm₃, h₃, -, hs₃⟩ := setParent_cells (p.rootAddr yx.1) sz x.1 yx.1 l h₂'
  rw [hs₃ hl] at h₃
  have hz₃ : m₃.Holds ({(x.1, .of .left k x.2 (p.top d) c (l.addr d) e)} +
      ({(d, .sentinel K V s)} + (l.cells d yx.1 +
        ({(yx.1, .of .left yk yx.2 (p.top d) yc (l.addr d) (R.addr d))} +
          (p.cells d yx.1 + (R.cells d yx.1 + r)))))) := h₃.congr (by ac_rfl)
  have hy₃ : m₃.Holds ({(yx.1, .of .left yk yx.2 (p.top d) yc (l.addr d) (R.addr d))} +
      ({(d, .sentinel K V s)} + (l.cells d yx.1 +
        ({(x.1, .of .left k x.2 (p.top d) c (l.addr d) e)} +
          (p.cells d yx.1 + (R.cells d yx.1 + r)))))) := h₃.congr (by ac_rfl)
  obtain ⟨m₄, hm₄, h₄⟩ := setColor_eq d (p.rootAddr yx.1) sz hy₃ c
  refine ⟨_, _, _, _, e, hm₁, ?_, hm₂, hm₃, ?_, hm₄, rfl, rfl, rfl, h₄.congr ?_⟩
  · rw [child_eq d _ sz hz, AssocNodeT.child_of]
  · rw [color_eq d _ sz hz₃, AssocNodeT.color_of]
  · simp only [AssocNode.cells, AssocNode.addr]
    ac_rfl

/-- The part of `assoc_rb_tree_extract` for a node with two children. -/
theorem At.replaceBySuccessor {rc : AssocColor} {rl rr : AssocNode K (ℕ × V)} {rk : K}
    {rx : ℕ × V} {fuel : ℕ} (h : t.At d sz s (.node c l k x (.node rc rl rk rx rr)) p r)
    (hl : l ≠ .dummy) (hfuel : rl.toList.length < fuel) :
    let y := minimumPath rc rl rk rx rr []
    ∃ t' s' e, t.replaceBySuccessor fuel x.1 = some (t', y.1.1, y.1.2.2.2.addr d) ∧
      t'.At d sz s' y.1.2.2.2 (y.2 ++ .fromRight l c y.1.2.1 y.1.2.2.1 :: p)
        ({(x.1, .of .left k x.2 (p.top d) c (l.addr d) e)} + r) ∧
      (y.1.2.2.2 = .dummy →
        s' = AssocPath.top d (y.2 ++ .fromRight l c y.1.2.1 y.1.2.2.1 :: p)) := by
  have hright : t.At d sz s (.hang .left rc rl rk rx rr) (.fromRight l c k x :: p) r := at_fill.1 h
  have hz : t.At d sz s (.hang .left c l k x (.node rc rl rk rx rr)) p r := h
  have hchild : t.child .right x.1 = some rx.1 := hz.child_other
  have hne : rx.1 ≠ t.dummy := h.dummy.symm ▸ hright.ne_dummy
  have hmin : t.leftmost fuel rx.1 = _ := At.leftmost hright hfuel
  have hpath := minimumPath_append rc rl rk rx rr [] (.fromRight l c k x :: p)
  have hplug := plug_minimumPath rc rl rk rx rr (.fromRight l c k x :: p)
  rw [List.nil_append] at hpath
  rw [hpath] at hmin hplug
  generalize minimumPath rc rl rk rx rr ([] : AssocPath K (ℕ × V)) = y at hmin hplug ⊢
  obtain ⟨⟨yc, yk, yx, yr⟩, q⟩ := y
  dsimp only at hmin hplug ⊢
  have hy : t.At d sz s (.hang .left yc .dummy yk yx yr) (q ++ .fromRight l c k x :: p) r :=
    at_plug.1 (hplug ▸ at_plug.2 hright)
  have hcolor : t.color yx.1 = some yc := hy.color
  have hyr : t.child .right yx.1 = some (yr.addr d) := hy.child_other
  obtain ⟨t₀, s', ht₀, h₀, hs'⟩ := At.detachSuccessor hy
  obtain ⟨t₁, t₂, t₃, t₄, e, ht₁, hl₁, ht₂, ht₃, hc₃, ht₄, h₄⟩ := h₀.takePlace hl
  refine ⟨t₄, s', e, ?_, (at_append q).1 (at_fill.1 h₄), hs'⟩
  simp only [AssocRbTreeT.replaceBySuccessor, hchild, minimum, if_neg hne, hmin, hcolor, hyr, ht₀,
    ht₁, hl₁, ht₂, ht₃, hc₃, ht₄, Option.bind_eq_bind, Option.bind_some, Option.pure_def]

/-- The node is taken out of the tree. Its cell is left over. -/
theorem At.unlink {n : AssocNode K (ℕ × V)} {fuel : ℕ} (h : t.At d sz s (.node c l k x n) p r)
    (hfuel : n.toList.length < fuel) :
    let y := unlinkNode c l k x n p
    ∃ t' s' cell, t.unlink fuel x.1 = some (t', y.1.color, y.2.1.addr d) ∧
      t'.At d sz s' y.2.1 y.2.2 ({(x.1, cell)} + r) ∧ cell.value = some x.2 ∧
      (y.2.1 = .dummy → s' = y.2.2.top d) := by
  have hz : t.At d sz s (.hang .left c l k x n) p r := h
  have hchild := hz.child
  have hright : t.child .right x.1 = some (n.addr d) := hz.child_other
  have hcolor : t.color x.1 = some c := hz.color
  cases l with
  | dummy =>
    obtain ⟨t', s', ht', h', hs'⟩ := hz.transplant_child
    refine ⟨t', s', _, ?_, h', AssocNodeT.value_of .., hs'⟩
    have hl : (AssocNode.dummy : AssocNode K (ℕ × V)).addr d = t.dummy := h.dummy.symm
    simp only [AssocRbTreeT.unlink, hcolor, hchild, hright, if_pos hl, ht', Option.bind_eq_bind,
      Option.bind_some, Option.pure_def]
    rfl
  | node lc ll lk lx lr =>
    have hleft : t.At d sz s (.hang .left lc ll lk lx lr) (.fromLeft c k x n :: p) r :=
      at_fill.1 h
    have hl : ¬(AssocNode.node lc ll lk lx lr).addr d = t.dummy :=
      h.dummy.symm ▸ hleft.ne_dummy
    cases n with
    | dummy =>
      have hz' : t.At d sz s (.hang .right c .dummy k x (.node lc ll lk lx lr)) p r := h
      obtain ⟨t', s', ht', h', hs'⟩ := hz'.transplant_child
      refine ⟨t', s', _, ?_, h', AssocNodeT.value_of .., hs'⟩
      have hr : (AssocNode.dummy : AssocNode K (ℕ × V)).addr d = t.dummy := h.dummy.symm
      simp only [AssocRbTreeT.unlink, hcolor, hchild, hright, if_neg hl, if_pos hr, ht',
        Option.bind_eq_bind, Option.bind_some, Option.pure_def]
      rfl
    | node rc rl rk rx rr =>
      simp only [AssocNode.toList_node, List.length_append, List.length_cons] at hfuel
      have hr : (AssocNode.node rc rl rk rx rr).addr d ≠ t.dummy := by
        have hside : t.At d sz s (.hang .left rc rl rk rx rr)
            (.fromRight (.node lc ll lk lx lr) c k x :: p) r := at_fill.1 h
        exact h.dummy.symm ▸ hside.ne_dummy
      have hdummy : AssocNode.node lc ll lk lx lr ≠ .dummy := by exact nofun
      have hfuel : rl.toList.length < fuel := by omega
      obtain ⟨t', s', e, ht', h', hs'⟩ := h.replaceBySuccessor hdummy hfuel
      refine ⟨t', s', _, ?_, h', AssocNodeT.value_of .., hs'⟩
      simp only [AssocRbTreeT.unlink, hcolor, hchild, hright, if_neg hl, if_neg hr, ht',
        Option.bind_eq_bind, Option.bind_some]
      rfl

/-- The tree around the place of the extraction has as many nodes as before. -/
theorem length_unlinkNode (n : AssocNode K (ℕ × V)) :
    let y := unlinkNode c l k x n p
    y.2.2.length < (AssocPath.plug (.node c l k x n) p).toList.length := by
  have hlen : ∀ (f : AssocFrame K (ℕ × V)) (m : AssocNode K (ℕ × V)) (q : AssocPath K (ℕ × V)),
      q.length < (AssocPath.plug (f.fill m) q).toList.length := by
    intro f m q
    have hle := length_path_le_plug (f.fill m) q
    have hpos : 0 < (f.fill m).toList.length := by
      cases f with
      | fromLeft c k x r =>
        rw [AssocFrame.fill, AssocNode.toList_node, List.length_append, List.length_cons]
        omega
      | fromRight l c k x =>
        rw [AssocFrame.fill, AssocNode.toList_node, List.length_append, List.length_cons]
        omega
    omega
  unfold unlinkNode
  split
  · exact hlen (.fromRight .dummy c k x) _ p
  · exact hlen (.fromLeft c k x .dummy) _ p
  · next l' rc rl rk rx rr _ =>
    have hpath := minimumPath_append rc rl rk rx rr []
    have hplug := plug_minimumPath rc rl rk rx rr
    generalize minimumPath rc rl rk rx rr ([] : AssocPath K (ℕ × V)) = y at hpath hplug ⊢
    obtain ⟨⟨yc, yk, yx, yr⟩, inner⟩ := y
    have hdown := hplug (.fromRight l c yk yx :: p)
    rw [← List.nil_append (_ :: p), hpath] at hdown
    dsimp only at hdown ⊢
    have hlt := hlen (.fromRight .dummy yc yk yx) yr (inner ++ .fromRight l c yk yx :: p)
    rw [AssocFrame.fill, hdown] at hlt
    simpa [AssocPath.plug, AssocPath.toList_plug, AssocFrame.fill] using hlt

end Successor

/-- The cell of a node that is not in the tree is freed. -/
theorem At.freeNode {n : AssocNode K (ℕ × V)} {a : ℕ} {cell : AssocNodeT K V}
    (h : t.At d sz s n p ({(a, cell)} + r)) :
    t.value a = cell.value ∧ ∃ t', t.freeNode a = some t' ∧ t'.At d sz s n p r := by
  have ha : t.mem.Holds ({(a, cell)} + ({(d, .sentinel K V s)} +
      (n.cells d (p.top d) + (p.cells d (n.addr d) + r)))) := h.holds.congr (by ac_rfl)
  refine ⟨value_eq t.dummy t.root t.size ha, { t with mem := t.mem.set a none }, ?_, h.dummy,
    h.size, h.root, ha.free⟩
  rw [AssocRbTreeT.freeNode, ha.read, Option.map_some]

/-- What `f` left behind is repaired if `f` was black. -/
theorem At.close {n : AssocNode K (ℕ × V)} {f : AssocFrame K (ℕ × V)} {fuel : ℕ}
    (h : t.At d sz s n p r) (hs : n = .dummy → s = p.top d)
    (hbal : (AssocPath.plug (f.fill n) p).IsRedBlack) (hfuel : p.length + 1 < fuel) :
    ∃ t', t.close fuel f.color (n.addr d) = some t' ∧ t'.At d sz s
      (if f.color = .black then FlexRic.deleteFixup n p else AssocPath.plug n p) [] r := by
  unfold AssocRbTreeT.close
  by_cases hf : f.color = .black
  · obtain ⟨j, hn, hp⟩ := (lacks_of_isRedBlack hbal).1 hf
    simp only [if_pos hf]
    exact h.deleteFixup hs hn hp hfuel
  · simp only [if_neg hf]
    exact ⟨t, rfl, at_plug.2 h⟩

/-- `assoc_rb_tree_extract`. -/
theorem At.extract {n l m : AssocNode K (ℕ × V)} {c : AssocColor} {k : K} {x : ℕ × V} {fuel : ℕ}
    (h : t.At d sz s n [] r) (hn : n.IsRedBlack) (hfuel : n.toList.length < fuel)
    (hfind : FlexRic.findRbTree cmp key n [] = some (.node c l k x m, p)) (hsz : sz ≠ 0) :
    ∃ t' s', t.extract fuel cmp key = some (x.2, t') ∧
      t'.At d (sz - 1) s' (extractNode c l m p) [] r := by
  have hplug : AssocPath.plug (.node c l k x m) p = n := plug_findRbTree hfind
  have hz : t.At d sz s (.node c l k x m) p r := at_plug.1 (hplug ▸ h)
  have hne : x.1 ≠ t.dummy := by
    rw [← hang_left] at hz
    exact h.dummy.symm ▸ hz.ne_dummy
  have hz₀ : t.findRbTree cmp key fuel (n.addr d) = some x.1 := by
    rw [h.findRbTree hfuel, hfind]
    rfl
  have hm : m.toList.length < fuel := by
    have hle := length_path_le_plug (.node c l k x m) p
    rw [hplug, AssocNode.toList_node, List.length_append, List.length_cons] at hle
    omega
  obtain ⟨t₁, s₁, cell, ht₁, h₁, hv, hs₁⟩ := hz.unlink hm
  obtain ⟨hvalue, t₂, ht₂, h₂⟩ := h₁.freeNode
  have hbal := isRedBlack_unlinkNode (show (AssocPath.plug (.node c l k x m) p).IsRedBlack from
    hplug.symm ▸ hn)
  have hpath : (unlinkNode c l k x m p).2.2.length < _ := length_unlinkNode m
  rw [hplug] at hpath
  obtain ⟨t₃, ht₃, h₃⟩ := h₂.close hs₁ hbal (Nat.lt_of_le_of_lt hpath hfuel)
  have hsize : t₃.size ≠ 0 := h₃.size.symm ▸ hsz
  refine ⟨{ t₃ with size := t₃.size - 1 }, s₁, ?_, h₃.dummy, by rw [h₃.size], ?_, ?_⟩
  · have hroot : t.root = n.addr d := h.root
    simp only [AssocRbTreeT.extract, hroot, hz₀, guard, if_pos hne, ht₁, hvalue, hv, ht₂, ht₃,
      if_pos hsize, Option.bind_eq_bind, Option.bind_some, Option.pure_def]
  · rw [extractNode_eq c l k x m p]
    exact h₃.root
  · rw [extractNode_eq c l k x m p]
    exact h₃.holds

end AssocRbTreeT

end FlexRic
