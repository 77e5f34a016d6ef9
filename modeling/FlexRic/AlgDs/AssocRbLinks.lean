import FlexRic.AlgDs.AssocRbBalance
import FlexRic.AlgDs.AssocRbHeap
import Mathlib.Algebra.Order.Group.Multiset

/-!
# Trees and their nodes in memory

`AssocRbTreeT.At` says that the memory holds a tree: the nodes of a subtree and of the path above
it, each with the addresses of its parent and its children, and the sentinel. The functions that
move nodes around, the rotations and `transplant`, are followed here write by write.

In the tree a value comes with the address of its node.
-/

namespace FlexRic

variable {K V : Type}

/-! ## The cells of a tree -/

/-- The address of a subtree; the sentinel is at `d`. -/
def AssocNode.addr (d : ℕ) : AssocNode K (ℕ × V) → ℕ
  | dummy => d
  | node _ _ _ x _ => x.1

/-- The address of the parent. -/
def AssocFrame.addr : AssocFrame K (ℕ × V) → ℕ
  | fromLeft _ _ x _ => x.1
  | fromRight _ _ _ x => x.1

/-- A node with a child on a side and another child on the other side. -/
def AssocNode.hang (side : AssocSide) (c : AssocColor) (a : AssocNode K (ℕ × V)) (k : K)
    (x : ℕ × V) (b : AssocNode K (ℕ × V)) : AssocNode K (ℕ × V) :=
  match side with
  | .left => node c a k x b
  | .right => node c b k x a

/-- A parent with the hole on a side and a child on the other side. -/
def AssocFrame.hang (side : AssocSide) (c : AssocColor) (k : K) (x : ℕ × V)
    (b : AssocNode K (ℕ × V)) : AssocFrame K (ℕ × V) :=
  match side with
  | .left => fromLeft c k x b
  | .right => fromRight b c k x

/-- The record of a node with a child on a side and another child on the other side. -/
def AssocNodeT.of (side : AssocSide) (k : K) (v : V) (parent : ℕ) (c : AssocColor) (a b : ℕ) :
    AssocNodeT K V :=
  match side with
  | .left => ⟨some k, some v, parent, a, b, c⟩
  | .right => ⟨some k, some v, parent, b, a, c⟩

/-- The sentinel; its parent is written by the extraction. -/
def AssocNodeT.sentinel (K V : Type) (parent : ℕ) : AssocNodeT K V :=
  ⟨none, none, parent, AssocRbTreeT.null, AssocRbTreeT.null, .black⟩

/-- A collection of cells. -/
abbrev AssocCells (K V : Type) : Type := Multiset (ℕ × AssocNodeT K V)

/-- The cells of a subtree below the node at `p`. -/
def AssocNode.cells (d p : ℕ) : AssocNode K (ℕ × V) → AssocCells K V
  | dummy => 0
  | node c l k x r =>
    {(x.1, .of .left k x.2 p c (l.addr d) (r.addr d))} + (l.cells d x.1 + r.cells d x.1)

/-- The address of the parent of the hole. -/
def AssocPath.top (d : ℕ) : AssocPath K (ℕ × V) → ℕ
  | [] => d
  | f :: _ => f.addr

/-- The cells of a path with the subtree at `a` in its hole. -/
def AssocPath.cells (d a : ℕ) : AssocPath K (ℕ × V) → AssocCells K V
  | [] => 0
  | .fromLeft c k x r :: p =>
    {(x.1, .of .left k x.2 (top d p) c a (r.addr d))} + (r.cells d x.1 + cells d x.1 p)
  | .fromRight l c k x :: p =>
    {(x.1, .of .right k x.2 (top d p) c a (l.addr d))} + (l.cells d x.1 + cells d x.1 p)

/-- The address of the root, with the subtree at `a` in the hole. -/
def AssocPath.rootAddr (a : ℕ) : AssocPath K (ℕ × V) → ℕ
  | [] => a
  | f :: p => rootAddr f.addr p

@[simp] theorem AssocNode.addr_hang (d : ℕ) (side : AssocSide) (c : AssocColor)
    (a : AssocNode K (ℕ × V)) (k : K) (x : ℕ × V) (b : AssocNode K (ℕ × V)) :
    (hang side c a k x b).addr d = x.1 := by
  cases side <;> rfl

@[simp] theorem AssocNode.color_hang (side : AssocSide) (c : AssocColor)
    (a : AssocNode K (ℕ × V)) (k : K) (x : ℕ × V) (b : AssocNode K (ℕ × V)) :
    (hang side c a k x b).color = c := by
  cases side <;> rfl

@[simp] theorem AssocNode.setColor_hang (side : AssocSide) (c c' : AssocColor)
    (a : AssocNode K (ℕ × V)) (k : K) (x : ℕ × V) (b : AssocNode K (ℕ × V)) :
    (hang side c a k x b).setColor c' = hang side c' a k x b := by
  cases side <;> rfl

theorem AssocNode.hang_other (side : AssocSide) (c : AssocColor)
    (a : AssocNode K (ℕ × V)) (k : K) (x : ℕ × V) (b : AssocNode K (ℕ × V)) :
    hang side.other c a k x b = hang side c b k x a := by
  cases side <;> rfl

@[simp] theorem AssocSide.other_other (side : AssocSide) : side.other.other = side := by
  cases side <;> rfl

@[simp] theorem AssocFrame.fill_hang (side : AssocSide) (c : AssocColor) (k : K) (x : ℕ × V)
    (a b : AssocNode K (ℕ × V)) : (hang side c k x b).fill a = .hang side c a k x b := by
  cases side <;> rfl

@[simp] theorem AssocFrame.addr_hang (side : AssocSide) (c : AssocColor) (k : K) (x : ℕ × V)
    (b : AssocNode K (ℕ × V)) : (hang side c k x b).addr = x.1 := by
  cases side <;> rfl

@[simp] theorem AssocFrame.color_hang (side : AssocSide) (c : AssocColor) (k : K) (x : ℕ × V)
    (b : AssocNode K (ℕ × V)) : (hang side c k x b).color = c := by
  cases side <;> rfl

@[simp] theorem AssocFrame.addr_fill (d : ℕ) (n : AssocNode K (ℕ × V))
    (f : AssocFrame K (ℕ × V)) : (f.fill n).addr d = f.addr := by
  cases f <;> rfl

/-- Every parent has a side. -/
theorem AssocFrame.exists_hang (f : AssocFrame K (ℕ × V)) :
    ∃ side c k x b, f = hang side c k x b := by
  cases f with
  | fromLeft c k x r => exact ⟨.left, c, k, x, r, rfl⟩
  | fromRight l c k x => exact ⟨.right, c, k, x, l, rfl⟩

/-- Every node that is not the sentinel has a child on a side. -/
theorem AssocNode.exists_hang (side : AssocSide) {n : AssocNode K (ℕ × V)} (h : n ≠ .dummy) :
    ∃ c a k x b, n = hang side c a k x b := by
  cases n with
  | dummy => exact absurd rfl h
  | node c l k x r =>
    cases side with
    | left => exact ⟨c, l, k, x, r, rfl⟩
    | right => exact ⟨c, r, k, x, l, rfl⟩

theorem AssocNode.cells_hang (d p : ℕ) (side : AssocSide) (c : AssocColor)
    (a : AssocNode K (ℕ × V)) (k : K) (x : ℕ × V) (b : AssocNode K (ℕ × V)) :
    (hang side c a k x b).cells d p =
      {(x.1, .of side k x.2 p c (a.addr d) (b.addr d))} + (a.cells d x.1 + b.cells d x.1) := by
  cases side with
  | left => rfl
  | right =>
    rw [Multiset.add_comm (a.cells d x.1)]
    rfl

theorem AssocPath.cells_hang (d e : ℕ) (side : AssocSide) (c : AssocColor) (k : K) (x : ℕ × V)
    (b : AssocNode K (ℕ × V)) (p : AssocPath K (ℕ × V)) :
    cells d e (.hang side c k x b :: p) =
      {(x.1, .of side k x.2 (top d p) c e (b.addr d))} + (b.cells d x.1 + cells d x.1 p) := by
  cases side <;> rfl

namespace AssocNodeT

variable (side : AssocSide) (k : K) (v : V) (p : ℕ) (c : AssocColor) (a b : ℕ)

@[simp] theorem child_of : (of side k v p c a b).child side = a := by cases side <;> rfl

@[simp] theorem child_other_of : (of side k v p c a b).child side.other = b := by
  cases side <;> rfl

@[simp] theorem parent_of : (of side k v p c a b).parent = p := by cases side <;> rfl

@[simp] theorem color_of : (of side k v p c a b).color = c := by cases side <;> rfl

@[simp] theorem key_of : (of side k v p c a b).key = some k := by cases side <;> rfl

@[simp] theorem value_of : (of side k v p c a b).value = some v := by cases side <;> rfl

@[simp] theorem setChild_of (a' : ℕ) :
    (of side k v p c a b).setChild side a' = of side k v p c a' b := by cases side <;> rfl

@[simp] theorem setChild_other_of (b' : ℕ) :
    (of side k v p c a b).setChild side.other b' = of side k v p c a b' := by cases side <;> rfl

@[simp] theorem setParent_of (p' : ℕ) :
    { of side k v p c a b with parent := p' } = of side k v p' c a b := by cases side <;> rfl

@[simp] theorem setColor_of (c' : AssocColor) :
    { of side k v p c a b with color := c' } = of side k v p c' a b := by cases side <;> rfl

end AssocNodeT

/-! ## Reads and writes -/

namespace AssocRbTreeT

section Access

variable {m : Memory (AssocNodeT K V)} {a : ℕ} {n : AssocNodeT K V} {r : AssocCells K V}
  (d ρ z : ℕ)

theorem parent_eq (h : m.Holds ({(a, n)} + r)) : parent ⟨m, d, ρ, z⟩ a = some n.parent := by
  simp only [parent, h.read, Option.map_some]

theorem child_eq (h : m.Holds ({(a, n)} + r)) (side : AssocSide) :
    child ⟨m, d, ρ, z⟩ side a = some (n.child side) := by
  simp only [child, h.read, Option.map_some]

theorem color_eq (h : m.Holds ({(a, n)} + r)) : color ⟨m, d, ρ, z⟩ a = some n.color := by
  simp only [color, h.read, Option.map_some]

theorem value_eq (h : m.Holds ({(a, n)} + r)) : value ⟨m, d, ρ, z⟩ a = n.value := by
  simp only [value, h.read, Option.bind_some]

/-- A write changes one cell. -/
theorem update_eq (h : m.Holds ({(a, n)} + r)) (f : AssocNodeT K V → AssocNodeT K V) :
    ∃ m', update ⟨m, d, ρ, z⟩ a f = some ⟨m', d, ρ, z⟩ ∧ m'.Holds ({(a, f n)} + r) := by
  obtain ⟨m', hm', hholds⟩ := h.modify f
  exact ⟨m', by simp only [update, hm', Option.map_some], hholds⟩

variable {side : AssocSide} {k : K} {v : V} {p : ℕ} {c : AssocColor} {e b : ℕ}

theorem setChild_eq (h : m.Holds ({(a, .of side k v p c e b)} + r)) (e' : ℕ) :
    ∃ m', setChild ⟨m, d, ρ, z⟩ side a e' = some ⟨m', d, ρ, z⟩ ∧
      m'.Holds ({(a, .of side k v p c e' b)} + r) := by
  have hupdate := update_eq d ρ z h (·.setChild side e')
  rwa [AssocNodeT.setChild_of] at hupdate

theorem setChild_other_eq (h : m.Holds ({(a, .of side k v p c e b)} + r)) (b' : ℕ) :
    ∃ m', setChild ⟨m, d, ρ, z⟩ side.other a b' = some ⟨m', d, ρ, z⟩ ∧
      m'.Holds ({(a, .of side k v p c e b')} + r) := by
  have hupdate := update_eq d ρ z h (·.setChild side.other b')
  rwa [AssocNodeT.setChild_other_of] at hupdate

theorem setParent_eq (h : m.Holds ({(a, .of side k v p c e b)} + r)) (p' : ℕ) :
    ∃ m', setParent ⟨m, d, ρ, z⟩ a p' = some ⟨m', d, ρ, z⟩ ∧
      m'.Holds ({(a, .of side k v p' c e b)} + r) := by
  have hupdate := update_eq d ρ z h ({ · with parent := p' })
  rwa [AssocNodeT.setParent_of] at hupdate

theorem setColor_eq (h : m.Holds ({(a, .of side k v p c e b)} + r)) (c' : AssocColor) :
    ∃ m', setColor ⟨m, d, ρ, z⟩ a c' = some ⟨m', d, ρ, z⟩ ∧
      m'.Holds ({(a, .of side k v p c' e b)} + r) := by
  have hupdate := update_eq d ρ z h ({ · with color := c' })
  rwa [AssocNodeT.setColor_of] at hupdate

end Access

section Links

variable {m : Memory (AssocNodeT K V)} {d s : ℕ} {r : AssocCells K V}

/-- The address of a node in the memory is not that of a subtree beside it. -/
theorem addr_ne {u e : ℕ} {c : AssocNodeT K V} {b : AssocNode K (ℕ × V)}
    (h : m.Holds ({(d, .sentinel K V s)} + ({(u, c)} + (b.cells d e + r)))) : u ≠ b.addr d := by
  cases b with
  | dummy => exact (h.ne_of_mem (by simp)).symm
  | node c' l k x r' =>
    have hu : m.Holds ({(u, c)} + ({(d, .sentinel K V s)} +
        ((AssocNode.node c' l k x r').cells d e + r))) := h.congr (by ac_rfl)
    exact hu.ne_of_mem (by simp [AssocNode.cells, AssocNode.addr])

/-- A subtree gets another parent. -/
theorem reparent_cells (ρ z q q' : ℕ) (b : AssocNode K (ℕ × V))
    (h : m.Holds ({(d, .sentinel K V s)} + (b.cells d q + r))) :
    ∃ m', reparent ⟨m, d, ρ, z⟩ (b.addr d) q' = some ⟨m', d, ρ, z⟩ ∧
      m'.Holds ({(d, .sentinel K V s)} + (b.cells d q' + r)) := by
  cases b with
  | dummy => exact ⟨m, if_neg fun hne => hne rfl, h⟩
  | node c l k x r' =>
    rw [AssocNode.cells] at h
    have hne : x.1 ≠ d := (h.ne_of_mem (by simp)).symm
    have hx : m.Holds ({(x.1, .of .left k x.2 q c (l.addr d) (r'.addr d))} +
        ({(d, .sentinel K V s)} + (l.cells d x.1 + r'.cells d x.1 + r))) := h.congr (by ac_rfl)
    obtain ⟨m', hm', h'⟩ := setParent_eq d ρ z hx q'
    refine ⟨m', (if_pos hne).trans hm', h'.congr ?_⟩
    rw [AssocNode.cells]
    ac_rfl

/-- The node `u` hangs in the hole of a path; now `v` hangs there. -/
theorem replaceChild_cells {ρ u : ℕ} (z : ℕ) {c : AssocNodeT K V} (v : ℕ) (p : AssocPath K (ℕ × V))
    (h : m.Holds ({(d, .sentinel K V s)} + ({(u, c)} + (p.cells d u + r))))
    (hρ : ρ = p.rootAddr u) :
    ∃ m', replaceChild ⟨m, d, ρ, z⟩ (p.top d) u v = some ⟨m', d, p.rootAddr v, z⟩ ∧
      m'.Holds ({(d, .sentinel K V s)} + ({(u, c)} + (p.cells d v + r))) := by
  cases p with
  | nil => exact ⟨m, if_pos rfl, h⟩
  | cons f p =>
    obtain ⟨side, c', k, x, b, rfl⟩ := f.exists_hang
    rw [AssocPath.cells_hang] at h
    have hne : x.1 ≠ d := (h.ne_of_mem (by simp)).symm
    have hx : m.Holds ({(x.1, .of side k x.2 (AssocPath.top d p) c' u (b.addr d))} +
        ({(d, .sentinel K V s)} + ({(u, c)} + (b.cells d x.1 +
          (AssocPath.cells d x.1 p + r))))) := h.congr (by ac_rfl)
    have hub : u ≠ b.addr d := addr_ne (hx.congr (Multiset.add_comm _ _)).left
    -- the side of the parent on which `u` hangs is found
    have hset : replaceChild ⟨m, d, ρ, z⟩ x.1 u v = setChild ⟨m, d, ρ, z⟩ side x.1 v := by
      rw [replaceChild, if_neg hne, child_eq d ρ z hx]
      cases side with
      | left => exact if_pos rfl
      | right => exact if_neg hub
    obtain ⟨m', hm', h'⟩ := setChild_eq d ρ z hx v
    refine ⟨m', ?_, h'.congr ?_⟩
    · rw [AssocPath.top, AssocFrame.addr_hang, hset, hm', hρ]
      rfl
    · rw [AssocPath.cells_hang]
      ac_rfl

/-- The parent of a subtree is assigned, also when it is the sentinel. -/
theorem setParent_cells (ρ z q q' : ℕ) (b : AssocNode K (ℕ × V))
    (h : m.Holds ({(d, .sentinel K V s)} + (b.cells d q + r))) :
    ∃ m' s', setParent ⟨m, d, ρ, z⟩ (b.addr d) q' = some ⟨m', d, ρ, z⟩ ∧
      m'.Holds ({(d, .sentinel K V s')} + (b.cells d q' + r)) ∧ (b = .dummy → s' = q') ∧
      (b ≠ .dummy → s' = s) := by
  by_cases hb : b = .dummy
  · obtain ⟨m', hm', h'⟩ := update_eq d ρ z h ({ · with parent := q' })
    subst hb
    exact ⟨m', q', hm', h', fun _ => rfl, fun hne => absurd rfl hne⟩
  · obtain ⟨m', hm', h'⟩ := reparent_cells ρ z q q' b h
    obtain ⟨c, l, k, x, r', rfl⟩ := AssocNode.exists_hang .left hb
    have hne : x.1 ≠ d := by
      rw [AssocNode.cells_hang] at h
      exact (h.ne_of_mem (by simp)).symm
    rw [AssocNode.addr_hang, reparent, if_pos hne] at hm'
    exact ⟨m', s, by rw [AssocNode.addr_hang, hm'], h', fun hdummy => absurd hdummy hb,
      fun _ => rfl⟩

/-- `transplant`: the subtree `v` takes the place of the node `u`, which keeps its fields. -/
theorem transplant_cells {ρ u q : ℕ} (z : ℕ) {c : AssocNodeT K V} {p : AssocPath K (ℕ × V)}
    {v : AssocNode K (ℕ × V)}
    (h : m.Holds ({(d, .sentinel K V s)} + ({(u, c)} + (p.cells d u + (v.cells d q + r)))))
    (hρ : ρ = p.rootAddr u) (hc : c.parent = p.top d) :
    ∃ m' s', transplant ⟨m, d, ρ, z⟩ u (v.addr d) =
        some ⟨m', d, p.rootAddr (v.addr d), z⟩ ∧
      m'.Holds ({(d, .sentinel K V s')} +
        ({(u, c)} + (p.cells d (v.addr d) + (v.cells d (p.top d) + r)))) ∧
      (v = .dummy → s' = p.top d) ∧ (v ≠ .dummy → s' = s) := by
  have hu : m.Holds ({(u, c)} + ({(d, .sentinel K V s)} + (p.cells d u + (v.cells d q + r)))) :=
    h.congr (by ac_rfl)
  have hne : u ≠ d := hu.ne_of_mem (by simp)
  obtain ⟨m₁, hm₁, h₁⟩ := replaceChild_cells z (v.addr d) p h hρ
  have hu₁ : m₁.Holds ({(u, c)} + ({(d, .sentinel K V s)} +
      (p.cells d (v.addr d) + (v.cells d q + r)))) := h₁.congr (by ac_rfl)
  have h₁' : m₁.Holds ({(d, .sentinel K V s)} + (v.cells d q + ({(u, c)} +
      (p.cells d (v.addr d) + r)))) := h₁.congr (by ac_rfl)
  obtain ⟨m₂, s', hm₂, h₂, hs'⟩ := setParent_cells (p.rootAddr (v.addr d)) z q (p.top d) v h₁'
  refine ⟨m₂, s', ?_, h₂.congr (by ac_rfl), hs'⟩
  simp only [transplant, parent_eq d ρ z hu, parent_eq d _ z hu₁, hc, guard, if_pos hne, hm₁, hm₂,
    Option.bind_eq_bind, Option.bind_some, Option.pure_def]

end Links

/-- The sentinel is at `d` and has the parent `s`, the tree has `sz` nodes, and the memory holds
the subtree `n` below the path `p`, besides the cells `r`. -/
structure At (t : AssocRbTreeT K V) (d sz s : ℕ) (n : AssocNode K (ℕ × V))
    (p : AssocPath K (ℕ × V)) (r : AssocCells K V) : Prop where
  dummy : t.dummy = d
  size : t.size = sz
  root : t.root = p.rootAddr (n.addr d)
  holds : t.mem.Holds ({(d, .sentinel K V s)} + (n.cells d (p.top d) + (p.cells d (n.addr d) + r)))

section Moves

variable {t : AssocRbTreeT K V} {d sz s : ℕ} {p : AssocPath K (ℕ × V)} {r : AssocCells K V}

/-- `left_rotate` and `right_rotate`. -/
theorem At.rotate {side : AssocSide} {c c' : AssocColor} {A B C : AssocNode K (ℕ × V)} {k k' : K}
    {x y : ℕ × V} (h : t.At d sz s (.hang side c A k x (.hang side c' B k' y C)) p r) :
    ∃ t', t.rotate side x.1 = some t' ∧
      t'.At d sz s (.hang side c' (.hang side c A k x B) k' y C) p r := by
  obtain ⟨m, d, ρ, sz⟩ := t
  obtain ⟨rfl, rfl, hρ, h⟩ := h
  simp only [AssocNode.cells_hang, AssocNode.addr_hang] at h hρ
  -- `S` is the cell of the sentinel and `R` what stays as it is
  generalize hS : (d, AssocNodeT.sentinel K V s) = S at h
  obtain ⟨R, hR⟩ : ∃ R, A.cells d x.1 + (C.cells d y.1 + r) = R := ⟨_, rfl⟩
  have h₀ : m.Holds ({(x.1, .of side k x.2 (p.top d) c (A.addr d) y.1)} + ({S} +
      ({(y.1, .of side k' y.2 x.1 c' (B.addr d) (C.addr d))} +
        (B.cells d y.1 + (p.cells d x.1 + R))))) := h.congr (by rw [← hR]; ac_rfl)
  have hy : m.Holds ({(y.1, .of side k' y.2 x.1 c' (B.addr d) (C.addr d))} + ({S} +
      ({(x.1, .of side k x.2 (p.top d) c (A.addr d) y.1)} +
        (B.cells d y.1 + (p.cells d x.1 + R))))) := h₀.congr (by ac_rfl)
  have hyd : y.1 ≠ d := hy.ne_of_mem (by simp [← hS])
  obtain ⟨m₁, hm₁, h₁⟩ := setChild_other_eq d ρ sz h₀ (B.addr d)
  have h₁' : m₁.Holds ({S} + (B.cells d y.1 +
      ({(x.1, .of side k x.2 (p.top d) c (A.addr d) (B.addr d))} +
      ({(y.1, .of side k' y.2 x.1 c' (B.addr d) (C.addr d))} + (p.cells d x.1 + R))))) :=
    h₁.congr (by ac_rfl)
  rw [← hS] at h₁'
  obtain ⟨m₂, hm₂, h₂⟩ := reparent_cells ρ sz y.1 x.1 B h₁'
  rw [hS] at h₂
  have hx₂ : m₂.Holds ({(x.1, .of side k x.2 (p.top d) c (A.addr d) (B.addr d))} + ({S} +
      ({(y.1, .of side k' y.2 x.1 c' (B.addr d) (C.addr d))} +
        (B.cells d x.1 + (p.cells d x.1 + R))))) := h₂.congr (by ac_rfl)
  have hy₂ : m₂.Holds ({(y.1, .of side k' y.2 x.1 c' (B.addr d) (C.addr d))} + ({S} +
      ({(x.1, .of side k x.2 (p.top d) c (A.addr d) (B.addr d))} +
        (B.cells d x.1 + (p.cells d x.1 + R))))) := h₂.congr (by ac_rfl)
  obtain ⟨m₃, hm₃, h₃⟩ := setParent_eq d ρ sz hy₂ (p.top d)
  have h₃' : m₃.Holds ({S} + ({(x.1, .of side k x.2 (p.top d) c (A.addr d) (B.addr d))} +
      (p.cells d x.1 + ({(y.1, .of side k' y.2 (p.top d) c' (B.addr d) (C.addr d))} +
        (B.cells d x.1 + R))))) := h₃.congr (by ac_rfl)
  rw [← hS] at h₃'
  obtain ⟨m₄, hm₄, h₄⟩ := replaceChild_cells sz y.1 p h₃' hρ
  rw [hS] at h₄
  have h₄' : m₄.Holds ({(y.1, .of side k' y.2 (p.top d) c' (B.addr d) (C.addr d))} + ({S} +
      ({(x.1, .of side k x.2 (p.top d) c (A.addr d) (B.addr d))} +
      (p.cells d y.1 + (B.cells d x.1 + R))))) := h₄.congr (by ac_rfl)
  obtain ⟨m₅, hm₅, h₅⟩ := setChild_eq d (p.rootAddr y.1) sz h₄' x.1
  have h₅' : m₅.Holds ({(x.1, .of side k x.2 (p.top d) c (A.addr d) (B.addr d))} + ({S} +
      ({(y.1, .of side k' y.2 (p.top d) c' x.1 (C.addr d))} +
      (p.cells d y.1 + (B.cells d x.1 + R))))) := h₅.congr (by ac_rfl)
  obtain ⟨m₆, hm₆, h₆⟩ := setParent_eq d (p.rootAddr y.1) sz h₅' y.1
  refine ⟨⟨m₆, d, p.rootAddr y.1, sz⟩, ?_, rfl, rfl, ?_, h₆.congr ?_⟩
  · simp only [AssocRbTreeT.rotate, child_eq d ρ sz h₀, child_eq d ρ sz hy, parent_eq d ρ sz hx₂,
      AssocNodeT.child_of, AssocNodeT.child_other_of, AssocNodeT.parent_of, Option.bind_eq_bind,
      Option.bind_some, Option.pure_def, guard, if_pos hyd, hm₁, hm₂, hm₃, hm₄, hm₅, hm₆]
  · rw [AssocNode.addr_hang]
  · simp only [AssocNode.cells_hang, AssocNode.addr_hang, ← hR, hS]
    ac_rfl

/-! The position can be moved in the tree, and the fields of the nodes around it are read. -/

theorem at_fill {n : AssocNode K (ℕ × V)} {f : AssocFrame K (ℕ × V)} :
    t.At d sz s (f.fill n) p r ↔ t.At d sz s n (f :: p) r := by
  obtain ⟨side, c, k, x, b, rfl⟩ := f.exists_hang
  constructor
  · rintro ⟨hd, hsz, hroot, h⟩
    refine ⟨hd, hsz, ?_, h.congr ?_⟩
    · rw [hroot, AssocFrame.addr_fill]
      rfl
    · rw [AssocFrame.fill_hang, AssocNode.cells_hang, AssocPath.cells_hang, AssocNode.addr_hang,
        AssocPath.top, AssocFrame.addr_hang]
      ac_rfl
  · rintro ⟨hd, hsz, hroot, h⟩
    refine ⟨hd, hsz, ?_, h.congr ?_⟩
    · rw [hroot, AssocFrame.addr_fill]
      rfl
    · rw [AssocFrame.fill_hang, AssocNode.cells_hang, AssocPath.cells_hang, AssocNode.addr_hang,
        AssocPath.top, AssocFrame.addr_hang]
      ac_rfl

theorem at_append {n : AssocNode K (ℕ × V)} (q : AssocPath K (ℕ × V)) :
    t.At d sz s (AssocPath.plug n q) p r ↔ t.At d sz s n (q ++ p) r := by
  induction q generalizing n with
  | nil => exact Iff.rfl
  | cons f q ih => rw [AssocPath.plug, ih, at_fill, List.cons_append]

theorem at_plug {n : AssocNode K (ℕ × V)} :
    t.At d sz s (AssocPath.plug n p) [] r ↔ t.At d sz s n p r := by
  rw [at_append, List.append_nil]

/-- The cell of a node, and the others. -/
theorem At.cell {side : AssocSide} {c : AssocColor} {a b : AssocNode K (ℕ × V)} {k : K}
    {x : ℕ × V} (h : t.At d sz s (.hang side c a k x b) p r) :
    t.mem.Holds ({(x.1, .of side k x.2 (p.top d) c (a.addr d) (b.addr d))} +
      ({(d, .sentinel K V s)} + (a.cells d x.1 + (b.cells d x.1 + (p.cells d x.1 + r))))) := by
  have hcells := h.holds
  simp only [AssocNode.cells_hang, AssocNode.addr_hang] at hcells
  exact hcells.congr (by ac_rfl)

theorem At.child {side : AssocSide} {c : AssocColor} {a b : AssocNode K (ℕ × V)} {k : K}
    {x : ℕ × V} (h : t.At d sz s (.hang side c a k x b) p r) :
    t.child side x.1 = some (a.addr d) := by
  rw [AssocRbTreeT.child, h.cell.read, Option.map_some, AssocNodeT.child_of]

theorem At.child_other {side : AssocSide} {c : AssocColor} {a b : AssocNode K (ℕ × V)} {k : K}
    {x : ℕ × V} (h : t.At d sz s (.hang side c a k x b) p r) :
    t.child side.other x.1 = some (b.addr d) := by
  rw [AssocRbTreeT.child, h.cell.read, Option.map_some, AssocNodeT.child_other_of]

theorem At.parent {side : AssocSide} {c : AssocColor} {a b : AssocNode K (ℕ × V)} {k : K}
    {x : ℕ × V} (h : t.At d sz s (.hang side c a k x b) p r) :
    t.parent x.1 = some (p.top d) := by
  rw [AssocRbTreeT.parent, h.cell.read, Option.map_some, AssocNodeT.parent_of]

theorem At.key {side : AssocSide} {c : AssocColor} {a b : AssocNode K (ℕ × V)} {k : K}
    {x : ℕ × V} (h : t.At d sz s (.hang side c a k x b) p r) : t.key x.1 = some k := by
  rw [AssocRbTreeT.key, h.cell.read, Option.bind_some, AssocNodeT.key_of]

theorem At.value {side : AssocSide} {c : AssocColor} {a b : AssocNode K (ℕ × V)} {k : K}
    {x : ℕ × V} (h : t.At d sz s (.hang side c a k x b) p r) : t.value x.1 = some x.2 := by
  rw [AssocRbTreeT.value, h.cell.read, Option.bind_some, AssocNodeT.value_of]

/-- The sentinel is at no node. -/
theorem At.ne_dummy {side : AssocSide} {c : AssocColor} {a b : AssocNode K (ℕ × V)} {k : K}
    {x : ℕ × V} (h : t.At d sz s (.hang side c a k x b) p r) : x.1 ≠ d :=
  h.cell.ne_of_mem (by simp)

/-- The sentinel is black, and its parent is `s`. -/
theorem At.sentinel {n : AssocNode K (ℕ × V)} (h : t.At d sz s n p r) :
    t.color d = some .black ∧ t.parent d = some s := by
  rw [AssocRbTreeT.color, AssocRbTreeT.parent, h.holds.read]
  exact ⟨rfl, rfl⟩

theorem At.color {n : AssocNode K (ℕ × V)} (h : t.At d sz s n p r) :
    t.color (n.addr d) = some n.color := by
  by_cases hn : n = .dummy
  · rw [hn]
    exact h.sentinel.1
  · obtain ⟨c, a, k, x, b, rfl⟩ := AssocNode.exists_hang .left hn
    rw [AssocNode.addr_hang, AssocRbTreeT.color, h.cell.read, Option.map_some,
      AssocNodeT.color_of, AssocNode.color_hang]

/-- The parent of a subtree, be it the sentinel, is above it. -/
theorem At.parent_top {n : AssocNode K (ℕ × V)} (h : t.At d sz s n p r)
    (hs : n = .dummy → s = p.top d) : t.parent (n.addr d) = some (p.top d) := by
  by_cases hn : n = .dummy
  · rw [← hs hn, hn]
    exact h.sentinel.2
  · obtain ⟨c, a, k, x, b, rfl⟩ := AssocNode.exists_hang .left hn
    rw [AssocNode.addr_hang]
    exact h.parent

theorem At.color_top {n : AssocNode K (ℕ × V)} (h : t.At d sz s n p r) :
    t.color (p.top d) = some (AssocPath.color p) := by
  cases p with
  | nil => exact h.sentinel.1
  | cons f p =>
    have hfill := (at_fill.2 h).color
    rwa [AssocFrame.addr_fill, AssocFrame.color_fill] at hfill

/-- The root is a node of the path. -/
theorem rootAddr_mem_cells {p : AssocPath K (ℕ × V)} (hp : p ≠ []) (a : ℕ) :
    p.rootAddr a ∈ (p.cells d a).map Prod.fst := by
  induction p generalizing a with
  | nil => exact absurd rfl hp
  | cons f p ih =>
    obtain ⟨side, c, k, x, b, rfl⟩ := f.exists_hang
    rw [AssocPath.cells_hang, AssocPath.rootAddr, AssocFrame.addr_hang]
    by_cases hp' : p = []
    · simp [hp', AssocPath.rootAddr]
    · have hmem := ih hp' x.1
      simp only [Multiset.map_add, Multiset.mem_add]
      exact .inr (.inr hmem)

/-- A subtree that is not the whole tree is not at the root. -/
theorem At.ne_root {n : AssocNode K (ℕ × V)} (h : t.At d sz s n p r) (hp : p ≠ []) :
    n.addr d ≠ t.root := by
  have hroot := rootAddr_mem_cells (d := d) hp (n.addr d)
  rw [h.root]
  by_cases hn : n = .dummy
  · subst hn
    refine h.holds.ne_of_mem ?_
    simp only [Multiset.map_add, Multiset.mem_add]
    exact .inr (.inl hroot)
  · obtain ⟨c, a, k, x, b, rfl⟩ := AssocNode.exists_hang .left hn
    rw [AssocNode.addr_hang] at hroot ⊢
    refine h.cell.ne_of_mem ?_
    simp only [Multiset.map_add, Multiset.mem_add]
    exact .inr (.inr (.inr (.inl hroot)))

/-- Two subtrees of one node are at different addresses, unless both are the sentinel. -/
theorem At.addr_ne {side : AssocSide} {c : AssocColor} {a b : AssocNode K (ℕ × V)} {k : K}
    {x : ℕ × V} (h : t.At d sz s (.hang side c a k x b) p r) (ha : a ≠ .dummy) :
    a.addr d ≠ b.addr d := by
  obtain ⟨ca, aa, ka, xa, ba, rfl⟩ := AssocNode.exists_hang .left ha
  have hcells := h.cell
  rw [AssocNode.cells_hang] at hcells
  have hab : t.mem.Holds ({(d, .sentinel K V s)} +
      ({(xa.1, .of .left ka xa.2 x.1 ca (aa.addr d) (ba.addr d))} + (b.cells d x.1 +
        (aa.cells d xa.1 + ba.cells d xa.1 + (p.cells d x.1 + r) +
          {(x.1, .of side k x.2 (p.top d) c ((AssocNode.hang .left ca aa ka xa ba).addr d)
            (b.addr d))})))) := hcells.congr (by ac_rfl)
  rw [AssocNode.addr_hang]
  exact AssocRbTreeT.addr_ne hab

theorem At.setColor {side : AssocSide} {c : AssocColor} {a b : AssocNode K (ℕ × V)} {k : K}
    {x : ℕ × V} (h : t.At d sz s (.hang side c a k x b) p r) (c' : AssocColor) :
    ∃ t', t.setColor x.1 c' = some t' ∧ t'.At d sz s (.hang side c' a k x b) p r := by
  obtain ⟨m', hm', h'⟩ := setColor_eq t.dummy t.root t.size h.cell c'
  refine ⟨_, hm', h.dummy, h.size, ?_, h'.congr ?_⟩
  · rw [h.root, AssocNode.addr_hang, AssocNode.addr_hang]
  · simp only [AssocNode.cells_hang, AssocNode.addr_hang]
    ac_rfl

/-- The sentinel may be colored black again. -/
theorem At.setColor_black {n : AssocNode K (ℕ × V)} (h : t.At d sz s n p r) :
    ∃ t', t.setColor (n.addr d) .black = some t' ∧ t'.At d sz s (n.setColor .black) p r := by
  by_cases hn : n = .dummy
  · obtain ⟨m', hm', h'⟩ := update_eq t.dummy t.root t.size h.holds ({ · with color := .black })
    subst hn
    exact ⟨_, hm', h.dummy, h.size, h.root, h'⟩
  · obtain ⟨c, a, k, x, b, rfl⟩ := AssocNode.exists_hang .left hn
    rw [AssocNode.addr_hang, AssocNode.setColor_hang]
    exact h.setColor .black

/-- The only child of a node takes its place. The cell of the node is left over. -/
theorem At.transplant_child {side : AssocSide} {c : AssocColor} {n : AssocNode K (ℕ × V)} {k : K}
    {x : ℕ × V} (h : t.At d sz s (.hang side c .dummy k x n) p r) :
    ∃ t' s', t.transplant x.1 (n.addr d) = some t' ∧
      t'.At d sz s' n p ({(x.1, .of side k x.2 (p.top d) c d (n.addr d))} + r) ∧
      (n = .dummy → s' = p.top d) := by
  obtain ⟨m, d, ρ, sz⟩ := t
  have hcell := h.cell
  obtain ⟨rfl, rfl, hρ, -⟩ := h
  rw [AssocNode.addr_hang] at hρ
  have hcells : m.Holds ({(d, .sentinel K V s)} +
      ({(x.1, .of side k x.2 (p.top d) c d (n.addr d))} +
        (p.cells d x.1 + (n.cells d x.1 + r)))) := hcell.congr (by
    simp only [AssocNode.cells, AssocNode.addr, Multiset.zero_add]
    ac_rfl)
  obtain ⟨m', s', hm', h', hs'⟩ := transplant_cells sz hcells hρ (AssocNodeT.parent_of ..)
  exact ⟨_, s', hm', ⟨rfl, rfl, rfl, h'.congr (by ac_rfl)⟩, hs'.1⟩

end Moves

end AssocRbTreeT

end FlexRic
