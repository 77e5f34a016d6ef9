import FlexRic.AlgDs.AssocRbTree
import FlexRic.Semantics.Memory

/-!
# The nodes of the associative container in memory

The functions of `util/alg_ds/ds/assoc_container/assoc_rb_tree.c` as they read and write the nodes.
A failing assertion, a `NULL` key and an access to an address without a node are `none`. As `NULL`
has no node, the assertions that a pointer is not `NULL` need no mention. The loops have a number
of rounds `fuel`, and are `none` when it does not suffice.

Half of the code is the mirror image of the other half. It is written once here, with the side
`left` or `right` on which the node in question hangs.
-/

namespace FlexRic

/-- `assoc_node_t`. -/
structure AssocNodeT (K V : Type) : Type where
  key : Option K
  value : Option V
  parent : ℕ
  left : ℕ
  right : ℕ
  color : AssocColor

/-- `assoc_rb_tree_t`, with the memory in which its nodes are. -/
structure AssocRbTreeT (K V : Type) : Type where
  mem : Memory (AssocNodeT K V)
  dummy : ℕ
  root : ℕ
  size : ℕ

/-- The children of a node. -/
inductive AssocSide : Type where
  | left
  | right
  deriving DecidableEq, Repr

/-- The other one. -/
def AssocSide.other : AssocSide → AssocSide
  | left => right
  | right => left

variable {K V : Type}

namespace AssocNodeT

/-- The child on a side. -/
def child (side : AssocSide) (n : AssocNodeT K V) : ℕ :=
  match side with
  | .left => n.left
  | .right => n.right

/-- Assign the child on a side. -/
def setChild (side : AssocSide) (a : ℕ) (n : AssocNodeT K V) : AssocNodeT K V :=
  match side with
  | .left => { n with left := a }
  | .right => { n with right := a }

end AssocNodeT

namespace AssocRbTreeT

/-! ## Fields of a node -/

variable (t : AssocRbTreeT K V)

/-- The key of a node; that of the sentinel is `NULL`. -/
def key (a : ℕ) : Option K := (t.mem a).bind (·.key)

/-- The value of a node. -/
def value (a : ℕ) : Option V := (t.mem a).bind (·.value)

/-- The parent of a node. -/
def parent (a : ℕ) : Option ℕ := (t.mem a).map (·.parent)

/-- The child of a node. -/
def child (side : AssocSide) (a : ℕ) : Option ℕ := (t.mem a).map (·.child side)

/-- The color of a node. -/
def color (a : ℕ) : Option AssocColor := (t.mem a).map (·.color)

/-- Change a node. -/
def update (a : ℕ) (f : AssocNodeT K V → AssocNodeT K V) : Option (AssocRbTreeT K V) :=
  (t.mem.modify a f).map fun mem => { t with mem }

/-- Assign the parent of a node. -/
def setParent (a p : ℕ) : Option (AssocRbTreeT K V) := t.update a ({ · with parent := p })

/-- Assign the child of a node. -/
def setChild (side : AssocSide) (a b : ℕ) : Option (AssocRbTreeT K V) :=
  t.update a (·.setChild side b)

/-- Assign the color of a node. -/
def setColor (a : ℕ) (c : AssocColor) : Option (AssocRbTreeT K V) :=
  t.update a ({ · with color := c })

/-! ## Init, rotations and insertion -/

/-- `NULL`. -/
def null : ℕ := 0

/-- `assoc_rb_tree_init`; the sentinel was allocated at `dummy`. -/
def init (dummy : ℕ) : AssocRbTreeT K V where
  mem := Memory.set (fun _ => none) dummy (some ⟨none, none, null, null, null, .black⟩)
  dummy := dummy
  root := dummy
  size := 0

/-- `create_node_rb_tree`; the node was allocated at `x`. -/
def createNode (x : ℕ) (key : K) (value : V) : AssocRbTreeT K V :=
  { t with mem := t.mem.set x (some ⟨some key, some value, t.dummy, t.dummy, t.dummy, .red⟩) }

/-- Make the parent `p` of `u`, or the tree if `u` is the root, point to `v`. -/
def replaceChild (p u v : ℕ) : Option (AssocRbTreeT K V) := do
  if p = t.dummy then pure { t with root := v }
  else
    let l ← t.child .left p
    if u = l then t.setChild .left p v else t.setChild .right p v

/-- Assign the parent of a node, unless it is the sentinel. -/
def reparent (a p : ℕ) : Option (AssocRbTreeT K V) :=
  if a ≠ t.dummy then t.setParent a p else pure t

/-- `left_rotate` and, with the other side, `right_rotate`. -/
def rotate (side : AssocSide) (x : ℕ) : Option (AssocRbTreeT K V) := do
  let y ← t.child side.other x
  guard (y ≠ t.dummy)
  let b ← t.child side y
  let t ← t.setChild side.other x b
  let t ← t.reparent b x
  let p ← t.parent x
  let t ← t.setParent y p
  let t ← t.replaceChild p x y
  let t ← t.setChild side y x
  t.setParent x y

/-- `left_rotate`. -/
abbrev leftRotate (x : ℕ) : Option (AssocRbTreeT K V) := t.rotate .left x

/-- `right_rotate`. -/
abbrev rightRotate (x : ℕ) : Option (AssocRbTreeT K V) := t.rotate .right x

/-- Case 2 of `insert_fixup`: `z` is the inner child. It gives the tree and the new `z_node` and
`parent`. -/
def insertFixupCase2 (side : AssocSide) (z parent : ℕ) : Option (AssocRbTreeT K V × ℕ × ℕ) := do
  let inner ← t.child side.other parent
  if z = inner then
    let t ← t.rotate side parent
    let parent' ← t.parent parent
    pure (t, parent, parent')
  else pure (t, z, parent)

/-- The part of `insert_fixup` for a parent on a side of the grand parent. It gives the tree and
the new `z_node`. -/
def insertFixupSide (side : AssocSide) (z parent grandParent : ℕ) :
    Option (AssocRbTreeT K V × ℕ) := do
  let uncle ← t.child side.other grandParent
  let uncleColor ← t.color uncle
  if uncleColor = .red then
    -- Case 1: flip the colors and continue up the tree
    let t ← t.setColor parent .black
    let t ← t.setColor uncle .black
    let t ← t.setColor grandParent .red
    pure (t, grandParent)
  else
    let (t, z, parent) ← t.insertFixupCase2 side z parent
    -- Case 3: z is the outer child
    let t ← t.setColor parent .black
    let t ← t.setColor grandParent .red
    let t ← t.rotate side.other grandParent
    pure (t, z)

/-- `insert_fixup`. -/
def insertFixup : ℕ → AssocRbTreeT K V → ℕ → Option (AssocRbTreeT K V)
  | 0, _, _ => none
  | fuel + 1, t, z => do
    let parent ← t.parent z
    let parentColor ← t.color parent
    if parentColor = .red then
      let grandParent ← t.parent parent
      let l ← t.child .left grandParent
      let side := if parent = l then AssocSide.left else .right
      let (t, z) ← t.insertFixupSide side z parent grandParent
      insertFixup fuel t z
    else t.setColor t.root .black

/-- The loop of `assoc_rb_tree_insert` that finds the leaf to insert: `y_node` in the end. -/
def findLeaf (cmp : K → K → Ordering) (key : K) : ℕ → ℕ → ℕ → Option ℕ
  | 0, _, _ => none
  | fuel + 1, x, y =>
    if x = t.dummy then pure y
    else do
      let k ← t.key x
      let next ← if cmp key k = .lt then t.child .left x else t.child .right x
      findLeaf cmp key fuel next x

/-- Make the leaf `y`, or the tree if it is empty, point to the new node `z`. -/
def attach (cmp : K → K → Ordering) (key : K) (y z : ℕ) : Option (AssocRbTreeT K V) := do
  if y = t.dummy then pure { t with root := z }
  else
    let k ← t.key y
    if cmp key k = .lt then t.setChild .left y z else t.setChild .right y z

/-- `assoc_rb_tree_insert`; the new node was allocated at `z`. -/
def insert (fuel : ℕ) (cmp : K → K → Ordering) (z : ℕ) (key : K) (value : V) :
    Option (AssocRbTreeT K V) := do
  let t := t.createNode z key value
  guard (z ≠ t.dummy)
  let y ← t.findLeaf cmp key fuel t.root t.dummy
  let t ← t.setParent z y
  let t ← t.attach cmp key y z
  let t ← insertFixup fuel t z
  pure { t with size := t.size + 1 }

/-! ## Extraction -/

/-- Case 1 of `delete_fixup`: the sibling `w` is red. It gives the tree and the new sibling. -/
def deleteFixupCase1 (side : AssocSide) (x w : ℕ) : Option (AssocRbTreeT K V × ℕ) := do
  let c ← t.color w
  if c = .red then
    let t ← t.setColor w .black
    let p ← t.parent x
    let t ← t.setColor p .red
    let t ← t.rotate side p
    let p ← t.parent x
    let w ← t.child side.other p
    pure (t, w)
  else pure (t, w)

/-- Case 3: the outer child of the sibling is black. It gives the tree and the new sibling. -/
def deleteFixupCase3 (side : AssocSide) (x w : ℕ) : Option (AssocRbTreeT K V × ℕ) := do
  let far ← t.child side.other w
  let farColor ← t.color far
  if farColor = .black then
    guard (t.color w = some .black)
    let near ← t.child side w
    guard (t.color near = some .red)
    let t ← t.setColor near .black
    let t ← t.setColor w .red
    let t ← t.rotate side.other w
    let p ← t.parent x
    let w ← t.child side.other p
    pure (t, w)
  else pure (t, w)

/-- Case 4: the outer child of the sibling is red. -/
def deleteFixupCase4 (side : AssocSide) (x w : ℕ) : Option (AssocRbTreeT K V) := do
  guard (t.color w = some .black)
  let far ← t.child side.other w
  guard (t.color far = some .red)
  let p ← t.parent x
  let c ← t.color p
  let t ← t.setColor w c
  let t ← t.setColor p .black
  let far ← t.child side.other w
  let t ← t.setColor far .black
  t.rotate side p

/-- The condition of case 2: both children of the sibling are black. -/
def bothBlack (w : ℕ) : Option Bool := do
  let l ← t.child .left w
  let lc ← t.color l
  if lc = .black then
    let r ← t.child .right w
    let rc ← t.color r
    pure (rc = .black)
  else pure false

/-- Cases 2 to 4 of `delete_fixup`. It gives the tree and the new `x_node`. -/
def deleteFixupCases234 (side : AssocSide) (x w : ℕ) : Option (AssocRbTreeT K V × ℕ) := do
  guard (t.color w = some .black)
  let both ← t.bothBlack w
  if both then
    -- Case 2
    let t ← t.setColor w .red
    let p ← t.parent x
    pure (t, p)
  else
    let (t, w) ← t.deleteFixupCase3 side x w
    let t ← t.deleteFixupCase4 side x w
    pure (t, t.root)

/-- The part of `delete_fixup` for an `x_node` on a side of its parent. It gives the tree and the
new `x_node`. -/
def deleteFixupSide (side : AssocSide) (x : ℕ) : Option (AssocRbTreeT K V × ℕ) := do
  let p ← t.parent x
  let w ← t.child side.other p
  let (t, w) ← t.deleteFixupCase1 side x w
  t.deleteFixupCases234 side x w

/-- `delete_fixup`. -/
def deleteFixup : ℕ → AssocRbTreeT K V → ℕ → Option (AssocRbTreeT K V)
  | 0, _, _ => none
  | fuel + 1, t, x => do
    let c ← t.color x
    if x ≠ t.root ∧ c = .black then
      let p ← t.parent x
      let l ← t.child .left p
      let side := if x = l then AssocSide.left else .right
      let (t, x) ← t.deleteFixupSide side x
      deleteFixup fuel t x
    else t.setColor x .black

/-- `transplant`. -/
def transplant (u v : ℕ) : Option (AssocRbTreeT K V) := do
  guard (u ≠ t.dummy)
  let p ← t.parent u
  let t ← t.replaceChild p u v
  let p ← t.parent u
  t.setParent v p

/-- The loop of `minimum`. -/
def leftmost : ℕ → ℕ → Option ℕ
  | 0, _ => none
  | fuel + 1, x => do
    let l ← t.child .left x
    if l ≠ t.dummy then leftmost fuel l else pure x

/-- `minimum`. -/
def minimum (fuel x : ℕ) : Option ℕ :=
  if x = t.dummy then pure t.dummy else t.leftmost fuel x

/-- `find_rb_tree`. -/
def findRbTree (cmp : K → K → Ordering) (key : K) : ℕ → ℕ → Option ℕ
  | 0, _ => none
  | fuel + 1, node =>
    if node = t.dummy then pure node
    else do
      let k ← t.key node
      match cmp key k with
      | .lt => do
        let l ← t.child .left node
        findRbTree cmp key fuel l
      | .gt => do
        let r ← t.child .right node
        findRbTree cmp key fuel r
      | .eq => pure node

/-- The first half of `replaceBySuccessor`: the successor `y` of `z` leaves its place to its right
child `x`, and the right child of `z` becomes its own. -/
def detachSuccessor (z y x : ℕ) : Option (AssocRbTreeT K V) := do
  let p ← t.parent y
  if p = z then t.setParent x y
  else
    let t ← t.transplant y x
    let r ← t.child .right z
    let t ← t.setChild .right y r
    t.setParent r y

/-- The part of `assoc_rb_tree_extract` for a node `z` with two children: the successor takes its
place. It gives the tree, the original color of the successor and `x_node`. -/
def replaceBySuccessor (fuel z : ℕ) : Option (AssocRbTreeT K V × AssocColor × ℕ) := do
  let r ← t.child .right z
  let y ← t.minimum fuel r
  let originalColor ← t.color y
  let x ← t.child .right y
  let t ← t.detachSuccessor z y x
  let t ← t.transplant z y
  let l ← t.child .left z
  let t ← t.setChild .left y l
  let t ← t.setParent l y
  let c ← t.color z
  let t ← t.setColor y c
  pure (t, originalColor, x)

/-- The part of `assoc_rb_tree_extract` that takes the node `z` out of the tree. -/
def unlink (fuel z : ℕ) : Option (AssocRbTreeT K V × AssocColor × ℕ) := do
  let originalColor ← t.color z
  let l ← t.child .left z
  let r ← t.child .right z
  if l = t.dummy then
    let t ← t.transplant z r
    pure (t, originalColor, r)
  else if r = t.dummy then
    let t ← t.transplant z l
    pure (t, originalColor, l)
  else t.replaceBySuccessor fuel z

/-- `free_node_rb_tree`. -/
def freeNode (n : ℕ) : Option (AssocRbTreeT K V) :=
  (t.mem n).map fun _ => { t with mem := t.mem.set n none }

/-- The fix-up runs when the node that left its place was black. -/
def close (fuel : ℕ) (originalColor : AssocColor) (x : ℕ) : Option (AssocRbTreeT K V) :=
  if originalColor = .black then deleteFixup fuel t x else pure t

/-- `assoc_rb_tree_extract`. -/
def extract (fuel : ℕ) (cmp : K → K → Ordering) (key : K) : Option (V × AssocRbTreeT K V) := do
  let z ← t.findRbTree cmp key fuel t.root
  guard (z ≠ t.dummy)
  let (t, originalColor, x) ← t.unlink fuel z
  let value ← t.value z
  let t ← t.freeNode z
  let t ← t.close fuel originalColor x
  guard (t.size ≠ 0)
  pure (value, { t with size := t.size - 1 })

/-! ## Iteration -/

/-- `assoc_rb_tree_front`. -/
def front (fuel : ℕ) : Option ℕ := t.minimum fuel t.root

/-- The loop of `assoc_rb_tree_next` that goes up until it comes from a left child. -/
def climb : ℕ → ℕ → ℕ → Option ℕ
  | 0, _, _ => none
  | fuel + 1, node, p =>
    if p = t.dummy then pure p
    else do
      let l ← t.child .left p
      if l ≠ node then
        let p' ← t.parent p
        climb fuel p p'
      else pure p

/-- `assoc_rb_tree_next`. -/
def next (fuel node : ℕ) : Option ℕ := do
  guard (node ≠ t.dummy)
  let r ← t.child .right node
  if r ≠ t.dummy then t.minimum fuel r
  else
    let p ← t.parent node
    t.climb fuel node p

/-- `assoc_rb_tree_end`. -/
def endNode : ℕ := t.dummy

/-- `assoc_rb_tree_key`. -/
def keyAt (it : ℕ) : Option K := do
  guard (it ≠ t.dummy)
  t.key it

/-- `assoc_rb_tree_value`. -/
def valueAt (it : ℕ) : Option V := do
  guard (it ≠ t.dummy)
  t.value it

/-- The loop `for(it = front; it != end; it = next(it))` from `it` on: the entries it visits. -/
def visitFrom (fuel : ℕ) : ℕ → ℕ → Option (List (K × V))
  | 0, _ => none
  | rounds + 1, it =>
    if it = t.endNode then pure []
    else do
      let k ← t.keyAt it
      let v ← t.valueAt it
      let it' ← t.next fuel it
      let es ← visitFrom fuel rounds it'
      pure ((k, v) :: es)

/-- The entries that the loop over the whole tree visits. -/
def visit (fuel : ℕ) : Option (List (K × V)) := do
  let it ← t.front fuel
  t.visitFrom fuel fuel it

end AssocRbTreeT

end FlexRic
