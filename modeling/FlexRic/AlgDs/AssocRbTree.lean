import Mathlib.Data.List.Basic
import Mathlib.Data.List.Perm.Basic

/-!
# The associative container (`util/alg_ds/ds/assoc_container/assoc_rb_tree.c`)

A red-black tree after CLRS. The C code walks parent pointers; here the position of a node is a
**zipper**: the subtree hanging at the node and the `Path` of frames up to the root. A loop that
climbs the tree is then a recursion on the path, and the sentinel `dummy` is the empty subtree.

The C comparators answer `1` when the first key goes to the left of the second one, `-1` when it
goes to its right and `0` otherwise. Here the three answers are `Ordering.lt`, `Ordering.gt` and
`Ordering.eq`. A failing `assert` is `none`.
-/

namespace FlexRic

universe u v

/-- `assoc_color_e`. -/
inductive AssocColor : Type where
  | black
  | red
  deriving DecidableEq, Repr

/-- A subtree: the sentinel `dummy`, or an `assoc_node_t` with its two children. -/
inductive AssocNode (K : Type u) (V : Type v) : Type (max u v) where
  /-- the sentinel -/
  | dummy : AssocNode K V
  /-- a node: color, left child, key, value, right child -/
  | node : AssocColor → AssocNode K V → K → V → AssocNode K V → AssocNode K V
  deriving Repr

/-- One step up from a node to its parent: the parent without the child we come from. -/
inductive AssocFrame (K : Type u) (V : Type v) : Type (max u v) where
  /-- we come from the parent's left: its color, key, value and right child -/
  | fromLeft : AssocColor → K → V → AssocNode K V → AssocFrame K V
  /-- we come from the parent's right: its left child, color, key and value -/
  | fromRight : AssocNode K V → AssocColor → K → V → AssocFrame K V
  deriving Repr

/-- The way from a node up to the root, nearest parent first. -/
abbrev AssocPath (K : Type u) (V : Type v) : Type (max u v) := List (AssocFrame K V)

variable {K : Type u} {V : Type v}

namespace AssocNode

/-- The color of a node; the sentinel is black. -/
def color : AssocNode K V → AssocColor
  | dummy => .black
  | node c _ _ _ _ => c

/-- Assign a node's color. -/
def setColor (c : AssocColor) : AssocNode K V → AssocNode K V
  | dummy => dummy
  | node _ l k x r => node c l k x r

/-- `left_rotate` of the subtree (it asserts that the right child is not the sentinel). -/
def leftRotate : AssocNode K V → AssocNode K V
  | node c l k x (node c' l' k' x' r') => node c' (node c l k x l') k' x' r'
  | n => n

/-- `right_rotate` of the subtree. -/
def rightRotate : AssocNode K V → AssocNode K V
  | node c (node c' l' k' x' r') k x r => node c' l' k' x' (node c r' k x r)
  | n => n

/-- The entries in the order in which `assoc_rb_tree_front`, `assoc_rb_tree_next` and
`assoc_rb_tree_end` visit them. -/
def toList : AssocNode K V → List (K × V)
  | dummy => []
  | node _ l k x r => l.toList ++ (k, x) :: r.toList

end AssocNode

namespace AssocFrame

/-- The color of the parent. -/
def color : AssocFrame K V → AssocColor
  | fromLeft c _ _ _ => c
  | fromRight _ c _ _ => c

/-- Hang a subtree back at the place we came from. -/
def fill (n : AssocNode K V) : AssocFrame K V → AssocNode K V
  | fromLeft c k x r => .node c n k x r
  | fromRight l c k x => .node c l k x n

/-- The entries of the parent and its other child that come before ours. -/
def before : AssocFrame K V → List (K × V)
  | fromLeft _ _ _ _ => []
  | fromRight l _ k x => l.toList ++ [(k, x)]

/-- The entries of the parent and its other child that come after ours. -/
def after : AssocFrame K V → List (K × V)
  | fromLeft _ k x r => (k, x) :: r.toList
  | fromRight _ _ _ _ => []

end AssocFrame

namespace AssocPath

/-- The whole tree with the subtree at the end of the path. -/
def plug (n : AssocNode K V) : AssocPath K V → AssocNode K V
  | [] => n
  | f :: p => plug (f.fill n) p

/-- The entries before the hole of the path. -/
def before : AssocPath K V → List (K × V)
  | [] => []
  | f :: p => before p ++ f.before

/-- The entries after the hole of the path. -/
def after : AssocPath K V → List (K × V)
  | [] => []
  | f :: p => f.after ++ after p

end AssocPath

/-! ## Insertion -/

/-- `insert_fixup`: `z` is red and hangs at the path. The loop runs while the parent is red. A red
parent is not the root, so the one-frame case is the end of the loop. -/
def insertFixup (z : AssocNode K V) : AssocPath K V → AssocNode K V
  | [] => z.setColor .black
  | [p] => (p.fill z).setColor .black
  | p :: .fromLeft c k x uncle :: rest =>
    if p.color = .red then
      if uncle.color = .red then
        -- Case 1: flip the colors and go on at the grand parent
        insertFixup (.node .red ((p.fill z).setColor .black) k x (uncle.setColor .black)) rest
      else
        -- Case 2: z at the right of its parent
        let parent := match p with
          | .fromRight .. => (p.fill z).leftRotate
          | .fromLeft .. => p.fill z
        -- Case 3: z at the left of its parent
        let grandParent := AssocNode.node .red (parent.setColor .black) k x uncle
        (AssocPath.plug grandParent.rightRotate rest).setColor .black
    else (AssocPath.plug z (p :: .fromLeft c k x uncle :: rest)).setColor .black
  | p :: .fromRight uncle c k x :: rest =>
    if p.color = .red then
      if uncle.color = .red then
        insertFixup (.node .red (uncle.setColor .black) k x ((p.fill z).setColor .black)) rest
      else
        let parent := match p with
          | .fromLeft .. => (p.fill z).rightRotate
          | .fromRight .. => p.fill z
        let grandParent := AssocNode.node .red uncle k x (parent.setColor .black)
        (AssocPath.plug grandParent.leftRotate rest).setColor .black
    else (AssocPath.plug z (p :: .fromRight uncle c k x :: rest)).setColor .black

/-- The search for the leaf at which `assoc_rb_tree_insert` hangs the new node. -/
def insertPath (cmp : K → K → Ordering) (key : K) : AssocNode K V → AssocPath K V → AssocPath K V
  | .dummy, path => path
  | .node c l k x r, path =>
    if cmp key k = .lt then insertPath cmp key l (.fromLeft c k x r :: path)
    else insertPath cmp key r (.fromRight l c k x :: path)

/-! ## Extraction -/

/-- `find_rb_tree`: the node whose key compares equal, with its path. -/
def findRbTree (cmp : K → K → Ordering) (key : K) :
    AssocNode K V → AssocPath K V → Option (AssocNode K V × AssocPath K V)
  | .dummy, _ => none
  | .node c l k x r, path =>
    match cmp key k with
    | .lt => findRbTree cmp key l (.fromLeft c k x r :: path)
    | .gt => findRbTree cmp key r (.fromRight l c k x :: path)
    | .eq => some (.node c l k x r, path)

/-- `minimum`: the leftmost node of a subtree that is not the sentinel, with its path. The node is
given by its color, key, value and right child: its left child is the sentinel. -/
def minimumPath (c : AssocColor) (l : AssocNode K V) (k : K) (x : V) (r : AssocNode K V)
    (path : AssocPath K V) : (AssocColor × K × V × AssocNode K V) × AssocPath K V :=
  match l with
  | .dummy => ((c, k, x, r), path)
  | .node c' l' k' x' r' => minimumPath c' l' k' x' r' (.fromLeft c k x r :: path)

/-- Cases 2 to 4 of `delete_fixup` for `x_node` at the left of its parent (`c`, `k`, `v`) and a
black sibling `w`: the subtree now at the parent's place, and whether the loop goes on with that
subtree as the new `x_node`. -/
def deleteFixupLeft (c : AssocColor) (n : AssocNode K V) (k : K) (x : V) (w : AssocNode K V) :
    AssocNode K V × Bool :=
  match w with
  | .dummy => (.node c n k x .dummy, true)
  | .node _ wl wk wx wr =>
    if wl.color = .black ∧ wr.color = .black then
      (.node c n k x (.node .red wl wk wx wr), true)
    else
      -- Case 3: the far child of the sibling is black
      let w := if wr.color = .black then
          (AssocNode.node .red (wl.setColor .black) wk wx wr).rightRotate
        else .node .black wl wk wx wr
      -- Case 4: the far child of the sibling is red
      match w with
      | .dummy => (.node c n k x .dummy, true)
      | .node _ wl wk wx wr =>
        ((AssocNode.node .black n k x (.node c wl wk wx (wr.setColor .black))).leftRotate, false)

/-- The mirror image of `deleteFixupLeft`, for `x_node` at the right of its parent. -/
def deleteFixupRight (w : AssocNode K V) (c : AssocColor) (k : K) (x : V) (n : AssocNode K V) :
    AssocNode K V × Bool :=
  match w with
  | .dummy => (.node c .dummy k x n, true)
  | .node _ wl wk wx wr =>
    if wl.color = .black ∧ wr.color = .black then
      (.node c (.node .red wl wk wx wr) k x n, true)
    else
      let w := if wl.color = .black then
          (AssocNode.node .red wl wk wx (wr.setColor .black)).leftRotate
        else .node .black wl wk wx wr
      match w with
      | .dummy => (.node c .dummy k x n, true)
      | .node _ wl wk wx wr =>
        ((AssocNode.node .black (.node c (wl.setColor .black) wk wx wr) k x n).rightRotate, false)

/-- `delete_fixup`: the subtree `n` (`x_node`) hangs at the path and lacks one black. -/
def deleteFixup (n : AssocNode K V) : AssocPath K V → AssocNode K V
  | [] => n.setColor .black
  | .fromLeft c k x w :: rest =>
    if n.color = .red then AssocPath.plug (n.setColor .black) (.fromLeft c k x w :: rest)
    else match w with
      | .node .red wl wk wx wr =>
        -- Case 1: the sibling is red. It becomes the grand parent and the parent turns red, so
        -- that case 2 then ends the loop at the parent
        let up : AssocFrame K V := .fromLeft .black wk wx wr
        match deleteFixupLeft .red n k x wl with
        | (t, true) => AssocPath.plug (t.setColor .black) (up :: rest)
        | (t, false) => (AssocPath.plug t (up :: rest)).setColor .black
      | w =>
        match deleteFixupLeft c n k x w with
        | (t, true) => deleteFixup t rest
        | (t, false) => (AssocPath.plug t rest).setColor .black
  | .fromRight w c k x :: rest =>
    if n.color = .red then AssocPath.plug (n.setColor .black) (.fromRight w c k x :: rest)
    else match w with
      | .node .red wl wk wx wr =>
        let up : AssocFrame K V := .fromRight wl .black wk wx
        match deleteFixupRight wr .red k x n with
        | (t, true) => AssocPath.plug (t.setColor .black) (up :: rest)
        | (t, false) => (AssocPath.plug t (up :: rest)).setColor .black
      | w =>
        match deleteFixupRight w c k x n with
        | (t, true) => deleteFixup t rest
        | (t, false) => (AssocPath.plug t rest).setColor .black

/-- The part of `assoc_rb_tree_extract` that takes the node out: with at most one child the child
is transplanted, else the successor `y_node` takes the place and the color of the node. The fix-up
runs when the node that left its place was black. -/
def extractNode (c : AssocColor) (l r : AssocNode K V) (path : AssocPath K V) : AssocNode K V :=
  let close (original : AssocColor) (n : AssocNode K V) (p : AssocPath K V) :=
    if original = .black then deleteFixup n p else AssocPath.plug n p
  match l, r with
  | .dummy, r => close c r path
  | l, .dummy => close c l path
  | l, .node rc rl rk rx rr =>
    let (y, inner) := minimumPath rc rl rk rx rr []
    close y.1 y.2.2.2 (inner ++ .fromRight l c y.2.1 y.2.2.1 :: path)

/-! ## The container -/

/-- `assoc_rb_tree_t`. The comparator is an argument of the operations. -/
structure AssocRbTree (K : Type u) (V : Type v) : Type (max u v) where
  /-- the root node -/
  root : AssocNode K V
  /-- the number of nodes -/
  size : ℕ
  deriving Repr

namespace AssocRbTree

/-- `assoc_rb_tree_init`. -/
def init : AssocRbTree K V := ⟨.dummy, 0⟩

/-- `assoc_rb_tree_insert`. -/
def insert (cmp : K → K → Ordering) (t : AssocRbTree K V) (key : K) (value : V) :
    AssocRbTree K V :=
  ⟨insertFixup (.node .red .dummy key value .dummy) (insertPath cmp key t.root []), t.size + 1⟩

/-- `assoc_rb_tree_extract`; it asserts that the key is found. -/
def extract (cmp : K → K → Ordering) (t : AssocRbTree K V) (key : K) :
    Option (V × AssocRbTree K V) :=
  match findRbTree cmp key t.root [] with
  | some (.node c l _ x r, path) =>
    if t.size = 0 then none else some (x, ⟨extractNode c l r path, t.size - 1⟩)
  | _ => none

/-- The entries in iteration order. -/
def toList (t : AssocRbTree K V) : List (K × V) := t.root.toList

/-- `find_if_rb_tree` from front to end: the first entry whose key satisfies the predicate; `none`
is the end iterator. -/
def findIf (t : AssocRbTree K V) (f : K → Bool) : Option (K × V) :=
  t.toList.find? fun e => f e.1

end AssocRbTree

/-! ## Iteration order

The rotations, the recolorings and the fix-up loops move nodes around but never change the order
in which the entries are visited. -/

namespace AssocNode

@[simp] theorem toList_dummy : (dummy : AssocNode K V).toList = [] := rfl

@[simp] theorem toList_node (c : AssocColor) (l : AssocNode K V) (k : K) (x : V)
    (r : AssocNode K V) : (node c l k x r).toList = l.toList ++ (k, x) :: r.toList := rfl

@[simp] theorem toList_setColor (c : AssocColor) (n : AssocNode K V) :
    (n.setColor c).toList = n.toList := by
  cases n <;> rfl

@[simp] theorem toList_leftRotate (n : AssocNode K V) : n.leftRotate.toList = n.toList := by
  cases n with
  | dummy => rfl
  | node c l k x r =>
    cases r with
    | dummy => rfl
    | node c' l' k' x' r' => simp [leftRotate]

@[simp] theorem toList_rightRotate (n : AssocNode K V) : n.rightRotate.toList = n.toList := by
  cases n with
  | dummy => rfl
  | node c l k x r =>
    cases l with
    | dummy => rfl
    | node c' l' k' x' r' => simp [rightRotate]

end AssocNode

@[simp] theorem AssocFrame.toList_fill (n : AssocNode K V) (f : AssocFrame K V) :
    (f.fill n).toList = f.before ++ n.toList ++ f.after := by
  cases f <;> simp [AssocFrame.fill, AssocFrame.before, AssocFrame.after]

namespace AssocPath

@[simp] theorem toList_plug (n : AssocNode K V) (p : AssocPath K V) :
    (plug n p).toList = before p ++ n.toList ++ after p := by
  induction p generalizing n with
  | nil => simp [plug, before, after]
  | cons f p ih => simp [plug, before, after, ih]

@[simp] theorem before_append (p q : AssocPath K V) : before (p ++ q) = before q ++ before p := by
  induction p with
  | nil => simp [before]
  | cons f p ih => simp [before, ih]

@[simp] theorem after_append (p q : AssocPath K V) : after (p ++ q) = after p ++ after q := by
  induction p with
  | nil => simp [after]
  | cons f p ih => simp [after, ih]

end AssocPath

open AssocPath in
/-- `insert_fixup` keeps the iteration order. -/
@[simp] theorem toList_insertFixup (z : AssocNode K V) (p : AssocPath K V) :
    (insertFixup z p).toList = before p ++ z.toList ++ after p := by
  fun_induction insertFixup z p with
  | case1 z => simp [before, after]
  | case2 z p => simp [before, after]
  | case3 z p c k x uncle rest hp hu ih =>
    simp [ih, before, after, AssocFrame.before, AssocFrame.after]
  | case4 z p c k x uncle rest hp hu parent grandParent =>
    have hparent : parent.toList = p.before ++ z.toList ++ p.after := by
      cases p <;> simp [parent]
    simp [grandParent, hparent, before, after, AssocFrame.before, AssocFrame.after]
  | case5 z p c k x uncle rest hp => simp [before, after, AssocFrame.before, AssocFrame.after]
  | case6 z p c k x uncle rest hp hu ih =>
    simp [ih, before, after, AssocFrame.before, AssocFrame.after]
  | case7 z p c k x uncle rest hp hu parent grandParent =>
    have hparent : parent.toList = p.before ++ z.toList ++ p.after := by
      cases p <;> simp [parent]
    simp [grandParent, hparent, before, after, AssocFrame.before, AssocFrame.after]
  | case8 z p c k x uncle rest hp => simp [before, after, AssocFrame.before, AssocFrame.after]

theorem toList_deleteFixupLeft (c : AssocColor) (n : AssocNode K V) (k : K) (x : V)
    (w : AssocNode K V) :
    (deleteFixupLeft c n k x w).1.toList = n.toList ++ (k, x) :: w.toList := by
  cases w with
  | dummy => rfl
  | node wc wl wk wx wr =>
    simp only [deleteFixupLeft]
    by_cases hb : wl.color = .black ∧ wr.color = .black
    · rw [if_pos hb]
      simp
    · rw [if_neg hb]
      by_cases hr : wr.color = .black
      · -- the near child is red, so it is a node and the sibling is rotated
        cases wl with
        | dummy => exact absurd ⟨rfl, hr⟩ hb
        | node c' l' k' x' r' =>
          simp [hr, AssocNode.setColor, AssocNode.rightRotate]
      · simp [hr]

theorem toList_deleteFixupRight (w : AssocNode K V) (c : AssocColor) (k : K) (x : V)
    (n : AssocNode K V) :
    (deleteFixupRight w c k x n).1.toList = w.toList ++ (k, x) :: n.toList := by
  cases w with
  | dummy => rfl
  | node wc wl wk wx wr =>
    simp only [deleteFixupRight]
    by_cases hb : wl.color = .black ∧ wr.color = .black
    · rw [if_pos hb]
      simp
    · rw [if_neg hb]
      by_cases hl : wl.color = .black
      · cases wr with
        | dummy => exact absurd ⟨hl, rfl⟩ hb
        | node c' l' k' x' r' =>
          simp [hl, AssocNode.setColor, AssocNode.leftRotate]
      · simp [hl]

open AssocPath in
/-- `delete_fixup` keeps the iteration order. -/
@[simp] theorem toList_deleteFixup (n : AssocNode K V) (p : AssocPath K V) :
    (deleteFixup n p).toList = before p ++ n.toList ++ after p := by
  fun_induction deleteFixup n p with
  | case1 n => simp [before, after]
  | case2 n c k x w rest hn => simp
  | case3 n c k x rest hn wl wk wx wr up t ht =>
    have hlist := toList_deleteFixupLeft .red n k x wl
    rw [ht] at hlist
    simp [up, hlist, before, after, AssocFrame.before, AssocFrame.after]
  | case4 n c k x rest hn wl wk wx wr up t ht =>
    have hlist := toList_deleteFixupLeft .red n k x wl
    rw [ht] at hlist
    simp [up, hlist, before, after, AssocFrame.before, AssocFrame.after]
  | case5 n c k x rest hn w hw t ht ih =>
    have hlist := toList_deleteFixupLeft c n k x w
    rw [ht] at hlist
    simp [ih, hlist, before, after, AssocFrame.before, AssocFrame.after]
  | case6 n c k x rest hn w hw t ht =>
    have hlist := toList_deleteFixupLeft c n k x w
    rw [ht] at hlist
    simp [hlist, before, after, AssocFrame.before, AssocFrame.after]
  | case7 n w c k x rest hn => simp
  | case8 n c k x rest hn wl wk wx wr up t ht =>
    have hlist := toList_deleteFixupRight wr .red k x n
    rw [ht] at hlist
    simp [up, hlist, before, after, AssocFrame.before, AssocFrame.after]
  | case9 n c k x rest hn wl wk wx wr up t ht =>
    have hlist := toList_deleteFixupRight wr .red k x n
    rw [ht] at hlist
    simp [up, hlist, before, after, AssocFrame.before, AssocFrame.after]
  | case10 n c k x rest hn w hw t ht ih =>
    have hlist := toList_deleteFixupRight w c k x n
    rw [ht] at hlist
    simp [ih, hlist, before, after, AssocFrame.before, AssocFrame.after]
  | case11 n c k x rest hn w hw t ht =>
    have hlist := toList_deleteFixupRight w c k x n
    rw [ht] at hlist
    simp [hlist, before, after, AssocFrame.before, AssocFrame.after]

open AssocPath in
/-- `minimum` finds the first entry of the subtree. -/
theorem minimumPath_split (c : AssocColor) (l : AssocNode K V) (k : K) (x : V)
    (r : AssocNode K V) (p : AssocPath K V) :
    let y := minimumPath c l k x r p
    before y.2 = before p ∧
      (y.1.2.1, y.1.2.2.1) :: (y.1.2.2.2.toList ++ after y.2) =
        l.toList ++ (k, x) :: r.toList ++ after p := by
  fun_induction minimumPath c l k x r p with
  | case1 c k x r p => simp
  | case2 c k x r p c' l' k' x' r' ih =>
    simp only [before, after, AssocFrame.before, AssocFrame.after, List.append_nil] at ih
    exact ⟨ih.1, by simp [ih.2]⟩

open AssocPath in
/-- Taking a node out leaves every other entry at its place. -/
theorem toList_extractNode (c : AssocColor) (l r : AssocNode K V) (p : AssocPath K V) :
    (extractNode c l r p).toList = before p ++ l.toList ++ r.toList ++ after p := by
  have hclose : ∀ (original : AssocColor) (n : AssocNode K V) (q : AssocPath K V),
      (if original = .black then deleteFixup n q else plug n q).toList =
        before q ++ n.toList ++ after q := by
    intro original n q
    split <;> simp
  unfold extractNode
  split
  · rw [hclose]
    simp
  · rw [hclose]
    simp
  · next l rc rl rk rx rr hl =>
    obtain ⟨hbefore, hafter⟩ := minimumPath_split rc rl rk rx rr ([] : AssocPath K V)
    rw [hclose]
    generalize minimumPath rc rl rk rx rr ([] : AssocPath K V) = y at hbefore hafter ⊢
    simp only [before, after, before_append, after_append, AssocFrame.before,
      AssocFrame.after, List.append_nil, List.nil_append] at hbefore hafter ⊢
    simp [hbefore, ← hafter]

/-! ## Searching

The descents compare keys only, so what they find depends on the order of the entries and not on
the shape of the tree. -/

/-- The iteration order agrees with the comparator. -/
def Sorted (cmp : K → K → Ordering) (es : List (K × V)) : Prop :=
  es.Pairwise fun a b => (cmp a.1 b.1).isLE

/-- What the descents keep: nothing before the hole is greater than the key, and nothing after it
is smaller. -/
def Between (cmp : K → K → Ordering) (key : K) (p : AssocPath K V) : Prop :=
  (∀ e ∈ p.before, (cmp e.1 key).isLE) ∧ ∀ e ∈ p.after, (cmp key e.1).isLE

section Search

variable {cmp : K → K → Ordering}

theorem Sorted.left {es fs : List (K × V)} (h : Sorted cmp (es ++ fs)) : Sorted cmp es :=
  (List.pairwise_append.1 h).1

theorem Sorted.right {es fs : List (K × V)} (h : Sorted cmp (es ++ fs)) : Sorted cmp fs :=
  (List.pairwise_append.1 h).2.1

theorem Sorted.remove {es fs : List (K × V)} {e : K × V} (h : Sorted cmp (es ++ e :: fs)) :
    Sorted cmp (es ++ fs) :=
  h.sublist (List.Sublist.append_left (List.sublist_cons_self e fs) es)

theorem isLE_swap [Std.OrientedCmp cmp] {a b : K} (h : cmp a b ≠ .lt) : (cmp b a).isLE := by
  have hswap : cmp b a = (cmp a b).swap := Std.OrientedCmp.eq_swap
  rw [hswap]
  cases hab : cmp a b <;> simp_all

open AssocPath in
/-- The search for the leaf passes no entry by. -/
theorem insertPath_split (key : K) (n : AssocNode K V) (p : AssocPath K V) :
    before (insertPath cmp key n p) ++ after (insertPath cmp key n p) =
      before p ++ n.toList ++ after p := by
  fun_induction insertPath cmp key n p with
  | case1 p => simp
  | case2 c l k x r p h ih => simp [ih, before, after, AssocFrame.before, AssocFrame.after]
  | case3 c l k x r p h ih => simp [ih, before, after, AssocFrame.before, AssocFrame.after]

/-- The comparator is transitive on these keys. -/
def TransOn (cmp : K → K → Ordering) (S : K → Prop) : Prop :=
  ∀ a b c, S a → S b → S c → (cmp a b).isLE → (cmp b c).isLE → (cmp a c).isLE

theorem transOn_of_transCmp [Std.TransCmp cmp] (S : K → Prop) : TransOn cmp S :=
  fun _ _ _ _ _ _ => Std.TransCmp.isLE_trans

theorem TransOn.lt_of_lt_of_isLE [Std.OrientedCmp cmp] {S : K → Prop} (h : TransOn cmp S)
    {a b c : K} (ha : S a) (hb : S b) (hc : S c) (hab : cmp a b = .lt) (hbc : (cmp b c).isLE) :
    cmp a c = .lt := by
  by_contra hne
  have hba := h b c a hb hc ha hbc (isLE_swap hne)
  rw [Std.OrientedCmp.gt_iff_lt.2 hab] at hba
  cases hba

theorem TransOn.lt_of_isLE_of_lt [Std.OrientedCmp cmp] {S : K → Prop} (h : TransOn cmp S)
    {a b c : K} (ha : S a) (hb : S b) (hc : S c) (hab : (cmp a b).isLE) (hbc : cmp b c = .lt) :
    cmp a c = .lt := by
  by_contra hne
  have hcb := h c a b hc ha hb (isLE_swap hne) hab
  rw [Std.OrientedCmp.gt_iff_lt.2 hbc] at hcb
  cases hcb

open AssocPath in
/-- In a sorted tree the search ends between the smaller and the greater keys. -/
theorem insertPath_between_on [Std.OrientedCmp cmp] {S : K → Prop} (htrans : TransOn cmp S)
    {key : K} {n : AssocNode K V} {p : AssocPath K V} (hkey : S key) (hS : ∀ e ∈ n.toList, S e.1)
    (hn : Sorted cmp n.toList) (hp : Between cmp key p)
    (hpS : ∀ e ∈ p.before ++ p.after, S e.1) :
    Between cmp key (insertPath cmp key n p) := by
  fun_induction insertPath cmp key n p with
  | case1 p => exact hp
  | case2 c l k x r p h ih =>
    -- to the left: the parent and its right child come after the key
    simp only [AssocNode.toList_node, List.mem_append, List.mem_cons] at hS
    have hSk : S k := hS (k, x) (.inr (.inl rfl))
    have hSr : ∀ e ∈ r.toList, S e.1 := fun e he => hS e (.inr (.inr he))
    refine ih (fun e he => hS e (.inl he)) hn.left
      ⟨by simpa [before, AssocFrame.before] using hp.1, ?_⟩ ?_
    · have hk : (cmp key k).isLE := by simp [h]
      have hr : ∀ e ∈ r.toList, (cmp k e.1).isLE := fun e he =>
        List.rel_of_pairwise_cons hn.right he
      intro e he
      simp only [after, AssocFrame.after, List.cons_append, List.mem_cons, List.mem_append] at he
      rcases he with rfl | he | he
      · exact hk
      · exact htrans _ _ _ hkey hSk (hSr e he) hk (hr e he)
      · exact hp.2 e he
    · intro e he
      simp only [before, after, AssocFrame.before, AssocFrame.after, List.append_nil,
        List.cons_append, List.mem_append, List.mem_cons] at he hpS
      rcases he with he | rfl | he | he
      · exact hpS e (.inl he)
      · exact hSk
      · exact hSr e he
      · exact hpS e (.inr he)
  | case3 c l k x r p h ih =>
    -- to the right: the left child and the parent come before the key
    simp only [AssocNode.toList_node, List.mem_append, List.mem_cons] at hS
    have hSk : S k := hS (k, x) (.inr (.inl rfl))
    have hSl : ∀ e ∈ l.toList, S e.1 := fun e he => hS e (.inl he)
    have hk : (cmp k key).isLE := isLE_swap h
    refine ih (fun e he => hS e (.inr (.inr he)))
      (hn.right.sublist (List.sublist_cons_self _ _))
      ⟨?_, by simpa [after, AssocFrame.after] using hp.2⟩ ?_
    · intro e he
      simp only [before, AssocFrame.before, List.mem_append, List.mem_cons, List.not_mem_nil,
        or_false] at he
      rcases he with he | he | rfl
      · exact hp.1 e he
      · exact htrans _ _ _ (hSl e he) hSk hkey
          ((List.pairwise_append.1 hn).2.2 e he _ List.mem_cons_self) hk
      · exact hk
    · intro e he
      simp only [before, after, AssocFrame.before, AssocFrame.after, List.nil_append,
        List.mem_append, List.mem_cons, List.not_mem_nil, or_false] at he hpS
      rcases he with (he | he | rfl) | he
      · exact hpS e (.inl he)
      · exact hSl e he
      · exact hSk
      · exact hpS e (.inr he)

open AssocPath in
/-- In a sorted tree the keys after the place of the new one are greater, not just not smaller: the
search goes on to the right at a key that compares equal. -/
theorem insertPath_after_lt [Std.TransCmp cmp] {key : K} {n : AssocNode K V} {p : AssocPath K V}
    (hn : Sorted cmp n.toList) (hp : ∀ e ∈ p.after, cmp key e.1 = .lt) :
    ∀ e ∈ (insertPath cmp key n p).after, cmp key e.1 = .lt := by
  fun_induction insertPath cmp key n p with
  | case1 p => exact hp
  | case2 c l k x r p h ih =>
    refine ih hn.left ?_
    intro e he
    simp only [after, AssocFrame.after, List.cons_append, List.mem_cons, List.mem_append] at he
    rcases he with rfl | he | he
    · exact h
    · exact Std.TransCmp.lt_of_lt_of_isLE h (List.rel_of_pairwise_cons hn.right he)
    · exact hp e he
  | case3 c l k x r p h ih =>
    refine ih (hn.right.sublist (List.sublist_cons_self _ _)) ?_
    simpa [after, AssocFrame.after] using hp

open AssocPath in
/-- A node that is found compares equal and sits where the path says. -/
theorem findRbTree_split {key : K} {n m : AssocNode K V} {p q : AssocPath K V}
    (h : findRbTree cmp key n p = some (m, q)) :
    ∃ c l k x r, m = .node c l k x r ∧ cmp key k = .eq ∧
      before q ++ m.toList ++ after q = before p ++ n.toList ++ after p := by
  fun_induction findRbTree cmp key n p with
  | case1 => cases h
  | case2 c l k x r p hlt ih =>
    obtain ⟨c', l', k', x', r', hm, heq, hsplit⟩ := ih h
    exact ⟨c', l', k', x', r', hm, heq,
      by simp [hsplit, before, after, AssocFrame.before, AssocFrame.after]⟩
  | case3 c l k x r p hgt ih =>
    obtain ⟨c', l', k', x', r', hm, heq, hsplit⟩ := ih h
    exact ⟨c', l', k', x', r', hm, heq,
      by simp [hsplit, before, after, AssocFrame.before, AssocFrame.after]⟩
  | case4 c l k x r p heq =>
    cases h
    exact ⟨c, l, k, x, r, rfl, heq, rfl⟩

/-- In a sorted tree a key that compares equal to an entry is found. -/
theorem findRbTree_isSome_on [Std.OrientedCmp cmp] {S : K → Prop} (htrans : TransOn cmp S)
    {key : K} {n : AssocNode K V} (p : AssocPath K V) (hkeyS : S key)
    (hS : ∀ e ∈ n.toList, S e.1) (hn : Sorted cmp n.toList) {e : K × V} (he : e ∈ n.toList)
    (hkey : cmp key e.1 = .eq) : ∃ m q, findRbTree cmp key n p = some (m, q) := by
  fun_induction findRbTree cmp key n p with
  | case1 p => cases he
  | case2 c l k x r p hlt ih =>
    simp only [AssocNode.toList_node, List.mem_append, List.mem_cons] at hS
    have hSk : S k := hS (k, x) (.inr (.inl rfl))
    -- the entry is not at or after the parent, which is greater than the key
    have hafter : ∀ d ∈ (k, x) :: r.toList, cmp key d.1 = .lt := by
      intro d hd
      rcases List.mem_cons.1 hd with rfl | hd
      · exact hlt
      · exact htrans.lt_of_lt_of_isLE hkeyS hSk (hS d (.inr (.inr hd))) hlt
          (List.rel_of_pairwise_cons hn.right hd)
    rcases List.mem_append.1 he with he | he
    · exact ih (fun d hd => hS d (.inl hd)) hn.left he
    · rw [hafter e he] at hkey
      cases hkey
  | case3 c l k x r p hgt ih =>
    simp only [AssocNode.toList_node, List.mem_append, List.mem_cons] at hS
    have hSk : S k := hS (k, x) (.inr (.inl rfl))
    have hbefore : ∀ d ∈ l.toList ++ [(k, x)], cmp d.1 key = .lt := by
      have hlt : cmp k key = .lt := Std.OrientedCmp.gt_iff_lt.1 hgt
      intro d hd
      rcases List.mem_append.1 hd with hd | hd
      · exact htrans.lt_of_isLE_of_lt (hS d (.inl hd)) hSk hkeyS
          ((List.pairwise_append.1 hn).2.2 d hd _ List.mem_cons_self) hlt
      · cases List.mem_singleton.1 hd
        exact hlt
    have hsplit : e ∈ (l.toList ++ [(k, x)]) ++ r.toList := by simpa using he
    rcases List.mem_append.1 hsplit with he' | he'
    · have hlt := hbefore e he'
      rw [Std.OrientedCmp.eq_comm.1 hkey] at hlt
      cases hlt
    · exact ih (fun d hd => hS d (.inr (.inr hd)))
        (hn.right.sublist (List.sublist_cons_self _ _)) he'
  | case4 c l k x r p heq => exact ⟨_, _, rfl⟩

theorem findRbTree_isSome [Std.TransCmp cmp] {key : K} {n : AssocNode K V} (p : AssocPath K V)
    (hn : Sorted cmp n.toList) {e : K × V} (he : e ∈ n.toList) (hkey : cmp key e.1 = .eq) :
    ∃ m q, findRbTree cmp key n p = some (m, q) :=
  findRbTree_isSome_on (transOn_of_transCmp fun _ => True) p trivial (fun _ _ => trivial) hn he
    hkey

theorem findRbTree_congr {key key' : K} (hcmp : ∀ k, cmp key k = cmp key' k)
    (n : AssocNode K V) (p : AssocPath K V) :
    findRbTree cmp key n p = findRbTree cmp key' n p := by
  induction n generalizing p with
  | dummy => rfl
  | node c l k x r ihl ihr => simp only [findRbTree, hcmp, ihl, ihr]

end Search

/-! ## The container seen as its list of entries -/

namespace AssocRbTree

section Container

variable {cmp : K → K → Ordering}

/-- What the operations keep: the entries are in order and `size` counts them. -/
structure WF (cmp : K → K → Ordering) (t : AssocRbTree K V) : Prop where
  /-- the entries are in order -/
  sorted : Sorted cmp t.toList
  /-- `size` counts the entries -/
  size_eq : t.size = t.toList.length

@[simp] theorem toList_init : (init : AssocRbTree K V).toList = [] := rfl

theorem wf_init : (init : AssocRbTree K V).WF cmp :=
  ⟨List.Pairwise.nil, rfl⟩

theorem findIf_eq_some {t : AssocRbTree K V} {f : K → Bool} {e : K × V}
    (h : t.findIf f = some e) : e ∈ t.toList ∧ f e.1 = true := by
  rw [findIf] at h
  exact ⟨List.mem_of_find?_eq_some h, by simpa using List.find?_some h⟩

theorem findIf_isSome {t : AssocRbTree K V} {f : K → Bool} :
    (t.findIf f).isSome ↔ ∃ e ∈ t.toList, f e.1 = true :=
  List.find?_isSome

/-- An entry that satisfies the predicate makes the search succeed. -/
theorem exists_findIf {t : AssocRbTree K V} {f : K → Bool} {e : K × V} (he : e ∈ t.toList)
    (hf : f e.1 = true) : ∃ e', t.findIf f = some e' :=
  Option.isSome_iff_exists.1 (findIf_isSome.2 ⟨e, he, hf⟩)

/-- The insertion puts the new entry somewhere and moves no other. -/
theorem toList_insert (cmp : K → K → Ordering) (t : AssocRbTree K V) (key : K) (value : V) :
    ∃ es fs, t.toList = es ++ fs ∧ (t.insert cmp key value).toList = es ++ (key, value) :: fs := by
  have hsplit := @insertPath_split K V cmp key t.root []
  refine ⟨_, _, by simpa [toList, AssocPath.before, AssocPath.after] using hsplit.symm, ?_⟩
  simp [toList, insert]

theorem perm_insert (cmp : K → K → Ordering) (t : AssocRbTree K V) (key : K) (value : V) :
    (t.insert cmp key value).toList.Perm ((key, value) :: t.toList) := by
  obtain ⟨es, fs, h, h'⟩ := toList_insert cmp t key value
  rw [h, h']
  exact List.perm_middle

@[simp] theorem mem_insert {t : AssocRbTree K V} {key : K} {value : V} {e : K × V} :
    e ∈ (t.insert cmp key value).toList ↔ e = (key, value) ∨ e ∈ t.toList := by
  rw [(perm_insert cmp t key value).mem_iff, List.mem_cons]

theorem WF.insert_on [Std.OrientedCmp cmp] {S : K → Prop} (htrans : TransOn cmp S)
    {t : AssocRbTree K V} (h : t.WF cmp) (hS : ∀ e ∈ t.toList, S e.1) {key : K} (hkey : S key)
    (value : V) : (t.insert cmp key value).WF cmp := by
  refine ⟨?_, ?_⟩
  · have hbetween : Between cmp key (insertPath cmp key t.root []) :=
      insertPath_between_on htrans hkey hS h.sorted
        ⟨by simp [AssocPath.before], by simp [AssocPath.after]⟩
        (by simp [AssocPath.before, AssocPath.after])
    have hsplit := @insertPath_split K V cmp key t.root []
    have hsorted := h.sorted
    simp only [AssocPath.before, AssocPath.after, List.nil_append, List.append_nil] at hsplit
    rw [Sorted, toList, ← hsplit] at hsorted
    obtain ⟨hb, ha, hba⟩ := List.pairwise_append.1 hsorted
    have hlist : (t.insert cmp key value).toList = _ := toList_insertFixup _ _
    rw [Sorted, hlist]
    simp only [AssocNode.toList_node, AssocNode.toList_dummy, List.nil_append,
      List.append_assoc, List.singleton_append]
    refine List.pairwise_append.2 ⟨hb, List.pairwise_cons.2 ⟨hbetween.2, ha⟩, ?_⟩
    intro d hd e he
    rcases List.mem_cons.1 he with rfl | he
    · exact hbetween.1 d hd
    · exact hba d hd e he
  · rw [(perm_insert cmp t key value).length_eq, List.length_cons, ← h.size_eq]
    rfl

theorem WF.insert [Std.TransCmp cmp] {t : AssocRbTree K V} (h : t.WF cmp) (key : K) (value : V) :
    (t.insert cmp key value).WF cmp :=
  h.insert_on (transOn_of_transCmp fun _ => True) (fun _ _ => trivial) trivial value

/-- The search for keys that compare equal to a new one finds the new one last. -/
theorem WF.findIf_insert [Std.TransCmp cmp] {t : AssocRbTree K V} (h : t.WF cmp) {key : K}
    {f : K → Bool} (hf : f key → ∀ k, f k → cmp key k = .eq) (value : V) :
    (t.insert cmp key value).findIf f =
      (t.findIf f).or (if f key then some (key, value) else none) := by
  have hsplit := @insertPath_split K V cmp key t.root []
  simp only [AssocPath.before, AssocPath.after, List.nil_append, List.append_nil] at hsplit
  have hafter : ∀ e ∈ (insertPath cmp key t.root []).after, cmp key e.1 = .lt :=
    insertPath_after_lt h.sorted (by simp [AssocPath.after])
  have hlist : (t.insert cmp key value).toList = _ := toList_insertFixup _ _
  have htree : t.toList = _ := hsplit.symm
  simp only [findIf, hlist, htree, AssocNode.toList_node, AssocNode.toList_dummy,
    List.nil_append, List.find?_append, List.find?_cons, List.find?_nil]
  cases hkey : f key with
  | false => simp
  | true =>
    -- what comes after the new entry does not compare equal to it
    have hnone : (insertPath cmp key t.root []).after.find? (fun e => f e.1) = none := by
      refine List.find?_eq_none.2 fun e he hfe => ?_
      have heq := hf hkey e.1 hfe
      rw [hafter e he] at heq
      cases heq
    simp [hnone]

/-- The extraction takes one entry out, whose key compares equal to the one asked for. -/
theorem toList_extract {t t' : AssocRbTree K V} {key : K} {value : V}
    (h : t.extract cmp key = some (value, t')) :
    t'.size + 1 = t.size ∧ ∃ es k fs, cmp key k = .eq ∧ t.toList = es ++ (k, value) :: fs ∧
      t'.toList = es ++ fs := by
  unfold extract at h
  split at h
  · next c l k x r p hfind =>
    obtain ⟨c', l', k', x', r', hm, heq, hsplit⟩ := findRbTree_split hfind
    cases hm
    split at h
    · cases h
    · cases h
      refine ⟨by dsimp only; omega, p.before ++ l.toList, k, r.toList ++ p.after, heq, ?_, ?_⟩
      · simpa [toList, AssocPath.before, AssocPath.after] using hsplit.symm
      · simp [toList, toList_extractNode]
  · cases h

theorem perm_extract {t t' : AssocRbTree K V} {key : K} {value : V}
    (h : t.extract cmp key = some (value, t')) :
    ∃ k, cmp key k = .eq ∧ t.toList.Perm ((k, value) :: t'.toList) := by
  obtain ⟨-, es, k, fs, heq, ht, ht'⟩ := toList_extract h
  refine ⟨k, heq, ?_⟩
  rw [ht, ht']
  exact List.perm_middle

theorem WF.extract {t t' : AssocRbTree K V} {key : K} {value : V} (hwf : t.WF cmp)
    (h : t.extract cmp key = some (value, t')) : t'.WF cmp := by
  obtain ⟨hsize, es, k, fs, -, ht, ht'⟩ := toList_extract h
  refine ⟨?_, ?_⟩
  · have hsorted := hwf.sorted
    rw [ht] at hsorted
    rw [ht']
    exact hsorted.remove
  · have hlen := hwf.size_eq
    rw [ht] at hlen
    rw [ht']
    simp only [List.length_append, List.length_cons] at hlen ⊢
    omega

/-- The extraction finds a key that compares equal to one of the entries. -/
theorem WF.extract_isSome_on [Std.OrientedCmp cmp] {S : K → Prop} (htrans : TransOn cmp S)
    {t : AssocRbTree K V} {key : K} (h : t.WF cmp) (hS : ∀ e ∈ t.toList, S e.1) (hkeyS : S key)
    {e : K × V} (he : e ∈ t.toList) (hkey : cmp key e.1 = .eq) :
    ∃ value t', t.extract cmp key = some (value, t') := by
  obtain ⟨m, q, hfind⟩ := findRbTree_isSome_on htrans [] hkeyS hS h.sorted he hkey
  obtain ⟨c, l, k, x, r, rfl, -, -⟩ := findRbTree_split hfind
  have hsize : t.size ≠ 0 := by
    rw [h.size_eq]
    exact Nat.ne_of_gt (List.length_pos_of_mem he)
  refine ⟨x, ⟨extractNode c l r q, t.size - 1⟩, ?_⟩
  simp only [AssocRbTree.extract, hfind, if_neg hsize]

theorem WF.extract_isSome [Std.TransCmp cmp] {t : AssocRbTree K V} {key : K} (h : t.WF cmp)
    {e : K × V} (he : e ∈ t.toList) (hkey : cmp key e.1 = .eq) :
    ∃ value t', t.extract cmp key = some (value, t') :=
  h.extract_isSome_on (transOn_of_transCmp fun _ => True) (fun _ _ => trivial) trivial he hkey

theorem extract_congr {t : AssocRbTree K V} {key key' : K}
    (h : ∀ k, cmp key k = cmp key' k) : t.extract cmp key = t.extract cmp key' := by
  simp only [extract, findRbTree_congr h]

/-- If only one entry compares equal to the key, the extraction takes it out. -/
theorem WF.extract_unique_on [Std.OrientedCmp cmp] {S : K → Prop} (htrans : TransOn cmp S)
    {t : AssocRbTree K V} {key : K} (h : t.WF cmp) (hS : ∀ e ∈ t.toList, S e.1) (hkeyS : S key)
    {e : K × V} (he : e ∈ t.toList) (hkey : cmp key e.1 = .eq)
    (hunique : ∀ d ∈ t.toList, cmp key d.1 = .eq → d = e) :
    ∃ t', t.extract cmp key = some (e.2, t') ∧ t'.WF cmp ∧ t.toList.Perm (e :: t'.toList) := by
  obtain ⟨value, t', hext⟩ := h.extract_isSome_on htrans hS hkeyS he hkey
  obtain ⟨k, hk, hperm⟩ := perm_extract hext
  have heq : (k, value) = e := hunique _ (hperm.mem_iff.2 List.mem_cons_self) hk
  cases heq
  exact ⟨t', hext, h.extract hext, hperm⟩

theorem WF.extract_unique [Std.TransCmp cmp] {t : AssocRbTree K V} {key : K} (h : t.WF cmp)
    {e : K × V} (he : e ∈ t.toList) (hkey : cmp key e.1 = .eq)
    (hunique : ∀ d ∈ t.toList, cmp key d.1 = .eq → d = e) :
    ∃ t', t.extract cmp key = some (e.2, t') ∧ t'.WF cmp ∧ t.toList.Perm (e :: t'.toList) :=
  h.extract_unique_on (transOn_of_transCmp fun _ => True) (fun _ _ => trivial) trivial he hkey
    hunique

/-- With keys that are pairwise different for the comparator, the extraction takes out the one
entry whose key compares equal. -/
theorem WF.extract_of_mem [Std.TransCmp cmp] [Std.LawfulEqCmp cmp] {t : AssocRbTree K V}
    (h : t.WF cmp) (hnodup : (t.toList.map Prod.fst).Nodup) {key : K} {value : V}
    (he : (key, value) ∈ t.toList) :
    ∃ t', t.extract cmp key = some (value, t') ∧ t.toList.Perm ((key, value) :: t'.toList) := by
  obtain ⟨v', t', hext⟩ := h.extract_isSome he Std.ReflCmp.compare_self
  obtain ⟨k, heq, hperm⟩ := perm_extract hext
  cases Std.LawfulEqCmp.eq_of_compare heq
  have hv : v' = value := by
    have hmem : (key, value) ∈ (key, v') :: t'.toList := hperm.mem_iff.1 he
    rcases List.mem_cons.1 hmem with heq | hmem
    · cases heq
      rfl
    · have hnodup' := (hperm.map Prod.fst).nodup_iff.1 hnodup
      exact absurd (List.mem_map_of_mem hmem) (List.nodup_cons.1 hnodup').1
  subst hv
  exact ⟨t', hext, hperm⟩

/-- Three keys in a circle are put into a tree, and the first one is in its root. Once it has been
taken out, the second one takes its place, and the third one is on the wrong side of it. -/
theorem extract_of_circle [Std.OrientedCmp cmp] {a b c : K}
    (hab : cmp a b = .lt) (hbc : cmp b c = .lt) (hca : cmp c a = .lt) (x y z : V) :
    ∃ t, (((init.insert cmp a x).insert cmp b y).insert cmp c z).extract cmp a =
        some (x, t) ∧ t.extract cmp c = none := by
  have hba : cmp b a = .gt := Std.OrientedCmp.gt_iff_lt.2 hab
  have hcb : cmp c b = .gt := Std.OrientedCmp.gt_iff_lt.2 hbc
  have haa : cmp a a = .eq := Std.ReflCmp.compare_self
  have htree : ((init.insert cmp a x).insert cmp b y).insert cmp c z =
      ⟨.node .black (.node .red .dummy c z .dummy) a x (.node .red .dummy b y .dummy), 3⟩ := by
    simp [AssocRbTree.insert, init, insertPath, insertFixup, AssocFrame.fill,
      AssocNode.setColor, hba, hca]
  refine ⟨⟨.node .black (.node .red .dummy c z .dummy) b y .dummy, 2⟩, ?_, ?_⟩
  · rw [htree]
    simp [AssocRbTree.extract, findRbTree, haa, extractNode, minimumPath, AssocPath.plug,
      AssocFrame.fill]
  · simp [AssocRbTree.extract, findRbTree, hcb]

end Container

end AssocRbTree

end FlexRic
