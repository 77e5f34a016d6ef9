import FlexRic.AlgDs.AssocRbTree

/-!
# The balance of the associative container

The red-black properties: the root is black, a red node has black children, and all ways down from
a node have the same number of black nodes. `RedBlack` says the last two of a subtree, with that
number, and `AssocPath.RedBlack` says them of what surrounds a subtree. The insertion hangs a red
node below a node that may be red too; the extraction leaves a subtree that lacks one black node.
The fix-ups repair the one and the other.
-/

namespace FlexRic

universe u v

variable {K : Type u} {V : Type v}

/-! ## Red-black trees -/

/-- No red node has a red child. -/
def AssocNode.NoRedRed : AssocNode K V → Prop
  | dummy => True
  | node c l _ _ r =>
    (c = .red → l.color = .black ∧ r.color = .black) ∧ l.NoRedRed ∧ r.NoRedRed

/-- How many black nodes a node of this color is. -/
def AssocColor.blacks : AssocColor → ℕ
  | black => 1
  | red => 0

/-- The numbers of black nodes on the ways down to the sentinel. -/
def AssocNode.blackCounts : AssocNode K V → List ℕ
  | dummy => [0]
  | node c l _ _ r => (l.blackCounts ++ r.blackCounts).map (· + c.blacks)

/-- No red node has a red child, and all ways down have `h` black nodes. -/
inductive RedBlack : AssocNode K V → ℕ → Prop
  | dummy : RedBlack .dummy 0
  | red {l : AssocNode K V} {k : K} {x : V} {r : AssocNode K V} {h : ℕ} :
      RedBlack l h → RedBlack r h → l.color = .black → r.color = .black →
      RedBlack (.node .red l k x r) h
  | black {l : AssocNode K V} {k : K} {x : V} {r : AssocNode K V} {h : ℕ} :
      RedBlack l h → RedBlack r h → RedBlack (.node .black l k x r) (h + 1)

/-- A whole red-black tree: its root is black. -/
structure AssocNode.IsRedBlack (n : AssocNode K V) : Prop where
  color : n.color = .black
  redBlack : ∃ h, RedBlack n h

theorem AssocNode.blackCounts_ne_nil (n : AssocNode K V) : n.blackCounts ≠ [] := by
  induction n with
  | dummy => exact List.cons_ne_nil _ _
  | node c l k x r ihl _ => simp [blackCounts, ihl]

theorem redBlack_iff {n : AssocNode K V} {h : ℕ} :
    RedBlack n h ↔ n.NoRedRed ∧ ∀ b ∈ n.blackCounts, b = h := by
  constructor
  · intro hn
    induction hn with
    | dummy => simp [AssocNode.NoRedRed, AssocNode.blackCounts]
    | red _ _ hl hr ihl ihr =>
      refine ⟨⟨fun _ => ⟨hl, hr⟩, ihl.1, ihr.1⟩, ?_⟩
      simpa [AssocNode.blackCounts, AssocColor.blacks, or_imp, forall_and] using ⟨ihl.2, ihr.2⟩
    | black _ _ ihl ihr =>
      refine ⟨⟨fun hc => (nomatch hc), ihl.1, ihr.1⟩, ?_⟩
      simpa [AssocNode.blackCounts, AssocColor.blacks, or_imp, forall_and] using ⟨ihl.2, ihr.2⟩
  · rintro ⟨hred, hcounts⟩
    induction n generalizing h with
    | dummy =>
      obtain rfl := hcounts 0 (by simp [AssocNode.blackCounts])
      exact .dummy
    | node c l k x r ihl ihr =>
      obtain ⟨hc, hl, hr⟩ := hred
      cases c with
      | red =>
        simp only [AssocNode.blackCounts, AssocColor.blacks, Nat.add_zero, List.map_id',
          List.mem_append, or_imp, forall_and] at hcounts
        exact .red (ihl hl hcounts.1) (ihr hr hcounts.2) (hc rfl).1 (hc rfl).2
      | black =>
        simp only [AssocNode.blackCounts, AssocColor.blacks, List.mem_map, List.mem_append, or_imp,
          forall_and, forall_exists_index, and_imp, forall_apply_eq_imp_iff₂] at hcounts
        obtain ⟨b, hb⟩ := List.exists_mem_of_ne_nil _ l.blackCounts_ne_nil
        obtain rfl := hcounts.1 b hb
        exact .black (ihl hl fun d hd => Nat.succ.inj (hcounts.1 d hd))
          (ihr hr fun d hd => Nat.succ.inj (hcounts.2 d hd))

/-- The other child of the parent. -/
def AssocFrame.sibling : AssocFrame K V → AssocNode K V
  | fromLeft _ _ _ r => r
  | fromRight l _ _ _ => l

/-- The color of the parent of the hole; the sentinel is black. -/
def AssocPath.color : AssocPath K V → AssocColor
  | [] => .black
  | f :: _ => f.color

/-- What surrounds a subtree whose ways down have `h` black nodes. -/
inductive AssocPath.RedBlack : AssocPath K V → ℕ → Prop
  | nil {h : ℕ} : RedBlack [] h
  | red {f : AssocFrame K V} {p : AssocPath K V} {h : ℕ} : f.color = .red →
      FlexRic.RedBlack f.sibling h → f.sibling.color = .black → p ≠ [] → color p = .black →
      RedBlack p h → RedBlack (f :: p) h
  | black {f : AssocFrame K V} {p : AssocPath K V} {h : ℕ} : f.color = .black →
      FlexRic.RedBlack f.sibling h → RedBlack p (h + 1) → RedBlack (f :: p) h

@[simp] theorem AssocFrame.color_fill (n : AssocNode K V) (f : AssocFrame K V) :
    (f.fill n).color = f.color := by
  cases f <;> rfl

@[simp] theorem AssocNode.color_setColor_black (n : AssocNode K V) :
    (n.setColor .black).color = .black := by
  cases n <;> rfl

theorem redBlack_fill_red {f : AssocFrame K V} {n : AssocNode K V} {h : ℕ} (hf : f.color = .red) :
    RedBlack (f.fill n) h ↔ RedBlack n h ∧ n.color = .black ∧
      RedBlack f.sibling h ∧ f.sibling.color = .black := by
  cases f with
  | fromLeft c k x r =>
    cases hf
    exact ⟨fun | .red hn hr hnc hrc => ⟨hn, hnc, hr, hrc⟩,
      fun ⟨hn, hnc, hr, hrc⟩ => .red hn hr hnc hrc⟩
  | fromRight l c k x =>
    cases hf
    exact ⟨fun | .red hl hn hlc hnc => ⟨hn, hnc, hl, hlc⟩,
      fun ⟨hn, hnc, hl, hlc⟩ => .red hl hn hlc hnc⟩

theorem redBlack_fill_black {f : AssocFrame K V} {n : AssocNode K V} {h : ℕ}
    (hf : f.color = .black) :
    RedBlack (f.fill n) h ↔ ∃ m, h = m + 1 ∧ RedBlack n m ∧ RedBlack f.sibling m := by
  cases f with
  | fromLeft c k x r =>
    cases hf
    exact ⟨fun | .black hn hr => ⟨_, rfl, hn, hr⟩, fun ⟨_, hh, hn, hr⟩ => hh ▸ .black hn hr⟩
  | fromRight l c k x =>
    cases hf
    exact ⟨fun | .black hl hn => ⟨_, rfl, hn, hl⟩, fun ⟨_, hh, hn, hl⟩ => hh ▸ .black hl hn⟩

/-- A subtree fits into what surrounds it. -/
structure Located (n : AssocNode K V) (p : AssocPath K V) (h : ℕ) : Prop where
  node : RedBlack n h
  path : p.RedBlack h
  /-- a red node has a black parent, and is not the root -/
  red : n.color = .red → p ≠ [] ∧ p.color = .black

theorem Located.up {n : AssocNode K V} {f : AssocFrame K V} {p : AssocPath K V} {h : ℕ}
    (hn : Located n (f :: p) h) : ∃ m, Located (f.fill n) p m := by
  cases hn.path with
  | red hf hs hsc hne hpc hp =>
    have hnc : n.color = .black := by
      cases hc : n.color with
      | black => rfl
      | red => exact absurd ((hn.red hc).2.symm.trans hf) (by decide)
    exact ⟨h, (redBlack_fill_red hf).2 ⟨hn.node, hnc, hs, hsc⟩, hp, fun _ => ⟨hne, hpc⟩⟩
  | black hf hs hp =>
    refine ⟨h + 1, (redBlack_fill_black hf).2 ⟨h, rfl, hn.node, hs⟩, hp, fun hc => ?_⟩
    rw [AssocFrame.color_fill, hf] at hc
    cases hc

theorem Located.down {n : AssocNode K V} {f : AssocFrame K V} {p : AssocPath K V} {h : ℕ}
    (hn : Located (f.fill n) p h) : ∃ m, Located n (f :: p) m := by
  cases hf : f.color with
  | red =>
    obtain ⟨hnode, hnc, hs, hsc⟩ := (redBlack_fill_red hf).1 hn.node
    obtain ⟨hne, hpc⟩ := hn.red (by rw [AssocFrame.color_fill, hf])
    refine ⟨h, hnode, .red hf hs hsc hne hpc hn.path, fun hc => ?_⟩
    rw [hnc] at hc
    cases hc
  | black =>
    obtain ⟨m, rfl, hnode, hs⟩ := (redBlack_fill_black hf).1 hn.node
    exact ⟨m, hnode, .black hf hs hn.path, fun _ => ⟨List.cons_ne_nil _ _, hf⟩⟩

/-- The subtrees of a red-black tree fit into what surrounds them, and what fits makes one. -/
theorem isRedBlack_plug {n : AssocNode K V} {p : AssocPath K V} :
    (AssocPath.plug n p).IsRedBlack ↔ ∃ h, Located n p h := by
  induction p generalizing n with
  | nil =>
    constructor
    · rintro ⟨hc, h, hn⟩
      refine ⟨h, hn, .nil, fun hred => ?_⟩
      rw [AssocPath.plug] at hc
      rw [hc] at hred
      cases hred
    · rintro ⟨h, hn⟩
      refine ⟨?_, h, hn.node⟩
      cases hc : n.color with
      | black => exact hc
      | red => exact absurd rfl (hn.red hc).1
  | cons f p ih =>
    rw [AssocPath.plug, ih]
    constructor
    · rintro ⟨_, hn⟩
      exact hn.down
    · rintro ⟨_, hn⟩
      exact hn.up

theorem RedBlack.setColor_black {n : AssocNode K V} {h : ℕ} (hn : RedBlack n h) :
    ∃ m, RedBlack (n.setColor .black) m := by
  cases hn with
  | dummy => exact ⟨0, .dummy⟩
  | red hl hr _ _ => exact ⟨_, .black hl hr⟩
  | black hl hr => exact ⟨_, .black hl hr⟩

/-- The black color of the root makes up for a red root. -/
theorem isRedBlack_setColor_plug {n : AssocNode K V} {p : AssocPath K V} {h : ℕ}
    (hn : RedBlack n h) (hp : p.RedBlack h) (hc : n.color = .red → p.color = .black) :
    ((AssocPath.plug n p).setColor .black).IsRedBlack := by
  refine ⟨AssocNode.color_setColor_black _, ?_⟩
  cases p with
  | nil => exact hn.setColor_black
  | cons f p =>
    have hplug := isRedBlack_plug.2 ⟨h, hn, hp, fun hred => ⟨List.cons_ne_nil f p, hc hred⟩⟩
    exact hplug.redBlack.choose_spec.setColor_black

/-! ## Insertion -/

/-- Above a red parent there is a black grand parent. -/
theorem AssocPath.RedBlack.of_red {f g : AssocFrame K V} {p : AssocPath K V} {h : ℕ}
    (hp : AssocPath.RedBlack (f :: g :: p) h) (hf : f.color = .red) :
    FlexRic.RedBlack f.sibling h ∧ f.sibling.color = .black ∧ g.color = .black ∧
      FlexRic.RedBlack g.sibling h ∧ p.RedBlack (h + 1) := by
  cases hp with
  | black hf' => exact absurd (hf.symm.trans hf') (by decide)
  | red _ hs hsc _ hg hp =>
    cases hp with
    | red hg' => exact absurd (hg.symm.trans hg') (by decide)
    | black _ hs' hp => exact ⟨hs, hsc, hg, hs', hp⟩

theorem AssocNode.color_of_ne_red {n : AssocNode K V} (h : n.color ≠ .red) : n.color = .black := by
  cases hc : n.color with
  | black => rfl
  | red => exact absurd hc h

theorem AssocNode.color_of_ne_black {n : AssocNode K V} (h : n.color ≠ .black) :
    n.color = .red := by
  cases hc : n.color with
  | black => exact absurd hc h
  | red => rfl

theorem AssocFrame.color_of_ne_red {f : AssocFrame K V} (h : f.color ≠ .red) :
    f.color = .black := by
  cases hc : f.color with
  | black => rfl
  | red => exact absurd hc h

theorem RedBlack.red_setColor {n : AssocNode K V} {h : ℕ} (hn : RedBlack n h)
    (hc : n.color = .red) : RedBlack (n.setColor .black) (h + 1) := by
  cases hn with
  | dummy => cases hc
  | red hl hr _ _ => exact .black hl hr
  | black _ _ => cases hc

/-- `insert_fixup` repairs a red node below a red one. -/
theorem isRedBlack_insertFixup (z : AssocNode K V) (p : AssocPath K V) :
    ∀ h, RedBlack z h → z.color = .red → p.RedBlack h → (insertFixup z p).IsRedBlack := by
  fun_induction insertFixup z p with
  | case1 z => exact fun h hz _ hp => isRedBlack_setColor_plug hz hp fun _ => rfl
  | case2 z p =>
    intro h hz _ hp
    cases hp with
    | red _ _ _ hne => exact absurd rfl hne
    | black hf hs hp => exact isRedBlack_setColor_plug hz (.black hf hs hp) fun _ => hf
  | case3 z p c k x uncle rest hpc hu ih =>
    -- case 1: the grand parent turns red and is the new problem
    intro h hz _ hp
    obtain ⟨hs, -, -, hun, hrest⟩ := hp.of_red hpc
    have hparent : RedBlack ((p.fill z).setColor .black) (h + 1) := by
      cases p with
      | fromLeft => exact .black hz hs
      | fromRight => exact .black hs hz
    exact ih _ (.red hparent (hun.red_setColor hu) (by simp) (by simp)) rfl hrest
  | case4 z p c k x uncle rest hpc hu parent grandParent =>
    -- cases 2 and 3: the parent or the node takes the place of the grand parent
    intro h hz hzc hp
    obtain ⟨hs, hsc, -, hun, hrest⟩ := hp.of_red hpc
    have huc := AssocNode.color_of_ne_red hu
    have htop : RedBlack grandParent.rightRotate (h + 1) ∧
        grandParent.rightRotate.color = .black := by
      cases p with
      | fromLeft pc pk px pr => exact ⟨.black hz (.red hs hun hsc huc), rfl⟩
      | fromRight pl pc pk px =>
        cases hpc
        cases hz with
        | dummy => cases hzc
        | red hl hr hlc hrc =>
          exact ⟨.black (.red hs hl hsc hlc) (.red hr hun hrc huc), rfl⟩
        | black _ _ => cases hzc
    refine isRedBlack_setColor_plug htop.1 hrest fun hred => ?_
    rw [htop.2] at hred
    cases hred
  | case5 z p c k x uncle rest hpc =>
    exact fun h hz _ hp =>
      isRedBlack_setColor_plug hz hp fun _ => AssocFrame.color_of_ne_red hpc
  | case6 z p uncle c k x rest hpc hu ih =>
    intro h hz _ hp
    obtain ⟨hs, -, -, hun, hrest⟩ := hp.of_red hpc
    have hparent : RedBlack ((p.fill z).setColor .black) (h + 1) := by
      cases p with
      | fromLeft => exact .black hz hs
      | fromRight => exact .black hs hz
    exact ih _ (.red (hun.red_setColor hu) hparent (by simp) (by simp)) rfl hrest
  | case7 z p uncle c k x rest hpc hu parent grandParent =>
    intro h hz hzc hp
    obtain ⟨hs, hsc, -, hun, hrest⟩ := hp.of_red hpc
    have huc := AssocNode.color_of_ne_red hu
    have htop : RedBlack grandParent.leftRotate (h + 1) ∧
        grandParent.leftRotate.color = .black := by
      cases p with
      | fromLeft pc pk px pr =>
        cases hpc
        cases hz with
        | dummy => cases hzc
        | red hl hr hlc hrc =>
          exact ⟨.black (.red hun hl huc hlc) (.red hr hs hrc hsc), rfl⟩
        | black _ _ => cases hzc
      | fromRight pl pc pk px => exact ⟨.black (.red hun hs huc hsc) hz, rfl⟩
    refine isRedBlack_setColor_plug htop.1 hrest fun hred => ?_
    rw [htop.2] at hred
    cases hred
  | case8 z p uncle c k x rest hpc =>
    exact fun h hz _ hp =>
      isRedBlack_setColor_plug hz hp fun _ => AssocFrame.color_of_ne_red hpc

/-! ## Extraction -/

/-- The subtree lacks one black node, or is red and can make up for it. -/
structure Lacks (n : AssocNode K V) (h : ℕ) : Prop where
  black : n.color = .black → RedBlack n h
  red : n.color = .red → RedBlack (n.setColor .black) (h + 1)

theorem RedBlack.lacks {n : AssocNode K V} {h : ℕ} (hn : RedBlack n h) : Lacks n h :=
  ⟨fun _ => hn, fun hc => hn.red_setColor hc⟩

/-- What cases 2 to 4 make of a subtree whose root had the color `c`. -/
structure Repaired (c : AssocColor) (h : ℕ) (t : AssocNode K V × Bool) : Prop where
  color : t.1.color = c
  /-- the loop goes on with the missing black node -/
  again : t.2 = true → Lacks t.1 (h + c.blacks)
  /-- the loop ends -/
  complete : t.2 = false → RedBlack t.1 (h + c.blacks + 1)

theorem repaired_deleteFixupLeft (c : AssocColor) {n : AssocNode K V} (k : K) (x : V)
    {w : AssocNode K V} {h : ℕ} (hn : RedBlack n h) (hw : RedBlack w (h + 1))
    (hwc : w.color = .black) : Repaired c h (deleteFixupLeft c n k x w) := by
  cases hw with
  | red => cases hwc
  | @black wl wk wx wr _ hwl hwr =>
    rw [deleteFixupLeft]
    split
    · next hblack =>
      -- case 2
      have hred : RedBlack (.node .red wl wk wx wr) h := .red hwl hwr hblack.1 hblack.2
      refine ⟨rfl, fun _ => ?_, fun hend => (by cases hend)⟩
      cases c with
      | black => exact (RedBlack.black hn hred).lacks
      | red => exact ⟨fun hc => (by cases hc), fun _ => .black hn hred⟩
    · next hnot =>
      have close : ∀ {a b : AssocNode K V} {k' : K} {x' : V}, RedBlack a h → RedBlack b (h + 1) →
          b.color = .black → Repaired c h (.node c (.node .black n k x a) k' x' b, false) := by
        intro a b k' x' ha hb hbc
        refine ⟨rfl, fun hagain => (by cases hagain), fun _ => ?_⟩
        cases c with
        | black => exact .black (.black hn ha) hb
        | red => exact .red (.black hn ha) hb rfl hbc
      by_cases hwrc : wr.color = .black
      · -- case 3 and then case 4
        have hwlc := AssocNode.color_of_ne_black fun hwlc => hnot ⟨hwlc, hwrc⟩
        cases hwl with
        | dummy => cases hwlc
        | red hll hlr _ hlrc =>
          rw [if_pos hwrc]
          exact close hll (.black hlr hwr) rfl
        | black _ _ => cases hwlc
      · -- case 4
        rw [if_neg hwrc]
        exact close hwl (hwr.red_setColor (AssocNode.color_of_ne_black hwrc))
          (AssocNode.color_setColor_black wr)

theorem repaired_deleteFixupRight {w : AssocNode K V} (c : AssocColor) (k : K) (x : V)
    {n : AssocNode K V} {h : ℕ} (hn : RedBlack n h) (hw : RedBlack w (h + 1))
    (hwc : w.color = .black) : Repaired c h (deleteFixupRight w c k x n) := by
  cases hw with
  | red => cases hwc
  | @black wl wk wx wr _ hwl hwr =>
    rw [deleteFixupRight]
    split
    · next hblack =>
      have hred : RedBlack (.node .red wl wk wx wr) h := .red hwl hwr hblack.1 hblack.2
      refine ⟨rfl, fun _ => ?_, fun hend => (by cases hend)⟩
      cases c with
      | black => exact (RedBlack.black hred hn).lacks
      | red => exact ⟨fun hc => (by cases hc), fun _ => .black hred hn⟩
    · next hnot =>
      have close : ∀ {a b : AssocNode K V} {k' : K} {x' : V}, RedBlack b (h + 1) → RedBlack a h →
          b.color = .black → Repaired c h (.node c b k' x' (.node .black a k x n), false) := by
        intro a b k' x' hb ha hbc
        refine ⟨rfl, fun hagain => (by cases hagain), fun _ => ?_⟩
        cases c with
        | black => exact .black hb (.black ha hn)
        | red => exact .red hb (.black ha hn) hbc rfl
      by_cases hwlc : wl.color = .black
      · have hwrc := AssocNode.color_of_ne_black fun hwrc => hnot ⟨hwlc, hwrc⟩
        cases hwr with
        | dummy => cases hwrc
        | red hrl hrr hrlc _ =>
          rw [if_pos hwlc]
          exact close (.black hwl hrl) hrr rfl
        | black _ _ => cases hwrc
      · rw [if_neg hwlc]
        exact close (hwl.red_setColor (AssocNode.color_of_ne_black hwlc)) hwr
          (AssocNode.color_setColor_black wl)

/-- What the fix-up needs to know above a parent. -/
theorem AssocPath.RedBlack.tail {f : AssocFrame K V} {p : AssocPath K V} {h : ℕ}
    (hp : AssocPath.RedBlack (f :: p) h) :
    FlexRic.RedBlack f.sibling h ∧ p.RedBlack (h + f.color.blacks) ∧
      (f.color = .red → f.sibling.color = .black ∧ p.color = .black) := by
  cases hp with
  | red hf hs hsc _ hpc hp =>
    rw [hf]
    exact ⟨hs, hp, fun _ => ⟨hsc, hpc⟩⟩
  | black hf hs hp =>
    rw [hf]
    exact ⟨hs, hp, fun hred => nomatch hred⟩

/-- The red color makes up for the missing black node. -/
theorem isRedBlack_plug_setColor {n : AssocNode K V} {p : AssocPath K V} {h : ℕ}
    (hn : RedBlack (n.setColor .black) h) (hp : p.RedBlack h) :
    (AssocPath.plug (n.setColor .black) p).IsRedBlack := by
  refine isRedBlack_plug.2 ⟨h, hn, hp, fun hred => ?_⟩
  rw [AssocNode.color_setColor_black] at hred
  cases hred

/-- A red sibling has black children and a black parent. -/
theorem AssocPath.RedBlack.red_sibling {f : AssocFrame K V} {p : AssocPath K V} {h : ℕ}
    {wl : AssocNode K V} {wk : K} {wx : V} {wr : AssocNode K V}
    (hp : AssocPath.RedBlack (f :: p) h) (hf : f.sibling = .node .red wl wk wx wr) :
    FlexRic.RedBlack wl h ∧ FlexRic.RedBlack wr h ∧ wl.color = .black ∧ wr.color = .black ∧
      p.RedBlack (h + 1) := by
  obtain ⟨hs, hrest, hred⟩ := hp.tail
  rw [hf] at hs hred
  have hfc := AssocFrame.color_of_ne_red fun hc => nomatch (hred hc).1
  rw [hfc] at hrest
  cases hs with
  | red hl hr hlc hrc => exact ⟨hl, hr, hlc, hrc, hrest⟩

theorem AssocNode.color_of_not_red {n : AssocNode K V}
    (h : ∀ l k x r, n = .node .red l k x r → False) : n.color = .black := by
  cases n with
  | dummy => rfl
  | node c l k x r =>
    cases c with
    | black => rfl
    | red => exact (h l k x r rfl).elim

/-- `delete_fixup` gives back the missing black node. -/
theorem isRedBlack_deleteFixup (n : AssocNode K V) (p : AssocPath K V) :
    ∀ h, Lacks n h → p.RedBlack (h + 1) → (deleteFixup n p).IsRedBlack := by
  fun_induction deleteFixup n p with
  | case1 n =>
    intro h hn _
    refine ⟨AssocNode.color_setColor_black n, ?_⟩
    cases hc : n.color with
    | black => exact (hn.black hc).setColor_black
    | red => exact ⟨_, hn.red hc⟩
  | case2 n c k x w rest hnc => exact fun h hn hp => isRedBlack_plug_setColor (hn.red hnc) hp
  | case3 n c k x rest hnc wl wk wx wr up t ht =>
    -- case 1 and then case 2: the parent is red and turns black
    intro h hn hp
    obtain ⟨hwl, hwr, hwlc, -, hrest⟩ := hp.red_sibling rfl
    have hrep := repaired_deleteFixupLeft .red k x (hn.black (AssocNode.color_of_ne_red hnc))
      hwl hwlc
    rw [ht] at hrep
    exact isRedBlack_plug_setColor ((hrep.again rfl).red hrep.color) (.black rfl hwr hrest)
  | case4 n c k x rest hnc wl wk wx wr up t ht =>
    intro h hn hp
    obtain ⟨hwl, hwr, hwlc, -, hrest⟩ := hp.red_sibling rfl
    have hrep := repaired_deleteFixupLeft .red k x (hn.black (AssocNode.color_of_ne_red hnc))
      hwl hwlc
    rw [ht] at hrep
    exact isRedBlack_setColor_plug (hrep.complete rfl) (.black rfl hwr hrest) fun _ => rfl
  | case5 n c k x rest hnc w hw t ht ih =>
    intro h hn hp
    obtain ⟨hs, hrest, -⟩ := hp.tail
    have hrep := repaired_deleteFixupLeft c k x (hn.black (AssocNode.color_of_ne_red hnc)) hs
      (AssocNode.color_of_not_red hw)
    rw [AssocFrame.sibling, ht] at hrep
    rw [Nat.add_right_comm] at hrest
    exact ih _ (hrep.again rfl) hrest
  | case6 n c k x rest hnc w hw t ht =>
    intro h hn hp
    obtain ⟨hs, hrest, hred⟩ := hp.tail
    have hrep := repaired_deleteFixupLeft c k x (hn.black (AssocNode.color_of_ne_red hnc)) hs
      (AssocNode.color_of_not_red hw)
    rw [AssocFrame.sibling, ht] at hrep
    rw [Nat.add_right_comm] at hrest
    exact isRedBlack_setColor_plug (hrep.complete rfl) hrest fun hc =>
      (hred (hrep.color.symm.trans hc)).2
  | case7 n w c k x rest hnc => exact fun h hn hp => isRedBlack_plug_setColor (hn.red hnc) hp
  | case8 n c k x rest hnc wl wk wx wr up t ht =>
    intro h hn hp
    obtain ⟨hwl, hwr, -, hwrc, hrest⟩ := hp.red_sibling rfl
    have hrep := repaired_deleteFixupRight .red k x (hn.black (AssocNode.color_of_ne_red hnc))
      hwr hwrc
    rw [ht] at hrep
    exact isRedBlack_plug_setColor ((hrep.again rfl).red hrep.color) (.black rfl hwl hrest)
  | case9 n c k x rest hnc wl wk wx wr up t ht =>
    intro h hn hp
    obtain ⟨hwl, hwr, -, hwrc, hrest⟩ := hp.red_sibling rfl
    have hrep := repaired_deleteFixupRight .red k x (hn.black (AssocNode.color_of_ne_red hnc))
      hwr hwrc
    rw [ht] at hrep
    exact isRedBlack_setColor_plug (hrep.complete rfl) (.black rfl hwl hrest) fun _ => rfl
  | case10 n c k x rest hnc w hw t ht ih =>
    intro h hn hp
    obtain ⟨hs, hrest, -⟩ := hp.tail
    have hrep := repaired_deleteFixupRight c k x (hn.black (AssocNode.color_of_ne_red hnc)) hs
      (AssocNode.color_of_not_red hw)
    rw [AssocFrame.sibling, ht] at hrep
    rw [Nat.add_right_comm] at hrest
    exact ih _ (hrep.again rfl) hrest
  | case11 n c k x rest hnc w hw t ht =>
    intro h hn hp
    obtain ⟨hs, hrest, hred⟩ := hp.tail
    have hrep := repaired_deleteFixupRight c k x (hn.black (AssocNode.color_of_ne_red hnc)) hs
      (AssocNode.color_of_not_red hw)
    rw [AssocFrame.sibling, ht] at hrep
    rw [Nat.add_right_comm] at hrest
    exact isRedBlack_setColor_plug (hrep.complete rfl) hrest fun hc =>
      (hred (hrep.color.symm.trans hc)).2

/-! ## Descents

A descent moves the position inside the tree and leaves the tree as it is. -/

theorem plug_insertPath (cmp : K → K → Ordering) (key : K) (n : AssocNode K V)
    (p : AssocPath K V) :
    AssocPath.plug .dummy (insertPath cmp key n p) = AssocPath.plug n p := by
  fun_induction insertPath cmp key n p with
  | case1 p => rfl
  | case2 c l k x r p _ ih => exact ih
  | case3 c l k x r p _ ih => exact ih

theorem plug_findRbTree {cmp : K → K → Ordering} {key : K} {n m : AssocNode K V}
    {p q : AssocPath K V} (h : findRbTree cmp key n p = some (m, q)) :
    AssocPath.plug m q = AssocPath.plug n p := by
  fun_induction findRbTree cmp key n p with
  | case1 => cases h
  | case2 c l k x r p _ ih => exact ih h
  | case3 c l k x r p _ ih => exact ih h
  | case4 c l k x r p _ =>
    cases h
    rfl

theorem plug_minimumPath (c : AssocColor) (l : AssocNode K V) (k : K) (x : V)
    (r : AssocNode K V) (p : AssocPath K V) :
    let y := minimumPath c l k x r p
    AssocPath.plug (.node y.1.1 .dummy y.1.2.1 y.1.2.2.1 y.1.2.2.2) y.2 =
      AssocPath.plug (.node c l k x r) p := by
  fun_induction minimumPath c l k x r p with
  | case1 c k x r p => rfl
  | case2 c k x r p c' l' k' x' r' ih => exact ih

/-- The way down does not depend on what is above. -/
theorem minimumPath_append (c : AssocColor) (l : AssocNode K V) (k : K) (x : V)
    (r : AssocNode K V) (p q : AssocPath K V) :
    minimumPath c l k x r (p ++ q) =
      ((minimumPath c l k x r p).1, (minimumPath c l k x r p).2 ++ q) := by
  fun_induction minimumPath c l k x r p with
  | case1 c k x r p => rfl
  | case2 c k x r p c' l' k' x' r' ih => exact ih

/-! ## The container -/

/-- The red-black properties do not depend on the entry of the node. -/
theorem Located.entry {c : AssocColor} {l : AssocNode K V} {k : K} {x : V} {r : AssocNode K V}
    {p : AssocPath K V} {h : ℕ} (hn : Located (.node c l k x r) p h) (k' : K) (x' : V) :
    Located (.node c l k' x' r) p h := by
  refine ⟨?_, hn.path, hn.red⟩
  cases hn.node with
  | red hl hr hlc hrc => exact .red hl hr hlc hrc
  | black hl hr => exact .black hl hr

/-- Where the extraction of a node takes place: the node that leaves its place, without the child
that remains, this child, and the path above it. The successor leaves its place for the entry of
the node. -/
def unlinkNode (c : AssocColor) (l : AssocNode K V) (k : K) (x : V) (r : AssocNode K V)
    (path : AssocPath K V) : AssocFrame K V × AssocNode K V × AssocPath K V :=
  match l, r with
  | .dummy, r => (.fromRight .dummy c k x, r, path)
  | l, .dummy => (.fromLeft c k x .dummy, l, path)
  | l, .node rc rl rk rx rr =>
    let (y, inner) := minimumPath rc rl rk rx rr []
    (.fromRight .dummy y.1 y.2.1 y.2.2.1, y.2.2.2, inner ++ .fromRight l c y.2.1 y.2.2.1 :: path)

theorem extractNode_eq (c : AssocColor) (l : AssocNode K V) (k : K) (x : V) (r : AssocNode K V)
    (path : AssocPath K V) :
    extractNode c l r path =
      let y := unlinkNode c l k x r path
      if y.1.color = .black then deleteFixup y.2.1 y.2.2 else AssocPath.plug y.2.1 y.2.2 := by
  cases l with
  | dummy => rfl
  | node => cases r <;> rfl

/-- Before the node leaves its place the tree is balanced. -/
theorem isRedBlack_unlinkNode {c : AssocColor} {l : AssocNode K V} {k : K} {x : V}
    {r : AssocNode K V} {p : AssocPath K V}
    (h : (AssocPath.plug (.node c l k x r) p).IsRedBlack) :
    let y := unlinkNode c l k x r p
    (AssocPath.plug (y.1.fill y.2.1) y.2.2).IsRedBlack := by
  unfold unlinkNode
  split
  · exact h
  · exact h
  · next l' rc rl rk rx rr _ =>
    have hpath := minimumPath_append rc rl rk rx rr []
    have hplug := plug_minimumPath rc rl rk rx rr
    generalize minimumPath rc rl rk rx rr ([] : AssocPath K V) = y at hpath hplug ⊢
    obtain ⟨⟨yc, yk, yx, yr⟩, inner⟩ := y
    obtain ⟨m, hm⟩ := isRedBlack_plug.1 h
    have hwhole := isRedBlack_plug.2 ⟨m, hm.entry yk yx⟩
    have hdown := hplug (.fromRight l c yk yx :: p)
    rw [← List.nil_append (_ :: p), hpath] at hdown
    dsimp only at hdown ⊢
    exact hdown ▸ hwhole

/-- What remains of a black node lacks one black node, and what remains of a red one is complete. -/
theorem lacks_of_isRedBlack {f : AssocFrame K V} {n : AssocNode K V} {p : AssocPath K V}
    (h : (AssocPath.plug (f.fill n) p).IsRedBlack) :
    (f.color = .black → ∃ j, Lacks n j ∧ p.RedBlack (j + 1)) ∧
      (f.color ≠ .black → (AssocPath.plug n p).IsRedBlack) := by
  obtain ⟨m, hm⟩ := isRedBlack_plug.1 h
  constructor
  · intro hfc
    obtain ⟨j, rfl, hn, -⟩ := (redBlack_fill_black hfc).1 hm.node
    exact ⟨j, hn.lacks, hm.path⟩
  · intro hfc
    have hred : f.color = .red := by
      cases hc : f.color with
      | black => exact absurd hc hfc
      | red => rfl
    obtain ⟨hn, hnc, -, -⟩ := (redBlack_fill_red hred).1 hm.node
    refine isRedBlack_plug.2 ⟨m, hn, hm.path, fun hc => ?_⟩
    rw [hnc] at hc
    cases hc

/-- Taking a node out keeps the tree balanced. -/
theorem isRedBlack_extractNode {c : AssocColor} {l : AssocNode K V} {k : K} {x : V}
    {r : AssocNode K V} {p : AssocPath K V}
    (h : (AssocPath.plug (.node c l k x r) p).IsRedBlack) : (extractNode c l r p).IsRedBlack := by
  obtain ⟨hblack, hred⟩ := lacks_of_isRedBlack (isRedBlack_unlinkNode h)
  rw [extractNode_eq c l k x r p]
  dsimp only
  split
  · next hc =>
    obtain ⟨j, hn, hp⟩ := hblack hc
    exact isRedBlack_deleteFixup _ _ j hn hp
  · next hc => exact hred hc

namespace AssocRbTree

theorem isRedBlack_init : (init : AssocRbTree K V).root.IsRedBlack := ⟨rfl, 0, .dummy⟩

/-- The insertion keeps the tree balanced. -/
theorem isRedBlack_insert {t : AssocRbTree K V} (h : t.root.IsRedBlack) (cmp : K → K → Ordering)
    (key : K) (value : V) : (t.insert cmp key value).root.IsRedBlack := by
  rw [← AssocPath.plug.eq_1 t.root, ← plug_insertPath cmp key] at h
  obtain ⟨m, hm⟩ := isRedBlack_plug.1 h
  cases hm.node with
  | dummy => exact isRedBlack_insertFixup _ _ 0 (.red .dummy .dummy rfl rfl) rfl hm.path

/-- The extraction keeps the tree balanced. -/
theorem isRedBlack_extract {t t' : AssocRbTree K V} {cmp : K → K → Ordering} {key : K} {value : V}
    (h : t.root.IsRedBlack) (ht : t.extract cmp key = some (value, t')) : t'.root.IsRedBlack := by
  unfold extract at ht
  split at ht
  · next c l k x r p hfind =>
    split at ht
    · cases ht
    · cases ht
      refine isRedBlack_extractNode (k := k) (x := value) ?_
      rw [plug_findRbTree hfind]
      exact h
  · cases ht

end AssocRbTree

end FlexRic
