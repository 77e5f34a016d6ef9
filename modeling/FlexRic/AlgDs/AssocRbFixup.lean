import FlexRic.AlgDs.AssocRbLinks

/-!
# The fix-ups on the nodes in memory

`insert_fixup` and `delete_fixup` do to the tree that the nodes form what the functions of these
names do to the tree alone, and no access and no assertion fails. For this the tree has to be
balanced: it is what makes the grand parents and the siblings exist that they go to.
-/

namespace FlexRic

variable {K V : Type}

/-! ## The fix-up of the insertion -/

section InsertFixup

variable {side : AssocSide} {c : AssocColor} {k k' : K} {x x' : ℕ × V}
  {z a b uncle : AssocNode K (ℕ × V)} {rest : AssocPath K (ℕ × V)}

theorem insertFixup_uncle_red {f : AssocFrame K (ℕ × V)} (hf : f.color = .red)
    (hu : uncle.color = .red) :
    insertFixup z (f :: .hang side c k x uncle :: rest) =
      insertFixup (.hang side .red ((f.fill z).setColor .black) k x (uncle.setColor .black))
        rest := by
  cases side with
  | left => simp only [AssocFrame.hang, AssocNode.hang, insertFixup, if_pos hf, if_pos hu]
  | right => simp only [AssocFrame.hang, AssocNode.hang, insertFixup, if_pos hf, if_pos hu]

theorem insertFixup_outer (hu : uncle.color ≠ .red) :
    insertFixup z (.hang side .red k' x' b :: .hang side c k x uncle :: rest) =
      (AssocPath.plug (.hang side .black z k' x' (.hang side .red b k x uncle)) rest).setColor
        .black := by
  cases side with
  | left => simp only [AssocFrame.hang, insertFixup, AssocFrame.color, if_true, if_neg hu]; rfl
  | right => simp only [AssocFrame.hang, insertFixup, AssocFrame.color, if_true, if_neg hu]; rfl

theorem insertFixup_inner {cz : AssocColor} {kz : K} {xz : ℕ × V} (hu : uncle.color ≠ .red) :
    insertFixup (.hang side cz a kz xz b)
        (.hang side.other .red k' x' z :: .hang side c k x uncle :: rest) =
      (AssocPath.plug (.hang side .black (.hang side .red z k' x' a) kz xz
        (.hang side .red b k x uncle)) rest).setColor .black := by
  cases side with
  | left =>
    simp only [AssocFrame.hang, AssocSide.other, insertFixup, AssocFrame.color, if_true,
      if_neg hu]
    rfl
  | right =>
    simp only [AssocFrame.hang, AssocSide.other, insertFixup, AssocFrame.color, if_true,
      if_neg hu]
    rfl

theorem insertFixup_black {p : AssocPath K (ℕ × V)} (hp : AssocPath.color p = .black) :
    insertFixup z p = (AssocPath.plug z p).setColor .black := by
  have hne : AssocColor.black ≠ .red := by decide
  cases p with
  | nil => rfl
  | cons f p =>
    have hf : f.color ≠ .red := by
      rw [show f.color = .black from hp]
      exact hne
    cases p with
    | nil => rfl
    | cons g p =>
      cases g with
      | fromLeft => simp only [insertFixup, if_neg hf]
      | fromRight => simp only [insertFixup, if_neg hf]

end InsertFixup

namespace AssocRbTreeT

variable {t : AssocRbTreeT K V} {d sz s : ℕ} {r : AssocCells K V}

/-- The position moves to the other child. -/
theorem at_other {side : AssocSide} {c : AssocColor} {a b : AssocNode K (ℕ × V)} {k : K}
    {x : ℕ × V} {p : AssocPath K (ℕ × V)} :
    t.At d sz s (.hang side c a k x b) p r ↔ t.At d sz s b (.hang side.other c k x a :: p) r := by
  rw [← at_fill, AssocFrame.fill_hang, AssocNode.hang_other]

/-- The position moves to the child. -/
theorem at_hang {side : AssocSide} {c : AssocColor} {a b : AssocNode K (ℕ × V)} {k : K}
    {x : ℕ × V} {p : AssocPath K (ℕ × V)} :
    t.At d sz s (.hang side c a k x b) p r ↔ t.At d sz s a (.hang side c k x b :: p) r := by
  rw [← at_fill, AssocFrame.fill_hang]

/-- The loop of `insert_fixup` ends below a black parent. -/
theorem At.insertFixup_end {z : AssocNode K (ℕ × V)} {p : AssocPath K (ℕ × V)}
    (h : t.At d sz s z p r) (hz : z ≠ .dummy) (hp : AssocPath.color p = .black) (fuel : ℕ) :
    ∃ t', insertFixup (fuel + 1) t (z.addr d) = some t' ∧
      t'.At d sz s ((AssocPath.plug z p).setColor .black) [] r := by
  have hplug := at_plug.2 h
  obtain ⟨t', ht', h'⟩ := hplug.setColor_black
  refine ⟨t', ?_, h'⟩
  have hroot : t.root = (AssocPath.plug z p).addr d := hplug.root
  obtain ⟨c, a, k, x, b, rfl⟩ := AssocNode.exists_hang .left hz
  simp only [insertFixup, AssocNode.addr_hang, h.parent, h.color_top, hp, reduceCtorEq, if_false,
    Option.bind_eq_bind, Option.bind_some, hroot, ht']

/-- Case 1 of `insert_fixup`. -/
theorem At.insertFixupSide_red {side : AssocSide} {c : AssocColor} {k : K} {x : ℕ × V}
    {n uncle : AssocNode K (ℕ × V)} {rest : AssocPath K (ℕ × V)}
    (h : t.At d sz s (.hang side c n k x uncle) rest r) (hu : uncle.color = .red) (z : ℕ) :
    ∃ t', insertFixupSide t side z (n.addr d) x.1 = some (t', x.1) ∧
      t'.At d sz s (.hang side .red (n.setColor .black) k x (uncle.setColor .black)) rest r := by
  obtain ⟨t₁, ht₁, h₁⟩ := (at_hang.1 h).setColor_black
  obtain ⟨t₂, ht₂, h₂⟩ := (at_other.1 (at_hang.2 h₁)).setColor_black
  obtain ⟨t₃, ht₃, h₃⟩ := (at_other.2 h₂).setColor .red
  refine ⟨t₃, ?_, h₃⟩
  simp only [insertFixupSide, h.child_other, (at_other.1 h).color, hu, if_true, ht₁, ht₂, ht₃,
    Option.bind_eq_bind, Option.bind_some, Option.pure_def]

/-- Case 3 of `insert_fixup`. -/
theorem At.insertFixup_case3 {side : AssocSide} {c c' : AssocColor} {k k' : K} {x x' : ℕ × V}
    {a b uncle : AssocNode K (ℕ × V)} {rest : AssocPath K (ℕ × V)}
    (h : t.At d sz s (.hang side c (.hang side c' a k' x' b) k x uncle) rest r) :
    ∃ t₁ t₂ t₃, t.setColor x'.1 .black = some t₁ ∧ t₁.setColor x.1 .red = some t₂ ∧
      t₂.rotate side.other x.1 = some t₃ ∧
      t₃.At d sz s (.hang side .black a k' x' (.hang side .red b k x uncle)) rest r := by
  obtain ⟨t₁, ht₁, h₁⟩ := (at_hang.1 h).setColor .black
  obtain ⟨t₂, ht₂, h₂⟩ := (at_hang.2 h₁).setColor .red
  -- the parent hangs on the side opposite to the direction of the rotation
  rw [← AssocNode.hang_other, ← AssocNode.hang_other side] at h₂
  obtain ⟨t₃, ht₃, h₃⟩ := h₂.rotate
  rw [AssocNode.hang_other, AssocNode.hang_other] at h₃
  exact ⟨t₁, t₂, t₃, ht₁, ht₂, ht₃, h₃⟩

theorem At.insertFixupSide_outer {side : AssocSide} {c c' : AssocColor} {k k' : K} {x x' : ℕ × V}
    {z b uncle : AssocNode K (ℕ × V)} {rest : AssocPath K (ℕ × V)}
    (h : t.At d sz s (.hang side c (.hang side c' z k' x' b) k x uncle) rest r)
    (hz : z ≠ .dummy) (hu : uncle.color ≠ .red) :
    ∃ t', insertFixupSide t side (z.addr d) x'.1 x.1 = some (t', z.addr d) ∧
      t'.At d sz s (.hang side .black z k' x' (.hang side .red b k x uncle)) rest r := by
  have hp := at_hang.1 h
  obtain ⟨t₁, t₂, t₃, ht₁, ht₂, ht₃, h₃⟩ := h.insertFixup_case3
  refine ⟨t₃, ?_, h₃⟩
  simp only [insertFixupSide, insertFixupCase2, h.child_other, (at_other.1 h).color, if_neg hu,
    hp.child_other, if_neg (hp.addr_ne hz), ht₁, ht₂, ht₃, Option.bind_eq_bind, Option.bind_some,
    Option.pure_def]

theorem At.insertFixupSide_inner {side : AssocSide} {c c' cz : AssocColor} {k k' kz : K}
    {x x' xz : ℕ × V} {a b b' uncle : AssocNode K (ℕ × V)} {rest : AssocPath K (ℕ × V)}
    (h : t.At d sz s (.hang side c (.hang side c' b' k' x' (.hang side cz a kz xz b)) k x uncle)
      rest r) (hu : uncle.color ≠ .red) :
    ∃ t', insertFixupSide t side xz.1 x'.1 x.1 = some (t', x'.1) ∧
      t'.At d sz s
        (.hang side .black (.hang side c' b' k' x' a) kz xz (.hang side .red b k x uncle))
        rest r := by
  have hp := at_hang.1 h
  obtain ⟨t₀, ht₀, h₀⟩ := hp.rotate
  obtain ⟨t₁, t₂, t₃, ht₁, ht₂, ht₃, h₃⟩ := (at_hang.2 h₀).insertFixup_case3
  refine ⟨t₃, ?_, h₃⟩
  simp only [insertFixupSide, insertFixupCase2, h.child_other, (at_other.1 h).color, if_neg hu,
    hp.child_other, AssocNode.addr_hang, if_true, ht₀, (at_hang.1 h₀).parent, AssocPath.top,
    AssocFrame.addr_hang, ht₁, ht₂, ht₃, Option.bind_eq_bind, Option.bind_some, Option.pure_def]

/-- The side on which the parent hangs is found. -/
theorem At.side_eq {side : AssocSide} {c : AssocColor} {k : K} {x : ℕ × V}
    {n b : AssocNode K (ℕ × V)} {p : AssocPath K (ℕ × V)}
    (h : t.At d sz s (.hang side c n k x b) p r) (hn : n ≠ .dummy) :
    ∃ l, t.child .left x.1 = some l ∧
      (if n.addr d = l then AssocSide.left else .right) = side := by
  cases side with
  | left => exact ⟨_, h.child, if_pos rfl⟩
  | right => exact ⟨_, h.child_other, if_neg (h.addr_ne hn)⟩

theorem redBlack_hang_red {side : AssocSide} {k : K} {x : ℕ × V} {a b : AssocNode K (ℕ × V)}
    {h : ℕ} (ha : RedBlack a h) (hb : RedBlack b h) (hac : a.color = .black)
    (hbc : b.color = .black) : RedBlack (.hang side .red a k x b) h := by
  cases side with
  | left => exact .red ha hb hac hbc
  | right => exact .red hb ha hbc hac

theorem hang_ne_dummy {side : AssocSide} {c : AssocColor} {k : K} {x : ℕ × V}
    {a b : AssocNode K (ℕ × V)} : AssocNode.hang side c a k x b ≠ .dummy := by
  cases side <;> exact fun h => nomatch h

theorem fill_ne_dummy {f : AssocFrame K (ℕ × V)} {n : AssocNode K (ℕ × V)} :
    f.fill n ≠ .dummy := by
  cases f <;> exact fun h => nomatch h

/-- One round of `insert_fixup` below a red parent. -/
theorem At.insertFixup_round {f : AssocFrame K (ℕ × V)} {side : AssocSide} {c : AssocColor}
    {k : K} {x : ℕ × V} {z uncle : AssocNode K (ℕ × V)} {rest : AssocPath K (ℕ × V)}
    (h : t.At d sz s z (f :: .hang side c k x uncle :: rest) r) (hz : z ≠ .dummy)
    (hf : f.color = .red) (fuel : ℕ) :
    AssocRbTreeT.insertFixup (fuel + 1) t (z.addr d) = (do
      let (t, z) ← t.insertFixupSide side (z.addr d) f.addr x.1
      AssocRbTreeT.insertFixup fuel t z) := by
  have hparent := at_fill.2 h
  have hgrand := at_hang.2 hparent
  obtain ⟨l, hl, hside⟩ := hgrand.side_eq fill_ne_dummy
  have hpp : t.parent f.addr = some x.1 := by
    obtain ⟨side', c', k', x', b, rfl⟩ := f.exists_hang
    rw [AssocFrame.fill_hang] at hparent
    rw [AssocFrame.addr_hang, hparent.parent, AssocPath.top, AssocFrame.addr_hang]
  have hzp : t.parent (z.addr d) = some f.addr := by
    obtain ⟨cz, a, kz, xz, b, rfl⟩ := AssocNode.exists_hang .left hz
    rw [AssocNode.addr_hang]
    exact h.parent
  have hpc : t.color f.addr = some .red := by
    rw [← hf]
    exact h.color_top
  rw [AssocFrame.addr_fill] at hside
  simp only [AssocRbTreeT.insertFixup, hzp, hpc, if_true, hpp, hl, hside, Option.bind_eq_bind,
    Option.bind_some]

/-- `insert_fixup` does to the tree what it does to the tree alone. -/
theorem At.insertFixup : ∀ {p : AssocPath K (ℕ × V)} {h fuel : ℕ} {t : AssocRbTreeT K V}
    {z : AssocNode K (ℕ × V)}, t.At d sz s z p r → z.color = .red → RedBlack z h →
    p.RedBlack h → p.length < fuel →
    ∃ t', AssocRbTreeT.insertFixup fuel t (z.addr d) = some t' ∧
      t'.At d sz s (FlexRic.insertFixup z p) [] r
  | [], _, fuel + 1, t, z, hat, hzc, _, _, _ => by
    rw [insertFixup_black rfl]
    exact hat.insertFixup_end (fun hz => by rw [hz] at hzc; cases hzc) rfl fuel
  | [f], _, fuel + 1, t, z, hat, hzc, _, hp, _ => by
    have hf : AssocPath.color [f] = .black := by
      cases hp with
      | red _ _ _ hne => exact absurd rfl hne
      | black hf => exact hf
    rw [insertFixup_black hf]
    exact hat.insertFixup_end (fun hz => by rw [hz] at hzc; cases hzc) hf fuel
  | f :: g :: rest, h, fuel + 2, t, z, hat, hzc, hz, hp, hfuel => by
    have hzne : z ≠ .dummy := fun hz => by rw [hz] at hzc; cases hzc
    have hrestlen : rest.length < fuel + 1 := by
      simp only [List.length_cons] at hfuel
      omega
    by_cases hf : f.color = .red
    · obtain ⟨hs, -, -, hun, hrest⟩ := hp.of_red hf
      obtain ⟨side, c, k, x, uncle, rfl⟩ := g.exists_hang
      have hgrand := at_hang.2 (at_fill.2 hat)
      have hun : RedBlack uncle h := by cases side <;> exact hun
      rw [hat.insertFixup_round hzne hf]
      by_cases hu : uncle.color = .red
      · -- case 1: the grand parent is the next `z`
        obtain ⟨t₁, ht₁, h₁⟩ := hgrand.insertFixupSide_red hu (z.addr d)
        have hparent : RedBlack ((f.fill z).setColor .black) (h + 1) := by
          cases f with
          | fromLeft => exact .black hz hs
          | fromRight => exact .black hs hz
        obtain ⟨t₂, ht₂, h₂⟩ := At.insertFixup h₁ (by simp) (redBlack_hang_red hparent
          (hun.red_setColor hu) (by simp) (by simp)) hrest hrestlen
        rw [AssocFrame.addr_fill] at ht₁
        rw [AssocNode.addr_hang] at ht₂
        rw [insertFixup_uncle_red hf hu, ht₁]
        exact ⟨t₂, ht₂, h₂⟩
      · obtain ⟨side', cf, k', x', b, rfl⟩ := f.exists_hang
        rw [AssocFrame.color_hang] at hf
        rw [AssocFrame.fill_hang] at hgrand
        by_cases hside : side' = side
        · -- case 3
          subst hside hf
          obtain ⟨t₁, ht₁, h₁⟩ := hgrand.insertFixupSide_outer hzne hu
          obtain ⟨t₂, ht₂, h₂⟩ := (at_hang.1 h₁).insertFixup_end hzne
            (AssocFrame.color_hang ..) fuel
          rw [insertFixup_outer hu, AssocFrame.addr_hang, ht₁]
          rw [AssocPath.plug, AssocFrame.fill_hang] at h₂
          exact ⟨t₂, ht₂, h₂⟩
        · -- case 2 and then case 3
          obtain rfl : side' = side.other := by
            cases side <;> cases side' <;> first | rfl | exact absurd rfl hside
          subst hf
          obtain ⟨cz, a, kz, xz, b', rfl⟩ := AssocNode.exists_hang side hzne
          rw [AssocNode.hang_other] at hgrand
          obtain ⟨t₁, ht₁, h₁⟩ := hgrand.insertFixupSide_inner hu
          obtain ⟨t₂, ht₂, h₂⟩ := (at_hang.1 h₁).insertFixup_end hang_ne_dummy
            (AssocFrame.color_hang ..) fuel
          rw [insertFixup_inner hu, AssocFrame.addr_hang, AssocNode.addr_hang, ht₁]
          rw [AssocPath.plug, AssocFrame.fill_hang] at h₂
          rw [AssocNode.addr_hang] at ht₂
          exact ⟨t₂, ht₂, h₂⟩
    · have hfb : AssocPath.color (f :: g :: rest) = .black := AssocFrame.color_of_ne_red hf
      rw [insertFixup_black hfb]
      exact hat.insertFixup_end hzne hfb (fuel + 1)

end AssocRbTreeT

/-! ## The fix-up of the extraction -/

section DeleteFixup

variable {side : AssocSide} {c c' : AssocColor} {k wk : K} {x wx : ℕ × V}
  {n w A B : AssocNode K (ℕ × V)} {rest : AssocPath K (ℕ × V)}

/-- Cases 2 to 4 for an `x_node` on a side of its parent. -/
def deleteFixupAt (side : AssocSide) (c : AssocColor) (n : AssocNode K (ℕ × V)) (k : K)
    (x : ℕ × V) (w : AssocNode K (ℕ × V)) : AssocNode K (ℕ × V) × Bool :=
  match side with
  | .left => deleteFixupLeft c n k x w
  | .right => deleteFixupRight w c k x n

theorem deleteFixupAt_case2 (hA : A.color = .black) (hB : B.color = .black) :
    deleteFixupAt side c n k x (.hang side c' A wk wx B) =
      (.hang side c n k x (.hang side .red A wk wx B), true) := by
  cases side with
  | left => simp only [AssocNode.hang, deleteFixupAt, deleteFixupLeft, hA, hB, and_self, if_true]
  | right => simp only [AssocNode.hang, deleteFixupAt, deleteFixupRight, hA, hB, and_self, if_true]

theorem deleteFixupAt_case3 {ak : K} {ax : ℕ × V} {A₁ A₂ : AssocNode K (ℕ × V)}
    (hB : B.color = .black) :
    deleteFixupAt side c n k x (.hang side c' (.hang side .red A₁ ak ax A₂) wk wx B) =
      (.hang side c (.hang side .black n k x A₁) ak ax (.hang side .black A₂ wk wx B),
        false) := by
  have hne : AssocColor.red ≠ .black := by decide
  cases side with
  | left =>
    simp only [AssocNode.hang, deleteFixupAt, deleteFixupLeft]
    rw [if_neg fun hboth => hne hboth.1, if_pos hB]
    rfl
  | right =>
    simp only [AssocNode.hang, deleteFixupAt, deleteFixupRight]
    rw [if_neg fun hboth => hne hboth.2, if_pos hB]
    rfl

theorem deleteFixupAt_case4 (hB : B.color = .red) :
    deleteFixupAt side c n k x (.hang side c' A wk wx B) =
      (.hang side c (.hang side .black n k x A) wk wx (B.setColor .black), false) := by
  have hne : AssocColor.red ≠ .black := by decide
  cases side with
  | left =>
    simp only [AssocNode.hang, deleteFixupAt, deleteFixupLeft, hB, hne, and_false, if_false,
      AssocNode.leftRotate]
  | right =>
    simp only [AssocNode.hang, deleteFixupAt, deleteFixupRight, hB, hne, false_and, if_false,
      AssocNode.rightRotate]

theorem repaired_deleteFixupAt {h : ℕ} (hn : RedBlack n h) (hw : RedBlack w (h + 1))
    (hwc : w.color = .black) : Repaired c h (deleteFixupAt side c n k x w) := by
  cases side with
  | left => exact repaired_deleteFixupLeft c k x hn hw hwc
  | right => exact repaired_deleteFixupRight c k x hn hw hwc

theorem deleteFixup_end {p : AssocPath K (ℕ × V)} (h : p = [] ∨ n.color = .red) :
    deleteFixup n p = AssocPath.plug (n.setColor .black) p := by
  cases p with
  | nil => rfl
  | cons f p =>
    have hn := h.resolve_left (List.cons_ne_nil f p)
    cases f with
    | fromLeft => simp only [deleteFixup, if_pos hn]
    | fromRight => simp only [deleteFixup, if_pos hn]

theorem deleteFixup_red_sibling (hn : n.color ≠ .red) :
    deleteFixup n (.hang side c k x (.hang side .red A wk wx B) :: rest) =
      match deleteFixupAt side .red n k x A with
      | (t, true) => AssocPath.plug (t.setColor .black) (.hang side .black wk wx B :: rest)
      | (t, false) =>
        (AssocPath.plug t (.hang side .black wk wx B :: rest)).setColor .black := by
  cases side with
  | left =>
    simp only [AssocFrame.hang, AssocNode.hang, deleteFixup, if_neg hn, deleteFixupAt]
    rcases deleteFixupLeft .red n k x A with ⟨t, _ | _⟩ <;> rfl
  | right =>
    simp only [AssocFrame.hang, AssocNode.hang, deleteFixup, if_neg hn, deleteFixupAt]
    rcases deleteFixupRight A .red k x n with ⟨t, _ | _⟩ <;> rfl

theorem deleteFixup_black_sibling (hn : n.color ≠ .red) :
    deleteFixup n (.hang side c k x (.hang side .black A wk wx B) :: rest) =
      match deleteFixupAt side c n k x (.hang side .black A wk wx B) with
      | (t, true) => deleteFixup t rest
      | (t, false) => (AssocPath.plug t rest).setColor .black := by
  cases side with
  | left =>
    simp only [AssocFrame.hang, AssocNode.hang, deleteFixup, if_neg hn, deleteFixupAt]
    rcases deleteFixupLeft c n k x (.node .black A wk wx B) with ⟨t, _ | _⟩ <;> rfl
  | right =>
    simp only [AssocFrame.hang, AssocNode.hang, deleteFixup, if_neg hn, deleteFixupAt]
    rcases deleteFixupRight (.node .black B wk wx A) c k x n with ⟨t, _ | _⟩ <;> rfl

end DeleteFixup

namespace AssocRbTreeT

section DeleteFixup

variable {t : AssocRbTreeT K V} {d sz s : ℕ} {r : AssocCells K V} {side : AssocSide}
  {c : AssocColor} {k wk : K} {x wx : ℕ × V} {n A B : AssocNode K (ℕ × V)}
  {p : AssocPath K (ℕ × V)}

/-- The parent of the child on the side, be it the sentinel. -/
theorem At.parent_child (h : t.At d sz s (.hang side c n k x A) p r) (hs : n = .dummy → s = x.1) :
    t.parent (n.addr d) = some x.1 := by
  have htop := (at_hang.1 h).parent_top fun hn => by
    rw [hs hn, AssocPath.top, AssocFrame.addr_hang]
  rwa [AssocPath.top, AssocFrame.addr_hang] at htop

/-- Case 1 of `delete_fixup`. -/
theorem At.deleteFixupCase1_red
    (h : t.At d sz s (.hang side c n k x (.hang side .red A wk wx B)) p r)
    (hs : n = .dummy → s = x.1) :
    ∃ t', t.deleteFixupCase1 side (n.addr d) wx.1 = some (t', A.addr d) ∧
      t'.At d sz s (.hang side .red n k x A) (.hang side .black wk wx B :: p) r := by
  obtain ⟨t₁, ht₁, h₁⟩ := (at_other.1 h).setColor .black
  have h₁ := at_other.2 h₁
  obtain ⟨t₂, ht₂, h₂⟩ := h₁.setColor .red
  obtain ⟨t₃, ht₃, h₃⟩ := h₂.rotate
  have h₃ := at_hang.1 h₃
  refine ⟨t₃, ?_, h₃⟩
  have hw := (at_other.1 h).color
  rw [AssocNode.addr_hang, AssocNode.color_hang] at hw
  simp only [deleteFixupCase1, hw, if_true, ht₁, h₁.parent_child hs, ht₂, ht₃,
    h₃.parent_child hs, h₃.child_other, Option.bind_eq_bind, Option.bind_some, Option.pure_def]

theorem At.deleteFixupCase1_black
    (h : t.At d sz s (.hang side c n k x (.hang side .black A wk wx B)) p r) (y : ℕ) :
    t.deleteFixupCase1 side y wx.1 = some (t, wx.1) := by
  have hw := (at_other.1 h).color
  rw [AssocNode.addr_hang, AssocNode.color_hang] at hw
  simp only [deleteFixupCase1, hw, reduceCtorEq, if_false, Option.bind_eq_bind, Option.bind_some,
    Option.pure_def]

/-- Case 4 of `delete_fixup`. -/
theorem At.deleteFixupCase4
    (h : t.At d sz s (.hang side c n k x (.hang side .black A wk wx B)) p r)
    (hs : n = .dummy → s = x.1) (hB : B.color = .red) :
    ∃ t', t.deleteFixupCase4 side (n.addr d) wx.1 = some t' ∧
      t'.At d sz s (.hang side c (.hang side .black n k x A) wk wx (B.setColor .black)) p r := by
  have hw := at_other.1 h
  obtain ⟨t₁, ht₁, h₁⟩ := hw.setColor c
  obtain ⟨t₂, ht₂, h₂⟩ := (at_other.2 h₁).setColor .black
  have hw₂ := at_other.1 h₂
  obtain ⟨t₃, ht₃, h₃⟩ := (at_other.1 hw₂).setColor_black
  obtain ⟨t₄, ht₄, h₄⟩ := (at_other.2 (at_other.2 h₃)).rotate
  refine ⟨t₄, ?_, h₄⟩
  have hwc := hw.color
  rw [AssocNode.addr_hang, AssocNode.color_hang] at hwc
  have hBc := (at_other.1 hw).color
  rw [hB] at hBc
  have hc := h.color
  rw [AssocNode.addr_hang, AssocNode.color_hang] at hc
  simp only [AssocRbTreeT.deleteFixupCase4, hwc, guard, if_true, hw.child_other, hBc,
    h.parent_child hs, hc, ht₁, ht₂, hw₂.child_other, ht₃, ht₄, Option.bind_eq_bind,
    Option.bind_some, Option.pure_def]

/-- Case 3 of `delete_fixup`. -/
theorem At.deleteFixupCase3 {ak : K} {ax : ℕ × V} {A₁ A₂ : AssocNode K (ℕ × V)}
    (h : t.At d sz s
      (.hang side c n k x (.hang side .black (.hang side .red A₁ ak ax A₂) wk wx B)) p r)
    (hs : n = .dummy → s = x.1) (hB : B.color = .black) :
    ∃ t', t.deleteFixupCase3 side (n.addr d) wx.1 = some (t', ax.1) ∧
      t'.At d sz s (.hang side c n k x (.hang side .black A₁ ak ax (.hang side .red A₂ wk wx B)))
        p r := by
  have hw := at_other.1 h
  obtain ⟨t₁, ht₁, h₁⟩ := (at_hang.1 hw).setColor .black
  obtain ⟨t₂, ht₂, h₂⟩ := (at_hang.2 h₁).setColor .red
  rw [← AssocNode.hang_other, ← AssocNode.hang_other side] at h₂
  obtain ⟨t₃, ht₃, h₃⟩ := h₂.rotate
  rw [AssocNode.hang_other, AssocNode.hang_other] at h₃
  have h₃ := at_other.2 h₃
  refine ⟨t₃, ?_, h₃⟩
  have hwc := hw.color
  rw [AssocNode.addr_hang, AssocNode.color_hang] at hwc
  have hAc := (at_hang.1 hw).color
  rw [AssocNode.addr_hang, AssocNode.color_hang] at hAc
  have hBc := (at_other.1 hw).color
  rw [hB] at hBc
  simp only [AssocRbTreeT.deleteFixupCase3, hw.child_other, hBc, if_true, hwc, guard, hw.child,
    AssocNode.addr_hang, hAc, ht₁, ht₂, ht₃, h₃.parent_child hs, h₃.child_other,
    Option.bind_eq_bind, Option.bind_some, Option.pure_def]

theorem At.deleteFixupCase3_red
    (h : t.At d sz s (.hang side c n k x (.hang side .black A wk wx B)) p r)
    (hB : B.color = .red) (y : ℕ) : t.deleteFixupCase3 side y wx.1 = some (t, wx.1) := by
  have hw := at_other.1 h
  have hBc := (at_other.1 hw).color
  rw [hB] at hBc
  simp only [AssocRbTreeT.deleteFixupCase3, hw.child_other, hBc, reduceCtorEq, if_false,
    Option.bind_eq_bind, Option.bind_some, Option.pure_def]

theorem At.bothBlack (h : t.At d sz s (.hang side c A k x B) p r) :
    t.bothBlack x.1 = some (decide (A.color = .black ∧ B.color = .black)) := by
  have hleft : ∀ {A B : AssocNode K (ℕ × V)}, t.At d sz s (.hang .left c A k x B) p r →
      t.bothBlack x.1 = some (decide (A.color = .black ∧ B.color = .black)) := by
    intro A B h
    have hr : t.child .right x.1 = some (B.addr d) := h.child_other
    by_cases hA : A.color = .black
    · simp only [AssocRbTreeT.bothBlack, h.child, (at_hang.1 h).color, hA, if_true, hr,
        (at_other.1 h).color, true_and, Option.bind_eq_bind, Option.bind_some, Option.pure_def]
    · simp only [AssocRbTreeT.bothBlack, h.child, (at_hang.1 h).color, hA, if_false, false_and,
        decide_false, Option.bind_eq_bind, Option.bind_some, Option.pure_def]
  cases side with
  | left => exact hleft h
  | right =>
    rw [hleft (A := B) (B := A) h]
    simp only [and_comm]

/-- Cases 2 to 4 of `delete_fixup`. -/
theorem At.deleteFixupCases234
    (h : t.At d sz s (.hang side c n k x (.hang side .black A wk wx B)) p r)
    (hs : n = .dummy → s = x.1) :
    let y := deleteFixupAt side c n k x (.hang side .black A wk wx B)
    y.1 ≠ .dummy ∧ ∃ t', t'.At d sz s y.1 p r ∧
      t.deleteFixupCases234 side (n.addr d) wx.1 =
        some (t', if y.2 then y.1.addr d else t'.root) := by
  have hw := at_other.1 h
  have hwc := hw.color
  rw [AssocNode.addr_hang, AssocNode.color_hang] at hwc
  by_cases hboth : A.color = .black ∧ B.color = .black
  · obtain ⟨t₁, ht₁, h₁⟩ := hw.setColor .red
    have h₁ := at_other.2 h₁
    rw [deleteFixupAt_case2 hboth.1 hboth.2]
    refine ⟨hang_ne_dummy, t₁, h₁, ?_⟩
    simp only [AssocRbTreeT.deleteFixupCases234, AssocNode.addr_hang, hwc, guard, if_true,
      hw.bothBlack, hboth, and_self, decide_true, ht₁, h₁.parent_child hs, Option.bind_eq_bind,
      Option.bind_some, Option.pure_def]
  · by_cases hB : B.color = .black
    · -- case 3 and then case 4
      have hA := AssocNode.color_of_ne_black fun hA => hboth ⟨hA, hB⟩
      obtain ⟨ca, A₁, ak, ax, A₂, rfl⟩ := AssocNode.exists_hang side (n := A)
        fun hA' => by rw [hA'] at hA; cases hA
      rw [AssocNode.color_hang] at hA
      subst hA
      obtain ⟨t₁, ht₁, h₁⟩ := h.deleteFixupCase3 hs hB
      obtain ⟨t₂, ht₂, h₂⟩ := h₁.deleteFixupCase4 hs (AssocNode.color_hang ..)
      rw [AssocNode.setColor_hang] at h₂
      rw [deleteFixupAt_case3 hB]
      refine ⟨hang_ne_dummy, t₂, h₂, ?_⟩
      simp only [AssocRbTreeT.deleteFixupCases234, hwc, guard, if_true, hw.bothBlack, hboth,
        decide_false, Bool.false_eq_true, if_false, ht₁, ht₂, Option.bind_eq_bind,
        Option.bind_some, Option.pure_def]
    · -- case 4
      have hB := AssocNode.color_of_ne_black hB
      obtain ⟨t₂, ht₂, h₂⟩ := h.deleteFixupCase4 hs hB
      rw [deleteFixupAt_case4 hB]
      refine ⟨hang_ne_dummy, t₂, h₂, ?_⟩
      simp only [AssocRbTreeT.deleteFixupCases234, hwc, guard, if_true, hw.bothBlack, hboth,
        decide_false, Bool.false_eq_true, if_false, h.deleteFixupCase3_red hB, ht₂,
        Option.bind_eq_bind, Option.bind_some, Option.pure_def]

/-- The loop of `delete_fixup` ends at a red node or at the root. -/
theorem At.deleteFixup_end (h : t.At d sz s n p r) (hend : p = [] ∨ n.color = .red) (fuel : ℕ) :
    ∃ t', AssocRbTreeT.deleteFixup (fuel + 1) t (n.addr d) = some t' ∧
      t'.At d sz s (FlexRic.deleteFixup n p) [] r := by
  obtain ⟨t', ht', h'⟩ := h.setColor_black
  refine ⟨t', ?_, ?_⟩
  · have hstop : ¬(n.addr d ≠ t.root ∧ n.color = .black) := by
      rintro ⟨hroot, hblack⟩
      rcases hend with rfl | hred
      · exact hroot h.root.symm
      · exact absurd (hred.symm.trans hblack) (by decide)
    simp only [AssocRbTreeT.deleteFixup, h.color, if_neg hstop, ht', Option.bind_eq_bind,
      Option.bind_some]
  · rw [FlexRic.deleteFixup_end hend]
    exact at_plug.2 h'

/-- The loop of `delete_fixup` ends when `x_node` is set to the root. -/
theorem At.deleteFixup_root (h : t.At d sz s n p r) (fuel : ℕ) :
    ∃ t', AssocRbTreeT.deleteFixup (fuel + 1) t t.root = some t' ∧
      t'.At d sz s ((AssocPath.plug n p).setColor .black) [] r := by
  have hplug := at_plug.2 h
  rw [show t.root = (AssocPath.plug n p).addr d from hplug.root]
  exact hplug.deleteFixup_end (.inl rfl) fuel

/-- One round of `delete_fixup` at a black node. -/
theorem At.deleteFixup_round
    (h : t.At d sz s (.hang side c n k x A) p r) (hs : n = .dummy → s = x.1)
    (hn : n.color = .black) (hA : A ≠ .dummy) (fuel : ℕ) :
    AssocRbTreeT.deleteFixup (fuel + 1) t (n.addr d) = (do
      let (t, x) ← t.deleteFixupSide side (n.addr d)
      AssocRbTreeT.deleteFixup fuel t x) := by
  have hchild := at_hang.1 h
  have hgo : n.addr d ≠ t.root ∧ n.color = .black := ⟨hchild.ne_root (List.cons_ne_nil _ _), hn⟩
  obtain ⟨l, hl, hside⟩ : ∃ l, t.child .left x.1 = some l ∧
      (if n.addr d = l then AssocSide.left else .right) = side := by
    cases side with
    | left => exact ⟨_, h.child, if_pos rfl⟩
    | right =>
      have hswap : t.At d sz s (.hang .left c A k x n) p r := h
      exact ⟨_, h.child_other, if_neg (hswap.addr_ne hA).symm⟩
  simp only [AssocRbTreeT.deleteFixup, hchild.color, if_pos hgo, h.parent_child hs, hl, hside,
    Option.bind_eq_bind, Option.bind_some]

/-- `delete_fixup` does to the tree what it does to the tree alone. -/
theorem At.deleteFixup : ∀ {p : AssocPath K (ℕ × V)} {j fuel : ℕ} {t : AssocRbTreeT K V}
    {n : AssocNode K (ℕ × V)}, t.At d sz s n p r → (n = .dummy → s = p.top d) → Lacks n j →
    p.RedBlack (j + 1) → p.length + 1 < fuel →
    ∃ t', AssocRbTreeT.deleteFixup fuel t (n.addr d) = some t' ∧
      t'.At d sz s (FlexRic.deleteFixup n p) [] r
  | [], _, fuel + 1, _, _, hat, _, _, _, _ => hat.deleteFixup_end (.inl rfl) fuel
  | f :: rest, j, fuel + 2, t, n, hat, hs, hn, hp, hfuel => by
    by_cases hred : n.color = .red
    · exact hat.deleteFixup_end (.inr hred) (fuel + 1)
    obtain ⟨hsib, hrest, -⟩ := hp.tail
    obtain ⟨side, c, k, x, w, rfl⟩ := f.exists_hang
    have hsib : RedBlack w (j + 1) := by cases side <;> exact hsib
    have hat := at_hang.2 hat
    rw [AssocPath.top, AssocFrame.addr_hang] at hs
    have hnb := AssocNode.color_of_ne_red hred
    have hn := hn.black hnb
    -- the sibling is not the sentinel: it has a black node on each way down
    have hw : w ≠ .dummy := by
      rintro rfl
      cases hsib
    rw [hat.deleteFixup_round hs hnb hw]
    obtain ⟨cw, A, wk, wx, B, rfl⟩ := AssocNode.exists_hang side hw
    have hchild := hat.child_other
    rw [AssocNode.addr_hang] at hchild
    cases cw with
    | red =>
      -- case 1, and the loop ends in the next round
      have hAB : RedBlack A (j + 1) ∧ A.color = .black := by
        cases side with
        | left =>
          cases hsib with
          | red hl _ hlc _ => exact ⟨hl, hlc⟩
        | right =>
          cases hsib with
          | red _ hr _ hrc => exact ⟨hr, hrc⟩
      have hA : A ≠ .dummy := by
        rintro rfl
        cases hAB.1
      obtain ⟨t₁, ht₁, h₁⟩ := hat.deleteFixupCase1_red hs
      obtain ⟨cA, A', ak, ax, B', rfl⟩ := AssocNode.exists_hang side hA
      obtain rfl : cA = .black := by simpa using hAB.2
      rw [AssocNode.addr_hang] at ht₁
      obtain ⟨-, t₂, h₂, ht₂⟩ := h₁.deleteFixupCases234 hs
      have hside : ∀ y, t₁.deleteFixupCases234 side (n.addr d) ax.1 = some y →
          t.deleteFixupSide side (n.addr d) = some y := fun y hy => by
        simp only [deleteFixupSide, hat.parent_child hs, hchild, ht₁, hy, Option.bind_eq_bind,
          Option.bind_some]
      have hrep : Repaired .red j (deleteFixupAt side .red n k x _) :=
        repaired_deleteFixupAt hn hAB.1 hAB.2
      rw [hside _ ht₂, deleteFixup_red_sibling hred]
      generalize deleteFixupAt side .red n k x (.hang side .black A' ak ax B') = y at h₂ hrep ⊢
      obtain ⟨T, again⟩ := y
      cases again with
      | true =>
        obtain ⟨t₃, ht₃, h₃⟩ := h₂.deleteFixup_end (.inr hrep.color) fuel
        rw [FlexRic.deleteFixup_end (.inr hrep.color)] at h₃
        exact ⟨t₃, ht₃, h₃⟩
      | false => exact h₂.deleteFixup_root fuel
    | black =>
      obtain ⟨hne, t₁, h₁, ht₁⟩ := hat.deleteFixupCases234 hs
      have hside : ∀ y, t.deleteFixupCases234 side (n.addr d) wx.1 = some y →
          t.deleteFixupSide side (n.addr d) = some y := fun y hy => by
        simp only [deleteFixupSide, hat.parent_child hs, hchild, hat.deleteFixupCase1_black, hy,
          Option.bind_eq_bind, Option.bind_some]
      have hrep : Repaired c j (deleteFixupAt side c n k x _) :=
        repaired_deleteFixupAt hn hsib (AssocNode.color_hang ..)
      rw [hside _ ht₁, deleteFixup_black_sibling hred]
      generalize deleteFixupAt side c n k x (.hang side .black A wk wx B) = y at h₁ hrep hne ⊢
      obtain ⟨T, again⟩ := y
      cases again with
      | true =>
        rw [AssocFrame.color_hang, Nat.add_right_comm] at hrest
        refine At.deleteFixup h₁ (fun hdummy => absurd hdummy hne) (hrep.again rfl) hrest ?_
        simp only [List.length_cons] at hfuel
        omega
      | false => exact h₁.deleteFixup_root fuel

end DeleteFixup

end AssocRbTreeT

end FlexRic
