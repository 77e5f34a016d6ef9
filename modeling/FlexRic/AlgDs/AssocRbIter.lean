import FlexRic.AlgDs.AssocRbRefine

/-!
# Iteration over the container in memory

`assoc_rb_tree_front` and `assoc_rb_tree_next` go through the nodes of the tree in the order of
its entries, with the links between the nodes only.
-/

namespace FlexRic

variable {K V : Type}

/-- The address of the first of these entries; that of the sentinel if there is none. -/
def firstAddr (d : ℕ) : List (K × ℕ × V) → ℕ
  | [] => d
  | e :: _ => e.2.1

@[simp] theorem firstAddr_nil (d : ℕ) : firstAddr d ([] : List (K × ℕ × V)) = d := rfl

@[simp] theorem firstAddr_cons (d : ℕ) (e : K × ℕ × V) (es : List (K × ℕ × V)) :
    firstAddr d (e :: es) = e.2.1 := rfl

theorem firstAddr_append (d : ℕ) {es : List (K × ℕ × V)} (h : es ≠ []) (fs : List (K × ℕ × V)) :
    firstAddr d (es ++ fs) = firstAddr d es := by
  cases es with
  | nil => exact absurd rfl h
  | cons e es => rfl

theorem toList_ne_nil {n : AssocNode K (ℕ × V)} (h : n ≠ .dummy) : n.toList ≠ [] := by
  cases n with
  | dummy => exact absurd rfl h
  | node c l k x r => simp

/-- The leftmost node has the first entry. -/
theorem minimumPath_first (d : ℕ) (c : AssocColor) (l : AssocNode K (ℕ × V)) (k : K) (x : ℕ × V)
    (r : AssocNode K (ℕ × V)) (p : AssocPath K (ℕ × V)) :
    (minimumPath c l k x r p).1.2.2.1.1 = firstAddr d (AssocNode.node c l k x r).toList := by
  fun_induction minimumPath c l k x r p with
  | case1 c k x r p => rfl
  | case2 c k x r p c' l' k' x' r' ih =>
    have hne : AssocNode.node c' l' k' x' r' ≠ .dummy := by
      intro heq
      cases heq
    rw [ih, AssocNode.toList_node c, firstAddr_append d (toList_ne_nil hne)]

theorem plug_append (n : AssocNode K (ℕ × V)) (q p : AssocPath K (ℕ × V)) :
    AssocPath.plug n (q ++ p) = AssocPath.plug (AssocPath.plug n q) p := by
  induction q generalizing n with
  | nil => rfl
  | cons f q ih => exact ih _

/-- Every entry has its place in the tree. -/
theorem exists_place {n : AssocNode K (ℕ × V)} {e : K × ℕ × V} {es fs : List (K × ℕ × V)}
    (h : n.toList = es ++ e :: fs) :
    ∃ c l m q, AssocPath.plug (.node c l e.1 e.2 m) q = n ∧ q.before ++ l.toList = es ∧
      m.toList ++ q.after = fs := by
  induction n generalizing es fs with
  | dummy => exact absurd h (by simp)
  | node c l k x r ihl ihr =>
    rw [AssocNode.toList_node] at h
    rcases List.append_eq_append_iff.1 h with ⟨as, rfl, hr⟩ | ⟨bs, hl, hr⟩
    · cases as with
      | nil =>
        obtain ⟨rfl, rfl⟩ := List.cons.inj hr
        exact ⟨c, l, r, [], rfl, by simp [AssocPath.before], by simp [AssocPath.after]⟩
      | cons a as =>
        -- the entry is in the right child
        obtain ⟨rfl, htail⟩ := List.cons.inj hr
        have hr : r.toList = as ++ e :: fs := htail
        obtain ⟨c', l', m, q, hq, hb, ha⟩ := ihr hr
        refine ⟨c', l', m, q ++ [.fromRight l c k x], ?_, ?_, ?_⟩
        · rw [plug_append, hq]
          rfl
        · simp [AssocPath.before, AssocFrame.before, ← hb]
        · simpa [AssocPath.after, AssocFrame.after] using ha
    · cases bs with
      | nil =>
        obtain ⟨rfl, rfl⟩ := List.cons.inj hr
        exact ⟨c, l, r, [], rfl, by simpa [AssocPath.before] using hl, by simp [AssocPath.after]⟩
      | cons b bs =>
        -- the entry is in the left child
        obtain ⟨rfl, rfl⟩ := List.cons.inj hr
        obtain ⟨c', l', m, q, hq, hb, ha⟩ := ihl hl
        refine ⟨c', l', m, q ++ [.fromLeft c k x r], ?_, ?_, ?_⟩
        · rw [plug_append, hq]
          rfl
        · simpa [AssocPath.before, AssocFrame.before] using hb
        · simp [AssocPath.after, AssocFrame.after, ← ha]

namespace AssocRbTreeT

variable {t : AssocRbTreeT K V} {d sz s : ℕ} {r : AssocCells K V} {p : AssocPath K (ℕ × V)}

/-- `minimum`: the node with the first entry of the subtree. -/
theorem At.minimum {n : AssocNode K (ℕ × V)} {fuel : ℕ} (h : t.At d sz s n p r)
    (hfuel : n.toList.length < fuel) :
    t.minimum fuel (n.addr d) = some (firstAddr d n.toList) := by
  cases n with
  | dummy => exact (if_pos h.dummy.symm).trans (congrArg some h.dummy)
  | node c l k x m =>
    have hne : x.1 ≠ t.dummy := by
      rw [← hang_left] at h
      exact h.dummy.symm ▸ h.ne_dummy
    have hlen : l.toList.length < fuel := by
      simp only [AssocNode.toList_node, List.length_append, List.length_cons] at hfuel
      omega
    rw [AssocNode.addr, AssocRbTreeT.minimum, if_neg hne, h.leftmost hlen,
      minimumPath_first d c l k x m p]

/-- The loop of `assoc_rb_tree_next` finds the first entry after the subtree. -/
theorem At.climb {n : AssocNode K (ℕ × V)} {fuel : ℕ} (h : t.At d sz s n p r) (hn : n ≠ .dummy)
    (hfuel : p.length < fuel) :
    t.climb fuel (n.addr d) (p.top d) = some (firstAddr d p.after) := by
  induction p generalizing n fuel with
  | nil =>
    cases fuel with
    | zero => exact absurd hfuel (Nat.not_lt_zero _)
    | succ fuel => exact if_pos h.dummy.symm
  | cons f p ih =>
    cases fuel with
    | zero => exact absurd hfuel (Nat.not_lt_zero _)
    | succ fuel =>
      have hup := at_fill.2 h
      cases f with
      | fromLeft c k x m =>
        have hz : t.At d sz s (.hang .left c n k x m) p r := hup
        have hne : x.1 ≠ t.dummy := h.dummy.symm ▸ hz.ne_dummy
        have hstop : ¬n.addr d ≠ n.addr d := fun hne => hne rfl
        simp only [AssocRbTreeT.climb, AssocPath.top, AssocFrame.addr, if_neg hne, hz.child,
          if_neg hstop, Option.bind_eq_bind, Option.bind_some, Option.pure_def]
        rfl
      | fromRight l c k x =>
        have hz : t.At d sz s (.hang .right c n k x l) p r := hup
        have hl : t.child .left x.1 = some (l.addr d) := hz.child_other
        have hne : x.1 ≠ t.dummy := h.dummy.symm ▸ hz.ne_dummy
        have hgo : l.addr d ≠ n.addr d := (hz.addr_ne hn).symm
        simp only [AssocRbTreeT.climb, AssocPath.top, AssocFrame.addr, if_neg hne, hl,
          if_pos hgo, hz.parent, Option.bind_eq_bind, Option.bind_some]
        exact ih hz hang_ne_dummy (Nat.lt_of_succ_lt_succ hfuel)

/-- `assoc_rb_tree_next`: the node with the next entry. -/
theorem At.next {c : AssocColor} {l m : AssocNode K (ℕ × V)} {k : K} {x : ℕ × V} {fuel : ℕ}
    (h : t.At d sz s (.node c l k x m) p r) (hm : m.toList.length < fuel)
    (hp : p.length < fuel) :
    t.next fuel x.1 = some (firstAddr d (m.toList ++ p.after)) := by
  have hz : t.At d sz s (.hang .left c l k x m) p r := h
  have hright : t.child .right x.1 = some (m.addr d) := hz.child_other
  have hne : x.1 ≠ t.dummy := h.dummy.symm ▸ hz.ne_dummy
  by_cases hdummy : m = .dummy
  · have hstop : ¬m.addr d ≠ t.dummy := by
      rw [hdummy, h.dummy]
      exact fun hne => hne rfl
    have hclimb : t.climb fuel x.1 (p.top d) = _ := hz.climb hang_ne_dummy hp
    simp only [AssocRbTreeT.next, guard, if_pos hne, hright, if_neg hstop, hz.parent, hclimb,
      Option.bind_eq_bind, Option.bind_some, Option.pure_def]
    rw [hdummy, AssocNode.toList_dummy, List.nil_append]
  · obtain ⟨c', l', k', x', m', rfl⟩ := AssocNode.exists_hang .left hdummy
    have hm' : t.At d sz s (.hang .left c' l' k' x' m') (.fromRight l c k x :: p) r := at_fill.1 h
    have hgo : (AssocNode.hang .left c' l' k' x' m').addr d ≠ t.dummy :=
      h.dummy.symm ▸ hm'.ne_dummy
    simp only [AssocRbTreeT.next, guard, if_pos hne, hright, if_pos hgo, hm'.minimum hm,
      Option.bind_eq_bind, Option.bind_some, Option.pure_def]
    rw [firstAddr_append d (toList_ne_nil hdummy)]

/-- `assoc_rb_tree_key` and `assoc_rb_tree_value`. -/
theorem At.keyAt_valueAt {c : AssocColor} {l m : AssocNode K (ℕ × V)} {k : K} {x : ℕ × V}
    (h : t.At d sz s (.hang .left c l k x m) p r) :
    t.keyAt x.1 = some k ∧ t.valueAt x.1 = some x.2 := by
  have hne : x.1 ≠ t.dummy := h.dummy.symm ▸ h.ne_dummy
  rw [AssocRbTreeT.keyAt, AssocRbTreeT.valueAt, h.key, h.value]
  simp only [guard, if_pos hne]
  exact ⟨rfl, rfl⟩

/-- The iterator at an entry: what it refers to, and what comes after it. -/
theorem At.entry {n : AssocNode K (ℕ × V)} {fuel : ℕ} {e : K × ℕ × V} {es fs : List (K × ℕ × V)}
    (h : t.At d sz s n [] r) (hfuel : n.toList.length < fuel) (hes : n.toList = es ++ e :: fs) :
    e.2.1 ≠ t.dummy ∧ t.keyAt e.2.1 = some e.1 ∧ t.valueAt e.2.1 = some e.2.2 ∧
      t.next fuel e.2.1 = some (firstAddr d fs) := by
  obtain ⟨c, l, m, q, rfl, hb, ha⟩ := exists_place hes
  have hlen := length_path_le_plug (.node c l e.1 e.2 m) q
  simp only [AssocNode.toList_node, List.length_append, List.length_cons] at hlen
  have hz : t.At d sz s (.hang .left c l e.1 e.2 m) q r := at_plug.1 h
  obtain ⟨hkey, hvalue⟩ := hz.keyAt_valueAt
  refine ⟨h.dummy.symm ▸ hz.ne_dummy, hkey, hvalue, ?_⟩
  rw [← ha]
  exact At.next hz (by omega) (by omega)

/-- From an entry on the loop visits the rest, and ends. -/
theorem At.visitFrom {n : AssocNode K (ℕ × V)} {fuel rounds : ℕ} {es fs : List (K × ℕ × V)}
    (h : t.At d sz s n [] r) (hfuel : n.toList.length < fuel) (hes : n.toList = es ++ fs)
    (hrounds : fs.length < rounds) :
    t.visitFrom fuel rounds (firstAddr d fs) = some (fs.map fun e => (e.1, e.2.2)) := by
  induction fs generalizing es rounds with
  | nil =>
    cases rounds with
    | zero => exact absurd hrounds (Nat.not_lt_zero _)
    | succ rounds => exact if_pos h.dummy.symm
  | cons e fs ih =>
    cases rounds with
    | zero => exact absurd hrounds (Nat.not_lt_zero _)
    | succ rounds =>
      obtain ⟨hne, hkey, hvalue, hnext⟩ := h.entry hfuel hes
      have hend : ¬e.2.1 = t.endNode := hne
      have hsplit : n.toList = (es ++ [e]) ++ fs := by
        rw [hes, List.append_assoc]
        rfl
      have hrest := ih hsplit (Nat.lt_of_succ_lt_succ hrounds)
      simp only [AssocRbTreeT.visitFrom, firstAddr_cons, if_neg hend, hkey, hvalue, hnext, hrest,
        Option.bind_eq_bind, Option.bind_some, Option.pure_def, List.map_cons]

/-- The loop over the container visits the entries of the tree, in order. -/
theorem At.visit {n : AssocNode K (ℕ × V)} {fuel : ℕ} (h : t.At d sz s n [] r)
    (hfuel : n.toList.length < fuel) :
    t.visit fuel = some (n.toList.map fun e => (e.1, e.2.2)) := by
  have hfront : t.front fuel = some (firstAddr d n.toList) := by
    rw [front, show t.root = n.addr d from h.root]
    exact h.minimum hfuel
  simp only [AssocRbTreeT.visit, hfront, Option.bind_eq_bind, Option.bind_some]
  exact h.visitFrom hfuel (List.nil_append _).symm hfuel

end AssocRbTreeT

end FlexRic
