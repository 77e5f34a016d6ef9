import FlexRic.AlgDs.Bimap
import FlexRic.Semantics.Refinement
import Mathlib.Data.List.Pairwise
import Mathlib.Data.List.Perm.Basic
import Mathlib.Data.Prod.Basic

/-!
# What a bidirectional map is for

A matching is a set of pairs, no two of which agree on a side. The bidirectional map follows it
through insertions of fresh pairs and extractions of pairs that are there, except for an assertion
of `bi_map_extract_left`: it hands a right key to the comparator of the left keys.
-/

namespace FlexRic

universe u v

/-- The operations on a bidirectional map. -/
inductive BiMapOp (K₁ : Type u) (K₂ : Type v) : Type (max u v) where
  /-- `bi_map_insert` -/
  | insert (key₁ : K₁) (key₂ : K₂) : BiMapOp K₁ K₂
  /-- `bi_map_extract_left` -/
  | extractLeft (key₁ : K₁) : BiMapOp K₁ K₂
  /-- `bi_map_extract_right` -/
  | extractRight (key₂ : K₂) : BiMapOp K₁ K₂

variable {K₁ : Type u} {K₂ : Type v}

/-- Two pairs that agree on no side. -/
def ApartPairs (cmp₁ : K₁ → K₁ → Ordering) (cmp₂ : K₂ → K₂ → Ordering) (d e : K₁ × K₂) : Prop :=
  cmp₁ d.1 e.1 ≠ .eq ∧ cmp₂ d.2 e.2 ≠ .eq

instance (cmp₁ : K₁ → K₁ → Ordering) (cmp₂ : K₂ → K₂ → Ordering) (d e : K₁ × K₂) :
    Decidable (ApartPairs cmp₁ cmp₂ d e) :=
  inferInstanceAs (Decidable (_ ∧ _))

/-- A set of pairs, no two of which agree on a side. -/
structure Matching (cmp₁ : K₁ → K₁ → Ordering) (cmp₂ : K₂ → K₂ → Ordering) : Type (max u v) where
  pairs : List (K₁ × K₂)
  /-- no two pairs agree on a side -/
  distinct : pairs.Pairwise (ApartPairs cmp₁ cmp₂)

namespace Matching

variable {cmp₁ : K₁ → K₁ → Ordering} {cmp₂ : K₂ → K₂ → Ordering}

/-- The pairs that satisfy the predicate. -/
def filter (M : Matching cmp₁ cmp₂) (p : K₁ × K₂ → Bool) : Matching cmp₁ cmp₂ :=
  ⟨M.pairs.filter p, M.distinct.filter p⟩

/-- A pair may be inserted if neither of its sides is there, and a key may be taken out if it is
there: the answer is the other side of its pair, and all other pairs stay. -/
def step (M : Matching cmp₁ cmp₂) :
    BiMapOp K₁ K₂ → Option (Option (K₁ ⊕ K₂) × Matching cmp₁ cmp₂)
  | .insert key₁ key₂ =>
    if h : ∀ e ∈ M.pairs, ApartPairs cmp₁ cmp₂ (key₁, key₂) e then
      some (none, ⟨(key₁, key₂) :: M.pairs, List.pairwise_cons.2 ⟨h, M.distinct⟩⟩)
    else none
  | .extractLeft key₁ =>
    (M.pairs.find? fun e => cmp₁ key₁ e.1 = .eq).map fun e =>
      (some (.inr e.2), M.filter fun e => cmp₁ key₁ e.1 ≠ .eq)
  | .extractRight key₂ =>
    (M.pairs.find? fun e => cmp₂ key₂ e.2 = .eq).map fun e =>
      (some (.inl e.1), M.filter fun e => cmp₂ key₂ e.2 ≠ .eq)

/-- Matchings as a machine, from the empty one on. -/
def machine (cmp₁ : K₁ → K₁ → Ordering) (cmp₂ : K₂ → K₂ → Ordering) :
    Machine (Matching cmp₁ cmp₂) (BiMapOp K₁ K₂) (Option (K₁ ⊕ K₂)) :=
  ⟨⟨[], .nil⟩, step⟩

variable {M : Matching cmp₁ cmp₂}

theorem nodup [Std.ReflCmp cmp₁] : M.pairs.Nodup := by
  refine M.distinct.imp ?_
  rintro d _ hapart rfl
  exact hapart.1 Std.ReflCmp.compare_self

theorem pairwise_ne [Std.OrientedCmp cmp₁] [Std.OrientedCmp cmp₂] {d e : K₁ × K₂}
    (hd : d ∈ M.pairs) (he : e ∈ M.pairs) (hne : d ≠ e) : ApartPairs cmp₁ cmp₂ d e := by
  have : Std.Symm (ApartPairs cmp₁ cmp₂) := by
    refine ⟨fun d e hapart => ⟨fun heq => hapart.1 ?_, fun heq => hapart.2 ?_⟩⟩
    · exact Std.OrientedCmp.eq_comm.1 heq
    · exact Std.OrientedCmp.eq_comm.1 heq
  exact M.distinct.forall hd he hne

/-- A key stands for one pair only. -/
theorem eq_of_left [Std.TransCmp cmp₁] [Std.TransCmp cmp₂] {key₁ : K₁} {d e : K₁ × K₂}
    (hd : d ∈ M.pairs) (he : e ∈ M.pairs) (hkd : cmp₁ key₁ d.1 = .eq)
    (hke : cmp₁ key₁ e.1 = .eq) : d = e := by
  by_contra hne
  refine (pairwise_ne hd he hne).1 ?_
  exact Std.TransCmp.eq_trans (Std.OrientedCmp.eq_comm.1 hkd) hke

theorem eq_of_right [Std.TransCmp cmp₁] [Std.TransCmp cmp₂] {key₂ : K₂} {d e : K₁ × K₂}
    (hd : d ∈ M.pairs) (he : e ∈ M.pairs) (hkd : cmp₂ key₂ d.2 = .eq)
    (hke : cmp₂ key₂ e.2 = .eq) : d = e := by
  by_contra hne
  refine (pairwise_ne hd he hne).2 ?_
  exact Std.TransCmp.eq_trans (Std.OrientedCmp.eq_comm.1 hkd) hke

end Matching

namespace BiMap

/-- The operations as the code computes them. -/
def step (cmp₁ : K₁ → K₁ → Ordering) (cmp₂ : K₂ → K₂ → Ordering) (asLeft : K₂ → K₁)
    (m : BiMap K₁ K₂) : BiMapOp K₁ K₂ → Option (Option (K₁ ⊕ K₂) × BiMap K₁ K₂)
  | .insert key₁ key₂ => some (none, m.insert cmp₁ cmp₂ key₁ key₂)
  | .extractLeft key₁ =>
    (m.extractLeft cmp₁ cmp₂ asLeft key₁).map fun (key₂, m) => (some (.inr key₂), m)
  | .extractRight key₂ =>
    (m.extractRight cmp₁ cmp₂ key₂).map fun (key₁, m) => (some (.inl key₁), m)

/-- The bidirectional map as a machine, from `bi_map_init` on. -/
def machine (cmp₁ : K₁ → K₁ → Ordering) (cmp₂ : K₂ → K₂ → Ordering) (asLeft : K₂ → K₁) :
    Machine (BiMap K₁ K₂) (BiMapOp K₁ K₂) (Option (K₁ ⊕ K₂)) :=
  ⟨init, step cmp₁ cmp₂ asLeft⟩

/-- The two trees are in order, hold the pairs of the matching, each on its side, and have the same
size. -/
structure Mirrors {cmp₁ : K₁ → K₁ → Ordering} {cmp₂ : K₂ → K₂ → Ordering} (m : BiMap K₁ K₂)
    (M : Matching cmp₁ cmp₂) : Prop where
  left : m.left.WF cmp₁
  right : m.right.WF cmp₂
  left_perm : m.left.toList.Perm M.pairs
  right_perm : m.right.toList.Perm (M.pairs.map Prod.swap)
  left_size : m.left.size = M.pairs.length
  right_size : m.right.size = M.pairs.length

/-- The right key of a pair that is taken out by its left key passes for this left key. -/
def LeftReadable {cmp₁ : K₁ → K₁ → Ordering} {cmp₂ : K₂ → K₂ → Ordering} (asLeft : K₂ → K₁)
    (M : Matching cmp₁ cmp₂) : BiMapOp K₁ K₂ → Prop
  | .extractLeft key₁ =>
    ∀ e ∈ M.pairs, cmp₁ key₁ e.1 = .eq → cmp₁ (asLeft e.2) e.1 = .eq
  | _ => True

variable {cmp₁ : K₁ → K₁ → Ordering} {cmp₂ : K₂ → K₂ → Ordering} {m m' : BiMap K₁ K₂}
  {M M' : Matching cmp₁ cmp₂} {key₁ : K₁} {key₂ : K₂}

/-- The sizes follow from the rest. -/
theorem mirrors_of_perm (hleft : m.left.WF cmp₁) (hright : m.right.WF cmp₂)
    (hl : m.left.toList.Perm M.pairs) (hr : m.right.toList.Perm (M.pairs.map Prod.swap)) :
    m.Mirrors M := by
  refine ⟨hleft, hright, hl, hr, ?_, ?_⟩
  · rw [hleft.size_eq, hl.length_eq]
  · rw [hright.size_eq, hr.length_eq, List.length_map]

/-- Each tree is the inverse of the other. -/
theorem Mirrors.mem_right (h : m.Mirrors M) :
    (key₂, key₁) ∈ m.right.toList ↔ (key₁, key₂) ∈ m.left.toList := by
  have hinv : (key₂, key₁) ∈ M.pairs.map Prod.swap ↔ (key₁, key₂) ∈ M.pairs :=
    List.mem_map_of_injective Prod.swap_injective (a := (key₁, key₂))
  rw [h.right_perm.mem_iff, h.left_perm.mem_iff, hinv]

theorem Mirrors.size_eq (h : m.Mirrors M) : m.size = some M.pairs.length := by
  rw [size, if_pos (h.left_size.trans h.right_size.symm), h.left_size]

theorem Mirrors.insert [Std.TransCmp cmp₁] [Std.TransCmp cmp₂] (h : m.Mirrors M)
    (hpairs : M'.pairs = (key₁, key₂) :: M.pairs) :
    (m.insert cmp₁ cmp₂ key₁ key₂).Mirrors M' := by
  refine mirrors_of_perm (h.left.insert key₁ key₂) (h.right.insert key₂ key₁) ?_ ?_
  · rw [hpairs]
    exact (AssocRbTree.perm_insert cmp₁ m.left key₁ key₂).trans (h.left_perm.cons _)
  · rw [hpairs]
    exact (AssocRbTree.perm_insert cmp₂ m.right key₂ key₁).trans (h.right_perm.cons _)

section Extract

variable [Std.TransCmp cmp₁] [Std.TransCmp cmp₂] {e : K₁ × K₂}

/-- The left tree gives up the pair of a left key. -/
theorem Mirrors.exists_left (h : m.Mirrors M) (he : e ∈ M.pairs) (hkey : cmp₁ key₁ e.1 = .eq) :
    ∃ t, m.left.extract cmp₁ key₁ = some (e.2, t) ∧ t.WF cmp₁ ∧
      m.left.toList.Perm (e :: t.toList) := by
  refine h.left.extract_unique (h.left_perm.mem_iff.2 he) hkey ?_
  intro d hd hdkey
  exact Matching.eq_of_left (h.left_perm.mem_iff.1 hd) he hdkey hkey

/-- The right tree gives up the pair of a right key. -/
theorem Mirrors.exists_right (h : m.Mirrors M) (he : e ∈ M.pairs) (hkey : cmp₂ key₂ e.2 = .eq) :
    ∃ t, m.right.extract cmp₂ key₂ = some (e.1, t) ∧ t.WF cmp₂ ∧
      m.right.toList.Perm (e.swap :: t.toList) := by
  have hmem : ∀ d : K₂ × K₁, d ∈ m.right.toList ↔ d.swap ∈ M.pairs := by
    intro d
    rw [← h.left_perm.mem_iff]
    exact h.mem_right
  refine h.right.extract_unique ((hmem e.swap).2 (e.swap_swap.symm ▸ he)) hkey ?_
  intro d hd hdkey
  have heq : d.swap = e := Matching.eq_of_right ((hmem d).1 hd) he hdkey hkey
  rw [← heq, Prod.swap_swap]

omit [Std.TransCmp cmp₂] in
/-- What is left of the two trees when both have given up the same pair. -/
theorem Mirrors.remove (h : m.Mirrors M) {left : AssocRbTree K₁ K₂} {right : AssocRbTree K₂ K₁}
    {p : K₁ × K₂ → Bool} (he : e ∈ M.pairs) (hp : ∀ d ∈ M.pairs, p d = false ↔ d = e)
    (hleft : left.WF cmp₁) (hright : right.WF cmp₂) (hl : m.left.toList.Perm (e :: left.toList))
    (hr : m.right.toList.Perm (e.swap :: right.toList)) :
    (⟨left, right⟩ : BiMap K₁ K₂).Mirrors (M.filter p) := by
  have hperm : M.pairs.Perm (e :: (M.filter p).pairs) := perm_cons_filter Matching.nodup he hp
  refine mirrors_of_perm hleft hright ?_ ?_
  · exact (hl.symm.trans (h.left_perm.trans hperm)).cons_inv
  · exact (hr.symm.trans (h.right_perm.trans (hperm.map Prod.swap))).cons_inv

theorem Mirrors.extractRight (h : m.Mirrors M) (he : e ∈ M.pairs) (hkey : cmp₂ key₂ e.2 = .eq) :
    ∃ m', m.extractRight cmp₁ cmp₂ key₂ = some (e.1, m') ∧
      m'.Mirrors (M.filter fun e => cmp₂ key₂ e.2 ≠ .eq) := by
  obtain ⟨right, hright, hrwf, hrperm⟩ := h.exists_right he hkey
  obtain ⟨left, hleft, hlwf, hlperm⟩ := h.exists_left he Std.ReflCmp.compare_self
  have hp : ∀ d ∈ M.pairs, decide (cmp₂ key₂ d.2 ≠ .eq) = false ↔ d = e := by
    intro d hd
    rw [decide_eq_false_iff_not, not_not]
    exact ⟨fun hdkey => Matching.eq_of_right hd he hdkey hkey, fun heq => heq ▸ hkey⟩
  have hm := h.remove he hp hlwf hrwf hlperm hrperm
  have hcond : cmp₂ key₂ e.2 = .eq ∧ left.size = right.size :=
    ⟨hkey, hm.left_size.trans hm.right_size.symm⟩
  refine ⟨⟨left, right⟩, ?_, hm⟩
  simp only [BiMap.extractRight, hright, hleft, Option.bind_some, if_pos hcond]

/-- `bi_map_extract_left` looks up the right pair, but then it asks for more. -/
theorem Mirrors.extractLeft (asLeft : K₂ → K₁) (h : m.Mirrors M) (he : e ∈ M.pairs)
    (hkey : cmp₁ key₁ e.1 = .eq) :
    ∃ m', m.extractLeft cmp₁ cmp₂ asLeft key₁ =
        (if cmp₁ (asLeft e.2) e.1 = .eq then some (e.2, m') else none) ∧
      m'.Mirrors (M.filter fun e => cmp₁ key₁ e.1 ≠ .eq) := by
  obtain ⟨left, hleft, hlwf, hlperm⟩ := h.exists_left he hkey
  obtain ⟨right, hright, hrwf, hrperm⟩ := h.exists_right he Std.ReflCmp.compare_self
  have hp : ∀ d ∈ M.pairs, decide (cmp₁ key₁ d.1 ≠ .eq) = false ↔ d = e := by
    intro d hd
    rw [decide_eq_false_iff_not, not_not]
    exact ⟨fun hdkey => Matching.eq_of_left hd he hdkey hkey, fun heq => heq ▸ hkey⟩
  have hm := h.remove he hp hlwf hrwf hlperm hrperm
  have hsize : left.size = right.size := hm.left_size.trans hm.right_size.symm
  refine ⟨⟨left, right⟩, ?_, hm⟩
  simp only [BiMap.extractLeft, hright, hleft, Option.bind_some, hsize, and_true]

end Extract

/-- One operation on the map and on the matching. -/
theorem simulates [Std.TransCmp cmp₁] [Std.TransCmp cmp₂] (asLeft : K₂ → K₁) :
    (machine cmp₁ cmp₂ asLeft).Simulates (Matching.machine cmp₁ cmp₂) Mirrors
      (LeftReadable asLeft) where
  init := mirrors_of_perm AssocRbTree.wf_init AssocRbTree.wf_init .nil .nil
  step := by
    intro m M op ans M' h hstep
    cases op with
    | insert key₁ key₂ =>
      obtain ⟨hfresh, heq⟩ := Option.dite_none_right_eq_some.1 hstep
      cases heq
      exact ⟨fun _ => trivial, fun _ => ⟨_, rfl, h.insert rfl⟩⟩
    | extractRight key₂ =>
      obtain ⟨e, hfind, heq⟩ := Option.map_eq_some_iff.1 hstep
      cases heq
      have hkey : cmp₂ key₂ e.2 = .eq := by simpa using List.find?_some hfind
      obtain ⟨m', hext, hm'⟩ := h.extractRight (List.mem_of_find?_eq_some hfind) hkey
      exact ⟨fun _ => trivial, fun _ => ⟨m', congrArg (Option.map _) hext, hm'⟩⟩
    | extractLeft key₁ =>
      obtain ⟨e, hfind, heq⟩ := Option.map_eq_some_iff.1 hstep
      cases heq
      have he := List.mem_of_find?_eq_some hfind
      have hkey : cmp₁ key₁ e.1 = .eq := by simpa using List.find?_some hfind
      obtain ⟨m', hext, hm'⟩ := h.extractLeft asLeft he hkey
      constructor
      · rintro ⟨_, hsome, -⟩ d hd hdkey
        cases Matching.eq_of_left hd he hdkey hkey
        obtain ⟨r, hr, -⟩ := Option.map_eq_some_iff.1 hsome
        exact (Option.ite_none_right_eq_some.1 (hext.symm.trans hr)).1
      · intro hread
        rw [if_pos (hread e he hkey)] at hext
        exact ⟨m', congrArg (Option.map _) hext, hm'⟩

/-- The bidirectional map does what a matching does exactly as long as every pair that is taken out
by its left key has a right key that passes for this left key. -/
theorem follows_iff_leftReadable [Std.TransCmp cmp₁] [Std.TransCmp cmp₂] (asLeft : K₂ → K₁)
    (ops : List (BiMapOp K₁ K₂)) :
    (machine cmp₁ cmp₂ asLeft).Follows (Matching.machine cmp₁ cmp₂) Mirrors init ⟨[], .nil⟩ ops ↔
      (Matching.machine cmp₁ cmp₂).Along (LeftReadable asLeft) ⟨[], .nil⟩ ops :=
  (simulates asLeft).follows_iff (simulates asLeft).init ops

/-- Numbers; of those on the right, the one in question passes for the one on the left. -/
theorem follows_iff_leftReadable_same :
    (machine (compare : ℕ → ℕ → Ordering) (compare : ℕ → ℕ → Ordering) id).Follows
      (Matching.machine compare compare) Mirrors init ⟨[], .nil⟩
      [.insert 4 4, .insert 5 6, .extractLeft 4, .extractRight 6] := by
  refine (follows_iff_leftReadable id _).2 fun ans₁ M₁ h₁ => ⟨trivial, ?_⟩
  cases h₁
  refine fun ans₂ M₂ h₂ => ⟨trivial, ?_⟩
  cases h₂
  have hread : ∀ e ∈ [((5 : ℕ), (6 : ℕ)), (4, 4)], compare 4 e.1 = .eq → compare e.2 e.1 = .eq := by
    decide
  exact fun ans₃ M₃ h₃ => ⟨hread, fun ans₄ M₄ h₄ => ⟨trivial, trivial⟩⟩

end BiMap

end FlexRic
