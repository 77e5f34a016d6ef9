import FlexRic.AlgDs.AssocRbTree
import Mathlib.Data.List.Nodup

/-!
# The bidirectional map (`util/alg_ds/ds/assoc_container/bimap.c`)

Two red-black trees over the same pairs: `left` is searched by the first component with the first
comparator, `right` by the second component with the second one. Nothing in the code keeps a key
unique: what the map does with equal keys depends on which of them the tree search meets.
-/

namespace FlexRic

universe u v

/-- `bi_map_t`. The two comparators are arguments of the operations. -/
structure BiMap (K₁ : Type u) (K₂ : Type v) : Type (max u v) where
  /-- key: the first component, value: the second one -/
  left : AssocRbTree K₁ K₂
  /-- key: the second component, value: the first one -/
  right : AssocRbTree K₂ K₁
  deriving Repr

namespace BiMap

variable {K₁ : Type u} {K₂ : Type v}

/-- `bi_map_init`. -/
def init : BiMap K₁ K₂ := ⟨.init, .init⟩

/-- `bi_map_insert`. -/
def insert (cmp₁ : K₁ → K₁ → Ordering) (cmp₂ : K₂ → K₂ → Ordering) (m : BiMap K₁ K₂)
    (key₁ : K₁) (key₂ : K₂) : BiMap K₁ K₂ :=
  ⟨m.left.insert cmp₁ key₁ key₂, m.right.insert cmp₂ key₂ key₁⟩

/-- `bi_map_extract_left`: the pair is looked up by its first component on the left and then by its
second component on the right. The assertion that follows hands the key found on the left, a right
key, to the comparator of the left keys: `asLeft` is what this comparator reads in the memory of a
right key. -/
def extractLeft (cmp₁ : K₁ → K₁ → Ordering) (cmp₂ : K₂ → K₂ → Ordering) (asLeft : K₂ → K₁)
    (m : BiMap K₁ K₂) (key₁ : K₁) : Option (K₂ × BiMap K₁ K₂) :=
  (m.left.extract cmp₁ key₁).bind fun (key₂, left) =>
    (m.right.extract cmp₂ key₂).bind fun (key₃, right) =>
      if cmp₁ (asLeft key₂) key₃ = .eq ∧ left.size = right.size then some (key₂, ⟨left, right⟩)
      else none

/-- `bi_map_extract_right`: the pair is looked up by its second component on the right and then by
its first component on the left. It asserts that the key found on the left compares equal to the
one asked for and that the two trees have the same size. -/
def extractRight (cmp₁ : K₁ → K₁ → Ordering) (cmp₂ : K₂ → K₂ → Ordering) (m : BiMap K₁ K₂)
    (key₂ : K₂) : Option (K₁ × BiMap K₁ K₂) :=
  (m.right.extract cmp₂ key₂).bind fun (key₁, right) =>
    (m.left.extract cmp₁ key₁).bind fun (key₃, left) =>
      if cmp₂ key₂ key₃ = .eq ∧ left.size = right.size then some (key₁, ⟨left, right⟩) else none

/-- `bi_map_size`; it asserts that the two trees have the same size. -/
def size (m : BiMap K₁ K₂) : Option ℕ :=
  if m.left.size = m.right.size then some m.left.size else none

/-- The pairs, in the order of the left tree. -/
def toList (m : BiMap K₁ K₂) : List (K₁ × K₂) := m.left.toList

/-- What the operations keep: both trees are well formed and hold the same pairs. -/
structure WF (cmp₁ : K₁ → K₁ → Ordering) (cmp₂ : K₂ → K₂ → Ordering) (m : BiMap K₁ K₂) :
    Prop where
  /-- the left tree is well formed -/
  left : m.left.WF cmp₁
  /-- the right tree is well formed -/
  right : m.right.WF cmp₂
  /-- both hold the same pairs -/
  swap_perm : (m.right.toList.map Prod.swap).Perm m.toList

variable {cmp₁ : K₁ → K₁ → Ordering} {cmp₂ : K₂ → K₂ → Ordering} {m m' : BiMap K₁ K₂}
  {key₁ : K₁} {key₂ : K₂}

@[simp] theorem toList_init : (init : BiMap K₁ K₂).toList = [] := rfl

theorem wf_init : (init : BiMap K₁ K₂).WF cmp₁ cmp₂ :=
  ⟨AssocRbTree.wf_init, AssocRbTree.wf_init, .refl _⟩

theorem WF.length_eq (h : m.WF cmp₁ cmp₂) : m.right.toList.length = m.toList.length := by
  rw [← h.swap_perm.length_eq, List.length_map]

/-- A well-formed map has a size, and it counts the pairs. -/
theorem WF.size_eq (h : m.WF cmp₁ cmp₂) : m.size = some m.toList.length := by
  have hl := h.left.size_eq
  have hr := h.right.size_eq
  rw [h.length_eq] at hr
  rw [size, if_pos (hl.trans hr.symm), hl]
  rfl

theorem WF.mem_right (h : m.WF cmp₁ cmp₂) :
    (key₂, key₁) ∈ m.right.toList ↔ (key₁, key₂) ∈ m.toList := by
  rw [← h.swap_perm.mem_iff, List.mem_map]
  constructor
  · intro hmem
    exact ⟨_, hmem, rfl⟩
  · rintro ⟨⟨a, b⟩, hmem, heq⟩
    cases heq
    exact hmem

theorem perm_insert (cmp₁ : K₁ → K₁ → Ordering) (cmp₂ : K₂ → K₂ → Ordering) (m : BiMap K₁ K₂)
    (key₁ : K₁) (key₂ : K₂) :
    (m.insert cmp₁ cmp₂ key₁ key₂).toList.Perm ((key₁, key₂) :: m.toList) :=
  AssocRbTree.perm_insert cmp₁ m.left key₁ key₂

@[simp] theorem mem_insert {e : K₁ × K₂} :
    e ∈ (m.insert cmp₁ cmp₂ key₁ key₂).toList ↔ e = (key₁, key₂) ∨ e ∈ m.toList :=
  AssocRbTree.mem_insert

theorem WF.insert [Std.TransCmp cmp₁] [Std.TransCmp cmp₂] (h : m.WF cmp₁ cmp₂) (key₁ : K₁)
    (key₂ : K₂) : (m.insert cmp₁ cmp₂ key₁ key₂).WF cmp₁ cmp₂ := by
  refine ⟨h.left.insert key₁ key₂, h.right.insert key₂ key₁, ?_⟩
  have hr := (AssocRbTree.perm_insert cmp₂ m.right key₂ key₁).map Prod.swap
  exact hr.trans ((h.swap_perm.cons _).trans (perm_insert cmp₁ cmp₂ m key₁ key₂).symm)

theorem WF.insert_on [Std.OrientedCmp cmp₁] [Std.TransCmp cmp₂] {S : K₁ → Prop}
    (htrans : TransOn cmp₁ S) (h : m.WF cmp₁ cmp₂) (hS : ∀ e ∈ m.toList, S e.1) (hkey : S key₁)
    (key₂ : K₂) : (m.insert cmp₁ cmp₂ key₁ key₂).WF cmp₁ cmp₂ := by
  refine ⟨h.left.insert_on htrans hS hkey key₂, h.right.insert key₂ key₁, ?_⟩
  have hr := (AssocRbTree.perm_insert cmp₂ m.right key₂ key₁).map Prod.swap
  exact hr.trans ((h.swap_perm.cons _).trans (perm_insert cmp₁ cmp₂ m key₁ key₂).symm)

/-- What `bi_map_extract_right` did when it returns. -/
theorem extractRight_eq_some (h : m.extractRight cmp₁ cmp₂ key₂ = some (key₁, m')) :
    ∃ key₃, m.right.extract cmp₂ key₂ = some (key₁, m'.right) ∧
      m.left.extract cmp₁ key₁ = some (key₃, m'.left) ∧ cmp₂ key₂ key₃ = .eq := by
  obtain ⟨⟨k₁, right⟩, hright, h⟩ := Option.bind_eq_some_iff.1 h
  obtain ⟨⟨k₃, left⟩, hleft, h⟩ := Option.bind_eq_some_iff.1 h
  obtain ⟨hcond, heq⟩ := Option.ite_none_right_eq_some.1 h
  cases heq
  exact ⟨k₃, hright, hleft, hcond.1⟩

/-- In a map whose first components are pairwise different, `bi_map_extract_right` takes out one
pair whose second component compares equal to the key. -/
theorem WF.extractRight_spec [Std.LawfulEqCmp cmp₁] (h : m.WF cmp₁ cmp₂)
    (hnodup : (m.toList.map Prod.fst).Nodup)
    (hext : m.extractRight cmp₁ cmp₂ key₂ = some (key₁, m')) :
    m'.WF cmp₁ cmp₂ ∧
      ∃ key₃, cmp₂ key₂ key₃ = .eq ∧ m.toList.Perm ((key₁, key₃) :: m'.toList) := by
  obtain ⟨key₃, hright, hleft, hcmp⟩ := extractRight_eq_some hext
  obtain ⟨k₂, hk₂, hpermr⟩ := AssocRbTree.perm_extract hright
  obtain ⟨k₁, hk₁, hperml⟩ := AssocRbTree.perm_extract hleft
  cases Std.LawfulEqCmp.eq_of_compare hk₁
  -- both trees give up the same pair, since its first component is in only one pair
  have hmem : (key₁, k₂) ∈ m.toList := h.mem_right.1 (hpermr.mem_iff.2 List.mem_cons_self)
  have heq : k₂ = key₃ := by
    have hmem' : (key₁, key₃) ∈ m.toList := hperml.mem_iff.2 List.mem_cons_self
    have hpair := List.inj_on_of_nodup_map hnodup hmem hmem' rfl
    exact congrArg Prod.snd hpair
  subst heq
  refine ⟨⟨h.left.extract hleft, h.right.extract hright, ?_⟩, k₂, hcmp, hperml⟩
  have hswap := hpermr.map Prod.swap
  exact List.Perm.cons_inv (hswap.symm.trans (h.swap_perm.trans hperml))

/-- In a map whose first components are pairwise different, `bi_map_extract_right` succeeds as
soon as the key compares equal to some second component. -/
theorem WF.extractRight_isSome [Std.TransCmp cmp₁] [Std.LawfulEqCmp cmp₁] [Std.TransCmp cmp₂]
    (h : m.WF cmp₁ cmp₂) (hnodup : (m.toList.map Prod.fst).Nodup) {e : K₁ × K₂}
    (he : e ∈ m.toList) (hcmp : cmp₂ key₂ e.2 = .eq) :
    ∃ key₁ m', m.extractRight cmp₁ cmp₂ key₂ = some (key₁, m') := by
  obtain ⟨key₁, right, hright⟩ := h.right.extract_isSome (h.mem_right.2 he) hcmp
  obtain ⟨k₂, hk₂, hpermr⟩ := AssocRbTree.perm_extract hright
  have hmem : (key₁, k₂) ∈ m.toList := h.mem_right.1 (hpermr.mem_iff.2 List.mem_cons_self)
  obtain ⟨left, hleft, hperml⟩ := h.left.extract_of_mem hnodup hmem
  have hsize : left.size = right.size := by
    have hl := (AssocRbTree.toList_extract hleft).1
    have hr := (AssocRbTree.toList_extract hright).1
    have := h.left.size_eq
    have := h.right.size_eq
    have := h.length_eq
    have : m.toList = m.left.toList := rfl
    simp only [toList] at *
    omega
  refine ⟨key₁, ⟨left, right⟩, ?_⟩
  simp only [extractRight, hright, hleft, Option.bind_some, if_pos (And.intro hk₂ hsize)]

/-- With second components that the comparator tells apart, `bi_map_extract_right` takes out
exactly the pair asked for. -/
theorem WF.extractRight_of_mem [Std.TransCmp cmp₁] [Std.LawfulEqCmp cmp₁] [Std.TransCmp cmp₂]
    (h : m.WF cmp₁ cmp₂) (hnodup : (m.toList.map Prod.fst).Nodup)
    (hunique : ∀ e ∈ m.toList, cmp₂ key₂ e.2 = .eq → e = (key₁, key₂))
    (he : (key₁, key₂) ∈ m.toList) :
    ∃ m', m.extractRight cmp₁ cmp₂ key₂ = some (key₁, m') ∧ m'.WF cmp₁ cmp₂ ∧
      m.toList.Perm ((key₁, key₂) :: m'.toList) := by
  obtain ⟨k₁, m', hext⟩ := h.extractRight_isSome hnodup he Std.ReflCmp.compare_self
  obtain ⟨hwf, key₃, hcmp, hperm⟩ := h.extractRight_spec hnodup hext
  have heq := hunique _ (hperm.mem_iff.2 List.mem_cons_self) hcmp
  cases heq
  exact ⟨m', hext, hwf, hperm⟩

/-- The same if the first comparator is transitive on the first components and tells them apart. -/
theorem WF.extractRight_of_mem_on [Std.OrientedCmp cmp₁] [Std.TransCmp cmp₂] {S : K₁ → Prop}
    (htrans : TransOn cmp₁ S) (h : m.WF cmp₁ cmp₂) (hS : ∀ e ∈ m.toList, S e.1)
    (hdistinct : ∀ d ∈ m.toList, ∀ e ∈ m.toList, cmp₁ d.1 e.1 = .eq → d = e)
    (hunique : ∀ e ∈ m.toList, cmp₂ key₂ e.2 = .eq → e = (key₁, key₂))
    (he : (key₁, key₂) ∈ m.toList) :
    ∃ m', m.extractRight cmp₁ cmp₂ key₂ = some (key₁, m') ∧ m'.WF cmp₁ cmp₂ ∧
      m.toList.Perm ((key₁, key₂) :: m'.toList) := by
  obtain ⟨k₁, right, hright⟩ := h.right.extract_isSome (h.mem_right.2 he) Std.ReflCmp.compare_self
  obtain ⟨k₂, hk₂, hpermr⟩ := AssocRbTree.perm_extract hright
  have hmem : (k₁, k₂) ∈ m.toList := h.mem_right.1 (hpermr.mem_iff.2 List.mem_cons_self)
  cases hunique _ hmem hk₂
  obtain ⟨k₃, left, hleft⟩ :=
    h.left.extract_isSome_on htrans hS (hS _ he) he Std.ReflCmp.compare_self
  obtain ⟨k, hk, hperml⟩ := AssocRbTree.perm_extract hleft
  cases hdistinct _ he _ (hperml.mem_iff.2 List.mem_cons_self) hk
  have hsize : left.size = right.size := by
    have hl := (AssocRbTree.toList_extract hleft).1
    have hr := (AssocRbTree.toList_extract hright).1
    have hlen := h.length_eq
    rw [h.left.size_eq] at hl
    rw [h.right.size_eq] at hr
    simp only [toList] at hlen
    omega
  have hcond : cmp₂ key₂ key₂ = .eq ∧ left.size = right.size :=
    ⟨Std.ReflCmp.compare_self, hsize⟩
  refine ⟨⟨left, right⟩, ?_, ⟨h.left.extract hleft, h.right.extract hright, ?_⟩, hperml⟩
  · simp only [extractRight, hright, hleft, Option.bind_some, if_pos hcond]
  · have hswap := hpermr.map Prod.swap
    exact List.Perm.cons_inv (hswap.symm.trans (h.swap_perm.trans hperml))

/-- The only pair of a map can be taken out. -/
theorem WF.extractRight_singleton [Std.TransCmp cmp₁] [Std.LawfulEqCmp cmp₁] [Std.TransCmp cmp₂]
    (h : m.WF cmp₁ cmp₂) (hlist : m.toList = [(key₁, key₂)]) :
    ∃ m', m.extractRight cmp₁ cmp₂ key₂ = some (key₁, m') ∧ m'.WF cmp₁ cmp₂ ∧ m'.toList = [] := by
  obtain ⟨m', hext, hwf, hperm⟩ := h.extractRight_of_mem (by simp [hlist])
    (fun e he _ => List.mem_singleton.1 (hlist ▸ he)) (by simp [hlist])
  refine ⟨m', hext, hwf, ?_⟩
  rw [hlist] at hperm
  exact List.perm_nil.1 hperm.cons_inv.symm

/-- An empty map has nothing to take out. -/
theorem WF.extractRight_eq_none (h : m.WF cmp₁ cmp₂) (hlist : m.toList = []) :
    m.extractRight cmp₁ cmp₂ key₂ = none := by
  apply Option.eq_none_iff_forall_ne_some.2
  rintro ⟨k₁, m'⟩ hext
  obtain ⟨k₃, hright, -, -⟩ := extractRight_eq_some hext
  obtain ⟨k₂, -, hperm⟩ := AssocRbTree.perm_extract hright
  have hmem : (k₁, k₂) ∈ m.toList := h.mem_right.1 (hperm.mem_iff.2 List.mem_cons_self)
  rw [hlist] at hmem
  cases hmem

/-- `bi_map_extract_right` sees its key through the comparator only. -/
theorem WF.extractRight_congr [Std.TransCmp cmp₂] {key key' : K₂} (h : cmp₂ key key' = .eq) :
    m.extractRight cmp₁ cmp₂ key = m.extractRight cmp₁ cmp₂ key' := by
  have hcongr : ∀ k, cmp₂ key k = cmp₂ key' k := fun k => Std.TransCmp.congr_left h
  simp only [extractRight, AssocRbTree.extract_congr hcongr, hcongr]

end BiMap

end FlexRic
