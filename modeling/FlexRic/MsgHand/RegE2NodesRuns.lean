import FlexRic.E2ap.NodeOrder
import FlexRic.MsgHand.RegE2Nodes
import FlexRic.Semantics.Refinement
import Mathlib.Data.List.Pairwise

/-!
# What the registry of the E2 nodes is for

The registry is to hold the nodes that were added and not removed, with their RAN functions. It
does so in every order of additions and removals exactly if its comparator orders the nodes.
-/

namespace FlexRic

variable {N : GlobalE2NodeId → Prop}

/-- The operations on a registry of nodes that are in `N`. -/
inductive RegE2NodesOp (N : GlobalE2NodeId → Prop) : Type where
  /-- `add_reg_e2_node` -/
  | add (id : { id // N id }) (ranFunc : List RanFunction) : RegE2NodesOp N
  /-- `rm_reg_e2_node` -/
  | rm (id : { id // N id }) : RegE2NodesOp N

/-- Two entries of different nodes. -/
def ApartNodes (d e : { id // N id } × List RanFunction) : Prop :=
  eqGlobalE2NodeId d.1 e.1 = false

instance (d e : { id // N id } × List RanFunction) : Decidable (ApartNodes d e) :=
  inferInstanceAs (Decidable (_ = _))

/-- The nodes that were added and not removed, each with its RAN functions. -/
structure AddedNodes (N : GlobalE2NodeId → Prop) : Type where
  nodes : List ({ id // N id } × List RanFunction)
  /-- no node is there twice -/
  distinct : nodes.Pairwise ApartNodes

namespace AddedNodes

/-- A node with RAN functions may be added if it is not there, and a node that is there may be
removed: its RAN functions are freed, and all other nodes stay. -/
def step (A : AddedNodes N) : RegE2NodesOp N → Option (Option (List RanFunction) × AddedNodes N)
  | .add id ranFunc =>
    if h : ranFunc ≠ [] ∧ ∀ e ∈ A.nodes, ApartNodes (id, ranFunc) e then
      some (none, ⟨(id, ranFunc) :: A.nodes, List.pairwise_cons.2 ⟨h.2, A.distinct⟩⟩)
    else none
  | .rm id =>
    (A.nodes.find? fun e => e.1 = id).map fun e =>
      (some e.2, ⟨A.nodes.filter fun e => e.1 ≠ id, A.distinct.filter _⟩)

/-- The sets of nodes as a machine, from the empty one on. -/
def machine (N : GlobalE2NodeId → Prop) :
    Machine (AddedNodes N) (RegE2NodesOp N) (Option (List RanFunction)) :=
  ⟨⟨[], .nil⟩, step⟩

variable {A : AddedNodes N} {d e : { id // N id } × List RanFunction}

theorem step_add (A : AddedNodes N) (id : { id // N id }) {ranFunc : List RanFunction}
    (hrf : ranFunc ≠ []) (hnew : ∀ e ∈ A.nodes, eqGlobalE2NodeId id e.1 = false) :
    ∃ A', (machine N).step A (.add id ranFunc) = some (none, A') ∧
      A'.nodes = (id, ranFunc) :: A.nodes :=
  ⟨_, dif_pos ⟨hrf, hnew⟩, rfl⟩

theorem step_rm (he : e ∈ A.nodes) :
    ∃ ranFunc A', (machine N).step A (.rm e.1) = some (some ranFunc, A') ∧
      A'.nodes = A.nodes.filter fun d => d.1 ≠ e.1 := by
  obtain ⟨d, hd⟩ := Option.isSome_iff_exists.1
    (List.find?_isSome.2 ⟨e, he, decide_eq_true rfl⟩ : (A.nodes.find? fun d => d.1 = e.1).isSome)
  refine ⟨d.2, ⟨_, A.distinct.filter _⟩, ?_, rfl⟩
  simp only [machine, step, hd, Option.map_some]

theorem apart (hd : d ∈ A.nodes) (he : e ∈ A.nodes) (hne : d ≠ e) : ApartNodes d e := by
  have : Std.Symm (ApartNodes (N := N)) := ⟨fun d e hde => by
    rw [ApartNodes, eqGlobalE2NodeId_comm]
    exact hde⟩
  exact A.distinct.forall hd he hne

theorem nodup (hN : ∀ id, N id → id.WellFormed) : A.nodes.Nodup := by
  refine A.distinct.imp ?_
  rintro d _ hapart rfl
  have hid := hN d.1 d.1.2
  rw [ApartNodes, (hid.cmp_eq_iff hid).1 Std.ReflCmp.compare_self] at hapart
  cases hapart

end AddedNodes

namespace RegE2Nodes

/-- The operations as the code computes them; the answer is what is freed. -/
def step (n : RegE2Nodes) :
    RegE2NodesOp N → Option (Option (List RanFunction) × RegE2Nodes)
  | .add id ranFunc => (n.add id ranFunc).map fun n => (none, n)
  | .rm id => (n.rmFreed id).map fun (arr, n) => (some arr, n)

/-- The registry as a machine, from `init_reg_e2_node` on. -/
def machine (N : GlobalE2NodeId → Prop) :
    Machine RegE2Nodes (RegE2NodesOp N) (Option (List RanFunction)) :=
  ⟨init, step⟩

/-- The tree is in order and holds exactly these nodes with these RAN functions, and the number of
nodes that is reported counts them. -/
structure Registers (n : RegE2Nodes) (A : AddedNodes N) : Prop where
  tree : n.nodeToRf.WF cmpGlobalE2NodeId
  perm : n.nodeToRf.toList.Perm (A.nodes.map fun e => (e.1.1, e.2))
  size : n.size = A.nodes.length

variable {n : RegE2Nodes} {A : AddedNodes N} {id : { id // N id }} {ranFunc : List RanFunction}

theorem registers_of_perm (htree : n.nodeToRf.WF cmpGlobalE2NodeId)
    (hperm : n.nodeToRf.toList.Perm (A.nodes.map fun e => (e.1.1, e.2))) : n.Registers A := by
  refine ⟨htree, hperm, ?_⟩
  rw [RegE2Nodes.size, htree.size_eq, hperm.length_eq, List.length_map]

/-- The nodes of the registry are in `N`. -/
theorem Registers.mem (h : n.Registers A) : ∀ e ∈ n.nodeToRf.toList, N e.1 := by
  intro e he
  obtain ⟨d, -, rfl⟩ := List.mem_map.1 (h.perm.mem_iff.1 he)
  exact d.1.2

/-- A node that may be added is added. -/
theorem Registers.add (htrans : TransOn cmpGlobalE2NodeId N) (h : n.Registers A)
    (hrf : ranFunc ≠ []) (hnew : ∀ e ∈ A.nodes, ApartNodes (id, ranFunc) e) :
    ∃ n', n.add id ranFunc = some n' ∧
      ∀ A' : AddedNodes N, A'.nodes = (id, ranFunc) :: A.nodes → n'.Registers A' := by
  have hnew' : ∀ e ∈ n.nodeToRf.toList, eqGlobalE2NodeId id e.1 = false := by
    intro e he
    obtain ⟨d, hd, rfl⟩ := List.mem_map.1 (h.perm.mem_iff.1 he)
    exact hnew d hd
  refine ⟨_, add_eq_some.2 ⟨⟨hrf, hnew'⟩, rfl⟩, fun A' hnodes =>
    registers_of_perm (h.tree.insert_on htrans h.mem id.2 ranFunc) ?_⟩
  rw [hnodes]
  exact (AssocRbTree.perm_insert cmpGlobalE2NodeId n.nodeToRf id ranFunc).trans (h.perm.cons _)

/-- A node that is there is found by the equality, and the comparator finds the same one. -/
theorem Registers.rmFreed (hN : ∀ id, N id → id.WellFormed)
    (htrans : TransOn cmpGlobalE2NodeId N) (h : n.Registers A) (he : (id, ranFunc) ∈ A.nodes) :
    ∃ n', n.rmFreed id = some (ranFunc, n') ∧
      ∀ A' : AddedNodes N, A'.nodes = (A.nodes.filter fun e => e.1 ≠ id) → n'.Registers A' := by
  have hid := hN id id.2
  have hmem : ((id : GlobalE2NodeId), ranFunc) ∈ n.nodeToRf.toList :=
    h.perm.mem_iff.2 (List.mem_map_of_mem he)
  have hself : eqGlobalE2NodeId id id = true := (hid.cmp_eq_iff hid).1 Std.ReflCmp.compare_self
  have hfind : (n.nodeToRf.findIf (eqGlobalE2NodeId id)).isSome :=
    AssocRbTree.findIf_isSome.2 ⟨_, hmem, hself⟩
  have hunique : ∀ d ∈ n.nodeToRf.toList, cmpGlobalE2NodeId id d.1 = .eq →
      d = ((id : GlobalE2NodeId), ranFunc) := by
    intro d hd hcmp
    obtain ⟨d, hdA, rfl⟩ := List.mem_map.1 (h.perm.mem_iff.1 hd)
    by_contra hne
    have hapart := A.apart he hdA fun heq => hne (heq ▸ rfl)
    rw [ApartNodes, (hid.cmp_eq_iff (hN _ d.1.2)).1 hcmp] at hapart
    cases hapart
  have hfilter : A.nodes.Perm ((id, ranFunc) :: A.nodes.filter fun e => e.1 ≠ id) := by
    refine perm_cons_filter (AddedNodes.nodup hN) he ?_
    intro d hd
    rw [decide_eq_false_iff_not, not_not]
    refine ⟨fun heq => ?_, fun heq => heq ▸ rfl⟩
    by_contra hne
    have hapart := A.apart hd he hne
    rw [ApartNodes, heq, hself] at hapart
    cases hapart
  obtain ⟨t, hext, htree, hperm⟩ :=
    h.tree.extract_unique_on htrans h.mem id.2 hmem Std.ReflCmp.compare_self hunique
  refine ⟨⟨t⟩, ?_, fun A' hnodes => registers_of_perm htree ?_⟩
  · rw [RegE2Nodes.rmFreed, if_pos hfind, hext]
    rfl
  · rw [hnodes]
    exact (hperm.symm.trans (h.perm.trans (hfilter.map _))).cons_inv

theorem step_add_eq_some {n' : RegE2Nodes} {ans : Option (List RanFunction)}
    (h : (machine N).step n (.add id ranFunc) = some (ans, n')) :
    n'.nodeToRf = n.nodeToRf.insert cmpGlobalE2NodeId id ranFunc := by
  obtain ⟨n₁, hadd, heq⟩ := Option.map_eq_some_iff.1 h
  cases heq
  rw [(add_eq_some.1 hadd).2]

theorem step_rm_eq_some {n' : RegE2Nodes} {ans : Option (List RanFunction)}
    (h : (machine N).step n (.rm id) = some (ans, n')) :
    ∃ arr, n.nodeToRf.extract cmpGlobalE2NodeId id = some (arr, n'.nodeToRf) := by
  obtain ⟨⟨arr, n₁⟩, hrm, heq⟩ := Option.map_eq_some_iff.1 h
  cases heq
  obtain ⟨-, hrm⟩ := Option.ite_none_right_eq_some.1 hrm
  obtain ⟨⟨arr', t⟩, hext, heq⟩ := Option.map_eq_some_iff.1 hrm
  cases heq
  exact ⟨arr, hext⟩

/-- If the comparator orders the nodes, the registry does what it is for. -/
theorem simulates (hN : ∀ id, N id → id.WellFormed) (htrans : TransOn cmpGlobalE2NodeId N) :
    (machine N).Simulates (AddedNodes.machine N) Registers fun _ _ => True where
  init := registers_of_perm AssocRbTree.wf_init .nil
  step := by
    intro n A op ans A' h hstep
    refine ⟨fun _ => trivial, fun _ => ?_⟩
    cases op with
    | add id ranFunc =>
      obtain ⟨⟨hrf, hnew⟩, heq⟩ := Option.dite_none_right_eq_some.1 hstep
      cases heq
      obtain ⟨n', hadd, hn'⟩ := h.add htrans hrf hnew
      exact ⟨n', congrArg (Option.map _) hadd, hn' _ rfl⟩
    | rm id =>
      obtain ⟨⟨id', ranFunc⟩, hfind, heq⟩ := Option.map_eq_some_iff.1 hstep
      cases heq
      have hid : id' = id := by simpa using List.find?_some hfind
      subst hid
      obtain ⟨n', hrm, hn'⟩ := h.rmFreed hN htrans (List.mem_of_find?_eq_some hfind)
      exact ⟨n', congrArg (Option.map _) hrm, hn' _ rfl⟩

/-- Three nodes in a circle: when all of them were added and the first one was removed, the third
one cannot be removed. -/
theorem not_follows_of_circle (hN : ∀ id, N id → id.WellFormed) {x y z : { id // N id }}
    (hxy : cmpGlobalE2NodeId x y = .lt) (hyz : cmpGlobalE2NodeId y z = .lt)
    (hzx : cmpGlobalE2NodeId z x = .lt) (hrf : ranFunc ≠ []) :
    ¬(machine N).Follows (AddedNodes.machine N) Registers init ⟨[], .nil⟩
      [.add x ranFunc, .add y ranFunc, .add z ranFunc, .rm x, .rm z] := by
  have hne : ∀ {a b : { id // N id }}, cmpGlobalE2NodeId a b = .lt →
      eqGlobalE2NodeId a b = false := by
    intro a b hab
    refine Bool.eq_false_iff.2 fun heq => ?_
    rw [((hN a a.2).cmp_eq_iff (hN b b.2)).2 heq] at hab
    cases hab
  have hyx : eqGlobalE2NodeId y x = false := eqGlobalE2NodeId_comm y x ▸ hne hxy
  have hzy : eqGlobalE2NodeId z y = false := eqGlobalE2NodeId_comm z y ▸ hne hyz
  intro hfollows
  -- the specification takes all of these operations
  obtain ⟨A₁, hA₁, hn₁⟩ := AddedNodes.step_add (⟨[], .nil⟩ : AddedNodes N) x hrf nofun
  obtain ⟨A₂, hA₂, hn₂⟩ := A₁.step_add y hrf (by simpa [hn₁] using hyx)
  obtain ⟨A₃, hA₃, hn₃⟩ := A₂.step_add z hrf (by simpa [hn₁, hn₂] using ⟨hzy, hne hzx⟩)
  obtain ⟨r₄, A₄, hA₄, hn₄⟩ := AddedNodes.step_rm (A := A₃) (e := (x, ranFunc))
    (by simp [hn₁, hn₂, hn₃])
  have hzx' : z ≠ x := by
    rintro rfl
    rw [(Std.ReflCmp.compare_self : cmpGlobalE2NodeId z z = .eq)] at hzx
    cases hzx
  obtain ⟨r₅, A₅, hA₅, -⟩ := AddedNodes.step_rm (A := A₄) (e := (z, ranFunc))
    (by simp [hn₁, hn₂, hn₃, hn₄, hzx'])
  -- so the registry would have to take them
  obtain ⟨n₁, h₁, -, hfollows⟩ := hfollows.2 _ _ hA₁
  obtain ⟨n₂, h₂, -, hfollows⟩ := hfollows _ _ hA₂
  obtain ⟨n₃, h₃, -, hfollows⟩ := hfollows _ _ hA₃
  obtain ⟨n₄, h₄, -, hfollows⟩ := hfollows _ _ hA₄
  obtain ⟨n₅, h₅, -⟩ := hfollows _ _ hA₅
  obtain ⟨t, hfirst, hthird⟩ := AssocRbTree.extract_of_circle hxy hyz hzx ranFunc ranFunc ranFunc
  obtain ⟨arr₄, hext₄⟩ := step_rm_eq_some h₄
  obtain ⟨arr₅, hext₅⟩ := step_rm_eq_some h₅
  have hinit : init.nodeToRf = .init := rfl
  rw [step_add_eq_some h₃, step_add_eq_some h₂, step_add_eq_some h₁, hinit, hfirst] at hext₄
  have ht : t = n₄.nodeToRf := congrArg Prod.snd (Option.some.inj hext₄)
  rw [← ht, hthird] at hext₅
  cases hext₅

/-- Nodes that are pairwise different: for every sequence of additions and removals the registry
holds the nodes that were added and not removed, exactly if no node gets between two others of
another kind whose types are the other way round. -/
theorem follows_iff_not_straddled (hN : ∀ id, N id → id.WellFormed)
    (hdiff : ∀ a b, N a → N b → eqGlobalE2NodeId a b = true → a = b) :
    (∀ ops, (machine N).Follows (AddedNodes.machine N) Registers init ⟨[], .nil⟩ ops) ↔
      ∀ x y z, N x → N y → N z → ¬GlobalE2NodeId.Straddled x y z := by
  constructor
  · rintro hfollows x y z hx hy hz hstraddled
    obtain ⟨hxy, hyz, hzx⟩ := hstraddled.circle
    have hne : ∀ {a b}, N a → N b → a ≠ b → (cmpGlobalE2NodeId a b).isLE →
        cmpGlobalE2NodeId a b = .lt := by
      intro a b ha hb hab hle
      cases hcmp : cmpGlobalE2NodeId a b with
      | lt => rfl
      | eq => exact absurd (hdiff a b ha hb (((hN a ha).cmp_eq_iff (hN b hb)).1 hcmp)) hab
      | gt =>
        rw [hcmp] at hle
        cases hle
    obtain ⟨hzny, hznx⟩ := hstraddled.ne
    exact not_follows_of_circle (x := ⟨x, hx⟩) (y := ⟨y, hy⟩) (z := ⟨z, hz⟩) hN hxy
      (hne hy hz hzny.symm hyz) (hne hz hx hznx hzx) (List.cons_ne_nil ⟨[], 0, 0, none⟩ [])
      (hfollows _)
  · intro hno ops
    have hsim := simulates hN (GlobalE2NodeId.transOn_iff.2 hno)
    refine (hsim.follows_iff hsim.init ops).2 ?_
    exact Machine.along_true _ _

/-- A registry of one gNB, which is added, removed and added again. -/
theorem follows_iff_not_straddled_gNB :
    (machine fun id => id = ⟨.gNB, ⟨208, 95, 2⟩, 15, none⟩).Follows (AddedNodes.machine _) Registers
      init ⟨[], .nil⟩ [.add ⟨_, rfl⟩ [⟨[], 142, 0, none⟩], .rm ⟨_, rfl⟩,
        .add ⟨_, rfl⟩ [⟨[], 143, 0, none⟩]] := by
  refine (follows_iff_not_straddled ?_ ?_).2 ?_ _
  · rintro _ rfl hsplit
    cases hsplit
  · rintro _ _ rfl rfl -
    rfl
  · rintro _ _ _ rfl rfl rfl hstraddled
    exact hstraddled.ne.1 rfl

/-- A DU with the `nb_id` 9, a CU with the `nb_id` 20, and a gNB between them: when the gNB has been
removed, the CU is not found. -/
theorem not_follows_gNB :
    ∃ (N : GlobalE2NodeId → Prop) (gnb du cu : { id // N id }) (ranFunc : List RanFunction),
      (gnb : GlobalE2NodeId) = ⟨.gNB, ⟨208, 95, 2⟩, 15, none⟩ ∧
      (du : GlobalE2NodeId) = ⟨.gNBDU, ⟨208, 95, 2⟩, 9, some 1⟩ ∧
      (cu : GlobalE2NodeId) = ⟨.gNBCU, ⟨208, 95, 2⟩, 20, some 1⟩ ∧
      (∀ id, N id → id.WellFormed) ∧
      (∀ a b, N a → N b → eqGlobalE2NodeId a b = true → a = b) ∧
      ¬(machine N).Follows (AddedNodes.machine N) Registers init ⟨[], .nil⟩
        [.add gnb ranFunc, .add du ranFunc, .add cu ranFunc, .rm gnb, .rm cu] := by
  let nodes : List GlobalE2NodeId := [⟨.gNB, ⟨208, 95, 2⟩, 15, none⟩,
    ⟨.gNBDU, ⟨208, 95, 2⟩, 9, some 1⟩, ⟨.gNBCU, ⟨208, 95, 2⟩, 20, some 1⟩]
  have hdiff : ∀ a ∈ nodes, ∀ b ∈ nodes, eqGlobalE2NodeId a b = true → a = b := by decide
  have hwf : ∀ id ∈ nodes, (id.type.isCU || id.type.isDU) = true → id.cuDuId.isSome := by decide
  exact ⟨(· ∈ nodes), ⟨_, .head _⟩, ⟨_, .tail _ (.head _)⟩, ⟨_, .tail _ (.tail _ (.head _))⟩,
    [⟨[], 142, 0, none⟩], rfl, rfl, rfl, hwf, fun a b ha hb => hdiff a ha b hb,
    not_follows_of_circle hwf (by decide) (by decide) (by decide) (List.cons_ne_nil _ _)⟩

end RegE2Nodes

end FlexRic
