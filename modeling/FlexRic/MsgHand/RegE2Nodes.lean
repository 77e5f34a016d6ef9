import FlexRic.AlgDs.AssocRbTree
import FlexRic.E2ap.Types

/-!
# The registered E2 nodes (`lib/msg_hand/reg_e2_nodes.c`)

The iApp and the xApp both keep the E2 nodes they know of in such a registry, with the RAN
functions of each.
-/

namespace FlexRic

/-- `reg_e2_nodes_t`. -/
structure RegE2Nodes : Type where
  /-- key: the E2 node, value: its RAN functions -/
  nodeToRf : AssocRbTree GlobalE2NodeId (List RanFunction)

namespace RegE2Nodes

/-- `init_reg_e2_node`. -/
def init : RegE2Nodes := ⟨.init⟩

/-- `add_reg_e2_node`: it asserts that there is a RAN function and that the node is new. -/
def add (n : RegE2Nodes) (id : GlobalE2NodeId) (ranFunc : List RanFunction) :
    Option RegE2Nodes :=
  if ranFunc = [] then none
  else if (n.nodeToRf.findIf (eqGlobalE2NodeId id)).isSome then none
  else some ⟨n.nodeToRf.insert cmpGlobalE2NodeId id ranFunc⟩

/-- `rm_reg_e2_node`: it asserts that the node is there. -/
def rm (n : RegE2Nodes) (id : GlobalE2NodeId) : Option RegE2Nodes :=
  if (n.nodeToRf.findIf (eqGlobalE2NodeId id)).isSome then
    (n.nodeToRf.extract cmpGlobalE2NodeId id).map fun (_, nodeToRf) => ⟨nodeToRf⟩
  else none

/-- The RAN functions that `rm_reg_e2_node` frees together with the node. -/
def rmFreed (n : RegE2Nodes) (id : GlobalE2NodeId) : Option (List RanFunction × RegE2Nodes) :=
  if (n.nodeToRf.findIf (eqGlobalE2NodeId id)).isSome then
    (n.nodeToRf.extract cmpGlobalE2NodeId id).map fun (arr, nodeToRf) => (arr, ⟨nodeToRf⟩)
  else none

/-- `sz_reg_e2_node`. -/
def size (n : RegE2Nodes) : ℕ := n.nodeToRf.size

theorem rm_eq (n : RegE2Nodes) (id : GlobalE2NodeId) : n.rm id = (n.rmFreed id).map Prod.snd := by
  rw [rm, rmFreed]
  split
  · rw [Option.map_map]
    rfl
  · rfl

/-- `cp_reg_e2_node`: the nodes are inserted anew, in iteration order. -/
def copy (n : RegE2Nodes) : AssocRbTree GlobalE2NodeId (List RanFunction) :=
  n.nodeToRf.toList.foldl (fun t e => t.insert cmpGlobalE2NodeId e.1 e.2) .init

/-- `generate_e2_node_arr`. The length of the array is a `uint8_t`: from 256 nodes on the loop
writes past its end, which counts as a failure here. -/
def generateE2NodeArr (n : RegE2Nodes) : Option (List E2NodeConnected) :=
  if n.copy.size < 256 then some (n.copy.toList.map fun e => ⟨e.1, e.2⟩) else none

/-- `add_reg_e2_node` takes a node that has RAN functions and is none of those in the registry. -/
theorem add_eq_some {n n' : RegE2Nodes} {id : GlobalE2NodeId} {ranFunc : List RanFunction} :
    n.add id ranFunc = some n' ↔
      (ranFunc ≠ [] ∧ ∀ e ∈ n.nodeToRf.toList, eqGlobalE2NodeId id e.1 = false) ∧
        n' = ⟨n.nodeToRf.insert cmpGlobalE2NodeId id ranFunc⟩ := by
  rw [add, Option.ite_none_left_eq_some, Option.ite_none_left_eq_some, AssocRbTree.findIf_isSome,
    Option.some_inj, @eq_comm _ n', and_assoc]
  apply and_congr_right
  intro _
  apply and_congr_left
  intro _
  constructor
  · intro hnew e he
    exact Bool.eq_false_iff.2 fun heq => hnew ⟨e, he, heq⟩
  · rintro hnew ⟨e, he, heq⟩
    rw [hnew e he] at heq
    cases heq

/-- What the registry keeps: every node has RAN functions, and no node is there twice. -/
structure WF (n : RegE2Nodes) : Prop where
  /-- every node has RAN functions -/
  ranFunc : ∀ e ∈ n.nodeToRf.toList, e.2 ≠ []
  /-- no node is there twice -/
  distinct : n.nodeToRf.toList.Pairwise fun d e => eqGlobalE2NodeId d.1 e.1 = false

theorem wf_init : init.WF := ⟨nofun, .nil⟩

/-- That nodes are pairwise different does not depend on their order. -/
theorem pairwise_perm {es es' : List (GlobalE2NodeId × List RanFunction)} (h : es.Perm es') :
    es.Pairwise (fun d e => eqGlobalE2NodeId d.1 e.1 = false) ↔
      es'.Pairwise fun d e => eqGlobalE2NodeId d.1 e.1 = false := by
  apply h.pairwise_iff
  intro d e hde
  rw [eqGlobalE2NodeId_comm]
  exact hde

theorem WF.add {n n' : RegE2Nodes} {id : GlobalE2NodeId} {ranFunc : List RanFunction} (h : n.WF)
    (hadd : n.add id ranFunc = some n') : n'.WF := by
  obtain ⟨⟨hne, hnew⟩, rfl⟩ := add_eq_some.1 hadd
  have hperm := AssocRbTree.perm_insert cmpGlobalE2NodeId n.nodeToRf id ranFunc
  refine ⟨fun e he => ?_, ?_⟩
  · rcases List.mem_cons.1 (hperm.mem_iff.1 he) with rfl | he
    · exact hne
    · exact h.ranFunc e he
  · exact (pairwise_perm hperm).2 (List.pairwise_cons.2 ⟨hnew, h.distinct⟩)

/-- Copying keeps the nodes and counts them. -/
theorem perm_copy (n : RegE2Nodes) :
    n.copy.toList.Perm n.nodeToRf.toList ∧ n.copy.size = n.nodeToRf.toList.length := by
  have h : ∀ (es : List (GlobalE2NodeId × List RanFunction))
      (t : AssocRbTree GlobalE2NodeId (List RanFunction)),
      (es.foldl (fun t e => t.insert cmpGlobalE2NodeId e.1 e.2) t).toList.Perm (es ++ t.toList) ∧
        (es.foldl (fun t e => t.insert cmpGlobalE2NodeId e.1 e.2) t).size =
          es.length + t.size := by
    intro es
    induction es with
    | nil => exact fun t => ⟨.refl _, by simp⟩
    | cons d es ih =>
      intro t
      obtain ⟨hperm, hsize⟩ := ih (t.insert cmpGlobalE2NodeId d.1 d.2)
      refine ⟨?_, ?_⟩
      · refine hperm.trans (((AssocRbTree.perm_insert _ _ _ _).append_left es).trans ?_)
        exact List.perm_middle
      · have hinsert : (t.insert cmpGlobalE2NodeId d.1 d.2).size = t.size + 1 := rfl
        rw [List.foldl_cons, hsize, List.length_cons]
        omega
  obtain ⟨hperm, hsize⟩ := h n.nodeToRf.toList .init
  refine ⟨?_, hsize⟩
  rw [AssocRbTree.toList_init, List.append_nil] at hperm
  exact hperm

theorem generateE2NodeArr_eq_some {n : RegE2Nodes} {nodes : List E2NodeConnected} :
    n.generateE2NodeArr = some nodes ↔
      n.nodeToRf.toList.length < 256 ∧ nodes = n.copy.toList.map fun e => ⟨e.1, e.2⟩ := by
  rw [generateE2NodeArr, (perm_copy n).2, Option.ite_none_right_eq_some, Option.some_inj, eq_comm]

/-- The array holds the nodes of the registry with their RAN functions. -/
theorem perm_generateE2NodeArr {n : RegE2Nodes} {nodes : List E2NodeConnected}
    (h : n.generateE2NodeArr = some nodes) :
    nodes.Perm (n.nodeToRf.toList.map fun e => ⟨e.1, e.2⟩) := by
  obtain ⟨-, rfl⟩ := generateE2NodeArr_eq_some.1 h
  exact (perm_copy n).1.map _

/-- Nodes that are new and pairwise different are registered one after the other. -/
theorem exists_foldlM_add (nodes : List E2NodeConnected) (n : RegE2Nodes)
    (hrf : ∀ e ∈ nodes, e.ackRf ≠ [])
    (hdistinct : nodes.Pairwise fun d e => eqGlobalE2NodeId d.id e.id = false)
    (hnew : ∀ d ∈ n.nodeToRf.toList, ∀ e ∈ nodes, eqGlobalE2NodeId e.id d.1 = false) :
    ∃ n', nodes.foldlM (fun (n : RegE2Nodes) e => n.add e.id e.ackRf) n = some n' := by
  induction nodes generalizing n with
  | nil => exact ⟨n, rfl⟩
  | cons e nodes ih =>
    obtain ⟨hhead, htail⟩ := List.pairwise_cons.1 hdistinct
    have hadd : n.add e.id e.ackRf = some ⟨n.nodeToRf.insert cmpGlobalE2NodeId e.id e.ackRf⟩ :=
      add_eq_some.2 ⟨⟨hrf e List.mem_cons_self, fun d hd => hnew d hd e List.mem_cons_self⟩, rfl⟩
    have hnew' : ∀ d ∈ (n.nodeToRf.insert cmpGlobalE2NodeId e.id e.ackRf).toList, ∀ e' ∈ nodes,
        eqGlobalE2NodeId e'.id d.1 = false := by
      intro d hd e' he'
      rcases AssocRbTree.mem_insert.1 hd with rfl | hd
      · rw [eqGlobalE2NodeId_comm]
        exact hhead e' he'
      · exact hnew d hd e' (List.mem_cons_of_mem _ he')
    obtain ⟨n', hn'⟩ := ih ⟨n.nodeToRf.insert cmpGlobalE2NodeId e.id e.ackRf⟩
      (fun e' he' => hrf e' (List.mem_cons_of_mem _ he')) htail hnew'
    refine ⟨n', ?_⟩
    rw [List.foldlM_cons, hadd]
    exact hn'

/-- Only the nodes of the array are registered. -/
theorem mem_foldlM_add {nodes : List E2NodeConnected} {n n' : RegE2Nodes}
    (h : nodes.foldlM (fun (n : RegE2Nodes) e => n.add e.id e.ackRf) n = some n')
    {e : GlobalE2NodeId × List RanFunction} (he : e ∈ n'.nodeToRf.toList) :
    e ∈ n.nodeToRf.toList ∨ ∃ node ∈ nodes, node.id = e.1 := by
  induction nodes generalizing n with
  | nil =>
    cases h
    exact .inl he
  | cons node nodes ih =>
    rw [List.foldlM_cons] at h
    obtain ⟨n₁, hadd, h⟩ := Option.bind_eq_some_iff.1 h
    obtain ⟨-, rfl⟩ := add_eq_some.1 hadd
    rcases ih h with he | ⟨node', hmem, hid⟩
    · rcases AssocRbTree.mem_insert.1 he with rfl | he
      · exact .inr ⟨node, List.mem_cons_self, rfl⟩
      · exact .inl he
    · exact .inr ⟨node', List.mem_cons_of_mem _ hmem, hid⟩

/-- The nodes of an array are registered one after the other in an empty registry. -/
theorem WF.exists_foldlM_add {n : RegE2Nodes} {nodes : List E2NodeConnected} (h : n.WF)
    (hnodes : n.generateE2NodeArr = some nodes) :
    ∃ n', nodes.foldlM (fun (n : RegE2Nodes) e => n.add e.id e.ackRf) init = some n' := by
  obtain ⟨-, rfl⟩ := generateE2NodeArr_eq_some.1 hnodes
  have hperm := (perm_copy n).1
  refine RegE2Nodes.exists_foldlM_add _ init (fun e he => ?_) ?_ nofun
  · obtain ⟨e', he', rfl⟩ := List.mem_map.1 he
    exact h.ranFunc e' (hperm.mem_iff.1 he')
  · apply List.pairwise_map.2
    exact (pairwise_perm hperm).2 h.distinct

end RegE2Nodes

end FlexRic
