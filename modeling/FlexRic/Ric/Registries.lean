import FlexRic.Ric.NearRic
import FlexRic.Semantics.System
import Mathlib.Data.List.Pairwise

/-!
# The registries of the E2 nodes

The near-RIC keeps its E2 nodes in three places: the map between their ids and their addresses,
`conn_e2_nodes`, and the registry of the iApp. The map and the registry are trees that are searched
with `cmp_global_e2_node_id`. It is no order as soon as monolithic nodes and CUs or DUs come
together, and then a node that is there may not be found when it shuts down.
-/

namespace FlexRic

/-- The near-RIC with the registry of its iApp, and the nodes that have been set up and not been
shut down since, with their addresses. -/
structure RicRegistries : Type where
  ric : NearRic
  nodes : RegE2Nodes
  up : List (GlobalE2NodeId × SctpInfo)

/-- What arrives from the E2 nodes. -/
inductive NodeEvent : Type where
  /-- an E2 setup request from this address -/
  | setup (req : E2SetupRequest) (info : SctpInfo) : NodeEvent
  /-- a shutdown of the association with this address -/
  | shutdown (info : SctpInfo) : NodeEvent

/-- The part of `e2_event_loop_ric` that handles setups and shutdowns. The nodes that set up are
among `N`; a node that sets up has an id and an address that no node that is up has, and the RIC
supports it. -/
def registriesSystem (epFd : Fd) (plugin : List SmRic) (N : GlobalE2NodeId → Prop) :
    System RicRegistries NodeEvent where
  init := ⟨.init epFd plugin, .init, []⟩
  enabled s
    | .setup req info =>
      N req.id ∧ (∀ e ∈ s.up, eqGlobalE2NodeId req.id e.1 = false ∧ info ≠ e.2) ∧
        req.ranFuncItem ≠ [] ∧ s.ric.Supports req.ranFuncItem
    | .shutdown info => ∃ e ∈ s.up, info = e.2
  step s
    | .setup req info =>
      ((s.ric.e2apRegSockAddrRic req.id info).e2apHandleSetupRequestRic s.nodes req).map
        fun (_, ric, nodes) => ⟨ric, nodes, (req.id, info) :: s.up⟩
    | .shutdown info =>
      (s.ric.notificationHandleRic s.nodes info).map
        fun (ric, nodes) => ⟨ric, nodes, s.up.filter fun e => info ≠ e.2⟩

/-- The three registries hold the nodes that are up, each once. -/
structure RicRegistries.Agree (s : RicRegistries) : Prop where
  /-- the map, by id and by address -/
  endpoint : s.ric.e2Nodes.left.toList.Perm s.up ∧
    (s.ric.e2Nodes.right.toList.map Prod.swap).Perm s.up
  /-- `conn_e2_nodes` -/
  connected : (s.ric.connE2Nodes.map E2Node.id).Perm (s.up.map Prod.fst)
  /-- the registry of the iApp -/
  iapp : (s.nodes.nodeToRf.toList.map Prod.fst).Perm (s.up.map Prod.fst)

/-- No three of these nodes are in a circle for the comparator. -/
def Acyclic (N : GlobalE2NodeId → Prop) : Prop :=
  ∀ a b c, N a → N b → N c → cmpGlobalE2NodeId a b = .lt → cmpGlobalE2NodeId b c = .lt →
    cmpGlobalE2NodeId c a ≠ .lt

/-- A comparator with a direction that has no circle of three different keys is transitive. -/
theorem transOn_of_acyclic {K : Type} {cmp : K → K → Ordering} [Std.OrientedCmp cmp]
    {S : K → Prop} (heq : ∀ a b, S a → S b → cmp a b = .eq → a = b)
    (hacyclic : ∀ a b c, S a → S b → S c → cmp a b = .lt → cmp b c = .lt → cmp c a ≠ .lt) :
    TransOn cmp S := by
  intro a b c ha hb hc hab hbc
  cases h : cmp a b with
  | eq => exact heq a b ha hb h ▸ hbc
  | gt =>
    rw [h] at hab
    cases hab
  | lt =>
    cases h' : cmp b c with
    | eq => exact heq b c hb hc h' ▸ hab
    | gt =>
      rw [h'] at hbc
      cases hbc
    | lt => exact isLE_swap (hacyclic a b c ha hb hc h h')

namespace RicRegistries

/-- Two nodes are different, also by their addresses. -/
def Apart (d e : GlobalE2NodeId × SctpInfo) : Prop :=
  eqGlobalE2NodeId d.1 e.1 = false ∧ d.2 ≠ e.2

instance : Std.Symm Apart where
  symm := by
    rintro d e ⟨hid, hinfo⟩
    rw [eqGlobalE2NodeId_comm] at hid
    exact ⟨hid, hinfo.symm⟩

/-- The nodes are pairwise different. -/
abbrev Distinct (up : List (GlobalE2NodeId × SctpInfo)) : Prop := up.Pairwise Apart

theorem Distinct.eq_of {up : List (GlobalE2NodeId × SctpInfo)} (h : Distinct up)
    {d e : GlobalE2NodeId × SctpInfo} (hd : d ∈ up) (he : e ∈ up)
    (heq : eqGlobalE2NodeId d.1 e.1 = true ∨ d.2 = e.2) : d = e := by
  by_contra hne
  obtain ⟨hid, hinfo⟩ := List.Pairwise.forall h hd he hne
  rcases heq with heq | heq
  · rw [hid] at heq
    cases heq
  · exact hinfo heq

variable {epFd : Fd} {plugin : List SmRic} {N : GlobalE2NodeId → Prop}
  {up : List (GlobalE2NodeId × SctpInfo)} {s : RicRegistries}

/-- The comparator tells the nodes that are up apart. -/
theorem Distinct.eq_of_cmp (h : Distinct up) (hN : ∀ id, N id → id.Readable)
    (hup : ∀ e ∈ up, N e.1) {d e : GlobalE2NodeId × SctpInfo} (hd : d ∈ up) (he : e ∈ up)
    (heq : cmpGlobalE2NodeId d.1 e.1 = .eq) : d = e :=
  h.eq_of hd he (.inl ((cmpGlobalE2NodeId_eq_iff (hN _ (hup d hd)) (hN _ (hup e he))).1 heq))

/-- Without a circle the comparator orders the nodes that are up. -/
theorem Distinct.transOn (h : Distinct up) (hN : ∀ id, N id → id.Readable) (hacyclic : Acyclic N)
    (hup : ∀ e ∈ up, N e.1) : TransOn cmpGlobalE2NodeId fun id => ∃ info, (id, info) ∈ up := by
  refine transOn_of_acyclic ?_ ?_
  · rintro a b ⟨i, ha⟩ ⟨j, hb⟩ heq
    exact congrArg Prod.fst (h.eq_of_cmp hN hup ha hb heq)
  · rintro a b c ⟨i, ha⟩ ⟨j, hb⟩ ⟨k, hc⟩
    exact hacyclic a b c (hup _ ha) (hup _ hb) (hup _ hc)

/-- What the handlers keep as long as the comparator orders the nodes. -/
structure Inv (N : GlobalE2NodeId → Prop) (s : RicRegistries) : Prop where
  agree : s.Agree
  map : s.ric.e2Nodes.WF cmpGlobalE2NodeId cmpSctpInfo
  tree : s.nodes.nodeToRf.WF cmpGlobalE2NodeId
  mem : ∀ e ∈ s.up, N e.1
  distinct : Distinct s.up

theorem inv_init (epFd : Fd) (plugin : List SmRic) (N : GlobalE2NodeId → Prop) :
    (registriesSystem epFd plugin N).init.Inv N :=
  ⟨⟨⟨.refl _, .refl _⟩, .refl _, .refl _⟩, BiMap.wf_init, AssocRbTree.wf_init, nofun, .nil⟩

theorem Inv.setup (h : s.Inv N) (hN : ∀ id, N id → id.Readable) (hacyclic : Acyclic N)
    {req : E2SetupRequest} {info : SctpInfo}
    (he : (registriesSystem epFd plugin N).enabled s (.setup req info)) :
    ∃ s', (registriesSystem epFd plugin N).step s (.setup req info) = some s' ∧ s'.Inv N := by
  obtain ⟨hid, hnew, hrf, hsup⟩ := he
  have hnewId : ∀ e ∈ s.nodes.nodeToRf.toList, eqGlobalE2NodeId req.id e.1 = false := by
    intro e he
    obtain ⟨d, hd, heq⟩ := List.mem_map.1 (h.agree.iapp.mem_iff.1 (List.mem_map_of_mem he))
    rw [← heq]
    exact (hnew d hd).1
  have hadd := RegE2Nodes.add_eq_some.2 ⟨⟨hrf, hnewId⟩, rfl⟩
  have hstep : (s.ric.e2apRegSockAddrRic req.id info).e2apHandleSetupRequestRic s.nodes req =
      some (_, _, _) :=
    (NearRic.e2apHandleSetupRequestRic_eq_some (hN _ hid)).2 ⟨hadd, hsup, rfl, rfl⟩
  -- the new node and those that are up
  have hdistinct : Distinct ((req.id, info) :: s.up) :=
    List.pairwise_cons.2 ⟨hnew, h.distinct⟩
  have hup : ∀ e ∈ (req.id, info) :: s.up, N e.1 := by
    intro e he
    rcases List.mem_cons.1 he with rfl | he
    · exact hid
    · exact h.mem e he
  have htrans := hdistinct.transOn hN hacyclic hup
  have hmap : ∀ e ∈ s.ric.e2Nodes.toList, ∃ info', (e.1, info') ∈ (req.id, info) :: s.up :=
    fun e he => ⟨e.2, List.mem_cons_of_mem _ (h.agree.endpoint.1.mem_iff.1 he)⟩
  have htree : ∀ e ∈ s.nodes.nodeToRf.toList, ∃ info', (e.1, info') ∈ (req.id, info) :: s.up := by
    intro e he
    obtain ⟨d, hd, heq⟩ := List.mem_map.1 (h.agree.iapp.mem_iff.1 (List.mem_map_of_mem he))
    exact ⟨d.2, heq ▸ List.mem_cons_of_mem _ hd⟩
  have hself : ∃ info', (req.id, info') ∈ (req.id, info) :: s.up := ⟨info, List.mem_cons_self⟩
  have hwf := h.map.insert_on htrans hmap hself info
  have hleft := (BiMap.perm_insert cmpGlobalE2NodeId cmpSctpInfo s.ric.e2Nodes req.id info).trans
    (h.agree.endpoint.1.cons _)
  refine ⟨_, congrArg (Option.map _) hstep, ⟨⟨hleft, hwf.swap_perm.trans hleft⟩, ?_, ?_⟩, hwf,
    h.tree.insert_on htrans htree hself req.ranFuncItem, hup, hdistinct⟩
  · rw [NearRic.e2apRegSockAddrRic, List.map_append]
    exact (List.perm_append_singleton _ _).trans (h.agree.connected.cons _)
  · have hinsert := AssocRbTree.perm_insert cmpGlobalE2NodeId s.nodes.nodeToRf req.id
      req.ranFuncItem
    exact (hinsert.map Prod.fst).trans (h.agree.iapp.cons _)

/-- The nodes that are up when one of them is shut down. -/
theorem Distinct.perm_filter (h : Distinct up) {d : GlobalE2NodeId × SctpInfo} (hd : d ∈ up) :
    up.Perm (d :: up.filter fun e => d.2 ≠ e.2) := by
  obtain ⟨es, fs, rfl⟩ := List.append_of_mem hd
  obtain ⟨-, hright, hleft⟩ := List.pairwise_append.1 h
  have hes : es.filter (fun e => d.2 ≠ e.2) = es :=
    List.filter_eq_self.2 fun e he => decide_eq_true (hleft e he d List.mem_cons_self).2.symm
  have hfs : fs.filter (fun e => d.2 ≠ e.2) = fs :=
    List.filter_eq_self.2 fun e he => decide_eq_true (List.rel_of_pairwise_cons hright he).2
  rw [List.filter_append, List.filter_cons_of_neg (by simp), hes, hfs]
  exact List.perm_middle

section Shutdown

variable {id : GlobalE2NodeId} {info : SctpInfo}

theorem Inv.eq_self (h : s.Inv N) (hN : ∀ id, N id → id.Readable) (hup : (id, info) ∈ s.up) :
    eqGlobalE2NodeId id id = true :=
  (cmpGlobalE2NodeId_eq_iff (hN _ (h.mem _ hup)) (hN _ (h.mem _ hup))).1 Std.ReflCmp.compare_self

/-- A node of one of the registries that is equal to one that is up is this one. -/
theorem Inv.eq_of (h : s.Inv N) (hup : (id, info) ∈ s.up) {k : GlobalE2NodeId}
    (hk : k ∈ s.up.map Prod.fst) (heq : eqGlobalE2NodeId k id = true) : k = id := by
  obtain ⟨e, he, rfl⟩ := List.mem_map.1 hk
  exact congrArg Prod.fst (h.distinct.eq_of he hup (.inl heq))

/-- The node is found in `conn_e2_nodes` and taken out of it. -/
theorem Inv.eraseConn (h : s.Inv N) (hN : ∀ id, N id → id.Readable) (hup : (id, info) ∈ s.up) :
    (s.ric.connE2Nodes.any fun n => eqGlobalE2NodeId n.id id) = true ∧
      (s.ric.connE2Nodes.map E2Node.id).Perm
        (id :: (s.ric.connE2Nodes.eraseP fun n => eqGlobalE2NodeId n.id id).map E2Node.id) := by
  have hmid : id ∈ s.up.map Prod.fst := List.mem_map_of_mem hup
  obtain ⟨n, hn, hnid⟩ := List.mem_map.1 (h.agree.connected.mem_iff.2 hmid)
  have hneq : eqGlobalE2NodeId n.id id = true := by
    rw [hnid]
    exact h.eq_self hN hup
  obtain ⟨n', l₁, l₂, -, hn', hsplit, herase⟩ :=
    List.exists_of_eraseP (p := fun n : E2Node => eqGlobalE2NodeId n.id id) hn hneq
  have hid : n'.id = id := by
    refine h.eq_of hup (h.agree.connected.mem_iff.1 (List.mem_map_of_mem ?_)) hn'
    rw [hsplit]
    exact List.mem_append_right _ List.mem_cons_self
  refine ⟨List.any_eq_true.2 ⟨n, hn, hneq⟩, ?_⟩
  rw [herase, hsplit, ← hid]
  exact List.perm_middle.map E2Node.id

/-- The node is found in the registry of the iApp and taken out of it. -/
theorem Inv.rmNode (h : s.Inv N) (hN : ∀ id, N id → id.Readable) (hacyclic : Acyclic N)
    (hup : (id, info) ∈ s.up) :
    ∃ t, s.nodes.rm id = some ⟨t⟩ ∧ t.WF cmpGlobalE2NodeId ∧
      (s.nodes.nodeToRf.toList.map Prod.fst).Perm (id :: t.toList.map Prod.fst) := by
  have hmid : id ∈ s.up.map Prod.fst := List.mem_map_of_mem hup
  obtain ⟨e, he, heid⟩ := List.mem_map.1 (h.agree.iapp.mem_iff.2 hmid)
  have hfind : (s.nodes.nodeToRf.findIf (eqGlobalE2NodeId id)).isSome :=
    AssocRbTree.findIf_isSome.2 ⟨e, he, heid.symm ▸ h.eq_self hN hup⟩
  have htreeUp : ∀ d ∈ s.nodes.nodeToRf.toList, d.1 ∈ s.up.map Prod.fst := fun d hd =>
    h.agree.iapp.mem_iff.1 (List.mem_map_of_mem hd)
  have htree : ∀ d ∈ s.nodes.nodeToRf.toList, ∃ info, (d.1, info) ∈ s.up := by
    intro d hd
    obtain ⟨u, hu, heq⟩ := List.mem_map.1 (htreeUp d hd)
    exact ⟨u.2, heq ▸ hu⟩
  have hcmp : cmpGlobalE2NodeId id e.1 = .eq := by
    rw [heid]
    exact Std.ReflCmp.compare_self
  obtain ⟨rf, t, ht⟩ := h.tree.extract_isSome_on (h.distinct.transOn hN hacyclic h.mem) htree
    ⟨info, hup⟩ he hcmp
  obtain ⟨k, hk, hperm⟩ := AssocRbTree.perm_extract ht
  have hkid : k = id := by
    have hkup := htreeUp (k, rf) (hperm.mem_iff.2 List.mem_cons_self)
    refine h.eq_of hup hkup ?_
    obtain ⟨u, hu, rfl⟩ := List.mem_map.1 hkup
    rw [eqGlobalE2NodeId_comm]
    exact (cmpGlobalE2NodeId_eq_iff (hN _ (h.mem _ hup)) (hN _ (h.mem _ hu))).1 hk
  refine ⟨t, ?_, h.tree.extract ht, hkid ▸ hperm.map Prod.fst⟩
  rw [RegE2Nodes.rm, if_pos hfind, ht, Option.map_some]

theorem Inv.shutdown (h : s.Inv N) (hN : ∀ id, N id → id.Readable) (hacyclic : Acyclic N)
    (he : (registriesSystem epFd plugin N).enabled s (.shutdown info)) :
    ∃ s', (registriesSystem epFd plugin N).step s (.shutdown info) = some s' ∧ s'.Inv N := by
  obtain ⟨⟨id, _⟩, hup, rfl⟩ := he
  have hpermUp := h.distinct.perm_filter hup
  have hmap := h.agree.endpoint.1
  obtain ⟨m, hext, hwf, hpermMap⟩ := h.map.extractRight_of_mem_on
    (h.distinct.transOn hN hacyclic h.mem) (fun e he => ⟨e.2, hmap.mem_iff.1 he⟩)
    (fun d hd e he heq => h.distinct.eq_of_cmp hN h.mem (hmap.mem_iff.1 hd) (hmap.mem_iff.1 he) heq)
    (fun e he heq => h.distinct.eq_of (hmap.mem_iff.1 he) hup
      (.inr (Std.LawfulEqCmp.eq_of_compare heq).symm)) (hmap.mem_iff.2 hup)
  obtain ⟨hany, hpermConn⟩ := h.eraseConn hN hup
  obtain ⟨t, hrm, hwfTree, hpermTree⟩ := h.rmNode hN hacyclic hup
  have hstep : s.ric.notificationHandleRic s.nodes info = some
      ({ s.ric with
          e2Nodes := m
          connE2Nodes := s.ric.connE2Nodes.eraseP fun n => eqGlobalE2NodeId n.id id }, ⟨t⟩) := by
    simp only [NearRic.notificationHandleRic, hext, Option.bind_some, if_pos hany, hrm,
      Option.map_some]
  -- each registry has lost this node, and no other
  have hendpoint := (hpermMap.symm.trans (hmap.trans hpermUp)).cons_inv
  refine ⟨_, congrArg (Option.map _) hstep, ⟨⟨hendpoint, hwf.swap_perm.trans hendpoint⟩, ?_, ?_⟩,
    hwf, hwfTree, fun e he => h.mem e (List.mem_filter.1 he).1, List.Pairwise.filter _ h.distinct⟩
  · exact (hpermConn.symm.trans (h.agree.connected.trans (hpermUp.map Prod.fst))).cons_inv
  · exact (hpermTree.symm.trans (h.agree.iapp.trans (hpermUp.map Prod.fst))).cons_inv

end Shutdown

/-- Without a circle every event is handled, and the registries agree after it. -/
theorem inv_of_reachable (hN : ∀ id, N id → id.Readable) (hacyclic : Acyclic N)
    (h : (registriesSystem epFd plugin N).Reachable s) : s.Inv N := by
  refine h.invariant (inv_init epFd plugin N) ?_
  intro s ev t hs he ht
  obtain ⟨t', ht', ht'inv⟩ : ∃ t', (registriesSystem epFd plugin N).step s ev = some t' ∧
      t'.Inv N := by
    cases ev with
    | setup req info => exact hs.setup hN hacyclic he
    | shutdown info => exact hs.shutdown hN hacyclic he
  rw [ht] at ht'
  exact Option.some.inj ht' ▸ ht'inv

theorem Inv.safe (hN : ∀ id, N id → id.Readable) (hacyclic : Acyclic N) (h : s.Inv N) :
    (registriesSystem epFd plugin N).Safe s := by
  intro ev he hfail
  cases ev with
  | setup req info =>
    obtain ⟨t, ht, -⟩ := h.setup hN hacyclic he
    rw [ht] at hfail
    cases hfail
  | shutdown info =>
    obtain ⟨t, ht, -⟩ := h.shutdown hN hacyclic he
    rw [ht] at hfail
    cases hfail

/-! ## A circle

Three nodes in a circle are set up, then the first one is shut down, and after it the third one. -/

/-- The setup request of a node with one RAN function. -/
def setupRequest (sm : SmRic) (id : GlobalE2NodeId) : E2SetupRequest :=
  ⟨id, [⟨[], sm.ranFuncId, 0, none⟩]⟩

theorem step_setup_eq_some {t : RicRegistries} {req : E2SetupRequest} {info : SctpInfo}
    (h : (registriesSystem epFd plugin N).step s (.setup req info) = some t)
    (hread : req.id.Readable) :
    t.up = (req.id, info) :: s.up ∧ t.ric.plugin = s.ric.plugin ∧
      t.ric.e2Nodes = s.ric.e2Nodes.insert cmpGlobalE2NodeId cmpSctpInfo req.id info := by
  obtain ⟨⟨resp, ric, nodes⟩, hsome, rfl⟩ := Option.map_eq_some_iff.1 h
  obtain ⟨-, -, -, rfl⟩ := (NearRic.e2apHandleSetupRequestRic_eq_some hread).1 hsome
  exact ⟨rfl, rfl, rfl⟩

theorem step_shutdown_eq_some {t : RicRegistries} {info : SctpInfo}
    (h : (registriesSystem epFd plugin N).step s (.shutdown info) = some t) :
    t.up = (s.up.filter fun e => info ≠ e.2) ∧ ∃ id,
      s.ric.e2Nodes.extractRight cmpGlobalE2NodeId cmpSctpInfo info = some (id, t.ric.e2Nodes) := by
  obtain ⟨⟨ric, nodes⟩, hsome, rfl⟩ := Option.map_eq_some_iff.1 h
  obtain ⟨⟨id, m⟩, hext, hsome⟩ := Option.bind_eq_some_iff.1 hsome
  obtain ⟨-, hsome⟩ := Option.ite_none_right_eq_some.1 hsome
  obtain ⟨n, -, heq⟩ := Option.map_eq_some_iff.1 hsome
  cases heq
  exact ⟨rfl, id, hext⟩

section Circle

variable (hsafe : ∀ s, (registriesSystem epFd plugin N).Reachable s →
  (registriesSystem epFd plugin N).Safe s)
include hsafe

theorem exists_setup {sm : SmRic} (hsm : sm ∈ plugin)
    (h : (registriesSystem epFd plugin N).Reachable s) (hplugin : s.ric.plugin = plugin)
    {x : GlobalE2NodeId} {info : SctpInfo} (hx : N x) (hread : x.Readable)
    (hnew : ∀ e ∈ s.up, eqGlobalE2NodeId x e.1 = false ∧ info ≠ e.2) :
    ∃ t, (registriesSystem epFd plugin N).Reachable t ∧ t.up = (x, info) :: s.up ∧
      t.ric.plugin = plugin ∧
      t.ric.e2Nodes = s.ric.e2Nodes.insert cmpGlobalE2NodeId cmpSctpInfo x info := by
  have hsup : s.ric.Supports (setupRequest sm x).ranFuncItem := by
    intro rf hrf
    cases List.mem_singleton.1 hrf
    exact ⟨⟨sm, hplugin ▸ hsm, rfl⟩, Nat.succ_pos 126⟩
  have he : (registriesSystem epFd plugin N).enabled s (.setup (setupRequest sm x) info) :=
    ⟨hx, hnew, List.cons_ne_nil _ _, hsup⟩
  obtain ⟨t, ht⟩ := Option.ne_none_iff_exists'.1 (hsafe s h _ he)
  obtain ⟨hup, hp, hmap⟩ := step_setup_eq_some ht hread
  exact ⟨t, h.step he ht, hup, hp.trans hplugin, hmap⟩

theorem exists_shutdown (h : (registriesSystem epFd plugin N).Reachable s) {x : GlobalE2NodeId}
    {info : SctpInfo} (hx : (x, info) ∈ s.up) :
    ∃ t, (registriesSystem epFd plugin N).Reachable t ∧
      t.up = (s.up.filter fun e => info ≠ e.2) ∧ ∃ id k,
        s.ric.e2Nodes.right.extract cmpSctpInfo info = some (id, t.ric.e2Nodes.right) ∧
        s.ric.e2Nodes.left.extract cmpGlobalE2NodeId id = some (k, t.ric.e2Nodes.left) := by
  have he : (registriesSystem epFd plugin N).enabled s (.shutdown info) := ⟨_, hx, rfl⟩
  obtain ⟨t, ht⟩ := Option.ne_none_iff_exists'.1 (hsafe s h _ he)
  obtain ⟨hup, id, hext⟩ := step_shutdown_eq_some ht
  obtain ⟨k, hright, hleft, -⟩ := BiMap.extractRight_eq_some hext
  exact ⟨t, h.step he ht, hup, id, k, hright, hleft⟩

end Circle

/-- What the map answers for an address. -/
theorem id_of_extract {t t' : AssocRbTree SctpInfo GlobalE2NodeId} {info : SctpInfo}
    {id : GlobalE2NodeId} (h : t.extract cmpSctpInfo info = some (id, t')) :
    (info, id) ∈ t.toList ∧ ∀ e ∈ t'.toList, e ∈ t.toList := by
  obtain ⟨k, hk, hperm⟩ := AssocRbTree.perm_extract h
  cases Std.LawfulEqCmp.eq_of_compare hk
  exact ⟨hperm.mem_iff.2 List.mem_cons_self,
    fun e he => hperm.mem_iff.2 (List.mem_cons_of_mem _ he)⟩

/-- A circle among the nodes leads to a failing assertion. -/
theorem exists_not_safe {sm : SmRic} (hsm : sm ∈ plugin) (hN : ∀ id, N id → id.Readable)
    {a b c : GlobalE2NodeId} (ha : N a) (hb : N b) (hc : N c)
    (hab : cmpGlobalE2NodeId a b = .lt) (hbc : cmpGlobalE2NodeId b c = .lt)
    (hca : cmpGlobalE2NodeId c a = .lt) :
    ¬∀ s, (registriesSystem epFd plugin N).Reachable s →
      (registriesSystem epFd plugin N).Safe s := by
  intro hsafe
  have hneq : ∀ x y, N x → N y → cmpGlobalE2NodeId x y = .lt → eqGlobalE2NodeId x y = false := by
    intro x y hx hy hxy
    refine Bool.eq_false_iff.2 fun heq => ?_
    rw [(cmpGlobalE2NodeId_eq_iff (hN x hx) (hN y hy)).2 heq] at hxy
    cases hxy
  have hba : eqGlobalE2NodeId b a = false := eqGlobalE2NodeId_comm a b ▸ hneq a b ha hb hab
  have hcb : eqGlobalE2NodeId c b = false := eqGlobalE2NodeId_comm b c ▸ hneq b c hb hc hbc
  -- the three nodes set up
  have hnew₁ : ∀ e ∈ (registriesSystem epFd plugin N).init.up,
      eqGlobalE2NodeId a e.1 = false ∧ (⟨1, 0, 0⟩ : SctpInfo) ≠ e.2 := nofun
  obtain ⟨s₁, hr₁, hup₁, hp₁, hmap₁⟩ := exists_setup hsafe hsm .init rfl ha (hN a ha) hnew₁
  have hnew₂ : ∀ e ∈ s₁.up, eqGlobalE2NodeId b e.1 = false ∧ (⟨2, 0, 0⟩ : SctpInfo) ≠ e.2 := by
    rw [hup₁]
    intro e he
    cases List.mem_singleton.1 he
    exact ⟨hba, by simp⟩
  obtain ⟨s₂, hr₂, hup₂, hp₂, hmap₂⟩ := exists_setup hsafe hsm hr₁ hp₁ hb (hN b hb) hnew₂
  have hnew₃ : ∀ e ∈ s₂.up, eqGlobalE2NodeId c e.1 = false ∧ (⟨3, 0, 0⟩ : SctpInfo) ≠ e.2 := by
    rw [hup₂, hup₁]
    intro e he
    rcases List.mem_cons.1 he with rfl | he
    · exact ⟨hcb, by simp⟩
    · cases List.mem_singleton.1 he
      exact ⟨hneq c a hc ha hca, by simp⟩
  obtain ⟨s₃, hr₃, hup₃, hp₃, hmap₃⟩ := exists_setup hsafe hsm hr₂ hp₂ hc (hN c hc) hnew₃
  have hright : ∀ e ∈ s₃.ric.e2Nodes.right.toList,
      e = (⟨3, 0, 0⟩, c) ∨ e = (⟨2, 0, 0⟩, b) ∨ e = (⟨1, 0, 0⟩, a) := by
    rw [hmap₃, hmap₂, hmap₁]
    intro e he
    simp only [BiMap.insert, AssocRbTree.mem_insert] at he
    rcases he with he | he | he | he
    · exact .inl he
    · exact .inr (.inl he)
    · exact .inr (.inr he)
    · cases he
  obtain ⟨t, hfirst, hthird⟩ := AssocRbTree.extract_of_circle hab hbc hca (⟨1, 0, 0⟩ : SctpInfo)
    ⟨2, 0, 0⟩ ⟨3, 0, 0⟩
  have hleft : s₃.ric.e2Nodes.left.extract cmpGlobalE2NodeId a = some (⟨1, 0, 0⟩, t) := by
    rw [hmap₃, hmap₂, hmap₁]
    exact hfirst
  -- the first one is shut down, and then the third one
  have hmem₁ : (a, ⟨1, 0, 0⟩) ∈ s₃.up := by
    rw [hup₃, hup₂, hup₁]
    simp
  obtain ⟨s₄, hr₄, hup₄, id, k, hextr, hextl⟩ := exists_shutdown hsafe hr₃ hmem₁
  have hmem₃ : (c, ⟨3, 0, 0⟩) ∈ s₄.up := by
    rw [hup₄, hup₃]
    exact List.mem_filter.2 ⟨List.mem_cons_self, by simp⟩
  obtain ⟨s₅, -, -, id', k', hextr', hextl'⟩ := exists_shutdown hsafe hr₄ hmem₃
  obtain ⟨hid, hrest⟩ := id_of_extract hextr
  have hida : id = a := by
    rcases hright _ hid with heq | heq | heq
    · cases heq
    · cases heq
    · exact congrArg Prod.snd heq
  have hidc : id' = c := by
    rcases hright _ (hrest _ (id_of_extract hextr').1) with heq | heq | heq
    · exact congrArg Prod.snd heq
    · cases heq
    · cases heq
  rw [hida, hleft] at hextl
  have htree : t = s₄.ric.e2Nodes.left := congrArg Prod.snd (Option.some.inj hextl)
  rw [← htree, hidc, hthird] at hextl'
  cases hextl'

/-- The registries agree after every event of every run, and every event is handled, exactly if the
comparator goes round in no circle among the nodes. -/
theorem agree_iff_acyclic (hplugin : plugin ≠ []) (hN : ∀ id, N id → id.Readable) :
    (∀ s, (registriesSystem epFd plugin N).Reachable s →
      s.Agree ∧ (registriesSystem epFd plugin N).Safe s) ↔ Acyclic N := by
  constructor
  · intro h a b c ha hb hc hab hbc hca
    obtain ⟨sm, hsm⟩ := List.exists_mem_of_ne_nil _ hplugin
    exact exists_not_safe hsm hN ha hb hc hab hbc hca fun s hs => (h s hs).2
  · intro hacyclic s hs
    have hinv := inv_of_reachable hN hacyclic hs
    exact ⟨hinv.agree, hinv.safe hN hacyclic⟩

/-- One monolithic gNB. -/
theorem agree_iff_acyclic_gNB : Acyclic (fun id => id = Sample.node) ∧
    ∀ s, (registriesSystem 3 [Sample.sm] fun id => id = Sample.node).Reachable s →
      s.Agree ∧ (registriesSystem 3 [Sample.sm] fun id => id = Sample.node).Safe s := by
  have hacyclic : Acyclic (fun id => id = Sample.node) := by
    rintro _ _ _ rfl rfl rfl hab
    cases hab
  refine ⟨hacyclic, (agree_iff_acyclic (List.cons_ne_nil _ _) ?_).2 hacyclic⟩
  rintro _ rfl hmono
  cases hmono

/-- A monolithic gNB, a DU with a smaller `nb_id` and a CU with a greater one. -/
def circle : List GlobalE2NodeId :=
  [⟨.gNB, ⟨208, 95, 2⟩, 15, none⟩, ⟨.gNBDU, ⟨208, 95, 2⟩, 9, some 1⟩,
    ⟨.gNBCU, ⟨208, 95, 2⟩, 20, some 1⟩]

theorem not_agree_circle :
    ¬∀ s, (registriesSystem 3 [Sample.sm] (· ∈ circle)).Reachable s →
      s.Agree ∧ (registriesSystem 3 [Sample.sm] (· ∈ circle)).Safe s := by
  intro h
  have hread : ∀ id ∈ circle, id.Readable := by
    intro id hid
    unfold GlobalE2NodeId.Readable
    revert id
    decide
  refine exists_not_safe (a := ⟨.gNB, ⟨208, 95, 2⟩, 15, none⟩)
    (b := ⟨.gNBDU, ⟨208, 95, 2⟩, 9, some 1⟩) (c := ⟨.gNBCU, ⟨208, 95, 2⟩, 20, some 1⟩)
    List.mem_cons_self hread (by decide) (by decide) (by decide) (by decide) (by decide)
    (by decide) fun s hs => (h s hs).2

end RicRegistries

end FlexRic
