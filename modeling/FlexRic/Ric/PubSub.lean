import FlexRic.AlgDs.AssocRbTree
import Mathlib.Data.List.GetD
import Mathlib.Data.List.Induction

/-!
# The subscribers inside of the near-RIC (`ric/near_ric.c`, `ric/msg_handler_ric.c`)

`pub_sub` has an array of subscribers for each RAN function. An indication is meant for the
subscribers of its RAN function. They are looked up, but then the array of the first RAN function
is taken, so it is the subscribers of the RAN function with the smallest id that are called.
-/

namespace FlexRic

/-- `subs_ric_t`: `fp` points to a function of the kind `F`. -/
structure SubsRic (F : Type) : Type where
  name : String
  fp : F
  deriving DecidableEq, Repr

/-- `cmp_ran_func_id`. -/
def cmpRanFuncId : UInt16 → UInt16 → Ordering := compare

instance : Std.TransCmp cmpRanFuncId :=
  inferInstanceAs (Std.TransCmp (compare : UInt16 → UInt16 → Ordering))

instance : Std.LawfulEqCmp cmpRanFuncId :=
  inferInstanceAs (Std.LawfulEqCmp (compare : UInt16 → UInt16 → Ordering))

/-- `eq_ran_func_id`. -/
def eqRanFuncId (value key : UInt16) : Bool := value = key

/-- `pub_sub`: the tree has pointers to the arrays. They are allocated one after the other and not
freed while the near-RIC runs, so a pointer is the number of its array. -/
structure PubSub (F : Type) : Type where
  tree : AssocRbTree UInt16 ℕ
  arrs : List (List (SubsRic F))

namespace PubSub

variable {F : Type}

/-- `init_pub_sub_ds_ric`. -/
def init : PubSub F := ⟨.init, []⟩

/-- `register_listeners_for_ran_func_id`. -/
def registerListenersForRanFuncId (p : PubSub F) (ranFuncId : UInt16) (subs : SubsRic F) :
    PubSub F :=
  match p.tree.findIf (eqRanFuncId ranFuncId) with
  | none => ⟨p.tree.insert cmpRanFuncId ranFuncId p.arrs.length, p.arrs ++ [[subs]]⟩
  | some it => ⟨p.tree, p.arrs.modify it.2 (· ++ [subs])⟩

/-- `pub_sub` after some registrations. -/
def load (regs : List (UInt16 × SubsRic F)) : PubSub F :=
  regs.foldl (fun p reg => p.registerListenersForRanFuncId reg.1 reg.2) init

/-- `publish_ind_msg`: the functions that it calls. It asserts that there is an array for the RAN
function, and takes the one at the front. -/
def publishIndMsg (p : PubSub F) (ranFuncId : UInt16) : Option (List F) :=
  (p.tree.findIf (eqRanFuncId ranFuncId)).bind fun _ =>
    p.tree.toList.head?.bind fun startIt => p.arrs[startIt.2]?.map (List.map SubsRic.fp)

/-- The subscribers that were registered for a RAN function. -/
def subscribers (regs : List (UInt16 × SubsRic F)) (ranFuncId : UInt16) : List (SubsRic F) :=
  (regs.filter fun reg => reg.1 = ranFuncId).map Prod.snd

/-- The tree has the RAN functions of the registrations, each with an array of its own that has its
subscribers. -/
structure Holds (p : PubSub F) (regs : List (UInt16 × SubsRic F)) : Prop where
  wf : p.tree.WF cmpRanFuncId
  id : ∀ reg ∈ regs, ∃ arr, (reg.1, arr) ∈ p.tree.toList
  arr : ∀ it ∈ p.tree.toList, p.arrs[it.2]? = some (subscribers regs it.1)
  registered : ∀ it ∈ p.tree.toList, subscribers regs it.1 ≠ []
  own : ∀ it ∈ p.tree.toList, ∀ it' ∈ p.tree.toList, it.2 = it'.2 ↔ it.1 = it'.1

variable {p : PubSub F} {regs : List (UInt16 × SubsRic F)} {ranFuncId id : UInt16}
  {subs : SubsRic F}

theorem holds_init : (init : PubSub F).Holds [] :=
  ⟨AssocRbTree.wf_init, nofun, nofun, nofun, nofun⟩

theorem subscribers_append :
    subscribers (regs ++ [(ranFuncId, subs)]) id =
      subscribers regs id ++ if ranFuncId = id then [subs] else [] := by
  by_cases hid : ranFuncId = id
  · simp [subscribers, List.filter_append, hid]
  · simp [subscribers, List.filter_append, hid]

theorem subscribers_eq_nil (h : ∀ reg ∈ regs, reg.1 ≠ id) : subscribers regs id = [] := by
  rw [subscribers, List.filter_eq_nil_iff.2, List.map_nil]
  simpa using h

/-- The search finds the RAN function if it was registered. -/
theorem Holds.findIf_eq_none (h : p.Holds regs)
    (hfind : p.tree.findIf (eqRanFuncId ranFuncId) = none) : ∀ reg ∈ regs, reg.1 ≠ ranFuncId := by
  rintro reg hreg rfl
  obtain ⟨arr, harr⟩ := h.id reg hreg
  obtain ⟨it, hit⟩ := AssocRbTree.exists_findIf (f := eqRanFuncId reg.1) harr
    (by simp [eqRanFuncId])
  rw [hfind] at hit
  cases hit

theorem Holds.register (h : p.Holds regs) (ranFuncId : UInt16) (subs : SubsRic F) :
    (p.registerListenersForRanFuncId ranFuncId subs).Holds (regs ++ [(ranFuncId, subs)]) := by
  rw [registerListenersForRanFuncId]
  cases hfind : p.tree.findIf (eqRanFuncId ranFuncId) with
  | none =>
    have hnew := h.findIf_eq_none hfind
    have hlt : ∀ it ∈ p.tree.toList, it.2 < p.arrs.length := fun it hit =>
      (List.getElem?_eq_some_iff.1 (h.arr it hit)).1
    have hne : ∀ it ∈ p.tree.toList, ranFuncId ≠ it.1 := by
      rintro it hit rfl
      exact h.registered it hit (subscribers_eq_nil hnew)
    refine ⟨h.wf.insert _ _, ?_, ?_, ?_, ?_⟩
    · intro reg hreg
      rcases List.mem_append.1 hreg with hreg | hreg
      · obtain ⟨arr, harr⟩ := h.id reg hreg
        exact ⟨arr, AssocRbTree.mem_insert.2 (.inr harr)⟩
      · cases List.mem_singleton.1 hreg
        exact ⟨_, AssocRbTree.mem_insert.2 (.inl rfl)⟩
    · intro it hit
      rw [subscribers_append]
      rcases AssocRbTree.mem_insert.1 hit with rfl | hit
      · simp [subscribers_eq_nil hnew]
      · rw [if_neg (hne it hit), List.append_nil, List.getElem?_append_left (hlt it hit)]
        exact h.arr it hit
    · intro it hit
      rw [subscribers_append]
      rcases AssocRbTree.mem_insert.1 hit with rfl | hit
      · simp
      · exact List.append_ne_nil_of_left_ne_nil (h.registered it hit) _
    · intro it hit it' hit'
      rcases AssocRbTree.mem_insert.1 hit with rfl | hit
      · rcases AssocRbTree.mem_insert.1 hit' with rfl | hit'
        · exact iff_of_true rfl rfl
        · exact iff_of_false (Nat.ne_of_gt (hlt it' hit')) (hne it' hit')
      · rcases AssocRbTree.mem_insert.1 hit' with rfl | hit'
        · exact iff_of_false (Nat.ne_of_lt (hlt it hit)) (hne it hit).symm
        · exact h.own it hit it' hit'
  | some it₀ =>
    obtain ⟨hmem, hkey⟩ := AssocRbTree.findIf_eq_some hfind
    have hkey : ranFuncId = it₀.1 := by simpa [eqRanFuncId] using hkey
    refine ⟨h.wf, ?_, ?_, ?_, h.own⟩
    · intro reg hreg
      rcases List.mem_append.1 hreg with hreg | hreg
      · exact h.id reg hreg
      · cases List.mem_singleton.1 hreg
        exact ⟨it₀.2, hkey ▸ hmem⟩
    · intro it hit
      rw [subscribers_append, List.getElem?_modify, h.arr it hit]
      have hown := h.own it₀ hmem it hit
      rw [← hkey] at hown
      by_cases harr : it₀.2 = it.2
      · simp [harr, hown.1 harr]
      · simp [harr, mt hown.2 harr]
    · intro it hit
      rw [subscribers_append]
      exact List.append_ne_nil_of_left_ne_nil (h.registered it hit) _

theorem holds_load (regs : List (UInt16 × SubsRic F)) : (load regs).Holds regs := by
  induction regs using List.reverseRecOn with
  | nil => exact holds_init
  | append_singleton regs reg ih =>
    rw [load, List.foldl_append]
    exact ih.register reg.1 reg.2

/-- The RAN function with the smallest id that has subscribers. -/
def IsFirst (regs : List (UInt16 × SubsRic F)) (low : UInt16) : Prop :=
  (∃ reg ∈ regs, reg.1 = low) ∧ ∀ reg ∈ regs, low ≤ reg.1

/-- It asserts that the RAN function has subscribers. -/
theorem Holds.publishIndMsg_eq_none (h : p.Holds regs) (hid : ∀ reg ∈ regs, reg.1 ≠ ranFuncId) :
    p.publishIndMsg ranFuncId = none := by
  have hfind : p.tree.findIf (eqRanFuncId ranFuncId) = none := by
    cases hfind : p.tree.findIf (eqRanFuncId ranFuncId) with
    | none => rfl
    | some it =>
      obtain ⟨hmem, hkey⟩ := AssocRbTree.findIf_eq_some hfind
      have hkey : ranFuncId = it.1 := by simpa [eqRanFuncId] using hkey
      subst hkey
      exact absurd (subscribers_eq_nil hid) (h.registered it hmem)
  rw [publishIndMsg, hfind, Option.bind_none]

/-- If it does, the subscribers of the first RAN function are called. -/
theorem Holds.publishIndMsg_eq_some (h : p.Holds regs) (hid : ∃ reg ∈ regs, reg.1 = ranFuncId) :
    ∃ low, IsFirst regs low ∧
      p.publishIndMsg ranFuncId = some ((subscribers regs low).map SubsRic.fp) := by
  obtain ⟨reg, hreg, rfl⟩ := hid
  obtain ⟨arr, harr⟩ := h.id reg hreg
  obtain ⟨it, hfind⟩ := AssocRbTree.exists_findIf (f := eqRanFuncId reg.1) harr
    (by simp [eqRanFuncId])
  cases hlist : p.tree.toList with
  | nil => simp [hlist] at harr
  | cons startIt rest =>
    have hstart : startIt ∈ p.tree.toList := by simp [hlist]
    have hmin : ∀ it ∈ p.tree.toList, startIt.1 ≤ it.1 := by
      have hsorted := h.wf.sorted
      rw [hlist, FlexRic.Sorted, List.pairwise_cons] at hsorted
      intro it hit
      rw [hlist, List.mem_cons] at hit
      rcases hit with rfl | hit
      · exact UInt16.le_refl _
      · exact Std.isLE_compare.1 (hsorted.1 it hit)
    refine ⟨startIt.1, ⟨?_, ?_⟩, ?_⟩
    · by_contra hnone
      push Not at hnone
      exact h.registered startIt hstart (subscribers_eq_nil hnone)
    · intro reg' hreg'
      obtain ⟨arr', harr'⟩ := h.id reg' hreg'
      exact hmin _ harr'
    · rw [publishIndMsg, hfind, hlist, Option.bind_some, List.head?_cons, Option.bind_some,
        h.arr startIt hstart, Option.map_some]

/-- An indication reaches its subscribers, each once and in the order in which they were
registered, if there are some and those of the first RAN function are the same functions. -/
theorem publishIndMsg_load_iff (regs : List (UInt16 × SubsRic F)) (ranFuncId : UInt16) :
    (load regs).publishIndMsg ranFuncId = some ((subscribers regs ranFuncId).map SubsRic.fp) ↔
      (∃ reg ∈ regs, reg.1 = ranFuncId) ∧ ∀ low, IsFirst regs low →
        (subscribers regs low).map SubsRic.fp = (subscribers regs ranFuncId).map SubsRic.fp := by
  by_cases hid : ∃ reg ∈ regs, reg.1 = ranFuncId
  · obtain ⟨low, hlow, hcalled⟩ := (holds_load regs).publishIndMsg_eq_some hid
    have hunique : ∀ low', IsFirst regs low' → low' = low := by
      rintro low' ⟨⟨reg', hreg', rfl⟩, hle'⟩
      obtain ⟨⟨reg, hreg, rfl⟩, hle⟩ := hlow
      exact UInt16.le_antisymm (hle' reg hreg) (hle reg' hreg')
    rw [hcalled, Option.some_inj]
    constructor
    · intro heq
      refine ⟨hid, fun low' hlow' => ?_⟩
      rw [hunique low' hlow', heq]
    · exact fun ⟨_, heq⟩ => heq low hlow
  · have hnone : ∀ reg ∈ regs, reg.1 ≠ ranFuncId := fun reg hreg h => hid ⟨reg, hreg, h⟩
    rw [(holds_load regs).publishIndMsg_eq_none hnone]
    exact iff_of_false nofun fun h => hid h.1

/-- The MAC service model and the RLC service model have a subscriber each. An indication of the
RLC service model is passed to the subscriber of the MAC service model. -/
theorem publishIndMsg_wrong_subscriber :
    ¬ ∀ (regs : List (UInt16 × SubsRic ℕ)) (ranFuncId : UInt16),
      (load regs).publishIndMsg ranFuncId =
        some ((subscribers regs ranFuncId).map SubsRic.fp) := by
  intro h
  have hcalled := h [(142, ⟨"MAC", 0⟩), (143, ⟨"RLC", 1⟩)] 143
  revert hcalled
  decide

end PubSub

end FlexRic
