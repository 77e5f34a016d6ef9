import FlexRic.Ric.Threads

/-!
# xApp ids

An xApp gets its id from the counter `xapp_id`, which starts at 7, and its address is registered
under that id. A request is checked against the counter alone: an id up to the counter passes, be
it assigned or not.
-/

namespace FlexRic

/-- The ids given out before the counter got to `next`: those from 7 on, in the order of the
truncation to 16 bits. -/
def AssignedRange (next : UInt32) (id : UInt16) : Prop :=
  (id.toNat + 65529) % 65536 < next.toNat - 7

instance (next : UInt32) (id : UInt16) : Decidable (AssignedRange next id) :=
  inferInstanceAs (Decidable (_ < _))

namespace RicState

/-- The assigned ids are the registered ones, each assigned once, and the counter tells which
they are. -/
structure XappInv (s : RicState) : Prop where
  /-- the registered ids -/
  mem : ∀ id, id ∈ s.assigned ↔ ∃ e ∈ s.iapp.xapps.toList, e.1 = id
  /-- the counter -/
  next : s.iapp.xappId.toNat = 7 + s.assigned.length
  /-- the assigned ids are consecutive -/
  range : ∀ id : UInt16, id ∈ s.assigned ↔ (id.toNat + 65529) % 65536 < s.assigned.length

theorem xappInv_init (epFd : Fd) (plugin : List SmRic) : (init epFd plugin).XappInv where
  mem := by simp [init, Iapp.init]
  next := rfl
  range := by simp [init]

/-- A setup response gives out the next id. If all 65536 ids were assigned, the registration of the
xApp's address would fail. -/
theorem XappInv.setup {s : RicState} (h : s.XappInv) {src : SctpInfo}
    (hfresh : ∀ e ∈ s.iapp.xapps.toList, e.1 ≠ s.iapp.xappId.toUInt16) {t : RicState}
    (hassigned : t.assigned = s.iapp.xappId.toUInt16 :: s.assigned)
    (hnext : t.iapp.xappId = s.iapp.xappId + 1)
    (hxapps : t.iapp.xapps = s.iapp.xapps.insert cmpUInt16 s.iapp.xappId.toUInt16 src) :
    t.XappInv := by
  have hnew : s.iapp.xappId.toUInt16.toNat = (7 + s.assigned.length) % 65536 := by
    rw [UInt32.toNat_toUInt16, h.next]
  have hnot : s.iapp.xappId.toUInt16 ∉ s.assigned := by
    rw [h.mem]
    rintro ⟨e, he, heq⟩
    exact hfresh e he heq
  have hlen : s.assigned.length < 65536 := by
    rw [h.range, hnew] at hnot
    omega
  refine ⟨?_, ?_, ?_⟩
  · intro id
    rw [hassigned, hxapps, List.mem_cons, h.mem]
    simp only [AssocRbTree.mem_insert, exists_eq_or_imp, @eq_comm _ id]
  · rw [hnext, hassigned, UInt32.toNat_add, h.next, List.length_cons]
    exact Nat.mod_eq_of_lt (by change 7 + s.assigned.length + 1 < 2 ^ 32; omega)
  · intro id
    have hid := id.toNat_lt
    rw [hassigned, List.mem_cons, h.range, List.length_cons, ← UInt16.toNat_inj, hnew]
    omega

theorem XappInv.step {s t : RicState} {a : RicAction} (h : s.XappInv) (ht : s.Trans a t) :
    t.XappInv := by
  cases ht with
  | e42SetupRequest hpc hset =>
    obtain ⟨⟨hresp, hfresh, rfl⟩, -⟩ := Iapp.setupXapp_eq_some.1 hset
    exact h.setup hfresh (by rw [hresp]) rfl rfl
  | timerExpiry => exact h
  | _ => exact ⟨h.mem, h.next, h.range⟩

theorem xappInv_reachable {epFd : Fd} {plugin : List SmRic} {s : RicState}
    (h : (threads epFd plugin).Reachable s) : s.XappInv :=
  threads_invariant h (xappInv_init epFd plugin) fun _ _ _ hs ht => hs.step ht

/-- The counter tells which ids are assigned. -/
theorem XappInv.assignedRange_iff {s : RicState} (h : s.XappInv) (id : UInt16) :
    AssignedRange s.iapp.xappId id ↔ id ∈ s.assigned := by
  rw [h.range, AssignedRange, h.next, Nat.add_sub_cancel_left]

/-- In the run every subscription or control request that passed the checks, and so was forwarded,
carried an assigned id, and when an answer is routed the xApp's address is found. -/
def XappIdsValidated (tr : List (RicState × RicAction)) (s : RicState) : Prop :=
  (∀ p ∈ tr, ∀ kind req src, p.2 = .e42RicRequest kind req src → req.xappId ∈ p.1.assigned) ∧
  ∀ x ans, s.ricPc = .routed x ans → s.iapp.findMapXappsSad x.xappId ≠ none

/-- The requests that are to be answered come from xApps with assigned ids. -/
structure RequestersAssigned (s : RicState) : Prop where
  /-- in `map_ric_id` -/
  map : ∀ e ∈ s.iapp.mapRicId.toList, e.2.xappId ∈ s.assigned
  /-- on its way there -/
  entering : ∀ r ∈ s.iappPc.entering, r.x.xappId ∈ s.assigned
  /-- being answered -/
  routed : ∀ x ans, s.ricPc = .routed x ans → x.xappId ∈ s.assigned

theorem RequestersAssigned.step {s t : RicState} {a : RicAction} (h : s.RequestersAssigned)
    (hreq : ∀ kind req src, a = .e42RicRequest kind req src → req.xappId ∈ s.assigned)
    (ht : s.Trans a t) : t.RequestersAssigned := by
  have hentering := h.entering
  cases ht with
  | e42SetupRequest hpc hset =>
    obtain ⟨⟨-, -, rfl⟩, -⟩ := Iapp.setupXapp_eq_some.1 hset
    exact ⟨fun e he => List.mem_cons_of_mem _ (h.map e he),
      fun r hr => List.mem_cons_of_mem _ (h.entering r hr),
      fun x ans hpc => List.mem_cons_of_mem _ (h.routed x ans hpc)⟩
  | e42RicRequest hpc =>
    exact ⟨h.map, List.forall_mem_singleton.2 (hreq _ _ _ rfl), h.routed⟩
  | e42RicSubscriptionDeleteRequest hpc => exact ⟨h.map, by simp [Fwd.newEntry], h.routed⟩
  | createTimer hpc =>
    rw [hpc] at hentering
    exact ⟨h.map, hentering, h.routed⟩
  | insertPending hpc =>
    rw [hpc] at hentering
    exact ⟨h.map, hentering, h.routed⟩
  | sendRequest hpc =>
    rw [hpc] at hentering
    exact ⟨h.map, by simpa using hentering, h.routed⟩
  | addMapRicId hpc =>
    rw [hpc] at hentering
    refine ⟨?_, by simp, h.routed⟩
    intro e he
    rcases BiMap.mem_insert.1 he with rfl | he
    · exact hentering _ List.mem_cons_self
    · exact h.map e he
  | e2SetupRequest => exact ⟨h.map, h.entering, h.routed⟩
  | response => exact ⟨h.map, h.entering, nofun⟩
  | indication => exact ⟨h.map, h.entering, nofun⟩
  | findXapp hpc hmtx hfind =>
    refine ⟨h.map, h.entering, ?_⟩
    intro x ans heq
    cases heq
    obtain ⟨n, hmem, -⟩ := Iapp.findXappMapRicId_eq_some hfind
    exact h.map _ hmem
  | sendAnswer => exact ⟨h.map, h.entering, nofun⟩
  | timerExpiry => exact h

theorem requestersAssigned_run {epFd : Fd} {plugin : List SmRic}
    {tr : List (RicState × RicAction)} {s : RicState} (h : (threads epFd plugin).Run tr s)
    (hreq : ∀ p ∈ tr, ∀ kind req src, p.2 = .e42RicRequest kind req src →
      req.xappId ∈ p.1.assigned) : s.RequestersAssigned := by
  induction h with
  | nil => exact ⟨by simp [threads, init, Iapp.init], by simp [threads, init], nofun⟩
  | cons _ he ht ih =>
    obtain ⟨hlast, hrest⟩ := List.forall_mem_cons.1 hreq
    exact (ih hrest).step hlast (trans_of_step he ht)

end RicState

end FlexRic
