import Mathlib.Data.Multiset.AddSub
import Mathlib.Data.Multiset.MapFold

/-!
# Memory

A memory maps addresses to cells; an address that is not allocated has no cell, and every access
to it fails. `Holds` says that a memory holds a collection of cells, all at different addresses.
The rules say what a read or a write does to one cell, and that the others stay as they are, so
the collection can be sorted as an access needs it and nothing has to be said about the rest.
-/

namespace FlexRic

universe u

/-- A memory with cells of type `α`. -/
abbrev Memory (α : Type u) : Type u := ℕ → Option α

namespace Memory

variable {α : Type u}

/-- Set what is at an address. -/
def set (m : Memory α) (a : ℕ) (c : Option α) : Memory α := fun b => if b = a then c else m b

/-- Change the cell at an address. -/
def modify (m : Memory α) (a : ℕ) (f : α → α) : Option (Memory α) :=
  (m a).map fun c => m.set a (some (f c))

@[simp] theorem set_self (m : Memory α) (a : ℕ) (c : Option α) : m.set a c a = c := if_pos rfl

theorem set_ne (m : Memory α) {a b : ℕ} (c : Option α) (h : b ≠ a) : m.set a c b = m b := if_neg h

/-- The memory holds these cells, and they have different addresses. -/
structure Holds (m : Memory α) (cs : Multiset (ℕ × α)) : Prop where
  nodup : (cs.map Prod.fst).Nodup
  cell : ∀ e ∈ cs, m e.1 = some e.2

namespace Holds

variable {m : Memory α} {a : ℕ} {c : α} {r s : Multiset (ℕ × α)}

theorem congr (h : m.Holds r) (heq : r = s) : m.Holds s := heq ▸ h

/-- Forget some cells. -/
theorem left (h : m.Holds (r + s)) : m.Holds r where
  nodup := Multiset.nodup_of_le (Multiset.map_le_map (Multiset.le_add_right r s)) h.nodup
  cell e he := h.cell e (Multiset.mem_add.2 (.inl he))

theorem read (h : m.Holds ({(a, c)} + r)) : m a = some c :=
  h.cell (a, c) (Multiset.mem_add.2 (.inl (Multiset.mem_singleton_self _)))

/-- The address of a cell is not that of another cell. -/
theorem notMem (h : m.Holds ({(a, c)} + r)) : a ∉ r.map Prod.fst := by
  have hnodup := h.nodup
  rw [Multiset.singleton_add, Multiset.map_cons] at hnodup
  exact (Multiset.nodup_cons.1 hnodup).1

theorem ne_of_mem (h : m.Holds ({(a, c)} + r)) {b : ℕ} (hb : b ∈ r.map Prod.fst) : a ≠ b := by
  rintro rfl
  exact h.notMem hb

theorem cons_iff :
    m.Holds ({(a, c)} + r) ↔ m a = some c ∧ a ∉ r.map Prod.fst ∧ m.Holds r := by
  constructor
  · exact fun h => ⟨h.read, h.notMem, (h.congr (Multiset.add_comm _ _)).left⟩
  · rintro ⟨hread, hnot, h⟩
    refine ⟨?_, ?_⟩
    · rw [Multiset.singleton_add, Multiset.map_cons]
      exact Multiset.nodup_cons.2 ⟨hnot, h.nodup⟩
    · intro e he
      rcases Multiset.mem_add.1 he with he | he
      · rw [Multiset.mem_singleton.1 he]
        exact hread
      · exact h.cell e he

/-- Setting another address changes nothing. -/
theorem set (h : m.Holds r) (hnot : a ∉ r.map Prod.fst) (o : Option α) : (m.set a o).Holds r where
  nodup := h.nodup
  cell e he := by
    have hne : e.1 ≠ a := by
      rintro rfl
      exact hnot (Multiset.mem_map_of_mem Prod.fst he)
    rw [set_ne m o hne]
    exact h.cell e he

theorem modify (h : m.Holds ({(a, c)} + r)) (f : α → α) :
    ∃ m', m.modify a f = some m' ∧ m'.Holds ({(a, f c)} + r) := by
  obtain ⟨hread, hnot, hr⟩ := cons_iff.1 h
  refine ⟨m.set a (some (f c)), ?_, cons_iff.2 ⟨set_self .., hnot, hr.set hnot _⟩⟩
  rw [Memory.modify, hread]
  rfl

theorem alloc (h : m.Holds r) (hfree : m a = none) (c : α) :
    (m.set a (some c)).Holds ({(a, c)} + r) := by
  have hnot : a ∉ r.map Prod.fst := by
    intro hmem
    obtain ⟨e, he, rfl⟩ := Multiset.mem_map.1 hmem
    rw [h.cell e he] at hfree
    cases hfree
  exact cons_iff.2 ⟨set_self .., hnot, h.set hnot _⟩

theorem free (h : m.Holds ({(a, c)} + r)) : (m.set a none).Holds r :=
  ((cons_iff.1 h).2.2).set h.notMem none

end Holds

end Memory

end FlexRic
