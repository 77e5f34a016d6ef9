import Mathlib.Algebra.Ring.Nat
import Mathlib.Data.Nat.Find

/-!
# Cyclic probing

A search that starts at some place of an array and goes from place to place, from the last one to
the first one, until an element stops it or it is back where it started.
-/

namespace FlexRic

universe u

variable {α : Type u}

/-- The search, with a number of rounds left, at `idx`. -/
def probe (stop : α → Bool) (arr : List α) (cap start : ℕ) : ℕ → ℕ → Option ℕ
  | 0, _ => none
  | rounds + 1, idx =>
    arr[idx]?.bind fun a =>
      if stop a then some idx
      else
        let idx := if idx + 1 = cap then 0 else idx + 1
        if idx = start then none else probe stop arr cap start rounds idx

/-- From `start` one comes to `i` over elements with the property. -/
def Reaches (p : α → Prop) (arr : List α) (cap start i : ℕ) : Prop :=
  ∃ d < cap, (start + d) % cap = i ∧ ∀ d' < d, ∃ a, arr[(start + d') % cap]? = some a ∧ p a

namespace Probing

variable {cap start d d' i : ℕ}

/-- The place after this one. -/
theorem next_eq (hcap : 0 < cap) (n : ℕ) :
    (if n % cap + 1 = cap then 0 else n % cap + 1) = (n + 1) % cap := by
  rw [← Nat.mod_add_mod n cap 1]
  by_cases hlast : n % cap + 1 = cap
  · rw [if_pos hlast, hlast, Nat.mod_self]
  · have hlt := Nat.mod_lt n hcap
    rw [if_neg hlast, Nat.mod_eq_of_lt (show n % cap + 1 < cap by omega)]

/-- The places less than a whole round away. -/
theorem place_eq (hstart : start < cap) (hd : d < cap) :
    (start + d) % cap = if start + d < cap then start + d else start + d - cap := by
  by_cases hlt : start + d < cap
  · rw [if_pos hlt, Nat.mod_eq_of_lt hlt]
  · rw [if_neg hlt, Nat.mod_eq_sub_mod (by omega), Nat.mod_eq_of_lt (by omega)]

theorem place_inj (hstart : start < cap) (hd : d < cap) (hd' : d' < cap)
    (h : (start + d) % cap = (start + d') % cap) : d = d' := by
  rw [place_eq hstart hd, place_eq hstart hd'] at h
  split at h <;> split at h <;> omega

theorem place_ne_start (hstart : start < cap) (hd : d < cap) (hpos : 0 < d) :
    (start + d) % cap ≠ start := by
  rw [place_eq hstart hd]
  split <;> omega

/-- Every place is less than a whole round away. -/
theorem exists_add_mod_eq (hstart : start < cap) (hi : i < cap) :
    ∃ d < cap, (start + d) % cap = i := by
  by_cases hle : start ≤ i
  · exact ⟨i - start, by omega, by rw [Nat.add_sub_cancel' hle, Nat.mod_eq_of_lt hi]⟩
  · refine ⟨i + cap - start, by omega, ?_⟩
    rw [Nat.add_sub_cancel' (by omega), Nat.add_mod_right, Nat.mod_eq_of_lt hi]

end Probing

open Probing

variable {stop : α → Bool} {arr : List α} {cap start i j d k rounds : ℕ} {p q : α → Prop}
  {a b : α}

/-- From the place `d`, the loop goes on to the first element that stops it. -/
theorem probe_of_first (hstart : start < cap) (hlt : d + k < cap)
    (hgo : ∀ d', d ≤ d' → d' < d + k → ∃ a, arr[(start + d') % cap]? = some a ∧ stop a = false)
    (ha : arr[(start + (d + k)) % cap]? = some a) (hstop : stop a = true) (hrounds : k < rounds) :
    probe stop arr cap start rounds ((start + d) % cap) = some ((start + (d + k)) % cap) := by
  induction k generalizing d rounds with
  | zero =>
    cases rounds with
    | zero => exact absurd hrounds (Nat.lt_irrefl 0)
    | succ rounds =>
      have ha : arr[(start + d) % cap]? = some a := ha
      rw [probe, ha, Option.bind_some, if_pos hstop]
      rfl
  | succ k ih =>
    cases rounds with
    | zero => exact absurd hrounds (Nat.not_lt_zero _)
    | succ rounds =>
      obtain ⟨b, hb, hbstop⟩ := hgo d le_rfl (by omega)
      have hnext := place_ne_start hstart (show d + 1 < cap by omega) (Nat.succ_pos d)
      have hsum : d + (k + 1) = d + 1 + k := by omega
      rw [hsum] at ha ⊢
      rw [probe, hb, Option.bind_some, if_neg (by rw [hbstop]; decide)]
      simp only [next_eq (Nat.zero_lt_of_lt hstart), Nat.add_assoc start d 1, if_neg hnext]
      exact ih (by omega) (fun d' hd hd' => hgo d' (by omega) (by omega)) ha (by omega)

/-- The search ends at an element that stops it, if nothing on the way to it does. -/
theorem Reaches.probe_eq (h : Reaches (fun a => stop a = false) arr cap start i)
    (hstart : start < cap) (ha : arr[i]? = some a) (hstop : stop a = true) :
    probe stop arr cap start cap start = some i := by
  obtain ⟨d, hd, rfl, hgo⟩ := h
  have hprobe := @probe_of_first _ stop arr cap start 0 d cap a hstart (by omega)
    (fun d' _ hd' => hgo d' (by omega)) (by rwa [Nat.zero_add]) hstop hd
  rwa [Nat.add_zero, Nat.mod_eq_of_lt hstart, Nat.zero_add] at hprobe

/-- If some element of the array stops the search, it ends at the first one on its way. -/
theorem exists_probe_eq (hlen : arr.length = cap) (hstart : start < cap)
    (h : ∃ a ∈ arr, stop a = true) :
    ∃ i a, probe stop arr cap start cap start = some i ∧ arr[i]? = some a ∧ stop a = true ∧
      Reaches (fun a => stop a = false) arr cap start i := by
  have hex : ∃ d, d < cap ∧ ∃ a, arr[(start + d) % cap]? = some a ∧ stop a = true := by
    obtain ⟨a, ha, hstop⟩ := h
    obtain ⟨i, hi⟩ := List.mem_iff_getElem?.1 ha
    obtain ⟨d, hd, rfl⟩ := exists_add_mod_eq hstart
      (hlen ▸ (List.getElem?_eq_some_iff.1 hi).1 : i < cap)
    exact ⟨d, hd, a, hi, hstop⟩
  classical
  obtain ⟨hd, a, ha, hstop⟩ := Nat.find_spec hex
  have hreach : Reaches (fun a => stop a = false) arr cap start
      ((start + Nat.find hex) % cap) := by
    refine ⟨_, hd, rfl, fun d' hd' => ?_⟩
    have hlt : (start + d') % cap < arr.length := by
      rw [hlen]
      exact Nat.mod_lt _ (Nat.zero_lt_of_lt hstart)
    refine ⟨_, List.getElem?_eq_getElem hlt, ?_⟩
    by_contra hne
    exact Nat.find_min hex hd' ⟨Nat.lt_trans hd' hd, _, List.getElem?_eq_getElem hlt,
      eq_true_of_ne_false hne⟩
  exact ⟨_, a, hreach.probe_eq hstart ha hstop, ha, hstop, hreach⟩

theorem probe_nil (rounds idx : ℕ) : probe stop ([] : List α) cap start rounds idx = none := by
  cases rounds with
  | zero => rfl
  | succ rounds => rfl

theorem Reaches.mono (h : Reaches p arr cap start i) (hpq : ∀ a, p a → q a) :
    Reaches q arr cap start i := by
  obtain ⟨d, hd, hi, hgo⟩ := h
  refine ⟨d, hd, hi, fun d' hd' => ?_⟩
  obtain ⟨a, ha, hp⟩ := hgo d' hd'
  exact ⟨a, ha, hpq a hp⟩

/-- The property may be given to another element. -/
theorem Reaches.set (h : Reaches p arr cap start i) (ha : arr[j]? = some a) (hb : p a → p b) :
    Reaches p (arr.set j b) cap start i := by
  obtain ⟨d, hd, hi, hgo⟩ := h
  refine ⟨d, hd, hi, fun d' hd' => ?_⟩
  obtain ⟨a', ha', hp⟩ := hgo d' hd'
  by_cases heq : j = (start + d') % cap
  · rw [← heq] at ha' ⊢
    obtain rfl := Option.some.inj (ha.symm.trans ha')
    exact ⟨b, List.getElem?_set_self (List.getElem?_eq_some_iff.1 ha).1, hb hp⟩
  · exact ⟨a', by rwa [List.getElem?_set_ne heq], hp⟩

end FlexRic
