import Mathlib.Algebra.Ring.Nat
import Mathlib.Order.Bounds.Defs
import Mathlib.Logic.Function.Iterate
import FlexRic.AlgDs.SeqRing

/-!
# Distances in rings (`seq_ring_dist`)

The distance of two iterators is computed from their positions, in 32 bits with a sign. Equal
positions are a whole turn apart, which is no step only in the arithmetic of a ring whose capacity
is a multiple of `2 ^ 32`.
-/

namespace FlexRic

universe u

namespace SeqRing

/-! ## The code -/

section Operations

variable {α : Type u}

/-- `seq_ring_dist` -/
def dist (r : SeqRing α) (first last : ℕ) : Int32 :=
  let lastPos := UInt32.ofNat last
  let firstPos := UInt32.ofNat first
  if lastPos > firstPos then (lastPos - firstPos).toInt32
  else Int32.ofInt (r.cap - firstPos.toNat + lastPos.toNat)

/-- The rings that the functions make, also with a head that has wrapped. -/
inductive Reachable [Inhabited α] : SeqRing α → Prop where
  | init : Reachable init
  | pushBack {r r' : SeqRing α} {mem : Bool} {data : α} (h : Reachable r)
      (hpush : r.pushBack mem data = some r') : Reachable r'
  | erase {r r' : SeqRing α} {itStart itEnd : ℕ} (h : Reachable r)
      (herase : r.erase itStart itEnd = some r') : Reachable r'

end Operations

/-! ## Capacities -/

section Capacity

variable {α : Type u} [Inhabited α] {r r' : SeqRing α}

theorem cap_enlargeBuffer {mem : Bool} (h : r.enlargeBuffer mem = some r') :
    r'.cap = r.cap * 2 := by
  obtain ⟨-, h⟩ := Option.ite_none_right_eq_some.1 h
  obtain ⟨buffer, -, h⟩ := Option.bind_eq_some_iff.1 h
  obtain ⟨buffer, -, rfl⟩ := Option.map_eq_some_iff.1 h
  rfl

theorem cap_pushBack {mem : Bool} {data : α} (h : r.pushBack mem data = some r') :
    r'.cap = r.cap ∨ r'.cap = r.cap * 2 := by
  obtain ⟨r₁, hr₁, h⟩ := Option.bind_eq_some_iff.1 h
  have hcap : r'.cap = r₁.cap := by
    obtain ⟨array, -, rfl⟩ := Option.map_eq_some_iff.1 h
    rfl
  split at hr₁
  · exact .inr (hcap.trans (cap_enlargeBuffer hr₁))
  · cases hr₁
    exact .inl hcap

omit [Inhabited α] in
theorem cap_advance {array : List α} {n itEnd : ℕ} (h : r.advance array n itEnd = some r') :
    r'.cap = r.cap := by
  obtain ⟨-, h⟩ := Option.ite_none_right_eq_some.1 h
  cases h
  rfl

theorem cap_erase {itStart itEnd : ℕ} (h : r.erase itStart itEnd = some r') :
    r'.cap = r.cap := by
  obtain ⟨-, h⟩ := Option.ite_none_right_eq_some.1 h
  split at h
  · cases h
    rfl
  · dsimp only at h
    obtain ⟨-, h⟩ := Option.ite_none_right_eq_some.1 h
    split at h
    · obtain ⟨array, -, h⟩ := Option.bind_eq_some_iff.1 h
      exact cap_advance h
    · obtain ⟨array, -, h⟩ := Option.bind_eq_some_iff.1 h
      obtain ⟨array, -, h⟩ := Option.bind_eq_some_iff.1 h
      exact cap_advance h

/-- The capacity of every ring is a power of two. -/
theorem Reachable.cap_eq (h : r.Reachable) : ∃ k, r.cap = 2 ^ k := by
  induction h with
  | init => exact ⟨5, rfl⟩
  | pushBack h hpush ih =>
    obtain ⟨k, hk⟩ := ih
    rcases cap_pushBack hpush with hcap | hcap
    · exact ⟨k, hcap.trans hk⟩
    · exact ⟨k + 1, by rw [hcap, hk, Nat.pow_succ]⟩
  | erase h herase ih =>
    obtain ⟨k, hk⟩ := ih
    exact ⟨k, (cap_erase herase).trans hk⟩

end Capacity

/-! ## Steps -/

section Steps

variable {α : Type u} {r : SeqRing α} {first last n : ℕ}

theorem iterate_next_of_lt (hcap : r.cap < 2 ^ 32) (hfirst : first < r.cap) :
    r.next^[n] first = (first + n) % r.cap := by
  induction n with
  | zero => exact (Nat.mod_eq_of_lt hfirst).symm
  | succ n ih =>
    have hlt := Nat.mod_lt (first + n) (Nat.zero_lt_of_lt hfirst)
    rw [Function.iterate_succ_apply', ih, next_of_lt hcap hlt, Nat.mod_add_mod, Nat.add_assoc]

theorem iterate_next_of_le (hcap : 2 ^ 32 ≤ r.cap) : r.next^[n] first = first + n := by
  induction n with
  | zero => rfl
  | succ n ih => rw [Function.iterate_succ_apply', ih, next_of_le hcap, Nat.add_assoc]

/-- The number of steps to an iterator that is reached at all. -/
theorem steps_eq (hfirst : first < r.cap) (hlast : last < r.cap)
    (hn : IsLeast {n | r.next^[n] first = last} n) :
    n = (last + r.cap - first) % r.cap ∧ (2 ^ 32 ≤ r.cap → first + n = last) := by
  obtain ⟨hreach, hleast⟩ := hn
  have hreach : r.next^[n] first = last := hreach
  rcases Nat.lt_or_ge r.cap (2 ^ 32) with hcap | hcap
  · refine ⟨?_, fun hle => absurd hcap (Nat.not_lt.2 hle)⟩
    have hpos := Nat.zero_lt_of_lt hfirst
    have hgap : (first + (last + r.cap - first) % r.cap) % r.cap = last := by
      rw [Nat.add_mod_mod, Nat.add_sub_of_le (by omega), Nat.add_mod_right,
        Nat.mod_eq_of_lt hlast]
    have hle : n ≤ (last + r.cap - first) % r.cap := by
      apply hleast
      exact (iterate_next_of_lt hcap hfirst).trans hgap
    have hlt := Nat.mod_lt (last + r.cap - first) hpos
    rw [iterate_next_of_lt hcap hfirst, ← hgap] at hreach
    exact mod_inj (Nat.lt_of_le_of_lt hle hlt) hlt hreach
  · rw [iterate_next_of_le hcap] at hreach
    refine ⟨?_, fun _ => hreach⟩
    have hgap : last + r.cap - first = n + r.cap := by omega
    rw [hgap, Nat.add_mod_right, Nat.mod_eq_of_lt (by omega)]

/-- A number of steps as 32 bits with a sign. -/
theorem bmod_eq_self_iff : (n : ℤ).bmod (2 ^ 32) = n ↔ n < 2 ^ 31 := by
  rw [Int.bmod_def]
  omega

/-- The distance is the number of steps, but for whole turns and the number of bits. -/
theorem toInt_dist (r : SeqRing α) (first last : ℕ) : (r.dist first last).toInt =
    Int.bmod ((if first % 2 ^ 32 < last % 2 ^ 32 then 0 else r.cap) + last - first) (2 ^ 32) := by
  have hlt : UInt32.ofNat last > UInt32.ofNat first ↔ first % 2 ^ 32 < last % 2 ^ 32 := by
    rw [gt_iff_lt, UInt32.lt_iff_toNat_lt, UInt32.toNat_ofNat', UInt32.toNat_ofNat']
  rw [dist]
  by_cases h : first % 2 ^ 32 < last % 2 ^ 32
  · have hsub : (UInt32.ofNat last - UInt32.ofNat first).toNat =
        last % 2 ^ 32 - first % 2 ^ 32 := by
      rw [UInt32.toNat_sub_of_le, UInt32.toNat_ofNat', UInt32.toNat_ofNat']
      rw [UInt32.le_iff_toNat_le, UInt32.toNat_ofNat', UInt32.toNat_ofNat']
      exact Nat.le_of_lt h
    have hint : (UInt32.ofNat last - UInt32.ofNat first).toInt32.toInt =
        Int.bmod (UInt32.ofNat last - UInt32.ofNat first).toNat (2 ^ 32) :=
      BitVec.toInt_eq_toNat_bmod _
    rw [if_pos (hlt.2 h), if_pos h, hint, hsub, Int.bmod_eq_bmod_iff_bmod_sub_eq_zero,
      ← Int.dvd_iff_bmod_eq_zero]
    omega
  · rw [if_neg (mt hlt.1 h), if_neg h, Int32.toInt_ofInt, UInt32.toNat_ofNat',
      UInt32.toNat_ofNat']
    change Int.bmod _ (2 ^ 32) = Int.bmod _ (2 ^ 32)
    rw [Int.bmod_eq_bmod_iff_bmod_sub_eq_zero, ← Int.dvd_iff_bmod_eq_zero]
    omega

/-- What the distance is when the last iterator is reached. -/
theorem toInt_dist_of_isLeast (hpow : ∃ k, r.cap = 2 ^ k) (hfirst : first < r.cap)
    (hlast : last < r.cap) (hn : IsLeast {n | r.next^[n] first = last} n) :
    (r.dist first last).toInt = Int.bmod (if first = last then r.cap else n) (2 ^ 32) := by
  obtain ⟨hgap, hbig⟩ := steps_eq hfirst hlast hn
  rw [toInt_dist, Int.bmod_eq_bmod_iff_bmod_sub_eq_zero, ← Int.dvd_iff_bmod_eq_zero]
  rcases Nat.lt_or_ge r.cap (2 ^ 32) with hcap | hcap
  · rw [Nat.mod_eq_of_lt (Nat.lt_trans hfirst hcap), Nat.mod_eq_of_lt (Nat.lt_trans hlast hcap)]
    rw [mod_of_lt_two_mul (by omega)] at hgap
    split_ifs at hgap ⊢ <;> omega
  · have hreach := hbig hcap
    have hdvd : (2 ^ 32 : ℕ) ∣ r.cap := by
      obtain ⟨k, hk⟩ := hpow
      rw [hk] at hcap ⊢
      exact Nat.pow_dvd_pow 2 ((Nat.pow_le_pow_iff_right Nat.one_lt_two).1 hcap)
    split_ifs <;> omega

end Steps

/-- In every ring, the distance of an iterator from one that reaches it is the number of steps if
and only if they are fewer than `2 ^ 31`, and the iterators are different or the capacity is
`2 ^ 32` or more. -/
theorem dist_eq_steps_iff {α : Type u} [Inhabited α] {r : SeqRing α} (hr : r.Reachable)
    {first last n : ℕ} (hfirst : first < r.cap) (hlast : last < r.cap)
    (hn : IsLeast {n | r.next^[n] first = last} n) :
    (r.dist first last).toInt = n ↔
      (last + r.cap - first) % r.cap < 2 ^ 31 ∧ (first ≠ last ∨ 2 ^ 32 ≤ r.cap) := by
  obtain ⟨hgap, -⟩ := steps_eq hfirst hlast hn
  obtain ⟨k, hk⟩ := hr.cap_eq
  rw [toInt_dist_of_isLeast ⟨k, hk⟩ hfirst hlast hn, ← hgap]
  by_cases heq : first = last
  · have hzero : n = 0 := by
      rw [hgap, heq, Nat.add_sub_cancel_left, Nat.mod_self]
    rw [if_pos heq, hzero]
    constructor
    · intro hcap
      have hdvd : ((2 ^ 32 : ℕ) : ℤ) ∣ r.cap := Int.dvd_iff_bmod_eq_zero.2 hcap
      exact ⟨by decide, .inr (Nat.le_of_dvd (Nat.zero_lt_of_lt hfirst) (by omega))⟩
    · rintro ⟨-, hne | hle⟩
      · exact absurd heq hne
      · rw [hk] at hle ⊢
        have hdvd := Nat.pow_dvd_pow 2 ((Nat.pow_le_pow_iff_right Nat.one_lt_two).1 hle)
        exact Int.dvd_iff_bmod_eq_zero.1 (by exact_mod_cast hdvd)
  · rw [if_neg heq, bmod_eq_self_iff]
    constructor
    · intro hlt
      exact ⟨hlt, .inl heq⟩
    · intro h
      exact h.1

/-- Two steps across the end of the array. -/
theorem dist_eq_steps_iff_wrap : (dist (init : SeqRing Unit) 31 1).toInt = (2 : ℕ) := by
  have hn : IsLeast {n | (init : SeqRing Unit).next^[n] 31 = 1} 2 := by
    refine ⟨rfl, ?_⟩
    intro n hn
    match n with
    | 0 => cases hn
    | 1 => cases hn
    | n + 2 => exact Nat.le_add_left 2 n
  exact (dist_eq_steps_iff .init (by decide) (by decide) hn).2 ⟨by decide, .inl (by decide)⟩

/-- The distance of the front of a new ring from itself is a whole turn. -/
theorem dist_self_init :
    IsLeast {n | (init : SeqRing Unit).next^[n] (init : SeqRing Unit).front =
      (init : SeqRing Unit).front} 0 ∧
    (dist (init : SeqRing Unit) (init : SeqRing Unit).front (init : SeqRing Unit).front).toInt =
      32 := by
  refine ⟨⟨rfl, fun n _ => Nat.zero_le n⟩, by decide⟩

end SeqRing

end FlexRic
