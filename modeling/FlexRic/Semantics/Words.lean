import Mathlib.Algebra.Ring.Nat
import Mathlib.Data.Nat.Find
import Mathlib.Order.Bounds.Basic

/-!
# Words that are searched from their end

A word `q` of `m` letters is read from its end: `q 0` is the last letter. While it is searched for
in a text, its last `k` letters agree with the text and the one before them does not. A shift of the
word is good if it can still lead to an occurrence; how far to go without missing one is a matter of
the periods of the word.
-/

namespace FlexRic.Words

universe u

variable {β : Type u} {q : ℕ → β} {m n k l r t t' : ℕ}

/-! ## Periods -/

/-- The last `n` letters have the period `t`. -/
structure Period (q : ℕ → β) (n t : ℕ) : Prop where
  pos : 0 < t
  eq : ∀ z, z + t < n → q (z + t) = q z

theorem period_of_le (hpos : 0 < t) (hle : n ≤ t) : Period q n t :=
  ⟨hpos, fun _ hz => absurd hz (by omega)⟩

/-- The larger periods are those of what is left without a period. -/
theorem Period.sub_iff (h : Period q n t) (hlt : t < t') :
    Period q n t' ↔ Period q (n - t) (t' - t) := by
  have hstep : ∀ z, z + t' < n → q (z + t') = q (z + (t' - t)) := by
    intro z hz
    rw [← h.eq (z + (t' - t)) (by omega)]
    congr 1
    omega
  constructor
  · intro h'
    refine ⟨by omega, fun z hz => ?_⟩
    rw [← hstep z (by omega), h'.eq z (by omega)]
  · intro h'
    refine ⟨by omega, fun z hz => ?_⟩
    rw [hstep z hz, h'.eq z (by omega)]

/-- The next period after one. -/
theorem Period.isLeast_next {u : ℕ} (h : Period q n t) (hu : IsLeast {u | Period q (n - t) u} u) :
    IsLeast {t' | t < t' ∧ Period q n t'} (t + u) := by
  have hpos : 0 < u := hu.1.pos
  constructor
  · refine ⟨by omega, (h.sub_iff (by omega)).2 ?_⟩
    rw [Nat.add_sub_cancel_left]
    exact hu.1
  · rintro t' ⟨hlt, h'⟩
    have hle : u ≤ t' - t := hu.2 ((h.sub_iff hlt).1 h')
    omega

/-- A period of one letter more. -/
theorem period_succ_iff : Period q (n + 1) t ↔ Period q n t ∧ (t ≤ n → q n = q (n - t)) := by
  constructor
  · intro h
    refine ⟨⟨h.pos, fun z hz => h.eq z (by omega)⟩, fun hle => ?_⟩
    have hlast := h.eq (n - t) (by omega)
    rwa [Nat.sub_add_cancel hle] at hlast
  · rintro ⟨h, hlast⟩
    refine ⟨h.pos, fun z hz => ?_⟩
    rcases Nat.lt_succ_iff_lt_or_eq.1 hz with hz | hz
    · exact h.eq z hz
    · rw [hz, hlast (by omega)]
      congr 1
      omega

/-! ## Good shifts -/

/-- After the shift by `t` the word agrees with its last `k` letters at their old places, and has
another letter at the place before them. -/
structure GoodShift (q : ℕ → β) (m k t : ℕ) : Prop where
  pos : 0 < t
  agrees : ∀ z < k, z + t < m → q (z + t) = q z
  differs : k + t < m → q (k + t) ≠ q k

instance [DecidableEq β] (q : ℕ → β) (m k t : ℕ) : Decidable (GoodShift q m k t) :=
  decidable_of_iff (0 < t ∧ (∀ z < k, z + t < m → q (z + t) = q z) ∧ (k + t < m → q (k + t) ≠ q k))
    ⟨fun h => ⟨h.1, h.2.1, h.2.2⟩, fun h => ⟨h.pos, h.agrees, h.differs⟩⟩

theorem exists_goodShift (q : ℕ → β) (m k : ℕ) : ∃ t, GoodShift q m k t :=
  ⟨m + 1, Nat.succ_pos m, fun _ _ h => absurd h (by omega), fun h => absurd h (by omega)⟩

/-- The least good shift. -/
def goodShift [DecidableEq β] (q : ℕ → β) (m k : ℕ) : ℕ := Nat.find (exists_goodShift q m k)

theorem isLeast_goodShift [DecidableEq β] (q : ℕ → β) (m k : ℕ) :
    IsLeast {t | GoodShift q m k t} (goodShift q m k) :=
  ⟨Nat.find_spec (exists_goodShift q m k), fun _ h => Nat.find_min' (exists_goodShift q m k) h⟩

theorem goodShift_eq [DecidableEq β] (h : IsLeast {t | GoodShift q m k t} t) :
    goodShift q m k = t :=
  (isLeast_goodShift q m k).unique h

theorem goodShift_pos [DecidableEq β] (q : ℕ → β) (m k : ℕ) : 0 < goodShift q m k :=
  (isLeast_goodShift q m k).1.pos

theorem goodShift_le [DecidableEq β] (q : ℕ → β) (m k : ℕ) : goodShift q m k ≤ m + 1 :=
  (isLeast_goodShift q m k).2
    ⟨Nat.succ_pos m, fun _ _ h => absurd h (by omega), fun h => absurd h (by omega)⟩

/-- Within the word a good shift is a period that does not go on. -/
theorem goodShift_iff_period (hle : k + t ≤ m) :
    GoodShift q m k t ↔ Period q (k + t) t ∧ (k + t < m → q (k + t) ≠ q k) := by
  constructor
  · intro h
    exact ⟨⟨h.pos, fun z hz => h.agrees z (by omega) (by omega)⟩, h.differs⟩
  · rintro ⟨h, hdiffers⟩
    exact ⟨h.pos, fun z hz _ => h.eq z (by omega), hdiffers⟩

/-- Beyond that it is a period of the whole word. -/
theorem goodShift_iff_period_of_le (hle : m ≤ k + t) : GoodShift q m k t ↔ Period q m t := by
  constructor
  · intro h
    exact ⟨h.pos, fun z hz => h.agrees z (by omega) hz⟩
  · intro h
    exact ⟨h.pos, fun z _ hz => h.eq z hz, fun hlt => absurd hlt (by omega)⟩

/-! ## Occurrences -/

/-- The last `l` letters agree with the text up to the place `e`. -/
def Agrees (q h : ℕ → β) (e l : ℕ) : Prop := ∀ z < l, h (e - z) = q z

/-- A shift that leads to an occurrence is good. -/
theorem goodShift_of_agrees {h : ℕ → β} {e s : ℕ} (hagrees : Agrees q h e l)
    (hdiffers : h (e - l) ≠ q l) (hs : 0 < s) (hocc : Agrees q h (e + s) m) :
    GoodShift q m l s := by
  have hat : ∀ z, z + s < m → q (z + s) = h (e - z) := by
    intro z hz
    rw [← hocc (z + s) hz, Nat.add_sub_add_right]
  refine ⟨hs, fun z hz hlt => ?_, fun hlt heq => ?_⟩
  · rw [hat z hlt, hagrees z hz]
  · rw [hat l hlt] at heq
    exact hdiffers heq

/-! ## Shifts that do not leave what agreed

The letters agree with the text up to a place, the letter before them does not, and the least good
shift `t` is not longer than they are. Wherever the word is put between the shift by `t` and its old
place, `r` letters before that, it disagrees with the text that is known, and the good shift for
this disagreement leads to such a place again. -/

section

variable (hleast : IsLeast {t | GoodShift q m k t} t) (htk : t ≤ k) (hkm : k < m)

include hleast htk hkm in
/-- There is a disagreement within the known text. -/
theorem disagrees_within {c : β} (hc : c ≠ q k) (hr : r + t ≤ k)
    (hagrees : ∀ z < k - r, q (r + z) = q z) : c ≠ q (k - r) := by
  rintro rfl
  have hgood := hleast.1
  have hpos := hgood.pos
  -- both of the periods lead from there to the letter that disagreed
  have hone := hgood.agrees (k - r - t) (by omega) (by omega)
  have htwo := hagrees (k - t - r) (by omega)
  have hthree := hgood.agrees (k - t) (by omega) (by omega)
  rw [Nat.sub_add_cancel (by omega)] at hone hthree
  rw [Nat.add_sub_cancel' (by omega)] at htwo
  rw [hthree, htwo, hone] at hc
  exact hc (congrArg q (by omega))

/-- The good shift for a disagreement inside leads to the old place at most. -/
theorem goodShift_within (hagrees : ∀ z < l, q (r + z) = q z)
    (hdiffers : q (r + l) ≠ q l) : GoodShift q m l r := by
  have hpos : 0 < r := by
    by_contra hzero
    rw [Nat.eq_zero_of_not_pos hzero, Nat.zero_add] at hdiffers
    exact hdiffers rfl
  refine ⟨hpos, fun z hz _ => ?_, fun _ => ?_⟩
  · rw [Nat.add_comm, hagrees z hz]
  · rwa [Nat.add_comm]

include hleast htk in
/-- The same at the end of what agreed. -/
theorem exists_goodShift_end (hr : r + t ≤ k) (hagrees : ∀ z < k - r, q (r + z) = q z) :
    ∃ t', GoodShift q m (k - r) t' ∧ t' ≤ k := by
  have hgood := hleast.1
  by_cases hzero : r = 0
  · rw [hzero, Nat.sub_zero]
    exact ⟨t, hgood, htk⟩
  · by_cases heq : q k = q (k - r)
    · refine ⟨r + t, ⟨by omega, fun z hz hlt => ?_, fun hlt => ?_⟩, by omega⟩
      · have hone := hgood.agrees (r + z) (by omega) (by omega)
        rw [hagrees z hz] at hone
        rw [← hone]
        congr 1
        omega
      · have hdiffers := hgood.differs (by omega)
        rw [← heq]
        have hplace : k - r + (r + t) = k + t := by omega
        rwa [hplace]
    · refine ⟨r, ⟨by omega, fun z hz _ => ?_, fun _ => ?_⟩, by omega⟩
      · rw [Nat.add_comm, hagrees z hz]
      · rwa [Nat.sub_add_cancel (by omega)]

include hleast htk hkm in
/-- And it leads at least as far as the shift by `t`. -/
theorem le_goodShift_end (hr : r + t ≤ k) (h : GoodShift q m (k - r) t') : t ≤ t' := by
  have hgood := hleast.1
  by_contra hlt
  by_cases hzero : r = 0
  · rw [hzero, Nat.sub_zero] at h
    exact hlt (hleast.2 h)
  · by_cases hin : k - r + t' < m
    · -- the period makes the letters the same that are to differ
      apply h.differs hin
      have hone := hgood.agrees (k - r + t' - t) (by omega) (by omega)
      have htwo := h.agrees (k - r - t) (by have := hgood.pos; omega) (by omega)
      have hthree := hgood.agrees (k - r - t) (by have := hgood.pos; omega) (by omega)
      rw [Nat.sub_add_cancel (by omega)] at hone hthree
      rw [hone, hthree, ← htwo]
      congr 1
      omega
    · -- the shift would be good for what agreed at first
      refine hlt (hleast.2 ⟨h.pos, fun z hz hlt' => ?_, fun hlt' => absurd hlt' (by omega)⟩)
      exact h.agrees z (by omega) hlt'

end

end FlexRic.Words
