import FlexRic.AlgDs.BooyerMoore

/-!
# What the search for a string finds

The two shifts never go beyond an occurrence. But the second is counted from the end of the needle
and added to the position of the mismatch: where it is not more than what agreed, the needle is not
moved on, and from there on the search goes around in a circle.
-/

namespace FlexRic

open Words

namespace BooyerMoore

variable {needle haystack : List UInt8}

/-! ## What is searched for -/

/-- The needle is in the haystack at `p`. Nothing is searched for with an empty needle. -/
structure OccursAt (needle haystack : List UInt8) (p : ℕ) : Prop where
  ne_nil : needle ≠ []
  isPrefix : needle <+: haystack.drop p

/-- The result of a search: the position of the first occurrence, if there is one. -/
def FirstOccurrence (needle haystack : List UInt8) : Option ℕ → Prop
  | none => ∀ p, ¬ OccursAt needle haystack p
  | some p => IsLeast {p | OccursAt needle haystack p} p

/-- Both of the searches find the first occurrence, the plain one where its assertions hold. -/
def Searches (needle haystack : List UInt8) : Prop :=
  ∃ found, FirstOccurrence needle haystack found ∧
    (∃ fuel, searchBooyerMoore needle haystack fuel = some found) ∧
    (needle ≠ [] → needle.length ≤ haystack.length → searchNaive needle haystack = some found)

/-! ## More fuel -/

theorem searchLoop_mono {d1 d2 : List ℤ} {i j fuel fuel' : ℕ} {found : Option ℕ}
    (hle : fuel ≤ fuel') (h : searchLoop needle haystack d1 d2 fuel i j = some found) :
    searchLoop needle haystack d1 d2 fuel' i j = some found := by
  induction fuel generalizing fuel' i j with
  | zero => cases h
  | succ fuel ih =>
    obtain ⟨fuel', rfl⟩ : ∃ k, fuel' = k + 1 := ⟨fuel' - 1, by omega⟩
    rw [searchLoop] at h ⊢
    by_cases hi : i < haystack.length
    · rw [if_pos hi] at h ⊢
      simp only [Option.bind_eq_bind, Option.bind_eq_some_iff] at h ⊢
      obtain ⟨c, hc, c', hc', h⟩ := h
      refine ⟨c, hc, c', hc', ?_⟩
      by_cases hne : c ≠ c'
      · rw [if_pos hne, Option.bind_eq_some_iff] at h ⊢
        obtain ⟨shift, hshift, h⟩ := h
        exact ⟨shift, hshift, ih (by omega) h⟩
      · rw [if_neg hne] at h ⊢
        by_cases hj : j = 0
        · rw [if_pos hj] at h ⊢
          exact h
        · rw [if_neg hj] at h ⊢
          exact ih (by omega) h
    · rw [if_neg hi] at h ⊢
      exact h

theorem searchBooyerMoore_mono {fuel fuel' : ℕ} {found : Option ℕ} (hle : fuel ≤ fuel')
    (h : searchBooyerMoore needle haystack fuel = some found) :
    searchBooyerMoore needle haystack fuel' = some found := by
  rw [searchBooyerMoore] at h ⊢
  by_cases hempty : needle.length = 0 ∨ haystack.length = 0
  · rw [if_pos hempty] at h ⊢
    exact h
  · rw [if_neg hempty] at h ⊢
    simp only [Option.bind_eq_bind, Option.bind_eq_some_iff] at h ⊢
    obtain ⟨d1, hd1, d2, hd2, h⟩ := h
    exact ⟨d1, hd1, d2, preProcessDelta2_mono hle hd2, searchLoop_mono hle h⟩

/-! ## A mismatch -/

theorem badShift_le (needle : List UInt8) (c : UInt8) : badShift needle c ≤ needle.length := by
  rw [badShift, ← List.length_reverse]
  exact List.idxOf_le_length

theorem advance_le (needle : List UInt8) (l : ℕ) (c : UInt8) :
    advance needle l c ≤ needle.length + 1 := by
  have hbad := badShift_le needle c
  have hgood := goodShift_le (letters needle) needle.length l
  rw [advance]
  omega

theorem shift_eq {d1 d2 : List ℤ} (ht : Tables needle d1 d2) (hlength : needle.length < 2 ^ 31 - 1)
    {l : ℕ} (hl : l < needle.length) {c : UInt8} (hc : c < 128) :
    shift needle d1 d2 (needle.length - 1 - l) c = some (advance needle l c) := by
  have hchar : toSizeT (toChar c) = c.toNat := by
    have hlt := c.toNat_lt
    rw [toChar, if_pos hc, toSizeT_of_lt (by omega)]
  have hplace : needle.length - 1 - l + 1 = needle.length - l := by omega
  have hbad := badShift_le needle c
  have hgood := goodShift_le (letters needle) needle.length l
  rw [shift, hchar, ht.bad, hplace, ht.good l (Nat.le_of_lt hl)]
  have hshift1 : (needle.length : ℤ) - 1 - (needle.length - 1 - badShift needle c)
      = badShift needle c := by
    omega
  simp only [Option.bind_eq_bind, Option.bind_some]
  rw [hshift1, toSizeT_of_lt (by omega), toSizeT_of_lt (by omega), advance]

/-- A negative character is an index outside of the first table. -/
theorem shift_eq_none {d1 d2 : List ℤ} (ht : Tables needle d1 d2) (j : ℕ) {c : UInt8}
    (hc : ¬ c < 128) : shift needle d1 d2 j c = none := by
  have hlt := c.toNat_lt
  have hge : d1.length ≤ toSizeT (toChar c) := by
    rw [ht.length, toChar, if_neg hc, toSizeT]
    omega
  rw [shift, List.getElem?_eq_none hge]
  rfl

/-- The characters of the haystack. -/
def text (haystack : List UInt8) (i : ℕ) : UInt8 := haystack.getD i 0

theorem getElem?_text {i : ℕ} (hi : i < haystack.length) :
    haystack[i]? = some (text haystack i) := by
  rw [text, List.getD_eq_getElem?_getD, List.getElem?_eq_getElem hi, Option.getD_some]

/-- With its end at `e`, the needle agrees with the haystack in its last `l` letters, and not in the
one before them. -/
structure Misses (needle haystack : List UInt8) (e l : ℕ) : Prop where
  lt : e < haystack.length
  lt_length : l < needle.length
  agrees : Agrees (letters needle) (text haystack) e l
  differs : text haystack (e - l) ≠ letters needle l

/-- The first of the disagreements. -/
theorem exists_misses {e k : ℕ} (he : e < haystack.length) (hk : k < needle.length)
    (hdiffers : text haystack (e - k) ≠ letters needle k) :
    ∃ l ≤ k, Misses needle haystack e l := by
  have hex : ∃ l, text haystack (e - l) ≠ letters needle l := ⟨k, hdiffers⟩
  have hle : Nat.find hex ≤ k := Nat.find_min' hex hdiffers
  refine ⟨Nat.find hex, hle, he, by omega, fun z hz => ?_, Nat.find_spec hex⟩
  exact not_not.1 (Nat.find_min hex hz)

section

variable {d1 d2 : List ℤ} (ht : Tables needle d1 d2) (hlength : needle.length < 2 ^ 31 - 1)
  (hfits : haystack.length < 2 ^ 63)

include hlength hfits in
/-- The loop goes back while the letters agree. -/
theorem searchLoop_of_agrees {e l : ℕ} (he : e < haystack.length) (hl : l < needle.length)
    (hle : l ≤ e) (hagrees : Agrees (letters needle) (text haystack) e l) (fuel : ℕ) :
    searchLoop needle haystack d1 d2 (fuel + l) e (needle.length - 1)
      = searchLoop needle haystack d1 d2 fuel (e - l) (needle.length - 1 - l) := by
  induction l generalizing fuel with
  | zero => rfl
  | succ l ih =>
    have hback := ih (by omega) (by omega) (fun z hz => hagrees z (by omega)) (fuel + 1)
    have hc : text haystack (e - l) = letters needle l := hagrees l (Nat.lt_succ_self l)
    have hsum : fuel + (l + 1) = fuel + 1 + l := by omega
    rw [hsum, hback, searchLoop, if_pos (by omega), getElem?_text (by omega),
      getElem?_letters (by omega)]
    simp only [Option.bind_eq_bind, Option.bind_some]
    rw [if_neg (not_not.2 hc), if_neg (by omega), decr_of_pos (by omega) (by omega),
      decr_of_pos (by omega) (by omega), Nat.sub_sub, Nat.sub_sub _ l 1]

include ht hlength hfits in
/-- A mismatch puts the end of the needle beyond the mismatch. -/
theorem searchLoop_of_misses {e l : ℕ} (h : Misses needle haystack e l) (hle : l ≤ e)
    (hc : text haystack (e - l) < 128) (fuel : ℕ) :
    searchLoop needle haystack d1 d2 (fuel + 1 + l) e (needle.length - 1)
      = searchLoop needle haystack d1 d2 fuel
          (e - l + advance needle l (text haystack (e - l))) (needle.length - 1) := by
  have hlt := h.lt
  have hl := h.lt_length
  have hadvance := advance_le needle l (text haystack (e - l))
  rw [searchLoop_of_agrees hlength hfits hlt hl hle h.agrees, searchLoop, if_pos (by omega),
    getElem?_text (by omega), getElem?_letters hl]
  simp only [Option.bind_eq_bind, Option.bind_some]
  rw [if_pos h.differs, shift_eq ht hlength hl hc, Option.bind_some, ← Int.natCast_add,
    toSizeT_of_lt (by omega)]

include ht hlength hfits in
/-- What a search that comes to an end did at a mismatch. -/
theorem of_searchLoop_eq_some {e l fuel : ℕ} {found : Option ℕ} (h : Misses needle haystack e l)
    (hle : l ≤ e) (hsearch : searchLoop needle haystack d1 d2 (fuel + 1) e (needle.length - 1)
      = some found) :
    text haystack (e - l) < 128 ∧ searchLoop needle haystack d1 d2 fuel
      (e - l + advance needle l (text haystack (e - l))) (needle.length - 1) = some found := by
  have hmore := searchLoop_mono (Nat.le_add_right (fuel + 1) l) hsearch
  have hlt := h.lt
  have hl := h.lt_length
  by_cases hc : text haystack (e - l) < 128
  · rw [searchLoop_of_misses ht hlength hfits h hle hc] at hmore
    exact ⟨hc, hmore⟩
  · rw [searchLoop_of_agrees hlength hfits hlt hl hle h.agrees, searchLoop, if_pos (by omega),
      getElem?_text (by omega), getElem?_letters hl] at hmore
    simp only [Option.bind_eq_bind, Option.bind_some] at hmore
    rw [if_pos h.differs, shift_eq_none ht _ hc] at hmore
    cases hmore

end

/-! ## The circle

After a mismatch at `k` letters from `e` that does not move the needle on, the end of the needle
stays `r` places before `e`, never as far as the good shift of these letters would lead back. -/

theorem ne_of_lt_badShift {z : ℕ} {c : UInt8} (hz : z < badShift needle c) :
    letters needle z ≠ c := by
  have hlt : z < needle.reverse.length := by
    rw [List.length_reverse]
    exact Nat.lt_of_lt_of_le hz (badShift_le needle c)
  have hne := List.not_of_lt_findIdx hz
  rw [letters, List.getD_eq_getElem?_getD, List.getElem?_eq_getElem hlt, Option.getD_some]
  simpa using hne

theorem badShift_letters_le (needle : List UInt8) (z : ℕ) :
    badShift needle (letters needle z) ≤ z :=
  Nat.not_lt.1 fun hlt => ne_of_lt_badShift hlt rfl

section

variable {e k r l : ℕ} (h : Misses needle haystack e k) (hle : k ≤ e)
  (hr : r + goodShift (letters needle) needle.length k ≤ k)

include h in
theorem Misses.known {z : ℕ} (hz : z < k - r) :
    text haystack (e - r - z) = letters needle (r + z) := by
  rw [Nat.sub_sub]
  exact h.agrees (r + z) (by omega)

include h hle hr in
/-- Somewhere in what is known the letters disagree again. -/
theorem exists_misses_within : ∃ l ≤ k - r, Misses needle haystack (e - r) l := by
  have hlt := h.lt
  have hk := h.lt_length
  by_cases hall : ∀ z < k - r, letters needle (r + z) = letters needle z
  · have hlast : e - r - (k - r) = e - k := by omega
    apply exists_misses (by omega) (by omega)
    rw [hlast]
    exact disagrees_within (isLeast_goodShift _ _ _) (by omega) hk h.differs hr hall
  · push Not at hall
    obtain ⟨z, hz, hne⟩ := hall
    obtain ⟨l, hl, hmiss⟩ := exists_misses (show e - r < haystack.length by omega)
      (show z < needle.length by omega) (by rwa [h.known hz])
    exact ⟨l, by omega, hmiss⟩

include h hle hr in
/-- From there the end of the needle comes to such a place again. -/
theorem exists_advance_eq (hstays : advance needle k (text haystack (e - k)) ≤ k)
    (hmiss : Misses needle haystack (e - r) l) (hl : l ≤ k - r)
    (hmoves : l < k - r → l < advance needle l (text haystack (e - r - l))) :
    ∃ r', r' + goodShift (letters needle) needle.length k ≤ k ∧
      e - r' = e - r - l + advance needle l (text haystack (e - r - l)) := by
  have hagree : ∀ z < l, letters needle (r + z) = letters needle z := by
    intro z hz
    rw [← h.known (show z < k - r by omega), hmiss.agrees z hz]
  suffices hbounds : advance needle l (text haystack (e - r - l)) ≤ r + l ∧
      r + l + goodShift (letters needle) needle.length k
        ≤ k + advance needle l (text haystack (e - r - l)) by
    refine ⟨r + l - advance needle l (text haystack (e - r - l)), ?_, ?_⟩
    · omega
    · omega
  rcases Nat.lt_or_eq_of_le hl with hin | rfl
  · -- inside, the letter that is missed is one of the needle
    have hmoves := hmoves hin
    have hdiffers := hmiss.differs
    rw [h.known hin] at hdiffers hmoves ⊢
    have hbad := badShift_letters_le needle (r + l)
    have hgood := goodShift_within (m := needle.length) hagree hdiffers
    have hpos := hgood.pos
    have hshift := (isLeast_goodShift _ _ _).2 hgood
    constructor
    · rw [advance]
      omega
    · omega
  · -- at the end of what is known it is the one that was missed before
    have hlast : e - r - (k - r) = e - k := by omega
    have hleast := isLeast_goodShift (letters needle) needle.length k
    have htk : goodShift (letters needle) needle.length k ≤ k := by omega
    have hlower : goodShift (letters needle) needle.length k
        ≤ goodShift (letters needle) needle.length (k - r) :=
      le_goodShift_end hleast htk h.lt_length hr (isLeast_goodShift _ _ _).1
    obtain ⟨t', ht', hle'⟩ := exists_goodShift_end hleast htk hr hagree
    have hupper := (isLeast_goodShift _ _ _).2 ht'
    rw [hlast]
    rw [advance] at hstays ⊢
    omega

end

/-- The search does not come to an end. -/
theorem searchLoop_eq_none {d1 d2 : List ℤ} (ht : Tables needle d1 d2)
    (hlength : needle.length < 2 ^ 31 - 1) (hfits : haystack.length < 2 ^ 63) {e k r : ℕ}
    (h : Misses needle haystack e k) (hle : k ≤ e)
    (hstays : advance needle k (text haystack (e - k)) ≤ k)
    (hr : r + goodShift (letters needle) needle.length k ≤ k) (fuel : ℕ) :
    searchLoop needle haystack d1 d2 fuel (e - r) (needle.length - 1) = none := by
  induction k using Nat.strong_induction_on generalizing e r fuel with
  | _ k ihk =>
    induction fuel generalizing r with
    | zero => rfl
    | succ fuel ih =>
      by_contra hsome
      obtain ⟨found, hfound⟩ := Option.ne_none_iff_exists'.1 hsome
      obtain ⟨l, hl, hmiss⟩ := exists_misses_within h hle hr
      by_cases hagain : l < k - r ∧ advance needle l (text haystack (e - r - l)) ≤ l
      · -- a smaller circle within this one
        have hgood : 0 + goodShift (letters needle) needle.length l ≤ l := by
          have hstays' := hagain.2
          rw [advance] at hstays'
          omega
        have hnone := ihk l (by omega) hmiss (by omega) hagain.2 hgood (fuel + 1)
        rw [Nat.sub_zero, hfound] at hnone
        cases hnone
      · obtain ⟨r', hr', hplace⟩ := exists_advance_eq h hle hr hstays hmiss hl (by omega)
        obtain ⟨-, hnext⟩ := of_searchLoop_eq_some ht hlength hfits hmiss (by omega) hfound
        rw [← hplace, ih hr'] at hnext
        cases hnext

/-! ## Occurrences -/

/-- An occurrence, from its end. -/
theorem occursAt_iff (hne : needle ≠ []) {p : ℕ} :
    OccursAt needle haystack p ↔ p + needle.length ≤ haystack.length ∧
      Agrees (letters needle) (text haystack) (p + needle.length - 1) needle.length := by
  have hpos : 0 < needle.length := List.length_pos_iff.2 hne
  have hat : ∀ i < needle.length, p + needle.length ≤ haystack.length →
      ((haystack.drop p)[i]? = needle[i]? ↔
        text haystack (p + i) = letters needle (needle.length - 1 - i)) := by
    intro i hi hle
    have hplace : needle.length - 1 - (needle.length - 1 - i) = i := by omega
    have hletter := getElem?_letters (show needle.length - 1 - i < needle.length by omega)
    rw [hplace] at hletter
    rw [List.getElem?_drop, getElem?_text (by omega), hletter, Option.some.injEq]
  constructor
  · intro h
    have hlen := h.isPrefix.length_le
    rw [List.length_drop] at hlen
    have hle : p + needle.length ≤ haystack.length := by omega
    refine ⟨hle, fun z hz => ?_⟩
    have hletter := List.prefix_iff_getElem?.1 h.isPrefix (needle.length - 1 - z) (by omega)
    rw [← List.getElem?_eq_getElem, hat _ (by omega) hle] at hletter
    have hplace : needle.length - 1 - (needle.length - 1 - z) = z := by omega
    rw [hplace] at hletter
    rw [← hletter]
    congr 1
    omega
  · rintro ⟨hle, hagrees⟩
    refine ⟨hne, List.prefix_iff_getElem?.2 fun i hi => ?_⟩
    rw [← List.getElem?_eq_getElem hi, hat i hi hle, ← hagrees _ (by omega)]
    congr 1
    omega

/-- The ends of the needle that the search comes to. -/
inductive Visits (needle haystack : List UInt8) : ℕ → Prop
  | start : Visits needle haystack (needle.length - 1)
  | next {e l : ℕ} (he : Visits needle haystack e) (h : Misses needle haystack e l) :
      Visits needle haystack (e - l + advance needle l (text haystack (e - l)))

/-- Each mismatch is with a character that is not negative, and the needle is moved on by more than
what agreed. -/
def MovesOn (needle haystack : List UInt8) : Prop :=
  ∀ e l, Visits needle haystack e → Misses needle haystack e l →
    text haystack (e - l) < 128 ∧ l < advance needle l (text haystack (e - l))

/-- No occurrence is skipped. -/
theorem advance_le_of_occurs {e l e' : ℕ} (h : Misses needle haystack e l) (hle : l ≤ e)
    (he : e ≤ e') (hocc : Agrees (letters needle) (text haystack) e' needle.length) :
    e - l + advance needle l (text haystack (e - l)) ≤ e' := by
  have hl := h.lt_length
  have hlt : e < e' := by
    apply Nat.lt_of_le_of_ne he
    rintro rfl
    exact h.differs (hocc l hl)
  have hbad : badShift needle (text haystack (e - l)) ≤ e' - (e - l) := by
    by_contra hskip
    have hlen := badShift_le needle (text haystack (e - l))
    apply ne_of_lt_badShift (Nat.not_le.1 hskip)
    rw [← hocc (e' - (e - l)) (by omega)]
    congr 1
    omega
  have hgood : goodShift (letters needle) needle.length l ≤ e' - e := by
    refine (isLeast_goodShift _ _ _).2 (goodShift_of_agrees h.agrees h.differs (by omega) ?_)
    rwa [Nat.add_sub_cancel' he]
  rw [advance]
  omega

/-- A search that moves on finds the first occurrence. -/
theorem exists_searchLoop_eq {d1 d2 : List ℤ} (ht : Tables needle d1 d2)
    (hlength : needle.length < 2 ^ 31 - 1) (hfits : haystack.length < 2 ^ 63) (hne : needle ≠ [])
    (hmoves : MovesOn needle haystack) {e : ℕ} (he : Visits needle haystack e)
    (hge : needle.length - 1 ≤ e)
    (hbefore : ∀ p, OccursAt needle haystack p → e ≤ p + needle.length - 1) :
    ∃ found fuel, searchLoop needle haystack d1 d2 fuel e (needle.length - 1) = some found ∧
      FirstOccurrence needle haystack found := by
  have hpos : 0 < needle.length := List.length_pos_iff.2 hne
  by_cases hlt : e < haystack.length
  · by_cases hall : Agrees (letters needle) (text haystack) e needle.length
    · -- the needle is found
      have hat : e - (needle.length - 1) + needle.length - 1 = e := by omega
      refine ⟨some (e - (needle.length - 1)), 1 + (needle.length - 1), ?_, ?_, fun p hp => ?_⟩
      · have hfirst := hall (needle.length - 1) (by omega)
        rw [searchLoop_of_agrees hlength hfits hlt (by omega) hge
          (fun z hz => hall z (by omega)), searchLoop, if_pos (by omega),
          getElem?_text (by omega), getElem?_letters (by omega)]
        simp only [Option.bind_eq_bind, Option.bind_some]
        rw [if_neg (not_not.2 hfirst), if_pos (Nat.sub_self _)]
      · refine (occursAt_iff hne).2 ⟨by omega, ?_⟩
        rwa [hat]
      · have hle := hbefore p hp
        omega
    · -- the needle is moved on
      obtain ⟨k, hk, hdiffers⟩ : ∃ k < needle.length,
          text haystack (e - k) ≠ letters needle k := by
        rw [Agrees] at hall
        push Not at hall
        exact hall
      obtain ⟨l, hl, hmiss⟩ := exists_misses hlt hk hdiffers
      obtain ⟨hc, hadvance⟩ := hmoves e l he hmiss
      obtain ⟨found, fuel, hsearch, hfound⟩ :=
        exists_searchLoop_eq ht hlength hfits hne hmoves (he.next hmiss) (by omega)
          fun p hp => advance_le_of_occurs hmiss (by omega) (hbefore p hp)
            ((occursAt_iff hne).1 hp).2
      refine ⟨found, fuel + 1 + l, ?_, hfound⟩
      rw [searchLoop_of_misses ht hlength hfits hmiss (by omega) hc, hsearch]
  · refine ⟨none, 1, by rw [searchLoop, if_neg hlt], fun p hp => ?_⟩
    have hle := hbefore p hp
    have hend := ((occursAt_iff hne).1 hp).1
    omega
termination_by haystack.length - e
decreasing_by omega

/-- A search that comes to an end moves on. -/
theorem movesOn_of_searchLoop {d1 d2 : List ℤ} (ht : Tables needle d1 d2)
    (hlength : needle.length < 2 ^ 31 - 1) (hfits : haystack.length < 2 ^ 63)
    {fuel : ℕ} {found : Option ℕ}
    (hsearch : searchLoop needle haystack d1 d2 fuel (needle.length - 1) (needle.length - 1)
      = some found) : MovesOn needle haystack := by
  -- a mismatch at an end from which the search comes to an end moves on
  have hstep : ∀ {e l fuel : ℕ}, needle.length - 1 ≤ e → Misses needle haystack e l →
      searchLoop needle haystack d1 d2 fuel e (needle.length - 1) = some found →
      text haystack (e - l) < 128 ∧ l < advance needle l (text haystack (e - l)) ∧
        ∃ fuel', searchLoop needle haystack d1 d2 fuel'
          (e - l + advance needle l (text haystack (e - l))) (needle.length - 1) = some found := by
    intro e l fuel hge hmiss hfound
    have hl := hmiss.lt_length
    cases fuel with
    | zero => cases hfound
    | succ fuel =>
      obtain ⟨hc, hnext⟩ := of_searchLoop_eq_some ht hlength hfits hmiss (by omega) hfound
      refine ⟨hc, ?_, fuel, hnext⟩
      by_contra hstays
      have hgood : 0 + goodShift (letters needle) needle.length l ≤ l := by
        rw [advance] at hstays
        omega
      have hnone := searchLoop_eq_none ht hlength hfits hmiss (by omega) (Nat.not_lt.1 hstays)
        hgood (fuel + 1)
      rw [Nat.sub_zero, hfound] at hnone
      cases hnone
  have hvisit : ∀ {e : ℕ}, Visits needle haystack e → needle.length - 1 ≤ e ∧
      ∃ fuel', searchLoop needle haystack d1 d2 fuel' e (needle.length - 1) = some found := by
    intro e he
    induction he with
    | start => exact ⟨le_rfl, fuel, hsearch⟩
    | next _ hmiss ih =>
      obtain ⟨hge, fuel', hfound⟩ := ih
      obtain ⟨-, hadvance, hnext⟩ := hstep hge hmiss hfound
      have hl := hmiss.lt_length
      exact ⟨by omega, hnext⟩
  intro e l he hmiss
  obtain ⟨hge, fuel', hfound⟩ := hvisit he
  obtain ⟨hc, hadvance, -⟩ := hstep hge hmiss hfound
  exact ⟨hc, hadvance⟩

/-! ## The plain search -/

/-- The plain search does not read beyond the haystack before it finds the needle. -/
def ReadsWithin (needle haystack : List UInt8) : Prop :=
  (∃ p, OccursAt needle haystack p) ∨ ∀ i < haystack.length, ¬ haystack.drop i <+: needle

/-- The needle is compared until it is at its end, or the haystack is. -/
theorem isAt_eq (needle : List UInt8) (k : ℕ) :
    isAt haystack needle k = if needle <+: haystack.drop k then some true
      else if haystack.drop k <+: needle then none else some false := by
  induction needle generalizing k with
  | nil => rw [isAt, if_pos List.nil_prefix]
  | cons c' needle ih =>
    rw [isAt]
    by_cases hk : k < haystack.length
    · rw [List.getElem?_eq_getElem hk, List.drop_eq_getElem_cons hk]
      simp only [Option.bind_eq_bind, Option.bind_some, List.cons_prefix_cons]
      by_cases hc : haystack[k] = c'
      · rw [if_neg (not_not.2 hc), ih, hc]
        simp only [true_and]
      · rw [if_pos hc, if_neg fun h => hc h.1.symm, if_neg fun h => hc h.1]
    · have hnil : haystack.drop k = [] := List.drop_eq_nil_of_le (by omega)
      have hnot : ¬ c' :: needle <+: [] := fun h => by cases List.prefix_nil.1 h
      rw [List.getElem?_eq_none (by omega), hnil, if_neg hnot, if_pos List.nil_prefix]
      rfl

/-- An occurrence is found. -/
theorem naiveLoop_eq_some (hne : needle ≠ []) {p rounds i : ℕ}
    (hp : IsLeast {p | OccursAt needle haystack p} p) (hi : i ≤ p)
    (hrounds : rounds + i = haystack.length) :
    naiveLoop needle haystack rounds i = some (some p) := by
  have hlen := ((occursAt_iff hne).1 hp.1).1
  have hpos : 0 < needle.length := List.length_pos_iff.2 hne
  induction rounds generalizing i with
  | zero => exact absurd hi (by omega)
  | succ rounds ih =>
    rw [naiveLoop, isAt_eq, Option.bind_eq_bind]
    rcases Nat.eq_or_lt_of_le hi with rfl | hlt
    · rw [if_pos hp.1.isPrefix]
      rfl
    · have hnot : ¬ needle <+: haystack.drop i := fun h => by
        have hle := hp.2 ⟨hne, h⟩
        omega
      have hlong : ¬ haystack.drop i <+: needle := fun h => by
        have hle := h.length_le
        rw [List.length_drop] at hle
        omega
      rw [if_neg hnot, if_neg hlong]
      exact ih hlt (by omega)

/-- Without an occurrence, no suffix of the haystack may look like the start of one. -/
theorem naiveLoop_eq_none_iff (hne : needle ≠ []) (hnone : ∀ p, ¬ OccursAt needle haystack p)
    {rounds i : ℕ} (hrounds : rounds + i = haystack.length) :
    naiveLoop needle haystack rounds i = some none ↔
      ∀ i' < haystack.length, i ≤ i' → ¬ haystack.drop i' <+: needle := by
  induction rounds generalizing i with
  | zero => exact ⟨fun _ i' hlt hle => absurd hle (by omega), fun _ => rfl⟩
  | succ rounds ih =>
    have hnot : ¬ needle <+: haystack.drop i := fun h => hnone i ⟨hne, h⟩
    rw [naiveLoop, isAt_eq, Option.bind_eq_bind, if_neg hnot]
    by_cases hlong : haystack.drop i <+: needle
    · rw [if_pos hlong]
      constructor
      · intro h
        cases h
      · exact fun h => absurd hlong (h i (by omega) le_rfl)
    · rw [if_neg hlong, Option.bind_some, if_neg Bool.false_ne_true, ih (by omega)]
      constructor
      · intro h i' hlt hle
        rcases Nat.eq_or_lt_of_le hle with rfl | hle
        · exact hlong
        · exact h i' hlt hle
      · exact fun h i' hlt hle => h i' hlt (Nat.le_of_succ_le hle)

/-- When the plain search finds the first occurrence. -/
theorem searchNaive_eq_iff (hne : needle ≠ []) (hle : needle.length ≤ haystack.length)
    {found : Option ℕ} (hfound : FirstOccurrence needle haystack found) :
    searchNaive needle haystack = some found ↔ ReadsWithin needle haystack := by
  have hpos : 0 < needle.length := List.length_pos_iff.2 hne
  rw [searchNaive, assert_of (by omega), assert_of (by omega), assert_of hle]
  simp only [Option.bind_eq_bind, Option.bind_some]
  cases found with
  | none =>
    rw [naiveLoop_eq_none_iff hne hfound (Nat.add_zero _), ReadsWithin]
    constructor
    · exact fun h => .inr fun i hi => h i hi (Nat.zero_le i)
    · rintro (⟨p, hp⟩ | h) i hi -
      · exact absurd hp (hfound p)
      · exact h i hi
  | some p =>
    refine ⟨fun _ => .inl ⟨p, hfound.1⟩, fun _ => ?_⟩
    exact naiveLoop_eq_some hne hfound (Nat.zero_le p) (Nat.add_zero _)

/-! ## When both of the searches are right -/

/-- One of the two is empty, or the tables have room for the needle and its characters, the needle
is moved on at each mismatch, and the plain search stays within the haystack. -/
def Fits (needle haystack : List UInt8) : Prop :=
  needle = [] ∨ haystack = [] ∨
    needle.length < 2 ^ 31 - 1 ∧ (∀ c ∈ needle, c < 128) ∧ MovesOn needle haystack ∧
      (needle.length ≤ haystack.length → ReadsWithin needle haystack)

theorem searches_of_empty (hempty : needle = [] ∨ haystack = []) : Searches needle haystack := by
  refine ⟨none, fun p hp => ?_, ⟨0, ?_⟩, fun hne hle => ?_⟩
  · rcases hempty with hnil | rfl
    · exact hp.ne_nil hnil
    · have hprefix := hp.isPrefix
      rw [List.drop_nil] at hprefix
      exact hp.ne_nil (List.prefix_nil.1 hprefix)
  · exact if_pos (hempty.imp List.length_eq_zero_iff.2 List.length_eq_zero_iff.2)
  · rcases hempty with hnil | rfl
    · exact absurd hnil hne
    · exact absurd (List.length_eq_zero_iff.1 (Nat.le_zero.1 hle)) hne

theorem not_length_eq_zero (hne : needle ≠ []) (hne' : haystack ≠ []) :
    ¬ (needle.length = 0 ∨ haystack.length = 0) := by
  rintro (h | h)
  · exact hne (List.length_eq_zero_iff.1 h)
  · exact hne' (List.length_eq_zero_iff.1 h)

/-- With enough fuel the search runs with the tables of the needle. -/
theorem searchBooyerMoore_eq {d1 d2 : List ℤ} (hne : needle ≠ []) (hne' : haystack ≠ [])
    (hd1 : preProcessDelta1 needle needle.length = some d1) {fuel : ℕ}
    (hd2 : preProcessDelta2 needle fuel = some d2) :
    searchBooyerMoore needle haystack fuel
      = searchLoop needle haystack d1 d2 fuel (needle.length - 1) (needle.length - 1) := by
  rw [searchBooyerMoore, if_neg (not_length_eq_zero hne hne'), hd1, hd2]
  rfl

/-- A needle with a negative character is not searched for. -/
theorem lt_of_searchBooyerMoore (hne : needle ≠ []) (hne' : haystack ≠ []) {fuel : ℕ}
    {found : Option ℕ} (h : searchBooyerMoore needle haystack fuel = some found) :
    ∀ c ∈ needle, c < 128 := by
  intro c hc
  by_contra hneg
  obtain ⟨k, hk, rfl⟩ := List.mem_iff_getElem.1 hc
  rw [searchBooyerMoore, if_neg (not_length_eq_zero hne hne'),
    preProcessDelta1_eq_none (List.getElem?_eq_getElem hk) hneg hk] at h
  cases h

theorem searches_of_fits (hfits : haystack.length < 2 ^ 63) (h : Fits needle haystack) :
    Searches needle haystack := by
  by_cases hempty : needle = [] ∨ haystack = []
  · exact searches_of_empty hempty
  · obtain ⟨hne, hne'⟩ := not_or.1 hempty
    obtain hnil | hnil | ⟨hlength, hascii, hmoves, hreads⟩ := h
    · exact absurd hnil hne
    · exact absurd hnil hne'
    · obtain ⟨d1, d2, ht, hd1, hd2⟩ := exists_tables hlength hascii
      obtain ⟨found, fuel, hsearch, hfound⟩ := exists_searchLoop_eq ht hlength hfits hne hmoves
        .start le_rfl fun p _ => by omega
      refine ⟨found, hfound, ⟨needle.length + 1 + fuel, ?_⟩, fun _ hle => ?_⟩
      · rw [searchBooyerMoore_eq hne hne' hd1 (hd2 _ (by omega))]
        exact searchLoop_mono (Nat.le_add_left _ _) hsearch
      · exact (searchNaive_eq_iff hne hle hfound).2 (hreads hle)

theorem fits_of_searches (hfits : haystack.length < 2 ^ 63) (hlength : needle.length < 2 ^ 31 - 1)
    (h : Searches needle haystack) : Fits needle haystack := by
  by_cases hempty : needle = [] ∨ haystack = []
  · exact hempty.imp_right .inl
  · obtain ⟨hne, hne'⟩ := not_or.1 hempty
    obtain ⟨found, hfound, ⟨fuel, hsearch⟩, hnaive⟩ := h
    have hascii := lt_of_searchBooyerMoore hne hne' hsearch
    obtain ⟨d1, d2, ht, hd1, hd2⟩ := exists_tables hlength hascii
    have hmore := searchBooyerMoore_mono (Nat.le_add_left fuel (needle.length + 1)) hsearch
    rw [searchBooyerMoore_eq hne hne' hd1 (hd2 _ (by omega))] at hmore
    have hmoves := movesOn_of_searchLoop ht hlength hfits hmore
    refine .inr (.inr ⟨hlength, hascii, hmoves, fun hle => ?_⟩)
    exact (searchNaive_eq_iff hne hle hfound).1 (hnaive hne hle)

/-- Both of the searches find the first occurrence if the needle fits, and of the needles for which
the tables have room only if it does. -/
theorem searches_iff_fits (needle haystack : Chars) :
    (Fits needle.bytes haystack.bytes → Searches needle.bytes haystack.bytes) ∧
      (needle.bytes.length < 2 ^ 31 - 1 → Searches needle.bytes haystack.bytes →
        Fits needle.bytes haystack.bytes) :=
  ⟨searches_of_fits haystack.fits, fits_of_searches haystack.fits⟩

/-- A needle of one letter is moved on at each mismatch. -/
theorem searches_letter : Searches [97] [98, 97] := by
  have hlength : 1 < 2 ^ 31 - 1 := by omega
  refine (searches_iff_fits ⟨[97], by decide⟩ ⟨[98, 97], by decide⟩).1
    (.inr (.inr ⟨hlength, fun c hc => ?_, fun e l _ hmiss => ⟨?_, ?_⟩, fun _ => ?_⟩))
  · rw [List.mem_singleton.1 hc]
    decide
  · have hlt : e - l < 2 := Nat.lt_of_le_of_lt (Nat.sub_le e l) hmiss.lt
    revert hlt
    generalize e - l = i
    decide +revert
  · have hl : l < 1 := hmiss.lt_length
    exact Nat.lt_of_lt_of_le hl (Nat.le_max_left 1 _)
  · exact .inl ⟨1, by decide, by decide⟩

/-- The search for `aba` in `bba` does not come to an end: the last two letters agree, and the
needle is moved on by two places from the first one. -/
theorem not_searches : ¬ ∀ needle haystack : Chars, Searches needle.bytes haystack.bytes := by
  intro h
  have hsearches : Searches [97, 98, 97] [98, 98, 97] :=
    h ⟨[97, 98, 97], by decide⟩ ⟨[98, 98, 97], by decide⟩
  have hlength : [(97 : UInt8), 98, 97].length < 2 ^ 31 - 1 := by
    rw [List.length_cons, List.length_cons, List.length_singleton]
    omega
  obtain hnil | hnil | ⟨-, -, hmoves, -⟩ := fits_of_searches (by decide) hlength hsearches
  · cases hnil
  · cases hnil
  · have hmiss : Misses [97, 98, 97] [98, 98, 97] 2 2 :=
      ⟨by decide, by decide, by rw [Agrees]; decide, by decide⟩
    have hgood : goodShift (letters [97, 98, 97]) 3 2 ≤ 2 :=
      (isLeast_goodShift _ _ _).2 (show GoodShift (letters [97, 98, 97]) 3 2 2 by decide)
    have hbad : badShift [97, 98, 97] 98 ≤ 2 := by decide
    have hadvance := (hmoves 2 2 .start hmiss).2
    exact absurd hadvance (Nat.not_lt.2 (Nat.max_le.2 ⟨by decide, Nat.max_le.2 ⟨hbad, hgood⟩⟩))

end BooyerMoore

end FlexRic
