import FlexRic.Semantics.Buffer

/-!
# Rotation (`util/alg_ds/alg/rotate.c`, `util/alg_ds/alg/iter_swap.c`)

The elements of a range are blocks of `elm_size` bytes of a memory, and an iterator is the place of
a byte in it. Both loops swap the elements at two iterators and move these on.

What is not yet in its place is always three blocks `x`, `y` and `z` that begin at the three
iterators, and they should become `z ++ y ++ x`. A swap of the first elements of `x` and `z` puts
one element in its place, moves one from `x` to the end of `y`, and leaves the aim. When `x` is used
up, `y` takes its place; when `z` is, so does `y` in the second loop.
-/

namespace FlexRic

namespace Rotate

/-- `iter_swap`; `memcpy` is defined only for blocks that do not overlap. -/
def iterSwap (mem : List UInt8) (it1 it2 elmSize : ℕ) : Option (List UInt8) :=
  if it1 + elmSize ≤ it2 ∨ it2 + elmSize ≤ it1 then
    (Buffer.memcpy (List.replicate elmSize 0) 0 mem it1 elmSize).bind fun buf =>
      (Buffer.memcpy mem it1 mem it2 elmSize).bind fun mem =>
        Buffer.memcpy mem it2 buf 0 elmSize
  else none

/-- The memory and the iterators of `rotate`. -/
structure State where
  mem : List UInt8
  first : ℕ
  nFirst : ℕ
  first2 : ℕ
  deriving Repr, DecidableEq

/-- How the bodies of both loops begin. -/
def swapAndAdvance (elmSize : ℕ) (s : State) : Option State :=
  (iterSwap s.mem s.first s.first2 elmSize).map fun mem =>
    { s with mem := mem, first := s.first + elmSize, first2 := s.first2 + elmSize }

/-- The body of the `do` loop. -/
def doBody (elmSize : ℕ) (s : State) : Option State :=
  (swapAndAdvance elmSize s).map fun s =>
    if s.first = s.nFirst then { s with nFirst := s.first2 } else s

/-- The body of the `while` loop. -/
def whileBody (elmSize last : ℕ) (s : State) : Option State :=
  (swapAndAdvance elmSize s).map fun s =>
    if s.first = s.nFirst then { s with nFirst := s.first2 }
    else if s.first2 = last then { s with first2 := s.nFirst }
    else s

/-- The `do` loop; it has no result when there is not enough fuel. -/
def doLoop (elmSize last : ℕ) : ℕ → State → Option State
  | 0, _ => none
  | fuel + 1, s =>
    (doBody elmSize s).bind fun s =>
      if s.first2 = last then some s else doLoop elmSize last fuel s

/-- The `while` loop; it has no result when there is not enough fuel. -/
def whileLoop (elmSize last : ℕ) : ℕ → State → Option State
  | 0, s => if s.first2 = last then some s else none
  | fuel + 1, s =>
    if s.first2 = last then some s
    else (whileBody elmSize last s).bind (whileLoop elmSize last fuel)

/-- `rotate`: the iterator that it returns, and the memory. -/
def rotate (fuel : ℕ) (mem : List UInt8) (first nFirst last elmSize : ℕ) :
    Option (ℕ × List UInt8) :=
  (doLoop elmSize last fuel ⟨mem, first, nFirst, nFirst⟩).bind fun s =>
    let ret := s.first
    (whileLoop elmSize last fuel { s with first2 := s.nFirst }).map fun s => (ret, s.mem)

/-! ## One swap -/

section Swap

variable {a b pre x y z post : List UInt8} {elmSize : ℕ}

/-- The two elements trade places, and all other bytes stay. -/
theorem iterSwap_append (ha : a.length = elmSize) (hb : b.length = elmSize) :
    iterSwap (pre ++ (a ++ y ++ (b ++ post))) pre.length (pre ++ (a ++ y)).length elmSize =
      some (pre ++ (b ++ y ++ (a ++ post))) := by
  have hay : (a ++ y).length = elmSize + y.length := by rw [List.length_append, ha]
  have hplace : (pre ++ (a ++ y)).length = pre.length + (elmSize + y.length) := by
    rw [List.length_append, hay]
  have hmem : (pre ++ (a ++ y ++ (b ++ post))).length =
      pre.length + (elmSize + y.length + (elmSize + post.length)) := by
    simp only [List.length_append, ha, hb]
  have hbuf : Buffer.memcpy (List.replicate elmSize 0) 0 (pre ++ (a ++ y ++ (b ++ post)))
      pre.length elmSize = some a := by
    have hreplicate : (List.replicate elmSize (0 : UInt8)).length = elmSize := List.length_replicate
    rw [Buffer.memcpy_zero (by omega) (by omega), List.drop_left,
      List.append_assoc, List.take_left' ha, List.drop_replicate, Nat.sub_self,
      List.replicate_zero, List.append_nil]
  have hfirst : Buffer.memcpy (pre ++ (a ++ y ++ (b ++ post))) pre.length
      (pre ++ (a ++ y ++ (b ++ post))) (pre ++ (a ++ y)).length elmSize =
        some (pre ++ (b ++ y) ++ (b ++ post)) := by
    have hassoc : pre ++ (a ++ y ++ (b ++ post)) = pre ++ (a ++ y) ++ (b ++ post) :=
      (List.append_assoc ..).symm
    have hdrop : (pre ++ (a ++ y ++ (b ++ post))).drop (pre ++ (a ++ y)).length = b ++ post := by
      rw [hassoc, List.drop_left]
    have hrest : (a ++ y ++ (b ++ post)).drop elmSize = y ++ (b ++ post) := by
      rw [List.append_assoc, List.drop_left' ha]
    rw [Buffer.memcpy_append (by omega) _ rfl, hdrop, List.take_left' hb, hrest]
    · simp only [List.append_assoc]
    · simp only [List.length_append]
      omega
  have hsecond : Buffer.memcpy (pre ++ (b ++ y) ++ (b ++ post)) (pre ++ (a ++ y)).length a 0
      elmSize = some (pre ++ (b ++ y ++ (a ++ post))) := by
    have hoff : (pre ++ (a ++ y)).length = (pre ++ (b ++ y)).length := by
      simp only [List.length_append, ha, hb]
    rw [Buffer.memcpy_append (by omega) _ hoff, List.drop_zero, ← ha, List.take_length, ha,
      List.drop_left' hb]
    · simp only [List.append_assoc]
    · simp only [List.length_append]
      omega
  rw [iterSwap, if_pos (Or.inl (by omega)), hbuf, Option.bind_some, hfirst, Option.bind_some,
    hsecond]

/-- The state with the blocks `x`, `y` and `z` at the three iterators. -/
def arrange (pre x y z post : List UInt8) : State :=
  ⟨pre ++ (x ++ y ++ (z ++ post)), pre.length, (pre ++ x).length, (pre ++ (x ++ y)).length⟩

theorem swapAndAdvance_arrange (ha : a.length = elmSize) (hb : b.length = elmSize) :
    swapAndAdvance elmSize (arrange pre (a ++ x) y (b ++ z) post) =
      some (arrange (pre ++ b) x (y ++ a) z post) := by
  have hswap : iterSwap (pre ++ (a ++ (x ++ y) ++ (b ++ (z ++ post)))) pre.length
      (pre ++ (a ++ (x ++ y))).length elmSize =
        some (pre ++ (b ++ (x ++ y) ++ (a ++ (z ++ post)))) := iterSwap_append ha hb
  simp only [List.append_assoc] at hswap
  have hpre : pre.length + elmSize = (pre ++ b).length := by rw [List.length_append, hb]
  have hx : (pre ++ (a ++ x)).length = (pre ++ b ++ x).length := by
    simp only [List.length_append, ha, hb]
    omega
  have hy : (pre ++ (a ++ (x ++ y))).length + elmSize = (pre ++ b ++ (x ++ (y ++ a))).length := by
    simp only [List.length_append, ha, hb]
    omega
  simp only [swapAndAdvance, arrange, List.append_assoc, hswap, Option.map_some]
  simp only [List.append_assoc] at hx hy
  rw [hpre, hx, hy]

/-- A block of whole elements that is not empty begins with one. -/
theorem exists_eq_append (h : elmSize ∣ x.length) (hx : x ≠ []) :
    ∃ a x', x = a ++ x' ∧ a.length = elmSize ∧ elmSize ∣ x'.length := by
  have hle : elmSize ≤ x.length := Nat.le_of_dvd (List.length_pos_iff.2 hx) h
  refine ⟨x.take elmSize, x.drop elmSize, (List.take_append_drop elmSize x).symm,
    List.length_take_of_le hle, ?_⟩
  rw [List.length_drop]
  exact Nat.dvd_sub h (Nat.dvd_refl _)

theorem length_ne_append (pre : List UInt8) (hx : x ≠ []) : pre.length ≠ (pre ++ x).length := by
  have hpos := List.length_pos_iff.2 hx
  rw [List.length_append]
  omega

/-- A block with one more element. -/
theorem dvd_length_append (hy : elmSize ∣ y.length) (ha : a.length = elmSize) :
    elmSize ∣ (y ++ a).length := by
  rw [List.length_append, ha]
  exact Nat.dvd_add hy (Nat.dvd_refl _)

theorem append_elem_ne_nil (hsize : 0 < elmSize) (ha : a.length = elmSize) : y ++ a ≠ [] := by
  rintro hnil
  rw [(List.append_eq_nil_iff.1 hnil).2, List.length_nil] at ha
  omega

end Swap

/-! ## The loops -/

section Loops

variable {a b pre x y z post : List UInt8} {elmSize last fuel : ℕ}

/-- The iterator `nFirst` is met exactly when `x` is used up. -/
theorem doBody_arrange (ha : a.length = elmSize) (hb : b.length = elmSize) :
    doBody elmSize (arrange pre (a ++ x) y (b ++ z) post) =
      some (if x = [] then arrange (pre ++ b) (y ++ a) [] z post
        else arrange (pre ++ b) x (y ++ a) z post) := by
  rw [doBody, swapAndAdvance_arrange ha hb, Option.map_some]
  by_cases hx : x = []
  · subst hx
    simp [arrange]
  · have hne := length_ne_append (pre ++ b) hx
    rw [if_neg hx]
    exact congrArg some (if_neg hne)

/-- A round of the `do` loop, with the blocks with which the next one begins. -/
theorem exists_doBody_arrange (pre z post : List UInt8) (hsize : 0 < elmSize)
    (ha : a.length = elmSize) (hb : b.length = elmSize) (hx : elmSize ∣ x.length)
    (hy : elmSize ∣ y.length) :
    ∃ x' y', doBody elmSize (arrange pre (a ++ x) y (b ++ z) post) =
        some (arrange (pre ++ b) x' y' z post) ∧
      y' ++ x' = y ++ (a ++ x) ∧ elmSize ∣ x'.length ∧ x' ≠ [] ∧ elmSize ∣ y'.length := by
  have hya := dvd_length_append hy ha
  rw [doBody_arrange ha hb]
  by_cases hnil : x = []
  · refine ⟨y ++ a, [], by rw [if_pos hnil], ?_, hya, append_elem_ne_nil hsize ha,
      Nat.dvd_zero _⟩
    rw [hnil, List.nil_append, List.append_nil]
  · exact ⟨x, y ++ a, by rw [if_neg hnil], List.append_assoc .., hx, hnil, hya⟩

/-- The `do` loop uses up `z`. What it leaves of `x` and `y` is what was there, once the elements of
`x` that were moved are put after those of `y`. -/
theorem doLoop_arrange (post : List UInt8) (hsize : 0 < elmSize) (hx : elmSize ∣ x.length)
    (hx0 : x ≠ []) (hy : elmSize ∣ y.length) (hz : elmSize ∣ z.length) (hz0 : z ≠ [])
    (hlast : last = (pre ++ (x ++ y ++ z)).length) (hfuel : z.length ≤ fuel * elmSize) :
    ∃ x' y', doLoop elmSize last fuel (arrange pre x y z post) =
        some (arrange (pre ++ z) x' y' [] post) ∧
      y' ++ x' = y ++ x ∧ elmSize ∣ x'.length ∧ x' ≠ [] ∧ elmSize ∣ y'.length := by
  induction fuel generalizing pre x y z with
  | zero =>
    have hpos := List.length_pos_iff.2 hz0
    omega
  | succ fuel ih =>
    obtain ⟨a, x₁, rfl, ha, hx₁⟩ := exists_eq_append hx hx0
    obtain ⟨b, z₁, rfl, hb, hz₁⟩ := exists_eq_append hz hz0
    obtain ⟨x₂, y₂, hbody, heq, hx₂, hx₂0, hy₂⟩ :=
      exists_doBody_arrange pre z₁ post hsize ha hb hx₁ hy
    have hlen : x₂.length + y₂.length = x₁.length + y.length + elmSize := by
      have hlen := congrArg List.length heq
      simp only [List.length_append, ha] at hlen
      omega
    have hlast : last = (pre ++ b ++ (x₂ ++ y₂ ++ z₁)).length := by
      simp only [hlast, List.length_append, ha, hb]
      omega
    have hfirst2 : (arrange (pre ++ b) x₂ y₂ z₁ post).first2 + z₁.length = last := by
      simp only [arrange, hlast, List.length_append]
      omega
    rw [doLoop, hbody, Option.bind_some]
    by_cases hz₁0 : z₁ = []
    · subst hz₁0
      rw [List.length_nil, Nat.add_zero] at hfirst2
      rw [if_pos hfirst2]
      exact ⟨x₂, y₂, by rw [List.append_nil], heq, hx₂, hx₂0, hy₂⟩
    · have hpos := List.length_pos_iff.2 hz₁0
      rw [if_neg (by omega)]
      rw [List.length_append, hb, Nat.succ_mul] at hfuel
      obtain ⟨x', y', hloop, heq', hrest⟩ := ih hx₂ hx₂0 hy₂ hz₁ hz₁0 hlast (by omega)
      refine ⟨x', y', ?_, heq'.trans heq, hrest⟩
      rw [hloop, List.append_assoc]

/-- The body of the `while` loop: when it has used up `z`, the loop goes on with `y` in its
place. -/
theorem whileBody_arrange (ha : a.length = elmSize) (hb : b.length = elmSize)
    (hlast : last = (pre ++ (a ++ x ++ y ++ (b ++ z))).length) :
    whileBody elmSize last (arrange pre (a ++ x) y (b ++ z) post) =
      some (if x = [] then arrange (pre ++ b) (y ++ a) [] z post
        else if z = [] then arrange (pre ++ b) x [] (y ++ a) post
        else arrange (pre ++ b) x (y ++ a) z post) := by
  rw [whileBody, swapAndAdvance_arrange ha hb, Option.map_some]
  by_cases hx : x = []
  · subst hx
    simp [arrange]
  · have hne := length_ne_append (pre ++ b) hx
    have hfirst2 : (arrange (pre ++ b) x (y ++ a) z post).first2 + z.length = last := by
      simp only [arrange, hlast, List.length_append, ha, hb]
      omega
    rw [if_neg hx]
    refine congrArg some ((if_neg hne).trans ?_)
    by_cases hz : z = []
    · subst hz
      rw [List.length_nil, Nat.add_zero] at hfirst2
      rw [if_pos rfl, if_pos hfirst2]
      simp [arrange]
    · have hpos := List.length_pos_iff.2 hz
      rw [if_neg hz, if_neg (by omega)]

/-- A round of the `while` loop. The block in the middle is used up first. -/
theorem exists_whileBody_arrange (post : List UInt8) (hsize : 0 < elmSize)
    (ha : a.length = elmSize) (hb : b.length = elmSize) (hx : elmSize ∣ x.length)
    (hy : elmSize ∣ y.length) (hz : elmSize ∣ z.length)
    (hlast : last = (pre ++ (a ++ x ++ y ++ (b ++ z))).length) :
    ∃ x' y' z', whileBody elmSize last (arrange pre (a ++ x) y (b ++ z) post) =
        some (arrange (pre ++ b) x' y' z' post) ∧
      z' ++ y' ++ x' = z ++ y ++ (a ++ x) ∧ elmSize ∣ x'.length ∧ x' ≠ [] ∧
      elmSize ∣ y'.length ∧ elmSize ∣ z'.length ∧ (z' = [] → y' = []) := by
  have hya := dvd_length_append hy ha
  rw [whileBody_arrange ha hb hlast]
  by_cases hxnil : x = []
  · refine ⟨y ++ a, [], z, by rw [if_pos hxnil], ?_, hya, append_elem_ne_nil hsize ha,
      Nat.dvd_zero _, hz, fun _ => rfl⟩
    simp [hxnil]
  · by_cases hznil : z = []
    · refine ⟨x, [], y ++ a, by rw [if_neg hxnil, if_pos hznil], ?_, hx, hxnil, Nat.dvd_zero _,
        hya, fun _ => rfl⟩
      simp [hznil]
    · refine ⟨x, y ++ a, z, by rw [if_neg hxnil, if_neg hznil], ?_, hx, hxnil, hya, hz,
        fun hnil => absurd hnil hznil⟩
      simp

/-- The `while` loop brings the blocks into the reverse order. -/
theorem whileLoop_arrange (post : List UInt8) (hsize : 0 < elmSize) (hx : elmSize ∣ x.length)
    (hx0 : x ≠ []) (hy : elmSize ∣ y.length) (hz : elmSize ∣ z.length) (hyz : z = [] → y = [])
    (hlast : last = (pre ++ (x ++ y ++ z)).length)
    (hfuel : (x ++ y ++ z).length ≤ fuel * elmSize) :
    ∃ s, whileLoop elmSize last fuel (arrange pre x y z post) = some s ∧
      s.mem = pre ++ (z ++ y ++ x ++ post) := by
  induction fuel generalizing pre x y z with
  | zero =>
    have hpos := List.length_pos_iff.2 hx0
    simp only [List.length_append] at hfuel
    omega
  | succ fuel ih =>
    have hfirst2 : (arrange pre x y z post).first2 + z.length = last := by
      simp only [arrange, hlast, List.length_append]
      omega
    rw [whileLoop]
    by_cases hz0 : z = []
    · obtain rfl := hyz hz0
      subst hz0
      rw [List.length_nil, Nat.add_zero] at hfirst2
      rw [if_pos hfirst2]
      exact ⟨_, rfl, by simp [arrange]⟩
    · obtain ⟨a, x₁, rfl, ha, hx₁⟩ := exists_eq_append hx hx0
      obtain ⟨b, z₁, rfl, hb, hz₁⟩ := exists_eq_append hz hz0
      obtain ⟨x₂, y₂, z₂, hbody, heq, hx₂, hx₂0, hy₂, hz₂, hyz₂⟩ :=
        exists_whileBody_arrange post hsize ha hb hx₁ hy hz₁ hlast
      have hlen : x₂.length + y₂.length + z₂.length + elmSize =
          (a ++ x₁ ++ y ++ (b ++ z₁)).length := by
        have hlen := congrArg List.length heq
        simp only [List.length_append, ha, hb] at hlen ⊢
        omega
      have hlast : last = (pre ++ b ++ (x₂ ++ y₂ ++ z₂)).length := by
        rw [hlast, List.length_append, ← hlen]
        simp only [List.length_append, hb]
        omega
      have hrest : (x₂ ++ y₂ ++ z₂).length ≤ fuel * elmSize := by
        rw [← hlen, Nat.succ_mul] at hfuel
        simp only [List.length_append]
        omega
      have hne : (arrange pre (a ++ x₁) y (b ++ z₁) post).first2 ≠ last := by
        have hpos := List.length_pos_iff.2 hz0
        omega
      obtain ⟨s, hloop, hmem⟩ := ih hx₂ hx₂0 hy₂ hz₂ hyz₂ hlast hrest
      refine ⟨s, ?_, ?_⟩
      · rw [if_neg hne, hbody, Option.bind_some, hloop]
      · rw [hmem, heq]
        simp only [List.append_assoc]

end Loops

/-! ## The range -/

/-- The two blocks in front of and behind `nFirst` trade places. -/
theorem rotate_append {x z : List UInt8} {elmSize fuel : ℕ} (before after : List UInt8)
    (hsize : 0 < elmSize) (hx : elmSize ∣ x.length) (hx0 : x ≠ []) (hz : elmSize ∣ z.length)
    (hz0 : z ≠ []) (hfuel : (x ++ z).length ≤ fuel * elmSize) :
    rotate fuel (before ++ (x ++ z) ++ after) before.length (before ++ x).length
        (before ++ (x ++ z)).length elmSize =
      some ((before ++ z).length, before ++ (z ++ x) ++ after) := by
  rw [List.length_append] at hfuel
  generalize hlast : (before ++ (x ++ z)).length = last
  have hstart : (⟨before ++ (x ++ z) ++ after, before.length, (before ++ x).length,
      (before ++ x).length⟩ : State) = arrange before x [] z after := by
    simp [arrange]
  have hlast₁ : last = (before ++ (x ++ [] ++ z)).length := by rw [List.append_nil, hlast]
  -- the blocks `x'` and `y'` are the first elements, cut where `nFirst` is
  obtain ⟨x', y', hdo, heq, hx', hx0', hy'⟩ := doLoop_arrange (y := []) after hsize hx hx0
    (Nat.dvd_zero elmSize) hz hz0 hlast₁ (by omega : z.length ≤ fuel * elmSize)
  have hlen : y'.length + x'.length = x.length := by
    rw [← List.length_append, heq, List.nil_append]
  have hlast₂ : last = (before ++ z ++ (x' ++ [] ++ y')).length := by
    rw [← hlast]
    simp only [List.length_append, List.length_nil]
    omega
  have hfuel₂ : (x' ++ [] ++ y').length ≤ fuel * elmSize := by
    simp only [List.length_append, List.length_nil]
    omega
  have hsecond : { arrange (before ++ z) x' y' [] after with
      first2 := (arrange (before ++ z) x' y' [] after).nFirst } =
        arrange (before ++ z) x' [] y' after := by
    simp [arrange]
  obtain ⟨s, hwhile, hmem⟩ := whileLoop_arrange (y := []) after hsize hx' hx0'
    (Nat.dvd_zero elmSize) hy' (fun _ => rfl) hlast₂ hfuel₂
  rw [rotate, hstart, hdo, Option.bind_some, hsecond, hwhile]
  simp [arrange, hmem, heq]

theorem length_flatten {elems : List (List UInt8)} {elmSize : ℕ}
    (helems : ∀ e ∈ elems, e.length = elmSize) :
    elems.flatten.length = elems.length * elmSize := by
  induction elems with
  | nil => exact (Nat.zero_mul elmSize).symm
  | cons e elems ih =>
    have hrest := ih fun e he => helems e (List.mem_cons_of_mem _ he)
    rw [List.flatten_cons, List.length_append, hrest, helems e List.mem_cons_self,
      List.length_cons, Nat.succ_mul, Nat.add_comm]

/-- `rotate` comes to its end, whatever the elements are and whatever lies before and after the
range: the elements from `n_first` on come first, and the iterator that is returned is at the
element that was the first one. -/
theorem rotate_flatten (elems : List (List UInt8)) (before after : List UInt8) {elmSize k fuel : ℕ}
    (hsize : 0 < elmSize) (helems : ∀ e ∈ elems, e.length = elmSize) (hk : 0 < k)
    (hn : k < elems.length) (hfuel : elems.length ≤ fuel) :
    rotate fuel (before ++ elems.flatten ++ after) before.length (before.length + k * elmSize)
        (before.length + elems.length * elmSize) elmSize =
      some (before.length + (elems.length - k) * elmSize,
        before ++ (elems.drop k ++ elems.take k).flatten ++ after) := by
  have hx : (elems.take k).flatten.length = k * elmSize := by
    rw [length_flatten fun e he => helems e (List.mem_of_mem_take he),
      List.length_take_of_le (Nat.le_of_lt hn)]
  have hz : (elems.drop k).flatten.length = (elems.length - k) * elmSize := by
    rw [length_flatten fun e he => helems e (List.mem_of_mem_drop he), List.length_drop]
  have hall : elems.flatten = (elems.take k).flatten ++ (elems.drop k).flatten := by
    rw [← List.flatten_append, List.take_append_drop]
  have hlen : elems.flatten.length = elems.length * elmSize := length_flatten helems
  have hxpos : 0 < k * elmSize := Nat.mul_pos hk hsize
  have hzpos : 0 < (elems.length - k) * elmSize := Nat.mul_pos (by omega) hsize
  have hfuel : elems.flatten.length ≤ fuel * elmSize :=
    Nat.le_trans (Nat.le_of_eq hlen) (Nat.mul_le_mul_right _ hfuel)
  rw [hall] at hlen hfuel
  rw [hall, List.flatten_append, ← hlen, ← hz, ← hx, ← List.length_append, ← List.length_append,
    ← List.length_append]
  exact rotate_append before after hsize (hx ▸ Nat.dvd_mul_left _ _)
    (List.length_pos_iff.1 (by omega)) (hz ▸ Nat.dvd_mul_left _ _)
    (List.length_pos_iff.1 (by omega)) hfuel

/-- Three elements of two bytes. -/
theorem rotate_flatten_three : rotate 3 [9, 0, 1, 2, 3, 4, 5, 8] 1 3 7 2 =
    some (5, [9, 2, 3, 4, 5, 0, 1, 8]) :=
  rotate_flatten [[0, 1], [2, 3], [4, 5]] [9] [8] (by decide) (by decide)
    (by decide : 0 < 1) (by decide) (by decide)

end Rotate

end FlexRic
