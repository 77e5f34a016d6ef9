import Mathlib.Algebra.Order.Field.Rat
import Mathlib.Data.Nat.GCD.Basic
import Mathlib.Data.Nat.Log
import FlexRic.Semantics.CString

/-!
# Printing numbers and strings

What the conversions of `printf` make of their arguments, and `snprintf`. A `float` is given by its
word; its value is a natural number over `2 ^ 149`, and it is rounded half to even.
-/

namespace FlexRic

namespace Printf

open Outcome CString

/-! ## Conversions -/

/-- The digits of a number to a base. -/
def digits (b n : ℕ) : List UInt8 := (Nat.toDigits b n).map fun c => UInt8.ofNat c.toNat

/-- `%u`, `%lu` -/
def dec (n : ℕ) : List UInt8 := digits 10 n

/-- `%u` of a counter with 32 bits. -/
def u32 (n : ℕ) : List UInt8 := dec (n % 2 ^ 32)

/-- `%lu`, `%zu` of a counter with 64 bits. -/
def u64 (n : ℕ) : List UInt8 := dec (n % 2 ^ 64)

/-- `%d`, `%ld` -/
def int (z : ℤ) : List UInt8 := if z < 0 then 45 :: dec z.natAbs else dec z.natAbs

/-- `%d` of a number without a sign. -/
def word (n : UInt32) : List UInt8 := int n.toInt32.toInt

/-- `%x` -/
def hex (n : ℕ) : List UInt8 := digits 16 n

/-- `%s`: a string is given by its memory, and `NULL` is printed too. -/
def str : Option (List UInt8) → List UInt8
  | none => ascii "(null)"
  | some mem => text mem

/-- The quotient, rounded half to even. -/
def roundDiv (a b : ℕ) : ℕ :=
  if 2 * (a % b) < b then a / b
  else if b < 2 * (a % b) then a / b + 1
  else a / b + a / b % 2

/-- Zeros in front, up to a width. -/
def pad (width : ℕ) (s : List UInt8) : List UInt8 := List.replicate (width - s.length) 48 ++ s

/-- `q` units of `10 ^ -prec`. -/
def point (prec q : ℕ) : List UInt8 :=
  dec (q / 10 ^ prec) ++ 46 :: pad prec (dec (q % 10 ^ prec))

/-- The same without zeros at the end. -/
def pointShort (prec q : ℕ) : List UInt8 :=
  let frac := (pad prec (dec (q % 10 ^ prec))).rdropWhile (· = 48)
  if frac = [] then dec (q / 10 ^ prec) else dec (q / 10 ^ prec) ++ 46 :: frac

/-- The exponent of a `float`, as it is stored. -/
def exponent (f : UInt32) : ℕ := f.toNat / 2 ^ 23 % 2 ^ 8

/-- The sign of a `float`. -/
def negative (f : UInt32) : Bool := 2 ^ 31 ≤ f.toNat

/-- A `float` that is neither infinite nor a NaN. -/
def finite (f : UInt32) : Bool := exponent f ≠ 255

/-- The value of a finite `float` without its sign, in units of `2 ^ -149`. -/
def magnitude (f : UInt32) : ℕ :=
  if exponent f = 0 then f.toNat % 2 ^ 23
  else (f.toNat % 2 ^ 23 + 2 ^ 23) * 2 ^ (exponent f - 1)

/-- The value of a finite `float`. -/
def value (f : UInt32) : ℚ :=
  let abs : ℚ := magnitude f / 2 ^ 149
  if negative f then -abs else abs

/-- A finite `float` that is a whole number of quarters. -/
def Quarters (f : UInt32) : Prop := finite f = true ∧ 2 ^ 147 ∣ magnitude f

instance (f : UInt32) : Decidable (Quarters f) :=
  inferInstanceAs (Decidable (finite f = true ∧ 2 ^ 147 ∣ magnitude f))

/-- A `float` whose magnitude is printed with `style`. -/
def float (style : ℕ → List UInt8) (f : UInt32) : List UInt8 :=
  let abs := if finite f then style (magnitude f)
    else if f.toNat % 2 ^ 23 = 0 then ascii "inf"
    else ascii "nan"
  if negative f then 45 :: abs else abs

/-- `%.2f`, for the number of decimals. -/
def fixed (prec : ℕ) : UInt32 → List UInt8 :=
  float fun m => point prec (roundDiv (m * 10 ^ prec) (2 ^ 149))

/-- The six digits of `%g`, and the exponent of the first one plus 45. -/
def sixDigits (m : ℕ) : ℕ × ℕ :=
  let e := Nat.log 10 (m * 10 ^ 45 / 2 ^ 149)
  let q := roundDiv (m * 10 ^ 50) (2 ^ 149 * 10 ^ e)
  if q = 10 ^ 6 then (10 ^ 5, e + 1) else (q, e)

/-- Six digits as `%g` prints them. -/
def sixDigitsText (q e : ℕ) : List UInt8 :=
  if 41 ≤ e ∧ e ≤ 50 then pointShort (50 - e) q
  else if e < 45 then pointShort 5 q ++ ascii "e-" ++ pad 2 (dec (45 - e))
  else pointShort 5 q ++ ascii "e+" ++ pad 2 (dec (e - 45))

/-- `%g` -/
def general : UInt32 → List UInt8 :=
  float fun m =>
    if m = 0 then ascii "0" else sixDigitsText (sixDigits m).1 (sixDigits m).2

/-- `snprintf` of a text to a place in an array: what is written, and what is returned. A text that
is too long for an `int` is an error, and is cut short all the same. -/
def snprintf (buf : List UInt8) (out limit : ℕ) (s : List UInt8) : Outcome (List UInt8 × ℤ) := do
  let buf ←
    if limit = 0 then pure buf
    else orFault .pastEnd (Buffer.splice buf out (s.take (limit - 1) ++ [0]))
  return (buf, if s.length < 2 ^ 31 then s.length else -1)

/-! ## Digits -/

/-- A decimal digit. -/
def isDigit (c : UInt8) : Bool := 48 ≤ c && c ≤ 57

/-- The number with these digits. -/
def digitsVal (s : List UInt8) : ℕ := s.foldl (fun n c => 10 * n + (c.toNat - 48)) 0

/-- The number that digits say, with or without a point between them. -/
def unsigned (s : List UInt8) : Option ℚ :=
  let whole := s.takeWhile isDigit
  if whole = [] then none
  else
    match s.dropWhile isDigit with
    | [] => some (digitsVal whole)
    | c :: frac =>
      if c = 46 ∧ frac ≠ [] ∧ frac.all isDigit = true then
        some (digitsVal whole + digitsVal frac / 10 ^ frac.length)
      else none

/-- The number that a text says; there may be a minus in front of the digits. -/
def numeral : List UInt8 → Option ℚ
  | [] => none
  | c :: s => if c = 45 then (unsigned s).map (- ·) else unsigned (c :: s)

section Digits

variable {b n k : ℕ}

theorem eq_digitChar_of_mem_toDigits (hb : 1 < b) {c : Char} (hc : c ∈ Nat.toDigits b n) :
    ∃ k, c = Nat.digitChar k := by
  induction n using Nat.strong_induction_on with
  | h n ih =>
    rw [Nat.toDigits_eq_if hb] at hc
    split at hc
    · exact ⟨n, List.mem_singleton.1 hc⟩
    · next hle =>
      rcases List.mem_append.1 hc with hc | hc
      · exact ih (n / b) (Nat.div_lt_self (by omega) hb) hc
      · exact ⟨n % b, List.mem_singleton.1 hc⟩

theorem toNat_digitChar (k : ℕ) :
    0 < (Nat.digitChar k).toNat ∧ (Nat.digitChar k).toNat < 128 := by
  rcases Nat.lt_or_ge k 16 with hk | hk
  · have hall : ∀ k < 16, 0 < (Nat.digitChar k).toNat ∧ (Nat.digitChar k).toNat < 128 := by
      decide
    exact hall k hk
  · rw [Nat.digitChar_eq_star.2 hk]
    decide

/-- A digit is no NUL. -/
theorem zero_notMem_digits (hb : 1 < b) (n : ℕ) : 0 ∉ digits b n := by
  intro h
  obtain ⟨c, hc, heq⟩ := List.mem_map.1 h
  obtain ⟨k, rfl⟩ := eq_digitChar_of_mem_toDigits hb hc
  have hval : (UInt8.ofNat (Nat.digitChar k).toNat).toNat = 0 := by
    rw [heq]
    rfl
  rw [UInt8.toNat_ofNat'] at hval
  have hlt := toNat_digitChar k
  omega

theorem isDigit_of_mem_dec {c : UInt8} (hc : c ∈ dec n) : isDigit c = true := by
  obtain ⟨c, hmem, rfl⟩ := List.mem_map.1 hc
  have hdigit := Nat.isDigit_of_mem_toDigits (by decide) (by decide) hmem
  rw [Char.isDigit, Bool.and_eq_true, decide_eq_true_iff, decide_eq_true_iff] at hdigit
  obtain ⟨hlow, hhigh⟩ := hdigit
  have hlow : 48 ≤ c.toNat := hlow
  have hhigh : c.toNat ≤ 57 := hhigh
  have hval : (UInt8.ofNat c.toNat).toNat = c.toNat := by
    rw [UInt8.toNat_ofNat']
    omega
  rw [isDigit, Bool.and_eq_true, decide_eq_true_iff, decide_eq_true_iff, UInt8.le_iff_toNat_le,
    UInt8.le_iff_toNat_le, hval]
  exact ⟨hlow, hhigh⟩

theorem dec_ne_nil (n : ℕ) : dec n ≠ [] := by
  rw [dec, digits, ne_eq, List.map_eq_nil_iff]
  exact Nat.toDigits_ne_nil

theorem length_dec_le (hk : 0 < k) (h : n < 10 ^ k) : (dec n).length ≤ k := by
  rw [dec, digits, List.length_map]
  exact (Nat.length_toDigits_le_iff (by decide) hk).2 h

theorem digitsVal_map (cs : List Char) (hcs : ∀ c ∈ cs, c.toNat < 256) (init : ℕ) :
    (cs.map fun c => UInt8.ofNat c.toNat).foldl (fun n c => 10 * n + (c.toNat - 48)) init =
      Nat.ofDigitChars 10 cs init := by
  induction cs generalizing init with
  | nil => rfl
  | cons c cs ih =>
    obtain ⟨hc, hcs⟩ := List.forall_mem_cons.1 hcs
    have hval : (UInt8.ofNat c.toNat).toNat = c.toNat := by
      rw [UInt8.toNat_ofNat']
      exact Nat.mod_eq_of_lt hc
    rw [List.map_cons, List.foldl_cons, hval, Nat.ofDigitChars_cons]
    exact ih hcs _

/-- The digits of a number say the number. -/
theorem digitsVal_dec (n : ℕ) : digitsVal (dec n) = n := by
  rw [digitsVal, dec, digits, digitsVal_map, Nat.ofDigitChars_ten_toDigits]
  intro c hc
  obtain ⟨k, rfl⟩ := eq_digitChar_of_mem_toDigits (by decide) hc
  have hlt := toNat_digitChar k
  omega

theorem takeWhile_isDigit_dec (n : ℕ) (s : List UInt8) :
    (dec n ++ s).takeWhile isDigit = dec n ++ s.takeWhile isDigit :=
  List.takeWhile_append_of_pos fun _ hc => isDigit_of_mem_dec hc

theorem dropWhile_isDigit_dec (n : ℕ) (s : List UInt8) :
    (dec n ++ s).dropWhile isDigit = s.dropWhile isDigit := by
  rw [List.dropWhile_append_of_pos fun _ hc => isDigit_of_mem_dec hc]

theorem unsigned_dec (n : ℕ) : unsigned (dec n) = some (n : ℚ) := by
  have htake : (dec n).takeWhile isDigit = dec n := by
    have h := takeWhile_isDigit_dec n []
    rwa [List.append_nil, List.takeWhile_nil, List.append_nil] at h
  have hdrop : (dec n).dropWhile isDigit = [] := by
    have h := dropWhile_isDigit_dec n []
    rwa [List.append_nil, List.dropWhile_nil] at h
  rw [unsigned, htake, hdrop, if_neg (dec_ne_nil n), digitsVal_dec]

/-- A text that begins with a digit has no sign. -/
theorem numeral_of_unsigned {s : List UInt8} {q : ℚ} (h : unsigned s = some q) :
    numeral s = some q := by
  cases s with
  | nil => cases h
  | cons c s =>
    have hc : c ≠ 45 := by
      rintro rfl
      rw [unsigned, List.takeWhile_cons_of_neg (by decide)] at h
      cases h
    rw [numeral, if_neg hc, h]

/-- A number in decimal says itself. -/
theorem numeral_dec (n : ℕ) : numeral (dec n) = some (n : ℚ) :=
  numeral_of_unsigned (unsigned_dec n)

theorem numeral_int (z : ℤ) : numeral (int z) = some (z : ℚ) := by
  rw [int]
  split
  · next hz =>
    have habs : ((z.natAbs : ℤ) : ℚ) = -(z : ℚ) := by
      rw [← Int.cast_neg]
      congr 1
      omega
    rw [numeral, if_pos rfl, unsigned_dec, Option.map_some, ← Int.cast_natCast, habs, neg_neg]
  · next hz =>
    have habs : (z.natAbs : ℤ) = z := by omega
    rw [numeral_dec, ← Int.cast_natCast, habs]

theorem isDigit_of_mem_pad {width : ℕ} {c : UInt8} (hc : c ∈ pad width (dec n)) :
    isDigit c = true := by
  rw [pad, List.mem_append] at hc
  rcases hc with hc | hc
  · rw [List.eq_of_mem_replicate hc]
    decide
  · exact isDigit_of_mem_dec hc

/-- Zeros in front do not count. -/
theorem digitsVal_pad (width : ℕ) (s : List UInt8) : digitsVal (pad width s) = digitsVal s := by
  have hzeros : ∀ k, (List.replicate k (48 : UInt8)).foldl
      (fun n c => 10 * n + (c.toNat - 48)) 0 = 0 := by
    intro k
    induction k with
    | zero => rfl
    | succ k ih => exact ih
  rw [pad, digitsVal, digitsVal, List.foldl_append, hzeros]

theorem length_pad {width : ℕ} {s : List UInt8} (hs : s.length ≤ width) :
    (pad width s).length = width := by
  rw [pad, List.length_append, List.length_replicate]
  omega

/-- A number with a point says how many units it has. -/
theorem unsigned_point {prec : ℕ} (hprec : 0 < prec) (q : ℕ) :
    unsigned (point prec q) = some ((q : ℚ) / 10 ^ prec) := by
  have hpow : (0 : ℚ) < 10 ^ prec := pow_pos (by decide) _
  have hlen : (pad prec (dec (q % 10 ^ prec))).length = prec :=
    length_pad (length_dec_le hprec (Nat.mod_lt _ (Nat.pow_pos (by decide))))
  have htake : (point prec q).takeWhile isDigit = dec (q / 10 ^ prec) := by
    rw [point, takeWhile_isDigit_dec, List.takeWhile_cons_of_neg (by decide), List.append_nil]
  have hdrop : (point prec q).dropWhile isDigit = 46 :: pad prec (dec (q % 10 ^ prec)) := by
    rw [point, dropWhile_isDigit_dec, List.dropWhile_cons_of_neg (by decide)]
  have hne : pad prec (dec (q % 10 ^ prec)) ≠ [] := List.ne_nil_of_length_pos (by omega)
  have hall : (pad prec (dec (q % 10 ^ prec))).all isDigit = true :=
    List.all_eq_true.2 fun _ hc => isDigit_of_mem_pad hc
  rw [unsigned, htake, hdrop, if_neg (dec_ne_nil _)]
  dsimp only
  rw [if_pos ⟨rfl, hne, hall⟩, digitsVal_dec, digitsVal_pad, digitsVal_dec, hlen]
  congr 1
  rw [eq_div_iff hpow.ne', add_mul, div_mul_cancel₀ _ hpow.ne']
  exact_mod_cast Nat.div_add_mod' q (10 ^ prec)

/-- What is printed of a finite `float` with a point. -/
theorem numeral_fixed {prec : ℕ} (hprec : 0 < prec) {f : UInt32} (hf : finite f = true) :
    numeral (fixed prec f) =
      let q : ℚ := roundDiv (magnitude f * 10 ^ prec) (2 ^ 149) / 10 ^ prec
      some (if negative f then -q else q) := by
  have hpoint := unsigned_point hprec (roundDiv (magnitude f * 10 ^ prec) (2 ^ 149))
  rw [fixed, float, if_pos hf]
  dsimp only
  split
  · rw [numeral, if_pos rfl, hpoint]
    rfl
  · exact numeral_of_unsigned hpoint

theorem roundDiv_mul_eq_iff {a b : ℕ} (hb : 0 < b) : roundDiv a b * b = a ↔ b ∣ a := by
  constructor
  · intro h
    exact ⟨roundDiv a b, by rw [Nat.mul_comm, h]⟩
  · intro h
    rw [roundDiv, Nat.mod_eq_zero_of_dvd h, if_pos (by omega), Nat.div_mul_cancel h]

/-- Two decimals are enough for quarters, and for nothing else. -/
theorem numeral_fixed_two_iff {f : UInt32} (hf : finite f = true) :
    numeral (fixed 2 f) = some (value f) ↔ Quarters f := by
  have hround : (roundDiv (magnitude f * 10 ^ 2) (2 ^ 149) : ℚ) / 10 ^ 2 = magnitude f / 2 ^ 149 ↔
      2 ^ 147 ∣ magnitude f := by
    have hcoprime : Nat.Coprime (2 ^ 147) 25 := by decide
    rw [div_eq_div_iff (pow_ne_zero _ (by decide)) (pow_ne_zero _ (by decide))]
    calc (roundDiv (magnitude f * 10 ^ 2) (2 ^ 149) : ℚ) * 2 ^ 149 = magnitude f * 10 ^ 2
        ↔ roundDiv (magnitude f * 10 ^ 2) (2 ^ 149) * 2 ^ 149 = magnitude f * 10 ^ 2 := by
          exact_mod_cast Iff.rfl
      _ ↔ 2 ^ 149 ∣ magnitude f * 10 ^ 2 := roundDiv_mul_eq_iff (by decide)
      _ ↔ 4 * 2 ^ 147 ∣ 4 * (magnitude f * 25) := by
          have hmul : magnitude f * 10 ^ 2 = 4 * (magnitude f * 25) := by omega
          rw [hmul]
          exact Iff.rfl
      _ ↔ 2 ^ 147 ∣ magnitude f * 25 := Nat.mul_dvd_mul_iff_left (by decide)
      _ ↔ 2 ^ 147 ∣ magnitude f := Nat.Coprime.dvd_mul_right hcoprime
  rw [numeral_fixed (by decide) hf, value, Quarters, Option.some_inj]
  split
  · rw [neg_inj, hround, and_iff_right hf]
  · rw [hround, and_iff_right hf]

theorem magnitude_lt (f : UInt32) : magnitude f < 2 ^ 24 * 2 ^ 254 := by
  have hfrac : f.toNat % 2 ^ 23 < 2 ^ 23 := Nat.mod_lt _ (by decide)
  have hexp : exponent f < 2 ^ 8 := Nat.mod_lt _ (by decide)
  rw [magnitude]
  split
  · exact hfrac.trans (by decide)
  · calc (f.toNat % 2 ^ 23 + 2 ^ 23) * 2 ^ (exponent f - 1)
        ≤ (f.toNat % 2 ^ 23 + 2 ^ 23) * 2 ^ 254 :=
          Nat.mul_le_mul_left _ (Nat.pow_le_pow_right (by decide) (by omega))
      _ < 2 ^ 24 * 2 ^ 254 := Nat.mul_lt_mul_of_pos_right (by omega) (by decide)

theorem roundDiv_le (a b : ℕ) : roundDiv a b ≤ a / b + 1 := by
  rw [roundDiv]
  split_ifs <;> omega

theorem length_fixed_two_le (f : UInt32) : (fixed 2 f).length ≤ 43 := by
  have hpoint : (point 2 (roundDiv (magnitude f * 10 ^ 2) (2 ^ 149))).length ≤ 42 := by
    have hlt : magnitude f * 10 ^ 2 / 2 ^ 149 < 2 ^ 129 * 100 := by
      rw [Nat.div_lt_iff_lt_mul (by decide)]
      calc magnitude f * 10 ^ 2 < 2 ^ 24 * 2 ^ 254 * 10 ^ 2 :=
            Nat.mul_lt_mul_of_pos_right (magnitude_lt f) (by decide)
        _ = 2 ^ 129 * 100 * 2 ^ 149 := by decide
    have hround := roundDiv_le (magnitude f * 10 ^ 2) (2 ^ 149)
    have hwhole : (dec (roundDiv (magnitude f * 10 ^ 2) (2 ^ 149) / 10 ^ 2)).length ≤ 39 := by
      refine length_dec_le (by decide) (Nat.div_lt_of_lt_mul ?_)
      calc roundDiv (magnitude f * 10 ^ 2) (2 ^ 149) ≤ 2 ^ 129 * 100 := by omega
        _ < 10 ^ 2 * 10 ^ 39 := by decide
    have hfrac : (pad 2 (dec (roundDiv (magnitude f * 10 ^ 2) (2 ^ 149) % 10 ^ 2))).length = 2 :=
      length_pad (length_dec_le (by decide) (Nat.mod_lt _ (by decide)))
    rw [point, List.length_append, List.length_cons, hfrac]
    omega
  have habs : (if finite f then point 2 (roundDiv (magnitude f * 10 ^ 2) (2 ^ 149))
      else if f.toNat % 2 ^ 23 = 0 then ascii "inf"
      else ascii "nan").length ≤ 42 := by
    split
    · exact hpoint
    · split <;> decide
  rw [fixed, float]
  split
  · rw [List.length_cons]
    omega
  · omega

end Digits

/-! ## Texts without a NUL -/

section Zero

variable {s : List UInt8}

theorem zero_notMem_dec (n : ℕ) : 0 ∉ dec n := zero_notMem_digits (by decide) n

theorem zero_notMem_hex (n : ℕ) : 0 ∉ hex n := zero_notMem_digits (by decide) n

theorem zero_notMem_int (z : ℤ) : 0 ∉ int z := by
  rw [int]
  split
  · rw [List.mem_cons, not_or]
    exact ⟨by decide, zero_notMem_dec _⟩
  · exact zero_notMem_dec _

theorem zero_notMem_str (s : Option (List UInt8)) : 0 ∉ str s := by
  cases s with
  | none => decide
  | some mem => exact zero_notMem_text mem

theorem zero_notMem_pad {width : ℕ} (hs : 0 ∉ s) : 0 ∉ pad width s := by
  rw [pad, List.mem_append, not_or]
  refine ⟨fun h => ?_, hs⟩
  exact absurd (List.eq_of_mem_replicate h) (by decide)

theorem zero_notMem_point (prec q : ℕ) : 0 ∉ point prec q := by
  rw [point, List.mem_append, List.mem_cons, not_or, not_or]
  exact ⟨zero_notMem_dec _, by decide, zero_notMem_pad (zero_notMem_dec _)⟩

theorem zero_notMem_pointShort (prec q : ℕ) : 0 ∉ pointShort prec q := by
  rw [pointShort]
  split
  · exact zero_notMem_dec _
  · rw [List.mem_append, List.mem_cons, not_or, not_or]
    refine ⟨zero_notMem_dec _, by decide, fun h => ?_⟩
    exact zero_notMem_pad (zero_notMem_dec _) ((List.rdropWhile_prefix _ _).mem h)

theorem zero_notMem_float {style : ℕ → List UInt8} (h : ∀ m, 0 ∉ style m) (f : UInt32) :
    0 ∉ float style f := by
  have habs : 0 ∉ (if finite f then style (magnitude f)
      else if f.toNat % 2 ^ 23 = 0 then ascii "inf"
      else ascii "nan") := by
    split
    · exact h _
    · split <;> decide
  rw [float]
  split
  · rw [List.mem_cons, not_or]
    exact ⟨by decide, habs⟩
  · exact habs

theorem zero_notMem_fixed (prec : ℕ) (f : UInt32) : 0 ∉ fixed prec f :=
  zero_notMem_float (fun _ => zero_notMem_point _ _) f

theorem zero_notMem_sixDigitsText (q e : ℕ) : 0 ∉ sixDigitsText q e := by
  have hpad : ∀ n, 0 ∉ pad 2 (dec n) := fun n => zero_notMem_pad (zero_notMem_dec n)
  rw [sixDigitsText]
  split_ifs
  · exact zero_notMem_pointShort _ _
  · simp only [List.mem_append, not_or]
    exact ⟨⟨zero_notMem_pointShort _ _, by decide⟩, hpad _⟩
  · simp only [List.mem_append, not_or]
    exact ⟨⟨zero_notMem_pointShort _ _, by decide⟩, hpad _⟩

theorem zero_notMem_general (f : UInt32) : 0 ∉ general f := by
  refine zero_notMem_float (fun m => ?_) f
  split
  · decide
  · exact zero_notMem_sixDigitsText _ _

end Zero

/-! ## `snprintf` -/

section Snprintf

variable {pre rest s : List UInt8} {limit : ℕ}

/-- A text with room for it and its NUL. -/
theorem snprintf_append (hlimit : s.length < limit) (hrest : s.length < rest.length)
    (hint : s.length < 2 ^ 31) : snprintf (pre ++ rest) pre.length limit s =
      returns (pre ++ (s ++ 0 :: rest.drop (s.length + 1)), (s.length : ℤ)) := by
  have htake : s.take (limit - 1) = s := List.take_of_length_le (by omega)
  have hlen : (s ++ [0]).length = s.length + 1 := by
    rw [List.length_append, List.length_singleton]
  have hle : pre.length + (s ++ [0]).length ≤ (pre ++ rest).length := by
    rw [hlen, List.length_append]
    omega
  rw [snprintf, if_neg (by omega), if_pos hint, htake, Buffer.splice_of_le hle, hlen,
    List.take_left, List.drop_append]
  simp only [orFault, returns_bind, pure_eq, Nat.add_sub_cancel_left, List.append_assoc,
    List.cons_append, List.nil_append]
  rw [List.drop_of_length_le (Nat.le_add_right _ _), List.nil_append]

/-- A text that is cut short, in an array that has just the room for it. -/
theorem snprintf_cut (hlimit : 0 < limit) (hs : limit ≤ s.length) (buf : List UInt8)
    (hbuf : buf.length = limit) : snprintf buf 0 limit s =
      returns (s.take (limit - 1) ++ [0], if s.length < 2 ^ 31 then (s.length : ℤ) else -1) := by
  have hlen : (s.take (limit - 1) ++ [0]).length = limit := by
    rw [List.length_append, List.length_singleton, List.length_take]
    omega
  rw [snprintf, if_neg (by omega), Buffer.splice_of_le (by omega), hlen, List.take_zero,
    List.nil_append, Nat.zero_add, List.drop_of_length_le (by omega), List.append_nil]
  rfl

/-- A text that is cut short behind the end of the array. -/
theorem snprintf_fault {buf : List UInt8} (hbuf : buf.length < limit)
    (hs : buf.length ≤ s.length) : snprintf buf 0 limit s = faults .pastEnd := by
  have hlen : (s.take (limit - 1) ++ [0]).length = min (limit - 1) s.length + 1 := by
    rw [List.length_append, List.length_singleton, List.length_take]
  rw [snprintf, if_neg (by omega), Buffer.splice, if_neg (by omega)]
  rfl

end Snprintf

end Printf

end FlexRic
