import FlexRic.E2ap.Types
import FlexRic.Semantics.Codec
import Mathlib.Data.Nat.Bitwise

/-!
# Numbers and strings of the ASN.1 tree (`lib/ap/ie/asn/INTEGER.c`, `util/conversions.h`)

An octet string is its bytes, and `copy_ba_to_ostring` and `copy_ostring_to_ba` copy them. An
`INTEGER_t` holds the octets of a 64-bit id; a PLMN and a node id are packed into nibbles.
-/

namespace FlexRic

/-- A PLMN with three digits for the country and two or three for the network. -/
structure Plmn.Valid (plmn : Plmn) : Prop where
  mcc : plmn.mcc.toNat < 1000
  mnc : plmn.mncDigitLen = 2 ∧ plmn.mnc.toNat < 100 ∨
    plmn.mncDigitLen = 3 ∧ plmn.mnc.toNat < 1000

/-- A PLMN whose digits fit into the nibbles of its octets. The hundreds may exceed nine, but those
of the network must not be the mark of a network with two digits. -/
structure Plmn.Fits (plmn : Plmn) : Prop where
  mcc : plmn.mcc.toNat < 1600
  mnc : plmn.mncDigitLen = 2 ∧ plmn.mnc.toNat < 100 ∨
    plmn.mncDigitLen = 3 ∧ plmn.mnc.toNat < 1500

theorem Plmn.Valid.fits {plmn : Plmn} (h : plmn.Valid) : plmn.Fits where
  mcc := by have := h.mcc; omega
  mnc := by
    obtain h | ⟨hlen, hlt⟩ := h.mnc
    · exact .inl h
    · exact .inr ⟨hlen, by omega⟩

namespace Asn

/-- `OCTET_STRING_t`. -/
abbrev OctetString : Type := List UInt8

/-- `BIT_STRING_t`. -/
structure BitString : Type where
  buf : List UInt8
  bitsUnused : ℕ
  deriving DecidableEq, Repr

/-! ## Integers (`INTEGER.c`) -/

/-- `INTEGER_t`. -/
abbrev Integer : Type := List UInt8

/-- The octet of the value that the loop of `asn_uint642INTEGER` stores for `shr = 8 * k`. -/
def octet (v : UInt64) (k : ℕ) : UInt8 := UInt8.ofNat (v.toNat / 256 ^ k)

/-- The octets of the value, the most significant first. -/
def octets (v : UInt64) : Integer :=
  [octet v 7, octet v 6, octet v 5, octet v 4, octet v 3, octet v 2, octet v 1, octet v 0]

/-- The first loop of `asn_int642INTEGER`: an octet that only repeats the sign is left out. -/
def dropSign : Integer → Integer
  | a :: b :: st =>
    if (a = 0 ∧ b &&& 0x80 = 0) ∨ (a = 0xff ∧ b &&& 0x80 ≠ 0) then dropSign (b :: st)
    else a :: b :: st
  | st => st

/-- `asn_uint642INTEGER`. -/
def asnUint642INTEGER (value : UInt64) : Integer :=
  if value.toNat < 2 ^ 63 then dropSign (octets value) else 0 :: octets value

/-- The conversion engine of `asn_INTEGER2umax`. -/
def convert (st : Integer) (value : UInt64) : UInt64 :=
  st.foldl (fun value b => value <<< 8 ||| b.toUInt64) value

/-- `asn_INTEGER2ulong`: the octets before the last eight have to be zero. -/
def asnINTEGER2ulong (st : Integer) : Option UInt64 := do
  assert ((st.take (st.length - 8)).all (· == 0))
  some (convert (st.drop (st.length - 8)) 0)

/-- One turn of the engine appends the next octet of the value. -/
theorem shift_or_octet (v : UInt64) (k : ℕ) :
    UInt64.ofNat (v.toNat / 256 ^ (k + 1)) <<< 8 ||| (octet v k).toUInt64 =
      UInt64.ofNat (v.toNat / 256 ^ k) := by
  have hdiv : v.toNat / 256 ^ (k + 1) = v.toNat / 256 ^ k / 256 := by
    rw [Nat.pow_succ, Nat.div_div_eq_div_mul]
  have hlt : v.toNat / 256 ^ k < 2 ^ 64 := (Nat.div_le_self _ _).trans_lt v.toNat_lt
  rw [hdiv, octet]
  generalize v.toNat / 256 ^ k = n at hlt
  rw [← UInt64.toNat_inj]
  have hshift : (UInt64.ofNat (n / 256) <<< 8).toNat = (n / 256) <<< 8 := by
    have hexp : 2 ^ (8 % 2 ^ 64 % 64) = 256 := rfl
    rw [UInt64.toNat_shiftLeft, UInt64.toNat_ofNat', UInt64.toNat_ofNat, Nat.shiftLeft_eq, hexp,
      Nat.shiftLeft_eq]
    omega
  rw [UInt64.toNat_or, hshift, UInt8.toNat_toUInt64, UInt8.toNat_ofNat', UInt64.toNat_ofNat',
    ← Nat.shiftLeft_add_eq_or_of_lt (by omega), Nat.shiftLeft_eq]
  omega

theorem convert_octets (v : UInt64) : convert (octets v) 0 = v := by
  have h := v.toNat_lt
  have hstart : (0 : UInt64) = UInt64.ofNat (v.toNat / 256 ^ 8) := by
    have hpow : v.toNat < 256 ^ 8 := h
    rw [Nat.div_eq_of_lt hpow]
    rfl
  rw [hstart]
  simp only [convert, octets, List.foldl_cons, List.foldl_nil, shift_or_octet]
  rw [Nat.pow_zero, Nat.div_one, UInt64.ofNat_toNat]

/-- Leaving out the zeros in front of a value that is not negative does not change it. -/
theorem convert_dropSign {st : Integer} (h : ∀ b ∈ st.head?, b &&& 0x80 = 0) :
    convert (dropSign st) 0 = convert st 0 := by
  induction st using dropSign.induct with
  | case1 a b st hsign ih =>
    obtain ⟨rfl, hb⟩ | ⟨rfl, -⟩ := hsign
    · rw [dropSign, if_pos (.inl ⟨rfl, hb⟩), ih (by simpa using hb)]
      simp [convert]
    · exact absurd (h 0xff rfl) (by decide)
  | case2 a b st hsign => rw [dropSign, if_neg hsign]
  | case3 st hst =>
    match st with
    | [] => rfl
    | [a] => rfl
    | a :: b :: st => exact absurd rfl (hst a b st)

theorem length_dropSign_le (st : Integer) : (dropSign st).length ≤ st.length := by
  induction st using dropSign.induct with
  | case1 a b st hsign ih =>
    rw [dropSign, if_pos hsign]
    exact ih.trans (Nat.le_succ _)
  | case2 a b st hsign => rw [dropSign, if_neg hsign]
  | case3 st hst =>
    match st with
    | [] => exact Nat.le_refl _
    | [a] => exact Nat.le_refl _
    | a :: b :: st => exact absurd rfl (hst a b st)

/-- `asn_INTEGER2ulong` inverts `asn_uint642INTEGER`. -/
@[simp] theorem asnINTEGER2ulong_asnUint642INTEGER (value : UInt64) :
    asnINTEGER2ulong (asnUint642INTEGER value) = some value := by
  have hlength : (octets value).length = 8 := rfl
  rw [asnUint642INTEGER]
  split
  · next hpos =>
    have hle := length_dropSign_le (octets value)
    have hzero : (dropSign (octets value)).length - 8 = 0 := by omega
    have hsign : ∀ b ∈ (octets value).head?, b &&& 0x80 = 0 := by
      intro b hb
      obtain rfl := Option.some.inj hb
      have hlt : (octet value 7).toNat < 2 ^ 7 := by
        rw [octet, UInt8.toNat_ofNat']
        omega
      rw [← UInt8.toNat_inj, UInt8.toNat_and]
      exact (Nat.and_two_pow _ 7).trans (by rw [Nat.testBit_lt_two_pow hlt]; rfl)
    rw [asnINTEGER2ulong, hzero, List.drop_zero, convert_dropSign hsign, convert_octets]
    simp
  · have hone : (0 :: octets value).length - 8 = 1 := rfl
    rw [asnINTEGER2ulong, hone, List.drop_one, List.tail_cons, convert_octets]
    simp

/-! ## PLMNs and node ids (`util/conversions.h`) -/

/-- Two nibbles in an octet. -/
def nibbles (hi lo : ℕ) : UInt8 := UInt8.ofNat (hi <<< 4 ||| lo)

theorem lo_nibbles (hi lo : ℕ) : (nibbles hi lo).toNat &&& 0x0f = lo % 16 := by
  have h : hi <<< 4 % 2 ^ 4 = 0 := by rw [Nat.shiftLeft_eq]; omega
  rw [nibbles, UInt8.toNat_ofNat', Nat.and_two_pow_sub_one_eq_mod _ 4,
    Nat.mod_mod_of_dvd _ (by decide), Nat.or_mod_two_pow, h, Nat.zero_or]

theorem hi_nibbles {hi lo : ℕ} (hlo : lo < 16) :
    (nibbles hi lo).toNat >>> 4 &&& 0x0f = hi % 16 := by
  rw [nibbles, UInt8.toNat_ofNat', ← Nat.shiftLeft_add_eq_or_of_lt hlo, Nat.shiftLeft_eq,
    Nat.shiftRight_eq_div_pow, Nat.and_two_pow_sub_one_eq_mod _ 4]
  omega

/-- `MCC_MNC_TO_PLMNID`. -/
def mccMncToPlmnId (plmn : Plmn) : OctetString :=
  let mcc := plmn.mcc.toNat
  let mnc := plmn.mnc.toNat
  let mncHundreds := if plmn.mncDigitLen = 2 then 15 else mnc / 100
  [nibbles (mcc / 10 % 10) (mcc / 100), nibbles mncHundreds (mcc % 10),
    nibbles (mnc % 10) (mnc / 10 % 10)]

/-- `PLMNID_TO_MCC_MNC`. -/
def plmnIdToMccMnc (octets : OctetString) : Option Plmn := do
  let b₀ ← octets[0]?
  let b₁ ← octets[1]?
  let b₂ ← octets[2]?
  let lo := fun b : UInt8 => b.toNat &&& 0x0f
  let hi := fun b : UInt8 => b.toNat >>> 4 &&& 0x0f
  let mncDigitLen : UInt8 := if hi b₁ = 0x0f then 2 else 3
  some
    { mcc := UInt16.ofNat (lo b₀ * 100 + hi b₀ * 10 + lo b₁)
      mnc := UInt16.ofNat ((if mncDigitLen = 2 then 0 else hi b₁ * 100) + lo b₂ * 10 + hi b₂)
      mncDigitLen := mncDigitLen }

theorem decimal_digits (x : ℕ) : x / 100 * 100 + x / 10 % 10 * 10 + x % 10 = x := by
  have h : x / 100 = x / 10 / 10 := (Nat.div_div_eq_div_mul x 10 10).symm
  omega

theorem digit_le (n : ℕ) : n &&& 0x0f ≤ 15 := Nat.and_le_right

/-- Hundreds that do not fit into a nibble are lost, whatever is read for the tens. -/
theorem hundreds_mod_iff {a b c t : ℕ} (hb : b < 10) (hc : c < 10) (ht : t ≤ 15)
    (htens : a < 16 → t = b) :
    (a % 16 * 100 + t * 10 + c) % 2 ^ 16 = a * 100 + b * 10 + c ↔ a < 16 := by
  have hlt : a % 16 * 100 + t * 10 + c < 2 ^ 16 := by omega
  rw [Nat.mod_eq_of_lt hlt]
  constructor
  · intro h
    by_contra hge
    have hsixteen : a = 16 := by omega
    subst hsixteen
    omega
  · intro h
    rw [htens h, Nat.mod_eq_of_lt h]

/-- A PLMN survives its three octets exactly if its digits fit into them. -/
theorem plmnIdToMccMnc_mccMncToPlmnId_iff {plmn : Plmn} :
    plmnIdToMccMnc (mccMncToPlmnId plmn) = some plmn ↔ plmn.Fits := by
  obtain ⟨mcc, mnc, len⟩ := plmn
  have hfits : Plmn.Fits ⟨mcc, mnc, len⟩ ↔ mcc.toNat < 1600 ∧
      (len = 2 ∧ mnc.toNat < 100 ∨ len = 3 ∧ mnc.toNat < 1500) :=
    ⟨fun h => ⟨h.mcc, h.mnc⟩, fun h => ⟨h.1, h.2⟩⟩
  have htens : ∀ x : ℕ, x / 10 % 10 < 10 := fun x => Nat.mod_lt _ (by decide)
  have hones : ∀ x : ℕ, x % 10 < 10 := fun x => Nat.mod_lt _ (by decide)
  have hsmall : ∀ x : ℕ, x % 10 % 16 = x % 10 := fun x =>
    Nat.mod_eq_of_lt ((hones x).trans (by decide))
  simp only [hfits, plmnIdToMccMnc, mccMncToPlmnId, List.getElem?_cons_zero,
    List.getElem?_cons_succ, lo_nibbles, hi_nibbles ((hones _).trans (by decide : 10 < 16)),
    hsmall, Option.bind_eq_bind, Option.bind_some, Option.some.injEq, Plmn.mk.injEq,
    ← UInt16.toNat_inj, UInt16.toNat_ofNat']
  refine and_congr ?_ ?_
  · have hiff := hundreds_mod_iff (htens mcc.toNat) (hones mcc.toNat)
      (digit_le ((nibbles (mcc.toNat / 10 % 10) (mcc.toNat / 100)).toNat >>> 4))
      (fun h => (hi_nibbles h).trans (hsmall _))
    rw [decimal_digits] at hiff
    exact hiff.trans (Nat.div_lt_iff_lt_mul (by decide))
  · by_cases hlen : len = 2
    · subst hlen
      have hdigits := decimal_digits mnc.toNat
      have hlt : mnc.toNat / 10 % 10 * 10 + mnc.toNat % 10 < 65536 := by omega
      simp [Nat.mod_eq_of_lt hlt]
      omega
    · by_cases hmark : mnc.toNat / 100 % 16 = 15
      · have hle : 15 ≤ mnc.toNat / 100 := hmark ▸ Nat.mod_le _ _
        simp [hlen, hmark, eq_comm (b := len)]
        omega
      · have hbound : mnc.toNat / 100 < 16 ↔ mnc.toNat < 1500 := by omega
        have hiff := hundreds_mod_iff (a := mnc.toNat / 100) (htens mnc.toNat)
          (hones mnc.toNat) ((htens mnc.toNat).le.trans (by decide)) fun _ => rfl
        rw [decimal_digits] at hiff
        simpa [hlen, hmark, eq_comm (b := len), and_comm] using
          fun _ => hiff.trans hbound

/-- A valid PLMN survives its three octets. -/
theorem plmnIdToMccMnc_mccMncToPlmnId {plmn : Plmn} (h : plmn.Valid) :
    plmnIdToMccMnc (mccMncToPlmnId plmn) = some plmn :=
  plmnIdToMccMnc_mccMncToPlmnId_iff.2 h.fits

/-- `MACRO_GNB_ID_TO_BIT_STRING`. -/
def macroGnbIdToBitString (nbId : UInt32) : BitString where
  buf := [UInt8.ofNat (nbId.toNat >>> 20), UInt8.ofNat (nbId.toNat >>> 12),
    UInt8.ofNat (nbId.toNat >>> 4), UInt8.ofNat ((nbId.toNat &&& 0x0f) <<< 4)]
  bitsUnused := 4

/-- `BIT_STRING_TO_MACRO_GNB_ID`. -/
def bitStringToMacroGnbId (bs : BitString) : Option UInt32 := do
  assert (bs.bitsUnused = 4)
  let b₀ ← bs.buf[0]?
  let b₁ ← bs.buf[1]?
  let b₂ ← bs.buf[2]?
  let b₃ ← bs.buf[3]?
  some (UInt32.ofNat
    (b₀.toNat <<< 20 ||| b₁.toNat <<< 12 ||| b₂.toNat <<< 4 ||| b₃.toNat >>> 4))

/-- `MACRO_ENB_ID_TO_BIT_STRING`. -/
def macroEnbIdToBitString (nbId : UInt32) : BitString where
  buf := [UInt8.ofNat (nbId.toNat >>> 12), UInt8.ofNat (nbId.toNat >>> 4),
    UInt8.ofNat ((nbId.toNat &&& 0x0f) <<< 4)]
  bitsUnused := 4

/-- `BIT_STRING_TO_MACRO_ENB_ID`. -/
def bitStringToMacroEnbId (bs : BitString) : Option UInt32 := do
  assert (bs.bitsUnused = 4)
  let b₀ ← bs.buf[0]?
  let b₁ ← bs.buf[1]?
  let b₂ ← bs.buf[2]?
  some (UInt32.ofNat (b₀.toNat <<< 12 ||| b₁.toNat <<< 4 ||| b₂.toNat >>> 4))

theorem or_shiftLeft {a b : ℕ} {i j : ℕ} (hb : b < 2 ^ j) :
    a <<< (j + i) ||| b <<< i = (a * 2 ^ j + b) <<< i := by
  rw [Nat.shiftLeft_add, ← Nat.shiftLeft_or_distrib, ← Nat.shiftLeft_add_eq_or_of_lt hb,
    Nat.shiftLeft_eq a]

/-- The last nibble of an id is the upper one of its octet. -/
theorem toNat_last_nibble (n : ℕ) : (UInt8.ofNat ((n &&& 0x0f) <<< 4)).toNat >>> 4 = n % 16 := by
  have hmod : n &&& 0x0f = n % 16 := Nat.and_two_pow_sub_one_eq_mod n 4
  rw [hmod, UInt8.toNat_ofNat', Nat.shiftRight_eq_div_pow, Nat.shiftLeft_eq]
  omega

/-- The field holds the last 28 bits of the id. -/
theorem bitStringToMacroGnbId_macroGnbIdToBitString (nbId : UInt32) :
    bitStringToMacroGnbId (macroGnbIdToBitString nbId) =
      some (UInt32.ofNat (nbId.toNat % 2 ^ 28)) := by
  have h₁ := (UInt8.ofNat (nbId.toNat >>> 12)).toNat_lt
  have h₂ := (UInt8.ofNat (nbId.toNat >>> 4)).toNat_lt
  have h₃ : nbId.toNat % 16 < 2 ^ 4 := Nat.mod_lt _ (by decide)
  refine congrArg (fun n => some (UInt32.ofNat n)) ?_
  rw [toNat_last_nibble, or_shiftLeft (i := 12) h₁, or_shiftLeft (i := 4) h₂,
    ← Nat.shiftLeft_add_eq_or_of_lt h₃, Nat.shiftLeft_eq]
  simp only [UInt8.toNat_ofNat', Nat.shiftRight_eq_div_pow]
  omega

/-- The field holds the last 20 bits of the id. -/
theorem bitStringToMacroEnbId_macroEnbIdToBitString (nbId : UInt32) :
    bitStringToMacroEnbId (macroEnbIdToBitString nbId) =
      some (UInt32.ofNat (nbId.toNat % 2 ^ 20)) := by
  have h₁ := (UInt8.ofNat (nbId.toNat >>> 4)).toNat_lt
  have h₂ : nbId.toNat % 16 < 2 ^ 4 := Nat.mod_lt _ (by decide)
  refine congrArg (fun n => some (UInt32.ofNat n)) ?_
  rw [toNat_last_nibble, or_shiftLeft (i := 4) h₁, ← Nat.shiftLeft_add_eq_or_of_lt h₂,
    Nat.shiftLeft_eq]
  simp only [UInt8.toNat_ofNat', Nat.shiftRight_eq_div_pow]
  omega

/-- An id survives its field exactly if it fits into it. -/
theorem bitStringToMacroGnbId_iff {nbId : UInt32} :
    bitStringToMacroGnbId (macroGnbIdToBitString nbId) = some nbId ↔ nbId.toNat < 2 ^ 28 := by
  have hlt := nbId.toNat_lt
  rw [bitStringToMacroGnbId_macroGnbIdToBitString, Option.some_inj, ← UInt32.toNat_inj,
    UInt32.toNat_ofNat']
  omega

theorem bitStringToMacroEnbId_iff {nbId : UInt32} :
    bitStringToMacroEnbId (macroEnbIdToBitString nbId) = some nbId ↔ nbId.toNat < 2 ^ 20 := by
  have hlt := nbId.toNat_lt
  rw [bitStringToMacroEnbId_macroEnbIdToBitString, Option.some_inj, ← UInt32.toNat_inj,
    UInt32.toNat_ofNat']
  omega

theorem bitStringToMacroGnbId_of_lt {nbId : UInt32} (h : nbId.toNat < 2 ^ 28) :
    bitStringToMacroGnbId (macroGnbIdToBitString nbId) = some nbId :=
  bitStringToMacroGnbId_iff.2 h

theorem bitStringToMacroEnbId_of_lt {nbId : UInt32} (h : nbId.toNat < 2 ^ 20) :
    bitStringToMacroEnbId (macroEnbIdToBitString nbId) = some nbId :=
  bitStringToMacroEnbId_iff.2 h

/-! ## Numbers of four octets -/

/-- `BUFFER_TO_INT32`. -/
def bufferToInt32 (b₀ b₁ b₂ b₃ : UInt8) : UInt32 :=
  UInt32.ofNat (b₀.toNat <<< 24 ||| b₁.toNat <<< 16 ||| b₂.toNat <<< 8 ||| b₃.toNat)

/-- `INT32_TO_OCTET_STRING`. -/
def int32ToOctetString (x : UInt32) : OctetString :=
  [UInt8.ofNat (x.toNat >>> 24), UInt8.ofNat (x.toNat >>> 16), UInt8.ofNat (x.toNat >>> 8),
    UInt8.ofNat x.toNat]

/-- `OCTET_STRING_TO_INT32`. -/
def octetStringToInt32 (octets : OctetString) : Option UInt32 := do
  let b₀ ← octets[0]?
  let b₁ ← octets[1]?
  let b₂ ← octets[2]?
  let b₃ ← octets[3]?
  some (bufferToInt32 b₀ b₁ b₂ b₃)

/-- `htonl`, and `ntohl`, of a host that has the lowest octet first. -/
def htonl (x : UInt32) : UInt32 :=
  bufferToInt32 (UInt8.ofNat x.toNat) (UInt8.ofNat (x.toNat >>> 8)) (UInt8.ofNat (x.toNat >>> 16))
    (UInt8.ofNat (x.toNat >>> 24))

theorem toNat_bufferToInt32 (b₀ b₁ b₂ b₃ : UInt8) :
    (bufferToInt32 b₀ b₁ b₂ b₃).toNat =
      b₀.toNat * 2 ^ 24 + b₁.toNat * 2 ^ 16 + b₂.toNat * 2 ^ 8 + b₃.toNat := by
  have h₀ := b₀.toNat_lt
  have h₁ := b₁.toNat_lt
  have h₂ := b₂.toNat_lt
  have h₃ := b₃.toNat_lt
  rw [bufferToInt32, or_shiftLeft (i := 16) h₁, or_shiftLeft (i := 8) h₂,
    ← Nat.shiftLeft_add_eq_or_of_lt h₃, Nat.shiftLeft_eq, UInt32.toNat_ofNat']
  omega

theorem octetStringToInt32_int32ToOctetString (x : UInt32) :
    octetStringToInt32 (int32ToOctetString x) = some x := by
  have hlt := x.toNat_lt
  refine congrArg some (UInt32.toNat_inj.1 ?_)
  rw [toNat_bufferToInt32]
  simp only [UInt8.toNat_ofNat', Nat.shiftRight_eq_div_pow]
  omega

/-- `htonl` turns the octets of a number around. -/
theorem htonl_bufferToInt32 (b₀ b₁ b₂ b₃ : UInt8) :
    htonl (bufferToInt32 b₀ b₁ b₂ b₃) = bufferToInt32 b₃ b₂ b₁ b₀ := by
  have h₀ := b₀.toNat_lt
  have h₁ := b₁.toNat_lt
  have h₂ := b₂.toNat_lt
  have h₃ := b₃.toNat_lt
  refine UInt32.toNat_inj.1 ?_
  rw [htonl, toNat_bufferToInt32, toNat_bufferToInt32, toNat_bufferToInt32]
  simp only [UInt8.toNat_ofNat', Nat.shiftRight_eq_div_pow]
  omega

/-- Turned around twice, they are as before. -/
theorem htonl_htonl (x : UInt32) : htonl (htonl x) = x := by
  rw [htonl.eq_1 x, htonl_bufferToInt32]
  exact Option.some.inj (octetStringToInt32_int32ToOctetString x)

end Asn

end FlexRic
