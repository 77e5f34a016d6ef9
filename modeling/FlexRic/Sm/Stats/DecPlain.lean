import Mathlib.Data.Nat.Bitwise
import Mathlib.Data.Nat.Size
import FlexRic.Sm.Stats.DataIe

/-!
# The decoders of the statistics service models

The decoders of the indication messages in `mac_sm/dec/mac_dec_plain.c`,
`rlc_sm/dec/rlc_dec_plain.c`, `pdcp_sm/dec/pdcp_dec_plain.c` and `gtp_sm/dec/gtp_dec_plain.c`.
Each reads a count, as many records as it says, and a time stamp. They differ in what they assert
about the number of the bytes before they read. The memory for the records can always be
allocated.

None of the four looks at the count before it copies the records. So each reads past the end
whenever the count announces more than there is, but for the lengths that its assertion excludes.
-/

namespace FlexRic

open Decoder

/-! ## The decoders -/

/-- What all of the decoders do behind their assertion: `size` is the size of a record. -/
def statsDecIndMsg {Stats : Type} (size : ℕ) (ofBytes : List UInt8 → Stats) :
    Decoder (StatsIndMsg Stats) := do
  let len ← u32
  let stats ← repeatN (ofBytes <$> take size) len.toNat
  let tstamp ← i64
  pure ⟨stats, tstamp⟩

/-- `next_pow2`. -/
def nextPow2 (x : UInt64) : UInt64 :=
  let x := x - 1
  let x := x ||| (x >>> 1)
  let x := x ||| (x >>> 2)
  let x := x ||| (x >>> 4)
  let x := x ||| (x >>> 8)
  let x := x ||| (x >>> 16)
  let x := x ||| (x >>> 32)
  x + 1

/-- `mac_dec_ind_msg_plain`. -/
def macDecIndMsgPlain : Decoder MacIndMsg :=
  (statsDecIndMsg MacUeStatsImpl.sizeof MacUeStatsImpl.ofBytes).last

/-- `rlc_dec_ind_msg_plain`: a message and a pointer in it take 24 and 8 bytes. -/
def rlcDecIndMsgPlain : Decoder RlcIndMsg := do
  assertLen fun len => 24 - 8 ≤ nextPow2 (UInt64.ofNat len)
  (statsDecIndMsg RlcRadioBearerStats.sizeof RlcRadioBearerStats.ofBytes).last

/-- `pdcp_dec_ind_msg_plain`. -/
def pdcpDecIndMsgPlain : Decoder PdcpIndMsg := do
  assertLen fun len => 4 + 8 ≤ len
  (statsDecIndMsg PdcpRadioBearerStats.sizeof PdcpRadioBearerStats.ofBytes).last

/-- `gtp_dec_ind_msg_plain`: a message and a pointer in it take 24 and 8 bytes. -/
def gtpDecIndMsgPlain : Decoder GtpIndMsg := do
  assertLen fun len => 24 - 8 ≤ nextPow2 (UInt64.ofNat len)
  (statsDecIndMsg GtpNguTStats.sizeof GtpNguTStats.ofBytes).last

/-! ## The next power of two -/

/-- When the bits of `a` are those that have a bit of `x` among the `n` bits from them on, the bits
of `a ||| a >>> n` are those that have one among the `2 * n` bits from them on. -/
theorem testBit_or_shiftRight {a x n : ℕ}
    (h : ∀ i, a.testBit i ↔ ∃ j < n, x.testBit (i + j)) (i : ℕ) :
    (a ||| a >>> n).testBit i ↔ ∃ j < 2 * n, x.testBit (i + j) := by
  rw [Nat.testBit_or, Nat.testBit_shiftRight, Bool.or_eq_true, h, h]
  constructor
  · rintro (⟨j, hj, hbit⟩ | ⟨j, hj, hbit⟩)
    · exact ⟨j, by omega, hbit⟩
    · exact ⟨n + j, by omega, by rwa [← Nat.add_assoc, Nat.add_comm i n]⟩
  · rintro ⟨j, hj, hbit⟩
    by_cases hjn : j < n
    · exact .inl ⟨j, hjn, hbit⟩
    · refine .inr ⟨j - n, by omega, ?_⟩
      rwa [show n + i + (j - n) = i + j by omega]

/-- What `next_pow2` makes of the bits of `x`: all of them up to the highest one are set. -/
def fillBits (x : ℕ) : ℕ :=
  let x := x ||| x >>> 1
  let x := x ||| x >>> 2
  let x := x ||| x >>> 4
  let x := x ||| x >>> 8
  let x := x ||| x >>> 16
  x ||| x >>> 32

theorem testBit_fillBits {x : ℕ} (hx : x < 2 ^ 64) (i : ℕ) :
    (fillBits x).testBit i ↔ i < x.size := by
  have h0 : ∀ i, x.testBit i ↔ ∃ j < 1, x.testBit (i + j) := by simp
  have h6 := testBit_or_shiftRight (testBit_or_shiftRight (testBit_or_shiftRight
    (testBit_or_shiftRight (testBit_or_shiftRight (testBit_or_shiftRight h0)))))
  rw [Nat.lt_size]
  refine (h6 i).trans ⟨?_, fun hle => ?_⟩
  · rintro ⟨j, -, hbit⟩
    exact (Nat.pow_le_pow_right (by decide) (Nat.le_add_right i j)).trans
      (Nat.ge_two_pow_of_testBit hbit)
  · -- the highest bit of `x` is one of those from `i` on
    have hne : x ≠ 0 := (lt_of_lt_of_le (Nat.two_pow_pos i) hle).ne'
    have hlog : i ≤ Nat.log2 x := (Nat.le_log2 hne).2 hle
    have hlt : Nat.log2 x < 64 := (Nat.log2_lt hne).2 hx
    refine ⟨Nat.log2 x - i, by omega, ?_⟩
    rw [show i + (Nat.log2 x - i) = Nat.log2 x by omega]
    exact Nat.testBit_log2 hne

theorem fillBits_eq {x : ℕ} (hx : x < 2 ^ 64) : fillBits x = 2 ^ x.size - 1 := by
  apply Nat.eq_of_testBit_eq
  intro i
  rw [Nat.testBit_two_pow_sub_one, Bool.eq_iff_iff, testBit_fillBits hx, decide_eq_true_iff]

theorem toNat_nextPow2 {x : UInt64} (hpos : 0 < x.toNat) (hle : x.toNat ≤ 2 ^ 63) :
    (nextPow2 x).toNat = 2 ^ (x.toNat - 1).size := by
  have hsub : (x - 1).toNat = x.toNat - 1 :=
    UInt64.toNat_sub_of_le x 1 (UInt64.le_iff_toNat_le.2 hpos)
  have hfill : (nextPow2 x).toNat = (fillBits (x.toNat - 1) + 1) % 2 ^ 64 := by
    rw [← hsub]
    simp [nextPow2, fillBits, UInt64.toNat_add, UInt64.toNat_or, UInt64.toNat_shiftRight]
  have hsize : 2 ^ (x.toNat - 1).size ≤ 2 ^ 63 :=
    Nat.pow_le_pow_right (by decide) (Nat.size_le.2 (by omega))
  have hpow := Nat.two_pow_pos (x.toNat - 1).size
  rw [hfill, fillBits_eq (by omega), Nat.sub_add_cancel hpow]
  exact Nat.mod_eq_of_lt (lt_of_le_of_lt hsize (by decide))

/-- The assertion of the RLC and the GTP decoder lets nine bytes pass, three less than an empty
message has. -/
theorem le_nextPow2_iff {len : ℕ} (hlen : len ≤ 2 ^ 63) :
    24 - 8 ≤ nextPow2 (UInt64.ofNat len) ↔ 9 ≤ len := by
  have hto : (UInt64.ofNat len).toNat = len :=
    UInt64.toNat_ofNat_of_lt' (lt_of_le_of_lt hlen (by decide))
  rw [UInt64.le_iff_toNat_le]
  cases Nat.eq_zero_or_pos len with
  | inl hzero =>
    rw [hzero]
    decide
  | inr hpos =>
    rw [toNat_nextPow2 (hto.symm ▸ hpos) (hto.symm ▸ hlen), hto]
    have hsize : 2 ^ 4 ≤ 2 ^ (len - 1).size ↔ 3 < (len - 1).size :=
      Nat.pow_le_pow_iff_right (by decide)
    refine hsize.trans (Nat.lt_size.trans ?_)
    omega

/-! ## Reads past the end -/

theorem statsDecIndMsg_eq_overread {Stats : Type} {size : ℕ} {ofBytes : List UInt8 → Stats}
    {bs : List UInt8} :
    (statsDecIndMsg size ofBytes).last bs = .overread ↔ bs.length < 12 + size * count bs := by
  have hsized : ∀ n : UInt32, Sized (do
      let stats ← repeatN (ofBytes <$> take size) n.toNat
      let tstamp ← i64
      pure (⟨stats, tstamp⟩ : StatsIndMsg Stats)) (size * n.toNat + 8) := fun n =>
    (((Sized.take size).map ofBytes).repeatN n.toNat).bind fun _ => Sized.i64.bind fun _ => .pure _
  rw [last_eq_overread, statsDecIndMsg, u32_bind_eq_overread hsized]
  omega

/-- The decoders stay inside the bytes exactly if all of the announced records and the time stamp
are there, or the assertion rejects the bytes for being too few. -/
theorem statsDec_no_overread_iff (bs : List UInt8) :
    (macDecIndMsgPlain bs ≠ .overread ↔ 12 + 176 * count bs ≤ bs.length) ∧
      (rlcDecIndMsgPlain bs ≠ .overread ↔
        bs.length ≤ 8 ∨ 12 + 128 * count bs ≤ bs.length) ∧
      (pdcpDecIndMsgPlain bs ≠ .overread ↔
        bs.length < 12 ∨ 12 + 68 * count bs ≤ bs.length) ∧
      (gtpDecIndMsgPlain bs ≠ .overread ↔
        bs.length ≤ 8 ∨ 12 + 12 * count bs ≤ bs.length) := by
  have hcount := count_lt bs
  refine ⟨?_, ?_, ?_, ?_⟩
  · rw [Ne, macDecIndMsgPlain, statsDecIndMsg_eq_overread, MacUeStatsImpl.sizeof]
    omega
  · rw [Ne, rlcDecIndMsgPlain, assertLen_bind_eq_overread, statsDecIndMsg_eq_overread,
      RlcRadioBearerStats.sizeof]
    by_cases hlen : bs.length ≤ 2 ^ 63
    · rw [le_nextPow2_iff hlen]
      omega
    · omega
  · rw [Ne, pdcpDecIndMsgPlain, assertLen_bind_eq_overread, statsDecIndMsg_eq_overread,
      PdcpRadioBearerStats.sizeof]
    omega
  · rw [Ne, gtpDecIndMsgPlain, assertLen_bind_eq_overread, statsDecIndMsg_eq_overread,
      GtpNguTStats.sizeof]
    by_cases hlen : bs.length ≤ 2 ^ 63
    · rw [le_nextPow2_iff hlen]
      omega
    · omega

/-- Twelve bytes that announce one record and bring none. -/
theorem statsDec_overread : ¬∀ bs : List UInt8,
    macDecIndMsgPlain bs ≠ .overread ∧ rlcDecIndMsgPlain bs ≠ .overread ∧
      pdcpDecIndMsgPlain bs ≠ .overread ∧ gtpDecIndMsgPlain bs ≠ .overread := by
  intro h
  have hmac := (h [1, 0, 0, 0, 0, 0, 0, 0, 0, 0, 0, 0]).1
  revert hmac
  decide

end FlexRic
