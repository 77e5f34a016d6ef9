import FlexRic.Semantics.Layout

/-!
# Decoders of a fixed size

A decoder that copies whole structs reads a number of bytes that does not depend on what they are:
it reads past the end exactly if there are fewer. The fields of a struct are found in its bytes at
their offsets.
-/

namespace FlexRic

/-! ## Fields of a struct -/

/-- The number in the `n` bytes at an offset. -/
def wordAt (n : ℕ) (bs : List UInt8) (offset : ℕ) : ℕ := ofWordBytes ((bs.drop offset).take n)

/-- The `uint8_t` at an offset. -/
def u8At (bs : List UInt8) (offset : ℕ) : UInt8 := UInt8.ofNat (wordAt 1 bs offset)

/-- The `uint16_t` at an offset. -/
def u16At (bs : List UInt8) (offset : ℕ) : UInt16 := UInt16.ofNat (wordAt 2 bs offset)

/-- The `uint32_t` at an offset. -/
def u32At (bs : List UInt8) (offset : ℕ) : UInt32 := UInt32.ofNat (wordAt 4 bs offset)

/-- The `uint64_t` at an offset. -/
def u64At (bs : List UInt8) (offset : ℕ) : UInt64 := UInt64.ofNat (wordAt 8 bs offset)

/-- A field of `n` bytes at the beginning. -/
theorem wordAt_wordBytes {n v : ℕ} (h : v < 256 ^ n) (bs : List UInt8) :
    wordAt n (wordBytes n v ++ bs) 0 = v := by
  rw [wordAt, List.drop_zero, List.take_left' (length_wordBytes n v), ofWordBytes_wordBytes,
    Nat.mod_eq_of_lt h]

/-- What comes behind a field does not depend on the field. -/
theorem wordAt_append {bs : List UInt8} {offset : ℕ} (h : bs.length ≤ offset) (n : ℕ)
    (bs' : List UInt8) : wordAt n (bs ++ bs') offset = wordAt n bs' (offset - bs.length) := by
  rw [wordAt, wordAt, List.drop_append, List.drop_eq_nil_of_le h, List.nil_append]

theorem u8At_wordBytes (v : UInt8) (bs : List UInt8) :
    u8At (wordBytes 1 v.toNat ++ bs) 0 = v := by
  rw [u8At, wordAt_wordBytes v.toNat_lt, UInt8.ofNat_toNat]

theorem u16At_wordBytes (v : UInt16) (bs : List UInt8) :
    u16At (wordBytes 2 v.toNat ++ bs) 0 = v := by
  rw [u16At, wordAt_wordBytes v.toNat_lt, UInt16.ofNat_toNat]

theorem u32At_wordBytes (v : UInt32) (bs : List UInt8) :
    u32At (wordBytes 4 v.toNat ++ bs) 0 = v := by
  rw [u32At, wordAt_wordBytes v.toNat_lt, UInt32.ofNat_toNat]

theorem u64At_wordBytes (v : UInt64) (bs : List UInt8) :
    u64At (wordBytes 8 v.toNat ++ bs) 0 = v := by
  rw [u64At, wordAt_wordBytes v.toNat_lt, UInt64.ofNat_toNat]

/-- A place behind an offset. -/
theorem u32At_add (bs : List UInt8) (offset i : ℕ) :
    u32At bs (offset + i) = u32At (bs.drop offset) i := by
  rw [u32At, wordAt, ← List.drop_drop]
  rfl

section Skip

variable {bs : List UInt8} {offset : ℕ} (h : bs.length ≤ offset) (bs' : List UInt8)

include h

theorem u8At_append : u8At (bs ++ bs') offset = u8At bs' (offset - bs.length) :=
  congrArg UInt8.ofNat (wordAt_append h 1 bs')

theorem u16At_append : u16At (bs ++ bs') offset = u16At bs' (offset - bs.length) :=
  congrArg UInt16.ofNat (wordAt_append h 2 bs')

theorem u32At_append : u32At (bs ++ bs') offset = u32At bs' (offset - bs.length) :=
  congrArg UInt32.ofNat (wordAt_append h 4 bs')

theorem u64At_append : u64At (bs ++ bs') offset = u64At bs' (offset - bs.length) :=
  congrArg UInt64.ofNat (wordAt_append h 8 bs')

end Skip

/-- The bytes of an array of words of four bytes. -/
def arrayBytes (vs : List UInt32) : List UInt8 := vs.flatMap fun v => wordBytes 4 v.toNat

@[simp] theorem length_arrayBytes (vs : List UInt32) :
    (arrayBytes vs).length = 4 * vs.length := by
  induction vs with
  | nil => rfl
  | cons v vs ih =>
    rw [arrayBytes, List.flatMap_cons, List.length_append, length_wordBytes]
    rw [arrayBytes] at ih
    rw [ih, List.length_cons]
    omega

/-- An array is read word by word. -/
theorem u32At_arrayBytes {vs : List UInt32} {i : ℕ} (hi : i < vs.length) (bs : List UInt8) :
    u32At (arrayBytes vs ++ bs) (4 * i) = vs[i] := by
  induction vs generalizing i with
  | nil => exact absurd hi (Nat.not_lt_zero _)
  | cons v vs ih =>
    have hcons : arrayBytes (v :: vs) ++ bs = wordBytes 4 v.toNat ++ (arrayBytes vs ++ bs) := by
      rw [arrayBytes, List.flatMap_cons, List.append_assoc]
      rfl
    rw [hcons]
    cases i with
    | zero => exact u32At_wordBytes v _
    | succ i =>
      have hle : (wordBytes 4 v.toNat).length ≤ 4 * (i + 1) := by
        rw [length_wordBytes]
        omega
      have hsub : 4 * (i + 1) - (wordBytes 4 v.toNat).length = 4 * i := by
        rw [length_wordBytes]
        omega
      rw [u32At_append hle, hsub]
      exact ih (Nat.lt_of_succ_lt_succ hi)

/-- An array of a struct. -/
theorem ofFn_u32At {n : ℕ} (vs : Vector UInt32 n) (bs : List UInt8) :
    (Vector.ofFn fun i : Fin n => u32At (arrayBytes vs.toList ++ bs) (4 * i)) = vs := by
  apply Vector.ext
  intro i hi
  have hlen : i < vs.toList.length := by rwa [Vector.length_toList]
  rw [Vector.getElem_ofFn, u32At_arrayBytes hlen, Vector.getElem_toList]

/-! ## Sizes -/

namespace Decoder

variable {α β : Type}

/-- The decoder reads `n` bytes, whatever they are. -/
structure Sized (d : Decoder α) (n : ℕ) : Prop where
  done : ∀ bs, n ≤ bs.length → ∃ a, d bs = .done a (bs.drop n)
  overread : ∀ bs, bs.length < n → d bs = .overread

namespace Sized

theorem eq_overread_iff {d : Decoder α} {n : ℕ} (h : d.Sized n) {bs : List UInt8} :
    d bs = .overread ↔ bs.length < n := by
  constructor
  · intro hover
    by_contra hlen
    obtain ⟨a, hdone⟩ := h.done bs (Nat.le_of_not_lt hlen)
    rw [hdone] at hover
    cases hover
  · exact h.overread bs

theorem pure (a : α) : Sized (Pure.pure a) 0 where
  done _ _ := ⟨a, rfl⟩
  overread _ hlt := absurd hlt (Nat.not_lt_zero _)

theorem take (n : ℕ) : (Decoder.take n).Sized n where
  done bs hle := ⟨bs.take n, if_pos hle⟩
  overread _ hlt := if_neg (Nat.not_le.2 hlt)

theorem bind {d : Decoder α} {k : α → Decoder β} {n m : ℕ} (h : d.Sized n)
    (hk : ∀ a, (k a).Sized m) : (d >>= k).Sized (n + m) where
  done bs hle := by
    obtain ⟨a, ha⟩ := h.done bs (by omega)
    obtain ⟨b, hb⟩ := (hk a).done (bs.drop n) (by rw [List.length_drop]; omega)
    refine ⟨b, bind_eq_done.2 ⟨a, bs.drop n, ha, ?_⟩⟩
    rw [hb, List.drop_drop]
  overread bs hlt := by
    rw [bind_eq_overread]
    by_cases hn : bs.length < n
    · exact .inl (h.overread bs hn)
    · obtain ⟨a, ha⟩ := h.done bs (by omega)
      exact .inr ⟨a, bs.drop n, ha, (hk a).overread _ (by rw [List.length_drop]; omega)⟩

theorem map {d : Decoder α} {n : ℕ} (h : d.Sized n) (f : α → β) : (f <$> d).Sized n := by
  rw [← bind_pure_comp]
  exact h.bind fun a => pure (f a)

theorem u32 : Decoder.u32.Sized 4 := (take 4).bind fun _ => pure _

theorem i64 : Decoder.i64.Sized 8 := ((take 8).bind fun _ => pure _).map _

theorem repeatN {d : Decoder α} {n : ℕ} (h : d.Sized n) (k : ℕ) :
    (d.repeatN k).Sized (n * k) := by
  induction k with
  | zero => exact pure []
  | succ k ih =>
    rw [Nat.mul_succ, Nat.add_comm (n * k)]
    exact h.bind fun a => ih.bind fun as => pure (a :: as)

end Sized

/-- The number in the first four bytes. -/
def count (bs : List UInt8) : ℕ := ofWordBytes (bs.take 4)

theorem count_lt (bs : List UInt8) : count bs < 2 ^ 32 := by
  have hlt := ofWordBytes_lt (bs.take 4)
  have hpow : 256 ^ (bs.take 4).length ≤ 256 ^ 4 :=
    Nat.pow_le_pow_right (by decide) (List.length_take_le 4 bs)
  exact Nat.lt_of_lt_of_le hlt hpow

theorem u32_eq_done {bs : List UInt8} (hlen : 4 ≤ bs.length) :
    u32 bs = .done (UInt32.ofNat (count bs)) (bs.drop 4) := by
  refine bind_eq_done.2 ⟨bs.take 4, bs.drop 4, if_pos hlen, rfl⟩

/-- A count decides how many bytes are read behind it. -/
theorem u32_bind_eq_overread {k : UInt32 → Decoder β} {size rest : ℕ}
    (hk : ∀ n, (k n).Sized (size * n.toNat + rest)) {bs : List UInt8} :
    (u32 >>= k) bs = .overread ↔ bs.length < 4 + size * count bs + rest := by
  by_cases hlen : 4 ≤ bs.length
  · rw [bind_apply, u32_eq_done hlen, (hk _).eq_overread_iff, List.length_drop,
      UInt32.toNat_ofNat_of_lt' (count_lt bs)]
    omega
  · rw [bind_eq_overread, Sized.u32.eq_overread_iff]
    exact iff_of_true (.inl (by omega)) (by omega)

/-- Assert something about the number of the bytes. -/
def assertLen (p : ℕ → Prop) [DecidablePred p] : Decoder Unit := fun bs =>
  if p bs.length then .done () bs else .rejected

theorem assertLen_bind_eq_overread {p : ℕ → Prop} [DecidablePred p] {k : Unit → Decoder β}
    {bs : List UInt8} :
    (assertLen p >>= k) bs = .overread ↔ p bs.length ∧ k () bs = .overread := by
  rw [bind_apply, assertLen]
  by_cases hp : p bs.length
  · simp [hp]
  · simp [hp]

end Decoder

end FlexRic
