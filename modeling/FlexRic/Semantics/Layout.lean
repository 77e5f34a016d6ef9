import Mathlib.Data.List.Basic
import Mathlib.Algebra.Ring.Nat

/-!
# Byte layouts

An encoder copies one field after the other into a buffer, and a decoder reads them back. What
the encoder does with a message is a `Layout`: the fields in their order, and in between the
places where it checks that the buffer is not full yet. A decoder may run out of bytes: either it
notices (`rejected`) or it reads past the end of the buffer (`overread`).

`Format` says that a decoder reads back a layout, and on which bytes it reads past the end: on
those that stop in the middle of a field.
-/

namespace FlexRic

universe u

/-! ## Layouts -/

/-- One thing that an encoder does. -/
inductive LayoutItem : Type where
  /-- it copies a field into the buffer -/
  | field (bytes : List UInt8)
  /-- it checks that the buffer is not full yet -/
  | check
  deriving DecidableEq

/-- What an encoder does, one thing after the other. -/
abbrev Layout : Type := List LayoutItem

namespace Layout

/-- The fields without the checks. -/
def bytes : Layout → List UInt8
  | [] => []
  | .field f :: l => f ++ bytes l
  | .check :: l => bytes l

/-- Write a layout behind `buf` into a buffer of `sz` bytes, which has to be full in the end. -/
def emit (sz : ℕ) : Layout → List UInt8 → Option (List UInt8)
  | [], buf => if buf.length = sz then some buf else none
  | .field f :: l, buf => if (buf ++ f).length ≤ sz then emit sz l (buf ++ f) else none
  | .check :: l, buf => if buf.length < sz then emit sz l buf else none

/-- The bytes begin with the fields of the layout, `rest` is what follows them, and at each check
there are bytes left. -/
def Follows : Layout → List UInt8 → List UInt8 → Prop
  | [], bs, rest => bs = rest
  | .field f :: l, bs, rest => ∃ bs', bs = f ++ bs' ∧ Follows l bs' rest
  | .check :: l, bs, rest => bs ≠ [] ∧ Follows l bs rest

/-- The bytes begin with some fields of the layout and then stop short of the size of the next
one; at each check before it there are bytes left. -/
def EndsInside : Layout → List UInt8 → Prop
  | [], _ => False
  | .field f :: l, bs => bs.length < f.length ∨ ∃ bs', bs = f ++ bs' ∧ EndsInside l bs'
  | .check :: l, bs => bs ≠ [] ∧ EndsInside l bs

@[simp] theorem bytes_nil : bytes [] = [] := rfl

@[simp] theorem bytes_field (f : List UInt8) (l : Layout) : bytes (.field f :: l) = f ++ bytes l :=
  rfl

@[simp] theorem bytes_check (l : Layout) : bytes (.check :: l) = bytes l := rfl

@[simp] theorem bytes_append (l l' : Layout) : bytes (l ++ l') = bytes l ++ bytes l' := by
  induction l with
  | nil => rfl
  | cons i l ih => cases i <;> simp [ih]

theorem bytes_flatMap {α : Type u} (as : List α) (f : α → Layout) :
    bytes (as.flatMap f) = as.flatMap fun a => bytes (f a) := by
  induction as with
  | nil => rfl
  | cons a as ih => rw [List.flatMap_cons, bytes_append, ih, List.flatMap_cons]

theorem follows_append {l l' : Layout} {bs rest : List UInt8} :
    (l ++ l').Follows bs rest ↔ ∃ mid, l.Follows bs mid ∧ l'.Follows mid rest := by
  induction l generalizing bs with
  | nil => simp [Follows]
  | cons i l ih =>
    cases i with
    | field f =>
      simp only [List.cons_append, Follows, ih]
      exact ⟨fun ⟨bs', hbs, mid, h, h'⟩ => ⟨mid, ⟨bs', hbs, h⟩, h'⟩,
        fun ⟨mid, ⟨bs', hbs, h⟩, h'⟩ => ⟨bs', hbs, mid, h, h'⟩⟩
    | check =>
      simp only [List.cons_append, Follows, ih]
      exact ⟨fun ⟨hne, mid, h, h'⟩ => ⟨mid, ⟨hne, h⟩, h'⟩,
        fun ⟨mid, ⟨hne, h⟩, h'⟩ => ⟨hne, mid, h, h'⟩⟩

theorem endsInside_append {l l' : Layout} {bs : List UInt8} :
    (l ++ l').EndsInside bs ↔
      l.EndsInside bs ∨ ∃ mid, l.Follows bs mid ∧ l'.EndsInside mid := by
  induction l generalizing bs with
  | nil => simp [Follows, EndsInside]
  | cons i l ih =>
    cases i with
    | field f =>
      simp only [List.cons_append, Follows, EndsInside, ih]
      constructor
      · rintro (h | ⟨bs', hbs, h | ⟨mid, h, h'⟩⟩)
        · exact .inl (.inl h)
        · exact .inl (.inr ⟨bs', hbs, h⟩)
        · exact .inr ⟨mid, ⟨bs', hbs, h⟩, h'⟩
      · rintro ((h | ⟨bs', hbs, h⟩) | ⟨mid, ⟨bs', hbs, h⟩, h'⟩)
        · exact .inl h
        · exact .inr ⟨bs', hbs, .inl h⟩
        · exact .inr ⟨bs', hbs, .inr ⟨mid, h, h'⟩⟩
    | check =>
      simp only [List.cons_append, Follows, EndsInside, ih]
      constructor
      · rintro ⟨hne, h | ⟨mid, h, h'⟩⟩
        · exact .inl ⟨hne, h⟩
        · exact .inr ⟨mid, ⟨hne, h⟩, h'⟩
      · rintro (⟨hne, h⟩ | ⟨mid, ⟨hne, h⟩, h'⟩)
        · exact ⟨hne, .inl h⟩
        · exact ⟨hne, .inr ⟨mid, h, h'⟩⟩

/-- A layout without checks. -/
def Plain (l : Layout) : Prop := .check ∉ l

/-- A layout with bytes behind each of its checks. -/
def Guarded : Layout → Prop
  | [] => True
  | .field _ :: l => Guarded l
  | .check :: l => bytes l ≠ [] ∧ Guarded l

theorem Plain.guarded {l : Layout} (hl : l.Plain) : l.Guarded := by
  induction l with
  | nil => trivial
  | cons i l ih =>
    cases i with
    | field f => exact ih fun h => hl (List.mem_cons_of_mem _ h)
    | check => exact absurd List.mem_cons_self hl

theorem Guarded.append {l l' : Layout} (hl : l.Guarded) (hl' : l'.Guarded) :
    (l ++ l').Guarded := by
  induction l with
  | nil => exact hl'
  | cons i l ih =>
    cases i with
    | field f => exact ih hl
    | check =>
      have hne : bytes (l ++ l') ≠ [] := by
        rw [bytes_append]
        exact List.append_ne_nil_of_left_ne_nil hl.1 _
      exact ⟨hne, ih hl.2⟩

/-- A layout is guarded if bytes come behind all of it. -/
theorem Guarded.append_left (l : Layout) {l' : Layout} (hl' : l'.Guarded) (hne : l'.bytes ≠ []) :
    (l ++ l').Guarded := by
  induction l with
  | nil => exact hl'
  | cons i l ih =>
    cases i with
    | field f => exact ih
    | check =>
      have hbytes : bytes (l ++ l') ≠ [] := by
        rw [bytes_append]
        exact List.append_ne_nil_of_right_ne_nil _ hne
      exact ⟨hbytes, ih⟩

theorem Guarded.follows_bytes {l : Layout} (hl : l.Guarded) (rest : List UInt8) :
    l.Follows (l.bytes ++ rest) rest := by
  induction l with
  | nil => rfl
  | cons i l ih =>
    cases i with
    | field f => exact ⟨bytes l ++ rest, List.append_assoc .., ih hl⟩
    | check => exact ⟨List.append_ne_nil_of_left_ne_nil hl.1 _, ih hl.2⟩

theorem Plain.follows_bytes {l : Layout} (hl : l.Plain) (rest : List UInt8) :
    l.Follows (l.bytes ++ rest) rest :=
  hl.guarded.follows_bytes rest

/-- What follows a layout are its bytes and the rest. -/
theorem Follows.eq_bytes_append {l : Layout} {bs rest : List UInt8} (h : l.Follows bs rest) :
    bs = l.bytes ++ rest := by
  induction l generalizing bs with
  | nil => exact h
  | cons i l ih =>
    cases i with
    | field f =>
      obtain ⟨bs', rfl, h⟩ := h
      rw [ih h, bytes_field, List.append_assoc]
    | check => exact ih h.2

/-- A buffer of the right size is filled with the bytes of the layout. -/
theorem Guarded.emit_eq {l : Layout} (hl : l.Guarded) (buf : List UInt8) {sz : ℕ}
    (hsz : sz = (buf ++ l.bytes).length) : emit sz l buf = some (buf ++ l.bytes) := by
  induction l generalizing buf with
  | nil => simp [emit, hsz]
  | cons i l ih =>
    cases i with
    | field f =>
      simp only [bytes_field, List.length_append] at hsz
      rw [emit, if_pos (by simp only [List.length_append]; omega),
        ih hl _ (by simp only [List.length_append]; omega)]
      simp
    | check =>
      have hpos := List.length_pos_iff.2 hl.1
      simp only [bytes_check, List.length_append] at hsz
      rw [emit, if_pos (by omega), ih hl.2 _ (by simp only [List.length_append]; omega)]
      rfl

theorem Plain.emit_eq {l : Layout} (hl : l.Plain) (buf : List UInt8) {sz : ℕ}
    (hsz : sz = (buf ++ l.bytes).length) : emit sz l buf = some (buf ++ l.bytes) :=
  hl.guarded.emit_eq buf hsz

/-- A buffer that is filled without a write past its end has the size of the layout. -/
theorem eq_of_emit {l : Layout} {sz : ℕ} {buf bs : List UInt8} (h : emit sz l buf = some bs) :
    bs = buf ++ l.bytes ∧ bs.length = sz := by
  induction l generalizing buf with
  | nil =>
    rw [emit] at h
    by_cases hsz : buf.length = sz
    · rw [if_pos hsz] at h
      cases h
      exact ⟨(List.append_nil _).symm, hsz⟩
    · rw [if_neg hsz] at h
      cases h
  | cons i l ih =>
    cases i with
    | field f =>
      rw [emit] at h
      split at h
      · obtain ⟨hbs, hsz⟩ := ih h
        exact ⟨by rw [hbs, bytes_field, List.append_assoc], hsz⟩
      · cases h
    | check =>
      rw [emit] at h
      split at h
      · exact ih h
      · cases h

/-- An encoder that does what the layout says stays inside a buffer of `sz` bytes and fills it. -/
structure FitsIn (l : Layout) (sz : ℕ) : Prop where
  length : l.bytes.length = sz
  /-- every field ends inside of the buffer -/
  field : ∀ before f after, l = before ++ .field f :: after →
    (bytes before).length + f.length ≤ sz
  /-- every check passes -/
  check : ∀ before after, l = before ++ .check :: after → (bytes before).length < sz

theorem Guarded.of_append {l l' : Layout} (h : (l ++ l').Guarded) : l'.Guarded := by
  induction l with
  | nil => exact h
  | cons i l ih =>
    cases i with
    | field f => exact ih h
    | check => exact ih h.2

theorem Guarded.fitsIn {l : Layout} (hl : l.Guarded) {sz : ℕ} (hsz : l.bytes.length = sz) :
    l.FitsIn sz := by
  refine ⟨hsz, ?_, ?_⟩
  · rintro before f after rfl
    rw [bytes_append, bytes_field, List.length_append, List.length_append] at hsz
    omega
  · rintro before after rfl
    have hafter : 0 < (bytes after).length := List.length_pos_iff.2 hl.of_append.1
    rw [bytes_append, bytes_check, List.length_append] at hsz
    omega

end Layout

/-! ## Words -/

/-- The `n` bytes of a number, the lowest one first. -/
def wordBytes : ℕ → ℕ → List UInt8
  | 0, _ => []
  | n + 1, v => UInt8.ofNat v :: wordBytes n (v / 256)

/-- The number with these bytes. -/
def ofWordBytes : List UInt8 → ℕ
  | [] => 0
  | b :: bs => b.toNat + 256 * ofWordBytes bs

@[simp] theorem length_wordBytes (n v : ℕ) : (wordBytes n v).length = n := by
  induction n generalizing v with
  | zero => rfl
  | succ n ih => simp [wordBytes, ih]

theorem ofWordBytes_wordBytes (n v : ℕ) : ofWordBytes (wordBytes n v) = v % 256 ^ n := by
  induction n generalizing v with
  | zero => simp [wordBytes, ofWordBytes, Nat.mod_one]
  | succ n ih =>
    rw [wordBytes, ofWordBytes, ih, Nat.pow_succ, Nat.mul_comm (256 ^ n), Nat.mod_mul]
    rfl

theorem wordBytes_ofWordBytes (bs : List UInt8) : wordBytes bs.length (ofWordBytes bs) = bs := by
  induction bs with
  | nil => rfl
  | cons b bs ih =>
    have hb := b.toNat_lt
    have hmod : UInt8.ofNat (b.toNat + 256 * ofWordBytes bs) = b := by
      apply UInt8.toNat_inj.1
      rw [UInt8.toNat_ofNat']
      omega
    have hdiv : (b.toNat + 256 * ofWordBytes bs) / 256 = ofWordBytes bs := by omega
    rw [List.length_cons, ofWordBytes, wordBytes, hmod, hdiv, ih]

theorem ofWordBytes_lt (bs : List UInt8) : ofWordBytes bs < 256 ^ bs.length := by
  induction bs with
  | nil => exact Nat.one_pos
  | cons b bs ih =>
    have hb := b.toNat_lt
    rw [ofWordBytes, List.length_cons, Nat.pow_succ]
    omega

namespace Layout

/-- A field of two bytes. -/
def u16 (v : UInt16) : Layout := [.field (wordBytes 2 v.toNat)]

/-- A field of four bytes. -/
def u32 (v : UInt32) : Layout := [.field (wordBytes 4 v.toNat)]

/-- A field of eight bytes. -/
def u64 (v : UInt64) : Layout := [.field (wordBytes 8 v.toNat)]

/-- A field of the type `int32_t`. -/
def i32 (v : Int32) : Layout := u32 v.toUInt32

/-- A field of the type `int64_t`. -/
def i64 (v : Int64) : Layout := u64 v.toUInt64

@[simp] theorem length_bytes_u16 (v : UInt16) : (u16 v).bytes.length = 2 := by
  simp [u16]

@[simp] theorem length_bytes_u32 (v : UInt32) : (u32 v).bytes.length = 4 := by
  simp [u32]

@[simp] theorem length_bytes_u64 (v : UInt64) : (u64 v).bytes.length = 8 := by
  simp [u64]

@[simp] theorem length_bytes_i32 (v : Int32) : (i32 v).bytes.length = 4 := length_bytes_u32 _

@[simp] theorem length_bytes_i64 (v : Int64) : (i64 v).bytes.length = 8 := length_bytes_u64 _

@[simp] theorem plain_u16 (v : UInt16) : (u16 v).Plain := by
  simp [u16, Plain]

@[simp] theorem plain_u32 (v : UInt32) : (u32 v).Plain := by
  simp [u32, Plain]

@[simp] theorem plain_u64 (v : UInt64) : (u64 v).Plain := by
  simp [u64, Plain]

@[simp] theorem plain_i32 (v : Int32) : (i32 v).Plain := plain_u32 _

@[simp] theorem plain_i64 (v : Int64) : (i64 v).Plain := plain_u64 _

@[simp] theorem plain_nil : Plain [] := List.not_mem_nil

@[simp] theorem plain_append {l l' : Layout} : Plain (l ++ l') ↔ l.Plain ∧ l'.Plain := by
  simp [Plain, not_or]

@[simp] theorem plain_flatMap {α : Type u} {as : List α} {f : α → Layout} :
    Plain (as.flatMap f) ↔ ∀ a ∈ as, Plain (f a) := by
  simp [Plain]

/-! ## Encoders and what is expected of them -/

/-- A part of an encoder fills `n` bytes with what the decoder expects, whatever comes next. -/
structure Copies (l wire : Layout) (n : ℕ) : Prop where
  guarded : l.Guarded
  wireGuarded : wire.Guarded
  bytes_eq : l.bytes = wire.bytes
  length : l.bytes.length = n

namespace Copies

variable {l l' wire wire' : Layout} {n n' : ℕ}

theorem same (hl : l.Guarded) (hlen : l.bytes.length = n) : Copies l l n :=
  ⟨hl, hl, rfl, hlen⟩

theorem plain (hl : l.Plain) (hlen : l.bytes.length = n) : Copies l l n :=
  same hl.guarded hlen

theorem u32 (v : UInt32) : Copies (u32 v) (u32 v) 4 :=
  plain (plain_u32 v) (length_bytes_u32 v)

theorem field (f : List UInt8) : Copies [.field f] [.field f] f.length := by
  have hg : Guarded [.field f] := trivial
  apply same hg
  simp

theorem append (h : Copies l wire n) (h' : Copies l' wire' n') :
    Copies (l ++ l') (wire ++ wire') (n + n') where
  guarded := h.guarded.append h'.guarded
  wireGuarded := h.wireGuarded.append h'.wireGuarded
  bytes_eq := by rw [bytes_append, bytes_append, h.bytes_eq, h'.bytes_eq]
  length := by rw [bytes_append, List.length_append, h.length, h'.length]

/-- Only the encoder makes the check. -/
theorem check (h : Copies l wire n) (hn : 0 < n) : Copies ([.check] ++ l) wire n where
  guarded := ⟨List.ne_nil_of_length_pos (lt_of_lt_of_eq hn h.length.symm), h.guarded⟩
  wireGuarded := h.wireGuarded
  bytes_eq := h.bytes_eq
  length := h.length

/-- Both sides make the check. -/
theorem check_check (h : Copies l wire n) (hn : 0 < n) :
    Copies ([.check] ++ l) ([.check] ++ wire) n where
  guarded := (h.check hn).guarded
  wireGuarded :=
    ⟨List.ne_nil_of_length_pos (lt_of_lt_of_eq hn (h.bytes_eq ▸ h.length.symm)), h.wireGuarded⟩
  bytes_eq := h.bytes_eq
  length := h.length

theorem flatMap {α : Type} {as : List α} {f g : α → Layout} {n : α → ℕ}
    (h : ∀ a ∈ as, Copies (f a) (g a) (n a)) :
    Copies (as.flatMap f) (as.flatMap g) (as.map n).sum := by
  induction as with
  | nil => exact same trivial rfl
  | cons a as ih =>
    simp only [List.flatMap_cons, List.map_cons, List.sum_cons]
    exact (h a List.mem_cons_self).append (ih fun b hb => h b (List.mem_cons_of_mem _ hb))

theorem words (vs : List UInt32) :
    Copies (vs.flatMap Layout.u32) (vs.flatMap Layout.u32) (4 * vs.length) := by
  have h : Copies (vs.flatMap Layout.u32) (vs.flatMap Layout.u32) (vs.map fun _ => 4).sum :=
    flatMap fun v _ => u32 v
  rw [List.map_const', List.sum_replicate_nat, Nat.mul_comm] at h
  exact h

theorem cast (h : Copies l wire n) (hn : n = n') : Copies l wire n' := hn ▸ h

end Copies

end Layout

/-! ## Decoders -/

/-- What a decoder makes of the bytes that are left. -/
inductive Decoded (α : Type u) : Type u where
  /-- a value, and the bytes behind it -/
  | done (val : α) (rest : List UInt8)
  /-- an assertion fails -/
  | rejected
  /-- it reads past the end of the bytes -/
  | overread
  deriving DecidableEq

/-- A decoder; it sees the bytes that are left. -/
def Decoder (α : Type u) : Type u := List UInt8 → Decoded α

namespace Decoder

variable {α β γ : Type}

/-- Read nothing. -/
protected def pure (a : α) : Decoder α := fun bs => .done a bs

/-- Go on behind the bytes that were read. -/
protected def bind (d : Decoder α) (k : α → Decoder β) : Decoder β := fun bs =>
  match d bs with
  | .done a rest => k a rest
  | .rejected => .rejected
  | .overread => .overread

instance : Monad Decoder where
  pure := Decoder.pure
  bind := Decoder.bind

theorem pure_apply (a : α) (bs : List UInt8) : (pure a : Decoder α) bs = .done a bs := rfl

theorem bind_apply (d : Decoder α) (k : α → Decoder β) (bs : List UInt8) :
    (d >>= k) bs = match d bs with
      | .done a rest => k a rest
      | .rejected => .rejected
      | .overread => .overread := rfl

protected theorem id_map (d : Decoder α) : id <$> d = d := by
  funext bs
  change (Decoder.bind d fun a => Decoder.pure a) bs = d bs
  unfold Decoder.bind
  cases d bs <;> rfl

protected theorem bind_assoc (d : Decoder α) (k : α → Decoder β) (l : β → Decoder γ) :
    d >>= k >>= l = d >>= fun a => k a >>= l := by
  funext bs
  simp only [bind_apply]
  cases d bs <;> rfl

instance : LawfulMonad Decoder :=
  LawfulMonad.mk' Decoder Decoder.id_map (fun _ _ => rfl) Decoder.bind_assoc

/-- Copy `n` bytes. -/
def take (n : ℕ) : Decoder (List UInt8) := fun bs =>
  if n ≤ bs.length then .done (bs.take n) (bs.drop n) else .overread

/-- Copy a word of two bytes. -/
def u16 : Decoder UInt16 := do
  let bs ← take 2
  pure (UInt16.ofNat (ofWordBytes bs))

/-- Copy a word of four bytes. -/
def u32 : Decoder UInt32 := do
  let bs ← take 4
  pure (UInt32.ofNat (ofWordBytes bs))

/-- Copy a word of eight bytes. -/
def u64 : Decoder UInt64 := do
  let bs ← take 8
  pure (UInt64.ofNat (ofWordBytes bs))

/-- Copy an `int32_t`. -/
def i32 : Decoder Int32 := UInt32.toInt32 <$> u32

/-- Copy an `int64_t`. -/
def i64 : Decoder Int64 := UInt64.toInt64 <$> u64

/-- Fail an assertion. -/
def reject : Decoder α := fun _ => .rejected

/-- Assert that there are bytes left. -/
def check : Decoder Unit := fun bs => if bs = [] then .rejected else .done () bs

/-- Assert that all bytes were read. -/
def atEnd : Decoder Unit := fun bs => if bs = [] then .done () bs else .rejected

/-- A loop of `n` rounds. -/
def repeatN (d : Decoder α) : ℕ → Decoder (List α)
  | 0 => pure []
  | n + 1 => do
    let a ← d
    let as ← repeatN d n
    pure (a :: as)

theorem bind_eq_done {d : Decoder α} {k : α → Decoder β} {bs : List UInt8} {b : β}
    {rest : List UInt8} :
    (d >>= k) bs = .done b rest ↔ ∃ a mid, d bs = .done a mid ∧ k a mid = .done b rest := by
  rw [bind_apply]
  cases d bs with
  | done a mid => simp
  | rejected => simp
  | overread => simp

theorem bind_eq_overread {d : Decoder α} {k : α → Decoder β} {bs : List UInt8} :
    (d >>= k) bs = .overread ↔
      d bs = .overread ∨ ∃ a mid, d bs = .done a mid ∧ k a mid = .overread := by
  rw [bind_apply]
  cases d bs with
  | done a mid => simp
  | rejected => simp
  | overread => simp

/-- The decoder reads back the layouts of the well-formed values, and reads past the end exactly
on the bytes that end inside one of them. -/
structure Format (d : Decoder α) (layout : α → Layout) (wf : α → Prop) : Prop where
  nonempty : ∃ a, wf a
  done_iff : ∀ bs a rest, d bs = .done a rest ↔ wf a ∧ (layout a).Follows bs rest
  overread_iff : ∀ bs, d bs = .overread ↔ ∃ a, wf a ∧ (layout a).EndsInside bs

namespace Format

theorem congr {d : Decoder α} {layout layout' : α → Layout} {wf wf' : α → Prop}
    (h : d.Format layout wf) (hlayout : ∀ a, wf a → layout a = layout' a)
    (hwf : ∀ a, wf a ↔ wf' a) : d.Format layout' wf' := by
  obtain rfl : wf = wf' := funext fun a => propext (hwf a)
  refine ⟨h.nonempty, fun bs a rest => ?_, fun bs => ?_⟩
  · rw [h.done_iff]
    exact and_congr_right fun ha => by rw [hlayout a ha]
  · rw [h.overread_iff]
    exact exists_congr fun a => and_congr_right fun ha => by rw [hlayout a ha]

/-- A value that is known already. -/
theorem pure {wf : α → Prop} {a : α} (hwf : ∀ b, wf b ↔ b = a) :
    Format (Pure.pure a) (fun _ => []) wf where
  nonempty := ⟨a, (hwf a).2 rfl⟩
  done_iff bs b rest := by
    rw [pure_apply, hwf]
    simp only [Decoded.done.injEq, Layout.Follows]
    exact ⟨fun ⟨hab, hbs⟩ => ⟨hab.symm, hbs⟩, fun ⟨hab, hbs⟩ => ⟨hab.symm, hbs⟩⟩
  overread_iff bs := by
    simp [pure_apply, Layout.EndsInside]

theorem map {d : Decoder α} {layout : α → Layout} {wf : α → Prop} (h : d.Format layout wf)
    (f : α → β) {layout' : β → Layout} {wf' : β → Prop}
    (hlayout : ∀ a, wf a → layout' (f a) = layout a) (hwf : ∀ b, wf' b ↔ ∃ a, wf a ∧ f a = b) :
    (f <$> d).Format layout' wf' := by
  have hmap : f <$> d = d >>= fun a => Pure.pure (f a) := (bind_pure_comp f d).symm
  refine ⟨?_, fun bs b rest => ?_, fun bs => ?_⟩
  · obtain ⟨a, ha⟩ := h.nonempty
    exact ⟨f a, (hwf _).2 ⟨a, ha, rfl⟩⟩
  · rw [hmap, bind_eq_done, hwf]
    constructor
    · rintro ⟨a, mid, hd, hk⟩
      obtain ⟨hab, rfl⟩ := Decoded.done.inj hk
      obtain ⟨ha, hfollows⟩ := (h.done_iff _ _ _).1 hd
      rw [← hab, hlayout a ha]
      exact ⟨⟨a, ha, rfl⟩, hfollows⟩
    · rintro ⟨⟨a, ha, rfl⟩, hfollows⟩
      rw [hlayout a ha] at hfollows
      exact ⟨a, rest, (h.done_iff _ _ _).2 ⟨ha, hfollows⟩, rfl⟩
  · rw [hmap, bind_eq_overread, h.overread_iff]
    constructor
    · rintro (⟨a, ha, hends⟩ | ⟨a, mid, -, hk⟩)
      · rw [← hlayout a ha] at hends
        exact ⟨f a, (hwf _).2 ⟨a, ha, rfl⟩, hends⟩
      · cases hk
    · rintro ⟨b, hb, hends⟩
      obtain ⟨a, ha, rfl⟩ := (hwf b).1 hb
      rw [hlayout a ha] at hends
      exact .inl ⟨a, ha, hends⟩

/-- One decoder after the other. The second one may reject a value `a` of the first one; then no
value of the whole begins with `a`. -/
theorem bind_or_reject {d : Decoder α} {layout : α → Layout} {wf : α → Prop}
    (h : d.Format layout wf) {k : α → Decoder β} (get : β → α) {layout' : β → Layout}
    {wf' : β → Prop} (hget : ∀ b, wf' b → wf (get b)) (hne : ∃ b, wf' b)
    (hshort : ∀ a bs, wf a → (layout a).EndsInside bs →
      ∃ b, wf' b ∧ (layout (get b)).EndsInside bs)
    (hk : ∀ a, wf a → (k a).Format layout' (fun b => wf' b ∧ get b = a) ∨
      k a = reject ∧ ∀ b, wf' b → get b ≠ a) :
    (d >>= k).Format (fun b => layout (get b) ++ layout' b) wf' := by
  refine ⟨hne, fun bs b rest => ?_, fun bs => ?_⟩
  · rw [bind_eq_done, Layout.follows_append]
    constructor
    · rintro ⟨a, mid, hd, hka⟩
      obtain ⟨ha, hfollows⟩ := (h.done_iff _ _ _).1 hd
      rcases hk a ha with hformat | ⟨hreject, -⟩
      · obtain ⟨⟨hb, rfl⟩, hfollows'⟩ := (hformat.done_iff _ _ _).1 hka
        exact ⟨hb, mid, hfollows, hfollows'⟩
      · rw [hreject] at hka
        cases hka
    · rintro ⟨hb, mid, hfollows, hfollows'⟩
      refine ⟨get b, mid, (h.done_iff _ _ _).2 ⟨hget b hb, hfollows⟩, ?_⟩
      rcases hk (get b) (hget b hb) with hformat | ⟨-, hno⟩
      · exact (hformat.done_iff _ _ _).2 ⟨⟨hb, rfl⟩, hfollows'⟩
      · exact absurd rfl (hno b hb)
  · rw [bind_eq_overread, h.overread_iff]
    simp only [Layout.endsInside_append]
    constructor
    · rintro (⟨a, ha, hends⟩ | ⟨a, mid, hd, hka⟩)
      · obtain ⟨b, hb, hends'⟩ := hshort a bs ha hends
        exact ⟨b, hb, .inl hends'⟩
      · obtain ⟨ha, hfollows⟩ := (h.done_iff _ _ _).1 hd
        rcases hk a ha with hformat | ⟨hreject, -⟩
        · obtain ⟨b, ⟨hb, rfl⟩, hends⟩ := (hformat.overread_iff _).1 hka
          exact ⟨b, hb, .inr ⟨mid, hfollows, hends⟩⟩
        · rw [hreject] at hka
          cases hka
    · rintro ⟨b, hb, hends | ⟨mid, hfollows, hends⟩⟩
      · exact .inl ⟨get b, hget b hb, hends⟩
      · refine .inr ⟨get b, mid, (h.done_iff _ _ _).2 ⟨hget b hb, hfollows⟩, ?_⟩
        rcases hk (get b) (hget b hb) with hformat | ⟨-, hno⟩
        · exact (hformat.overread_iff _).2 ⟨b, ⟨hb, rfl⟩, hends⟩
        · exact absurd rfl (hno b hb)

/-- One decoder after the other. -/
theorem bind {d : Decoder α} {layout : α → Layout} {wf : α → Prop} (h : d.Format layout wf)
    {k : α → Decoder β} (get : β → α) {layout' : β → Layout} {wf' : β → Prop}
    (hget : ∀ b, wf' b → wf (get b))
    (hk : ∀ a, wf a → (k a).Format layout' fun b => wf' b ∧ get b = a) :
    (d >>= k).Format (fun b => layout (get b) ++ layout' b) wf' := by
  refine h.bind_or_reject get hget ?_ (fun a bs ha hends => ?_) fun a ha => .inl (hk a ha)
  · obtain ⟨a, ha⟩ := h.nonempty
    obtain ⟨b, hb, -⟩ := (hk a ha).nonempty
    exact ⟨b, hb⟩
  · obtain ⟨b, hb, rfl⟩ := (hk a ha).nonempty
    exact ⟨b, hb, hends⟩

/-- A check between two decoders. -/
theorem check {k : Decoder α} {layout : α → Layout} {wf : α → Prop} (h : k.Format layout wf) :
    (Decoder.check >>= fun _ => k).Format (fun a => [.check] ++ layout a) wf := by
  refine ⟨h.nonempty, fun bs a rest => ?_, fun bs => ?_⟩
  · rw [bind_eq_done]
    simp only [Decoder.check, List.singleton_append, Layout.Follows]
    by_cases hbs : bs = []
    · simp [hbs]
    · simp [hbs, h.done_iff]
  · rw [bind_eq_overread]
    simp only [Decoder.check, List.singleton_append, Layout.EndsInside]
    by_cases hbs : bs = []
    · simp [hbs]
    · simp [hbs, h.overread_iff]

/-- A field of a fixed size. -/
theorem take (n : ℕ) :
    (Decoder.take n).Format (fun f => [.field f]) fun f => f.length = n := by
  refine ⟨⟨List.replicate n 0, List.length_replicate⟩, fun bs f rest => ?_, fun bs => ?_⟩
  · simp only [Decoder.take, Layout.Follows]
    by_cases hn : n ≤ bs.length
    · rw [if_pos hn, Decoded.done.injEq]
      constructor
      · rintro ⟨rfl, rfl⟩
        exact ⟨List.length_take_of_le hn, bs.drop n, (List.take_append_drop n bs).symm, rfl⟩
      · rintro ⟨rfl, _, rfl, rfl⟩
        exact ⟨List.take_left, List.drop_left⟩
    · rw [if_neg hn]
      simp only [reduceCtorEq, false_iff]
      rintro ⟨rfl, _, rfl, -⟩
      exact hn (by simp)
  · simp only [Decoder.take, Layout.EndsInside, and_false, exists_false, or_false]
    by_cases hn : n ≤ bs.length
    · rw [if_pos hn]
      simp only [reduceCtorEq, false_iff]
      rintro ⟨f, rfl, hlt⟩
      exact absurd hlt (Nat.not_lt.2 hn)
    · rw [if_neg hn]
      simp only [true_iff]
      exact ⟨List.replicate n 0, List.length_replicate, by simpa using hn⟩

/-- A word of `n` bytes. -/
theorem word (n : ℕ) {ofNat : ℕ → α} {toNat : α → ℕ} (hlt : ∀ a, toNat a < 256 ^ n)
    (hof : ∀ a, ofNat (toNat a) = a) (hto : ∀ k < 256 ^ n, toNat (ofNat k) = k) :
    (Decoder.take n >>= fun bs => Pure.pure (ofNat (ofWordBytes bs))).Format
      (fun a => [.field (wordBytes n (toNat a))]) fun _ => True := by
  rw [bind_pure_comp]
  refine (take n).map _ (fun f hf => ?_) fun a => ⟨fun _ => ?_, fun _ => trivial⟩
  · have hback := wordBytes_ofWordBytes f
    rw [hf] at hback
    rw [hto _ (hf ▸ ofWordBytes_lt f), hback]
  · refine ⟨wordBytes n (toNat a), length_wordBytes n _, ?_⟩
    rw [ofWordBytes_wordBytes, Nat.mod_eq_of_lt (hlt a), hof]

theorem u16 : Decoder.u16.Format Layout.u16 fun _ => True :=
  word 2 UInt16.toNat_lt (fun _ => UInt16.ofNat_toNat) fun _ => UInt16.toNat_ofNat_of_lt'

theorem u32 : Decoder.u32.Format Layout.u32 fun _ => True :=
  word 4 UInt32.toNat_lt (fun _ => UInt32.ofNat_toNat) fun _ => UInt32.toNat_ofNat_of_lt'

theorem u64 : Decoder.u64.Format Layout.u64 fun _ => True :=
  word 8 UInt64.toNat_lt (fun _ => UInt64.ofNat_toNat) fun _ => UInt64.toNat_ofNat_of_lt'

theorem i32 : Decoder.i32.Format Layout.i32 fun _ => True :=
  u32.map _ (fun _ _ => rfl) fun v => ⟨fun _ => ⟨v.toUInt32, trivial, rfl⟩, fun _ => trivial⟩

theorem i64 : Decoder.i64.Format Layout.i64 fun _ => True :=
  u64.map _ (fun _ _ => rfl) fun v => ⟨fun _ => ⟨v.toUInt64, trivial, rfl⟩, fun _ => trivial⟩

/-- How a decoder goes on behind a tag `t`: it reads the values with this tag, or it rejects the
tag and there are none. -/
def Selects (k : Decoder β) (type : β → UInt32) (layout : β → Layout) (wf : β → Prop)
    (t : UInt32) : Prop :=
  k.Format layout (fun b => wf b ∧ type b = t) ∨ k = reject ∧ ∀ b, wf b → type b ≠ t

namespace Selects

variable {type : β → UInt32} {layout : β → Layout} {wf : β → Prop} {t c : UInt32}

theorem ite {k₁ k₂ : Decoder β} (h₁ : Selects k₁ type layout wf c)
    (h₂ : t ≠ c → Selects k₂ type layout wf t) :
    Selects (if t = c then k₁ else k₂) type layout wf t := by
  by_cases h : t = c
  · rw [if_pos h, h]
    exact h₁
  · rw [if_neg h]
    exact h₂ h

/-- The values with the tag are those made by one constructor. -/
theorem map {d : Decoder α} {layout' : α → Layout} {wf' : α → Prop} (h : d.Format layout' wf')
    (f : α → β) (hlayout : ∀ a, layout (f a) = layout' a)
    (hwf : ∀ b, wf b ∧ type b = c ↔ ∃ a, wf' a ∧ f a = b) :
    Selects (f <$> d) type layout wf c :=
  .inl (h.map f (fun a _ => hlayout a) hwf)

theorem reject (h : ∀ b, wf b → type b ≠ t) : Selects reject type layout wf t := .inr ⟨rfl, h⟩

end Selects

/-- A tag, and what it selects. -/
theorem tag {k : UInt32 → Decoder β} (type : β → UInt32) {layout' : β → Layout}
    {wf' : β → Prop} (hne : ∃ b, wf' b) (hk : ∀ t, Selects (k t) type layout' wf' t) :
    (Decoder.u32 >>= k).Format (fun b => Layout.u32 (type b) ++ layout' b) wf' := by
  refine u32.bind_or_reject type (fun _ _ => trivial) hne (fun a bs _ hends => ?_)
    fun t _ => hk t
  obtain ⟨b, hb⟩ := hne
  refine ⟨b, hb, ?_⟩
  simpa [Layout.u32, Layout.EndsInside] using hends

/-- A loop. -/
theorem repeatN {d : Decoder α} {layout : α → Layout} {wf : α → Prop} (h : d.Format layout wf)
    (n : ℕ) :
    (d.repeatN n).Format (fun as => as.flatMap layout)
      fun as => as.length = n ∧ ∀ a ∈ as, wf a := by
  induction n with
  | zero =>
    exact (pure fun _ => Iff.rfl).congr (fun as has => by rw [has]; rfl) fun as =>
      ⟨fun has => by simp [has], fun has => List.length_eq_zero_iff.1 has.1⟩
  | succ n ih =>
    obtain ⟨a₀, -⟩ := h.nonempty
    have htail : ∀ a, wf a → (Decoder.repeatN d n >>= fun as => Pure.pure (a :: as)).Format
        (fun as => as.tail.flatMap layout)
        fun as => (as.length = n + 1 ∧ ∀ b ∈ as, wf b) ∧ as.headD a₀ = a := fun a ha => by
      rw [bind_pure_comp]
      refine ih.map _ (fun as _ => rfl) fun as => ⟨?_, ?_⟩
      · rintro ⟨⟨hlen, hall⟩, rfl⟩
        cases as with
        | nil => cases hlen
        | cons b bs =>
          exact ⟨bs, ⟨Nat.succ.inj hlen, fun c hc => hall c (List.mem_cons_of_mem _ hc)⟩, rfl⟩
      · rintro ⟨bs, ⟨hlen, hall⟩, rfl⟩
        exact ⟨⟨by rw [List.length_cons, hlen], List.forall_mem_cons.2 ⟨ha, hall⟩⟩, rfl⟩
    refine (h.bind (fun as => as.headD a₀) (fun as has => ?_) htail).congr (fun as has => ?_)
      fun _ => Iff.rfl
    · cases as with
      | nil => cases has.1
      | cons a as => exact has.2 a List.mem_cons_self
    · cases as with
      | nil => cases has.1
      | cons a as => rfl

/-- A length, and what has this length. -/
theorem length {k : UInt32 → Decoder β} (len : β → ℕ) {layout' : β → Layout} {wf' : β → Prop}
    (hlt : ∀ b, wf' b → len b < 2 ^ 32)
    (hk : ∀ n : UInt32, (k n).Format layout' fun b => wf' b ∧ len b = n.toNat) :
    (Decoder.u32 >>= k).Format
      (fun b => Layout.u32 (UInt32.ofNat (len b)) ++ layout' b) wf' := by
  refine u32.bind (fun b => UInt32.ofNat (len b)) (fun _ _ => trivial) fun n _ => ?_
  refine (hk n).congr (fun _ _ => rfl) fun b => and_congr_right fun hb => ⟨fun h => ?_, ?_⟩
  · rw [h, UInt32.ofNat_toNat]
  · rintro rfl
    exact (UInt32.toNat_ofNat_of_lt' (hlt b hb)).symm

/-- A list behind its length. -/
theorem counted {d : Decoder α} {layout : α → Layout} {wf : α → Prop} (h : d.Format layout wf) :
    (do
      let n ← Decoder.u32
      Decoder.repeatN d n.toNat).Format
      (fun as => Layout.u32 (UInt32.ofNat as.length) ++ as.flatMap layout)
      fun as => as.length < 2 ^ 32 ∧ ∀ a ∈ as, wf a := by
  refine length List.length (fun _ has => has.1) fun n => ?_
  refine (h.repeatN n.toNat).congr (fun _ _ => rfl) fun as => ⟨?_, ?_⟩
  · rintro ⟨hlen, hall⟩
    exact ⟨⟨lt_of_eq_of_lt hlen n.toNat_lt, hall⟩, hlen⟩
  · rintro ⟨⟨-, hall⟩, hlen⟩
    exact ⟨hlen, hall⟩

end Format

/-- Assert that the value was the last one. -/
def last (d : Decoder α) : Decoder α := do
  let a ← d
  atEnd
  pure a

theorem last_eq_done {d : Decoder α} {bs rest : List UInt8} {a : α} :
    d.last bs = .done a rest ↔ d bs = .done a [] ∧ rest = [] := by
  simp only [last, bind_eq_done, atEnd, pure_apply]
  constructor
  · rintro ⟨b, mid, hd, u, mid', hend, hpure⟩
    obtain ⟨rfl, rfl⟩ := Decoded.done.inj hpure
    by_cases hmid : mid = []
    · rw [if_pos hmid] at hend
      obtain ⟨-, rfl⟩ := Decoded.done.inj hend
      rw [hmid] at hd ⊢
      exact ⟨hd, rfl⟩
    · rw [if_neg hmid] at hend
      cases hend
  · rintro ⟨hd, rfl⟩
    exact ⟨a, [], hd, (), [], if_pos rfl, rfl⟩

theorem last_eq_overread {d : Decoder α} {bs : List UInt8} :
    d.last bs = .overread ↔ d bs = .overread := by
  simp only [last, bind_eq_overread, atEnd, pure_apply]
  refine or_iff_left ?_
  rintro ⟨a, mid, -, hend | ⟨u, mid', -, hpure⟩⟩
  · split at hend <;> cases hend
  · cases hpure

/-- Give back a value only if it has the property. -/
def only (d : Decoder α) (p : α → Prop) [DecidablePred p] : Decoder α := do
  let a ← d
  if p a then pure a else reject

theorem only_eq_done {d : Decoder α} {p : α → Prop} [DecidablePred p] {bs rest : List UInt8}
    {a : α} : d.only p bs = .done a rest ↔ d bs = .done a rest ∧ p a := by
  rw [only, bind_eq_done]
  constructor
  · rintro ⟨b, mid, hd, hk⟩
    by_cases hb : p b
    · rw [if_pos hb, pure_apply] at hk
      obtain ⟨rfl, rfl⟩ := Decoded.done.inj hk
      exact ⟨hd, hb⟩
    · rw [if_neg hb] at hk
      cases hk
  · rintro ⟨hd, ha⟩
    exact ⟨a, rest, hd, by rw [if_pos ha, pure_apply]⟩

theorem only_eq_overread {d : Decoder α} {p : α → Prop} [DecidablePred p] {bs : List UInt8} :
    d.only p bs = .overread ↔ d bs = .overread := by
  rw [only, bind_eq_overread]
  refine or_iff_left ?_
  rintro ⟨a, mid, -, hk⟩
  split at hk <;> cases hk

end Decoder

end FlexRic
