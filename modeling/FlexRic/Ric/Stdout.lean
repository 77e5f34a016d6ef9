import Mathlib.Data.Int.Cast.Lemmas
import FlexRic.Ric.StringParser
import FlexRic.Sm.Kpm.DataIe

/-!
# The text of a KPM indication (`print_kpm_stats` of `ric/iApps/stdout.c`)

The indication is printed in the order of the message: each record of the measurement data, and each
measurement with its labels. A record and a measurement have a field for each type, and the decoder
leaves the fields that the type does not select at zero. A real record is printed with its integer
field, and the two branches for a measurement are exchanged.
-/

namespace FlexRic.Kpm

open Outcome CString Printf

/-! ## The code -/

/-- The field `int_val`. -/
def AdapterMeasRecord.intVal : AdapterMeasRecord → UInt64
  | int intVal => intVal
  | real _ => 0
  | noval => 0

/-- The field `measID`. -/
def MeasType.measID : MeasType → Int64
  | id measID => measID
  | _ => 0

/-- The pointer `measName.buf`, as `%s` takes it. -/
def MeasType.measName : MeasType → Option (List UInt8)
  | name measName => some measName
  | _ => none

/-- What is printed before the first item of the data. -/
def kpmHead (hdr : KpmIndHdr) (msg : KpmIndMsg) : List UInt8 :=
  ascii "kpm_stats: tstamp=" ++ dec (hdr.collectStartTime.toUInt64 * 1000000).toNat ++
    (match msg.granulPeriod with
    | some granulPeriod => ascii ",granulPeriod=" ++ dec granulPeriod.toNat
    | none => ascii ",granulPeriod=NULL") ++
    ascii ",MeasData_len=" ++ u64 msg.measData.length

/-- What is printed before the records of an item. -/
def measDataText (i : ℕ) (d : AdapterMeasDataItem) : List UInt8 :=
  ascii ",MeasData[" ++ u64 i ++ ascii "]=(incompleteFlag=" ++ int d.incompleteFlag.toInt ++
    ascii ", Record_len=" ++ u64 d.measRecord.length ++ ascii " "

/-- `to_string_kpm_measRecord` -/
def measRecordText (j : ℕ) (r : AdapterMeasRecord) : List UInt8 :=
  ascii ",Record[" ++ u64 j ++ ascii "]=" ++
    match r with
    | .int _ => int r.intVal.toInt64.toInt
    | .real _ => int r.intVal.toInt64.toInt
    | .noval => ascii "nulltype"

/-- What is printed before the measurements. -/
def measInfoLenText (msg : KpmIndMsg) : List UInt8 :=
  ascii ",MeasInfo_len=" ++ u64 msg.measInfo.length

/-- What is printed for a measurement. -/
def measInfoText (i : ℕ) (m : MeasInfo) : Option (List UInt8) :=
  match m.measType with
  | .unset => none
  | .name _ => some (ascii ",MeasInfo[" ++ u64 i ++ ascii "]=(type=ID, content=" ++
      int m.measType.measID.toInt ++ ascii ")")
  | .id _ => some (ascii ",MeasInfo[" ++ u64 i ++ ascii "]=(type=NAME, content=" ++
      str m.measType.measName ++ ascii ")")

/-- The two parts of `to_string_kpm_labelInfo`. -/
def labelInfoText (j : ℕ) (l : AdapterLabelInfoItem) : List UInt8 :=
  ascii ", labelInfo[" ++ u64 j ++ ascii "]=" ++
    match l.noLabel with
    | some noLabel => ascii "(noLabel = " ++ int noLabel.toInt ++ ascii ")"
    | none => []

/-- `char stats[1024]`, set to zero. -/
def emptyStats : List UInt8 := List.replicate 1024 0

/-- A text that is printed to `stats`, and from there to the file. -/
def putStats (text : List UInt8) : Outcome (List UInt8) := do
  let (stats, rc) ← snprintf emptyStats 0 1024 text
  check (rc < 1024)
  let len ← strlen stats 0
  return stats.take len

/-- `print_kpm_stats`: the texts that are written to the file. -/
def printKpmStats (hdr : KpmIndHdr) (msg : KpmIndMsg) : Outcome (List (List UInt8)) := do
  let data ← msg.measData.zipIdx.mapM fun (d, i) => do
    let head ← (if i = 0 then [kpmHead hdr msg] else []).mapM putStats
    let item ← putStats (measDataText i d)
    let records ← d.measRecord.zipIdx.mapM fun (r, j) => putStats (measRecordText j r)
    return head ++ item :: records
  let len ← putStats (measInfoLenText msg)
  let infos ← msg.measInfo.zipIdx.mapM fun (m, i) => do
    let info ← (measInfoText i m).toList.mapM putStats
    let labels ← m.labelInfo.zipIdx.mapM fun (l, j) => putStats (labelInfoText j l)
    return info ++ labels
  return data.flatten ++ len :: infos.flatten ++ [ascii "\n"]

/-! ## What is to be printed -/

/-- The number that a `double` stands for, if it is finite. -/
def doubleValue (d : UInt64) : Option ℚ :=
  let e := d.toNat / 2 ^ 52 % 2 ^ 11
  let m := d.toNat % 2 ^ 52
  let abs : ℕ := if e = 0 then m else (m + 2 ^ 52) * 2 ^ (e - 1)
  if e = 2047 then none
  else if 2 ^ 63 ≤ d.toNat then some (-(abs / 2 ^ 1074))
  else some (abs / 2 ^ 1074)

/-- The text shows the value that the type of a record selects. -/
def RecordShown (j : ℕ) (r : AdapterMeasRecord) (text : List UInt8) : Prop :=
  ∃ s, text = ascii ",Record[" ++ u64 j ++ ascii "]=" ++ s ∧
    match r with
    | .int intVal => numeral s = some (intVal.toNat : ℚ)
    | .real realVal => ∃ q, doubleValue realVal = some q ∧ numeral s = some q
    | .noval => s = ascii "nulltype"

/-- The text shows the name or the id of a measurement; there is none if there is nothing to
show. -/
def infoShown (i : ℕ) (m : MeasInfo) : List (List UInt8 → Prop) :=
  match m.measType with
  | .unset => []
  | .name measName => [fun text => text = ascii ",MeasInfo[" ++ u64 i ++
      ascii "]=(type=NAME, content=" ++ measName ++ ascii ")"]
  | .id measID => [fun text => text = ascii ",MeasInfo[" ++ u64 i ++
      ascii "]=(type=ID, content=" ++ int measID.toInt ++ ascii ")"]

/-- The texts that are to be printed for an item of the data. -/
def measDataShown (hdr : KpmIndHdr) (msg : KpmIndMsg) (i : ℕ) (d : AdapterMeasDataItem) :
    List (List UInt8 → Prop) :=
  (if i = 0 then [fun text => text = kpmHead hdr msg] else []) ++
    ([fun text => text = measDataText i d] ++
      d.measRecord.zipIdx.map fun x => RecordShown x.2 x.1)

/-- The texts that are to be printed for a measurement. -/
def measInfoShown (i : ℕ) (m : MeasInfo) : List (List UInt8 → Prop) :=
  infoShown i m ++ m.labelInfo.zipIdx.map fun x text => text = labelInfoText x.2 x.1

/-- The texts that are to be printed, in their order. -/
def kpmShown (hdr : KpmIndHdr) (msg : KpmIndMsg) : List (List UInt8 → Prop) :=
  msg.measData.zipIdx.flatMap (fun x => measDataShown hdr msg x.2 x.1) ++
    ([fun text => text = measInfoLenText msg] ++
      msg.measInfo.zipIdx.flatMap (fun x => measInfoShown x.2 x.1) ++
        [fun text => text = ascii "\n"])

/-- What is printed shows the message. -/
def Shows (hdr : KpmIndHdr) (msg : KpmIndMsg) : Prop :=
  ∃ texts, printKpmStats hdr msg = returns texts ∧
    List.Forall₂ (fun shown text => shown text) (kpmShown hdr msg) texts

/-! ## What is printed -/

/-- The texts that are printed for an item of the data. -/
def measDataTexts (hdr : KpmIndHdr) (msg : KpmIndMsg) (i : ℕ) (d : AdapterMeasDataItem) :
    List (List UInt8) :=
  (if i = 0 then [kpmHead hdr msg] else []) ++
    ([measDataText i d] ++ d.measRecord.zipIdx.map fun x => measRecordText x.2 x.1)

/-- The texts that are printed for a measurement. -/
def measInfoTexts (i : ℕ) (m : MeasInfo) : List (List UInt8) :=
  (measInfoText i m).toList ++ m.labelInfo.zipIdx.map fun x => labelInfoText x.2 x.1

/-- The texts that are printed, in their order. -/
def kpmTexts (hdr : KpmIndHdr) (msg : KpmIndMsg) : List (List UInt8) :=
  msg.measData.zipIdx.flatMap (fun x => measDataTexts hdr msg x.2 x.1) ++
    ([measInfoLenText msg] ++ msg.measInfo.zipIdx.flatMap (fun x => measInfoTexts x.2 x.1) ++
      [ascii "\n"])

/-- A text with room for it in `stats`. -/
structure Short (text : List UInt8) : Prop where
  zero : 0 ∉ text
  length : text.length < 1024

theorem putStats_eq {text : List UInt8} (h : Short text) : putStats text = returns text := by
  have hstats : emptyStats.length = 1024 := List.length_replicate
  have hlen := h.length
  have hprint : snprintf ([] ++ emptyStats) 0 1024 text = _ :=
    snprintf_append hlen (by omega) (by omega)
  have hrc : ((text.length : ℕ) : ℤ) < 1024 := by omega
  have hstrlen : strlen ([] ++ (text ++ 0 :: emptyStats.drop (text.length + 1))) 0 =
      returns text.length := strlen_append h.zero
  rw [List.nil_append, List.nil_append] at hprint
  rw [List.nil_append] at hstrlen
  rw [putStats, hprint, returns_bind]
  dsimp only
  rw [check, if_pos hrc, returns_bind, hstrlen, returns_bind, List.take_left]
  rfl

/-- A loop whose turns all come back. -/
theorem mapM_eq_map {A B : Type} {g : A → Outcome B} {f : A → B} {l : List A}
    (h : ∀ a ∈ l, g a = returns (f a)) : l.mapM g = returns (l.map f) := by
  rw [mapM_eq_returns, List.forall₂_map_right_iff, List.forall₂_same]
  exact h

theorem mapM_putStats {A : Type} {f : A → List UInt8} {l : List A} (h : ∀ a ∈ l, Short (f a)) :
    (l.mapM fun a => putStats (f a)) = returns (l.map f) :=
  mapM_eq_map fun a ha => putStats_eq (h a ha)

theorem length_u64 (n : ℕ) : (u64 n).length ≤ 20 := by
  refine length_dec_le (by decide) ?_
  omega

theorem length_int64 (z : Int64) : (int z.toInt).length ≤ 21 := by
  have hge := Int64.le_toInt z
  have hlt := Int64.toInt_lt z
  have hdec : (dec z.toInt.natAbs).length ≤ 20 := length_dec_le (by decide) (by omega)
  rw [int]
  split
  · rw [List.length_cons]
    omega
  · omega

theorem length_dec_u64 (n : UInt64) : (dec n.toNat).length ≤ 20 := by
  have hlt := n.toNat_lt
  exact length_dec_le (by decide) (by omega)

theorem short_kpmHead (hdr : KpmIndHdr) (msg : KpmIndMsg) : Short (kpmHead hdr msg) := by
  have htstamp := length_dec_u64 (hdr.collectStartTime.toUInt64 * 1000000)
  have hlen := length_u64 msg.measData.length
  rw [kpmHead]
  cases msg.granulPeriod with
  | none =>
    constructor
    · simp +decide only [List.mem_append, zero_notMem_dec, u64, or_self]
    · simp only [List.length_append]
      have h : (ascii "kpm_stats: tstamp=").length + (ascii ",granulPeriod=NULL").length +
        (ascii ",MeasData_len=").length = 50 := rfl
      omega
  | some granulPeriod =>
    have hperiod := length_dec_u64 granulPeriod
    constructor
    · simp +decide only [List.mem_append, zero_notMem_dec, u64, or_self]
    · simp only [List.length_append]
      have h : (ascii "kpm_stats: tstamp=").length + (ascii ",granulPeriod=").length +
        (ascii ",MeasData_len=").length = 46 := rfl
      omega

theorem short_measDataText (i : ℕ) (d : AdapterMeasDataItem) : Short (measDataText i d) := by
  have hi := length_u64 i
  have hflag := length_int64 d.incompleteFlag
  have hlen := length_u64 d.measRecord.length
  constructor
  · simp +decide only [measDataText, List.mem_append, zero_notMem_dec, zero_notMem_int, u64,
      or_self]
  · have h : (ascii ",MeasData[").length + (ascii "]=(incompleteFlag=").length +
      (ascii ", Record_len=").length + (ascii " ").length = 42 := rfl
    simp only [measDataText, List.length_append]
    omega

theorem short_measRecordText (j : ℕ) (r : AdapterMeasRecord) : Short (measRecordText j r) := by
  have hj := length_u64 j
  have hval := length_int64 r.intVal.toInt64
  have h : (ascii ",Record[").length + (ascii "]=").length = 10 := rfl
  have hnull : (ascii "nulltype").length = 8 := rfl
  constructor
  · cases r <;>
      simp +decide only [measRecordText, List.mem_append, zero_notMem_dec, zero_notMem_int, u64,
        or_self]
  · cases r <;> simp only [measRecordText, List.length_append] <;> omega

theorem short_measInfoLenText (msg : KpmIndMsg) : Short (measInfoLenText msg) := by
  have hlen := length_u64 msg.measInfo.length
  constructor
  · simp +decide only [measInfoLenText, List.mem_append, zero_notMem_dec, u64, or_self]
  · have h : (ascii ",MeasInfo_len=").length = 14 := rfl
    rw [measInfoLenText, List.length_append]
    omega

theorem short_measInfoText (i : ℕ) (m : MeasInfo) :
    ∀ text ∈ (measInfoText i m).toList, Short text := by
  have hi := length_u64 i
  have h : (ascii ",MeasInfo[").length = 10 := rfl
  have hclose : (ascii ")").length = 1 := rfl
  rw [measInfoText]
  cases hm : m.measType with
  | unset =>
    intro text htext
    cases htext
  | name measName =>
    have hid : (ascii "]=(type=ID, content=").length = 20 := rfl
    have hval := length_int64 0
    intro text htext
    rw [List.mem_singleton.1 htext]
    constructor
    · simp +decide only [List.mem_append, zero_notMem_dec, zero_notMem_int, u64, or_self]
    · simp only [MeasType.measID, List.length_append]
      omega
  | id measID =>
    have hname : (ascii "]=(type=NAME, content=").length = 22 := rfl
    have hnull : (str none).length = 6 := rfl
    intro text htext
    rw [List.mem_singleton.1 htext]
    constructor
    · simp +decide only [List.mem_append, zero_notMem_dec, zero_notMem_str, u64, or_self]
    · simp only [MeasType.measName, List.length_append]
      omega

theorem short_labelInfoText (j : ℕ) (l : AdapterLabelInfoItem) : Short (labelInfoText j l) := by
  have hj := length_u64 j
  have h : (ascii ", labelInfo[").length + (ascii "]=").length = 14 := rfl
  rw [labelInfoText]
  cases l.noLabel with
  | none =>
    constructor
    · simp +decide only [List.mem_append, zero_notMem_dec, u64, or_self]
    · simp only [List.length_append, List.length_nil]
      omega
  | some noLabel =>
    have hval := length_int64 noLabel
    have hopen : (ascii "(noLabel = ").length + (ascii ")").length = 12 := rfl
    constructor
    · simp +decide only [List.mem_append, zero_notMem_dec, zero_notMem_int, u64, or_self]
    · simp only [List.length_append]
      omega

/-- The function prints its texts. -/
theorem printKpmStats_eq (hdr : KpmIndHdr) (msg : KpmIndMsg) :
    printKpmStats hdr msg = returns (kpmTexts hdr msg) := by
  have hdata : (msg.measData.zipIdx.mapM fun (d, i) => do
      let head ← (if i = 0 then [kpmHead hdr msg] else []).mapM putStats
      let item ← putStats (measDataText i d)
      let records ← d.measRecord.zipIdx.mapM fun (r, j) => putStats (measRecordText j r)
      return head ++ item :: records) =
        returns (msg.measData.zipIdx.map fun x => measDataTexts hdr msg x.2 x.1) := by
    refine mapM_eq_map ?_
    rintro ⟨d, i⟩ -
    have hhead : (if i = 0 then [kpmHead hdr msg] else []).mapM putStats =
        returns (if i = 0 then [kpmHead hdr msg] else []) := by
      refine mapM_eq_self ?_
      intro text htext
      split at htext
      · rw [List.mem_singleton.1 htext]
        exact putStats_eq (short_kpmHead hdr msg)
      · cases htext
    have hrecords : (d.measRecord.zipIdx.mapM fun (r, j) => putStats (measRecordText j r)) =
        returns (d.measRecord.zipIdx.map fun x => measRecordText x.2 x.1) :=
      mapM_putStats fun _ _ => short_measRecordText _ _
    dsimp only
    rw [hhead, returns_bind, putStats_eq (short_measDataText i d), returns_bind, hrecords]
    rfl
  have hinfos : (msg.measInfo.zipIdx.mapM fun (m, i) => do
      let info ← (measInfoText i m).toList.mapM putStats
      let labels ← m.labelInfo.zipIdx.mapM fun (l, j) => putStats (labelInfoText j l)
      return info ++ labels) =
        returns (msg.measInfo.zipIdx.map fun x => measInfoTexts x.2 x.1) := by
    refine mapM_eq_map ?_
    rintro ⟨m, i⟩ -
    have hinfo : (measInfoText i m).toList.mapM putStats = returns (measInfoText i m).toList :=
      mapM_eq_self fun text htext => putStats_eq (short_measInfoText i m text htext)
    have hlabels : (m.labelInfo.zipIdx.mapM fun (l, j) => putStats (labelInfoText j l)) =
        returns (m.labelInfo.zipIdx.map fun x => labelInfoText x.2 x.1) :=
      mapM_putStats fun _ _ => short_labelInfoText _ _
    dsimp only
    rw [hinfo, returns_bind, hlabels]
    rfl
  rw [printKpmStats, hdata, returns_bind, putStats_eq (short_measInfoLenText msg), returns_bind,
    hinfos, returns_bind, kpmTexts, List.append_assoc]
  rfl

/-! ## What is shown -/

/-- The texts are as many as they are to be, and they are what they are to be if and only if `p`
holds. -/
structure Tallies (shown : List (List UInt8 → Prop)) (texts : List (List UInt8)) (p : Prop) :
    Prop where
  length : shown.length = texts.length
  iff : List.Forall₂ (fun shown text => shown text) shown texts ↔ p

namespace Tallies

variable {A : Type} {shown shown' : List (List UInt8 → Prop)} {texts texts' : List (List UInt8)}
  {p p' : Prop}

theorem nil : Tallies [] [] True := ⟨rfl, iff_of_true List.Forall₂.nil trivial⟩

theorem cons {text : List UInt8} {q : List UInt8 → Prop} (hq : q text ↔ p)
    (h : Tallies shown texts p') : Tallies (q :: shown) (text :: texts) (p ∧ p') where
  length := congrArg (· + 1) h.length
  iff := List.forall₂_cons.trans (and_congr hq h.iff)

/-- A text that is printed as it is to be. -/
theorem same (text : List UInt8) : Tallies [fun t => t = text] [text] True :=
  ⟨rfl, iff_of_true (.cons rfl .nil) trivial⟩

theorem append (h : Tallies shown texts p) (h' : Tallies shown' texts' p') :
    Tallies (shown ++ shown') (texts ++ texts') (p ∧ p') := by
  induction shown generalizing texts p with
  | nil =>
    have hnil := List.length_eq_zero_iff.1 h.length.symm
    subst hnil
    exact ⟨h'.length, h'.iff.trans (iff_and_self.2 fun _ => h.iff.1 .nil)⟩
  | cons q shown ih =>
    cases texts with
    | nil => cases h.length
    | cons text texts =>
      have hrest : Tallies shown texts
          (List.Forall₂ (fun shown text => shown text) shown texts) :=
        ⟨Nat.succ.inj h.length, Iff.rfl⟩
      have hall : Tallies (q :: (shown ++ shown')) (text :: (texts ++ texts')) (q text ∧ _) :=
        cons Iff.rfl (ih hrest)
      refine ⟨hall.length, hall.iff.trans ?_⟩
      rw [← h.iff, List.forall₂_cons, and_assoc]

theorem flatMap {f : A → List (List UInt8 → Prop)} {g : A → List (List UInt8)} {r : A → Prop}
    {l : List A} (h : ∀ a ∈ l, Tallies (f a) (g a) (r a)) :
    Tallies (l.flatMap f) (l.flatMap g) (∀ a ∈ l, r a) := by
  induction l with
  | nil => exact ⟨rfl, iff_of_true .nil fun a ha => absurd ha List.not_mem_nil⟩
  | cons a l ih =>
    obtain ⟨ha, hl⟩ := List.forall_mem_cons.1 h
    have hall := append ha (ih hl)
    exact ⟨hall.length, hall.iff.trans List.forall_mem_cons.symm⟩

theorem map {f : A → List UInt8 → Prop} {g : A → List UInt8} {r : A → Prop} {l : List A}
    (h : ∀ a ∈ l, f a (g a) ↔ r a) : Tallies (l.map f) (l.map g) (∀ a ∈ l, r a) := by
  refine ⟨by rw [List.length_map, List.length_map], ?_⟩
  rw [List.forall₂_map_left_iff, List.forall₂_map_right_iff, List.forall₂_same]
  exact forall₂_congr h

end Tallies

theorem forall_mem_zipIdx {A : Type} {p : A → Prop} {l : List A} :
    (∀ x ∈ l.zipIdx, p x.1) ↔ ∀ a ∈ l, p a := by
  rw [← List.forall_mem_map (f := Prod.fst), List.zipIdx_map_fst]

/-- The records whose value is the number that is printed: an integer with 63 bits, and a real that
is zero. -/
def AdapterMeasRecord.Printable : AdapterMeasRecord → Prop
  | int intVal => intVal.toNat < 2 ^ 63
  | real realVal => realVal.toNat % 2 ^ 63 = 0
  | noval => True

theorem toInt_toInt64 (n : UInt64) : n.toInt64.toInt = (n.toNat : ℤ).bmod (2 ^ 64) :=
  BitVec.toInt_eq_toNat_bmod _

/-- The only double without a set bit is zero, with either sign. -/
theorem doubleValue_eq_zero {d : UInt64} : doubleValue d = some 0 ↔ d.toNat % 2 ^ 63 = 0 := by
  have hbits : d.toNat % 2 ^ 63 = d.toNat / 2 ^ 52 % 2 ^ 11 * 2 ^ 52 + d.toNat % 2 ^ 52 := by
    omega
  have hpow : (2 ^ 1074 : ℚ) ≠ 0 := pow_ne_zero _ two_ne_zero
  rw [doubleValue, hbits]
  generalize d.toNat / 2 ^ 52 % 2 ^ 11 = e
  generalize d.toNat % 2 ^ 52 = m
  have habs : (if e = 0 then m else (m + 2 ^ 52) * 2 ^ (e - 1)) = 0 ↔ e * 2 ^ 52 + m = 0 := by
    split
    · omega
    · have hexp := Nat.two_pow_pos (e - 1)
      exact iff_of_false (Nat.mul_pos (by omega) hexp).ne' (by omega)
  generalize (if e = 0 then m else (m + 2 ^ 52) * 2 ^ (e - 1)) = abs at habs
  rw [← habs]
  split_ifs with hinf
  · rw [habs]
    exact iff_of_false id (by omega)
  · rw [Option.some_inj, neg_eq_zero, div_eq_zero_iff, or_iff_left hpow, Nat.cast_eq_zero]
  · rw [Option.some_inj, div_eq_zero_iff, or_iff_left hpow, Nat.cast_eq_zero]

/-- A record is shown if and only if its value is printable. -/
theorem recordShown_iff {j : ℕ} {r : AdapterMeasRecord} :
    RecordShown j r (measRecordText j r) ↔ r.Printable := by
  cases r with
  | int intVal =>
    have hval : (intVal.toInt64.toInt : ℚ) = (intVal.toNat : ℚ) ↔ intVal.toNat < 2 ^ 63 := by
      rw [toInt_toInt64, ← Int.cast_natCast (R := ℚ) intVal.toNat, Int.cast_inj, Int.bmod_def]
      omega
    rw [AdapterMeasRecord.Printable, ← hval]
    constructor
    · rintro ⟨s, hs, hnum⟩
      rw [measRecordText, List.append_cancel_left_eq] at hs
      dsimp only at hs hnum
      rw [← hs, AdapterMeasRecord.intVal, numeral_int, Option.some_inj] at hnum
      exact hnum
    · intro h
      exact ⟨_, rfl, (numeral_int _).trans (congrArg some h)⟩
  | real realVal =>
    rw [AdapterMeasRecord.Printable, ← doubleValue_eq_zero]
    constructor
    · rintro ⟨s, hs, q, hq, hnum⟩
      rw [measRecordText, List.append_cancel_left_eq] at hs
      rw [← hs] at hnum
      cases hnum.symm.trans (numeral_int 0)
      exact hq
    · intro h
      exact ⟨_, rfl, 0, h, numeral_int 0⟩
  | noval => exact iff_of_true ⟨_, rfl, rfl⟩ trivial

/-- A measurement is shown only if there is nothing to show. -/
theorem tallies_infoShown (i : ℕ) (m : MeasInfo) :
    Tallies (infoShown i m) (measInfoText i m).toList (m.measType = .unset) := by
  rw [infoShown, measInfoText]
  cases hm : m.measType with
  | unset => exact ⟨rfl, iff_of_true .nil rfl⟩
  | name measName =>
    refine ⟨rfl, iff_of_false ?_ MeasType.noConfusion⟩
    intro h
    have heq := (List.forall₂_cons.1 h).1
    simp only [List.append_assoc, List.append_cancel_left_eq] at heq
    have hbyte : some (73 : UInt8) = some 78 := congrArg (fun l => l[8]?) heq
    exact absurd hbyte (by decide)
  | id measID =>
    refine ⟨rfl, iff_of_false ?_ MeasType.noConfusion⟩
    intro h
    have heq := (List.forall₂_cons.1 h).1
    simp only [List.append_assoc, List.append_cancel_left_eq] at heq
    have hbyte : some (78 : UInt8) = some 73 := congrArg (fun l => l[8]?) heq
    exact absurd hbyte (by decide)

theorem tallies_measInfoShown (i : ℕ) (m : MeasInfo) :
    Tallies (measInfoShown i m) (measInfoTexts i m) (m.measType = .unset) := by
  have hlabels : Tallies (m.labelInfo.zipIdx.map fun x text => text = labelInfoText x.2 x.1)
      (m.labelInfo.zipIdx.map fun x => labelInfoText x.2 x.1) (∀ x ∈ m.labelInfo.zipIdx, True) :=
    .map fun x _ => iff_of_true rfl trivial
  have hall := (tallies_infoShown i m).append hlabels
  exact ⟨hall.length, hall.iff.trans (and_iff_left fun _ _ => trivial)⟩

theorem tallies_measDataShown (hdr : KpmIndHdr) (msg : KpmIndMsg) (i : ℕ)
    (d : AdapterMeasDataItem) :
    Tallies (measDataShown hdr msg i d) (measDataTexts hdr msg i d)
      (∀ r ∈ d.measRecord, r.Printable) := by
  have hhead : Tallies (if i = 0 then [fun text => text = kpmHead hdr msg] else [])
      (if i = 0 then [kpmHead hdr msg] else []) True := by
    split
    · exact .same _
    · exact .nil
  have hrecords : Tallies (d.measRecord.zipIdx.map fun x => RecordShown x.2 x.1)
      (d.measRecord.zipIdx.map fun x => measRecordText x.2 x.1)
      (∀ x ∈ d.measRecord.zipIdx, x.1.Printable) := .map fun x _ => recordShown_iff
  have hall := hhead.append ((Tallies.same (measDataText i d)).append hrecords)
  refine ⟨hall.length, hall.iff.trans ?_⟩
  rw [true_and, true_and]
  exact forall_mem_zipIdx

/-- What is printed shows the message if and only if its values are printable and no measurement
has a name or an id. -/
theorem shows_iff (hdr : KpmIndHdr) (msg : KpmIndMsg) :
    Shows hdr msg ↔
      (∀ d ∈ msg.measData, ∀ r ∈ d.measRecord, r.Printable) ∧
        ∀ m ∈ msg.measInfo, m.measType = .unset := by
  have htexts : Shows hdr msg ↔
      List.Forall₂ (fun shown text => shown text) (kpmShown hdr msg) (kpmTexts hdr msg) := by
    rw [Shows, printKpmStats_eq]
    constructor
    · rintro ⟨texts, heq, hall⟩
      cases heq
      exact hall
    · intro hall
      exact ⟨_, rfl, hall⟩
  have hdata : Tallies _ _ (∀ x ∈ msg.measData.zipIdx, ∀ r ∈ x.1.measRecord, r.Printable) :=
    .flatMap fun x _ => tallies_measDataShown hdr msg x.2 x.1
  have hinfos : Tallies _ _ (∀ x ∈ msg.measInfo.zipIdx, x.1.measType = .unset) :=
    .flatMap fun x _ => tallies_measInfoShown x.2 x.1
  have hall := hdata.append
    (((Tallies.same (measInfoLenText msg)).append hinfos).append (.same (ascii "\n")))
  refine htexts.trans (hall.iff.trans ?_)
  rw [true_and, and_true]
  exact and_congr
    (forall_mem_zipIdx (p := fun d : AdapterMeasDataItem => ∀ r ∈ d.measRecord, r.Printable))
    (forall_mem_zipIdx (p := fun m : MeasInfo => m.measType = .unset))

end FlexRic.Kpm

namespace FlexRic

/-! ## Both renderers -/

/-- The text of a slice indication stays in its arrays if and only if there is room for its pieces
up to the first one that is refused, and the text of a KPM indication shows it if and only if its
values are printable and no measurement has a name or an id. -/
theorem renderers_iff (slice : SliceIndMsg) (tstamp : Int64) (out : List UInt8)
    (hdr : Kpm.KpmIndHdr) (msg : Kpm.KpmIndMsg) :
    ((toStringSlice slice tstamp out).Safe ↔
        (2048 ≤ out.length →
          FitsBuffer out.length ((sliceTexts slice tstamp).map (·.getD [])))) ∧
      (Kpm.Shows hdr msg ↔
        (∀ d ∈ msg.measData, ∀ r ∈ d.measRecord, r.Printable) ∧
          ∀ m ∈ msg.measInfo, m.measType = .unset) :=
  ⟨safe_toStringSlice_iff slice tstamp out, Kpm.shows_iff hdr msg⟩

/-- A message with a hundred UEs and no slices. -/
def manyUes : SliceIndMsg :=
  ⟨⟨⟨[], []⟩, ⟨[], []⟩⟩, ⟨List.replicate 100 ⟨0, 0, 0⟩⟩, 0⟩

/-- Each piece fits, but not all of them. -/
theorem not_safe_manyUes : ¬(toStringSlice manyUes 0 (List.replicate 2048 0)).Safe := by
  rw [safe_toStringSlice_iff, List.length_replicate]
  intro h
  have hroom := (h (Nat.le_refl _)).room
  revert hroom
  decide +kernel

end FlexRic
