import FlexRic.Semantics.Sql
import FlexRic.XApp.SqlText

/-!
# What the statement of a slice says (`to_sql_string_slice_rb`)

The row of a slice has the values of the message if the names are short, without quotes and without
NULs, and if the numbers survive the conversions `%d` and `%.2f`. The scheduler name is left out for
all slices, so it is the one of the message only if that is what is printed for `NULL`.
-/

namespace FlexRic

open Outcome CString Printf Sql

/-! ## What the message says -/

/-- The name of the algorithm. -/
def SliceParams.typeName : SliceParams → List UInt8
  | .sta _ => ascii "STATIC"
  | .nvs _ => ascii "NVS"
  | .scn19 _ => ascii "SCN19"
  | .edf _ => ascii "EDF"

/-- The name of the variant, where there are several. -/
def SliceParams.confName : SliceParams → Option (List UInt8)
  | .nvs (.rate _) => some (ascii "RATE")
  | .nvs (.capacity _) => some (ascii "CAPACITY")
  | _ => none

/-- The numbers in the three columns for parameters. -/
def SliceParams.numbers : SliceParams → List (Option ℚ)
  | .sta p => [some p.posLow.toNat, some p.posHigh.toNat, none]
  | .nvs (.rate p) => [some (value p.mbpsRequired), some (value p.mbpsReference), none]
  | .nvs (.capacity p) => [some (value p.pctReserved), none, none]
  | .scn19 _ => [none, none, none]
  | .edf p => [some p.deadline.toNat, some p.guaranteedPrbs.toNat, some p.maxReplenish.toNat]

/-- The values of the columns from `len_slices` on, up to the id. -/
def headValues (dl : UlDlSliceConf) (s : FrSlice) : List (Option Literal) :=
  [some (.number dl.slices.length), some (.text dl.schedName), some (.number s.id.toNat)]

/-- The values of the columns from the label on. -/
def tailValues (s : FrSlice) : List (Option Literal) :=
  [some (.text s.label), some (.text s.params.typeName), s.params.confName.map .text,
    some (.text s.sched)] ++ s.params.numbers.map (Option.map .number)

/-- The values that the message has for a row. There are none for the columns of the node. -/
def sliceValues (tstamp : Int64) (dl : UlDlSliceConf) (s : FrSlice) : List (Option Literal) :=
  some (.number tstamp.toInt) :: List.replicate 6 none ++ headValues dl s ++ tailValues s

/-! ## When the statement says it -/

/-- A name that is the same in a literal. -/
structure Plain (name : List UInt8) : Prop where
  short : name.length < 50
  zero : 0 ∉ name
  quote : 39 ∉ name

/-- Parameters that are the same as numbers in a row. -/
def SliceParams.Exact : SliceParams → Prop
  | .sta p => p.posLow.toNat < 2 ^ 31 ∧ p.posHigh.toNat < 2 ^ 31
  | .nvs (.rate p) => Quarters p.mbpsRequired ∧ Quarters p.mbpsReference
  | .nvs (.capacity p) => Quarters p.pctReserved
  | .scn19 _ => False
  | .edf p => p.deadline.toNat < 2 ^ 31 ∧ p.guaranteedPrbs.toNat < 2 ^ 31 ∧
      p.maxReplenish.toNat < 2 ^ 31

/-- A slice whose row has the values of the message. -/
structure Expressible (dl : UlDlSliceConf) (s : FrSlice) : Prop where
  slices : dl.slices.length < 2 ^ 31
  schedName : dl.schedName = ascii "(null)"
  label : Plain s.label
  sched : Plain s.sched
  params : s.params.Exact

variable (id : GlobalE2NodeId) (tstamp : Int64)

/-- The function prints one `INSERT`, behind what is in front of its place, and the values of the
row are those of the message. -/
def InsertsSlice (dl : UlDlSliceConf) (s : FrSlice) (pre rest : List UInt8) (outLen : ℕ) : Prop :=
  ∃ sql row, toSqlStringSliceRb id tstamp dl (some s) (pre ++ rest) pre.length outLen =
      returns (pre ++ (sql ++ 0 :: rest.drop (sql.length + 1)), (sql.length : ℤ)) ∧
    0 ∉ sql ∧ Inserts (ascii "SLICE") sql row ∧ List.Forall₂ Agrees (sliceValues tstamp dl s) row

/-! ## Lengths -/

section Length

omit id tstamp

theorem length_intercalate_le (values : List (List UInt8)) :
    ((ascii ",").intercalate values).length ≤ (values.map fun v => v.length + 1).sum := by
  induction values with
  | nil => exact Nat.le_refl 0
  | cons v values ih =>
    cases values with
    | nil =>
      rw [List.intercalate_singleton, List.map_singleton, List.sum_singleton]
      omega
    | cons next values =>
      have hcomma : (ascii ",").length = 1 := rfl
      rw [List.intercalate_cons_cons, List.length_append, List.length_append, List.map_cons,
        List.sum_cons, hcomma]
      omega

theorem length_int_le {z : ℤ} {k : ℕ} (hk : 0 < k) (h : z.natAbs < 10 ^ k) :
    (int z).length ≤ k + 1 := by
  have hdec : (dec z.natAbs).length ≤ k := length_dec_le hk h
  rw [int]
  split
  · rw [List.length_cons]
    omega
  · omega

theorem length_word_le (n : UInt32) : (word n).length ≤ 11 := by
  refine length_int_le (by decide) ?_
  have hlow := n.toInt32.le_toInt
  have hhigh := n.toInt32.toInt_lt
  omega

theorem length_str_cCuDuId_le (id : GlobalE2NodeId) : (str (cCuDuId id)).length ≤ 25 := by
  rw [cCuDuId]
  cases id.cuDuId with
  | none => decide
  | some cuDuId =>
    rw [Option.map_some, str, text_concat]
    exact (List.takeWhile_prefix _).length_le.trans (List.length_take_le _ _)

theorem length_quoted (s : List UInt8) : (quoted s).length = s.length + 2 := by
  have hquote : (ascii "'").length = 1 := rfl
  rw [quoted, List.length_append, List.length_append, hquote]
  omega

/-- The values of the node take at most 90 bytes with their commas. -/
theorem length_nodeValues_le (id : GlobalE2NodeId) (tstamp : Int64) :
    ((nodeValues id tstamp).map fun v => v.length + 1).sum ≤ 90 := by
  have htstamp : (int tstamp.toInt).length ≤ 20 := by
    refine length_int_le (by decide) ?_
    have hlow := tstamp.le_toInt
    have hhigh := tstamp.toInt_lt
    omega
  have htype : (dec id.type.toNat).length ≤ 1 :=
    length_dec_le (by decide) (by cases id.type <;> decide)
  have hmcc : (dec id.plmn.mcc.toNat).length ≤ 5 :=
    length_dec_le (by decide) (id.plmn.mcc.toNat_lt.trans (by decide))
  have hmnc : (dec id.plmn.mnc.toNat).length ≤ 5 :=
    length_dec_le (by decide) (id.plmn.mnc.toNat_lt.trans (by decide))
  have hdigits : (dec id.plmn.mncDigitLen.toNat).length ≤ 3 :=
    length_dec_le (by decide) (id.plmn.mncDigitLen.toNat_lt.trans (by decide))
  have hnbId := length_word_le id.nbId
  have hcuDuId : (quoted (str (cCuDuId id))).length ≤ 27 := by
    have h := length_str_cCuDuId_le id
    rw [length_quoted]
    omega
  simp only [nodeValues, List.map_cons, List.map_nil, List.sum_cons, List.sum_nil]
  omega

variable {id : GlobalE2NodeId} {tstamp : Int64} {dl : UlDlSliceConf} {s : FrSlice}
variable {label sched type typeConf : List UInt8} {params : List (List UInt8)}

/-- A row with short names. -/
theorem length_sliceRowText_lt (hlabel : (text label).length < 50)
    (hsched : (text sched).length < 50) (htype : type.length ≤ 10)
    (htypeConf : typeConf.length ≤ 10) (hparams : (params.map fun v => v.length + 1).sum ≤ 200) :
    (sliceRowText id tstamp dl s label sched type typeConf params).length < 1024 := by
  have hinsert : (ascii "INSERT INTO ").length = 12 := rfl
  have htable : (ascii "SLICE").length = 5 := rfl
  have hopen : (ascii " VALUES(").length = 8 := rfl
  have hclose : (ascii ");").length = 2 := rfl
  have hnull : (str none).length = 6 := rfl
  have hnode := length_nodeValues_le id tstamp
  have hslices := length_word_le (UInt32.ofNat dl.slices.length)
  have hid : (dec s.id.toNat).length ≤ 10 :=
    length_dec_le (by decide) (s.id.toNat_lt.trans (by decide))
  have hsum : ((nodeValues id tstamp ++
      ([word (UInt32.ofNat dl.slices.length), quoted (str none), dec s.id.toNat,
        quoted (str (some label)), quoted type, quoted typeConf, quoted (str (some sched))] ++
        params)).map fun v => v.length + 1).sum ≤ 500 := by
    have hlabel' : (str (some label)).length < 50 := hlabel
    have hsched' : (str (some sched)).length < 50 := hsched
    simp only [List.map_append, List.sum_append, List.map_cons, List.sum_cons, List.map_nil,
      List.sum_nil, length_quoted]
    omega
  have hvalues := (length_intercalate_le _).trans hsum
  rw [sliceRowText, insertText, List.length_append, List.length_append, List.length_append,
    List.length_append, hinsert, htable, hopen, hclose]
  omega

/-- A statement with short names. -/
theorem length_sliceRbText_lt {sql : List UInt8}
    (h : sliceRbText id tstamp dl s label sched = some sql) (hlabel : (text label).length < 50)
    (hsched : (text sched).length < 50) : sql.length < 1024 := by
  have hsum : ∀ a b c : List UInt8, a.length ≤ 43 → b.length ≤ 43 → c.length ≤ 43 →
      ([a, b, c].map fun v => v.length + 1).sum ≤ 200 := by
    intro a b c ha hb hc
    simp only [List.map_cons, List.map_nil, List.sum_cons, List.sum_nil]
    omega
  have hword : ∀ n, (word n).length ≤ 43 := fun n => (length_word_le n).trans (by decide)
  have hfixed := length_fixed_two_le
  rw [sliceRbText] at h
  rcases hparams : s.params with p | (p | p) | p | p <;> rw [hparams] at h <;> cases h
  · exact length_sliceRowText_lt hlabel hsched (by decide) (by decide)
      (hsum _ _ _ (hword _) (hword _) (hfixed _))
  · exact length_sliceRowText_lt hlabel hsched (by decide) (by decide)
      (hsum _ _ _ (hfixed _) (hfixed _) (hfixed _))
  · exact length_sliceRowText_lt hlabel hsched (by decide) (by decide)
      (hsum _ _ _ (hfixed _) (hfixed _) (hfixed _))
  · exact length_sliceRowText_lt hlabel hsched (by decide) (by decide)
      (hsum _ _ _ (hword _) (hword _) (hword _))

end Length

/-! ## Columns -/

section Columns

omit id tstamp

theorem reads_quoted {t : List UInt8} (h : 39 ∉ t) : Reads (quoted t) (.text t) := reads_text h

theorem quote_notMem_cCuDuId (id : GlobalE2NodeId) : 39 ∉ str (cCuDuId id) := by
  rw [cCuDuId]
  cases id.cuDuId with
  | none => decide
  | some cuDuId =>
    rw [Option.map_some, str, text_concat]
    intro h
    have hdec := List.mem_of_mem_take ((List.takeWhile_prefix _).mem h)
    exact absurd (isDigit_of_mem_dec hdec) (by decide)

theorem agrees_none (l : Literal) : Agrees none l := by
  intro v hv
  cases hv

theorem reads_word (n : UInt32) : Reads (word n) (.number n.toInt32.toInt) := reads_int _

/-- `%d` says the numbers below 2³¹ and no others. -/
theorem agrees_word_iff {k : ℕ} :
    Agrees (some (.number k)) (.number (UInt32.ofNat k).toInt32.toInt) ↔ k < 2 ^ 31 := by
  have hint : (UInt32.ofNat k).toInt32.toInt = Int.bmod (UInt32.ofNat k).toNat (2 ^ 32) :=
    BitVec.toInt_eq_toNat_bmod _
  have hnat : (UInt32.ofNat k).toNat = k % 2 ^ 32 := UInt32.toNat_ofNat'
  have hcast : (((UInt32.ofNat k).toInt32.toInt : ℤ) : ℚ) = (k : ℚ) ↔
      (UInt32.ofNat k).toInt32.toInt = (k : ℤ) := by
    exact_mod_cast Iff.rfl
  rw [agrees_some_iff, Literal.number.injEq, hcast, hint, hnat, Int.bmod_def]
  omega

theorem agrees_word_toNat_iff {n : UInt32} :
    Agrees (some (.number n.toNat)) (.number n.toInt32.toInt) ↔ n.toNat < 2 ^ 31 := by
  have h := agrees_word_iff (k := n.toNat)
  rwa [UInt32.ofNat_toNat] at h

theorem inserts_insertText_iff {table : List UInt8} {values : List (List UInt8)}
    {wants : List (Option Literal)} :
    (∃ row, Inserts table (insertText table values) row ∧ List.Forall₂ Agrees wants row) ↔
      Says values wants := by
  have hsql : ∀ row, Inserts table (insertText table values) row ↔
      Row ((ascii ",").intercalate values ++ ascii ");") row := by
    intro row
    rw [Inserts, insertText]
    constructor
    · rintro ⟨s, hs, hrow⟩
      rw [List.append_assoc _ _ (ascii ");"), List.append_cancel_left_eq] at hs
      rwa [hs]
    · intro hrow
      exact ⟨_, List.append_assoc _ _ _, hrow⟩
  simp only [hsql]
  rfl

theorem typeName_notMem (p : SliceParams) : 39 ∉ p.typeName := by
  cases p with
  | sta _ => exact (by decide : 39 ∉ ascii "STATIC")
  | nvs _ => exact (by decide : 39 ∉ ascii "NVS")
  | scn19 _ => exact (by decide : 39 ∉ ascii "SCN19")
  | edf _ => exact (by decide : 39 ∉ ascii "EDF")

variable {id : GlobalE2NodeId} {tstamp : Int64} {dl : UlDlSliceConf} {s : FrSlice}

/-- The columns up to the parameters. -/
theorem says_slice_iff {typeConf w : List UInt8} {ws : List (List UInt8)}
    (htypeConf : 39 ∉ typeConf) (hconf : Agrees (s.params.confName.map .text) (.text typeConf)) :
    Says (nodeValues id tstamp ++ ([word (UInt32.ofNat dl.slices.length), quoted (str none),
        dec s.id.toNat, quoted (str (some s.label)), quoted s.params.typeName, quoted typeConf,
        quoted (str (some s.sched))] ++ w :: ws)) (sliceValues tstamp dl s) ↔
      (dl.slices.length < 2 ^ 31 ∧ dl.schedName = ascii "(null)") ∧ (0 ∉ s.label ∧ 39 ∉ s.label) ∧
        (0 ∉ s.sched ∧ 39 ∉ s.sched) ∧
          Says (w :: ws) (s.params.numbers.map (Option.map .number)) := by
  have hnull : 39 ∉ str none := by decide
  simp only [nodeValues, sliceValues, headValues, tailValues, List.replicate, List.cons_append,
    List.nil_append]
  rw [says_cons_iff (reads_int _), says_cons_iff (reads_dec _), says_cons_iff (reads_dec _),
    says_cons_iff (reads_dec _), says_cons_iff (reads_dec _), says_cons_iff (reads_word _),
    says_cons_iff (reads_quoted (quote_notMem_cCuDuId id)), says_cons_iff (reads_word _),
    says_cons_iff (reads_quoted hnull), says_cons_iff (reads_dec _)]
  have hname : ∀ name : List UInt8, quoted (str (some name)) = 39 :: (text name ++ [39]) :=
    fun _ => rfl
  rw [hname, says_name_iff, says_cons_iff (reads_quoted (typeName_notMem _)),
    says_cons_iff (reads_quoted htypeConf), hname, says_name_iff, agrees_word_iff]
  simp only [agrees_none, agrees_some_iff, hconf, true_and, and_assoc, Literal.text.injEq]
  rw [@eq_comm _ (str none)]
  rfl

/-- The row of a slice with these parameters. -/
theorem inserts_sliceRowText_iff {p : SliceParams} (hparams : s.params = p)
    {typeConf w : List UInt8} {ws : List (List UInt8)} (htypeConf : 39 ∉ typeConf)
    (hconf : Agrees (p.confName.map .text) (.text typeConf)) :
    (∃ row, Inserts (ascii "SLICE")
        (sliceRowText id tstamp dl s s.label s.sched p.typeName typeConf (w :: ws)) row ∧
        List.Forall₂ Agrees (sliceValues tstamp dl s) row) ↔
      (dl.slices.length < 2 ^ 31 ∧ dl.schedName = ascii "(null)") ∧ (0 ∉ s.label ∧ 39 ∉ s.label) ∧
        (0 ∉ s.sched ∧ 39 ∉ s.sched) ∧ Says (w :: ws) (p.numbers.map (Option.map .number)) := by
  subst hparams
  rw [sliceRowText, inserts_insertText_iff]
  exact says_slice_iff htypeConf hconf

/-- The row of a slice that has a statement. -/
theorem inserts_sliceRbText_iff {sql : List UInt8}
    (h : sliceRbText id tstamp dl s s.label s.sched = some sql) :
    (∃ row, Inserts (ascii "SLICE") sql row ∧
        List.Forall₂ Agrees (sliceValues tstamp dl s) row) ↔
      (dl.slices.length < 2 ^ 31 ∧ dl.schedName = ascii "(null)") ∧
        (0 ∉ s.label ∧ 39 ∉ s.label) ∧ (0 ∉ s.sched ∧ 39 ∉ s.sched) ∧ s.params.Exact := by
  have hzero : Reads (fixed 2 0) (.number _) := reads_fixed rfl (numeral_fixed (by decide) rfl)
  have hnone : ∀ l, Agrees (Option.map Literal.number none) l := agrees_none
  rw [sliceRbText] at h
  rcases hparams : s.params with p | (p | p) | p | p <;> rw [hparams] at h
  · -- STATIC
    cases h
    refine (inserts_sliceRowText_iff hparams (by decide) (agrees_none _)).trans ?_
    rw [SliceParams.numbers, SliceParams.Exact, List.map_cons, List.map_cons, List.map_singleton,
      Option.map_some, Option.map_some, says_cons_iff (reads_word _),
      says_cons_iff (reads_word _), says_singleton_iff hzero, agrees_word_toNat_iff,
      agrees_word_toNat_iff, and_iff_left (hnone _)]
  · -- NVS, with a rate
    cases h
    refine (inserts_sliceRowText_iff hparams (by decide) (agrees_some_iff.2 rfl)).trans ?_
    rw [SliceParams.numbers, SliceParams.Exact, List.map_cons, List.map_cons, List.map_singleton,
      Option.map_some, Option.map_some, says_fixed_iff, says_fixed_iff, says_singleton_iff hzero,
      and_iff_left (hnone _)]
  · -- NVS, with a capacity
    cases h
    refine (inserts_sliceRowText_iff hparams (by decide) (agrees_some_iff.2 rfl)).trans ?_
    rw [SliceParams.numbers, SliceParams.Exact, List.map_cons, List.map_cons, List.map_singleton,
      Option.map_some, says_fixed_iff, says_cons_iff hzero, says_singleton_iff hzero,
      and_iff_right (hnone _), and_iff_left (hnone _)]
  · cases h
  · -- EDF
    cases h
    refine (inserts_sliceRowText_iff hparams (by decide) (agrees_none _)).trans ?_
    rw [SliceParams.numbers, SliceParams.Exact, List.map_cons, List.map_cons, List.map_singleton,
      Option.map_some, Option.map_some, Option.map_some, says_cons_iff (reads_word _),
      says_cons_iff (reads_word _), says_singleton_iff (reads_word _), agrees_word_toNat_iff,
      agrees_word_toNat_iff, agrees_word_toNat_iff]

end Columns

/-! ## Statements -/

section Statement

variable {id : GlobalE2NodeId} {tstamp : Int64} {dl : UlDlSliceConf} {s : FrSlice}
variable {pre rest : List UInt8} {outLen : ℕ}

omit id tstamp in
theorem plain_iff {name : List UInt8} (hname : (text name).length < 50) :
    Plain name ↔ 0 ∉ name ∧ 39 ∉ name := by
  constructor
  · exact fun h => ⟨h.zero, h.quote⟩
  · rintro ⟨hzero, hquote⟩
    rw [text_of_notMem hzero] at hname
    exact ⟨hname, hzero, hquote⟩

omit id tstamp in
theorem Plain.length_text {name : List UInt8} (h : Plain name) : (text name).length < 50 := by
  rw [text_of_notMem h.zero]
  exact h.short

/-- A statement with short names is printed to the place of the caller, and nothing else is. -/
theorem toSqlStringSliceRb_append {sql : List UInt8} (hschedName : (text dl.schedName).length < 50)
    (hlabel : (text s.label).length < 50) (hsched : (text s.sched).length < 50)
    (hsql : sliceRbText id tstamp dl s s.label s.sched = some sql) (houtLen : 1024 ≤ outLen)
    (hrest : outLen ≤ rest.length) :
    toSqlStringSliceRb id tstamp dl (some s) (pre ++ rest) pre.length outLen =
      returns (pre ++ (sql ++ 0 :: rest.drop (sql.length + 1)), (sql.length : ℤ)) := by
  rw [toSqlStringSliceRb_of_sql id tstamp hschedName hlabel hsched hsql]
  exact toSqlString_append (length_sliceRbText_lt hsql hlabel hsched) (by decide) houtLen houtLen
    (houtLen.trans hrest)

/-- What is printed of a slice whose statement is printed. -/
theorem sliceRbText_of_inserts {sql : List UInt8} {row : List Literal} (houtLen : 1024 ≤ outLen)
    (hrest : outLen ≤ rest.length)
    (hrun : toSqlStringSliceRb id tstamp dl (some s) (pre ++ rest) pre.length outLen =
      returns (pre ++ (sql ++ 0 :: rest.drop (sql.length + 1)), (sql.length : ℤ)))
    (hinserts : Inserts (ascii "SLICE") sql row) :
    sliceRbText id tstamp dl s s.label s.sched = some sql := by
  obtain ⟨hschedName, hnames⟩ := lt_of_toSqlStringSliceRb id tstamp hrun
  obtain ⟨hlabel, hsched⟩ := hnames s rfl
  cases htext : sliceRbText id tstamp dl s s.label s.sched with
  | none =>
    -- SCN19: nothing is printed, and that is no statement.
    rw [toSqlStringSliceRb_some id tstamp hschedName hlabel hsched, htext,
      check_bind_eq_returns] at hrun
    have hlen : (0 : ℤ) = sql.length := congrArg Prod.snd (Outcome.returns.inj hrun.2)
    obtain ⟨values, hsql, -⟩ := hinserts
    have hpos : (ascii "INSERT INTO ").length = 12 := rfl
    rw [hsql, List.append_assoc, List.append_assoc, List.length_append, hpos] at hlen
    omega
  | some sql' =>
    rw [toSqlStringSliceRb_append hschedName hlabel hsched htext houtLen hrest] at hrun
    have hpair := Outcome.returns.inj hrun
    have hlen : sql'.length = sql.length := by
      have h : (sql'.length : ℤ) = sql.length := congrArg Prod.snd hpair
      exact_mod_cast h
    have hbuffer := List.append_cancel_left (congrArg Prod.fst hpair)
    rw [(List.append_inj hbuffer hlen).1]

/-- The values that reach the row are those of the message if and only if the slice is
expressible. -/
theorem insertsSlice_iff_expressible (houtLen : 1024 ≤ outLen) (hrest : outLen ≤ rest.length) :
    InsertsSlice id tstamp dl s pre rest outLen ↔ Expressible dl s := by
  constructor
  · rintro ⟨sql, row, hrun, -, hinserts, hagree⟩
    obtain ⟨-, hnames⟩ := lt_of_toSqlStringSliceRb id tstamp hrun
    obtain ⟨hlabel, hsched⟩ := hnames s rfl
    have htext := sliceRbText_of_inserts houtLen hrest hrun hinserts
    obtain ⟨⟨hslices, hschedName⟩, hlabel', hsched', hparams⟩ :=
      (inserts_sliceRbText_iff htext).1 ⟨row, hinserts, hagree⟩
    exact ⟨hslices, hschedName, (plain_iff hlabel).2 hlabel', (plain_iff hsched).2 hsched', hparams⟩
  · intro h
    have hscn19 : ∀ scn19, s.params ≠ .scn19 scn19 := by
      intro scn19 hparams
      have hexact := h.params
      rw [hparams] at hexact
      exact hexact
    have hschedName : (text dl.schedName).length < 50 := by
      rw [h.schedName]
      decide
    obtain ⟨sql, hsql⟩ := exists_sliceRbText id tstamp dl s.label s.sched hscn19
    obtain ⟨row, hinserts, hagree⟩ := (inserts_sliceRbText_iff hsql).2
      ⟨⟨h.slices, h.schedName⟩, ⟨h.label.zero, h.label.quote⟩, ⟨h.sched.zero, h.sched.quote⟩,
        h.params⟩
    exact ⟨sql, row, toSqlStringSliceRb_append hschedName h.label.length_text
      h.sched.length_text hsql houtLen hrest, zero_notMem_sliceRbText _ _ hsql, hinserts, hagree⟩

end Statement

/-- For a place with room for the longest statement: one `INSERT` with the values of the message is
printed if and only if the slice is expressible. -/
theorem insertsSlice_iff (dl : UlDlSliceConf) (s : FrSlice) (pre rest : List UInt8) (outLen : ℕ)
    (houtLen : 1024 ≤ outLen) (hrest : outLen ≤ rest.length) :
    InsertsSlice id tstamp dl s pre rest outLen ↔ Expressible dl s :=
  insertsSlice_iff_expressible houtLen hrest

/-- A slice with half of 100 Mbps. -/
def halfRate (label : List UInt8) : FrSlice :=
  ⟨1, label, ascii "PF", .nvs (.rate ⟨0x42480000, 0x42C80000⟩)⟩

/-- The first slice of a message whose scheduler is called like what is printed for `NULL`. -/
theorem insertsSlice_halfRate :
    InsertsSlice gnb 0 ⟨[halfRate (ascii "s1")], ascii "(null)"⟩ (halfRate (ascii "s1")) []
      (List.replicate 4096 0) 4096 := by
  refine (insertsSlice_iff gnb 0 _ _ [] _ 4096 (by decide) List.length_replicate.ge).2
    ⟨by decide, rfl, ⟨by decide, by decide, by decide⟩, ⟨by decide, by decide, by decide⟩, ?_⟩
  have hquarters : Quarters 0x42480000 ∧ Quarters 0x42C80000 := by decide +kernel
  exact hquarters

/-- The name of the scheduler is left out, and a quote in a label ends its literal. -/
theorem not_insertsSlice :
    ¬InsertsSlice gnb 0 ⟨[halfRate (ascii "s1")], ascii "NVS"⟩ (halfRate (ascii "s1")) []
        (List.replicate 4096 0) 4096 ∧
      ¬InsertsSlice gnb 0 ⟨[halfRate (ascii "it's")], ascii "(null)"⟩ (halfRate (ascii "it's")) []
        (List.replicate 4096 0) 4096 := by
  constructor
  · rw [insertsSlice_iff_expressible (by decide) List.length_replicate.ge]
    intro h
    exact absurd h.schedName (by decide)
  · rw [insertsSlice_iff_expressible (by decide) List.length_replicate.ge]
    intro h
    exact absurd h.label.quote (by decide)

end FlexRic
