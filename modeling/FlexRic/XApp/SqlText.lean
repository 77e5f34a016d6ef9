import FlexRic.E2ap.Types
import FlexRic.Semantics.Printf
import FlexRic.Sm.Slice.DataIe
import FlexRic.Sm.Stats.DataIe

/-!
# Statements for the database (`to_sql_string_…` of `xApp/db/sqlite3/sqlite3_wrapper.c`)

A record becomes an `INSERT` with the values of the node and those of the record. The statement is
printed to what remains of the caller's buffer, which must be at least as long as the statement may
be.
-/

namespace FlexRic

open Outcome CString Printf

/-! ## Values -/

/-- A value in quotes; nothing in it is escaped. -/
def quoted (s : List UInt8) : List UInt8 := ascii "'" ++ s ++ ascii "'"

/-- A statement with its values. -/
def insertText (table : List UInt8) (values : List (List UInt8)) : List UInt8 :=
  ascii "INSERT INTO " ++ table ++ ascii " VALUES(" ++ (ascii ",").intercalate values ++ ascii ");"

/-- `c_cu_du_id`, an array of 26 bytes, or `c_null`. -/
def cCuDuId (id : GlobalE2NodeId) : Option (List UInt8) :=
  id.cuDuId.map fun cuDuId => (dec cuDuId.toNat).take 25 ++ [0]

/-- The values that all tables begin with. -/
def nodeValues (id : GlobalE2NodeId) (tstamp : Int64) : List (List UInt8) :=
  [int tstamp.toInt, dec id.type.toNat, dec id.plmn.mcc.toNat, dec id.plmn.mnc.toNat,
    dec id.plmn.mncDigitLen.toNat, word id.nbId, quoted (str (cCuDuId id))]

/-! ## Statements -/

/-- A node without a CU and a DU. -/
def gnb : GlobalE2NodeId := ⟨.gNB, ⟨505, 1, 2⟩, 1, none⟩

variable (id : GlobalE2NodeId) (tstamp : Int64)

/-- The statement of `to_sql_string_mac_ue`. -/
def macUeText (stats : MacUeStatsImpl) : List UInt8 :=
  insertText (ascii "MAC_UE") <| nodeValues id tstamp ++
    [dec stats.frame.toNat, dec stats.slot.toNat, dec stats.dlAggrTbs.toNat,
      dec stats.ulAggrTbs.toNat, dec stats.dlAggrBytesSdus.toNat,
      dec stats.ulAggrBytesSdus.toNat, dec stats.dlCurrTbs.toNat, dec stats.ulCurrTbs.toNat,
      dec stats.dlSchedRb.toNat, dec stats.ulSchedRb.toNat, general stats.puschSnr,
      general stats.pucchSnr, dec stats.rnti.toNat, dec stats.dlAggrPrb.toNat,
      dec stats.ulAggrPrb.toNat, dec stats.dlAggrSdus.toNat, dec stats.ulAggrSdus.toNat,
      dec stats.dlAggrRetxPrb.toNat, dec stats.ulAggrRetxPrb.toNat, dec stats.wbCqi.toNat,
      dec stats.dlMcs1.toNat, dec stats.ulMcs1.toNat, dec stats.dlMcs2.toNat,
      dec stats.ulMcs2.toNat, int stats.phr.toInt, dec stats.bsr.toNat, fixed 6 stats.dlBler,
      fixed 6 stats.ulBler] ++
    (word stats.dlNumHarq :: stats.dlHarq.toList.map fun n => dec n.toNat) ++
    (word stats.ulNumHarq :: stats.ulHarq.toList.map fun n => dec n.toNat)

/-- The statement of `to_sql_string_rlc_rb`. -/
def rlcRbText (rlc : RlcRadioBearerStats) : List UInt8 :=
  insertText (ascii "RLC_bearer") <| nodeValues id tstamp ++
    [dec rlc.txpduPkts.toNat, dec rlc.txpduBytes.toNat, dec rlc.txpduWtMs.toNat,
      dec rlc.txpduDdPkts.toNat, dec rlc.txpduDdBytes.toNat, dec rlc.txpduRetxPkts.toNat,
      dec rlc.txpduRetxBytes.toNat, dec rlc.txpduSegmented.toNat,
      dec rlc.txpduStatusPkts.toNat, dec rlc.txpduStatusBytes.toNat,
      dec rlc.txbufOccBytes.toNat, dec rlc.txbufOccPkts.toNat, dec rlc.rxpduPkts.toNat,
      dec rlc.rxpduBytes.toNat, dec rlc.rxpduDupPkts.toNat, dec rlc.rxpduDupBytes.toNat,
      dec rlc.rxpduDdPkts.toNat, dec rlc.rxpduDdBytes.toNat, dec rlc.rxpduOwPkts.toNat,
      dec rlc.rxpduOwBytes.toNat, dec rlc.rxpduStatusPkts.toNat,
      dec rlc.rxpduStatusBytes.toNat, dec rlc.rxbufOccBytes.toNat, dec rlc.rxbufOccPkts.toNat,
      dec rlc.txsduPkts.toNat, dec rlc.txsduBytes.toNat, dec rlc.rxsduPkts.toNat,
      dec rlc.rxsduBytes.toNat, dec rlc.rxsduDdPkts.toNat, dec rlc.rxsduDdBytes.toNat,
      dec rlc.rnti.toNat, dec rlc.mode.toNat, dec rlc.rbid.toNat]

/-- The statement of `to_sql_string_pdcp_rb`. -/
def pdcpRbText (pdcp : PdcpRadioBearerStats) : List UInt8 :=
  insertText (ascii "PDCP_bearer") <| nodeValues id tstamp ++
    [dec pdcp.txpduPkts.toNat, dec pdcp.txpduBytes.toNat, dec pdcp.txpduSn.toNat,
      dec pdcp.rxpduPkts.toNat, dec pdcp.rxpduBytes.toNat, dec pdcp.rxpduSn.toNat,
      dec pdcp.rxpduOoPkts.toNat, dec pdcp.rxpduOoBytes.toNat, dec pdcp.rxpduDdPkts.toNat,
      dec pdcp.rxpduDdBytes.toNat, dec pdcp.rxpduRoCount.toNat, dec pdcp.txsduPkts.toNat,
      dec pdcp.txsduBytes.toNat, dec pdcp.rxsduPkts.toNat, dec pdcp.rxsduBytes.toNat,
      dec pdcp.rnti.toNat, dec pdcp.mode.toNat, dec pdcp.rbid.toNat]

/-- The statement of `to_sql_string_ue_slice_rb`; the ids are -1 when there is no UE. -/
def ueSliceRbText (ues : UeSliceConf) (u : Option UeSliceAssoc) : List UInt8 :=
  insertText (ascii "UE_SLICE") <| nodeValues id tstamp ++
    match u with
    | none => [word (UInt32.ofNat ues.ues.length), int (-1), int (-1)]
    | some u => [word (UInt32.ofNat ues.ues.length), dec u.rnti.toNat, word u.dlId]

/-- The statement of `to_sql_string_slice_rb` when there is no slice. -/
def noSliceText (schedName : List UInt8) : List UInt8 :=
  insertText (ascii "SLICE") <| nodeValues id tstamp ++
    [int 0, quoted (str (some schedName)), dec 0, quoted (str none), quoted (str none),
      quoted (str none), quoted (str none), fixed 2 0, fixed 2 0, fixed 2 0]

/-- A statement of `to_sql_string_slice_rb` for a slice, with what depends on its algorithm. The
name of the scheduler is `c_null`. -/
def sliceRowText (slices : UlDlSliceConf) (s : FrSlice) (label sched type typeConf : List UInt8)
    (params : List (List UInt8)) : List UInt8 :=
  insertText (ascii "SLICE") <| nodeValues id tstamp ++
    ([word (UInt32.ofNat slices.slices.length), quoted (str none), dec s.id.toNat,
      quoted (str (some label)), quoted type, quoted typeConf, quoted (str (some sched))] ++ params)

/-- The statement of `to_sql_string_slice_rb` for a slice; there is none for SCN19. -/
def sliceRbText (slices : UlDlSliceConf) (s : FrSlice) (label sched : List UInt8) :
    Option (List UInt8) :=
  let row := sliceRowText id tstamp slices s label sched
  match s.params with
  | .sta sta => some (row (ascii "STATIC") (str none)
      [word sta.posLow, word sta.posHigh, fixed 2 0])
  | .nvs (.rate rate) => some (row (ascii "NVS") (ascii "RATE")
      [fixed 2 rate.mbpsRequired, fixed 2 rate.mbpsReference, fixed 2 0])
  | .nvs (.capacity capacity) => some (row (ascii "NVS") (ascii "CAPACITY")
      [fixed 2 capacity.pctReserved, fixed 2 0, fixed 2 0])
  | .scn19 _ => none
  | .edf edf => some (row (ascii "EDF") (str none)
      [word edf.deadline, word edf.guaranteedPrbs, word edf.maxReplenish])

/-- The statement of `to_sql_string_gtp_NGUT`. -/
def gtpNGUTText (gtp : GtpNguTStats) : List UInt8 :=
  insertText (ascii "GTP_NGUT") <| nodeValues id tstamp ++
    [dec gtp.teidgnb.toNat, dec gtp.rnti.toNat, dec gtp.qfi.toNat, dec gtp.teidupf.toNat]

/-! ## Statements without a NUL -/

omit id tstamp in
theorem zero_notMem_quoted {s : List UInt8} (h : 0 ∉ s) : 0 ∉ quoted s := by
  simp only [quoted, List.mem_append, not_or]
  exact ⟨⟨by decide, h⟩, by decide⟩

omit id tstamp in
theorem zero_notMem_intercalate {sep : List UInt8} {values : List (List UInt8)} (hsep : 0 ∉ sep)
    (hvalues : ∀ v ∈ values, 0 ∉ v) : 0 ∉ sep.intercalate values := by
  induction values with
  | nil => exact List.not_mem_nil
  | cons v values ih =>
    obtain ⟨hv, hvalues⟩ := List.forall_mem_cons.1 hvalues
    cases values with
    | nil => rwa [List.intercalate_singleton]
    | cons next values =>
      rw [List.intercalate_cons_cons, List.mem_append, List.mem_append, not_or, not_or]
      exact ⟨⟨hv, hsep⟩, ih hvalues⟩

omit id tstamp in
theorem zero_notMem_insertText {table : List UInt8} {values : List (List UInt8)}
    (htable : 0 ∉ table) (hvalues : ∀ v ∈ values, 0 ∉ v) : 0 ∉ insertText table values := by
  have hlist : 0 ∉ (ascii ",").intercalate values := zero_notMem_intercalate (by decide) hvalues
  simp only [insertText, List.mem_append, not_or]
  exact ⟨⟨⟨⟨by decide, htable⟩, by decide⟩, hlist⟩, by decide⟩

theorem zero_notMem_nodeValues : ∀ v ∈ nodeValues id tstamp, 0 ∉ v := by
  simp only [nodeValues, word, List.forall_mem_cons]
  exact ⟨zero_notMem_int _, zero_notMem_dec _, zero_notMem_dec _, zero_notMem_dec _,
    zero_notMem_dec _, zero_notMem_int _, zero_notMem_quoted (zero_notMem_str _), by simp⟩

theorem zero_notMem_statement {table : List UInt8} {values : List (List UInt8)}
    (htable : 0 ∉ table) (hvalues : ∀ v ∈ values, 0 ∉ v) :
    0 ∉ insertText table (nodeValues id tstamp ++ values) := by
  refine zero_notMem_insertText htable fun v hv => ?_
  rcases List.mem_append.1 hv with hv | hv
  · exact zero_notMem_nodeValues id tstamp v hv
  · exact hvalues v hv

theorem zero_notMem_macUeText (stats : MacUeStatsImpl) : 0 ∉ macUeText id tstamp stats := by
  rw [macUeText, List.append_assoc, List.append_assoc]
  refine zero_notMem_statement id tstamp (by decide) ?_
  simp [word, or_imp, forall_and, zero_notMem_dec, zero_notMem_int, zero_notMem_general,
    zero_notMem_fixed]

theorem zero_notMem_rlcRbText (rlc : RlcRadioBearerStats) : 0 ∉ rlcRbText id tstamp rlc := by
  refine zero_notMem_statement id tstamp (by decide) ?_
  simp [zero_notMem_dec]

theorem zero_notMem_pdcpRbText (pdcp : PdcpRadioBearerStats) :
    0 ∉ pdcpRbText id tstamp pdcp := by
  refine zero_notMem_statement id tstamp (by decide) ?_
  simp [zero_notMem_dec]

theorem zero_notMem_gtpNGUTText (gtp : GtpNguTStats) : 0 ∉ gtpNGUTText id tstamp gtp := by
  refine zero_notMem_statement id tstamp (by decide) ?_
  simp [zero_notMem_dec]

theorem zero_notMem_ueSliceRbText (ues : UeSliceConf) (u : Option UeSliceAssoc) :
    0 ∉ ueSliceRbText id tstamp ues u := by
  refine zero_notMem_statement id tstamp (by decide) ?_
  cases u <;> simp [word, zero_notMem_dec, zero_notMem_int]

theorem zero_notMem_noSliceText (schedName : List UInt8) :
    0 ∉ noSliceText id tstamp schedName := by
  refine zero_notMem_statement id tstamp (by decide) ?_
  simp [zero_notMem_dec, zero_notMem_int, zero_notMem_fixed, zero_notMem_str, zero_notMem_quoted]

theorem zero_notMem_sliceRbText {slices : UlDlSliceConf} {s : FrSlice}
    {label sched sql : List UInt8} (h : sliceRbText id tstamp slices s label sched = some sql) :
    0 ∉ sql := by
  have hrow : ∀ {type typeConf params}, 0 ∉ type → 0 ∉ typeConf → (∀ v ∈ params, 0 ∉ v) →
      0 ∉ sliceRowText id tstamp slices s label sched type typeConf params := by
    intro type typeConf params htype htypeConf hparams
    refine zero_notMem_statement id tstamp (by decide) ?_
    simpa [word, zero_notMem_dec, zero_notMem_int, zero_notMem_str, zero_notMem_quoted, htype,
      htypeConf, or_imp, forall_and] using hparams
  rw [sliceRbText] at h
  split at h
  · cases h
    exact hrow (by decide) (by decide) (by simp [word, zero_notMem_int, zero_notMem_fixed])
  · cases h
    exact hrow (by decide) (by decide) (by simp [zero_notMem_fixed])
  · cases h
    exact hrow (by decide) (by decide) (by simp [zero_notMem_fixed])
  · cases h
  · cases h
    exact hrow (by decide) (by decide) (by simp [word, zero_notMem_int])

/-! ## Printing -/

/-- What the functions share: there must be room for `max` bytes, of which a statement with its NUL
may take all. -/
def toSqlString (max limit outLen : ℕ) (sql out : List UInt8) (pos : ℕ) :
    Outcome (List UInt8 × ℤ) := do
  check (max ≤ outLen)
  let (out, rc) ← snprintf out pos limit sql
  check (rc < max)
  return (out, rc)

/-- `to_sql_string_mac_ue` to the place `pos` of `out`. -/
def toSqlStringMacUe (stats : MacUeStatsImpl) (out : List UInt8) (pos outLen : ℕ) :
    Outcome (List UInt8 × ℤ) :=
  toSqlString 1024 1024 outLen (macUeText id tstamp stats) out pos

/-- `to_sql_string_rlc_rb` -/
def toSqlStringRlcRb (rlc : RlcRadioBearerStats) (out : List UInt8) (pos outLen : ℕ) :
    Outcome (List UInt8 × ℤ) :=
  toSqlString 1024 1024 outLen (rlcRbText id tstamp rlc) out pos

/-- `to_sql_string_pdcp_rb` -/
def toSqlStringPdcpRb (pdcp : PdcpRadioBearerStats) (out : List UInt8) (pos outLen : ℕ) :
    Outcome (List UInt8 × ℤ) :=
  toSqlString 512 outLen outLen (pdcpRbText id tstamp pdcp) out pos

/-- `to_sql_string_ue_slice_rb` -/
def toSqlStringUeSliceRb (ues : UeSliceConf) (u : Option UeSliceAssoc) (out : List UInt8)
    (pos outLen : ℕ) : Outcome (List UInt8 × ℤ) :=
  toSqlString 512 outLen outLen (ueSliceRbText id tstamp ues u) out pos

/-- `strncat` of a whole string to an empty `char` array of 50 bytes. -/
def strncat (s : List UInt8) : Outcome (List UInt8) :=
  orFault .pastEnd (Buffer.splice (List.replicate 50 0) 0 (text s ++ [0]))

/-- `to_sql_string_slice_rb` -/
def toSqlStringSliceRb (slices : UlDlSliceConf) (s : Option FrSlice) (out : List UInt8)
    (pos outLen : ℕ) : Outcome (List UInt8 × ℤ) := do
  check (1024 ≤ outLen)
  let schedName ← strncat slices.schedName
  match s with
  | none => toSqlString 1024 outLen outLen (noSliceText id tstamp schedName) out pos
  | some s => do
    let label ← strncat s.label
    let sched ← strncat s.sched
    match sliceRbText id tstamp slices s label sched with
    | none => return (out, 0)
    | some sql => toSqlString 1024 outLen outLen sql out pos

/-- `to_sql_string_gtp_NGUT` -/
def toSqlStringGtpNGUT (gtp : GtpNguTStats) (out : List UInt8) (pos outLen : ℕ) :
    Outcome (List UInt8 × ℤ) :=
  toSqlString 1024 1024 outLen (gtpNGUTText id tstamp gtp) out pos

/-! ## What is printed -/

section Print

variable {max limit outLen : ℕ} {pre rest sql : List UInt8}

omit id tstamp in
/-- A statement that is shorter than its bound is printed behind the others. -/
theorem toSqlString_append (hsql : sql.length < max) (hmax : max ≤ 2 ^ 31) (houtLen : max ≤ outLen)
    (hlimit : max ≤ limit) (hrest : max ≤ rest.length) :
    toSqlString max limit outLen sql (pre ++ rest) pre.length =
      returns (pre ++ (sql ++ 0 :: rest.drop (sql.length + 1)), (sql.length : ℤ)) := by
  have hprint : snprintf (pre ++ rest) pre.length limit sql = _ :=
    snprintf_append (by omega) (by omega) (by omega)
  have hrc : (sql.length : ℤ) < max := by omega
  rw [toSqlString, check, if_pos houtLen, returns_bind, hprint, returns_bind]
  dsimp only
  rw [check, if_pos hrc]
  rfl

omit id tstamp in
/-- Without room for the bound there is an assertion that fails. -/
theorem toSqlString_of_lt {out : List UInt8} {pos : ℕ} (h : outLen < max) :
    toSqlString max limit outLen sql out pos = stops := by
  rw [toSqlString, check, if_neg (by omega)]
  rfl

end Print

omit id tstamp in
theorem strncat_eq (s : List UInt8) :
    strncat s = if (text s).length < 50 then
      returns (text s ++ 0 :: List.replicate (49 - (text s).length) 0) else faults .pastEnd := by
  have hlen : (text s ++ [0]).length = (text s).length + 1 := by
    rw [List.length_append, List.length_singleton]
  rw [strncat]
  split
  · next hlt =>
    rw [Buffer.splice_of_le (by rw [hlen, List.length_replicate]; omega), hlen, List.take_zero,
      List.nil_append, Nat.zero_add, List.drop_replicate, List.append_assoc]
    have hdrop : 50 - ((text s).length + 1) = 49 - (text s).length := by omega
    rw [hdrop]
    rfl
  · next hle =>
    rw [Buffer.splice, if_neg (by rw [hlen, List.length_replicate]; omega)]
    rfl

/-- A name is printed up to its NUL. -/
theorem sliceRbText_congr {dl : UlDlSliceConf} {s : FrSlice}
    {label label' sched sched' : List UInt8} (hlabel : text label = text label')
    (hsched : text sched = text sched') :
    sliceRbText id tstamp dl s label sched = sliceRbText id tstamp dl s label' sched' := by
  have hlabel' : str (some label) = str (some label') := hlabel
  have hsched' : str (some sched) = str (some sched') := hsched
  have hrow : sliceRowText id tstamp dl s label sched =
      sliceRowText id tstamp dl s label' sched' := by
    funext type typeConf params
    rw [sliceRowText, sliceRowText, hlabel', hsched']
  rw [sliceRbText, sliceRbText, hrow]

theorem noSliceText_congr {schedName schedName' : List UInt8}
    (h : text schedName = text schedName') :
    noSliceText id tstamp schedName = noSliceText id tstamp schedName' := by
  have h' : str (some schedName) = str (some schedName') := h
  rw [noSliceText, noSliceText, h']

/-- Each slice has a statement, except one of SCN19. -/
theorem exists_sliceRbText (dl : UlDlSliceConf) {s : FrSlice} (label sched : List UInt8)
    (h : ∀ scn19, s.params ≠ .scn19 scn19) :
    ∃ sql, sliceRbText id tstamp dl s label sched = some sql := by
  rw [sliceRbText]
  rcases hparams : s.params with sta | (rate | capacity) | scn19 | edf
  · exact ⟨_, rfl⟩
  · exact ⟨_, rfl⟩
  · exact ⟨_, rfl⟩
  · exact absurd hparams (h scn19)
  · exact ⟨_, rfl⟩

section Slice

variable {dl : UlDlSliceConf} {s : FrSlice} {sql : List UInt8}

omit id tstamp in
theorem check_toSqlString (out : List UInt8) (pos outLen : ℕ) :
    (check (1024 ≤ outLen) >>= fun _ => toSqlString 1024 outLen outLen sql out pos) =
      toSqlString 1024 outLen outLen sql out pos := by
  rw [toSqlString, check]
  split <;> rfl

omit id tstamp in
/-- A name is the same in its local array. -/
theorem text_strncat (name : List UInt8) :
    text (text name ++ 0 :: List.replicate (49 - (text name).length) 0) = text name :=
  text_append (zero_notMem_text name) _

theorem toSqlStringSliceRb_none (hschedName : (text dl.schedName).length < 50)
    (out : List UInt8) (pos outLen : ℕ) :
    toSqlStringSliceRb id tstamp dl none out pos outLen =
      toSqlString 1024 outLen outLen (noSliceText id tstamp dl.schedName) out pos := by
  rw [toSqlStringSliceRb, strncat_eq, if_pos hschedName, returns_bind]
  dsimp only
  rw [noSliceText_congr id tstamp (text_strncat dl.schedName)]
  exact check_toSqlString _ _ _

/-- With short names it is the statement of the message that decides. -/
theorem toSqlStringSliceRb_some (hschedName : (text dl.schedName).length < 50)
    (hlabel : (text s.label).length < 50) (hsched : (text s.sched).length < 50)
    (out : List UInt8) (pos outLen : ℕ) :
    toSqlStringSliceRb id tstamp dl (some s) out pos outLen = (do
      check (1024 ≤ outLen)
      match sliceRbText id tstamp dl s s.label s.sched with
      | none => return (out, 0)
      | some sql => toSqlString 1024 outLen outLen sql out pos) := by
  rw [toSqlStringSliceRb, strncat_eq, if_pos hschedName, returns_bind]
  dsimp only
  rw [strncat_eq, if_pos hlabel, returns_bind, strncat_eq, if_pos hsched, returns_bind,
    sliceRbText_congr id tstamp (text_strncat s.label) (text_strncat s.sched)]

theorem toSqlStringSliceRb_of_sql (hschedName : (text dl.schedName).length < 50)
    (hlabel : (text s.label).length < 50) (hsched : (text s.sched).length < 50)
    (hsql : sliceRbText id tstamp dl s s.label s.sched = some sql) (out : List UInt8)
    (pos outLen : ℕ) :
    toSqlStringSliceRb id tstamp dl (some s) out pos outLen =
      toSqlString 1024 outLen outLen sql out pos := by
  rw [toSqlStringSliceRb_some id tstamp hschedName hlabel hsched, hsql]
  exact check_toSqlString _ _ _

/-- A slice whose statement is printed has short names. -/
theorem lt_of_toSqlStringSliceRb {dl : UlDlSliceConf} {s : Option FrSlice}
    {out : List UInt8} {pos outLen : ℕ} {res : List UInt8 × ℤ}
    (h : toSqlStringSliceRb id tstamp dl s out pos outLen = returns res) :
    (text dl.schedName).length < 50 ∧
      ∀ slice, s = some slice →
        (text slice.label).length < 50 ∧ (text slice.sched).length < 50 := by
  have hshort : ∀ {name mem : List UInt8},
      strncat name = returns mem → (text name).length < 50 := by
    intro name mem hname
    by_contra hle
    rw [strncat_eq, if_neg hle] at hname
    cases hname
  rw [toSqlStringSliceRb, check_bind_eq_returns, bind_eq_returns] at h
  obtain ⟨-, schedName, hschedName, h⟩ := h
  refine ⟨hshort hschedName, ?_⟩
  rintro slice rfl
  dsimp only at h
  rw [bind_eq_returns] at h
  obtain ⟨label, hlabel, h⟩ := h
  rw [bind_eq_returns] at h
  obtain ⟨sched, hsched, -⟩ := h
  exact ⟨hshort hlabel, hshort hsched⟩

end Slice

end FlexRic
