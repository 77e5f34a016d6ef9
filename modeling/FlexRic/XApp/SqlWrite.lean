import FlexRic.XApp.SqlText

/-!
# Statistics for the database (`write_…_stats` of `xApp/db/sqlite3/sqlite3_wrapper.c`)

The statements of all records are printed one behind the other to a buffer of 2048 or 4096 bytes,
and are handed to the database together. Before each record there must be room for the longest
statement of its kind, so the number of records is bounded by the lengths of their statements.
-/

namespace FlexRic

open Outcome CString Printf

/-! ## The code -/

/-- The remaining size, which is converted to `size_t`. -/
def remaining (size : UInt64) (pos : ℕ) : ℕ := (size - UInt64.ofNat pos).toNat

/-- The loops over the records. `put` prints the statement of a record to a place of the buffer and
answers with its length. -/
def writeRecords {A : Type} (put : A → List UInt8 → ℕ → Outcome (List UInt8 × ℤ)) :
    List A → List UInt8 → ℕ → Outcome (List UInt8)
  | [], buffer, _ => return buffer
  | r :: records, buffer, pos => do
    let (buffer, rc) ← put r buffer pos
    writeRecords put records buffer (pos + rc.toNat)

/-- `insert_db`: the statements that the database executes. -/
def insertDb (buffer : List UInt8) : Outcome (List UInt8) := do
  let len ← strlen buffer 0
  return buffer.take len

variable (id : GlobalE2NodeId)

/-- `write_mac_stats` -/
def writeMacStats (msg : MacIndMsg) : Outcome (List (List UInt8)) := do
  let buffer ← writeRecords (fun stats out pos =>
    toSqlStringMacUe id msg.tstamp stats out pos (remaining 2048 pos))
    msg.stats (List.replicate 2048 0) 0
  let sql ← insertDb buffer
  return [sql]

/-- `write_rlc_stats` -/
def writeRlcStats (msg : RlcIndMsg) : Outcome (List (List UInt8)) := do
  let buffer ← writeRecords (fun rlc out pos =>
    toSqlStringRlcRb id msg.tstamp rlc out pos (remaining 2048 pos))
    msg.stats (List.replicate 2048 0) 0
  let sql ← insertDb buffer
  return [sql]

/-- `write_pdcp_stats` -/
def writePdcpStats (msg : PdcpIndMsg) : Outcome (List (List UInt8)) := do
  let buffer ← writeRecords (fun pdcp out pos =>
    toSqlStringPdcpRb id msg.tstamp pdcp out pos (remaining 2048 pos))
    msg.stats (List.replicate 2048 0) 0
  let sql ← insertDb buffer
  return [sql]

/-- `write_gtp_stats` -/
def writeGtpStats (msg : GtpIndMsg) : Outcome (List (List UInt8)) := do
  let buffer ← writeRecords (fun gtp out pos =>
    toSqlStringGtpNGUT id msg.tstamp gtp out pos (remaining 2048 pos))
    msg.stats (List.replicate 2048 0) 0
  let sql ← insertDb buffer
  return [sql]

/-- The records of a list; an empty one has a record of its own. -/
def orPlaceholder {A : Type} (l : List A) : List (Option A) :=
  if l = [] then [none] else l.map some

/-- `write_slice_conf_stats` -/
def writeSliceConfStats (tstamp : Int64) (conf : SliceConf) : Outcome (List UInt8) := do
  let buffer ← writeRecords (fun s out pos =>
    toSqlStringSliceRb id tstamp conf.dl s out pos (remaining 4096 pos))
    (orPlaceholder conf.dl.slices) (List.replicate 4096 0) 0
  insertDb buffer

/-- `write_ue_slice_conf_stats`; only the first 2048 bytes of the buffer are offered. -/
def writeUeSliceConfStats (tstamp : Int64) (conf : UeSliceConf) : Outcome (List UInt8) := do
  let buffer ← writeRecords (fun u out pos =>
    toSqlStringUeSliceRb id tstamp conf u out pos (remaining 2048 pos))
    (orPlaceholder conf.ues) (List.replicate 4096 0) 0
  insertDb buffer

/-- `write_slice_stats` -/
def writeSliceStats (msg : SliceIndMsg) : Outcome (List (List UInt8)) := do
  let slices ← writeSliceConfStats id msg.tstamp msg.sliceConf
  let ues ← writeUeSliceConfStats id msg.tstamp msg.ueSliceConf
  return [slices, ues]

/-! ## Room for the statements -/

/-- Before the last record there is room for the longest statement. -/
def Roomy (max size : ℕ) (sqls : List (List UInt8)) : Prop :=
  (sqls.dropLast.map List.length).sum + max ≤ size

instance (max size : ℕ) (sqls : List (List UInt8)) : Decidable (Roomy max size sqls) :=
  inferInstanceAs (Decidable ((sqls.dropLast.map List.length).sum + max ≤ size))

/-- Before each record there is room, from a place on. -/
def RoomFrom (max size : ℕ) : ℕ → List (List UInt8) → Prop
  | _, [] => True
  | pos, sql :: sqls => pos + max ≤ size ∧ RoomFrom max size (pos + sql.length) sqls

theorem roomFrom_cons_iff {max size pos : ℕ} {sql : List UInt8} {sqls : List (List UInt8)} :
    RoomFrom max size pos (sql :: sqls) ↔
      pos + ((sql :: sqls).dropLast.map List.length).sum + max ≤ size := by
  induction sqls generalizing pos sql with
  | nil => simp [RoomFrom]
  | cons next sqls ih =>
    rw [RoomFrom, ih, List.dropLast_cons_cons, List.map_cons, List.sum_cons]
    omega

theorem roomFrom_iff {max size : ℕ} (hmax : max ≤ size) {sqls : List (List UInt8)} :
    RoomFrom max size 0 sqls ↔ Roomy max size sqls := by
  cases sqls with
  | nil => exact iff_of_true trivial (by rw [Roomy]; simpa using hmax)
  | cons sql sqls => rw [roomFrom_cons_iff, Roomy, Nat.zero_add]

theorem remaining_eq {size pos : ℕ} (hsize : size < 2 ^ 64) (hpos : pos ≤ size) :
    remaining (UInt64.ofNat size) pos = size - pos := by
  have hsize' : (UInt64.ofNat size).toNat = size := by
    rw [UInt64.toNat_ofNat']
    exact Nat.mod_eq_of_lt hsize
  have hpos' : (UInt64.ofNat pos).toNat = pos := by
    rw [UInt64.toNat_ofNat']
    exact Nat.mod_eq_of_lt (by omega)
  rw [remaining, UInt64.toNat_sub_of_le, hsize', hpos']
  rw [UInt64.le_iff_toNat_le, hsize', hpos']
  exact hpos

/-! ## Printing behind the others -/

/-- A function that prints a text to its place in the first `top` bytes of an array if there is room
for `max` bytes. -/
def Prints (max top size : ℕ) (sql : List UInt8)
    (put : List UInt8 → ℕ → Outcome (List UInt8 × ℤ)) : Prop :=
  ∀ pre rest : List UInt8, pre.length ≤ top → (pre ++ rest).length = size →
    put (pre ++ rest) pre.length =
      if pre.length + max ≤ top then
        returns (pre ++ (sql ++ 0 :: rest.drop (sql.length + 1)), (sql.length : ℤ))
      else stops

/-- A statement that is shorter than its bound. `snprintf` is given the bound or the size of what
remains. -/
theorem prints_toSqlString {max top size : ℕ} {sql : List UInt8} (limit : ℕ → ℕ)
    (hsql : sql.length < max) (hmax : max ≤ 2 ^ 31) (htop : top ≤ size) (hsize : size < 2 ^ 64)
    (hlimit : ∀ outLen, max ≤ outLen → max ≤ limit outLen) :
    Prints max top size sql fun out pos =>
      toSqlString max (limit (remaining (UInt64.ofNat top) pos))
        (remaining (UInt64.ofNat top) pos) sql out pos := by
  intro pre rest hpre hlen
  have hremaining : remaining (UInt64.ofNat top) pre.length = top - pre.length :=
    remaining_eq (by omega) hpre
  rw [List.length_append] at hlen
  dsimp only
  rw [hremaining]
  by_cases hle : pre.length + max ≤ top
  · have hmaxle : max ≤ top - pre.length := by omega
    rw [if_pos hle]
    exact toSqlString_append hsql hmax hmaxle (hlimit _ hmaxle) (by omega)
  · rw [if_neg hle]
    exact toSqlString_of_lt (by omega)

section Records

variable {A : Type} {put : A → List UInt8 → ℕ → Outcome (List UInt8 × ℤ)} {sql : A → List UInt8}
variable {max top size : ℕ}

/-- The loop prints the texts one behind the other as long as there is room. -/
theorem writeRecords_eq (htop : top ≤ size) {records : List A}
    (hput : ∀ r ∈ records, Prints max top size (sql r) (put r))
    (hfits : ∀ r ∈ records, (sql r).length < max) (pre rest : List UInt8) (hpre : pre.length ≤ top)
    (hlen : (pre ++ 0 :: rest).length = size) :
    (RoomFrom max top pre.length (records.map sql) →
      ∃ rest', writeRecords put records (pre ++ 0 :: rest) pre.length =
        returns (pre ++ (records.map sql).flatten ++ 0 :: rest')) ∧
    (¬RoomFrom max top pre.length (records.map sql) →
      writeRecords put records (pre ++ 0 :: rest) pre.length = stops) := by
  induction records generalizing pre rest with
  | nil =>
    refine ⟨fun _ => ⟨rest, ?_⟩, fun h => absurd trivial h⟩
    rw [List.map_nil, List.flatten_nil, List.append_nil]
    rfl
  | cons r records ih =>
    obtain ⟨hput, hputs⟩ := List.forall_mem_cons.1 hput
    obtain ⟨hfit, hfits⟩ := List.forall_mem_cons.1 hfits
    rw [List.map_cons, RoomFrom, writeRecords, hput pre (0 :: rest) hpre hlen]
    by_cases hroom : pre.length + max ≤ top
    · -- The text and its NUL replace what is behind the texts so far.
      have hpos : pre.length + ((sql r).length : ℤ).toNat = (pre ++ sql r).length := by
        rw [Int.toNat_natCast, List.length_append]
      have hlen' :
          ((pre ++ sql r) ++ 0 :: (0 :: rest).drop ((sql r).length + 1)).length = size := by
        simp only [List.length_append, List.length_cons, List.length_drop] at hlen ⊢
        omega
      have ih := ih hputs hfits _ _ (by rw [List.length_append]; omega) hlen'
      rw [if_pos hroom, returns_bind]
      dsimp only
      rw [hpos, ← List.append_assoc, List.flatten_cons, ← List.append_assoc, ← List.length_append]
      refine ⟨fun h => ih.1 h.2, fun h => ih.2 fun hrooms => h ⟨hroom, hrooms⟩⟩
    · rw [if_neg hroom]
      exact ⟨fun h => absurd h.1 hroom, fun _ => rfl⟩

/-- What the database gets. -/
theorem insertDb_append {sqls rest : List UInt8} (h : 0 ∉ sqls) :
    insertDb (sqls ++ 0 :: rest) = returns sqls := by
  have hlen : strlen ([] ++ (sqls ++ 0 :: rest)) 0 = returns sqls.length := strlen_append h
  rw [List.nil_append] at hlen
  rw [insertDb, hlen, returns_bind, List.take_left]
  rfl

/-- All texts reach the database if there is room for them, and none does otherwise. -/
theorem insertDb_writeRecords (htop : top ≤ size) (hsize : 0 < size) (hmax : max ≤ top)
    {records : List A} (hput : ∀ r ∈ records, Prints max top size (sql r) (put r))
    (hfits : ∀ r ∈ records, (sql r).length < max) (hzero : ∀ r ∈ records, 0 ∉ sql r) :
    (writeRecords put records (List.replicate size 0) 0 >>= insertDb) =
      if Roomy max top (records.map sql) then returns (records.map sql).flatten else stops := by
  obtain ⟨n, rfl⟩ : ∃ n, size = n + 1 := ⟨size - 1, by omega⟩
  have hrun := writeRecords_eq htop hput hfits [] (List.replicate n 0) (Nat.zero_le _) (by simp)
  rw [List.nil_append, List.length_nil, List.nil_append, roomFrom_iff hmax,
    ← List.replicate_succ] at hrun
  split
  · next hroom =>
    obtain ⟨rest, hreturns⟩ := hrun.1 hroom
    rw [hreturns, returns_bind]
    refine insertDb_append fun hmem => ?_
    obtain ⟨t, ht, hmem⟩ := List.mem_flatten.1 hmem
    obtain ⟨r, hr, rfl⟩ := List.mem_map.1 ht
    exact hzero r hr hmem
  · next hroom =>
    rw [hrun.2 hroom]
    rfl

/-- In a run that comes to its end, each record is printed. -/
theorem put_eq_returns_of_writeRecords {records : List A} {buffer out : List UInt8} {pos : ℕ}
    (h : writeRecords put records buffer pos = returns out) :
    ∀ r ∈ records, ∃ buffer pos res, put r buffer pos = returns res := by
  induction records generalizing buffer pos with
  | nil => simp
  | cons r records ih =>
    rw [writeRecords, bind_eq_returns] at h
    obtain ⟨res, hput, hrest⟩ := h
    rw [List.forall_mem_cons]
    exact ⟨⟨buffer, pos, res, hput⟩, ih hrest⟩

end Records

/-! ## The statements of a message -/

/-- The statements of `write_mac_stats`. -/
def macSqls (msg : MacIndMsg) : List (List UInt8) := msg.stats.map (macUeText id msg.tstamp)

/-- The statements of `write_rlc_stats`. -/
def rlcSqls (msg : RlcIndMsg) : List (List UInt8) := msg.stats.map (rlcRbText id msg.tstamp)

/-- The statements of `write_pdcp_stats`. -/
def pdcpSqls (msg : PdcpIndMsg) : List (List UInt8) := msg.stats.map (pdcpRbText id msg.tstamp)

/-- The statements of `write_gtp_stats`. -/
def gtpSqls (msg : GtpIndMsg) : List (List UInt8) := msg.stats.map (gtpNGUTText id msg.tstamp)

/-- The statement of a slice or of the place holder, with the whole names. -/
def sliceSql (tstamp : Int64) (dl : UlDlSliceConf) : Option FrSlice → Option (List UInt8)
  | none => some (noSliceText id tstamp dl.schedName)
  | some s => sliceRbText id tstamp dl s s.label s.sched

/-- The statements of `write_slice_conf_stats`, for the slices that have one. -/
def sliceSqls (msg : SliceIndMsg) : List (List UInt8) :=
  (orPlaceholder msg.sliceConf.dl.slices).filterMap (sliceSql id msg.tstamp msg.sliceConf.dl)

/-- The statements of `write_ue_slice_conf_stats`. -/
def ueSliceSqls (msg : SliceIndMsg) : List (List UInt8) :=
  (orPlaceholder msg.ueSliceConf.ues).map (ueSliceRbText id msg.tstamp msg.ueSliceConf)

/-- The names fit the local arrays, and each slice has a statement. -/
structure Stated (dl : UlDlSliceConf) : Prop where
  schedName : (text dl.schedName).length < 50
  label : ∀ s ∈ dl.slices, (text s.label).length < 50
  sched : ∀ s ∈ dl.slices, (text s.sched).length < 50
  params : ∀ s ∈ dl.slices, ∀ scn19, s.params ≠ .scn19 scn19

/-- What `write_slice_stats` has statements and room for. -/
structure SliceRoom (msg : SliceIndMsg) : Prop where
  stated : Stated msg.sliceConf.dl
  slices : Roomy 1024 4096 (sliceSqls id msg)
  ues : Roomy 512 2048 (ueSliceSqls id msg)

/-! ## Slices -/

/-- The function with short names prints the statement. -/
theorem toSqlStringSliceRb_eq (tstamp : Int64) {dl : UlDlSliceConf} (h : Stated dl)
    {s : Option FrSlice} (hs : s ∈ orPlaceholder dl.slices) :
    ∃ sql, sliceSql id tstamp dl s = some sql ∧ 0 ∉ sql ∧
      ∀ out pos outLen, toSqlStringSliceRb id tstamp dl s out pos outLen =
        toSqlString 1024 outLen outLen sql out pos := by
  cases s with
  | none =>
    exact ⟨_, rfl, zero_notMem_noSliceText _ _ _, toSqlStringSliceRb_none id tstamp h.schedName⟩
  | some s =>
    have hs : s ∈ dl.slices := by
      rw [orPlaceholder] at hs
      split at hs
      · simp at hs
      · simpa using hs
    obtain ⟨sql, hsql⟩ := exists_sliceRbText id tstamp dl s.label s.sched (h.params s hs)
    exact ⟨sql, hsql, zero_notMem_sliceRbText _ _ hsql,
      toSqlStringSliceRb_of_sql id tstamp h.schedName (h.label s hs) (h.sched s hs) hsql⟩

/-- The statements of slices that have one. -/
theorem writeSliceConfStats_eq {msg : SliceIndMsg} (h : Stated msg.sliceConf.dl)
    (hfits : ∀ sql ∈ sliceSqls id msg, sql.length < 1024) :
    (orPlaceholder msg.sliceConf.dl.slices).map (sliceSql id msg.tstamp msg.sliceConf.dl) =
        (sliceSqls id msg).map some ∧
      writeSliceConfStats id msg.tstamp msg.sliceConf =
        if Roomy 1024 4096 (sliceSqls id msg) then returns (sliceSqls id msg).flatten
        else stops := by
  have hsome : ∀ s ∈ orPlaceholder msg.sliceConf.dl.slices,
      sliceSql id msg.tstamp msg.sliceConf.dl s =
        some ((sliceSql id msg.tstamp msg.sliceConf.dl s).getD []) := by
    intro s hs
    obtain ⟨sql, hsql, -⟩ := toSqlStringSliceRb_eq id msg.tstamp h hs
    rw [hsql]
    rfl
  have hsqls : (orPlaceholder msg.sliceConf.dl.slices).map
      (fun s => (sliceSql id msg.tstamp msg.sliceConf.dl s).getD []) = sliceSqls id msg := by
    rw [sliceSqls, ← List.filterMap_eq_map]
    refine List.filterMap_congr fun s hs => ?_
    exact (hsome s hs).symm
  refine ⟨?_, ?_⟩
  · rw [← hsqls, List.map_map]
    exact List.map_congr_left hsome
  · rw [← hsqls]
    have hfit : ∀ s ∈ orPlaceholder msg.sliceConf.dl.slices,
        ((sliceSql id msg.tstamp msg.sliceConf.dl s).getD []).length < 1024 :=
      fun s hs => hfits _ (List.mem_filterMap.2 ⟨s, hs, hsome s hs⟩)
    refine insertDb_writeRecords le_rfl (by decide) (by decide) (fun s hs => ?_) hfit
      (fun s hs => ?_)
    · have hlt := hfit s hs
      obtain ⟨sql, hsql, -, hprint⟩ := toSqlStringSliceRb_eq id msg.tstamp h hs
      rw [hsql, Option.getD_some] at hlt ⊢
      simp only [hprint]
      exact prints_toSqlString (fun n => n) hlt (by decide) le_rfl (by decide) fun _ hle => hle
    · obtain ⟨sql, hsql, hzero, -⟩ := toSqlStringSliceRb_eq id msg.tstamp h hs
      rwa [hsql, Option.getD_some]

/-- The statements of the associations. -/
theorem writeUeSliceConfStats_eq {msg : SliceIndMsg}
    (hfits : ∀ sql ∈ ueSliceSqls id msg, sql.length < 512) :
    writeUeSliceConfStats id msg.tstamp msg.ueSliceConf =
      if Roomy 512 2048 (ueSliceSqls id msg) then returns (ueSliceSqls id msg).flatten
      else stops := by
  have hfit : ∀ u ∈ orPlaceholder msg.ueSliceConf.ues,
      (ueSliceRbText id msg.tstamp msg.ueSliceConf u).length < 512 :=
    fun u hu => hfits _ (List.mem_map_of_mem hu)
  exact insertDb_writeRecords (by decide) (by decide) (by decide)
    (fun u hu => prints_toSqlString (fun n => n) (hfit u hu) (by decide) (by decide) (by decide)
      fun _ h => h)
    hfit fun u _ => zero_notMem_ueSliceRbText _ _ _ _

/-- A message whose slices reach the database has short names and no slice without a statement. -/
theorem stated_of_writeSliceConfStats {msg : SliceIndMsg} {sqls : List (List UInt8)}
    {out : List UInt8}
    (hsqls : (orPlaceholder msg.sliceConf.dl.slices).map
      (sliceSql id msg.tstamp msg.sliceConf.dl) = sqls.map some)
    (h : writeSliceConfStats id msg.tstamp msg.sliceConf = returns out) :
    Stated msg.sliceConf.dl := by
  rw [writeSliceConfStats, bind_eq_returns] at h
  obtain ⟨buffer, hrun, -⟩ := h
  have hput := put_eq_returns_of_writeRecords hrun
  have hmem : ∀ s ∈ msg.sliceConf.dl.slices, some s ∈ orPlaceholder msg.sliceConf.dl.slices := by
    intro s hs
    rw [orPlaceholder, if_neg (List.ne_nil_of_mem hs)]
    exact List.mem_map_of_mem hs
  have hne : ∃ s, s ∈ orPlaceholder msg.sliceConf.dl.slices := by
    rw [orPlaceholder]
    split
    · exact ⟨none, List.mem_singleton_self _⟩
    · next hne =>
      obtain ⟨s, hs⟩ := List.exists_mem_of_ne_nil _ hne
      exact ⟨some s, List.mem_map_of_mem hs⟩
  refine ⟨?_, fun s hs => ?_, fun s hs => ?_, fun s hs scn19 hparams => ?_⟩
  · obtain ⟨s, hs⟩ := hne
    obtain ⟨_, _, _, hprinted⟩ := hput s hs
    exact (lt_of_toSqlStringSliceRb id msg.tstamp hprinted).1
  · obtain ⟨_, _, _, hprinted⟩ := hput _ (hmem s hs)
    exact ((lt_of_toSqlStringSliceRb id msg.tstamp hprinted).2 s rfl).1
  · obtain ⟨_, _, _, hprinted⟩ := hput _ (hmem s hs)
    exact ((lt_of_toSqlStringSliceRb id msg.tstamp hprinted).2 s rfl).2
  · have hsql := List.mem_map_of_mem (hmem s hs)
      (f := sliceSql id msg.tstamp msg.sliceConf.dl)
    rw [hsqls, sliceSql, sliceRbText, hparams] at hsql
    obtain ⟨sql, -, hsql⟩ := List.mem_map.1 hsql
    cases hsql

/-- Slices and associations. -/
theorem writeSliceStats_iff {msg : SliceIndMsg}
    (hslices : ∀ sql ∈ sliceSqls id msg, sql.length < 1024)
    (hues : ∀ sql ∈ ueSliceSqls id msg, sql.length < 512) :
    (∃ sqls : List (List UInt8), (orPlaceholder msg.sliceConf.dl.slices).map
        (sliceSql id msg.tstamp msg.sliceConf.dl) = sqls.map some ∧
      writeSliceStats id msg = returns [sqls.flatten, (ueSliceSqls id msg).flatten]) ↔
      SliceRoom id msg := by
  constructor
  · rintro ⟨sqls, hsqls, h⟩
    rw [writeSliceStats, bind_eq_returns] at h
    obtain ⟨slices, hconf, h⟩ := h
    rw [bind_eq_returns] at h
    obtain ⟨ues, hue, -⟩ := h
    have hstated := stated_of_writeSliceConfStats id hsqls hconf
    rw [(writeSliceConfStats_eq id hstated hslices).2] at hconf
    rw [writeUeSliceConfStats_eq id hues] at hue
    refine ⟨hstated, ?_, ?_⟩
    · by_contra hroom
      rw [if_neg hroom] at hconf
      cases hconf
    · by_contra hroom
      rw [if_neg hroom] at hue
      cases hue
  · rintro ⟨hstated, hslicesRoom, huesRoom⟩
    obtain ⟨hsqls, hconf⟩ := writeSliceConfStats_eq id hstated hslices
    refine ⟨sliceSqls id msg, hsqls, ?_⟩
    rw [writeSliceStats, hconf, if_pos hslicesRoom, returns_bind, writeUeSliceConfStats_eq id hues,
      if_pos huesRoom]
    rfl

/-! ## Messages -/

/-- Records of one kind. -/
theorem insertDb_iff {A : Type} {max : ℕ} {records : List A} {sql : A → List UInt8}
    {put : A → List UInt8 → ℕ → Outcome (List UInt8 × ℤ)} (hmax : max ≤ 2048)
    (hput : ∀ r ∈ records, (sql r).length < max → Prints max 2048 2048 (sql r) (put r))
    (hfits : ∀ t ∈ records.map sql, t.length < max) (hzero : ∀ r ∈ records, 0 ∉ sql r) :
    (do
      let buffer ← writeRecords put records (List.replicate 2048 0) 0
      let t ← insertDb buffer
      return [t]) = returns [(records.map sql).flatten] ↔ Roomy max 2048 (records.map sql) := by
  have hfit : ∀ r ∈ records, (sql r).length < max := fun r hr => hfits _ (List.mem_map_of_mem hr)
  rw [← bind_assoc, insertDb_writeRecords le_rfl (by decide) hmax
    (fun r hr => hput r hr (hfit r hr)) hfit hzero]
  split
  · next hroom => exact iff_of_true rfl hroom
  · next hroom => exact iff_of_false (fun h => by cases h) hroom

theorem writeMacStats_iff {msg : MacIndMsg} (hfits : ∀ sql ∈ macSqls id msg, sql.length < 1024) :
    writeMacStats id msg = returns [(macSqls id msg).flatten] ↔
      Roomy 1024 2048 (macSqls id msg) :=
  insertDb_iff (by decide)
    (fun _ _ h => prints_toSqlString (fun _ => 1024) h (by decide) le_rfl (by decide)
      fun _ _ => le_rfl) hfits fun _ _ => zero_notMem_macUeText _ _ _

theorem writeRlcStats_iff {msg : RlcIndMsg} (hfits : ∀ sql ∈ rlcSqls id msg, sql.length < 1024) :
    writeRlcStats id msg = returns [(rlcSqls id msg).flatten] ↔
      Roomy 1024 2048 (rlcSqls id msg) :=
  insertDb_iff (by decide)
    (fun _ _ h => prints_toSqlString (fun _ => 1024) h (by decide) le_rfl (by decide)
      fun _ _ => le_rfl) hfits fun _ _ => zero_notMem_rlcRbText _ _ _

theorem writePdcpStats_iff {msg : PdcpIndMsg} (hfits : ∀ sql ∈ pdcpSqls id msg, sql.length < 512) :
    writePdcpStats id msg = returns [(pdcpSqls id msg).flatten] ↔
      Roomy 512 2048 (pdcpSqls id msg) :=
  insertDb_iff (by decide)
    (fun _ _ h => prints_toSqlString (fun n => n) h (by decide) le_rfl (by decide)
      fun _ hle => hle) hfits fun _ _ => zero_notMem_pdcpRbText _ _ _

theorem writeGtpStats_iff {msg : GtpIndMsg} (hfits : ∀ sql ∈ gtpSqls id msg, sql.length < 1024) :
    writeGtpStats id msg = returns [(gtpSqls id msg).flatten] ↔
      Roomy 1024 2048 (gtpSqls id msg) :=
  insertDb_iff (by decide)
    (fun _ _ h => prints_toSqlString (fun _ => 1024) h (by decide) le_rfl (by decide)
      fun _ _ => le_rfl) hfits fun _ _ => zero_notMem_gtpNGUTText _ _ _

/-- The statements of all records reach the database if and only if there is room for them, and for
slices also local room for the names and no slice of SCN19. -/
theorem writeStats_iff (mac : MacIndMsg) (rlc : RlcIndMsg) (pdcp : PdcpIndMsg) (gtp : GtpIndMsg)
    (slice : SliceIndMsg) (hmac : ∀ sql ∈ macSqls id mac, sql.length < 1024)
    (hrlc : ∀ sql ∈ rlcSqls id rlc, sql.length < 1024)
    (hpdcp : ∀ sql ∈ pdcpSqls id pdcp, sql.length < 512)
    (hgtp : ∀ sql ∈ gtpSqls id gtp, sql.length < 1024)
    (hslices : ∀ sql ∈ sliceSqls id slice, sql.length < 1024)
    (hues : ∀ sql ∈ ueSliceSqls id slice, sql.length < 512) :
    (writeMacStats id mac = returns [(macSqls id mac).flatten] ↔
        Roomy 1024 2048 (macSqls id mac)) ∧
      (writeRlcStats id rlc = returns [(rlcSqls id rlc).flatten] ↔
        Roomy 1024 2048 (rlcSqls id rlc)) ∧
      (writePdcpStats id pdcp = returns [(pdcpSqls id pdcp).flatten] ↔
        Roomy 512 2048 (pdcpSqls id pdcp)) ∧
      (writeGtpStats id gtp = returns [(gtpSqls id gtp).flatten] ↔
        Roomy 1024 2048 (gtpSqls id gtp)) ∧
      ((∃ sqls : List (List UInt8), (orPlaceholder slice.sliceConf.dl.slices).map
          (sliceSql id slice.tstamp slice.sliceConf.dl) = sqls.map some ∧
        writeSliceStats id slice = returns [sqls.flatten, (ueSliceSqls id slice).flatten]) ↔
        SliceRoom id slice) :=
  ⟨writeMacStats_iff id hmac, writeRlcStats_iff id hrlc, writePdcpStats_iff id hpdcp,
    writeGtpStats_iff id hgtp, writeSliceStats_iff id hslices hues⟩

/-- As many MAC records without any traffic. -/
def idleUes (n : ℕ) : MacIndMsg := ⟨List.replicate n (MacUeStatsImpl.ofBytes []), 0⟩

/-- One slice and its UE. -/
def edfSlice : SliceIndMsg where
  sliceConf := ⟨⟨[⟨1, ascii "s1", ascii "PF", .edf ⟨50, 20, 60, []⟩⟩], ascii "EDF"⟩, ⟨[], []⟩⟩
  ueSliceConf := ⟨[⟨4660, 1, 0⟩]⟩
  tstamp := 0

/-- One record of each kind. -/
theorem writeStats_iff_one :
    writeMacStats gnb (idleUes 1) = returns [(macSqls gnb (idleUes 1)).flatten] ∧
      ∃ sqls : List (List UInt8), (orPlaceholder edfSlice.sliceConf.dl.slices).map
          (sliceSql gnb edfSlice.tstamp edfSlice.sliceConf.dl) = sqls.map some ∧
        writeSliceStats gnb edfSlice =
          returns [sqls.flatten, (ueSliceSqls gnb edfSlice).flatten] := by
  obtain ⟨hmac, -, -, -, hslice⟩ := writeStats_iff gnb (idleUes 1)
    ⟨[RlcRadioBearerStats.ofBytes []], 0⟩ ⟨[PdcpRadioBearerStats.ofBytes []], 0⟩
    ⟨[GtpNguTStats.ofBytes []], 0⟩ edfSlice (by decide +kernel) (by decide +kernel)
    (by decide +kernel) (by decide +kernel) (by decide +kernel) (by decide +kernel)
  refine ⟨hmac.2 (by decide +kernel), hslice.2 ⟨⟨?_, ?_, ?_, ?_⟩, ?_, ?_⟩⟩
  · decide
  · decide
  · decide
  · intro s hs scn19 hparams
    cases List.mem_singleton.1 hs
    cases hparams
  · decide +kernel
  · decide +kernel

/-- Nine statements would take less than the buffer, but there is no room for the longest one before
the last. -/
theorem not_writeMacStats_idleUes :
    (∀ sql ∈ macSqls gnb (idleUes 9), sql.length < 1024) ∧
      (macSqls gnb (idleUes 9)).flatten.length < 2048 ∧
      writeMacStats gnb (idleUes 9) ≠ returns [(macSqls gnb (idleUes 9)).flatten] := by
  have hfits : ∀ sql ∈ macSqls gnb (idleUes 9), sql.length < 1024 := by decide +kernel
  refine ⟨hfits, by decide +kernel, fun h => ?_⟩
  have hroom := (writeMacStats_iff gnb hfits).1 h
  revert hroom
  decide +kernel

end FlexRic
