import FlexRic.Sm.Stats.DataIe

/-!
# The encoders of the statistics service models

The encoders of the indication messages in `mac_sm/enc/mac_enc_plain.c`,
`pdcp_sm/enc/pdcp_enc_plain.c` and `gtp_sm/enc/gtp_enc_plain.c`. Each writes the number of the
records, the records as they are in memory, and the time stamp. The number of the bytes is computed
with 64 bits; the MAC encoder keeps 32 of them before it asks for the memory, which can always be
allocated.
-/

namespace FlexRic

/-! ## Messages in memory -/

/-- A struct in memory: there may be anything in its padding. -/
structure Stored (Stats : Type) (padding : ℕ) : Type where
  fields : Stats
  pad : Vector UInt8 padding

/-- An indication message in memory: the number of its records has 32 bits. -/
structure StoredIndMsg (Stats : Type) (padding : ℕ) : Type where
  stats : List (Stored Stats padding)
  tstamp : Int64
  count : stats.length < 2 ^ 32

/-- The message without the padding. -/
def StoredIndMsg.values {Stats : Type} {padding : ℕ} (msg : StoredIndMsg Stats padding) :
    StatsIndMsg Stats where
  stats := msg.stats.map Stored.fields
  tstamp := msg.tstamp

/-! ## The bytes of a record -/

/-- The bytes of the fields. -/
def MacUeStatsImpl.toBytes (r : MacUeStatsImpl) : List UInt8 :=
  [wordBytes 8 r.dlAggrTbs.toNat,
    wordBytes 8 r.ulAggrTbs.toNat,
    wordBytes 8 r.dlAggrBytesSdus.toNat,
    wordBytes 8 r.ulAggrBytesSdus.toNat,
    wordBytes 8 r.dlCurrTbs.toNat,
    wordBytes 8 r.ulCurrTbs.toNat,
    wordBytes 8 r.dlSchedRb.toNat,
    wordBytes 8 r.ulSchedRb.toNat,
    wordBytes 4 r.puschSnr.toNat,
    wordBytes 4 r.pucchSnr.toNat,
    wordBytes 4 r.dlBler.toNat,
    wordBytes 4 r.ulBler.toNat,
    arrayBytes r.dlHarq.toList,
    arrayBytes r.ulHarq.toList,
    wordBytes 4 r.dlNumHarq.toNat,
    wordBytes 4 r.ulNumHarq.toNat,
    wordBytes 4 r.rnti.toNat,
    wordBytes 4 r.dlAggrPrb.toNat,
    wordBytes 4 r.ulAggrPrb.toNat,
    wordBytes 4 r.dlAggrSdus.toNat,
    wordBytes 4 r.ulAggrSdus.toNat,
    wordBytes 4 r.dlAggrRetxPrb.toNat,
    wordBytes 4 r.ulAggrRetxPrb.toNat,
    wordBytes 4 r.bsr.toNat,
    wordBytes 2 r.frame.toNat,
    wordBytes 2 r.slot.toNat,
    wordBytes 1 r.wbCqi.toNat,
    wordBytes 1 r.dlMcs1.toNat,
    wordBytes 1 r.ulMcs1.toNat,
    wordBytes 1 r.dlMcs2.toNat,
    wordBytes 1 r.ulMcs2.toNat,
    wordBytes 1 r.phr.toUInt8.toNat].flatten

/-- The bytes of the fields. -/
def PdcpRadioBearerStats.toBytes (r : PdcpRadioBearerStats) : List UInt8 :=
  [wordBytes 4 r.txpduPkts.toNat,
    wordBytes 4 r.txpduBytes.toNat,
    wordBytes 4 r.txpduSn.toNat,
    wordBytes 4 r.rxpduPkts.toNat,
    wordBytes 4 r.rxpduBytes.toNat,
    wordBytes 4 r.rxpduSn.toNat,
    wordBytes 4 r.rxpduOoPkts.toNat,
    wordBytes 4 r.rxpduOoBytes.toNat,
    wordBytes 4 r.rxpduDdPkts.toNat,
    wordBytes 4 r.rxpduDdBytes.toNat,
    wordBytes 4 r.rxpduRoCount.toNat,
    wordBytes 4 r.txsduPkts.toNat,
    wordBytes 4 r.txsduBytes.toNat,
    wordBytes 4 r.rxsduPkts.toNat,
    wordBytes 4 r.rxsduBytes.toNat,
    wordBytes 4 r.rnti.toNat,
    wordBytes 1 r.mode.toNat,
    wordBytes 1 r.rbid.toNat].flatten

/-- The bytes of the fields. -/
def GtpNguTStats.toBytes (r : GtpNguTStats) : List UInt8 :=
  [wordBytes 4 r.rnti.toNat,
    wordBytes 4 r.teidgnb.toNat,
    wordBytes 1 r.qfi.toNat,
    wordBytes 1 r.teidupf.toNat].flatten

/-! ## The encoders -/

/-- What the encoders copy, one after the other. -/
def statsIndMsgLayout {Stats : Type} {padding : ℕ} (toBytes : Stats → List UInt8)
    (msg : StoredIndMsg Stats padding) : Layout :=
  Layout.u32 (UInt32.ofNat msg.stats.length) ++
    msg.stats.flatMap (fun r => [.field (toBytes r.fields ++ r.pad.toList)]) ++
    Layout.i64 msg.tstamp

/-- `mac_enc_ind_msg_plain`: the variable `len` has 32 bits. -/
def macEncIndMsgPlain (msg : StoredIndMsg MacUeStatsImpl 6) : Option (List UInt8) :=
  let len : UInt32 := UInt64.toUInt32
    (UInt64.ofNat (4 + MacUeStatsImpl.sizeof * msg.stats.length + 8))
  (statsIndMsgLayout MacUeStatsImpl.toBytes msg).emit len.toNat []

/-- `pdcp_enc_ind_msg_plain`. -/
def pdcpEncIndMsgPlain (msg : StoredIndMsg PdcpRadioBearerStats 2) : Option (List UInt8) :=
  let sz : UInt64 := UInt64.ofNat (4 + 8 + PdcpRadioBearerStats.sizeof * msg.stats.length)
  (statsIndMsgLayout PdcpRadioBearerStats.toBytes msg).emit sz.toNat []

/-- `gtp_enc_ind_msg_plain`. -/
def gtpEncIndMsgPlain (msg : StoredIndMsg GtpNguTStats 2) : Option (List UInt8) :=
  let sz : UInt64 := UInt64.ofNat (4 + GtpNguTStats.sizeof * msg.stats.length + 8)
  (statsIndMsgLayout GtpNguTStats.toBytes msg).emit sz.toNat []

/-! ## Sizes -/

theorem MacUeStatsImpl.length_toBytes (r : MacUeStatsImpl) : r.toBytes.length = 170 := by
  simp [toBytes]

theorem PdcpRadioBearerStats.length_toBytes (r : PdcpRadioBearerStats) :
    r.toBytes.length = 66 := by
  simp [toBytes]

theorem GtpNguTStats.length_toBytes (r : GtpNguTStats) : r.toBytes.length = 10 := by
  simp [toBytes]

section Layout

variable {Stats : Type} {padding size : ℕ} {toBytes : Stats → List UInt8}

theorem plain_statsIndMsgLayout (msg : StoredIndMsg Stats padding) :
    (statsIndMsgLayout toBytes msg).Plain := by
  refine Layout.plain_append.2 ⟨Layout.plain_append.2
    ⟨Layout.plain_u32 _, Layout.plain_flatMap.2 fun r _ => ?_⟩, Layout.plain_i64 _⟩
  simp [Layout.Plain]

/-- The records are of one size. -/
theorem length_bytes_records (hsize : ∀ r, (toBytes r).length + padding = size)
    (rs : List (Stored Stats padding)) :
    (Layout.bytes (rs.flatMap fun r => [.field (toBytes r.fields ++ r.pad.toList)])).length =
      size * rs.length := by
  induction rs with
  | nil => rfl
  | cons r rs ih =>
    rw [List.flatMap_cons, Layout.bytes_append, List.length_append, ih, Layout.bytes_field,
      Layout.bytes_nil, List.append_nil, List.length_append, Vector.length_toList, hsize,
      List.length_cons, Nat.mul_succ, Nat.add_comm]

theorem length_statsIndMsgLayout (hsize : ∀ r, (toBytes r).length + padding = size)
    (msg : StoredIndMsg Stats padding) :
    (statsIndMsgLayout toBytes msg).bytes.length = 12 + size * msg.stats.length := by
  rw [statsIndMsgLayout, Layout.bytes_append, Layout.bytes_append, List.length_append,
    List.length_append, length_bytes_records hsize, Layout.length_bytes_u32,
    Layout.length_bytes_i64]
  omega

end Layout

/-! ## Reading a record back -/

/-- A record is read back from its bytes, whatever the padding is. -/
theorem GtpNguTStats.ofBytes_toBytes (r : GtpNguTStats) (pad : List UInt8) :
    ofBytes (r.toBytes ++ pad) = r := by
  simp [toBytes, ofBytes, u32At_append, u8At_append, u32At_wordBytes, u8At_wordBytes]

theorem PdcpRadioBearerStats.ofBytes_toBytes (r : PdcpRadioBearerStats) (pad : List UInt8) :
    ofBytes (r.toBytes ++ pad) = r := by
  simp [toBytes, ofBytes, u32At_append, u8At_append, u32At_wordBytes, u8At_wordBytes]

theorem MacUeStatsImpl.ofBytes_toBytes (r : MacUeStatsImpl) (pad : List UInt8) :
    ofBytes (r.toBytes ++ pad) = r := by
  have hdl : (Vector.ofFn fun i : Fin 5 => u32At (r.toBytes ++ pad) (80 + 4 * i)) = r.dlHarq := by
    simp only [u32At_add (r.toBytes ++ pad) 80]
    simp [toBytes, List.drop_append, List.drop_eq_nil_of_le, ofFn_u32At]
  have hul : (Vector.ofFn fun i : Fin 5 => u32At (r.toBytes ++ pad) (100 + 4 * i)) = r.ulHarq := by
    simp only [u32At_add (r.toBytes ++ pad) 100]
    simp [toBytes, List.drop_append, List.drop_eq_nil_of_le, ofFn_u32At]
  rw [ofBytes, hdl, hul]
  simp [toBytes, u64At_append, u32At_append, u16At_append, u8At_append, u64At_wordBytes,
    u32At_wordBytes, u16At_wordBytes, u8At_wordBytes]

end FlexRic
