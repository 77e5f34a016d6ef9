import FlexRic.Sm.Stats.DecPlain
import FlexRic.Sm.Stats.EncPlain

/-!
# Round trips of the statistics service models

What the plain encoders of the MAC, PDCP and GTP service models send is read back by the plain
decoders. The encoders of PDCP and GTP ask for as much memory as they write, however many records
there are. The MAC encoder asks for too little from 24403224 records on, where the number of the
bytes has more than 32 bits.
-/

namespace FlexRic

open Decoder

/-! ## Decoding what was written -/

section Records

variable {Stats : Type} {padding size : ℕ} {toBytes : Stats → List UInt8}
  {ofBytes : List UInt8 → Stats}

theorem u32_wordBytes (v : UInt32) (bs : List UInt8) :
    u32 (wordBytes 4 v.toNat ++ bs) = .done v bs :=
  (Format.u32.done_iff _ _ _).2 ⟨trivial, bs, rfl, rfl⟩

theorem i64_wordBytes (v : Int64) (bs : List UInt8) :
    i64 (wordBytes 8 v.toUInt64.toNat ++ bs) = .done v bs :=
  (Format.i64.done_iff _ _ _).2 ⟨trivial, bs, rfl, rfl⟩

/-- A record is copied with its padding, which does not count. -/
theorem take_record (hsize : ∀ r, (toBytes r).length + padding = size)
    (hof : ∀ r pad, ofBytes (toBytes r ++ pad) = r) (r : Stored Stats padding) (bs : List UInt8) :
    (ofBytes <$> take size) (toBytes r.fields ++ r.pad.toList ++ bs) = .done r.fields bs := by
  have hlen : (toBytes r.fields ++ r.pad.toList).length = size := by
    rw [List.length_append, Vector.length_toList, hsize]
  have htake : take size (toBytes r.fields ++ r.pad.toList ++ bs) =
      .done (toBytes r.fields ++ r.pad.toList) bs :=
    ((Format.take size).done_iff _ _ _).2 ⟨hlen, bs, rfl, rfl⟩
  rw [← bind_pure_comp, bind_apply, htake]
  exact congrArg (Decoded.done · bs) (hof r.fields r.pad.toList)

theorem repeatN_records (hsize : ∀ r, (toBytes r).length + padding = size)
    (hof : ∀ r pad, ofBytes (toBytes r ++ pad) = r) (rs : List (Stored Stats padding))
    (bs : List UInt8) :
    repeatN (ofBytes <$> take size) rs.length
        (Layout.bytes (rs.flatMap fun r => [.field (toBytes r.fields ++ r.pad.toList)]) ++ bs) =
      .done (rs.map Stored.fields) bs := by
  induction rs with
  | nil => rfl
  | cons r rs ih =>
    rw [List.flatMap_cons, Layout.bytes_append, Layout.bytes_field, Layout.bytes_nil,
      List.append_nil, List.append_assoc, List.length_cons, repeatN, bind_apply,
      take_record hsize hof]
    change (repeatN (ofBytes <$> take size) rs.length >>= fun as => pure (r.fields :: as)) _ = _
    rw [bind_apply, ih]
    rfl

/-- The decoders read back what the layout says. -/
theorem statsDecIndMsg_layout (hsize : ∀ r, (toBytes r).length + padding = size)
    (hof : ∀ r pad, ofBytes (toBytes r ++ pad) = r) (msg : StoredIndMsg Stats padding) :
    (statsDecIndMsg size ofBytes).last (statsIndMsgLayout toBytes msg).bytes =
      .done msg.values [] := by
  have hcount : (UInt32.ofNat msg.stats.length).toNat = msg.stats.length :=
    UInt32.toNat_ofNat_of_lt' msg.count
  have hi64 : (Layout.i64 msg.tstamp).bytes = wordBytes 8 msg.tstamp.toUInt64.toNat ++ [] := rfl
  refine last_eq_done.2 ⟨?_, rfl⟩
  rw [statsIndMsgLayout, Layout.bytes_append, Layout.bytes_append, List.append_assoc,
    statsDecIndMsg, bind_apply, Layout.u32, Layout.bytes_field, Layout.bytes_nil, List.append_nil,
    u32_wordBytes]
  change (repeatN (ofBytes <$> take size) (UInt32.ofNat msg.stats.length).toNat >>= fun stats =>
    i64 >>= fun tstamp => pure ⟨stats, tstamp⟩ : Decoder (StatsIndMsg Stats)) _ = _
  rw [hcount, bind_apply, repeatN_records hsize hof]
  change (i64 >>= fun tstamp => pure ⟨msg.stats.map Stored.fields, tstamp⟩ :
    Decoder (StatsIndMsg Stats)) _ = _
  rw [bind_apply, hi64, i64_wordBytes]
  rfl

end Records

/-! ## The codecs -/

/-- The encoder asks for exactly as many bytes as it writes, and the decoder makes the message of
them. -/
def StoredIndMsg.Survives {Stats : Type} {padding : ℕ} (msg : StoredIndMsg Stats padding)
    (size : ℕ) (enc : StoredIndMsg Stats padding → Option (List UInt8))
    (dec : Decoder (StatsIndMsg Stats)) : Prop :=
  ∃ bs, enc msg = some bs ∧ bs.length = 4 + size * msg.stats.length + 8 ∧
    dec bs = .done msg.values []

section Codec

variable {Stats : Type} {padding size sz : ℕ} {toBytes : Stats → List UInt8}
  {ofBytes : List UInt8 → Stats}

/-- An encoder that writes the layout into a buffer of `sz` bytes. -/
theorem survives_iff (hsize : ∀ r, (toBytes r).length + padding = size)
    (hof : ∀ r pad, ofBytes (toBytes r ++ pad) = r) (msg : StoredIndMsg Stats padding)
    {enc : StoredIndMsg Stats padding → Option (List UInt8)}
    (henc : enc msg = (statsIndMsgLayout toBytes msg).emit sz []) :
    msg.Survives size enc (statsDecIndMsg size ofBytes).last ↔
      sz = 4 + size * msg.stats.length + 8 := by
  have hlen := length_statsIndMsgLayout hsize msg
  constructor
  · rintro ⟨bs, hbs, hsz, -⟩
    rw [henc] at hbs
    rw [← (Layout.eq_of_emit hbs).2, hsz]
  · rintro rfl
    refine ⟨(statsIndMsgLayout toBytes msg).bytes, ?_, by rw [hlen]; omega,
      statsDecIndMsg_layout hsize hof msg⟩
    rw [henc, (plain_statsIndMsgLayout msg).emit_eq [] (by rw [List.nil_append, hlen]; omega),
      List.nil_append]

/-- The messages are long enough for an assertion of a decoder. -/
theorem StoredIndMsg.Survives.assertLen {msg : StoredIndMsg Stats padding}
    {enc : StoredIndMsg Stats padding → Option (List UInt8)} {dec : Decoder (StatsIndMsg Stats)}
    (h : msg.Survives size enc dec) {p : ℕ → Prop} [DecidablePred p]
    (hp : p (4 + size * msg.stats.length + 8)) :
    msg.Survives size enc (assertLen p >>= fun _ => dec) := by
  obtain ⟨bs, hbs, hlen, hdone⟩ := h
  refine ⟨bs, hbs, hlen, ?_⟩
  rw [bind_apply, Decoder.assertLen, if_pos (hlen ▸ hp)]
  exact hdone

end Codec

theorem mac_survives_iff (msg : StoredIndMsg MacUeStatsImpl 6) :
    msg.Survives MacUeStatsImpl.sizeof macEncIndMsgPlain macDecIndMsgPlain ↔
      msg.stats.length ≤ 24403223 := by
  have hcount := msg.count
  have hsz : (UInt64.ofNat (4 + 176 * msg.stats.length + 8)).toUInt32.toNat =
      (4 + 176 * msg.stats.length + 8) % 2 ^ 32 := by
    rw [UInt64.toNat_toUInt32, UInt64.toNat_ofNat', Nat.mod_mod_of_dvd _ (by decide)]
  refine (survives_iff (fun r => by rw [r.length_toBytes]; rfl) MacUeStatsImpl.ofBytes_toBytes msg
    rfl).trans ?_
  rw [MacUeStatsImpl.sizeof, hsz]
  omega

theorem pdcp_survives (msg : StoredIndMsg PdcpRadioBearerStats 2) :
    msg.Survives PdcpRadioBearerStats.sizeof pdcpEncIndMsgPlain pdcpDecIndMsgPlain := by
  have hcount := msg.count
  refine StoredIndMsg.Survives.assertLen ((survives_iff (fun r => by rw [r.length_toBytes]; rfl)
    PdcpRadioBearerStats.ofBytes_toBytes msg rfl).2 ?_) (by omega)
  rw [PdcpRadioBearerStats.sizeof, UInt64.toNat_ofNat_of_lt' (by rw [UInt64.size]; omega)]
  omega

theorem gtp_survives (msg : StoredIndMsg GtpNguTStats 2) :
    msg.Survives GtpNguTStats.sizeof gtpEncIndMsgPlain gtpDecIndMsgPlain := by
  have hcount := msg.count
  refine StoredIndMsg.Survives.assertLen ((survives_iff (fun r => by rw [r.length_toBytes]; rfl)
    GtpNguTStats.ofBytes_toBytes msg rfl).2 ?_) ?_
  · rw [GtpNguTStats.sizeof, UInt64.toNat_ofNat_of_lt' (by rw [UInt64.size]; omega)]
  · rw [GtpNguTStats.sizeof, le_nextPow2_iff (by omega)]
    omega

/-- The messages of PDCP and GTP survive with any number of records, and those of MAC if and only
if there are at most 24403223 records. -/
theorem statsCodecs_survive_iff (mac : StoredIndMsg MacUeStatsImpl 6)
    (pdcp : StoredIndMsg PdcpRadioBearerStats 2) (gtp : StoredIndMsg GtpNguTStats 2) :
    (mac.Survives MacUeStatsImpl.sizeof macEncIndMsgPlain macDecIndMsgPlain ↔
        mac.stats.length ≤ 24403223) ∧
      pdcp.Survives PdcpRadioBearerStats.sizeof pdcpEncIndMsgPlain pdcpDecIndMsgPlain ∧
      gtp.Survives GtpNguTStats.sizeof gtpEncIndMsgPlain gtpDecIndMsgPlain :=
  ⟨mac_survives_iff mac, pdcp_survives pdcp, gtp_survives gtp⟩

/-- A message with 24403224 times the same record. -/
def manyMacStats : StoredIndMsg MacUeStatsImpl 6 where
  stats := List.replicate 24403224 ⟨MacUeStatsImpl.ofBytes [], Vector.replicate 6 0⟩
  tstamp := 0
  count := List.length_replicate.trans_lt (by decide)

/-- The MAC encoder asks for 140 bytes, and has no memory for the first record already. -/
theorem manyMacStats_not_survives : macEncIndMsgPlain manyMacStats = none ∧
    ¬manyMacStats.Survives MacUeStatsImpl.sizeof macEncIndMsgPlain macDecIndMsgPlain := by
  have hlen : manyMacStats.stats.length = 24403224 := List.length_replicate
  have hnone : macEncIndMsgPlain manyMacStats = none := by
    cases henc : macEncIndMsgPlain manyMacStats with
    | none => rfl
    | some bs =>
      have hsize : ∀ r : MacUeStatsImpl, r.toBytes.length + 6 = 176 := fun r => by
        rw [r.length_toBytes]
      obtain ⟨rfl, hsz⟩ := Layout.eq_of_emit henc
      rw [List.nil_append, length_statsIndMsgLayout hsize, hlen] at hsz
      exact absurd hsz (by decide)
  refine ⟨hnone, ?_⟩
  rintro ⟨bs, hbs, -⟩
  rw [hnone] at hbs
  cases hbs

end FlexRic
