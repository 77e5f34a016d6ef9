import FlexRic.AlgDs.EqFloat
import FlexRic.Sm.Stats.DataIe

/-!
# Equality of statistics messages

`eq_mac_ind_msg` (`mac_sm/ie/mac_data_ie.c`), `eq_rlc_ind_msg` (`rlc_sm/ie/rlc_data_ie.c`),
`eq_pdcp_ind_msg` (`pdcp_sm/ie/pdcp_data_ie.c`) and `eq_gtp_ind_msg` (`gtp_sm/ie/gtp_data_ie.c`).
The first compares the SNR of the PUCCH with itself, and the third stops at an assertion wherever
it has found a difference.
-/

namespace FlexRic

open Outcome

/-! ## The code -/

/-- The tolerance of the SNRs. -/
def snrEps : Float := 0.0000001

/-- The body of the loop in `eq_mac_ind_msg`: the last comparison is of the first record with
itself. -/
def eqMacUeStatsImpl (ue₀ ue₁ : MacUeStatsImpl) : Outcome Bool :=
  allOf [
    test (ue₀.dlAggrTbs = ue₁.dlAggrTbs ∧ ue₀.ulAggrTbs = ue₁.ulAggrTbs ∧
      ue₀.dlAggrBytesSdus = ue₁.dlAggrBytesSdus ∧ ue₀.ulAggrBytesSdus = ue₁.ulAggrBytesSdus ∧
      ue₀.dlCurrTbs = ue₁.dlCurrTbs ∧ ue₀.ulCurrTbs = ue₁.ulCurrTbs ∧
      ue₀.dlSchedRb = ue₁.dlSchedRb ∧ ue₀.ulSchedRb = ue₁.ulSchedRb ∧
      ue₀.rnti = ue₁.rnti ∧ ue₀.dlAggrPrb = ue₁.dlAggrPrb ∧ ue₀.ulAggrPrb = ue₁.ulAggrPrb ∧
      ue₀.dlAggrSdus = ue₁.dlAggrSdus ∧ ue₀.ulAggrSdus = ue₁.ulAggrSdus ∧
      ue₀.dlAggrRetxPrb = ue₁.dlAggrRetxPrb ∧ ue₀.ulAggrRetxPrb = ue₁.ulAggrRetxPrb ∧
      ue₀.wbCqi = ue₁.wbCqi ∧ ue₀.dlMcs1 = ue₁.dlMcs1 ∧ ue₀.ulMcs1 = ue₁.ulMcs1 ∧
      ue₀.dlMcs2 = ue₁.dlMcs2 ∧ ue₀.ulMcs2 = ue₁.ulMcs2 ∧ ue₀.phr = ue₁.phr ∧
      ue₀.bsr = ue₁.bsr ∧ FloatEq ue₀.dlBler ue₁.dlBler ∧ FloatEq ue₀.ulBler ue₁.ulBler ∧
      ue₀.dlNumHarq = ue₁.dlNumHarq ∧ ue₀.dlHarq[0] = ue₁.dlHarq[0] ∧
      ue₀.dlHarq[1] = ue₁.dlHarq[1] ∧ ue₀.dlHarq[2] = ue₁.dlHarq[2] ∧
      ue₀.dlHarq[3] = ue₁.dlHarq[3] ∧ ue₀.dlHarq[4] = ue₁.dlHarq[4] ∧
      ue₀.ulNumHarq = ue₁.ulNumHarq ∧ ue₀.ulHarq[0] = ue₁.ulHarq[0] ∧
      ue₀.ulHarq[1] = ue₁.ulHarq[1] ∧ ue₀.ulHarq[2] = ue₁.ulHarq[2] ∧
      ue₀.ulHarq[3] = ue₁.ulHarq[3] ∧ ue₀.ulHarq[4] = ue₁.ulHarq[4] ∧
      ue₀.frame = ue₁.frame ∧ ue₀.slot = ue₁.slot),
    eqFloat (.ofBits ue₀.puschSnr) (.ofBits ue₁.puschSnr) snrEps,
    eqFloat (.ofBits ue₀.pucchSnr) (.ofBits ue₀.pucchSnr) snrEps]

/-- `eq_mac_ind_msg`. -/
def eqMacIndMsg (m₀ m₁ : MacIndMsg) : Outcome Bool :=
  allOf [test (m₀.stats.length = m₁.stats.length ∧ m₀.tstamp = m₁.tstamp),
    eqArray eqMacUeStatsImpl m₀.stats m₁.stats]

/-- The body of the loop in `eq_rlc_ind_msg`. -/
def eqRlcRadioBearerStats (rb₀ rb₁ : RlcRadioBearerStats) : Outcome Bool :=
  test (rb₀.txpduPkts = rb₁.txpduPkts ∧ rb₀.txpduBytes = rb₁.txpduBytes ∧
    rb₀.txpduWtMs = rb₁.txpduWtMs ∧ rb₀.txpduDdPkts = rb₁.txpduDdPkts ∧
    rb₀.txpduDdBytes = rb₁.txpduDdBytes ∧ rb₀.txpduRetxPkts = rb₁.txpduRetxPkts ∧
    rb₀.txpduRetxBytes = rb₁.txpduRetxBytes ∧ rb₀.txpduSegmented = rb₁.txpduSegmented ∧
    rb₀.txpduStatusPkts = rb₁.txpduStatusPkts ∧ rb₀.txpduStatusBytes = rb₁.txpduStatusBytes ∧
    rb₀.txbufOccBytes = rb₁.txbufOccBytes ∧ rb₀.txbufOccPkts = rb₁.txbufOccPkts ∧
    rb₀.rxpduPkts = rb₁.rxpduPkts ∧ rb₀.rxpduBytes = rb₁.rxpduBytes ∧
    rb₀.rxpduDupPkts = rb₁.rxpduDupPkts ∧ rb₀.rxpduDupBytes = rb₁.rxpduDupBytes ∧
    rb₀.rxpduDdPkts = rb₁.rxpduDdPkts ∧ rb₀.rxpduDdBytes = rb₁.rxpduDdBytes ∧
    rb₀.rxpduOwPkts = rb₁.rxpduOwPkts ∧ rb₀.rxpduOwBytes = rb₁.rxpduOwBytes ∧
    rb₀.rxpduStatusPkts = rb₁.rxpduStatusPkts ∧ rb₀.rxpduStatusBytes = rb₁.rxpduStatusBytes ∧
    rb₀.rxbufOccBytes = rb₁.rxbufOccBytes ∧ rb₀.rxbufOccPkts = rb₁.rxbufOccPkts ∧
    rb₀.txsduPkts = rb₁.txsduPkts ∧ rb₀.txsduBytes = rb₁.txsduBytes ∧
    rb₀.rxsduPkts = rb₁.rxsduPkts ∧ rb₀.rxsduBytes = rb₁.rxsduBytes ∧
    rb₀.rxsduDdPkts = rb₁.rxsduDdPkts ∧ rb₀.rxsduDdBytes = rb₁.rxsduDdBytes ∧
    rb₀.rnti = rb₁.rnti ∧ rb₀.mode = rb₁.mode ∧ rb₀.rbid = rb₁.rbid)

/-- `eq_rlc_ind_msg`. -/
def eqRlcIndMsg (m₀ m₁ : RlcIndMsg) : Outcome Bool :=
  allOf [test (m₀.tstamp = m₁.tstamp ∧ m₀.stats.length = m₁.stats.length),
    eqArray eqRlcRadioBearerStats m₀.stats m₁.stats]

/-- `check_pdcp_mode`. -/
def checkPdcpMode (mode : UInt8) : Outcome Unit := check (mode = 0 ∨ mode = 1 ∨ mode = 2)

/-- `check_pdcp_rbid`. -/
def checkPdcpRbid (rbid : UInt8) : Outcome Unit := check (rbid < 11)

/-- `check_pdcp_bearer`. -/
def checkPdcpBearer (rb : PdcpRadioBearerStats) : Outcome Unit := do
  check (rb.txpduPkts ≤ rb.txpduBytes)
  check (rb.rxpduPkts ≤ rb.rxpduBytes)
  check (rb.txsduPkts ≤ rb.txsduBytes)
  check (rb.rxsduPkts ≤ rb.rxsduBytes)

/-- `check_pdcp_invariants`. -/
def checkPdcpInvariants (msg : PdcpIndMsg) : Outcome Unit :=
  msg.stats.forM fun rb => do
    checkPdcpMode rb.mode
    checkPdcpRbid rb.rbid
    checkPdcpBearer rb

/-- The body of the second loop in `eq_pdcp_ind_msg`. -/
def eqPdcpRadioBearerStats (rb₀ rb₁ : PdcpRadioBearerStats) : Outcome Bool :=
  orAbort (test (rb₀.txpduPkts = rb₁.txpduPkts ∧ rb₀.txpduBytes = rb₁.txpduBytes ∧
    rb₀.txpduSn = rb₁.txpduSn ∧ rb₀.rxpduPkts = rb₁.rxpduPkts ∧
    rb₀.rxpduBytes = rb₁.rxpduBytes ∧ rb₀.rxpduSn = rb₁.rxpduSn ∧
    rb₀.rxpduOoPkts = rb₁.rxpduOoPkts ∧ rb₀.rxpduOoBytes = rb₁.rxpduOoBytes ∧
    rb₀.rxpduDdPkts = rb₁.rxpduDdPkts ∧ rb₀.rxpduDdBytes = rb₁.rxpduDdBytes ∧
    rb₀.rxpduRoCount = rb₁.rxpduRoCount ∧ rb₀.txsduPkts = rb₁.txsduPkts ∧
    rb₀.txsduBytes = rb₁.txsduBytes ∧ rb₀.rxsduPkts = rb₁.rxsduPkts ∧
    rb₀.rxsduBytes = rb₁.rxsduBytes ∧ rb₀.rnti = rb₁.rnti ∧ rb₀.mode = rb₁.mode ∧
    rb₀.rbid = rb₁.rbid))

/-- `eq_pdcp_ind_msg`. -/
def eqPdcpIndMsg (m₀ m₁ : PdcpIndMsg) : Outcome Bool := do
  checkPdcpInvariants m₀
  checkPdcpInvariants m₁
  allOf [orAbort (test (m₀.tstamp = m₁.tstamp ∧ m₀.stats.length = m₁.stats.length)),
    eqArray eqPdcpRadioBearerStats m₀.stats m₁.stats]

/-- The body of the loop in `eq_gtp_ind_msg`. -/
def eqGtpNguTStats (ngut₀ ngut₁ : GtpNguTStats) : Outcome Bool :=
  test (ngut₀.rnti = ngut₁.rnti ∧ ngut₀.teidgnb = ngut₁.teidgnb ∧ ngut₀.qfi = ngut₁.qfi ∧
    ngut₀.teidupf = ngut₁.teidupf)

/-- `eq_gtp_ind_msg`. -/
def eqGtpIndMsg (m₀ m₁ : GtpIndMsg) : Outcome Bool :=
  allOf [test (m₀.tstamp = m₁.tstamp ∧ m₀.stats.length = m₁.stats.length),
    eqArray eqGtpNguTStats m₀.stats m₁.stats]

/-! ## Messages that agree -/

/-- The SNRs agree up to the tolerance. -/
def SnrNear (a b : UInt32) : Prop := eqFloat (.ofBits a) (.ofBits b) snrEps = returns true

/-- The record without its `float`s. -/
def MacUeStatsImpl.clearFloats (ue : MacUeStatsImpl) : MacUeStatsImpl :=
  { ue with puschSnr := 0, pucchSnr := 0, dlBler := 0, ulBler := 0 }

/-- The records agree in every field but the SNR of the PUCCH. -/
structure MacUeStatsImpl.AgreeButPucch (ue₀ ue₁ : MacUeStatsImpl) : Prop where
  dlBler : FloatEq ue₀.dlBler ue₁.dlBler
  ulBler : FloatEq ue₀.ulBler ue₁.ulBler
  puschSnr : SnrNear ue₀.puschSnr ue₁.puschSnr
  others : ue₀.clearFloats = ue₁.clearFloats

/-- The records agree in every field. -/
def MacUeStatsImpl.Agree (ue₀ ue₁ : MacUeStatsImpl) : Prop :=
  ue₀.AgreeButPucch ue₁ ∧ SnrNear ue₀.pucchSnr ue₁.pucchSnr

/-- The time stamps agree, and the records one by one. -/
def StatsIndMsg.AgreeBy {Stats : Type} (alike : Stats → Stats → Prop) (m₀ m₁ : StatsIndMsg Stats) :
    Prop :=
  m₀.tstamp = m₁.tstamp ∧ List.Forall₂ alike m₀.stats m₁.stats

/-- No SNR is a NaN. -/
def MacUeStatsImpl.NoNan (ue : MacUeStatsImpl) : Prop :=
  (Float32.ofBits ue.puschSnr).isNaN = false ∧ (Float32.ofBits ue.pucchSnr).isNaN = false

/-- What `check_pdcp_invariants` asserts of a record. -/
structure PdcpRadioBearerStats.Valid (rb : PdcpRadioBearerStats) : Prop where
  mode : rb.mode = 0 ∨ rb.mode = 1 ∨ rb.mode = 2
  rbid : rb.rbid < 11
  txpdu : rb.txpduPkts ≤ rb.txpduBytes
  rxpdu : rb.rxpduPkts ≤ rb.rxpduBytes
  txsdu : rb.txsduPkts ≤ rb.txsduBytes
  rxsdu : rb.rxsduPkts ≤ rb.rxsduBytes

/-! ## Loops over records -/

/-- A loop over records whose number and time stamps are compared before. -/
theorem decides_statsLoop {Stats : Type} {p : Prop} [Decidable p] {m₀ m₁ : StatsIndMsg Stats}
    {eq : Stats → Stats → Outcome Bool} {alike : Stats → Stats → Prop}
    (hp : p ↔ m₀.tstamp = m₁.tstamp ∧ m₀.stats.length = m₁.stats.length)
    (heq : ∀ a ∈ m₀.stats, ∀ b ∈ m₁.stats, Decides (eq a b) (alike a b)) :
    Decides (allOf [test p, eqArray eq m₀.stats m₁.stats]) (m₀.AgreeBy alike m₁) := by
  refine (decides_test.allOf_cons fun h =>
    (decides_eqArray (hp.1 h).2 heq).allOf_singleton).congr ?_
  constructor
  · rintro ⟨h, hall⟩
    exact ⟨(hp.1 h).1, hall⟩
  · rintro ⟨htstamp, hall⟩
    exact ⟨hp.2 ⟨htstamp, hall.length_eq⟩, hall⟩

theorem StatsIndMsg.agreeBy_eq_iff {Stats : Type} {m₀ m₁ : StatsIndMsg Stats} :
    m₀.AgreeBy Eq m₁ ↔ m₀ = m₁ := by
  obtain ⟨stats₀, tstamp₀⟩ := m₀
  obtain ⟨stats₁, tstamp₁⟩ := m₁
  rw [StatsIndMsg.AgreeBy, List.forall₂_eq_eq_eq, StatsIndMsg.mk.injEq]
  exact And.comm

/-! ## MAC -/

theorem isNaN_snrEps : snrEps.isNaN = false := by decide +kernel

theorem vector_five_eq_iff {v w : Vector UInt32 5} :
    v = w ↔ v[0] = w[0] ∧ v[1] = w[1] ∧ v[2] = w[2] ∧ v[3] = w[3] ∧ v[4] = w[4] := by
  constructor
  · rintro rfl
    exact ⟨rfl, rfl, rfl, rfl, rfl⟩
  · rintro ⟨h0, h1, h2, h3, h4⟩
    refine Vector.ext fun i hi => ?_
    match i, hi with
    | 0, _ => exact h0
    | 1, _ => exact h1
    | 2, _ => exact h2
    | 3, _ => exact h3
    | 4, _ => exact h4

theorem decides_eqMacUeStatsImpl {ue₀ ue₁ : MacUeStatsImpl} (h₀ : ue₀.NoNan) (h₁ : ue₁.NoNan) :
    Decides (eqMacUeStatsImpl ue₀ ue₁) (ue₀.AgreeButPucch ue₁) := by
  have hpusch : Decides (eqFloat (.ofBits ue₀.puschSnr) (.ofBits ue₁.puschSnr) snrEps)
      (SnrNear ue₀.puschSnr ue₁.puschSnr) := decides_eqFloat h₀.1 h₁.1 isNaN_snrEps
  have hpucch : Decides (eqFloat (.ofBits ue₀.pucchSnr) (.ofBits ue₀.pucchSnr) snrEps) True := by
    rw [(eqFloat_self isNaN_snrEps).2 h₀.2]
    exact decides_true trivial
  refine (decides_test.allOf_cons fun _ => hpusch.allOf_cons fun _ =>
    hpucch.allOf_singleton).congr ?_
  constructor
  · rintro ⟨hfields, hsnr, -⟩
    refine ⟨?_, ?_, hsnr, ?_⟩
    · simp only [hfields]
    · simp only [hfields]
    · simp only [MacUeStatsImpl.clearFloats, MacUeStatsImpl.mk.injEq, vector_five_eq_iff, hfields,
        and_self]
  · rintro ⟨hdl, hul, hsnr, hothers⟩
    simp only [MacUeStatsImpl.clearFloats, MacUeStatsImpl.mk.injEq] at hothers
    simp only [hdl, hul, hsnr, hothers, and_self]

theorem decides_eqMacIndMsg {m₀ m₁ : MacIndMsg} (h₀ : ∀ ue ∈ m₀.stats, ue.NoNan)
    (h₁ : ∀ ue ∈ m₁.stats, ue.NoNan) :
    Decides (eqMacIndMsg m₀ m₁) (m₀.AgreeBy MacUeStatsImpl.AgreeButPucch m₁) :=
  decides_statsLoop And.comm fun ue hue ue' hue' =>
    decides_eqMacUeStatsImpl (h₀ ue hue) (h₁ ue' hue')

/-! ## RLC and GTP -/

theorem decides_eqRlcRadioBearerStats (rb₀ rb₁ : RlcRadioBearerStats) :
    Decides (eqRlcRadioBearerStats rb₀ rb₁) (rb₀ = rb₁) := by
  refine decides_test.congr ?_
  cases rb₀
  cases rb₁
  rw [RlcRadioBearerStats.mk.injEq]

theorem decides_eqGtpNguTStats (ngut₀ ngut₁ : GtpNguTStats) :
    Decides (eqGtpNguTStats ngut₀ ngut₁) (ngut₀ = ngut₁) := by
  refine decides_test.congr ?_
  cases ngut₀
  cases ngut₁
  rw [GtpNguTStats.mk.injEq]

theorem decides_eqRlcIndMsg (m₀ m₁ : RlcIndMsg) : Decides (eqRlcIndMsg m₀ m₁) (m₀ = m₁) :=
  (decides_statsLoop Iff.rfl fun rb _ rb' _ => decides_eqRlcRadioBearerStats rb rb').congr
    StatsIndMsg.agreeBy_eq_iff

theorem decides_eqGtpIndMsg (m₀ m₁ : GtpIndMsg) : Decides (eqGtpIndMsg m₀ m₁) (m₀ = m₁) :=
  (decides_statsLoop Iff.rfl fun ngut _ ngut' _ => decides_eqGtpNguTStats ngut ngut').congr
    StatsIndMsg.agreeBy_eq_iff

/-! ## PDCP -/

theorem checkPdcpInvariants_eq_returns {msg : PdcpIndMsg} :
    checkPdcpInvariants msg = returns () ↔ ∀ rb ∈ msg.stats, rb.Valid := by
  rw [checkPdcpInvariants, forM_eq_returns]
  refine forall₂_congr fun rb _ => ?_
  simp only [checkPdcpMode, checkPdcpRbid, checkPdcpBearer, check_bind_eq_returns,
    check_eq_returns]
  constructor
  · rintro ⟨hmode, hrbid, htxpdu, hrxpdu, htxsdu, hrxsdu⟩
    exact ⟨hmode, hrbid, htxpdu, hrxpdu, htxsdu, hrxsdu⟩
  · rintro ⟨hmode, hrbid, htxpdu, hrxpdu, htxsdu, hrxsdu⟩
    exact ⟨hmode, hrbid, htxpdu, hrxpdu, htxsdu, hrxsdu⟩

theorem eqPdcpRadioBearerStats_self (rb : PdcpRadioBearerStats) :
    eqPdcpRadioBearerStats rb rb = returns true := by
  simp [eqPdcpRadioBearerStats]

theorem eqPdcpIndMsg_self {m : PdcpIndMsg} (h : ∀ rb ∈ m.stats, rb.Valid) :
    eqPdcpIndMsg m m = returns true := by
  have hloop : eqArray eqPdcpRadioBearerStats m.stats m.stats = returns true :=
    (eqArray_eq_true rfl).2 (List.forall₂_same.2 fun rb _ => eqPdcpRadioBearerStats_self rb)
  simp [eqPdcpIndMsg, checkPdcpInvariants_eq_returns.2 h, hloop]

theorem eqPdcpIndMsg_ne_false {m₀ m₁ : PdcpIndMsg} (h₀ : ∀ rb ∈ m₀.stats, rb.Valid)
    (h₁ : ∀ rb ∈ m₁.stats, rb.Valid) : eqPdcpIndMsg m₀ m₁ ≠ returns false := by
  have hloop : eqArray eqPdcpRadioBearerStats m₀.stats m₁.stats ≠ returns false :=
    eqArray_ne_false (fun _ _ => orAbort_ne_false) m₀.stats m₁.stats
  rw [eqPdcpIndMsg, checkPdcpInvariants_eq_returns.2 h₀, checkPdcpInvariants_eq_returns.2 h₁]
  apply allOf_ne_false
  simp [orAbort_ne_false, hloop]

/-- The comparison of PDCP messages decides whether they agree if and only if they do. -/
theorem decides_eqPdcpIndMsg_iff {m₀ m₁ : PdcpIndMsg} (h₀ : ∀ rb ∈ m₀.stats, rb.Valid)
    (h₁ : ∀ rb ∈ m₁.stats, rb.Valid) : Decides (eqPdcpIndMsg m₀ m₁) (m₀ = m₁) ↔ m₀ = m₁ := by
  refine decides_iff_of_ne_false (eqPdcpIndMsg_ne_false h₀ h₁) ?_
  rintro rfl
  exact eqPdcpIndMsg_self h₀

/-! ## The messages -/

/-- The records agree if and only if they do without the SNR of the PUCCH, and it agrees too. -/
theorem MacIndMsg.agreeBy_agree_iff {m₀ m₁ : MacIndMsg} :
    m₀.AgreeBy MacUeStatsImpl.Agree m₁ ↔ m₀.AgreeBy MacUeStatsImpl.AgreeButPucch m₁ ∧
      List.Forall₂ (fun ue₀ ue₁ => SnrNear ue₀.pucchSnr ue₁.pucchSnr) m₀.stats m₁.stats := by
  rw [StatsIndMsg.AgreeBy, StatsIndMsg.AgreeBy, and_assoc]
  exact and_congr_right fun _ => listForall₂_and

/-- The comparisons of RLC and of GTP messages decide whether the messages are equal. That of MAC
messages decides whether they agree except where only the SNR of the PUCCH does not, and that of
PDCP messages decides whether they are equal only if they are. -/
theorem eqStatsIndMsg_decides_iff {mac₀ mac₁ : MacIndMsg} {pdcp₀ pdcp₁ : PdcpIndMsg}
    (hmac₀ : ∀ ue ∈ mac₀.stats, ue.NoNan) (hmac₁ : ∀ ue ∈ mac₁.stats, ue.NoNan)
    (hpdcp₀ : ∀ rb ∈ pdcp₀.stats, rb.Valid) (hpdcp₁ : ∀ rb ∈ pdcp₁.stats, rb.Valid)
    (rlc₀ rlc₁ : RlcIndMsg) (gtp₀ gtp₁ : GtpIndMsg) :
    (Decides (eqMacIndMsg mac₀ mac₁) (mac₀.AgreeBy MacUeStatsImpl.Agree mac₁) ↔
        (mac₀.AgreeBy MacUeStatsImpl.AgreeButPucch mac₁ →
          List.Forall₂ (fun ue₀ ue₁ => SnrNear ue₀.pucchSnr ue₁.pucchSnr) mac₀.stats mac₁.stats)) ∧
      Decides (eqRlcIndMsg rlc₀ rlc₁) (rlc₀ = rlc₁) ∧
      (Decides (eqPdcpIndMsg pdcp₀ pdcp₁) (pdcp₀ = pdcp₁) ↔ pdcp₀ = pdcp₁) ∧
      Decides (eqGtpIndMsg gtp₀ gtp₁) (gtp₀ = gtp₁) := by
  refine ⟨?_, decides_eqRlcIndMsg rlc₀ rlc₁, decides_eqPdcpIndMsg_iff hpdcp₀ hpdcp₁,
    decides_eqGtpIndMsg gtp₀ gtp₁⟩
  rw [MacIndMsg.agreeBy_agree_iff, (decides_eqMacIndMsg hmac₀ hmac₁).answers.decides_and_iff]
  exact and_iff_right not_false

/-- A MAC message with one record, in which all is zero but the SNR of the PUCCH. -/
def macIndMsgOneUe (pucchSnr : UInt32) : MacIndMsg where
  stats := [{ MacUeStatsImpl.ofBytes [] with pucchSnr := pucchSnr }]
  tstamp := 0

/-- A PDCP message with one record, in which all is zero, and the time stamp. -/
def pdcpIndMsgOneRb (tstamp : Int64) : PdcpIndMsg where
  stats := [PdcpRadioBearerStats.ofBytes []]
  tstamp := tstamp

theorem macIndMsgOneUe_noNan {pucchSnr : UInt32} (h : (Float32.ofBits pucchSnr).isNaN = false) :
    ∀ ue ∈ (macIndMsgOneUe pucchSnr).stats, ue.NoNan := by
  intro ue hue
  rw [List.mem_singleton.1 hue]
  have hpusch : (Float32.ofBits (MacUeStatsImpl.ofBytes []).puschSnr).isNaN = false := by decide
  exact ⟨hpusch, h⟩

theorem pdcpIndMsgOneRb_valid (tstamp : Int64) :
    ∀ rb ∈ (pdcpIndMsgOneRb tstamp).stats, rb.Valid := by
  intro rb hrb
  rw [List.mem_singleton.1 hrb]
  exact ⟨by decide, by decide, by decide, by decide, by decide, by decide⟩

/-- The conditions are met by messages and themselves. -/
theorem eqStatsIndMsg_decides_self :
    Decides (eqMacIndMsg (macIndMsgOneUe 0) (macIndMsgOneUe 0))
        ((macIndMsgOneUe 0).AgreeBy MacUeStatsImpl.Agree (macIndMsgOneUe 0)) ∧
      Decides (eqPdcpIndMsg (pdcpIndMsgOneRb 0) (pdcpIndMsgOneRb 0))
        (pdcpIndMsgOneRb 0 = pdcpIndMsgOneRb 0) := by
  have hmac := macIndMsgOneUe_noNan (by decide : (Float32.ofBits 0).isNaN = false)
  have hpdcp := pdcpIndMsgOneRb_valid 0
  have h := eqStatsIndMsg_decides_iff hmac hmac hpdcp hpdcp ⟨[], 0⟩ ⟨[], 0⟩ ⟨[], 0⟩ ⟨[], 0⟩
  refine ⟨h.1.2 fun _ => List.forall₂_same.2 fun ue hue => ?_, h.2.2.1.2 rfl⟩
  exact (eqFloat_self isNaN_snrEps).2 (hmac ue hue).2

/-- Two MAC messages with different SNRs of the PUCCH are taken for equal, and the comparison of two
PDCP messages with different time stamps stops at an assertion. -/
theorem eqStatsIndMsg_different :
    eqMacIndMsg (macIndMsgOneUe 0) (macIndMsgOneUe 0x3f800000) = returns true ∧
      ¬(macIndMsgOneUe 0).AgreeBy MacUeStatsImpl.Agree (macIndMsgOneUe 0x3f800000) ∧
      eqPdcpIndMsg (pdcpIndMsgOneRb 0) (pdcpIndMsgOneRb 1) = stops := by
  refine ⟨by decide +kernel, ?_, by decide⟩
  rintro ⟨-, hstats⟩
  have hnear := (List.forall₂_cons.1 hstats).1.2
  have hfar : eqFloat (.ofBits 0) (.ofBits 0x3f800000) snrEps = returns false := by
    decide +kernel
  rw [SnrNear] at hnear
  cases hnear.symm.trans hfar

end FlexRic
