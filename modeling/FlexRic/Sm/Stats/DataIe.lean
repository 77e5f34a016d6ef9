import FlexRic.Semantics.FixedSize

/-!
# The data of the statistics service models

The records of the MAC, RLC, PDCP and GTP service models (`mac_sm/ie/mac_data_ie.h`,
`rlc_sm/ie/rlc_data_ie.h`, `pdcp_sm/ie/pdcp_data_ie.h` and `gtp_sm/ie/gtp_data_ie.h`) and their
indication messages. A record is sent as the bytes of its struct, in which each field stands at a
multiple of its size. A `float` is the word of its four bytes.
-/

namespace FlexRic

/-! ## Records -/

/-- `mac_ue_stats_impl_t`. -/
structure MacUeStatsImpl : Type where
  dlAggrTbs : UInt64
  ulAggrTbs : UInt64
  dlAggrBytesSdus : UInt64
  ulAggrBytesSdus : UInt64
  dlCurrTbs : UInt64
  ulCurrTbs : UInt64
  dlSchedRb : UInt64
  ulSchedRb : UInt64
  /-- a `float` -/
  puschSnr : UInt32
  /-- a `float` -/
  pucchSnr : UInt32
  /-- a `float` -/
  dlBler : UInt32
  /-- a `float` -/
  ulBler : UInt32
  dlHarq : Vector UInt32 5
  ulHarq : Vector UInt32 5
  dlNumHarq : UInt32
  ulNumHarq : UInt32
  rnti : UInt32
  dlAggrPrb : UInt32
  ulAggrPrb : UInt32
  dlAggrSdus : UInt32
  ulAggrSdus : UInt32
  dlAggrRetxPrb : UInt32
  ulAggrRetxPrb : UInt32
  bsr : UInt32
  frame : UInt16
  slot : UInt16
  wbCqi : UInt8
  dlMcs1 : UInt8
  ulMcs1 : UInt8
  dlMcs2 : UInt8
  ulMcs2 : UInt8
  phr : Int8
  deriving DecidableEq

/-- The fields take 170 bytes, and 6 bytes of padding come behind them. -/
def MacUeStatsImpl.sizeof : ℕ := 170 + 6

/-- The struct with these bytes. -/
def MacUeStatsImpl.ofBytes (bs : List UInt8) : MacUeStatsImpl where
  dlAggrTbs := u64At bs 0
  ulAggrTbs := u64At bs 8
  dlAggrBytesSdus := u64At bs 16
  ulAggrBytesSdus := u64At bs 24
  dlCurrTbs := u64At bs 32
  ulCurrTbs := u64At bs 40
  dlSchedRb := u64At bs 48
  ulSchedRb := u64At bs 56
  puschSnr := u32At bs 64
  pucchSnr := u32At bs 68
  dlBler := u32At bs 72
  ulBler := u32At bs 76
  dlHarq := Vector.ofFn fun i => u32At bs (80 + 4 * i)
  ulHarq := Vector.ofFn fun i => u32At bs (100 + 4 * i)
  dlNumHarq := u32At bs 120
  ulNumHarq := u32At bs 124
  rnti := u32At bs 128
  dlAggrPrb := u32At bs 132
  ulAggrPrb := u32At bs 136
  dlAggrSdus := u32At bs 140
  ulAggrSdus := u32At bs 144
  dlAggrRetxPrb := u32At bs 148
  ulAggrRetxPrb := u32At bs 152
  bsr := u32At bs 156
  frame := u16At bs 160
  slot := u16At bs 162
  wbCqi := u8At bs 164
  dlMcs1 := u8At bs 165
  ulMcs1 := u8At bs 166
  dlMcs2 := u8At bs 167
  ulMcs2 := u8At bs 168
  phr := (u8At bs 169).toInt8

/-- `rlc_radio_bearer_stats_t`. -/
structure RlcRadioBearerStats : Type where
  txpduPkts : UInt32
  txpduBytes : UInt32
  txpduWtMs : UInt32
  txpduDdPkts : UInt32
  txpduDdBytes : UInt32
  txpduRetxPkts : UInt32
  txpduRetxBytes : UInt32
  txpduSegmented : UInt32
  txpduStatusPkts : UInt32
  txpduStatusBytes : UInt32
  txbufOccBytes : UInt32
  txbufOccPkts : UInt32
  rxpduPkts : UInt32
  rxpduBytes : UInt32
  rxpduDupPkts : UInt32
  rxpduDupBytes : UInt32
  rxpduDdPkts : UInt32
  rxpduDdBytes : UInt32
  rxpduOwPkts : UInt32
  rxpduOwBytes : UInt32
  rxpduStatusPkts : UInt32
  rxpduStatusBytes : UInt32
  rxbufOccBytes : UInt32
  rxbufOccPkts : UInt32
  txsduPkts : UInt32
  txsduBytes : UInt32
  rxsduPkts : UInt32
  rxsduBytes : UInt32
  rxsduDdPkts : UInt32
  rxsduDdBytes : UInt32
  rnti : UInt32
  mode : UInt8
  rbid : UInt8
  deriving DecidableEq

/-- The fields take 126 bytes, and 2 bytes of padding come behind them. -/
def RlcRadioBearerStats.sizeof : ℕ := 126 + 2

/-- The struct with these bytes. -/
def RlcRadioBearerStats.ofBytes (bs : List UInt8) : RlcRadioBearerStats where
  txpduPkts := u32At bs 0
  txpduBytes := u32At bs 4
  txpduWtMs := u32At bs 8
  txpduDdPkts := u32At bs 12
  txpduDdBytes := u32At bs 16
  txpduRetxPkts := u32At bs 20
  txpduRetxBytes := u32At bs 24
  txpduSegmented := u32At bs 28
  txpduStatusPkts := u32At bs 32
  txpduStatusBytes := u32At bs 36
  txbufOccBytes := u32At bs 40
  txbufOccPkts := u32At bs 44
  rxpduPkts := u32At bs 48
  rxpduBytes := u32At bs 52
  rxpduDupPkts := u32At bs 56
  rxpduDupBytes := u32At bs 60
  rxpduDdPkts := u32At bs 64
  rxpduDdBytes := u32At bs 68
  rxpduOwPkts := u32At bs 72
  rxpduOwBytes := u32At bs 76
  rxpduStatusPkts := u32At bs 80
  rxpduStatusBytes := u32At bs 84
  rxbufOccBytes := u32At bs 88
  rxbufOccPkts := u32At bs 92
  txsduPkts := u32At bs 96
  txsduBytes := u32At bs 100
  rxsduPkts := u32At bs 104
  rxsduBytes := u32At bs 108
  rxsduDdPkts := u32At bs 112
  rxsduDdBytes := u32At bs 116
  rnti := u32At bs 120
  mode := u8At bs 124
  rbid := u8At bs 125

/-- `pdcp_radio_bearer_stats_t`. -/
structure PdcpRadioBearerStats : Type where
  txpduPkts : UInt32
  txpduBytes : UInt32
  txpduSn : UInt32
  rxpduPkts : UInt32
  rxpduBytes : UInt32
  rxpduSn : UInt32
  rxpduOoPkts : UInt32
  rxpduOoBytes : UInt32
  rxpduDdPkts : UInt32
  rxpduDdBytes : UInt32
  rxpduRoCount : UInt32
  txsduPkts : UInt32
  txsduBytes : UInt32
  rxsduPkts : UInt32
  rxsduBytes : UInt32
  rnti : UInt32
  mode : UInt8
  rbid : UInt8
  deriving DecidableEq

/-- The fields take 66 bytes, and 2 bytes of padding come behind them. -/
def PdcpRadioBearerStats.sizeof : ℕ := 66 + 2

/-- The struct with these bytes. -/
def PdcpRadioBearerStats.ofBytes (bs : List UInt8) : PdcpRadioBearerStats where
  txpduPkts := u32At bs 0
  txpduBytes := u32At bs 4
  txpduSn := u32At bs 8
  rxpduPkts := u32At bs 12
  rxpduBytes := u32At bs 16
  rxpduSn := u32At bs 20
  rxpduOoPkts := u32At bs 24
  rxpduOoBytes := u32At bs 28
  rxpduDdPkts := u32At bs 32
  rxpduDdBytes := u32At bs 36
  rxpduRoCount := u32At bs 40
  txsduPkts := u32At bs 44
  txsduBytes := u32At bs 48
  rxsduPkts := u32At bs 52
  rxsduBytes := u32At bs 56
  rnti := u32At bs 60
  mode := u8At bs 64
  rbid := u8At bs 65

/-- `gtp_ngu_t_stats_t`. -/
structure GtpNguTStats : Type where
  rnti : UInt32
  teidgnb : UInt32
  qfi : UInt8
  teidupf : UInt8
  deriving DecidableEq

/-- The fields take 10 bytes, and 2 bytes of padding come behind them. -/
def GtpNguTStats.sizeof : ℕ := 10 + 2

/-- The struct with these bytes. -/
def GtpNguTStats.ofBytes (bs : List UInt8) : GtpNguTStats where
  rnti := u32At bs 0
  teidgnb := u32At bs 4
  qfi := u8At bs 8
  teidupf := u8At bs 9

/-! ## Indication messages -/

/-- An indication message: records, their number, and a time stamp. -/
structure StatsIndMsg (Stats : Type) : Type where
  stats : List Stats
  tstamp : Int64
  deriving DecidableEq

/-- `mac_ind_msg_t`. -/
abbrev MacIndMsg : Type := StatsIndMsg MacUeStatsImpl

/-- `rlc_ind_msg_t`. -/
abbrev RlcIndMsg : Type := StatsIndMsg RlcRadioBearerStats

/-- `pdcp_ind_msg_t`. -/
abbrev PdcpIndMsg : Type := StatsIndMsg PdcpRadioBearerStats

/-- `gtp_ind_msg_t`. -/
abbrev GtpIndMsg : Type := StatsIndMsg GtpNguTStats

end FlexRic
