import Mathlib.Data.List.Basic

/-!
# The data of the traffic control service model (`sm/tc_sm/ie/tc_data_ie.h`)

The indication and the control messages. A tagged union is an inductive type, and its tag is a
function (`type`, `act`); where the code never looks at a tag, it stays a number. A `float` is the
word of its four bytes.
-/

namespace FlexRic

/-! ## Tags -/

/-- `tc_cls_e`. -/
inductive TcClsE : Type where
  | rr
  | osi
  | sto
  deriving DecidableEq, Repr

/-- The number of the enumerator. -/
def TcClsE.toUInt32 : TcClsE → UInt32
  | rr => 0
  | osi => 1
  | sto => 2

/-- `tc_queue_e`. -/
inductive TcQueueE : Type where
  | fifo
  | codel
  | ecnCodel
  deriving DecidableEq, Repr

/-- The number of the enumerator. -/
def TcQueueE.toUInt32 : TcQueueE → UInt32
  | fifo => 0
  | codel => 1
  | ecnCodel => 2

/-- `tc_sch_e`. -/
inductive TcSchE : Type where
  | rr
  | prio
  deriving DecidableEq, Repr

/-- The number of the enumerator. -/
def TcSchE.toUInt32 : TcSchE → UInt32
  | rr => 0
  | prio => 1

/-- `tc_pcr_e`. -/
inductive TcPcrE : Type where
  | dummy
  | bdp5g
  deriving DecidableEq, Repr

/-- The number of the enumerator. -/
def TcPcrE.toUInt32 : TcPcrE → UInt32
  | dummy => 0
  | bdp5g => 1

/-- `tc_ctrl_act_e`. -/
inductive TcCtrlActE : Type where
  | add
  | del
  | mod
  deriving DecidableEq, Repr

/-- The number of the enumerator. -/
def TcCtrlActE.toUInt32 : TcCtrlActE → UInt32
  | add => 0
  | del => 1
  | mod => 2

/-- `tc_ctrl_msg_e`. -/
inductive TcCtrlMsgE : Type where
  | cls
  | plc
  | queue
  | sch
  | shp
  | pcr
  deriving DecidableEq, Repr

/-- The number of the enumerator. -/
def TcCtrlMsgE.toUInt32 : TcCtrlMsgE → UInt32
  | cls => 0
  | plc => 1
  | queue => 2
  | sch => 3
  | shp => 4
  | pcr => 5

/-! ## Indication message -/

/-- `L3_filter_t`. -/
structure L3Filter : Type where
  srcAddr : Int64
  dstAddr : Int64
  deriving DecidableEq

/-- `L4_filter_t`. -/
structure L4Filter : Type where
  srcPort : Int32
  dstPort : Int32
  protocol : Int32
  deriving DecidableEq

/-- `tc_cls_osi_filter_t`; its `l7` is empty. -/
structure TcClsOsiFilter : Type where
  id : UInt32
  /-- the four bytes of padding behind the id -/
  pad : UInt32
  l3 : L3Filter
  l4 : L4Filter
  dstQueue : Int32
  deriving DecidableEq

/-- `tc_cls_t`. -/
inductive TcCls : Type where
  | rr (dummy : UInt32)
  | osi (flt : List TcClsOsiFilter)
  | sto (dummy : UInt32)
  deriving DecidableEq

/-- The tag. -/
def TcCls.type : TcCls → TcClsE
  | rr _ => .rr
  | osi _ => .osi
  | sto _ => .sto

/-- `tc_mtr_t`. -/
structure TcMtr : Type where
  timeWindowMs : UInt32
  /-- `bnd_flt` and `bnd_uint` -/
  bnd : UInt32
  deriving DecidableEq

/-- `tc_drp_t`. -/
structure TcDrp : Type where
  droppedPkts : UInt32
  deriving DecidableEq

/-- `tc_mrk_t`. -/
structure TcMrk : Type where
  markedPkts : UInt32
  deriving DecidableEq

/-- `tc_plc_t`. -/
structure TcPlc : Type where
  id : UInt32
  mtr : TcMtr
  drp : TcDrp
  mrk : TcMrk
  /-- a `float` -/
  maxRateKbps : UInt32
  active : UInt32
  dstId : UInt32
  devId : UInt32
  deriving DecidableEq

/-- `tc_queue_fifo_t`. -/
structure TcQueueFifo : Type where
  bytes : UInt32
  pkts : UInt32
  bytesFwd : UInt32
  pktsFwd : UInt32
  drp : TcDrp
  /-- a `float` -/
  avgSojournTime : UInt32
  lastSojournTime : Int64
  deriving DecidableEq

/-- `tc_queue_codel_t`. -/
structure TcQueueCodel : Type where
  bytes : UInt32
  pkts : UInt32
  bytesFwd : UInt32
  pktsFwd : UInt32
  drp : TcDrp
  /-- a `float` -/
  avgSojournTime : UInt32
  lastSojournTime : Int64
  deriving DecidableEq

/-- `tc_queue_ecn_codel_t`. -/
structure TcQueueEcnCodel : Type where
  bytes : UInt32
  pkts : UInt32
  bytesFwd : UInt32
  pktsFwd : UInt32
  mrk : TcMrk
  /-- a `float` -/
  avgSojournTime : UInt32
  lastSojournTime : Int64
  deriving DecidableEq

/-- The union of `tc_queue_t`. -/
inductive TcQueueKind : Type where
  | fifo (q : TcQueueFifo)
  | codel (q : TcQueueCodel)
  | ecn (q : TcQueueEcnCodel)
  deriving DecidableEq

/-- The tag. -/
def TcQueueKind.type : TcQueueKind → TcQueueE
  | fifo _ => .fifo
  | codel _ => .codel
  | ecn _ => .ecnCodel

/-- `tc_queue_t`. -/
structure TcQueue : Type where
  id : UInt32
  kind : TcQueueKind
  deriving DecidableEq

/-- `tc_sch_t`. -/
inductive TcSch : Type where
  | rr (dummy : UInt32)
  | prio (qPrio : List UInt32)
  deriving DecidableEq

/-- The tag. -/
def TcSch.type : TcSch → TcSchE
  | rr _ => .rr
  | prio _ => .prio

/-- `tc_shp_t`. -/
structure TcShp : Type where
  id : UInt32
  active : UInt32
  maxRateKbps : UInt32
  mtr : TcMtr
  deriving DecidableEq

/-- `tc_pcr_t`. -/
structure TcPcr : Type where
  /-- a `tc_pcr_e` that no function looks at -/
  type : UInt32
  id : UInt32
  mtr : TcMtr
  deriving DecidableEq

/-- `tc_ind_msg_t`. The arrays `shp`, `plc` and `q` have the same length `len_q` and are one list
here. -/
structure TcIndMsg : Type where
  sch : TcSch
  pcr : TcPcr
  cls : TcCls
  shpPlcQ : List (TcShp × TcPlc × TcQueue)
  tstamp : Int64
  deriving DecidableEq

/-! ## Control message -/

/-- `tc_add_cls_osi_t`; its `l7` is empty. -/
structure TcAddClsOsi : Type where
  l3 : L3Filter
  l4 : L4Filter
  dstQueue : Int32
  deriving DecidableEq

/-- `tc_add_ctrl_cls_t`. -/
inductive TcAddCtrlCls : Type where
  | rr (dummy : UInt32)
  | osi (osi : TcAddClsOsi)
  | sto (dummy : UInt32)
  deriving DecidableEq

/-- The tag. -/
def TcAddCtrlCls.type : TcAddCtrlCls → TcClsE
  | rr _ => .rr
  | osi _ => .osi
  | sto _ => .sto

/-- `tc_mod_ctrl_cls_t`. -/
inductive TcModCtrlCls : Type where
  | rr (dummy : UInt32)
  | osi (filter : TcClsOsiFilter)
  | sto (dummy : UInt32)
  deriving DecidableEq

/-- The tag. -/
def TcModCtrlCls.type : TcModCtrlCls → TcClsE
  | rr _ => .rr
  | osi _ => .osi
  | sto _ => .sto

/-- `tc_del_ctrl_cls_t`. -/
inductive TcDelCtrlCls : Type where
  | rr (dummy : UInt32)
  | osi (filterId : UInt32)
  | sto (dummy : UInt32)
  deriving DecidableEq

/-- The tag. -/
def TcDelCtrlCls.type : TcDelCtrlCls → TcClsE
  | rr _ => .rr
  | osi _ => .osi
  | sto _ => .sto

/-- `tc_mod_ctrl_plc_t`. -/
structure TcModCtrlPlc : Type where
  id : UInt32
  dropRateKbps : UInt32
  devId : UInt32
  devRateKbps : UInt32
  active : UInt32
  deriving DecidableEq

/-- `tc_ctrl_queue_codel_t` and `tc_ctrl_queue_ecn_codel_t`. -/
structure TcCtrlQueueCodel : Type where
  targetMs : UInt32
  intervalMs : UInt32
  deriving DecidableEq

/-- `tc_add_ctrl_queue_t`, and the union of `tc_mod_ctrl_queue_t`. -/
inductive TcAddCtrlQueue : Type where
  | fifo (dummy : UInt32)
  | codel (q : TcCtrlQueueCodel)
  | ecn (q : TcCtrlQueueCodel)
  deriving DecidableEq

/-- The tag. -/
def TcAddCtrlQueue.type : TcAddCtrlQueue → TcQueueE
  | fifo _ => .fifo
  | codel _ => .codel
  | ecn _ => .ecnCodel

/-- `tc_mod_ctrl_queue_t`. -/
structure TcModCtrlQueue : Type where
  id : UInt32
  kind : TcAddCtrlQueue
  deriving DecidableEq

/-- `tc_del_ctrl_queue_t`. -/
structure TcDelCtrlQueue : Type where
  id : UInt32
  /-- a `tc_queue_e` that no function looks at -/
  type : UInt32
  deriving DecidableEq

/-- `tc_mod_ctrl_sch_t`. -/
abbrev TcModCtrlSch : Type := TcSch

/-- `tc_mod_ctrl_shp_t`. -/
structure TcModCtrlShp : Type where
  id : UInt32
  timeWindowMs : UInt32
  maxRateKbps : UInt32
  active : UInt32
  deriving DecidableEq

/-- `tc_pcr_5g_bdp_t`. -/
structure TcPcr5gBdp : Type where
  drbSz : UInt32
  tstamp : Int64
  deriving DecidableEq

/-- `tc_mod_ctrl_pcr_t`. -/
inductive TcModCtrlPcr : Type where
  | dummy (dummy : UInt32)
  | bdp (bdp : TcPcr5gBdp)
  deriving DecidableEq

/-- The tag. -/
def TcModCtrlPcr.type : TcModCtrlPcr → TcPcrE
  | dummy _ => .dummy
  | bdp _ => .bdp5g

/-- `tc_ctrl_cls_t`, `tc_ctrl_plc_t`, `tc_ctrl_queue_t`, `tc_ctrl_sch_t`, `tc_ctrl_shp_t` and
`tc_ctrl_pcr_t`: an action with what it adds, modifies or deletes. -/
inductive TcCtrl (Add Mod Del : Type) : Type where
  | add (add : Add)
  | mod (mod : Mod)
  | del (del : Del)
  deriving DecidableEq

/-- The tag. -/
def TcCtrl.act {Add Mod Del : Type} : TcCtrl Add Mod Del → TcCtrlActE
  | add _ => .add
  | mod _ => .mod
  | del _ => .del

/-- `tc_ctrl_msg_t`. -/
inductive TcCtrlMsg : Type where
  | cls (cls : TcCtrl TcAddCtrlCls TcModCtrlCls TcDelCtrlCls)
  | plc (plc : TcCtrl UInt32 TcModCtrlPlc UInt32)
  | queue (q : TcCtrl TcAddCtrlQueue TcModCtrlQueue TcDelCtrlQueue)
  | sch (sch : TcCtrl UInt32 TcModCtrlSch UInt32)
  | shp (shp : TcCtrl UInt32 TcModCtrlShp UInt32)
  | pcr (pcr : TcCtrl UInt32 TcModCtrlPcr UInt32)
  deriving DecidableEq

/-- The tag. -/
def TcCtrlMsg.type : TcCtrlMsg → TcCtrlMsgE
  | cls _ => .cls
  | plc _ => .plc
  | queue _ => .queue
  | sch _ => .sch
  | shp _ => .shp
  | pcr _ => .pcr

end FlexRic
