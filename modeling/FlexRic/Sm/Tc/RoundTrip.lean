import FlexRic.Sm.Tc.DecPlain

/-!
# Round trips of the traffic control messages

Each decoder reads back what the encoder of the same name writes, so the decoder of a whole
message gives back the message. The encoder of the indication leaves two things out, the id of a
queue and the number of the scheduler `TC_SCHED_RR`, and these come back as zero.

The decoders look at the end of the bytes only after they have read. So they read past the end
whenever the bytes stop in the middle of a field.
-/

namespace FlexRic

open Decoder

/-! ## Well-formed messages -/

/-- The length of the list fits into its field. -/
def TcSch.WellFormed : TcSch → Prop
  | rr _ => True
  | prio qPrio => qPrio.length < 2 ^ 32

/-- The length of the list fits into its field. -/
def TcCls.WellFormed : TcCls → Prop
  | rr _ => True
  | osi flt => flt.length < 2 ^ 32
  | sto _ => True

/-- The lengths of the lists fit into their fields. -/
structure TcIndMsg.WellFormed (m : TcIndMsg) : Prop where
  sch : m.sch.WellFormed
  cls : m.cls.WellFormed
  shpPlcQ : m.shpPlcQ.length < 2 ^ 32

/-- The length of the list fits into its field. -/
def TcCtrlMsg.WellFormed : TcCtrlMsg → Prop
  | sch (.mod mod) => mod.WellFormed
  | _ => True

instance TcSch.decidableWellFormed : DecidablePred TcSch.WellFormed
  | rr _ => .isTrue trivial
  | prio qPrio => inferInstanceAs (Decidable (qPrio.length < 2 ^ 32))

instance TcCls.decidableWellFormed : DecidablePred TcCls.WellFormed
  | rr _ => .isTrue trivial
  | osi flt => inferInstanceAs (Decidable (flt.length < 2 ^ 32))
  | sto _ => .isTrue trivial

instance TcIndMsg.decidableWellFormed : DecidablePred TcIndMsg.WellFormed := fun m =>
  decidable_of_iff (m.sch.WellFormed ∧ m.cls.WellFormed ∧ m.shpPlcQ.length < 2 ^ 32)
    ⟨fun ⟨hsch, hcls, hlen⟩ => ⟨hsch, hcls, hlen⟩, fun h => ⟨h.sch, h.cls, h.shpPlcQ⟩⟩

/-- What is left of a scheduler when it was sent. -/
def TcSch.sent : TcSch → TcSch
  | rr _ => rr 0
  | prio qPrio => prio qPrio

/-- What is left of a queue when it was sent. -/
def TcQueue.sent (q : TcQueue) : TcQueue := { q with id := 0 }

/-- What is left of an indication message when it was sent. -/
def TcIndMsg.sent (m : TcIndMsg) : TcIndMsg :=
  { m with
    sch := m.sch.sent
    shpPlcQ := m.shpPlcQ.map fun t => (t.1, t.2.1, t.2.2.sent) }

/-- What the encoder leaves out of the indication message is zero. -/
structure TcIndMsg.LeftOutZero (m : TcIndMsg) : Prop where
  dummy : ∀ dummy, m.sch = .rr dummy → dummy = 0
  id : ∀ t ∈ m.shpPlcQ, t.2.2.id = 0

theorem TcSch.sent_eq_self {sch : TcSch} :
    sch.sent = sch ↔ ∀ dummy, sch = rr dummy → dummy = 0 := by
  cases sch with
  | rr dummy => simp [sent, eq_comm]
  | prio qPrio => simp [sent]

theorem TcQueue.sent_eq_self {q : TcQueue} : q.sent = q ↔ q.id = 0 := by
  obtain ⟨id, kind⟩ := q
  simp [sent, eq_comm]

/-- Nothing is lost of a message if nothing is lost of its parts. -/
theorem TcIndMsg.sent_eq_self_iff {m : TcIndMsg} :
    m.sent = m ↔ m.sch.sent = m.sch ∧ ∀ t ∈ m.shpPlcQ, t.2.2.sent = t.2.2 := by
  have hmap : (m.shpPlcQ.map fun t => (t.1, t.2.1, t.2.2.sent)) = m.shpPlcQ ↔
      ∀ t ∈ m.shpPlcQ, t.2.2.sent = t.2.2 := by
    rw [← List.map_id m.shpPlcQ, List.map_map, List.map_inj_left, List.map_id]
    exact forall₂_congr fun t _ => by simp [Prod.ext_iff]
  obtain ⟨sch, pcr, cls, shpPlcQ, tstamp⟩ := m
  simp only [sent, mk.injEq, and_true, true_and, hmap]

theorem TcIndMsg.sent_eq_self {m : TcIndMsg} : m.sent = m ↔ m.LeftOutZero := by
  simp only [sent_eq_self_iff, TcSch.sent_eq_self, TcQueue.sent_eq_self]
  exact ⟨fun ⟨hdummy, hid⟩ => ⟨hdummy, hid⟩, fun h => ⟨h.dummy, h.id⟩⟩

theorem TcSch.sent_sent (sch : TcSch) : sch.sent.sent = sch.sent := by
  cases sch with
  | rr dummy => rfl
  | prio qPrio => rfl

theorem TcSch.WellFormed.sent {sch : TcSch} (h : sch.WellFormed) : sch.sent.WellFormed := by
  cases sch with
  | rr dummy => trivial
  | prio qPrio => exact h

theorem TcIndMsg.sent_sent (m : TcIndMsg) : m.sent.sent = m.sent := by
  simp [sent, TcSch.sent_sent, TcQueue.sent]

theorem TcIndMsg.WellFormed.sent {m : TcIndMsg} (h : m.WellFormed) : m.sent.WellFormed where
  sch := h.sch.sent
  cls := h.cls
  shpPlcQ := by
    rw [TcIndMsg.sent, List.length_map]
    exact h.shpPlcQ

/-! The encoder makes no difference between a message and what is left of it. -/

theorem tcEncSch_sent (sch : TcSch) : tcEncSch sch.sent = tcEncSch sch := by
  cases sch with
  | rr dummy => rfl
  | prio qPrio => rfl

theorem tcEncIndMsg_sent (m : TcIndMsg) : tcEncIndMsg m.sent = tcEncIndMsg m := by
  simp only [tcEncIndMsg, TcIndMsg.sent, tcEncSch_sent, List.length_map, List.flatMap_map]
  rfl

/-! ## Formats of the indication message -/

theorem format_tcDecSch : tcDecSch.Format tcEncSch fun s => s.WellFormed ∧ s.sent = s := by
  refine .tag (fun s : TcSch => s.type.toUInt32) ⟨.rr 0, trivial, rfl⟩ fun t => ?_
  refine .ite (.map (.pure fun _ => Iff.rfl) _ (fun _ => rfl) fun s => ?_) fun hrr => ?_
  · cases s with
    | rr dummy => simp [TcSch.WellFormed, TcSch.sent, TcSch.type, eq_comm]
    | prio qPrio => simp [TcSch.type, TcSchE.toUInt32]
  refine .ite (.map (.counted .u32) _ (fun _ => rfl) fun s => ?_) fun hprio => ?_
  · cases s with
    | rr dummy => simp [TcSch.type, TcSchE.toUInt32]
    | prio qPrio => simp [TcSch.WellFormed, TcSch.sent, TcSch.type]
  refine .reject fun s _ => ?_
  cases s with
  | rr dummy => exact Ne.symm hrr
  | prio qPrio => exact Ne.symm hprio

theorem format_tcDecMtr : tcDecMtr.Format tcEncMtr fun _ => True := by
  refine (Format.u32.bind TcMtr.bnd (fun _ _ => trivial) fun bnd _ => ?_).congr
    (fun _ _ => rfl) fun _ => Iff.rfl
  rw [bind_pure_comp]
  refine Format.u32.map _ (fun _ _ => rfl) fun m => ⟨?_, ?_⟩
  · rintro ⟨-, rfl⟩
    exact ⟨m.timeWindowMs, trivial, rfl⟩
  · rintro ⟨t, -, rfl⟩
    exact ⟨trivial, rfl⟩

theorem format_tcDecPcr : tcDecPcr.Format tcEncPcr fun _ => True := by
  refine .bind .u32 TcPcr.type (fun _ _ => trivial) fun type _ => ?_
  refine .bind .u32 TcPcr.id (fun _ _ => trivial) fun id _ => ?_
  rw [bind_pure_comp]
  refine format_tcDecMtr.map _ (fun _ _ => rfl) fun pcr => ⟨?_, ?_⟩
  · rintro ⟨⟨-, rfl⟩, rfl⟩
    exact ⟨pcr.mtr, trivial, rfl⟩
  · rintro ⟨mtr, -, rfl⟩
    exact ⟨⟨trivial, rfl⟩, rfl⟩

theorem format_tcDecClsOsiFilter : tcDecClsOsiFilter.Format tcEncClsOsiFilter fun _ => True := by
  refine .bind .u32 TcClsOsiFilter.id (fun _ _ => trivial) fun id _ => ?_
  refine .bind .u32 TcClsOsiFilter.pad (fun _ _ => trivial) fun pad _ => ?_
  refine .bind .i64 (fun f : TcClsOsiFilter => f.l3.srcAddr) (fun _ _ => trivial)
    fun srcAddr _ => ?_
  refine .bind .i64 (fun f : TcClsOsiFilter => f.l3.dstAddr) (fun _ _ => trivial)
    fun dstAddr _ => ?_
  refine .bind .i32 (fun f : TcClsOsiFilter => f.l4.srcPort) (fun _ _ => trivial)
    fun srcPort _ => ?_
  refine .bind .i32 (fun f : TcClsOsiFilter => f.l4.dstPort) (fun _ _ => trivial)
    fun dstPort _ => ?_
  refine .bind .i32 (fun f : TcClsOsiFilter => f.l4.protocol) (fun _ _ => trivial)
    fun protocol _ => ?_
  rw [bind_pure_comp]
  refine Format.i32.map _ (fun _ _ => rfl) fun f => ⟨?_, ?_⟩
  · rintro ⟨⟨⟨⟨⟨⟨⟨-, rfl⟩, rfl⟩, rfl⟩, rfl⟩, rfl⟩, rfl⟩, rfl⟩
    exact ⟨f.dstQueue, trivial, rfl⟩
  · rintro ⟨dstQueue, -, rfl⟩
    exact ⟨⟨⟨⟨⟨⟨⟨trivial, rfl⟩, rfl⟩, rfl⟩, rfl⟩, rfl⟩, rfl⟩, rfl⟩

theorem format_tcDecCls : tcDecCls.Format tcEncCls TcCls.WellFormed := by
  refine .tag (fun c : TcCls => c.type.toUInt32) ⟨.rr 0, trivial⟩ fun t => ?_
  refine .ite (.map .u32 _ (fun _ => rfl) fun c => ?_) fun hrr => ?_
  · cases c <;> simp [TcCls.WellFormed, TcCls.type, TcClsE.toUInt32]
  refine .ite (.map (.counted format_tcDecClsOsiFilter) _ (fun _ => rfl) fun c => ?_) fun hosi => ?_
  · cases c <;> simp [TcCls.WellFormed, TcCls.type, TcClsE.toUInt32]
  refine .ite (.map .u32 _ (fun _ => rfl) fun c => ?_) fun hsto => ?_
  · cases c <;> simp [TcCls.WellFormed, TcCls.type, TcClsE.toUInt32]
  refine .reject fun c _ => ?_
  cases c with
  | rr dummy => exact Ne.symm hrr
  | osi flt => exact Ne.symm hosi
  | sto dummy => exact Ne.symm hsto

theorem format_tcDecShp : tcDecShp.Format tcEncShp fun _ => True := by
  refine .bind .u32 TcShp.id (fun _ _ => trivial) fun id _ => ?_
  refine .bind .u32 TcShp.active (fun _ _ => trivial) fun active _ => ?_
  refine .bind .u32 TcShp.maxRateKbps (fun _ _ => trivial) fun maxRateKbps _ => ?_
  rw [bind_pure_comp]
  refine format_tcDecMtr.map _ (fun _ _ => rfl) fun shp => ⟨?_, ?_⟩
  · rintro ⟨⟨⟨-, rfl⟩, rfl⟩, rfl⟩
    exact ⟨shp.mtr, trivial, rfl⟩
  · rintro ⟨mtr, -, rfl⟩
    exact ⟨⟨⟨trivial, rfl⟩, rfl⟩, rfl⟩

theorem format_tcDecDrp : tcDecDrp.Format tcEncDrp fun _ => True :=
  Format.u32.map _ (fun _ _ => rfl) fun drp =>
    ⟨fun _ => ⟨drp.droppedPkts, trivial, rfl⟩, fun _ => trivial⟩

theorem format_tcDecMrk : tcDecMrk.Format tcEncMrk fun _ => True :=
  Format.u32.map _ (fun _ _ => rfl) fun mrk =>
    ⟨fun _ => ⟨mrk.markedPkts, trivial, rfl⟩, fun _ => trivial⟩

theorem format_tcDecPlc : tcDecPlc.Format tcEncPlc fun _ => True := by
  refine .bind .u32 TcPlc.id (fun _ _ => trivial) fun id _ => ?_
  refine .bind format_tcDecMtr TcPlc.mtr (fun _ _ => trivial) fun mtr _ => ?_
  refine .bind format_tcDecDrp TcPlc.drp (fun _ _ => trivial) fun drp _ => ?_
  refine .bind format_tcDecMrk TcPlc.mrk (fun _ _ => trivial) fun mrk _ => ?_
  refine .bind .u32 TcPlc.maxRateKbps (fun _ _ => trivial) fun maxRateKbps _ => ?_
  refine .bind .u32 TcPlc.active (fun _ _ => trivial) fun active _ => ?_
  refine .bind .u32 TcPlc.dstId (fun _ _ => trivial) fun dstId _ => ?_
  rw [bind_pure_comp]
  refine Format.u32.map _ (fun _ _ => rfl) fun plc => ⟨?_, ?_⟩
  · rintro ⟨⟨⟨⟨⟨⟨⟨-, rfl⟩, rfl⟩, rfl⟩, rfl⟩, rfl⟩, rfl⟩, rfl⟩
    exact ⟨plc.devId, trivial, rfl⟩
  · rintro ⟨devId, -, rfl⟩
    exact ⟨⟨⟨⟨⟨⟨⟨trivial, rfl⟩, rfl⟩, rfl⟩, rfl⟩, rfl⟩, rfl⟩, rfl⟩

theorem format_tcDecQFifo : tcDecQFifo.Format tcEncQFifo fun _ => True := by
  refine .bind .u32 TcQueueFifo.bytes (fun _ _ => trivial) fun bytes _ => ?_
  refine .bind .u32 TcQueueFifo.pkts (fun _ _ => trivial) fun pkts _ => ?_
  refine .bind .u32 TcQueueFifo.bytesFwd (fun _ _ => trivial) fun bytesFwd _ => ?_
  refine .bind .u32 TcQueueFifo.pktsFwd (fun _ _ => trivial) fun pktsFwd _ => ?_
  refine .bind format_tcDecDrp TcQueueFifo.drp (fun _ _ => trivial) fun drp _ => ?_
  refine .bind .u32 TcQueueFifo.avgSojournTime (fun _ _ => trivial) fun avgSojournTime _ => ?_
  rw [bind_pure_comp]
  refine Format.i64.map _ (fun _ _ => rfl) fun q => ⟨?_, ?_⟩
  · rintro ⟨⟨⟨⟨⟨⟨-, rfl⟩, rfl⟩, rfl⟩, rfl⟩, rfl⟩, rfl⟩
    exact ⟨q.lastSojournTime, trivial, rfl⟩
  · rintro ⟨lastSojournTime, -, rfl⟩
    exact ⟨⟨⟨⟨⟨⟨trivial, rfl⟩, rfl⟩, rfl⟩, rfl⟩, rfl⟩, rfl⟩

theorem format_tcDecQCodel : tcDecQCodel.Format tcEncQCodel fun _ => True := by
  refine .bind .u32 TcQueueCodel.bytes (fun _ _ => trivial) fun bytes _ => ?_
  refine .bind .u32 TcQueueCodel.pkts (fun _ _ => trivial) fun pkts _ => ?_
  refine .bind .u32 TcQueueCodel.bytesFwd (fun _ _ => trivial) fun bytesFwd _ => ?_
  refine .bind .u32 TcQueueCodel.pktsFwd (fun _ _ => trivial) fun pktsFwd _ => ?_
  refine .bind format_tcDecDrp TcQueueCodel.drp (fun _ _ => trivial) fun drp _ => ?_
  refine .bind .u32 TcQueueCodel.avgSojournTime (fun _ _ => trivial) fun avgSojournTime _ => ?_
  rw [bind_pure_comp]
  refine Format.i64.map _ (fun _ _ => rfl) fun q => ⟨?_, ?_⟩
  · rintro ⟨⟨⟨⟨⟨⟨-, rfl⟩, rfl⟩, rfl⟩, rfl⟩, rfl⟩, rfl⟩
    exact ⟨q.lastSojournTime, trivial, rfl⟩
  · rintro ⟨lastSojournTime, -, rfl⟩
    exact ⟨⟨⟨⟨⟨⟨trivial, rfl⟩, rfl⟩, rfl⟩, rfl⟩, rfl⟩, rfl⟩

theorem format_tcDecQEcnCodel : tcDecQEcnCodel.Format tcEncQEcnCodel fun _ => True := by
  refine .bind .u32 TcQueueEcnCodel.bytes (fun _ _ => trivial) fun bytes _ => ?_
  refine .bind .u32 TcQueueEcnCodel.pkts (fun _ _ => trivial) fun pkts _ => ?_
  refine .bind .u32 TcQueueEcnCodel.bytesFwd (fun _ _ => trivial) fun bytesFwd _ => ?_
  refine .bind .u32 TcQueueEcnCodel.pktsFwd (fun _ _ => trivial) fun pktsFwd _ => ?_
  refine .bind format_tcDecMrk TcQueueEcnCodel.mrk (fun _ _ => trivial) fun mrk _ => ?_
  refine .bind .u32 TcQueueEcnCodel.avgSojournTime (fun _ _ => trivial) fun avgSojournTime _ => ?_
  rw [bind_pure_comp]
  refine Format.i64.map _ (fun _ _ => rfl) fun q => ⟨?_, ?_⟩
  · rintro ⟨⟨⟨⟨⟨⟨-, rfl⟩, rfl⟩, rfl⟩, rfl⟩, rfl⟩, rfl⟩
    exact ⟨q.lastSojournTime, trivial, rfl⟩
  · rintro ⟨lastSojournTime, -, rfl⟩
    exact ⟨⟨⟨⟨⟨⟨trivial, rfl⟩, rfl⟩, rfl⟩, rfl⟩, rfl⟩, rfl⟩

theorem format_tcDecQ : tcDecQ.Format tcEncQ fun q => q.sent = q := by
  refine .tag (fun q : TcQueue => q.kind.type.toUInt32) ⟨⟨0, .fifo ⟨0, 0, 0, 0, ⟨0⟩, 0, 0⟩⟩, rfl⟩
    fun t => ?_
  refine .ite (.map format_tcDecQFifo _ (fun _ => rfl) fun ⟨id, kind⟩ => ?_) fun hfifo => ?_
  · cases kind <;> simp [TcQueue.sent, TcQueueKind.type, TcQueueE.toUInt32]
  refine .ite (.map format_tcDecQCodel _ (fun _ => rfl) fun ⟨id, kind⟩ => ?_) fun hcodel => ?_
  · cases kind <;> simp [TcQueue.sent, TcQueueKind.type, TcQueueE.toUInt32]
  refine .ite (.map format_tcDecQEcnCodel _ (fun _ => rfl) fun ⟨id, kind⟩ => ?_) fun hecn => ?_
  · cases kind <;> simp [TcQueue.sent, TcQueueKind.type, TcQueueE.toUInt32]
  refine .reject fun ⟨id, kind⟩ _ => ?_
  cases kind with
  | fifo q => exact Ne.symm hfifo
  | codel q => exact Ne.symm hcodel
  | ecn q => exact Ne.symm hecn

theorem format_tcDecShpPlcQ :
    tcDecShpPlcQ.Format tcEncShpPlcQ fun t => t.2.2.sent = t.2.2 := by
  refine .bind format_tcDecShp (fun t : TcShp × TcPlc × TcQueue => t.1) (fun _ _ => trivial)
    fun shp _ => .check ?_
  refine .bind format_tcDecPlc (fun t : TcShp × TcPlc × TcQueue => t.2.1) (fun _ _ => trivial)
    fun plc _ => .check ?_
  refine .bind format_tcDecQ (fun t : TcShp × TcPlc × TcQueue => t.2.2) (fun t ht => ht.1.1)
    fun q hq => ?_
  refine .check (.pure fun t => ⟨?_, ?_⟩)
  · rintro ⟨⟨⟨-, rfl⟩, rfl⟩, rfl⟩
    rfl
  · rintro rfl
    exact ⟨⟨⟨hq, rfl⟩, rfl⟩, rfl⟩

theorem format_tcDecIndMsg :
    tcDecIndMsg.Format tcEncIndMsg fun m => m.WellFormed ∧ m.sent = m := by
  refine .bind format_tcDecSch TcIndMsg.sch (fun m hm => ?_) fun sch hsch => .check ?_
  · exact ⟨hm.1.sch, congrArg TcIndMsg.sch hm.2⟩
  refine .bind format_tcDecPcr TcIndMsg.pcr (fun _ _ => trivial) fun pcr _ => .check ?_
  refine .bind format_tcDecCls TcIndMsg.cls (fun m hm => hm.1.1.1.cls) fun cls hcls => .check ?_
  refine .length (fun m : TcIndMsg => m.shpPlcQ.length) (fun _ hm => hm.1.1.1.1.shpPlcQ)
    fun lenQ => .check ?_
  refine .bind (format_tcDecShpPlcQ.repeatN lenQ.toNat) TcIndMsg.shpPlcQ (fun m hm => ?_)
    fun shpPlcQ hshpPlcQ => ?_
  · exact ⟨hm.2, (TcIndMsg.sent_eq_self_iff.1 hm.1.1.1.1.2).2⟩
  rw [bind_pure_comp]
  refine Format.i64.map _ (fun _ _ => rfl) fun m => ⟨?_, ?_⟩
  · rintro ⟨⟨⟨⟨⟨-, rfl⟩, rfl⟩, rfl⟩, -⟩, rfl⟩
    exact ⟨m.tstamp, trivial, rfl⟩
  · rintro ⟨tstamp, -, rfl⟩
    have hlen : shpPlcQ.length < 2 ^ 32 := lt_of_eq_of_lt hshpPlcQ.1 lenQ.toNat_lt
    refine ⟨⟨⟨⟨⟨⟨⟨hsch.1, hcls, hlen⟩, ?_⟩, rfl⟩, rfl⟩, rfl⟩, hshpPlcQ.1⟩, rfl⟩
    exact TcIndMsg.sent_eq_self_iff.2 ⟨hsch.2, hshpPlcQ.2⟩

/-! ## Formats of the control message -/

theorem format_decTcAddCtrlPayloadClsOsi :
    decTcAddCtrlPayloadClsOsi.Format encTcAddCtrlPayloadClsOsi fun _ => True := by
  refine .bind .i64 (fun a : TcAddClsOsi => a.l3.srcAddr) (fun _ _ => trivial) fun srcAddr _ => ?_
  refine .bind .i64 (fun a : TcAddClsOsi => a.l3.dstAddr) (fun _ _ => trivial) fun dstAddr _ => ?_
  refine .bind .i32 (fun a : TcAddClsOsi => a.l4.srcPort) (fun _ _ => trivial) fun srcPort _ => ?_
  refine .bind .i32 (fun a : TcAddClsOsi => a.l4.dstPort) (fun _ _ => trivial) fun dstPort _ => ?_
  refine .bind .i32 (fun a : TcAddClsOsi => a.l4.protocol) (fun _ _ => trivial) fun protocol _ => ?_
  rw [bind_pure_comp]
  refine Format.i32.map _ (fun _ _ => rfl) fun a => ⟨?_, ?_⟩
  · rintro ⟨⟨⟨⟨⟨-, rfl⟩, rfl⟩, rfl⟩, rfl⟩, rfl⟩
    exact ⟨a.dstQueue, trivial, rfl⟩
  · rintro ⟨dstQueue, -, rfl⟩
    exact ⟨⟨⟨⟨⟨trivial, rfl⟩, rfl⟩, rfl⟩, rfl⟩, rfl⟩

theorem format_decTcAddCtrlPayloadCls :
    decTcAddCtrlPayloadCls.Format encTcAddCtrlPayloadCls fun _ => True := by
  refine .tag (fun a : TcAddCtrlCls => a.type.toUInt32) ⟨.rr 0, trivial⟩ fun t => ?_
  refine .ite (.map .u32 _ (fun _ => rfl) fun a => ?_) fun hrr => ?_
  · cases a <;> simp [TcAddCtrlCls.type, TcClsE.toUInt32]
  refine .ite (.map format_decTcAddCtrlPayloadClsOsi _ (fun _ => rfl) fun a => ?_) fun hosi => ?_
  · cases a <;> simp [TcAddCtrlCls.type, TcClsE.toUInt32]
  refine .ite (.map .u32 _ (fun _ => rfl) fun a => ?_) fun hsto => ?_
  · cases a <;> simp [TcAddCtrlCls.type, TcClsE.toUInt32]
  refine .reject fun a _ => ?_
  cases a with
  | rr dummy => exact Ne.symm hrr
  | osi osi => exact Ne.symm hosi
  | sto dummy => exact Ne.symm hsto

theorem format_decTcModCtrlPayloadCls :
    decTcModCtrlPayloadCls.Format encTcModCtrlPayloadCls fun _ => True := by
  refine .tag (fun m : TcModCtrlCls => m.type.toUInt32) ⟨.rr 0, trivial⟩ fun t => ?_
  refine .ite (.map .u32 _ (fun _ => rfl) fun m => ?_) fun hrr => ?_
  · cases m <;> simp [TcModCtrlCls.type, TcClsE.toUInt32]
  refine .ite (.map format_tcDecClsOsiFilter _ (fun _ => rfl) fun m => ?_) fun hosi => ?_
  · cases m <;> simp [TcModCtrlCls.type, TcClsE.toUInt32]
  refine .ite (.map .u32 _ (fun _ => rfl) fun m => ?_) fun hsto => ?_
  · cases m <;> simp [TcModCtrlCls.type, TcClsE.toUInt32]
  refine .reject fun m _ => ?_
  cases m with
  | rr dummy => exact Ne.symm hrr
  | osi filter => exact Ne.symm hosi
  | sto dummy => exact Ne.symm hsto

theorem format_decTcDelCtrlPayloadCls :
    decTcDelCtrlPayloadCls.Format encTcDelCtrlPayloadCls fun _ => True := by
  refine .tag (fun d : TcDelCtrlCls => d.type.toUInt32) ⟨.rr 0, trivial⟩ fun t => ?_
  refine .ite (.map .u32 _ (fun _ => rfl) fun d => ?_) fun hrr => ?_
  · cases d <;> simp [TcDelCtrlCls.type, TcClsE.toUInt32]
  refine .ite (.map .u32 _ (fun _ => rfl) fun d => ?_) fun hosi => ?_
  · cases d <;> simp [TcDelCtrlCls.type, TcClsE.toUInt32]
  refine .ite (.map .u32 _ (fun _ => rfl) fun d => ?_) fun hsto => ?_
  · cases d <;> simp [TcDelCtrlCls.type, TcClsE.toUInt32]
  refine .reject fun d _ => ?_
  cases d with
  | rr dummy => exact Ne.symm hrr
  | osi filterId => exact Ne.symm hosi
  | sto dummy => exact Ne.symm hsto

/-- The values that a `TcCtrl` carries are well formed. -/
def TcCtrl.All {Add Mod Del : Type} (add : Add → Prop) (mod : Mod → Prop) (del : Del → Prop) :
    TcCtrl Add Mod Del → Prop
  | .add a => add a
  | .mod m => mod m
  | .del d => del d

theorem format_decTcCtrlPayload {Add Mod Del : Type} {decAdd : Decoder Add}
    {encAdd : Add → Layout} {wfAdd : Add → Prop} {decMod : Decoder Mod} {encMod : Mod → Layout}
    {wfMod : Mod → Prop} {decDel : Decoder Del} {encDel : Del → Layout} {wfDel : Del → Prop}
    (hadd : decAdd.Format encAdd wfAdd) (hmod : decMod.Format encMod wfMod)
    (hdel : decDel.Format encDel wfDel) :
    (decTcCtrlPayload decAdd decMod decDel).Format (encTcCtrlPayload encAdd encMod encDel)
      (TcCtrl.All wfAdd wfMod wfDel) := by
  obtain ⟨a₀, ha₀⟩ := hadd.nonempty
  refine .tag (fun c : TcCtrl Add Mod Del => c.act.toUInt32) ⟨.add a₀, ha₀⟩ fun t => ?_
  refine .ite (.map hadd _ (fun _ => rfl) fun c => ?_) fun hadd => ?_
  · cases c <;> simp [TcCtrl.All, TcCtrl.act, TcCtrlActE.toUInt32]
  refine .ite (.map hdel _ (fun _ => rfl) fun c => ?_) fun hdel => ?_
  · cases c <;> simp [TcCtrl.All, TcCtrl.act, TcCtrlActE.toUInt32]
  refine .ite (.map hmod _ (fun _ => rfl) fun c => ?_) fun hmod => ?_
  · cases c <;> simp [TcCtrl.All, TcCtrl.act, TcCtrlActE.toUInt32]
  refine .reject fun c _ => ?_
  cases c with
  | add a => exact Ne.symm hadd
  | mod m => exact Ne.symm hmod
  | del d => exact Ne.symm hdel

theorem format_decTcModCtrlPayloadPlc :
    decTcModCtrlPayloadPlc.Format encTcModCtrlPayloadPlc fun _ => True := by
  refine .bind .u32 TcModCtrlPlc.id (fun _ _ => trivial) fun id _ => ?_
  refine .bind .u32 TcModCtrlPlc.dropRateKbps (fun _ _ => trivial) fun dropRateKbps _ => ?_
  refine .bind .u32 TcModCtrlPlc.devId (fun _ _ => trivial) fun devId _ => ?_
  refine .bind .u32 TcModCtrlPlc.devRateKbps (fun _ _ => trivial) fun devRateKbps _ => ?_
  rw [bind_pure_comp]
  refine Format.u32.map _ (fun _ _ => rfl) fun m => ⟨?_, ?_⟩
  · rintro ⟨⟨⟨⟨-, rfl⟩, rfl⟩, rfl⟩, rfl⟩
    exact ⟨m.active, trivial, rfl⟩
  · rintro ⟨active, -, rfl⟩
    exact ⟨⟨⟨⟨trivial, rfl⟩, rfl⟩, rfl⟩, rfl⟩

theorem format_decTcCtrlPayloadQCodel :
    decTcCtrlPayloadQCodel.Format encTcCtrlPayloadQCodel fun _ => True := by
  refine .bind .u32 TcCtrlQueueCodel.targetMs (fun _ _ => trivial) fun targetMs _ => ?_
  rw [bind_pure_comp]
  refine Format.u32.map _ (fun _ _ => rfl) fun q => ⟨?_, ?_⟩
  · rintro ⟨-, rfl⟩
    exact ⟨q.intervalMs, trivial, rfl⟩
  · rintro ⟨intervalMs, -, rfl⟩
    exact ⟨trivial, rfl⟩

theorem format_decTcAddCtrlPayloadQ :
    decTcAddCtrlPayloadQ.Format encTcAddCtrlPayloadQ fun _ => True := by
  refine .tag (fun q : TcAddCtrlQueue => q.type.toUInt32) ⟨.fifo 0, trivial⟩ fun t => ?_
  refine .ite (.map .u32 _ (fun _ => rfl) fun q => ?_) fun hfifo => ?_
  · cases q <;> simp [TcAddCtrlQueue.type, TcQueueE.toUInt32]
  refine .ite (.map format_decTcCtrlPayloadQCodel _ (fun _ => rfl) fun q => ?_) fun hcodel => ?_
  · cases q <;> simp [TcAddCtrlQueue.type, TcQueueE.toUInt32]
  refine .ite (.map format_decTcCtrlPayloadQCodel _ (fun _ => rfl) fun q => ?_) fun hecn => ?_
  · cases q <;> simp [TcAddCtrlQueue.type, TcQueueE.toUInt32]
  refine .reject fun q _ => ?_
  cases q with
  | fifo dummy => exact Ne.symm hfifo
  | codel q => exact Ne.symm hcodel
  | ecn q => exact Ne.symm hecn

theorem format_decTcModCtrlPayloadQ :
    decTcModCtrlPayloadQ.Format encTcModCtrlPayloadQ fun _ => True := by
  refine .bind .u32 TcModCtrlQueue.id (fun _ _ => trivial) fun id _ => ?_
  rw [bind_pure_comp]
  refine format_decTcAddCtrlPayloadQ.map _ (fun _ _ => rfl) fun m => ⟨?_, ?_⟩
  · rintro ⟨-, rfl⟩
    exact ⟨m.kind, trivial, rfl⟩
  · rintro ⟨kind, -, rfl⟩
    exact ⟨trivial, rfl⟩

theorem format_decTcDelCtrlPayloadQ :
    decTcDelCtrlPayloadQ.Format encTcDelCtrlPayloadQ fun _ => True := by
  refine .bind .u32 TcDelCtrlQueue.id (fun _ _ => trivial) fun id _ => ?_
  rw [bind_pure_comp]
  refine Format.u32.map _ (fun _ _ => rfl) fun d => ⟨?_, ?_⟩
  · rintro ⟨-, rfl⟩
    exact ⟨d.type, trivial, rfl⟩
  · rintro ⟨type, -, rfl⟩
    exact ⟨trivial, rfl⟩

theorem format_decTcModCtrlPayloadSch :
    decTcModCtrlPayloadSch.Format encTcModCtrlPayloadSch TcSch.WellFormed := by
  refine .tag (fun s : TcModCtrlSch => s.type.toUInt32) ⟨.rr 0, trivial⟩ fun t => ?_
  refine .ite (.map .u32 _ (fun _ => rfl) fun s => ?_) fun hrr => ?_
  · cases s <;> simp [TcSch.WellFormed, TcSch.type, TcSchE.toUInt32]
  refine .ite (.map (.counted .u32) _ (fun _ => rfl) fun s => ?_) fun hprio => ?_
  · cases s <;> simp [TcSch.WellFormed, TcSch.type, TcSchE.toUInt32]
  refine .reject fun s _ => ?_
  cases s with
  | rr dummy => exact Ne.symm hrr
  | prio qPrio => exact Ne.symm hprio

theorem format_decTcModCtrlPayloadShp :
    decTcModCtrlPayloadShp.Format encTcModCtrlPayloadShp fun _ => True := by
  refine .bind .u32 TcModCtrlShp.id (fun _ _ => trivial) fun id _ => ?_
  refine .bind .u32 TcModCtrlShp.timeWindowMs (fun _ _ => trivial) fun timeWindowMs _ => ?_
  refine .bind .u32 TcModCtrlShp.maxRateKbps (fun _ _ => trivial) fun maxRateKbps _ => ?_
  rw [bind_pure_comp]
  refine Format.u32.map _ (fun _ _ => rfl) fun m => ⟨?_, ?_⟩
  · rintro ⟨⟨⟨-, rfl⟩, rfl⟩, rfl⟩
    exact ⟨m.active, trivial, rfl⟩
  · rintro ⟨active, -, rfl⟩
    exact ⟨⟨⟨trivial, rfl⟩, rfl⟩, rfl⟩

theorem format_decTcModCtrlPayloadPcrBdp :
    decTcModCtrlPayloadPcrBdp.Format encTcModCtrlPayloadPcrBdp fun _ => True := by
  refine .bind .u32 TcPcr5gBdp.drbSz (fun _ _ => trivial) fun drbSz _ => ?_
  rw [bind_pure_comp]
  refine Format.i64.map _ (fun _ _ => rfl) fun bdp => ⟨?_, ?_⟩
  · rintro ⟨-, rfl⟩
    exact ⟨bdp.tstamp, trivial, rfl⟩
  · rintro ⟨tstamp, -, rfl⟩
    exact ⟨trivial, rfl⟩

theorem format_decTcModCtrlPayloadPcr :
    decTcModCtrlPayloadPcr.Format encTcModCtrlPayloadPcr fun _ => True := by
  refine .tag (fun m : TcModCtrlPcr => m.type.toUInt32) ⟨.dummy 0, trivial⟩ fun t => ?_
  refine .ite (.map .u32 _ (fun _ => rfl) fun m => ?_) fun hdummy => ?_
  · cases m <;> simp [TcModCtrlPcr.type, TcPcrE.toUInt32]
  refine .ite (.map format_decTcModCtrlPayloadPcrBdp _ (fun _ => rfl) fun m => ?_) fun hbdp => ?_
  · cases m <;> simp [TcModCtrlPcr.type, TcPcrE.toUInt32]
  refine .reject fun m _ => ?_
  cases m with
  | dummy dummy => exact Ne.symm hdummy
  | bdp bdp => exact Ne.symm hbdp

/-- A control message carries nothing but numbers, except for the priority list. -/
theorem TcCtrl.all_true {Add Mod Del : Type} (c : TcCtrl Add Mod Del) :
    c.All (fun _ => True) (fun _ => True) fun _ => True := by
  cases c <;> trivial

theorem TcCtrlMsg.wellFormed_sch {c : TcCtrl UInt32 TcModCtrlSch UInt32} :
    (TcCtrlMsg.sch c).WellFormed ↔ c.All (fun _ => True) TcSch.WellFormed fun _ => True := by
  cases c <;> exact Iff.rfl

theorem format_tcDecCtrlMsg : tcDecCtrlMsg.Format tcEncCtrlMsg TcCtrlMsg.WellFormed := by
  refine .tag (fun m : TcCtrlMsg => m.type.toUInt32) ⟨.plc (.add 0), trivial⟩ fun t => ?_
  refine .ite (.map (format_decTcCtrlPayload format_decTcAddCtrlPayloadCls
    format_decTcModCtrlPayloadCls format_decTcDelCtrlPayloadCls) _ (fun _ => rfl) fun m => ?_)
    fun hcls => ?_
  · cases m <;> simp [TcCtrlMsg.WellFormed, TcCtrl.all_true, TcCtrlMsg.type, TcCtrlMsgE.toUInt32]
  refine .ite (.map (format_decTcCtrlPayload .u32 format_decTcModCtrlPayloadPlc .u32) _
    (fun _ => rfl) fun m => ?_) fun hplc => ?_
  · cases m <;> simp [TcCtrlMsg.WellFormed, TcCtrl.all_true, TcCtrlMsg.type, TcCtrlMsgE.toUInt32]
  refine .ite (.map (format_decTcCtrlPayload format_decTcAddCtrlPayloadQ
    format_decTcModCtrlPayloadQ format_decTcDelCtrlPayloadQ) _ (fun _ => rfl) fun m => ?_)
    fun hqueue => ?_
  · cases m <;> simp [TcCtrlMsg.WellFormed, TcCtrl.all_true, TcCtrlMsg.type, TcCtrlMsgE.toUInt32]
  refine .ite (.map (format_decTcCtrlPayload .u32 format_decTcModCtrlPayloadSch .u32) _
    (fun _ => rfl) fun m => ?_) fun hsch => ?_
  · cases m <;> simp [TcCtrlMsg.wellFormed_sch, TcCtrlMsg.type, TcCtrlMsgE.toUInt32]
  refine .ite (.map (format_decTcCtrlPayload .u32 format_decTcModCtrlPayloadShp .u32) _
    (fun _ => rfl) fun m => ?_) fun hshp => ?_
  · cases m <;> simp [TcCtrlMsg.WellFormed, TcCtrl.all_true, TcCtrlMsg.type, TcCtrlMsgE.toUInt32]
  refine .ite (.map (format_decTcCtrlPayload .u32 format_decTcModCtrlPayloadPcr .u32) _
    (fun _ => rfl) fun m => ?_) fun hpcr => ?_
  · cases m <;> simp [TcCtrlMsg.WellFormed, TcCtrl.all_true, TcCtrlMsg.type, TcCtrlMsgE.toUInt32]
  refine .reject fun m _ => ?_
  cases m with
  | cls c => exact Ne.symm hcls
  | plc c => exact Ne.symm hplc
  | queue c => exact Ne.symm hqueue
  | sch c => exact Ne.symm hsch
  | shp c => exact Ne.symm hshp
  | pcr c => exact Ne.symm hpcr

/-! ## Round trips -/

/-- The encoder succeeds, and the decoder gives back the message from all of its bytes. -/
def RoundTrip {M : Type} (enc : M → Option (List UInt8)) (dec : Decoder M) (m : M) : Prop :=
  ∃ bs, enc m = some bs ∧ dec bs = .done m []

/-- The decoder gives back what is left of the message. -/
theorem tcDecIndMsgPlain_tcEncIndMsgPlain {m : TcIndMsg} (h : m.WellFormed) :
    ∃ bs, tcEncIndMsgPlain m = some bs ∧ tcDecIndMsgPlain bs = .done m.sent [] := by
  refine ⟨_, tcEncIndMsgPlain_eq m, last_eq_done.2 ⟨?_, rfl⟩⟩
  have hfollows := (guarded_tcEncIndMsg m).follows_bytes []
  rw [List.append_nil] at hfollows
  refine (format_tcDecIndMsg.done_iff _ _ _).2 ⟨⟨h.sent, m.sent_sent⟩, ?_⟩
  rw [tcEncIndMsg_sent]
  exact hfollows

/-- An indication message makes the round trip exactly if what the encoder leaves out is zero: the
id of each queue, and the number of the scheduler `TC_SCHED_RR`. -/
theorem roundTrip_tcIndMsg_iff (m : TcIndMsg) (h : m.WellFormed) :
    RoundTrip tcEncIndMsgPlain tcDecIndMsgPlain m ↔ m.LeftOutZero := by
  obtain ⟨bs, henc, hdec⟩ := tcDecIndMsgPlain_tcEncIndMsgPlain h
  rw [← TcIndMsg.sent_eq_self]
  constructor
  · rintro ⟨bs', henc', hdec'⟩
    obtain rfl : bs = bs' := Option.some.inj (henc.symm.trans henc')
    exact (Decoded.done.inj (hdec.symm.trans hdec')).1
  · intro hsent
    rw [hsent] at hdec
    exact ⟨bs, henc, hdec⟩

/-- A message with one FIFO queue, which has the given id. -/
def TcIndMsg.oneQueue (id : UInt32) : TcIndMsg where
  sch := .prio [7]
  pcr := ⟨1, 1, 10, 20⟩
  cls := .osi [⟨3, 0, ⟨1, 2⟩, ⟨80, 8080, 6⟩, 1⟩]
  shpPlcQ := [(⟨1, 1, 100, 10, 20⟩, ⟨1, ⟨10, 20⟩, ⟨0⟩, ⟨0⟩, 0, 1, 1, 2⟩,
    ⟨id, .fifo ⟨1500, 1, 3000, 2, ⟨0⟩, 0, 12⟩⟩)]
  tstamp := 1000

theorem roundTrip_tcIndMsg_oneQueue :
    RoundTrip tcEncIndMsgPlain tcDecIndMsgPlain (.oneQueue 0) :=
  (roundTrip_tcIndMsg_iff (.oneQueue 0) (by decide)).2
    ⟨fun _ h => (nomatch h), by decide⟩

/-- The queue with the id 1 comes back with the id 0. -/
theorem not_roundTrip_tcIndMsg :
    ¬∀ m : TcIndMsg, m.WellFormed → RoundTrip tcEncIndMsgPlain tcDecIndMsgPlain m := by
  intro h
  obtain ⟨bs, henc, hdec⟩ := h (.oneQueue 1) (by decide)
  obtain ⟨bs', henc', hdec'⟩ := tcDecIndMsgPlain_tcEncIndMsgPlain (m := .oneQueue 1) (by decide)
  obtain rfl : bs = bs' := Option.some.inj (henc.symm.trans henc')
  exact absurd (Decoded.done.inj (hdec.symm.trans hdec')).1 (by decide)

/-- A control message makes the round trip. -/
theorem roundTrip_tcCtrlMsg (m : TcCtrlMsg) (h : m.WellFormed) :
    RoundTrip tcEncCtrlMsgPlain tcDecCtrlMsgPlain m := by
  refine ⟨_, tcEncCtrlMsgPlain_eq m, ?_⟩
  have hfollows := (fills_tcEncCtrlMsg m).plain.follows_bytes []
  rw [List.append_nil] at hfollows
  have hne : (tcEncCtrlMsg m).bytes ≠ [] := by
    refine List.ne_nil_of_length_pos ?_
    rw [tcEncCtrlMsg.eq_def, Layout.bytes_append, List.length_append, Layout.length_bytes_u32]
    omega
  exact bind_eq_done.2 ⟨(), _, if_neg hne,
    last_eq_done.2 ⟨(format_tcDecCtrlMsg.done_iff _ _ _).2 ⟨h, hfollows⟩, rfl⟩⟩

theorem roundTrip_tcCtrlMsg_prio :
    RoundTrip tcEncCtrlMsgPlain tcDecCtrlMsgPlain (.sch (.mod (.prio [2, 1, 0]))) :=
  roundTrip_tcCtrlMsg (.sch (.mod (.prio [2, 1, 0]))) (Nat.lt_of_sub_eq_succ rfl)

/-! ## Canonical bytes -/

/-- Encoding what was decoded gives back the bytes. -/
def Canonical {M : Type} (enc : M → Option (List UInt8)) (dec : Decoder M) : Prop :=
  ∀ bs m rest, dec bs = .done m rest → enc m = some bs

/-- Different bytes are decoded to messages with different encodings. -/
theorem Canonical.injective {M : Type} {enc : M → Option (List UInt8)} {dec : Decoder M}
    (h : Canonical enc dec) {bs bs' rest rest' : List UInt8} {m m' : M}
    (hdec : dec bs = .done m rest) (hdec' : dec bs' = .done m' rest') (henc : enc m = enc m') :
    bs = bs' := by
  have hbs : some bs = some bs' := by
    rw [← h bs m rest hdec, henc, h bs' m' rest' hdec']
  exact Option.some.inj hbs

theorem canonical_tcIndMsg : Canonical tcEncIndMsgPlain tcDecIndMsgPlain := by
  intro bs m rest h
  obtain ⟨hdec, -⟩ := last_eq_done.1 h
  have hbs := ((format_tcDecIndMsg.done_iff _ _ _).1 hdec).2.eq_bytes_append
  rw [List.append_nil] at hbs
  rw [tcEncIndMsgPlain_eq, hbs]

theorem canonical_tcCtrlMsg : Canonical tcEncCtrlMsgPlain tcDecCtrlMsgPlain := by
  intro bs m rest h
  obtain ⟨u, mid, hcheck, hlast⟩ := bind_eq_done.1 h
  have hmid : mid = bs := by
    rw [check] at hcheck
    split at hcheck
    · cases hcheck
    · exact (Decoded.done.inj hcheck).2.symm
  obtain ⟨hdec, -⟩ := last_eq_done.1 hlast
  have hbs := ((format_tcDecCtrlMsg.done_iff _ _ _).1 hdec).2.eq_bytes_append
  rw [List.append_nil, hmid] at hbs
  rw [tcEncCtrlMsgPlain_eq, hbs]

/-- The bytes of an indication message and of a control message are canonical: encoding what was
decoded gives them back, and no two of them are decoded to messages with the same encoding. -/
theorem tcDec_canonical (bs bs' rest rest' : List UInt8) :
    (∀ m, tcDecIndMsgPlain bs = .done m rest → tcEncIndMsgPlain m = some bs ∧
      ∀ m', tcDecIndMsgPlain bs' = .done m' rest' → tcEncIndMsgPlain m = tcEncIndMsgPlain m' →
        bs = bs') ∧
    ∀ m, tcDecCtrlMsgPlain bs = .done m rest → tcEncCtrlMsgPlain m = some bs ∧
      ∀ m', tcDecCtrlMsgPlain bs' = .done m' rest' → tcEncCtrlMsgPlain m = tcEncCtrlMsgPlain m' →
        bs = bs' := by
  constructor
  · intro m hdec
    refine ⟨canonical_tcIndMsg bs m rest hdec, ?_⟩
    intro m' hdec' henc
    exact canonical_tcIndMsg.injective hdec hdec' henc
  · intro m hdec
    refine ⟨canonical_tcCtrlMsg bs m rest hdec, ?_⟩
    intro m' hdec' henc
    exact canonical_tcCtrlMsg.injective hdec hdec' henc

/-- The bytes that delete a shaper. -/
theorem tcDec_canonical_del :
    tcDecCtrlMsgPlain [4, 0, 0, 0, 1, 0, 0, 0, 9, 0, 0, 0] = .done (.shp (.del 9)) [] ∧
      tcEncCtrlMsgPlain (.shp (.del 9)) = some [4, 0, 0, 0, 1, 0, 0, 0, 9, 0, 0, 0] := by
  have hdec : tcDecCtrlMsgPlain [4, 0, 0, 0, 1, 0, 0, 0, 9, 0, 0, 0] =
      .done (.shp (.del 9)) [] := by
    decide
  exact ⟨hdec, ((tcDec_canonical _ [] [] []).2 _ hdec).1⟩

/-! ## Reads past the end -/

/-- The bytes begin like an indication message and stop inside one of its fields. -/
def StopsInsideTcIndMsg (bs : List UInt8) : Prop :=
  ∃ m : TcIndMsg, m.WellFormed ∧ (tcEncIndMsg m).EndsInside bs

/-- There are bytes, they begin like a control message and stop inside one of its fields. -/
def StopsInsideTcCtrlMsg (bs : List UInt8) : Prop :=
  bs ≠ [] ∧ ∃ m : TcCtrlMsg, m.WellFormed ∧ (tcEncCtrlMsg m).EndsInside bs

theorem tcDecIndMsgPlain_eq_overread {bs : List UInt8} :
    tcDecIndMsgPlain bs = .overread ↔ StopsInsideTcIndMsg bs := by
  rw [tcDecIndMsgPlain, last_eq_overread, format_tcDecIndMsg.overread_iff]
  constructor
  · rintro ⟨m, ⟨hm, -⟩, hends⟩
    exact ⟨m, hm, hends⟩
  · rintro ⟨m, hm, hends⟩
    rw [← tcEncIndMsg_sent] at hends
    exact ⟨m.sent, ⟨hm.sent, m.sent_sent⟩, hends⟩

theorem tcDecCtrlMsgPlain_eq_overread {bs : List UInt8} :
    tcDecCtrlMsgPlain bs = .overread ↔ StopsInsideTcCtrlMsg bs := by
  rw [tcDecCtrlMsgPlain, StopsInsideTcCtrlMsg, ← format_tcDecCtrlMsg.overread_iff, bind_eq_overread]
  simp only [last_eq_overread, check]
  by_cases hbs : bs = []
  · simp [hbs]
  · simp [hbs]

/-- The decoders stay inside the bytes exactly if these do not stop inside a field. -/
theorem tcDec_no_overread_iff (bs : List UInt8) :
    (tcDecIndMsgPlain bs ≠ .overread ↔ ¬StopsInsideTcIndMsg bs) ∧
      (tcDecCtrlMsgPlain bs ≠ .overread ↔ ¬StopsInsideTcCtrlMsg bs) :=
  ⟨not_congr tcDecIndMsgPlain_eq_overread, not_congr tcDecCtrlMsgPlain_eq_overread⟩

/-- A scheduler message that announces two priorities and brings none. -/
theorem tcDec_overread : ¬∀ bs : List UInt8,
    tcDecIndMsgPlain bs ≠ .overread ∧ tcDecCtrlMsgPlain bs ≠ .overread := by
  intro h
  refine (h [3, 0, 0, 0, 2, 0, 0, 0, 1, 0, 0, 0, 2, 0, 0, 0]).2 ?_
  decide

end FlexRic
