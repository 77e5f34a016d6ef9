import FlexRic.Sm.Slice.DecPlain
import FlexRic.Sm.Slice.EncPlain

/-!
# Formats of the slice messages

The layout that the decoder reads back, part by part. It has the fields that the encoder writes,
but not all of the checks that the encoder makes. Where the two sides have the same checks, the
layout is that of the encoder.
-/

namespace FlexRic

open Decoder Layout

/-! ## Layouts -/

/-- The layout of the parameters of an EDF slice. -/
def EdfSlice.layout (edf : EdfSlice) : Layout :=
  u32 edf.deadline ++ (u32 edf.guaranteedPrbs ++ (u32 edf.maxReplenish ++
    (u32 (UInt32.ofNat edf.overIds.length) ++ edf.overIds.flatMap u32)))

/-- The layout of the parameters of a slice. -/
def SliceParams.layout (par : SliceParams) : Layout :=
  u32 par.type.toUInt32 ++
    match par with
    | .sta s => SliceEncPlain.fillStatic s
    | .nvs n => SliceEncPlain.fillNvs n
    | .scn19 s => SliceEncPlain.fillScn19 s
    | .edf e => e.layout

/-- The layout of a slice. -/
def FrSlice.layout (slc : FrSlice) : Layout :=
  u32 slc.id ++ (u32 (UInt32.ofNat slc.label.length) ++ ([.field slc.label] ++
    (u32 (UInt32.ofNat slc.sched.length) ++ ([.field slc.sched] ++ slc.params.layout))))

/-- The layout of the slices. -/
def UlDlSliceConf.layout (conf : UlDlSliceConf) : Layout :=
  u32 (UInt32.ofNat conf.schedName.length) ++ ([.field conf.schedName] ++
    (u32 (UInt32.ofNat conf.slices.length) ++ conf.slices.flatMap FrSlice.layout))

/-- The layout of the slices in both directions. -/
def SliceConf.layout (conf : SliceConf) : Layout := conf.dl.layout ++ conf.ul.layout

/-- The layout of an association of a UE. -/
def UeSliceAssoc.layout (assoc : UeSliceAssoc) : Layout :=
  u32 assoc.dlId ++ (u32 assoc.ulId ++ u16 assoc.rnti)

/-- The layout of the associations. -/
def UeSliceConf.layout (conf : UeSliceConf) : Layout :=
  u32 (UInt32.ofNat conf.ues.length) ++ conf.ues.flatMap UeSliceAssoc.layout

/-- The layout of an indication message. -/
def SliceIndMsg.layout (m : SliceIndMsg) : Layout :=
  m.sliceConf.layout ++ (m.ueSliceConf.layout ++ i64 m.tstamp)

/-- The layout of a control message. -/
def SliceCtrlMsg.layout (m : SliceCtrlMsg) : Layout :=
  u32 m.type.toUInt32 ++
    match m with
    | .addModSlice conf => conf.layout
    | .delSlice conf => SliceEncPlain.fillDelSliceConf conf
    | .ueSlice conf => conf.layout

/-- The layout of a control outcome. -/
def SliceCtrlOut.layout (out : SliceCtrlOut) : Layout :=
  u32 (UInt32.ofNat out.diagnostic.length) ++ [.field out.diagnostic]

/-! ## The parameters of a slice -/

theorem format_fillStatic :
    SliceDecPlain.fillStatic.Format SliceEncPlain.fillStatic fun _ => True := by
  refine .check ?_
  refine .bind .u32 StaticSlice.posHigh (fun _ _ => trivial) fun posHigh _ => ?_
  rw [bind_pure_comp]
  refine Format.u32.map _ (fun _ _ => rfl) fun sta => ⟨?_, ?_⟩
  · rintro ⟨-, rfl⟩
    exact ⟨sta.posLow, trivial, rfl⟩
  · rintro ⟨posLow, -, rfl⟩
    exact ⟨trivial, rfl⟩

theorem format_fillRate : SliceDecPlain.fillRate.Format SliceEncPlain.fillRate fun _ => True := by
  refine .bind .u32 NvsRate.mbpsReference (fun _ _ => trivial) fun mbpsReference _ => ?_
  rw [bind_pure_comp]
  refine Format.u32.map _ (fun _ _ => rfl) fun rate => ⟨?_, ?_⟩
  · rintro ⟨-, rfl⟩
    exact ⟨rate.mbpsRequired, trivial, rfl⟩
  · rintro ⟨mbpsRequired, -, rfl⟩
    exact ⟨trivial, rfl⟩

theorem format_fillCapacity :
    SliceDecPlain.fillCapacity.Format SliceEncPlain.fillCapacity fun _ => True :=
  Format.u32.map _ (fun _ _ => rfl) fun capacity =>
    ⟨fun _ => ⟨capacity.pctReserved, trivial, rfl⟩, fun _ => trivial⟩

theorem format_fillNvs : SliceDecPlain.fillNvs.Format SliceEncPlain.fillNvs fun _ => True := by
  refine .tag (fun n : NvsSlice => n.conf.toUInt32) ⟨.capacity ⟨0⟩, trivial⟩ fun t => ?_
  refine .ite (.map format_fillRate _ (fun _ => rfl) fun n => ?_) fun hrate => ?_
  · cases n <;> simp [NvsSlice.conf, NvsSliceConfE.toUInt32]
  refine .ite (.map format_fillCapacity _ (fun _ => rfl) fun n => ?_) fun hcapacity => ?_
  · cases n <;> simp [NvsSlice.conf, NvsSliceConfE.toUInt32]
  refine .reject fun n _ => ?_
  cases n with
  | rate rate => exact Ne.symm hrate
  | capacity capacity => exact Ne.symm hcapacity

theorem format_fillOnDemand :
    SliceDecPlain.fillOnDemand.Format SliceEncPlain.fillOnDemand fun _ => True := by
  refine .bind .u32 Scn19OnDemand.logDelta (fun _ _ => trivial) fun logDelta _ => ?_
  refine .bind .u32 Scn19OnDemand.pctReserved (fun _ _ => trivial) fun pctReserved _ => ?_
  rw [bind_pure_comp]
  refine Format.u32.map _ (fun _ _ => rfl) fun scn => ⟨?_, ?_⟩
  · rintro ⟨⟨-, rfl⟩, rfl⟩
    exact ⟨scn.tau, trivial, rfl⟩
  · rintro ⟨tau, -, rfl⟩
    exact ⟨⟨trivial, rfl⟩, rfl⟩

theorem format_fillScn19 :
    SliceDecPlain.fillScn19.Format SliceEncPlain.fillScn19 fun _ => True := by
  refine .tag (fun s : Scn19Slice => s.conf.toUInt32) ⟨.fixed ⟨0, 0⟩, trivial⟩ fun t => ?_
  refine .ite (.map format_fillRate _ (fun _ => rfl) fun s => ?_) fun hdynamic => ?_
  · cases s <;> simp [Scn19Slice.conf, Scn19SliceConfE.toUInt32]
  refine .ite (.map format_fillStatic _ (fun _ => rfl) fun s => ?_) fun hfixed => ?_
  · cases s <;> simp [Scn19Slice.conf, Scn19SliceConfE.toUInt32]
  refine .ite (.map format_fillOnDemand _ (fun _ => rfl) fun s => ?_) fun honDemand => ?_
  · cases s <;> simp [Scn19Slice.conf, Scn19SliceConfE.toUInt32]
  refine .reject fun s _ => ?_
  cases s with
  | dynamic dynamic => exact Ne.symm hdynamic
  | fixed fixed => exact Ne.symm hfixed
  | onDemand onDemand => exact Ne.symm honDemand

theorem format_fillEdf : SliceDecPlain.fillEdf.Format EdfSlice.layout EdfSlice.WellFormed := by
  refine .bind .u32 EdfSlice.deadline (fun _ _ => trivial) fun deadline _ => ?_
  refine .bind .u32 EdfSlice.guaranteedPrbs (fun _ _ => trivial) fun guaranteedPrbs _ => ?_
  refine .bind .u32 EdfSlice.maxReplenish (fun _ _ => trivial) fun maxReplenish _ => ?_
  refine .length (fun e : EdfSlice => e.overIds.length) (fun _ he => he.1.1.1) fun lenOver => ?_
  rw [bind_pure_comp]
  refine (Format.u32.repeatN lenOver.toNat).map _ (fun _ _ => rfl) fun e => ⟨?_, ?_⟩
  · rintro ⟨⟨⟨⟨-, rfl⟩, rfl⟩, rfl⟩, hlen⟩
    exact ⟨e.overIds, ⟨hlen, fun _ _ => trivial⟩, rfl⟩
  · rintro ⟨overIds, ⟨hlen, -⟩, rfl⟩
    exact ⟨⟨⟨⟨lt_of_eq_of_lt hlen lenOver.toNat_lt, rfl⟩, rfl⟩, rfl⟩, hlen⟩

theorem format_fillParams :
    SliceDecPlain.fillParams.Format SliceParams.layout SliceParams.WellFormed := by
  refine .tag (fun p : SliceParams => p.type.toUInt32) ⟨.sta ⟨0, 0⟩, trivial⟩ fun t => ?_
  refine .ite (.map format_fillStatic _ (fun _ => rfl) fun p => ?_) fun hsta => ?_
  · cases p <;> simp [SliceParams.WellFormed, SliceParams.type, SliceAlgorithmE.toUInt32]
  refine .ite (.map format_fillNvs _ (fun _ => rfl) fun p => ?_) fun hnvs => ?_
  · cases p <;> simp [SliceParams.WellFormed, SliceParams.type, SliceAlgorithmE.toUInt32]
  refine .ite (.map format_fillScn19 _ (fun _ => rfl) fun p => ?_) fun hscn19 => ?_
  · cases p <;> simp [SliceParams.WellFormed, SliceParams.type, SliceAlgorithmE.toUInt32]
  refine .ite (.map format_fillEdf _ (fun _ => rfl) fun p => ?_) fun hedf => ?_
  · cases p <;> simp [SliceParams.WellFormed, SliceParams.type, SliceAlgorithmE.toUInt32]
  refine .reject fun p _ => ?_
  cases p with
  | sta sta => exact Ne.symm hsta
  | nvs nvs => exact Ne.symm hnvs
  | scn19 scn => exact Ne.symm hscn19
  | edf edf => exact Ne.symm hedf

/-! ## The indication message -/

theorem format_fillSlice : SliceDecPlain.fillSlice.Format FrSlice.layout FrSlice.WellFormed := by
  refine .bind .u32 FrSlice.id (fun _ _ => trivial) fun id _ => ?_
  refine .length (fun s : FrSlice => s.label.length) (fun _ hs => hs.1.label) fun lenLabel => ?_
  refine .bind (.take lenLabel.toNat) FrSlice.label (fun _ hs => hs.2) fun label hlabel => ?_
  refine .length (fun s : FrSlice => s.sched.length) (fun _ hs => hs.1.1.1.sched)
    fun lenSched => ?_
  refine .bind (.take lenSched.toNat) FrSlice.sched (fun _ hs => hs.2) fun sched hsched => ?_
  rw [bind_pure_comp]
  refine format_fillParams.map _ (fun _ _ => rfl) fun s => ⟨?_, ?_⟩
  · rintro ⟨⟨⟨⟨⟨hs, rfl⟩, -⟩, rfl⟩, -⟩, rfl⟩
    exact ⟨s.params, hs.params, rfl⟩
  · rintro ⟨params, hparams, rfl⟩
    refine ⟨⟨⟨⟨⟨⟨?_, ?_, hparams⟩, rfl⟩, hlabel⟩, rfl⟩, hsched⟩, rfl⟩
    · exact lt_of_eq_of_lt hlabel lenLabel.toNat_lt
    · exact lt_of_eq_of_lt hsched lenSched.toNat_lt

theorem format_fillUlDlSliceConf :
    SliceDecPlain.fillUlDlSliceConf.Format UlDlSliceConf.layout UlDlSliceConf.WellFormed := by
  refine .length (fun c : UlDlSliceConf => c.schedName.length) (fun _ hc => hc.schedName)
    fun lenSchedName => ?_
  refine .bind (.take lenSchedName.toNat) UlDlSliceConf.schedName (fun _ hc => hc.2)
    fun schedName hname => ?_
  refine .length (fun c : UlDlSliceConf => c.slices.length) (fun _ hc => hc.1.1.len)
    fun lenSlices => ?_
  rw [bind_pure_comp]
  refine (format_fillSlice.repeatN lenSlices.toNat).map _ (fun _ _ => rfl) fun c => ⟨?_, ?_⟩
  · rintro ⟨⟨⟨hc, -⟩, rfl⟩, hlen⟩
    exact ⟨c.slices, ⟨hlen, hc.slices⟩, rfl⟩
  · rintro ⟨slices, ⟨hlen, hslices⟩, rfl⟩
    refine ⟨⟨⟨⟨?_, ?_, hslices⟩, hname⟩, rfl⟩, hlen⟩
    · exact lt_of_eq_of_lt hname lenSchedName.toNat_lt
    · exact lt_of_eq_of_lt hlen lenSlices.toNat_lt

theorem format_fillSliceConf :
    SliceDecPlain.fillSliceConf.Format SliceConf.layout SliceConf.WellFormed := by
  refine .bind format_fillUlDlSliceConf SliceConf.dl (fun _ hc => hc.dl) fun dl hdl => ?_
  rw [bind_pure_comp]
  refine format_fillUlDlSliceConf.map _ (fun _ _ => rfl) fun c => ⟨?_, ?_⟩
  · rintro ⟨hc, rfl⟩
    exact ⟨c.ul, hc.ul, rfl⟩
  · rintro ⟨ul, hul, rfl⟩
    exact ⟨⟨hdl, hul⟩, rfl⟩

theorem format_fillUeSliceAssoc :
    SliceDecPlain.fillUeSliceAssoc.Format UeSliceAssoc.layout fun _ => True := by
  refine .bind .u32 UeSliceAssoc.dlId (fun _ _ => trivial) fun dlId _ => ?_
  refine .bind .u32 UeSliceAssoc.ulId (fun _ _ => trivial) fun ulId _ => ?_
  rw [bind_pure_comp]
  refine Format.u16.map _ (fun _ _ => rfl) fun assoc => ⟨?_, ?_⟩
  · rintro ⟨⟨-, rfl⟩, rfl⟩
    exact ⟨assoc.rnti, trivial, rfl⟩
  · rintro ⟨rnti, -, rfl⟩
    exact ⟨⟨trivial, rfl⟩, rfl⟩

theorem format_fillUeSliceConf :
    SliceDecPlain.fillUeSliceConf.Format UeSliceConf.layout UeSliceConf.WellFormed := by
  refine .length (fun c : UeSliceConf => c.ues.length) (fun _ hc => hc) fun lenUeSlice => ?_
  rw [bind_pure_comp]
  refine (format_fillUeSliceAssoc.repeatN lenUeSlice.toNat).map _ (fun _ _ => rfl)
    fun c => ⟨?_, ?_⟩
  · rintro ⟨-, hlen⟩
    exact ⟨c.ues, ⟨hlen, fun _ _ => trivial⟩, rfl⟩
  · rintro ⟨ues, ⟨hlen, -⟩, rfl⟩
    exact ⟨lt_of_eq_of_lt hlen lenUeSlice.toNat_lt, hlen⟩

theorem format_fillIndMsg :
    SliceDecPlain.fillIndMsg.Format SliceIndMsg.layout SliceIndMsg.WellFormed := by
  refine .bind format_fillSliceConf SliceIndMsg.sliceConf (fun _ hm => hm.sliceConf)
    fun sliceConf hconf => ?_
  refine .bind format_fillUeSliceConf SliceIndMsg.ueSliceConf (fun _ hm => hm.1.ueSliceConf)
    fun ueSliceConf hues => ?_
  rw [bind_pure_comp]
  refine Format.i64.map _ (fun _ _ => rfl) fun m => ⟨?_, ?_⟩
  · rintro ⟨⟨-, rfl⟩, rfl⟩
    exact ⟨m.tstamp, trivial, rfl⟩
  · rintro ⟨tstamp, -, rfl⟩
    exact ⟨⟨⟨hconf, hues⟩, rfl⟩, rfl⟩

/-! ## The control message and the control outcome -/

theorem format_fillDelSlice :
    SliceDecPlain.fillDelSlice.Format SliceEncPlain.fillDelSliceConf DelSliceConf.WellFormed := by
  refine .length (fun c : DelSliceConf => c.dl.length) (fun _ hc => hc.dl) fun lenDl => ?_
  refine .bind (Format.u32.repeatN lenDl.toNat) DelSliceConf.dl
    (fun _ hc => ⟨hc.2, fun _ _ => trivial⟩) fun dl hdl => ?_
  refine .length (fun c : DelSliceConf => c.ul.length) (fun _ hc => hc.1.1.ul) fun lenUl => ?_
  rw [bind_pure_comp]
  refine (Format.u32.repeatN lenUl.toNat).map _ (fun _ _ => rfl) fun c => ⟨?_, ?_⟩
  · rintro ⟨⟨⟨-, -⟩, rfl⟩, hlen⟩
    exact ⟨c.ul, ⟨hlen, fun _ _ => trivial⟩, rfl⟩
  · rintro ⟨ul, ⟨hlen, -⟩, rfl⟩
    refine ⟨⟨⟨⟨?_, ?_⟩, hdl.1⟩, rfl⟩, hlen⟩
    · exact lt_of_eq_of_lt hdl.1 lenDl.toNat_lt
    · exact lt_of_eq_of_lt hlen lenUl.toNat_lt

theorem format_fillCtrlMsg :
    SliceDecPlain.fillCtrlMsg.Format SliceCtrlMsg.layout SliceCtrlMsg.WellFormed := by
  refine .tag (fun m : SliceCtrlMsg => m.type.toUInt32)
    ⟨.delSlice ⟨[], []⟩, by decide, by decide⟩ fun t => ?_
  refine .ite (.map format_fillSliceConf _ (fun _ => rfl) fun m => ?_) fun hadd => ?_
  · cases m <;> simp [SliceCtrlMsg.WellFormed, SliceCtrlMsg.type, SliceCtrlMsgE.toUInt32]
  refine .ite (.map format_fillDelSlice _ (fun _ => rfl) fun m => ?_) fun hdel => ?_
  · cases m <;> simp [SliceCtrlMsg.WellFormed, SliceCtrlMsg.type, SliceCtrlMsgE.toUInt32]
  refine .ite (.map format_fillUeSliceConf _ (fun _ => rfl) fun m => ?_) fun hue => ?_
  · cases m <;> simp [SliceCtrlMsg.WellFormed, SliceCtrlMsg.type, SliceCtrlMsgE.toUInt32]
  refine .reject fun m _ => ?_
  cases m with
  | addModSlice conf => exact Ne.symm hadd
  | delSlice conf => exact Ne.symm hdel
  | ueSlice conf => exact Ne.symm hue

theorem format_sliceDecCtrlOutPlain :
    SliceDecPlain.sliceDecCtrlOutPlain.Format SliceCtrlOut.layout
      fun out => out.ans = 0 ∧ out.diagnostic.length < 2 ^ 32 := by
  refine .length (fun o : SliceCtrlOut => o.diagnostic.length) (fun _ ho => ho.2)
    fun lenDiag => ?_
  rw [bind_pure_comp]
  refine (Format.take lenDiag.toNat).map _ (fun _ _ => rfl) fun o => ⟨?_, ?_⟩
  · obtain ⟨ans, diagnostic⟩ := o
    rintro ⟨⟨rfl, -⟩, hlen⟩
    exact ⟨diagnostic, hlen, rfl⟩
  · rintro ⟨diagnostic, hlen, rfl⟩
    exact ⟨⟨rfl, lt_of_eq_of_lt hlen lenDiag.toNat_lt⟩, hlen⟩

end FlexRic
