import FlexRic.Sm.Slice.Formats

/-!
# Round trips of the slice messages

The encoder does not send the sharing ids of an EDF slice: it replaces them by zeros in the message
it was given, and sends the zeros. Every other field comes back, provided that the arrays of the
strings have room.

The decoders look at the end of the bytes only after they have read, but for one check. So they
read past the end whenever the bytes stop in the middle of a field.
-/

namespace FlexRic

open Decoder Layout

/-! ## What is left of a message when it was sent -/

/-- The encoder replaces the sharing ids by zeros. -/
def EdfSlice.sent (edf : EdfSlice) : EdfSlice :=
  { edf with overIds := List.replicate edf.overIds.length 0 }

/-- What is left of the parameters. -/
def SliceParams.sent : SliceParams → SliceParams
  | .sta s => .sta s
  | .nvs n => .nvs n
  | .scn19 s => .scn19 s
  | .edf e => .edf e.sent

/-- What is left of a slice. -/
def FrSlice.sent (slc : FrSlice) : FrSlice := { slc with params := slc.params.sent }

/-- What is left of the slices. -/
def UlDlSliceConf.sent (conf : UlDlSliceConf) : UlDlSliceConf :=
  { conf with slices := conf.slices.map FrSlice.sent }

/-- What is left of the slices in both directions. -/
def SliceConf.sent (conf : SliceConf) : SliceConf := ⟨conf.dl.sent, conf.ul.sent⟩

/-- What is left of an indication message. -/
def SliceIndMsg.sent (m : SliceIndMsg) : SliceIndMsg := { m with sliceConf := m.sliceConf.sent }

/-- What is left of a control message. -/
def SliceCtrlMsg.sent : SliceCtrlMsg → SliceCtrlMsg
  | .addModSlice conf => .addModSlice conf.sent
  | .delSlice conf => .delSlice conf
  | .ueSlice conf => .ueSlice conf

/-- The sharing ids are zero, if there are any. -/
def SliceParams.SharingIdsZero : SliceParams → Prop
  | .edf e => ∀ id ∈ e.overIds, id = 0
  | _ => True

/-- All sharing ids are zero. -/
def SliceConf.SharingIdsZero (conf : SliceConf) : Prop :=
  (∀ slc ∈ conf.dl.slices, slc.params.SharingIdsZero) ∧
    ∀ slc ∈ conf.ul.slices, slc.params.SharingIdsZero

/-- All sharing ids are zero. -/
def SliceIndMsg.SharingIdsZero (m : SliceIndMsg) : Prop := m.sliceConf.SharingIdsZero

/-- All sharing ids are zero. -/
def SliceCtrlMsg.SharingIdsZero : SliceCtrlMsg → Prop
  | .addModSlice conf => conf.SharingIdsZero
  | .delSlice _ => True
  | .ueSlice _ => True

theorem SliceParams.sent_eq_self {par : SliceParams} : par.sent = par ↔ par.SharingIdsZero := by
  cases par with
  | sta sta => simp [sent, SharingIdsZero]
  | nvs nvs => simp [sent, SharingIdsZero]
  | scn19 scn => simp [sent, SharingIdsZero]
  | edf edf =>
    obtain ⟨deadline, guaranteedPrbs, maxReplenish, overIds⟩ := edf
    simp [sent, EdfSlice.sent, SharingIdsZero, eq_comm (b := overIds), List.eq_replicate_iff]

theorem UlDlSliceConf.sent_eq_self {conf : UlDlSliceConf} :
    conf.sent = conf ↔ ∀ slc ∈ conf.slices, slc.params.SharingIdsZero := by
  have hmap : conf.slices.map FrSlice.sent = conf.slices ↔
      ∀ slc ∈ conf.slices, slc.params.SharingIdsZero := by
    nth_rewrite 2 [← List.map_id conf.slices]
    rw [List.map_inj_left]
    refine forall₂_congr fun slc _ => ?_
    obtain ⟨id, label, sched, params⟩ := slc
    simp [FrSlice.sent, SliceParams.sent_eq_self]
  obtain ⟨slices, schedName⟩ := conf
  simp only [sent, mk.injEq, and_true, hmap]

theorem SliceConf.sent_eq_self {conf : SliceConf} : conf.sent = conf ↔ conf.SharingIdsZero := by
  obtain ⟨dl, ul⟩ := conf
  simp only [sent, mk.injEq, UlDlSliceConf.sent_eq_self, SharingIdsZero]

theorem SliceIndMsg.sent_eq_self {m : SliceIndMsg} : m.sent = m ↔ m.SharingIdsZero := by
  obtain ⟨sliceConf, ueSliceConf, tstamp⟩ := m
  simp only [sent, mk.injEq, and_true, SliceConf.sent_eq_self, SharingIdsZero]

theorem SliceCtrlMsg.sent_eq_self {m : SliceCtrlMsg} : m.sent = m ↔ m.SharingIdsZero := by
  cases m with
  | addModSlice conf => simp [sent, SharingIdsZero, SliceConf.sent_eq_self]
  | delSlice conf => simp [sent, SharingIdsZero]
  | ueSlice conf => simp [sent, SharingIdsZero]

/-! What is sent is as long as before. -/

theorem SliceParams.wellFormed_sent {par : SliceParams} (h : par.WellFormed) :
    par.sent.WellFormed := by
  cases par with
  | sta sta => trivial
  | nvs nvs => trivial
  | scn19 scn => trivial
  | edf edf => exact lt_of_eq_of_lt List.length_replicate h

theorem UlDlSliceConf.wellFormed_sent {conf : UlDlSliceConf} (h : conf.WellFormed) :
    conf.sent.WellFormed where
  schedName := h.schedName
  len := by
    rw [sent, List.length_map]
    exact h.len
  slices := by
    refine List.forall_mem_map.2 fun slc hslc => ?_
    have hwf := h.slices slc hslc
    exact ⟨hwf.label, hwf.sched, SliceParams.wellFormed_sent hwf.params⟩

theorem SliceConf.wellFormed_sent {conf : SliceConf} (h : conf.WellFormed) :
    conf.sent.WellFormed :=
  ⟨UlDlSliceConf.wellFormed_sent h.dl, UlDlSliceConf.wellFormed_sent h.ul⟩

theorem SliceIndMsg.wellFormed_sent {m : SliceIndMsg} (h : m.WellFormed) : m.sent.WellFormed :=
  ⟨SliceConf.wellFormed_sent h.sliceConf, h.ueSliceConf⟩

theorem SliceCtrlMsg.wellFormed_sent {m : SliceCtrlMsg} (h : m.WellFormed) :
    m.sent.WellFormed := by
  cases m with
  | addModSlice conf => exact SliceConf.wellFormed_sent h
  | delSlice conf => exact h
  | ueSlice conf => exact h

theorem UlDlSliceConf.allocated_sent {conf : UlDlSliceConf} :
    conf.sent.Allocated ↔ conf.Allocated := by
  have hslc : ∀ slc : FrSlice, slc.sent.Allocated ↔ slc.Allocated := fun slc =>
    ⟨fun h => ⟨h.label, h.sched⟩, fun h => ⟨h.label, h.sched⟩⟩
  constructor
  · intro h
    exact ⟨h.schedName, fun slc hs => (hslc slc).1 (h.slices _ (List.mem_map_of_mem hs))⟩
  · intro h
    exact ⟨h.schedName, List.forall_mem_map.2 fun slc hs => (hslc slc).2 (h.slices slc hs)⟩

theorem SliceConf.allocated_sent {conf : SliceConf} : conf.sent.Allocated ↔ conf.Allocated := by
  constructor
  · intro h
    exact ⟨UlDlSliceConf.allocated_sent.1 h.dl, UlDlSliceConf.allocated_sent.1 h.ul⟩
  · intro h
    exact ⟨UlDlSliceConf.allocated_sent.2 h.dl, UlDlSliceConf.allocated_sent.2 h.ul⟩

theorem SliceCtrlMsg.allocated_sent {m : SliceCtrlMsg} : m.sent.Allocated ↔ m.Allocated := by
  cases m with
  | addModSlice conf => exact SliceConf.allocated_sent
  | delSlice conf => exact Iff.rfl
  | ueSlice conf => exact Iff.rfl

/-! ## The encoder -/

theorem copies_fillStatic (sta : StaticSlice) :
    Copies (SliceEncPlain.fillStatic sta) (SliceEncPlain.fillStatic sta)
      (SliceEncPlain.calStatic sta) :=
  ((Copies.u32 _).append (.u32 _)).check_check (Nat.succ_pos _)

theorem copies_fillRate (rate : NvsRate) :
    Copies (SliceEncPlain.fillRate rate) (SliceEncPlain.fillRate rate) (4 + 4) :=
  (Copies.u32 _).append (.u32 _)

theorem copies_fillNvs (nvs : NvsSlice) :
    Copies (SliceEncPlain.fillNvs nvs) (SliceEncPlain.fillNvs nvs)
      (SliceEncPlain.calNvs nvs) := by
  cases nvs with
  | rate rate => exact (Copies.u32 _).append (copies_fillRate rate)
  | capacity capacity => exact (Copies.u32 _).append (.u32 _)

theorem copies_fillScn19 (scn : Scn19Slice) :
    Copies (SliceEncPlain.fillScn19 scn) (SliceEncPlain.fillScn19 scn)
      (SliceEncPlain.calScn19 scn) := by
  cases scn with
  | dynamic dynamic => exact (Copies.u32 _).append (copies_fillRate dynamic)
  | fixed fixed => exact (Copies.u32 _).append (copies_fillStatic fixed)
  | onDemand onDemand =>
    exact (Copies.u32 _).append ((Copies.u32 _).append ((Copies.u32 _).append (.u32 _)))

/-- `fill_edf` leaves zeros in the message, and copies what it leaves. -/
theorem fillEdf_eq (edf : EdfSlice) : SliceEncPlain.fillEdf edf = (edf.sent.layout, edf.sent) := by
  obtain ⟨deadline, guaranteedPrbs, maxReplenish, overIds⟩ := edf
  cases overIds with
  | nil => rfl
  | cons id overIds =>
    simp [SliceEncPlain.fillEdf, EdfSlice.sent, EdfSlice.layout]

theorem copies_layoutEdf (edf : EdfSlice) :
    Copies edf.layout edf.layout (SliceEncPlain.calEdf edf) := by
  refine ((Copies.u32 _).append ((Copies.u32 _).append ((Copies.u32 _).append
    ((Copies.u32 _).append (.words edf.overIds))))).cast ?_
  rw [SliceEncPlain.calEdf]
  omega

theorem fillParams_snd (par : SliceParams) : (SliceEncPlain.fillParams par).2 = par.sent := by
  cases par with
  | sta sta => rfl
  | nvs nvs => rfl
  | scn19 scn => rfl
  | edf edf => simp [SliceEncPlain.fillParams, fillEdf_eq, SliceParams.sent]

theorem copies_fillParams (par : SliceParams) :
    Copies (SliceEncPlain.fillParams par).1 par.sent.layout (SliceEncPlain.calParams par) := by
  cases par with
  | sta sta => exact (Copies.u32 _).append (copies_fillStatic sta)
  | nvs nvs => exact (Copies.u32 _).append (copies_fillNvs nvs)
  | scn19 scn => exact (Copies.u32 _).append (copies_fillScn19 scn)
  | edf edf =>
    have h := (Copies.u32 SliceAlgorithmE.edf.toUInt32).append (copies_layoutEdf edf.sent)
    simp only [SliceEncPlain.fillParams, fillEdf_eq]
    apply h.cast
    simp [SliceEncPlain.calParams, SliceEncPlain.calEdf, EdfSlice.sent]

theorem fillSlice_snd (slc : FrSlice) : (SliceEncPlain.fillSlice slc).2 = slc.sent := by
  simp [SliceEncPlain.fillSlice, fillParams_snd, FrSlice.sent]

theorem copies_fillSlice (slc : FrSlice) :
    Copies (SliceEncPlain.fillSlice slc).1 slc.sent.layout (SliceEncPlain.calSlice slc) := by
  have h := (Copies.u32 slc.id).append ((Copies.u32 (UInt32.ofNat slc.label.length)).append
    ((Copies.field slc.label).append ((Copies.u32 (UInt32.ofNat slc.sched.length)).append
      ((Copies.field slc.sched).append (copies_fillParams slc.params)))))
  refine (h.check (Nat.add_pos_left (Nat.succ_pos _) _)).cast ?_
  rw [SliceEncPlain.calSlice]
  omega

theorem fillUlDlSliceConf_snd (conf : UlDlSliceConf) :
    (SliceEncPlain.fillUlDlSliceConf conf).2 = conf.sent := by
  simp [SliceEncPlain.fillUlDlSliceConf, UlDlSliceConf.sent, fillSlice_snd]

theorem copies_fillUlDlSliceConf (conf : UlDlSliceConf) :
    Copies (SliceEncPlain.fillUlDlSliceConf conf).1 conf.sent.layout
      (SliceEncPlain.calUlDl conf) := by
  have h := (Copies.u32 (UInt32.ofNat conf.schedName.length)).append
    ((Copies.field conf.schedName).append ((Copies.u32 (UInt32.ofNat conf.slices.length)).append
      (Copies.flatMap fun slc (_ : slc ∈ conf.slices) => copies_fillSlice slc)))
  simp only [SliceEncPlain.fillUlDlSliceConf, UlDlSliceConf.layout, UlDlSliceConf.sent,
    List.flatMap_map, List.length_map]
  apply h.cast
  rw [SliceEncPlain.calUlDl, SliceEncPlain.calSlc]
  omega

theorem copies_fillSliceConf (conf : SliceConf) :
    Copies (SliceEncPlain.fillSliceConf conf).1 conf.sent.layout
      (SliceEncPlain.calSliceConf conf) :=
  ((copies_fillUlDlSliceConf conf.dl).append (copies_fillUlDlSliceConf conf.ul)).cast
    (Nat.add_comm _ _)

theorem fillSliceConf_snd (conf : SliceConf) :
    (SliceEncPlain.fillSliceConf conf).2 = conf.sent := by
  simp [SliceEncPlain.fillSliceConf, fillUlDlSliceConf_snd, SliceConf.sent]

theorem copies_fillUeSliceConf (conf : UeSliceConf) :
    Copies (SliceEncPlain.fillUeSliceConf conf) conf.layout
      (SliceEncPlain.calUeSliceConf conf) := by
  refine (Copies.u32 _).append (.flatMap fun assoc _ => .check ?_ (Nat.succ_pos _))
  exact ((Copies.u32 _).append ((Copies.u32 _).append
    (.plain (plain_u16 _) (length_bytes_u16 _)))).cast rfl

theorem copies_fillDelSliceConf (conf : DelSliceConf) :
    Copies (SliceEncPlain.fillDelSliceConf conf) (SliceEncPlain.fillDelSliceConf conf)
      (SliceEncPlain.calDelSlice conf) := by
  refine ((Copies.u32 _).append ((Copies.words conf.dl).append
    ((Copies.u32 _).append (.words conf.ul)))).cast ?_
  rw [SliceEncPlain.calDelSlice]
  omega

theorem copies_fillIndMsg (m : SliceIndMsg) :
    Copies (SliceEncPlain.fillIndMsg m).1 m.sent.layout (SliceEncPlain.calIndMsgPayload m) := by
  refine ((copies_fillSliceConf m.sliceConf).append ((copies_fillUeSliceConf m.ueSliceConf).append
    (.plain (plain_i64 m.tstamp) (length_bytes_i64 _)))).cast ?_
  rw [SliceEncPlain.calIndMsgPayload]
  omega

theorem copies_fillSliceCtrlMsg (m : SliceCtrlMsg) :
    Copies (SliceEncPlain.fillSliceCtrlMsg m).1 m.sent.layout
      (SliceEncPlain.calCtrlMsgPayload m) := by
  cases m with
  | addModSlice conf => exact (Copies.u32 _).append (copies_fillSliceConf conf)
  | delSlice conf => exact (Copies.u32 _).append (copies_fillDelSliceConf conf)
  | ueSlice conf => exact (Copies.u32 _).append (copies_fillUeSliceConf conf)

theorem fillIndMsg_snd (m : SliceIndMsg) : (SliceEncPlain.fillIndMsg m).2 = m.sent := by
  simp [SliceEncPlain.fillIndMsg, fillSliceConf_snd, SliceIndMsg.sent]

theorem fillSliceCtrlMsg_snd (m : SliceCtrlMsg) :
    (SliceEncPlain.fillSliceCtrlMsg m).2 = m.sent := by
  cases m with
  | addModSlice conf => exact congrArg SliceCtrlMsg.addModSlice (fillSliceConf_snd conf)
  | delSlice conf => rfl
  | ueSlice conf => rfl

/-- The encoder succeeds, and it leaves in the message what it has sent. -/
theorem sliceEncIndMsgPlain_eq (m : SliceIndMsg) :
    SliceEncPlain.sliceEncIndMsgPlain m = some (m.sent.layout.bytes, m.sent) := by
  have h := copies_fillIndMsg m
  simp only [SliceEncPlain.sliceEncIndMsgPlain, fillIndMsg_snd,
    h.guarded.emit_eq [] h.length.symm, h.bytes_eq]
  rfl

/-- The encoder succeeds, and it leaves in the message what it has sent. -/
theorem sliceEncCtrlMsgPlain_eq (m : SliceCtrlMsg) :
    SliceEncPlain.sliceEncCtrlMsgPlain m = some (m.sent.layout.bytes, m.sent) := by
  have h := copies_fillSliceCtrlMsg m
  simp only [SliceEncPlain.sliceEncCtrlMsgPlain, fillSliceCtrlMsg_snd,
    h.guarded.emit_eq [] h.length.symm, h.bytes_eq]
  rfl

/-! ## Sizes -/

/-- The decoder gives back what was sent, if the arrays of the strings have room. -/
theorem sliceDecIndMsgPlain_sent {m : SliceIndMsg} (h : m.WellFormed) :
    SliceDecPlain.sliceDecIndMsgPlain m.sent.layout.bytes = .done m.sent [] ↔ m.Allocated := by
  have hfollows := (copies_fillIndMsg m).wireGuarded.follows_bytes []
  rw [List.append_nil] at hfollows
  rw [SliceDecPlain.sliceDecIndMsgPlain, only_eq_done, last_eq_done, format_fillIndMsg.done_iff]
  refine (and_iff_right ⟨⟨?_, hfollows⟩, rfl⟩).trans SliceConf.allocated_sent
  exact SliceIndMsg.wellFormed_sent h

/-- The decoder gives back what was sent, if the arrays of the strings have room. -/
theorem sliceDecCtrlMsgPlain_sent {m : SliceCtrlMsg} (h : m.WellFormed) :
    SliceDecPlain.sliceDecCtrlMsgPlain m.sent.layout.bytes = .done m.sent [] ↔ m.Allocated := by
  have hfollows := (copies_fillSliceCtrlMsg m).wireGuarded.follows_bytes []
  rw [List.append_nil] at hfollows
  rw [SliceDecPlain.sliceDecCtrlMsgPlain, only_eq_done, last_eq_done, format_fillCtrlMsg.done_iff]
  refine (and_iff_right ⟨⟨?_, hfollows⟩, rfl⟩).trans SliceCtrlMsg.allocated_sent
  exact SliceCtrlMsg.wellFormed_sent h

/-- The encoder succeeds and leaves the message as it is, and the decoder gives it back from all
of the bytes. -/
def RoundTripUnchanged {M : Type} (enc : M → Option (List UInt8 × M)) (dec : Decoder M) (m : M) :
    Prop :=
  ∃ bs, enc m = some (bs, m) ∧ dec bs = .done m []

/-- A message makes the round trip if nothing of it is lost when it is sent. -/
theorem roundTripUnchanged_iff {M : Type} {enc : M → Option (List UInt8 × M)} {dec : Decoder M}
    {m sent : M} {bs : List UInt8} {p : Prop} (henc : enc m = some (bs, sent))
    (hdec : dec bs = .done sent [] ↔ p) :
    RoundTripUnchanged enc dec m ↔ sent = m ∧ p := by
  constructor
  · rintro ⟨bs', henc', hdec'⟩
    obtain ⟨rfl, rfl⟩ := Prod.mk.inj (Option.some.inj (henc.symm.trans henc'))
    exact ⟨rfl, hdec.1 hdec'⟩
  · rintro ⟨rfl, hp⟩
    exact ⟨bs, henc, hdec.2 hp⟩

/-- A message makes the round trip exactly if all sharing ids of its EDF slices are zero and the
arrays of its strings have room. -/
theorem roundTrip_slice_iff (ind : SliceIndMsg) (ctrl : SliceCtrlMsg) (hind : ind.WellFormed)
    (hctrl : ctrl.WellFormed) :
    (RoundTripUnchanged SliceEncPlain.sliceEncIndMsgPlain SliceDecPlain.sliceDecIndMsgPlain ind ↔
      ind.SharingIdsZero ∧ ind.Allocated) ∧
    (RoundTripUnchanged SliceEncPlain.sliceEncCtrlMsgPlain SliceDecPlain.sliceDecCtrlMsgPlain
      ctrl ↔ ctrl.SharingIdsZero ∧ ctrl.Allocated) := by
  rw [← SliceIndMsg.sent_eq_self, ← SliceCtrlMsg.sent_eq_self]
  constructor
  · exact roundTripUnchanged_iff (sliceEncIndMsgPlain_eq ind) (sliceDecIndMsgPlain_sent hind)
  · exact roundTripUnchanged_iff (sliceEncCtrlMsgPlain_eq ctrl) (sliceDecCtrlMsgPlain_sent hctrl)

/-- A configuration of one EDF slice, which has the given sharing ids. -/
def SliceConf.oneEdf (overIds : List UInt32) : SliceConf where
  dl := ⟨[⟨1, [83, 49], [80, 70], .edf ⟨10, 20, 30, overIds⟩⟩], [69, 68, 70]⟩
  ul := ⟨[], []⟩

/-- An indication of one EDF slice and one UE. -/
def SliceIndMsg.oneEdf (overIds : List UInt32) : SliceIndMsg where
  sliceConf := .oneEdf overIds
  ueSliceConf := ⟨[⟨1, 0, 17⟩]⟩
  tstamp := 1000

theorem roundTrip_slice_oneEdf :
    RoundTripUnchanged SliceEncPlain.sliceEncIndMsgPlain SliceDecPlain.sliceDecIndMsgPlain
      (.oneEdf [0]) ∧
    RoundTripUnchanged SliceEncPlain.sliceEncCtrlMsgPlain SliceDecPlain.sliceDecCtrlMsgPlain
      (.addModSlice (.oneEdf [])) := by
  have h := roundTrip_slice_iff (.oneEdf [0]) (.addModSlice (.oneEdf [])) (by decide)
    (show SliceConf.WellFormed _ by decide)
  refine ⟨h.1.2 ⟨?_, by decide⟩, h.2.2 ⟨?_, by decide⟩⟩
  · simp [SliceIndMsg.SharingIdsZero, SliceConf.SharingIdsZero, SliceIndMsg.oneEdf,
      SliceConf.oneEdf, SliceParams.SharingIdsZero]
  · simp [SliceCtrlMsg.SharingIdsZero, SliceConf.SharingIdsZero, SliceConf.oneEdf,
      SliceParams.SharingIdsZero]

/-- The EDF slice that shares with slice 5 is sent, and left behind, as sharing with slice 0. -/
theorem not_roundTrip_slice :
    ¬∀ (ind : SliceIndMsg) (ctrl : SliceCtrlMsg), ind.WellFormed → ctrl.WellFormed →
      RoundTripUnchanged SliceEncPlain.sliceEncIndMsgPlain SliceDecPlain.sliceDecIndMsgPlain ind ∧
      RoundTripUnchanged SliceEncPlain.sliceEncCtrlMsgPlain SliceDecPlain.sliceDecCtrlMsgPlain
        ctrl := by
  intro h
  obtain ⟨⟨bs, henc, -⟩, -⟩ := h (.oneEdf [5]) (.ueSlice ⟨[]⟩) (by decide)
    (show UeSliceConf.WellFormed _ by decide)
  rw [sliceEncIndMsgPlain_eq] at henc
  exact absurd (Prod.mk.inj (Option.some.inj henc)).2 (by decide)

/-! ## Reads past the end -/

/-- The bytes begin like an indication message and stop inside one of its fields. -/
def StopsInsideSliceIndMsg (bs : List UInt8) : Prop :=
  ∃ m : SliceIndMsg, m.WellFormed ∧ m.layout.EndsInside bs

/-- The bytes begin like a control message and stop inside one of its fields. -/
def StopsInsideSliceCtrlMsg (bs : List UInt8) : Prop :=
  ∃ m : SliceCtrlMsg, m.WellFormed ∧ m.layout.EndsInside bs

/-- The bytes begin like a control outcome and stop inside one of its fields. -/
def StopsInsideSliceCtrlOut (bs : List UInt8) : Prop :=
  ∃ out : SliceCtrlOut, (out.ans = 0 ∧ out.diagnostic.length < 2 ^ 32) ∧ out.layout.EndsInside bs

/-- The decoders stay inside the bytes exactly if these do not stop inside a field. -/
theorem sliceDec_no_overread_iff (bs : List UInt8) :
    (SliceDecPlain.sliceDecIndMsgPlain bs ≠ .overread ↔ ¬StopsInsideSliceIndMsg bs) ∧
      (SliceDecPlain.sliceDecCtrlMsgPlain bs ≠ .overread ↔ ¬StopsInsideSliceCtrlMsg bs) ∧
      (SliceDecPlain.sliceDecCtrlOutPlain bs ≠ .overread ↔ ¬StopsInsideSliceCtrlOut bs) := by
  refine ⟨not_congr ?_, not_congr ?_, not_congr ?_⟩
  · rw [SliceDecPlain.sliceDecIndMsgPlain, only_eq_overread, last_eq_overread]
    exact format_fillIndMsg.overread_iff bs
  · rw [SliceDecPlain.sliceDecCtrlMsgPlain, only_eq_overread, last_eq_overread]
    exact format_fillCtrlMsg.overread_iff bs
  · exact format_sliceDecCtrlOutPlain.overread_iff bs

/-- A control message that announces two slices to delete and brings none. -/
theorem sliceDec_overread : ¬∀ bs : List UInt8,
    SliceDecPlain.sliceDecIndMsgPlain bs ≠ .overread ∧
      SliceDecPlain.sliceDecCtrlMsgPlain bs ≠ .overread ∧
      SliceDecPlain.sliceDecCtrlOutPlain bs ≠ .overread := by
  intro h
  refine (h [1, 0, 0, 0, 2, 0, 0, 0]).2.1 ?_
  decide

end FlexRic
