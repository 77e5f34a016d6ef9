import FlexRic.E2ap.SetupRoundTrip

/-!
# Round trips of the service updates and of the configuration updates

The lists of these messages are read item by item, without bounds on the ids and the revisions.
What the decoder makes of each list that an encoder builds is worked out first. What is lost is
what an encoder puts into the wrong list, or a decoder never reads.
-/

namespace FlexRic.Ap

open Asn (Ie E2apPdu ProtocolIeField)

/-! ## Lists of RAN functions -/

theorem copyRanFunction_encRanFunction (rf : RanFunction) :
    copyRanFunction (encRanFunction rf) = rf := by
  simp [copyRanFunction, encRanFunction]

theorem decRanFunctionItem_encRanFunctionItem (rf : RanFunction) :
    decRanFunctionItem (encRanFunctionItem rf) = some rf := by
  simp [decRanFunctionItem, encRanFunctionItem, copyRanFunction_encRanFunction]

theorem decIdRev_asQueryItem (f : RanFunctionIdRev) :
    decIdRev (asQueryItem (encIdRev f)) = some f := by
  simp [decIdRev, asQueryItem, encIdRev]

theorem decAcceptedItem_encAcceptedItem (f : RanFunctionId) :
    decAcceptedItem (encAcceptedItem f) = some f := by
  simp [decAcceptedItem, encAcceptedItem]

/-- The RAN function that a deleted one is read as. -/
def RanFunctionIdRev.asRanFunction (f : RanFunctionIdRev) : RanFunction where
  definition := []
  id := f.id
  rev := f.rev
  oid := none

theorem decRanFunctionItem_encIdRev (f : RanFunctionIdRev) :
    decRanFunctionItem (encIdRev f) = some f.asRanFunction := by
  simp [decRanFunctionItem, encIdRev, copyRanFunction, RanFunctionIdRev.asRanFunction]

theorem mapM_encRanFunctionItem (l : List RanFunction) :
    (l.map encRanFunctionItem).mapM decRanFunctionItem = some l :=
  mapM_map_iff.2 fun rf _ => decRanFunctionItem_encRanFunctionItem rf

theorem mapM_encIdRev (l : List RanFunctionIdRev) :
    (l.map encIdRev).mapM decRanFunctionItem = some (l.map RanFunctionIdRev.asRanFunction) := by
  rw [mapM_eq_some_iff, List.forall₂_map_left_iff, List.forall₂_map_right_iff, List.forall₂_same]
  exact fun f _ => decRanFunctionItem_encIdRev f

theorem mapM_asQueryItem (l : List RanFunctionIdRev) :
    (l.map fun f => asQueryItem (encIdRev f)).mapM decIdRev = some l :=
  mapM_map_iff.2 fun f _ => decIdRev_asQueryItem f

theorem mapM_encAcceptedItem (l : List RanFunctionId) :
    (l.map encAcceptedItem).mapM decAcceptedItem = some l :=
  mapM_map_iff.2 fun f _ => decAcceptedItem_encAcceptedItem f

/-! ## Service updates and queries -/

/-- What comes of a service update: the deleted functions are modified ones. -/
def RicServiceUpdate.sent (su : RicServiceUpdate) : RicServiceUpdate where
  added := su.added
  modified := su.modified ++ su.deleted.map RanFunctionIdRev.asRanFunction
  deleted := []

theorem RicServiceUpdate.sent_eq_iff {su : RicServiceUpdate} : su.sent = su ↔ su.deleted = [] := by
  obtain ⟨added, modified, deleted⟩ := su
  constructor
  · intro h
    exact (congrArg RicServiceUpdate.deleted h).symm
  · intro h
    dsimp only at h
    simp [sent, h]

/-- A service update within the bounds of its encoder. -/
def RicServiceUpdate.Bounded (su : RicServiceUpdate) : Prop :=
  su.added.length ≤ 256 ∧ su.modified.length ≤ 256 ∧ su.deleted.length ≤ 256

theorem encServiceUpdate_bind {su : RicServiceUpdate} (h : su.Bounded) :
    (e2apMsgEnc (.ricServiceUpdate su)).bind e2apMsgDec = some (.ricServiceUpdate su.sent) := by
  obtain ⟨hadded, hmodified, hdeleted⟩ := h
  have hadded' : su.added.length ≤ Asn.maxNumRanFuncId := hadded
  have hmodified' : su.modified.length ≤ Asn.maxNumRanFuncId := hmodified
  have hdeleted' : su.deleted.length ≤ Asn.maxNumRanFuncId := hdeleted
  simp [e2apMsgEnc, encServiceUpdate, hadded', hmodified', hdeleted', e2apMsgDec,
    decServiceUpdate, decRanFunctionsIe, mapM_encRanFunctionItem, mapM_encIdRev,
    RicServiceUpdate.sent, -List.mapM_map]

theorem encServiceQuery_isSome_iff {sq : RicServiceQuery} :
    (e2apMsgEnc (.ricServiceQuery sq)).isSome ↔ sq.accepted.length ≤ 256 := by
  change _ ↔ sq.accepted.length ≤ Asn.maxNumRanFuncId
  simp [e2apMsgEnc, encServiceQuery]

theorem encServiceQuery_bind {sq : RicServiceQuery} (h : sq.accepted.length ≤ 256) :
    (e2apMsgEnc (.ricServiceQuery sq)).bind e2apMsgDec = some (.ricServiceQuery sq) := by
  have h' : sq.accepted.length ≤ Asn.maxNumRanFuncId := h
  simp [e2apMsgEnc, encServiceQuery, h', e2apMsgDec, decServiceQuery, mapM_asQueryItem,
    -List.mapM_map]

/-- A service update within the bounds of its encoder, or a service query. -/
def E2apMsg.ServiceRequest : E2apMsg → Prop
  | .ricServiceUpdate su => su.Bounded
  | .ricServiceQuery _ => True
  | _ => False

/-- What a service request has to be: an update that deletes nothing, or a query that the encoder
takes. -/
def E2apMsg.ServiceRequestKept : E2apMsg → Prop
  | .ricServiceUpdate su => su.deleted = []
  | .ricServiceQuery sq => sq.accepted.length ≤ 256
  | _ => True

/-- A service request comes back as it was sent exactly if it is kept. -/
theorem serviceRequest_roundTrips_iff {msg : E2apMsg} (h : msg.ServiceRequest) :
    RoundTrips e2apMsgEnc e2apMsgDec msg ↔ msg.ServiceRequestKept := by
  cases msg with
  | ricServiceUpdate su =>
    rw [RoundTrips, encServiceUpdate_bind h, Option.some_inj, E2apMsg.ricServiceUpdate.injEq]
    exact RicServiceUpdate.sent_eq_iff
  | ricServiceQuery sq =>
    constructor
    · intro hround
      obtain ⟨pdu, henc, -⟩ := Option.bind_eq_some_iff.1 hround
      exact encServiceQuery_isSome_iff.1 (Option.isSome_of_mem henc)
    · intro hkept
      exact encServiceQuery_bind hkept
  | _ => exact h.elim

/-- An update with one function in each of the three lists. -/
def mixedUpdate (deleted : List RanFunctionIdRev) : RicServiceUpdate where
  added := [⟨[1], 142, 1, none⟩]
  modified := [⟨[2], 143, 2, some [7]⟩]
  deleted := deleted

theorem serviceRequest_mixedUpdate_roundTrips :
    RoundTrips e2apMsgEnc e2apMsgDec (.ricServiceUpdate (mixedUpdate [])) := by
  have h : (E2apMsg.ricServiceUpdate (mixedUpdate [])).ServiceRequest := by
    refine ⟨?_, ?_, ?_⟩ <;> simp [mixedUpdate]
  exact (serviceRequest_roundTrips_iff h).2 rfl

/-- The deleted function comes back as a modified one. -/
theorem mixedUpdate_deleted :
    (E2apMsg.ricServiceUpdate (mixedUpdate [⟨144, 3⟩])).ServiceRequest ∧
      (e2apMsgEnc (.ricServiceUpdate (mixedUpdate [⟨144, 3⟩]))).bind e2apMsgDec =
        some (.ricServiceUpdate ⟨[⟨[1], 142, 1, none⟩],
          [⟨[2], 143, 2, some [7]⟩, ⟨[], 144, 3, none⟩], []⟩) ∧
      ¬RoundTrips e2apMsgEnc e2apMsgDec (.ricServiceUpdate (mixedUpdate [⟨144, 3⟩])) := by
  refine ⟨⟨?_, ?_, ?_⟩, by decide, by decide⟩ <;> simp [mixedUpdate]

/-! ## Service answers -/

theorem encRejectedItem_isSome_iff {r : RejectedRanFunction} :
    (encRejectedItem r).isSome ↔ r.cause ≠ .nothing := by
  simp [encRejectedItem, encCause_isSome_iff]

theorem decRejectedItem_of_encRejectedItem {r : RejectedRanFunction}
    {item : ProtocolIeField Asn.RanFunctionIDcauseItem} (h : encRejectedItem r = some item) :
    decRejectedItem item = some r := by
  obtain ⟨c, hc, h⟩ := Option.bind_eq_some_iff.1 h
  obtain rfl := Option.some.inj h
  simp [decRejectedItem, decCause_of_encCause r.cause c hc]

/-- Rejected functions are sent exactly if all of them have causes. -/
theorem mapM_encRejectedItem_isSome_iff {l : List RejectedRanFunction} :
    (l.mapM encRejectedItem).isSome ↔ ∀ r ∈ l, r.cause ≠ .nothing :=
  mapM_isSome_iff.trans (forall₂_congr fun _ _ => encRejectedItem_isSome_iff)

theorem mapM_decRejectedItem {l : List RejectedRanFunction}
    {items : List (ProtocolIeField Asn.RanFunctionIDcauseItem)}
    (h : l.mapM encRejectedItem = some items) : items.mapM decRejectedItem = some l :=
  mapM_dec_of h fun _ _ => decRejectedItem_of_encRejectedItem

/-- The tag of the list makes no difference to the items. -/
theorem mapM_asIDListItem (items : List (ProtocolIeField Asn.RanFunctionIDcauseItem)) :
    (items.map asIDListItem).mapM decRejectedIDListItem = items.mapM decRejectedItem := by
  rw [List.mapM_map]
  rfl

/-- The walk over an acknowledgement: the rejected functions are read and not counted. -/
theorem serviceUpdateAck_walk {su : RicServiceUpdateAck}
    {items : List (ProtocolIeField Asn.RanFunctionIDcauseItem)}
    (h : su.rejected.mapM encRejectedItem = some items) :
    (encList (fun l => ⟨.ranFunctionsAccepted, .ignore, .serviceRanFunctionsIDList l⟩)
          (su.accepted.map encAcceptedItem) ++
        encList (fun l => ⟨.ranFunctionsRejected, .ignore,
          .serviceRanFunctionsIDList (l.map asIDListItem)⟩) items).foldlM
        decServiceUpdateAckIe ⟨[], []⟩ = some ⟨su.accepted, []⟩ := by
  have haccepted : (encList (fun l => ⟨.ranFunctionsAccepted, .ignore,
      .serviceRanFunctionsIDList l⟩) (su.accepted.map encAcceptedItem)).foldlM
      decServiceUpdateAckIe ⟨[], []⟩ = some ⟨su.accepted, []⟩ := by
    rw [foldlM_encList (List.mapM decAcceptedItem) _ (fun l => (⟨l, []⟩ : RicServiceUpdateAck)) rfl
      (fun l => by simp [decServiceUpdateAckIe, Option.map_eq_bind]), mapM_encAcceptedItem,
      Option.map_some]
  have hrejected : (encList (fun l => ⟨.ranFunctionsRejected, .ignore,
      .serviceRanFunctionsIDList (l.map asIDListItem)⟩) items).foldlM
      decServiceUpdateAckIe ⟨su.accepted, []⟩ = some ⟨su.accepted, []⟩ := by
    rw [foldlM_encList (List.mapM decRejectedItem) _
      (fun _ => (⟨su.accepted, []⟩ : RicServiceUpdateAck)) rfl
      (fun l => by
        simp [decServiceUpdateAckIe, mapM_asIDListItem, Option.map_eq_bind, -List.mapM_map]),
      mapM_decRejectedItem h, Option.map_some]
  rw [List.foldlM_append, haccepted]
  exact hrejected

/-- What is sent for an acknowledgement, and what comes of it. -/
theorem encServiceUpdateAck_bind {su : RicServiceUpdateAck} {pdu : E2apPdu}
    (h : e2apMsgEnc (.ricServiceUpdateAck su) = some pdu) :
    su.accepted.length ≤ 256 ∧
      e2apMsgDec pdu = some (.ricServiceUpdateAck ⟨su.accepted, []⟩) := by
  obtain ⟨haccepted, h⟩ := assert_bind_eq_some.1 h
  obtain ⟨-, h⟩ := assert_bind_eq_some.1 h
  obtain ⟨items, hitems, h⟩ := Option.bind_eq_some_iff.1 h
  obtain rfl := Option.some.inj h
  refine ⟨haccepted, ?_⟩
  simp only [e2apMsgDec, decServiceUpdateAck, assert_true, serviceUpdateAck_walk hitems,
    Option.bind_eq_bind, Option.bind_some]

theorem serviceUpdateAck_roundTrips_iff {su : RicServiceUpdateAck} :
    RoundTrips e2apMsgEnc e2apMsgDec (.ricServiceUpdateAck su) ↔
      su.accepted.length ≤ 256 ∧ su.rejected = [] := by
  constructor
  · intro hround
    obtain ⟨pdu, henc, hdec⟩ := Option.bind_eq_some_iff.1 hround
    obtain ⟨haccepted, hpdu⟩ := encServiceUpdateAck_bind henc
    have hsame : (⟨su.accepted, []⟩ : RicServiceUpdateAck) = su :=
      E2apMsg.ricServiceUpdateAck.inj (Option.some.inj (hpdu.symm.trans hdec))
    exact ⟨haccepted, (congrArg RicServiceUpdateAck.rejected hsame).symm⟩
  · rintro ⟨haccepted, hrejected⟩
    obtain ⟨accepted, rejected⟩ := su
    dsimp only at haccepted hrejected
    subst hrejected
    have henc : (e2apMsgEnc (.ricServiceUpdateAck ⟨accepted, []⟩)).isSome := by
      have hbound : accepted.length ≤ Asn.maxNumRanFuncId := haccepted
      simp [e2apMsgEnc, encServiceUpdateAck, hbound]
    obtain ⟨pdu, hpdu⟩ := Option.isSome_iff_exists.1 henc
    exact (roundTrips_iff hpdu).2 (encServiceUpdateAck_bind hpdu).2

/-- A failure that waits cannot be read: it has the rejected functions twice. -/
theorem serviceUpdateFailure_roundTrips_iff {uf : RicServiceUpdateFailure}
    (hdiag : uf.critDiag = none) :
    RoundTrips e2apMsgEnc e2apMsgDec (.ricServiceUpdateFailure uf) ↔
      uf.timeToWait = none ∧ ∀ r ∈ uf.rejected, r.cause ≠ .nothing := by
  obtain ⟨rejected, timeToWait, critDiag⟩ := uf
  dsimp only at hdiag ⊢
  subst hdiag
  have hnone : encOptional encCritDiag none = some [] := rfl
  rw [← mapM_encRejectedItem_isSome_iff]
  cases hitems : rejected.mapM encRejectedItem with
  | none => simp [RoundTrips, e2apMsgEnc, encServiceUpdateFailure, hitems]
  | some items =>
    have hdec := mapM_decRejectedItem hitems
    cases timeToWait <;>
      simp [RoundTrips, e2apMsgEnc, encServiceUpdateFailure, hitems, hnone, e2apMsgDec,
        decServiceUpdateFailure, hdec, decServiceUpdateFailureIe]

/-- The answer to a service update, without criticality diagnostics. -/
def E2apMsg.ServiceAnswer : E2apMsg → Prop
  | .ricServiceUpdateAck _ => True
  | .ricServiceUpdateFailure uf => uf.critDiag = none
  | _ => False

/-- What a service answer has to be: an acknowledgement within the bounds of the encoder that
rejects nothing, or a failure that does not wait, with a cause for every rejected function. -/
def E2apMsg.ServiceAnswerKept : E2apMsg → Prop
  | .ricServiceUpdateAck su => su.accepted.length ≤ 256 ∧ su.rejected = []
  | .ricServiceUpdateFailure uf =>
      uf.timeToWait = none ∧ ∀ r ∈ uf.rejected, r.cause ≠ .nothing
  | _ => True

/-- A service answer comes back as it was sent exactly if it is kept. -/
theorem serviceAnswer_roundTrips_iff {msg : E2apMsg} (h : msg.ServiceAnswer) :
    RoundTrips e2apMsgEnc e2apMsgDec msg ↔ msg.ServiceAnswerKept := by
  cases msg with
  | ricServiceUpdateAck su => exact serviceUpdateAck_roundTrips_iff
  | ricServiceUpdateFailure uf => exact serviceUpdateFailure_roundTrips_iff h
  | _ => exact h.elim

theorem serviceAnswer_failure_roundTrips :
    RoundTrips e2apMsgEnc e2apMsgDec (.ricServiceUpdateFailure
      ⟨[⟨142, .ricService .excessiveFunctions⟩, ⟨143, .misc .unspecified⟩], none, none⟩) := by
  have h : (E2apMsg.ricServiceUpdateFailure ⟨[⟨142, .ricService .excessiveFunctions⟩,
    ⟨143, .misc .unspecified⟩], none, none⟩).ServiceAnswer := rfl
  exact (serviceAnswer_roundTrips_iff h).2 ⟨rfl, by simp⟩

/-- The rejected function of an acknowledgement is lost, and a failure that waits is not read. -/
theorem serviceAnswer_lost :
    (E2apMsg.ricServiceUpdateAck
        ⟨[⟨142, 1⟩], [⟨143, .ricService .ricResourceLimit⟩]⟩).ServiceAnswer ∧
      (e2apMsgEnc (.ricServiceUpdateAck
        ⟨[⟨142, 1⟩], [⟨143, .ricService .ricResourceLimit⟩]⟩)).bind e2apMsgDec =
        some (.ricServiceUpdateAck ⟨[⟨142, 1⟩], []⟩) ∧
      ¬RoundTrips e2apMsgEnc e2apMsgDec (.ricServiceUpdateAck
        ⟨[⟨142, 1⟩], [⟨143, .ricService .ricResourceLimit⟩]⟩) ∧
      (E2apMsg.ricServiceUpdateFailure
        ⟨[⟨142, .ricService .ricResourceLimit⟩], some .v5s, none⟩).ServiceAnswer ∧
      (e2apMsgEnc (.ricServiceUpdateFailure
        ⟨[⟨142, .ricService .ricResourceLimit⟩], some .v5s, none⟩)).isSome ∧
      ¬RoundTrips e2apMsgEnc e2apMsgDec (.ricServiceUpdateFailure
        ⟨[⟨142, .ricService .ricResourceLimit⟩], some .v5s, none⟩) :=
  ⟨trivial, by decide, by decide, rfl, by decide, by decide⟩

/-! ## Configuration updates -/

/-- What is kept of a component: everything but its id, and not the configuration of an eNB. -/
theorem roundTrips_copyE2NodeComponentConfUpdate_iff {u : E2NodeComponentConfigUpdate}
    (h : u.update ≠ .nothing) :
    RoundTrips encComponentConfUpdate (fun n => copyE2NodeComponentConfUpdate n.value) u ↔
      u.id = none ∧ ¬u.update.IsEnb := by
  rw [← roundTrips_componentConfig_iff h]
  obtain ⟨config, hconfig⟩ := Option.isSome_iff_exists.1 (encComponentConfig_isSome_iff.2 h)
  rw [roundTrips_iff hconfig]
  obtain ⟨type, id, update⟩ := u
  dsimp only at hconfig ⊢
  cases hdec : decComponentConfig config <;>
    simp [RoundTrips, encComponentConfUpdate, copyE2NodeComponentConfUpdate, hconfig, hdec,
      and_comm, @eq_comm _ none]

/-- A configuration update within the bound of its encoder, of components of the four kinds. -/
structure E2NodeConfigurationUpdate.Encodable (cu : E2NodeConfigurationUpdate) : Prop where
  length : cu.compConfUpdateList.length ≤ 16
  update : ∀ u ∈ cu.compConfUpdateList, u.update ≠ .nothing

/-- A configuration update comes back as it was sent exactly if no component has an id and none is
an eNB. -/
theorem nodeConfigurationUpdate_roundTrips_iff {cu : E2NodeConfigurationUpdate}
    (h : cu.Encodable) :
    RoundTrips e2apMsgEnc e2apMsgDec (.e2NodeConfigurationUpdate cu) ↔
      ∀ u ∈ cu.compConfUpdateList, u.id = none ∧ ¬u.update.IsEnb := by
  obtain ⟨items, hitems⟩ := Option.isSome_iff_exists.1
    (mapM_isSome_iff.2 fun u hu => encComponentConfUpdate_isSome_iff.2 (h.update u hu))
  have hiff : (items.mapM fun n => copyE2NodeComponentConfUpdate n.value) =
      some cu.compConfUpdateList ↔ ∀ u ∈ cu.compConfUpdateList, u.id = none ∧ ¬u.update.IsEnb :=
    (mapM_roundTrips_iff hitems).trans
      (forall₂_congr fun u hu => roundTrips_copyE2NodeComponentConfUpdate_iff (h.update u hu))
  have hbound : cu.compConfUpdateList.length ≤ Asn.maxNumActionDef := h.length
  rw [← hiff]
  obtain ⟨list⟩ := cu
  simp [RoundTrips, e2apMsgEnc, encNodeConfigurationUpdate, hbound, hitems, e2apMsgDec,
    decNodeConfigurationUpdate, Option.bind_eq_some_iff]

theorem nodeConfigurationUpdate_ngEnb_roundTrips :
    RoundTrips e2apMsgEnc e2apMsgDec (.e2NodeConfigurationUpdate
      ⟨[⟨.ngEnb, none, .ngEnb (some [5]) none⟩, ⟨.gnb, none, .gnb none none none (some [])⟩]⟩) := by
  have h : E2NodeConfigurationUpdate.Encodable
      ⟨[⟨.ngEnb, none, .ngEnb (some [5]) none⟩, ⟨.gnb, none, .gnb none none none (some [])⟩]⟩ :=
    ⟨by decide, by simp⟩
  exact (nodeConfigurationUpdate_roundTrips_iff h).2 (by simp [E2NodeComponentConfig.IsEnb])

/-- The id of a DU does not come back. -/
theorem nodeConfigurationUpdate_du :
    E2NodeConfigurationUpdate.Encodable ⟨[⟨.gnbDu, some (.gnbDu 9), .gnb none none none none⟩]⟩ ∧
      (e2apMsgEnc (.e2NodeConfigurationUpdate
        ⟨[⟨.gnbDu, some (.gnbDu 9), .gnb none none none none⟩]⟩)).bind e2apMsgDec =
        some (.e2NodeConfigurationUpdate ⟨[⟨.gnbDu, none, .gnb none none none none⟩]⟩) ∧
      ¬RoundTrips e2apMsgEnc e2apMsgDec (.e2NodeConfigurationUpdate
        ⟨[⟨.gnbDu, some (.gnbDu 9), .gnb none none none none⟩]⟩) :=
  ⟨⟨by decide, by simp⟩, by decide, by decide⟩

end FlexRic.Ap
