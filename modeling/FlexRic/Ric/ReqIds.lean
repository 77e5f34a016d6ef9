import FlexRic.Ric.Timers

/-!
# Request ids

The id of a forwarded request is the low half of a counter that starts at 1021, and nothing ever
takes an entry out of `map_ric_id`. The ids are therefore fresh for the first 64515 requests of a
run, however many of them are answered in the meantime; the next one gets the id 0.
-/

namespace FlexRic

namespace RicState

/-- The id that the next request gets. -/
def newReqId (s : RicState) : UInt16 := s.ric.nextReqId.1

/-- The ids in use: those in `map_ric_id` and the one on its way there. -/
def reqIds (s : RicState) : List UInt16 :=
  s.iappPc.entering.map Fwd.reqId ++ s.iapp.mapRicId.toList.map fun e => e.1.ricReqId

/-- Whether the action gives an id out. -/
def givesId : RicAction → Bool
  | .e42RicRequest _ _ _ => true
  | _ => false

/-- The number of ids given out in a run. -/
def requests (tr : List (RicState × RicAction)) : ℕ := tr.countP fun p => givesId p.2

/-- The ids of a run are fresh: each was non-zero and not in `map_ric_id` when it was chosen, and
no insertion in the map fails. -/
def ReqIdsFresh (tr : List (RicState × RicAction)) (s : RicState) : Prop :=
  (∀ p ∈ tr, ∀ kind req src, p.2 = .e42RicRequest kind req src →
    p.1.newReqId ≠ 0 ∧ ∀ e ∈ p.1.iapp.mapRicId.toList, e.1.ricReqId ≠ p.1.newReqId) ∧
  ∀ r, s.iappPc = .sent r → s.step .addMapRicId ≠ none

/-- The counter counts the ids given out, and the ids in use are different and below it. -/
structure ReqIdInv (n : ℕ) (s : RicState) : Prop where
  /-- the counter -/
  reqId : s.ric.reqId.toNat = 1021 + n
  /-- no id is in use twice -/
  nodup : s.reqIds.Nodup
  /-- the ids in use have been given out -/
  lt : ∀ id ∈ s.reqIds, 1021 ≤ id.toNat ∧ id.toNat < 1021 + n

/-- The invariant is about the counter and the ids in use only. -/
theorem ReqIdInv.congr {n : ℕ} {s t : RicState} (h : s.ReqIdInv n)
    (hreq : t.ric.reqId = s.ric.reqId) (hids : t.reqIds.Perm s.reqIds) : t.ReqIdInv n where
  reqId := by rw [hreq, h.reqId]
  nodup := hids.nodup_iff.2 h.nodup
  lt := fun id hid => h.lt id (hids.mem_iff.1 hid)

theorem reqIdInv_init (epFd : Fd) (plugin : List SmRic) : (init epFd plugin).ReqIdInv 0 where
  reqId := rfl
  nodup := List.nodup_nil
  lt := by simp [reqIds, init, Iapp.init]

/-- As long as the counter fits in 16 bits, the id it gives is new. -/
theorem ReqIdInv.newReqId {n : ℕ} {s : RicState} (h : s.ReqIdInv n) (hn : n < 64515) :
    s.newReqId.toNat = 1021 + n ∧ s.newReqId ∉ s.reqIds := by
  have hnew : s.newReqId.toNat = 1021 + n := by
    have := h.reqId
    simp only [RicState.newReqId, NearRic.nextReqId, UInt32.toNat_toUInt16]
    omega
  refine ⟨hnew, fun hmem => ?_⟩
  have := (h.lt _ hmem).2
  omega

/-- Giving an id out keeps the invariant as long as it is new. -/
theorem ReqIdInv.accept {n : ℕ} {s t : RicState} (h : s.ReqIdInv n) (hn : n < 64515)
    (hreq : t.ric.reqId = s.ric.reqId + 1) (hids : t.reqIds = s.newReqId :: s.reqIds) :
    t.ReqIdInv (n + 1) := by
  obtain ⟨hnew, hfresh⟩ := h.newReqId hn
  refine ⟨?_, ?_, ?_⟩
  · rw [hreq, UInt32.toNat_add, h.reqId]
    exact Nat.mod_eq_of_lt (by change 1021 + n + 1 < 2 ^ 32; omega)
  · rw [hids]
    exact List.nodup_cons.2 ⟨hfresh, h.nodup⟩
  · rw [hids]
    intro id hmem
    rcases List.mem_cons.1 hmem with rfl | hmem
    · omega
    · have := h.lt id hmem
      omega

theorem ReqIdInv.step {n : ℕ} {s t : RicState} {a : RicAction} (h : s.ReqIdInv n)
    (hn : n + (givesId a).toNat ≤ 64515) (ht : s.Trans a t) :
    t.ReqIdInv (n + (givesId a).toNat) := by
  cases ht with
  | e42SetupRequest hpc hset =>
    obtain ⟨⟨-, -, rfl⟩, -⟩ := Iapp.setupXapp_eq_some.1 hset
    exact h.congr rfl (.refl _)
  | e42RicRequest hpc =>
    apply h.accept hn rfl
    simp [reqIds, hpc, Fwd.newEntry, Fwd.reqId, RicState.newReqId,
      NearRic.nextReqId]
  | e42RicSubscriptionDeleteRequest hpc =>
    exact h.congr rfl (.of_eq (by simp [reqIds, hpc, Fwd.newEntry]))
  | createTimer hpc => exact h.congr rfl (.of_eq (by simp [reqIds, hpc]))
  | insertPending hpc => exact h.congr rfl (.of_eq (by simp [reqIds, hpc]))
  | sendRequest hpc => exact h.congr rfl (.of_eq (by simp [reqIds, hpc]))
  | addMapRicId hpc =>
    refine h.congr rfl ?_
    simp only [reqIds, hpc, IappPc.entering_idle, IappPc.entering_sent, List.map_nil,
      List.nil_append]
    exact (BiMap.perm_insert _ _ _ _ _).map _
  | e2SetupRequest => exact h.congr rfl (.refl _)
  | response => exact h.congr rfl (.refl _)
  | indication => exact h.congr rfl (.refl _)
  | findXapp => exact h.congr rfl (.refl _)
  | sendAnswer => exact h.congr rfl (.refl _)
  | timerExpiry => exact h

theorem requests_cons (p : RicState × RicAction) (tr : List (RicState × RicAction)) :
    requests (p :: tr) = requests tr + (givesId p.2).toNat := by
  rw [requests, List.countP_cons, requests]
  cases givesId p.2 <;> rfl

/-- The invariant holds in every run with at most 64515 requests. -/
theorem reqIdInv_run {epFd : Fd} {plugin : List SmRic} {tr : List (RicState × RicAction)}
    {s : RicState} (h : (threads epFd plugin).Run tr s) (hn : requests tr ≤ 64515) :
    s.ReqIdInv (requests tr) := by
  induction h with
  | nil => exact reqIdInv_init epFd plugin
  | cons _ he ht ih =>
    rw [requests_cons] at hn ⊢
    exact (ih (by omega)).step hn (trans_of_step he ht)

/-- The insertion in the map goes through if the id on its way there is not in use twice. -/
theorem addMapRicId_ne_none {s : RicState} {r : Fwd} (hpc : s.iappPc = .sent r)
    (h : s.reqIds.Nodup) : s.step .addMapRicId ≠ none := by
  rw [reqIds, hpc, IappPc.entering_sent, List.map_singleton, List.singleton_append,
    List.nodup_cons] at h
  have hadd : s.iapp.addMapRicId ⟨r.node, r.reqId⟩ r.x = some _ :=
    Iapp.addMapRicId_eq_some.2 ⟨fun e he heq =>
      h.1 (List.mem_map.2 ⟨e, he, heq⟩), rfl⟩
  simp [step, hpc, hadd]

/-- Along a run with at most 64515 requests every choice of an id was made in a state where the
counter had not left the 16 bits. -/
theorem newReqId_of_mem {epFd : Fd} {plugin : List SmRic} {tr : List (RicState × RicAction)}
    {s : RicState} (h : (threads epFd plugin).Run tr s) (hn : requests tr ≤ 64515) :
    ∀ p ∈ tr, givesId p.2 → p.1.newReqId ≠ 0 ∧ p.1.newReqId ∉ p.1.reqIds := by
  induction h with
  | nil => simp
  | @cons tr t u a hrun he ht ih =>
    rw [requests_cons] at hn
    intro p hp hgives
    rcases List.mem_cons.1 hp with rfl | hp
    · have hlt : requests tr < 64515 := by
        simp only [hgives, Bool.toNat_true] at hn
        omega
      obtain ⟨hnew, hfresh⟩ := (reqIdInv_run hrun (by omega)).newReqId hlt
      refine ⟨fun hzero => ?_, hfresh⟩
      rw [hzero] at hnew
      change 0 = _ at hnew
      omega
    · exact ih (by omega) p hp hgives

/-- With more than 64515 requests the one after the 64515th has got the id 0. -/
theorem exists_newReqId_zero {epFd : Fd} {plugin : List SmRic}
    {tr : List (RicState × RicAction)} {s : RicState} (h : (threads epFd plugin).Run tr s)
    (hn : 64515 < requests tr) : ∃ p ∈ tr, givesId p.2 ∧ p.1.newReqId = 0 := by
  induction h with
  | nil => simp [requests] at hn
  | @cons tr t u a hrun he ht ih =>
    by_cases hlt : 64515 < requests tr
    · obtain ⟨p, hp, hgives, hzero⟩ := ih hlt
      exact ⟨p, List.mem_cons_of_mem _ hp, hgives, hzero⟩
    · rw [requests_cons] at hn
      cases hgives : givesId a with
      | false =>
        simp only [hgives, Bool.toNat_false] at hn
        omega
      | true =>
        simp only [hgives, Bool.toNat_true] at hn
        refine ⟨_, List.mem_cons_self, hgives, ?_⟩
        have hreq := (reqIdInv_run hrun (by omega)).reqId
        apply UInt16.toNat_inj.1
        simp only [RicState.newReqId, NearRic.nextReqId, UInt32.toNat_toUInt16, hreq]
        have : requests tr = 64515 := by omega
        rw [this]
        rfl

/-- The ids of a run are fresh exactly if it has at most 64515 requests, whatever is answered when:
nothing takes an entry out of the map, and after 65535 the counter's low half is 0. -/
theorem reqIdsFresh_iff {epFd : Fd} {plugin : List SmRic} {tr : List (RicState × RicAction)}
    {s : RicState} (h : (threads epFd plugin).Run tr s) :
    ReqIdsFresh tr s ↔ requests tr ≤ 64515 := by
  constructor
  · rintro ⟨hfresh, -⟩
    by_contra hn
    obtain ⟨⟨t, a⟩, hp, hgives, hzero⟩ := exists_newReqId_zero h (Nat.lt_of_not_le hn)
    cases a with
    | e42RicRequest kind req src => exact (hfresh _ hp kind req src rfl).1 hzero
    | _ => cases hgives
  · intro hn
    refine ⟨?_, fun r hpc => addMapRicId_ne_none hpc (reqIdInv_run h hn).nodup⟩
    rintro ⟨t, a⟩ hp kind req src rfl
    obtain ⟨hzero, hfresh⟩ := newReqId_of_mem h hn _ hp rfl
    refine ⟨hzero, fun e he heq => hfresh ?_⟩
    exact List.mem_append_right _ (List.mem_map.2 ⟨e, he, heq⟩)

/-- The first request of a small network gets a fresh id. -/
theorem reqIdsFresh_first : ∃ tr s, Sample.ric.Run tr s ∧ requests tr = 1 ∧ ReqIdsFresh tr s := by
  have hstep : Sample.connected.step (.e42RicRequest .control Sample.request Sample.xappAddr) =
      some _ := rfl
  have henabled : Sample.connected.Enabled
      (.e42RicRequest .control Sample.request Sample.xappAddr) := rfl
  have hrun := threads_cons Sample.run_setup henabled hstep
  exact ⟨_, _, hrun, rfl, (reqIdsFresh_iff hrun).2 (by decide)⟩

/-! ## Running out of ids

An xApp that makes one control request after the other, each one answered before the next, uses
the ids up. -/

/-- Both threads wait, no timer is armed and the xApp at `src` can make the request. -/
structure Ready (req : E42RicRequest) (src : SctpInfo) (s : RicState) : Prop where
  /-- the iApp's thread waits -/
  iappPc : s.iappPc = .idle
  /-- the near-RIC's thread waits -/
  ricPc : s.ricPc = .idle
  /-- the request will pass the checks -/
  check : s.iapp.checkE42RicRequest req = some ⟨req.ricId, req.xappId⟩
  /-- the E2 node has an address -/
  node : ∃ dst, s.ric.findMapE2NodeSad req.id = some dst
  /-- the xApp has the address it sends from -/
  xapp : s.iapp.findMapXappsSad req.xappId = some src
  /-- no timer is armed -/
  timers : s.timers = []
  /-- every request is answered -/
  outstanding : s.outstanding = []

/-- The request that the iApp's thread makes of an E42 control request. -/
def controlFwd (s : RicState) (req : E42RicRequest) (src : SctpInfo) : Fwd :=
  ⟨.request .control, req.id, req.ricId.setReqIdLow s.newReqId, ⟨req.ricId, req.xappId⟩, src⟩

/-- The state after the control request was forwarded with the timer `fd`. -/
def afterForward (s : RicState) (r : Fwd) (fd : Fd) : RicState :=
  { s with
    ric := { s.ric with
      reqId := s.ric.reqId + 1
      io := fd :: s.ric.io
      pending := s.ric.pending.insert cmpFd cmpPendingEventRic fd r.event }
    iapp := { s.iapp with
      mapRicId := s.iapp.mapRicId.insert cmpE2NodeRicReq cmpXappRicGenId
        ⟨r.node, r.reqId⟩ r.x }
    timers := (fd, r.event) :: s.timers
    forwarded := r :: s.forwarded
    outstanding := r.event :: s.outstanding }

/-- A control request is forwarded while there are ids left. -/
theorem Ready.forward {epFd : Fd} {plugin : List SmRic} {req : E42RicRequest} {src : SctpInfo}
    {fd : Fd} {tr : List (RicState × RicAction)} {s : RicState} (h : s.Ready req src)
    (hrun : (threads epFd plugin).Run tr s) (hn : requests tr < 64515) (hpos : 0 < fd)
    (hfd : fd ∉ s.ric.io) :
    ∃ tr', (threads epFd plugin).Run (tr' ++ tr) (s.afterForward (s.controlFwd req src) fd) ∧
      requests (tr' ++ tr) = requests tr + 1 ∧ ∀ p ∈ tr', p.1.outstanding.length ≤ 1 := by
  have hfresh := ((reqIdInv_run hrun (by omega)).newReqId hn).2
  obtain ⟨dst, hdst⟩ := h.node
  let r := s.controlFwd req src
  let s₁ : RicState := { s with ric := { s.ric with reqId := s.ric.reqId + 1 }, iappPc := .start r }
  let s₂ : RicState := { s₁ with
    ric := { s₁.ric with io := fd :: s.ric.io }
    iappPc := .armed r fd
    timers := (fd, r.event) :: s.timers }
  let s₃ : RicState := { s₂ with ric := s₂.ric.insertPending fd r.event, iappPc := .registered r }
  let s₄ : RicState := { s₃ with
    iappPc := .sent r
    forwarded := r :: s.forwarded
    outstanding := r.event :: s.outstanding }
  have h₁ : s.step (.e42RicRequest .control req src) = some s₁ := by
    simp only [step, acceptRequest, h.check, Option.map_some]
    rfl
  have h₂ : s₁.step (.createTimer fd) = some s₂ := by
    have hcreate : s₁.ric.createTimerMsAsioRic fd = some { s₁.ric with io := fd :: s.ric.io } :=
      NearRic.createTimer_eq_some.2 ⟨⟨hpos, hfd⟩, rfl⟩
    simp only [step, s₁, hcreate, Option.map_some]
    rfl
  have h₄ : s₃.step .sendRequest = some s₄ := by
    have hsend : s₃.ric.findMapE2NodeSad r.node = some dst := hdst
    simp only [step, s₃, hsend, Option.map_some]
    rfl
  have h₅ : s₄.step .addMapRicId = some (s.afterForward r fd) := by
    have hadd : s₄.iapp.addMapRicId ⟨r.node, r.reqId⟩ r.x =
        some (s.afterForward r fd).iapp := by
      refine Iapp.addMapRicId_eq_some.2 ⟨fun e he heq => hfresh ?_, rfl⟩
      have hid : e.1.ricReqId = s.newReqId := by simpa [r, controlFwd, Fwd.reqId] using heq
      exact List.mem_append_right _ (List.mem_map.2 ⟨e, he, hid⟩)
    simp only [step, s₄, hadd, Option.map_some, afterForward, h.iappPc]
    rfl
  have e₁ : s.Enabled (.e42RicRequest .control req src) := h.iappPc
  have e₂ : s₁.Enabled (.createTimer fd) := ⟨⟨r, rfl⟩, hpos, hfd⟩
  have e₃ : s₂.Enabled .insertPending := ⟨r, fd, rfl⟩
  have e₄ : s₃.Enabled .sendRequest := ⟨r, rfl⟩
  have e₅ : s₄.Enabled .addMapRicId := ⟨r, rfl⟩
  have h₃ : s₂.step .insertPending = some s₃ := rfl
  have hrun₅ := threads_cons (threads_cons (threads_cons (threads_cons (threads_cons hrun
    e₁ h₁) e₂ h₂) e₃ h₃) e₄ h₄) e₅ h₅
  refine ⟨[(s₄, .addMapRicId), (s₃, .sendRequest), (s₂, .insertPending), (s₁, .createTimer fd),
    (s, .e42RicRequest .control req src)], hrun₅, ?_, ?_⟩
  · rw [requests, List.countP_append, Nat.add_comm]
    rfl
  · simp [s₁, s₂, s₃, s₄, h.outstanding]

/-- The acknowledgement of the forwarded control request is routed back to the xApp, and nothing
is left to be answered. -/
theorem Ready.answer {epFd : Fd} {plugin : List SmRic} {req : E42RicRequest} {src : SctpInfo}
    {fd : Fd} {tr : List (RicState × RicAction)} {s : RicState} (h : s.Ready req src)
    (hrun : (threads epFd plugin).Run tr (s.afterForward (s.controlFwd req src) fd))
    (hid : 0 < s.newReqId) (hfresh : s.newReqId ∉ s.reqIds) :
    ∃ tr' t, (threads epFd plugin).Run (tr' ++ tr) t ∧ t.Ready req src ∧
      requests (tr' ++ tr) = requests tr ∧ ∀ p ∈ tr', p.1.outstanding.length ≤ 1 := by
  let r := s.controlFwd req src
  let t := s.afterForward r fd
  have hinv : t.TimerInv := timerInv_reachable ⟨tr, hrun⟩
  have htimers : t.timers = [(fd, r.event)] := by
    show (fd, r.event) :: s.timers = _
    rw [h.timers]
  have hout : t.outstanding = [r.event] := by
    show r.event :: s.outstanding = _
    rw [h.outstanding]
  have hpc : t.iappPc = .idle := h.iappPc
  -- the timer of the request is the only one, so the acknowledgement stops it
  have hpending : t.ric.pending.toList = [(fd, r.event)] := by
    have hperm := hinv.timers_perm
    rw [hpc, htimers] at hperm
    exact List.perm_singleton.1 hperm.symm
  have hregistered : (fd, r.event) ∈ t.ric.pending.toList := by rw [hpending]; simp
  obtain ⟨pending', hext, -, hperm⟩ := hinv.wf.extractRight_of_mem hinv.pending_nodup
    (fun e he _ => by rw [hpending] at he; exact List.mem_singleton.1 he) hregistered
  have hempty : pending'.toList = [] := by
    have hlen := hperm.length_eq
    rw [hpending] at hlen
    exact List.length_eq_zero_iff.1 (by simpa using hlen)
  have hmem : (fd, r.event) ∈ t.timers := by rw [htimers]; simp
  let ans : E2Answer := .controlAcknowledge ⟨r.ricId, .success⟩
  let u₁ : RicState := { t with
    ric := { t.ric with pending := pending', io := t.ric.io.erase fd }
    ricPc := .notify ans
    timers := t.timers.filter fun t' => t'.1 ∈ t.ric.io.erase fd
    outstanding := t.outstanding.erase r.event
    received := ans :: t.received }
  have h₁ : t.step (.e2Answer ans) = some u₁ := by
    have hstop : t.ric.stopPendingEvent r.event =
        some { t.ric with pending := pending', io := t.ric.io.erase fd } := by
      rw [NearRic.stopPendingEvent, hext, Option.bind_some]
      simp only [if_pos (hinv.pos _ hmem)]
      exact NearRic.rmFdAsioRic_eq_some.2 ⟨hinv.mem_io hmem, rfl⟩
    have hhandle : t.ric.e2apMsgHandleRic ans = _ := hstop
    simp only [step, hhandle, Option.map_some]
    rfl
  let u₂ : RicState := { u₁ with ricPc := .routed r.x ans }
  have h₂ : u₁.step .findXapp = some u₂ := by
    have hlow : r.reqId = s.newReqId := RicGenId.setReqIdLow_low _ _
    have hentry : ((⟨r.node, r.reqId⟩ : E2NodeRicReq), r.x) ∈
        u₁.iapp.mapRicId.toList := BiMap.mem_insert.2 (.inl rfl)
    obtain ⟨x, hx⟩ := Iapp.findXappMapRicId_of_mem hentry (by rw [hlow]; exact hid)
    obtain ⟨n, hn, hnid⟩ := Iapp.findXappMapRicId_eq_some hx
    -- no older entry has the new id
    have hxeq : x = r.x := by
      rcases BiMap.mem_insert.1 hn with heq | hold
      · exact congrArg Prod.snd heq
      · refine absurd ?_ hfresh
        exact List.mem_append_right _ (List.mem_map.2 ⟨_, hold, hnid.trans hlow⟩)
    subst hxeq
    have hfind : u₁.iapp.findXappMapRicId ans.ricId.ricReqId.toUInt16 = some r.x := hx
    simp only [step, u₁, Option.map_eq_some_iff] at hfind ⊢
    exact ⟨r.x, hfind, rfl⟩
  have hmsg := u₂.iapp.e2apMsgHandleIapp_eq r.x ans ⟨rfl, rfl⟩
  let u₃ : RicState := { u₂ with
    ricPc := .idle
    delivered := ⟨ans, src, ans.setRicId r.x.ricId⟩ :: u₂.delivered }
  have h₃ : u₂.step .sendAnswer = some u₃ := by
    have hxapp : u₂.iapp.findMapXappsSad r.x.xappId = some src := h.xapp
    rw [hxapp] at hmsg
    simp only [step, u₂, hmsg, Option.map_some]
    rfl
  have e₁ : t.Enabled (.e2Answer ans) := h.ricPc
  have e₂ : u₁.Enabled .findXapp := ⟨⟨ans, rfl⟩, by simp [u₁, hpc, IappPc.holdsMapMtx]⟩
  have e₃ : u₂.Enabled .sendAnswer := ⟨r.x, ans, rfl⟩
  have hrun₃ := threads_cons (threads_cons (threads_cons hrun e₁ h₁) e₂ h₂) e₃ h₃
  have hinv₃ : u₃.TimerInv := timerInv_reachable ⟨_, hrun₃⟩
  refine ⟨[(u₂, .sendAnswer), (u₁, .findXapp), (t, .e2Answer ans)], u₃, hrun₃,
    ⟨hpc, rfl, h.check, h.node, h.xapp, ?_, ?_⟩, ?_, ?_⟩
  · have htimers₃ := hinv₃.timers_perm
    have hpc₃ : u₃.iappPc = .idle := hpc
    have hempty₃ : u₃.ric.pending.toList = [] := hempty
    rw [hpc₃, hempty₃] at htimers₃
    exact htimers₃.eq_nil
  · show t.outstanding.erase r.event = []
    simp [hout]
  · rw [requests, List.countP_append]
    simp [requests, givesId]
  · simp [u₂, u₁, hout]

/-- A control request can be forwarded and answered while there are ids left. -/
theorem Ready.transaction {epFd : Fd} {plugin : List SmRic} {req : E42RicRequest}
    {src : SctpInfo} {tr : List (RicState × RicAction)} {s : RicState} (h : s.Ready req src)
    (hrun : (threads epFd plugin).Run tr s) (hn : requests tr < 64515) :
    ∃ tr' t, (threads epFd plugin).Run (tr' ++ tr) t ∧ t.Ready req src ∧
      requests (tr' ++ tr) = requests tr + 1 ∧ ∀ p ∈ tr', p.1.outstanding.length ≤ 1 := by
  obtain ⟨hnew, hfresh⟩ := (reqIdInv_run hrun (by omega)).newReqId hn
  have hid : 0 < s.newReqId := by
    rw [UInt16.lt_iff_toNat_lt, hnew]
    exact Nat.lt_of_lt_of_le (by decide) (Nat.le_add_right 1021 _)
  -- the socket is the only descriptor in use
  have hio : s.ric.epFd + 1 ∉ s.ric.io := by
    have hperm := (timerInv_reachable ⟨tr, hrun⟩).io_perm
    rw [h.timers] at hperm
    rw [hperm.mem_iff]
    simp
  obtain ⟨tr₁, hrun₁, hreq₁, hout₁⟩ := h.forward hrun hn (Nat.succ_pos _) hio
  obtain ⟨tr₂, t, hrun₂, hready, hreq₂, hout₂⟩ := h.answer hrun₁ hid hfresh
  refine ⟨tr₂ ++ tr₁, t, ?_, hready, ?_, ?_⟩
  · rw [List.append_assoc]
    exact hrun₂
  · rw [List.append_assoc, hreq₂, hreq₁]
  · intro p hp
    rcases List.mem_append.1 hp with hp | hp
    · exact hout₂ p hp
    · exact hout₁ p hp

/-- Any number of transactions up to 64515 can be made one after the other. -/
theorem Ready.transactions {epFd : Fd} {plugin : List SmRic} {req : E42RicRequest}
    {src : SctpInfo} {tr : List (RicState × RicAction)} {s : RicState} (h : s.Ready req src)
    (hrun : (threads epFd plugin).Run tr s) (hout : ∀ p ∈ tr, p.1.outstanding.length ≤ 1)
    (n : ℕ) (hn : requests tr + n ≤ 64515) :
    ∃ tr' t, (threads epFd plugin).Run tr' t ∧ t.Ready req src ∧
      requests tr' = requests tr + n ∧ ∀ p ∈ tr', p.1.outstanding.length ≤ 1 := by
  induction n with
  | zero => exact ⟨tr, s, hrun, h, rfl, hout⟩
  | succ n ih =>
    obtain ⟨tr₁, t₁, hrun₁, hready₁, hreq₁, hout₁⟩ := ih (by omega)
    obtain ⟨tr₂, t₂, hrun₂, hready₂, hreq₂, hout₂⟩ := hready₁.transaction hrun₁ (by omega)
    refine ⟨tr₂ ++ tr₁, t₂, hrun₂, hready₂, by omega, ?_⟩
    intro p hp
    rcases List.mem_append.1 hp with hp | hp
    · exact hout₂ p hp
    · exact hout₁ p hp

/-- The small network is ready after its setup. -/
theorem ready_connected : Sample.connected.Ready Sample.request Sample.xappAddr where
  iappPc := rfl
  ricPc := rfl
  check := rfl
  node := ⟨Sample.nodeAddr, rfl⟩
  xapp := rfl
  timers := rfl
  outstanding := rfl

/-- A run in which every transaction is answered before the next one begins, and the id of the
next one is 0. -/
theorem reqIds_run_out : ∃ tr s, Sample.ric.Run tr s ∧
    (∀ p ∈ tr, p.1.outstanding.length ≤ 1) ∧ s.outstanding = [] ∧ ¬ReqIdsFresh tr s := by
  have hsetup : ∀ p ∈ Sample.setup, p.1.outstanding.length ≤ 1 :=
    List.forall_mem_cons.2 ⟨Nat.zero_le 1, List.forall_mem_singleton.2 (Nat.zero_le 1)⟩
  obtain ⟨tr, s, hrun, hready, hreq, hout⟩ :=
    ready_connected.transactions Sample.run_setup hsetup 64515 (by decide)
  obtain ⟨t, hstep, hout'⟩ : ∃ t, s.step (.e42RicRequest .control Sample.request
      Sample.xappAddr) = some t ∧ t.outstanding = s.outstanding := by
    simp only [step, acceptRequest, hready.check, Option.map_some]
    exact ⟨_, rfl, rfl⟩
  have henabled : s.Enabled (.e42RicRequest .control Sample.request Sample.xappAddr) :=
    hready.iappPc
  have hrun' := threads_cons hrun henabled hstep
  refine ⟨_, t, hrun', ?_, hout'.trans hready.outstanding, ?_⟩
  · refine List.forall_mem_cons.2 ⟨?_, hout⟩
    simp [hready.outstanding]
  · rintro ⟨hfresh, -⟩
    have hcount : 64515 < requests ((s, RicAction.e42RicRequest .control Sample.request
        Sample.xappAddr) :: tr) := by
      rw [requests_cons, hreq]
      exact Nat.lt_of_lt_of_eq (Nat.lt_succ_self 64515) (by simp [requests, Sample.setup, givesId])
    obtain ⟨⟨u, a⟩, hp, hgives, hzero⟩ := exists_newReqId_zero hrun' hcount
    cases a with
    | e42RicRequest kind req src => exact (hfresh _ hp kind req src rfl).1 hzero
    | _ => cases hgives

end RicState

end FlexRic
