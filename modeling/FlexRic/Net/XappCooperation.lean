import FlexRic.Net.XappOrder
import FlexRic.XApp.Progress

/-!
# What keeps the whole system going

The applications make calls that their xApps can make, about nodes that they were told of and that
serve them; the service models publish what the xApps can take; and every message gets there before
the timer or the deadline that waits for the response. Then the near-RIC is used as it has to be:
what it relies on holds of every request that it takes.
-/

namespace FlexRic

/-- Networks whose nodes can be set up and whose xApps can start. -/
structure XappNetwork.Deployable {κ ι : Type} (N : XappNetwork κ ι) : Prop extends
    N.toE2Network.Deployable where
  /-- a `uint8_t` can count the nodes -/
  nodes : ∃ l : List ι, l.length < 256 ∧ ∀ i, i ∈ l
  /-- an xApp has a service model, and the same ones of both kinds -/
  plugins : ∀ k, (N.xapp k).pluginAg ≠ [] ∧
    (N.xapp k).pluginAg.length = (N.xapp k).pluginRic.length

/-- Whether the message is a setup request. -/
def E42Msg.isSetup : E42Msg → Bool
  | setupRequest _ => true
  | _ => false

/-- Whether the message is a setup response. -/
def XappMsg.isSetup : XappMsg → Bool
  | setupResponse _ => true
  | _ => false

/-- The data of a control request fits into the message. -/
def ApiCall.Fits : ApiCall → Prop
  | control _ _ data => data.ctrlHdr.length < 2049 ∧ data.ctrlMsg.length < 2049
  | _ => True

/-- A call that can be made has a message. -/
theorem E42Xapp.CanCall.draft_ne_none {x : E42Xapp} (hwf : x.actProc.WF) (cfg : XappConfig)
    {c : ApiCall} (h : x.CanCall c.toThread) (hfits : c.Fits) : x.draft cfg c ≠ none := by
  cases c with
  | report id ranFuncId i cb => exact mt Option.map_eq_none_iff.1 (h.request_ne_none hwf rfl)
  | rmReport handle => exact mt Option.map_eq_none_iff.1 (h.request_ne_none hwf rfl)
  | control id ranFuncId data =>
    obtain ⟨⟨ricId, y⟩, hreq⟩ := Option.ne_none_iff_exists'.1 (h.request_ne_none hwf rfl)
    have hshort : data.ctrlHdr.length < 2049 ∧ data.ctrlMsg.length < 2049 := hfits
    simp [draft, hreq, generateRicControlRequest, hshort]

namespace NetState

variable {ι : Type} [DecidableEq ι] {N : E2Network ι} {s t : NetState ι} {a : NetAction ι} {n : ℕ}

/-- Only a timer of an agent makes it send an indication. -/
theorem NetInv.indication_cases (h : s.NetInv N n) (ht : s.Trans N a t) {i : ι}
    {ind : RicIndication} (hmem : (i, .answer (.indication ind)) ∈ t.up.all) :
    (i, .answer (.indication ind)) ∈ s.up.all ∨
      ∃ fd data ev, a = .nodeTimer i fd data ∧ ind = generateIndication data ev := by
  have hsend : ∀ {j : ι} {msg : E2NodeMsg}, (i, .answer (.indication ind)) ∈ (s.up.send j msg).all →
      (i, .answer (.indication ind)) ∈ s.up.all ∨ i = j ∧ msg = .answer (.indication ind) := by
    intro j msg hmem
    rw [Channels.all_send, List.mem_append, List.mem_singleton] at hmem
    exact hmem.imp_right fun heq => ⟨congrArg Prod.fst heq, (congrArg Prod.snd heq).symm⟩
  cases ht with
  | setupRequest hpc hup hric => exact .inl ((Channels.all_perm_of_receive hup).mem_iff.1 hmem)
  | e2Answer hpc hup hric => exact .inl ((Channels.all_perm_of_receive hup).mem_iff.1 hmem)
  | start hnone hstart =>
    rcases hsend hmem with hmem | ⟨-, heq⟩
    · exact .inl hmem
    · cases heq
  | @nodeReceive j fd onControl ag ag' msg down ans hag hpos hfd hdown hrecv =>
    obtain ⟨-, hhandles⟩ :=
      (h.node j ag hag).subsInv.handles (h.receivable hag hpos hfd hdown) hrecv
    cases hhandles with
    | setupResponse => exact .inl hmem
    | _ =>
      rcases hsend hmem with hmem | ⟨-, heq⟩
      · exact .inl hmem
      · cases heq
  | @nodeTimer j fd data ag ag' msg hag he hturn =>
    obtain ⟨-, ⟨req, rfl, -⟩ | ⟨l, -, rfl⟩⟩ :=
      (h.node j ag hag).subsInv.timerExpiry_cases he hturn
    · rcases hsend hmem with hmem | ⟨-, heq⟩
      · exact .inl hmem
      · cases heq
    · rcases hsend hmem with hmem | ⟨rfl, heq⟩
      · exact .inl hmem
      · cases heq
        exact .inr ⟨fd, data, l.event, rfl, rfl⟩
  | _ => exact .inl hmem

/-- There are no more registered nodes than nodes. -/
theorem CooperationInv.registered_lt (h : s.CooperationInv N n) (hN : N.Deployable)
    (hnodes : ∃ l : List ι, l.length < 256 ∧ ∀ i, i ∈ l) : s.registered.length < 256 := by
  obtain ⟨l, hlen, hall⟩ := hnodes
  have hwf := RicState.e2Nodes_wf h.net.reachable
  have hnodup : s.registered.Nodup := by
    refine List.pairwise_map.2 (hwf.distinct.imp_of_mem fun {d e} hd _ hde heq => ?_)
    obtain ⟨i, hi, -⟩ := h.setup.nodes _ (List.mem_map_of_mem hd)
    rw [← heq, hi, hN.eq_self i] at hde
    cases hde
  have hsub : s.registered ⊆ l.map N.nodeId := by
    intro id hid
    obtain ⟨i, rfl, -⟩ := h.setup.nodes id hid
    exact List.mem_map_of_mem (hall i)
  have hle := (hnodup.subperm hsub).length_le
  rw [List.length_map] at hle
  exact Nat.lt_of_le_of_lt hle hlen

end NetState

namespace TierState

variable {κ ι : Type}

/-- The request can be served: it is for a node that is set up, whose service models can do what is
asked for. -/
def Servable (N : XappNetwork κ ι) (s : TierState κ ι) : E42Msg → Prop
  | .setupRequest req => req.ranFuncItem ≠ []
  | .request _ id c => ∃ i, id = N.nodeId i ∧ id ∈ s.net.registered ∧
      (c.forward c.ricId).ServedBy (N.sms i)
  | .subscriptionDeleteRequest _ => True

/-- The application of the xApp `k` may make the call. -/
structure MayCall (N : XappNetwork κ ι) (k : κ) (x : E42Xapp) (c : ApiCall) : Prop where
  can : x.CanCall c.toThread
  fits : c.Fits
  /-- it is about a node that the xApp was told of -/
  known : ∀ id, c.node = some id → ∃ e ∈ x.e2Nodes.nodeToRf.toList, e.1 = id
  /-- which serves the request -/
  served : ∀ xappId i content, x.draft (N.xapp k) c = some (.request xappId (N.nodeId i) content) →
    (content.forward content.ricId).ServedBy (N.sms i)

/-- The xApps can take indications with the data, whatever they are about. -/
def Publishable (N : XappNetwork κ ι) (data : SmIndData) : Prop :=
  ∀ k, ∀ sm ∈ (N.xapp k).pluginRic, ∀ ev, sm.onIndication (generateIndication data ev) ≠ .tcStatsV0

variable [DecidableEq κ] [DecidableEq ι]

/-- What the applications, the RAN and the kernel do. -/
def Cooperates (N : XappNetwork κ ι) (s : TierState κ ι) : TierAction κ ι → Prop
  | .net a => s.net.Cooperates N.toE2Network a ∧
      ∀ i fd data, a = .nodeTimer i fd data → Publishable N data
  | .iappReceive k => ∀ req toIapp, s.toIapp.receive k = some (.setupRequest req, toIapp) →
      s.net.ric.assigned.length < 65536 ∧ s.net.registered ≠ []
  | .xapp _ (.setupTimer _) => False
  | .xapp k (.call c) => ∀ d draft, s.xapp k = .connected d draft → MayCall N k d.ui.xapp c
  | .xapp k (.turn b) => ∀ d draft, s.xapp k = .connected d draft → d.Cooperates b
  | _ => True

variable {N : XappNetwork κ ι} {s t : TierState κ ι} {a : TierAction κ ι} {k : κ}

/-- What holds of the whole system when the parties outside of it cooperate. -/
structure CoopInv (N : XappNetwork κ ι) (s : TierState κ ι) : Prop where
  /-- they cooperate in the network -/
  net : ∃ tr,
    ((e2Network N.toE2Network).restrict (NetState.Cooperates N.toE2Network)).Run tr s.net ∧
      NetState.requests tr = s.requests
  /-- what the xApps ask for can be served -/
  flight : ∀ k msg, (k, msg) ∈ s.toIapp.flight → s.Servable N msg
  draft : ∀ k d msg, s.xapp k = .connected d (some msg) → s.Servable N msg
  /-- no call has run into its deadline -/
  time : ∀ k d draft, s.xapp k = .connected d draft → d.ui.uiPc.InTime
  /-- an xApp sends one setup request -/
  setup : ∀ k, (s.toIapp.sent k).countP E42Msg.isSetup ≤ 1
  /-- which has one response -/
  responses : ∀ k, (s.toXapp.sent k).countP XappMsg.isSetup =
    (Channels.on k s.toIapp.taken).countP E42Msg.isSetup
  /-- the xApps can take the indications -/
  published : ∀ i ind, (i, .answer (.indication ind)) ∈ s.net.up.all → ∀ k,
    ∀ sm ∈ (N.xapp k).pluginRic, ∀ id, sm.onIndication { ind with ricId := id } ≠ .tcStatsV0

namespace TierInv

/-- The threads of a connected xApp. -/
theorem connectedInv (h : s.TierInv N) {d : DispatchState} {draft : Option E42Msg}
    (hp : s.xapp k = .connected d draft) : ∃ x tr,
      XappProc.ConnectedInv (N.xapp k) (NamesNode N) (s.toIapp.sent k)
        (Channels.on k s.toXapp.taken) x tr d draft := by
  have hxapp := h.xapp k
  rw [hp] at hxapp
  cases hxapp with
  | connected hconn => exact ⟨_, _, hconn⟩

/-- The nodes that an xApp was told of are registered. -/
theorem registered_of_known (h : s.TierInv N) {d : DispatchState} {draft : Option E42Msg}
    (hp : s.xapp k = .connected d draft) {e : GlobalE2NodeId × List RanFunction}
    (he : e ∈ d.ui.xapp.e2Nodes.nodeToRf.toList) : e.1 ∈ s.net.registered := by
  obtain ⟨x, tr, hconn⟩ := h.connectedInv hp
  obtain ⟨resp, hresp, -, hnodes⟩ := hconn.setup
  rw [hconn.const.e2Nodes] at he
  obtain ⟨node, hnode, hid⟩ := hnodes e he
  rw [← hid]
  exact (h.setup k resp (Channels.mem_all_of_taken (Channels.mem_on.1 hresp))).nodes node hnode

end TierInv

omit [DecidableEq κ] [DecidableEq ι] in
theorem Servable.mono {msg : E42Msg} (h : s.Servable N msg)
    (hreg : s.net.registered ⊆ t.net.registered) : t.Servable N msg := by
  cases msg with
  | request xappId id c =>
    obtain ⟨i, hi, hid, hserved⟩ := h
    exact ⟨i, hi, hreg hid, hserved⟩
  | setupRequest req => exact h
  | subscriptionDeleteRequest req => trivial

namespace CoopInv

theorem init (N : XappNetwork κ ι) : (init N).CoopInv N where
  net := ⟨[], .nil, rfl⟩
  flight _ _ hmem := absurd hmem List.not_mem_nil
  draft _ _ _ hp := by cases hp
  time _ _ _ hp := by cases hp
  setup _ := Nat.zero_le _
  responses _ := rfl
  published _ _ hmem := absurd hmem List.not_mem_nil

theorem cooperation (h : s.CoopInv N) (hN : N.Deployable) (hn : s.requests < 64515) :
    s.net.CooperationInv N.toE2Network s.requests := by
  obtain ⟨tr, hrun, hreq⟩ := h.net
  exact hreq ▸ NetState.cooperationInv_run hN.toDeployable hrun (hreq ▸ hn)

/-- The calls of the applications are about nodes of the network. -/
theorem apiGuard (h : s.CoopInv N) (hinv : s.TierInv N) (hN : N.Deployable)
    (hn : s.requests < 64515) (he : s.Enabled N a) (hguard : s.Cooperates N a) :
    s.ApiGuard N a := by
  cases a with
  | xapp k b =>
    cases b with
    | call c =>
      obtain ⟨-, d, m, hp, -⟩ := he
      intro node hnode
      obtain ⟨e, hmem, rfl⟩ := (hguard d m hp).known node hnode
      obtain ⟨i, hi, -⟩ := (h.cooperation hN hn).setup.nodes _ (hinv.registered_of_known hp hmem)
      exact ⟨i, hi⟩
    | _ => trivial
  | _ => trivial

/-- The near-RIC is used as it has to be with every message that it takes from an xApp. -/
theorem cooperates_of_receive (h : s.CoopInv N) (hinv : s.TierInv N) (hN : N.Deployable)
    (hn : s.requests < 64515) (horder : s.net.ric.OrderInv) (hpc : s.net.ric.iappPc = .idle)
    {msg : E42Msg} {toIapp : Channels κ E42Msg} (hrecv : s.toIapp.receive k = some (msg, toIapp))
    (hguard : s.Cooperates N (.iappReceive k)) :
    s.net.Cooperates N.toE2Network (msg.toNet (N.xappAddr k)) := by
  have hflight := Channels.mem_flight_of_receive hrecv
  have hservable := h.flight k msg hflight
  have hlt := (h.cooperation hN hn).registered_lt hN.toDeployable hN.nodes
  have horder' := hinv.inOrder_of_receive hn horder hpc hrecv
  have hsent : msg ∈ s.toIapp.sent k := Channels.mem_sent.2 (Channels.mem_all_of_flight hflight)
  cases msg with
  | setupRequest req =>
    obtain ⟨hids, hne⟩ := hguard req toIapp hrecv
    exact ⟨hservable, hids, hne, hlt⟩
  | request xappId id c =>
    obtain ⟨x, tr, d, draft, -, -, hreg, hid⟩ := hinv.connected hsent rfl
    obtain ⟨i, hi, hmem, hserved⟩ := hservable
    rw [← hid] at hreg
    exact ⟨hreg, horder', hlt, i, hi, hmem, hserved⟩
  | subscriptionDeleteRequest req =>
    obtain ⟨x, tr, d, draft, -, -, hreg, hid⟩ := hinv.connected hsent rfl
    rw [← hid] at hreg
    exact ⟨hreg, horder'⟩

/-- The xApps can take the indications that are sent in a step of the network. -/
theorem published_of_trans (h : s.CoopInv N) (hinv : s.TierInv N) (hn : s.requests < 64515)
    {b : NetAction ι} {net : NetState ι} (ht : s.net.Trans N.toE2Network b net)
    (hdata : ∀ i fd data, b = .nodeTimer i fd data → Publishable N data) {i : ι}
    {ind : RicIndication} (hmem : (i, .answer (.indication ind)) ∈ net.up.all) (k : κ) :
    ∀ sm ∈ (N.xapp k).pluginRic, ∀ id, sm.onIndication { ind with ricId := id } ≠ .tcStatsV0 := by
  rcases (hinv.netInv hn).indication_cases ht hmem with hmem | ⟨fd, data, ev, hb, rfl⟩
  · exact h.published i ind hmem k
  · exact fun sm hsm id => hdata i fd data hb k sm hsm { ev with ricId := id }

/-- A step with nothing to or from the xApps. -/
theorem netStep (h : s.CoopInv N) (hinv : s.TierInv N) (hn : s.requests < 64515)
    {b : NetAction ι} {net : NetState ι} (hint : b.isInternal = true)
    (he : s.net.Enabled N.toE2Network b) (hnet : s.net.step N.toE2Network b = some net)
    (hguard : s.Cooperates N (.net b)) : CoopInv N { s with net := net } := by
  have htrans := NetState.trans_of_step he hnet
  have hmono : s.net.registered ⊆ net.registered := htrans.registered_subset
  obtain ⟨tr, hrun, hreq⟩ := h.net
  refine ⟨⟨_, hrun.cons ⟨he, hguard.1⟩ hnet, ?_⟩,
    fun k msg hmem => (h.flight k msg hmem).mono hmono,
    fun k d msg hp => (h.draft k d msg hp).mono hmono, h.time, h.setup, h.responses,
    fun i ind hmem k => h.published_of_trans hinv hn htrans hguard.2 hmem k⟩
  rw [NetState.requests_cons, hreq, NetState.givesId_of_isInternal hint]
  rfl

omit [DecidableEq κ] in
/-- The iApp responds to the setup requests that it takes. -/
theorem countP_respond {msg : E42Msg} {net : NetState ι}
    (hnet : s.net.step N.toE2Network (msg.toNet (N.xappAddr k)) = some net) :
    (s.net.ric.iapp.respond (N.xappAddr k) msg).toList.countP XappMsg.isSetup =
      [msg].countP E42Msg.isSetup := by
  cases msg with
  | setupRequest req =>
    obtain ⟨ric, hric, -⟩ := Option.map_eq_some_iff.1 hnet
    obtain ⟨⟨resp, iapp⟩, hset, -⟩ := Option.map_eq_some_iff.1 hric
    rw [Iapp.respond, hset]
    rfl
  | _ => rfl

/-- The iApp takes a message. -/
theorem iappReceive (h : s.CoopInv N) (hinv : s.TierInv N) (hN : N.Deployable)
    (hn : s.requests < 64515) (horder : s.net.ric.OrderInv) {msg : E42Msg}
    {toIapp : Channels κ E42Msg} {net : NetState ι} (hpc : s.net.ric.iappPc = .idle)
    (hrecv : s.toIapp.receive k = some (msg, toIapp))
    (he : s.net.Enabled N.toE2Network (msg.toNet (N.xappAddr k)))
    (hnet : s.net.step N.toE2Network (msg.toNet (N.xappAddr k)) = some net)
    (hguard : s.Cooperates N (.iappReceive k)) :
    CoopInv N { s with
      net := net
      toIapp := toIapp
      toXapp := (s.net.ric.iapp.respond (N.xappAddr k) msg).elim s.toXapp (s.toXapp.send k) } := by
  have htrans := NetState.trans_of_step he hnet
  have hmono : s.net.registered ⊆ net.registered := htrans.registered_subset
  have hcoop := h.cooperates_of_receive hinv hN hn horder hpc hrecv hguard
  obtain ⟨tr, hrun, hreq⟩ := h.net
  refine ⟨⟨_, hrun.cons ⟨he, hcoop⟩ hnet, ?_⟩, fun j m hmem => ?_, fun j d m hp => ?_, h.time,
    fun j => ?_, fun j => ?_, fun i ind hmem j => ?_⟩
  · rw [NetState.requests_cons, hreq]
    refine Eq.trans ?_ (requests_of_receive hrecv).symm
    cases msg <;> rfl
  · exact (h.flight j m ((Channels.flight_perm_of_receive hrecv).mem_iff.2
      (List.mem_cons_of_mem _ hmem))).mono hmono
  · exact (h.draft j d m hp).mono hmono
  · show (toIapp.sent j).countP _ ≤ 1
    rw [Channels.sent_of_receive hrecv]
    exact h.setup j
  · show (Channels.sent (Option.elim _ s.toXapp (s.toXapp.send k)) j).countP XappMsg.isSetup =
      (Channels.on j toIapp.taken).countP E42Msg.isSetup
    rw [Channels.sent_elim_send, Channels.on_taken_of_receive hrecv, List.countP_append,
      List.countP_append, h.responses j]
    apply Nat.add_left_cancel_iff.2
    split
    · exact countP_respond hnet
    · rfl
  · refine h.published_of_trans hinv hn htrans ?_ hmem j
    cases msg <;> exact nofun

/-- An answer goes out to an xApp. -/
theorem sendAnswer (h : s.CoopInv N) (hinv : s.TierInv N) (hn : s.requests < 64515)
    {x : XappRicId} {ans msg : E2Answer} {net : NetState ι}
    (hpc : s.net.ric.ricPc = .routed x ans)
    (hnet : s.net.step N.toE2Network (.ric .sendAnswer) = some net) :
    CoopInv N { s with net := net, toXapp := s.toXapp.send k (.answer msg) } := by
  have he : s.net.Enabled N.toE2Network (.ric .sendAnswer) := ⟨rfl, x, ans, hpc⟩
  have htrans := NetState.trans_of_step he hnet
  have hmono : s.net.registered ⊆ net.registered := htrans.registered_subset
  obtain ⟨tr, hrun, hreq⟩ := h.net
  refine ⟨⟨_, hrun.cons (a := NetAction.ric .sendAnswer) ⟨he, trivial⟩ hnet, ?_⟩,
    fun j m hmem => (h.flight j m hmem).mono hmono, fun j d m hp => (h.draft j d m hp).mono hmono,
    h.time, h.setup, fun j => ?_, fun i ind hmem j => ?_⟩
  · rw [NetState.requests_cons, hreq]
    rfl
  · rw [← h.responses j]
    by_cases hj : k = j
    · subst hj
      rw [Channels.sent_send_self, List.countP_append]
      rfl
    · rw [Channels.sent_send_of_ne _ hj]
  · exact h.published_of_trans hinv hn htrans nofun hmem j

/-- A turn of an xApp, which may have taken a message. -/
theorem turn (h : s.CoopInv N) (toXapp : Channels κ XappMsg) {out : Option E42Msg} {p : XappProc}
    (hsent : ∀ j, toXapp.sent j = s.toXapp.sent j) (hout : ∀ msg ∈ out.toList, s.Servable N msg)
    (hdraft : ∀ d msg, p = .connected d (some msg) → s.Servable N msg)
    (htime : ∀ d draft, p = .connected d draft → d.ui.uiPc.InTime)
    (hsetup : (s.toIapp.sent k ++ out.toList).countP E42Msg.isSetup ≤ 1) :
    CoopInv N ({ s with toXapp := toXapp }.turn k out p) := by
  have hxapp : ∀ {j : κ} {q : XappProc}, ({ s with toXapp := toXapp }.turn k out p).xapp j = q →
      j = k ∧ q = p ∨ s.xapp j = q := by
    intro j q hq
    by_cases hj : j = k
    · subst hj
      rw [xapp_turn_self] at hq
      exact .inl ⟨rfl, hq.symm⟩
    · rw [xapp_turn_of_ne _ hj] at hq
      exact .inr hq
  refine ⟨?_, fun j m hmem => ?_, fun j d m hp => ?_, fun j d m hp => ?_, fun j => ?_, fun j => ?_,
    h.published⟩
  · rw [requests_turn]
    exact h.net
  · cases out with
    | none => exact h.flight j m hmem
    | some msg =>
      rcases List.mem_append.1 hmem with hmem | hmem
      · exact h.flight j m hmem
      · cases List.mem_singleton.1 hmem
        exact hout _ (List.mem_singleton_self _)
  · rcases hxapp hp with ⟨-, hp⟩ | hp
    · exact hdraft d m hp.symm
    · exact h.draft j d m hp
  · rcases hxapp hp with ⟨-, hp⟩ | hp
    · exact htime d m hp.symm
    · exact h.time j d m hp
  · show ((out.elim s.toIapp (s.toIapp.send k)).sent j).countP _ ≤ 1
    rw [Channels.sent_elim_send]
    by_cases hj : k = j
    · subst hj
      rw [if_pos rfl]
      exact hsetup
    · rw [if_neg hj, List.append_nil]
      exact h.setup j
  · show (toXapp.sent j).countP _ =
      (Channels.on j (out.elim s.toIapp (s.toIapp.send k)).taken).countP _
    rw [hsent, Channels.taken_elim_send]
    exact h.responses j

/-- A turn in which a connected xApp sends no setup request. -/
theorem connectedTurn (h : s.CoopInv N) (toXapp : Channels κ XappMsg) {d d' : DispatchState}
    {draft draft' out : Option E42Msg} {b : DispatchAction} (hp : s.xapp k = .connected d draft)
    (ht : d.Trans b d') (hne : b ≠ .thread .deadline)
    (hdraft : ∀ msg ∈ draft'.toList, s.Servable N msg)
    (hout : ∀ msg ∈ out.toList, s.Servable N msg ∧ msg.isSetup = false)
    (hsent : ∀ j, toXapp.sent j = s.toXapp.sent j) :
    CoopInv N ({ s with toXapp := toXapp }.turn k out (.connected d' draft')) := by
  refine h.turn toXapp hsent (fun msg hmsg => (hout msg hmsg).1) (fun e msg heq => ?_)
    (fun e m heq => ?_) ?_
  · obtain ⟨-, rfl⟩ := XappProc.connected.inj heq
    exact hdraft msg (List.mem_singleton_self _)
  · obtain ⟨rfl, -⟩ := XappProc.connected.inj heq
    exact ht.inTime hne (h.time k d draft hp)
  · have hzero : out.toList.countP E42Msg.isSetup = 0 :=
      List.countP_eq_zero.2 fun msg hmsg => by simp [(hout msg hmsg).2]
    rw [List.countP_append, hzero]
    exact h.setup k

/-- What is going to be sent can be served. -/
theorem servable_of_draft (h : s.CoopInv N) {d : DispatchState} {draft : Option E42Msg}
    (hp : s.xapp k = .connected d draft) : ∀ msg ∈ draft.toList, s.Servable N msg := by
  intro msg hmsg
  cases Option.mem_toList.1 hmsg
  exact h.draft k d msg hp

/-- The message of a call that the application may make can be served. -/
theorem servable_of_mayCall (h : s.CoopInv N) (hinv : s.TierInv N) (hN : N.Deployable)
    (hn : s.requests < 64515) {d : DispatchState} {draft : Option E42Msg}
    (hp : s.xapp k = .connected d draft) {c : ApiCall} {msg : E42Msg}
    (hmsg : d.ui.xapp.draft (N.xapp k) c = some msg) (hmay : MayCall N k d.ui.xapp c) :
    s.Servable N msg := by
  obtain ⟨call, ricId, y, -, hask, hnode⟩ := E42Xapp.draft_eq_some hmsg
  cases msg with
  | setupRequest req => cases hask
  | subscriptionDeleteRequest req => trivial
  | request xappId id content =>
    obtain ⟨e, he, rfl⟩ := hmay.known id (hnode _ _ _ rfl)
    have hreg := hinv.registered_of_known hp he
    obtain ⟨i, hi, -⟩ := (h.cooperation hN hn).setup.nodes _ hreg
    rw [hi] at hmsg
    exact ⟨i, hi, hreg, hmay.served xappId i content hmsg⟩

/-- An xApp takes a turn in which it takes no message. -/
theorem xapp (h : s.CoopInv N) (hinv : s.TierInv N) (hN : N.Deployable) (hn : s.requests < 64515)
    {b : XappProcAction} {out : Option E42Msg} {p : XappProc} (hb : b.taken = none)
    (ht : XappProc.Trans (N.xapp k) (s.xapp k) b out p) (hguard : s.Cooperates N (.xapp k b)) :
    CoopInv N (s.turn k out p) := by
  generalize hp : s.xapp k = q at ht
  cases ht with
  | @start fd req x hstart =>
    have hxapp := hinv.xapp k
    rw [hp] at hxapp
    cases hxapp with
    | off hsent =>
      obtain ⟨-, hreq⟩ := E42Xapp.waitsForSetup_of_start hstart
      refine h.turn s.toXapp (fun _ => rfl) (List.forall_mem_singleton.2 hreq)
        (fun _ _ heq => by cases heq) (fun _ _ heq => by cases heq) ?_
      rw [hsent]
      exact Nat.le_refl 1
  | setupTimer => exact hguard.elim
  | @call d d' draft c msg hmsg he hstep =>
    have hservable := h.servable_of_mayCall hinv hN hn hp hmsg (hguard _ _ hp)
    refine h.connectedTurn s.toXapp hp (DispatchState.trans_of_step he hstep) ?_ (fun m hmem => ?_)
      (fun _ hmem => absurd hmem List.not_mem_nil) fun _ => rfl
    · cases c <;> exact nofun
    · cases Option.mem_toList.1 hmem
      exact hservable
  | @send d d' msg he hstep =>
    obtain ⟨x, tr, hconn⟩ := hinv.connectedInv hp
    obtain ⟨r, hpc⟩ := he.1
    have hkey := hconn.draft
    rw [hpc] at hkey
    have hsetup : msg.isSetup = false := by
      cases msg with
      | setupRequest req => cases hkey
      | _ => rfl
    exact h.connectedTurn s.toXapp hp (DispatchState.trans_of_step he hstep) nofun
      (fun _ hmem => absurd hmem List.not_mem_nil)
      (List.forall_mem_singleton.2 ⟨h.draft k d _ hp, hsetup⟩) fun _ => rfl
  | setupResponse => cases hb
  | secondResponse => cases hb
  | early => cases hb
  | answer => cases hb
  | turn hint he hstep =>
    refine h.connectedTurn s.toXapp hp (DispatchState.trans_of_step he hstep) ?_
      (h.servable_of_draft hp) (fun _ hmem => absurd hmem List.not_mem_nil) fun _ => rfl
    rintro rfl
    exact hguard _ _ hp

/-- An xApp takes a message. -/
theorem xappReceive (h : s.CoopInv N) (hinv : s.TierInv N) (hn : s.requests < 64515) {msg : XappMsg}
    {toXapp : Channels κ XappMsg} {out : Option E42Msg} {p : XappProc}
    (hrecv : s.toXapp.receive k = some (msg, toXapp))
    (ht : XappProc.Trans (N.xapp k) (s.xapp k) (.receive msg) out p) :
    CoopInv N ({ s with toXapp := toXapp }.turn k out p) := by
  have hsent := Channels.sent_of_receive hrecv
  generalize hp : s.xapp k = q at ht
  cases ht with
  | setupResponse hresp =>
    refine h.turn toXapp hsent (fun _ hmem => absurd hmem List.not_mem_nil) (fun _ _ heq => ?_)
      (fun _ _ heq => ?_) ?_
    · cases (XappProc.connected.inj heq).2
    · cases (XappProc.connected.inj heq).1
      trivial
    · rw [Option.toList_none, List.append_nil]
      exact h.setup k
  | secondResponse hresp =>
    obtain ⟨x, tr, hconn⟩ := hinv.connectedInv hp
    have hc := hconn.const.connected.trans hconn.connected
    rw [E42Xapp.e2apHandleE42SetupResponseXapp_of_connected hc] at hresp
    cases hresp
  | early hans =>
    have hxapp := hinv.xapp k
    rw [hp] at hxapp
    cases hxapp with
    | connecting _ _ _ hnone =>
      obtain ⟨⟨q, hq, -⟩, -⟩ := hinv.answers_request hn hrecv
      rw [hnone] at hq
      cases hq
  | @answer d d' draft ans hpc hpushing hstep =>
    obtain ⟨x, tr, hconn⟩ := hinv.connectedInv hp
    obtain ⟨hask, hcount⟩ := hinv.answers_request hn hrecv
    obtain ⟨-, he⟩ := hconn.enabled_answer hpc hpushing hcount
    refine h.connectedTurn toXapp hp (DispatchState.trans_of_step he hstep) ?_
      (h.servable_of_draft hp) (fun _ hmem => absurd hmem List.not_mem_nil) hsent
    cases ans <;> exact nofun

theorem step (h : s.CoopInv N) (hinv : s.TierInv N) (horder : s.net.ric.OrderInv)
    (hN : N.Deployable) (hn : s.requests < 64515) (hguard : s.Cooperates N a)
    (ht : s.Trans N a t) : t.CoopInv N := by
  cases ht with
  | net hint he hnet => exact h.netStep hinv hn hint he hnet hguard
  | iappReceive hpc hrecv he hnet =>
    exact h.iappReceive hinv hN hn horder hpc hrecv he hnet hguard
  | sendAnswer hpc hmsg hnet => exact h.sendAnswer hinv hn hpc hnet
  | xapp hb htrans => exact h.xapp hinv hN hn hb htrans hguard
  | xappReceive hrecv htrans => exact h.xappReceive hinv hn hrecv htrans

end CoopInv

/-- The invariant holds in every run in which the parties cooperate and the ids are not used up. -/
theorem coopInv_run (hN : N.Deployable) {tr : List (TierState κ ι × TierAction κ ι)}
    (h : ((xappNetwork N).restrict (Cooperates N)).Run tr s) (hn : s.requests < 64515) :
    ((xappNetwork N).restrict (ApiGuard N)).Run tr s ∧ s.CoopInv N := by
  induction h with
  | nil => exact ⟨.nil, .init N⟩
  | cons _ he ht ih =>
    have htrans := trans_of_step he.1 ht
    have hlt := Nat.lt_of_le_of_lt htrans.requests_le hn
    obtain ⟨hrun, hcoop⟩ := ih hlt
    have hinv := tierInv_run hrun hlt
    exact ⟨hrun.cons ⟨he.1, hcoop.apiGuard hinv hN hlt he.1 he.2⟩ ht,
      hcoop.step hinv (orderInv_run hrun hlt) hN hlt he.2 htrans⟩

end TierState

/-! ## One report

The application of the only xApp asks the only E2 node for a report, and is told the first time. -/

namespace Sample

/-- The network of one node and one xApp. -/
def tiers : XappNetwork Unit Unit where
  toE2Network := network
  xapp := fun _ => ⟨3, [rf], [sm], fun _ _ => ⟨[10, 0, 0, 0], none⟩⟩
  xappAddr := fun _ => xappAddr
  xappAddr_injective := fun _ _ _ => rfl

theorem tiers_deployable : tiers.Deployable where
  toDeployable := network_deployable
  nodes := ⟨[()], by decide, fun _ => List.mem_singleton_self _⟩
  plugins := fun _ => ⟨List.cons_ne_nil _ _, rfl⟩

/-- Its runs in which the parties cooperate. -/
def tiersCooperating : System (TierState Unit Unit) (TierAction Unit Unit) :=
  (xappNetwork tiers).restrict (TierState.Cooperates tiers)

/-- The node and the xApp are set up, and the iApp takes the request of a report. -/
def askTier : List (TierAction Unit Unit) :=
  [.net (.start () 3 4), .net (.ricReceive ()), .net (.nodeReceive () 9 fun _ => some []),
    .xapp () (.start 4), .iappReceive (), .xappReceive (),
    .xapp () (.call (.report gNB 142 .ms10 1)), .xapp () .send,
    .xapp () (.turn (.thread (.createTimer 5))), .xapp () (.turn (.thread .addPending)),
    .xapp () (.turn (.thread .condWait)), .iappReceive ()]

/-- The subscription, up to the return of the call. -/
def serveTier : List (TierAction Unit Unit) :=
  [.net (.ric (.createTimer 4)), .net (.ric .insertPending), .net (.sendRequest ()),
    .net (.ric .addMapRicId), .net (.nodeReceive () 6 fun _ => some []), .net (.ricReceive ()),
    .net (.ric .findXapp), .sendAnswer (), .xappReceive (),
    .xapp () (.turn (.thread .rmPending)), .xapp () (.turn (.thread .signal)),
    .xapp () (.turn (.thread .wake))]

/-- The first indication, up to the callback. -/
def reportTier : List (TierAction Unit Unit) :=
  [.net (.nodeTimer () 6 ⟨[1], [2], none⟩), .net (.ricReceive ()), .net (.ric .findXapp),
    .sendAnswer (), .xappReceive (), .xapp () (.turn .sendMsgDispatcher),
    .xapp () (.turn .waitAndPop), .xapp () (.turn .smCb)]

/-- The report as an active procedure. -/
def tierProc : ActProcVal := ⟨.ricSubscriptionProcedureActive, ⟨1, 0, 142⟩, some 1, gNB⟩

/-- Its request as it is forwarded. -/
def tierFwd : Fwd := ⟨.request .subscription, gNB, ⟨1021, 0, 142⟩, ⟨⟨1, 0, 142⟩, 7⟩, xappAddr⟩

theorem sched_tiers : ∃ r s t, tiersCooperating.Sched (.init tiers) askTier r ∧
    tiersCooperating.Sched r serveTier s ∧ tiersCooperating.Sched s reportTier t ∧
    (r.requests = 1 ∧ r.net.ric.iappPc = .start tierFwd) ∧
    t.requests = 1 ∧ (∃ q ∈ t.net.sent, q.fwd = tierFwd) ∧
    ∃ d, t.xapp () = .connected d none ∧ d.called = [⟨.macStatsV0, some 1, 1⟩] ∧
      tierProc ∈ d.ui.xapp.actProc.procs := by
  have hcontrol : ∀ data : SmCtrlReqData, (fun _ => some []) data ≠ (none : Option (List UInt8)) :=
    fun _ => Option.some_ne_none _
  refine ⟨_, _, _, ⟨⟨⟨rfl, rfl⟩, ⟨by decide, by decide⟩, nofun⟩, _, rfl,
    ⟨⟨rfl, rfl, _, List.mem_singleton_self _⟩, trivial, nofun⟩, _, rfl,
    ⟨⟨rfl, _, rfl, by decide, by decide, _, List.mem_singleton_self _⟩, hcontrol, nofun⟩, _, rfl,
    ⟨⟨rfl, rfl, by decide, by decide⟩, trivial⟩, _, rfl,
    ⟨⟨rfl, _, List.mem_singleton_self _⟩,
      fun _ _ _ => ⟨(by decide : 0 < 65536), List.cons_ne_nil _ _⟩⟩, _, rfl,
    ⟨⟨_, _, rfl, XappProc.enabled_receive_connecting _ _⟩, trivial⟩, _, rfl,
    ⟨⟨rfl, _, _, rfl, rfl, rfl, fun _ => rfl⟩, fun _ _ heq => ?_⟩, _, rfl,
    ⟨⟨rfl, _, _, rfl, ⟨_, rfl⟩, rfl, fun _ => rfl⟩, trivial⟩, _, rfl,
    ⟨⟨rfl, rfl, _, _, rfl, ⟨⟨_, rfl⟩, by decide, by decide⟩, rfl, fun _ => rfl⟩,
      fun _ _ _ => trivial⟩, _, rfl,
    ⟨⟨rfl, rfl, _, _, rfl, ⟨_, _, rfl⟩, rfl, fun _ => rfl⟩, fun _ _ _ => trivial⟩, _, rfl,
    ⟨⟨rfl, rfl, _, _, rfl, ⟨_, rfl⟩, rfl, fun _ => rfl⟩, fun _ _ _ => trivial⟩, _, rfl,
    ⟨⟨rfl, _, List.mem_singleton_self _⟩, fun _ _ heq => by cases heq⟩, _, rfl, rfl⟩,
    ⟨⟨⟨rfl, rfl, ⟨_, rfl⟩, by decide, by decide⟩, trivial, nofun⟩, _, rfl,
    ⟨⟨rfl, rfl, _, _, rfl⟩, trivial, nofun⟩, _, rfl,
    ⟨⟨rfl, _, rfl, fun _ h => Option.some.inj h⟩, trivial, nofun⟩, _, rfl,
    ⟨⟨rfl, rfl, _, rfl⟩, trivial, nofun⟩, _, rfl,
    ⟨⟨rfl, _, rfl, by decide, by decide, _, List.mem_singleton_self _⟩, hcontrol, nofun⟩, _, rfl,
    ⟨⟨rfl, rfl, _, List.mem_singleton_self _⟩, trivial, nofun⟩, _, rfl,
    ⟨⟨rfl, rfl, ⟨_, rfl⟩, rfl⟩, trivial, nofun⟩, _, rfl,
    ⟨⟨_, _, rfl, fun _ _ heq => by cases heq; rfl⟩, trivial⟩, _, rfl,
    ⟨⟨_, _, rfl, XappProc.enabled_receive_connected _ _ rfl rfl⟩, trivial⟩, _, rfl,
    ⟨⟨rfl, rfl, _, _, rfl, ⟨_, _, rfl⟩, rfl, fun _ => rfl⟩, fun _ _ heq => by cases heq; rfl⟩, _,
    rfl,
    ⟨⟨rfl, rfl, _, _, rfl, ⟨_, rfl⟩, rfl, fun _ => rfl⟩, fun _ _ _ => trivial⟩, _, rfl,
    ⟨⟨rfl, rfl, _, _, rfl, .inl ⟨⟨_, rfl⟩, rfl⟩, rfl, fun _ => rfl⟩, fun _ _ _ => trivial⟩, _, rfl,
    rfl⟩,
    ⟨⟨⟨rfl, _, 10, rfl, by decide, by decide⟩, ⟨_, _, rfl, List.mem_singleton_self _, rfl,
      List.forall_mem_singleton.2 nofun⟩,
      fun _ _ _ _ _ => List.forall_mem_singleton.2 fun _ => nofun⟩, _, rfl,
    ⟨⟨rfl, rfl, _, List.mem_singleton_self _⟩, trivial, nofun⟩, _, rfl,
    ⟨⟨rfl, rfl, ⟨_, rfl⟩, rfl⟩, trivial, nofun⟩, _, rfl,
    ⟨⟨_, _, rfl, fun _ _ heq => by cases heq; rfl⟩, trivial⟩, _, rfl,
    ⟨⟨_, _, rfl, XappProc.enabled_receive_connected _ _ rfl rfl⟩, trivial⟩, _, rfl,
    ⟨⟨rfl, rfl, _, _, rfl, Option.some_ne_none _⟩, fun _ _ _ => trivial⟩, _, rfl,
    ⟨⟨rfl, rfl, _, _, rfl, rfl, List.cons_ne_nil _ _⟩, fun _ _ _ => trivial⟩, _, rfl,
    ⟨⟨rfl, rfl, _, _, rfl, Option.some_ne_none _⟩, fun _ _ _ => trivial⟩, _, rfl, rfl⟩,
    ⟨rfl, rfl⟩, rfl, ⟨_, List.mem_singleton_self _, rfl⟩, _, rfl, rfl,
    List.mem_singleton_self _⟩
  -- the application may make the call
  cases heq
  refine ⟨⟨⟨rfl, Option.some_ne_none _, by decide⟩, by decide⟩, trivial, ?_, ?_⟩
  · rintro _ ⟨⟩
    exact ⟨_, List.mem_singleton_self _, rfl⟩
  · rintro xappId i content heq
    cases heq
    exact ⟨_, _, _, rfl, rfl, rfl, rfl, rfl⟩

end Sample

end FlexRic
