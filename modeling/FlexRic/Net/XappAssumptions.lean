import FlexRic.Net.Xapps

/-!
# What the xApps rely on

An xApp relies on the near-RIC for the responses: each one answers a request that it has sent and
that has no response yet. The near-RIC relies on the xApps for the ids in their requests. In the
whole system each of them gets this from the other, so that a run of it is a run of the network and
of the threads of every xApp.
-/

namespace FlexRic

/-- What is counted by a pair is counted by one side among the elements with the other. -/
theorem count_filterMap_pair {α β γ : Type} [DecidableEq β] [BEq γ] [LawfulBEq γ] (f : α → β)
    (g : α → Option γ) (l : List α) (b : β) (c : γ) :
    (l.filterMap fun a => (g a).map fun y => (f a, y)).count (b, c) =
      ((l.filter fun a => f a = b).filterMap g).count c := by
  induction l with
  | nil => rfl
  | cons a l ih =>
    by_cases hf : f a = b
    · rw [List.filter_cons_of_pos (by simpa using hf)]
      cases hg : g a with
      | none => simp [hg, ih]
      | some y => by_cases hy : y = c <;> simp [hg, ih, hf, hy]
    · rw [List.filter_cons_of_neg (by simpa using hf), ← ih]
      cases hg : g a with
      | none => simp [hg]
      | some y => simp [hg, hf]

/-- One element more, in the order of time, among those with the same source. -/
theorem filter_reverse_cons {α β γ : Type} [DecidableEq β] (src : α → β) (f : α → γ) (a : α)
    (l : List α) (b : β) : ((a :: l).reverse.filter fun x => src x = b).map f =
      (l.reverse.filter fun x => src x = b).map f ++ if src a = b then [f a] else [] := by
  rw [List.reverse_cons, List.filter_append, List.map_append]
  by_cases h : src a = b <;> simp [h]

namespace TierState

variable {κ ι : Type} [DecidableEq κ] [DecidableEq ι] {N : XappNetwork κ ι} {s t : TierState κ ι}
  {a : TierAction κ ι} {k : κ}

/-- What was asked for, when the iApp takes a message of the xApp `k`. -/
theorem asks_of_receive {msg : E42Msg} {toIapp toIapp' : Channels κ E42Msg}
    (hrecv : toIapp.receive k = some (msg, toIapp')) (j : κ) :
    (Channels.on j toIapp'.taken).filterMap E42Msg.ask =
      (Channels.on j toIapp.taken).filterMap E42Msg.ask ++
        if k = j then msg.ask.toList else [] := by
  rw [Channels.on_taken_of_receive hrecv, List.filterMap_append]
  by_cases hj : k = j
  · rw [if_pos hj, if_pos hj]
    exact congrArg _ (filterMap_concat E42Msg.ask [] msg)
  · rw [if_neg hj, if_neg hj, List.filterMap_nil]

omit [DecidableEq ι] in
theorem requests_of_receive {msg : E42Msg} {toIapp : Channels κ E42Msg} {net : NetState ι}
    {toXapp : Channels κ XappMsg} (hrecv : s.toIapp.receive k = some (msg, toIapp)) :
    requests { s with net := net, toIapp := toIapp, toXapp := toXapp } =
      s.requests + msg.isRequest.toNat := by
  rw [requests, requests, Channels.taken_of_receive hrecv, List.countP_append,
    List.countP_singleton]
  cases msg.isRequest <;> rfl

omit [DecidableEq ι] in
/-- A turn of an xApp is no turn of the iApp. -/
theorem requests_turn (s : TierState κ ι) (k : κ) (out : Option E42Msg) (p : XappProc) :
    (s.turn k out p).requests = s.requests := by
  cases out <;> rfl

omit [DecidableEq κ] [DecidableEq ι] in
theorem Took.mono {b : NetAction ι} (h : s.Took N b)
    (hsub : ∀ p ∈ s.toIapp.taken, p ∈ t.toIapp.taken) : t.Took N b := by
  cases b with
  | e42Request xappId id c src =>
    obtain ⟨k, hsrc, hmem⟩ := h
    exact ⟨k, hsrc, hsub _ hmem⟩
  | _ => trivial

omit [DecidableEq κ] in
/-- What an xApp was set up with stays so. -/
theorem SetUp.mono {net net' : NetState ι} {resp : E42SetupResponse} {b : NetAction ι}
    (h : SetUp N net k resp) (ht : net.Trans N.toE2Network b net')
    (hxapps : ∀ e ∈ net.ric.iapp.xapps.toList, e ∈ net'.ric.iapp.xapps.toList) :
    SetUp N net' k resp :=
  ⟨hxapps _ h.id, fun node hnode => ht.registered_subset (h.nodes node hnode), h.adds⟩

omit [DecidableEq ι] in
/-- A turn of the xApp `k` is nothing to the others. -/
theorem runInv_turn {P : ApiCall → Prop} {j : κ} {b : XappProcAction} {out : Option E42Msg}
    {p : XappProc} {toXapp : Channels κ XappMsg}
    (htaken : Channels.on j toXapp.taken =
      Channels.on j s.toXapp.taken ++ if k = j then b.taken.toList else [])
    (hprev : XappProc.RunInv (N.xapp j) P (s.toIapp.sent j) (Channels.on j s.toXapp.taken)
      (s.xapp j))
    (hnext : k = j → XappProc.RunInv (N.xapp j) P (s.toIapp.sent j ++ out.toList)
      (Channels.on j s.toXapp.taken ++ b.taken.toList) p) :
    XappProc.RunInv (N.xapp j) P (({ s with toXapp := toXapp }.turn k out p).toIapp.sent j)
      (Channels.on j toXapp.taken) (({ s with toXapp := toXapp }.turn k out p).xapp j) := by
  show XappProc.RunInv _ _ ((out.elim s.toIapp (s.toIapp.send k)).sent j) _ _
  rw [Channels.sent_elim_send, htaken]
  by_cases hj : k = j
  · subst hj
    rw [if_pos rfl, if_pos rfl, xapp_turn_self]
    exact hnext rfl
  · rw [if_neg hj, if_neg hj, List.append_nil, List.append_nil, xapp_turn_of_ne _ (Ne.symm hj)]
    exact hprev

namespace TierInv

/-- The requests of an xApp that were accepted, by what answers them. -/
theorem count_accepted (h : s.TierInv N) (k : κ) (key : ReqKey) :
    (s.net.ric.accepted.map Fwd.xkey).count (N.xappAddr k, key) =
      ((Channels.on k s.toIapp.taken).filterMap E42Msg.key).count key := by
  have hpair := count_filterMap_pair Fwd.src (fun r => some r.xkey.2) s.net.ric.accepted
    (N.xappAddr k) key
  rw [List.filterMap_eq_map'] at hpair
  rw [E42Msg.filterMap_key, h.accepted, List.map_map, List.filter_reverse, List.map_reverse,
    List.count_reverse]
  refine Eq.trans ?_ hpair
  rw [← List.filterMap_eq_map']
  rfl

/-- The responses that were sent to an xApp. -/
theorem count_delivered (h : s.TierInv N) (k : κ) (key : ReqKey) :
    (s.net.ric.delivered.filterMap Delivery.xkey).count (N.xappAddr k, key) =
      ((s.toXapp.sent k).filterMap XappMsg.key).count key := by
  have hkeys : (s.toXapp.sent k).filterMap XappMsg.key =
      ((s.toXapp.sent k).filterMap XappMsg.answer?).filterMap E2Answer.key := by
    rw [List.filterMap_filterMap]
    rfl
  have hpair := count_filterMap_pair Delivery.dst (fun d => d.msg.key) s.net.ric.delivered
    (N.xappAddr k) key
  rw [hkeys, h.delivered, List.filter_reverse, List.map_reverse, List.filterMap_reverse,
    List.count_reverse, List.filterMap_map]
  exact hpair

/-- What the iApp has taken from an xApp are the requests from its address. -/
theorem mem_asks (h : s.TierInv N) {q : FwdKind × XappRicId} :
    q ∈ (Channels.on k s.toIapp.taken).filterMap E42Msg.ask ↔
      ∃ r ∈ s.net.ric.accepted, r.src = N.xappAddr k ∧ (r.kind, r.x) = q := by
  rw [h.accepted]
  simp [List.mem_map, List.mem_filter, and_assoc]

/-- What was sent to an xApp are the answers for its address. -/
theorem mem_answers (h : s.TierInv N) {ans : E2Answer} :
    ans ∈ (s.toXapp.sent k).filterMap XappMsg.answer? ↔
      ∃ d ∈ s.net.ric.delivered, d.dst = N.xappAddr k ∧ d.msg = ans := by
  rw [h.delivered]
  simp [List.mem_map, List.mem_filter, and_assoc]

theorem netInv (h : s.TierInv N) (hn : s.requests < 64515) :
    s.net.NetInv N.toE2Network s.requests := by
  obtain ⟨tr, hrun, hreq, -⟩ := h.net
  exact hreq ▸ NetState.netInv_run hrun (hreq ▸ hn)

/-- The xApp that has sent a request has an id, which it sends with the request, and has made the
call that the request is for. -/
theorem connected (h : s.TierInv N) {msg : E42Msg} {q : FwdKind × XappRicId}
    (hmem : msg ∈ s.toIapp.sent k) (hask : msg.ask = some q) : ∃ x tr d draft,
      s.xapp k = .connected d draft ∧
      XappProc.ConnectedInv (N.xapp k) (NamesNode N) (s.toIapp.sent k)
        (Channels.on k s.toXapp.taken) x tr d draft ∧
      (x.id, N.xappAddr k) ∈ s.net.ric.iapp.xapps.toList ∧ q.2.xappId = x.id := by
  have hasks : q ∈ (s.toIapp.sent k).filterMap E42Msg.ask :=
    List.mem_filterMap.2 ⟨msg, hmem, hask⟩
  have hxapp := h.xapp k
  generalize hp : s.xapp k = p at hxapp
  cases hxapp with
  | off hsent =>
    rw [hsent] at hmem
    cases hmem
  | connecting _ _ _ hsent =>
    rw [hsent] at hasks
    cases hasks
  | connected hconn =>
    refine ⟨_, _, _, _, rfl, hconn, ?_, hconn.xappId_eq hasks⟩
    obtain ⟨resp, hresp, hid, -⟩ := hconn.setup
    rw [← hid]
    exact (h.setup k resp (Channels.mem_all_of_taken (Channels.mem_on.1 hresp))).id

/-- A message of an E2 node goes to an xApp that has sent a request, and a response to one that has
sent its request and has no response yet. -/
theorem answers_request (h : s.TierInv N) (hn : s.requests < 64515) {ans : E2Answer}
    {toXapp : Channels κ XappMsg} (hrecv : s.toXapp.receive k = some (.answer ans, toXapp)) :
    (∃ q ∈ (s.toIapp.sent k).filterMap E42Msg.ask, q.2.ricId = ans.ricId ∧
        (ans.key = none → q.1 = .request .subscription)) ∧
      ∀ key, ans.key = some key → ((Channels.on k s.toXapp.taken).filterMap XappMsg.key).count key <
        ((s.toIapp.sent k).filterMap E42Msg.key).count key := by
  have hnet := h.netInv hn
  have hsent : (s.toIapp.sent k).filterMap E42Msg.key =
      (Channels.on k s.toIapp.taken).filterMap E42Msg.key ++
        (Channels.on k s.toIapp.flight).filterMap E42Msg.key := by
    rw [Channels.sent_eq, List.filterMap_append]
  have hforwarded : ∀ key, (s.net.ric.forwarded.map Fwd.xkey).count (N.xappAddr k, key) ≤
      ((s.toIapp.sent k).filterMap E42Msg.key).count key := by
    intro key
    rw [hsent, List.count_append, ← h.count_accepted, RicState.accepted, List.map_append,
      List.count_append]
    omega
  refine ⟨?_, ?_⟩
  · -- it was delivered for a request that came from the address of the xApp
    have hmem : ans ∈ (s.toXapp.sent k).filterMap XappMsg.answer? :=
      List.mem_filterMap.2 ⟨.answer ans, Channels.mem_sent.2
        (Channels.mem_all_of_flight (Channels.mem_flight_of_receive hrecv)), rfl⟩
    obtain ⟨d, hd, hdst, rfl⟩ := h.mem_answers.1 hmem
    obtain ⟨r, hr, hsrc, hid, hkind⟩ := hnet.exists_request hn hd
    refine ⟨(r.kind, r.x), ?_, hid.symm, hkind⟩
    have hask := h.mem_asks.2 ⟨r, List.mem_append_right _ hr, hsrc.symm.trans hdst, rfl⟩
    rw [Channels.sent_eq, List.filterMap_append]
    exact List.mem_append_left _ hask
  · intro key hkey
    have hle := hnet.delivered_le hn (N.xappAddr k, key)
    have hon := Channels.on_of_receive hrecv
    have hkey' : (XappMsg.answer ans).key = some key := hkey
    rw [h.count_delivered, Channels.sent_eq, hon,
      List.filterMap_append, List.filterMap_cons_some hkey', List.count_append,
      List.count_cons_self] at hle
    have hle' := hforwarded key
    omega

theorem init (N : XappNetwork κ ι) : (init N).TierInv N where
  net := ⟨[], .nil, rfl, by simp⟩
  xapp _ := .off rfl rfl
  setup _ _ hmem := absurd hmem List.not_mem_nil
  accepted _ := rfl
  delivered _ := rfl

/-- A step with nothing to or from the xApps. -/
theorem netStep (h : s.TierInv N) {b : NetAction ι} {net : NetState ι}
    (hint : b.isInternal = true) (he : s.net.Enabled N.toE2Network b)
    (hnet : s.net.step N.toE2Network b = some net) : TierInv N { s with net := net } := by
  obtain ⟨haccepted, hdelivered, hxapps⟩ := (NetState.trans_of_step he hnet).exchange hint
  have hguard : s.net.XappGuard N.toE2Network b := by
    cases b with
    | ric b =>
      cases b with
      | e42RicSubscriptionDeleteRequest => cases hint
      | _ => trivial
    | e42Request => cases hint
    | _ => trivial
  obtain ⟨tr, hrun, hreq, htook⟩ := h.net
  refine { h with
    net := ⟨_, hrun.cons ⟨he, hguard⟩ hnet, ?_, List.forall_mem_cons.2 ⟨?_, htook⟩⟩
    setup := fun k resp hmem => ?_
    accepted := ?_
    delivered := ?_ }
  · rw [NetState.requests_cons, hreq, NetState.givesId_of_isInternal hint]
    rfl
  · cases b with
    | e42Request => cases hint
    | _ => trivial
  · exact (h.setup k resp hmem).mono (NetState.trans_of_step he hnet) fun e he => hxapps ▸ he
  · rw [haccepted]
    exact h.accepted
  · rw [hdelivered]
    exact h.delivered

/-- An answer goes out to an xApp. -/
theorem sendAnswer (h : s.TierInv N) {x : XappRicId} {ans msg : E2Answer} {net : NetState ι}
    (hpc : s.net.ric.ricPc = .routed x ans)
    (hmsg : s.net.ric.iapp.e2apMsgHandleIapp x ans = some (N.xappAddr k, msg))
    (hnet : s.net.step N.toE2Network (.ric .sendAnswer) = some net) :
    TierInv N { s with net := net, toXapp := s.toXapp.send k (.answer msg) } := by
  have he : s.net.Enabled N.toE2Network (.ric .sendAnswer) := ⟨rfl, x, ans, hpc⟩
  obtain ⟨ric, hric, rfl⟩ := Option.map_eq_some_iff.1 hnet
  have hstate : ric = { s.net.ric with
      ricPc := .idle
      delivered := ⟨ans, N.xappAddr k, msg⟩ :: s.net.ric.delivered } := by
    cases RicState.trans_of_step he.2 hric with
    | sendAnswer hpc' hmsg' =>
      cases hpc.symm.trans hpc'
      cases hmsg.symm.trans hmsg'
      rfl
  obtain ⟨tr, hrun, hreq, htook⟩ := h.net
  refine ⟨⟨_, hrun.cons (a := NetAction.ric .sendAnswer) ⟨he, trivial⟩ hnet, ?_,
    List.forall_mem_cons.2 ⟨trivial, htook⟩⟩, h.xapp, ?_, ?_, ?_⟩
  · rw [NetState.requests_cons, hreq]
    rfl
  · intro j resp hmem
    rw [Channels.all_send] at hmem
    rcases List.mem_append.1 hmem with hmem | hmem
    · refine (h.setup j resp hmem).mono (NetState.trans_of_step he hnet) fun e he => ?_
      rw [hstate]
      exact he
    · cases List.mem_singleton.1 hmem
  · rw [hstate]
    exact h.accepted
  · intro j
    rw [hstate]
    rw [filter_reverse_cons Delivery.dst, ← h.delivered j]
    show ((s.toXapp.send k (.answer msg)).sent j).filterMap XappMsg.answer? = _
    by_cases hj : j = k
    · subst hj
      rw [Channels.sent_send_self, filterMap_concat, if_pos rfl]
      rfl
    · rw [Channels.sent_send_of_ne _ (Ne.symm hj),
        if_neg fun heq => hj (N.xappAddr_injective heq).symm, List.append_nil]

/-- The iApp accepts the request `r`, which is what the message asks for. -/
theorem accept (h : s.TierInv N) {msg : E42Msg} {toIapp : Channels κ E42Msg} {net : NetState ι}
    {b : NetAction ι} {r : Fwd} (hrecv : s.toIapp.receive k = some (msg, toIapp))
    (hask : msg.ask = some (r.kind, r.x)) (hsrc : r.src = N.xappAddr k)
    (hgives : NetState.givesId b = msg.isRequest) (hguard : s.net.XappGuard N.toE2Network b)
    (htook : Took N { s with net := net, toIapp := toIapp } b)
    (he : s.net.Enabled N.toE2Network b) (hnet : s.net.step N.toE2Network b = some net)
    (haccepted : net.ric.accepted = r :: s.net.ric.accepted)
    (hdelivered : net.ric.delivered = s.net.ric.delivered)
    (hxapps : net.ric.iapp.xapps = s.net.ric.iapp.xapps) :
    TierInv N { s with net := net, toIapp := toIapp } := by
  obtain ⟨tr, hrun, hreq, htook'⟩ := h.net
  refine ⟨⟨_, hrun.cons ⟨he, hguard⟩ hnet, ?_, List.forall_mem_cons.2 ⟨htook, fun p hp => ?_⟩⟩,
    fun j => ?_, fun j resp hmem => ?_, fun j => ?_, ?_⟩
  · rw [NetState.requests_cons, hreq, hgives]
    exact (requests_of_receive hrecv).symm
  · exact (htook' p hp).mono (Channels.taken_subset_of_receive hrecv)
  · show XappProc.RunInv (N.xapp j) (NamesNode N) (toIapp.sent j) _ (s.xapp j)
    rw [Channels.sent_of_receive hrecv]
    exact h.xapp j
  · exact (h.setup j resp hmem).mono (NetState.trans_of_step he hnet) fun e he => hxapps ▸ he
  · rw [asks_of_receive hrecv, haccepted, filter_reverse_cons Fwd.src, ← h.accepted, hask]
    by_cases hj : k = j
    · rw [if_pos hj, if_pos (hj ▸ hsrc)]
      rfl
    · rw [if_neg hj, if_neg fun heq => hj (N.xappAddr_injective (hsrc.symm.trans heq))]
  · rw [hdelivered]
    exact h.delivered

/-- The iApp takes a setup request and sends the response to it. -/
theorem setupRequest (h : s.TierInv N) (hn : s.requests < 64515) {req : E42SetupRequest}
    {toIapp : Channels κ E42Msg} {net : NetState ι}
    (hrecv : s.toIapp.receive k = some (.setupRequest req, toIapp))
    (he : s.net.Enabled N.toE2Network (.ric (.e42SetupRequest req (N.xappAddr k))))
    (hnet : s.net.step N.toE2Network (.ric (.e42SetupRequest req (N.xappAddr k))) = some net) :
    TierInv N { s with
      net := net
      toIapp := toIapp
      toXapp := (s.net.ric.iapp.respond (N.xappAddr k) (.setupRequest req)).elim s.toXapp
        (s.toXapp.send k) } := by
  have htrans := NetState.trans_of_step he hnet
  obtain ⟨ric, hric, rfl⟩ := Option.map_eq_some_iff.1 hnet
  cases RicState.trans_of_step he.2 hric with
  | @e42SetupRequest _ _ resp iapp hpc hset =>
    obtain ⟨⟨hid, hfresh, rfl⟩, -, hnodes, -⟩ := Iapp.setupXapp_eq_some.1 hset
    have hrespond : s.net.ric.iapp.respond (N.xappAddr k) (.setupRequest req) =
        some (.setupResponse resp) := by
      rw [Iapp.respond, hset]
      rfl
    rw [hrespond]
    obtain ⟨tr, hrun, hreq, htook⟩ := h.net
    refine ⟨⟨_, hrun.cons (a := NetAction.ric (.e42SetupRequest req (N.xappAddr k)))
      ⟨he, trivial⟩ hnet, ?_, List.forall_mem_cons.2 ⟨trivial, fun p hp => ?_⟩⟩, fun j => ?_, ?_,
      fun j => ?_, fun j => ?_⟩
    · rw [NetState.requests_cons, hreq]
      exact (requests_of_receive hrecv).symm
    · exact (htook p hp).mono (Channels.taken_subset_of_receive hrecv)
    · show XappProc.RunInv (N.xapp j) (NamesNode N) (toIapp.sent j) _ (s.xapp j)
      rw [Channels.sent_of_receive hrecv]
      exact h.xapp j
    · intro j resp' hmem
      rcases List.mem_append.1 (Channels.all_send s.toXapp k _ ▸ hmem) with hmem | hmem
      · exact (h.setup j resp' hmem).mono htrans fun e he => AssocRbTree.mem_insert.2 (.inr he)
      · cases List.mem_singleton.1 hmem
        have hwf := RicState.e2Nodes_wf ((h.netInv hn).reachable)
        refine ⟨AssocRbTree.mem_insert.2 (.inl (by rw [hid])), fun node hnode => ?_,
          hwf.exists_foldlM_add hnodes⟩
        have hperm := RegE2Nodes.perm_generateE2NodeArr hnodes
        obtain ⟨e, he, rfl⟩ := List.mem_map.1 (hperm.mem_iff.1 hnode)
        exact List.mem_map_of_mem he
    · rw [asks_of_receive hrecv, h.accepted]
      exact (congrArg (_ ++ ·) (ite_self [])).trans (List.append_nil _)
    · show ((s.toXapp.send k (.setupResponse resp)).sent j).filterMap XappMsg.answer? = _
      rw [← h.delivered j]
      by_cases hj : j = k
      · subst hj
        rw [Channels.sent_send_self, filterMap_concat]
        exact List.append_nil _
      · rw [Channels.sent_send_of_ne _ (Ne.symm hj)]

/-- The iApp takes a message. -/
theorem iappReceive (h : s.TierInv N) (hn : s.requests < 64515) {msg : E42Msg}
    {toIapp : Channels κ E42Msg} {net : NetState ι} (hpc : s.net.ric.iappPc = .idle)
    (hrecv : s.toIapp.receive k = some (msg, toIapp))
    (he : s.net.Enabled N.toE2Network (msg.toNet (N.xappAddr k)))
    (hnet : s.net.step N.toE2Network (msg.toNet (N.xappAddr k)) = some net) :
    TierInv N { s with
      net := net
      toIapp := toIapp
      toXapp := (s.net.ric.iapp.respond (N.xappAddr k) msg).elim s.toXapp (s.toXapp.send k) } := by
  have hmem : msg ∈ s.toIapp.sent k :=
    Channels.mem_sent.2 (Channels.mem_all_of_flight (Channels.mem_flight_of_receive hrecv))
  cases msg with
  | setupRequest req => exact h.setupRequest hn hrecv he hnet
  | request xappId id c =>
    obtain ⟨x, tr, d, draft, -, hconn, hreg, hid⟩ := h.connected hmem rfl
    cases hid
    obtain ⟨u, a, -, hname, hdraft⟩ := hconn.drafted _ (.inr hmem) (Option.some_ne_none _)
    obtain ⟨-, -, -, -, -, hnode⟩ := E42Xapp.draft_eq_some hdraft
    obtain ⟨i, rfl⟩ := hname id (hnode _ _ _ rfl)
    obtain ⟨ric, hric, rfl⟩ := Option.map_eq_some_iff.1 hnet
    have he' : s.net.ric.Enabled (.e42RicRequest c.kind ⟨x.id, N.nodeId i, c.ricId⟩
      (N.xappAddr k)) := hpc
    cases RicState.trans_of_step he' hric with
    | e42RicRequest =>
      refine h.accept (b := NetAction.e42Request x.id (N.nodeId i) c (N.xappAddr k))
        (r := ⟨.request c.kind, N.nodeId i, c.ricId.setReqIdLow s.net.ric.ric.reqId.toUInt16,
          ⟨c.ricId, x.id⟩, N.xappAddr k⟩) hrecv rfl rfl rfl ⟨hreg, i, rfl⟩
        ⟨k, rfl, Channels.mem_taken_of_receive hrecv⟩ he hnet ?_ rfl rfl
      rw [RicState.accepted, RicState.accepted, hpc]
      rfl
  | subscriptionDeleteRequest req =>
    obtain ⟨x, tr, d, draft, -, hconn, hreg, hid⟩ := h.connected hmem rfl
    obtain ⟨ric, hric, rfl⟩ := Option.map_eq_some_iff.1 hnet
    cases RicState.trans_of_step he.2 hric with
    | @e42RicSubscriptionDeleteRequest _ _ n hpc' =>
      refine h.accept (b := NetAction.ric (.e42RicSubscriptionDeleteRequest req (N.xappAddr k)))
        (r := ⟨.subscriptionDelete, n.e2NodeId, { req.ricId with ricReqId := n.ricReqId.toUInt32 },
          ⟨req.ricId, req.xappId⟩, N.xappAddr k⟩) hrecv rfl rfl rfl ?_ trivial he hnet ?_ rfl rfl
      · rw [← hid] at hreg
        exact hreg
      · rw [RicState.accepted, RicState.accepted, hpc]
        rfl

/-- A turn of an xApp, which may have taken a message. -/
theorem turn (h : s.TierInv N) {b : XappProcAction} {out : Option E42Msg} {p : XappProc}
    {toXapp : Channels κ XappMsg} (hsent : ∀ j, toXapp.sent j = s.toXapp.sent j)
    (htaken : ∀ j, Channels.on j toXapp.taken =
      Channels.on j s.toXapp.taken ++ if k = j then b.taken.toList else [])
    (hnext : XappProc.RunInv (N.xapp k) (NamesNode N) (s.toIapp.sent k ++ out.toList)
      (Channels.on k s.toXapp.taken ++ b.taken.toList) p) :
    TierInv N ({ s with toXapp := toXapp }.turn k out p) := by
  have hreq : requests ({ s with toXapp := toXapp }.turn k out p) = s.requests :=
    requests_turn _ _ _ _
  refine ⟨?_, fun j => ?_, fun j resp hmem => ?_, fun j => ?_, fun j => ?_⟩
  · obtain ⟨tr, hrun, htr, htook⟩ := h.net
    refine ⟨tr, hrun, htr.trans hreq.symm, fun p hp => (htook p hp).mono fun q hq => ?_⟩
    show q ∈ (out.elim s.toIapp (s.toIapp.send k)).taken
    rw [Channels.taken_elim_send]
    exact hq
  · apply runInv_turn (htaken j) (h.xapp j)
    rintro rfl
    exact hnext
  · refine h.setup j resp (Channels.mem_sent.1 ?_)
    rw [← hsent]
    exact Channels.mem_sent.2 hmem
  · show (Channels.on j (out.elim s.toIapp (s.toIapp.send k)).taken).filterMap _ = _
    rw [Channels.taken_elim_send]
    exact h.accepted j
  · show (toXapp.sent j).filterMap _ = _
    rw [hsent]
    exact h.delivered j

theorem step (h : s.TierInv N) (hn : s.requests < 64515) (hguard : s.ApiGuard N a)
    (ht : s.Trans N a t) : t.TierInv N := by
  cases ht with
  | net hint he hnet => exact h.netStep hint he hnet
  | iappReceive hpc hrecv he hnet => exact h.iappReceive hn hpc hrecv he hnet
  | sendAnswer hpc hmsg hnet => exact h.sendAnswer hpc hmsg hnet
  | @xapp k b out p hb htrans =>
    have hnext := (h.xapp k).step htrans (fun c hc => by subst hc; exact hguard)
      (fun ans hans => by subst hans; cases hb)
    refine h.turn (fun _ => rfl) (fun j => ?_) hnext
    simp [hb]
  | @xappReceive k msg toXapp out p hrecv htrans =>
    have hnext := (h.xapp k).step htrans (fun c hc => by cases hc) fun ans hans => by
      cases hans
      exact h.answers_request hn hrecv
    refine h.turn (Channels.sent_of_receive hrecv) (fun j => ?_) hnext
    exact Channels.on_taken_of_receive hrecv j

end TierInv

/-- The number of requests does not fall. -/
theorem Trans.requests_le (h : s.Trans N a t) : s.requests ≤ t.requests := by
  cases h with
  | net => exact Nat.le_refl _
  | iappReceive hpc hrecv => exact (requests_of_receive hrecv).symm ▸ Nat.le_add_right _ _
  | sendAnswer => exact Nat.le_refl _
  | xapp => exact Nat.le_of_eq (requests_turn _ _ _ _).symm
  | @xappReceive k msg toXapp out p =>
    exact Nat.le_of_eq (requests_turn { s with toXapp := toXapp } k out p).symm

/-- The invariant holds in every run that does not use up the ids. -/
theorem tierInv_run {tr : List (TierState κ ι × TierAction κ ι)}
    (h : ((xappNetwork N).restrict (ApiGuard N)).Run tr s) (hn : s.requests < 64515) :
    s.TierInv N := by
  induction h with
  | nil => exact .init N
  | cons _ he ht ih =>
    have htrans := trans_of_step he.1 ht
    have hlt := Nat.lt_of_le_of_lt htrans.requests_le hn
    exact (ih hlt).step hlt he.2 htrans

end TierState

end FlexRic
