import FlexRic.Ric.Threads
import FlexRic.Semantics.Retransmission
import FlexRic.XApp.E42Xapp

/-!
# The E42 setup

The xApp sends its E42 setup request again whenever its setup timer expires. The iApp gives a new
id to each of these requests, and the xApp fails an assertion on the second response. So the setup
ends well exactly if the timer does not expire before the response is handled, and the iApp can
take an xApp at all.
-/

namespace FlexRic

open Exchange

/-- The exchange of the setup messages, from the moment the xApp `x` has sent the request `req`.
The iApp sees the xApp under the address `src`. -/
def e42Setup (x : E42Xapp) (req : E42SetupRequest) (iapp : Iapp) (src : SctpInfo) :
    Exchange E42Xapp Iapp Fd E42SetupRequest E42SetupResponse where
  client := x
  server := iapp
  request := req
  armed x fd := fd ∈ x.io ∧ fd ≠ x.epFd
  resend := E42Xapp.resendAfterTimeout
  serve iapp req := iapp.setupXapp req src
  finish := E42Xapp.e2apHandleE42SetupResponseXapp

/-- How the setup is to end. -/
structure E42SetupDone (iapp : Iapp) (src : SctpInfo)
    (s : State E42Xapp Iapp E42SetupRequest E42SetupResponse) : Prop where
  /-- the xApp is connected -/
  connected : s.client.connected = true
  /-- the iApp has given one id, that of the xApp, and maps it to the xApp's address -/
  xapps : s.server.xapps.toList.Perm ((s.client.id, src) :: iapp.xapps.toList)
  address : s.server.findMapXappsSad s.client.id = some src

/-- The iApp can take an xApp: it knows E2 nodes, and can send them, and the next id is new. -/
structure Iapp.CanTake (iapp : Iapp) : Prop where
  /-- there are E2 nodes, and their number is a `uint8_t` -/
  nonempty : iapp.e2Nodes.nodeToRf.toList ≠ []
  short : iapp.e2Nodes.nodeToRf.toList.length < 256
  /-- they are of the kinds that can be encoded -/
  encodable : ∀ e ∈ iapp.e2Nodes.nodeToRf.toList,
    e.1.type = .gNB ∨ e.1.type = .gNBCU ∨ e.1.type = .gNBDU ∨ e.1.type = .eNB
  /-- no xApp has the next id -/
  fresh : ∀ e ∈ iapp.xapps.toList, e.1 ≠ iapp.xappId.toUInt16

/-- The response with the E2 nodes can be sent exactly if there are some and all can be encoded. -/
theorem RegE2Nodes.encodable_iff {n : RegE2Nodes} {resp : E42SetupResponse}
    (h : n.generateE2NodeArr = some resp.nodes) :
    Iapp.encodableE42SetupResponse resp ↔ n.nodeToRf.toList ≠ [] ∧ ∀ e ∈ n.nodeToRf.toList,
      e.1.type = .gNB ∨ e.1.type = .gNBCU ∨ e.1.type = .gNBDU ∨ e.1.type = .eNB := by
  obtain ⟨-, hnodes⟩ := generateE2NodeArr_eq_some.1 h
  have hperm := (perm_copy n).1
  have hnil : n.copy.toList = [] ↔ n.nodeToRf.toList = [] := by
    rw [← List.length_eq_zero_iff, hperm.length_eq, List.length_eq_zero_iff]
  rw [Iapp.encodableE42SetupResponse, hnodes]
  simp [hnil, hperm.mem_iff, or_assoc]

namespace E42Xapp

variable {epFd fd : Fd} {pluginAg : List RanFunction} {pluginRic : List SmRic} {x : E42Xapp}
  {req : E42SetupRequest} {iapp : Iapp}

/-- The xApp handles one setup response, and its timer makes it send its request until then. -/
theorem WaitsForSetup.finishesOnce (h : x.WaitsForSetup fd) (iapp : Iapp) (src : SctpInfo) :
    (e42Setup x req iapp src).FinishesOnce := by
  obtain ⟨pending, -, hresp⟩ := h.setupResponse
  have hdone : ∀ resp x', x.e2apHandleE42SetupResponseXapp resp = some x' →
      x'.connected = true ∧ x'.io = [x'.epFd] := by
    intro resp x' h'
    rw [hresp resp] at h'
    obtain ⟨nodes, -, rfl⟩ := Option.map_eq_some_iff.1 h'
    exact ⟨rfl, rfl⟩
  refine ⟨?_, ?_, ?_⟩
  · rintro t ⟨hmem, hne⟩
    exact h.resend hmem hne
  · rintro resp x' hfin t ⟨hmem, hne⟩
    rw [(hdone resp x' hfin).2] at hmem
    exact hne (List.mem_singleton.1 hmem)
  · intro resp x' hfin
    exact e2apHandleE42SetupResponseXapp_of_connected (hdone resp x' hfin).1

/-- The setup request is answered, and the setup ends well with the response, exactly if the iApp
can take the xApp. -/
theorem WaitsForSetup.accepts_iff (h : x.WaitsForSetup fd) (hreq : req.ranFuncItem ≠ [])
    (hwf : iapp.e2Nodes.WF) (src : SctpInfo) :
    (e42Setup x req iapp src).Accepts (E42SetupDone iapp src) ↔ iapp.CanTake := by
  constructor
  · rintro ⟨resp, iapp', x', hserve, -, -⟩
    obtain ⟨⟨-, hfresh, -⟩, -, hnodes, henc⟩ := Iapp.setupXapp_eq_some.1 hserve
    obtain ⟨hne, htypes⟩ := (RegE2Nodes.encodable_iff hnodes).1 henc
    exact ⟨hne, (RegE2Nodes.generateE2NodeArr_eq_some.1 hnodes).1, htypes, hfresh⟩
  · rintro ⟨hne, hshort, htypes, hfresh⟩
    obtain ⟨nodes, hnodes⟩ : ∃ nodes, iapp.e2Nodes.generateE2NodeArr = some nodes :=
      ⟨_, RegE2Nodes.generateE2NodeArr_eq_some.2 ⟨hshort, rfl⟩⟩
    obtain ⟨resp, hid, hresp⟩ : ∃ resp : E42SetupResponse,
        resp.xappId = iapp.xappId.toUInt16 ∧ resp.nodes = nodes :=
      ⟨⟨iapp.xappId.toUInt16, nodes⟩, rfl, rfl⟩
    rw [← hresp] at hnodes
    have henc := (RegE2Nodes.encodable_iff hnodes).2 ⟨hne, htypes⟩
    have hserve := (@Iapp.setupXapp_eq_some iapp _ req src resp).2
      ⟨⟨hid, hfresh, rfl⟩, hreq, hnodes, henc⟩
    obtain ⟨x', hfin, hconn, hid'⟩ := h.exists_setupResponse (hwf.exists_foldlM_add hnodes)
    rw [hid] at hid'
    refine ⟨resp, _, x', hserve, hfin, hconn, ?_, ?_⟩
    · rw [hid']
      exact AssocRbTree.perm_insert _ _ _ _
    rw [hid']
    exact Iapp.findMapXappsSad_insert hfresh _

/-- In whatever order the setup messages in flight are delivered, no assertion fails and the xApp
ends connected with one id, exactly if the setup timer has not expired in the run and the iApp can
take the xApp. -/
theorem e42Setup_settles_iff
    (hstart : (init epFd pluginAg pluginRic).e2apHandleE42SetupRequestXapp fd = some (req, x))
    (hwf : iapp.e2Nodes.WF) (src : SctpInfo)
    {tr : List (State E42Xapp Iapp E42SetupRequest E42SetupResponse ×
      Action Fd E42SetupRequest E42SetupResponse)}
    {s : State E42Xapp Iapp E42SetupRequest E42SetupResponse}
    (h : (e42Setup x req iapp src).system.Run tr s) :
    (e42Setup x req iapp src).Settles (E42SetupDone iapp src) s ↔
      (∀ p ∈ tr, p.2.isTimerExpiry = false) ∧ iapp.CanTake := by
  obtain ⟨hwaits, hreq⟩ := waitsForSetup_of_start hstart
  rw [(hwaits.finishesOnce iapp src).settles_iff h, hwaits.accepts_iff hreq hwf src]

end E42Xapp

namespace Sample

/-- The setup request of the xApp. -/
def e42SetupRequest : E42SetupRequest := ⟨[rf]⟩

/-- The xApp with its setup timer `4`. -/
def startedXapp : E42Xapp :=
  ((E42Xapp.init 3 [rf] [sm]).e2apHandleE42SetupRequestXapp 4).get rfl |>.2

theorem start_xapp : (E42Xapp.init 3 [rf] [sm]).e2apHandleE42SetupRequestXapp 4 =
    some (e42SetupRequest, startedXapp) := rfl

/-- The iApp when the E2 node has set up. -/
def iapp : Iapp := registered.iapp

theorem iapp_wf : iapp.e2Nodes.WF := by
  have hrun : ric.Run [(.init 3 [sm], .e2SetupRequest ⟨node, [rf]⟩ nodeAddr)] registered :=
    threads_cons .nil rfl rfl
  exact RicState.e2Nodes_wf ⟨_, hrun⟩

theorem iapp_canTake : iapp.CanTake := ⟨by decide, by decide, by decide, by decide⟩

/-- The xApp and the iApp. -/
def e42Setup : Exchange E42Xapp Iapp Fd E42SetupRequest E42SetupResponse :=
  FlexRic.e42Setup startedXapp e42SetupRequest iapp xappAddr

/-- The response with an id. -/
def e42SetupResponse (id : UInt16) : E42SetupResponse := ⟨id, [⟨node, [rf]⟩]⟩

end Sample

namespace E42Xapp

/-- The setup of an xApp whose request is answered before its timer expires. -/
theorem e42Setup_settles_first : ∃ tr s, Sample.e42Setup.system.Run tr s ∧
    s.responses = [Sample.e42SetupResponse 7] ∧
    Sample.e42Setup.Settles (E42SetupDone Sample.iapp Sample.xappAddr) s := by
  have hsched : ∃ s, Sample.e42Setup.deliveries.Sched Sample.e42Setup.system.init
      [.deliverRequest Sample.e42SetupRequest] s ∧ s.responses = [Sample.e42SetupResponse 7] :=
    ⟨_, ⟨⟨List.mem_singleton_self _, rfl⟩, _, rfl, rfl⟩, rfl⟩
  obtain ⟨s, hsched, hresp⟩ := hsched
  obtain ⟨tr, hsteps, -⟩ := hsched.steps
  obtain ⟨hrun, htimers⟩ := System.steps_restrict.1 hsteps
  exact ⟨tr, s, hrun, hresp, (e42Setup_settles_iff Sample.start_xapp Sample.iapp_wf _ hrun).2
    ⟨htimers, Sample.iapp_canTake⟩⟩

/-- The timer expires before the response is handled: the iApp gives out two ids, and the second
response fails the assertion of the xApp that it is not connected. -/
theorem e42Setup_fails_retransmitted : ∃ tr s, Sample.e42Setup.system.Run tr s ∧
    s.client.id = 7 ∧ s.server.findMapXappsSad 7 = some Sample.xappAddr ∧
    s.server.findMapXappsSad 8 = some Sample.xappAddr ∧
    s.responses = [Sample.e42SetupResponse 8] ∧
    Sample.e42Setup.step s (.deliverResponse (Sample.e42SetupResponse 8)) = none ∧
    ¬Sample.e42Setup.Settles (E42SetupDone Sample.iapp Sample.xappAddr) s := by
  have hsched : ∃ s, Sample.e42Setup.system.Sched Sample.e42Setup.system.init
      [.timerExpiry 4, .deliverRequest Sample.e42SetupRequest,
        .deliverRequest Sample.e42SetupRequest, .deliverResponse (Sample.e42SetupResponse 7)] s ∧
      s.client.id = 7 ∧ s.server.findMapXappsSad 7 = some Sample.xappAddr ∧
      s.server.findMapXappsSad 8 = some Sample.xappAddr ∧
      s.responses = [Sample.e42SetupResponse 8] ∧
      Sample.e42Setup.step s (.deliverResponse (Sample.e42SetupResponse 8)) = none :=
    ⟨_, ⟨⟨List.mem_cons_self, by decide⟩, _, rfl, List.mem_cons_self, _, rfl, List.mem_cons_self,
      _, rfl, List.mem_cons_of_mem _ (List.mem_singleton_self _), _, rfl, rfl⟩, rfl, rfl, rfl, rfl,
      rfl⟩
  obtain ⟨s, hsched, hid, h7, h8, hresp, hstep⟩ := hsched
  obtain ⟨tr, hrun, -⟩ := hsched.steps
  refine ⟨tr, s, hrun, hid, h7, h8, hresp, hstep, fun hsettles => ?_⟩
  have hmem : Sample.e42SetupResponse 8 ∈ s.responses := by
    rw [hresp]
    exact List.mem_singleton_self _
  exact (hsettles [] s .nil).1 (.deliverResponse (Sample.e42SetupResponse 8)) hmem hstep

end E42Xapp

end FlexRic
