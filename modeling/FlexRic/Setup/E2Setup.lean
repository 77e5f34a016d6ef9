import FlexRic.Agent.E2Agent
import FlexRic.Ric.NearRic
import FlexRic.Semantics.Retransmission

/-!
# The E2 setup

The agent sends its E2 setup request again whenever its setup timer expires. The near-RIC takes
each of these requests for that of a new E2 node, and fails an assertion on the second one. So the
setup ends well exactly if the timer does not expire before the response is handled, and the
near-RIC can take the E2 node at all.
-/

namespace FlexRic

open Exchange

/-- The exchange of the setup messages, from the moment the agent `ag` has sent the request `req`.
The near-RIC sees the agent under the address `src`; it is `ric`, with the registry `nodes` of its
iApp. -/
def e2Setup (ag : E2Agent) (req : E2SetupRequest) (ric : NearRic) (nodes : RegE2Nodes)
    (src : SctpInfo) : Exchange E2Agent (NearRic × RegE2Nodes) Fd E2SetupRequest E2SetupResponse
    where
  client := ag
  server := (ric, nodes)
  request := req
  armed ag fd := fd ∈ ag.io ∧ fd ≠ ag.epFd
  resend := E2Agent.resendAfterTimeout
  serve := fun (ric, nodes) req =>
    (ric.e2apRegSockAddrRic req.id src).e2apHandleSetupRequestRic nodes req
  finish := E2Agent.e2apHandleSetupResponseAgent

/-- How the setup is to end. -/
structure E2SetupDone (ag : E2Agent) (ric : NearRic) (nodes : RegE2Nodes) (src : SctpInfo)
    (s : State E2Agent (NearRic × RegE2Nodes) E2SetupRequest E2SetupResponse) : Prop where
  /-- the agent is connected -/
  connected : s.handled ≠ []
  /-- no setup timer is armed -/
  disarmed : s.client.pending.toList = [] ∧ s.client.io = [ag.epFd]
  /-- the near-RIC has registered the E2 node once, with its address and its RAN functions -/
  registered : s.server.2.nodeToRf.toList.Perm
    ((ag.globalE2NodeId, ag.plugin) :: nodes.nodeToRf.toList)
  address : s.server.1.e2Nodes.toList.Perm ((ag.globalE2NodeId, src) :: ric.e2Nodes.toList)
  connE2Nodes : s.server.1.connE2Nodes =
    ric.connE2Nodes ++ [⟨ag.globalE2NodeId, ag.plugin.map RanFunction.id⟩]

/-- The near-RIC can take the E2 node: it is new, and its RAN functions are supported. -/
def NearRic.CanTake (ric : NearRic) (nodes : RegE2Nodes) (id : GlobalE2NodeId)
    (plugin : List RanFunction) : Prop :=
  (∀ e ∈ nodes.nodeToRf.toList, eqGlobalE2NodeId id e.1 = false) ∧ ric.Supports plugin

namespace E2Agent

variable {epFd fd : Fd} {plugin : List RanFunction} {id : GlobalE2NodeId} {req : E2SetupRequest}
  {ag : E2Agent}

/-- The agent handles one setup response, and its timer makes it send its request until then. -/
theorem WaitsForSetup.finishesOnce (h : ag.WaitsForSetup fd) (ric : NearRic) (nodes : RegE2Nodes)
    (src : SctpInfo) : (e2Setup ag req ric nodes src).FinishesOnce := by
  obtain ⟨ag', hfin, hio, hep, -, hagain⟩ := h.setupResponse
  have heq : ∀ resp ag'', ag.e2apHandleSetupResponseAgent resp = some ag'' → ag'' = ag' := by
    intro resp ag'' h
    rw [hfin resp] at h
    exact (Option.some_inj.1 h).symm
  refine ⟨?_, ?_, ?_⟩
  · rintro t ⟨hmem, hne⟩
    exact h.resend hmem hne
  · rintro resp ag'' hresp t ⟨hmem, hne⟩
    cases heq resp ag'' hresp
    rw [hio] at hmem
    exact hne (hep ▸ List.mem_singleton.1 hmem)
  · intro resp ag'' hresp
    cases heq resp ag'' hresp
    exact hagain

/-- The setup request is answered, and the setup ends well with the response, exactly if the
near-RIC can take the E2 node. -/
theorem WaitsForSetup.accepts_iff (h : ag.WaitsForSetup fd) (hreq : ag.sendSetupRequest = some req)
    (ric : NearRic) (nodes : RegE2Nodes) (src : SctpInfo) :
    (e2Setup ag req ric nodes src).Accepts (E2SetupDone ag ric nodes src) ↔
      ric.CanTake nodes ag.globalE2NodeId ag.plugin := by
  obtain ⟨rfl, hne, hid⟩ := sendSetupRequest_eq_some hreq
  constructor
  · rintro ⟨resp, ⟨ric', nodes'⟩, ag', hserve, -, -⟩
    obtain ⟨hadd, hsup, -, -⟩ := (NearRic.e2apHandleSetupRequestRic_eq_some hid).1 hserve
    exact ⟨(RegE2Nodes.add_eq_some.1 hadd).1.2, hsup⟩
  · rintro ⟨hnew, hsup⟩
    obtain ⟨ag', hfin, hio, -, hpending, -⟩ := h.setupResponse
    have hsup' : (ric.e2apRegSockAddrRic ag.globalE2NodeId src).Supports ag.plugin := hsup
    have hserve := (NearRic.e2apHandleSetupRequestRic_eq_some hid).2
      ⟨RegE2Nodes.add_eq_some.2 ⟨⟨hne, hnew⟩, rfl⟩, hsup', rfl, rfl⟩
    have hresp := hfin ⟨ag.globalE2NodeId.plmn, 25, ag.plugin.map RanFunction.id⟩
    refine ⟨_, _, ag', hserve, hresp, ?_⟩
    exact
      { connected := List.cons_ne_nil _ _
        disarmed := ⟨hpending, hio⟩
        registered := AssocRbTree.perm_insert _ _ _ _
        address := BiMap.perm_insert _ _ _ _ _
        connE2Nodes := rfl }

end E2Agent

namespace Sample

/-- The setup request of the E2 node. -/
def e2SetupRequest : E2SetupRequest := ⟨node, [rf]⟩

/-- The E2 node with its setup timer `4`. -/
def agent : E2Agent := ((E2Agent.init 3 [rf] node).e2StartAgent 4).get rfl |>.2

theorem start_agent : (E2Agent.init 3 [rf] node).e2StartAgent 4 = some (e2SetupRequest, agent) :=
  rfl

/-- The E2 node and a near-RIC that has just started. -/
def e2Setup : Exchange E2Agent (NearRic × RegE2Nodes) Fd E2SetupRequest E2SetupResponse :=
  FlexRic.e2Setup agent e2SetupRequest (.init 3 [sm]) .init nodeAddr

end Sample

namespace E2Agent

end E2Agent

end FlexRic
