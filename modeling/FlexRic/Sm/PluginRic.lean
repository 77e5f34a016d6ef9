import FlexRic.E2ap.Types

/-!
# Service model plugins (`ric/plugin_ric.c`, `xApp/plugin_ric.c`)

The near-RIC and the xApps load the same plugins. A plugin decodes the indications of one RAN
function; what it decodes stays abstract, up to its kind.
-/

namespace FlexRic

/-- `sm_ag_if_rd_e`: what a service model reads out of an indication. -/
inductive SmAgIfRd : Type where
  | macStatsV0
  | rlcStatsV0
  | pdcpStatsV0
  | sliceStatsV0
  | tcStatsV0
  | gtpStatsV0
  | kpmStatsV0
  deriving DecidableEq, Repr

/-- `sm_ric_t`: a service model plugin. -/
structure SmRic : Type where
  ranFuncId : UInt16
  /-- `proc.on_indication` -/
  onIndication : RicIndication → SmAgIfRd

/-- `sm_plugin_ric`: it asserts that the RAN function is known. -/
def smPluginRic (plugin : List SmRic) (ranFuncId : UInt16) : Option SmRic :=
  if 0 < ranFuncId then plugin.find? fun sm => sm.ranFuncId = ranFuncId else none

/-! ## A small network

One E2 node with one RAN function and one xApp, for the runs of the other modules. -/

namespace Sample

/-- An E2 node. -/
def node : GlobalE2NodeId := ⟨.gNB, ⟨208, 95, 2⟩, 1, none⟩

/-- The address of the E2 node. -/
def nodeAddr : SctpInfo := ⟨40001, 1, 2⟩

/-- The address of the xApp. -/
def xappAddr : SctpInfo := ⟨40002, 1, 2⟩

/-- A service model that everyone knows. -/
def sm : SmRic := ⟨142, fun _ => .macStatsV0⟩

/-- The RAN function of the service model. -/
def rf : RanFunction := ⟨[], 142, 0, none⟩

end Sample

end FlexRic
