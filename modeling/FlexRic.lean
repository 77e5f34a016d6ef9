import FlexRic.Semantics.System
import FlexRic.Semantics.Retransmission
import FlexRic.Semantics.Layout
import FlexRic.Semantics.Memory
import FlexRic.Semantics.Buffer
import FlexRic.AlgDs.AssocRbTree
import FlexRic.AlgDs.AssocRbBalance
import FlexRic.AlgDs.AssocRbHeap
import FlexRic.AlgDs.AssocRbLinks
import FlexRic.AlgDs.AssocRbFixup
import FlexRic.AlgDs.AssocRbRefine
import FlexRic.AlgDs.AssocRbIter
import FlexRic.AlgDs.AssocRbRuns
import FlexRic.AlgDs.Bimap
import FlexRic.AlgDs.AssocReg
import FlexRic.AlgDs.AssocRegArray
import FlexRic.AlgDs.AssocRegKeys
import FlexRic.AlgDs.SeqRing
import FlexRic.AlgDs.TsQueue
import FlexRic.E2ap.Types
import FlexRic.Sm.PluginRic
import FlexRic.Sm.Tc.DataIe
import FlexRic.Sm.Tc.EncPlain
import FlexRic.Sm.Tc.DecPlain
import FlexRic.Sm.Tc.RoundTrip
import FlexRic.MsgHand.RegE2Nodes
import FlexRic.Agent.E2Agent
import FlexRic.Agent.Subscriptions
import FlexRic.Ric.NearRic
import FlexRic.Ric.Registries
import FlexRic.Ric.Iapp
import FlexRic.Ric.Threads
import FlexRic.Ric.Timers
import FlexRic.Ric.ReqIds
import FlexRic.Ric.XappIds
import FlexRic.Ric.Routing
import FlexRic.XApp.PendingEvents
import FlexRic.XApp.E42Xapp
import FlexRic.XApp.Threads
import FlexRic.XApp.Wakeups
import FlexRic.XApp.Registration
import FlexRic.XApp.Procedures
import FlexRic.XApp.Dispatch
import FlexRic.XApp.Db
import FlexRic.XApp.DbRuns
import FlexRic.Setup.E2Setup
import FlexRic.Setup.E42Setup
import FlexRic.AlgDs.BimapRuns
import FlexRic.AlgDs.BooyerMoore
import FlexRic.AlgDs.BooyerMooreSearch
import FlexRic.AlgDs.BimapIter
import FlexRic.AlgDs.Comparators
import FlexRic.E2ap.NodeOrder
import FlexRic.MsgHand.RegE2NodesRuns
import FlexRic.AlgDs.Fifo
import FlexRic.AlgDs.SeqArr
import FlexRic.AlgDs.AssocHtOpen
import FlexRic.AlgDs.AssocHtOps
import FlexRic.AlgDs.AssocHtRuns
import FlexRic.E2ap.Conversions
import FlexRic.E2ap.Asn
import FlexRic.E2ap.Messages
import FlexRic.E2ap.Equality
import FlexRic.E2ap.SubscriptionEquality
import FlexRic.E2ap.Dec
import FlexRic.E2ap.Enc
import FlexRic.E2ap.RoundTrip
import FlexRic.E2ap.ControlRoundTrip
import FlexRic.E2ap.SetupRoundTrip
import FlexRic.E2ap.DecOutcome
import FlexRic.E2ap.ServiceRoundTrip
import FlexRic.E2ap.DecSafety
import FlexRic.Setup.E42SetupResponse
import FlexRic.Ric.SubscriptionDelete
import FlexRic.Ric.PubSub
import FlexRic.Sm.Slice.DataIe
import FlexRic.Sm.Slice.DecPlain
import FlexRic.Sm.Slice.EncPlain
import FlexRic.Sm.Slice.Formats
import FlexRic.Sm.Slice.RoundTrip
import FlexRic.Sm.Slice.Equality
import FlexRic.Sm.Slice.Copy
import FlexRic.Semantics.FixedSize
import FlexRic.Sm.Stats.DataIe
import FlexRic.Sm.Stats.DecPlain
import FlexRic.Sm.Stats.Equality
import FlexRic.Sm.Kpm.DataIe
import FlexRic.Sm.Kpm.DecAsn
import FlexRic.Sm.Kpm.EncAsn
import FlexRic.Sm.Kpm.RoundTrip
import FlexRic.Sm.Kpm.ActionRoundTrip
import FlexRic.Sm.Kpm.Copy
import FlexRic.AlgDs.EqFloat
import FlexRic.Semantics.Comparing
import FlexRic.Sm.Tc.Equality
import FlexRic.Sm.Tc.Copy
import FlexRic.AlgDs.Rotate
import FlexRic.E2ap.SetupCopy
import FlexRic.Sm.Stats.EncPlain
import FlexRic.Sm.Stats.RoundTrip
import FlexRic.Semantics.CString
import FlexRic.Util.ConfFile
import FlexRic.AlgDs.SeqRingDist
import FlexRic.Semantics.Printf
import FlexRic.Ric.StringParser
import FlexRic.Ric.Stdout
import FlexRic.Semantics.Sql
import FlexRic.XApp.SqlText
import FlexRic.XApp.SqlWrite
import FlexRic.XApp.SliceSql
import FlexRic.Semantics.Channels
import FlexRic.Agent.Handlers
import FlexRic.Net.E2Network
import FlexRic.Net.Forwarding
import FlexRic.Net.Answers
import FlexRic.Net.Assumptions
import FlexRic.Ric.Orderly
import FlexRic.Net.Cooperation
import FlexRic.Net.EndToEnd
import FlexRic.Net.SettingUp
import FlexRic.Net.Serving
import FlexRic.Net.Progress
import FlexRic.Net.Draining
import FlexRic.XApp.Calls
import FlexRic.XApp.Callbacks
import FlexRic.XApp.Progress
import FlexRic.Net.XappProcess
import FlexRic.Net.XappRuns
import FlexRic.Net.Exchange
import FlexRic.Net.Xapps
import FlexRic.Net.XappAssumptions
import FlexRic.Net.XappOrder
import FlexRic.Net.XappCooperation
import FlexRic.Net.XappProgress
import FlexRic.Net.Reports
