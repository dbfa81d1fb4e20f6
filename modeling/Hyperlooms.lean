import Hyperlooms.Py
import Hyperlooms.Model
import Hyperlooms.Scheduler
import Hyperlooms.Verifier
import Hyperlooms.Ledger
import Hyperlooms.Conservation
import Hyperlooms.AssignmentKey
import Hyperlooms.Store.World
import Hyperlooms.Store.Nodes
import Hyperlooms.Store.Jobs
import Hyperlooms.Store.Prog
import Hyperlooms.Store.Ops
import Hyperlooms.Store.Invariant
import Hyperlooms.Store.Leases
import Hyperlooms.Store.Verdicts
import Hyperlooms.Store.Keys
import Hyperlooms.Store.Races
import Hyperlooms.Store.NodeRecords
import Hyperlooms.Store.Submissions
import Hyperlooms.Charges
import Hyperlooms.Verifier.Clusters
import Hyperlooms.Verifier.Tokens
import Hyperlooms.NodeAuth.Base64
import Hyperlooms.NodeAuth.Utf8
import Hyperlooms.NodeAuth.Json
import Hyperlooms.NodeAuth.Token
import Hyperlooms.P2P.Overlay
import Hyperlooms.P2P.Gossip
import Hyperlooms.P2P.Consensus
import Hyperlooms.Training.Store
import Hyperlooms.Training.Lifecycle
import Hyperlooms.Training.Estimate
import Hyperlooms.Training.Orchestrator
