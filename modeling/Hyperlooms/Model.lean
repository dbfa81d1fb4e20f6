import Hyperlooms.Py

/-!
# The coordinator's data model

The records of `app.models.node`, `app.models.job` and the verifier's details
dictionary, field for field, with the fields the modelled services never read
or write left out (`temperature`, `provider`, `metrics`, the log timestamp).

Floats are exact rationals, timestamps are microseconds since the epoch, and
`jobs_running`, `replicas` and `max_tokens` are naturals.  `JobConfig` carries
the bounds its pydantic fields validate, so a configuration outside them cannot
be built; `Node` and `Job` carry none, because `model_copy` writes them without
validation and the later modules prove which bounds survive.
-/

namespace Hyperlooms

/-! ## Nodes -/

/-- `NodeStatus`. -/
inductive NodeStatus
  | healthy
  | busy
  | offline
deriving DecidableEq, Repr

/-- `Node`. -/
structure Node where
  id : String
  gpu : String
  vramTotalGb : ℚ
  vramUsedGb : ℚ := 0
  status : NodeStatus := .healthy
  trustScore : ℚ := 0.9
  jobsRunning : ℕ := 0
  latencyMsAvg : ℚ := 0
  region : String := "us-east-1"
  modelCache : List String := []
  lastHeartbeat : ℕ := 0
deriving DecidableEq, Repr

/-- `Node.free_vram_gb`. -/
def Node.freeVramGb (n : Node) : ℚ :=
  max 0 (n.vramTotalGb - n.vramUsedGb)

/-- `NodeRegisterRequest`. -/
structure NodeRegisterRequest where
  id : Option String := none
  gpu : String
  vramTotalGb : ℚ
  region : String := "us-east-1"
  modelCache : List String := []
deriving DecidableEq, Repr

/-- `NodeHeartbeatRequest`. -/
structure NodeHeartbeatRequest where
  status : Option NodeStatus := none
  vramUsedGb : Option ℚ := none
  latencyMs : Option ℚ := none
  jobsRunning : Option ℕ := none
  modelCache : Option (List String) := none
deriving DecidableEq, Repr

/-! ## Jobs -/

/-- `JobStatus`. -/
inductive JobStatus
  | pending
  | running
  | verifying
  | completed
  | failed
deriving DecidableEq, Repr

/-- `VerificationStatus`. -/
inductive VerificationStatus
  | pending
  | verified
  | mismatch
  | failed
deriving DecidableEq, Repr

/-- `VerificationStatus.value`, as the `"Verification ..."` log entry prints it. -/
def VerificationStatus.value : VerificationStatus → String
  | .pending => "pending"
  | .verified => "verified"
  | .mismatch => "mismatch"
  | .failed => "failed"

/-- `JobConfig`, with the bounds of its `Field(ge=.., le=..)` declarations. -/
structure JobConfig where
  model : String := "llama-3.1-70b"
  replicas : ℕ := 2
  maxTokens : ℕ := 512
  preferredRegion : Option String := none
  replicas_ge : 1 ≤ replicas := by decide
  replicas_le : replicas ≤ 8 := by decide
  maxTokens_ge : 32 ≤ maxTokens := by decide
  maxTokens_le : maxTokens ≤ 8192 := by decide
deriving DecidableEq

/-- `JobCreateRequest`. -/
structure JobCreateRequest where
  prompt : String
  config : JobConfig := {}
  ownerId : String := "anonymous"
deriving DecidableEq

/-- `NodeExecutionResult`. -/
structure NodeExecutionResult where
  nodeId : String
  output : Option String := none
  latencyMs : ℚ := 0
  success : Bool := true
  error : Option String := none
deriving DecidableEq, Repr

/-- A successful replica with a non-empty output: `item.success and item.output`. -/
def NodeExecutionResult.isSuccessful (r : NodeExecutionResult) : Bool :=
  r.success && (r.output.getD "" != "")

/-- A `JobLogEntry` dictionary `{"message", "level", "node_id"}`. -/
structure LogEntry where
  message : String
  level : String := "info"
  nodeId : Option String := none
deriving DecidableEq, Repr

/-- `Job.verification_details`: empty, the verifier's reason for finding nothing
to verify, or its full report. -/
inductive VerificationDetails
  | empty
  | noSuccessfulResults
  | report (similarityThreshold : ℚ) (majorityRequired : ℕ) (majorityNodes : List String)
      (clusterSizes : List ℕ) (avgInternalSimilarity : ℚ)
      (similarityMatrix : List (String × List (String × ℚ)))
deriving DecidableEq, Repr

/-- `details.get("majority_nodes", [])`. -/
def VerificationDetails.majorityNodes : VerificationDetails → List String
  | .report _ _ nodes _ _ _ => nodes
  | _ => []

/-- `details.get("cluster_sizes", [])`. -/
def VerificationDetails.clusterSizes : VerificationDetails → List ℕ
  | .report _ _ _ sizes _ _ => sizes
  | _ => []

/-- `Job`. -/
structure Job where
  id : String
  prompt : String
  config : JobConfig
  ownerId : String := "anonymous"
  costEstimateCredits : ℚ := 0
  status : JobStatus := .pending
  verificationStatus : VerificationStatus := .pending
  progress : ℚ := 0
  assignedNodeIds : List String := []
  scheduledNodeIds : List String := []
  inflightNodeIds : List String := []
  failedNodeIds : List String := []
  results : List NodeExecutionResult := []
  logs : List LogEntry := []
  mergedOutput : Option String := none
  verificationConfidence : ℚ := 0
  verificationDetails : VerificationDetails := .empty
  createdAt : ℕ := 0
  updatedAt : ℕ := 0
  error : Option String := none
deriving DecidableEq

/-- A finished job: `completed` or `failed`. -/
def JobStatus.isTerminal : JobStatus → Bool
  | .completed | .failed => true
  | _ => false

end Hyperlooms
