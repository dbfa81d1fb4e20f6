import Hyperlooms.Store.Prog

/-!
# The store's operations

The coroutines of `InMemoryStateStore` and `JobOrchestrator`, each as the
sequence of sections it runs.  Every `await` of a store method is one section;
between them the code is pure and is written inline.

Python iterates a `set[str]` in hash order, which the program does not
control.  The sweeps take that order from a hint (`inOrder`), so a theorem over
every hint is a theorem over every iteration order.  The random inputs,
`secrets.token_urlsafe(16)` and `uuid4().hex[:12]`, are parameters too.

`Op` lists the operations the routes, the orchestrator and the network
publisher call, and `Op.prog` is the thread each of them runs.
-/

namespace Hyperlooms
namespace Store

open Prog CreditLedger AssignmentKey

section Ops

variable (cfg : StoreConfig)

/-- `utc_now()`. -/
def now : Prog ℕ := sec .clock

/-- `get_node(node_id)`. -/
def getNode (nodeId : String) : Prog (Option Node) := sec (.node (.getNode nodeId))

/-- `list_nodes()`. -/
def listNodes : Prog (List Node) := sec (.node .listNodes)

/-- `get_job(job_id)`. -/
def getJob (jobId : String) : Prog (Option Job) := sec (.job (.getJob jobId))

/-- `increment_node_jobs(node_id, delta)`. -/
def incrementNodeJobs (nodeId : String) (delta : ℤ) : Prog Unit :=
  sec (.node (.incrementNodeJobs nodeId delta))

/-- `adjust_node_trust(node_id, delta)`. -/
def adjustNodeTrust (nodeId : String) (delta : ℚ) : Prog Unit :=
  sec (.node (.adjustNodeTrust nodeId delta))

/-- `add_model_to_node_cache(node_id, model)`. -/
def addModelToNodeCache (nodeId model : String) : Prog Unit :=
  if model = "" then ret () else sec (.node (.addModelToNodeCache nodeId model))

/-- A call of the ledger; its `ValueError` propagates. -/
def ledgerCall (c : LedgerCall) : Prog (Option CreditTransaction) := do
  let r ← sec (.ledger c)
  liftExcept (r.mapError StoreError.ledger)

/-- `touch_job(job_id, **updates)`. -/
def touchJob (jobId : String) (u : JobUpdate) : Prog Job := do
  let r ← sec (.job (.touchJob jobId u))
  liftExcept r

/-- `append_job_log(job_id, message, level, node_id)`: read the job, then write
its logs back with one more entry. -/
def appendJobLog (jobId message level : String) (nodeId : Option String) : Prog Job := do
  match ← getJob jobId with
  | none => raise (.keyError ("Job '" ++ jobId ++ "' not found"))
  | some job => touchJob jobId { logs := some (job.logs ++ [{ message, level, nodeId }]) }

/-- `register_node(payload)`: the id is the payload's, or one made from the GPU
name and the number of nodes. -/
def registerNode (payload : NodeRegisterRequest) : Prog Node := do
  let count : ℕ ← sec (.node .nodeCount)
  let generated :=
    "node-" ++ ⟨(pyLower payload.gpu).data.map fun c => if c = ' ' then '-' else c⟩ ++
    "-" ++ toString (count + 1)
  let nodeId := match payload.id with
    | some i => if i = "" then generated else i
    | none => generated
  let at_ ← now
  sec (.node (.registerNode payload nodeId at_))

/-- `heartbeat(node_id, payload)`. -/
def heartbeat (nodeId : String) (payload : NodeHeartbeatRequest) : Prog Node := do
  let r ← sec (.node (.heartbeat nodeId payload))
  liftExcept r

/-- `claim_next_job(node_id)`, with the nonce its key gets. -/
def claimNextJob (nodeId : String) (nonce : Nonce) : Prog (Option (Job × String × ℕ)) := do
  match ← getNode nodeId with
  | none => raise (.keyError ("Node '" ++ nodeId ++ "' not found"))
  | some node =>
      if node.status = .offline then ret none
      else do
        let at_ ← now
        let nodes ← listNodes
        match ← sec (.job (.claimNextJob nodeId nodes at_ nonce)) with
        | none => ret none
        | some (job, key, exp) =>
            if key = "" then
              raise (.runtimeError ("failed_to_issue_assignment_hash_key for " ++ job.id ++ ":" ++
                nodeId))
            else do
              incrementNodeJobs nodeId 1
              addModelToNodeCache nodeId job.config.model
              ret (some (job, key, exp))

/-- `_reward_node_for_job(job, node_id, multiplier)`. -/
def rewardNodeForJob (job : Job) (nodeId : String) (multiplier : ℚ) : Prog Unit :=
  if cfg.withCredits then do
    let base := max 0.1 (job.costEstimateCredits / max 1 (job.config.replicas : ℚ))
    let reward := pyRound (base * max 0.2 multiplier) 4
    let _ ← ledgerCall (.rewardNode nodeId job.id reward "job_execution")
    ret ()
  else ret ()

/-- The loop body of `_apply_trust`, for one result. -/
def trustResult (job : Job) (result : NodeExecutionResult) : Prog Unit :=
  if !result.success then adjustNodeTrust result.nodeId (-0.01)
  else if result.nodeId ∈ job.verificationDetails.majorityNodes then do
    adjustNodeTrust result.nodeId 0.015
    rewardNodeForJob cfg job result.nodeId 1.15
  else do
    adjustNodeTrust result.nodeId (-0.01)
    rewardNodeForJob cfg job result.nodeId 0.55

/-- `_apply_trust(job)`. -/
def applyTrust : Option Job → Prog Unit
  | none => ret ()
  | some job => forEach job.results (trustResult cfg job)

/-- `_evaluate_job(job_id)`: phase one, the verifier, phase two, trust and
rewards. -/
def evaluateJob (jobId : String) : Prog Job := do
  let nodes ← listNodes
  match ← sec (.job (.evaluateStart jobId nodes)) with
  | .error e => raise e
  | .ok (.settled job) => ret job
  | .ok (.verify succ target) => do
      let verdict := Verifier.verify cfg.geometry cfg.similarityThreshold succ target
      let r ← sec (.job (.evaluateFinish jobId verdict))
      liftExcept r
      applyTrust cfg (← getJob jobId)
      match ← getJob jobId with
      | none => raise (.keyError ("Job '" ++ jobId ++ "' not found"))
      | some final => ret final

/-- `_submit_replica(node_id, job_id, output, latency_ms, error, assignment_hash_key)`. -/
def submitReplica (nodeId jobId : String) (output : Option String) (latencyMs : Option ℚ)
    (error key : Option String) : Prog Job := do
  let at_ ← now
  match ← sec (.job (.submitReplica nodeId jobId output latencyMs error key at_)) with
  | .error e => raise e
  | .ok (.completed job) => ret job
  | .ok .recorded => do
      incrementNodeJobs nodeId (-1)
      adjustNodeTrust nodeId (if isTruthy error then -0.03 else 0)
      let _ ← sec (.node (.heartbeat nodeId { latencyMs, jobsRunning := some 0 }))
      let final ← evaluateJob cfg jobId
      if cfg.withCredits ∧ final.status = .failed ∧ 0 < final.costEstimateCredits then do
        let _ ← ledgerCall (.refundUser final.ownerId final.id final.costEstimateCredits)
        ret final
      else ret final

/-- `_release_inflight(node_ids, message)`. -/
def releaseInflight (nodeIds : List String) (message : String) (nodeOrder jobOrder : List String) :
    Prog (List String) := do
  let affected ← sec (.job (.releaseInflight nodeIds message))
  forEach (inOrder nodeOrder nodeIds) fun n => adjustNodeTrust n (-0.02)
  forEach (inOrder jobOrder affected) fun j => do
    let _ ← evaluateJob cfg j
    ret ()
  ret affected

/-- `expire_stale_job_claims(timeout_seconds)`. -/
def expireStaleJobClaims (timeoutSeconds : ℤ) (nodeOrder jobOrder : List String) :
    Prog (List String) := do
  let r ← sec (.job (.expireStaleJobClaims timeoutSeconds))
  forEach (inOrder nodeOrder r.2) fun n => do
    incrementNodeJobs n (-1)
    adjustNodeTrust n (-0.01)
  forEach (inOrder jobOrder r.1) fun j => do
    let _ ← evaluateJob cfg j
    ret ()
  ret r.1

/-- `expire_stale_nodes(timeout_seconds)`. -/
def expireStaleNodes (timeoutSeconds : ℤ) (nodeOrder jobOrder : List String) :
    Prog (List String) := do
  let offline : List String ← sec (.node (.expireStaleNodes timeoutSeconds))
  let message := "Assigned node went offline. Replica will be reassigned."
  if offline = [] then ret [] else releaseInflight cfg offline message nodeOrder jobOrder

/-- `put_job_from_request(payload, job_id, cost_estimate_credits)`. -/
def putJobFromRequest (payload : JobCreateRequest) (jobId : String) (cost : ℚ) : Prog Job := do
  let nodes ← listNodes
  let at_ ← now
  let job : Job :=
    { id := jobId, prompt := payload.prompt, config := payload.config, ownerId := payload.ownerId,
      costEstimateCredits := pyRound (max 0 cost) 4, status := .pending, progress := 5,
      createdAt := at_, updatedAt := at_ }
  let job := { job with
    scheduledNodeIds :=
      (planNodesForJob cfg nodes job.config (targetReplicas cfg job nodes)).map Node.id }
  sec (.job (.putJob job))
  ret job

/-- `JobOrchestrator.submit_job(payload)`, with the `uuid4().hex[:12]` of its id:
charge, store, log, and set the job pending again. -/
def submitJob (payload : JobCreateRequest) (hex : String) : Prog Job := do
  let jobId := "job-" ++ hex
  let estimated : ℚ := if cfg.withCredits then estimateJobCost payload.config else 0
  let _ ← (if cfg.withCredits then ledgerCall (.chargeUserForJob payload.ownerId jobId estimated)
    else ret none : Prog _)
  let job ← putJobFromRequest cfg payload jobId estimated
  let message :=
    if job.scheduledNodeIds ≠ [] then
      "Job accepted and queued. Planned nodes: " ++ ", ".intercalate job.scheduledNodeIds
    else "Job accepted and queued"
  let _ ← appendJobLog job.id message "info" none
  let _ ← touchJob job.id { status := some .pending, progress := some 5 }
  ret ((← getJob job.id).getD job)

/-- `JobOrchestrator.retry_job(job_id)`: a new job with the old one's request. -/
def retryJob (jobId hex : String) : Prog Job := do
  match ← getJob jobId with
  | none => raise (.keyError ("Job '" ++ jobId ++ "' not found"))
  | some existing => do
      let retry ← submitJob cfg
        { prompt := existing.prompt, config := existing.config, ownerId := existing.ownerId } hex
      let _ ← appendJobLog retry.id ("Created as retry from " ++ jobId) "info" none
      ret retry

end Ops

/-- The operations the routes, the orchestrator and the network publisher call. -/
inductive Op
  | seedNodes
  | registerNode (payload : NodeRegisterRequest)
  | heartbeat (nodeId : String) (payload : NodeHeartbeatRequest)
  | claimNextJob (nodeId : String) (nonce : Nonce)
  | submitJobResult (nodeId jobId output : String) (latencyMs : Option ℚ) (key : Option String)
  | submitJobFailure (nodeId jobId error : String) (key : Option String)
  | expireStaleJobClaims (timeoutSeconds : ℤ) (nodeOrder jobOrder : List String)
  | expireStaleNodes (timeoutSeconds : ℤ) (nodeOrder jobOrder : List String)
  | syntheticPulse
  | putJobFromRequest (payload : JobCreateRequest) (jobId : String) (cost : ℚ)
  | submitJob (payload : JobCreateRequest) (hex : String)
  | retryJob (jobId hex : String)
  | credits (c : LedgerCall)

/-- The thread an operation runs. -/
def Op.prog (cfg : StoreConfig) : Op → Thread
  | .seedNodes => sec (.node .seedNodes)
  | .registerNode payload => do let _ ← Store.registerNode payload
  | .heartbeat nodeId payload => do let _ ← Store.heartbeat nodeId payload
  | .claimNextJob nodeId nonce => do let _ ← Store.claimNextJob nodeId nonce
  | .submitJobResult nodeId jobId output latency key => do
      let _ ← Store.submitReplica cfg nodeId jobId (some output) latency none key
  | .submitJobFailure nodeId jobId error key => do
      let _ ← Store.submitReplica cfg nodeId jobId none none (some error) key
  | .expireStaleJobClaims timeout nodeOrder jobOrder => do
      let _ ← Store.expireStaleJobClaims cfg timeout nodeOrder jobOrder
  | .expireStaleNodes timeout nodeOrder jobOrder => do
      let _ ← Store.expireStaleNodes cfg timeout nodeOrder jobOrder
  | .syntheticPulse => sec (.node .syntheticPulse)
  | .putJobFromRequest payload jobId cost => do
      let _ ← Store.putJobFromRequest cfg payload jobId cost
  | .submitJob payload hex => do let _ ← Store.submitJob cfg payload hex
  | .retryJob jobId hex => do let _ ← Store.retryJob cfg jobId hex
  | .credits c => do let _ ← Store.ledgerCall c

/-! ## Sequential runs -/

/-- The id of the job an operation creates, if it creates one. -/
def Op.newJobId : Op → Option String
  | .putJobFromRequest _ jobId _ => some jobId
  | .submitJob _ hex => some ("job-" ++ hex)
  | .retryJob _ hex => some ("job-" ++ hex)
  | _ => none

/-- A step of a sequential run: an operation run to its end, or the clock
moving. -/
inductive Step
  | op (o : Op)
  | tick (t : ℕ)

/-- The world after a step. -/
def Step.apply (cfg : StoreConfig) : Step → World → World
  | .op o, w => ((o.prog cfg).run cfg w).1
  | .tick t, w => { w with clock := t }

/-- `uuid4()` gives every new job an id no job has yet. -/
def Step.Fresh (w : World) : Step → Prop
  | .op o => ∀ j, o.newJobId = some j → j ∉ Dict.keys w.tables.jobs
  | .tick _ => True

/-- The states that complete operations, run one after another, reach from a
fresh store next to any ledger. -/
inductive Reachable (cfg : StoreConfig) : World → Prop
  | init (credits : CreditLedger) : Reachable cfg (World.init credits)
  | step {w : World} (s : Step) : Reachable cfg w → s.Fresh w → Reachable cfg (s.apply cfg w)

instance Step.decidableFresh (w : World) : (s : Step) → Decidable (s.Fresh w)
  | .op o => decidable_of_iff (∀ j ∈ o.newJobId.toList, j ∉ Dict.keys w.tables.jobs)
      (by simp [Step.Fresh])
  | .tick _ => isTrue trivial

/-- The world after the steps, in order. -/
def Step.run (cfg : StoreConfig) : List Step → World → World
  | [], w => w
  | s :: ss, w => Step.run cfg ss (s.apply cfg w)

/-- Each step creates only ids that are new where it runs. -/
def Step.AllFresh (cfg : StoreConfig) : List Step → World → Prop
  | [], _ => True
  | s :: ss, w => s.Fresh w ∧ Step.AllFresh cfg ss (s.apply cfg w)

instance Step.decidableAllFresh (cfg : StoreConfig) :
    (ss : List Step) → (w : World) → Decidable (Step.AllFresh cfg ss w)
  | [], _ => isTrue trivial
  | s :: ss, w =>
      haveI := Step.decidableAllFresh cfg ss (s.apply cfg w)
      inferInstanceAs (Decidable (s.Fresh w ∧ Step.AllFresh cfg ss (s.apply cfg w)))

theorem Reachable.run {cfg : StoreConfig} :
    ∀ {ss : List Step} {w : World}, Reachable cfg w → Step.AllFresh cfg ss w →
      Reachable cfg (Step.run cfg ss w)
  | [], _, h, _ => h
  | s :: _, _, h, ⟨hs, hss⟩ => (Reachable.run (h.step s hs) hss :)

/-! ## A configuration to run

Stand-ins for the two cryptographic primitives and for the embedding geometry,
under which runs of the model evaluate: the HMAC is a fixed digest, the hash a
fixed hex string, and two outputs are near exactly when their bucket counts are
equal. -/

/-- Fixed-output stand-ins for HMAC-SHA256 and SHA-256. -/
def demoPrimitives : Primitives where
  hmacSha256 _ _ := List.replicate 32 7
  sha256Hex _ := "h"
  length_hmacSha256 _ _ := rfl
  sha256Hex_ne_empty _ := by show "h" ≠ ""; decide
  sha256Hex_ascii _ := by show ∀ c ∈ "h".data, c.toNat < 128; decide

/-- Outputs are near, and similar, exactly when they have as many tokens of each
length modulo four. -/
def demoGeometry : Verifier.Geometry :=
  .byLength

/-- The store's defaults over the stand-ins. -/
def demoConfig : StoreConfig :=
  { primitives := demoPrimitives, geometry := demoGeometry }

/-- A fresh store next to a ledger with the default bootstrap credits. -/
def demoWorld : World :=
  World.init (CreditLedger.init 1000)

/-- Nonce bytes all equal to `b`. -/
def demoNonce (b : UInt8) : Nonce :=
  ⟨List.replicate 16 b, List.length_replicate 16 b⟩

/-- The key a claim at time zero issues under `demoConfig`. -/
def demoKey (jobId nodeId : String) (b : UInt8) : String :=
  (issueAssignmentHashKey demoConfig.primitives demoConfig.assignmentHashSecret
    demoConfig.ttlSec jobId nodeId 0 (demoNonce b)).1

/-- A node with a 24 GB GPU registers and reports healthy, with payloads that
pass the routes' validation. -/
def demoNodeUp (nodeId : String) : List Step :=
  [.op (.registerNode { id := some nodeId, gpu := "NVIDIA A10", vramTotalGb := 24 }),
   .op (.heartbeat nodeId { status := some .healthy })]

end Store
end Hyperlooms
