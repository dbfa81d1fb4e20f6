import Hyperlooms.Store.World

/-!
# Sections under the job lock

Each `async with self._job_lock` block of `InMemoryStateStore`, as a function
of the job tables: the job dictionary, the three lease tables keyed by
`(job_id, node_id)` and `_job_started_at`.  The node list a block reads is the
snapshot its operation took with `list_nodes()` before the lock.

* `claimNextJob`: the first job by creation time that passes the acceptance
  test (`claimAccepts`) gets the node as a new lease, a start time and a fresh
  key (`claimJob`).
* `submitReplica`: the locked part of `_submit_replica`, which checks the lease
  and its key, ends the lease and records the replica's result.
* `evaluateStart` and `evaluateFinish`: the two locked phases of
  `_evaluate_job`, with the verifier's pure run between them.
* `expireStaleJobClaims` and `releaseInflight`: the two sweeps' locked parts.

Ending a lease (`JobTables.endLease`) pops the start time and clears the key
record, as `_submit_replica`, `_evaluate_job` and both sweeps do.
-/

namespace Hyperlooms
namespace Store

open AssignmentKey

namespace JobTables

/-- `self._assignment_started_at.pop(key, None)` and `_clear_assignment_hash_key(*key)`. -/
def endLease (t : JobTables) (k : String × String) : JobTables :=
  { t with
    assignmentStartedAt := Dict.pop t.assignmentStartedAt k
    assignmentHashDigests := Dict.pop t.assignmentHashDigests k
    assignmentHashExpiresAt := Dict.pop t.assignmentHashExpiresAt k }

/-- `self._jobs[job_id] = job`. -/
def setJob (t : JobTables) (jobId : String) (job : Job) : JobTables :=
  { t with jobs := Dict.set t.jobs jobId job }

@[simp] theorem jobs_endLease (t : JobTables) (k : String × String) :
    (t.endLease k).jobs = t.jobs := rfl

@[simp] theorem jobs_setJob (t : JobTables) (jobId : String) (job : Job) :
    (t.setJob jobId job).jobs = Dict.set t.jobs jobId job := rfl

@[simp] theorem assignmentStartedAt_setJob (t : JobTables) (jobId : String) (job : Job) :
    (t.setJob jobId job).assignmentStartedAt = t.assignmentStartedAt := rfl

@[simp] theorem assignmentHashDigests_setJob (t : JobTables) (jobId : String) (job : Job) :
    (t.setJob jobId job).assignmentHashDigests = t.assignmentHashDigests := rfl

@[simp] theorem assignmentHashExpiresAt_setJob (t : JobTables) (jobId : String) (job : Job) :
    (t.setJob jobId job).assignmentHashExpiresAt = t.assignmentHashExpiresAt := rfl

@[simp] theorem assignmentStartedAt_endLease (t : JobTables) (k : String × String) :
    (t.endLease k).assignmentStartedAt = Dict.pop t.assignmentStartedAt k := rfl

@[simp] theorem assignmentHashDigests_endLease (t : JobTables) (k : String × String) :
    (t.endLease k).assignmentHashDigests = Dict.pop t.assignmentHashDigests k := rfl

@[simp] theorem assignmentHashExpiresAt_endLease (t : JobTables) (k : String × String) :
    (t.endLease k).assignmentHashExpiresAt = Dict.pop t.assignmentHashExpiresAt k := rfl

end JobTables

/-- The keyword arguments `touch_job` is called with: `logs` from
`append_job_log`, `status` and `progress` from the orchestrator. -/
structure JobUpdate where
  status : Option JobStatus := none
  progress : Option ℚ := none
  logs : Option (List LogEntry) := none
deriving DecidableEq

/-- What the locked part of `_submit_replica` returns: the completed job it
leaves alone, or that it recorded the replica. -/
inductive SubmitOutcome
  | completed (job : Job)
  | recorded

/-- What phase one of `_evaluate_job` returns: the job it settled without
verifying, or the successful results and target to verify. -/
inductive EvaluationStart
  | settled (job : Job)
  | verify (successful : List NodeExecutionResult) (target : ℕ)

/-- `error` as Python tests it: present and non-empty. -/
def isTruthy : Option String → Bool
  | some e => e ≠ ""
  | none => false

/-- The error a rejected key raises. -/
def Rejection.toStoreError : Rejection → StoreError
  | .valueError m => .valueError m
  | .typeError m => .typeError m

namespace Locked

section Sections

variable (cfg : StoreConfig)

/-- `put_job(job)`. -/
def putJob (job : Job) (t : JobTables) : JobTables :=
  t.setJob job.id job

/-- `touch_job(job_id, **updates)`. -/
def touchJob (jobId : String) (u : JobUpdate) (now : ℕ) (t : JobTables) :
    JobTables × Except StoreError Job :=
  match Dict.get t.jobs jobId with
  | none => (t, .error (.keyError ("Job '" ++ jobId ++ "' not found")))
  | some existing =>
      let updated : Job :=
        { existing with
          status := u.status.getD existing.status
          progress := u.progress.getD existing.progress
          logs := u.logs.getD existing.logs
          updatedAt := now }
      (t.setJob jobId updated, .ok updated)

/-- The ranking `claim_next_job` consults for `job`: the strict one, or the
fallback when the strict one is empty. -/
def claimRanked (nodes : List Node) (job : Job) : List Node :=
  let strict := Scheduler.rankNodes nodes job.config (fromKeys job.inflightNodeIds)
  if strict ≠ [] then strict
  else rankNodesForJob cfg nodes job.config (fromKeys job.inflightNodeIds)

/-- `needed = target - (len(successful) + len(inflight))`. -/
def claimNeeded (nodes : List Node) (job : Job) : ℤ :=
  targetReplicas cfg job nodes - ((successful job).length + (fromKeys job.inflightNodeIds).length)

/-- The loop body of `claim_next_job` on one job: whether it leases the job to
the node. -/
def claimAccepts (nodeId : String) (nodes : List Node) (job : Job) : Bool :=
  let ranked := claimRanked cfg nodes job
  let window :=
    min ranked.length (max (targetReplicas cfg job nodes) (claimNeeded cfg nodes job * 2).toNat)
  !(job.status = .completed ∨ job.status = .failed ∨ job.status = .verifying) &&
    0 < claimNeeded cfg nodes job && nodeId ∉ fromKeys job.inflightNodeIds &&
    !((successful job).any fun r => r.nodeId = nodeId ∧ r.success) &&
    ranked ≠ [] && nodeId ∈ (ranked.take window).map Node.id

/-- The job `claim_next_job` writes back on an accepted job: running, with the
node as one more lease. -/
def claimedJob (nodeId : String) (nodes : List Node) (now : ℕ) (job : Job) : Job :=
  let target := targetReplicas cfg job nodes
  let ranked := claimRanked cfg nodes job
  let strict := Scheduler.rankNodes nodes job.config (fromKeys job.inflightNodeIds)
  let inflightIds := fromKeys (job.inflightNodeIds ++ [nodeId])
  let fallbackLogs : List LogEntry :=
    if strict = [] ∧ singleNodeFallbackNodes cfg nodes ≠ [] then
      [{ message :=
          "Single-node fallback assignment active (capacity filter relaxed for MVP testing).",
         level := "warning", nodeId := some nodeId }]
    else []
  { job with
    status := .running
    verificationStatus := .pending
    inflightNodeIds := inflightIds
    assignedNodeIds := fromKeys (job.assignedNodeIds ++ [nodeId])
    scheduledNodeIds := (ranked.take target).map Node.id
    progress := progress (successful job).length inflightIds.length target
    logs := job.logs ++
      ({ message := "Replica claimed by " ++ nodeId, nodeId := some nodeId } :: fallbackLogs)
    updatedAt := now }

/-- The lease `claim_next_job` grants on an accepted job: the claimed job, its
start time and the key record. -/
def claimJob (nodeId : String) (nodes : List Node) (now : ℕ) (nonce : Nonce) (job : Job)
    (t : JobTables) : JobTables × (Job × String × ℕ) :=
  let t := if job.id ∈ Dict.keys t.jobStartedAt then t
    else { t with jobStartedAt := Dict.set t.jobStartedAt job.id now }
  let claimed := claimedJob cfg nodeId nodes now job
  let issued := issueAssignmentHashKey cfg.primitives cfg.assignmentHashSecret cfg.ttlSec job.id
    nodeId now nonce
  ({ t with
      jobs := Dict.set t.jobs job.id claimed
      assignmentStartedAt := Dict.set t.assignmentStartedAt (job.id, nodeId) now
      assignmentHashDigests :=
        Dict.set t.assignmentHashDigests (job.id, nodeId) (cfg.primitives.sha256Hex issued.1)
      assignmentHashExpiresAt := Dict.set t.assignmentHashExpiresAt (job.id, nodeId) issued.2 },
    (claimed, issued))

section ClaimFields

variable (nodeId : String) (nodes : List Node) (now : ℕ) (nonce : Nonce) (job : Job)
  (t : JobTables)

@[simp] theorem claimedJob_id : (claimedJob cfg nodeId nodes now job).id = job.id := rfl

@[simp] theorem claimedJob_config :
    (claimedJob cfg nodeId nodes now job).config = job.config := rfl

@[simp] theorem claimedJob_status :
    (claimedJob cfg nodeId nodes now job).status = .running := rfl

@[simp] theorem claimedJob_verificationStatus :
    (claimedJob cfg nodeId nodes now job).verificationStatus = .pending := rfl

@[simp] theorem claimedJob_results :
    (claimedJob cfg nodeId nodes now job).results = job.results := rfl

@[simp] theorem claimedJob_inflightNodeIds :
    (claimedJob cfg nodeId nodes now job).inflightNodeIds =
      fromKeys (job.inflightNodeIds ++ [nodeId]) := rfl

@[simp] theorem jobs_claimJob :
    (claimJob cfg nodeId nodes now nonce job t).1.jobs =
      Dict.set t.jobs job.id (claimedJob cfg nodeId nodes now job) := by
  unfold claimJob; split_ifs <;> rfl

@[simp] theorem assignmentStartedAt_claimJob :
    (claimJob cfg nodeId nodes now nonce job t).1.assignmentStartedAt =
      Dict.set t.assignmentStartedAt (job.id, nodeId) now := by
  unfold claimJob; split_ifs <;> rfl

@[simp] theorem assignmentHashDigests_claimJob :
    (claimJob cfg nodeId nodes now nonce job t).1.assignmentHashDigests =
      Dict.set t.assignmentHashDigests (job.id, nodeId)
        (cfg.primitives.sha256Hex (issueAssignmentHashKey cfg.primitives cfg.assignmentHashSecret
          cfg.ttlSec job.id nodeId now nonce).1) := by
  unfold claimJob; split_ifs <;> rfl

@[simp] theorem assignmentHashExpiresAt_claimJob :
    (claimJob cfg nodeId nodes now nonce job t).1.assignmentHashExpiresAt =
      Dict.set t.assignmentHashExpiresAt (job.id, nodeId)
        (issueAssignmentHashKey cfg.primitives cfg.assignmentHashSecret cfg.ttlSec job.id nodeId
          now nonce).2 := by
  unfold claimJob; split_ifs <;> rfl

end ClaimFields

/-- The jobs in the order `claim_next_job` visits them: by creation time, ties
in insertion order. -/
def claimOrder (t : JobTables) : List Job :=
  (t.jobs.map Prod.snd).insertionSort (fun a b => a.createdAt ≤ b.createdAt)

/-- The locked part of `claim_next_job(node_id)`. -/
def claimNextJob (nodeId : String) (nodes : List Node) (now : ℕ) (nonce : Nonce)
    (t : JobTables) : JobTables × Option (Job × String × ℕ) :=
  match (claimOrder t).find? (claimAccepts cfg nodeId nodes) with
  | none => (t, none)
  | some job =>
      let r := claimJob cfg nodeId nodes now nonce job t
      (r.1, some r.2)

/-- The result `_submit_replica` records. -/
def replicaResult (nodeId : String) (output : Option String) (latencyMs : Option ℚ)
    (error : Option String) (executionMs : ℚ) : NodeExecutionResult :=
  { nodeId, output, latencyMs := latencyMs.getD executionMs, success := error.isNone, error }

/-- The job after `_submit_replica` recorded a replica. -/
def recordReplica (job : Job) (nodeId : String) (result : NodeExecutionResult)
    (error : Option String) (now : ℕ) : Job :=
  { job with
    status := .running
    results := job.results.filter (fun r => r.nodeId ≠ nodeId) ++ [result]
    inflightNodeIds := job.inflightNodeIds.filter (· ≠ nodeId)
    failedNodeIds :=
      if error.isNone then job.failedNodeIds else fromKeys (job.failedNodeIds ++ [nodeId])
    logs := job.logs ++
      [{ message :=
          "Replica " ++ (if isTruthy error then "failed" else "result") ++ " from " ++ nodeId,
         level := if isTruthy error then "error" else "info", nodeId := some nodeId }]
    updatedAt := now }

/-- The locked part of `_submit_replica(node_id, job_id, output, latency_ms, error,
assignment_hash_key)`. -/
def submitReplica (nodeId jobId : String) (output : Option String) (latencyMs : Option ℚ)
    (error key : Option String) (now : ℕ) (t : JobTables) :
    JobTables × Except StoreError SubmitOutcome :=
  match Dict.get t.jobs jobId with
  | none => (t, .error (.keyError ("Job '" ++ jobId ++ "' not found")))
  | some job =>
      if job.status = .completed then (t, .ok (.completed job))
      else if job.status = .failed then
        (t, .error (.valueError ("Job '" ++ jobId ++ "' already failed")))
      else if nodeId ∉ job.inflightNodeIds ∧ (jobId, nodeId) ∉ Dict.keys t.assignmentStartedAt then
        (t, .error (.valueError
          ("Node '" ++ nodeId ++ "' has no active assignment for job '" ++ jobId ++ "'")))
      else
        match verifyAssignmentHashKey cfg.primitives cfg.assignmentHashSecret
            t.assignmentHashDigests t.assignmentHashExpiresAt jobId nodeId key now with
        | .error r => (t, .error (Rejection.toStoreError r))
        | .ok () =>
            let startedAt := (Dict.get t.jobStartedAt jobId).getD job.updatedAt
            let executionMs : ℚ := max 0 (((now : ℚ) - startedAt) / 1000)
            let result := replicaResult nodeId output latencyMs error executionMs
            ((t.endLease (jobId, nodeId)).setJob jobId (recordReplica job nodeId result error now),
              .ok .recorded)

/-- Phase one of `_evaluate_job(job_id)`. -/
def evaluateStart (jobId : String) (nodes : List Node) (t : JobTables) :
    JobTables × Except StoreError EvaluationStart :=
  match Dict.get t.jobs jobId with
  | none => (t, .error (.keyError ("Job '" ++ jobId ++ "' not found")))
  | some job =>
      if job.status = .completed ∨ job.status = .failed then (t, .ok (.settled job))
      else
        let succ := successful job
        let target := targetReplicas cfg job nodes
        let inflight := fromKeys job.inflightNodeIds
        let remaining :=
          rankNodesForJob cfg nodes job.config (succ.map NodeExecutionResult.nodeId ++ inflight)
        if target ≤ succ.length ∨ (0 < succ.length ∧ inflight = [] ∧ remaining = []) then
          (t.setJob jobId { job with status := .verifying, progress := 92 },
            .ok (.verify succ target))
        else if succ.length = 0 ∧ inflight = [] ∧ remaining = [] then
          let failed : Job :=
            { job with
              status := .failed
              verificationStatus := .failed
              progress := 100
              error := some "No healthy nodes available to execute replicas" }
          (t.setJob jobId failed, .ok (.settled failed))
        else
          let updated : Job :=
            { job with
              status := if inflight ≠ [] then .running else .pending
              progress := progress succ.length inflight.length target
              scheduledNodeIds := (planNodesForJob cfg nodes job.config target).map Node.id }
          (t.setJob jobId updated, .ok (.settled updated))

/-- The finalised job of phase two of `_evaluate_job`. -/
def finalizeJob (job : Job) (v : Verifier.Verdict) (now : ℕ) : Job :=
  let final : JobStatus := if v.status ≠ .failed then .completed else .failed
  { job with
    status := final
    verificationStatus := v.status
    mergedOutput := v.mergedOutput
    verificationConfidence := v.confidence
    verificationDetails := v.details
    inflightNodeIds := []
    progress := 100
    error := if final = .completed then none else some "Verification failed"
    logs := job.logs ++ [{ message := "Verification " ++ v.status.value, level := "info" }]
    updatedAt := now }

/-- Phase two of `_evaluate_job(job_id)`: the verdict is written and every lease
of the job is dropped. -/
def evaluateFinish (jobId : String) (v : Verifier.Verdict) (now : ℕ) (t : JobTables) :
    JobTables × Except StoreError Unit :=
  match Dict.get t.jobs jobId with
  | none => (t, .error (.keyError ("Job '" ++ jobId ++ "' not found")))
  | some job =>
      let t := t.setJob jobId (finalizeJob job v now)
      let stale := (Dict.keys t.assignmentStartedAt).filter (fun k => k.1 = jobId)
      (stale.foldl JobTables.endLease t, .ok ())

/-- The job after its lease for `nodeId` expired. -/
def expireLease (job : Job) (nodeId : String) : Job :=
  { job with
    status := if 1 < job.inflightNodeIds.length then .running else .pending
    inflightNodeIds := job.inflightNodeIds.filter (· ≠ nodeId)
    failedNodeIds := fromKeys (job.failedNodeIds ++ [nodeId])
    logs := job.logs ++
      [{ message := "Replica lease expired for " ++ nodeId, level := "warning",
         nodeId := some nodeId }] }

/-- One stale lease of `expire_stale_job_claims`: ended, and taken off the job
when the job still lists the node. -/
def expireStep (acc : JobTables × List String × List String) (k : String × String) :
    JobTables × List String × List String :=
  let t := acc.1.endLease k
  match Dict.get t.jobs k.1 with
  | none => (t, acc.2)
  | some job =>
      if k.2 ∉ job.inflightNodeIds then (t, acc.2)
      else (t.setJob k.1 (expireLease job k.2), setAdd acc.2.1 k.1, setAdd acc.2.2 k.2)

/-- The locked part of `expire_stale_job_claims(timeout_seconds)`: the leases
started before the cutoff end; the affected jobs and nodes. -/
def expireStaleJobClaims (timeoutSeconds : ℤ) (now : ℕ) (t : JobTables) :
    JobTables × List String × List String :=
  let cutoff : ℤ := now - timeoutSeconds * 10 ^ 6
  let stale := (t.assignmentStartedAt.filter (fun p => (p.2 : ℤ) < cutoff)).map Prod.fst
  stale.foldl expireStep (t, [], [])

/-- The job after the nodes `nodeIds` were released from it. -/
def releaseJob (job : Job) (nodeIds : List String) (message : String) : Job :=
  { job with
    status := if 1 < job.inflightNodeIds.length then .running else .pending
    inflightNodeIds := job.inflightNodeIds.filter (· ∉ nodeIds)
    failedNodeIds := fromKeys (job.failedNodeIds ++ job.inflightNodeIds.filter (· ∈ nodeIds))
    logs := job.logs ++ [{ message, level := "warning" }] }

/-- The locked part of `_release_inflight(node_ids, message)`: every lease of
the nodes ends, and every job listing one of them lets it go. -/
def releaseInflight (nodeIds : List String) (message : String) (t : JobTables) :
    JobTables × List String :=
  let t := ((Dict.keys t.assignmentStartedAt).filter (fun k => k.2 ∈ nodeIds)).foldl
    JobTables.endLease t
  let r := t.jobs.foldl (updateStep (fun job => job.inflightNodeIds.any (· ∈ nodeIds))
    (fun job => releaseJob job nodeIds message)) (t.jobs, [])
  ({ t with jobs := r.1 }, r.2)

end Sections

end Locked

/-- A block under `_job_lock`. -/
inductive JobSection
  | putJob (job : Job)
  | getJob (jobId : String)
  | touchJob (jobId : String) (update : JobUpdate)
  | claimNextJob (nodeId : String) (nodes : List Node) (now : ℕ) (nonce : Nonce)
  | submitReplica (nodeId jobId : String) (output : Option String) (latencyMs : Option ℚ)
      (error key : Option String) (now : ℕ)
  | evaluateStart (jobId : String) (nodes : List Node)
  | evaluateFinish (jobId : String) (verdict : Verifier.Verdict)
  | expireStaleJobClaims (timeoutSeconds : ℤ)
  | releaseInflight (nodeIds : List String) (message : String)

/-- What a job block returns. -/
def JobSection.Reply : JobSection → Type
  | .putJob _ => Unit
  | .getJob _ => Option Job
  | .touchJob .. => Except StoreError Job
  | .claimNextJob .. => Option (Job × String × ℕ)
  | .submitReplica .. => Except StoreError SubmitOutcome
  | .evaluateStart .. => Except StoreError EvaluationStart
  | .evaluateFinish .. => Except StoreError Unit
  | .expireStaleJobClaims _ => List String × List String
  | .releaseInflight .. => List String

/-- Run a job block on the tables, at clock `now`. -/
def JobSection.exec (cfg : StoreConfig) (now : ℕ) (t : JobTables) :
    (s : JobSection) → JobTables × s.Reply
  | .putJob job => (Locked.putJob job t, ())
  | .getJob jobId => (t, Dict.get t.jobs jobId)
  | .touchJob jobId u => Locked.touchJob jobId u now t
  | .claimNextJob nodeId nodes at_ nonce => Locked.claimNextJob cfg nodeId nodes at_ nonce t
  | .submitReplica nodeId jobId output latency error key at_ =>
      Locked.submitReplica cfg nodeId jobId output latency error key at_ t
  | .evaluateStart jobId nodes => Locked.evaluateStart cfg jobId nodes t
  | .evaluateFinish jobId v => Locked.evaluateFinish jobId v now t
  | .expireStaleJobClaims timeout => Locked.expireStaleJobClaims timeout now t
  | .releaseInflight nodeIds message => Locked.releaseInflight nodeIds message t

end Store
end Hyperlooms
