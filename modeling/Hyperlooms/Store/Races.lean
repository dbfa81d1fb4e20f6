import Hyperlooms.Store.Verdicts

/-!
# Interleaved operations

The store's coroutines interleave at their `await` points (`Sched`), and each
`async with` section runs atomically.  Interleavings that no sequential run
produces break the terminal states of jobs:

* `interleaved_evaluations_finalise_twice`: phase one of `_evaluate_job` takes a
  job already in `verifying` as live, so when two evaluations of one job run
  both phase ones before either phase two, both verify the job and both phase
  twos write a verdict.  In `raceSchedule` two nodes post the two replicas of a
  job at once: the job is finalised twice, logs "Verification verified" twice,
  and each node's trust is raised twice.
* `JobOrchestrator.submit_job` sets its job pending in a section of its own
  after `put_job`.  In `resetSchedule` a whole claim, result and finalisation
  runs in between, and the completed job is set pending again.
* `append_job_log` reads the job in one section and writes its logs back in
  another; in `lostLogSchedule` a claim runs in between, and its log entry is
  overwritten.
-/

namespace Hyperlooms
namespace Store

open Prog

/-! ## Two evaluations of one job -/

section Evaluations

variable (cfg : StoreConfig) {jobId : String} {nodes : List Node} {t t₁ : JobTables}
  {succ : List NodeExecutionResult} {target : ℕ}

/-- Phase one asks for a verdict only on a live job, which it marks verifying,
with the job's successful results and target. -/
theorem evaluateStart_eq_verify
    (h : Locked.evaluateStart cfg jobId nodes t = (t₁, .ok (.verify succ target))) :
    ∃ job, Dict.get t.jobs jobId = some job ∧ job.status ≠ .completed ∧ job.status ≠ .failed ∧
      t₁ = t.setJob jobId { job with status := .verifying, progress := 92 } ∧
      succ = successful job ∧ target = targetReplicas cfg job nodes ∧
      (target ≤ succ.length ∨ (0 < succ.length ∧ fromKeys job.inflightNodeIds = [] ∧
        rankNodesForJob cfg nodes job.config
          (succ.map NodeExecutionResult.nodeId ++ fromKeys job.inflightNodeIds) = [])) := by
  unfold Locked.evaluateStart at h
  rcases hj : Dict.get t.jobs jobId with _ | job <;> simp only [hj] at h
  · cases h
  · split_ifs at h with hs hv
    · simp at h
    · obtain ⟨rfl, h⟩ := Prod.mk.inj h
      cases h
      exact ⟨job, rfl, fun e => hs (.inl e), fun e => hs (.inr e), rfl, rfl, rfl, hv⟩
    all_goals simp at h

/-- A second phase one on the job the first marked verifying asks for the same
verdict again, and leaves the job as it is. -/
theorem evaluateStart_verify_again
    (h : Locked.evaluateStart cfg jobId nodes t = (t₁, .ok (.verify succ target))) :
    (Locked.evaluateStart cfg jobId nodes t₁).2 = .ok (.verify succ target) ∧
      Dict.get (Locked.evaluateStart cfg jobId nodes t₁).1.jobs jobId = Dict.get t₁.jobs jobId := by
  obtain ⟨job, hj, hc, hf, rfl, rfl, rfl, hv⟩ := evaluateStart_eq_verify cfg h
  have hs : successful { job with status := .verifying, progress := 92 } = successful job := rfl
  have ht : targetReplicas cfg { job with status := .verifying, progress := 92 } nodes =
      targetReplicas cfg job nodes := rfl
  simp only [Locked.evaluateStart, JobTables.jobs_setJob, Dict.get_set, if_true, hs, ht,
    reduceCtorEq, or_self, if_false]
  rw [if_pos hv]
  simp

/-- Phase two writes its verdict over whatever job it finds. -/
theorem evaluateFinish_get (jobId : String) (v : Verifier.Verdict) (now : ℕ) (t : JobTables) :
    Dict.get (Locked.evaluateFinish jobId v now t).1.jobs jobId =
      (Dict.get t.jobs jobId).map (Locked.finalizeJob · v now) := by
  unfold Locked.evaluateFinish
  split <;> simp_all [foldl_endLease]

/-- Two evaluations of one job, both phase ones before either phase two: the
second phase one verifies the job again, and the job ends finalised by both
verdicts, the second over the first. -/
theorem interleaved_evaluations_finalise_twice
    (h : Locked.evaluateStart cfg jobId nodes t = (t₁, .ok (.verify succ target)))
    (v₁ v₂ : Verifier.Verdict) (now₁ now₂ : ℕ) :
    (Locked.evaluateStart cfg jobId nodes t₁).2 = .ok (.verify succ target) ∧
      ∃ job, Dict.get t₁.jobs jobId = some job ∧ job.status = .verifying ∧
        Dict.get (Locked.evaluateFinish jobId v₂ now₂
            (Locked.evaluateFinish jobId v₁ now₁ (Locked.evaluateStart cfg jobId nodes t₁).1).1).1.jobs
          jobId = some (Locked.finalizeJob (Locked.finalizeJob job v₁ now₁) v₂ now₂) := by
  obtain ⟨hv, hget⟩ := evaluateStart_verify_again cfg h
  obtain ⟨job, -, -, -, rfl, -⟩ := evaluateStart_eq_verify cfg h
  refine ⟨hv, { job with status := .verifying, progress := 92 }, by simp, rfl, ?_⟩
  rw [evaluateFinish_get, evaluateFinish_get, hget]
  simp

/-- A one-replica job with one successful result, alone in the store. -/
def soloJob : Job :=
  { id := "j", prompt := "p", config := { model := "m", replicas := 1 },
    results := [{ nodeId := "a", output := some "o" }] }

/-- The store holding only `soloJob`. -/
def soloTables : JobTables := { jobs := [("j", soloJob)] }

/-- A verdict that verifies `soloJob`'s output. -/
def soloVerdict : Verifier.Verdict :=
  { status := .verified, mergedOutput := some "o", confidence := 1, details := .empty }

theorem interleaved_evaluations_solo :
    Locked.evaluateStart demoConfig "j" [] soloTables =
        ((Locked.evaluateStart demoConfig "j" [] soloTables).1, .ok (.verify soloJob.results 1)) ∧
      (Locked.evaluateStart demoConfig "j" [] (Locked.evaluateStart demoConfig "j" [] soloTables).1).2 =
          .ok (.verify soloJob.results 1) ∧
        ∃ job, Dict.get (Locked.evaluateStart demoConfig "j" [] soloTables).1.jobs "j" = some job ∧
          job.status = .verifying ∧
          Dict.get (Locked.evaluateFinish "j" soloVerdict 0 (Locked.evaluateFinish "j" soloVerdict 0
              (Locked.evaluateStart demoConfig "j" []
                (Locked.evaluateStart demoConfig "j" [] soloTables).1).1).1).1.jobs "j" =
            some (Locked.finalizeJob (Locked.finalizeJob job soloVerdict 0) soloVerdict 0) :=
  have h : Locked.evaluateStart demoConfig "j" [] soloTables =
      ((Locked.evaluateStart demoConfig "j" [] soloTables).1, .ok (.verify soloJob.results 1)) := rfl
  ⟨h, interleaved_evaluations_finalise_twice demoConfig h soloVerdict soloVerdict 0 0⟩

end Evaluations

/-! ## Double finalisation -/

section Race

/-- Two nodes come up, a two-replica job is submitted, and each node claims one
replica. -/
def raceStartRun : List Step :=
  demoNodeUp "a" ++ demoNodeUp "b" ++
    [.op (.submitJob pairRequest "x"),
     .op (.claimNextJob "a" (demoNonce 1)),
     .op (.claimNextJob "b" (demoNonce 2))]

/-- The state at the end of `raceStartRun`. -/
def raceStart : World :=
  Step.run demoConfig raceStartRun demoWorld

/-- The two nodes' submissions of the same output. -/
def raceSubmissions : List Op :=
  [.submitJobResult "a" "job-x" "alpha" none (some (demoKey "job-x" "a" 1)),
   .submitJobResult "b" "job-x" "alpha" none (some (demoKey "job-x" "b" 2))]

/-- Both submissions record their replica (two sections each), then both run
up to the end of phase one (five more each), then each runs to its end. -/
def raceSchedule : List Move :=
  raceSubmissions.map (fun o => .spawn (o.prog demoConfig)) ++
    List.replicate 2 (.step 0) ++ List.replicate 2 (.step 1) ++
    List.replicate 5 (.step 0) ++ List.replicate 5 (.step 1) ++
    List.replicate 30 (.step 0) ++ List.replicate 30 (.step 1)

/-- The world and the threads at the end of `raceSchedule`. -/
def raceEnd : World × List Thread :=
  Sched demoConfig raceSchedule (raceStart, [])

set_option maxRecDepth 20000 in
/-- At the end of `raceSchedule` both threads have finished, the job is
completed with two "Verification verified" entries, and both nodes' trust rose
by `0.015` twice; run one after the other, the same submissions raise it once. -/
theorem finalised_twice_in_race :
    Reachable demoConfig raceStart ∧
      raceEnd.2.all (fun p => (p.next demoConfig raceEnd.1).isNone) ∧
      (Dict.get raceEnd.1.tables.jobs "job-x").map (fun job =>
        (job.status, (job.logs.filter fun l => l.message = "Verification verified").length)) =
        some (.completed, 2) ∧
      ["a", "b"].map (fun n => (Dict.get raceEnd.1.nodes n).map Node.trustScore) =
        [some 0.93, some 0.93] ∧
      ["a", "b"].map (fun n => (Dict.get (Step.run demoConfig (raceSubmissions.map .op)
        raceStart).nodes n).map Node.trustScore) = [some 0.915, some 0.915] :=
  ⟨Reachable.run (.init _) (by with_unfolding_all decide), by with_unfolding_all decide,
    by with_unfolding_all decide, by with_unfolding_all decide, by with_unfolding_all decide⟩

end Race

/-! ## A completed job set pending again -/

section Reset

/-- One node comes up. -/
def resetStart : World :=
  Step.run demoConfig (demoNodeUp "a") demoWorld

/-- `submit_job` of a one-replica job runs up to its log entry (six sections);
then the node claims the job, posts its result and the job is finalised, each
operation to its end. -/
def resetSchedule : List Move :=
  [.spawn ((Op.submitJob singleRequest "x").prog demoConfig)] ++ List.replicate 6 (.step 0) ++
    [.spawn ((Op.claimNextJob "a" (demoNonce 1)).prog demoConfig)] ++ List.replicate 10 (.step 1) ++
    [.spawn ((Op.submitJobResult "a" "job-x" "alpha" none (some (demoKey "job-x" "a" 1))).prog
      demoConfig)] ++ List.replicate 30 (.step 2)

/-- The world and the threads at the end of `resetSchedule`. -/
def resetMid : World × List Thread :=
  Sched demoConfig resetSchedule (resetStart, [])

/-- The world and the threads once `submit_job` has run its last sections. -/
def resetEnd : World × List Thread :=
  Sched demoConfig (List.replicate 5 (.step 0)) resetMid

set_option maxRecDepth 20000 in
/-- The job is completed and verified at the end of `resetSchedule`; the last
sections of `submit_job` then set it pending with progress 5, its verdict
still in place. -/
theorem completed_job_reset_to_pending :
    Reachable demoConfig resetStart ∧
      (Dict.get resetMid.1.tables.jobs "job-x").map (fun job =>
        (job.status, job.verificationStatus, job.mergedOutput)) =
        some (.completed, .verified, some "alpha") ∧
      (Dict.get resetEnd.1.tables.jobs "job-x").map (fun job =>
        (job.status, job.verificationStatus, job.mergedOutput, job.progress)) =
        some (.pending, .verified, some "alpha", 5) ∧
      resetEnd.2.all (fun p => (p.next demoConfig resetEnd.1).isNone) :=
  ⟨Reachable.run (.init _) (by with_unfolding_all decide), by with_unfolding_all decide,
    by with_unfolding_all decide, by with_unfolding_all decide⟩

end Reset

/-! ## A lost log entry -/

section LostLog

/-- `submit_job` of a one-replica job runs up to the read of `append_job_log`
(five sections); then the node claims the job, to its end. -/
def lostLogSchedule : List Move :=
  [.spawn ((Op.submitJob singleRequest "x").prog demoConfig)] ++ List.replicate 5 (.step 0) ++
    [.spawn ((Op.claimNextJob "a" (demoNonce 1)).prog demoConfig)] ++ List.replicate 10 (.step 1)

/-- The world and the threads at the end of `lostLogSchedule`. -/
def lostLogMid : World × List Thread :=
  Sched demoConfig lostLogSchedule (resetStart, [])

/-- The world and the threads once `submit_job` has run its last sections. -/
def lostLogEnd : World × List Thread :=
  Sched demoConfig (List.replicate 5 (.step 0)) lostLogMid

set_option maxRecDepth 20000 in
/-- The claim's entry is in the job's logs at the end of `lostLogSchedule`;
`append_job_log` then writes back the logs it read before the claim, with its
own entry, and the claim's entry is gone. -/
theorem claim_log_entry_lost :
    Reachable demoConfig resetStart ∧
      (Dict.get lostLogMid.1.tables.jobs "job-x").map (fun job => job.logs.map LogEntry.message) =
        some ["Replica claimed by a"] ∧
      (Dict.get lostLogEnd.1.tables.jobs "job-x").map (fun job => job.logs.map LogEntry.message) =
        some ["Job accepted and queued. Planned nodes: a"] ∧
      lostLogEnd.2.all (fun p => (p.next demoConfig lostLogEnd.1).isNone) :=
  ⟨Reachable.run (.init _) (by with_unfolding_all decide), by with_unfolding_all decide,
    by with_unfolding_all decide, by with_unfolding_all decide⟩

end LostLog

end Store
end Hyperlooms
