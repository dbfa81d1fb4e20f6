import Hyperlooms.Store.Jobs

/-!
# The lease invariant of the job tables

The job/lease state machine of `InMemoryStateStore` gives every job a set of
leases: the nodes in `inflight_node_ids`, each with a start time, a key digest
and a key expiry under the key `(job_id, node_id)`.  `Core` is what every
section keeps: for each job the facts of `JobInv`, and the three lease tables
keyed by exactly the jobs' leases (`Leases`).  `AtRest` adds what holds only
between operations: no job is verifying, and a live job is running exactly when
it holds a lease.  An operation in progress may leave the jobs it touched and
has not evaluated yet out of rest; `Rest D` says every job outside `D` is at
rest.

Each job section gets one lemma saying what it does to `Inv D = Core ∧ Rest D`:
the claim, the expiry sweep and a log write keep it, a submission and a release
add the jobs they touch to `D`, and the phases of `_evaluate_job` take the job
out again.  Two sections keep `Core` only under a condition their callers meet
in a sequential run: `put_job` needs a fresh id, and `touch_job` setting a job
back to pending needs a job that was never verified.
-/

namespace Hyperlooms
namespace Store

open JobTables

/-! ## The invariant -/

section Invariant

/-- The majority the verdict of a completed job names: distinct nodes of
successful results, more than half of `min(T, |successful|)` for the target `T`
the verifier was given, between `1` and the job's replicas. -/
structure MajorityVerdict (job : Job) : Prop where
  nodup : job.verificationDetails.majorityNodes.Nodup
  subset : job.verificationDetails.majorityNodes ⊆ (successful job).map NodeExecutionResult.nodeId
  majority : ∃ T, 1 ≤ T ∧ T ≤ job.config.replicas ∧
    min T (successful job).length < 2 * job.verificationDetails.majorityNodes.length

/-- What every section keeps of one job. -/
structure JobInv (job : Job) : Prop where
  nodup_inflight : job.inflightNodeIds.Nodup
  nodup_results : (job.results.map NodeExecutionResult.nodeId).Nodup
  not_successful : ∀ n ∈ job.inflightNodeIds, ∀ r ∈ successful job, r.nodeId ≠ n
  load_le : (successful job).length + job.inflightNodeIds.length ≤ job.config.replicas
  inflight_of_settled : job.status = .completed ∨ job.status = .failed →
    job.inflightNodeIds = []
  verdict_of_completed : job.status = .completed →
    (job.verificationStatus = .verified ∨ job.verificationStatus = .mismatch) ∧
      ∃ o, job.mergedOutput = some o ∧ o ≠ ""
  completed_of_verified : job.verificationStatus = .verified → job.status = .completed
  failed_of_failed : job.status = .failed → job.verificationStatus = .failed
  majority_of_completed : job.status = .completed → MajorityVerdict job

/-- A job no operation is in the middle of. -/
structure AtRest (job : Job) : Prop where
  not_verifying : job.status ≠ .verifying
  running_iff : job.status = .pending ∨ job.status = .running →
    (job.status = .running ↔ job.inflightNodeIds ≠ [])

/-- A lease table is keyed by exactly the jobs' leases. -/
def Leases {ν : Type} (jobs : List (String × Job)) (table : List ((String × String) × ν)) :
    Prop :=
  ∀ j n, (j, n) ∈ Dict.keys table ↔ ∃ job, Dict.get jobs j = some job ∧ n ∈ job.inflightNodeIds

/-- What every section keeps of the job tables. -/
structure Core (t : JobTables) : Prop where
  nodup_keys : (Dict.keys t.jobs).Nodup
  id_eq : ∀ j job, Dict.get t.jobs j = some job → job.id = j
  job : ∀ j job, Dict.get t.jobs j = some job → JobInv job
  startedAt : Leases t.jobs t.assignmentStartedAt
  digests : Leases t.jobs t.assignmentHashDigests
  expiresAt : Leases t.jobs t.assignmentHashExpiresAt

/-- Every job outside `D` is at rest. -/
def Rest (D : List String) (jobs : List (String × Job)) : Prop :=
  ∀ j job, Dict.get jobs j = some job → j ∉ D → AtRest job

/-- The lease invariant, with the jobs `D` excused from being at rest. -/
def Inv (D : List String) (t : JobTables) : Prop :=
  Core t ∧ Rest D t.jobs

end Invariant

/-! ## One job -/

section OneJob

variable {job job' : Job}

theorem successful_congr (h : job'.results = job.results) : successful job' = successful job := by
  rw [successful, successful, h]

theorem AtRest.of_settled (h : job.status = .completed ∨ job.status = .failed) : AtRest job :=
  ⟨by rcases h with h | h <;> simp [h], by rcases h with h | h <;> simp [h]⟩

theorem AtRest.of_same (h : AtRest job) (hst : job'.status = job.status)
    (hinf : job'.inflightNodeIds = job.inflightNodeIds) : AtRest job' :=
  ⟨hst ▸ h.not_verifying, hst ▸ hinf ▸ h.running_iff⟩

/-- A live job that keeps its results, configuration and verdict and gives up
some leases keeps the invariant, whatever live status it gets. -/
theorem JobInv.of_live (h : JobInv job) (hlive : job.status ≠ .completed ∧ job.status ≠ .failed)
    (hlive' : job'.status ≠ .completed ∧ job'.status ≠ .failed)
    (hres : job'.results = job.results) (hcfg : job'.config = job.config)
    (hver : job'.verificationStatus = job.verificationStatus)
    (hsub : job'.inflightNodeIds.Sublist job.inflightNodeIds) : JobInv job' where
  nodup_inflight := h.nodup_inflight.sublist hsub
  nodup_results := hres ▸ h.nodup_results
  not_successful n hn r hr := h.not_successful n (hsub.subset hn) r (successful_congr hres ▸ hr)
  load_le := by
    rw [successful_congr hres, hcfg]
    exact le_trans (Nat.add_le_add_left hsub.length_le _) h.load_le
  inflight_of_settled h' := (h'.elim hlive'.1 hlive'.2).elim
  verdict_of_completed h' := (hlive'.1 h').elim
  completed_of_verified h' := (hlive.1 (h.completed_of_verified (hver ▸ h'))).elim
  failed_of_failed h' := (hlive'.2 h').elim
  majority_of_completed h' := (hlive'.1 h').elim

/-- A job that only had its progress or logs written keeps the invariant. -/
theorem JobInv.of_same (h : JobInv job) (hres : job'.results = job.results)
    (hcfg : job'.config = job.config) (hinf : job'.inflightNodeIds = job.inflightNodeIds)
    (hst : job'.status = job.status) (hver : job'.verificationStatus = job.verificationStatus)
    (hout : job'.mergedOutput = job.mergedOutput)
    (hdet : job'.verificationDetails = job.verificationDetails) : JobInv job' where
  nodup_inflight := hinf ▸ h.nodup_inflight
  nodup_results := hres ▸ h.nodup_results
  not_successful := hinf ▸ successful_congr hres ▸ h.not_successful
  load_le := hinf ▸ hcfg ▸ successful_congr hres ▸ h.load_le
  inflight_of_settled := hinf ▸ hst ▸ h.inflight_of_settled
  verdict_of_completed := hst ▸ hver ▸ hout ▸ h.verdict_of_completed
  completed_of_verified := hst ▸ hver ▸ h.completed_of_verified
  failed_of_failed := hst ▸ hver ▸ h.failed_of_failed
  majority_of_completed h' := by
    obtain ⟨h1, h2, h3⟩ := h.majority_of_completed (hst ▸ h')
    rw [← hdet, ← successful_congr hres, ← hcfg] at *
    exact ⟨h1, h2, h3⟩

/-- A job holding a lease is live. -/
theorem JobInv.live_of_mem (h : JobInv job) {n : String} (hn : n ∈ job.inflightNodeIds) :
    job.status ≠ .completed ∧ job.status ≠ .failed := by
  refine ⟨fun e => ?_, fun e => ?_⟩ <;>
    simp [h.inflight_of_settled (by simp [e])] at hn

theorem length_filter_ne_add_one {l : List String} {n : String} (h : l.Nodup) (hn : n ∈ l) :
    (l.filter (· ≠ n)).length + 1 = l.length := by
  have e : l.filter (· ≠ n) = l.filter (· != n) := List.filter_congr fun x _ => by simp [bne, beq_eq_decide]
  rw [e, ← h.erase_eq_filter, List.length_erase_of_mem hn]
  have := List.length_pos_of_mem hn
  omega

/-- Recording a replica of a leased node keeps the invariant: the node's lease
becomes its result. -/
theorem JobInv.recordReplica (h : JobInv job) (hlive : job.status ≠ .completed)
    {nodeId : String} (hn : nodeId ∈ job.inflightNodeIds) {result : NodeExecutionResult}
    (hr : result.nodeId = nodeId) (error : Option String) (now : ℕ) :
    JobInv (Locked.recordReplica job nodeId result error now) where
  nodup_inflight := h.nodup_inflight.filter _
  nodup_results := by
    simp only [Locked.recordReplica, List.map_append, List.map_cons, List.map_nil]
    refine List.nodup_append.2 ⟨(h.nodup_results.sublist ((List.filter_sublist _).map _)),
      List.nodup_singleton _, ?_⟩
    simp [hr]
  not_successful m hm r hr' := by
    simp only [Locked.recordReplica, successful, List.filter_append, List.mem_append,
      List.mem_filter, decide_eq_true_eq] at hm hr'
    rcases hr' with ⟨⟨hr', hne⟩, hs⟩ | ⟨hr', -⟩
    · exact h.not_successful m hm.1 r (List.mem_filter.2 ⟨hr', hs⟩)
    · simp only [List.mem_cons, List.not_mem_nil, or_false] at hr'
      exact hr' ▸ hr ▸ Ne.symm hm.2
  load_le := by
    have hs : (successful (Locked.recordReplica job nodeId result error now)).length ≤
        (successful job).length + 1 := by
      simp only [successful, Locked.recordReplica, List.filter_append, List.length_append]
      exact Nat.add_le_add (((List.filter_sublist _).filter _).length_le)
        (List.length_filter_le _ _)
    have hi := length_filter_ne_add_one h.nodup_inflight hn
    have := h.load_le
    simp only [Locked.recordReplica] at hs hi ⊢
    omega
  inflight_of_settled h' := by simp [Locked.recordReplica] at h'
  verdict_of_completed h' := by simp [Locked.recordReplica] at h'
  completed_of_verified h' := (hlive (h.completed_of_verified h')).elim
  failed_of_failed h' := by simp [Locked.recordReplica] at h'
  majority_of_completed h' := by simp [Locked.recordReplica] at h'

theorem keep_successful (job : Job) : Verifier.keep (successful job) = successful job := by
  simp [Verifier.keep, successful]

/-- The job `_evaluate_job` finalises keeps the invariant, for the verdict of the
verifier on its successful results and a target between one and its replicas. -/
theorem JobInv.finalizeJob (h : JobInv job) (g : Verifier.Geometry) (threshold : ℚ)
    {succ : List NodeExecutionResult} {target : ℕ} (hsucc : succ = successful job)
    (ht : 1 ≤ target ∧ target ≤ job.config.replicas) (now : ℕ) :
    JobInv (Locked.finalizeJob job (Verifier.verify g threshold succ target) now) := by
  have hv := @Verifier.verify_status g threshold succ target
  have hout := @Verifier.verify_mergedOutput g threshold succ target
  have hload := h.load_le
  by_cases hf : (Verifier.verify g threshold succ target).status = .failed
  · exact ⟨List.nodup_nil, h.nodup_results, by simp [Locked.finalizeJob],
      by simpa [Locked.finalizeJob, successful] using le_of_add_le_left hload,
      by simp [Locked.finalizeJob], by simp [Locked.finalizeJob, hf],
      by simp [Locked.finalizeJob, hf], by simp [Locked.finalizeJob, hf],
      by simp [Locked.finalizeJob, hf]⟩
  · subst hsucc
    obtain ⟨hnd, hsub, hlt⟩ := Verifier.verify_majorityNodes g threshold target
      (by rw [keep_successful]; exact h.nodup_results.sublist ((List.filter_sublist _).map _)) hf
    rw [keep_successful] at hsub hlt
    exact ⟨List.nodup_nil, h.nodup_results, by simp [Locked.finalizeJob],
      by simpa [Locked.finalizeJob, successful] using le_of_add_le_left hload,
      by simp [Locked.finalizeJob], fun _ => ⟨by simpa [Locked.finalizeJob, hf] using hv,
        by simpa [Locked.finalizeJob] using hout hf⟩,
      by simp [Locked.finalizeJob, hf], by simp [Locked.finalizeJob, hf],
      fun _ => ⟨hnd, hsub, target, ht.1, ht.2, hlt⟩⟩

end OneJob

/-! ## Lease tables -/

section Tables

variable {ν : Type} {jobs : List (String × Job)} {table : List ((String × String) × ν)}

/-- `table'` lists the leases `inflight` for the job `j` and agrees with `table`
on every other job. -/
def Relisted (j : String) (inflight : List String) (table table' : List ((String × String) × ν)) :
    Prop :=
  ∀ j' n, (j', n) ∈ Dict.keys table' ↔ if j' = j then n ∈ inflight else (j', n) ∈ Dict.keys table

theorem Leases.setJob {table' : List ((String × String) × ν)} {j : String} {job : Job}
    (h : Leases jobs table) (h' : Relisted j job.inflightNodeIds table table') :
    Leases (Dict.set jobs j job) table' := by
  intro j' n
  rw [h', Dict.get_set]
  by_cases hj : j' = j
  · simp [hj]
  · simp [hj, h j' n]

/-- The table unchanged, for a job whose leases stay the same. -/
theorem Relisted.same {j : String} {inflight : List String} (h : Leases jobs table)
    (hm : ∀ m, m ∈ inflight ↔ ∃ old, Dict.get jobs j = some old ∧ m ∈ old.inflightNodeIds) :
    Relisted j inflight table table := by
  intro j' m
  by_cases hj : j' = j
  · subst hj; simp [hm, h j' m]
  · simp [hj]

/-- A new lease of `n` on `j`. -/
theorem Relisted.set {j n : String} {old : Job} {inflight : List String} {v : ν}
    (h : Leases jobs table) (hold : Dict.get jobs j = some old)
    (hm : ∀ m, m ∈ inflight ↔ m = n ∨ m ∈ old.inflightNodeIds) :
    Relisted j inflight table (Dict.set table (j, n) v) := by
  intro j' m
  rw [Dict.mem_keys_set]
  by_cases hj : j' = j
  · subst hj; simp [hm, h j' m, hold]
  · simp [hj]

/-- The lease of `n` on `j` ended. -/
theorem Relisted.pop {j n : String} {old : Job} {inflight : List String}
    (h : Leases jobs table) (hold : Dict.get jobs j = some old)
    (hm : ∀ m, m ∈ inflight ↔ m ≠ n ∧ m ∈ old.inflightNodeIds) :
    Relisted j inflight table (Dict.pop table (j, n)) := by
  intro j' m
  rw [Dict.mem_keys_pop]
  by_cases hj : j' = j
  · subst hj; simp [hm, h j' m, hold]
  · simp [hj]

theorem mem_keys_filter_not_mem {ks : List (String × String)} {k : String × String} :
    k ∈ Dict.keys (table.filter (·.1 ∉ ks)) ↔ k ∈ Dict.keys table ∧ k ∉ ks := by
  simp only [Dict.keys, List.mem_map, List.mem_filter, decide_eq_true_eq]
  constructor
  · rintro ⟨p, ⟨hp, hk⟩, rfl⟩
    exact ⟨⟨p, hp, rfl⟩, hk⟩
  · rintro ⟨⟨p, hp, rfl⟩, hk⟩
    exact ⟨p, ⟨hp, hk⟩, rfl⟩

/-- Every lease of `j` dropped, as phase two of `_evaluate_job` does. -/
theorem Relisted.drop {j : String} {started : List ((String × String) × ℕ)}
    (h : Leases jobs table) (hs : Leases jobs started) :
    Relisted j [] table (table.filter (·.1 ∉ (Dict.keys started).filter (·.1 = j))) := by
  intro j' n
  rw [mem_keys_filter_not_mem]
  by_cases hj : j' = j
  · subst hj
    simp only [if_true, List.not_mem_nil, iff_false, not_and, List.mem_filter,
      decide_eq_true_eq, and_true, not_not]
    exact fun hk => (hs j' n).2 ((h j' n).1 hk)
  · simp [hj]

/-- The leases of the nodes `nodeIds` dropped and the jobs rewritten by `F`,
which takes exactly those nodes off each job, as `_release_inflight` does. -/
theorem Leases.release {jobs' : List (String × Job)} {started : List ((String × String) × ℕ)}
    {nodeIds : List String} {F : Job → Job} (h : Leases jobs table) (hs : Leases jobs started)
    (hjobs : ∀ j, Dict.get jobs' j = (Dict.get jobs j).map F)
    (hF : ∀ job n, n ∈ (F job).inflightNodeIds ↔ n ∈ job.inflightNodeIds ∧ n ∉ nodeIds) :
    Leases jobs' (table.filter (·.1 ∉ (Dict.keys started).filter (·.2 ∈ nodeIds))) := by
  intro j n
  have hkeys : (j, n) ∈ Dict.keys table ∧ n ∉ nodeIds ↔
      ∃ job, Dict.get jobs' j = some job ∧ n ∈ job.inflightNodeIds := by
    simp only [hjobs, Option.map_eq_some', h j n]
    constructor
    · rintro ⟨⟨job, hj, hn⟩, hn'⟩
      exact ⟨F job, ⟨job, hj, rfl⟩, (hF job n).2 ⟨hn, hn'⟩⟩
    · rintro ⟨_, ⟨job, hj, rfl⟩, hn⟩
      exact ⟨⟨job, hj, ((hF job n).1 hn).1⟩, ((hF job n).1 hn).2⟩
  rw [mem_keys_filter_not_mem, ← hkeys, List.mem_filter, decide_eq_true_eq]
  exact and_congr_right fun hk => by simp [(hs j n).2 ((h j n).1 hk)]

end Tables

/-- Ending a list of leases drops them from the three lease tables. -/
theorem foldl_endLease (ks : List (String × String)) (t : JobTables) :
    ks.foldl endLease t =
      { t with
        assignmentStartedAt := t.assignmentStartedAt.filter (·.1 ∉ ks)
        assignmentHashDigests := t.assignmentHashDigests.filter (·.1 ∉ ks)
        assignmentHashExpiresAt := t.assignmentHashExpiresAt.filter (·.1 ∉ ks) } := by
  induction ks generalizing t with
  | nil => simp
  | cons k ks ih =>
      rw [List.foldl_cons, ih]
      simp only [endLease, Dict.pop, List.filter_filter, List.mem_cons, not_or]
      congr 2 <;> funext p <;> simp [Bool.and_comm]

/-! ## Setting one job -/

section SetJob

variable {t t' : JobTables} {D D' : List String}

theorem Rest.mono {jobs : List (String × Job)} (h : Rest D jobs) (hD : ∀ x ∈ D, x ∈ D') :
    Rest D' jobs :=
  fun j job hj hjD => h j job hj fun hx => hjD (hD j hx)

theorem Rest.set {jobs : List (String × Job)} {j : String} {job : Job} (h : Rest D jobs)
    (hj : j ∉ D' → AtRest job) (hD : ∀ x ≠ j, x ∈ D → x ∈ D') :
    Rest D' (Dict.set jobs j job) := by
  intro j' job' h' hj'
  rw [Dict.get_set] at h'
  split_ifs at h' with e
  · cases h'
    exact hj (e ▸ hj')
  · exact h j' job' h' fun hx => hj' (hD j' e hx)

theorem Inv.mono (h : Inv D t) (hD : ∀ x ∈ D, x ∈ D') : Inv D' t :=
  ⟨h.1, h.2.mono hD⟩

/-- A job at rest leaves the excused list. -/
theorem Rest.erase {jobs : List (String × Job)} {j : String} (h : Rest D jobs)
    (hj : ∀ job, Dict.get jobs j = some job → AtRest job) : Rest (D.filter (· ≠ j)) jobs := by
  intro j' job' h' hj'
  by_cases e : j' = j
  · exact hj job' (e ▸ h')
  · exact h j' job' h' fun hx => hj' (List.mem_filter.2 ⟨hx, by simpa using e⟩)

/-- Writing one job and relisting its leases keeps `Core`. -/
theorem Core.setJob (h : Core t) {j : String} {job : Job} (hid : job.id = j) (hinv : JobInv job)
    (hjobs : t'.jobs = Dict.set t.jobs j job)
    (hs : Relisted j job.inflightNodeIds t.assignmentStartedAt t'.assignmentStartedAt)
    (hd : Relisted j job.inflightNodeIds t.assignmentHashDigests t'.assignmentHashDigests)
    (he : Relisted j job.inflightNodeIds t.assignmentHashExpiresAt t'.assignmentHashExpiresAt) :
    Core t' := by
  refine ⟨?_, ?_, ?_, ?_, ?_, ?_⟩ <;> rw [hjobs]
  · exact Dict.nodup_keys_set h.nodup_keys j job
  · intro j' job' h'
    rw [Dict.get_set] at h'
    split_ifs at h' with e
    · cases h'; exact hid.trans e.symm
    · exact h.id_eq j' job' h'
  · intro j' job' h'
    rw [Dict.get_set] at h'
    split_ifs at h' with e
    · cases h'; exact hinv
    · exact h.job j' job' h'
  · exact h.startedAt.setJob hs
  · exact h.digests.setJob hd
  · exact h.expiresAt.setJob he

theorem Core.get_id (h : Core t) {j : String} {job : Job} (hj : Dict.get t.jobs j = some job) :
    Dict.get t.jobs job.id = some job := by
  rw [h.id_eq j job hj]; exact hj

/-- A job the claim visits is a job of the table, under its own id. -/
theorem Core.get_of_mem_claimOrder (h : Core t) {job : Job} (hm : job ∈ Locked.claimOrder t) :
    Dict.get t.jobs job.id = some job := by
  obtain ⟨p, hp, rfl⟩ := List.mem_map.1 ((List.perm_insertionSort _ _).subset hm)
  exact h.get_id (Dict.get_of_mem h.nodup_keys hp)

end SetJob

/-! ## Queued jobs -/

section Queued

variable {job : Job}

/-- A job as `put_job_from_request` stores it: pending, never verified, with no
lease and no result. -/
structure Queued (job : Job) : Prop where
  status_eq : job.status = .pending
  verification_eq : job.verificationStatus = .pending
  inflight_eq : job.inflightNodeIds = []
  results_eq : job.results = []

theorem Queued.jobInv (h : Queued job) : JobInv job where
  nodup_inflight := by simp [h.inflight_eq]
  nodup_results := by simp [h.results_eq]
  not_successful := by simp [h.inflight_eq]
  load_le := by simp [h.inflight_eq, h.results_eq, successful]
  inflight_of_settled := by simp [h.status_eq]
  verdict_of_completed := by simp [h.status_eq]
  completed_of_verified := by simp [h.verification_eq]
  failed_of_failed := by simp [h.status_eq]
  majority_of_completed := by simp [h.status_eq]

theorem Queued.atRest (h : Queued job) : AtRest job :=
  ⟨by simp [h.status_eq], by simp [h.status_eq, h.inflight_eq]⟩

end Queued

/-! ## The sections -/

section Sections

variable (cfg : StoreConfig) {t : JobTables} {D : List String}

/-- `put_job` of a queued job under a new id keeps the invariant. -/
theorem inv_putJob (h : Inv D t) {job : Job} (hfresh : job.id ∉ Dict.keys t.jobs)
    (hq : Queued job) : Inv D (Locked.putJob job t) := by
  have hm : ∀ m, m ∈ job.inflightNodeIds ↔
      ∃ old, Dict.get t.jobs job.id = some old ∧ m ∈ old.inflightNodeIds := by
    simp [hq.inflight_eq, (Dict.get_eq_none_iff _ _).2 hfresh]
  exact ⟨h.1.setJob rfl hq.jobInv rfl (.same h.1.startedAt hm) (.same h.1.digests hm)
    (.same h.1.expiresAt hm), h.2.set (fun _ => hq.atRest) fun _ _ => id⟩

/-- `touch_job` keeps the invariant when it writes only progress and logs, or
sets a queued job pending. -/
theorem inv_touchJob (h : Inv D t) {jobId : String} {u : JobUpdate} (now : ℕ)
    (hu : u.status = none ∨
      u.status = some .pending ∧ ∀ job, Dict.get t.jobs jobId = some job → Queued job) :
    Inv D (Locked.touchJob jobId u now t).1 := by
  unfold Locked.touchJob
  split
  · exact h
  · rename_i existing hget
    have hm := fun m => (by simp [hget] : m ∈ existing.inflightNodeIds ↔
      ∃ old, Dict.get t.jobs jobId = some old ∧ m ∈ old.inflightNodeIds)
    rcases hu with hu | ⟨hu, hq⟩
    · exact ⟨h.1.setJob (by exact h.1.id_eq _ existing hget)
        (by exact (h.1.job _ _ hget).of_same rfl rfl rfl (by simp [hu]) rfl rfl rfl) rfl
        (.same h.1.startedAt hm) (.same h.1.digests hm) (.same h.1.expiresAt hm),
        h.2.set (fun hj => (h.2 _ _ hget hj).of_same (by simp [hu]) rfl) fun _ _ => id⟩
    · have hq' : Queued { existing with
          status := u.status.getD existing.status
          progress := u.progress.getD existing.progress
          logs := u.logs.getD existing.logs
          updatedAt := now } :=
        ⟨by simp [hu], (hq _ hget).2, (hq _ hget).3, (hq _ hget).4⟩
      exact ⟨h.1.setJob (by exact h.1.id_eq _ existing hget) hq'.jobInv rfl
        (.same h.1.startedAt hm) (.same h.1.digests hm) (.same h.1.expiresAt hm),
        h.2.set (fun _ => hq'.atRest) fun _ _ => id⟩

/-- What `claim_next_job`'s acceptance test says of the job. -/
theorem claimAccepts_spec {nodeId : String} {nodes : List Node} {job : Job}
    (hacc : Locked.claimAccepts cfg nodeId nodes job = true) :
    (job.status ≠ .completed ∧ job.status ≠ .failed) ∧ job.status ≠ .verifying ∧
      (successful job).length + (fromKeys job.inflightNodeIds).length <
        targetReplicas cfg job nodes ∧
      nodeId ∉ job.inflightNodeIds ∧ ∀ r ∈ successful job, r.nodeId ≠ nodeId := by
  simp only [Locked.claimAccepts, Locked.claimNeeded, Bool.and_eq_true, Bool.not_eq_true',
    decide_eq_true_eq, decide_eq_false_iff_not, not_or, mem_fromKeys, List.any_eq_false] at hacc
  obtain ⟨⟨⟨⟨⟨⟨hc, hf, hv⟩, hneed⟩, hn⟩, hsucc⟩, -⟩, -⟩ := hacc
  refine ⟨⟨hc, hf⟩, hv, by omega, hn, fun r hr e => hsucc r hr ⟨e, ?_⟩⟩
  simp only [successful, List.mem_filter, NodeExecutionResult.isSuccessful,
    Bool.and_eq_true] at hr
  exact hr.2.1

/-- The lease a claim grants stays within the target the claim computed. -/
theorem claimedJob_load_le {nodeId : String} {nodes : List Node} {job : Job} (now : ℕ)
    (hacc : Locked.claimAccepts cfg nodeId nodes job = true) :
    (successful (Locked.claimedJob cfg nodeId nodes now job)).length +
      (Locked.claimedJob cfg nodeId nodes now job).inflightNodeIds.length ≤
        targetReplicas cfg job nodes := by
  obtain ⟨-, -, hlt, hn, -⟩ := claimAccepts_spec cfg hacc
  have hs : successful (Locked.claimedJob cfg nodeId nodes now job) = successful job := rfl
  rw [hs, Locked.claimedJob_inflightNodeIds, fromKeys_append_singleton hn, List.length_append]
  simpa using hlt

theorem JobInv.claimedJob {nodeId : String} {nodes : List Node} {job : Job} (now : ℕ)
    (h : JobInv job) (hacc : Locked.claimAccepts cfg nodeId nodes job = true) :
    JobInv (Locked.claimedJob cfg nodeId nodes now job) where
  nodup_inflight := by simpa using nodup_fromKeys _
  nodup_results := h.nodup_results
  not_successful m hm r hr := by
    simp only [Locked.claimedJob_inflightNodeIds, mem_fromKeys, List.mem_append,
      List.mem_singleton] at hm
    rcases hm with hm | rfl
    · exact h.not_successful m hm r hr
    · exact (claimAccepts_spec cfg hacc).2.2.2.2 r hr
  load_le := by
    have := claimedJob_load_le cfg now hacc
    have := targetReplicas_le cfg job nodes
    simp only [Locked.claimedJob_config] at *
    omega
  inflight_of_settled := by simp
  verdict_of_completed := by simp
  completed_of_verified := by simp
  failed_of_failed := by simp
  majority_of_completed := by simp

/-- What a granted claim is: an accepted job of the table, leased to the node
under a freshly issued key. -/
theorem claimNextJob_eq_some {nodeId : String} {nodes : List Node} {now : ℕ}
    {nonce : AssignmentKey.Nonce} {t' : JobTables} {claimed : Job} {key : String} {exp : ℕ}
    (h : Locked.claimNextJob cfg nodeId nodes now nonce t = (t', some (claimed, key, exp))) :
    ∃ job, job ∈ Locked.claimOrder t ∧ Locked.claimAccepts cfg nodeId nodes job = true ∧
      claimed = Locked.claimedJob cfg nodeId nodes now job ∧
      (key, exp) = AssignmentKey.issueAssignmentHashKey cfg.primitives cfg.assignmentHashSecret
        cfg.ttlSec job.id nodeId now nonce ∧
      t' = (Locked.claimJob cfg nodeId nodes now nonce job t).1 := by
  unfold Locked.claimNextJob at h
  split at h
  · cases h
  · rename_i job hfind
    simp only [Prod.mk.injEq, Option.some.injEq] at h
    obtain ⟨rfl, h⟩ := h
    exact ⟨job, List.mem_of_find?_eq_some hfind, List.find?_some hfind,
      (congrArg Prod.fst h).symm, (congrArg Prod.snd h).symm, rfl⟩

/-- The claim keeps the invariant: the job it leases is running with one more
lease, listed in all three tables. -/
theorem inv_claimNextJob (h : Inv D t) (nodeId : String) (nodes : List Node) (now : ℕ)
    (nonce : AssignmentKey.Nonce) : Inv D (Locked.claimNextJob cfg nodeId nodes now nonce t).1 := by
  unfold Locked.claimNextJob
  split
  · exact h
  · rename_i job hfind
    have hacc := List.find?_some hfind
    have hget := h.1.get_of_mem_claimOrder (List.mem_of_find?_eq_some hfind)
    have hm : ∀ m, m ∈ (Locked.claimedJob cfg nodeId nodes now job).inflightNodeIds ↔
        m = nodeId ∨ m ∈ job.inflightNodeIds := by simp [or_comm]
    refine ⟨h.1.setJob (Locked.claimedJob_id cfg nodeId nodes now job)
      ((h.1.job _ _ hget).claimedJob cfg now hacc) (Locked.jobs_claimJob ..)
      (by simpa using Relisted.set h.1.startedAt hget hm)
      (by simpa using Relisted.set h.1.digests hget hm)
      (by simpa using Relisted.set h.1.expiresAt hget hm), ?_⟩
    rw [Locked.jobs_claimJob]
    refine h.2.set (fun _ => ⟨by simp, fun _ => ?_⟩) fun _ _ => id
    simp only [Locked.claimedJob_status, Locked.claimedJob_inflightNodeIds, true_iff]
    exact List.ne_nil_of_mem (mem_fromKeys.2 (List.mem_append_right _ (List.mem_singleton_self _)))

/-- What the locked part of `_submit_replica` can do: refuse and leave the
tables alone, or record the replica of a node holding a lease on a live job
whose key checks. -/
theorem submitReplica_cases (nodeId jobId : String) (output : Option String)
    (latencyMs : Option ℚ) (error key : Option String) (now : ℕ) (t : JobTables) :
    (∃ r, Locked.submitReplica cfg nodeId jobId output latencyMs error key now t = (t, r) ∧
        r ≠ .ok .recorded) ∨
    ∃ job, Dict.get t.jobs jobId = some job ∧ job.status ≠ .completed ∧
      job.status ≠ .failed ∧
      (nodeId ∈ job.inflightNodeIds ∨ (jobId, nodeId) ∈ Dict.keys t.assignmentStartedAt) ∧
      AssignmentKey.verifyAssignmentHashKey cfg.primitives cfg.assignmentHashSecret
        t.assignmentHashDigests t.assignmentHashExpiresAt jobId nodeId key now = .ok () ∧
      Locked.submitReplica cfg nodeId jobId output latencyMs error key now t =
        ((t.endLease (jobId, nodeId)).setJob jobId (Locked.recordReplica job nodeId
          (Locked.replicaResult nodeId output latencyMs error
            (max 0 (((now : ℚ) - ((Dict.get t.jobStartedAt jobId).getD job.updatedAt : ℕ)) /
              1000))) error now), .ok .recorded) := by
  unfold Locked.submitReplica
  rcases hget : Dict.get t.jobs jobId with _ | job
  · exact .inl ⟨_, rfl, nofun⟩
  · dsimp only
    split_ifs with hc hf ha
    · exact .inl ⟨_, rfl, nofun⟩
    · exact .inl ⟨_, rfl, nofun⟩
    · exact .inl ⟨_, rfl, nofun⟩
    · split
      · exact .inl ⟨_, rfl, nofun⟩
      · rename_i hv
        exact .inr ⟨job, rfl, hc, hf, by tauto, hv, rfl⟩

/-- The jobs excused from rest after a submission to `jobId` replied `r`: the
job, if the replica was recorded. -/
def submitExcused (jobId : String) (D : List String) : Except StoreError SubmitOutcome →
    List String
  | .ok .recorded => jobId :: D
  | _ => D

/-- A submission keeps `Core`; a recorded replica leaves its job out of rest
until it is evaluated. -/
theorem inv_submitReplica (h : Inv D t) (nodeId jobId : String) (output : Option String)
    (latencyMs : Option ℚ) (error key : Option String) (now : ℕ) :
    Inv (submitExcused jobId D
        (Locked.submitReplica cfg nodeId jobId output latencyMs error key now t).2)
      (Locked.submitReplica cfg nodeId jobId output latencyMs error key now t).1 := by
  rcases submitReplica_cases cfg nodeId jobId output latencyMs error key now t with
    ⟨r, he, hr⟩ | ⟨job, hget, hc, -, ha, -, he⟩
  · rw [he]
    rcases r with _ | (_ | _)
    · exact h
    · exact h
    · exact (hr rfl).elim
  · rw [he]
    have hn : nodeId ∈ job.inflightNodeIds := by
      refine ha.elim id fun hk => ?_
      obtain ⟨_, hj, hn'⟩ := (h.1.startedAt jobId nodeId).1 hk
      rw [hget, Option.some.injEq] at hj
      exact hj ▸ hn'
    have hm : ∀ m, m ∈ job.inflightNodeIds.filter (· ≠ nodeId) ↔
        m ≠ nodeId ∧ m ∈ job.inflightNodeIds := by simp [and_comm]
    exact ⟨h.1.setJob (by exact h.1.id_eq _ job hget)
      (by exact (h.1.job _ _ hget).recordReplica hc hn rfl error now) rfl
      (.pop h.1.startedAt hget hm) (.pop h.1.digests hget hm) (.pop h.1.expiresAt hget hm),
      h.2.set (fun hj => (hj (List.mem_cons_self _ _)).elim) fun _ _ => List.mem_cons_of_mem _⟩

/-- The jobs excused from rest after phase one of `_evaluate_job` on `jobId`
replied `r`: the job stays excused only if it is to be verified. -/
def startExcused (jobId : String) (D : List String) : Except StoreError EvaluationStart →
    List String
  | .ok (.verify ..) => jobId :: D
  | _ => D.filter (· ≠ jobId)

/-- Phase one of `_evaluate_job` keeps `Core`, and leaves the job at rest unless
it is now verifying. -/
theorem inv_evaluateStart (h : Inv D t) (jobId : String) (nodes : List Node) :
    Inv (startExcused jobId D (Locked.evaluateStart cfg jobId nodes t).2)
      (Locked.evaluateStart cfg jobId nodes t).1 := by
  unfold Locked.evaluateStart
  rcases hget : Dict.get t.jobs jobId with _ | job
  · exact ⟨h.1, h.2.erase (by simp [hget])⟩
  · dsimp only
    have hm : ∀ m, m ∈ job.inflightNodeIds ↔
        ∃ old, Dict.get t.jobs jobId = some old ∧ m ∈ old.inflightNodeIds := by simp [hget]
    have hid := h.1.id_eq _ job hget
    have hinv := h.1.job _ _ hget
    have hkeep : ∀ {ν} {table : List ((String × String) × ν)}, Leases t.jobs table →
        Relisted jobId job.inflightNodeIds table table := fun hl => .same hl hm
    split_ifs with hs hv hf
    · refine ⟨h.1, h.2.erase fun job' hj' => ?_⟩
      rw [hget, Option.some.injEq] at hj'
      exact hj' ▸ AtRest.of_settled hs
    · exact ⟨h.1.setJob (by exact hid)
        (by exact hinv.of_live (not_or.1 hs) (by simp) rfl rfl rfl (List.Sublist.refl _)) rfl
        (hkeep h.1.startedAt) (hkeep h.1.digests) (hkeep h.1.expiresAt),
        h.2.set (fun hj => (hj (List.mem_cons_self _ _)).elim)
          fun _ _ => List.mem_cons_of_mem _⟩
    · have hnil : job.inflightNodeIds = [] := by simpa using hf.2.1
      exact ⟨h.1.setJob (by exact hid)
        (by exact ⟨hinv.1, hinv.2, hinv.3, hinv.4, fun _ => hnil, by simp, by simp, fun _ => rfl,
          by simp⟩)
        rfl (hkeep h.1.startedAt) (hkeep h.1.digests) (hkeep h.1.expiresAt),
        h.2.set (fun _ => AtRest.of_settled (by simp))
          fun x hx hxD => List.mem_filter.2 ⟨hxD, by simpa using hx⟩⟩
    all_goals
      rename_i hne
      exact ⟨h.1.setJob (by exact hid)
        (by exact hinv.of_live (not_or.1 hs) (by simp) rfl rfl rfl (List.Sublist.refl _)) rfl
        (hkeep h.1.startedAt) (hkeep h.1.digests) (hkeep h.1.expiresAt),
        h.2.set (fun _ => ⟨by simp, fun _ => by simpa using hne⟩)
          fun x hx hxD => List.mem_filter.2 ⟨hxD, by simpa using hx⟩⟩

/-- Phase two of `_evaluate_job` writes the verifier's verdict, drops every
lease of the job and leaves it at rest. -/
theorem inv_evaluateFinish (h : Inv D t) (jobId : String) (g : Verifier.Geometry)
    (threshold : ℚ) {succ : List NodeExecutionResult} {target : ℕ} (now : ℕ)
    (hsucc : ∀ job, Dict.get t.jobs jobId = some job →
      succ = successful job ∧ 1 ≤ target ∧ target ≤ job.config.replicas) :
    Inv (D.filter (· ≠ jobId))
      (Locked.evaluateFinish jobId (Verifier.verify g threshold succ target) now t).1 := by
  unfold Locked.evaluateFinish
  split
  · rename_i hnone
    exact ⟨h.1, h.2.erase (by simp [hnone])⟩
  · rename_i job hget
    dsimp only
    rw [foldl_endLease]
    exact ⟨h.1.setJob (by exact h.1.id_eq _ job hget)
      (by exact (h.1.job _ _ hget).finalizeJob g threshold (hsucc job hget).1
                (hsucc job hget).2 now) rfl
      (.drop h.1.startedAt h.1.startedAt) (.drop h.1.digests h.1.startedAt)
      (.drop h.1.expiresAt h.1.startedAt),
      h.2.set (fun _ => AtRest.of_settled (by unfold Locked.finalizeJob; split_ifs <;> simp))
        fun x hx hxD => List.mem_filter.2 ⟨hxD, by simpa using hx⟩⟩

/-- Ending a lease no job lists changes no table's keys. -/
theorem inv_endLease_of_not_leased (h : Inv D t) {k : String × String}
    (hk : ∀ job, Dict.get t.jobs k.1 = some job → k.2 ∉ job.inflightNodeIds) :
    Inv D (t.endLease k) := by
  have hpop : ∀ {ν} {table : List ((String × String) × ν)}, Leases t.jobs table →
      Leases t.jobs (Dict.pop table k) := by
    intro ν table hl j n
    rw [Dict.mem_keys_pop, hl]
    refine ⟨And.right, fun ⟨job, hj, hn⟩ => ⟨fun e => ?_, job, hj, hn⟩⟩
    subst e
    exact hk job hj hn
  exact ⟨⟨h.1.1, h.1.2, h.1.3, hpop h.1.4, hpop h.1.5, hpop h.1.6⟩, h.2⟩

theorem expireLease_live (job : Job) (n : String) :
    (Locked.expireLease job n).status ≠ .completed ∧ (Locked.expireLease job n).status ≠ .failed := by
  unfold Locked.expireLease; split_ifs <;> simp

theorem releaseJob_live (job : Job) (nodeIds : List String) (message : String) :
    (Locked.releaseJob job nodeIds message).status ≠ .completed ∧
      (Locked.releaseJob job nodeIds message).status ≠ .failed := by
  unfold Locked.releaseJob; split_ifs <;> simp

theorem atRest_expireLease {job : Job} {n : String} (h : JobInv job)
    (hn : n ∈ job.inflightNodeIds) : AtRest (Locked.expireLease job n) := by
  have hl := length_filter_ne_add_one h.nodup_inflight hn
  have hne : job.inflightNodeIds.filter (· ≠ n) ≠ [] ↔ 1 < job.inflightNodeIds.length := by
    rw [← List.length_pos]; omega
  refine ⟨by unfold Locked.expireLease; split_ifs <;> simp, fun _ => ?_⟩
  simp only [Locked.expireLease, hne]
  split_ifs with h1 <;> simp [h1]

/-- One stale lease of the expiry sweep keeps the invariant. -/
theorem inv_expireStep {acc : JobTables × List String × List String} (h : Inv D acc.1)
    (k : String × String) : Inv D (Locked.expireStep acc k).1 := by
  unfold Locked.expireStep
  dsimp only
  split
  · rename_i hnone
    exact inv_endLease_of_not_leased h fun job hj => by simp_all [endLease]
  · rename_i job hget
    have hget' : Dict.get acc.1.jobs k.1 = some job := hget
    split_ifs with hn
    · have hinv := h.1.job _ _ hget'
      have hm : ∀ m, m ∈ job.inflightNodeIds.filter (· ≠ k.2) ↔
          m ≠ k.2 ∧ m ∈ job.inflightNodeIds := by simp [and_comm]
      exact ⟨h.1.setJob (by exact h.1.id_eq _ job hget')
        (by exact hinv.of_live (hinv.live_of_mem hn) (expireLease_live job k.2) rfl rfl rfl
              (List.filter_sublist _)) rfl
        (.pop h.1.startedAt hget' hm) (.pop h.1.digests hget' hm) (.pop h.1.expiresAt hget' hm),
        h.2.set (fun _ => atRest_expireLease hinv hn) fun _ _ => id⟩
    · refine inv_endLease_of_not_leased h fun job' hj' => ?_
      rw [hget', Option.some.injEq] at hj'
      exact hj' ▸ hn

theorem inv_foldl_expireStep : ∀ (ks : List (String × String))
    (acc : JobTables × List String × List String), Inv D acc.1 →
      Inv D (ks.foldl Locked.expireStep acc).1
  | [], _, h => h
  | k :: ks, _, h => inv_foldl_expireStep ks _ (inv_expireStep h k)

/-- The expiry sweep's locked part keeps the invariant. -/
theorem inv_expireStaleJobClaims (h : Inv D t) (timeoutSeconds : ℤ) (now : ℕ) :
    Inv D (Locked.expireStaleJobClaims timeoutSeconds now t).1 :=
  inv_foldl_expireStep _ _ h

/-- The job `_release_inflight` leaves in place of `job`. -/
def releasedJob (nodeIds : List String) (message : String) (job : Job) : Job :=
  if job.inflightNodeIds.any (· ∈ nodeIds) then Locked.releaseJob job nodeIds message else job

theorem mem_releasedJob {nodeIds : List String} {message : String} {job : Job} {n : String} :
    n ∈ (releasedJob nodeIds message job).inflightNodeIds ↔
      n ∈ job.inflightNodeIds ∧ n ∉ nodeIds := by
  unfold releasedJob
  split_ifs with hc
  · simp [Locked.releaseJob]
  · simp only [List.any_eq_true, decide_eq_true_eq, not_exists, not_and] at hc
    exact ⟨fun hn => ⟨hn, hc n hn⟩, And.left⟩

/-- The release keeps `Core`; the jobs it takes nodes off are out of rest until
they are evaluated. -/
theorem inv_releaseInflight (h : Inv D t) (nodeIds : List String) (message : String) :
    Inv (D ++ (Locked.releaseInflight nodeIds message t).2)
      (Locked.releaseInflight nodeIds message t).1 := by
  simp only [Locked.releaseInflight, foldl_endLease]
  have hup := foldl_updateStep (fun job : Job => job.inflightNodeIds.any (· ∈ nodeIds) = true)
    (fun job => Locked.releaseJob job nodeIds message) t.jobs t.jobs [] h.1.nodup_keys
  have hkeys := nodup_keys_foldl_updateStep
    (fun job : Job => job.inflightNodeIds.any (· ∈ nodeIds) = true)
    (fun job => Locked.releaseJob job nodeIds message) t.jobs t.jobs [] h.1.nodup_keys
  set r := t.jobs.foldl (updateStep (fun job : Job => job.inflightNodeIds.any (· ∈ nodeIds) = true)
    (fun job => Locked.releaseJob job nodeIds message)) (t.jobs, [])
  have hjobs : ∀ j, Dict.get r.1 j = (Dict.get t.jobs j).map (releasedJob nodeIds message) := by
    intro j
    rw [(hup j).1]
    cases Dict.get t.jobs j <;> simp only [Option.map_some', Option.map_none', releasedJob]
    split_ifs <;> rfl
  have hget : ∀ j job', Dict.get r.1 j = some job' →
      ∃ job, Dict.get t.jobs j = some job ∧ releasedJob nodeIds message job = job' := by
    intro j job' hj
    simpa [hjobs] using hj
  refine ⟨⟨hkeys, fun j job' hj => ?_,
    fun j job' hj => ?_, h.1.startedAt.release h.1.startedAt hjobs fun _ _ => mem_releasedJob,
    h.1.digests.release h.1.startedAt hjobs fun _ _ => mem_releasedJob,
    h.1.expiresAt.release h.1.startedAt hjobs fun _ _ => mem_releasedJob⟩,
    fun j job' hj hjD => ?_⟩
  · obtain ⟨job, hj0, rfl⟩ := hget j job' hj
    rw [← h.1.id_eq j job hj0]
    unfold releasedJob; split_ifs <;> rfl
  · obtain ⟨job, hj0, rfl⟩ := hget j job' hj
    have hinv := h.1.job j job hj0
    unfold releasedJob
    split_ifs with hc
    · obtain ⟨n, hn, -⟩ := List.any_eq_true.1 hc
      exact hinv.of_live (hinv.live_of_mem hn) (releaseJob_live job nodeIds message) rfl rfl rfl
        (List.filter_sublist _)
    · exact hinv
  · obtain ⟨job, hj0, rfl⟩ := hget j job' hj
    rw [List.mem_append, not_or, (hup j).2] at hjD
    have hc : ¬ job.inflightNodeIds.any (· ∈ nodeIds) = true :=
      fun hc => hjD.2 (.inr ⟨job, hj0, hc⟩)
    simpa [releasedJob, hc] using h.2 j job hj0 hjD.1

end Sections

end Store
end Hyperlooms
