import Hyperlooms.Store.Invariant
import Hyperlooms.Store.Ops

/-!
# The lease invariant over runs

`Invariant` says what each job section does to the invariant; this module
follows each operation through its sections.  `Prog.Keeps P p` says every
section `p` can run keeps `P` of the job tables: the node, clock and ledger
sections keep everything, so most of an operation is a frame.  Where the
excused jobs change inside an operation (a recorded replica, a release, the
two phases of `_evaluate_job`) the operation gets a Hoare triple instead.

Each operation of `Op` keeps `Inv []` when it runs alone (`inv_prog`), so every
state a sequential run reaches satisfies it (`inv_of_reachable`).
-/

namespace Hyperlooms
namespace Store

open Prog

/-! ## Programs that keep a predicate of the job tables -/

/-- Every section the program can run takes job tables satisfying `P` to job
tables satisfying `P`. -/
inductive Prog.Keeps (cfg : StoreConfig) (P : JobTables → Prop) {α : Type} : Prog α → Prop
  | ret (a : α) : Keeps cfg P (.ret a)
  | raise (e : StoreError) : Keeps cfg P (.raise e)
  | atomic {s : Section} {k : s.Reply → Prog α} :
      (∀ w, P w.tables → P (s.exec cfg w).1.tables) → (∀ r, Keeps cfg P (k r)) →
        Keeps cfg P (.atomic s k)

namespace Prog.Keeps

variable {cfg : StoreConfig} {P : JobTables → Prop} {α β : Type}

theorem triple {p : Prog α} (h : Keeps cfg P p) :
    Triple cfg (fun w => P w.tables) p fun w _ => P w.tables := by
  induction h with
  | ret a => exact Triple.ret fun _ h => h
  | raise e => exact Triple.raise fun _ h => h
  | atomic hs _ ih => exact Triple.atomic (fun w _ => P w.tables) hs ih

theorem bind {p : Prog α} {f : α → Prog β} (hp : Keeps cfg P p) (hf : ∀ a, Keeps cfg P (f a)) :
    Keeps cfg P (p.bind f) := by
  induction hp with
  | ret a => exact hf a
  | raise e => exact .raise e
  | atomic hs _ ih => exact .atomic hs ih

theorem and {Q : JobTables → Prop} {p : Prog α} (hp : Keeps cfg P p) (hq : Keeps cfg Q p) :
    Keeps cfg (fun t => P t ∧ Q t) p := by
  induction hp with
  | ret a => exact .ret a
  | raise e => exact .raise e
  | atomic hs _ ih =>
      cases hq with
      | atomic hs' hk => exact .atomic (fun w h => ⟨hs w h.1, hs' w h.2⟩) fun r => ih r (hk r)

theorem sec {s : Section} (h : ∀ w, P w.tables → P (s.exec cfg w).1.tables) :
    Keeps cfg P (Prog.sec s) :=
  .atomic h fun r => .ret r

theorem liftExcept (e : Except StoreError α) : Keeps cfg P (Prog.liftExcept e) := by
  cases e
  · exact .raise _
  · exact .ret _

theorem forEach {γ : Type} {f : γ → Prog Unit} :
    ∀ {xs : List γ}, (∀ x ∈ xs, Keeps cfg P (f x)) → Keeps cfg P (Prog.forEach xs f)
  | [], _ => .ret ()
  | x :: _, h => (h x (List.mem_cons_self _ _)).bind fun _ =>
      forEach fun y hy => h y (List.mem_cons_of_mem _ hy)

theorem node (s : NodeSection) : Keeps cfg P (Prog.sec (.node s)) :=
  sec fun _ h => h

theorem clock : Keeps cfg P (Prog.sec .clock) :=
  sec fun _ h => h

theorem ledger (c : CreditLedger.LedgerCall) : Keeps cfg P (Prog.sec (.ledger c)) :=
  sec fun w h => by
    simp only [Section.exec]
    split <;> exact h

theorem getJob (jobId : String) : Keeps cfg P (Store.getJob jobId) :=
  sec fun _ h => h

theorem ledgerCall (c : CreditLedger.LedgerCall) : Keeps cfg P (Store.ledgerCall c) :=
  (ledger c).bind fun _ => liftExcept _

theorem addModelToNodeCache (nodeId model : String) :
    Keeps cfg P (Store.addModelToNodeCache nodeId model) := by
  unfold Store.addModelToNodeCache
  split_ifs
  · exact .ret ()
  · exact node _

theorem rewardNodeForJob (job : Job) (nodeId : String) (multiplier : ℚ) :
    Keeps cfg P (Store.rewardNodeForJob cfg job nodeId multiplier) := by
  unfold Store.rewardNodeForJob
  split_ifs
  · exact (ledgerCall _).bind fun _ => .ret ()
  · exact .ret ()

theorem applyTrust (job : Option Job) : Keeps cfg P (Store.applyTrust cfg job) := by
  cases job with
  | none => exact .ret ()
  | some job =>
      refine forEach fun r _ => ?_
      unfold trustResult
      split_ifs
      · exact node _
      · exact (node _).bind fun _ => rewardNodeForJob _ _ _
      · exact (node _).bind fun _ => rewardNodeForJob _ _ _

end Prog.Keeps

section Rules

variable {cfg : StoreConfig} {α β : Type}

/-- A section is never the one that raises: the rule for `let r ← sec s`. -/
theorem Triple.sec_bind {P : World → Prop} {s : Section} {f : s.Reply → Prog β}
    {Q : World → Except StoreError β → Prop} (R : World → s.Reply → Prop)
    (hs : ∀ w, P w → R (s.exec cfg w).1 (s.exec cfg w).2) (hf : ∀ r, Triple cfg (R · r) (f r) Q) :
    Triple cfg P ((Prog.sec s).bind f) Q :=
  Triple.atomic R hs hf

/-- Sequencing two programs whose postconditions ignore the outcome. -/
theorem Triple.bind_const {P R S : World → Prop} {p : Prog α} {f : α → Prog β}
    (hp : Triple cfg P p fun w _ => R w) (hf : ∀ a, Triple cfg R (f a) fun w _ => S w)
    (hRS : ∀ w, R w → S w) : Triple cfg P (p.bind f) fun w _ => S w :=
  Triple.bind (fun w _ => R w) (Triple.mono (fun _ h => h)
    (fun w r h => by cases r <;> [exact hRS w h; exact h]) hp) hf

theorem Triple.forEach_ok {γ : Type} {I : World → Prop} {f : γ → Prog Unit} :
    ∀ {xs : List γ}, (∀ x ∈ xs, Triple cfg I (f x) fun w r => I w ∧ r = .ok ()) →
      Triple cfg I (Prog.forEach xs f) fun w r => I w ∧ r = .ok ()
  | [], _ => Triple.ret fun _ h => ⟨h, rfl⟩
  | x :: _, h => Triple.bind (fun w _ => I w)
      (Triple.mono (fun _ h => h) (fun w r hr => by rcases hr with ⟨hI, rfl⟩; exact hI)
        (h x (List.mem_cons_self _ _)))
      fun _ => Triple.forEach_ok fun y hy => h y (List.mem_cons_of_mem _ hy)

theorem Triple.pre {P P' : World → Prop} {p : Prog α} {Q : World → Except StoreError α → Prop}
    (hP : ∀ w, P' w → P w) (h : Triple cfg P p Q) : Triple cfg P' p Q :=
  Triple.mono hP (fun _ _ h => h) h

/-- Sequencing after a loop that never raises. -/
theorem Triple.bind_unit {P R : World → Prop} {p : Prog Unit} {f : Unit → Prog β}
    {Q : World → Except StoreError β → Prop} (hp : Triple cfg P p fun w r => R w ∧ r = .ok ())
    (hf : Triple cfg R (f ()) Q) : Triple cfg P (p.bind f) Q :=
  Triple.bind (fun w _ => R w)
    (Triple.mono (fun _ h => h) (fun w r h => by obtain ⟨h, rfl⟩ := h; exact h) hp) fun _ => hf

/-- Sequencing after a program that never raises. -/
theorem Triple.bind_ok {P : World → Prop} {R : World → α → Prop} {p : Prog α} {f : α → Prog β}
    {Q : World → Except StoreError β → Prop} (hp : Triple cfg P p fun w r => ∃ a, r = .ok a ∧ R w a)
    (hf : ∀ a, Triple cfg (R · a) (f a) Q) : Triple cfg P (p.bind f) Q :=
  Triple.bind R (Triple.mono (fun _ h => h) (fun w r h => by obtain ⟨a, rfl, h⟩ := h; exact h) hp)
    hf

end Rules

/-! ## No section removes a job -/

section Keys

variable (cfg : StoreConfig) {t : JobTables} {j : String}

theorem mem_keys_foldl_expireStep : ∀ (ks : List (String × String))
    (acc : JobTables × List String × List String), j ∈ Dict.keys acc.1.jobs →
      j ∈ Dict.keys (ks.foldl Locked.expireStep acc).1.jobs
  | [], _, h => h
  | k :: ks, acc, h => by
      refine mem_keys_foldl_expireStep ks _ ?_
      unfold Locked.expireStep
      dsimp only
      split
      · exact h
      · split_ifs
        · simp [h]
        · exact h

theorem mem_keys_foldl_updateStep {ν : Type} (c : ν → Prop) [DecidablePred c] (g : ν → ν) :
    ∀ (ps d : List (String × ν)) (A : List String), j ∈ Dict.keys d →
      j ∈ Dict.keys (ps.foldl (updateStep c g) (d, A)).1
  | [], _, _, h => h
  | p :: ps, d, A, h => by
      rw [List.foldl_cons, updateStep]
      split_ifs
      · exact mem_keys_foldl_updateStep c g ps _ _ (by simp [h])
      · exact mem_keys_foldl_updateStep c g ps _ _ h

/-- The jobs a release reports as affected are jobs of the table. -/
theorem mem_keys_releaseInflight {nodeIds : List String} {message : String} {x : String}
    (h : Core t) (hx : x ∈ (Locked.releaseInflight nodeIds message t).2) :
    x ∈ Dict.keys (Locked.releaseInflight nodeIds message t).1.jobs := by
  simp only [Locked.releaseInflight, foldl_endLease] at hx ⊢
  obtain ⟨job, hj, -⟩ := ((foldl_updateStep _ _ t.jobs t.jobs [] h.nodup_keys x).2.1 hx).resolve_left
    (List.not_mem_nil x)
  exact mem_keys_foldl_updateStep _ _ _ _ _ ((Dict.isSome_get_iff _ _).1 (by simp [hj]))

/-- No job section removes a job. -/
theorem JobSection.mem_keys_exec (now : ℕ) (h : j ∈ Dict.keys t.jobs) :
    ∀ s : JobSection, j ∈ Dict.keys (s.exec cfg now t).1.jobs
  | .putJob job => by simp [JobSection.exec, Locked.putJob, h]
  | .getJob _ => h
  | .touchJob jobId u => by
      simp only [JobSection.exec, Locked.touchJob]
      split
      · exact h
      · simp [h]
  | .claimNextJob nodeId nodes at_ nonce => by
      simp only [JobSection.exec, Locked.claimNextJob]
      split
      · exact h
      · simp [h]
  | .submitReplica nodeId jobId output latency error key at_ => by
      simp only [JobSection.exec]
      rcases submitReplica_cases cfg nodeId jobId output latency error key at_ t with
        ⟨r, he, -⟩ | ⟨job, -, -, -, -, -, he⟩ <;> rw [he]
      · exact h
      · simp [h]
  | .evaluateStart jobId nodes => by
      simp only [JobSection.exec, Locked.evaluateStart]
      split
      · exact h
      · split_ifs <;> simp [h]
  | .evaluateFinish jobId v => by
      simp only [JobSection.exec, Locked.evaluateFinish]
      split
      · exact h
      · simp [foldl_endLease, h]
  | .expireStaleJobClaims timeout => mem_keys_foldl_expireStep _ _ h
  | .releaseInflight nodeIds message => by
      simp only [JobSection.exec, Locked.releaseInflight, foldl_endLease]
      exact mem_keys_foldl_updateStep _ _ _ _ _ h

/-- No program removes a job. -/
theorem keeps_mem_keys (K : List String) {α : Type} :
    ∀ p : Prog α, Keeps cfg (fun t => ∀ j ∈ K, j ∈ Dict.keys t.jobs) p
  | .ret a => .ret a
  | .raise e => .raise e
  | .atomic s k => .atomic (fun w h j hj => by
      cases s with
      | job s => exact JobSection.mem_keys_exec cfg _ (h j hj) s
      | ledger c =>
          simp only [Section.exec]
          split <;> exact h j hj
      | _ => exact h j hj) fun r => keeps_mem_keys K (k r)

end Keys

/-! ## Trust and rewards never raise -/

section NoRaise

variable (cfg : StoreConfig) {P : JobTables → Prop}

/-- A transfer that may overdraw its source and moves a positive amount always
goes through. -/
theorem transfer_allowNegative_ok (L : CreditLedger) (src dst : AccountKey) {amount : ℚ}
    (type : CreditTransactionType) (reason : String) (ref idem : Option String)
    (h : 0 < amount) : ∃ p, CreditLedger.transfer L src dst amount type reason ref idem true = .ok p := by
  unfold CreditLedger.transfer
  rw [if_neg (not_le.2 h)]
  split
  · exact ⟨_, rfl⟩
  · simp

/-- The reward `_reward_node_for_job` pays is positive. -/
theorem reward_pos (job : Job) (multiplier : ℚ) :
    0 < pyRound (max 0.1 (job.costEstimateCredits / max 1 (job.config.replicas : ℚ)) *
      max 0.2 multiplier) 4 := by
  apply pyRound_pos
  have h1 : (0.1 : ℚ) ≤ max 0.1 (job.costEstimateCredits / max 1 (job.config.replicas : ℚ)) :=
    le_max_left _ _
  have h2 : (0.2 : ℚ) ≤ max 0.2 multiplier := le_max_left _ _
  nlinarith

theorem rewardNodeForJob_ok (job : Job) (nodeId : String) (multiplier : ℚ) :
    Triple cfg (fun w => P w.tables) (rewardNodeForJob cfg job nodeId multiplier)
      fun w r => P w.tables ∧ r = .ok () := by
  unfold rewardNodeForJob ledgerCall
  split_ifs
  · refine Triple.sec_bind (fun w r => P w.tables ∧ ∃ p, r = .ok p) (fun w h => ⟨?_, ?_⟩)
      fun r => ?_
    · simp only [Section.exec]
      split <;> exact h
    · obtain ⟨p, hp⟩ := transfer_allowNegative_ok w.credits CreditLedger.platform (.node, nodeId)
        .reward "job_execution" (some job.id)
        (some ("reward:" ++ job.id ++ ":" ++ nodeId ++ ":" ++ "job_execution"))
        (reward_pos job multiplier)
      simp [Section.exec, CreditLedger.LedgerCall.rewardNode, CreditLedger.LedgerCall.run, hp,
        Except.map]
    · exact fun w ⟨h, p, hr⟩ => by subst hr; exact ⟨h, rfl⟩
  · exact Triple.ret fun _ h => ⟨h, rfl⟩

theorem trustResult_ok (job : Job) (result : NodeExecutionResult) :
    Triple cfg (fun w => P w.tables) (trustResult cfg job result)
      fun w r => P w.tables ∧ r = .ok () := by
  unfold trustResult
  split_ifs
  · exact Triple.atomic (fun w _ => P w.tables) (fun _ h => h) fun _ => Triple.ret fun _ h => ⟨h, rfl⟩
  · exact Triple.sec_bind (fun w _ => P w.tables) (fun _ h => h) fun _ =>
      rewardNodeForJob_ok cfg _ _ _
  · exact Triple.sec_bind (fun w _ => P w.tables) (fun _ h => h) fun _ =>
      rewardNodeForJob_ok cfg _ _ _

theorem applyTrust_ok (job : Option Job) :
    Triple cfg (fun w => P w.tables) (applyTrust cfg job) fun w r => P w.tables ∧ r = .ok () := by
  cases job with
  | none => exact Triple.ret fun _ h => ⟨h, rfl⟩
  | some job => exact Triple.forEach_ok fun r _ => trustResult_ok cfg job r

end NoRaise

/-! ## `_evaluate_job` -/

section Evaluate

variable (cfg : StoreConfig)

theorem evaluateStart_error {jobId : String} {nodes : List Node} {t : JobTables} {e : StoreError}
    (he : (Locked.evaluateStart cfg jobId nodes t).2 = .error e) :
    jobId ∉ Dict.keys (Locked.evaluateStart cfg jobId nodes t).1.jobs := by
  revert he
  unfold Locked.evaluateStart
  rcases hget : Dict.get t.jobs jobId with _ | job
  · exact fun _ => (Dict.get_eq_none_iff _ _).1 hget
  · dsimp only
    split_ifs <;> nofun

theorem evaluateFinish_error {jobId : String} {v : Verifier.Verdict} {now : ℕ} {t : JobTables}
    {e : StoreError} (he : (Locked.evaluateFinish jobId v now t).2 = .error e) :
    jobId ∉ Dict.keys (Locked.evaluateFinish jobId v now t).1.jobs := by
  revert he
  unfold Locked.evaluateFinish
  rcases hget : Dict.get t.jobs jobId with _ | job
  · exact fun _ => (Dict.get_eq_none_iff _ _).1 hget
  · nofun

/-- Phase one asks for a verdict on the job's successful results, with a target
between one and its replicas. -/
theorem evaluateStart_verify {jobId : String} {nodes : List Node} {t : JobTables}
    {succ : List NodeExecutionResult} {target : ℕ}
    (hv : (Locked.evaluateStart cfg jobId nodes t).2 = .ok (.verify succ target)) (job : Job)
    (hj : Dict.get (Locked.evaluateStart cfg jobId nodes t).1.jobs jobId = some job) :
    succ = successful job ∧ 1 ≤ target ∧ target ≤ job.config.replicas := by
  revert hv hj
  unfold Locked.evaluateStart
  rcases hget : Dict.get t.jobs jobId with _ | job₀
  · nofun
  · dsimp only
    split_ifs
    · nofun
    · intro hv hj
      simp only [Except.ok.injEq, EvaluationStart.verify.injEq] at hv
      simp only [JobTables.jobs_setJob, Dict.get_set, if_true, Option.some.injEq] at hj
      obtain ⟨rfl, rfl⟩ := hv
      subst hj
      exact ⟨rfl, one_le_targetReplicas cfg _ _, targetReplicas_le cfg _ _⟩
    all_goals nofun

/-- `_evaluate_job` takes the job off the excused list, and returns it when it
exists. -/
theorem triple_evaluateJob (D : List String) (jobId : String) :
    Triple cfg (fun w => Inv D w.tables) (evaluateJob cfg jobId) fun w r =>
      Inv (D.filter (· ≠ jobId)) w.tables ∧
        (jobId ∈ Dict.keys w.tables.jobs → ∃ job, r = .ok job) := by
  unfold evaluateJob
  refine Triple.sec_bind (fun w _ => Inv D w.tables) (fun _ h => h) fun nodes => ?_
  refine Triple.sec_bind (fun w r => Inv (startExcused jobId D r) w.tables ∧
      (∀ e, r = .error e → jobId ∉ Dict.keys w.tables.jobs) ∧
      ∀ succ target, r = .ok (.verify succ target) → ∀ job,
        Dict.get w.tables.jobs jobId = some job →
          succ = successful job ∧ 1 ≤ target ∧ target ≤ job.config.replicas)
    (fun w h => ⟨inv_evaluateStart cfg h jobId nodes, fun e he => evaluateStart_error cfg he,
      fun _ _ hv => evaluateStart_verify cfg hv⟩)
    fun r => ?_
  rcases r with e | job | ⟨succ, target⟩
  · exact Triple.raise fun w h => ⟨h.1, fun hm => absurd hm (h.2.1 e rfl)⟩
  · exact Triple.ret fun w h => ⟨h.1, fun _ => ⟨job, rfl⟩⟩
  · refine Triple.sec_bind (fun w r => Inv (D.filter (· ≠ jobId)) w.tables ∧
        ∀ e, r = .error e → jobId ∉ Dict.keys w.tables.jobs)
      (fun w h => ⟨(inv_evaluateFinish h.1 jobId _ _ _ (h.2.2 _ _ rfl)).mono fun x hx => ?_,
        fun e he => evaluateFinish_error he⟩) fun r => ?_
    · simp only [startExcused, List.mem_filter, List.mem_cons, decide_eq_true_eq] at hx ⊢
      exact ⟨hx.1.resolve_left hx.2, hx.2⟩
    rcases r with e | ⟨⟩
    · exact Triple.raise fun w h => ⟨h.1, fun hm => absurd hm (h.2 e rfl)⟩
    · refine Triple.sec_bind (fun w _ => Inv (D.filter (· ≠ jobId)) w.tables) (fun _ h => h.1)
        fun o => ?_
      refine Triple.bind (fun w _ => Inv (D.filter (· ≠ jobId)) w.tables)
        (Triple.mono (fun _ h => h) (fun w r hr => by rcases hr with ⟨h, rfl⟩; exact h)
          (applyTrust_ok cfg o)) fun _ => ?_
      refine Triple.sec_bind (fun w o => Inv (D.filter (· ≠ jobId)) w.tables ∧
          (o = none → jobId ∉ Dict.keys w.tables.jobs))
        (fun w h => ⟨h, fun ho => (Dict.get_eq_none_iff _ _).1 ho⟩) fun o => ?_
      rcases o with _ | final
      · exact Triple.raise fun w h => ⟨h.1, fun hm => absurd hm (h.2 rfl)⟩
      · exact Triple.ret fun w h => ⟨h.1, fun _ => ⟨final, rfl⟩⟩

end Evaluate

/-! ## The operations -/

section Operations

variable (cfg : StoreConfig) {D : List String}

/-- The job under `jobId`, if there is one, is queued. -/
def QueuedAt (jobId : String) (t : JobTables) : Prop :=
  ∀ job, Dict.get t.jobs jobId = some job → Queued job

theorem queuedAt_touchJob {jobId jobId' : String} {u : JobUpdate} {now : ℕ} {t : JobTables}
    (hu : u.status = none) (h : QueuedAt jobId t) :
    QueuedAt jobId (Locked.touchJob jobId' u now t).1 := by
  unfold Locked.touchJob
  split
  · exact h
  · rename_i existing hget
    intro job hj
    simp only [JobTables.jobs_setJob, Dict.get_set] at hj
    split_ifs at hj with e
    · cases hj
      have hq := h existing (e ▸ hget)
      exact ⟨by simpa [hu] using hq.1, hq.2, hq.3, hq.4⟩
    · exact h job hj

theorem keeps_touchJob_logs (jobId : String) {u : JobUpdate} (hu : u.status = none) :
    Keeps cfg (Inv D) (touchJob jobId u) :=
  (Keeps.sec fun _ h => by exact inv_touchJob h _ (.inl hu)).bind fun _ => .liftExcept _

/-- A log write keeps every predicate each log-only `touch_job` keeps. -/
theorem keeps_appendJobLog {P : JobTables → Prop}
    (hP : ∀ t jobId logs now, P t → P (Locked.touchJob jobId { logs := some logs } now t).1)
    (jobId message level : String) (nodeId : Option String) :
    Keeps cfg P (appendJobLog jobId message level nodeId) := by
  unfold appendJobLog
  refine (Keeps.getJob _).bind fun o => ?_
  rcases o with _ | job
  · exact .raise _
  · exact (Keeps.sec fun _ h => by exact hP _ _ _ _ h).bind fun _ => .liftExcept _

theorem keeps_appendJobLog_inv (jobId message level : String) (nodeId : Option String) :
    Keeps cfg (Inv D) (appendJobLog jobId message level nodeId) :=
  keeps_appendJobLog cfg (fun _ _ _ _ h => inv_touchJob h _ (.inl rfl)) _ _ _ _

theorem keeps_appendJobLog_queued (K jobId message level : String) (nodeId : Option String) :
    Keeps cfg (QueuedAt K) (appendJobLog jobId message level nodeId) :=
  keeps_appendJobLog cfg (fun _ _ _ _ h => queuedAt_touchJob rfl h) _ _ _ _

theorem keeps_claimNextJob (nodeId : String) (nonce : AssignmentKey.Nonce) :
    Keeps cfg (Inv D) (claimNextJob nodeId nonce) := by
  unfold claimNextJob
  refine (Keeps.node _).bind fun node => ?_
  rcases node with _ | node
  · exact .raise _
  · dsimp only
    split_ifs
    · exact .ret _
    · refine Keeps.clock.bind fun _ => (Keeps.node _).bind fun _ =>
        (Keeps.sec fun _ h => by exact inv_claimNextJob cfg h _ _ _ _).bind fun r => ?_
      rcases r with _ | ⟨job, key, exp⟩
      · exact .ret _
      · dsimp only
        split_ifs
        · exact .raise _
        · exact (Keeps.node _).bind fun _ => (Keeps.addModelToNodeCache _ _).bind fun _ => .ret _

theorem triple_submitReplica (nodeId jobId : String) (output : Option String)
    (latencyMs : Option ℚ) (error key : Option String) :
    Triple cfg (fun w => Inv [] w.tables)
      (submitReplica cfg nodeId jobId output latencyMs error key) fun w _ => Inv [] w.tables := by
  unfold submitReplica
  refine Triple.sec_bind (fun w _ => Inv [] w.tables) (fun _ h => h) fun _ => ?_
  refine Triple.sec_bind (fun w r => Inv (submitExcused jobId [] r) w.tables)
    (fun _ h => inv_submitReplica cfg h _ _ _ _ _ _ _) fun r => ?_
  rcases r with e | (job | _)
  · exact Triple.raise fun _ h => h
  · exact Triple.ret fun _ h => h
  · refine Triple.sec_bind (fun w _ => Inv [jobId] w.tables) (fun _ h => h) fun _ =>
      Triple.sec_bind (fun w _ => Inv [jobId] w.tables) (fun _ h => h) fun _ =>
      Triple.sec_bind (fun w _ => Inv [jobId] w.tables) (fun _ h => h) fun _ => ?_
    refine Triple.bind_const (Triple.mono (fun _ h => h) (fun _ _ h => by simpa using h.1)
      (triple_evaluateJob cfg [jobId] jobId)) (fun final => ?_) fun _ h => h
    split_ifs
    · exact ((Keeps.ledgerCall _).bind fun _ => .ret _).triple
    · exact Triple.ret fun _ h => h

/-- Evaluating, one after another, jobs that all exist takes those of them that
are excused back to rest. -/
theorem triple_evaluateAll : ∀ (xs D : List String), (∀ x ∈ D, x ∈ xs) →
    Triple cfg (fun w => Inv D w.tables ∧ ∀ x ∈ xs, x ∈ Dict.keys w.tables.jobs)
      (forEach xs fun j => do let _ ← evaluateJob cfg j; ret ()) fun w _ => Inv [] w.tables
  | [], _, hD => Triple.ret fun _ h => h.1.mono fun x hx => hD x hx
  | x :: xs, D, hD => by
      refine Triple.bind_ok (Triple.bind_ok (R := fun w _ =>
          Inv (D.filter (· ≠ x)) w.tables ∧ ∀ y ∈ xs, y ∈ Dict.keys w.tables.jobs)
        (fun w h => ?_) fun _ => Triple.ret fun _ h => ⟨(), rfl, h⟩)
        fun _ => triple_evaluateAll xs _ fun y hy => ?_
      · have h1 := triple_evaluateJob cfg D x w h.1
        have h2 := (keeps_mem_keys cfg (x :: xs) (evaluateJob cfg x)).triple w h.2
        obtain ⟨job, hjob⟩ := h1.2 (h2 x (List.mem_cons_self _ _))
        exact ⟨job, hjob, h1.1, fun y hy => h2 y (List.mem_cons_of_mem _ hy)⟩
      · simp only [List.mem_filter, decide_eq_true_eq] at hy
        exact (List.mem_cons.1 (hD y hy.1)).resolve_left hy.2

theorem triple_releaseInflight (nodeIds : List String) (message : String)
    (nodeOrder jobOrder : List String) :
    Triple cfg (fun w => Inv [] w.tables)
      (releaseInflight cfg nodeIds message nodeOrder jobOrder) fun w _ => Inv [] w.tables := by
  unfold releaseInflight
  refine Triple.sec_bind (fun w (affected : List String) =>
      Inv affected w.tables ∧ ∀ x ∈ affected, x ∈ Dict.keys w.tables.jobs)
    (fun w h => ⟨by simpa using inv_releaseInflight h nodeIds message,
      fun x hx => mem_keys_releaseInflight h.1 hx⟩) fun affected => ?_
  refine Triple.bind_unit (Triple.forEach_ok fun _ _ => Triple.atomic (fun w _ => _)
    (fun _ h => h) fun _ => Triple.ret fun _ h => ⟨h, rfl⟩) ?_
  refine Triple.bind_const (Triple.pre (fun w h => ⟨h.1, fun x hx => h.2 x (mem_inOrder.1 hx)⟩)
    (triple_evaluateAll cfg (inOrder jobOrder affected) affected fun x hx => mem_inOrder.2 hx))
    (fun _ => Triple.ret fun _ h => h) fun _ h => h

theorem triple_expireStaleJobClaims (timeoutSeconds : ℤ) (nodeOrder jobOrder : List String) :
    Triple cfg (fun w => Inv [] w.tables)
      (expireStaleJobClaims cfg timeoutSeconds nodeOrder jobOrder) fun w _ => Inv [] w.tables := by
  unfold expireStaleJobClaims
  refine Triple.sec_bind (fun w _ => Inv [] w.tables)
    (fun _ h => inv_expireStaleJobClaims h _ _) fun _ => ?_
  refine Triple.bind_const (Keeps.forEach fun _ _ =>
    (Keeps.node _).bind fun _ => Keeps.node _).triple (fun _ => ?_) fun _ h => h
  refine Triple.bind_const (Triple.forEach fun j _ => ?_) (fun _ => Triple.ret fun _ h => h)
    fun _ h => h
  exact Triple.bind_const (Triple.mono (fun _ h => h) (fun _ _ h => h.1)
    (triple_evaluateJob cfg [] j)) (fun _ => Triple.ret fun _ h => h) fun _ h => h

theorem triple_expireStaleNodes (timeoutSeconds : ℤ) (nodeOrder jobOrder : List String) :
    Triple cfg (fun w => Inv [] w.tables)
      (expireStaleNodes cfg timeoutSeconds nodeOrder jobOrder) fun w _ => Inv [] w.tables := by
  unfold expireStaleNodes
  refine Triple.sec_bind (fun w _ => Inv [] w.tables) (fun _ h => h) fun offline => ?_
  split_ifs
  · exact Triple.ret fun _ h => h
  · exact triple_releaseInflight cfg _ _ _ _

/-- `put_job_from_request` under a new id stores a queued job under that id. -/
theorem triple_putJobFromRequest (payload : JobCreateRequest) (jobId : String) (cost : ℚ) :
    Triple cfg (fun w => Inv D w.tables ∧ jobId ∉ Dict.keys w.tables.jobs)
      (putJobFromRequest cfg payload jobId cost) fun w r =>
        ∃ job, r = .ok job ∧ job.id = jobId ∧ Inv D w.tables ∧ QueuedAt jobId w.tables := by
  unfold putJobFromRequest
  refine Triple.sec_bind (fun w _ => Inv D w.tables ∧ jobId ∉ Dict.keys w.tables.jobs)
    (fun _ h => h) fun _ => ?_
  refine Triple.sec_bind (fun w _ => Inv D w.tables ∧ jobId ∉ Dict.keys w.tables.jobs)
    (fun _ h => h) fun _ => ?_
  refine Triple.sec_bind (fun w _ => Inv D w.tables ∧ QueuedAt jobId w.tables)
    (fun _ h => ⟨inv_putJob h.1 h.2 ⟨rfl, rfl, rfl, rfl⟩, fun job hj => ?_⟩)
    fun _ => Triple.ret fun _ h => ⟨_, rfl, rfl, h⟩
  change Dict.get (Dict.set _ jobId _) jobId = some job at hj
  rw [Dict.get_set, if_pos rfl, Option.some.injEq] at hj
  exact hj ▸ ⟨rfl, rfl, rfl, rfl⟩

theorem triple_submitJob (payload : JobCreateRequest) (hex : String) :
    Triple cfg (fun w => Inv [] w.tables ∧ "job-" ++ hex ∉ Dict.keys w.tables.jobs)
      (submitJob cfg payload hex) fun w _ => Inv [] w.tables := by
  unfold submitJob
  refine Triple.bind_const (Keeps.triple (P := fun t => Inv [] t ∧ "job-" ++ hex ∉ Dict.keys t.jobs)
    ?_) (fun _ => ?_) fun _ h => h.1
  · split_ifs
    · exact Keeps.ledgerCall _
    · exact .ret _
  refine Triple.bind_ok (triple_putJobFromRequest cfg payload _ _) fun job => ?_
  refine Triple.bind_const (Triple.pre (fun w h => ⟨h.2.1, h.1 ▸ h.2.2⟩)
    ((keeps_appendJobLog_inv cfg job.id _ _ _).and (keeps_appendJobLog_queued cfg job.id _ _ _ _)).triple)
    (fun _ => ?_) fun _ h => h.1
  refine Triple.bind_const (S := fun w => Inv [] w.tables)
    (Triple.sec_bind (fun w _ => Inv [] w.tables)
      (fun _ h => by exact inv_touchJob h.1 _ (.inr ⟨rfl, h.2⟩))
      fun r => (Keeps.liftExcept r).triple) (fun _ => ((Keeps.getJob _).bind fun _ => .ret _).triple)
    fun _ h => h

theorem triple_retryJob (jobId hex : String) :
    Triple cfg (fun w => Inv [] w.tables ∧ "job-" ++ hex ∉ Dict.keys w.tables.jobs)
      (retryJob cfg jobId hex) fun w _ => Inv [] w.tables := by
  unfold retryJob
  refine Triple.sec_bind (fun w _ => Inv [] w.tables ∧ "job-" ++ hex ∉ Dict.keys w.tables.jobs)
    (fun _ h => h) fun o => ?_
  rcases o with _ | existing
  · exact Triple.raise fun _ h => h.1
  · exact Triple.bind_const (triple_submitJob cfg _ hex)
      (fun retry => ((keeps_appendJobLog_inv cfg retry.id _ _ _).bind fun _ => .ret _).triple)
      fun _ h => h

end Operations

/-! ## Runs -/

section Runs

variable (cfg : StoreConfig)

theorem inv_init (credits : CreditLedger) : Inv [] (World.init credits).tables :=
  ⟨⟨List.nodup_nil, by simp [World.init, Dict.get], by simp [World.init, Dict.get],
    by simp [Leases, World.init, Dict.get], by simp [Leases, World.init, Dict.get],
    by simp [Leases, World.init, Dict.get]⟩, by simp [Rest, World.init, Dict.get]⟩

/-- Every operation, run alone, keeps the invariant, given that a job it creates
gets a new id. -/
theorem inv_prog (o : Op) {w : World}
    (hfresh : ∀ j, o.newJobId = some j → j ∉ Dict.keys w.tables.jobs) (h : Inv [] w.tables) :
    Inv [] ((o.prog cfg).run cfg w).1.tables := by
  have done : ∀ {α : Type} {P : World → Prop} {p : Prog α},
      Triple cfg P p (fun w _ => Inv [] w.tables) →
      Triple cfg P (do let _ ← p) fun w _ => Inv [] w.tables :=
    fun hp => Triple.bind_const hp (fun _ => Triple.ret fun _ h => h) fun _ h => h
  cases o with
  | seedNodes => exact (Keeps.node _).triple w h
  | registerNode payload =>
      exact done (((Keeps.node _).bind fun _ => Keeps.clock.bind fun _ => Keeps.node _).triple) w h
  | heartbeat nodeId payload =>
      exact done (((Keeps.node _).bind fun _ => .liftExcept _).triple) w h
  | claimNextJob nodeId nonce => exact done (keeps_claimNextJob cfg _ _).triple w h
  | submitJobResult nodeId jobId output latency key =>
      exact done (triple_submitReplica cfg _ _ _ _ _ _) w h
  | submitJobFailure nodeId jobId error key => exact done (triple_submitReplica cfg _ _ _ _ _ _) w h
  | expireStaleJobClaims timeout nodeOrder jobOrder =>
      exact done (triple_expireStaleJobClaims cfg _ _ _) w h
  | expireStaleNodes timeout nodeOrder jobOrder =>
      exact done (triple_expireStaleNodes cfg _ _ _) w h
  | syntheticPulse => exact (Keeps.node _).triple w h
  | putJobFromRequest payload jobId cost =>
      exact done (Triple.mono (fun _ h => h) (fun _ _ h => by obtain ⟨_, _, _, h, -⟩ := h; exact h)
        (triple_putJobFromRequest (D := []) cfg payload jobId cost)) w ⟨h, hfresh _ rfl⟩
  | submitJob payload hex => exact done (triple_submitJob cfg payload hex) w ⟨h, hfresh _ rfl⟩
  | retryJob jobId hex => exact done (triple_retryJob cfg jobId hex) w ⟨h, hfresh _ rfl⟩
  | credits c => exact done (Keeps.ledgerCall c).triple w h

/-- Every state a sequential run reaches satisfies the lease invariant. -/
theorem inv_of_reachable {w : World} (h : Reachable cfg w) : Inv [] w.tables := by
  induction h with
  | init credits => exact inv_init credits
  | step s _ hfresh ih =>
      cases s with
      | op o => exact inv_prog cfg o hfresh ih
      | tick t => exact ih

/-- In every state a sequential run reaches, every job keeps its leases
consistent: no node twice in flight, one result per node, no node both in
flight and successful, the three lease tables keyed by exactly the job's
leases, no job verifying, a settled job without leases, the verdict fields
agreeing with the status, and a live job running exactly when it holds a
lease. -/
theorem lease_invariant_of_reachable {w : World} (h : Reachable cfg w) (j : String) (job : Job)
    (hj : Dict.get w.tables.jobs j = some job) :
    job.inflightNodeIds.Nodup ∧
    (job.results.map NodeExecutionResult.nodeId).Nodup ∧
    (∀ n ∈ job.inflightNodeIds, ∀ r ∈ successful job, r.nodeId ≠ n) ∧
    (∀ n, (j, n) ∈ Dict.keys w.tables.assignmentStartedAt ↔ n ∈ job.inflightNodeIds) ∧
    (∀ n, (j, n) ∈ Dict.keys w.tables.assignmentHashDigests ↔ n ∈ job.inflightNodeIds) ∧
    (∀ n, (j, n) ∈ Dict.keys w.tables.assignmentHashExpiresAt ↔ n ∈ job.inflightNodeIds) ∧
    job.status ≠ .verifying ∧
    (job.status = .completed ∨ job.status = .failed → job.inflightNodeIds = []) ∧
    (job.status = .completed →
      (job.verificationStatus = .verified ∨ job.verificationStatus = .mismatch) ∧
        ∃ o, job.mergedOutput = some o ∧ o ≠ "") ∧
    (job.verificationStatus = .verified → job.status = .completed) ∧
    (job.status = .failed → job.verificationStatus = .failed) ∧
    (job.status = .pending ∨ job.status = .running →
      (job.status = .running ↔ job.inflightNodeIds ≠ [])) := by
  obtain ⟨hc, hr⟩ := inv_of_reachable cfg h
  have hi := hc.job j job hj
  have ha := hr j job hj (List.not_mem_nil j)
  have hl : ∀ {ν} {table : List ((String × String) × ν)}, Leases w.tables.jobs table →
      ∀ n, (j, n) ∈ Dict.keys table ↔ n ∈ job.inflightNodeIds := fun hL n => by
    rw [hL]; simp [hj]
  exact ⟨hi.nodup_inflight, hi.nodup_results, hi.not_successful, hl hc.startedAt, hl hc.digests,
    hl hc.expiresAt, ha.not_verifying, hi.inflight_of_settled, hi.verdict_of_completed,
    hi.completed_of_verified, hi.failed_of_failed, ha.running_iff⟩

/-- Node `a` comes up, a one-replica job is submitted, and `a` claims it. -/
def leaseRun : List Step :=
  demoNodeUp "a" ++
    [.op (.submitJob { prompt := "p", config := { model := "tiny-1b", replicas := 1 }, ownerId := "u" }
      "w"),
     .op (.claimNextJob "a" (demoNonce 1))]

/-- The state at the end of `leaseRun`: `job-w` running with `a`'s lease. -/
def leaseWorld : World :=
  Step.run demoConfig leaseRun demoWorld

set_option maxRecDepth 20000 in
theorem reachable_leaseWorld : Reachable demoConfig leaseWorld :=
  Reachable.run (.init _) (by with_unfolding_all decide)

set_option maxRecDepth 20000 in
theorem lease_invariant_leaseWorld :
    ∃ job, Dict.get leaseWorld.tables.jobs "job-w" = some job ∧
      job.inflightNodeIds.Nodup ∧
      (job.results.map NodeExecutionResult.nodeId).Nodup ∧
      (∀ n ∈ job.inflightNodeIds, ∀ r ∈ successful job, r.nodeId ≠ n) ∧
      (∀ n, ("job-w", n) ∈ Dict.keys leaseWorld.tables.assignmentStartedAt ↔
        n ∈ job.inflightNodeIds) ∧
      (∀ n, ("job-w", n) ∈ Dict.keys leaseWorld.tables.assignmentHashDigests ↔
        n ∈ job.inflightNodeIds) ∧
      (∀ n, ("job-w", n) ∈ Dict.keys leaseWorld.tables.assignmentHashExpiresAt ↔
        n ∈ job.inflightNodeIds) ∧
      job.status ≠ .verifying ∧
      (job.status = .completed ∨ job.status = .failed → job.inflightNodeIds = []) ∧
      (job.status = .completed →
        (job.verificationStatus = .verified ∨ job.verificationStatus = .mismatch) ∧
          ∃ o, job.mergedOutput = some o ∧ o ≠ "") ∧
      (job.verificationStatus = .verified → job.status = .completed) ∧
      (job.status = .failed → job.verificationStatus = .failed) ∧
      (job.status = .pending ∨ job.status = .running →
        (job.status = .running ↔ job.inflightNodeIds ≠ [])) := by
  have hs : (Dict.get leaseWorld.tables.jobs "job-w").isSome := by with_unfolding_all decide
  obtain ⟨job, hj⟩ := Option.isSome_iff_exists.1 hs
  exact ⟨job, hj, lease_invariant_of_reachable demoConfig reachable_leaseWorld "job-w" job hj⟩

/-- In every state a sequential run reaches, the distinct successful nodes and
the leases of a job together stay within its replica count; and every lease a
claim grants, from any tables, stays within the target that claim computed
from the node list it read. -/
theorem load_le_replicas_of_reachable {w : World} (h : Reachable cfg w) :
    (∀ j job, Dict.get w.tables.jobs j = some job →
      (fromKeys ((successful job).map NodeExecutionResult.nodeId)).length +
        job.inflightNodeIds.length ≤ job.config.replicas) ∧
    ∀ (t t' : JobTables) nodeId nodes now nonce claimed key exp,
      Locked.claimNextJob cfg nodeId nodes now nonce t = (t', some (claimed, key, exp)) →
        (fromKeys ((successful claimed).map NodeExecutionResult.nodeId)).length +
          claimed.inflightNodeIds.length ≤ targetReplicas cfg claimed nodes := by
  have hd : ∀ job : Job, (fromKeys ((successful job).map NodeExecutionResult.nodeId)).length ≤
      (successful job).length := fun job => (length_fromKeys_le _).trans (by simp)
  refine ⟨fun j job hj => ?_, fun t t' nodeId nodes now nonce claimed key exp hc => ?_⟩
  · have := ((inv_of_reachable cfg h).1.job j job hj).load_le
    have := hd job
    omega
  · obtain ⟨job, -, hacc, rfl, -, -⟩ := claimNextJob_eq_some cfg hc
    have := claimedJob_load_le cfg now hacc
    have := hd (Locked.claimedJob cfg nodeId nodes now job)
    have : targetReplicas cfg (Locked.claimedJob cfg nodeId nodes now job) nodes =
      targetReplicas cfg job nodes := rfl
    omega

theorem load_le_replicas_leaseWorld :
    (∀ j job, Dict.get leaseWorld.tables.jobs j = some job →
      (fromKeys ((successful job).map NodeExecutionResult.nodeId)).length +
        job.inflightNodeIds.length ≤ job.config.replicas) ∧
    ∀ (t t' : JobTables) nodeId nodes now nonce claimed key exp,
      Locked.claimNextJob demoConfig nodeId nodes now nonce t = (t', some (claimed, key, exp)) →
        (fromKeys ((successful claimed).map NodeExecutionResult.nodeId)).length +
          claimed.inflightNodeIds.length ≤ targetReplicas demoConfig claimed nodes :=
  load_le_replicas_of_reachable demoConfig reachable_leaseWorld

end Runs

end Store
end Hyperlooms
