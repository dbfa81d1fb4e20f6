import Hyperlooms.AssignmentKey
import Hyperlooms.Verifier
import Hyperlooms.Ledger

/-!
# The store's state and its pure helpers

`InMemoryStateStore` (`app/services/state_store.py`) holds a node dictionary
under `_node_lock` and a job dictionary with four lease tables under
`_job_lock`; the credit ledger it pays through has its own lock.  A `World` is
these three parts and the wall clock `utc_now()` reads.  Keeping them apart
makes the frame facts definitional: a section of one lock leaves the other
parts as they are.

`StoreConfig` collects the constructor arguments and collaborators: the
verifier's geometry and threshold, the key secret and time to live, the
single-node fallback switch, whether a ledger is attached, and the hash
primitives.  The scheduler is `WeightedScheduler` (`Hyperlooms.Scheduler`).

The helpers below are the store's synchronous methods (`_target_replicas`,
`_rank_nodes_for_job`, `_progress`, ...), written as the code computes them.
-/

namespace Hyperlooms
namespace Store

open CreditLedger

/-- The exceptions the store's operations raise. -/
inductive StoreError
  | keyError (message : String)
  | valueError (message : String)
  | typeError (message : String)
  | runtimeError (message : String)
  | ledger (e : LedgerError)
deriving DecidableEq, Repr

/-- `InMemoryStateStore(scheduler, verifier, credits, assignment_hash_secret,
assignment_hash_ttl_sec, enable_single_node_test_fallback)`. -/
structure StoreConfig where
  primitives : AssignmentKey.Primitives
  geometry : Verifier.Geometry
  similarityThreshold : ℚ := 0.78
  assignmentHashSecret : String := "dev-assignment-hash-secret"
  assignmentHashTtlSec : ℤ := 900
  enableSingleNodeTestFallback : Bool := true
  withCredits : Bool := true

/-- `self._assignment_hash_ttl_sec = max(60, assignment_hash_ttl_sec)`. -/
def StoreConfig.ttlSec (cfg : StoreConfig) : ℕ :=
  (max 60 cfg.assignmentHashTtlSec).toNat

/-- The dictionaries under `_job_lock`. -/
structure JobTables where
  jobs : List (String × Job) := []
  assignmentStartedAt : List ((String × String) × ℕ) := []
  assignmentHashDigests : List ((String × String) × String) := []
  assignmentHashExpiresAt : List ((String × String) × ℕ) := []
  jobStartedAt : List (String × ℕ) := []
deriving DecidableEq

/-- The store, its ledger and the clock. -/
structure World where
  nodes : List (String × Node) := []
  tables : JobTables := {}
  credits : CreditLedger
  clock : ℕ := 0
deriving DecidableEq

/-- A fresh store next to a ledger. -/
def World.init (credits : CreditLedger) : World :=
  { credits }

section Helpers

variable (cfg : StoreConfig)

/-- `_successful(job)`. -/
def successful (job : Job) : List NodeExecutionResult :=
  job.results.filter NodeExecutionResult.isSuccessful

/-- `_should_use_single_node_fallback(active_nodes)`. -/
def shouldUseSingleNodeFallback (active : List Node) : Bool :=
  cfg.enableSingleNodeTestFallback && active.length == 1

/-- The fallback's sort key `(healthy, trust_score, free_vram_gb, id)`, compared
as a tuple: `a` sorts strictly below `b`. -/
def fallbackKeyLt (a b : Node) : Prop :=
  let ha : ℕ := if a.status = .healthy then 1 else 0
  let hb : ℕ := if b.status = .healthy then 1 else 0
  ha < hb ∨ ha = hb ∧ (a.trustScore < b.trustScore ∨ a.trustScore = b.trustScore ∧
    (a.freeVramGb < b.freeVramGb ∨ a.freeVramGb = b.freeVramGb ∧ a.id < b.id))

instance (a b : Node) : Decidable (fallbackKeyLt a b) :=
  inferInstanceAs (Decidable (_ ∨ _))

/-- `_single_node_fallback_nodes(nodes)`: the active nodes by descending key,
when there is exactly one. -/
def singleNodeFallbackNodes (nodes : List Node) : List Node :=
  let active := nodes.filter (fun n => n.status ≠ .offline)
  if shouldUseSingleNodeFallback cfg active then
    active.insertionSort (fun a b => ¬ fallbackKeyLt a b)
  else []

/-- `_rank_nodes_for_job(nodes, config, exclude_node_ids)`. -/
def rankNodesForJob (nodes : List Node) (config : JobConfig) (exclude : List String) :
    List Node :=
  let ranked := Scheduler.rankNodes nodes config exclude
  if ranked ≠ [] then ranked
  else (singleNodeFallbackNodes cfg nodes).filter (fun n => n.id ∉ exclude)

/-- `_plan_nodes_for_job(nodes, config, replicas)`. -/
def planNodesForJob (nodes : List Node) (config : JobConfig) (replicas : ℕ) : List Node :=
  let plan := Scheduler.selectNodes nodes config replicas
  if plan ≠ [] then plan else (singleNodeFallbackNodes cfg nodes).take replicas

/-- `_target_replicas(job, nodes)`. -/
def targetReplicas (job : Job) (nodes : List Node) : ℕ :=
  let eligible := nodes.filter (fun n => Scheduler.rankNodes [n] job.config ≠ [])
  if eligible ≠ [] then max 1 (min job.config.replicas eligible.length)
  else
    let active := nodes.filter (fun n => n.status ≠ .offline)
    if shouldUseSingleNodeFallback cfg active then 1
    else max 1 (min job.config.replicas (if active ≠ [] then active.length else 1))

/-- `_progress(successful, inflight, target)`. -/
def progress (successful inflight target : ℕ) : ℚ :=
  if target = 0 then 15
  else
    let ratio := min 1 (((successful : ℚ) + (inflight : ℚ) * 0.45) / target)
    pyRound (min 88 (max 12 (12 + ratio * 72))) 2

/-- `_normalize_model_cache(models)`: stripped, non-empty, first of each
lower-cased spelling, at most 32. -/
def normalizeModelCache (models : List String) : List String :=
  ((models.foldl (fun (acc : List String × List String) model =>
    let cleaned := pyStrip model
    if cleaned = "" then acc
    else if pyLower cleaned ∈ acc.1 then acc
    else (acc.1 ++ [pyLower cleaned], acc.2 ++ [cleaned])) ([], [])).2).take 32

/-- `set.add(x)` on a set kept in discovery order. -/
def setAdd {α : Type} [DecidableEq α] (s : List α) (x : α) : List α :=
  if x ∈ s then s else s ++ [x]

theorem targetReplicas_le (job : Job) (nodes : List Node) :
    targetReplicas cfg job nodes ≤ job.config.replicas := by
  have h := job.config.replicas_ge
  unfold targetReplicas
  dsimp only
  split_ifs <;> omega

theorem one_le_targetReplicas (job : Job) (nodes : List Node) :
    1 ≤ targetReplicas cfg job nodes := by
  unfold targetReplicas
  dsimp only
  split_ifs <;> omega

@[simp] theorem mem_setAdd {α : Type} [DecidableEq α] {s : List α} {x y : α} :
    y ∈ setAdd s x ↔ y ∈ s ∨ y = x := by
  unfold setAdd
  split_ifs with h
  · exact ⟨.inl, fun h' => h'.elim id (fun e => e ▸ h)⟩
  · simp

end Helpers

section UpdateLoop

variable {κ ν : Type} [DecidableEq κ] (c : ν → Prop) [DecidablePred c] (g : ν → ν)

/-- `for key, value in items: if c(value): d[key] = g(value); changed.add(key)`. -/
def updateStep (acc : List (κ × ν) × List κ) (p : κ × ν) : List (κ × ν) × List κ :=
  if c p.2 then (Dict.set acc.1 p.1 (g p.2), setAdd acc.2 p.1) else acc

/-- The loop over the items of a dictionary with distinct keys: each key it
changes holds the new value and is recorded, every other key keeps its value. -/
theorem foldl_updateStep : ∀ (ps d : List (κ × ν)) (A : List κ), (Dict.keys ps).Nodup → ∀ j,
    Dict.get (ps.foldl (updateStep c g) (d, A)).1 j =
      (match Dict.get ps j with
        | some v => if c v then some (g v) else Dict.get d j
        | none => Dict.get d j) ∧
    (j ∈ (ps.foldl (updateStep c g) (d, A)).2 ↔ j ∈ A ∨ ∃ v, Dict.get ps j = some v ∧ c v)
  | [], d, A, _, j => by simp [Dict.get]
  | p :: ps, d, A, hn, j => by
      rw [Dict.keys_cons, List.nodup_cons] at hn
      have hp : Dict.get ps p.1 = none := (Dict.get_eq_none_iff _ _).2 hn.1
      rw [List.foldl_cons, updateStep]
      by_cases hc : c p.2 <;> by_cases hj : j = p.1
      all_goals
        simp only [hc, if_true, if_false]
        rw [(foldl_updateStep ps _ _ hn.2 j).1, (foldl_updateStep ps _ _ hn.2 j).2]
      · subst hj; simp [Dict.get, hp, hc]
      · simp [Dict.get, Ne.symm hj, hj]
      · subst hj; simp [Dict.get, hp, hc]
      · simp [Dict.get, Ne.symm hj]

theorem nodup_keys_foldl_updateStep :
    ∀ (ps d : List (κ × ν)) (A : List κ), (Dict.keys d).Nodup →
      (Dict.keys (ps.foldl (updateStep c g) (d, A)).1).Nodup
  | [], _, _, h => h
  | p :: ps, d, A, h => by
      rw [List.foldl_cons, updateStep]
      split_ifs
      · exact nodup_keys_foldl_updateStep ps _ _ (Dict.nodup_keys_set h _ _)
      · exact nodup_keys_foldl_updateStep ps _ _ h

end UpdateLoop


end Store
end Hyperlooms
