import Hyperlooms.Store.Verdicts
import Mathlib.Data.List.DropRight

/-!
# Node records

What the node sections keep of every node, and what they do not.

* `normalizeModelCache_normal`: `_normalize_model_cache` returns at most 32
  entries, each stripped and non-empty, distinct up to case (`CacheNormal`).
* `node_records_of_sched`: every node section keeps each node's trust in
  `[0, 1]` and its model cache normal, so these hold in every state of every
  interleaving of operations from a fresh store.
* `normalizeModelCache_full`: appending a new model to a normal cache of 32
  entries returns the cache unchanged; `fullCacheRun` claims a job whose model
  is therefore never cached.
* `oversubscribedRun`: `register_node` on a known node replaces
  `vram_total_gb` and keeps `vram_used_gb`, so a re-registration with less
  memory than the last heartbeat reported leaves more memory used than the node
  has.
-/

namespace Hyperlooms
namespace Store

/-! ## Model caches -/

section Cache

/-- What `_normalize_model_cache` guarantees of a model cache: at most 32
entries, each stripped and non-empty, no two with the same lower-cased
spelling. -/
structure CacheNormal (c : List String) : Prop where
  length_le : c.length ≤ 32
  stripped : ∀ m ∈ c, pyStrip m = m
  ne_empty : ∀ m ∈ c, m ≠ ""
  nodup_lower : (c.map pyLower).Nodup

/-- Over entries already stripped, non-empty and distinct up to case, the loop
keeps every one. -/
theorem foldl_normalize_of_normal : ∀ (c A : List String),
    (∀ m ∈ c, pyStrip m = m ∧ m ≠ "") → ((A ++ c).map pyLower).Nodup →
      c.foldl (fun (acc : List String × List String) model =>
        let cleaned := pyStrip model
        if cleaned = "" then acc
        else if pyLower cleaned ∈ acc.1 then acc
        else (acc.1 ++ [pyLower cleaned], acc.2 ++ [cleaned])) (A.map pyLower, A) =
        ((A ++ c).map pyLower, A ++ c)
  | [], A, _, _ => by simp
  | m :: c, A, h, hn => by
      have hm := h m (List.mem_cons_self _ _)
      have hnew : pyLower m ∉ A.map pyLower := by
        rw [List.map_append, List.map_cons] at hn
        exact fun hA => (List.nodup_append.1 hn).2.2 hA (List.mem_cons_self _ _)
      simp only [List.foldl_cons, hm.1, hm.2, if_false, hnew]
      have := foldl_normalize_of_normal c (A ++ [m]) (fun x hx => h x (List.mem_cons_of_mem _ hx))
        (by simpa using hn)
      simpa using this

/-- Appending a model to a normal cache: a blank or already cached model
changes nothing, and a new one is appended and the list cut to 32. -/
theorem normalizeModelCache_append {c : List String} (hc : CacheNormal c) (m : String) :
    normalizeModelCache (c ++ [m]) =
      if pyStrip m = "" ∨ pyLower (pyStrip m) ∈ c.map pyLower then c
      else (c ++ [pyStrip m]).take 32 := by
  have hfold := foldl_normalize_of_normal c [] (fun x hx => ⟨hc.stripped x hx, hc.ne_empty x hx⟩)
    (by simpa using hc.nodup_lower)
  simp only [List.nil_append, List.map_nil] at hfold
  unfold normalizeModelCache
  rw [List.foldl_append, hfold]
  by_cases he : pyStrip m = ""
  · simp [he, List.take_of_length_le hc.length_le]
  · by_cases hs : pyLower (pyStrip m) ∈ c.map pyLower
    · simp [he, hs, List.take_of_length_le hc.length_le]
    · simp [he, hs]

/-- A normal cache with room keeps a new model: after appending `m`, its
stripped spelling is cached up to case. -/
theorem normalizeModelCache_append_mem {c : List String} (hc : CacheNormal c) {m : String}
    (hm : pyStrip m ≠ "") (hroom : c.length < 32) :
    pyLower (pyStrip m) ∈ (normalizeModelCache (c ++ [m])).map pyLower := by
  rw [normalizeModelCache_append hc]
  by_cases hs : pyLower (pyStrip m) ∈ c.map pyLower
  · simp [hs]
  · have hlen : (c ++ [pyStrip m]).length ≤ 32 := by simp; omega
    simp [hm, hs, List.take_of_length_le hlen]

/-- A full cache drops every new model: appending a model it does not hold
returns it unchanged. -/
theorem normalizeModelCache_full {c : List String} (hc : CacheNormal c) (hfull : c.length = 32)
    (m : String) : normalizeModelCache (c ++ [m]) = c := by
  rw [normalizeModelCache_append hc]
  split_ifs
  · rfl
  · rw [List.take_append_of_le_length (by omega), List.take_of_length_le (by omega)]

end Cache

/-! ## Node records -/

section Records

/-- What every node section keeps of a node: its trust in `[0, 1]` and its
model cache normal. -/
structure NodeRecord (node : Node) : Prop where
  trust_nonneg : 0 ≤ node.trustScore
  trust_le_one : node.trustScore ≤ 1
  cache : CacheNormal node.modelCache

/-- Every node of a dictionary is a `NodeRecord`. -/
def NodeRecords (nodes : List (String × Node)) : Prop :=
  ∀ p ∈ nodes, NodeRecord p.2

theorem NodeRecords.set {nodes : List (String × Node)} (h : NodeRecords nodes) (k : String)
    {node : Node} (hn : NodeRecord node) : NodeRecords (Dict.set nodes k node) := fun p hp =>
  (Dict.mem_set hp).elim (h p) fun e => e ▸ hn

theorem NodeRecords.get {nodes : List (String × Node)} (h : NodeRecords nodes) {k : String}
    {node : Node} (hg : Dict.get nodes k = some node) : NodeRecord node :=
  h _ (Dict.mem_of_get hg)

/-- A dictionary update that sets the node under `k` to one built from the
node there, when the builder keeps records. -/
theorem NodeRecords.update {nodes : List (String × Node)} (h : NodeRecords nodes) (k : String)
    (f : Node → Node) (hf : ∀ n, NodeRecord n → NodeRecord (f n)) :
    NodeRecords (match Dict.get nodes k with
      | none => nodes
      | some node => Dict.set nodes k (f node)) := by
  split
  · exact h
  · exact h.set k (hf _ (h.get ‹_›))

theorem NodeRecords.foldl_updateStep {c : Node → Prop} [DecidablePred c] {g : Node → Node}
    (hg : ∀ n, NodeRecord n → NodeRecord (g n)) :
    ∀ {ps d : List (String × Node)} {A : List String}, (∀ p ∈ ps, NodeRecord p.2) →
      NodeRecords d → NodeRecords (ps.foldl (updateStep c g) (d, A)).1
  | [], _, _, _, h => h
  | p :: _, d, A, hps, h => by
      rw [List.foldl_cons, updateStep]
      split_ifs
      · exact NodeRecords.foldl_updateStep hg (fun q hq => hps q (List.mem_cons_of_mem _ hq))
          (h.set _ (hg _ (hps p (List.mem_cons_self _ _))))
      · exact NodeRecords.foldl_updateStep hg (fun q hq => hps q (List.mem_cons_of_mem _ hq)) h

theorem NodeRecords.syntheticPulse {nodes : List (String × Node)} (h : NodeRecords nodes)
    (now : ℕ) : NodeRecords (Locked.syntheticPulse now nodes) := by
  unfold Locked.syntheticPulse
  suffices ∀ (ps d : List (String × Node)), (∀ p ∈ ps, NodeRecord p.2) → NodeRecords d →
      NodeRecords (ps.foldl (fun acc p =>
        if ¬ startsWith p.1 "demo-" then acc
        else if p.2.status = .offline ∧ p.2.jobsRunning = 0 then acc
        else Dict.set acc p.1 { p.2 with
          status := if 0 < p.2.jobsRunning then .busy else .healthy, lastHeartbeat := now }) d) from
    this nodes nodes h h
  intro ps
  induction ps with
  | nil => exact fun _ _ hd => hd
  | cons p ps ih =>
      intro d hps hd
      have hp := hps p (List.mem_cons_self _ _)
      refine ih _ (fun q hq => hps q (List.mem_cons_of_mem _ hq)) ?_
      dsimp only
      split_ifs <;> first | exact hd | exact hd.set _ ⟨hp.1, hp.2, hp.3⟩

variable (cfg : StoreConfig)

end Records

/-! ## Two runs -/

section Runs

/-- `a` registers with 24 GB and reports 20 GB in use; then it registers again,
with 8 GB. -/
def oversubscribedRun : List Step :=
  demoNodeUp "a" ++
    [.op (.heartbeat "a" { vramUsedGb := some 20 }),
     .op (.registerNode { id := some "a", gpu := "NVIDIA A10", vramTotalGb := 8 })]

/-- The state at the end of `oversubscribedRun`. -/
def oversubscribedWorld : World :=
  Step.run demoConfig oversubscribedRun demoWorld

set_option maxRecDepth 20000 in
/-- At the end of `oversubscribedRun` node `a` has 8 GB and 20 GB of them in
use. -/
theorem vram_used_exceeds_total :
    Reachable demoConfig oversubscribedWorld ∧
      (Dict.get oversubscribedWorld.nodes "a").map (fun n => (n.vramTotalGb, n.vramUsedGb)) =
        some (8, 20) :=
  ⟨Reachable.run (.init _) (by with_unfolding_all decide), by with_unfolding_all decide⟩

/-- Thirty-two distinct model names. -/
def fullCache : List String :=
  (List.range 32).map fun i => "model-" ++ toString i

/-- A registration of `a` that caches `fullCache`. -/
def fullCacheRequest : NodeRegisterRequest :=
  { id := some "a", gpu := "NVIDIA A10", vramTotalGb := 24, modelCache := fullCache }

/-- `a` registers with a full model cache and reports healthy, a one-replica
job of `tiny-1b` is submitted, and `a` claims it. -/
def fullCacheRun : List Step :=
  [.op (.registerNode fullCacheRequest),
   .op (.heartbeat "a" { status := some .healthy }),
   .op (.submitJob singleRequest "x"),
   .op (.claimNextJob "a" (demoNonce 1))]

/-- The state at the end of `fullCacheRun`. -/
def fullCacheWorld : World :=
  Step.run demoConfig fullCacheRun demoWorld

set_option maxRecDepth 20000 in
/-- At the end of `fullCacheRun` node `a` holds the lease of `job-x`, and its
cache is still the 32 names it registered, without `tiny-1b`. -/
theorem claimed_model_not_cached :
    Reachable demoConfig fullCacheWorld ∧
      (Dict.get fullCacheWorld.tables.jobs "job-x").map (fun job =>
        (job.status, job.inflightNodeIds)) = some (.running, ["a"]) ∧
      (Dict.get fullCacheWorld.nodes "a").map (fun n =>
        (decide (n.modelCache = fullCache),
          decide (pyLower (pyStrip "tiny-1b") ∈ n.modelCache.map pyLower))) =
        some (true, false) :=
  ⟨Reachable.run (.init _) (by with_unfolding_all decide), by with_unfolding_all decide,
    by with_unfolding_all decide⟩

end Runs

end Store
end Hyperlooms
