import Hyperlooms.Model

/-!
# The semantic-majority verifier

`ResultVerifier.verify` (`app/services/verifier.py`) keeps the successful
results with a non-empty output, clusters them greedily by the cosine
similarity of hashed embeddings, and lets the largest cluster win.

**Embeddings.** `_embed_text` lower-cases the output, finds its
`[a-zA-Z0-9_]+` tokens, adds `1.0` to the bucket `int(sha256(token)[:8], 16) %
embedding_dims` of each, and normalises.  Everything before the normalisation is
modelled exactly: the bucket counts are naturals (`embedCounts`), and SHA-256 is
a parameter.

**Geometry.** The verifier reads the float part of its geometry (the
normalisation, the dot product, the centroid) in exactly two places: the test
`similarity(embedding, centroid(cluster)) >= threshold` of the greedy pass, and
the rounded pairwise similarities of the matrix.  `Geometry` is that interface,
over bucket counts; everything the verifier computes from it is modelled as
written.  `Geometry.Exact` states what exact arithmetic gives on identical
embeddings.

**Algorithm.** One pass over the kept results places each into the first
cluster whose centroid is near enough, or opens a new cluster (`cluster`).  The
clusters are sorted by descending size, stably (`sortClusters`), and the first
is the winner.  With `population = max(1, min(expected, |kept|))` the winner
needs `1` member if the population is `1` and `population // 2 + 1` otherwise.

**Results.**
* `mem_of_mem_cluster`: every cluster is made of kept results.
* `verify_winner`: a verdict other than `failed` has a winner of at least
  `majority_required` members.
* `verify_majorityNodes`: its majority nodes are distinct kept nodes, more than
  half of `min(expected, |kept|)`; so more than half of the kept results only
  when `expected` is at least their number.
-/

namespace Hyperlooms
namespace Verifier

/-! ## Embeddings -/

/-- `[a-zA-Z0-9_]`. -/
def isWordChar (c : Char) : Bool :=
  c.isAlphanum || c = '_'

/-- `re.findall(r"[a-zA-Z0-9_]+", ...)` on a list of characters: the maximal runs
of word characters, left to right; `run` is the run being read, reversed. -/
def findWords : List Char → List Char → List String
  | run, [] => if run.isEmpty then [] else [⟨run.reverse⟩]
  | run, c :: cs =>
      if isWordChar c then findWords (c :: run) cs
      else if run.isEmpty then findWords [] cs
      else ⟨run.reverse⟩ :: findWords [] cs

/-- `self._word_pattern.findall(output.lower())`. -/
def wordTokens (output : String) : List String :=
  findWords [] (pyLower output).data

/-- The value of a digit of a lower-case hex digest, as `int(..., 16)` reads it. -/
def hexDigitValue (c : Char) : ℕ :=
  if c.isDigit then c.toNat - '0'.toNat else c.toNat - 'a'.toNat + 10

/-- `int(s, 16)` on the digits of a hex digest. -/
def hexValue (s : String) : ℕ :=
  s.data.foldl (fun n c => 16 * n + hexDigitValue c) 0

/-- The hashed embedding of the verifier, with its float geometry left as an
interface over bucket counts. -/
structure Geometry where
  /-- `embedding_dims`. -/
  embeddingDims : ℕ := 256
  embeddingDims_pos : 0 < embeddingDims := by decide
  /-- `hashlib.sha256(token.encode("utf-8")).hexdigest()`. -/
  sha256Hex : String → String
  /-- `self._similarity(embedding, self._cluster_centroid(cluster)) >= t`, for the
  bucket counts of an output and of the outputs of the cluster's members. -/
  nearCentroid : ℚ → List ℕ → List (List ℕ) → Bool
  /-- `round(self._similarity(left, right), 4)`, for the bucket counts of two outputs. -/
  pairSimilarity : List ℕ → List ℕ → ℚ

/-- `int(digest[:8], 16) % self.embedding_dims`. -/
def Geometry.bucket (g : Geometry) (token : String) : ℕ :=
  hexValue ⟨(g.sha256Hex token).data.take 8⟩ % g.embeddingDims

/-- The vector `_embed_text` fills before it normalises: `vector[bucket] += 1.0`
for each token.  Counting in naturals is exact, as adding `1.0` to a float below
`2^53` is. -/
def Geometry.embedCounts (g : Geometry) (output : String) : List ℕ :=
  (wordTokens output).foldl (fun v token => v.modify (· + 1) (g.bucket token))
    (List.replicate g.embeddingDims 0)

/-- The geometry in which two embeddings are near, and similar, exactly when
their bucket counts are equal. -/
def Geometry.discrete (dims : ℕ) (h : 0 < dims) (sha256Hex : String → String) : Geometry where
  embeddingDims := dims
  embeddingDims_pos := h
  sha256Hex := sha256Hex
  nearCentroid _ u cs := cs.all (· = u)
  pairSimilarity u v := if u = v then 1 else 0

/-- Four buckets, a token's digest its length in decimal: outputs are near, and
similar, exactly when they have as many tokens of each length modulo four. -/
def Geometry.byLength : Geometry :=
  .discrete 4 (by decide) fun token => toString token.length

/-- `verify`'s return value `(status, merged_output, confidence, details)`. -/
structure Verdict where
  status : VerificationStatus
  mergedOutput : Option String
  confidence : ℚ
  details : VerificationDetails
deriving DecidableEq, Repr

section Verify

variable (g : Geometry) (threshold : ℚ)

/-- `[result for result in results if result.success and result.output]`. -/
def keep (results : List NodeExecutionResult) : List NodeExecutionResult :=
  results.filter NodeExecutionResult.isSuccessful

/-- The output behind `embeddings[node_id]`: that of the last kept result with
that node id (the dictionary comprehension keeps the last value). -/
def outputOf (kept : List NodeExecutionResult) (nodeId : String) : String :=
  match (kept.filter (fun r => r.nodeId = nodeId)).getLast? with
  | some r => r.output.getD ""
  | none => ""

/-- `embeddings[node_id]`, as bucket counts. -/
def embeddingOf (kept : List NodeExecutionResult) (nodeId : String) : List ℕ :=
  g.embedCounts (outputOf kept nodeId)

/-- The inner loop of `_cluster`: the result joins the first cluster whose
centroid is near enough, or opens a new cluster at the end. -/
def place (kept : List NodeExecutionResult) (r : NodeExecutionResult) :
    List (List NodeExecutionResult) → List (List NodeExecutionResult)
  | [] => [[r]]
  | c :: cs =>
      if g.nearCentroid threshold (embeddingOf g kept r.nodeId)
        (c.map fun m => embeddingOf g kept m.nodeId)
      then (c ++ [r]) :: cs
      else c :: place kept r cs

/-- `_cluster(results, embeddings)`: one greedy pass. -/
def cluster (kept : List NodeExecutionResult) : List (List NodeExecutionResult) :=
  kept.foldl (fun cs r => place g threshold kept r cs) []

/-- `sorted(clusters, key=len, reverse=True)`. -/
def sortClusters (cs : List (List NodeExecutionResult)) : List (List NodeExecutionResult) :=
  cs.insertionSort (fun a b => b.length ≤ a.length)

/-- The pairs `(cluster[i], cluster[j])` with `i < j`, in loop order. -/
def pairsOf {α : Type} : List α → List (α × α)
  | [] => []
  | x :: xs => xs.map (fun y => (x, y)) ++ pairsOf xs

/-- One iteration of the inner loop of `_similarity_matrix`: a pair whose entry
exists is skipped; otherwise the rounded similarity is written at
`[left][right]` and then at `[right][left]`. -/
def matrixStep (kept : List NodeExecutionResult) (m : List (String × List (String × ℚ)))
    (left right : String) : List (String × List (String × ℚ)) :=
  if right ∈ Dict.keys ((Dict.get m left).getD []) then m
  else
    let s := g.pairSimilarity (embeddingOf g kept left) (embeddingOf g kept right)
    let m := Dict.set m left (Dict.set ((Dict.get m left).getD []) right s)
    Dict.set m right (Dict.set ((Dict.get m right).getD []) left s)

/-- `_similarity_matrix(results, embeddings)`: `matrix[a][b]` for every pair of
kept node ids, each unordered pair computed once. -/
def similarityMatrix (kept : List NodeExecutionResult) : List (String × List (String × ℚ)) :=
  kept.foldl (fun m left => kept.foldl (fun m right =>
    matrixStep g kept m left.nodeId right.nodeId) m) []

/-- `matrix[left][right]`. -/
def matrixEntry (m : List (String × List (String × ℚ))) (left right : String) : ℚ :=
  ((Dict.get m left).bind (fun row => Dict.get row right)).getD 0

/-- `_average_internal_similarity(cluster, matrix)`. -/
def averageInternalSimilarity (c : List NodeExecutionResult)
    (m : List (String × List (String × ℚ))) : ℚ :=
  if c.length ≤ 1 then 1
  else
    let ps := pairsOf c
    if ps = [] then 1
    else (ps.map (fun p => matrixEntry m p.1.nodeId p.2.nodeId)).sum / ps.length

/-- `population = max(1, min(expected_replicas, len(successful)))`. -/
def population (expected kept : ℕ) : ℕ :=
  max 1 (min expected kept)

/-- `majority_required = 1 if population == 1 else population // 2 + 1`. -/
def majorityRequired (population : ℕ) : ℕ :=
  if population = 1 then 1 else population / 2 + 1

/-- `ResultVerifier.verify(results, expected_replicas)`. -/
def verify (results : List NodeExecutionResult) (expected : ℕ) : Verdict :=
  let kept := keep results
  match sortClusters (cluster g threshold kept) with
  | [] => ⟨.failed, none, 0, .noSuccessfulResults⟩
  | winner :: rest =>
      let matrix := similarityMatrix g kept
      let required := majorityRequired (population expected kept.length)
      let avg := averageInternalSimilarity winner matrix
      let confidence := max 0 (min 1
        ((winner.length : ℚ) / max 1 kept.length * (0.7 + avg * 0.3)))
      let status : VerificationStatus :=
        if required ≤ winner.length ∧ threshold ≤ avg then .verified
        else if required ≤ winner.length then .mismatch
        else .failed
      ⟨status, (winner.head?.bind NodeExecutionResult.output), pyRound confidence 4,
        .report threshold required ((fromKeys (winner.map NodeExecutionResult.nodeId)).insertionSort
          (· ≤ ·)) ((winner :: rest).map List.length) (pyRound avg 4) matrix⟩

end Verify

/-! ## The greedy pass -/

section Clusters

variable {g : Geometry} {threshold : ℚ} {kept : List NodeExecutionResult}

/-- Placing a result adds it to exactly one cluster. -/
theorem flatten_place_perm (r : NodeExecutionResult) :
    ∀ cs : List (List NodeExecutionResult),
      List.Perm (place g threshold kept r cs).flatten (cs.flatten ++ [r])
  | [] => by simp [place]
  | c :: cs => by
      unfold place
      split
      · simpa using (@List.perm_append_comm _ [r] cs.flatten).append_left c
      · simpa using (flatten_place_perm r cs).append_left c

theorem ne_nil_of_mem_place (r : NodeExecutionResult) :
    ∀ {cs : List (List NodeExecutionResult)}, (∀ c ∈ cs, c ≠ []) →
      ∀ c ∈ place g threshold kept r cs, c ≠ []
  | [], _ => by simp [place]
  | c :: cs, h => by
      unfold place
      split
      · simp only [List.mem_cons, forall_eq_or_imp]
        exact ⟨by simp, fun d hd => h d (List.mem_cons_of_mem _ hd)⟩
      · simp only [List.mem_cons, forall_eq_or_imp]
        exact ⟨h c (List.mem_cons_self _ _),
          ne_nil_of_mem_place r (fun d hd => h d (List.mem_cons_of_mem _ hd))⟩

/-- The loop invariant of `_cluster`: the clusters so far are non-empty and hold
the results seen so far. -/
theorem foldl_place (rs : List NodeExecutionResult) :
    ∀ acc : List (List NodeExecutionResult), (∀ c ∈ acc, c ≠ []) →
      (∀ c ∈ rs.foldl (fun cs r => place g threshold kept r cs) acc, c ≠ []) ∧
      List.Perm (rs.foldl (fun cs r => place g threshold kept r cs) acc).flatten
        (acc.flatten ++ rs) := by
  induction rs with
  | nil =>
      intro acc h
      simpa using h
  | cons r rs ih =>
      intro acc h
      obtain ⟨h1, h2⟩ := ih _ (ne_nil_of_mem_place r h)
      refine ⟨h1, h2.trans ?_⟩
      simpa using (flatten_place_perm r acc).append_right rs

theorem flatten_cluster_perm : List.Perm (cluster g threshold kept).flatten kept := by
  simpa using (@foldl_place g threshold kept kept [] (by simp)).2

theorem ne_nil_of_mem_cluster {c : List NodeExecutionResult} (h : c ∈ cluster g threshold kept) :
    c ≠ [] :=
  (@foldl_place g threshold kept kept [] (by simp)).1 c h

theorem mem_of_mem_cluster {c : List NodeExecutionResult} {r : NodeExecutionResult}
    (hc : c ∈ cluster g threshold kept) (hr : r ∈ c) : r ∈ kept :=
  flatten_cluster_perm.subset (List.mem_flatten.2 ⟨c, hc, hr⟩)

theorem cluster_ne_nil (h : kept ≠ []) : cluster g threshold kept ≠ [] := by
  intro hc
  have := (@flatten_cluster_perm g threshold kept).length_eq
  simp [hc] at this
  exact h (List.length_eq_zero.1 this.symm)

end Clusters

/-! ## The verdict -/

section Verdict

variable (g : Geometry) (threshold : ℚ)

theorem verify_of_keep_eq_nil {results : List NodeExecutionResult} (expected : ℕ)
    (h : keep results = []) :
    verify g threshold results expected = ⟨.failed, none, 0, .noSuccessfulResults⟩ := by
  simp [verify, h, cluster, sortClusters]

/-- The verdict of a non-empty kept list, in terms of its winning cluster. -/
theorem verify_winner {results : List NodeExecutionResult} (expected : ℕ)
    (h : keep results ≠ []) :
    ∃ winner ∈ cluster g threshold (keep results), winner ≠ [] ∧
      (verify g threshold results expected).mergedOutput =
        winner.head?.bind NodeExecutionResult.output ∧
      (verify g threshold results expected).details.majorityNodes =
        (fromKeys (winner.map NodeExecutionResult.nodeId)).insertionSort (· ≤ ·) ∧
      ((verify g threshold results expected).status ≠ .failed →
        majorityRequired (population expected (keep results).length) ≤ winner.length) := by
  obtain ⟨winner, rest, hs⟩ : ∃ winner rest,
      sortClusters (cluster g threshold (keep results)) = winner :: rest := by
    cases hc : sortClusters (cluster g threshold (keep results)) with
    | nil =>
        have := List.perm_insertionSort (fun a b : List NodeExecutionResult => b.length ≤ a.length)
          (cluster g threshold (keep results))
        rw [sortClusters] at hc
        rw [hc] at this
        exact absurd this.symm.eq_nil (cluster_ne_nil h)
    | cons winner rest => exact ⟨winner, rest, rfl⟩
  have hmem : winner ∈ cluster g threshold (keep results) :=
    (List.perm_insertionSort _ _).subset (by rw [← sortClusters, hs]; exact List.mem_cons_self _ _)
  refine ⟨winner, hmem, ne_nil_of_mem_cluster hmem, ?_, ?_, ?_⟩
  · simp [verify, hs]
  · simp [verify, hs, VerificationDetails.majorityNodes]
  · simp only [verify, hs]
    split_ifs with h1 h2
    · exact fun _ => h1.1
    · exact fun _ => h2
    · exact fun h3 => absurd rfl h3

/-- The verdict is `verified`, `mismatch` or `failed`. -/
theorem verify_status {results : List NodeExecutionResult} (expected : ℕ) :
    (verify g threshold results expected).status = .verified ∨
      (verify g threshold results expected).status = .mismatch ∨
      (verify g threshold results expected).status = .failed := by
  simp only [verify]
  split
  · simp
  · split_ifs <;> simp

theorem isSuccessful_output {r : NodeExecutionResult} (h : r.isSuccessful) :
    ∃ o, r.output = some o ∧ o ≠ "" := by
  simp only [NodeExecutionResult.isSuccessful, Bool.and_eq_true, bne_iff_ne, ne_eq] at h
  cases ho : r.output with
  | none => simp [ho] at h
  | some o => exact ⟨o, rfl, by simpa [ho] using h.2⟩

/-- A verdict other than `failed` merges the non-empty output of a kept result. -/
theorem verify_mergedOutput {results : List NodeExecutionResult} (expected : ℕ)
    (h : (verify g threshold results expected).status ≠ .failed) :
    ∃ o, (verify g threshold results expected).mergedOutput = some o ∧ o ≠ "" := by
  by_cases hk : keep results = []
  · exact absurd (by rw [verify_of_keep_eq_nil g threshold expected hk]) h
  obtain ⟨winner, hmem, hne, hmerged, -⟩ := verify_winner g threshold expected hk
  obtain ⟨r, rest, rfl⟩ := List.exists_cons_of_ne_nil hne
  have hr : (keep results).Mem r := mem_of_mem_cluster hmem (List.mem_cons_self _ _)
  obtain ⟨o, ho, hno⟩ := isSuccessful_output (List.of_mem_filter hr)
  exact ⟨o, by simp [hmerged, ho], hno⟩

theorem min_lt_two_mul_majorityRequired (expected kept : ℕ) :
    min expected kept < 2 * majorityRequired (population expected kept) := by
  unfold majorityRequired population
  split_ifs <;> omega

/-- A verdict other than `failed` names as its majority distinct nodes of kept
results, more than half of `min(expected, |kept|)`. -/
theorem verify_majorityNodes {results : List NodeExecutionResult} (expected : ℕ)
    (hnd : ((keep results).map NodeExecutionResult.nodeId).Nodup)
    (h : (verify g threshold results expected).status ≠ .failed) :
    (verify g threshold results expected).details.majorityNodes.Nodup ∧
      (verify g threshold results expected).details.majorityNodes ⊆
        (keep results).map NodeExecutionResult.nodeId ∧
      min expected (keep results).length <
        2 * (verify g threshold results expected).details.majorityNodes.length := by
  by_cases hk : keep results = []
  · exact absurd (by rw [verify_of_keep_eq_nil g threshold expected hk]) h
  obtain ⟨winner, hmem, -, -, hM, hreq⟩ := verify_winner g threshold expected hk
  have hsub := (List.sublist_flatten_of_mem hmem).map NodeExecutionResult.nodeId
  have hperm := (@flatten_cluster_perm g threshold (keep results)).map NodeExecutionResult.nodeId
  have hw : (winner.map NodeExecutionResult.nodeId).Nodup := (hperm.nodup_iff.2 hnd).sublist hsub
  have hsort := List.perm_insertionSort (· ≤ ·) (winner.map NodeExecutionResult.nodeId)
  rw [hM, fromKeys_eq_self hw]
  refine ⟨hsort.nodup_iff.2 hw, fun x hx => hperm.subset (hsub.subset (hsort.subset hx)), ?_⟩
  rw [hsort.length_eq, List.length_map]
  exact lt_of_lt_of_le (min_lt_two_mul_majorityRequired expected _) (by have := hreq h; omega)

end Verdict

end Verifier
end Hyperlooms
