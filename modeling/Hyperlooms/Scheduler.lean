import Hyperlooms.Model

/-!
# The weighted scheduler

`WeightedScheduler` (`app/services/scheduler.py`) filters the nodes that can
take a job and ranks them by a weighted score.

**Filter.** A node is a candidate when it is not offline, not excluded, and has
the capacity the job's model needs (`hasCapacity`): the required VRAM is the
parameter count parsed from the model name (the leftmost match of
`(?P<size>\d+)(?:\.\d+)?b`, default 13) times `0.7` times a token factor,
rounded to two places and clamped to `[4, 80]`.

**Score.** Seven clamped terms weighted `0.14, 0.28, 0.22, 0.11, 0.07, 0.10,
0.08`: availability, trust, VRAM headroom, load headroom, latency, region
affinity (from a static round-trip table) and model-cache warmth.

**Order.** `sorted(candidates, key=score, reverse=True)` is a stable sort by
descending score; `List.insertionSort` with `score b ≤ score a` is the same
sort.

**Results.** `mem_rankNodes` says exactly which nodes are ranked;
`rankNodes_singleton` reduces the one-node ranking that `_target_replicas`
uses to the filter.  `scoreNode_monotone`: of two nodes that differ only in
trust, used VRAM, load and status, the more trusted, less loaded, healthier one
scores at least as high, has capacity whenever the other has, and is ranked
whenever the other is, ahead of it when it scores higher.
-/

namespace Hyperlooms
namespace Scheduler

/-! ## Parsing the model size -/

/-- Whether `(?:\.\d+)?b` matches at the start of the text that follows a
maximal run of digits. -/
def sizeSuffixMatches : List Char → Bool
  | 'b' :: _ => true
  | '.' :: rest =>
      match rest.span isDigit with
      | (_ :: _, 'b' :: _) => true
      | _ => false
  | _ => false

/-- `MODEL_SIZE_REGEX.search(name).group("size")`: scanning from the left, the
first position where a digit run followed by `(?:\.\d+)?b` starts. -/
def modelSizeMatch : List Char → Option (List Char)
  | [] => none
  | c :: cs =>
      if isDigit c ∧ sizeSuffixMatches (cs.dropWhile isDigit) then
        some (c :: cs.takeWhile isDigit)
      else
        modelSizeMatch cs

/-- `parameter_hint_b`: the parsed size, or `13.0`. -/
def parameterHintB (model : String) : ℚ :=
  match modelSizeMatch (pyLower model).data with
  | some ds => digitsValue ds
  | none => 13

/-- `estimate_required_vram_gb`. -/
def estimateRequiredVramGb (cfg : JobConfig) : ℚ :=
  let tokenFactor := min 2 (max 0.4 ((cfg.maxTokens : ℚ) / 2048))
  let required := parameterHintB cfg.model * 0.7 * tokenFactor
  max 4 (min 80 (pyRound required 2))

/-! ## Filter and score -/

/-- `_has_capacity`. -/
def hasCapacity (n : Node) (cfg : JobConfig) : Bool :=
  let required := estimateRequiredVramGb cfg
  if n.vramTotalGb < required * 0.75 then false
  else decide (max 2 (required * 0.3) ≤ n.freeVramGb)

/-- `_free_vram_ratio`. -/
def freeVramRatio (n : Node) (cfg : JobConfig) : ℚ :=
  let required := estimateRequiredVramGb cfg
  if n.vramTotalGb ≤ 0 then 0
  else min 1 (max 0 (n.freeVramGb - required * 0.2) / n.vramTotalGb)

/-- `_latency_score`. -/
def latencyScore (latencyMs : ℚ) : ℚ :=
  if latencyMs ≤ 0 then 0.75
  else if 1600 ≤ latencyMs then 0.1
  else max 0.1 (1 - latencyMs / 1700)

/-- `REGION_RTT_MS`. -/
def regionRttMs : List ((String × String) × ℕ) :=
  [(("us-east-1", "us-east-1"), 8), (("us-east-1", "us-east-2"), 14),
   (("us-east-1", "us-west-2"), 68), (("us-east-1", "eu-west-1"), 84),
   (("us-east-1", "ap-south-1"), 195), (("us-west-2", "us-west-2"), 9),
   (("us-west-2", "us-east-1"), 68), (("us-west-2", "eu-west-1"), 152),
   (("eu-west-1", "eu-west-1"), 10), (("eu-west-1", "us-east-1"), 84),
   (("eu-west-1", "ap-south-1"), 130), (("ap-south-1", "ap-south-1"), 12),
   (("ap-south-1", "us-east-1"), 195)]

/-- `_region_affinity_score`. -/
def regionAffinityScore (nodeRegion : String) (preferred : Option String) : ℚ :=
  match preferred with
  | none => 0.7
  | some p =>
      if p = "" then 0.7
      else
        let left := pyLower (pyStrip p)
        let right := pyLower (pyStrip nodeRegion)
        if left = "" ∨ right = "" then 0.45
        else if left = right then 1
        else
          let rtt := ((Dict.get regionRttMs (left, right)).getD
            ((Dict.get regionRttMs (right, left)).getD 220) : ℚ)
          max 0.15 (min 1 (1 - rtt / 280))

/-- `_model_cache_score`. -/
def modelCacheScore (n : Node) (cfg : JobConfig) : ℚ :=
  let model := pyLower (pyStrip cfg.model)
  if model = "" then 0.4
  else
    let cached := n.modelCache.map (fun item => pyLower (pyStrip item))
    if model ∈ cached then 1
    else
      let family : String := ⟨(model.data.takeWhile (· ≠ ':')).takeWhile (· ≠ '-')⟩
      if cached.any (fun item => startsWith item family) then 0.72 else 0.25

/-- `score_node`. -/
def scoreNode (n : Node) (cfg : JobConfig) : ℚ :=
  let availability : ℚ := if n.status = .healthy then 1 else 0.65
  let loadHeadroom := max 0 (1 - min 1 ((n.jobsRunning : ℚ) / 6))
  availability * 0.14 + n.trustScore * 0.28 + freeVramRatio n cfg * 0.22 +
    loadHeadroom * 0.11 + latencyScore n.latencyMsAvg * 0.07 +
    regionAffinityScore n.region cfg.preferredRegion * 0.10 + modelCacheScore n cfg * 0.08

/-! ## Ranking -/

/-- The candidate filter of `rank_nodes`. -/
def isCandidate (cfg : JobConfig) (exclude : List String) (n : Node) : Bool :=
  n.status ≠ .offline ∧ n.id ∉ exclude ∧ hasCapacity n cfg

/-- `rank_nodes(nodes, job_config, exclude_node_ids)`. -/
def rankNodes (nodes : List Node) (cfg : JobConfig) (exclude : List String := []) : List Node :=
  (nodes.filter (isCandidate cfg exclude)).insertionSort
    (fun a b => scoreNode b cfg ≤ scoreNode a cfg)

/-- `select_nodes(nodes, job_config, replicas)`. -/
def selectNodes (nodes : List Node) (cfg : JobConfig) (replicas : ℕ) : List Node :=
  (rankNodes nodes cfg).take replicas

theorem mem_rankNodes {nodes : List Node} {cfg : JobConfig} {exclude : List String} {n : Node} :
    n ∈ rankNodes nodes cfg exclude ↔ n ∈ nodes ∧ isCandidate cfg exclude n := by
  simp [rankNodes, List.mem_insertionSort]

theorem length_rankNodes (nodes : List Node) (cfg : JobConfig) (exclude : List String) :
    (rankNodes nodes cfg exclude).length = (nodes.filter (isCandidate cfg exclude)).length :=
  List.length_insertionSort _ _

/-- The one-node ranking `rank_nodes([node], config)` is non-empty exactly when
the node passes the filter. -/
theorem rankNodes_singleton (n : Node) (cfg : JobConfig) :
    rankNodes [n] cfg ≠ [] ↔ isCandidate cfg [] n := by
  rw [← List.length_pos, length_rankNodes]
  by_cases h : isCandidate cfg [] n <;> simp [h]

/-! ## Monotonicity -/

section Monotone

variable {A B : Node} (cfg : JobConfig)

theorem freeVramGb_le (htotal : A.vramTotalGb = B.vramTotalGb)
    (hused : A.vramUsedGb ≤ B.vramUsedGb) : B.freeVramGb ≤ A.freeVramGb := by
  unfold Node.freeVramGb
  rw [htotal]
  exact max_le_max le_rfl (by linarith)

theorem freeVramRatio_le (htotal : A.vramTotalGb = B.vramTotalGb)
    (hfree : B.freeVramGb ≤ A.freeVramGb) : freeVramRatio B cfg ≤ freeVramRatio A cfg := by
  unfold freeVramRatio
  rw [htotal]
  split_ifs with h
  · exact le_rfl
  · exact min_le_min le_rfl
      (div_le_div_of_nonneg_right (max_le_max le_rfl (by linarith)) (le_of_not_le h))

theorem hasCapacity_of_le (htotal : A.vramTotalGb = B.vramTotalGb)
    (hfree : B.freeVramGb ≤ A.freeVramGb) (h : hasCapacity B cfg = true) :
    hasCapacity A cfg = true := by
  unfold hasCapacity at h ⊢
  dsimp only at h ⊢
  rw [htotal]
  split_ifs at h ⊢
  simp only [decide_eq_true_eq] at h ⊢
  exact h.trans hfree

/-- Each of the seven terms is at least as large for `A`; the trust term is the
only one weighted by `0.28`. -/
theorem scoreNode_le_add (htotal : A.vramTotalGb = B.vramTotalGb)
    (hlat : A.latencyMsAvg = B.latencyMsAvg) (hreg : A.region = B.region)
    (hcache : A.modelCache = B.modelCache) (hused : A.vramUsedGb ≤ B.vramUsedGb)
    (hjobs : A.jobsRunning ≤ B.jobsRunning) (havail : A.status = .healthy ∨ B.status = .busy) :
    scoreNode B cfg + A.trustScore * 0.28 ≤ scoreNode A cfg + B.trustScore * 0.28 := by
  have hvram := freeVramRatio_le cfg htotal (freeVramGb_le htotal hused)
  have hload : max 0 (1 - min 1 ((B.jobsRunning : ℚ) / 6)) ≤
      max 0 (1 - min 1 ((A.jobsRunning : ℚ) / 6)) :=
    max_le_max le_rfl (sub_le_sub_left (min_le_min le_rfl
      (div_le_div_of_nonneg_right (by exact_mod_cast hjobs) (by norm_num))) 1)
  have havl : (if B.status = .healthy then (1 : ℚ) else 0.65) ≤
      if A.status = .healthy then 1 else 0.65 := by
    rcases havail with h | h <;> simp [h] <;> split_ifs <;> norm_num
  have hcs : modelCacheScore A cfg = modelCacheScore B cfg := by
    simp only [modelCacheScore, hcache]
  unfold scoreNode
  rw [hlat, hreg, hcs]
  linarith

end Monotone

/-- In a list sorted by `R`, a member `a` comes before a member `b` that may not
precede it. -/
theorem sublist_pair_of_pairwise {α : Type} {R : α → α → Prop} {a b : α} :
    ∀ {l : List α}, l.Pairwise R → a ∈ l → b ∈ l → ¬ R b a → a ≠ b → [a, b].Sublist l
  | [], _, ha, _, _, _ => absurd ha (List.not_mem_nil _)
  | x :: l, hp, ha, hb, hba, hab => by
      rw [List.pairwise_cons] at hp
      rcases List.mem_cons.1 ha with rfl | ha'
      · exact (List.singleton_sublist.2 ((List.mem_cons.1 hb).resolve_left (Ne.symm hab))).cons₂ _
      · rcases List.mem_cons.1 hb with rfl | hb'
        · exact absurd (hp.1 a ha') hba
        · exact (sublist_pair_of_pairwise hp.2 ha' hb' hba hab).cons _

/-- Two nodes that agree on total VRAM, latency, region and model cache, where
`A` is at least as trusted, uses no more VRAM, runs no more jobs, and is healthy
or `B` busy: `A` scores at least as high as `B`, and higher when it is more
trusted; `A` has capacity whenever `B` has; and in every ranking of a node list
holding `A`, that ranks `B` and does not exclude `A`, a non-offline `A` is
ranked, ahead of `B` when it scores higher. -/
theorem scoreNode_monotone (cfg : JobConfig) (nodes : List Node) (exclude : List String)
    (A B : Node) (hA : A.status ≠ .offline) (htotal : A.vramTotalGb = B.vramTotalGb)
    (hlat : A.latencyMsAvg = B.latencyMsAvg) (hreg : A.region = B.region)
    (hcache : A.modelCache = B.modelCache) (htrust : B.trustScore ≤ A.trustScore)
    (hused : A.vramUsedGb ≤ B.vramUsedGb) (hjobs : A.jobsRunning ≤ B.jobsRunning)
    (havail : A.status = .healthy ∨ B.status = .busy) :
    scoreNode B cfg ≤ scoreNode A cfg ∧
      (B.trustScore < A.trustScore → scoreNode B cfg < scoreNode A cfg) ∧
      (hasCapacity B cfg = true → hasCapacity A cfg = true) ∧
      (A ∈ nodes → A.id ∉ exclude → B ∈ rankNodes nodes cfg exclude →
        A ∈ rankNodes nodes cfg exclude ∧
          (scoreNode B cfg < scoreNode A cfg → [A, B].Sublist (rankNodes nodes cfg exclude))) := by
  have hsum := scoreNode_le_add cfg htotal hlat hreg hcache hused hjobs havail
  have hcap := hasCapacity_of_le cfg htotal (freeVramGb_le htotal hused)
  refine ⟨by linarith, fun h => by linarith, hcap, fun hmem hex hB => ?_⟩
  have hBc := (mem_rankNodes.1 hB).2
  simp only [isCandidate, decide_eq_true_eq] at hBc
  have hAr : A ∈ rankNodes nodes cfg exclude :=
    mem_rankNodes.2 ⟨hmem, by simpa [isCandidate, hA, hex] using hcap hBc.2.2⟩
  refine ⟨hAr, fun hlt => @sublist_pair_of_pairwise Node
    (fun a b => scoreNode b cfg ≤ scoreNode a cfg) A B _ ?_ hAr hB (not_le.2 hlt) ?_⟩
  · haveI : IsTotal Node (fun a b => scoreNode b cfg ≤ scoreNode a cfg) :=
      ⟨fun _ _ => le_total _ _⟩
    haveI : IsTrans Node (fun a b => scoreNode b cfg ≤ scoreNode a cfg) :=
      ⟨fun _ _ _ h₁ h₂ => h₂.trans h₁⟩
    exact List.sorted_insertionSort _ _
  · rintro rfl
    exact lt_irrefl _ hlt

/-- A healthy, idle node. -/
def idleNode : Node :=
  { id := "a", gpu := "NVIDIA A10", vramTotalGb := 24, trustScore := 0.95 }

/-- The same GPU, busy with one job, less trusted. -/
def loadedNode : Node :=
  { id := "b", gpu := "NVIDIA A10", vramTotalGb := 24, vramUsedGb := 4, status := .busy,
    trustScore := 0.9, jobsRunning := 1 }

/-- A one-replica job of a small model. -/
def smallJob : JobConfig :=
  { model := "tiny-1b", replicas := 1 }

theorem scoreNode_monotone_idle :
    (idleNode.status ≠ .offline ∧ idleNode.vramTotalGb = loadedNode.vramTotalGb ∧
      idleNode.latencyMsAvg = loadedNode.latencyMsAvg ∧ idleNode.region = loadedNode.region ∧
      idleNode.modelCache = loadedNode.modelCache ∧ loadedNode.trustScore ≤ idleNode.trustScore ∧
      idleNode.vramUsedGb ≤ loadedNode.vramUsedGb ∧
      idleNode.jobsRunning ≤ loadedNode.jobsRunning ∧
      (idleNode.status = .healthy ∨ loadedNode.status = .busy)) ∧
    scoreNode loadedNode smallJob ≤ scoreNode idleNode smallJob ∧
      (loadedNode.trustScore < idleNode.trustScore →
        scoreNode loadedNode smallJob < scoreNode idleNode smallJob) ∧
      (hasCapacity loadedNode smallJob = true → hasCapacity idleNode smallJob = true) ∧
      (idleNode ∈ [loadedNode, idleNode] → idleNode.id ∉ ([] : List String) →
        loadedNode ∈ rankNodes [loadedNode, idleNode] smallJob [] →
        idleNode ∈ rankNodes [loadedNode, idleNode] smallJob [] ∧
          (scoreNode loadedNode smallJob < scoreNode idleNode smallJob →
            [idleNode, loadedNode].Sublist (rankNodes [loadedNode, idleNode] smallJob []))) :=
  have htrust : loadedNode.trustScore ≤ idleNode.trustScore := by
    simp only [loadedNode, idleNode]; norm_num
  have hused : idleNode.vramUsedGb ≤ loadedNode.vramUsedGb := by
    simp only [loadedNode, idleNode]; norm_num
  ⟨⟨by decide, rfl, rfl, rfl, rfl, htrust, hused, by decide, .inl rfl⟩,
    scoreNode_monotone smallJob [loadedNode, idleNode] [] idleNode loadedNode (by decide) rfl rfl
      rfl rfl htrust hused (by decide) (.inl rfl)⟩

end Scheduler
end Hyperlooms
