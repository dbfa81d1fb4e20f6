import Hyperlooms.Training.Store
import Hyperlooms.NodeAuth.Json

/-!
# The lifecycle of a training run

**Invariant.**  `StoreOk`: run ids are distinct and each row sits under its own
id, every checkpoint names a stored run, and each row is `RowOk` and agrees
with its checkpoint log (`RunOk`).  `RowOk` is the lifecycle: no run is
`failed`, a queued or running run is below its target epochs, a completed one
has reached it, `completed_at` is set exactly on completed and cancelled runs,
`error` exactly on cancelled ones, and a running run has started.

**Results.**
* `training_rows_ok`: every row of every store a history reaches is `RowOk`.
* `run_progress_of_log`: the epoch, metrics and best checkpoint of every row
  are the fold of its checkpoint log (`progressOf`): the highest epoch, the last
  metric reported, the last checkpoint's uri, whatever the run's status.
* `final_status_kept`: once completed or cancelled, a run keeps its status and
  `completed_at` along every later history.
* `tick_raises_only_checkpoint_collision`: a tick from a reachable store builds
  only valid checkpoint requests and finds every run it lists, so the only
  exception it can raise is the `IntegrityError` of a checkpoint id taken.
* `progressPct_of_status`: `progress_pct` is `100` on a completed run and below
  `100` on a queued or running one.
* `queued_run_completed_unstarted`: a checkpoint at the target epoch completes a
  queued run that never started.
* `run_completed_after_ticksLeft`: ticks that raise nothing complete a run that
  is not cancelled after exactly `ticksLeft` of them, one to start it and one
  per epoch left; each tick takes one off every row (`StoreOk.ticks_advanced`).
-/

namespace Hyperlooms
namespace Training

open TrainingStore

/-! ## The progress columns as a fold of the checkpoint log -/

/-- The columns of a run row that its checkpoints write. -/
structure Progress where
  currentEpoch : ℕ
  trainLoss : Option ℚ
  valLoss : Option ℚ
  evalScore : Option ℚ
  bestCheckpointUri : Option String
  deriving DecidableEq, Repr

/-- The progress columns of a row. -/
def TrainingRun.progress (row : TrainingRun) : Progress :=
  ⟨row.currentEpoch, row.trainLoss, row.valLoss, row.evalScore, row.bestCheckpointUri⟩

/-- One checkpoint on the progress: the highest epoch so far, the metrics it
reports, its uri. -/
def Progress.record (p : Progress) (c : TrainingCheckpoint) : Progress :=
  ⟨max p.currentEpoch c.epoch, c.trainLoss.or p.trainLoss, c.valLoss.or p.valLoss,
    c.evalScore.or p.evalScore, some c.checkpointUri⟩

/-- The progress a checkpoint log describes, from a new run's. -/
def progressOf (log : List TrainingCheckpoint) : Progress :=
  log.foldl Progress.record ⟨0, none, none, none, none⟩

theorem progressOf_append_singleton (log : List TrainingCheckpoint) (c : TrainingCheckpoint) :
    progressOf (log ++ [c]) = (progressOf log).record c := by
  simp [progressOf]

/-! ## Each row -/

/-- The lifecycle facts of one run row, and the bounds a tick's checkpoint
request needs. -/
structure RowOk (row : TrainingRun) : Prop where
  target_ge : 1 ≤ row.targetEpochs
  target_le : row.targetEpochs ≤ 200
  artifact_le : row.artifactId.length ≤ 64
  runId_le : row.runId.length ≤ 16
  not_failed : row.status ≠ .failed
  active : row.status.isFinal = false → row.currentEpoch < row.targetEpochs
  completed : row.status = .completed → row.targetEpochs ≤ row.currentEpoch
  completedAt : row.completedAt.isSome ↔ (row.status = .completed ∨ row.status = .cancelled)
  error : row.error = if row.status = .cancelled then some "Cancelled by operator" else none
  started : row.status = .running → row.startedAt.isSome
  unstarted : row.status = .queued → row.startedAt = none
  eval_nonneg : ∀ e ∈ row.evalScore, 0 ≤ e

theorem isFinal_eq_false {st : TrainingStatus} :
    st.isFinal = false ↔ st = .queued ∨ st = .running := by
  cases st <;> simp [TrainingStatus.isFinal]

theorem rowOk_newRun (payload : TrainingRunCreateRequest) (uuidHex : String) (now : ℤ) :
    RowOk (newRun payload uuidHex now) where
  target_ge := payload.target_ge
  target_le := payload.target_le
  artifact_le := payload.artifact_le
  runId_le := by
    simp only [newRun, String.length_append, String.length_mk]
    exact Nat.add_le_add (le_refl 4) (List.length_take_le _ _)
  not_failed := by simp [newRun]
  active _ := payload.target_ge
  completed h := by simp [newRun] at h
  completedAt := by simp [newRun]
  error := by simp [newRun]
  started h := by simp [newRun] at h
  unstarted _ := rfl
  eval_nonneg e he := by simp [newRun] at he

theorem RowOk.started_run {row : TrainingRun} (h : RowOk row) (hq : row.status = .queued) (now : ℤ) :
    RowOk { row with status := .running, startedAt := some now, error := none, updatedAt := now } where
  target_ge := h.target_ge
  target_le := h.target_le
  artifact_le := h.artifact_le
  runId_le := h.runId_le
  not_failed := by simp
  active _ := h.active (by simp [hq, TrainingStatus.isFinal])
  completed h := by simp at h
  completedAt := by have := h.completedAt; simp_all
  error := by simp
  started _ := rfl
  unstarted h := by simp at h
  eval_nonneg := h.eval_nonneg

theorem RowOk.cancelled_run {row : TrainingRun} (h : RowOk row) (now : ℤ) :
    RowOk { row with
      status := .cancelled, completedAt := some now, error := some "Cancelled by operator",
      updatedAt := now } where
  target_ge := h.target_ge
  target_le := h.target_le
  artifact_le := h.artifact_le
  runId_le := h.runId_le
  not_failed := by simp
  active h := by simp [TrainingStatus.isFinal] at h
  completed h := by simp at h
  completedAt := by simp
  error := by simp
  started h := by simp at h
  unstarted h := by simp at h
  eval_nonneg := h.eval_nonneg

/-- The row `append_training_checkpoint` leaves: the checkpoint recorded, then
completed when the run reached its target epochs and was neither completed nor
cancelled. -/
def TrainingRun.afterCheckpoint (row : TrainingRun) (c : TrainingCheckpoint) (now : ℤ) :
    TrainingRun :=
  let r := recordCheckpoint row c now
  if r.targetEpochs ≤ r.currentEpoch ∧ r.status ≠ .completed ∧ r.status ≠ .cancelled then
    { r with
      status := .completed, completedAt := some now, bestCheckpointUri := some c.checkpointUri,
      updatedAt := now }
  else r

/-- The row a tick leaves for a running run after its checkpoint. -/
def TrainingRun.ticked (run : TrainingRun) (c : TrainingCheckpoint) (now : ℤ) : TrainingRun :=
  { run.tickUpdate c now (recordCheckpoint run c now) with updatedAt := now }

section Ticked

variable (run : TrainingRun) (c : TrainingCheckpoint) (now : ℤ)

@[simp] theorem ticked_status : (run.ticked c now).status =
    if run.targetEpochs ≤ run.nextEpoch then .completed else .running := rfl
@[simp] theorem ticked_targetEpochs : (run.ticked c now).targetEpochs = run.targetEpochs := rfl
@[simp] theorem ticked_currentEpoch : (run.ticked c now).currentEpoch = run.nextEpoch := rfl
@[simp] theorem ticked_startedAt : (run.ticked c now).startedAt = run.startedAt := rfl
@[simp] theorem ticked_error : (run.ticked c now).error = run.error := rfl
@[simp] theorem ticked_completedAt : (run.ticked c now).completedAt =
    if run.targetEpochs ≤ run.nextEpoch then some now else none := by
  by_cases h : run.targetEpochs ≤ run.nextEpoch <;> simp [TrainingRun.ticked, TrainingRun.tickUpdate, h]

end Ticked

theorem progress_afterCheckpoint (row : TrainingRun) (c : TrainingCheckpoint) (now : ℤ) :
    (row.afterCheckpoint c now).progress = row.progress.record c := by
  dsimp only [TrainingRun.afterCheckpoint]
  split_ifs <;> rfl

theorem nextEpoch_of_lt {run : TrainingRun} (h : run.currentEpoch < run.targetEpochs) :
    run.nextEpoch = run.currentEpoch + 1 := by
  unfold TrainingRun.nextEpoch
  omega

theorem progress_ticked {run : TrainingRun} (h : run.currentEpoch < run.targetEpochs)
    {c : TrainingCheckpoint} (he : c.epoch = run.nextEpoch) (ht : c.trainLoss.isSome)
    (hv : c.valLoss.isSome) (hs : c.evalScore.isSome) (now : ℤ) :
    (run.ticked c now).progress = run.progress.record c := by
  obtain ⟨t, ht⟩ := Option.isSome_iff_exists.1 ht
  obtain ⟨v, hv⟩ := Option.isSome_iff_exists.1 hv
  obtain ⟨e, hs⟩ := Option.isSome_iff_exists.1 hs
  simp only [TrainingRun.ticked, TrainingRun.tickUpdate, TrainingRun.progress, Progress.record, ht, hv,
    hs, he, nextEpoch_of_lt h, Option.or_some]
  congr 1
  omega

theorem RowOk.afterCheckpoint {row : TrainingRun} (h : RowOk row) {c : TrainingCheckpoint}
    (hc : ∀ e ∈ c.evalScore, 0 ≤ e) (now : ℤ) : RowOk (row.afterCheckpoint c now) := by
  have heval : ∀ e ∈ c.evalScore.or row.evalScore, 0 ≤ e := by
    cases hce : c.evalScore with
    | none => simpa using h.eval_nonneg
    | some e => simpa [hce] using hc
  dsimp only [TrainingRun.afterCheckpoint]
  split_ifs with hdone
  · obtain ⟨hle, -, hncan⟩ := hdone
    have herr : row.error = none := by
      rw [h.error, if_neg (show row.status ≠ .cancelled from hncan)]
    exact
      { target_ge := h.target_ge, target_le := h.target_le, artifact_le := h.artifact_le,
        runId_le := h.runId_le, not_failed := by simp, active := by simp [TrainingStatus.isFinal],
        completed := fun _ => hle, completedAt := by simp, error := by simpa using herr,
        started := by simp, unstarted := by simp, eval_nonneg := heval }
  · exact
      { target_ge := h.target_ge, target_le := h.target_le, artifact_le := h.artifact_le,
        runId_le := h.runId_le, not_failed := h.not_failed,
        active := fun hf => by
          have hs : row.status ≠ .completed ∧ row.status ≠ .cancelled := by
            rcases isFinal_eq_false.1 (show row.status.isFinal = false from hf) with hs | hs <;>
              rw [hs] <;> decide
          exact not_le.1 fun hle => hdone ⟨hle, hs⟩
        completed := fun hs => le_max_of_le_left (h.completed hs),
        completedAt := h.completedAt, error := h.error, started := h.started,
        unstarted := h.unstarted, eval_nonneg := heval }

theorem RowOk.ticked {run : TrainingRun} (h : RowOk run) (hr : run.status = .running)
    {c : TrainingCheckpoint} (hc : ∀ e ∈ c.evalScore, 0 ≤ e) (now : ℤ) : RowOk (run.ticked c now) := by
  have hlt : run.currentEpoch < run.targetEpochs := h.active (by simp [hr, TrainingStatus.isFinal])
  have hnext := nextEpoch_of_lt hlt
  have herr : run.error = none := by simpa [hr] using h.error
  by_cases hdone : run.targetEpochs ≤ run.nextEpoch
  · exact
      { target_ge := h.target_ge, target_le := h.target_le, artifact_le := h.artifact_le,
        runId_le := h.runId_le, not_failed := by simp [hdone],
        active := by simp [hdone, TrainingStatus.isFinal], completed := fun _ => by simpa using hdone,
        completedAt := by simp [hdone], error := by simp [hdone, herr], started := by simp [hdone],
        unstarted := by simp [hdone], eval_nonneg := hc }
  · exact
      { target_ge := h.target_ge, target_le := h.target_le, artifact_le := h.artifact_le,
        runId_le := h.runId_le, not_failed := by simp [hdone],
        active := fun _ => by simpa using hdone, completed := by simp [hdone],
        completedAt := by simp [hdone], error := by simp [hdone, herr],
        started := fun _ => by simpa using h.started hr, unstarted := by simp [hdone],
        eval_nonneg := hc }

/-! ## The store -/

/-- What a reachable store keeps of the row under key `k`, given the
checkpoint table `log`. -/
structure RunOk (log : List TrainingCheckpoint) (k : String) (row : TrainingRun) : Prop where
  runId_eq : row.runId = k
  row_ok : RowOk row
  progress_eq : row.progress = progressOf (log.filter (fun c => c.runId = k))

/-- The invariant of the two tables. -/
structure StoreOk (s : TrainingStore) : Prop where
  nodup : (Dict.keys s.runs).Nodup
  run_ok : ∀ {k : String} {row : TrainingRun}, Dict.get s.runs k = some row →
    RunOk s.checkpoints k row
  checkpoint_run : ∀ c ∈ s.checkpoints, c.runId ∈ Dict.keys s.runs

theorem storeOk_empty : StoreOk {} where
  nodup := List.nodup_nil
  run_ok h := by simp [Dict.get] at h
  checkpoint_run _ h := absurd h (List.not_mem_nil _)

/-- A row replaced by one with the same id and progress, and no checkpoint
added. -/
theorem StoreOk.set_row {s : TrainingStore} (h : StoreOk s) {k : String} {row new : TrainingRun}
    (hg : Dict.get s.runs k = some row) (hid : new.runId = row.runId) (hok : RowOk new)
    (hp : new.progress = row.progress) : StoreOk { s with runs := Dict.set s.runs k new } where
  nodup := Dict.nodup_keys_set h.nodup k new
  run_ok {j r} hj := by
    rw [Dict.get_set] at hj
    split_ifs at hj with hjk
    · cases hj
      subst hjk
      have hr := h.run_ok hg
      exact ⟨hid.trans hr.runId_eq, hok, hp.trans hr.progress_eq⟩
    · exact h.run_ok hj
  checkpoint_run c hc := (Dict.mem_keys_set _ _ _ _).2 (.inr (h.checkpoint_run c hc))

/-- A row replaced after a checkpoint of its run was added. -/
theorem StoreOk.set_checkpoint {s : TrainingStore} (h : StoreOk s) {k : String}
    {row new : TrainingRun} {c : TrainingCheckpoint} (hg : Dict.get s.runs k = some row)
    (hc : c.runId = k) (hid : new.runId = row.runId) (hok : RowOk new)
    (hp : new.progress = row.progress.record c) :
    StoreOk { runs := Dict.set s.runs k new, checkpoints := s.checkpoints ++ [c] } where
  nodup := Dict.nodup_keys_set h.nodup k new
  run_ok {j r} hj := by
    simp only [Dict.get_set] at hj
    split_ifs at hj with hjk
    · cases hj
      subst hjk
      have hr := h.run_ok hg
      refine ⟨hid.trans hr.runId_eq, hok, ?_⟩
      rw [List.filter_append, show [c].filter (fun c => decide (c.runId = j)) = [c] by simp [hc],
        progressOf_append_singleton, ← hr.progress_eq, hp]
    · have hr := h.run_ok hj
      refine ⟨hr.runId_eq, hr.row_ok, ?_⟩
      rw [List.filter_append, show [c].filter (fun c => decide (c.runId = j)) = [] by
        simp [hc, Ne.symm hjk], List.append_nil]
      exact hr.progress_eq
  checkpoint_run d hd := by
    rw [Dict.mem_keys_set]
    rcases List.mem_append.1 hd with hd | hd
    · exact .inr (h.checkpoint_run d hd)
    · exact .inl ((List.mem_singleton.1 hd).symm ▸ hc)

/-- A new row under a fresh key, with the progress of an empty log. -/
theorem StoreOk.insert {s : TrainingStore} (h : StoreOk s) {k : String} {new : TrainingRun}
    (hk : k ∉ Dict.keys s.runs) (hid : new.runId = k) (hok : RowOk new)
    (hp : new.progress = progressOf []) : StoreOk { s with runs := s.runs ++ [(k, new)] } := by
  rw [← Dict.set_of_not_mem hk]
  refine ⟨Dict.nodup_keys_set h.nodup k new, fun {j r} hj => ?_, fun c hc =>
    (Dict.mem_keys_set _ _ _ _).2 (.inr (h.checkpoint_run c hc))⟩
  rw [Dict.get_set] at hj
  split_ifs at hj with hjk
  · cases hj
    subst hjk
    refine ⟨hid, hok, ?_⟩
    rw [List.filter_eq_nil_iff.2 fun c hc => by
      simpa using fun e : c.runId = j => hk (e ▸ h.checkpoint_run c hc)]
    exact hp
  · exact h.run_ok hj

/-! ## What each call does -/

theorem all_iff_forall_mem {α : Type} {o : Option α} {p : α → Prop} [DecidablePred p] :
    o.all (fun x => decide (p x)) = true ↔ ∀ x ∈ o, p x := by
  cases o <;> simp

theorem eval_mem_of_valid (p : TrainingCheckpointCreateRequest) : ∀ e ∈ p.evalScore, 0 ≤ e := by
  have hv := p.valid
  simp only [CheckpointFields.invalidFields, List.append_eq_nil, ite_eq_left_iff, List.cons_ne_nil,
    imp_false, not_not] at hv
  exact fun e he => (all_iff_forall_mem.1 hv.1.2 e he).1

theorem updateTrainingRun_of_get {s : TrainingStore} {runId : String} {row : TrainingRun}
    (hg : Dict.get s.runs runId = some row) (f : TrainingRun → TrainingRun) (now : ℤ) :
    s.updateTrainingRun runId f now =
      ({ s with runs := Dict.set s.runs runId { f row with updatedAt := now } },
        .ok { f row with updatedAt := now }) := by
  unfold updateTrainingRun
  rw [hg]

section CreateCheckpoint

variable {s : TrainingStore} {runId : String} (payload : TrainingCheckpointCreateRequest)
  (uuidHex : String) (now : ℤ)

theorem createCheckpoint_of_none (hg : Dict.get s.runs runId = none) :
    s.createCheckpoint runId payload uuidHex now = (s, .error (runNotFound runId)) := by
  unfold createCheckpoint
  rw [hg]

theorem createCheckpoint_of_taken {row : TrainingRun} (hg : Dict.get s.runs runId = some row)
    (ht : (newCheckpoint runId payload uuidHex now).checkpointId ∈
      s.checkpoints.map TrainingCheckpoint.checkpointId) :
    s.createCheckpoint runId payload uuidHex now =
      (s, .error (.integrityError "training_checkpoints.checkpoint_id")) := by
  unfold createCheckpoint
  rw [hg]
  exact if_pos ht

theorem createCheckpoint_of_fresh {row : TrainingRun} (hg : Dict.get s.runs runId = some row)
    (ht : (newCheckpoint runId payload uuidHex now).checkpointId ∉
      s.checkpoints.map TrainingCheckpoint.checkpointId) :
    s.createCheckpoint runId payload uuidHex now =
      ({ runs := Dict.set s.runs runId
          (recordCheckpoint row (newCheckpoint runId payload uuidHex now) now),
         checkpoints := s.checkpoints ++ [newCheckpoint runId payload uuidHex now] },
        .ok (newCheckpoint runId payload uuidHex now)) := by
  unfold createCheckpoint
  rw [hg]
  exact if_neg ht

theorem appendTrainingCheckpoint_of_fresh {row : TrainingRun} (hg : Dict.get s.runs runId = some row)
    (ht : (newCheckpoint runId payload uuidHex now).checkpointId ∉
      s.checkpoints.map TrainingCheckpoint.checkpointId) :
    s.appendTrainingCheckpoint runId payload uuidHex now =
      ({ runs := Dict.set s.runs runId
          (row.afterCheckpoint (newCheckpoint runId payload uuidHex now) now),
         checkpoints := s.checkpoints ++ [newCheckpoint runId payload uuidHex now] },
        .ok (newCheckpoint runId payload uuidHex now)) := by
  unfold appendTrainingCheckpoint
  rw [createCheckpoint_of_fresh payload uuidHex now hg ht]
  dsimp only
  rw [Dict.get_set, if_pos rfl]
  dsimp only [TrainingRun.afterCheckpoint]
  split_ifs
  · rw [updateTrainingRun_of_get (by rw [Dict.get_set, if_pos rfl])]
    simp only [Dict.set_set]
  · rfl

theorem appendTrainingCheckpoint_of_error {e : TrainingError}
    (he : (s.createCheckpoint runId payload uuidHex now).2 = .error e) :
    s.appendTrainingCheckpoint runId payload uuidHex now = (s, .error e) := by
  unfold appendTrainingCheckpoint
  cases hg : Dict.get s.runs runId with
  | none =>
      rw [createCheckpoint_of_none payload uuidHex now hg] at he ⊢
      cases he
      rfl
  | some row =>
      by_cases ht : (newCheckpoint runId payload uuidHex now).checkpointId ∈
          s.checkpoints.map TrainingCheckpoint.checkpointId
      · rw [createCheckpoint_of_taken payload uuidHex now hg ht] at he ⊢
        cases he
        rfl
      · rw [createCheckpoint_of_fresh payload uuidHex now hg ht] at he
        cases he

end CreateCheckpoint

theorem cancelTrainingRun_of_active {s : TrainingStore} {runId : String} {row : TrainingRun}
    (hg : Dict.get s.runs runId = some row) (hf : row.status.isFinal = false) (now : ℤ) :
    (s.cancelTrainingRun runId now).1 =
      { s with runs := Dict.set s.runs runId { row with
          status := .cancelled, completedAt := some now, error := some "Cancelled by operator",
          updatedAt := now } } := by
  unfold cancelTrainingRun
  rw [hg]
  dsimp only
  rw [if_neg (by simp [hf]), updateTrainingRun_of_get hg]

theorem cancelTrainingRun_of_final {s : TrainingStore} {runId : String} {row : TrainingRun}
    (hg : Dict.get s.runs runId = some row) (hf : row.status.isFinal = true) (now : ℤ) :
    s.cancelTrainingRun runId now = (s, .ok row) := by
  unfold cancelTrainingRun
  rw [hg]
  exact if_pos hf

theorem cancelTrainingRun_of_none {s : TrainingStore} {runId : String}
    (hg : Dict.get s.runs runId = none) (now : ℤ) :
    s.cancelTrainingRun runId now = (s, .error (runNotFound runId)) := by
  unfold cancelTrainingRun
  rw [hg]

theorem invalidFields_eq_nil {p : CheckpointFields} (he : 1 ≤ p.epoch ∧ p.epoch ≤ 2000)
    (ht : ∀ t ∈ p.trainLoss, 0 ≤ t) (hv : ∀ t ∈ p.valLoss, 0 ≤ t)
    (hs : ∀ e ∈ p.evalScore, 0 ≤ e ∧ e ≤ 1)
    (hu : 8 ≤ p.checkpointUri.length ∧ p.checkpointUri.length ≤ 2048) : p.invalidFields = [] := by
  rw [CheckpointFields.invalidFields, if_pos he, if_pos (all_iff_forall_mem.2 ht),
    if_pos (all_iff_forall_mem.2 hv), if_pos (all_iff_forall_mem.2 hs), if_pos hu]
  rfl

/-- A tick's checkpoint request for a row of a reachable store is valid: the
epoch is between `1` and the target, at most `200`, the losses are at least
`0.01`, the score is in `[0, 0.99]`, and the uri has the artifact, run and
epoch in it. -/
theorem tickFields_invalidFields {run : TrainingRun} (h : RowOk run) (d : Draw) :
    (run.tickFields d).invalidFields = [] := by
  have hepoch : 1 ≤ run.nextEpoch ∧ run.nextEpoch ≤ 200 := by
    unfold TrainingRun.nextEpoch
    have := h.target_ge
    have := h.target_le
    omega
  have hpad : (pad03 run.nextEpoch).length ≤ 3 := by
    have := NodeAuth.length_toString_le (n := run.nextEpoch) (k := 3) (by norm_num)
      (lt_of_le_of_lt hepoch.2 (by norm_num))
    simp only [pad03, String.length_append, String.length_mk, List.length_replicate]
    omega
  have heval0 : 0 ≤ pyOr run.evalScore 0.42 := by
    cases he : run.evalScore with
    | none => norm_num [pyOr]
    | some e =>
        have := h.eval_nonneg e he
        simp only [pyOr]
        split_ifs
        · norm_num
        · exact this
  have hround : 0 ≤ pyRound (pyOr run.evalScore 0.42 + 0.03 + d.forEval * 0.04) 4 := by
    have hx : (0 : ℚ) ≤ (pyOr run.evalScore 0.42 + 0.03 + d.forEval * 0.04) * 10 ^ 4 := by
      have := d.eval_nonneg
      positivity
    simpa using (pyRound_mem_Icc (a := 0) (by simpa using hx) (Int.le_ceil _)).1
  have huri := h.artifact_le
  have hrun := h.runId_le
  apply invalidFields_eq_nil
  · exact ⟨hepoch.1, hepoch.2.trans (by norm_num)⟩
  · intro t ht
    cases ht
    exact le_max_of_le_left (by norm_num)
  · intro t ht
    cases ht
    exact le_max_of_le_left (by norm_num)
  · intro e he
    cases he
    exact ⟨le_min (by norm_num) hround, (min_le_left _ _).trans (by norm_num)⟩
  · simp only [TrainingRun.tickFields, String.length_append,
      show "/runs/".length = 6 from rfl, show "/epoch-".length = 7 from rfl,
      show ".ckpt".length = 5 from rfl]
    omega

theorem validate_tickFields {run : TrainingRun} (h : RowOk run) (d : Draw) :
    (run.tickFields d).validate = .ok ⟨run.tickFields d, tickFields_invalidFields h d⟩ :=
  dif_pos (tickFields_invalidFields h d)

section TickRun

variable {s : TrainingStore} {run : TrainingRun} (d : Draw) (uuidHex : String) (now : ℤ)

theorem tickRun_of_final (hf : run.status.isFinal = true) : s.tickRun run d uuidHex now = (s, .ok none) :=
  if_pos hf

theorem tickRun_of_queued (hg : Dict.get s.runs run.runId = some run) (hq : run.status = .queued) :
    (s.tickRun run d uuidHex now).1 =
        { s with
          runs := Dict.set s.runs run.runId
            { run with status := .running, startedAt := some now, error := none, updatedAt := now } } ∧
      (s.tickRun run d uuidHex now).2.isOk := by
  unfold TrainingStore.tickRun
  rw [if_neg (by simp [hq, TrainingStatus.isFinal]), if_pos hq, updateTrainingRun_of_get hg]
  exact ⟨rfl, rfl⟩

theorem tickRun_of_running (hg : Dict.get s.runs run.runId = some run) (hr : run.status = .running)
    {payload : TrainingCheckpointCreateRequest} (hv : (run.tickFields d).validate = .ok payload) :
    s.tickRun run d uuidHex now =
      if (newCheckpoint run.runId payload uuidHex now).checkpointId ∈
          s.checkpoints.map TrainingCheckpoint.checkpointId then
        (s, .error (.integrityError "training_checkpoints.checkpoint_id"))
      else
        ({ runs := Dict.set s.runs run.runId (run.ticked (newCheckpoint run.runId payload uuidHex now) now),
           checkpoints := s.checkpoints ++ [newCheckpoint run.runId payload uuidHex now] },
          .ok (some (run.ticked (newCheckpoint run.runId payload uuidHex now) now))) := by
  unfold TrainingStore.tickRun
  rw [if_neg (by simp [hr, TrainingStatus.isFinal]), if_neg (by simp [hr]), hv]
  dsimp only
  split_ifs with ht
  · rw [createCheckpoint_of_taken payload uuidHex now hg ht]
  · rw [createCheckpoint_of_fresh payload uuidHex now hg ht]
    dsimp only
    rw [updateTrainingRun_of_get (by rw [Dict.get_set, if_pos rfl]), Dict.set_set]
    rfl

end TickRun

/-- One pass of a tick from a store that is `StoreOk`, on a listed run that is
the row under its id: the store stays `StoreOk`, the only exception is a
checkpoint id taken, other rows are untouched, and a final row is untouched. -/
theorem StoreOk.tickRun {s : TrainingStore} (h : StoreOk s) {run : TrainingRun}
    (hg : Dict.get s.runs run.runId = some run) (d : Draw) (uuidHex : String) (now : ℤ) :
    StoreOk (s.tickRun run d uuidHex now).1 ∧
      (∀ e, (s.tickRun run d uuidHex now).2 = .error e →
        e = .integrityError "training_checkpoints.checkpoint_id") ∧
      (∀ k, k ≠ run.runId → Dict.get (s.tickRun run d uuidHex now).1.runs k = Dict.get s.runs k) ∧
      (run.status.isFinal = true → (s.tickRun run d uuidHex now).1 = s) := by
  have hrow := (h.run_ok hg).row_ok
  cases hf : run.status.isFinal
  · rcases isFinal_eq_false.1 hf with hq | hr
    · obtain ⟨hs, hok⟩ := tickRun_of_queued d uuidHex now hg hq
      refine ⟨hs ▸ h.set_row hg rfl (hrow.started_run hq now) rfl, fun e he => ?_,
        fun k hk => by rw [hs, Dict.get_set, if_neg hk], fun h => by cases h⟩
      rw [he] at hok
      cases hok
    · rw [tickRun_of_running d uuidHex now hg hr (validate_tickFields hrow d)]
      split_ifs with ht
      · exact ⟨h, fun e he => (by cases he; rfl), fun _ _ => rfl, fun _ => rfl⟩
      · refine ⟨h.set_checkpoint hg rfl rfl (hrow.ticked hr (eval_mem_of_valid _) now)
          (progress_ticked (hrow.active hf) (by rfl) (by rfl) (by rfl) (by rfl) now), ?_, ?_, ?_⟩
        · intro e he
          cases he
        · intro k hk
          simp only [Dict.get_set, if_neg hk]
        · intro h
          cases h
  · rw [tickRun_of_final d uuidHex now hf]
    exact ⟨h, fun e he => (by cases he), fun _ _ => rfl, fun _ => rfl⟩

/-- The loop of a tick over runs that are the rows under their distinct ids:
the store stays `StoreOk`, the only exception is a checkpoint id taken, and
final rows are untouched. -/
theorem storeOk_tickRuns (draw : String → Draw) (uuidHex : String → String) (now : ℤ) :
    ∀ (L : List TrainingRun) {s : TrainingStore} (updated : List TrainingRun), StoreOk s →
      (∀ r ∈ L, Dict.get s.runs r.runId = some r) → (L.map TrainingRun.runId).Nodup →
      StoreOk (tickRuns draw uuidHex now s L updated).1 ∧
        (∀ e, (tickRuns draw uuidHex now s L updated).2 = .error e →
          e = .integrityError "training_checkpoints.checkpoint_id") ∧
        (∀ k row, Dict.get s.runs k = some row → row.status.isFinal = true →
          Dict.get (tickRuns draw uuidHex now s L updated).1.runs k = some row)
  | [], _, _, h, _, _ => ⟨h, fun e he => (by cases he), fun _ _ hk _ => hk⟩
  | run :: L, s, updated, h, hL, hnd => by
      have hg := hL run (List.mem_cons_self _ _)
      obtain ⟨hok, herr, hframe, hfinal⟩ := h.tickRun hg (draw run.runId) (uuidHex run.runId) now
      have hne : ∀ r ∈ L, r.runId ≠ run.runId := fun r hr e =>
        (List.nodup_cons.1 hnd).1 (e ▸ List.mem_map_of_mem _ hr)
      have hL' : ∀ r ∈ L, Dict.get (s.tickRun run (draw run.runId) (uuidHex run.runId) now).1.runs
          r.runId = some r := fun r hr => by
        rw [hframe _ (hne r hr)]
        exact hL r (List.mem_cons_of_mem _ hr)
      have hkeep : ∀ k row, Dict.get s.runs k = some row → row.status.isFinal = true →
          Dict.get (s.tickRun run (draw run.runId) (uuidHex run.runId) now).1.runs k = some row := by
        intro k row hk hf
        by_cases hkr : k = run.runId
        · subst hkr
          rw [hg] at hk
          cases hk
          rw [hfinal hf]
          exact hg
        · rw [hframe k hkr]
          exact hk
      unfold tickRuns
      rcases hres : s.tickRun run (draw run.runId) (uuidHex run.runId) now with ⟨s', _ | _ | r⟩
      all_goals rw [hres] at hok herr hL' hkeep; dsimp only at hok herr hL' hkeep ⊢
      · exact ⟨hok, fun e he => by cases he; exact herr _ rfl, hkeep⟩
      · obtain ⟨h1, h2, h3⟩ :=
          storeOk_tickRuns draw uuidHex now L updated hok hL' (List.nodup_cons.1 hnd).2
        exact ⟨h1, h2, fun k row hk hf => h3 k row (hkeep k row hk hf) hf⟩
      · obtain ⟨h1, h2, h3⟩ :=
          storeOk_tickRuns draw uuidHex now L (updated ++ [r]) hok hL' (List.nodup_cons.1 hnd).2
        exact ⟨h1, h2, fun k row hk hf => h3 k row (hkeep k row hk hf) hf⟩

/-- Every listed run is the row under its id, and the listed ids are distinct. -/
theorem StoreOk.listTrainingRuns {s : TrainingStore} (h : StoreOk s) :
    (∀ r ∈ s.listTrainingRuns, Dict.get s.runs r.runId = some r) ∧
      (s.listTrainingRuns.map TrainingRun.runId).Nodup := by
  have hmem : ∀ x ∈ s.runs, x.2.runId = x.1 := fun x hx =>
    (h.run_ok (Dict.get_of_mem h.nodup hx)).runId_eq
  have hperm := List.perm_insertionSort (fun a b : TrainingRun => b.createdAt ≤ a.createdAt)
    (s.runs.map Prod.snd)
  refine ⟨fun r hr => ?_, ?_⟩
  · obtain ⟨x, hx, rfl⟩ := List.mem_map.1 (hperm.subset hr)
    rw [hmem x hx]
    exact Dict.get_of_mem h.nodup hx
  · have hkeys : (s.runs.map Prod.snd).map TrainingRun.runId = Dict.keys s.runs := by
      rw [List.map_map, Dict.keys]
      exact List.map_congr_left hmem
    exact (hperm.map TrainingRun.runId).nodup_iff.2 (hkeys ▸ h.nodup)

theorem StoreOk.tickTrainingRuns {s : TrainingStore} (h : StoreOk s) (draw : String → Draw)
    (uuidHex : String → String) (now : ℤ) :
    StoreOk (s.tickTrainingRuns draw uuidHex now).1 ∧
      (∀ e, (s.tickTrainingRuns draw uuidHex now).2 = .error e →
        e = .integrityError "training_checkpoints.checkpoint_id") ∧
      (∀ k row, Dict.get s.runs k = some row → row.status.isFinal = true →
        Dict.get (s.tickTrainingRuns draw uuidHex now).1.runs k = some row) :=
  storeOk_tickRuns draw uuidHex now _ [] h h.listTrainingRuns.1 h.listTrainingRuns.2

/-! ## Every call keeps the invariant -/

theorem runId_afterCheckpoint (row : TrainingRun) (c : TrainingCheckpoint) (now : ℤ) :
    (row.afterCheckpoint c now).runId = row.runId := by
  dsimp only [TrainingRun.afterCheckpoint]
  split_ifs <;> rfl

theorem StoreOk.createTrainingRun {s : TrainingStore} (h : StoreOk s)
    (payload : TrainingRunCreateRequest) (uuidHex : String) (now : ℤ) :
    StoreOk (s.createTrainingRun payload uuidHex now).1 := by
  unfold TrainingStore.createTrainingRun
  dsimp only
  split_ifs with hk
  · exact h
  · exact h.insert hk rfl (rowOk_newRun payload uuidHex now) rfl

theorem StoreOk.appendTrainingCheckpoint {s : TrainingStore} (h : StoreOk s) (runId : String)
    (payload : TrainingCheckpointCreateRequest) (uuidHex : String) (now : ℤ) :
    StoreOk (s.appendTrainingCheckpoint runId payload uuidHex now).1 := by
  cases hg : Dict.get s.runs runId with
  | none =>
      rw [appendTrainingCheckpoint_of_error payload uuidHex now (e := runNotFound runId)
        (by rw [createCheckpoint_of_none payload uuidHex now hg])]
      exact h
  | some row =>
      by_cases ht : (newCheckpoint runId payload uuidHex now).checkpointId ∈
          s.checkpoints.map TrainingCheckpoint.checkpointId
      · rw [appendTrainingCheckpoint_of_error payload uuidHex now
          (by rw [createCheckpoint_of_taken payload uuidHex now hg ht])]
        exact h
      · rw [appendTrainingCheckpoint_of_fresh payload uuidHex now hg ht]
        exact h.set_checkpoint hg rfl (runId_afterCheckpoint _ _ _)
          ((h.run_ok hg).row_ok.afterCheckpoint (eval_mem_of_valid payload) now)
          (progress_afterCheckpoint _ _ _)

theorem StoreOk.cancelTrainingRun {s : TrainingStore} (h : StoreOk s) (runId : String) (now : ℤ) :
    StoreOk (s.cancelTrainingRun runId now).1 := by
  cases hg : Dict.get s.runs runId with
  | none =>
      rw [cancelTrainingRun_of_none hg]
      exact h
  | some row =>
      cases hf : row.status.isFinal
      · rw [cancelTrainingRun_of_active hg hf]
        exact h.set_row hg rfl ((h.run_ok hg).row_ok.cancelled_run now) rfl
      · rw [cancelTrainingRun_of_final hg hf]
        exact h

/-- The step lemma: every call keeps the store `StoreOk`. -/
theorem StoreOk.apply {s : TrainingStore} (h : StoreOk s) : ∀ op : TrainingOp, StoreOk (op.apply s)
  | .createTrainingRun payload uuidHex now => h.createTrainingRun payload uuidHex now
  | .appendTrainingCheckpoint runId payload uuidHex now =>
      h.appendTrainingCheckpoint runId payload uuidHex now
  | .cancelTrainingRun runId now => h.cancelTrainingRun runId now
  | .tickTrainingRuns draw uuidHex now => (h.tickTrainingRuns draw uuidHex now).1

theorem StoreOk.run {s : TrainingStore} (h : StoreOk s) (ops : List TrainingOp) : StoreOk (s.run ops) := by
  induction ops generalizing s with
  | nil => exact h
  | cons op ops ih => exact ih (h.apply op)

theorem storeOk_run (ops : List TrainingOp) : StoreOk (({} : TrainingStore).run ops) :=
  storeOk_empty.run ops

/-! ## Final runs stay final -/

/-- `s'` keeps every completed or cancelled row of `s`, with its status and
`completed_at`. -/
def KeepsFinal (s s' : TrainingStore) : Prop :=
  ∀ k row, Dict.get s.runs k = some row → (row.status = .completed ∨ row.status = .cancelled) →
    ∃ row', Dict.get s'.runs k = some row' ∧ row'.status = row.status ∧
      row'.completedAt = row.completedAt

theorem KeepsFinal.refl (s : TrainingStore) : KeepsFinal s s :=
  fun _ row hg _ => ⟨row, hg, rfl, rfl⟩

theorem KeepsFinal.trans {s₁ s₂ s₃ : TrainingStore} (h₁ : KeepsFinal s₁ s₂) (h₂ : KeepsFinal s₂ s₃) :
    KeepsFinal s₁ s₃ := fun k row hg hf => by
  obtain ⟨row', hg', hs, hc⟩ := h₁ k row hg hf
  obtain ⟨row'', hg'', hs', hc'⟩ := h₂ k row' hg' (hs ▸ hf)
  exact ⟨row'', hg'', hs'.trans hs, hc'.trans hc⟩

theorem isFinal_of_done {st : TrainingStatus} (h : st = .completed ∨ st = .cancelled) :
    st.isFinal = true := by
  rcases h with rfl | rfl <;> rfl

/-- A row replaced at a key whose row is not final, or by one with the same
status and `completed_at`. -/
theorem keepsFinal_set {s : TrainingStore} {runId : String} {row new : TrainingRun}
    (hg : Dict.get s.runs runId = some row)
    (hnew : row.status.isFinal = true → new.status = row.status ∧ new.completedAt = row.completedAt)
    (cps : List TrainingCheckpoint) :
    KeepsFinal s { runs := Dict.set s.runs runId new, checkpoints := cps } := by
  intro k r hk hf
  by_cases hkr : k = runId
  · subst hkr
    rw [hg] at hk
    cases hk
    obtain ⟨hs, hc⟩ := hnew (isFinal_of_done hf)
    exact ⟨new, by simp, hs, hc⟩
  · exact ⟨r, by simpa [hkr] using hk, rfl, rfl⟩

theorem StoreOk.keepsFinal_apply {s : TrainingStore} (h : StoreOk s) :
    ∀ op : TrainingOp, KeepsFinal s (op.apply s)
  | .createTrainingRun payload uuidHex now => by
      simp only [TrainingOp.apply, TrainingStore.createTrainingRun]
      split_ifs with hk
      · exact .refl s
      · intro k r hr _
        refine ⟨r, ?_, rfl, rfl⟩
        rw [← Dict.set_of_not_mem hk, Dict.get_set, if_neg]
        · exact hr
        · rintro rfl
          exact hk ((Dict.isSome_get_iff _ _).1 (by simp [hr]))
  | .appendTrainingCheckpoint runId payload uuidHex now => by
      simp only [TrainingOp.apply]
      cases hg : Dict.get s.runs runId with
      | none =>
          rw [appendTrainingCheckpoint_of_error payload uuidHex now (e := runNotFound runId)
            (by rw [createCheckpoint_of_none payload uuidHex now hg])]
          exact .refl s
      | some row =>
          by_cases ht : (newCheckpoint runId payload uuidHex now).checkpointId ∈
              s.checkpoints.map TrainingCheckpoint.checkpointId
          · rw [appendTrainingCheckpoint_of_error payload uuidHex now
              (by rw [createCheckpoint_of_taken payload uuidHex now hg ht])]
            exact .refl s
          · rw [appendTrainingCheckpoint_of_fresh payload uuidHex now hg ht]
            refine keepsFinal_set hg (fun hf => ?_) _
            have hdone : row.status = .completed ∨ row.status = .cancelled := by
              have := (h.run_ok hg).row_ok.not_failed
              cases hs : row.status <;> simp_all [TrainingStatus.isFinal]
            dsimp only [TrainingRun.afterCheckpoint]
            rw [if_neg (by simp only [recordCheckpoint_status]; tauto)]
            exact ⟨rfl, rfl⟩
  | .cancelTrainingRun runId now => by
      simp only [TrainingOp.apply]
      cases hg : Dict.get s.runs runId with
      | none =>
          rw [cancelTrainingRun_of_none hg]
          exact .refl s
      | some row =>
          cases hf : row.status.isFinal
          · rw [cancelTrainingRun_of_active hg hf]
            exact keepsFinal_set hg (fun h => by rw [hf] at h; cases h) _
          · rw [cancelTrainingRun_of_final hg hf]
            exact .refl s
  | .tickTrainingRuns draw uuidHex now => fun k row hg hf =>
      ⟨row, (h.tickTrainingRuns draw uuidHex now).2.2 k row hg (isFinal_of_done hf), rfl, rfl⟩

theorem StoreOk.keepsFinal_run {s : TrainingStore} (h : StoreOk s) (ops : List TrainingOp) :
    KeepsFinal s (s.run ops) := by
  induction ops generalizing s with
  | nil => exact .refl s
  | cons op ops ih => exact (h.keepsFinal_apply op).trans (ih (h.apply op))

/-! ## Ticks complete every run -/

/-- The successful ticks a run still needs to be completed: one to start it
while queued, then one per epoch left to its target. -/
def TrainingRun.ticksLeft (run : TrainingRun) : ℕ :=
  match run.status with
  | .queued => run.targetEpochs - run.currentEpoch + 1
  | .running => run.targetEpochs - run.currentEpoch
  | _ => 0

/-- What a tick that raises nothing does to a row: one tick fewer is left,
and the row is cancelled exactly when it was. -/
def Advanced (run run' : TrainingRun) : Prop :=
  run'.ticksLeft = run.ticksLeft - 1 ∧ (run'.status = .cancelled ↔ run.status = .cancelled)

theorem ticksLeft_of_final {run : TrainingRun} (hf : run.status.isFinal = true) :
    run.ticksLeft = 0 := by
  unfold TrainingRun.ticksLeft
  split <;> simp_all [TrainingStatus.isFinal]

/-- A row that is not cancelled is completed exactly when no tick is left. -/
theorem RowOk.completed_iff {row : TrainingRun} (h : RowOk row) (hc : row.status ≠ .cancelled) :
    row.status = .completed ↔ row.ticksLeft = 0 := by
  have hnf := h.not_failed
  have hlt := @RowOk.active row h
  unfold TrainingRun.ticksLeft
  cases hs : row.status <;> simp_all [TrainingStatus.isFinal]
  omega

/-- One pass of a tick that raises nothing advances its run. -/
theorem StoreOk.tickRun_advanced {s : TrainingStore} (h : StoreOk s) {run : TrainingRun}
    (hg : Dict.get s.runs run.runId = some run) (d : Draw) (uuidHex : String) (now : ℤ)
    (hok : (s.tickRun run d uuidHex now).2.isOk) :
    ∃ run', Dict.get (s.tickRun run d uuidHex now).1.runs run.runId = some run' ∧
      Advanced run run' := by
  have hrow := (h.run_ok hg).row_ok
  cases hf : run.status.isFinal
  · rcases isFinal_eq_false.1 hf with hq | hr
    · rw [(tickRun_of_queued d uuidHex now hg hq).1]
      refine ⟨_, by rw [Dict.get_set, if_pos rfl], ?_⟩
      simp [Advanced, TrainingRun.ticksLeft, hq]
    · have hnext := nextEpoch_of_lt (hrow.active hf)
      rw [tickRun_of_running d uuidHex now hg hr (validate_tickFields hrow d)] at hok ⊢
      split_ifs at hok ⊢
      · cases hok
      · refine ⟨_, by rw [Dict.get_set, if_pos rfl], ?_⟩
        unfold Advanced TrainingRun.ticksLeft
        by_cases hdone : run.targetEpochs ≤ run.nextEpoch <;>
          simp [hdone, hr] <;> omega
  · rw [tickRun_of_final d uuidHex now hf]
    exact ⟨run, hg, by simp [Advanced, ticksLeft_of_final hf]⟩

/-- The loop of a tick leaves the rows of unlisted ids as they were, and when
it raises nothing it has advanced every listed run. -/
theorem tickRuns_advanced (draw : String → Draw) (uuidHex : String → String) (now : ℤ) :
    ∀ (L : List TrainingRun) {s : TrainingStore} (updated : List TrainingRun), StoreOk s →
      (∀ r ∈ L, Dict.get s.runs r.runId = some r) → (L.map TrainingRun.runId).Nodup →
      (∀ k, k ∉ L.map TrainingRun.runId →
          Dict.get (tickRuns draw uuidHex now s L updated).1.runs k = Dict.get s.runs k) ∧
        ((tickRuns draw uuidHex now s L updated).2.isOk → ∀ r ∈ L, ∃ r',
          Dict.get (tickRuns draw uuidHex now s L updated).1.runs r.runId = some r' ∧ Advanced r r')
  | [], _, _, _, _, _ => ⟨fun _ _ => rfl, fun _ r hr => absurd hr (List.not_mem_nil r)⟩
  | run :: L, s, updated, h, hL, hnd => by
      have hg := hL run (List.mem_cons_self _ _)
      obtain ⟨hst, -, hframe, -⟩ := h.tickRun hg (draw run.runId) (uuidHex run.runId) now
      have hadv := h.tickRun_advanced hg (draw run.runId) (uuidHex run.runId) now
      obtain ⟨hnot, hnd'⟩ := List.nodup_cons.1 hnd
      have hL' : ∀ r ∈ L, Dict.get (s.tickRun run (draw run.runId) (uuidHex run.runId) now).1.runs
          r.runId = some r := fun r hr => by
        rw [hframe _ (fun e => hnot (e ▸ List.mem_map_of_mem _ hr))]
        exact hL r (List.mem_cons_of_mem _ hr)
      have hout : ∀ k, k ∉ (run :: L).map TrainingRun.runId → k ∉ L.map TrainingRun.runId ∧
          k ≠ run.runId := fun k hk =>
        ⟨fun hm => hk (List.mem_cons_of_mem _ hm), fun e => hk (e ▸ List.mem_cons_self _ _)⟩
      unfold tickRuns
      rcases hres : s.tickRun run (draw run.runId) (uuidHex run.runId) now with ⟨s', _ | _ | r⟩
      all_goals rw [hres] at hst hframe hadv hL'; dsimp only at hst hframe hadv hL' ⊢
      · exact ⟨fun k hk => hframe k (hout k hk).2, fun hok => by cases hok⟩
      all_goals
        refine ⟨fun k hk => ?_, fun hok r hr => ?_⟩
        · rw [(tickRuns_advanced draw uuidHex now L _ hst hL' hnd').1 k (hout k hk).1]
          exact hframe k (hout k hk).2
        · rcases List.mem_cons.1 hr with rfl | hr
          · rw [(tickRuns_advanced draw uuidHex now L _ hst hL' hnd').1 _ hnot]
            exact hadv rfl
          · exact (tickRuns_advanced draw uuidHex now L _ hst hL' hnd').2 hok r hr

/-- Every row of a `StoreOk` store is listed, under its own id. -/
theorem StoreOk.mem_listTrainingRuns {s : TrainingStore} (h : StoreOk s) {k : String}
    {row : TrainingRun} (hg : Dict.get s.runs k = some row) :
    row ∈ s.listTrainingRuns ∧ row.runId = k :=
  ⟨(List.perm_insertionSort _ _).mem_iff.2 (List.mem_map.2 ⟨(k, row), Dict.mem_of_get hg, rfl⟩),
    (h.run_ok hg).runId_eq⟩

/-- A tick that raises nothing advances every row. -/
theorem StoreOk.tickTrainingRuns_advanced {s : TrainingStore} (h : StoreOk s)
    (draw : String → Draw) (uuidHex : String → String) (now : ℤ)
    (hok : (s.tickTrainingRuns draw uuidHex now).2.isOk) {k : String} {row : TrainingRun}
    (hg : Dict.get s.runs k = some row) :
    ∃ row', Dict.get (s.tickTrainingRuns draw uuidHex now).1.runs k = some row' ∧
      Advanced row row' := by
  obtain ⟨hmem, rfl⟩ := h.mem_listTrainingRuns hg
  exact (tickRuns_advanced draw uuidHex now _ [] h h.listTrainingRuns.1 h.listTrainingRuns.2).2
    hok row hmem

/-- The arguments of one call of `tick_training_runs`: the draws and the
checkpoint ids of each run, and the clock. -/
structure TickArgs where
  draw : String → Draw
  uuidHex : String → String
  now : ℤ

/-- The call of `tick_training_runs` with these arguments. -/
def TickArgs.op (t : TickArgs) : TrainingOp :=
  .tickTrainingRuns t.draw t.uuidHex t.now

/-- Whether the ticks, made one after the other from `s`, all raise nothing. -/
def ticksSucceed : TrainingStore → List TickArgs → Bool
  | _, [] => true
  | s, t :: ts => (s.tickTrainingRuns t.draw t.uuidHex t.now).2.isOk &&
      ticksSucceed (s.tickTrainingRuns t.draw t.uuidHex t.now).1 ts

/-- Ticks that all raise nothing take one tick off every row per tick, and
never cancel a row nor resume a cancelled one. -/
theorem StoreOk.ticks_advanced {s : TrainingStore} (h : StoreOk s) :
    ∀ ticks : List TickArgs, ticksSucceed s ticks → ∀ {k : String} {row : TrainingRun},
      Dict.get s.runs k = some row → ∃ row', Dict.get (s.run (ticks.map TickArgs.op)).runs k = some row' ∧
        row'.ticksLeft = row.ticksLeft - ticks.length ∧
        (row'.status = .cancelled ↔ row.status = .cancelled)
  | [], _, _, row, hg => ⟨row, hg, rfl, Iff.rfl⟩
  | t :: ts, hok, _, _, hg => by
      rw [ticksSucceed, Bool.and_eq_true] at hok
      obtain ⟨row₁, hg₁, hl₁, hc₁⟩ := h.tickTrainingRuns_advanced t.draw t.uuidHex t.now hok.1 hg
      obtain ⟨row', hg', hl', hc'⟩ :=
        (h.tickTrainingRuns t.draw t.uuidHex t.now).1.ticks_advanced ts hok.2 hg₁
      refine ⟨row', hg', ?_, hc'.trans hc₁⟩
      rw [hl', hl₁, List.length_cons]
      omega

/-! ## Results -/

section Results

/-- The draws of a tick that all come out `0`. -/
def zeroDraw : Draw :=
  { forTrain := 0, forVal := 0, forEval := 0 }

/-- A run of `model-a` on `data-a` for three epochs. -/
def threeEpochRequest : TrainingRunCreateRequest :=
  { artifactId := "model-a", datasetId := "data-a", targetEpochs := 3 }

/-- A run of `model-a` on `data-a` for one epoch. -/
def oneEpochRequest : TrainingRunCreateRequest :=
  { artifactId := "model-a", datasetId := "data-a", targetEpochs := 1 }

/-- A checkpoint at epoch `1` with a train loss of `1.5`. -/
def firstCheckpoint : TrainingCheckpointCreateRequest :=
  { epoch := 1, trainLoss := some 1.5, checkpointUri := "s3://runs/epoch-1",
    valid := by with_unfolding_all decide }

/-- A three-epoch run is created at time `1` and gets `firstCheckpoint` at
time `2`. -/
def checkpointHistory : List TrainingOp :=
  [.createTrainingRun threeEpochRequest "000000000001" 1,
   .appendTrainingCheckpoint "run-000000000001" firstCheckpoint "00000000000a" 2]

/-- The row of `run-000000000001` after `checkpointHistory`. -/
def checkpointedRow : TrainingRun :=
  { runId := "run-000000000001", artifactId := "model-a", status := .queued, targetEpochs := 3,
    currentEpoch := 1, trainLoss := some 1.5, bestCheckpointUri := some "s3://runs/epoch-1",
    createdAt := 1, updatedAt := 2 }

theorem get_checkpointHistory :
    Dict.get (({} : TrainingStore).run checkpointHistory).runs "run-000000000001" =
      some checkpointedRow := by
  with_unfolding_all decide

/-- In every store a history of calls reaches from empty tables, every run row
is `RowOk`: never `failed`, below its target epochs while queued or running, at
or past it once completed, `completed_at` set exactly when completed or
cancelled, `error` exactly when cancelled, and started once running. -/
theorem training_rows_ok (ops : List TrainingOp) {k : String} {row : TrainingRun}
    (hg : Dict.get (({} : TrainingStore).run ops).runs k = some row) : RowOk row :=
  ((storeOk_run ops).run_ok hg).row_ok

theorem training_rows_ok_checkpointed :
    Dict.get (({} : TrainingStore).run checkpointHistory).runs "run-000000000001" =
      some checkpointedRow ∧ RowOk checkpointedRow :=
  ⟨get_checkpointHistory, training_rows_ok checkpointHistory get_checkpointHistory⟩

/-- In every store a history reaches, the epoch, the metrics and the best
checkpoint of every run row are those its checkpoint log describes: the
highest epoch, the last metric reported and the last checkpoint's uri,
whatever the run's status (a cancelled or completed run still takes
checkpoints). -/
theorem run_progress_of_log (ops : List TrainingOp) {k : String} {row : TrainingRun}
    (hg : Dict.get (({} : TrainingStore).run ops).runs k = some row) :
    row.progress = progressOf ((({} : TrainingStore).run ops).checkpoints.filter (fun c => c.runId = k)) :=
  ((storeOk_run ops).run_ok hg).progress_eq

theorem run_progress_of_log_checkpointed :
    Dict.get (({} : TrainingStore).run checkpointHistory).runs "run-000000000001" =
      some checkpointedRow ∧
    checkpointedRow.progress = progressOf ((({} : TrainingStore).run checkpointHistory).checkpoints.filter
      (fun c => c.runId = "run-000000000001")) :=
  ⟨get_checkpointHistory, run_progress_of_log checkpointHistory get_checkpointHistory⟩

theorem progressPct_of_rowOk {row : TrainingRun} (h : RowOk row) :
    (row.status = .completed → row.progressPct = 100) ∧
      (row.status.isFinal = false → row.progressPct < 100) := by
  have ht : (0 : ℚ) < row.targetEpochs := by exact_mod_cast h.target_ge
  have hpos : ¬row.targetEpochs ≤ 0 := by have := h.target_ge; omega
  unfold TrainingRun.progressPct
  rw [if_neg hpos]
  constructor
  · intro hc
    have hle : (row.targetEpochs : ℚ) ≤ row.currentEpoch := by exact_mod_cast h.completed hc
    have hx : ((10000 : ℤ) : ℚ) ≤ (row.currentEpoch : ℚ) / row.targetEpochs * 100 * 10 ^ 2 := by
      rw [div_mul_eq_mul_div, div_mul_eq_mul_div, le_div_iff₀ ht]
      push_cast
      linarith
    have := (pyRound_mem_Icc hx (Int.le_ceil _)).1
    norm_num at this
    exact min_eq_left this
  · intro hf
    have hlt := h.active hf
    have hnat : 200 * row.currentEpoch ≤ 199 * row.targetEpochs := by have := h.target_le; omega
    have hq : (200 : ℚ) * row.currentEpoch ≤ 199 * row.targetEpochs := by exact_mod_cast hnat
    have hx : (row.currentEpoch : ℚ) / row.targetEpochs * 100 * 10 ^ 2 ≤ ((9950 : ℤ) : ℚ) := by
      rw [div_mul_eq_mul_div, div_mul_eq_mul_div, div_le_iff₀ ht]
      push_cast
      linarith
    have := (pyRound_mem_Icc (Int.floor_le _) hx).2
    norm_num at this
    exact (min_le_right _ _).trans_lt (this.trans_lt (by norm_num))

/-- In every store a history reaches, `progress_pct` is `100` on a completed
run and below `100` on a queued or running one. -/
theorem progressPct_of_status (ops : List TrainingOp) {k : String} {row : TrainingRun}
    (hg : Dict.get (({} : TrainingStore).run ops).runs k = some row) :
    (row.status = .completed → row.progressPct = 100) ∧
      (row.status.isFinal = false → row.progressPct < 100) :=
  progressPct_of_rowOk ((storeOk_run ops).run_ok hg).row_ok

theorem progressPct_of_status_checkpointed :
    Dict.get (({} : TrainingStore).run checkpointHistory).runs "run-000000000001" =
      some checkpointedRow ∧
    (checkpointedRow.status = .completed → checkpointedRow.progressPct = 100) ∧
      (checkpointedRow.status.isFinal = false → checkpointedRow.progressPct < 100) :=
  ⟨get_checkpointHistory, progressPct_of_status checkpointHistory get_checkpointHistory⟩

/-- Along every history from a store a history reaches, a completed or
cancelled run keeps its status and its `completed_at`. -/
theorem final_status_kept (ops ops' : List TrainingOp) {k : String} {row : TrainingRun}
    (hg : Dict.get (({} : TrainingStore).run ops).runs k = some row)
    (hf : row.status = .completed ∨ row.status = .cancelled) :
    ∃ row', Dict.get (({} : TrainingStore).run (ops ++ ops')).runs k = some row' ∧
      row'.status = row.status ∧ row'.completedAt = row.completedAt := by
  rw [TrainingStore.run, List.foldl_append]
  exact (storeOk_run ops).keepsFinal_run ops' k row hg hf

/-- A one-epoch run is created at time `1` and completed by a checkpoint at
epoch `1` at time `2`, without a tick. -/
def completedHistory : List TrainingOp :=
  [.createTrainingRun oneEpochRequest "000000000001" 1,
   .appendTrainingCheckpoint "run-000000000001" firstCheckpoint "00000000000a" 2]

/-- The row of `run-000000000001` after `completedHistory`. -/
def completedRow : TrainingRun :=
  { runId := "run-000000000001", artifactId := "model-a", status := .completed, targetEpochs := 1,
    currentEpoch := 1, trainLoss := some 1.5, bestCheckpointUri := some "s3://runs/epoch-1",
    createdAt := 1, completedAt := some 2, updatedAt := 2 }

/-- Ticks and a cancel after `completedHistory`. -/
def laterCalls : List TrainingOp :=
  [.tickTrainingRuns (fun _ => zeroDraw) (fun _ => "00000000000b") 3,
   .cancelTrainingRun "run-000000000001" 4]

theorem final_status_kept_completed :
    Dict.get (({} : TrainingStore).run completedHistory).runs "run-000000000001" = some completedRow ∧
      (completedRow.status = .completed ∨ completedRow.status = .cancelled) ∧
      ∃ row', Dict.get (({} : TrainingStore).run (completedHistory ++ laterCalls)).runs
          "run-000000000001" = some row' ∧
        row'.status = completedRow.status ∧ row'.completedAt = completedRow.completedAt :=
  have hg : Dict.get (({} : TrainingStore).run completedHistory).runs "run-000000000001" =
      some completedRow := by
    with_unfolding_all decide
  ⟨hg, .inl rfl, final_status_kept completedHistory laterCalls hg (.inl rfl)⟩

/-- In every store a history reaches, a tick raises nothing but the
`IntegrityError` of a checkpoint id already taken: its checkpoint requests are
valid and every run it lists is found. -/
theorem tick_raises_only_checkpoint_collision (ops : List TrainingOp) (draw : String → Draw)
    (uuidHex : String → String) (now : ℤ) {e : TrainingError}
    (he : ((({} : TrainingStore).run ops).tickTrainingRuns draw uuidHex now).2 = .error e) :
    e = .integrityError "training_checkpoints.checkpoint_id" :=
  ((storeOk_run ops).tickTrainingRuns draw uuidHex now).2.1 e he

/-- A three-epoch run is created, started by a tick, and given `firstCheckpoint`
under the checkpoint id `ckpt-00000000000a`. -/
def runningHistory : List TrainingOp :=
  [.createTrainingRun threeEpochRequest "000000000001" 1,
   .tickTrainingRuns (fun _ => zeroDraw) (fun _ => "00000000000b") 2,
   .appendTrainingCheckpoint "run-000000000001" firstCheckpoint "00000000000a" 3]

theorem tick_raises_only_checkpoint_collision_reused :
    ((({} : TrainingStore).run runningHistory).tickTrainingRuns
        (fun _ => zeroDraw) (fun _ => "00000000000a") 4).2 =
      .error (.integrityError "training_checkpoints.checkpoint_id") ∧
    TrainingError.integrityError "training_checkpoints.checkpoint_id" =
      .integrityError "training_checkpoints.checkpoint_id" :=
  have he : ((({} : TrainingStore).run runningHistory).tickTrainingRuns
      (fun _ => zeroDraw) (fun _ => "00000000000a") 4).2 =
        .error (.integrityError "training_checkpoints.checkpoint_id") := by
    with_unfolding_all rfl
  ⟨he, tick_raises_only_checkpoint_collision runningHistory _ _ 4 he⟩

/-- In every store a history reaches, a checkpoint at or past the target epochs
of a queued run, under a fresh id, completes the run although it never
started: `started_at` stays `None`. -/
theorem queued_run_completed_unstarted (ops : List TrainingOp) {k : String} {row : TrainingRun}
    (hg : Dict.get (({} : TrainingStore).run ops).runs k = some row) (hq : row.status = .queued)
    {payload : TrainingCheckpointCreateRequest} (hep : row.targetEpochs ≤ payload.epoch)
    (uuidHex : String) (now : ℤ)
    (hfresh : (newCheckpoint k payload uuidHex now).checkpointId ∉
      (({} : TrainingStore).run ops).checkpoints.map TrainingCheckpoint.checkpointId) :
    ((({} : TrainingStore).run ops).appendTrainingCheckpoint k payload uuidHex now).2 =
        .ok (newCheckpoint k payload uuidHex now) ∧
      ∃ row', Dict.get ((({} : TrainingStore).run ops).appendTrainingCheckpoint k payload uuidHex
          now).1.runs k = some row' ∧ row'.status = .completed ∧ row'.startedAt = none := by
  have hrow := ((storeOk_run ops).run_ok hg).row_ok
  rw [appendTrainingCheckpoint_of_fresh payload uuidHex now hg hfresh]
  refine ⟨rfl, row.afterCheckpoint (newCheckpoint k payload uuidHex now) now, by simp, ?_⟩
  dsimp only [TrainingRun.afterCheckpoint]
  rw [if_pos ⟨le_max_of_le_right hep, by simp [hq], by simp [hq]⟩]
  exact ⟨rfl, hrow.unstarted hq⟩

/-- The row of `run-000000000001` after its creation for one epoch at time `1`. -/
def queuedRow : TrainingRun :=
  newRun oneEpochRequest "000000000001" 1

theorem get_queuedRow :
    Dict.get (({} : TrainingStore).run [.createTrainingRun oneEpochRequest "000000000001" 1]).runs
      "run-000000000001" = some queuedRow := by
  with_unfolding_all decide

theorem queued_run_completed_unstarted_oneEpoch :
    Dict.get (({} : TrainingStore).run [.createTrainingRun oneEpochRequest "000000000001" 1]).runs
        "run-000000000001" = some queuedRow ∧
      queuedRow.status = .queued ∧ queuedRow.targetEpochs ≤ firstCheckpoint.epoch ∧
      (newCheckpoint "run-000000000001" firstCheckpoint "00000000000a" 2).checkpointId ∉
        (({} : TrainingStore).run [.createTrainingRun oneEpochRequest "000000000001" 1]).checkpoints.map
          TrainingCheckpoint.checkpointId ∧
      ((({} : TrainingStore).run [.createTrainingRun oneEpochRequest "000000000001" 1]).appendTrainingCheckpoint
          "run-000000000001" firstCheckpoint "00000000000a" 2).2 =
        .ok (newCheckpoint "run-000000000001" firstCheckpoint "00000000000a" 2) ∧
      ∃ row', Dict.get ((({} : TrainingStore).run [.createTrainingRun oneEpochRequest "000000000001" 1]).appendTrainingCheckpoint
          "run-000000000001" firstCheckpoint "00000000000a" 2).1.runs "run-000000000001" = some row' ∧
        row'.status = .completed ∧ row'.startedAt = none :=
  have hfresh : (newCheckpoint "run-000000000001" firstCheckpoint "00000000000a" 2).checkpointId ∉
      (({} : TrainingStore).run [.createTrainingRun oneEpochRequest "000000000001" 1]).checkpoints.map
        TrainingCheckpoint.checkpointId := by
    with_unfolding_all decide
  have hep : queuedRow.targetEpochs ≤ firstCheckpoint.epoch := le_refl 1
  ⟨get_queuedRow, rfl, hep, hfresh,
    queued_run_completed_unstarted _ get_queuedRow rfl hep "00000000000a" 2 hfresh⟩

/-- In every store a history reaches, ticks that all raise nothing complete a
run that is not cancelled exactly when there are at least `ticksLeft` of them:
one to start it if it is queued, then one per epoch left to its target. -/
theorem run_completed_after_ticksLeft (ops : List TrainingOp) {k : String} {row : TrainingRun}
    (hg : Dict.get (({} : TrainingStore).run ops).runs k = some row) (hc : row.status ≠ .cancelled)
    (ticks : List TickArgs) (hok : ticksSucceed (({} : TrainingStore).run ops) ticks) :
    ∃ row', Dict.get ((({} : TrainingStore).run ops).run (ticks.map TickArgs.op)).runs k = some row' ∧
      (row'.status = .completed ↔ row.ticksLeft ≤ ticks.length) := by
  obtain ⟨row', hg', hl, hcan⟩ := (storeOk_run ops).ticks_advanced ticks hok hg
  have hrow : RowOk row' := (((storeOk_run ops).run _).run_ok hg').row_ok
  refine ⟨row', hg', ?_⟩
  rw [hrow.completed_iff (fun h => hc (hcan.1 h)), hl]
  omega

/-- Two ticks, at times `2` and `3`, that draw zeros. -/
def twoTicks : List TickArgs :=
  [⟨fun _ => zeroDraw, fun _ => "00000000000b", 2⟩,
   ⟨fun _ => zeroDraw, fun _ => "00000000000c", 3⟩]

theorem run_completed_after_ticksLeft_oneEpoch :
    Dict.get (({} : TrainingStore).run [.createTrainingRun oneEpochRequest "000000000001" 1]).runs
        "run-000000000001" = some queuedRow ∧
      queuedRow.status ≠ .cancelled ∧
      ticksSucceed (({} : TrainingStore).run [.createTrainingRun oneEpochRequest "000000000001" 1])
        twoTicks ∧
      ∃ row', Dict.get ((({} : TrainingStore).run [.createTrainingRun oneEpochRequest "000000000001" 1]).run
          (twoTicks.map TickArgs.op)).runs "run-000000000001" = some row' ∧
        (row'.status = .completed ↔ queuedRow.ticksLeft ≤ twoTicks.length) :=
  have hok : ticksSucceed (({} : TrainingStore).run [.createTrainingRun oneEpochRequest "000000000001" 1])
      twoTicks := by
    with_unfolding_all decide
  ⟨get_queuedRow, by decide, hok,
    run_completed_after_ticksLeft _ get_queuedRow (by decide) twoTicks hok⟩

end Results

end Training
end Hyperlooms
