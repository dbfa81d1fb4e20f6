import Hyperlooms.Py

/-!
# The training metadata store and the run lifecycle

`TrainingMetadataStore` (`app/services/training_metadata_store.py`) keeps the
tables `training_runs` and `training_checkpoints`; `TrainingOrchestrator`
(`app/services/training_orchestrator.py`) creates runs, appends checkpoints,
cancels runs and advances them on every tick of the background loop.

**State.**  `TrainingStore`: the run rows by `run_id`, and the checkpoint rows
in the order they were inserted.  A row keeps the columns the lifecycle reads
or writes.

**Operations.**  Every store method is one session: it commits, or raises and
rolls back.  The routes are `async def` and call the orchestrator's synchronous
methods without an `await`, and the background loop calls
`tick_training_runs` the same way, so each call runs alone on the event loop
and a history of the store is a sequence of `TrainingOp`s.  A call that raises
part-way keeps what its earlier sessions committed.

**Abstractions.**  One clock reading `now` per call; `uuid4().hex` is a
parameter; the `random()` draws of a tick are `Draw`s, numbers in `[0, 1)`;
`ORDER BY created_at DESC` is a stable sort, ties in insertion order.  The
insert of a run follows its estimate and charge (`Training.Orchestrator`), and
a row keeps only the columns that the lifecycle reads.
-/

namespace Hyperlooms
namespace Training

/-! ## Rows and requests -/

/-- `TrainingStatus`. -/
inductive TrainingStatus
  | queued
  | running
  | completed
  | failed
  | cancelled
  deriving DecidableEq, Repr

/-- `{completed, failed, cancelled}`: the statuses `cancel_training_run` and
`tick_training_runs` leave alone. -/
def TrainingStatus.isFinal : TrainingStatus → Bool
  | .completed | .failed | .cancelled => true
  | .queued | .running => false

/-- A row of `training_runs`: the columns the lifecycle reads or writes. -/
structure TrainingRun where
  runId : String
  artifactId : String
  status : TrainingStatus
  targetEpochs : ℕ
  currentEpoch : ℕ := 0
  trainLoss : Option ℚ := none
  valLoss : Option ℚ := none
  evalScore : Option ℚ := none
  bestCheckpointUri : Option String := none
  createdAt : ℤ
  startedAt : Option ℤ := none
  completedAt : Option ℤ := none
  updatedAt : ℤ
  error : Option String := none
  deriving DecidableEq, Repr

/-- A row of `training_checkpoints`. -/
structure TrainingCheckpoint where
  checkpointId : String
  runId : String
  epoch : ℕ
  step : ℕ
  trainLoss : Option ℚ
  valLoss : Option ℚ
  evalScore : Option ℚ
  checkpointUri : String
  createdAt : ℤ
  deriving DecidableEq, Repr

/-- What the store's methods raise: a `KeyError`, the `IntegrityError` of a
duplicate primary key (naming the column), or a pydantic `ValidationError`
naming the fields that failed. -/
inductive TrainingError
  | keyError (msg : String)
  | integrityError (column : String)
  | validationError (model : String) (fields : List String)
  deriving DecidableEq, Repr

/-- `TrainingMode`. -/
inductive TrainingMode
  | train
  | finetune
  | inference
  | evaluation
  deriving DecidableEq, Repr

/-- `BudgetProfile`. -/
inductive BudgetProfile
  | starter
  | scale
  | peak
  deriving DecidableEq, Repr

/-- `TrainingRunCreateRequest`, with the bounds of its `Field`s that the
orchestrator relies on.  `objective`, `provider` and `learning_rate` are left
out: they are copied into columns no modelled call reads. -/
structure TrainingRunCreateRequest where
  ownerId : String := "anonymous"
  artifactId : String
  datasetId : String
  mode : TrainingMode := .finetune
  preferredRegion : Option String := none
  budgetProfile : BudgetProfile := .scale
  replicas : ℕ := 2
  targetEpochs : ℕ := 3
  batchSize : ℕ := 8
  maxTokens : ℕ := 1024
  artifact_ge : 4 ≤ artifactId.length := by decide
  artifact_le : artifactId.length ≤ 64 := by decide
  replicas_ge : 1 ≤ replicas := by decide
  replicas_le : replicas ≤ 32 := by decide
  target_ge : 1 ≤ targetEpochs := by decide
  target_le : targetEpochs ≤ 200 := by decide
  batchSize_ge : 1 ≤ batchSize := by decide
  batchSize_le : batchSize ≤ 2048 := by decide
  maxTokens_ge : 64 ≤ maxTokens := by decide
  maxTokens_le : maxTokens ≤ 65536 := by decide

/-- The fields of a `TrainingCheckpointCreateRequest` before validation.
`step` is a natural number, so its `ge=0` always holds. -/
structure CheckpointFields where
  epoch : ℕ
  step : ℕ := 0
  trainLoss : Option ℚ := none
  valLoss : Option ℚ := none
  evalScore : Option ℚ := none
  checkpointUri : String

/-- The fields whose `Field` bounds fail, in declaration order. -/
def CheckpointFields.invalidFields (p : CheckpointFields) : List String :=
  (if 1 ≤ p.epoch ∧ p.epoch ≤ 2000 then [] else ["epoch"]) ++
  (if p.trainLoss.all (fun t => 0 ≤ t) then [] else ["train_loss"]) ++
  (if p.valLoss.all (fun t => 0 ≤ t) then [] else ["val_loss"]) ++
  (if p.evalScore.all (fun e => 0 ≤ e ∧ e ≤ 1) then [] else ["eval_score"]) ++
  (if 8 ≤ p.checkpointUri.length ∧ p.checkpointUri.length ≤ 2048 then [] else ["checkpoint_uri"])

/-- `TrainingCheckpointCreateRequest`: fields that passed validation. -/
structure TrainingCheckpointCreateRequest extends CheckpointFields where
  valid : toCheckpointFields.invalidFields = []

/-- `TrainingCheckpointCreateRequest(**fields)`. -/
def CheckpointFields.validate (p : CheckpointFields) :
    Except TrainingError TrainingCheckpointCreateRequest :=
  if h : p.invalidFields = [] then .ok ⟨p, h⟩
  else .error (.validationError "TrainingCheckpointCreateRequest" p.invalidFields)

/-- `progress_pct` of `_map_training_run`. -/
def TrainingRun.progressPct (row : TrainingRun) : ℚ :=
  if row.targetEpochs ≤ 0 then 100
  else min 100 (pyRound ((row.currentEpoch : ℚ) / row.targetEpochs * 100) 2)

/-- The two tables. -/
structure TrainingStore where
  runs : List (String × TrainingRun) := []
  checkpoints : List TrainingCheckpoint := []

/-- The text of the `KeyError` for a missing run. -/
def runNotFound (runId : String) : TrainingError :=
  .keyError ("Run '" ++ runId ++ "' not found")

/-! ## The metadata store -/

namespace TrainingStore

/-- The row `create_training_run` inserts: queued at epoch `0`, under `run-`
and the first twelve hex digits of a `uuid4`. -/
def newRun (payload : TrainingRunCreateRequest) (uuidHex : String) (now : ℤ) : TrainingRun :=
  { runId := "run-" ++ ⟨uuidHex.data.take 12⟩, artifactId := payload.artifactId,
    status := .queued, targetEpochs := payload.targetEpochs, createdAt := now, updatedAt := now }

/-- `create_training_run(payload)` once the charge went through; a run id
already taken fails the insert. -/
def createTrainingRun (s : TrainingStore) (payload : TrainingRunCreateRequest) (uuidHex : String)
    (now : ℤ) : TrainingStore × Except TrainingError TrainingRun :=
  let row := newRun payload uuidHex now
  if row.runId ∈ Dict.keys s.runs then (s, .error (.integrityError "training_runs.run_id"))
  else ({ s with runs := s.runs ++ [(row.runId, row)] }, .ok row)

/-- `update_training_run(run_id, updates)`: the caller's updates, then
`updated_at`. -/
def updateTrainingRun (s : TrainingStore) (runId : String) (update : TrainingRun → TrainingRun)
    (now : ℤ) : TrainingStore × Except TrainingError TrainingRun :=
  match Dict.get s.runs runId with
  | none => (s, .error (runNotFound runId))
  | some row =>
      let row' := { update row with updatedAt := now }
      ({ s with runs := Dict.set s.runs runId row' }, .ok row')

/-- The run row `create_checkpoint` writes: the epoch only grows, a reported
metric replaces the stored one, and the checkpoint becomes the best one. -/
def recordCheckpoint (row : TrainingRun) (checkpoint : TrainingCheckpoint) (now : ℤ) : TrainingRun :=
  { row with
    currentEpoch := max row.currentEpoch checkpoint.epoch,
    trainLoss := checkpoint.trainLoss.or row.trainLoss,
    valLoss := checkpoint.valLoss.or row.valLoss,
    evalScore := checkpoint.evalScore.or row.evalScore,
    bestCheckpointUri := some checkpoint.checkpointUri,
    updatedAt := now }

section RecordCheckpoint

variable (row : TrainingRun) (checkpoint : TrainingCheckpoint) (now : ℤ)

@[simp] theorem recordCheckpoint_runId : (recordCheckpoint row checkpoint now).runId = row.runId := rfl
@[simp] theorem recordCheckpoint_status : (recordCheckpoint row checkpoint now).status = row.status :=
  rfl
@[simp] theorem recordCheckpoint_targetEpochs :
    (recordCheckpoint row checkpoint now).targetEpochs = row.targetEpochs := rfl
@[simp] theorem recordCheckpoint_currentEpoch :
    (recordCheckpoint row checkpoint now).currentEpoch = max row.currentEpoch checkpoint.epoch := rfl
@[simp] theorem recordCheckpoint_completedAt :
    (recordCheckpoint row checkpoint now).completedAt = row.completedAt := rfl
@[simp] theorem recordCheckpoint_startedAt :
    (recordCheckpoint row checkpoint now).startedAt = row.startedAt := rfl
@[simp] theorem recordCheckpoint_error : (recordCheckpoint row checkpoint now).error = row.error := rfl

end RecordCheckpoint

/-- The checkpoint row `create_checkpoint` inserts: the request under `ckpt-`
and twelve hex digits of a `uuid4`, with its uri stripped. -/
def newCheckpoint (runId : String) (payload : TrainingCheckpointCreateRequest) (uuidHex : String)
    (now : ℤ) : TrainingCheckpoint :=
  { checkpointId := "ckpt-" ++ ⟨uuidHex.data.take 12⟩, runId, epoch := payload.epoch,
    step := payload.step, trainLoss := payload.trainLoss, valLoss := payload.valLoss,
    evalScore := payload.evalScore, checkpointUri := pyStrip payload.checkpointUri,
    createdAt := now }

/-- `create_checkpoint(run_id, payload)`: the checkpoint row, and the run row
updated from it; a checkpoint id already taken fails the insert. -/
def createCheckpoint (s : TrainingStore) (runId : String) (payload : TrainingCheckpointCreateRequest)
    (uuidHex : String) (now : ℤ) : TrainingStore × Except TrainingError TrainingCheckpoint :=
  match Dict.get s.runs runId with
  | none => (s, .error (runNotFound runId))
  | some row =>
      let checkpoint := newCheckpoint runId payload uuidHex now
      if checkpoint.checkpointId ∈ s.checkpoints.map TrainingCheckpoint.checkpointId then
        (s, .error (.integrityError "training_checkpoints.checkpoint_id"))
      else
        ({ runs := Dict.set s.runs runId (recordCheckpoint row checkpoint now),
           checkpoints := s.checkpoints ++ [checkpoint] }, .ok checkpoint)

/-- `list_training_runs()`: newest first. -/
def listTrainingRuns (s : TrainingStore) : List TrainingRun :=
  (s.runs.map Prod.snd).insertionSort (fun a b => b.createdAt ≤ a.createdAt)

end TrainingStore

/-! ## The orchestrator -/

/-- `append_training_checkpoint(run_id, payload)`: the checkpoint, then a run
that has reached its target epochs and is neither completed nor cancelled is
completed with the checkpoint as its best one. -/
def TrainingStore.appendTrainingCheckpoint (s : TrainingStore) (runId : String)
    (payload : TrainingCheckpointCreateRequest) (uuidHex : String) (now : ℤ) :
    TrainingStore × Except TrainingError TrainingCheckpoint :=
  match s.createCheckpoint runId payload uuidHex now with
  | (s', .error e) => (s', .error e)
  | (s', .ok checkpoint) =>
      match Dict.get s'.runs runId with
      | none => (s', .error (runNotFound runId))
      | some run =>
          if run.targetEpochs ≤ run.currentEpoch ∧ run.status ≠ .completed ∧
              run.status ≠ .cancelled then
            match s'.updateTrainingRun runId (fun r => { r with
                status := .completed, completedAt := some now,
                bestCheckpointUri := some checkpoint.checkpointUri }) now with
            | (s'', .error e) => (s'', .error e)
            | (s'', .ok _) => (s'', .ok checkpoint)
          else (s', .ok checkpoint)

/-- `cancel_training_run(run_id)`: a final run is returned as it is; any other
is cancelled. -/
def TrainingStore.cancelTrainingRun (s : TrainingStore) (runId : String) (now : ℤ) :
    TrainingStore × Except TrainingError TrainingRun :=
  match Dict.get s.runs runId with
  | none => (s, .error (runNotFound runId))
  | some run =>
      if run.status.isFinal then (s, .ok run)
      else s.updateTrainingRun runId (fun r => { r with
        status := .cancelled, completedAt := some now, error := some "Cancelled by operator" }) now

/-- The three `random()` draws of one running run in a tick. -/
structure Draw where
  forTrain : ℚ
  forVal : ℚ
  forEval : ℚ
  train_nonneg : 0 ≤ forTrain := by norm_num
  train_lt : forTrain < 1 := by norm_num
  val_nonneg : 0 ≤ forVal := by norm_num
  val_lt : forVal < 1 := by norm_num
  eval_nonneg : 0 ≤ forEval := by norm_num
  eval_lt : forEval < 1 := by norm_num

/-- `x or d` on an optional float: `None` and `0.0` give `d`. -/
def pyOr : Option ℚ → ℚ → ℚ
  | some x, d => if x = 0 then d else x
  | none, d => d

/-- `f"{n:03d}"`. -/
def pad03 (n : ℕ) : String :=
  ⟨List.replicate (3 - (toString n).length) '0'⟩ ++ toString n

/-- The epoch a tick moves a running run to. -/
def TrainingRun.nextEpoch (run : TrainingRun) : ℕ :=
  min run.targetEpochs (run.currentEpoch + 1)

/-- The checkpoint request a tick builds for a running run. -/
def TrainingRun.tickFields (run : TrainingRun) (d : Draw) : CheckpointFields :=
  { epoch := run.nextEpoch,
    step := max 1 (run.nextEpoch * 120),
    trainLoss := some (max 0.01 (pyRound (pyOr run.trainLoss 2.2 * (0.78 + d.forTrain * 0.08)) 4)),
    valLoss := some (max 0.01 (pyRound (pyOr run.valLoss 2.35 * (0.80 + d.forVal * 0.09)) 4)),
    evalScore := some (min 0.99 (pyRound (pyOr run.evalScore 0.42 + 0.03 + d.forEval * 0.04) 4)),
    checkpointUri :=
      run.artifactId ++ "/runs/" ++ run.runId ++ "/epoch-" ++ pad03 run.nextEpoch ++ ".ckpt" }

/-- The update a tick writes after the checkpoint of a running run. -/
def TrainingRun.tickUpdate (run : TrainingRun) (checkpoint : TrainingCheckpoint) (now : ℤ)
    (r : TrainingRun) : TrainingRun :=
  let status := if run.targetEpochs ≤ run.nextEpoch then TrainingStatus.completed else .running
  { r with
    status, currentEpoch := run.nextEpoch, trainLoss := checkpoint.trainLoss,
    valLoss := checkpoint.valLoss, evalScore := checkpoint.evalScore,
    bestCheckpointUri := some checkpoint.checkpointUri,
    completedAt := if status = .completed then some now else none }

/-- One pass of the loop of `tick_training_runs` on the listed `run`: a final
run is skipped, a queued one starts, a running one gets the next epoch's
checkpoint and is completed when that epoch reaches the target. The result is
the updated run, if any, or the exception raised. -/
def TrainingStore.tickRun (s : TrainingStore) (run : TrainingRun) (d : Draw) (uuidHex : String)
    (now : ℤ) : TrainingStore × Except TrainingError (Option TrainingRun) :=
  if run.status.isFinal then (s, .ok none)
  else if run.status = .queued then
    let r := s.updateTrainingRun run.runId (fun r => { r with
      status := .running, startedAt := some now, error := none }) now
    (r.1, r.2.map some)
  else
    match (run.tickFields d).validate with
    | .error e => (s, .error e)
    | .ok payload =>
        match s.createCheckpoint run.runId payload uuidHex now with
        | (s', .error e) => (s', .error e)
        | (s', .ok checkpoint) =>
            let r := s'.updateTrainingRun run.runId (run.tickUpdate checkpoint now) now
            (r.1, r.2.map some)

/-- The loop of `tick_training_runs` over the listed runs, with the runs
updated so far. An exception stops it with the earlier passes kept. -/
def tickRuns (draw : String → Draw) (uuidHex : String → String) (now : ℤ) :
    TrainingStore → List TrainingRun → List TrainingRun →
      TrainingStore × Except TrainingError (List TrainingRun)
  | s, [], updated => (s, .ok updated)
  | s, run :: runs, updated =>
      match s.tickRun run (draw run.runId) (uuidHex run.runId) now with
      | (s', .error e) => (s', .error e)
      | (s', .ok none) => tickRuns draw uuidHex now s' runs updated
      | (s', .ok (some r)) => tickRuns draw uuidHex now s' runs (updated ++ [r])

/-- `tick_training_runs()`, with the draws and the checkpoint ids of each run. -/
def TrainingStore.tickTrainingRuns (s : TrainingStore) (draw : String → Draw)
    (uuidHex : String → String) (now : ℤ) : TrainingStore × Except TrainingError (List TrainingRun) :=
  tickRuns draw uuidHex now s s.listTrainingRuns []

/-! ## Runs -/

/-- The calls that change the store, each with its clock reading and the
randomness it draws. -/
inductive TrainingOp
  | createTrainingRun (payload : TrainingRunCreateRequest) (uuidHex : String) (now : ℤ)
  | appendTrainingCheckpoint (runId : String) (payload : TrainingCheckpointCreateRequest)
      (uuidHex : String) (now : ℤ)
  | cancelTrainingRun (runId : String) (now : ℤ)
  | tickTrainingRuns (draw : String → Draw) (uuidHex : String → String) (now : ℤ)

/-- The store after one call. -/
def TrainingOp.apply (s : TrainingStore) : TrainingOp → TrainingStore
  | .createTrainingRun payload uuidHex now => (s.createTrainingRun payload uuidHex now).1
  | .appendTrainingCheckpoint runId payload uuidHex now =>
      (s.appendTrainingCheckpoint runId payload uuidHex now).1
  | .cancelTrainingRun runId now => (s.cancelTrainingRun runId now).1
  | .tickTrainingRuns draw uuidHex now => (s.tickTrainingRuns draw uuidHex now).1

/-- The store after a history of calls. -/
def TrainingStore.run (s : TrainingStore) (ops : List TrainingOp) : TrainingStore :=
  ops.foldl TrainingOp.apply s

end Training
end Hyperlooms
