import Hyperlooms.Ledger

/-!
# The charges of the credits route and of training runs

Two callers outside the job store pass idempotency keys to
`CreditLedger.transfer`:

* `POST /credits/spend` (`app/api/routes/credits.py`) debits the user under the
  key `manual-spend:{reference_id}:{user_id}`;
* `TrainingOrchestrator.create_training_run` charges the owner through
  `charge_user_for_job(owner_id, f"train-{artifact_id}-{dataset_id}", cost)`
  when the estimate is positive, so its key is
  `charge:train-{artifact_id}-{dataset_id}:{owner_id}`.

Neither key names the operation.  A second training run of an owner on the same
artifact and dataset, and a spend whose ids move a `:` from the reference to the
user, find their key recorded, and the ledger hands back the first transaction
without debiting anyone (`distinct_charges_share_key`).

`createTrainingRun` takes the estimate's cost as a parameter, and the results
hold for every positive cost; the estimate itself (`estimate_compute`) is
`Training.estimateCompute`, whose costs are never negative.
-/

namespace Hyperlooms
namespace CreditLedger

/-- `spend_credits(payload)`: the transfer the route asks for; a `ValueError`
becomes the route's 402. -/
def spendCredits (L : CreditLedger) (userId : String) (amount : ℚ) (referenceId reason : String) :
    Except LedgerError (CreditLedger × CreditTransaction) :=
  transfer L (.user, userId) platform amount .debit reason (some referenceId)
    (some ("manual-spend:" ++ referenceId ++ ":" ++ userId)) false

/-- The ledger step of `create_training_run`, given the estimate's
`estimated_cost_credits`: the owner is charged when the estimate is positive; an
error propagates and creates no run. -/
def createTrainingRun (L : CreditLedger) (ownerId artifactId datasetId : String)
    (estimatedCostCredits : ℚ) : Except LedgerError CreditLedger :=
  if 0 < estimatedCostCredits then
    (chargeUserForJob L ownerId ("train-" ++ artifactId ++ "-" ++ datasetId)
      estimatedCostCredits).map Prod.fst
  else .ok L

/-- Once a transfer under an active key has completed, every later transfer
under that key with a positive amount returns the same transaction and leaves
the ledger as it is, whatever its accounts, amount and reason. -/
theorem transfer_replays {L L' : CreditLedger} {src dst src' dst' : AccountKey}
    {amount amount' : ℚ} {type type' : CreditTransactionType} {reason reason' : String}
    {ref ref' idem : Option String} {allow allow' : Bool} {t : CreditTransaction} {K : String}
    (hK : activeKey idem = some K)
    (h : transfer L src dst amount type reason ref idem allow = .ok (L', t)) (ha : 0 < amount') :
    transfer L' src' dst' amount' type' reason' ref' idem allow' = .ok (L', t) := by
  refine transfer_of_recorded ?_ ha
  rcases transfer_ok h with ⟨hr, rfl⟩ | ⟨-, -, -, -, rfl⟩
  · exact hr
  · simp [recorded, hK, record_idempotency]

/-- Two charge-bearing operations that the keys merge.  An owner's second
training run on an artifact and dataset, with any positive estimate, completes
and leaves the ledger as the first run left it.  The spends of `(x, r:y)` and
`(y:x, r)`, always distinct pairs of user and reference, share a key, so once
the first has completed the second returns its transaction and debits no one. -/
theorem distinct_charges_share_key :
    (∀ (L L₁ : CreditLedger) (ownerId artifactId datasetId : String) (cost₁ cost₂ : ℚ),
      0 < cost₁ → 0 < cost₂ → createTrainingRun L ownerId artifactId datasetId cost₁ = .ok L₁ →
        createTrainingRun L₁ ownerId artifactId datasetId cost₂ = .ok L₁) ∧
    (∀ (L L₁ : CreditLedger) (t : CreditTransaction) (x y referenceId : String)
      (amount₁ amount₂ : ℚ) (reason₁ reason₂ : String),
      (x, referenceId ++ ":" ++ y) ≠ (y ++ ":" ++ x, referenceId) ∧
      (0 < amount₂ → spendCredits L x amount₁ (referenceId ++ ":" ++ y) reason₁ = .ok (L₁, t) →
        spendCredits L₁ (y ++ ":" ++ x) amount₂ referenceId reason₂ = .ok (L₁, t))) := by
  refine ⟨fun L L₁ ownerId artifactId datasetId cost₁ cost₂ h₁ h₂ h => ?_,
    fun L L₁ t x y referenceId amount₁ amount₂ reason₁ reason₂ => ⟨fun he => ?_, fun ha h => ?_⟩⟩
  · simp only [createTrainingRun, if_pos h₁] at h
    cases hc : chargeUserForJob L ownerId ("train-" ++ artifactId ++ "-" ++ datasetId) cost₁ with
    | error e => simp [hc, Except.map] at h
    | ok p =>
        simp only [hc, Except.map, Except.ok.injEq] at h
        subst h
        have hK := @activeKey_of_length_pos ("charge:" ++ ("train-" ++ artifactId ++ "-" ++
          datasetId) ++ ":" ++ ownerId) (by simp [show 0 < "charge:".length by decide])
        simp only [createTrainingRun, if_pos h₂, chargeUserForJob, transfer_replays hK hc h₂]
        rfl
  · have := congrArg String.length (Prod.mk.inj he).1
    simp only [String.length_append] at this
    have : ":".length = 1 := rfl
    omega
  · have hK := @activeKey_of_length_pos ("manual-spend:" ++ (referenceId ++ ":" ++ y) ++
      ":" ++ x) (by simp [show 0 < "manual-spend:".length by decide])
    have hkey : "manual-spend:" ++ referenceId ++ ":" ++ (y ++ ":" ++ x) =
        "manual-spend:" ++ (referenceId ++ ":" ++ y) ++ ":" ++ x := by
      simp only [String.append_assoc]
    simp only [spendCredits, hkey]
    exact transfer_replays hK h ha

set_option maxRecDepth 20000 in
/-- Owner `u` creates two runs on artifact `art1` and dataset `data`, and users
`x` and `y:x` each spend `5` under references `r:y` and `r`: the second run and
the second spend complete on the ledger the first left, so `u` and `x` are
debited once and `y:x` not at all. -/
theorem distinct_charges_share_key_demo :
    (∃ L₁, createTrainingRun (init 1000) "u" "art1" "data" 5 = .ok L₁ ∧
      createTrainingRun L₁ "u" "art1" "data" 7 = .ok L₁ ∧ L₁.balance (.user, "u") = 995) ∧
    (∃ L₁ t, spendCredits (init 1000) "x" 5 "r:y" "manual_spend" = .ok (L₁, t) ∧
      spendCredits L₁ "y:x" 5 "r" "manual_spend" = .ok (L₁, t) ∧
      L₁.balance (.user, "x") = 995 ∧ L₁.balance (.user, "y:x") = 1000) := by
  refine ⟨⟨?L, ?run,
      distinct_charges_share_key.1 _ ?L _ _ _ 5 7 (by norm_num) (by norm_num) ?run, ?_⟩,
    ⟨?M, ?t, ?spend,
      (distinct_charges_share_key.2 _ ?M ?t "x" "y" "r" 5 5 _ _).2 (by norm_num) ?spend, ?_, ?_⟩⟩
  case run => with_unfolding_all exact rfl
  case spend => with_unfolding_all exact rfl
  all_goals with_unfolding_all decide

end CreditLedger
end Hyperlooms
