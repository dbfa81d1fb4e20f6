import Hyperlooms.Scheduler

/-!
# The credit ledger

`CreditLedger` (`app/services/credit_ledger.py`): account balances, an
append-only transaction log and an idempotency map, all behind one mutex, so
each public method is one atomic step here.

**Operations.**
* `mint`: a positive amount onto one account, created with its seed
  (`bootstrap_user_credits` for user accounts, `0` otherwise) on first use.
* `transfer`: checks the amount, then the idempotency key (a used key returns
  the transaction recorded under it), then reads both accounts, refuses a
  source that would go negative unless `allow_negative_source`, writes the
  source (clamped at `0`) and then the target.
* `charge_user_for_job`, `reward_node`, `refund_user`: transfers with the
  idempotency keys `charge:{job}:{user}`, `reward:{job}:{node}:{reason}` and
  `refund:{job}:{user}`.

Timestamps and transaction ids are left out.  `LedgerCall` is one call of a public
method, as the store, the orchestrator and the `/credits` routes make them;
`exec` runs it, and a call that raises leaves the ledger as it was.
-/

namespace Hyperlooms

/-- `CreditAccountType`. -/
inductive CreditAccountType
  | user
  | node
  | platform
deriving DecidableEq, Repr

/-- `CreditTransactionType`. -/
inductive CreditTransactionType
  | mint
  | debit
  | reward
  | transfer
  | refund
deriving DecidableEq, Repr

/-- An account key `(account_type, account_id)`. -/
abbrev AccountKey := CreditAccountType × String

/-- `CreditTransaction`: `source` is `(from_account_type, from_account_id)`,
absent for a mint. -/
structure CreditTransaction where
  type : CreditTransactionType
  amount : ℚ
  source : Option AccountKey
  target : AccountKey
  referenceId : Option String
  reason : String
deriving DecidableEq, Repr

/-- The ledger's state: balances, the transaction log and the idempotency map. -/
structure CreditLedger where
  accounts : List (AccountKey × ℚ) := []
  transactions : List CreditTransaction := []
  idempotency : List (String × CreditTransaction) := []
  bootstrapUserCredits : ℚ
deriving DecidableEq, Repr

/-- The `ValueError`s the ledger raises. -/
inductive LedgerError
  | mintAmountMustBePositive
  | transferAmountMustBePositive
  | insufficientCredits
deriving DecidableEq, Repr

/-- `str(exc)` of a ledger error. -/
def LedgerError.message : LedgerError → String
  | .mintAmountMustBePositive => "mint_amount_must_be_positive"
  | .transferAmountMustBePositive => "transfer_amount_must_be_positive"
  | .insufficientCredits => "insufficient_credits"

namespace CreditLedger

/-- `PLATFORM_ACCOUNT_ID`. -/
def platformAccountId : String := "platform-reserve"

/-- The platform reserve's key. -/
def platform : AccountKey := (.platform, platformAccountId)

/-- `CreditLedger(bootstrap_user_credits)`. -/
def init (bootstrapUserCredits : ℚ) : CreditLedger :=
  { bootstrapUserCredits := max 0 bootstrapUserCredits }

/-- The balance a new account of this type starts with. -/
def seed (L : CreditLedger) (t : CreditAccountType) : ℚ :=
  if t = .user then L.bootstrapUserCredits else 0

/-- The stored balance, or the seed of an account not created yet. -/
def balance (L : CreditLedger) (k : AccountKey) : ℚ :=
  (Dict.get L.accounts k).getD (L.seed k.1)

/-- `if idempotency_key and ...`: an empty key counts as none. -/
def activeKey (idem : Option String) : Option String :=
  idem.filter (· ≠ "")

/-- The transaction recorded under an idempotency key. -/
def recorded (L : CreditLedger) (idem : Option String) : Option CreditTransaction :=
  (activeKey idem).bind (Dict.get L.idempotency)

/-- Append a transaction and record it under the key. -/
def record (L : CreditLedger) (idem : Option String) (txn : CreditTransaction) :
    CreditLedger :=
  { L with
    transactions := L.transactions ++ [txn]
    idempotency :=
      match activeKey idem with
      | some key => Dict.set L.idempotency key txn
      | none => L.idempotency }

/-! ## Operations -/

/-- `get_account(account_type, account_id, create_if_missing=True)`. -/
def getAccount (L : CreditLedger) (k : AccountKey) : CreditLedger × ℚ :=
  match Dict.get L.accounts k with
  | some b => (L, b)
  | none => ({ L with accounts := Dict.set L.accounts k (L.seed k.1) }, L.seed k.1)

/-- `mint(account_type, account_id, amount, reason, reference_id, idempotency_key)`. -/
def mint (L : CreditLedger) (k : AccountKey) (amount : ℚ) (reason : String)
    (referenceId idem : Option String) : Except LedgerError (CreditLedger × CreditTransaction) :=
  if amount ≤ 0 then .error .mintAmountMustBePositive
  else
    match L.recorded idem with
    | some txn => .ok (L, txn)
    | none =>
        let txn : CreditTransaction := ⟨.mint, pyRound amount 4, none, k, referenceId, reason⟩
        .ok (({ L with accounts := Dict.set L.accounts k (pyRound (L.balance k + amount) 4) }).record
          idem txn, txn)

/-- `transfer(from, to, amount, txn_type, reason, reference_id, idempotency_key,
allow_negative_source)`. -/
def transfer (L : CreditLedger) (src dst : AccountKey) (amount : ℚ) (type : CreditTransactionType)
    (reason : String) (referenceId idem : Option String) (allowNegativeSource : Bool) :
    Except LedgerError (CreditLedger × CreditTransaction) :=
  if amount ≤ 0 then .error .transferAmountMustBePositive
  else
    match L.recorded idem with
    | some txn => .ok (L, txn)
    | none =>
        let source := L.balance src
        let target := L.balance dst
        let nextSource := pyRound (source - amount) 4
        if !allowNegativeSource ∧ nextSource < 0 then .error .insufficientCredits
        else
          let accounts := Dict.set (Dict.set L.accounts src (max 0 nextSource)) dst
            (pyRound (target + amount) 4)
          let txn : CreditTransaction := ⟨type, pyRound amount 4, some src, dst, referenceId, reason⟩
          .ok (({ L with accounts := accounts }).record idem txn, txn)

/-- `charge_user_for_job(user_id, job_id, amount)`. -/
def chargeUserForJob (L : CreditLedger) (userId jobId : String) (amount : ℚ) :
    Except LedgerError (CreditLedger × CreditTransaction) :=
  transfer L (.user, userId) platform amount .debit "job_charge" (some jobId)
    (some ("charge:" ++ jobId ++ ":" ++ userId)) false

/-- `reward_node(node_id, job_id, amount, reason)`. -/
def rewardNode (L : CreditLedger) (nodeId jobId : String) (amount : ℚ)
    (reason : String := "compute_reward") :
    Except LedgerError (CreditLedger × CreditTransaction) :=
  transfer L platform (.node, nodeId) amount .reward reason (some jobId)
    (some ("reward:" ++ jobId ++ ":" ++ nodeId ++ ":" ++ reason)) true

/-- `refund_user(user_id, job_id, amount)`. -/
def refundUser (L : CreditLedger) (userId jobId : String) (amount : ℚ) :
    Except LedgerError (CreditLedger × CreditTransaction) :=
  transfer L platform (.user, userId) amount .refund "job_refund" (some jobId)
    (some ("refund:" ++ jobId ++ ":" ++ userId)) true

/-- `estimate_job_cost(config)`; `MODEL_SIZE_REGEX` is the scheduler's pattern. -/
def estimateJobCost (cfg : JobConfig) : ℚ :=
  let tokenFactor := max 0.5 (min 4 ((cfg.maxTokens : ℚ) / 1024))
  let base := 0.35 + Scheduler.parameterHintB cfg.model * 0.028 + tokenFactor * 0.22
  pyRound (max 0.25 (base * max 1 cfg.replicas)) 4

/-- The bootstrap mint of the application's lifespan. -/
def bootstrap (bootstrapUserCredits : ℚ) :
    Except LedgerError (CreditLedger × CreditTransaction) :=
  mint (init bootstrapUserCredits) platform (max 100000 (bootstrapUserCredits * 10))
    "bootstrap_platform_reserve" none (some "bootstrap:platform-reserve")

/-! ## Calls -/

/-- One call of a public ledger method. -/
inductive LedgerCall
  | mint (k : AccountKey) (amount : ℚ) (reason : String) (referenceId idem : Option String)
  | transfer (src dst : AccountKey) (amount : ℚ) (type : CreditTransactionType) (reason : String)
      (referenceId idem : Option String) (allowNegativeSource : Bool)
  | getAccount (k : AccountKey)
deriving DecidableEq

/-- `charge_user_for_job(user_id, job_id, amount)` as a call. -/
def LedgerCall.chargeUserForJob (userId jobId : String) (amount : ℚ) : LedgerCall :=
  .transfer (.user, userId) platform amount .debit "job_charge" (some jobId)
    (some ("charge:" ++ jobId ++ ":" ++ userId)) false

/-- `reward_node(node_id, job_id, amount, reason)` as a call. -/
def LedgerCall.rewardNode (nodeId jobId : String) (amount : ℚ) (reason : String) : LedgerCall :=
  .transfer platform (.node, nodeId) amount .reward reason (some jobId)
    (some ("reward:" ++ jobId ++ ":" ++ nodeId ++ ":" ++ reason)) true

/-- `refund_user(user_id, job_id, amount)` as a call. -/
def LedgerCall.refundUser (userId jobId : String) (amount : ℚ) : LedgerCall :=
  .transfer platform (.user, userId) amount .refund "job_refund" (some jobId)
    (some ("refund:" ++ jobId ++ ":" ++ userId)) true

/-- The idempotency key a call passes. -/
def LedgerCall.idem : LedgerCall → Option String
  | .mint _ _ _ _ idem => idem
  | .transfer _ _ _ _ _ _ idem _ => idem
  | .getAccount _ => none

/-- The amount a call moves (`0` for `get_account`). -/
def LedgerCall.amount : LedgerCall → ℚ
  | .mint _ amount _ _ _ => amount
  | .transfer _ _ amount _ _ _ _ _ => amount
  | .getAccount _ => 0

/-- Run one call: the new ledger and the transaction a mint or transfer returns. -/
def LedgerCall.run (L : CreditLedger) :
    LedgerCall → Except LedgerError (CreditLedger × Option CreditTransaction)
  | .mint k amount reason ref idem =>
      (CreditLedger.mint L k amount reason ref idem).map fun p => (p.1, some p.2)
  | .transfer src dst amount type reason ref idem allow =>
      (CreditLedger.transfer L src dst amount type reason ref idem allow).map
        fun p => (p.1, some p.2)
  | .getAccount k => .ok ((CreditLedger.getAccount L k).1, none)

/-- The ledger after a call; a call that raises leaves it unchanged. -/
def exec (L : CreditLedger) (c : LedgerCall) : CreditLedger :=
  match c.run L with
  | .ok p => p.1
  | .error _ => L

/-- The ledger after a sequence of calls. -/
def execAll (L : CreditLedger) (cs : List LedgerCall) : CreditLedger :=
  cs.foldl exec L

/-! ## Idempotency -/

theorem mint_of_recorded {L : CreditLedger} {k : AccountKey} {amount : ℚ} {reason : String}
    {ref idem : Option String} {t : CreditTransaction} (h : L.recorded idem = some t)
    (ha : 0 < amount) : mint L k amount reason ref idem = .ok (L, t) := by
  simp [mint, h, not_le.2 ha]

theorem transfer_of_recorded {L : CreditLedger} {src dst : AccountKey} {amount : ℚ}
    {type : CreditTransactionType} {reason : String} {ref idem : Option String} {allow : Bool}
    {t : CreditTransaction} (h : L.recorded idem = some t) (ha : 0 < amount) :
    transfer L src dst amount type reason ref idem allow = .ok (L, t) := by
  simp [transfer, h, not_le.2 ha]

@[simp] theorem record_transactions (L : CreditLedger) (idem : Option String)
    (t : CreditTransaction) : (L.record idem t).transactions = L.transactions ++ [t] := rfl

theorem record_idempotency (L : CreditLedger) (idem : Option String) (t : CreditTransaction)
    (K : String) :
    Dict.get (L.record idem t).idempotency K =
      if activeKey idem = some K then some t else Dict.get L.idempotency K := by
  unfold record
  cases h : activeKey idem with
  | none => simp
  | some key => by_cases hk : K = key <;> simp [hk, Eq.comm]

/-- What a completed mint did: returned the recorded transaction, or credited
the account and recorded a new one under a free key. -/
theorem mint_ok {L L' : CreditLedger} {k : AccountKey} {amount : ℚ} {reason : String}
    {ref idem : Option String} {t : CreditTransaction}
    (h : mint L k amount reason ref idem = .ok (L', t)) :
    (L.recorded idem = some t ∧ L' = L) ∨
    (L.recorded idem = none ∧ t = ⟨.mint, pyRound amount 4, none, k, ref, reason⟩ ∧
      L' = ({ L with accounts := Dict.set L.accounts k (pyRound (L.balance k + amount) 4) }).record
        idem t) := by
  unfold mint at h
  split_ifs at h
  cases hr : L.recorded idem with
  | some t' =>
      simp only [hr, Except.ok.injEq, Prod.mk.injEq] at h
      exact .inl ⟨h.2 ▸ rfl, h.1.symm⟩
  | none =>
      simp only [hr, Except.ok.injEq, Prod.mk.injEq] at h
      exact .inr ⟨rfl, h.2.symm, h.2 ▸ h.1.symm⟩

/-- What a completed transfer did: returned the recorded transaction, or wrote
the source (clamped at `0`) and then the target and recorded a new transaction
under a free key. -/
theorem transfer_ok {L L' : CreditLedger} {src dst : AccountKey} {amount : ℚ}
    {type : CreditTransactionType} {reason : String} {ref idem : Option String} {allow : Bool}
    {t : CreditTransaction} (h : transfer L src dst amount type reason ref idem allow = .ok (L', t)) :
    (L.recorded idem = some t ∧ L' = L) ∨
    (L.recorded idem = none ∧ 0 < amount ∧ (allow = true ∨ 0 ≤ pyRound (L.balance src - amount) 4) ∧
      t = ⟨type, pyRound amount 4, some src, dst, ref, reason⟩ ∧
      L' = ({ L with accounts := Dict.set (Dict.set L.accounts src
        (max 0 (pyRound (L.balance src - amount) 4))) dst (pyRound (L.balance dst + amount) 4) }).record
        idem t) := by
  unfold transfer at h
  split_ifs at h with ha
  cases hr : L.recorded idem with
  | some t' =>
      simp only [hr, Except.ok.injEq, Prod.mk.injEq] at h
      exact .inl ⟨h.2 ▸ rfl, h.1.symm⟩
  | none =>
      simp only [hr] at h
      split_ifs at h with hneg
      simp only [Except.ok.injEq, Prod.mk.injEq] at h
      refine .inr ⟨rfl, lt_of_not_le ha, ?_, h.2.symm, h.2 ▸ h.1.symm⟩
      by_cases hallow : allow = true
      · exact .inl hallow
      · exact .inr (le_of_not_lt fun hlt => hneg ⟨by simpa using hallow, hlt⟩)

/-- A call whose key is already recorded leaves the ledger as it is. -/
theorem exec_of_recorded {L : CreditLedger} {c : LedgerCall} {t : CreditTransaction}
    (h : L.recorded c.idem = some t) : exec L c = L := by
  cases c with
  | mint k amount reason ref idem =>
      simp only [LedgerCall.idem] at h
      by_cases ha : 0 < amount
      · simp [exec, LedgerCall.run, mint_of_recorded h ha, Except.map]
      · simp [exec, LedgerCall.run, mint, not_lt.1 ha, Except.map]
  | transfer src dst amount type reason ref idem allow =>
      simp only [LedgerCall.idem] at h
      by_cases ha : 0 < amount
      · simp [exec, LedgerCall.run, transfer_of_recorded h ha, Except.map]
      · simp [exec, LedgerCall.run, transfer, not_lt.1 ha, Except.map]
  | getAccount k => simp [LedgerCall.idem, recorded, activeKey] at h

theorem run_of_recorded {L : CreditLedger} {c : LedgerCall} {t : CreditTransaction}
    (h : L.recorded c.idem = some t) (ha : 0 < c.amount) : c.run L = .ok (L, some t) := by
  cases c with
  | mint k amount reason ref idem =>
      simp only [LedgerCall.idem, LedgerCall.amount] at h ha
      simp [LedgerCall.run, mint_of_recorded h ha, Except.map]
  | transfer src dst amount type reason ref idem allow =>
      simp only [LedgerCall.idem, LedgerCall.amount] at h ha
      simp [LedgerCall.run, transfer_of_recorded h ha, Except.map]
  | getAccount k => simp [LedgerCall.idem, recorded, activeKey] at h

/-- What one call does to the idempotency map and the log: either nothing, or
it appends one transaction and records it under its key, which was free. -/
theorem exec_cases (L : CreditLedger) (c : LedgerCall) :
    ((exec L c).transactions = L.transactions ∧ (exec L c).idempotency = L.idempotency) ∨
    (L.recorded c.idem = none ∧ ∃ t, (exec L c).transactions = L.transactions ++ [t] ∧
      ∀ K, Dict.get (exec L c).idempotency K =
        if activeKey c.idem = some K then some t else Dict.get L.idempotency K) := by
  cases c with
  | mint k amount reason ref idem =>
      cases hm : mint L k amount reason ref idem with
      | error e => simp [exec, LedgerCall.run, hm, Except.map]
      | ok p =>
          obtain ⟨L', t⟩ := p
          have he : exec L (.mint k amount reason ref idem) = L' := by
            simp [exec, LedgerCall.run, hm, Except.map]
          rw [he]
          rcases mint_ok hm with ⟨-, rfl⟩ | ⟨hr, -, rfl⟩
          · exact .inl ⟨rfl, rfl⟩
          · exact .inr ⟨hr, t, rfl, record_idempotency _ _ _⟩
  | transfer src dst amount type reason ref idem allow =>
      cases hm : transfer L src dst amount type reason ref idem allow with
      | error e => simp [exec, LedgerCall.run, hm, Except.map]
      | ok p =>
          obtain ⟨L', t⟩ := p
          have he : exec L (.transfer src dst amount type reason ref idem allow) = L' := by
            simp [exec, LedgerCall.run, hm, Except.map]
          rw [he]
          rcases transfer_ok hm with ⟨-, rfl⟩ | ⟨hr, -, -, -, rfl⟩
          · exact .inl ⟨rfl, rfl⟩
          · exact .inr ⟨hr, t, rfl, record_idempotency _ _ _⟩
  | getAccount k =>
      left
      simp only [exec, LedgerCall.run, getAccount]
      split <;> simp

/-- An entry of the idempotency map is never replaced. -/
theorem exec_recorded {L : CreditLedger} {K : String} {t : CreditTransaction}
    (h : Dict.get L.idempotency K = some t) (c : LedgerCall) :
    Dict.get (exec L c).idempotency K = some t := by
  rcases exec_cases L c with ⟨-, he⟩ | ⟨hfree, t', -, he⟩
  · rw [he, h]
  · rw [he K]
    split_ifs with hk
    · simp [recorded, hk, h] at hfree
    · exact h

theorem execAll_recorded {L : CreditLedger} {K : String} {t : CreditTransaction}
    (h : Dict.get L.idempotency K = some t) (cs : List LedgerCall) :
    Dict.get (execAll L cs).idempotency K = some t := by
  induction cs generalizing L with
  | nil => exact h
  | cons c cs ih => exact ih (exec_recorded h c)

/-- A call appends to the log. -/
def Appends (L : CreditLedger) (c : LedgerCall) : Prop :=
  L.transactions.length < (exec L c).transactions.length

instance (L : CreditLedger) (c : LedgerCall) : Decidable (Appends L c) :=
  inferInstanceAs (Decidable (_ < _))

/-- The calls of a run, each with the ledger it ran on. -/
def steps : CreditLedger → List LedgerCall → List (CreditLedger × LedgerCall)
  | _, [] => []
  | L, c :: cs => (L, c) :: steps (exec L c) cs

/-- How many calls of a run with idempotency key `K` appended a transaction. -/
def appendsUnder (K : String) (L : CreditLedger) (cs : List LedgerCall) : ℕ :=
  (steps L cs).countP fun p => activeKey p.2.idem = some K ∧ Appends p.1 p.2

theorem appends_records {L : CreditLedger} {c : LedgerCall} {K : String}
    (hK : activeKey c.idem = some K) (h : Appends L c) :
    (Dict.get (exec L c).idempotency K).isSome := by
  rcases exec_cases L c with ⟨he, -⟩ | ⟨-, t, -, he⟩
  · simp [Appends, he] at h
  · simp [he K, hK]

theorem not_appends_of_recorded {L : CreditLedger} {c : LedgerCall} {K : String}
    (hK : activeKey c.idem = some K) (h : (Dict.get L.idempotency K).isSome) :
    ¬ Appends L c := by
  obtain ⟨t, ht⟩ := Option.isSome_iff_exists.1 h
  have : L.recorded c.idem = some t := by simp [recorded, hK, ht]
  simp [Appends, exec_of_recorded this]

/-- Each idempotency key appends at most once over a run, and never once it is
recorded. -/
theorem appendsUnder_le (K : String) :
    ∀ (L : CreditLedger) (cs : List LedgerCall),
      appendsUnder K L cs ≤ if (Dict.get L.idempotency K).isSome then 0 else 1
  | L, [] => by simp [appendsUnder, steps]
  | L, c :: cs => by
      have ih := appendsUnder_le K (exec L c) cs
      simp only [appendsUnder, steps, List.countP_cons] at ih ⊢
      by_cases hr : (Dict.get L.idempotency K).isSome
      · obtain ⟨t, ht⟩ := Option.isSome_iff_exists.1 hr
        have hr' : (Dict.get (exec L c).idempotency K).isSome := by simp [exec_recorded ht c]
        have hc : ¬ (activeKey c.idem = some K ∧ Appends L c) :=
          fun h => not_appends_of_recorded h.1 hr h.2
        rw [if_pos hr'] at ih
        rw [if_pos hr, if_neg (by simpa using hc)]
        exact ih
      · rw [if_neg hr]
        by_cases hc : activeKey c.idem = some K ∧ Appends L c
        · rw [if_pos (appends_records hc.1 hc.2)] at ih
          rw [if_pos (by simpa using hc)]
          omega
        · rw [if_neg (by simpa using hc)]
          exact ih.trans (by split <;> simp)

theorem countP_appends_le_one (K : String) (P : LedgerCall → Prop) [DecidablePred P]
    (hP : ∀ c, P c → activeKey c.idem = some K) (L : CreditLedger)
    (h0 : Dict.get L.idempotency K = none) (cs : List LedgerCall) :
    (steps L cs).countP (fun p => decide (P p.2 ∧ Appends p.1 p.2)) ≤ 1 := by
  have h := appendsUnder_le K L cs
  rw [h0, Option.isSome_none, if_neg (by simp)] at h
  refine le_trans (List.countP_mono_left fun p _ hp => ?_) h
  simp only [decide_eq_true_eq] at hp ⊢
  exact ⟨hP _ hp.1, hp.2⟩

theorem activeKey_of_length_pos {key : String} (h : 0 < key.length) :
    activeKey (some key) = some key := by
  have : key ≠ "" := fun he => by simp [he] at h
  simp [activeKey, this]

/-- The idempotency key guards every call: a mint or transfer under a key that an
earlier completed call recorded changes nothing and returns the transaction
recorded first, and each of the three job paths appends at most once per job
(and node) over any run. -/
theorem idempotency_key_appends_once (b : ℚ) :
    (∀ (pre post : List LedgerCall) (first c : LedgerCall) (K : String),
      activeKey first.idem = some K → activeKey c.idem = some K →
      Dict.get (execAll (init b) pre).idempotency K = none →
      Appends (execAll (init b) pre) first →
      let L := execAll (exec (execAll (init b) pre) first) post
      exec L c = L ∧
        (0 < c.amount → c.run L =
          .ok (L, (exec (execAll (init b) pre) first).transactions.getLast?))) ∧
    (∀ (cs : List LedgerCall) (userId jobId : String),
      (steps (init b) cs).countP (fun p => decide
        (p.2 = LedgerCall.chargeUserForJob userId jobId p.2.amount ∧ Appends p.1 p.2)) ≤ 1 ∧
      (steps (init b) cs).countP (fun p => decide
        (p.2 = LedgerCall.refundUser userId jobId p.2.amount ∧ Appends p.1 p.2)) ≤ 1) ∧
    (∀ (cs : List LedgerCall) (nodeId jobId : String),
      (steps (init b) cs).countP (fun p => decide
        (p.2 = LedgerCall.rewardNode nodeId jobId p.2.amount "job_execution" ∧
          Appends p.1 p.2)) ≤ 1) := by
  refine ⟨?_, fun cs userId jobId => ⟨?_, ?_⟩, fun cs nodeId jobId => ?_⟩
  · intro pre post first c K hfirst hc hfree happ
    set L₁ := execAll (init b) pre
    rcases exec_cases L₁ first with ⟨he, -⟩ | ⟨-, t, ht, hidem⟩
    · exact absurd happ (by simp [Appends, he])
    · have hrec : Dict.get (execAll (exec L₁ first) post).idempotency K = some t :=
        execAll_recorded (by rw [hidem K, if_pos hfirst]) post
      have hr : (execAll (exec L₁ first) post).recorded c.idem = some t := by
        simp [recorded, hc, hrec]
      refine ⟨exec_of_recorded hr, fun ha => ?_⟩
      rw [run_of_recorded hr ha, ht, List.getLast?_append_of_ne_nil _ (by simp)]
      rfl
  · refine countP_appends_le_one ("charge:" ++ jobId ++ ":" ++ userId)
      (fun c => c = LedgerCall.chargeUserForJob userId jobId c.amount) ?_ (init b) rfl cs
    rintro c hc
    rw [hc]
    exact activeKey_of_length_pos (by simp [show 0 < "charge:".length by decide])
  · refine countP_appends_le_one ("refund:" ++ jobId ++ ":" ++ userId)
      (fun c => c = LedgerCall.refundUser userId jobId c.amount) ?_ (init b) rfl cs
    rintro c hc
    rw [hc]
    exact activeKey_of_length_pos (by simp [show 0 < "refund:".length by decide])
  · refine countP_appends_le_one ("reward:" ++ jobId ++ ":" ++ nodeId ++ ":" ++ "job_execution")
      (fun c => c = LedgerCall.rewardNode nodeId jobId c.amount "job_execution") ?_ (init b) rfl cs
    rintro c hc
    rw [hc]
    exact activeKey_of_length_pos (by simp [show 0 < "reward:".length by decide])

end CreditLedger
end Hyperlooms
