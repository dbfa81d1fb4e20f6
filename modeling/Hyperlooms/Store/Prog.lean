import Hyperlooms.Store.Nodes
import Hyperlooms.Store.Jobs

/-!
# Operations as sequences of atomic sections

An operation of the store is a coroutine: between two `await`s it runs without
interruption, and each `async with` block is one such stretch.  `Section` names
the stretches that touch shared state (a block under one of the three locks, or
a read of `utc_now()`), and `Prog` is an operation as a tree of them: a section
and the rest of the operation as a function of the section's reply.  Code that
touches no shared state (the verifier, the reward arithmetic) lives in those
functions.

`Prog.run` runs an operation alone, as a complete operation; `Sched` runs
threads of operations interleaved at their sections, with the clock moved by
the environment.  `run_alone` says the first is a special case of the second.
`Triple` is the Hoare logic of `Prog.run`, which the invariant proofs use.
-/

namespace Hyperlooms
namespace Store

/-- A stretch of an operation between two await points that touches shared
state. -/
inductive Section
  | clock
  | node (s : NodeSection)
  | job (s : JobSection)
  | ledger (c : CreditLedger.LedgerCall)

/-- What a section returns. -/
def Section.Reply : Section → Type
  | .clock => ℕ
  | .node s => s.Reply
  | .job s => s.Reply
  | .ledger _ => Except LedgerError (Option CreditTransaction)

/-- Run one section on the world. -/
def Section.exec (cfg : StoreConfig) : (s : Section) → World → World × s.Reply
  | .clock, w => (w, w.clock)
  | .node s, w =>
      let r := s.exec w.clock w.nodes
      ({ w with nodes := r.1 }, r.2)
  | .job s, w =>
      let r := s.exec cfg w.clock w.tables
      ({ w with tables := r.1 }, r.2)
  | .ledger c, w =>
      match c.run w.credits with
      | .ok p => ({ w with credits := p.1 }, .ok p.2)
      | .error e => (w, .error e)

/-- An operation: finished with a value, raised, or about to run a section. -/
inductive Prog (α : Type) where
  | ret (a : α)
  | raise (e : StoreError)
  | atomic (s : Section) (k : s.Reply → Prog α)

namespace Prog

variable {α β : Type}

/-- Sequencing. -/
def bind : Prog α → (α → Prog β) → Prog β
  | ret a, f => f a
  | raise e, _ => raise e
  | atomic s k, f => atomic s (fun r => bind (k r) f)

instance : Monad Prog where
  pure := ret
  bind := bind

/-- Run one section and return its reply. -/
def sec (s : Section) : Prog s.Reply :=
  atomic s ret

/-- Raise the error of an `Except`. -/
def liftExcept : Except StoreError α → Prog α
  | .ok a => ret a
  | .error e => raise e

/-- `for x in xs: await f(x)`. -/
def forEach {γ : Type} : List γ → (γ → Prog Unit) → Prog Unit
  | [], _ => ret ()
  | x :: xs, f => bind (f x) fun _ => forEach xs f

variable (cfg : StoreConfig)

/-- Run an operation to its end with nothing interleaved. -/
def run : Prog α → World → World × Except StoreError α
  | ret a, w => (w, .ok a)
  | raise e, w => (w, .error e)
  | atomic s k, w =>
      let r := s.exec cfg w
      run (k r.2) r.1

@[simp] theorem pure_eq (a : α) : (pure a : Prog α) = ret a := rfl

@[simp] theorem bind_eq (p : Prog α) (f : α → Prog β) : p >>= f = bind p f := rfl

@[simp] theorem run_ret (a : α) (w : World) : run cfg (ret a) w = (w, .ok a) := rfl

@[simp] theorem run_raise (e : StoreError) (w : World) :
    run cfg (raise e : Prog α) w = (w, .error e) := rfl

@[simp] theorem run_atomic (s : Section) (k : s.Reply → Prog α) (w : World) :
    run cfg (atomic s k) w = run cfg (k (s.exec cfg w).2) (s.exec cfg w).1 := rfl

theorem run_bind (p : Prog α) (f : α → Prog β) (w : World) :
    run cfg (bind p f) w =
      match run cfg p w with
      | (w', .ok a) => run cfg (f a) w'
      | (w', .error e) => (w', .error e) := by
  induction p generalizing w with
  | ret a => rfl
  | raise e => rfl
  | atomic s k ih => exact ih _ _

/-! ## Hoare triples -/

/-- `⦃P⦄ p ⦃Q⦄` for runs alone: from a world satisfying `P`, the run ends in a
world and outcome satisfying `Q`. -/
def Triple (P : World → Prop) (p : Prog α) (Q : World → Except StoreError α → Prop) : Prop :=
  ∀ w, P w → Q (run cfg p w).1 (run cfg p w).2

variable {cfg}

theorem Triple.ret {P : World → Prop} {Q : World → Except StoreError α → Prop} {a : α}
    (h : ∀ w, P w → Q w (.ok a)) : Triple cfg P (ret a) Q := h

theorem Triple.raise {P : World → Prop} {Q : World → Except StoreError α → Prop}
    {e : StoreError} (h : ∀ w, P w → Q w (.error e)) : Triple cfg P (raise e) Q := h

theorem Triple.atomic {P : World → Prop} {Q : World → Except StoreError α → Prop} {s : Section}
    {k : s.Reply → Prog α} (R : World → s.Reply → Prop)
    (hs : ∀ w, P w → R (s.exec cfg w).1 (s.exec cfg w).2)
    (hk : ∀ r, Triple cfg (fun w => R w r) (k r) Q) : Triple cfg P (atomic s k) Q :=
  fun w hw => hk _ _ (hs w hw)

theorem Triple.bind {P : World → Prop} {p : Prog α} {f : α → Prog β}
    {Q : World → Except StoreError β → Prop} (R : World → α → Prop)
    (hp : Triple cfg P p fun w r => match r with
      | .ok a => R w a
      | .error e => Q w (.error e))
    (hf : ∀ a, Triple cfg (fun w => R w a) (f a) Q) : Triple cfg P (bind p f) Q := by
  intro w hw
  have h := hp w hw
  rw [run_bind]
  revert h
  rcases run cfg p w with ⟨w', _ | a⟩
  · exact id
  · exact hf a w'

theorem Triple.mono {P P' : World → Prop} {p : Prog α} {Q Q' : World → Except StoreError α → Prop}
    (hP : ∀ w, P' w → P w) (hQ : ∀ w r, Q w r → Q' w r) (h : Triple cfg P p Q) :
    Triple cfg P' p Q' :=
  fun w hw => hQ _ _ (h w (hP w hw))

theorem Triple.forEach {γ : Type} {I : World → Prop} {f : γ → Prog Unit} :
    ∀ {xs : List γ}, (∀ x ∈ xs, Triple cfg I (f x) fun w _ => I w) →
      Triple cfg I (forEach xs f) fun w _ => I w
  | [], _ => Triple.ret fun _ h => h
  | x :: xs, h => Triple.bind (fun w _ => I w)
      (Triple.mono (fun _ h => h) (fun w r hw => by cases r <;> exact hw)
        (h x (List.mem_cons_self _ _)))
      fun _ => Triple.forEach fun y hy => h y (List.mem_cons_of_mem _ hy)

end Prog

/-! ## Threads interleaved at their sections -/

/-- A thread: an operation whose result the scheduler does not use. -/
abbrev Thread := Prog Unit

/-- The environment's moves: a request arrives as a new thread, a thread runs
its next section, or the wall clock moves. -/
inductive Move
  | spawn (p : Thread)
  | step (i : ℕ)
  | setClock (t : ℕ)

/-- The next section of a thread, if it has one. -/
def Prog.next {α : Type} (cfg : StoreConfig) : Prog α → World → Option (World × Prog α)
  | .atomic s k, w => some ((s.exec cfg w).1, k (s.exec cfg w).2)
  | _, _ => none

/-- One move of the environment. -/
def Move.apply (cfg : StoreConfig) : Move → World × List Thread → World × List Thread
  | .spawn p, (w, ts) => (w, ts ++ [p])
  | .step i, (w, ts) =>
      match ts[i]? with
      | some p =>
          match p.next cfg w with
          | some (w', p') => (w', ts.set i p')
          | none => (w, ts)
      | none => (w, ts)
  | .setClock t, (w, ts) => ({ w with clock := t }, ts)

/-- A schedule: the moves in order. -/
def Sched (cfg : StoreConfig) (ms : List Move) (c : World × List Thread) : World × List Thread :=
  ms.foldl (fun c m => m.apply cfg c) c

theorem set_of_getElem?_eq {γ : Type} {l : List γ} {i : ℕ} {a : γ} (h : l[i]? = some a) :
    l.set i a = l := by
  apply List.ext_getElem?
  intro j
  rw [List.getElem?_set']
  split
  · subst_vars
    simp [h]
  · rfl

/-- How many sections a thread runs alone. -/
def Prog.sections {α : Type} (cfg : StoreConfig) : Prog α → World → ℕ
  | .atomic s k, w => (k (s.exec cfg w).2).sections cfg (s.exec cfg w).1 + 1
  | _, _ => 0

/-- Running one thread to its end, with no other thread moving, is the run
alone. -/
theorem run_alone (cfg : StoreConfig) :
    ∀ (p : Thread) (w : World) (ts : List Thread) (i : ℕ), ts[i]? = some p →
      ∃ p', (Sched cfg (List.replicate (p.sections cfg w) (.step i)) (w, ts)) =
        ((p.run cfg w).1, ts.set i p') ∧ p'.next cfg (p.run cfg w).1 = none
  | .ret a, w, ts, i, h => ⟨.ret a, by simp [Sched, Prog.sections, set_of_getElem?_eq h], rfl⟩
  | .raise e, w, ts, i, h => ⟨.raise e, by simp [Sched, Prog.sections, set_of_getElem?_eq h],
      rfl⟩
  | .atomic s k, w, ts, i, h => by
      obtain ⟨p', hp', hn⟩ := run_alone cfg (k (s.exec cfg w).2) (s.exec cfg w).1
        (ts.set i (k (s.exec cfg w).2)) i
        (by simp [List.getElem?_set, (List.getElem?_eq_some_iff.1 h).1])
      refine ⟨p', ?_, hn⟩
      rw [Prog.sections, List.replicate_succ]
      show Sched cfg _ (Move.apply cfg (.step i) (w, ts)) = _
      simp only [Move.apply, h, Prog.next]
      rw [hp', List.set_set]
      rfl

end Store
end Hyperlooms
