import Mathlib.Data.Fintype.Basic
import Mathlib.Logic.Function.Basic

/-! # Programs as trees of requests to shared state

An asynchronous function talks to the state it shares with other tasks only
through requests: a call on a concurrent map, a command sent to a store. Its
text is one `Program`, and what the text means depends on who answers. `run`
answers all requests of one program without interruption, so the call is atomic.
A `Pool` answers one request of one task at a time, so that a schedule, a list of
task names, is exactly one interleaving of the tasks' requests.
-/

/-- A computation that stops with a result or waits for the reply to a request. -/
inductive Program {Req : Type} (Reply : Req → Type) (α : Type) where
  /-- The computation has returned. -/
  | done (result : α)
  /-- The computation continues as `next` says once the request is answered. -/
  | call (request : Req) (next : Reply request → Program Reply α)

namespace Program

variable {Req : Type} {Reply : Req → Type} {α β σ : Type}

protected def bind : Program Reply α → (α → Program Reply β) → Program Reply β
  | .done a, f => f a
  | .call r next, f => .call r fun reply => (next reply).bind f

instance : Monad (Program Reply) where
  pure := .done
  bind := Program.bind

@[simp] theorem done_bind (a : α) (f : α → Program Reply β) :
    (Program.done a >>= f) = f a := rfl

@[simp] theorem call_bind (r : Req) (next : Reply r → Program Reply α)
    (f : α → Program Reply β) :
    (Program.call r next >>= f) = .call r fun reply => next reply >>= f := rfl

@[simp] theorem pure_eq_done (a : α) : (pure a : Program Reply α) = .done a := rfl

/-- Answer every request at once, with nothing else touching the state. -/
def run (exec : (r : Req) → σ → Reply r × σ) : Program Reply α → σ → α × σ
  | .done a, s => (a, s)
  | .call r next, s => (next (exec r s).1).run exec (exec r s).2

@[simp] theorem run_done (exec : (r : Req) → σ → Reply r × σ) (a : α) (s : σ) :
    (Program.done a : Program Reply α).run exec s = (a, s) := rfl

@[simp] theorem run_call (exec : (r : Req) → σ → Reply r × σ) (r : Req)
    (next : Reply r → Program Reply α) (s : σ) :
    (Program.call r next).run exec s = (next (exec r s).1).run exec (exec r s).2 := rfl

theorem run_bind (exec : (r : Req) → σ → Reply r × σ) (p : Program Reply α)
    (f : α → Program Reply β) (s : σ) :
    (p >>= f).run exec s = (f (p.run exec s).1).run exec (p.run exec s).2 := by
  induction p generalizing s with
  | done a => rfl
  | call r next ih => exact ih (exec r s).1 (exec r s).2

/-- Whatever it is answered, the program makes no other requests than these. -/
def Only (allowed : Req → Prop) : Program Reply α → Prop
  | .done _ => True
  | .call r next => allowed r ∧ ∀ reply, (next reply).Only allowed

theorem Only.bind {allowed : Req → Prop} {p : Program Reply α} {f : α → Program Reply β}
    (first : p.Only allowed) (rest : ∀ a, (f a).Only allowed) : (p >>= f).Only allowed := by
  induction p with
  | done a => exact rest a
  | call r next ih => exact ⟨first.1, fun reply => ih reply (first.2 reply)⟩

theorem Only.run_invariant {allowed : Req → Prop} {exec : (r : Req) → σ → Reply r × σ}
    {p : Program Reply α} (only : p.Only allowed) (inv : σ → Prop)
    (kept : ∀ r s, allowed r → inv s → inv (exec r s).2) {s : σ} (start : inv s) :
    inv (p.run exec s).2 := by
  induction p generalizing s with
  | done a => exact start
  | call r next ih => exact ih _ (only.2 _) (kept r s only.1 start)

/-- Whatever it is answered, the program ends with a result that fits its history. A request
    adds to the history what can be seen of it. -/
def Concludes {ω : Type} (seen : Req → List ω) (fits : α → List ω → Prop) :
    Program Reply α → List ω → Prop
  | .done a, past => fits a past
  | .call r next, past => ∀ reply, (next reply).Concludes seen fits (past ++ seen r)

/-- What has been seen so far is the beginning of a fitting history. -/
theorem Concludes.exists_history {ω : Type} {seen : Req → List ω} {fits : α → List ω → Prop}
    (answerable : ∀ r, Nonempty (Reply r)) {p : Program Reply α} {past : List ω}
    (concludes : p.Concludes seen fits past) : ∃ a history, fits a history ∧ past <+: history := by
  induction p generalizing past with
  | done a => exact ⟨a, past, concludes, List.prefix_refl past⟩
  | call r next ih =>
      obtain ⟨reply⟩ := answerable r
      obtain ⟨a, history, good, later⟩ := ih reply (concludes reply)
      exact ⟨a, history, good, (List.prefix_append past (seen r)).trans later⟩

/-- The result, if the program has returned. -/
def result : Program Reply α → Option α
  | .done a => some a
  | .call _ _ => none

/-- The request that waits for its answer. -/
def request : Program Reply α → Option Req
  | .done _ => none
  | .call r _ => some r

end Program

/-- Tasks that share one state. `replies` remembers, newest first, what each task
    has been answered; no task reads it. -/
structure Pool (ι σ : Type) {Req : Type} (Reply : Req → Type) (α : Type) where
  shared : σ
  task : ι → Program Reply α
  replies : ι → List ((r : Req) × Reply r)

namespace Pool

variable {ι σ α : Type} [DecidableEq ι] {Req : Type} {Reply : Req → Type}

/-- Tasks about to make their first request. -/
def start (shared : σ) (task : ι → Program Reply α) : Pool ι σ Reply α :=
  { shared, task, replies := fun _ => [] }

/-- Answer the next request of task `i`. A task that has returned stays as it is. -/
def advance (exec : (r : Req) → σ → Reply r × σ) (pool : Pool ι σ Reply α) (i : ι) :
    Pool ι σ Reply α :=
  match pool.task i with
  | .done _ => pool
  | .call r next =>
      { shared := (exec r pool.shared).2
        task := Function.update pool.task i (next (exec r pool.shared).1)
        replies := Function.update pool.replies i
          (⟨r, (exec r pool.shared).1⟩ :: pool.replies i) }

/-- Answer requests in the order a schedule names the tasks. -/
def follow (exec : (r : Req) → σ → Reply r × σ) :
    Pool ι σ Reply α → List ι → Pool ι σ Reply α
  | pool, [] => pool
  | pool, i :: rest => (pool.advance exec i).follow exec rest

/-- Every answer of the schedule is given in a state that meets the condition. -/
def Along (exec : (r : Req) → σ → Reply r × σ) (allowed : Pool ι σ Reply α → ι → Prop) :
    Pool ι σ Reply α → List ι → Prop
  | _, [] => True
  | pool, i :: rest => allowed pool i ∧ Along exec allowed (pool.advance exec i) rest

instance decidableAlong (exec : (r : Req) → σ → Reply r × σ)
    (allowed : Pool ι σ Reply α → ι → Prop) [∀ pool i, Decidable (allowed pool i)] :
    (pool : Pool ι σ Reply α) → (schedule : List ι) → Decidable (Along exec allowed pool schedule)
  | _, [] => isTrue trivial
  | pool, i :: rest =>
      have := decidableAlong exec allowed (pool.advance exec i) rest
      inferInstanceAs (Decidable (_ ∧ _))

/-- Every task has returned. -/
def Finished (pool : Pool ι σ Reply α) : Prop := ∀ i, (pool.task i).result.isSome = true

instance [Fintype ι] (pool : Pool ι σ Reply α) : Decidable pool.Finished :=
  inferInstanceAs (Decidable (∀ _, _))

variable {exec : (r : Req) → σ → Reply r × σ} {pool : Pool ι σ Reply α}

theorem advance_done {i a} (h : pool.task i = .done a) : pool.advance exec i = pool := by
  simp only [advance, h]

theorem advance_call {i r next} (h : pool.task i = .call r next) :
    pool.advance exec i =
      { shared := (exec r pool.shared).2
        task := Function.update pool.task i (next (exec r pool.shared).1)
        replies := Function.update pool.replies i
          (⟨r, (exec r pool.shared).1⟩ :: pool.replies i) } := by
  simp only [advance, h]

theorem advance_shared {i r next} (h : pool.task i = .call r next) :
    (pool.advance exec i).shared = (exec r pool.shared).2 := by
  rw [advance_call h]

theorem advance_task_self {i r next} (h : pool.task i = .call r next) :
    (pool.advance exec i).task i = next (exec r pool.shared).1 := by
  rw [advance_call h]
  exact Function.update_self ..

theorem advance_task_other {i j} (other : j ≠ i) : (pool.advance exec i).task j = pool.task j := by
  cases h : pool.task i with
  | done a => rw [advance_done h]
  | call r next => rw [advance_call h]; exact Function.update_of_ne other _ _

/-- An invariant kept by every allowed answer holds after every allowed schedule. -/
theorem follow_invariant {allowed : Pool ι σ Reply α → ι → Prop} {inv : Pool ι σ Reply α → Prop}
    (kept : ∀ pool i, inv pool → allowed pool i → inv (pool.advance exec i))
    (schedule : List ι) (start : inv pool) (along : Along exec allowed pool schedule) :
    inv (pool.follow exec schedule) := by
  induction schedule generalizing pool with
  | nil => exact start
  | cons i rest ih => exact ih (kept pool i start along.1) along.2

end Pool
