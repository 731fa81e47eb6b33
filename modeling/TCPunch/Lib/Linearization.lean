import TCPunch.Lib.Program
import Mathlib.Data.List.Nodup
import Mathlib.Data.List.Induction

/-! # Linearizable pools

A pool is linearizable when its tasks could as well have run one after another:
some order of the whole tasks gives every task the result it returned and leaves
the shared state as it was left. The simulation rule reduces this to one step. A
pool is followed by an abstract state and a log of the tasks that have taken
effect there; each answer either changes nothing abstractly or lets the answered
task take effect as a whole.
-/

namespace Pool

variable {ι σ α : Type} {Req : Type} {Reply : Req → Type}

/-- Run whole tasks one after another and note the result of each. -/
def serial (exec : (r : Req) → σ → Reply r × σ) (task : ι → Program Reply α) :
    List ι → σ → List (ι × α) × σ
  | [], s => ([], s)
  | i :: rest, s =>
      let out := (task i).run exec s
      let later := serial exec task rest out.2
      ((i, out.1) :: later.1, later.2)

/-- Some serial run of all tasks ends as the pool did. -/
def Linearizable (exec : (r : Req) → σ → Reply r × σ) (task : ι → Program Reply α) (s : σ)
    (final : Pool ι σ Reply α) : Prop :=
  ∃ order : List ι, order.Nodup ∧ (∀ i, i ∈ order) ∧
    (serial exec task order s).2 = final.shared ∧
    ∀ i a, (i, a) ∈ (serial exec task order s).1 → (final.task i).result = some a

variable {exec : (r : Req) → σ → Reply r × σ} {task : ι → Program Reply α}

theorem serial_snoc (order : List ι) (i : ι) (s : σ) :
    serial exec task (order ++ [i]) s =
      ((serial exec task order s).1 ++ [(i, ((task i).run exec (serial exec task order s).2).1)],
        ((task i).run exec (serial exec task order s).2).2) := by
  induction order generalizing s with
  | nil => rfl
  | cons j rest ih => simp only [List.cons_append, serial, ih]

/-- A task takes effect at most once: `log` lists the tasks that have, with their
    results, and `abstract` is the state after them. -/
structure Committed (exec : (r : Req) → σ → Reply r × σ) (task : ι → Program Reply α) (s : σ)
    (log : List (ι × α)) (abstract : σ) : Prop where
  once : (log.map Prod.fst).Nodup
  serial : serial exec task (log.map Prod.fst) s = (log, abstract)

theorem Committed.start (s : σ) : Committed exec task s [] s := ⟨List.nodup_nil, rfl⟩

theorem Committed.snoc {s abstract : σ} {log i} (h : Committed exec task s log abstract)
    (first : i ∉ log.map Prod.fst) :
    Committed exec task s (log ++ [(i, ((task i).run exec abstract).1)])
      ((task i).run exec abstract).2 := by
  constructor
  · rw [List.map_append, List.map_singleton, ← List.concat_eq_append]
    exact h.once.concat first
  · simp only [List.map_append, List.map_cons, List.map_nil, serial_snoc, h.serial]

/-- If the log has the results of a finished pool and the abstract state is the shared
    one, the log is the serial run sought. -/
theorem Committed.linearizable {s : σ} {log} {final : Pool ι σ Reply α}
    (h : Committed exec task s log final.shared) (finished : final.Finished)
    (results : ∀ i a, (i, a) ∈ log ↔ (final.task i).result = some a) :
    Linearizable exec task s final := by
  refine ⟨log.map Prod.fst, h.once, ?_, ?_, ?_⟩
  · intro i
    obtain ⟨a, returned⟩ := Option.isSome_iff_exists.mp (finished i)
    exact List.mem_map_of_mem ((results i a).mpr returned)
  · rw [h.serial]
  · intro i a member
    rw [h.serial] at member
    exact (results i a).mp member

/-- Simulation rule. If each allowed answer either is silent or is the point at which the
    answered task takes effect, then so is a whole schedule. -/
theorem follow_simulation [DecidableEq ι] {s : σ} {allowed : Pool ι σ Reply α → ι → Prop}
    {sim : List (ι × α) → σ → Pool ι σ Reply α → Prop}
    (initial : sim [] s (start s task))
    (step : ∀ log abstract pool i, sim log abstract pool → allowed pool i →
      sim log abstract (pool.advance exec i) ∨
        i ∉ log.map Prod.fst ∧ sim (log ++ [(i, ((task i).run exec abstract).1)])
          ((task i).run exec abstract).2 (pool.advance exec i))
    (schedule : List ι) (along : Along exec allowed (start s task) schedule) :
    ∃ log abstract, sim log abstract ((start s task).follow exec schedule) ∧
      Committed exec task s log abstract := by
  have kept : ∀ pool i,
      (∃ log abstract, sim log abstract pool ∧ Committed exec task s log abstract) →
        allowed pool i → ∃ log abstract, sim log abstract (pool.advance exec i) ∧
          Committed exec task s log abstract := by
    rintro pool i ⟨log, abstract, related, committed⟩ may
    rcases step log abstract pool i related may with silent | ⟨first, effect⟩
    · exact ⟨log, abstract, silent, committed⟩
    · exact ⟨_, _, effect, committed.snoc first⟩
  exact follow_invariant kept schedule ⟨[], s, initial, Committed.start s⟩ along

end Pool
