import Mathlib.Data.List.Count
import TCPunch.Lib.Machine
import TCPunch.Server.Handler

/-! # The accept loop and its tasks

`run_server` loads `active_connections` before it spawns the task of a connection, and the
task itself counts the connection when it first runs. Between the two, any number of
further connections may be accepted against the old count. A state holds where the loop
stands, the counters, and where each spawned task stands; every access to a counter is a
step of its own.
-/

namespace TCPunch.Accept

/-- The connection limit of `ServerConfig`, a `usize`. -/
structure ServerConfig where
  usizeBits : Nat
  maxConnections : Nat
  representable : maxConnections < 2 ^ usizeBits

/-- The counters of `ServerMetrics` that the loop and its tasks use. -/
structure ServerMetrics where
  activeConnections : Nat
  totalConnections : Nat
  errors : Nat
  deriving Repr, DecidableEq

/-- `fetch_add(1)` on a counter of the given width. -/
def fetchAdd (bits counter : Nat) : Nat := (counter + 1) % 2 ^ bits

/-- `fetch_sub(1)`, which wraps around at zero. -/
def fetchSub (bits counter : Nat) : Nat := (counter + (2 ^ bits - 1)) % 2 ^ bits

/-- Where the accept loop stands. -/
inductive Loop where
  /-- In `select!`. -/
  | selecting
  /-- A connection is accepted, and the limit is not yet looked at. -/
  | accepted
  /-- After the load of `active_connections`. -/
  | loaded (active : Nat)
  /-- After the shutdown signal. -/
  | stopped
  deriving Repr, DecidableEq

/-- Where a spawned task stands. -/
inductive Task where
  /-- Before `connection_started`. -/
  | spawned
  /-- Between the two updates of `connection_started`. -/
  | starting
  /-- In `handle_connection`. -/
  | serving
  /-- Before `error_occurred`. -/
  | failed
  /-- Before `connection_ended`. -/
  | ending
  | ended
  deriving Repr, DecidableEq

structure State where
  loop : Loop
  metrics : ServerMetrics
  tasks : List Task
  deriving Repr, DecidableEq

def State.init : State := ⟨.selecting, ⟨0, 0, 0⟩, []⟩

inductive TaskEvent where
  /-- The next update of a counter. -/
  | update
  /-- `handle_connection` returns. -/
  | returned (result : Except IoError Unit)

inductive Event where
  /-- The shutdown channel changed to the given value, and the loop notices. -/
  | shutdownChanged (value : Bool)
  | accept
  | acceptFailed
  | load
  /-- The loop compares what it loaded, and spawns a task or drops the stream. -/
  | checkLimit
  | task (i : Nat) (event : TaskEvent)

/-- A step of a task, with its effect on the counters. -/
def Task.step (config : ServerConfig) (m : ServerMetrics) : Task → TaskEvent → Option (ServerMetrics × Task)
  | .spawned, .update =>
      some ({ m with activeConnections := fetchAdd config.usizeBits m.activeConnections }, .starting)
  | .starting, .update => some ({ m with totalConnections := fetchAdd 64 m.totalConnections }, .serving)
  | .serving, .returned (.ok _) => some (m, .ending)
  | .serving, .returned (.error _) => some (m, .failed)
  | .failed, .update => some ({ m with errors := fetchAdd 64 m.errors }, .ending)
  | .ending, .update =>
      some ({ m with activeConnections := fetchSub config.usizeBits m.activeConnections }, .ended)
  | _, _ => none

def step (config : ServerConfig) (s : State) : Event → Option State
  | .shutdownChanged value =>
      if s.loop = .selecting then some (if value then { s with loop := .stopped } else s) else none
  | .accept => if s.loop = .selecting then some { s with loop := .accepted } else none
  | .acceptFailed => if s.loop = .selecting then some s else none
  | .load =>
      if s.loop = .accepted then some { s with loop := .loaded s.metrics.activeConnections } else none
  | .checkLimit =>
      match s.loop with
      | .loaded active =>
          if active ≥ config.maxConnections then
            some { s with loop := .selecting }
          else
            some { s with loop := .selecting, tasks := s.tasks ++ [.spawned] }
      | _ => none
  | .task i event => do
      let task ← s.tasks[i]?
      let (metrics, next) ← task.step config s.metrics event
      return { s with metrics, tasks := s.tasks.set i next }

/-! ## Counting tasks -/

/-- The task has been counted in `active_connections`, and still is. -/
def Task.Counted (task : Task) : Bool := task ≠ .spawned && task ≠ .ended

namespace State

/-- The connections whose task has been spawned and has not ended. -/
def live (s : State) : Nat := s.tasks.countP (· ≠ .ended)

/-- The tasks that have not run yet. -/
def pending (s : State) : Nat := s.tasks.countP (· = .spawned)

def counted (s : State) : Nat := s.tasks.countP Task.Counted

theorem live_eq (s : State) : s.live = s.counted + s.pending := by
  unfold live counted pending
  induction s.tasks with
  | nil => rfl
  | cons task tasks ih => cases task <;> simp_all [Task.Counted] <;> omega

end State

theorem Task.step_cases {config : ServerConfig} {m m' : ServerMetrics} {task next : Task}
    {event : TaskEvent} (taken : task.step config m event = some (m', next)) :
    (task = .spawned ∧ next = .starting ∧
      m'.activeConnections = fetchAdd config.usizeBits m.activeConnections) ∨
    (task = .ending ∧ next = .ended ∧
      m'.activeConnections = fetchSub config.usizeBits m.activeConnections) ∨
    (task.Counted ∧ next.Counted ∧ m'.activeConnections = m.activeConnections) := by
  unfold Task.step at taken
  split at taken <;> cases taken <;> simp [Task.Counted]

theorem countP_set {α : Type} (p : α → Bool) {l : List α} {i : Nat} {a : α} (found : l[i]? = some a)
    (b : α) : (l.set i b).countP p + (if p a then 1 else 0) = l.countP p + (if p b then 1 else 0) := by
  obtain ⟨inside, here⟩ := List.getElem?_eq_some_iff.mp found
  have counted : (if p a then 1 else 0) ≤ l.countP p := by
    split
    · rename_i holds
      exact List.countP_pos_iff.mpr ⟨a, List.mem_of_getElem? found, holds⟩
    · exact Nat.zero_le _
  rw [List.countP_set inside, here]
  omega

theorem fetchAdd_eq {bits counter : Nat} (small : counter + 1 < 2 ^ bits) :
    fetchAdd bits counter = counter + 1 := Nat.mod_eq_of_lt small

theorem fetchSub_succ {bits counter : Nat} (small : counter < 2 ^ bits) :
    fetchSub bits (counter + 1) = counter := by
  have whole : counter + 1 + (2 ^ bits - 1) = counter + 2 ^ bits := by omega
  rw [fetchSub, whole, Nat.add_mod_right, Nat.mod_eq_of_lt small]

/-! ## The limit -/

/-- The limit holds, the counter is exact, and a load that found room still has it. -/
structure Within (config : ServerConfig) (s : State) : Prop where
  tally : s.metrics.activeConnections = s.counted
  bounded : s.live ≤ config.maxConnections
  room : ∀ active, s.loop = .loaded active → active < config.maxConnections →
    s.live < config.maxConnections

/-- A load that finds room is made when the tasks that are not counted yet fit into it. -/
def CountsPending (config : ServerConfig) (s : State) : Event → Prop
  | .load => s.metrics.activeConnections < config.maxConnections →
      s.pending < config.maxConnections - s.metrics.activeConnections
  | _ => True

instance (config : ServerConfig) (s : State) : (event : Event) → Decidable (CountsPending config s event)
  | .load => inferInstanceAs (Decidable (_ → _))
  | .shutdownChanged _ | .accept | .acceptFailed | .checkLimit | .task _ _ => isTrue trivial

variable {config : ServerConfig} {s s' : State}

theorem step_task_eq {i : Nat} {event : TaskEvent} (taken : step config s (.task i event) = some s') :
    ∃ task metrics next, s.tasks[i]? = some task ∧
      task.step config s.metrics event = some (metrics, next) ∧
      s' = { s with metrics, tasks := s.tasks.set i next } := by
  obtain ⟨task, found, taken⟩ := Option.bind_eq_some_iff.mp taken
  obtain ⟨⟨metrics, next⟩, moved, taken⟩ := Option.bind_eq_some_iff.mp taken
  exact ⟨task, metrics, next, found, moved, (Option.some.inj taken).symm⟩

theorem step_task_cases {i : Nat} {event : TaskEvent}
    (taken : step config s (.task i event) = some s') :
    s'.loop = s.loop ∧
      ((s'.counted = s.counted + 1 ∧ s'.live = s.live ∧ s'.metrics.activeConnections =
          fetchAdd config.usizeBits s.metrics.activeConnections) ∨
        (s'.counted + 1 = s.counted ∧ s'.live + 1 = s.live ∧ s'.metrics.activeConnections =
          fetchSub config.usizeBits s.metrics.activeConnections) ∨
        (s'.counted = s.counted ∧ s'.live = s.live ∧
          s'.metrics.activeConnections = s.metrics.activeConnections)) := by
  obtain ⟨task, metrics, next, found, moved, rfl⟩ := step_task_eq taken
  have live := countP_set (fun task => decide (task ≠ .ended)) found next
  have counted := countP_set Task.Counted found next
  refine ⟨rfl, ?_⟩
  obtain ⟨rfl, rfl, active⟩ | ⟨rfl, rfl, active⟩ | ⟨before, after, active⟩ := Task.step_cases moved
  · exact .inl ⟨counted, by simpa [State.live] using live, active⟩
  · exact .inr (.inl ⟨counted, by simpa [State.live] using live, active⟩)
  · have alive {task : Task} (is : task.Counted) : task ≠ .ended := by
      rintro rfl
      cases is
    simp only [before, after, alive before, alive after, ne_eq, not_false_eq_true, decide_true,
      if_true, Nat.add_right_cancel_iff] at live counted
    exact .inr (.inr ⟨counted, live, active⟩)

theorem Within.task (within : Within config s) {i : Nat} {event : TaskEvent}
    (taken : step config s (.task i event) = some s') : Within config s' := by
  obtain ⟨tally, bounded, room⟩ := within
  have fits := config.representable
  have total := s.live_eq
  have total' := s'.live_eq
  obtain ⟨loop, ⟨counted, live, active⟩ | ⟨counted, live, active⟩ | ⟨counted, live, active⟩⟩ :=
    step_task_cases taken
  · have small : s.metrics.activeConnections + 1 < 2 ^ config.usizeBits := by omega
    rw [fetchAdd_eq small, tally] at active
    refine ⟨active.trans counted.symm, by omega, ?_⟩
    rw [loop, live]
    exact room
  · have small : s'.counted < 2 ^ config.usizeBits := by omega
    rw [tally, ← counted, fetchSub_succ small] at active
    refine ⟨active, by omega, ?_⟩
    intro _ _ _
    omega
  · refine ⟨active.trans (tally.trans counted.symm), by omega, ?_⟩
    rw [loop, live]
    exact room

theorem Within.move (within : Within config s) {loop : Loop}
    (room : ∀ active, loop = .loaded active → active < config.maxConnections →
      s.live < config.maxConnections) : Within config { s with loop } :=
  ⟨within.tally, within.bounded, room⟩

theorem step_cases {event : Event} (taken : step config s event = some s') :
    (∃ i change, event = .task i change) ∨
    (event = .load ∧ s.loop = .accepted ∧
      s' = { s with loop := .loaded s.metrics.activeConnections }) ∨
    (∃ active, s.loop = .loaded active ∧ active < config.maxConnections ∧
      s' = { s with loop := .selecting, tasks := s.tasks ++ [.spawned] }) ∨
    ∃ loop, (∀ active, loop ≠ .loaded active) ∧ s' = { s with loop } := by
  cases event with
  | task i change => exact .inl ⟨i, change, rfl⟩
  | load =>
      simp only [step, Option.ite_none_right_eq_some, Option.some.injEq] at taken
      exact .inr (.inl ⟨rfl, taken.1, taken.2.symm⟩)
  | checkLimit =>
      simp only [step] at taken
      split at taken
      · rename_i active found
        split at taken
        · exact .inr (.inr (.inr ⟨.selecting, by simp, (Option.some.inj taken).symm⟩))
        · rename_i free
          exact .inr (.inr (.inl ⟨active, found, Nat.not_le.mp free, (Option.some.inj taken).symm⟩))
      · cases taken
  | shutdownChanged value =>
      simp only [step, Option.ite_none_right_eq_some, Option.some.injEq] at taken
      obtain ⟨found, same⟩ := taken
      cases value with
      | false => exact .inr (.inr (.inr ⟨.selecting, by simp, by rw [← found]; exact same.symm⟩))
      | true => exact .inr (.inr (.inr ⟨.stopped, by simp, same.symm⟩))
  | accept =>
      simp only [step, Option.ite_none_right_eq_some, Option.some.injEq] at taken
      exact .inr (.inr (.inr ⟨.accepted, by simp, taken.2.symm⟩))
  | acceptFailed =>
      simp only [step, Option.ite_none_right_eq_some, Option.some.injEq] at taken
      obtain ⟨found, same⟩ := taken
      exact .inr (.inr (.inr ⟨.selecting, by simp, by rw [← found]; exact same.symm⟩))

theorem live_spawn (s : State) (loop : Loop) :
    State.live { s with loop, tasks := s.tasks ++ [.spawned] } = s.live + 1 := by
  simp [State.live]

theorem counted_spawn (s : State) (loop : Loop) :
    State.counted { s with loop, tasks := s.tasks ++ [.spawned] } = s.counted := by
  simp [State.counted, Task.Counted]

theorem Within.step (within : Within config s) (event : Event) (timely : CountsPending config s event)
    (taken : step config s event = some s') : Within config s' := by
  rcases step_cases taken with ⟨i, change, rfl⟩ | ⟨rfl, -, rfl⟩ | ⟨active, found, free, rfl⟩ |
    ⟨loop, elsewhere, rfl⟩
  · exact within.task taken
  · refine within.move fun active found free => ?_
    cases found
    have fits := timely free
    have total := s.live_eq
    have tally := within.tally
    omega
  · refine ⟨?_, ?_, by rintro _ ⟨⟩⟩
    · rw [counted_spawn]
      exact within.tally
    · rw [live_spawn]
      exact within.room active found free
  · exact within.move fun active found => absurd found (elsewhere active)

/-- A load that finds room, followed at once by the decision, spawns a task. -/
theorem live_of_load_check (accepted : s.loop = .accepted)
    (free : s.metrics.activeConnections < config.maxConnections)
    (spawns : Machine.run (step config) s [.load, .checkLimit] = some s') : s'.live = s.live + 1 := by
  simp only [Machine.run, step, accepted, if_true, Option.bind_some, ge_iff_le,
    if_neg (Nat.not_le.mpr free), Option.some.injEq] at spawns
  rw [← spawns, live_spawn]

theorem within_init (config : ServerConfig) : Within config .init :=
  ⟨rfl, Nat.zero_le _, by rintro _ ⟨⟩⟩

/-- In every run whose loads of `active_connections` all find the pending tasks within the
    room, the limit holds in every state, and with it for the counter. From any state of such
    a run, a load that finds room and goes on to spawn a task at once keeps the limit exactly
    under that condition. -/
theorem limit_holds_if_pending_counted (config : ServerConfig) (actions : List Event) (s : State)
    (timely : Machine.Along (step config) (CountsPending config) .init actions)
    (runs : Machine.run (step config) .init actions = some s) :
    (s.live ≤ config.maxConnections ∧ s.metrics.activeConnections ≤ config.maxConnections) ∧
      (s.loop = .accepted → s.metrics.activeConnections < config.maxConnections →
        ∀ s', Machine.run (step config) s [.load, .checkLimit] = some s' →
          (s'.live ≤ config.maxConnections ↔ CountsPending config s .load)) := by
  have within : Within config s :=
    Machine.run_invariant (fun _ event _ within => within.step event) (within_init config) timely runs
  have total := s.live_eq
  have tally := within.tally
  have bounded := within.bounded
  refine ⟨⟨bounded, by omega⟩, ?_⟩
  intro accepted free s' spawns
  rw [live_of_load_check accepted free spawns]
  constructor
  · intro fits _
    omega
  · intro fits
    have room := fits free
    omega

/-- With room for two, a connection is accepted while the task of another is still to run. -/
theorem limit_holds_for_two :
    let config : ServerConfig := ⟨64, 2, by decide⟩
    let s : State := ⟨.selecting, ⟨1, 1, 0⟩, [.serving, .spawned]⟩
    (s.live ≤ config.maxConnections ∧ s.metrics.activeConnections ≤ config.maxConnections) ∧
      (s.loop = .accepted → s.metrics.activeConnections < config.maxConnections →
        ∀ s', Machine.run (step config) s [.load, .checkLimit] = some s' →
          (s'.live ≤ config.maxConnections ↔ CountsPending config s .load)) :=
  limit_holds_if_pending_counted ⟨64, 2, by decide⟩
    [.accept, .load, .checkLimit, .accept, .load, .checkLimit, .task 0 .update, .task 0 .update] _
    (by decide) (by decide)

/-- The loop takes connections one after the other, and no task runs. -/
def burst : Nat → List Event
  | 0 => []
  | n + 1 => .accept :: .load :: .checkLimit :: burst n

theorem run_burst (config : ServerConfig) (positive : 0 < config.maxConnections) (n : Nat)
    (tasks : List Task) :
    Machine.run (step config) { State.init with tasks } (burst n) =
      some { State.init with tasks := tasks ++ List.replicate n .spawned } := by
  induction n generalizing tasks with
  | zero => simp [burst, Machine.run]
  | succ n ih =>
      have free : ¬ config.maxConnections ≤ 0 := Nat.not_le.mpr positive
      have rest := ih (tasks ++ [.spawned])
      simp only [State.init] at rest
      simp only [burst, Machine.run, step, State.init, if_true, Option.bind_some, ge_iff_le, if_neg free,
        rest, List.append_assoc, List.singleton_append, List.replicate_succ]

/-- With room for one, two connections are accepted before the first task runs. -/
theorem burst_exceeds_limit :
    let config : ServerConfig := ⟨64, 1, by decide⟩
    (Machine.run (step config) .init (burst 2)).map State.live = some 2 ∧
    (Machine.run (step config) .init (burst 2 ++ [.task 0 .update, .task 1 .update])).map
      (·.metrics.activeConnections) = some 2 := by
  intro config
  have lets : Machine.run (step config) .init (burst 2) =
      some { State.init with tasks := [.spawned, .spawned] } := run_burst config Nat.one_pos 2 []
  rw [Machine.run_append, lets]
  decide

end TCPunch.Accept
