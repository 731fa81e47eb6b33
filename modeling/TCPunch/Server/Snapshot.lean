import TCPunch.Server.Accounting

/-! # A snapshot of the counters

`ServerMetrics::snapshot` loads the counters one after the other, and the tasks go on between
two loads. So the numbers that it returns need not have been there together at any time. Each
is one that its counter had in the meantime; but since the outcomes are loaded after the
connections, a snapshot can show more outcomes than connections.

The loads and the increments are `Relaxed`, which orders nothing between two counters. Here they
take effect one at a time, and those of one thread in the order of its program; this is assumed
of the machine, not asked for by the source.
-/

namespace TCPunch.Accounting

open Accept (ServerConfig)

structure MetricsSnapshot where
  activeConnections : Nat
  totalConnections : Nat
  successfulPairings : Nat
  timeouts : Nat
  errors : Nat
  deriving Repr, DecidableEq

/-- `ServerMetrics::snapshot`. The lists are what the server does between two loads. -/
def snapshot (config : ServerConfig) (s : State) (first second third fourth : List Event) :
    Option (MetricsSnapshot × State) := do
  let activeConnections := s.server.metrics.activeConnections
  let s ← Machine.run (step config) s first
  let totalConnections := s.value .totalConnections
  let s ← Machine.run (step config) s second
  let successfulPairings := s.value .successfulPairings
  let s ← Machine.run (step config) s third
  let timeouts := s.value .timeouts
  let s ← Machine.run (step config) s fourth
  let errors := s.value .errors
  return ({ activeConnections, totalConnections, successfulPairings, timeouts, errors }, s)

variable {config : ServerConfig} {s s' s'' : State}

/-! ## What only grows -/

/-- Tasks stay in their list, and the increments they have made stay made. -/
structure Grows (s s' : State) : Prop where
  tasks : s.server.tasks.length ≤ s'.server.tasks.length
  made : ∀ i, (s.sessions i).made <+: (s'.sessions i).made

theorem Grows.refl (s : State) : Grows s s := ⟨Nat.le_refl _, fun _ => List.prefix_refl _⟩

theorem Grows.trans (one : Grows s s') (other : Grows s' s'') : Grows s s'' :=
  ⟨one.tasks.trans other.tasks, fun i => (one.made i).trans (other.made i)⟩

theorem Grows.increments_le (grows : Grows s s') (counter : Counter) :
    s.increments counter ≤ s'.increments counter := by
  unfold State.increments
  calc ∑ i ∈ Finset.range s.server.tasks.length, (s.sessions i).made.count counter
    _ ≤ ∑ i ∈ Finset.range s.server.tasks.length, (s'.sessions i).made.count counter :=
        Finset.sum_le_sum fun i _ => (grows.made i).sublist.count_le counter
    _ ≤ ∑ i ∈ Finset.range s'.server.tasks.length, (s'.sessions i).made.count counter :=
        Finset.sum_le_sum_of_subset (Finset.range_mono grows.tasks)

theorem length_tasks_le {server after : Accept.State} {change : Accept.Event}
    (moved : Accept.step config server change = some after) : server.tasks.length ≤ after.tasks.length := by
  rcases Accept.step_cases moved with ⟨i, moves, rfl⟩ | ⟨-, -, rfl⟩ | ⟨-, -, -, rfl⟩ | ⟨loop, -, rfl⟩
  · obtain ⟨task, metrics, next, -, -, rfl⟩ := Accept.step_task_eq moved
    exact (List.length_set ..).ge
  · exact Nat.le_refl _
  · rw [List.length_append]
    exact Nat.le_add_right _ _
  · exact Nat.le_refl _

theorem made_record (i j : Nat) (code : Handler.Code (Except IoError Unit)) (counter : Option Counter) :
    (s.sessions j).made <+: (s.record i code counter j).made := by
  unfold State.record
  by_cases here : j = i
  · subst here
    rw [Function.update_self]
    exact List.prefix_append _ _
  · rw [Function.update_of_ne here]

theorem grows_of_step {event : Event} (taken : step config s event = some s') : Grows s s' := by
  rcases step_cases taken with ⟨change, server, -, moved, rfl⟩ | ⟨i, task, server, -, moved, rfl⟩ |
    ⟨i, call, next, reply, -, -, rfl⟩ | ⟨i, result, server, -, moved, rfl⟩
  · exact ⟨length_tasks_le moved, fun _ => List.prefix_refl _⟩
  · exact ⟨length_tasks_le moved, fun j => made_record i j _ _⟩
  · exact ⟨by rw [count_server], fun j => made_record i j _ _⟩
  · exact ⟨length_tasks_le moved, fun _ => List.prefix_refl _⟩

theorem grows_of_run {events : List Event} (runs : Machine.run (step config) s events = some s') :
    Grows s s' := by
  have kept : ∀ (t : State) (event : Event) (t' : State), Grows s t → step config t event = some t' →
      Grows s t' := fun _ _ _ grows taken => grows.trans (grows_of_step taken)
  exact Machine.run_keeps kept (Grows.refl s) runs

/-! ## Active and total connections -/

/-- A task that counts as active has been counted in the total, unless it is halfway through
    `connection_started`. -/
def Ahead (s : State) : Prop :=
  s.server.counted ≤ s.increments .totalConnections + s.server.tasks.countP (· = .starting)

/-- A task may come to count as active when it is counted in the total or is about to be. -/
theorem Ahead.move (ahead : Ahead s) {i gain : Nat} {task next : Accept.Task}
    (found : s.server.tasks[i]? = some task) (tasks : s'.server.tasks = s.server.tasks.set i next)
    (more : s.increments .totalConnections + gain ≤ s'.increments .totalConnections)
    (balance : (if next.Counted then 1 else 0) + (if task = .starting then 1 else 0) ≤
      (if task.Counted then 1 else 0) + (if next = .starting then 1 else 0) + gain) : Ahead s' := by
  have counted := Accept.countP_set Accept.Task.Counted found next
  have starting := Accept.countP_set (· = .starting) found next
  simp only [decide_eq_true_eq] at starting
  unfold Ahead Accept.State.counted at ahead ⊢
  rw [tasks]
  omega

theorem Ahead.keep (ahead : Ahead s) (tasks : s'.server.tasks = s.server.tasks) (grows : Grows s s') :
    Ahead s' := by
  have more := grows.increments_le .totalConnections
  unfold Ahead Accept.State.counted at ahead ⊢
  rw [tasks]
  omega

theorem balance_update {m m' : Accept.ServerMetrics} {task next : Accept.Task}
    (stepped : task.step config m .update = some (m', next)) :
    (if next.Counted then 1 else 0) + (if task = .starting then 1 else 0) ≤
      (if task.Counted then 1 else 0) + (if next = .starting then 1 else 0) +
        (ofTask task).toList.count .totalConnections := by
  cases task with
  | spawned | starting | failed | ending =>
      cases stepped
      decide
  | serving | ended => cases stepped

theorem balance_returned {m m' : Accept.ServerMetrics} {task next : Accept.Task} {result : Except IoError Unit}
    (stepped : task.step config m (.returned result) = some (m', next)) :
    (if next.Counted then 1 else 0) + (if task = .starting then 1 else 0) ≤
      (if task.Counted then 1 else 0) + (if next = .starting then 1 else 0) + 0 := by
  cases task with
  | serving =>
      cases result with
      | ok =>
          cases stepped
          decide
      | error e =>
          cases stepped
          decide
  | spawned | starting | failed | ending | ended => cases stepped

theorem Ahead.step (ahead : Ahead s) {event : Event} (taken : step config s event = some s') : Ahead s' := by
  have grows := grows_of_step taken
  have more := grows.increments_le .totalConnections
  rcases step_cases taken with ⟨change, server, own, moved, same⟩ | ⟨i, task, server, found, moved, same⟩ |
    ⟨i, call, next, reply, -, -, same⟩ | ⟨i, result, server, -, moved, same⟩
  · rcases Accept.step_cases moved with ⟨i, moves, rfl⟩ | ⟨-, -, rfl⟩ | ⟨-, -, -, rfl⟩ | ⟨loop, -, rfl⟩
    · exact absurd rfl (own i moves)
    · exact ahead.keep (by rw [same]) grows
    · -- The new task is not active yet.
      unfold Ahead Accept.State.counted at ahead ⊢
      rw [same] at more ⊢
      simp only [List.countP_append]
      exact ahead.trans (Nat.add_le_add_right more _)
    · exact ahead.keep (by rw [same]) grows
  · obtain ⟨task', metrics, next, found', stepped, rfl⟩ := Accept.step_task_eq moved
    obtain rfl := Option.some.inj (found.symm.trans found')
    have inside := (List.getElem?_eq_some_iff.mp found).1
    have tasks : s'.server.tasks = s.server.tasks.set i next := by rw [same]
    have length : s'.server.tasks.length = s.server.tasks.length := by rw [tasks, List.length_set]
    have sum := increments_record inside length (by rw [same]) .totalConnections
    exact ahead.move found tasks sum.ge (balance_update stepped)
  · exact ahead.keep (by rw [same, count_server]) grows
  · obtain ⟨task, metrics, next, found, stepped, rfl⟩ := Accept.step_task_eq moved
    exact ahead.move found (by rw [same]) more (balance_returned stepped)

theorem ahead_of_run {peerAddr : Nat → SocketAddr} {events : List Event}
    (runs : Machine.run (step config) (.init peerAddr) events = some s) : Ahead s := by
  have start : Ahead (.init peerAddr) := Nat.zero_le _
  exact Machine.run_keeps (fun _ _ _ ahead => ahead.step) start runs

/-! ## What a snapshot shows -/

theorem Balanced.value_eq (balanced : Balanced s) (few : s.increments .totalConnections < 2 ^ 64)
    (counter : Counter) : s.value counter = s.increments counter := by
  have outcomes := balanced.outcomes_le
  rw [balanced.sums counter]
  apply Nat.mod_eq_of_lt
  cases counter with
  | totalConnections => exact few
  | successfulPairings | timeouts | errors => omega

theorem balanced_of_run (balanced : Balanced s) {events : List Event}
    (runs : Machine.run (step config) s events = some s') : Balanced s' :=
  Machine.run_keeps (fun _ _ _ balanced => balanced.step) balanced runs

theorem value_le_of_run (balanced : Balanced s) {events : List Event}
    (runs : Machine.run (step config) s events = some s') (few : s'.increments .totalConnections < 2 ^ 64)
    (counter : Counter) : s.value counter ≤ s'.value counter := by
  have grows := grows_of_run runs
  have fewer := (grows.increments_le .totalConnections).trans_lt few
  rw [balanced.value_eq fewer, (balanced_of_run balanced runs).value_eq few]
  exact grows.increments_le counter

/-- A counter that is loaded on the way shows a value between those at the two ends. -/
theorem value_between {t : State} (balanced : Balanced s) {before behind : List Event}
    (first : Machine.run (step config) s before = some t)
    (second : Machine.run (step config) t behind = some s')
    (few : s'.increments .totalConnections < 2 ^ 64) (counter : Counter) :
    s.value counter ≤ t.value counter ∧ t.value counter ≤ s'.value counter := by
  have fewer := ((grows_of_run second).increments_le .totalConnections).trans_lt few
  exact ⟨value_le_of_run balanced first fewer counter,
    value_le_of_run (balanced_of_run balanced first) second few counter⟩

/-- A snapshot of a running server, whatever the server does meanwhile, as long as the
    connections fit their counter. Each of the four counters that only grow is shown with a
    value between those before and after. The outcomes shown are at most the connections at the
    end. If the active tasks fit their counter, the active connections shown exceed the total
    shown by at most the tasks that were halfway through `connection_started`. -/
theorem snapshot_shows {peerAddr : Nat → SocketAddr} {events first second third fourth : List Event}
    {shown : MetricsSnapshot} (runs : Machine.run (step config) (.init peerAddr) events = some s)
    (taken : snapshot config s first second third fourth = some (shown, s'))
    (few : s'.increments .totalConnections < 2 ^ 64) :
    (s.value .totalConnections ≤ shown.totalConnections ∧
      shown.totalConnections ≤ s'.value .totalConnections) ∧
    (s.value .successfulPairings ≤ shown.successfulPairings ∧
      shown.successfulPairings ≤ s'.value .successfulPairings) ∧
    (s.value .timeouts ≤ shown.timeouts ∧ shown.timeouts ≤ s'.value .timeouts) ∧
    (s.value .errors ≤ shown.errors ∧ shown.errors ≤ s'.value .errors) ∧
    shown.successfulPairings + shown.timeouts + shown.errors ≤ s'.value .totalConnections ∧
    (s.server.counted < 2 ^ config.usizeBits →
      shown.activeConnections ≤ shown.totalConnections + s.server.tasks.countP (· = .starting)) := by
  have balanced : Balanced s := balanced_of_run (balanced_init peerAddr) runs
  obtain ⟨s₁, run₁, taken⟩ := Option.bind_eq_some_iff.mp taken
  obtain ⟨s₂, run₂, taken⟩ := Option.bind_eq_some_iff.mp taken
  obtain ⟨s₃, run₃, taken⟩ := Option.bind_eq_some_iff.mp taken
  obtain ⟨s₄, run₄, taken⟩ := Option.bind_eq_some_iff.mp taken
  cases taken
  -- The runs from the first load to each of the others, and from there to the end.
  have to₂ : Machine.run (step config) s (first ++ second) = some s₂ := by
    rw [Machine.run_append, run₁, Option.bind_some, run₂]
  have to₃ : Machine.run (step config) s (first ++ second ++ third) = some s₃ := by
    rw [Machine.run_append, to₂, Option.bind_some, run₃]
  have from₂ : Machine.run (step config) s₂ (third ++ fourth) = some s' := by
    rw [Machine.run_append, run₃, Option.bind_some, run₄]
  have from₁ : Machine.run (step config) s₁ (second ++ (third ++ fourth)) = some s' := by
    rw [Machine.run_append, run₂, Option.bind_some, from₂]
  have whole : Machine.run (step config) s (first ++ second ++ third ++ fourth) = some s' := by
    rw [Machine.run_append, to₃, Option.bind_some, run₄]
  have total := value_between balanced run₁ from₁ few .totalConnections
  have successes := value_between balanced to₂ from₂ few .successfulPairings
  have timeouts := value_between balanced to₃ run₄ few .timeouts
  have errors := value_le_of_run balanced whole few .errors
  refine ⟨total, successes, timeouts, ⟨errors, Nat.le_refl _⟩, ?_, ?_⟩
  · have after := balanced_of_run balanced whole
    have outcomes := after.outcomes_le
    simp only [← after.value_eq few] at outcomes
    exact (Nat.add_le_add_right (Nat.add_le_add successes.2 timeouts.2) _).trans outcomes
  · intro small
    have fewer := ((grows_of_run whole).increments_le .totalConnections).trans_lt few
    calc s.server.metrics.activeConnections
      _ = s.server.counted := by rw [tally_of_run runs, Nat.mod_eq_of_lt small]
      _ ≤ s.increments .totalConnections + s.server.tasks.countP (· = .starting) := ahead_of_run runs
      _ = s.value .totalConnections + s.server.tasks.countP (· = .starting) := by
          rw [balanced.value_eq fewer]
      _ ≤ s₁.value .totalConnections + s.server.tasks.countP (· = .starting) :=
          Nat.add_le_add_right total.1 _

/-- A client comes and goes between the loads: the snapshot shows a timeout and no connection. -/
theorem snapshot_shows_timeout_only :
    let config : ServerConfig := ⟨64, 10, by decide⟩
    let init := State.init fun _ => .v4 ⟨10, 0, 0, 1⟩ 4001
    let meanwhile : List Event := [ .loop .accept, .loop .load, .loop .checkLimit, .update 0, .update 0,
      .answer 0 silent, .answer 0 silent, .finish 0 ]
    let shown : MetricsSnapshot := ⟨0, 0, 0, 1, 0⟩
    ∃ s', Machine.run (step config) init [] = some init ∧
      snapshot config init [] meanwhile [] [] = some (shown, s') ∧
      s'.increments .totalConnections < 2 ^ 64 ∧
      shown.totalConnections < shown.successfulPairings + shown.timeouts + shown.errors ∧
      shown.successfulPairings + shown.timeouts + shown.errors ≤ s'.value .totalConnections := by
  intro config init meanwhile shown
  have ends : (snapshot config init [] meanwhile [] []).map (fun result =>
      (result.1, result.2.server.tasks, (result.2.sessions 0).made)) =
        some (shown, [.ending], [.totalConnections, .timeouts]) := by decide
  obtain ⟨⟨found, s'⟩, taken, same⟩ := Option.map_eq_some_iff.mp ends
  simp only [Prod.mk.injEq] at same
  obtain ⟨rfl, tasks, made⟩ := same
  have few : s'.increments .totalConnections < 2 ^ 64 := by
    simp [State.increments, tasks, made]
  have start : Machine.run (step config) (.init fun _ => .v4 ⟨10, 0, 0, 1⟩ 4001) [] = some init := rfl
  exact ⟨s', start, taken, few, by decide, (snapshot_shows start taken few).2.2.2.2.1⟩

end TCPunch.Accounting
