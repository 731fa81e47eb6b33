import TCPunch.Server.Accept

/-! # The drain at shutdown

`main` sends the shutdown signal and then loads `active_connections` until it reads 0 or
the time for the drain has passed. The accept loop may still take a connection with the signal
pending, and a task counts its connection only when it first runs. So a load can read 0
while connections are on their way to `handle_connection`.
-/

namespace TCPunch.Drain

open Accept (ServerConfig Task)

/-- Where `main` stands. -/
inductive Main where
  /-- Waiting for the shutdown signal. -/
  | running
  /-- About to load `active_connections`. -/
  | polling
  /-- Between two loads. -/
  | sleeping
  /-- Out of the drain, with `active == 0` or by the timeout. -/
  | left (drained : Bool)
  /-- After `server_handle.abort()`. -/
  | aborted (drained : Bool)
  deriving Repr, DecidableEq

/-- The drain was left with `active == 0`. -/
def Main.drained : Main → Bool
  | .left drained => drained
  | .aborted drained => drained
  | .running | .polling | .sleeping => false

/-- The accept loop with its tasks, the value in the shutdown channel, and `main`. -/
structure State where
  server : Accept.State
  shutdown : Bool
  main : Main
  deriving Repr, DecidableEq

def State.init : State := ⟨.init, false, .running⟩

inductive Event where
  /-- A step of the accept loop or of a task. -/
  | server (event : Accept.Event)
  /-- The signal arrives and is passed on. -/
  | signal
  /-- `active_connections` is loaded and compared. -/
  | poll
  | wake
  | timeout
  | abort
  /-- The runtime drops the aborted accept loop, which it can do in `select!` only. -/
  | cancel

/-- The channel changes once, when `main` sends `true`. -/
def State.permits (s : State) : Accept.Event → Bool
  | .shutdownChanged value => s.shutdown && value
  | _ => true

def step (config : ServerConfig) (s : State) : Event → Option State
  | .server event =>
      if s.permits event then
        (Accept.step config s.server event).map fun server => { s with server }
      else
        none
  | .signal =>
      if s.main = .running then some { s with shutdown := true, main := .polling } else none
  | .poll =>
      if s.main = .polling then
        some { s with main := if s.server.metrics.activeConnections = 0 then .left true else .sleeping }
      else
        none
  | .wake => if s.main = .sleeping then some { s with main := .polling } else none
  | .timeout => if s.main = .sleeping then some { s with main := .left false } else none
  | .abort =>
      match s.main with
      | .left drained => some { s with main := .aborted drained }
      | _ => none
  | .cancel =>
      match s.main, s.server.loop with
      | .aborted _, .selecting => some { s with server := { s.server with loop := .stopped } }
      | _, _ => none

variable {config : ServerConfig} {s s' : State}

theorem step_cases {event : Event} (taken : step config s event = some s') :
    (∃ change server, event = .server change ∧ Accept.step config s.server change = some server ∧
      s' = { s with server }) ∨
    (event = .poll ∧ s' = { s with main :=
      if s.server.metrics.activeConnections = 0 then .left true else .sleeping }) ∨
    (event = .cancel ∧ s.server.loop = .selecting ∧
      s' = { s with server := { s.server with loop := .stopped } }) ∨
    ∃ main shutdown, (∀ change, event ≠ .server change) ∧ main.drained = s.main.drained ∧
      s' = { s with main, shutdown } := by
  cases event with
  | server change =>
      simp only [step, Option.ite_none_right_eq_some, Option.map_eq_some_iff] at taken
      obtain ⟨-, server, moved, rfl⟩ := taken
      exact .inl ⟨change, server, rfl, moved, rfl⟩
  | poll =>
      simp only [step, Option.ite_none_right_eq_some, Option.some.injEq] at taken
      exact .inr (.inl ⟨rfl, taken.2.symm⟩)
  | cancel =>
      simp only [step] at taken
      split at taken
      · rename_i selecting
        exact .inr (.inr (.inl ⟨rfl, selecting, (Option.some.inj taken).symm⟩))
      · cases taken
  | abort =>
      simp only [step] at taken
      split at taken
      · rename_i drained left
        exact .inr (.inr (.inr ⟨_, s.shutdown, by simp, by rw [left]; rfl,
          (Option.some.inj taken).symm⟩))
      · cases taken
  | signal | wake | timeout =>
      simp only [step, Option.ite_none_right_eq_some, Option.some.injEq] at taken
      exact .inr (.inr (.inr ⟨_, _, by simp, by rw [taken.1]; rfl, taken.2.symm⟩))

/-! ## The counter -/

theorem fetchAdd_mod (bits counter : Nat) :
    Accept.fetchAdd bits (counter % 2 ^ bits) = (counter + 1) % 2 ^ bits :=
  Nat.mod_add_mod ..

theorem fetchSub_mod (bits counter : Nat) :
    Accept.fetchSub bits ((counter + 1) % 2 ^ bits) = counter % 2 ^ bits := by
  have positive : 0 < 2 ^ bits := Nat.two_pow_pos bits
  have whole : counter + 1 + (2 ^ bits - 1) = counter + 2 ^ bits := by omega
  rw [Accept.fetchSub, Nat.mod_add_mod, whole, Nat.add_mod_right]

/-- The counter is the number of counted tasks, as far as it goes. -/
def Tally (config : ServerConfig) (server : Accept.State) : Prop :=
  server.metrics.activeConnections = server.counted % 2 ^ config.usizeBits

theorem Tally.step {server server' : Accept.State} {event : Accept.Event} (tally : Tally config server)
    (taken : Accept.step config server event = some server') : Tally config server' := by
  unfold Tally at tally ⊢
  rcases Accept.step_cases taken with ⟨i, change, rfl⟩ | ⟨-, -, rfl⟩ | ⟨-, -, -, rfl⟩ | ⟨-, -, rfl⟩
  · obtain ⟨-, ⟨counted, -, active⟩ | ⟨counted, -, active⟩ | ⟨counted, -, active⟩⟩ :=
      Accept.step_task_cases taken
    · rw [active, tally, counted, fetchAdd_mod]
    · rw [active, tally, ← counted, fetchSub_mod]
    · rw [active, tally, counted]
  · exact tally
  · rw [Accept.counted_spawn]
    exact tally
  · exact tally

theorem tally_init (config : ServerConfig) : Tally config .init := by
  simp [Tally, Accept.State.init, Accept.State.counted]

/-! ## Nothing left to do -/

/-- After `handle_connection`. -/
def Finished : Task → Bool
  | .failed | .ending | .ended => true
  | .spawned | .starting | .serving => false

/-- Every connection that was accepted and not turned away has been handled, and no run
    from here accepts another. -/
structure Completed (config : ServerConfig) (s : State) : Prop where
  finished : ∀ task ∈ s.server.tasks, Finished task = true
  handedOn : s.server.loop ≠ .accepted ∧
    ∀ active, s.server.loop = .loaded active → config.maxConnections ≤ active
  closed : ∀ events s', Machine.run (step config) s events = some s' → .server .accept ∉ events

/-- The accept loop has stopped and every task has ended. -/
def Quiet (server : Accept.State) : Prop :=
  server.loop = .stopped ∧ ∀ task ∈ server.tasks, task = .ended

theorem Quiet.step_eq_none {server : Accept.State} (quiet : Quiet server) (event : Accept.Event) :
    Accept.step config server event = none := by
  obtain ⟨stopped, ended⟩ := quiet
  cases event with
  | task i change =>
      simp only [Accept.step]
      cases found : server.tasks[i]? with
      | none => rfl
      | some task =>
          obtain rfl := ended task (List.mem_of_getElem? found)
          cases change <;> rfl
  | shutdownChanged | accept | acceptFailed | load | checkLimit => simp [Accept.step, stopped]

theorem Quiet.step (quiet : Quiet s.server) {event : Event} (taken : step config s event = some s') :
    Quiet s'.server ∧ event ≠ .server .accept := by
  rcases step_cases taken with ⟨change, server, rfl, moved, rfl⟩ | ⟨rfl, rfl⟩ |
    ⟨rfl, selecting, rfl⟩ | ⟨main, shutdown, other, -, rfl⟩
  · simp [quiet.step_eq_none] at moved
  · exact ⟨quiet, by simp⟩
  · simp [quiet.1] at selecting
  · exact ⟨quiet, other .accept⟩

theorem Quiet.completed (quiet : Quiet s.server) : Completed config s where
  finished := by
    intro task member
    rw [quiet.2 task member]
    rfl
  handedOn := by simp [quiet.1]
  closed := by
    intro events
    induction events generalizing s with
    | nil => simp
    | cons event rest ih =>
        intro s' runs
        obtain ⟨next, taken, runs⟩ := Option.bind_eq_some_iff.mp runs
        obtain ⟨quiet, other⟩ := quiet.step taken
        simp only [List.mem_cons, not_or]
        exact ⟨other.symm, ih quiet s' runs⟩

/-- As long as the loop has not stopped, it can accept, or has a connection in hand. -/
theorem Completed.stopped (completed : Completed config s) : s.server.loop = .stopped := by
  cases here : s.server.loop with
  | stopped => rfl
  | accepted => exact absurd here completed.handedOn.1
  | selecting =>
      have accepts : (Machine.run (step config) s [.server .accept]).isSome = true := by
        simp [Machine.run, step, State.permits, Accept.step, here]
      obtain ⟨s', runs⟩ := Option.isSome_iff_exists.mp accepts
      exact absurd (by simp) (completed.closed _ s' runs)
  | loaded active =>
      have full := completed.handedOn.2 active here
      have accepts :
          (Machine.run (step config) s [.server .checkLimit, .server .accept]).isSome = true := by
        simp [Machine.run, step, State.permits, Accept.step, here, full]
      obtain ⟨s', runs⟩ := Option.isSome_iff_exists.mp accepts
      exact absurd (by simp) (completed.closed _ s' runs)

theorem pending_eq_zero_iff (server : Accept.State) :
    server.pending = 0 ↔ ∀ task ∈ server.tasks, task ≠ .spawned := by
  simp [Accept.State.pending, List.countP_eq_zero]

/-- A counter that reads 0 and has not wrapped around counts nobody. -/
theorem Tally.quiet {server : Accept.State} (tally : Tally config server)
    (zero : server.metrics.activeConnections = 0) (small : server.counted < 2 ^ config.usizeBits)
    (stopped : server.loop = .stopped) (started : server.pending = 0) : Quiet server := by
  have none_counted : server.counted = 0 := by
    rw [Tally, zero, Nat.mod_eq_of_lt small] at tally
    exact tally.symm
  refine ⟨stopped, fun task member => ?_⟩
  have uncounted := List.countP_eq_zero.mp none_counted task member
  have counted := (pending_eq_zero_iff server).mp started task member
  by_contra live
  exact uncounted (by simp [Task.Counted, counted, live])

/-- A load of the drain that reads 0 is made when the accept loop has stopped, every task has
    counted its connection, and the counter has not wrapped around. -/
def PollsSettled (config : ServerConfig) (s : State) : Event → Prop
  | .poll => s.server.metrics.activeConnections = 0 →
      s.server.loop = .stopped ∧ s.server.pending = 0 ∧ s.server.counted < 2 ^ config.usizeBits
  | _ => True

instance (config : ServerConfig) (s : State) : (event : Event) → Decidable (PollsSettled config s event)
  | .poll => inferInstanceAs (Decidable (_ → _))
  | .server _ | .signal | .wake | .timeout | .abort | .cancel => isTrue trivial

/-- The counter is right, and after a drain the server is quiet. -/
structure Settled (config : ServerConfig) (s : State) : Prop where
  tally : Tally config s.server
  quiet : s.main.drained = true → Quiet s.server

theorem settled_init (config : ServerConfig) : Settled config .init where
  tally := tally_init config
  quiet := by simp [State.init, Main.drained]

theorem Settled.step (settled : Settled config s) {event : Event} (may : PollsSettled config s event)
    (taken : step config s event = some s') : Settled config s' := by
  rcases step_cases taken with ⟨change, server, rfl, moved, rfl⟩ | ⟨rfl, rfl⟩ |
    ⟨rfl, selecting, rfl⟩ | ⟨main, shutdown, -, same, rfl⟩
  · refine ⟨settled.tally.step moved, fun drained => ?_⟩
    simp [(settled.quiet drained).step_eq_none] at moved
  · refine ⟨settled.tally, fun drained => ?_⟩
    by_cases zero : s.server.metrics.activeConnections = 0
    · obtain ⟨stopped, started, small⟩ := may zero
      exact settled.tally.quiet zero small stopped started
    · simp [zero, Main.drained] at drained
  · refine ⟨settled.tally, fun drained => ?_⟩
    have quiet := settled.quiet drained
    simp [quiet.1] at selecting
  · exact ⟨settled.tally, fun drained => settled.quiet (same ▸ drained)⟩

/-- In every run in which the drain reads 0 only with the accept loop stopped, every task
    counted and no overflow, the server has nothing left to do once the drain has ended. From
    any state of such a run, a load that reads 0 without overflow ends the drain rightly
    exactly if the loop has stopped and every task is counted. -/
theorem drained_if_settled (config : ServerConfig) (events : List Event) (s : State)
    (settled : Machine.Along (step config) (PollsSettled config) .init events)
    (runs : Machine.run (step config) .init events = some s) :
    (s.main.drained = true → Completed config s) ∧
      (s.server.metrics.activeConnections = 0 → s.server.counted < 2 ^ config.usizeBits →
        ∀ s', step config s .poll = some s' →
          (Completed config s' ↔ s.server.loop = .stopped ∧ s.server.pending = 0)) := by
  have inv : Settled config s :=
    Machine.run_invariant (fun _ _ _ settled may => settled.step may) (settled_init config) settled runs
  refine ⟨fun drained => (inv.quiet drained).completed, ?_⟩
  intro zero small s' polls
  have same : s'.server = s.server := by
    simp only [step, Option.ite_none_right_eq_some, Option.some.injEq] at polls
    rw [← polls.2]
  constructor
  · intro completed
    rw [← same]
    refine ⟨completed.stopped, (pending_eq_zero_iff _).mpr fun task member spawned => ?_⟩
    have finished := completed.finished task member
    simp [spawned, Finished] at finished
  · intro ready
    apply Quiet.completed
    rw [same]
    exact inv.tally.quiet zero small ready.1 ready.2

/-- A connection is accepted and its task spawned, the signal arrives, and the drain reads 0
    before the task has run. The accept loop has not seen the signal and accepts another. -/
theorem drained_too_early :
    let config : ServerConfig := ⟨64, 10, by decide⟩
    let events : List Event :=
      [.server .accept, .server .load, .server .checkLimit, .signal, .poll]
    Machine.run (step config) .init events =
        some ⟨⟨.selecting, ⟨0, 0, 0⟩, [.spawned]⟩, true, .left true⟩ ∧
      Machine.run (step config) .init (events ++ [.server .accept, .server .load, .server .checkLimit,
        .server (.task 0 .update), .server (.task 0 .update)]) =
        some ⟨⟨.selecting, ⟨1, 1, 0⟩, [.serving, .spawned]⟩, true, .left true⟩ := by
  decide

/-- One connection is handled, the accept loop stops, and the drain reads 0. -/
theorem drained_after_one :
    let config : ServerConfig := ⟨64, 10, by decide⟩
    let s : State := ⟨⟨.stopped, ⟨0, 1, 0⟩, [.ended]⟩, true, .left true⟩
    s.main.drained = true ∧ Completed config s :=
  ⟨rfl, (drained_if_settled ⟨64, 10, by decide⟩
    [.server .accept, .server .load, .server .checkLimit, .signal,
      .server (.task 0 .update), .server (.task 0 .update), .poll,
      .server (.shutdownChanged true), .server (.task 0 (.returned (.ok ()))),
      .server (.task 0 .update), .wake, .poll] _ (by decide) (by decide)).1 rfl⟩

end TCPunch.Drain
