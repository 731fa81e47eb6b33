import Mathlib.Algebra.BigOperators.Group.Finset.Basic
import Mathlib.Algebra.Order.BigOperators.Group.Finset
import TCPunch.Server.Drain

/-! # The accounts of the server

A connection is counted by its task, around `handle_connection`, and by `handle_connection`
on its way out, after a last write that may fail. Here every task of the accept loop runs the
program of the handler, with any answer to any of its requests, and every update of a counter
is a step of its own. A task starts one connection and reports at most one outcome for it, so
the outcomes never outnumber the connections.
-/

namespace TCPunch.Accounting

open Accept (ServerConfig fetchAdd)
open Handler (handleConnection)

/-- The counters that only grow. -/
inductive Counter where
  | totalConnections
  | successfulPairings
  | timeouts
  | errors
  deriving Repr, DecidableEq

/-- The counter that a request of the handler increments. -/
def ofCall : HandlerCall → Option Counter
  | .pairingSucceeded => some .successfulPairings
  | .timeoutOccurred => some .timeouts
  | .readRequest | .register _ | .writeAll _ | .awaitPeer _ | .unregister _ _ => none

/-- The counter that the next update of a task increments, if it only grows. -/
def ofTask : Accept.Task → Option Counter
  | .starting => some .totalConnections
  | .failed => some .errors
  | .spawned | .serving | .ending | .ended => none

/-- What is left of `handle_connection` in a task. The increments that the task has made are
    kept for the accounts; nothing reads them. -/
structure Session where
  code : Handler.Code (Except IoError Unit)
  made : List Counter

/-- The accept loop with its tasks, the two counters that the handlers update, and the session
    of each task. -/
structure State where
  server : Accept.State
  successfulPairings : Nat
  timeouts : Nat
  sessions : Nat → Session

/-- Before the first connection; `peerAddr` is where the connection of each task will come from. -/
def State.init (peerAddr : Nat → SocketAddr) : State where
  server := .init
  successfulPairings := 0
  timeouts := 0
  sessions := fun i => { code := handleConnection (peerAddr i), made := [] }

inductive Event where
  /-- A step of the accept loop. -/
  | loop (event : Accept.Event)
  /-- The next update of a counter around `handle_connection`. -/
  | update (i : Nat)
  /-- The handler's next request is answered. -/
  | answer (i : Nat) (answers : (call : HandlerCall) → call.Reply)
  /-- `handle_connection` returns. -/
  | finish (i : Nat)

/-- The task goes on in the handler, and has made an increment or none. -/
def State.record (s : State) (i : Nat) (code : Handler.Code (Except IoError Unit))
    (counter : Option Counter) : Nat → Session :=
  Function.update s.sessions i { code, made := (s.sessions i).made ++ counter.toList }

/-- What a request of the handler does to the counters. -/
def State.count (s : State) : HandlerCall → State
  | .pairingSucceeded => { s with successfulPairings := fetchAdd 64 s.successfulPairings }
  | .timeoutOccurred => { s with timeouts := fetchAdd 64 s.timeouts }
  | .readRequest | .register _ | .writeAll _ | .awaitPeer _ | .unregister _ _ => s

def step (config : ServerConfig) (s : State) : Event → Option State
  | .loop (.task _ _) => none
  | .loop event => (Accept.step config s.server event).map fun server => { s with server }
  | .update i => do
      let task ← s.server.tasks[i]?
      let server ← Accept.step config s.server (.task i .update)
      return { s with server, sessions := s.record i (s.sessions i).code (ofTask task) }
  | .answer i answers =>
      match s.server.tasks[i]?, (s.sessions i).code with
      | some .serving, .call call next =>
          some { s.count call with sessions := s.record i (next (answers call)) (ofCall call) }
      | _, _ => none
  | .finish i =>
      match (s.sessions i).code with
      | .done result =>
          (Accept.step config s.server (.task i (.returned result))).map fun server => { s with server }
      | .call _ _ => none

namespace State

def value (s : State) : Counter → Nat
  | .totalConnections => s.server.metrics.totalConnections
  | .successfulPairings => s.successfulPairings
  | .timeouts => s.timeouts
  | .errors => s.server.metrics.errors

/-- How often the tasks have incremented a counter. -/
def increments (s : State) (counter : Counter) : Nat :=
  ∑ i ∈ Finset.range s.server.tasks.length, (s.sessions i).made.count counter

end State

/-- The task has started its connection and not ended it. -/
def Open : Accept.Task → Bool
  | .serving | .failed | .ending => true
  | .spawned | .starting | .ended => false

variable {config : ServerConfig} {s s' : State}

theorem step_cases {event : Event} (taken : step config s event = some s') :
    (∃ change server, (∀ i moves, change ≠ .task i moves) ∧
      Accept.step config s.server change = some server ∧ s' = { s with server }) ∨
    (∃ i task server, s.server.tasks[i]? = some task ∧
      Accept.step config s.server (.task i .update) = some server ∧
      s' = { s with server, sessions := s.record i (s.sessions i).code (ofTask task) }) ∨
    (∃ i call next reply, s.server.tasks[i]? = some .serving ∧ (s.sessions i).code = .call call next ∧
      s' = { s.count call with sessions := s.record i (next reply) (ofCall call) }) ∨
    ∃ i result server, (s.sessions i).code = .done result ∧
      Accept.step config s.server (.task i (.returned result)) = some server ∧ s' = { s with server } := by
  cases event with
  | loop change =>
      left
      cases change with
      | task => cases taken
      | shutdownChanged | accept | acceptFailed | load | checkLimit =>
          obtain ⟨server, moved, same⟩ := Option.map_eq_some_iff.mp taken
          exact ⟨_, server, by simp, moved, same.symm⟩
  | update i =>
      obtain ⟨task, found, taken⟩ := Option.bind_eq_some_iff.mp taken
      obtain ⟨server, moved, taken⟩ := Option.bind_eq_some_iff.mp taken
      exact .inr (.inl ⟨i, task, server, found, moved, (Option.some.inj taken).symm⟩)
  | answer i answers =>
      simp only [step] at taken
      split at taken
      · rename_i call next found waits
        exact .inr (.inr (.inl ⟨i, call, next, _, found, waits, (Option.some.inj taken).symm⟩))
      · cases taken
  | finish i =>
      simp only [step] at taken
      split at taken
      · rename_i result returned
        obtain ⟨server, moved, same⟩ := Option.map_eq_some_iff.mp taken
        exact .inr (.inr (.inr ⟨i, result, server, returned, moved, same.symm⟩))
      · cases taken

@[simp] theorem count_server (s : State) (call : HandlerCall) : (s.count call).server = s.server := by
  cases call <;> rfl

theorem server_step {event : Event} (taken : step config s event = some s') :
    s'.server = s.server ∨ ∃ change, Accept.step config s.server change = some s'.server := by
  rcases step_cases taken with ⟨change, server, -, moved, rfl⟩ | ⟨i, task, server, -, moved, rfl⟩ |
    ⟨i, call, next, reply, -, -, rfl⟩ | ⟨i, result, server, -, moved, rfl⟩
  · exact .inr ⟨_, moved⟩
  · exact .inr ⟨_, moved⟩
  · exact .inl (count_server s call)
  · exact .inr ⟨_, moved⟩

/-- Every run is a run of the accept loop and its tasks. -/
theorem refines_accept {peerAddr : Nat → SocketAddr} {events : List Event}
    (runs : Machine.run (step config) (.init peerAddr) events = some s) :
    ∃ changes, Machine.run (Accept.step config) .init changes = some s.server := by
  have simulates : ∀ (s : State) (event : Event) (s' : State), step config s event = some s' →
      s'.server = s.server ∨ ∃ change, Accept.step config s.server change = some s'.server :=
    fun _ _ _ => server_step
  exact Machine.run_simulates simulates runs

theorem tally_of_run {peerAddr : Nat → SocketAddr} {events : List Event}
    (runs : Machine.run (step config) (.init peerAddr) events = some s) : Drain.Tally config s.server := by
  obtain ⟨changes, runs⟩ := refines_accept runs
  exact Machine.run_keeps (fun _ _ _ tally => tally.step) (Drain.tally_init config) runs

/-! ## What a handler counts -/

/-- The increments of a task when its handler returns: a handler that fails has counted
    nothing, any other at most one outcome. -/
def Verdict : Except IoError Unit → List Counter → Prop
  | .ok _, made => made = [.totalConnections] ∨ made = [.totalConnections, .successfulPairings] ∨
      made = [.totalConnections, .timeouts]
  | .error _, made => made = [.totalConnections]

/-- Whatever it is answered, the handler returns with a verdict. -/
def Sound (code : Handler.Code (Except IoError Unit)) (made : List Counter) : Prop :=
  code.Concludes (fun call => (ofCall call).toList) Verdict made

theorem sound_writeAll (frame : ServerResponse) :
    Sound (Handler.writeAll frame) [.totalConnections] := by
  intro written
  cases written with
  | error e => rfl
  | ok => exact .inl rfl

theorem sound_finishWith (frame : ServerResponse) {count : Handler.Code Unit}
    (counted : Sound (do count; return .ok ()) [.totalConnections]) :
    Sound (Handler.finishWith frame count) [.totalConnections] := by
  intro written
  cases written with
  | error e => rfl
  | ok => exact counted

theorem sound_waitForPeer (wait : Handler.Wait) :
    Sound (Handler.waitForPeer wait) [.totalConnections] := by
  intro written
  cases written with
  | error e => rfl
  | ok =>
      intro arrival
      cases arrival with
      | arrived peerInfo => exact sound_finishWith _ fun _ => .inr (.inl rfl)
      | closed => exact sound_finishWith _ fun _ => .inr (.inr rfl)
      | elapsed => exact fun _ => sound_finishWith _ fun _ => .inr (.inr rfl)

theorem sound_registerAndServe (request : Request) :
    Sound (Handler.registerAndServe request) [.totalConnections] := by
  intro registered
  cases registered with
  | error e => exact sound_writeAll _
  | ok result =>
      cases result with
      | paired token peerInfo => exact sound_finishWith _ fun _ => .inr (.inl rfl)
      | waiting token peerNotify => exact sound_waitForPeer _
      | resumed token peerNotify => exact sound_waitForPeer _

theorem sound_handleConnection (peerAddr : SocketAddr) :
    Sound (handleConnection peerAddr) [.totalConnections] := by
  unfold handleConnection
  cases PeerConnectionData.fromSocketAddr peerAddr with
  | none => exact sound_writeAll _
  | some clientInfo =>
      intro read
      cases read with
      | request request => exact sound_registerAndServe _
      | rejected error => exact sound_writeAll _
      | failed error => rfl
      | elapsed => exact fun _ => .inr (.inr rfl)

theorem answerable (call : HandlerCall) : Nonempty call.Reply := by
  cases call with
  | readRequest => exact ⟨.elapsed⟩
  | register request => exact ⟨.error .invalidToken⟩
  | writeAll frame => exact ⟨.ok ()⟩
  | awaitPeer channel => exact ⟨.elapsed⟩
  | unregister | pairingSucceeded | timeoutOccurred => exact ⟨()⟩

/-! ## The account of one task -/

/-- The increments that a task makes from its start to its end. -/
def accounts : List (List Counter) :=
  [ [.totalConnections], [.totalConnections, .successfulPairings], [.totalConnections, .timeouts],
    [.totalConnections, .errors] ]

/-- How the increments of a task go with its place. A task that has not been spawned yet is
    like one that has not run. -/
def Fits : Option Accept.Task → Session → Prop
  | none, session | some .spawned, session | some .starting, session =>
      session.made = [] ∧ Sound session.code [.totalConnections]
  | some .serving, session => Sound session.code session.made
  | some .failed, session => session.made = [.totalConnections]
  | some .ending, session | some .ended, session => session.made ∈ accounts

/-- At any time a task has made the first increments of one of these accounts. -/
theorem Fits.exists_account {task : Option Accept.Task} {session : Session} (fits : Fits task session) :
    ∃ account ∈ accounts, session.made <+: account := by
  have idle (empty : session.made = []) : ∃ account ∈ accounts, session.made <+: account :=
    ⟨[.totalConnections], by decide, by rw [empty]; exact List.nil_prefix⟩
  cases task with
  | none => exact idle fits.1
  | some task =>
      cases task with
      | spawned | starting => exact idle fits.1
      | serving =>
          obtain ⟨result, account, verdict, begun⟩ := Program.Concludes.exists_history answerable fits
          refine ⟨account, ?_, begun⟩
          cases result with
          | error e => rw [verdict]; decide
          | ok => rcases verdict with rfl | rfl | rfl <;> decide
      | failed => exact ⟨[.totalConnections], by decide, by rw [fits]⟩
      | ending | ended => exact ⟨_, fits, List.prefix_refl _⟩

theorem outcomes_le {made account : List Counter} (member : account ∈ accounts)
    (begun : made <+: account) :
    made.count .successfulPairings + made.count .timeouts + made.count .errors ≤
      made.count .totalConnections ∧ made.count .totalConnections ≤ 1 := by
  have all : ∀ account ∈ accounts, ∀ made ∈ account.inits,
      made.count .successfulPairings + made.count .timeouts + made.count .errors ≤
        made.count .totalConnections ∧ made.count .totalConnections ≤ 1 := by decide
  exact all account member made ((List.mem_inits _ _).mpr begun)

theorem Fits.update {config : ServerConfig} {m m' : Accept.ServerMetrics} {task next : Accept.Task}
    {session : Session} (fits : Fits (some task) session)
    (moved : task.step config m .update = some (m', next)) :
    Fits (some next) { session with made := session.made ++ (ofTask task).toList } := by
  cases task with
  | spawned => cases moved; simpa [Fits, ofTask] using fits
  | starting =>
      cases moved
      obtain ⟨none_yet, sound⟩ := fits
      simpa [Fits, ofTask, none_yet] using sound
  | failed =>
      cases moved
      have made : session.made = [.totalConnections] := fits
      simp [Fits, ofTask, made, accounts]
  | ending => cases moved; simpa [Fits, ofTask] using fits
  | serving | ended => cases moved

theorem Fits.finish {config : ServerConfig} {m m' : Accept.ServerMetrics} {task next : Accept.Task}
    {session : Session} {result : Except IoError Unit} (fits : Fits (some task) session)
    (returned : session.code = .done result)
    (moved : task.step config m (.returned result) = some (m', next)) :
    m' = m ∧ Fits (some next) session := by
  cases task with
  | serving =>
      have verdict : Verdict result session.made := by
        have sound : Sound session.code session.made := fits
        rw [returned] at sound
        exact sound
      cases result with
      | ok =>
          cases moved
          refine ⟨rfl, ?_⟩
          rcases verdict with made | made | made <;> simp [Fits, made, accounts]
      | error e =>
          cases moved
          exact ⟨rfl, verdict⟩
  | spawned | starting | failed | ending | ended => cases moved

/-! ## The accounts of all tasks -/

/-- The counters are the numbers of their increments, as far as they go, and the increments of
    every task go with its place. -/
structure Balanced (s : State) : Prop where
  fits : ∀ i, Fits s.server.tasks[i]? (s.sessions i)
  sums : ∀ counter, s.value counter = s.increments counter % 2 ^ 64

theorem Balanced.fits_of (balanced : Balanced s) {i : Nat} {task : Accept.Task}
    (found : s.server.tasks[i]? = some task) : Fits (some task) (s.sessions i) := found ▸ balanced.fits i

theorem record_none (s : State) (i : Nat) : s.record i (s.sessions i).code none = s.sessions := by
  simp [State.record]

theorem increments_record {i : Nat} {code : Handler.Code (Except IoError Unit)}
    {counter : Option Counter} (inside : i < s.server.tasks.length)
    (same : s'.server.tasks.length = s.server.tasks.length)
    (sessions : s'.sessions = s.record i code counter) (c : Counter) :
    s'.increments c = s.increments c + counter.toList.count c := by
  have member : i ∈ Finset.range s.server.tasks.length := Finset.mem_range.mpr inside
  have others : ∑ j ∈ (Finset.range s.server.tasks.length).erase i, (s'.sessions j).made.count c =
      ∑ j ∈ (Finset.range s.server.tasks.length).erase i, (s.sessions j).made.count c := by
    apply Finset.sum_congr rfl
    intro j away
    rw [sessions, State.record, Function.update_of_ne (Finset.ne_of_mem_erase away)]
  have own : (s'.sessions i).made.count c = (s.sessions i).made.count c + counter.toList.count c := by
    rw [sessions, State.record, Function.update_self, List.count_append]
  unfold State.increments
  rw [same, ← Finset.add_sum_erase _ _ member, ← Finset.add_sum_erase _ _ member, others, own]
  omega

theorem Balanced.record (balanced : Balanced s) {i : Nat} {task next : Accept.Task}
    {code : Handler.Code (Except IoError Unit)} {counter : Option Counter}
    (found : s.server.tasks[i]? = some task)
    (tasks : s'.server.tasks = s.server.tasks.set i next)
    (sessions : s'.sessions = s.record i code counter)
    (fits : Fits (some next) { code, made := (s.sessions i).made ++ counter.toList })
    (grows : ∀ c, s'.value c = if counter = some c then fetchAdd 64 (s.value c) else s.value c) :
    Balanced s' where
  fits := by
    intro j
    have inside := (List.getElem?_eq_some_iff.mp found).1
    rw [tasks, sessions, State.record]
    by_cases here : j = i
    · subst here
      rw [List.getElem?_set_self inside, Function.update_self]
      exact fits
    · rw [List.getElem?_set_ne (Ne.symm here), Function.update_of_ne here]
      exact balanced.fits j
  sums := by
    intro c
    have inside := (List.getElem?_eq_some_iff.mp found).1
    have same : s'.server.tasks.length = s.server.tasks.length := by rw [tasks, List.length_set]
    rw [grows, increments_record inside same sessions, balanced.sums c]
    by_cases here : counter = some c
    · rw [if_pos here, here, Drain.fetchAdd_mod]
      simp
    · rw [if_neg here]
      cases counter with
      | none => rfl
      | some other =>
          have different : other ≠ c := fun same => here (congrArg some same)
          simp [different]

theorem grows_update {m : Accept.ServerMetrics} {task next : Accept.Task}
    (stepped : task.step config s.server.metrics .update = some (m, next))
    {tasks : List Accept.Task} {sessions : Nat → Session} (c : Counter) :
    State.value { s with server := { s.server with metrics := m, tasks }, sessions } c =
      if ofTask task = some c then fetchAdd 64 (s.value c) else s.value c := by
  cases task with
  | spawned | starting | failed | ending =>
      cases stepped
      cases c <;> rfl
  | serving | ended => cases stepped

theorem grows_count (s : State) (call : HandlerCall) {sessions : Nat → Session} (c : Counter) :
    State.value { s.count call with sessions } c =
      if ofCall call = some c then fetchAdd 64 (s.value c) else s.value c := by
  cases call <;> cases c <;> rfl

theorem Balanced.spawn (balanced : Balanced s) (loop : Accept.Loop) :
    Balanced { s with server := { s.server with loop, tasks := s.server.tasks ++ [.spawned] } } := by
  have idle : Fits none (s.sessions s.server.tasks.length) := by
    have fits := balanced.fits s.server.tasks.length
    rwa [List.getElem?_eq_none (Nat.le_refl _)] at fits
  constructor
  · intro i
    obtain before | rfl | behind := Nat.lt_trichotomy i s.server.tasks.length
    · rw [List.getElem?_append_left before]
      exact balanced.fits i
    · rw [List.getElem?_concat_length]
      exact idle
    · have fits := balanced.fits i
      rw [List.getElem?_eq_none (Nat.le_of_lt behind)] at fits
      have outside : (s.server.tasks ++ [Accept.Task.spawned]).length ≤ i := by
        simp only [List.length_append, List.length_singleton]
        omega
      rw [List.getElem?_eq_none outside]
      exact fits
  · intro c
    have none_yet : (s.sessions s.server.tasks.length).made.count c = 0 := by rw [idle.1]; rfl
    rw [State.increments, List.length_append, List.length_singleton, Finset.sum_range_succ, none_yet]
    exact balanced.sums c

theorem Balanced.step (balanced : Balanced s) {event : Event} (taken : step config s event = some s') :
    Balanced s' := by
  rcases step_cases taken with ⟨change, server, own, moved, rfl⟩ | ⟨i, task, server, found, moved, rfl⟩ |
    ⟨i, call, next, reply, found, waits, rfl⟩ | ⟨i, result, server, returned, moved, rfl⟩
  · have elsewhere (loop : Accept.Loop) : Balanced { s with server := { s.server with loop } } :=
      ⟨balanced.fits, balanced.sums⟩
    rcases Accept.step_cases moved with ⟨i, moves, rfl⟩ | ⟨-, -, rfl⟩ | ⟨-, -, -, rfl⟩ | ⟨loop, -, rfl⟩
    · exact absurd rfl (own i moves)
    · exact elsewhere _
    · exact balanced.spawn _
    · exact elsewhere loop
  · obtain ⟨task', metrics, next, found', stepped, rfl⟩ := Accept.step_task_eq moved
    obtain rfl := Option.some.inj (found.symm.trans found')
    exact balanced.record found rfl rfl ((balanced.fits_of found).update stepped) (grows_update stepped)
  · have sound : Sound (s.sessions i).code (s.sessions i).made := balanced.fits_of found
    rw [waits] at sound
    have same : (s.count call).server.tasks = s.server.tasks.set i .serving := by
      obtain ⟨inside, here⟩ := List.getElem?_eq_some_iff.mp found
      rw [count_server, ← here, List.set_getElem_self]
    exact balanced.record found same rfl (sound reply) (grows_count s call)
  · obtain ⟨task, metrics, next, found, stepped, rfl⟩ := Accept.step_task_eq moved
    obtain ⟨rfl, fits⟩ := (balanced.fits_of found).finish returned stepped
    refine balanced.record found rfl (record_none s i).symm ?_ (fun c => by cases c <;> rfl)
    simpa using fits

theorem balanced_init (peerAddr : Nat → SocketAddr) : Balanced (.init peerAddr) where
  fits := fun i => ⟨rfl, sound_handleConnection (peerAddr i)⟩
  sums := by
    intro c
    cases c <;> rfl

/-! ## The counters of a running server -/

theorem counted_pos {i : Nat} (found : s.server.tasks[i]? = some .ending) : 0 < s.server.counted :=
  List.countP_pos_iff.mpr ⟨.ending, List.mem_of_getElem? found, rfl⟩

theorem counted_eq_open (between : ∀ task ∈ s.server.tasks, task ≠ .starting) :
    s.server.counted = s.server.tasks.countP Open := by
  apply List.countP_congr
  intro task member
  have other := between task member
  cases task <;> simp_all [Accept.Task.Counted, Open]

/-- `connection_ended` takes one from a counter that is not zero. -/
theorem active_ended (exactly : s.server.metrics.activeConnections = s.server.counted)
    (small : s.server.counted < 2 ^ config.usizeBits) {i : Nat}
    (found : s.server.tasks[i]? = some .ending) (taken : step config s (.update i) = some s') :
    s'.server.metrics.activeConnections + 1 = s.server.metrics.activeConnections := by
  obtain ⟨others, count⟩ := Nat.exists_eq_add_one.mpr (counted_pos found)
  obtain ⟨_, _, moves⟩ := Option.bind_eq_some_iff.mp taken
  obtain ⟨server, moved, moves⟩ := Option.bind_eq_some_iff.mp moves
  obtain rfl := Option.some.inj moves
  obtain ⟨task, metrics, next, found', stepped, rfl⟩ := Accept.step_task_eq moved
  obtain rfl := Option.some.inj (found.symm.trans found')
  cases stepped
  have fewer : others < 2 ^ config.usizeBits := by omega
  rw [count] at exactly
  simp only [exactly, Accept.fetchSub_succ fewer]

theorem Balanced.outcomes_le (balanced : Balanced s) :
    s.increments .successfulPairings + s.increments .timeouts + s.increments .errors ≤
      s.increments .totalConnections := by
  unfold State.increments
  rw [← Finset.sum_add_distrib, ← Finset.sum_add_distrib]
  apply Finset.sum_le_sum
  intro i _
  obtain ⟨account, member, begun⟩ := (balanced.fits i).exists_account
  exact (Accounting.outcomes_le member begun).1

/-- In every state of every run, as long as the number of counted tasks fits its counter,
    `active_connections` is the number of connections that have started and not ended unless
    a task is halfway through starting one, and no task takes one from zero. Every task
    increments at most one of the three outcomes, and that once. So, as long as the number of
    connections fits its counter, there are no more outcomes than connections. -/
theorem connections_accounted (config : ServerConfig) (peerAddr : Nat → SocketAddr)
    (events : List Event) (s : State)
    (runs : Machine.run (step config) (.init peerAddr) events = some s) :
    (s.server.counted < 2 ^ config.usizeBits →
      ((∀ task ∈ s.server.tasks, task ≠ .starting) →
        s.server.metrics.activeConnections = s.server.tasks.countP Open) ∧
      ∀ i, s.server.tasks[i]? = some .ending →
        0 < s.server.metrics.activeConnections ∧
        ∀ s', step config s (.update i) = some s' →
          s'.server.metrics.activeConnections + 1 = s.server.metrics.activeConnections) ∧
    (∀ counter, s.value counter = s.increments counter % 2 ^ 64) ∧
    (∀ i, (s.sessions i).made.count .successfulPairings + (s.sessions i).made.count .timeouts +
      (s.sessions i).made.count .errors ≤ 1) ∧
    (s.increments .totalConnections < 2 ^ 64 →
      s.successfulPairings + s.timeouts + s.server.metrics.errors ≤
        s.server.metrics.totalConnections) := by
  have balanced : Balanced s :=
    Machine.run_keeps (fun _ _ _ balanced => balanced.step) (balanced_init peerAddr) runs
  refine ⟨?_, balanced.sums, ?_, ?_⟩
  · intro small
    have exactly : s.server.metrics.activeConnections = s.server.counted := by
      rw [tally_of_run runs, Nat.mod_eq_of_lt small]
    constructor
    · intro between
      rw [exactly, counted_eq_open between]
    · intro i found
      have positive : 0 < s.server.metrics.activeConnections := exactly ▸ counted_pos found
      exact ⟨positive, fun s' taken => active_ended exactly small found taken⟩
  · intro i
    obtain ⟨account, member, begun⟩ := (balanced.fits i).exists_account
    obtain ⟨outcomes, once⟩ := outcomes_le member begun
    omega
  · intro small
    have outcomes := balanced.outcomes_le
    have total := balanced.sums .totalConnections
    have successes := balanced.sums .successfulPairings
    have timeouts := balanced.sums .timeouts
    have errors := balanced.sums .errors
    simp only [State.value] at total successes timeouts errors
    omega

/-- A client that sends nothing in time. -/
def silent : (call : HandlerCall) → call.Reply
  | .readRequest => .elapsed
  | .register _ => .error .sessionExpired
  | .writeAll _ => .ok ()
  | .awaitPeer _ => .elapsed
  | .unregister _ _ => ()
  | .pairingSucceeded => ()
  | .timeoutOccurred => ()

/-- Its connection is counted, and so is its timeout. -/
theorem silent_client_accounted :
    ∃ s, Machine.run (step ⟨64, 10, by decide⟩) (.init fun _ => .v4 ⟨10, 0, 0, 1⟩ 4001)
        [ .loop .accept, .loop .load, .loop .checkLimit, .update 0, .update 0, .answer 0 silent,
          .answer 0 silent, .finish 0 ] = some s ∧
      s.server.tasks = [.ending] ∧ s.timeouts = 1 ∧
      s.server.metrics.activeConnections = s.server.tasks.countP Open ∧
      s.successfulPairings + s.timeouts + s.server.metrics.errors ≤
        s.server.metrics.totalConnections := by
  have ends : (Machine.run (step ⟨64, 10, by decide⟩) (.init fun _ => .v4 ⟨10, 0, 0, 1⟩ 4001)
      [ .loop .accept, .loop .load, .loop .checkLimit, .update 0, .update 0, .answer 0 silent,
        .answer 0 silent, .finish 0 ]).map (fun s => (s.server.tasks, s.timeouts, (s.sessions 0).made)) =
      some ([.ending], 1, [.totalConnections, .timeouts]) := by decide
  obtain ⟨s, runs, same⟩ := Option.map_eq_some_iff.mp ends
  simp only [Prod.mk.injEq] at same
  obtain ⟨tasks, timeouts, made⟩ := same
  obtain ⟨active, -, -, outcomes⟩ := connections_accounted _ _ _ s runs
  have counted : s.server.counted = 1 := by rw [Accept.State.counted, tasks]; rfl
  have started : s.increments .totalConnections = 1 := by simp [State.increments, tasks, made]
  exact ⟨s, runs, tasks, timeouts, (active (by rw [counted]; decide)).1 (by simp [tasks]),
    outcomes (by rw [started]; decide)⟩

end TCPunch.Accounting
