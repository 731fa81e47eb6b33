import TCPunch.Lib.Machine
import TCPunch.Redis.Faults

/-! # Cleanup among registrations

`cleanup_expired` asks Redis for the record of every name it has a sender for, and drops
the sender if there is none. The question and the removal are two steps, and an error
counts as an absent record. Here any number of tasks run command by command, cleanups and
registrations on any servers, and Redis may refuse any command or let a key expire.
-/

namespace TCPunch.RedisRegistry

/-- What a task does. -/
inductive Job where
  | register (config : RegistryConfig) (draws : Draws) (request : Request)
  | cleanup
  deriving DecidableEq

namespace Job

/-- The text of a task; nobody looks at its result. -/
def program : Job → Program RedisCall.Reply Unit
  | .register config draws request => do let _ ← (RedisRegistry.register config draws request).run
  | .cleanup => do let _ ← cleanupExpired

end Job

/-- One step: a command of a task is answered, or refused with an error; or a key expires. -/
inductive Tick (ι : Type) where
  | task (i : ι) (refused : Option RedisError)
  | expire (key : String)

/-- The answer to a call, unless Redis refuses it. -/
def answerOr (refused : Option RedisError) (server : Nat) (call : RedisCall) (c : Cluster) :
    call.Reply × Cluster :=
  match refused.bind fun e => refusal e call with
  | some reply => (reply, c)
  | none => answer server call c

/-- Tasks on their servers. -/
structure Crew (ι : Type) where
  server : ι → Nat
  job : ι → Job

variable {ι : Type} [DecidableEq ι]

/-- A pool of tasks over one Redis. -/
abbrev Crowd (ι : Type) := Pool ι Cluster RedisCall.Reply Unit

/-- The tasks before their first call. -/
def Crew.start (crew : Crew ι) (c : Cluster) : Crowd ι := .start c fun i => (crew.job i).program

def Crew.step (crew : Crew ι) (pool : Crowd ι) : Tick ι → Option (Crowd ι)
  | .task i refused => some (pool.advance (answerOr refused (crew.server i)) i)
  | .expire key => some { pool with shared := { pool.shared with redis := pool.shared.redis.erase key } }

/-- The name whose sender a task removes next. -/
def removing : Program RedisCall.Reply Unit → Option String
  | .call (.waitersRemove name) _ => some name
  | _ => none

/-- No cleanup is about to drop a sender whose record is there. -/
def Safe (crew : Crew ι) (pool : Crowd ι) : Prop :=
  ∀ i name, crew.job i = .cleanup → removing (pool.task i) = some name → pool.shared.record name = none

/-- A question of a cleanup is not refused while the record is there, and no record is
    stored under a name between a cleanup's question and its removal. -/
def NotMisleading (crew : Crew ι) (pool : Crowd ι) (i : ι) (refused : Option RedisError) : RedisCall → Prop
  | .keyExists key => crew.job i = .cleanup → refused.isSome → pool.shared.redis.lookup key = none
  | .setex key _ _ =>
      refused = none → ∀ j, crew.job j = .cleanup →
        ∀ name ∈ removing (pool.task j), key ≠ pairingKey name
  | _ => True

/-- The step is a command that misleads no cleanup, or the expiry of a key. -/
def NeverMisled (crew : Crew ι) (pool : Crowd ι) : Tick ι → Prop
  | .task i refused => ∀ call ∈ (pool.task i).request, NotMisleading crew pool i refused call
  | .expire _ => True

instance [Fintype ι] (crew : Crew ι) (pool : Crowd ι) (i : ι) (refused : Option RedisError) :
    (call : RedisCall) → Decidable (NotMisleading crew pool i refused call)
  | .keyExists _ => inferInstanceAs (Decidable (_ → _ → _))
  | .setex _ _ _ => inferInstanceAs (Decidable (_ → _))
  | .get _ | .getdel _ | .del _ | .publish _ _ | .waitersInsert _ _ | .waitersRemove _ | .waitersKeys =>
      isTrue trivial

instance [Fintype ι] (crew : Crew ι) (pool : Crowd ι) :
    (tick : Tick ι) → Decidable (NeverMisled crew pool tick)
  | .task _ _ => inferInstanceAs (Decidable (∀ _ ∈ _, _))
  | .expire _ => isTrue trivial

/-! ## Where a cleanup stands -/

inductive SweepStage where
  /-- Before the snapshot of the names. -/
  | snapshot
  /-- Before the question about the first of the remaining names. -/
  | asking (cleaned : Nat) (names : List String)
  /-- The record of the name was not found, and its sender goes next. -/
  | dropping (cleaned : Nat) (name : String) (rest : List String)

namespace SweepStage

def program : SweepStage → Program RedisCall.Reply Unit
  | .snapshot => Job.cleanup.program
  | .asking cleaned names => do let _ ← sweep cleaned names
  | .dropping cleaned name rest =>
      .call (.waitersRemove name) fun _ => do let _ ← sweep (cleaned + 1) rest

theorem removing_asking (cleaned : Nat) (names : List String) :
    removing (program (.asking cleaned names)) = none := by
  cases names <;> rfl

theorem program_asking (cleaned : Nat) (name : String) (rest : List String) :
    program (.asking cleaned (name :: rest)) =
      .call (.keyExists (pairingKey name)) fun found =>
        if found.toOption.getD false then program (.asking cleaned rest)
        else program (.dropping cleaned name rest) := by
  simp only [program, sweep, Program.call_bind]
  congr 1
  funext found
  split <;> rfl

end SweepStage

/-- Every cleanup stands somewhere in its text. -/
def InText (crew : Crew ι) (pool : Crowd ι) : Prop :=
  ∀ i, crew.job i = .cleanup → ∃ stage : SweepStage, pool.task i = stage.program

omit [DecidableEq ι] in
theorem inText_start (crew : Crew ι) (c : Cluster) : InText crew (crew.start c) := by
  intro i cleanup
  refine ⟨.snapshot, ?_⟩
  simp only [Crew.start, Pool.start, cleanup, SweepStage.program]

theorem next_of_cleanup {stage : SweepStage} {r : RedisCall} {next : r.Reply → Program RedisCall.Reply Unit}
    (here : stage.program = .call r next) (reply : r.Reply) :
    ∃ stage' : SweepStage, next reply = stage'.program := by
  cases stage with
  | snapshot =>
      cases here
      exact ⟨.asking 0 reply, rfl⟩
  | asking cleaned names =>
      cases names with
      | nil => cases here
      | cons name rest =>
          rw [SweepStage.program_asking] at here
          cases here
          dsimp only
          split
          · exact ⟨_, rfl⟩
          · exact ⟨_, rfl⟩
  | dropping cleaned name rest =>
      cases here
      exact ⟨.asking (cleaned + 1) rest, rfl⟩

theorem InText.step {crew : Crew ι} {pool pool' : Crowd ι} (inText : InText crew pool) {tick : Tick ι}
    (taken : crew.step pool tick = some pool') : InText crew pool' := by
  cases tick with
  | expire key =>
      cases taken
      exact inText
  | task i refused =>
      cases taken
      intro j cleanup
      by_cases own : j = i
      · subst own
        obtain ⟨stage, here⟩ := inText j cleanup
        cases at_ : pool.task j with
        | done a =>
            rw [Pool.advance_done at_]
            exact ⟨stage, here⟩
        | call r next =>
            rw [Pool.advance_task_self at_]
            exact next_of_cleanup (here.symm.trans at_) _
      · rw [Pool.advance_task_other own]
        exact inText j cleanup

/-! ## What a step does to the records -/

theorem answerOr_cases (refused : Option RedisError) (server : Nat) (call : RedisCall) (c : Cluster) :
    (answerOr refused server call c).2 = c ∨
      (answerOr refused server call c).2 = (answer server call c).2 := by
  unfold answerOr
  split
  · exact .inl rfl
  · exact .inr rfl

theorem lookup_foldl_erase {keys : List String} {redis : FiniteMap String RedisValue} {key : String}
    (absent : redis.lookup key = none) :
    (keys.foldl (fun redis key => redis.erase key) redis).lookup key = none := by
  induction keys generalizing redis with
  | nil => exact absent
  | cons first keys ih =>
      apply ih
      rw [FiniteMap.lookup_erase_if]
      split
      · rfl
      · exact absent

theorem record_of_answerOr {refused : Option RedisError} {server : Nat} {call : RedisCall} {c : Cluster}
    {name : String} (other : ∀ key seconds value, call ≠ .setex key seconds value)
    (absent : c.record name = none) : (answerOr refused server call c).2.record name = none := by
  rcases answerOr_cases refused server call c with same | same
  · rw [same]
    exact absent
  · rw [same]
    cases call with
    | setex key seconds value => exact absurd rfl (other key seconds value)
    | getdel key =>
        simp only [answer, Cluster.record, FiniteMap.lookup_erase_if]
        split
        · rfl
        · exact absent
    | del keys => exact lookup_foldl_erase absent
    | get _ => exact absent
    | keyExists _ => exact absent
    | publish _ _ => exact absent
    | waitersInsert _ _ => exact absent
    | waitersRemove _ => exact absent
    | waitersKeys => exact absent

theorem asked_of_removing {stage : SweepStage} {r : RedisCall}
    {next : r.Reply → Program RedisCall.Reply Unit} (here : stage.program = .call r next)
    {reply : r.Reply} {name : String} (drops : removing (next reply) = some name) :
    r = .keyExists (pairingKey name) := by
  cases stage with
  | snapshot =>
      cases here
      cases (SweepStage.removing_asking 0 reply).symm.trans drops
  | asking cleaned names =>
      cases names with
      | nil => cases here
      | cons asked rest =>
          rw [SweepStage.program_asking] at here
          cases here
          dsimp only at drops
          split at drops
          · rw [SweepStage.removing_asking] at drops
            cases drops
          · cases drops
            rfl
  | dropping cleaned dropped rest =>
      cases here
      cases (SweepStage.removing_asking (cleaned + 1) rest).symm.trans drops

theorem not_setex_of_cleanup {stage : SweepStage} {key : String} {seconds : Int} {value : RedisValue}
    {next : Except RedisError Unit → Program RedisCall.Reply Unit} :
    stage.program ≠ .call (.setex key seconds value) next := by
  intro here
  cases stage with
  | snapshot => cases here
  | asking cleaned names => cases names <;> cases here
  | dropping cleaned name rest => cases here

theorem removing_of_asking {stage : SweepStage} {key : String}
    {next : Except RedisError Bool → Program RedisCall.Reply Unit}
    (here : stage.program = .call (.keyExists key) next) :
    ∃ name, key = pairingKey name ∧ ∀ reply, removing (next reply) =
      if reply.toOption.getD false then none else some name := by
  cases stage with
  | snapshot => cases here
  | dropping cleaned dropped rest => cases here
  | asking cleaned names =>
      cases names with
      | nil => cases here
      | cons asked rest =>
          rw [SweepStage.program_asking] at here
          cases here
          refine ⟨asked, rfl, fun reply => ?_⟩
          dsimp only
          split
          · exact SweepStage.removing_asking cleaned rest
          · rfl

/-! ## Safe steps -/

section Steps

variable {crew : Crew ι} {pool : Crowd ι} {i : ι} {refused : Option RedisError} {r : RedisCall}
  {next : r.Reply → Program RedisCall.Reply Unit}

/-- After a call of task `i`, the removals to come are those of before and that of `i`. -/
theorem safe_advance_iff (safe : Safe crew pool) (here : pool.task i = .call r next)
    (other : ∀ key seconds value, r ≠ .setex key seconds value) :
    Safe crew (pool.advance (answerOr refused (crew.server i)) i) ↔
      ∀ name, crew.job i = .cleanup →
        removing (next (answerOr refused (crew.server i) r pool.shared).1) = some name →
          (answerOr refused (crew.server i) r pool.shared).2.record name = none := by
  rw [Safe, Pool.advance_shared here]
  constructor
  · intro after name cleanup drops
    rw [← Pool.advance_task_self here] at drops
    exact after i name cleanup drops
  · intro own j name cleanup drops
    by_cases same : j = i
    · subst same
      rw [Pool.advance_task_self here] at drops
      exact own name cleanup drops
    · rw [Pool.advance_task_other same] at drops
      exact record_of_answerOr other (safe j name cleanup drops)

theorem safe_advance (inText : InText crew pool) (safe : Safe crew pool)
    (here : pool.task i = .call r next) (other : ∀ key seconds value, r ≠ .setex key seconds value)
    (silent : ∀ key, r ≠ .keyExists key) :
    Safe crew (pool.advance (answerOr refused (crew.server i)) i) := by
  rw [safe_advance_iff safe here other]
  intro name cleanup drops
  obtain ⟨stage, at_⟩ := inText i cleanup
  exact absurd (asked_of_removing (at_.symm.trans here) drops) (silent _)

theorem safe_asking_iff (inText : InText crew pool) (safe : Safe crew pool) {key : String}
    {next : Except RedisError Bool → Program RedisCall.Reply Unit}
    (here : pool.task i = .call (.keyExists key) next) :
    Safe crew (pool.advance (answerOr refused (crew.server i)) i) ↔
      (crew.job i = .cleanup → refused.isSome → pool.shared.redis.lookup key = none) := by
  rw [safe_advance_iff safe here (by rintro _ _ _ ⟨⟩)]
  by_cases cleanup : crew.job i = .cleanup
  · obtain ⟨stage, at_⟩ := inText i cleanup
    obtain ⟨asked, rfl, drops⟩ := removing_of_asking (at_.symm.trans here)
    cases refused with
    | none =>
        simp only [answerOr, Option.bind_none, answer, drops]
        cases found : pool.shared.redis.lookup (pairingKey asked) with
        | none => simp [Except.toOption, Cluster.record, found]
        | some value => simp [Except.toOption]
    | some e => simp [answerOr, refusal, drops, Except.toOption, Cluster.record, cleanup]
  · simp [cleanup]

theorem safe_storing_iff (inText : InText crew pool) (safe : Safe crew pool) {key : String}
    {seconds : Int} {value : RedisValue} {next : Except RedisError Unit → Program RedisCall.Reply Unit}
    (here : pool.task i = .call (.setex key seconds value) next) :
    Safe crew (pool.advance (answerOr refused (crew.server i)) i) ↔
      (refused = none → ∀ j, crew.job j = .cleanup →
        ∀ name ∈ removing (pool.task j), key ≠ pairingKey name) := by
  have registers : crew.job i ≠ .cleanup := by
    intro cleanup
    obtain ⟨stage, at_⟩ := inText i cleanup
    exact not_setex_of_cleanup (at_.symm.trans here)
  have others : ∀ j, crew.job j = .cleanup → j ≠ i := by
    rintro j cleanup rfl
    exact registers cleanup
  rw [Safe, Pool.advance_shared here]
  cases refused with
  | some e =>
      simp only [reduceCtorEq, false_implies, iff_true]
      intro j name cleanup drops
      rw [Pool.advance_task_other (others j cleanup)] at drops
      exact safe j name cleanup drops
  | none =>
      have stored (name : String) :
          (answerOr none (crew.server i) (.setex key seconds value) pool.shared).2.record name =
            if pairingKey name = key then some value else pool.shared.record name :=
        FiniteMap.lookup_insert_if _ _ _ _
      simp only [forall_const]
      constructor
      · intro after j cleanup name drops same
        rw [Option.mem_def, ← Pool.advance_task_other (others j cleanup)] at drops
        have absent := after j name cleanup drops
        rw [stored, if_pos same.symm] at absent
        cases absent
      · intro apart j name cleanup drops
        rw [Pool.advance_task_other (others j cleanup)] at drops
        rw [stored, if_neg (apart j cleanup name drops).symm]
        exact safe j name cleanup drops

omit [DecidableEq ι] in
theorem neverMisled_call (here : pool.task i = .call r next) :
    NeverMisled crew pool (.task i refused) ↔ NotMisleading crew pool i refused r := by
  simp only [NeverMisled, here, Program.request, Option.mem_def, Option.some.injEq, forall_eq']

/-- A step leaves the pool safe exactly when it misleads no cleanup. -/
theorem safe_step_iff {pool' : Crowd ι} (inText : InText crew pool) (safe : Safe crew pool)
    {tick : Tick ι} (taken : crew.step pool tick = some pool') :
    Safe crew pool' ↔ NeverMisled crew pool tick := by
  cases tick with
  | expire key =>
      cases taken
      refine iff_of_true ?_ trivial
      intro i name cleanup drops
      have absent := safe i name cleanup drops
      simp only [Cluster.record, FiniteMap.lookup_erase_if] at absent ⊢
      split
      · rfl
      · exact absent
  | task i refused =>
      cases taken
      cases here : pool.task i with
      | done a =>
          rw [Pool.advance_done here]
          exact iff_of_true safe (by simp [NeverMisled, here, Program.request])
      | call r next =>
          rw [neverMisled_call here]
          cases r with
          | keyExists key => exact safe_asking_iff inText safe here
          | setex key seconds value => exact safe_storing_iff inText safe here
          | _ =>
              exact iff_of_true (safe_advance inText safe here (by rintro _ _ _ ⟨⟩) (by rintro _ ⟨⟩))
                trivial

end Steps

/-- As long as no question is refused while the record is there and no record is stored
    between a question and its removal, a cleanup drops a sender only when there is no
    record under its name. The first step that does otherwise puts a cleanup before the
    removal of a sender whose record is there. -/
theorem cleanup_spares_live_waiters (crew : Crew ι) (c : Cluster) (ticks : List (Tick ι))
    (pool : Crowd ι) (honest : Machine.Along crew.step (NeverMisled crew) (crew.start c) ticks)
    (runs : Machine.run crew.step (crew.start c) ticks = some pool) :
    (∀ i name, crew.job i = .cleanup → removing (pool.task i) = some name →
      pool.shared.record name = none) ∧
    ∀ tick pool', crew.step pool tick = some pool' →
      ((∀ i name, crew.job i = .cleanup → removing (pool'.task i) = some name →
        pool'.shared.record name = none) ↔ NeverMisled crew pool tick) := by
  have start : InText crew (crew.start c) ∧ Safe crew (crew.start c) := by
    refine ⟨inText_start crew c, ?_⟩
    intro i name cleanup drops
    simp only [Crew.start, Pool.start, cleanup] at drops
    cases drops
  have kept : ∀ pool tick pool', InText crew pool ∧ Safe crew pool → NeverMisled crew pool tick →
      crew.step pool tick = some pool' → InText crew pool' ∧ Safe crew pool' := by
    intro pool tick pool' both allowed taken
    exact ⟨both.1.step taken, (safe_step_iff both.1 both.2 taken).mpr allowed⟩
  have both : InText crew pool ∧ Safe crew pool := Machine.run_invariant kept start honest runs
  exact ⟨both.2, fun tick pool' taken => safe_step_iff both.1 both.2 taken⟩

/-- A registration on a server whose cleanup runs at the same time. -/
def besideCleanup : Crew Bool where
  server := fun _ => 0
  job := fun
    | false => .register ⟨60 * 10 ^ 9, "s"⟩ ⟨⟨1⟩, 7, 0, 0⟩ ⟨"a", ⟨⟨10, 0, 0, 1⟩, 4001⟩, none⟩
    | true => .cleanup

/-- The client waits with its record and its sender in place. The cleanup's question is
    refused, or it was asked before the client came; either way the sender is dropped and
    the record stays. -/
theorem cleanup_drops_live_waiter :
    let registers : List (Tick Bool) := List.replicate 4 (.task false none)
    let left : Cluster := { new with localWaiters := fun _ => (∅ : FiniteMap String Chan).insert "a" 3 }
    let look := fun pool : Crowd Bool => (pool.shared.record "a", pool.shared.waiter 0 "a")
    let live := some (RedisValue.json ⟨⟨⟨10, 0, 0, 1⟩, 4001⟩, ⟨1⟩, "s", 0⟩)
    (Machine.run besideCleanup.step (besideCleanup.start new)
        (registers ++ [.task true none, .task true (some "down")])).map look = some (live, some 7) ∧
      (Machine.run besideCleanup.step (besideCleanup.start new)
        (registers ++ [.task true none, .task true (some "down"), .task true none])).map look =
          some (live, none) ∧
      (Machine.run besideCleanup.step (besideCleanup.start left)
        ([.task true none, .task true none] ++ registers)).map look = some (live, some 7) ∧
      (Machine.run besideCleanup.step (besideCleanup.start left)
        ([.task true none, .task true none] ++ registers ++ [.task true none])).map look =
          some (live, none) := by
  decide +kernel

/-- The question finds no record, and nobody stores one before the sender is dropped. -/
theorem cleanup_spares_live_waiters_unasked :
    let left : Cluster := { new with localWaiters := fun _ => (∅ : FiniteMap String Chan).insert "a" 3 }
    ∃ pool, Machine.run besideCleanup.step (besideCleanup.start left)
        [.task true none, .task false none, .task true none] = some pool ∧
      removing (pool.task true) = some "a" ∧ pool.shared.record "a" = none := by
  intro left
  have drops : (Machine.run besideCleanup.step (besideCleanup.start left)
      [.task true none, .task false none, .task true none]).map (fun pool => removing (pool.task true)) =
        some (some "a") := by decide +kernel
  obtain ⟨pool, runs, drops⟩ := Option.map_eq_some_iff.mp drops
  have honest : Machine.Along besideCleanup.step (NeverMisled besideCleanup)
      (besideCleanup.start left) [.task true none, .task false none, .task true none] := by
    decide +kernel
  exact ⟨pool, runs, drops,
    (cleanup_spares_live_waiters besideCleanup left _ pool honest runs).1 true "a" rfl drops⟩

end TCPunch.RedisRegistry
