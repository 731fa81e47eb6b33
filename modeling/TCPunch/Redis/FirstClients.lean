import Mathlib.Data.Fin.VecNotation
import Mathlib.Data.Fintype.Card
import TCPunch.Lib.Handover
import TCPunch.Redis.Stages

/-! # Concurrent first registrations on one Redis-backed server

The pairing key is the slot and `local_waiters` the bell of a hand-over. Registrations of
one name without tokens follow it as long as none is in a hurry: a record is stored under
a vacant key, a sender is put where there is none, and a record is taken only after the
registration that stored it has returned. Then every client that waits is notified by
exactly one other, or is the one on record.
-/

namespace TCPunch.RedisRegistry

/-- A pool of concurrent registrations on one server. -/
abbrev Registrations (k : Nat) :=
  Pool (Fin k) Cluster RedisCall.Reply (Except RegistryError Registered)

/-- Concurrent registrations; the channel of each is named after it. -/
def registrations (config : RegistryConfig) {k : Nat} (calls : Fin k → Registration) (i : Fin k) :
    Program RedisCall.Reply (Except RegistryError Registered) :=
  (register config ((calls i).draws i) (calls i).request).run

/-- The record that registration `i` stores. -/
def recordOf (config : RegistryConfig) {k : Nat} (calls : Fin k → Registration) (i : Fin k) :
    WaitingClient :=
  waitingClient config ((calls i).draws i) (calls i).newV4 (calls i).request.clientInfo

/-- The next call of registration `i` takes no record of a registration that is still
    running, and overwrites neither a record nor a sender. -/
def unhurried (server : Nat) {k : Nat} (calls : Fin k → Registration) (pool : Registrations k)
    (i : Fin k) : Bool :=
  match pool.task i with
  | .call (.getdel key) _ =>
      match pool.shared.redis.lookup key with
      | some (.json client) =>
          decide (∀ w, (calls w).newV4 = client.reconnectToken → (pool.task w).result.isSome = true)
      | _ => true
  | .call (.setex key _ (.json _)) _ => (pool.shared.redis.lookup key).isNone
  | .call (.waitersInsert name _) _ => ((pool.shared.localWaiters server).lookup name).isNone
  | _ => true

/-! ## The simulation -/

open Stage

/-- The role that registration `i` has at each stage. -/
inductive Plays (config : RegistryConfig) {k : Nat} (calls : Fin k → Registration) (i : Fin k) :
    Stage → Role (Fin k) → Prop where
  | claim : Plays config calls i .claim .idle
  | store : Plays config calls i .store .idle
  | announce : Plays config calls i .announce .entering
  | enter : Plays config calls i .enter .entering
  | waiting : Plays config calls i (.returned (firstWait ((calls i).draws i))) .waiting
  | forget (w : Fin k) : Plays config calls i (.forget (recordOf config calls w)) (.taking w)
  | notify (w : Fin k) : Plays config calls i (.notify (recordOf config calls w)) (.taking w)
  | served (w : Fin k) :
      Plays config calls i (.returned (pairedWith ((calls i).draws i) (recordOf config calls w)
        [⟨w, (calls i).request.clientInfo⟩])) (.served w)

/-- A pool follows a fair hand-over. -/
structure Follows (config : RegistryConfig) (server : Nat) (name : String) {k : Nat}
    (calls : Fin k → Registration) (h : Handover (Fin k)) (pool : Registrations k)
    (stage : Fin k → Stage) : Prop where
  tasks : ∀ i, pool.task i =
    (stage i).program config ((calls i).draws i) name (calls i).request.clientInfo
  plays : ∀ i, Plays config calls i (stage i) (h.role i)
  slot : pool.shared.record name = h.slot.map fun i => .json (recordOf config calls i)
  bell : pool.shared.waiter server name = h.bell.map Fin.val
  fair : h.Fair

variable {config : RegistryConfig} {server : Nat} {name : String} {k : Nat}
  {calls : Fin k → Registration} {h h' : Handover (Fin k)} {pool : Registrations k}
  {stage : Fin k → Stage} {i : Fin k}

/-- Where the next call takes registration `i`, and what it changes. -/
def next (config : RegistryConfig) (server : Nat) (name : String) {k : Nat}
    (calls : Fin k → Registration) (pool : Registrations k) (stage : Fin k → Stage) (i : Fin k) :
    Stage × Cluster :=
  (stage i).step config ((calls i).draws i) name (calls i).request.clientInfo server pool.shared

theorem Follows.advance (follows : Follows config server name calls h pool stage)
    (plays : Plays config calls i (next config server name calls pool stage i).1 (h'.role i))
    (others : ∀ j, j ≠ i → h'.role j = h.role j)
    (record : (next config server name calls pool stage i).2.record name =
      h'.slot.map fun i => .json (recordOf config calls i))
    (waiter : (next config server name calls pool stage i).2.waiter server name =
      h'.bell.map Fin.val) (fair : h'.Fair) :
    Follows config server name calls h' (pool.advance (answer server) i)
      (Function.update stage i (next config server name calls pool stage i).1) := by
  obtain ⟨shared, task⟩ := Stage.advance_step server (follows.tasks i)
  refine ⟨fun j => ?_, fun j => ?_, shared ▸ record, shared ▸ waiter, fair⟩
  · by_cases same : j = i
    · subst same; rw [Function.update_self, task]; rfl
    · rw [Function.update_of_ne same, Pool.advance_task_other same, follows.tasks j]
  · by_cases same : j = i
    · subst same; rw [Function.update_self]; exact plays
    · rw [Function.update_of_ne same, others j same]; exact follows.plays j

theorem Follows.stay (follows : Follows config server name calls h pool stage)
    (plays : Plays config calls i (next config server name calls pool stage i).1 (h.role i))
    (record : (next config server name calls pool stage i).2.record name = pool.shared.record name)
    (waiter : (next config server name calls pool stage i).2.waiter server name =
      pool.shared.waiter server name) :
    Follows config server name calls h (pool.advance (answer server) i)
      (Function.update stage i (next config server name calls pool stage i).1) :=
  follows.advance plays (fun _ _ => rfl) (record.trans follows.slot) (waiter.trans follows.bell)
    follows.fair

theorem Follows.move (follows : Follows config server name calls h pool stage) {role slot bell}
    (step : h.Step ⟨Function.update h.role i role, slot, bell⟩)
    (plays : Plays config calls i (next config server name calls pool stage i).1 role)
    (record : (next config server name calls pool stage i).2.record name =
      slot.map fun i => .json (recordOf config calls i))
    (waiter : (next config server name calls pool stage i).2.waiter server name =
      bell.map Fin.val) :
    Follows config server name calls ⟨Function.update h.role i role, slot, bell⟩
      (pool.advance (answer server) i)
      (Function.update stage i (next config server name calls pool stage i).1) :=
  follows.advance (by simpa only [Function.update_self] using plays)
    (fun _ other => Function.update_of_ne other ..) record waiter (follows.fair.step step)

theorem Follows.waiting_of_returned (follows : Follows config server name calls h pool stage) {w}
    (found : h.slot = some w) (returned : (pool.task w).result.isSome = true) :
    h.role w = .waiting := by
  have plays := follows.plays w
  rw [follows.tasks w] at returned
  generalize stage w = s at plays returned
  generalize role : h.role w = r at plays
  cases plays with
  | waiting => rfl
  | served v => rcases follows.fair.owner w found with wrong | wrong <;> cases role.symm.trans wrong
  | claim | store | announce | enter | forget | notify => cases returned

/-- `GETDEL` finds a record whose owner has returned. -/
theorem Follows.takes (follows : Follows config server name calls h pool stage)
    (may : unhurried server calls pool i = true) (here : stage i = .claim)
    (idle : h.role i = .idle) {w} (found : h.slot = some w) :
    ∃ h' stage', Follows config server name calls h' (pool.advance (answer server) i) stage' := by
  have live : pool.shared.record name = some (.json (recordOf config calls w)) := by
    rw [follows.slot, found]; rfl
  have returned : (pool.task w).result.isSome = true := by
    rw [unhurried, follows.tasks i, here] at may
    have may : (match pool.shared.record name with
      | some (.json client) => decide (∀ w, (calls w).newV4 = client.reconnectToken →
          (pool.task w).result.isSome = true)
      | _ => true) = true := may
    rw [live] at may
    exact of_decide_eq_true may w rfl
  refine ⟨_, _, follows.move (.take i w idle found (follows.waiting_of_returned found returned))
    ?_ ?_ ?_⟩ <;> simp only [next, here, Stage.step, live]
  · exact .forget w
  · simp [Cluster.record]
  · exact follows.bell

/-- One call of a registration that is in no hurry is a move of the hand-over, or none. -/
theorem Follows.step (follows : Follows config server name calls h pool stage)
    (may : unhurried server calls pool i = true) :
    ∃ h' stage', Follows config server name calls h' (pool.advance (answer server) i) stage' := by
  have plays := follows.plays i
  generalize here : stage i = s at plays
  generalize role : h.role i = r at plays
  cases plays with
  | claim =>
      cases found : h.slot with
      | some w => exact follows.takes may here role found
      | none =>
          have vacant : pool.shared.record name = none := by rw [follows.slot, found]; rfl
          refine ⟨h, _, follows.stay ?_ ?_ ?_⟩ <;> simp only [next, here, Stage.step, vacant]
          rw [role]
          exact .store
  | forget w =>
      refine ⟨h, _, follows.stay ?_ ?_ ?_⟩ <;> simp only [next, here, Stage.step]
      · rw [role]
        exact .notify w
      · simp [Cluster.record]
      · rfl
  | notify w =>
      have ringing : pool.shared.waiter server name = some w.val := by
        rw [follows.bell, follows.fair.rings i w role]; rfl
      refine ⟨_, _, follows.move (.ring i w role) ?_ ?_ ?_⟩ <;>
        simp only [next, here, Stage.step, ringing]
      · exact .served w
      · exact follows.slot
      · simp [Cluster.waiter_dropWaiter]
  | store =>
      rw [unhurried, follows.tasks i, here] at may
      have vacant : h.slot = none := by
        have vacant : pool.shared.record name = none := Option.isNone_iff_eq_none.mp may
        rw [follows.slot] at vacant
        exact Option.map_eq_none_iff.mp vacant
      refine ⟨_, _, follows.move (.store i role vacant) ?_ ?_ ?_⟩ <;>
        simp only [next, here, Stage.step]
      · exact .announce
      · simp [Cluster.record, recordOf]
      · exact follows.bell
  | announce =>
      refine ⟨h, _, follows.stay ?_ ?_ ?_⟩ <;> simp only [next, here, Stage.step]
      · rw [role]
        exact .enter
      · exact Cluster.record_issue
      · exact Cluster.waiter_issue
  | enter =>
      rw [unhurried, follows.tasks i, here] at may
      have vacant : h.bell = none := by
        have vacant : pool.shared.waiter server name = none := Option.isNone_iff_eq_none.mp may
        rw [follows.bell] at vacant
        exact Option.map_eq_none_iff.mp vacant
      refine ⟨_, _, follows.move (.enter i role vacant) ?_ ?_ ?_⟩ <;>
        simp only [next, here, Stage.step]
      · exact .waiting
      · exact follows.slot
      · simp [Cluster.waiter, Registration.draws]
  | waiting | served =>
      refine ⟨h, stage, ?_⟩
      rw [Pool.advance_done (by rw [follows.tasks i, here]; rfl)]
      exact follows

theorem Follows.result (follows : Follows config server name calls h pool stage) {result}
    (returned : (pool.task i).result = some result) :
    (h.role i = .waiting ∧ result = firstWait ((calls i).draws i)) ∨
      ∃ w, h.role i = .served w ∧ result = pairedWith ((calls i).draws i) (recordOf config calls w)
        [⟨w, (calls i).request.clientInfo⟩] := by
  have plays := follows.plays i
  rw [follows.tasks i] at returned
  generalize stage i = s at plays returned
  generalize h.role i = r at plays
  cases plays with
  | waiting => exact .inl ⟨rfl, (Option.some.inj returned).symm⟩
  | served w => exact .inr ⟨w, rfl, (Option.some.inj returned).symm⟩
  | claim | store | announce | enter | forget | notify => cases returned

theorem Follows.served_of_sent (follows : Follows config server name calls h pool stage) {answer}
    (returned : (pool.task i).result = some (.ok answer)) {message} (sent : message ∈ answer.sent)
    {w : Fin k} (channel : message.channel = w) : h.role i = .served w := by
  rcases follows.result returned with ⟨-, same⟩ | ⟨v, role, same⟩
  · cases same
    cases sent
  · cases same
    obtain rfl := List.mem_singleton.mp sent
    rw [role, Fin.ext channel]

/-- Concurrent registrations of one name, none of them in a hurry, on a server that has
    nothing under the name: when all have returned, whoever was told to wait has been sent
    one address by one other that was told its address, or is on record with its sender. -/
theorem no_lost_registration (config : RegistryConfig) (server : Nat) (name : String) {k : Nat}
    (calls : Fin k → Registration) (named : ∀ i, (calls i).request.pairingName = name)
    (tokenless : ∀ i, (calls i).request.reconnectToken = none) (c : Cluster)
    (vacant : c.record name = none) (silent : c.waiter server name = none)
    (schedule : List (Fin k))
    (along : Pool.Along (answer server) (fun pool i => unhurried server calls pool i = true)
      (Pool.start c (registrations config calls)) schedule)
    (finished : ((Pool.start c (registrations config calls)).follow (answer server)
      schedule).Finished) (i : Fin k) {token channel sent}
    (waits : (((Pool.start c (registrations config calls)).follow (answer server) schedule).task
      i).result = some (.ok ⟨.waiting token channel, sent⟩)) :
    let pool := (Pool.start c (registrations config calls)).follow (answer server) schedule
    (∃ j t, (pool.task j).result = some (.ok ⟨.paired t (calls i).request.clientInfo,
          [⟨i, (calls j).request.clientInfo⟩]⟩) ∧
        ∀ j' answer, (pool.task j').result = some (.ok answer) →
          ∀ message ∈ answer.sent, message.channel = i → j' = j) ∨
      pool.shared.record name = some (.json (recordOf config calls i)) ∧
        pool.shared.waiter server name = some i.val ∧
        ∀ j answer, (pool.task j).result = some (.ok answer) →
          ∀ message ∈ answer.sent, message.channel ≠ i := by
  intro pool
  have first : Follows config server name calls Handover.start
      (Pool.start c (registrations config calls)) fun _ => .claim := {
    tasks := by
      intro i
      simp only [Pool.start, registrations, register, tokenless, named]
      rfl
    plays := fun _ => .claim
    slot := vacant
    bell := silent
    fair := Handover.fair_start }
  have kept : ∀ (pool : Registrations k) (i : Fin k),
      (∃ h stage, Follows config server name calls h pool stage) →
        unhurried server calls pool i = true →
          ∃ h stage, Follows config server name calls h (pool.advance (answer server) i) stage := by
    intro pool i follows may
    obtain ⟨h, stage, follows⟩ := follows
    exact follows.step may
  obtain ⟨h, stage, follows⟩ := Pool.follow_invariant kept schedule ⟨_, _, first⟩ along
  -- Everybody has returned, so nobody is about to ring.
  have quiet : ∀ j w, h.role j ≠ .taking w := by
    intro j w taking
    obtain ⟨result, returned⟩ := Option.isSome_iff_exists.mp (finished j)
    rcases follows.result returned with ⟨role, -⟩ | ⟨_, role, -⟩ <;> cases taking.symm.trans role
  have waiting : h.role i = .waiting := by
    rcases follows.result waits with ⟨role, -⟩ | ⟨_, -, wrong⟩
    · exact role
    · cases wrong
  rcases follows.fair.settled quiet waiting with ⟨j, served, only⟩ | ⟨found, bell, unserved⟩
  · obtain ⟨result, returned⟩ := Option.isSome_iff_exists.mp (finished j)
    refine .inl ⟨j, (calls j).newV4, ?_, fun j' answer returned' message sent channel =>
      only j' (follows.served_of_sent returned' sent channel)⟩
    rcases follows.result returned with ⟨role, -⟩ | ⟨w, role, rfl⟩
    · cases served.symm.trans role
    · cases served.symm.trans role
      exact returned
  · refine .inr ⟨by rw [follows.slot, found]; rfl, by rw [follows.bell, bell]; rfl,
      fun j answer returned message sent channel =>
        unserved j (follows.served_of_sent returned sent channel)⟩

/-- Both `GETDEL` find nothing; the second record and the second sender replace the first,
    whose client waits for nobody. -/
theorem second_record_replaces_first :
    let config : RegistryConfig := ⟨60 * 10 ^ 9, "s"⟩
    let calls : Fin 2 → Registration :=
      ![⟨⟨"a", ⟨⟨10, 0, 0, 1⟩, 4001⟩, none⟩, ⟨1⟩, 0, 0⟩, ⟨⟨"a", ⟨⟨10, 0, 0, 2⟩, 4002⟩, none⟩, ⟨2⟩, 0, 0⟩]
    let pool := (Pool.start new (registrations config calls)).follow (answer 0)
      [0, 1, 0, 0, 0, 1, 1, 1]
    (pool.task 0).result = some (.ok ⟨.waiting ⟨1⟩ 0, []⟩) ∧
      (pool.task 1).result = some (.ok ⟨.waiting ⟨2⟩ 1, []⟩) ∧
      pool.shared.record "a" = some (.json (recordOf config calls 1)) ∧
      pool.shared.waiter 0 "a" = some 1 := by
  decide +kernel

/-- The second registration comes after the first. -/
theorem no_lost_registration_one_after_other :
    let config : RegistryConfig := ⟨60 * 10 ^ 9, "s"⟩
    let calls : Fin 2 → Registration :=
      ![⟨⟨"a", ⟨⟨10, 0, 0, 1⟩, 4001⟩, none⟩, ⟨1⟩, 0, 0⟩, ⟨⟨"a", ⟨⟨10, 0, 0, 2⟩, 4002⟩, none⟩, ⟨2⟩, 0, 0⟩]
    let pool := (Pool.start new (registrations config calls)).follow (answer 0) [0, 0, 0, 0, 1, 1, 1]
    (∃ j t, (pool.task j).result = some (.ok ⟨.paired t ⟨⟨10, 0, 0, 1⟩, 4001⟩,
          [⟨0, (calls j).request.clientInfo⟩]⟩) ∧
        ∀ j' answer, (pool.task j').result = some (.ok answer) →
          ∀ message ∈ answer.sent, message.channel = 0 → j' = j) ∨
      pool.shared.record "a" = some (.json (recordOf config calls 0)) ∧
        pool.shared.waiter 0 "a" = some 0 ∧
        ∀ j answer, (pool.task j).result = some (.ok answer) →
          ∀ message ∈ answer.sent, message.channel ≠ 0 := by
  intro config calls pool
  have waits : (pool.task 0).result = some (.ok ⟨.waiting ⟨1⟩ 0, []⟩) := by decide +kernel
  exact no_lost_registration config 0 "a" calls (by decide +kernel) (by decide +kernel) new
    (by decide +kernel) (by decide +kernel) [0, 0, 0, 0, 1, 1, 1] (by decide +kernel)
    (by decide +kernel) 0 waits

end TCPunch.RedisRegistry
