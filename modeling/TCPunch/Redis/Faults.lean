import TCPunch.Redis.Atomic

/-! # A registration during which Redis fails

Redis refuses one command of a call: the command is not applied and returns an error, and
`?` ends the call there. What earlier commands did stays. `register` deletes the record of
a waiting client before it tells anybody, and stores its own record before the token, so
only a failure before the first of these changes leaves everything as it was.
-/

namespace TCPunch.RedisRegistry

/-- The reply of a Redis that refuses a command; calls on `local_waiters` cannot fail. -/
def refusal (e : RedisError) : (call : RedisCall) → Option call.Reply
  | .get _ => some (.error e)
  | .setex _ _ _ => some (.error e)
  | .getdel _ => some (.error e)
  | .del _ => some (.error e)
  | .keyExists _ => some (.error e)
  | .publish _ _ => some (.error e)
  | .waitersInsert _ _ => none
  | .waitersRemove _ => none
  | .waitersKeys => none

/-- The number of commands that still succeed, and the error of the one after them. -/
abbrev Fault := Option (Nat × RedisError)

/-- The effect of one call when Redis refuses the command that the fault names. -/
def answerFaulty (server : Nat) (call : RedisCall) : Fault × Cluster → call.Reply × Fault × Cluster
  | (fault, c) =>
      match fault with
      | none => ((answer server call c).1, none, (answer server call c).2)
      | some (k, e) =>
          match refusal e call with
          | none => ((answer server call c).1, some (k, e), (answer server call c).2)
          | some reply =>
              match k with
              | 0 => (reply, none, c)
              | k + 1 => ((answer server call c).1, some (k, e), (answer server call c).2)

theorem answerFaulty_cases (server : Nat) (call : RedisCall) (s : Fault × Cluster) :
    (answerFaulty server call s).2.2 = s.2 ∨
      (answerFaulty server call s).2.2 = (answer server call s.2).2 := by
  obtain ⟨fault, c⟩ := s
  cases fault with
  | none => exact .inr rfl
  | some fault =>
      obtain ⟨k, e⟩ := fault
      cases refused : refusal e call with
      | none => simp [answerFaulty, refused]
      | some reply => cases k <;> simp [answerFaulty, refused]

/-- A whole call with the fault, and nothing else touching Redis or the waiters. -/
def faultily {α : Type} (server : Nat) (method : Method α) (s : Fault × Cluster) :
    Except RegistryError α × Fault × Cluster :=
  method.run.run (answerFaulty server) s

section Steps

variable {α β : Type} {server : Nat} {method : Method α} {next : α → Method β} {s s' : Fault × Cluster}

theorem faultily_then {a : α} (ran : faultily server method s = (.ok a, s')) :
    faultily server (method >>= next) s = faultily server (next a) s' := by
  unfold faultily at ran ⊢
  rw [ExceptT.run_bind, Program.run_bind, ran]

theorem faultily_stops {e : RegistryError} (ran : faultily server method s = (.error e, s')) :
    faultily server (method >>= next) s = (.error e, s') := by
  unfold faultily at ran ⊢
  rw [ExceptT.run_bind, Program.run_bind, ran]
  rfl

end Steps

variable {config : RegistryConfig} {draws : Draws} {request : Request} {server : Nat} {c : Cluster}

theorem faultily_none {α : Type} (server : Nat) (method : Method α) (c : Cluster) :
    faultily server method (none, c) =
      ((atomically server method c).1, none, (atomically server method c).2) := by
  unfold faultily atomically
  generalize method.run = program
  induction program generalizing c with
  | done a => rfl
  | call r rest ih => exact ih _ _

/-- Pairing records, token keys and waiters are the same. -/
def Unchanged (before after : Cluster) : Prop :=
  (∀ name, after.record name = before.record name) ∧ (∀ t, after.token t = before.token t) ∧
    ∀ server name, after.waiter server name = before.waiter server name

theorem Unchanged.refl (c : Cluster) : Unchanged c c :=
  ⟨fun _ => rfl, fun _ => rfl, fun _ _ => rfl⟩

theorem changed_of_record {before after : Cluster} {name : String} {value : RedisValue}
    (found : before.record name = some value) (gone : after.record name = none) :
    ¬ Unchanged before after := by
  intro same
  rw [same.1, found] at gone
  cases gone

/-- The position of `GETDEL` among the commands of a registration. -/
def getdelIndex (request : Request) : Nat := if request.reconnectToken.isSome then 1 else 0

/-- The refused command comes before the call has changed anything: it is one of the
    commands up to `GETDEL` (or to the `SETEX` of a reconnection in its place), or the first
    `SETEX` after a `GETDEL` that found no record. -/
def BeforeChanges (c : Cluster) (request : Request) : Fault → Prop
  | none => False
  | some (k, _) => k ≤ getdelIndex request ∨
      k = getdelIndex request + 1 ∧ c.record request.pairingName = none

/-! ## Commands with a fault -/

section Commands

variable {e : RedisError} {k : Nat} {key : String}

theorem faultily_getdel_refused :
    faultily server (getdel key) (some (0, e), c) = (.error (.redis e), none, c) := rfl

theorem faultily_getdel (k : Nat) :
    faultily server (getdel key) (some (k + 1, e), c) =
      (.ok (c.redis.lookup key), some (k, e), { c with redis := c.redis.erase key }) := rfl

theorem faultily_get_refused :
    faultily server (get key) (some (0, e), c) = (.error (.redis e), none, c) := rfl

theorem faultily_get_plain :
    faultily server (get key) (none, c) = (.ok (c.redis.lookup key), none, c) := rfl

theorem faultily_get (k : Nat) :
    faultily server (get key) (some (k + 1, e), c) = (.ok (c.redis.lookup key), some (k, e), c) := rfl

theorem faultily_setex_refused {seconds value} :
    faultily server (setex key seconds value) (some (0, e), c) = (.error (.redis e), none, c) := rfl

theorem faultily_setex {seconds value} (k : Nat) :
    faultily server (setex key seconds value) (some (k + 1, e), c) =
      (.ok (), some (k, e), { c with redis := c.redis.insert key value }) := rfl

end Commands

/-! ## After the reconnection check -/

/-- The calls of a server that completes a pairing. -/
def Completes : RedisCall → Prop
  | .del keys => ∃ t, keys = [tokenKey t]
  | .waitersRemove _ => True
  | .publish _ _ => True
  | _ => False

theorem record_of_completes {call : RedisCall} (completes : Completes call) (s : Fault × Cluster)
    (name : String) : (answerFaulty server call s).2.2.record name = s.2.record name := by
  rcases answerFaulty_cases server call s with same | same
  · rw [same]
  · rw [same]
    cases call with
    | del keys =>
        obtain ⟨t, rfl⟩ := completes
        simp [answer, Cluster.record]
    | waitersRemove _ => rfl
    | publish _ _ => rfl
    | _ => cases completes

theorem only_complete {name : String} {info : PeerConnectionData} {client : WaitingClient} :
    (ExceptT.run do
      del [tokenKey client.reconnectToken]
      let sent ← notifyPeer config name info client
      return ({ result := .paired draws.newV4 client.connectionInfo, sent } : Registered)).Only
        Completes := by
  refine ⟨⟨_, rfl⟩, fun reply => ?_⟩
  cases reply with
  | error e => exact trivial
  | ok _ =>
      refine ⟨trivial, fun tx => ?_⟩
      cases tx with
      | some tx => exact trivial
      | none =>
          by_cases other : client.serverId ≠ config.serverId
          · simp only [if_pos other]
            refine ⟨trivial, fun reply => ?_⟩
            cases reply <;> exact trivial
          · simp only [if_neg other]
            exact trivial

theorem record_of_complete {name : String} {info : PeerConnectionData} {client : WaitingClient}
    {s : Fault × Cluster} (gone : s.2.record name = none) :
    (faultily server (do
      del [tokenKey client.reconnectToken]
      let sent ← notifyPeer config name info client
      return ({ result := .paired draws.newV4 client.connectionInfo, sent } : Registered)) s).2.2.record
        name = none := by
  refine Program.Only.run_invariant only_complete (fun s : Fault × Cluster => s.2.record name = none) ?_ gone
  intro call s completes gone
  exact (record_of_completes completes s name).trans gone

section PairOrWait

variable {name : String} {info : PeerConnectionData} {cause : RedisError} {e : RegistryError}
  {s : Fault × Cluster}

theorem pairOrWait_refused :
    faultily server (pairOrWait config draws name info) (some (0, cause), c) =
      (.error (.redis cause), none, c) :=
  faultily_stops faultily_getdel_refused

theorem pairOrWait_vacant_fails (vacant : c.record name = none) {k : Nat}
    (failed : faultily server (pairOrWait config draws name info) (some (k + 1, cause), c) =
      (.error e, s)) : (k = 0 ∧ s.2 = c) ∨ (k = 1 ∧ s.2.record name ≠ none) := by
  have absent : c.redis.lookup (pairingKey name) = none := vacant
  have same : c.redis.erase (pairingKey name) = c.redis := FiniteMap.erase_of_absent vacant
  rw [pairOrWait, faultily_then (faultily_getdel k), absent, same] at failed
  dsimp only at failed
  cases k with
  | zero =>
      rw [faultily_stops faultily_setex_refused] at failed
      cases failed
      exact .inl ⟨rfl, rfl⟩
  | succ k =>
      rw [faultily_then (faultily_setex k)] at failed
      cases k with
      | zero =>
          rw [faultily_stops faultily_setex_refused] at failed
          cases failed
          exact .inr ⟨rfl, by simp [Cluster.record]⟩
      | succ k =>
          rw [faultily_then (faultily_setex k)] at failed
          cases failed

theorem pairOrWait_found_fails {value : RedisValue} (found : c.record name = some value) (k : Nat) :
    (faultily server (pairOrWait config draws name info) (some (k + 1, cause), c)).2.2.record name =
      none := by
  have live : c.redis.lookup (pairingKey name) = some value := found
  have gone : Cluster.record { c with redis := c.redis.erase (pairingKey name) } name = none := by
    simp [Cluster.record]
  rw [pairOrWait, faultily_then (faultily_getdel k), live]
  cases value with
  | json client => exact record_of_complete gone
  | text text => exact gone

/-- After the reconnection check, a failed call has changed nothing exactly if `GETDEL` or
    the first `SETEX` was refused. -/
theorem pairOrWait_unchanged_iff {fault : Fault}
    (failed : faultily server (pairOrWait config draws name info) (fault, c) = (.error e, s)) :
    Unchanged c s.2 ↔
      ∃ k cause, fault = some (k, cause) ∧ (k = 0 ∨ k = 1 ∧ c.record name = none) := by
  match fault, failed with
  | none, failed =>
      rw [faultily_none] at failed
      cases found : c.record name with
      | none => simp [pairOrWait_waits found] at failed
      | some value =>
          cases value with
          | json client => simp [pairOrWait_pairs found] at failed
          | text text =>
              rw [pairOrWait_fails found] at failed
              cases failed
              have gone : Cluster.record { c with redis := c.redis.erase (pairingKey name) } name = none := by
                simp [Cluster.record]
              simp [changed_of_record found gone]
  | some (0, cause), failed =>
      rw [pairOrWait_refused] at failed
      cases failed
      simp [Unchanged.refl]
  | some (k + 1, cause), failed =>
      cases found : c.record name with
      | none =>
          rcases pairOrWait_vacant_fails found failed with ⟨rfl, same⟩ | ⟨rfl, stored⟩
          · simp [same, Unchanged.refl]
          · have changed : ¬ Unchanged c s.2 := fun same => stored ((same.1 name).trans found)
            simp [changed]
      | some value =>
          have gone : (faultily server (pairOrWait config draws name info)
              (some (k + 1, cause), c)).2.2.record name = none := pairOrWait_found_fails found k
          rw [failed] at gone
          simp [changed_of_record found gone]

end PairOrWait

/-! ## Registrations -/

theorem beforeChanges_iff {fault : Fault} :
    BeforeChanges c request fault ↔ ∃ k cause, fault = some (k, cause) ∧
      (k ≤ getdelIndex request ∨ k = getdelIndex request + 1 ∧ c.record request.pairingName = none) := by
  cases fault with
  | none => simp [BeforeChanges]
  | some fault =>
      obtain ⟨k, cause⟩ := fault
      simp [BeforeChanges]

/-- A registration that fails has left all records, token keys and waiters as they were
    exactly when the refused command came before its first change. -/
theorem failed_register_unchanged_iff (config : RegistryConfig) (draws : Draws) (server : Nat)
    (request : Request) (c : Cluster) (fault : Fault) (e : RegistryError) (s : Fault × Cluster)
    (failed : faultily server (register config draws request) (fault, c) = (.error e, s)) :
    Unchanged c s.2 ↔ BeforeChanges c request fault := by
  rw [beforeChanges_iff]
  cases shown : request.reconnectToken with
  | none =>
      simp only [register, shown] at failed
      rw [pairOrWait_unchanged_iff failed]
      simp [getdelIndex, shown]
  | some token =>
      simp only [register, shown] at failed
      have index : getdelIndex request = 1 := by simp [getdelIndex, shown]
      rw [index]
      cases fault with
      | none =>
          rw [faultily_then faultily_get_plain] at failed
          split at failed
          · cases failed
          · rw [pairOrWait_unchanged_iff failed]
            simp
      | some refusal =>
          obtain ⟨k, cause⟩ := refusal
          cases k with
          | zero =>
              rw [faultily_stops faultily_get_refused] at failed
              cases failed
              simp [Unchanged.refl]
          | succ k =>
              rw [faultily_then (faultily_get k)] at failed
              split at failed
              · cases k with
                | zero =>
                    rw [faultily_stops faultily_setex_refused] at failed
                    cases failed
                    simp [Unchanged.refl]
                | succ k =>
                    rw [faultily_then (faultily_setex k)] at failed
                    cases failed
              · rw [pairOrWait_unchanged_iff failed]
                simp

/-- A client waits under a name. The `DEL` of the second client's registration is refused:
    the error comes after the record is gone, and the waiting client stays behind with its
    sender. Under another name the second `SETEX` is refused, and the client that got the
    error is found by the next one. -/
theorem failed_register_loses_waiter :
    let config : RegistryConfig := ⟨60 * 10 ^ 9, "s"⟩
    let info : Nat → PeerConnectionData := fun i => ⟨⟨10, 0, 0, .ofNat i⟩, 4000⟩
    let c := (atomically 0 (register config ⟨⟨1⟩, 0, 0, 0⟩ ⟨"a", info 1, none⟩) new).2
    let second := faultily 0 (register config ⟨⟨2⟩, 1, 1, 1⟩ ⟨"a", info 2, none⟩) (some (1, "down"), c)
    let first := faultily 0 (register config ⟨⟨3⟩, 2, 2, 2⟩ ⟨"b", info 3, none⟩) (some (2, "down"), c)
    c.record "a" = some (.json ⟨info 1, ⟨1⟩, "s", 0⟩) ∧ c.waiter 0 "a" = some 0 ∧
      second.1 = .error (.redis "down") ∧ second.2.2.record "a" = none ∧
      second.2.2.waiter 0 "a" = some 0 ∧
      c.record "b" = none ∧ first.1 = .error (.redis "down") ∧
      first.2.2.record "b" = some (.json ⟨info 3, ⟨3⟩, "s", 2⟩) := by
  decide +kernel

theorem failed_register_unchanged_at_getdel :
    let config : RegistryConfig := ⟨60 * 10 ^ 9, "s"⟩
    let c := (atomically 0 (register config ⟨⟨1⟩, 0, 0, 0⟩ ⟨"a", ⟨⟨10, 0, 0, 1⟩, 4000⟩, none⟩) new).2
    Unchanged c c ↔ BeforeChanges c ⟨"a", ⟨⟨10, 0, 0, 2⟩, 4000⟩, none⟩ (some (0, "down")) :=
  failed_register_unchanged_iff ⟨60 * 10 ^ 9, "s"⟩ ⟨⟨2⟩, 1, 1, 1⟩ 0
    ⟨"a", ⟨⟨10, 0, 0, 2⟩, 4000⟩, none⟩ _ (some (0, "down")) (.redis "down") (none, _) pairOrWait_refused

end TCPunch.RedisRegistry
