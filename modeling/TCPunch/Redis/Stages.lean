import TCPunch.Redis.Atomic

/-! # One first registration on Redis, command by command

A registration without a token makes three to four calls, with an await before every
Redis command: `GETDEL`, and then `DEL` and `local_waiters.remove`, or two `SETEX` and
`local_waiters.insert`. This module says what is left of the program at each stage and
what the next call does.
-/

namespace TCPunch.RedisRegistry

/-- Where a registration stands: which call it makes next. -/
inductive Stage where
  /-- `GETDEL` of the pairing key. -/
  | claim
  /-- `DEL` of the token key of the client found. -/
  | forget (client : WaitingClient)
  /-- `local_waiters.remove`. -/
  | notify (client : WaitingClient)
  /-- `PUBLISH`, when the client is on another server. -/
  | post (client : WaitingClient)
  /-- `SETEX` of the pairing key, after `GETDEL` found nothing. -/
  | store
  /-- `SETEX` of the token key. -/
  | announce
  /-- `local_waiters.insert`. -/
  | enter
  | returned (result : Except RegistryError Registered)

namespace Stage

/-- What a registration returns after pairing with a client, having sent what it sent. -/
def pairedWith (draws : Draws) (client : WaitingClient) (sent : List Notification) :
    Except RegistryError Registered :=
  .ok { result := .paired draws.newV4 client.connectionInfo, sent }

/-- What a first registration returns. -/
def firstWait (draws : Draws) : Except RegistryError Registered :=
  .ok { result := .waiting draws.newV4 draws.channel, sent := [] }

variable (config : RegistryConfig) (draws : Draws) (name : String) (info : PeerConnectionData)

/-- The rest of the program at each stage. -/
def program : Stage → Program RedisCall.Reply (Except RegistryError Registered)
  | .claim => (pairOrWait config draws name info).run
  | .forget client => ExceptT.run do
      del [tokenKey client.reconnectToken]
      let sent ← notifyPeer config name info client
      return { result := .paired draws.newV4 client.connectionInfo, sent }
  | .notify client => ExceptT.run do
      let sent ← notifyPeer config name info client
      return { result := .paired draws.newV4 client.connectionInfo, sent }
  | .post client => ExceptT.run do
      let sent ← (do publish (notifyChannel name) info; return [])
      return { result := .paired draws.newV4 client.connectionInfo, sent }
  | .store => ExceptT.run do
      setex (pairingKey name) (ttlSecs config)
        (.json (waitingClient config draws draws.newV4 info))
      setex (tokenKey draws.newV4) (ttlSecs config) (.text name)
      waitersInsert name draws.channel
      return { result := .waiting draws.newV4 draws.channel, sent := [] }
  | .announce => ExceptT.run do
      setex (tokenKey draws.newV4) (ttlSecs config) (.text name)
      waitersInsert name draws.channel
      return { result := .waiting draws.newV4 draws.channel, sent := [] }
  | .enter => ExceptT.run do
      waitersInsert name draws.channel
      return { result := .waiting draws.newV4 draws.channel, sent := [] }
  | .returned result => .done result

/-- The effect of the next call, and the stage after it. -/
def step (server : Nat) (c : Cluster) : Stage → Stage × Cluster
  | .claim =>
      match c.record name with
      | some (.json client) => (.forget client, { c with redis := c.redis.erase (pairingKey name) })
      | some (.text text) =>
          (.returned (.error (.internal text)), { c with redis := c.redis.erase (pairingKey name) })
      | none => (.store, c)
  | .forget client =>
      (.notify client, { c with redis := c.redis.erase (tokenKey client.reconnectToken) })
  | .notify client =>
      match c.waiter server name with
      | some tx => (.returned (pairedWith draws client [⟨tx, info⟩]), c.dropWaiter server name)
      | none =>
          if client.serverId ≠ config.serverId then
            (.post client, c.dropWaiter server name)
          else
            (.returned (pairedWith draws client []), c.dropWaiter server name)
  | .post client =>
      (.returned (pairedWith draws client []),
        { c with published := c.published ++ [(notifyChannel name, info)] })
  | .store =>
      (.announce, { c with redis := c.redis.insert (pairingKey name)
                            (.json (waitingClient config draws draws.newV4 info)) })
  | .announce => (.enter, c.issue draws.newV4 name)
  | .enter =>
      (.returned (firstWait draws),
        { c with localWaiters := Function.update c.localWaiters server
                  ((c.localWaiters server).insert name draws.channel) })
  | .returned result => (.returned result, c)

variable {config draws name info}

theorem advance_step (server : Nat) {ι : Type} [DecidableEq ι]
    {pool : Pool ι Cluster RedisCall.Reply _} {i : ι} {stage : Stage}
    (here : pool.task i = stage.program config draws name info) :
    (pool.advance (answer server) i).shared = (stage.step config draws name info server pool.shared).2 ∧
      (pool.advance (answer server) i).task i =
        (stage.step config draws name info server pool.shared).1.program config draws name info := by
  cases stage with
  | returned result =>
      rw [Pool.advance_done here]
      exact ⟨rfl, here⟩
  | claim =>
      rw [Pool.advance_call here]
      simp only [Function.update_self, answer, step]
      cases live : pool.shared.redis.lookup (pairingKey name) with
      | none =>
          simp only [Cluster.record, live, FiniteMap.erase_of_absent live]
          exact ⟨trivial, rfl⟩
      | some value =>
          simp only [Cluster.record, live]
          cases value with
          | json client => exact ⟨rfl, rfl⟩
          | text text => exact ⟨rfl, rfl⟩
  | notify client =>
      rw [Pool.advance_call here]
      simp only [Function.update_self, answer, step, Cluster.waiter]
      cases (pool.shared.localWaiters server).lookup name with
      | some tx => exact ⟨rfl, rfl⟩
      | none =>
          by_cases other : client.serverId ≠ config.serverId
          · simp only [if_pos other]
            exact ⟨rfl, rfl⟩
          · simp only [if_neg other]
            exact ⟨rfl, rfl⟩
  | forget client => rw [Pool.advance_call here]; exact ⟨rfl, Function.update_self ..⟩
  | post client => rw [Pool.advance_call here]; exact ⟨rfl, Function.update_self ..⟩
  | store => rw [Pool.advance_call here]; exact ⟨rfl, Function.update_self ..⟩
  | announce => rw [Pool.advance_call here]; exact ⟨rfl, Function.update_self ..⟩
  | enter => rw [Pool.advance_call here]; exact ⟨rfl, Function.update_self ..⟩

end Stage

end TCPunch.RedisRegistry
