import Mathlib.Data.String.Basic
import TCPunch.Lib.FiniteMap
import TCPunch.Lib.Program
import TCPunch.Protocol.Uuid
import TCPunch.Registry.Types

/-! # The Redis-backed registry

Any number of servers share one Redis; each has a map of its own with the senders of
the clients connected to it. The methods of `RedisRegistry` are programs over Redis
commands and calls on that map. A failed command ends a method, as `?` does.

JSON is represented by the value it stands for. Keys expire by events of their own, so
`SETEX` keeps its time only for the record.
-/

namespace TCPunch

/-- What a Redis key holds. -/
inductive RedisValue where
  /-- The JSON text of a waiting client. -/
  | json (client : WaitingClient)
  /-- Any other text. -/
  | text (text : String)
  deriving Repr, DecidableEq

/-- The text of a `redis::RedisError`. -/
abbrev RedisError := String

/-- A Redis command, or a call on `local_waiters` of the server that runs the method. -/
inductive RedisCall where
  | get (key : String)
  | setex (key : String) (seconds : Int) (value : RedisValue)
  | getdel (key : String)
  | del (keys : List String)
  | keyExists (key : String)
  | publish (channel : String) (message : PeerConnectionData)
  | waitersInsert (pairingName : String) (tx : Chan)
  | waitersRemove (pairingName : String)
  | waitersKeys
  deriving DecidableEq

/-- The replies, as far as callers look at them. -/
@[reducible] def RedisCall.Reply : RedisCall → Type
  | .get _ => Except RedisError (Option RedisValue)
  | .setex _ _ _ => Except RedisError Unit
  | .getdel _ => Except RedisError (Option RedisValue)
  | .del _ => Except RedisError Unit
  | .keyExists _ => Except RedisError Bool
  | .publish _ _ => Except RedisError Unit
  | .waitersInsert _ _ => Unit
  | .waitersRemove _ => Option Chan
  | .waitersKeys => List String

/-- One Redis and the servers that use it. -/
structure Cluster where
  redis : FiniteMap String RedisValue
  /-- `local_waiters` of each server. -/
  localWaiters : Nat → FiniteMap String Chan
  /-- What was published, on which channel. -/
  published : List (String × PeerConnectionData)

namespace RedisRegistry

def new : Cluster := { redis := ∅, localWaiters := fun _ => ∅, published := [] }

/-- The effect of one call made on a server, with Redis at its service. The names in `local_waiters`
    are listed in increasing order, where a `DashMap` lists them in any. What a whole cleanup does
    does not depend on the order, but the order of its commands does. -/
def answer (server : Nat) : (call : RedisCall) → Cluster → call.Reply × Cluster
  | .get key, c => (.ok (c.redis.lookup key), c)
  | .setex key _ value, c => (.ok (), { c with redis := c.redis.insert key value })
  | .getdel key, c => (.ok (c.redis.lookup key), { c with redis := c.redis.erase key })
  | .del keys, c => (.ok (), { c with redis := keys.foldl (fun redis key => redis.erase key) c.redis })
  | .keyExists key, c => (.ok (c.redis.lookup key).isSome, c)
  | .publish channel message, c =>
      (.ok (), { c with published := c.published ++ [(channel, message)] })
  | .waitersInsert name tx, c =>
      ((), { c with localWaiters := Function.update c.localWaiters server
                      ((c.localWaiters server).insert name tx) })
  | .waitersRemove name, c =>
      ((c.localWaiters server).lookup name,
        { c with localWaiters := Function.update c.localWaiters server
                  ((c.localWaiters server).erase name) })
  | .waitersKeys, c => (FiniteMap.keyList (c.localWaiters server), c)

/-! ## The methods as programs -/

/-- A method that ends at the first error. -/
abbrev Method := ExceptT RegistryError (Program RedisCall.Reply)

/-- `?` on the reply to a command. -/
def check {α : Type} (reply : Except RedisError α) : Program RedisCall.Reply (Except RegistryError α) :=
  .done (reply.mapError RegistryError.redis)

def get (key : String) : Method (Option RedisValue) := .mk (.call (.get key) check)

def setex (key : String) (seconds : Int) (value : RedisValue) : Method Unit :=
  .mk (.call (.setex key seconds value) check)

def getdel (key : String) : Method (Option RedisValue) := .mk (.call (.getdel key) check)

def del (keys : List String) : Method Unit := .mk (.call (.del keys) check)

def publish (channel : String) (message : PeerConnectionData) : Method Unit :=
  .mk (.call (.publish channel message) check)

def waitersInsert (pairingName : String) (tx : Chan) : Method Unit :=
  .mk (.call (.waitersInsert pairingName tx) fun _ => .done (.ok ()))

def waitersRemove (pairingName : String) : Method (Option Chan) :=
  .mk (.call (.waitersRemove pairingName) fun tx => .done (.ok tx))

/-- `serde_json::from_str`, with the text standing for the error it causes. -/
def fromStr (value : RedisValue) : Method WaitingClient :=
  match value with
  | .json client => pure client
  | .text text => throw (.internal text)

def pairingKey (pairingName : String) : String := "tcpunch:pairing:" ++ pairingName

def tokenKey (token : Uuid) : String := "tcpunch:token:" ++ token.hyphenated

def notifyChannel (pairingName : String) : String := "tcpunch:notify:" ++ pairingName

/-- `pairing_timeout.as_secs() as i64`. -/
def ttlSecs (config : RegistryConfig) : Int := Int.bmod (config.pairingTimeout / 10 ^ 9) (2 ^ 64)

/-- The record of a client that waits on this server. -/
def waitingClient (config : RegistryConfig) (draws : Draws) (token : Uuid)
    (clientInfo : PeerConnectionData) : WaitingClient where
  connectionInfo := clientInfo
  reconnectToken := token
  serverId := config.serverId
  registeredAt := draws.utcNow

/-- Notify the peer if it is on this server, or else publish for the others. -/
def notifyPeer (config : RegistryConfig) (pairingName : String) (clientInfo : PeerConnectionData)
    (waiting : WaitingClient) : Method (List Notification) := do
  match ← waitersRemove pairingName with
  | some tx => return [{ channel := tx, peer := clientInfo }]
  | none =>
      if waiting.serverId ≠ config.serverId then
        publish (notifyChannel pairingName) clientInfo
        return []
      else
        return []

/-- The part of `register` after the reconnection check. -/
def pairOrWait (config : RegistryConfig) (draws : Draws) (pairingName : String)
    (clientInfo : PeerConnectionData) : Method Registered := do
  match ← getdel (pairingKey pairingName) with
  | some waitingJson =>
      -- Second client: complete the pairing.
      let waiting ← fromStr waitingJson
      del [tokenKey waiting.reconnectToken]
      let sent ← notifyPeer config pairingName clientInfo waiting
      return { result := .paired draws.newV4 waiting.connectionInfo, sent }
  | none =>
      -- First client: register and wait.
      let token := draws.newV4
      setex (pairingKey pairingName) (ttlSecs config)
        (.json (waitingClient config draws token clientInfo))
      setex (tokenKey token) (ttlSecs config) (.text pairingName)
      waitersInsert pairingName draws.channel
      return { result := .waiting token draws.channel, sent := [] }

def register (config : RegistryConfig) (draws : Draws) (request : Request) : Method Registered :=
  match request.reconnectToken with
  | some token => do
      let storedName ← get (tokenKey token)
      if storedName = some (.text request.pairingName) then
        -- Valid reconnection: the record is written anew.
        setex (pairingKey request.pairingName) (ttlSecs config)
          (.json (waitingClient config draws token request.clientInfo))
        waitersInsert request.pairingName draws.channel
        return { result := .resumed token draws.channel, sent := [] }
      else
        pairOrWait config draws request.pairingName request.clientInfo
  | none => pairOrWait config draws request.pairingName request.clientInfo

def unregister (pairingName : String) (token : Uuid) : Method Unit := do
  del [pairingKey pairingName, tokenKey token]
  let _ ← waitersRemove pairingName

/-- The loop of `cleanup_expired`; a failed `EXISTS` counts as a missing key. -/
def sweep : Nat → List String → Program RedisCall.Reply Nat
  | cleaned, [] => .done cleaned
  | cleaned, pairingName :: rest =>
      .call (.keyExists (pairingKey pairingName)) fun found =>
        if found.toOption.getD false then
          sweep cleaned rest
        else
          .call (.waitersRemove pairingName) fun _ => sweep (cleaned + 1) rest

def cleanupExpired : Program RedisCall.Reply Nat := .call .waitersKeys (sweep 0)

/-! ## Background tasks -/

/-- The tasks that `start_background_tasks` starts. -/
inductive BackgroundTask where
  /-- `cleanup_expired` at every tick. -/
  | cleanup
  deriving DecidableEq

def startBackgroundTasks : List BackgroundTask := [.cleanup]

/-- What a task does with a published message: the cleanup listens to its ticker only. -/
def BackgroundTask.receive (_message : String × PeerConnectionData) :
    BackgroundTask → List Notification
  | .cleanup => []

/-- Everything that is sent to local channels once a published message is consumed. -/
def consume (message : String × PeerConnectionData) : List Notification :=
  startBackgroundTasks.flatMap (BackgroundTask.receive message)

end RedisRegistry

end TCPunch
