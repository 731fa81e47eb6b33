import TCPunch.Lib.FiniteMap
import TCPunch.Lib.Program
import TCPunch.Registry.Types

/-! # The in-memory registry

`InMemoryRegistry` holds two concurrent maps, and its methods are programs over
the calls they make on them. `answer` is the meaning of one map call; running a
whole method against it gives the method's atomic behaviour. Nothing here says
that the two maps agree: `unregister` and a racing `register` can break that, and
the programs below behave as the code does in that case too.
-/

namespace TCPunch

/-- In-memory pairing registry (single-server mode). -/
structure InMemoryRegistry where
  /-- Map of pairing name to entry. -/
  pairings : FiniteMap String PairingEntry
  /-- Map of token to pairing name, for reconnection. -/
  tokens : FiniteMap Uuid String
  deriving DecidableEq

/-- One call on one of the two maps. `pairingsGetMut` covers the lookup and the
    update made through the guard it returns. -/
inductive MapCall where
  | tokensGet (token : Uuid)
  | pairingsGetMut (name : String) (update : PairingEntry → Option PairingEntry)
  | pairingsRemove (name : String)
  | tokensRemove (token : Uuid)
  | pairingsInsert (name : String) (entry : PairingEntry)
  | tokensInsert (token : Uuid) (name : String)

/-- What a map call returns, as far as the callers look at it. -/
@[reducible] def MapCall.Reply : MapCall → Type
  | .tokensGet _ => Option String
  | .pairingsGetMut _ _ => Bool
  | .pairingsRemove _ => Option PairingEntry
  | .tokensRemove _ => Unit
  | .pairingsInsert _ _ => Unit
  | .tokensInsert _ _ => Unit

namespace InMemoryRegistry

def new : InMemoryRegistry := { pairings := ∅, tokens := ∅ }

/-- The effect of one map call. -/
def answer : (call : MapCall) → InMemoryRegistry → call.Reply × InMemoryRegistry
  | .tokensGet token, s => (s.tokens.lookup token, s)
  | .pairingsGetMut name update, s =>
      match (s.pairings.lookup name).bind update with
      | some entry => (true, { s with pairings := s.pairings.insert name entry })
      | none => (false, s)
  | .pairingsRemove name, s =>
      (s.pairings.lookup name, { s with pairings := s.pairings.erase name })
  | .tokensRemove token, s => ((), { s with tokens := s.tokens.erase token })
  | .pairingsInsert name entry, s => ((), { s with pairings := s.pairings.insert name entry })
  | .tokensInsert token name, s => ((), { s with tokens := s.tokens.insert token name })

/-! ## The methods as programs -/

/-- A method of the registry. -/
abbrev Method := Program MapCall.Reply

def tokensGet (token : Uuid) : Method (Option String) := .call (.tokensGet token) .done

def pairingsGetMut (name : String) (update : PairingEntry → Option PairingEntry) : Method Bool :=
  .call (.pairingsGetMut name update) .done

def pairingsRemove (name : String) : Method (Option PairingEntry) :=
  .call (.pairingsRemove name) .done

def tokensRemove (token : Uuid) : Method Unit := .call (.tokensRemove token) .done

def pairingsInsert (name : String) (entry : PairingEntry) : Method Unit :=
  .call (.pairingsInsert name entry) .done

def tokensInsert (token : Uuid) (name : String) : Method Unit :=
  .call (.tokensInsert token name) .done

/-- An entry taken over by a new connection of the same client: new address, new
    notification channel, and nothing else. -/
def moveTo (clientInfo : PeerConnectionData) (channel : Chan) (entry : PairingEntry) :
    PairingEntry :=
  { entry with
    waitingClient := { entry.waitingClient with connectionInfo := clientInfo }
    notifyTx := some channel }

/-- The update made through the `get_mut` guard, for the owner of the entry only. -/
def resume (token : Uuid) (clientInfo : PeerConnectionData) (channel : Chan)
    (entry : PairingEntry) : Option PairingEntry :=
  if entry.waitingClient.reconnectToken = token then
    some (moveTo clientInfo channel entry)
  else
    none

/-- The entry of a first client. -/
def firstEntry (config : RegistryConfig) (draws : Draws) (clientInfo : PeerConnectionData) :
    PairingEntry where
  waitingClient :=
    { connectionInfo := clientInfo
      reconnectToken := draws.newV4
      serverId := config.serverId
      registeredAt := draws.utcNow }
  notifyTx := some draws.channel
  createdAt := draws.now

/-- The part of `register` after the reconnection check. -/
def pairOrWait (config : RegistryConfig) (draws : Draws) (pairingName : String)
    (clientInfo : PeerConnectionData) :
    Method (Except RegistryError Registered) := do
  match ← pairingsRemove pairingName with
  | some entry =>
      -- Second client arrived. `tx.send` consumes the sender, if there is one.
      let peerInfo := entry.waitingClient.connectionInfo
      let peerToken := entry.waitingClient.reconnectToken
      let sent := entry.notifyTx.toList.map fun tx => { channel := tx, peer := clientInfo }
      tokensRemove peerToken
      return .ok { result := .paired draws.newV4 peerInfo, sent }
  | none =>
      let token := draws.newV4
      pairingsInsert pairingName (firstEntry config draws clientInfo)
      tokensInsert token pairingName
      return .ok { result := .waiting token draws.channel, sent := [] }

def register (config : RegistryConfig) (draws : Draws) (request : Request) :
    Method (Except RegistryError Registered) := do
  match request.reconnectToken with
  | some token =>
      match ← tokensGet token with
      | some storedName =>
          if storedName = request.pairingName then
            -- Valid reconnection, if the entry still exists.
            let update := resume token request.clientInfo draws.channel
            if ← pairingsGetMut request.pairingName update then
              return .ok { result := .resumed token draws.channel, sent := [] }
            else
              pairOrWait config draws request.pairingName request.clientInfo
          else
            pairOrWait config draws request.pairingName request.clientInfo
      | none => pairOrWait config draws request.pairingName request.clientInfo
  | none => pairOrWait config draws request.pairingName request.clientInfo

def unregister (pairingName : String) (token : Uuid) :
    Method (Except RegistryError Unit) := do
  match ← pairingsRemove pairingName with
  | some entry =>
      if entry.waitingClient.reconnectToken = token then
        tokensRemove token
      return .ok ()
  | none => return .ok ()

def activeCount (s : InMemoryRegistry) : Nat := s.pairings.keys.card

/-- The entry is past its time at `now` (`Instant::duration_since` saturates). -/
def expired (config : RegistryConfig) (now : Instant) (entry : PairingEntry) : Bool :=
  decide (config.pairingTimeout < now - entry.createdAt)

/-- One round of the closure passed to `retain`, with the count of removed entries. -/
def sweep (config : RegistryConfig) (now : Instant) (acc : Nat × InMemoryRegistry)
    (name : String) (entry : PairingEntry) : Nat × InMemoryRegistry :=
  if expired config now entry then
    (acc.1 + 1,
      { pairings := acc.2.pairings.erase name
        tokens := acc.2.tokens.erase entry.waitingClient.reconnectToken })
  else
    acc

/-- The order in which `retain` visits the entries does not matter. -/
theorem sweep_comm (config : RegistryConfig) (now : Instant) (acc : Nat × InMemoryRegistry)
    (n : String) (e : PairingEntry) (n' : String) (e' : PairingEntry) :
    sweep config now (sweep config now acc n e) n' e' =
      sweep config now (sweep config now acc n' e') n e := by
  unfold sweep
  split <;> split
  · simp only [Finmap.erase_erase (a := n'), Finmap.erase_erase (a := e'.waitingClient.reconnectToken)]
  all_goals rfl

def cleanupExpired (config : RegistryConfig) (now : Instant) (s : InMemoryRegistry) :
    Nat × InMemoryRegistry :=
  s.pairings.foldl (sweep config now) (sweep_comm config now) (0, s)

end InMemoryRegistry

end TCPunch
