import TCPunch.Lib.Rendezvous
import TCPunch.Protocol.Messages

/-! # What both registries store and return

The data model shared by the two backends (`registry.rs`). A oneshot channel is
named by a number; its sender is whoever holds the name in a map, and its
receiver is the connection that was handed the name. A registration reports,
beside its result, the messages it pushed into channels, since `tx.send` is the
only way in which one call reaches the connection of another.
-/

namespace TCPunch

/-- A monotonic clock reading (`std::time::Instant`) or a span of it (`Duration`), in
    nanoseconds. -/
abbrev Instant := Nat

/-- Wall-clock time (`chrono::DateTime<Utc>`), in milliseconds of the epoch. -/
abbrev DateTime := Int

/-- A oneshot channel. -/
abbrev Chan := Nat

/-- The configuration fields that registry calls read. -/
structure RegistryConfig where
  pairingTimeout : Instant
  serverId : String
  deriving Repr, DecidableEq

/-- A waiting client's registration. -/
structure WaitingClient where
  connectionInfo : PeerConnectionData
  reconnectToken : Uuid
  serverId : String
  registeredAt : DateTime
  deriving Repr, DecidableEq

/-- Internal entry in the pairing map. -/
structure PairingEntry where
  waitingClient : WaitingClient
  /-- Channel to notify when a peer arrives. -/
  notifyTx : Option Chan
  createdAt : Instant
  deriving Repr, DecidableEq

/-- The token of the session that an entry belongs to. -/
abbrev PairingEntry.token (entry : PairingEntry) : Uuid := entry.waitingClient.reconnectToken

/-- Result of attempting to register for pairing. -/
inductive RegistrationResult where
  /-- First client for this pairing name, waiting for a peer. -/
  | waiting (token : Uuid) (peerNotify : Chan)
  /-- Second client, pairing complete. -/
  | paired (token : Uuid) (peerInfo : PeerConnectionData)
  /-- Reconnected with a valid token, resuming the wait. -/
  | resumed (token : Uuid) (peerNotify : Chan)
  deriving Repr, DecidableEq

/-- Errors from registry operations. -/
inductive RegistryError where
  | invalidToken
  | sessionExpired
  | redis (cause : String)
  | internal (cause : String)
  deriving Repr, DecidableEq

/-- A message pushed into a oneshot channel. -/
structure Notification where
  channel : Chan
  peer : PeerConnectionData
  deriving Repr, DecidableEq

/-- A successful registration with the messages it sent. -/
structure Registered where
  result : RegistrationResult
  sent : List Notification
  deriving Repr, DecidableEq

/-- What one call draws from its surroundings: `Uuid::new_v4()`, the channel made
    by `oneshot::channel()`, `Instant::now()` and `Utc::now()`. No path of a
    registration draws any of them twice. -/
structure Draws where
  newV4 : Uuid
  channel : Chan
  now : Instant
  utcNow : DateTime
  deriving Repr, DecidableEq

/-- The arguments of `register`. -/
structure Request where
  pairingName : String
  clientInfo : PeerConnectionData
  reconnectToken : Option Uuid
  deriving Repr, DecidableEq

/-- A call of `register`: its arguments and everything it draws except the channel,
    which is named after the call. -/
structure Registration where
  request : Request
  newV4 : Uuid
  now : Instant
  utcNow : DateTime
  deriving Repr, DecidableEq

def Registration.draws (call : Registration) (channel : Chan) : Draws :=
  { newV4 := call.newV4, channel, now := call.now, utcNow := call.utcNow }

@[simp] theorem Registration.draws_newV4 (call : Registration) (channel : Chan) :
    (call.draws channel).newV4 = call.newV4 := rfl

/-- What the caller of `register` sees: the outcome, and what was sent to others. -/
def seen (request : Request) : Except RegistryError Registered →
    Rendezvous.Moment String Uuid PeerConnectionData
  | .ok { result := .waiting token channel, sent } =>
      ⟨.opened request.pairingName request.clientInfo token channel,
        sent.map fun message => (message.channel, message.peer)⟩
  | .ok { result := .resumed token channel, sent } =>
      ⟨.resumed request.pairingName request.clientInfo token channel,
        sent.map fun message => (message.channel, message.peer)⟩
  | .ok { result := .paired token peerInfo, sent } =>
      ⟨.matched request.pairingName request.clientInfo token peerInfo,
        sent.map fun message => (message.channel, message.peer)⟩
  | .error _ => ⟨.cleared ∅, []⟩

end TCPunch
