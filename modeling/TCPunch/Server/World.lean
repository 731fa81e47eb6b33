import TCPunch.Lib.Machine
import TCPunch.Server.Handler

/-! # Handlers at work

A world is any number of handlers over one registry, each at some point of its
program. An event answers the pending request of one handler in one of the ways in
which its surroundings can answer, or lets the registry change on its own. The
channel that a handler's registration makes is named after the handler.
-/

namespace TCPunch

/-- The two counters that a handler updates. -/
structure ServerMetrics where
  successfulPairings : Nat
  timeouts : Nat
  deriving Repr, DecidableEq

/-- What handlers need of a registry, with each call atomic. -/
structure Backend (σ η : Type) where
  /-- `register`, called by the handler with the given name. -/
  register : Nat → Request → σ → Except RegistryError Registered × σ
  unregister : Nat → String → Uuid → σ → σ
  /-- Some map still holds the sender of the channel. -/
  holds : σ → Chan → Bool
  /-- What happens to the registry without any handler. -/
  background : η → σ → σ

/-- What the registration of each handler draws from its surroundings. -/
structure Entropy where
  newV4 : Nat → Uuid
  now : Nat → Instant
  utcNow : Nat → DateTime

def Entropy.draws (entropy : Entropy) (i : Nat) : Draws :=
  { newV4 := entropy.newV4 i, channel := i, now := entropy.now i, utcNow := entropy.utcNow i }

/-- All that handlers share, with the frames that each has written. -/
structure Shared (σ : Type) where
  registry : σ
  inbox : Chan → Option PeerConnectionData
  frames : Nat → List ServerResponse
  metrics : ServerMetrics

/-- A way in which a request is answered. -/
inductive Choice where
  | read (outcome : ReadOutcome)
  | register
  | write (outcome : Except IoError Unit)
  /-- The wait ends because a peer arrived, the sender was dropped, or the time is up. -/
  | arrived
  | closed
  | elapsed
  | unregister
  | count

inductive Event (η : Type) where
  | handler (i : Nat) (choice : Choice)
  | background (change : η)

namespace Shared

variable {σ : Type}

/-- A message enters a oneshot channel; the first one stays. -/
def deliver (inbox : Chan → Option PeerConnectionData) (message : Notification) :
    Chan → Option PeerConnectionData :=
  Function.update inbox message.channel (some ((inbox message.channel).getD message.peer))

/-- After a registration: the registry has changed, and the messages are on their way. -/
def registered (s : Shared σ) (out : Except RegistryError Registered × σ) : Shared σ :=
  { s with
    registry := out.2
    inbox := match out.1 with
      | .ok answer => answer.sent.foldl deliver s.inbox
      | .error _ => s.inbox }

def wrote (s : Shared σ) (i : Nat) (frame : ServerResponse) : Shared σ :=
  { s with frames := Function.update s.frames i (s.frames i ++ [frame]) }

def pairingSucceeded (s : Shared σ) : Shared σ :=
  { s with metrics := { s.metrics with successfulPairings := s.metrics.successfulPairings + 1 } }

def timeoutOccurred (s : Shared σ) : Shared σ :=
  { s with metrics := { s.metrics with timeouts := s.metrics.timeouts + 1 } }

end Shared

/-- The handlers and what they share. -/
structure World (σ : Type) where
  shared : Shared σ
  task : Nat → Handler.Code (Except IoError Unit)

namespace World

variable {σ η : Type} (backend : Backend σ η)

/-- The answer to a request of handler `i`, if it can be answered in this way. The time
    is up only when no message is there and the sender is still held, as `timeout` polls the
    channel first. -/
def answer (i : Nat) (choice : Choice) (s : Shared σ) :
    (call : HandlerCall) → Option (call.Reply × Shared σ)
  | .readRequest =>
      match choice with
      | .read outcome => some (outcome, s)
      | _ => none
  | .register request =>
      match choice with
      | .register =>
          let out := backend.register i request s.registry
          some (out.1.map Registered.result, s.registered out)
      | _ => none
  | .writeAll frame =>
      match choice with
      | .write (.ok ()) => some (.ok (), s.wrote i frame)
      | .write (.error e) => some (.error e, s)
      | _ => none
  | .awaitPeer channel =>
      match choice with
      | .arrived => (s.inbox channel).map fun peerInfo => (.arrived peerInfo, s)
      | .closed =>
          if s.inbox channel = none ∧ backend.holds s.registry channel = false then
            some (.closed, s)
          else
            none
      | .elapsed =>
          if s.inbox channel = none ∧ backend.holds s.registry channel = true then
            some (.elapsed, s)
          else
            none
      | _ => none
  | .unregister pairingName token =>
      match choice with
      | .unregister =>
          some ((), { s with registry := backend.unregister i pairingName token s.registry })
      | _ => none
  | .pairingSucceeded =>
      match choice with
      | .count => some ((), s.pairingSucceeded)
      | _ => none
  | .timeoutOccurred =>
      match choice with
      | .count => some ((), s.timeoutOccurred)
      | _ => none

/-- The pending request of handler `i` is answered. A handler that has returned has none. -/
def react (i : Nat) (choice : Choice) (s : Shared σ) :
    Handler.Code (Except IoError Unit) → Option (Handler.Code (Except IoError Unit) × Shared σ)
  | .done _ => none
  | .call request next => (answer backend i choice s request).map fun out => (next out.1, out.2)

def step (w : World σ) : Event η → Option (World σ)
  | .handler i choice =>
      (react backend i choice w.shared (w.task i)).map fun out =>
        { shared := out.2, task := Function.update w.task i out.1 }
  | .background change =>
      some { w with shared :=
              { w.shared with registry := backend.background change w.shared.registry } }

variable {backend} in
/-- A handler changes the registry by its two calls only. -/
theorem registry_of_step {w w' : World σ} {i : Nat} {choice : Choice}
    (taken : step backend w (.handler i choice) = some w') :
    w'.shared.registry = w.shared.registry ∨
      (∃ request next, w.task i = .call (.register request) next ∧ choice = .register ∧
        w'.shared.registry = (backend.register i request w.shared.registry).2) ∨
      ∃ name token next, w.task i = .call (.unregister name token) next ∧ choice = .unregister ∧
        w'.shared.registry = backend.unregister i name token w.shared.registry := by
  obtain ⟨out, reacts, rfl⟩ := Option.map_eq_some_iff.mp taken
  cases pending : w.task i with
  | done result => rw [pending] at reacts; cases reacts
  | call request next =>
      rw [pending] at reacts
      obtain ⟨reply, answered, rfl⟩ := Option.map_eq_some_iff.mp reacts
      cases request with
      | register request =>
          cases choice with
          | register => cases answered; exact .inr (.inl ⟨request, next, rfl, rfl, rfl⟩)
          | read | write | arrived | closed | elapsed | unregister | count => cases answered
      | unregister name token =>
          cases choice with
          | unregister => cases answered; exact .inr (.inr ⟨name, token, next, rfl, rfl, rfl⟩)
          | read | register | write | arrived | closed | elapsed | count => cases answered
      | awaitPeer channel =>
          left
          cases choice with
          | arrived =>
              obtain ⟨peerInfo, -, rfl⟩ := Option.map_eq_some_iff.mp answered
              rfl
          | closed | elapsed =>
              simp only [answer] at answered
              split at answered
              · cases answered; rfl
              · cases answered
          | read | register | write | unregister | count => cases answered
      | writeAll frame =>
          left
          cases choice with
          | write outcome => cases outcome <;> (cases answered; rfl)
          | read | register | arrived | closed | elapsed | unregister | count => cases answered
      | readRequest | pairingSucceeded | timeoutOccurred =>
          left
          cases choice <;> cases answered
          rfl

/-- Connections from the given addresses, before anything has happened. -/
def start (registry : σ) (peers : Nat → SocketAddr) : World σ where
  shared :=
    { registry
      inbox := fun _ => none
      frames := fun _ => []
      metrics := { successfulPairings := 0, timeouts := 0 } }
  task i := Handler.handleConnection (peers i)

end World

end TCPunch
