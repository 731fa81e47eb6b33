import TCPunch.Lib.Typestate
import TCPunch.Server.World

/-! # The server, request by request

In `World` a call of the registry is one step. Here it is not: a connection's program is
its handler with the registry's methods written out, down to single map calls or Redis
commands, and the requests of all connections interleave freely. A registry is given by
its methods and by how it answers one request of them.

A sender that a method has taken out of its map counts as dropped from then on, so a
wait may end for want of a sender a little earlier here than in the code. In the code it is
then still held by the method, so that the timer can fire as long as nothing is sent. Hence the
time may be up here whether or not a map holds the sender; only a message keeps it from that.
-/

namespace TCPunch

/-- What a method of a registry does: a map call or a command, or `tx.send`. -/
inductive RegistryStep (Req : Type) where
  | request (call : Req)
  | send (message : Notification)

@[reducible] def RegistryStep.Reply {Req : Type} (Reply : Req → Type) : RegistryStep Req → Type
  | .request call => Reply call
  | .send _ => Unit

/-- What a connection asks of its surroundings once the registry's methods are written out. -/
inductive ServerCall (Req : Type) where
  | readRequest
  | writeAll (frame : ServerResponse)
  | awaitPeer (channel : Chan)
  | pairingSucceeded
  | timeoutOccurred
  | registry (step : RegistryStep Req)

@[reducible] def ServerCall.Reply {Req : Type} (Reply : Req → Type) : ServerCall Req → Type
  | .readRequest => ReadOutcome
  | .writeAll _ => Except IoError Unit
  | .awaitPeer _ => PeerWait
  | .pairingSucceeded => Unit
  | .timeoutOccurred => Unit
  | .registry step => step.Reply Reply

section Programs

variable {Req : Type} (Reply : Req → Type)

/-- A method of a registry, with the messages it sends as steps of their own. -/
abbrev SendingMethod := Program (RegistryStep.Reply Reply)

/-- The program of a connection. -/
abbrev ServerCode := Program (ServerCall.Reply Reply)

variable {Reply} {α : Type}

def SendingMethod.request (call : Req) : SendingMethod Reply (Reply call) := .call (.request call) .done

def SendingMethod.send (message : Notification) : SendingMethod Reply Unit :=
  .call (.send message) .done

def SendingMethod.sendAll : List Notification → SendingMethod Reply Unit
  | [] => pure ()
  | message :: rest => do
      SendingMethod.send message
      SendingMethod.sendAll rest

/-- A method that sends nothing. -/
instance : MonadLift (Program Reply) (SendingMethod Reply) :=
  ⟨Program.expand SendingMethod.request⟩

/-- The method with its messages collected and reported at the end. -/
def SendingMethod.gather : SendingMethod Reply α → Program Reply (α × List Notification)
  | .done a => .done (a, [])
  | .call (.request call) next => .call call fun reply => SendingMethod.gather (next reply)
  | .call (.send message) next => do
      let (a, sent) ← SendingMethod.gather (next ())
      return (a, message :: sent)

theorem SendingMethod.gather_lift {β : Type} (p : Program Reply α) (f : α → β) :
    SendingMethod.gather (p.expand SendingMethod.request >>= fun a => .done (f a)) =
      (p >>= fun a => .done (f a, [])) := by
  induction p with
  | done a => rfl
  | call r next ih => exact congrArg (Program.call r) (funext ih)

/-- The answer of a registration and the messages it sent. -/
def SendingMethod.split : Except RegistryError Registered →
    Except RegistryError RegistrationResult × List Notification
  | .ok registered => (.ok registered.result, registered.sent)
  | .error e => (.error e, [])

/-- The methods of a registry that handlers call, the connection's number coming first. -/
structure Methods {Req : Type} (Reply : Req → Type) where
  register : Nat → Request → SendingMethod Reply (Except RegistryError RegistrationResult)
  unregister : Nat → String → Uuid → SendingMethod Reply Unit

namespace Methods

/-- A method as a part of a connection's program. -/
def inline (method : SendingMethod Reply α) : ServerCode Reply α :=
  method.expand fun step => .call (.registry step) .done

/-- What stands for each request of the handler. -/
def perform (methods : Methods Reply) (i : Nat) : (call : HandlerCall) → ServerCode Reply call.Reply
  | .readRequest => .call .readRequest .done
  | .register request => inline (methods.register i request)
  | .writeAll frame => .call (.writeAll frame) .done
  | .awaitPeer channel => .call (.awaitPeer channel) .done
  | .unregister pairingName token => inline (methods.unregister i pairingName token)
  | .pairingSucceeded => .call .pairingSucceeded .done
  | .timeoutOccurred => .call .timeoutOccurred .done

def connection (methods : Methods Reply) (i : Nat) (peer : SocketAddr) :
    ServerCode Reply (Except IoError Unit) :=
  (Handler.handleConnection peer).expand (methods.perform i)

end Methods

end Programs

/-! ## How requests are answered -/

/-- What connections share, with the request that each has read. -/
structure Scene (σ : Type) extends Shared σ where
  received : Nat → Option ClientRequest

/-- How a registry answers one request of connection `i`, which may go in several ways. -/
structure Engine (σ : Type) {Req : Type} (Reply : Req → Type) (χ η : Type) where
  answer : Nat → χ → (call : Req) → σ → Reply call × σ
  /-- Some map still holds the sender of the channel. -/
  holds : σ → Chan → Bool
  /-- What happens to the registry without any connection. -/
  background : η → σ → σ

/-- A way in which a request is answered. -/
inductive Way (χ : Type) where
  | read (outcome : ReadOutcome)
  | write (outcome : Except IoError Unit)
  | arrived
  | closed
  | elapsed
  | count
  | registry (way : χ)
  | send

namespace Scene

variable {σ : Type}

def read (s : Scene σ) (i : Nat) : ReadOutcome → Scene σ
  | .request request => { s with received := Function.update s.received i (some request) }
  | _ => s

def update (s : Scene σ) (shared : Shared σ) : Scene σ := { s with toShared := shared }

variable {χ η Req : Type} {Reply : Req → Type} (engine : Engine σ Reply χ η)

/-- The answer to a request of connection `i`, if it can be answered in this way. -/
def answer (i : Nat) (way : Way χ) (s : Scene σ) :
    (call : ServerCall Req) → Option (call.Reply Reply × Scene σ)
  | .readRequest =>
      match way with
      | .read outcome => some (outcome, s.read i outcome)
      | _ => none
  | .writeAll frame =>
      match way with
      | .write (.ok ()) => some (.ok (), s.update (s.wrote i frame))
      | .write (.error e) => some (.error e, s)
      | _ => none
  | .awaitPeer channel =>
      match way with
      | .arrived => (s.inbox channel).map fun peerInfo => (.arrived peerInfo, s)
      | .closed =>
          if s.inbox channel = none ∧ engine.holds s.registry channel = false then
            some (.closed, s)
          else
            none
      | .elapsed => if s.inbox channel = none then some (.elapsed, s) else none
      | _ => none
  | .pairingSucceeded =>
      match way with
      | .count => some ((), s.update s.pairingSucceeded)
      | _ => none
  | .timeoutOccurred =>
      match way with
      | .count => some ((), s.update s.timeoutOccurred)
      | _ => none
  | .registry (.request call) =>
      match way with
      | .registry way =>
          let out := engine.answer i way call s.registry
          some (out.1, s.update { s.toShared with registry := out.2 })
      | _ => none
  | .registry (.send message) =>
      match way with
      | .send => some ((), s.update { s.toShared with inbox := Shared.deliver s.inbox message })
      | _ => none

/-- Everything that an answer to connection `i` can be. -/
inductive Answers (i : Nat) (s : Scene σ) :
    Way χ → (call : ServerCall Req) → call.Reply Reply → Scene σ → Prop where
  | read (outcome : ReadOutcome) : Answers i s (.read outcome) .readRequest outcome (s.read i outcome)
  | written (frame : ServerResponse) :
      Answers i s (.write (.ok ())) (.writeAll frame) (.ok ()) (s.update (s.wrote i frame))
  | writeFails (frame : ServerResponse) (e : IoError) :
      Answers i s (.write (.error e)) (.writeAll frame) (.error e) s
  | arrived (channel : Chan) (peer : PeerConnectionData) (there : s.inbox channel = some peer) :
      Answers i s .arrived (.awaitPeer channel) (.arrived peer) s
  | closed (channel : Chan) (silent : s.inbox channel = none)
      (dropped : engine.holds s.registry channel = false) :
      Answers i s .closed (.awaitPeer channel) .closed s
  | elapsed (channel : Chan) (silent : s.inbox channel = none) :
      Answers i s .elapsed (.awaitPeer channel) .elapsed s
  | succeeded : Answers i s .count .pairingSucceeded () (s.update s.pairingSucceeded)
  | timedOut : Answers i s .count .timeoutOccurred () (s.update s.timeoutOccurred)
  | request (call : Req) (way : χ) :
      Answers i s (.registry way) (.registry (.request call)) (engine.answer i way call s.registry).1
        (s.update { s.toShared with registry := (engine.answer i way call s.registry).2 })
  | sent (message : Notification) :
      Answers i s .send (.registry (.send message)) ()
        (s.update { s.toShared with inbox := Shared.deliver s.inbox message })

variable {engine} in
theorem answers_of_answer {i : Nat} {way : Way χ} {s s' : Scene σ} {call : ServerCall Req}
    {reply : call.Reply Reply} (answered : answer engine i way s call = some (reply, s')) :
    Answers engine i s way call reply s' := by
  cases call with
  | readRequest =>
      cases way with
      | read outcome => cases answered; exact .read _
      | write | arrived | closed | elapsed | count | registry | send => cases answered
  | writeAll frame =>
      cases way with
      | write outcome =>
          cases outcome with
          | ok _ => cases answered; exact .written frame
          | error e => cases answered; exact .writeFails frame e
      | read | arrived | closed | elapsed | count | registry | send => cases answered
  | awaitPeer channel =>
      cases way with
      | arrived =>
          obtain ⟨peer, there, same⟩ := Option.map_eq_some_iff.mp answered
          cases same
          exact .arrived channel peer there
      | closed =>
          simp only [answer] at answered
          split at answered
          · rename_i silent
            cases answered
            exact .closed channel silent.1 silent.2
          · cases answered
      | elapsed =>
          simp only [answer] at answered
          split at answered
          · rename_i silent
            cases answered
            exact .elapsed channel silent
          · cases answered
      | read | write | count | registry | send => cases answered
  | pairingSucceeded =>
      cases way with
      | count => cases answered; exact .succeeded
      | read | write | arrived | closed | elapsed | registry | send => cases answered
  | timeoutOccurred =>
      cases way with
      | count => cases answered; exact .timedOut
      | read | write | arrived | closed | elapsed | registry | send => cases answered
  | registry step =>
      cases step with
      | request call =>
          cases way with
          | registry way => cases answered; exact .request call way
          | read | write | arrived | closed | elapsed | count | send => cases answered
      | send message =>
          cases way with
          | send => cases answered; exact .sent message
          | read | write | arrived | closed | elapsed | count | registry => cases answered

variable {engine} in
theorem awaits_of_giveUp {i : Nat} {way : Way χ} {s s' : Scene σ} {call : ServerCall Req}
    {reply : call.Reply Reply} (givesUp : way = .elapsed ∨ way = .closed)
    (answered : answer engine i way s call = some (reply, s')) :
    ∃ channel, call = .awaitPeer channel ∧ s.inbox channel = none := by
  cases call with
  | awaitPeer channel =>
      refine ⟨channel, rfl, ?_⟩
      rcases givesUp with rfl | rfl
      all_goals
        simp only [answer] at answered
        split at answered
        · rename_i silent
          simp_all
        · cases answered
  | registry step => cases step <;> rcases givesUp with rfl | rfl <;> cases answered
  | readRequest | writeAll | pairingSucceeded | timeoutOccurred =>
      rcases givesUp with rfl | rfl <;> cases answered

def rules : Team.Rules Nat (Scene σ) (ServerCall.Reply Reply) (Way χ) η where
  answer := answer engine
  background change s := some (s.update { s.toShared with registry := engine.background change s.registry })

/-- Before anything has happened. -/
def start (registry : σ) : Scene σ where
  registry
  inbox := fun _ => none
  frames := fun _ => []
  metrics := { successfulPairings := 0, timeouts := 0 }
  received := fun _ => none

end Scene

/-- Connections from the given addresses, before anything has happened. -/
def Methods.start {σ Req : Type} {Reply : Req → Type} (methods : Methods Reply) (registry : σ)
    (peers : Nat → SocketAddr) :
    Team Nat (Scene σ) (ServerCall.Reply Reply) (Except IoError Unit) where
  shared := Scene.start registry
  task i := methods.connection i (peers i)

/-! ## What a handler may do -/

/-- How far a connection has come. Within a call of the registry it is where the registry
    says. -/
inductive Standing (δ : Type) where
  | unread
  /-- Its request is read. -/
  | asking (request : Request)
  | calling (request : Request) (inner : δ)
  /-- Its registration found a peer. -/
  | matched (request : Request) (peer : PeerConnectionData)
  /-- It was told to wait. -/
  | waiting (request : Request) (token : Uuid) (channel : Chan)
  /-- A peer arrived on its channel. -/
  | learned (request : Request) (peer : PeerConnectionData)
  /-- It gave up waiting and unregistered. -/
  | left (request : Request) (token : Uuid)
  /-- Its registration failed. -/
  | refused (request : Request)

namespace Standing

variable {δ : Type}

def request : Standing δ → Option Request
  | .unread => none
  | .asking request => some request
  | .calling request _ => some request
  | .matched request _ => some request
  | .waiting request _ _ => some request
  | .learned request _ => some request
  | .left request _ => some request
  | .refused request => some request

/-- The peer that the connection knows of. -/
def peer : Standing δ → Option PeerConnectionData
  | .matched _ peer => some peer
  | .learned _ peer => some peer
  | _ => none

/-- The connection is past its first requests to the registry. -/
def Enrolled : Standing δ → Prop
  | .unread => False
  | .asking _ => False
  | _ => True

/-- The standing after reading, for a client at the given address. -/
def afterRead (own : PeerConnectionData) : ReadOutcome → Standing δ
  | .request request =>
      .asking { pairingName := request.pairingName
                clientInfo := own
                reconnectToken := request.reconnectToken }
  | _ => .unread

def afterRegister (request : Request) : Except RegistryError RegistrationResult → Standing δ
  | .ok (.paired _ peerInfo) => .matched request peerInfo
  | .ok (.waiting token peerNotify) => .waiting request token peerNotify
  | .ok (.resumed token peerNotify) => .waiting request token peerNotify
  | .error _ => .refused request

def afterWait (request : Request) (token : Uuid) (channel : Chan) : PeerWait → Standing δ
  | .arrived peerInfo => .learned request peerInfo
  | _ => .waiting request token channel

/-- The connection may write the frame: PAIRED only with what it was told, WAITING and
    TIMEOUT only with the token it was given. -/
def MayWrite (frame : ServerResponse) (g : Standing δ) : Prop :=
  match frame.status with
  | .paired =>
      ∃ request peer, g.request = some request ∧ g.peer = some peer ∧
        frame.yourInfo = request.clientInfo ∧ frame.peerInfo = some peer
  | .waiting => ∃ request channel, g = .waiting request frame.reconnectToken channel
  | .timeout =>
      ∃ request, (∃ channel, g = .waiting request frame.reconnectToken channel) ∨
        g = .left request frame.reconnectToken
  | .error => True

theorem MayWrite.of_paired {frame : ServerResponse} {g : Standing δ} (may : g.MayWrite frame)
    (paired : frame.status = .paired) :
    ∃ request peer, g.request = some request ∧ g.peer = some peer ∧
      frame.yourInfo = request.clientInfo ∧ frame.peerInfo = some peer := by
  simpa only [MayWrite, paired] using may

theorem MayWrite.not_paired {frame : ServerResponse} {g : Standing δ} (may : g.MayWrite frame)
    (ignorant : g.peer = none) : frame.status ≠ .paired := by
  intro paired
  obtain ⟨request, peer, -, knows, -⟩ := may.of_paired paired
  rw [ignorant] at knows
  cases knows

theorem MayWrite.of_waiting {frame : ServerResponse} {g : Standing δ} (may : g.MayWrite frame)
    (waiting : frame.status = .waiting) :
    ∃ request channel, g = .waiting request frame.reconnectToken channel := by
  simpa only [MayWrite, waiting] using may

end Standing

/-- The request is what the client on connection `i` sent, with its own address. -/
def Asked (address : Nat → Option PeerConnectionData) (received : Option ClientRequest) (i : Nat)
    (request : Request) : Prop :=
  address i = some request.clientInfo ∧
    received.map ClientRequest.pairingName = some request.pairingName

namespace Handler

variable {δ : Type}

/-- The discipline of a handler for a client at the given address. -/
def discipline (δ : Type) (own : Option PeerConnectionData) :
    Discipline HandlerCall.Reply (Standing δ) where
  allowed g
    | .readRequest => g = .unread ∧ own.isSome
    | .register request => g = .asking request
    | .writeAll frame => g.MayWrite frame
    | .awaitPeer channel => ∃ request token, g = .waiting request token channel
    | .unregister name token =>
        ∃ request channel, g = .waiting request token channel ∧ name = request.pairingName
    | .pairingSucceeded => True
    | .timeoutOccurred => True
  after g call :=
    match call, g with
    | .readRequest, g => fun outcome => own.elim g fun info => Standing.afterRead info outcome
    | .register _, .asking request => Standing.afterRegister request
    | .awaitPeer _, .waiting request token channel => Standing.afterWait request token channel
    | .unregister _ _, .waiting request token _ => fun _ => .left request token
    | _, g => fun _ => g

theorem finishWith_obeys {own : Option PeerConnectionData} {frame : ServerResponse}
    {g : Standing δ} {count : Code Unit}
    (may : g.MayWrite frame) (counts : ∀ g, count.Obeys (discipline δ own) (fun _ _ => True) g) :
    (finishWith frame count).Obeys (discipline δ own) (fun _ _ => True) g := by
  refine ⟨may, fun written => ?_⟩
  cases written with
  | error e => trivial
  | ok _ => exact (counts g).bind fun _ _ _ => trivial

theorem counts_obey {own : Option PeerConnectionData} (g : Standing δ) :
    pairingSucceeded.Obeys (discipline δ own) (fun _ _ => True) g ∧
      timeoutOccurred.Obeys (discipline δ own) (fun _ _ => True) g :=
  ⟨⟨trivial, fun _ => trivial⟩, ⟨trivial, fun _ => trivial⟩⟩

theorem waitForPeer_obeys {own : Option PeerConnectionData} (request : Request) (token : Uuid)
    (channel : Chan) :
    (waitForPeer ⟨request.clientInfo, request.pairingName, token, channel⟩).Obeys (discipline δ own)
      (fun _ _ => True) (.waiting request token channel) := by
  refine ⟨⟨request, channel, rfl⟩, fun written => ?_⟩
  cases written with
  | error e => trivial
  | ok _ =>
      refine ⟨⟨request, token, rfl⟩, fun waited => ?_⟩
      cases waited with
      | arrived peerInfo =>
          apply finishWith_obeys
          · exact ⟨request, peerInfo, rfl, rfl, rfl, rfl⟩
          · exact fun g => (counts_obey g).1
      | closed =>
          apply finishWith_obeys
          · exact ⟨request, .inl ⟨channel, rfl⟩⟩
          · exact fun g => (counts_obey g).2
      | elapsed =>
          refine ⟨⟨request, channel, rfl, rfl⟩, fun _ => ?_⟩
          apply finishWith_obeys
          · exact ⟨request, .inr rfl⟩
          · exact fun g => (counts_obey g).2

theorem registerAndServe_obeys {own : Option PeerConnectionData} (request : Request) :
    (registerAndServe request).Obeys (discipline δ own) (fun _ _ => True) (.asking request) := by
  refine ⟨rfl, fun answer => ?_⟩
  cases answer with
  | error e => exact ⟨trivial, fun _ => trivial⟩
  | ok result =>
      cases result with
      | paired token peerInfo =>
          apply finishWith_obeys
          · exact ⟨request, peerInfo, rfl, rfl, rfl, rfl⟩
          · exact fun g => (counts_obey g).1
      | waiting token channel => exact waitForPeer_obeys request token channel
      | resumed token channel => exact waitForPeer_obeys request token channel

theorem handleConnection_obeys (peer : SocketAddr) :
    (handleConnection peer).Obeys (discipline δ (PeerConnectionData.fromSocketAddr peer))
      (fun _ _ => True) .unread := by
  cases peer with
  | v6 ip port => exact ⟨trivial, fun _ => trivial⟩
  | v4 ip port =>
      refine ⟨⟨rfl, rfl⟩, fun outcome => ?_⟩
      cases outcome with
      | failed e => trivial
      | elapsed => exact ⟨trivial, fun _ => trivial⟩
      | rejected e => exact ⟨trivial, fun _ => trivial⟩
      | request request => exact registerAndServe_obeys _

end Handler

namespace Methods

variable {δ Req : Type} {Reply : Req → Type}

/-- The discipline of a connection, with that of the registry's methods put in. -/
def discipline (registry : Discipline (RegistryStep.Reply Reply) (Standing δ))
    (own : Option PeerConnectionData) : Discipline (ServerCall.Reply Reply) (Standing δ) where
  allowed g
    | .readRequest => (Handler.discipline δ own).allowed g .readRequest
    | .writeAll frame => (Handler.discipline δ own).allowed g (.writeAll frame)
    | .awaitPeer channel => (Handler.discipline δ own).allowed g (.awaitPeer channel)
    | .pairingSucceeded => True
    | .timeoutOccurred => True
    | .registry step => registry.allowed g step
  after g
    | .readRequest => (Handler.discipline δ own).after g .readRequest
    | .awaitPeer channel => (Handler.discipline δ own).after g (.awaitPeer channel)
    | .registry step => registry.after g step
    | .writeAll _ | .pairingSucceeded | .timeoutOccurred => fun _ => g

variable {registry : Discipline (RegistryStep.Reply Reply) (Standing δ)}
  {own : Option PeerConnectionData}

theorem inline_obeys {α : Type} {method : SendingMethod Reply α} {ends : Standing δ → α → Prop}
    {g : Standing δ} (obeys : method.Obeys registry ends g) :
    (inline method).Obeys (discipline registry own) ends g := by
  apply Program.Obeys.expand _ obeys
  intro g step permitted
  exact ⟨permitted, fun _ => rfl⟩

/-- A connection keeps to its discipline if the methods it calls do. -/
theorem connection_obeys {methods : Methods Reply} {i : Nat} (peer : SocketAddr)
    (registers : ∀ request, (methods.register i request).Obeys registry
      (fun g answer => g = Standing.afterRegister request answer) (.asking request))
    (unregisters : ∀ request token channel,
      (methods.unregister i request.pairingName token).Obeys registry
        (fun g _ => g = .left request token) (.waiting request token channel)) :
    (methods.connection i peer).Obeys
      (discipline registry (PeerConnectionData.fromSocketAddr peer)) (fun _ _ => True) .unread := by
  apply (Handler.handleConnection_obeys peer).expand
  intro g call permitted
  cases call with
  | register request =>
      obtain rfl := permitted
      exact inline_obeys (registers request)
  | unregister name token =>
      obtain ⟨request, channel, rfl, rfl⟩ := permitted
      exact inline_obeys (unregisters request token channel)
  | readRequest => exact ⟨permitted, fun _ => rfl⟩
  | awaitPeer channel => exact ⟨permitted, fun _ => rfl⟩
  | writeAll frame => exact ⟨permitted, fun _ => rfl⟩
  | pairingSucceeded => exact ⟨trivial, fun _ => rfl⟩
  | timeoutOccurred => exact ⟨trivial, fun _ => rfl⟩

end Methods

end TCPunch
