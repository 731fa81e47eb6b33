import TCPunch.Client.System

/-! # `pair` and `peer_listen`

The two threads in blocks, one for each loop of the source and for what comes before and
after it. The places name how far a thread has come, and the discipline says which calls it
makes there.
-/

namespace TCPunch.Client

open Bytes

/-! ## The text -/

/-- Code that may throw. -/
abbrev Code := ExceptT Thrown (Program Call.Reply)

def ask (call : Call) : Code call.Reply := .mk (.call call fun reply => .done (.ok reply))

def errorExit {α : Type} (message : String) : Code α := throw (.runtimeError message)

section

variable (strerror : Errno → String)

def errorExitErrno {α : Type} (message : String) (errno : Errno) : Code α :=
  match errno with
  | .eagain | .ewouldblock => throw .timeout
  | _ => throw (.runtimeError (message ++ strerror errno))

/-- The result of a call, or `error_exit_errno`. -/
def orExit {α : Type} (message : String) (reply : Except Errno α) : Code α :=
  match reply with
  | .ok a => pure a
  | .error errno => errorExitErrno strerror message errno

/-- `setsockopt` for one option and then, if that works, for `SO_REUSEPORT`. -/
def setBoth (fd : Int) (first : SocketOption) : Code (Except Errno Unit) := do
  match ← ask (.setsockopt fd first) with
  | .error errno => return .error errno
  | .ok () => ask (.setsockopt fd .reusePort)

/-- Receive a `PeerConnectionData`. -/
def recvInfo (fd : Int) (failed disconnected : String) : Code (List UInt8) := do
  let (bytes, memory) ← orExit strerror failed (← ask (.recv fd))
  if bytes = 0 then errorExit disconnected else return memory

/-- The part of `pair` that talks to the rendezvous server, up to its first answer. -/
def rendezvous (arguments : Arguments) : Code (Int × List UInt8) := do
  ask (.storeEstablished false)
  ask (.storeAccepting (-1))
  let socketRendezvous ← orExit strerror "Could not create socket for rendezvous server: " (← ask .socket)
  orExit strerror "Setting REUSE options failed: " (← setBoth socketRendezvous .reuseAddr)
  orExit strerror "Setting timeout failed: " (← setBoth socketRendezvous
    (.rcvTimeo (arguments.timeoutMs.tdiv 1000) (arguments.timeoutMs.tmod 1000 * 1000)))
  let serverData := ⟨arguments.serverAddress, be16 (UInt16.ofInt arguments.port)⟩
  orExit strerror "Connection with the rendezvous server failed: "
    (← ask (.connect socketRendezvous serverData))
  let _ ← orExit strerror "Failed to send data to rendezvous server: "
    (← ask (.send socketRendezvous arguments.pairingName))
  let publicInfo ← recvInfo strerror socketRendezvous "Failed to get data from rendezvous server: "
    "Server has disconnected"
  return (socketRendezvous, publicInfo)

/-- The socket for the peer. Whether there is one is seen only by its options. -/
def openPeerSocket (publicInfo : List UInt8) : Code Int := do
  let peerSocket := (← ask .socket).toOption.getD (-1)
  match ← setBoth peerSocket .reuseAddr with
  | .error _ => errorExit "Setting REUSE options failed"
  | .ok () => pure ()
  -- Polled below.
  orExit strerror "Setting O_NONBLOCK failed: " (← ask (.setFlags peerSocket oNonblock))
  orExit strerror "Binding to same port failed: " (← ask (.bind peerSocket (view publicInfo).port))
  return peerSocket

/-- `pair` up to its loop: the socket for the peer, and the peer's address. -/
def prepare (arguments : Arguments) : Code (Int × Utils.PeerConnectionData) := do
  let (socketRendezvous, publicInfo) ← rendezvous strerror arguments
  orExit strerror "Error when creating thread for listening: " (← ask (.pthreadCreate publicInfo))
  let peerData ← recvInfo strerror socketRendezvous "Failed to get peer data from rendezvous server: "
    "Server has disconnected when waiting for peer data"
  return (← openPeerSocket strerror publicInfo, view peerData)

/-- `peer_listen` up to its loop: the listening socket. -/
def openListenSocket : Code Int := do
  let listenSocket ← orExit strerror "Socket creation failed: " (← ask .socket)
  orExit strerror "Setting REUSE options failed: " (← setBoth listenSocket .reuseAddr)
  let port := (view (← ask .loadInfo)).port
  orExit strerror "Could not bind to local port: " (← ask (.bind listenSocket port))
  orExit strerror "Listening on local port failed: " (← ask (.listen listenSocket))
  return listenSocket

/-- The beginnings of blocks. -/
inductive Label where
  /-- Outside of `pair`. -/
  | ready
  /-- `while(!connection_established.load())` -/
  | punch (peerSocket : Int) (peerAddr : Utils.PeerConnectionData)
  /-- After the loop. -/
  | leave (peerSocket : Int)
  /-- The loop of `peer_listen`. -/
  | acceptPeer (listenSocket : Int)
  deriving Repr, DecidableEq

abbrev Thread := Program Call.Reply (Label ⊕ Unit)

def blocks : Label → Thread
  | .ready =>
      .call .called fun arguments => do
        match ← (prepare strerror arguments).run with
        | .error thrown => .call (.finish (.error thrown)) fun _ => return .inl .ready
        | .ok (peerSocket, peerAddr) => return .inl (.punch peerSocket peerAddr)
  | .punch peerSocket peerAddr =>
      .call .loadEstablished fun (established : Bool) =>
        if established then return .inl (.leave peerSocket) else
        .call (.connect peerSocket peerAddr) fun peerStatus =>
          match peerStatus with
          | .error errno =>
              if errno = .ealready ∨ errno = .eagain ∨ errno = .einprogress then
                return .inl (.punch peerSocket peerAddr)
              else if errno = .eisconn then
                return .inl (.leave peerSocket)
              else
                .call (.sleepFor 100) fun _ => return .inl (.punch peerSocket peerAddr)
          | .ok () => return .inl (.leave peerSocket)
  | .leave peerSocket =>
      .call .loadEstablished fun (established : Bool) =>
        if established then
          .call .pthreadJoin fun _ => .call .loadAccepting fun accepted => unblock accepted
        else unblock peerSocket
  | .acceptPeer listenSocket =>
      .call (.accept listenSocket) fun peer =>
        match peer with
        | .error _ => return .inl (.acceptPeer listenSocket)
        | .ok peer =>
            .call (.storeAccepting peer) fun _ => .call (.storeEstablished true) fun _ =>
              .call .exit fun _ => return .inr ()
where
  /-- `fcntl` gives -1 if it fails, and the flags are then all that are left of it. -/
  unblock (peerSocket : Int) : Thread :=
    .call (.getFlags peerSocket) fun flags =>
      .call (.setFlags peerSocket (flags.toOption.getD (-1) &&& ~~~oNonblock)) fun _ =>
        .call (.finish (.ok peerSocket)) fun _ => return .inl .ready

/-- The thread that `pthread_create` starts. -/
def peerListen : Thread :=
  .call .started fun _ => do
    match ← (openListenSocket strerror).run with
    | .error _ => .call .terminate fun _ => return .inr ()
    | .ok listenSocket => return .inl (.acceptPeer listenSocket)

/-- Thread 0 calls `pair` again and again; the others are there to be created. -/
def start : Team Nat Process Call.Reply (Label ⊕ Unit) where
  shared := Process.start
  task i := if i = 0 then blocks strerror .ready else peerListen strerror

def step : Team Nat Process Call.Reply (Label ⊕ Unit) → Team.Move Nat Way Process.Handshake →
    Option (Team Nat Process Call.Reply (Label ⊕ Unit)) :=
  Team.loopStep Process.rules (blocks strerror)

end

/-! ## The order of the calls -/

/-- How far a thread has come. -/
inductive Place where
  | outside
  /-- Neither atomic is reset yet. -/
  | entering
  | resetting
  | asking
  /-- The server has closed the connection. -/
  | disconnected
  | informed (info : List UInt8)
  | listening (info : List UInt8)
  | answered (info peer : List UInt8)
  /-- The socket for the peer, if there is one. -/
  | opened (info peer : List UInt8) (fd : Int)
  | usable (info peer : List UInt8) (fd : Int)
  | punching (info peer : List UInt8) (fd : Int)
  /-- `connect` has reached the peer. -/
  | linked (info peer : List UInt8) (fd : Int)
  /-- `connection_established` was seen. -/
  | noticed (info peer : List UInt8) (fd : Int)
  | joined
  | chosen (fd : Int)
  | settled (fd : Int)
  -- The places of the thread that listens.
  | unborn
  | born
  | owning (fd : Int)
  | located (port : List UInt8) (fd : Int)
  | bound (port : List UInt8) (fd : Int)
  | accepting (port : List UInt8) (fd : Int)
  | holding (fd : Int)
  | stored (fd : Int)
  | announced (fd : Int)
  | gone

namespace Place

/-- `pair` may throw here. -/
def Throws : Place → Prop
  | .asking | .disconnected | .informed _ | .listening _ | .answered _ _ | .opened _ _ _
  | .usable _ _ _ => True
  | _ => False

/-- `peer_listen` may throw here. -/
def Dies : Place → Prop
  | .born | .owning _ | .located _ _ | .bound _ _ => True
  | _ => False

end Place

def discipline : Discipline Call.Reply Place where
  allowed g
    | .socket => g = .asking ∨ (∃ info peer, g = .answered info peer) ∨ g = .born
    | .setsockopt fd _ =>
        g = .asking ∨ (∃ info peer, g = .opened info peer fd ∨ g = .usable info peer fd) ∨
          g = .owning fd
    | .bind fd port =>
        (∃ info peer, g = .usable info peer fd ∧ port = (view info).port) ∨ g = .located port fd
    | .listen fd => ∃ port, g = .bound port fd
    | .accept fd => ∃ port, g = .accepting port fd
    | .connect fd address =>
        g = .asking ∨ ∃ info peer, g = .punching info peer fd ∧ address = view peer
    | .send _ _ => g = .asking
    | .recv _ => g = .asking ∨ ∃ info, g = .listening info
    | .getFlags fd => g = .chosen fd
    | .setFlags fd flags =>
        (∃ info peer, g = .usable info peer fd) ∨ g = .chosen fd ∧ flags &&& oNonblock = 0
    | .pthreadCreate info => g = .informed info
    | .pthreadJoin => ∃ info peer fd, g = .noticed info peer fd
    | .sleepFor _ => ∃ info peer fd, g = .punching info peer fd
    | .loadEstablished =>
        ∃ info peer fd, g = .punching info peer fd ∨ g = .linked info peer fd ∨
          g = .noticed info peer fd
    | .storeEstablished value =>
        g = .entering ∧ value = false ∨ (∃ fd, g = .stored fd) ∧ value = true
    | .loadAccepting => g = .joined
    | .storeAccepting fd => g = .resetting ∧ fd = -1 ∨ g = .holding fd
    | .called => g = .outside
    | .finish (.ok fd) => g = .settled fd
    | .finish (.error _) => g.Throws
    | .started => g = .unborn
    | .loadInfo => ∃ fd, g = .owning fd
    | .exit => ∃ fd, g = .announced fd
    | .terminate => g.Dies
  after g
    | .socket => fun reply =>
        match g, reply with
        | .answered info peer, reply => .opened info peer (reply.toOption.getD (-1))
        | .born, .ok fd => .owning fd
        | g, _ => g
    | .setsockopt _ _ => fun reply =>
        match g, reply with
        | .opened info peer fd, .ok () => .usable info peer fd
        | g, _ => g
    | .bind _ _ => fun reply =>
        match g, reply with
        | .usable info peer fd, .ok () => .punching info peer fd
        | .located port fd, .ok () => .bound port fd
        | g, _ => g
    | .listen _ => fun reply =>
        match g, reply with
        | .bound port fd, .ok () => .accepting port fd
        | g, _ => g
    | .accept _ => fun reply =>
        match g, reply with
        | .accepting _ _, .ok fd => .holding fd
        | g, _ => g
    | .connect _ _ => fun reply =>
        match g, reply with
        | .punching info peer fd, .ok () => .linked info peer fd
        | .punching info peer fd, .error .eisconn => .linked info peer fd
        | g, _ => g
    | .send _ _ => fun _ => g
    | .recv _ => fun reply =>
        match g, reply with
        | _, .ok (0, _) => .disconnected
        | .asking, .ok (_ + 1, info) => .informed info
        | .listening info, .ok (_ + 1, peer) => .answered info peer
        | g, _ => g
    | .getFlags _ => fun _ => g
    | .setFlags _ _ => fun _ =>
        match g with
        | .chosen fd => .settled fd
        | g => g
    | .pthreadCreate _ => fun reply =>
        match g, reply with
        | .informed info, .ok () => .listening info
        | g, _ => g
    | .pthreadJoin => fun _ => .joined
    | .sleepFor _ => fun _ => g
    | .loadEstablished => fun (established : Bool) =>
        match g, established with
        | .punching info peer fd, true => .noticed info peer fd
        | .linked info peer fd, true => .noticed info peer fd
        | .linked _ _ fd, false => .chosen fd
        | .noticed _ _ fd, false => .chosen fd
        | g, _ => g
    | .storeEstablished _ => fun _ =>
        match g with
        | .entering => .resetting
        | .stored fd => .announced fd
        | g => g
    | .loadAccepting => fun accepted => .chosen accepted
    | .storeAccepting _ => fun _ =>
        match g with
        | .resetting => .asking
        | .holding fd => .stored fd
        | g => g
    | .called => fun _ => .entering
    | .finish _ => fun _ => .outside
    | .started => fun _ => .born
    | .loadInfo => fun info =>
        match g with
        | .owning fd => .located (view info).port fd
        | g => g
    | .exit => fun _ => .gone
    | .terminate => fun _ => .gone

/-- Where blocks begin. -/
def Place.Entry : Label → Place → Prop
  | .ready, g => g = .outside
  | .punch peerSocket peerAddr, g =>
      ∃ info peer, g = .punching info peer peerSocket ∧ peerAddr = view peer
  | .leave peerSocket, g =>
      ∃ info peer, g = .linked info peer peerSocket ∨ g = .noticed info peer peerSocket
  | .acceptPeer listenSocket, g => ∃ port, g = .accepting port listenSocket

section Text

variable {strerror : Errno → String} {α β : Type} {ends : Place → Except Thrown β → Prop} {g : Place}

theorem ask_obeys {call : Call} {f : call.Reply → Code β} (permitted : discipline.allowed g call)
    (rest : ∀ reply, (f reply).run.Obeys discipline ends (discipline.after g call reply)) :
    (ask call >>= f).run.Obeys discipline ends g :=
  ⟨permitted, rest⟩

theorem orExit_obeys {message : String} {reply : Except Errno α} {f : α → Code β}
    (throws : ∀ thrown, ends g (.error thrown))
    (rest : ∀ a, reply = .ok a → (f a).run.Obeys discipline ends g) :
    (orExit strerror message reply >>= f).run.Obeys discipline ends g := by
  cases reply with
  | ok a => exact rest a rfl
  | error errno => cases errno <;> exact throws _

/-- Both options, where only the first of them can make a difference to the place. -/
theorem setBoth_obeys {fd : Int} {first : SocketOption} {f : Except Errno Unit → Code β}
    (g' : Place) (permitted : discipline.allowed g (.setsockopt fd first))
    (permitted' : discipline.allowed g' (.setsockopt fd .reusePort))
    (fails : ∀ errno, discipline.after g (.setsockopt fd first) (.error errno) = g)
    (works : discipline.after g (.setsockopt fd first) (.ok ()) = g')
    (stays : ∀ reply, discipline.after g' (.setsockopt fd .reusePort) reply = g')
    (error : ∀ errno, (f (.error errno)).run.Obeys discipline ends g ∧
      (f (.error errno)).run.Obeys discipline ends g')
    (ok : (f (.ok ())).run.Obeys discipline ends g') :
    (setBoth fd first >>= f).run.Obeys discipline ends g := by
  refine ⟨permitted, fun reply => ?_⟩
  cases reply with
  | error errno =>
      rw [fails]
      exact (error errno).1
  | ok _ =>
      rw [works]
      refine ⟨permitted', fun reply => ?_⟩
      rw [stays]
      cases reply with
      | error errno => exact (error errno).2
      | ok _ => exact ok

theorem recvInfo_obeys {fd : Int} {failed disconnected : String} {f : List UInt8 → Code β}
    (permitted : discipline.allowed g (.recv fd)) (throws : ∀ thrown, ends g (.error thrown))
    (closed : ∀ thrown, ends .disconnected (.error thrown))
    (fails : ∀ errno, discipline.after g (.recv fd) (.error errno) = g)
    (rest : ∀ bytes memory, bytes ≠ 0 →
      (f memory).run.Obeys discipline ends (discipline.after g (.recv fd) (.ok (bytes, memory)))) :
    (recvInfo strerror fd failed disconnected >>= f).run.Obeys discipline ends g := by
  refine ⟨permitted, fun reply => ?_⟩
  cases reply with
  | error errno =>
      rw [fails]
      cases errno <;> exact throws _
  | ok out =>
      obtain ⟨bytes, memory⟩ := out
      cases bytes with
      | zero => exact closed _
      | succ n => exact rest (n + 1) memory (Nat.succ_ne_zero n)

/-- Where the first part of `pair` may end. -/
def PreparedTo (arrive : α → Place → Prop) (g : Place) : Except Thrown α → Prop
  | .error _ => g.Throws
  | .ok a => arrive a g

theorem rendezvous_obeys (arguments : Arguments) :
    (rendezvous strerror arguments).run.Obeys discipline
      (PreparedTo fun out g => g = .informed out.2) .entering := by
  refine ask_obeys (.inl ⟨rfl, rfl⟩) fun _ => ask_obeys (.inl ⟨rfl, rfl⟩) fun _ => ?_
  refine ask_obeys (.inl rfl) fun reply => orExit_obeys (fun _ => trivial) fun fd _ => ?_
  have options : ∀ first {f : Except Errno Unit → Code (Int × List UInt8)},
      (∀ reply, (f reply).run.Obeys discipline (PreparedTo fun out g => g = .informed out.2) .asking) →
      (setBoth fd first >>= f).run.Obeys discipline
        (PreparedTo fun out g => g = .informed out.2) .asking := fun first f rest =>
    setBoth_obeys _ (.inl rfl) (.inl rfl) (fun _ => rfl) rfl (fun _ => rfl) (fun _ => ⟨rest _, rest _⟩)
      (rest _)
  refine options _ fun reply => orExit_obeys (fun _ => trivial) fun _ _ => ?_
  refine options _ fun reply => orExit_obeys (fun _ => trivial) fun _ _ => ?_
  refine ask_obeys (.inl rfl) fun reply => orExit_obeys (fun _ => trivial) fun _ _ => ?_
  refine ask_obeys rfl fun reply => orExit_obeys (fun _ => trivial) fun _ _ => ?_
  refine recvInfo_obeys (.inl rfl) (fun _ => trivial) (fun _ => trivial) (fun _ => rfl) ?_
  intro bytes memory some
  cases bytes with
  | zero => exact absurd rfl some
  | succ n => exact rfl

theorem openPeerSocket_obeys (info peer : List UInt8) :
    (openPeerSocket strerror info).run.Obeys discipline
      (PreparedTo fun fd g => g = .punching info peer fd) (.answered info peer) := by
  refine ask_obeys (.inr (.inl ⟨info, peer, rfl⟩)) fun reply => ?_
  change Program.Obeys _ _ _ (Place.opened info peer ((Except.toOption reply).getD (-1)))
  generalize (Except.toOption reply).getD (-1) = fd
  refine setBoth_obeys (.usable info peer fd) (.inr (.inl ⟨info, peer, .inl rfl⟩))
    (.inr (.inl ⟨info, peer, .inr rfl⟩)) (fun _ => rfl) rfl (fun _ => rfl) (fun _ => ⟨trivial, trivial⟩) ?_
  refine ask_obeys (.inl ⟨info, peer, rfl⟩) fun reply => orExit_obeys (fun _ => trivial) fun _ _ => ?_
  refine ask_obeys (.inl ⟨info, peer, rfl, rfl⟩) fun reply => ?_
  cases reply with
  | error errno => exact orExit_obeys (fun _ => trivial) fun _ same => by cases same
  | ok _ => exact rfl

theorem prepare_obeys (arguments : Arguments) :
    (prepare strerror arguments).run.Obeys discipline
      (PreparedTo fun out g => Place.Entry (.punch out.1 out.2) g) .entering := by
  apply (rendezvous_obeys arguments).bind
  intro g out reached
  cases out with
  | error thrown => exact reached
  | ok out =>
      obtain ⟨fd, info⟩ := out
      obtain rfl := reached
      refine ask_obeys rfl fun reply => ?_
      cases reply with
      | error errno => exact orExit_obeys (fun _ => trivial) fun _ same => by cases same
      | ok _ =>
          refine recvInfo_obeys (.inr ⟨info, rfl⟩) (fun _ => trivial) (fun _ => trivial) (fun _ => rfl) ?_
          intro bytes peer some
          cases bytes with
          | zero => exact absurd rfl some
          | succ n =>
              apply (openPeerSocket_obeys info peer).bind
              intro g out reached
              cases out with
              | error thrown => exact reached
              | ok fd => exact ⟨info, peer, reached, rfl⟩

theorem openListenSocket_obeys :
    (openListenSocket strerror).run.Obeys discipline
      (fun g out => match out with
        | .error _ => g.Dies
        | .ok fd => Place.Entry (.acceptPeer fd) g) .born := by
  refine ask_obeys (.inr (.inr rfl)) fun reply => ?_
  cases reply with
  | error errno => exact orExit_obeys (fun _ => trivial) fun _ same => by cases same
  | ok fd =>
      refine setBoth_obeys (.owning fd) (.inr (.inr rfl)) (.inr (.inr rfl)) (fun _ => rfl) rfl (fun _ => rfl)
        (fun errno => ⟨?_, ?_⟩) ?_
      · exact orExit_obeys (fun _ => trivial) fun _ same => by cases same
      · exact orExit_obeys (fun _ => trivial) fun _ same => by cases same
      · refine ask_obeys ⟨fd, rfl⟩ fun info => ask_obeys (.inr rfl) fun reply => ?_
        cases reply with
        | error errno => exact orExit_obeys (fun _ => trivial) fun _ same => by cases same
        | ok _ =>
            refine ask_obeys ⟨_, rfl⟩ fun reply => ?_
            cases reply with
            | error errno => exact orExit_obeys (fun _ => trivial) fun _ same => by cases same
            | ok _ => exact ⟨_, rfl⟩

theorem unset_oNonblock (flags : BitVec 32) : flags &&& ~~~oNonblock &&& oNonblock = 0 := by
  rw [BitVec.and_assoc, BitVec.not_and_self]
  exact BitVec.and_zero

theorem blocks_obey (label : Label) (g : Place) (entry : Place.Entry label g) :
    (blocks strerror label).Obeys discipline (Team.blockEnds Place.Entry fun _ _ => True) g := by
  have leaves : ∀ fd, (blocks.unblock fd).Obeys discipline
      (Team.blockEnds Place.Entry fun _ _ => True) (.chosen fd) := by
    intro fd
    exact ⟨rfl, fun flags => ⟨.inr ⟨rfl, unset_oNonblock _⟩, fun _ => ⟨rfl, fun _ => rfl⟩⟩⟩
  cases label with
  | ready =>
      obtain rfl := entry
      refine ⟨rfl, fun arguments => (prepare_obeys arguments).bind fun g out reached => ?_⟩
      cases out with
      | error thrown => exact ⟨reached, fun _ => rfl⟩
      | ok out => exact reached
  | punch peerSocket peerAddr =>
      obtain ⟨info, peer, rfl, rfl⟩ := entry
      refine ⟨⟨info, peer, peerSocket, .inl rfl⟩, fun established => ?_⟩
      cases established with
      | true => exact ⟨info, peer, .inr rfl⟩
      | false =>
          refine ⟨.inr ⟨info, peer, rfl, rfl⟩, fun status => ?_⟩
          cases status with
          | ok _ => exact ⟨info, peer, .inl rfl⟩
          | error errno =>
              cases errno with
              | eagain | ealready | einprogress => exact ⟨info, peer, rfl, rfl⟩
              | eisconn => exact ⟨info, peer, .inl rfl⟩
              | ewouldblock | other => exact ⟨⟨info, peer, peerSocket, rfl⟩, fun _ => ⟨info, peer, rfl, rfl⟩⟩
  | leave peerSocket =>
      have joins : ∀ info peer, (Program.call Call.pthreadJoin fun _ =>
          .call .loadAccepting fun accepted => blocks.unblock accepted : Thread).Obeys discipline
            (Team.blockEnds Place.Entry fun _ _ => True) (.noticed info peer peerSocket) :=
        fun info peer => ⟨⟨info, peer, peerSocket, rfl⟩, fun _ => ⟨rfl, leaves⟩⟩
      obtain ⟨info, peer, rfl | rfl⟩ := entry
      · refine ⟨⟨info, peer, peerSocket, .inr (.inl rfl)⟩, fun established => ?_⟩
        cases established with
        | true => exact joins info peer
        | false => exact leaves peerSocket
      · refine ⟨⟨info, peer, peerSocket, .inr (.inr rfl)⟩, fun established => ?_⟩
        cases established with
        | true => exact joins info peer
        | false => exact leaves peerSocket
  | acceptPeer listenSocket =>
      obtain ⟨port, rfl⟩ := entry
      refine ⟨⟨port, rfl⟩, fun peer => ?_⟩
      cases peer with
      | error errno => exact ⟨port, rfl⟩
      | ok peer => exact ⟨.inr rfl, fun _ => ⟨.inr ⟨⟨peer, rfl⟩, rfl⟩, fun _ => ⟨⟨peer, rfl⟩, fun _ => trivial⟩⟩⟩

theorem start_obeys (strerror : Errno → String) (i : Nat) :
    ((start strerror).task i).Obeys discipline (Team.blockEnds Place.Entry fun _ _ => True)
      (if i = 0 then .outside else .unborn) := by
  change (if i = 0 then blocks strerror .ready else peerListen strerror).Obeys _ _ _
  split
  · exact blocks_obey .ready .outside rfl
  · refine ⟨rfl, fun _ => openListenSocket_obeys.bind fun g out reached => ?_⟩
    cases out with
    | error thrown => exact ⟨reached, fun _ => trivial⟩
    | ok fd => exact reached

end Text

end TCPunch.Client
