import TCPunch.Lib.Typestate
import TCPunch.Protocol.Utils

/-! # The system under the C++ client

The client library (`client/tcpunch.cpp`) is two functions, `pair` and the thread
`peer_listen` that it starts, and two global atomics. This module says what they ask for and
how the system may answer: every call of the system can fail, `connect` may take its time,
and anybody may connect to a listening socket. Nothing in the library closes a descriptor,
so none is given out twice.
-/

namespace TCPunch.Client

/-- The values of `errno` that the library tells apart. -/
inductive Errno where
  | eagain
  | ewouldblock
  | ealready
  | einprogress
  | eisconn
  | other (code : Nat)
  deriving Repr, DecidableEq

/-- What `pair` throws. -/
inductive Thrown where
  | timeout
  | runtimeError (message : String)
  deriving Repr, DecidableEq

/-- The arguments of `pair`, with the four bytes that `inet_addr` makes of the address. -/
structure Arguments where
  pairingName : List UInt8
  serverAddress : List UInt8
  port : Int
  timeoutMs : Int
  deriving Repr, DecidableEq

inductive SocketOption where
  | reuseAddr
  | reusePort
  | rcvTimeo (seconds microseconds : Int)
  deriving Repr, DecidableEq

/-- `sizeof(PeerConnectionData)`: four bytes, two bytes, and two of padding. -/
def infoSize : Nat := 8

/-- The fields of a `PeerConnectionData` in memory. -/
def view (memory : List UInt8) : Utils.PeerConnectionData :=
  ⟨memory.take 4, (memory.drop 4).take 2⟩

/-- The flag for `fcntl`. -/
def oNonblock : BitVec 32 := 0x800

/-! ## Calls -/

/-- What a thread asks of the system, of the other threads and of the caller of `pair`. -/
inductive Call where
  | socket
  | setsockopt (fd : Int) (option : SocketOption)
  | bind (fd : Int) (port : List UInt8)
  | listen (fd : Int)
  | accept (fd : Int)
  | connect (fd : Int) (address : Utils.PeerConnectionData)
  | send (fd : Int) (data : List UInt8)
  /-- `recv` of a `PeerConnectionData`, with `MSG_WAITALL`. -/
  | recv (fd : Int)
  | getFlags (fd : Int)
  | setFlags (fd : Int) (flags : BitVec 32)
  /-- Start `peer_listen` with a pointer to this memory. -/
  | pthreadCreate (info : List UInt8)
  | pthreadJoin
  | sleepFor (milliseconds : Nat)
  | loadEstablished
  | storeEstablished (value : Bool)
  | loadAccepting
  | storeAccepting (fd : Int)
  /-- The caller calls `pair`. -/
  | called
  /-- `pair` returns or throws. -/
  | finish (outcome : Except Thrown Int)
  /-- The thread runs. -/
  | started
  /-- `*info`, which is in the memory of the call that started the thread. -/
  | loadInfo
  /-- The thread returns. -/
  | exit
  /-- An exception leaves the thread, and `std::terminate` ends the process. -/
  | terminate

/-- Where the source compares with -1, the reply is the result or `errno`. -/
def Call.Reply : Call → Type
  | .socket => Except Errno Int
  | .setsockopt _ _ => Except Errno Unit
  | .bind _ _ => Except Errno Unit
  | .listen _ => Except Errno Unit
  | .accept _ => Except Errno Int
  | .connect _ _ => Except Errno Unit
  | .send _ _ => Except Errno Nat
  /- The number of bytes, and what is in memory then. -/
  | .recv _ => Except Errno (Nat × List UInt8)
  | .getFlags _ => Except Errno (BitVec 32)
  | .setFlags _ _ => Except Errno Unit
  /- It does not set `errno`; the error is what happens to be there. -/
  | .pthreadCreate _ => Except Errno Unit
  | .pthreadJoin => Unit
  | .sleepFor _ => Unit
  | .loadEstablished => Bool
  | .storeEstablished _ => Unit
  | .loadAccepting => Int
  | .storeAccepting _ => Unit
  | .called => Arguments
  | .finish _ => Unit
  | .started => Unit
  | .loadInfo => List UInt8
  | .exit => Unit
  | .terminate => Unit

/-! ## The process -/

/-- What has become of a socket. A connection that broke down later still is one. -/
inductive Link where
  | idle
  | listening
  | connecting (peer : Utils.PeerConnectionData)
  | connected (peer : Utils.PeerConnectionData)
  deriving Repr, DecidableEq

structure Socket where
  port : Option (List UInt8)
  link : Link
  flags : BitVec 32
  deriving Repr, DecidableEq

/-- `O_NONBLOCK` is not set. -/
def Socket.Blocking (socket : Socket) : Prop := socket.flags &&& oNonblock = 0

/-- A process that uses the library. Its calls of `pair` are numbered from one, and the thread
    that a call starts has the call's number. The last five fields keep a record. -/
structure Process where
  sockets : Int → Option Socket
  established : Bool
  accepting : Int
  call : Nat
  /-- What the pointer that the thread was given points to. -/
  created : Nat → Option (List UInt8)
  exited : Nat → Bool
  terminated : Bool
  /-- What the call sent. -/
  sent : Nat → List UInt8
  /-- What each `recv` of the call received. -/
  received : Nat → List (List UInt8)
  /-- The descriptor that the thread got from `accept`. -/
  accepted : Nat → Option Int
  /-- Some `F_SETFL` of the call failed. -/
  flagsFailed : Nat → Bool
  results : Nat → Option (Except Thrown Int)

namespace Process

def start : Process where
  sockets _ := none
  established := false
  accepting := -1
  call := 0
  created _ := none
  exited _ := false
  terminated := false
  sent _ := []
  received _ := []
  accepted _ := none
  flagsFailed _ := false
  results _ := none

def put (s : Process) (fd : Int) (socket : Socket) : Process :=
  { s with sockets := Function.update s.sockets fd (some socket) }

@[simp] theorem put_self (s : Process) (fd : Int) (socket : Socket) :
    (s.put fd socket).sockets fd = some socket :=
  Function.update_self ..

/-- A new descriptor. -/
def Free (s : Process) (fd : Int) : Prop := 0 ≤ fd ∧ s.sockets fd = none

instance (s : Process) (fd : Int) : Decidable (s.Free fd) := inferInstanceAs (Decidable (_ ∧ _))

end Process

/-! ## Answers -/

/-- How a call is answered. -/
inductive Way where
  | succeeds
  | fails (errno : Errno)
  | opens (fd : Int)
  | accepts (fd : Int) (peer : Utils.PeerConnectionData)
  | sends (count : Nat)
  | receives (data memory : List UInt8)
  | calls (arguments : Arguments)
  /-- The memory is no longer that of the call. -/
  | dangles (memory : List UInt8)

namespace Process

/-- `connect` on a socket: at once, later, or not at all. -/
def connect (socket : Socket) (address : Utils.PeerConnectionData) :
    Way → Option (Except Errno Unit × Socket)
  | .succeeds =>
      match socket.link with
      | .idle => some (.ok (), { socket with link := .connected address })
      | .connecting peer => some (.ok (), { socket with link := .connected peer })
      | _ => none
  | .fails errno =>
      match socket.link with
      | .connected _ => some (.error errno, socket)
      | .listening => if errno = .eisconn then none else some (.error errno, socket)
      | .connecting _ =>
          if errno = .eisconn then none
          else if errno = .ealready ∨ errno = .einprogress then some (.error errno, socket)
          else some (.error errno, { socket with link := .idle })
      | .idle =>
          if errno = .eisconn then none
          else if errno = .einprogress then
            some (.error errno, { socket with link := .connecting address })
          else some (.error errno, socket)
  | _ => none

/-- The answer to thread `i`, if the call can be answered so. -/
def answer (i : Nat) (way : Way) (s : Process) (call : Call) : Option (call.Reply × Process) :=
  if s.terminated then none else
  match call, way with
  | .socket, .opens fd =>
      if s.Free fd then some (.ok fd, s.put fd { port := none, link := .idle, flags := 0 }) else none
  | .socket, .fails errno => some (.error errno, s)
  | .setsockopt fd _, .succeeds => if (s.sockets fd).isSome then some (.ok (), s) else none
  | .setsockopt _ _, .fails errno => some (.error errno, s)
  | .bind fd port, .succeeds =>
      match s.sockets fd with
      | some ⟨none, link, flags⟩ => some (.ok (), s.put fd ⟨some port, link, flags⟩)
      | _ => none
  | .bind _ _, .fails errno => some (.error errno, s)
  | .listen fd, .succeeds =>
      match s.sockets fd with
      | some ⟨port, .idle, flags⟩ => some (.ok (), s.put fd ⟨port, .listening, flags⟩)
      | _ => none
  | .listen _, .fails errno => some (.error errno, s)
  | .accept fd, .accepts new peer =>
      match s.sockets fd with
      | some ⟨port, .listening, _⟩ =>
          if s.Free new then
            some (.ok new, { s.put new { port, link := .connected peer, flags := 0 } with
              accepted := Function.update s.accepted i (some new) })
          else none
      | _ => none
  | .accept _, .fails errno => some (.error errno, s)
  | .connect fd address, way =>
      match s.sockets fd with
      | some socket => (connect socket address way).map fun out => (out.1, s.put fd out.2)
      | none =>
          match way with
          | .fails errno => if errno = .eisconn then none else some (.error errno, s)
          | _ => none
  | .send _ data, .sends count =>
      if count ≤ data.length then
        some (.ok count,
          { s with sent := Function.update s.sent s.call (s.sent s.call ++ data.take count) })
      else none
  | .send _ _, .fails errno => some (.error errno, s)
  | .recv _, .receives data memory =>
      -- A short message leaves the rest of the variable as it was: not initialised.
      if data.length ≤ infoSize ∧ memory.length = infoSize ∧ data <+: memory then
        some (.ok (data.length, memory),
          { s with received := Function.update s.received s.call (s.received s.call ++ [data]) })
      else none
  | .recv _, .fails errno => some (.error errno, s)
  | .getFlags fd, .succeeds => (s.sockets fd).map fun socket => (.ok socket.flags, s)
  | .getFlags _, .fails errno => some (.error errno, s)
  | .setFlags fd flags, .succeeds =>
      (s.sockets fd).map fun socket => (.ok (), s.put fd { socket with flags })
  | .setFlags _ _, .fails errno =>
      some (.error errno, { s with flagsFailed := Function.update s.flagsFailed s.call true })
  | .pthreadCreate info, .succeeds =>
      some (.ok (), { s with created := Function.update s.created s.call (some info) })
  | .pthreadCreate _, .fails errno => some (.error errno, s)
  | .pthreadJoin, .succeeds => if s.exited s.call then some ((), s) else none
  | .sleepFor _, .succeeds => some ((), s)
  | .loadEstablished, .succeeds => some (s.established, s)
  | .storeEstablished value, .succeeds => some ((), { s with established := value })
  | .loadAccepting, .succeeds => some (s.accepting, s)
  | .storeAccepting fd, .succeeds => some ((), { s with accepting := fd })
  | .called, .calls arguments => some (arguments, { s with call := s.call + 1 })
  | .finish outcome, .succeeds =>
      some ((), { s with results := Function.update s.results s.call (some outcome) })
  | .started, .succeeds => if (s.created i).isSome then some ((), s) else none
  | .loadInfo, .succeeds =>
      if s.results i = none then (s.created i).map fun info => (info, s) else none
  | .loadInfo, .dangles memory => if s.results i = none then none else some (memory, s)
  | .exit, .succeeds => some ((), { s with exited := Function.update s.exited i true })
  | .terminate, .succeeds => some ((), { s with terminated := true })
  | _, _ => none

/-- Everything that an answer to thread `i` can be. -/
inductive Answers (i : Nat) (s : Process) : (call : Call) → call.Reply → Process → Prop where
  | socket (fd : Int) (free : s.Free fd) : Answers i s .socket (.ok fd) (s.put fd ⟨none, .idle, 0⟩)
  | noSocket (errno : Errno) : Answers i s .socket (.error errno) s
  | setsockopt (fd : Int) (option : SocketOption) (there : (s.sockets fd).isSome) :
      Answers i s (.setsockopt fd option) (.ok ()) s
  | noSetsockopt (fd : Int) (option : SocketOption) (errno : Errno) :
      Answers i s (.setsockopt fd option) (.error errno) s
  | bind (fd : Int) (port : List UInt8) (link : Link) (flags : BitVec 32)
      (there : s.sockets fd = some ⟨none, link, flags⟩) :
      Answers i s (.bind fd port) (.ok ()) (s.put fd ⟨some port, link, flags⟩)
  | noBind (fd : Int) (port : List UInt8) (errno : Errno) :
      Answers i s (.bind fd port) (.error errno) s
  | listen (fd : Int) (port : Option (List UInt8)) (flags : BitVec 32)
      (there : s.sockets fd = some ⟨port, .idle, flags⟩) :
      Answers i s (.listen fd) (.ok ()) (s.put fd ⟨port, .listening, flags⟩)
  | noListen (fd : Int) (errno : Errno) : Answers i s (.listen fd) (.error errno) s
  | accept (fd : Int) (port : Option (List UInt8)) (flags : BitVec 32) (new : Int)
      (peer : Utils.PeerConnectionData) (there : s.sockets fd = some ⟨port, .listening, flags⟩)
      (free : s.Free new) :
      Answers i s (.accept fd) (.ok new) { s.put new ⟨port, .connected peer, 0⟩ with
        accepted := Function.update s.accepted i (some new) }
  | noAccept (fd : Int) (errno : Errno) : Answers i s (.accept fd) (.error errno) s
  | connect (fd : Int) (address : Utils.PeerConnectionData) (socket socket' : Socket) (way : Way)
      (reply : Except Errno Unit) (there : s.sockets fd = some socket)
      (out : connect socket address way = some (reply, socket')) :
      Answers i s (.connect fd address) reply (s.put fd socket')
  | noConnect (fd : Int) (address : Utils.PeerConnectionData) (errno : Errno)
      (missing : s.sockets fd = none) (apart : errno ≠ .eisconn) :
      Answers i s (.connect fd address) (.error errno) s
  | send (fd : Int) (data : List UInt8) (count : Nat) :
      Answers i s (.send fd data) (.ok count)
        { s with sent := Function.update s.sent s.call (s.sent s.call ++ data.take count) }
  | noSend (fd : Int) (data : List UInt8) (errno : Errno) : Answers i s (.send fd data) (.error errno) s
  | recv (fd : Int) (data memory : List UInt8) (begins : data <+: memory) :
      Answers i s (.recv fd) (.ok (data.length, memory))
        { s with received := Function.update s.received s.call (s.received s.call ++ [data]) }
  | noRecv (fd : Int) (errno : Errno) : Answers i s (.recv fd) (.error errno) s
  | getFlags (fd : Int) (reply : Except Errno (BitVec 32)) : Answers i s (.getFlags fd) reply s
  | setFlags (fd : Int) (flags : BitVec 32) (socket : Socket) (there : s.sockets fd = some socket) :
      Answers i s (.setFlags fd flags) (.ok ()) (s.put fd { socket with flags })
  | noSetFlags (fd : Int) (flags : BitVec 32) (errno : Errno) :
      Answers i s (.setFlags fd flags) (.error errno)
        { s with flagsFailed := Function.update s.flagsFailed s.call true }
  | pthreadCreate (info : List UInt8) :
      Answers i s (.pthreadCreate info) (.ok ())
        { s with created := Function.update s.created s.call (some info) }
  | noThread (info : List UInt8) (errno : Errno) : Answers i s (.pthreadCreate info) (.error errno) s
  | pthreadJoin (finished : s.exited s.call = true) : Answers i s .pthreadJoin () s
  | sleepFor (milliseconds : Nat) : Answers i s (.sleepFor milliseconds) () s
  | loadEstablished : Answers i s .loadEstablished s.established s
  | storeEstablished (value : Bool) :
      Answers i s (.storeEstablished value) () { s with established := value }
  | loadAccepting : Answers i s .loadAccepting s.accepting s
  | storeAccepting (fd : Int) : Answers i s (.storeAccepting fd) () { s with accepting := fd }
  | called (arguments : Arguments) : Answers i s .called arguments { s with call := s.call + 1 }
  | finish (outcome : Except Thrown Int) :
      Answers i s (.finish outcome) ()
        { s with results := Function.update s.results s.call (some outcome) }
  | started (there : (s.created i).isSome) : Answers i s .started () s
  | loadInfo (info : List UInt8) (alive : s.results i = none → s.created i = some info) :
      Answers i s .loadInfo info s
  | exit : Answers i s .exit () { s with exited := Function.update s.exited i true }
  | terminate : Answers i s .terminate () { s with terminated := true }

theorem answers_of_answer {i : Nat} {way : Way} {s s' : Process} {call : Call} {reply : call.Reply}
    (answered : answer i way s call = some (reply, s')) : Answers i s call reply s' := by
  unfold answer at answered
  split at answered
  · cases answered
  cases call with
  | socket =>
      cases way with
      | opens fd =>
          obtain ⟨free, same⟩ := Option.ite_none_right_eq_some.mp answered
          cases same
          exact .socket fd free
      | fails errno => cases answered; exact .noSocket errno
      | _ => cases answered
  | setsockopt fd option =>
      cases way with
      | succeeds =>
          obtain ⟨there, same⟩ := Option.ite_none_right_eq_some.mp answered
          cases same
          exact .setsockopt fd option there
      | fails errno => cases answered; exact .noSetsockopt fd option errno
      | _ => cases answered
  | bind fd port =>
      cases way with
      | succeeds =>
          simp only at answered
          split at answered
          · rename_i link flags there
            cases answered
            exact .bind fd port link flags there
          · cases answered
      | fails errno => cases answered; exact .noBind fd port errno
      | _ => cases answered
  | listen fd =>
      cases way with
      | succeeds =>
          simp only at answered
          split at answered
          · rename_i port flags there
            cases answered
            exact .listen fd port flags there
          · cases answered
      | fails errno => cases answered; exact .noListen fd errno
      | _ => cases answered
  | accept fd =>
      cases way with
      | accepts new peer =>
          simp only at answered
          split at answered
          · rename_i port flags there
            obtain ⟨free, same⟩ := Option.ite_none_right_eq_some.mp answered
            cases same
            exact .accept fd port flags new peer there free
          · cases answered
      | fails errno => cases answered; exact .noAccept fd errno
      | _ => cases answered
  | connect fd address =>
      simp only at answered
      split at answered
      · rename_i socket there
        obtain ⟨⟨reply, socket'⟩, out, same⟩ := Option.map_eq_some_iff.mp answered
        cases same
        exact .connect fd address socket socket' way _ there out
      · rename_i missing
        split at answered
        · rename_i errno
          obtain ⟨apart, same⟩ := Option.ite_none_left_eq_some.mp answered
          cases same
          exact .noConnect fd address errno missing apart
        · cases answered
  | send fd data =>
      cases way with
      | sends count =>
          obtain ⟨-, same⟩ := Option.ite_none_right_eq_some.mp answered
          cases same
          exact .send fd data count
      | fails errno => cases answered; exact .noSend fd data errno
      | _ => cases answered
  | recv fd =>
      cases way with
      | receives data memory =>
          obtain ⟨⟨-, -, begins⟩, same⟩ := Option.ite_none_right_eq_some.mp answered
          cases same
          exact .recv fd data memory begins
      | fails errno => cases answered; exact .noRecv fd errno
      | _ => cases answered
  | getFlags fd =>
      cases way with
      | succeeds =>
          obtain ⟨socket, -, same⟩ := Option.map_eq_some_iff.mp answered
          cases same
          exact .getFlags fd _
      | fails errno => cases answered; exact .getFlags fd _
      | _ => cases answered
  | setFlags fd flags =>
      cases way with
      | succeeds =>
          obtain ⟨socket, there, same⟩ := Option.map_eq_some_iff.mp answered
          cases same
          exact .setFlags fd flags socket there
      | fails errno => cases answered; exact .noSetFlags fd flags errno
      | _ => cases answered
  | pthreadCreate info =>
      cases way with
      | succeeds => cases answered; exact .pthreadCreate info
      | fails errno => cases answered; exact .noThread info errno
      | _ => cases answered
  | pthreadJoin =>
      cases way with
      | succeeds =>
          obtain ⟨finished, same⟩ := Option.ite_none_right_eq_some.mp answered
          cases same
          exact .pthreadJoin finished
      | _ => cases answered
  | sleepFor milliseconds =>
      cases way with
      | succeeds => cases answered; exact .sleepFor milliseconds
      | _ => cases answered
  | loadEstablished =>
      cases way with
      | succeeds => cases answered; exact .loadEstablished
      | _ => cases answered
  | storeEstablished value =>
      cases way with
      | succeeds => cases answered; exact .storeEstablished value
      | _ => cases answered
  | loadAccepting =>
      cases way with
      | succeeds => cases answered; exact .loadAccepting
      | _ => cases answered
  | storeAccepting fd =>
      cases way with
      | succeeds => cases answered; exact .storeAccepting fd
      | _ => cases answered
  | called =>
      cases way with
      | calls arguments => cases answered; exact .called _
      | _ => cases answered
  | finish outcome =>
      cases way with
      | succeeds => cases answered; exact .finish outcome
      | _ => cases answered
  | started =>
      cases way with
      | succeeds =>
          obtain ⟨there, same⟩ := Option.ite_none_right_eq_some.mp answered
          cases same
          exact .started there
      | _ => cases answered
  | loadInfo =>
      cases way with
      | succeeds =>
          obtain ⟨-, found⟩ := Option.ite_none_right_eq_some.mp answered
          obtain ⟨info, created, same⟩ := Option.map_eq_some_iff.mp found
          cases same
          exact .loadInfo _ fun _ => created
      | dangles memory =>
          obtain ⟨finished, same⟩ := Option.ite_none_left_eq_some.mp answered
          cases same
          exact .loadInfo _ fun alive => absurd alive finished
      | _ => cases answered
  | exit =>
      cases way with
      | succeeds => cases answered; exact .exit
      | _ => cases answered
  | terminate =>
      cases way with
      | succeeds => cases answered; exact .terminate
      | _ => cases answered

/-- What happens to a socket that is connecting, while nobody asks. -/
inductive Handshake where
  | completes (fd : Int)
  | fails (fd : Int)

def background (s : Process) : Handshake → Option Process
  | .completes fd =>
      match s.sockets fd with
      | some ⟨port, .connecting peer, flags⟩ => some (s.put fd ⟨port, .connected peer, flags⟩)
      | _ => none
  | .fails fd =>
      match s.sockets fd with
      | some ⟨port, .connecting _, flags⟩ => some (s.put fd ⟨port, .idle, flags⟩)
      | _ => none

def rules : Team.Rules Nat Process Call.Reply Way Handshake where
  answer := answer
  background change s := background s change

end Process

end TCPunch.Client
