import TCPunch.Client.System
import TCPunch.Server.HolePunching

/-! # The C++ server from its start to its end

`main` of `server/hole_punching_server.cpp` reads a port, opens a socket and goes into its
loop, which an exception or a signal ends. A client that is sent away is closed; the `close` for
a client that is answered is commented out. So each answer costs a descriptor for good, and when
they are used up `accept` fails, even before there is a client, and takes the server with it.
-/

namespace TCPunch.HolePunchingServer

open Bytes

abbrev Errno := TCPunch.Client.Errno

/-! ## The port -/

/-- `isspace` -/
def isSpace (c : Char) : Bool := c = ' ' || ('\t' ≤ c && c ≤ '\r')

def longMax : Int := 2 ^ 63 - 1

def longMin : Int := -2 ^ 63

/-- What `strtol` returns, what it leaves the end pointer at, and whether it sets `errno`. -/
structure Strtol where
  value : Int
  rest : List Char
  erange : Bool
  deriving Repr, DecidableEq

/-- An optional sign. -/
def sign : List Char → Bool × List Char
  | '-' :: text => (true, text)
  | '+' :: text => (false, text)
  | text => (false, text)

/-- A value that fits into a `long`, or the nearest that does. -/
def clamp (value : Int) (rest : List Char) : Strtol :=
  if value > longMax then ⟨longMax, rest, true⟩
  else if value < longMin then ⟨longMin, rest, true⟩
  else ⟨value, rest, false⟩

/-- `strtol(text, &p, 10)` -/
def strtol (text : List Char) : Strtol :=
  let (negative, unsigned) := sign (text.dropWhile isSpace)
  let digits := unsigned.takeWhile Char.isDigit
  let magnitude : Int := Nat.ofDigitChars 10 digits 0
  if digits = [] then ⟨0, text, false⟩
  else clamp (if negative then -magnitude else magnitude) (unsigned.dropWhile Char.isDigit)

def defaultListenPort : Nat := 10000

/-- The port to listen on, or the text of the exception. `errno` is not cleared before the call
    of `strtol`. -/
def listenPort (errno : Option Errno) : List (List Char) → Except String Nat
  | [name, text] =>
      let input := strtol text
      if errno.isSome ∨ input.erange ∨ input.rest ≠ [] ∨ input.value > 65535 ∨ input.value < 1 then
        .error ("Usage: " ++ String.ofList name ++ " <port>")
      else .ok input.value.toNat
  | _ => .ok defaultListenPort

theorem clamp_of_fits {value : Int} (rest : List Char) (low : longMin ≤ value) (high : value ≤ longMax) :
    clamp value rest = ⟨value, rest, false⟩ := by
  unfold clamp
  rw [if_neg (Int.not_lt.mpr high), if_neg (Int.not_lt.mpr low)]

theorem clamp_of_erange {value : Int} {rest : List Char} (fits : (clamp value rest).erange = false) :
    clamp value rest = ⟨value, rest, false⟩ := by
  unfold clamp at fits
  split at fits
  · cases fits
  · rename_i high
    split at fits
    · cases fits
    · rename_i low
      exact clamp_of_fits rest (Int.not_lt.mp low) (Int.not_lt.mp high)

theorem not_isSpace_of_isDigit {c : Char} (digit : c.isDigit = true) : ¬ isSpace c = true := by
  intro space
  simp only [Char.isDigit, isSpace, Bool.and_eq_true, Bool.or_eq_true, decide_eq_true_eq, ge_iff_le] at digit space
  rcases space with rfl | ⟨-, high⟩
  · exact absurd digit.1 (by decide)
  · exact absurd (UInt32.le_trans digit.1 high) (by decide)

theorem sign_cases (text : List Char) :
    text = '-' :: (sign text).2 ∧ (sign text).1 = true ∨
      (text = '+' :: (sign text).2 ∨ text = (sign text).2) ∧ (sign text).1 = false := by
  unfold sign
  split
  · exact .inl ⟨rfl, rfl⟩
  · exact .inr ⟨.inl rfl, rfl⟩
  · exact .inr ⟨.inr rfl, rfl⟩

theorem sign_plus {plus digits : List Char} (signed : plus = [] ∨ plus = ['+'])
    (all : ∀ c ∈ digits, c.isDigit = true) : sign (plus ++ digits) = (false, digits) := by
  rcases signed with rfl | rfl
  · rw [List.nil_append]
    unfold sign
    split
    · exact absurd (all '-' (.head _)) (by decide)
    · exact absurd (all '+' (.head _)) (by decide)
    · rfl
  · rfl

theorem strtol_positive {text : List Char} (fits : (strtol text).erange = false)
    (positive : 1 ≤ (strtol text).value) :
    ∃ spaces plus digits, text = spaces ++ (plus ++ (digits ++ (strtol text).rest)) ∧
      (∀ c ∈ spaces, isSpace c = true) ∧ (plus = [] ∨ plus = ['+']) ∧
      (∀ c ∈ digits, c.isDigit = true) ∧ (strtol text).value = Nat.ofDigitChars 10 digits 0 := by
  have front : text.takeWhile isSpace ++ text.dropWhile isSpace = text := List.takeWhile_append_dropWhile
  have blank : ∀ c ∈ text.takeWhile isSpace, isSpace c = true := fun c member => List.mem_takeWhile_imp member
  unfold strtol at fits positive ⊢
  generalize text.dropWhile isSpace = after at fits positive front ⊢
  have split : (sign after).2.takeWhile Char.isDigit ++ (sign after).2.dropWhile Char.isDigit = (sign after).2 :=
    List.takeWhile_append_dropWhile
  have digits : ∀ c ∈ (sign after).2.takeWhile Char.isDigit, c.isDigit = true :=
    fun c member => List.mem_takeWhile_imp member
  dsimp only at fits positive ⊢
  by_cases none : (sign after).2.takeWhile Char.isDigit = []
  · simp only [none, if_true] at positive
    omega
  · simp only [if_neg none] at fits positive ⊢
    simp only [clamp_of_erange fits] at positive ⊢
    rcases sign_cases after with ⟨-, minus⟩ | ⟨plus, unsigned⟩
    · simp only [minus, if_true] at positive
      omega
    · simp only [unsigned]
      rcases plus with plus | plain
      · exact ⟨_, ['+'], _, by rw [split, List.singleton_append, ← plus, front], blank, .inr rfl, digits, rfl⟩
      · exact ⟨_, [], _, by rw [split, List.nil_append, ← plain, front], blank, .inl rfl, digits, rfl⟩

/-- A text of digits, with white space and a plus sign before them. -/
theorem strtol_digits {spaces plus digits : List Char} (blank : ∀ c ∈ spaces, isSpace c = true)
    (signed : plus = [] ∨ plus = ['+']) (all : ∀ c ∈ digits, c.isDigit = true) (some : digits ≠ [])
    (fits : (Nat.ofDigitChars 10 digits 0 : Int) ≤ longMax) :
    strtol (spaces ++ (plus ++ digits)) = ⟨Nat.ofDigitChars 10 digits 0, [], false⟩ := by
  have after : (spaces ++ (plus ++ digits)).dropWhile isSpace = plus ++ digits := by
    rw [List.dropWhile_append_of_pos blank]
    rcases signed with rfl | rfl
    · cases digits with
      | nil => exact absurd rfl some
      | cons d ds => exact List.dropWhile_cons_of_neg (not_isSpace_of_isDigit (all d (.head _)))
    · rfl
  have low : longMin ≤ (Nat.ofDigitChars 10 digits 0 : Int) := by
    unfold longMin
    omega
  have taken : digits.takeWhile Char.isDigit = digits := List.takeWhile_eq_self_iff.mpr all
  have left : digits.dropWhile Char.isDigit = [] := List.dropWhile_eq_nil_iff.mpr all
  unfold strtol
  rw [after, sign_plus signed all]
  simp only [taken, left, if_neg some]
  exact clamp_of_fits [] low fits

theorem listenPort_digits (name spaces plus : List Char) {digits : List Char} {port : Nat}
    (blank : ∀ c ∈ spaces, isSpace c = true) (signed : plus = [] ∨ plus = ['+'])
    (digit : ∀ c ∈ digits, c.isDigit = true) (range : 1 ≤ port ∧ port ≤ 65535)
    (value : Nat.ofDigitChars 10 digits 0 = port) :
    listenPort none [name, spaces ++ (plus ++ digits)] = .ok port := by
  have some : digits ≠ [] := by
    intro empty
    rw [empty, Nat.ofDigitChars_nil] at value
    omega
  have fits : (Nat.ofDigitChars 10 digits 0 : Int) ≤ longMax := by
    unfold longMax
    omega
  have accepted : ¬ ((none : Option Errno).isSome = true ∨ false = true ∨ ([] : List Char) ≠ [] ∨
      (port : Int) > 65535 ∨ (port : Int) < 1) := by
    simp
    omega
  unfold listenPort
  simp only [strtol_digits blank signed digit some fits, value]
  rw [if_neg accepted, Int.toNat_natCast]

/-- The server takes an argument for a port exactly if it is white space, perhaps a plus sign,
    and digits whose value is a port. -/
theorem port_accepted_iff (name text : List Char) (port : Nat) :
    listenPort none [name, text] = .ok port ↔
      (1 ≤ port ∧ port ≤ 65535) ∧
      ∃ spaces plus digits, text = spaces ++ (plus ++ digits) ∧ (∀ c ∈ spaces, isSpace c = true) ∧
        (plus = [] ∨ plus = ['+']) ∧ (∀ c ∈ digits, c.isDigit = true) ∧
        Nat.ofDigitChars 10 digits 0 = port := by
  constructor
  · intro accepted
    unfold listenPort at accepted
    dsimp only at accepted
    split at accepted
    · cases accepted
    · rename_i fine
      simp only [not_or, Option.isSome_none, Bool.not_eq_true, Bool.false_eq_true, not_false_eq_true,
        true_and, ne_eq, not_not] at fine
      obtain ⟨fits, all, high, low⟩ := fine
      obtain ⟨spaces, plus, digits, text, blank, signed, digit, value⟩ := strtol_positive fits (by omega)
      rw [all, List.append_nil] at text
      rw [Except.ok.injEq] at accepted
      refine ⟨by omega, spaces, plus, digits, text, blank, signed, digit, ?_⟩
      omega
  · intro accepted
    obtain ⟨range, spaces, plus, digits, rfl, blank, signed, digit, value⟩ := accepted
    exact listenPort_digits name spaces plus blank signed digit range value

/-! ## Descriptors -/

section

variable {limit : Nat}

/-- The lowest descriptor below the limit that is not open, and the open ones with it. -/
def allocate (opened : Finset (Fin limit)) : Option (Fin limit × Finset (Fin limit)) :=
  ((List.finRange limit).find? (· ∉ opened)).map fun fd => (fd, insert fd opened)

theorem allocate_eq_none_iff {opened : Finset (Fin limit)} : allocate opened = none ↔ opened.card = limit := by
  unfold allocate
  rw [Option.map_eq_none_iff, List.find?_eq_none]
  constructor
  · intro all
    have full : opened = Finset.univ := by
      ext fd
      simpa using all fd (List.mem_finRange fd)
    rw [full, Finset.card_univ, Fintype.card_fin]
  · intro full fd _
    have all := (Finset.card_eq_iff_eq_univ opened).mp (full.trans (Fintype.card_fin limit).symm)
    simp [all]

theorem allocate_fresh {opened after : Finset (Fin limit)} {fd : Fin limit}
    (allocated : allocate opened = some (fd, after)) : fd ∉ opened ∧ after = insert fd opened := by
  unfold allocate at allocated
  rw [Option.map_eq_some_iff] at allocated
  obtain ⟨found, first, same⟩ := allocated
  cases same
  exact ⟨by simpa using List.find?_some first, rfl⟩

/-! ## The process -/

/-- What the process ends with. -/
inductive Ending where
  /-- An exception leaves `main`. -/
  | threw (exception : TCPunch.Client.Thrown)
  /-- `SIGPIPE` -/
  | killed
  /-- The pairing name leaves its buffer; what happens then is not defined. -/
  | undefined
  deriving Repr, DecidableEq

/-- What the server finds when it starts, and what the calls before its loop return. -/
structure Startup (limit : Nat) where
  argv : List (List Char)
  errno : Option Errno
  /-- The descriptors that are open already. -/
  inherited : Finset (Fin limit)
  socket : Except Errno Unit
  setsockopt : Except Errno Unit
  bind : Except Errno Unit
  listen : Except Errno Unit

/-- The server in its loop. -/
structure Server (limit : Nat) where
  listenPort : Nat
  serverSocket : Fin limit
  opened : Finset (Fin limit)
  /-- The sockets of the clients that were answered, the latest first. -/
  answered : List (Fin limit)
  printed : List (List UInt8)

variable (strerror : Errno → String)

def errorExitErrno (message : String) : Errno → Ending
  | .eagain | .ewouldblock => .threw .timeout
  | errno => .threw (.runtimeError (message ++ strerror errno))

/-- `EMFILE` -/
def emfile : Errno := .other 24

/-- A descriptor for a new socket, if one is left. -/
def newDescriptor (message : String) (opened : Finset (Fin limit)) :
    Except Ending (Fin limit × Finset (Fin limit)) :=
  match allocate opened with
  | none => .error (errorExitErrno strerror message emfile)
  | some both => .ok both

/-- `main` up to its loop. -/
def Startup.start (startup : Startup limit) : Except Ending (Server limit) := do
  let port ← (HolePunchingServer.listenPort startup.errno startup.argv).mapError
    fun usage => .threw (.runtimeError usage)
  startup.socket.mapError (errorExitErrno strerror "Error when creating socket: ")
  let (serverSocket, opened) ← newDescriptor strerror "Error when creating socket: " startup.inherited
  startup.setsockopt.mapError (errorExitErrno strerror "Setting REUSEADDR failed: ")
  startup.bind.mapError (errorExitErrno strerror "Error on bind: ")
  startup.listen.mapError (errorExitErrno strerror "Listening failed: ")
  return {
    listenPort := port
    serverSocket
    opened
    answered := []
    printed := [ofString ("Listening for connections on port: " ++ toString port)] }

/-- `accept` up to where it waits. Linux sets the descriptor aside first, and without one the call
    fails at once. -/
def Server.await (server : Server limit) : Except Ending (Fin limit × Finset (Fin limit)) :=
  newDescriptor strerror "Accepting clients failed: " server.opened

/-- A turn of the loop, with what `accept` returns when it has waited. -/
def Server.accept (server : Server limit) (arrival : Except Errno Client) : Except Ending (Server limit) := do
  let (clientSocket, opened) ← server.await strerror
  let client ← arrival.mapError (errorExitErrno strerror "Accepting clients failed: ")
  match turn client with
  | none => throw .undefined
  | some turn =>
      let printed := server.printed ++ turn.printed
      if turn.killed then
        throw .killed
      else if turn.closed then
        return { server with opened := opened.erase clientSocket, printed }
      else
        return { server with opened, answered := clientSocket :: server.answered, printed }

def Server.loop : Server limit → List (Except Errno Client) → Except Ending (Server limit)
  | server, [] => do
      let _ ← server.await strerror
      return server
  | server, arrival :: arrivals => do
      let server ← server.accept strerror arrival
      server.loop arrivals

/-- `main`, until it waits for the next client or ends. -/
def main (startup : Startup limit) (arrivals : List (Except Errno Client)) : Except Ending (Server limit) := do
  let server ← startup.start strerror
  server.loop strerror arrivals

/-! ## One turn -/

/-- The server finds what it looks for in the client's message. -/
def Client.Answered (client : Client) : Prop := marker <:+: untilNul client.received.message

instance (client : Client) : Decidable client.Answered :=
  inferInstanceAs (Decidable (marker <:+: untilNul client.received.message))

/-- The reply to the client ends the process. -/
def Client.Kills (client : Client) : Prop := client.Answered ∧ client.sending = .brokenPipe

instance (client : Client) : Decidable client.Kills :=
  inferInstanceAs (Decidable (client.Answered ∧ client.sending = .brokenPipe))

theorem flags_of_turn {client : Client} {after : Turn} (turned : turn client = some after) :
    (after.closed = true ↔ ¬ client.Answered) ∧ (after.killed = true ↔ client.Kills) := by
  have ends : client.received.Terminated := (isSome_turn client).mp (Option.isSome_of_eq_some turned)
  have name := pairingName_eq_some ends
  rw [untilNul_field_of_le client.received.length_message_le] at name
  rw [turn_eq ends name] at turned
  unfold Client.Kills Client.Answered
  split at turned
  · rename_i found
    obtain ⟨printed, replied⟩ := reply_eq client (untilNul client.received.message)
    rw [replied] at turned
    cases turned
    simp [found]
  · rename_i missing
    cases turned
    simp [missing, hangUp]

variable {strerror}

theorem ok_of_bind {α β : Type} {first : Except Ending α} {next : α → Except Ending β} {b : β}
    (ends : (first >>= next) = .ok b) : ∃ a, first = .ok a ∧ next a = .ok b := by
  cases first with
  | error ending => cases ends
  | ok a => exact ⟨a, rfl, ends⟩

theorem newDescriptor_eq_ok {message : String} {opened after : Finset (Fin limit)} {fd : Fin limit}
    (given : newDescriptor strerror message opened = .ok (fd, after)) :
    allocate opened = some (fd, after) := by
  unfold newDescriptor at given
  split at given
  · cases given
  · rename_i allocated
    cases given
    exact allocated

/-- A client takes a descriptor, and one that is not answered gives it back. -/
structure Server.Takes (server : Server limit) (client : Client) (fd : Fin limit) (after : Server limit) : Prop where
  fresh : fd ∉ server.opened
  port : after.listenPort = server.listenPort
  socket : after.serverSocket = server.serverSocket
  kept : client.Answered → after.opened = insert fd server.opened ∧ after.answered = fd :: server.answered
  closed : ¬ client.Answered → after.opened = server.opened ∧ after.answered = server.answered

variable (strerror) in
theorem Server.accept_eq (server : Server limit) {client : Client} {fd : Fin limit}
    {opened : Finset (Fin limit)} (allocated : allocate server.opened = some (fd, opened))
    (ends : client.received.Terminated) :
    if client.Kills then server.accept strerror (.ok client) = .error .killed
    else ∃ next, server.accept strerror (.ok client) = .ok next ∧ server.Takes client fd next := by
  obtain ⟨fresh, rfl⟩ := allocate_fresh allocated
  obtain ⟨after, turned⟩ := Option.isSome_iff_exists.mp ((isSome_turn client).mpr ends)
  obtain ⟨closed, killed⟩ := flags_of_turn turned
  simp only [Server.accept, Server.await, newDescriptor, allocated, turned, bind, Except.bind, Except.mapError]
  by_cases kills : client.Kills
  · rw [if_pos kills, if_pos (killed.mpr kills)]
    rfl
  · rw [if_neg kills, if_neg (killed.not.mpr kills)]
    by_cases answered : client.Answered
    · rw [if_neg (closed.not.mpr (not_not.mpr answered))]
      exact ⟨_, rfl, fresh, rfl, rfl, fun _ => ⟨rfl, rfl⟩, fun missing => absurd answered missing⟩
    · rw [if_pos (closed.mpr answered)]
      exact ⟨_, rfl, fresh, rfl, rfl, fun found => absurd found answered,
        fun _ => ⟨Finset.erase_insert fresh, rfl⟩⟩

theorem Server.accept_cases {server after : Server limit} {arrival : Except Errno Client}
    (accepted : server.accept strerror arrival = .ok after) :
    ∃ client fd, arrival = .ok client ∧ server.Takes client fd after := by
  obtain ⟨⟨fd, opened⟩, given, rest⟩ := ok_of_bind accepted
  have allocated := newDescriptor_eq_ok given
  cases arrival with
  | error errno => cases rest
  | ok client =>
      by_cases ends : client.received.Terminated
      · have outcome := server.accept_eq strerror allocated ends
        split at outcome
        · cases outcome.symm.trans accepted
        · obtain ⟨next, same, takes⟩ := outcome
          cases same.symm.trans accepted
          exact ⟨client, fd, rfl, takes⟩
      · have unread : turn client = none := by
          rw [← Option.not_isSome_iff_eq_none, isSome_turn]
          exact ends
        simp only [Except.mapError, bind, Except.bind, unread] at rest
        cases rest

/-! ## Whole runs -/

/-- What is open: what the process started with, its own socket, and the clients that were answered. -/
structure Books (inherited : Finset (Fin limit)) (server : Server limit) : Prop where
  opened : server.opened = inherited ∪ (server.serverSocket :: server.answered).toFinset
  fresh : ∀ fd ∈ server.serverSocket :: server.answered, fd ∉ inherited
  apart : (server.serverSocket :: server.answered).Nodup

theorem Books.card {inherited : Finset (Fin limit)} {server : Server limit} (books : Books inherited server) :
    server.opened.card = inherited.card + 1 + server.answered.length := by
  have separate : Disjoint inherited (server.serverSocket :: server.answered).toFinset := by
    rw [Finset.disjoint_right]
    intro fd member
    exact books.fresh fd (List.mem_toFinset.mp member)
  rw [books.opened, Finset.card_union_of_disjoint separate, List.toFinset_card_of_nodup books.apart,
    List.length_cons]
  omega

theorem Books.takes {inherited : Finset (Fin limit)} {server after : Server limit} {client : Client}
    {fd : Fin limit} (books : Books inherited server) (takes : server.Takes client fd after) :
    Books inherited after := by
  by_cases answered : client.Answered
  · obtain ⟨opened, latest⟩ := takes.kept answered
    have unused := takes.fresh
    rw [books.opened, Finset.mem_union, List.mem_toFinset, not_or] at unused
    refine ⟨?_, ?_, ?_⟩
    · rw [opened, books.opened, takes.socket, latest]
      ext other
      simp only [Finset.mem_insert, Finset.mem_union, List.mem_toFinset, List.mem_cons]
      tauto
    · rw [takes.socket, latest]
      intro other member
      simp only [List.mem_cons] at member
      rcases member with rfl | rfl | member
      · exact books.fresh _ (.head _)
      · exact unused.1
      · exact books.fresh other (.tail _ member)
    · rw [takes.socket, latest]
      exact (List.Perm.swap ..).nodup_iff.mp (List.nodup_cons.mpr ⟨unused.2, books.apart⟩)
  · obtain ⟨opened, same⟩ := takes.closed answered
    refine ⟨?_, ?_, ?_⟩
    · rw [opened, takes.socket, same]
      exact books.opened
    · rw [takes.socket, same]
      exact books.fresh
    · rw [takes.socket, same]
      exact books.apart

/-- `accept` returns a client that is answered. -/
def Answers : Except Errno Client → Bool
  | .ok client => client.Answered
  | .error _ => false

theorem Server.Takes.length_answered {server after : Server limit} {client : Client} {fd : Fin limit}
    (takes : server.Takes client fd after) :
    after.answered.length = server.answered.length + if client.Answered then 1 else 0 := by
  by_cases answered : client.Answered
  · rw [(takes.kept answered).2, if_pos answered, List.length_cons]
  · rw [(takes.closed answered).2, if_neg answered, Nat.add_zero]

theorem Server.loop_books {inherited : Finset (Fin limit)} {server final : Server limit}
    {arrivals : List (Except Errno Client)} (books : Books inherited server)
    (runs : server.loop strerror arrivals = .ok final) :
    Books inherited final ∧ final.answered.length = server.answered.length + arrivals.countP Answers := by
  induction arrivals generalizing server with
  | nil =>
      obtain ⟨_, -, waits⟩ := ok_of_bind runs
      cases waits
      exact ⟨books, rfl⟩
  | cons arrival arrivals ih =>
      obtain ⟨after, accepted, onward⟩ := ok_of_bind runs
      obtain ⟨client, fd, rfl, takes⟩ := accept_cases accepted
      obtain ⟨books, count⟩ := ih (books.takes takes) onward
      refine ⟨books, ?_⟩
      rw [count, takes.length_answered, List.countP_cons]
      simp only [Answers, decide_eq_true_eq]
      omega

theorem Startup.start_books {startup : Startup limit} {server : Server limit}
    (started : startup.start strerror = .ok server) : Books startup.inherited server ∧ server.answered = [] := by
  obtain ⟨port, -, started⟩ := ok_of_bind started
  obtain ⟨_, -, started⟩ := ok_of_bind started
  obtain ⟨⟨fd, opened⟩, given, started⟩ := ok_of_bind started
  obtain ⟨_, -, started⟩ := ok_of_bind started
  obtain ⟨_, -, started⟩ := ok_of_bind started
  obtain ⟨_, -, started⟩ := ok_of_bind started
  obtain ⟨fresh, rfl⟩ := allocate_fresh (newDescriptor_eq_ok given)
  cases started
  refine ⟨⟨?_, ?_, List.nodup_singleton fd⟩, rfl⟩
  · ext other
    simp
  · intro other member
    rw [List.mem_singleton.mp member]
    exact fresh

/-- Whatever comes: as long as the server runs, it holds the descriptor of every client that it
    has answered, each its own, and never has more of them than the limit leaves. -/
theorem answered_sockets_stay_open {startup : Startup limit} {arrivals : List (Except Errno Client)}
    {server : Server limit} (runs : main strerror startup arrivals = .ok server) :
    Books startup.inherited server ∧ server.answered.length = arrivals.countP Answers ∧
      startup.inherited.card + 1 + arrivals.countP Answers ≤ limit := by
  obtain ⟨first, started, runs⟩ := ok_of_bind runs
  obtain ⟨books, none⟩ := Startup.start_books started
  obtain ⟨books, count⟩ := Server.loop_books books runs
  rw [none, List.length_nil, Nat.zero_add] at count
  refine ⟨books, count, ?_⟩
  calc startup.inherited.card + 1 + arrivals.countP Answers
    _ = server.opened.card := by rw [books.card, count]
    _ ≤ limit := by simpa using Finset.card_le_univ server.opened

/-- A server that starts with its console and may have as many descriptors. -/
def fromConsole (limit : Nat) (inherited : Finset (Fin limit)) : Startup limit where
  argv := ["server".toList]
  errno := none
  inherited
  socket := .ok ()
  setsockopt := .ok ()
  bind := .ok ()
  listen := .ok ()

/-- A client with this message. -/
def sends (message : List UInt8) (fits : message.length ≤ maxPairingName) : Client where
  address := ⟨⟨10, 0, 0, 1⟩, 4001⟩
  received := .bytes message fits
  padding := (0, 0)
  sending := .done

/-- One client is answered, and the next is sent away. -/
theorem answered_socket_stays_open :
    let strerror : Errno → String := fun _ => "Too many open files"
    let startup := fromConsole 6 {0, 1, 2}
    let arrivals := [.ok (sends marker (by decide)), .ok (sends [97] (by decide))]
    ∃ server, main strerror startup arrivals = .ok server ∧ server.opened = {0, 1, 2, 3, 4} ∧
      Books startup.inherited server ∧ server.answered.length = arrivals.countP Answers ∧
        startup.inherited.card + 1 + arrivals.countP Answers ≤ 6 := by
  intro strerror startup arrivals
  have runs : (main strerror startup arrivals).toOption.map Server.opened = some {0, 1, 2, 3, 4} := by
    decide +kernel
  cases outcome : main strerror startup arrivals with
  | error ending =>
      rw [outcome] at runs
      cases runs
  | ok server =>
      rw [outcome] at runs
      exact ⟨server, rfl, Option.some.inj runs, answered_sockets_stay_open outcome⟩

theorem Server.Takes.card_opened {server after : Server limit} {client : Client} {fd : Fin limit}
    (takes : server.Takes client fd after) :
    after.opened.card = server.opened.card + if client.Answered then 1 else 0 := by
  by_cases answered : client.Answered
  · rw [(takes.kept answered).1, if_pos answered, Finset.card_insert_of_notMem takes.fresh]
  · rw [(takes.closed answered).1, if_neg answered, Nat.add_zero]

variable (strerror) in
theorem Server.await_eq (server : Server limit) :
    if server.opened.card < limit then ∃ both, allocate server.opened = some both ∧ server.await strerror = .ok both
    else server.await strerror = .error (errorExitErrno strerror "Accepting clients failed: " emfile) := by
  have bound : server.opened.card ≤ limit := by simpa using Finset.card_le_univ server.opened
  cases allocated : allocate server.opened with
  | none =>
      have full := allocate_eq_none_iff.mp allocated
      rw [if_neg (by omega)]
      simp only [Server.await, newDescriptor, allocated]
  | some both =>
      have free : server.opened.card ≠ limit := by
        intro full
        rw [allocate_eq_none_iff.mpr full] at allocated
        cases allocated
      rw [if_pos (by omega)]
      exact ⟨both, rfl, by simp only [Server.await, newDescriptor, allocated]⟩

variable (strerror) in
theorem Server.loop_full (server : Server limit) (full : ¬ server.opened.card < limit)
    (arrivals : List (Except Errno Client)) :
    server.loop strerror arrivals = .error (errorExitErrno strerror "Accepting clients failed: " emfile) := by
  have waits := server.await_eq strerror
  rw [if_neg full] at waits
  cases arrivals with
  | nil => simp only [Server.loop, waits, bind, Except.bind]
  | cons arrival arrivals => simp only [Server.loop, Server.accept, waits, bind, Except.bind]

/-- Clients whose messages are terminated, and none of whom ends the process. -/
def Orderly (clients : List Client) : Prop := ∀ client ∈ clients, client.received.Terminated ∧ ¬ client.Kills

instance (clients : List Client) : Decidable (Orderly clients) :=
  inferInstanceAs (Decidable (∀ client ∈ clients, client.received.Terminated ∧ ¬ client.Kills))

variable (strerror) in
/-- The loop gets through its clients if they leave a descriptor, and ends among them otherwise. -/
theorem Server.loop_append {clients : List Client} (orderly : Orderly clients) (server : Server limit) :
    if server.opened.card + clients.countP (fun client => client.Answered) < limit then
      ∃ middle : Server limit, middle.opened.card < limit ∧
        ∀ arrivals, server.loop strerror (clients.map .ok ++ arrivals) = middle.loop strerror arrivals
    else
      ∀ arrivals, server.loop strerror (clients.map .ok ++ arrivals) =
        .error (errorExitErrno strerror "Accepting clients failed: " emfile) := by
  induction clients generalizing server with
  | nil =>
      split
      · rename_i room
        exact ⟨server, room, fun _ => rfl⟩
      · rename_i full
        exact server.loop_full strerror full
  | cons client clients ih =>
      rw [List.countP_cons]
      simp only [decide_eq_true_eq]
      obtain ⟨ends, harmless⟩ := orderly client (.head _)
      by_cases free : server.opened.card < limit
      · have waits := server.await_eq strerror
        rw [if_pos free] at waits
        obtain ⟨both, allocated, -⟩ := waits
        have turned := server.accept_eq strerror allocated ends
        rw [if_neg harmless] at turned
        obtain ⟨next, accepted, takes⟩ := turned
        have used : next.opened.card + clients.countP (fun client => client.Answered) =
            server.opened.card + (clients.countP (fun client => client.Answered) +
              if client.Answered then 1 else 0) := by
          rw [takes.card_opened]
          omega
        have onward : ∀ arrivals, server.loop strerror ((client :: clients).map .ok ++ arrivals) =
            next.loop strerror (clients.map .ok ++ arrivals) := by
          intro arrivals
          rw [List.map_cons, List.cons_append, Server.loop, accepted]
          rfl
        simp only [← used, onward]
        exact ih (fun other member => orderly other (.tail _ member)) next
      · rw [if_neg (by omega)]
        exact fun arrivals => server.loop_full strerror free _

/-- A server that has started gets through a sequence of clients, each with a terminated message
    and none of whom breaks the pipe, and waits for the next, exactly if those that it answers leave
    a descriptor. Otherwise `accept` fails and an exception ends it. After such clients, the first
    that is answered and breaks the pipe ends it by a signal. -/
theorem answers_until_full {startup : Startup limit} {server : Server limit}
    (started : startup.start strerror = .ok server) {clients : List Client} (orderly : Orderly clients) :
    if startup.inherited.card + 1 + clients.countP (fun client => client.Answered) < limit then
      (∃ final, main strerror startup (clients.map .ok) = .ok final) ∧
        ∀ client arrivals, client.received.Terminated → client.Kills →
          main strerror startup (clients.map .ok ++ .ok client :: arrivals) = .error .killed
    else
      ∀ arrivals, main strerror startup (clients.map .ok ++ arrivals) =
        .error (.threw (.runtimeError ("Accepting clients failed: " ++ strerror emfile))) := by
  obtain ⟨books, none⟩ := Startup.start_books started
  have used := books.card
  rw [none, List.length_nil, Nat.add_zero] at used
  have runs : ∀ arrivals, main strerror startup arrivals = server.loop strerror arrivals := by
    intro arrivals
    unfold main
    rw [started]
    rfl
  have outcome := server.loop_append strerror orderly
  rw [used] at outcome
  split
  · rename_i room
    rw [if_pos room] at outcome
    obtain ⟨middle, free, onward⟩ := outcome
    have waits := middle.await_eq strerror
    rw [if_pos free] at waits
    obtain ⟨both, allocated, waits⟩ := waits
    constructor
    · refine ⟨middle, ?_⟩
      rw [runs, ← List.append_nil (clients.map _), onward, Server.loop, waits]
      rfl
    · intro client arrivals ends kills
      have turned := middle.accept_eq strerror allocated ends
      rw [if_pos kills] at turned
      rw [runs, onward, Server.loop, turned]
      rfl
  · rename_i full
    rw [if_neg full] at outcome
    intro arrivals
    rw [runs, outcome]
    rfl

/-- With six descriptors two answers are one too many: the second client takes the last of them,
    and the server ends before there is a third. -/
theorem second_answer_is_one_too_many :
    let strerror : Errno → String := fun _ => "Too many open files"
    let startup := fromConsole 6 {0, 1, 2}
    let clients := [sends marker (by decide), sends marker (by decide)]
    Orderly clients ∧ (∃ server, startup.start strerror = .ok server) ∧
      main strerror startup (clients.map .ok) =
        .error (.threw (.runtimeError "Accepting clients failed: Too many open files")) ∧
      main strerror startup [.ok (sends marker (by decide)),
        .ok { sends marker (by decide) with sending := .brokenPipe }] = .error .killed := by
  intro strerror startup clients
  have orderly : Orderly clients := by decide +kernel
  have one : Orderly [sends marker (by decide)] := by decide +kernel
  obtain ⟨server, start⟩ : ∃ server, startup.start strerror = .ok server := ⟨_, rfl⟩
  have full := answers_until_full start orderly
  rw [if_neg (by decide +kernel)] at full
  have room := answers_until_full start one
  rw [if_pos (by decide +kernel)] at room
  refine ⟨orderly, ⟨server, start⟩, ?_, room.2 _ [] ?_ ?_⟩
  · have ends := full []
    rwa [List.append_nil] at ends
  · decide +kernel
  · decide +kernel

end

end TCPunch.HolePunchingServer
