import TCPunch.Protocol.Utils

/-! # The C++ server

`server/hole_punching_server.cpp` tells every client the address that it saw. It receives at
most a hundred bytes into a buffer of a hundred zeros and takes the C string that starts
there for the pairing name. A message that fills the buffer without a NUL leaves none behind
it either, and the string then goes on where the buffer ends.
-/

namespace TCPunch.HolePunchingServer

open Bytes Utils

/-- What `pairing_name.find` looks for. -/
def marker : List UInt8 := ofString "cylon"

/-- What `recv` did, asked for `MAX_PAIRING_NAME` bytes. -/
inductive Received where
  /-- It returned -1; the text is that of `errno`. -/
  | failed (error : String)
  /-- It put these bytes at the front of the buffer, none if the client has gone. -/
  | bytes (message : List UInt8) (fits : message.length ≤ maxPairingName)

namespace Received

def message : Received → List UInt8
  | failed _ => []
  | bytes message _ => message

theorem length_message_le (received : Received) : received.message.length ≤ maxPairingName := by
  cases received with
  | failed error => exact Nat.zero_le _
  | bytes message fits => exact fits

/-- There is a NUL behind the message or in it. -/
def Terminated (received : Received) : Prop :=
  received.message.length < maxPairingName ∨ 0 ∈ received.message

instance (received : Received) : Decidable received.Terminated :=
  inferInstanceAs (Decidable (received.message.length < maxPairingName ∨ 0 ∈ received.message))

end Received

/-- What `send` did. -/
inductive Sending where
  | done
  /-- It returned -1, and not with `EPIPE`; the text is that of `errno`. -/
  | failed (error : String)
  /-- It failed with `EPIPE`. It has no flags and nobody handles `SIGPIPE`, so the signal ends the
      process before the call returns. -/
  | brokenPipe
  deriving Repr, DecidableEq

/-- The client of one turn of the accept loop, with what the system calls return for it. -/
structure Client where
  address : TCPunch.PeerConnectionData
  received : Received
  /-- The two bytes behind the port in a `PeerConnectionData`, which nothing sets. -/
  padding : UInt8 × UInt8
  sending : Sending

/-- What a turn of the loop prints and hands to `send`, whether it closes the socket, and whether
    the process ends in it. -/
structure Turn where
  printed : List (List UInt8)
  sent : Option (List UInt8)
  closed : Bool
  killed : Bool
  deriving Repr, DecidableEq

/-- `client_msg_buffer` after `recv`. -/
def clientMsgBuffer (received : Received) : Option (List UInt8) :=
  overwrite (zeros maxPairingName) 0 received.message

/-- `std::string(client_msg_buffer)` -/
def pairingName (received : Received) : Option (List UInt8) := do
  cString (← clientMsgBuffer received)

/-- A message to the console, and the end of the connection. -/
def hangUp (text : String) : Turn :=
  { printed := [ofString text], sent := none, closed := true, killed := false }

def ipToString (ip : Ipv4Addr) : String := ".".intercalate (ip.octets.map fun octet => toString octet.toNat)

/-- The bytes of `info` in memory. -/
def Client.info (client : Client) : List UInt8 :=
  (inMemory client.address).ip ++ (inMemory client.address).port ++ [client.padding.1, client.padding.2]

/-- The end of a turn: the client's own address goes back to it, and the socket stays open. -/
def reply (client : Client) (name : List UInt8) : Option Turn := do
  let request := ofString "Connection request from client with pairing name: " ++ name
  let buffer ← memcpy (zeros maxPairingName) 0 client.info client.info.length
  let sent ← slice buffer 0 client.info.length
  let outcome := match client.sending with
    | .done => [ofString "Replied to client with pairing name: " ++ name ++ ofString (" " ++
        ipToString client.address.ip ++ ":" ++ toString client.address.port.toNat)]
    | .failed error => [ofString ("Error when replying: " ++ error)]
    | .brokenPipe => []
  return { printed := request :: outcome, sent := some sent, closed := false
           killed := client.sending = .brokenPipe }

/-- A turn of the accept loop. -/
def turn (client : Client) : Option Turn := do
  let name ← pairingName client.received
  if ¬ marker <:+: name then
    return hangUp "could not find cylon in pairing name"
  match client.received with
  | .bytes [] _ => return hangUp "Client has disconnected"
  | .failed error => return hangUp ("Recv failed: " ++ error)
  | .bytes (_ :: _) _ => reply client name

/-- The accept loop, for the clients that come one after the other. -/
def acceptLoop : List Client → Option (List Turn)
  | [] => some []
  | client :: clients => do
      let first ← turn client
      if first.killed then
        return [first]
      let others ← acceptLoop clients
      return first :: others

/-! ## The pairing name -/

theorem clientMsgBuffer_eq (received : Received) :
    clientMsgBuffer received = some (field maxPairingName received.message) := by
  have filled := overwrite_zeros (a := []) (n := maxPairingName) rfl received.length_message_le
  exact filled

theorem pairingName_eq_some {received : Received} (ends : received.Terminated) :
    pairingName received = some (untilNul (field maxPairingName received.message)) := by
  rw [pairingName, clientMsgBuffer_eq, Option.bind_eq_bind, Option.bind_some, cString_eq,
    if_pos (zero_mem_field.mpr ends)]

theorem isSome_pairingName (received : Received) :
    (pairingName received).isSome ↔ received.Terminated := by
  rw [pairingName, clientMsgBuffer_eq, Option.bind_eq_bind, Option.bind_some, isSome_cString,
    zero_mem_field, Received.Terminated]

/-! ## The accept loop -/

theorem reply_eq (client : Client) (name : List UInt8) :
    ∃ printed, reply client name = some { printed, sent := some client.info, closed := false
                                          killed := client.sending = .brokenPipe } :=
  ⟨_, rfl⟩

theorem message_ne_nil {received : Received}
    (found : marker <:+: untilNul (field maxPairingName received.message)) : received.message ≠ [] := by
  intro empty
  rw [empty, field_nil, untilNul_zeros, List.infix_nil] at found
  revert found
  decide +kernel

/-- A turn for a terminated message. The two texts for a client that sent nothing are never
    printed: its name is empty, and the search for the marker has already failed. -/
theorem turn_eq {client : Client} {name : List UInt8} (ends : client.received.Terminated)
    (read : pairingName client.received = some name) :
    turn client =
      if marker <:+: name then reply client name
      else some (hangUp "could not find cylon in pairing name") := by
  have text := Option.some.inj (read.symm.trans (pairingName_eq_some ends))
  rw [turn, read, Option.bind_eq_bind, Option.bind_some]
  by_cases found : marker <:+: name
  · have some := message_ne_nil (text ▸ found)
    simp only [found, not_true_eq_false, if_false, if_true]
    cases received : client.received with
    | failed error => simp [received, Received.message] at some
    | bytes message fits =>
        cases message with
        | nil => simp [received, Received.message] at some
        | cons first rest => rfl
  · simp [found]

/-- Nothing but the name can leave its buffer. -/
theorem isSome_turn (client : Client) : (turn client).isSome ↔ client.received.Terminated := by
  constructor
  · intro finished
    rw [turn, Option.bind_eq_bind] at finished
    exact (isSome_pairingName _).mp (Option.isSome_of_isSome_bind finished)
  · intro ends
    rw [turn_eq ends (pairingName_eq_some ends)]
    split
    · obtain ⟨printed, replied⟩ := reply_eq client _
      rw [replied, Option.isSome_some]
    · rfl

/-! ## Strings that end inside their buffer -/

/-- The token of a response ends inside its buffer, whatever is behind the buffer, exactly when
    a NUL stands somewhere behind the two addresses. The pairing name of a client ends inside
    its buffer exactly when the message does not fill it or brings a NUL of its own. -/
theorem strings_end_inside_iff (data beyond : List UInt8) (out : Parsed)
    (long : serverResponseSize ≤ data.length) (received : Received) :
    ((∃ parsed, parseServerResponse (data ++ beyond) data.length out = some (true, parsed) ∧
        13 + parsed.token.length < data.length) ↔
      ∃ i, 13 ≤ i ∧ i < data.length ∧ data[i]? = some 0) ∧
    ((pairingName received).isSome ↔
      received.message.length < maxPairingName ∨ 0 ∈ received.message) := by
  constructor
  · rw [token_ends_within long, List.mem_iff_getElem?]
    constructor
    · rintro ⟨i, here⟩
      rw [List.getElem?_drop] at here
      exact ⟨13 + i, Nat.le_add_right _ _, (List.getElem?_eq_some_iff.mp here).1, here⟩
    · rintro ⟨i, behind, -, here⟩
      refine ⟨i - 13, ?_⟩
      rw [List.getElem?_drop, Nat.add_sub_cancel' behind]
      exact here
  · exact isSome_pairingName received

/-- A response of zeros, and a message that is just the marker. -/
theorem strings_end_inside_zeros :
    serverResponseSize ≤ (zeros 50).length ∧
    (∃ parsed, parseServerResponse (zeros 50 ++ []) (zeros 50).length ⟨0, ⟨[], []⟩, ⟨[], []⟩, []⟩ =
      some (true, parsed) ∧ 13 + parsed.token.length < (zeros 50).length) ∧
    (pairingName (.bytes marker (by decide))).isSome := by
  have long : serverResponseSize ≤ (zeros 50).length := by decide
  obtain ⟨token, name⟩ := strings_end_inside_iff (zeros 50) [] ⟨0, ⟨[], []⟩, ⟨[], []⟩, []⟩ long
    (.bytes marker (by decide))
  exact ⟨long, token.mpr ⟨13, by decide⟩, name.mpr (by decide)⟩

/-- A token of 37 letters goes on behind its buffer, where there may be nothing or more text. So
    does a name of 100 bytes that the server would otherwise answer. -/
theorem full_fields_have_no_end :
    let data : List UInt8 := [1] ++ zeros 12 ++ List.replicate 37 97
    let out : Parsed := ⟨0, ⟨[], []⟩, ⟨[], []⟩, []⟩
    data.length = serverResponseSize ∧
      parseServerResponse data data.length out = none ∧
      (parseServerResponse (data ++ [98, 0]) data.length out).map (·.2.token) =
        some (List.replicate 37 97 ++ [98]) ∧
      pairingName (.bytes (marker ++ List.replicate 95 97) (by decide)) = none := by
  decide +kernel

end TCPunch.HolePunchingServer
