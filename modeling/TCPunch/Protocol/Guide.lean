import TCPunch.Protocol.Codec
import TCPunch.Server.Handler

/-! # The client of the migration guide

`CLIENT_MIGRATION.md` documents responses of 51 bytes and gives a client that reads blocks
of that size. The server writes frames of 50 bytes and then closes the connection. The
client's offsets are right, so a block of the server's size would be decoded; but the last
block of a session is never complete, and the client never learns its peer.
-/

namespace TCPunch.Guide

open Bytes

/-- `SERVER_RESPONSE_SIZE` of the guide. -/
def serverResponseSize : Nat := 51

/-- `ServerResponse` of the guide's client. The token is kept as the bytes from which
    `String::from_utf8_lossy` makes a text. -/
structure Response where
  status : PairingStatus
  yourInfo : PeerConnectionData
  peerInfo : Option PeerConnectionData
  token : List UInt8
  deriving Repr, DecidableEq

/-- `parse_response`; an index outside the block is `none`. -/
def parseResponse (buf : List UInt8) : Option Response := do
  let status := PairingStatus.fromU8 (← buf[0]?)
  let yourIp : Ipv4Addr := ⟨← buf[1]?, ← buf[2]?, ← buf[3]?, ← buf[4]?⟩
  let yourPort := fromBe16 (← buf[5]?) (← buf[6]?)
  let peerIp : Ipv4Addr := ⟨← buf[7]?, ← buf[8]?, ← buf[9]?, ← buf[10]?⟩
  let peerPort := fromBe16 (← buf[11]?) (← buf[12]?)
  let tokenEnd := ((← slice buf 13 50).findIdx? (· == 0)).getD 37
  let token ← slice buf 13 (13 + tokenEnd)
  let peerInfo := if peerIp.isUnspecified ∧ peerPort = 0 then none else some ⟨peerIp, peerPort⟩
  return { status, yourInfo := ⟨yourIp, yourPort⟩, peerInfo, token }

/-- `read_exact` on what the server wrote before it closed the connection: a block and what
    is left, or an error if the stream ends first. -/
def readExact (size : Nat) (stream : List UInt8) : Option (List UInt8 × List UInt8) :=
  if size ≤ stream.length then some (stream.take size, stream.drop size) else none

/-- How an attempt of `pair` ends. -/
inductive Attempt where
  /-- The first block did not arrive: `Err("Receive failed: ..")`. -/
  | receiveFailed
  /-- The message of an `Err` for a PAIRED response that names no peer. -/
  | noPeerInfo (message : String)
  | paired (yourInfo peerInfo : PeerConnectionData)
  /-- The next attempt presents the token, if there is one. -/
  | again (reconnectToken : Option (List UInt8))
  /-- An index was out of range. -/
  | panicked
  deriving Repr, DecidableEq

/-- The end of an attempt that was told PAIRED. -/
def conclude (response : Response) (message : String) : Attempt :=
  match response.peerInfo with
  | some peer => .paired response.yourInfo peer
  | none => .noPeerInfo message

/-- The part of an attempt after the request is sent, with blocks of the given size: the
    responses that were decoded, and how it ends. -/
def receive (size : Nat) (stream : List UInt8) : List Response × Attempt :=
  match readExact size stream with
  | none => ([], .receiveFailed)
  | some (block, rest) =>
      match parseResponse block with
      | none => ([], .panicked)
      | some first =>
          match first.status with
          | .paired => ([first], conclude first "No peer info in PAIRED response")
          | .waiting =>
              -- Wait for second response with peer info.
              match readExact size rest with
              | none => ([first], .again (some first.token))
              | some (block, _) =>
                  match parseResponse block with
                  | none => ([first], .panicked)
                  | some second =>
                      if second.status = .paired then
                        ([first, second], conclude second "No peer info")
                      else ([first, second], .again (some first.token))
          | .timeout => ([first], .again (some first.token))
          | .error => ([first], .again none)

/-! ## What the server writes -/

/-- The surroundings of a handler whose writes succeed: what its registration and its wait
    come to, with the frames written so far. -/
def surroundings (registered : RegistrationResult) (wait : PeerWait) :
    (call : HandlerCall) → List ServerResponse → call.Reply × List ServerResponse
  | .readRequest, frames => (.elapsed, frames)
  | .register _, frames => (.ok registered, frames)
  | .writeAll frame, frames => (.ok (), frames ++ [frame])
  | .awaitPeer _, frames => (wait, frames)
  | .unregister _ _, frames => ((), frames)
  | .pairingSucceeded, frames => ((), frames)
  | .timeoutOccurred, frames => ((), frames)

/-- The frames that the handler of a request writes. -/
def framesWritten (registered : RegistrationResult) (wait : PeerWait) (request : Request) :
    List ServerResponse :=
  ((Handler.registerAndServe request).run (surroundings registered wait) []).2

/-- The bytes of frames in a row. -/
def wire (uuid : UuidText) : List ServerResponse → Option (List UInt8)
  | [] => some []
  | frame :: frames => do
      let bytes ← ServerResponse.toBytes uuid frame
      return bytes ++ (← wire uuid frames)

theorem framesWritten_waiting (request : Request) (token : Uuid) (channel : Chan)
    (peer : PeerConnectionData) :
    framesWritten (.waiting token channel) (.arrived peer) request =
      [.waiting request.clientInfo token, .paired request.clientInfo peer token] := rfl

theorem framesWritten_paired (request : Request) (token : Uuid) (wait : PeerWait)
    (peer : PeerConnectionData) :
    framesWritten (.paired token peer) wait request = [.paired request.clientInfo peer token] := rfl

/-- A response as the guide's client holds it. -/
def ofServer (uuid : UuidText) (response : ServerResponse) : Response where
  status := response.status
  yourInfo := response.yourInfo
  peerInfo := response.peerInfo
  token := uuid.bytes response.reconnectToken

/-- A client that reads blocks of the given size until the server closes the connection
    obtains exactly the responses that the server wrote. -/
def Obtains (size : Nat) (uuid : UuidText) (frames : List ServerResponse) : Prop :=
  ∃ stream, wire uuid frames = some stream ∧ (receive size stream).1 = frames.map (ofServer uuid)

/-! ## What the client makes of it -/

theorem readExact_append {size : Nat} {block : List UInt8} (whole : block.length = size)
    (rest : List UInt8) : readExact size (block ++ rest) = some (block, rest) := by
  subst whole
  simp [readExact]

theorem readExact_eq_none {size : Nat} {stream : List UInt8} (short : stream.length < size) :
    readExact size stream = none := if_neg (Nat.not_le.mpr short)

/-- The documented offsets are those of the encoder. -/
theorem parseResponse_layout (status : UInt8) (your peer : PeerConnectionData) {rest : List UInt8}
    (long : tokenLength ≤ rest.length) :
    parseResponse (ServerResponse.layout status your peer rest) = some {
      status := .fromU8 status
      yourInfo := your
      peerInfo := ServerResponse.peerOf peer
      token := untilNul (rest.take tokenLength) } := by
  obtain ⟨⟨a, b, c, d⟩, port⟩ := your
  obtain ⟨⟨a', b', c', d'⟩, port'⟩ := peer
  have size := ServerResponse.length_layout status ⟨⟨a, b, c, d⟩, port⟩ ⟨⟨a', b', c', d'⟩, port'⟩ rest
  have part {n : Nat} (short : n ≤ tokenLength) :
      slice (ServerResponse.layout status ⟨⟨a, b, c, d⟩, port⟩ ⟨⟨a', b', c', d'⟩, port'⟩ rest) 13
        (13 + n) = some (rest.take n) := by
    rw [slice_eq_some (Nat.le_add_right _ _) (by omega), Nat.add_sub_cancel_left]
    rfl
  have whole : (rest.take tokenLength).length = tokenLength := List.length_take_of_le long
  have cut : ((rest.take tokenLength).findIdx? (· == 0)).getD tokenLength ≤ tokenLength := by
    have inside := findIdx_le (rest.take tokenLength)
    rwa [whole] at inside
  have token : rest.take (((rest.take tokenLength).findIdx? (· == 0)).getD tokenLength) =
      untilNul (rest.take tokenLength) := by
    have found := take_findIdx (rest.take tokenLength)
    rwa [whole, List.take_take, Nat.min_eq_left cut] at found
  have block : slice (ServerResponse.layout status ⟨⟨a, b, c, d⟩, port⟩ ⟨⟨a', b', c', d'⟩, port'⟩ rest)
      13 50 = some (rest.take tokenLength) := part (Nat.le_refl tokenLength)
  have text : slice (ServerResponse.layout status ⟨⟨a, b, c, d⟩, port⟩ ⟨⟨a', b', c', d'⟩, port'⟩ rest)
      13 (13 + ((rest.take tokenLength).findIdx? (· == 0)).getD 37) =
        some (untilNul (rest.take tokenLength)) := (part cut).trans (congrArg some token)
  have next {α β : Type} (x : α) (f : α → Option β) : (some x >>= f) = f x := rfl
  simp only [parseResponse, block, text, next]
  simp only [ServerResponse.layout, ServerResponse.address, Ipv4Addr.octets, be16, List.cons_append,
    List.nil_append, List.getElem?_cons_zero, List.getElem?_cons_succ, next, fromBe16_be16]
  rfl

theorem parseResponse_frame {uuid : UuidText} {response : ServerResponse} {frame : List UInt8}
    (written : ServerResponse.toBytes uuid response = some frame) (extra : List UInt8)
    (real : response.peerInfo ≠ some ServerResponse.noPeer) :
    parseResponse (frame ++ extra) = some (ofServer uuid response) := by
  have size := uuid.length_field_bytes response.reconnectToken
  have long : tokenLength ≤ (field tokenLength (uuid.bytes response.reconnectToken) ++ extra).length := by
    rw [List.length_append]
    omega
  rw [ServerResponse.toBytes_eq, Option.some.injEq] at written
  have parsed := parseResponse_layout response.status.asU8 response.yourInfo
    (response.peerInfo.getD ServerResponse.noPeer) long
  rw [List.take_left' size, uuid.untilNul_field_bytes, (ServerResponse.peerOf_getD_iff _).mpr real,
    PairingStatus.fromU8_asU8] at parsed
  rw [← written, List.append_assoc, List.append_assoc, List.append_assoc]
  exact parsed

theorem wire_cons {uuid : UuidText} {frame : ServerResponse} {bytes : List UInt8}
    (written : ServerResponse.toBytes uuid frame = some bytes) (frames : List ServerResponse) :
    wire uuid (frame :: frames) = (wire uuid frames).map (bytes ++ ·) := by
  rw [wire, written]
  cases wire uuid frames <;> rfl

theorem length_of_wire {uuid : UuidText} {frames : List ServerResponse} {stream : List UInt8}
    (written : wire uuid frames = some stream) :
    stream.length = frames.length * TCPunch.serverResponseSize := by
  induction frames generalizing stream with
  | nil =>
      cases written
      rfl
  | cons frame frames ih =>
      have first := ServerResponse.toBytes_eq uuid frame
      rw [wire_cons first, Option.map_eq_some_iff] at written
      obtain ⟨rest, others, whole⟩ := written
      rw [← whole, List.length_append, ServerResponse.length_of_toBytes first, ih others,
        List.length_cons, Nat.succ_mul, Nat.add_comm]

theorem length_of_readExact {size : Nat} {stream block rest : List UInt8}
    (read : readExact size stream = some (block, rest)) : stream.length = size + rest.length := by
  rw [readExact] at read
  split at read
  · cases read
    rw [List.length_drop]
    omega
  · cases read

theorem receive_length_le (size : Nat) (stream : List UInt8) :
    (receive size stream).1.length * size ≤ stream.length := by
  rw [receive]
  cases read : readExact size stream with
  | none => simp
  | some both =>
      obtain ⟨block, rest⟩ := both
      have first := length_of_readExact read
      dsimp only
      split
      · simp
      · split
        · simp only [List.length_singleton]
          omega
        · cases again : readExact size rest with
          | none =>
              simp only [List.length_singleton]
              omega
          | some both =>
              have second := length_of_readExact again
              dsimp only
              split
              · simp only [List.length_singleton]
                omega
              · split <;> simp only [List.length_cons, List.length_nil] <;> omega
        · simp only [List.length_singleton]
          omega
        · simp only [List.length_singleton]
          omega

/-- Blocks that are larger than the frames are too few for the responses. -/
theorem not_obtains {size : Nat} (large : TCPunch.serverResponseSize < size) (uuid : UuidText)
    {frames : List ServerResponse} (some : frames ≠ []) : ¬ Obtains size uuid frames := by
  intro obtained
  obtain ⟨stream, written, same⟩ := obtained
  have blocks := receive_length_le size stream
  have positive : 0 < frames.length := List.length_pos_of_ne_nil some
  rw [same, List.length_map, length_of_wire written] at blocks
  exact absurd (Nat.le_of_mul_le_mul_left blocks positive) (Nat.not_le.mpr large)

theorem wire_pair {uuid : UuidText} {first second : ServerResponse} {a b : List UInt8}
    (one : ServerResponse.toBytes uuid first = some a)
    (two : ServerResponse.toBytes uuid second = some b) :
    wire uuid [first, second] = some (a ++ (b ++ [])) := by
  rw [wire_cons one, wire_cons two]
  rfl

/-- With blocks of the size of a frame the client obtains what the server writes. -/
theorem obtains_frames (uuid : UuidText) (your peer : PeerConnectionData) (token : Uuid)
    (real : peer ≠ ServerResponse.noPeer) :
    Obtains TCPunch.serverResponseSize uuid [.waiting your token, .paired your peer token] ∧
      Obtains TCPunch.serverResponseSize uuid [.paired your peer token] := by
  have waiting := ServerResponse.toBytes_eq uuid (.waiting your token)
  have paired := ServerResponse.toBytes_eq uuid (.paired your peer token)
  have first := parseResponse_frame waiting [] (by rintro ⟨⟩)
  have second := parseResponse_frame paired [] (fun same => real (Option.some.inj same))
  rw [List.append_nil] at first second
  constructor
  · refine ⟨_, wire_pair waiting paired, ?_⟩
    rw [receive, readExact_append (ServerResponse.length_of_toBytes waiting)]
    simp only [first]
    rw [readExact_append (ServerResponse.length_of_toBytes paired)]
    simp only [second]
    rfl
  · refine ⟨_, wire_cons paired [], ?_⟩
    dsimp only
    rw [receive, readExact_append (ServerResponse.length_of_toBytes paired)]
    simp only [second]
    rfl

/-- The client of the guide never learns its peer from the connection: it does not obtain
    both responses of a handler that waited, nor the one response of a handler that did not. -/
theorem documented_client_misses_peer (uuid : UuidText) (request : Request) (token : Uuid)
    (channel : Chan) (wait : PeerWait) (peer : PeerConnectionData) :
    ¬ Obtains serverResponseSize uuid
        (framesWritten (.waiting token channel) (.arrived peer) request) ∧
      ¬ Obtains serverResponseSize uuid (framesWritten (.paired token peer) wait request) := by
  have large : TCPunch.serverResponseSize < serverResponseSize := by decide
  rw [framesWritten_waiting, framesWritten_paired]
  constructor
  · exact not_obtains large uuid (List.cons_ne_nil _ _)
  · exact not_obtains large uuid (List.cons_ne_nil _ _)

/-- Two clients at different addresses: the one that waited is told WAITING only, the other
    nothing. -/
theorem documented_client_misses_neighbour :
    (wire Uuid.text (framesWritten (.waiting ⟨7⟩ 0) (.arrived ⟨⟨10, 0, 0, 2⟩, 4002⟩)
        ⟨"room", ⟨⟨10, 0, 0, 1⟩, 4001⟩, none⟩)).map (receive serverResponseSize) =
      some ([ofServer Uuid.text (.waiting ⟨⟨10, 0, 0, 1⟩, 4001⟩ ⟨7⟩)], .again (some (Uuid.text.bytes ⟨7⟩))) ∧
    (wire Uuid.text (framesWritten (.paired ⟨7⟩ ⟨⟨10, 0, 0, 2⟩, 4002⟩) .closed
        ⟨"room", ⟨⟨10, 0, 0, 1⟩, 4001⟩, none⟩)).map (receive serverResponseSize) =
      some ([], .receiveFailed) := by
  decide +kernel

end TCPunch.Guide
