import TCPunch.Protocol.Codec

/-! # The C++ side of the layout

`common/utils.h` builds requests and takes responses apart with `memcpy` and C strings. A
region of memory is the list of its bytes, and an access outside it is `none`. Both
functions agree with the Rust codec on every message.
-/

namespace TCPunch.Utils

open Bytes

/-- `memset(buf, 0, n)` -/
def clear (buf : List UInt8) (n : Nat) : Option (List UInt8) := overwrite buf 0 (zeros n)

/-- `memcpy(buf + offset, src, n)` -/
def memcpy (buf : List UInt8) (offset : Nat) (src : List UInt8) (n : Nat) : Option (List UInt8) := do
  overwrite buf offset (← slice src 0 n)

/-- Build client request for wire format. -/
def buildClientRequest (buf pairingName reconnectToken : List UInt8) : Option (List UInt8) := do
  let buf ← clear buf clientRequestSize
  let nameLen := min pairingName.length (maxPairingName - 1)
  let buf ← memcpy buf 0 pairingName nameLen
  if reconnectToken ≠ [] then
    let tokenLen := min reconnectToken.length (tokenLength - 1)
    memcpy buf maxPairingName reconnectToken tokenLen
  else
    return buf

/-- The bytes of the C++ `PeerConnectionData` in memory. -/
structure PeerConnectionData where
  ip : List UInt8
  port : List UInt8
  deriving Repr, DecidableEq

/-- What `parse_server_response` writes through its references. The status is a
    `static_cast` of any byte. -/
structure Parsed where
  status : UInt8
  yourInfo : PeerConnectionData
  peerInfo : PeerConnectionData
  token : List UInt8
  deriving Repr, DecidableEq

/-- Parse server response from wire format. -/
def parseServerResponse (data : List UInt8) (len : Nat) (out : Parsed) : Option (Bool × Parsed) :=
  if len < serverResponseSize then
    some (false, out)
  else do
    let offset := 0
    let status ← data[offset]?
    let offset := offset + 1
    let yourIp ← slice data offset (offset + 4)
    let offset := offset + 4
    let yourPort ← slice data offset (offset + 2)
    let offset := offset + 2
    let peerIp ← slice data offset (offset + 4)
    let offset := offset + 4
    let peerPort ← slice data offset (offset + 2)
    let offset := offset + 2
    let token ← cString (data.drop offset)
    return (true, { status, yourInfo := ⟨yourIp, yourPort⟩, peerInfo := ⟨peerIp, peerPort⟩, token })

theorem memcpy_min (buf : List UInt8) (offset : Nat) (src : List UInt8) (n : Nat) :
    memcpy buf offset src (min src.length n) = overwrite buf offset (src.take n) := by
  rw [memcpy, slice_min]
  rfl

theorem clear_all {buf : List UInt8} {n : Nat} (size : buf.length = n) : clear buf n = some (zeros n) := by
  subst size
  rw [clear, overwrite, if_pos (by simp)]
  simp

theorem buildClientRequest_eq (uuid : UuidText) {buf : List UInt8}
    (size : buf.length = clientRequestSize) (name : String) (token : Option Uuid) :
    buildClientRequest buf (ofString name) (ofString ((token.map uuid.display).getD "")) =
      ClientRequest.toBytes uuid { pairingName := name, reconnectToken := token } := by
  simp only [buildClientRequest, ClientRequest.toBytes, clear_all size, memcpy_min, slice_min,
    Option.bind_eq_bind, Option.bind_some]
  cases token with
  | none => rfl
  | some token =>
      have text : ofString (uuid.display token) ≠ [] := fun empty =>
        uuid.display_ne_empty token (ofString_eq_nil.mp empty)
      have whole : (ofString (uuid.display token)).take (tokenLength - 1) =
          ofString (uuid.display token) := List.take_of_length_le (uuid.length_bytes token).le
      simp only [Option.map_some, Option.getD_some, text, ne_eq, not_false_eq_true, if_true, whole]

/-- For every name and every token, the C++ builder and the Rust encoder fill a request
    buffer with the same bytes, whatever was in it. -/
theorem builders_agree (uuid : UuidText) (buf : Vector UInt8 clientRequestSize) (name : String)
    (token : Option Uuid) :
    ∃ bytes, bytes.length = clientRequestSize ∧
      buildClientRequest buf.toList (ofString name) (ofString ((token.map uuid.display).getD "")) =
        some bytes ∧
      ClientRequest.toBytes uuid { pairingName := name, reconnectToken := token } = some bytes := by
  rw [buildClientRequest_eq uuid buf.length_toList]
  have written := ClientRequest.toBytes_eq uuid { pairingName := name, reconnectToken := token }
  exact ⟨_, ClientRequest.length_of_toBytes written, written, written⟩

/-- The address of a peer in the C++ client's memory. -/
def inMemory (info : TCPunch.PeerConnectionData) : PeerConnectionData := ⟨info.ip.octets, be16 info.port⟩

theorem parseServerResponse_layout {len : Nat} (long : serverResponseSize ≤ len) (status : UInt8)
    (your peer : TCPunch.PeerConnectionData) (rest : List UInt8) (out : Parsed) :
    parseServerResponse (ServerResponse.layout status your peer rest) len out =
      (cString rest).map fun token =>
        (true, { status, yourInfo := inMemory your, peerInfo := inMemory peer, token }) := by
  have size := ServerResponse.length_layout status your peer rest
  have part {lo hi : Nat} (ordered : lo ≤ hi) (inside : hi ≤ 13) :
      slice (ServerResponse.layout status your peer rest) lo hi =
        some (((ServerResponse.layout status your peer rest).drop lo).take (hi - lo)) :=
    slice_eq_some ordered (by omega)
  rw [parseServerResponse, if_neg (Nat.not_lt.mpr long)]
  simp only [Nat.reduceAdd, part (show 1 ≤ 5 by decide) (by decide),
    part (show 5 ≤ 7 by decide) (by decide), part (show 7 ≤ 11 by decide) (by decide),
    part (show 11 ≤ 13 by decide) (by decide)]
  cases found : cString rest with
  | none =>
      have token : cString ((ServerResponse.layout status your peer rest).drop 13) = none := found
      simp only [token]
      rfl
  | some text =>
      have token : cString ((ServerResponse.layout status your peer rest).drop 13) = some text := found
      simp only [token]
      rfl

/-- The token is read from a buffer that is long enough, with other memory behind it. The NUL
    that ends it is in the buffer when there is one behind the two addresses. -/
theorem token_ends_within {data : List UInt8} (long : serverResponseSize ≤ data.length)
    (beyond : List UInt8) (out : Parsed) :
    (∃ parsed, parseServerResponse (data ++ beyond) data.length out = some (true, parsed) ∧
      13 + parsed.token.length < data.length) ↔ 0 ∈ data.drop 13 := by
  obtain ⟨status, your, peer, rest, layout, -⟩ := ServerResponse.exists_layout long
  have size : data.length = 13 + rest.length := by rw [layout, ServerResponse.length_layout]
  have token : data.drop 13 = (rest ++ beyond).take rest.length := by
    rw [List.take_left, layout]
    rfl
  have parsed := parseServerResponse_layout long status your peer (rest ++ beyond) out
  have whole : ServerResponse.layout status your peer (rest ++ beyond) = data ++ beyond := by
    simp only [layout, ServerResponse.layout, List.append_assoc]
  rw [whole] at parsed
  rw [token, ← cString_ends_within, parsed, size]
  simp only [Option.map_eq_some_iff, Nat.add_lt_add_iff_left]
  constructor
  · rintro ⟨_, ⟨text, found, same⟩, inside⟩
    cases same
    exact ⟨text, found, inside⟩
  · rintro ⟨text, found, inside⟩
    exact ⟨_, ⟨text, found, rfl⟩, inside⟩

/-- The C++ parser takes every response of the Rust encoder apart without leaving its
    buffer, and finds the numeric status, both addresses in network order, zeros for a
    missing peer, and the text of the token. -/
theorem parser_inverts_encoder (uuid : UuidText) (response : ServerResponse) (out : Parsed) :
    ∃ bytes, ServerResponse.toBytes uuid response = some bytes ∧ bytes.length = serverResponseSize ∧
      parseServerResponse bytes serverResponseSize out = some (true, {
        status := response.status.asU8
        yourInfo := inMemory response.yourInfo
        peerInfo := match response.peerInfo with
          | some peer => inMemory peer
          | none => ⟨[0, 0, 0, 0], [0, 0]⟩
        token := ofString (uuid.display response.reconnectToken) }) := by
  have room : (uuid.bytes response.reconnectToken).length < tokenLength := by simp [tokenLength]
  have token := cString_field (uuid.zero_notMem_bytes response.reconnectToken) room []
  rw [List.append_nil] at token
  have peer : inMemory (response.peerInfo.getD ServerResponse.noPeer) =
      match response.peerInfo with
      | some peer => inMemory peer
      | none => ⟨[0, 0, 0, 0], [0, 0]⟩ := by
    cases response.peerInfo <;> rfl
  have written := ServerResponse.toBytes_eq uuid response
  refine ⟨_, written, ServerResponse.length_of_toBytes written, ?_⟩
  refine (parseServerResponse_layout (Nat.le_refl _) _ _ _ _ out).trans ?_
  rw [token, peer]
  rfl

end TCPunch.Utils
