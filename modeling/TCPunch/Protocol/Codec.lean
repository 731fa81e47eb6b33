import TCPunch.Lib.Bytes
import TCPunch.Protocol.Uuid

/-! # The byte layout of the messages

Requests are 141 bytes: the name and the token as text in fields of 100 and 37 bytes, and
four reserved bytes. Responses are 50 bytes: the status, two addresses, and the token.
Each encoder fills a buffer of zeros part by part; a slice that leaves its buffer would
panic, which is `none` here. A decoder can panic too, or return a `ProtocolError`.

Each codec is described once: what the encoder writes as a concatenation of parts, and
what the decoder makes of a long enough buffer as a function of those parts.
-/

namespace TCPunch

open Bytes

/-- The text forms of a token, as far as the codecs rely on the `uuid` crate. -/
structure UuidText where
  /-- `Display` -/
  display : Uuid → String
  /-- `Uuid::parse_str` -/
  parseStr : String → Option Uuid
  length_display : ∀ u, (display u).toList.length = 36
  ascii_display : ∀ u, ∀ c ∈ (display u).toList, c.val < 128 ∧ c ≠ '\x00'
  parseStr_display : ∀ u, parseStr (display u) = some u

/-- The forms that the crate documents. -/
def Uuid.text : UuidText where
  display := Uuid.hyphenated
  parseStr := Uuid.parseStr
  length_display := Uuid.length_toList_hyphenated
  ascii_display := fun _ _ => Uuid.ascii_of_mem_hyphenated
  parseStr_display := Uuid.parseStr_hyphenated

namespace UuidText

variable (uuid : UuidText) (u : Uuid)

/-- The bytes of a token's text. -/
def bytes : List UInt8 := ofString (uuid.display u)

theorem bytes_eq : uuid.bytes u = (uuid.display u).toList.map fun c => c.val.toUInt8 :=
  ofString_ascii fun c member => (uuid.ascii_display u c member).1

@[simp] theorem length_bytes : (uuid.bytes u).length = 36 := by
  rw [bytes_eq, List.length_map, uuid.length_display]

theorem zero_notMem_bytes : 0 ∉ uuid.bytes u := by
  rw [bytes_eq, List.mem_map]
  intro nul
  obtain ⟨c, member, zero⟩ := nul
  obtain ⟨small, other⟩ := uuid.ascii_display u c member
  have low : c.val.toNat % 256 = 0 := by
    rw [← UInt32.toNat_toUInt8]
    exact congrArg UInt8.toNat zero
  have below : c.val.toNat < 128 := small
  have same : c.val.toNat = 0 := by omega
  exact other (Char.ext (UInt32.toNat_inj.mp same))

theorem display_ne_empty : uuid.display u ≠ "" := by
  intro empty
  have count := uuid.length_display u
  rw [empty] at count
  cases count

end UuidText

/-! ## Sizes -/

/-- Maximum length of pairing name (including null terminator). -/
def maxPairingName : Nat := 100

/-- Length of reconnect token field (UUID string + null). -/
def tokenLength : Nat := 37

/-- Size of client request in bytes. -/
def clientRequestSize : Nat := maxPairingName + tokenLength + 4

/-- Size of server response in bytes. -/
def serverResponseSize : Nat := 1 + 4 + 2 + 4 + 2 + tokenLength

theorem UuidText.length_field_bytes (uuid : UuidText) (u : Uuid) :
    (field tokenLength (uuid.bytes u)).length = tokenLength := length_field (by simp [tokenLength])

theorem UuidText.untilNul_field_bytes (uuid : UuidText) (u : Uuid) :
    untilNul (field tokenLength (uuid.bytes u)) = uuid.bytes u := by
  rw [untilNul_field (by simp [tokenLength]), untilNul_eq_self]
  exact uuid.zero_notMem_bytes u

/-! ## Strings in fields -/

/-- A decoder returns a value or a `ProtocolError`; `none` is a panic. -/
abbrev Decoder := ExceptT ProtocolError Option

namespace Decoder

variable {α β : Type}

/-- The decoder that does not panic. -/
def sure (outcome : Except ProtocolError α) : Decoder α := ExceptT.mk (some outcome)

@[simp] theorem run_sure (outcome : Except ProtocolError α) : (sure outcome).run = some outcome := rfl

@[simp] theorem sure_ok_bind (a : α) (f : α → Decoder β) : (sure (.ok a) >>= f) = f a := rfl

@[simp] theorem sure_error_bind (e : ProtocolError) (f : α → Decoder β) :
    (sure (.error e) >>= f) = sure (.error e) := rfl

@[simp] theorem some_bind (a : α) (f : α → Decoder β) :
    ((liftM (some a) : Decoder α) >>= f) = f a := rfl

@[simp] theorem pure_eq_sure (a : α) : (pure a : Decoder α) = sure (.ok a) := rfl

@[simp] theorem throw_eq_sure (e : ProtocolError) : (throw e : Decoder α) = sure (.error e) := rfl

end Decoder

/-- `String::from_utf8`, with any failure as `InvalidUtf8`. -/
def fromUtf8 (bytes : List UInt8) : Except ProtocolError String :=
  match toString? bytes with
  | some text => .ok text
  | none => .error .invalidUtf8

theorem fromUtf8_eq_ok {bytes : List UInt8} {text : String} :
    fromUtf8 bytes = .ok text ↔ ofString text = bytes := by
  rw [← toString?_eq_some, fromUtf8]
  cases toString? bytes <;> simp

@[simp] theorem fromUtf8_ofString (text : String) : fromUtf8 (ofString text) = .ok text :=
  fromUtf8_eq_ok.mpr rfl

@[simp] theorem fromUtf8_nil : fromUtf8 [] = .ok "" := fromUtf8_ofString ""

/-- Parse a null-terminated string from a byte slice. -/
def parseNullTerminatedString (data : List UInt8) : Decoder String := do
  let stop := (data.findIdx? (· == 0)).getD data.length
  let bytes ← slice data 0 stop
  Decoder.sure (fromUtf8 bytes)

theorem parseNullTerminatedString_eq (data : List UInt8) :
    parseNullTerminatedString data = Decoder.sure (fromUtf8 (untilNul data)) := by
  have cut : slice data 0 ((data.findIdx? (· == 0)).getD data.length) = some (untilNul data) := by
    rw [slice_eq_some (Nat.zero_le _) (findIdx_le data), List.drop_zero, Nat.sub_zero, take_findIdx]
  simp only [parseNullTerminatedString, cut, Decoder.some_bind]

/-! ## Requests -/

namespace ClientRequest

/-- Parse client request from wire format. -/
def fromBytes (uuid : UuidText) (data : List UInt8) : Decoder ClientRequest := do
  if data.length < clientRequestSize then
    throw (.invalidLength clientRequestSize data.length)
  let pairingName ← parseNullTerminatedString (← slice data 0 maxPairingName)
  if pairingName = "" then
    throw .emptyPairingName
  let tokenStr ← parseNullTerminatedString (← slice data maxPairingName (maxPairingName + tokenLength))
  let reconnectToken ←
    if tokenStr = "" then
      pure none
    else
      match uuid.parseStr tokenStr with
      | some token => pure (some token)
      | none => throw .invalidToken
  return { pairingName, reconnectToken }

/-- Serialize to wire format. -/
def toBytes (uuid : UuidText) (request : ClientRequest) : Option (List UInt8) := do
  let buf := zeros clientRequestSize
  let nameBytes := ofString request.pairingName
  let nameLen := min nameBytes.length (maxPairingName - 1)
  let buf ← overwrite buf 0 (← slice nameBytes 0 nameLen)
  match request.reconnectToken with
  | some token => overwrite buf maxPairingName (ofString (uuid.display token))
  | none => return buf

/-- The text in the token field. -/
def tokenText (uuid : UuidText) (token : Option Uuid) : List UInt8 :=
  match token with
  | some token => uuid.bytes token
  | none => []

theorem toBytes_eq (uuid : UuidText) (request : ClientRequest) :
    toBytes uuid request = some (field maxPairingName ((ofString request.pairingName).take 99) ++
      (field tokenLength (tokenText uuid request.reconnectToken) ++ zeros 4)) := by
  obtain ⟨name, token⟩ := request
  have fits : ((ofString name).take 99).length ≤ maxPairingName := by
    rw [List.length_take, maxPairingName]
    omega
  have cut : slice (ofString name) 0 (min (ofString name).length (maxPairingName - 1)) =
      some ((ofString name).take 99) := slice_min _ _
  have named : overwrite (zeros clientRequestSize) 0 ((ofString name).take 99) =
      some (field maxPairingName ((ofString name).take 99) ++ zeros (tokenLength + 4)) :=
    overwrite_field (a := []) rfl fits (tokenLength + 4)
  simp only [toBytes, cut, named, Option.bind_eq_bind, Option.bind_some]
  cases token with
  | some token =>
      have room : (uuid.bytes token).length ≤ tokenLength := by simp [tokenLength]
      exact (overwrite_field (length_field fits) room 4).trans (by rw [List.append_assoc]; rfl)
  | none => rw [tokenText, field_nil, zeros_append]; rfl

theorem length_of_toBytes {uuid : UuidText} {request : ClientRequest} {bytes : List UInt8}
    (written : toBytes uuid request = some bytes) : bytes.length = clientRequestSize := by
  rw [toBytes_eq, Option.some.injEq] at written
  have name : ((ofString request.pairingName).take 99).length ≤ maxPairingName := by
    rw [List.length_take, maxPairingName]
    omega
  have token : (tokenText uuid request.reconnectToken).length ≤ tokenLength := by
    cases request.reconnectToken <;> simp [tokenText, tokenLength]
  rw [← written, List.length_append, List.length_append, length_field name, length_field token,
    length_zeros, clientRequestSize, Nat.add_assoc]

/-- What the decoder makes of the texts in the two fields. -/
def ofFields (uuid : UuidText) (name token : List UInt8) : Except ProtocolError ClientRequest :=
  match fromUtf8 name with
  | .error e => .error e
  | .ok pairingName =>
      if pairingName = "" then .error .emptyPairingName
      else
        match fromUtf8 token with
        | .error e => .error e
        | .ok tokenStr =>
            if tokenStr = "" then .ok { pairingName, reconnectToken := none }
            else
              match uuid.parseStr tokenStr with
              | some token => .ok { pairingName, reconnectToken := some token }
              | none => .error .invalidToken

theorem fromBytes_eq (uuid : UuidText) {data : List UInt8} (long : clientRequestSize ≤ data.length) :
    fromBytes uuid data = Decoder.sure (ofFields uuid (untilNul (data.take maxPairingName))
      (untilNul ((data.drop maxPairingName).take tokenLength))) := by
  have size : clientRequestSize = 141 := rfl
  have first : slice data 0 maxPairingName = some (data.take maxPairingName) := by
    rw [slice_eq_some (Nat.zero_le _) (by simp only [maxPairingName]; omega)]
    rfl
  have second : slice data maxPairingName (maxPairingName + tokenLength) =
      some ((data.drop maxPairingName).take tokenLength) := by
    rw [slice_eq_some (Nat.le_add_right _ _) (by simp only [maxPairingName, tokenLength]; omega),
      Nat.add_sub_cancel_left]
  simp only [fromBytes, if_neg (Nat.not_lt.mpr long), first, second, parseNullTerminatedString_eq,
    Decoder.some_bind, ofFields]
  cases fromUtf8 (untilNul (data.take maxPairingName)) with
  | error e => rfl
  | ok name =>
      by_cases empty : name = ""
      · simp [empty]
      · cases fromUtf8 (untilNul ((data.drop maxPairingName).take tokenLength)) with
        | error e => simp [empty]
        | ok text =>
            by_cases absent : text = ""
            · simp [empty, absent]
            · cases found : uuid.parseStr text <;> simp [empty, absent, found]

theorem zero_notMem_tokenText (uuid : UuidText) (token : Option Uuid) :
    0 ∉ tokenText uuid token := by
  cases token with
  | none => simp [tokenText]
  | some token => exact uuid.zero_notMem_bytes token

theorem length_tokenText_lt (uuid : UuidText) (token : Option Uuid) :
    (tokenText uuid token).length < tokenLength := by
  cases token <;> simp [tokenText, tokenLength]

theorem ofFields_tokenText (uuid : UuidText) (name : List UInt8) (token : Option Uuid) :
    ofFields uuid name (tokenText uuid token) =
      match fromUtf8 name with
      | .error e => .error e
      | .ok pairingName =>
          if pairingName = "" then .error .emptyPairingName
          else .ok { pairingName, reconnectToken := token } := by
  rw [ofFields]
  cases token with
  | none => simp [tokenText]
  | some token =>
      have text : fromUtf8 (uuid.bytes token) = .ok (uuid.display token) := fromUtf8_ofString _
      simp [tokenText, text, uuid.display_ne_empty, uuid.parseStr_display]

/-- Decoding what the encoder wrote: the name is what is left of its first 99 bytes. -/
theorem fromBytes_toBytes (uuid : UuidText) (request : ClientRequest) :
    (toBytes uuid request).bind (fun bytes => (fromBytes uuid bytes).run) =
      some (match fromUtf8 (untilNul ((ofString request.pairingName).take 99)) with
        | .error e => .error e
        | .ok pairingName =>
            if pairingName = "" then .error .emptyPairingName
            else .ok { pairingName, reconnectToken := request.reconnectToken }) := by
  have short : ((ofString request.pairingName).take 99).length < maxPairingName := by
    rw [List.length_take, maxPairingName]
    omega
  have token := length_tokenText_lt uuid request.reconnectToken
  have name : (field maxPairingName ((ofString request.pairingName).take 99)).length =
      maxPairingName := length_field (Nat.le_of_lt short)
  have size : (field tokenLength (tokenText uuid request.reconnectToken)).length = tokenLength :=
    length_field (Nat.le_of_lt token)
  rw [toBytes_eq, Option.bind_some, fromBytes_eq]
  · rw [List.take_left' name, List.drop_left' name, List.take_left' size, untilNul_field short,
      untilNul_field token, untilNul_eq_self.mpr (zero_notMem_tokenText uuid _), ofFields_tokenText,
      Decoder.run_sure]
  · simp only [List.length_append, name, size, length_zeros, clientRequestSize]
    omega

/-- A request is decoded to itself exactly when its name is not empty, has no NUL, and has
    at most 99 bytes. -/
theorem request_roundtrip_iff (uuid : UuidText) (request : ClientRequest) :
    (toBytes uuid request).bind (fun bytes => (fromBytes uuid bytes).run) = some (.ok request) ↔
      request.pairingName ≠ "" ∧ 0 ∉ ofString request.pairingName ∧
        (ofString request.pairingName).length ≤ maxPairingName - 1 := by
  obtain ⟨name, token⟩ := request
  rw [fromBytes_toBytes]
  constructor
  · intro same
    cases decoded : fromUtf8 (untilNul ((ofString name).take 99)) with
    | error e => simp [decoded] at same
    | ok text =>
        by_cases empty : text = ""
        · simp [decoded, empty] at same
        · simp only [decoded, empty, if_false, Option.some.injEq, Except.ok.injEq,
            ClientRequest.mk.injEq, and_true] at same
          subst same
          -- The name is what was cut off its own bytes.
          have whole := fromUtf8_eq_ok.mp decoded
          refine ⟨empty, ?_, ?_⟩
          · rw [whole]
            exact zero_notMem_untilNul _
          · have cut := length_untilNul_le ((ofString text).take 99)
            rw [← whole, List.length_take] at cut
            simp only [maxPairingName]
            omega
  · intro usable
    obtain ⟨nonempty, absent, short⟩ := usable
    have whole : (ofString name).take 99 = ofString name := List.take_of_length_le short
    simp only [whole, untilNul_eq_self.mpr absent, fromUtf8_ofString, nonempty, if_false]

end ClientRequest

/-! ## Responses -/

/-- `status as u8` -/
def PairingStatus.asU8 : PairingStatus → UInt8
  | .waiting => 0
  | .paired => 1
  | .timeout => 2
  | .error => 3

/-- `PairingStatus::from` -/
def PairingStatus.fromU8 (v : UInt8) : PairingStatus :=
  match v with
  | 0 => .waiting
  | 1 => .paired
  | 2 => .timeout
  | _ => .error

@[simp] theorem PairingStatus.fromU8_asU8 (status : PairingStatus) : fromU8 status.asU8 = status := by
  cases status <;> rfl

def Ipv4Addr.octets (ip : Ipv4Addr) : List UInt8 := [ip.a, ip.b, ip.c, ip.d]

def Ipv4Addr.isUnspecified (ip : Ipv4Addr) : Bool := ip = .unspecified

namespace ServerResponse

/-- Serialize to wire format. -/
def toBytes (uuid : UuidText) (response : ServerResponse) : Option (List UInt8) := do
  let buf := zeros serverResponseSize
  let offset := 0
  let buf ← overwrite buf offset [response.status.asU8]
  let offset := offset + 1
  let buf ← overwrite buf offset response.yourInfo.ip.octets
  let offset := offset + 4
  let buf ← overwrite buf offset (be16 response.yourInfo.port)
  let offset := offset + 2
  let peerIp := (response.peerInfo.map (·.ip)).getD .unspecified
  let buf ← overwrite buf offset peerIp.octets
  let offset := offset + 4
  let peerPort := (response.peerInfo.map (·.port)).getD 0
  let buf ← overwrite buf offset (be16 peerPort)
  let offset := offset + 2
  overwrite buf offset (ofString (uuid.display response.reconnectToken))

/-- `data[i]` -/
def byteAt (data : List UInt8) (i : Nat) : Decoder UInt8 := liftM (data[i]? : Option UInt8)

/-- `Ipv4Addr::new` of four successive bytes. -/
def ipv4At (data : List UInt8) (i : Nat) : Decoder Ipv4Addr := do
  return ⟨← byteAt data i, ← byteAt data (i + 1), ← byteAt data (i + 2), ← byteAt data (i + 3)⟩

/-- `u16::from_be_bytes` of two successive bytes. -/
def portAt (data : List UInt8) (i : Nat) : Decoder UInt16 := do
  return fromBe16 (← byteAt data i) (← byteAt data (i + 1))

/-- Parse from wire format. -/
def fromBytes (uuid : UuidText) (data : List UInt8) : Decoder ServerResponse := do
  if data.length < serverResponseSize then
    throw (.invalidLength serverResponseSize data.length)
  let offset := 0
  let status := PairingStatus.fromU8 (← byteAt data offset)
  let offset := offset + 1
  let yourIp ← ipv4At data offset
  let offset := offset + 4
  let yourPort ← portAt data offset
  let offset := offset + 2
  let peerIp ← ipv4At data offset
  let offset := offset + 4
  let peerPort ← portAt data offset
  let offset := offset + 2
  let tokenStr ← parseNullTerminatedString (← slice data offset (offset + tokenLength))
  let reconnectToken ←
    if tokenStr = "" then
      pure Uuid.nil
    else
      match uuid.parseStr tokenStr with
      | some token => pure token
      | none => throw .invalidToken
  let yourInfo := { ip := yourIp, port := yourPort }
  let peerInfo := if peerIp.isUnspecified ∧ peerPort = 0 then none else some ⟨peerIp, peerPort⟩
  return { status, yourInfo, peerInfo, reconnectToken }

/-- An address on the wire. -/
def address (info : PeerConnectionData) : List UInt8 := info.ip.octets ++ be16 info.port

@[simp] theorem length_address (info : PeerConnectionData) : (address info).length = 6 := rfl

/-- The address that stands for a peer that is missing. -/
def noPeer : PeerConnectionData := ⟨.unspecified, 0⟩

theorem toBytes_eq (uuid : UuidText) (response : ServerResponse) :
    toBytes uuid response = some ([response.status.asU8] ++ (address response.yourInfo ++
      (address (response.peerInfo.getD noPeer) ++
        field tokenLength (uuid.bytes response.reconnectToken)))) := by
  obtain ⟨status, your, peer, token⟩ := response
  have ip : (peer.map (·.ip)).getD .unspecified = (peer.getD noPeer).ip := by cases peer <;> rfl
  have port : (peer.map (·.port)).getD 0 = (peer.getD noPeer).port := by cases peer <;> rfl
  have h1 : overwrite (zeros serverResponseSize) 0 [status.asU8] =
      some ([status.asU8] ++ zeros 49) := overwrite_next (a := []) (n := 50) rfl rfl
  have h2 : overwrite ([status.asU8] ++ zeros 49) 1 your.ip.octets =
      some ([status.asU8] ++ your.ip.octets ++ zeros 45) := overwrite_next rfl rfl
  have h3 : overwrite ([status.asU8] ++ your.ip.octets ++ zeros 45) 5 (be16 your.port) =
      some ([status.asU8] ++ your.ip.octets ++ be16 your.port ++ zeros 43) := overwrite_next rfl rfl
  have h4 : overwrite ([status.asU8] ++ your.ip.octets ++ be16 your.port ++ zeros 43) 7
      (peer.getD noPeer).ip.octets = some ([status.asU8] ++ your.ip.octets ++ be16 your.port ++
        (peer.getD noPeer).ip.octets ++ zeros 39) := overwrite_next rfl rfl
  have h5 : overwrite ([status.asU8] ++ your.ip.octets ++ be16 your.port ++
      (peer.getD noPeer).ip.octets ++ zeros 39) 11 (be16 (peer.getD noPeer).port) =
        some ([status.asU8] ++ your.ip.octets ++ be16 your.port ++ (peer.getD noPeer).ip.octets ++
          be16 (peer.getD noPeer).port ++ zeros 37) := overwrite_next rfl rfl
  have h6 : overwrite ([status.asU8] ++ your.ip.octets ++ be16 your.port ++
      (peer.getD noPeer).ip.octets ++ be16 (peer.getD noPeer).port ++ zeros 37) 13
        (uuid.bytes token) = some ([status.asU8] ++ your.ip.octets ++ be16 your.port ++
          (peer.getD noPeer).ip.octets ++ be16 (peer.getD noPeer).port ++
            field tokenLength (uuid.bytes token) ++ zeros 0) :=
    overwrite_field rfl (by simp) 0
  simp only [toBytes, ip, port, Nat.reduceAdd, h1, h2, h3, h4, h5, Option.bind_eq_bind,
    Option.bind_some]
  refine h6.trans ?_
  simp [address, zeros]

theorem length_of_toBytes {uuid : UuidText} {response : ServerResponse} {bytes : List UInt8}
    (written : toBytes uuid response = some bytes) : bytes.length = serverResponseSize := by
  rw [toBytes_eq, Option.some.injEq] at written
  rw [← written, List.length_append, List.length_append, List.length_append, length_address,
    length_address, uuid.length_field_bytes]
  rfl

/-- What the decoder makes of the peer's address. -/
def peerOf (peer : PeerConnectionData) : Option PeerConnectionData :=
  if peer.ip.isUnspecified ∧ peer.port = 0 then none else some peer

/-- What the decoder makes of the parts. -/
def ofParts (uuid : UuidText) (status : UInt8) (your peer : PeerConnectionData) (token : List UInt8) :
    Except ProtocolError ServerResponse :=
  match fromUtf8 token with
  | .error e => .error e
  | .ok tokenStr =>
      if tokenStr = "" then
        .ok { status := .fromU8 status, yourInfo := your, peerInfo := peerOf peer, reconnectToken := .nil }
      else
        match uuid.parseStr tokenStr with
        | some reconnectToken =>
            .ok { status := .fromU8 status, yourInfo := your, peerInfo := peerOf peer, reconnectToken }
        | none => .error .invalidToken

/-- A buffer that is long enough, in parts. -/
def layout (status : UInt8) (your peer : PeerConnectionData) (rest : List UInt8) : List UInt8 :=
  [status] ++ (address your ++ (address peer ++ rest))

theorem length_layout (status : UInt8) (your peer : PeerConnectionData) (rest : List UInt8) :
    (layout status your peer rest).length = 13 + rest.length := by
  simp only [layout, List.length_append, length_address, List.length_singleton]
  omega

theorem fromBytes_layout (uuid : UuidText) (status : UInt8) (your peer : PeerConnectionData)
    {rest : List UInt8} (long : tokenLength ≤ rest.length) :
    fromBytes uuid (layout status your peer rest) =
      Decoder.sure (ofParts uuid status your peer (untilNul (rest.take tokenLength))) := by
  obtain ⟨⟨a, b, c, d⟩, port⟩ := your
  obtain ⟨⟨a', b', c', d'⟩, port'⟩ := peer
  have size : ¬ (layout status ⟨⟨a, b, c, d⟩, port⟩ ⟨⟨a', b', c', d'⟩, port'⟩ rest).length <
      serverResponseSize := by
    rw [length_layout, serverResponseSize]
    omega
  have token : slice (layout status ⟨⟨a, b, c, d⟩, port⟩ ⟨⟨a', b', c', d'⟩, port'⟩ rest) 13
      (13 + tokenLength) = some (rest.take tokenLength) := by
    rw [slice_eq_some (Nat.le_add_right _ _) (Nat.not_lt.mp size), Nat.add_sub_cancel_left]
    rfl
  simp only [fromBytes, if_neg size, Nat.reduceAdd, token]
  simp only [layout, address, Ipv4Addr.octets, be16, List.cons_append, List.nil_append, byteAt, ipv4At,
    portAt, List.getElem?_cons_zero, List.getElem?_cons_succ, Decoder.some_bind]
  simp only [Decoder.pure_eq_sure, Decoder.sure_ok_bind, fromBe16_be16, parseNullTerminatedString_eq,
    ofParts, peerOf]
  cases fromUtf8 (untilNul (rest.take tokenLength)) with
  | error e => rfl
  | ok text =>
      by_cases absent : text = ""
      · simp [absent]
      · cases found : uuid.parseStr text <;> simp [absent, found]

theorem exists_layout {data : List UInt8} (long : serverResponseSize ≤ data.length) :
    ∃ status your peer rest, data = layout status your peer rest ∧ tokenLength ≤ rest.length := by
  have size : serverResponseSize = 13 + tokenLength := rfl
  match data, long with
  | s :: a :: b :: c :: d :: e :: f :: a' :: b' :: c' :: d' :: e' :: f' :: rest, long =>
      refine ⟨s, ⟨⟨a, b, c, d⟩, fromBe16 e f⟩, ⟨⟨a', b', c', d'⟩, fromBe16 e' f'⟩, rest, ?_, ?_⟩
      · simp only [layout, address, be16_fromBe16]
        rfl
      · simp only [List.length_cons] at long
        omega

/-- Decoding what the encoder wrote gives back everything but a peer at the address that
    stands for none. -/
theorem fromBytes_toBytes (uuid : UuidText) (response : ServerResponse) :
    (toBytes uuid response).bind (fun bytes => (fromBytes uuid bytes).run) =
      some (.ok { response with peerInfo := peerOf (response.peerInfo.getD noPeer) }) := by
  have size := uuid.length_field_bytes response.reconnectToken
  have text : fromUtf8 (uuid.bytes response.reconnectToken) =
      .ok (uuid.display response.reconnectToken) := fromUtf8_ofString _
  rw [toBytes_eq, Option.bind_some]
  refine (congrArg ExceptT.run (fromBytes_layout uuid _ _ _ size.ge)).trans ?_
  rw [Decoder.run_sure, List.take_of_length_le size.le, uuid.untilNul_field_bytes]
  simp [ofParts, text, uuid.display_ne_empty, uuid.parseStr_display]

theorem peerOf_ne_noPeer (peer : PeerConnectionData) : peerOf peer ≠ some noPeer := by
  rw [peerOf]
  split
  · simp
  · rename_i other
    intro same
    cases same
    exact other (by decide)

theorem peerOf_getD_iff (peer : Option PeerConnectionData) :
    peerOf (peer.getD noPeer) = peer ↔ peer ≠ some noPeer := by
  constructor
  · intro same absent
    rw [absent] at same
    exact peerOf_ne_noPeer _ same
  · intro present
    cases peer with
    | none => rfl
    | some peer =>
        rw [Option.getD_some, peerOf, if_neg]
        intro zero
        obtain ⟨ip, port⟩ := peer
        simp only [Ipv4Addr.isUnspecified, decide_eq_true_eq] at zero
        exact present (by rw [zero.1, zero.2]; rfl)

theorem peerInfo_of_fromBytes {uuid : UuidText} {data : List UInt8} {response : ServerResponse}
    (accepted : (fromBytes uuid data).run = some (.ok response)) :
    response.peerInfo ≠ some noPeer := by
  by_cases long : serverResponseSize ≤ data.length
  · obtain ⟨status, your, peer, rest, rfl, enough⟩ := exists_layout long
    rw [fromBytes_layout uuid _ _ _ enough, Decoder.run_sure, Option.some.injEq, ofParts] at accepted
    split at accepted
    · cases accepted
    · split at accepted
      · cases accepted
        exact peerOf_ne_noPeer peer
      · split at accepted
        · cases accepted
          exact peerOf_ne_noPeer peer
        · cases accepted
  · have short : (fromBytes uuid data).run =
        some (.error (.invalidLength serverResponseSize data.length)) := by
      simp only [fromBytes, if_pos (Nat.lt_of_not_ge long)]
      rfl
    rw [short] at accepted
    cases accepted

/-- A response is decoded to itself exactly when its peer is not at 0.0.0.0:0. Every
    response that was decoded is such a response, so encoding and decoding it again changes
    nothing. -/
theorem response_roundtrip_iff (uuid : UuidText) :
    (∀ response : ServerResponse,
      (toBytes uuid response).bind (fun bytes => (fromBytes uuid bytes).run) = some (.ok response) ↔
        response.peerInfo ≠ some ⟨.unspecified, 0⟩) ∧
    ∀ data response, (fromBytes uuid data).run = some (.ok response) →
      response.peerInfo ≠ some ⟨.unspecified, 0⟩ ∧
        (toBytes uuid response).bind (fun bytes => (fromBytes uuid bytes).run) =
          (fromBytes uuid data).run := by
  have same_iff (response : ServerResponse) :
      (toBytes uuid response).bind (fun bytes => (fromBytes uuid bytes).run) = some (.ok response) ↔
        response.peerInfo ≠ some noPeer := by
    rw [fromBytes_toBytes, ← peerOf_getD_iff]
    obtain ⟨status, your, peer, token⟩ := response
    simp
  refine ⟨same_iff, fun data response accepted => ?_⟩
  have present := peerInfo_of_fromBytes accepted
  exact ⟨present, ((same_iff response).mpr present).trans accepted.symm⟩

end ServerResponse

end TCPunch
