import Mathlib.Data.BitVec

/-! # Messages of the wire protocol

The values exchanged with clients (`protocol.rs`). The byte layout is a separate
concern: handlers decide which of these values to write, and this module only
says what the values are.
-/

namespace TCPunch

/-- `uuid::Uuid`, sixteen bytes compared as one 128-bit word. -/
structure Uuid where
  bits : BitVec 128
  deriving Repr, DecidableEq

/-- `Uuid::nil()`. -/
def Uuid.nil : Uuid := ⟨0⟩

/-- `std::net::Ipv4Addr` by its octets. -/
structure Ipv4Addr where
  a : UInt8
  b : UInt8
  c : UInt8
  d : UInt8
  deriving Repr, DecidableEq

/-- `Ipv4Addr::UNSPECIFIED`. -/
def Ipv4Addr.unspecified : Ipv4Addr := ⟨0, 0, 0, 0⟩

/-- The public address under which the server saw a client. -/
structure PeerConnectionData where
  ip : Ipv4Addr
  port : UInt16
  deriving Repr, DecidableEq

/-- `std::net::SocketAddr`. -/
inductive SocketAddr where
  | v4 (ip : Ipv4Addr) (port : UInt16)
  | v6 (ip : BitVec 128) (port : UInt16)
  deriving Repr, DecidableEq

/-- IPv6 is not supported by the protocol. -/
def PeerConnectionData.fromSocketAddr : SocketAddr → Option PeerConnectionData
  | .v4 ip port => some { ip, port }
  | .v6 _ _ => none

/-- Request from client to server. -/
structure ClientRequest where
  pairingName : String
  reconnectToken : Option Uuid
  deriving Repr, DecidableEq

/-- Errors of the wire format. -/
inductive ProtocolError where
  | invalidLength (expected got : Nat)
  | emptyPairingName
  | invalidToken
  | invalidUtf8
  deriving Repr, DecidableEq

/-- Status codes sent to clients. -/
inductive PairingStatus where
  | waiting
  | paired
  | timeout
  | error
  deriving Repr, DecidableEq

/-- Response from server to client. -/
structure ServerResponse where
  status : PairingStatus
  yourInfo : PeerConnectionData
  peerInfo : Option PeerConnectionData
  reconnectToken : Uuid
  deriving Repr, DecidableEq

namespace ServerResponse

def waiting (yourInfo : PeerConnectionData) (token : Uuid) : ServerResponse :=
  { status := .waiting, yourInfo, peerInfo := none, reconnectToken := token }

def paired (yourInfo peerInfo : PeerConnectionData) (token : Uuid) : ServerResponse :=
  { status := .paired, yourInfo, peerInfo := some peerInfo, reconnectToken := token }

def timeout (yourInfo : PeerConnectionData) (token : Uuid) : ServerResponse :=
  { status := .timeout, yourInfo, peerInfo := none, reconnectToken := token }

def error : ServerResponse :=
  { status := .error, yourInfo := ⟨.unspecified, 0⟩, peerInfo := none, reconnectToken := .nil }

end ServerResponse

end TCPunch
