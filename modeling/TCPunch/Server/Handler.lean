import TCPunch.Lib.Program
import TCPunch.Registry.Types

/-! # The connection handler

`handle_connection` (`server.rs`) as a program over what it asks of its
surroundings: the socket, the registry, the channel it waits on and the metrics.
Everything the text decides is here; how requests are answered, and with what
interleaving, is decided by whoever runs the program.

Reading a request covers `read_exact` under its timeout and `ClientRequest::from_bytes`
on the bytes read.
-/

namespace TCPunch

/-- The cause of a failed read or write. -/
abbrev IoError := String

/-- What became of the request. -/
inductive ReadOutcome where
  | request (request : ClientRequest)
  | rejected (error : ProtocolError)
  | failed (error : IoError)
  /-- `recv_timeout` passed first. -/
  | elapsed
  deriving Repr, DecidableEq

/-- What became of `timeout(peer_wait_timeout, peer_notify)`. -/
inductive PeerWait where
  | arrived (peerInfo : PeerConnectionData)
  /-- The sender was dropped. -/
  | closed
  | elapsed
  deriving Repr, DecidableEq

/-- What a handler asks of its surroundings. -/
inductive HandlerCall where
  | readRequest
  | register (request : Request)
  | writeAll (frame : ServerResponse)
  | awaitPeer (channel : Chan)
  | unregister (pairingName : String) (token : Uuid)
  | pairingSucceeded
  | timeoutOccurred
  deriving DecidableEq

/-- The answers, as far as the handler looks at them. -/
@[reducible] def HandlerCall.Reply : HandlerCall → Type
  | .readRequest => ReadOutcome
  | .register _ => Except RegistryError RegistrationResult
  | .writeAll _ => Except IoError Unit
  | .awaitPeer _ => PeerWait
  | .unregister _ _ => Unit
  | .pairingSucceeded => Unit
  | .timeoutOccurred => Unit

namespace Handler

abbrev Code := Program HandlerCall.Reply

def readRequest : Code ReadOutcome := .call .readRequest .done

def register (request : Request) : Code (Except RegistryError RegistrationResult) :=
  .call (.register request) .done

def writeAll (frame : ServerResponse) : Code (Except IoError Unit) := .call (.writeAll frame) .done

def awaitPeer (channel : Chan) : Code PeerWait := .call (.awaitPeer channel) .done

def unregister (pairingName : String) (token : Uuid) : Code Unit :=
  .call (.unregister pairingName token) .done

def pairingSucceeded : Code Unit := .call .pairingSucceeded .done

def timeoutOccurred : Code Unit := .call .timeoutOccurred .done

/-- Write the last frame and count the session, unless the write fails. -/
def finishWith (frame : ServerResponse) (count : Code Unit) : Code (Except IoError Unit) := do
  match ← writeAll frame with
  | .error e => return .error e
  | .ok () =>
      count
      return .ok ()

/-- What a waiting handler knows: its client, and the wait it was told to begin. -/
structure Wait where
  clientInfo : PeerConnectionData
  pairingName : String
  token : Uuid
  peerNotify : Chan
  deriving Repr, DecidableEq

/-- Wait for the peer with a timeout, and tell the client what came of it. -/
def awaitAndFinish (wait : Wait) : Code (Except IoError Unit) := do
  match ← awaitPeer wait.peerNotify with
  | .arrived peerInfo =>
      finishWith (ServerResponse.paired wait.clientInfo peerInfo wait.token) pairingSucceeded
  | .closed =>
      finishWith (ServerResponse.timeout wait.clientInfo wait.token) timeoutOccurred
  | .elapsed =>
      unregister wait.pairingName wait.token
      finishWith (ServerResponse.timeout wait.clientInfo wait.token) timeoutOccurred

/-- The handler of a client that was told to wait. -/
def waitForPeer (wait : Wait) : Code (Except IoError Unit) := do
  match ← writeAll (ServerResponse.waiting wait.clientInfo wait.token) with
  | .error e => return .error e
  | .ok () => awaitAndFinish wait

/-- The handler from the registration on. -/
def registerAndServe (request : Request) : Code (Except IoError Unit) := do
  let clientInfo := request.clientInfo
  let pairingName := request.pairingName
  match ← register request with
  | .ok (.paired token peerInfo) =>
      finishWith (ServerResponse.paired clientInfo peerInfo token) pairingSucceeded
  | .ok (.waiting token peerNotify) =>
      waitForPeer { clientInfo, pairingName, token, peerNotify }
  | .ok (.resumed token peerNotify) =>
      waitForPeer { clientInfo, pairingName, token, peerNotify }
  | .error _ => writeAll ServerResponse.error

/-- The handler of a client with an IPv4 address. -/
def readAndServe (clientInfo : PeerConnectionData) : Code (Except IoError Unit) := do
  match ← readRequest with
  | .failed e => return .error e
  | .elapsed =>
      timeoutOccurred
      return .ok ()
  | .rejected _ => writeAll ServerResponse.error
  | .request request =>
      registerAndServe
        { pairingName := request.pairingName
          clientInfo
          reconnectToken := request.reconnectToken }

/-- Handle a single client connection. -/
def handleConnection (peerAddr : SocketAddr) : Code (Except IoError Unit) :=
  match PeerConnectionData.fromSocketAddr peerAddr with
  | none => writeAll ServerResponse.error
  | some clientInfo => readAndServe clientInfo

end Handler

end TCPunch
