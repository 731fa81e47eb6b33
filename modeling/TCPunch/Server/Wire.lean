import TCPunch.Protocol.Codec
import TCPunch.Server.Handler

/-! # What a client sees of its session

A whole session at the level of bytes: the request is read from what arrives, and each
frame goes out in the server's encoding. The frames that a handler means to write are its
script; they are written in order up to the first write that fails.
-/

namespace TCPunch

namespace Handler

/-- The surroundings of one session. -/
structure Session where
  /-- The bytes that arrive until the read ends. -/
  received : List UInt8
  /-- How a read ends that does not get all its bytes: with an error, or by its timeout. -/
  broken : Option IoError
  register : Request → Except RegistryError RegistrationResult
  wait : Chan → PeerWait
  /-- The outcome of each `write_all`, in order. One that fails has written less than the frame. -/
  write : Nat → Except (IoError × Fin serverResponseSize) Unit

/-- The frames that were to be written so far, and the bytes that were. -/
structure Wire where
  attempted : List ServerResponse
  written : List UInt8
  deriving Repr, DecidableEq

namespace Session

variable (uuid : UuidText) (session : Session)

/-- `read_exact` under its timeout, and `ClientRequest::from_bytes` on what it read. -/
def read : ReadOutcome :=
  if clientRequestSize ≤ session.received.length then
    match (ClientRequest.fromBytes uuid (session.received.take clientRequestSize)).run with
    | some (.ok request) => .request request
    | some (.error e) => .rejected e
    -- The decoder would leave the buffer; `fromBytes_isSome` excludes it.
    | none => .failed "index out of range"
  else
    match session.broken with
    | some e => .failed e
    | none => .elapsed

def writeAll (wire : Wire) (frame : ServerResponse) : Except IoError Unit × Wire :=
  let attempted := wire.attempted ++ [frame]
  match ServerResponse.toBytes uuid frame with
  | some bytes =>
      match session.write wire.attempted.length with
      | .ok () => (.ok (), { attempted, written := wire.written ++ bytes })
      | .error (e, count) => (.error e, { attempted, written := wire.written ++ bytes.take count })
  -- The encoder would leave the buffer; `exists_toBytes` excludes it.
  | none => (.error "index out of range", { wire with attempted })

def answer : (call : HandlerCall) → Wire → call.Reply × Wire
  | .readRequest, wire => (session.read uuid, wire)
  | .register request, wire => (session.register request, wire)
  | .writeAll frame, wire => session.writeAll uuid wire frame
  | .awaitPeer channel, wire => (session.wait channel, wire)
  | .unregister _ _, wire => ((), wire)
  | .pairingSucceeded, wire => ((), wire)
  | .timeoutOccurred, wire => ((), wire)

/-- The bytes on the wire, and the frames behind them, when `handle_connection` has returned. -/
def serve (peerAddr : SocketAddr) : Wire :=
  ((handleConnection peerAddr).run (session.answer uuid) ⟨[], []⟩).2

/-! ## The script of a session -/

/-- The second frame for a client that was told to wait. -/
def lastFrame (info : PeerConnectionData) (token : Uuid) (channel : Chan) : ServerResponse :=
  match session.wait channel with
  | .arrived peer => .paired info peer token
  | .closed | .elapsed => .timeout info token

def waitingScript (info : PeerConnectionData) (token : Uuid) (channel : Chan) : List ServerResponse :=
  [.waiting info token, session.lastFrame info token channel]

/-- The frames for a registered client. -/
def registeredScript (info : PeerConnectionData) :
    Except RegistryError RegistrationResult → List ServerResponse
  | .ok (.paired token peer) => [.paired info peer token]
  | .ok (.waiting token channel) => session.waitingScript info token channel
  | .ok (.resumed token channel) => session.waitingScript info token channel
  | .error _ => [.error]

/-- The frames that the handler writes if no write fails. -/
def script (peerAddr : SocketAddr) : List ServerResponse :=
  match PeerConnectionData.fromSocketAddr peerAddr with
  | none => [.error]
  | some info =>
      match session.read uuid with
      | .failed _ | .elapsed => []
      | .rejected _ => [.error]
      | .request request =>
          session.registeredScript info
            (session.register ⟨request.pairingName, info, request.reconnectToken⟩)

/-- Frames are written in order up to the first write that fails. -/
def deliver : Wire → List ServerResponse → Wire
  | wire, [] => wire
  | wire, frame :: frames =>
      match session.writeAll uuid wire frame with
      | (.ok (), wire) => deliver wire frames
      | (.error _, wire) => wire

variable {uuid session}

theorem deliver_of_ok {wire wire' : Wire} {frame : ServerResponse} (frames : List ServerResponse)
    (write : session.writeAll uuid wire frame = (.ok (), wire')) :
    session.deliver uuid wire (frame :: frames) = session.deliver uuid wire' frames := by
  rw [deliver, write]

theorem deliver_of_error {wire wire' : Wire} {frame : ServerResponse} {e : IoError}
    (frames : List ServerResponse) (write : session.writeAll uuid wire frame = (.error e, wire')) :
    session.deliver uuid wire (frame :: frames) = wire' := by
  rw [deliver, write]

theorem run_writeAll (frame : ServerResponse) (wire : Wire) :
    ((Handler.writeAll frame).run (session.answer uuid) wire).2 =
      session.deliver uuid wire [frame] := by
  rw [Handler.writeAll, Program.run_call, Program.run_done, answer]
  rcases write : session.writeAll uuid wire frame with ⟨_ | _, wire'⟩
  · rw [deliver_of_error [] write]
  · rw [deliver_of_ok [] write, deliver]

/-- The counters are no part of the wire. -/
theorem run_finishWith (frame : ServerResponse) {count : Code Unit}
    (silent : ∀ wire, (count.run (session.answer uuid) wire).2 = wire) (wire : Wire) :
    ((finishWith frame count).run (session.answer uuid) wire).2 = session.deliver uuid wire [frame] := by
  rw [finishWith, Program.run_bind]
  rw [Handler.writeAll, Program.run_call, Program.run_done, answer]
  rcases write : session.writeAll uuid wire frame with ⟨_ | _, wire'⟩
  · rw [deliver_of_error [] write]
    rfl
  · rw [deliver_of_ok [] write, deliver, Program.run_bind, silent]
    rfl

theorem run_awaitAndFinish (wait : Wait) (wire : Wire) :
    ((awaitAndFinish wait).run (session.answer uuid) wire).2 =
      session.deliver uuid wire [session.lastFrame wait.clientInfo wait.token wait.peerNotify] := by
  rw [awaitAndFinish, Program.run_bind]
  rw [awaitPeer, Program.run_call, Program.run_done, answer, lastFrame]
  cases session.wait wait.peerNotify with
  | arrived peer => exact run_finishWith _ (fun _ => rfl) wire
  | closed => exact run_finishWith _ (fun _ => rfl) wire
  | elapsed =>
      simp only [Handler.unregister, Program.call_bind, Program.run_call, Program.done_bind, answer]
      exact run_finishWith _ (fun _ => rfl) wire

theorem run_waitForPeer (wait : Wait) (wire : Wire) :
    ((waitForPeer wait).run (session.answer uuid) wire).2 =
      session.deliver uuid wire (session.waitingScript wait.clientInfo wait.token wait.peerNotify) := by
  rw [waitForPeer, Program.run_bind, waitingScript]
  rw [Handler.writeAll, Program.run_call, Program.run_done, answer]
  rcases write : session.writeAll uuid wire (.waiting wait.clientInfo wait.token) with ⟨_ | _, wire'⟩
  · rw [deliver_of_error _ write]
    rfl
  · rw [deliver_of_ok _ write]
    exact run_awaitAndFinish wait wire'

theorem run_registerAndServe (request : Request) (wire : Wire) :
    ((registerAndServe request).run (session.answer uuid) wire).2 =
      session.deliver uuid wire
        (session.registeredScript request.clientInfo (session.register request)) := by
  simp only [registerAndServe, Handler.register, Program.call_bind, Program.run_call,
    Program.done_bind, answer]
  cases session.register request with
  | error e => exact run_writeAll _ wire
  | ok result =>
      cases result with
      | waiting token channel => exact run_waitForPeer _ wire
      | paired token peer => exact run_finishWith _ (fun _ => rfl) wire
      | resumed token channel => exact run_waitForPeer _ wire

/-- A handler delivers its script. -/
theorem serve_eq (peerAddr : SocketAddr) :
    session.serve uuid peerAddr = session.deliver uuid ⟨[], []⟩ (session.script uuid peerAddr) := by
  unfold serve handleConnection script
  cases PeerConnectionData.fromSocketAddr peerAddr with
  | none => exact run_writeAll _ _
  | some info =>
      simp only [readAndServe, readRequest, Program.call_bind, Program.run_call, Program.done_bind,
        answer]
      cases session.read uuid with
      | failed e => rfl
      | elapsed => rfl
      | rejected e => exact run_writeAll _ _
      | request request => exact run_registerAndServe _ _

/-! ## What becomes of the script -/

/-- What the client decodes from a frame. A peer at 0.0.0.0:0 reads as none. -/
def seenAs (frame : ServerResponse) : ServerResponse :=
  { frame with peerInfo := ServerResponse.peerOf (frame.peerInfo.getD ServerResponse.noPeer) }

theorem exists_toBytes (uuid : UuidText) (frame : ServerResponse) :
    ∃ bytes, ServerResponse.toBytes uuid frame = some bytes ∧ bytes.length = serverResponseSize ∧
      (ServerResponse.fromBytes uuid bytes).run = some (.ok (seenAs frame)) := by
  have decodes := ServerResponse.fromBytes_toBytes uuid frame
  obtain ⟨bytes, written, decodes⟩ := Option.bind_eq_some_iff.mp decodes
  exact ⟨bytes, written, ServerResponse.length_of_toBytes written, decodes⟩

/-- The bytes are whole frames that decode to the responses, and a rest that is no frame. -/
structure Reads (uuid : UuidText) (bytes : List UInt8) (responses : List ServerResponse)
    (rest : List UInt8) : Prop where
  split : ∃ blocks : List (List UInt8), bytes = blocks.flatten ++ rest ∧
    (∀ block ∈ blocks, block.length = serverResponseSize) ∧
    blocks.map (fun block => (ServerResponse.fromBytes uuid block).run) =
      responses.map fun response => some (.ok response)
  short : rest.length < serverResponseSize

theorem Reads.cons {bytes block rest : List UInt8} {responses : List ServerResponse}
    {response : ServerResponse} (reads : Reads uuid bytes responses rest)
    (whole : block.length = serverResponseSize)
    (decodes : (ServerResponse.fromBytes uuid block).run = some (.ok response)) :
    Reads uuid (block ++ bytes) (response :: responses) rest := by
  obtain ⟨⟨blocks, same, sizes, decoded⟩, short⟩ := reads
  refine ⟨⟨block :: blocks, ?_, ?_, ?_⟩, short⟩
  · rw [same, List.flatten_cons, List.append_assoc]
  · intro b member
    rcases List.mem_cons.mp member with rfl | member
    · exact whole
    · exact sizes b member
  · rw [List.map_cons, List.map_cons, decodes, decoded]

/-- Delivering frames: a first part of them is written whole. If it is not all of them, the
    next one was attempted and failed. -/
theorem deliver_spec (session : Session) (uuid : UuidText) (frames : List ServerResponse)
    (wire : Wire) :
    ∃ sent unsent bytes rest,
      frames = sent ++ unsent ∧
      (session.deliver uuid wire frames).attempted = wire.attempted ++ sent ++ unsent.take 1 ∧
      (session.deliver uuid wire frames).written = wire.written ++ bytes ∧
      Reads uuid bytes (sent.map seenAs) rest ∧
      ((∀ k, session.write k = .ok ()) → unsent = []) ∧ (unsent = [] → rest = []) := by
  induction frames generalizing wire with
  | nil =>
      refine ⟨[], [], [], [], rfl, by simp [deliver], by simp [deliver], ?_, fun _ => rfl, fun _ => rfl⟩
      exact ⟨⟨[], by simp⟩, by decide⟩
  | cons frame frames ih =>
      obtain ⟨block, encoded, whole, decodes⟩ := exists_toBytes uuid frame
      cases outcome : session.write wire.attempted.length with
      | ok _ =>
          obtain ⟨sent, unsent, bytes, rest, rfl, attempted, written, reads, complete, clean⟩ :=
            ih ⟨wire.attempted ++ [frame], wire.written ++ block⟩
          have onward : session.deliver uuid wire (frame :: (sent ++ unsent)) =
              session.deliver uuid ⟨wire.attempted ++ [frame], wire.written ++ block⟩
                (sent ++ unsent) := by
            simp only [deliver, writeAll, encoded, outcome]
          refine ⟨frame :: sent, unsent, block ++ bytes, rest, rfl, ?_, ?_,
            reads.cons whole decodes, complete, clean⟩
          · rw [onward, attempted]
            simp
          · rw [onward, written, List.append_assoc]
      | error failure =>
          obtain ⟨e, count⟩ := failure
          have stops : session.deliver uuid wire (frame :: frames) =
              ⟨wire.attempted ++ [frame], wire.written ++ block.take count⟩ := by
            simp only [deliver, writeAll, encoded, outcome]
          refine ⟨[], frame :: frames, block.take count, block.take count, rfl, ?_, ?_, ?_, ?_, ?_⟩
          · rw [stops]
            simp
          · rw [stops]
          · refine ⟨⟨[], by simp⟩, ?_⟩
            rw [List.length_take, whole]
            omega
          · intro succeeds
            simp [succeeds] at outcome
          · intro nothing
            cases nothing

/-- What has become of frames that were to be written: those sent are on the wire, the first
    of the others failed, and some of its bytes are left over. -/
structure Delivered (uuid : UuidText) (session : Session) (frames sent unsent : List ServerResponse)
    (rest : List UInt8) (wire : Wire) : Prop where
  split : frames = sent ++ unsent
  attempted : wire.attempted = sent ++ unsent.take 1
  reads : Reads uuid wire.written (sent.map seenAs) rest
  complete : (∀ k, session.write k = .ok ()) → unsent = []
  clean : unsent = [] → rest = []

theorem serve_delivers (uuid : UuidText) (session : Session) (peerAddr : SocketAddr) :
    ∃ sent unsent rest, Delivered uuid session (session.script uuid peerAddr) sent unsent rest
      (session.serve uuid peerAddr) := by
  obtain ⟨sent, unsent, bytes, rest, split, attempted, written, reads, complete, clean⟩ :=
    session.deliver_spec uuid (session.script uuid peerAddr) ⟨[], []⟩
  rw [← serve_eq, List.nil_append] at attempted written
  exact ⟨sent, unsent, rest, split, attempted, written ▸ reads, complete, clean⟩

theorem Reads.eq_rest {bytes rest : List UInt8} (reads : Reads uuid bytes [] rest) : bytes = rest := by
  obtain ⟨⟨blocks, same, -, decoded⟩, -⟩ := reads
  rw [List.map_nil, List.map_eq_nil_iff] at decoded
  simpa [decoded] using same

@[simp] theorem map_status_seenAs (frames : List ServerResponse) :
    (frames.map seenAs).map ServerResponse.status = frames.map ServerResponse.status := by
  rw [List.map_map]
  rfl

namespace Delivered

variable {frames sent unsent : List ServerResponse} {rest : List UInt8} {wire : Wire}

theorem begins (delivered : Delivered uuid session frames sent unsent rest wire) :
    (sent.map seenAs).map ServerResponse.status <+: frames.map ServerResponse.status := by
  rw [map_status_seenAs, delivered.split, List.map_append]
  exact List.prefix_append _ _

theorem length_le (delivered : Delivered uuid session frames sent unsent rest wire) :
    (sent.map seenAs).length ≤ frames.length := by
  rw [delivered.split, List.length_map, List.length_append]
  omega

theorem attempted_eq_nil_iff (delivered : Delivered uuid session frames sent unsent rest wire) :
    wire.attempted = [] ↔ frames = [] := by
  rw [delivered.attempted, delivered.split]
  simp

theorem written_of_nil (delivered : Delivered uuid session [] sent unsent rest wire) :
    wire.written = [] := by
  obtain ⟨split, -, reads, -, clean⟩ := delivered
  obtain ⟨rfl, rfl⟩ := List.append_eq_nil_iff.mp split.symm
  rw [reads.eq_rest]
  exact clean rfl

theorem mem_of_attempted (delivered : Delivered uuid session frames sent unsent rest wire)
    {frame : ServerResponse} (member : frame ∈ wire.attempted) : frame ∈ frames := by
  rw [delivered.attempted] at member
  rw [delivered.split]
  rcases List.mem_append.mp member with member | member
  · exact List.mem_append_left _ member
  · exact List.mem_append_right _ (List.mem_of_mem_take member)

theorem attempted_single {frame : ServerResponse}
    (delivered : Delivered uuid session [frame] sent unsent rest wire) : wire.attempted = [frame] := by
  have short : unsent.length ≤ 1 := by
    have size := congrArg List.length delivered.split
    rw [List.length_append, List.length_singleton] at size
    omega
  rw [delivered.attempted, List.take_of_length_le short, ← delivered.split]

theorem eq_pair (delivered : Delivered uuid session frames sent unsent rest wire)
    (bound : frames.length ≤ 2) {first second : ServerResponse}
    (two : sent.map seenAs = [first, second]) :
    ∃ a b, frames = [a, b] ∧ first = seenAs a ∧ second = seenAs b := by
  obtain ⟨a, others, rfl, rfl, more⟩ := List.map_eq_cons_iff.mp two
  obtain ⟨b, last, rfl, rfl, -⟩ := List.map_eq_cons_iff.mp more
  have split := delivered.split
  rw [split] at bound
  simp only [List.cons_append, List.length_cons] at bound split
  have nothing : last ++ unsent = [] := List.length_eq_zero_iff.mp (by omega)
  rw [nothing] at split
  exact ⟨a, b, split, rfl, rfl⟩

end Delivered

/-! ## The grammar -/

/-- The request arrives in full, and the decoder makes this of it. -/
def Receives (uuid : UuidText) (session : Session) (outcome : Except ProtocolError ClientRequest) :
    Prop :=
  clientRequestSize ≤ session.received.length ∧
    (ClientRequest.fromBytes uuid (session.received.take clientRequestSize)).run = some outcome

theorem fromBytes_isSome (uuid : UuidText) (long : clientRequestSize ≤ session.received.length) :
    ∃ outcome, Receives uuid session outcome := by
  have whole : clientRequestSize ≤ (session.received.take clientRequestSize).length := by
    rw [List.length_take]
    omega
  exact ⟨_, long, by rw [ClientRequest.fromBytes_eq uuid whole, Decoder.run_sure]⟩

theorem read_cases (uuid : UuidText) (session : Session) :
    (session.received.length < clientRequestSize ∧
      (session.read uuid = .elapsed ∨ ∃ e, session.read uuid = .failed e)) ∨
    (∃ e, Receives uuid session (.error e) ∧ session.read uuid = .rejected e) ∨
    ∃ request, Receives uuid session (.ok request) ∧ session.read uuid = .request request := by
  by_cases long : clientRequestSize ≤ session.received.length
  · obtain ⟨outcome, receives⟩ := fromBytes_isSome uuid long
    have decoded := receives.2
    cases outcome with
    | error e => exact .inr (.inl ⟨e, receives, by simp only [read, if_pos long, decoded]⟩)
    | ok request => exact .inr (.inr ⟨request, receives, by simp only [read, if_pos long, decoded]⟩)
  · refine .inl ⟨Nat.not_le.mp long, ?_⟩
    cases broken : session.broken with
    | none => exact .inl (by simp only [read, if_neg long, broken])
    | some e => exact .inr ⟨e, by simp only [read, if_neg long, broken]⟩

/-- The handler has to answer with ERROR: the peer has an IPv6 address, its request is
    rejected, or the registry fails. -/
def Errs (uuid : UuidText) (session : Session) (peerAddr : SocketAddr) : Prop :=
  (∃ ip port, peerAddr = .v6 ip port) ∨
    ∃ ip port, peerAddr = .v4 ip port ∧
      ((∃ e, Receives uuid session (.error e)) ∨
        ∃ request e, Receives uuid session (.ok request) ∧
          session.register ⟨request.pairingName, ⟨ip, port⟩, request.reconnectToken⟩ = .error e)

/-- The registry tells the client to wait, and gives it this token. -/
def ToldToWait (uuid : UuidText) (session : Session) (peerAddr : SocketAddr)
    (info : PeerConnectionData) (token : Uuid) : Prop :=
  peerAddr = .v4 info.ip info.port ∧ ∃ request channel, Receives uuid session (.ok request) ∧
    (session.register ⟨request.pairingName, info, request.reconnectToken⟩ =
        .ok (.waiting token channel) ∨
      session.register ⟨request.pairingName, info, request.reconnectToken⟩ =
        .ok (.resumed token channel))

theorem errs_v6 (ip : BitVec 128) (port : UInt16) : Errs uuid session (.v6 ip port) :=
  .inl ⟨ip, port, rfl⟩

theorem errs_v4_iff (ip : Ipv4Addr) (port : UInt16) :
    Errs uuid session (.v4 ip port) ↔
      (∃ e, Receives uuid session (.error e)) ∨
        ∃ request e, Receives uuid session (.ok request) ∧
          session.register ⟨request.pairingName, ⟨ip, port⟩, request.reconnectToken⟩ = .error e := by
  constructor
  · intro errs
    rcases errs with ⟨_, _, same⟩ | ⟨_, _, same, errs⟩
    · cases same
    · cases same
      exact errs
  · intro errs
    exact .inr ⟨ip, port, rfl, errs⟩

theorem Receives.unique {left right : Except ProtocolError ClientRequest}
    (one : Receives uuid session left) (other : Receives uuid session right) : left = right :=
  Option.some.inj (one.2.symm.trans other.2)

theorem not_errs_of_registered {ip : Ipv4Addr} {port : UInt16} {request : ClientRequest}
    {result : RegistrationResult} (receives : Receives uuid session (.ok request))
    (registered : session.register ⟨request.pairingName, ⟨ip, port⟩, request.reconnectToken⟩ =
      .ok result) : ¬ Errs uuid session (.v4 ip port) := by
  rw [errs_v4_iff]
  rintro (⟨e, rejected⟩ | ⟨request', e, receives', failed⟩)
  · cases receives.unique rejected
  · cases receives.unique receives'
    rw [registered] at failed
    cases failed

theorem lastFrame_cases (session : Session) (info : PeerConnectionData) (token : Uuid)
    (channel : Chan) :
    (∃ peer, session.lastFrame info token channel = .paired info peer token) ∨
      session.lastFrame info token channel = .timeout info token := by
  unfold lastFrame
  cases session.wait channel with
  | arrived peer => exact .inl ⟨peer, rfl⟩
  | closed | elapsed => exact .inr rfl

theorem script_cases (uuid : UuidText) (session : Session) (peerAddr : SocketAddr) :
    (session.script uuid peerAddr = [] ∧ ¬ Errs uuid session peerAddr ∧
      (∃ ip port, peerAddr = .v4 ip port) ∧ session.received.length < clientRequestSize) ∨
    (session.script uuid peerAddr = [.error] ∧ Errs uuid session peerAddr) ∨
    (∃ info peer token, session.script uuid peerAddr = [.paired info peer token] ∧
      ¬ Errs uuid session peerAddr) ∨
    ∃ info token last, session.script uuid peerAddr = [.waiting info token, last] ∧
      ¬ Errs uuid session peerAddr ∧ ToldToWait uuid session peerAddr info token ∧
      ((∃ peer, last = .paired info peer token) ∨ last = .timeout info token) := by
  cases peerAddr with
  | v6 ip port => exact .inr (.inl ⟨rfl, errs_v6 ip port⟩)
  | v4 ip port =>
      simp only [script, PeerConnectionData.fromSocketAddr]
      rcases read_cases uuid session with ⟨short, outcome⟩ | ⟨e, rejected, outcome⟩ |
        ⟨request, receives, outcome⟩
      · refine .inl ⟨?_, ?_, ⟨ip, port, rfl⟩, short⟩
        · rcases outcome with outcome | ⟨e, outcome⟩ <;> rw [outcome]
        · rw [errs_v4_iff]
          rintro (⟨e, receives⟩ | ⟨request, e, receives, -⟩) <;>
            exact absurd receives.1 (Nat.not_le.mpr short)
      · exact .inr (.inl ⟨by rw [outcome], (errs_v4_iff ip port).mpr (.inl ⟨e, rejected⟩)⟩)
      · simp only [outcome]
        cases registered :
            session.register ⟨request.pairingName, ⟨ip, port⟩, request.reconnectToken⟩ with
        | error e =>
            exact .inr (.inl ⟨rfl, (errs_v4_iff ip port).mpr (.inr ⟨request, e, receives, registered⟩)⟩)
        | ok result =>
            have fine := not_errs_of_registered receives registered
            cases result with
            | paired token peer => exact .inr (.inr (.inl ⟨_, _, _, rfl, fine⟩))
            | waiting token channel =>
                exact .inr (.inr (.inr ⟨_, _, _, rfl, fine,
                  ⟨rfl, request, channel, receives, .inl registered⟩, lastFrame_cases ..⟩))
            | resumed token channel =>
                exact .inr (.inr (.inr ⟨_, _, _, rfl, fine,
                  ⟨rfl, request, channel, receives, .inr registered⟩, lastFrame_cases ..⟩))

/-- The sequences of statuses that a session may consist of. -/
def grammar : List (List PairingStatus) :=
  [[.error], [.paired], [.waiting, .paired], [.waiting, .timeout]]

theorem script_statuses (uuid : UuidText) (session : Session) (peerAddr : SocketAddr) :
    session.script uuid peerAddr = [] ∨
      (session.script uuid peerAddr).map ServerResponse.status ∈ grammar := by
  rcases script_cases uuid session peerAddr with ⟨same, -⟩ | ⟨same, -⟩ | ⟨_, _, _, same, -⟩ |
    ⟨_, _, _, same, -, -, ⟨_, rfl⟩ | rfl⟩
  · exact .inl same
  · simp [same, grammar, ServerResponse.error]
  · simp [same, grammar, ServerResponse.paired]
  · simp [same, grammar, ServerResponse.waiting, ServerResponse.paired]
  · simp [same, grammar, ServerResponse.waiting, ServerResponse.timeout]

theorem script_length_le (uuid : UuidText) (session : Session) (peerAddr : SocketAddr) :
    (session.script uuid peerAddr).length ≤ 2 := by
  have bound : ∀ statuses ∈ grammar, statuses.length ≤ 2 := by decide
  rcases script_statuses uuid session peerAddr with none | statuses
  · simp [none]
  · simpa using bound _ statuses

theorem script_eq_nil_iff (uuid : UuidText) (session : Session) (peerAddr : SocketAddr) :
    session.script uuid peerAddr = [] ↔
      (∃ ip port, peerAddr = .v4 ip port) ∧ session.received.length < clientRequestSize := by
  constructor
  · intro nothing
    rcases script_cases uuid session peerAddr with ⟨-, -, both⟩ | ⟨same, -⟩ | ⟨_, _, _, same, -⟩ |
      ⟨_, _, _, same, -⟩
    · exact both
    all_goals simp [nothing] at same
  · rintro ⟨⟨ip, port, rfl⟩, short⟩
    simp only [script, PeerConnectionData.fromSocketAddr]
    rcases read_cases uuid session with ⟨-, outcome | ⟨e, outcome⟩⟩ | ⟨e, receives, -⟩ |
      ⟨request, receives, -⟩
    · rw [outcome]
    · rw [outcome]
    all_goals exact absurd receives.1 (Nat.not_le.mpr short)

/-- A session of two frames is that of a client that was told to wait. -/
theorem two_frames {peerAddr : SocketAddr} {first second : ServerResponse}
    (two : session.script uuid peerAddr = [first, second]) :
    ∃ info token, ToldToWait uuid session peerAddr info token ∧
      first.yourInfo = info ∧ second.yourInfo = info ∧
      first.reconnectToken = token ∧ second.reconnectToken = token := by
  rcases script_cases uuid session peerAddr with ⟨same, -⟩ | ⟨same, -⟩ | ⟨_, _, _, same, -⟩ |
    ⟨info, token, _, same, -, told, kind⟩
  · simp [two] at same
  · simp [two] at same
  · simp [two] at same
  · simp only [two, List.cons.injEq, and_true] at same
    obtain ⟨rfl, rfl⟩ := same
    refine ⟨info, token, told, rfl, ?_⟩
    rcases kind with ⟨peer, rfl⟩ | rfl <;> exact ⟨rfl, rfl, rfl⟩

theorem error_mem_script_iff (uuid : UuidText) (session : Session) (peerAddr : SocketAddr) :
    ((∃ frame ∈ session.script uuid peerAddr, frame.status = .error) ↔ Errs uuid session peerAddr) ∧
      (Errs uuid session peerAddr → session.script uuid peerAddr = [.error]) := by
  rcases script_cases uuid session peerAddr with ⟨same, fine, -⟩ | ⟨same, errs⟩ |
    ⟨_, _, _, same, fine⟩ | ⟨_, _, _, same, fine, -, ⟨_, rfl⟩ | rfl⟩
  · simp [same, fine]
  · simp [same, errs, ServerResponse.error]
  · simp [same, fine, ServerResponse.paired]
  · simp [same, fine, ServerResponse.waiting, ServerResponse.paired]
  · simp [same, fine, ServerResponse.waiting, ServerResponse.timeout]

/-- What `handle_connection` writes, whatever it receives and whatever the registry, the
    channel, the timers and the writes do: whole frames whose statuses begin a sequence of the
    grammar, followed by a part of a frame only if a write fails. An IPv4 peer whose request
    does not arrive in full is told nothing. ERROR is what the handler means to write exactly
    when the session cannot be served. Both frames of a longer session carry the peer's own
    address and the token of its registration. -/
theorem session_follows_grammar (uuid : UuidText) (session : Session) (peerAddr : SocketAddr) :
    let wire := session.serve uuid peerAddr
    ∃ responses rest, Reads uuid wire.written responses rest ∧
      responses.length ≤ 2 ∧
      (∃ statuses ∈ grammar, responses.map ServerResponse.status <+: statuses) ∧
      ((∀ k, session.write k = .ok ()) →
        rest = [] ∧ (responses = [] ∨ responses.map ServerResponse.status ∈ grammar)) ∧
      (wire.attempted = [] ↔
        (∃ ip port, peerAddr = .v4 ip port) ∧ session.received.length < clientRequestSize) ∧
      (wire.attempted = [] → wire.written = []) ∧
      ((∃ frame ∈ wire.attempted, frame.status = .error) ↔ Errs uuid session peerAddr) ∧
      (Errs uuid session peerAddr → wire.attempted = [ServerResponse.error]) ∧
      ∀ first second, responses = [first, second] →
        ∃ info token, ToldToWait uuid session peerAddr info token ∧
          first.yourInfo = info ∧ second.yourInfo = info ∧
          first.reconnectToken = token ∧ second.reconnectToken = token := by
  intro wire
  obtain ⟨sent, unsent, rest, delivered⟩ := serve_delivers uuid session peerAddr
  have bound := script_length_le uuid session peerAddr
  have statuses := script_statuses uuid session peerAddr
  obtain ⟨errors, single⟩ := error_mem_script_iff uuid session peerAddr
  have alone : Errs uuid session peerAddr → wire.attempted = [ServerResponse.error] := by
    intro errs
    rw [single errs] at delivered
    exact delivered.attempted_single
  refine ⟨sent.map seenAs, rest, delivered.reads, delivered.length_le.trans bound, ?_, ?_, ?_, ?_, ?_,
    alone, ?_⟩
  · rcases statuses with nothing | statuses
    · have begins := delivered.begins
      rw [nothing] at begins
      exact ⟨_, .head _, begins.trans List.nil_prefix⟩
    · exact ⟨_, statuses, delivered.begins⟩
  · intro succeeds
    have whole := delivered.complete succeeds
    refine ⟨delivered.clean whole, ?_⟩
    rw [delivered.split, whole, List.append_nil] at statuses
    rw [map_status_seenAs, List.map_eq_nil_iff]
    exact statuses
  · exact delivered.attempted_eq_nil_iff.trans (script_eq_nil_iff uuid session peerAddr)
  · intro nothing
    rw [delivered.attempted_eq_nil_iff.mp nothing] at delivered
    exact delivered.written_of_nil
  · constructor
    · intro failed
      obtain ⟨frame, member, failed⟩ := failed
      exact errors.mp ⟨frame, delivered.mem_of_attempted member, failed⟩
    · intro errs
      rw [alone errs]
      exact ⟨_, .head _, rfl⟩
  · intro first second two
    obtain ⟨a, b, pair, rfl, rfl⟩ := delivered.eq_pair bound two
    -- The decoder gives back address and token as they were.
    have same := two_frames pair
    exact same

end Session

end Handler

end TCPunch
