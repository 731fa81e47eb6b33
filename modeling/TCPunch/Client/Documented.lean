import TCPunch.Protocol.Guide
import TCPunch.Server.Conversation
import TCPunch.Server.Wire

/-! # The retry loop of the migration guide

The guide's Rust client connects again and again, shows the token of the last session, and
reads blocks from what the server writes before it closes the connection. Here the loop runs
against whole sessions of the server, at the level of bytes. With blocks of the size that the
server uses, the loop does what it is meant to do, and that is said by a second loop over
requests and frames. With blocks of the documented size it never comes to a peer.

The guide has builders in four languages, which do not cut a long name at the same place.
-/

namespace TCPunch.Guide

open Bytes Handler

/-! ## The builders -/

/-- A name and a token in a buffer of zeros, each cut at a limit. -/
def fill (nameLimit tokenLimit : Nat) (name token : List UInt8) : Option (List UInt8) := do
  let buf ← overwrite (zeros clientRequestSize) 0 (name.take nameLimit)
  if token ≠ [] then
    overwrite buf maxPairingName (token.take tokenLimit)
  else
    return buf

/-- `build_request` in Rust; the token may be missing. -/
def buildRequest (pairingName : List UInt8) (token : Option (List UInt8)) : Option (List UInt8) :=
  fill (maxPairingName - 1) (tokenLength - 1) pairingName (token.getD [])

/-- `build_request` in C++. -/
def buildRequestCpp (pairingName token : List UInt8) : Option (List UInt8) := fill 99 36 pairingName token

/-- `build_request` in Python. -/
def buildRequestPython (pairingName token : List UInt8) : Option (List UInt8) := fill 99 36 pairingName token

/-- `BuildRequest` in Go: `copy` into the field of the name, and into all that is behind it. -/
def buildRequestGo (pairingName token : List UInt8) : Option (List UInt8) :=
  fill maxPairingName (clientRequestSize - maxPairingName) pairingName token

theorem fill_layout {nameLimit tokenLimit : Nat} (named : nameLimit ≤ maxPairingName)
    (room : tokenLimit ≤ tokenLength + 4) (name token : List UInt8) :
    fill nameLimit tokenLimit name token = some (field maxPairingName (name.take nameLimit) ++
      field (tokenLength + 4) (token.take tokenLimit)) := by
  unfold fill
  exact overwrite_fields ((List.length_take_le nameLimit name).trans named) room

theorem pairingName_of_filled {uuid : UuidText} {nameLimit tokenLimit : Nat} {name token bytes : List UInt8}
    {request : ClientRequest} (named : nameLimit ≤ maxPairingName) (room : tokenLimit ≤ tokenLength + 4)
    (built : fill nameLimit tokenLimit name token = some bytes)
    (decoded : (ClientRequest.fromBytes uuid bytes).run = some (.ok request)) :
    ofString request.pairingName = untilNul (name.take nameLimit) := by
  have fits := (List.length_take_le nameLimit name).trans named
  have whole := length_field ((List.length_take_le tokenLimit token).trans room)
  rw [fill_layout named room, Option.some.injEq] at built
  subst built
  exact ClientRequest.pairingName_of_field fits whole decoded

/-- One byte more is one byte more of the name, unless the name has ended before. -/
theorem untilNul_take_succ_iff (name : List UInt8) (n : Nat) :
    untilNul (name.take n) = untilNul (name.take (n + 1)) ↔ name.length < n + 1 ∨ 0 ∈ name.take (n + 1) := by
  induction name generalizing n with
  | nil => simp
  | cons b bs ih =>
      cases n with
      | zero =>
          by_cases nul : b = 0
          · simp [untilNul, nul]
          · simp [untilNul, nul, Ne.symm nul]
      | succ n =>
          have next := ih n
          by_cases nul : b = 0
          · simp [untilNul, nul]
          · simp only [untilNul, List.take_succ_cons, List.length_cons, List.mem_cons, Ne.symm nul] at next ⊢
            simpa [nul] using next

/-- A client in Go and one in another language of the guide that are given one name ask the
    server for the same name, unless the name has 100 bytes or more and no NUL among them. -/
theorem go_asks_for_same_name {uuid : UuidText} (name token : List UInt8) {bytes go : List UInt8}
    {asked other : ClientRequest}
    (built : some bytes ∈ [buildRequest name (some token), buildRequestCpp name token,
      buildRequestPython name token])
    (builtGo : buildRequestGo name token = some go)
    (read : (ClientRequest.fromBytes uuid bytes).run = some (.ok asked))
    (readGo : (ClientRequest.fromBytes uuid go).run = some (.ok other)) :
    asked.pairingName = other.pairingName ↔ name.length < maxPairingName ∨ 0 ∈ name.take maxPairingName := by
  have filled : fill 99 36 name token = some bytes := by
    simp only [List.mem_cons, List.not_mem_nil, or_false] at built
    rcases built with same | same | same
    · exact same.symm
    · exact same.symm
    · exact same.symm
  have front := pairingName_of_filled (by decide) (by decide) filled read
  have frontGo := pairingName_of_filled (by decide) (by decide) builtGo readGo
  rw [← ofString_injective.eq_iff, front, frontGo]
  exact untilNul_take_succ_iff name 99

/-- A hundred letters: the server takes the name from Go whole, and misses a letter in the others. -/
theorem go_asks_for_hundredth_letter :
    let name := List.replicate 100 97
    let asked : ClientRequest := ⟨String.ofList (List.replicate 99 'a'), none⟩
    let other : ClientRequest := ⟨String.ofList (List.replicate 100 'a'), none⟩
    ∃ bytes go, some bytes ∈ [buildRequest name (some []), buildRequestCpp name [],
        buildRequestPython name []] ∧
      buildRequestGo name [] = some go ∧
      (ClientRequest.fromBytes Uuid.text bytes).run = some (.ok asked) ∧
      (ClientRequest.fromBytes Uuid.text go).run = some (.ok other) ∧
      asked.pairingName ≠ other.pairingName := by
  intro name asked other
  have built : some (List.replicate 99 97 ++ zeros 42) ∈ [buildRequest name (some []),
      buildRequestCpp name [], buildRequestPython name []] := by decide +kernel
  have builtGo : buildRequestGo name [] = some (name ++ zeros 41) := by decide +kernel
  have read : (ClientRequest.fromBytes Uuid.text (List.replicate 99 97 ++ zeros 42)).run =
      some (.ok asked) := by decide +kernel
  have readGo : (ClientRequest.fromBytes Uuid.text (name ++ zeros 41)).run = some (.ok other) := by
    decide +kernel
  refine ⟨_, _, built, builtGo, read, readGo, ?_⟩
  rw [ne_eq, go_asks_for_same_name name [] built builtGo read readGo]
  decide

/-! ## The loop -/

/-- One connection to the server: what the client's system calls and the server's surroundings
    do with it. -/
structure Visit where
  /-- The texts of the errors of `connect` and `write_all`, if they fail. -/
  connectError : Option String
  sendError : Option String
  /-- The text of the error of a `read_exact` that fails. -/
  receiveError : String
  peerAddr : SocketAddr
  /-- How many bytes of the request reach the server before its read ends. -/
  reaches : Nat
  /-- What surrounds the handler. What it receives depends on the request. -/
  session : Session
  /-- How many of the bytes that the server writes arrive before the client's read ends. -/
  arrives : Nat

/-- The session in which the server receives this request. -/
def Visit.sessionOf (visit : Visit) (request : List UInt8) : Session :=
  { visit.session with received := request.take visit.reaches }

/-- What arrives at the client. -/
def Visit.stream (uuid : UuidText) (visit : Visit) (request : List UInt8) : List UInt8 :=
  ((visit.sessionOf request).serve uuid visit.peerAddr).written.take visit.arrives

/-- `pair` from an attempt on, with blocks of the given size. A panic is `none`. The bytes of a
    token are made a text with `from_utf8_lossy`, and the text's bytes are sent. -/
def attempts (uuid : UuidText) (lossy : List UInt8 → List UInt8) (size : Nat) (pairingName : List UInt8)
    (maxRetries : Nat) : Option (List UInt8) → List Visit →
      Option (Except String (PeerConnectionData × PeerConnectionData))
  | _, [] => some (.error ("Failed to pair after " ++ toString maxRetries ++ " retries"))
  | reconnectToken, visit :: later =>
      match visit.connectError with
      | some e => some (.error ("Connect failed: " ++ e))
      | none => do
          let request ← buildRequest pairingName (reconnectToken.map lossy)
          match visit.sendError with
          | some e => return .error ("Send failed: " ++ e)
          | none =>
              match (receive size (visit.stream uuid request)).2 with
              | .receiveFailed => return .error ("Receive failed: " ++ visit.receiveError)
              | .noPeerInfo message => return .error message
              | .paired yourInfo peerInfo => return .ok (yourInfo, peerInfo)
              | .again token => attempts uuid lossy size pairingName maxRetries token later
              | .panicked => none

/-- `pair`, with one visit for each retry. -/
def pair (uuid : UuidText) (lossy : List UInt8 → List UInt8) (size : Nat) (pairingName : List UInt8)
    (visits : List Visit) : Option (Except String (PeerConnectionData × PeerConnectionData)) :=
  attempts uuid lossy size pairingName visits.length none visits

/-! ## The loop over frames -/

/-- The frames that are written whole, from write number `k` on. -/
def Visit.whole (visit : Visit) : Nat → List ServerResponse → List ServerResponse
  | _, [] => []
  | k, frame :: frames =>
      match visit.session.write k with
      | .ok () => frame :: visit.whole (k + 1) frames
      | .error _ => []

/-- What the server means to write to a client whose request it reads. -/
def Visit.script (visit : Visit) (request : ClientRequest) : List ServerResponse :=
  match PeerConnectionData.fromSocketAddr visit.peerAddr with
  | none => [.error]
  | some info =>
      if visit.reaches < clientRequestSize then []
      else
        visit.session.registeredScript info
          (visit.session.register ⟨request.pairingName, info, request.reconnectToken⟩)

/-- The frames that arrive, as the client sees them. -/
def Visit.frames (visit : Visit) (request : ClientRequest) : List ServerResponse :=
  ((visit.whole 0 (visit.script request)).take (visit.arrives / TCPunch.serverResponseSize)).map
    Session.seenAs

/-- How a visit ends, as far as it depends on the frames: an `Attempt` with the token itself in
    place of its text, and without panics. -/
inductive Verdict where
  | receiveFailed
  | noPeerInfo (message : String)
  | paired (yourInfo peerInfo : PeerConnectionData)
  | again (token : Option Uuid)
  deriving Repr, DecidableEq

/-- A client that has been told PAIRED. -/
def Verdict.ofPaired (frame : ServerResponse) (message : String) : Verdict :=
  match frame.peerInfo with
  | some peer => .paired frame.yourInfo peer
  | none => .noPeerInfo message

/-- What the client makes of the frames that arrive. -/
def Verdict.ofFrames : List ServerResponse → Verdict
  | [] => .receiveFailed
  | first :: more =>
      match first.status with
      | .paired => .ofPaired first "No peer info in PAIRED response"
      | .timeout => .again (some first.reconnectToken)
      | .error => .again none
      | .waiting =>
          match more with
          | [] => .again (some first.reconnectToken)
          | second :: _ =>
              if second.status = .paired then .ofPaired second "No peer info"
              else .again (some first.reconnectToken)

/-- The attempt that ends so. -/
def Verdict.attempt (uuid : UuidText) : Verdict → Attempt
  | .receiveFailed => .receiveFailed
  | .noPeerInfo message => .noPeerInfo message
  | .paired yourInfo peerInfo => .paired yourInfo peerInfo
  | .again token => .again (token.map uuid.bytes)

/-- The client visits the server under its name, with the token that it was given last, until it
    is told of a peer or something fails. -/
def meet (pairingName : String) (maxRetries : Nat) :
    Option Uuid → List Visit → Except String (PeerConnectionData × PeerConnectionData)
  | _, [] => .error ("Failed to pair after " ++ toString maxRetries ++ " retries")
  | token, visit :: later =>
      match visit.connectError, visit.sendError with
      | some e, _ => .error ("Connect failed: " ++ e)
      | none, some e => .error ("Send failed: " ++ e)
      | none, none =>
          match Verdict.ofFrames (visit.frames ⟨pairingName, token⟩) with
          | .receiveFailed => .error ("Receive failed: " ++ visit.receiveError)
          | .noPeerInfo message => .error message
          | .paired yourInfo peerInfo => .ok (yourInfo, peerInfo)
          | .again token => meet pairingName maxRetries token later

/-! ## What arrives -/

/-- The stream is these frames, and less than a frame behind them. -/
structure Carries (uuid : UuidText) (frames : List ServerResponse) (rest stream : List UInt8) : Prop where
  bytes : ∃ bytes, wire uuid frames = some bytes ∧ stream = bytes ++ rest
  short : rest.length < TCPunch.serverResponseSize

theorem carries_nil {uuid : UuidText} {rest : List UInt8} (short : rest.length < TCPunch.serverResponseSize) :
    Carries uuid [] rest rest := ⟨⟨[], rfl, rfl⟩, short⟩

theorem Carries.cons {uuid : UuidText} {frame : ServerResponse} {block : List UInt8}
    {frames : List ServerResponse} {rest stream : List UInt8} (carries : Carries uuid frames rest stream)
    (encoded : ServerResponse.toBytes uuid frame = some block) :
    Carries uuid (frame :: frames) rest (block ++ stream) := by
  obtain ⟨⟨bytes, written, rfl⟩, short⟩ := carries
  refine ⟨⟨block ++ bytes, ?_, (List.append_assoc ..).symm⟩, short⟩
  rw [wire_cons encoded, written, Option.map_some]

theorem Carries.uncons {uuid : UuidText} {frame : ServerResponse} {frames : List ServerResponse}
    {rest stream : List UInt8} (carries : Carries uuid (frame :: frames) rest stream) :
    ∃ block tail, stream = block ++ tail ∧ ServerResponse.toBytes uuid frame = some block ∧
      block.length = TCPunch.serverResponseSize ∧ Carries uuid frames rest tail := by
  obtain ⟨⟨bytes, written, rfl⟩, short⟩ := carries
  obtain ⟨block, encoded, size, -⟩ := Session.exists_toBytes uuid frame
  rw [wire_cons encoded, Option.map_eq_some_iff] at written
  obtain ⟨others, written, rfl⟩ := written
  exact ⟨block, others ++ rest, List.append_assoc .., encoded, size, ⟨others, written, rfl⟩, short⟩

theorem Carries.take {uuid : UuidText} {frames : List ServerResponse} {rest stream : List UInt8}
    (carries : Carries uuid frames rest stream) (n : Nat) :
    ∃ rest', Carries uuid (frames.take (n / TCPunch.serverResponseSize)) rest' (stream.take n) := by
  induction frames generalizing stream n with
  | nil =>
      obtain ⟨⟨bytes, written, rfl⟩, short⟩ := carries
      cases written
      rw [List.take_nil, List.nil_append]
      exact ⟨rest.take n, carries_nil ((List.length_take_le' n rest).trans_lt short)⟩
  | cons frame frames ih =>
      obtain ⟨block, tail, rfl, encoded, size, carries⟩ := carries.uncons
      by_cases early : n < TCPunch.serverResponseSize
      · rw [Nat.div_eq_of_lt early, List.take_zero, List.take_append_of_le_length (by omega)]
        refine ⟨_, carries_nil ?_⟩
        rw [List.length_take]
        omega
      · obtain ⟨rest', carries⟩ := ih carries (n - TCPunch.serverResponseSize)
        refine ⟨rest', ?_⟩
        have count : n / TCPunch.serverResponseSize =
            (n - TCPunch.serverResponseSize) / TCPunch.serverResponseSize + 1 :=
          Nat.div_eq_sub_div (by decide) (by omega)
        have whole : block.length ≤ n := by omega
        rw [count, List.take_succ_cons, List.take_append, List.take_of_length_le whole, size]
        exact carries.cons encoded

section Writes

variable {uuid : UuidText} {session : Session} {out : Wire} {frame : ServerResponse} {block : List UInt8}

theorem writeAll_ok (encoded : ServerResponse.toBytes uuid frame = some block)
    (outcome : session.write out.attempted.length = .ok ()) :
    session.writeAll uuid out frame = (.ok (), ⟨out.attempted ++ [frame], out.written ++ block⟩) := by
  simp only [Session.writeAll, encoded, outcome]

theorem writeAll_error {e : IoError} {count : Fin TCPunch.serverResponseSize}
    (encoded : ServerResponse.toBytes uuid frame = some block)
    (outcome : session.write out.attempted.length = .error (e, count)) :
    session.writeAll uuid out frame =
      (.error e, ⟨out.attempted ++ [frame], out.written ++ block.take count⟩) := by
  simp only [Session.writeAll, encoded, outcome]

end Writes

theorem deliver_carries (uuid : UuidText) (visit : Visit) (request : List UInt8)
    (frames : List ServerResponse) (out : Wire) :
    ∃ rest stream, ((visit.sessionOf request).deliver uuid out frames).written = out.written ++ stream ∧
      Carries uuid (visit.whole out.attempted.length frames) rest stream := by
  induction frames generalizing out with
  | nil => exact ⟨[], [], (List.append_nil _).symm, carries_nil (by decide)⟩
  | cons frame frames ih =>
      obtain ⟨block, encoded, size, -⟩ := Session.exists_toBytes uuid frame
      unfold Visit.whole
      cases outcome : visit.session.write out.attempted.length with
      | ok _ =>
          obtain ⟨rest, stream, written, carries⟩ := ih ⟨out.attempted ++ [frame], out.written ++ block⟩
          have succeeds : (visit.sessionOf request).write out.attempted.length = .ok () := outcome
          rw [Session.deliver_of_ok frames (writeAll_ok encoded succeeds), written, List.append_assoc]
          rw [List.length_append, List.length_singleton] at carries
          exact ⟨rest, _, rfl, carries.cons encoded⟩
      | error failure =>
          obtain ⟨e, count⟩ := failure
          have fails : (visit.sessionOf request).write out.attempted.length = .error (e, count) := outcome
          rw [Session.deliver_of_error frames (writeAll_error encoded fails)]
          refine ⟨_, _, rfl, carries_nil ?_⟩
          rw [List.length_take]
          omega

theorem stream_carries (uuid : UuidText) (visit : Visit) (request : List UInt8) :
    ∃ rest, Carries uuid ((visit.whole 0 ((visit.sessionOf request).script uuid visit.peerAddr)).take
      (visit.arrives / TCPunch.serverResponseSize)) rest (visit.stream uuid request) := by
  obtain ⟨rest, stream, written, carries⟩ := deliver_carries uuid visit request
    ((visit.sessionOf request).script uuid visit.peerAddr) ⟨[], []⟩
  rw [← Session.serve_eq, List.nil_append] at written
  unfold Visit.stream
  rw [written]
  exact carries.take visit.arrives

/-- The builder is the encoder of the server's own code. -/
theorem buildRequest_eq (uuid : UuidText) (pairingName : String) (token : Option Uuid) :
    buildRequest (ofString pairingName) (token.map uuid.bytes) =
      ClientRequest.toBytes uuid ⟨pairingName, token⟩ := by
  have text : ((token.map uuid.bytes).getD []).take 36 = ClientRequest.tokenText uuid token := by
    cases token with
    | none => rfl
    | some token => exact List.take_of_length_le (uuid.length_bytes token).le
  have room := (ClientRequest.length_tokenText_lt uuid token).le
  rw [ClientRequest.toBytes_eq, field_append_zeros room]
  unfold buildRequest
  rw [fill_layout (by decide) (by decide)]
  simp only [maxPairingName, tokenLength, Nat.add_one_sub_one] at text ⊢
  rw [text]

theorem script_of_request {uuid : UuidText} {request : ClientRequest} {bytes : List UInt8} (visit : Visit)
    (written : ClientRequest.toBytes uuid request = some bytes)
    (decoded : (ClientRequest.fromBytes uuid bytes).run = some (.ok request)) :
    (visit.sessionOf bytes).script uuid visit.peerAddr = visit.script request := by
  have size := ClientRequest.length_of_toBytes written
  unfold Session.script Visit.script
  cases PeerConnectionData.fromSocketAddr visit.peerAddr with
  | none => rfl
  | some info =>
      by_cases early : visit.reaches < clientRequestSize
      · have broken : ¬ clientRequestSize ≤ (visit.sessionOf bytes).received.length := by
          simp only [Visit.sessionOf, List.length_take]
          omega
        simp only [Session.read, if_neg broken, if_pos early]
        cases (visit.sessionOf bytes).broken with
        | none => rfl
        | some e => rfl
      · have all : (visit.sessionOf bytes).received = bytes := List.take_of_length_le (by omega)
        have whole : clientRequestSize ≤ (visit.sessionOf bytes).received.length := by
          rw [all]
          exact size.ge
        simp only [Session.read, if_pos whole, if_neg early]
        rw [all, List.take_of_length_le size.le, decoded]
        rfl

theorem parseResponse_seenAs {uuid : UuidText} {frame : ServerResponse} {block : List UInt8}
    (written : ServerResponse.toBytes uuid frame = some block) :
    parseResponse block = some (ofServer uuid (Session.seenAs frame)) := by
  have peer : ((Session.seenAs frame).peerInfo.getD ServerResponse.noPeer) =
      frame.peerInfo.getD ServerResponse.noPeer := by
    by_cases absent : frame.peerInfo = some ServerResponse.noPeer
    · rw [Session.seenAs, absent]
      rfl
    · rw [Session.seenAs, (ServerResponse.peerOf_getD_iff _).mpr absent]
  have same : ServerResponse.toBytes uuid (Session.seenAs frame) = some block := by
    rw [ServerResponse.toBytes_eq, peer, ← written, ServerResponse.toBytes_eq]
    rfl
  have parsed := parseResponse_frame same [] (ServerResponse.peerOf_ne_noPeer _)
  rwa [List.append_nil] at parsed

theorem Carries.readExact_nil {uuid : UuidText} {rest stream : List UInt8} (carries : Carries uuid [] rest stream) :
    readExact TCPunch.serverResponseSize stream = none := by
  obtain ⟨⟨bytes, written, rfl⟩, short⟩ := carries
  cases written
  exact readExact_eq_none short

theorem Carries.readExact_cons {uuid : UuidText} {frame : ServerResponse} {frames : List ServerResponse}
    {rest stream : List UInt8} (carries : Carries uuid (frame :: frames) rest stream) :
    ∃ block tail, readExact TCPunch.serverResponseSize stream = some (block, tail) ∧
      parseResponse block = some (ofServer uuid (Session.seenAs frame)) ∧ Carries uuid frames rest tail := by
  obtain ⟨block, tail, rfl, encoded, size, carries⟩ := carries.uncons
  exact ⟨block, tail, readExact_append size tail, parseResponse_seenAs encoded, carries⟩

theorem conclude_ofServer (uuid : UuidText) (frame : ServerResponse) (message : String) :
    conclude (ofServer uuid frame) message = (Verdict.ofPaired frame message).attempt uuid := by
  unfold conclude Verdict.ofPaired ofServer
  cases frame.peerInfo with
  | none => rfl
  | some peer => rfl

theorem receive_of_carries {uuid : UuidText} {frames : List ServerResponse} {rest stream : List UInt8}
    (carries : Carries uuid frames rest stream) :
    (receive TCPunch.serverResponseSize stream).2 = (Verdict.ofFrames (frames.map Session.seenAs)).attempt uuid := by
  unfold receive
  cases frames with
  | nil =>
      rw [carries.readExact_nil]
      rfl
  | cons first more =>
      obtain ⟨block, tail, read, parsed, carries⟩ := carries.readExact_cons
      simp only [read, parsed, List.map_cons, Verdict.ofFrames]
      cases status : (Session.seenAs first).status with
      | paired =>
          simp only [ofServer, status]
          exact conclude_ofServer uuid _ _
      | timeout => simp only [ofServer, status, Verdict.attempt, Option.map_some]
      | error => simp only [ofServer, status, Verdict.attempt, Option.map_none]
      | waiting =>
          simp only [ofServer, status]
          cases more with
          | nil =>
              simp only [carries.readExact_nil]
              rfl
          | cons second others =>
              obtain ⟨block, tail, read, parsed, carries⟩ := carries.readExact_cons
              simp only [read, parsed, List.map_cons]
              by_cases paired : (Session.seenAs second).status = .paired
              · simp only [ofServer, paired]
                exact conclude_ofServer uuid _ _
              · have other : ¬ (ofServer uuid (Session.seenAs second)).status = .paired := paired
                rw [if_neg other, if_neg paired]
                rfl

/-- With blocks of the size of a frame, the client does what it is meant to do. -/
theorem attempts_eq_meet {uuid : UuidText} {lossy : List UInt8 → List UInt8}
    (faithful : ∀ text, lossy (ofString text) = ofString text) {pairingName : String}
    (named : pairingName ≠ "") (short : (ofString pairingName).length ≤ 99)
    (terminated : 0 ∉ ofString pairingName) (maxRetries : Nat) (token : Option Uuid) (visits : List Visit) :
    attempts uuid lossy TCPunch.serverResponseSize (ofString pairingName) maxRetries
      (token.map uuid.bytes) visits = some (meet pairingName maxRetries token visits) := by
  induction visits generalizing token with
  | nil => rfl
  | cons visit later ih =>
      unfold attempts meet
      cases visit.connectError with
      | some e => rfl
      | none =>
          have shown : (token.map uuid.bytes).map lossy = token.map uuid.bytes := by
            cases token with
            | none => rfl
            | some token => exact congrArg some (faithful _)
          have encoded := ClientRequest.toBytes_eq uuid ⟨pairingName, token⟩
          obtain ⟨bytes, same⟩ : ∃ bytes, ClientRequest.toBytes uuid ⟨pairingName, token⟩ = some bytes := ⟨_, encoded⟩
          have decoded := ClientRequest.fromBytes_toBytes uuid ⟨pairingName, token⟩
          rw [same, Option.bind_some, List.take_of_length_le short, untilNul_eq_self.mpr terminated,
            fromUtf8_ofString] at decoded
          simp only [if_neg named] at decoded
          dsimp only
          rw [shown, buildRequest_eq, same]
          simp only [Option.bind_eq_bind, Option.bind_some]
          cases visit.sendError with
          | some e => rfl
          | none =>
              obtain ⟨rest, carries⟩ := stream_carries uuid visit bytes
              have ends := receive_of_carries carries
              rw [script_of_request visit same decoded] at ends
              rw [ends]
              unfold Visit.frames
              cases Verdict.ofFrames _ with
              | receiveFailed => rfl
              | noPeerInfo message => rfl
              | paired yourInfo peerInfo => rfl
              | again token => exact ih token

/-- The client of the guide, with the block size corrected: for a name that fits, `pair` is the
    loop over requests and frames, whatever the server's sessions and the connections come to. -/
theorem corrected_client_meets (uuid : UuidText) {lossy : List UInt8 → List UInt8}
    (faithful : ∀ text, lossy (ofString text) = ofString text) {pairingName : String}
    (named : pairingName ≠ "") (short : (ofString pairingName).length ≤ 99)
    (terminated : 0 ∉ ofString pairingName) (visits : List Visit) :
    pair uuid lossy TCPunch.serverResponseSize (ofString pairingName) visits =
      some (meet pairingName visits.length none visits) :=
  attempts_eq_meet faithful named short terminated visits.length none visits

/-- A visit to a server that lets the client wait in vain, and has a peer for it when it comes
    back with its token. -/
def visitTwice : Visit where
  connectError := none
  sendError := none
  receiveError := "timed out"
  peerAddr := .v4 ⟨10, 0, 0, 1⟩ 4001
  reaches := clientRequestSize
  arrives := 100
  session := {
    received := []
    broken := none
    register := fun request =>
      if request.reconnectToken = some ⟨7⟩ then .ok (.paired ⟨7⟩ ⟨⟨10, 0, 0, 2⟩, 4002⟩)
      else .ok (.waiting ⟨7⟩ 0)
    wait := fun _ => .elapsed
    write := fun _ => .ok () }

theorem second_visit_meets :
    (∀ text, id (ofString text) = ofString text) ∧ "room" ≠ "" ∧ (ofString "room").length ≤ 99 ∧
      0 ∉ ofString "room" ∧
      pair Uuid.text id TCPunch.serverResponseSize (ofString "room") [visitTwice, visitTwice] =
        some (.ok (⟨⟨10, 0, 0, 1⟩, 4001⟩, ⟨⟨10, 0, 0, 2⟩, 4002⟩)) := by
  have short : (ofString "room").length ≤ 99 := by decide
  have terminated : 0 ∉ ofString "room" := by decide
  refine ⟨fun _ => rfl, by decide, short, terminated, ?_⟩
  rw [corrected_client_meets Uuid.text (fun _ => rfl) (by decide) short terminated]
  decide +kernel

/-! ## The documented size -/

theorem length_deliver_le (uuid : UuidText) (session : Session) (frames : List ServerResponse) (out : Wire) :
    (session.deliver uuid out frames).written.length ≤
      out.written.length + frames.length * TCPunch.serverResponseSize := by
  induction frames generalizing out with
  | nil => exact Nat.le_add_right _ _
  | cons frame frames ih =>
      obtain ⟨block, encoded, size, -⟩ := Session.exists_toBytes uuid frame
      rw [List.length_cons, Nat.succ_mul]
      cases outcome : session.write out.attempted.length with
      | ok _ =>
          have bound := ih ⟨out.attempted ++ [frame], out.written ++ block⟩
          rw [List.length_append, size] at bound
          rw [Session.deliver_of_ok frames (writeAll_ok encoded outcome)]
          omega
      | error failure =>
          obtain ⟨e, count⟩ := failure
          rw [Session.deliver_of_error frames (writeAll_error encoded outcome), List.length_append,
            List.length_take]
          omega

theorem length_stream_le (uuid : UuidText) (visit : Visit) (request : List UInt8) :
    (visit.stream uuid request).length ≤
      ((visit.sessionOf request).script uuid visit.peerAddr).length * TCPunch.serverResponseSize := by
  have bound := length_deliver_le uuid (visit.sessionOf request)
    ((visit.sessionOf request).script uuid visit.peerAddr) ⟨[], []⟩
  rw [← Session.serve_eq, List.length_nil, Nat.zero_add] at bound
  exact (List.length_take_le' ..).trans bound

theorem stream_begins {uuid : UuidText} {visit : Visit} {request : List UInt8} {first : ServerResponse}
    {more : List ServerResponse}
    (meant : (visit.sessionOf request).script uuid visit.peerAddr = first :: more)
    (long : TCPunch.serverResponseSize < (visit.stream uuid request).length) :
    ∃ block tail, visit.stream uuid request = block ++ tail ∧
      ServerResponse.toBytes uuid first = some block ∧ block.length = TCPunch.serverResponseSize := by
  obtain ⟨rest, carries⟩ := stream_carries uuid visit request
  rw [meant] at carries
  cases arrived : (visit.whole 0 (first :: more)).take (visit.arrives / TCPunch.serverResponseSize) with
  | nil =>
      rw [arrived] at carries
      obtain ⟨⟨bytes, written, same⟩, short⟩ := carries
      cases written
      rw [same, List.nil_append] at long
      omega
  | cons frame frames =>
      have same : frame = first := by
        unfold Visit.whole at arrived
        split at arrived
        · generalize visit.arrives / TCPunch.serverResponseSize = count at arrived
          cases count with
          | zero => cases arrived
          | succ n => exact (List.cons.inj arrived).1.symm
        · rw [List.take_nil] at arrived
          cases arrived
      rw [arrived, same] at carries
      obtain ⟨block, tail, split, encoded, size, -⟩ := carries.uncons
      exact ⟨block, tail, split, encoded, size⟩

/-- With the documented size, a visit ends without a block or after WAITING: no second block is
    complete, and a first block that is complete takes a byte of the second frame. -/
theorem receive_documented (uuid : UuidText) (visit : Visit) (request : List UInt8) :
    (receive serverResponseSize (visit.stream uuid request)).2 = .receiveFailed ∨
      ∃ token, (receive serverResponseSize (visit.stream uuid request)).2 = .again (some token) := by
  have bound := length_stream_le uuid visit request
  have frame : TCPunch.serverResponseSize = 50 := rfl
  have documented : serverResponseSize = 51 := rfl
  unfold receive
  by_cases short : (visit.stream uuid request).length < serverResponseSize
  · rw [readExact_eq_none short]
    exact .inl rfl
  · rcases Session.script_cases uuid (visit.sessionOf request) visit.peerAddr with ⟨script, -⟩ | ⟨script, -⟩ |
      ⟨_, _, _, script, -⟩ | ⟨info, token, last, script, -⟩
    · rw [script, List.length_nil] at bound
      omega
    · rw [script, List.length_singleton] at bound
      omega
    · rw [script, List.length_singleton] at bound
      omega
    · obtain ⟨block, tail, split, encoded, width⟩ := stream_begins script (by omega)
      have length : (visit.stream uuid request).length = block.length + tail.length := by
        rw [split, List.length_append]
      rw [script, List.length_cons, List.length_singleton] at bound
      have first : (block ++ tail.take 1).length = serverResponseSize := by
        rw [List.length_append, List.length_take]
        omega
      have second : (tail.drop 1).length < serverResponseSize := by
        rw [List.length_drop]
        omega
      have parsed := parseResponse_frame encoded (tail.take 1) (fun same => by cases same)
      have whole : visit.stream uuid request = block ++ tail.take 1 ++ tail.drop 1 := by
        rw [split, List.append_assoc, List.take_append_drop]
      rw [whole, readExact_append first]
      simp only [parsed, readExact_eq_none second]
      exact .inr ⟨_, rfl⟩

/-- The client of the guide as documented: it fails, whatever name it is given and however
    often it may retry, and whatever the server's sessions and the connections come to. -/
theorem documented_client_fails (uuid : UuidText) (lossy : List UInt8 → List UInt8) (pairingName : List UInt8)
    (visits : List Visit) :
    ∃ message, pair uuid lossy serverResponseSize pairingName visits = some (.error message) := by
  unfold pair
  generalize visits.length = maxRetries
  generalize (none : Option (List UInt8)) = token
  induction visits generalizing token with
  | nil => exact ⟨_, rfl⟩
  | cons visit later ih =>
      unfold attempts
      cases visit.connectError with
      | some e => exact ⟨_, rfl⟩
      | none =>
          obtain ⟨request, built⟩ : ∃ request, buildRequest pairingName (token.map lossy) = some request :=
            ⟨_, fill_layout (by decide) (by decide) _ _⟩
          simp only [built, Option.bind_eq_bind, Option.bind_some]
          cases visit.sendError with
          | some e => exact ⟨_, rfl⟩
          | none =>
              rcases receive_documented uuid visit request with failed | ⟨token, again⟩
              · simp only [failed]
                exact ⟨_, rfl⟩
              · simp only [again]
                exact ih _

end TCPunch.Guide
