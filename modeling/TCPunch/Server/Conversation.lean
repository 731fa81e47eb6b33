import TCPunch.Protocol.Utils
import TCPunch.Server.Partners

/-! # Clients in C++ and the server in Rust

A client that uses `common/utils.h` builds its request from any two strings and takes the
frames of the server apart with `parse_server_response`. Here the two codecs meet the server:
the name is cut where the builder and the decoder cut it, the token comes back as it was
sent, and two clients that are told PAIRED read each other's address.
-/

namespace TCPunch

open Bytes

theorem ClientRequest.pairingName_of_ofFields {uuid : UuidText} {name token : List UInt8}
    {request : ClientRequest} (decoded : ofFields uuid name token = .ok request) :
    ofString request.pairingName = name := by
  unfold ofFields at decoded
  split at decoded
  · cases decoded
  · rename_i text utf8
    rw [fromUtf8_eq_ok] at utf8
    split at decoded
    · cases decoded
    · split at decoded
      · cases decoded
      · split at decoded
        · cases decoded
          exact utf8
        · split at decoded
          · cases decoded
            exact utf8
          · cases decoded

theorem ClientRequest.pairingName_of_field {uuid : UuidText} {name rest : List UInt8} {request : ClientRequest}
    (fits : name.length ≤ maxPairingName) (long : rest.length = tokenLength + 4)
    (decoded : (fromBytes uuid (field maxPairingName name ++ rest)).run = some (.ok request)) :
    ofString request.pairingName = untilNul name := by
  have width := length_field fits
  have size : clientRequestSize ≤ (field maxPairingName name ++ rest).length := by
    rw [List.length_append, width, long, clientRequestSize, Nat.add_assoc]
  rw [fromBytes_eq uuid size, Decoder.run_sure, Option.some.injEq, List.take_left' width,
    untilNul_field_of_le fits] at decoded
  exact pairingName_of_ofFields decoded

namespace Utils

theorem buildClientRequest_layout {buf : List UInt8} (size : buf.length = clientRequestSize)
    (name token : List UInt8) :
    buildClientRequest buf name token =
      some (field maxPairingName (name.take 99) ++ field (tokenLength + 4) (token.take 36)) := by
  have fits : (name.take 99).length ≤ maxPairingName := (List.length_take_le 99 name).trans (by decide)
  have room : 36 ≤ tokenLength + 4 := by decide
  simp only [buildClientRequest, clear_all size, memcpy_min, Option.bind_eq_bind, Option.bind_some]
  exact overwrite_fields fits room

theorem pairingName_of_built {uuid : UuidText} {buf bytes name token : List UInt8}
    {request : ClientRequest} (size : buf.length = clientRequestSize)
    (built : buildClientRequest buf name token = some bytes)
    (decoded : (ClientRequest.fromBytes uuid bytes).run = some (.ok request)) :
    ofString request.pairingName = untilNul (name.take 99) := by
  have fits : (name.take 99).length ≤ maxPairingName := (List.length_take_le 99 name).trans (by decide)
  have room : (token.take 36).length ≤ tokenLength + 4 := (List.length_take_le 36 token).trans (by decide)
  rw [buildClientRequest_layout size, Option.some.injEq] at built
  subst built
  exact ClientRequest.pairingName_of_field fits (length_field room) decoded

theorem parseServerResponse_toBytes {uuid : UuidText} {response : ServerResponse} {bytes : List UInt8}
    (written : ServerResponse.toBytes uuid response = some bytes) (out : Parsed) :
    parseServerResponse bytes serverResponseSize out = some (true, {
      status := response.status.asU8
      yourInfo := inMemory response.yourInfo
      peerInfo := inMemory (response.peerInfo.getD ServerResponse.noPeer)
      token := uuid.bytes response.reconnectToken }) := by
  have room : (uuid.bytes response.reconnectToken).length < tokenLength := by simp [tokenLength]
  have token := cString_field (uuid.zero_notMem_bytes response.reconnectToken) room []
  rw [List.append_nil] at token
  rw [ServerResponse.toBytes_eq, Option.some.injEq] at written
  subst written
  refine (parseServerResponse_layout (Nat.le_refl _) _ _ _ _ out).trans ?_
  rw [token, Option.map_some]

/-- A client takes the token out of any response of the server and puts it into a request of
    its own, under a name of at most 99 bytes without NUL. The server finds the name and the
    token that it issued. -/
theorem token_comes_back (uuid : UuidText) (response : ServerResponse) (out : Parsed)
    (buf : Vector UInt8 clientRequestSize) {name : String} (some : name ≠ "")
    (short : (ofString name).length ≤ 99) (terminated : 0 ∉ ofString name) :
    ∃ bytes parsed again, ServerResponse.toBytes uuid response = .some bytes ∧
      parseServerResponse bytes serverResponseSize out = .some (true, parsed) ∧
      buildClientRequest buf.toList (ofString name) parsed.token = .some again ∧
      (ClientRequest.fromBytes uuid again).run =
        .some (.ok ⟨name, .some response.reconnectToken⟩) := by
  have written := ServerResponse.toBytes_eq uuid response
  have parsed := parseServerResponse_toBytes written out
  have built := buildClientRequest_eq uuid buf.length_toList name (.some response.reconnectToken)
  have encoded := ClientRequest.toBytes_eq uuid ⟨name, .some response.reconnectToken⟩
  have decoded := ClientRequest.fromBytes_toBytes uuid ⟨name, .some response.reconnectToken⟩
  rw [encoded, Option.bind_some, List.take_of_length_le short, untilNul_eq_self.mpr terminated,
    fromUtf8_ofString] at decoded
  rw [List.take_of_length_le short] at encoded
  refine ⟨_, _, _, written, parsed, built.trans encoded, decoded.trans ?_⟩
  simp only [if_neg some]

/-- A client that was told to wait comes back. -/
theorem token_of_waiting_comes_back :
    let response : ServerResponse := .waiting ⟨⟨10, 0, 0, 1⟩, 4000⟩ ⟨7⟩
    let out : Parsed := ⟨0, ⟨[], []⟩, ⟨[], []⟩, []⟩
    "room" ≠ "" ∧ (ofString "room").length ≤ 99 ∧ 0 ∉ ofString "room" ∧
      ∃ bytes parsed again, ServerResponse.toBytes Uuid.text response = some bytes ∧
        parseServerResponse bytes serverResponseSize out = some (true, parsed) ∧
        buildClientRequest (zeros clientRequestSize) (ofString "room") parsed.token = some again ∧
        (ClientRequest.fromBytes Uuid.text again).run = some (.ok ⟨"room", some ⟨7⟩⟩) := by
  intro response out
  have named : "room" ≠ "" := by decide
  have short : (ofString "room").length ≤ 99 := by decide +kernel
  have terminated : 0 ∉ ofString "room" := by decide +kernel
  have back := token_comes_back Uuid.text response out (Vector.replicate clientRequestSize 0) named short
    terminated
  rw [Vector.toList_replicate] at back
  exact ⟨named, short, terminated, back⟩

end Utils

namespace Scene

variable {σ χ η Req : Type} {Reply : Req → Type} {engine : Engine σ Reply χ η}

/-- A read is the only step that changes which request a connection has read. -/
theorem received_of_answer {i j : Nat} {way : Way χ} {s s' : Scene σ} {call : ServerCall Req}
    {reply : call.Reply Reply} (answered : answer engine i way s call = some (reply, s'))
    {request : ClientRequest} (received : s'.received j = some request) :
    s.received j = some request ∨ j = i ∧ way = .read (.request request) := by
  cases call with
  | readRequest =>
      cases way with
      | read outcome =>
          cases outcome with
          | request request' =>
              cases answered
              unfold read at received
              simp only [Function.update_apply] at received
              split at received
              · cases received
                exact .inr ⟨‹_›, rfl⟩
              · exact .inl received
          | rejected | failed | elapsed =>
              cases answered
              exact .inl received
      | write | arrived | closed | elapsed | count | registry | send => cases answered
  | writeAll | awaitPeer | pairingSucceeded | timeoutOccurred | registry =>
      cases answers_of_answer answered <;> exact .inl received

/-- Every request that a connection has read is among the moves. -/
def ReadIn (moves : List (Team.Move Nat (Way χ) η)) (s : Scene σ) : Prop :=
  ∀ i request, s.received i = some request → .task i (.read (.request request)) ∈ moves

theorem ReadIn.step {α : Type} {team team' : Team Nat (Scene σ) (ServerCall.Reply Reply) α}
    {moves : List (Team.Move Nat (Way χ) η)} {move : Team.Move Nat (Way χ) η}
    (before : ReadIn moves team.shared) (member : move ∈ moves)
    (taken : Team.step (rules engine) team move = some team') : ReadIn moves team'.shared := by
  intro i request received
  rcases Team.step_cases taken with
    ⟨j, way, call, next, reply, s, same, -, answered, rfl⟩ | ⟨change, s, -, changed, rfl⟩
  · rcases received_of_answer answered received with old | ⟨rfl, rfl⟩
    · exact before i request old
    · exact same ▸ member
  · cases changed
    exact before i request received

theorem readIn_of_run {α : Type} {team final : Team Nat (Scene σ) (ServerCall.Reply Reply) α}
    {moves : List (Team.Move Nat (Way χ) η)} (unread : ∀ i, team.shared.received i = none)
    (runs : Machine.run (Team.step (rules engine)) team moves = some final) :
    ReadIn moves final.shared := by
  have along : Machine.Along (Team.step (rules engine)) (fun _ move => move ∈ moves) team moves :=
    Machine.along_of_forall (fun _ member => member) team
  have start : ReadIn moves team.shared := by
    intro i request received
    rw [unread] at received
    cases received
  have kept : ∀ (team : Team Nat (Scene σ) (ServerCall.Reply Reply) α) move team',
      ReadIn moves team.shared → move ∈ moves → Team.step (rules engine) team move = some team' →
        ReadIn moves team'.shared := fun _ _ _ before member taken => before.step member taken
  exact Machine.run_invariant kept start along runs

end Scene

namespace InMemoryRegistry

open Utils

/-- Let every request that the server reads be one that its client built from a name and a
    token. In every interleaving, a client that is told PAIRED has exactly one partner, the two
    names agree up to the 99th byte or the first NUL, and the client reads from the frame its
    own address and its partner's, as the server saw them. -/
theorem clients_read_partner {config : RegistryConfig} {entropy : Entropy} {peers : Nat → SocketAddr}
    {moves : List (Team.Move Nat (Way Unit) (String × Instant))}
    {final : Team Nat (Scene InMemoryRegistry) (ServerCall.Reply MapCall.Reply) (Except IoError Unit)}
    (runs : Run config entropy peers moves = some final) (uuid : UuidText) (name token : Nat → List UInt8)
    (buf : Nat → Vector UInt8 clientRequestSize)
    (sent : ∀ i request, .task i (.read (.request request)) ∈ moves →
      ∃ bytes, buildClientRequest (buf i).toList (name i) (token i) = some bytes ∧
        (ClientRequest.fromBytes uuid bytes).run = some (.ok request)) :
    ∃ partner : Nat → Option Nat,
      (∀ i j, partner i = some j → partner j = some i ∧ i ≠ j ∧
        untilNul ((name i).take 99) = untilNul ((name j).take 99)) ∧
      ∀ i, ∀ frame ∈ final.shared.frames i, frame.status = .paired → ∀ out,
        ∃ j bytes parsed, partner i = some j ∧ ServerResponse.toBytes uuid frame = some bytes ∧
          parseServerResponse bytes serverResponseSize out = some (true, parsed) ∧
          parsed.status = 1 ∧
          (PeerConnectionData.fromSocketAddr (peers i)).map inMemory = some parsed.yourInfo ∧
          (PeerConnectionData.fromSocketAddr (peers j)).map inMemory = some parsed.peerInfo := by
  have named (i : Nat) {text : String}
      (asked : (final.shared.received i).map ClientRequest.pairingName = some text) :
      ofString text = untilNul ((name i).take 99) := by
    obtain ⟨request, received, rfl⟩ := Option.map_eq_some_iff.mp asked
    obtain ⟨bytes, built, decoded⟩ := sent i request (Scene.readIn_of_run (fun _ => rfl) runs i request received)
    exact pairingName_of_built (buf i).length_toList built decoded
  obtain ⟨g, partner, matched, -⟩ := matched_of_run runs
  refine ⟨partner, ?_, ?_⟩
  · intro i j met
    obtain ⟨back, apart, text, here, there⟩ := matched.pairs i j met
    exact ⟨back, apart, (named i here).symm.trans (named j there)⟩
  · intro i frame member paired out
    obtain ⟨request, peer, asked, knows, own, told⟩ :=
      (matched.frames i frame member paired).of_paired paired
    obtain ⟨known, j, met, address⟩ := matched.faces asked knows
    have written := ServerResponse.toBytes_eq uuid frame
    refine ⟨j, _, _, met, written, parseServerResponse_toBytes written out, ?_, ?_, ?_⟩
    · rw [paired]
      rfl
    · rw [known, own]
      rfl
    · rw [address, told]
      rfl

/-- The second client's name goes on behind a NUL. -/
def nameInRoom : Nat → List UInt8
  | 0 => ofString "room"
  | _ => ofString "room" ++ [0, 49]

theorem meeting_read_by_clients :
    ∃ final, ∃ partner : Nat → Option Nat, Run ⟨60, "a"⟩ ⟨fun i => ⟨BitVec.ofNat 128 i⟩, fun _ => 0, fun _ => 0⟩
        twoPeers meeting = some final ∧
      (∀ i j, partner i = some j → untilNul ((nameInRoom i).take 99) = untilNul ((nameInRoom j).take 99)) ∧
      ∀ i, ∀ frame ∈ final.shared.frames i, frame.status = .paired →
        ∃ j bytes parsed, partner i = some j ∧ ServerResponse.toBytes Uuid.text frame = some bytes ∧
          parseServerResponse bytes serverResponseSize ⟨0, ⟨[], []⟩, ⟨[], []⟩, []⟩ = some (true, parsed) ∧
          parsed.status = 1 ∧
          (PeerConnectionData.fromSocketAddr (twoPeers j)).map inMemory = some parsed.peerInfo := by
  have ends : (Run ⟨60, "a"⟩ ⟨fun i => ⟨BitVec.ofNat 128 i⟩, fun _ => 0, fun _ => 0⟩ twoPeers
      meeting).isSome = true := by decide +kernel
  obtain ⟨final, runs⟩ := Option.isSome_iff_exists.mp ends
  have first : ∃ bytes, buildClientRequest (zeros clientRequestSize) (nameInRoom 0) [] = some bytes ∧
      (ClientRequest.fromBytes Uuid.text bytes).run = some (.ok ⟨"room", none⟩) :=
    ⟨_, buildClientRequest_layout (length_zeros _) _ _, by decide +kernel⟩
  have second : ∃ bytes, buildClientRequest (zeros clientRequestSize) (nameInRoom 1) [] = some bytes ∧
      (ClientRequest.fromBytes Uuid.text bytes).run = some (.ok ⟨"room", none⟩) :=
    ⟨_, buildClientRequest_layout (length_zeros _) _ _, by decide +kernel⟩
  have sent : ∀ i request, .task i (.read (.request request)) ∈ meeting →
      ∃ bytes, buildClientRequest (Vector.replicate clientRequestSize 0).toList (nameInRoom i) [] = some bytes ∧
        (ClientRequest.fromBytes Uuid.text bytes).run = some (.ok request) := by
    intro i request member
    have read : i = 0 ∧ request = ⟨"room", none⟩ ∨ i = 1 ∧ request = ⟨"room", none⟩ := by
      simpa [meeting] using member
    rw [Vector.toList_replicate]
    obtain ⟨rfl, rfl⟩ | ⟨rfl, rfl⟩ := read
    · exact first
    · exact second
  obtain ⟨partner, pairs, told⟩ := clients_read_partner runs Uuid.text nameInRoom (fun _ => []) _ sent
  refine ⟨final, partner, runs, fun i j met => (pairs i j met).2.2, ?_⟩
  intro i frame member paired
  obtain ⟨j, bytes, parsed, met, written, read, status, -, address⟩ := told i frame member paired _
  exact ⟨j, bytes, parsed, met, written, read, status, address⟩

end InMemoryRegistry

end TCPunch
