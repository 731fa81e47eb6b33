import TCPunch.Client.Results
import TCPunch.Server.HolePunching
import TCPunch.Server.Wire

/-! # `pair` and the servers of the repository

`pair` sends its name as it is and waits for two messages of eight bytes. The C++ server
sends one such message and no second one, and the Rust server waits for a request of 141
bytes. With neither of them does `pair` come to return a socket.
-/

namespace TCPunch

namespace HolePunchingServer

theorem length_sent_le {client : Client} {result : Turn} (served : turn client = some result) :
    (result.sent.getD []).length ≤ Client.infoSize := by
  unfold turn at served
  obtain ⟨name, -, served⟩ := Option.bind_eq_some_iff.mp served
  split at served
  · cases served
    exact Nat.zero_le _
  · split at served
    · cases served
      exact Nat.zero_le _
    · cases served
      exact Nat.zero_le _
    · obtain ⟨printed, same⟩ := reply_eq client name
      cases same.symm.trans served
      exact Nat.le_refl _

theorem served_of_mem {clients : List Client} {turns : List Turn} {result : Turn}
    (served : acceptLoop clients = some turns) (member : result ∈ turns) :
    ∃ client ∈ clients, turn client = some result := by
  induction clients generalizing turns with
  | nil =>
      cases served
      cases member
  | cons client clients ih =>
      obtain ⟨first, here, served⟩ := Option.bind_eq_some_iff.mp served
      split at served
      · -- The process has ended in this turn.
        cases served
        obtain rfl := List.mem_singleton.mp member
        exact ⟨client, .head _, here⟩
      · obtain ⟨others, later, same⟩ := Option.bind_eq_some_iff.mp served
        cases same
        cases member with
        | head => exact ⟨client, .head _, here⟩
        | tail _ member =>
            obtain ⟨other, there, turned⟩ := ih later member
            exact ⟨other, .tail _ there, turned⟩

end HolePunchingServer

namespace Client

variable {strerror : Errno → String} {moves : List (Team.Move Nat Way Process.Handshake)}
  {final : Team Nat Process Call.Reply (Label ⊕ Unit)} {k : Nat}

theorem two_messages_of_returned
    (runs : Machine.run (step strerror) (start strerror) moves = some final) {fd : Int}
    (returned : final.shared.results k = some (.ok fd)) :
    ∃ first second, final.shared.received k = [first, second] ∧ first ≠ [] ∧ second ≠ [] := by
  obtain ⟨g, sound, -⟩ := sound_of_run runs
  obtain ⟨⟨info, peer, socket, ⟨first, second, received, some, more, -⟩, -⟩, -⟩ :=
    sound.results k fd returned
  exact ⟨first, second, received, some, more⟩

/-- Let all that a call receives come from a turn of the C++ server, and let `recv` not be cut
    short when it receives the first message. Then the call returns no socket. -/
theorem never_returns_with_cpp_server
    (runs : Machine.run (step strerror) (start strerror) moves = some final)
    {clients : List HolePunchingServer.Client} {turns : List HolePunchingServer.Turn}
    (served : HolePunchingServer.acceptLoop clients = some turns)
    {turn : HolePunchingServer.Turn} (member : turn ∈ turns)
    (arrives : (final.shared.received k).flatten <+: turn.sent.getD [])
    (whole : ∀ first ∈ (final.shared.received k).head?, first ≠ [] → first.length = infoSize) (fd : Int) :
    final.shared.results k ≠ some (.ok fd) := by
  intro returned
  obtain ⟨first, second, received, some, more⟩ := two_messages_of_returned runs returned
  obtain ⟨client, -, turned⟩ := HolePunchingServer.served_of_mem served member
  have short := arrives.length_le.trans (HolePunchingServer.length_sent_le turned)
  have long := whole first (by rw [received]; rfl) some
  have positive := List.length_pos_of_ne_nil more
  rw [received] at short
  simp only [List.flatten_cons, List.flatten_nil, List.append_nil, List.length_append] at short
  omega

/-- A call that waits for the second message until its time is up. -/
def impatientCall : List (Team.Move Nat Way Process.Handshake) :=
  let publicInfo := [10, 0, 0, 1, 1, 1, 0, 0]
  answered 0 ([.calls ⟨HolePunchingServer.marker, [127, 0, 0, 1], 10000, 500⟩] ++ done 2 ++ [.opens 3] ++
    done 5 ++ [.sends 5, .receives publicInfo publicInfo, .succeeds, .fails .eagain, .succeeds])

theorem cpp_client_of_cpp_server_times_out :
    ∃ final turns, Machine.run (step fun _ => "") (start fun _ => "") impatientCall = some final ∧
      HolePunchingServer.acceptLoop
        [⟨⟨⟨10, 0, 0, 1⟩, 257⟩, .bytes HolePunchingServer.marker (by decide), (0, 0), .done⟩] = some turns ∧
      final.shared.results 1 = some (.error .timeout) ∧ ∀ fd, final.shared.results 1 ≠ some (.ok fd) := by
  have ends : (Machine.run (step fun _ => "") (start fun _ => "") impatientCall).map (fun final =>
      (final.shared.results 1, final.shared.received 1)) =
        some (some (.error .timeout), [[10, 0, 0, 1, 1, 1, 0, 0]]) := by decide +kernel
  have served : (HolePunchingServer.acceptLoop
      [⟨⟨⟨10, 0, 0, 1⟩, 257⟩, .bytes HolePunchingServer.marker (by decide), (0, 0), .done⟩]).map
        (fun turns => turns.map fun turn => turn.sent) = some [some [10, 0, 0, 1, 1, 1, 0, 0]] := by
    decide +kernel
  obtain ⟨final, runs, seen⟩ := Option.map_eq_some_iff.mp ends
  obtain ⟨thrown, received⟩ := Prod.mk.inj seen
  obtain ⟨turns, served, sent⟩ := Option.map_eq_some_iff.mp served
  obtain ⟨turn, rest, rfl, sent, -⟩ := List.map_eq_cons_iff.mp sent
  refine ⟨final, _, runs, served, thrown, never_returns_with_cpp_server runs served (.head _) ?_ ?_⟩
  · rw [received, sent]
    decide
  · rw [received]
    decide

/-- Let a call send fewer bytes than a request has, and let all that it receives come from the
    handler of the Rust server that reads them. Then the call returns no socket. -/
theorem never_returns_with_rust_server
    (runs : Machine.run (step strerror) (start strerror) moves = some final)
    (uuid : UuidText) (session : Handler.Session) (ip : Ipv4Addr) (port : UInt16)
    (sends : session.received <+: final.shared.sent k)
    (short : (final.shared.sent k).length < clientRequestSize)
    (arrives : (final.shared.received k).flatten <+: (session.serve uuid (.v4 ip port)).written)
    (fd : Int) : final.shared.results k ≠ some (.ok fd) := by
  intro returned
  obtain ⟨first, second, received, some, -⟩ := two_messages_of_returned runs returned
  obtain ⟨sent, unsent, rest, delivered⟩ := Handler.Session.serve_delivers uuid session (.v4 ip port)
  have nothing : session.script uuid (.v4 ip port) = [] :=
    (Handler.Session.script_eq_nil_iff uuid session _).mpr
      ⟨⟨ip, port, rfl⟩, lt_of_le_of_lt sends.length_le short⟩
  rw [nothing] at delivered
  rw [delivered.written_of_nil, received, List.prefix_nil] at arrives
  exact some (List.append_eq_nil_iff.mp arrives).1

/-- A call that sends the name `c` and sees the server close the connection. -/
def rejectedCall : List (Team.Move Nat Way Process.Handshake) :=
  answered 0 ([.calls ⟨[99], [127, 0, 0, 1], 10000, 0⟩] ++ done 2 ++ [.opens 3] ++ done 5 ++
    [.sends 1, .receives [] (Bytes.zeros 8), .succeeds])

/-- The handler's read times out. -/
def silentSession : Handler.Session where
  received := [99]
  broken := none
  register _ := .error (.internal "")
  wait _ := .elapsed
  write _ := .ok ()

theorem cpp_client_of_rust_server_disconnected :
    ∃ final, Machine.run (step fun _ => "") (start fun _ => "") rejectedCall = some final ∧
      final.shared.results 1 = some (.error (.runtimeError "Server has disconnected")) ∧
      (silentSession.serve Uuid.text (.v4 ⟨10, 0, 0, 1⟩ 4000)).written = [] ∧
      ∀ fd, final.shared.results 1 ≠ some (.ok fd) := by
  have ends : (Machine.run (step fun _ => "") (start fun _ => "") rejectedCall).map (fun final =>
      (final.shared.results 1, final.shared.sent 1, final.shared.received 1)) =
        some (some (.error (.runtimeError "Server has disconnected")), [99], [[]]) := by decide +kernel
  obtain ⟨final, runs, seen⟩ := Option.map_eq_some_iff.mp ends
  obtain ⟨thrown, sent, received⟩ : _ ∧ _ ∧ _ := by simpa only [Prod.mk.injEq] using seen
  refine ⟨final, runs, thrown, rfl, never_returns_with_rust_server runs Uuid.text silentSession
    ⟨10, 0, 0, 1⟩ 4000 ?_ ?_ ?_⟩
  · rw [sent]
    exact List.prefix_refl _
  · rw [sent]
    decide
  · rw [received]
    exact List.nil_prefix

end Client

end TCPunch
