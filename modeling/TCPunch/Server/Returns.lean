import TCPunch.Lib.Budget
import TCPunch.Server.Concurrent
import TCPunch.Server.Fleet

/-! # Every connection returns

A handler has no loop and waits for nothing that cannot end: its reads and its wait for the
peer have timeouts. So it returns within a fixed number of its own steps, whatever other
connections do and however Redis answers. The locks of the maps are not in this picture.
-/

namespace TCPunch

namespace Handler

/-- What the requests of a handler cost, given the costs of the registry's two methods. -/
def cost (register unregister : Nat) : HandlerCall → Nat
  | .register _ => register
  | .unregister _ _ => unregister
  | _ => 1

variable (register unregister : Nat)

theorem finishWith_within (frame : ServerResponse) {count : Code Unit}
    (counts : count.Within (cost register unregister) 1) :
    (finishWith frame count).Within (cost register unregister) 2 := by
  refine ⟨Nat.le_succ 1, fun written => ?_⟩
  cases written with
  | error e => trivial
  | ok _ => exact counts.bind (n := 0) fun _ => trivial

theorem paired_within (frame : ServerResponse) :
    (finishWith frame pairingSucceeded).Within (cost register unregister) 2 :=
  finishWith_within register unregister frame ⟨Nat.le_refl 1, fun _ => trivial⟩

theorem timedOut_within (frame : ServerResponse) :
    (finishWith frame timeoutOccurred).Within (cost register unregister) 2 :=
  finishWith_within register unregister frame ⟨Nat.le_refl 1, fun _ => trivial⟩

theorem awaitAndFinish_within (wait : Wait) :
    (awaitAndFinish wait).Within (cost register unregister) (unregister + 3) := by
  refine ⟨Nat.le_add_left 1 (unregister + 2), fun waited => ?_⟩
  cases waited with
  | arrived peerInfo => exact (paired_within register unregister _).mono (Nat.le_add_left 2 unregister)
  | closed => exact (timedOut_within register unregister _).mono (Nat.le_add_left 2 unregister)
  | elapsed =>
      refine ⟨Nat.le_add_right unregister 2, fun _ => ?_⟩
      exact (timedOut_within register unregister _).mono (by simp only [cost]; omega)

theorem waitForPeer_within (wait : Wait) :
    (waitForPeer wait).Within (cost register unregister) (unregister + 4) := by
  refine ⟨Nat.le_add_left 1 (unregister + 3), fun written => ?_⟩
  cases written with
  | error e => trivial
  | ok _ => exact awaitAndFinish_within register unregister wait

theorem registerAndServe_within (request : Request) :
    (registerAndServe request).Within (cost register unregister) (register + (unregister + 4)) := by
  refine ⟨Nat.le_add_right register _, fun registered => ?_⟩
  have rest : register + (unregister + 4) - cost register unregister (.register request) =
      unregister + 4 := Nat.add_sub_cancel_left _ _
  rw [rest]
  cases registered with
  | error e => exact ⟨Nat.le_add_left 1 (unregister + 3), fun _ => trivial⟩
  | ok result =>
      cases result with
      | paired token peerInfo =>
          exact (paired_within register unregister _).mono (Nat.le_add_left 2 (unregister + 2))
      | waiting token peerNotify => exact waitForPeer_within register unregister _
      | resumed token peerNotify => exact waitForPeer_within register unregister _

theorem handleConnection_within (peer : SocketAddr) :
    (handleConnection peer).Within (cost register unregister) (register + unregister + 5) := by
  unfold handleConnection
  cases PeerConnectionData.fromSocketAddr peer with
  | none => exact ⟨Nat.le_add_left 1 _, fun _ => trivial⟩
  | some clientInfo =>
      refine ⟨Nat.le_add_left 1 _, fun read => ?_⟩
      cases read with
      | failed e => trivial
      | elapsed => exact ⟨Nat.le_add_left 1 _, fun _ => trivial⟩
      | rejected e => exact ⟨Nat.le_add_left 1 _, fun _ => trivial⟩
      | request request =>
          exact (registerAndServe_within register unregister _).mono (by simp only [cost]; omega)

end Handler

section

variable {Req : Type} {Reply : Req → Type}

theorem Methods.connection_within (methods : Methods Reply) {register unregister : Nat} (i : Nat)
    (registers : ∀ request, (methods.register i request).Within (fun _ => 1) register)
    (unregisters : ∀ name token, (methods.unregister i name token).Within (fun _ => 1) unregister)
    (peer : SocketAddr) :
    (methods.connection i peer).Within (fun _ => 1) (register + unregister + 5) := by
  have inlined {α : Type} {method : SendingMethod Reply α} {n : Nat}
      (within : method.Within (fun _ => 1) n) : (inline method).Within (fun _ => 1) n :=
    within.expand fun step => ⟨Nat.le_refl 1, fun _ => trivial⟩
  apply (Handler.handleConnection_within register unregister peer).expand
  intro call
  cases call with
  | register request => exact inlined (registers request)
  | unregister name token => exact inlined (unregisters name token)
  | readRequest | writeAll | awaitPeer | pairingSucceeded | timeoutOccurred =>
      exact ⟨Nat.le_refl 1, fun _ => trivial⟩

/-- Whatever a connection asks for, something can be answered. -/
theorem Scene.answerable {σ χ η : Type} [inhabited : Nonempty χ] (engine : Engine σ Reply χ η) (i : Nat)
    (s : Scene σ) (call : ServerCall Req) :
    ∃ way reply s', (Scene.rules engine).answer i way s call = some (reply, s') := by
  cases call with
  | readRequest => exact ⟨.read .elapsed, _, _, rfl⟩
  | writeAll frame => exact ⟨.write (.ok ()), _, _, rfl⟩
  | awaitPeer channel =>
      cases there : s.inbox channel with
      | some peer =>
          exact ⟨.arrived, .arrived peer, s, by simp only [rules, answer, there, Option.map_some]⟩
      | none => exact ⟨.elapsed, .elapsed, s, by simp only [rules, answer, there, if_true]⟩
  | pairingSucceeded => exact ⟨.count, _, _, rfl⟩
  | timeoutOccurred => exact ⟨.count, _, _, rfl⟩
  | registry step =>
      obtain ⟨way⟩ := inhabited
      cases step with
      | request call => exact ⟨.registry way, _, _, rfl⟩
      | send message => exact ⟨.send, _, _, rfl⟩

end

namespace InMemoryRegistry

variable (config : RegistryConfig) (entropy : Entropy)

theorem pairOrWait_within (i : Nat) (name : String) (info : PeerConnectionData) :
    (Sending.pairOrWait config (entropy.draws i) name info).Within (fun _ => 1) 3 := by
  apply Program.within_call
  intro found
  cases found with
  | none => exact Program.within_call fun _ => Program.within_call fun _ => trivial
  | some entry =>
      obtain ⟨client, notifyTx, created⟩ := entry
      cases notifyTx with
      | none => exact Program.within_call fun _ => trivial
      | some tx => exact Program.within_call fun _ => Program.within_call fun _ => trivial

theorem register_within (i : Nat) (request : Request) :
    ((methods config entropy).register i request).Within (fun _ => 1) 5 := by
  obtain ⟨name, info, shown⟩ := request
  have pairs := pairOrWait_within config entropy i name info
  cases shown with
  | none => exact pairs.mono (by decide)
  | some token =>
      apply Program.within_call
      intro known
      cases known with
      | none => exact pairs.mono (by decide)
      | some stored =>
          change Program.Within _ (if stored = name then _ else _) _
          by_cases same : stored = name
          · rw [if_pos same]
            apply Program.within_call
            intro resumed
            cases resumed with
            | true => trivial
            | false => exact pairs
          · rw [if_neg same]
            exact pairs.mono (by decide)

theorem unregister_within (i : Nat) (name : String) (token : Uuid) :
    ((methods config entropy).unregister i name token).Within (fun _ => 1) 2 := by
  apply Program.within_call
  intro found
  cases found with
  | none => trivial
  | some entry =>
      change Program.Within _ (Program.expand SendingMethod.request
        (if entry.waitingClient.reconnectToken = token then _ else _) >>= fun _ => .done ()) _
      by_cases own : entry.waitingClient.reconnectToken = token
      · rw [if_pos own]
        exact Program.within_call fun _ => trivial
      · rw [if_neg own]
        trivial

/-- In every interleaving of map calls, messages, reads and writes, a connection takes at most
    twelve steps, and at any time it can return by steps of its own within that number, whatever
    the other connections do. -/
theorem connections_return {config : RegistryConfig} {entropy : Entropy} {peers : Nat → SocketAddr}
    {moves : List (Team.Move Nat (Way Unit) (String × Instant))}
    {middle : Team Nat (Scene InMemoryRegistry) (ServerCall.Reply MapCall.Reply) (Except IoError Unit)}
    (runs : Run config entropy peers moves = some middle) (i : Nat) :
    ∃ more final result, (∀ move ∈ more, move.Of i) ∧
      Machine.run (Team.step (Scene.rules (engine config))) middle more = some final ∧
      final.task i = .done result ∧ moves.countP (·.Of i) + more.length ≤ 12 := by
  have within := (methods config entropy).connection_within i (register_within config entropy i)
    (unregister_within config entropy i) (peers i)
  exact Team.exists_return_within (Scene.answerable (engine config) i) within runs

/-- A client that comes back with a token nobody knows has been told to wait. -/
theorem unknown_token_returns :
    ∃ middle, Run ⟨60, "a"⟩ ⟨fun i => ⟨BitVec.ofNat 128 i⟩, fun _ => 0, fun _ => 0⟩
        (fun _ => .v4 ⟨10, 0, 0, 1⟩ 4000)
        [.task 0 (.read (.request ⟨"room", some ⟨9⟩⟩)), .task 0 (.registry ()), .task 0 (.registry ()),
          .background ("room", 5), .task 0 (.registry ()), .task 0 (.registry ()),
          .task 0 (.write (.ok ()))] = some middle ∧
      ∃ more final result, (∀ move ∈ more, move.Of 0) ∧
        Machine.run (Team.step (Scene.rules (engine ⟨60, "a"⟩))) middle more = some final ∧
        final.task 0 = .done result ∧ 6 + more.length ≤ 12 := by
  have ends : (Run ⟨60, "a"⟩ ⟨fun i => ⟨BitVec.ofNat 128 i⟩, fun _ => 0, fun _ => 0⟩
      (fun _ => .v4 ⟨10, 0, 0, 1⟩ 4000)
      [.task 0 (.read (.request ⟨"room", some ⟨9⟩⟩)), .task 0 (.registry ()), .task 0 (.registry ()),
        .background ("room", 5), .task 0 (.registry ()), .task 0 (.registry ()),
        .task 0 (.write (.ok ()))]).isSome = true := by decide +kernel
  obtain ⟨middle, runs⟩ := Option.isSome_iff_exists.mp ends
  exact ⟨middle, runs, connections_return runs 0⟩

end InMemoryRegistry

namespace RedisRegistry.Fleet

variable (fleet : Fleet)

theorem pairOrWait_within (i : Nat) (name : String) (info : PeerConnectionData) :
    (Sending.finish (pairOrWait (fleet.config (fleet.home i)) (fleet.entropy.draws i) name info).run).Within
      (fun _ => 1) 4 := by
  apply Program.within_call
  intro found
  cases found with
  | error e => trivial
  | ok value =>
      cases value with
      | none =>
          apply Program.within_call
          intro stored
          cases stored with
          | error e => trivial
          | ok _ =>
              apply Program.within_call
              intro announced
              cases announced with
              | error e => trivial
              | ok _ => exact Program.within_call fun _ => trivial
      | some value =>
          cases value with
          | text text => trivial
          | json client =>
              apply Program.within_call
              intro forgotten
              cases forgotten with
              | error e => trivial
              | ok _ =>
                  apply Program.within_call
                  intro found
                  cases found with
                  | some tx => exact Program.within_call fun _ => trivial
                  | none =>
                      by_cases other : client.serverId ≠ (fleet.config (fleet.home i)).serverId
                      · simp only [if_pos other]
                        apply Program.within_call
                        intro posted
                        cases posted with
                        | error e => trivial
                        | ok _ => trivial
                      · simp only [if_neg other]
                        trivial

theorem register_within (i : Nat) (request : Request) :
    (fleet.methods.register i request).Within (fun _ => 1) 5 := by
  obtain ⟨name, info, shown⟩ := request
  have pairs := fleet.pairOrWait_within i name info
  cases shown with
  | none => exact pairs.mono (by decide)
  | some token =>
      apply Program.within_call
      intro known
      cases known with
      | error e => trivial
      | ok stored =>
          change Program.Within _ (Sending.finish (ExceptT.run
            (if stored = some (.text name) then _ else _))) _
          by_cases same : stored = some (.text name)
          · rw [if_pos same]
            apply Program.within_call
            intro written
            cases written with
            | error e => trivial
            | ok _ => exact Program.within_call fun _ => trivial
          · rw [if_neg same]
            exact pairs

theorem unregister_within (i : Nat) (name : String) (token : Uuid) :
    (fleet.methods.unregister i name token).Within (fun _ => 1) 2 := by
  apply Program.within_call
  intro deleted
  cases deleted with
  | error e => trivial
  | ok _ => exact Program.within_call fun _ => trivial

instance : Nonempty Fate := ⟨.served⟩

/-- So does a connection of a fleet, with keys expiring, commands refused and replies lost. -/
theorem fleet_connections_return {roles : Nat → Role} {moves : List (Team.Move Nat (Way Fate) String)}
    {middle : Team Nat (Scene Cluster) (ServerCall.Reply RedisCall.Reply) (Except IoError Unit)}
    (runs : Machine.run (Team.step (Scene.rules fleet.engine)) (fleet.start roles) moves = some middle)
    {i : Nat} {peer : SocketAddr} (role : roles i = .connection peer) :
    ∃ more final result, (∀ move ∈ more, move.Of i) ∧
      Machine.run (Team.step (Scene.rules fleet.engine)) middle more = some final ∧
      final.task i = .done result ∧ moves.countP (·.Of i) + more.length ≤ 12 := by
  have within : ((fleet.start roles).task i).Within (fun _ => 1) 12 := by
    change (fleet.program i (roles i)).Within _ _
    rw [role]
    exact fleet.methods.connection_within i (fleet.register_within i) (fleet.unregister_within i) peer
  exact Team.exists_return_within (Scene.answerable fleet.engine i) within runs

/-- The reply to the third command of a registration is lost. -/
theorem lost_reply_returns :
    let fleet : Fleet :=
      ⟨fun _ => ⟨60 * 10 ^ 9, "a"⟩, fun _ => 0, ⟨fun i => ⟨BitVec.ofNat 128 i⟩, fun _ => 0, fun _ => 0⟩⟩
    ∃ middle, Machine.run (Team.step (Scene.rules fleet.engine))
        (fleet.start fun _ => .connection (.v4 ⟨10, 0, 0, 1⟩ 4000))
        [.task 0 (.read (.request ⟨"room", none⟩)), .task 0 (.registry .served),
          .task 0 (.registry .served), .task 0 (.registry (.lost "timed out")),
          .background "tcpunch:pairing:room"] = some middle ∧
      ∃ more final result, (∀ move ∈ more, move.Of 0) ∧
        Machine.run (Team.step (Scene.rules fleet.engine)) middle more = some final ∧
        final.task 0 = .done result ∧ 4 + more.length ≤ 12 := by
  intro fleet
  have ends : (Machine.run (Team.step (Scene.rules fleet.engine))
      (fleet.start fun _ => .connection (.v4 ⟨10, 0, 0, 1⟩ 4000))
      [.task 0 (.read (.request ⟨"room", none⟩)), .task 0 (.registry .served),
        .task 0 (.registry .served), .task 0 (.registry (.lost "timed out")),
        .background "tcpunch:pairing:room"]).isSome = true := by decide +kernel
  obtain ⟨middle, runs⟩ := Option.isSome_iff_exists.mp ends
  exact ⟨middle, runs, fleet_connections_return fleet runs rfl⟩

end RedisRegistry.Fleet

end TCPunch
