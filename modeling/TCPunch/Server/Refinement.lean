import TCPunch.Server.Concurrent

/-! # Atomic calls are one way of interleaving

Results about `World` are about a server whose registry calls are single steps. Every run
of that server is a run of the server whose requests interleave: a call is made at one go
if the requests of its method are answered one after another. What can happen in `World`
can therefore happen in the interleaved server too.
-/

namespace TCPunch

namespace Methods

variable {σ χ η Req α β : Type} {Reply : Req → Type} (engine : Engine σ Reply χ η)

/-- The scene after a method that sent the messages and left the registry. -/
def after (s : Scene σ) (registry : σ) (sent : List Notification) : Scene σ :=
  s.update { s.toShared with registry, inbox := sent.foldl Shared.deliver s.inbox }

/-- A connection can run a method to its end, with nobody coming between. -/
theorem run_inline (way : χ) (i : Nat) (method : SendingMethod Reply α)
    {next : α → ServerCode Reply β} {team : Team Nat (Scene σ) (ServerCall.Reply Reply) β}
    (here : team.task i = inline method >>= next) :
    ∃ moves, Machine.run (Team.step (Scene.rules engine)) team moves = some
      (let out := method.gather.run (engine.answer i way) team.shared.registry
       { shared := after team.shared out.2 out.1.2
         task := Function.update team.task i (next out.1.1) }) := by
  induction method generalizing team with
  | done a =>
      refine ⟨[], ?_⟩
      have same : Function.update team.task i (next a) = team.task := by
        rw [Function.update_eq_self_iff, here]
        rfl
      simp only [SendingMethod.gather, Program.run_done, same]
      rfl
  | call step rest ih =>
      cases step with
      | request call =>
          let out := engine.answer i way call team.shared.registry
          let team' : Team Nat (Scene σ) (ServerCall.Reply Reply) β :=
            { shared := team.shared.update { team.shared.toShared with registry := out.2 }
              task := Function.update team.task i (inline (rest out.1) >>= next) }
          have first : Team.step (Scene.rules engine) team (.task i (.registry way)) = some team' :=
            Team.step_task here rfl
          obtain ⟨moves, runs⟩ := ih out.1 (show team'.task i = _ from Function.update_self ..)
          refine ⟨.task i (.registry way) :: moves, ?_⟩
          simp only [Machine.run, first, Option.bind_some, runs, team', Function.update_idem]
          rfl
      | send message =>
          let team' : Team Nat (Scene σ) (ServerCall.Reply Reply) β :=
            { shared := team.shared.update
                { team.shared.toShared with inbox := Shared.deliver team.shared.inbox message }
              task := Function.update team.task i (inline (rest ()) >>= next) }
          have first : Team.step (Scene.rules engine) team (.task i .send) = some team' :=
            Team.step_task here rfl
          obtain ⟨moves, runs⟩ := ih () (show team'.task i = _ from Function.update_self ..)
          refine ⟨.task i .send :: moves, ?_⟩
          simp only [Machine.run, first, Option.bind_some, runs, team', Function.update_idem,
            SendingMethod.gather, Program.run_bind]
          rfl

end Methods

section World

variable {σ χ η ζ Req : Type} {Reply : Req → Type}

/-- The calls of the registry are its methods made at one go, with every request answered in
    the given way. -/
structure Realizes (engine : Engine σ Reply χ η) (methods : Methods Reply) (backend : Backend σ ζ)
    (way : χ) : Prop where
  register : ∀ i request s, (methods.register i request).gather.run (engine.answer i way) s =
    (SendingMethod.split (backend.register i request s).1, (backend.register i request s).2)
  unregister : ∀ i name token s,
    (methods.unregister i name token).gather.run (engine.answer i way) s =
      (((), []), backend.unregister i name token s)
  holds : ∀ s channel, engine.holds s channel = backend.holds s channel
  background : ∀ change s, ∃ changes : List η,
    changes.foldl (fun s change => engine.background change s) s = backend.background change s

/-- The interleaved server stands where the world stands. -/
structure Embeds (methods : Methods Reply) (w : World σ)
    (team : Team Nat (Scene σ) (ServerCall.Reply Reply) (Except IoError Unit)) : Prop where
  shared : team.shared.toShared = w.shared
  task : ∀ i, team.task i = (w.task i).expand (methods.perform i)

variable {engine : Engine σ Reply χ η} {methods : Methods Reply} {backend : Backend σ ζ} {way : χ}
  {w w' : World σ} {team : Team Nat (Scene σ) (ServerCall.Reply Reply) (Except IoError Unit)}

theorem Embeds.update (embeds : Embeds methods w team) {i : Nat} {s : Scene σ} {shared : Shared σ}
    (same : s.toShared = shared) (code : Handler.Code (Except IoError Unit)) :
    Embeds methods ⟨shared, Function.update w.task i code⟩
      ⟨s, Function.update team.task i (code.expand (methods.perform i))⟩ := by
  refine ⟨same, fun j => ?_⟩
  by_cases self : j = i
  · subst self
    simp only [Function.update_self]
  · simp only [Function.update_of_ne self]
    exact embeds.task j

theorem Embeds.one (embeds : Embeds methods w team) {i : Nat} (call : ServerCall Req)
    (next : call.Reply Reply → Handler.Code (Except IoError Unit)) (way : Way χ)
    (reply : call.Reply Reply) {s : Scene σ} {shared : Shared σ}
    (here : team.task i = .call call fun reply => (next reply).expand (methods.perform i))
    (answered : Scene.answer engine i way team.shared call = some (reply, s))
    (same : s.toShared = shared) :
    ∃ moves team', Machine.run (Team.step (Scene.rules engine)) team moves = some team' ∧
      Embeds methods ⟨shared, Function.update w.task i (next reply)⟩ team' := by
  refine ⟨[.task i way], _, ?_, embeds.update same (next reply)⟩
  have taken : Team.step (Scene.rules engine) team (.task i way) = _ := Team.step_task here answered
  simp only [Machine.run, taken, Option.bind_some]

variable (engine) in
theorem Embeds.background (embeds : Embeds methods w team) (changes : List η) :
    ∃ moves team', Machine.run (Team.step (Scene.rules engine)) team moves = some team' ∧
      Embeds methods { w with shared := { w.shared with
        registry := changes.foldl (fun s change => engine.background change s) w.shared.registry } }
        team' := by
  obtain ⟨shared, task⟩ := w
  induction changes generalizing shared team with
  | nil => exact ⟨[], team, rfl, embeds⟩
  | cons change rest ih =>
      obtain rfl := embeds.shared
      have later : Embeds methods ⟨{ team.shared.toShared with
            registry := engine.background change team.shared.registry }, task⟩
          { team with shared := team.shared.update { team.shared.toShared with
            registry := engine.background change team.shared.registry } } := ⟨rfl, embeds.task⟩
      obtain ⟨moves, team', runs, ends⟩ := ih _ later
      exact ⟨.background change :: moves, team', runs, ends⟩

theorem Embeds.step (embeds : Embeds methods w team) (realizes : Realizes engine methods backend way)
    {event : Event ζ} (taken : World.step backend w event = some w') :
    ∃ moves team', Machine.run (Team.step (Scene.rules engine)) team moves = some team' ∧
      Embeds methods w' team' := by
  cases event with
  | background change =>
      cases taken
      obtain ⟨changes, same⟩ := realizes.background change w.shared.registry
      obtain ⟨moves, team', runs, ends⟩ := embeds.background engine changes
      rw [same] at ends
      exact ⟨moves, team', runs, ends⟩
  | handler i choice =>
      obtain ⟨⟨code, shared⟩, reacts, rfl⟩ := Option.map_eq_some_iff.mp taken
      have here := embeds.task i
      obtain ⟨before, task⟩ := w
      obtain rfl := embeds.shared
      cases pending : task i with
      | done result => simp only [pending] at reacts; cases reacts
      | call request next =>
          simp only [pending] at reacts here
          obtain ⟨⟨reply, s⟩, answered, same⟩ := Option.map_eq_some_iff.mp reacts
          cases same
          cases request with
          | register request =>
              cases choice with
              | register =>
                  cases answered
                  obtain ⟨moves, runs⟩ := Methods.run_inline engine way i (methods.register i request) here
                  refine ⟨moves, _, runs, ?_⟩
                  rw [realizes.register]
                  generalize backend.register i request team.shared.registry = out
                  obtain ⟨result, registry⟩ := out
                  cases result with
                  | ok registered =>
                      exact embeds.update (s := Methods.after team.shared registry registered.sent) rfl
                        (next (.ok registered.result))
                  | error e =>
                      exact embeds.update (s := Methods.after team.shared registry []) rfl
                        (next (.error e))
              | read | write | arrived | closed | elapsed | unregister | count => cases answered
          | unregister name token =>
              cases choice with
              | unregister =>
                  cases answered
                  obtain ⟨moves, runs⟩ :=
                    Methods.run_inline engine way i (methods.unregister i name token) here
                  refine ⟨moves, _, runs, ?_⟩
                  rw [realizes.unregister]
                  exact embeds.update (s := Methods.after team.shared _ []) rfl (next ())
              | read | register | write | arrived | closed | elapsed | count => cases answered
          | readRequest =>
              cases choice with
              | read outcome =>
                  cases answered
                  apply embeds.one .readRequest next (.read reply) reply here rfl
                  cases reply <;> rfl
              | register | write | arrived | closed | elapsed | unregister | count => cases answered
          | awaitPeer channel =>
              cases choice with
              | arrived =>
                  obtain ⟨peerInfo, there, same⟩ := Option.map_eq_some_iff.mp answered
                  cases same
                  refine embeds.one (.awaitPeer channel) next .arrived (.arrived peerInfo) here ?_ rfl
                  exact Option.map_eq_some_iff.mpr ⟨peerInfo, there, rfl⟩
              | closed =>
                  simp only [World.answer] at answered
                  split at answered
                  · rename_i silent
                    cases answered
                    rw [← realizes.holds] at silent
                    exact embeds.one (.awaitPeer channel) next .closed .closed here (if_pos silent) rfl
                  · cases answered
              | elapsed =>
                  simp only [World.answer] at answered
                  split at answered
                  · rename_i silent
                    cases answered
                    exact embeds.one (.awaitPeer channel) next .elapsed .elapsed here (if_pos silent.1) rfl
                  · cases answered
              | read | register | write | unregister | count => cases answered
          | writeAll frame =>
              cases choice with
              | write outcome =>
                  cases outcome with
                  | ok _ =>
                      cases answered
                      exact embeds.one (.writeAll frame) next (.write (.ok ())) (.ok ()) here rfl rfl
                  | error e =>
                      cases answered
                      exact embeds.one (.writeAll frame) next (.write (.error e)) (.error e) here rfl rfl
              | read | register | arrived | closed | elapsed | unregister | count => cases answered
          | pairingSucceeded =>
              cases choice with
              | count => cases answered; exact embeds.one .pairingSucceeded next .count () here rfl rfl
              | read | register | write | arrived | closed | elapsed | unregister => cases answered
          | timeoutOccurred =>
              cases choice with
              | count => cases answered; exact embeds.one .timeoutOccurred next .count () here rfl rfl
              | read | register | write | arrived | closed | elapsed | unregister => cases answered

end World

namespace InMemoryRegistry

variable {config : RegistryConfig} {entropy : Entropy} {peers : Nat → SocketAddr}

theorem expire_eq_sweep (config : RegistryConfig) (now : Instant) {acc : Nat × InMemoryRegistry}
    {name : String} {entry : PairingEntry} (live : acc.2.pairings.lookup name = some entry) :
    expire config name now acc.2 = (sweep config now acc name entry).2 := by
  simp only [expire, live, sweep]
  split <;> rfl

theorem exists_expiries (config : RegistryConfig) (now : Instant) (s : InMemoryRegistry) :
    ∃ changes : List (String × Instant),
      changes.foldl (fun s change => expire config change.1 change.2 s) s = (cleanupExpired config now s).2 := by
  apply cleanupExpired_rule (fun acc => ∃ changes : List (String × Instant),
    changes.foldl (fun s change => expire config change.1 change.2 s) s = acc.2) ⟨[], rfl⟩
  rintro acc name entry ⟨changes, folds⟩ live
  refine ⟨changes ++ [(name, now)], ?_⟩
  rw [List.foldl_append, folds]
  exact expire_eq_sweep config now live

theorem realizes (config : RegistryConfig) (entropy : Entropy) :
    Realizes (engine config) (methods config entropy) (backend config entropy) () where
  register i request s := by
    simp only [methods, Sending.gather_register, Program.run_bind, Program.run_done]
    rfl
  unregister i name token s := by
    have gathered : ((methods config entropy).unregister i name token).gather =
        (unregister name token >>= fun _ => .done ((), [])) := SendingMethod.gather_lift _ _
    rw [gathered, Program.run_bind]
    rfl
  holds s channel := rfl
  background now s := exists_expiries config now s

/-- Every run of the server with atomic calls is a run of the interleaved server: what is in
    the registry and in the channels, what was written and what was counted is the same, and
    every connection stands where its handler stands. -/
theorem atomic_runs_are_interleavings {events : List (Event Instant)} {w : World InMemoryRegistry}
    (runs : Machine.run (World.step (backend config entropy)) (World.start new peers) events = some w) :
    ∃ moves final, Run config entropy peers moves = some final ∧ final.shared.toShared = w.shared ∧
      ∀ i, final.task i = (w.task i).expand ((methods config entropy).perform i) := by
  obtain ⟨moves, final, steps, embeds⟩ := Machine.run_refines
    (fun _ _ _ _ embeds taken => Embeds.step embeds (realizes config entropy) taken)
    (⟨rfl, fun _ => rfl⟩ : Embeds (methods config entropy) (World.start new peers)
      ((methods config entropy).start new peers)) runs
  exact ⟨moves, final, steps, embeds.shared, embeds.task⟩

/-- Two clients meet. -/
def atomicMeeting : List (Event Instant) :=
  [.handler 0 (.read (.request ⟨"room", none⟩)), .handler 0 .register, .handler 0 (.write (.ok ())),
    .background 5, .handler 1 (.read (.request ⟨"room", none⟩)), .handler 1 .register,
    .handler 0 .arrived, .handler 0 (.write (.ok ()))]

theorem atomic_meeting_interleaves :
    let entropy : Entropy := ⟨fun _ => ⟨0⟩, fun _ => 0, fun _ => 0⟩
    ∃ moves final, Run ⟨60, "a"⟩ entropy (fun _ => .v4 ⟨10, 0, 0, 1⟩ 4000) moves = some final ∧
      final.shared.frames 0 = [.waiting ⟨⟨10, 0, 0, 1⟩, 4000⟩ ⟨0⟩,
        .paired ⟨⟨10, 0, 0, 1⟩, 4000⟩ ⟨⟨10, 0, 0, 1⟩, 4000⟩ ⟨0⟩] := by
  intro entropy
  have ends : (Machine.run (World.step (backend ⟨60, "a"⟩ entropy))
      (World.start new fun _ => .v4 ⟨10, 0, 0, 1⟩ 4000) atomicMeeting).map
        (fun w => w.shared.frames 0) = some [.waiting ⟨⟨10, 0, 0, 1⟩, 4000⟩ ⟨0⟩,
          .paired ⟨⟨10, 0, 0, 1⟩, 4000⟩ ⟨⟨10, 0, 0, 1⟩, 4000⟩ ⟨0⟩] := by decide +kernel
  obtain ⟨w, runs, frames⟩ := Option.map_eq_some_iff.mp ends
  obtain ⟨moves, final, steps, same, -⟩ := atomic_runs_are_interleavings runs
  exact ⟨moves, final, steps, by rw [same]; exact frames⟩

end InMemoryRegistry

end TCPunch
