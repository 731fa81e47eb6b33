import TCPunch.Server.InMemory

/-! # What a handler leaves behind

A handler that was told to wait has its sender in the registry. When it returns, the
sender has been used, dropped or removed, with one exception: if the write of WAITING
fails, the handler returns at once and its entry stays. The next client under the name is
paired with a peer that nobody will notify.
-/

namespace TCPunch

/-- The handler is about to write WAITING. -/
def Handler.greets (task : Handler.Code (Except IoError Unit)) : Bool :=
  match task.request with
  | some (.writeAll frame) => decide (frame.status = .waiting)
  | _ => false

namespace InMemoryRegistry

variable {config : RegistryConfig} {entropy : Entropy} {s s' : InMemoryRegistry} {i j : Nat}
  {request : Request} {hall hall' : Hall InMemoryRegistry}

/-- No entry holds the sender of handler `i`. -/
def Unheld (i : Nat) (s : InMemoryRegistry) : Prop :=
  ∀ name entry, s.pairings.lookup name = some entry → entry.notifyTx ≠ some i

theorem holds_eq_false_iff : (backend config entropy).holds s i = false ↔ Unheld i s := by
  rw [← Bool.not_eq_true, holds_iff]
  constructor
  · intro nobody name entry live sender
    exact nobody ⟨name, entry, live, sender⟩
  · intro unheld held
    obtain ⟨name, entry, live, sender⟩ := held
    exact unheld name entry live sender

/-- Entries with the sender of handler `i` may go, and none comes. -/
def Fewer (i : Nat) (s s' : InMemoryRegistry) : Prop :=
  ∀ name entry, s'.pairings.lookup name = some entry → entry.notifyTx = some i →
    s.pairings.lookup name = some entry

theorem Fewer.unheld (fewer : Fewer i s s') (unheld : Unheld i s) : Unheld i s' :=
  fun name entry live sender => unheld name entry (fewer name entry live sender) sender

theorem fewer_insert {name : String} {entry : PairingEntry} {tokens : FiniteMap Uuid String}
    (other : entry.notifyTx ≠ some i) :
    Fewer i s { pairings := s.pairings.insert name entry, tokens } := by
  intro n e live sender
  obtain ⟨-, rfl⟩ | ⟨-, live⟩ := FiniteMap.of_lookup_insert live
  · exact absurd sender other
  · exact live

theorem fewer_erase {name : String} {tokens : FiniteMap Uuid String} :
    Fewer i s { pairings := s.pairings.erase name, tokens } :=
  fun _ _ live _ => (FiniteMap.of_lookup_erase live).2

/-- A message came for handler `i` only with the removal of an entry that held its sender. -/
def Consumed (i : Nat) (shared shared' : Shared InMemoryRegistry) : Prop :=
  shared'.inbox i = shared.inbox i ∨
    ∃ name entry, shared.registry.pairings.lookup name = some entry ∧ entry.notifyTx = some i ∧
      shared'.registry.pairings.lookup name = none

theorem register_by_other (config : RegistryConfig) (entropy : Entropy)
    (shared : Shared InMemoryRegistry) (request : Request) (apart : i ≠ j) :
    let out := (backend config entropy).register j request shared.registry
    Fewer i shared.registry (shared.registered out).registry ∧
      Consumed i shared (shared.registered out) := by
  intro out
  rcases register_cases config entropy shared.registry j request with
    ⟨-, same⟩ | ⟨entry, -, -, same⟩ | ⟨entry, live, -, same⟩
  · simp only [out, same, Shared.registered]
    exact ⟨fewer_insert (by simp [firstEntry, Entropy.draws, apart.symm]), .inl rfl⟩
  · simp only [out, same, Shared.registered]
    exact ⟨fewer_insert (by simp [moveTo, apart.symm]), .inl rfl⟩
  · simp only [out, same, Shared.registered]
    refine ⟨fewer_erase, ?_⟩
    cases sender : entry.notifyTx with
    | none => exact .inl rfl
    | some tx =>
        by_cases mine : tx = i
        · subst mine
          exact .inr ⟨_, entry, live, sender, Finmap.lookup_erase _ _⟩
        · refine .inl ?_
          simp [Shared.deliver, Function.update_of_ne (Ne.symm mine)]

/-- An answer to another handler leaves the sender of handler `i` alone or takes it out. -/
theorem moves_by_other {choice : Choice} {shared shared' : Shared InMemoryRegistry}
    {position position' : Position} (apart : i ≠ j)
    (moved : Position.Moves (backend config entropy) j shared position choice position' shared') :
    Fewer i shared.registry shared'.registry ∧ Consumed i shared shared' := by
  cases moved with
  | register request => exact register_by_other config entropy shared request apart
  | unregister wait =>
      exact ⟨fun name entry live _ => (of_lookup_unregister live).2, .inl rfl⟩
  | count counter => cases counter <;> exact ⟨fun _ _ live _ => live, .inl rfl⟩
  | read | greet | greetFails | arrived | closed | elapsed | close | closeFails =>
      exact ⟨fun _ _ live _ => live, .inl rfl⟩

/-! ## The sender of one handler -/

/-- What is known at each position: while the handler waits its sender may be in the registry,
    before and after it is not. -/
def Traces (i : Nat) (request : Request) (shared : Shared InMemoryRegistry) : Position → Prop
  | .registering r => r = request ∧ Unheld i shared.registry ∧ shared.inbox i = none
  | .greeting wait | .waiting wait | .leaving wait =>
      wait.peerNotify = i ∧ wait.pairingName = request.pairingName
  | .closing _ _ | .counting _ | .returned _ => Unheld i shared.registry
  | .reading _ => False

/-- The sender of handler `i` is under the name it registered, and nowhere once it is used. -/
structure Traced (i : Nat) (request : Request) (hall : Hall InMemoryRegistry) : Prop where
  named : ∀ name entry, hall.shared.registry.pairings.lookup name = some entry →
    entry.notifyTx = some i → name = request.pairingName
  used : ∀ peer, hall.shared.inbox i = some peer → Unheld i hall.shared.registry
  here : Traces i request hall.shared (hall.position i)

theorem Traced.other (traced : Traced i request hall) (stays : hall'.position i = hall.position i)
    (fewer : Fewer i hall.shared.registry hall'.shared.registry)
    (consumed : Consumed i hall.shared hall'.shared) : Traced i request hall' where
  named := fun name entry live sender =>
    traced.named name entry (fewer name entry live sender) sender
  used := by
    intro peer there
    rcases consumed with same | ⟨name, entry, live, sender, gone⟩
    · exact fewer.unheld (traced.used peer (same ▸ there))
    · -- The entry that went was the only one.
      intro name' entry' live' sender'
      have before := fewer name' entry' live' sender'
      have same : name' = name := (traced.named name' entry' before sender').trans
        (traced.named name entry live sender).symm
      rw [same, gone] at live'
      cases live'
  here := by
    have here := traced.here
    rw [stays]
    cases position : hall.position i with
    | registering r =>
        rw [position] at here
        obtain ⟨rfl, unheld, silent⟩ := here
        refine ⟨rfl, fewer.unheld unheld, ?_⟩
        rcases consumed with same | ⟨name, entry, live, sender, -⟩
        · exact same.trans silent
        · exact absurd sender (unheld name entry live)
    | closing | counting | returned =>
        rw [position] at here
        exact fewer.unheld here
    | greeting | waiting | leaving | reading =>
        rw [position] at here
        exact here

theorem traced_gone {shared : Shared InMemoryRegistry} {position : Nat → Position} {next : Position}
    (gone : Unheld i shared.registry) (here : Traces i request shared next) :
    Traced i request { shared, position := Function.update position i next } where
  named := fun name entry live sender => absurd sender (gone name entry live)
  used := fun _ _ => gone
  here := by simpa only [Function.update_self] using here

theorem Traced.goOn (traced : Traced i request hall) {shared : Shared InMemoryRegistry}
    {next : Position} (registry : shared.registry = hall.shared.registry)
    (inbox : shared.inbox = hall.shared.inbox) (here : Traces i request shared next) :
    Traced i request { shared, position := Function.update hall.position i next } where
  named := by simpa only [registry] using traced.named
  used := by simpa only [registry, inbox] using traced.used
  here := by simpa only [Function.update_self] using here

theorem traced_enter {shared shared' : Shared InMemoryRegistry} {position : Nat → Position}
    {entry : PairingEntry} {tokens : FiniteMap Uuid String} {token : Uuid}
    (unheld : Unheld i shared.registry) (silent : shared.inbox i = none)
    (registry : shared'.registry =
      { pairings := shared.registry.pairings.insert request.pairingName entry, tokens })
    (inbox : shared'.inbox = shared.inbox) :
    Traced i request
      { shared := shared'
        position := Function.update position i
          (.greeting ⟨request.clientInfo, request.pairingName, token, i⟩) } where
  named := by
    intro name e live sender
    simp only [registry, FiniteMap.lookup_insert_if] at live
    split at live
    · assumption
    · exact absurd sender (unheld name e live)
  used := by
    intro peer there
    simp only [inbox, silent] at there
    cases there
  here := by
    simp only [Function.update_self]
    exact ⟨rfl, rfl⟩

theorem Traced.register (traced : Traced i request hall)
    (here : hall.position i = .registering request) :
    let out := (backend config entropy).register i request hall.shared.registry
    Traced i request
      { shared := hall.shared.registered out
        position := Function.update hall.position i
          (Position.afterRegister request (out.1.map Registered.result)) } := by
  intro out
  have known := traced.here
  rw [here] at known
  obtain ⟨-, unheld, silent⟩ := known
  rcases register_cases config entropy hall.shared.registry i request with
    ⟨-, same⟩ | ⟨entry, -, -, same⟩ | ⟨entry, -, -, same⟩
  · simp only [out, same]
    exact traced_enter unheld silent rfl rfl
  · simp only [out, same]
    exact traced_enter unheld silent rfl rfl
  · have gone : Unheld i (hall.shared.registered out).registry := by
      simp only [out, same, Shared.registered]
      exact fewer_erase.unheld unheld
    simp only [out, same] at gone ⊢
    exact traced_gone gone gone

/-- If the write of WAITING fails, the handler's slot no longer holds its sender. -/
def GreetsOrGone (i : Nat) (name : String) (w : World InMemoryRegistry) : Event Instant → Prop
  | .handler j (.write (.error _)) =>
      j = i → Handler.greets (w.task i) = true →
        (w.shared.registry.pairings.lookup name).bind PairingEntry.notifyTx ≠ some i
  | _ => True

instance (i : Nat) (name : String) (w : World InMemoryRegistry) :
    (event : Event Instant) → Decidable (GreetsOrGone i name w event)
  | .handler _ (.write (.error _)) => inferInstanceAs (Decidable (_ → _ → _))
  | .handler _ (.write (.ok _)) | .handler _ (.read _) | .handler _ .register | .handler _ .arrived
  | .handler _ .closed | .handler _ .elapsed | .handler _ .unregister | .handler _ .count
  | .background _ => isTrue trivial

theorem Traced.unheld_iff (traced : Traced i request hall) :
    Unheld i hall.shared.registry ↔
      (hall.shared.registry.pairings.lookup request.pairingName).bind PairingEntry.notifyTx ≠
        some i := by
  constructor
  · intro unheld held
    obtain ⟨entry, live, sender⟩ := Option.bind_eq_some_iff.mp held
    exact unheld _ entry live sender
  · intro elsewhere name entry live sender
    obtain rfl := traced.named name entry live sender
    exact elsewhere (Option.bind_eq_some_iff.mpr ⟨entry, live, sender⟩)

theorem Traced.own (traced : Traced i request hall) {choice : Choice} {next : Position}
    {shared : Shared InMemoryRegistry}
    (may : GreetsOrGone i request.pairingName hall.toWorld (.handler i choice))
    (moved : Position.Moves (backend config entropy) i hall.shared (hall.position i) choice next
      shared) :
    Traced i request { shared, position := Function.update hall.position i next } := by
  have here := traced.here
  generalize stands : hall.position i = before at moved here
  cases moved with
  | register r =>
      obtain rfl := here.1
      exact traced.register stands
  | greet wait => exact traced.goOn rfl rfl here
  | greetFails wait e =>
      have gone : Unheld i hall.shared.registry := by
        apply traced.unheld_iff.mpr
        apply may rfl
        rw [Hall.toWorld_task, stands]
        rfl
      exact traced_gone gone gone
  | arrived wait peer there =>
      rw [here.1] at there
      have gone := traced.used peer there
      exact traced_gone gone gone
  | closed wait silent dropped =>
      rw [here.1] at dropped
      have gone := holds_eq_false_iff.mp dropped
      exact traced_gone gone gone
  | elapsed wait silent => exact traced.goOn rfl rfl here
  | unregister wait =>
      have gone : Unheld i ((backend config entropy).unregister i wait.pairingName wait.token
          hall.shared.registry) := by
        intro name entry live sender
        obtain ⟨other, before⟩ := of_lookup_unregister live
        exact other ((traced.named name entry before sender).trans here.2.symm)
      exact traced_gone gone gone
  | close frame counter => cases counter <;> exact traced_gone here here
  | closeFails frame counter e => exact traced_gone here here
  | count counter => cases counter <;> exact traced_gone here here
  | read => exact here.elim

theorem Traced.step (traced : Traced i request hall) {event : Event Instant}
    (may : GreetsOrGone i request.pairingName hall.toWorld event)
    (taken : hall.step (backend config entropy) event = some hall') : Traced i request hall' := by
  rcases Hall.step_cases taken with
    ⟨j, choice, next, shared, rfl, moved, rfl⟩ | ⟨now, rfl, rfl⟩
  · by_cases same : i = j
    · subst same
      exact traced.own may moved
    · obtain ⟨fewer, consumed⟩ := moves_by_other same moved
      exact traced.other (Function.update_of_ne same ..) fewer consumed
  · exact traced.other rfl (fun _ _ live _ => (cleanupExpired_pairings.mp live).1) (.inl rfl)

/-- Whoever is paired over such a registry is paired with the client of another handler. -/
theorem Unheld.not_sent (unheld : Unheld i s) {token peerInfo sent}
    (paired : ((backend config entropy).register j request s).1 = .ok ⟨.paired token peerInfo, sent⟩) :
    ∀ message ∈ sent, message.channel ≠ i := by
  rcases register_cases config entropy s j request with
    ⟨-, out⟩ | ⟨entry, -, -, out⟩ | ⟨entry, live, -, out⟩
  · simp [out] at paired
  · simp [out] at paired
  · simp only [out, Except.ok.injEq, Registered.mk.injEq] at paired
    intro message member same
    rw [← paired.2, List.mem_map] at member
    obtain ⟨tx, sender, rfl⟩ := member
    exact unheld _ entry live (same ▸ Option.mem_toList.mp sender)

theorem step_write_error {e : IoError}
    (taken : hall.step (backend config entropy) (.handler i (.write (.error e))) = some hall') :
    hall'.position i = .returned (.error e) ∧ hall'.shared = hall.shared := by
  rcases Hall.step_cases taken with ⟨j, choice, next, shared, same, moved, rfl⟩ | ⟨now, same, -⟩
  · cases same
    generalize hall.position i = before at moved
    cases moved with
    | greetFails | closeFails => exact ⟨Function.update_self .., rfl⟩
  · cases same

/-- Handler `i` is about to register, over any registry that does not have its channel yet
    and among handlers at any positions. In every run in which its write of WAITING does not
    fail while its slot holds its sender, no entry holds the sender once the handler has
    returned, and nobody is paired with its client any more. In any state of such a run, a
    failed write of WAITING leaves no entry behind exactly if the slot does not hold it. -/
theorem no_ghost_if_greeted (config : RegistryConfig) (entropy : Entropy)
    (hall : Hall InMemoryRegistry) (i : Nat) (request : Request)
    (about : hall.position i = .registering request)
    (fresh : (backend config entropy).holds hall.shared.registry i = false)
    (silent : hall.shared.inbox i = none) (events : List (Event Instant)) (w : World InMemoryRegistry)
    (greets : Machine.Along (World.step (backend config entropy))
      (GreetsOrGone i request.pairingName) hall.toWorld events)
    (runs : Machine.run (World.step (backend config entropy)) hall.toWorld events = some w) :
    (∀ result, w.task i = .done result →
      (backend config entropy).holds w.shared.registry i = false ∧
        ∀ j request' token peerInfo sent,
          ((backend config entropy).register j request' w.shared.registry).1 =
              .ok ⟨.paired token peerInfo, sent⟩ → ∀ message ∈ sent, message.channel ≠ i) ∧
      ∀ e w', Handler.greets (w.task i) = true →
        World.step (backend config entropy) w (.handler i (.write (.error e))) = some w' →
          w'.task i = .done (.error e) ∧
            ((backend config entropy).holds w'.shared.registry i = false ↔
              GreetsOrGone i request.pairingName w (.handler i (.write (.error e)))) := by
  have unheld : Unheld i hall.shared.registry := holds_eq_false_iff.mp fresh
  have start : Traced i request hall := by
    refine ⟨fun name entry live sender => absurd sender (unheld name entry live), ?_, ?_⟩
    · intro peer there
      rw [silent] at there
      cases there
    · rw [about]
      exact ⟨rfl, unheld, silent⟩
  rw [Hall.run_eq] at runs
  obtain ⟨last, onward, rfl⟩ := Option.map_eq_some_iff.mp runs
  have traced : Traced i request last :=
    Machine.run_invariant (fun _ _ _ traced may taken => Traced.step traced may taken) start
      (Machine.along_of_image Hall.step_eq greets) onward
  constructor
  · intro result done
    have gone : Unheld i last.shared.registry := by
      have here := traced.here
      rw [Position.eq_returned done] at here
      exact here
    exact ⟨holds_eq_false_iff.mpr gone, fun _ _ _ _ _ paired => gone.not_sent paired⟩
  · intro e w' greets taken
    rw [Hall.step_eq] at taken
    obtain ⟨next, fails, rfl⟩ := Option.map_eq_some_iff.mp taken
    obtain ⟨returned, shared⟩ := step_write_error fails
    refine ⟨by rw [Hall.toWorld_task, returned]; rfl, ?_⟩
    rw [Hall.toWorld_shared, shared, holds_eq_false_iff, traced.unheld_iff]
    exact ⟨fun gone _ _ => gone, fun gone => gone rfl greets⟩

/-- The write of WAITING to client 0 fails. Its entry stays, and client 1 is paired with it:
    the message goes to a handler that has returned. -/
theorem failed_greeting_leaves_ghost :
    let server := backend ⟨60, "s"⟩ ⟨fun i => ⟨i⟩, fun _ => 0, fun _ => 0⟩
    let peers : Nat → SocketAddr := fun i => .v4 ⟨10, 0, 0, .ofNat i⟩ 4000
    let info : Nat → PeerConnectionData := fun i => ⟨⟨10, 0, 0, .ofNat i⟩, 4000⟩
    let run : List (Event Instant) :=
      [ .handler 0 (.read (.request ⟨"a", none⟩)), .handler 0 .register,
        .handler 0 (.write (.error "broken pipe")) ]
    (Machine.run (World.step server) (World.start new peers) run).map
        (fun w => ((w.task 0).request.isNone, server.holds w.shared.registry 0)) = some (true, true) ∧
      (Machine.run (World.step server) (World.start new peers)
          (run ++ [.handler 1 (.read (.request ⟨"a", none⟩)), .handler 1 .register,
            .handler 1 (.write (.ok ()))])).map
        (fun w => (w.shared.frames 0, w.shared.frames 1, w.shared.inbox 0)) =
        some ([], [ServerResponse.paired (info 1) (info 0) ⟨1⟩], some (info 1)) := by
  decide

/-- The client is told to wait, its time is up, and the write of TIMEOUT fails: the entry is
    gone by then. -/
theorem no_ghost_after_failed_timeout :
    let server := backend ⟨60, "s"⟩ ⟨fun i => ⟨i⟩, fun _ => 0, fun _ => 0⟩
    let hall : Hall InMemoryRegistry :=
      ⟨⟨new, fun _ => none, fun _ => [], ⟨0, 0⟩⟩,
        fun i => .registering ⟨"a", ⟨⟨10, 0, 0, .ofNat i⟩, 4000⟩, none⟩⟩
    let run : List (Event Instant) :=
      [ .handler 0 .register, .handler 0 (.write (.ok ())), .handler 0 .elapsed,
        .handler 0 .unregister, .handler 0 (.write (.error "broken pipe")) ]
    ∃ w, Machine.run (World.step server) hall.toWorld run = some w ∧
      w.task 0 = .done (.error "broken pipe") ∧ server.holds w.shared.registry 0 = false := by
  intro server hall run
  exact ⟨_, rfl, rfl, ((no_ghost_if_greeted _ _ hall 0 _ rfl (by decide) rfl run _ (by decide) rfl).1
    _ rfl).1⟩

end InMemoryRegistry

end TCPunch
