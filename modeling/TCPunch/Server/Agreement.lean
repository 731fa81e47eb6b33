import TCPunch.Server.InMemory

/-! # Whether both sides of a pair learn of it

When no write fails, every sender in the registry belongs to a handler that is still
registered under the same name and whose channel is empty. A client that takes an
entry therefore reaches a handler that is about to wait, waits, or has just run out of
time. In the first two cases that handler tells its client about the peer; in the last
it tells it to give up, although the peer has been told otherwise.
-/

namespace TCPunch.InMemoryRegistry

variable {config : RegistryConfig} {entropy : Entropy} {peers : Nat → SocketAddr}
  {s : InMemoryRegistry} {inbox : Chan → Option PeerConnectionData} {position : Nat → Position}

/-- The handler that will receive what is sent on behalf of an entry. -/
structure Attends (inbox : Chan → Option PeerConnectionData) (position : Nat → Position)
    (name : String) (entry : PairingEntry) (channel : Chan) (wait : Handler.Wait) : Prop where
  sender : entry.notifyTx = some channel
  waits : (position channel).wait? = some wait
  named : wait.pairingName = name
  known : wait.clientInfo = entry.waitingClient.connectionInfo
  silent : inbox channel = none

/-- Every entry of the registry has a handler to receive, and no message yet. -/
structure Attended (s : InMemoryRegistry) (inbox : Chan → Option PeerConnectionData)
    (position : Nat → Position) : Prop where
  held : ∀ name entry, s.pairings.lookup name = some entry →
    ∃ channel wait, Attends inbox position name entry channel wait
  quiet : ∀ i, (position i).Early → inbox i = none

theorem attended_new (position : Nat → Position) : Attended new (fun _ => none) position where
  held := by intro name entry live; simp [new] at live
  quiet := fun _ _ => rfl

theorem Attended.shrink (attended : Attended s inbox position) {s' : InMemoryRegistry}
    (fewer : ∀ name entry, s'.pairings.lookup name = some entry →
      s.pairings.lookup name = some entry) : Attended s' inbox position :=
  ⟨fun name entry live => attended.held name entry (fewer name entry live), attended.quiet⟩

theorem Attended.holder (attended : Attended s inbox position) {name entry channel}
    (live : s.pairings.lookup name = some entry) (sender : entry.notifyTx = some channel) :
    ∃ wait, Attends inbox position name entry channel wait := by
  obtain ⟨channel', wait, attends⟩ := attended.held name entry live
  obtain rfl := Option.some.inj (attends.sender.symm.trans sender)
  exact ⟨wait, attends⟩

theorem Attended.unheld (attended : Attended s inbox position) {i}
    (idle : (position i).wait? = none) {name entry} (live : s.pairings.lookup name = some entry) :
    entry.notifyTx ≠ some i := by
  intro sender
  obtain ⟨wait, attends⟩ := attended.holder live sender
  cases idle.symm.trans attends.waits

/-- A handler may move on within its wait, or when the registry does not hold its sender. -/
theorem Attended.move (attended : Attended s inbox position) {i next}
    (free : ∀ name entry, s.pairings.lookup name = some entry → entry.notifyTx = some i →
      next.wait? = (position i).wait?)
    (past : next.Early → inbox i = none) :
    Attended s inbox (Function.update position i next) where
  held := by
    intro name entry live
    obtain ⟨channel, wait, attends⟩ := attended.held name entry live
    refine ⟨channel, wait, { attends with waits := ?_ }⟩
    by_cases same : channel = i
    · subst same
      rw [Function.update_self, free name entry live attends.sender, attends.waits]
    · rw [Function.update_of_ne same, attends.waits]
  quiet := by
    intro j early
    by_cases same : j = i
    · subst same
      rw [Function.update_self] at early
      exact past early
    · rw [Function.update_of_ne same] at early
      exact attended.quiet j early

theorem Attended.enter (attended : Attended s inbox position) {i name tokens wait}
    {entry : PairingEntry} (early : (position i).Early) (sender : entry.notifyTx = some i)
    (named : wait.pairingName = name) (known : wait.clientInfo = entry.waitingClient.connectionInfo) :
    Attended { pairings := s.pairings.insert name entry, tokens } inbox
      (Function.update position i (.greeting wait)) where
  held := by
    intro n e found
    obtain ⟨same, rfl⟩ | ⟨-, found⟩ := FiniteMap.of_lookup_insert found
    · exact ⟨i, wait, {
        sender, known, silent := attended.quiet i early
        named := named.trans same.symm
        waits := by rw [Function.update_self]; rfl }⟩
    · obtain ⟨channel, wait', attends⟩ := attended.held n e found
      have apart : channel ≠ i := by
        intro same
        subst same
        exact attended.unheld early.wait? found attends.sender
      exact ⟨channel, wait', { attends with
        waits := by rw [Function.update_of_ne apart, attends.waits] }⟩
  quiet := by
    intro j early'
    by_cases same : j = i
    · subst same; exact attended.quiet j early
    · rw [Function.update_of_ne same] at early'
      exact attended.quiet j early'

theorem Attended.send (attended : Attended s inbox position) {name entry channel wait tokens peer}
    (attends : Attends inbox position name entry channel wait) :
    Attended { pairings := s.pairings.erase name, tokens }
      (Shared.deliver inbox { channel, peer }) position where
  held := by
    intro n e found
    obtain ⟨other, found⟩ := FiniteMap.of_lookup_erase found
    obtain ⟨c, wait', attends'⟩ := attended.held n e found
    -- Two entries of one channel would be under the name of its handler.
    have apart : c ≠ channel := by
      intro same
      subst same
      obtain rfl := Option.some.inj (attends'.waits.symm.trans attends.waits)
      exact other (attends'.named.symm.trans attends.named)
    refine ⟨c, wait', { attends' with silent := ?_ }⟩
    rw [Shared.deliver, Function.update_of_ne apart]
    exact attends'.silent
  quiet := by
    intro j early
    have apart : j ≠ channel := by
      intro same
      subst same
      cases early.wait?.symm.trans attends.waits
    rw [Shared.deliver, Function.update_of_ne apart]
    exact attended.quiet j early

theorem Attended.register {shared : Shared InMemoryRegistry}
    (attended : Attended shared.registry shared.inbox position) {i request}
    (here : position i = .registering request) :
    Attended
      (shared.registered ((backend config entropy).register i request shared.registry)).registry
      (shared.registered ((backend config entropy).register i request shared.registry)).inbox
      (Function.update position i (Position.afterRegister request
        (((backend config entropy).register i request shared.registry).1.map
          Registered.result))) := by
  have early : (position i).Early := by rw [here]; trivial
  rcases register_cases config entropy shared.registry i request with
    ⟨-, out⟩ | ⟨entry, -, -, out⟩ | ⟨entry, live, -, out⟩ <;> rw [out]
  · exact attended.enter early rfl rfl rfl
  · exact attended.enter early rfl rfl rfl
  · obtain ⟨channel, wait, attends⟩ := attended.held _ entry live
    rw [attends.sender]
    refine Attended.move (attended.send attends) ?_ ?_
    · intro name e found sends
      rw [here]
      rfl
    · intro early; exact early.elim

theorem Attended.step {hall hall' : Hall InMemoryRegistry}
    (attended : Attended hall.shared.registry hall.shared.inbox hall.position)
    (fits : hall.Fits peers) {event} (writes : event.writeFails = false)
    (taken : hall.step (backend config entropy) event = some hall') :
    Attended hall'.shared.registry hall'.shared.inbox hall'.position := by
  rcases Hall.step_cases taken with
    ⟨i, choice, next, shared, rfl, moved, rfl⟩ | ⟨now, rfl, rfl⟩
  · have own := fits i
    generalize here : hall.position i = before at moved own
    cases moved with
    | read clientInfo outcome =>
        apply attended.move
        · intro name entry live sender
          exact absurd sender (attended.unheld (by rw [here]; rfl) live)
        · intro _; exact attended.quiet i (by rw [here]; trivial)
    | register request => exact attended.register here
    | greet wait =>
        apply attended.move
        · intro _ _ _ _; rw [here]; rfl
        · intro early; exact early.elim
    | arrived wait peerInfo there =>
        apply attended.move
        · intro name entry live sender
          obtain ⟨_, attends⟩ := attended.holder live sender
          rw [own.2.1, attends.silent] at there
          cases there
        · intro early; exact early.elim
    | closed wait silent dropped =>
        apply attended.move
        · intro name entry live sender
          rw [own.2.1, ← Bool.not_eq_true, holds_iff] at dropped
          exact absurd ⟨name, entry, live, sender⟩ dropped
        · intro early; exact early.elim
    | elapsed wait silent =>
        apply attended.move
        · intro _ _ _ _; rw [here]; rfl
        · intro early; exact early.elim
    | unregister wait =>
        refine Attended.move (attended.shrink fun name entry live => (of_lookup_unregister live).2)
          ?_ ?_
        · intro name entry live sender
          obtain ⟨other, before⟩ := of_lookup_unregister live
          obtain ⟨wait', attends⟩ := attended.holder before sender
          have waits := attends.waits
          rw [here] at waits
          cases waits
          exact absurd attends.named.symm other
        · intro early; exact early.elim
    | close frame counter =>
        apply attended.move
        · intro name entry live sender
          exact absurd sender (attended.unheld (by rw [here]; rfl) live)
        · intro early; cases counter <;> exact early.elim
    | count counter =>
        have shared : (counter.bump hall.shared).registry = hall.shared.registry ∧
            (counter.bump hall.shared).inbox = hall.shared.inbox := by
          cases counter <;> exact ⟨rfl, rfl⟩
        simp only [shared]
        apply attended.move
        · intro name entry live sender
          exact absurd sender (attended.unheld (by rw [here]; rfl) live)
        · intro early; exact early.elim
    | greetFails | closeFails => simp [Event.writeFails] at writes
  · exact attended.shrink fun name entry live => (cleanupExpired_pairings.mp live).1

theorem attended_run {events : List (Event Instant)} {hall : Hall InMemoryRegistry}
    (writes : ∀ event ∈ events, event.writeFails = false)
    (runs : Machine.run (Hall.step (backend config entropy)) (Hall.start new peers) events =
      some hall) :
    Attended hall.shared.registry hall.shared.inbox hall.position ∧ hall.Fits peers := by
  have kept : ∀ (hall : Hall InMemoryRegistry) event hall',
      Attended hall.shared.registry hall.shared.inbox hall.position ∧ hall.Fits peers →
        event.writeFails = false → hall.step (backend config entropy) event = some hall' →
          Attended hall'.shared.registry hall'.shared.inbox hall'.position ∧ hall'.Fits peers :=
    fun hall event hall' inv fine taken =>
      ⟨inv.1.step inv.2 fine taken, inv.2.step (ownChannels config entropy) taken⟩
  exact Machine.run_invariant kept ⟨attended_new _, Hall.fits_start new peers⟩
    (Machine.along_of_forall writes _) runs

/-- A client that is paired has taken the entry of a handler that is still registered:
    one that has not stopped waiting is told, one whose time is up gives up. -/
theorem Attended.reaches {hall hall' : Hall InMemoryRegistry}
    (attended : Attended hall.shared.registry hall.shared.inbox hall.position)
    (fits : hall.Fits peers) {x request token peerInfo sent}
    (here : hall.position x = .registering request)
    (paired : ((backend config entropy).register x request hall.shared.registry).1 =
      .ok ⟨.paired token peerInfo, sent⟩)
    (taken : hall.step (backend config entropy) (.handler x .register) = some hall') :
    ∃ entry w wait, hall.shared.registry.pairings.lookup request.pairingName = some entry ∧
      entry.notifyTx = some w ∧ wait.clientInfo = peerInfo ∧
      PeerConnectionData.fromSocketAddr (peers w) = some wait.clientInfo ∧
      ((∀ wait', hall.position w ≠ .leaving wait') → hall'.Told w wait request.clientInfo) ∧
      (∀ wait', hall.position w = .leaving wait' → hall'.TimedOut w wait) := by
  rcases register_cases config entropy hall.shared.registry x request with
    ⟨-, out⟩ | ⟨entry, -, -, out⟩ | ⟨entry, live, -, out⟩
  · simp [out] at paired
  · simp [out] at paired
  · obtain ⟨channel, wait, sender, waits, -, known, silent⟩ := attended.held _ entry live
    simp only [out, Except.ok.injEq, Registered.mk.injEq, RegistrationResult.paired.injEq] at paired
    obtain ⟨⟨-, rfl⟩, -⟩ := paired
    refine ⟨entry, channel, wait, live, sender, known, ?_⟩
    have apart : channel ≠ x := by
      intro same
      subst same
      simp [here, Position.wait?] at waits
    have fit := fits channel
    simp only [Hall.step, here, Position.step, Option.map_some, Option.some.injEq] at taken
    subst taken
    have message : (hall.shared.registered ((backend config entropy).register x request
        hall.shared.registry)).inbox channel = some request.clientInfo := by
      simp [out, Shared.registered, sender, Shared.deliver, silent]
    simp only [Hall.Told, Hall.TimedOut, Function.update_of_ne apart]
    cases stands : hall.position channel with
    | greeting w | waiting w =>
        rw [stands] at waits fit
        cases waits
        refine ⟨fit.1, fun _ => ⟨rfl, ?_, fit.2.2⟩, by simp⟩
        rw [fit.2.1]
        exact message
    | leaving w =>
        rw [stands] at waits fit
        cases waits
        exact ⟨fit.1, fun away => absurd rfl (away wait), fun _ _ => ⟨rfl, fit.2.2⟩⟩
    | reading | registering | closing | counting | returned =>
        rw [stands] at waits
        cases waits

/-- Handler `x` is paired with the client of another handler, the one whose channel the
    registry held under the name. If that handler's time was not up by then, it writes
    WAITING and then PAIRED with the address of `x`, and nothing can keep it from doing
    so. If it was up, the handler writes TIMEOUT. -/
theorem paired_peer_learns (config : RegistryConfig) (entropy : Entropy) (peers : Nat → SocketAddr)
    (pre post : List (Event Instant)) (x : Nat) {before final : World InMemoryRegistry}
    {request : Request} {next token peerInfo sent}
    (writes : ∀ event ∈ pre ++ .handler x .register :: post, event.writeFails = false)
    (reached : Machine.run (World.step (backend config entropy)) (World.start new peers) pre =
      some before)
    (pending : before.task x = .call (.register request) next)
    (paired : ((backend config entropy).register x request before.shared.registry).1 =
      .ok ⟨.paired token peerInfo, sent⟩)
    (rest : Machine.run (World.step (backend config entropy)) before
      (.handler x .register :: post) = some final) :
    ∃ entry w session, before.shared.registry.pairings.lookup request.pairingName = some entry ∧
      entry.notifyTx = some w ∧ PeerConnectionData.fromSocketAddr (peers w) = some peerInfo ∧
      ((∀ name t k, before.task w ≠ .call (.unregister name t) k) →
        final.shared.frames w <+: [ServerResponse.waiting peerInfo session,
            ServerResponse.paired peerInfo request.clientInfo session] ∧
          (∀ result, final.task w = .done result →
            final.shared.frames w = [ServerResponse.waiting peerInfo session,
              ServerResponse.paired peerInfo request.clientInfo session]) ∧
          ((∀ result, final.task w ≠ .done result) → ∃ choice,
            (Event.handler w choice : Event Instant).writeFails = false ∧
              (World.step (backend config entropy) final (.handler w choice)).isSome = true)) ∧
      ((∃ name t k, before.task w = .call (.unregister name t) k) →
        ∀ result, final.task w = .done result →
          final.shared.frames w = [ServerResponse.waiting peerInfo session,
            ServerResponse.timeout peerInfo session]) := by
  obtain ⟨hall, runs, rfl⟩ := Hall.of_run reached
  obtain ⟨attended, fits⟩ := attended_run
    (fun event member => writes event (List.mem_append_left _ member)) runs
  rw [Hall.run_eq] at rest
  obtain ⟨last, onward, rfl⟩ := Option.map_eq_some_iff.mp rest
  obtain ⟨hall', taken, onward⟩ := Option.bind_eq_some_iff.mp onward
  obtain ⟨entry, w, wait, live, sender, rfl, known, told, late⟩ :=
    attended.reaches fits (Position.eq_registering pending) paired taken
  have fine : ∀ event ∈ post, event.writeFails = false :=
    fun event member => writes event (List.mem_append_right pre (.tail _ member))
  refine ⟨entry, w, wait.token, live, sender, known, ?_, ?_⟩
  · intro inTime
    have told := told fun wait' leaving => inTime wait'.pairingName wait'.token _
      (by rw [Hall.toWorld_task, leaving]; rfl)
    have told := Machine.run_invariant (fun _ _ _ told may taken => Hall.Told.step told may taken)
      told (Machine.along_of_forall fine hall') onward
    obtain ⟨frames, whole, enabled⟩ := told.frames (backend config entropy)
    refine ⟨frames, fun result done => whole result (Position.eq_returned done), fun running => ?_⟩
    obtain ⟨choice, silent, enabled⟩ := enabled fun result returned =>
      running result (by rw [Hall.toWorld_task, returned]; rfl)
    exact ⟨choice, silent, by rw [Hall.step_eq, Option.isSome_map]; exact enabled⟩
  · intro tooLate result done
    obtain ⟨name, t, k, pending⟩ := tooLate
    obtain ⟨wait', leaving, -, -⟩ := Position.eq_leaving pending
    have late := Machine.run_invariant
      (fun _ _ _ late may taken => Hall.TimedOut.step late may taken) (late wait' leaving)
      (Machine.along_of_forall fine hall') onward
    have returned := Position.eq_returned done
    simpa only [Hall.toWorld_shared, Hall.TimedOut, returned, Position.TimedOut] using late

/-- The time of handler 0 is up, handler 1 is paired with its client, and only then does
    handler 0 unregister: its client is told to give up. -/
theorem peer_of_paired_client_times_out :
    let peers : Nat → SocketAddr := fun i => .v4 ⟨10, 0, 0, .ofNat i⟩ 4000
    let info : Nat → PeerConnectionData := fun i => ⟨⟨10, 0, 0, .ofNat i⟩, 4000⟩
    let run : List (Event Instant) :=
      [ .handler 0 (.read (.request ⟨"a", none⟩)), .handler 0 .register, .handler 0 (.write (.ok ())),
        .handler 0 .elapsed,
        .handler 1 (.read (.request ⟨"a", none⟩)), .handler 1 .register, .handler 1 (.write (.ok ())),
        .handler 0 .unregister, .handler 0 (.write (.ok ())) ]
    (∀ event ∈ run, event.writeFails = false) ∧
      (Machine.run (World.step (backend ⟨60, "s"⟩ ⟨fun i => ⟨i⟩, fun _ => 0, fun _ => 0⟩))
          (World.start new peers) run).map (fun w => (w.shared.frames 1, w.shared.frames 0)) =
        some ([ServerResponse.paired (info 1) (info 0) ⟨1⟩],
          [ServerResponse.waiting (info 0) ⟨0⟩, ServerResponse.timeout (info 0) ⟨0⟩]) := by
  decide

/-- Handler 1 comes while handler 0 waits: both clients are told. -/
theorem paired_peer_learns_while_waiting :
    let peers : Nat → SocketAddr := fun i => .v4 ⟨10, 0, 0, .ofNat i⟩ 4000
    let info : Nat → PeerConnectionData := fun i => ⟨⟨10, 0, 0, .ofNat i⟩, 4000⟩
    let server := backend ⟨60, "s"⟩ ⟨fun i => ⟨i⟩, fun _ => 0, fun _ => 0⟩
    let pre : List (Event Instant) :=
      [ .handler 0 (.read (.request ⟨"a", none⟩)), .handler 0 .register, .handler 0 (.write (.ok ())),
        .handler 1 (.read (.request ⟨"a", none⟩)) ]
    let post : List (Event Instant) :=
      [ .handler 0 .arrived, .handler 1 (.write (.ok ())), .handler 0 (.write (.ok ())),
        .handler 0 .count ]
    ∃ before final session, Machine.run (World.step server) (World.start new peers) pre = some before ∧
      Machine.run (World.step server) before (.handler 1 .register :: post) = some final ∧
      final.shared.frames 0 = [ServerResponse.waiting (info 0) session,
        ServerResponse.paired (info 0) (info 1) session] := by
  intro peers info server pre post
  obtain ⟨entry, w, session, live, sender, known, inTime, -⟩ := paired_peer_learns ⟨60, "s"⟩
    ⟨fun i => ⟨i⟩, fun _ => 0, fun _ => 0⟩ peers pre post 1
    (by decide) rfl rfl rfl rfl
  obtain rfl := Option.some.inj live
  obtain rfl := Option.some.inj sender
  exact ⟨_, _, session, rfl, rfl, (inTime (fun _ _ _ wrong => by cases wrong)).2.1 _ rfl⟩

end TCPunch.InMemoryRegistry
