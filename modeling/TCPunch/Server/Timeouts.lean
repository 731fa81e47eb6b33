import TCPunch.Server.InMemory

/-! # What a handler removes when its time is up

`unregister` goes by the name: it removes the entry it finds there, whoever waits on
it. So a handler whose time is up removes its own entry only if nobody else has
taken the slot before its call. This is the case as long as no client enters the slot
of a handler that is about to unregister.
-/

namespace TCPunch

/-- Nobody enters a slot that a handler is about to clear. Taking the entry out of such a
    slot is harmless. -/
def Timely {σ η : Type} (backend : Backend σ η) (w : World σ) : Event η → Prop
  | .handler x .register =>
      ∀ request next, w.task x = .call (.register request) next →
        (∃ h token k, w.task h = .call (.unregister request.pairingName token) k) →
          ∃ token peerInfo sent, (backend.register x request w.shared.registry).1 =
            .ok ⟨.paired token peerInfo, sent⟩
  | _ => True

namespace InMemoryRegistry

variable {config : RegistryConfig} {entropy : Entropy} {peers : Nat → SocketAddr}
  {s s' : InMemoryRegistry} {position : Nat → Position}

/-- At most an entry with the sender of handler `h` is removed, and if the slot does not
    hold one the two maps stay as they are. -/
def OwnOnly (h : Nat) (name : String) (s s' : InMemoryRegistry) : Prop :=
  (∀ n, s'.pairings.lookup n = s.pairings.lookup n ∨
      ∃ entry, s.pairings.lookup n = some entry ∧ entry.notifyTx = some h ∧
        s'.pairings.lookup n = none) ∧
    ((∀ entry, s.pairings.lookup name = some entry → entry.notifyTx ≠ some h) → s' = s)

/-- Nobody but handler `h` waits in the slot. -/
def Clear (s : InMemoryRegistry) (name : String) (h : Nat) : Prop :=
  ∀ entry, s.pairings.lookup name = some entry → entry.notifyTx = some h

/-- `unregister` respects other clients exactly when there are none in the slot. -/
theorem ownOnly_iff_clear (config : RegistryConfig) (entropy : Entropy) {h name token} :
    OwnOnly h name s ((backend config entropy).unregister h name token s) ↔ Clear s name h := by
  constructor
  · intro own entry live
    rcases own.1 name with same | ⟨entry', live', sender, -⟩
    · rw [lookup_unregister, if_pos rfl, live] at same
      cases same
    · obtain rfl := Option.some.inj (live.symm.trans live')
      exact sender
  · intro clear
    refine ⟨fun n => ?_, fun foreign => ?_⟩
    · rw [lookup_unregister]
      by_cases same : n = name
      · subst same
        cases live : s.pairings.lookup n with
        | none => exact .inl (if_pos rfl)
        | some entry => exact .inr ⟨entry, rfl, clear entry live, if_pos rfl⟩
      · exact .inl (if_neg same)
    · cases live : s.pairings.lookup name with
      | none => simp only [backend, unregister_vacant live]
      | some entry => exact absurd (clear entry live) (foreign entry live)

/-! ## Slots of handlers that are about to leave -/

/-- A handler waits for its own channel, a sender in the registry stands under the name of its
    handler, and the slot of a handler whose time is up is clear. -/
structure Guarded (s : InMemoryRegistry) (position : Nat → Position) : Prop where
  own : ∀ h wait, (position h).wait? = some wait → wait.peerNotify = h
  named : ∀ name entry channel, s.pairings.lookup name = some entry →
    entry.notifyTx = some channel →
      ¬ (position channel).Early ∧
        ∀ wait, (position channel).wait? = some wait → wait.pairingName = name
  left : ∀ h wait, position h = .leaving wait → Clear s wait.pairingName h

theorem guarded_start (registry : InMemoryRegistry)
    (vacant : ∀ name, registry.pairings.lookup name = none) (peers : Nat → SocketAddr) :
    Guarded registry (Hall.start registry peers).position where
  own := by
    intro h wait waits
    simp only [Hall.start, Position.start] at waits
    split at waits <;> cases waits
  named := by intro name entry channel live; simp [vacant] at live
  left := by intro h wait _ entry live; simp [vacant] at live

theorem Guarded.shrink (guarded : Guarded s position)
    (fewer : ∀ name entry, s'.pairings.lookup name = some entry →
      s.pairings.lookup name = some entry) : Guarded s' position where
  own := guarded.own
  named := fun name entry channel live => guarded.named name entry channel (fewer name entry live)
  left := fun h wait leaving entry live =>
    guarded.left h wait leaving entry (fewer _ entry live)

/-- A handler may go on with or without its wait, if it leaves a clear slot. -/
theorem Guarded.move (guarded : Guarded s position) {i next}
    (late : next.Early → (position i).Early)
    (within : ∀ wait, next.wait? = some wait → (position i).wait? = some wait)
    (clear : ∀ wait, next = .leaving wait → Clear s wait.pairingName i) :
    Guarded s (Function.update position i next) where
  own := by
    intro h wait waits
    by_cases same : h = i
    · subst same
      rw [Function.update_self] at waits
      exact guarded.own h wait (within wait waits)
    · rw [Function.update_of_ne same] at waits
      exact guarded.own h wait waits
  named := by
    intro name entry channel live sender
    obtain ⟨past, named⟩ := guarded.named name entry channel live sender
    by_cases same : channel = i
    · subst same
      rw [Function.update_self]
      exact ⟨fun early => past (late early), fun wait waits => named wait (within wait waits)⟩
    · rw [Function.update_of_ne same]
      exact ⟨past, named⟩
  left := by
    intro h wait leaving
    by_cases same : h = i
    · subst same
      rw [Function.update_self] at leaving
      exact clear wait leaving
    · rw [Function.update_of_ne same] at leaving
      exact guarded.left h wait leaving

theorem Guarded.enter (guarded : Guarded s position) {i name tokens} {wait : Handler.Wait}
    {entry : PairingEntry} (early : (position i).Early) (sender : entry.notifyTx = some i)
    (channel : wait.peerNotify = i) (own : wait.pairingName = name)
    (free : ∀ h wait', position h = .leaving wait' → wait'.pairingName ≠ name) :
    Guarded { pairings := s.pairings.insert name entry, tokens }
      (Function.update position i (.greeting wait)) where
  own := by
    intro h wait' waits
    by_cases same : h = i
    · subst same
      rw [Function.update_self] at waits
      obtain rfl := Option.some.inj waits
      exact channel
    · rw [Function.update_of_ne same] at waits
      exact guarded.own h wait' waits
  named := by
    intro n e channel found sends
    obtain ⟨same, rfl⟩ | ⟨-, found⟩ := FiniteMap.of_lookup_insert found
    · obtain rfl := Option.some.inj (sender.symm.trans sends)
      rw [Function.update_self]
      refine ⟨fun early => early.elim, fun wait' waits => ?_⟩
      obtain rfl := Option.some.inj waits
      exact own.trans same.symm
    · obtain ⟨past, named⟩ := guarded.named n e channel found sends
      have apart : channel ≠ i := fun same => past (same ▸ early)
      rw [Function.update_of_ne apart]
      exact ⟨past, named⟩
  left := by
    intro h wait' leaving e found
    by_cases same : h = i
    · subst same
      rw [Function.update_self] at leaving
      cases leaving
    · rw [Function.update_of_ne same] at leaving
      rw [FiniteMap.lookup_insert_if, if_neg (free h wait' leaving)] at found
      exact guarded.left h wait' leaving e found

theorem Guarded.register {hall : Hall InMemoryRegistry}
    (guarded : Guarded hall.shared.registry hall.position) {i request}
    (here : hall.position i = .registering request)
    (timely : Timely (backend config entropy) hall.toWorld (.handler i .register)) :
    Guarded ((backend config entropy).register i request hall.shared.registry).2
      (Function.update hall.position i (Position.afterRegister request
        (((backend config entropy).register i request hall.shared.registry).1.map
          Registered.result))) := by
  have early : (hall.position i).Early := by rw [here]; trivial
  have pending : hall.toWorld.task i = (Position.registering request).program := by
    rw [Hall.toWorld_task, here]
  have timely := timely request _ (pending.trans (Position.registerAndServe_eq request))
  -- Whoever is not paired finds nobody about to clear the slot.
  have free : (∀ token peerInfo sent,
      ((backend config entropy).register i request hall.shared.registry).1 ≠
        .ok ⟨.paired token peerInfo, sent⟩) →
      ∀ h wait, hall.position h = .leaving wait → wait.pairingName ≠ request.pairingName := by
    intro unpaired h wait leaving same
    obtain ⟨token, peerInfo, sent, paired⟩ := timely
      ⟨h, wait.token, _, by rw [Hall.toWorld_task, leaving, ← same]; rfl⟩
    exact unpaired token peerInfo sent paired
  rcases register_cases config entropy hall.shared.registry i request with
    ⟨-, out⟩ | ⟨entry, -, -, out⟩ | ⟨entry, live, -, out⟩
  · have free := free (by simp [out])
    rw [out]
    exact guarded.enter early rfl rfl rfl free
  · have free := free (by simp [out])
    rw [out]
    exact guarded.enter early rfl rfl rfl free
  · rw [out]
    refine Guarded.move (guarded.shrink fun name e found => (FiniteMap.of_lookup_erase found).2)
      ?_ ?_ ?_
    · intro _; exact early
    · intro wait waits; cases waits
    · intro wait leaving; cases leaving

theorem Guarded.step {hall hall' : Hall InMemoryRegistry}
    (guarded : Guarded hall.shared.registry hall.position) {event}
    (timely : Timely (backend config entropy) hall.toWorld event)
    (taken : hall.step (backend config entropy) event = some hall') :
    Guarded hall'.shared.registry hall'.position := by
  rcases Hall.step_cases taken with
    ⟨i, choice, next, shared, rfl, moved, rfl⟩ | ⟨now, rfl, rfl⟩
  · generalize here : hall.position i = before at moved
    -- Apart from the three cases below, a handler ends its wait or goes on with it.
    have goesOn : ∀ {next}, (next.Early → before.Early) →
        (∀ wait, next.wait? = some wait → before.wait? = some wait) →
        (∀ wait, next ≠ .leaving wait) →
        Guarded hall.shared.registry (Function.update hall.position i next) := by
      intro next late within stays
      refine guarded.move ?_ ?_ fun wait leaving => absurd leaving (stays wait)
      · rw [here]; exact late
      · rw [here]; exact within
    cases moved with
    | register request => exact guarded.register here timely
    | elapsed wait silent held =>
        refine guarded.move (fun early => early.elim) ?_ ?_
        · rw [here]; exact fun wait waits => waits
        · intro wait' same
          obtain rfl := Position.leaving.inj same
          -- The sender is held, and under the handler's own name, so the slot holds it.
          rw [guarded.own i wait (by rw [here]; rfl)] at held
          obtain ⟨name, entry, live, sender⟩ := holds_iff.mp held
          obtain rfl := (guarded.named name entry i live sender).2 wait (by rw [here]; rfl)
          intro entry' live'
          obtain rfl := Option.some.inj (live.symm.trans live')
          exact sender
    | unregister wait =>
        exact Guarded.move (guarded.shrink fun name entry live => (of_lookup_unregister live).2)
          (fun early => early.elim) (fun _ waits => by cases waits) (fun _ leaving => by cases leaving)
    | read clientInfo outcome =>
        cases outcome <;> exact goesOn (fun _ => trivial) (fun _ waits => waits) (by simp [Position.afterRead])
    | greet wait => exact goesOn (fun early => early.elim) (fun _ waits => waits) (by simp)
    | close frame counter =>
        cases counter <;>
          exact goesOn (fun early => early.elim) (fun _ waits => by cases waits) (by simp [Position.afterClose])
    | count counter =>
        cases counter <;>
          exact goesOn (fun early => early.elim) (fun _ waits => by cases waits) (by simp)
    | greetFails | arrived | closed | closeFails =>
        exact goesOn (fun early => early.elim) (fun _ waits => by cases waits) (by simp)
  · exact guarded.shrink fun name entry live => (cleanupExpired_pairings.mp live).1

/-- In a timely run, a handler whose time is up removes its own entry or nothing. -/
theorem timed_out_removes_own (config : RegistryConfig) (entropy : Entropy)
    (peers : Nat → SocketAddr) (events : List (Event Instant)) (h : Nat)
    {w w' : World InMemoryRegistry} {name token next}
    (timely : Machine.Along (World.step (backend config entropy)) (Timely (backend config entropy))
      (World.start new peers) events)
    (reached : Machine.run (World.step (backend config entropy)) (World.start new peers) events =
      some w)
    (pending : w.task h = .call (.unregister name token) next)
    (taken : World.step (backend config entropy) w (.handler h .unregister) = some w') :
    OwnOnly h name w.shared.registry w'.shared.registry := by
  obtain ⟨hall, runs, rfl⟩ := Hall.of_run reached
  rw [← Hall.toWorld_start] at timely
  have guarded : Guarded hall.shared.registry hall.position :=
    Machine.run_invariant (fun _ _ _ guarded may taken => Guarded.step guarded may taken)
      (guarded_start new (fun _ => rfl) peers) (Machine.along_of_image Hall.step_eq timely) runs
  obtain ⟨wait, leaving, rfl, rfl⟩ := Position.eq_leaving pending
  simp only [Hall.step_eq, Hall.step, leaving, Position.step, Option.map_some,
    Option.some.injEq] at taken
  subst taken
  exact (ownOnly_iff_clear config entropy).mpr (guarded.left h wait leaving)

/-- The time of handler 0 is up, handler 1 is paired with its client, handler 2 enters the
    empty slot: handler 0 removes the entry of handler 2 and leaves its token behind. -/
theorem timed_out_evicts_stranger :
    let server := backend ⟨60, "s"⟩ ⟨fun i => ⟨i⟩, fun _ => 0, fun _ => 0⟩
    let peers : Nat → SocketAddr := fun i => .v4 ⟨10, 0, 0, .ofNat i⟩ 4000
    let run : List (Event Instant) :=
      [ .handler 0 (.read (.request ⟨"a", none⟩)), .handler 0 .register, .handler 0 (.write (.ok ())),
        .handler 0 .elapsed,
        .handler 1 (.read (.request ⟨"a", none⟩)), .handler 1 .register,
        .handler 2 (.read (.request ⟨"a", none⟩)), .handler 2 .register ]
    let slot : World InMemoryRegistry → Option (Option Chan) := fun w =>
      (w.shared.registry.pairings.lookup "a").map PairingEntry.notifyTx
    (Machine.run (World.step server) (World.start new peers) run).map slot = some (some (some 2)) ∧
      (Machine.run (World.step server) (World.start new peers)
          (run ++ [.handler 0 .unregister])).map
        (fun w => (slot w, w.shared.registry.tokens.lookup ⟨2⟩)) = some (none, some "a") := by
  decide

/-- The time of handler 0 is up and handler 1 is paired with its client: handler 0 finds
    the slot empty. -/
theorem timed_out_removes_own_after_pairing :
    let server := backend ⟨60, "s"⟩ ⟨fun i => ⟨i⟩, fun _ => 0, fun _ => 0⟩
    let peers : Nat → SocketAddr := fun i => .v4 ⟨10, 0, 0, .ofNat i⟩ 4000
    let run : List (Event Instant) :=
      [ .handler 0 (.read (.request ⟨"a", none⟩)), .handler 0 .register, .handler 0 (.write (.ok ())),
        .handler 0 .elapsed,
        .handler 1 (.read (.request ⟨"a", none⟩)), .handler 1 .register ]
    Machine.Along (World.step server) (Timely server) (World.start new peers) run ∧
      ∃ w w', Machine.run (World.step server) (World.start new peers) run = some w ∧
        World.step server w (.handler 0 .unregister) = some w' ∧
        OwnOnly 0 "a" w.shared.registry w'.shared.registry := by
  intro server peers run
  have timely : Machine.Along (World.step server) (Timely server) (World.start new peers) run := by
    refine ⟨trivial, fun _ taken => ?_⟩
    cases taken
    refine ⟨fun request next _ nobody => ?_, fun _ taken => ?_⟩
    · -- Nobody but handler 0 has read anything yet.
      obtain ⟨h, token, k, wrong⟩ := nobody
      by_cases same : h = 0
      · subst same; cases wrong
      · simp only [Function.update_of_ne same] at wrong
        cases wrong
    cases taken
    refine ⟨trivial, fun _ taken => ?_⟩
    cases taken
    refine ⟨trivial, fun _ taken => ?_⟩
    cases taken
    refine ⟨trivial, fun _ taken => ?_⟩
    cases taken
    refine ⟨fun request next asks _ => ?_, fun _ _ => trivial⟩
    cases asks
    exact ⟨_, _, _, rfl⟩
  exact ⟨timely, _, _, rfl, rfl, timed_out_removes_own _ _ peers run 0 timely rfl rfl rfl⟩

end InMemoryRegistry

end TCPunch
