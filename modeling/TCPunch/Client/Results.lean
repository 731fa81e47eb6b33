import TCPunch.Client.Listeners

/-! # What `pair` returns

Of every run of a process that calls `pair`, with every answer of the system: the sockets
that the calls return are connected and all different. But a thread that an earlier call has
left behind can hand its socket to a later call.
-/

namespace TCPunch.Client

variable {spent : Nat → Prop} {since : Nat} {s s' : Process} {g : Nat → Place}

/-! ## Handshakes -/

/-- A socket that was connecting gets on without a call. -/
theorem Sound.handshake (sound : Sound spent since s g) {fd : Int} {port : Option (List UInt8)}
    {peer : Utils.PeerConnectionData} {flags : BitVec 32} {link : Link}
    (there : s.sockets fd = some ⟨port, .connecting peer, flags⟩)
    (moves : link = .connected peer ∨ link = .idle) : Sound spent since (s.put fd ⟨port, link, flags⟩) g := by
  have kept : ∀ socket, s.sockets fd = some socket → Kept s fd socket ⟨port, link, flags⟩ := by
    intro socket here
    obtain rfl := Option.some.inj (there.symm.trans here)
    exact ⟨fun _ same => same, fun _ same => (by cases same), .inr id⟩
  have later := Later.put kept
  have main : MainFits spent since (s.put fd ⟨port, link, flags⟩) (g 0) := by
    have fits := sound.main
    by_cases mine : (g 0).own = some fd
    · -- Only the socket on which `pair` calls `connect` can be connecting.
      cases place : g 0 with
      | punching info peer' fd' =>
          rw [place] at fits mine
          obtain rfl := Option.some.inj mine
          obtain ⟨busy, own⟩ := fits
          obtain ⟨_, _, there', toward⟩ := own.there
          obtain ⟨rfl, rfl, rfl⟩ := Socket.mk.inj (Option.some.inj (there.symm.trans there'))
          refine ⟨⟨busy.running, busy.created, busy.heard⟩, own.put ?_⟩
          rcases moves with rfl | rfl
          · exact toward
          · trivial
      | opened info peer' fd' =>
          rw [place] at fits mine
          obtain rfl := Option.some.inj mine
          obtain ⟨-, negative | own⟩ := fits
          · have positive := sound.nonneg _ _ there
            omega
          · obtain ⟨_, _, there', same⟩ := own.there
            obtain ⟨-, rfl, -⟩ := Socket.mk.inj (Option.some.inj (there.symm.trans there'))
            cases same
      | usable | linked =>
          rw [place] at fits mine
          obtain rfl := Option.some.inj mine
          obtain ⟨_, _, there', same⟩ := fits.2.there
          obtain ⟨-, rfl, -⟩ := Socket.mk.inj (Option.some.inj (there.symm.trans there'))
          cases same
      | chosen | settled =>
          rw [place] at fits mine
          obtain rfl := Option.some.inj mine
          obtain ⟨info, peer', socket, -, there', ⟨-, same, -⟩ | ⟨⟨remote, same⟩, -⟩⟩ := fits.2.1
          all_goals
            obtain rfl := Option.some.inj (there.symm.trans there')
            cases same
      | outside | entering | resetting | asking | disconnected | informed | listening | answered | noticed
      | joined | unborn | born | located | owning | bound | accepting | holding | stored | announced | gone =>
          rw [place] at mine
          cases mine
    · exact fits.beside (Beside.put mine kept)
  constructor
  · exact sound.nonneg_put (sound.nonneg fd _ there)
  · exact main
  · intro j apart
    refine (sound.listeners j apart).other later rfl rfl (fun other holding => ?_) fun _ remains => remains
    have fits := sound.listeners j apart
    rw [holding] at fits
    exact fits.2.2.2
  · intro j other prepared
    obtain ⟨open', rest⟩ := sound.prepared j other prepared
    exact ⟨isSome_of_later later open', rest⟩
  · exact sound.held
  · intro j other found
    exact sound.accepted_later later le_rfl found
  · exact sound.once
  · exact sound.handed
  · exact sound.fresh
  · intro k other returned
    exact sound.results_later later returned
  · exact sound.distinct
  · exact sound.later
  · exact sound.begun
  · exact sound.ended
  · exact sound.reached

/-! ## Whole runs -/

theorem keepsSound (spent : Nat → Prop) (since : Nat) :
    Team.Keeps Process.rules (fun _ => discipline) (Sound spent since) := by
  constructor
  · intro s g i way call reply s' sound permitted answered
    have answers := Process.answers_of_answer answered
    by_cases listens : i = 0
    · subst listens
      exact sound.mainAnswered permitted answers
    · exact sound.listenerAnswered listens permitted answers
  · intro s g change s' sound changed
    cases change with
    | completes fd =>
        simp only [Process.rules, Process.background] at changed
        split at changed
        · cases changed
          exact sound.handshake ‹_› (.inl rfl)
        · cases changed
    | fails fd =>
        simp only [Process.rules, Process.background] at changed
        split at changed
        · cases changed
          exact sound.handshake ‹_› (.inr rfl)
        · cases changed

theorem start_sound : Sound (fun _ => False) 0 Process.start fun i => if i = 0 then .outside else .unborn where
  nonneg _ _ there := by cases there
  main := trivial
  listeners j apart := by
    rw [if_neg apart]
    exact ⟨rfl, rfl⟩
  prepared j _ prepared := by
    split at prepared <;> exact prepared.elim
  held j _ holding := by
    split at holding <;> cases holding
  accepted _ _ found := by cases found
  once _ _ _ found := by cases found
  handed := .inl rfl
  fresh _ _ found := by cases found
  results _ _ returned := by cases returned
  distinct _ _ _ returned := by cases returned
  later _ _ := ⟨rfl, rfl, rfl⟩
  begun := .inl rfl
  ended _ finished := finished.elim
  reached := le_rfl

theorem Sound.restart (sound : Sound spent since s g) {finished : Nat → Prop}
    (ended : ∀ j, finished j → s.exited j = true ∨ s.results j ≠ none ∧ s.created j = none) :
    Sound finished s.call s g := by
  have outcome : ∀ k fd, k ≤ s.call → Outcome spent since s k fd → Outcome finished s.call s k fd := by
    rintro k fd before ⟨info, peer, socket, heard, there, choice⟩
    refine ⟨info, peer, socket, heard, there, choice.imp id ?_⟩
    rintro ⟨link, own, j, found, earlier, -, port⟩
    exact ⟨link, own, j, found, earlier, fun after => absurd before (Nat.not_le_of_lt after), port⟩
  refine { sound with main := ?_, fresh := ?_, results := ?_, ended := ended, reached := le_rfl }
  · have fits := sound.main
    cases place : g 0 with
    | chosen fd =>
        rw [place] at fits
        exact ⟨fits.1, outcome _ fd le_rfl fits.2.1, fits.2.2⟩
    | settled fd =>
        rw [place] at fits
        exact ⟨fits.1, outcome _ fd le_rfl fits.2.1, fits.2.2⟩
    | outside | entering | resetting | asking | disconnected | informed | listening | answered | opened
    | usable | punching | linked | noticed | joined | unborn | born | located | owning | bound | accepting
    | holding | stored | announced | gone =>
        rw [place] at fits
        exact fits
  · intro reset j found
    exact ⟨(sound.fresh reset j found).1, fun after => absurd after (lt_irrefl _)⟩
  · intro k fd returned
    obtain ⟨found, blocks⟩ := sound.results k fd returned
    refine ⟨outcome k fd ?_ found, blocks⟩
    by_contra after
    cases (sound.later k (Nat.lt_of_not_le after)).2.2.symm.trans returned

variable {strerror : Errno → String} {moves : List (Team.Move Nat Way Process.Handshake)}
  {final : Team Nat Process Call.Reply (Label ⊕ Unit)}

theorem sound_of_run (runs : Machine.run (step strerror) (start strerror) moves = some final) :
    Team.Orderly (fun _ => discipline) (Team.blockEnds Place.Entry fun _ _ => True)
      (Sound (fun _ => False) 0) final :=
  Team.Orderly.loopRun (fun _ => blocks_obey) ⟨_, start_sound, start_obeys strerror⟩ (keepsSound _ _) runs

/-- Whatever the system answers and however the threads of all calls interleave, a call of
    `pair` returns a connected socket, in blocking mode unless `fcntl` failed, and no socket is
    returned by two calls. Either it is the call's own, bound to the port that the server named
    and connected to the peer that the server named; or it was accepted by the listening thread
    of this or of an earlier call, and then this call's own thread has accepted one, too. -/
theorem returned_sockets_are_connected
    (runs : Machine.run (step strerror) (start strerror) moves = some final) :
    (∀ k fd, final.shared.results k = some (.ok fd) →
      ∃ info peer socket, Heard final.shared k info peer ∧ final.shared.sockets fd = some socket ∧
        (socket.Blocking ∨ final.shared.flagsFailed k = true) ∧
        (socket.port = some (view info).port ∧ socket.link = .connected (view peer) ∨
          (∃ remote, socket.link = .connected remote) ∧ (final.shared.accepted k).isSome ∧
            ∃ j ≤ k, final.shared.accepted j = some fd ∧
              (j = k → socket.port = some (view info).port))) ∧
      ∀ j k fd, final.shared.results j = some (.ok fd) → final.shared.results k = some (.ok fd) → j = k := by
  obtain ⟨g, sound, -⟩ := sound_of_run runs
  refine ⟨fun k fd returned => ?_, sound.distinct⟩
  obtain ⟨⟨info, peer, socket, heard, there, choice⟩, blocks⟩ := sound.results k fd returned
  refine ⟨info, peer, socket, heard, there, blocks socket there, ?_⟩
  rcases choice with ⟨port, link, -⟩ | ⟨link, own, j, found, before, -, port⟩
  · exact .inl ⟨port, link⟩
  · exact .inr ⟨link, own, j, before, found, port⟩

/-! ## Runs -/

/-- Thread `j` is answered in these ways. -/
def answered (j : Nat) (ways : List Way) : List (Team.Move Nat Way Process.Handshake) := ways.map (.task j)

def done (n : Nat) : List Way := List.replicate n .succeeds

/-- A call up to its loop, with the descriptors that it opens. -/
def callUpToLoop (rendezvous peer : Int) : List (Team.Move Nat Way Process.Handshake) :=
  let publicInfo := [10, 0, 0, 1, 1, 1, 0, 0]
  let peerData := [10, 0, 0, 2, 2, 2, 0, 0]
  answered 0 ([.calls ⟨[99], [127, 0, 0, 1], 10000, 0⟩] ++ done 2 ++ [.opens rendezvous] ++ done 5 ++
    [.sends 1, .receives publicInfo publicInfo, .succeeds, .receives peerData peerData, .opens peer] ++
    done 4)

def listenOn (j : Nat) (fd : Int) : List (Team.Move Nat Way Process.Handshake) :=
  answered j (done 1 ++ [.opens fd] ++ done 5)

def acceptAs (j : Nat) (fd : Int) : List (Team.Move Nat Way Process.Handshake) :=
  answered j (.accepts fd ⟨[10, 0, 0, 9], [3, 3]⟩ :: done 3)

/-- The first call reaches its peer by `connect` and leaves its thread behind. In the second
    call both threads accept a connection, and the old one stores its own last. -/
def leftover : List (Team.Move Nat Way Process.Handshake) :=
  callUpToLoop 3 4 ++ listenOn 1 5 ++ answered 0 (done 6) ++
    callUpToLoop 6 7 ++ listenOn 2 8 ++ acceptAs 2 9 ++ acceptAs 1 10 ++ answered 0 (done 7)

/-- The second call returns the socket that was accepted by the thread of the first. -/
theorem leftover_thread_hands_over :
    ∃ final, Machine.run (step fun _ => "") (start fun _ => "") leftover = some final ∧
      final.shared.results 1 = some (.ok 4) ∧ final.shared.results 2 = some (.ok 10) ∧
      final.shared.accepted 1 = some 10 ∧ final.shared.accepted 2 = some 9 ∧
      ∀ fd, final.shared.results 2 = some (.ok fd) → fd ≠ 4 ∧
        ∃ socket, final.shared.sockets fd = some socket ∧ ∃ remote, socket.link = .connected remote := by
  have ends : (Machine.run (step fun _ => "") (start fun _ => "") leftover).map (fun final =>
      (final.shared.results 1, final.shared.results 2, final.shared.accepted 1, final.shared.accepted 2)) =
        some (some (.ok 4), some (.ok 10), some 10, some 9) := by decide +kernel
  obtain ⟨final, runs, seen⟩ := Option.map_eq_some_iff.mp ends
  obtain ⟨first, second, old, own⟩ : _ ∧ _ ∧ _ ∧ _ := by simpa only [Prod.mk.injEq] using seen
  obtain ⟨sockets, distinct⟩ := returned_sockets_are_connected runs
  refine ⟨final, runs, first, second, old, own, fun fd returned => ⟨?_, ?_⟩⟩
  · rintro rfl
    cases distinct 1 2 4 first returned
  · obtain ⟨_, _, socket, _, there, _, ⟨_, link⟩ | ⟨link, _⟩⟩ := sockets 2 fd returned
    · exact ⟨socket, there, _, link⟩
    · exact ⟨socket, there, link⟩

/-- Let every thread that was started so far have returned. Then the next call returns its own
    socket, connected to the peer that the server named, or the socket that its own thread
    accepted; in both cases the socket is bound to the port that the server named. -/
theorem next_call_returns_its_own {later : List (Team.Move Nat Way Process.Handshake)}
    {middle : Team Nat Process Call.Reply (Label ⊕ Unit)}
    (runs : Machine.run (step strerror) (start strerror) moves = some middle)
    (quiet : ∀ j, 0 < j → j ≤ middle.shared.call → middle.shared.exited j = true ∨
      middle.shared.results j ≠ none ∧ middle.shared.created j = none)
    (goesOn : Machine.run (step strerror) middle later = some final) {fd : Int}
    (returned : final.shared.results (middle.shared.call + 1) = some (.ok fd)) :
    ∃ info peer socket, Heard final.shared (middle.shared.call + 1) info peer ∧
      final.shared.sockets fd = some socket ∧ socket.port = some (view info).port ∧
      (socket.link = .connected (view peer) ∨
        final.shared.accepted (middle.shared.call + 1) = some fd ∧
          ∃ remote, socket.link = .connected remote) := by
  obtain ⟨g, sound, obey⟩ := sound_of_run runs
  have begins : Sound (fun j => 0 < j ∧ j ≤ middle.shared.call) middle.shared.call middle.shared g :=
    sound.restart fun j finished => quiet j finished.1 finished.2
  obtain ⟨g', ends, -⟩ := Team.Orderly.loopRun (fun _ => blocks_obey) ⟨g, begins, obey⟩
    (keepsSound _ _) goesOn
  obtain ⟨⟨info, peer, socket, heard, there, choice⟩, -⟩ := ends.results _ fd returned
  refine ⟨info, peer, socket, heard, there, ?_⟩
  rcases choice with ⟨port, link, -⟩ | ⟨link, -, j, found, before, unspent, port⟩
  · exact ⟨port, .inl link⟩
  · have positive := (ends.accepted j fd found).1
    have own : j = middle.shared.call + 1 := by
      by_contra other
      exact unspent (Nat.lt_succ_self _) ⟨by omega, by omega⟩
    subst own
    exact ⟨port rfl, .inr ⟨found, link⟩⟩

/-- The first call returns what its thread accepted, and the thread is gone. -/
def acceptedCall : List (Team.Move Nat Way Process.Handshake) :=
  callUpToLoop 3 4 ++ listenOn 1 5 ++ acceptAs 1 9 ++ answered 0 (done 7)

theorem second_call_returns_its_own :
    ∃ middle final, Machine.run (step fun _ => "") (start fun _ => "") acceptedCall = some middle ∧
      Machine.run (step fun _ => "") middle (callUpToLoop 6 7 ++ answered 0 (done 6)) = some final ∧
      final.shared.results 1 = some (.ok 9) ∧ final.shared.results 2 = some (.ok 7) ∧
      ∃ info peer socket, Heard final.shared 2 info peer ∧ final.shared.sockets 7 = some socket ∧
        socket.port = some (view info).port := by
  have begins : (Machine.run (step fun _ => "") (start fun _ => "") acceptedCall).map (fun middle =>
      (middle.shared.call, middle.shared.exited 1)) = some (1, true) := by decide +kernel
  have ends : (Machine.run (step fun _ => "") (start fun _ => "") (acceptedCall ++
      (callUpToLoop 6 7 ++ answered 0 (done 6)))).map (fun final =>
        (final.shared.results 1, final.shared.results 2)) = some (some (.ok 9), some (.ok 7)) := by
    decide +kernel
  obtain ⟨middle, runs, seen⟩ := Option.map_eq_some_iff.mp begins
  obtain ⟨call, finished⟩ := Prod.mk.inj seen
  rw [Machine.run_append, runs, Option.bind_some] at ends
  obtain ⟨final, goesOn, same⟩ := Option.map_eq_some_iff.mp ends
  obtain ⟨first, second⟩ := Prod.mk.inj same
  have quiet : ∀ j, 0 < j → j ≤ middle.shared.call → middle.shared.exited j = true ∨
      middle.shared.results j ≠ none ∧ middle.shared.created j = none := by
    intro j positive before
    obtain rfl : j = 1 := by omega
    exact .inl finished
  obtain ⟨info, peer, socket, heard, there, port, -⟩ :=
    next_call_returns_its_own runs quiet goesOn (by rw [call]; exact second)
  rw [call] at heard
  exact ⟨middle, final, runs, goesOn, first, second, info, peer, socket, heard, there, port⟩

end TCPunch.Client
