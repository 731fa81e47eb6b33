import TCPunch.Client.Calls

/-! # The steps of `peer_listen`

A listening thread accepts one connection, stores it for whichever call is going on, and
returns.
-/

namespace TCPunch.Client

variable {spent : Nat → Prop} {since : Nat} {s s' : Process} {g : Nat → Place}

section Listener

variable {i : Nat} {place : Place} {port : List UInt8} {fd : Int}

theorem Beside.refl (s : Process) (own : Option Int) : Beside s s own where
  toLater := Later.refl s
  call := rfl
  sameResults := rfl
  sameCreated := rfl
  sameReceived := rfl
  sameFailed := rfl
  established := id
  exited _ := id
  mine _ _ := rfl

theorem Beside.put {own : Option Int} {new : Socket} (apart : own ≠ some fd)
    (kept : ∀ socket, s.sockets fd = some socket → Kept s fd socket new) : Beside s (s.put fd new) own :=
  { Beside.refl s own with
    toLater := Later.put kept
    mine := fun mine same => Function.update_of_ne (by rintro rfl; exact apart same) .. }

theorem Sound.listenerStays (sound : Sound spent since s g) (listens : i ≠ 0)
    (fits : ListenerFits s i place) (prepares : ∀ fd, place.Prepares fd → (g i).Prepares fd)
    (holds : ∀ fd, place ≠ .holding fd) : Sound spent since s (Function.update g i place) :=
  sound.listenerMoves listens (Beside.refl s _) (fun _ _ => ⟨rfl, rfl⟩) fits sound.nonneg (.inl rfl)
    (fun fd prepared => .inl (prepares fd prepared)) (fun fd holding => absurd holding (holds fd))
    fun _ found => .inl found

theorem Sound.listenerPuts (sound : Sound spent since s g) {new : Socket} (listens : i ≠ 0)
    (apart : (g 0).own ≠ some fd) (positive : 0 ≤ fd)
    (kept : ∀ socket, s.sockets fd = some socket → Kept s fd socket new)
    (fits : ListenerFits (s.put fd new) i place)
    (prepares : ∀ other, place.Prepares other → (g i).Prepares other ∨ other = fd ∧ s.sockets fd = none)
    (holds : ∀ fd, place ≠ .holding fd) :
    Sound spent since (s.put fd new) (Function.update g i place) := by
  refine sound.listenerMoves listens (Beside.put apart kept) (fun _ _ => ⟨rfl, rfl⟩) fits
    (sound.nonneg_put positive) (.inl rfl) (fun other prepared => ?_)
    (fun fd holding => absurd holding (holds fd)) fun _ found => .inl found
  rcases prepares other prepared with before | ⟨rfl, free⟩
  · exact .inl before
  · exact .inr ⟨free, by rw [s.put_self]; rfl, positive⟩

theorem Sound.unowned (sound : Sound spent since s g) (free : s.Free fd) : (g 0).own ≠ some fd := by
  intro own
  rcases sound.own_open own with negative | there
  · have positive := free.1
    omega
  · rw [free.2] at there
    cases there

theorem Sound.opensListener (sound : Sound spent since s g) (listens : i ≠ 0)
    (born : g i = .born) (free : s.Free fd) :
    Sound spent since (s.put fd ⟨none, .idle, 0⟩) (Function.update g i (.owning fd)) := by
  have fits := sound.listeners i listens
  rw [born] at fits
  refine sound.listenerPuts listens (sound.unowned free) free.1
    (fun socket there => by cases free.2.symm.trans there) fits ?_ fun _ same => by cases same
  rintro other rfl
  exact .inr ⟨rfl, free.2⟩

theorem Sound.bindsListener (sound : Sound spent since s g) {link : Link} {flags : BitVec 32}
    (listens : i ≠ 0) (located : g i = .located port fd) (there : s.sockets fd = some ⟨none, link, flags⟩) :
    Sound spent since (s.put fd ⟨some port, link, flags⟩) (Function.update g i (.bound port fd)) := by
  have fits := sound.listeners i listens
  rw [located] at fits
  have mine : (g i).Prepares fd := by
    rw [located]
    rfl
  refine sound.listenerPuts listens (sound.prepared i fd mine).2.1 (sound.nonneg fd _ there) ?_
    ⟨fits.1, fits.2.1, fits.2.2, _, s.put_self fd _, rfl⟩ ?_ fun _ same => by cases same
  · intro socket here
    obtain rfl := Option.some.inj (there.symm.trans here)
    exact ⟨fun _ same => (by cases same), fun _ same => same, .inr id⟩
  · rintro other rfl
    exact .inl mine

theorem Sound.listens (sound : Sound spent since s g) {bound' : Option (List UInt8)} {flags : BitVec 32}
    (listens : i ≠ 0) (bound : g i = .bound port fd)
    (there : s.sockets fd = some ⟨bound', .idle, flags⟩) :
    Sound spent since (s.put fd ⟨bound', .listening, flags⟩) (Function.update g i (.accepting port fd)) := by
  have fits := sound.listeners i listens
  rw [bound] at fits
  obtain ⟨running, unaccepted, located, socket, there', same⟩ := fits
  obtain rfl := Option.some.inj (there.symm.trans there')
  have mine : (g i).Prepares fd := by
    rw [bound]
    rfl
  refine sound.listenerPuts listens (sound.prepared i fd mine).2.1 (sound.nonneg fd _ there) ?_
    ⟨running, unaccepted, located, _, s.put_self fd _, same⟩ (fun _ prepared => prepared.elim)
    fun _ same => by cases same
  intro socket here
  obtain rfl := Option.some.inj (there.symm.trans here)
  exact ⟨fun _ same => same, fun _ same => (by cases same), .inr id⟩

/-- A connection is accepted, from whomever it is. -/
theorem Sound.accepts (sound : Sound spent since s g) {bound : Option (List UInt8)} {flags : BitVec 32}
    {new : Int} {remote : Utils.PeerConnectionData} (listens : i ≠ 0) (accepting : g i = .accepting port fd)
    (there : s.sockets fd = some ⟨bound, .listening, flags⟩) (free : s.Free new) :
    Sound spent since
      { s.put new ⟨bound, .connected remote, 0⟩ with accepted := Function.update s.accepted i (some new) }
      (Function.update g i (.holding new)) := by
  have fits := sound.listeners i listens
  rw [accepting] at fits
  obtain ⟨running, unaccepted, ⟨info, created, same⟩, socket, there', bound'⟩ := fits
  obtain rfl := Option.some.inj (there.symm.trans there')
  have beside : Beside s (s.put new ⟨bound, .connected remote, 0⟩) (g 0).own :=
    Beside.put (sound.unowned free) fun socket there => by cases free.2.symm.trans there
  have before : i ≤ s.call := by
    by_contra after
    cases (sound.later i (Nat.lt_of_not_le after)).1.symm.trans created
  have isSome : (s.created i).isSome := by
    rw [created]
    rfl
  refine sound.listenerMoves listens
    { beside with
      accepted := fun j other found => (Function.update_of_ne ?_ ..).trans found
      anew := fun j other found => ?_ } (fun j other => ⟨Function.update_of_ne other .., rfl⟩)
    ⟨running, Function.update_self .., isSome, fun k returned => ?_⟩ (sound.nonneg_put free.1) (.inl rfl)
    (fun _ prepared => prepared.elim) (fun other holding => ?_) fun other found => ?_
  · rintro rfl
    cases unaccepted.symm.trans found
  · simp only [Function.update_apply] at found
    split at found
    · obtain rfl := Option.some.inj found
      exact .inr free.2
    · exact .inl found
  · obtain ⟨⟨-, -, socket, -, there, -⟩, -⟩ := sound.results k new returned
    cases free.2.symm.trans there
  · cases holding
    exact .inr ⟨free.2, free.1⟩
  · simp only [Function.update_self, Option.some.injEq] at found
    subst found
    refine .inr ⟨free.2, before, _, s.put_self _ _, ⟨remote, rfl⟩, fun going => ⟨info, created, ?_⟩⟩
    rw [← same going]
    exact bound'

theorem Sound.listenerNotes (sound : Sound spent since s g) (listens : i ≠ 0)
    (beside : Beside s s' (g 0).own) (sockets : s'.sockets = s.sockets)
    (accepted : s'.accepted = s.accepted) (exited : ∀ j, j ≠ i → s'.exited j = s.exited j)
    (accepting : s'.accepting = s.accepting ∨ g i = .holding s'.accepting)
    (fits : ListenerFits s' i place) (prepares : ∀ fd, ¬ place.Prepares fd)
    (holds : ∀ fd, place ≠ .holding fd) : Sound spent since s' (Function.update g i place) :=
  sound.listenerMoves listens beside (fun j other => ⟨by rw [accepted], exited j other⟩) fits
    (by rw [sockets]; exact sound.nonneg) (accepting.imp id fun gives => ⟨gives, holds⟩)
    (fun fd prepared => absurd prepared (prepares fd)) (fun fd holding => absurd holding (holds fd))
    fun fd found => .inl (by rw [← accepted]; exact found)

theorem Sound.stores (sound : Sound spent since s g) (listens : i ≠ 0) (holding : g i = .holding fd) :
    Sound spent since { s with accepting := fd } (Function.update g i (.stored fd)) := by
  have fits := sound.listeners i listens
  rw [holding] at fits
  obtain ⟨running, accepted, created, -⟩ := fits
  refine sound.listenerNotes listens
    { Beside.refl s (g 0).own with toLater := { Later.refl s with sockets := (Later.refl s).sockets } } rfl rfl
    (fun _ _ => rfl) (.inr holding) ⟨running, accepted, created, fun _ => ?_⟩ (fun _ prepared => prepared)
    fun _ same => by cases same
  have positive := (sound.accepted_open accepted).1
  change fd ≠ -1
  omega

theorem Sound.announces (sound : Sound spent since s g) (listens : i ≠ 0) (stored : g i = .stored fd) :
    Sound spent since { s with established := true } (Function.update g i (.announced fd)) := by
  have fits := sound.listeners i listens
  rw [stored] at fits
  exact sound.listenerNotes listens
    { Beside.refl s (g 0).own with
      toLater := { Later.refl s with sockets := (Later.refl s).sockets }
      established := fun _ => rfl } rfl rfl (fun _ _ => rfl) (.inl rfl) fits (fun _ prepared => prepared)
    fun _ same => by cases same

theorem Sound.exits (sound : Sound spent since s g) (listens : i ≠ 0) (announced : g i = .announced fd) :
    Sound spent since { s with exited := Function.update s.exited i true } (Function.update g i .gone) := by
  have fits := sound.listeners i listens
  rw [announced] at fits
  obtain ⟨running, accepted, created, remains⟩ := fits
  refine sound.listenerNotes listens
    { Beside.refl s (g 0).own with
      toLater := { Later.refl s with sockets := (Later.refl s).sockets }
      exited := fun j finished => ?_ } rfl rfl (fun j other => Function.update_of_ne other ..) (.inl rfl)
    ⟨created, fun _ => ⟨by rw [accepted]; rfl, remains⟩⟩ (fun _ prepared => prepared) fun _ same => by cases same
  simp only [Function.update_apply]
  split
  · rfl
  · exact finished

theorem Sound.dies (sound : Sound spent since s g) (listens : i ≠ 0) (dies : (g i).Dies) :
    Sound spent since { s with terminated := true } (Function.update g i .gone) := by
  have fits := sound.listeners i listens
  obtain ⟨running, created⟩ : s.exited i = false ∧ (s.created i).isSome := by
    have created : ∀ {port}, Located s i port → (s.created i).isSome := by
      rintro port ⟨info, created, -⟩
      rw [created]
      rfl
    cases place : g i with
    | born | owning =>
        rw [place] at fits
        exact ⟨fits.1, fits.2.2⟩
    | located =>
        rw [place] at fits
        exact ⟨fits.1, created fits.2.2⟩
    | bound =>
        rw [place] at fits
        exact ⟨fits.1, created fits.2.2.1⟩
    | outside | entering | resetting | asking | disconnected | informed | listening | answered | opened
    | usable | punching | linked | noticed | joined | chosen | settled | unborn | accepting | holding
    | stored | announced | gone =>
        rw [place] at dies
        exact dies.elim
  refine sound.listenerNotes listens
    { Beside.refl s (g 0).own with toLater := { Later.refl s with sockets := (Later.refl s).sockets } } rfl rfl
    (fun _ _ => rfl) (.inl rfl) ⟨created, fun finished => ?_⟩ (fun _ prepared => prepared) fun _ same => by cases same
  cases running.symm.trans finished

theorem Sound.listenerAnswered (sound : Sound spent since s g) (listens : i ≠ 0) {call : Call}
    {reply : call.Reply} (permitted : discipline.allowed (g i) call)
    (answers : Process.Answers i s call reply s') :
    Sound spent since s' (Function.update g i (discipline.after (g i) call reply)) := by
  have fits := sound.listeners i listens
  cases answers with
  | socket fd free =>
      rcases permitted with before | ⟨info, peer, before⟩ | before <;> rw [before] at fits ⊢
      · exact fits.elim
      · exact fits.elim
      · exact sound.opensListener listens before free
  | noSocket errno =>
      rcases permitted with before | ⟨info, peer, before⟩ | before <;> rw [before] at fits ⊢
      · exact fits.elim
      · exact fits.elim
      · exact sound.same before
  | setsockopt | noSetsockopt =>
      obtain before | ⟨info, peer, before | before⟩ | before := permitted <;> rw [before] at fits ⊢
      · exact fits.elim
      · exact fits.elim
      · exact fits.elim
      · exact sound.same before
  | bind fd port link flags there =>
      obtain ⟨info, peer, before, -⟩ | before := permitted <;> rw [before] at fits ⊢
      · exact fits.elim
      · exact sound.bindsListener listens before there
  | noBind fd port errno =>
      obtain ⟨info, peer, before, -⟩ | before := permitted <;> rw [before] at fits ⊢
      · exact fits.elim
      · exact sound.same before
  | listen fd bound flags there =>
      obtain ⟨port, before⟩ := permitted
      rw [before]
      exact sound.listens listens before there
  | noListen fd errno =>
      obtain ⟨port, before⟩ := permitted
      rw [before]
      exact sound.same before
  | accept fd bound flags new peer there free =>
      obtain ⟨port, before⟩ := permitted
      rw [before]
      exact sound.accepts listens before there free
  | noAccept fd errno =>
      obtain ⟨port, before⟩ := permitted
      rw [before]
      exact sound.same before
  | storeEstablished value =>
      obtain ⟨before, -⟩ | ⟨⟨fd, before⟩, rfl⟩ := permitted <;> rw [before] at fits ⊢
      · exact fits.elim
      · exact sound.announces listens before
  | storeAccepting fd =>
      obtain ⟨before, -⟩ | before := permitted <;> rw [before] at fits ⊢
      · exact fits.elim
      · exact sound.stores listens before
  | started there =>
      have before : g i = .unborn := permitted
      rw [before] at fits
      exact sound.listenerStays listens ⟨fits.1, fits.2, there⟩ (fun _ prepared => prepared.elim)
        fun _ same => by cases same
  | loadInfo info alive =>
      obtain ⟨fd, before⟩ := permitted
      rw [before] at fits ⊢
      obtain ⟨created, there⟩ := Option.isSome_iff_exists.mp fits.2.2
      refine sound.listenerStays listens ⟨fits.1, fits.2.1, created, there, fun going => ?_⟩
        (fun other prepared => before ▸ prepared) fun _ same => by cases same
      obtain rfl := Option.some.inj (there.symm.trans (alive going))
      rfl
  | exit =>
      obtain ⟨fd, before⟩ := permitted
      exact sound.exits listens before
  | terminate => exact sound.dies listens permitted
  | connect | noConnect =>
      obtain before | ⟨info, peer, before, -⟩ := permitted <;> rw [before] at fits <;> exact fits.elim
  | recv | noRecv =>
      obtain before | ⟨info, before⟩ := permitted <;> rw [before] at fits <;> exact fits.elim
  | send | noSend | getFlags | pthreadCreate | noThread | loadAccepting | called =>
      have before := permitted
      rw [before] at fits
      exact fits.elim
  | setFlags | noSetFlags =>
      obtain ⟨info, peer, before⟩ | ⟨before, -⟩ := permitted <;> rw [before] at fits <;> exact fits.elim
  | pthreadJoin | sleepFor =>
      obtain ⟨info, peer, fd, before⟩ := permitted
      rw [before] at fits
      exact fits.elim
  | loadEstablished =>
      obtain ⟨info, peer, fd, before | before | before⟩ := permitted <;> rw [before] at fits <;> exact fits.elim
  | finish outcome =>
      cases outcome with
      | ok fd =>
          have before : g i = .settled fd := permitted
          rw [before] at fits
          exact fits.elim
      | error thrown =>
          have throws : (g i).Throws := permitted
          cases place : g i <;> rw [place] at fits throws <;> first | exact throws.elim | exact fits.elim

end Listener

end TCPunch.Client
