import TCPunch.Client.Descriptors

/-! # The steps of `pair`

Each call of `pair` works on descriptors that it has opened itself, until it takes the one
in `accepting_socket`. It does that only after its own listening thread has returned, so
there is one.
-/

namespace TCPunch.Client

variable {spent : Nat → Prop} {since : Nat} {s s' : Process} {g : Nat → Place}

theorem Sound.positive (sound : Sound spent since s g) (inside : g 0 ≠ .outside) : 0 < s.call :=
  sound.begun.resolve_left inside

theorem Place.Reset.inside {place : Place} (reset : place.Reset) : place ≠ .outside := by
  rintro rfl
  exact reset

theorem Sound.same (sound : Sound spent since s g) {i : Nat} {place : Place} (before : g i = place) :
    Sound spent since s (Function.update g i place) := by
  rw [← before, Function.update_eq_self]
  exact sound

theorem Sound.mainStays (sound : Sound spent since s g) {place : Place} (reset : (g 0).Reset)
    (fits : MainFits spent since s place)
    (own : ∀ fd, place.own = some fd → (g 0).own = some fd ∨ fd < 0 ∨ s.accepting = fd) :
    Sound spent since s (Function.update g 0 place) :=
  sound.mainMoves (Later.refl s) rfl rfl le_rfl fits sound.nonneg
    (fun fd mine => (own fd mine).imp id .inr) (.inl rfl) (fun _ _ same => ⟨same, rfl⟩)
    (fun _ => .inr ⟨reset, rfl, rfl, rfl⟩) (fun _ _ returned => .inl returned) sound.later
    (.inr (sound.positive reset.inside))

theorem Sound.nonneg_put (sound : Sound spent since s g) {fd : Int} {new : Socket} (positive : 0 ≤ fd)
    (other : Int) (socket : Socket) (there : (s.put fd new).sockets other = some socket) : 0 ≤ other := by
  simp only [Process.put, Function.update_apply] at there
  split at there
  · omega
  · exact sound.nonneg other socket there

theorem Sound.mainPuts (sound : Sound spent since s g) {place : Place} {fd : Int} {new : Socket}
    (reset : (g 0).Reset)
    (kept : ∀ socket, s.sockets fd = some socket → Kept s fd socket new)
    (positive : 0 ≤ fd) (fits : MainFits spent since (s.put fd new) place)
    (own : ∀ mine, place.own = some mine → (g 0).own = some mine ∨ s.sockets mine = none) :
    Sound spent since (s.put fd new) (Function.update g 0 place) :=
  sound.mainMoves (Later.put kept) rfl rfl le_rfl fits (sound.nonneg_put positive)
    (fun mine same => (own mine same).imp id .inl) (.inl rfl) (fun _ _ same => ⟨same, rfl⟩)
    (fun _ => .inr ⟨reset, rfl, rfl, rfl⟩) (fun _ _ returned => .inl returned) sound.later
    (.inr (sound.positive reset.inside))

theorem Sound.own_new (sound : Sound spent since s g) {fd : Int} (free : s.Free fd) :
    Own (s.put fd ⟨none, .idle, 0⟩) fd none (· = .idle) := by
  refine ⟨⟨.idle, 0, Function.update_self .., rfl⟩, fun j found => ?_, fun k returned => ?_⟩
  · have there := (sound.accepted_open found).2
    rw [free.2] at there
    cases there
  · obtain ⟨⟨-, -, socket, -, there, -⟩, -⟩ := sound.results k fd returned
    cases free.2.symm.trans there

theorem Own.put {fd : Int} {port port' : Option (List UInt8)} {links links' : Link → Prop}
    {link : Link} {flags : BitVec 32} (own : Own s fd port links) (linked : links' link) :
    Own (s.put fd ⟨port', link, flags⟩) fd port' links' :=
  ⟨⟨link, flags, Function.update_self .., linked⟩, own.unaccepted, own.unreturned⟩

section Connect

variable {socket socket' : Socket} {address : Utils.PeerConnectionData} {way : Way}
  {reply : Except Errno Unit}

theorem connect_keeps (out : Process.connect socket address way = some (reply, socket')) :
    socket'.port = socket.port ∧ socket'.flags = socket.flags ∧
      ∀ peer, socket.link = .connected peer → socket'.link = .connected peer := by
  obtain ⟨port, link, flags⟩ := socket
  cases way with
  | succeeds => cases link <;> cases out <;> exact ⟨rfl, rfl, fun _ same => by cases same⟩
  | fails errno =>
      cases link with
      | connected peer => cases out; exact ⟨rfl, rfl, fun _ same => same⟩
      | listening =>
          obtain ⟨-, same⟩ := Option.ite_none_left_eq_some.mp out
          cases same
          exact ⟨rfl, rfl, fun _ same => same⟩
      | connecting peer =>
          obtain ⟨-, same⟩ := Option.ite_none_left_eq_some.mp out
          split at same <;> cases same <;> exact ⟨rfl, rfl, fun _ same => by cases same⟩
      | idle =>
          obtain ⟨-, same⟩ := Option.ite_none_left_eq_some.mp out
          split at same <;> cases same <;> exact ⟨rfl, rfl, fun _ same => by cases same⟩
  | _ => cases out

theorem connect_toward (out : Process.connect socket address way = some (reply, socket'))
    (toward : Toward address socket.link) :
    Toward address socket'.link ∧
      (reply = .ok () ∨ reply = .error .eisconn → socket'.link = .connected address) := by
  obtain ⟨port, link, flags⟩ := socket
  cases way with
  | succeeds =>
      cases link with
      | idle => cases out; exact ⟨rfl, fun _ => rfl⟩
      | connecting peer =>
          cases out
          exact ⟨toward, fun _ => congrArg Link.connected toward⟩
      | connected | listening => cases out
  | fails errno =>
      cases link with
      | connected peer =>
          cases out
          exact ⟨toward, fun _ => congrArg Link.connected toward⟩
      | listening => exact toward.elim
      | connecting peer =>
          obtain ⟨apart, same⟩ := Option.ite_none_left_eq_some.mp out
          split at same
          · cases same
            exact ⟨toward, fun arrived => by simp [apart] at arrived⟩
          · cases same
            exact ⟨trivial, fun arrived => by simp [apart] at arrived⟩
      | idle =>
          obtain ⟨apart, same⟩ := Option.ite_none_left_eq_some.mp out
          split at same
          · cases same
            exact ⟨rfl, fun arrived => by simp [apart] at arrived⟩
          · cases same
            exact ⟨trivial, fun arrived => by simp [apart] at arrived⟩
  | _ => cases out

end Connect

/-- When its own listening thread has returned, the call takes what is stored. -/
theorem Sound.take (sound : Sound spent since s g) (joined : g 0 = .joined) :
    Sound spent since s (Function.update g 0 (.chosen s.accepting)) := by
  have fits := sound.main
  rw [joined] at fits
  obtain ⟨⟨info, peer, busy⟩, finished⟩ := fits
  have inside : 0 < s.call := sound.positive (by rw [joined]; exact Place.Reset.inside trivial)
  obtain ⟨mine, remains⟩ : (s.accepted s.call).isSome ∧ Remains s s.call := by
    have fits := sound.listeners s.call inside.ne'
    cases place : g s.call with
    | gone =>
        rw [place] at fits
        exact fits.2 finished
    | unborn | born | located | owning | bound | accepting | holding | stored | announced =>
        rw [place] at fits
        rw [fits.1] at finished
        cases finished
    | outside | entering | resetting | asking | disconnected | informed | listening | answered | opened
    | usable | punching | linked | noticed | joined | chosen | settled =>
        rw [place] at fits
        exact fits.elim
  obtain ⟨j, found⟩ := sound.handed.resolve_left (remains rfl)
  have reset : (g 0).Reset := by
    rw [joined]
    trivial
  obtain ⟨unreturned, unspent⟩ := sound.fresh reset j found
  obtain ⟨-, before, socket, there, link, port⟩ := sound.accepted j _ found
  refine sound.mainStays reset ⟨busy.running, ?_, unreturned⟩ fun fd same => .inr (.inr (Option.some.inj same))
  refine ⟨info, peer, socket, busy.heard, there, .inr ⟨link, mine, j, found, before, unspent, ?_⟩⟩
  rintro rfl
  obtain ⟨info', created, same⟩ := port busy.running
  obtain rfl := Option.some.inj (busy.created.symm.trans created)
  exact same

theorem Sound.hears (sound : Sound spent since s g) {place : Place} {data : List UInt8}
    (reset : (g 0).Reset) (running : s.results s.call = none)
    (fits : MainFits spent since
      { s with received := Function.update s.received s.call (s.received s.call ++ [data]) } place)
    (own : place.own = none) :
    Sound spent since
      { s with received := Function.update s.received s.call (s.received s.call ++ [data]) }
      (Function.update g 0 place) := by
  refine sound.mainMoves { Later.refl s with received := fun k finished => ?_ } rfl rfl le_rfl fits sound.nonneg
    (fun fd mine => by rw [own] at mine; cases mine) (.inl rfl) (fun _ _ same => ⟨same, rfl⟩)
    (fun _ => .inr ⟨reset, rfl, rfl, rfl⟩) (fun _ _ returned => .inl returned) (fun k after => ?_)
    (.inr (sound.positive reset.inside))
  · apply Function.update_of_ne
    rintro rfl
    exact finished running
  · obtain ⟨created, received, results⟩ := sound.later k after
    exact ⟨created, by rw [← received]; exact Function.update_of_ne (Nat.ne_of_gt after) .., results⟩

theorem Sound.finishes (sound : Sound spent since s g) {outcome : Except Thrown Int}
    (inside : g 0 ≠ .outside) (running : s.results s.call = none)
    (returns : ∀ fd, outcome = .ok fd → g 0 = .settled fd) :
    Sound spent since { s with results := Function.update s.results s.call (some outcome) }
      (Function.update g 0 .outside) := by
  have positive := sound.positive inside
  refine sound.mainMoves { Later.refl s with results := fun k finished => ?_ } rfl rfl le_rfl trivial sound.nonneg
    (fun fd mine => by cases mine) (.inl rfl) (fun _ _ same => ⟨same, rfl⟩) (fun now => now.elim)
    (fun k fd returned => ?_) (fun k after => ?_) (.inl rfl)
  · apply Function.update_of_ne
    rintro rfl
    exact finished running
  · simp only [Function.update_apply] at returned
    split at returned
    · exact .inr ⟨‹_›, returns fd (Option.some.inj returned), rfl, rfl⟩
    · exact .inl returned
  · obtain ⟨created, received, results⟩ := sound.later k after
    exact ⟨created, received, by rw [← results]; exact Function.update_of_ne (Nat.ne_of_gt after) ..⟩

theorem Sound.running_of_throws (sound : Sound spent since s g) (throws : (g 0).Throws) :
    s.results s.call = none := by
  have fits := sound.main
  cases place : g 0 with
  | asking | informed | listening =>
      rw [place] at fits
      exact fits.1
  | disconnected =>
      rw [place] at fits
      exact fits
  | answered =>
      rw [place] at fits
      exact Busy.running fits
  | opened | usable =>
      rw [place] at fits
      exact fits.1.running
  | outside | entering | resetting | punching | linked | noticed | joined | chosen | settled | unborn | born
  | located | owning | bound | accepting | holding | stored | announced | gone =>
      rw [place] at throws
      exact throws.elim

section Main

variable {info peer : List UInt8} {fd : Int}

theorem Sound.bindsPeer (sound : Sound spent since s g) {link : Link} {flags : BitVec 32}
    (usable : g 0 = .usable info peer fd) (there : s.sockets fd = some ⟨none, link, flags⟩) :
    Sound spent since (s.put fd ⟨some (view info).port, link, flags⟩)
      (Function.update g 0 (.punching info peer fd)) := by
  have fits := sound.main
  rw [usable] at fits
  obtain ⟨busy, own⟩ := fits
  obtain ⟨_, _, there', rfl⟩ := own.there
  obtain ⟨-, rfl, -⟩ := Socket.mk.inj (Option.some.inj (there.symm.trans there'))
  refine sound.mainPuts (by rw [usable]; trivial) (fun socket here => ?_) (sound.nonneg fd _ there)
    ⟨⟨busy.running, busy.created, busy.heard⟩, own.put trivial⟩ fun mine same => .inl (by rw [usable]; exact same)
  obtain rfl := Option.some.inj (there.symm.trans here)
  exact ⟨fun _ same => (by cases same), fun _ same => same, .inl own.unreturned⟩

theorem Sound.knocks (sound : Sound spent since s g) {socket socket' : Socket} {way : Way}
    {reply : Except Errno Unit} (punching : g 0 = .punching info peer fd)
    (there : s.sockets fd = some socket)
    (out : Process.connect socket (view peer) way = some (reply, socket')) :
    Sound spent since (s.put fd socket') (Function.update g 0
      (discipline.after (.punching info peer fd) (.connect fd (view peer)) reply)) := by
  have fits := sound.main
  rw [punching] at fits
  obtain ⟨busy, own⟩ := fits
  obtain ⟨link, flags, there', toward⟩ := own.there
  obtain rfl := Option.some.inj (there.symm.trans there')
  obtain ⟨samePort, -, -⟩ := connect_keeps out
  obtain ⟨toward, arrived⟩ := connect_toward out toward
  have kept : ∀ before, s.sockets fd = some before → Kept s fd before socket' := by
    intro before here
    obtain rfl := Option.some.inj (there.symm.trans here)
    obtain ⟨samePort, -, links⟩ := connect_keeps out
    exact ⟨fun port same => samePort.trans same, links, .inl own.unreturned⟩
  have reset : (g 0).Reset := by
    rw [punching]
    trivial
  have same : ∀ place : Place, place.own = some fd → ∀ mine, place.own = some mine →
      (g 0).own = some mine ∨ s.sockets mine = none := by
    intro place here mine there
    rw [punching]
    exact .inl (here.symm.trans there)
  have goesOn : Sound spent since (s.put fd socket') (Function.update g 0 (.punching info peer fd)) := by
    refine sound.mainPuts reset kept (sound.nonneg fd _ there) ?_ (same _ rfl)
    obtain ⟨_, link', flags'⟩ := socket'
    obtain rfl := samePort
    exact ⟨⟨busy.running, busy.created, busy.heard⟩, own.put toward⟩
  have ends : reply = .ok () ∨ reply = .error .eisconn →
      Sound spent since (s.put fd socket') (Function.update g 0 (.linked info peer fd)) := by
    intro done
    refine sound.mainPuts reset kept (sound.nonneg fd _ there) ?_ (same _ rfl)
    obtain ⟨_, link', flags'⟩ := socket'
    obtain rfl := samePort
    exact ⟨⟨busy.running, busy.created, busy.heard⟩, own.put (arrived done)⟩
  cases reply with
  | ok _ => exact ends (.inl rfl)
  | error errno =>
      cases errno with
      | eisconn => exact ends (.inr rfl)
      | eagain | ewouldblock | ealready | einprogress | other => exact goesOn

theorem Sound.setsFlags (sound : Sound spent since s g) {socket : Socket} {flags : BitVec 32}
    (usable : g 0 = .usable info peer fd) (there : s.sockets fd = some socket) :
    Sound spent since (s.put fd { socket with flags }) (Function.update g 0 (.usable info peer fd)) := by
  have fits := sound.main
  rw [usable] at fits
  obtain ⟨busy, own⟩ := fits
  obtain ⟨_, _, there', rfl⟩ := own.there
  obtain rfl := Option.some.inj (there.symm.trans there')
  refine sound.mainPuts (by rw [usable]; trivial) (fun socket here => ?_) (sound.nonneg fd _ there)
    ⟨⟨busy.running, busy.created, busy.heard⟩, own.put rfl⟩ fun mine same => .inl (by rw [usable]; exact same)
  obtain rfl := Option.some.inj (there.symm.trans here)
  exact ⟨fun _ same => same, fun _ same => same, .inl own.unreturned⟩

theorem Sound.unblocks (sound : Sound spent since s g) {socket : Socket} {flags : BitVec 32}
    (chosen : g 0 = .chosen fd) (clear : flags &&& oNonblock = 0) (there : s.sockets fd = some socket) :
    Sound spent since (s.put fd { socket with flags }) (Function.update g 0 (.settled fd)) := by
  have fits := sound.main
  rw [chosen] at fits
  obtain ⟨running, outcome, unreturned⟩ := fits
  have kept : ∀ before, s.sockets fd = some before → Kept s fd before { socket with flags } := by
    intro before here
    obtain rfl := Option.some.inj (there.symm.trans here)
    exact ⟨fun _ same => same, fun _ same => same, .inl unreturned⟩
  refine sound.mainPuts (by rw [chosen]; trivial) kept (sound.nonneg fd _ there)
    ⟨running, outcome.later (Later.put kept) rfl, unreturned, fun after here => .inl ?_⟩
    fun mine same => .inl (by rw [chosen]; exact same)
  obtain rfl := Option.some.inj ((s.put_self fd _).symm.trans here)
  exact clear

theorem Sound.failsFlags (sound : Sound spent since s g) {place : Place} (reset : (g 0).Reset)
    (own : ∀ mine, place.own = some mine → (g 0).own = some mine)
    (fits : MainFits spent since { s with flagsFailed := Function.update s.flagsFailed s.call true } place) :
    Sound spent since { s with flagsFailed := Function.update s.flagsFailed s.call true }
      (Function.update g 0 place) := by
  refine sound.mainMoves { Later.refl s with failed := fun k failed => ?_ } rfl rfl le_rfl fits sound.nonneg
    (fun mine same => .inl (own mine same)) (.inl rfl) (fun _ _ same => ⟨same, rfl⟩)
    (fun _ => .inr ⟨reset, rfl, rfl, rfl⟩) (fun _ _ returned => .inl returned) sound.later
    (.inr (sound.positive reset.inside))
  simp only [Function.update_apply]
  split
  · rfl
  · exact failed

theorem Sound.creates (sound : Sound spent since s g) (informed : g 0 = .informed info) :
    Sound spent since { s with created := Function.update s.created s.call (some info) }
      (Function.update g 0 (.listening info)) := by
  have fits := sound.main
  rw [informed] at fits
  obtain ⟨running, uncreated, heard⟩ := fits
  refine sound.mainMoves
    { Later.refl s with
      created := fun j other there => ?_
      uncreated := fun k finished none => (Function.update_of_ne ?_ ..).trans none } rfl rfl le_rfl
    ⟨running, Function.update_self .., heard⟩ sound.nonneg (fun mine same => by cases same) (.inl rfl)
    (fun _ _ same => ⟨same, rfl⟩) (fun _ => .inr ⟨by rw [informed]; trivial, rfl, rfl, rfl⟩)
    (fun _ _ returned => .inl returned) (fun k after => ?_) (.inr (sound.positive ?_))
  · refine (Function.update_of_ne ?_ ..).trans there
    rintro rfl
    cases uncreated.symm.trans there
  · rintro rfl
    exact finished running
  · obtain ⟨created, rest⟩ := sound.later k after
    exact ⟨by rw [← created]; exact Function.update_of_ne (Nat.ne_of_gt after) .., rest⟩
  · rw [informed]
    exact Place.Reset.inside trivial

/-- The call has not seen that a thread accepted a connection, and keeps its own. -/
theorem Sound.keepsOwn (sound : Sound spent since s g) (linked : g 0 = .linked info peer fd) :
    Sound spent since s (Function.update g 0 (.chosen fd)) := by
  have fits := sound.main
  rw [linked] at fits
  obtain ⟨busy, own⟩ := fits
  obtain ⟨link, flags, there, connected⟩ := own.there
  refine sound.mainStays (by rw [linked]; trivial) ⟨busy.running, ?_, own.unreturned⟩
    fun mine same => .inl (by rw [linked]; exact same)
  exact ⟨info, peer, _, busy.heard, there, .inl ⟨rfl, connected, own.unaccepted⟩⟩

theorem Sound.calls (sound : Sound spent since s g) :
    Sound spent since { s with call := s.call + 1 } (Function.update g 0 .entering) := by
  obtain ⟨uncreated, unheard, running⟩ := sound.later (s.call + 1) (Nat.lt_succ_self _)
  refine sound.mainMoves { Later.refl s with sockets := (Later.refl s).sockets } rfl rfl (Nat.le_succ _)
    ⟨running, uncreated, unheard⟩ sound.nonneg (fun mine same => by cases same) (.inl rfl)
    (fun j created current => ?_) (fun now => now.elim) (fun _ _ returned => .inl returned)
    (fun k after => sound.later k (Nat.lt_of_succ_lt after)) (.inr (Nat.succ_pos _))
  subst current
  rw [uncreated] at created
  cases created

theorem Sound.opensSocket (sound : Sound spent since s g)
    (permitted : discipline.allowed (g 0) .socket) (free : s.Free fd) :
    Sound spent since (s.put fd ⟨none, .idle, 0⟩)
      (Function.update g 0 (discipline.after (g 0) .socket (.ok fd))) := by
  have fits := sound.main
  have kept : ∀ socket, s.sockets fd = some socket → Kept s fd socket ⟨none, .idle, 0⟩ :=
    fun socket there => by cases free.2.symm.trans there
  rcases permitted with before | ⟨info, peer, before⟩ | before <;> rw [before] at fits ⊢
  · exact sound.mainPuts (by rw [before]; trivial) kept free.1 fits fun mine same => by cases same
  · exact sound.mainPuts (by rw [before]; trivial) kept free.1
      ⟨⟨fits.running, fits.created, fits.heard⟩, .inr (sound.own_new free)⟩
      fun mine same => .inr (Option.some.inj same ▸ free.2)
  · exact fits.elim

theorem Sound.receives (sound : Sound spent since s g) {data memory : List UInt8}
    (permitted : discipline.allowed (g 0) (.recv fd)) (begins : data <+: memory) :
    Sound spent since
      { s with received := Function.update s.received s.call (s.received s.call ++ [data]) }
      (Function.update g 0 (discipline.after (g 0) (.recv fd) (.ok (data.length, memory)))) := by
  have fits := sound.main
  have now : ∀ earlier, s.received s.call = earlier →
      Function.update s.received s.call (s.received s.call ++ [data]) s.call = earlier ++ [data] := by
    rintro earlier rfl
    exact Function.update_self ..
  rcases permitted with before | ⟨info, before⟩ <;> rw [before] at fits ⊢
  · obtain ⟨running, uncreated, unheard⟩ := fits
    have reset : (g 0).Reset := by
      rw [before]
      trivial
    cases data with
    | nil => exact sound.hears reset running running rfl
    | cons byte rest =>
        refine sound.hears reset running ⟨running, uncreated, _, now [] unheard, List.cons_ne_nil _ _, begins⟩ rfl
  · obtain ⟨running, created, first, heard, some, told⟩ := fits
    have reset : (g 0).Reset := by
      rw [before]
      trivial
    cases data with
    | nil => exact sound.hears reset running running rfl
    | cons byte rest =>
        exact sound.hears reset running ⟨running, created, first, _, now [first] heard, some,
          List.cons_ne_nil _ _, told, begins⟩ rfl

theorem Sound.looks (sound : Sound spent since s g)
    (permitted : discipline.allowed (g 0) .loadEstablished) :
    Sound spent since s (Function.update g 0 (discipline.after (g 0) .loadEstablished s.established)) := by
  have fits := sound.main
  obtain ⟨info, peer, fd, before | before | before⟩ := permitted <;> rw [before] at fits ⊢
  · cases seen : s.established with
    | false => exact sound.same before
    | true => exact sound.mainStays (by rw [before]; trivial) ⟨fits.1, seen⟩ fun mine same => by cases same
  · cases seen : s.established with
    | false => exact sound.keepsOwn before
    | true => exact sound.mainStays (by rw [before]; trivial) ⟨fits.1, seen⟩ fun mine same => by cases same
  · rw [fits.2]
    exact sound.same before

theorem Sound.clears (sound : Sound spent since s g) (entering : g 0 = .entering) :
    Sound spent since { s with established := false } (Function.update g 0 .resetting) := by
  have fits := sound.main
  rw [entering] at fits
  exact sound.mainMoves { Later.refl s with sockets := (Later.refl s).sockets } rfl rfl le_rfl fits sound.nonneg
    (fun mine same => by cases same) (.inl rfl) (fun _ _ same => ⟨same, rfl⟩) (fun now => now.elim)
    (fun _ _ returned => .inl returned) sound.later
    (.inr (sound.positive (by rw [entering]; exact fun same => by cases same)))

theorem Sound.resets (sound : Sound spent since s g) (resetting : g 0 = .resetting) :
    Sound spent since { s with accepting := -1 } (Function.update g 0 .asking) := by
  have fits := sound.main
  rw [resetting] at fits
  refine sound.mainMoves { Later.refl s with sockets := (Later.refl s).sockets } rfl rfl le_rfl fits sound.nonneg
    (fun mine same => by cases same) (.inr rfl) (fun j created current => ?_) (fun _ => .inl rfl)
    (fun _ _ returned => .inl returned) sound.later
    (.inr (sound.positive (by rw [resetting]; exact fun same => by cases same)))
  -- The thread of this call does not exist yet.
  subst current
  rw [fits.2.1] at created
  cases created

theorem Sound.mainAnswered (sound : Sound spent since s g) {call : Call} {reply : call.Reply}
    (permitted : discipline.allowed (g 0) call) (answers : Process.Answers 0 s call reply s') :
    Sound spent since s' (Function.update g 0 (discipline.after (g 0) call reply)) := by
  have fits := sound.main
  cases answers with
  | socket fd free => exact sound.opensSocket permitted free
  | noSocket errno =>
      rcases permitted with before | ⟨info, peer, before⟩ | before <;> rw [before] at fits ⊢
      · exact sound.same before
      · exact sound.mainStays (by rw [before]; trivial) ⟨fits, .inl (show (-1 : Int) < 0 by decide)⟩
          fun fd same => .inr (.inl (Option.some.inj same ▸ show (-1 : Int) < 0 by decide))
      · exact fits.elim
  | setsockopt fd option there =>
      obtain before | ⟨info, peer, before | before⟩ | before := permitted <;> rw [before] at fits ⊢
      · exact sound.same before
      · obtain ⟨socket, opened⟩ := Option.isSome_iff_exists.mp there
        obtain ⟨busy, negative | own⟩ := fits
        · have positive := sound.nonneg fd socket opened
          omega
        · exact sound.mainStays (by rw [before]; trivial) ⟨busy, own⟩ fun mine same => .inl (by rw [before]; exact same)
      · exact sound.same before
      · exact fits.elim
  | noSetsockopt fd option errno =>
      obtain before | ⟨info, peer, before | before⟩ | before := permitted <;> rw [before] at fits ⊢
      · exact sound.same before
      · exact sound.same before
      · exact sound.same before
      · exact fits.elim
  | bind fd port link flags there =>
      obtain ⟨info, peer, before, rfl⟩ | before := permitted <;> rw [before] at fits ⊢
      · exact sound.bindsPeer before there
      · exact fits.elim
  | noBind fd port errno =>
      obtain ⟨info, peer, before, -⟩ | before := permitted <;> rw [before] at fits ⊢
      · exact sound.same before
      · exact fits.elim
  | connect fd address socket socket' way reply there out =>
      obtain before | ⟨info, peer, before, rfl⟩ := permitted <;> rw [before] at fits ⊢
      · obtain ⟨samePort, sameFlags, links⟩ := connect_keeps out
        refine sound.mainPuts (by rw [before]; trivial) (fun other here => ?_) (sound.nonneg fd socket there) fits
          fun mine same => by cases same
        obtain rfl := Option.some.inj (there.symm.trans here)
        exact ⟨fun port same => samePort.trans same, links, .inr fun blocks => by rwa [Socket.Blocking, sameFlags]⟩
      · exact sound.knocks before there out
  | noConnect fd address errno missing apart =>
      obtain before | ⟨info, peer, before, rfl⟩ := permitted <;> rw [before] at fits ⊢
      · exact sound.same before
      · obtain ⟨link, flags, there, -⟩ := fits.2.there
        cases missing.symm.trans there
  | send fd data count =>
      have before : g 0 = .asking := permitted
      rw [before] at fits ⊢
      exact sound.mainMoves { Later.refl s with sockets := (Later.refl s).sockets } rfl rfl le_rfl fits sound.nonneg
        (fun mine same => by cases same) (.inl rfl) (fun _ _ same => ⟨same, rfl⟩)
        (fun reset => .inr ⟨by rw [before]; exact reset, rfl, rfl, rfl⟩) (fun _ _ returned => .inl returned)
        sound.later (.inr (sound.positive (by rw [before]; exact Place.Reset.inside trivial)))
  | noSend fd data errno => exact sound.same rfl
  | recv fd data memory begins => exact sound.receives permitted begins
  | noRecv fd errno =>
      rcases permitted with before | ⟨info, before⟩ <;> rw [before] <;> exact sound.same before
  | getFlags fd reply => exact sound.same rfl
  | setFlags fd flags socket there =>
      obtain ⟨info, peer, before⟩ | ⟨before, clear⟩ := permitted <;> rw [before]
      · exact sound.setsFlags before there
      · exact sound.unblocks before clear there
  | noSetFlags fd flags errno =>
      obtain ⟨info, peer, before⟩ | ⟨before, -⟩ := permitted <;> rw [before] at fits ⊢
      · obtain ⟨busy, own⟩ := fits
        exact sound.failsFlags (by rw [before]; trivial) (fun mine same => by rw [before]; exact same)
          ⟨⟨busy.running, busy.created, busy.heard⟩, own.there, own.unaccepted, own.unreturned⟩
      · obtain ⟨running, outcome, unreturned⟩ := fits
        exact sound.failsFlags (by rw [before]; trivial) (fun mine same => by rw [before]; exact same)
          ⟨running, outcome, unreturned, fun _ _ => .inr (Function.update_self ..)⟩
  | pthreadCreate info =>
      have before := permitted
      rw [before]
      exact sound.creates before
  | noThread info errno =>
      have before := permitted
      rw [before]
      exact sound.same before
  | pthreadJoin finished =>
      obtain ⟨info, peer, fd, before⟩ := permitted
      rw [before] at fits
      exact sound.mainStays (by rw [before]; trivial) ⟨⟨info, peer, fits.1⟩, finished⟩ fun mine same => by cases same
  | sleepFor milliseconds => exact sound.same rfl
  | loadEstablished => exact sound.looks permitted
  | storeEstablished value =>
      obtain ⟨before, rfl⟩ | ⟨⟨fd, before⟩, -⟩ := permitted <;> rw [before] at fits ⊢
      · exact sound.clears before
      · exact fits.elim
  | loadAccepting => exact sound.take permitted
  | storeAccepting fd =>
      obtain ⟨before, rfl⟩ | before := permitted <;> rw [before] at fits ⊢
      · exact sound.resets before
      · exact fits.elim
  | called arguments => exact sound.calls
  | finish outcome =>
      cases outcome with
      | ok fd =>
          have before : g 0 = .settled fd := permitted
          rw [before] at fits
          refine sound.finishes (by rw [before]; exact Place.Reset.inside trivial) fits.1 ?_
          rintro _ ⟨⟩
          exact before
      | error thrown =>
          refine sound.finishes ?_ (sound.running_of_throws permitted) fun _ same => by cases same
          intro outside
          have throws : (g 0).Throws := permitted
          rw [outside] at throws
          exact throws
  | listen | noListen | accept | noAccept =>
      obtain ⟨port, before⟩ := permitted
      rw [before] at fits
      exact fits.elim
  | started =>
      have before := permitted
      rw [before] at fits
      exact fits.elim
  | exit | loadInfo =>
      obtain ⟨fd, before⟩ := permitted
      rw [before] at fits
      exact fits.elim
  | terminate =>
      have dies : (g 0).Dies := permitted
      cases place : g 0 <;> rw [place] at fits dies <;> first | exact dies.elim | exact fits.elim

end Main

end TCPunch.Client
