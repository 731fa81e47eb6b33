import TCPunch.Server.Fleet

/-! # Whom the clients of a fleet are told of

With Redis the two clients of a pair are told separately: the second by the record it finds
in Redis, the first by whoever finds its sender. The two need not agree. But a record is
found once and a sender is used once, on whichever server, whatever fails and however the
commands interleave; and both lead to clients that asked for the same name. Who stored, found
and told whom is read off the ledger of an observer of all commands.
-/

namespace TCPunch.RedisRegistry

/-- The sender of the connection was in `local_waiters`. -/
def Entered : Standing Progress → Prop
  | .waiting _ _ _ => True
  | .learned _ _ => True
  | .left _ _ => True
  | _ => False

theorem Entered.enrolled {standing : Standing Progress} (entered : Entered standing) :
    standing.Enrolled := by
  cases standing with
  | unread | asking => exact entered.elim
  | calling | matched | waiting | learned | left | refused => trivial

section Step

variable {fleet : Fleet} {address : Nat → Option PeerConnectionData} {i : Nat}
  {s s' : Scene Cluster} {before standing : Standing Progress} {note : Note}

theorem Happens.enrolled (happens : Happens fleet address i s before standing s' note)
    (enrolled : before.Enrolled) : standing.Enrolled := by
  cases happens with
  | wait request token channel waited => cases waited <;> trivial
  | read | store | claim => exact enrolled.elim
  | write | idle => exact enrolled
  | refuse | enter | ring | miss | send | leave => trivial

theorem Happens.entered (happens : Happens fleet address i s before standing s' note)
    (entered : Entered before) : Entered standing := by
  cases happens with
  | wait request token channel waited => cases waited <;> trivial
  | refuse _ request registry asked =>
      rcases asked with rfl | ⟨progress, rfl⟩ <;> exact entered.elim
  | read | store | claim | ring | miss | send => exact entered.elim
  | write | idle => exact entered
  | enter | leave => trivial

theorem Happens.received (happens : Happens fleet address i s before standing s' note) :
    ∀ j, j ≠ i ∨ before.Enrolled → s'.received j = s.received j := by
  intro j other
  cases happens with
  | read own outcome =>
      rcases other with other | enrolled
      · cases outcome with
        | request request => exact Function.update_of_ne other ..
        | rejected | failed | elapsed => rfl
      · exact enrolled.elim
  | write | wait | idle | refuse | store | claim | enter | ring | miss | send | leave => rfl

/-- Both clients asked for one name. -/
def SameName (received : Nat → Option ClientRequest) (i j : Nat) : Prop :=
  ∃ name, (received i).map ClientRequest.pairingName = some name ∧
    (received j).map ClientRequest.pairingName = some name

variable {g : Nat → Standing Progress} {j k : Nat}

theorem Happens.enrolled_update (happens : Happens fleet address i s (g i) standing s' note)
    (enrolled : (g j).Enrolled) :
    (Function.update g i standing j).Enrolled ∧ s'.received j = s.received j := by
  by_cases self : j = i
  · subst self
    rw [Function.update_self]
    exact ⟨happens.enrolled enrolled, happens.received j (.inr enrolled)⟩
  · rw [Function.update_of_ne self]
    exact ⟨enrolled, happens.received j (.inl self)⟩

theorem Happens.entered_update (happens : Happens fleet address i s (g i) standing s' note)
    (entered : Entered (g j)) : Entered (Function.update g i standing j) := by
  by_cases self : j = i
  · subst self
    rw [Function.update_self]
    exact happens.entered entered
  · rwa [Function.update_of_ne self]

theorem Happens.sameName (happens : Happens fleet address i s (g i) standing s' note)
    (first : (g j).Enrolled) (second : (g k).Enrolled) (same : SameName s.received j k) :
    SameName s'.received j k := by
  obtain ⟨name, one, two⟩ := same
  refine ⟨name, ?_, ?_⟩
  · rw [(happens.enrolled_update first).2]
    exact one
  · rw [(happens.enrolled_update second).2]
    exact two

end Step

section Honesty

variable (fleet : Fleet) (address : Nat → Option PeerConnectionData)

/-- What is known of connection `i` where it stands. `teller` is the connection that found the
    sender of another, even if it has not used it yet. -/
def Fits (found told : List (Nat × Nat)) (teller : Nat → Option Nat) (received : Option ClientRequest)
    (i : Nat) : Standing Progress → Prop
  | .unread => True
  | .asking request => Asked address received i request
  | .calling request (.stored _) => Asked address received i request
  | .calling request (.claimed client) =>
      Asked address received i request ∧ (∀ j, teller j ≠ some i) ∧
        ∃ j, (i, j) ∈ found ∧ address j = some client.connectionInfo
  | .calling request (.ringing client tx) =>
      Asked address received i request ∧ (teller tx = some i ∧ ∀ j, (j, i) ∉ told) ∧
        ∃ j, (i, j) ∈ found ∧ address j = some client.connectionInfo
  | .matched request peer =>
      Asked address received i request ∧ ∃ j, (i, j) ∈ found ∧ address j = some peer
  | .waiting request _ channel => Asked address received i request ∧ channel = i
  | .learned request peer =>
      Asked address received i request ∧ ∃ j, (i, j) ∈ told ∧ address j = some peer
  | .left request _ => Asked address received i request
  | .refused request => Asked address received i request

/-- Records and senders are used once, and lead to clients that asked for the same name. -/
structure Honest (ledger : Ledger) (teller : Nat → Option Nat) (s : Scene Cluster)
    (g : Nat → Standing Progress) : Prop where
  fits : ∀ i, Fits address ledger.found ledger.told teller (s.received i) i (g i)
  /-- A record is that of the connection that stored it last, and has not been found yet. -/
  records : ∀ name client, s.registry.record name = some (.json client) →
    ∃ j, ledger.storedBy (pairingKey name) = some j ∧ (g j).Enrolled ∧ (∀ i, (i, j) ∉ ledger.found) ∧
      address j = some client.connectionInfo ∧
      (s.received j).map ClientRequest.pairingName = some name
  waiters : ∀ server name j, s.registry.waiter server name = some j →
    Entered (g j) ∧ teller j = none ∧ fleet.home j = server ∧
      (s.received j).map ClientRequest.pairingName = some name
  inbox : ∀ i peer, s.inbox i = some peer → ∃ j, (i, j) ∈ ledger.told ∧ address j = some peer
  found : ∀ i j, (i, j) ∈ ledger.found → i ≠ j ∧ (g i).Enrolled ∧ (g j).Enrolled ∧
    SameName s.received i j
  tellers : ∀ i j, teller i = some j → i ≠ j ∧ Entered (g i) ∧ (g j).Enrolled ∧
    SameName s.received i j ∧ ∀ i', teller i' = some j → i' = i
  told : ∀ i j, (i, j) ∈ ledger.told → teller i = some j
  once : ledger.Once
  frames : ∀ i, ∀ frame ∈ s.frames i, frame.status = .paired → (g i).MayWrite frame

variable {fleet address} {ledger ledger' : Ledger} {teller : Nat → Option Nat} {s s' : Scene Cluster}
  {g : Nat → Standing Progress} {i : Nat} {standing : Standing Progress} {note : Note}

theorem Honest.found_later (honest : Honest fleet address ledger teller s g)
    (happens : Happens fleet address i s (g i) standing s' note) {j k : Nat}
    (member : (j, k) ∈ ledger.found) :
    j ≠ k ∧ (Function.update g i standing j).Enrolled ∧ (Function.update g i standing k).Enrolled ∧
      SameName s'.received j k := by
  obtain ⟨apart, first, second, names⟩ := honest.found j k member
  exact ⟨apart, (happens.enrolled_update first).1, (happens.enrolled_update second).1,
    happens.sameName first second names⟩

theorem Honest.tellers_later (honest : Honest fleet address ledger teller s g)
    (happens : Happens fleet address i s (g i) standing s' note) {j k : Nat}
    (rang : teller j = some k) :
    j ≠ k ∧ Entered (Function.update g i standing j) ∧ (Function.update g i standing k).Enrolled ∧
      SameName s'.received j k ∧ ∀ j', teller j' = some k → j' = j := by
  obtain ⟨apart, first, second, names, only⟩ := honest.tellers j k rang
  exact ⟨apart, happens.entered_update first, (happens.enrolled_update second).1,
    happens.sameName first.enrolled second names, only⟩

/-- A connection that knows of no peer has not been told PAIRED. -/
theorem Honest.frames_of_others (honest : Honest fleet address ledger teller s g)
    (ignorant : (g i).peer = none) {j : Nat} {frame : ServerResponse} (member : frame ∈ s.frames j)
    (paired : frame.status = .paired) : j ≠ i ∧ (g j).MayWrite frame := by
  have may := honest.frames j frame member paired
  refine ⟨?_, may⟩
  rintro rfl
  exact may.not_paired ignorant paired

theorem Honest.step (honest : Honest fleet address ledger teller s g)
    (happens : Happens fleet address i s (g i) standing s' note)
    (fits : Fits address ledger'.found ledger'.told teller (s'.received i) i standing)
    (others : ∀ j, j ≠ i → Fits address ledger'.found ledger'.told teller (s.received j) j (g j))
    (same : ledger'.found = ledger.found) (told : ∀ j k, (j, k) ∈ ledger'.told → teller j = some k)
    (once : ledger'.Once)
    (records : ∀ name client, s'.registry.record name = some (.json client) →
      s.registry.record name = some (.json client) ∧
          ledger'.storedBy (pairingKey name) = ledger.storedBy (pairingKey name) ∨
        ledger'.storedBy (pairingKey name) = some i ∧ standing.Enrolled ∧ (∀ k, (k, i) ∉ ledger.found) ∧
          address i = some client.connectionInfo ∧
          (s'.received i).map ClientRequest.pairingName = some name)
    (waiters : ∀ server name j, s'.registry.waiter server name = some j →
      s.registry.waiter server name = some j ∨
        j = i ∧ Entered standing ∧ teller i = none ∧ fleet.home i = server ∧
          (s'.received i).map ClientRequest.pairingName = some name)
    (inbox : ∀ j peer, s'.inbox j = some peer → ∃ k, (j, k) ∈ ledger'.told ∧ address k = some peer)
    (frames : ∀ j, ∀ frame ∈ s'.frames j, frame.status = .paired →
      j ≠ i ∧ (g j).MayWrite frame ∨ j = i ∧ standing.MayWrite frame) :
    Honest fleet address ledger' teller s' (Function.update g i standing) := by
  refine ⟨?_, ?_, ?_, inbox, ?_, ?_, told, once, ?_⟩
  · intro j
    by_cases self : j = i
    · subst self
      rw [Function.update_self]
      exact fits
    · rw [Function.update_of_ne self, happens.received j (.inl self)]
      exact others j self
  · intro name client there
    rw [same]
    rcases records name client there with ⟨there, last⟩ | ⟨last, here, free, own, asked⟩
    · obtain ⟨j, stored, before, free, own, asked⟩ := honest.records name client there
      obtain ⟨enrolled, heard⟩ := happens.enrolled_update before
      exact ⟨j, last.trans stored, enrolled, free, own, by rwa [heard]⟩
    · exact ⟨i, last, by rwa [Function.update_self], free, own, asked⟩
  · intro server name j there
    rcases waiters server name j there with there | ⟨rfl, here, free, home, asked⟩
    · obtain ⟨before, free, home, asked⟩ := honest.waiters server name j there
      have heard := (happens.enrolled_update before.enrolled).2
      exact ⟨happens.entered_update before, free, home, by rwa [heard]⟩
    · exact ⟨by rwa [Function.update_self], free, home, asked⟩
  · exact fun j k member => honest.found_later happens (same ▸ member)
  · exact fun j k rang => honest.tellers_later happens rang
  · intro j frame member paired
    rcases frames j frame member paired with ⟨other, may⟩ | ⟨rfl, may⟩
    · rwa [Function.update_of_ne other]
    · rwa [Function.update_self]

theorem Fits.mono {found found' told told' : List (Nat × Nat)} {received : Option ClientRequest}
    {j : Nat} {stands : Standing Progress} (finds : found ⊆ found') (tells : told ⊆ told')
    (silent : ∀ k, (k, j) ∈ told' → (k, j) ∈ told)
    (fits : Fits address found told teller received j stands) :
    Fits address found' told' teller received j stands := by
  cases stands with
  | calling request progress =>
      cases progress with
      | stored token => exact fits
      | claimed client =>
          obtain ⟨asked, idle, k, member, own⟩ := fits
          exact ⟨asked, idle, k, finds member, own⟩
      | ringing client tx =>
          obtain ⟨asked, ⟨rang, unused⟩, k, member, own⟩ := fits
          exact ⟨asked, ⟨rang, fun l used => unused l (silent l used)⟩, k, finds member, own⟩
  | matched request peer =>
      obtain ⟨asked, k, member, own⟩ := fits
      exact ⟨asked, k, finds member, own⟩
  | learned request peer =>
      obtain ⟨asked, k, member, own⟩ := fits
      exact ⟨asked, k, tells member, own⟩
  | unread | asking | waiting | left | refused => exact fits

theorem Honest.claim (honest : Honest fleet address ledger teller s g) {request : Request}
    {client : WaitingClient} {registry : Cluster} (asking : g i = .asking request)
    (there : s.registry.record request.pairingName = some (.json client))
    (fewer : Fewer s.registry registry) (gone : registry.record request.pairingName = none) :
    Honest fleet address (ledger.add i (.found (pairingKey request.pairingName))) teller
      (s.update { s.toShared with registry })
      (Function.update g i (.calling request (.claimed client))) := by
  have happens : Happens fleet address i s (g i) (.calling request (.claimed client))
      (s.update { s.toShared with registry }) (.found (pairingKey request.pairingName)) := by
    rw [asking]
    exact .claim request client registry there fewer gone
  obtain ⟨j, stored, posted, free, own, named⟩ := honest.records _ _ there
  have asked := honest.fits i
  rw [asking] at asked
  have early : ¬ (g i).Enrolled := by
    rw [asking]
    exact id
  have apart : i ≠ j := by
    rintro rfl
    exact early posted
  have noted : ledger.add i (.found (pairingKey request.pairingName)) =
      { ledger with found := ledger.found ++ [(i, j)] } := by
    simp only [Ledger.add, stored, Option.map_some, Option.toList_some]
  have more : ledger.found ⊆ ledger.found ++ [(i, j)] := List.subset_append_left ..
  rw [noted]
  refine ⟨?_, ?_, ?_, honest.inbox, ?_, ?_, honest.told, ?_, ?_⟩
  · intro k
    by_cases self : k = i
    · subst self
      rw [Function.update_self]
      refine ⟨asked, fun l rang => ?_, j, List.mem_append_right _ (.head _), own⟩
      exact early (honest.tellers l k rang).2.2.1
    · rw [Function.update_of_ne self]
      exact (honest.fits k).mono more (List.Subset.refl _) fun _ used => used
  · intro name other found
    obtain ⟨k, stored', before, free', own', named'⟩ :=
      honest.records name other (fewer.records name other found)
    refine ⟨k, stored', (happens.enrolled_update before).1, fun l taken => ?_, own', named'⟩
    rcases List.mem_append.mp taken with taken | taken
    · exact free' l taken
    · cases List.mem_singleton.mp taken
      -- Two records of one connection would be under one name.
      rw [named] at named'
      obtain rfl := Option.some.inj named'
      cases gone.symm.trans found
  · intro server name k found
    obtain ⟨before, rest⟩ := honest.waiters server name k (fewer.waiters server name k found)
    exact ⟨happens.entered_update before, rest⟩
  · intro k l taken
    rcases List.mem_append.mp taken with taken | taken
    · exact honest.found_later happens taken
    · cases List.mem_singleton.mp taken
      exact ⟨apart, by rw [Function.update_self]; trivial, (happens.enrolled_update posted).1,
        _, asked.2, named⟩
  · exact fun k l rang => honest.tellers_later happens rang
  · refine honest.once.find (fun l taken => ?_) free
    exact early (honest.found i l taken).2.1
  · intro k frame member paired
    obtain ⟨other, may⟩ := honest.frames_of_others (i := i) (by rw [asking]; rfl) member paired
    rwa [Function.update_of_ne other]

/-- What a connection knows does not depend on who found a sender that nobody had found. -/
theorem Fits.of_teller {found told : List (Nat × Nat)} {tx : Nat} {received : Option ClientRequest}
    {j : Nat} {stands : Standing Progress} (untold : teller tx = none) (other : j ≠ i)
    (fits : Fits address found told teller received j stands) :
    Fits address found told (Function.update teller tx (some i)) received j stands := by
  cases stands with
  | calling request progress =>
      cases progress with
      | stored token => exact fits
      | claimed client =>
          obtain ⟨asked, idle, origin⟩ := fits
          refine ⟨asked, fun k rang => ?_, origin⟩
          rcases eq_or_ne k tx with rfl | apart
          · rw [Function.update_self] at rang
            exact other (Option.some.inj rang).symm
          · rw [Function.update_of_ne apart] at rang
            exact idle k rang
      | ringing client channel =>
          obtain ⟨asked, ⟨rang, unused⟩, origin⟩ := fits
          refine ⟨asked, ⟨?_, unused⟩, origin⟩
          rw [Function.update_of_ne]
          · exact rang
          · rintro rfl
            cases untold.symm.trans rang
  | unread | asking | matched | waiting | learned | left | refused => exact fits

theorem Honest.ring (honest : Honest fleet address ledger teller s g) {request : Request}
    {client : WaitingClient} {tx : Chan} {registry : Cluster}
    (claimed : g i = .calling request (.claimed client))
    (there : s.registry.waiter (fleet.home i) request.pairingName = some tx)
    (fewer : Fewer s.registry registry)
    (gone : registry.waiter (fleet.home i) request.pairingName = none) :
    Honest fleet address ledger (Function.update teller tx (some i))
      (s.update { s.toShared with registry })
      (Function.update g i (.calling request (.ringing client tx))) := by
  have happens : Happens fleet address i s (g i) (.calling request (.ringing client tx))
      (s.update { s.toShared with registry }) .nothing := by
    rw [claimed]
    exact .ring request client tx registry there fewer gone
  obtain ⟨entered, untold, home, named⟩ := honest.waiters _ _ _ there
  have knows := honest.fits i
  rw [claimed] at knows
  obtain ⟨asked, idle, origin⟩ := knows
  have enrolled : (g i).Enrolled := by
    rw [claimed]
    trivial
  have apart : tx ≠ i := by
    rintro rfl
    rw [claimed] at entered
    exact entered
  have others : ∀ k, k ≠ tx → Function.update teller tx (some i) k = teller k :=
    fun k other => Function.update_of_ne other ..
  refine ⟨?_, ?_, ?_, honest.inbox, ?_, ?_, ?_, honest.once, ?_⟩
  · intro k
    by_cases self : k = i
    · subst self
      rw [Function.update_self]
      refine ⟨asked, ⟨Function.update_self .., fun l used => ?_⟩, origin⟩
      exact idle l (honest.told l k used)
    · rw [Function.update_of_ne self]
      exact (honest.fits k).of_teller untold self
  · intro name other found
    obtain ⟨k, stored, before, rest⟩ := honest.records name other (fewer.records name other found)
    exact ⟨k, stored, (happens.enrolled_update before).1, rest⟩
  · intro server name k found
    obtain ⟨before, free, home', named'⟩ := honest.waiters server name k (fewer.waiters server name k found)
    refine ⟨happens.entered_update before, ?_, home', named'⟩
    rw [others k]
    · exact free
    · -- The slot of `tx` is the one that was emptied.
      rintro rfl
      rw [named] at named'
      obtain rfl := Option.some.inj named'
      rw [home] at home'
      obtain rfl := home'
      cases gone.symm.trans found
  · exact fun k l taken => honest.found_later happens taken
  · intro k l rang
    by_cases self : k = tx
    · subst self
      rw [Function.update_self] at rang
      obtain rfl := Option.some.inj rang
      refine ⟨apart, happens.entered_update entered, (happens.enrolled_update enrolled).1,
        ⟨_, named, asked.2⟩, fun k' rang' => ?_⟩
      by_contra other
      rw [others k' other] at rang'
      exact idle k' rang'
    · rw [others k self] at rang
      obtain ⟨apart', first, second, names, only⟩ := honest.tellers_later happens rang
      refine ⟨apart', first, second, names, fun k' rang' => ?_⟩
      by_cases self' : k' = tx
      · subst self'
        rw [Function.update_self] at rang'
        obtain rfl := Option.some.inj rang'
        exact absurd rang (idle k)
      · rw [others k' self'] at rang'
        exact only k' rang'
  · intro k l used
    have rang := honest.told k l used
    rw [others k]
    · exact rang
    · rintro rfl
      cases untold.symm.trans rang
  · intro k frame member paired
    obtain ⟨other, may⟩ := honest.frames_of_others (i := i) (by rw [claimed]; rfl) member paired
    rwa [Function.update_of_ne other]

theorem Honest.shift (honest : Honest fleet address ledger teller s g)
    (happens : Happens fleet address i s (g i) standing s' note) (ignorant : (g i).peer = none)
    (same : ledger'.found = ledger.found ∧ ledger'.told = ledger.told)
    (inbox : s'.inbox = s.inbox) (frames : s'.frames = s.frames)
    (fits : Fits address ledger.found ledger.told teller (s'.received i) i standing)
    (records : ∀ name client, s'.registry.record name = some (.json client) →
      s.registry.record name = some (.json client) ∧
          ledger'.storedBy (pairingKey name) = ledger.storedBy (pairingKey name) ∨
        ledger'.storedBy (pairingKey name) = some i ∧ standing.Enrolled ∧ (∀ k, (k, i) ∉ ledger.found) ∧
          address i = some client.connectionInfo ∧
          (s'.received i).map ClientRequest.pairingName = some name)
    (waiters : ∀ server name j, s'.registry.waiter server name = some j →
      s.registry.waiter server name = some j ∨
        j = i ∧ Entered standing ∧ teller i = none ∧ fleet.home i = server ∧
          (s'.received i).map ClientRequest.pairingName = some name) :
    Honest fleet address ledger' teller s' (Function.update g i standing) := by
  obtain ⟨found, told⟩ := same
  refine honest.step happens ?_ ?_ found ?_ ?_ records waiters ?_ fun j frame member paired => ?_
  · rw [found, told]
    exact fits
  · intro j other
    rw [found, told]
    exact honest.fits j
  · rw [told]
    exact honest.told
  · exact honest.once.of_eq found told
  · rw [inbox, told]
    exact honest.inbox
  · rw [frames] at member
    exact .inl (honest.frames_of_others ignorant member paired)

theorem Honest.stand (honest : Honest fleet address ledger teller s g) {registry : Cluster}
    (happens : Happens fleet address i s (g i) standing (s.update { s.toShared with registry }) note)
    (ignorant : (g i).peer = none) (fewer : Fewer s.registry registry)
    (fits : Fits address ledger.found ledger.told teller (s.received i) i standing) :
    Honest fleet address ledger teller (s.update { s.toShared with registry })
      (Function.update g i standing) :=
  honest.shift happens ignorant ⟨rfl, rfl⟩ rfl rfl fits
    (fun name client found => .inl ⟨fewer.records name client found, rfl⟩)
    (fun server name j found => .inl (fewer.waiters server name j found))

theorem Fits.asked {found told : List (Nat × Nat)} {received : Option ClientRequest} {request : Request}
    (fits : Fits address found told teller received i standing) (has : standing.request = some request) :
    Asked address received i request := by
  cases standing with
  | unread => cases has
  | calling request' progress =>
      cases has
      cases progress with
      | stored token => exact fits
      | claimed client => exact fits.1
      | ringing client tx => exact fits.1
  | asking | left | refused =>
      cases has
      exact fits
  | matched | waiting | learned =>
      cases has
      exact fits.1

theorem Honest.read (honest : Honest fleet address ledger teller s g) {own : PeerConnectionData}
    {outcome : ReadOutcome} (unread : g i = .unread) (known : address i = some own) :
    Honest fleet address ledger teller (s.read i outcome)
      (Function.update g i (Standing.afterRead own outcome)) := by
  have happens : Happens fleet address i s (g i) (Standing.afterRead own outcome)
      (s.read i outcome) .nothing := by
    rw [unread]
    exact .read own outcome known
  have ignorant : (g i).peer = none := by
    rw [unread]
    rfl
  cases outcome with
  | request request =>
      refine honest.shift happens ignorant ⟨rfl, rfl⟩ rfl rfl ⟨known, ?_⟩ (fun _ _ found => .inl ⟨found, rfl⟩)
        (fun _ _ _ found => .inl found)
      simp only [Scene.read, Function.update_self, Option.map_some]
  | rejected | failed | elapsed =>
      exact honest.shift happens ignorant ⟨rfl, rfl⟩ rfl rfl trivial (fun _ _ found => .inl ⟨found, rfl⟩)
        (fun _ _ _ found => .inl found)

theorem Honest.write (honest : Honest fleet address ledger teller s g) {frame : ServerResponse}
    (may : (g i).MayWrite frame) :
    Honest fleet address ledger teller (s.update (s.wrote i frame)) g := by
  refine ⟨honest.fits, honest.records, honest.waiters, honest.inbox, honest.found, honest.tellers,
    honest.told, honest.once, fun j other member paired => ?_⟩
  by_cases self : j = i
  · subst self
    simp only [Scene.update, Shared.wrote, Function.update_self, List.mem_append,
      List.mem_singleton] at member
    rcases member with before | rfl
    · exact honest.frames j other before paired
    · exact may
  · simp only [Scene.update, Shared.wrote, Function.update_of_ne self] at member
    exact honest.frames j other member paired

theorem Honest.await (honest : Honest fleet address ledger teller s g) {request : Request}
    {token : Uuid} {channel : Chan} (waiting : g i = .waiting request token channel)
    (waited : PeerWait) (there : ∀ peer, waited = .arrived peer → s.inbox channel = some peer) :
    Honest fleet address ledger teller s
      (Function.update g i (Standing.afterWait request token channel waited)) := by
  have happens : Happens fleet address i s (g i)
      (Standing.afterWait request token channel waited) s .nothing := by
    rw [waiting]
    exact .wait request token channel waited there
  have fits := honest.fits i
  rw [waiting] at fits
  obtain ⟨asked, rfl⟩ := fits
  refine honest.stand happens (by rw [waiting]; rfl) (Fewer.refl _) ?_
  cases waited with
  | arrived peer => exact ⟨asked, honest.inbox channel peer (there peer rfl)⟩
  | closed | elapsed => exact ⟨asked, rfl⟩

theorem Honest.store (honest : Honest fleet address ledger teller s g) {request : Request}
    {client : WaitingClient} {registry : Cluster} (asking : g i = .asking request)
    (happens : Happens fleet address i s (g i) standing (s.update { s.toShared with registry }) note)
    (own : client.connectionInfo = request.clientInfo)
    (records : ∀ n, registry.record n =
      if n = request.pairingName then some (.json client) else s.registry.record n)
    (waiters : ∀ k n, registry.waiter k n = s.registry.waiter k n)
    (next : standing = .calling request (.stored client.reconnectToken) ∨
      standing = .refused request) :
    Honest fleet address (ledger.add i (.stored (pairingKey request.pairingName))) teller
      (s.update { s.toShared with registry }) (Function.update g i standing) := by
  have asked := honest.fits i
  rw [asking] at asked
  have early : ¬ (g i).Enrolled := by
    rw [asking]
    exact id
  refine honest.shift happens (by rw [asking]; rfl) ⟨rfl, rfl⟩ rfl rfl ?_ ?_ ?_
  · rcases next with rfl | rfl
    · exact asked
    · exact asked
  · intro name other found
    simp only [Scene.update, records] at found
    split at found
    · rename_i same
      subst same
      obtain rfl := RedisValue.json.inj (Option.some.inj found)
      refine .inr ⟨Function.update_self .., ?_, fun k taken => early (honest.found k i taken).2.2.1,
        own ▸ asked.1, asked.2⟩
      rcases next with rfl | rfl <;> trivial
    · rename_i other
      exact .inl ⟨found, Function.update_of_ne (fun same => other (pairingKey_inj.mp same)) ..⟩
  · intro server name j found
    exact .inl ((waiters server name).symm.trans found)

theorem Honest.enter (honest : Honest fleet address ledger teller s g) {request : Request}
    {token : Uuid} {registry : Cluster} (stored : g i = .calling request (.stored token))
    (records : ∀ n, registry.record n = s.registry.record n)
    (waiters : ∀ k n, registry.waiter k n =
      if k = fleet.home i ∧ n = request.pairingName then some i else s.registry.waiter k n) :
    Honest fleet address ledger teller (s.update { s.toShared with registry })
      (Function.update g i (.waiting request token i)) := by
  have happens : Happens fleet address i s (g i) (.waiting request token i)
      (s.update { s.toShared with registry }) .nothing := by
    rw [stored]
    exact .enter request token registry records waiters
  have asked := honest.fits i
  rw [stored] at asked
  have untold : teller i = none := by
    cases rang : teller i with
    | none => rfl
    | some j =>
        have entered := (honest.tellers i j rang).2.1
        rw [stored] at entered
        exact entered.elim
  refine honest.shift happens (by rw [stored]; rfl) ⟨rfl, rfl⟩ rfl rfl ⟨asked, rfl⟩ ?_ ?_
  · intro name client found
    exact .inl ⟨(records name).symm.trans found, rfl⟩
  · intro server name j found
    simp only [Scene.update, waiters] at found
    split at found
    · rename_i here
      obtain ⟨rfl, rfl⟩ := here
      exact .inr ⟨(Option.some.inj found).symm, trivial, untold, rfl, asked.2⟩
    · exact .inl found

theorem Honest.send (honest : Honest fleet address ledger teller s g) {request : Request}
    {client : WaitingClient} {message : Notification}
    (ringing : g i = .calling request (.ringing client message.channel))
    (own : message.peer = request.clientInfo) :
    Honest fleet address (ledger.add i (.told message.channel)) teller
      (s.update { s.toShared with inbox := Shared.deliver s.inbox message })
      (Function.update g i (.matched request client.connectionInfo)) := by
  have happens : Happens fleet address i s (g i) (.matched request client.connectionInfo)
      (s.update { s.toShared with inbox := Shared.deliver s.inbox message }) (.told message.channel) := by
    rw [ringing]
    exact .send request client message own
  have fits := honest.fits i
  rw [ringing] at fits
  obtain ⟨asked, ⟨rang, unused⟩, origin⟩ := fits
  have more : ledger.told ⊆ ledger.told ++ [(message.channel, i)] := List.subset_append_left ..
  refine honest.step happens ⟨asked, origin⟩ ?_ rfl ?_ ?_ (fun _ _ found => .inl ⟨found, rfl⟩)
    (fun _ _ _ found => .inl found) ?_ ?_
  · intro j other
    refine (honest.fits j).mono (List.Subset.refl _) more fun k used => ?_
    rcases List.mem_append.mp used with used | used
    · exact used
    · cases List.mem_singleton.mp used
      exact absurd rfl other
  · intro j k used
    rcases List.mem_append.mp used with used | used
    · exact honest.told j k used
    · cases List.mem_singleton.mp used
      exact rang
  · refine honest.once.tell (fun k used => ?_) unused
    cases rang.symm.trans (honest.told _ _ used)
    exact unused _ used
  · intro j peer there
    simp only [Scene.update, Shared.deliver, Function.update_apply] at there
    have earlier : ∀ first, s.inbox j = some first →
        ∃ k, (j, k) ∈ ledger.told ++ [(message.channel, i)] ∧ address k = some first := by
      intro first before
      obtain ⟨k, used, own⟩ := honest.inbox j first before
      exact ⟨k, more used, own⟩
    split at there
    · rename_i self
      subst self
      cases before : s.inbox message.channel with
      | some first =>
          -- The first message stays.
          rw [before] at there
          obtain rfl := Option.some.inj there
          exact earlier first before
      | none =>
          rw [before] at there
          obtain rfl := Option.some.inj there
          exact ⟨i, List.mem_append_right _ (.head _), own ▸ asked.1⟩
    · exact earlier peer there
  · exact fun j frame member paired => .inl (honest.frames_of_others (ringing ▸ rfl) member paired)

theorem Honest.happening (honest : Honest fleet address ledger teller s g)
    (happens : Happens fleet address i s (g i) standing s' note) :
    ∃ teller', Honest fleet address (ledger.add i note) teller' s' (Function.update g i standing) := by
  have fits := honest.fits i
  have happened := happens
  generalize before : g i = stands at happens fits
  cases happens with
  | read own outcome known => exact ⟨teller, honest.read before known⟩
  | write _ frame may =>
      rw [← before, Function.update_eq_self]
      exact ⟨teller, honest.write (before ▸ may)⟩
  | wait request token channel waited there =>
      exact ⟨teller, honest.await before waited there⟩
  | idle _ shared fewer inbox frames =>
      refine ⟨teller, honest.step happened fits (fun j _ => honest.fits j) rfl honest.told honest.once
        (fun name client found => .inl ⟨fewer.records name client found, rfl⟩)
        (fun server name j found => .inl (fewer.waiters server name j found)) (inbox ▸ honest.inbox) ?_⟩
      intro j frame member paired
      simp only [Scene.update, frames] at member
      have may := honest.frames j frame member paired
      rcases eq_or_ne j i with rfl | other
      · exact .inr ⟨rfl, before ▸ may⟩
      · exact .inl ⟨other, may⟩
  | refuse _ request registry asked fewer =>
      have ignorant : stands.peer = none ∧ stands.request = some request := by
        rcases asked with rfl | ⟨progress, rfl⟩ <;> exact ⟨rfl, rfl⟩
      exact ⟨teller, honest.stand happened (before ▸ ignorant.1) fewer (fits.asked ignorant.2)⟩
  | store request client registry _ own records waiters next =>
      exact ⟨teller, honest.store before happened own records waiters next⟩
  | claim request client registry found fewer gone =>
      exact ⟨teller, honest.claim before found fewer gone⟩
  | enter request token registry records waiters =>
      exact ⟨teller, honest.enter before records waiters⟩
  | ring request client tx registry found fewer gone =>
      exact ⟨_, honest.ring before found fewer gone⟩
  | miss request client registry fewer =>
      exact ⟨teller, honest.stand happened (before ▸ rfl) fewer ⟨fits.1, fits.2.2⟩⟩
  | send request client message told => exact ⟨teller, honest.send before told⟩
  | leave request token channel registry fewer =>
      exact ⟨teller, honest.stand happened (before ▸ rfl) fewer fits.1⟩

theorem keepsHonest (fleet : Fleet) (address : Nat → Option PeerConnectionData) :
    Team.Keeps ((Scene.rules fleet.engine).watched Ledger.observe)
      (fun i => Methods.discipline (fleet.discipline i) (address i))
      (fun s g => ∃ teller, Honest fleet address s.2 teller s.1 g) := by
  apply keeps_of_happens
  · rintro s ledger g i standing s' note ⟨teller, honest⟩ happens
    exact honest.happening happens
  · rintro s ledger g registry ⟨teller, honest⟩ fewer
    exact ⟨teller, honest.fits,
      fun name client found => honest.records name client (fewer.records name client found),
      fun server name j found => honest.waiters server name j (fewer.waiters server name j found),
      honest.inbox, honest.found, honest.tellers, honest.told, honest.once, honest.frames⟩

/-- A connection that knows of a peer found its record, or was told by it. -/
theorem Honest.faces (honest : Honest fleet address ledger teller s g) {request : Request}
    {peer : PeerConnectionData} (has : (g i).request = some request) (knows : (g i).peer = some peer) :
    address i = some request.clientInfo ∧
      ∃ j, ((i, j) ∈ ledger.found ∨ (i, j) ∈ ledger.told) ∧ address j = some peer := by
  have fits := honest.fits i
  refine ⟨(fits.asked has).1, ?_⟩
  cases stands : g i with
  | matched request' peer' =>
      rw [stands] at fits knows
      cases knows
      obtain ⟨-, j, found, own⟩ := fits
      exact ⟨j, .inl found, own⟩
  | learned request' peer' =>
      rw [stands] at fits knows
      cases knows
      obtain ⟨-, j, told, own⟩ := fits
      exact ⟨j, .inr told, own⟩
  | unread | asking | calling | waiting | left | refused =>
      rw [stands] at knows
      cases knows

end Honesty

theorem start_honest (fleet : Fleet) (address : Nat → Option PeerConnectionData) :
    Honest fleet address Ledger.blank (fun _ => none) (Scene.start new) fun _ => .unread where
  fits _ := trivial
  records _ _ found := by cases found
  waiters _ _ _ found := by cases found
  inbox _ _ there := by cases there
  found _ _ member := by cases member
  tellers _ _ rang := by cases rang
  told _ _ member := by cases member
  once := ⟨List.nodup_nil, List.nodup_nil, List.nodup_nil, List.nodup_nil⟩
  frames _ _ member := by cases member

/-- However the commands of any number of servers interleave, whatever commands fail and
    whatever keys expire: a client that is told PAIRED is told its own address and the address
    of another client that asked for the same name. It took that client's record out of Redis, or
    that client sent its address through its sender. No record is found twice and no sender is
    used twice, nobody finds two records and nobody uses two senders. -/
theorem paired_clients_asked_for_one_name {fleet : Fleet} {roles : Nat → Role}
    {moves : List (Team.Move Nat (Way Fate) String)}
    {final : Team Nat (Scene Cluster) (ServerCall.Reply RedisCall.Reply) (Except IoError Unit)}
    (runs : Machine.run (Team.step (Scene.rules fleet.engine)) (fleet.start roles) moves = some final) :
    ∃ ledger, fleet.ledger roles moves = some ledger ∧ ledger.Once ∧
      (∀ i j, (i, j) ∈ ledger.found ∨ (i, j) ∈ ledger.told → i ≠ j ∧ SameName final.shared.received i j) ∧
      ∀ i, ∀ frame ∈ final.shared.frames i, frame.status = .paired →
        (roles i).address = some frame.yourInfo ∧
          ∃ j, ((i, j) ∈ ledger.found ∨ (i, j) ∈ ledger.told) ∧ frame.peerInfo = (roles j).address := by
  obtain ⟨watched, watches, rfl⟩ := Team.watched_of_run (fleet.watchedStart roles) runs
  have begins : Team.Orderly (fun i => Methods.discipline (fleet.discipline i) (roles i).address)
      (fun _ _ => True) (fun s g => ∃ teller, Honest fleet (fun i => (roles i).address) s.2 teller s.1 g)
      (fleet.watchedStart roles) :=
    ⟨_, ⟨_, start_honest fleet _⟩, fleet.start_obeys roles⟩
  obtain ⟨g, ⟨teller, honest⟩, -⟩ := begins.run (keepsHonest fleet _) watches
  refine ⟨watched.shared.2, ?_, honest.once, fun i j met => ?_, fun i frame member paired => ?_⟩
  · rw [Fleet.ledger, watches, Option.map_some]
  · rcases met with found | told
    · obtain ⟨apart, -, -, same⟩ := honest.found i j found
      exact ⟨apart, same⟩
    · obtain ⟨apart, -, -, same, -⟩ := honest.tellers i j (honest.told i j told)
      exact ⟨apart, same⟩
  · obtain ⟨request, peer, has, knows, own, told⟩ :=
      (honest.frames i frame member paired).of_paired paired
    obtain ⟨known, j, met, address⟩ := honest.faces has knows
    exact ⟨own ▸ known, j, met, told.trans address.symm⟩

/-- Clients 0 and 3 are on one server, clients 1 and 2 on another. -/
def twoServers : Fleet where
  config server := ⟨60 * 10 ^ 9, if server = 0 then "a" else "b"⟩
  home i := if i = 0 ∨ i = 3 then 0 else 1
  entropy := ⟨fun i => ⟨BitVec.ofNat 128 i⟩, fun _ => 0, fun _ => 0⟩

def fourPeers : Nat → Role
  | 0 => .connection (.v4 ⟨10, 0, 0, 0⟩ 4000)
  | 1 => .connection (.v4 ⟨10, 0, 0, 1⟩ 4000)
  | 2 => .connection (.v4 ⟨10, 0, 0, 2⟩ 4000)
  | 3 => .connection (.v4 ⟨10, 0, 0, 3⟩ 4000)
  | _ => .cleanup

/-- Client 1 finds the record of client 0 but not its sender; client 3 finds the record of
    client 2 and the sender of client 0. -/
def crossing : List (Team.Move Nat (Way Fate) String) :=
  let asks i := .task i (.read (.request ⟨"room", none⟩))
  let command i := .task i (.registry .served)
  let writes i := .task i (.write (.ok ()))
  [asks 0, command 0, command 0, command 0, command 0, writes 0,
    asks 1, command 1, command 1, command 1, command 1, writes 1,
    asks 2, command 2, command 2, command 2, command 2, writes 2,
    asks 3, command 3, command 3, command 3, .task 3 .send, writes 3,
    .task 0 .arrived, writes 0]

theorem crossing_tells_a_chain :
    ∃ final ledger, Machine.run (Team.step (Scene.rules twoServers.engine)) (twoServers.start fourPeers)
        crossing = some final ∧
      twoServers.ledger fourPeers crossing = some ledger ∧ ledger.Once ∧
      ledger.found = [(1, 0), (3, 2)] ∧ ledger.told = [(0, 3)] ∧
      (∀ i j, (i, j) ∈ [(1, 0), (3, 2)] ∨ (i, j) ∈ [(0, 3)] → SameName final.shared.received i j) ∧
      final.shared.frames 0 = [.waiting ⟨⟨10, 0, 0, 0⟩, 4000⟩ ⟨0⟩,
        .paired ⟨⟨10, 0, 0, 0⟩, 4000⟩ ⟨⟨10, 0, 0, 3⟩, 4000⟩ ⟨0⟩] := by
  have ends : (Machine.run (Team.step (Scene.rules twoServers.engine)) (twoServers.start fourPeers)
      crossing).map (fun final => final.shared.frames 0) =
      some [.waiting ⟨⟨10, 0, 0, 0⟩, 4000⟩ ⟨0⟩,
        .paired ⟨⟨10, 0, 0, 0⟩, 4000⟩ ⟨⟨10, 0, 0, 3⟩, 4000⟩ ⟨0⟩] := by decide +kernel
  have notes : (twoServers.ledger fourPeers crossing).map (fun ledger => (ledger.found, ledger.told)) =
      some ([(1, 0), (3, 2)], [(0, 3)]) := by decide +kernel
  obtain ⟨final, runs, frames⟩ := Option.map_eq_some_iff.mp ends
  obtain ⟨ledger, written, once, met, -⟩ := paired_clients_asked_for_one_name runs
  rw [written, Option.map_some, Option.some.injEq, Prod.mk.injEq] at notes
  obtain ⟨found, told⟩ := notes
  refine ⟨final, ledger, runs, written, once, found, told, fun i j pair => ?_, frames⟩
  rw [← found, ← told] at pair
  exact (met i j pair).2

end TCPunch.RedisRegistry
