import TCPunch.Server.Concurrent

/-! # Who is matched with whom

However the steps of the in-memory server interleave, the connections that are told PAIRED
are matched two by two. The invariant inherits the senders: a sender is in an entry, or in
the hands of the one registration that took the entry out, or used up.
-/

namespace TCPunch.InMemoryRegistry

variable (config : RegistryConfig) (entropy : Entropy)

section Matching

variable (address : Nat → Option PeerConnectionData) (partner : Nat → Option Nat)

/-- What is known of connection `i` where it stands. -/
def Fits (received : Option ClientRequest) (inbox : Chan → Option PeerConnectionData) (i : Nat) :
    Standing Progress → Prop
  | .unread => partner i = none
  | .asking request => Asked address received i request ∧ partner i = none
  | .calling request (.holding entry) =>
      Asked address received i request ∧ ∃ j, partner i = some j ∧ entry.notifyTx = some j ∧
        address j = some entry.waitingClient.connectionInfo ∧ inbox j = none
  | .calling request .entered => Asked address received i request
  | .matched request peer =>
      Asked address received i request ∧ ∃ j, partner i = some j ∧ address j = some peer ∧
        inbox j = some request.clientInfo
  | .waiting request _ channel => Asked address received i request ∧ channel = i
  | .learned request peer => Asked address received i request ∧ inbox i = some peer
  | .left request _ => Asked address received i request
  | .refused request => Asked address received i request

/-- The connection has put an entry with its address under a name, or has taken one over. -/
def Posted (name : String) (info : PeerConnectionData) : Standing Progress → Prop
  | .calling request .entered => request.pairingName = name ∧ request.clientInfo = info
  | .waiting request _ _ => request.pairingName = name ∧ request.clientInfo = info
  | _ => False

/-- The connection has sent its address to the client whose entry it found. -/
def Spoke : Standing Progress → Prop
  | .matched _ _ => True
  | _ => False

/-- Connections are matched two by two, and nobody is told anything else. -/
structure Matched (s : Scene InMemoryRegistry) (g : Nat → Standing Progress) : Prop where
  fits : ∀ i, Fits address partner (s.received i) s.inbox i (g i)
  /-- An entry is that of a connection without a partner. -/
  entries : ∀ name entry, s.registry.pairings.lookup name = some entry →
    ∃ i, entry.notifyTx = some i ∧ partner i = none ∧
      Posted name entry.waitingClient.connectionInfo (g i)
  /-- A message is from the partner. -/
  inbox : ∀ i peer, s.inbox i = some peer →
    ∃ j, partner i = some j ∧ address j = some peer ∧ Spoke (g j)
  pairs : ∀ i j, partner i = some j → partner j = some i ∧ i ≠ j ∧
    ∃ name, (s.received i).map ClientRequest.pairingName = some name ∧
      (s.received j).map ClientRequest.pairingName = some name
  frames : ∀ i, ∀ frame ∈ s.frames i, frame.status = .paired → (g i).MayWrite frame

variable {address partner} {s : Scene InMemoryRegistry} {g : Nat → Standing Progress}

theorem Matched.move (matched : Matched address partner s g) {s' : Scene InMemoryRegistry} {i : Nat}
    {standing : Standing Progress} (fits : Fits address partner (s'.received i) s'.inbox i standing)
    (others : ∀ j, j ≠ i → Fits address partner (s'.received j) s'.inbox j (g j))
    (received : ∀ j, partner j ≠ none → s'.received j = s.received j)
    (entries : ∀ name entry, s'.registry.pairings.lookup name = some entry →
      (∃ j, j ≠ i ∧ entry.notifyTx = some j ∧ partner j = none ∧
        Posted name entry.waitingClient.connectionInfo (g j)) ∨
      (entry.notifyTx = some i ∧ partner i = none ∧
        Posted name entry.waitingClient.connectionInfo standing))
    (inbox : ∀ j peer, s'.inbox j = some peer → ∃ k, partner j = some k ∧ address k = some peer ∧
      (k ≠ i ∧ Spoke (g k) ∨ k = i ∧ Spoke standing))
    (frames : ∀ j, ∀ frame ∈ s'.frames j, frame.status = .paired →
      j ≠ i ∧ (g j).MayWrite frame ∨ j = i ∧ standing.MayWrite frame) :
    Matched address partner s' (Function.update g i standing) := by
  constructor
  · intro j
    by_cases self : j = i
    · subst self
      rw [Function.update_self]
      exact fits
    · rw [Function.update_of_ne self]
      exact others j self
  · intro name entry found
    rcases entries name entry found with ⟨j, other, sender, free, posted⟩ | ⟨sender, free, posted⟩
    · exact ⟨j, sender, free, by rwa [Function.update_of_ne other]⟩
    · exact ⟨i, sender, free, by rwa [Function.update_self]⟩
  · intro j peer there
    obtain ⟨k, met, own, ⟨other, spoke⟩ | ⟨rfl, spoke⟩⟩ := inbox j peer there
    · exact ⟨k, met, own, by rwa [Function.update_of_ne other]⟩
    · exact ⟨k, met, own, by rwa [Function.update_self]⟩
  · intro a b met
    obtain ⟨back, apart, name, first, second⟩ := matched.pairs a b met
    refine ⟨back, apart, name, ?_, ?_⟩
    · rw [received a (by simp [met])]
      exact first
    · rw [received b (by simp [back])]
      exact second
  · intro j frame member paired
    rcases frames j frame member paired with ⟨other, may⟩ | ⟨rfl, may⟩
    · rwa [Function.update_of_ne other]
    · rwa [Function.update_self]

/-- What is left of a connection's knowledge when it moves from one standing to the next. -/
structure Inherits (standing standing' : Standing Progress) : Prop where
  spoke : Spoke standing → Spoke standing'
  frames : ∀ frame, frame.status = .paired → standing.MayWrite frame → standing'.MayWrite frame

theorem Inherits.refl (standing : Standing Progress) : Inherits standing standing :=
  ⟨id, fun _ _ may => may⟩

theorem Inherits.of_ignorant {standing : Standing Progress} (ignorant : standing.peer = none)
    (standing' : Standing Progress) : Inherits standing standing' := by
  constructor
  · intro spoke
    cases standing with
    | matched request peer => cases ignorant
    | unread | asking | calling | waiting | learned | left | refused => exact spoke.elim
  · intro frame paired may
    exact absurd paired (may.not_paired ignorant)

theorem Matched.shift (matched : Matched address partner s g) {s' : Scene InMemoryRegistry} {i : Nat}
    {standing : Standing Progress} (fits : Fits address partner (s'.received i) s.inbox i standing)
    (received : ∀ j, j = i ∧ partner i = none ∨ s'.received j = s.received j)
    (inbox : s'.inbox = s.inbox) (frames : s'.frames = s.frames) (inherits : Inherits (g i) standing)
    (entries : ∀ name entry, s'.registry.pairings.lookup name = some entry →
      (∃ j, j ≠ i ∧ entry.notifyTx = some j ∧ partner j = none ∧
        Posted name entry.waitingClient.connectionInfo (g j)) ∨
      (entry.notifyTx = some i ∧ partner i = none ∧
        Posted name entry.waitingClient.connectionInfo standing)) :
    Matched address partner s' (Function.update g i standing) := by
  refine matched.move (inbox ▸ fits) ?_ ?_ entries ?_ ?_
  · intro j other
    rcases received j with ⟨self, -⟩ | same
    · exact absurd self other
    · rw [same, inbox]
      exact matched.fits j
  · intro j taken
    rcases received j with ⟨rfl, free⟩ | same
    · exact absurd free taken
    · exact same
  · intro j peer there
    rw [inbox] at there
    obtain ⟨k, met, own, spoke⟩ := matched.inbox j peer there
    by_cases self : k = i
    · subst self
      exact ⟨k, met, own, .inr ⟨rfl, inherits.spoke spoke⟩⟩
    · exact ⟨k, met, own, .inl ⟨self, spoke⟩⟩
  · intro j frame member paired
    rw [frames] at member
    have may := matched.frames j frame member paired
    by_cases self : j = i
    · subst self
      exact .inr ⟨rfl, inherits.frames frame paired may⟩
    · exact .inl ⟨self, may⟩

theorem Matched.stand (matched : Matched address partner s g) {i : Nat}
    {shared : Shared InMemoryRegistry} {standing : Standing Progress}
    (inbox : shared.inbox = s.inbox) (frames : shared.frames = s.frames)
    (fits : Fits address partner (s.received i) s.inbox i standing) (inherits : Inherits (g i) standing)
    (kept : ∀ name entry, shared.registry.pairings.lookup name = some entry →
      s.registry.pairings.lookup name = some entry ∧
        (partner i = none → Posted name entry.waitingClient.connectionInfo (g i) →
          Posted name entry.waitingClient.connectionInfo standing)) :
    Matched address partner (s.update shared) (Function.update g i standing) := by
  refine matched.shift fits (fun _ => .inr rfl) inbox frames inherits fun name entry found => ?_
  obtain ⟨before, posted⟩ := kept name entry found
  obtain ⟨j, sender, free, here⟩ := matched.entries name entry before
  by_cases self : j = i
  · subst self
    exact .inr ⟨sender, free, posted free here⟩
  · exact .inl ⟨j, self, sender, free, here⟩

theorem Matched.entries_of_silent (matched : Matched address partner s g) {i : Nat}
    (silent : ∀ name info, ¬ Posted name info (g i)) {name : String} {entry : PairingEntry}
    (found : s.registry.pairings.lookup name = some entry) :
    ∃ j, j ≠ i ∧ entry.notifyTx = some j ∧ partner j = none ∧
      Posted name entry.waitingClient.connectionInfo (g j) := by
  obtain ⟨j, sender, free, posted⟩ := matched.entries name entry found
  refine ⟨j, ?_, sender, free, posted⟩
  rintro rfl
  exact silent _ _ posted

theorem Matched.read (matched : Matched address partner s g) {i : Nat} (unread : g i = .unread)
    {own : PeerConnectionData} (known : address i = some own) (outcome : ReadOutcome) :
    Matched address partner (s.read i outcome)
      (Function.update g i (Standing.afterRead own outcome)) := by
  have single : partner i = none := by
    have fits := matched.fits i
    rwa [unread] at fits
  have silent : ∀ name info, ¬ Posted name info (g i) := by
    intro name info posted
    rwa [unread] at posted
  have inherits : Inherits (g i) (Standing.afterRead own outcome) := by
    rw [unread]
    exact Inherits.of_ignorant rfl _
  cases outcome with
  | request request =>
      refine matched.shift ⟨⟨known, ?_⟩, single⟩ ?_ rfl rfl inherits
        fun name entry found => .inl (matched.entries_of_silent silent found)
      · simp only [Scene.read, Function.update_self, Option.map_some]
      · intro j
        by_cases self : j = i
        · exact .inl ⟨self, single⟩
        · exact .inr (Function.update_of_ne self ..)
  | rejected | failed | elapsed =>
      exact matched.shift single (fun _ => .inr rfl) rfl rfl inherits
        fun name entry found => .inl (matched.entries_of_silent silent found)

theorem Matched.write (matched : Matched address partner s g) {i : Nat} {frame : ServerResponse}
    (may : (g i).MayWrite frame) : Matched address partner (s.update (s.wrote i frame)) g := by
  refine ⟨matched.fits, matched.entries, matched.inbox, matched.pairs, fun j other member paired => ?_⟩
  by_cases self : j = i
  · subst self
    simp only [Scene.update, Shared.wrote, Function.update_self, List.mem_append,
      List.mem_singleton] at member
    rcases member with before | rfl
    · exact matched.frames j other before paired
    · exact may
  · simp only [Scene.update, Shared.wrote, Function.update_of_ne self] at member
    exact matched.frames j other member paired

theorem Matched.await (matched : Matched address partner s g) {i : Nat} {request : Request}
    {token : Uuid} {channel : Chan} (waiting : g i = .waiting request token channel)
    (waited : PeerWait) (there : ∀ peer, waited = .arrived peer → s.inbox channel = some peer) :
    Matched address partner s
      (Function.update g i (Standing.afterWait request token channel waited)) := by
  have fits := matched.fits i
  rw [waiting] at fits
  obtain ⟨asked, rfl⟩ := fits
  have inherits : Inherits (g channel) (Standing.afterWait request token channel waited) := by
    rw [waiting]
    exact Inherits.of_ignorant rfl _
  cases waited with
  | arrived peer =>
      refine matched.stand rfl rfl ⟨asked, there peer rfl⟩ inherits fun name entry found => ⟨found, fun free => ?_⟩
      obtain ⟨j, met, -⟩ := matched.inbox channel peer (there peer rfl)
      rw [free] at met
      cases met
  | closed | elapsed =>
      refine matched.stand rfl rfl ⟨asked, rfl⟩ inherits fun name entry found => ⟨found, fun _ posted => ?_⟩
      rwa [waiting] at posted

theorem Matched.send (matched : Matched address partner s g) {i : Nat} {request : Request}
    {entry : PairingEntry} {message : Notification} (holding : g i = .calling request (.holding entry))
    (sender : entry.notifyTx = some message.channel) (told : message.peer = request.clientInfo) :
    Matched address partner (s.update { s.toShared with inbox := Shared.deliver s.inbox message })
      (Function.update g i (.matched request entry.waitingClient.connectionInfo)) := by
  have fits := matched.fits i
  rw [holding] at fits
  obtain ⟨asked, j, met, sender', own, empty⟩ := fits
  obtain rfl : message.channel = j := Option.some.inj (sender.symm.trans sender')
  have delivered : ∀ k, Shared.deliver s.inbox message k =
      if k = message.channel then some request.clientInfo else s.inbox k := by
    intro k
    simp only [Shared.deliver, Function.update_apply, empty, Option.getD_none, told]
  have back := (matched.pairs i _ met).1
  refine matched.move ⟨asked, _, met, own, ?_⟩ ?_ (fun _ _ => rfl) ?_ ?_ ?_
  · simp only [Scene.update, delivered, if_true]
  · intro k other
    have before := matched.fits k
    -- Nobody else is matched with the connection that the message goes to.
    have apart : ∀ l, partner k = some l → l ≠ message.channel := by
      rintro l met' rfl
      have back' := (matched.pairs k _ met').1
      rw [back] at back'
      exact other (Option.some.inj back').symm
    cases stands : g k with
    | calling request' progress =>
        rw [stands] at before
        cases progress with
        | entered => exact before
        | holding entry' =>
            obtain ⟨asked', l, met', rest⟩ := before
            refine ⟨asked', l, met', ?_⟩
            simpa only [Scene.update, delivered, if_neg (apart l met')] using rest
    | matched request' peer =>
        rw [stands] at before
        obtain ⟨asked', l, met', rest⟩ := before
        refine ⟨asked', l, met', ?_⟩
        simpa only [Scene.update, delivered, if_neg (apart l met')] using rest
    | learned request' peer =>
        rw [stands] at before
        have notHere : k ≠ message.channel := by
          rintro rfl
          cases before.2.symm.trans empty
        refine ⟨before.1, ?_⟩
        simpa only [Scene.update, delivered, if_neg notHere] using before.2
    | unread | asking | waiting | left | refused =>
        rw [stands] at before
        exact before
  · intro name other found
    refine .inl (matched.entries_of_silent ?_ found)
    intro name info posted
    rwa [holding] at posted
  · intro k peer there
    simp only [Scene.update, delivered] at there
    split at there
    · rename_i self
      subst self
      exact ⟨i, back, asked.1.trans there, .inr ⟨rfl, trivial⟩⟩
    · obtain ⟨l, met', own', spoke⟩ := matched.inbox k peer there
      refine ⟨l, met', own', .inl ⟨?_, spoke⟩⟩
      rintro rfl
      rw [holding] at spoke
      exact spoke
  · intro k frame member paired
    have may := matched.frames k frame member paired
    refine .inl ⟨?_, may⟩
    rintro rfl
    rw [holding] at may
    exact may.not_paired rfl paired

theorem Fits.congr {partner' : Nat → Option Nat} {received : Option ClientRequest}
    {inbox : Chan → Option PeerConnectionData} {i : Nat} {standing : Standing Progress}
    (same : partner' i = partner i) (fits : Fits address partner received inbox i standing) :
    Fits address partner' received inbox i standing := by
  cases standing with
  | calling request progress =>
      cases progress with
      | holding entry => simpa only [Fits, same] using fits
      | entered => exact fits
  | unread | asking | matched | waiting | learned | left | refused =>
      simpa only [Fits, same] using fits

section Posting

variable {received : Option ClientRequest} {inbox : Chan → Option PeerConnectionData} {i : Nat}
  {name : String} {info : PeerConnectionData} {standing : Standing Progress}

theorem Fits.asked_of_posted (fits : Fits address partner received inbox i standing)
    (posted : Posted name info standing) :
    address i = some info ∧ received.map ClientRequest.pairingName = some name := by
  cases standing with
  | calling request progress =>
      cases progress with
      | holding entry => exact posted.elim
      | entered =>
          obtain ⟨rfl, rfl⟩ := posted
          exact fits
  | waiting request token channel =>
      obtain ⟨rfl, rfl⟩ := posted
      exact fits.1
  | unread | asking | matched | learned | left | refused => exact posted.elim

theorem Fits.of_posted (partner' : Nat → Option Nat)
    (fits : Fits address partner received inbox i standing) (posted : Posted name info standing) :
    Fits address partner' received inbox i standing := by
  cases standing with
  | calling request progress =>
      cases progress with
      | holding entry => exact posted.elim
      | entered => exact fits
  | waiting request token channel => exact fits
  | unread | asking | matched | learned | left | refused => exact posted.elim

end Posting

/-- Connection `i` takes the entry under its name out of the map. -/
theorem Matched.meet (matched : Matched address partner s g) {i : Nat} {request : Request}
    {entry : PairingEntry} {registry : InMemoryRegistry} (asking : g i = .asking request)
    (found : s.registry.pairings.lookup request.pairingName = some entry)
    (erased : registry.pairings = s.registry.pairings.erase request.pairingName) :
    ∃ partner', Matched address partner' (s.update { s.toShared with registry })
      (Function.update g i (.calling request (.holding entry))) := by
  obtain ⟨j, sender, free, posted⟩ := matched.entries _ _ found
  have fits := matched.fits i
  rw [asking] at fits
  obtain ⟨asked, single⟩ := fits
  have silent : ∀ name info, ¬ Posted name info (g i) := by
    intro name info posted
    rwa [asking] at posted
  have apart : i ≠ j := by
    rintro rfl
    exact silent _ _ posted
  obtain ⟨own, named⟩ := (matched.fits j).asked_of_posted posted
  have empty : s.inbox j = none := by
    cases there : s.inbox j with
    | none => rfl
    | some peer =>
        obtain ⟨k, met, -⟩ := matched.inbox j peer there
        rw [free] at met
        cases met
  let partner' := Function.update (Function.update partner i (some j)) j (some i)
  have ofI : partner' i = some j := by
    simp only [partner', Function.update_of_ne apart, Function.update_self]
  have ofJ : partner' j = some i := Function.update_self ..
  have others : ∀ k, k ≠ i → k ≠ j → partner' k = partner k := by
    intro k notI notJ
    simp only [partner', Function.update_of_ne notJ, Function.update_of_ne notI]
  have grown : ∀ k l, partner k = some l → partner' k = some l := by
    intro k l met
    rw [others k ?_ ?_, met]
    · rintro rfl; rw [single] at met; cases met
    · rintro rfl; rw [free] at met; cases met
  refine ⟨partner', ?_, ?_, ?_, ?_, ?_⟩
  · intro k
    by_cases self : k = i
    · subst self
      rw [Function.update_self]
      exact ⟨asked, j, ofI, sender, own, empty⟩
    · rw [Function.update_of_ne self]
      by_cases other : k = j
      · subst other
        exact (matched.fits k).of_posted partner' posted
      · exact (matched.fits k).congr (others k self other)
  · intro name other there
    simp only [Scene.update, erased] at there
    obtain ⟨apart', there⟩ := FiniteMap.of_lookup_erase there
    obtain ⟨k, notI, sender', free', posted'⟩ := matched.entries_of_silent silent there
    have notJ : k ≠ j := by
      rintro rfl
      have named' := ((matched.fits k).asked_of_posted posted').2
      rw [named] at named'
      exact apart' (Option.some.inj named').symm
    exact ⟨k, sender', by rw [others k notI notJ, free'], by rwa [Function.update_of_ne notI]⟩
  · intro k peer there
    obtain ⟨l, met, own', spoke⟩ := matched.inbox k peer there
    refine ⟨l, grown k l met, own', ?_⟩
    rw [Function.update_of_ne]
    · exact spoke
    · rintro rfl
      rw [asking] at spoke
      exact spoke
  · intro a b met
    by_cases first : a = i
    · subst first
      obtain rfl : j = b := Option.some.inj (ofI.symm.trans met)
      exact ⟨ofJ, apart, request.pairingName, asked.2, named⟩
    · by_cases second : a = j
      · subst second
        obtain rfl : i = b := Option.some.inj (ofJ.symm.trans met)
        exact ⟨ofI, apart.symm, request.pairingName, named, asked.2⟩
      · rw [others a first second] at met
        obtain ⟨back, rest⟩ := matched.pairs a b met
        exact ⟨grown b a back, rest⟩
  · intro k frame member paired
    have may := matched.frames k frame member paired
    rw [Function.update_of_ne]
    · exact may
    · rintro rfl
      rw [asking] at may
      exact may.not_paired rfl paired

/-- Connection `i` writes its own sender and address into the entry under its name. -/
theorem Matched.post (matched : Matched address partner s g) {i : Nat} {request : Request}
    {entry : PairingEntry} {standing : Standing Progress} {registry : InMemoryRegistry}
    (asking : g i = .asking request)
    (inserted : registry.pairings = s.registry.pairings.insert request.pairingName entry)
    (sender : entry.notifyTx = some i) (own : entry.waitingClient.connectionInfo = request.clientInfo)
    (fits : Asked address (s.received i) i request →
      Fits address partner (s.received i) s.inbox i standing)
    (posted : Posted request.pairingName request.clientInfo standing) :
    Matched address partner (s.update { s.toShared with registry })
      (Function.update g i standing) := by
  have before := matched.fits i
  rw [asking] at before
  obtain ⟨asked, single⟩ := before
  have inherits : Inherits (g i) standing := by
    rw [asking]
    exact Inherits.of_ignorant rfl _
  refine matched.shift (fits asked) (fun _ => .inr rfl) rfl rfl inherits fun name other found => ?_
  simp only [Scene.update, inserted] at found
  rcases FiniteMap.of_lookup_insert found with ⟨rfl, rfl⟩ | ⟨-, found⟩
  · exact .inr ⟨sender, single, by rwa [own]⟩
  · refine .inl (matched.entries_of_silent ?_ found)
    intro name info posted
    rwa [asking] at posted

theorem Matched.happening {i : Nat} {standing : Standing Progress} {s' : Scene InMemoryRegistry}
    (matched : Matched address partner s g)
    (happens : Happens config entropy address i s (g i) standing s') :
    ∃ partner', Matched address partner' s' (Function.update g i standing) := by
  have fits := matched.fits i
  generalize before : g i = stands at happens fits
  cases happens with
  | read own outcome known => exact ⟨partner, matched.read before known outcome⟩
  | write _ frame may =>
      rw [← before, Function.update_eq_self]
      exact ⟨partner, matched.write (before ▸ may)⟩
  | wait request token channel waited there => exact ⟨partner, matched.await before waited there⟩
  | idle _ shared same inbox frames =>
      refine ⟨partner, matched.stand inbox frames fits ?_ fun name entry found => ⟨same ▸ found, ?_⟩⟩
      · rw [before]
        exact Inherits.refl _
      · rw [before]
        exact fun _ posted => posted
  | resume request token entry registry found own inserted =>
      exact ⟨partner, matched.post before inserted rfl rfl (fun asked => ⟨asked, rfl⟩) ⟨rfl, rfl⟩⟩
  | take request entry registry found erased => exact matched.meet before found erased
  | enter request entry registry first inserted =>
      subst first
      exact ⟨partner, matched.post before inserted rfl rfl id ⟨rfl, rfl⟩⟩
  | announce request registry same =>
      refine ⟨partner, matched.stand rfl rfl ⟨fits, rfl⟩ ?_ fun name entry found => ⟨same ▸ found, fun _ posted => ?_⟩⟩
      · rw [before]
        exact Inherits.of_ignorant rfl _
      · rwa [before] at posted
  | leave request token channel registry erased =>
      -- Whatever entry is there, an entry of its own is gone afterwards.
      refine ⟨partner, matched.stand rfl rfl fits.1 ?_ fun name entry found => ?_⟩
      · rw [before]
        exact Inherits.of_ignorant rfl _
      · rw [erased] at found
        obtain ⟨apart, found⟩ := FiniteMap.of_lookup_erase found
        refine ⟨found, fun _ posted => ?_⟩
        rw [before] at posted
        exact absurd posted.1.symm apart
  | send request entry message sender told => exact ⟨partner, matched.send before sender told⟩
  | silent request entry registry sender same =>
      obtain ⟨-, j, -, sender', -⟩ := fits
      rw [sender] at sender'
      cases sender'

variable (address) in
theorem keepsMatched : Team.Keeps (Scene.rules (engine config))
    (fun i => Methods.discipline (discipline config entropy i) (address i))
    (fun s g => ∃ partner, Matched address partner s g) := by
  apply keeps_of_happens
  · rintro s g i standing s' ⟨partner, matched⟩ happens
    exact matched.happening config entropy happens
  · rintro s g registry ⟨partner, matched⟩ fewer
    exact ⟨partner, matched.fits, fun name entry found => matched.entries name entry (fewer name entry found),
      matched.inbox, matched.pairs, matched.frames⟩

theorem Matched.faces (matched : Matched address partner s g) {i : Nat} {request : Request}
    {peer : PeerConnectionData} (asked : (g i).request = some request) (knows : (g i).peer = some peer) :
    address i = some request.clientInfo ∧ ∃ j, partner i = some j ∧ address j = some peer := by
  have fits := matched.fits i
  cases stands : g i with
  | matched request' peer' =>
      rw [stands] at fits asked knows
      cases asked
      cases knows
      obtain ⟨asked, j, met, own, -⟩ := fits
      exact ⟨asked.1, j, met, own⟩
  | learned request' peer' =>
      rw [stands] at fits asked knows
      cases asked
      cases knows
      obtain ⟨asked, there⟩ := fits
      obtain ⟨j, met, own, -⟩ := matched.inbox i peer there
      exact ⟨asked.1, j, met, own⟩
  | unread | asking | calling | waiting | left | refused =>
      rw [stands] at knows
      cases knows

end Matching

variable {config entropy} {peers : Nat → SocketAddr}

theorem start_matched (address : Nat → Option PeerConnectionData) :
    Matched address (fun _ => none) (Scene.start new) fun _ => .unread := by
  constructor
  · intro i
    rfl
  · intro name entry found
    cases found
  · intro i peer there
    cases there
  · intro i j met
    cases met
  · intro i frame member
    cases member

/-- Once a connection was told PAIRED, its partner cannot give up waiting. -/
theorem Matched.no_giveUp {address : Nat → Option PeerConnectionData} {partner : Nat → Option Nat}
    {g : Nat → Standing Progress} {team : Team Nat (Scene InMemoryRegistry)
      (ServerCall.Reply MapCall.Reply) (Except IoError Unit)}
    (matched : Matched address partner team.shared g)
    (obey : ∀ i, (team.task i).Obeys (Methods.discipline (discipline config entropy i) (address i))
      (fun _ _ => True) (g i))
    {i j : Nat} (met : partner i = some j)
    (told : ∃ frame ∈ team.shared.frames i, frame.status = .paired) {way : Way Unit}
    (givesUp : way = .elapsed ∨ way = .closed) :
    Team.step (Scene.rules (engine config)) team (.task j way) = none := by
  by_contra steps
  obtain ⟨team', taken⟩ := Option.ne_none_iff_exists'.mp steps
  rcases Team.step_cases taken with ⟨_, _, call, next, reply, s, same, pending, answered, -⟩ | ⟨_, _, same, -⟩
  · cases same
    obtain ⟨channel, rfl, empty⟩ := Scene.awaits_of_giveUp givesUp answered
    have keeps := obey j
    rw [pending] at keeps
    obtain ⟨⟨request, token, waiting⟩, -⟩ := keeps
    have here := matched.fits j
    rw [waiting] at here
    obtain ⟨-, rfl⟩ := here
    obtain ⟨frame, member, paired⟩ := told
    obtain ⟨request', peer, -, knows, -⟩ := (matched.frames i frame member paired).of_paired paired
    have fits := matched.fits i
    cases stands : g i with
    | matched request'' peer' =>
        rw [stands] at fits
        obtain ⟨-, k, met', -, there⟩ := fits
        obtain rfl : channel = k := Option.some.inj (met.symm.trans met')
        rw [empty] at there
        cases there
    | learned request'' peer' =>
        rw [stands] at fits
        obtain ⟨k, met', -, spoke⟩ := matched.inbox i peer' fits.2
        obtain rfl : channel = k := Option.some.inj (met.symm.trans met')
        rw [waiting] at spoke
        exact spoke
    | unread | asking | calling | waiting | left | refused =>
        rw [stands] at knows
        cases knows
  · cases same

theorem matched_of_run {moves : List (Team.Move Nat (Way Unit) (String × Instant))}
    {final : Team Nat (Scene InMemoryRegistry) (ServerCall.Reply MapCall.Reply) (Except IoError Unit)}
    (runs : Run config entropy peers moves = some final) :
    ∃ g partner, Matched (fun i => PeerConnectionData.fromSocketAddr (peers i)) partner final.shared g ∧
      ∀ i, (final.task i).Obeys (Methods.discipline (discipline config entropy i)
        (PeerConnectionData.fromSocketAddr (peers i))) (fun _ _ => True) (g i) := by
  obtain ⟨g, ⟨partner, matched⟩, obey⟩ := Team.Orderly.run
    ⟨_, ⟨_, start_matched _⟩, start_obeys config entropy peers⟩ (keepsMatched config entropy _) runs
  exact ⟨g, partner, matched, obey⟩

/-- However reads, writes, map calls, messages and cleanups interleave, the connections that
    are told PAIRED are matched two by two under one name, each is told its own address and
    the address of its partner, and from then on a partner that still waits cannot give up. -/
theorem paired_connections_are_matched {moves : List (Team.Move Nat (Way Unit) (String × Instant))}
    {final : Team Nat (Scene InMemoryRegistry) (ServerCall.Reply MapCall.Reply) (Except IoError Unit)}
    (runs : Run config entropy peers moves = some final) :
    ∃ partner : Nat → Option Nat,
      (∀ i j, partner i = some j → partner j = some i ∧ i ≠ j ∧
        ∃ name, (final.shared.received i).map ClientRequest.pairingName = some name ∧
          (final.shared.received j).map ClientRequest.pairingName = some name) ∧
      ∀ i, ∀ frame ∈ final.shared.frames i, frame.status = .paired →
        ∃ j, partner i = some j ∧
          PeerConnectionData.fromSocketAddr (peers i) = some frame.yourInfo ∧
          frame.peerInfo = PeerConnectionData.fromSocketAddr (peers j) ∧
          Team.step (Scene.rules (engine config)) final (.task j .elapsed) = none ∧
          Team.step (Scene.rules (engine config)) final (.task j .closed) = none := by
  obtain ⟨g, partner, matched, obey⟩ := matched_of_run runs
  refine ⟨partner, matched.pairs, fun i frame member paired => ?_⟩
  obtain ⟨request, peer, asked, knows, own, told⟩ :=
    (matched.frames i frame member paired).of_paired paired
  obtain ⟨known, j, met, address⟩ := matched.faces asked knows
  refine ⟨j, met, by rw [own]; exact known, told.trans address.symm, ?_, ?_⟩
  · exact matched.no_giveUp obey met ⟨frame, member, paired⟩ (.inl rfl)
  · exact matched.no_giveUp obey met ⟨frame, member, paired⟩ (.inr rfl)

/-- The second client is told of the first before its own registration has returned. -/
def meeting : List (Team.Move Nat (Way Unit) (String × Instant)) :=
  [.task 0 (.read (.request ⟨"room", none⟩)), .task 1 (.read (.request ⟨"room", none⟩)),
    .task 0 (.registry ()), .task 0 (.registry ()), .task 1 (.registry ()), .task 1 .send,
    .task 0 (.registry ()), .task 0 (.write (.ok ())), .task 0 .arrived,
    .task 0 (.write (.ok ())), .background ("room", 5), .task 1 (.registry ()),
    .task 1 (.write (.ok ()))]

/-- Two clients with IPv4 addresses; everybody else has none. -/
def twoPeers : Nat → SocketAddr
  | 0 => .v4 ⟨10, 0, 0, 1⟩ 4000
  | 1 => .v4 ⟨10, 0, 0, 2⟩ 4000
  | _ => .v6 0 0

theorem meeting_matches :
    ∃ final, ∃ partner : Nat → Option Nat, Run ⟨60, "a"⟩ ⟨fun i => ⟨BitVec.ofNat 128 i⟩, fun _ => 0, fun _ => 0⟩
        twoPeers meeting = some final ∧
      final.shared.frames 0 = [.waiting ⟨⟨10, 0, 0, 1⟩, 4000⟩ ⟨0⟩,
        .paired ⟨⟨10, 0, 0, 1⟩, 4000⟩ ⟨⟨10, 0, 0, 2⟩, 4000⟩ ⟨0⟩] ∧
      partner 0 = some 1 ∧ partner 1 = some 0 ∧
      ∀ i, ∀ frame ∈ final.shared.frames i, frame.status = .paired →
        ∃ j, partner i = some j ∧ frame.peerInfo = PeerConnectionData.fromSocketAddr (twoPeers j) := by
  have ends : (Run ⟨60, "a"⟩ ⟨fun i => ⟨BitVec.ofNat 128 i⟩, fun _ => 0, fun _ => 0⟩ twoPeers
      meeting).map (fun final => final.shared.frames 0) =
        some [.waiting ⟨⟨10, 0, 0, 1⟩, 4000⟩ ⟨0⟩,
          .paired ⟨⟨10, 0, 0, 1⟩, 4000⟩ ⟨⟨10, 0, 0, 2⟩, 4000⟩ ⟨0⟩] := by decide +kernel
  obtain ⟨final, runs, frames⟩ := Option.map_eq_some_iff.mp ends
  obtain ⟨partner, pairs, told⟩ := paired_connections_are_matched runs
  obtain ⟨j, met, -, address, -⟩ := told 0 (.paired ⟨⟨10, 0, 0, 1⟩, 4000⟩ ⟨⟨10, 0, 0, 2⟩, 4000⟩ ⟨0⟩)
    (by rw [frames]; simp) rfl
  obtain rfl : j = 1 := by
    rcases j with _ | _ | j
    · simp [twoPeers, PeerConnectionData.fromSocketAddr, ServerResponse.paired] at address
    · rfl
    · simp [twoPeers, PeerConnectionData.fromSocketAddr, ServerResponse.paired] at address
  refine ⟨final, partner, runs, frames, met, (pairs 0 1 met).1, fun i frame member paired => ?_⟩
  obtain ⟨j, met, -, address, -⟩ := told i frame member paired
  exact ⟨j, met, address⟩

end TCPunch.InMemoryRegistry
