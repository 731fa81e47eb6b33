import TCPunch.Server.InMemory
import TCPunch.Server.Service

/-! # The in-memory server, map call by map call

The methods of `InMemoryRegistry` with `tx.send` as a step of its own, and any number of
connections whose reads, writes, map calls and messages interleave freely, while expired
entries are swept away. This module says which map calls a connection makes in which
order, and from that what one step of the server can change; invariants of the server
are then proved by cases on what can happen.
-/

namespace TCPunch.InMemoryRegistry

/-! ## The methods with their messages -/

namespace Sending

/-- `tx.send`, if there is a sender. -/
def notify (clientInfo : PeerConnectionData) : Option Chan → SendingMethod MapCall.Reply Unit
  | some tx => SendingMethod.send { channel := tx, peer := clientInfo }
  | none => pure ()

def pairOrWait (config : RegistryConfig) (draws : Draws) (pairingName : String)
    (clientInfo : PeerConnectionData) :
    SendingMethod MapCall.Reply (Except RegistryError RegistrationResult) := do
  match ← pairingsRemove pairingName with
  | some entry =>
      let peerInfo := entry.waitingClient.connectionInfo
      let peerToken := entry.waitingClient.reconnectToken
      notify clientInfo entry.notifyTx
      tokensRemove peerToken
      return .ok (.paired draws.newV4 peerInfo)
  | none =>
      let token := draws.newV4
      pairingsInsert pairingName (firstEntry config draws clientInfo)
      tokensInsert token pairingName
      return .ok (.waiting token draws.channel)

def register (config : RegistryConfig) (draws : Draws) (request : Request) :
    SendingMethod MapCall.Reply (Except RegistryError RegistrationResult) := do
  match request.reconnectToken with
  | some token =>
      match ← tokensGet token with
      | some storedName =>
          if storedName = request.pairingName then
            let update := resume token request.clientInfo draws.channel
            if ← pairingsGetMut request.pairingName update then
              return .ok (.resumed token draws.channel)
            else
              pairOrWait config draws request.pairingName request.clientInfo
          else
            pairOrWait config draws request.pairingName request.clientInfo
      | none => pairOrWait config draws request.pairingName request.clientInfo
  | none => pairOrWait config draws request.pairingName request.clientInfo

/-- The handler does not look at what `unregister` returns. -/
def unregister (pairingName : String) (token : Uuid) : SendingMethod MapCall.Reply Unit := do
  let _ ← InMemoryRegistry.unregister pairingName token

theorem gather_pairOrWait (config : RegistryConfig) (draws : Draws) (pairingName : String)
    (clientInfo : PeerConnectionData) :
    (pairOrWait config draws pairingName clientInfo).gather =
      (InMemoryRegistry.pairOrWait config draws pairingName clientInfo >>= fun out =>
        .done (SendingMethod.split out)) := by
  refine congrArg (Program.call (MapCall.pairingsRemove pairingName)) (funext fun found => ?_)
  cases found with
  | none => rfl
  | some entry =>
      obtain ⟨client, notifyTx, created⟩ := entry
      cases notifyTx with
      | none => rfl
      | some tx => rfl

/-- With the messages collected, `register` is the method of the registry. -/
theorem gather_register (config : RegistryConfig) (draws : Draws) (request : Request) :
    (register config draws request).gather =
      (InMemoryRegistry.register config draws request >>= fun out => .done (SendingMethod.split out)) := by
  obtain ⟨name, info, shown⟩ := request
  cases shown with
  | none => exact gather_pairOrWait config draws name info
  | some token =>
      refine congrArg (Program.call (MapCall.tokensGet token)) (funext fun known => ?_)
      cases known with
      | none => exact gather_pairOrWait config draws name info
      | some stored =>
          change SendingMethod.gather (if stored = name then _ else _) =
            ((if stored = name then _ else _) >>= fun out => Program.done (SendingMethod.split out))
          by_cases same : stored = name
          · rw [if_pos same, if_pos same]
            refine congrArg (Program.call (MapCall.pairingsGetMut name _)) (funext fun resumed => ?_)
            cases resumed with
            | true => rfl
            | false => exact gather_pairOrWait config draws name info
          · rw [if_neg same, if_neg same]
            exact gather_pairOrWait config draws name info

end Sending

/-- The closure of `retain` is called on one entry. -/
def expire (config : RegistryConfig) (name : String) (now : Instant) (s : InMemoryRegistry) :
    InMemoryRegistry :=
  match s.pairings.lookup name with
  | some entry => (sweep config now (0, s) name entry).2
  | none => s

/-- The maps answer a call in one way. In between `cleanup_expired` looks at entries, one at
    a time. -/
def engine (config : RegistryConfig) :
    Engine InMemoryRegistry MapCall.Reply Unit (String × Instant) where
  answer _ _ call s := answer call s
  holds s channel := s.pairings.any fun _ entry => decide (entry.notifyTx = some channel)
  background change s := expire config change.1 change.2 s

def methods (config : RegistryConfig) (entropy : Entropy) : Methods MapCall.Reply where
  register i request := Sending.register config (entropy.draws i) request
  unregister _ name token := Sending.unregister name token

/-! ## The order of the map calls -/

/-- What a registration has in hand. -/
inductive Progress where
  /-- The entry of another connection, taken out of the map. -/
  | holding (entry : PairingEntry)
  /-- Its own entry is in the map, and its token not yet. -/
  | entered

/-- Which map calls and messages are made by the methods called by connection `i`. -/
def discipline (config : RegistryConfig) (entropy : Entropy) (i : Nat) :
    Discipline (RegistryStep.Reply MapCall.Reply) (Standing Progress) where
  allowed g
    | .request (.tokensGet token) =>
        ∃ request, g = .asking request ∧ request.reconnectToken = some token
    | .request (.pairingsGetMut name update) =>
        ∃ request token, g = .asking request ∧ request.reconnectToken = some token ∧
          name = request.pairingName ∧ update = resume token request.clientInfo i
    | .request (.pairingsRemove name) =>
        ∃ request, (g = .asking request ∨ ∃ token channel, g = .waiting request token channel) ∧
          name = request.pairingName
    | .request (.tokensRemove token) =>
        (∃ request entry, g = .calling request (.holding entry) ∧ entry.notifyTx = none) ∨
          (∃ request peer, g = .matched request peer) ∨ ∃ request, g = .left request token
    | .request (.pairingsInsert name entry) =>
        ∃ request, g = .asking request ∧ name = request.pairingName ∧
          entry = firstEntry config (entropy.draws i) request.clientInfo
    | .request (.tokensInsert token name) =>
        ∃ request, g = .calling request .entered ∧ token = entropy.newV4 i ∧
          name = request.pairingName
    | .send message =>
        ∃ request entry, g = .calling request (.holding entry) ∧
          entry.notifyTx = some message.channel ∧ message.peer = request.clientInfo
  after g
    | .request (.pairingsGetMut _ _) => fun resumed =>
        match g, resumed with
        | .asking request, true => .waiting request (request.reconnectToken.getD .nil) i
        | g, _ => g
    | .request (.pairingsRemove _) => fun found =>
        match g, found with
        | .asking request, some entry => .calling request (.holding entry)
        | .waiting request token _, _ => .left request token
        | g, _ => g
    | .request (.tokensRemove _) => fun _ =>
        match g with
        | .calling request (.holding entry) => .matched request entry.waitingClient.connectionInfo
        | g => g
    | .request (.pairingsInsert _ _) => fun _ =>
        match g with
        | .asking request => .calling request .entered
        | g => g
    | .request (.tokensInsert _ _) => fun _ =>
        match g with
        | .calling request .entered => .waiting request (entropy.newV4 i) i
        | g => g
    | .request (.tokensGet _) => fun _ => g
    | .send _ => fun _ =>
        match g with
        | .calling request (.holding entry) => .matched request entry.waitingClient.connectionInfo
        | g => g

variable (config : RegistryConfig) (entropy : Entropy)

theorem pairOrWait_obeys (i : Nat) (request : Request) :
    (Sending.pairOrWait config (entropy.draws i) request.pairingName request.clientInfo).Obeys
      (discipline config entropy i) (fun g answer => g = Standing.afterRegister request answer)
      (.asking request) := by
  refine ⟨⟨request, .inl rfl, rfl⟩, fun found => ?_⟩
  cases found with
  | none => exact ⟨⟨request, rfl, rfl, rfl⟩, fun _ => ⟨⟨request, rfl, rfl, rfl⟩, fun _ => rfl⟩⟩
  | some entry =>
      obtain ⟨client, notifyTx, created⟩ := entry
      cases notifyTx with
      | none => exact ⟨.inl ⟨request, _, rfl, rfl⟩, fun _ => rfl⟩
      | some tx =>
          exact ⟨⟨request, _, rfl, rfl, rfl⟩, fun _ => ⟨.inr (.inl ⟨request, _, rfl⟩), fun _ => rfl⟩⟩

theorem register_obeys (i : Nat) (request : Request) :
    ((methods config entropy).register i request).Obeys (discipline config entropy i)
      (fun g answer => g = Standing.afterRegister request answer) (.asking request) := by
  obtain ⟨name, info, shown⟩ := request
  have pairs := pairOrWait_obeys config entropy i ⟨name, info, shown⟩
  cases shown with
  | none => exact pairs
  | some token =>
      refine ⟨⟨_, rfl, rfl⟩, fun known => ?_⟩
      cases known with
      | none => exact pairs
      | some stored =>
          change Program.Obeys _ _ (if stored = name then _ else _) _
          by_cases same : stored = name
          · rw [if_pos same]
            refine ⟨⟨_, token, rfl, rfl, rfl, rfl⟩, fun resumed => ?_⟩
            cases resumed with
            | true => rfl
            | false => exact pairs
          · rw [if_neg same]
            exact pairs

theorem unregister_obeys (i : Nat) (request : Request) (token : Uuid) (channel : Chan) :
    ((methods config entropy).unregister i request.pairingName token).Obeys
      (discipline config entropy i) (fun g _ => g = .left request token)
      (.waiting request token channel) := by
  refine ⟨⟨request, .inr ⟨token, channel, rfl⟩, rfl⟩, fun found => ?_⟩
  cases found with
  | none => rfl
  | some entry =>
      change Program.Obeys _ _ (Program.expand SendingMethod.request
        (if entry.waitingClient.reconnectToken = token then _ else _) >>= fun _ => .done ()) _
      by_cases own : entry.waitingClient.reconnectToken = token
      · rw [if_pos own]
        exact ⟨.inr (.inr ⟨request, rfl⟩), fun _ => rfl⟩
      · rw [if_neg own]
        rfl

/-! ## What can happen to a connection -/

/-- Everything that one answer can change: where connection `i` stands, and the scene. Of the
    maps it says what becomes of `pairings`. -/
inductive Happens (address : Nat → Option PeerConnectionData) (i : Nat) (s : Scene InMemoryRegistry) :
    Standing Progress → Standing Progress → Scene InMemoryRegistry → Prop where
  | read (own : PeerConnectionData) (outcome : ReadOutcome) (known : address i = some own) :
      Happens address i s .unread (Standing.afterRead own outcome) (s.read i outcome)
  | write (g : Standing Progress) (frame : ServerResponse) (may : g.MayWrite frame) :
      Happens address i s g g (s.update (s.wrote i frame))
  | wait (request : Request) (token : Uuid) (channel : Chan) (waited : PeerWait)
      (there : ∀ peer, waited = .arrived peer → s.inbox channel = some peer) :
      Happens address i s (.waiting request token channel)
        (Standing.afterWait request token channel waited) s
  /-- A failed write, a counter, or a call that leaves `pairings` as it is. -/
  | idle (g : Standing Progress) (shared : Shared InMemoryRegistry)
      (same : shared.registry.pairings = s.registry.pairings) (inbox : shared.inbox = s.inbox)
      (frames : shared.frames = s.frames) : Happens address i s g g (s.update shared)
  /-- The entry under its name carries the token shown, and is taken over. -/
  | resume (request : Request) (token : Uuid) (entry : PairingEntry) (registry : InMemoryRegistry)
      (found : s.registry.pairings.lookup request.pairingName = some entry)
      (own : entry.token = token)
      (inserted : registry.pairings = s.registry.pairings.insert request.pairingName
        (moveTo request.clientInfo i entry)) :
      Happens address i s (.asking request) (.waiting request token i)
        (s.update { s.toShared with registry })
  | take (request : Request) (entry : PairingEntry) (registry : InMemoryRegistry)
      (found : s.registry.pairings.lookup request.pairingName = some entry)
      (erased : registry.pairings = s.registry.pairings.erase request.pairingName) :
      Happens address i s (.asking request) (.calling request (.holding entry))
        (s.update { s.toShared with registry })
  | enter (request : Request) (entry : PairingEntry) (registry : InMemoryRegistry)
      (first : entry = firstEntry config (entropy.draws i) request.clientInfo)
      (inserted : registry.pairings = s.registry.pairings.insert request.pairingName entry) :
      Happens address i s (.asking request) (.calling request .entered)
        (s.update { s.toShared with registry })
  | announce (request : Request) (registry : InMemoryRegistry)
      (same : registry.pairings = s.registry.pairings) :
      Happens address i s (.calling request .entered) (.waiting request (entropy.newV4 i) i)
        (s.update { s.toShared with registry })
  | leave (request : Request) (token : Uuid) (channel : Chan) (registry : InMemoryRegistry)
      (erased : registry.pairings = s.registry.pairings.erase request.pairingName) :
      Happens address i s (.waiting request token channel) (.left request token)
        (s.update { s.toShared with registry })
  | send (request : Request) (entry : PairingEntry) (message : Notification)
      (sender : entry.notifyTx = some message.channel) (told : message.peer = request.clientInfo) :
      Happens address i s (.calling request (.holding entry))
        (.matched request entry.waitingClient.connectionInfo)
        (s.update { s.toShared with inbox := Shared.deliver s.inbox message })
  /-- The entry taken out of the map had no sender. -/
  | silent (request : Request) (entry : PairingEntry) (registry : InMemoryRegistry)
      (sender : entry.notifyTx = none) (same : registry.pairings = s.registry.pairings) :
      Happens address i s (.calling request (.holding entry))
        (.matched request entry.waitingClient.connectionInfo)
        (s.update { s.toShared with registry })

section Inversion

variable {config entropy} {address : Nat → Option PeerConnectionData} {i : Nat}
  {s : Scene InMemoryRegistry} {g : Standing Progress}

theorem happens_of_mapCall {call : MapCall}
    (permitted : (discipline config entropy i).allowed g (.request call)) :
    Happens config entropy address i s g
      ((discipline config entropy i).after g (.request call) (answer call s.registry).1)
      (s.update { s.toShared with registry := (answer call s.registry).2 }) := by
  cases call with
  | tokensGet token => exact .idle g s.toShared rfl rfl rfl
  | pairingsGetMut name update =>
      obtain ⟨request, token, rfl, shown, rfl, rfl⟩ := permitted
      simp only [answer]
      cases live : s.registry.pairings.lookup request.pairingName with
      | none => exact .idle _ s.toShared rfl rfl rfl
      | some entry =>
          by_cases own : entry.waitingClient.reconnectToken = token
          · simp only [Option.bind_some, InMemoryRegistry.resume, own, if_true]
            simp only [discipline, shown, Option.getD_some]
            exact .resume request token entry _ live own rfl
          · simp only [Option.bind_some, InMemoryRegistry.resume, own, if_false]
            exact .idle _ s.toShared rfl rfl rfl
  | pairingsRemove name =>
      obtain ⟨request, rfl | ⟨token, channel, rfl⟩, rfl⟩ := permitted
      · simp only [answer]
        cases live : s.registry.pairings.lookup request.pairingName with
        | none =>
            rw [FiniteMap.erase_of_absent live]
            exact .idle _ s.toShared rfl rfl rfl
        | some entry => exact .take request entry _ live rfl
      · exact .leave request token channel _ rfl
  | tokensRemove token =>
      rcases permitted with ⟨request, entry, rfl, silent⟩ | ⟨request, peer, rfl⟩ | ⟨request, rfl⟩
      · exact .silent request entry _ silent rfl
      · exact .idle _ { s.toShared with registry := _ } rfl rfl rfl
      · exact .idle _ { s.toShared with registry := _ } rfl rfl rfl
  | pairingsInsert name entry =>
      obtain ⟨request, rfl, rfl, first⟩ := permitted
      exact .enter request entry _ first rfl
  | tokensInsert token name =>
      obtain ⟨request, rfl, rfl, rfl⟩ := permitted
      exact .announce request _ rfl

theorem happens_of_answer {way : Way Unit} {s' : Scene InMemoryRegistry}
    {call : ServerCall MapCall} {reply : call.Reply MapCall.Reply}
    (permitted : (Methods.discipline (discipline config entropy i) (address i)).allowed g call)
    (answered : Scene.answer (engine config) i way s call = some (reply, s')) :
    Happens config entropy address i s g
      ((Methods.discipline (discipline config entropy i) (address i)).after g call reply) s' := by
  cases Scene.answers_of_answer answered with
  | read outcome =>
      obtain ⟨rfl, isV4⟩ := permitted
      obtain ⟨own, known⟩ := Option.isSome_iff_exists.mp isV4
      simp only [Methods.discipline, Handler.discipline, known]
      exact .read own outcome known
  | written frame => exact .write g frame permitted
  | arrived channel peer there =>
      obtain ⟨request, token, rfl⟩ := permitted
      exact .wait request token channel (.arrived peer) fun _ same => by cases same; exact there
  | closed channel =>
      obtain ⟨request, token, rfl⟩ := permitted
      exact .wait request token channel .closed fun _ same => by cases same
  | elapsed channel =>
      obtain ⟨request, token, rfl⟩ := permitted
      exact .wait request token channel .elapsed fun _ same => by cases same
  | request call way => exact happens_of_mapCall permitted
  | sent message =>
      obtain ⟨request, entry, rfl, sender, told⟩ := permitted
      exact .send request entry message sender told
  | writeFails => exact .idle g s.toShared rfl rfl rfl
  | succeeded => exact .idle g s.pairingSucceeded rfl rfl rfl
  | timedOut => exact .idle g s.timeoutOccurred rfl rfl rfl

end Inversion

theorem keeps_of_happens {address : Nat → Option PeerConnectionData}
    {inv : Scene InMemoryRegistry → (Nat → Standing Progress) → Prop}
    (happening : ∀ s g i standing s', inv s g →
      Happens config entropy address i s (g i) standing s' → inv s' (Function.update g i standing))
    (sweeping : ∀ s g registry, inv s g →
      (∀ name entry, registry.pairings.lookup name = some entry →
        s.registry.pairings.lookup name = some entry) →
      inv (s.update { s.toShared with registry }) g) :
    Team.Keeps (Scene.rules (engine config))
      (fun i => Methods.discipline (discipline config entropy i) (address i)) inv := by
  constructor
  · intro s g i way call reply s' holds permitted answered
    exact happening s g i _ s' holds (happens_of_answer permitted answered)
  · rintro s g ⟨name, now⟩ s' holds changed
    cases changed
    apply sweeping s g _ holds
    -- `cleanup_expired` only takes entries away.
    intro other entry found
    simp only [engine, expire] at found
    split at found
    · unfold sweep at found
      split at found
      · exact (FiniteMap.of_lookup_erase found).2
      · exact found
    · exact found

/-- A run of the server. -/
abbrev Run (config : RegistryConfig) (entropy : Entropy) (peers : Nat → SocketAddr)
    (moves : List (Team.Move Nat (Way Unit) (String × Instant))) :=
  Machine.run (Team.step (Scene.rules (engine config))) ((methods config entropy).start new peers) moves

theorem start_obeys (peers : Nat → SocketAddr) (i : Nat) :
    (((methods config entropy).start new peers).task i).Obeys
      (Methods.discipline (discipline config entropy i) (PeerConnectionData.fromSocketAddr (peers i)))
      (fun _ _ => True) .unread :=
  Methods.connection_obeys (peers i) (register_obeys config entropy i)
    (unregister_obeys config entropy i)

end TCPunch.InMemoryRegistry
