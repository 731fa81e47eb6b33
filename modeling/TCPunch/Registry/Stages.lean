import TCPunch.Lib.Linearization
import TCPunch.Registry.Atomic

/-! # One registration, map call by map call

A pool interleaves the map calls of concurrent registrations. Between two map
calls a registration is at one of seven stages. This module says what the rest of
the program is at each stage and what the next map call does; proofs about
interleavings never look at the program text itself.
-/

namespace TCPunch.InMemoryRegistry

/-- Where a registration stands: which map call it makes next. -/
inductive Stage where
  /-- `tokens.get` with the token shown. -/
  | lookup (token : Uuid)
  /-- `pairings.get_mut`, after the token led to the requested name. -/
  | takeOver (token : Uuid)
  /-- `pairings.remove`. -/
  | claim
  /-- `tokens.remove` of the removed entry's token. -/
  | forget (entry : PairingEntry)
  /-- `pairings.insert`, after `pairings.remove` found nothing. -/
  | enter
  /-- `tokens.insert` of the token drawn. -/
  | announce
  | returned (result : Except RegistryError Registered)

namespace Stage

/-- What a registration returns after pairing with the client of an entry. -/
def pairedWith (draws : Draws) (clientInfo : PeerConnectionData) (entry : PairingEntry) :
    Except RegistryError Registered :=
  .ok { result := .paired draws.newV4 entry.waitingClient.connectionInfo
        sent := entry.notifyTx.toList.map fun tx => { channel := tx, peer := clientInfo } }

/-- What a first registration returns. -/
def firstWait (draws : Draws) : Except RegistryError Registered :=
  .ok { result := .waiting draws.newV4 draws.channel, sent := [] }

/-- What a registration returns after taking over its own entry. -/
def resumedWait (draws : Draws) (token : Uuid) : Except RegistryError Registered :=
  .ok { result := .resumed token draws.channel, sent := [] }

def first (request : Request) : Stage :=
  match request.reconnectToken with
  | some token => .lookup token
  | none => .claim

variable (config : RegistryConfig) (draws : Draws) (request : Request)

/-- The rest of the program at each stage. -/
def program : Stage → Method (Except RegistryError Registered)
  | .lookup token => register config draws { request with reconnectToken := some token }
  | .takeOver token => do
      let update := resume token request.clientInfo draws.channel
      if ← pairingsGetMut request.pairingName update then
        return resumedWait draws token
      else
        pairOrWait config draws request.pairingName request.clientInfo
  | .claim => pairOrWait config draws request.pairingName request.clientInfo
  | .forget entry => do
      tokensRemove entry.token
      return pairedWith draws request.clientInfo entry
  | .enter => do
      pairingsInsert request.pairingName (firstEntry config draws request.clientInfo)
      tokensInsert draws.newV4 request.pairingName
      return firstWait draws
  | .announce => do
      tokensInsert draws.newV4 request.pairingName
      return firstWait draws
  | .returned result => .done result

/-- The effect of the next map call, and the stage after it. -/
def step (s : InMemoryRegistry) : Stage → Stage × InMemoryRegistry
  | .lookup token =>
      (if s.tokens.lookup token = some request.pairingName then .takeOver token else .claim, s)
  | .takeOver token =>
      match s.pairings.lookup request.pairingName with
      | some entry =>
          if entry.token = token then
            (.returned (resumedWait draws token),
              { s with pairings := s.pairings.insert request.pairingName
                        (moveTo request.clientInfo draws.channel entry) })
          else
            (.claim, s)
      | none => (.claim, s)
  | .claim =>
      match s.pairings.lookup request.pairingName with
      | some entry => (.forget entry, { s with pairings := s.pairings.erase request.pairingName })
      | none => (.enter, s)
  | .forget entry =>
      (.returned (pairedWith draws request.clientInfo entry),
        { s with tokens := s.tokens.erase entry.token })
  | .enter =>
      (.announce, { s with pairings := s.pairings.insert request.pairingName
                            (firstEntry config draws request.clientInfo) })
  | .announce =>
      (.returned (firstWait draws),
        { s with tokens := s.tokens.insert draws.newV4 request.pairingName })
  | .returned result => (.returned result, s)

variable {config draws request}

theorem program_first :
    (first request).program config draws request = register config draws request := by
  obtain ⟨name, info, shown⟩ := request
  cases shown with
  | none => rfl
  | some token => rfl

theorem advance_step {ι : Type} [DecidableEq ι] {pool : Pool ι InMemoryRegistry MapCall.Reply _}
    {i : ι} {stage : Stage} (here : pool.task i = stage.program config draws request) :
    (pool.advance answer i).shared = (stage.step config draws request pool.shared).2 ∧
      (pool.advance answer i).task i =
        (stage.step config draws request pool.shared).1.program config draws request := by
  cases stage with
  | returned result =>
      rw [Pool.advance_done here]
      exact ⟨rfl, here⟩
  | lookup token =>
      rw [Pool.advance_call here]
      simp only [Function.update_self, answer, step]
      refine ⟨trivial, ?_⟩
      cases known : pool.shared.tokens.lookup token with
      | none => rfl
      | some stored =>
          by_cases same : stored = request.pairingName
          · simp only [same, if_true]
            exact if_pos rfl
          · simp only [same, if_false, Option.some.injEq]
            exact if_neg same
  | takeOver token =>
      rw [Pool.advance_call here]
      simp only [Function.update_self, answer, step]
      cases live : pool.shared.pairings.lookup request.pairingName with
      | none => exact ⟨rfl, rfl⟩
      | some entry =>
          by_cases own : entry.token = token
          · simp only [Option.bind_some, resume, own, if_true]
            exact ⟨trivial, rfl⟩
          · simp only [Option.bind_some, resume, own, if_false]
            exact ⟨trivial, rfl⟩
  | claim =>
      rw [Pool.advance_call here]
      simp only [Function.update_self, answer, step]
      cases live : pool.shared.pairings.lookup request.pairingName with
      | none => exact ⟨by rw [FiniteMap.erase_of_absent live], rfl⟩
      | some entry => exact ⟨rfl, rfl⟩
  | forget entry => rw [Pool.advance_call here]; exact ⟨rfl, Function.update_self ..⟩
  | enter => rw [Pool.advance_call here]; exact ⟨rfl, Function.update_self ..⟩
  | announce => rw [Pool.advance_call here]; exact ⟨rfl, Function.update_self ..⟩

end Stage

end TCPunch.InMemoryRegistry
