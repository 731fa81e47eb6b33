import TCPunch.Registry.Journal
import TCPunch.Server.Session

/-! # Handlers over the in-memory registry

The sender of a waiting handler's channel is in the registry under the handler's own
name, or a message is in the channel, or the handler's registration is gone. What a
second client is told and what the waiting handler does agree unless the second
client comes after the waiting handler's time was up and before it unregistered.
-/

namespace TCPunch

namespace InMemoryRegistry

/-- The registry that handlers share; in the background it is cleaned up. -/
def backend (config : RegistryConfig) (entropy : Entropy) : Backend InMemoryRegistry Instant where
  register i request s := (register config (entropy.draws i) request).run answer s
  unregister _ name token s := ((unregister name token).run answer s).2
  holds s channel := s.pairings.any fun _ entry => decide (entry.notifyTx = some channel)
  background now s := (cleanupExpired config now s).2

variable {config : RegistryConfig} {entropy : Entropy} {s : InMemoryRegistry}

theorem holds_iff {channel : Chan} :
    (backend config entropy).holds s channel = true ↔
      ∃ name entry, s.pairings.lookup name = some entry ∧ entry.notifyTx = some channel := by
  simp only [backend, FiniteMap.any_eq_true, decide_eq_true_eq]

theorem register_cases (config : RegistryConfig) (entropy : Entropy) (s : InMemoryRegistry) (i : Nat)
    (request : Request) :
    (s.pairings.lookup request.pairingName = none ∧
      (backend config entropy).register i request s =
        (.ok { result := .waiting (entropy.newV4 i) i, sent := [] },
          { pairings := s.pairings.insert request.pairingName
              (firstEntry config (entropy.draws i) request.clientInfo)
            tokens := s.tokens.insert (entropy.newV4 i) request.pairingName })) ∨
    (∃ entry, s.pairings.lookup request.pairingName = some entry ∧ Reconnects s request entry ∧
      (backend config entropy).register i request s =
        (.ok { result := .resumed entry.token i, sent := [] },
          { s with pairings := s.pairings.insert request.pairingName
                    (moveTo request.clientInfo i entry) })) ∨
    ∃ entry, s.pairings.lookup request.pairingName = some entry ∧ ¬ Reconnects s request entry ∧
      (backend config entropy).register i request s =
        (.ok { result := .paired (entropy.newV4 i) entry.waitingClient.connectionInfo
               sent := entry.notifyTx.toList.map fun tx =>
                 { channel := tx, peer := request.clientInfo } },
          { pairings := s.pairings.erase request.pairingName
            tokens := s.tokens.erase entry.token }) := by
  cases live : s.pairings.lookup request.pairingName with
  | none => exact .inl ⟨rfl, register_waits live⟩
  | some entry =>
      by_cases check : Reconnects s request entry
      · exact .inr (.inl ⟨entry, rfl, check, register_resumes live check⟩)
      · exact .inr (.inr ⟨entry, rfl, check, register_pairs live check⟩)

theorem ownChannels (config : RegistryConfig) (entropy : Entropy) :
    (backend config entropy).OwnChannels := by
  intro i request s token channel sent answer
  rcases register_cases config entropy s i request with
    ⟨-, out⟩ | ⟨entry, -, -, out⟩ | ⟨entry, -, -, out⟩ <;> simp [out] at answer
  · exact answer.1.2.symm
  · exact answer.1.2.symm

theorem lookup_unregister (i : Nat) (name : String) (token : Uuid) (n : String) :
    ((backend config entropy).unregister i name token s).pairings.lookup n =
      if n = name then none else s.pairings.lookup n :=
  lookup_after_unregister name token n

end InMemoryRegistry

end TCPunch
