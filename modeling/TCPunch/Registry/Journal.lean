import TCPunch.Lib.Journal
import TCPunch.Lib.Matching
import TCPunch.Registry.Atomic

/-! # Runs of the in-memory registry

A run is any finite sequence of whole calls. The journal keeps what callers could
see of each call; the channel made by a call is the call's position. Forgetting
the token map and the clocks, a registry is a rendezvous board, and as long as
`Uuid::new_v4` keeps drawing new tokens every call acts on it as the board does.
Pairing is therefore a symmetric matching.
-/

namespace TCPunch

open Rendezvous

/-- A whole call on the registry, with what it draws from its surroundings. -/
inductive RegistryCall where
  | register (call : Registration)
  | unregister (pairingName : String) (token : Uuid)
  | cleanupExpired (now : Instant)
  deriving DecidableEq

namespace InMemoryRegistry

/-- The sessions whose entry a call removed. -/
def ended (before after : InMemoryRegistry) : Set Uuid :=
  {t | ∃ name entry, before.pairings.lookup name = some entry ∧ entry.token = t ∧
    after.pairings.lookup name = none}

/-- One whole call, and what could be seen of it. -/
def perform (config : RegistryConfig) (channel : Chan) (s : InMemoryRegistry) :
    RegistryCall → Moment String Uuid PeerConnectionData × InMemoryRegistry
  | .register call =>
      let out := (register config (call.draws channel) call.request).run answer s
      (seen call.request out.1, out.2)
  | .unregister name token =>
      let out := (unregister name token).run answer s
      (⟨.cleared (ended s out.2), []⟩, out.2)
  | .cleanupExpired now =>
      let out := cleanupExpired config now s
      (⟨.cleared (ended s out.2), []⟩, out.2)

/-- The journal of a run on a new registry. -/
def journal (config : RegistryConfig) (calls : List RegistryCall) :
    Journal InMemoryRegistry (Moment String Uuid PeerConnectionData) :=
  .keep (perform config) new calls

theorem journal_snoc (config : RegistryConfig) (calls : List RegistryCall) (call : RegistryCall) :
    journal config (calls ++ [call]) = (journal config calls).record (perform config) call :=
  Journal.keep_snoc (perform config) new calls call

/-- `Uuid::new_v4` returned a token never returned before, throughout the run. -/
def FreshTokens (config : RegistryConfig) (calls : List RegistryCall) : Prop :=
  (issued (journal config calls).past).Nodup

instance (config : RegistryConfig) (calls : List RegistryCall) :
    Decidable (FreshTokens config calls) := inferInstanceAs (Decidable (List.Nodup _))

theorem FreshTokens.of_snoc {config calls call} (fresh : FreshTokens config (calls ++ [call])) :
    FreshTokens config calls := by
  rw [FreshTokens, journal_snoc, Journal.record, nodup_issued_snoc] at fresh
  exact fresh.1

/-! ## The registry refines a board -/

/-- The board that a registry stands for. -/
def toBoard (s : InMemoryRegistry) : Board String Uuid PeerConnectionData := fun name =>
  (s.pairings.lookup name).map fun entry =>
    ⟨entry.token, entry.waitingClient.connectionInfo, entry.notifyTx.getD 0⟩

/-- The act on the board that a call amounts to. -/
def toAct (config : RegistryConfig) (s : InMemoryRegistry) :
    RegistryCall → Act String Uuid PeerConnectionData
  | .register call =>
      .join call.request.pairingName call.request.clientInfo call.request.reconnectToken call.newV4
  | .unregister name _ => .clear fun n => decide (n = name)
  | .cleanupExpired now => .clear fun n => (s.pairings.lookup n).any (expired config now)

variable {config : RegistryConfig} {s : InMemoryRegistry}

theorem toBoard_insert (name : String) (entry : PairingEntry) (tokens : FiniteMap Uuid String) :
    toBoard { pairings := s.pairings.insert name entry, tokens } =
      Function.update (toBoard s) name (some ⟨entry.token, entry.waitingClient.connectionInfo,
        entry.notifyTx.getD 0⟩) := by
  funext n
  simp only [toBoard, FiniteMap.lookup_insert_if, Function.update_apply]
  split <;> rfl

theorem toBoard_erase (name : String) (tokens : FiniteMap Uuid String) :
    toBoard { pairings := s.pairings.erase name, tokens } =
      Function.update (toBoard s) name none := by
  funext n
  simp only [toBoard, FiniteMap.lookup_erase_if, Function.update_apply]
  split <;> rfl

theorem clear_refines {after : InMemoryRegistry} {gone : String → Bool} {channel : Nat}
    (kept : ∀ n, after.pairings.lookup n = if gone n = true then none else s.pairings.lookup n) :
    ((⟨.cleared (ended s after), []⟩ : Moment String Uuid PeerConnectionData), toBoard after) =
      (toBoard s).act channel (.clear gone) := by
  simp only [Board.act, Prod.mk.injEq, Moment.mk.injEq, Outcome.cleared.injEq, and_true]
  constructor
  · ext t
    simp only [ended, toBoard, Set.mem_ofPred_eq, kept, Option.map_eq_some_iff]
    constructor
    · rintro ⟨name, entry, live, rfl, absent⟩
      refine ⟨name, _, ?_, ⟨entry, live, rfl⟩, rfl⟩
      by_contra stays
      simp [stays, live] at absent
    · rintro ⟨name, seat, away, ⟨entry, live, rfl⟩, rfl⟩
      exact ⟨name, entry, live, rfl, by simp [away]⟩
  · funext n
    simp only [toBoard, kept]
    split <;> rfl

/-- On a linked registry every call does what the board does. -/
theorem perform_refines (config : RegistryConfig) (linked : s.Linked) (channel : Chan)
    (call : RegistryCall) :
    ((perform config channel s call).1, toBoard (perform config channel s call).2) =
      (toBoard s).act channel (toAct config s call) := by
  cases call with
  | register call =>
      cases live : s.pairings.lookup call.request.pairingName with
      | none =>
          have seat : toBoard s call.request.pairingName = none := by simp [toBoard, live]
          simp only [perform, register_waits live, seen, toAct, Board.act, seat, toBoard_insert]
          rfl
      | some entry =>
          obtain ⟨tx, sender⟩ := linked.sender _ _ live
          have seat : toBoard s call.request.pairingName =
              some ⟨entry.token, entry.waitingClient.connectionInfo, tx⟩ := by
            simp [toBoard, live, sender]
          by_cases shown : call.request.reconnectToken = some entry.token
          · have check := (linked.reconnects_iff live).mpr shown
            simp only [perform, register_resumes live check, seen, toAct, Board.act, seat, shown,
              if_true, toBoard_insert]
            rfl
          · have check := fun check => shown ((linked.reconnects_iff live).mp check)
            simp only [perform, register_pairs live check, seen, toAct, Board.act, seat, shown,
              if_false, toBoard_erase, sender]
            rfl
  | unregister name token =>
      apply clear_refines
      intro n
      simp only [decide_eq_true_eq, lookup_after_unregister]
  | cleanupExpired now =>
      apply clear_refines
      intro n
      apply Option.ext
      intro entry
      rw [cleanupExpired_pairings]
      cases live : s.pairings.lookup n with
      | none => simp
      | some found => cases old : expired config now found <;> simp [old] <;> grind

/-! ## The registry stays linked -/

theorem Linked.insert_moved (linked : s.Linked) {name entry info channel}
    (live : s.pairings.lookup name = some entry) :
    Linked { s with pairings := s.pairings.insert name (moveTo info channel entry) } where
  token := by
    intro n e found
    obtain ⟨rfl, rfl⟩ | ⟨-, found⟩ := FiniteMap.of_lookup_insert found
    · exact linked.token n entry live
    · exact linked.token n e found
  sender := by
    intro n e found
    obtain ⟨-, rfl⟩ | ⟨-, found⟩ := FiniteMap.of_lookup_insert found
    · exact ⟨channel, rfl⟩
    · exact linked.sender n e found

/-- Removing entries keeps the rest linked, as long as the tokens that go with them
    are their own. -/
theorem Linked.shrink (linked : s.Linked) {after : InMemoryRegistry}
    (fewer : ∀ n e, after.pairings.lookup n = some e → s.pairings.lookup n = some e)
    (kept : ∀ n e, after.pairings.lookup n = some e →
      after.tokens.lookup e.token = s.tokens.lookup e.token) : after.Linked where
  token n e found := (kept n e found).trans (linked.token n e (fewer n e found))
  sender n e found := linked.sender n e (fewer n e found)

theorem Linked.erase_pair (linked : s.Linked) {name entry}
    (live : s.pairings.lookup name = some entry) :
    Linked { pairings := s.pairings.erase name, tokens := s.tokens.erase entry.token } := by
  apply linked.shrink
  · exact fun n e found => (FiniteMap.of_lookup_erase found).2
  · intro n e found
    obtain ⟨other, found⟩ := FiniteMap.of_lookup_erase found
    rw [FiniteMap.lookup_erase_if, if_neg]
    intro same
    exact other (linked.name_unique found live same)

theorem Linked.insert_fresh (linked : s.Linked) {name : String} {draws : Draws}
    {info : PeerConnectionData} (unused : s.tokens.lookup draws.newV4 = none) :
    Linked { pairings := s.pairings.insert name (firstEntry config draws info)
             tokens := s.tokens.insert draws.newV4 name } where
  token := by
    intro n e found
    obtain ⟨rfl, rfl⟩ | ⟨-, found⟩ := FiniteMap.of_lookup_insert found
    · exact Finmap.lookup_insert _
    · have old := linked.token n e found
      rw [FiniteMap.lookup_insert_if, if_neg]
      · exact old
      · intro same
        rw [same, unused] at old
        simp at old
  sender := by
    intro n e found
    obtain ⟨-, rfl⟩ | ⟨-, found⟩ := FiniteMap.of_lookup_insert found
    · exact ⟨draws.channel, rfl⟩
    · exact linked.sender n e found

theorem Linked.perform (linked : s.Linked) (channel : Chan) (call : RegistryCall)
    (unused : ∀ t, (perform config channel s call).1.issued = some t → s.tokens.lookup t = none) :
    (perform config channel s call).2.Linked := by
  cases call with
  | register call =>
      cases live : s.pairings.lookup call.request.pairingName with
      | none =>
          simp only [InMemoryRegistry.perform, register_waits live, seen, Moment.issued,
            Option.some.injEq, forall_eq'] at unused ⊢
          exact linked.insert_fresh unused
      | some entry =>
          by_cases check : Reconnects s call.request entry
          · simp only [InMemoryRegistry.perform, register_resumes live check]
            exact linked.insert_moved live
          · simp only [InMemoryRegistry.perform, register_pairs live check]
            exact linked.erase_pair live
  | unregister name token =>
      cases live : s.pairings.lookup name with
      | none => simpa only [InMemoryRegistry.perform, unregister_vacant live] using linked
      | some entry =>
          simp only [InMemoryRegistry.perform, unregister_live live]
          split
          · rename_i own
            exact own ▸ linked.erase_pair live
          · apply linked.shrink
            · exact fun n e found => (FiniteMap.of_lookup_erase found).2
            · exact fun _ _ _ => rfl
  | cleanupExpired now =>
      apply linked.shrink
      · exact fun n e found => (cleanupExpired_pairings.mp found).1
      · intro n e found
        obtain ⟨live, stays⟩ := cleanupExpired_pairings.mp found
        have known := linked.token n e live
        rw [known]
        refine cleanupExpired_tokens.mpr ⟨known, ?_⟩
        intro n' e' live' old same
        obtain rfl := linked.name_unique live' live same
        obtain rfl := Option.some.inj (live'.symm.trans live)
        simp [stays] at old

theorem tokens_of_perform {channel call t n}
    (after : (perform config channel s call).2.tokens.lookup t = some n) :
    s.tokens.lookup t = some n ∨ (perform config channel s call).1.issued = some t := by
  cases call with
  | register call =>
      cases live : s.pairings.lookup call.request.pairingName with
      | none =>
          simp only [perform, register_waits live, seen, Moment.issued,
            FiniteMap.lookup_insert_if] at after ⊢
          split at after
          · subst t; exact .inr rfl
          · exact .inl after
      | some entry =>
          by_cases check : Reconnects s call.request entry
          · simp only [perform, register_resumes live check] at after
            exact .inl after
          · simp only [perform, register_pairs live check] at after
            exact .inl (FiniteMap.of_lookup_erase after).2
  | unregister name token =>
      cases live : s.pairings.lookup name with
      | none =>
          simp only [perform, unregister_vacant live] at after
          exact .inl after
      | some entry =>
          simp only [perform, unregister_live live] at after
          split at after
          · exact .inl (FiniteMap.of_lookup_erase after).2
          · exact .inl after
  | cleanupExpired now => exact .inl (cleanupExpired_tokens.mp after).1

theorem FreshTokens.unused {calls call} (fresh : FreshTokens config (calls ++ [call]))
    (drawn : ∀ t n, (journal config calls).state.tokens.lookup t = some n →
      t ∈ issued (journal config calls).past) :
    ∀ t, (perform config (journal config calls).past.length (journal config calls).state call).1.issued
        = some t → (journal config calls).state.tokens.lookup t = none := by
  intro t new
  rw [FreshTokens, journal_snoc, Journal.record, nodup_issued_snoc] at fresh
  by_contra known
  obtain ⟨n, known⟩ := Option.ne_none_iff_exists'.mp known
  exact fresh.2 t new (drawn t n known)

/-- What holds of every journal: the registry is linked, it only knows tokens that
    were drawn, and board and past are those of a play. -/
structure Sound (journal : Journal InMemoryRegistry (Moment String Uuid PeerConnectionData)) :
    Prop where
  linked : journal.state.Linked
  drawn : ∀ t n, journal.state.tokens.lookup t = some n → t ∈ issued journal.past
  plays : ∃ acts, Log.play acts = ⟨toBoard journal.state, journal.past⟩

theorem journal_sound {calls : List RegistryCall} (fresh : FreshTokens config calls) :
    Sound (journal config calls) := by
  induction calls using List.reverseRecOn with
  | nil =>
      refine ⟨linked_new, ?_, [], ?_⟩
      · intro t n known; simp [journal, Journal.keep, new] at known
      · have board : toBoard new = fun _ => none := by funext n; simp [toBoard, new]
        simp only [Log.play, List.foldl_nil, Log.empty, journal, Journal.keep, board]
  | append_singleton calls call ih =>
      obtain ⟨linked, drawn, acts, plays⟩ := ih fresh.of_snoc
      rw [journal_snoc]
      refine ⟨linked.perform _ call (fresh.unused drawn), ?_,
        acts ++ [toAct config (journal config calls).state call], ?_⟩
      · intro t n after
        simp only [Journal.record, issued_snoc, List.mem_append, Option.mem_toList]
        exact (tokens_of_perform after).imp_left (drawn t n)
      · have step := perform_refines config linked (journal config calls).past.length call
        rw [Log.play_snoc, plays, Log.record, ← step]
        rfl

/-- Pairing in memory is a symmetric matching, whatever the calls, their arguments
    and their times. -/
theorem pairing_symmetric (config : RegistryConfig) (calls : List RegistryCall)
    (fresh : FreshTokens config calls) : SymmetricMatching (journal config calls).past := by
  obtain ⟨acts, plays⟩ := (journal_sound fresh).plays
  have past : (Log.play acts).past = (journal config calls).past := by rw [plays]
  rw [← past]
  apply Log.symmetricMatching
  rw [past]
  exact fresh

/-- A client waits, moves to another address, and is paired under that address. -/
theorem pairing_symmetric_after_resume :
    let run : List RegistryCall :=
      [ .register ⟨⟨"a", ⟨⟨10, 0, 0, 1⟩, 4001⟩, none⟩, ⟨1⟩, 0, 0⟩,
        .register ⟨⟨"a", ⟨⟨10, 0, 0, 7⟩, 4007⟩, some ⟨1⟩⟩, ⟨2⟩, 1, 1⟩,
        .register ⟨⟨"a", ⟨⟨10, 0, 0, 2⟩, 4002⟩, none⟩, ⟨3⟩, 2, 2⟩ ]
    FreshTokens ⟨60, "s"⟩ run ∧ SymmetricMatching (journal ⟨60, "s"⟩ run).past ∧
      (journal ⟨60, "s"⟩ run).past[2]? =
        some ⟨.matched "a" ⟨⟨10, 0, 0, 2⟩, 4002⟩ ⟨3⟩ ⟨⟨10, 0, 0, 7⟩, 4007⟩,
          [(1, ⟨⟨10, 0, 0, 2⟩, 4002⟩)]⟩ :=
  ⟨by decide, pairing_symmetric _ _ (by decide), rfl⟩

end InMemoryRegistry

end TCPunch
