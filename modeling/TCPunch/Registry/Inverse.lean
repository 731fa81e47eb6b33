import TCPunch.Registry.Journal

/-! # When the two maps are inverse to each other

`tokens` is meant to be the index of `pairings` by token. Every operation keeps it
so except `unregister` called with a token that is not the entry's: the entry goes
and its token stays. No later call can remove such a token, because tokens are only
removed together with the entry that carries them.
-/

namespace TCPunch.InMemoryRegistry

open Rendezvous

variable {config : RegistryConfig} {s : InMemoryRegistry}

/-- `tokens` maps `t` to `n` exactly when the entry at `n` carries `t`, and so the two
    maps have the same size. -/
def Inverse (s : InMemoryRegistry) : Prop :=
  (∀ t n, s.tokens.lookup t = some n ↔
      ∃ entry, s.pairings.lookup n = some entry ∧ entry.waitingClient.reconnectToken = t) ∧
    s.tokens.keys.card = s.pairings.keys.card

theorem inverse_iff_indexes : s.Inverse ↔ FiniteMap.Indexes PairingEntry.token s.pairings s.tokens :=
  ⟨fun inverse => inverse.1, fun indexes => ⟨indexes, indexes.card_keys⟩⟩

/-- A call that is not an `unregister` with somebody else's token: if there is an
    entry under the name, the token is that entry's. -/
def OwnToken (s : InMemoryRegistry) : RegistryCall → Prop
  | .unregister name token =>
      ∀ entry, s.pairings.lookup name = some entry → entry.waitingClient.reconnectToken = token
  | _ => True

theorem indexes_perform {channel call}
    (indexes : FiniteMap.Indexes PairingEntry.token s.pairings s.tokens)
    (unused : ∀ t, (perform config channel s call).1.issued = some t → s.tokens.lookup t = none)
    (own : OwnToken s call) :
    FiniteMap.Indexes PairingEntry.token (perform config channel s call).2.pairings
      (perform config channel s call).2.tokens := by
  cases call with
  | register call =>
      cases live : s.pairings.lookup call.request.pairingName with
      | none =>
          simp only [perform, register_waits live, seen, Moment.issued,
            Option.some.injEq, forall_eq'] at unused ⊢
          exact indexes.insert live unused
      | some entry =>
          by_cases check : Reconnects s call.request entry
          · simp only [perform, register_resumes live check]
            exact indexes.replace live rfl
          · simp only [perform, register_pairs live check]
            exact indexes.erase live
  | unregister name token =>
      cases live : s.pairings.lookup name with
      | none => simpa only [perform, unregister_vacant live] using indexes
      | some entry =>
          obtain rfl := own entry live
          simp only [perform, unregister_live live, if_true]
          exact indexes.erase live
  | cleanupExpired now =>
      refine indexes.restrict (fun entry => expired config now entry = true) ?_ ?_
      · intro n entry
        rw [Bool.not_eq_true]
        exact cleanupExpired_pairings
      · exact fun t n => cleanupExpired_tokens

/-- A token that leads nowhere: it is known, but no entry carries it. -/
def Leaked (s : InMemoryRegistry) (t : Uuid) : Prop :=
  (∃ n, s.tokens.lookup t = some n) ∧ ∀ n entry, s.pairings.lookup n = some entry → entry.token ≠ t

/-- No call removes a leaked token or gives it an entry again. -/
theorem Leaked.perform {channel call t} (leaked : s.Leaked t)
    (other : (perform config channel s call).1.issued ≠ some t) :
    (perform config channel s call).2.Leaked t := by
  obtain ⟨⟨n, known⟩, unowned⟩ := leaked
  cases call with
  | register call =>
      cases live : s.pairings.lookup call.request.pairingName with
      | none =>
          simp only [InMemoryRegistry.perform, register_waits live, seen, Moment.issued, ne_eq,
            Option.some.injEq] at other ⊢
          refine ⟨⟨n, ?_⟩, ?_⟩
          · rw [FiniteMap.lookup_insert_if, if_neg (fun same => other same.symm), known]
          · intro n' entry found
            obtain ⟨-, rfl⟩ | ⟨-, found⟩ := FiniteMap.of_lookup_insert found
            · exact other
            · exact unowned n' entry found
      | some entry =>
          have apart := unowned _ _ live
          by_cases check : Reconnects s call.request entry
          · simp only [InMemoryRegistry.perform, register_resumes live check]
            refine ⟨⟨n, known⟩, ?_⟩
            intro n' entry' found
            obtain ⟨-, rfl⟩ | ⟨-, found⟩ := FiniteMap.of_lookup_insert found
            · exact apart
            · exact unowned n' entry' found
          · simp only [InMemoryRegistry.perform, register_pairs live check]
            refine ⟨⟨n, ?_⟩, ?_⟩
            · rw [FiniteMap.lookup_erase_if, if_neg (fun same => apart same.symm), known]
            · exact fun n' entry' found => unowned n' entry' (FiniteMap.of_lookup_erase found).2
  | unregister name token =>
      cases live : s.pairings.lookup name with
      | none =>
          simp only [InMemoryRegistry.perform, unregister_vacant live]
          exact ⟨⟨n, known⟩, unowned⟩
      | some entry =>
          simp only [InMemoryRegistry.perform, unregister_live live]
          refine ⟨⟨n, ?_⟩, ?_⟩
          · split
            · rename_i own
              have apart := unowned _ _ live
              rw [FiniteMap.lookup_erase_if, if_neg (fun same => apart (own.trans same.symm)), known]
            · exact known
          · exact fun n' entry' found => unowned n' entry' (FiniteMap.of_lookup_erase found).2
  | cleanupExpired now =>
      refine ⟨⟨n, cleanupExpired_tokens.mpr ⟨known, fun n' e live _ => unowned n' e live⟩⟩, ?_⟩
      exact fun n' entry found => unowned n' entry (cleanupExpired_pairings.mp found).1

/-- A call that breaks the condition leaks the token of the entry it removes. -/
theorem leaked_of_foreign (config : RegistryConfig) (channel : Chan) (linked : s.Linked) {call}
    (foreign : ¬ OwnToken s call) :
    ∃ t, s.tokens.lookup t ≠ none ∧ (perform config channel s call).2.Leaked t := by
  cases call with
  | register => exact absurd trivial foreign
  | cleanupExpired => exact absurd trivial foreign
  | unregister name token =>
      simp only [OwnToken, not_forall] at foreign
      obtain ⟨entry, live, other⟩ := foreign
      have known := linked.token name entry live
      refine ⟨entry.token, by simp [known], ?_⟩
      simp only [perform, unregister_live live, if_neg other]
      refine ⟨⟨name, known⟩, ?_⟩
      intro n entry' found same
      obtain ⟨different, found⟩ := FiniteMap.of_lookup_erase found
      exact different (linked.name_unique found live same)

/-- The maps are inverse after a run exactly when every `unregister` of the run was
    made with the token of the entry it removed. -/
theorem inverse_iff_own_tokens (config : RegistryConfig) (calls : List RegistryCall)
    (fresh : FreshTokens config calls) :
    (journal config calls).state.Inverse ↔
      Journal.Always (perform config) new (fun journal call => OwnToken journal.state call) calls := by
  rw [inverse_iff_indexes]
  -- Along the run, either the maps are inverse or some token has leaked for good.
  have either : (FiniteMap.Indexes PairingEntry.token (journal config calls).state.pairings
        (journal config calls).state.tokens ∧ Journal.Always (perform config) new
          (fun journal call => OwnToken journal.state call) calls) ∨
      ((∃ t, (journal config calls).state.Leaked t) ∧ ¬ Journal.Always (perform config) new
          (fun journal call => OwnToken journal.state call) calls) := by
    induction calls using List.reverseRecOn with
    | nil => exact .inl ⟨FiniteMap.Indexes.empty _, Journal.always_nil⟩
    | append_singleton calls call ih =>
        obtain ⟨linked, drawn, -⟩ := journal_sound fresh.of_snoc
        have unused := fresh.unused drawn
        rw [journal_snoc, Journal.always_snoc]
        rcases ih fresh.of_snoc with ⟨indexes, always⟩ | ⟨⟨t, leaked⟩, never⟩
        · by_cases own : OwnToken (journal config calls).state call
          · exact .inl ⟨indexes_perform indexes unused own, always, own⟩
          · obtain ⟨t, -, leaked⟩ := leaked_of_foreign config
              (journal config calls).past.length linked own
            exact .inr ⟨⟨t, leaked⟩, fun both => own both.2⟩
        · refine .inr ⟨⟨t, leaked.perform ?_⟩, fun both => never both.1⟩
          intro new
          obtain ⟨⟨n, known⟩, -⟩ := leaked
          simp [unused t new] at known
  rcases either with ⟨indexes, always⟩ | ⟨⟨t, ⟨n, known⟩, unowned⟩, never⟩
  · exact ⟨fun _ => always, fun _ => indexes⟩
  · refine ⟨fun indexes => ?_, fun always => absurd always never⟩
    obtain ⟨entry, live, own⟩ := (indexes t n).mp known
    exact absurd own (unowned n entry live)

/-- A client waits, is paired, a third client waits under the same name, and the first
    one gives up with its own token: the third client's token stays behind. -/
theorem late_unregister_leaks_token :
    let run : List RegistryCall :=
      [ .register ⟨⟨"a", ⟨⟨10, 0, 0, 1⟩, 4001⟩, none⟩, ⟨1⟩, 0, 0⟩,
        .register ⟨⟨"a", ⟨⟨10, 0, 0, 2⟩, 4002⟩, none⟩, ⟨2⟩, 1, 1⟩,
        .register ⟨⟨"a", ⟨⟨10, 0, 0, 3⟩, 4003⟩, none⟩, ⟨3⟩, 2, 2⟩,
        .unregister "a" ⟨1⟩ ]
    FreshTokens ⟨60, "s"⟩ run ∧ ¬ (journal ⟨60, "s"⟩ run).state.Inverse := by
  intro run
  have gone : (journal ⟨60, "s"⟩ run).state.pairings.lookup "a" = none := by decide
  refine ⟨by decide, fun inverse => ?_⟩
  obtain ⟨entry, live, -⟩ := (inverse.1 ⟨3⟩ "a").mp (by decide)
  simp [gone] at live

theorem inverse_iff_own_tokens_after_unregister :
    let run : List RegistryCall :=
      [ .register ⟨⟨"a", ⟨⟨10, 0, 0, 1⟩, 4001⟩, none⟩, ⟨1⟩, 0, 0⟩, .unregister "a" ⟨1⟩ ]
    FreshTokens ⟨60, "s"⟩ run ∧
      ((journal ⟨60, "s"⟩ run).state.Inverse ↔ Journal.Always (perform ⟨60, "s"⟩) new
        (fun journal call => OwnToken journal.state call) run) :=
  ⟨by decide, inverse_iff_own_tokens _ _ (by decide)⟩

end TCPunch.InMemoryRegistry
