import TCPunch.Registry.Journal

/-! # The sweep is exact

`cleanup_expired` filters the entries and, from inside the filter, removes tokens from the
other map. What it removes are the entries past their time and their tokens, what it returns
is their number, and a second sweep at the same time finds nothing to do. A token that a
live client holds stays because no two entries of a run have the same one.
-/

namespace TCPunch.InMemoryRegistry

variable {config : RegistryConfig} {s : InMemoryRegistry} {now : Instant}

/-! ## The count -/

theorem sweep_total (config : RegistryConfig) (now : Instant) {acc : Nat × InMemoryRegistry}
    {name : String} {entry : PairingEntry} (live : acc.2.pairings.lookup name = some entry) :
    (sweep config now acc name entry).1 + (sweep config now acc name entry).2.activeCount =
      acc.1 + acc.2.activeCount := by
  unfold sweep
  split
  · have fewer := FiniteMap.card_keys_erase live
    simp only [activeCount]
    omega
  · rfl

theorem cleanupExpired_total (config : RegistryConfig) (now : Instant) (s : InMemoryRegistry) :
    (cleanupExpired config now s).1 + (cleanupExpired config now s).2.activeCount = s.activeCount := by
  apply cleanupExpired_rule (fun acc => acc.1 + acc.2.activeCount = s.activeCount) (Nat.zero_add _)
  intro acc name entry total live
  exact (sweep_total config now live).trans total

theorem keys_after_sweep_subset : (cleanupExpired config now s).2.pairings.keys ⊆ s.pairings.keys := by
  intro name member
  obtain ⟨entry, found⟩ := Finmap.mem_iff.mp (Finmap.mem_keys.mp member)
  exact Finmap.mem_keys.mpr (Finmap.mem_of_lookup_eq_some (cleanupExpired_pairings.mp found).1)

theorem cleanupExpired_card :
    (cleanupExpired config now s).1 =
      (s.pairings.keys \ (cleanupExpired config now s).2.pairings.keys).card := by
  have total := cleanupExpired_total config now s
  unfold activeCount at total
  rw [Finset.card_sdiff_of_subset keys_after_sweep_subset]
  omega

theorem cleanupExpired_of_young
    (young : ∀ name entry, s.pairings.lookup name = some entry → expired config now entry = false) :
    cleanupExpired config now s = (0, s) := by
  apply cleanupExpired_rule (fun acc => acc = (0, s)) rfl
  rintro acc name entry rfl live
  unfold sweep
  rw [young name entry live, if_neg Bool.false_ne_true]

theorem cleanupExpired_again :
    cleanupExpired config now (cleanupExpired config now s).2 =
      (0, (cleanupExpired config now s).2) :=
  cleanupExpired_of_young fun _ _ found => (cleanupExpired_pairings.mp found).2

/-! ## Tokens -/

theorem expired_iff {entry : PairingEntry} :
    expired config now entry = true ↔ config.pairingTimeout < now - entry.createdAt :=
  decide_eq_true_iff

/-- A sweep of a linked registry takes a token with its entry and leaves it with its entry. -/
theorem Linked.token_after_sweep (linked : s.Linked) {name : String} {entry : PairingEntry}
    (live : s.pairings.lookup name = some entry) :
    (cleanupExpired config now s).2.tokens.lookup entry.token =
      if expired config now entry = true then none else some name := by
  by_cases old : expired config now entry = true
  · rw [if_pos old]
    by_contra kept
    obtain ⟨n, known⟩ := Option.ne_none_iff_exists'.mp kept
    exact (cleanupExpired_tokens.mp known).2 name entry live old rfl
  · rw [if_neg old]
    apply cleanupExpired_tokens.mpr
    refine ⟨linked.token name entry live, ?_⟩
    -- An expired entry with the same token would be this one.
    intro n e found gone same
    obtain rfl := linked.name_unique found live same
    obtain rfl := Option.some.inj (found.symm.trans live)
    exact old gone

/-- After any run with fresh tokens and at any time, a sweep removes the entries whose age is
    above the timeout, and no other entry; it removes the tokens of these entries and no
    other token; it returns how many there were; and when it is repeated it returns zero and
    changes nothing. -/
theorem expiry_exact (config : RegistryConfig) (calls : List RegistryCall)
    (fresh : FreshTokens config calls) (now : Instant) :
    let before := (journal config calls).state
    let cleaned := (cleanupExpired config now before).1
    let after := (cleanupExpired config now before).2
    (∀ name entry, after.pairings.lookup name = some entry ↔
      before.pairings.lookup name = some entry ∧
        ¬ config.pairingTimeout < now - entry.createdAt) ∧
    (∀ token name, after.tokens.lookup token = some name ↔
      before.tokens.lookup token = some name ∧
        ¬ ∃ n entry, before.pairings.lookup n = some entry ∧
          config.pairingTimeout < now - entry.createdAt ∧
          entry.waitingClient.reconnectToken = token) ∧
    (∀ name entry, before.pairings.lookup name = some entry →
      before.tokens.lookup entry.waitingClient.reconnectToken = some name ∧
      after.tokens.lookup entry.waitingClient.reconnectToken =
        if config.pairingTimeout < now - entry.createdAt then none else some name) ∧
    cleaned = (before.pairings.keys \ after.pairings.keys).card ∧
    cleaned + after.activeCount = before.activeCount ∧
    cleanupExpired config now after = (0, after) := by
  intro before cleaned after
  have linked : before.Linked := (journal_sound fresh).linked
  refine ⟨?_, ?_, ?_, cleanupExpired_card, cleanupExpired_total _ _ _, cleanupExpired_again⟩
  · intro name entry
    rw [cleanupExpired_pairings, ← expired_iff, Bool.not_eq_true]
  · intro token name
    rw [cleanupExpired_tokens]
    simp only [expired_iff, not_exists, not_and]
  · intro name entry live
    refine ⟨linked.token name entry live, ?_⟩
    simp only [← expired_iff]
    exact linked.token_after_sweep live

/-- Two clients wait under two names since times 0 and 50. With a timeout of 60, a sweep at
    time 70 takes the first and leaves the second. -/
theorem sweep_takes_one_of_two :
    let config : RegistryConfig := ⟨60, "s"⟩
    let calls : List RegistryCall :=
      [ .register ⟨⟨"a", ⟨⟨10, 0, 0, 1⟩, 4001⟩, none⟩, ⟨1⟩, 0, 0⟩,
        .register ⟨⟨"b", ⟨⟨10, 0, 0, 2⟩, 4002⟩, none⟩, ⟨2⟩, 50, 50⟩ ]
    let s := (journal config calls).state
    let out := cleanupExpired config 70 s
    let a : PairingEntry := ⟨⟨⟨⟨10, 0, 0, 1⟩, 4001⟩, ⟨1⟩, "s", 0⟩, some 0, 0⟩
    let b : PairingEntry := ⟨⟨⟨⟨10, 0, 0, 2⟩, 4002⟩, ⟨2⟩, "s", 50⟩, some 1, 50⟩
    FreshTokens config calls ∧
      s.pairings.lookup "a" = some a ∧ out.2.tokens.lookup ⟨1⟩ = none ∧
      s.pairings.lookup "b" = some b ∧ out.2.pairings.lookup "b" = some b ∧
      out.2.tokens.lookup ⟨2⟩ = some "b" ∧
      out.1 + out.2.activeCount = 2 ∧ cleanupExpired config 70 out.2 = (0, out.2) := by
  intro config calls s out a b
  have fresh : FreshTokens config calls := by decide
  have first : s.pairings.lookup "a" = some a := by decide
  have second : s.pairings.lookup "b" = some b := by decide
  obtain ⟨entries, -, tokens, -, total, again⟩ := expiry_exact config calls fresh 70
  exact ⟨fresh, first, (tokens "a" a first).2, second, (entries "b" b).mpr ⟨second, by decide⟩,
    (tokens "b" b second).2, total, again⟩

end TCPunch.InMemoryRegistry
