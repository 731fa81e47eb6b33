import TCPunch.Registry.Expiry
import TCPunch.Registry.Inverse
import TCPunch.Registry.Resumption

/-! # How large the maps grow

The entries are bounded by the registrations of the recent past, because the cleanup task
wakes up after every interval. The tokens are not: one is left behind for good by every
`unregister` that removes somebody else's entry, and by nothing else.
-/

namespace TCPunch.InMemoryRegistry

open Rendezvous

variable {config : RegistryConfig} {calls : List RegistryCall} {s : InMemoryRegistry} {now : Instant}

/-! ## Tokens left behind -/

/-- How many tokens are known. -/
def tokenCount (s : InMemoryRegistry) : Nat := s.tokens.keys.card

instance (s : InMemoryRegistry) (call : RegistryCall) : Decidable (OwnToken s call) :=
  match call with
  | .register _ => isTrue trivial
  | .unregister name token =>
      inferInstanceAs (Decidable (∀ entry ∈ s.pairings.lookup name,
        entry.waitingClient.reconnectToken = token))
  | .cleanupExpired _ => isTrue trivial

/-- How many calls of the run removed an entry with somebody else's token. -/
def strays (config : RegistryConfig) (calls : List RegistryCall) : Nat :=
  (List.range calls.length).countP fun i =>
    ∃ call ∈ calls[i]?, ¬ OwnToken (journal config (calls.take i)).state call

theorem strays_snoc (config : RegistryConfig) (calls : List RegistryCall) (call : RegistryCall) :
    strays config (calls ++ [call]) =
      strays config calls + if OwnToken (journal config calls).state call then 0 else 1 := by
  unfold strays
  rw [List.length_append, List.length_singleton, List.range_succ, List.countP_append]
  congr 1
  · apply List.countP_congr
    intro i inside
    have before : i < calls.length := List.mem_range.mp inside
    rw [List.getElem?_append_left before, List.take_append_of_le_length before.le]
  · by_cases own : OwnToken (journal config calls).state call <;> simp [own]

theorem Linked.tokenCount_erase (linked : s.Linked) {name : String} {entry : PairingEntry}
    (live : s.pairings.lookup name = some entry) :
    tokenCount ⟨s.pairings.erase name, s.tokens.erase entry.token⟩ + s.activeCount =
      s.tokenCount + activeCount ⟨s.pairings.erase name, s.tokens.erase entry.token⟩ := by
  have entries := FiniteMap.card_keys_erase live
  have tokens := FiniteMap.card_keys_erase (linked.token name entry live)
  simp only [tokenCount, activeCount]
  omega

theorem Linked.tokenCount_sweep (linked : s.Linked) :
    (cleanupExpired config now s).2.tokenCount + s.activeCount =
      s.tokenCount + (cleanupExpired config now s).2.activeCount := by
  have both : (cleanupExpired config now s).2.Linked ∧
      (cleanupExpired config now s).2.tokenCount + s.activeCount =
        s.tokenCount + (cleanupExpired config now s).2.activeCount := by
    apply cleanupExpired_rule (fun acc => acc.2.Linked ∧
      acc.2.tokenCount + s.activeCount = s.tokenCount + acc.2.activeCount) ⟨linked, rfl⟩
    intro acc name entry holds live
    unfold sweep
    split
    · have round := holds.1.tokenCount_erase live
      refine ⟨holds.1.erase_pair live, ?_⟩
      unfold PairingEntry.token at round
      dsimp only
      omega
    · exact holds
  exact both.2

/-- A call changes both counts alike unless it removes an entry with somebody else's token. -/
theorem tokenCount_perform (linked : s.Linked) (config : RegistryConfig) (channel : Chan)
    (call : RegistryCall)
    (unused : ∀ t, (perform config channel s call).1.issued = some t → s.tokens.lookup t = none) :
    (perform config channel s call).2.tokenCount + s.activeCount =
      s.tokenCount + (perform config channel s call).2.activeCount +
        if OwnToken s call then 0 else 1 := by
  cases call with
  | register call =>
      have own : OwnToken s (.register call) := trivial
      rw [if_pos own]
      cases live : s.pairings.lookup call.request.pairingName with
      | none =>
          simp only [perform, register_waits live, seen, Moment.issued,
            Option.some.injEq, forall_eq'] at unused ⊢
          simp only [tokenCount, activeCount, FiniteMap.card_keys_insert live]
          rw [FiniteMap.card_keys_insert unused]
          omega
      | some entry =>
          by_cases check : Reconnects s call.request entry
          · simp only [perform, register_resumes live check, tokenCount,
              activeCount, FiniteMap.keys_replace live]
            omega
          · simp only [perform, register_pairs live check]
            exact linked.tokenCount_erase live
  | unregister name token =>
      cases live : s.pairings.lookup name with
      | none =>
          have own : OwnToken s (.unregister name token) := by
            intro entry found
            cases live.symm.trans found
          simp only [perform, unregister_vacant live, if_pos own]
          omega
      | some entry =>
          simp only [perform, unregister_live live]
          by_cases same : entry.token = token
          · subst same
            have own : OwnToken s (.unregister name entry.token) := by
              intro entry' found
              cases live.symm.trans found
              rfl
            rw [if_pos rfl, if_pos own]
            exact linked.tokenCount_erase live
          · have foreign : ¬ OwnToken s (.unregister name token) := fun own => same (own entry live)
            rw [if_neg same, if_neg foreign]
            have fewer := FiniteMap.card_keys_erase live
            simp only [tokenCount, activeCount]
            omega
  | cleanupExpired now =>
      have own : OwnToken s (.cleanupExpired now) := trivial
      rw [if_pos own]
      exact linked.tokenCount_sweep

/-- After every run with fresh tokens there is a token for every entry and one for every
    `unregister` so far that removed an entry with somebody else's token. -/
theorem tokens_left_behind (config : RegistryConfig) (calls : List RegistryCall)
    (fresh : FreshTokens config calls) :
    (journal config calls).state.tokenCount =
      (journal config calls).state.activeCount + strays config calls := by
  induction calls using List.reverseRecOn with
  | nil => rfl
  | append_singleton calls call ih =>
      have before := ih fresh.of_snoc
      obtain ⟨linked, drawn, -⟩ := journal_sound fresh.of_snoc
      have step := tokenCount_perform linked config (journal config calls).past.length call
        (fresh.unused drawn)
      rw [strays_snoc, journal_snoc]
      simp only [Journal.record]
      omega

/-- Twice a client that has been paired gives up late, and takes the next client's entry away. -/
theorem late_unregisters_leave_tokens :
    let config : RegistryConfig := ⟨60, "s"⟩
    let info : Nat → PeerConnectionData := fun i => ⟨⟨10, 0, 0, .ofNat i⟩, 4000⟩
    let calls : List RegistryCall :=
      [ .register ⟨⟨"a", info 1, none⟩, ⟨1⟩, 0, 0⟩, .register ⟨⟨"a", info 2, none⟩, ⟨2⟩, 1, 1⟩,
        .register ⟨⟨"a", info 3, none⟩, ⟨3⟩, 2, 2⟩, .unregister "a" ⟨1⟩,
        .register ⟨⟨"a", info 4, none⟩, ⟨4⟩, 3, 3⟩, .unregister "a" ⟨3⟩,
        .register ⟨⟨"a", info 5, none⟩, ⟨5⟩, 4, 4⟩, .cleanupExpired 5 ]
    FreshTokens config calls ∧ strays config calls = 2 ∧
      (journal config calls).state.activeCount = 1 ∧ (journal config calls).state.tokenCount = 3 := by
  intro config info calls
  have fresh : FreshTokens config calls := by decide +kernel
  have two : strays config calls = 2 := by decide +kernel
  have one : (journal config calls).state.activeCount = 1 := by decide +kernel
  have tokens := tokens_left_behind config calls fresh
  rw [one, two] at tokens
  exact ⟨fresh, two, one, tokens⟩

/-! ## Entries of the recent past -/

/-- The time of a cleanup. -/
def sweepTime : RegistryCall → Option Instant
  | .cleanupExpired now => some now
  | _ => none

/-- When the task of `start_cleanup_task` wakes up: at once, and then after every interval. -/
def ticks (start interval : Instant) (count : Nat) : List Instant :=
  (List.range count).map fun i => start + i * interval

/-- The name under which a call registers a client, if it does so at that time or later. -/
def registeredSince (time : Instant) : RegistryCall → Option String
  | .register call => if time ≤ call.now then some call.request.pairingName else none
  | _ => none

theorem entry_of_perform {channel : Chan} {call : RegistryCall} {name : String} {entry : PairingEntry}
    (found : (perform config channel s call).2.pairings.lookup name = some entry) :
    (∃ opened, call = .register opened ∧ opened.request.pairingName = name ∧
        opened.now = entry.createdAt) ∨
      (∃ old, s.pairings.lookup name = some old ∧ old.createdAt = entry.createdAt) ∧
        ∀ now, call = .cleanupExpired now → now ≤ entry.createdAt + config.pairingTimeout := by
  cases call with
  | register call =>
      cases live : s.pairings.lookup call.request.pairingName with
      | none =>
          simp only [perform, register_waits live] at found
          obtain ⟨rfl, rfl⟩ | ⟨-, found⟩ := FiniteMap.of_lookup_insert found
          · exact .inl ⟨call, rfl, rfl, rfl⟩
          · exact .inr ⟨⟨entry, found, rfl⟩, fun now same => by cases same⟩
      | some old =>
          refine .inr ⟨?_, fun now same => by cases same⟩
          by_cases check : Reconnects s call.request old
          · simp only [perform, register_resumes live check] at found
            obtain ⟨rfl, rfl⟩ | ⟨-, found⟩ := FiniteMap.of_lookup_insert found
            · exact ⟨old, live, rfl⟩
            · exact ⟨entry, found, rfl⟩
          · simp only [perform, register_pairs live check] at found
            exact ⟨entry, (FiniteMap.of_lookup_erase found).2, rfl⟩
  | unregister name token =>
      refine .inr ⟨⟨entry, (of_lookup_unregister found).2, rfl⟩, fun now same => by cases same⟩
  | cleanupExpired time =>
      obtain ⟨live, young⟩ := cleanupExpired_pairings.mp found
      refine .inr ⟨⟨entry, live, rfl⟩, ?_⟩
      intro now same
      cases same
      rw [expired, decide_eq_false_iff_not, Nat.not_lt] at young
      exact Nat.sub_le_iff_le_add'.mp young

/-- An entry was made by a registration under its name, and every cleanup so far came within
    the timeout from then, if time does not go back. -/
theorem entry_made_and_spared (ordered : InOrder calls) {name : String} {entry : PairingEntry}
    (live : (journal config calls).state.pairings.lookup name = some entry) :
    (∃ opened, .register opened ∈ calls ∧ opened.request.pairingName = name ∧
        opened.now = entry.createdAt) ∧
      ∀ now, .cleanupExpired now ∈ calls → now ≤ entry.createdAt + config.pairingTimeout := by
  induction calls using List.reverseRecOn generalizing entry with
  | nil => simp [journal, Journal.keep, new] at live
  | append_singleton calls call ih =>
      rw [journal_snoc] at live
      unfold InOrder at ordered
      rw [List.filterMap_append, List.pairwise_append] at ordered
      obtain ⟨before, -, last⟩ := ordered
      rcases entry_of_perform live with ⟨opened, same, under, dated⟩ | ⟨⟨old, found, dated⟩, spared⟩
      · subst same
        refine ⟨⟨opened, by simp, under, dated⟩, ?_⟩
        intro now member
        have earlier : RegistryCall.cleanupExpired now ∈ calls := by simpa using member
        have order := last now (List.mem_filterMap.mpr ⟨_, earlier, rfl⟩) opened.now
          (List.mem_filterMap.mpr ⟨_, List.mem_singleton_self _, rfl⟩)
        exact (order.trans dated.le).trans (Nat.le_add_right _ _)
      · obtain ⟨⟨opened, member, under, created⟩, swept⟩ := ih before found
        refine ⟨⟨opened, List.mem_append_left _ member, under, created.trans dated⟩, ?_⟩
        intro now member
        obtain earlier | latest := List.mem_append.mp member
        · exact dated ▸ swept now earlier
        · exact spared now (List.mem_singleton.mp latest).symm

/-- Let time not go back, let the cleanup task wake up whenever it is due, and look at the
    registry before its next tick. No entry is older than the timeout and one interval together,
    and there are not more entries than clients have registered within that time. -/
theorem entries_are_recent (config : RegistryConfig) (calls : List RegistryCall)
    (ordered : InOrder calls) {start interval : Instant} {n : Nat}
    (swept : calls.filterMap sweepTime = ticks start interval (n + 1)) (now : Instant)
    (early : now ≤ start + (n + 1) * interval) :
    (∀ name entry, (journal config calls).state.pairings.lookup name = some entry →
        now ≤ entry.createdAt + (config.pairingTimeout + interval)) ∧
      (journal config calls).state.activeCount ≤
        (calls.filterMap (registeredSince (now - (config.pairingTimeout + interval)))).length := by
  have lastTick : RegistryCall.cleanupExpired (start + n * interval) ∈ calls := by
    have member : start + n * interval ∈ calls.filterMap sweepTime := by
      rw [swept]
      exact List.mem_map.mpr ⟨n, List.mem_range.mpr (Nat.lt_succ_self n), rfl⟩
    obtain ⟨call, member, dated⟩ := List.mem_filterMap.mp member
    cases call with
    | register | unregister => cases dated
    | cleanupExpired time =>
        cases dated
        exact member
  have young : ∀ name entry, (journal config calls).state.pairings.lookup name = some entry →
      now ≤ entry.createdAt + (config.pairingTimeout + interval) := by
    intro name entry live
    calc now ≤ start + (n + 1) * interval := early
      _ = start + n * interval + interval := by rw [Nat.succ_mul, Nat.add_assoc]
      _ ≤ entry.createdAt + config.pairingTimeout + interval :=
          Nat.add_le_add_right ((entry_made_and_spared ordered live).2 _ lastTick) interval
      _ = entry.createdAt + (config.pairingTimeout + interval) := Nat.add_assoc _ _ _
  refine ⟨young, ?_⟩
  -- Every name with an entry is among the names registered since then.
  have names : (journal config calls).state.pairings.keys ⊆
      (calls.filterMap (registeredSince (now - (config.pairingTimeout + interval)))).toFinset := by
    intro name member
    obtain ⟨entry, live⟩ := Finmap.mem_iff.mp (Finmap.mem_keys.mp member)
    obtain ⟨⟨opened, made, under, dated⟩, -⟩ := entry_made_and_spared ordered live
    have since := Nat.sub_le_iff_le_add.mpr (young name entry live)
    rw [List.mem_toFinset, List.mem_filterMap]
    exact ⟨.register opened, made, by rw [registeredSince, dated, if_pos since, under]⟩
  exact (Finset.card_le_card names).trans (List.toFinset_card_le _)

/-- With a timeout of 60 and an interval of 30, the fourth tick takes the first client away. -/
theorem fourth_tick_leaves_one_entry :
    let config : RegistryConfig := ⟨60, "s"⟩
    let calls : List RegistryCall :=
      [ .cleanupExpired 0, .register ⟨⟨"a", ⟨⟨10, 0, 0, 1⟩, 4001⟩, none⟩, ⟨1⟩, 10, 10⟩,
        .cleanupExpired 30, .register ⟨⟨"b", ⟨⟨10, 0, 0, 2⟩, 4002⟩, none⟩, ⟨2⟩, 40, 40⟩,
        .cleanupExpired 60, .cleanupExpired 90 ]
    InOrder calls ∧ calls.filterMap sweepTime = ticks 0 30 (3 + 1) ∧
      (journal config calls).state.activeCount ≤ 1 := by
  intro config calls
  have ordered : InOrder calls := by decide +kernel
  have swept : calls.filterMap sweepTime = ticks 0 30 (3 + 1) := by decide +kernel
  have few := (entries_are_recent config calls ordered swept 115 (by decide)).2
  exact ⟨ordered, swept, few⟩

end TCPunch.InMemoryRegistry
