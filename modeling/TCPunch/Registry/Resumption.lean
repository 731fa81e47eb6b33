import TCPunch.Registry.Journal

/-! # Coming back in memory

A token lets its client back in exactly while the client's entry is there, and counts
for nothing otherwise. Coming back does not renew the entry: it keeps the time of the
call that opened the session, and `cleanup_expired` goes by that time.
-/

namespace TCPunch

open Rendezvous

/-- The time of a call, if anything depends on it. -/
def RegistryCall.time : RegistryCall → Option Instant
  | .register call => some call.now
  | .unregister _ _ => none
  | .cleanupExpired now => some now

namespace InMemoryRegistry

variable {config : RegistryConfig} {calls : List RegistryCall} {s : InMemoryRegistry}

/-- The entry under the name carries the token. -/
def Carries (s : InMemoryRegistry) (name : String) (token : Uuid) : Prop :=
  ∃ entry, s.pairings.lookup name = some entry ∧ entry.waitingClient.reconnectToken = token

theorem Linked.register_own (linked : s.Linked) (draws : Draws) (info : PeerConnectionData)
    {name : String} {entry : PairingEntry} (live : s.pairings.lookup name = some entry) :
    (register config draws ⟨name, info, some entry.waitingClient.reconnectToken⟩).run answer s =
      (.ok ⟨.resumed entry.waitingClient.reconnectToken draws.channel, []⟩,
        { s with pairings := s.pairings.insert name (moveTo info draws.channel entry) }) :=
  register_resumes live ((linked.reconnects_iff live).mpr rfl)

/-- A token that the entry does not carry is as good as none. -/
theorem register_stranger (draws : Draws) (info : PeerConnectionData) {name : String} {token : Uuid}
    (stranger : ¬ Carries s name token) :
    (register config draws ⟨name, info, some token⟩).run answer s =
      (register config draws ⟨name, info, none⟩).run answer s := by
  have shown : (register config draws ⟨name, info, some token⟩).run answer s =
      (pairOrWait config draws name info).run answer s := by
    apply register_otherwise
    intro entry live check
    exact stranger ⟨entry, live, (Option.some.inj check.1).symm⟩
  have silent : (register config draws ⟨name, info, none⟩).run answer s =
      (pairOrWait config draws name info).run answer s := by
    apply register_otherwise
    intro entry live check
    cases check.1
  rw [shown, silent]

theorem not_resumed_without_token (draws : Draws) (name : String) (info : PeerConnectionData)
    {t channel sent} :
    ((register config draws ⟨name, info, none⟩).run answer s).1 ≠ .ok ⟨.resumed t channel, sent⟩ := by
  cases live : s.pairings.lookup name with
  | none =>
      have waits : (register config draws ⟨name, info, none⟩).run answer s = _ := register_waits live
      simp [waits]
  | some entry =>
      have pairs : (register config draws ⟨name, info, none⟩).run answer s = _ :=
        register_pairs live fun check => by cases check.1
      simp [pairs]

/-- In a run with fresh tokens, a token that is shown resumes the entry that carries it,
    of which the address and the channel change. Any other call goes as if no token had been
    shown. So nobody is paired with their own entry. -/
theorem resumes_own_entry_only (config : RegistryConfig) (calls : List RegistryCall)
    (fresh : FreshTokens config calls) (name : String) (info : PeerConnectionData) (token : Uuid)
    (draws : Draws) :
    let s := (journal config calls).state
    let run := fun shown => (register config draws ⟨name, info, shown⟩).run answer s
    ((∃ t channel sent, (run (some token)).1 = .ok ⟨.resumed t channel, sent⟩) ↔
        ∃ entry, s.pairings.lookup name = some entry ∧
          entry.waitingClient.reconnectToken = token) ∧
      (∀ entry, s.pairings.lookup name = some entry →
        entry.waitingClient.reconnectToken = token →
          run (some token) =
            (.ok ⟨.resumed token draws.channel, []⟩,
              { s with
                pairings := s.pairings.insert name
                  { entry with
                    waitingClient := { entry.waitingClient with connectionInfo := info }
                    notifyTx := some draws.channel } }) ∧
          ∀ t peer sent, (run (some token)).1 ≠ .ok ⟨.paired t peer, sent⟩) ∧
      ((¬ ∃ entry, s.pairings.lookup name = some entry ∧
          entry.waitingClient.reconnectToken = token) → run (some token) = run none) := by
  intro s run
  have linked : s.Linked := (journal_sound fresh).linked
  have own : ∀ entry, s.pairings.lookup name = some entry →
      entry.waitingClient.reconnectToken = token →
      run (some token) = (.ok ⟨.resumed token draws.channel, []⟩,
        { s with pairings := s.pairings.insert name (moveTo info draws.channel entry) }) := by
    intro entry live same
    subst same
    exact linked.register_own draws info live
  refine ⟨⟨?_, ?_⟩, ?_, register_stranger draws info⟩
  · intro resumed
    obtain ⟨t, channel, sent, resumed⟩ := resumed
    by_contra stranger
    have same : run (some token) = run none := register_stranger draws info stranger
    rw [same] at resumed
    exact not_resumed_without_token draws name info resumed
  · intro carries
    obtain ⟨entry, live, same⟩ := carries
    exact ⟨token, draws.channel, [], congrArg Prod.fst (own entry live same)⟩
  · intro entry live same
    refine ⟨own entry live same, ?_⟩
    intro t peer sent paired
    simp [own entry live same] at paired

/-- A client waits, and comes back from another address. -/
theorem resumes_own_entry_only_after_waiting :
    let calls : List RegistryCall := [.register ⟨⟨"a", ⟨⟨10, 0, 0, 1⟩, 4001⟩, none⟩, ⟨1⟩, 0, 0⟩]
    FreshTokens ⟨60, "s"⟩ calls ∧
      ((register ⟨60, "s"⟩ ⟨⟨2⟩, 1, 5, 5⟩ ⟨"a", ⟨⟨10, 0, 0, 7⟩, 4007⟩, some ⟨1⟩⟩).run answer
        (journal ⟨60, "s"⟩ calls).state).1 = .ok ⟨.resumed ⟨1⟩ 1, []⟩ := by
  intro calls
  have fresh : FreshTokens ⟨60, "s"⟩ calls := by decide
  have back := (resumes_own_entry_only ⟨60, "s"⟩ calls fresh "a" ⟨⟨10, 0, 0, 7⟩, 4007⟩ ⟨1⟩
    ⟨⟨2⟩, 1, 5, 5⟩).2.1
  exact ⟨fresh, congrArg Prod.fst (back _ rfl rfl).1⟩

/-! ## How long a client may wait -/

/-- The call opened a session under the name. -/
def OpensUnder (name : String) (moment : Moment String Uuid PeerConnectionData) : Prop :=
  ∃ info token channel, moment.outcome = .opened name info token channel

/-- The call was told to wait under the name, for the first time or again. -/
def WaitsUnder (name : String) (moment : Moment String Uuid PeerConnectionData) : Prop :=
  OpensUnder name moment ∨ ∃ info token channel, moment.outcome = .resumed name info token channel

/-- The calls are made at times that never go back. -/
def InOrder (calls : List RegistryCall) : Prop :=
  (calls.filterMap RegistryCall.time).Pairwise (· ≤ ·)

instance (calls : List RegistryCall) : Decidable (InOrder calls) :=
  inferInstanceAs (Decidable (List.Pairwise _ _))

theorem InOrder.le (ordered : InOrder calls) {i j : Nat} {first second : RegistryCall} {t u : Instant}
    (before : i ≤ j) (left : calls[i]? = some first) (right : calls[j]? = some second)
    (early : first.time = some t) (late : second.time = some u) : t ≤ u := by
  rcases Nat.eq_or_lt_of_le before with rfl | less
  · obtain rfl := Option.some.inj (left.symm.trans right)
    exact (Option.some.inj (early.symm.trans late)).le
  · obtain ⟨hi, rfl⟩ := List.getElem?_eq_some_iff.mp left
    obtain ⟨hj, rfl⟩ := List.getElem?_eq_some_iff.mp right
    have pairs := List.pairwise_iff_getElem.mp (List.pairwise_filterMap.mp ordered)
    exact pairs i j hi hj less t early u late

/-- An entry bears the time of the latest call that opened a session under its name, and
    some call was the latest to be told to wait there. -/
structure Timed (calls : List RegistryCall) (past : List (Moment String Uuid PeerConnectionData))
    (name : String) (entry : PairingEntry) : Prop where
  opened : ∃ i call, LastWhere (OpensUnder name) past i ∧ calls[i]? = some (.register call) ∧
    entry.createdAt = call.now
  waited : ∃ m call, LastWhere (WaitsUnder name) past m ∧ calls[m]? = some (.register call)

variable {past : List (Moment String Uuid PeerConnectionData)} {name : String} {entry : PairingEntry}
  {moment : Moment String Uuid PeerConnectionData}

theorem Timed.snoc (timed : Timed calls past name entry) (call : RegistryCall)
    (other : ¬ WaitsUnder name moment) :
    Timed (calls ++ [call]) (past ++ [moment]) name entry := by
  obtain ⟨⟨i, first, opens, opening, created⟩, m, last, waits, waiting⟩ := timed
  constructor
  · exact ⟨i, first, opens.snoc fun opens => other (.inl opens),
      (getElem?_snoc calls call i _).mpr (.inl opening), created⟩
  · exact ⟨m, last, waits.snoc other, (getElem?_snoc calls call m _).mpr (.inl waiting)⟩

/-- Every entry of the registry is timed. -/
def AllTimed (calls : List RegistryCall)
    (journal : Journal InMemoryRegistry (Moment String Uuid PeerConnectionData)) : Prop :=
  ∀ name entry, journal.state.pairings.lookup name = some entry → Timed calls journal.past name entry

theorem AllTimed.fewer {journal : Journal InMemoryRegistry (Moment String Uuid PeerConnectionData)}
    (timed : AllTimed calls journal) {after : InMemoryRegistry} (call : RegistryCall)
    (silent : ∀ name, ¬ WaitsUnder name moment)
    (kept : ∀ name entry, after.pairings.lookup name = some entry →
      journal.state.pairings.lookup name = some entry) :
    AllTimed (calls ++ [call]) ⟨after, journal.past ++ [moment]⟩ :=
  fun name entry live => (timed name entry (kept name entry live)).snoc call (silent name)

theorem AllTimed.insert {journal : Journal InMemoryRegistry (Moment String Uuid PeerConnectionData)}
    (timed : AllTimed calls journal) {tokens : FiniteMap Uuid String} {call : RegistryCall}
    (own : ∀ n, WaitsUnder n moment → n = name)
    (here : Timed (calls ++ [call]) (journal.past ++ [moment]) name entry) :
    AllTimed (calls ++ [call])
      ⟨{ pairings := journal.state.pairings.insert name entry, tokens }, journal.past ++ [moment]⟩ := by
  intro n e live
  obtain ⟨rfl, rfl⟩ | ⟨other, live⟩ := FiniteMap.of_lookup_insert live
  · exact here
  · exact (timed n e live).snoc call fun waits => other (own n waits)

theorem waitsUnder_opened {n info token channel sent} :
    WaitsUnder name ⟨.opened n info token channel, sent⟩ ↔ name = n := by
  constructor
  · rintro (⟨_, _, _, same⟩ | ⟨_, _, _, same⟩) <;> cases same
    rfl
  · rintro rfl
    exact .inl ⟨info, token, channel, rfl⟩

theorem waitsUnder_resumed {n info token channel sent} :
    WaitsUnder name ⟨.resumed n info token channel, sent⟩ ↔ name = n := by
  constructor
  · rintro (⟨_, _, _, same⟩ | ⟨_, _, _, same⟩) <;> cases same
    rfl
  · rintro rfl
    exact .inr ⟨info, token, channel, rfl⟩

theorem AllTimed.register {journal : Journal InMemoryRegistry (Moment String Uuid PeerConnectionData)}
    (timed : AllTimed calls journal) (count : calls.length = journal.past.length)
    (call : Registration) :
    AllTimed (calls ++ [.register call]) (journal.record (perform config) (.register call)) := by
  have written : (calls ++ [.register call])[journal.past.length]? = some (.register call) :=
    count ▸ List.getElem?_concat_length
  cases live : journal.state.pairings.lookup call.request.pairingName with
  | none =>
      simp only [Journal.record, perform, register_waits live, seen]
      refine timed.insert (fun n waits => waitsUnder_opened.mp waits) ⟨?_, ?_⟩
      · exact ⟨_, call, lastWhere_last _ ⟨_, _, _, rfl⟩, written, rfl⟩
      · exact ⟨_, call, lastWhere_last _ (waitsUnder_opened.mpr rfl), written⟩
  | some entry =>
      by_cases check : Reconnects journal.state call.request entry
      · simp only [Journal.record, perform, register_resumes live check, seen]
        -- The entry keeps the time it has.
        obtain ⟨i, first, opens, opening, created⟩ := (timed _ _ live).opened
        refine timed.insert (fun n waits => waitsUnder_resumed.mp waits) ⟨?_, ?_⟩
        · refine ⟨i, first, opens.snoc ?_, (getElem?_snoc calls _ i _).mpr (.inl opening), created⟩
          rintro ⟨_, _, _, same⟩
          cases same
        · exact ⟨_, call, lastWhere_last _ (waitsUnder_resumed.mpr rfl), written⟩
      · simp only [Journal.record, perform, register_pairs live check, seen]
        apply timed.fewer
        · rintro n (⟨_, _, _, same⟩ | ⟨_, _, _, same⟩) <;> cases same
        · exact fun n e found => (FiniteMap.of_lookup_erase found).2

theorem AllTimed.perform {journal : Journal InMemoryRegistry (Moment String Uuid PeerConnectionData)}
    (timed : AllTimed calls journal) (count : calls.length = journal.past.length)
    (call : RegistryCall) :
    AllTimed (calls ++ [call]) (journal.record (perform config) call) := by
  have silent : ∀ (tokens : Set Uuid) (n : String),
      ¬ WaitsUnder n (⟨.cleared tokens, []⟩ : Moment String Uuid PeerConnectionData) := by
    rintro tokens n (⟨_, _, _, same⟩ | ⟨_, _, _, same⟩) <;> cases same
  cases call with
  | register call => exact timed.register count call
  | unregister name token =>
      exact timed.fewer _ (silent _) fun n e found => (of_lookup_unregister found).2
  | cleanupExpired now =>
      exact timed.fewer _ (silent _) fun n e found => (cleanupExpired_pairings.mp found).1

theorem journal_timed (config : RegistryConfig) (calls : List RegistryCall) :
    AllTimed calls (journal config calls) := by
  induction calls using List.reverseRecOn with
  | nil => intro name entry live; simp [journal, Journal.keep, new] at live
  | append_singleton calls call ih =>
      rw [journal_snoc]
      exact ih.perform (Journal.keep_past_length _ _ _).symm call

/-- A client waits under a name and `cleanup_expired` is called at time `now`, within the
    timeout from the latest time the client was told to wait. The entry is spared exactly
    if `now` is within the timeout from the call that opened the session, too. So every
    such cleanup spares the entry exactly if the client has not come back since. -/
theorem spared_iff_opened_recently (config : RegistryConfig) (calls : List RegistryCall)
    (ordered : InOrder calls) {name : String} {entry : PairingEntry}
    (live : (journal config calls).state.pairings.lookup name = some entry) :
    ∃ i opened m latest,
      LastWhere (OpensUnder name) (journal config calls).past i ∧
      calls[i]? = some (.register opened) ∧
      LastWhere (WaitsUnder name) (journal config calls).past m ∧
      calls[m]? = some (.register latest) ∧
      opened.now ≤ latest.now ∧
      (∀ now, InOrder (calls ++ [.cleanupExpired now]) →
        now - latest.now ≤ config.pairingTimeout →
          ((cleanupExpired config now (journal config calls).state).2.pairings.lookup name =
              some entry ↔ now - opened.now ≤ config.pairingTimeout)) ∧
      ((∀ now, latest.now ≤ now → now - latest.now ≤ config.pairingTimeout →
          (cleanupExpired config now (journal config calls).state).2.pairings.lookup name =
            some entry) ↔ latest.now = opened.now) := by
  obtain ⟨⟨i, opened, opens, opening, created⟩, m, latest, waits, waiting⟩ :=
    journal_timed config calls name entry live
  have spared : ∀ now, (cleanupExpired config now (journal config calls).state).2.pairings.lookup name =
      some entry ↔ now - opened.now ≤ config.pairingTimeout := by
    intro now
    rw [cleanupExpired_pairings, expired, created, decide_eq_false_iff_not, Nat.not_lt]
    exact and_iff_right live
  have order : i ≤ m := by
    obtain ⟨moment, found, here⟩ := opens.1
    by_contra later
    exact waits.2 i moment (by omega) found (.inl here)
  have since : opened.now ≤ latest.now := ordered.le order opening waiting rfl rfl
  refine ⟨i, opened, m, latest, opens, opening, waits, waiting, since, fun now _ _ => spared now, ?_⟩
  simp only [spared]
  constructor
  · intro always
    have last := always (latest.now + config.pairingTimeout) (Nat.le_add_right _ _)
      (Nat.add_sub_cancel_left ..).le
    have bound : ∀ a b t : Nat, a + t - b ≤ t → a ≤ b := by omega
    exact (bound _ _ _ last).antisymm since
  · intro same now _ within
    rwa [← same]

/-- A client waits from time 0 on and comes back at time 50. With a timeout of 60 its entry
    goes at time 61. -/
theorem resumed_client_dropped_early :
    let config : RegistryConfig := ⟨60, "s"⟩
    let calls : List RegistryCall :=
      [ .register ⟨⟨"a", ⟨⟨10, 0, 0, 1⟩, 4001⟩, none⟩, ⟨1⟩, 0, 0⟩,
        .register ⟨⟨"a", ⟨⟨10, 0, 0, 7⟩, 4007⟩, some ⟨1⟩⟩, ⟨2⟩, 50, 50⟩ ]
    let s := (journal config calls).state
    InOrder (calls ++ [.cleanupExpired 61]) ∧ FreshTokens config calls ∧
      (journal config calls).past[1]? = some ⟨.resumed "a" ⟨⟨10, 0, 0, 7⟩, 4007⟩ ⟨1⟩ 1, []⟩ ∧
      61 - 50 ≤ config.pairingTimeout ∧
      s.pairings.lookup "a" = some ⟨⟨⟨⟨10, 0, 0, 7⟩, 4007⟩, ⟨1⟩, "s", 0⟩, some 1, 0⟩ ∧
      (cleanupExpired config 61 s).2.pairings.lookup "a" = none := by
  refine ⟨by decide, by decide, rfl, by decide, by decide, by decide⟩

/-- The same client is still there at time 60. -/
theorem resumed_client_spared :
    let config : RegistryConfig := ⟨60, "s"⟩
    let calls : List RegistryCall :=
      [ .register ⟨⟨"a", ⟨⟨10, 0, 0, 1⟩, 4001⟩, none⟩, ⟨1⟩, 0, 0⟩,
        .register ⟨⟨"a", ⟨⟨10, 0, 0, 7⟩, 4007⟩, some ⟨1⟩⟩, ⟨2⟩, 50, 50⟩ ]
    let s := (journal config calls).state
    let entry : PairingEntry := ⟨⟨⟨⟨10, 0, 0, 7⟩, 4007⟩, ⟨1⟩, "s", 0⟩, some 1, 0⟩
    InOrder calls ∧ s.pairings.lookup "a" = some entry ∧
      InOrder (calls ++ [.cleanupExpired 60]) ∧
      (cleanupExpired config 60 s).2.pairings.lookup "a" = some entry := by
  intro config calls s entry
  have ordered : InOrder calls := by decide
  have later : InOrder (calls ++ [.cleanupExpired 60]) := by decide
  have live : s.pairings.lookup "a" = some entry := by decide
  obtain ⟨i, opened, m, latest, -, -, -, -, -, spared, -⟩ :=
    spared_iff_opened_recently config calls ordered live
  -- Whoever opened the session, at most 60 have passed at time 60.
  exact ⟨ordered, live, later, (spared 60 later (Nat.sub_le ..)).mpr (Nat.sub_le ..)⟩

end InMemoryRegistry

end TCPunch
