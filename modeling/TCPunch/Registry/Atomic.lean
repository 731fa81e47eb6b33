import TCPunch.Registry.InMemory

/-! # Atomic behaviour of the in-memory registry

One lemma for each way in which a whole call can end. Callers below cite these and
never look into the programs again. `Linked` is the part of the representation
invariant that every sequence of calls keeps: it lets the reconnection check be
read off the entry alone.
-/

namespace TCPunch.InMemoryRegistry

variable {config : RegistryConfig} {draws : Draws} {request : Request} {s : InMemoryRegistry}

/-- The reconnection check of `register` succeeds on this entry. -/
def Reconnects (s : InMemoryRegistry) (request : Request) (entry : PairingEntry) : Prop :=
  request.reconnectToken = some entry.token ∧
    s.tokens.lookup entry.token = some request.pairingName

theorem pairOrWait_pairs {name info entry} (live : s.pairings.lookup name = some entry) :
    (pairOrWait config draws name info).run answer s =
      (.ok { result := .paired draws.newV4 entry.waitingClient.connectionInfo
             sent := entry.notifyTx.toList.map fun tx => { channel := tx, peer := info } },
        { pairings := s.pairings.erase name, tokens := s.tokens.erase entry.token }) := by
  simp only [pairOrWait, pairingsRemove, Program.call_bind, Program.run_call, answer]
  rw [live]
  rfl

theorem pairOrWait_waits {name info} (vacant : s.pairings.lookup name = none) :
    (pairOrWait config draws name info).run answer s =
      (.ok { result := .waiting draws.newV4 draws.channel, sent := [] },
        { pairings := s.pairings.insert name (firstEntry config draws info)
          tokens := s.tokens.insert draws.newV4 name }) := by
  simp only [pairOrWait, pairingsRemove, Program.call_bind, Program.run_call, answer]
  rw [vacant, FiniteMap.erase_of_absent vacant]
  rfl

theorem register_otherwise
    (check : ∀ entry, s.pairings.lookup request.pairingName = some entry →
      ¬ Reconnects s request entry) :
    (register config draws request).run answer s =
      (pairOrWait config draws request.pairingName request.clientInfo).run answer s := by
  cases shown : request.reconnectToken with
  | none => simp only [register, shown]
  | some token =>
      simp only [register, shown, tokensGet, Program.call_bind, Program.run_call, answer]
      cases known : s.tokens.lookup token with
      | none => rfl
      | some stored =>
          by_cases same : stored = request.pairingName
          · subst same
            have noUpdate : (s.pairings.lookup request.pairingName).bind
                (resume token request.clientInfo draws.channel) = none := by
              cases live : s.pairings.lookup request.pairingName with
              | none => rfl
              | some entry =>
                  have other : entry.token ≠ token := fun own =>
                    check entry live ⟨by rw [shown, own], by rw [own, known]⟩
                  simp only [Option.bind_some, resume, other, if_false]
            simp only [Program.done_bind, if_true, pairingsGetMut, Program.call_bind,
              Program.run_call, answer, noUpdate]
            rfl
          · simp only [Program.done_bind, same, if_false]

theorem register_resumes {entry} (live : s.pairings.lookup request.pairingName = some entry)
    (check : Reconnects s request entry) :
    (register config draws request).run answer s =
      (.ok { result := .resumed entry.token draws.channel, sent := [] },
        { s with pairings := s.pairings.insert request.pairingName
                  (moveTo request.clientInfo draws.channel entry) }) := by
  obtain ⟨shown, known⟩ := check
  have update : (s.pairings.lookup request.pairingName).bind
      (resume entry.token request.clientInfo draws.channel) =
        some (moveTo request.clientInfo draws.channel entry) := by
    simp only [live, Option.bind_some, resume, if_true]
  simp only [register, shown, tokensGet, Program.call_bind, Program.run_call, answer, known,
    Program.done_bind, if_true, pairingsGetMut, update]
  rfl

theorem register_pairs {entry} (live : s.pairings.lookup request.pairingName = some entry)
    (check : ¬ Reconnects s request entry) :
    (register config draws request).run answer s =
      (.ok { result := .paired draws.newV4 entry.waitingClient.connectionInfo
             sent := entry.notifyTx.toList.map fun tx =>
               { channel := tx, peer := request.clientInfo } },
        { pairings := s.pairings.erase request.pairingName
          tokens := s.tokens.erase entry.token }) := by
  rw [register_otherwise, pairOrWait_pairs live]
  intro entry' live'
  obtain rfl := Option.some.inj (live.symm.trans live')
  exact check

theorem register_waits (vacant : s.pairings.lookup request.pairingName = none) :
    (register config draws request).run answer s =
      (.ok { result := .waiting draws.newV4 draws.channel, sent := [] },
        { pairings := s.pairings.insert request.pairingName
            (firstEntry config draws request.clientInfo)
          tokens := s.tokens.insert draws.newV4 request.pairingName }) := by
  rw [register_otherwise, pairOrWait_waits vacant]
  intro entry live
  simp [vacant] at live

theorem unregister_vacant {name token} (vacant : s.pairings.lookup name = none) :
    (unregister name token).run answer s = (.ok (), s) := by
  simp only [unregister, pairingsRemove, Program.call_bind, Program.run_call, answer]
  rw [vacant, FiniteMap.erase_of_absent vacant]
  rfl

/-- The entry goes whoever owns it; only the token index depends on the owner. -/
theorem unregister_live {name token entry} (live : s.pairings.lookup name = some entry) :
    (unregister name token).run answer s =
      (.ok (), { pairings := s.pairings.erase name
                 tokens := if entry.token = token then s.tokens.erase token else s.tokens }) := by
  simp only [unregister, pairingsRemove, Program.call_bind, Program.run_call, answer]
  rw [live]
  by_cases own : entry.waitingClient.reconnectToken = token
  · simp only [Program.done_bind, own, if_true]; rfl
  · simp only [Program.done_bind, own, if_false]; rfl

theorem lookup_after_unregister (name : String) (token : Uuid) (n : String) :
    ((unregister name token).run answer s).2.pairings.lookup n =
      if n = name then none else s.pairings.lookup n := by
  cases live : s.pairings.lookup name with
  | none =>
      rw [unregister_vacant live]
      split
      · rename_i same; rw [same, live]
      · rfl
  | some entry => rw [unregister_live live, FiniteMap.lookup_erase_if]

theorem of_lookup_unregister {name : String} {token : Uuid} {n : String} {entry : PairingEntry}
    (found : ((unregister name token).run answer s).2.pairings.lookup n = some entry) :
    n ≠ name ∧ s.pairings.lookup n = some entry := by
  rw [lookup_after_unregister] at found
  split at found
  · cases found
  · exact ⟨‹_›, found⟩

/-! ## Expiry -/

private theorem sweep_entries (now : Instant) (entries : List (Σ _ : String, PairingEntry))
    (acc : Nat × InMemoryRegistry) :
    let swept := entries.foldl (fun acc entry => sweep config now acc entry.1 entry.2) acc
    (∀ name entry, swept.2.pairings.lookup name = some entry ↔
        acc.2.pairings.lookup name = some entry ∧
          ∀ e, ⟨name, e⟩ ∈ entries → expired config now e = false) ∧
      ∀ token name, swept.2.tokens.lookup token = some name ↔
        acc.2.tokens.lookup token = some name ∧
          ∀ n e, ⟨n, e⟩ ∈ entries → expired config now e = true → e.token ≠ token := by
  induction entries generalizing acc with
  | nil => simp
  | cons head rest ih =>
      obtain ⟨n, e⟩ := head
      obtain ⟨pairings, tokens⟩ := ih (sweep config now acc n e)
      refine ⟨fun name entry => (pairings name entry).trans ?_,
        fun token name => (tokens token name).trans ?_⟩
      all_goals
        by_cases old : expired config now e = true
        · simp only [sweep, old, if_true, FiniteMap.lookup_erase_if]
          grind
        · simp only [sweep, old, Bool.false_eq_true, if_false]
          grind

/-- What holds before `cleanup_expired` and after every round for a live entry holds at its end. -/
theorem cleanupExpired_rule {now : Instant} (inv : Nat × InMemoryRegistry → Prop) (start : inv (0, s))
    (round : ∀ acc name entry, inv acc → acc.2.pairings.lookup name = some entry →
      inv (sweep config now acc name entry)) : inv (cleanupExpired config now s) := by
  obtain ⟨entries, distinct, member, fold⟩ := FiniteMap.exists_entries s.pairings
  have live : ∀ name entry, ⟨name, entry⟩ ∈ entries → s.pairings.lookup name = some entry :=
    fun name entry inside => (member name entry).mp inside
  rw [cleanupExpired, fold]
  clear fold member
  -- The induction is on the entries still to come, which no earlier round has touched.
  change ∀ name entry, _ → (0, s).2.pairings.lookup name = some entry at live
  generalize (0, s) = acc at start live ⊢
  induction entries generalizing acc with
  | nil => exact start
  | cons head rest ih =>
      obtain ⟨n, e⟩ := head
      rw [List.map_cons, List.nodup_cons] at distinct
      apply ih distinct.2 _ (round acc n e start (live n e (.head _)))
      intro name entry inside
      have other : name ≠ n := by
        intro same
        subst same
        exact distinct.1 (List.mem_map.mpr ⟨_, inside, rfl⟩)
      have found := live name entry (.tail _ inside)
      unfold sweep
      split
      · rw [FiniteMap.lookup_erase_if, if_neg other, found]
      · exact found

theorem cleanupExpired_pairings {now name entry} :
    (cleanupExpired config now s).2.pairings.lookup name = some entry ↔
      s.pairings.lookup name = some entry ∧ expired config now entry = false := by
  obtain ⟨entries, -, member, fold⟩ := FiniteMap.exists_entries s.pairings
  rw [cleanupExpired, fold, (sweep_entries now entries (0, s)).1]
  simp only [member]
  grind

theorem cleanupExpired_tokens {now token name} :
    (cleanupExpired config now s).2.tokens.lookup token = some name ↔
      s.tokens.lookup token = some name ∧ ∀ n e, s.pairings.lookup n = some e →
        expired config now e = true → e.token ≠ token := by
  obtain ⟨entries, -, member, fold⟩ := FiniteMap.exists_entries s.pairings
  rw [cleanupExpired, fold, (sweep_entries now entries (0, s)).2]
  simp only [member]

/-! ## Entries are linked to their tokens -/

/-- Every live entry can be found by its token and has a sender. -/
structure Linked (s : InMemoryRegistry) : Prop where
  token : ∀ name entry, s.pairings.lookup name = some entry →
    s.tokens.lookup entry.token = some name
  sender : ∀ name entry, s.pairings.lookup name = some entry → ∃ tx, entry.notifyTx = some tx

theorem Linked.name_unique (linked : s.Linked) {name name' entry entry'}
    (live : s.pairings.lookup name = some entry) (live' : s.pairings.lookup name' = some entry')
    (same : entry.token = entry'.token) : name = name' := by
  have left := linked.token name entry live
  rw [same, linked.token name' entry' live'] at left
  exact (Option.some.inj left).symm

/-- In a linked registry the reconnection check only asks for the entry's token. -/
theorem Linked.reconnects_iff (linked : s.Linked) {entry}
    (live : s.pairings.lookup request.pairingName = some entry) :
    Reconnects s request entry ↔ request.reconnectToken = some entry.token :=
  ⟨fun check => check.1, fun shown => ⟨shown, linked.token _ _ live⟩⟩

theorem linked_new : new.Linked where
  token := by intro name entry live; simp [new] at live
  sender := by intro name entry live; simp [new] at live

end TCPunch.InMemoryRegistry
