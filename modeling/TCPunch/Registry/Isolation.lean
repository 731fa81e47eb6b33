import TCPunch.Registry.Journal

/-! # Names do not interfere

All names share one map of tokens, which is read and written by token alone. Two runs are
compared: any run, and the run that is left when all calls on names other than a given one
are taken out. Calls keep the channels they had in the full run. As long as no token is
drawn twice, the calls on the name cannot tell the two runs apart.
-/

namespace TCPunch

open Rendezvous

/-- The name that a call is on; a cleanup is on none. -/
def RegistryCall.pairingName : RegistryCall → Option String
  | .register call => some call.request.pairingName
  | .unregister name _ => some name
  | .cleanupExpired _ => none

/-- The token that is ready for a call to draw. -/
def RegistryCall.newV4 : RegistryCall → Option Uuid
  | .register call => some call.newV4
  | _ => none

namespace InMemoryRegistry

/-- What a call returned. -/
inductive CallResult where
  | registered (result : Except RegistryError Registered)
  | unregistered (result : Except RegistryError Unit)
  | cleaned (count : Nat)

/-- The messages that went with the result. -/
def CallResult.sent : CallResult → List Notification
  | .registered (.ok { result := _, sent }) => sent
  | _ => []

/-- A call, the channel it makes, and its result. -/
structure Answered where
  call : RegistryCall
  channel : Chan
  result : CallResult

/-- One whole call with its channel. -/
def carryOut (config : RegistryConfig) (s : InMemoryRegistry) :
    RegistryCall × Chan → CallResult × InMemoryRegistry
  | (.register call, channel) =>
      let out := (register config (call.draws channel) call.request).run answer s
      (.registered out.1, out.2)
  | (.unregister name token, _) =>
      let out := (unregister name token).run answer s
      (.unregistered out.1, out.2)
  | (.cleanupExpired now, _) =>
      let out := cleanupExpired config now s
      (.cleaned out.1, out.2)

/-- A run of calls, each with its channel, on a new registry. -/
def trace (config : RegistryConfig) (calls : List (RegistryCall × Chan)) :
    Journal InMemoryRegistry Answered :=
  .keep (fun _ s step => (⟨step.1, step.2, (carryOut config s step).1⟩, (carryOut config s step).2))
    new calls

/-- The messages sent on a channel in a run. -/
def sentOn (channel : Chan) (past : List Answered) : List PeerConnectionData :=
  past.flatMap fun answered =>
    (answered.result.sent.filter (·.channel = channel)).map (·.peer)

variable {config : RegistryConfig} {s s' : InMemoryRegistry} {name : String}
  {calls : List (RegistryCall × Chan)} {step : RegistryCall × Chan}

theorem trace_snoc (config : RegistryConfig) (calls : List (RegistryCall × Chan))
    (step : RegistryCall × Chan) :
    trace config (calls ++ [step]) =
      ⟨(carryOut config (trace config calls).state step).2, (trace config calls).past ++
        [⟨step.1, step.2, (carryOut config (trace config calls).state step).1⟩]⟩ := by
  rw [trace, Journal.keep_snoc]
  rfl

theorem carryOut_eq_perform (config : RegistryConfig) (s : InMemoryRegistry)
    (step : RegistryCall × Chan) :
    (carryOut config s step).2 = (perform config step.2 s step.1).2 := by
  obtain ⟨call, channel⟩ := step
  cases call <;> rfl

/-! ## What holds along each run -/

theorem newV4_of_issued {channel call t}
    (draws : (perform config channel s call).1.issued = some t) : call.newV4 = some t := by
  cases call with
  | register call =>
      cases live : s.pairings.lookup call.request.pairingName with
      | none =>
          simp only [perform, register_waits live, seen, Moment.issued] at draws
          exact draws
      | some entry =>
          by_cases check : Reconnects s call.request entry
          · simp [perform, register_resumes live check, seen, Moment.issued] at draws
          · simp only [perform, register_pairs live check, seen, Moment.issued] at draws
            exact draws
  | unregister name token => simp [perform, Moment.issued] at draws
  | cleanupExpired now => simp [perform, Moment.issued] at draws

/-- The tokens that were ready for the calls of a run. -/
def supply (calls : List (RegistryCall × Chan)) : List Uuid := calls.filterMap fun step => step.1.newV4

theorem supply_snoc : supply (calls ++ [step]) = supply calls ++ step.1.newV4.toList := by
  simp only [supply, List.filterMap_append, List.filterMap_cons, List.filterMap_nil]
  cases step.1.newV4 <;> rfl

theorem trace_linked (config : RegistryConfig) (fresh : (supply calls).Nodup) :
    (trace config calls).state.Linked ∧
      ∀ t n, (trace config calls).state.tokens.lookup t = some n → t ∈ supply calls := by
  induction calls using List.reverseRecOn with
  | nil =>
      refine ⟨linked_new, ?_⟩
      intro t n known
      simp [trace, Journal.keep, new] at known
  | append_singleton calls step ih =>
      rw [supply_snoc, List.nodup_append] at fresh
      obtain ⟨linked, drawn⟩ := ih fresh.1
      rw [trace_snoc, supply_snoc]
      simp only [carryOut_eq_perform]
      constructor
      · refine linked.perform step.2 step.1 fun t new => ?_
        by_contra known
        obtain ⟨n, known⟩ := Option.ne_none_iff_exists'.mp known
        exact fresh.2.2 t (drawn t n known) t (by simp [newV4_of_issued new]) rfl
      · intro t n known
        rcases tokens_of_perform known with old | new
        · exact List.mem_append_left _ (drawn t n old)
        · exact List.mem_append_right _ (by simp [newV4_of_issued new])

/-- The sender in an entry is that of a call on the entry's name. -/
def Owned (calls : List (RegistryCall × Chan)) (s : InMemoryRegistry) : Prop :=
  ∀ name entry channel, s.pairings.lookup name = some entry → entry.notifyTx = some channel →
    ∃ call, (call, channel) ∈ calls ∧ call.pairingName = some name

theorem Owned.mono (owned : Owned calls s) (fewer : ∀ name entry, s'.pairings.lookup name = some entry →
    s.pairings.lookup name = some entry) : Owned (calls ++ [step]) s' := by
  intro name entry channel live sender
  obtain ⟨call, member, own⟩ := owned name entry channel (fewer name entry live) sender
  exact ⟨call, List.mem_append_left _ member, own⟩

theorem Owned.insert (owned : Owned calls s) {call : Registration} {channel : Chan}
    {entry : PairingEntry} {tokens : FiniteMap Uuid String} (sender : entry.notifyTx = some channel) :
    Owned (calls ++ [(.register call, channel)])
      ⟨s.pairings.insert call.request.pairingName entry, tokens⟩ := by
  intro name found channel' live sender'
  obtain ⟨rfl, rfl⟩ | ⟨-, live⟩ := FiniteMap.of_lookup_insert live
  · cases sender.symm.trans sender'
    exact ⟨.register call, by simp, rfl⟩
  · obtain ⟨origin, member, own⟩ := owned name found channel' live sender'
    exact ⟨origin, List.mem_append_left _ member, own⟩

theorem Owned.carryOut (owned : Owned calls s) :
    Owned (calls ++ [step]) (carryOut config s step).2 := by
  obtain ⟨call, channel⟩ := step
  cases call with
  | register call =>
      simp only [InMemoryRegistry.carryOut]
      cases live : s.pairings.lookup call.request.pairingName with
      | none =>
          rw [register_waits live]
          exact owned.insert rfl
      | some entry =>
          by_cases check : Reconnects s call.request entry
          · rw [register_resumes live check]
            exact owned.insert rfl
          · rw [register_pairs live check]
            exact owned.mono fun n e found => (FiniteMap.of_lookup_erase found).2
  | unregister name token => exact owned.mono fun n e found => (of_lookup_unregister found).2
  | cleanupExpired now =>
      exact owned.mono fun n e found => (cleanupExpired_pairings.mp found).1

theorem trace_owned (config : RegistryConfig) (calls : List (RegistryCall × Chan)) :
    Owned calls (trace config calls).state := by
  induction calls using List.reverseRecOn with
  | nil =>
      intro name entry channel live
      simp [trace, Journal.keep, new] at live
  | append_singleton calls step ih =>
      rw [trace_snoc]
      exact ih.carryOut

/-! ## Two registries that a name cannot tell apart -/

/-- The entry of the name and the tokens that lead to it are the same. -/
structure Alike (name : String) (s s' : InMemoryRegistry) : Prop where
  entry : s.pairings.lookup name = s'.pairings.lookup name
  tokens : ∀ t, s.tokens.lookup t = some name ↔ s'.tokens.lookup t = some name

theorem Alike.register (alike : Alike name s s') {call : Registration} (channel : Chan)
    (here : call.request.pairingName = name) :
    (carryOut config s (.register call, channel)).1 =
        (carryOut config s' (.register call, channel)).1 ∧
      Alike name (carryOut config s (.register call, channel)).2
        (carryOut config s' (.register call, channel)).2 := by
  subst here
  have tokens := alike.tokens
  simp only [carryOut]
  cases live : s.pairings.lookup call.request.pairingName with
  | none =>
      have live' := alike.entry.symm.trans live
      rw [register_waits live, register_waits live']
      refine ⟨rfl, by simp only [FiniteMap.lookup_insert_if, if_true], fun t => ?_⟩
      simp only [FiniteMap.lookup_insert_if]
      split
      · rfl
      · exact tokens t
  | some entry =>
      have live' := alike.entry.symm.trans live
      have same : Reconnects s call.request entry ↔ Reconnects s' call.request entry :=
        and_congr_right fun _ => tokens entry.token
      by_cases check : Reconnects s call.request entry
      · rw [register_resumes live check, register_resumes live' (same.mp check)]
        exact ⟨rfl, by simp only [FiniteMap.lookup_insert_if, if_true], tokens⟩
      · rw [register_pairs live check, register_pairs live' (fun wrong => check (same.mpr wrong))]
        refine ⟨rfl, by simp only [FiniteMap.lookup_erase_if, if_true], fun t => ?_⟩
        simp only [FiniteMap.lookup_erase_if]
        split
        · rfl
        · exact tokens t

theorem Alike.unregister (alike : Alike name s s') (token : Uuid) (channel : Chan) :
    (carryOut config s (.unregister name token, channel)).1 =
        (carryOut config s' (.unregister name token, channel)).1 ∧
      Alike name (carryOut config s (.unregister name token, channel)).2
        (carryOut config s' (.unregister name token, channel)).2 := by
  simp only [carryOut]
  cases live : s.pairings.lookup name with
  | none =>
      have live' := alike.entry.symm.trans live
      rw [unregister_vacant live, unregister_vacant live']
      exact ⟨rfl, alike⟩
  | some entry =>
      have live' := alike.entry.symm.trans live
      rw [unregister_live live, unregister_live live']
      refine ⟨rfl, by simp only [FiniteMap.lookup_erase_if, if_true], fun t => ?_⟩
      simp only
      split
      · simp only [FiniteMap.lookup_erase_if]
        split
        · rfl
        · exact alike.tokens t
      · exact alike.tokens t

theorem Alike.same (alike : Alike name s s') (config : RegistryConfig) (here : step.1.pairingName = some name) :
    (carryOut config s step).1 = (carryOut config s' step).1 ∧
      Alike name (carryOut config s step).2 (carryOut config s' step).2 := by
  obtain ⟨call, channel⟩ := step
  cases call with
  | register call => exact alike.register channel (Option.some.inj here)
  | unregister n token =>
      cases here
      exact alike.unregister token channel
  | cleanupExpired now => cases here

/-- A cleanup treats the entry of the name the same way in both, and takes no token of the
    name with the entry of another. -/
theorem Alike.cleanupExpired (alike : Alike name s s') (linked : s.Linked) (linked' : s'.Linked)
    (now : Instant) :
    Alike name (cleanupExpired config now s).2 (cleanupExpired config now s').2 where
  entry := by
    apply Option.ext
    intro entry
    rw [cleanupExpired_pairings, cleanupExpired_pairings, alike.entry]
  tokens := by
    intro t
    have only {r : InMemoryRegistry} (linked : r.Linked) :
        (InMemoryRegistry.cleanupExpired config now r).2.tokens.lookup t = some name ↔
          r.tokens.lookup t = some name ∧ ∀ e, r.pairings.lookup name = some e →
            expired config now e = true → e.token ≠ t := by
      rw [cleanupExpired_tokens]
      refine and_congr_right fun known => ⟨fun stays e => stays name e, fun stays n e live old own => ?_⟩
      -- An entry with this token is under the name that the token leads to.
      have leads := linked.token n e live
      rw [own, known] at leads
      cases leads
      exact stays e live old own
    rw [only linked, only linked', alike.entry, alike.tokens t]

theorem Alike.other (alike : Alike name s s') (linked : s.Linked)
    (unused : ∀ t, step.1.newV4 = some t → s.tokens.lookup t = none) {other : String}
    (there : step.1.pairingName = some other) (apart : name ≠ other) :
    Alike name (carryOut config s step).2 s' := by
  obtain ⟨call, channel⟩ := step
  -- Whatever tokens go, they lead to the other name.
  have erased {entry : PairingEntry} (live : s.pairings.lookup other = some entry) (t : Uuid) :
      (s.tokens.erase entry.token).lookup t = some name ↔ s.tokens.lookup t = some name := by
    rw [FiniteMap.lookup_erase_if]
    split
    · rename_i same
      have leads := linked.token other entry live
      rw [same, leads]
      simp [apart.symm]
    · rfl
  cases call with
  | register call =>
      cases there
      simp only [carryOut]
      cases live : s.pairings.lookup call.request.pairingName with
      | none =>
          rw [register_waits live]
          refine ⟨by simp only [FiniteMap.lookup_insert_if, apart, if_false, alike.entry], fun t => ?_⟩
          rw [← alike.tokens t]
          simp only [FiniteMap.lookup_insert_if]
          split
          · rename_i same
            rw [same, Registration.draws_newV4, unused _ rfl]
            simp [apart.symm]
          · rfl
      | some entry =>
          by_cases check : Reconnects s call.request entry
          · rw [register_resumes live check]
            exact ⟨by simp only [FiniteMap.lookup_insert_if, apart, if_false, alike.entry],
              alike.tokens⟩
          · rw [register_pairs live check]
            exact ⟨by simp only [FiniteMap.lookup_erase_if, apart, if_false, alike.entry],
              fun t => (erased live t).trans (alike.tokens t)⟩
  | unregister n token =>
      cases there
      simp only [carryOut]
      cases live : s.pairings.lookup other with
      | none =>
          rw [unregister_vacant live]
          exact alike
      | some entry =>
          rw [unregister_live live]
          refine ⟨by simp only [FiniteMap.lookup_erase_if, apart, if_false, alike.entry], fun t => ?_⟩
          simp only
          split
          · rename_i own
            rw [← own]
            exact (erased live t).trans (alike.tokens t)
          · exact alike.tokens t
  | cleanupExpired now => cases there

theorem Owned.sends (owned : Owned calls s) {message : Notification}
    (sent : message ∈ (InMemoryRegistry.carryOut config s step).1.sent) :
    ∃ call, (call, message.channel) ∈ calls ∧ call.pairingName = step.1.pairingName := by
  obtain ⟨call, channel⟩ := step
  cases call with
  | register call =>
      simp only [InMemoryRegistry.carryOut] at sent
      cases live : s.pairings.lookup call.request.pairingName with
      | none =>
          rw [register_waits live] at sent
          simp [CallResult.sent] at sent
      | some entry =>
          by_cases check : Reconnects s call.request entry
          · rw [register_resumes live check] at sent
            simp [CallResult.sent] at sent
          · rw [register_pairs live check] at sent
            simp only [CallResult.sent, List.mem_map, Option.mem_toList] at sent
            obtain ⟨tx, sender, rfl⟩ := sent
            exact owned _ entry tx live sender
  | unregister n token => simp [InMemoryRegistry.carryOut, CallResult.sent] at sent
  | cleanupExpired now => simp [InMemoryRegistry.carryOut, CallResult.sent] at sent

/-! ## A run and what is left of it -/

/-- The call is on the name. -/
def isOn (name : String) (call : RegistryCall) : Bool := call.pairingName = some name

/-- The call is on the name or on none. -/
def concerns (name : String) (call : RegistryCall) : Bool :=
  call.pairingName = some name ∨ call.pairingName = none

theorem sentOn_snoc (channel : Chan) (past : List Answered) (answered : Answered) :
    sentOn channel (past ++ [answered]) = sentOn channel past ++
      (answered.result.sent.filter (·.channel = channel)).map (·.peer) := by
  simp [sentOn]

/-- The calls on the name cannot tell the two runs apart: the registries are alike, the
    results are the same, and channels that only calls on the name have made have been
    sent the same. -/
structure Unaffected (name : String) (calls : List (RegistryCall × Chan))
    (full alone : Journal InMemoryRegistry Answered) : Prop where
  alike : Alike name full.state alone.state
  results : full.past.filter (fun answered => isOn name answered.call) =
    alone.past.filter (fun answered => isOn name answered.call)
  sent : ∀ channel, (∀ call, (call, channel) ∈ calls → call.pairingName = some name) →
    sentOn channel full.past = sentOn channel alone.past

/-- Taking out the calls on other names does not affect the calls on this one. -/
theorem trace_unaffected (config : RegistryConfig) (name : String) (fresh : (supply calls).Nodup) :
    Unaffected name calls (trace config calls)
      (trace config (calls.filter fun step => concerns name step.1)) := by
  induction calls using List.reverseRecOn with
  | nil => exact ⟨⟨rfl, fun t => Iff.rfl⟩, rfl, fun _ _ => rfl⟩
  | append_singleton calls step ih =>
      have unused := fresh
      rw [supply_snoc, List.nodup_append] at unused
      obtain ⟨alike, results, sent⟩ := ih unused.1
      obtain ⟨linked, drawn⟩ := trace_linked config unused.1
      have earlier {channel : Chan} (own : ∀ call, (call, channel) ∈ calls ++ [step] →
          call.pairingName = some name) :
          sentOn channel (trace config calls).past =
            sentOn channel (trace config (calls.filter fun step => concerns name step.1)).past :=
        sent channel fun call member => own call (List.mem_append_left _ member)
      cases there : step.1.pairingName with
      | none =>
          -- A cleanup stays in the run; it is not on the name and sends nothing.
          have stays : concerns name step.1 = true := by simp [concerns, there]
          have aside : isOn name step.1 = false := by simp [isOn, there]
          have silent (s : InMemoryRegistry) : (carryOut config s step).1.sent = [] := by
            obtain ⟨call, channel⟩ := step
            cases call with
            | cleanupExpired now => rfl
            | register call => cases there
            | unregister n token => cases there
          rw [List.filter_append, List.filter_singleton, stays, cond_true, trace_snoc, trace_snoc]
          refine ⟨?_, ?_, ?_⟩
          · have linked' : (trace config (calls.filter fun step => concerns name step.1)).state.Linked :=
              (trace_linked config (unused.1.sublist (List.filter_sublist.filterMap _))).1
            obtain ⟨call, channel⟩ := step
            cases call with
            | cleanupExpired now => exact alike.cleanupExpired linked linked' now
            | register call => cases there
            | unregister n token => cases there
          · simpa [aside] using results
          · intro channel own
            simp [sentOn_snoc, silent, earlier own]
      | some other =>
          by_cases here : other = name
          · subst here
            have stays : concerns other step.1 = true := by simp [concerns, there]
            obtain ⟨same, after⟩ := alike.same config there
            rw [List.filter_append, List.filter_singleton, stays, cond_true, trace_snoc, trace_snoc]
            refine ⟨after, ?_, ?_⟩
            · rw [List.filter_append, List.filter_append, results, same]
            · intro channel own
              rw [sentOn_snoc, sentOn_snoc, earlier own, same]
          · have goes : concerns name step.1 = false := by simp [concerns, there, here]
            have aside : isOn name step.1 = false := by simp [isOn, there, here]
            rw [List.filter_append, List.filter_singleton, goes, cond_false, List.append_nil, trace_snoc]
            refine ⟨alike.other linked ?_ there (Ne.symm here), ?_, ?_⟩
            · intro t ready
              by_contra known
              obtain ⟨n, known⟩ := Option.ne_none_iff_exists'.mp known
              exact unused.2.2 t (drawn t n known) t (by simp [ready]) rfl
            · simpa [aside] using results
            · intro channel own
              have elsewhere : (carryOut config (trace config calls).state step).1.sent.filter
                  (·.channel = channel) = [] := by
                rw [List.filter_eq_nil_iff]
                intro message member on
                obtain ⟨call, made, under⟩ := (trace_owned config calls).sends member
                rw [of_decide_eq_true on] at made
                have clash := (own call (List.mem_append_left _ made)).symm.trans (under.trans there)
                exact here (Option.some.inj clash).symm
              rw [sentOn_snoc, elsewhere, List.map_nil, List.append_nil, earlier own]

theorem supply_zipIdx (calls : List RegistryCall) :
    supply calls.zipIdx = calls.filterMap RegistryCall.newV4 := by
  conv => rhs; rw [← List.zipIdx_map_fst 0 calls]
  rw [List.filterMap_map]
  rfl

/-- In a run in which no two calls have the same token ready, the calls on a name have the
    same results, are sent the same messages on their channels, and leave the same entry
    and the same tokens under the name, as if the calls on other names had not been made. -/
theorem names_do_not_interfere (config : RegistryConfig) (name : String) (calls : List RegistryCall)
    (fresh : (calls.filterMap RegistryCall.newV4).Nodup) :
    let full := trace config calls.zipIdx
    let alone := trace config (calls.zipIdx.filter fun step => concerns name step.1)
    full.past.filter (fun answered => isOn name answered.call) =
        alone.past.filter (fun answered => isOn name answered.call) ∧
      (∀ channel call, calls[channel]? = some call → call.pairingName = some name →
        sentOn channel full.past = sentOn channel alone.past) ∧
      full.state.pairings.lookup name = alone.state.pairings.lookup name ∧
      ∀ t, full.state.tokens.lookup t = some name ↔ alone.state.tokens.lookup t = some name := by
  intro full alone
  have unaffected : Unaffected name calls.zipIdx full alone :=
    trace_unaffected config name (by rwa [supply_zipIdx])
  refine ⟨unaffected.results, ?_, unaffected.alike.entry, unaffected.alike.tokens⟩
  intro channel call made under
  refine unaffected.sent channel fun call' member => ?_
  cases made.symm.trans (List.mem_zipIdx_iff_getElem?.mp member)
  exact under

/-- Clients of two names show tokens that were issued under the other name. -/
theorem names_do_not_interfere_across_tokens :
    let info : Nat → PeerConnectionData := fun i => ⟨⟨10, 0, 0, .ofNat i⟩, 4000⟩
    let calls : List RegistryCall :=
      [ .register ⟨⟨"a", info 1, none⟩, ⟨1⟩, 0, 0⟩, .register ⟨⟨"b", info 2, some ⟨1⟩⟩, ⟨2⟩, 1, 1⟩,
        .register ⟨⟨"b", info 3, some ⟨1⟩⟩, ⟨3⟩, 2, 2⟩, .register ⟨⟨"a", info 4, some ⟨2⟩⟩, ⟨4⟩, 3, 3⟩ ]
    let full := trace ⟨60, "s"⟩ calls.zipIdx
    let alone := trace ⟨60, "s"⟩ (calls.zipIdx.filter fun step => concerns "a" step.1)
    (calls.filterMap RegistryCall.newV4).Nodup ∧ alone.past.length = 2 ∧
      sentOn 0 full.past = sentOn 0 alone.past ∧ sentOn 0 full.past = [info 4] := by
  intro info calls full alone
  have fresh : (calls.filterMap RegistryCall.newV4).Nodup := by decide
  obtain ⟨-, sent, -, -⟩ := names_do_not_interfere ⟨60, "s"⟩ "a" calls fresh
  exact ⟨fresh, rfl, sent 0 _ rfl rfl, by decide +kernel⟩

end InMemoryRegistry

end TCPunch
