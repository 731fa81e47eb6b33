import TCPunch.Redis.Notifications

/-! # Which record a reconnection takes

`register` looks a presented token up under its token key and then writes the record of
the name anew, whatever is under the pairing key. That is right as long as every token
key leads to a record that carries the token. Registrations and cleanups keep it so;
`unregister` does only if the record that it deletes carries the token that it deletes.
-/

namespace TCPunch

open Rendezvous

/-- The record under the name is that of a client with this token. -/
def Cluster.Carries (c : Cluster) (name : String) (t : Uuid) : Prop :=
  ∃ client, c.record name = some (.json client) ∧ client.reconnectToken = t

namespace RedisRegistry

variable {config : Nat → RegistryConfig} {calls : List ClusterCall} {c c' : Cluster}
  {past : List (Moment String Uuid PeerConnectionData)}

/-- A registration on this server that presents a token resumes only if the record under
    the name carries the token. If it does not, a record that is there afterwards is a new
    one, neither put over another nor carrying the token again. -/
structure ResumesOnlyOwn (config : RegistryConfig) (server : Nat) (c : Cluster) : Prop where
  resumed : ∀ draws request t token channel sent, request.reconnectToken = some t →
    (atomically server (register config draws request) c).1 = .ok ⟨.resumed token channel, sent⟩ →
    c.Carries request.pairingName t
  kept : ∀ draws request t value, request.reconnectToken = some t →
    ¬ c.Carries request.pairingName t → draws.newV4 ≠ t →
    (atomically server (register config draws request) c).2.record request.pairingName = some value →
    c.record request.pairingName = none ∧
      ¬ (atomically server (register config draws request) c).2.Carries request.pairingName t

/-- Every token key leads to a record that carries the token. -/
def Backed (c : Cluster) : Prop :=
  ∀ t name, c.token t = some (.text name) → c.Carries name t

theorem Backed.resumesOnlyOwn (backed : Backed c) (config : RegistryConfig) (server : Nat) :
    ResumesOnlyOwn config server c where
  resumed := by
    intro draws request t token channel sent shown out
    rcases register_cases config draws server c request with
      ⟨token', check, out'⟩ | ⟨-, out'⟩ | ⟨client, -, out'⟩ | ⟨text, -, out'⟩
    · obtain rfl := Option.some.inj (shown.symm.trans check.1)
      exact backed t _ check.2
    all_goals simp [out'] at out
  kept := by
    intro draws request t value shown foreign fresh found
    rcases register_cases config draws server c request with
      ⟨token', check, -⟩ | ⟨vacant, out⟩ | ⟨client, -, out⟩ | ⟨text, -, out⟩
    · obtain rfl := Option.some.inj (shown.symm.trans check.1)
      exact absurd (backed t _ check.2) foreign
    · refine ⟨vacant, ?_⟩
      intro carries
      obtain ⟨client, live, own⟩ := carries
      rw [out] at live
      simp only [Cluster.record_issue, Cluster.record_enroll, if_true, Option.some.injEq,
        RedisValue.json.injEq] at live
      subst live
      exact fresh own
    · have gone : (c.dismiss server request.pairingName client.reconnectToken).record
          request.pairingName = none := by rw [Cluster.record_dismiss, if_pos rfl]
      rw [out] at found
      cases gone.symm.trans found
    · rw [out] at found
      simp [Cluster.record] at found

/-! ## What each call keeps -/

theorem backed_new : Backed new := by
  intro t name found
  simp [Cluster.token, new] at found

theorem Backed.enroll (backed : Backed c) {server name client channel}
    (same : ∀ t, c.token t = some (.text name) → t = client.reconnectToken) :
    Backed (c.enroll server name client channel) := by
  intro t n known
  rw [Cluster.token_enroll] at known
  by_cases here : n = name
  · subst here
    exact ⟨client, by simp, (same t known).symm⟩
  · obtain ⟨other, live, own⟩ := backed t n known
    exact ⟨other, by simp [here, live], own⟩

theorem Backed.issue (backed : Backed c) {t name} (carries : c.Carries name t) :
    Backed (c.issue t name) := by
  intro u n known
  rw [Cluster.token_issue] at known
  split at known
  · rename_i same
    cases known
    obtain ⟨client, live, own⟩ := carries
    exact ⟨client, by rw [Cluster.record_issue, live], own.trans same.symm⟩
  · obtain ⟨client, live, own⟩ := backed u n known
    exact ⟨client, by rw [Cluster.record_issue, live], own⟩

theorem Backed.dismiss (backed : Backed c) {server name t}
    (own : ∀ client, c.record name = some (.json client) → client.reconnectToken = t) :
    Backed (c.dismiss server name t) := by
  intro u n known
  rw [Cluster.token_dismiss] at known
  split at known
  · cases known
  · rename_i apart
    obtain ⟨client, live, carried⟩ := backed u n known
    have elsewhere : n ≠ name := by
      intro here
      subst here
      exact apart (carried.symm.trans (own client live))
    exact ⟨client, by rw [Cluster.record_dismiss, if_neg elsewhere, live], carried⟩

theorem Backed.register (backed : Backed c) (config : RegistryConfig) (draws : Draws) (server : Nat)
    (request : Request) :
    Backed (atomically server (RedisRegistry.register config draws request) c).2 := by
  rcases register_cases config draws server c request with
    ⟨token, check, out⟩ | ⟨vacant, out⟩ | ⟨client, live, out⟩ | ⟨text, garbled, out⟩
  · rw [out]
    refine backed.enroll fun t known => ?_
    -- Both tokens are carried by the one record under the name.
    obtain ⟨client, live, own⟩ := backed t _ known
    obtain ⟨client', live', own'⟩ := backed token _ check.2
    cases live.symm.trans live'
    exact own.symm.trans own'
  · rw [out]
    refine Backed.issue (backed.enroll fun t known => ?_)
      ⟨_, Cluster.record_enroll.trans (if_pos rfl), rfl⟩
    obtain ⟨client, live, -⟩ := backed t _ known
    cases vacant.symm.trans live
  · rw [out]
    have dismissed : Backed (c.dismiss server request.pairingName client.reconnectToken) :=
      backed.dismiss fun client' live' => by
        cases live.symm.trans live'
        rfl
    exact dismissed
  · rw [out]
    intro t n known
    obtain ⟨-, known⟩ := FiniteMap.of_lookup_erase known
    obtain ⟨client, live, own⟩ := backed t n known
    have elsewhere : n ≠ request.pairingName := by
      intro here
      subst here
      cases garbled.symm.trans live
    refine ⟨client, ?_, own⟩
    simp only [Cluster.record, FiniteMap.lookup_erase_if, pairingKey_inj, elsewhere, if_false]
    exact live

/-- A call that is not an `unregister` with somebody else's token: if there is a record
    under the name, it carries the token. -/
def OwnRecord (c : Cluster) : ClusterCall → Prop
  | .unregister _ name token =>
      ∀ client, c.record name = some (.json client) → client.reconnectToken = token
  | _ => True

theorem Backed.perform (backed : Backed c) (config : Nat → RegistryConfig) (channel : Chan)
    {call : ClusterCall} (lasting : ∀ key, call ≠ .expire key) (own : OwnRecord c call) :
    Backed (perform config channel c call).2 := by
  cases call with
  | register server call => exact backed.register (config server) _ server call.request
  | unregister server name token =>
      simp only [RedisRegistry.perform, atomically_unregister]
      exact backed.dismiss own
  | cleanupExpired server =>
      intro t n known
      obtain ⟨redis, -⟩ := cleanupExpired_run server c
      simp only [RedisRegistry.perform, Cluster.Carries, Cluster.record, Cluster.token, redis]
        at known ⊢
      exact backed t n known
  | expire key => exact absurd rfl (lasting key)

/-! ## Records lead to their tokens -/

/-- The name and the token that a registration returned anew. -/
def granted : Moment String Uuid PeerConnectionData → Option (String × Uuid)
  | ⟨.opened name _ token _, _⟩ => some (name, token)
  | ⟨.matched name _ token _, _⟩ => some (name, token)
  | _ => none

/-- The token was issued by a registration under this name. -/
def IssuedUnder (past : List (Moment String Uuid PeerConnectionData)) (name : String) (t : Uuid) :
    Prop :=
  ∃ moment ∈ past, granted moment = some (name, t)

instance (name : String) (t : Uuid) : Decidable (IssuedUnder past name t) :=
  inferInstanceAs (Decidable (∃ moment ∈ past, granted moment = some (name, t)))

/-- A call that is not an `unregister` with a token that was never issued under its name. -/
def GivesUpIssued (journal : Journal Cluster (Moment String Uuid PeerConnectionData)) :
    ClusterCall → Prop
  | .unregister _ name token => IssuedUnder journal.past name token
  | _ => True

theorem issued_of_granted {o : Moment String Uuid PeerConnectionData} {name : String} {t : Uuid}
    (grant : granted o = some (name, t)) : o.issued = some t := by
  obtain ⟨outcome, sent⟩ := o
  cases outcome <;> cases grant <;> rfl

theorem IssuedUnder.name_unique (fresh : (issued past).Nodup) {name n : String} {t : Uuid} {i : Nat}
    (under : IssuedUnder past name t) (opens : Opens past i n t) : n = name := by
  obtain ⟨info, channel, sent, found⟩ := opens
  obtain ⟨moment, member, grant⟩ := under
  obtain rfl := eq_of_issued_eq fresh (List.mem_of_getElem? found) member rfl
    (issued_of_granted grant)
  cases grant
  rfl

/-- The token of every record has its token key, which leads back to the record. -/
def Known (c : Cluster) : Prop :=
  ∀ name t, c.Carries name t → c.token t = some (.text name)

/-- What goes with a record is the token that leads to it, and that one leads to no other. -/
theorem Known.dismiss (known : Known c) {server name t}
    (apart : ∀ n, n ≠ name → ¬ c.Carries n t) : Known (c.dismiss server name t) := by
  intro n u carries
  obtain ⟨client, live, own⟩ := carries
  rw [Cluster.record_dismiss] at live
  split at live
  · cases live
  · rename_i elsewhere
    have different : u ≠ t := by
      intro same
      subst same
      exact apart n elsewhere ⟨client, live, own⟩
    rw [Cluster.token_dismiss, if_neg different]
    exact known n u ⟨client, live, own⟩

theorem Known.enroll (known : Known c) {server name client channel}
    (leads : c.token client.reconnectToken = some (.text name)) :
    Known (c.enroll server name client channel) := by
  intro n u carries
  obtain ⟨other, live, own⟩ := carries
  rw [Cluster.token_enroll]
  rw [Cluster.record_enroll] at live
  split at live
  · rename_i here
    cases live
    rw [← own, leads, here]
  · exact known n u ⟨other, live, own⟩

theorem Known.issue (known : Known c) {t name} (unused : ∀ n, ¬ c.Carries n t) :
    Known (c.issue t name) := by
  intro n u carries
  obtain ⟨client, live, own⟩ := carries
  rw [Cluster.record_issue] at live
  have different : u ≠ t := by
    intro same
    subst same
    exact unused n ⟨client, live, own⟩
  rw [Cluster.token_issue, if_neg different]
  exact known n u ⟨client, live, own⟩

theorem Known.register (known : Known c) (orderly : Orderly config calls c past) (server : Nat)
    (call : Registration)
    (drawn : ∀ t, (perform config past.length c (.register server call)).1.issued = some t →
      t ∉ issued past) :
    Known (perform config past.length c (.register server call)).2 := by
  simp only [perform] at drawn ⊢
  rcases register_cases (config server) (call.draws past.length) server c call.request with
    ⟨token, check, out⟩ | ⟨vacant, out⟩ | ⟨client, live, out⟩ | ⟨text, garbled, out⟩
  · rw [out]
    exact known.enroll check.2
  · rw [out, Cluster.issue_enroll]
    rw [out] at drawn
    refine Known.enroll (known.issue ?_) (Cluster.token_issue.trans (if_pos rfl))
    intro n carries
    obtain ⟨client, live, own⟩ := carries
    obtain ⟨client', m, home, same, placed⟩ := orderly.records n _ live
    obtain ⟨i, opens⟩ := placed.opened
    cases same
    have drawnBefore : call.newV4 ∈ issued past := by
      rw [show client.reconnectToken = call.newV4 from own] at opens
      exact mem_issued_of_opens opens
    exact drawn call.newV4 rfl drawnBefore
  · rw [out]
    have dismissed : Known (c.dismiss server call.request.pairingName client.reconnectToken) := by
      refine known.dismiss fun n apart carries => apart ?_
      have there := known n _ carries
      have here := known call.request.pairingName _ ⟨client, live, rfl⟩
      cases here.symm.trans there
      rfl
    exact dismissed
  · obtain ⟨client, m, home, wrong, -⟩ := orderly.records _ _ garbled
    cases wrong

theorem Known.perform (known : Known c) (orderly : Orderly config calls c past)
    (fresh : (issued past).Nodup) {call : ClusterCall}
    (drawn : ∀ t, (perform config past.length c call).1.issued = some t → t ∉ issued past)
    (lasting : ∀ key, call ≠ .expire key) (under : GivesUpIssued ⟨c, past⟩ call) :
    Known (perform config past.length c call).2 := by
  cases call with
  | register server call => exact known.register orderly server call drawn
  | unregister server name token =>
      simp only [RedisRegistry.perform, atomically_unregister]
      refine known.dismiss fun n apart carries => apart ?_
      obtain ⟨client, live, own⟩ := carries
      obtain ⟨client', m, home, same, placed⟩ := orderly.records n _ live
      obtain ⟨i, opens⟩ := placed.opened
      cases same
      exact IssuedUnder.name_unique fresh under (own ▸ opens)
  | cleanupExpired server =>
      intro n t carries
      obtain ⟨redis, -⟩ := cleanupExpired_run server c
      simp only [RedisRegistry.perform, Cluster.Carries, Cluster.record, Cluster.token, redis]
        at carries ⊢
      exact known n t carries
  | expire key => exact absurd rfl (lasting key)

theorem journal_known (fresh : FreshTokens config calls) (lasting : ∀ key, .expire key ∉ calls)
    (under : Journal.Always (perform config) new GivesUpIssued calls) :
    Known (journal config calls).state := by
  induction calls using List.reverseRecOn with
  | nil =>
      intro n t carries
      obtain ⟨client, live, -⟩ := carries
      simp [Cluster.record, journal, Journal.keep, new] at live
  | append_singleton calls call ih =>
      obtain ⟨freshOld, drawn⟩ := fresh.of_snoc
      obtain ⟨underOld, last⟩ := Journal.always_snoc.mp under
      have known := ih freshOld (fun key member => lasting key (List.mem_append_left _ member)) underOld
      rw [journal_snoc]
      refine known.perform (journal_orderly freshOld) freshOld drawn ?_ last
      intro key same
      exact lasting key (by simp [same])

/-! ## Reconnections along a run -/

/-- In every state that the run goes through. -/
def ReconnectsSafely (config : Nat → RegistryConfig) (calls : List ClusterCall) : Prop :=
  ∀ pre post, calls = pre ++ post →
    ∀ server, ResumesOnlyOwn (config server) server (journal config pre).state

theorem journal_backed (lasting : ∀ key, .expire key ∉ calls)
    (own : Journal.Always (perform config) new (fun journal call => OwnRecord journal.state call)
      calls) : Backed (journal config calls).state := by
  refine own.invariant (fun journal => Backed journal.state) backed_new ?_
  intro journal call backed own member
  refine backed.perform config _ ?_ own
  intro key same
  exact lasting key (same ▸ member)

/-- As long as no key expires, reconnections are safe throughout a run in which every
    `unregister` deletes a record only with the record's own token. When tokens are fresh
    and are given up under the names they were issued for, they are safe in no other run. -/
theorem reconnects_safely_iff_own_records (config : Nat → RegistryConfig) (calls : List ClusterCall)
    (lasting : ∀ key, .expire key ∉ calls) :
    (Journal.Always (perform config) new (fun journal call => OwnRecord journal.state call) calls →
      ReconnectsSafely config calls) ∧
    (FreshTokens config calls → Journal.Always (perform config) new GivesUpIssued calls →
      ReconnectsSafely config calls →
      Journal.Always (perform config) new (fun journal call => OwnRecord journal.state call)
        calls) := by
  constructor
  · intro own pre post split server
    subst split
    have backed : Backed (journal config pre).state :=
      journal_backed (fun key member => lasting key (List.mem_append_left _ member)) own.left
    exact backed.resumesOnlyOwn (config server) server
  · intro fresh under safely pre call post split
    subst split
    cases call with
    | unregister server name token =>
        intro client live
        by_contra other
        have known : Known (journal config pre).state :=
          journal_known fresh.left (fun key member => lasting key (List.mem_append_left _ member))
            under.left
        -- Right after the call, the owner of the deleted record comes back with its token.
        have safe := safely (pre ++ [.unregister server name token]) post (by simp) server
        rw [journal_snoc, Journal.record, RedisRegistry.perform, atomically_unregister] at safe
        have stays : ((journal config pre).state.dismiss server name token).token
            client.reconnectToken = some (.text name) := by
          rw [Cluster.token_dismiss, if_neg other]
          exact known name _ ⟨client, live, rfl⟩
        let back : Request := ⟨name, client.connectionInfo, some client.reconnectToken⟩
        have out : (atomically server (register (config server) ⟨token, 0, 0, 0⟩ back)
            ((journal config pre).state.dismiss server name token)).1 =
              .ok ⟨.resumed client.reconnectToken 0, []⟩ := by
          rw [register_resumes ⟨rfl, stays⟩]
        obtain ⟨client', live', -⟩ := safe.resumed _ back _ _ _ _ rfl out
        rw [Cluster.record_dismiss, if_pos rfl] at live'
        cases live'
    | register => trivial
    | cleanupExpired => trivial
    | expire => trivial

/-- A client waits, is paired, a third client waits under the same name, and the first one
    gives up with its own token, which deletes the third client's record. A fourth client
    waits, and its record is overwritten when the third comes back. -/
theorem reconnection_displaces_stranger :
    let config : Nat → RegistryConfig := fun _ => ⟨60 * 10 ^ 9, "s"⟩
    let info : Nat → PeerConnectionData := fun i => ⟨⟨10, 0, 0, .ofNat i⟩, 4000⟩
    let calls : List ClusterCall :=
      [ .register 0 ⟨⟨"a", info 1, none⟩, ⟨1⟩, 0, 0⟩, .register 0 ⟨⟨"a", info 2, none⟩, ⟨2⟩, 1, 1⟩,
        .register 0 ⟨⟨"a", info 3, none⟩, ⟨3⟩, 2, 2⟩, .unregister 0 "a" ⟨1⟩,
        .register 0 ⟨⟨"a", info 4, none⟩, ⟨4⟩, 3, 3⟩ ]
    let c := (journal config calls).state
    let out := atomically 0 (register (config 0) ⟨⟨5⟩, 5, 4, 4⟩ ⟨"a", info 5, some ⟨3⟩⟩) c
    FreshTokens config calls ∧ (∀ key, .expire key ∉ calls) ∧
      Journal.Always (perform config) new GivesUpIssued calls ∧
      c.record "a" = some (.json ⟨info 4, ⟨4⟩, "s", 3⟩) ∧ out.1 = .ok ⟨.resumed ⟨3⟩ 5, []⟩ ∧
      out.2.record "a" = some (.json ⟨info 5, ⟨3⟩, "s", 4⟩) ∧ ¬ ReconnectsSafely config calls := by
  intro config info calls c out
  have under : Journal.Always (perform config) new GivesUpIssued calls := by
    have issued : IssuedUnder (journal config (calls.take 3)).past "a" ⟨1⟩ := by decide +kernel
    exact Journal.always_of_checks ⟨trivial, trivial, trivial, issued, trivial, trivial⟩
  have resumed : out.1 = .ok ⟨.resumed ⟨3⟩ 5, []⟩ := by decide +kernel
  have before : c.record "a" = some (.json ⟨info 4, ⟨4⟩, "s", 3⟩) := by decide +kernel
  refine ⟨by decide +kernel, by simp [calls], under, before, resumed, by decide +kernel, ?_⟩
  intro safely
  obtain ⟨client, live, own⟩ :=
    (safely calls [] (by simp) 0).resumed ⟨⟨5⟩, 5, 4, 4⟩ ⟨"a", info 5, some ⟨3⟩⟩ _ _ _ _ rfl resumed
  cases live.symm.trans before
  revert own
  decide

/-- The third client gives up itself. -/
theorem reconnects_safely_after_own_unregister :
    let config : Nat → RegistryConfig := fun _ => ⟨60 * 10 ^ 9, "s"⟩
    let info : Nat → PeerConnectionData := fun i => ⟨⟨10, 0, 0, .ofNat i⟩, 4000⟩
    let calls : List ClusterCall :=
      [ .register 0 ⟨⟨"a", info 1, none⟩, ⟨1⟩, 0, 0⟩, .register 0 ⟨⟨"a", info 2, none⟩, ⟨2⟩, 1, 1⟩,
        .register 0 ⟨⟨"a", info 3, none⟩, ⟨3⟩, 2, 2⟩, .unregister 0 "a" ⟨3⟩ ]
    (∀ key, .expire key ∉ calls) ∧
      Journal.Always (perform config) new (fun journal call => OwnRecord journal.state call) calls ∧
      ReconnectsSafely config calls := by
  intro config info calls
  have lasting : ∀ key, .expire key ∉ calls := by simp [calls]
  have own : Journal.Always (perform config) new
      (fun journal call => OwnRecord journal.state call) calls := by
    have waits : (journal config (calls.take 3)).state.record "a" =
        some (.json ⟨info 3, ⟨3⟩, "s", 2⟩) := by decide +kernel
    have last : OwnRecord (journal config (calls.take 3)).state (.unregister 0 "a" ⟨3⟩) := by
      intro client live
      cases waits.symm.trans live
      rfl
    exact Journal.always_of_checks ⟨trivial, trivial, trivial, last, trivial⟩
  exact ⟨lasting, own, (reconnects_safely_iff_own_records config calls lasting).1 own⟩

end RedisRegistry

end TCPunch
