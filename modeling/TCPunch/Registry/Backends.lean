import TCPunch.Redis.Reconnection
import TCPunch.Registry.Journal

/-! # The two backends agree

A run of registrations on a fresh in-memory registry and the same run on one server with
an empty Redis are seen to be the same, call by call, when they draw the same tokens. The
in-memory registry keeps a client in one entry; the other one in a record, a key for the
token and a local sender. They check a reconnection differently: in memory the entry must
carry the token, while in Redis the key of the token is enough. The difference does not
show, because every token key leads to a record that carries the token.
-/

namespace TCPunch.Backends

open Rendezvous

/-- The client of an entry is the one that Redis and this server have under the name. -/
structure SameClient (server : Nat) (c : Cluster) (name : String) (entry : PairingEntry)
    (client : WaitingClient) : Prop where
  record : c.record name = some (.json client)
  token : client.reconnectToken = entry.token
  info : client.connectionInfo = entry.waitingClient.connectionInfo
  sender : c.waiter server name = entry.notifyTx

/-- Both backends have the same clients and the same tokens. -/
structure Agree (server : Nat) (s : InMemoryRegistry) (c : Cluster) : Prop where
  vacant : ∀ name, s.pairings.lookup name = none → c.record name = none
  occupied : ∀ name entry, s.pairings.lookup name = some entry →
    ∃ client, SameClient server c name entry client
  tokens : ∀ t name, s.tokens.lookup t = some name ↔ c.token t = some (.text name)
  backed : RedisRegistry.Backed c

variable {server : Nat} {s : InMemoryRegistry} {c : Cluster} {request : Request}

theorem agree_new : Agree server InMemoryRegistry.new RedisRegistry.new where
  vacant := by intro name _; simp [Cluster.record, RedisRegistry.new]
  occupied := by intro name entry found; simp [InMemoryRegistry.new] at found
  tokens := by intro t name; simp [InMemoryRegistry.new, Cluster.token, RedisRegistry.new]
  backed := RedisRegistry.backed_new

theorem Agree.reconnects_iff (agree : Agree server s c) {entry : PairingEntry} :
    InMemoryRegistry.Reconnects s request entry ↔
      RedisRegistry.Reconnects c request entry.token :=
  and_congr_right fun _ => agree.tokens entry.token request.pairingName

theorem Agree.token_of_reconnects (agree : Agree server s c) {entry : PairingEntry} {t : Uuid}
    (live : s.pairings.lookup request.pairingName = some entry)
    (check : RedisRegistry.Reconnects c request t) : t = entry.token := by
  obtain ⟨client, same⟩ := agree.occupied _ entry live
  obtain ⟨client', found, own⟩ := agree.backed t _ check.2
  cases same.record.symm.trans found
  exact own.symm.trans same.token

theorem Agree.not_reconnects (agree : Agree server s c)
    (vacant : s.pairings.lookup request.pairingName = none) (t : Uuid) :
    ¬ RedisRegistry.Reconnects c request t := by
  intro check
  obtain ⟨client, found, -⟩ := agree.backed t _ check.2
  cases (agree.vacant _ vacant).symm.trans found

/-! ## One call -/

theorem Agree.enroll (agree : Agree server s c) (client : WaitingClient) {name : String}
    {entry : PairingEntry} {channel : Chan} {s' : InMemoryRegistry} {c' : Cluster}
    (pairings : ∀ n, s'.pairings.lookup n = if n = name then some entry else s.pairings.lookup n)
    (record : ∀ n, c'.record n = if n = name then some (.json client) else c.record n)
    (waiter : ∀ n, c'.waiter server n = if n = name then some channel else c.waiter server n)
    (token : client.reconnectToken = entry.token)
    (info : client.connectionInfo = entry.waitingClient.connectionInfo)
    (sender : entry.notifyTx = some channel)
    (tokens : ∀ t n, s'.tokens.lookup t = some n ↔ c'.token t = some (.text n))
    (backed : RedisRegistry.Backed c') : Agree server s' c' where
  vacant := by
    intro n absent
    rw [pairings] at absent
    rw [record]
    split at absent
    · cases absent
    · rename_i apart
      rw [if_neg apart]
      exact agree.vacant n absent
  occupied := by
    intro n found live
    rw [pairings] at live
    split at live
    · rename_i here
      cases live
      exact ⟨client, by rw [record, if_pos here], token, info, by rw [waiter, if_pos here, sender]⟩
    · rename_i apart
      obtain ⟨other, same⟩ := agree.occupied n found live
      exact ⟨other, by rw [record, if_neg apart, same.record], same.token, same.info,
        by rw [waiter, if_neg apart, same.sender]⟩
  tokens := tokens
  backed := backed

theorem Agree.dismiss (agree : Agree server s c) {name : String} {t : Uuid} {c' : Cluster}
    (same : c'.redis = (c.dismiss server name t).redis)
    (waiters : c'.localWaiters = (c.dismiss server name t).localWaiters)
    (backed : RedisRegistry.Backed c') :
    Agree server ⟨s.pairings.erase name, s.tokens.erase t⟩ c' := by
  have record (n : String) : c'.record n = if n = name then none else c.record n := by
    rw [Cluster.record, same]
    exact Cluster.record_dismiss
  have token (u : Uuid) : c'.token u = if u = t then none else c.token u := by
    rw [Cluster.token, same]
    exact Cluster.token_dismiss
  have waiter (n : String) : c'.waiter server n = if n = name then none else c.waiter server n := by
    rw [Cluster.waiter, waiters]
    exact Cluster.waiter_dismiss.trans (by simp only [true_and])
  refine ⟨?_, ?_, ?_, backed⟩
  · intro n absent
    rw [record]
    split
    · rfl
    · rename_i apart
      rw [FiniteMap.lookup_erase_if, if_neg apart] at absent
      exact agree.vacant n absent
  · intro n entry live
    obtain ⟨apart, live⟩ := FiniteMap.of_lookup_erase live
    obtain ⟨client, same⟩ := agree.occupied n entry live
    exact ⟨client, by rw [record, if_neg apart, same.record], same.token, same.info,
      by rw [waiter, if_neg apart, same.sender]⟩
  · intro u n
    rw [FiniteMap.lookup_erase_if, token]
    split
    · simp
    · exact agree.tokens u n

/-- One registration is seen to be the same by both backends, and leaves them in agreement. -/
theorem Agree.register (agree : Agree server s c) (config : RegistryConfig)
    (config' : Nat → RegistryConfig) (channel : Chan) (call : Registration) :
    (InMemoryRegistry.perform config channel s (.register call)).1 =
        (RedisRegistry.perform config' channel c (.register server call)).1 ∧
      Agree server (InMemoryRegistry.perform config channel s (.register call)).2
        (RedisRegistry.perform config' channel c (.register server call)).2 := by
  have backed := agree.backed.register (config' server) (call.draws channel) server call.request
  simp only [InMemoryRegistry.perform, RedisRegistry.perform]
  cases live : s.pairings.lookup call.request.pairingName with
  | none =>
      rw [RedisRegistry.register_otherwise (agree.not_reconnects live)] at backed ⊢
      rw [RedisRegistry.pairOrWait_waits (agree.vacant _ live)] at backed ⊢
      rw [InMemoryRegistry.register_waits live]
      refine ⟨rfl, agree.enroll (RedisRegistry.waitingClient (config' server) (call.draws channel)
        call.newV4 call.request.clientInfo) (fun n => FiniteMap.lookup_insert_if ..) ?_ ?_ rfl rfl rfl
          ?_ backed⟩
      · intro n
        exact Cluster.record_issue.trans Cluster.record_enroll
      · intro n
        rw [Cluster.waiter_issue, Cluster.waiter_enroll]
        simp only [true_and]
      · intro t n
        rw [Cluster.token_issue, Cluster.token_enroll, FiniteMap.lookup_insert_if]
        split
        · simp
        · exact agree.tokens t n
  | some entry =>
      obtain ⟨client, same⟩ := agree.occupied _ entry live
      by_cases check : InMemoryRegistry.Reconnects s call.request entry
      · rw [RedisRegistry.register_resumes (agree.reconnects_iff.mp check)] at backed ⊢
        rw [InMemoryRegistry.register_resumes live check]
        refine ⟨rfl, agree.enroll (RedisRegistry.waitingClient (config' server) (call.draws channel)
          entry.token call.request.clientInfo) (fun n => FiniteMap.lookup_insert_if ..)
            (fun n => Cluster.record_enroll) ?_ rfl rfl rfl ?_ backed⟩
        · intro n
          rw [Cluster.waiter_enroll]
          simp only [true_and]
        · intro t n
          rw [Cluster.token_enroll]
          exact agree.tokens t n
      · have fails : ∀ t, ¬ RedisRegistry.Reconnects c call.request t := by
          intro t wrong
          rw [agree.token_of_reconnects live wrong, ← agree.reconnects_iff] at wrong
          exact check wrong
        rw [RedisRegistry.register_otherwise fails] at backed ⊢
        rw [RedisRegistry.pairOrWait_pairs same.record] at backed ⊢
        rw [InMemoryRegistry.register_pairs live check]
        refine ⟨?_, ?_⟩
        · simp only [seen, same.info, same.sender]
        · rw [← same.token]
          exact agree.dismiss rfl rfl backed

/-- A run of registrations on a fresh in-memory registry and on a fresh Redis is seen to
    be the same: every call ends the same way with the same token and peer, and sends the
    same address on the channel of the same earlier call. -/
theorem backends_agree (config : RegistryConfig) (config' : Nat → RegistryConfig) (server : Nat)
    (calls : List Registration) :
    (InMemoryRegistry.journal config (calls.map .register)).past =
      (RedisRegistry.journal config' (calls.map (.register server))).past := by
  have both : (InMemoryRegistry.journal config (calls.map .register)).past =
        (RedisRegistry.journal config' (calls.map (.register server))).past ∧
      Agree server (InMemoryRegistry.journal config (calls.map .register)).state
        (RedisRegistry.journal config' (calls.map (.register server))).state := by
    induction calls using List.reverseRecOn with
    | nil => exact ⟨rfl, agree_new⟩
    | append_singleton calls call ih =>
        obtain ⟨past, agree⟩ := ih
        have step := agree.register config config'
          (InMemoryRegistry.journal config (calls.map .register)).past.length call
        rw [List.map_append, List.map_append, List.map_singleton, List.map_singleton,
          InMemoryRegistry.journal_snoc, RedisRegistry.journal_snoc, Journal.record, Journal.record]
        rw [← past, ← step.1]
        exact ⟨rfl, step.2⟩
  exact both.1

/-! ## Giving up and cleaning up

The two methods that end a wait check the token differently too. In memory the entry goes
whoever owns it and the token only with its entry; in Redis both keys go. They still agree
as long as a client gives up its own registration and cleanup comes too early for the others.
-/

/-- The call, made on a server that has Redis. -/
def onServer (server : Nat) : RegistryCall → ClusterCall
  | .register call => .register server call
  | .unregister name token => .unregister server name token
  | .cleanupExpired _ => .cleanupExpired server

/-- The call touches nobody else's registration: the entry under the name, if there is one,
    carries the token, and the token leads to no other name. A cleanup finds nothing to do. -/
def Undisputed (config : RegistryConfig) (s : InMemoryRegistry) : RegistryCall → Prop
  | .register _ => True
  | .unregister name token =>
      (∀ entry ∈ s.pairings.lookup name, entry.token = token) ∧ ∀ n ∈ s.tokens.lookup token, n = name
  | .cleanupExpired now => (InMemoryRegistry.cleanupExpired config now s).2 = s

theorem Agree.ended {s' : InMemoryRegistry} {c' : Cluster} (before : Agree server s c)
    (after : Agree server s' c') : InMemoryRegistry.ended s s' = RedisRegistry.ended c c' := by
  ext t
  constructor
  · intro lost
    obtain ⟨name, entry, live, own, absent⟩ := lost
    obtain ⟨client, same⟩ := before.occupied name entry live
    exact ⟨name, client, same.record, same.token.trans own, after.vacant name absent⟩
  · intro lost
    obtain ⟨name, client, found, own, absent⟩ := lost
    cases live : s.pairings.lookup name with
    | none => cases (before.vacant name live).symm.trans found
    | some entry =>
        obtain ⟨client', same⟩ := before.occupied name entry live
        cases same.record.symm.trans found
        refine ⟨name, entry, live, same.token.symm.trans own, ?_⟩
        cases live' : s'.pairings.lookup name with
        | none => rfl
        | some entry' =>
            obtain ⟨client', same'⟩ := after.occupied name entry' live'
            cases absent.symm.trans same'.record

theorem Agree.unregister_eq (agree : Agree server s c) {config : RegistryConfig} {name : String} {t : Uuid}
    (undisputed : Undisputed config s (.unregister name t)) :
    ((InMemoryRegistry.unregister name t).run InMemoryRegistry.answer s).2 =
      ⟨s.pairings.erase name, s.tokens.erase t⟩ := by
  obtain ⟨own, under⟩ := undisputed
  cases live : s.pairings.lookup name with
  | some entry =>
      rw [InMemoryRegistry.unregister_live live, if_pos (own entry live)]
  | none =>
      -- The token would lead to this name, and then there would be an entry.
      have unknown : s.tokens.lookup t = none := by
        cases known : s.tokens.lookup t with
        | none => rfl
        | some n =>
            cases under n known
            obtain ⟨client, found, -⟩ := agree.backed t name ((agree.tokens t name).mp known)
            cases (agree.vacant name live).symm.trans found
      rw [InMemoryRegistry.unregister_vacant live, FiniteMap.erase_of_absent live,
        FiniteMap.erase_of_absent unknown]

theorem Agree.unregister (agree : Agree server s c) {config : RegistryConfig} {name : String} {t : Uuid}
    (undisputed : Undisputed config s (.unregister name t)) :
    Agree server ((InMemoryRegistry.unregister name t).run InMemoryRegistry.answer s).2
      (c.dismiss server name t) := by
  rw [agree.unregister_eq undisputed]
  refine agree.dismiss rfl rfl (agree.backed.dismiss ?_)
  intro client found
  cases live : s.pairings.lookup name with
  | none => cases (agree.vacant name live).symm.trans found
  | some entry =>
      obtain ⟨client', same⟩ := agree.occupied name entry live
      cases same.record.symm.trans found
      exact same.token.trans (undisputed.1 entry live)

/-- The cleanup of a server drops senders that no entry has. -/
theorem Agree.cleanupExpired (agree : Agree server s c) :
    Agree server s (RedisRegistry.cleanupExpired.run (RedisRegistry.answer server) c).2 := by
  obtain ⟨redis, waiters⟩ := RedisRegistry.cleanupExpired_run server c
  have record (n : String) :
      (RedisRegistry.cleanupExpired.run (RedisRegistry.answer server) c).2.record n = c.record n := by
    rw [Cluster.record, redis]
    rfl
  have token (t : Uuid) :
      (RedisRegistry.cleanupExpired.run (RedisRegistry.answer server) c).2.token t = c.token t := by
    rw [Cluster.token, redis]
    rfl
  refine ⟨?_, ?_, ?_, ?_⟩
  · intro name vacant
    rw [record]
    exact agree.vacant name vacant
  · intro name entry live
    obtain ⟨client, same⟩ := agree.occupied name entry live
    refine ⟨client, (record name).trans same.record, same.token, same.info, ?_⟩
    rw [waiters, same.record, if_neg (by simp), same.sender]
  · intro t name
    rw [token]
    exact agree.tokens t name
  · intro t name known
    obtain ⟨client, found, own⟩ := agree.backed t name ((token t).symm.trans known)
    exact ⟨client, (record name).trans found, own⟩

theorem Agree.perform (agree : Agree server s c) (config : RegistryConfig)
    (config' : Nat → RegistryConfig) (channel : Chan) {call : RegistryCall}
    (undisputed : Undisputed config s call) :
    (InMemoryRegistry.perform config channel s call).1 =
        (RedisRegistry.perform config' channel c (onServer server call)).1 ∧
      Agree server (InMemoryRegistry.perform config channel s call).2
        (RedisRegistry.perform config' channel c (onServer server call)).2 := by
  cases call with
  | register call => exact agree.register config config' channel call
  | unregister name token =>
      have after := agree.unregister undisputed
      simp only [InMemoryRegistry.perform, onServer, RedisRegistry.perform,
        RedisRegistry.atomically_unregister]
      rw [agree.ended after]
      exact ⟨rfl, after⟩
  | cleanupExpired now =>
      have after := agree.cleanupExpired
      unfold Undisputed at undisputed
      simp only [InMemoryRegistry.perform, onServer, RedisRegistry.perform, undisputed]
      rw [agree.ended after]
      exact ⟨rfl, after⟩

/-- As long as no call is disputed, a run of registrations, of clients that give up and of
    cleanups is seen to be the same on both backends, and ends the same sessions. -/
theorem undisputed_runs_agree (config : RegistryConfig) (config' : Nat → RegistryConfig) (server : Nat)
    (calls : List RegistryCall)
    (undisputed : Journal.Always (InMemoryRegistry.perform config) InMemoryRegistry.new
      (fun journal call => Undisputed config journal.state call) calls) :
    (InMemoryRegistry.journal config calls).past =
      (RedisRegistry.journal config' (calls.map (onServer server))).past := by
  have both : (InMemoryRegistry.journal config calls).past =
        (RedisRegistry.journal config' (calls.map (onServer server))).past ∧
      Agree server (InMemoryRegistry.journal config calls).state
        (RedisRegistry.journal config' (calls.map (onServer server))).state := by
    induction calls using List.reverseRecOn with
    | nil => exact ⟨rfl, agree_new⟩
    | append_singleton calls call ih =>
        obtain ⟨before, last⟩ := Journal.always_snoc.mp undisputed
        obtain ⟨past, agree⟩ := ih before
        have step := agree.perform config config' (InMemoryRegistry.journal config calls).past.length last
        rw [List.map_append, List.map_singleton, InMemoryRegistry.journal_snoc,
          RedisRegistry.journal_snoc, Journal.record, Journal.record]
        rw [← past, ← step.1]
        exact ⟨rfl, step.2⟩
  exact both.1

/-- A client gives up, another one takes its place, and a third one meets it. -/
theorem undisputed_meeting_agrees :
    let config : RegistryConfig := ⟨60 * 10 ^ 9, "s"⟩
    let info : Nat → PeerConnectionData := fun i => ⟨⟨10, 0, 0, .ofNat i⟩, 4000⟩
    let calls : List RegistryCall :=
      [ .register ⟨⟨"a", info 1, none⟩, ⟨1⟩, 0, 0⟩, .unregister "a" ⟨1⟩,
        .register ⟨⟨"a", info 2, none⟩, ⟨2⟩, 1, 1⟩, .cleanupExpired 2,
        .register ⟨⟨"a", info 3, some ⟨1⟩⟩, ⟨3⟩, 3, 3⟩ ]
    Journal.Always (InMemoryRegistry.perform config) InMemoryRegistry.new
        (fun journal call => Undisputed config journal.state call) calls ∧
      (InMemoryRegistry.journal config calls).past =
        (RedisRegistry.journal (fun _ => config) (calls.map (onServer 0))).past := by
  intro config info calls
  have undisputed : Journal.Always (InMemoryRegistry.perform config) InMemoryRegistry.new
      (fun journal call => Undisputed config journal.state call) calls := by
    have own : Undisputed config (InMemoryRegistry.journal config (calls.take 1)).state
        (.unregister "a" ⟨1⟩) := by
      unfold Undisputed
      decide +kernel
    have early : Undisputed config (InMemoryRegistry.journal config (calls.take 3)).state
        (.cleanupExpired 2) := by
      unfold Undisputed
      decide +kernel
    exact Journal.always_of_checks ⟨trivial, own, trivial, early, trivial, trivial⟩
  exact ⟨undisputed, undisputed_runs_agree config (fun _ => config) 0 calls undisputed⟩

/-- A disputed call tells the backends apart: the first client gives up late and takes the
    third client's wait away. In Redis the third client can still resume it. -/
example :
    let config : RegistryConfig := ⟨60 * 10 ^ 9, "s"⟩
    let info : Nat → PeerConnectionData := fun i => ⟨⟨10, 0, 0, .ofNat i⟩, 4000⟩
    let calls : List RegistryCall :=
      [ .register ⟨⟨"a", info 1, none⟩, ⟨1⟩, 0, 0⟩, .register ⟨⟨"a", info 2, none⟩, ⟨2⟩, 1, 1⟩,
        .register ⟨⟨"a", info 3, none⟩, ⟨3⟩, 2, 2⟩, .unregister "a" ⟨1⟩ ]
    let s := (InMemoryRegistry.journal config calls).state
    let c := (RedisRegistry.journal (fun _ => config) (calls.map (onServer 0))).state
    let again : Request := ⟨"a", info 3, some ⟨3⟩⟩
    ((InMemoryRegistry.register config ⟨⟨4⟩, 4, 3, 3⟩ again).run InMemoryRegistry.answer s).1 =
        .ok ⟨.waiting ⟨4⟩ 4, []⟩ ∧
      (RedisRegistry.atomically 0 (RedisRegistry.register config ⟨⟨4⟩, 4, 3, 3⟩ again) c).1 =
        .ok ⟨.resumed ⟨3⟩ 4, []⟩ := by
  decide +kernel

end TCPunch.Backends
