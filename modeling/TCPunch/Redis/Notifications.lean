import TCPunch.Lib.Journal
import TCPunch.Lib.Matching
import TCPunch.Redis.Atomic

/-! # Whom a registration notifies

Runs of whole calls on any number of servers that share one Redis, with keys expiring
at any time. The record under a name always belongs to the latest call of its session,
and the server of that call has the call's sender under the name. So a client that is
paired on that very server notifies its peer. On any other server the peer is not
notified, since nobody listens to what is published; and if that server still has a
sender under the name, a stranger is.
-/

namespace TCPunch

open Rendezvous

/-- A whole call on one of the servers, or the expiry of a Redis key. -/
inductive ClusterCall where
  | register (server : Nat) (call : Registration)
  | unregister (server : Nat) (pairingName : String) (token : Uuid)
  | cleanupExpired (server : Nat)
  | expire (key : String)
  deriving DecidableEq

namespace RedisRegistry

/-- The sessions whose record a call removed. -/
def ended (before after : Cluster) : Set Uuid :=
  {t | ∃ name client, before.record name = some (.json client) ∧ client.reconnectToken = t ∧
    after.record name = none}

/-- One whole call, and what could be seen of it. -/
def perform (config : Nat → RegistryConfig) (channel : Chan) (c : Cluster) :
    ClusterCall → Moment String Uuid PeerConnectionData × Cluster
  | .register server call =>
      let out := atomically server (register (config server) (call.draws channel) call.request) c
      (seen call.request out.1, out.2)
  | .unregister server name token =>
      let out := atomically server (unregister name token) c
      (⟨.cleared (ended c out.2), []⟩, out.2)
  | .cleanupExpired server =>
      let out := cleanupExpired.run (answer server) c
      (⟨.cleared (ended c out.2), []⟩, out.2)
  | .expire key =>
      let out := { c with redis := c.redis.erase key }
      (⟨.cleared (ended c out), []⟩, out)

/-- The journal of a run on an empty Redis. -/
def journal (config : Nat → RegistryConfig) (calls : List ClusterCall) :
    Journal Cluster (Moment String Uuid PeerConnectionData) :=
  .keep (perform config) new calls

/-- `Uuid::new_v4` returned a token never returned before, throughout the run. -/
def FreshTokens (config : Nat → RegistryConfig) (calls : List ClusterCall) : Prop :=
  (issued (journal config calls).past).Nodup

instance (config : Nat → RegistryConfig) (calls : List ClusterCall) :
    Decidable (FreshTokens config calls) := inferInstanceAs (Decidable (List.Nodup _))

/-- Call `i` of the run is a registration made on this server. -/
def MadeOn (calls : List ClusterCall) (i server : Nat) : Prop :=
  ∃ call, calls[i]? = some (.register server call)

variable {config : Nat → RegistryConfig} {calls : List ClusterCall} {c c' : Cluster}
  {past : List (Moment String Uuid PeerConnectionData)}
  {o : Moment String Uuid PeerConnectionData}

theorem MadeOn.snoc {i server call} (made : MadeOn calls i server) :
    MadeOn (calls ++ [call]) i server := by
  obtain ⟨origin, found⟩ := made
  exact ⟨origin, (getElem?_snoc calls call i _).mpr (.inl found)⟩

/-! ## Records, senders and tokens along a run -/

/-- A record belongs to the latest call `m` of its session, and the server of that call
    has the call's sender. -/
structure Placed (config : Nat → RegistryConfig) (calls : List ClusterCall) (c : Cluster)
    (past : List (Moment String Uuid PeerConnectionData)) (name : String) (client : WaitingClient)
    (m home : Nat) : Prop where
  opened : ∃ i, Opens past i name client.reconnectToken
  latest : Latest past past.length client.reconnectToken m client.connectionInfo m
  made : MadeOn calls m home
  server : client.serverId = (config home).serverId
  sender : c.waiter home name = some m

/-- What holds after every run. -/
structure Orderly (config : Nat → RegistryConfig) (calls : List ClusterCall) (c : Cluster)
    (past : List (Moment String Uuid PeerConnectionData)) : Prop where
  records : ∀ name value, c.record name = some value →
    ∃ client m home, value = .json client ∧ Placed config calls c past name client m home
  waiters : ∀ k name channel, c.waiter k name = some channel → MadeOn calls channel k
  tokens : ∀ t name, c.token t = some (.text name) → ∃ i, Opens past i name t

theorem orderly_new : Orderly config [] new [] where
  records := by intro name value found; simp [Cluster.record, new] at found
  waiters := by intro k name channel found; simp [Cluster.waiter, new] at found
  tokens := by intro t name found; simp [Cluster.token, new] at found

/-- A call may remove anything, except the sender that belongs to a record it leaves. -/
theorem Orderly.shrink (orderly : Orderly config calls c past) {call}
    (records : ∀ name value, c'.record name = some value →
      c.record name = some value ∧ ∀ k, c'.waiter k name = c.waiter k name)
    (waiters : ∀ k name channel, c'.waiter k name = some channel → c.waiter k name = some channel)
    (tokens : ∀ t value, c'.token t = some value → c.token t = some value)
    (idle : ∀ t x d, ¬ o.WaitsAs t x d) :
    Orderly config (calls ++ [call]) c' (past ++ [o]) where
  records := by
    intro name value found
    obtain ⟨found, same⟩ := records name value found
    obtain ⟨client, m, home, rfl, placed⟩ := orderly.records name value found
    exact ⟨client, m, home, rfl, {
      opened := placed.opened.imp fun _ opens => opens.snoc
      latest := placed.latest.snoc (idle _)
      made := placed.made.snoc
      server := placed.server
      sender := by rw [same, placed.sender] }⟩
  waiters := fun k name channel found => (orderly.waiters k name channel (waiters _ _ _ found)).snoc
  tokens := fun t name found => (orderly.tokens t name (tokens t _ found)).imp fun _ opens => opens.snoc

theorem Orderly.dismiss (orderly : Orderly config calls c past) {call server name t published}
    (idle : ∀ t x d, ¬ o.WaitsAs t x d) :
    Orderly config (calls ++ [call]) { c.dismiss server name t with published } (past ++ [o]) := by
  have records : ∀ n value, (c.dismiss server name t).record n = some value →
      c.record n = some value ∧ ∀ k, (c.dismiss server name t).waiter k n = c.waiter k n :=
    fun _ _ => Cluster.of_record_dismiss
  have waiters : ∀ k n channel, (c.dismiss server name t).waiter k n = some channel →
      c.waiter k n = some channel := fun _ _ _ => Cluster.of_waiter_dismiss
  have tokens : ∀ u value, (c.dismiss server name t).token u = some value →
      c.token u = some value := fun _ _ => Cluster.of_token_dismiss
  exact orderly.shrink records waiters tokens idle

theorem Orderly.enroll (orderly : Orderly config calls c past) {server : Nat} {call : Registration}
    {name : String} {client : WaitingClient} (count : calls.length = past.length)
    (waits : ∀ t x d, o.WaitsAs t x d ↔
      t = client.reconnectToken ∧ x = client.connectionInfo ∧ d = past.length)
    (opened : ∃ i, Opens (past ++ [o]) i name client.reconnectToken)
    (own : client.serverId = (config server).serverId)
    (others : ∀ n other, n ≠ name → c.record n = some (.json other) →
      other.reconnectToken ≠ client.reconnectToken) :
    Orderly config (calls ++ [.register server call]) (c.enroll server name client past.length)
      (past ++ [o]) where
  records := by
    intro n value found
    rw [Cluster.record_enroll] at found
    split at found
    · rename_i same
      subst same
      obtain rfl := Option.some.inj found
      exact ⟨client, past.length, server, rfl, {
        opened
        latest := latest_last ((waits _ _ _).mpr ⟨rfl, rfl, rfl⟩)
        made := ⟨call, by rw [← count]; exact List.getElem?_concat_length⟩
        server := own
        sender := by simp }⟩
    · rename_i apart
      obtain ⟨client', m, home, rfl, placed⟩ := orderly.records n value found
      exact ⟨client', m, home, rfl, {
        opened := placed.opened.imp fun _ opens => opens.snoc
        latest := placed.latest.snoc fun x d here =>
          others n client' apart found ((waits _ x d).mp here).1
        made := placed.made.snoc
        server := placed.server
        sender := by simp [apart, placed.sender] }⟩
  waiters := by
    intro k n channel found
    rw [Cluster.waiter_enroll] at found
    split at found
    · rename_i same
      obtain rfl := Option.some.inj found
      exact ⟨call, by rw [← count, same.1]; exact List.getElem?_concat_length⟩
    · exact (orderly.waiters k n channel found).snoc
  tokens := by
    intro t n found
    rw [Cluster.token_enroll] at found
    exact (orderly.tokens t n found).imp fun _ opens => opens.snoc

theorem Orderly.issue (orderly : Orderly config calls c past) {t name}
    (opened : ∃ i, Opens past i name t) : Orderly config calls (c.issue t name) past where
  records := by
    intro n value found
    rw [Cluster.record_issue] at found
    obtain ⟨client, m, home, rfl, placed⟩ := orderly.records n value found
    exact ⟨client, m, home, rfl, { placed with sender := placed.sender }⟩
  waiters := orderly.waiters
  tokens := by
    intro u n found
    rw [Cluster.token_issue] at found
    split at found
    · rename_i same
      cases found
      rw [same]
      exact opened
    · exact orderly.tokens u n found

theorem journal_snoc (config : Nat → RegistryConfig) (calls : List ClusterCall)
    (call : ClusterCall) :
    journal config (calls ++ [call]) = (journal config calls).record (perform config) call :=
  Journal.keep_snoc (perform config) new calls call

theorem FreshTokens.of_snoc {call} (fresh : FreshTokens config (calls ++ [call])) :
    FreshTokens config calls ∧
      ∀ t, (perform config (journal config calls).past.length (journal config calls).state call).1.issued
        = some t → t ∉ issued (journal config calls).past := by
  rw [FreshTokens, journal_snoc, Journal.record, nodup_issued_snoc] at fresh
  exact fresh

theorem FreshTokens.left {pre post} (fresh : FreshTokens config (pre ++ post)) :
    FreshTokens config pre := by
  induction post using List.reverseRecOn with
  | nil => rwa [List.append_nil] at fresh
  | append_singleton post call ih =>
      rw [← List.append_assoc] at fresh
      exact ih fresh.of_snoc.1

theorem Orderly.register (orderly : Orderly config calls c past) (freshOld : (issued past).Nodup)
    (count : calls.length = past.length) (server : Nat) (call : Registration)
    (drawn : ∀ t, (perform config past.length c (.register server call)).1.issued = some t →
      t ∉ issued past) :
    Orderly config (calls ++ [.register server call])
      (perform config past.length c (.register server call)).2
      (past ++ [(perform config past.length c (.register server call)).1]) := by
  simp only [perform] at drawn ⊢
  rcases register_cases (config server) (call.draws past.length) server c call.request with
    ⟨token, check, out⟩ | ⟨vacant, out⟩ | ⟨client, live, out⟩ | ⟨text, garbled, out⟩
  · obtain ⟨i, opens⟩ := orderly.tokens token _ check.2
    rw [out]
    refine orderly.enroll count (fun t x d => waitsAs_resumed) ⟨i, opens.snoc⟩ rfl ?_
    · -- Another record with this token would be under the name that the token leads to.
      intro n other apart found same
      obtain ⟨client, m, home, alike, placed⟩ := orderly.records n _ found
      obtain ⟨j, opens'⟩ := placed.opened
      cases alike
      rw [same] at opens'
      exact apart (opens'.unique freshOld opens).2
  · rw [out] at drawn ⊢
    have opened : ∃ i, Opens (past ++ [⟨.opened call.request.pairingName call.request.clientInfo
        call.newV4 past.length, []⟩]) i call.request.pairingName call.newV4 :=
      ⟨past.length, call.request.clientInfo, past.length, [], List.getElem?_concat_length⟩
    have enrolled : Orderly config (calls ++ [.register server call])
        (c.enroll server call.request.pairingName (waitingClient (config server)
          (call.draws past.length) call.newV4 call.request.clientInfo) past.length)
        (past ++ [⟨.opened call.request.pairingName call.request.clientInfo call.newV4 past.length,
          []⟩]) := by
      refine orderly.enroll count (fun t x d => waitsAs_opened) opened rfl ?_
      intro n other apart found same
      obtain ⟨client, m, home, alike, placed⟩ := orderly.records n _ found
      obtain ⟨j, opens'⟩ := placed.opened
      cases alike
      rw [same] at opens'
      exact drawn call.newV4 rfl (mem_issued_of_opens opens')
    exact enrolled.issue opened
  · rw [out]
    exact orderly.dismiss (by rintro t x d ⟨n, wrong | wrong⟩ <;> cases wrong)
  · obtain ⟨client, m, home, wrong, -⟩ := orderly.records _ _ garbled
    cases wrong

theorem Orderly.perform (orderly : Orderly config calls c past) (freshOld : (issued past).Nodup)
    (count : calls.length = past.length) (call : ClusterCall)
    (drawn : ∀ t, (perform config past.length c call).1.issued = some t → t ∉ issued past) :
    Orderly config (calls ++ [call]) (perform config past.length c call).2
      (past ++ [(perform config past.length c call).1]) := by
  cases call with
  | register server call => exact orderly.register freshOld count server call drawn
  | unregister server name token =>
      simp only [RedisRegistry.perform, atomically_unregister]
      exact orderly.dismiss (by rintro t x d ⟨n, wrong | wrong⟩ <;> cases wrong)
  | cleanupExpired server =>
      obtain ⟨redis, waiters⟩ := cleanupExpired_run server c
      refine orderly.shrink ?_ ?_ ?_ (by rintro t x d ⟨n, wrong | wrong⟩ <;> cases wrong)
      · intro name value found
        have found : c.record name = some value := by
          rw [Cluster.record, ← redis]
          exact found
        refine ⟨found, fun k => (waiters k name).trans (if_neg ?_)⟩
        simp [found]
      · intro k name channel found
        have found := (waiters k name).symm.trans found
        split at found
        · cases found
        · exact found
      · intro t value found
        rw [Cluster.token, ← redis]
        exact found
  | expire key =>
      refine orderly.shrink ?_ (fun _ _ _ found => found) ?_
        (by rintro t x d ⟨n, wrong | wrong⟩ <;> cases wrong)
      · exact fun name value found => ⟨(FiniteMap.of_lookup_erase found).2, fun _ => rfl⟩
      · exact fun t value found => (FiniteMap.of_lookup_erase found).2

theorem journal_orderly (fresh : FreshTokens config calls) :
    Orderly config calls (journal config calls).state (journal config calls).past := by
  induction calls using List.reverseRecOn with
  | nil => exact orderly_new
  | append_singleton calls call ih =>
      obtain ⟨freshOld, drawn⟩ := fresh.of_snoc
      rw [journal_snoc]
      exact (ih freshOld).perform freshOld (Journal.keep_past_length _ _ _).symm call drawn

/-! ## Paired clients and their peers -/

/-- A client that is paired has taken the record of a session, and has sent its address
    to whatever sender its own server had under the name. -/
theorem Orderly.paired (orderly : Orderly config calls c past) {server : Nat} {draws : Draws}
    {request : Request} {token peerInfo sent}
    (paired : (atomically server (RedisRegistry.register (config server) draws request) c).1 =
      .ok ⟨.paired token peerInfo, sent⟩) :
    ∃ client m home, c.record request.pairingName = some (.json client) ∧
      client.connectionInfo = peerInfo ∧
      Placed config calls c past request.pairingName client m home ∧
      sent = (c.waiter server request.pairingName).toList.map fun tx =>
        { channel := tx, peer := request.clientInfo } := by
  rcases register_cases (config server) draws server c request with
    ⟨_, -, out⟩ | ⟨-, out⟩ | ⟨client, live, out⟩ | ⟨_, -, out⟩
  · simp [out] at paired
  · simp [out] at paired
  · obtain ⟨client', m, home, alike, placed⟩ := orderly.records _ _ live
    cases alike
    simp only [out, Except.ok.injEq, Registered.mk.injEq, RegistrationResult.paired.injEq] at paired
    exact ⟨client, m, home, live, paired.1.2, placed, paired.2.symm⟩
  · simp [out] at paired

theorem Orderly.foreign (orderly : Orderly config calls c past) {server home m channel : Nat}
    {name : String} (made : MadeOn calls m home) (away : home ≠ server)
    (found : c.waiter server name = some channel) : channel ≠ m := by
  intro same
  subst same
  obtain ⟨call, here⟩ := made
  obtain ⟨call', there⟩ := orderly.waiters server name channel found
  have alike := here.symm.trans there
  simp only [Option.some.injEq, ClusterCall.register.injEq] at alike
  exact away alike.1

/-- The peer of a client that is paired hears of it, counting everything that is done with
    published messages, exactly when its latest call was made on the same server. -/
theorem notified_iff_same_server (config : Nat → RegistryConfig) (calls : List ClusterCall)
    (fresh : FreshTokens config calls) (server : Nat) (call : Registration) {token peerInfo sent}
    (paired : (atomically server (register (config server) (call.draws calls.length) call.request)
      (journal config calls).state).1 = .ok ⟨.paired token peerInfo, sent⟩) :
    ∃ client m home,
      (journal config calls).state.record call.request.pairingName = some (.json client) ∧
      Latest (journal config calls).past calls.length client.reconnectToken m peerInfo m ∧
      MadeOn calls m home ∧ client.serverId = (config home).serverId ∧
      (⟨m, call.request.clientInfo⟩ ∈ sent ++ (atomically server (register (config server)
          (call.draws calls.length) call.request)
            (journal config calls).state).2.published.flatMap consume ↔ home = server) := by
  have orderly := journal_orderly fresh
  have count : (journal config calls).past.length = calls.length := Journal.keep_past_length _ _ _
  obtain ⟨client, m, home, live, rfl, placed, rfl⟩ := orderly.paired paired
  refine ⟨client, m, home, live, count ▸ placed.latest, placed.made, placed.server, ?_⟩
  have unheard : ∀ published : List (String × PeerConnectionData),
      published.flatMap consume = [] := by
    intro published
    simp [consume, startBackgroundTasks, BackgroundTask.receive]
  rw [unheard, List.append_nil, List.mem_map]
  constructor
  · intro heard
    obtain ⟨channel, found, same⟩ := heard
    by_contra away
    have found := Option.mem_toList.mp found
    exact orderly.foreign placed.made away found (Notification.mk.inj same).1
  · intro same
    subst same
    exact ⟨m, by simp [placed.sender], rfl⟩

/-- A client waits on server 0, another is paired with it on server 1: its address is
    published, and nobody passes it on. -/
theorem peer_on_other_server_unheard :
    let config : Nat → RegistryConfig := fun k => ⟨60 * 10 ^ 9, if k = 0 then "s0" else "s1"⟩
    let w : PeerConnectionData := ⟨⟨10, 0, 0, 1⟩, 4001⟩
    let x : PeerConnectionData := ⟨⟨10, 0, 0, 2⟩, 4002⟩
    let c := (journal config [.register 0 ⟨⟨"a", w, none⟩, ⟨1⟩, 0, 0⟩]).state
    let out := atomically 1 (register (config 1) ⟨⟨2⟩, 1, 1, 1⟩ ⟨"a", x, none⟩) c
    c.waiter 0 "a" = some 0 ∧ out.1 = .ok ⟨.paired ⟨2⟩ w, []⟩ ∧
      out.2.published = [("tcpunch:notify:a", x)] ∧ out.2.published.flatMap consume = [] := by
  decide +kernel

/-- Both clients come to server 0. -/
theorem notified_on_same_server :
    let config : Nat → RegistryConfig := fun k => ⟨60 * 10 ^ 9, if k = 0 then "s0" else "s1"⟩
    let w : PeerConnectionData := ⟨⟨10, 0, 0, 1⟩, 4001⟩
    let x : PeerConnectionData := ⟨⟨10, 0, 0, 2⟩, 4002⟩
    let calls : List ClusterCall := [.register 0 ⟨⟨"a", w, none⟩, ⟨1⟩, 0, 0⟩]
    FreshTokens config calls ∧ ∃ client m home,
      (journal config calls).state.record "a" = some (.json client) ∧
      Latest (journal config calls).past calls.length client.reconnectToken m w m ∧
      MadeOn calls m home ∧ client.serverId = (config home).serverId ∧
      (⟨m, x⟩ ∈ [⟨0, x⟩] ++ (atomically 0 (register (config 0) ⟨⟨2⟩, 1, 1, 1⟩ ⟨"a", x, none⟩)
        (journal config calls).state).2.published.flatMap consume ↔ home = 0) := by
  intro config w x calls
  have paired : (atomically 0 (register (config 0) ⟨⟨2⟩, 1, 1, 1⟩ ⟨"a", x, none⟩)
      (journal config calls).state).1 = .ok ⟨.paired ⟨2⟩ w, [⟨0, x⟩]⟩ := by decide +kernel
  exact ⟨by decide +kernel, notified_iff_same_server config calls (by decide +kernel) 0
    ⟨⟨"a", x, none⟩, ⟨2⟩, 1, 1⟩ paired⟩

/-- A client that is paired tells no stranger exactly when its peer's latest call was made
    on the same server, or the server has no sender under the name. For a peer whose record
    names another server only the latter will do. -/
theorem only_peer_told_iff (config : Nat → RegistryConfig) (calls : List ClusterCall)
    (fresh : FreshTokens config calls) (server : Nat) (call : Registration) {token peerInfo sent}
    (paired : (atomically server (register (config server) (call.draws calls.length) call.request)
      (journal config calls).state).1 = .ok ⟨.paired token peerInfo, sent⟩) :
    ∃ client m home,
      (journal config calls).state.record call.request.pairingName = some (.json client) ∧
      Latest (journal config calls).past calls.length client.reconnectToken m peerInfo m ∧
      MadeOn calls m home ∧ client.serverId = (config home).serverId ∧
      ((∀ message ∈ sent, message.channel = m) ↔
        home = server ∨ (journal config calls).state.waiter server call.request.pairingName = none) ∧
      (client.serverId ≠ (config server).serverId → (sent = [] ↔
        (journal config calls).state.waiter server call.request.pairingName = none)) := by
  have orderly := journal_orderly fresh
  have count : (journal config calls).past.length = calls.length := Journal.keep_past_length _ _ _
  obtain ⟨client, m, home, live, rfl, placed, rfl⟩ := orderly.paired paired
  refine ⟨client, m, home, live, count ▸ placed.latest, placed.made, placed.server, ?_, ?_⟩
  · cases found : (journal config calls).state.waiter server call.request.pairingName with
    | none => simp
    | some channel =>
        simp only [Option.toList_some, List.map_cons, List.map_nil, List.mem_singleton, forall_eq,
          reduceCtorEq, or_false]
        constructor
        · intro same
          by_contra away
          exact orderly.foreign placed.made away found same
        · intro same
          subst same
          exact Option.some.inj (found.symm.trans placed.sender)
  · intro _
    simp

/-- The sender of a client paired from server 1 stays on server 0. The next client that is
    paired on server 0, with a peer that waits on server 1, is announced to it. -/
theorem stranger_told :
    let config : Nat → RegistryConfig := fun k => ⟨60 * 10 ^ 9, if k = 0 then "s0" else "s1"⟩
    let info : Nat → PeerConnectionData := fun i => ⟨⟨10, 0, 0, .ofNat i⟩, 4000⟩
    let calls : List ClusterCall :=
      [ .register 0 ⟨⟨"a", info 0, none⟩, ⟨1⟩, 0, 0⟩, .register 1 ⟨⟨"a", info 1, none⟩, ⟨2⟩, 1, 1⟩,
        .register 1 ⟨⟨"a", info 2, none⟩, ⟨3⟩, 2, 2⟩ ]
    let c := (journal config calls).state
    c.waiter 1 "a" = some 2 ∧
      (atomically 0 (register (config 0) ⟨⟨4⟩, 3, 3, 3⟩ ⟨"a", info 3, none⟩) c).1 =
        .ok ⟨.paired ⟨4⟩ (info 2), [⟨0, info 3⟩]⟩ := by
  decide +kernel

/-- A peer that waits on server 1, and no sender on server 0. -/
theorem only_peer_told_without_sender :
    let config : Nat → RegistryConfig := fun k => ⟨60 * 10 ^ 9, if k = 0 then "s0" else "s1"⟩
    let w : PeerConnectionData := ⟨⟨10, 0, 0, 1⟩, 4001⟩
    let x : PeerConnectionData := ⟨⟨10, 0, 0, 2⟩, 4002⟩
    let calls : List ClusterCall := [.register 1 ⟨⟨"a", w, none⟩, ⟨1⟩, 0, 0⟩]
    FreshTokens config calls ∧
      (atomically 0 (register (config 0) ⟨⟨2⟩, 1, 1, 1⟩ ⟨"a", x, none⟩)
        (journal config calls).state).1 = .ok ⟨.paired ⟨2⟩ w, []⟩ ∧
      ∃ client m home, (journal config calls).state.record "a" = some (.json client) ∧
        Latest (journal config calls).past calls.length client.reconnectToken m w m ∧
        MadeOn calls m home ∧ ∀ message ∈ ([] : List Notification), message.channel = m := by
  intro config w x calls
  have paired : (atomically 0 (register (config 0) ⟨⟨2⟩, 1, 1, 1⟩ ⟨"a", x, none⟩)
      (journal config calls).state).1 = .ok ⟨.paired ⟨2⟩ w, []⟩ := by decide +kernel
  obtain ⟨client, m, home, live, latest, made, -, only, -⟩ := only_peer_told_iff config calls
    (by decide +kernel) 0 ⟨⟨"a", x, none⟩, ⟨2⟩, 1, 1⟩ paired
  exact ⟨by decide +kernel, paired, client, m, home, live, latest, made,
    only.mpr (.inr (by decide +kernel))⟩

end RedisRegistry

end TCPunch
