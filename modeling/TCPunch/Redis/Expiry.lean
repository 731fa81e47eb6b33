import TCPunch.Redis.Notifications

/-! # Keys with deadlines

The same programs over a Redis in which every key has a deadline: `SETEX` sets it, and a
key at or past its deadline is absent. A client that comes back has its record written
anew, with a new deadline, while the key of its token keeps the deadline of the call that
opened the session. From that deadline on the client is a stranger to its own record, and
is paired with it.
-/

namespace TCPunch

open Rendezvous

/-- One Redis with deadlines, and the servers that use it. -/
structure TimedCluster where
  /-- What `SETEX` wrote, with its deadline; past it the key is as good as absent. -/
  redis : FiniteMap String (RedisValue × Instant)
  localWaiters : Nat → FiniteMap String Chan
  published : List (String × PeerConnectionData)

namespace TimedCluster

/-- What a command finds under a key. -/
def live (c : TimedCluster) (now : Instant) (key : String) : Option RedisValue :=
  match c.redis.lookup key with
  | some (value, deadline) => if now < deadline then some value else none
  | none => none

theorem live_eq_some {c : TimedCluster} {now key value} :
    c.live now key = some value ↔
      ∃ deadline, c.redis.lookup key = some (value, deadline) ∧ now < deadline := by
  cases found : c.redis.lookup key with
  | none => simp [live, found]
  | some entry =>
      obtain ⟨value', deadline⟩ := entry
      simp only [live, found, Option.some.injEq, Prod.mk.injEq]
      constructor
      · intro lives
        split at lives
        · exact ⟨deadline, ⟨Option.some.inj lives, rfl⟩, ‹_›⟩
        · cases lives
      · intro stored
        obtain ⟨_, ⟨rfl, rfl⟩, early⟩ := stored
        rw [if_pos early]

end TimedCluster

namespace RedisRegistry

/-- A positive number of seconds. -/
def nanos (seconds : Int) : Instant := seconds.toNat * 10 ^ 9

/-- The time to live that this server gives to its keys. -/
def ttl (config : RegistryConfig) : Instant := nanos (ttlSecs config)

def newTimed : TimedCluster := { redis := ∅, localWaiters := fun _ => ∅, published := [] }

/-- `SETEX`, which refuses a time to live that is not positive. -/
def setexAt (now : Instant) (key : String) (seconds : Int) (value : RedisValue)
    (c : TimedCluster) : Except RedisError Unit × TimedCluster :=
  if 0 < seconds then
    (.ok (), { c with redis := c.redis.insert key (value, now + nanos seconds) })
  else
    (.error "ERR invalid expire time in setex", c)

/-- The effect of one call made on a server at a time. -/
def answerAt (now : Instant) (server : Nat) :
    (call : RedisCall) → TimedCluster → call.Reply × TimedCluster
  | .get key, c => (.ok (c.live now key), c)
  | .setex key seconds value, c => setexAt now key seconds value c
  | .getdel key, c => (.ok (c.live now key), { c with redis := c.redis.erase key })
  | .del keys, c => (.ok (), { c with redis := keys.foldl (fun redis key => redis.erase key) c.redis })
  | .keyExists key, c => (.ok (c.live now key).isSome, c)
  | .publish channel message, c =>
      (.ok (), { c with published := c.published ++ [(channel, message)] })
  | .waitersInsert name tx, c =>
      ((), { c with localWaiters := Function.update c.localWaiters server
                      ((c.localWaiters server).insert name tx) })
  | .waitersRemove name, c =>
      ((c.localWaiters server).lookup name,
        { c with localWaiters := Function.update c.localWaiters server
                  ((c.localWaiters server).erase name) })
  | .waitersKeys, c => (FiniteMap.keyList (c.localWaiters server), c)

/-- A whole call made at one time. -/
def atomicallyAt {α : Type} (now : Instant) (server : Nat) (method : Method α) (c : TimedCluster) :
    Except RegistryError α × TimedCluster :=
  method.run.run (answerAt now server) c

section Steps

variable {α β : Type} (now : Instant) (server : Nat) (c : TimedCluster)

theorem atomicallyAt_bind (method : Method α) (next : α → Method β) :
    atomicallyAt now server (method >>= next) c =
      match atomicallyAt now server method c with
      | (.ok a, c') => atomicallyAt now server (next a) c'
      | (.error e, c') => (.error e, c') := by
  simp only [atomicallyAt, ExceptT.run_bind, Program.run_bind]
  cases method.run.run (answerAt now server) c with
  | mk result after => cases result <;> rfl

/-- What comes after a method that succeeds. Stated without a match on the outcome, which
    would have the kernel compute with the time to live. -/
theorem atomicallyAt_then {method : Method α} {a : α} {c c' : TimedCluster}
    (out : atomicallyAt now server method c = (.ok a, c')) (next : α → Method β) :
    atomicallyAt now server (method >>= next) c = atomicallyAt now server (next a) c' := by
  rw [atomicallyAt_bind, out]

@[simp]
theorem atomicallyAt_pure (a : α) :
    atomicallyAt now server (pure a : Method α) c = (.ok a, c) := rfl

@[simp]
theorem atomicallyAt_get (key : String) :
    atomicallyAt now server (get key) c = (.ok (c.live now key), c) := rfl

theorem atomicallyAt_setex {seconds : Int} (positive : 0 < seconds) (key : String)
    (value : RedisValue) :
    atomicallyAt now server (setex key seconds value) c =
      (.ok (), { c with redis := c.redis.insert key (value, now + nanos seconds) }) := by
  simp only [atomicallyAt, setex, ExceptT.run_mk, Program.run_call, answerAt, setexAt,
    if_pos positive]
  rfl

@[simp]
theorem atomicallyAt_getdel (key : String) :
    atomicallyAt now server (getdel key) c =
      (.ok (c.live now key), { c with redis := c.redis.erase key }) := rfl

@[simp]
theorem atomicallyAt_del (keys : List String) :
    atomicallyAt now server (del keys) c =
      (.ok (), { c with redis := keys.foldl (fun redis key => redis.erase key) c.redis }) := rfl

@[simp]
theorem atomicallyAt_waitersInsert (name : String) (tx : Chan) :
    atomicallyAt now server (waitersInsert name tx) c =
      (.ok (), { c with localWaiters := Function.update c.localWaiters server
                          ((c.localWaiters server).insert name tx) }) := rfl

@[simp]
theorem atomicallyAt_waitersRemove (name : String) :
    atomicallyAt now server (waitersRemove name) c =
      (.ok ((c.localWaiters server).lookup name),
        { c with localWaiters := Function.update c.localWaiters server
                  ((c.localWaiters server).erase name) }) := rfl

@[simp]
theorem atomicallyAt_publish (channel : String) (message : PeerConnectionData) :
    atomicallyAt now server (publish channel message) c =
      (.ok (), { c with published := c.published ++ [(channel, message)] }) := rfl

theorem atomicallyAt_notifyPeer (config : RegistryConfig) (name : String) (info : PeerConnectionData)
    (waiting : WaitingClient) :
    atomicallyAt now server (notifyPeer config name info waiting) c =
      (.ok (((c.localWaiters server).lookup name).toList.map fun tx =>
          { channel := tx, peer := info }),
        { c with
          localWaiters := Function.update c.localWaiters server
            ((c.localWaiters server).erase name)
          published := c.published ++
            posted config name info waiting ((c.localWaiters server).lookup name) }) := by
  cases found : (c.localWaiters server).lookup name with
  | some tx => simp [notifyPeer, atomicallyAt_bind, found, posted]
  | none =>
      by_cases other : waiting.serverId = config.serverId
      · simp [notifyPeer, atomicallyAt_bind, found, other, posted]
      · simp [notifyPeer, atomicallyAt_bind, found, other, posted]

end Steps

variable {config : RegistryConfig} {draws : Draws} {request : Request} {now : Instant}
  {server : Nat} {c : TimedCluster}

theorem pairOrWaitAt_waits {name info} (positive : 0 < ttlSecs config)
    (vacant : c.live now (pairingKey name) = none) :
    ∃ after, atomicallyAt now server (pairOrWait config draws name info) c =
        (.ok { result := .waiting draws.newV4 draws.channel, sent := [] }, after) ∧
      after.redis = ((c.redis.erase (pairingKey name)).insert (pairingKey name)
        (.json (waitingClient config draws draws.newV4 info), now + ttl config)).insert
          (tokenKey draws.newV4) (.text name, now + ttl config) := by
  rw [pairOrWait, atomicallyAt_then _ _ (atomicallyAt_getdel now server c _), vacant,
    atomicallyAt_then _ _ (atomicallyAt_setex now server _ positive _ _),
    atomicallyAt_then _ _ (atomicallyAt_setex now server _ positive _ _),
    atomicallyAt_then _ _ (atomicallyAt_waitersInsert now server _ _ _)]
  exact ⟨_, rfl, rfl⟩

theorem pairOrWaitAt_pairs (config : RegistryConfig) (draws : Draws) (server : Nat)
    (info : PeerConnectionData) {name client}
    (found : c.live now (pairingKey name) = some (.json client)) :
    ∃ sent after, atomicallyAt now server (pairOrWait config draws name info) c =
        (.ok { result := .paired draws.newV4 client.connectionInfo, sent }, after) ∧
      after.redis = (c.redis.erase (pairingKey name)).erase (tokenKey client.reconnectToken) := by
  simp only [pairOrWait, atomicallyAt_bind, atomicallyAt_getdel, found, fromStr, atomicallyAt_pure,
    atomicallyAt_del, atomicallyAt_notifyPeer, List.foldl_cons, List.foldl_nil]
  exact ⟨_, _, rfl, rfl⟩

/-- The key of the presented token lives and leads to the name. -/
def ReconnectsAt (c : TimedCluster) (now : Instant) (request : Request) (token : Uuid) : Prop :=
  request.reconnectToken = some token ∧
    c.live now (tokenKey token) = some (.text request.pairingName)

theorem registerAt_resumes {token} (positive : 0 < ttlSecs config)
    (check : ReconnectsAt c now request token) :
    ∃ after, atomicallyAt now server (register config draws request) c =
        (.ok { result := .resumed token draws.channel, sent := [] }, after) ∧
      after.redis = c.redis.insert (pairingKey request.pairingName)
        (.json (waitingClient config draws token request.clientInfo), now + ttl config) := by
  rw [register, check.1]
  dsimp only
  rw [atomicallyAt_then _ _ (atomicallyAt_get now server c _), check.2, if_pos rfl,
    atomicallyAt_then _ _ (atomicallyAt_setex now server c positive _ _),
    atomicallyAt_then _ _ (atomicallyAt_waitersInsert now server _ _ _)]
  exact ⟨_, rfl, rfl⟩

theorem registerAt_otherwise (check : ∀ token, ¬ ReconnectsAt c now request token) :
    atomicallyAt now server (register config draws request) c =
      atomicallyAt now server (pairOrWait config draws request.pairingName request.clientInfo) c := by
  cases shown : request.reconnectToken with
  | none => simp only [register, shown]
  | some token =>
      have fails : c.live now (tokenKey token) ≠ some (.text request.pairingName) :=
        fun known => check token ⟨shown, known⟩
      simp only [register, shown, atomicallyAt_bind, atomicallyAt_get, fails, if_false]

theorem registerAt_cases (positive : 0 < ttlSecs config) (draws : Draws) (request : Request)
    (now : Instant) (server : Nat) (c : TimedCluster) :
    (∃ token after, ReconnectsAt c now request token ∧
      atomicallyAt now server (register config draws request) c =
        (.ok { result := .resumed token draws.channel, sent := [] }, after) ∧
      after.redis = c.redis.insert (pairingKey request.pairingName)
        (.json (waitingClient config draws token request.clientInfo), now + ttl config)) ∨
    (∃ after, c.live now (pairingKey request.pairingName) = none ∧
      atomicallyAt now server (register config draws request) c =
        (.ok { result := .waiting draws.newV4 draws.channel, sent := [] }, after) ∧
      after.redis = ((c.redis.erase (pairingKey request.pairingName)).insert
        (pairingKey request.pairingName)
        (.json (waitingClient config draws draws.newV4 request.clientInfo), now + ttl config)).insert
          (tokenKey draws.newV4) (.text request.pairingName, now + ttl config)) ∨
    (∃ client sent after, c.live now (pairingKey request.pairingName) = some (.json client) ∧
      atomicallyAt now server (register config draws request) c =
        (.ok { result := .paired draws.newV4 client.connectionInfo, sent }, after) ∧
      after.redis = (c.redis.erase (pairingKey request.pairingName)).erase
        (tokenKey client.reconnectToken)) ∨
    ∃ text, c.live now (pairingKey request.pairingName) = some (.text text) := by
  by_cases check : ∃ token, ReconnectsAt c now request token
  · obtain ⟨token, check⟩ := check
    obtain ⟨after, out, redis⟩ := registerAt_resumes positive check
    exact .inl ⟨token, after, check, out, redis⟩
  · rw [registerAt_otherwise (not_exists.mp check)]
    cases found : c.live now (pairingKey request.pairingName) with
    | none =>
        obtain ⟨after, out, redis⟩ := pairOrWaitAt_waits positive found
        exact .inr (.inl ⟨after, rfl, out, redis⟩)
    | some value =>
        cases value with
        | json client =>
            obtain ⟨sent, after, out, redis⟩ :=
              pairOrWaitAt_pairs config draws server request.clientInfo found
            exact .inr (.inr (.inl ⟨client, sent, after, rfl, out, redis⟩))
        | text text => exact .inr (.inr (.inr ⟨text, rfl⟩))

/-! ## Deadlines along a run -/

/-- A registration on a server, made at the time `call.now`. -/
structure TimedCall where
  server : Nat
  call : Registration
  deriving DecidableEq

def performAt (config : Nat → RegistryConfig) (channel : Chan) (c : TimedCluster) (step : TimedCall) :
    Moment String Uuid PeerConnectionData × TimedCluster :=
  let out := atomicallyAt step.call.now step.server
    (register (config step.server) (step.call.draws channel) step.call.request) c
  (seen step.call.request out.1, out.2)

def timedJournal (config : Nat → RegistryConfig) (calls : List TimedCall) :
    Journal TimedCluster (Moment String Uuid PeerConnectionData) :=
  .keep (performAt config) newTimed calls

section Runs

variable {config : Nat → RegistryConfig} {calls : List TimedCall} {c : TimedCluster}
  {past : List (Moment String Uuid PeerConnectionData)}
  {o : Moment String Uuid PeerConnectionData}

/-- The deadline of the keys that call `i` of the run wrote. -/
def DeadlineOf (config : Nat → RegistryConfig) (calls : List TimedCall) (i : Nat)
    (deadline : Instant) : Prop :=
  ∃ step, calls[i]? = some step ∧ deadline = step.call.now + ttl (config step.server)

theorem DeadlineOf.snoc {i deadline step} (due : DeadlineOf config calls i deadline) :
    DeadlineOf config (calls ++ [step]) i deadline := by
  obtain ⟨origin, found, same⟩ := due
  exact ⟨origin, (getElem?_snoc calls step i _).mpr (.inl found), same⟩

theorem deadlineOf_last (step : TimedCall) :
    DeadlineOf config (calls ++ [step]) calls.length (step.call.now + ttl (config step.server)) :=
  ⟨step, List.getElem?_concat_length, rfl⟩

/-- The key of a token was written by the call that opened the session, the record of a
    client by the latest call of its session, and the key of its token is still there. -/
structure Dated (config : Nat → RegistryConfig) (calls : List TimedCall) (c : TimedCluster)
    (past : List (Moment String Uuid PeerConnectionData)) : Prop where
  tokens : ∀ t value deadline, c.redis.lookup (tokenKey t) = some (value, deadline) →
    ∃ name i, value = .text name ∧ Opens past i name t ∧ DeadlineOf config calls i deadline
  records : ∀ name value deadline, c.redis.lookup (pairingKey name) = some (value, deadline) →
    ∃ client m, value = .json client ∧
      Latest past past.length client.reconnectToken m client.connectionInfo m ∧
      DeadlineOf config calls m deadline ∧
      ∃ due, c.redis.lookup (tokenKey client.reconnectToken) = some (.text name, due)

theorem dated_new : Dated config [] newTimed [] where
  tokens := by intro t value deadline found; simp [newTimed] at found
  records := by intro name value deadline found; simp [newTimed] at found

/-- A call writes a record, whose token leads to the name by a key of its opening call. -/
theorem Dated.enroll {c' : TimedCluster} (dated : Dated config calls c past) {step : TimedCall}
    (name : String) (client : WaitingClient) (due : Instant) (count : calls.length = past.length)
    (waits : ∀ t x d, o.WaitsAs t x d ↔
      t = client.reconnectToken ∧ x = client.connectionInfo ∧ d = past.length)
    (record : ∀ n, c'.redis.lookup (pairingKey n) =
      if n = name then some (.json client, step.call.now + ttl (config step.server))
      else c.redis.lookup (pairingKey n))
    (token : ∀ t, c'.redis.lookup (tokenKey t) =
      if t = client.reconnectToken then some (.text name, due) else c.redis.lookup (tokenKey t))
    (opened : ∃ i, Opens (past ++ [o]) i name client.reconnectToken ∧
      DeadlineOf config (calls ++ [step]) i due)
    (others : ∀ n other deadline, n ≠ name →
      c.redis.lookup (pairingKey n) = some (.json other, deadline) →
      other.reconnectToken ≠ client.reconnectToken) :
    Dated config (calls ++ [step]) c' (past ++ [o]) where
  tokens := by
    intro t value deadline found
    rw [token] at found
    split at found
    · rename_i same
      subst same
      cases found
      obtain ⟨i, opens, written⟩ := opened
      exact ⟨name, i, rfl, opens, written⟩
    · obtain ⟨n, i, rfl, opens, written⟩ := dated.tokens t value deadline found
      exact ⟨n, i, rfl, opens.snoc, written.snoc⟩
  records := by
    intro n value deadline found
    rw [record] at found
    split at found
    · rename_i same
      subst same
      cases found
      refine ⟨client, past.length, rfl, latest_last ((waits _ _ _).mpr ⟨rfl, rfl, rfl⟩), ?_, due, ?_⟩
      · rw [← count]
        exact deadlineOf_last step
      · rw [token, if_pos rfl]
    · rename_i apart
      obtain ⟨other, m, rfl, latest, written, due', known⟩ := dated.records n value deadline found
      have different := others n other deadline apart found
      refine ⟨other, m, rfl, latest.snoc ?_, written.snoc, due', ?_⟩
      · exact fun x d here => different ((waits _ x d).mp here).1
      · rw [token, if_neg different, known]

theorem Dated.dismiss {c' : TimedCluster} (dated : Dated config calls c past) {step : TimedCall}
    {name : String} {client : WaitingClient} {deadline : Instant}
    (stored : c.redis.lookup (pairingKey name) = some (.json client, deadline))
    (after : c'.redis = (c.redis.erase (pairingKey name)).erase (tokenKey client.reconnectToken))
    (idle : ∀ t x d, ¬ o.WaitsAs t x d) : Dated config (calls ++ [step]) c' (past ++ [o]) where
  tokens := by
    intro t value deadline found
    rw [after] at found
    have found := (FiniteMap.of_lookup_erase (FiniteMap.of_lookup_erase found).2).2
    obtain ⟨n, i, rfl, opens, written⟩ := dated.tokens t value deadline found
    exact ⟨n, i, rfl, opens.snoc, written.snoc⟩
  records := by
    intro n value deadline' found
    rw [after] at found
    obtain ⟨apart, found⟩ := FiniteMap.of_lookup_erase (FiniteMap.of_lookup_erase found).2
    obtain ⟨other, m, rfl, latest, written, due, known⟩ := dated.records n value deadline' found
    refine ⟨other, m, rfl, latest.snoc (idle _), written.snoc, due, ?_⟩
    -- The deleted token leads to the name of the deleted record.
    obtain ⟨client', -, alike, -, -, due', known'⟩ := dated.records name _ _ stored
    cases alike
    have different : other.reconnectToken ≠ client.reconnectToken := by
      intro same
      rw [same] at known
      cases known.symm.trans known'
      exact apart rfl
    rw [after, FiniteMap.lookup_erase_if, if_neg (by simpa using different),
      FiniteMap.lookup_erase_if, if_neg (tokenKey_ne_pairingKey _ _), known]

theorem Dated.perform (positive : ∀ k, 0 < ttlSecs (config k)) (dated : Dated config calls c past)
    (count : calls.length = past.length) (step : TimedCall)
    (drawn : ∀ t, (performAt config past.length c step).1.issued = some t → t ∉ issued past) :
    Dated config (calls ++ [step]) (performAt config past.length c step).2
      (past ++ [(performAt config past.length c step).1]) := by
  obtain ⟨server, call⟩ := step
  simp only [performAt] at drawn ⊢
  rcases registerAt_cases (positive server) (call.draws past.length) call.request call.now server c with
    ⟨token, after, check, out, redis⟩ | ⟨after, vacant, out, redis⟩ |
      ⟨client, sent, after, live, out, redis⟩ | ⟨text, garbled⟩
  · obtain ⟨due, known, -⟩ := TimedCluster.live_eq_some.mp check.2
    obtain ⟨name, i, same, opens, written⟩ := dated.tokens token _ due known
    cases same
    rw [out]
    refine dated.enroll call.request.pairingName
      (waitingClient (config server) (call.draws past.length) token call.request.clientInfo) due count
      (fun t x d => waitsAs_resumed) ?_ ?_ ⟨i, opens.snoc, written.snoc⟩ ?_
    · intro n
      simp only [redis, FiniteMap.lookup_insert_if, pairingKey_inj]
    · intro t
      simp only [redis, FiniteMap.lookup_insert_if, tokenKey_ne_pairingKey, if_false]
      split
      · rename_i same
        rw [same]
        exact known
      · rfl
    · intro n other deadline apart found same
      obtain ⟨client, -, alike, -, -, due', known'⟩ := dated.records n _ deadline found
      cases alike
      rw [same] at known'
      cases known.symm.trans known'
      exact apart rfl
  · rw [out] at drawn ⊢
    refine dated.enroll call.request.pairingName
      (waitingClient (config server) (call.draws past.length) call.newV4 call.request.clientInfo)
      (call.now + ttl (config server)) count (fun t x d => waitsAs_opened) ?_ ?_
      ⟨past.length, ?_, count ▸ deadlineOf_last _⟩ ?_
    · intro n
      simp only [redis, FiniteMap.lookup_insert_if, FiniteMap.lookup_erase_if, pairingKey_ne_tokenKey,
        pairingKey_inj, if_false, Registration.draws_newV4]
      by_cases here : n = call.request.pairingName
      · simp only [here, if_true]
      · simp only [here, if_false]
    · intro t
      simp only [redis, FiniteMap.lookup_insert_if, FiniteMap.lookup_erase_if, tokenKey_ne_pairingKey,
        tokenKey_inj, if_false]
      rfl
    · exact ⟨call.request.clientInfo, past.length, [], List.getElem?_concat_length⟩
    · intro n other deadline apart found same
      obtain ⟨client, -, alike, -, -, due', known'⟩ := dated.records n _ deadline found
      cases alike
      obtain ⟨name, i, -, opens, -⟩ := dated.tokens _ _ due' known'
      rw [same] at opens
      exact drawn call.newV4 rfl (mem_issued_of_opens opens)
  · obtain ⟨deadline, stored, -⟩ := TimedCluster.live_eq_some.mp live
    rw [out]
    exact dated.dismiss stored redis (by rintro t x d ⟨n, wrong | wrong⟩ <;> cases wrong)
  · obtain ⟨deadline, stored, -⟩ := TimedCluster.live_eq_some.mp garbled
    obtain ⟨client, -, wrong, -⟩ := dated.records _ _ deadline stored
    cases wrong

/-- `Uuid::new_v4` returned a token never returned before, throughout the run. -/
def FreshTokensAt (config : Nat → RegistryConfig) (calls : List TimedCall) : Prop :=
  (issued (timedJournal config calls).past).Nodup

instance (config : Nat → RegistryConfig) (calls : List TimedCall) :
    Decidable (FreshTokensAt config calls) := inferInstanceAs (Decidable (List.Nodup _))

theorem timedJournal_dated (positive : ∀ k, 0 < ttlSecs (config k))
    (fresh : FreshTokensAt config calls) :
    Dated config calls (timedJournal config calls).state (timedJournal config calls).past := by
  induction calls using List.reverseRecOn with
  | nil => exact dated_new
  | append_singleton calls step ih =>
      rw [FreshTokensAt, timedJournal, Journal.keep_snoc, Journal.record, nodup_issued_snoc] at fresh
      rw [timedJournal, Journal.keep_snoc]
      exact (ih fresh.1).perform positive (Journal.keep_past_length _ _ _).symm step fresh.2

/-- The client whose record lives under a name comes back with its token at time `now`. It
    is let in again exactly until the deadline that the call which opened its session gave
    to the key of the token, however often its record has been renewed; from then on it
    is paired with itself. -/
theorem resumed_until_first_deadline (config : Nat → RegistryConfig)
    (positive : ∀ k, 0 < ttlSecs (config k)) (calls : List TimedCall)
    (fresh : FreshTokensAt config calls) {now : Instant} {name : String} {client : WaitingClient}
    (lives : (timedJournal config calls).state.live now (pairingKey name) = some (.json client)) :
    ∃ i due m deadline,
      Opens (timedJournal config calls).past i name client.reconnectToken ∧
      DeadlineOf config calls i due ∧
      (timedJournal config calls).state.redis.lookup (tokenKey client.reconnectToken) =
        some (.text name, due) ∧
      Latest (timedJournal config calls).past calls.length client.reconnectToken m
        client.connectionInfo m ∧
      DeadlineOf config calls m deadline ∧
      (timedJournal config calls).state.redis.lookup (pairingKey name) =
        some (.json client, deadline) ∧
      ∀ server draws info,
        let out := atomicallyAt now server (register (config server) draws
          ⟨name, info, some client.reconnectToken⟩) (timedJournal config calls).state
        if now < due then out.1 = .ok ⟨.resumed client.reconnectToken draws.channel, []⟩
        else ∃ sent, out.1 = .ok ⟨.paired draws.newV4 client.connectionInfo, sent⟩ := by
  have dated := timedJournal_dated positive fresh
  have count : (timedJournal config calls).past.length = calls.length :=
    Journal.keep_past_length _ _ _
  obtain ⟨deadline, stored, -⟩ := TimedCluster.live_eq_some.mp lives
  obtain ⟨client', m, same, latest, written, due, known⟩ := dated.records name _ deadline stored
  cases same
  obtain ⟨name', i, same, opens, opened⟩ := dated.tokens _ _ due known
  cases same
  refine ⟨i, due, m, deadline, opens, opened, known, count ▸ latest, written, stored, ?_⟩
  intro server draws info out
  by_cases early : now < due
  · have check : ReconnectsAt (timedJournal config calls).state now
        ⟨name, info, some client.reconnectToken⟩ client.reconnectToken :=
      ⟨rfl, TimedCluster.live_eq_some.mpr ⟨due, known, early⟩⟩
    obtain ⟨after, resumed, -⟩ := registerAt_resumes (positive server) check
    rw [if_pos early]
    exact congrArg Prod.fst resumed
  · have check : ∀ token, ¬ ReconnectsAt (timedJournal config calls).state now
        ⟨name, info, some client.reconnectToken⟩ token := by
      intro token check
      obtain rfl := Option.some.inj check.1
      obtain ⟨due', known', early'⟩ := TimedCluster.live_eq_some.mp check.2
      cases known.symm.trans known'
      exact early early'
    obtain ⟨sent, after, paired, -⟩ := pairOrWaitAt_pairs (config server) draws server info lives
    rw [if_neg early]
    exact ⟨sent, congrArg Prod.fst ((registerAt_otherwise check).trans paired)⟩

end Runs

/-- With a timeout of two seconds, a client waits, comes back after one second, and comes
    back again after another: the key of its token has just gone, its record has not. -/
theorem client_paired_with_itself :
    let config : Nat → RegistryConfig := fun _ => ⟨2 * 10 ^ 9, "s"⟩
    let info : Nat → PeerConnectionData := fun i => ⟨⟨10, 0, 0, .ofNat i⟩, 4000⟩
    let calls : List TimedCall :=
      [ ⟨0, ⟨⟨"a", info 1, none⟩, ⟨1⟩, 0, 0⟩⟩,
        ⟨0, ⟨⟨"a", info 2, some ⟨1⟩⟩, ⟨2⟩, 1 * 10 ^ 9, 1000⟩⟩ ]
    let c := (timedJournal config calls).state
    let out := atomicallyAt (2 * 10 ^ 9) 0
      (register (config 0) ⟨⟨3⟩, 2, 2 * 10 ^ 9, 2000⟩ ⟨"a", info 3, some ⟨1⟩⟩) c
    FreshTokensAt config calls ∧ (calls.map fun step => step.call.now).Pairwise (· ≤ ·) ∧
      c.live (2 * 10 ^ 9) (pairingKey "a") = some (.json ⟨info 2, ⟨1⟩, "s", 1000⟩) ∧
      out.1 = .ok ⟨.paired ⟨3⟩ (info 2), [⟨1, info 3⟩]⟩ := by
  decide +kernel

/-- The same client a little earlier. -/
theorem resumed_before_first_deadline :
    let config : Nat → RegistryConfig := fun _ => ⟨2 * 10 ^ 9, "s"⟩
    let info : Nat → PeerConnectionData := fun i => ⟨⟨10, 0, 0, .ofNat i⟩, 4000⟩
    let calls : List TimedCall :=
      [ ⟨0, ⟨⟨"a", info 1, none⟩, ⟨1⟩, 0, 0⟩⟩,
        ⟨0, ⟨⟨"a", info 2, some ⟨1⟩⟩, ⟨2⟩, 1 * 10 ^ 9, 1000⟩⟩ ]
    let c := (timedJournal config calls).state
    (∀ k, 0 < ttlSecs (config k)) ∧ FreshTokensAt config calls ∧
      c.live (15 * 10 ^ 8) (pairingKey "a") = some (.json ⟨info 2, ⟨1⟩, "s", 1000⟩) ∧
      (atomicallyAt (15 * 10 ^ 8) 0 (register (config 0) ⟨⟨3⟩, 2, 15 * 10 ^ 8, 1500⟩
        ⟨"a", info 3, some ⟨1⟩⟩) c).1 = .ok ⟨.resumed ⟨1⟩ 2, []⟩ := by
  intro config info calls c
  have positive : ∀ k, 0 < ttlSecs (config k) := fun _ => by decide +kernel
  have fresh : FreshTokensAt config calls := by decide +kernel
  have lives : c.live (15 * 10 ^ 8) (pairingKey "a") = some (.json ⟨info 2, ⟨1⟩, "s", 1000⟩) := by
    decide +kernel
  obtain ⟨i, due, m, deadline, -, -, known, -, -, -, back⟩ :=
    resumed_until_first_deadline config positive calls fresh lives
  have written : c.redis.lookup (tokenKey ⟨1⟩) = some (.text "a", 2 * 10 ^ 9) := by decide +kernel
  cases written.symm.trans known
  exact ⟨positive, fresh, lives, back 0 ⟨⟨3⟩, 2, 15 * 10 ^ 8, 1500⟩ (info 3)⟩

/-! ## A server whose keys would not live

`as_secs() as i64` is not positive for a timeout of less than a second. Redis then refuses
every `SETEX` of this server.
-/

/-- What Redis answers. -/
def invalidExpire : RegistryError := .redis "ERR invalid expire time in setex"

theorem atomicallyAt_setex_refused {α : Type} {seconds : Int} (short : seconds ≤ 0) (key : String)
    (value : RedisValue) (next : Unit → Method α) :
    atomicallyAt now server (setex key seconds value >>= next) c = (.error invalidExpire, c) := by
  have refused : atomicallyAt now server (setex key seconds value) c = (.error invalidExpire, c) := by
    simp only [atomicallyAt, setex, ExceptT.run_mk, Program.run_call, answerAt, setexAt,
      if_neg (Int.not_lt.mpr short)]
    rfl
  rw [atomicallyAt_bind, refused]

/-- What becomes of a registration on such a server: it fails, or completes the pairing of a
    client whose record lives. -/
theorem registerAt_refused (short : ttlSecs config ≤ 0) (draws : Draws) (request : Request)
    (now : Instant) (server : Nat) (c : TimedCluster) :
    (∃ e after, atomicallyAt now server (register config draws request) c = (.error e, after) ∧
      after.localWaiters = c.localWaiters) ∨
    ∃ client after, c.live now (pairingKey request.pairingName) = some (.json client) ∧
      atomicallyAt now server (register config draws request) c =
        (.ok { result := .paired draws.newV4 client.connectionInfo,
               sent := ((c.localWaiters server).lookup request.pairingName).toList.map fun tx =>
                { channel := tx, peer := request.clientInfo } }, after) ∧
      after.localWaiters = Function.update c.localWaiters server
        ((c.localWaiters server).erase request.pairingName) := by
  by_cases check : ∃ token, ReconnectsAt c now request token
  · obtain ⟨token, shown, known⟩ := check
    left
    rw [register, shown]
    dsimp only
    rw [atomicallyAt_then _ _ (atomicallyAt_get now server c _), known, if_pos rfl,
      atomicallyAt_setex_refused short]
    exact ⟨_, _, rfl, rfl⟩
  · rw [registerAt_otherwise (not_exists.mp check), pairOrWait,
      atomicallyAt_then _ _ (atomicallyAt_getdel now server c _)]
    cases found : c.live now (pairingKey request.pairingName) with
    | none =>
        left
        dsimp only
        rw [atomicallyAt_setex_refused short]
        exact ⟨_, _, rfl, rfl⟩
    | some value =>
        cases value with
        | text text => exact .inl ⟨_, _, rfl, rfl⟩
        | json client =>
            right
            simp only [atomicallyAt_bind, fromStr, atomicallyAt_pure, atomicallyAt_del,
              atomicallyAt_notifyPeer]
            exact ⟨client, _, rfl, rfl, rfl⟩

theorem localWaiters_other {α : Type} {other : Nat} (apart : other ≠ server)
    (program : Program RedisCall.Reply α) (c : TimedCluster) :
    (program.run (answerAt now server) c).2.localWaiters other = c.localWaiters other := by
  induction program generalizing c with
  | done a => rfl
  | call call next ih =>
      rw [Program.run_call, ih]
      cases call with
      | get | getdel | del | keyExists | publish | waitersKeys => rfl
      | setex key seconds value =>
          simp only [answerAt, setexAt]
          split <;> rfl
      | waitersInsert name tx => exact Function.update_of_ne apart _ _
      | waitersRemove name => exact Function.update_of_ne apart _ _

theorem timedJournal_snoc (config : Nat → RegistryConfig) (calls : List TimedCall) (step : TimedCall) :
    (timedJournal config (calls ++ [step])).state =
      (performAt config (timedJournal config calls).past.length (timedJournal config calls).state step).2 := by
  rw [timedJournal, Journal.keep_snoc]
  rfl

theorem no_waiters_without_ttl {config : Nat → RegistryConfig} {server : Nat}
    (short : ttlSecs (config server) ≤ 0) (calls : List TimedCall) :
    (timedJournal config calls).state.localWaiters server = ∅ := by
  induction calls using List.reverseRecOn with
  | nil => rfl
  | append_singleton calls step ih =>
      rw [timedJournal_snoc]
      by_cases here : server = step.server
      · subst here
        simp only [performAt]
        rcases registerAt_refused short (step.call.draws (timedJournal config calls).past.length)
          step.call.request step.call.now step.server (timedJournal config calls).state with
          ⟨e, after, out, same⟩ | ⟨client, after, -, out, same⟩
        · rw [out, same, ih]
        · rw [out, same, Function.update_self, ih]
          exact FiniteMap.erase_of_absent rfl
      · exact (localWaiters_other here _ _).trans ih

/-- A server whose timeout is less than a second, among any others: nobody ever waits on it.
    Whatever has been registered, its clients get an error, or are paired with a client whose
    record lives, and it has no channel on which that client could be told. -/
theorem only_pairs_without_ttl (config : Nat → RegistryConfig) {server : Nat}
    (short : ttlSecs (config server) ≤ 0) (calls : List TimedCall) :
    (timedJournal config calls).state.localWaiters server = ∅ ∧
      ∀ draws request now,
        let out := (atomicallyAt now server (register (config server) draws request)
          (timedJournal config calls).state).1
        (∃ e, out = .error e) ∨
          ∃ client, (timedJournal config calls).state.live now (pairingKey request.pairingName) =
              some (.json client) ∧
            out = .ok { result := .paired draws.newV4 client.connectionInfo, sent := [] } := by
  have none := no_waiters_without_ttl short calls
  refine ⟨none, ?_⟩
  intro draws request now
  rcases registerAt_refused short draws request now server (timedJournal config calls).state with
    ⟨e, after, out, -⟩ | ⟨client, after, lives, out, -⟩
  · exact .inl ⟨e, congrArg Prod.fst out⟩
  · rw [none] at out
    exact .inr ⟨client, lives, congrArg Prod.fst out⟩

/-- A client waits on a server with a timeout of two seconds. On one with half a second, the
    next client is paired with it, and the first client of another name gets an error. -/
theorem half_a_second_is_refused :
    let config : Nat → RegistryConfig := fun k => ⟨if k = 0 then 2 * 10 ^ 9 else 5 * 10 ^ 8, "s"⟩
    let info : Nat → PeerConnectionData := fun i => ⟨⟨10, 0, 0, .ofNat i⟩, 4000⟩
    let calls : List TimedCall := [⟨0, ⟨⟨"a", info 1, none⟩, ⟨1⟩, 0, 0⟩⟩]
    let out := fun name => (atomicallyAt 1 1
      (register (config 1) ⟨⟨2⟩, 1, 1, 1⟩ ⟨name, info 2, none⟩) (timedJournal config calls).state).1
    ttlSecs (config 1) ≤ 0 ∧ (timedJournal config calls).state.localWaiters 1 = ∅ ∧
      out "a" = .ok ⟨.paired ⟨2⟩ (info 1), []⟩ ∧ ∃ e, out "b" = .error e := by
  intro config info calls out
  have short : ttlSecs (config 1) ≤ 0 := by decide +kernel
  have paired : out "a" = .ok ⟨.paired ⟨2⟩ (info 1), []⟩ := by decide +kernel
  have vacant : (timedJournal config calls).state.live 1 (pairingKey "b") = none := by decide +kernel
  obtain ⟨empty, outcomes⟩ := only_pairs_without_ttl config short calls
  have refused : ∃ e, out "b" = .error e := by
    rcases outcomes ⟨⟨2⟩, 1, 1, 1⟩ ⟨"b", info 2, none⟩ 1 with refused | ⟨client, lives, -⟩
    · exact refused
    · cases vacant.symm.trans lives
  exact ⟨short, empty, paired, refused⟩

end RedisRegistry

end TCPunch
