import TCPunch.Redis.Registry

/-! # Atomic behaviour of the Redis registry

One lemma for each way in which a whole call can end when Redis answers every command.
The keys of different names and tokens never clash, so a call touches one pairing key,
one token key and one slot of its server's waiters.
-/

namespace TCPunch

namespace RedisRegistry

@[simp]
theorem pairingKey_inj {n n' : String} : pairingKey n = pairingKey n' ↔ n = n' :=
  String.append_right_inj _

@[simp]
theorem tokenKey_inj {t t' : Uuid} : tokenKey t = tokenKey t' ↔ t = t' :=
  (String.append_right_inj _).trans Uuid.hyphenated_injective.eq_iff

@[simp]
theorem pairingKey_ne_tokenKey (n : String) (t : Uuid) : pairingKey n ≠ tokenKey t := by
  intro same
  have ninth : ("tcpunch:pairing:" ++ n).toList[8]? = ("tcpunch:token:" ++ t.hyphenated).toList[8]? :=
    congrArg (fun key : String => key.toList[8]?) same
  rw [String.toList_append, String.toList_append, List.getElem?_append_left (by decide),
    List.getElem?_append_left (by decide)] at ninth
  revert ninth
  decide

@[simp]
theorem tokenKey_ne_pairingKey (t : Uuid) (n : String) : tokenKey t ≠ pairingKey n :=
  (pairingKey_ne_tokenKey n t).symm

end RedisRegistry

namespace Cluster

open RedisRegistry

/-- The value under the pairing key of a name. -/
def record (c : Cluster) (name : String) : Option RedisValue := c.redis.lookup (pairingKey name)

/-- The value under the key of a token. -/
def token (c : Cluster) (t : Uuid) : Option RedisValue := c.redis.lookup (tokenKey t)

/-- The sender that a server has for a name. -/
def waiter (c : Cluster) (server : Nat) (name : String) : Option Chan :=
  (c.localWaiters server).lookup name

/-- The client waits on this server from now on: its record and its sender are in place. -/
def enroll (c : Cluster) (server : Nat) (name : String) (client : WaitingClient) (channel : Chan) :
    Cluster :=
  { c with
    redis := c.redis.insert (pairingKey name) (.json client)
    localWaiters := Function.update c.localWaiters server
      ((c.localWaiters server).insert name channel) }

/-- The token leads to the name from now on. -/
def issue (c : Cluster) (t : Uuid) (name : String) : Cluster :=
  { c with redis := c.redis.insert (tokenKey t) (.text name) }

/-- The sender on this server is gone. -/
def dropWaiter (c : Cluster) (server : Nat) (name : String) : Cluster :=
  { c with localWaiters :=
            Function.update c.localWaiters server ((c.localWaiters server).erase name) }

/-- The record, the key of the token and the sender on this server are gone. -/
def dismiss (c : Cluster) (server : Nat) (name : String) (t : Uuid) : Cluster :=
  { c.dropWaiter server name with
    redis := (c.redis.erase (pairingKey name)).erase (tokenKey t) }

variable {c : Cluster} {server k : Nat} {name n : String} {client : WaitingClient} {channel : Chan}
  {t u : Uuid}

@[simp]
theorem record_enroll :
    (c.enroll server name client channel).record n =
      if n = name then some (.json client) else c.record n := by
  simp only [record, enroll, FiniteMap.lookup_insert_if, pairingKey_inj]

@[simp]
theorem token_enroll : (c.enroll server name client channel).token t = c.token t := by
  simp only [token, enroll, FiniteMap.lookup_insert_if, tokenKey_ne_pairingKey, if_false]

@[simp]
theorem waiter_enroll :
    (c.enroll server name client channel).waiter k n =
      if k = server ∧ n = name then some channel else c.waiter k n := by
  by_cases same : k = server
  · subst same
    simp only [waiter, enroll, Function.update_self, FiniteMap.lookup_insert_if, true_and]
  · simp only [waiter, enroll, Function.update_of_ne same, same, false_and, if_false]

@[simp]
theorem record_issue : (c.issue t name).record n = c.record n := by
  simp only [record, issue, FiniteMap.lookup_insert_if, pairingKey_ne_tokenKey, if_false]

@[simp]
theorem token_issue : (c.issue t name).token u = if u = t then some (.text name) else c.token u := by
  simp only [token, issue, FiniteMap.lookup_insert_if, tokenKey_inj]

@[simp]
theorem waiter_issue : (c.issue t name).waiter k n = c.waiter k n := rfl

/-- The two keys of a client that starts to wait may be written in either order. -/
theorem issue_enroll :
    (c.enroll server name client channel).issue t n =
      (c.issue t n).enroll server name client channel := by
  simp only [enroll, issue, Finmap.insert_insert_of_ne _ (pairingKey_ne_tokenKey name t)]

@[simp]
theorem record_dismiss :
    (c.dismiss server name t).record n = if n = name then none else c.record n := by
  simp only [record, dismiss, FiniteMap.lookup_erase_if, pairingKey_ne_tokenKey, if_false,
    pairingKey_inj]

@[simp]
theorem token_dismiss : (c.dismiss server name t).token u = if u = t then none else c.token u := by
  simp only [token, dismiss, FiniteMap.lookup_erase_if, tokenKey_inj, tokenKey_ne_pairingKey,
    if_false]

theorem waiter_dropWaiter :
    (c.dropWaiter server name).waiter k n =
      if k = server ∧ n = name then none else c.waiter k n := by
  by_cases same : k = server
  · subst same
    simp only [waiter, dropWaiter, Function.update_self, FiniteMap.lookup_erase_if, true_and]
  · simp only [waiter, dropWaiter, Function.update_of_ne same, same, false_and, if_false]

@[simp]
theorem waiter_dismiss :
    (c.dismiss server name t).waiter k n =
      if k = server ∧ n = name then none else c.waiter k n :=
  waiter_dropWaiter

/-! What is left after a dismissal was there before. -/

theorem of_record_dismiss {value} (found : (c.dismiss server name t).record n = some value) :
    c.record n = some value ∧ ∀ k, (c.dismiss server name t).waiter k n = c.waiter k n := by
  rw [record_dismiss] at found
  split at found
  · cases found
  · rename_i apart
    exact ⟨found, fun k => waiter_dismiss.trans (if_neg fun both => apart both.2)⟩

theorem of_waiter_dismiss (found : (c.dismiss server name t).waiter k n = some channel) :
    c.waiter k n = some channel := by
  rw [waiter_dismiss] at found
  split at found
  · cases found
  · exact found

theorem of_token_dismiss {value} (found : (c.dismiss server name t).token u = some value) :
    c.token u = some value := by
  rw [token_dismiss] at found
  split at found
  · cases found
  · exact found

end Cluster

namespace RedisRegistry

variable {config : RegistryConfig} {draws : Draws} {request : Request} {server : Nat} {c : Cluster}
  {t : Uuid}

/-- A whole call, with nothing else touching Redis or the waiters. -/
def atomically {α : Type} (server : Nat) (method : Method α) (c : Cluster) :
    Except RegistryError α × Cluster :=
  method.run.run (answer server) c

section Steps

variable {α β : Type}

theorem atomically_bind (server : Nat) (method : Method α) (next : α → Method β) (c : Cluster) :
    atomically server (method >>= next) c =
      match atomically server method c with
      | (.ok a, c') => atomically server (next a) c'
      | (.error e, c') => (.error e, c') := by
  simp only [atomically, ExceptT.run_bind, Program.run_bind]
  cases method.run.run (answer server) c with
  | mk result after => cases result <;> rfl

@[simp]
theorem atomically_pure (server : Nat) (a : α) (c : Cluster) :
    atomically server (pure a : Method α) c = (.ok a, c) := rfl

@[simp]
theorem atomically_get (server : Nat) (key : String) (c : Cluster) :
    atomically server (get key) c = (.ok (c.redis.lookup key), c) := rfl

@[simp]
theorem atomically_setex (server : Nat) (key : String) (seconds : Int) (value : RedisValue)
    (c : Cluster) :
    atomically server (setex key seconds value) c =
      (.ok (), { c with redis := c.redis.insert key value }) := rfl

@[simp]
theorem atomically_getdel (server : Nat) (key : String) (c : Cluster) :
    atomically server (getdel key) c =
      (.ok (c.redis.lookup key), { c with redis := c.redis.erase key }) := rfl

@[simp]
theorem atomically_del (server : Nat) (keys : List String) (c : Cluster) :
    atomically server (del keys) c =
      (.ok (), { c with redis := keys.foldl (fun redis key => redis.erase key) c.redis }) := rfl

@[simp]
theorem atomically_publish (server : Nat) (channel : String) (message : PeerConnectionData)
    (c : Cluster) :
    atomically server (publish channel message) c =
      (.ok (), { c with published := c.published ++ [(channel, message)] }) := rfl

@[simp]
theorem atomically_waitersInsert (server : Nat) (name : String) (tx : Chan) (c : Cluster) :
    atomically server (waitersInsert name tx) c =
      (.ok (), { c with localWaiters := Function.update c.localWaiters server
                          ((c.localWaiters server).insert name tx) }) := rfl

@[simp]
theorem atomically_waitersRemove (server : Nat) (name : String) (c : Cluster) :
    atomically server (waitersRemove name) c =
      (.ok (c.waiter server name),
        { c with localWaiters := Function.update c.localWaiters server
                  ((c.localWaiters server).erase name) }) := rfl

end Steps

/-- The reconnection check of `register` succeeds with this token. -/
def Reconnects (c : Cluster) (request : Request) (token : Uuid) : Prop :=
  request.reconnectToken = some token ∧ c.token token = some (.text request.pairingName)

/-- What is published for a peer that this server has no sender for. -/
def posted (config : RegistryConfig) (name : String) (info : PeerConnectionData)
    (client : WaitingClient) : Option Chan → List (String × PeerConnectionData)
  | some _ => []
  | none => if client.serverId ≠ config.serverId then [(notifyChannel name, info)] else []

theorem pairOrWait_waits {name info} (vacant : c.record name = none) :
    atomically server (pairOrWait config draws name info) c =
      (.ok { result := .waiting draws.newV4 draws.channel, sent := [] },
        (c.enroll server name (waitingClient config draws draws.newV4 info) draws.channel).issue
          draws.newV4 name) := by
  have same : c.redis.erase (pairingKey name) = c.redis := FiniteMap.erase_of_absent vacant
  have absent : c.redis.lookup (pairingKey name) = none := vacant
  simp only [pairOrWait, atomically_bind, atomically_getdel, absent, same, atomically_setex,
    atomically_waitersInsert, atomically_pure]
  rfl

theorem pairOrWait_pairs {name info client} (live : c.record name = some (.json client)) :
    atomically server (pairOrWait config draws name info) c =
      (.ok { result := .paired draws.newV4 client.connectionInfo
             sent := (c.waiter server name).toList.map fun tx => { channel := tx, peer := info } },
        { c.dismiss server name client.reconnectToken with
          published := c.published ++ posted config name info client (c.waiter server name) }) := by
  have found : c.redis.lookup (pairingKey name) = some (.json client) := live
  simp only [pairOrWait, atomically_bind, atomically_getdel, found, fromStr, atomically_pure,
    atomically_del, notifyPeer, atomically_waitersRemove, Cluster.waiter]
  cases (c.localWaiters server).lookup name with
  | some tx => simp [posted, Cluster.dismiss, Cluster.dropWaiter]
  | none =>
      by_cases other : client.serverId = config.serverId
      · simp [posted, Cluster.dismiss, Cluster.dropWaiter, other]
      · simp [atomically_bind, posted, Cluster.dismiss, Cluster.dropWaiter, other]

/-- A text that is no record is deleted all the same. -/
theorem pairOrWait_fails {name info text} (garbled : c.record name = some (.text text)) :
    atomically server (pairOrWait config draws name info) c =
      (.error (.internal text), { c with redis := c.redis.erase (pairingKey name) }) := by
  have found : c.redis.lookup (pairingKey name) = some (.text text) := garbled
  simp only [pairOrWait, atomically_bind, atomically_getdel, found, fromStr]
  rfl

theorem register_otherwise (check : ∀ token, ¬ Reconnects c request token) :
    atomically server (register config draws request) c =
      atomically server (pairOrWait config draws request.pairingName request.clientInfo) c := by
  cases shown : request.reconnectToken with
  | none => simp only [register, shown]
  | some token =>
      have fails : c.redis.lookup (tokenKey token) ≠ some (.text request.pairingName) :=
        fun known => check token ⟨shown, known⟩
      simp only [register, shown, atomically_bind, atomically_get, fails, if_false]

theorem register_resumes {token} (check : Reconnects c request token) :
    atomically server (register config draws request) c =
      (.ok { result := .resumed token draws.channel, sent := [] },
        c.enroll server request.pairingName (waitingClient config draws token request.clientInfo)
          draws.channel) := by
  have known : c.redis.lookup (tokenKey token) = some (.text request.pairingName) := check.2
  simp only [register, check.1, atomically_bind, atomically_get, known, if_true, atomically_setex,
    atomically_waitersInsert, atomically_pure]
  rfl

theorem register_cases (config : RegistryConfig) (draws : Draws) (server : Nat) (c : Cluster)
    (request : Request) :
    (∃ token, Reconnects c request token ∧
      atomically server (register config draws request) c =
        (.ok { result := .resumed token draws.channel, sent := [] },
          c.enroll server request.pairingName (waitingClient config draws token request.clientInfo)
            draws.channel)) ∨
    (c.record request.pairingName = none ∧
      atomically server (register config draws request) c =
        (.ok { result := .waiting draws.newV4 draws.channel, sent := [] },
          (c.enroll server request.pairingName
            (waitingClient config draws draws.newV4 request.clientInfo) draws.channel).issue
              draws.newV4 request.pairingName)) ∨
    (∃ client, c.record request.pairingName = some (.json client) ∧
      atomically server (register config draws request) c =
        (.ok { result := .paired draws.newV4 client.connectionInfo
               sent := (c.waiter server request.pairingName).toList.map fun tx =>
                 { channel := tx, peer := request.clientInfo } },
          { c.dismiss server request.pairingName client.reconnectToken with
            published := c.published ++ posted config request.pairingName request.clientInfo client
              (c.waiter server request.pairingName) })) ∨
    ∃ text, c.record request.pairingName = some (.text text) ∧
      atomically server (register config draws request) c =
        (.error (.internal text),
          { c with redis := c.redis.erase (pairingKey request.pairingName) }) := by
  by_cases check : ∃ token, Reconnects c request token
  · obtain ⟨token, check⟩ := check
    exact .inl ⟨token, check, register_resumes check⟩
  · have check : ∀ token, ¬ Reconnects c request token := not_exists.mp check
    refine .inr ?_
    rw [register_otherwise check]
    cases live : c.record request.pairingName with
    | none => exact .inl ⟨rfl, pairOrWait_waits live⟩
    | some value =>
        cases value with
        | json client => exact .inr (.inl ⟨client, rfl, pairOrWait_pairs live⟩)
        | text text => exact .inr (.inr ⟨text, rfl, pairOrWait_fails live⟩)

theorem register_other (config : RegistryConfig) (draws : Draws) (server : Nat) (c : Cluster)
    {request : Request} {name : String} (apart : name ≠ request.pairingName) :
    (atomically server (register config draws request) c).2.record name = c.record name ∧
      ∀ k, (atomically server (register config draws request) c).2.waiter k name =
        c.waiter k name := by
  have elsewhere (k : Nat) : ¬ (k = server ∧ name = request.pairingName) := fun both => apart both.2
  rcases register_cases config draws server c request with
    ⟨token, -, out⟩ | ⟨-, out⟩ | ⟨client, -, out⟩ | ⟨text, -, out⟩
  · rw [out]
    exact ⟨Cluster.record_enroll.trans (if_neg apart),
      fun k => Cluster.waiter_enroll.trans (if_neg (elsewhere k))⟩
  · rw [out]
    refine ⟨?_, fun k => ?_⟩
    · rw [Cluster.record_issue, Cluster.record_enroll, if_neg apart]
    · rw [Cluster.waiter_issue, Cluster.waiter_enroll, if_neg (elsewhere k)]
  · rw [out]
    have record : (c.dismiss server request.pairingName client.reconnectToken).record name =
        c.record name := by rw [Cluster.record_dismiss, if_neg apart]
    have waiter (k : Nat) :
        (c.dismiss server request.pairingName client.reconnectToken).waiter k name =
          c.waiter k name := by rw [Cluster.waiter_dismiss, if_neg (elsewhere k)]
    exact ⟨record, waiter⟩
  · rw [out]
    refine ⟨?_, fun k => rfl⟩
    simp only [Cluster.record, FiniteMap.lookup_erase_if, pairingKey_inj, apart, if_false]

theorem token_register (config : RegistryConfig) (server : Nat) (request : Request)
    (fresh : draws.newV4 ≠ t) (absent : c.token t = none) :
    (atomically server (register config draws request) c).2.token t = none := by
  rcases register_cases config draws server c request with
    ⟨token, -, out⟩ | ⟨-, out⟩ | ⟨client, -, out⟩ | ⟨text, -, out⟩
  · rw [out]
    exact Cluster.token_enroll.trans absent
  · rw [out]
    simp only [Cluster.token_issue, Cluster.token_enroll, if_neg fresh.symm, absent]
  · rw [out]
    have fewer : (c.dismiss server request.pairingName client.reconnectToken).token t = none := by
      rw [Cluster.token_dismiss, absent, ite_self]
    exact fewer
  · rw [out]
    exact (FiniteMap.lookup_erase_if ..).trans ((if_neg (tokenKey_ne_pairingKey _ _)).trans absent)

theorem atomically_unregister (name : String) (token : Uuid) :
    atomically server (unregister name token) c = (.ok (), c.dismiss server name token) := by
  simp only [unregister, atomically_bind, atomically_del, atomically_waitersRemove,
    atomically_pure]
  rfl

theorem sweep_run (server cleaned : Nat) (names : List String) (c : Cluster) :
    ((sweep cleaned names).run (answer server) c).2.redis = c.redis ∧
      ∀ k n, ((sweep cleaned names).run (answer server) c).2.waiter k n =
        if k = server ∧ n ∈ names ∧ c.record n = none then none else c.waiter k n := by
  induction names generalizing cleaned c with
  | nil => simp [sweep]
  | cons name rest ih =>
      cases found : c.redis.lookup (pairingKey name) with
      | some value =>
          have next : (sweep cleaned (name :: rest)).run (answer server) c =
              (sweep cleaned rest).run (answer server) c := by
            simp [sweep, answer, found, Except.toOption]
          obtain ⟨redis, waiters⟩ := ih cleaned c
          refine ⟨by rw [next, redis], fun k n => ?_⟩
          have live : n = name → c.record n ≠ none := by
            intro same absent
            subst same
            cases found.symm.trans absent
          rw [next, waiters]
          grind
      | none =>
          have next : (sweep cleaned (name :: rest)).run (answer server) c =
              (sweep (cleaned + 1) rest).run (answer server) (c.dropWaiter server name) := by
            simp [sweep, answer, found, Except.toOption, Cluster.dropWaiter]
          obtain ⟨redis, waiters⟩ := ih (cleaned + 1) (c.dropWaiter server name)
          refine ⟨by rw [next, redis]; rfl, fun k n => ?_⟩
          have same : (c.dropWaiter server name).record n = c.record n := rfl
          have absent : c.record name = none := found
          rw [next, waiters, Cluster.waiter_dropWaiter, same]
          grind

/-- `cleanup_expired` drops the waiters of its server that have no record. -/
theorem cleanupExpired_run (server : Nat) (c : Cluster) :
    (cleanupExpired.run (answer server) c).2.redis = c.redis ∧
      ∀ k n, (cleanupExpired.run (answer server) c).2.waiter k n =
        if k = server ∧ c.record n = none then none else c.waiter k n := by
  obtain ⟨redis, waiters⟩ := sweep_run server 0 (FiniteMap.keyList (c.localWaiters server)) c
  refine ⟨redis, fun k n => (waiters k n).trans ?_⟩
  by_cases here : k = server
  · subst here
    by_cases listed : n ∈ FiniteMap.keyList (c.localWaiters k)
    · simp only [listed, true_and]
    · have absent : c.waiter k n = none := by
        rw [FiniteMap.mem_keyList, not_exists] at listed
        exact Option.eq_none_iff_forall_ne_some.mpr listed
      simp only [listed, false_and, and_false, absent, ite_self]
  · simp only [here, false_and, if_false]

end RedisRegistry

end TCPunch
