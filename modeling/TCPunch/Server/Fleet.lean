import TCPunch.Redis.Faults
import TCPunch.Server.Service

/-! # A fleet of Redis-backed servers, command by command

Any number of servers share one Redis. Their connections and their cleanup tasks are
programs over single Redis commands and calls on `local_waiters`, and everything
interleaves freely. Redis may let keys expire, may refuse a command, and may apply a
command whose reply is then lost. This module says which commands a connection makes in
which order, and from that what one step of the fleet can change.
-/

namespace TCPunch.RedisRegistry

/-- What becomes of a command. -/
inductive Fate where
  | served
  /-- It is not applied. -/
  | refused (e : RedisError)
  /-- It is applied, but the client library reports an error. -/
  | lost (e : RedisError)

/-- The answer to a call, as its fate is; calls on `local_waiters` cannot fail. -/
def answerAs (fate : Fate) (server : Nat) (call : RedisCall) (c : Cluster) : call.Reply × Cluster :=
  match fate with
  | .served => answer server call c
  | .refused e =>
      match refusal e call with
      | some reply => (reply, c)
      | none => answer server call c
  | .lost e =>
      match refusal e call with
      | some reply => (reply, (answer server call c).2)
      | none => answer server call c

/-! ## The methods with their messages -/

namespace Sending

/-- Wait for the method, send its messages and return. `register` makes no request between
    `tx.send` and its return. -/
def finish (method : Program RedisCall.Reply (Except RegistryError Registered)) :
    SendingMethod RedisCall.Reply (Except RegistryError RegistrationResult) := do
  match ← method with
  | .ok registered =>
      SendingMethod.sendAll registered.sent
      return .ok registered.result
  | .error e => return .error e

def register (config : RegistryConfig) (draws : Draws) (request : Request) :
    SendingMethod RedisCall.Reply (Except RegistryError RegistrationResult) :=
  finish (RedisRegistry.register config draws request).run

/-- The handler does not look at what `unregister` returns. -/
def unregister (pairingName : String) (token : Uuid) : SendingMethod RedisCall.Reply Unit := do
  let _ ← (RedisRegistry.unregister pairingName token).run

/-- Nor does anybody look at what `cleanup_expired` returns. -/
def cleanupExpired : SendingMethod RedisCall.Reply (Except IoError Unit) := do
  let _ ← RedisRegistry.cleanupExpired
  return .ok ()

end Sending

/-- The servers and what their connections draw. `home` is the server of a connection. -/
structure Fleet where
  config : Nat → RegistryConfig
  home : Nat → Nat
  entropy : Entropy

/-- What a task of the fleet is. -/
inductive Role where
  | connection (peer : SocketAddr)
  | cleanup

def Role.address : Role → Option PeerConnectionData
  | .connection peer => PeerConnectionData.fromSocketAddr peer
  | .cleanup => none

namespace Fleet

/-- Keys expire on their own. -/
def engine (fleet : Fleet) : Engine Cluster RedisCall.Reply Fate String where
  answer i fate call c := answerAs fate (fleet.home i) call c
  holds c channel := (c.localWaiters (fleet.home channel)).any fun _ tx => decide (tx = channel)
  background key c := { c with redis := c.redis.erase key }

def methods (fleet : Fleet) : Methods RedisCall.Reply where
  register i request := Sending.register (fleet.config (fleet.home i)) (fleet.entropy.draws i) request
  unregister _ name token := Sending.unregister name token

def program (fleet : Fleet) (i : Nat) : Role → ServerCode RedisCall.Reply (Except IoError Unit)
  | .connection peer => fleet.methods.connection i peer
  | .cleanup => Methods.inline Sending.cleanupExpired

/-- Connections and cleanup tasks before anything has happened. -/
def start (fleet : Fleet) (roles : Nat → Role) :
    Team Nat (Scene Cluster) (ServerCall.Reply RedisCall.Reply) (Except IoError Unit) where
  shared := Scene.start new
  task i := fleet.program i (roles i)

end Fleet

/-! ## The order of the commands -/

/-- What a registration has in hand. -/
inductive Progress where
  /-- Its record is stored, with this token. -/
  | stored (token : Uuid)
  /-- The record of another client, taken out of Redis. -/
  | claimed (client : WaitingClient)
  /-- The sender found under the name, too. -/
  | ringing (client : WaitingClient) (tx : Chan)

namespace Fleet

/-- Which commands and messages are made by the methods called by connection `i`, and by
    cleanups. -/
def discipline (fleet : Fleet) (i : Nat) :
    Discipline (RegistryStep.Reply RedisCall.Reply) (Standing Progress) where
  allowed g
    | .request (.get _) => ∃ request, g = .asking request
    | .request (.setex key _ value) =>
        (∃ request token, g = .asking request ∧ key = pairingKey request.pairingName ∧
          value = .json (waitingClient (fleet.config (fleet.home i)) (fleet.entropy.draws i) token
            request.clientInfo)) ∨
        ∃ request token name, g = .calling request (.stored token) ∧ key = tokenKey token ∧
          value = .text name
    | .request (.getdel key) =>
        ∃ request, g = .asking request ∧ key = pairingKey request.pairingName
    | .request (.del _) =>
        (∃ request client, g = .calling request (.claimed client)) ∨
          ∃ request token channel, g = .waiting request token channel
    | .request (.keyExists _) => g = .unread
    | .request (.publish _ _) => ∃ request client, g = .calling request (.claimed client)
    | .request (.waitersInsert name tx) =>
        ∃ request token, g = .calling request (.stored token) ∧ name = request.pairingName ∧ tx = i
    | .request (.waitersRemove name) =>
        (∃ request client, g = .calling request (.claimed client) ∧ name = request.pairingName) ∨
          (∃ request token channel, g = .waiting request token channel) ∨ g = .unread
    | .request .waitersKeys => g = .unread
    | .send message =>
        ∃ request client, g = .calling request (.ringing client message.channel) ∧
          message.peer = request.clientInfo
  after g
    | .request (.get _) => fun reply =>
        match g, reply with
        | .asking request, .error _ => .refused request
        | g, _ => g
    | .request (.setex _ _ value) => fun reply =>
        match g, value, reply with
        | .asking request, .json client, .ok _ => .calling request (.stored client.reconnectToken)
        | .asking request, _, .error _ => .refused request
        | .calling request _, _, .error _ => .refused request
        | g, _, _ => g
    | .request (.getdel _) => fun reply =>
        match g, reply with
        | .asking request, .ok (some (.json client)) => .calling request (.claimed client)
        | .asking request, .ok (some (.text _)) => .refused request
        | .asking request, .error _ => .refused request
        | g, _ => g
    | .request (.del _) => fun reply =>
        match g, reply with
        | .calling request _, .error _ => .refused request
        | .waiting request token _, .error _ => .left request token
        | g, _ => g
    | .request (.keyExists _) => fun _ => g
    | .request (.publish _ _) => fun reply =>
        match g, reply with
        | .calling request (.claimed client), .ok _ => .matched request client.connectionInfo
        | .calling request _, .error _ => .refused request
        | g, _ => g
    | .request (.waitersInsert _ _) => fun _ =>
        match g with
        | .calling request (.stored token) => .waiting request token i
        | g => g
    | .request (.waitersRemove _) => fun found =>
        match g, found with
        | .calling request (.claimed client), some tx => .calling request (.ringing client tx)
        | .calling request (.claimed client), none =>
            if client.serverId ≠ (fleet.config (fleet.home i)).serverId then
              .calling request (.claimed client)
            else
              .matched request client.connectionInfo
        | .waiting request token _, _ => .left request token
        | g, _ => g
    | .request .waitersKeys => fun _ => g
    | .send _ => fun _ =>
        match g with
        | .calling request (.ringing client _) => .matched request client.connectionInfo
        | g => g

variable (fleet : Fleet)

theorem pairOrWait_obeys (i : Nat) (request : Request) :
    (Sending.finish (pairOrWait (fleet.config (fleet.home i)) (fleet.entropy.draws i)
      request.pairingName request.clientInfo).run).Obeys (fleet.discipline i)
      (fun g answer => g = Standing.afterRegister request answer) (.asking request) := by
  refine ⟨⟨request, rfl, rfl⟩, fun found => ?_⟩
  cases found with
  | error e => rfl
  | ok value =>
      cases value with
      | none =>
          refine ⟨.inl ⟨request, _, rfl, rfl, rfl⟩, fun stored => ?_⟩
          cases stored with
          | error e => rfl
          | ok _ =>
              refine ⟨.inr ⟨request, _, _, rfl, rfl, rfl⟩, fun announced => ?_⟩
              cases announced with
              | error e => rfl
              | ok _ => exact ⟨⟨request, _, rfl, rfl, rfl⟩, fun _ => rfl⟩
      | some value =>
          cases value with
          | text text => rfl
          | json client =>
              refine ⟨.inl ⟨request, client, rfl⟩, fun forgotten => ?_⟩
              cases forgotten with
              | error e => rfl
              | ok _ =>
                  refine ⟨.inl ⟨request, client, rfl, rfl⟩, fun found => ?_⟩
                  cases found with
                  | some tx => exact ⟨⟨request, client, rfl, rfl⟩, fun _ => rfl⟩
                  | none =>
                      change Program.Obeys _ _ _
                        (if client.serverId ≠ (fleet.config (fleet.home i)).serverId then
                          Standing.calling request (Progress.claimed client)
                        else
                          Standing.matched request client.connectionInfo)
                      by_cases other : client.serverId ≠ (fleet.config (fleet.home i)).serverId
                      · simp only [if_pos other]
                        refine ⟨⟨request, client, rfl⟩, fun posted => ?_⟩
                        cases posted with
                        | error e => rfl
                        | ok _ => rfl
                      · simp only [if_neg other]
                        rfl

theorem register_obeys (i : Nat) (request : Request) :
    (fleet.methods.register i request).Obeys (fleet.discipline i)
      (fun g answer => g = Standing.afterRegister request answer) (.asking request) := by
  obtain ⟨name, info, shown⟩ := request
  have pairs := fleet.pairOrWait_obeys i ⟨name, info, shown⟩
  cases shown with
  | none => exact pairs
  | some token =>
      refine ⟨⟨_, rfl⟩, fun known => ?_⟩
      cases known with
      | error e => rfl
      | ok stored =>
          change Program.Obeys _ _ (Sending.finish (ExceptT.run
            (if stored = some (.text name) then _ else _))) _
          by_cases same : stored = some (.text name)
          · rw [if_pos same]
            refine ⟨.inl ⟨_, token, rfl, rfl, rfl⟩, fun written => ?_⟩
            cases written with
            | error e => rfl
            | ok _ => exact ⟨⟨_, token, rfl, rfl, rfl⟩, fun _ => rfl⟩
          · rw [if_neg same]
            exact pairs

theorem unregister_obeys (i : Nat) (request : Request) (token : Uuid) (channel : Chan) :
    (fleet.methods.unregister i request.pairingName token).Obeys (fleet.discipline i)
      (fun g _ => g = .left request token) (.waiting request token channel) := by
  refine ⟨.inr ⟨request, token, channel, rfl⟩, fun deleted => ?_⟩
  cases deleted with
  | error e => rfl
  | ok _ => exact ⟨.inr (.inl ⟨request, token, channel, rfl⟩), fun _ => rfl⟩

theorem sweep_obeys (i : Nat) (cleaned : Nat) (names : List String) :
    ((sweep cleaned names).expand SendingMethod.request).Obeys (fleet.discipline i)
      (fun _ _ => True) .unread := by
  induction names generalizing cleaned with
  | nil => trivial
  | cons name rest ih =>
      refine ⟨rfl, fun found => ?_⟩
      change Program.Obeys _ _ (Program.expand _
        (if Option.getD (Except.toOption found) false = true then _ else _)) _
      split
      · exact ih cleaned
      · exact ⟨.inr (.inr rfl), fun _ => ih (cleaned + 1)⟩

theorem cleanup_obeys (i : Nat) :
    Sending.cleanupExpired.Obeys (fleet.discipline i) (fun _ _ => True) .unread :=
  ⟨rfl, fun names => (fleet.sweep_obeys i 0 names).bind fun _ _ _ => trivial⟩

theorem start_obeys (roles : Nat → Role) (i : Nat) :
    ((fleet.start roles).task i).Obeys (Methods.discipline (fleet.discipline i) (roles i).address)
      (fun _ _ => True) .unread := by
  change (fleet.program i (roles i)).Obeys _ _ _
  cases roles i with
  | connection peer =>
      exact Methods.connection_obeys peer (fleet.register_obeys i) (fleet.unregister_obeys i)
  | cleanup => exact Methods.inline_obeys (fleet.cleanup_obeys i)

end Fleet

/-! ## What an observer writes down -/

/-- What there is to note about a request and its reply. -/
inductive Note where
  | nothing
  /-- A record is stored under the key, whether or not the reply is lost. -/
  | stored (key : String)
  /-- A record is taken out from under the key. -/
  | found (key : String)
  /-- A message goes into the channel. -/
  | told (channel : Chan)

def Note.ofCommand (fate : Fate) : (call : RedisCall) → call.Reply → Note
  | .setex key _ (.json _), _ =>
      match fate with
      | .refused _ => .nothing
      | .served | .lost _ => .stored key
  | .getdel key, .ok (some (.json _)) => .found key
  | _, _ => .nothing

def Note.ofCall (way : Way Fate) : (call : ServerCall RedisCall) → call.Reply RedisCall.Reply → Note
  | .registry (.request call), reply =>
      match way with
      | .registry fate => .ofCommand fate call reply
      | _ => .nothing
  | .registry (.send message), _ => .told message.channel
  | _, _ => .nothing

/-- Who stored which record, who found whose, and who told whom. -/
structure Ledger where
  /-- The connection that was the last to store a record under the key. -/
  storedBy : String → Option Nat
  /-- A connection that took a record out, and the one that had stored it; in the order in which
      it happened. -/
  found : List (Nat × Nat)
  /-- A connection, and the one that sent something through its sender. -/
  told : List (Nat × Nat)

namespace Ledger

def blank : Ledger where
  storedBy := fun _ => none
  found := []
  told := []

def add (ledger : Ledger) (i : Nat) : Note → Ledger
  | .nothing => ledger
  | .stored key => { ledger with storedBy := Function.update ledger.storedBy key (some i) }
  | .found key =>
      { ledger with found := ledger.found ++ ((ledger.storedBy key).map fun j => (i, j)).toList }
  | .told channel => { ledger with told := ledger.told ++ [(channel, i)] }

def observe (i : Nat) (way : Way Fate) (call : ServerCall RedisCall)
    (reply : call.Reply RedisCall.Reply) (ledger : Ledger) : Ledger :=
  ledger.add i (Note.ofCall way call reply)

/-- No record is found twice, nobody finds two, no sender is used twice, and nobody uses two. -/
structure Once (ledger : Ledger) : Prop where
  finders : (ledger.found.map Prod.fst).Nodup
  records : (ledger.found.map Prod.snd).Nodup
  senders : (ledger.told.map Prod.fst).Nodup
  tellers : (ledger.told.map Prod.snd).Nodup

variable {ledger ledger' : Ledger}

theorem Once.of_eq (once : ledger.Once) (found : ledger'.found = ledger.found)
    (told : ledger'.told = ledger.told) : ledger'.Once := by
  constructor
  · exact found ▸ once.finders
  · exact found ▸ once.records
  · exact told ▸ once.senders
  · exact told ▸ once.tellers

theorem nodup_map_snoc {f : Nat × Nat → Nat} {pairs : List (Nat × Nat)} {pair : Nat × Nat}
    (once : (pairs.map f).Nodup) (new : ∀ other ∈ pairs, f other ≠ f pair) :
    ((pairs ++ [pair]).map f).Nodup := by
  rw [List.map_append, List.map_singleton, ← List.concat_eq_append, List.nodup_concat]
  refine ⟨fun again => ?_, once⟩
  obtain ⟨other, member, same⟩ := List.mem_map.mp again
  exact new other member same

theorem Once.find (once : ledger.Once) {i j : Nat} (finder : ∀ k, (i, k) ∉ ledger.found)
    (record : ∀ k, (k, j) ∉ ledger.found) :
    Once { ledger with found := ledger.found ++ [(i, j)] } := by
  refine ⟨nodup_map_snoc once.finders ?_, nodup_map_snoc once.records ?_, once.senders, once.tellers⟩
  · rintro ⟨k, l⟩ member rfl
    exact finder l member
  · rintro ⟨k, l⟩ member rfl
    exact record k member

theorem Once.tell (once : ledger.Once) {i j : Nat} (sender : ∀ k, (i, k) ∉ ledger.told)
    (teller : ∀ k, (k, j) ∉ ledger.told) : (ledger.add j (.told i)).Once := by
  refine ⟨once.finders, once.records, nodup_map_snoc once.senders ?_, nodup_map_snoc once.tellers ?_⟩
  · rintro ⟨k, l⟩ member rfl
    exact sender l member
  · rintro ⟨k, l⟩ member rfl
    exact teller k member

end Ledger

namespace Fleet

/-- The fleet before anything has happened, with an observer. -/
def watchedStart (fleet : Fleet) (roles : Nat → Role) :
    Team Nat (Scene Cluster × Ledger) (ServerCall.Reply RedisCall.Reply) (Except IoError Unit) where
  shared := (Scene.start new, Ledger.blank)
  task i := fleet.program i (roles i)

/-- What the observer has written down at the end of a run. -/
def ledger (fleet : Fleet) (roles : Nat → Role) (moves : List (Team.Move Nat (Way Fate) String)) :
    Option Ledger :=
  (Machine.run (Team.step ((Scene.rules fleet.engine).watched Ledger.observe)) (fleet.watchedStart roles)
    moves).map fun final => final.shared.2

end Fleet

/-! ## What can happen to a connection -/

/-- Every record and every sender of the second state is in the first. -/
structure Fewer (c c' : Cluster) : Prop where
  records : ∀ name client, c'.record name = some (.json client) → c.record name = some (.json client)
  waiters : ∀ server name tx, c'.waiter server name = some tx → c.waiter server name = some tx

theorem Fewer.refl (c : Cluster) : Fewer c c := ⟨fun _ _ found => found, fun _ _ _ found => found⟩

/-- A call that stores nothing. -/
def Removes : RedisCall → Prop
  | .setex _ _ _ => False
  | .waitersInsert _ _ => False
  | _ => True

theorem lookup_del {keys : List String} {redis : FiniteMap String RedisValue} {key : String}
    {value : RedisValue}
    (found : (keys.foldl (fun redis key => redis.erase key) redis).lookup key = some value) :
    redis.lookup key = some value := by
  induction keys generalizing redis with
  | nil => exact found
  | cons first rest ih => exact (FiniteMap.of_lookup_erase (ih found)).2

theorem fewer_answer (server : Nat) {call : RedisCall} (removes : Removes call) (c : Cluster) :
    Fewer c (answer server call c).2 := by
  cases call with
  | setex | waitersInsert => exact removes.elim
  | get | keyExists | publish | waitersKeys => exact ⟨fun _ _ found => found, fun _ _ _ found => found⟩
  | getdel key => exact ⟨fun _ _ found => (FiniteMap.of_lookup_erase found).2, fun _ _ _ found => found⟩
  | del keys => exact ⟨fun _ _ found => lookup_del found, fun _ _ _ found => found⟩
  | waitersRemove name =>
      refine ⟨fun _ _ found => found, fun k n tx found => ?_⟩
      have left : (c.dropWaiter server name).waiter k n = some tx := found
      rw [Cluster.waiter_dropWaiter] at left
      split at left
      · cases left
      · exact left

theorem fewer_answerAs (fate : Fate) (server : Nat) {call : RedisCall} (removes : Removes call)
    (c : Cluster) : Fewer c (answerAs fate server call c).2 := by
  have applied := fewer_answer server removes c
  cases fate with
  | served => exact applied
  | refused e =>
      simp only [answerAs]
      split
      · exact Fewer.refl c
      · exact applied
  | lost e =>
      simp only [answerAs]
      split <;> exact applied

theorem record_setex (server : Nat) (name : String) (seconds : Int) (value : RedisValue) (c : Cluster)
    (n : String) : (answer server (.setex (pairingKey name) seconds value) c).2.record n =
      if n = name then some value else c.record n := by
  simp only [answer, Cluster.record, FiniteMap.lookup_insert_if, pairingKey_inj]

theorem answerAs_of_local (fate : Fate) (server : Nat) {call : RedisCall} (c : Cluster)
    (certain : ∀ e, refusal e call = none) : answerAs fate server call c = answer server call c := by
  cases fate with
  | served => rfl
  | refused e => simp only [answerAs, certain]
  | lost e => simp only [answerAs, certain]

/-- Everything that one answer can change: where connection `i` stands, and the scene; and what
    there is to note. Of the fleet it says what becomes of the records and of the senders. -/
inductive Happens (fleet : Fleet) (address : Nat → Option PeerConnectionData) (i : Nat)
    (s : Scene Cluster) : Standing Progress → Standing Progress → Scene Cluster → Note → Prop where
  | read (own : PeerConnectionData) (outcome : ReadOutcome) (known : address i = some own) :
      Happens fleet address i s .unread (Standing.afterRead own outcome) (s.read i outcome) .nothing
  | write (g : Standing Progress) (frame : ServerResponse) (may : g.MayWrite frame) :
      Happens fleet address i s g g (s.update (s.wrote i frame)) .nothing
  | wait (request : Request) (token : Uuid) (channel : Chan) (waited : PeerWait)
      (there : ∀ peer, waited = .arrived peer → s.inbox channel = some peer) :
      Happens fleet address i s (.waiting request token channel)
        (Standing.afterWait request token channel waited) s .nothing
  | idle (g : Standing Progress) (shared : Shared Cluster) (fewer : Fewer s.registry shared.registry)
      (inbox : shared.inbox = s.inbox) (frames : shared.frames = s.frames) :
      Happens fleet address i s g g (s.update shared) .nothing
  /-- A command failed, applied or not, and with it the registration. -/
  | refuse (g : Standing Progress) (request : Request) (registry : Cluster)
      (asked : g = .asking request ∨ ∃ progress, g = .calling request progress)
      (fewer : Fewer s.registry registry) :
      Happens fleet address i s g (.refused request) (s.update { s.toShared with registry }) .nothing
  /-- Its record is stored, even though the registration may fail with that. -/
  | store (request : Request) (client : WaitingClient) (registry : Cluster) (g : Standing Progress)
      (own : client.connectionInfo = request.clientInfo)
      (records : ∀ n, registry.record n =
        if n = request.pairingName then some (.json client) else s.registry.record n)
      (waiters : ∀ k n, registry.waiter k n = s.registry.waiter k n)
      (next : g = .calling request (.stored client.reconnectToken) ∨ g = .refused request) :
      Happens fleet address i s (.asking request) g (s.update { s.toShared with registry })
        (.stored (pairingKey request.pairingName))
  | claim (request : Request) (client : WaitingClient) (registry : Cluster)
      (found : s.registry.record request.pairingName = some (.json client))
      (fewer : Fewer s.registry registry) (gone : registry.record request.pairingName = none) :
      Happens fleet address i s (.asking request) (.calling request (.claimed client))
        (s.update { s.toShared with registry }) (.found (pairingKey request.pairingName))
  | enter (request : Request) (token : Uuid) (registry : Cluster)
      (records : ∀ n, registry.record n = s.registry.record n)
      (waiters : ∀ k n, registry.waiter k n =
        if k = fleet.home i ∧ n = request.pairingName then some i else s.registry.waiter k n) :
      Happens fleet address i s (.calling request (.stored token)) (.waiting request token i)
        (s.update { s.toShared with registry }) .nothing
  | ring (request : Request) (client : WaitingClient) (tx : Chan) (registry : Cluster)
      (found : s.registry.waiter (fleet.home i) request.pairingName = some tx)
      (fewer : Fewer s.registry registry)
      (gone : registry.waiter (fleet.home i) request.pairingName = none) :
      Happens fleet address i s (.calling request (.claimed client))
        (.calling request (.ringing client tx)) (s.update { s.toShared with registry }) .nothing
  /-- There is no sender on this server. -/
  | miss (request : Request) (client : WaitingClient) (registry : Cluster)
      (fewer : Fewer s.registry registry) :
      Happens fleet address i s (.calling request (.claimed client))
        (.matched request client.connectionInfo) (s.update { s.toShared with registry }) .nothing
  | send (request : Request) (client : WaitingClient) (message : Notification)
      (told : message.peer = request.clientInfo) :
      Happens fleet address i s (.calling request (.ringing client message.channel))
        (.matched request client.connectionInfo)
        (s.update { s.toShared with inbox := Shared.deliver s.inbox message }) (.told message.channel)
  | leave (request : Request) (token : Uuid) (channel : Chan) (registry : Cluster)
      (fewer : Fewer s.registry registry) :
      Happens fleet address i s (.waiting request token channel) (.left request token)
        (s.update { s.toShared with registry }) .nothing

section Inversion

variable {fleet : Fleet} {address : Nat → Option PeerConnectionData} {i : Nat} {s : Scene Cluster}
  {g : Standing Progress}

theorem happens_of_command {fate : Fate} {call : RedisCall}
    (permitted : (fleet.discipline i).allowed g (.request call)) :
    Happens fleet address i s g
      ((fleet.discipline i).after g (.request call) (answerAs fate (fleet.home i) call s.registry).1)
      (s.update { s.toShared with registry := (answerAs fate (fleet.home i) call s.registry).2 })
      (.ofCommand fate call (answerAs fate (fleet.home i) call s.registry).1) := by
  have fewer : Removes call → Fewer s.registry (answerAs fate (fleet.home i) call s.registry).2 :=
    fun removes => fewer_answerAs fate (fleet.home i) removes s.registry
  cases call with
  | get key =>
      obtain ⟨request, rfl⟩ := permitted
      generalize answerAs fate (fleet.home i) (.get key) s.registry = out at fewer ⊢
      obtain ⟨reply, registry⟩ := out
      cases reply with
      | ok value => exact .idle _ { s.toShared with registry } (fewer trivial) rfl rfl
      | error e => exact .refuse _ request registry (.inl rfl) (fewer trivial)
  | setex key seconds value =>
      rcases permitted with ⟨request, token, rfl, rfl, rfl⟩ | ⟨request, token, text, rfl, rfl, rfl⟩
      · have records := record_setex (fleet.home i) request.pairingName seconds
          (.json (waitingClient (fleet.config (fleet.home i)) (fleet.entropy.draws i) token
            request.clientInfo)) s.registry
        cases fate with
        | served => exact .store request _ _ _ rfl records (fun _ _ => rfl) (.inl rfl)
        | refused e => exact .refuse _ request _ (.inl rfl) (Fewer.refl _)
        | lost e => exact .store request _ _ _ rfl records (fun _ _ => rfl) (.inr rfl)
      · have kept : Fewer s.registry (answer (fleet.home i) (.setex (tokenKey token) seconds (.text text))
            s.registry).2 := by
          refine ⟨fun name client found => ?_, fun _ _ _ found => found⟩
          rcases FiniteMap.of_lookup_insert found with ⟨same, -⟩ | ⟨-, found⟩
          · exact absurd same (pairingKey_ne_tokenKey name token)
          · exact found
        cases fate with
        | served => exact .idle _ { s.toShared with registry := _ } kept rfl rfl
        | refused e => exact .refuse _ request _ (.inr ⟨_, rfl⟩) (Fewer.refl _)
        | lost e => exact .refuse _ request _ (.inr ⟨_, rfl⟩) kept
  | getdel key =>
      obtain ⟨request, rfl, rfl⟩ := permitted
      cases fate with
      | refused e => exact .refuse _ request _ (.inl rfl) (fewer trivial)
      | lost e => exact .refuse _ request _ (.inl rfl) (fewer trivial)
      | served =>
          have gone : (answer (fleet.home i) (.getdel (pairingKey request.pairingName))
              s.registry).2.record request.pairingName = none := Finmap.lookup_erase _ _
          simp only [answerAs, answer] at fewer gone ⊢
          cases found : s.registry.redis.lookup (pairingKey request.pairingName) with
          | none => exact .idle _ { s.toShared with registry := _ } (fewer trivial) rfl rfl
          | some value =>
              cases value with
              | json client => exact .claim request client _ found (fewer trivial) gone
              | text text => exact .refuse _ request _ (.inl rfl) (fewer trivial)
  | del keys =>
      generalize answerAs fate (fleet.home i) (.del keys) s.registry = out at fewer ⊢
      obtain ⟨reply, registry⟩ := out
      rcases permitted with ⟨request, client, rfl⟩ | ⟨request, token, channel, rfl⟩
      · cases reply with
        | ok _ => exact .idle _ { s.toShared with registry } (fewer trivial) rfl rfl
        | error e => exact .refuse _ request registry (.inr ⟨_, rfl⟩) (fewer trivial)
      · cases reply with
        | ok _ => exact .idle _ { s.toShared with registry } (fewer trivial) rfl rfl
        | error e => exact .leave request token channel registry (fewer trivial)
  | keyExists key => exact .idle _ { s.toShared with registry := _ } (fewer trivial) rfl rfl
  | publish channel message =>
      obtain ⟨request, client, rfl⟩ := permitted
      generalize answerAs fate (fleet.home i) (.publish channel message) s.registry = out at fewer ⊢
      obtain ⟨reply, registry⟩ := out
      cases reply with
      | ok _ => exact .miss request client registry (fewer trivial)
      | error e => exact .refuse _ request registry (.inr ⟨_, rfl⟩) (fewer trivial)
  | waitersInsert name tx =>
      obtain ⟨request, token, rfl, rfl, rfl⟩ := permitted
      rw [answerAs_of_local _ _ _ fun _ => rfl]
      refine .enter request token _ (fun _ => rfl) fun k n => ?_
      by_cases same : k = fleet.home tx
      · subst same
        simp only [answer, Cluster.waiter, Function.update_self, FiniteMap.lookup_insert_if, true_and]
      · simp only [answer, Cluster.waiter, Function.update_of_ne same, same, false_and, if_false]
  | waitersRemove name =>
      rw [answerAs_of_local _ _ _ fun _ => rfl] at fewer ⊢
      rcases permitted with ⟨request, client, rfl, rfl⟩ | ⟨request, token, channel, rfl⟩ | rfl
      · have gone : (s.registry.dropWaiter (fleet.home i) request.pairingName).waiter (fleet.home i)
            request.pairingName = none := by
          rw [Cluster.waiter_dropWaiter, if_pos ⟨rfl, rfl⟩]
        simp only [answer] at fewer ⊢
        cases found : (s.registry.localWaiters (fleet.home i)).lookup request.pairingName with
        | some tx => exact .ring request client tx _ found (fewer trivial) gone
        | none =>
            simp only [Fleet.discipline]
            split
            · exact .idle _ { s.toShared with registry := _ } (fewer trivial) rfl rfl
            · exact .miss request client _ (fewer trivial)
      · exact .leave request token channel _ (fewer trivial)
      · exact .idle _ { s.toShared with registry := _ } (fewer trivial) rfl rfl
  | waitersKeys => exact .idle _ { s.toShared with registry := _ } (fewer trivial) rfl rfl

theorem happens_of_answer {way : Way Fate} {s' : Scene Cluster} {call : ServerCall RedisCall}
    {reply : call.Reply RedisCall.Reply}
    (permitted : (Methods.discipline (fleet.discipline i) (address i)).allowed g call)
    (answered : Scene.answer fleet.engine i way s call = some (reply, s')) :
    Happens fleet address i s g
      ((Methods.discipline (fleet.discipline i) (address i)).after g call reply) s'
      (.ofCall way call reply) := by
  cases Scene.answers_of_answer answered with
  | read outcome =>
      obtain ⟨rfl, isV4⟩ := permitted
      obtain ⟨own, known⟩ := Option.isSome_iff_exists.mp isV4
      simp only [Methods.discipline, Handler.discipline, known]
      exact .read own outcome known
  | written frame => exact .write g frame permitted
  | arrived channel peer there =>
      obtain ⟨request, token, rfl⟩ := permitted
      exact .wait request token channel (.arrived peer) fun _ same => by cases same; exact there
  | closed channel =>
      obtain ⟨request, token, rfl⟩ := permitted
      exact .wait request token channel .closed fun _ same => by cases same
  | elapsed channel =>
      obtain ⟨request, token, rfl⟩ := permitted
      exact .wait request token channel .elapsed fun _ same => by cases same
  | request call fate => exact happens_of_command permitted
  | sent message =>
      obtain ⟨request, client, rfl, told⟩ := permitted
      exact .send request client message told
  | writeFails => exact .idle g s.toShared (Fewer.refl _) rfl rfl
  | succeeded => exact .idle g s.pairingSucceeded (Fewer.refl _) rfl rfl
  | timedOut => exact .idle g s.timeoutOccurred (Fewer.refl _) rfl rfl

end Inversion

theorem keeps_of_happens {fleet : Fleet} {address : Nat → Option PeerConnectionData}
    {inv : Scene Cluster × Ledger → (Nat → Standing Progress) → Prop}
    (happening : ∀ s ledger g i standing s' note, inv (s, ledger) g →
      Happens fleet address i s (g i) standing s' note →
      inv (s', ledger.add i note) (Function.update g i standing))
    (expiring : ∀ s ledger g registry, inv (s, ledger) g → Fewer s.registry registry →
      inv (s.update { s.toShared with registry }, ledger) g) :
    Team.Keeps ((Scene.rules fleet.engine).watched Ledger.observe)
      (fun i => Methods.discipline (fleet.discipline i) (address i)) inv := by
  constructor
  · intro s g i way call reply s' holds permitted answered
    obtain ⟨out, replied, same⟩ := Option.map_eq_some_iff.mp answered
    cases same
    exact happening s.1 s.2 g i _ _ _ holds (happens_of_answer permitted replied)
  · intro s g key s' holds changed
    cases changed
    exact expiring s.1 s.2 g _ holds
      ⟨fun _ _ found => (FiniteMap.of_lookup_erase found).2, fun _ _ _ found => found⟩

end TCPunch.RedisRegistry
