import TCPunch.Redis.Atomic
import TCPunch.Server.Session

/-! # Handlers over the Redis registry

Handlers on any number of servers, each with the waiters of its own server. A handler
whose time is up unregisters by name and token, and both are the same for every
connection of a session. So the handler of an earlier connection, which nobody told that
its client has moved on, ends the wait of the later one wherever that is.
-/

namespace TCPunch.RedisRegistry

/-- What happens to a cluster without any handler. -/
inductive ClusterChange where
  | cleanup (server : Nat)
  | expire (key : String)

/-- The registry that handlers share; handler `i` runs on server `home i`, which alone can
    have the sender of its channel. -/
def backend (config : Nat → RegistryConfig) (home : Nat → Nat) (entropy : Entropy) :
    Backend Cluster ClusterChange where
  register i request c :=
    atomically (home i) (register (config (home i)) (entropy.draws i) request) c
  unregister i name token c := (atomically (home i) (unregister name token) c).2
  holds c channel := (c.localWaiters (home channel)).any fun _ tx => decide (tx = channel)
  background change c :=
    match change with
    | .cleanup server => (cleanupExpired.run (answer server) c).2
    | .expire key => { c with redis := c.redis.erase key }

/-- The record of the name, the key of the token and the sender of handler `r` are what
    they were. -/
def Undisturbed (home : Nat → Nat) (r : Nat) (name : String) (token : Uuid) (c c' : Cluster) :
    Prop :=
  c'.record name = c.record name ∧ c'.token token = c.token token ∧
    (c.waiter (home r) name = some r → c'.waiter (home r) name = some r)

/-- Nothing is left of the session in Redis, nor of the sender of handler `r` within reach
    of a handler on the given server. -/
def Gone (home : Nat → Nat) (server r : Nat) (name : String) (token : Uuid) (c : Cluster) : Prop :=
  c.record name = none ∧ c.token token = none ∧
    (home r ≠ server ∨ c.waiter (home r) name ≠ some r)

theorem undisturbed_iff_gone {home : Nat → Nat} {server r : Nat} {name : String} {token : Uuid}
    {c : Cluster} :
    Undisturbed home r name token c (c.dismiss server name token) ↔
      Gone home server r name token c := by
  simp only [Undisturbed, Gone, Cluster.record_dismiss, Cluster.token_dismiss,
    Cluster.waiter_dismiss, if_true, and_true]
  constructor
  · intro same
    refine ⟨same.1.symm, same.2.1.symm, ?_⟩
    by_cases here : home r = server
    · refine .inr fun sender => ?_
      have kept := same.2.2 sender
      rw [if_pos here] at kept
      cases kept
    · exact .inl here
  · intro gone
    refine ⟨gone.1.symm, gone.2.1.symm, fun sender => ?_⟩
    rcases gone.2.2 with elsewhere | absent
    · rw [if_neg elsewhere]
      exact sender
    · exact absurd sender absent

/-! ## A resumed wait -/

/-- The client of handler `r` is on record, and its server has its sender. -/
structure InPlace (home : Nat → Nat) (r : Nat) (name : String) (client : WaitingClient)
    (c : Cluster) : Prop where
  record : c.record name = some (.json client)
  sender : c.waiter (home r) name = some r

/-- Nobody registers under the name and its record does not expire. Handlers that
    unregister the name find nothing left of the session. -/
def Sparing (home : Nat → Nat) (r : Nat) (name : String) (w : World Cluster) :
    Event ClusterChange → Prop
  | .handler i .register =>
      ∀ request next, w.task i = .call (.register request) next → request.pairingName ≠ name
  | .handler i .unregister =>
      ∀ token next, w.task i = .call (.unregister name token) next →
        Gone home (home i) r name token w.shared.registry
  | .background (.expire key) => key ≠ pairingKey name
  | _ => True

section Resumed

variable {config : Nat → RegistryConfig} {home : Nat → Nat} {entropy : Entropy} {r : Nat}
  {name : String} {client : WaitingClient} {w w' : World Cluster}

theorem InPlace.background (config : Nat → RegistryConfig) (entropy : Entropy) {c : Cluster}
    (waits : InPlace home r name client c) {change : ClusterChange}
    (spared : ∀ key, change = .expire key → key ≠ pairingKey name) :
    InPlace home r name client ((backend config home entropy).background change c) := by
  cases change with
  | cleanup server =>
      obtain ⟨redis, waiters⟩ := cleanupExpired_run server c
      refine ⟨(congrArg (fun m => m.lookup (pairingKey name)) redis).trans waits.record, ?_⟩
      have live : ¬ (home r = server ∧ c.record name = none) := by
        simp only [waits.record, reduceCtorEq, and_false, not_false_eq_true]
      exact (waiters (home r) name).trans ((if_neg live).trans waits.sender)
  | expire key =>
      have apart : pairingKey name ≠ key := (spared key rfl).symm
      exact ⟨(FiniteMap.lookup_erase_if ..).trans ((if_neg apart).trans waits.record), waits.sender⟩

theorem InPlace.step (event : Event ClusterChange)
    (waits : InPlace home r name client w.shared.registry) (spared : Sparing home r name w event)
    (taken : World.step (RedisRegistry.backend config home entropy) w event = some w') :
    InPlace home r name client w'.shared.registry := by
  cases event with
  | background change =>
      obtain rfl := Option.some.inj taken
      exact waits.background config entropy fun key same => by subst same; exact spared
  | handler i choice =>
      rcases World.registry_of_step taken with
        same | ⟨request, next, pending, rfl, after⟩ | ⟨n, token, next, pending, rfl, after⟩
      · rwa [same]
      · have apart : name ≠ request.pairingName := (spared request next pending).symm
        obtain ⟨record, waiter⟩ :=
          register_other (config (home i)) (entropy.draws i) (home i) w.shared.registry apart
        rw [after]
        exact ⟨record.trans waits.record, (waiter (home r)).trans waits.sender⟩
      · have apart : name ≠ n := by
          intro same
          subst same
          -- a session that is on record is not gone
          have gone := spared token next pending
          cases waits.record.symm.trans gone.1
        have elsewhere : ¬ (home r = home i ∧ name = n) := fun both => apart both.2
        rw [after]
        simp only [RedisRegistry.backend, atomically_unregister]
        exact ⟨by rw [Cluster.record_dismiss, if_neg apart, waits.record],
          by rw [Cluster.waiter_dismiss, if_neg elsewhere, waits.sender]⟩

theorem inPlace_of_resumed {request next token}
    (pending : w.task r = .call (.register request) next)
    (check : Reconnects w.shared.registry request token)
    (taken : World.step (backend config home entropy) w (.handler r .register) = some w') :
    InPlace home r request.pairingName
      (waitingClient (config (home r)) (entropy.draws r) token request.clientInfo)
      w'.shared.registry := by
  simp only [World.step, pending, World.react, World.answer, Option.map_some,
    Option.some.injEq] at taken
  subst taken
  simp only [Shared.registered, backend, register_resumes check]
  exact ⟨Cluster.record_enroll.trans (if_pos rfl),
    Cluster.waiter_enroll.trans (if_pos ⟨rfl, rfl⟩)⟩

end Resumed

/-! ## Connections that the session has left behind -/

/-- The timer of another connection of the session fires only when the session is over, and
    nobody registers under the name while such a connection is about to unregister. -/
def Considerate (home : Nat → Nat) (r : Nat) (name : String) (token : Uuid) (w : World Cluster) :
    Event ClusterChange → Prop
  | .handler h .elapsed =>
      ∀ wait, h ≠ r → w.task h = Handler.awaitAndFinish wait → wait.pairingName = name →
        wait.token = token → Gone home (home h) r name token w.shared.registry
  | .handler x .register =>
      ∀ request next, w.task x = .call (.register request) next → request.pairingName = name →
        ∀ h k, h ≠ r → w.task h ≠ .call (.unregister name token) k
  | _ => True

/-- Nobody registers under the name, its record does not expire, and if anybody unregisters
    it, it is another connection of the session. -/
def Lasting (r : Nat) (name : String) (token : Uuid) (w : World Cluster) :
    Event ClusterChange → Prop
  | .handler x .register =>
      ∀ request next, w.task x = .call (.register request) next → request.pairingName ≠ name
  | .handler h .unregister =>
      ∀ t next, w.task h = .call (.unregister name t) next → h ≠ r ∧ t = token
  | .background (.expire key) => key ≠ pairingKey name
  | _ => True

/-- Handler `h` is another connection of the session, and about to unregister. -/
def Departs (r : Nat) (name : String) (token : Uuid) (h : Nat) (position : Position) : Prop :=
  h ≠ r ∧ ∃ wait, position = .leaving wait ∧ wait.pairingName = name ∧ wait.token = token

/-- Whoever is about to unregister for the session finds nothing left of it. -/
def Harmless (home : Nat → Nat) (r : Nat) (name : String) (token : Uuid) (c : Cluster)
    (position : Nat → Position) : Prop :=
  ∀ h, Departs r name token h (position h) → Gone home (home h) r name token c

section Departing

variable {config : Nat → RegistryConfig} {home : Nat → Nat} {entropy : Entropy} {r server : Nat}
  {name : String} {token : Uuid} {c c' : Cluster} {position : Nat → Position}

theorem Gone.shrink (gone : Gone home server r name token c) (record : c'.record name = none)
    (forgotten : c'.token token = none)
    (fewer : c'.waiter (home r) name = some r → c.waiter (home r) name = some r) :
    Gone home server r name token c' :=
  ⟨record, forgotten, gone.2.2.imp_right fun absent present => absent (fewer present)⟩

theorem Gone.unregister (config : Nat → RegistryConfig) (entropy : Entropy)
    (gone : Gone home server r name token c) (i : Nat) (n : String) (t : Uuid) :
    Gone home server r name token ((backend config home entropy).unregister i n t c) := by
  simp only [backend, atomically_unregister]
  refine gone.shrink ?_ ?_ Cluster.of_waiter_dismiss
  · rw [Cluster.record_dismiss, gone.1, ite_self]
  · rw [Cluster.token_dismiss, gone.2.1, ite_self]

theorem Gone.background (config : Nat → RegistryConfig) (entropy : Entropy)
    (gone : Gone home server r name token c) (change : ClusterChange) :
    Gone home server r name token ((backend config home entropy).background change c) := by
  cases change with
  | cleanup k =>
      obtain ⟨redis, waiters⟩ := cleanupExpired_run k c
      refine gone.shrink ?_ ?_ fun present => ?_
      · exact (congrArg (fun m => m.lookup (pairingKey name)) redis).trans gone.1
      · exact (congrArg (fun m => m.lookup (tokenKey token)) redis).trans gone.2.1
      · have kept := (waiters (home r) name).symm.trans present
        split at kept
        · cases kept
        · exact kept
  | expire key =>
      refine gone.shrink ?_ ?_ id
      · have absent : c.redis.lookup (pairingKey name) = none := gone.1
        exact (FiniteMap.lookup_erase_if ..).trans (by rw [absent, ite_self])
      · have absent : c.redis.lookup (tokenKey token) = none := gone.2.1
        exact (FiniteMap.lookup_erase_if ..).trans (by rw [absent, ite_self])

theorem Gone.register (config : Nat → RegistryConfig) (gone : Gone home server r name token c)
    {i : Nat} {request : Request} (apart : request.pairingName ≠ name) (fresh : entropy.newV4 i ≠ token) :
    Gone home server r name token ((backend config home entropy).register i request c).2 := by
  obtain ⟨record, waiter⟩ :=
    register_other (config (home i)) (entropy.draws i) (home i) c apart.symm
  exact gone.shrink (record.trans gone.1) (token_register _ _ request fresh gone.2.1)
    fun present => (waiter (home r)).symm.trans present

/-- A handler moves: those that were about to unregister still find nothing, and so does it. -/
theorem Harmless.move (harmless : Harmless home r name token c position) {i next}
    (kept : ∀ h, Departs r name token h (position h) → Gone home (home h) r name token c →
      Gone home (home h) r name token c')
    (left : Departs r name token i next → Gone home (home i) r name token c') :
    Harmless home r name token c' (Function.update position i next) := by
  intro h departs
  by_cases same : h = i
  · subst same
    rw [Function.update_self] at departs
    exact left departs
  · rw [Function.update_of_ne same] at departs
    exact kept h departs (harmless h departs)

theorem Harmless.step {hall hall' : Hall Cluster}
    (harmless : Harmless home r name token hall.shared.registry hall.position)
    (event : Event ClusterChange) (considerate : Considerate home r name token hall.toWorld event)
    (fresh : ∀ x, event = .handler x .register → entropy.newV4 x ≠ token)
    (taken : hall.step (RedisRegistry.backend config home entropy) event = some hall') :
    Harmless home r name token hall'.shared.registry hall'.position := by
  rcases Hall.step_cases taken with
    ⟨i, choice, next, shared, rfl, moved, rfl⟩ | ⟨change, rfl, rfl⟩
  · generalize here : hall.position i = before at moved
    -- Apart from the three cases below, the registry stays and nobody starts to unregister.
    have stays : ∀ {next}, (∀ wait, next ≠ .leaving wait) →
        Harmless home r name token hall.shared.registry
          (Function.update hall.position i next) := by
      intro next other
      refine harmless.move (fun _ _ gone => gone) fun departs => ?_
      obtain ⟨-, wait, leaving, -⟩ := departs
      exact absurd leaving (other wait)
    cases moved with
    | register request =>
        have pending : hall.toWorld.task i = (Position.registering request).program := by
          rw [Hall.toWorld_task, here]
        have nobody := considerate request _ (pending.trans (Position.registerAndServe_eq request))
        refine harmless.move (fun h departs gone => ?_) fun departs => ?_
        · obtain ⟨other, wait, leaving, rfl, rfl⟩ := departs
          refine gone.register config (fun same => ?_) (fresh i rfl)
          exact nobody same h _ other (by rw [Hall.toWorld_task, leaving]; rfl)
        · obtain ⟨-, wait, leaving, -⟩ := departs
          cases reply : ((RedisRegistry.backend config home entropy).register i request
              hall.shared.registry).1.map Registered.result with
          | error e => rw [reply] at leaving; cases leaving
          | ok result => rw [reply] at leaving; cases result <;> cases leaving
    | elapsed wait silent =>
        refine harmless.move (fun _ _ gone => gone) fun departs => ?_
        obtain ⟨other, wait', same, named, known⟩ := departs
        obtain rfl := Position.leaving.inj same
        exact considerate wait other (by rw [Hall.toWorld_task, here]; rfl) named known
    | unregister wait =>
        refine harmless.move (fun _ _ gone => gone.unregister config entropy i _ _) fun departs => ?_
        obtain ⟨-, wait', leaving, -⟩ := departs
        cases leaving
    | read clientInfo outcome => cases outcome <;> exact stays (by simp [Position.afterRead])
    | close frame counter => cases counter <;> exact stays (by simp [Position.afterClose])
    | count counter => cases counter <;> exact stays (by simp)
    | greet | greetFails | arrived | closed | closeFails => exact stays (by simp)
  · exact fun h departs => (harmless h departs).background config entropy change

/-- While nobody finds anything to end, a lasting step spares the session. -/
theorem Harmless.sparing {hall : Hall Cluster}
    (harmless : Harmless home r name token hall.shared.registry hall.position)
    (event : Event ClusterChange) (lasting : Lasting r name token hall.toWorld event) :
    Sparing home r name hall.toWorld event := by
  cases event with
  | background change =>
      cases change with
      | cleanup server => trivial
      | expire key => exact lasting
  | handler i choice =>
      cases choice with
      | register => exact lasting
      | unregister =>
          intro t next pending
          obtain ⟨other, rfl⟩ := lasting t next pending
          exact harmless i ⟨other, Position.eq_leaving pending⟩
      | read | write | arrived | closed | elapsed | count => trivial

theorem InPlace.step_hall {hall hall' : Hall Cluster} {client : WaitingClient} {event}
    (waits : InPlace home r name client hall.shared.registry)
    (harmless : Harmless home r name token hall.shared.registry hall.position)
    (lasting : Lasting r name token hall.toWorld event)
    (taken : hall.step (RedisRegistry.backend config home entropy) event = some hall') :
    InPlace home r name client hall'.shared.registry := by
  have taken : World.step (RedisRegistry.backend config home entropy) hall.toWorld event =
      some hall'.toWorld := by rw [Hall.step_eq, taken]; rfl
  exact InPlace.step event waits (harmless.sparing event lasting) taken

end Departing

/-- After an `unregister`, whatever was there, the next client without a token that leads to
    the name has to wait. -/
theorem waits_after_unregister (config : RegistryConfig) (draws : Draws) (server home : Nat)
    (c : Cluster) (token : Uuid) {request : Request}
    (different : ∀ t, ¬ Reconnects (c.dismiss home request.pairingName token) request t) :
    (atomically server (register config draws request)
        (atomically home (unregister request.pairingName token) c).2).1 =
      .ok ⟨.waiting draws.newV4 draws.channel, []⟩ := by
  rw [atomically_unregister, register_otherwise different, pairOrWait_waits]
  rw [Cluster.record_dismiss, if_pos rfl]

theorem reconnects_of_resumed {config : RegistryConfig} {draws : Draws} {server : Nat} {c : Cluster}
    {request : Request} {token channel sent}
    (resumes : (atomically server (register config draws request) c).1 =
      .ok ⟨.resumed token channel, sent⟩) : Reconnects c request token := by
  rcases register_cases config draws server c request with
    ⟨token', check, out⟩ | ⟨-, out⟩ | ⟨client, -, out⟩ | ⟨text, -, out⟩
  · rw [out] at resumes
    cases resumes
    exact check
  all_goals
    rw [out] at resumes
    cases resumes

/-- Handler `r` resumes a session, and from then on other connections of the session are
    considerate. Then whichever of them unregisters leaves the record, the token and the
    sender of `r` as they are. If nothing else ends the wait, the next client is paired with
    the client of `r`, and on the same server that client is told. -/
theorem superseded_unregister_harmless (config : Nat → RegistryConfig) (home : Nat → Nat)
    (entropy : Entropy) (peers : Nat → SocketAddr) (pre post : List (Event ClusterChange)) (r : Nat)
    {w resumed final : World Cluster} {session : Request} {next token channel sent}
    (reached : Machine.run (World.step (backend config home entropy)) (World.start new peers) pre =
      some w)
    (pending : w.task r = .call (.register session) next)
    (resumes : ((backend config home entropy).register r session w.shared.registry).1 =
      .ok ⟨.resumed token channel, sent⟩)
    (taken : World.step (backend config home entropy) w (.handler r .register) = some resumed)
    (fresh : ∀ event ∈ post, ∀ x, event = .handler x .register → entropy.newV4 x ≠ token)
    (considerate : Machine.Along (World.step (backend config home entropy))
      (Considerate home r session.pairingName token) w (.handler r .register :: post))
    (runs : Machine.run (World.step (backend config home entropy)) resumed post = some final) :
    (∀ h k w', h ≠ r → final.task h = .call (.unregister session.pairingName token) k →
        World.step (backend config home entropy) final (.handler h .unregister) = some w' →
          Undisturbed home r session.pairingName token final.shared.registry w'.shared.registry) ∧
      (Machine.Along (World.step (backend config home entropy))
          (Lasting r session.pairingName token) resumed post →
        ∀ server draws request, request.pairingName = session.pairingName →
          (∀ t, ¬ Reconnects final.shared.registry request t) →
            ∃ sent,
              (atomically server (register (config server) draws request)
                  final.shared.registry).1 =
                .ok ⟨.paired draws.newV4 session.clientInfo, sent⟩ ∧
              (server = home r → sent = [⟨r, request.clientInfo⟩])) := by
  have check := reconnects_of_resumed resumes
  have inPlace := inPlace_of_resumed pending check taken
  obtain ⟨hall, -, rfl⟩ := Hall.of_run reached
  have later := considerate.2 resumed taken
  have steps := taken
  rw [Hall.step_eq] at steps
  obtain ⟨hall', moved, rfl⟩ := Option.map_eq_some_iff.mp steps
  rw [Hall.run_eq] at runs
  obtain ⟨last, ran, rfl⟩ := Option.map_eq_some_iff.mp runs
  -- Nobody is about to unregister when the session is resumed.
  have start : Harmless home r session.pairingName token hall'.shared.registry hall'.position := by
    rintro h ⟨other, wait, leaving, named, known⟩
    have stays := (Hall.step_other moved fun choice same => other (Event.handler.inj same).1.symm).1
    rw [stays] at leaving
    have nobody := considerate.1 session next pending rfl h
    rw [← named, ← known] at nobody
    exact (nobody _ other (by rw [Hall.toWorld_task, leaving]; rfl)).elim
  have polite := (Machine.along_of_image Hall.step_eq later).and
    (Machine.along_of_forall fresh hall')
  constructor
  · intro h k w' other leaving taken
    have harmless := Machine.run_invariant
      (fun _ event _ harmless may => Harmless.step harmless event may.1 may.2) start polite ran
    obtain ⟨wait, leaving, named, known⟩ := Position.eq_leaving leaving
    have gone := harmless h ⟨other, wait, leaving, named, known⟩
    simp only [Hall.step_eq, Hall.step, leaving, Position.step, Option.map_some,
      Option.some.injEq] at taken
    subst taken
    rw [named, known]
    simp only [backend, atomically_unregister, Hall.toWorld_shared]
    exact undisturbed_iff_gone.mpr gone
  · intro lasting server draws request named different
    let client := waitingClient (config (home r)) (entropy.draws r) token session.clientInfo
    have kept : ∀ (s : Hall Cluster) event s',
        Harmless home r session.pairingName token s.shared.registry s.position ∧
          InPlace home r session.pairingName client s.shared.registry →
        (Considerate home r session.pairingName token s.toWorld event ∧
            ∀ x, event = .handler x .register → entropy.newV4 x ≠ token) ∧
          Lasting r session.pairingName token s.toWorld event →
        s.step (backend config home entropy) event = some s' →
        Harmless home r session.pairingName token s'.shared.registry s'.position ∧
          InPlace home r session.pairingName client s'.shared.registry :=
      fun s event s' both may taken =>
        ⟨both.1.step event may.1.1 may.1.2 taken, both.2.step_hall both.1 may.2 taken⟩
    have waits := (Machine.run_invariant kept ⟨start, inPlace⟩
      (polite.and (Machine.along_of_image Hall.step_eq lasting)) ran).2
    rw [register_otherwise different, named, Hall.toWorld_shared, pairOrWait_pairs waits.record]
    refine ⟨_, rfl, fun same => ?_⟩
    rw [same, waits.sender]
    rfl

/-- A client waits on server 0 (handler 0) and resumes on server 1 (handler 1). Then the time
    of handler 0 is up, and it unregisters: the record and the token are gone, and the next
    client (handler 2) is told to wait instead of being paired. -/
theorem superseded_connection_cancels_wait :
    let server := backend (fun k => ⟨60 * 10 ^ 9, if k = 0 then "s0" else "s1"⟩) id
      ⟨fun i => ⟨i⟩, fun _ => 0, fun _ => 0⟩
    let peers : Nat → SocketAddr := fun i => .v4 ⟨10, 0, 0, .ofNat i⟩ 4000
    let info : Nat → PeerConnectionData := fun i => ⟨⟨10, 0, 0, .ofNat i⟩, 4000⟩
    let run : List (Event ClusterChange) :=
      [ .handler 0 (.read (.request ⟨"a", none⟩)), .handler 0 .register, .handler 0 (.write (.ok ())),
        .handler 1 (.read (.request ⟨"a", some ⟨0⟩⟩)), .handler 1 .register,
        .handler 1 (.write (.ok ())), .handler 0 .elapsed ]
    let seen : World Cluster → Option RedisValue × Option RedisValue := fun w =>
      (w.shared.registry.record "a", w.shared.registry.token ⟨0⟩)
    (Machine.run (World.step server) (World.start new peers) run).map seen =
        some (some (.json ⟨info 1, ⟨0⟩, "s1", 0⟩), some (.text "a")) ∧
      (Machine.run (World.step server) (World.start new peers)
          (run ++ [.handler 0 .unregister])).map seen = some (none, none) ∧
      (Machine.run (World.step server) (World.start new peers)
          (run ++ [.handler 0 .unregister, .handler 2 (.read (.request ⟨"a", none⟩)),
            .handler 2 .register, .handler 2 (.write (.ok ()))])).map (fun w => w.shared.frames 2) =
        some [ServerResponse.waiting (info 2) ⟨2⟩] := by
  decide +kernel

/-- The keys of a resumed session expire before the time of the earlier connection is up,
    which then finds nothing to end. As long as they are there, also after a cleanup, the next
    client is paired with the resumed one. -/
theorem superseded_unregister_after_expiry :
    let config : Nat → RegistryConfig := fun k => ⟨60 * 10 ^ 9, if k = 0 then "s0" else "s1"⟩
    let entropy : Entropy := ⟨fun i => ⟨i⟩, fun _ => 0, fun _ => 0⟩
    let peers : Nat → SocketAddr := fun i => .v4 ⟨10, 0, 0, .ofNat i⟩ 4000
    let pre : List (Event ClusterChange) :=
      [ .handler 0 (.read (.request ⟨"a", none⟩)), .handler 0 .register, .handler 0 (.write (.ok ())),
        .handler 1 (.read (.request ⟨"a", some ⟨0⟩⟩)) ]
    let expiry : List (Event ClusterChange) :=
      [ .background (.expire (pairingKey "a")), .background (.expire (tokenKey ⟨0⟩)),
        .handler 0 .elapsed ]
    (∃ w w', Machine.run (World.step (backend config id entropy)) (World.start new peers)
          (pre ++ .handler 1 .register :: expiry) = some w ∧
        World.step (backend config id entropy) w (.handler 0 .unregister) = some w' ∧
        Undisturbed id 1 "a" ⟨0⟩ w.shared.registry w'.shared.registry) ∧
      ∃ w, Machine.run (World.step (backend config id entropy)) (World.start new peers)
          (pre ++ [.handler 1 .register, .background (.cleanup 1)]) = some w ∧
        ∃ sent, (atomically 1 (register (config 1) (entropy.draws 2)
            ⟨"a", ⟨⟨10, 0, 0, 2⟩, 4000⟩, none⟩) w.shared.registry).1 =
          .ok ⟨.paired ⟨2⟩ ⟨⟨10, 0, 0, 1⟩, 4000⟩, sent⟩ := by
  intro config entropy peers pre expiry
  have facts : (Machine.run (Hall.step (backend config id entropy)) (Hall.start new peers) pre).map
      (fun hall => (hall.position 0, hall.position 1, hall.shared.registry.token ⟨0⟩)) =
      some (.waiting ⟨⟨⟨10, 0, 0, 0⟩, 4000⟩, "a", ⟨0⟩, 0⟩,
        .registering ⟨"a", ⟨⟨10, 0, 0, 1⟩, 4000⟩, some ⟨0⟩⟩, some (.text "a")) := by
    decide +kernel
  have late : (Machine.run (Hall.step (backend config id entropy)) (Hall.start new peers)
      (pre ++ .handler 1 .register :: expiry)).map (fun hall => hall.position 0) =
      some (.leaving ⟨⟨⟨10, 0, 0, 0⟩, 4000⟩, "a", ⟨0⟩, 0⟩) := by
    decide +kernel
  obtain ⟨hall, reached, found⟩ := Option.map_eq_some_iff.mp facts
  simp only [Prod.mk.injEq] at found
  obtain ⟨waiting, registering, token⟩ := found
  have pending := congrArg Position.program registering
  rw [Position.program, Position.registerAndServe_eq] at pending
  have check : Reconnects hall.shared.registry ⟨"a", ⟨⟨10, 0, 0, 1⟩, 4000⟩, some ⟨0⟩⟩ ⟨0⟩ :=
    ⟨rfl, token⟩
  have resumes : ((backend config id entropy).register 1
      ⟨"a", ⟨⟨10, 0, 0, 1⟩, 4000⟩, some ⟨0⟩⟩ hall.shared.registry).1 = .ok ⟨.resumed ⟨0⟩ 1, []⟩ :=
    congrArg Prod.fst (register_resumes check)
  obtain ⟨last, ran, leaving⟩ := Option.map_eq_some_iff.mp late
  have whole := ran
  rw [Machine.run_append, reached, Option.bind_some] at ran
  obtain ⟨mid, moved, rest⟩ := Option.bind_eq_some_iff.mp ran
  have steps : World.step (backend config id entropy) hall.toWorld (.handler 1 .register) =
      some mid.toWorld := by rw [Hall.step_eq, moved]; rfl
  have start : Machine.run (World.step (backend config id entropy)) (World.start new peers) pre =
      some hall.toWorld := by rw [← Hall.toWorld_start, Hall.run_eq, reached]; rfl
  -- Handler 0 still waits, and all but the first two handlers have not begun.
  have nobody : Considerate id 1 "a" ⟨0⟩ hall.toWorld (.handler 1 .register) := by
    intro request next _ _ h k other unregisters
    obtain ⟨wait, departs, -⟩ := Position.eq_leaving unregisters
    by_cases first : h = 0
    · subst first
      cases waiting.symm.trans departs
    · have stays : hall.position h = (Hall.start new peers).position h := by
        refine Hall.run_other reached fun event member choice same => ?_
        subst same
        simp [pre, first, other] at member
      cases stays.symm.trans departs
  constructor
  · have runs : Machine.run (World.step (backend config id entropy)) mid.toWorld expiry =
        some last.toWorld := by rw [Hall.run_eq, rest]; rfl
    have considerate : Machine.Along (World.step (backend config id entropy))
        (Considerate id 1 "a" ⟨0⟩) hall.toWorld (.handler 1 .register :: expiry) := by
      refine ⟨nobody, fun _ _ => ⟨trivial, fun _ first => ⟨trivial, fun _ second => ⟨?_, ?_⟩⟩⟩⟩
      · cases first
        cases second
        intro wait _ _ _ _
        refine ⟨?_, ?_, .inl (by decide)⟩
        · simp [Cluster.record, backend]
        · simp [Cluster.token, backend]
      · exact fun _ _ => trivial
    have unregisters := congrArg Position.program leaving
    refine ⟨last.toWorld, _, by rw [← Hall.toWorld_start, Hall.run_eq, whole]; rfl,
      by rw [Hall.step_eq, Hall.step, leaving]; rfl, ?_⟩
    exact (superseded_unregister_harmless config id entropy peers pre expiry 1 start pending resumes
      steps (by simp [expiry]) considerate runs).1 0 _ _ (by decide) unregisters
        (by rw [Hall.step_eq, Hall.step, leaving]; rfl)
  · have cleaned : Machine.run (World.step (backend config id entropy)) mid.toWorld
        [.background (.cleanup 1)] = some _ := rfl
    refine ⟨_, by rw [Machine.run_append, start, Option.bind_some, Machine.run, steps,
      Option.bind_some, cleaned], ?_⟩
    obtain ⟨sent, out, -⟩ := (superseded_unregister_harmless config id entropy peers pre
      [.background (.cleanup 1)] 1 start pending resumes steps (by simp)
      ⟨nobody, fun _ _ => ⟨trivial, fun _ _ => trivial⟩⟩ cleaned).2
      ⟨trivial, fun _ _ => trivial⟩ 1 (entropy.draws 2) ⟨"a", ⟨⟨10, 0, 0, 2⟩, 4000⟩, none⟩ rfl
      (fun t shown => by cases shown.1)
    exact ⟨sent, out⟩

end TCPunch.RedisRegistry
