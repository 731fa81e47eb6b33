import Mathlib.Data.Fin.VecNotation
import Mathlib.Data.Fintype.Card
import TCPunch.Registry.Stages
import TCPunch.Registry.Inverse

/-! # When concurrent registrations are linearizable

`register` looks into two maps in up to four separate calls, and another
registration may come between any two of them. Three map calls can then meet a
state that no whole call would meet: an insertion into a slot that was filled in
the meantime, the removal of a token that its owner has not stored yet, and the
removal of the caller's own entry. When no call meets such a state, each
registration takes effect at a single map call: at the successful `get_mut`, at
the `remove` that finds an entry, or at `pairings.insert`.
-/

namespace TCPunch.InMemoryRegistry

/-- A pool of concurrent registrations. -/
abbrev Registrations (k : Nat) :=
  Pool (Fin k) InMemoryRegistry MapCall.Reply (Except RegistryError Registered)

/-- Concurrent registrations; the channel of each is named after it. -/
def registrations (config : RegistryConfig) {k : Nat} (calls : Fin k → Registration) (i : Fin k) :
    Method (Except RegistryError Registered) :=
  register config ((calls i).draws i) (calls i).request

/-- The next map call of task `i` meets a state that a whole call could meet. -/
def undisturbed {k : Nat} (calls : Fin k → Registration) (pool : Registrations k) (i : Fin k) :
    Bool :=
  match pool.task i with
  | .call (.pairingsInsert name _) _ => (pool.shared.pairings.lookup name).isNone
  | .call (.tokensRemove token) _ => (pool.shared.tokens.lookup token).isSome
  | .call (.pairingsRemove name) _ =>
      (pool.shared.pairings.lookup name).all fun entry =>
        decide ((calls i).request.reconnectToken ≠ some entry.token)
  | _ => true

/-! ## The simulation -/

/-- The result of a registration that has taken effect. -/
def Stage.settled (draws : Draws) (request : Request) :
    Stage → Option (Except RegistryError Registered)
  | .forget entry => some (pairedWith draws request.clientInfo entry)
  | .announce => some (firstWait draws)
  | .returned result => some result
  | _ => none

/-- Some registration is about to store `t` for `n`. -/
def Announces {k : Nat} (calls : Fin k → Registration) (stage : Fin k → Stage) (t : Uuid)
    (n : String) : Prop :=
  ∃ i, stage i = .announce ∧ (calls i).newV4 = t ∧ (calls i).request.pairingName = n

/-- Some registration is about to remove `t`. -/
def Forgets {k : Nat} (stage : Fin k → Stage) (t : Uuid) : Prop :=
  ∃ i entry, stage i = .forget entry ∧ entry.token = t

/-- A pool follows an atomic registry: the entries agree, and the tokens agree up to
    the insertions and removals still to be made. -/
structure Follows (config : RegistryConfig) {k : Nat} (calls : Fin k → Registration)
    (start : InMemoryRegistry) (log : List (Fin k × Except RegistryError Registered))
    (abstract : InMemoryRegistry) (pool : Registrations k) (stage : Fin k → Stage) : Prop where
  tasks : ∀ i, pool.task i = (stage i).program config ((calls i).draws i) (calls i).request
  shows : ∀ i t, stage i = .lookup t ∨ stage i = .takeOver t →
    (calls i).request.reconnectToken = some t
  settled : ∀ i r, (i, r) ∈ log ↔
    (stage i).settled ((calls i).draws i) (calls i).request = some r
  pairings : pool.shared.pairings = abstract.pairings
  tokens : ∀ t n, abstract.tokens.lookup t = some n ↔
    (pool.shared.tokens.lookup t = some n ∨ Announces calls stage t n) ∧ ¬ Forgets stage t
  linked : abstract.Linked
  inverse : start.Inverse →
    FiniteMap.Indexes PairingEntry.token abstract.pairings abstract.tokens
  drawn : ∀ i, pool.shared.tokens.lookup (calls i).newV4 ≠ none ∨ Forgets stage (calls i).newV4 →
    (stage i).settled ((calls i).draws i) (calls i).request ≠ none
  pending : ∀ i, stage i = .announce → pool.shared.tokens.lookup (calls i).newV4 = none

variable {config : RegistryConfig} {k : Nat} {calls : Fin k → Registration}
  {start : InMemoryRegistry} {log : List (Fin k × Except RegistryError Registered)}
  {abstract : InMemoryRegistry} {pool : Registrations k} {stage : Fin k → Stage}

theorem Follows.unused (h : Follows config calls start log abstract pool stage)
    (distinct : Function.Injective fun i => (calls i).newV4) {i}
    (open_ : (stage i).settled ((calls i).draws i) (calls i).request = none) :
    abstract.tokens.lookup (calls i).newV4 = none := by
  by_contra known
  obtain ⟨n, known⟩ := Option.ne_none_iff_exists'.mp known
  rcases ((h.tokens _ n).mp known).1 with stored | ⟨j, here, same, -⟩
  · exact h.drawn i (.inl (by simp [stored])) open_
  · obtain rfl := distinct same
    simp [here, Stage.settled] at open_

theorem Follows.advances (h : Follows config calls start log abstract pool stage) {i next after}
    (moves : (stage i).step config ((calls i).draws i) (calls i).request pool.shared =
      (next, after)) :
    (∀ j, (pool.advance answer i).task j = (Function.update stage i next j).program config
      ((calls j).draws j) (calls j).request) ∧ (pool.advance answer i).shared = after := by
  have moved := Stage.advance_step (h.tasks i)
  rw [moves] at moved
  refine ⟨fun j => ?_, moved.1⟩
  by_cases same : j = i
  · subst same; rw [Function.update_self, moved.2]
  · rw [Function.update_of_ne same, Pool.advance_task_other same, h.tasks j]

theorem Follows.shows_update (h : Follows config calls start log abstract pool stage) {i next}
    (shows : ∀ t, next = .lookup t ∨ next = .takeOver t →
      (calls i).request.reconnectToken = some t) :
    ∀ j t, Function.update stage i next j = .lookup t ∨
      Function.update stage i next j = .takeOver t → (calls j).request.reconnectToken = some t := by
  intro j t
  rw [Function.update_apply]
  split
  · rename_i same; subst same; exact shows t
  · exact h.shows j t

theorem Follows.settled_snoc (h : Follows config calls start log abstract pool stage) {i next r}
    (before : (stage i).settled ((calls i).draws i) (calls i).request = none)
    (after : next.settled ((calls i).draws i) (calls i).request = some r) :
    ∀ j r', (j, r') ∈ log ++ [(i, r)] ↔
      (Function.update stage i next j).settled ((calls j).draws j) (calls j).request = some r' := by
  intro j r'
  rw [List.mem_append, h.settled, List.mem_singleton, Prod.mk.injEq, Function.update_apply]
  split
  · rename_i same; subst same; simp [before, after, eq_comm]
  · rename_i other; simp [other]

/-! What a task is about to store or remove changes with its stage only. -/

theorem announces_update {i next} (before : stage i ≠ .announce) (after : next ≠ .announce) :
    Announces calls (Function.update stage i next) = Announces calls stage := by
  funext t n
  apply propext
  simp only [Announces, Function.update_apply]
  grind

theorem forgets_update {i next} (before : ∀ entry, stage i ≠ .forget entry)
    (after : ∀ entry, next ≠ .forget entry) :
    Forgets (Function.update stage i next) = Forgets stage := by
  funext t
  apply propext
  simp only [Forgets, Function.update_apply]
  grind

theorem Follows.settled_update (h : Follows config calls start log abstract pool stage) {i next}
    (same : next.settled ((calls i).draws i) (calls i).request =
      (stage i).settled ((calls i).draws i) (calls i).request) :
    ∀ j r, (j, r) ∈ log ↔
      (Function.update stage i next j).settled ((calls j).draws j) (calls j).request = some r := by
  intro j r
  rw [h.settled, Function.update_apply]
  split
  · rename_i here; subst here; rw [same]
  · rfl

theorem Follows.pending_update (h : Follows config calls start log abstract pool stage) {i next}
    {tokens : FiniteMap Uuid String}
    (own : next = .announce → tokens.lookup (calls i).newV4 = none)
    (others : ∀ j, j ≠ i → pool.shared.tokens.lookup (calls j).newV4 = none →
      tokens.lookup (calls j).newV4 = none) :
    ∀ j, Function.update stage i next j = .announce → tokens.lookup (calls j).newV4 = none := by
  intro j
  rw [Function.update_apply]
  split
  · rename_i same; subst same; exact own
  · rename_i other; exact fun there => others j other (h.pending j there)

theorem Follows.first (h : Follows config calls start log abstract pool stage) {i}
    (before : (stage i).settled ((calls i).draws i) (calls i).request = none) :
    i ∉ log.map Prod.fst := by
  intro member
  obtain ⟨⟨j, r⟩, logged, rfl⟩ := List.mem_map.mp member
  have settled := (h.settled j r).mp logged
  simp [before] at settled

theorem Follows.silent (h : Follows config calls start log abstract pool stage) {i here}
    (stands : stage i = here) (next : Stage)
    (moves : here.step config ((calls i).draws i) (calls i).request pool.shared =
      (next, pool.shared))
    (before : here.settled ((calls i).draws i) (calls i).request = none)
    (after : next.settled ((calls i).draws i) (calls i).request = none)
    (shows : ∀ t, next = .lookup t ∨ next = .takeOver t →
      (calls i).request.reconnectToken = some t) :
    Follows config calls start log abstract (pool.advance answer i)
      (Function.update stage i next) := by
  subst stands
  obtain ⟨tasks, shared⟩ := h.advances moves
  have announces : Announces calls (Function.update stage i next) = Announces calls stage :=
    announces_update (fun same => by simp [same, Stage.settled] at before)
      (fun same => by simp [same, Stage.settled] at after)
  have forgets : Forgets (Function.update stage i next) = Forgets stage :=
    forgets_update (fun entry same => by simp [same, Stage.settled] at before)
      (fun entry same => by simp [same, Stage.settled] at after)
  exact {
    tasks
    shows := h.shows_update shows
    settled := h.settled_update (after.trans before.symm)
    pairings := by rw [shared]; exact h.pairings
    tokens := by rw [shared, announces, forgets]; exact h.tokens
    linked := h.linked
    inverse := h.inverse
    drawn := by
      intro j known
      rw [shared, forgets] at known
      have old := h.drawn j known
      rw [Function.update_apply]
      split
      · rename_i same; subst same; exact absurd before old
      · exact old
    pending := by
      rw [shared]
      refine h.pending_update (fun same => ?_) fun _ _ absent => absent
      simp [same, Stage.settled] at after }

theorem Follows.resumes (h : Follows config calls start log abstract pool stage) {i t entry}
    (here : stage i = .takeOver t)
    (live : abstract.pairings.lookup (calls i).request.pairingName = some entry)
    (own : entry.token = t) :
    Follows config calls start
      (log ++ [(i, ((registrations config calls i).run answer abstract).1)])
      ((registrations config calls i).run answer abstract).2 (pool.advance answer i)
      (Function.update stage i (.returned (Stage.resumedWait ((calls i).draws i) t))) := by
  subst own
  have found : pool.shared.pairings.lookup (calls i).request.pairingName = some entry := by
    rw [h.pairings, live]
  obtain ⟨tasks, shared⟩ := h.advances (i := i) rfl
  simp only [here, found, if_true] at tasks shared
  have shown := h.shows i _ (.inr here)
  rw [registrations, register_resumes live ((h.linked.reconnects_iff live).mpr shown)]
  have announces : Announces calls (Function.update stage i
      (.returned (Stage.resumedWait ((calls i).draws i) entry.token))) = Announces calls stage :=
    announces_update (by simp [here]) (by simp)
  have forgets : Forgets (Function.update stage i
      (.returned (Stage.resumedWait ((calls i).draws i) entry.token))) = Forgets stage :=
    forgets_update (by simp [here]) (by simp)
  exact {
    tasks
    shows := h.shows_update (by simp)
    settled := h.settled_snoc (by simp [here, Stage.settled]) rfl
    pairings := by rw [shared, h.pairings]
    tokens := by rw [shared, announces, forgets]; exact h.tokens
    linked := h.linked.insert_moved live
    inverse := fun inverse => (h.inverse inverse).replace live rfl
    drawn := by
      intro j known
      rw [shared, forgets] at known
      have old := h.drawn j known
      rw [Function.update_apply]
      split
      · simp [Stage.settled]
      · exact old
    pending := by
      rw [shared]
      exact h.pending_update (by simp) fun _ _ absent => absent }

/-- Removing somebody's entry is the effect of a pairing registration; the entry's token
    is still to be removed. -/
theorem Follows.pairs (h : Follows config calls start log abstract pool stage)
    (distinct : Function.Injective fun i => (calls i).newV4) {i entry}
    (here : stage i = .claim)
    (live : abstract.pairings.lookup (calls i).request.pairingName = some entry)
    (foreign : (calls i).request.reconnectToken ≠ some entry.token) :
    Follows config calls start
      (log ++ [(i, ((registrations config calls i).run answer abstract).1)])
      ((registrations config calls i).run answer abstract).2 (pool.advance answer i)
      (Function.update stage i (.forget entry)) := by
  have found : pool.shared.pairings.lookup (calls i).request.pairingName = some entry := by
    rw [h.pairings, live]
  obtain ⟨tasks, shared⟩ := h.advances (i := i) rfl
  simp only [here, found] at tasks shared
  rw [registrations, register_pairs live fun check => foreign check.1]
  have known := h.linked.token _ _ live
  have announces : Announces calls (Function.update stage i (.forget entry)) =
      Announces calls stage :=
    announces_update (by simp [here]) (by simp)
  have forgets : ∀ t, Forgets (Function.update stage i (.forget entry)) t ↔
      Forgets stage t ∨ entry.token = t := by
    intro t
    simp only [Forgets, Function.update_apply]
    grind
  exact {
    tasks
    shows := h.shows_update (by simp)
    settled := h.settled_snoc (by simp [here, Stage.settled]) rfl
    pairings := by rw [shared, ← h.pairings]
    tokens := by
      intro t n
      have old := h.tokens t n
      rw [shared, announces, forgets, FiniteMap.lookup_erase_if]
      grind
    linked := h.linked.erase_pair live
    inverse := fun inverse => (h.inverse inverse).erase live
    drawn := by
      intro j known'
      rw [shared, forgets] at known'
      rw [Function.update_apply]
      split
      · simp [Stage.settled]
      · rcases known' with stored | forgotten | same
        · exact h.drawn j (.inl stored)
        · exact h.drawn j (.inr forgotten)
        · -- The entry's token is known, so whoever drew it has taken effect.
          intro none
          have unused := h.unused distinct none
          rw [← same, known] at unused
          simp at unused
    pending := by
      rw [shared]
      exact h.pending_update (by simp) fun _ _ absent => absent }

/-- Entering an empty slot is the effect of a first registration; its token is still to
    be stored. -/
theorem Follows.waits (h : Follows config calls start log abstract pool stage)
    (distinct : Function.Injective fun i => (calls i).newV4) {i}
    (here : stage i = .enter)
    (vacant : abstract.pairings.lookup (calls i).request.pairingName = none) :
    Follows config calls start
      (log ++ [(i, ((registrations config calls i).run answer abstract).1)])
      ((registrations config calls i).run answer abstract).2 (pool.advance answer i)
      (Function.update stage i .announce) := by
  obtain ⟨tasks, shared⟩ := h.advances (i := i) rfl
  simp only [here] at tasks shared
  rw [registrations, register_waits vacant]
  have before : (stage i).settled ((calls i).draws i) (calls i).request = none := by
    simp [here, Stage.settled]
  have unused := h.unused distinct before
  have unseen : ¬ (pool.shared.tokens.lookup (calls i).newV4 ≠ none ∨
      Forgets stage (calls i).newV4) := fun known => h.drawn i known before
  have announces : ∀ t n, Announces calls (Function.update stage i .announce) t n ↔
      Announces calls stage t n ∨
        (calls i).newV4 = t ∧ (calls i).request.pairingName = n := by
    intro t n
    simp only [Announces, Function.update_apply]
    grind
  have forgets : Forgets (Function.update stage i .announce) = Forgets stage :=
    forgets_update (by simp [here]) (by simp)
  exact {
    tasks
    shows := h.shows_update (by simp)
    settled := h.settled_snoc before rfl
    pairings := by rw [shared, ← h.pairings]
    tokens := by
      intro t n
      have old := h.tokens t n
      rw [shared, announces, forgets, FiniteMap.lookup_insert_if, Registration.draws_newV4]
      grind
    linked := h.linked.insert_fresh unused
    inverse := fun inverse => (h.inverse inverse).insert vacant unused
    drawn := by
      intro j known
      rw [shared, forgets] at known
      rw [Function.update_apply]
      split
      · simp [Stage.settled]
      · exact h.drawn j known
    pending := by
      rw [shared]
      exact h.pending_update (fun _ => not_not.mp (not_or.mp unseen).1) fun _ _ absent => absent }

/-- The removal of a pending token is silent, because its owner has stored it. -/
theorem Follows.forgot (h : Follows config calls start log abstract pool stage) {i entry}
    (here : stage i = .forget entry) (stored : pool.shared.tokens.lookup entry.token ≠ none) :
    Follows config calls start log abstract (pool.advance answer i)
      (Function.update stage i
        (.returned (Stage.pairedWith ((calls i).draws i) (calls i).request.clientInfo entry))) := by
  obtain ⟨tasks, shared⟩ := h.advances (i := i) rfl
  simp only [here] at tasks shared
  have announces : Announces calls (Function.update stage i (.returned
      (Stage.pairedWith ((calls i).draws i) (calls i).request.clientInfo entry))) =
        Announces calls stage :=
    announces_update (by simp [here]) (by simp)
  have forgets : ∀ t, t ≠ entry.token → (Forgets (Function.update stage i (.returned
      (Stage.pairedWith ((calls i).draws i) (calls i).request.clientInfo entry))) t ↔
        Forgets stage t) := by
    intro t other
    simp only [Forgets, Function.update_apply]
    grind
  have fewer : ∀ t, Forgets (Function.update stage i (.returned
      (Stage.pairedWith ((calls i).draws i) (calls i).request.clientInfo entry))) t →
        Forgets stage t := by
    intro t
    simp only [Forgets, Function.update_apply]
    grind
  exact {
    tasks
    shows := h.shows_update (by simp)
    settled := h.settled_update (by simp [here, Stage.settled])
    pairings := by rw [shared]; exact h.pairings
    tokens := by
      intro t n
      rw [shared, announces, FiniteMap.lookup_erase_if]
      by_cases same : t = entry.token
      · -- Nobody is about to store this token, since it has been stored.
        have gone : abstract.tokens.lookup t ≠ some n := fun known =>
          ((h.tokens t n).mp known).2 ⟨i, entry, here, same.symm⟩
        have stale : ¬ Announces calls stage t n := by
          rintro ⟨j, there, drew, -⟩
          exact stored (by rw [← same, ← drew]; exact h.pending j there)
        refine iff_of_false gone ?_
        rintro ⟨known | announced, -⟩
        · simp [same] at known
        · exact stale announced
      · rw [forgets t same, if_neg same]
        exact h.tokens t n
    linked := h.linked
    inverse := h.inverse
    drawn := by
      intro j known
      rw [shared, FiniteMap.lookup_erase_if] at known
      rw [Function.update_apply]
      split
      · simp [Stage.settled]
      · refine h.drawn j (known.imp ?_ (fewer _))
        split
        · simp
        · exact id
    pending := by
      rw [shared]
      refine h.pending_update (by simp) fun j _ absent => ?_
      simp [FiniteMap.lookup_erase_if, absent] }

theorem Follows.announced (h : Follows config calls start log abstract pool stage)
    (distinct : Function.Injective fun i => (calls i).newV4) {i} (here : stage i = .announce) :
    Follows config calls start log abstract (pool.advance answer i)
      (Function.update stage i (.returned (Stage.firstWait ((calls i).draws i)))) := by
  obtain ⟨tasks, shared⟩ := h.advances (i := i) rfl
  simp only [here] at tasks shared
  have absent := h.pending i here
  have apart : ∀ j, j ≠ i → (calls j).newV4 ≠ (calls i).newV4 :=
    fun j other same => other (distinct same)
  have announces : ∀ t n, Announces calls stage t n ↔
      Announces calls (Function.update stage i
        (.returned (Stage.firstWait ((calls i).draws i)))) t n ∨
          (calls i).newV4 = t ∧ (calls i).request.pairingName = n := by
    intro t n
    simp only [Announces, Function.update_apply]
    grind
  have others : ∀ n, ¬ Announces calls (Function.update stage i
      (.returned (Stage.firstWait ((calls i).draws i)))) (calls i).newV4 n := by
    rintro n ⟨j, there, same, -⟩
    obtain rfl := distinct same
    simp at there
  have forgets : Forgets (Function.update stage i
      (.returned (Stage.firstWait ((calls i).draws i)))) = Forgets stage :=
    forgets_update (by simp [here]) (by simp)
  exact {
    tasks
    shows := h.shows_update (by simp)
    settled := h.settled_update (by simp [here, Stage.settled])
    pairings := by rw [shared]; exact h.pairings
    tokens := by
      intro t n
      rw [h.tokens, announces, forgets, shared, FiniteMap.lookup_insert_if]
      by_cases same : t = (calls i).newV4
      · subst same; simp [absent, others]
      · simp [same, Ne.symm same]
    linked := h.linked
    inverse := h.inverse
    drawn := by
      intro j known
      rw [shared, forgets, FiniteMap.lookup_insert_if] at known
      rw [Function.update_apply]
      split
      · simp [Stage.settled]
      · rename_i other
        rw [Registration.draws_newV4, if_neg (apart j other)] at known
        exact h.drawn j known
    pending := by
      rw [shared]
      refine h.pending_update (by simp) fun j other absent => ?_
      rw [FiniteMap.lookup_insert_if]
      exact (if_neg (apart j other)).trans absent }

/-! ## Whole schedules -/

theorem Follows.initial (config : RegistryConfig) (linked : start.Linked)
    (unused : ∀ i, start.tokens.lookup (calls i).newV4 = none) :
    Follows config calls start [] start (Pool.start start (registrations config calls))
      (fun i => Stage.first (calls i).request) where
  tasks := fun i => Stage.program_first.symm
  shows := by
    intro i t first
    simp only [Stage.first] at first
    cases shown : (calls i).request.reconnectToken with
    | none => simp [shown] at first
    | some token => simpa [shown] using first
  settled := by
    intro i r
    cases shown : (calls i).request.reconnectToken <;> simp [Stage.first, shown, Stage.settled]
  pairings := rfl
  tokens := by
    intro t n
    have silent : ¬ Announces calls (fun i => Stage.first (calls i).request) t n ∧
        ¬ Forgets (fun i => Stage.first (calls i).request) t := by
      constructor <;> rintro ⟨i, rest⟩ <;>
        cases shown : (calls i).request.reconnectToken <;> simp [Stage.first, shown] at rest
    simp [silent, Pool.start]
  linked := linked
  inverse := fun inverse => inverse.1
  drawn := by
    rintro i (known | ⟨j, rest⟩)
    · exact absurd (unused i) known
    · cases shown : (calls j).request.reconnectToken <;> simp [Stage.first, shown] at rest
  pending := fun i _ => unused i

/-- Every undisturbed answer is silent or lets its registration take effect. -/
theorem Follows.step (h : Follows config calls start log abstract pool stage)
    (distinct : Function.Injective fun i => (calls i).newV4) {i}
    (may : undisturbed calls pool i = true) :
    (∃ stage, Follows config calls start log abstract (pool.advance answer i) stage) ∨
      i ∉ log.map Prod.fst ∧ ∃ stage, Follows config calls start
        (log ++ [(i, ((registrations config calls i).run answer abstract).1)])
        ((registrations config calls i).run answer abstract).2 (pool.advance answer i) stage := by
  have task := h.tasks i
  simp only [undisturbed, task] at may
  have first := h.first (i := i)
  generalize here : stage i = current at task may first
  cases current with
  | returned r =>
      rw [Pool.advance_done task]
      exact .inl ⟨stage, h⟩
  | lookup t =>
      left
      by_cases known : pool.shared.tokens.lookup t = some (calls i).request.pairingName
      · exact ⟨_, h.silent here (.takeOver t) (by simp only [Stage.step, known, if_true]) rfl rfl
          (by simpa using h.shows i t (.inl here))⟩
      · exact ⟨_, h.silent here .claim (by simp only [Stage.step, known, if_false]) rfl rfl
          (by simp)⟩
  | takeOver t =>
      cases live : abstract.pairings.lookup (calls i).request.pairingName with
      | none =>
          exact .inl ⟨_, h.silent here .claim (by simp only [Stage.step, h.pairings, live]) rfl rfl
            (by simp)⟩
      | some entry =>
          by_cases own : entry.token = t
          · exact .inr ⟨first rfl, _, h.resumes here live own⟩
          · exact .inl ⟨_, h.silent here .claim
              (by simp only [Stage.step, h.pairings, live, own, if_false]) rfl rfl (by simp)⟩
  | claim =>
      cases live : abstract.pairings.lookup (calls i).request.pairingName with
      | none =>
          exact .inl ⟨_, h.silent here .enter (by simp only [Stage.step, h.pairings, live]) rfl rfl
            (by simp)⟩
      | some entry =>
          refine .inr ⟨first rfl, _, h.pairs distinct here live ?_⟩
          simpa [Stage.program, pairOrWait, pairingsRemove, h.pairings, live] using may
  | forget entry =>
      refine .inl ⟨_, h.forgot here ?_⟩
      simpa [Stage.program, tokensRemove, ← Option.isSome_iff_ne_none] using may
  | enter =>
      refine .inr ⟨first rfl, _, h.waits distinct here ?_⟩
      simpa [Stage.program, pairingsInsert, h.pairings] using may
  | announce => exact .inl ⟨_, h.announced distinct here⟩

theorem Follows.final (h : Follows config calls start log abstract pool stage)
    (finished : pool.Finished) :
    abstract = pool.shared ∧ ∀ i r, (i, r) ∈ log ↔ (pool.task i).result = some r := by
  have returned : ∀ i, ∃ r, stage i = .returned r := by
    intro i
    have some := finished i
    rw [h.tasks i] at some
    cases here : stage i with
    | returned r => exact ⟨r, rfl⟩
    | lookup | takeOver | claim | forget | enter | announce =>
        rw [here] at some
        simp [Stage.program, register, pairOrWait, tokensGet, pairingsGetMut, pairingsRemove,
          tokensRemove, pairingsInsert, tokensInsert, Program.result] at some
  have silent : ∀ t n, ¬ Announces calls stage t n ∧ ¬ Forgets stage t := by
    intro t n
    constructor <;> rintro ⟨i, rest⟩ <;> obtain ⟨r, here⟩ := returned i <;> simp [here] at rest
  refine ⟨?_, fun i r => ?_⟩
  · have tokens : abstract.tokens = pool.shared.tokens := by
      apply Finmap.ext_lookup
      intro t
      apply Option.ext
      intro n
      simp [h.tokens, silent t n]
    rw [InMemoryRegistry.mk.injEq]
    exact ⟨h.pairings.symm, tokens⟩
  · obtain ⟨r', here⟩ := returned i
    rw [h.settled, h.tasks i, here]
    rfl

/-- Concurrent registrations whose map calls all meet a state that a whole call could
    meet end as in some serial order, and leave no token without an entry. -/
theorem register_linearizable (config : RegistryConfig) (calls : Fin k → Registration)
    (start : InMemoryRegistry) (linked : start.Linked)
    (distinct : Function.Injective fun i => (calls i).newV4)
    (unused : ∀ i, start.tokens.lookup (calls i).newV4 = none) (schedule : List (Fin k))
    (along : Pool.Along answer (fun pool i => undisturbed calls pool i = true)
      (Pool.start start (registrations config calls)) schedule)
    (finished : ((Pool.start start (registrations config calls)).follow answer schedule).Finished) :
    Pool.Linearizable answer (registrations config calls) start
        ((Pool.start start (registrations config calls)).follow answer schedule) ∧
      (start.Inverse →
        ((Pool.start start (registrations config calls)).follow answer schedule).shared.Inverse) := by
  have step : ∀ log abstract pool i,
      (∃ stage, Follows config calls start log abstract pool stage) →
        undisturbed calls pool i = true → _ :=
    fun log abstract pool i ⟨stage, h⟩ may => h.step distinct may
  obtain ⟨log, abstract, ⟨stage, follows⟩, committed⟩ :=
    Pool.follow_simulation ⟨_, Follows.initial config linked unused⟩ step schedule along
  obtain ⟨rfl, results⟩ := follows.final finished
  exact ⟨committed.linearizable finished results,
    fun inverse => inverse_iff_indexes.mpr (follows.inverse inverse)⟩

/-- Two clients that both come first under one name. -/
def twoClients : Fin 2 → Registration :=
  ![⟨⟨"a", ⟨⟨10, 0, 0, 1⟩, 4001⟩, none⟩, ⟨1⟩, 0, 0⟩,
    ⟨⟨"a", ⟨⟨10, 0, 0, 2⟩, 4002⟩, none⟩, ⟨2⟩, 0, 0⟩]

/-- Both clients find the slot empty before either has filled it. Both are told to wait,
    one entry replaces the other, and a token is left without an entry. -/
theorem two_first_clients_both_wait :
    let final := (Pool.start new (registrations ⟨60, "s"⟩ twoClients)).follow answer
      [0, 1, 0, 0, 1, 1]
    final.Finished ∧
      (final.task 0).result = some (.ok ⟨.waiting ⟨1⟩ 0, []⟩) ∧
      (final.task 1).result = some (.ok ⟨.waiting ⟨2⟩ 1, []⟩) ∧
      ¬ Pool.Linearizable answer (registrations ⟨60, "s"⟩ twoClients) new final ∧
      final.shared.tokens.lookup ⟨1⟩ = some "a" ∧
      (final.shared.pairings.lookup "a").map PairingEntry.token = some ⟨2⟩ := by
  refine ⟨by decide, rfl, rfl, ?_, by decide, by decide⟩
  rintro ⟨order, nodup, all, state, -⟩
  -- In either serial order the second client is paired and nobody is left waiting.
  have serial : ∀ i j : Fin 2, [i, j].Nodup →
      (Pool.serial answer (registrations ⟨60, "s"⟩ twoClients) [i, j] new).2 = new := by decide
  match order, nodup.length_le_card with
  | [], _ => simp at all
  | [i], _ =>
      have both : (0 : Fin 2) = 1 :=
        (List.mem_singleton.mp (all 0)).trans (List.mem_singleton.mp (all 1)).symm
      exact absurd both (by decide)
  | [i, j], _ => exact absurd ((serial i j nodup).symm.trans state) (by decide)
  | i :: j :: l :: rest, short => simp at short

/-- The second call takes the first entry out before the first call has stored its token. -/
theorem register_linearizable_one_in_another :
    Pool.Linearizable answer (registrations ⟨60, "s"⟩ twoClients) new
        ((Pool.start new (registrations ⟨60, "s"⟩ twoClients)).follow answer [0, 0, 1, 0, 1]) ∧
      (new.Inverse → ((Pool.start new (registrations ⟨60, "s"⟩ twoClients)).follow answer
        [0, 0, 1, 0, 1]).shared.Inverse) :=
  register_linearizable _ twoClients new linked_new (by decide) (by decide) _ (by decide)
    (by decide)

end TCPunch.InMemoryRegistry
