import Mathlib.Data.Fin.VecNotation
import TCPunch.Lib.Acyclic
import TCPunch.Registry.Locks

/-! # When the locks cannot form a cycle

Only two kinds of task wait while they hold a lock: a reconnecting client, which
keeps a shard of `tokens` and wants one of `pairings`, and a cleanup at an expired
entry, which keeps a shard of `pairings` and wants one of `tokens`. A cycle leads
from one such client over a cleanup to the next client. The graph of these double
steps stays acyclic when no client starts to wait for a shard whose cleanup is
about to need a guarded shard of `tokens`, and no cleanup takes a shard that a client
waits for while an expired entry there leads to a guarded shard.
-/

namespace TCPunch.InMemoryRegistry

open Relation

namespace Task

variable (config : RegistryConfig) (sharding : Sharding)

/-- The shard of `pairings` that a reconnecting client is bound for. -/
def bound : Task sharding.count → Option (Fin sharding.count)
  | .register call (.takeOver _) => some (sharding.name call.request.pairingName)
  | _ => none

/-- The shard of `tokens` that a reconnecting client guards. -/
def guards : Task sharding.count → Option (Fin sharding.count)
  | .register _ (.takeOver token) => some (sharding.token token)
  | _ => none

/-- The shard of `pairings` that a cleanup has taken. -/
def sweeps : Task sharding.count → Option (Fin sharding.count)
  | .cleanupExpired _ (.sweeping shard _ _) => some shard
  | .cleanupExpired _ (.dropping shard _ _ _ _) => some shard
  | _ => none

/-- The entry under `name` is expired and its token is in the shard. -/
def owes (maps : InMemoryRegistry) (now : Instant) (shard : Fin sharding.count)
    (name : String) : Bool :=
  (maps.pairings.lookup name).any fun entry =>
    expired config now entry && decide (sharding.token entry.token = shard)

/-- The cleanup still has an entry to drop whose token is in the shard. -/
def due (maps : InMemoryRegistry) (shard : Fin sharding.count) : Task sharding.count → Bool
  | .cleanupExpired now (.sweeping _ left _) =>
      decide (∃ name ∈ left, owes config sharding maps now shard name = true)
  | .cleanupExpired now (.dropping _ left _ _ entry) =>
      decide (sharding.token entry.token = shard ∨
        ∃ name ∈ left, owes config sharding maps now shard name = true)
  | _ => false

/-- The names of the entries a cleanup still deals with. -/
def names : Task sharding.count → Finset String
  | .cleanupExpired _ (.sweeping _ left _) => left
  | .cleanupExpired _ (.dropping _ left _ name _) => insert name left
  | _ => ∅

end Task

namespace Locked

variable (config : RegistryConfig) (sharding : Sharding) {k : Nat}

/-- The condition on a step: a client that has found its name in `tokens` does not turn
    to a shard of `pairings` whose cleanup will need a guarded shard of `tokens`, its
    own included; and a cleanup that takes a shard some client is bound for finds no
    expired entry there whose token is in a guarded shard. -/
def careful (s : Locked sharding.count k) : LockAction k → Bool
  | .finish i =>
      match s.task i with
      | .register call (.lookup token) =>
          decide (s.maps.tokens.lookup token = some call.request.pairingName →
            ∀ j, (s.task j).sweeps sharding = some (sharding.name call.request.pairingName) →
              ∀ shard, (s.task j).due config sharding s.maps shard = true →
                shard ≠ sharding.token token ∧ ∀ r, (s.task r).guards sharding ≠ some shard)
      | .cleanupExpired now (.locking (shard :: _)) =>
          decide ((∃ r, (s.task r).bound sharding = some shard) →
            ∀ name ∈ s.maps.pairings.keys, sharding.name name = shard →
              ∀ r guarded, (s.task r).guards sharding = some guarded →
                Task.owes config sharding s.maps now guarded name = false)
      | _ => true
  | _ => true

/-- A client waits for a shard whose cleanup will wait for another client. -/
def Toward (s : Locked sharding.count k) (r r' : Fin k) : Prop :=
  ∃ j p shard, (s.task r).bound sharding = some p ∧ (s.task r').guards sharding = some shard ∧
    (s.task j).sweeps sharding = some p ∧ (s.task j).due config sharding s.maps shard = true

/-- What every careful run keeps. -/
structure Orderly (s : Locked sharding.count k) : Prop where
  exclusive : ∀ i j, i ≠ j → ∀ a ∈ held sharding s i, ∀ b ∈ held sharding s j, ¬ Clash a b
  inShard : ∀ i p, (s.task i).sweeps sharding = some p →
    ∀ name ∈ (s.task i).names sharding, sharding.name name = p
  acyclic : Acyclic (Toward config sharding s)

variable {config sharding} {s s' : Locked sharding.count k}

/-! ## Orderly states have no lock cycle -/

/-- A task that waits and is waited for is a client with a guard or a cleanup at an
    expired entry. -/
theorem waits_in_middle {i} (entered : ∃ p, Waits sharding s p i) (left : ∃ q, Waits sharding s i q) :
    (∃ call token, s.task i = .register call (.takeOver token)) ∨
      ∃ now shard left todo name entry,
        s.task i = .cleanupExpired now (.dropping shard left todo name entry) := by
  obtain ⟨p, -, want, -, hold, member, -⟩ := entered
  obtain ⟨q, outside, want', wanted, -⟩ := left
  simp only [held, outside, Bool.false_eq_true, if_false, List.append_nil, Option.mem_toList]
    at member
  cases here : s.task i with
  | register call stage =>
      cases stage <;> simp [here, Task.keeps] at member
      exact .inl ⟨_, _, rfl⟩
  | unregister name token stage => simp [here, Task.keeps] at member
  | cleanupExpired now stage =>
      cases stage with
      | locking => simp [here, Task.keeps] at member
      | sweeping => simp [here, Task.wants] at wanted
      | dropping => exact .inr ⟨_, _, _, _, _, _, rfl⟩

/-- An arrow of a cycle leads from a client to a cleanup in its shard of `pairings`, or
    from a cleanup to a client that guards the shard of the token to be removed. -/
theorem waits_inner (config : RegistryConfig) {i j} (edge : Inner (Waits sharding s) i j) :
    (∃ p shard, (s.task i).bound sharding = some p ∧ (s.task j).sweeps sharding = some p ∧
        (s.task j).bound sharding = none ∧ (s.task j).wants sharding = some (.tokens shard, .write) ∧
        (s.task j).due config sharding s.maps shard = true) ∨
      ∃ shard p, (s.task i).bound sharding = none ∧
        (s.task i).wants sharding = some (.tokens shard, .write) ∧
        (s.task j).guards sharding = some shard ∧ (s.task j).bound sharding = some p := by
  obtain ⟨waits, entered, left⟩ := edge
  have before := waits_in_middle entered ⟨j, waits⟩
  have after := waits_in_middle ⟨i, waits⟩ left
  obtain ⟨-, outside, -⟩ := left
  obtain ⟨-, want, wanted, hold, member, clash⟩ := waits
  simp only [held, outside, Bool.false_eq_true, if_false, List.append_nil, Option.mem_toList]
    at member
  rcases before with ⟨call, token, here⟩ | ⟨now, shard, left, todo, name, entry, here⟩ <;>
    rcases after with ⟨call', token', there⟩ | ⟨now', shard', left', todo', name', entry', there⟩
  all_goals
    simp only [here, there, Task.wants, Task.keeps, Option.mem_def, Option.some.injEq]
      at wanted member
    subst wanted member
    simp only [Clash, reduceCtorEq, Lock.pairings.injEq, Lock.tokens.injEq, false_and] at clash
  · refine .inl ⟨shard', sharding.token entry'.token, ?_, ?_, ?_, ?_, ?_⟩ <;>
      simp [here, there, Task.bound, Task.sweeps, Task.wants, Task.due, clash.1]
  · refine .inr ⟨sharding.token token', sharding.name call'.request.pairingName, ?_, ?_, ?_, ?_⟩ <;>
      simp [here, there, Task.bound, Task.guards, Task.wants, clash.1]

theorem Orderly.no_cycle (h : Orderly config sharding s) : Acyclic (Waits sharding s) := by
  apply acyclic_of_inner
  refine acyclic_of_twice (fun i => (s.task i).bound sharding ≠ none) ?_ ?_ h.acyclic
  · intro i j edge
    rcases waits_inner config edge with
      ⟨p, shard, here, -, there, -⟩ | ⟨shard, p, here, -, -, there⟩ <;> simp [here, there]
  · intro i j l bound first second
    rcases waits_inner config first with
      ⟨p, shard, here, taken, there, wants, due⟩ | ⟨_, _, here, -⟩
    · rcases waits_inner config second with
        ⟨_, _, there', -⟩ | ⟨shard', p', -, wants', guards, -⟩
      · simp [there] at there'
      · obtain rfl : shard = shard' := by simpa [wants] using wants'
        exact ⟨j, p, shard, here, guards, taken, due⟩
    · exact absurd here bound

/-! ## Steps keep order -/

theorem keeps_finish {channel maps hold} {task : Task sharding.count}
    (kept : hold ∈ (task.finish config sharding channel maps).1.keeps sharding) :
    hold ∈ task.keeps sharding ∨ hold ∈ task.wants sharding := by
  cases task with
  | register call stage =>
      cases stage <;> simp only [Task.finish, Stage.step] at kept
      case lookup token =>
        split at kept
        · exact .inr kept
        · simp [Task.keeps] at kept
      case takeOver token =>
        split at kept
        · split at kept <;> simp [Task.keeps] at kept
        · simp [Task.keeps] at kept
      case claim => split at kept <;> simp [Task.keeps] at kept
      all_goals simp [Task.keeps] at kept
  | unregister name token stage =>
      cases stage <;> simp only [Task.finish] at kept
      case remove => split at kept <;> simp [Task.keeps] at kept
      all_goals simp [Task.keeps] at kept
  | cleanupExpired now stage =>
      cases stage with
      | locking todo =>
          cases todo with
          | nil => exact .inl kept
          | cons shard todo => exact .inr kept
      | sweeping => exact .inl kept
      | dropping => exact .inl kept

theorem pairings_finish {channel maps} {task : Task sharding.count} {n : String}
    (inShard : ∀ p, task.sweeps sharding = some p → ∀ name ∈ task.names sharding,
      sharding.name name = p)
    (changed : (task.finish config sharding channel maps).2.pairings.lookup n ≠
      maps.pairings.lookup n) :
    (.pairings (sharding.name n), .write) ∈ task.keeps sharding ∨
      (.pairings (sharding.name n), .write) ∈ task.wants sharding := by
  cases task with
  | register call stage =>
      cases stage <;> simp only [Task.finish, Stage.step] at changed
      case takeOver token =>
        split at changed
        · split at changed
          · obtain rfl := FiniteMap.eq_of_changed_insert changed
            exact .inr rfl
          · exact absurd rfl changed
        · exact absurd rfl changed
      case claim =>
        split at changed
        · obtain rfl := FiniteMap.eq_of_changed_erase changed
          exact .inr rfl
        · exact absurd rfl changed
      case enter =>
        obtain rfl := FiniteMap.eq_of_changed_insert changed
        exact .inr rfl
      all_goals exact absurd rfl changed
  | unregister name token stage =>
      cases stage <;> simp only [Task.finish] at changed
      case remove =>
        split at changed
        · obtain rfl := FiniteMap.eq_of_changed_erase changed
          exact .inr rfl
        · exact absurd rfl changed
      all_goals exact absurd rfl changed
  | cleanupExpired now stage =>
      cases stage with
      | locking todo => cases todo <;> exact absurd rfl changed
      | sweeping => exact absurd rfl changed
      | dropping shard left todo name entry =>
          simp only [Task.finish, sweep] at changed
          split at changed
          · obtain rfl := FiniteMap.eq_of_changed_erase changed
            obtain rfl := inShard shard rfl n (Finset.mem_insert_self ..)
            exact .inl rfl
          · exact absurd rfl changed

theorem due_congr {maps maps' : InMemoryRegistry} {task : Task sharding.count} {shard}
    (same : ∀ n ∈ task.names sharding, maps'.pairings.lookup n = maps.pairings.lookup n) :
    task.due config sharding maps' shard = task.due config sharding maps shard := by
  cases task with
  | register | unregister => rfl
  | cleanupExpired now stage =>
      cases stage with
      | locking => rfl
      | sweeping p left todo =>
          simp only [Task.due, Task.owes]
          grind [Task.names]
      | dropping p left todo name entry =>
          simp only [Task.due, Task.owes]
          grind [Task.names]

theorem Orderly.frame (h : Orderly config sharding s) {i} (inside : s.inside i = true) {j}
    (other : j ≠ i) {p} (swept : (s.task j).sweeps sharding = some p) :
    ∀ n ∈ (s.task j).names sharding,
      ((s.task i).finish config sharding i s.maps).2.pairings.lookup n =
        s.maps.pairings.lookup n := by
  intro n member
  by_contra changed
  have mine : (Lock.pairings (sharding.name n), LockMode.write) ∈ held sharding s i := by
    have locks := pairings_finish (h.inShard i) changed
    simpa [held, inside, Option.mem_def] using locks
  have theirs : (Lock.pairings p, LockMode.write) ∈ held sharding s j := by
    cases there : s.task j with
    | register | unregister => simp [there, Task.sweeps] at swept
    | cleanupExpired now stage =>
        cases stage <;> simp [there, Task.sweeps] at swept <;>
          simp [held, there, Task.keeps, swept]
  refine h.exclusive j i other _ theirs _ mine ⟨?_, .inl rfl⟩
  rw [h.inShard j p swept n member]

theorem Orderly.exclusive_of_fewer (h : Orderly config sharding s)
    (fewer : ∀ j, ∀ hold ∈ held sharding s' j, hold ∈ held sharding s j) :
    ∀ i j, i ≠ j → ∀ a ∈ held sharding s' i, ∀ b ∈ held sharding s' j, ¬ Clash a b :=
  fun i j apart a ha b hb => h.exclusive i j apart a (fewer i a ha) b (fewer j b hb)

theorem Orderly.shrink (h : Orderly config sharding s) {i}
    (others : ∀ j, j ≠ i → s'.task j = s.task j ∧ s'.inside j = s.inside j)
    (fewer : ∀ hold ∈ held sharding s' i, hold ∈ held sharding s i)
    (frame : ∀ j, j ≠ i → ∀ p, (s.task j).sweeps sharding = some p →
      ∀ n ∈ (s.task j).names sharding, s'.maps.pairings.lookup n = s.maps.pairings.lookup n)
    (bound : (s'.task i).bound sharding = none) (guards : (s'.task i).guards sharding = none)
    (sweeps : ∀ p, (s'.task i).sweeps sharding = some p → (s.task i).sweeps sharding = some p ∧
      (s'.task i).names sharding ⊆ (s.task i).names sharding ∧
      ∀ shard, (s'.task i).due config sharding s'.maps shard = true →
        (s.task i).due config sharding s.maps shard = true) :
    Orderly config sharding s' where
  exclusive := by
    apply h.exclusive_of_fewer
    intro j hold member
    by_cases same : j = i
    · subst same; exact fewer hold member
    · simpa only [held, others j same] using member
  inShard := by
    intro j p swept name member
    by_cases same : j = i
    · subst same
      obtain ⟨before, names, -⟩ := sweeps p swept
      exact h.inShard j p before name (names member)
    · rw [(others j same).1] at swept member
      exact h.inShard j p swept name member
  acyclic := by
    refine h.acyclic.mono ?_
    rintro r r' ⟨j, p, shard, isBound, isGuarded, swept, due⟩
    have here : r ≠ i := by rintro rfl; simp [bound] at isBound
    have there : r' ≠ i := by rintro rfl; simp [guards] at isGuarded
    rw [(others r here).1] at isBound
    rw [(others r' there).1] at isGuarded
    by_cases same : j = i
    · subst same
      obtain ⟨before, -, dues⟩ := sweeps p swept
      exact ⟨j, p, shard, isBound, isGuarded, before, dues shard due⟩
    · rw [(others j same).1] at swept due
      rw [due_congr (frame j same p swept)] at due
      exact ⟨j, p, shard, isBound, isGuarded, swept, due⟩

theorem Orderly.acquire (h : Orderly config sharding s) {i want}
    (wanted : want ∈ (s.task i).wants sharding) (free : Free sharding s want) :
    Orderly config sharding { s with inside := Function.update s.inside i true } where
  exclusive := by
    have held' : ∀ j, ∀ hold ∈ held sharding { s with inside := Function.update s.inside i true } j,
        hold ∈ held sharding s j ∨ j = i ∧ hold = want := by
      intro j hold member
      by_cases same : j = i
      · subst same
        simp only [held, Function.update_self, if_true, List.mem_append, Option.mem_toList]
          at member ⊢
        rcases member with kept | wants
        · exact .inl (.inl kept)
        · exact .inr ⟨trivial, Option.mem_unique wants wanted⟩
      · left
        simpa only [held, Function.update_of_ne same] using member
    intro j l apart a ha b hb clash
    rcases held' j a ha with old | ⟨here, new⟩ <;> rcases held' l b hb with old' | ⟨there, new'⟩
    · exact h.exclusive j l apart a old b old' clash
    · exact free j a old ⟨new' ▸ clash.1.symm, new' ▸ clash.2.symm⟩
    · exact free l b old' (new ▸ clash)
    · exact apart (here.trans there.symm)
  inShard := h.inShard
  acyclic := h.acyclic

/-- A client that has found its name in `tokens` is a new node, and no arrow leaves it. -/
theorem Orderly.guarded (h : Orderly config sharding s) {i call token}
    (inside : s.inside i = true) (here : s.task i = .register call (.lookup token))
    (known : s.maps.tokens.lookup token = some call.request.pairingName)
    (may : careful config sharding s (.finish i) = true) :
    Orderly config sharding
      { s with task := Function.update s.task i (.register call (.takeOver token))
               inside := Function.update s.inside i false } where
  exclusive := by
    apply h.exclusive_of_fewer
    intro j hold member
    by_cases same : j = i
    · subst same
      simpa [held, here, inside, Task.keeps, Task.wants] using member
    · simpa only [held, Function.update_of_ne same] using member
  inShard := by
    intro j p swept name member
    simp only [Function.update_apply] at swept member
    split at swept
    · simp [Task.sweeps] at swept
    · rename_i other
      rw [if_neg other] at member
      exact h.inShard j p swept name member
  acyclic := by
    simp only [careful, here, decide_eq_true_eq] at may
    have clear := may known
    refine h.acyclic.add_sink i ?_ ?_
    · rintro r' ⟨j, p, shard, isBound, isGuarded, swept, due⟩
      simp only [Function.update_self, Task.bound, Option.some.injEq] at isBound
      subst isBound
      simp only [Function.update_apply] at swept due isGuarded
      split at swept
      · simp [Task.sweeps] at swept
      · rename_i other
        rw [if_neg other] at due
        obtain ⟨own, theirs⟩ := clear j swept shard due
        split at isGuarded
        · simp only [Task.guards, Option.some.injEq] at isGuarded
          exact own isGuarded.symm
        · exact theirs r' isGuarded
    · rintro r r' ⟨j, p, shard, isBound, isGuarded, swept, due⟩
      by_cases new : r' = i
      · exact .inr new
      · left
        simp only [Function.update_apply, new, if_false] at swept due isGuarded isBound
        split at swept
        · simp [Task.sweeps] at swept
        · rename_i other
          rw [if_neg other] at due
          split at isBound
          · -- The arrow would leave the new client, and its shard needs no guarded one.
            simp only [Task.bound, Option.some.injEq] at isBound
            subst isBound
            exact absurd isGuarded ((clear j swept shard due).2 r')
          · exact ⟨j, p, shard, isBound, isGuarded, swept, due⟩

theorem Orderly.taken (h : Orderly config sharding s) {i now shard todo}
    (inside : s.inside i = true) (here : s.task i = .cleanupExpired now (.locking (shard :: todo)))
    (may : careful config sharding s (.finish i) = true) :
    Orderly config sharding
      { s with task := Function.update s.task i (.cleanupExpired now (.sweeping shard
                        (s.maps.pairings.keys.filter fun n => sharding.name n = shard) todo))
               inside := Function.update s.inside i false } where
  exclusive := by
    apply h.exclusive_of_fewer
    intro j hold member
    by_cases same : j = i
    · subst same
      simpa [held, here, inside, Task.keeps, Task.wants] using member
    · simpa only [held, Function.update_of_ne same] using member
  inShard := by
    intro j p swept name member
    simp only [Function.update_apply] at swept member
    split at swept
    · rename_i same
      simp only [Task.sweeps, Option.some.injEq] at swept
      simp only [same, if_true, Task.names, Finset.mem_filter] at member
      exact member.2.trans swept
    · rename_i other
      rw [if_neg other] at member
      exact h.inShard j p swept name member
  acyclic := by
    simp only [careful, here, decide_eq_true_eq] at may
    refine h.acyclic.mono ?_
    rintro r r' ⟨j, p, guarded, isBound, isGuarded, swept, due⟩
    simp only [Function.update_apply] at isBound isGuarded swept due
    split at isBound
    · simp [Task.bound] at isBound
    split at isGuarded
    · simp [Task.guards] at isGuarded
    split at swept
    · rename_i same
      simp only [Task.sweeps, Option.some.injEq] at swept
      subst swept
      simp only [same, if_true, Task.due, decide_eq_true_eq, Finset.mem_filter] at due
      obtain ⟨name, ⟨live, inShard⟩, owes⟩ := due
      simp [may ⟨r, isBound⟩ name live inShard r' guarded isGuarded] at owes
    · rename_i other
      rw [if_neg other] at due
      exact ⟨j, p, guarded, isBound, isGuarded, swept, due⟩

/-- How a map call can end: the client found its name, the cleanup took a shard, or the
    task is no client with a guard and has no more entries to drop than before. -/
theorem finish_cases (config : RegistryConfig) (channel : Chan) (maps : InMemoryRegistry)
    (task : Task sharding.count) :
    (∃ call token, task = .register call (.lookup token) ∧
        maps.tokens.lookup token = some call.request.pairingName ∧
        task.finish config sharding channel maps = (.register call (.takeOver token), maps)) ∨
      (∃ now shard todo, task = .cleanupExpired now (.locking (shard :: todo))) ∨
      (task.finish config sharding channel maps).1.bound sharding = none ∧
        (task.finish config sharding channel maps).1.guards sharding = none ∧
        ∀ p, (task.finish config sharding channel maps).1.sweeps sharding = some p →
          task.sweeps sharding = some p ∧
          (task.finish config sharding channel maps).1.names sharding ⊆ task.names sharding ∧
          ∀ shard, (task.finish config sharding channel maps).1.due config sharding
            (task.finish config sharding channel maps).2 shard = true →
              task.due config sharding maps shard = true := by
  cases task with
  | register call stage =>
      cases stage with
      | lookup token =>
          by_cases known : maps.tokens.lookup token = some call.request.pairingName
          · exact .inl ⟨call, token, rfl, known, by simp [Task.finish, Stage.step, known]⟩
          · right; right
            simp [Task.finish, Stage.step, known, Task.bound, Task.guards, Task.sweeps]
      | takeOver token =>
          right; right
          simp only [Task.finish, Stage.step]
          split
          · split <;> simp [Task.bound, Task.guards, Task.sweeps]
          · simp [Task.bound, Task.guards, Task.sweeps]
      | claim =>
          right; right
          simp only [Task.finish, Stage.step]
          split <;> simp [Task.bound, Task.guards, Task.sweeps]
      | forget | enter | announce | returned =>
          right; right
          simp [Task.finish, Stage.step, Task.bound, Task.guards, Task.sweeps]
  | unregister name token stage =>
      right; right
      cases stage <;> simp only [Task.finish]
      case remove => split <;> simp [Task.bound, Task.guards, Task.sweeps]
      all_goals simp [Task.bound, Task.guards, Task.sweeps]
  | cleanupExpired now stage =>
      cases stage with
      | locking todo =>
          cases todo with
          | nil =>
              right; right
              simp [Task.finish, Task.bound, Task.guards, Task.sweeps]
          | cons shard todo => exact .inr (.inl ⟨now, shard, todo, rfl⟩)
      | sweeping p left todo =>
          right; right
          simp [Task.finish, Task.bound, Task.guards]
      | dropping p left todo name entry =>
          refine .inr (.inr ⟨rfl, rfl, fun q swept => ⟨swept, Finset.subset_insert .., ?_⟩⟩)
          intro shard
          simp only [Task.finish, Task.due, sweep, Task.owes]
          intro due
          obtain ⟨n, member, owed⟩ := of_decide_eq_true due
          refine decide_eq_true (.inr ⟨n, member, ?_⟩)
          split at owed
          · rw [FiniteMap.lookup_erase_if] at owed
            split at owed
            · simp at owed
            · exact owed
          · exact owed

theorem Orderly.finish (h : Orderly config sharding s) {i} (inside : s.inside i = true)
    (may : careful config sharding s (.finish i) = true) :
    Orderly config sharding
      { maps := ((s.task i).finish config sharding i s.maps).2
        task := Function.update s.task i ((s.task i).finish config sharding i s.maps).1
        inside := Function.update s.inside i false } := by
  rcases finish_cases config i s.maps (s.task i) with
    ⟨call, token, here, known, finished⟩ | ⟨now, shard, todo, here⟩ | ⟨bound, guards, sweeps⟩
  · rw [finished]
    exact h.guarded inside here known may
  · simp only [here, Task.finish]
    exact h.taken inside here may
  · refine h.shrink (i := i) ?_ ?_ ?_ ?_ ?_ ?_
    · intro j other
      exact ⟨Function.update_of_ne other .., Function.update_of_ne other ..⟩
    · intro hold member
      simp only [held, Function.update_self, Bool.false_eq_true, if_false, List.append_nil,
        Option.mem_toList] at member
      simpa [held, inside, Option.mem_def] using keeps_finish member
    · exact fun j other p swept => h.frame inside other swept
    · simpa only [Function.update_self] using bound
    · simpa only [Function.update_self] using guards
    · simpa only [Function.update_self] using sweeps

theorem Orderly.move (h : Orderly config sharding s) {i task} (outside : s.inside i = false)
    (keeps : ∀ hold ∈ task.keeps sharding, hold ∈ (s.task i).keeps sharding)
    (bound : task.bound sharding = none) (guards : task.guards sharding = none)
    (sweeps : ∀ p, task.sweeps sharding = some p → (s.task i).sweeps sharding = some p ∧
      task.names sharding ⊆ (s.task i).names sharding ∧
      ∀ shard, task.due config sharding s.maps shard = true →
        (s.task i).due config sharding s.maps shard = true) :
    Orderly config sharding (move sharding s i task) := by
  refine h.shrink (i := i) ?_ ?_ (fun _ _ _ _ _ _ => rfl) ?_ ?_ ?_
  · exact fun j other => ⟨Function.update_of_ne other .., rfl⟩
  · intro hold member
    simp only [held, Locked.move, Function.update_self, outside, Bool.false_eq_true, if_false,
      List.append_nil, Option.mem_toList] at member ⊢
    exact keeps hold member
  · simpa only [Locked.move, Function.update_self] using bound
  · simpa only [Locked.move, Function.update_self] using guards
  · simpa only [Locked.move, Function.update_self] using sweeps

theorem Orderly.visit (h : Orderly config sharding s) {i name task} (outside : s.inside i = false)
    (visited : (s.task i).visit config sharding s.maps name = some task) :
    Orderly config sharding (Locked.move sharding s i task) := by
  cases here : s.task i with
  | register | unregister => simp [here, Task.visit] at visited
  | cleanupExpired now stage =>
      cases stage with
      | locking | dropping => simp [here, Task.visit] at visited
      | sweeping shard left todo =>
          simp only [here, Task.visit] at visited
          split at visited
          case isFalse => simp at visited
          rename_i member
          cases live : s.maps.pairings.lookup name with
          | none =>
              simp only [live, Option.some.injEq] at visited
              subst visited
              refine h.move outside ?_ rfl rfl ?_ <;>
                simp [here, Task.keeps, Task.sweeps, Task.names, Task.due, Finset.erase_subset]
              grind
          | some entry =>
              simp only [live] at visited
              split at visited
              · rename_i old
                simp only [Option.some.injEq] at visited
                subst visited
                refine h.move outside ?_ rfl rfl ?_ <;>
                  simp [here, Task.keeps, Task.sweeps, Task.names, Task.due]
                refine ⟨by grind, fun q => ?_⟩
                rintro (same | ⟨n, ⟨-, left⟩, owes⟩)
                · exact ⟨name, member, by simp [Task.owes, live, old, same]⟩
                · exact ⟨n, left, owes⟩
              · simp only [Option.some.injEq] at visited
                subst visited
                refine h.move outside ?_ rfl rfl ?_ <;>
                  simp [here, Task.keeps, Task.sweeps, Task.names, Task.due, Finset.erase_subset]
                grind

theorem Orderly.leave (h : Orderly config sharding s) {i task} (outside : s.inside i = false)
    (left : (s.task i).leave sharding = some task) :
    Orderly config sharding (Locked.move sharding s i task) := by
  cases here : s.task i with
  | register | unregister => simp [here, Task.leave] at left
  | cleanupExpired now stage =>
      cases stage with
      | locking | dropping => simp [here, Task.leave] at left
      | sweeping shard names todo =>
          simp only [here, Task.leave] at left
          split at left
          case isFalse => simp at left
          simp only [Option.some.injEq] at left
          subst left
          refine h.move outside ?_ rfl rfl ?_ <;> simp [Task.keeps, Task.sweeps]

theorem Orderly.step (h : Orderly config sharding s) {action}
    (may : careful config sharding s action = true)
    (taken : step config sharding s action = some s') : Orderly config sharding s' := by
  cases action with
  | acquire i =>
      simp only [Locked.step] at taken
      split at taken
      case h_2 => simp at taken
      rename_i outside wanted
      split at taken
      case isFalse => simp at taken
      rename_i free
      obtain rfl := Option.some.inj taken
      exact h.acquire wanted free
  | finish i =>
      simp only [Locked.step] at taken
      split at taken
      case isFalse => simp at taken
      rename_i inside
      obtain rfl := Option.some.inj taken
      exact h.finish inside may
  | visit i name =>
      simp only [Locked.step] at taken
      split at taken
      case isTrue => simp at taken
      rename_i outside
      obtain ⟨task, visited, rfl⟩ := Option.map_eq_some_iff.mp taken
      exact h.visit (Bool.not_eq_true _ ▸ outside) visited
  | leave i =>
      simp only [Locked.step] at taken
      split at taken
      case isTrue => simp at taken
      rename_i outside
      obtain ⟨task, left, rfl⟩ := Option.map_eq_some_iff.mp taken
      exact h.leave (Bool.not_eq_true _ ▸ outside) left

theorem orderly_start (config : RegistryConfig) (sharding : Sharding) (maps : InMemoryRegistry)
    (calls : Fin k → RegistryCall) : Orderly config sharding (start sharding maps calls) := by
  have plain : ∀ i, ((start sharding maps calls).task i).keeps sharding = none ∧
      ((start sharding maps calls).task i).sweeps sharding = none ∧
      ((start sharding maps calls).task i).bound sharding = none := by
    intro i
    cases call : calls i with
    | register registration =>
        cases shown : registration.request.reconnectToken <;>
          simp [start, call, Task.start, Stage.first, shown, Task.keeps, Task.sweeps, Task.bound]
    | unregister | cleanupExpired =>
        simp [start, call, Task.start, Task.keeps, Task.sweeps, Task.bound]
  refine ⟨?_, ?_, ?_⟩
  · intro i j apart a ha
    have outside : (start sharding maps calls).inside i = false := rfl
    simp [held, plain i, outside] at ha
  · intro i p swept
    simp [plain i] at swept
  · intro r cycle
    obtain ⟨r', ⟨j, p, shard, bound, -⟩, -⟩ := TransGen.head'_iff.mp cycle
    simp [plain r] at bound

/-- In a careful run, whatever the calls and however their keys are sharded, no state has
    a cycle of tasks each waiting for a lock that the next one holds. -/
theorem no_lock_cycle (config : RegistryConfig) (sharding : Sharding) (maps : InMemoryRegistry)
    (calls : Fin k → RegistryCall) (actions : List (LockAction k))
    (along : Machine.Along (step config sharding)
      (fun s action => careful config sharding s action = true)
      (start sharding maps calls) actions)
    (reached : Locked sharding.count k)
    (runs : Machine.run (step config sharding) (start sharding maps calls) actions = some reached) :
    ∀ i, ¬ TransGen (Waits sharding reached) i i :=
  (Machine.run_invariant (fun _ _ _ orderly may taken => Orderly.step orderly may taken)
    (orderly_start config sharding maps calls) along runs).no_cycle

/-- A client that registered at time 0 reconnects at time 100, when its entry is overdue
    and a cleanup starts. -/
def overdueReconnect : Fin 2 → RegistryCall :=
  ![.register ⟨⟨"a", ⟨⟨10, 0, 0, 7⟩, 4007⟩, some ⟨1⟩⟩, ⟨2⟩, 100, 100⟩, .cleanupExpired 100]

/-- The maps after that client's first registration. -/
def overdueMaps : InMemoryRegistry :=
  (journal ⟨60, "s"⟩ [.register ⟨⟨"a", ⟨⟨10, 0, 0, 1⟩, 4001⟩, none⟩, ⟨1⟩, 0, 0⟩]).state

/-- The client guards the shard of its token and wants the shard of its name; the cleanup
    has taken that one and wants the other. -/
theorem reconnect_and_cleanup_lock_cycle :
    let sharding : Sharding := ⟨2, fun _ => 0, fun _ => 1⟩
    ∃ reached, Machine.run (step ⟨60, "s"⟩ sharding) (start sharding overdueMaps overdueReconnect)
        [.acquire 0, .finish 0, .acquire 1, .finish 1, .visit 1 "a"] = some reached ∧
      ∃ i, TransGen (Waits sharding reached) i i := by
  refine ⟨_, rfl, 0, .tail (.single (b := 1) ?_) ?_⟩
  · exact ⟨rfl, _, rfl, (.pairings 0, .write), by decide, by decide⟩
  · exact ⟨rfl, _, rfl, (.tokens 1, .read), by decide, by decide⟩

theorem no_lock_cycle_reconnect_first :
    let sharding : Sharding := ⟨2, fun _ => 0, fun _ => 1⟩
    let actions : List (LockAction 2) :=
      [.acquire 0, .finish 0, .acquire 0, .finish 0, .acquire 1, .finish 1, .visit 1 "a"]
    ∃ reached, Machine.run (step ⟨60, "s"⟩ sharding)
        (start sharding overdueMaps overdueReconnect) actions = some reached ∧
      ∀ i, ¬ TransGen (Waits sharding reached) i i := by
  intro sharding actions
  exact ⟨_, rfl, no_lock_cycle ⟨60, "s"⟩ sharding overdueMaps overdueReconnect actions
    (by decide) _ rfl⟩

end Locked

end TCPunch.InMemoryRegistry
