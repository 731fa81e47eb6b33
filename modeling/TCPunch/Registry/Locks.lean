import Mathlib.Data.Fintype.Basic
import TCPunch.Lib.Machine
import TCPunch.Registry.Journal
import TCPunch.Registry.Stages

/-! # The locks under the two maps

Each map is divided into shards and each shard is guarded by a read/write lock. A
map call waits for the lock of its key's shard and gives it back when it returns,
with two exceptions. The guard returned by `tokens.get` lives until the end of the
block that looks into `pairings`, so a reconnecting client reads a shard of `tokens`
while it waits for one of `pairings`. And `retain` holds a shard of `pairings` while
its closure, for each expired entry, waits for a shard of `tokens`.

A task is a call that stands before or inside a map call. The contents of the maps
change as the stages of `register` and the closure of `cleanup_expired` say.
-/

namespace TCPunch.InMemoryRegistry

/-- How the keys of the two maps are spread over shards. -/
structure Sharding where
  count : Nat
  name : String → Fin count
  token : Uuid → Fin count

inductive Lock (count : Nat) where
  | pairings (shard : Fin count)
  | tokens (shard : Fin count)
  deriving DecidableEq

inductive LockMode where
  | read
  | write
  deriving DecidableEq

/-- A lock in the mode in which it is held or wanted. -/
abbrev Hold (count : Nat) := Lock count × LockMode

/-- Two tasks cannot hold both at once. -/
def Clash {count : Nat} (a b : Hold count) : Prop := a.1 = b.1 ∧ (a.2 = .write ∨ b.2 = .write)

instance {count : Nat} (a b : Hold count) : Decidable (Clash a b) :=
  inferInstanceAs (Decidable (_ ∧ _))

/-- Where an `unregister` stands. -/
inductive Leaving where
  /-- Before `pairings.remove`. -/
  | remove
  /-- Before `tokens.remove`, the removed entry having carried the caller's token. -/
  | forget
  | returned

/-- Where a `cleanup_expired` stands in `retain`. -/
inductive Sweep (count : Nat) where
  /-- Before the first of the remaining shards. -/
  | locking (todo : List (Fin count))
  /-- Inside a shard, between two calls of the closure; `left` are the names it has
      not been called on. -/
  | sweeping (shard : Fin count) (left : Finset String) (todo : List (Fin count))
  /-- Inside the closure, before `tokens.remove` for an expired entry. -/
  | dropping (shard : Fin count) (left : Finset String) (todo : List (Fin count))
      (name : String) (entry : PairingEntry)

inductive Task (count : Nat) where
  | register (call : Registration) (stage : Stage)
  | unregister (pairingName : String) (token : Uuid) (stage : Leaving)
  | cleanupExpired (now : Instant) (stage : Sweep count)

namespace Task

variable (config : RegistryConfig) (sharding : Sharding)

def start : RegistryCall → Task sharding.count
  | .register call => .register call (Stage.first call.request)
  | .unregister name token => .unregister name token .remove
  | .cleanupExpired now => .cleanupExpired now (.locking (List.finRange sharding.count))

/-- The lock that the next map call of the task needs. -/
def wants : Task sharding.count → Option (Hold sharding.count)
  | .register _ (.lookup token) => some (.tokens (sharding.token token), .read)
  | .register call (.takeOver _) => some (.pairings (sharding.name call.request.pairingName), .write)
  | .register call .claim => some (.pairings (sharding.name call.request.pairingName), .write)
  | .register _ (.forget entry) => some (.tokens (sharding.token entry.token), .write)
  | .register call .enter => some (.pairings (sharding.name call.request.pairingName), .write)
  | .register call .announce => some (.tokens (sharding.token call.newV4), .write)
  | .register _ (.returned _) => none
  | .unregister name _ .remove => some (.pairings (sharding.name name), .write)
  | .unregister _ token .forget => some (.tokens (sharding.token token), .write)
  | .unregister _ _ .returned => none
  | .cleanupExpired _ (.locking (shard :: _)) => some (.pairings shard, .write)
  | .cleanupExpired _ (.locking []) => none
  | .cleanupExpired _ (.sweeping _ _ _) => none
  | .cleanupExpired _ (.dropping _ _ _ _ entry) => some (.tokens (sharding.token entry.token), .write)

/-- The lock that the task keeps from one map call to the next. -/
def keeps : Task sharding.count → Option (Hold sharding.count)
  | .register _ (.takeOver token) => some (.tokens (sharding.token token), .read)
  | .cleanupExpired _ (.sweeping shard _ _) => some (.pairings shard, .write)
  | .cleanupExpired _ (.dropping shard _ _ _ _) => some (.pairings shard, .write)
  | _ => none

/-- What the map call does that the task is inside of. Taking a shard in `retain` only
    fixes the entries that its closure will see. -/
def finish (channel : Chan) (maps : InMemoryRegistry) :
    Task sharding.count → Task sharding.count × InMemoryRegistry
  | .register call stage =>
      let out := stage.step config (call.draws channel) call.request maps
      (.register call out.1, out.2)
  | .unregister name token .remove =>
      match maps.pairings.lookup name with
      | some entry =>
          (.unregister name token (if entry.token = token then .forget else .returned),
            { maps with pairings := maps.pairings.erase name })
      | none => (.unregister name token .returned, maps)
  | .unregister name token .forget =>
      (.unregister name token .returned, { maps with tokens := maps.tokens.erase token })
  | .cleanupExpired now (.locking (shard :: todo)) =>
      (.cleanupExpired now
        (.sweeping shard (maps.pairings.keys.filter fun n => sharding.name n = shard) todo), maps)
  | .cleanupExpired now (.dropping shard left todo name entry) =>
      (.cleanupExpired now (.sweeping shard left todo), (sweep config now (0, maps) name entry).2)
  | task => (task, maps)

/-- The closure of `retain` is called on one of the entries left. -/
def visit (maps : InMemoryRegistry) (name : String) :
    Task sharding.count → Option (Task sharding.count)
  | .cleanupExpired now (.sweeping shard left todo) =>
      if name ∈ left then
        match maps.pairings.lookup name with
        | some entry =>
            if expired config now entry then
              some (.cleanupExpired now (.dropping shard (left.erase name) todo name entry))
            else
              some (.cleanupExpired now (.sweeping shard (left.erase name) todo))
        | none => some (.cleanupExpired now (.sweeping shard (left.erase name) todo))
      else
        none
  | _ => none

/-- `retain` leaves a shard when the closure has seen all its entries. -/
def leave : Task sharding.count → Option (Task sharding.count)
  | .cleanupExpired now (.sweeping _ left todo) =>
      if left = ∅ then some (.cleanupExpired now (.locking todo)) else none
  | _ => none

end Task

/-- The maps and the tasks that work on them. A task is `inside` when it has taken the
    lock it wants and its map call has not returned. -/
structure Locked (count k : Nat) where
  maps : InMemoryRegistry
  task : Fin k → Task count
  inside : Fin k → Bool

inductive LockAction (k : Nat) where
  /-- A task takes the lock it wants. -/
  | acquire (i : Fin k)
  /-- The map call returns and gives its lock back, unless a guard keeps it. -/
  | finish (i : Fin k)
  | visit (i : Fin k) (name : String)
  | leave (i : Fin k)

namespace Locked

variable (config : RegistryConfig) (sharding : Sharding) {k : Nat}

/-- All calls before their first map call. -/
def start (maps : InMemoryRegistry) (calls : Fin k → RegistryCall) : Locked sharding.count k :=
  { maps, task := fun i => Task.start sharding (calls i), inside := fun _ => false }

/-- The locks that a task holds. -/
def held (s : Locked sharding.count k) (i : Fin k) : List (Hold sharding.count) :=
  ((s.task i).keeps sharding).toList ++
    if s.inside i then ((s.task i).wants sharding).toList else []

/-- Nobody holds a lock that clashes. -/
def Free (s : Locked sharding.count k) (want : Hold sharding.count) : Prop :=
  ∀ i, ∀ hold ∈ held sharding s i, ¬ Clash want hold

instance (s : Locked sharding.count k) (want : Hold sharding.count) :
    Decidable (Free sharding s want) :=
  inferInstanceAs (Decidable (∀ _, _))

/-- Task `i` stands before a map call and wants a lock that `j` holds. -/
def Waits (s : Locked sharding.count k) (i j : Fin k) : Prop :=
  s.inside i = false ∧ ∃ want ∈ (s.task i).wants sharding, ∃ hold ∈ held sharding s j,
    Clash want hold

def move (s : Locked sharding.count k) (i : Fin k) (task : Task sharding.count) :
    Locked sharding.count k :=
  { s with task := Function.update s.task i task }

def step (s : Locked sharding.count k) : LockAction k → Option (Locked sharding.count k)
  | .acquire i =>
      match s.inside i, (s.task i).wants sharding with
      | false, some want =>
          if Free sharding s want then
            some { s with inside := Function.update s.inside i true }
          else
            none
      | _, _ => none
  | .finish i =>
      if s.inside i then
        let out := (s.task i).finish config sharding i s.maps
        some
          { maps := out.2
            task := Function.update s.task i out.1
            inside := Function.update s.inside i false }
      else
        none
  | .visit i name =>
      if s.inside i then none
      else ((s.task i).visit config sharding s.maps name).map (move sharding s i)
  | .leave i =>
      if s.inside i then none
      else ((s.task i).leave sharding).map (move sharding s i)

end Locked

end TCPunch.InMemoryRegistry
