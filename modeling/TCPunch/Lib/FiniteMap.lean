import Mathlib.Data.Finmap
import Mathlib.Data.Finset.Card
import Mathlib.Data.Finset.Sort

/-! # Finite maps with unordered entries

A concurrent hash map promises nothing about the order of its entries, so it is
represented by Mathlib's `Finmap`: equality is equality of contents. This module
adds the point-update equations, and the law that relates a map to an index of
its entries.
-/

/-- A finite map from keys to values of one type. -/
abbrev FiniteMap (κ ν : Type) := Finmap (fun _ : κ => ν)

namespace FiniteMap

variable {κ ν τ : Type} [DecidableEq κ] [DecidableEq τ]

theorem lookup_insert_if (m : FiniteMap κ ν) (k k' : κ) (v : ν) :
    (m.insert k v).lookup k' = if k' = k then some v else m.lookup k' := by
  by_cases same : k' = k
  · subst same
    rw [if_pos rfl, Finmap.lookup_insert]
  · rw [if_neg same, Finmap.lookup_insert_of_ne m same]

theorem lookup_erase_if (m : FiniteMap κ ν) (k k' : κ) :
    (m.erase k).lookup k' = if k' = k then none else m.lookup k' := by
  by_cases same : k' = k
  · subst same
    rw [if_pos rfl, Finmap.lookup_erase]
  · rw [if_neg same, Finmap.lookup_erase_ne same]

theorem of_lookup_erase {m : FiniteMap κ ν} {k k' v} (found : (m.erase k).lookup k' = some v) :
    k' ≠ k ∧ m.lookup k' = some v := by
  rw [lookup_erase_if] at found
  split at found
  · simp at found
  · exact ⟨‹_›, found⟩

theorem of_lookup_insert {m : FiniteMap κ ν} {k k' v v'} (found : (m.insert k v).lookup k' = some v') :
    k' = k ∧ v' = v ∨ k' ≠ k ∧ m.lookup k' = some v' := by
  rw [lookup_insert_if] at found
  split at found
  · exact .inl ⟨‹_›, (Option.some.inj found).symm⟩
  · exact .inr ⟨‹_›, found⟩

theorem eq_of_changed_insert {m : FiniteMap κ ν} {k k' v}
    (changed : (m.insert k v).lookup k' ≠ m.lookup k') : k' = k := by
  by_contra other
  rw [lookup_insert_if, if_neg other] at changed
  exact changed rfl

theorem eq_of_changed_erase {m : FiniteMap κ ν} {k k'}
    (changed : (m.erase k).lookup k' ≠ m.lookup k') : k' = k := by
  by_contra other
  rw [lookup_erase_if, if_neg other] at changed
  exact changed rfl

theorem erase_of_absent {m : FiniteMap κ ν} {k} (absent : m.lookup k = none) :
    m.erase k = m := by
  apply Finmap.ext_lookup
  intro k'
  rw [lookup_erase_if]
  split
  · subst k'; exact absent.symm
  · rfl

theorem card_keys_erase {m : FiniteMap κ ν} {k v} (found : m.lookup k = some v) :
    (m.erase k).keys.card + 1 = m.keys.card := by
  have member : k ∈ m.keys := Finmap.mem_keys.mpr (Finmap.mem_of_lookup_eq_some found)
  rw [Finmap.keys_erase]
  exact Finset.card_erase_add_one member

theorem keys_insert (m : FiniteMap κ ν) (k : κ) (v : ν) : (m.insert k v).keys = insert k m.keys := by
  ext k'
  rw [Finmap.mem_keys, Finmap.mem_insert, Finset.mem_insert, Finmap.mem_keys]

theorem card_keys_insert {m : FiniteMap κ ν} {k : κ} (vacant : m.lookup k = none) (v : ν) :
    (m.insert k v).keys.card = m.keys.card + 1 := by
  rw [keys_insert]
  apply Finset.card_insert_of_notMem
  rw [Finmap.mem_keys, ← Finmap.lookup_eq_none]
  exact vacant

theorem keys_replace {m : FiniteMap κ ν} {k : κ} {v : ν} (live : m.lookup k = some v) (v' : ν) :
    (m.insert k v').keys = m.keys := by
  rw [keys_insert, Finset.insert_eq_self, Finmap.mem_keys]
  exact Finmap.mem_of_lookup_eq_some live

/-- The entries of a map in some order. Folding over the map is folding over any such
    list, for an operation that does not mind the order. -/
theorem exists_entries (m : FiniteMap κ ν) :
    ∃ entries : List (Σ _ : κ, ν), (entries.map Sigma.fst).Nodup ∧
      (∀ k v, ⟨k, v⟩ ∈ entries ↔ m.lookup k = some v) ∧
      ∀ {δ : Type} (f : δ → κ → ν → δ) (comm) (d : δ),
        m.foldl f comm d = entries.foldl (fun d entry => f d entry.1 entry.2) d := by
  induction m using Finmap.induction_on with
  | H entries =>
      refine ⟨entries.entries, entries.nodupKeys, ?_, fun f comm d => rfl⟩
      intro k v
      rw [Finmap.lookup_toFinmap]
      exact AList.mem_lookup_iff.symm

theorem any_eq_true (m : FiniteMap κ ν) (f : κ → ν → Bool) :
    m.any f = true ↔ ∃ k v, m.lookup k = some v ∧ f k v = true := by
  obtain ⟨entries, -, member, fold⟩ := exists_entries m
  have disjunction : ∀ b, entries.foldl (fun d entry => d || f entry.1 entry.2) b =
      (b || entries.any fun entry => f entry.1 entry.2) := by
    clear member fold
    induction entries with
    | nil => simp
    | cons entry rest ih => intro b; simp only [List.foldl_cons, ih, List.any_cons, Bool.or_assoc]
  rw [Finmap.any, fold, disjunction, Bool.false_or, List.any_eq_true]
  constructor
  · intro h
    obtain ⟨⟨k, v⟩, inside, holds⟩ := h
    exact ⟨k, v, (member k v).mp inside, holds⟩
  · intro h
    obtain ⟨k, v, found, holds⟩ := h
    exact ⟨⟨k, v⟩, (member k v).mpr found, holds⟩

/-- The keys in increasing order. -/
def keyList {κ ν : Type} [LinearOrder κ] (m : FiniteMap κ ν) : List κ := m.keys.sort (· ≤ ·)

theorem mem_keyList {κ ν : Type} [LinearOrder κ] {m : FiniteMap κ ν} {k : κ} :
    k ∈ keyList m ↔ ∃ v, m.lookup k = some v := by
  rw [keyList, Finset.mem_sort, Finmap.mem_keys, Finmap.mem_iff]

/-- `index` sends the tag of every entry of `m` to the key that holds it, and
    holds nothing else. -/
def Indexes (tag : ν → τ) (m : FiniteMap κ ν) (index : FiniteMap τ κ) : Prop :=
  ∀ t k, index.lookup t = some k ↔ ∃ v, m.lookup k = some v ∧ tag v = t

theorem Indexes.empty (tag : ν → τ) : Indexes tag (∅ : FiniteMap κ ν) ∅ := by
  intro t k
  simp

theorem Indexes.insert {tag : ν → τ} {m : FiniteMap κ ν} {index : FiniteMap τ κ} {k v}
    (h : Indexes tag m index) (vacant : m.lookup k = none) (unused : index.lookup (tag v) = none) :
    Indexes tag (m.insert k v) (index.insert (tag v) k) := by
  intro t k'
  have old := h t k'
  simp only [lookup_insert_if]
  grind

theorem Indexes.erase {tag : ν → τ} {m : FiniteMap κ ν} {index : FiniteMap τ κ} {k v}
    (h : Indexes tag m index) (live : m.lookup k = some v) :
    Indexes tag (m.erase k) (index.erase (tag v)) := by
  intro t k'
  have own := (h (tag v) k).mpr ⟨v, live, rfl⟩
  have old := h t k'
  simp only [lookup_erase_if]
  grind

/-- An entry that keeps its tag may be replaced without touching the index. -/
theorem Indexes.replace {tag : ν → τ} {m : FiniteMap κ ν} {index : FiniteMap τ κ} {k v v'}
    (h : Indexes tag m index) (live : m.lookup k = some v) (same : tag v' = tag v) :
    Indexes tag (m.insert k v') index := by
  intro t k'
  have old := h t k'
  simp only [lookup_insert_if]
  grind

/-- Entries may be dropped from the map when exactly their tags are dropped too. -/
theorem Indexes.restrict {tag : ν → τ} {m m' : FiniteMap κ ν} {index index' : FiniteMap τ κ}
    (h : Indexes tag m index) (dropped : ν → Prop)
    (entries : ∀ k v, m'.lookup k = some v ↔ m.lookup k = some v ∧ ¬ dropped v)
    (tags : ∀ t k, index'.lookup t = some k ↔ index.lookup t = some k ∧
      ∀ k' v, m.lookup k' = some v → dropped v → tag v ≠ t) :
    Indexes tag m' index' := by
  intro t k
  rw [tags, h t k]
  constructor
  · rintro ⟨⟨v, live, rfl⟩, stays⟩
    exact ⟨v, (entries k v).mpr ⟨live, fun gone => stays k v live gone rfl⟩, rfl⟩
  · rintro ⟨v, found, rfl⟩
    obtain ⟨live, stays⟩ := (entries k v).mp found
    refine ⟨⟨v, live, rfl⟩, ?_⟩
    intro k' v' live' gone same
    -- Equal tags mean equal keys, so the dropped entry would be this one.
    have here := (h (tag v) k).mpr ⟨v, live, rfl⟩
    have there := (h (tag v) k').mpr ⟨v', live', same⟩
    obtain rfl := Option.some.inj (here.symm.trans there)
    obtain rfl := Option.some.inj (live.symm.trans live')
    exact stays gone

theorem Indexes.card_keys {tag : ν → τ} {m : FiniteMap κ ν} {index : FiniteMap τ κ}
    (h : Indexes tag m index) : index.keys.card = m.keys.card := by
  refine Finset.card_bij
    (fun t member => (index.lookup t).get (Finmap.lookup_isSome.mpr (Finmap.mem_keys.mp member)))
    ?_ ?_ ?_
  · intro t member
    obtain ⟨k, hk⟩ := Finmap.mem_iff.mp (Finmap.mem_keys.mp member)
    obtain ⟨v, hv, -⟩ := (h t k).mp hk
    simpa only [hk, Option.get_some, Finmap.mem_keys] using Finmap.mem_of_lookup_eq_some hv
  · intro t member t' member' same
    obtain ⟨k, hk⟩ := Finmap.mem_iff.mp (Finmap.mem_keys.mp member)
    obtain ⟨k', hk'⟩ := Finmap.mem_iff.mp (Finmap.mem_keys.mp member')
    simp only [hk, hk', Option.get_some] at same
    subst same
    obtain ⟨v, hv, tagged⟩ := (h t k).mp hk
    obtain ⟨v', hv', tagged'⟩ := (h t' k).mp hk'
    obtain rfl : v = v' := Option.some.inj (hv.symm.trans hv')
    exact tagged.symm.trans tagged'
  · intro k member
    obtain ⟨v, hv⟩ := Finmap.mem_iff.mp (Finmap.mem_keys.mp member)
    have found : index.lookup (tag v) = some k := (h (tag v) k).mpr ⟨v, hv, rfl⟩
    refine ⟨tag v, Finmap.mem_keys.mpr (Finmap.mem_of_lookup_eq_some found), ?_⟩
    simp only [found, Option.get_some]

end FiniteMap
