import Mathlib.Logic.Relation
import Mathlib.Tactic.Common

/-! # Acyclic relations that grow

A wait-for graph has a cycle exactly when some chain of waits returns to its start.
Only tasks that both wait and are waited for can lie on a cycle, so a graph may be
cut down to those. A graph stays acyclic when an arrow is only ever added towards
a new node from which no arrow leaves yet.
-/

namespace Relation

variable {α : Type} {r r' : α → α → Prop}

/-- No chain of arrows returns to its start. -/
def Acyclic (r : α → α → Prop) : Prop := ∀ a, ¬ TransGen r a a

theorem Acyclic.mono (acyclic : Acyclic r) (fewer : ∀ a b, r' a b → r a b) : Acyclic r' :=
  fun a cycle => acyclic a (TransGen.mono fewer a a cycle)

theorem transGen_of_sink {new : α} (sink : ∀ b, ¬ r' new b)
    (grows : ∀ a b, r' a b → r a b ∨ b = new) {a b} (chain : TransGen r' a b) :
    TransGen r a b ∨ b = new := by
  induction chain with
  | single edge => exact (grows _ _ edge).imp_left .single
  | tail chain edge ih =>
      rcases ih with old | rfl
      · exact (grows _ _ edge).imp_left old.tail
      · exact absurd edge (sink _)

/-- Arrows towards a new node without outgoing arrows close no cycle. -/
theorem Acyclic.add_sink (acyclic : Acyclic r) (new : α) (sink : ∀ b, ¬ r' new b)
    (grows : ∀ a b, r' a b → r a b ∨ b = new) : Acyclic r' := by
  intro a cycle
  rcases transGen_of_sink sink grows cycle with old | rfl
  · exact acyclic a old
  · obtain ⟨b, edge, -⟩ := TransGen.head'_iff.mp cycle
    exact sink b edge

/-- The arrows between nodes that an arrow enters and an arrow leaves. -/
def Inner (r : α → α → Prop) (a b : α) : Prop := r a b ∧ (∃ p, r p a) ∧ ∃ s, r b s

theorem transGen_inner {a b} (chain : TransGen r a b) (entered : ∃ p, r p a) (left : ∃ s, r b s) :
    TransGen (Inner r) a b := by
  induction chain with
  | single edge => exact .single ⟨edge, entered, left⟩
  | tail chain edge ih =>
      refine (ih ⟨_, edge⟩).tail ⟨edge, ?_, left⟩
      obtain ⟨p, -, last⟩ := TransGen.tail'_iff.mp chain
      exact ⟨p, last⟩

theorem acyclic_of_inner (acyclic : Acyclic (Inner r)) : Acyclic r := by
  intro a cycle
  obtain ⟨p, -, enters⟩ := TransGen.tail'_iff.mp cycle
  obtain ⟨s, leaves, -⟩ := TransGen.head'_iff.mp cycle
  exact acyclic a (transGen_inner cycle ⟨p, enters⟩ ⟨s, leaves⟩)

section TwoSides

variable (side : α → Prop) (alternates : ∀ a b, r a b → (side a ↔ ¬ side b))
  (twice : ∀ a b c, side a → r a b → r b c → r' a c)

include alternates twice

/-- In a graph with two sides, a chain from one side is a chain of double arrows with
    at most one arrow more. -/
theorem transGen_twice {a b} (chain : TransGen r a b) (here : side a) :
    (side b ∧ TransGen r' a b) ∨
      (¬ side b ∧ ∃ c, side c ∧ ReflTransGen r' a c ∧ r c b) := by
  induction chain with
  | single edge => exact .inr ⟨(alternates _ _ edge).mp here, a, here, .refl, edge⟩
  | @tail b c chain edge ih =>
      rcases ih with ⟨there, chain⟩ | ⟨there, d, before, chain, last⟩
      · exact .inr ⟨(alternates _ _ edge).mp there, b, there, chain.to_reflTransGen, edge⟩
      · refine .inl ⟨?_, TransGen.tail' chain (twice d b c before last edge)⟩
        by_contra other
        exact there ((alternates _ _ edge).mpr other)

theorem acyclic_of_twice (acyclic : Acyclic r') : Acyclic r := by
  have oneSide : ∀ a, side a → ¬ TransGen r a a := by
    intro a here cycle
    rcases transGen_twice side alternates twice cycle here with ⟨-, twice⟩ | ⟨there, -⟩
    · exact acyclic a twice
    · exact there here
  intro a cycle
  by_cases here : side a
  · exact oneSide a here cycle
  · -- A cycle through the other side also passes through this one.
    obtain ⟨b, edge, rest⟩ := TransGen.head'_iff.mp cycle
    have there : side b := by
      by_contra other
      exact here ((alternates a b edge).mpr other)
    exact oneSide b there (TransGen.tail' rest edge)

end TwoSides

end Relation
