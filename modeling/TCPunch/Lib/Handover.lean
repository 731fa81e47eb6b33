import Mathlib.Logic.Function.Basic
import Mathlib.Tactic.Common

/-! # Handing over through a slot and a bell

Parties meet in pairs. A party puts itself on record in a slot and then hangs up a bell.
Another takes the record out of the slot, and then rings and removes the bell. Slot and
bell are apart, so a party in a hurry can put itself over another's record, find no bell,
or ring the wrong one. When the slot is vacant for whoever stores, the bell's place is
vacant for whoever hangs one up, and a record is only taken once its owner's bell hangs,
nobody is lost and everybody is served by one party.
-/

/-- What a party is doing. -/
inductive Role (ι : Type) where
  | idle
  /-- On record, with no bell yet. -/
  | entering
  | waiting
  /-- Has taken the record of `w` and is about to ring. -/
  | taking (w : ι)
  | served (w : ι)

structure Handover (ι : Type) where
  role : ι → Role ι
  /-- Who is on record. -/
  slot : Option ι
  /-- Whose bell hangs. -/
  bell : Option ι

namespace Handover

variable {ι : Type}

def start : Handover ι := { role := fun _ => .idle, slot := none, bell := none }

/-- Party `j` has taken the record of `w`. -/
def Serves (h : Handover ι) (j w : ι) : Prop := h.role j = .taking w ∨ h.role j = .served w

/-- One party moves, and is in no hurry. -/
inductive Step [DecidableEq ι] (h : Handover ι) : Handover ι → Prop where
  | store (i : ι) (idle : h.role i = .idle) (vacant : h.slot = none) :
      Step h { h with role := Function.update h.role i .entering, slot := some i }
  | enter (i : ι) (entering : h.role i = .entering) (vacant : h.bell = none) :
      Step h { h with role := Function.update h.role i .waiting, bell := some i }
  | take (j w : ι) (idle : h.role j = .idle) (found : h.slot = some w)
      (ready : h.role w = .waiting) :
      Step h { h with role := Function.update h.role j (.taking w), slot := none }
  | ring (j w : ι) (taking : h.role j = .taking w) :
      Step h { h with role := Function.update h.role j (.served w), bell := none }

/-- Nobody is lost, and everybody is served by one party. -/
structure Fair (h : Handover ι) : Prop where
  rings : ∀ j w, h.role j = .taking w → h.bell = some w
  waits : ∀ j w, h.Serves j w → h.role w = .waiting
  unique : ∀ j j' w, h.Serves j w → h.Serves j' w → j = j'
  taken : ∀ j w, h.Serves j w → h.slot ≠ some w
  kept : ∀ i, h.role i = .entering ∨ h.role i = .waiting → h.slot = some i ∨ ∃ j, h.Serves j i
  owner : ∀ i, h.slot = some i → h.role i = .entering ∨ h.role i = .waiting
  ready : ∀ i, h.slot = some i → h.role i = .waiting → h.bell = some i

variable {h h' : Handover ι}

theorem fair_start : (start : Handover ι).Fair where
  rings := by intro j w taking; cases taking
  waits := by intro j w serves; cases serves <;> contradiction
  unique := by intro j j' w serves; cases serves <;> contradiction
  taken := by intro j w serves; cases serves <;> contradiction
  kept := by intro i inside; cases inside <;> contradiction
  owner := by intro i found; cases found
  ready := by intro i found; cases found

theorem Fair.step [DecidableEq ι] (fair : h.Fair) (step : h.Step h') : h'.Fair := by
  obtain ⟨rings, waits, unique, taken, kept, owner, ready⟩ := fair
  cases step with
  | store i idle vacant =>
      -- Only parties that wait are served, so nobody has taken the new record.
      have unserved : ∀ j, ¬ h.Serves j i := by
        intro j serves
        cases idle.symm.trans (waits j i serves)
      simp only [Serves] at *
      constructor <;> simp only [Serves, Function.update_apply] <;> grind
  | enter i entering vacant =>
      have unserved : ∀ j, ¬ h.Serves j i := by
        intro j serves
        cases entering.symm.trans (waits j i serves)
      -- With no bell hanging, nobody is about to ring and the party on record is still entering.
      have idle : ∀ j w, h.role j ≠ .taking w := by
        intro j w taking
        cases vacant.symm.trans (rings j w taking)
      simp only [Serves] at *
      constructor <;> simp only [Serves, Function.update_apply] <;> grind
  | take j w idle found waiting =>
      have bell := ready w found waiting
      have unserved : ∀ j', ¬ h.Serves j' w := fun j' serves => taken j' w serves found
      simp only [Serves] at *
      constructor <;> simp only [Serves, Function.update_apply] <;> grind
  | ring j w taking =>
      have bell := rings j w taking
      -- Whoever else is about to ring would ring the same bell, and so serve the same party.
      have only : ∀ j' w', h.role j' = .taking w' → j' = j := by
        intro j' w' taking'
        obtain rfl := Option.some.inj ((rings j' w' taking').symm.trans bell)
        exact unique j' j w' (.inl taking') (.inl taking)
      -- The bell is not that of the party on record, which nobody has taken.
      have other : ∀ i, h.slot = some i → h.role i ≠ .waiting := by
        intro i found waiting
        obtain rfl := Option.some.inj ((ready i found waiting).symm.trans bell)
        exact taken j i (.inl taking) found
      simp only [Serves] at *
      constructor <;> simp only [Serves, Function.update_apply] <;> grind

/-- When nobody is about to ring, a party that waits has been served by exactly one other,
    or is on record with its own bell. -/
theorem Fair.settled (fair : h.Fair) (quiet : ∀ j w, h.role j ≠ .taking w) {i : ι}
    (waiting : h.role i = .waiting) :
    (∃ j, h.role j = .served i ∧ ∀ j', h.role j' = .served i → j' = j) ∨
      h.slot = some i ∧ h.bell = some i ∧ ∀ j, h.role j ≠ .served i := by
  rcases fair.kept i (.inr waiting) with found | ⟨j, taking | served⟩
  · exact .inr ⟨found, fair.ready i found waiting, fun j served => fair.taken j i (.inr served) found⟩
  · exact absurd taking (quiet j i)
  · exact .inl ⟨j, served, fun j' served' => fair.unique j' j i (.inr served') (.inr served)⟩

end Handover
