import Mathlib.Data.List.Induction
import Mathlib.Tactic.Common

/-! # A state with everything seen of the calls on it

A run is any finite list of whole calls. Each call is told its position, changes the
state, and leaves something to be seen. Facts about runs go by adding one more call at
the end.
-/

/-- The state after a run and what was seen of each call. -/
structure Journal (σ μ : Type) where
  state : σ
  past : List μ

namespace Journal

variable {σ μ α : Type} (perform : Nat → σ → α → μ × σ)

/-- One more call. -/
def record (journal : Journal σ μ) (call : α) : Journal σ μ :=
  let out := perform journal.past.length journal.state call
  { state := out.2, past := journal.past ++ [out.1] }

def keep (init : σ) (calls : List α) : Journal σ μ :=
  calls.foldl (record perform) { state := init, past := [] }

theorem keep_snoc (init : σ) (calls : List α) (call : α) :
    keep perform init (calls ++ [call]) = (keep perform init calls).record perform call := by
  simp only [keep, List.foldl_append, List.foldl_cons, List.foldl_nil]

theorem keep_past_length (init : σ) (calls : List α) :
    (keep perform init calls).past.length = calls.length := by
  induction calls using List.reverseRecOn with
  | nil => rfl
  | append_singleton calls call ih =>
      simp only [keep_snoc, record, List.length_append, ih, List.length_singleton]

/-- Every call of the run meets the condition after the calls before it. -/
def Always (init : σ) (condition : Journal σ μ → α → Prop) (calls : List α) : Prop :=
  ∀ pre call post, calls = pre ++ call :: post → condition (keep perform init pre) call

/-- The condition, checked call by call from a journal on. -/
def Checks (condition : Journal σ μ → α → Prop) : Journal σ μ → List α → Prop
  | _, [] => True
  | journal, call :: calls =>
      condition journal call ∧ Checks condition (journal.record perform call) calls

variable {perform} {init : σ} {condition : Journal σ μ → α → Prop} {calls : List α} {call : α}

theorem always_of_checks (checks : Checks perform condition { state := init, past := [] } calls) :
    Always perform init condition calls := by
  intro pre call post split
  subst split
  unfold keep
  -- The induction is on the calls already made, from any journal on.
  generalize (Journal.mk init [] : Journal σ μ) = journal at checks ⊢
  induction pre generalizing journal with
  | nil => exact checks.1
  | cons first pre ih => exact ih _ checks.2

theorem always_nil : Always perform init condition [] := by
  intro pre call post split
  simp at split

theorem always_snoc :
    Always perform init condition (calls ++ [call]) ↔
      Always perform init condition calls ∧ condition (keep perform init calls) call := by
  constructor
  · intro always
    refine ⟨?_, always calls call [] rfl⟩
    intro pre c post split
    subst split
    exact always pre c (post ++ [call]) (by simp)
  · intro both pre c post split
    obtain ⟨always, last⟩ := both
    rcases List.eq_nil_or_concat post with rfl | ⟨post, last', rfl⟩
    · obtain ⟨rfl, rfl⟩ := List.append_singleton_inj.mp split
      exact last
    · rw [List.concat_eq_append, ← List.cons_append, ← List.append_assoc] at split
      obtain ⟨rfl, -⟩ := List.append_singleton_inj.mp split
      exact always pre c post rfl

theorem Always.left {pre post : List α} (always : Always perform init condition (pre ++ post)) :
    Always perform init condition pre := by
  intro start call rest split
  subst split
  exact always start call (rest ++ post) (by simp)

theorem Always.invariant (always : Always perform init condition calls) (inv : Journal σ μ → Prop)
    (start : inv { state := init, past := [] })
    (kept : ∀ journal call, inv journal → condition journal call → call ∈ calls →
      inv (journal.record perform call)) :
    inv (keep perform init calls) := by
  induction calls using List.reverseRecOn with
  | nil => exact start
  | append_singleton calls call ih =>
      obtain ⟨always, last⟩ := always_snoc.mp always
      rw [keep_snoc]
      refine kept _ _ (ih always ?_) last (by simp)
      intro journal call inside holds member
      exact kept journal call inside holds (List.mem_append_left _ member)

end Journal
