import Mathlib.Tactic.Common

/-! # Machines with partial steps

A machine takes labelled steps, and a label may not be enabled in a state. A run is
a list of labels that were all enabled. What every allowed step keeps holds in
every state that a run of allowed steps reaches.
-/

namespace Machine

variable {σ τ α : Type}

/-- Take the steps in order; a step that is not enabled ends the attempt. -/
def run (step : σ → α → Option σ) : σ → List α → Option σ
  | s, [] => some s
  | s, a :: rest => (step s a).bind fun s' => run step s' rest

/-- Every step of the run is taken in a state that meets the condition. -/
def Along (step : σ → α → Option σ) (allowed : σ → α → Prop) : σ → List α → Prop
  | _, [] => True
  | s, a :: rest => allowed s a ∧ ∀ s' ∈ step s a, Along step allowed s' rest

instance decidableAlong (step : σ → α → Option σ) (allowed : σ → α → Prop)
    [∀ s a, Decidable (allowed s a)] :
    (s : σ) → (actions : List α) → Decidable (Along step allowed s actions)
  | _, [] => isTrue trivial
  | _, _ :: rest =>
      have := fun s' => decidableAlong step allowed s' rest
      inferInstanceAs (Decidable (_ ∧ _))

theorem along_of_forall {step : σ → α → Option σ} {allowed : α → Prop} {actions : List α}
    (all : ∀ a ∈ actions, allowed a) (s : σ) : Along step (fun _ a => allowed a) s actions := by
  induction actions generalizing s with
  | nil => trivial
  | cons a rest ih =>
      exact ⟨all a (.head _), fun s' _ => ih (fun b member => all b (.tail _ member)) s'⟩

theorem Along.and {step : σ → α → Option σ} {p q : σ → α → Prop} {actions : List α} {s : σ}
    (left : Along step p s actions) (right : Along step q s actions) :
    Along step (fun s a => p s a ∧ q s a) s actions := by
  induction actions generalizing s with
  | nil => trivial
  | cons a rest ih =>
      exact ⟨⟨left.1, right.1⟩, fun s' taken => ih (left.2 s' taken) (right.2 s' taken)⟩

theorem run_append (step : σ → α → Option σ) (s : σ) (left right : List α) :
    run step s (left ++ right) = (run step s left).bind fun s' => run step s' right := by
  induction left generalizing s with
  | nil => rfl
  | cons a rest ih =>
      simp only [List.cons_append, run]
      cases step s a with
      | none => rfl
      | some s' => exact ih s'

/-- An invariant kept by every allowed step holds after every allowed run. -/
theorem run_invariant {step : σ → α → Option σ} {allowed : σ → α → Prop} {inv : σ → Prop}
    (kept : ∀ s a s', inv s → allowed s a → step s a = some s' → inv s') {actions : List α}
    {s final : σ} (start : inv s) (along : Along step allowed s actions)
    (runs : run step s actions = some final) : inv final := by
  induction actions generalizing s with
  | nil =>
      obtain rfl := Option.some.inj runs
      exact start
  | cons a rest ih =>
      obtain ⟨s', taken, runs⟩ := Option.bind_eq_some_iff.mp runs
      exact ih (kept s a s' start along.1 taken) (along.2 s' taken) runs

theorem run_keeps {step : σ → α → Option σ} {inv : σ → Prop}
    (kept : ∀ s a s', inv s → step s a = some s' → inv s') {actions : List α} {s final : σ}
    (start : inv s) (runs : run step s actions = some final) : inv final := by
  have anything : Along step (fun _ _ => True) s actions := along_of_forall (fun _ _ => trivial) s
  exact run_invariant (fun s a s' holds _ => kept s a s' holds) start anything runs

/-- A machine whose steps are steps of another, or cannot be seen there, reaches nothing that
    the other does not reach. -/
theorem run_simulates {β : Type} {step : σ → α → Option σ} {step' : τ → β → Option τ} {f : σ → τ}
    (simulates : ∀ s a s', step s a = some s' →
      f s' = f s ∨ ∃ b, step' (f s) b = some (f s')) {actions : List α} {s final : σ}
    (runs : run step s actions = some final) :
    ∃ actions', run step' (f s) actions' = some (f final) := by
  induction actions generalizing s with
  | nil =>
      obtain rfl := Option.some.inj runs
      exact ⟨[], rfl⟩
  | cons a rest ih =>
      obtain ⟨s', taken, runs⟩ := Option.bind_eq_some_iff.mp runs
      obtain ⟨actions', runs'⟩ := ih runs
      obtain same | ⟨b, taken'⟩ := simulates s a s' taken
      · exact ⟨actions', same ▸ runs'⟩
      · exact ⟨b :: actions', Option.bind_eq_some_iff.mpr ⟨f s', taken', runs'⟩⟩

/-- A machine each of whose steps is done by another in some number of steps, as far as a
    relation between their states tells, reaches nothing that the other does not reach. -/
theorem run_refines {β : Type} {step : σ → α → Option σ} {step' : τ → β → Option τ}
    {related : σ → τ → Prop}
    (refines : ∀ s a s' t, related s t → step s a = some s' →
      ∃ actions t', run step' t actions = some t' ∧ related s' t') {actions : List α} {s final : σ}
    {t : τ} (start : related s t) (runs : run step s actions = some final) :
    ∃ actions' final', run step' t actions' = some final' ∧ related final final' := by
  induction actions generalizing s t with
  | nil =>
      obtain rfl := Option.some.inj runs
      exact ⟨[], t, rfl, start⟩
  | cons a rest ih =>
      obtain ⟨s', taken, runs⟩ := Option.bind_eq_some_iff.mp runs
      obtain ⟨first, t', steps, start⟩ := refines s a s' t start taken
      obtain ⟨second, final', later, ends⟩ := ih start runs
      refine ⟨first ++ second, final', ?_, ends⟩
      rw [run_append, steps, Option.bind_some, later]

section Image

variable {step : σ → α → Option σ} {step' : τ → α → Option τ} {f : σ → τ}

/-- A machine whose steps are the images of another's runs as the other does. -/
theorem run_image (commutes : ∀ s a, step' (f s) a = (step s a).map f) (s : σ) (actions : List α) :
    run step' (f s) actions = (run step s actions).map f := by
  induction actions generalizing s with
  | nil => rfl
  | cons a rest ih =>
      simp only [run, commutes]
      cases step s a with
      | none => rfl
      | some next => exact ih next

theorem along_of_image (commutes : ∀ s a, step' (f s) a = (step s a).map f)
    {allowed : τ → α → Prop} {s : σ} {actions : List α} (along : Along step' allowed (f s) actions) :
    Along step (fun s => allowed (f s)) s actions := by
  induction actions generalizing s with
  | nil => trivial
  | cons a rest ih =>
      refine ⟨along.1, fun s' taken => ih (along.2 (f s') ?_)⟩
      rw [Option.mem_def, commutes, Option.mem_def.mp taken, Option.map_some]

end Image

end Machine
