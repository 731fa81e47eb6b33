import TCPunch.Lib.Typestate

/-! # Programs with a budget

A program without loops makes a bounded number of requests, whatever it is answered. The bound
is found by walking through its text, and where a request stands for a program of its own, it
costs what that program may cost. In a team, a task that keeps within a budget takes no more
steps than that in any run, and it can always return by steps of its own if no request can be
left without an answer.
-/

namespace Program

variable {Req Req' : Type} {Reply : Req → Type} {Reply' : Req' → Type} {α β : Type}

/-- Whatever it is answered, the requests of the program together cost no more than this. -/
def Within (cost : Req → Nat) : Program Reply α → Nat → Prop
  | .done _, _ => True
  | .call r next, budget => cost r ≤ budget ∧ ∀ reply, (next reply).Within cost (budget - cost r)

variable {cost : Req → Nat} {p : Program Reply α} {m n : Nat}

theorem within_call {r : Req} {next : Reply r → Program Reply α}
    (later : ∀ reply, (next reply).Within (fun _ => 1) n) :
    (Program.call r next).Within (fun _ => 1) (n + 1) := ⟨Nat.le_add_left 1 n, later⟩

theorem Within.mono (within : p.Within cost m) (more : m ≤ n) : p.Within cost n := by
  induction p generalizing m n with
  | done a => trivial
  | call r next ih =>
      obtain ⟨affordable, later⟩ := within
      refine ⟨affordable.trans more, fun reply => ih reply (later reply) ?_⟩
      omega

theorem Within.bind {f : α → Program Reply β} (first : p.Within cost m)
    (rest : ∀ a, (f a).Within cost n) : (p >>= f).Within cost (m + n) := by
  induction p generalizing m with
  | done a => exact (rest a).mono (Nat.le_add_left n m)
  | call r next ih =>
      obtain ⟨affordable, later⟩ := first
      refine ⟨affordable.trans (Nat.le_add_right m n), fun reply => ?_⟩
      rw [Nat.sub_add_comm affordable]
      exact ih reply (later reply)

/-- A request may cost what the program that is put in its place may cost. -/
theorem Within.expand {cost' : Req' → Nat} {meaning : (r : Req) → Program Reply' (Reply r)}
    (price : ∀ r, (meaning r).Within cost' (cost r)) (within : p.Within cost n) :
    (p.expand meaning).Within cost' n := by
  induction p generalizing n with
  | done a => trivial
  | call r next ih =>
      obtain ⟨affordable, later⟩ := within
      have whole := (price r).bind fun reply => ih reply (later reply)
      rw [Nat.add_sub_cancel' affordable] at whole
      exact whole

end Program

namespace Team

variable {ι σ χ η α : Type} [DecidableEq ι] {Req : Type} {Reply : Req → Type}
  {rules : Rules ι σ Reply χ η} {i : ι} {n : Nat}

/-- The move answers a request of this task. -/
def Move.Of (i : ι) : Move ι χ η → Prop
  | .task j _ => j = i
  | .background _ => False

instance (i : ι) (move : Move ι χ η) : Decidable (move.Of i) :=
  match move with
  | .task j _ => inferInstanceAs (Decidable (j = i))
  | .background _ => isFalse id

theorem task_of_other {team team' : Team ι σ Reply α} {move : Move ι χ η}
    (taken : step rules team move = some team') (other : ¬ move.Of i) : team'.task i = team.task i := by
  rcases step_cases taken with ⟨j, way, r, next, reply, s, rfl, -, -, rfl⟩ | ⟨change, s, -, -, rfl⟩
  · exact Function.update_of_ne (fun same => other same.symm) _ _
  · rfl

theorem within_of_own {team team' : Team ι σ Reply α} {move : Move ι χ η}
    (taken : step rules team move = some team') (own : move.Of i)
    (within : (team.task i).Within (fun _ => 1) n) :
    0 < n ∧ (team'.task i).Within (fun _ => 1) (n - 1) := by
  rcases step_cases taken with ⟨j, way, r, next, reply, s, rfl, pending, -, rfl⟩ | ⟨change, s, rfl, -, -⟩
  · cases own
    rw [pending] at within
    simp only [Function.update_self]
    exact ⟨within.1, within.2 reply⟩
  · cases own

theorem within_of_run {team final : Team ι σ Reply α} {moves : List (Move ι χ η)}
    (within : (team.task i).Within (fun _ => 1) n)
    (runs : Machine.run (step rules) team moves = some final) :
    moves.countP (·.Of i) ≤ n ∧ (final.task i).Within (fun _ => 1) (n - moves.countP (·.Of i)) := by
  induction moves generalizing team n with
  | nil =>
      obtain rfl := Option.some.inj runs
      exact ⟨Nat.zero_le n, within⟩
  | cons move rest ih =>
      obtain ⟨next, taken, runs⟩ := Option.bind_eq_some_iff.mp runs
      by_cases own : move.Of i
      · obtain ⟨positive, within⟩ := within_of_own taken own within
        obtain ⟨fewer, left⟩ := ih within runs
        rw [List.countP_cons, if_pos (decide_eq_true own), Nat.add_comm, ← Nat.sub_sub]
        exact ⟨by omega, left⟩
      · rw [← task_of_other taken own] at within
        rw [List.countP_cons, if_neg (by simpa using own)]
        exact ih within runs

/-- If every request of a task can be answered in some way, the task can return by steps of its
    own, whatever the others do not do. -/
theorem exists_return (served : ∀ s r, ∃ way reply s', rules.answer i way s r = some (reply, s'))
    (team : Team ι σ Reply α) :
    ∃ moves final a, (∀ move ∈ moves, move.Of i) ∧ Machine.run (step rules) team moves = some final ∧
      final.task i = .done a := by
  -- The induction is on the program of the task, from any shared state on.
  generalize here : team.task i = p
  induction p generalizing team with
  | done a =>
      refine ⟨[], team, a, ?_, rfl, here⟩
      intro move member
      cases member
  | call r next ih =>
      obtain ⟨way, reply, s, answered⟩ := served team.shared r
      have taken := step_task here answered
      obtain ⟨moves, final, a, own, runs, returned⟩ :=
        ih reply { shared := s, task := Function.update team.task i (next reply) } (Function.update_self ..)
      refine ⟨.task i way :: moves, final, a, ?_, ?_, returned⟩
      · intro move member
        cases member with
        | head => rfl
        | tail _ member => exact own move member
      · exact Option.bind_eq_some_iff.mpr ⟨_, taken, runs⟩

theorem exists_return_within (served : ∀ s r, ∃ way reply s', rules.answer i way s r = some (reply, s'))
    {team middle : Team ι σ Reply α} {moves : List (Move ι χ η)}
    (within : (team.task i).Within (fun _ => 1) n)
    (runs : Machine.run (step rules) team moves = some middle) :
    ∃ more final a, (∀ move ∈ more, move.Of i) ∧ Machine.run (step rules) middle more = some final ∧
      final.task i = .done a ∧ moves.countP (·.Of i) + more.length ≤ n := by
  obtain ⟨fewer, left⟩ := within_of_run within runs
  obtain ⟨more, final, a, own, runs, returned⟩ := exists_return served middle
  refine ⟨more, final, a, own, runs, returned, ?_⟩
  obtain ⟨paid, -⟩ := within_of_run left runs
  rw [List.countP_eq_length.mpr fun move member => decide_eq_true (own move member)] at paid
  omega

end Team
