import TCPunch.Lib.Machine
import TCPunch.Lib.Program

/-! # Programs that keep to a discipline

A discipline says which requests a program may make, depending on a state of its own
that is moved along by the replies. That a program keeps to a discipline is seen by
walking through its text once, whatever the replies are. What is known of the shared
state is then an invariant that relates it to the states of all tasks, and only has to
be kept by requests that the discipline allows.
-/

/-- The requests that are allowed, and where the replies lead. -/
structure Discipline {Req : Type} (Reply : Req → Type) (γ : Type) where
  allowed : γ → Req → Prop
  after : γ → (r : Req) → Reply r → γ

namespace Program

variable {Req Req' : Type} {Reply : Req → Type} {Reply' : Req' → Type} {α β γ σ : Type}

/-- Every request is replaced by a program that works out its reply. -/
def expand (meaning : (r : Req) → Program Reply' (Reply r)) : Program Reply α → Program Reply' α
  | .done a => .done a
  | .call r next => meaning r >>= fun reply => (next reply).expand meaning

/-- Whatever it is answered, the program keeps to the discipline from `g` on, and ends in a
    state that fits its result. -/
def Obeys (d : Discipline Reply γ) (ends : γ → α → Prop) : Program Reply α → γ → Prop
  | .done a, g => ends g a
  | .call r next, g => d.allowed g r ∧ ∀ reply, (next reply).Obeys d ends (d.after g r reply)

theorem Obeys.bind {d : Discipline Reply γ} {middle : γ → α → Prop} {ends : γ → β → Prop}
    {p : Program Reply α} {f : α → Program Reply β} {g : γ} (first : p.Obeys d middle g)
    (rest : ∀ g a, middle g a → (f a).Obeys d ends g) : (p >>= f).Obeys d ends g := by
  induction p generalizing g with
  | done a => exact rest g a first
  | call r next ih =>
      obtain ⟨permitted, later⟩ := first
      exact ⟨permitted, fun reply => ih reply (later reply)⟩

/-- A discipline is kept by the expansion if the programs put in keep it, and leave the state
    as the replaced request does. -/
theorem Obeys.expand {d : Discipline Reply γ} {d' : Discipline Reply' γ} {ends : γ → α → Prop}
    {meaning : (r : Req) → Program Reply' (Reply r)}
    (keeps : ∀ g r, d.allowed g r →
      (meaning r).Obeys d' (fun g' reply => g' = d.after g r reply) g)
    {p : Program Reply α} {g : γ} (obeys : p.Obeys d ends g) :
    (p.expand meaning).Obeys d' ends g := by
  induction p generalizing g with
  | done a => exact obeys
  | call r next ih =>
      obtain ⟨permitted, later⟩ := obeys
      apply (keeps g r permitted).bind
      intro g' reply reached
      rw [reached]
      exact ih reply (later reply)

end Program

/-- Tasks that share one state, each at some point of its program. -/
structure Team (ι σ : Type) {Req : Type} (Reply : Req → Type) (α : Type) where
  shared : σ
  task : ι → Program Reply α

namespace Team

variable {ι σ χ η α γ : Type} [DecidableEq ι] {Req : Type} {Reply : Req → Type}

/-- A request of one task is answered in one of several ways, or the shared state changes on
    its own. -/
inductive Move (ι χ η : Type) where
  | task (i : ι) (way : χ)
  | background (change : η)

/-- How requests are answered, and what else happens. A way may not be open to a request. -/
structure Rules (ι σ : Type) {Req : Type} (Reply : Req → Type) (χ η : Type) where
  answer : ι → χ → σ → (r : Req) → Option (Reply r × σ)
  background : η → σ → Option σ

variable (rules : Rules ι σ Reply χ η)

/-- A task that has returned has nothing to be answered. -/
def react (i : ι) (way : χ) (s : σ) : Program Reply α → Option (Program Reply α × σ)
  | .done _ => none
  | .call r next => (rules.answer i way s r).map fun out => (next out.1, out.2)

def step (team : Team ι σ Reply α) : Move ι χ η → Option (Team ι σ Reply α)
  | .task i way =>
      (react rules i way team.shared (team.task i)).map fun out =>
        { shared := out.2, task := Function.update team.task i out.1 }
  | .background change => (rules.background change team.shared).map fun s => { team with shared := s }

variable {rules}

theorem step_task {team : Team ι σ Reply α} {i : ι} {way : χ} {r : Req}
    {next : Reply r → Program Reply α} {reply : Reply r} {s : σ}
    (pending : team.task i = .call r next) (answered : rules.answer i way team.shared r = some (reply, s)) :
    step rules team (.task i way) =
      some { shared := s, task := Function.update team.task i (next reply) } := by
  simp only [step, pending, react, answered, Option.map_some]

theorem step_cases {team team' : Team ι σ Reply α} {move : Move ι χ η}
    (taken : step rules team move = some team') :
    (∃ i way r next reply s, move = .task i way ∧ team.task i = .call r next ∧
      rules.answer i way team.shared r = some (reply, s) ∧
      team' = { shared := s, task := Function.update team.task i (next reply) }) ∨
    ∃ change s, move = .background change ∧ rules.background change team.shared = some s ∧
      team' = { team with shared := s } := by
  cases move with
  | task i way =>
      obtain ⟨out, reacts, rfl⟩ := Option.map_eq_some_iff.mp taken
      cases pending : team.task i with
      | done a => rw [pending] at reacts; cases reacts
      | call r next =>
          rw [pending] at reacts
          obtain ⟨⟨reply, s⟩, answered, rfl⟩ := Option.map_eq_some_iff.mp reacts
          exact .inl ⟨i, way, r, next, reply, s, rfl, pending, answered, rfl⟩
  | background change =>
      obtain ⟨s, changed, rfl⟩ := Option.map_eq_some_iff.mp taken
      exact .inr ⟨change, s, rfl, changed, rfl⟩

/-- What allowed requests and the background keep, together with the states of the tasks. -/
structure Keeps (rules : Rules ι σ Reply χ η) (d : ι → Discipline Reply γ)
    (inv : σ → (ι → γ) → Prop) : Prop where
  answer : ∀ s g i way r reply s', inv s g → (d i).allowed (g i) r →
    rules.answer i way s r = some (reply, s') →
    inv s' (Function.update g i ((d i).after (g i) r reply))
  background : ∀ s g change s', inv s g → rules.background change s = some s' → inv s' g

theorem Keeps.and {d : ι → Discipline Reply γ} {p q : σ → (ι → γ) → Prop}
    (left : Keeps rules d p) (right : Keeps rules d q) : Keeps rules d fun s g => p s g ∧ q s g where
  answer s g i way r reply s' holds permitted answered :=
    ⟨left.answer s g i way r reply s' holds.1 permitted answered,
      right.answer s g i way r reply s' holds.2 permitted answered⟩
  background s g change s' holds changed :=
    ⟨left.background s g change s' holds.1 changed, right.background s g change s' holds.2 changed⟩

/-- The states of the tasks fit their programs and the shared state. -/
def Orderly (d : ι → Discipline Reply γ) (ends : γ → α → Prop) (inv : σ → (ι → γ) → Prop)
    (team : Team ι σ Reply α) : Prop :=
  ∃ g, inv team.shared g ∧ ∀ i, (team.task i).Obeys (d i) ends (g i)

variable {d : ι → Discipline Reply γ} {ends : γ → α → Prop} {inv : σ → (ι → γ) → Prop}

theorem Orderly.step {team team' : Team ι σ Reply α} {move : Move ι χ η}
    (orderly : Orderly d ends inv team) (keeps : Keeps rules d inv)
    (taken : Team.step rules team move = some team') : Orderly d ends inv team' := by
  obtain ⟨g, holds, obey⟩ := orderly
  rcases step_cases taken with
    ⟨i, way, r, next, reply, s, -, pending, answered, rfl⟩ | ⟨change, s, -, changed, rfl⟩
  · obtain ⟨permitted, later⟩ : (Program.call r next).Obeys (d i) ends (g i) := pending ▸ obey i
    refine ⟨_, keeps.answer _ g i way r reply s holds permitted answered, fun j => ?_⟩
    by_cases same : j = i
    · subst same
      simp only [Function.update_self]
      exact later reply
    · simp only [Function.update_of_ne same]
      exact obey j
  · exact ⟨g, keeps.background _ g change s holds changed, obey⟩

/-- Tasks that keep to their disciplines stay in order in every run. -/
theorem Orderly.run {team final : Team ι σ Reply α} {moves : List (Move ι χ η)}
    (orderly : Orderly d ends inv team) (keeps : Keeps rules d inv)
    (runs : Machine.run (Team.step rules) team moves = some final) : Orderly d ends inv final :=
  Machine.run_keeps (fun _ _ _ holds taken => Orderly.step holds keeps taken) orderly runs

/-! ## Observers

Somebody who sees every request and its reply can keep a record of them. The record is part of
the state, and nothing depends on it.
-/

section Observers

variable {ω : Type} {note : ι → χ → (r : Req) → Reply r → ω → ω}

/-- The same rules, with an observer. -/
def Rules.watched (rules : Rules ι σ Reply χ η) (note : ι → χ → (r : Req) → Reply r → ω → ω) :
    Rules ι (σ × ω) Reply χ η where
  answer i way s r := (rules.answer i way s.1 r).map fun out => (out.1, out.2, note i way r out.1 s.2)
  background change s := (rules.background change s.1).map fun s' => (s', s.2)

def unwatched (team : Team ι (σ × ω) Reply α) : Team ι σ Reply α where
  shared := team.shared.1
  task := team.task

theorem step_unwatched (team : Team ι (σ × ω) Reply α) (move : Move ι χ η) :
    step rules team.unwatched move = (step (rules.watched note) team move).map unwatched := by
  cases move with
  | task i way =>
      simp only [step, unwatched]
      cases team.task i with
      | done a => rfl
      | call r next =>
          simp only [react, Rules.watched]
          cases rules.answer i way team.shared.1 r <;> rfl
  | background change =>
      simp only [step, unwatched, Rules.watched]
      cases rules.background change team.shared.1 <;> rfl

theorem watched_of_run (team : Team ι (σ × ω) Reply α) {final : Team ι σ Reply α}
    {moves : List (Move ι χ η)} (runs : Machine.run (step rules) team.unwatched moves = some final) :
    ∃ watched, Machine.run (step (rules.watched note)) team moves = some watched ∧
      watched.unwatched = final := by
  rw [Machine.run_image step_unwatched] at runs
  exact Option.map_eq_some_iff.mp runs

end Observers

/-! ## Loops

A program ends whatever it is answered. A task that loops is given in blocks: programs that
end with a result or with the block that comes next.
-/

section Blocks

variable {ℓ : Type} (blocks : ℓ → Program Reply (ℓ ⊕ α))

/-- At the end of a block the task goes on with the next one. -/
def resume : Program Reply (ℓ ⊕ α) → Program Reply (ℓ ⊕ α)
  | .done (.inl label) => blocks label
  | p => p

variable (rules) in
def loopStep (team : Team ι σ Reply (ℓ ⊕ α)) (move : Move ι χ η) :
    Option (Team ι σ Reply (ℓ ⊕ α)) :=
  (step rules team move).map fun team => { team with task := fun i => resume blocks (team.task i) }

/-- A block ends where the next one may begin, or with a result that fits. -/
def blockEnds (entry : ℓ → γ → Prop) (ends : γ → α → Prop) (g : γ) : ℓ ⊕ α → Prop
  | .inl label => entry label g
  | .inr a => ends g a

variable {blocks} {entry : ℓ → γ → Prop}

theorem resume_obeys {d : Discipline Reply γ} (obey : ∀ label g, entry label g →
    (blocks label).Obeys d (blockEnds entry ends) g) {p : Program Reply (ℓ ⊕ α)} {g : γ}
    (obeys : p.Obeys d (blockEnds entry ends) g) :
    (resume blocks p).Obeys d (blockEnds entry ends) g := by
  cases p with
  | call r next => exact obeys
  | done ended =>
      cases ended with
      | inl label => exact obey label g obeys
      | inr a => exact obeys

theorem Orderly.loopRun (obey : ∀ i label g, entry label g →
      (blocks label).Obeys (d i) (blockEnds entry ends) g)
    {team final : Team ι σ Reply (ℓ ⊕ α)} {moves : List (Move ι χ η)}
    (orderly : Orderly d (blockEnds entry ends) inv team) (keeps : Keeps rules d inv)
    (runs : Machine.run (Team.loopStep rules blocks) team moves = some final) :
    Orderly d (blockEnds entry ends) inv final := by
  apply Machine.run_keeps _ orderly runs
  intro team move team' holds taken
  obtain ⟨next, steps, rfl⟩ := Option.map_eq_some_iff.mp taken
  obtain ⟨g, kept, obeys⟩ := holds.step keeps steps
  exact ⟨g, kept, fun i => resume_obeys (obey i) (obeys i)⟩

end Blocks

end Team
