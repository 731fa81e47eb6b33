import TCPunch.Server.World

/-! # Where a handler stands

The program of a handler as a machine with eight kinds of position. The machine is
not a second model: `Hall.step_eq` and `Hall.run_eq` say that it moves exactly as
the handlers' programs do.
-/

namespace TCPunch

/-- Which counter a session ends with. -/
inductive Counter where
  | pairingSucceeded
  | timeoutOccurred
  deriving DecidableEq

/-- Which request a handler has pending. -/
inductive Position where
  | reading (clientInfo : PeerConnectionData)
  | registering (request : Request)
  /-- About to write WAITING. -/
  | greeting (wait : Handler.Wait)
  | waiting (wait : Handler.Wait)
  /-- The time is up; about to unregister. -/
  | leaving (wait : Handler.Wait)
  /-- About to write the last frame. -/
  | closing (frame : ServerResponse) (counter : Option Counter)
  | counting (counter : Counter)
  | returned (result : Except IoError Unit)
  deriving DecidableEq

namespace Counter

def code : Counter → Handler.Code Unit
  | .pairingSucceeded => Handler.pairingSucceeded
  | .timeoutOccurred => Handler.timeoutOccurred

def bump {σ : Type} (s : Shared σ) : Counter → Shared σ
  | .pairingSucceeded => s.pairingSucceeded
  | .timeoutOccurred => s.timeoutOccurred

end Counter

namespace Position

open Handler

/-- The rest of the program. -/
def program : Position → Code (Except IoError Unit)
  | .reading clientInfo => readAndServe clientInfo
  | .registering request => registerAndServe request
  | .greeting wait => waitForPeer wait
  | .waiting wait => awaitAndFinish wait
  | .leaving wait => do
      Handler.unregister wait.pairingName wait.token
      finishWith (ServerResponse.timeout wait.clientInfo wait.token) timeoutOccurred
  | .closing frame (some counter) => finishWith frame counter.code
  | .closing frame none => writeAll frame
  | .counting counter => do
      counter.code
      return .ok ()
  | .returned result => .done result

def start (peerAddr : SocketAddr) : Position :=
  match PeerConnectionData.fromSocketAddr peerAddr with
  | none => .closing ServerResponse.error none
  | some clientInfo => .reading clientInfo

def afterRead (clientInfo : PeerConnectionData) : ReadOutcome → Position
  | .failed e => .returned (.error e)
  | .elapsed => .counting .timeoutOccurred
  | .rejected _ => .closing ServerResponse.error none
  | .request request =>
      .registering { pairingName := request.pairingName
                     clientInfo
                     reconnectToken := request.reconnectToken }

def afterRegister (request : Request) : Except RegistryError RegistrationResult → Position
  | .ok (.paired token peerInfo) =>
      .closing (ServerResponse.paired request.clientInfo peerInfo token) (some .pairingSucceeded)
  | .ok (.waiting token peerNotify) =>
      .greeting { clientInfo := request.clientInfo, pairingName := request.pairingName
                  token, peerNotify }
  | .ok (.resumed token peerNotify) =>
      .greeting { clientInfo := request.clientInfo, pairingName := request.pairingName
                  token, peerNotify }
  | .error _ => .closing ServerResponse.error none

def afterClose : Option Counter → Position
  | some counter => .counting counter
  | none => .returned (.ok ())

variable {σ η : Type} (backend : Backend σ η)

/-- Where an answer takes a handler, and what it changes. -/
def step (i : Nat) (s : Shared σ) : Position → Choice → Option (Position × Shared σ)
  | .reading clientInfo, .read outcome => some (afterRead clientInfo outcome, s)
  | .registering request, .register =>
      let out := backend.register i request s.registry
      some (afterRegister request (out.1.map Registered.result), s.registered out)
  | .greeting wait, .write (.ok ()) =>
      some (.waiting wait, s.wrote i (ServerResponse.waiting wait.clientInfo wait.token))
  | .greeting _, .write (.error e) => some (.returned (.error e), s)
  | .waiting wait, .arrived =>
      (s.inbox wait.peerNotify).map fun peerInfo =>
        (.closing (ServerResponse.paired wait.clientInfo peerInfo wait.token)
          (some .pairingSucceeded), s)
  | .waiting wait, .closed =>
      if s.inbox wait.peerNotify = none ∧ backend.holds s.registry wait.peerNotify = false then
        some (.closing (ServerResponse.timeout wait.clientInfo wait.token)
          (some .timeoutOccurred), s)
      else
        none
  | .waiting wait, .elapsed =>
      if s.inbox wait.peerNotify = none ∧ backend.holds s.registry wait.peerNotify = true then
        some (.leaving wait, s)
      else
        none
  | .leaving wait, .unregister =>
      some (.closing (ServerResponse.timeout wait.clientInfo wait.token) (some .timeoutOccurred),
        { s with registry := backend.unregister i wait.pairingName wait.token s.registry })
  | .closing frame counter, .write (.ok ()) => some (afterClose counter, s.wrote i frame)
  | .closing _ _, .write (.error e) => some (.returned (.error e), s)
  | .counting counter, .count => some (.returned (.ok ()), counter.bump s)
  | _, _ => none

/-- Everything that an answer can do to handler `i`. -/
inductive Moves (i : Nat) (s : Shared σ) : Position → Choice → Position → Shared σ → Prop where
  | read (clientInfo : PeerConnectionData) (outcome : ReadOutcome) :
      Moves i s (.reading clientInfo) (.read outcome) (afterRead clientInfo outcome) s
  | register (request : Request) :
      Moves i s (.registering request) .register
        (afterRegister request ((backend.register i request s.registry).1.map Registered.result))
        (s.registered (backend.register i request s.registry))
  | greet (wait : Wait) :
      Moves i s (.greeting wait) (.write (.ok ())) (.waiting wait)
        (s.wrote i (ServerResponse.waiting wait.clientInfo wait.token))
  | greetFails (wait : Wait) (e : IoError) :
      Moves i s (.greeting wait) (.write (.error e)) (.returned (.error e)) s
  | arrived (wait : Wait) (peerInfo : PeerConnectionData)
      (there : s.inbox wait.peerNotify = some peerInfo) :
      Moves i s (.waiting wait) .arrived
        (.closing (ServerResponse.paired wait.clientInfo peerInfo wait.token)
          (some .pairingSucceeded)) s
  | closed (wait : Wait) (silent : s.inbox wait.peerNotify = none)
      (dropped : backend.holds s.registry wait.peerNotify = false) :
      Moves i s (.waiting wait) .closed
        (.closing (ServerResponse.timeout wait.clientInfo wait.token) (some .timeoutOccurred)) s
  | elapsed (wait : Wait) (silent : s.inbox wait.peerNotify = none)
      (held : backend.holds s.registry wait.peerNotify = true) :
      Moves i s (.waiting wait) .elapsed (.leaving wait) s
  | unregister (wait : Wait) :
      Moves i s (.leaving wait) .unregister
        (.closing (ServerResponse.timeout wait.clientInfo wait.token) (some .timeoutOccurred))
        { s with registry := backend.unregister i wait.pairingName wait.token s.registry }
  | close (frame : ServerResponse) (counter : Option Counter) :
      Moves i s (.closing frame counter) (.write (.ok ())) (afterClose counter) (s.wrote i frame)
  | closeFails (frame : ServerResponse) (counter : Option Counter) (e : IoError) :
      Moves i s (.closing frame counter) (.write (.error e)) (.returned (.error e)) s
  | count (counter : Counter) :
      Moves i s (.counting counter) .count (.returned (.ok ())) (counter.bump s)

variable {backend} in
theorem moves_of_step {i : Nat} {s shared : Shared σ} {position position' : Position}
    {choice : Choice} (taken : position.step backend i s choice = some (position', shared)) :
    Moves backend i s position choice position' shared := by
  cases position with
  | reading clientInfo =>
      cases choice with
      | read outcome => cases taken; exact .read clientInfo outcome
      | register | write | arrived | closed | elapsed | unregister | count => cases taken
  | registering request =>
      cases choice with
      | register => cases taken; exact .register request
      | read | write | arrived | closed | elapsed | unregister | count => cases taken
  | greeting wait =>
      cases choice with
      | write outcome =>
          cases outcome with
          | ok _ => cases taken; exact .greet wait
          | error e => cases taken; exact .greetFails wait e
      | read | register | arrived | closed | elapsed | unregister | count => cases taken
  | waiting wait =>
      cases choice with
      | arrived =>
          obtain ⟨peerInfo, there, same⟩ := Option.map_eq_some_iff.mp taken
          cases same
          exact .arrived wait peerInfo there
      | closed =>
          simp only [step] at taken
          split at taken
          · rename_i silent
            cases taken
            exact .closed wait silent.1 silent.2
          · cases taken
      | elapsed =>
          simp only [step] at taken
          split at taken
          · rename_i silent
            cases taken
            exact .elapsed wait silent.1 silent.2
          · cases taken
      | read | register | write | unregister | count => cases taken
  | leaving wait =>
      cases choice with
      | unregister => cases taken; exact .unregister wait
      | read | register | write | arrived | closed | elapsed | count => cases taken
  | closing frame counter =>
      cases choice with
      | write outcome =>
          cases outcome with
          | ok _ => cases taken; exact .close frame counter
          | error e => cases taken; exact .closeFails frame counter e
      | read | register | arrived | closed | elapsed | unregister | count => cases taken
  | counting counter =>
      cases choice with
      | count => cases taken; exact .count counter
      | read | register | write | arrived | closed | elapsed | unregister => cases taken
  | returned result => cases choice <;> cases taken

theorem registerAndServe_eq (request : Request) :
    registerAndServe request =
      .call (.register request) fun reply => (afterRegister request reply).program := by
  simp only [registerAndServe, Handler.register, Program.call_bind]
  congr 1
  funext reply
  cases reply with
  | error e => rfl
  | ok result => cases result <;> rfl

theorem react_waiting (i : Nat) (choice : Choice) (s : Shared σ) (wait : Wait) :
    World.react backend i choice s (Position.waiting wait).program =
      (World.answer backend i choice s (.awaitPeer wait.peerNotify)).map fun out =>
        (match out.1 with
          | .arrived peerInfo => program (.closing
              (ServerResponse.paired wait.clientInfo peerInfo wait.token) (some .pairingSucceeded))
          | .closed => program (.closing
              (ServerResponse.timeout wait.clientInfo wait.token) (some .timeoutOccurred))
          | .elapsed => program (.leaving wait), out.2) := by
  simp only [World.react, program, awaitAndFinish, awaitPeer, Program.call_bind]
  congr 1
  funext out
  cases out.1 <;> rfl

/-- The program reacts to an answer as the position says. -/
theorem react_program (i : Nat) (choice : Choice) (s : Shared σ) (position : Position) :
    World.react backend i choice s position.program =
      (position.step backend i s choice).map fun out => (out.1.program, out.2) := by
  cases position with
  | reading clientInfo =>
      cases choice with
      | read outcome => cases outcome <;> rfl
      | register | write | arrived | closed | elapsed | unregister | count => rfl
  | registering request =>
      cases choice with
      | register =>
          rw [program, registerAndServe_eq]
          rfl
      | read | write | arrived | closed | elapsed | unregister | count => rfl
  | greeting wait =>
      cases choice with
      | write outcome => cases outcome <;> rfl
      | read | register | arrived | closed | elapsed | unregister | count => rfl
  | waiting wait =>
      cases choice with
      | arrived =>
          rw [react_waiting, World.answer, step]
          cases s.inbox wait.peerNotify <;> rfl
      | closed =>
          by_cases silent : s.inbox wait.peerNotify = none ∧
              backend.holds s.registry wait.peerNotify = false
          · rw [react_waiting, World.answer, step, if_pos silent, if_pos silent]
            rfl
          · rw [react_waiting, World.answer, step, if_neg silent, if_neg silent]
            rfl
      | elapsed =>
          by_cases silent : s.inbox wait.peerNotify = none ∧
              backend.holds s.registry wait.peerNotify = true
          · rw [react_waiting, World.answer, step, if_pos silent, if_pos silent]
            rfl
          · rw [react_waiting, World.answer, step, if_neg silent, if_neg silent]
            rfl
      | read | register | write | unregister | count => rfl
  | leaving wait =>
      cases choice with
      | unregister => rfl
      | read | register | write | arrived | closed | elapsed | count => rfl
  | closing frame counter =>
      cases counter with
      | none =>
          cases choice with
          | write outcome => cases outcome <;> rfl
          | read | register | arrived | closed | elapsed | unregister | count => rfl
      | some counter =>
          cases choice with
          | write outcome => cases outcome <;> rfl
          | read | register | arrived | closed | elapsed | unregister | count => rfl
  | counting counter =>
      cases counter <;> cases choice <;> rfl
  | returned result => rfl

/-! Each request is pending at one kind of position only. -/

theorem eq_registering {position : Position} {request next}
    (pending : position.program = .call (.register request) next) :
    position = .registering request := by
  cases position with
  | registering r => cases pending; rfl
  | closing frame counter => cases counter <;> cases pending
  | counting counter => cases counter <;> cases pending
  | reading | greeting | waiting | leaving | returned => cases pending

theorem eq_leaving {position : Position} {name token next}
    (pending : position.program = .call (.unregister name token) next) :
    ∃ wait, position = .leaving wait ∧ wait.pairingName = name ∧ wait.token = token := by
  cases position with
  | leaving wait => cases pending; exact ⟨wait, rfl, rfl, rfl⟩
  | closing frame counter => cases counter <;> cases pending
  | counting counter => cases counter <;> cases pending
  | reading | registering | greeting | waiting | returned => cases pending

theorem eq_returned {position : Position} {result} (done : position.program = .done result) :
    position = .returned result := by
  cases position with
  | returned r => cases done; rfl
  | closing frame counter => cases counter <;> cases done
  | counting counter => cases counter <;> cases done
  | reading | registering | greeting | waiting | leaving => cases done

end Position

/-- Positions of all handlers, with what they share. -/
structure Hall (σ : Type) where
  shared : Shared σ
  position : Nat → Position

namespace Hall

variable {σ η : Type} (backend : Backend σ η)

/-- The world in which every handler runs the rest of its program. -/
def toWorld (hall : Hall σ) : World σ :=
  { shared := hall.shared, task := fun i => (hall.position i).program }

def step (hall : Hall σ) : Event η → Option (Hall σ)
  | .handler i choice =>
      ((hall.position i).step backend i hall.shared choice).map fun out =>
        { shared := out.2, position := Function.update hall.position i out.1 }
  | .background change =>
      some { hall with shared :=
              { hall.shared with registry := backend.background change hall.shared.registry } }

def start (registry : σ) (peers : Nat → SocketAddr) : Hall σ where
  shared := (World.start registry peers).shared
  position i := Position.start (peers i)

@[simp]
theorem toWorld_task (hall : Hall σ) (i : Nat) : hall.toWorld.task i = (hall.position i).program :=
  rfl

@[simp]
theorem toWorld_shared (hall : Hall σ) : hall.toWorld.shared = hall.shared := rfl

theorem toWorld_start (registry : σ) (peers : Nat → SocketAddr) :
    (start registry peers).toWorld = World.start registry peers := by
  simp only [toWorld, start, World.start, World.mk.injEq, true_and]
  funext i
  cases peers i <;> rfl

variable {backend}

theorem step_cases {hall hall' : Hall σ} {event : Event η}
    (taken : hall.step backend event = some hall') :
    (∃ i choice position shared, event = .handler i choice ∧
        Position.Moves backend i hall.shared (hall.position i) choice position shared ∧
        hall' = { shared, position := Function.update hall.position i position }) ∨
      ∃ change, event = .background change ∧ hall' = { hall with shared :=
        { hall.shared with registry := backend.background change hall.shared.registry } } := by
  cases event with
  | background change => exact .inr ⟨change, rfl, (Option.some.inj taken).symm⟩
  | handler i choice =>
      obtain ⟨out, moved, rfl⟩ := Option.map_eq_some_iff.mp taken
      exact .inl ⟨i, choice, out.1, out.2, rfl, Position.moves_of_step moved, rfl⟩

theorem step_eq (hall : Hall σ) (event : Event η) :
    World.step backend hall.toWorld event = (hall.step backend event).map toWorld := by
  cases event with
  | background change => rfl
  | handler i choice =>
      simp only [World.step, toWorld, Position.react_program, step, Option.map_map]
      congr 1
      funext out
      simp only [Function.comp, toWorld, World.mk.injEq, true_and]
      funext j
      simp only [Function.update_apply]
      split <;> rfl

theorem run_eq (hall : Hall σ) (events : List (Event η)) :
    Machine.run (World.step backend) hall.toWorld events =
      (Machine.run (step backend) hall events).map toWorld :=
  Machine.run_image step_eq hall events

theorem of_run {registry : σ} {peers : Nat → SocketAddr} {events : List (Event η)} {w : World σ}
    (runs : Machine.run (World.step backend) (World.start registry peers) events = some w) :
    ∃ hall, Machine.run (step backend) (start registry peers) events = some hall ∧
      hall.toWorld = w := by
  rw [← toWorld_start, run_eq] at runs
  exact Option.map_eq_some_iff.mp runs

end Hall

end TCPunch
