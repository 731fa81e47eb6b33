import TCPunch.Server.Positions

/-! # What holds of every session

Facts about handlers that do not depend on the registry behind them: which frames a
handler has written at each position, and what becomes of a waiting handler once a
message is in its channel or its time is up.
-/

namespace TCPunch

/-- The write of a frame fails. -/
def Event.writeFails {η : Type} : Event η → Bool
  | .handler _ (.write (.error _)) => true
  | _ => false

/-- A registry that names the channel of a registration after its handler. -/
def Backend.OwnChannels {σ η : Type} (backend : Backend σ η) : Prop :=
  ∀ i request s token channel sent,
    (backend.register i request s).1 = .ok ⟨.waiting token channel, sent⟩ ∨
      (backend.register i request s).1 = .ok ⟨.resumed token channel, sent⟩ → channel = i

namespace Position

/-- The wait of a handler that is registered and has not finished waiting. -/
def wait? : Position → Option Handler.Wait
  | .greeting wait => some wait
  | .waiting wait => some wait
  | .leaving wait => some wait
  | _ => none

/-- A handler that has not been registered yet. -/
def Early : Position → Prop
  | .reading _ => True
  | .registering _ => True
  | _ => False

theorem Early.wait? {position : Position} (early : position.Early) : position.wait? = none := by
  cases position with
  | reading | registering | closing | counting | returned => rfl
  | greeting | waiting | leaving => exact early.elim

/-- What a handler knows and has written up to the end of its wait. -/
def Fits (peer : SocketAddr) (i : Nat) (frames : List ServerResponse) : Position → Prop
  | .reading clientInfo => PeerConnectionData.fromSocketAddr peer = some clientInfo ∧ frames = []
  | .registering request =>
      PeerConnectionData.fromSocketAddr peer = some request.clientInfo ∧ frames = []
  | .greeting wait =>
      PeerConnectionData.fromSocketAddr peer = some wait.clientInfo ∧ wait.peerNotify = i ∧
        frames = []
  | .waiting wait =>
      PeerConnectionData.fromSocketAddr peer = some wait.clientInfo ∧ wait.peerNotify = i ∧
        frames = [ServerResponse.waiting wait.clientInfo wait.token]
  | .leaving wait =>
      PeerConnectionData.fromSocketAddr peer = some wait.clientInfo ∧ wait.peerNotify = i ∧
        frames = [ServerResponse.waiting wait.clientInfo wait.token]
  | _ => True

/-- The handler will tell its client about the peer, or has done so. -/
def Told (wait : Handler.Wait) (peer : PeerConnectionData) (message : Option PeerConnectionData)
    (frames : List ServerResponse) : Position → Prop
  | .greeting w => w = wait ∧ message = some peer ∧ frames = []
  | .waiting w =>
      w = wait ∧ message = some peer ∧
        frames = [ServerResponse.waiting wait.clientInfo wait.token]
  | .closing frame counter =>
      frame = ServerResponse.paired wait.clientInfo peer wait.token ∧
        counter = some .pairingSucceeded ∧
        frames = [ServerResponse.waiting wait.clientInfo wait.token]
  | .counting _ =>
      frames = [ServerResponse.waiting wait.clientInfo wait.token,
        ServerResponse.paired wait.clientInfo peer wait.token]
  | .returned _ =>
      frames = [ServerResponse.waiting wait.clientInfo wait.token,
        ServerResponse.paired wait.clientInfo peer wait.token]
  | _ => False

/-- The handler will tell its client that the time is up, or has done so. -/
def TimedOut (wait : Handler.Wait) (frames : List ServerResponse) : Position → Prop
  | .leaving w => w = wait ∧ frames = [ServerResponse.waiting wait.clientInfo wait.token]
  | .closing frame counter =>
      frame = ServerResponse.timeout wait.clientInfo wait.token ∧
        counter = some .timeoutOccurred ∧
        frames = [ServerResponse.waiting wait.clientInfo wait.token]
  | .counting _ =>
      frames = [ServerResponse.waiting wait.clientInfo wait.token,
        ServerResponse.timeout wait.clientInfo wait.token]
  | .returned _ =>
      frames = [ServerResponse.waiting wait.clientInfo wait.token,
        ServerResponse.timeout wait.clientInfo wait.token]
  | _ => False

end Position

namespace Hall

variable {σ η : Type} {backend : Backend σ η} {hall hall' : Hall σ} {peers : Nat → SocketAddr}

theorem deliver_keeps {sent : List Notification} {inbox : Chan → Option PeerConnectionData}
    {channel peer} (there : inbox channel = some peer) :
    sent.foldl Shared.deliver inbox channel = some peer := by
  induction sent generalizing inbox with
  | nil => exact there
  | cons message rest ih =>
      apply ih
      simp only [Shared.deliver, Function.update_apply]
      split
      · rename_i same
        rw [← same, there, Option.getD_some]
      · exact there

/-- An answer to handler `i` touches no other handler's frames and removes no message. -/
theorem moves_shared {i choice} {s shared : Shared σ} {position position' : Position}
    (moved : Position.Moves backend i s position choice position' shared) :
    (∀ j, j ≠ i → shared.frames j = s.frames j) ∧
      ∀ channel peer, s.inbox channel = some peer → shared.inbox channel = some peer := by
  cases moved with
  | register request =>
      refine ⟨fun _ _ => rfl, fun channel peer there => ?_⟩
      simp only [Shared.registered]
      cases (backend.register i request s.registry).1 with
      | ok answer => exact deliver_keeps there
      | error e => exact there
  | greet | close =>
      exact ⟨fun j other => Function.update_of_ne other .., fun _ _ there => there⟩
  | count counter => cases counter <;> exact ⟨fun _ _ => rfl, fun _ _ there => there⟩
  | read | greetFails | arrived | closed | elapsed | unregister | closeFails =>
      exact ⟨fun _ _ => rfl, fun _ _ there => there⟩

theorem step_other {event i} (taken : hall.step backend event = some hall')
    (other : ∀ choice, event ≠ .handler i choice) :
    hall'.position i = hall.position i ∧ hall'.shared.frames i = hall.shared.frames i ∧
      ∀ channel peer, hall.shared.inbox channel = some peer →
        hall'.shared.inbox channel = some peer := by
  rcases step_cases taken with ⟨j, choice, position, shared, rfl, moved, rfl⟩ | ⟨change, rfl, rfl⟩
  · have apart : i ≠ j := fun same => other choice (by rw [same])
    obtain ⟨frames, inbox⟩ := moves_shared moved
    exact ⟨Function.update_of_ne apart .., frames i apart, inbox⟩
  · exact ⟨rfl, rfl, fun _ _ there => there⟩

theorem run_other {events : List (Event η)} {i}
    (runs : Machine.run (step backend) hall events = some hall')
    (other : ∀ event ∈ events, ∀ choice, event ≠ .handler i choice) :
    hall'.position i = hall.position i := by
  have kept : ∀ (s : Hall σ) (event : Event η) s', s.position i = hall.position i →
      (∀ choice, event ≠ .handler i choice) → s.step backend event = some s' →
      s'.position i = hall.position i :=
    fun _ _ _ same apart taken => (step_other taken apart).1.trans same
  exact Machine.run_invariant kept rfl (Machine.along_of_forall other hall) runs

/-- Every handler fits its position. -/
def Fits (peers : Nat → SocketAddr) (hall : Hall σ) : Prop :=
  ∀ i, (hall.position i).Fits (peers i) i (hall.shared.frames i)

theorem fits_start (registry : σ) (peers : Nat → SocketAddr) : (start registry peers).Fits peers := by
  intro i
  simp only [start, Position.start]
  cases known : PeerConnectionData.fromSocketAddr (peers i) with
  | none => trivial
  | some clientInfo => exact ⟨known, rfl⟩

theorem Fits.step (own : backend.OwnChannels) (fits : hall.Fits peers) {event}
    (taken : hall.step backend event = some hall') : hall'.Fits peers := by
  rcases step_cases taken with ⟨i, choice, position, shared, rfl, moved, rfl⟩ | ⟨change, rfl, rfl⟩
  · intro j
    by_cases same : j = i
    · subst same
      have here := fits j
      simp only [Function.update_self]
      generalize hall.position j = before at moved here
      cases moved with
      | read clientInfo outcome => cases outcome <;> first | exact here | trivial
      | register request =>
          cases answer : (backend.register j request hall.shared.registry).1 with
          | error e => trivial
          | ok registered =>
              obtain ⟨result, sent⟩ := registered
              cases result with
              | paired => trivial
              | waiting token channel => exact ⟨here.1, own _ _ _ _ _ _ (.inl answer), here.2⟩
              | resumed token channel => exact ⟨here.1, own _ _ _ _ _ _ (.inr answer), here.2⟩
      | greet wait =>
          refine ⟨here.1, here.2.1, ?_⟩
          simp only [Shared.wrote, Function.update_self, here.2.2, List.nil_append]
      | elapsed wait silent => exact here
      | close frame counter => cases counter <;> trivial
      | greetFails | arrived | closed | unregister | closeFails | count => trivial
    · obtain ⟨frames, -⟩ := moves_shared moved
      simp only [Function.update_of_ne same, frames j same]
      exact fits j
  · exact fits

/-! ## A message in the channel, or no time left -/

def Told (hall : Hall σ) (i : Nat) (wait : Handler.Wait) (peer : PeerConnectionData) : Prop :=
  (hall.position i).Told wait peer (hall.shared.inbox wait.peerNotify) (hall.shared.frames i)

def TimedOut (hall : Hall σ) (i : Nat) (wait : Handler.Wait) : Prop :=
  (hall.position i).TimedOut wait (hall.shared.frames i)

/-- Once a message is in the channel of a handler that has not stopped waiting, the
    handler passes it on. -/
theorem Told.step {i wait peer event} (told : hall.Told i wait peer)
    (writes : event.writeFails = false) (taken : hall.step backend event = some hall') :
    hall'.Told i wait peer := by
  by_cases mine : ∃ choice, event = .handler i choice
  · obtain ⟨choice, rfl⟩ := mine
    rcases step_cases taken with ⟨j, choice', position, shared, same, moved, rfl⟩ | ⟨_, same, -⟩
    · cases same
      simp only [Told, Function.update_self] at told ⊢
      generalize hall.position i = before at moved told
      cases moved with
      | greet w =>
          obtain ⟨rfl, there, frames⟩ := told
          refine ⟨rfl, there, ?_⟩
          simp only [Shared.wrote, Function.update_self, frames, List.nil_append]
      | arrived w peerInfo there =>
          obtain ⟨rfl, message, frames⟩ := told
          obtain rfl := Option.some.inj (there.symm.trans message)
          exact ⟨rfl, rfl, frames⟩
      | closed w silent dropped =>
          obtain ⟨rfl, message, -⟩ := told
          simp [silent] at message
      | elapsed w silent =>
          obtain ⟨rfl, message, -⟩ := told
          simp [silent] at message
      | close frame counter =>
          obtain ⟨rfl, rfl, frames⟩ := told
          simp only [Position.afterClose, Position.Told, Shared.wrote, Function.update_self, frames]
          rfl
      | count counter => cases counter <;> exact told
      | greetFails | closeFails => simp [Event.writeFails] at writes
      | read | register | unregister => exact told.elim
    · cases same
  · obtain ⟨position, frames, inbox⟩ := step_other taken (by simpa using mine)
    simp only [Told, position, frames] at told ⊢
    cases here : hall.position i with
    | greeting w =>
        rw [here] at told
        exact ⟨told.1, inbox _ _ told.2.1, told.2.2⟩
    | waiting w =>
        rw [here] at told
        exact ⟨told.1, inbox _ _ told.2.1, told.2.2⟩
    | reading | registering | leaving | closing | counting | returned =>
        rw [here] at told
        exact told

theorem TimedOut.step {i wait event} (late : hall.TimedOut i wait)
    (writes : event.writeFails = false) (taken : hall.step backend event = some hall') :
    hall'.TimedOut i wait := by
  by_cases mine : ∃ choice, event = .handler i choice
  · obtain ⟨choice, rfl⟩ := mine
    rcases step_cases taken with ⟨j, choice', position, shared, same, moved, rfl⟩ | ⟨_, same, -⟩
    · cases same
      simp only [TimedOut, Function.update_self] at late ⊢
      generalize hall.position i = before at moved late
      cases moved with
      | unregister w =>
          obtain ⟨rfl, frames⟩ := late
          exact ⟨rfl, rfl, frames⟩
      | close frame counter =>
          obtain ⟨rfl, rfl, frames⟩ := late
          simp only [Position.afterClose, Position.TimedOut, Shared.wrote, Function.update_self,
            frames]
          rfl
      | count counter => cases counter <;> exact late
      | greetFails | closeFails => simp [Event.writeFails] at writes
      | read | register | greet | arrived | closed | elapsed => exact late.elim
    · cases same
  · obtain ⟨position, frames, -⟩ := step_other taken (by simpa using mine)
    simpa only [TimedOut, position, frames] using late

/-- What such a handler has written at any time, and that nothing can hold it up. -/
theorem Told.frames (backend : Backend σ η) {i wait peer} (told : hall.Told i wait peer) :
    hall.shared.frames i <+: [ServerResponse.waiting wait.clientInfo wait.token,
        ServerResponse.paired wait.clientInfo peer wait.token] ∧
      (∀ result, hall.position i = .returned result →
        hall.shared.frames i = [ServerResponse.waiting wait.clientInfo wait.token,
          ServerResponse.paired wait.clientInfo peer wait.token]) ∧
      ((∀ result, hall.position i ≠ .returned result) → ∃ choice,
        (Event.handler i choice : Event η).writeFails = false ∧
          (hall.step backend (.handler i choice)).isSome = true) := by
  simp only [Told] at told
  simp only [Hall.step, Option.isSome_map]
  cases here : hall.position i with
  | greeting w =>
      rw [here] at told
      exact ⟨by simp [told.2.2], by simp, fun _ => ⟨.write (.ok ()), rfl, rfl⟩⟩
  | waiting w =>
      rw [here] at told
      obtain ⟨rfl, message, frames⟩ := told
      refine ⟨by simp [frames], by simp, fun _ => ⟨.arrived, rfl, ?_⟩⟩
      simp [Position.step, message]
  | closing frame counter =>
      rw [here] at told
      exact ⟨by simp [told.2.2], by simp, fun _ => ⟨.write (.ok ()), rfl, rfl⟩⟩
  | counting counter =>
      rw [here] at told
      exact ⟨by rw [told], by simp, fun _ => ⟨.count, rfl, rfl⟩⟩
  | returned result =>
      rw [here] at told
      exact ⟨by rw [told], fun _ _ => told, fun running => absurd rfl (running result)⟩
  | reading | registering | leaving =>
      rw [here] at told
      exact told.elim

end Hall

end TCPunch
