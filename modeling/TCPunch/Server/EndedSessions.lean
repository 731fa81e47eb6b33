import TCPunch.Server.Partners

/-! # Sessions that have ended

A token names a session, from the first client that draws it through all the connections
that resume it. Once the entry of a session is gone, for whatever reason, the session is
over: no entry carries its token again, and nobody who comes later is told to wait under
it, although the token may still be in the map of tokens.
-/

namespace TCPunch.InMemoryRegistry

/-- The token was drawn by a connection that has come as far as using it. -/
def Begun (entropy : Entropy) (g : Nat → Standing Progress) (token : Uuid) : Prop :=
  ∃ k, entropy.newV4 k = token ∧ (g k).Enrolled

variable {config : RegistryConfig} {entropy : Entropy} {address : Nat → Option PeerConnectionData}
  {s s' : Scene InMemoryRegistry} {g : Nat → Standing Progress} {i : Nat} {standing : Standing Progress}

theorem Happens.enrolled {before : Standing Progress}
    (happens : Happens config entropy address i s before standing s') (enrolled : before.Enrolled) :
    standing.Enrolled := by
  cases happens with
  | wait request token channel waited => cases waited <;> trivial
  | read | resume | take | enter => exact enrolled.elim
  | write | idle => exact enrolled
  | announce | leave | send | silent => trivial

theorem Happens.enrolled_mono {k : Nat}
    (happens : Happens config entropy address i s (g i) standing s') (enrolled : (g k).Enrolled) :
    (Function.update g i standing k).Enrolled := by
  by_cases self : k = i
  · subst self
    rw [Function.update_self]
    exact happens.enrolled enrolled
  · rwa [Function.update_of_ne self]

theorem Begun.mono {token : Uuid} (begun : Begun entropy g token)
    (happens : Happens config entropy address i s (g i) standing s') :
    Begun entropy (Function.update g i standing) token := by
  obtain ⟨k, drawn, enrolled⟩ := begun
  exact ⟨k, drawn, happens.enrolled_mono enrolled⟩

/-- What holds of the tokens in entries, and of those that connections are given. -/
structure Tokens (stored : Uuid → Prop) (given : Nat → Uuid → Prop) (s : Scene InMemoryRegistry)
    (g : Nat → Standing Progress) : Prop where
  entries : ∀ name entry, s.registry.pairings.lookup name = some entry → stored entry.token
  waits : ∀ i request token channel, g i = .waiting request token channel → given i token
  frames : ∀ i, ∀ frame ∈ s.frames i, frame.status = .waiting → given i frame.reconnectToken

section Tokens

variable {stored stored' : Uuid → Prop} {given given' : Nat → Uuid → Prop}

theorem Tokens.imp (tokens : Tokens stored given s g) (stores : ∀ token, stored token → stored' token)
    (gives : ∀ i token, given i token → given' i token) : Tokens stored' given' s g where
  entries name entry found := stores _ (tokens.entries name entry found)
  waits i request token channel waiting := gives i token (tokens.waits i request token channel waiting)
  frames i frame member waiting := gives i _ (tokens.frames i frame member waiting)

theorem Tokens.move (tokens : Tokens stored given s g)
    (entries : ∀ name entry, s'.registry.pairings.lookup name = some entry → stored entry.token)
    (waits : ∀ request token channel, standing = .waiting request token channel → given i token)
    (frames : s'.frames = s.frames) : Tokens stored given s' (Function.update g i standing) := by
  refine ⟨entries, fun j request token channel waiting => ?_, frames ▸ tokens.frames⟩
  by_cases self : j = i
  · subst self
    rw [Function.update_self] at waiting
    exact waits request token channel waiting
  · rw [Function.update_of_ne self] at waiting
    exact tokens.waits j request token channel waiting

/-- A token comes into an entry when its connection enrols, and is given to a connection with
    the entry it resumes or after it enrolled. -/
theorem Tokens.happening (tokens : Tokens stored given s g)
    (happens : Happens config entropy address i s (g i) standing s')
    (resumes : ∀ token, standing.Enrolled → stored token → given i token)
    (enters : ¬ (g i).Enrolled → standing.Enrolled → stored (entropy.newV4 i))
    (announces : (g i).Enrolled → given i (entropy.newV4 i)) :
    Tokens stored given s' (Function.update g i standing) := by
  have fewer : ∀ {registry : InMemoryRegistry} {name},
      registry.pairings = s.registry.pairings.erase name →
      ∀ name entry, registry.pairings.lookup name = some entry → stored entry.token := by
    intro registry erasedName erased name entry found
    rw [erased] at found
    exact tokens.entries name entry (FiniteMap.of_lookup_erase found).2
  generalize before : g i = stands at happens
  cases happens with
  | read own outcome known =>
      refine tokens.move ?_ ?_ ?_
      · cases outcome <;> exact tokens.entries
      · intro request token channel waiting
        cases outcome <;> cases waiting
      · cases outcome <;> rfl
  | write _ frame may =>
      rw [← before, Function.update_eq_self]
      refine ⟨tokens.entries, tokens.waits, fun j other member waiting => ?_⟩
      by_cases self : j = i
      · subst self
        simp only [Scene.update, Shared.wrote, Function.update_self, List.mem_append,
          List.mem_singleton] at member
        rcases member with old | rfl
        · exact tokens.frames j other old waiting
        · obtain ⟨request, channel, stands⟩ := may.of_waiting waiting
          exact tokens.waits j request _ channel (before.trans stands)
      · simp only [Scene.update, Shared.wrote, Function.update_of_ne self] at member
        exact tokens.frames j other member waiting
  | wait request token channel waited =>
      refine tokens.move tokens.entries (fun request' token' channel' waiting => ?_) rfl
      cases waited with
      | arrived peer => cases waiting
      | closed | elapsed =>
          cases waiting
          exact tokens.waits i request token channel before
  | idle _ shared same inbox frames =>
      refine tokens.move (fun name entry found => tokens.entries name entry (same ▸ found)) ?_ frames
      intro request token channel waiting
      exact tokens.waits i request token channel (before.trans waiting)
  | resume request token entry registry found own inserted =>
      refine tokens.move (fun name other there => ?_) (fun _ _ _ waiting => ?_) rfl
      · simp only [Scene.update, inserted] at there
        rcases FiniteMap.of_lookup_insert there with ⟨-, rfl⟩ | ⟨-, there⟩
        · exact tokens.entries request.pairingName entry found
        · exact tokens.entries name other there
      · cases waiting
        rw [← own]
        exact resumes _ trivial (tokens.entries request.pairingName entry found)
  | take request entry registry found erased =>
      exact tokens.move (fewer erased) (fun _ _ _ waiting => by cases waiting) rfl
  | enter request entry registry first inserted =>
      refine tokens.move (fun name other there => ?_) (fun _ _ _ waiting => by cases waiting) rfl
      simp only [Scene.update, inserted] at there
      rcases FiniteMap.of_lookup_insert there with ⟨-, rfl⟩ | ⟨-, there⟩
      · rw [first]
        exact enters (by rw [before]; exact id) trivial
      · exact tokens.entries name other there
  | announce request registry same =>
      refine tokens.move (fun name entry found => tokens.entries name entry (same ▸ found)) ?_ rfl
      intro request' token' channel' waiting
      cases waiting
      exact announces (by rw [before]; trivial)
  | leave request token channel registry erased =>
      exact tokens.move (fewer erased) (fun _ _ _ waiting => by cases waiting) rfl
  | send request entry message => exact tokens.move tokens.entries (fun _ _ _ waiting => by cases waiting) rfl
  | silent request entry registry sender same =>
      exact tokens.move (fun name entry found => tokens.entries name entry (same ▸ found))
        (fun _ _ _ waiting => by cases waiting) rfl

end Tokens

/-- The tokens in use were drawn by connections that have enrolled, and are given to such. -/
def Issued (entropy : Entropy) (s : Scene InMemoryRegistry) (g : Nat → Standing Progress) : Prop :=
  Tokens (Begun entropy g) (fun i token => Begun entropy g token ∧ (g i).Enrolled) s g

variable (config entropy address) in
theorem keepsIssued : Team.Keeps (Scene.rules (engine config))
    (fun i => Methods.discipline (discipline config entropy i) (address i)) (Issued entropy) := by
  apply keeps_of_happens
  · intro s g i standing s' issued happens
    have later : Tokens (Begun entropy (Function.update g i standing)) (fun j token =>
        Begun entropy (Function.update g i standing) token ∧ (Function.update g i standing j).Enrolled)
        s g :=
      issued.imp (fun _ begun => begun.mono happens)
        fun _ _ given => ⟨given.1.mono happens, happens.enrolled_mono given.2⟩
    apply later.happening happens
    · intro token enrolled begun
      exact ⟨begun, by rwa [Function.update_self]⟩
    · intro _ enrolled
      exact ⟨i, rfl, by rwa [Function.update_self]⟩
    · intro enrolled
      have here := happens.enrolled_mono enrolled
      exact ⟨⟨i, rfl, here⟩, here⟩
  · intro s g registry issued fewer
    exact ⟨fun name entry found => issued.entries name entry (fewer name entry found), issued.waits,
      issued.frames⟩

/-- A session is over: it began, and there is no entry of it. Those who come late are given
    other tokens. -/
structure Ended (entropy : Entropy) (late : Nat → Prop) (token : Uuid) (s : Scene InMemoryRegistry)
    (g : Nat → Standing Progress) : Prop where
  began : ∃ k, entropy.newV4 k = token ∧ ¬ late k ∧ (g k).Enrolled
  tokens : Tokens (· ≠ token) (fun i other => late i → other ≠ token) s g

variable (config address) in
theorem keepsEnded {token : Uuid}
    (fresh : ∀ i j, entropy.newV4 i = token → entropy.newV4 j = token → i = j) (late : Nat → Prop) :
    Team.Keeps (Scene.rules (engine config))
      (fun i => Methods.discipline (discipline config entropy i) (address i))
      (Ended entropy late token) := by
  apply keeps_of_happens
  · rintro s g i standing s' ⟨⟨k, drawn, early, enrolled⟩, tokens⟩ happens
    have others : ∀ j, j ≠ k → entropy.newV4 j ≠ token := by
      intro j apart same
      exact apart (fresh j k same drawn)
    refine ⟨⟨k, drawn, early, happens.enrolled_mono enrolled⟩, ?_⟩
    apply tokens.happening happens
    · exact fun _ _ other _ => other
    · intro notYet _
      apply others
      rintro rfl
      exact notYet enrolled
    · intro _ isLate
      apply others
      rintro rfl
      exact early isLate
  · rintro s g registry ⟨began, tokens⟩ fewer
    exact ⟨began, fun name entry found => tokens.entries name entry (fewer name entry found),
      tokens.waits, tokens.frames⟩

theorem Fits.heard {partner : Nat → Option Nat} {received : Option ClientRequest}
    {inbox : Chan → Option PeerConnectionData}
    (fits : Fits address partner received inbox i standing) (enrolled : standing.Enrolled) :
    received ≠ none := by
  have of_asked : ∀ {request}, Asked address received i request → received ≠ none := by
    rintro request ⟨-, named⟩ rfl
    cases named
  cases standing with
  | unread | asking => exact enrolled.elim
  | calling request progress =>
      cases progress with
      | holding entry => exact of_asked fits.1
      | entered => exact of_asked fits
  | matched | waiting | learned => exact of_asked fits.1
  | left | refused => exact of_asked fits

/-- Let a token be drawn once. Once the entry of a session that began is gone, no entry carries the session's token ever
    again, and no client that is heard later is told to wait under it, whatever token it
    shows. -/
theorem ended_session_stays_ended {peers : Nat → SocketAddr}
    {moves later : List (Team.Move Nat (Way Unit) (String × Instant))}
    {middle final : Team Nat (Scene InMemoryRegistry) (ServerCall.Reply MapCall.Reply) (Except IoError Unit)}
    {token : Uuid} (fresh : ∀ i j, entropy.newV4 i = token → entropy.newV4 j = token → i = j)
    (runs : Run config entropy peers moves = some middle)
    (began : ∃ i, ∃ frame ∈ middle.shared.frames i, frame.status = .waiting ∧ frame.reconnectToken = token)
    (gone : ∀ name entry, middle.shared.registry.pairings.lookup name = some entry →
      entry.token ≠ token)
    (goesOn : Machine.run (Team.step (Scene.rules (engine config))) middle later = some final) :
    (∀ name entry, final.shared.registry.pairings.lookup name = some entry → entry.token ≠ token) ∧
      ∀ j, middle.shared.received j = none → ∀ frame ∈ final.shared.frames j,
        frame.status = .waiting → frame.reconnectToken ≠ token := by
  have keeps := (keepsMatched config entropy fun i => PeerConnectionData.fromSocketAddr (peers i)).and
    (keepsIssued config entropy fun i => PeerConnectionData.fromSocketAddr (peers i))
  have issued : Issued entropy (Scene.start new) fun _ => .unread := by
    constructor
    · intro name entry found
      cases found
    · intro i request token channel waiting
      cases waiting
    · intro i frame member
      cases member
  obtain ⟨g, ⟨⟨partner, matched⟩, issued⟩, obey⟩ := Team.Orderly.run
    ⟨_, ⟨⟨_, start_matched _⟩, issued⟩, start_obeys config entropy peers⟩ keeps runs
  have heard : ∀ j, middle.shared.received j = none → ¬ (g j).Enrolled :=
    fun j unheard enrolled => (matched.fits j).heard enrolled unheard
  -- From here on the session is over, for everybody who has not been heard yet.
  have ended : Ended entropy (fun j => middle.shared.received j = none) token middle.shared g := by
    obtain ⟨i, frame, member, waiting, rfl⟩ := began
    obtain ⟨⟨k, drawn, enrolled⟩, -⟩ := issued.frames i frame member waiting
    refine ⟨⟨k, drawn, fun unheard => heard k unheard enrolled, enrolled⟩, gone, ?_, ?_⟩
    · intro j request other channel stands unheard
      exact absurd (issued.waits j request other channel stands).2 (heard j unheard)
    · intro j other member' waiting' unheard
      exact absurd (issued.frames j other member' waiting').2 (heard j unheard)
  obtain ⟨g', ended, -⟩ := Team.Orderly.run ⟨g, ended, obey⟩
    (keepsEnded config _ fresh _) goesOn
  exact ⟨ended.tokens.entries,
    fun j unheard frame member waiting => ended.tokens.frames j frame member waiting unheard⟩

/-- A client waits under the token 0, and its time is up. -/
def waitInVain : List (Team.Move Nat (Way Unit) (String × Instant)) :=
  [.task 0 (.read (.request ⟨"room", none⟩)), .task 0 (.registry ()), .task 0 (.registry ()),
    .task 0 (.registry ()), .task 0 (.write (.ok ())), .task 0 .elapsed, .task 0 (.registry ()),
    .task 0 (.registry ()), .task 0 (.write (.ok ()))]

/-- It comes back on a new connection and shows its token. -/
def comeBack : List (Team.Move Nat (Way Unit) (String × Instant)) :=
  [.task 1 (.read (.request ⟨"room", some ⟨0⟩⟩)), .task 1 (.registry ()), .task 1 (.registry ()),
    .task 1 (.registry ()), .task 1 (.registry ()), .task 1 (.write (.ok ()))]

theorem timed_out_session_stays_ended :
    let entropy : Entropy := ⟨fun i => if i = 0 then ⟨0⟩ else ⟨1⟩, fun _ => 0, fun _ => 0⟩
    ∃ middle final, Run ⟨60, "a"⟩ entropy (fun _ => .v4 ⟨10, 0, 0, 1⟩ 4000) waitInVain = some middle ∧
      Machine.run (Team.step (Scene.rules (engine ⟨60, "a"⟩))) middle comeBack = some final ∧
      final.shared.frames 1 = [.waiting ⟨⟨10, 0, 0, 1⟩, 4000⟩ ⟨1⟩] ∧
      ∀ frame ∈ final.shared.frames 1, frame.status = .waiting → frame.reconnectToken ≠ ⟨0⟩ := by
  intro entropy
  have ends : (Run ⟨60, "a"⟩ entropy (fun _ => .v4 ⟨10, 0, 0, 1⟩ 4000) waitInVain).map
      (fun middle => (middle.shared.frames 0, middle.shared.received 1,
        decide (middle.shared.registry.pairings = ∅),
        (Machine.run (Team.step (Scene.rules (engine ⟨60, "a"⟩))) middle comeBack).map
          fun final => final.shared.frames 1)) =
      some ([.waiting ⟨⟨10, 0, 0, 1⟩, 4000⟩ ⟨0⟩, .timeout ⟨⟨10, 0, 0, 1⟩, 4000⟩ ⟨0⟩], none, true,
        some [.waiting ⟨⟨10, 0, 0, 1⟩, 4000⟩ ⟨1⟩]) := by decide +kernel
  obtain ⟨middle, runs, seen⟩ := Option.map_eq_some_iff.mp ends
  obtain ⟨frames, unheard, empty, goesOn⟩ : _ ∧ _ ∧ _ ∧ _ := by simpa only [Prod.mk.injEq] using seen
  obtain ⟨final, goesOn, answered⟩ := Option.map_eq_some_iff.mp goesOn
  have fresh : ∀ i j, entropy.newV4 i = ⟨0⟩ → entropy.newV4 j = ⟨0⟩ → i = j := by
    simp [entropy]
  have gone : ∀ name entry, middle.shared.registry.pairings.lookup name = some entry →
      entry.token ≠ ⟨0⟩ := by
    intro name entry found
    rw [of_decide_eq_true empty] at found
    cases found
  have stays := ended_session_stays_ended fresh runs ⟨0, _, by rw [frames]; exact .head _, rfl, rfl⟩ gone goesOn
  exact ⟨middle, final, runs, goesOn, answered, stays.2 1 unheard⟩

end TCPunch.InMemoryRegistry
