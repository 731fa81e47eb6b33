import TCPunch.Client.Pair

/-! # Which descriptor a call returns

A process may call `pair` again and again. A call that throws, or that reaches its peer by
`connect`, leaves its listening thread behind, and the two atomics are the same for all
calls. The invariant follows the descriptors: each has one owner, a call or a thread, until
it is stored in `accepting_socket` or returned.
-/

namespace TCPunch.Client

/-! ## What is said of calls -/

/-- Call `k` was told its own address and the address of its peer, each at least in part. -/
def Heard (s : Process) (k : Nat) (info peer : List UInt8) : Prop :=
  ∃ first second, s.received k = [first, second] ∧ first ≠ [] ∧ second ≠ [] ∧
    first <+: info ∧ second <+: peer

def Unreturned (s : Process) (fd : Int) : Prop := ∀ k, s.results k ≠ some (.ok fd)

/-- The socket is on its way to the peer. -/
def Toward (peer : Utils.PeerConnectionData) : Link → Prop
  | .idle => True
  | .connecting other => other = peer
  | .connected other => other = peer
  | .listening => False

/-- The socket of a call for its peer, which nobody else has. -/
structure Own (s : Process) (fd : Int) (port : Option (List UInt8)) (links : Link → Prop) : Prop where
  there : ∃ link flags, s.sockets fd = some ⟨port, link, flags⟩ ∧ links link
  unaccepted : ∀ j, s.accepted j ≠ some fd
  unreturned : Unreturned s fd

section

variable (spent : Nat → Prop) (since : Nat)

/-- What call `k` may return: its own socket, connected to the peer that it was told of, or a
    socket that a listening thread accepted, and then its own thread has accepted one too. A
    spent thread gives nothing to later calls. -/
def Outcome (s : Process) (k : Nat) (fd : Int) : Prop :=
  ∃ info peer socket, Heard s k info peer ∧ s.sockets fd = some socket ∧
    (socket.port = some (view info).port ∧ socket.link = .connected (view peer) ∧
        (∀ j, s.accepted j ≠ some fd) ∨
      (∃ remote, socket.link = .connected remote) ∧ (s.accepted k).isSome ∧
        ∃ j, s.accepted j = some fd ∧ j ≤ k ∧ (since < k → ¬ spent j) ∧
          (j = k → socket.port = some (view info).port))

/-- The current call has its listening thread and both answers. -/
structure Busy (s : Process) (info peer : List UInt8) : Prop where
  running : s.results s.call = none
  created : s.created s.call = some info
  heard : Heard s s.call info peer

/-- What is known of the current call. -/
def MainFits (s : Process) : Place → Prop
  | .outside => True
  | .entering | .resetting | .asking =>
      s.results s.call = none ∧ s.created s.call = none ∧ s.received s.call = []
  | .disconnected => s.results s.call = none
  | .informed info =>
      s.results s.call = none ∧ s.created s.call = none ∧
        ∃ first, s.received s.call = [first] ∧ first ≠ [] ∧ first <+: info
  | .listening info =>
      s.results s.call = none ∧ s.created s.call = some info ∧
        ∃ first, s.received s.call = [first] ∧ first ≠ [] ∧ first <+: info
  | .answered info peer => Busy s info peer
  | .opened info peer fd => Busy s info peer ∧ (fd < 0 ∨ Own s fd none (· = .idle))
  | .usable info peer fd => Busy s info peer ∧ Own s fd none (· = .idle)
  | .punching info peer fd =>
      Busy s info peer ∧ Own s fd (some (view info).port) (Toward (view peer))
  | .linked info peer fd =>
      Busy s info peer ∧ Own s fd (some (view info).port) (· = .connected (view peer))
  | .noticed info peer _ => Busy s info peer ∧ s.established = true
  | .joined => (∃ info peer, Busy s info peer) ∧ s.exited s.call = true
  | .chosen fd => s.results s.call = none ∧ Outcome spent since s s.call fd ∧ Unreturned s fd
  | .settled fd =>
      s.results s.call = none ∧ Outcome spent since s s.call fd ∧ Unreturned s fd ∧
        ∀ socket, s.sockets fd = some socket → socket.Blocking ∨ s.flagsFailed s.call = true
  | _ => False

end

/-- The port is that of the call which started thread `j`, as long as the call goes on. -/
def Located (s : Process) (j : Nat) (port : List UInt8) : Prop :=
  ∃ info, s.created j = some info ∧ (s.results j = none → port = (view info).port)

/-- Whoever stored a descriptor in the current call, it is not undone. -/
def Remains (s : Process) (j : Nat) : Prop := s.call = j → s.accepting ≠ -1

/-- What is known of listening thread `j`. -/
def ListenerFits (s : Process) (j : Nat) : Place → Prop
  | .unborn => s.exited j = false ∧ s.accepted j = none
  | .born | .owning _ => s.exited j = false ∧ s.accepted j = none ∧ (s.created j).isSome
  | .located port _ => s.exited j = false ∧ s.accepted j = none ∧ Located s j port
  | .bound port fd | .accepting port fd =>
      s.exited j = false ∧ s.accepted j = none ∧ Located s j port ∧
        ∃ socket, s.sockets fd = some socket ∧ socket.port = some port
  | .holding fd =>
      s.exited j = false ∧ s.accepted j = some fd ∧ (s.created j).isSome ∧ Unreturned s fd
  | .stored fd | .announced fd =>
      s.exited j = false ∧ s.accepted j = some fd ∧ (s.created j).isSome ∧ Remains s j
  | .gone => (s.created j).isSome ∧ (s.exited j = true → (s.accepted j).isSome ∧ Remains s j)
  | _ => False

namespace Place

/-- The descriptor that the call is about to use or return. -/
def own : Place → Option Int
  | .opened _ _ fd | .usable _ _ fd | .punching _ _ fd | .linked _ _ fd | .chosen fd | .settled fd => some fd
  | _ => none

/-- Both atomics have been reset in this call. -/
def Reset : Place → Prop
  | .outside | .entering | .resetting => False
  | _ => True

/-- The listening thread still works on this socket. -/
def Prepares (fd : Int) : Place → Prop
  | .owning other | .located _ other | .bound _ other => other = fd
  | _ => False

end Place

/-- Everything about descriptors. Threads in `spent` have returned or were never created, and
    the calls after `since` come later. -/
structure Sound (spent : Nat → Prop) (since : Nat) (s : Process) (g : Nat → Place) : Prop where
  nonneg : ∀ fd socket, s.sockets fd = some socket → 0 ≤ fd
  main : MainFits spent since s (g 0)
  listeners : ∀ j, j ≠ 0 → ListenerFits s j (g j)
  prepared : ∀ j fd, (g j).Prepares fd →
    (s.sockets fd).isSome ∧ (g 0).own ≠ some fd ∧ ∀ k, s.accepted k ≠ some fd
  held : ∀ j fd, g j = .holding fd → (g 0).own ≠ some fd ∧ s.accepting ≠ fd
  accepted : ∀ j fd, s.accepted j = some fd → j ≠ 0 ∧ j ≤ s.call ∧
    ∃ socket, s.sockets fd = some socket ∧ (∃ remote, socket.link = .connected remote) ∧
      (s.results j = none → ∃ info, s.created j = some info ∧ socket.port = some (view info).port)
  once : ∀ i j fd, s.accepted i = some fd → s.accepted j = some fd → i = j
  handed : s.accepting = -1 ∨ ∃ j, s.accepted j = some s.accepting
  fresh : (g 0).Reset → ∀ j, s.accepted j = some s.accepting →
    Unreturned s s.accepting ∧ (since < s.call → ¬ spent j)
  results : ∀ k fd, s.results k = some (.ok fd) → Outcome spent since s k fd ∧
    ∀ socket, s.sockets fd = some socket → socket.Blocking ∨ s.flagsFailed k = true
  distinct : ∀ j k fd, s.results j = some (.ok fd) → s.results k = some (.ok fd) → j = k
  later : ∀ k, s.call < k → s.created k = none ∧ s.received k = [] ∧ s.results k = none
  begun : g 0 = .outside ∨ 0 < s.call
  ended : ∀ j, spent j → s.exited j = true ∨ s.results j ≠ none ∧ s.created j = none
  reached : since ≤ s.call

/-! ## What is never lost -/

/-- A socket changes only where nothing depends on it. -/
structure Kept (s : Process) (fd : Int) (socket socket' : Socket) : Prop where
  port : ∀ port, socket.port = some port → socket'.port = some port
  link : ∀ peer, socket.link = .connected peer → socket'.link = .connected peer
  blocking : Unreturned s fd ∨ (socket.Blocking → socket'.Blocking)

structure Later (s s' : Process) : Prop where
  sockets : ∀ fd socket, s.sockets fd = some socket →
    ∃ socket', s'.sockets fd = some socket' ∧ Kept s fd socket socket'
  accepted : ∀ j fd, s.accepted j = some fd → s'.accepted j = some fd
  anew : ∀ j fd, s'.accepted j = some fd → s.accepted j = some fd ∨ s.sockets fd = none
  results : ∀ k, s.results k ≠ none → s'.results k = s.results k
  received : ∀ k, s.results k ≠ none → s'.received k = s.received k
  created : ∀ j info, s.created j = some info → s'.created j = some info
  uncreated : ∀ k, s.results k ≠ none → s.created k = none → s'.created k = none
  failed : ∀ k, s.flagsFailed k = true → s'.flagsFailed k = true

variable {spent : Nat → Prop} {since : Nat} {s s' : Process} {g : Nat → Place}

theorem Later.refl (s : Process) : Later s s where
  sockets _ socket there := ⟨socket, there, fun _ same => same, fun _ same => same, .inr id⟩
  accepted _ _ found := found
  anew _ _ found := .inl found
  results _ _ := rfl
  received _ _ := rfl
  created _ _ found := found
  uncreated _ _ none := none
  failed _ failed := failed

theorem Later.put {fd : Int} {new : Socket}
    (kept : ∀ socket, s.sockets fd = some socket → Kept s fd socket new) : Later s (s.put fd new) := by
  refine { Later.refl s with sockets := fun fd' socket there => ?_ }
  by_cases same : fd' = fd
  · subst same
    exact ⟨new, s.put_self fd' new, kept socket there⟩
  · obtain ⟨socket', there', rest⟩ := (Later.refl s).sockets fd' socket there
    exact ⟨socket', by rw [← there']; exact Function.update_of_ne same .., rest⟩

theorem Outcome.later {k : Nat} {fd : Int} (outcome : Outcome spent since s k fd) (later : Later s s')
    (received : s'.received k = s.received k) : Outcome spent since s' k fd := by
  obtain ⟨info, peer, socket, heard, there, choice⟩ := outcome
  obtain ⟨socket', there', ports, links, -⟩ := later.sockets fd socket there
  refine ⟨info, peer, socket', by rwa [Heard, received], there', ?_⟩
  rcases choice with ⟨port, link, unaccepted⟩ | ⟨⟨remote, link⟩, own, j, found, before, unspent, port⟩
  · refine .inl ⟨ports _ port, links _ link, fun j found => ?_⟩
    rcases later.anew j fd found with found | free
    · exact unaccepted j found
    · cases there.symm.trans free
  · obtain ⟨mine, accepted⟩ := Option.isSome_iff_exists.mp own
    exact .inr ⟨⟨remote, links _ link⟩, by rw [later.accepted k mine accepted]; rfl, j,
      later.accepted j fd found, before, unspent, fun same => ports _ (port same)⟩

/-! ## A step of a listening thread -/

/-- What such a step leaves as it is. -/
structure Beside (s s' : Process) (own : Option Int) : Prop extends Later s s' where
  call : s'.call = s.call
  sameResults : s'.results = s.results
  sameCreated : s'.created = s.created
  sameReceived : s'.received = s.received
  sameFailed : s'.flagsFailed = s.flagsFailed
  established : s.established = true → s'.established = true
  exited : ∀ j, s.exited j = true → s'.exited j = true
  mine : ∀ fd, own = some fd → s'.sockets fd = s.sockets fd

theorem Busy.beside {info peer : List UInt8} {own : Option Int} (busy : Busy s info peer)
    (beside : Beside s s' own) : Busy s' info peer := by
  obtain ⟨running, created, heard⟩ := busy
  constructor
  · rw [beside.call, beside.sameResults]
    exact running
  · rw [beside.call, beside.sameCreated]
    exact created
  · rw [Heard, beside.call, beside.sameReceived]
    exact heard

theorem Own.beside {fd : Int} {port : Option (List UInt8)} {links : Link → Prop}
    (own : Own s fd port links) (beside : Beside s s' (some fd)) : Own s' fd port links := by
  obtain ⟨⟨link, flags, there, linked⟩, unaccepted, unreturned⟩ := own
  refine ⟨⟨link, flags, by rw [beside.mine fd rfl, there], linked⟩, fun j found => ?_, ?_⟩
  · rcases beside.anew j fd found with found | free
    · exact unaccepted j found
    · cases there.symm.trans free
  · rw [Unreturned, beside.sameResults]
    exact unreturned

theorem MainFits.beside {place : Place} (fits : MainFits spent since s place)
    (beside : Beside s s' place.own) : MainFits spent since s' place := by
  have outcome : ∀ fd, Outcome spent since s s.call fd → Outcome spent since s' s.call fd :=
    fun fd outcome => outcome.later beside.toLater (by rw [beside.sameReceived])
  cases place with
  | outside => trivial
  | entering | resetting | asking | disconnected | informed | listening =>
      simp only [MainFits, beside.call, beside.sameResults, beside.sameCreated,
        beside.sameReceived] at fits ⊢
      exact fits
  | answered info peer => exact Busy.beside fits beside
  | opened info peer fd =>
      refine ⟨fits.1.beside beside, fits.2.imp id fun own => own.beside beside⟩
  | usable info peer fd => exact ⟨fits.1.beside beside, fits.2.beside beside⟩
  | punching info peer fd => exact ⟨fits.1.beside beside, fits.2.beside beside⟩
  | linked info peer fd => exact ⟨fits.1.beside beside, fits.2.beside beside⟩
  | noticed info peer fd => exact ⟨fits.1.beside beside, beside.established fits.2⟩
  | joined =>
      obtain ⟨⟨info, peer, busy⟩, finished⟩ := fits
      exact ⟨⟨info, peer, busy.beside beside⟩, by rw [beside.call]; exact beside.exited _ finished⟩
  | chosen fd =>
      simp only [MainFits, beside.call, beside.sameResults, Unreturned] at fits ⊢
      exact ⟨fits.1, outcome fd fits.2.1, fits.2.2⟩
  | settled fd =>
      simp only [MainFits, beside.call, beside.sameResults, Unreturned, beside.sameFailed,
        beside.mine fd rfl] at fits ⊢
      exact ⟨fits.1, outcome fd fits.2.1, fits.2.2⟩
  | unborn | born | located | owning | bound | accepting | holding | stored | announced | gone =>
      exact fits.elim

theorem Located.later {j : Nat} {port : List UInt8} (located : Located s j port) (later : Later s s') :
    Located s' j port := by
  obtain ⟨info, created, same⟩ := located
  refine ⟨info, later.created j info created, fun running => same ?_⟩
  by_contra finished
  exact finished ((later.results j finished).symm.trans running)

theorem ListenerFits.other {j : Nat} {place : Place} (fits : ListenerFits s j place)
    (later : Later s s') (accepted : s'.accepted j = s.accepted j) (exited : s'.exited j = s.exited j)
    (unreturned : ∀ fd, place = .holding fd → Unreturned s' fd)
    (remains : (s.created j).isSome → Remains s j → Remains s' j) : ListenerFits s' j place := by
  have created : (s.created j).isSome → (s'.created j).isSome := by
    intro there
    obtain ⟨info, created⟩ := Option.isSome_iff_exists.mp there
    rw [later.created j info created]
    rfl
  have port : ∀ fd port, (∃ socket, s.sockets fd = some socket ∧ socket.port = some port) →
      ∃ socket, s'.sockets fd = some socket ∧ socket.port = some port := by
    rintro fd port ⟨socket, there, same⟩
    obtain ⟨socket', there', ports, -⟩ := later.sockets fd socket there
    exact ⟨socket', there', ports port same⟩
  cases place with
  | unborn =>
      simp only [ListenerFits, accepted, exited] at fits ⊢
      exact fits
  | born | owning =>
      simp only [ListenerFits, accepted, exited] at fits ⊢
      exact ⟨fits.1, fits.2.1, created fits.2.2⟩
  | located =>
      simp only [ListenerFits, accepted, exited] at fits ⊢
      exact ⟨fits.1, fits.2.1, fits.2.2.later later⟩
  | bound | accepting =>
      simp only [ListenerFits, accepted, exited] at fits ⊢
      exact ⟨fits.1, fits.2.1, fits.2.2.1.later later, port _ _ fits.2.2.2⟩
  | holding fd =>
      simp only [ListenerFits, accepted, exited] at fits ⊢
      exact ⟨fits.1, fits.2.1, created fits.2.2.1, unreturned fd rfl⟩
  | stored | announced =>
      simp only [ListenerFits, accepted, exited] at fits ⊢
      exact ⟨fits.1, fits.2.1, created fits.2.2.1, remains fits.2.2.1 fits.2.2.2⟩
  | gone =>
      simp only [ListenerFits, accepted, exited] at fits ⊢
      exact ⟨created fits.1, fun finished => ⟨(fits.2 finished).1, remains fits.1 (fits.2 finished).2⟩⟩
  | outside | entering | resetting | asking | disconnected | informed | listening | answered | opened
  | usable | punching | linked | noticed | joined | chosen | settled => exact fits.elim

theorem Sound.own_open (sound : Sound spent since s g) {fd : Int} (own : (g 0).own = some fd) :
    fd < 0 ∨ (s.sockets fd).isSome := by
  have fits := sound.main
  have opened : ∀ {port links}, Own s fd port links → (s.sockets fd).isSome := by
    rintro port links ⟨⟨link, flags, there, -⟩, -, -⟩
    rw [there]
    rfl
  have chosen : ∀ {k}, Outcome spent since s k fd → (s.sockets fd).isSome := by
    rintro k ⟨info, peer, socket, -, there, -⟩
    rw [there]
    rfl
  cases place : g 0 with
  | opened info peer fd' =>
      rw [place] at fits own
      obtain rfl := Option.some.inj own
      exact fits.2.imp id opened
  | usable | punching | linked =>
      rw [place] at fits own
      obtain rfl := Option.some.inj own
      exact .inr (opened fits.2)
  | chosen | settled =>
      rw [place] at fits own
      obtain rfl := Option.some.inj own
      exact .inr (chosen fits.2.1)
  | outside | entering | resetting | asking | disconnected | informed | listening | answered | noticed
  | joined | unborn | born | located | owning | bound | accepting | holding | stored | announced | gone =>
      rw [place] at own
      cases own

theorem Sound.accepted_open (sound : Sound spent since s g) {j : Nat} {fd : Int}
    (found : s.accepted j = some fd) : 0 ≤ fd ∧ (s.sockets fd).isSome := by
  obtain ⟨-, -, socket, there, -⟩ := sound.accepted j fd found
  exact ⟨sound.nonneg fd socket there, by rw [there]; rfl⟩

theorem isSome_of_later {fd : Int} (later : Later s s') (there : (s.sockets fd).isSome) :
    (s'.sockets fd).isSome := by
  obtain ⟨socket, there⟩ := Option.isSome_iff_exists.mp there
  obtain ⟨socket', there', -⟩ := later.sockets fd socket there
  rw [there']
  rfl

theorem Sound.results_later (sound : Sound spent since s g) (later : Later s s') {k : Nat} {fd : Int}
    (returned : s.results k = some (.ok fd)) : Outcome spent since s' k fd ∧
      ∀ socket, s'.sockets fd = some socket → socket.Blocking ∨ s'.flagsFailed k = true := by
  obtain ⟨outcome, blocks⟩ := sound.results k fd returned
  refine ⟨outcome.later later (later.received k (by rw [returned]; exact Option.some_ne_none _)), ?_⟩
  intro socket' there'
  obtain ⟨-, -, socket, -, there, -⟩ := outcome
  obtain ⟨other, there'', -, -, blocking⟩ := later.sockets fd socket there
  obtain rfl := Option.some.inj (there'.symm.trans there'')
  rcases blocks socket there with blocks | failed
  · rcases blocking with unreturned | blocking
    · exact absurd returned (unreturned k)
    · exact .inl (blocking blocks)
  · exact .inr (later.failed k failed)

theorem Sound.accepted_later (sound : Sound spent since s g) (later : Later s s')
    (call : s.call ≤ s'.call) {j : Nat} {fd : Int} (found : s.accepted j = some fd) :
    j ≠ 0 ∧ j ≤ s'.call ∧ ∃ socket, s'.sockets fd = some socket ∧
      (∃ remote, socket.link = .connected remote) ∧
      (s'.results j = none → ∃ info, s'.created j = some info ∧ socket.port = some (view info).port) := by
  obtain ⟨apart, before, socket, there, ⟨remote, link⟩, port⟩ := sound.accepted j fd found
  obtain ⟨socket', there', ports, links, -⟩ := later.sockets fd socket there
  refine ⟨apart, before.trans call, socket', there', ⟨remote, links remote link⟩, fun running => ?_⟩
  have ran : s.results j = none := by
    by_contra finished
    exact finished ((later.results j finished).symm.trans running)
  obtain ⟨info, created, same⟩ := port ran
  exact ⟨info, later.created j info created, ports _ same⟩

theorem Sound.listenerMoves (sound : Sound spent since s g) {i : Nat} {place : Place} (listens : i ≠ 0)
    (beside : Beside s s' (g 0).own)
    (others : ∀ j, j ≠ i → s'.accepted j = s.accepted j ∧ s'.exited j = s.exited j)
    (fits : ListenerFits s' i place)
    (nonneg : ∀ fd socket, s'.sockets fd = some socket → 0 ≤ fd)
    (accepting : s'.accepting = s.accepting ∨
      g i = .holding s'.accepting ∧ ∀ fd, place ≠ .holding fd)
    (prepares : ∀ fd, place.Prepares fd → (g i).Prepares fd ∨
      s.sockets fd = none ∧ (s'.sockets fd).isSome ∧ 0 ≤ fd)
    (holds : ∀ fd, place = .holding fd → g i = .holding fd ∨ s.sockets fd = none ∧ 0 ≤ fd)
    (accepted : ∀ fd, s'.accepted i = some fd → s.accepted i = some fd ∨
      s.sockets fd = none ∧ i ≤ s.call ∧ ∃ socket, s'.sockets fd = some socket ∧
        (∃ remote, socket.link = .connected remote) ∧
        (s.results i = none → ∃ info, s.created i = some info ∧ socket.port = some (view info).port)) :
    Sound spent since s' (Function.update g i place) := by
  have later := beside.toLater
  have zero : Function.update g i place 0 = g 0 := Function.update_of_ne listens.symm ..
  -- A descriptor that was stored in this step had been accepted before.
  have given : g i = .holding s'.accepting → s.accepted i = some s'.accepting ∧ s.exited i = false ∧
      (s.created i).isSome ∧ Unreturned s s'.accepting := by
    intro holding
    have fits := sound.listeners i listens
    rw [holding] at fits
    exact ⟨fits.2.1, fits.1, fits.2.2⟩
  have unowned : ∀ fd, s.sockets fd = none → 0 ≤ fd → (g 0).own ≠ some fd := by
    intro fd free positive own
    rcases sound.own_open own with negative | there
    · omega
    · rw [free] at there
      cases there
  have unaccepted : ∀ j fd, s.sockets fd = none → s.accepted j ≠ some fd := by
    intro j fd free found
    have there := (sound.accepted_open found).2
    rw [free] at there
    cases there
  have source : ∀ j fd, s'.accepted j = some fd → s.accepted j = some fd ∨ j = i ∧ s.sockets fd = none := by
    intro j fd found
    rcases eq_or_ne j i with rfl | other
    · rcases accepted fd found with found | ⟨free, -⟩
      · exact .inl found
      · exact .inr ⟨rfl, free⟩
    · rw [(others j other).1] at found
      exact .inl found
  have once : ∀ j k fd, s'.accepted j = some fd → s'.accepted k = some fd → j = k := by
    intro j k fd first second
    rcases source j fd first with first | ⟨rfl, free⟩
    · rcases source k fd second with second | ⟨rfl, free⟩
      · exact sound.once j k fd first second
      · exact absurd first (unaccepted j fd free)
    · rcases source k fd second with second | ⟨rfl, -⟩
      · exact absurd second (unaccepted k fd free)
      · rfl
  constructor
  · exact nonneg
  · rw [zero]
    exact sound.main.beside beside
  · intro j apart
    rcases eq_or_ne j i with rfl | other
    · rw [Function.update_self]
      exact fits
    · rw [Function.update_of_ne other]
      refine (sound.listeners j apart).other later (others j other).1 (others j other).2 ?_ ?_
      · intro fd holding
        have fits := sound.listeners j apart
        rw [holding] at fits
        rw [Unreturned, beside.sameResults]
        exact fits.2.2.2
      · intro _ remains current
        rcases accepting with same | ⟨holding, -⟩
        · rw [same]
          exact remains (beside.call ▸ current)
        · have positive := (sound.accepted_open (given holding).1).1
          omega
  · intro j fd prepared
    rw [zero]
    rcases eq_or_ne j i with rfl | other
    · rw [Function.update_self] at prepared
      have none : s'.accepted j = none := by
        cases place with
        | owning | located | bound => exact fits.2.1
        | outside | entering | resetting | asking | disconnected | informed | listening | answered
        | opened | usable | punching | linked | noticed | joined | chosen | settled | unborn | born
        | accepting | holding | stored | announced | gone => exact prepared.elim
      rcases prepares fd prepared with before | ⟨free, there, positive⟩
      · obtain ⟨there, own, unfound⟩ := sound.prepared j fd before
        refine ⟨isSome_of_later later there, own, fun k found => ?_⟩
        rcases source k fd found with found | ⟨rfl, -⟩
        · exact unfound k found
        · cases none.symm.trans found
      · refine ⟨there, unowned fd free positive, fun k found => ?_⟩
        rcases source k fd found with found | ⟨rfl, -⟩
        · exact unaccepted k fd free found
        · cases none.symm.trans found
    · rw [Function.update_of_ne other] at prepared
      obtain ⟨there, own, unfound⟩ := sound.prepared j fd prepared
      refine ⟨isSome_of_later later there, own, fun k found => ?_⟩
      rcases source k fd found with found | ⟨rfl, free⟩
      · exact unfound k found
      · rw [free] at there
        cases there
  · intro j fd holding
    rw [zero]
    rcases eq_or_ne j i with rfl | other
    · rw [Function.update_self] at holding
      have kept : s'.accepting = s.accepting := by
        rcases accepting with same | ⟨-, elsewhere⟩
        · exact same
        · exact absurd holding (elsewhere fd)
      rw [kept]
      rcases holds fd holding with before | ⟨free, positive⟩
      · exact sound.held j fd before
      · refine ⟨unowned fd free positive, ?_⟩
        rintro rfl
        rcases sound.handed with unset | ⟨k, found⟩
        · omega
        · exact unaccepted k _ free found
    · rw [Function.update_of_ne other] at holding
      obtain ⟨own, unset⟩ := sound.held j fd holding
      refine ⟨own, ?_⟩
      rcases accepting with same | ⟨gives, -⟩
      · rw [same]
        exact unset
      · rintro rfl
        apply other
        by_cases apart : j = 0
        · subst apart
          have fits := sound.main
          rw [holding] at fits
          exact fits.elim
        · have fits := sound.listeners j apart
          rw [holding] at fits
          exact sound.once j i _ fits.2.1 (given gives).1
  · intro j fd found
    rcases eq_or_ne j i with rfl | other
    · rcases accepted fd found with found | ⟨-, before, socket, there, link, port⟩
      · exact sound.accepted_later later beside.call.ge found
      · rw [beside.call, beside.sameResults, beside.sameCreated]
        exact ⟨listens, before, socket, there, link, port⟩
    · rw [(others j other).1] at found
      exact sound.accepted_later later beside.call.ge found
  · exact once
  · rcases accepting with same | ⟨holding, -⟩
    · rw [same]
      exact sound.handed.imp id fun ⟨j, found⟩ => ⟨j, later.accepted j _ found⟩
    · exact .inr ⟨i, later.accepted i _ (given holding).1⟩
  · rw [zero, Unreturned, beside.call, beside.sameResults]
    intro reset j found
    rcases accepting with same | ⟨holding, -⟩
    · rw [same] at found ⊢
      rcases source j _ found with found | ⟨rfl, free⟩
      · exact sound.fresh reset j found
      · rcases sound.handed with unset | ⟨k, before⟩
        · rcases accepted _ found with found | ⟨-, -, socket, there, -⟩
          · exact absurd found (unaccepted j _ free)
          · have positive := nonneg _ socket there
            omega
        · exact absurd before (unaccepted k _ free)
    · obtain ⟨mine, running, created, unreturned⟩ := given holding
      obtain rfl := once j i _ found (later.accepted i _ mine)
      refine ⟨unreturned, fun _ finished => ?_⟩
      rcases sound.ended j finished with finished | ⟨-, uncreated⟩
      · cases running.symm.trans finished
      · rw [uncreated] at created
        cases created
  · intro k fd returned
    rw [beside.sameResults] at returned
    exact sound.results_later later returned
  · rw [beside.sameResults]
    exact sound.distinct
  · rw [beside.call, beside.sameResults, beside.sameCreated, beside.sameReceived]
    exact sound.later
  · rw [zero, beside.call]
    exact sound.begun
  · intro j finished
    rw [beside.sameResults, beside.sameCreated]
    exact (sound.ended j finished).imp (beside.exited j) id
  · rw [beside.call]
    exact sound.reached

/-! ## A step of the calling thread -/

theorem Sound.mainMoves (sound : Sound spent since s g) {place : Place} (later : Later s s')
    (sameAccepted : s'.accepted = s.accepted) (sameExited : s'.exited = s.exited)
    (call : s.call ≤ s'.call) (fits : MainFits spent since s' place)
    (nonneg : ∀ fd socket, s'.sockets fd = some socket → 0 ≤ fd)
    (own : ∀ fd, place.own = some fd → (g 0).own = some fd ∨ s.sockets fd = none ∨ fd < 0 ∨
      s.accepting = fd)
    (accepting : s'.accepting = s.accepting ∨ s'.accepting = -1)
    (remains : ∀ j, (s.created j).isSome → s'.call = j → s.call = j ∧ s'.accepting = s.accepting)
    (reset : place.Reset → s'.accepting = -1 ∨
      (g 0).Reset ∧ s'.accepting = s.accepting ∧ s'.call = s.call ∧ s'.results = s.results)
    (returns : ∀ k fd, s'.results k = some (.ok fd) → s.results k = some (.ok fd) ∨
      k = s.call ∧ g 0 = .settled fd ∧ s'.sockets = s.sockets ∧ s'.received k = s.received k)
    (rest : ∀ k, s'.call < k → s'.created k = none ∧ s'.received k = [] ∧ s'.results k = none)
    (begun : place = .outside ∨ 0 < s'.call) :
    Sound spent since s' (Function.update g 0 place) := by
  have listening : ∀ j fd, g j = .holding fd → s.accepted j = some fd ∧ Unreturned s fd := by
    intro j fd holding
    by_cases apart : j = 0
    · subst apart
      have fits := sound.main
      rw [holding] at fits
      exact fits.elim
    · have fits := sound.listeners j apart
      rw [holding] at fits
      exact ⟨fits.2.1, fits.2.2.2⟩
  have handed : ∀ fd, 0 ≤ fd → s.accepting = fd → ∃ j, s.accepted j = some fd := by
    rintro fd positive rfl
    rcases sound.handed with unset | found
    · omega
    · exact found
  have settled : ∀ fd, g 0 = .settled fd → s.results s.call = none ∧ Outcome spent since s s.call fd ∧
      Unreturned s fd ∧ ∀ socket, s.sockets fd = some socket →
        socket.Blocking ∨ s.flagsFailed s.call = true := by
    intro fd stands
    have fits := sound.main
    rw [stands] at fits
    exact fits
  constructor
  · exact nonneg
  · rw [Function.update_self]
    exact fits
  · intro j apart
    rw [Function.update_of_ne apart]
    refine (sound.listeners j apart).other later (by rw [sameAccepted]) (by rw [sameExited]) ?_ ?_
    · intro fd holding k returned
      rcases returns k fd returned with before | ⟨-, stands, -⟩
      · exact (listening j fd holding).2 k before
      · have own := (sound.held j fd holding).1
        rw [stands] at own
        exact own rfl
    · intro created before current
      obtain ⟨same, kept⟩ := remains j created current
      rw [kept]
      exact before same
  · intro j fd prepared
    rcases eq_or_ne j 0 with rfl | apart
    · rw [Function.update_self] at prepared
      cases place with
      | owning | located | bound => exact fits.elim
      | outside | entering | resetting | asking | disconnected | informed | listening | answered
      | opened | usable | punching | linked | noticed | joined | chosen | settled | unborn | born
      | accepting | holding | stored | announced | gone => exact prepared.elim
    · rw [Function.update_of_ne apart] at prepared
      rw [Function.update_self, sameAccepted]
      obtain ⟨there, unowned, unfound⟩ := sound.prepared j fd prepared
      obtain ⟨socket, opened⟩ := Option.isSome_iff_exists.mp there
      refine ⟨isSome_of_later later there, fun mine => ?_, unfound⟩
      rcases own fd mine with before | free | negative | stored
      · exact unowned before
      · cases opened.symm.trans free
      · have positive := sound.nonneg fd socket opened
        omega
      · obtain ⟨k, found⟩ := handed fd (sound.nonneg fd socket opened) stored
        exact unfound k found
  · intro j fd holding
    rcases eq_or_ne j 0 with rfl | apart
    · rw [Function.update_self] at holding
      rw [holding] at fits
      exact fits.elim
    · rw [Function.update_of_ne apart] at holding
      rw [Function.update_self]
      obtain ⟨unowned, unset⟩ := sound.held j fd holding
      obtain ⟨positive, there⟩ := sound.accepted_open (listening j fd holding).1
      refine ⟨fun mine => ?_, ?_⟩
      · rcases own fd mine with before | free | negative | stored
        · exact unowned before
        · rw [free] at there
          cases there
        · omega
        · exact unset stored
      · rcases accepting with same | cleared
        · rw [same]
          exact unset
        · omega
  · intro j fd found
    rw [sameAccepted] at found
    exact sound.accepted_later later call found
  · rw [sameAccepted]
    exact sound.once
  · rw [sameAccepted]
    rcases accepting with same | cleared
    · rw [same]
      exact sound.handed
    · exact .inl cleared
  · rw [Function.update_self, sameAccepted]
    intro now j found
    rcases reset now with cleared | ⟨before, same, current, results⟩
    · have positive := (sound.accepted_open found).1
      omega
    · rw [same] at found ⊢
      rw [current, Unreturned, results]
      exact sound.fresh before j found
  · intro k fd returned
    rcases returns k fd returned with before | ⟨rfl, stands, sockets, received⟩
    · exact sound.results_later later before
    · obtain ⟨-, outcome, -, blocks⟩ := settled fd stands
      refine ⟨outcome.later later received, fun socket there => ?_⟩
      rw [sockets] at there
      exact (blocks socket there).imp id fun failed => later.failed _ failed
  · intro j k fd first second
    rcases returns j fd first with before | ⟨rfl, stands, -⟩
    · rcases returns k fd second with before' | ⟨rfl, stands', -⟩
      · exact sound.distinct j k fd before before'
      · exact absurd before ((settled fd stands').2.2.1 j)
    · rcases returns k fd second with before' | ⟨rfl, -⟩
      · exact absurd before' ((settled fd stands).2.2.1 k)
      · rfl
  · exact rest
  · rw [Function.update_self]
    exact begun
  · intro j finished
    rw [sameExited]
    refine (sound.ended j finished).imp id fun never => ⟨?_, later.uncreated j never.1 never.2⟩
    rw [later.results j never.1]
    exact never.1
  · exact sound.reached.trans call

end TCPunch.Client
