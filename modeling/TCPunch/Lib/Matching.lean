import TCPunch.Lib.Rendezvous

/-! # Boards match symmetrically

The invariant ties every seat to the session it stands for: the session was
opened under the seat's name, the seat shows the info and the channel of the
session's latest call, and no call has reached or cleared the session yet. One
lemma says what recording a moment does to the predicates on the past, so that
each act of a board has a short case.
-/

namespace Rendezvous

variable {Name Token Info : Type}

/-! ## Recording one more moment -/

theorem getElem?_snoc {α : Type} (h : List α) (o : α) (i : Nat) (a : α) :
    (h ++ [o])[i]? = some a ↔ h[i]? = some a ∨ (i = h.length ∧ a = o) := by
  rcases Nat.lt_trichotomy i h.length with small | rfl | large
  · rw [List.getElem?_append_left small]
    exact ⟨.inl, fun cases => cases.elim id fun ⟨eq, _⟩ => absurd eq (Nat.ne_of_lt small)⟩
  · rw [List.getElem?_concat_length, List.getElem?_eq_none (Nat.le_refl _)]
    simp only [Option.some.injEq, reduceCtorEq, true_and, false_or, eq_comm]
  · rw [List.getElem?_eq_none (by simp only [List.length_append, List.length_singleton]; omega),
      List.getElem?_eq_none (by omega)]
    simp only [reduceCtorEq, false_or, false_iff, not_and]
    intro eq
    omega

theorem lt_length_of_getElem? {α : Type} {h : List α} {i : Nat} {a : α} (found : h[i]? = some a) :
    i < h.length := (List.getElem?_eq_some_iff.mp found).1

/-- Position `m` is the last one at which the condition holds. -/
def LastWhere {α : Type} (condition : α → Prop) (h : List α) (m : Nat) : Prop :=
  (∃ a, h[m]? = some a ∧ condition a) ∧ ∀ k a, m < k → h[k]? = some a → ¬ condition a

theorem LastWhere.snoc {α : Type} {condition : α → Prop} {h : List α} {m : Nat} {o : α}
    (last : LastWhere condition h m) (other : ¬ condition o) : LastWhere condition (h ++ [o]) m := by
  obtain ⟨⟨a, found, holds⟩, later⟩ := last
  refine ⟨⟨a, (getElem?_snoc h o m a).mpr (.inl found), holds⟩, ?_⟩
  intro k b after found
  rcases (getElem?_snoc h o k b).mp found with old | ⟨-, rfl⟩
  · exact later k b after old
  · exact other

theorem lastWhere_last {α : Type} {condition : α → Prop} (h : List α) {o : α} (holds : condition o) :
    LastWhere condition (h ++ [o]) h.length := by
  refine ⟨⟨o, List.getElem?_concat_length, holds⟩, ?_⟩
  intro k b after found
  have before := lt_length_of_getElem? found
  rw [List.length_append, List.length_singleton] at before
  omega

/-- Which session, if any, a moment belongs to. -/
def Moment.WaitsAs (moment : Moment Name Token Info) (t : Token) (x : Info) (c : Nat) : Prop :=
  ∃ n, moment.outcome = .opened n x t c ∨ moment.outcome = .resumed n x t c

theorem waitsAs_opened {n : Name} {x y : Info} {t u : Token} {c d : Nat} {sent} :
    (⟨.opened n x t c, sent⟩ : Moment Name Token Info).WaitsAs u y d ↔ u = t ∧ y = x ∧ d = c := by
  constructor
  · rintro ⟨n', same | same⟩ <;> cases same
    exact ⟨rfl, rfl, rfl⟩
  · rintro ⟨rfl, rfl, rfl⟩
    exact ⟨n, .inl rfl⟩

theorem waitsAs_resumed {n : Name} {x y : Info} {t u : Token} {c d : Nat} {sent} :
    (⟨.resumed n x t c, sent⟩ : Moment Name Token Info).WaitsAs u y d ↔ u = t ∧ y = x ∧ d = c := by
  constructor
  · rintro ⟨n', same | same⟩ <;> cases same
    exact ⟨rfl, rfl, rfl⟩
  · rintro ⟨rfl, rfl, rfl⟩
    exact ⟨n, .inr rfl⟩

theorem waits_iff {h : List (Moment Name Token Info)} {i t x c} :
    Waits h i t x c ↔ ∃ moment, h[i]? = some moment ∧ moment.WaitsAs t x c := by
  constructor
  · rintro ⟨n, sent, opened | resumed⟩
    · exact ⟨_, opened, n, .inl rfl⟩
    · exact ⟨_, resumed, n, .inr rfl⟩
  · rintro ⟨⟨outcome, sent⟩, found, n, opened | resumed⟩
    · subst opened; exact ⟨n, sent, .inl found⟩
    · subst resumed; exact ⟨n, sent, .inr found⟩

theorem Waits.functional {h : List (Moment Name Token Info)} {i t t' x x' c c'}
    (left : Waits h i t x c) (right : Waits h i t' x' c') : t = t' ∧ x = x' ∧ c = c' := by
  obtain ⟨n, sent, left | left⟩ := left <;> obtain ⟨n', sent', right | right⟩ := right <;>
    have same := left.symm.trans right
  · simp only [Option.some.injEq, Moment.mk.injEq, Outcome.opened.injEq] at same
    exact ⟨same.1.2.2.1, same.1.2.1, same.1.2.2.2⟩
  · simp at same
  · simp at same
  · simp only [Option.some.injEq, Moment.mk.injEq, Outcome.resumed.injEq] at same
    exact ⟨same.1.2.2.1, same.1.2.1, same.1.2.2.2⟩

section Snoc

variable {h : List (Moment Name Token Info)} {o : Moment Name Token Info}

theorem waits_snoc {i t x c} :
    Waits (h ++ [o]) i t x c ↔ Waits h i t x c ∨ (i = h.length ∧ o.WaitsAs t x c) := by
  simp only [waits_iff, getElem?_snoc]
  constructor
  · rintro ⟨moment, old | ⟨rfl, rfl⟩, here⟩
    · exact .inl ⟨moment, old, here⟩
    · exact .inr ⟨rfl, here⟩
  · rintro (⟨moment, old, here⟩ | ⟨rfl, here⟩)
    · exact ⟨moment, .inl old, here⟩
    · exact ⟨o, .inr ⟨rfl, rfl⟩, here⟩

theorem clears_snoc {k t} :
    Clears (h ++ [o]) k t ↔ Clears h k t ∨
      (k = h.length ∧ ∃ tokens, o.outcome = .cleared tokens ∧ t ∈ tokens) := by
  constructor
  · rintro ⟨tokens, sent, found, member⟩
    rcases (getElem?_snoc h o k _).mp found with old | ⟨rfl, rfl⟩
    · exact .inl ⟨tokens, sent, old, member⟩
    · exact .inr ⟨rfl, tokens, rfl, member⟩
  · rintro (⟨tokens, sent, old, member⟩ | ⟨rfl, tokens, here, member⟩)
    · exact ⟨tokens, sent, (getElem?_snoc h o k _).mpr (.inl old), member⟩
    · refine ⟨tokens, o.sent, (getElem?_snoc h o _ _).mpr (.inr ⟨rfl, ?_⟩), member⟩
      rw [← here]

theorem Opens.snoc {i n t} (opens : Opens h i n t) : Opens (h ++ [o]) i n t := by
  obtain ⟨x, c, sent, found⟩ := opens
  exact ⟨x, c, sent, (getElem?_snoc h o i _).mpr (.inl found)⟩

theorem Latest.snoc {t m x c} (latest : Latest h h.length t m x c)
    (other : ∀ y d, ¬ o.WaitsAs t y d) : Latest (h ++ [o]) (h ++ [o]).length t m x c := by
  obtain ⟨before, waits, later⟩ := latest
  refine ⟨?_, waits_snoc.mpr (.inl waits), ?_⟩
  · simp only [List.length_append, List.length_singleton]; omega
  · intro k hk hlt y d waitsK
    rcases waits_snoc.mp waitsK with old | ⟨rfl, new⟩
    · obtain ⟨moment, found, -⟩ := waits_iff.mp old
      exact later k hk (lt_length_of_getElem? found) y d old
    · exact other y d new

theorem latest_last {t x c} (waits : o.WaitsAs t x c) :
    Latest (h ++ [o]) (h ++ [o]).length t h.length x c := by
  refine ⟨by simp, waits_snoc.mpr (.inr ⟨rfl, waits⟩), ?_⟩
  intro k after before
  simp only [List.length_append, List.length_singleton] at before
  omega

theorem issued_snoc : issued (h ++ [o]) = issued h ++ o.issued.toList := by
  simp only [issued, List.filterMap_append, List.filterMap_cons, List.filterMap_nil]
  cases o.issued <;> rfl

theorem nodup_issued_snoc :
    (issued (h ++ [o])).Nodup ↔ (issued h).Nodup ∧ ∀ t, o.issued = some t → t ∉ issued h := by
  rw [issued_snoc, List.nodup_append]
  constructor
  · intro distinct
    exact ⟨distinct.1, fun t new known => distinct.2.2 t known t (by simp [new]) rfl⟩
  · intro both
    refine ⟨both.1, ?_, ?_⟩
    · cases o.issued <;> simp
    · intro t known u new same
      exact both.2 u (by simpa using new) (same ▸ known)

theorem mem_issued_of_opens {i n t} (opens : Opens h i n t) : t ∈ issued h := by
  obtain ⟨x, c, sent, found⟩ := opens
  exact List.mem_filterMap.mpr ⟨_, List.mem_of_getElem? found, rfl⟩

end Snoc

theorem eq_of_issued_eq {h : List (Moment Name Token Info)} (fresh : (issued h).Nodup)
    {o o' : Moment Name Token Info} {t : Token} (left : o ∈ h) (right : o' ∈ h)
    (draws : o.issued = some t) (draws' : o'.issued = some t) : o = o' := by
  induction h using List.reverseRecOn with
  | nil => simp at left
  | append_singleton h last ih =>
      rw [issued_snoc, List.nodup_append] at fresh
      obtain ⟨freshOld, -, apart⟩ := fresh
      have drawn {moment} (old : moment ∈ h) (draws : moment.issued = some t) :
          last.issued ≠ some t := fun new =>
        apart t (List.mem_filterMap.mpr ⟨moment, old, draws⟩) t (by simp [new]) rfl
      rw [List.mem_append, List.mem_singleton] at left right
      rcases left with left | rfl <;> rcases right with right | rfl
      · exact ih freshOld left right
      · exact absurd draws' (drawn left draws)
      · exact absurd draws (drawn right draws')
      · rfl

theorem Opens.unique {h : List (Moment Name Token Info)} (fresh : (issued h).Nodup)
    {i i' n n' t} (left : Opens h i n t) (right : Opens h i' n' t) : i = i' ∧ n = n' := by
  induction h using List.reverseRecOn generalizing i i' with
  | nil => obtain ⟨x, c, sent, found⟩ := left; simp at found
  | append_singleton h o ih =>
      rw [issued_snoc, List.nodup_append] at fresh
      obtain ⟨freshOld, -, apart⟩ := fresh
      obtain ⟨x, c, sent, left⟩ := left
      obtain ⟨x', c', sent', right⟩ := right
      rcases (getElem?_snoc h o i _).mp left with old | ⟨hi, new⟩ <;>
        rcases (getElem?_snoc h o i' _).mp right with old' | ⟨hi', new'⟩
      · exact ih freshOld ⟨x, c, sent, old⟩ ⟨x', c', sent', old'⟩
      · exact absurd rfl (apart t (mem_issued_of_opens ⟨x, c, sent, old⟩) t
          (by simp [← new', Moment.issued]))
      · exact absurd rfl (apart t (mem_issued_of_opens ⟨x', c', sent', old'⟩) t
          (by simp [← new, Moment.issued]))
      · have same := new.trans new'.symm
        simp only [Moment.mk.injEq, Outcome.opened.injEq] at same
        exact ⟨hi.trans hi'.symm, same.1.1⟩

/-! ## The invariant -/

/-- What a seat says about the past. -/
structure Seat.Stands (h : List (Moment Name Token Info)) (n : Name) (seat : Seat Token Info) :
    Prop where
  opened : ∃ i, Opens h i n seat.token
  latest : ∃ m, Latest h h.length seat.token m seat.info seat.channel
  unreached : ∀ k, ¬ Reaches h k seat.token
  uncleared : ∀ k, ¬ Clears h k seat.token

/-- The past of a board: every channel is the position of the call that created
    it, sends only go to channels created before, and every session is known by a
    token that was drawn. -/
structure Log.Sound (log : Log Name Token Info) : Prop where
  seated : ∀ n seat, log.board n = some seat → seat.Stands log.past n
  channel : ∀ i t x c, Waits log.past i t x c → c = i
  drawn : ∀ i t x c, Waits log.past i t x c → t ∈ issued log.past
  cleared : ∀ k t, Clears log.past k t → t ∈ issued log.past
  earlier : ∀ (k : Nat) moment c v, log.past[k]? = some moment → (c, v) ∈ moment.sent → c < k

theorem Log.Sound.seat_unique {log : Log Name Token Info} (sound : log.Sound)
    (fresh : (issued log.past).Nodup) {n n' seat seat'} (left : log.board n = some seat)
    (right : log.board n' = some seat') (same : seat.token = seat'.token) : n = n' := by
  obtain ⟨i, opens⟩ := (sound.seated n seat left).opened
  obtain ⟨i', opens'⟩ := (sound.seated n' seat' right).opened
  rw [← same] at opens'
  exact (opens.unique fresh opens').2

/-- A seat stays what it was when the new moment neither waits in its session, nor
    sends to it, nor clears it. -/
theorem Seat.Stands.snoc {h : List (Moment Name Token Info)} {o : Moment Name Token Info}
    {n} {seat : Seat Token Info} (stands : seat.Stands h n)
    (channel : ∀ i t x c, Waits h i t x c → c = i)
    (other : ∀ x c, ¬ o.WaitsAs seat.token x c)
    (silent : ∀ c v, (c, v) ∈ o.sent → ∀ x, ¬ Waits h c seat.token x c)
    (kept : ∀ tokens, o.outcome = .cleared tokens → seat.token ∉ tokens) :
    seat.Stands (h ++ [o]) n where
  opened := stands.opened.imp fun _ opens => opens.snoc
  latest := by
    obtain ⟨m, latest⟩ := stands.latest
    exact ⟨m, latest.snoc other⟩
  unreached := by
    rintro k ⟨moment, i, x, c, v, found, member, waits⟩
    rcases waits_snoc.mp waits with old | ⟨-, new⟩
    · rcases (getElem?_snoc h o k _).mp found with oldK | ⟨-, rfl⟩
      · exact stands.unreached k ⟨moment, i, x, c, v, oldK, member, old⟩
      · have := channel i seat.token x c old
        subst this
        exact silent c v member x old
    · exact other x c new
  uncleared := by
    intro k clears
    rcases clears_snoc.mp clears with old | ⟨-, tokens, here, member⟩
    · exact stands.uncleared k old
    · exact kept tokens here member

theorem Log.sound_empty : (Log.empty : Log Name Token Info).Sound where
  seated := by intro n seat absent; simp [Log.empty] at absent
  channel := by rintro i t x c ⟨n, sent, found | found⟩ <;> simp [Log.empty] at found
  drawn := by rintro i t x c ⟨n, sent, found | found⟩ <;> simp [Log.empty] at found
  cleared := by rintro k t ⟨tokens, sent, found, -⟩; simp [Log.empty] at found
  earlier := by intro k moment c v found; simp [Log.empty] at found

/-- The part of the invariant that does not mention the board is kept by any moment
    that waits on its own position with a drawn token, clears drawn tokens and sends
    to earlier positions. -/
theorem Log.Sound.snoc {log : Log Name Token Info} (sound : log.Sound)
    {o : Moment Name Token Info} {board : Board Name Token Info}
    (seated : ∀ n seat, board n = some seat → seat.Stands (log.past ++ [o]) n)
    (own : ∀ t x c, o.WaitsAs t x c → c = log.past.length ∧ t ∈ issued (log.past ++ [o]))
    (clears : ∀ tokens, o.outcome = .cleared tokens → ∀ t ∈ tokens, t ∈ issued log.past)
    (back : ∀ c v, (c, v) ∈ o.sent → c < log.past.length) :
    Log.Sound ⟨board, log.past ++ [o]⟩ where
  seated := seated
  channel := by
    intro i t x c waits
    rcases waits_snoc.mp waits with old | ⟨rfl, new⟩
    · exact sound.channel i t x c old
    · exact (own t x c new).1
  drawn := by
    intro i t x c waits
    rcases waits_snoc.mp waits with old | ⟨-, new⟩
    · rw [issued_snoc]
      exact List.mem_append_left _ (sound.drawn i t x c old)
    · exact (own t x c new).2
  cleared := by
    intro k t cleared
    rw [issued_snoc]
    apply List.mem_append_left
    rcases clears_snoc.mp cleared with old | ⟨-, tokens, here, member⟩
    · exact sound.cleared k t old
    · exact clears tokens here t member
  earlier := by
    intro k moment c v found member
    rcases (getElem?_snoc log.past o k _).mp found with old | ⟨rfl, rfl⟩
    · exact sound.earlier k moment c v old member
    · exact back c v member

section Acts

variable [DecidableEq Name] {log : Log Name Token Info}

theorem Log.Sound.record_matched (sound : log.Sound) (freshOld : (issued log.past).Nodup)
    {n x fresh} {seat : Seat Token Info} (here : log.board n = some seat) :
    Log.Sound ⟨Function.update log.board n none,
      log.past ++ [⟨.matched n x fresh seat.info, [(seat.channel, x)]⟩]⟩ := by
  obtain ⟨m, before, waits, -⟩ := (sound.seated n seat here).latest
  have position : seat.channel = m := sound.channel m _ _ _ waits
  apply sound.snoc
  · intro n' seat' found
    by_cases same : n' = n
    · subst same; simp at found
    · rw [Function.update_of_ne same] at found
      refine (sound.seated n' seat' found).snoc sound.channel ?_ ?_ ?_
      · rintro y c ⟨name, opened | resumed⟩ <;> simp_all
      · intro c v member y waits'
        obtain ⟨rfl, rfl⟩ := Prod.mk.inj (List.mem_singleton.mp member)
        rw [position] at waits'
        exact same (sound.seat_unique freshOld found here (waits'.functional waits).1)
      · intro tokens cleared; simp at cleared
  · rintro t y c ⟨name, opened | resumed⟩ <;> simp_all
  · intro tokens cleared; simp at cleared
  · intro c v member
    obtain ⟨rfl, rfl⟩ := Prod.mk.inj (List.mem_singleton.mp member)
    omega

theorem Log.Sound.record_waits (sound : log.Sound) {n t x} {o : Moment Name Token Info}
    (waitsAs : ∀ u y d, o.WaitsAs u y d ↔ u = t ∧ y = x ∧ d = log.past.length)
    (silent : o.sent = []) (keeps : ∀ tokens, o.outcome ≠ .cleared tokens)
    (opened : ∃ i, Opens (log.past ++ [o]) i n t)
    (unreached : ∀ k, ¬ Reaches log.past k t) (uncleared : ∀ k, ¬ Clears log.past k t)
    (others : ∀ n' seat', n' ≠ n → log.board n' = some seat' → seat'.token ≠ t) :
    Log.Sound ⟨Function.update log.board n (some ⟨t, x, log.past.length⟩), log.past ++ [o]⟩ := by
  have unsent : ∀ c v, (c, v) ∉ o.sent := by simp [silent]
  apply sound.snoc
  · intro n' seat' found
    by_cases same : n' = n
    · subst same
      rw [Function.update_self] at found
      obtain rfl := Option.some.inj found
      refine ⟨opened, ⟨_, latest_last ((waitsAs _ _ _).mpr ⟨rfl, rfl, rfl⟩)⟩, ?_, ?_⟩
      · rintro k ⟨moment, i, y, c, v, found, member, waits⟩
        rcases (getElem?_snoc _ _ k _).mp found with oldK | ⟨-, rfl⟩
        · rcases waits_snoc.mp waits with old | ⟨-, new⟩
          · exact unreached k ⟨moment, i, y, c, v, oldK, member, old⟩
          · -- A send to the new channel would have to come from after its creation.
            have late := sound.earlier k moment c v oldK member
            have created := ((waitsAs _ _ _).mp new).2.2
            have before := lt_length_of_getElem? oldK
            omega
        · exact unsent c v member
      · intro k clears
        rcases clears_snoc.mp clears with old | ⟨-, tokens, cleared, -⟩
        · exact uncleared k old
        · exact keeps tokens cleared
    · rw [Function.update_of_ne same] at found
      refine (sound.seated n' seat' found).snoc sound.channel ?_ ?_ ?_
      · intro y c waits
        exact others n' seat' same found ((waitsAs _ _ _).mp waits).1
      · intro c v member
        exact absurd member (unsent c v)
      · intro tokens cleared
        exact absurd cleared (keeps tokens)
  · intro u y c waits
    obtain ⟨rfl, -, rfl⟩ := (waitsAs u y c).mp waits
    obtain ⟨i, opens⟩ := opened
    exact ⟨rfl, mem_issued_of_opens opens⟩
  · intro tokens cleared
    exact absurd cleared (keeps tokens)
  · intro c v member
    exact absurd member (unsent c v)

theorem Log.Sound.record_resumed (sound : log.Sound) (freshOld : (issued log.past).Nodup)
    {n x} {seat : Seat Token Info} (here : log.board n = some seat) :
    Log.Sound ⟨Function.update log.board n
        (some { seat with info := x, channel := log.past.length }),
      log.past ++ [⟨.resumed n x seat.token log.past.length, []⟩]⟩ := by
  have stands := sound.seated n seat here
  refine sound.record_waits (fun _ _ _ => waitsAs_resumed) rfl (by simp)
    (stands.opened.imp fun _ opens => opens.snoc) stands.unreached stands.uncleared ?_
  intro n' seat' other found same
  exact other (sound.seat_unique freshOld found here same)

theorem Log.Sound.record_opened (sound : log.Sound) {n x} {fresh : Token}
    (unused : fresh ∉ issued log.past) :
    Log.Sound ⟨Function.update log.board n (some ⟨fresh, x, log.past.length⟩),
      log.past ++ [⟨.opened n x fresh log.past.length, []⟩]⟩ := by
  refine sound.record_waits (fun _ _ _ => waitsAs_opened) rfl (by simp) ?_ ?_ ?_ ?_
  · exact ⟨log.past.length, x, log.past.length, [], (getElem?_snoc _ _ _ _).mpr (.inr ⟨rfl, rfl⟩)⟩
  · rintro k ⟨moment, i, y, c, v, -, -, waits⟩
    exact unused (sound.drawn i fresh y c waits)
  · intro k clears
    exact unused (sound.cleared k fresh clears)
  · intro n' seat' other found same
    obtain ⟨i, opens⟩ := (sound.seated n' seat' found).opened
    exact unused (same ▸ mem_issued_of_opens opens)

omit [DecidableEq Name] in
theorem Log.Sound.record_cleared (sound : log.Sound) (freshOld : (issued log.past).Nodup)
    (gone : Name → Bool) :
    Log.Sound ⟨fun n => if gone n = true then none else log.board n,
      log.past ++ [⟨.cleared {t | ∃ n seat, gone n = true ∧ log.board n = some seat ∧
        seat.token = t}, []⟩]⟩ := by
  apply sound.snoc
  · intro n seat found
    by_cases away : gone n = true
    · simp [away] at found
    · simp only [away, Bool.false_eq_true, if_false] at found
      refine (sound.seated n seat found).snoc sound.channel ?_ ?_ ?_
      · rintro y c ⟨name, opened | resumed⟩ <;> simp_all
      · intro c v member; simp at member
      · intro tokens cleared
        simp only [Outcome.cleared.injEq] at cleared
        subst cleared
        rintro ⟨n', seat', away', found', same⟩
        exact away (sound.seat_unique freshOld found' found same ▸ away')
  · rintro t y c ⟨name, opened | resumed⟩ <;> simp_all
  · intro tokens cleared t member
    simp only [Outcome.cleared.injEq] at cleared
    subst cleared
    obtain ⟨n, seat, -, found, rfl⟩ := member
    obtain ⟨i, opens⟩ := (sound.seated n seat found).opened
    exact mem_issued_of_opens opens
  · intro c v member; simp at member

variable [DecidableEq Token]

/-- Every act keeps the invariant as long as the tokens it draws are new. -/
theorem Log.Sound.record (sound : log.Sound) (a : Act Name Token Info)
    (fresh : (issued (log.record a).past).Nodup) : (log.record a).Sound := by
  have freshOld : (issued log.past).Nodup := by
    rw [Log.record, issued_snoc] at fresh
    exact fresh.of_append_left
  cases a with
  | join n x shown drawn =>
      cases here : log.board n with
      | none =>
          simp only [Log.record, Board.act, here] at fresh ⊢
          rw [issued_snoc, List.nodup_append] at fresh
          refine sound.record_opened fun old => ?_
          exact fresh.2.2 drawn old drawn (by simp [Moment.issued]) rfl
      | some seat =>
          simp only [Log.record, Board.act, here]
          split
          · exact sound.record_resumed freshOld here
          · exact sound.record_matched freshOld here
  | clear gone => exact sound.record_cleared freshOld gone

end Acts

/-! ## From the invariant to the matching -/

theorem waits_append_left {h rest : List (Moment Name Token Info)} {i t x c}
    (inside : i < h.length) : Waits (h ++ rest) i t x c ↔ Waits h i t x c := by
  simp only [Waits, List.getElem?_append_left inside]

section Play

variable [DecidableEq Name] [DecidableEq Token] {acts : List (Act Name Token Info)}

theorem Log.past_append (pre post : List (Act Name Token Info)) :
    ∃ rest, (play (pre ++ post)).past = (play pre).past ++ rest := by
  induction post using List.reverseRecOn with
  | nil => exact ⟨[], by simp⟩
  | append_singleton post a ih =>
      obtain ⟨rest, split⟩ := ih
      refine ⟨rest ++ [((play (pre ++ post)).board.act (play (pre ++ post)).past.length a).1], ?_⟩
      rw [← List.append_assoc, play_snoc]
      simp only [Log.record, split, List.append_assoc]

theorem Log.past_split {j moment} (found : (play acts).past[j]? = some moment) :
    ∃ pre a rest, (play pre).past.length = j ∧
      moment = ((play pre).board.act j a).1 ∧ (play acts).past = (play pre).past ++ moment :: rest := by
  have inside : j < acts.length := by
    have := lt_length_of_getElem? found
    rwa [play_past_length] at this
  have count : (acts.take j).length = j := by simp only [List.length_take]; omega
  have split : acts = (acts.take j ++ [acts[j]]) ++ acts.drop (j + 1) := by
    rw [List.take_append_getElem inside, List.take_append_drop]
  obtain ⟨rest, whole⟩ := Log.past_append (acts.take j ++ [acts[j]]) (acts.drop (j + 1))
  have position : (play (acts.take j)).past.length = j := by rw [play_past_length, count]
  rw [← split, play_snoc] at whole
  simp only [Log.record, position] at whole
  have here : moment = ((play (acts.take j)).board.act j acts[j]).1 := by
    rw [whole, List.append_assoc, List.getElem?_append_right (by omega), position] at found
    simpa using found.symm
  refine ⟨acts.take j, acts[j], rest, position, here, ?_⟩
  rw [whole, here, List.append_assoc, List.singleton_append]

theorem Log.sound_play (fresh : (issued (play acts).past).Nodup) : (play acts).Sound := by
  induction acts using List.reverseRecOn with
  | nil => exact sound_empty
  | append_singleton acts a ih =>
      rw [play_snoc] at fresh ⊢
      have freshOld : (issued (play acts).past).Nodup := by
        rw [Log.record, issued_snoc] at fresh
        exact fresh.of_append_left
      exact (ih freshOld).record a fresh

theorem Board.act_sends {board : Board Name Token Info} {j a c v}
    (member : (c, v) ∈ ((board.act j a).1).sent) :
    ∃ n shown fresh seat, a = .join n v shown fresh ∧ board n = some seat ∧
      (board.act j a).1 = ⟨.matched n v fresh seat.info, [(seat.channel, v)]⟩ ∧
      c = seat.channel := by
  cases a with
  | clear gone => simp [Board.act] at member
  | join n x shown fresh =>
      cases here : board n with
      | none => simp [Board.act, here] at member
      | some seat =>
          simp only [Board.act, here] at member
          split at member
          · simp at member
          · rename_i other
            obtain ⟨rfl, rfl⟩ := Prod.mk.inj (List.mem_singleton.mp member)
            exact ⟨n, shown, fresh, seat, rfl, here, by simp [Board.act, here, other], rfl⟩

theorem Board.act_matched {board : Board Name Token Info} {j a n x token peer sent}
    (matched : (board.act j a).1 = ⟨.matched n x token peer, sent⟩) :
    ∃ seat, board n = some seat ∧ peer = seat.info ∧ sent = [(seat.channel, x)] := by
  cases a with
  | clear gone => simp [Board.act] at matched
  | join n' x' shown fresh =>
      cases here : board n' with
      | none => simp [Board.act, here] at matched
      | some seat =>
          simp only [Board.act, here] at matched
          split at matched
          · simp at matched
          · simp only [Moment.mk.injEq, Outcome.matched.injEq] at matched
            obtain ⟨⟨rfl, rfl, -, rfl⟩, rfl⟩ := matched
            exact ⟨seat, here, rfl, rfl⟩

/-- The session that a match takes, in terms of the whole past. -/
theorem Log.match_takes (fresh : (issued (play acts).past).Nodup) {j n x token peer sent}
    (found : (play acts).past[j]? = some ⟨.matched n x token peer, sent⟩) :
    ∃ t c, (∃ i, i < j ∧ Opens (play acts).past i n t) ∧
      (∀ k, k < j → ¬ Reaches (play acts).past k t ∧ ¬ Clears (play acts).past k t) ∧
      (∃ m, Latest (play acts).past j t m peer c) ∧ sent = [(c, x)] := by
  have channel := (Log.sound_play fresh).channel
  have earlier := (Log.sound_play fresh).earlier
  obtain ⟨pre, a, rest, position, produced, whole⟩ := Log.past_split found
  obtain ⟨seat, here, rfl, rfl⟩ := Board.act_matched produced.symm
  have freshPre : (issued (play pre).past).Nodup := by
    rw [whole] at fresh
    simp only [issued, List.filterMap_append] at fresh
    exact fresh.of_append_left
  have stands := (Log.sound_play freshPre).seated n seat here
  rw [whole] at channel earlier ⊢
  have before : ∀ i, i < j → i < (play pre).past.length := fun i hi => by omega
  refine ⟨seat.token, seat.channel, ?_, ?_, ?_, rfl⟩
  · obtain ⟨i, y, d, sent, opens⟩ := stands.opened
    have inside := lt_length_of_getElem? opens
    exact ⟨i, by omega, y, d, sent, by rw [List.getElem?_append_left inside]; exact opens⟩
  · intro k hk
    constructor
    · rintro ⟨moment, i, y, c, v, foundK, member, waits⟩
      have hc : c < k := earlier k moment c v foundK member
      have hi : c = i := channel i _ y c waits
      rw [List.getElem?_append_left (before k hk)] at foundK
      rw [waits_append_left (before i (by omega))] at waits
      exact stands.unreached k ⟨moment, i, y, c, v, foundK, member, waits⟩
    · rintro ⟨tokens, sent, foundK, member⟩
      rw [List.getElem?_append_left (before k hk)] at foundK
      exact stands.uncleared k ⟨tokens, sent, foundK, member⟩
  · obtain ⟨m, hm, waits, later⟩ := stands.latest
    refine ⟨m, by omega, (waits_append_left hm).mpr waits, ?_⟩
    intro k hk hlt y d
    rw [waits_append_left (before k hlt)]
    exact later k hk (before k hlt) y d

theorem Log.sender_matches (fresh : (issued (play acts).past).Nodup) {k : Nat} {moment c v}
    (found : (play acts).past[k]? = some moment) (member : (c, v) ∈ moment.sent) :
    ∃ n token peer, moment = ⟨.matched n v token peer, [(c, v)]⟩ ∧
      ∃ t, Reaches (play acts).past k t ∧ (∀ l, l < k → ¬ Reaches (play acts).past l t) ∧
        ∀ i x t', Waits (play acts).past i t' x c → t' = t := by
  have sound := Log.sound_play fresh
  obtain ⟨pre, a, rest, position, produced, -⟩ := Log.past_split found
  rw [produced] at member
  obtain ⟨n, shown, token, seat, -, -, isMatch, rfl⟩ := Board.act_sends member
  rw [isMatch] at produced
  subst produced
  obtain ⟨t, c, -, unreached, ⟨m, -, waits, -⟩, sends⟩ := Log.match_takes fresh found
  simp only [List.cons.injEq, Prod.mk.injEq, and_true] at sends
  obtain rfl := sends
  refine ⟨n, token, seat.info, rfl, t, ?_, fun l hl => (unreached l hl).1, ?_⟩
  · exact ⟨_, m, _, _, _, found, List.mem_singleton.mpr rfl, waits⟩
  · intro i x t' waits'
    have : i = m := (sound.channel i _ _ _ waits').symm.trans (sound.channel m _ _ _ waits)
    subst this
    exact (waits'.functional waits).1

theorem Log.reaches_once (fresh : (issued (play acts).past).Nodup) {k l t}
    (left : Reaches (play acts).past k t) (right : Reaches (play acts).past l t) : k = l := by
  have never : ∀ k l, Reaches (play acts).past k t → Reaches (play acts).past l t → ¬ k < l := by
    rintro k l left ⟨moment, i, x, c, v, found, member, waits⟩ before
    obtain ⟨-, -, -, -, t', -, unreached, only⟩ := Log.sender_matches fresh found member
    rw [← only i x t waits] at unreached
    exact unreached k before left
  have := never k l left right
  have := never l k right left
  omega

theorem Log.channel_once (fresh : (issued (play acts).past).Nodup) {k l : Nat}
    {moment moment' c v v'} (found : (play acts).past[k]? = some moment)
    (member : (c, v) ∈ moment.sent) (found' : (play acts).past[l]? = some moment')
    (member' : (c, v') ∈ moment'.sent) : k = l := by
  obtain ⟨-, -, -, -, t, reach, -, only⟩ := Log.sender_matches fresh found member
  obtain ⟨-, -, -, -, t', reach', -, -⟩ := Log.sender_matches fresh found' member'
  have sound := Log.sound_play fresh
  obtain ⟨moment₂, i, x, d, w, foundD, memberD, waits⟩ := reach'
  obtain rfl := Option.some.inj (foundD.symm.trans found')
  obtain ⟨_, _, _, single, -⟩ := Log.sender_matches fresh found' member'
  simp only [single, List.mem_singleton, Prod.mk.injEq] at memberD
  obtain ⟨rfl, -⟩ := memberD
  obtain rfl := only i x t' waits
  exact Log.reaches_once fresh reach ⟨_, i, x, d, v', found', member', waits⟩

/-- Boards match symmetrically. -/
theorem Log.symmetricMatching (fresh : (issued (play acts).past).Nodup) :
    SymmetricMatching (play acts).past where
  pairs := by
    intro j n x token peer sent found
    obtain ⟨t, c, opens, before, ⟨m, latest⟩, rfl⟩ := Log.match_takes fresh found
    have reach : Reaches (play acts).past j t :=
      ⟨_, m, peer, c, x, found, List.mem_singleton.mpr rfl, latest.2.1⟩
    refine ⟨t, ⟨opens, before, ⟨m, c, latest, rfl⟩, ?_⟩, ?_⟩
    · intro k different again
      exact different (Log.reaches_once fresh again reach)
    · rintro t' ⟨-, -, ⟨m', c', latest', sends⟩, -⟩
      simp only [List.cons.injEq, Prod.mk.injEq, and_true] at sends
      subst sends
      obtain ⟨-, -, -, -, t₂, -, -, only⟩ :=
        Log.sender_matches fresh found (List.mem_singleton.mpr rfl)
      exact (only m' _ _ latest'.2.1).trans (only m _ _ latest.2.1).symm
  origin := by
    intro c v member
    obtain ⟨moment, here, member⟩ := List.mem_flatMap.mp member
    obtain ⟨k, found⟩ := List.mem_iff_getElem?.mp here
    obtain ⟨n, token, peer, rfl, -⟩ := Log.sender_matches fresh found member
    refine ⟨k, ⟨n, token, peer, _, found, member⟩, ?_⟩
    rintro l ⟨n', token', peer', sent', found', member'⟩
    exact Log.channel_once fresh found' member' found member
  once := by
    rw [List.map_flatMap, List.nodup_flatMap]
    constructor
    · intro moment here
      obtain ⟨k, found⟩ := List.mem_iff_getElem?.mp here
      cases sends : moment.sent with
      | nil => simp
      | cons message more =>
          obtain ⟨_, _, _, single, -⟩ := Log.sender_matches fresh found
            (c := message.1) (v := message.2) (by rw [sends]; exact List.mem_cons_self)
          rw [← sends, single]
          simp
    · rw [List.pairwise_iff_getElem]
      intro i j hi hj before c member member'
      simp only [List.mem_map] at member member'
      obtain ⟨⟨c, v⟩, member, rfl⟩ := member
      obtain ⟨⟨c', v'⟩, member', rfl⟩ := member'
      have := Log.channel_once fresh (List.getElem?_eq_getElem hi) member
        (List.getElem?_eq_getElem hj) member'
      omega

end Play

end Rendezvous
