import Mathlib.Data.BitVec
import Mathlib.Data.List.Basic

/-! # Hexadecimal digits of a word

The digits determine the word, and none of them is a hyphen. Formats that group the
digits by hyphens therefore lose nothing. Reading takes digits of either case.
-/

namespace Hex

variable {w : Nat}

/-- The last `count` digits, most significant first, in lower case. -/
def digits (count : Nat) (x : BitVec w) : List Char :=
  (List.range count).map fun i => (x.extractLsb' (4 * (count - 1 - i)) 4).toNat.digitChar

theorem digitChar_inj (a b : BitVec 4) (same : a.toNat.digitChar = b.toNat.digitChar) : a = b := by
  revert a b
  decide

theorem digitChar_ne_hyphen (a : BitVec 4) : a.toNat.digitChar ≠ '-' := by
  revert a
  decide

theorem ne_hyphen_of_mem_digits {count : Nat} {x : BitVec w} {c : Char} (member : c ∈ digits count x) :
    c ≠ '-' := by
  obtain ⟨i, -, rfl⟩ := List.mem_map.mp member
  exact digitChar_ne_hyphen _

theorem digitChar_ascii (a : BitVec 4) : a.toNat.digitChar.val < 128 ∧ a.toNat.digitChar ≠ '\x00' := by
  revert a
  decide

theorem ascii_of_mem_digits {count : Nat} {x : BitVec w} {c : Char} (member : c ∈ digits count x) :
    c.val < 128 ∧ c ≠ '\x00' := by
  obtain ⟨i, -, rfl⟩ := List.mem_map.mp member
  exact digitChar_ascii _

theorem digits_injective {count : Nat} (enough : w ≤ 4 * count) :
    Function.Injective (digits count : BitVec w → List Char) := by
  intro x y same
  apply BitVec.eq_of_getLsbD_eq
  intro k small
  -- Bit `k` is bit `k % 4` of digit `k / 4` from the right.
  have digit := digitChar_inj _ _ (List.map_inj_left.mp same (count - 1 - k / 4)
    (List.mem_range.mpr (by omega)))
  have place : 4 * (count - 1 - (count - 1 - k / 4)) + k % 4 = k := by omega
  have bit := congrArg (fun nibble => BitVec.getLsbD nibble (k % 4)) digit
  have inside : k % 4 < 4 := by omega
  simpa only [BitVec.getLsbD_extractLsb', inside, decide_true, Bool.true_and, place] using bit

/-! ## Reading digits -/

/-- The value of a digit. -/
def value? (c : Char) : Option Nat :=
  if '0' ≤ c ∧ c ≤ '9' then some (c.toNat - '0'.toNat)
  else if 'a' ≤ c ∧ c ≤ 'f' then some (c.toNat - 'a'.toNat + 10)
  else if 'A' ≤ c ∧ c ≤ 'F' then some (c.toNat - 'A'.toNat + 10)
  else none

/-- The number that digits stand for, most significant first. -/
def parse (cs : List Char) : Option Nat :=
  cs.foldlM (fun acc c => (value? c).map fun d => acc * 16 + d) 0

theorem value?_digitChar (a : BitVec 4) : value? a.toNat.digitChar = some a.toNat := by
  revert a
  decide

theorem parse_snoc (cs : List Char) (c : Char) :
    parse (cs ++ [c]) = (parse cs).bind fun acc => (value? c).map fun d => acc * 16 + d := by
  simp [parse, List.foldlM_append]

theorem digits_succ (count : Nat) (x : BitVec w) :
    digits (count + 1) x = digits count (x >>> 4) ++ [(x.extractLsb' 0 4).toNat.digitChar] := by
  rw [digits, List.range_succ, List.map_append, List.map_singleton]
  congr 1
  · refine List.map_congr_left fun i inside => ?_
    have below := List.mem_range.mp inside
    have place : count + 1 - 1 - i = (count - 1 - i) + 1 := by omega
    congr 2
    apply BitVec.eq_of_getLsbD_eq
    intro k small
    simp only [BitVec.getLsbD_extractLsb', BitVec.getLsbD_ushiftRight, place]
    congr 2
    omega
  · simp

theorem parse_digits (count : Nat) (x : BitVec w) (fits : x.toNat < 16 ^ count) :
    parse (digits count x) = some x.toNat := by
  induction count generalizing x with
  | zero =>
      have none : x.toNat = 0 := by simpa using fits
      simp [digits, parse, none]
  | succ count ih =>
      have shifted : (x >>> 4).toNat = x.toNat / 16 := by
        rw [BitVec.toNat_ushiftRight, Nat.shiftRight_eq_div_pow]
      have last : (x.extractLsb' 0 4).toNat = x.toNat % 16 := by simp
      have smaller : (x >>> 4).toNat < 16 ^ count := by
        rw [shifted, Nat.div_lt_iff_lt_mul (by decide), ← Nat.pow_succ]
        exact fits
      rw [digits_succ, parse_snoc, ih _ smaller, value?_digitChar, shifted, last]
      simp only [Option.bind_some, Option.map_some, Option.some.injEq]
      omega

end Hex
