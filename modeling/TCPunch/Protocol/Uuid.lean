import TCPunch.Lib.Hex
import TCPunch.Protocol.Messages

/-! # Tokens as text

`format!("{}", token)` writes a token in the hyphenated form of `uuid`: thirty-two
lower-case digits in groups of 8, 4, 4, 4 and 12. `Uuid::parse_str` reads that form and
the other documented ones, in either case.
-/

namespace TCPunch.Uuid

def hyphenated (u : Uuid) : String :=
  let digits := Hex.digits 32 u.bits
  String.ofList (digits.take 8 ++ '-' :: (digits.drop 8).take 4 ++ '-' :: (digits.drop 12).take 4 ++
    '-' :: (digits.drop 16).take 4 ++ '-' :: digits.drop 20)

theorem filter_hyphenated (u : Uuid) :
    u.hyphenated.toList.filter (· ≠ '-') = Hex.digits 32 u.bits := by
  have all : ∀ l : List Char, l ⊆ Hex.digits 32 u.bits → l.filter (· ≠ '-') = l := by
    intro l inside
    refine List.filter_eq_self.mpr fun c member => ?_
    simpa using Hex.ne_hyphen_of_mem_digits (inside member)
  have slice : ∀ n k, ((Hex.digits 32 u.bits).drop n).take k ⊆ Hex.digits 32 u.bits :=
    fun n k _ member => List.drop_subset _ _ (List.take_subset _ _ member)
  simp only [hyphenated, String.toList_ofList, List.filter_append, List.filter_cons,
    all _ (List.take_subset 8 _), all _ (slice _ _), all _ (List.drop_subset 20 _)]
  simp [Hex.digits, List.range, List.range.loop]

theorem hyphenated_injective : Function.Injective hyphenated := by
  intro u v same
  have digits := congrArg (fun text : String => text.toList.filter (· ≠ '-')) same
  simp only [filter_hyphenated] at digits
  exact congrArg Uuid.mk (Hex.digits_injective (by decide) digits)

example : hyphenated ⟨0x123e4567e89b12d3a456426614174000⟩ =
    "123e4567-e89b-12d3-a456-426614174000" := by decide

/-! ## Reading tokens -/

/-- Thirty-two digits. -/
def simple? (cs : List Char) : Option Uuid :=
  if cs.length = 32 then (Hex.parse cs).map fun value => ⟨BitVec.ofNat 128 value⟩ else none

/-- Digits in groups of 8, 4, 4, 4 and 12. -/
def hyphenated? (cs : List Char) : Option Uuid :=
  if cs.length = 36 ∧ cs[8]? = some '-' ∧ cs[13]? = some '-' ∧ cs[18]? = some '-' ∧
      cs[23]? = some '-' then
    simple? (cs.take 8 ++ (cs.drop 9).take 4 ++ (cs.drop 14).take 4 ++ (cs.drop 19).take 4 ++
      cs.drop 24)
  else
    none

/-- `Uuid::parse_str`: simple, hyphenated, in braces, or as a URN in letters of either case. -/
def parseStr (text : String) : Option Uuid :=
  let cs := text.toList
  if cs.length = 32 then simple? cs
  else if cs.length = 36 then hyphenated? cs
  else if cs.length = 38 ∧ cs.head? = some '\x7b' ∧ cs.getLast? = some '\x7d' then
    hyphenated? ((cs.drop 1).take 36)
  else if cs.length = 45 ∧ (cs.take 9).map Char.toLower = "urn:uuid:".toList then hyphenated? (cs.drop 9)
  else none

theorem simple?_digits (u : Uuid) : simple? (Hex.digits 32 u.bits) = some u := by
  have count : (Hex.digits 32 u.bits).length = 32 := by simp [Hex.digits]
  have whole : Hex.parse (Hex.digits 32 u.bits) = some u.bits.toNat :=
    Hex.parse_digits 32 u.bits (by simpa using u.bits.isLt)
  rw [simple?, if_pos count, whole, Option.map_some, BitVec.ofNat_toNat, BitVec.setWidth_eq]

theorem length_toList_hyphenated (u : Uuid) : u.hyphenated.toList.length = 36 := by
  simp [hyphenated, Hex.digits]

theorem parseStr_hyphenated (u : Uuid) : parseStr u.hyphenated = some u := by
  have count := length_toList_hyphenated u
  have grouped : hyphenated? u.hyphenated.toList = simple? (Hex.digits 32 u.bits) := by
    simp [hyphenated?, hyphenated, Hex.digits, List.range, List.range.loop]
  rw [parseStr, if_neg (by omega), if_pos count, grouped, simple?_digits]

theorem ascii_of_mem_hyphenated {u : Uuid} {c : Char} (member : c ∈ u.hyphenated.toList) :
    c.val < 128 ∧ c ≠ '\x00' := by
  by_cases hyphen : c = '-'
  · subst hyphen
    decide
  · have digit : c ∈ Hex.digits 32 u.bits := by
      rw [← filter_hyphenated]
      exact List.mem_filter.mpr ⟨member, by simpa using hyphen⟩
    exact Hex.ascii_of_mem_digits digit

end TCPunch.Uuid
