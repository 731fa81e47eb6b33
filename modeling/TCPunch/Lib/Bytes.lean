import Mathlib.Data.List.TakeWhile
import Mathlib.Tactic.Common

/-! # Buffers of bytes

Reading and overwriting parts of a buffer, with `none` for an access that leaves it; text
that ends at the first NUL; sixteen-bit numbers in network order; and UTF-8.

An encoder fills a buffer of zeros from the front: overwriting the zeros behind the parts
that are already there adds the next part, so no proof about it computes with positions.
-/

namespace Bytes

variable {a b c bytes : List UInt8} {lo hi offset n : Nat}

/-! ## Parts of a buffer -/

/-- The bytes from `lo` up to `hi`. -/
def slice (data : List UInt8) (lo hi : Nat) : Option (List UInt8) :=
  if lo ≤ hi ∧ hi ≤ data.length then some ((data.drop lo).take (hi - lo)) else none

/-- The buffer with `bytes` in place of what was there from `offset` on. -/
def overwrite (buf : List UInt8) (offset : Nat) (bytes : List UInt8) : Option (List UInt8) :=
  if offset + bytes.length ≤ buf.length then
    some (buf.take offset ++ bytes ++ buf.drop (offset + bytes.length))
  else
    none

def zeros (n : Nat) : List UInt8 := List.replicate n 0

@[simp] theorem length_zeros (n : Nat) : (zeros n).length = n := List.length_replicate

theorem slice_eq_some (ordered : lo ≤ hi) {data : List UInt8} (inside : hi ≤ data.length) :
    slice data lo hi = some ((data.drop lo).take (hi - lo)) := if_pos ⟨ordered, inside⟩

theorem slice_min (data : List UInt8) (n : Nat) :
    slice data 0 (min data.length n) = some (data.take n) := by
  rw [slice_eq_some (Nat.zero_le _) (Nat.min_le_left _ _), List.drop_zero, Nat.sub_zero, Nat.min_comm,
    ← List.take_eq_take_min]

theorem overwrite_zeros (start : a.length = offset) (fits : bytes.length ≤ n) :
    overwrite (a ++ zeros n) offset bytes = some (a ++ bytes ++ zeros (n - bytes.length)) := by
  subst start
  have inside : a.length + bytes.length ≤ (a ++ zeros n).length := by simp [fits]
  rw [overwrite, if_pos inside, List.take_left, List.drop_append]
  simp [zeros]

theorem overwrite_next {m : Nat} (start : a.length = offset) (room : n = bytes.length + m) :
    overwrite (a ++ zeros n) offset bytes = some (a ++ bytes ++ zeros m) := by
  rw [overwrite_zeros start (by omega), room, Nat.add_sub_cancel_left]

/-- Bytes padded with zeros to a width. -/
def field (width : Nat) (bytes : List UInt8) : List UInt8 := bytes ++ zeros (width - bytes.length)

theorem length_field (fits : bytes.length ≤ n) : (field n bytes).length = n := by
  simp only [field, List.length_append, length_zeros]
  omega

theorem field_nil (n : Nat) : field n [] = zeros n := by simp [field]

theorem zeros_append (m n : Nat) : zeros m ++ zeros n = zeros (m + n) := List.replicate_append_replicate

theorem overwrite_field (start : a.length = offset) (fits : bytes.length ≤ n) (m : Nat) :
    overwrite (a ++ zeros (n + m)) offset bytes = some (a ++ field n bytes ++ zeros m) := by
  have rest : n + m - bytes.length = (n - bytes.length) + m := by omega
  rw [overwrite_zeros start (by omega), rest, ← zeros_append, field, List.append_assoc,
    List.append_assoc, List.append_assoc]

/-- Two fields in a buffer of zeros, the second of which is left alone if there is nothing to write. -/
theorem overwrite_fields {b : List UInt8} {m k : Nat} (first : a.length ≤ m) (second : k ≤ n) :
    (overwrite (zeros (m + n)) 0 a).bind (fun buf =>
      if b ≠ [] then overwrite buf m (b.take k) else some buf) = some (field m a ++ field n (b.take k)) := by
  have front : overwrite (zeros (m + n)) 0 a = some (field m a ++ zeros (n + 0)) :=
    overwrite_field (a := []) rfl first n
  have room : (b.take k).length ≤ n := (List.length_take_le k b).trans second
  rw [front, Option.bind_some]
  split
  · refine (overwrite_field (length_field first) room 0).trans ?_
    rw [zeros, List.replicate_zero, List.append_nil]
  · rename_i empty
    rw [ne_eq, not_not] at empty
    rw [empty, List.take_nil, field_nil, Nat.add_zero]

/-! ## Text up to the first NUL -/

def untilNul (bytes : List UInt8) : List UInt8 := bytes.takeWhile (· ≠ 0)

theorem untilNul_append_zero (a b : List UInt8) : untilNul (a ++ 0 :: b) = untilNul a := by
  induction a with
  | nil => simp [untilNul]
  | cons x a ih =>
      by_cases nul : x = 0
      · simp [untilNul, nul]
      · simpa [untilNul, nul] using ih

@[simp] theorem untilNul_zeros (n : Nat) : untilNul (zeros n) = [] := by
  cases n <;> simp [untilNul, zeros, List.replicate_succ]

theorem untilNul_append_zeros (a : List UInt8) (some : 0 < n) :
    untilNul (a ++ zeros n) = untilNul a := by
  obtain ⟨m, rfl⟩ := Nat.exists_eq_add_one.mpr some
  exact untilNul_append_zero a (zeros m)

theorem untilNul_field (room : bytes.length < n) : untilNul (field n bytes) = untilNul bytes :=
  untilNul_append_zeros bytes (by omega)

theorem untilNul_field_of_le (room : bytes.length ≤ n) : untilNul (field n bytes) = untilNul bytes := by
  rcases Nat.lt_or_eq_of_le room with room | rfl
  · exact untilNul_field room
  · rw [field, Nat.sub_self, zeros, List.replicate_zero, List.append_nil]

theorem field_append_zeros (room : bytes.length ≤ n) (m : Nat) : field n bytes ++ zeros m = field (n + m) bytes := by
  rw [field, field, List.append_assoc, zeros_append]
  congr 2
  omega

theorem zero_notMem_untilNul (a : List UInt8) : 0 ∉ untilNul a := by
  intro member
  simpa using List.mem_takeWhile_imp member

theorem untilNul_eq_self : untilNul a = a ↔ 0 ∉ a := by
  constructor
  · intro same
    rw [← same]
    exact zero_notMem_untilNul a
  · intro absent
    refine List.takeWhile_eq_self_iff.mpr fun x member => ?_
    simpa using fun nul : x = 0 => absent (nul ▸ member)

theorem length_untilNul_lt_iff : (untilNul a).length < a.length ↔ 0 ∈ a := by
  constructor
  · intro shorter
    by_contra absent
    rw [untilNul_eq_self.mpr absent] at shorter
    exact Nat.lt_irrefl _ shorter
  · intro present
    have front : untilNul a <+: a := List.takeWhile_prefix _
    apply Nat.lt_of_le_of_ne front.length_le
    intro same
    exact untilNul_eq_self.mp (front.eq_of_length same) present

theorem length_untilNul_le (a : List UInt8) : (untilNul a).length ≤ a.length :=
  (List.takeWhile_sublist _).length_le

theorem findIdx_le (a : List UInt8) : (a.findIdx? (· == 0)).getD a.length ≤ a.length := by
  cases found : a.findIdx? (· == 0) with
  | none => exact Nat.le_refl _
  | some i =>
      obtain ⟨small, -⟩ := List.findIdx?_eq_some_iff_findIdx_eq.mp found
      exact Nat.le_of_lt small

theorem take_findIdx (a : List UInt8) :
    a.take ((a.findIdx? (· == 0)).getD a.length) = untilNul a := by
  induction a with
  | nil => rfl
  | cons x a ih =>
      by_cases nul : x = 0
      · simp [untilNul, nul, List.findIdx?_cons]
      · have step : ((x :: a).findIdx? (· == 0)).getD (x :: a).length =
            (a.findIdx? (· == 0)).getD a.length + 1 := by
          rw [List.findIdx?_cons]
          cases a.findIdx? (· == 0) <;> simp [nul]
        rw [step, List.take_succ_cons, ih]
        simp [untilNul, nul]

/-- The C string that starts a region of memory; `none` if the region ends before a NUL. -/
def cString : List UInt8 → Option (List UInt8)
  | [] => none
  | b :: rest => if b = 0 then some [] else (cString rest).map (b :: ·)

theorem cString_append_zero (absent : 0 ∉ a) (rest : List UInt8) :
    cString (a ++ 0 :: rest) = some a := by
  induction a with
  | nil => simp [cString]
  | cons x a ih =>
      rw [List.mem_cons, not_or] at absent
      simp [cString, Ne.symm absent.1, ih absent.2]

theorem cString_field (absent : 0 ∉ bytes) (room : bytes.length < n) (rest : List UInt8) :
    cString (field n bytes ++ rest) = some bytes := by
  obtain ⟨m, more⟩ := Nat.exists_eq_add_one.mpr (Nat.sub_pos_of_lt room)
  rw [field, more, zeros, List.replicate_succ, List.append_assoc, List.cons_append]
  exact cString_append_zero absent _

/-- A region holds a C string when there is a NUL in it, and then it is the text up to it. -/
theorem cString_eq (a : List UInt8) : cString a = if 0 ∈ a then some (untilNul a) else none := by
  induction a with
  | nil => rfl
  | cons x a ih =>
      unfold cString
      by_cases nul : x = 0
      · simp [untilNul, nul]
      · have later : (0 ∈ x :: a) = (0 ∈ a) := by simp [Ne.symm nul]
        simp only [nul, if_false, ih, later]
        split <;> simp [untilNul, nul]

theorem isSome_cString : (cString a).isSome ↔ 0 ∈ a := by
  rw [cString_eq]
  split <;> simp_all

theorem cString_ends_within :
    (∃ text, cString a = some text ∧ text.length < n) ↔ 0 ∈ a.take n := by
  induction a generalizing n with
  | nil => simp [cString]
  | cons x a ih =>
      cases n with
      | zero => simp
      | succ n =>
          unfold cString
          by_cases nul : x = 0
          · simp [nul]
          · have later := ih (n := n)
            simp [nul, Ne.symm nul, ← later]

theorem zero_mem_field : 0 ∈ field n bytes ↔ bytes.length < n ∨ 0 ∈ bytes := by
  have room : n - bytes.length ≠ 0 ↔ bytes.length < n := by omega
  simp [field, zeros, room, or_comm]

/-! ## Network order -/

def be16 (x : UInt16) : List UInt8 := [UInt8.ofNat (x.toNat / 256), UInt8.ofNat x.toNat]

def fromBe16 (high low : UInt8) : UInt16 := UInt16.ofNat (high.toNat * 256 + low.toNat)

@[simp] theorem length_be16 (x : UInt16) : (be16 x).length = 2 := rfl

theorem fromBe16_be16 (x : UInt16) :
    fromBe16 (UInt8.ofNat (x.toNat / 256)) (UInt8.ofNat x.toNat) = x := by
  have small := x.toNat_lt
  apply UInt16.toNat_inj.mp
  simp only [fromBe16, UInt16.toNat_ofNat', UInt8.toNat_ofNat']
  omega

theorem be16_fromBe16 (high low : UInt8) : be16 (fromBe16 high low) = [high, low] := by
  have smallHigh := high.toNat_lt
  have smallLow := low.toNat_lt
  have whole : (fromBe16 high low).toNat = high.toNat * 256 + low.toNat := by
    simp only [fromBe16, UInt16.toNat_ofNat']
    omega
  have upper : UInt8.ofNat ((fromBe16 high low).toNat / 256) = high := by
    apply UInt8.toNat_inj.mp
    rw [UInt8.toNat_ofNat', whole]
    omega
  have lower : UInt8.ofNat (fromBe16 high low).toNat = low := by
    apply UInt8.toNat_inj.mp
    rw [UInt8.toNat_ofNat', whole]
    omega
  rw [be16, upper, lower]

/-! ## UTF-8 -/

def ofString (text : String) : List UInt8 := text.toUTF8.data.toList

def toString? (bytes : List UInt8) : Option String := String.fromUTF8? ⟨bytes.toArray⟩

theorem toString?_eq_some {text : String} : toString? bytes = some text ↔ ofString text = bytes := by
  constructor
  · intro decoded
    rw [toString?, String.fromUTF8?] at decoded
    split at decoded
    · cases decoded
      rfl
    · cases decoded
  · intro encoded
    subst encoded
    have same : (⟨(ofString text).toArray⟩ : ByteArray) = text.toByteArray := rfl
    rw [toString?, String.fromUTF8?, same, dif_pos text.isValidUTF8]
    rfl

@[simp] theorem toString?_ofString (text : String) : toString? (ofString text) = some text :=
  toString?_eq_some.mpr rfl

theorem ofString_injective : Function.Injective ofString := by
  intro s t same
  have decoded := toString?_ofString s
  rw [same, toString?_ofString] at decoded
  exact (Option.some.inj decoded).symm

@[simp] theorem ofString_eq_nil {text : String} : ofString text = [] ↔ text = "" := by
  rw [← ofString_injective.eq_iff (b := "")]
  rfl

theorem ofString_eq_flatMap (text : String) : ofString text = text.toList.flatMap String.utf8EncodeChar := by
  have encoded : text.toByteArray = text.toList.utf8Encode := by
    rw [← String.toByteArray_ofList, String.ofList_toList]
  rw [ofString, String.toUTF8, encoded, List.utf8Encode, List.toList_data_toByteArray]

theorem ofString_ascii {text : String} (ascii : ∀ x ∈ text.toList, x.val < 128) :
    ofString text = text.toList.map fun x => x.val.toUInt8 := by
  rw [ofString_eq_flatMap]
  generalize text.toList = cs at ascii
  induction cs with
  | nil => rfl
  | cons x cs ih =>
      have one : x.utf8Size = 1 :=
        Char.utf8Size_eq_one_iff.mpr (Nat.le_of_lt_succ (ascii x (by simp)))
      rw [List.flatMap_cons, String.utf8EncodeChar_eq_singleton one,
        ih fun y member => ascii y (List.mem_cons_of_mem x member)]
      rfl

theorem length_toList_le (text : String) : text.toList.length ≤ (ofString text).length := by
  rw [ofString_eq_flatMap]
  induction text.toList with
  | nil => simp
  | cons x cs ih =>
      have some := x.utf8Size_pos
      rw [List.flatMap_cons, List.length_append, String.length_utf8EncodeChar, List.length_cons]
      omega

theorem ofString_append (s t : String) : ofString (s ++ t) = ofString s ++ ofString t := by
  simp [ofString, String.toUTF8]

theorem length_ofString (text : String) : (ofString text).length = text.utf8ByteSize := by
  simp [ofString, String.toUTF8, ← String.size_toByteArray]

/-- Text up to a boundary between two characters. -/
theorem exists_ofString_eq_take {text : String} {n : Nat}
    (boundary : (⟨n⟩ : String.Pos.Raw).IsValid text) :
    ∃ front back, front ++ back = text ∧ ofString front = (ofString text).take n := by
  obtain ⟨front, back, rfl, stop⟩ := String.Pos.Raw.isValid_iff_exists_append.mp boundary
  have size : (ofString front).length = n := by
    rw [length_ofString]
    exact (congrArg String.Pos.Raw.byteIdx stop).symm
  exact ⟨front, back, rfl, by rw [ofString_append, List.take_left' size]⟩

/-- Bytes cut off a text that are a text themselves end between two characters. -/
theorem isValid_of_ofString_eq_take {text front : String} {n : Nat}
    (inside : n ≤ (ofString text).length) (cut : ofString front = (ofString text).take n) :
    (⟨n⟩ : String.Pos.Raw).IsValid text := by
  have extracted : text.toByteArray.extract 0 n = front.toByteArray := by
    apply ByteArray.ext
    apply Array.toList_inj.mp
    refine Eq.trans ?_ cut.symm
    simp [ofString, String.toUTF8]
  apply String.Pos.Raw.isValid_iff_isValidUTF8_extract_zero.mpr
  constructor
  · rw [String.Pos.Raw.le_iff]
    exact inside.trans_eq (length_ofString text)
  · exact extracted ▸ front.isValidUTF8

end Bytes
