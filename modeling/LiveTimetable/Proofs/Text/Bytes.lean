import Mathlib.Data.String.Basic
import Mathlib.Order.Monotone.Basic
import Mathlib.Tactic.SplitIfs

/-!
# The bytes of a text

Texts are compared character by character. In UTF-8 this is also the order of their bytes
(`bytes_strictMono`): where two characters differ, their encodings differ at a byte that both have,
and there the lower character has the lower byte.
-/

namespace LiveTimetable.Text

/-- The bytes of a text in UTF-8, as numbers. -/
def bytes (s : String) : List Nat := s.toUTF8.data.toList.map UInt8.toNat

/-- The bytes of the character with a number: its digits to the base 64, where a mark on the first
one tells how many there are. -/
def charBytes (n : Nat) : List Nat :=
  if n ≤ 127 then [n]
  else if n ≤ 2047 then [n / 64 + 192, n % 64 + 128]
  else if n ≤ 65535 then [n / 4096 + 224, n / 64 % 64 + 128, n % 64 + 128]
  else [n / 262144 + 240, n / 4096 % 64 + 128, n / 64 % 64 + 128, n % 64 + 128]

theorem number_lt (c : Char) : c.toNat < 0x110000 := by
  have valid : c.toNat.isValidChar := c.valid
  unfold Nat.isValidChar at valid
  omega

/-- A byte is cut off at 256, which no digit with its mark reaches. -/
theorem map_utf8EncodeChar (c : Char) :
    (String.utf8EncodeChar c).map UInt8.toNat = charBytes c.toNat := by
  have last := number_lt c
  have number : c.val.toNat = c.toNat := rfl
  unfold String.utf8EncodeChar charBytes
  simp only [number]
  split_ifs <;> simp only [List.map_cons, List.map_nil, UInt8.toNat_ofNat', List.cons.injEq,
    and_true] <;> omega

/-- A text has the bytes of its characters, one character behind another. -/
theorem bytes_eq_flatMap (s : String) :
    bytes s = s.toList.flatMap fun c => charBytes c.toNat := by
  show s.toByteArray.data.toList.map UInt8.toNat = _
  rw [← String.utf8Encode_toList, List.utf8Encode, List.toList_data_toByteArray, List.map_flatMap]
  simp only [map_utf8EncodeChar]

example : bytes "né" = [110, 195, 169] := by decide

theorem charBytes_ne_nil (n : Nat) : charBytes n ≠ [] := by
  unfold charBytes
  split_ifs <;> exact List.cons_ne_nil _ _

/-- The lower of two characters has the lower bytes, whatever comes behind. -/
theorem charBytes_append_lt {m n : Nat} (h : m < n) (last : n < 0x110000) (xs ys : List Nat) :
    charBytes m ++ xs < charBytes n ++ ys := by
  unfold charBytes
  -- of two lengths the first byte tells, and of one length the first digit that differs
  split_ifs <;> simp only [List.cons_append, List.nil_append, List.cons_lt_cons_iff] <;> omega

/-- The bytes of two texts part where their characters do. -/
theorem flatMap_charBytes_lt {as bs : List Char} (h : as < bs) :
    (as.flatMap fun c => charBytes c.toNat) < bs.flatMap fun c => charBytes c.toNat := by
  induction as generalizing bs with
  | nil =>
    cases bs with
    | nil => exact absurd h (List.not_lt_nil _)
    | cons b bs =>
      obtain ⟨byte, rest, hb⟩ := List.exists_cons_of_ne_nil (charBytes_ne_nil b.toNat)
      rw [List.flatMap_cons, hb]
      exact List.nil_lt_cons ..
  | cons a as ih =>
    cases bs with
    | nil => exact absurd h (List.not_lt_nil _)
    | cons b bs =>
      rw [List.flatMap_cons, List.flatMap_cons]
      rcases List.cons_lt_cons_iff.mp h with hab | ⟨rfl, hrest⟩
      · exact charBytes_append_lt hab (number_lt b) _ _
      · exact List.append_left_lt (ih hrest)

/-- **Texts are in the order of their bytes.** -/
theorem bytes_strictMono : StrictMono bytes := by
  intro a b h
  rw [bytes_eq_flatMap, bytes_eq_flatMap]
  exact flatMap_charBytes_lt (String.lt_iff.mp h)

end LiveTimetable.Text
