import Mathlib.Tactic.SplitIfs

/-!
# Texts as bytes

A text reads back from its bytes, and texts are in the order of their bytes: UTF-8 keeps the order
of characters.
-/

namespace ChangeGate.Text

/-- A text reads back from its bytes. -/
theorem fromUTF8?_toUTF8 (text : String) : String.fromUTF8? text.toUTF8 = some text := by
  rw [String.toUTF8_eq_toByteArray, String.fromUTF8?, dif_pos text.isValidUTF8]
  rfl

/-- The bytes that a text is written with. -/
def utf8Bytes (text : String) : List UInt8 :=
  text.toList.flatMap String.utf8EncodeChar

/-- The bytes of a text are those of its characters. -/
theorem mk_utf8Bytes (text : String) : ByteArray.mk (utf8Bytes text).toArray = text.toUTF8 := by
  rw [String.toUTF8_eq_toByteArray, ← String.utf8Encode_toList, List.utf8Encode, utf8Bytes,
    ← List.data_toByteArray]

/-- What starts with a lesser character is less as bytes too. -/
theorem utf8EncodeChar_append_lt {first second : Char} (less : first < second)
    (bytes others : List UInt8) :
    String.utf8EncodeChar first ++ bytes < String.utf8EncodeChar second ++ others := by
  have codes : first.val.toNat < second.val.toNat := less
  have bound : second.val.toNat < 0x110000 := by
    rcases second.valid with valid | ⟨-, valid⟩
    · exact Nat.lt_trans valid (by decide)
    · exact valid
  unfold String.utf8EncodeChar
  generalize first.val.toNat = low at codes ⊢
  generalize second.val.toNat = high at codes bound ⊢
  have digits : low / 64 < high / 64 ∨ low / 64 = high / 64 ∧ low % 64 < high % 64 := by omega
  -- The first byte decides between different lengths, and the digits of the codes between equal
  -- ones.
  simp only
  split_ifs
  all_goals
    simp only [List.cons_append, List.nil_append, List.cons_lt_cons_iff, UInt8.lt_iff_toNat_lt,
      ← UInt8.toNat_inj, UInt8.toNat_ofNat']
    rcases digits with leading | ⟨leading, last⟩
    · omega
    · omega

/-- A lesser text is less as bytes. -/
theorem utf8Bytes_lt {first second : String} (less : first < second) :
    utf8Bytes first < utf8Bytes second := by
  rw [String.lt_iff] at less
  rw [utf8Bytes, utf8Bytes]
  generalize first.toList = chars at less ⊢
  generalize second.toList = others at less ⊢
  induction chars generalizing others with
  | nil =>
      cases others with
      | nil => exact absurd less (List.lt_irrefl [])
      | cons other others =>
          obtain ⟨byte, bytes, written⟩ := List.exists_cons_of_ne_nil
            (String.utf8EncodeChar_ne_nil (c := other))
          rw [List.flatMap_nil, List.flatMap_cons, written]
          exact List.nil_lt_cons byte _
  | cons c chars inductionHypothesis =>
      cases others with
      | nil => exact absurd less (List.not_lt_nil _)
      | cons other others =>
          rw [List.flatMap_cons, List.flatMap_cons]
          rcases List.cons_lt_cons_iff.mp less with lessChar | ⟨rfl, lessRest⟩
          · exact utf8EncodeChar_append_lt lessChar _ _
          · exact List.append_left_lt (inductionHypothesis others lessRest)

/-- Texts in order are in the order of their bytes. -/
theorem utf8Bytes_le {first second : String} (inOrder : first ≤ second) :
    utf8Bytes first ≤ utf8Bytes second := by
  by_cases less : first < second
  · exact List.le_of_lt (utf8Bytes_lt less)
  · rw [String.le_antisymm inOrder (String.not_lt.mp less)]
    exact List.le_refl _

end ChangeGate.Text
