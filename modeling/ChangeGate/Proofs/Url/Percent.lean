import ChangeGate.Url.Percent

/-!
# Percent encoding undone

Encoded bytes are put back as they were, wherever they stand. An encoded text holds percent signs,
letters and digits, and whatever else did not have to be encoded.
-/

namespace ChangeGate.Url

open ChangeGate.Text

/-! ## Digits -/

/-- Upper-case digits are read as their value. -/
theorem hexValue?_toUpper_digitChar {value : Nat} (small : value < 16) :
    hexValue? (Nat.digitChar value).toUpper = some value := by
  have all : ∀ value : Fin 16, hexValue? (Nat.digitChar value).toUpper = some value.val := by decide
  exact all ⟨value, small⟩

/-- Digits stand for themselves in every address. -/
theorem isAlphanum_toUpper_digitChar {value : Nat} (small : value < 16) :
    (Nat.digitChar value).toUpper.isAlphanum = true := by
  have all : ∀ value : Fin 16, (Nat.digitChar value).toUpper.isAlphanum = true := by decide
  exact all ⟨value, small⟩

/-! ## Reading back -/

/-- An encoded byte is put back. -/
theorem percentDecode_encodeByte (byte : UInt8) (rest : List Char) :
    percentDecode (encodeByte byte ++ rest) = byte :: percentDecode rest := by
  have bound := byte.toNat_lt
  have high : hexValue? (Nat.digitChar (byte.toNat / 16)).toUpper = some (byte.toNat / 16) :=
    hexValue?_toUpper_digitChar (by omega)
  have low : hexValue? (Nat.digitChar (byte.toNat % 16)).toUpper = some (byte.toNat % 16) :=
    hexValue?_toUpper_digitChar (by omega)
  rw [encodeByte, upperHexByte]
  simp only [List.cons_append, List.nil_append, percentDecode, high, low]
  rw [Nat.div_add_mod, UInt8.ofNat_toNat]

/-- Encoded bytes are put back in order. -/
theorem percentDecode_flatMap_encodeByte (bytes : List UInt8) (rest : List Char) :
    percentDecode (bytes.flatMap encodeByte ++ rest) = bytes ++ percentDecode rest := by
  induction bytes with
  | nil => rfl
  | cons byte others inductionHypothesis =>
      rw [List.flatMap_cons, List.append_assoc, percentDecode_encodeByte, inductionHypothesis,
        List.cons_append]

/-- An encoded character is put back as its bytes. -/
theorem percentDecode_encodeChar (c : Char) (rest : List Char) :
    percentDecode (encodeChar c ++ rest) = String.utf8EncodeChar c ++ percentDecode rest :=
  percentDecode_flatMap_encodeByte _ rest

/-- A character other than the percent sign stands for its own bytes. -/
theorem percentDecode_cons_of_ne {c : Char} (ordinary : c ≠ '%') (rest : List Char) :
    percentDecode (c :: rest) = String.utf8EncodeChar c ++ percentDecode rest := by
  rw [percentDecode]
  intro high low others same _
  exact absurd same ordinary

/-! ## What an encoded text holds -/

/-- What is written for encoded characters: percent signs and digits. -/
def IsEncoding (c : Char) : Prop :=
  c = '%' ∨ c.isAlphanum = true
  deriving Decidable

theorem isEncoding_of_mem_encodeByte {byte : UInt8} {c : Char} (member : c ∈ encodeByte byte) :
    IsEncoding c := by
  have bound := byte.toNat_lt
  rw [encodeByte, upperHexByte, List.mem_cons, List.mem_cons, List.mem_singleton] at member
  obtain rfl | rfl | rfl := member
  · exact .inl rfl
  · exact .inr (isAlphanum_toUpper_digitChar (by omega))
  · exact .inr (isAlphanum_toUpper_digitChar (by omega))

theorem isEncoding_of_mem_encodeChar {other c : Char} (member : c ∈ encodeChar other) :
    IsEncoding c := by
  obtain ⟨byte, -, written⟩ := List.mem_flatMap.mp member
  exact isEncoding_of_mem_encodeByte written

/-- An encoded text does not hold what must be encoded in it, other than the percent sign. -/
theorem not_mem_percentEncode {encoded : Char → Bool} {c : Char} (isEncoded : encoded c = true)
    (notEncoding : ¬IsEncoding c) (text : List Char) : c ∉ percentEncode encoded text := by
  intro member
  obtain ⟨other, -, written⟩ := List.mem_flatMap.mp member
  split at written
  · exact notEncoding (isEncoding_of_mem_encodeChar written)
  · next kept =>
      obtain rfl := List.mem_singleton.mp written
      exact kept isEncoded

end ChangeGate.Url
