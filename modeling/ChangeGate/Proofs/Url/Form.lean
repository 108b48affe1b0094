import ChangeGate.Proofs.Text.Utf8
import ChangeGate.Proofs.Url.Percent
import ChangeGate.Url.Form

/-!
# Forms read back

A form gives back the pairs it was written from, whatever their texts hold: names and values are
written without the characters that divide them.
-/

namespace ChangeGate.Url

open ChangeGate.Text

/-! ## Names and values -/

/-- What names and values are written with. -/
def IsInForm (c : Char) : Prop :=
  isPlainInForm c = true ∨ c = '+' ∨ c = '%'
  deriving Decidable

theorem isInForm_of_mem_encodeFormText {text : String} {c : Char}
    (member : c ∈ encodeFormText text) : IsInForm c := by
  obtain ⟨other, -, written⟩ := List.mem_flatMap.mp member
  rw [encodeFormChar] at written
  split at written
  · next plain =>
      obtain rfl := List.mem_singleton.mp written
      exact .inl plain
  · split at written
    · exact .inr (.inl (List.mem_singleton.mp written))
    · rcases isEncoding_of_mem_encodeChar written with percent | digit
      · exact .inr (.inr percent)
      · exact .inl (by rw [isPlainInForm, digit, Bool.true_or])

/-- A character that never stands in a form does not stand in a name or a value. -/
theorem not_mem_encodeFormText {c : Char} (outside : ¬IsInForm c) (text : String) :
    c ∉ encodeFormText text :=
  fun member => outside (isInForm_of_mem_encodeFormText member)

theorem not_isInForm_ampersand : ¬IsInForm '&' := by decide

theorem not_isInForm_equals : ¬IsInForm '=' := by decide

/-- The text with spaces in the place of plus signs. -/
def spaced (text : List Char) : List Char :=
  text.map fun c => if c = '+' then ' ' else c

/-- Encoded characters hold no plus sign. -/
theorem spaced_encodeChar (c : Char) : spaced (encodeChar c) = encodeChar c := by
  rw [spaced]
  conv => rhs; rw [← List.map_id (encodeChar c)]
  apply List.map_congr_left
  intro written member
  rw [if_neg, id]
  rintro rfl
  exact absurd (isEncoding_of_mem_encodeChar member) (by decide)

/-- What is written for a character is read as its bytes. -/
theorem percentDecode_encodeFormChar (c : Char) (rest : List Char) :
    percentDecode (spaced (encodeFormChar c) ++ rest) =
      String.utf8EncodeChar c ++ percentDecode rest := by
  rw [encodeFormChar]
  by_cases plain : isPlainInForm c = true
  · have notPlus : c ≠ '+' := by rintro rfl; exact absurd plain (by decide)
    have notPercent : c ≠ '%' := by rintro rfl; exact absurd plain (by decide)
    rw [if_pos plain, spaced, List.map_singleton, if_neg notPlus, List.singleton_append,
      percentDecode_cons_of_ne notPercent]
  · rw [if_neg plain]
    by_cases space : c = ' '
    · subst space
      exact percentDecode_cons_of_ne (by decide) rest
    · rw [if_neg space, spaced_encodeChar, percentDecode_encodeChar]

/-- A written name or value is read as the bytes of its text. -/
theorem percentDecode_spaced_encodeFormText (text : String) :
    percentDecode (spaced (encodeFormText text)) = utf8Bytes text := by
  rw [encodeFormText, utf8Bytes]
  induction text.toList with
  | nil => rfl
  | cons c rest inductionHypothesis =>
      rw [List.flatMap_cons, List.flatMap_cons, spaced, List.map_append, ← spaced, ← spaced,
        percentDecode_encodeFormChar, inductionHypothesis]

/-- A name or a value reads back. -/
theorem decodeFormText_encodeFormText (text : String) :
    decodeFormText (encodeFormText text) = text := by
  have read := percentDecode_spaced_encodeFormText text
  rw [spaced] at read
  rw [decodeFormText, read, mk_utf8Bytes, lossyText, fromUTF8?_toUTF8]

/-! ## Pairs -/

/-- A pair is never written as nothing. -/
theorem encodePair_ne_nil (pair : String × String) : encodePair pair ≠ [] := by
  simp [encodePair]

/-- Pairs are written without the character that stands between them. -/
theorem not_mem_encodePair (pair : String × String) : '&' ∉ encodePair pair := by
  simp [encodePair, not_mem_encodeFormText not_isInForm_ampersand]

/-- A pair reads back. -/
theorem decodePair_encodePair (pair : String × String) : decodePair (encodePair pair) = pair := by
  have nameEnds : ∀ c ∈ encodeFormText pair.1, decide (c ≠ '=') = true := by
    intro c member
    rw [decide_eq_true_eq]
    rintro rfl
    exact not_mem_encodeFormText not_isInForm_equals _ member
  rw [decodePair, encodePair, List.takeWhile_append_of_pos nameEnds,
    List.dropWhile_append_of_pos nameEnds]
  simp [decodeFormText_encodeFormText]

/-- A form gives back the pairs it was written from. -/
theorem decodeForm_encodeForm (pairs : List (String × String)) :
    decodeForm (encodeForm pairs) = pairs := by
  rw [decodeForm, encodeForm]
  cases pairs with
  | nil => rfl
  | cons pair others =>
      have divided : ∀ text ∈ (pair :: others).map encodePair, '&' ∉ text := by
        intro text member
        obtain ⟨other, -, rfl⟩ := List.mem_map.mp member
        exact not_mem_encodePair other
      rw [List.splitOn_intercalate '&' divided (List.cons_ne_nil _ _), List.filter_eq_self.mpr,
        List.map_map]
      · conv => rhs; rw [← List.map_id (pair :: others)]
        exact List.map_congr_left fun other _ => decodePair_encodePair other
      · intro text member
        obtain ⟨other, -, rfl⟩ := List.mem_map.mp member
        simp [encodePair_ne_nil]

end ChangeGate.Url
