import ChangeGate.Proofs.Text.Search
import ChangeGate.Text.Blank

/-!
# Texts without white space around them

Trimming leaves a text as it is when none of its characters is white space, leaves nothing of a text
when all of them are, and takes away whatever white space is put around a text.
-/

namespace ChangeGate.Text

/-- A digit is no white space. -/
theorem isBlank_of_isDigit {c : Char} (digit : c.isDigit = true) : isBlank c = false := by
  simp only [Char.isDigit, Bool.and_eq_true, decide_eq_true_eq] at digit
  have low : 0x30 ≤ c.toNat := digit.1
  have high : c.toNat ≤ 0x39 := digit.2
  simp only [isBlank, Bool.or_eq_false_iff, Bool.and_eq_false_iff, decide_eq_false_iff_not,
    beq_eq_false_iff_ne]
  omega

/-- What is trimmed at the start is white space. -/
theorem exists_trimStart (text : List Char) :
    ∃ front, text = front ++ trimStart text ∧ ∀ c ∈ front, isBlank c = true :=
  ⟨text.takeWhile isBlank, (takeWhile_append_trimStart text).symm, fun _ => List.mem_takeWhile_imp⟩

/-- White space is trimmed at the start up to what is none. -/
theorem trimStart_append {front text : List Char} (blank : ∀ c ∈ front, isBlank c = true)
    (stops : Stops isBlank text) : trimStart (front ++ text) = text :=
  dropWhile_append_of_stops blank stops

/-- Without white space nothing is trimmed at the start. -/
theorem trimStart_of_isBlank_eq_false {text : List Char}
    (solid : ∀ c ∈ text, isBlank c = false) : trimStart text = text := by
  cases text with
  | nil => rfl
  | cons c rest => rw [trimStart_cons, solid c List.mem_cons_self, if_neg Bool.false_ne_true]

/-- Without white space nothing is trimmed. -/
theorem trim_of_isBlank_eq_false {text : List Char}
    (solid : ∀ c ∈ text, isBlank c = false) : trim text = text := by
  have solidReverse : ∀ c ∈ text.reverse, isBlank c = false :=
    fun c member => solid c (List.mem_reverse.mp member)
  have atEnd : trimEnd text = text := by
    change (trimStart text.reverse).reverse = text
    rw [trimStart_of_isBlank_eq_false solidReverse, List.reverse_reverse]
  rw [trim, trimStart_of_isBlank_eq_false solid, atEnd]

/-- Only white space is trimmed away altogether. -/
theorem trim_eq_nil_iff {text : List Char} : trim text = [] ↔ ∀ c ∈ text, isBlank c = true := by
  rw [trim, trimEnd, List.reverse_eq_nil_iff, List.dropWhile_eq_nil_iff]
  simp only [List.mem_reverse]
  constructor
  · intro rest c member
    rw [← takeWhile_append_trimStart text, List.mem_append] at member
    rcases member with dropped | kept
    · exact List.mem_takeWhile_imp dropped
    · exact rest c kept
  · intro blank c kept
    exact blank c ((List.dropWhile_sublist _).subset kept)

/-- White space around a text makes no difference once it is trimmed. -/
theorem trim_append_append {front back : List Char} (text : List Char)
    (frontBlank : ∀ c ∈ front, isBlank c = true) (backBlank : ∀ c ∈ back, isBlank c = true) :
    trim (front ++ text ++ back) = trim text := by
  have backReverse : ∀ c ∈ back.reverse, isBlank c = true :=
    fun c member => backBlank c (List.mem_reverse.mp member)
  rw [trim, trim, trimStart, trimStart, List.append_assoc,
    List.dropWhile_append_of_pos frontBlank, List.dropWhile_append]
  cases rest : text.dropWhile isBlank with
  | nil =>
      rw [List.isEmpty_nil, if_pos rfl, List.dropWhile_eq_nil_iff.mpr backBlank]
  | cons c others =>
      rw [List.isEmpty_cons, if_neg Bool.false_ne_true, trimEnd, List.reverse_append,
        List.dropWhile_append_of_pos backReverse, trimEnd]

/-- What is trimmed away is white space. -/
theorem exists_trim (text : List Char) : ∃ front back, text = front ++ trim text ++ back ∧
    (∀ c ∈ front, isBlank c = true) ∧ ∀ c ∈ back, isBlank c = true := by
  have ending (chars : List Char) :
      trimEnd chars ++ (chars.reverse.takeWhile isBlank).reverse = chars := by
    rw [trimEnd, ← List.reverse_append, List.takeWhile_append_dropWhile, List.reverse_reverse]
  obtain ⟨front, split, frontBlank⟩ := exists_trimStart text
  refine ⟨front, ((trimStart text).reverse.takeWhile isBlank).reverse, ?_, frontBlank, ?_⟩
  · rw [trim, List.append_assoc, ending]
    exact split
  · exact fun _ member => List.mem_takeWhile_imp (List.mem_reverse.mp member)

/-- A text without white space is left of another one exactly when that is the text with white space
around it. -/
theorem trim_eq_iff {text word : List Char} (solid : ∀ c ∈ word, isBlank c = false) :
    trim text = word ↔ ∃ front back, text = front ++ word ++ back ∧
      (∀ c ∈ front, isBlank c = true) ∧ ∀ c ∈ back, isBlank c = true := by
  constructor
  · rintro rfl
    exact exists_trim text
  · rintro ⟨front, back, rfl, frontBlank, backBlank⟩
    rw [trim_append_append word frontBlank backBlank, trim_of_isBlank_eq_false solid]

end ChangeGate.Text
