import ChangeGate.Proofs.Text.Numeral
import ChangeGate.Text.Blank

/-!
# Digits of all scripts

A decimal digit of any script has a value, and a run of such digits is written for a number. For the
digits that numerals are read with it is the number that they denote.
-/

namespace ChangeGate.Text

/-- No digit of any script is white space. -/
theorem isBlank_of_isDecimalDigit {c : Char} (digit : isDecimalDigit c = true) :
    isBlank c = false := by
  simp only [isDecimalDigit, List.any_eq_true, Bool.and_eq_true, decide_eq_true_eq] at digit
  obtain ⟨start, member, low, high⟩ := digit
  -- The blocks of digits lie between the places of white space.
  have apart : ∀ start ∈ digitZeros, start = 0x30 ∨ 0x660 ≤ start ∧ start + 10 ≤ 0x1680 ∨
      0x1680 < start ∧ start + 10 ≤ 0x2000 ∨ 0x3000 < start := by decide
  have := apart start member
  simp only [isBlank, Bool.or_eq_false_iff, Bool.and_eq_false_iff, decide_eq_false_iff_not,
    beq_eq_false_iff_ne]
  omega

theorem isDecimalDigit_of_isBlank {c : Char} (blank : isBlank c = true) :
    isDecimalDigit c = false := by
  rw [Bool.eq_false_iff]
  intro digit
  rw [isBlank_of_isDecimalDigit digit] at blank
  cases blank

/-- The value of a decimal digit of any script: how far it stands from the zero of its block. -/
def decimalValue (c : Char) : Nat :=
  (digitZeros.find? fun start => start ≤ c.toNat && c.toNat < start + 10).elim 0 (c.toNat - ·)

/-- The number that some decimal digits of any script are written for. -/
def decimalNumber (digits : List Char) : Nat :=
  digits.foldl (fun value c => 10 * value + decimalValue c) 0

theorem decimalValue_of_isDigit {c : Char} (digit : c.isDigit = true) :
    decimalValue c = digitValue c := by
  simp only [Char.isDigit, Bool.and_eq_true, decide_eq_true_eq] at digit
  have low : 0x30 ≤ c.toNat := digit.1
  have high : c.toNat ≤ 0x39 := digit.2
  have inFirst : (decide (0x30 ≤ c.toNat) && decide (c.toNat < 0x30 + 10)) = true := by
    simp only [Bool.and_eq_true, decide_eq_true_eq]
    omega
  have isFirst : digitZeros.find? (fun start => start ≤ c.toNat && c.toNat < start + 10) =
      some 0x30 := List.find?_cons_of_pos inFirst
  rw [decimalValue, isFirst]
  rfl

/-- Digits that denote a number are written for it. -/
theorem Denotes.decimalNumber_eq {digits : List Char} {value : Nat}
    (denotes : Denotes digits value) : decimalNumber digits = value := by
  induction denotes with
  | digit isDigit =>
      rw [decimalNumber, List.foldl_cons, List.foldl_nil, decimalValue_of_isDigit isDigit]
      omega
  | further _ isDigit inductionHypothesis =>
      rw [decimalNumber] at inductionHypothesis
      rw [decimalNumber, List.foldl_append, List.foldl_cons, List.foldl_nil, inductionHypothesis,
        decimalValue_of_isDigit isDigit]

end ChangeGate.Text
