import ChangeGate.Text.Numeral

/-!
# Numerals read back

A text is read as a number exactly when it is a numeral of that number and the number is below the
bound of the reader. The decimal text of a number is a numeral of it, and so it reads back. A reader
carries the value of the digits before, so what is said of digits is said for any value to start
from.
-/

namespace ChangeGate.Text

/-! ## Digits -/

/-- The decimal text of a number holds digits only. -/
theorem isDigit_of_mem_toDigits {value : Nat} {c : Char} (member : c ∈ Nat.toDigits 10 value) :
    c.isDigit = true :=
  Nat.isDigit_of_mem_toDigits (by decide) (by decide) member

/-- What is no digit is not in the decimal text of a number. -/
theorem notMem_numeral {c : Char} (notDigit : ¬ c.isDigit = true) (value : Nat) :
    c ∉ (numeral value).toList := by
  rw [toList_numeral]
  exact fun member => notDigit (isDigit_of_mem_toDigits member)

/-- Different numbers have different decimal texts. -/
theorem eq_of_numeral_eq {value other : Nat} (same : numeral value = numeral other) :
    value = other := by
  have digits := congrArg (fun text : String => Nat.ofDigitChars 10 text.toList 0) same
  simpa only [toList_numeral, Nat.ofDigitChars_ten_toDigits] using digits

/-- Digits written for a number: one digit for its value, and one more after others for its value
and ten times theirs. -/
inductive Denotes : List Char → Nat → Prop where
  | digit {c : Char} (isDigit : c.isDigit = true) : Denotes [c] (digitValue c)
  | further {digits : List Char} {value : Nat} {c : Char} (earlier : Denotes digits value)
      (isDigit : c.isDigit = true) : Denotes (digits ++ [c]) (10 * value + digitValue c)

/-- A numeral is written as digits, after a plus sign or without one. -/
inductive IsNumeral : List Char → Nat → Prop where
  | plain {digits : List Char} {value : Nat} (denotes : Denotes digits value) :
      IsNumeral digits value
  | signed {digits : List Char} {value : Nat} (denotes : Denotes digits value) :
      IsNumeral ('+' :: digits) value

namespace Denotes

variable {digits : List Char} {value : Nat}

theorem ne_nil (denotes : Denotes digits value) : digits ≠ [] := by
  cases denotes with
  | digit _ => exact List.cons_ne_nil _ _
  | further _ _ => exact List.append_ne_nil_of_right_ne_nil _ (List.cons_ne_nil _ _)

theorem isDigit (denotes : Denotes digits value) : ∀ c ∈ digits, c.isDigit = true := by
  induction denotes with
  | digit isDigit => exact List.forall_mem_singleton.mpr isDigit
  | further _ isDigit inductionHypothesis =>
      exact List.forall_mem_append.mpr
        ⟨inductionHypothesis, List.forall_mem_singleton.mpr isDigit⟩

theorem ofDigitChars_eq (denotes : Denotes digits value) :
    Nat.ofDigitChars 10 digits 0 = value := by
  induction denotes with
  | digit _ => exact Nat.zero_add _
  | further _ _ inductionHypothesis =>
      rw [Nat.ofDigitChars_append, inductionHypothesis]
      rfl

/-- Digits after a number are read on from its value. -/
theorem append {rest : List Char} (earlier : Denotes digits value)
    (areDigits : ∀ c ∈ rest, c.isDigit = true) :
    Denotes (digits ++ rest) (Nat.ofDigitChars 10 rest value) := by
  induction rest generalizing digits value with
  | nil =>
      rw [List.append_nil, Nat.ofDigitChars_nil]
      exact earlier
  | cons c rest inductionHypothesis =>
      have ⟨isDigit, restDigits⟩ := List.forall_mem_cons.mp areDigits
      rw [List.append_cons, Nat.ofDigitChars_cons]
      exact inductionHypothesis (earlier.further isDigit) restDigits

/-- A zero in front makes no difference. -/
theorem zero_cons (denotes : Denotes digits value) : Denotes ('0' :: digits) value := by
  have zero : Denotes ['0'] 0 := .digit (by decide)
  have together : Denotes (['0'] ++ digits) (Nat.ofDigitChars 10 digits 0) :=
    zero.append denotes.isDigit
  rwa [denotes.ofDigitChars_eq] at together

end Denotes

/-- Every run of digits is written for the value they come to. -/
theorem denotes_ofDigitChars {digits : List Char} (present : digits ≠ [])
    (areDigits : ∀ c ∈ digits, c.isDigit = true) :
    Denotes digits (Nat.ofDigitChars 10 digits 0) := by
  cases digits with
  | nil => exact absurd rfl present
  | cons c rest =>
      have ⟨isDigit, restDigits⟩ := List.forall_mem_cons.mp areDigits
      rw [Nat.ofDigitChars_cons, Nat.mul_zero, Nat.zero_add]
      exact (Denotes.digit isDigit).append restDigits

/-- The decimal text of a number is written for it. -/
theorem denotes_toDigits (value : Nat) : Denotes (Nat.toDigits 10 value) value := by
  have denotes : Denotes _ (Nat.ofDigitChars 10 (Nat.toDigits 10 value) 0) :=
    denotes_ofDigitChars Nat.toDigits_ne_nil fun _ member => isDigit_of_mem_toDigits member
  rwa [Nat.ofDigitChars_ten_toDigits] at denotes

/-! ## Reading -/

/-- Further digits never make a number smaller. -/
theorem le_ofDigitChars (digits : List Char) (value : Nat) :
    value ≤ Nat.ofDigitChars 10 digits value := by
  induction digits generalizing value with
  | nil =>
      exact Nat.le_of_eq Nat.ofDigitChars_nil.symm
  | cons c rest inductionHypothesis =>
      rw [Nat.ofDigitChars_cons]
      have larger := inductionHypothesis (10 * value + (c.toNat - '0'.toNat))
      omega

theorem readDigits_cons_eq_ok_iff {bound start value : Nat} {c : Char} {rest : List Char} :
    readDigits bound start (c :: rest) = .ok value ↔
      c.isDigit = true ∧ 10 * start + digitValue c < bound ∧
        readDigits bound (10 * start + digitValue c) rest = .ok value := by
  by_cases isDigit : c.isDigit = true
  · by_cases below : 10 * start + digitValue c < bound
    · simp [readDigits, isDigit, below]
    · simp [readDigits, isDigit, below]
  · simp [readDigits, isDigit]

/-- Digits are read as the value they come to, if that stays below the bound. -/
theorem readDigits_eq_ok_iff {bound start value : Nat} {digits : List Char}
    (small : start < bound) :
    readDigits bound start digits = .ok value ↔
      (∀ c ∈ digits, c.isDigit = true) ∧ Nat.ofDigitChars 10 digits start = value ∧
        value < bound := by
  induction digits generalizing start with
  | nil =>
      constructor
      · intro reads
        rw [← Except.ok.inj reads]
        exact ⟨fun _ member => absurd member List.not_mem_nil, Nat.ofDigitChars_nil, small⟩
      · rintro ⟨-, rfl, -⟩
        rw [readDigits, Nat.ofDigitChars_nil]
  | cons c rest inductionHypothesis =>
      rw [readDigits_cons_eq_ok_iff, List.forall_mem_cons, Nat.ofDigitChars_cons]
      constructor
      · rintro ⟨isDigit, below, restReads⟩
        have ⟨restDigits, restValue⟩ := (inductionHypothesis below).mp restReads
        exact ⟨⟨isDigit, restDigits⟩, restValue⟩
      · rintro ⟨⟨isDigit, restDigits⟩, rfl, valueBelow⟩
        have below : 10 * start + digitValue c < bound :=
          Nat.lt_of_le_of_lt (le_ofDigitChars rest _) valueBelow
        exact ⟨isDigit, below, (inductionHypothesis below).mpr ⟨restDigits, rfl, valueBelow⟩⟩

/-- From zero on exactly the digits of a number below the bound are read. -/
theorem readDigits_zero_eq_ok_iff {bound value : Nat} {digits : List Char} (present : digits ≠ [])
    (positive : 0 < bound) :
    readDigits bound 0 digits = .ok value ↔ Denotes digits value ∧ value < bound := by
  rw [readDigits_eq_ok_iff positive]
  constructor
  · rintro ⟨areDigits, rfl, below⟩
    exact ⟨denotes_ofDigitChars present areDigits, below⟩
  · rintro ⟨denotes, below⟩
    exact ⟨denotes.isDigit, denotes.ofDigitChars_eq, below⟩

section
variable {bound value : Nat} {c : Char} {rest : List Char}

theorem readNumeral_signed (present : rest ≠ []) :
    readNumeral bound ('+' :: rest) = readDigits bound 0 rest := by
  cases rest with
  | nil => exact absurd rfl present
  | cons c others => rfl

theorem readNumeral_unsigned (noSign : c ≠ '+') :
    readNumeral bound (c :: rest) = readDigits bound 0 (c :: rest) := by
  rw [readNumeral.eq_def]
  split
  · next empty => exact absurd empty (List.cons_ne_nil c rest)
  · next sign => exact absurd (List.cons.inj sign).1 noSign
  · next sign => exact absurd (List.cons.inj sign).1 noSign
  · rfl

theorem isNumeral_signed_iff : IsNumeral ('+' :: rest) value ↔ Denotes rest value := by
  constructor
  · intro numeral
    cases numeral with
    | plain denotes => exact absurd (denotes.isDigit '+' List.mem_cons_self) (by decide)
    | signed denotes => exact denotes
  · exact .signed

theorem isNumeral_unsigned_iff (noSign : c ≠ '+') :
    IsNumeral (c :: rest) value ↔ Denotes (c :: rest) value := by
  constructor
  · intro numeral
    cases numeral with
    | plain denotes => exact denotes
    | signed denotes => exact absurd rfl noSign
  · exact .plain

/-- Exactly the numerals of numbers below the bound are read. -/
theorem readNumeral_eq_ok_iff {text : List Char} (positive : 0 < bound) :
    readNumeral bound text = .ok value ↔ IsNumeral text value ∧ value < bound := by
  cases text with
  | nil =>
      constructor
      · intro reads
        cases reads
      · rintro ⟨⟨denotes⟩, -⟩
        exact absurd rfl denotes.ne_nil
  | cons c rest =>
      by_cases sign : c = '+'
      · subst sign
        rw [isNumeral_signed_iff]
        cases rest with
        | nil =>
            constructor
            · intro reads
              cases reads
            · rintro ⟨denotes, -⟩
              exact absurd rfl denotes.ne_nil
        | cons first others =>
            have present : first :: others ≠ [] := List.cons_ne_nil first others
            rw [readNumeral_signed present, readDigits_zero_eq_ok_iff present positive]
      · rw [isNumeral_unsigned_iff sign, readNumeral_unsigned sign,
          readDigits_zero_eq_ok_iff (List.cons_ne_nil c rest) positive]

end

/-- Where the numbers below a bound are the values of a type, exactly their numerals are read as such
a value. -/
theorem map_readNumeral_eq_ok_iff {α : Type} {bound : Nat} {ofNat : Nat → α} {toNat : α → Nat}
    {text : List Char} {value : α} (below : ∀ value, toNat value < bound)
    (ofNat_toNat : ∀ value, ofNat (toNat value) = value)
    (toNat_ofNat : ∀ number < bound, toNat (ofNat number) = number) :
    (readNumeral bound text).map ofNat = .ok value ↔ IsNumeral text (toNat value) := by
  have positive : 0 < bound := Nat.zero_lt_of_lt (below value)
  have bounded : readNumeral bound text = .ok (toNat value) ↔ IsNumeral text (toNat value) := by
    rw [readNumeral_eq_ok_iff positive]
    exact and_iff_left (below value)
  rw [← bounded]
  constructor
  · intro reads
    cases isRead : readNumeral bound text with
    | error cause =>
        rw [isRead] at reads
        cases reads
    | ok number =>
        rw [isRead] at reads
        have numberBelow : number < bound := ((readNumeral_eq_ok_iff positive).mp isRead).2
        rw [← Except.ok.inj reads, toNat_ofNat number numberBelow]
  · intro reads
    rw [reads]
    exact congrArg Except.ok (ofNat_toNat value)

/-- Exactly the numerals of 64-bit numbers are read as such. -/
theorem readUInt64_eq_ok_iff {text : List Char} {value : UInt64} :
    readUInt64 text = .ok value ↔ IsNumeral text value.toNat :=
  map_readNumeral_eq_ok_iff UInt64.toNat_lt (fun _ => UInt64.ofNat_toNat)
    fun _ => UInt64.toNat_ofNat_of_lt'

/-- Exactly the numerals of 32-bit numbers are read as such. -/
theorem readUInt32_eq_ok_iff {text : List Char} {value : UInt32} :
    readUInt32 text = .ok value ↔ IsNumeral text value.toNat :=
  map_readNumeral_eq_ok_iff UInt32.toNat_lt (fun _ => UInt32.ofNat_toNat)
    fun _ => UInt32.toNat_ofNat_of_lt'

/-- Every 64-bit number reads back from its decimal text. -/
theorem readUInt64_toDigits (value : UInt64) :
    readUInt64 (Nat.toDigits 10 value.toNat) = .ok value :=
  readUInt64_eq_ok_iff.mpr (.plain (denotes_toDigits value.toNat))

end ChangeGate.Text
