import ChangeGate.Proofs.Review.Ref
import ChangeGate.Proofs.Text.Pieces

/-!
# The grammar of refs

A text is read as a ref exactly when it is written for one: five segments between slashes, the last
two of them numerals of 64-bit numbers. The text of a ref is one of the ways to write it, with the
shard in two digits, and no other ref has the same text.
-/

namespace ChangeGate.Review

open ChangeGate.Text

namespace ChangeRef

/-- A text is written for a number and a patchset when it has five segments between slashes, the
fourth a numeral of the one and the fifth a numeral of the other. The first three may be any texts
without a slash. -/
inductive WrittenFor : List Char → Nat → Nat → Prop where
  | segments {first second third fourth fifth : List Char} {number patchset : Nat}
      (whole : ∀ segment ∈ [first, second, third], '/' ∉ segment)
      (isNumber : IsNumeral fourth number) (isPatchset : IsNumeral fifth patchset) :
      WrittenFor (['/'].intercalate [first, second, third, fourth, fifth]) number patchset

/-- No numeral holds a slash. -/
theorem slash_notMem_of_isNumeral {text : List Char} {value : Nat}
    (isNumeral : IsNumeral text value) : '/' ∉ text := by
  have noDigit : ¬ '/'.isDigit = true := by decide
  cases isNumeral with
  | plain denotes => exact fun member => noDigit (denotes.isDigit '/' member)
  | signed denotes =>
      intro member
      rcases List.mem_cons.mp member with sign | digit
      · cases sign
      · exact noDigit (denotes.isDigit '/' digit)

section
variable {text : String} {ref : ChangeRef}

/-- A ref is read from five segments, the last two of which are read as its numbers. -/
theorem parse_eq_ok_iff_splitOn :
    parse text = .ok ref ↔ ∃ first second third fourth fifth,
      text.toList.splitOn '/' = [first, second, third, fourth, fifth] ∧
        readUInt64 fourth = .ok ref.number ∧ readUInt64 fifth = .ok ref.patchset := by
  rw [parse]
  split
  · next first second third fourth fifth pieces =>
    constructor
    · intro reads
      refine ⟨first, second, third, fourth, fifth, pieces, ?_⟩
      cases isNumber : readUInt64 fourth with
      | error cause =>
          rw [isNumber] at reads
          cases reads
      | ok number =>
          cases isPatchset : readUInt64 fifth with
          | error cause =>
              rw [isNumber, isPatchset] at reads
              cases reads
          | ok patchset =>
              rw [isNumber, isPatchset] at reads
              cases reads
              exact ⟨rfl, rfl⟩
    · intro found
      obtain ⟨_, _, _, _, _, samePieces, isNumber, isPatchset⟩ := found
      cases pieces.symm.trans samePieces
      rw [isNumber, isPatchset]
  · next pieces otherwise =>
    constructor
    · intro reads
      cases reads
    · intro found
      obtain ⟨first, second, third, fourth, fifth, fivePieces, _⟩ := found
      exact absurd fivePieces (otherwise first second third fourth fifth)

/-- A text is read as the ref it is written for, and as no other. -/
theorem parse_eq_ok_iff :
    parse text = .ok ref ↔ WrittenFor text.toList ref.number.toNat ref.patchset.toNat := by
  rw [parse_eq_ok_iff_splitOn]
  simp only [readUInt64_eq_ok_iff]
  constructor
  · intro ⟨first, second, third, fourth, fifth, pieces, isNumber, isPatchset⟩
    have ⟨_, whole, joined⟩ := splitOn_eq_iff.mp pieces
    rw [joined]
    refine .segments (fun segment member => whole segment ?_) isNumber isPatchset
    exact List.mem_append_left [fourth, fifth] member
  · generalize text.toList = chars
    intro written
    cases written with
    | @segments first second third fourth fifth _ _ whole isNumber isPatchset =>
        refine ⟨first, second, third, fourth, fifth, ?_, isNumber, isPatchset⟩
        refine splitOn_eq_iff.mpr ⟨List.cons_ne_nil _ _, ?_, rfl⟩
        have lastTwo : ∀ segment ∈ [fourth, fifth], '/' ∉ segment :=
          List.forall_mem_cons.mpr ⟨slash_notMem_of_isNumeral isNumber,
            List.forall_mem_singleton.mpr (slash_notMem_of_isNumeral isPatchset)⟩
        exact List.forall_mem_append.mpr ⟨whole, lastTwo⟩

end

/-- The shard is the last two digits of the change number, with a zero before a single one. -/
theorem exists_digits_shard (ref : ChangeRef) : ∃ tens ones,
    ref.shard.toList = [tens, ones] ∧ Denotes [tens, ones] (ref.number.toNat % 100) := by
  have small : ref.number.toNat % 100 < 100 := Nat.mod_lt _ (by decide)
  rw [shard]
  generalize ref.number.toNat % 100 = residue at small
  have denotes := denotes_toDigits residue
  by_cases single : residue < 10
  · have digits : Nat.toDigits 10 residue = [residue.digitChar] := Nat.toDigits_of_lt_base single
    rw [digits] at denotes
    refine ⟨'0', residue.digitChar, ?_, denotes.zero_cons⟩
    rw [if_pos single, String.toList_append, toList_numeral, digits]
    rfl
  · have digits : Nat.toDigits 10 residue =
        [(residue / 10).digitChar, (residue % 10).digitChar] := by
      rw [Nat.toDigits_of_base_le (by decide) (Nat.not_lt.mp single),
        Nat.toDigits_of_lt_base (by omega)]
      rfl
    rw [digits] at denotes
    refine ⟨_, _, ?_, denotes⟩
    rw [if_neg single, toList_numeral, digits]

/-- What holds of a text that is read as a ref, and of a ref that is written as a text. -/
structure TextLaws (text : String) (ref : ChangeRef) : Prop where
  /-- A text is read exactly when it is written for two 64-bit numbers, and then as these. -/
  parse_iff : ∀ number patchset : Nat,
    (∃ found, parse text = .ok found ∧ found.number.toNat = number ∧
        found.patchset.toNat = patchset) ↔
      WrittenFor text.toList number patchset ∧ number < UInt64.size ∧ patchset < UInt64.size
  /-- The text of a ref is read as the ref. -/
  parse_text : parse ref.text = .ok ref
  /-- Its third segment is the change number modulo one hundred, in exactly two digits. -/
  shard : ∃ tens ones, ref.text.toList.splitOn '/' =
      ["refs".toList, "changes".toList, [tens, ones], Nat.toDigits 10 ref.number.toNat,
        Nat.toDigits 10 ref.patchset.toNat] ∧
    Denotes [tens, ones] (ref.number.toNat % 100)
  /-- No other ref has the same text. -/
  eq_of_text_eq : ∀ other : ChangeRef, other.text = ref.text → other = ref
  /-- Writing anew what was read, and reading it again, changes nothing. -/
  parse_rewritten : ∀ found, parse text = .ok found → parse found.text = parse text

/-- Reading follows the grammar of refs, and the text of a ref is its one canonical form. -/
theorem textLaws (text : String) (ref : ChangeRef) : TextLaws text ref := by
  constructor
  case parse_iff =>
    intro number patchset
    constructor
    · intro ⟨found, reads, isNumber, isPatchset⟩
      rw [← isNumber, ← isPatchset]
      exact ⟨parse_eq_ok_iff.mp reads, found.number.toNat_lt, found.patchset.toNat_lt⟩
    · intro ⟨written, numberBelow, patchsetBelow⟩
      have isNumber := UInt64.toNat_ofNat_of_lt' numberBelow
      have isPatchset := UInt64.toNat_ofNat_of_lt' patchsetBelow
      refine ⟨⟨.ofNat number, .ofNat patchset⟩, parse_eq_ok_iff.mpr ?_, isNumber, isPatchset⟩
      rw [isNumber, isPatchset]
      exact written
  case parse_text => exact ref.parse_text
  case shard =>
    have ⟨tens, ones, digits, denotes⟩ := ref.exists_digits_shard
    refine ⟨tens, ones, ?_, denotes⟩
    rw [splitOn_text, segments, digits]
  case eq_of_text_eq =>
    intro other same
    have reads := other.parse_text
    rw [same, ref.parse_text] at reads
    exact (Except.ok.inj reads).symm
  case parse_rewritten =>
    intro found reads
    rw [found.parse_text, reads]

/-- A text with odd segments, a sign, leading zeros and the largest patchset is read, and is read
alike once it is written in the canonical form. -/
theorem textLaws_of_odd_segments : ∃ found : ChangeRef,
    parse "x//c/+007/18446744073709551615" = .ok found ∧ found.number.toNat = 7 ∧
      found.patchset.toNat = 18446744073709551615 ∧ parse found.text = .ok found := by
  have laws := textLaws "x//c/+007/18446744073709551615" ⟨7, 18446744073709551615⟩
  have isNumber : IsNumeral "+007".toList 7 := .signed (denotes_toDigits 7).zero_cons.zero_cons
  have isPatchset : IsNumeral "18446744073709551615".toList 18446744073709551615 :=
    .plain (denotes_toDigits 18446744073709551615)
  have written : WrittenFor "x//c/+007/18446744073709551615".toList 7 18446744073709551615 :=
    @WrittenFor.segments ['x'] [] ['c'] _ _ _ _ (by decide) isNumber isPatchset
  have ⟨found, reads, sameNumber, samePatchset⟩ :=
    (laws.parse_iff 7 18446744073709551615).mpr ⟨written, by decide, by decide⟩
  exact ⟨found, reads, sameNumber, samePatchset, (laws.parse_rewritten found reads).trans reads⟩

end ChangeRef

end ChangeGate.Review
