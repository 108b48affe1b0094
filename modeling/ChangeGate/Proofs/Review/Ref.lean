import ChangeGate.Proofs.Text.Blank
import ChangeGate.Proofs.Text.Numeral
import ChangeGate.Review.Ref

/-!
# Refs read back

The text of a ref names that ref again. The two numbers stand between slashes and hold digits
only, so splitting at the slashes gives the segments back. No character of a ref is white space,
so a ref survives trimming and stays on its line.
-/

namespace ChangeGate.Review

open ChangeGate.Text

namespace ChangeRef

/-- The segments of the text of a ref. -/
def segments (ref : ChangeRef) : List (List Char) :=
  [ "refs".toList, "changes".toList, ref.shard.toList, Nat.toDigits 10 ref.number.toNat,
    Nat.toDigits 10 ref.patchset.toNat ]

/-- The shard holds digits only. -/
theorem isDigit_of_mem_shard {ref : ChangeRef} {c : Char} (member : c ∈ ref.shard.toList) :
    c.isDigit = true := by
  simp only [shard] at member
  split at member
  · rw [String.toList_append, toList_numeral, List.mem_append] at member
    rcases member with zero | digit
    · rw [List.mem_singleton.mp zero]
      decide
    · exact isDigit_of_mem_toDigits digit
  · rw [toList_numeral] at member
    exact isDigit_of_mem_toDigits member

theorem toList_text (ref : ChangeRef) :
    ref.text.toList = ['/'].intercalate ref.segments := by
  have joined : ref.text =
      "refs" ++ "/" ++ "changes" ++ "/" ++ ref.shard ++ "/" ++ numeral ref.number.toNat ++ "/"
        ++ numeral ref.patchset.toNat := rfl
  rw [joined]
  simp [segments, List.intercalate]

/-- What holds of every digit, every letter of the fixed segments and the slash holds of every
character of a ref. -/
theorem forall_mem_text {property : Char → Prop} (ref : ChangeRef)
    (ofDigit : ∀ c : Char, c.isDigit = true → property c)
    (ofFixed : ∀ c ∈ "refs/changes".toList, property c) :
    ∀ c ∈ ref.text.toList, property c := by
  intro c member
  have joined : ref.text =
      "refs/changes" ++ "/" ++ ref.shard ++ "/" ++ numeral ref.number.toNat ++ "/"
        ++ numeral ref.patchset.toNat := rfl
  have slash : property '/' := ofFixed '/' (by decide)
  rw [joined] at member
  simp only [String.toList_append, toList_numeral, List.mem_append] at member
  rcases member with (((((fixed | isSlash) | inShard) | isSlash) | inNumber) | isSlash) | inPatchset
  · exact ofFixed c fixed
  · rw [List.mem_singleton.mp isSlash]
    exact slash
  · exact ofDigit c (isDigit_of_mem_shard inShard)
  · rw [List.mem_singleton.mp isSlash]
    exact slash
  · exact ofDigit c (isDigit_of_mem_toDigits inNumber)
  · rw [List.mem_singleton.mp isSlash]
    exact slash
  · exact ofDigit c (isDigit_of_mem_toDigits inPatchset)

/-- No segment of a ref holds a slash. -/
theorem slash_notMem_segments (ref : ChangeRef) :
    ∀ segment ∈ ref.segments, '/' ∉ segment := by
  have noDigit : ¬ '/'.isDigit = true := by decide
  intro segment member inSegment
  simp only [segments, List.mem_cons, List.not_mem_nil, or_false] at member
  rcases member with rfl | rfl | rfl | rfl | rfl
  · exact absurd inSegment (by decide)
  · exact absurd inSegment (by decide)
  · exact noDigit (isDigit_of_mem_shard inSegment)
  · exact noDigit (isDigit_of_mem_toDigits inSegment)
  · exact noDigit (isDigit_of_mem_toDigits inSegment)

/-- The segments of a ref are found between the slashes of its text. -/
theorem splitOn_text (ref : ChangeRef) : ref.text.toList.splitOn '/' = ref.segments := by
  rw [toList_text]
  exact List.splitOn_intercalate '/' ref.slash_notMem_segments (List.cons_ne_nil _ _)

/-- The text of a ref names the ref. -/
theorem parse_text (ref : ChangeRef) : parse ref.text = .ok ref := by
  rw [parse, splitOn_text]
  simp only [segments, readUInt64_toDigits]

/-- No character of a ref is white space. -/
theorem isBlank_of_mem_text (ref : ChangeRef) :
    ∀ c ∈ ref.text.toList, isBlank c = false := by
  have fixed : "refs/changes".toList.all (fun c => !isBlank c) = true := by decide
  apply ref.forall_mem_text (fun _ => isBlank_of_isDigit)
  intro c member
  rw [← Bool.not_eq_true']
  exact List.all_eq_true.mp fixed c member

/-- A ref is not an empty text. -/
theorem toList_text_ne_nil (ref : ChangeRef) : ref.text.toList ≠ [] := by
  have joined : ref.text =
      "refs" ++ ("/" ++ "changes" ++ "/" ++ ref.shard ++ "/" ++ numeral ref.number.toNat ++ "/"
        ++ numeral ref.patchset.toNat) := by
    simp only [← String.append_assoc]
    rfl
  rw [joined, String.toList_append]
  exact List.append_ne_nil_of_left_ne_nil (by decide) _

end ChangeRef

end ChangeGate.Review
