import ChangeGate.Settings.Trust

/-!
# The case of letters

Two texts have the same letters when they are the same in lower case. That is so for the capital
letters of ASCII only, none of which is white space or a sign, so it goes together with trimming.
-/

namespace ChangeGate

open ChangeGate.Text

/-- Two texts that differ at most in the case of ASCII letters. -/
def SameLetters (left right : List Char) : Prop :=
  lowerCase left = lowerCase right

instance (left right : List Char) : Decidable (SameLetters left right) :=
  inferInstanceAs (Decidable (lowerCase left = lowerCase right))

/-- Lower case changes the capital letters of ASCII and nothing else. -/
theorem toLower_eq_or (c : Char) :
    c.toLower = c ∨ 65 ≤ c.toNat ∧ c.toNat ≤ 90 ∧ c.toLower.toNat = c.toNat + 32 := by
  by_cases isCapital : c.val ≥ 'A'.val ∧ c.val ≤ 'Z'.val
  · have low : 65 ≤ c.toNat := UInt32.le_iff_toNat_le.mp isCapital.1
    have high : c.val.toNat ≤ 90 := UInt32.le_iff_toNat_le.mp isCapital.2
    have noCarry : c.val.toNat + 32 < UInt32.size := by
      simp only [UInt32.size]
      omega
    have shifted : c.toLower.val = c.val + 32 := congrArg Char.val (dif_pos isCapital)
    refine Or.inr ⟨low, high, ?_⟩
    rw [← Char.toNat_val, shifted, UInt32.toNat_add]
    exact Nat.mod_eq_of_lt noCarry
  · exact Or.inl (dif_neg isCapital)

theorem toLower_eq_at_iff {c : Char} : c.toLower = '@' ↔ c = '@' := by
  rcases toLower_eq_or c with same | ⟨low, high, shifted⟩
  · rw [same]
  · constructor
    · intro isAt
      rw [isAt] at shifted
      have code : '@'.toNat = 64 := rfl
      omega
    · intro isAt
      rw [isAt] at low
      exact absurd low (by decide)

/-- Letters are no white space in either case. -/
theorem isBlank_toLower (c : Char) : isBlank c.toLower = isBlank c := by
  rcases toLower_eq_or c with same | ⟨low, high, shifted⟩
  · rw [same]
  · have solid {code : Nat} (letter : 65 ≤ code ∧ code ≤ 122) (d : Char) (isCode : d.toNat = code) :
        isBlank d = false := by
      simp only [isBlank, Bool.or_eq_false_iff, Bool.and_eq_false_iff, decide_eq_false_iff_not,
        beq_eq_false_iff_ne]
      omega
    rw [solid (by omega) c.toLower shifted, solid (by omega) c rfl]

theorem dropWhile_isBlank_lowerCase (text : List Char) :
    (lowerCase text).dropWhile isBlank = lowerCase (text.dropWhile isBlank) := by
  rw [lowerCase, List.dropWhile_map]
  have same : isBlank ∘ Char.toLower = isBlank := funext isBlank_toLower
  rw [same, lowerCase]

/-- Trimming and lower case go together. -/
theorem trim_lowerCase (text : List Char) : trim (lowerCase text) = lowerCase (trim text) := by
  have backwards (chars : List Char) : (lowerCase chars).reverse = lowerCase chars.reverse :=
    List.map_reverse.symm
  rw [trim, trim, trimStart, trimStart, dropWhile_isBlank_lowerCase, trimEnd, trimEnd, backwards,
    dropWhile_isBlank_lowerCase, backwards]

theorem SameLetters.trim {left right : List Char} (same : SameLetters left right) :
    SameLetters (trim left) (trim right) := by
  rw [SameLetters, ← trim_lowerCase, ← trim_lowerCase, same]

theorem SameLetters.length_eq {left right : List Char} (same : SameLetters left right) :
    left.length = right.length := by
  have lengths := congrArg List.length same
  rwa [lowerCase, lowerCase, List.length_map, List.length_map] at lengths

/-- The at sign has no case. -/
theorem at_mem_lowerCase_iff {text : List Char} : '@' ∈ lowerCase text ↔ '@' ∈ text := by
  rw [lowerCase, List.mem_map]
  constructor
  · intro ⟨c, member, isAt⟩
    rwa [toLower_eq_at_iff.mp isAt] at member
  · intro member
    exact ⟨'@', member, rfl⟩

theorem SameLetters.at_mem_iff {left right : List Char} (same : SameLetters left right) :
    '@' ∈ left ↔ '@' ∈ right := by
  rw [← at_mem_lowerCase_iff, same, at_mem_lowerCase_iff]

end ChangeGate
