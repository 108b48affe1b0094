/-!
# Sets of ASCII characters

A set of ASCII characters is a word with a bit for each of them, so that sets are joined and
compared as words are.
-/

namespace ChangeGate.Text

/-- A set of ASCII characters: the bits at their codes are set. -/
structure AsciiSet where
  bits : BitVec 128
  deriving DecidableEq, Repr, Inhabited

namespace AsciiSet

/-- A character is in the set. -/
def contains (set : AsciiSet) (c : Char) : Bool :=
  set.bits.getLsbD c.toNat

/-- The set without characters. -/
def empty : AsciiSet := ⟨0⟩

/-- The characters that are in either set. -/
def union (set other : AsciiSet) : AsciiSet := ⟨set.bits ||| other.bits⟩

/-- The characters that are in both sets. -/
def inter (set other : AsciiSet) : AsciiSet := ⟨set.bits &&& other.bits⟩

/-- The ASCII characters that are not in the set. -/
def complement (set : AsciiSet) : AsciiSet := ⟨~~~set.bits⟩

/-- The characters of a set that are not in another one. -/
def without (set other : AsciiSet) : AsciiSet := set.inter other.complement

theorem contains_union (set other : AsciiSet) (c : Char) :
    (set.union other).contains c = (set.contains c || other.contains c) := by
  simp [contains, union]

theorem contains_inter (set other : AsciiSet) (c : Char) :
    (set.inter other).contains c = (set.contains c && other.contains c) := by
  simp [contains, inter]

/-- The characters with codes below a bound. -/
def below (bound : Nat) : AsciiSet := ⟨~~~(BitVec.allOnes 128 <<< bound)⟩

/-- The characters from a first one to a last one. -/
def range (first last : Char) : AsciiSet :=
  (below (last.toNat + 1)).without (below first.toNat)

/-- The set of a single character, which is empty if that is no ASCII character. -/
def single (c : Char) : AsciiSet := range c c

/-- The characters of some ranges. -/
def ofRanges (ranges : List (Char × Char)) : AsciiSet :=
  ranges.foldl (fun set (first, last) => set.union (range first last)) empty

/-- The characters of a text. -/
def ofText (text : String) : AsciiSet :=
  ofRanges (text.toList.map fun c => (c, c))

/-- The digits. -/
def digits : AsciiSet := range '0' '9'

/-- The upper-case letters. -/
def upperLetters : AsciiSet := range 'A' 'Z'

/-- The lower-case letters. -/
def lowerLetters : AsciiSet := range 'a' 'z'

/-- The letters. -/
def letters : AsciiSet := upperLetters.union lowerLetters

/-- The letters, the digits and the low line. -/
def wordCharacters : AsciiSet := (letters.union digits).union (single '_')

/-- White space. -/
def blanks : AsciiSet := (range '\t' '\r').union (single ' ')

/-- The control characters. -/
def controls : AsciiSet := (below 0x20).union (single '\x7F')

/-- A set and the same letters in the other case. -/
def bothCases (set : AsciiSet) : AsciiSet :=
  ⟨set.bits ||| (set.inter upperLetters).bits <<< 32 ||| (set.inter lowerLetters).bits >>> 32⟩

end AsciiSet

end ChangeGate.Text
