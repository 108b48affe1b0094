/-!
# White space

The characters with the Unicode property `White_Space`, and trimming a text of them.
A text is handled here as its list of characters, so that every rule is a statement
about lists.
-/

namespace ChangeGate.Text

/-- White space in the sense of Unicode: tab to carriage return, the space, next line,
the no-break space, and the separators of the general punctuation and later blocks. -/
def isBlank (c : Char) : Bool :=
  let code := c.toNat
  (0x9 ≤ code && code ≤ 0xD) || code == 0x20 || code == 0x85 || code == 0xA0
    || code == 0x1680 || (0x2000 ≤ code && code ≤ 0x200A) || code == 0x2028
    || code == 0x2029 || code == 0x202F || code == 0x205F || code == 0x3000

/-- A text without the white space it starts with. -/
def trimStart (text : List Char) : List Char :=
  text.dropWhile isBlank

/-- A text without the white space it ends with. -/
def trimEnd (text : List Char) : List Char :=
  (text.reverse.dropWhile isBlank).reverse

/-- A text without the white space around it. -/
def trim (text : List Char) : List Char :=
  trimEnd (trimStart text)

/-- A text that holds nothing but white space. -/
def isBlankText (text : String) : Bool :=
  text.toList.all isBlank

@[simp] theorem trimStart_nil : trimStart [] = [] := rfl

@[simp] theorem trimEnd_nil : trimEnd [] = [] := rfl

@[simp] theorem trim_nil : trim [] = [] := rfl

@[simp] theorem trimStart_cons (c : Char) (rest : List Char) :
    trimStart (c :: rest) = if isBlank c then trimStart rest else c :: rest := by
  by_cases blank : isBlank c <;> simp [trimStart, blank]

/-- Trimming the start drops a run of white space and nothing else. -/
theorem takeWhile_append_trimStart (text : List Char) :
    text.takeWhile isBlank ++ trimStart text = text :=
  List.takeWhile_append_dropWhile

end ChangeGate.Text
