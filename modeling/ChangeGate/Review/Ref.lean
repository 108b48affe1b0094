import ChangeGate.Text.Numeral
import ChangeGate.Text.Quoted

/-!
# Change refs

A ref names one patchset of one change: `refs/changes/<shard>/<number>/<patchset>`, where
the shard is the change number modulo one hundred in two digits. Reading looks only at the
last two of the five segments, so a ref with any other first three segments names the same
patchset.
-/

namespace ChangeGate.Review

open ChangeGate.Text

/-- One patchset of one change. -/
structure ChangeRef where
  number : UInt64
  patchset : UInt64
  deriving DecidableEq, Repr, Inhabited

/-- Why a text is not a change ref. Every case keeps the whole text. -/
inductive RefError where
  /-- The text does not have five segments. -/
  | wrongShape (text : String) (segments : Nat)
  /-- The fourth segment is not a change number. -/
  | badNumber (text : String) (cause : NumeralError)
  /-- The fifth segment is not a patchset. -/
  | badPatchset (text : String) (cause : NumeralError)
  deriving DecidableEq, Repr, Inhabited

/-- The wording of a ref error. -/
def RefError.message : RefError → String
  | .wrongShape text segments =>
      "invalid ref: " ++ quoted text ++ ": expected 5 parts, got " ++ numeral segments
  | .badNumber text cause =>
      "invalid ref: " ++ quoted text ++ ": change number: " ++ cause.message
  | .badPatchset text cause =>
      "invalid ref: " ++ quoted text ++ ": patchset: " ++ cause.message

namespace ChangeRef

/-- The directory a change is filed under: its number modulo one hundred, in two digits. -/
def shard (ref : ChangeRef) : String :=
  let residue := ref.number.toNat % 100
  if residue < 10 then "0" ++ numeral residue else numeral residue

/-- The text of a ref. -/
def text (ref : ChangeRef) : String :=
  String.intercalate "/"
    ["refs", "changes", ref.shard, numeral ref.number.toNat, numeral ref.patchset.toNat]

/-- The short form of a ref for people: `<number>/<patchset>`. -/
def label (ref : ChangeRef) : String :=
  numeral ref.number.toNat ++ "/" ++ numeral ref.patchset.toNat

/-- Read a ref from its text. -/
def parse (text : String) : Except RefError ChangeRef :=
  match text.toList.splitOn '/' with
  | [_, _, _, number, patchset] =>
      match readUInt64 number with
      | .error cause => .error (.badNumber text cause)
      | .ok number =>
          match readUInt64 patchset with
          | .error cause => .error (.badPatchset text cause)
          | .ok patchset => .ok ⟨number, patchset⟩
  | segments => .error (.wrongShape text segments.length)

/-- The ref that a text names, if it names one. -/
def parse? (text : String) : Option ChangeRef :=
  (parse text).toOption

end ChangeRef

end ChangeGate.Review
