import ChangeGate.Url.Label

/-!
# Domains

A domain is compared and sent in one form: letters in lower case, labels between dots, and a
label with characters outside ASCII written as ASCII text after a mark.
-/

namespace ChangeGate.Url

open ChangeGate.Text

/-- A character that a domain may not hold. -/
def forbiddenInDomain (c : Char) : Bool :=
  c.toNat ≤ 0x20 || c.toNat = 0x7F
    || ['%', '#', '/', ':', '<', '>', '?', '@', '[', '\\', ']', '^', '|'].contains c

/-- The labels of a domain, if it is one. -/
def labels? (host : List Char) : Option (List (List Char)) := do
  let chars ← host.mapM domainChars?
  let labels ← ((composedForm chars.flatten).splitOn '.').mapM label?
  if labels.any (·.any runsLeft) && !labels.all keepsDirection then none else pure labels

/-- A domain in its one form, if it is one. -/
def domain? (host : List Char) : Option (List Char) := do
  let labels ← labels? host
  let domain := ['.'].intercalate (labels.map asciiLabel)
  if domain.isEmpty || domain.any forbiddenInDomain then none else pure domain

end ChangeGate.Url
