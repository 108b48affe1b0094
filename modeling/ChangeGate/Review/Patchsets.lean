import Std.Data.ExtTreeMap
import ChangeGate.Review.Ref

/-!
# Patchsets by change

A map from change number to the patchset known for it. Two such maps are equal exactly
when they answer every lookup alike, and they list their entries by rising number.
-/

namespace ChangeGate.Review

/-- The patchset known for each change number. -/
abbrev Patchsets := Std.ExtTreeMap UInt64 UInt64

namespace Patchsets

/-- Record a patchset, replacing the one known before. -/
def put (known : Patchsets) (ref : ChangeRef) : Patchsets :=
  known.insert ref.number ref.patchset

/-- The later of a patchset that may be known already and another one. -/
def later (patchset : UInt64) : Option UInt64 → UInt64
  | none => patchset
  | some known => if known < patchset then patchset else known

/-- Record a patchset unless a later one is known. -/
def raise (known : Patchsets) (ref : ChangeRef) : Patchsets :=
  known.insert ref.number (later ref.patchset known[ref.number]?)

/-- The map of a list of refs in which the last one of each number counts. -/
def ofRefs (refs : List ChangeRef) : Patchsets :=
  refs.foldl put ∅

/-- The map of a list of refs in which the highest patchset of each number counts. -/
def highest (refs : List ChangeRef) : Patchsets :=
  refs.foldl raise ∅

/-- The entries as refs, by rising change number. -/
def refs (known : Patchsets) : List ChangeRef :=
  known.toList.map fun entry => ⟨entry.1, entry.2⟩

@[simp] theorem getElem?_put (known : Patchsets) (ref : ChangeRef) (number : UInt64) :
    (known.put ref)[number]? =
      if ref.number = number then some ref.patchset else known[number]? := by
  simp [put, Std.ExtTreeMap.getElem?_insert]

@[simp] theorem getElem?_raise (known : Patchsets) (ref : ChangeRef) (number : UInt64) :
    (known.raise ref)[number]? =
      if ref.number = number then some (later ref.patchset known[number]?) else known[number]? := by
  by_cases same : ref.number = number
  · subst same
    simp [raise]
  · simp [raise, Std.ExtTreeMap.getElem?_insert, same]

end Patchsets

end ChangeGate.Review
