import ChangeGate.Review.Patchsets

/-!
# Stale builds

A build is stale for a group about to be tested when the group makes it pointless. If both
name the same changes, every one of them must be at the build's patchset or past it. If they
name different changes, a part joined or left a set, and one shared change at the build's
patchset or past it is enough.
-/

namespace ChangeGate.Ci

open ChangeGate.Review

/-- Read the patchsets a build was started with from its joined refs. The first piece that is
no ref decides the error, and the last ref of a change counts. -/
def builtPatchsets (refs : String) : Except RefError Patchsets := do
  let pieces ← (refs.toList.splitOn ':').mapM fun piece => ChangeRef.parse (String.ofList piece)
  pure (Patchsets.ofRefs pieces)

/-- The patchset `current` of a change is the one built or a later one. -/
def covers (current built : UInt64) : Bool :=
  built ≤ current

/-- Whether a build of the patchsets `built` is stale for a group with the patchsets
`current`. -/
def superseded (built current : Patchsets) : Bool :=
  if built.keys = current.keys then
    current.toList.all fun (number, patchset) => (built[number]?).all (covers patchset)
  else
    built.toList.any fun (number, patchset) => (current[number]?).any (covers · patchset)

/-- Whether the build with these joined refs is stale for a group with these patchsets. -/
def isStale (refs : String) (current : Patchsets) : Except RefError Bool := do
  let built ← builtPatchsets refs
  pure (superseded built current)

end ChangeGate.Ci
