import ChangeGate.Review.Grouping

/-!
# What may land

A group lands as a whole: every member was asked to land, is cleared to land and has a ref.
Parts of a rejected set are in no group, so they never land.
-/

namespace ChangeGate.Review

/-- A group that may land now. -/
def Group.readyToLand (group : Group) : Bool :=
  !group.members.isEmpty && group.members.all (·.readyToLand)

/-- The groups among some changes that may land now, in order. -/
def landable (changes : List Change) : List Group :=
  (Grouping.ofChanges changes).groups.filter (·.readyToLand)

end ChangeGate.Review
