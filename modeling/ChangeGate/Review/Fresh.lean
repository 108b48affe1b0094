import ChangeGate.Review.Grouping

/-!
# What is new

A round handles only what changed since the last one: groups and rejected sets with a member
that was not seen before or has moved past the patchset seen. Without a record of an earlier
round there is nothing to compare with, and nothing counts as new.
-/

namespace ChangeGate.Review

/-- A change that is not in the record, or stands past the patchset recorded for it. -/
def Change.isNew (seen : Patchsets) (change : Change) : Bool :=
  match seen[change.number]? with
  | none => true
  | some patchset => patchset < change.patchset

/-- Some member is new. -/
def hasNewMember (seen : Patchsets) (members : List Change) : Bool :=
  members.any (·.isNew seen)

/-- The groups with a new member; none without a record. -/
def freshGroups (seen : Patchsets) (groups : List Group) : List Group :=
  if seen.isEmpty then [] else groups.filter fun group => hasNewMember seen group.members

/-- The groups and rejected sets with a new member; none without a record. -/
def Grouping.fresh (seen : Patchsets) (grouping : Grouping) : Grouping :=
  if seen.isEmpty then ⟨[], []⟩
  else
    { groups := freshGroups seen grouping.groups
      rejected := grouping.rejected.filter fun rejected => hasNewMember seen rejected.members }

end ChangeGate.Review
