import ChangeGate.Ci.Stale
import ChangeGate.Memory.Ci
import ChangeGate.Proofs.Review.Ref
import ChangeGate.Proofs.Text.Pieces

/-!
# What a build names

The refs under test travel as one text, joined by colons. No ref holds a colon, so the joined text
names the refs again, in their order.
-/

namespace ChangeGate.Ci

open ChangeGate.Memory ChangeGate.Review ChangeGate.Text

/-- The patchsets that a joined text names, in order. Pieces that are no ref name none. -/
def namedRefs (refs : String) : List ChangeRef :=
  (refs.toList.splitOn ':').filterMap fun piece => ChangeRef.parse? (String.ofList piece)

theorem colon_notMem_text (ref : ChangeRef) : ':' ∉ ref.text.toList := by
  have noDigit (c : Char) (digit : c.isDigit = true) : c ≠ ':' := by
    intro isColon
    rw [isColon] at digit
    exact absurd digit (by decide)
  have notFixed : ':' ∉ "refs/changes".toList := by decide
  have noColon : ∀ c ∈ ref.text.toList, c ≠ ':' := by
    apply ref.forall_mem_text noDigit
    intro c member isColon
    exact notFixed (isColon ▸ member)
  exact fun member => noColon ':' member rfl

/-- A joined text names the refs that were joined. -/
theorem namedRefs_intercalate (refs : List ChangeRef) :
    namedRefs (String.intercalate ":" (refs.map (·.text))) = refs := by
  cases refs with
  | nil => decide
  | cons first rest =>
      have pieces : (String.intercalate ":" ((first :: rest).map (·.text))).toList.splitOn ':' =
          (first :: rest).map (·.text.toList) := by
        rw [List.map_cons, splitOn_toList_intercalate rfl (List.cons_ne_nil _ _)]
        · rw [← List.map_cons, List.map_map]
          rfl
        · rw [← List.map_cons]
          intro text member
          obtain ⟨ref, -, rfl⟩ := List.mem_map.mp member
          exact colon_notMem_text ref
      have parsed (ref : ChangeRef) :
          ChangeRef.parse? (String.ofList ref.text.toList) = some ref := by
        rw [String.ofList_toList, ChangeRef.parse?, ref.parse_text]
        rfl
      rw [namedRefs, pieces, List.filterMap_map]
      simp only [Function.comp_def, parsed, List.filterMap_some]

/-- A build is asked for with the refs it was given. -/
theorem refs_buildParams (job : String) (refs projects tests : List String) :
    AddedBuild.refs ⟨job, buildParams refs projects tests⟩ = String.intercalate ":" refs := by
  rfl

end ChangeGate.Ci
