import ChangeGate.Proofs.Text.Replacing
import ChangeGate.Settings.HomePath

/-!
# The home directory in a path

A path that starts with `~/` has the home directory in front of it. In any other path the home
directory takes the place of its variable, in both spellings, wherever the path has it. An absolute
home directory without `$` brings in no variable, neither in itself nor together with what stands
around it, so none is left.
-/

namespace ChangeGate

open ChangeGate.Text

/-- The two spellings of the home variable. -/
def homeWords : List (List Char) :=
  ["$\x7bHOME\x7d".toList, "$HOME".toList]

theorem expandHome_of_leading (home rest : String) :
    expandHome (some home) ("~/" ++ rest) = home ++ "/" ++ rest := by
  have found : textAfter? ['~', '/'] ("~/" ++ rest).toList = some rest.toList :=
    textAfter?_eq_some_iff.mpr String.toList_append
  simp only [expandHome, found, String.ofList_toList]

theorem toList_expandHome {path : String} (notLeading : ¬ "~/".toList <+: path.toList)
    (home : String) :
    (expandHome (some home) path).toList = replaceHome home.toList path.toList := by
  have missing : textAfter? ['~', '/'] path.toList = none := by
    rw [Option.eq_none_iff_forall_ne_some]
    intro rest found
    exact notLeading ⟨rest, (textAfter?_eq_some_iff.mp found).symm⟩
  simp only [expandHome, missing, String.toList_ofList]

/-- Both spellings are replaced as if at once. -/
theorem replaces_replaceHome {home : List Char} (absolute : home.head? = some '/')
    (plain : '$' ∉ home) (path : List Char) :
    Replaces homeWords home path (replaceHome home path) :=
  replaces_replaceAll_replaceAll absolute plain (by decide) (by decide) path

/-- What a path becomes under a home directory. -/
structure ExpandsTo (home path : String) : Prop where
  /-- After a leading `~/` the path is left as it is. -/
  leading : ∀ rest, path = "~/" ++ rest → expandHome (some home) path = home ++ "/" ++ rest
  /-- In any other path the variable is replaced where it stands, and nothing else is changed. -/
  named : ¬ "~/".toList <+: path.toList → ∀ result,
    Replaces homeWords home.toList path.toList result ↔
      (expandHome (some home) path).toList = result
  /-- No variable is left in it. -/
  clean : ¬ "~/".toList <+: path.toList →
    ∀ word ∈ homeWords, ¬ word <:+: (expandHome (some home) path).toList

/-- Putting the home directory in is one replacement, and none without a home directory. -/
theorem homePathLaws :
    (∀ path, expandHome none path = path) ∧
      ∀ home path : String, home.toList.head? = some '/' → '$' ∉ home.toList →
        ExpandsTo home path := by
  refine ⟨fun _ => rfl, ?_⟩
  intro home path absolute plain
  have replaced := replaces_replaceHome absolute plain path.toList
  constructor
  case leading =>
    rintro rest rfl
    exact expandHome_of_leading home rest
  case named =>
    intro notLeading result
    rw [toList_expandHome notLeading]
    constructor
    · exact replaced.unique (by decide) (by decide)
    · rintro rfl
      exact replaced
  case clean =>
    intro notLeading word listed
    have marked : ∀ word ∈ homeWords, word.head? = some '$' ∧ '/' ∉ word := by decide
    rw [toList_expandHome notLeading]
    exact replaced.not_isInfix absolute plain listed (marked word listed).1 (marked word listed).2

/-- Both spellings side by side, behind beginnings of the variable that are none. -/
theorem homePathLaws_of_seams :
    let home := "/h"
    let path := "$$\x7bHOME\x7d/$HOM$HOME"
    home.toList.head? = some '/' ∧ '$' ∉ home.toList ∧
      expandHome (some home) path = "$/h/$HOM/h" ∧
      ∀ word ∈ homeWords, ¬ word <:+: "$/h/$HOM/h".toList := by
  intro home path
  have absolute : home.toList.head? = some '/' := by decide
  have plain : '$' ∉ home.toList := by decide
  have expanded : expandHome (some home) path = "$/h/$HOM/h" := by decide +kernel
  have clean := (homePathLaws.2 home path absolute plain).clean (by decide)
  rw [expanded] at clean
  exact ⟨absolute, plain, expanded, clean⟩

end ChangeGate
