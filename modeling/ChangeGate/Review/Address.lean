import ChangeGate.Review.Ref
import ChangeGate.Url.Basic

/-!
# Addresses of the review server

Where a query is asked, a review is posted and a patchset is submitted, below the address of the
server.
-/

namespace ChangeGate.Review

open ChangeGate.Text

/-- What the server is asked to tell of each change. -/
def queryOptions : List String :=
  ["CURRENT_REVISION", "CURRENT_COMMIT", "DETAILED_ACCOUNTS", "SUBMITTABLE"]

/-- Where a query is asked. -/
def queryUrl (server : Url) (query : String) : Url :=
  (server.append ["a", "changes", ""]).addPairs (("q", query) :: queryOptions.map ("o", ·))

/-- Where something is done with the patchset of a ref. -/
def revisionUrl (server : Url) (ref : ChangeRef) (action : String) : Url :=
  server.append
    ["a", "changes", numeral ref.number.toNat, "revisions", numeral ref.patchset.toNat, action]

/-- Where a review of a patchset is posted. -/
def reviewUrl (server : Url) (ref : ChangeRef) : Url :=
  revisionUrl server ref "review"

/-- Where a patchset is submitted. -/
def submitUrl (server : Url) (ref : ChangeRef) : Url :=
  revisionUrl server ref "submit"

end ChangeGate.Review
