import ChangeGate.Http.Client
import ChangeGate.Proofs.Text.Numeral
import ChangeGate.Proofs.Url.Percent

/-!
# Where the query of an address starts

The part of a web address before its query holds no question mark, whatever it was read from and
whatever was appended to its path. So the first question mark of an address is the one that its
query stands behind.
-/

namespace ChangeGate.Url

open ChangeGate.Text

/-! ## Hosts -/

theorem not_mem_intercalate {c : Char} {separator : List Char} {pieces : List (List Char)}
    (between : c ∉ separator) (each : ∀ piece ∈ pieces, c ∉ piece) :
    c ∉ separator.intercalate pieces := by
  induction pieces with
  | nil => simp
  | cons piece others inductionHypothesis =>
      obtain ⟨first, rest⟩ := List.forall_mem_cons.mp each
      cases others with
      | nil => simpa using first
      | cons second others =>
          rw [List.intercalate_cons_cons, List.append_assoc, List.mem_append, List.mem_append]
          rintro (held | held | held)
          · exact first held
          · exact between held
          · exact inductionHypothesis rest held

/-- Hexadecimal digits are no question marks. -/
theorem not_mem_hexDigits (value : Nat) : '?' ∉ hexDigits value := by
  have digits : ∀ digit : Fin 16, '?' ≠ Nat.digitChar digit := by decide
  induction value using Nat.strongRecOn with
  | ind value inductionHypothesis =>
      rw [hexDigits, Nat.toDigits_eq_if (by decide)]
      split
      · next small =>
          rw [List.mem_singleton]
          exact digits ⟨value, small⟩
      · next large =>
          rw [List.mem_append, List.mem_singleton]
          rintro (held | held)
          · exact inductionHypothesis (value / 16) (by omega) held
          · exact digits ⟨value % 16, Nat.mod_lt _ (by decide)⟩ held

theorem not_mem_piecesText (pieces : List Nat) : '?' ∉ piecesText pieces := by
  apply not_mem_intercalate (by decide)
  intro piece member
  obtain ⟨value, -, rfl⟩ := List.mem_map.mp member
  exact not_mem_hexDigits value

theorem not_mem_ipv6Text (pieces : List Nat) : '?' ∉ ipv6Text pieces := by
  rw [ipv6Text]
  split
  · exact not_mem_piecesText pieces
  · simp [not_mem_piecesText]

theorem not_mem_ipv4Text (address : Nat) : '?' ∉ (ipv4Text address).toList := by
  rw [ipv4Text, String.toList_intercalate]
  apply not_mem_intercalate (by decide)
  intro part member
  obtain ⟨_, written, rfl⟩ := List.mem_map.mp member
  obtain ⟨place, -, rfl⟩ := List.mem_map.mp written
  exact notMem_numeral (by decide) _

theorem not_mem_domain {host domain : List Char} (read : domain? host = some domain) :
    '?' ∉ domain := by
  simp only [domain?, Option.bind_eq_bind, Option.bind_eq_some_iff] at read
  obtain ⟨labels, -, checked⟩ := read
  split at checked
  · cases checked
  · next allowed =>
      obtain rfl := Option.some.inj checked
      intro held
      apply allowed
      rw [Bool.or_eq_true, List.any_eq_true]
      exact .inr ⟨'?', held, by decide⟩

theorem not_mem_bracketedHost {host : List Char} {written : String}
    (read : bracketedHost? host = some written) : '?' ∉ written.toList := by
  simp only [bracketedHost?] at read
  split at read
  · simp only [Option.bind_eq_bind, Option.bind_eq_some_iff] at read
    obtain ⟨pieces, -, checked⟩ := read
    obtain rfl := Option.some.inj checked
    simp [not_mem_ipv6Text]
  · cases read

/-- The host of a web address holds no question mark. -/
theorem not_mem_specialHost {host : List Char} {written : String}
    (read : specialHost? host = some written) : '?' ∉ written.toList := by
  rw [specialHost?] at read
  split at read
  · exact not_mem_bracketedHost read
  · simp only [Option.bind_eq_bind, Option.bind_eq_some_iff] at read
    obtain ⟨text, -, domain, isDomain, shown⟩ := read
    split at shown
    · obtain ⟨address, -, rfl⟩ := Option.map_eq_some_iff.mp shown
      exact not_mem_ipv4Text address
    · obtain rfl := Option.some.inj shown
      rw [String.toList_ofList]
      exact not_mem_domain isDomain

/-! ## Paths -/

/-- A path that is written without question marks. -/
def IsClosed (path : List String) : Prop :=
  ∀ segment ∈ path, '?' ∉ segment.toList

namespace IsClosed

variable {path : List String}

theorem nil : IsClosed [] := by simp [IsClosed]

theorem append {others : List String} (closed : IsClosed path) (othersClosed : IsClosed others) :
    IsClosed (path ++ others) := by
  intro segment member
  rcases List.mem_append.mp member with first | second
  · exact closed segment first
  · exact othersClosed segment second

theorem concat {segment : String} (closed : IsClosed path) (written : '?' ∉ segment.toList) :
    IsClosed (path ++ [segment]) :=
  closed.append fun _ member => List.mem_singleton.mp member ▸ written

theorem dropLast (closed : IsClosed path) : IsClosed path.dropLast :=
  fun segment member => closed segment (List.dropLast_subset path member)

theorem folderAbove (closed : IsClosed path) : IsClosed (folderAbove path) := by
  rw [Url.folderAbove]
  split
  · exact closed
  · exact closed.dropLast

end IsClosed

theorem not_mem_pathSegment (segment : List Char) : '?' ∉ (pathSegment segment).toList := by
  rw [pathSegment, String.toList_ofList]
  exact not_mem_percentEncode (by decide) (by decide) segment

theorem not_mem_segmentText (special : Bool) (segment : String) :
    '?' ∉ (segmentText special segment).toList := by
  rw [segmentText, String.toList_ofList]
  exact not_mem_percentEncode (by cases special <;> decide) (by decide) _

/-- A path that is read is closed. -/
theorem isClosed_resolve {written : List String} (closed : IsClosed written)
    (segments : List (List Char)) : IsClosed (resolve written segments) := by
  fun_induction resolve written segments with
  | case1 => exact closed
  | case2 => exact closed.folderAbove.concat (by decide)
  | case3 => exact closed.concat (by decide)
  | case4 => exact closed.concat (not_mem_pathSegment _)
  | case5 written segment rest _ _ inductionHypothesis =>
      exact inductionHypothesis closed.folderAbove
  | case6 written segment rest _ _ _ inductionHypothesis => exact inductionHypothesis closed
  | case7 written segment rest _ _ _ inductionHypothesis =>
      exact inductionHypothesis (closed.concat (not_mem_pathSegment _))

/-- A segment that is appended leaves a path closed. -/
theorem IsClosed.pushSegment {path : List String} (closed : IsClosed path) (special : Bool)
    (segment : String) : IsClosed (pushSegment special path segment) := by
  have start : IsClosed (if path = [""] then [] else path) := by
    split
    · exact .nil
    · exact closed
  rw [Url.pushSegment]
  split
  · exact closed
  · simp only
    split
    · exact start.concat (by decide)
    · split
      · exact start.folderAbove.concat (by decide)
      · exact start.concat (not_mem_segmentText special segment)

/-- Segments that are appended leave a path closed. -/
theorem isClosed_append {url : Url} (closed : IsClosed url.path) (segments : List String) :
    IsClosed (url.append segments).path := by
  have start : IsClosed (withoutFinalSlash url.path) := by
    rw [withoutFinalSlash]
    split
    · exact closed.dropLast
    · exact closed
  rw [Url.append]
  generalize withoutFinalSlash url.path = path at start
  induction segments generalizing path with
  | nil => exact start
  | cons segment others inductionHypothesis =>
      exact inductionHypothesis _ (start.pushSegment (isSpecial url.scheme) segment)

theorem not_mem_pathText {url : Url} (closed : IsClosed url.path) : '?' ∉ url.pathText.toList := by
  intro held
  rw [pathText, String.toList_join] at held
  obtain ⟨segment, member, held⟩ := List.mem_flatMap.mp held
  obtain ⟨inner, isSegment, rfl⟩ := List.mem_map.mp member
  rw [String.toList_append, List.mem_append] at held
  rcases held with slash | held
  · exact absurd slash (by decide)
  · exact closed inner isSegment held

/-! ## Addresses -/

/-- The scheme of a server that can be reached. -/
def IsWebScheme (scheme : String) : Prop :=
  scheme = "http" ∨ scheme = "https"
  deriving Decidable

theorem IsWebScheme.isSpecial {scheme : String} (web : IsWebScheme scheme) :
    isSpecial scheme = true := by
  rcases web with rfl | rfl
  · decide
  · decide

/-- The host and the path of an address hold no question mark. -/
structure IsClosedUrl (url : Url) : Prop where
  host : ∀ host ∈ url.host, '?' ∉ host.toList
  path : IsClosed url.path

theorem IsClosedUrl.append {url : Url} (closed : IsClosedUrl url) (segments : List String) :
    IsClosedUrl (url.append segments) :=
  ⟨closed.host, isClosed_append closed.path segments⟩

theorem scheme_readFile {text : List Char} {url : Url} (read : readFile? text = some url) :
    url.scheme = "file" := by
  simp only [readFile?] at read
  split at read
  · exact Option.some.inj read ▸ rfl
  · split at read
    · exact Option.some.inj read ▸ rfl
    · split at read
      · exact Option.some.inj read ▸ rfl
      · simp only [Option.bind_eq_bind, Option.bind_eq_some_iff] at read
        obtain ⟨host, -, read⟩ := read
        split at read
        · exact Option.some.inj read ▸ rfl
        · exact Option.some.inj read ▸ rfl

/-- Where the scheme, the host and the path of an address come from. -/
theorem exists_of_readAuthority {scheme : String} {text : List Char} {url : Url}
    (read : readAuthority? scheme text = some url) :
    ∃ given host unread,
      (if isSpecial scheme then specialHost? given else plainHost? given) = some host ∧
      url.scheme = scheme ∧ url.host = some host ∧
      url.path =
        if unread.isEmpty && !isSpecial scheme then [] else readPath (isSpecial scheme) unread := by
  cases special : isSpecial scheme with
  | _ =>
      simp only [readAuthority?, special, Option.bind_eq_bind, Option.bind_eq_some_iff, if_true,
        Bool.false_eq_true, if_false] at read
      obtain ⟨⟨⟨username, password⟩, unread⟩, -, host, isHost, read⟩ := read
      split at read
      · cases read
      · obtain ⟨⟨port, unread⟩, -, read⟩ := Option.bind_eq_some_iff.mp read
        obtain rfl := Option.some.inj read
        exact ⟨_, host, pathPart unread, isHost, rfl, rfl, rfl⟩

theorem isClosedUrl_of_readAuthority {scheme : String} {text : List Char} {url : Url}
    (special : isSpecial scheme = true) (read : readAuthority? scheme text = some url) :
    IsClosedUrl url := by
  obtain ⟨given, host, unread, isHost, -, urlHost, urlPath⟩ := exists_of_readAuthority read
  rw [if_pos special] at isHost
  refine ⟨?_, ?_⟩
  · intro other member
    obtain rfl := Option.some.inj (urlHost.symm.trans member)
    exact not_mem_specialHost isHost
  · rw [urlPath, special, Bool.not_true, Bool.and_false, if_neg Bool.false_ne_true]
    exact isClosed_resolve .nil _

/-- A web address that is read is closed. -/
theorem isClosedUrl_of_parse {text : String} {url : Url} (read : parse? text = some url)
    (web : IsWebScheme url.scheme) : IsClosedUrl url := by
  simp only [parse?, Option.bind_eq_bind, Option.bind_eq_some_iff] at read
  obtain ⟨⟨scheme, unread⟩, -, read⟩ := read
  by_cases file : scheme = "file"
  · rw [if_pos file] at read
    rw [scheme_readFile read] at web
    exact absurd web (by decide)
  · rw [if_neg file] at read
    by_cases special : isSpecial scheme = true
    · rw [if_pos special] at read
      exact isClosedUrl_of_readAuthority special read
    · rw [if_neg special] at read
      have sameScheme : url.scheme = scheme := by
        split at read
        · obtain ⟨_, _, _, -, same, -⟩ := exists_of_readAuthority read
          exact same
        · exact Option.some.inj read ▸ rfl
        · cases read
      exact absurd (sameScheme ▸ web).isSpecial special

/-- The part of a closed address before its query holds no question mark. -/
theorem not_mem_resourceText {url : Url} (web : IsWebScheme url.scheme)
    (closed : IsClosedUrl url) (noUser : url.userText = "") : '?' ∉ url.resourceText.toList := by
  have scheme : '?' ∉ url.scheme.toList := by
    rcases web with web | web
    · rw [web]; decide
    · rw [web]; decide
  have port : '?' ∉ url.portText.toList := by
    rw [portText]
    split
    · next port _ => simpa using notMem_numeral (by decide) port
    · decide
  have authority : '?' ∉ url.authorityText.toList := by
    rw [authorityText]
    split
    · next host isHost =>
        simp [noUser, closed.host host isHost, port]
    · split <;> decide
  simp [resourceText, scheme, authority, not_mem_pathText closed.path]

end ChangeGate.Url
