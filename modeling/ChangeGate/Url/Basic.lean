import ChangeGate.Text.Numeral
import ChangeGate.Url.Form

/-!
# Addresses

An address by its parts, each as it is written, and what a client does with one: append segments
to its path, and pairs to its query.
-/

namespace ChangeGate.Url

open ChangeGate.Text

/-- The port that a special scheme stands for. -/
def defaultPort? (scheme : String) : Option Nat :=
  match scheme with
  | "http" => some 80
  | "ws" => some 80
  | "https" => some 443
  | "wss" => some 443
  | "ftp" => some 21
  | _ => none

/-- A scheme whose addresses always have a path. -/
def isSpecial (scheme : String) : Bool :=
  (defaultPort? scheme).isSome || scheme = "file"

/-- Tabs and line ends, which are passed over wherever they stand. -/
def isPassedOver (c : Char) : Bool :=
  c = '\t' || c = '\n' || c = '\r'

/-- A segment that stands for the folder it is in, however its dot is written. -/
def isSingleDot (segment : List Char) : Bool :=
  [".", "%2e"].contains (String.ofList (segment.map Char.toLower))

/-- A segment that stands for the folder above, however its dots are written. -/
def isDoubleDot (segment : List Char) : Bool :=
  ["..", ".%2e", "%2e.", "%2e%2e"].contains (String.ofList (segment.map Char.toLower))

/-- Two characters that name a drive. -/
def isDrive (segment : List Char) : Bool :=
  match segment with
  | [letter, mark] => letter.isAlpha && (mark = ':' || mark = '|')
  | _ => false

/-- The folder above the one of some segments. There is no way up from a drive. -/
def folderAbove (segments : List String) : List String :=
  if segments.getLast?.any (isDrive ·.toList) then segments else segments.dropLast

end ChangeGate.Url

namespace ChangeGate

open ChangeGate.Text ChangeGate.Url

/-- An address whose path can be appended to. -/
structure Url where
  scheme : String
  username : String := ""
  password : Option String := none
  /-- The host; absent when there is only a path. -/
  host : Option String := none
  /-- The port, when it is not the one of the scheme. -/
  port : Option Nat := none
  /-- The segments of the path. A path of a single empty segment is a slash alone. -/
  path : List String := []
  /-- The path is marked so that it cannot be taken for a host. -/
  marked : Bool := false
  query : Option String := none
  fragment : Option String := none
  deriving DecidableEq, Repr, Inhabited

namespace Url

/-- The path as it is written. -/
def pathText (url : Url) : String :=
  String.join (url.path.map ("/" ++ ·))

/-- The user as it is written before the host. -/
def userText (url : Url) : String :=
  match url.password with
  | some password => url.username ++ ":" ++ password ++ "@"
  | none => if url.username.isEmpty then "" else url.username ++ "@"

/-- The port as it is written after the host. -/
def portText (url : Url) : String :=
  match url.port with
  | some port => ":" ++ numeral port
  | none => ""

/-- What is written between the scheme and the path. -/
def authorityText (url : Url) : String :=
  match url.host with
  | some host => "//" ++ url.userText ++ host ++ url.portText
  | none => if url.marked then "/." else ""

/-- The address up to its path. -/
def resourceText (url : Url) : String :=
  url.scheme ++ ":" ++ url.authorityText ++ url.pathText

/-- The query as it is written, with its question mark. -/
def queryText (url : Url) : String :=
  match url.query with
  | some query => "?" ++ query
  | none => ""

/-- The fragment as it is written, with its number sign. -/
def fragmentText (url : Url) : String :=
  match url.fragment with
  | some fragment => "#" ++ fragment
  | none => ""

/-- The address as it is written. -/
def text (url : Url) : String :=
  url.resourceText ++ url.queryText ++ url.fragmentText

/-- The address as a request names it. -/
def requestText (url : Url) : String :=
  url.resourceText ++ url.queryText

/-- A path without the empty segment that a slash at its end leaves. -/
def withoutFinalSlash (path : List String) : List String :=
  if 2 ≤ path.length ∧ path.getLast? = some "" then path.dropLast else path

/-- A segment as it is written when it is appended. -/
def segmentText (special : Bool) (segment : String) : String :=
  let kept := segment.toList.filter (!isPassedOver ·)
  String.ofList (percentEncode (encodedInSegment special) kept)

/-- Append a segment to a path. A dot segment is passed over, and a path that is a slash alone
takes the segment in. -/
def pushSegment (special : Bool) (path : List String) (segment : String) : List String :=
  if segment = "." || segment = ".." then path
  else
    let text := segmentText special segment
    let path := if path = [""] then [] else path
    if text = "." then path ++ [""]
    else if text = ".." then folderAbove path ++ [""]
    else path ++ [text]

/-- The address with segments appended to its path. -/
def append (url : Url) (segments : List String) : Url :=
  { url with
    path := segments.foldl (pushSegment (isSpecial url.scheme)) (withoutFinalSlash url.path) }

/-- The address with pairs appended to its query, which it has from then on. -/
def addPairs (url : Url) (pairs : List (String × String)) : Url :=
  let given := url.query.getD ""
  let divider := if given.isEmpty || pairs.isEmpty then "" else "&"
  { url with query := some (given ++ divider ++ String.ofList (encodeForm pairs)) }

end Url

end ChangeGate
