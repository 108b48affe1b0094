import ChangeGate.Url.Basic
import ChangeGate.Url.Host

/-!
# Reading addresses

The parts of an address are cut off from left to right: scheme, user, host, port, path, query,
fragment. A special scheme admits a backslash for a slash and any number of slashes before the
host. An address whose path does not start with a slash has no parts to append to and is not
read.
-/

namespace ChangeGate.Url

open ChangeGate.Text

/-- A character that is dropped at both ends of an address. -/
def isEdge (c : Char) : Bool :=
  c.toNat ≤ 0x20

/-- An address without what is dropped at both of its ends. -/
def trimEdges (text : List Char) : List Char :=
  ((text.dropWhile isEdge).reverse.dropWhile isEdge).reverse

/-- What counts of a text in which tabs and line ends are passed over. -/
def significant (text : List Char) : List Char :=
  text.filter (!isPassedOver ·)

/-- A character that divides segments. -/
def isSlash (special : Bool) (c : Char) : Bool :=
  c = '/' || (special && c = '\\')

/-- A character that a host, and what belongs to it, ends before. -/
def endsAuthority (special : Bool) (c : Char) : Bool :=
  isSlash special c || c = '?' || c = '#'

/-- Cut the scheme off, in lower case, with its colon. -/
def cutScheme? : List Char → Option (String × List Char)
  | [] => none
  | first :: rest =>
      let name := rest.takeWhile fun c => c.isAlphanum || ['+', '-', '.'].contains c
      match rest.drop name.length with
      | ':' :: after =>
          if first.isAlpha then some (String.ofList ((first :: name).map Char.toLower), after)
          else none
      | _ => none

/-- The name and the password before the first at sign that counts, as they are written. -/
def readUser (user : List Char) : String × Option String :=
  let name := user.takeWhile (· ≠ ':')
  let password := user.drop (name.length + 1)
  let written (text : List Char) : String := String.ofList (percentEncode encodedInUser text)
  (written name, if password.isEmpty then none else some (written password))

/-- Cut the user off: what stands before the last at sign ahead of the path. There must be a host
behind an at sign that nothing stands before. -/
def cutUser? (special : Bool) (text : List Char) :
    Option ((String × Option String) × List Char) :=
  let authority := text.takeWhile (!endsAuthority special ·)
  if authority.contains '@' then
    let host := (authority.reverse.takeWhile (· ≠ '@')).reverse
    let user := authority.take (authority.length - host.length - 1)
    let rest := text.drop (user.length + 1)
    if user.isEmpty && host.isEmpty && !rest.isEmpty then none else some (readUser user, rest)
  else
    some (("", none), text)

/-- Cut the host off, as it stands. A colon ends it, except between brackets. -/
def cutHost (special : Bool) : (bracketed : Bool) → List Char → List Char × List Char
  | _, [] => ([], [])
  | bracketed, c :: rest =>
      if endsAuthority special c || (c = ':' && !bracketed) then ([], c :: rest)
      else
        let bracketed := c = '[' || (bracketed && c ≠ ']')
        let (host, after) := cutHost special bracketed rest
        (c :: host, after)

/-- Cut the port off, with its colon. The port that the scheme stands for is left out. -/
def cutPort? (scheme : String) : List Char → Option (Option Nat × List Char)
  | ':' :: text =>
      let digits := text.takeWhile Char.isDigit
      let rest := text.drop digits.length
      let port := digits.foldl (fun value c => 10 * value + digitValue c) 0
      if 65535 < port then none
      else if rest.head?.all (endsAuthority true) then
        some (if digits.isEmpty || defaultPort? scheme = some port then none else some port, rest)
      else none
  | text => some (none, text)

/-- A segment of a path as it is written. -/
def pathSegment (segment : List Char) : String :=
  String.ofList (percentEncode encodedInPath segment)

/-- The segments that a path is made of, with the dot segments carried out. -/
def resolve (written : List String) : List (List Char) → List String
  | [] => written
  | [last] =>
      if isDoubleDot last then folderAbove written ++ [""]
      else if isSingleDot last then written ++ [""]
      else written ++ [pathSegment last]
  | segment :: rest =>
      if isDoubleDot segment then resolve (folderAbove written) rest
      else if isSingleDot segment then resolve written rest
      else resolve (written ++ [pathSegment segment]) rest

/-- Read a path, which may lack the slash it starts with. -/
def readPath (special : Bool) (text : List Char) : List String :=
  let inner := if text.head?.any (isSlash special) then text.drop 1 else text
  resolve [] (inner.splitOnP (isSlash special))

/-- What stands before the query and the fragment. -/
def pathPart (text : List Char) : List Char :=
  text.takeWhile fun c => c ≠ '?' && c ≠ '#'

/-- Read the query and the fragment, which stand behind the path. -/
def readTail (special : Bool) (text : List Char) : Option String × Option String :=
  let beforeFragment := text.takeWhile (· ≠ '#')
  let query := match beforeFragment.drop (pathPart text).length with
    | '?' :: query => some (String.ofList (percentEncode (encodedInQuery special) query))
    | _ => none
  let fragment := match text.drop beforeFragment.length with
    | '#' :: fragment => some (String.ofList (percentEncode encodedInFragment fragment))
    | _ => none
  (query, fragment)

/-- Read what stands behind the slashes after a scheme other than that of files. -/
def readAuthority? (scheme : String) (text : List Char) : Option Url := do
  let special := isSpecial scheme
  let ((username, password), text) ← cutUser? special text
  let (host, text) := cutHost special false text
  let host ← if special then specialHost? host else plainHost? host
  let named := !username.isEmpty || password.isSome
  if host.isEmpty && (named || text.head? = some ':') then none
  else
    let (port, text) ← cutPort? scheme text
    let path := pathPart text
    let (query, fragment) := readTail special text
    pure
      { scheme, username, password, host := some host, port, query, fragment
        path := if path.isEmpty && !special then [] else readPath special path }

/-- The letter of a drive and the rest of a segment, when only tabs and line ends stand between
the colon of the drive and something else. -/
def cutDrive? (segment : List Char) : Option (Char × List Char) :=
  match significant segment with
  | letter :: ':' :: first :: rest =>
      let behindColon := (segment.dropWhile (· ≠ ':')).drop 1
      if letter.isAlpha && behindColon.head?.any isPassedOver then some (letter, first :: rest)
      else none
  | _ => none

/-- The path of a file, and whether it starts with a drive, which is then told by a colon. Empty
segments in front do not count. -/
def filePath (path : List Char) : List String × Bool :=
  let segments := path.splitOnP (isSlash true)
  let first := segments.headD []
  let rest := (segments.drop 1).map significant
  let written (drive : List Char) : String := String.ofList (drive.take 1 ++ [':'])
  let (path, onDrive) :=
    match cutDrive? first with
    | some (letter, other) => (resolve [written [letter], pathSegment other] rest, false)
    | none =>
        let first := significant first
        if isDrive first then (resolve [written first] rest, true)
        else (resolve [] (first :: rest), false)
  match path.dropWhile (·.isEmpty) with
  | [] => ([""], onDrive)
  | path => (path, onDrive)

/-- The text behind a slash that it starts with. -/
def afterSlash? (text : List Char) : Option (List Char) :=
  match text.dropWhile isPassedOver with
  | c :: rest => if isSlash true c then some rest else none
  | [] => none

/-- Read the address of a file. A drive in its path, and the name of this machine, leave it
without a host; then the slash behind the host belongs to the path. -/
def readFile? (text : List Char) : Option Url := do
  let (query, fragment) := readTail true (significant text)
  let path := pathPart text
  let onThisMachine (path : List Char) : Url :=
    { scheme := "file", host := some "", path := (filePath path).1, query, fragment }
  match afterSlash? path with
  | none => pure (onThisMachine path)
  | some path =>
      match afterSlash? path with
      | none => pure (onThisMachine path)
      | some path =>
          let host := significant (path.takeWhile (!isSlash true ·))
          let behind := path.dropWhile (!isSlash true ·)
          if host.isEmpty || isDrive host then pure (onThisMachine path)
          else
            let host ← specialHost? host
            if host = "localhost" then pure (onThisMachine behind)
            else
              let (path, onDrive) := filePath (behind.drop 1)
              pure { onThisMachine [] with path, host := some (if onDrive then "" else host) }

/-- Read an address. -/
def parse? (text : String) : Option Url := do
  let text := trimEdges text.toList
  let (scheme, rest) ← cutScheme? (significant text)
  if scheme = "file" then readFile? ((text.dropWhile (· ≠ ':')).drop 1)
  else if isSpecial scheme then readAuthority? scheme (rest.dropWhile (isSlash true))
  else
    match rest with
    | '/' :: '/' :: rest => readAuthority? scheme rest
    | '/' :: _ =>
        let (query, fragment) := readTail false rest
        let path := readPath false (pathPart rest)
        let marked := 2 ≤ path.length && path.head? = some ""
        pure { scheme, path, marked, query, fragment }
    | _ => none

end ChangeGate.Url
