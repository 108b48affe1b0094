import ChangeGate.Http.Message
import ChangeGate.Text.Hex
import ChangeGate.Text.Lossy
import ChangeGate.Text.Numeral

/-!
# Messages on the wire

A request as the bytes that are sent, and a response from the bytes that arrive until the server
closes the connection. The body of a response is taken in chunks, by its length, or as a whole,
as the headers say.
-/

namespace ChangeGate.Http

open ChangeGate.Text

/-- The host and the port as a request names them. -/
def hostText (url : Url) : String :=
  url.host.getD "" ++ url.portText

/-- The line that a request starts with. -/
def requestLine (request : Request) : String :=
  request.method.name ++ " " ++ request.url.pathText ++ request.url.queryText ++ " HTTP/1.1"

/-- The headers that frame a request. A request that carries nothing says so if it is not a mere
question. -/
def framingHeaders (request : Request) : List (String × String) :=
  let length :=
    if request.method = .get then []
    else [("content-length", numeral request.body.utf8ByteSize)]
  [("host", hostText request.url), ("accept", "*/*"), ("connection", "close")] ++ length

/-- The bytes of a request. -/
def requestBytes (request : Request) : ByteArray :=
  let headers := (framingHeaders request ++ request.headers).map fun (name, value) =>
    name ++ ": " ++ value
  let head := String.join ((requestLine request :: headers).map (· ++ "\r\n"))
  (head ++ "\r\n" ++ request.body).toUTF8

/-- The bytes before the first empty line, and those after it. -/
def splitHead : List UInt8 → Option (List UInt8 × List UInt8)
  | 13 :: 10 :: 13 :: 10 :: rest => some ([], rest)
  | byte :: rest => (splitHead rest).map fun (head, body) => (byte :: head, body)
  | [] => none

/-- The bytes before the first line end, and those after it. -/
def splitLine : List UInt8 → Option (List UInt8 × List UInt8)
  | 13 :: 10 :: rest => some ([], rest)
  | byte :: rest => (splitLine rest).map fun (line, rest) => (byte :: line, rest)
  | [] => none

/-- Some bytes as characters, one for each. -/
def chars (bytes : List UInt8) : List Char :=
  bytes.map fun byte => Char.ofNat byte.toNat

/-- The status that the first line of a response names. -/
def status? (line : List Char) : Option Nat :=
  match line.splitOn ' ' with
  | version :: code :: _ =>
      if "HTTP/1.".toList.isPrefixOf version && code.length = 3 then
        (readNumeral 1000 code).toOption
      else none
  | _ => none

/-- A header, with its name in lower case. -/
def header (line : List Char) : List Char × List Char :=
  let name := line.takeWhile (· ≠ ':')
  (name.map Char.toLower, (line.drop (name.length + 1)).dropWhile (· = ' '))

/-- The body that is spread over chunks, read at most `fuel` of them. -/
def joinChunks : (fuel : Nat) → List UInt8 → Option (List UInt8)
  | 0, _ => none
  | fuel + 1, bytes => do
      let (line, rest) ← splitLine bytes
      let size ← hexNumber? ((chars line).takeWhile fun c => (hexValue? c).isSome)
      if size = 0 then pure []
      else if rest.length < size + 2 then none
      else pure (rest.take size ++ (← joinChunks fuel (rest.drop (size + 2))))

/-- The body of a response with these headers. A body that is cut short is none. -/
def bodyBytes (headers : List (List Char × List Char)) (bytes : List UInt8) :
    Option (List UInt8) :=
  let value? (name : String) := (headers.find? (·.1 = name.toList)).map (·.2)
  if (value? "transfer-encoding").any fun value =>
      "chunked".toList.isSuffixOf (value.map Char.toLower) then
    joinChunks (bytes.length + 1) bytes
  else
    match (value? "content-length").bind fun value => (readUInt64 value).toOption with
    | some length => if bytes.length < length.toNat then none else some (bytes.take length.toNat)
    | none => some bytes

/-- The text of a body, without the mark that may stand before it. -/
def bodyText (bytes : List UInt8) : String :=
  match bytes with
  | 0xEF :: 0xBB :: 0xBF :: rest => lossyText (ByteArray.mk rest.toArray)
  | bytes => lossyText (ByteArray.mk bytes.toArray)

/-- A status that announces the response instead of being one. -/
def isInterim (status : Nat) : Bool :=
  status < 200

/-- Read a response, passing over at most `fuel` announcements of it. -/
def readResponse : (fuel : Nat) → List UInt8 → Option Response
  | 0, _ => none
  | fuel + 1, bytes => do
      let (head, rest) ← splitHead bytes
      let lines := ((chars head).splitOn '\n').map fun line => line.filter (· ≠ '\r')
      let status ← status? (lines.headD [])
      if isInterim status then readResponse fuel rest
      else
        let body ← bodyBytes (lines.tail.map header) rest
        pure ⟨status, if status = 204 || status = 304 then "" else bodyText body⟩

/-- The response that some bytes are. -/
def parseResponse? (bytes : ByteArray) : Option Response :=
  readResponse (bytes.size + 1) bytes.toList

end ChangeGate.Http
