import Std.Async.DNS
import Std.Async.TCP
import Std.Async.Timer
import ChangeGate.CommandLine.LogLine
import ChangeGate.Http.Framing
import ChangeGate.Text.Uuid

/-!
# The program on this machine

The platform of the operating system: its files, its environment, connections to hosts, and the
error output for the log. Only plain connections can be made.
-/

namespace ChangeGate.Main

open Std.Async Std.Net
open ChangeGate.CommandLine ChangeGate.Http

/-- A file error of the operating system. -/
def fileError : IO.Error → FileError
  | .noFileOrDirectory .. => .notFound
  | error => .other (toString error)

/-- Do something with files. -/
def withFiles {α : Type} (action : IO α) : IO (Except FileError α) := do
  match ← action.toBaseIO with
  | .ok value => pure (.ok value)
  | .error error => pure (.error (fileError error))

/-- The folder of a path. -/
def folderOf (path : String) : String :=
  let folder := (path.toList.reverse.dropWhile (· ≠ '/')).reverse
  if folder.isEmpty then "." else String.ofList folder

/-- Replace a file as a whole: the new content is written beside it and then takes its place. -/
def replaceFile (path : String) (content : ByteArray) : IO Unit := do
  IO.FS.createDirAll (folderOf path)
  let fresh := path ++ ".new"
  IO.FS.writeBinFile fresh content
  IO.FS.rename fresh path

/-- Read what arrives on a connection until it is closed. -/
partial def readAll (socket : TCP.Socket.Client) (soFar : ByteArray) : Async ByteArray := do
  match ← socket.recv? 65536 with
  | some bytes => readAll socket (soFar ++ bytes)
  | none => pure soFar

/-- An address of a host with a port. -/
def socketAddress (port : UInt16) : IPAddr → SocketAddress
  | .v4 address => .v4 ⟨address, port⟩
  | .v6 address => .v6 ⟨address, port⟩

/-- The host of an address without the brackets around it. -/
def hostName (url : Url) : String :=
  String.ofList ((url.host.getD "").toList.filter fun c => c ≠ '[' && c ≠ ']')

/-- Send a request over a plain connection and wait for the response. -/
def exchangePlain (request : Request) : Async (Except String Response) := do
  let port := (request.url.port.or (Url.defaultPort? request.url.scheme)).getD 80
  let addresses ← DNS.getAddrInfo (hostName request.url) (toString port)
  match addresses[0]? with
  | none => pure (.error "unknown host")
  | some address =>
      let socket ← TCP.Socket.Client.mk
      socket.connect (socketAddress port.toUInt16 address)
      socket.send (requestBytes request)
      let bytes ← readAll socket .empty
      match parseResponse? bytes with
      | some response => pure (.ok response)
      | none => pure (.error "not a response")

/-- Give up after some seconds. -/
def timeUp (timeout : UInt64) : Async (Except String Response) := do
  sleep (.ofNat (1000 * timeout.toNat))
  pure (.error "timed out")

/-- Send a request and wait for the response for some seconds. -/
def exchange (timeout : UInt64) (request : Request) : IO (Except String Response) := do
  if request.url.scheme = "http" then
    match ← (Async.block (Async.race (exchangePlain request) (timeUp timeout))).toBaseIO with
    | .ok answer => pure answer
    | .error error => pure (.error (toString error))
  else
    pure (.error "no secure connections")

/-- The variables that the program looks at. -/
def variableNames : List String :=
  ["HOME", "RUST_LOG"]
    ++ (configOption :: Override.all.map Override.option).filterMap (·.environmentName)

/-- The platform of this machine with some variables of the environment. -/
def platform (known : List (String × String)) (roundName : String) : Platform IO where
  environment name := (known.find? (·.1 = name)).map (·.2)
  roundName := roundName
  read path := withFiles (IO.FS.readBinFile path)
  replace path content := withFiles (replaceFile path content)
  transport := exchange
  emit format event := IO.eprintln (logLine format event)

/-- What is said of a program that ends early. -/
def complaintText : Ending → Option String
  | .refused cause => some ("error: " ++ cause.message)
  | .failed cause => some ("Error: " ++ cause.message ++ "\n\nCaused by:\n    " ++ cause.reason)
  | _ => none

/-- Say how the program ended, and exit with its code. -/
def conclude (ending : Ending) : IO UInt32 := do
  IO.print ending.printed
  if let some complaint := complaintText ending then
    IO.eprintln complaint
  pure ending.exitCode.toUInt32

end ChangeGate.Main

/-- Run the program with the arguments it was called with. -/
def main (arguments : List String) : IO UInt32 := do
  let known ← ChangeGate.Main.variableNames.filterMapM fun name => do
    pure ((← IO.getEnv name).map (name, ·))
  let name := ChangeGate.Text.uuidText (← IO.getRandomBytes 16).toList
  ChangeGate.Main.conclude
    (← ChangeGate.CommandLine.run (ChangeGate.Main.platform known name) arguments)
