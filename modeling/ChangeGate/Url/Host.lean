import ChangeGate.Url.Domain
import ChangeGate.Url.Ipv4
import ChangeGate.Url.Ipv6
import ChangeGate.Url.Percent

/-!
# Hosts

A host in the form in which an address shows it. Brackets hold an address of eight pieces. Under
a special scheme any other host is a domain or an address of four bytes; under another scheme it
is a text that nothing is known about.
-/

namespace ChangeGate.Url

/-- A character that no host of an unknown kind may hold. -/
def forbiddenInHost (c : Char) : Bool :=
  ['\x00', '\t', '\n', '\r', ' ', '#', '/', ':', '<', '>', '?', '@', '[', '\\', ']', '^',
    '|'].contains
    c

/-- An address of eight pieces between brackets. -/
def bracketedHost? (host : List Char) : Option String := do
  let inner := host.drop 1
  if inner.getLast? = some ']' then
    let pieces ← parseIpv6? inner.dropLast
    pure (String.ofList ('[' :: ipv6Text pieces ++ [']']))
  else none

/-- The host of an address with a special scheme. -/
def specialHost? (host : List Char) : Option String :=
  if host.head? = some '[' then bracketedHost? host
  else do
    let domain ← domain? (← textOfBytes? (percentDecode host))
    if endsInNumber domain then (parseIpv4? domain).map ipv4Text
    else pure (String.ofList domain)

/-- The host of an address with any other scheme; it may be empty. -/
def plainHost? (host : List Char) : Option String :=
  if host.head? = some '[' then bracketedHost? host
  else if host.any forbiddenInHost then none
  else some (String.ofList (percentEncode isControl host))

end ChangeGate.Url
