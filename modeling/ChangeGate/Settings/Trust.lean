import ChangeGate.Settings.Basic
import ChangeGate.Text.Blank
import ChangeGate.Text.Search

/-!
# Who and what is let through

An owner is trusted by mail domain or by name, ignoring the case of ASCII letters. A change
takes part when its project is known.
-/

namespace ChangeGate

open ChangeGate.Text

/-- A text with its ASCII letters in lower case. -/
def lowerCase (text : List Char) : List Char :=
  text.map Char.toLower

/-- What an email address must end with to belong to a trusted domain. At signs that the
domain starts with are ignored. -/
def domainEnding (domain : String) : List Char :=
  '@' :: lowerCase (domain.toList.dropWhile (· = '@'))

namespace Settings

/-- A project whose changes take part. -/
def knowsProject (settings : Settings) (project : String) : Bool :=
  settings.gate.knownProjects.isEmpty || settings.gate.knownProjects.contains project

/-- An owner whose changes are tested without a person starting the build. -/
def trusts (settings : Settings) (owner : String) : Bool :=
  let email := lowerCase (trim owner.toList)
  !email.isEmpty &&
    (settings.gate.trustedDomains.any (fun domain => (domainEnding domain).isSuffixOf email) ||
      settings.gate.emailWhitelist.any (fun entry => lowerCase entry.toList = email))

end Settings

end ChangeGate
