import ChangeGate.Proofs.Text.Blank
import ChangeGate.Proofs.Text.LetterCase
import ChangeGate.Proofs.Text.Pieces

/-!
# Who is trusted

An owner is trusted for the domain after the last at sign of the email address, or for the whole
address. White space around the address and the case of ASCII letters make no difference, and a
domain that only contains a trusted one gains nothing from it.
-/

namespace ChangeGate

open ChangeGate.Text

/-! ## Domains -/

/-- A trusted domain as it is compared: without the at signs it starts with. -/
def bareDomain (domain : String) : List Char :=
  domain.toList.dropWhile (· = '@')

/-- An address ends with a domain exactly when its part after the last at sign is the domain. -/
theorem domainEnding_isSuffixOf_iff {domain : String} {email : List Char}
    (plain : '@' ∉ bareDomain domain) :
    (domainEnding domain).isSuffixOf (lowerCase email) = true ↔
      ∃ mailbox host, email = mailbox ++ '@' :: host ∧ '@' ∉ host ∧
        SameLetters host (bareDomain domain) := by
  rw [List.isSuffixOf_iff_suffix]
  constructor
  · intro ⟨front, ends⟩
    have ⟨mailbox, rest, cut, _, isEnding⟩ := List.map_eq_append_iff.mp ends.symm
    have ⟨c, host, isRest, isAt, sameHost⟩ := List.map_eq_cons_iff.mp isEnding
    have same : SameLetters host (bareDomain domain) := sameHost
    rw [isRest, toLower_eq_at_iff.mp isAt] at cut
    exact ⟨mailbox, host, cut, mt same.at_mem_iff.mp plain, same⟩
  · intro ⟨mailbox, host, cut, _, same⟩
    have ending : lowerCase ('@' :: host) = domainEnding domain := congrArg ('@' :: ·) same
    rw [cut, lowerCase, List.map_append, ← ending]
    exact List.suffix_append (lowerCase mailbox) _

namespace Settings

/-- Why an address is trusted. -/
inductive Trusted (settings : Settings) : List Char → Prop where
  /-- The part after its last at sign is a trusted domain. -/
  | byDomain {mailbox host : List Char} {domain : String} (last : '@' ∉ host)
      (member : domain ∈ settings.gate.trustedDomains)
      (same : SameLetters host (bareDomain domain)) : Trusted settings (mailbox ++ '@' :: host)
  /-- The whole of it is listed. -/
  | byName {email : List Char} {entry : String} (member : entry ∈ settings.gate.emailWhitelist)
      (same : SameLetters email entry.toList) : Trusted settings email

/-- The trusted domains hold no at sign but those they start with. -/
def DomainsPlain (settings : Settings) : Prop :=
  ∀ domain ∈ settings.gate.trustedDomains, '@' ∉ bareDomain domain

instance (settings : Settings) : Decidable settings.DomainsPlain :=
  List.decidableBAll (fun domain => '@' ∉ bareDomain domain) settings.gate.trustedDomains

/-- The settings without one of the trusted domains. -/
def withoutDomain (settings : Settings) (domain : String) : Settings :=
  { settings with
    gate := { settings.gate with
      trustedDomains := settings.gate.trustedDomains.filter (· ≠ domain) } }

variable {settings : Settings}

/-- Only what is left of an address once it is trimmed and in lower case decides. -/
theorem trusts_congr {owner other : String}
    (same : SameLetters (trim owner.toList) (trim other.toList)) :
    settings.trusts owner = settings.trusts other := by
  rw [trusts, trusts, same]

/-- More trusted domains and more listed addresses do not end trust. -/
theorem trusts_mono {larger : Settings}
    (domains : settings.gate.trustedDomains ⊆ larger.gate.trustedDomains)
    (entries : settings.gate.emailWhitelist ⊆ larger.gate.emailWhitelist) {owner : String}
    (trusted : settings.trusts owner = true) : larger.trusts owner = true := by
  simp only [trusts, Bool.and_eq_true, Bool.or_eq_true, List.any_eq_true] at trusted ⊢
  refine ⟨trusted.1, ?_⟩
  rcases trusted.2 with ⟨domain, member, ends⟩ | ⟨entry, member, isEmail⟩
  · exact Or.inl ⟨domain, domains member, ends⟩
  · exact Or.inr ⟨entry, entries member, isEmail⟩

theorem trusts_eq_true_iff (plain : settings.DomainsPlain) {owner : String} :
    settings.trusts owner = true ↔
      trim owner.toList ≠ [] ∧ settings.Trusted (trim owner.toList) := by
  generalize isEmail : trim owner.toList = email
  have emptyAlike : lowerCase email = [] ↔ email = [] := List.map_eq_nil_iff
  simp only [trusts, isEmail, Bool.and_eq_true, Bool.not_eq_true', List.isEmpty_eq_false_iff, ne_eq,
    emptyAlike, Bool.or_eq_true, List.any_eq_true, decide_eq_true_eq]
  apply and_congr_right
  intro _
  constructor
  · intro reason
    rcases reason with ⟨domain, member, ends⟩ | ⟨entry, member, same⟩
    · have ⟨mailbox, host, cut, last, same⟩ :=
        (domainEnding_isSuffixOf_iff (plain domain member)).mp ends
      rw [cut]
      exact .byDomain last member same
    · exact .byName member same.symm
  · intro reason
    cases reason with
    | @byDomain mailbox host domain last member same =>
        exact Or.inl ⟨domain, member, (domainEnding_isSuffixOf_iff (plain domain member)).mpr
          ⟨mailbox, host, rfl, last, same⟩⟩
    | @byName _ entry member same => exact Or.inr ⟨entry, member, same.symm⟩

/-- A domain gains nothing from a trusted one that it contains and is longer than. -/
theorem trusted_withoutDomain_iff {domain : String} {mailbox front inner back : List Char}
    (last : '@' ∉ front ++ inner ++ back) (same : SameLetters inner (bareDomain domain))
    (longer : front ++ back ≠ []) :
    (settings.withoutDomain domain).Trusted (mailbox ++ '@' :: (front ++ inner ++ back)) ↔
      settings.Trusted (mailbox ++ '@' :: (front ++ inner ++ back)) := by
  generalize whole : mailbox ++ '@' :: (front ++ inner ++ back) = email
  constructor
  · intro trusted
    cases trusted with
    | byDomain otherLast member sameHost =>
        exact .byDomain otherLast (List.mem_filter.mp member).1 sameHost
    | byName member sameEntry => exact .byName member sameEntry
  · intro trusted
    cases trusted with
    | @byDomain _ host other otherLast member sameHost =>
        have isHost : front ++ inner ++ back = host := (eq_of_append_mark last otherLast whole).2
        have differs : other ≠ domain := by
          intro isDomain
          rw [isDomain] at sameHost
          have lengths : (front ++ inner ++ back).length = inner.length := by
            rw [isHost, sameHost.length_eq, same.length_eq]
          have present : 0 < (front ++ back).length := List.length_pos_iff.mpr longer
          simp only [List.length_append] at lengths present
          omega
        exact .byDomain otherLast (List.mem_filter.mpr ⟨member, decide_eq_true differs⟩) sameHost
    | byName member sameEntry => exact .byName member sameEntry

/-- What holds of the trust in owners. -/
structure TrustLaws (settings : Settings) : Prop where
  /-- An address is trusted when something is left of it without the white space around it, and the
  part after its last at sign is a trusted domain or the whole of it is listed. -/
  trusts_iff : ∀ owner, settings.trusts owner = true ↔
    trim owner.toList ≠ [] ∧ settings.Trusted (trim owner.toList)
  /-- A trusted domain makes no difference to an address whose own domain contains it and is longer,
  as one that ends with it or is below it. -/
  lookalike : ∀ {owner domain : String} {mailbox front inner back : List Char},
    trim owner.toList = mailbox ++ '@' :: (front ++ inner ++ back) →
      '@' ∉ front ++ inner ++ back → SameLetters inner (bareDomain domain) → front ++ back ≠ [] →
        (settings.withoutDomain domain).trusts owner = settings.trusts owner
  /-- White space around an address makes no difference. -/
  padded : ∀ {front back : String}, isBlankText front = true → isBlankText back = true →
    ∀ owner, settings.trusts (front ++ owner ++ back) = settings.trusts owner
  /-- The case of ASCII letters makes no difference. -/
  letterCase : ∀ {owner other : String}, SameLetters owner.toList other.toList →
    settings.trusts owner = settings.trusts other
  /-- With further trusted domains or listed addresses all who were trusted still are. -/
  extended : ∀ {larger : Settings},
    settings.gate.trustedDomains ⊆ larger.gate.trustedDomains →
      settings.gate.emailWhitelist ⊆ larger.gate.emailWhitelist →
        ∀ owner, settings.trusts owner = true → larger.trusts owner = true

/-- An owner is trusted for exactly a trusted domain or a listed address. -/
theorem trustLaws (settings : Settings) (plain : settings.DomainsPlain) : TrustLaws settings := by
  constructor
  case trusts_iff => exact fun _ => trusts_eq_true_iff plain
  case lookalike =>
    intro owner domain mailbox front inner back cut last same longer
    have plainRest : (settings.withoutDomain domain).DomainsPlain :=
      fun other member => plain other (List.mem_filter.mp member).1
    rw [Bool.eq_iff_iff, trusts_eq_true_iff plain, trusts_eq_true_iff plainRest, cut,
      trusted_withoutDomain_iff last same longer]
  case padded =>
    intro front back frontBlank backBlank owner
    apply trusts_congr
    rw [String.toList_append, String.toList_append,
      trim_append_append owner.toList (List.all_eq_true.mp frontBlank)
        (List.all_eq_true.mp backBlank)]
    rfl
  case letterCase => exact fun same => trusts_congr same.trim
  case extended => exact fun domains entries _ => trusts_mono domains entries

/-- A trusted domain may be written with at signs and capitals. An address with two at signs is
trusted for it, and a listed one in any case. A domain below the trusted one is not trusted, nor is
one that ends with its name. -/
theorem trustLaws_of_two_at_signs :
    let settings : Settings :=
      { gate := { trustedDomains := ["@@Example.IO"], emailWhitelist := ["Friend@Partner.org"] } }
    settings.DomainsPlain ∧
      settings.trusts "\ta@b@example.io " = true ∧
      settings.trusts "FRIEND@partner.org" = true ∧
      settings.trusts "dev@sub.example.io" = false ∧
      settings.trusts "dev@notexample.io" = false := by
  intro settings
  have plain : settings.DomainsPlain := by decide
  have laws := trustLaws settings plain
  have trimmed : trim "\ta@b@example.io ".toList = "a@b".toList ++ '@' :: "example.io".toList := by
    decide
  have isTrusted : settings.Trusted ("a@b".toList ++ '@' :: "example.io".toList) :=
    .byDomain (by decide) List.mem_cons_self (by decide)
  have isListed : settings.Trusted "FRIEND@partner.org".toList :=
    .byName List.mem_cons_self (by decide)
  have below : (settings.withoutDomain "@@Example.IO").trusts "dev@sub.example.io" =
      settings.trusts "dev@sub.example.io" :=
    @TrustLaws.lookalike _ laws _ _ "dev".toList "sub.".toList "example.io".toList [] rfl
      (by decide) (by decide) (by decide)
  have endsAlike : (settings.withoutDomain "@@Example.IO").trusts "dev@notexample.io" =
      settings.trusts "dev@notexample.io" :=
    @TrustLaws.lookalike _ laws _ _ "dev".toList "not".toList "example.io".toList [] rfl
      (by decide) (by decide) (by decide)
  refine ⟨plain, ?_, ?_, ?_, ?_⟩
  · exact (laws.trusts_iff _).mpr ⟨by decide, trimmed ▸ isTrusted⟩
  · exact (laws.trusts_iff _).mpr ⟨by decide, isListed⟩
  · rw [← below]
    decide
  · rw [← endsAlike]
    decide

end Settings

end ChangeGate
