import ChangeGate.Proofs.Memory.Exchanges
import ChangeGate.Proofs.Url.Form
import ChangeGate.Proofs.Url.Resource

/-!
# The link that starts a build

The link that is shown for a build starts the build that the client would start: before its question
mark stands the address that the client posts to, and behind it the form that it posts. The form tells
the parameters, whatever their texts hold.
-/

namespace ChangeGate.Ci

open ChangeGate.Text

/-! ## Parameters as pairs -/

/-- Pairs list some parameters: the values of each name in order, and the names in the order of their
bytes. -/
structure ListsInOrder (params : BuildParams) (pairs : List (String × String)) : Prop where
  values : ∀ name, (pairs.filter (·.1 = name)).map (·.2) = params[name]?.getD []
  names : pairs.Pairwise fun first second =>
    first.1 = second.1 ∨ utf8Bytes first.1 < utf8Bytes second.1

section
variable {entries : List (String × List String)} {name : String} {values : List String}

/-- The values that some pairs give a name. -/
theorem values_flatMap (entries : List (String × List String)) (name : String) :
    ((entries.flatMap fun (name, values) => values.map (name, ·)).filter (·.1 = name)).map (·.2) =
      (entries.filter (·.1 = name)).flatMap (·.2) := by
  induction entries with
  | nil => rfl
  | cons entry others inductionHypothesis =>
      rw [List.flatMap_cons, List.filter_append, List.map_append, inductionHypothesis]
      by_cases same : entry.1 = name
      · simp [List.filter_map, Function.comp_def, same]
      · simp [List.filter_map, Function.comp_def, same]

/-- Where names are listed once, an entry is the only one with its name. -/
theorem filter_of_mem (distinct : entries.Pairwise fun first second => first.1 ≠ second.1)
    (member : (name, values) ∈ entries) : entries.filter (·.1 = name) = [(name, values)] := by
  induction entries with
  | nil => cases member
  | cons entry others inductionHypothesis =>
      obtain ⟨others_ne, othersDistinct⟩ := List.pairwise_cons.mp distinct
      rcases List.mem_cons.mp member with rfl | member
      · have noOther : others.filter (·.1 = name) = [] := by
          rw [List.filter_eq_nil_iff]
          intro other isOther
          simpa using Ne.symm (others_ne other isOther)
        simp [noOther]
      · have notFirst : entry.1 ≠ name := others_ne _ member
        simp [notFirst, inductionHypothesis othersDistinct member]

end

/-- The names of parameters are in the order of their bytes. -/
theorem names_ordered (params : BuildParams) :
    params.toList.Pairwise fun first second => utf8Bytes first.1 < utf8Bytes second.1 := by
  apply params.ordered_keys_toList.imp
  intro first second less
  exact utf8Bytes_lt (compareOfLessAndEq_eq_lt.mp less)

theorem listsInOrder_paramPairs (params : BuildParams) : ListsInOrder params (paramPairs params) where
  values name := by
    rw [paramPairs, values_flatMap]
    cases found : params[name]? with
    | some values =>
        have member := Std.ExtTreeMap.mem_toList_iff_getElem?_eq_some.mpr found
        have distinct : params.toList.Pairwise fun first second => first.1 ≠ second.1 := by
          apply (names_ordered params).imp
          intro first second less same
          rw [same] at less
          exact List.lt_irrefl _ less
        rw [filter_of_mem distinct member]
        simp
    | none =>
        have noEntry : params.toList.filter (·.1 = name) = [] := by
          rw [List.filter_eq_nil_iff]
          rintro ⟨other, values⟩ member same
          obtain rfl : other = name := of_decide_eq_true same
          rw [Std.ExtTreeMap.mem_toList_iff_getElem?_eq_some, found] at member
          cases member
        rw [noEntry]
        rfl
  names := by
    rw [paramPairs, List.pairwise_flatMap]
    constructor
    · rintro ⟨name, values⟩ -
      rw [List.pairwise_map]
      exact List.pairwise_of_forall fun _ _ => .inl rfl
    · apply (names_ordered params).imp
      rintro ⟨name, values⟩ ⟨other, others⟩ less first isFirst second isSecond
      obtain ⟨value, -, rfl⟩ := List.mem_map.mp isFirst
      obtain ⟨otherValue, -, rfl⟩ := List.mem_map.mp isSecond
      exact .inr less

end ChangeGate.Ci

namespace ChangeGate.Memory

open ChangeGate.Ci ChangeGate.Http ChangeGate.Service ChangeGate.Url

/-! ## Addresses without a user and a query -/

/-- An address of a server alone: it names no user, and nothing stands behind its path. -/
structure IsBare (url : Url) : Prop where
  username : url.username = ""
  password : url.password = none
  query : url.query = none
  fragment : url.fragment = none

namespace IsBare

variable {url : Url}

theorem append (bare : IsBare url) (segments : List String) : IsBare (url.append segments) :=
  ⟨bare.username, bare.password, bare.query, bare.fragment⟩

theorem userText (bare : IsBare url) : url.userText = "" := by
  rw [Url.userText, bare.password, bare.username]
  rfl

/-- Without a query, an address is written up to its path. -/
theorem text (bare : IsBare url) : url.text = url.resourceText := by
  rw [Url.text, queryText, bare.query, fragmentText, bare.fragment, String.append_empty,
    String.append_empty]

/-- Pairs stand behind a question mark. -/
theorem text_addPairs (bare : IsBare url) (pairs : List (String × String)) :
    (url.addPairs pairs).text = url.text ++ "?" ++ String.ofList (encodeForm pairs) := by
  have resource : (url.addPairs pairs).resourceText = url.resourceText := rfl
  rw [Url.text, resource, bare.text, queryText, addPairs, bare.query, fragmentText]
  simp [bare.fragment, String.append_assoc]

theorem urlCredentials (bare : IsBare url) : urlCredentials? url = none := by
  rw [urlCredentials?, bare.username, bare.password]
  decide

/-- A request to a bare address names it as it is. -/
theorem requestTo_url (bare : IsBare url) (credentials : Option Credentials) (method : Method)
    (content : Option Content) : (requestTo credentials method url content).url = url := by
  simp [requestTo, Client.request, bare.urlCredentials]

end IsBare

/-! ## The link -/

/-- A link does what a request does that starts a build: its first question mark divides the address
that the request is posted to from the form that is posted, which tells the parameters. -/
structure DoesAs (link : String) (request : Request) (params : BuildParams) : Prop where
  posts : request.method = .post
  text : link = request.url.text ++ "?" ++ request.body
  first : '?' ∉ request.url.text.toList
  form : ListsInOrder params (decodeForm request.body.toList)

theorem isClosedUrl_of_ciUrl {host : String} {server : Url} (address : ciUrl? host = .ok (some server))
    (web : IsWebScheme server.scheme) : IsClosedUrl server := by
  rw [ciUrl?] at address
  split at address
  · cases address
  · rw [serverUrl] at address
    split at address
    · next url parsed =>
        obtain rfl := Option.some.inj (Except.ok.inj address)
        exact isClosedUrl_of_parse parsed web
    · cases address

/-- The manual link of a build does what the client does to start it. -/
theorem manualLink_doesAs_start {settings : CiSettings} {ci : CiServer MachineM} {server : Url}
    (made : ciOfSettings settings Machine.transport = .ok ci)
    (address : ciUrl? settings.host = .ok (some server)) (web : IsWebScheme server.scheme)
    (bare : IsBare server) (job : String) (params : BuildParams) (before : Machine) :
    ∃ exchange answer after, (ci.start job params).run before = (answer, after) ∧
      Passes before.wire [exchange] after.wire ∧
      DoesAs (ci.manualLink job params) exchange.request params := by
  have built : ci = remoteCi (machineClient (credentials settings.user settings.token))
      (some server) := by
    rw [ciOfSettings, address] at made
    exact (Except.ok.inj made).symm
  let started : Server := ⟨server, credentials settings.user settings.token⟩
  have known : ∀ other ∈ some started, other.credentials = started.credentials := by
    rintro _ ⟨⟩
    rfl
  obtain ⟨exchanges, answer, after, asked, passes, -, runs⟩ :=
    conducts_ciPosted known (startUrl · job) (some (startForm params)) before
  obtain ⟨exchange, rfl, asks, -⟩ := asked
  rw [built]
  refine ⟨exchange, answer, after, runs, passes, ?_⟩
  have target : IsBare (startUrl server job) := bare.append _
  have url : exchange.request.url = startUrl server job := by
    rw [asks]
    exact target.requestTo_url _ _ _
  have body : exchange.request.body = String.ofList (encodeForm (paramPairs params)) := by
    rw [asks]
    rfl
  have closed : IsClosedUrl (startUrl server job) := (isClosedUrl_of_ciUrl address web).append _
  refine ⟨by rw [asks]; rfl, ?_, ?_, ?_⟩
  · rw [url, body]
    exact target.text_addPairs (paramPairs params)
  · rw [url, target.text]
    exact not_mem_resourceText web closed target.userText
  · rw [body, String.toList_ofList, decodeForm_encodeForm]
    exact listsInOrder_paramPairs params

/-- Parameters with characters that divide the parts of a link come through. -/
theorem manualLink_doesAs_start_of_dividers :
    let settings : CiSettings := { host := " http://ci:8080/jenkins/" }
    let params : BuildParams := .ofList [("A?", ["x&y=z", "50% \u00E9+"]), ("", [""])]
    ∃ ci exchange answer after, ciOfSettings settings Machine.transport = .ok ci ∧
      (ci.start "all tests" params).run {} = (answer, after) ∧
      Passes ({} : Machine).wire [exchange] after.wire ∧
      DoesAs (ci.manualLink "all tests" params) exchange.request params ∧
      ci.manualLink "all tests" params =
        "http://ci:8080/jenkins/job/all%20tests/buildWithParameters"
          ++ "?=&A%3F=x%26y%3Dz&A%3F=50%25+%C3%A9%2B" := by
  intro settings params
  let server : Url :=
    { scheme := "http", host := some "ci", port := some 8080, path := ["jenkins", ""] }
  have parsed : parse? "http://ci:8080/jenkins/" = some server := by decide +kernel
  have address : ciUrl? settings.host = .ok (some server) := by
    have trimmed : String.ofList (Text.trim settings.host.toList) = "http://ci:8080/jenkins/" := by
      decide +kernel
    rw [ciUrl?, if_neg (by decide +kernel), serverUrl, trimmed, parsed]
    rfl
  have made : ciOfSettings settings Machine.transport =
      .ok (remoteCi (machineClient none) (some server)) := by
    rw [ciOfSettings, address]
    rfl
  obtain ⟨exchange, answer, after, runs, passes, does⟩ :=
    manualLink_doesAs_start made address (by decide) ⟨rfl, rfl, rfl, rfl⟩ "all tests" params {}
  refine ⟨_, exchange, answer, after, made, runs, passes, does, ?_⟩
  decide +kernel

end ChangeGate.Memory
