import ChangeGate.Ci.Listing
import ChangeGate.Proofs.Ci.Stale
import ChangeGate.Proofs.Json.Record
import ChangeGate.Proofs.Round.Siblings

/-!
# What the listings keep

The parameters of a build come back from the build server among actions, parameters and fields of
all kinds. A listing has its items in order, and each keeps the last text of every name. So the refs
a group is tested with are read back from whatever the server lists, and tell what its build names.
-/

namespace ChangeGate.Ci

open ChangeGate.Json ChangeGate.Review ChangeGate.Round

/-! ## Parameters as they stand in a document -/

/-- The keys of an item of the queue. -/
def queueKeys : List String :=
  ["id", "task", "actions"]

/-- The keys of a build of a job. -/
def buildKeys : List String :=
  ["number", "building", "actions"]

/-- The keys of a parameter. -/
def parameterKeys : List String :=
  ["name", "value"]

/-- The parameters of a list of actions, in order. -/
def parametersIn (actions : List Value) : List Value :=
  actions.flatMap (Value.itemsUnder ["parameters"] "parameters")

/-- A parameter goes by a name. -/
def HasName (name : String) (parameter : Value) : Prop :=
  parameter.under? parameterKeys "name" = some (.ofText name)

/-- The last of some parameters that goes by a name is a text. -/
inductive LastIsText (name text : String) : List Value → Prop where
  | last (before : List Value) {parameter : Value} {after : List Value}
      (hasName : HasName name parameter)
      (isText : parameter.under? parameterKeys "value" = some (.ofText text))
      (noLater : ∀ later ∈ after, ¬ HasName name later) :
      LastIsText name text (before ++ parameter :: after)

/-! ## Reading parameters -/

/-- Of the entries with one name the last counts. -/
theorem getElem?_ofList_append_cons (before after : List (String × String)) {name text : String}
    (noLater : ∀ entry ∈ after, entry.1 ≠ name) :
    (Std.ExtTreeMap.ofList (before ++ (name, text) :: after) : ParamValues)[name]? = some text := by
  have absent : (after.map Prod.fst).contains name = false := by
    simpa [List.contains_eq_mem] using fun other isLater => noLater (name, other) isLater rfl
  rw [Std.ExtTreeMap.ofList_eq_insertMany_empty, Std.ExtTreeMap.insertMany_append]
  rw [Std.ExtTreeMap.insertMany_cons]
  rw [Std.ExtTreeMap.getElem?_insertMany_list_of_contains_eq_false absent]
  exact Std.ExtTreeMap.getElem?_insert_self

/-- A parameter that is read has its name and, where its value is a text, that text. -/
theorem entry_of_parameter? {parameter : Value} {entry : String × String}
    (read : parameter? parameter = some entry) :
    HasName entry.1 parameter ∧
      ∀ text, parameter.under? parameterKeys "value" = some (.ofText text) → entry.2 = text := by
  have read := eq_some_of_fields_bind (by decide) read
  simp only [List.map_cons, List.map_nil, Option.bind_eq_bind, Option.bind_eq_some_iff,
    Option.pure_def, Option.some.injEq] at read
  obtain ⟨name, isName, value, isValue, rfl⟩ := read
  refine ⟨eq_ofText_of_required isName, ?_⟩
  intro text isText
  rw [parameterKeys] at isText
  rw [isText] at isValue
  exact (Option.some.inj isValue).symm

/-- The actions that are read have the entries of their parameters, in order. -/
theorem forall₂_of_actions {actions : List Value} {entries : List (List (String × String))}
    (read : List.Forall₂ (fun action entries => actionParameters? action = some entries) actions
      entries) :
    List.Forall₂ (fun parameter entry => parameter? parameter = some entry) (parametersIn actions)
      entries.flatten := by
  induction read with
  | nil => exact List.Forall₂.nil
  | cons first _ inductionHypothesis =>
      have first := eq_some_of_fields_bind (by decide) first
      exact List.rel_append (forall₂_of_orDefault_list? first) inductionHypothesis

/-- The last parameter with a name counts, where it is a text. -/
theorem getElem?_of_lastIsText {actions : Option Value} {params : ParamValues}
    (read : parameters? actions = some params) {name text : String}
    (lastIsText : LastIsText name text (parametersIn ((actions.map Value.items).getD []))) :
    params[name]? = some text := by
  simp only [parameters?, Option.bind_eq_bind, Option.bind_eq_some_iff, Option.pure_def,
    Option.some.injEq] at read
  obtain ⟨entries, areEntries, rfl⟩ := read
  have related := forall₂_of_actions (forall₂_of_orDefault_list? areEntries)
  generalize parametersIn ((actions.map Value.items).getD []) = parameters at related lastIsText
  generalize entries.flatten = listed at related
  cases lastIsText with
  | @last before parameter after hasName isText noLater =>
      have rest := List.forall₂_drop_append listed before _ related.flip
      obtain ⟨entry, back, isEntry, others, isRest⟩ := List.forall₂_cons_right_iff.mp rest
      rw [← List.take_append_drop before.length listed, isRest]
      have sameName : name = entry.1 := by
        have isName := (entry_of_parameter? isEntry).1
        simpa [HasName, hasName, Value.ofText] using hasName.symm.trans isName
      have sameText : entry.2 = text := (entry_of_parameter? isEntry).2 text isText
      subst sameName sameText
      apply getElem?_ofList_append_cons
      intro other member same
      obtain ⟨later, isLater, isOther⟩ := exists_mem_of_forall₂ others.flip member
      exact noLater later isLater (same ▸ (entry_of_parameter? isOther).1)

/-! ## Reading the listings -/

/-- The job of an item of the queue; an item without one has the empty name. -/
def jobOf (item : Value) : String :=
  (((item.under? queueKeys "task").bind (Value.under? ["name"] "name")).bind text?).getD ""

/-- A queued build stands for an item of the queue: it has its identifier, and the refs that the
item holds as its last text. -/
structure QueuedAs (refs : String) (item : Value) (build : QueuedBuild) : Prop where
  id : required uint64? (item.under? queueKeys "id") = some build.id
  refs : LastIsText refsParam refs (parametersIn (item.itemsUnder queueKeys "actions")) →
    build.refs = refs

/-- A started build stands for a build of a job: it has its number, it runs if the job says so, and
it has the refs that the build holds as its last text. -/
structure StartedAs (refs : String) (item : Value) (build : StartedBuild) : Prop where
  number : required uint64? (item.under? buildKeys "number") = some build.number
  building : orDefault false bool? (item.under? buildKeys "building") = some build.building
  refs : LastIsText refsParam refs (parametersIn (item.itemsUnder buildKeys "actions")) →
    build.refs = refs

theorem joinedRefs_of_lastIsText {keys : List String} {item : Value} {params : ParamValues}
    (read : parameters? (item.under? keys "actions") = some params) {refs : String}
    (lastIsText : LastIsText refsParam refs (parametersIn (item.itemsUnder keys "actions"))) :
    joinedRefs params = refs := by
  rw [joinedRefs, getElem?_of_lastIsText read lastIsText, Option.getD_some]

theorem queuedAs_of_queueItem? {item : Value} {job : String} {build : QueuedBuild}
    (read : queueItem? item = some (job, build)) (refs : String) :
    jobOf item = job ∧ QueuedAs refs item build := by
  have read := eq_some_of_fields_bind (by decide) read
  simp only [List.map_cons, List.map_nil, Option.bind_eq_bind, Option.bind_eq_some_iff,
    Option.pure_def, Option.some.injEq] at read
  obtain ⟨id, isId, name, isName, params, areParams, ⟨rfl, rfl⟩⟩ := read
  refine ⟨?_, isId, joinedRefs_of_lastIsText areParams⟩
  rw [jobOf, queueKeys]
  generalize item.under? ["id", "task", "actions"] "task" = task at isName
  cases task with
  | none => exact Option.some.inj isName
  | some task =>
      have isName := eq_some_of_fields_bind (by decide) isName
      simp only [List.map_cons, List.map_nil] at isName
      rw [Option.bind_some]
      generalize task.under? ["name"] "name" = name at isName
      cases name with
      | none => exact Option.some.inj isName
      | some name =>
          rw [Option.bind_some]
          exact (congrArg (·.getD "") isName)

/-- Other fields and actions are passed over, and of two values the one that comes last is taken. -/
example :
    let first : Value := .array [.ofText "REFS", .ofNat 1]
    let last : Value := .ofMembers [("name", .ofText "REFS"), ("value", .ofText "x"), ("_", .null)]
    let action : Value := .ofMembers [("parameters", .array [first, last])]
    let item : Value := .array [.ofNat 4, .array [.ofText "gate"], .array [.array [], action]]
    (queueItem? item).map (fun (job, build) => (job, build.id, build.refs)) =
      some ("gate", 4, "x") :=
  rfl

theorem startedAs_of_startedBuild? {item : Value} {build : StartedBuild}
    (read : startedBuild? item = some build) (refs : String) : StartedAs refs item build := by
  have read := eq_some_of_fields_bind (by decide) read
  simp only [List.map_cons, List.map_nil, Option.bind_eq_bind, Option.bind_eq_some_iff,
    Option.pure_def, Option.some.injEq] at read
  obtain ⟨number, isNumber, building, isBuilding, params, areParams, rfl⟩ := read
  exact ⟨isNumber, isBuilding, joinedRefs_of_lastIsText areParams⟩

/-- A document that is accepted is that of its text. -/
theorem document_of_readAnswer {α : Type} {what body : String} {decode : Value → Option α}
    {answer : α} (accepted : readAnswer what decode body = .ok answer) :
    ∃ document, parse? body = some document ∧ decode document = some answer := by
  rw [readAnswer] at accepted
  split at accepted
  · next read =>
      cases accepted
      exact Option.bind_eq_some_iff.mp read
  · cases accepted

/-- The queue of a job lists the items of that job, in order. -/
theorem forall₂_of_parseQueue {body job : String} {builds : List QueuedBuild}
    (accepted : parseQueue body job = .ok builds) (refs : String) :
    ∃ document, parse? body = some document ∧
      List.Forall₂ (QueuedAs refs)
        ((document.itemsUnder ["items"] "items").filter (jobOf · = job)) builds := by
  rw [parseQueue] at accepted
  cases answered : readAnswer "a build queue" queueOfDocument body with
  | error failure =>
      rw [answered] at accepted
      cases accepted
  | ok items =>
      rw [answered] at accepted
      cases accepted
      obtain ⟨document, isDocument, read⟩ := document_of_readAnswer answered
      refine ⟨document, isDocument, ?_⟩
      have read := eq_some_of_fields_bind (by decide) read
      have one := (forall₂_of_orDefault_list? read).imp fun _ _ isItem =>
        queuedAs_of_queueItem? isItem refs
      rw [List.forall₂_map_right_iff]
      refine (List.rel_filter ?_ one).imp fun _ _ listed => listed.2
      intro item entry listed
      simp only [listed.1]

/-- The builds of a job are those of its document, in order. -/
theorem forall₂_of_parseBuilds {body : String} {builds : List StartedBuild}
    (accepted : parseBuilds body = .ok builds) (refs : String) :
    ∃ document, parse? body = some document ∧
      List.Forall₂ (StartedAs refs) (document.itemsUnder ["builds"] "builds") builds := by
  obtain ⟨document, isDocument, read⟩ := document_of_readAnswer accepted
  refine ⟨document, isDocument, ?_⟩
  have read := eq_some_of_fields_bind (by decide) read
  exact (forall₂_of_orDefault_list? read).imp fun _ _ isBuild =>
    startedAs_of_startedBuild? isBuild refs

/-! ## The refs of a group -/

/-- The joined refs of a build are read back from whatever the build server lists, and name the
patchsets that decide whether the build is stale. -/
structure ReadBack (refs : String) (built : Patchsets) : Prop where
  queue : ∀ body job builds, parseQueue body job = .ok builds →
    ∃ document, parse? body = some document ∧
      List.Forall₂ (QueuedAs refs)
        ((document.itemsUnder ["items"] "items").filter (jobOf · = job)) builds
  builds : ∀ body builds, parseBuilds body = .ok builds →
    ∃ document, parse? body = some document ∧
      List.Forall₂ (StartedAs refs) (document.itemsUnder ["builds"] "builds") builds
  stale : ∀ current, ∃ stale, isStale refs current = .ok stale ∧
    (stale = true ↔ Supersedes current built)

/-- The refs that a group is tested with are read back. -/
theorem refs_readBack {group : Group} (present : group.members ≠ [])
    (named : ∀ change ∈ group.members, change.NamedByReference) (tests : List String) :
    ∃ refs, (paramsFor group tests)[refsParam]? = some [refs] ∧ ReadBack refs group.patchsets := by
  refine ⟨_, getElem?_refsParam_paramsFor group tests, ?_, ?_, ?_⟩
  · intro body job builds accepted
    exact forall₂_of_parseQueue accepted _
  · intro body builds accepted
    exact forall₂_of_parseBuilds accepted _
  · intro current
    exact ⟨_, isStale_references present named current, superseded_iff⟩

/-- A set under refs of two kinds is read back, from an item of a queue and from a build of a job
that have other parameters too. -/
theorem refs_readBack_of_set :
    let first : Change := { number := 7, patchset := 2, message := "MultiPart: 1/2" }
    let second : Change :=
      { number := 112, patchset := 3, message := "MultiPart: 2/2", reference := "a/b/c/0112/+3" }
    let refs := "refs/changes/07/7/2:a/b/c/0112/+3"
    let actions :=
      "\"actions\":[\x7b\x7d,\x7b\"parameters\":[\x7b\"name\":\"A\",\"value\":1\x7d," ++
        "\x7b\"name\":\"REFS\",\"value\":\"" ++ refs ++ "\"\x7d]\x7d]"
    let queue :=
      "\x7b\"items\":[\x7b\"id\":4,\"task\":\x7b\"name\":\"gate\"\x7d," ++ actions ++ "\x7d]\x7d"
    let builds := "\x7b\"builds\":[\x7b\"number\":5,\"building\":true," ++ actions ++ "\x7d]\x7d"
    (∀ change ∈ [first, second], change.NamedByReference) ∧
      (paramsFor ⟨[first, second]⟩ ["unit"])[refsParam]? = some [refs] ∧
      ReadBack refs (Group.patchsets ⟨[first, second]⟩) ∧
      (parseQueue queue "gate").toOption.map (·.map fun build => (build.id, build.refs)) =
        some [(4, refs)] ∧
      (parseBuilds builds).toOption.map (·.map fun build => (build.number, build.refs)) =
        some [(5, refs)] := by
  intro first second refs actions queue builds
  have named : ∀ change ∈ [first, second], change.NamedByReference := by
    intro change member
    simp only [List.mem_cons, List.not_mem_nil, or_false] at member
    rcases member with rfl | rfl
    · exact Change.namedByReference_of_eq_text rfl
    · exact ⟨by decide, by decide⟩
  have present : Group.members ⟨[first, second]⟩ ≠ [] := List.cons_ne_nil _ _
  have isRefs : (paramsFor ⟨[first, second]⟩ ["unit"])[refsParam]? = some [refs] := by
    decide +kernel
  obtain ⟨joined, isJoined, readBack⟩ := refs_readBack present named ["unit"]
  obtain rfl : joined = refs := by simpa using isJoined.symm.trans isRefs
  exact ⟨named, isRefs, readBack, by decide +kernel, by decide +kernel⟩

end ChangeGate.Ci
