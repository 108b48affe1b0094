import ChangeGate.Proofs.Memory.Entries
import ChangeGate.Proofs.Memory.Rebuilds
import ChangeGate.Proofs.Round.Trace

/-!
# The accounts of a round

A round gives three accounts of what it did: its report, the records of the servers, and the
events. Every part of a round leaves entries that agree among themselves, and the whole round
leaves entries that agree with its report.
-/

namespace ChangeGate.Round

/-- The event frames a round: it tells that one starts, stops early or ends. -/
def Event.frames : Event → Bool
  | .runStarted .. => true
  | .runSkipped _ => true
  | .runFinished .. => true
  | _ => false

/-- The outcome of a group that an event tells. -/
def Event.outcome? : Event → Option (String × GroupState)
  | .groupOutcome group state => some (group, state)
  | _ => none

/-- The event tells that a build in a place was cancelled. -/
def Event.cancelledIn (place : BuildPlace) : Event → Bool
  | .buildCancelled _ cancelled => cancelled = place
  | _ => false

end ChangeGate.Round

namespace ChangeGate.Memory

open ChangeGate.Ci ChangeGate.Review ChangeGate.Round ChangeGate.Round.Trace ChangeGate.Service
  ChangeGate.Text

/-- How a message starts that reports a rejected set. -/
def rejectionStart : String := "failed to process multi-part CL "

/-- The post reports a rejected set. -/
def Post.reportsRejected (post : Post) : Bool :=
  rejectionStart.toList.isPrefixOf post.message.toList

/-- The pieces that the joined refs of a build fall into. -/
def AddedBuild.pieces (build : AddedBuild) : List (List Char) :=
  build.refs.toList.splitOn ':'

/-! ## Accounts -/

/-- What some entries come to. -/
structure Account where
  outcomes : List (String × GroupState) := []
  added : List AddedBuild := []
  submits : List String := []
  reportedSets : Nat := 0

/-- The entries come to an account: they frame no round, every cancellation is told, and every
cancellation that is told was made. -/
structure Accounts (entries : Entries) (account : Account) : Prop where
  unframed : ∀ event ∈ entries.events, event.frames = false
  cancelledQueued :
    entries.events.countP (·.cancelledIn .queue) = entries.cancelledQueued.length
  stopped : entries.events.countP (·.cancelledIn .running) = entries.stopped.length
  outcomes : entries.events.filterMap (·.outcome?) = account.outcomes
  added : entries.added = account.added
  submits : entries.submits = account.submits
  reportedSets : entries.posts.countP (·.reportsRejected) = account.reportedSets

/-- One account after another. -/
def Account.append (first second : Account) : Account where
  outcomes := first.outcomes ++ second.outcomes
  added := first.added ++ second.added
  submits := first.submits ++ second.submits
  reportedSets := first.reportedSets + second.reportedSets

@[simp] theorem Account.nothing_append (account : Account) :
    Account.append {} account = account := by
  simp [append]

@[simp] theorem Account.append_nothing (account : Account) :
    account.append {} = account := by
  simp [append]

namespace Accounts

theorem append {entries others : Entries} {first second : Account}
    (accounts : Accounts entries first) (accountsOthers : Accounts others second) :
    Accounts (entries.append others) (first.append second) where
  unframed := List.forall_mem_append.mpr ⟨accounts.unframed, accountsOthers.unframed⟩
  cancelledQueued := by
    simp only [Entries.append, List.countP_append, List.length_append, accounts.cancelledQueued,
      accountsOthers.cancelledQueued]
  stopped := by
    simp only [Entries.append, List.countP_append, List.length_append, accounts.stopped,
      accountsOthers.stopped]
  outcomes := by
    simp only [Entries.append, Account.append, List.filterMap_append, accounts.outcomes,
      accountsOthers.outcomes]
  added := by
    simp only [Entries.append, Account.append, accounts.added, accountsOthers.added]
  submits := by
    simp only [Entries.append, Account.append, accounts.submits, accountsOthers.submits]
  reportedSets := by
    simp only [Entries.append, Account.append, List.countP_append, accounts.reportedSets,
      accountsOthers.reportedSets]

theorem nothing : Accounts {} {} := by
  constructor <;> simp

/-- An event that neither frames a round nor tells an outcome or a cancellation. -/
theorem told {event : Event} (unframed : event.frames = false) (noOutcome : event.outcome? = none)
    (noCancellation : ∀ place, event.cancelledIn place = false) :
    Accounts { events := [event] } {} := by
  constructor <;> simp [unframed, noOutcome, noCancellation]

theorem failed (attempt : Attempt) (failure : Failure) :
    Accounts { events := [.recoverableError attempt failure] } {} :=
  told rfl rfl fun _ => rfl

theorem cons {note : Note} {notes : List Note} {first second : Account}
    (accounts : Accounts (entriesOfNote note) first) (others : Accounts (entriesOf notes) second) :
    Accounts (entriesOf (note :: notes)) (first.append second) :=
  accounts.append others

/-- A note that comes to nothing, before others. -/
theorem cons_nothing {note : Note} {notes : List Note} {account : Account}
    (nothing : Accounts (entriesOfNote note) {}) (others : Accounts (entriesOf notes) account) :
    Accounts (entriesOf (note :: notes)) account := by
  have both := nothing.append others
  rw [Account.nothing_append] at both
  exact both

theorem append_notes {notes others : List Note} {first second : Account}
    (accounts : Accounts (entriesOf notes) first)
    (accountsOthers : Accounts (entriesOf others) second) :
    Accounts (entriesOf (notes ++ others)) (first.append second) := by
  rw [entriesOf_append]
  exact accounts.append accountsOthers

end Accounts

/-! ## Clearing -/

/-- The item stands for a build in a place of the build server. -/
def IsItemIn (item : Item) : BuildPlace → Prop
  | .queue => ∃ id, item.cancel = fun answer => ⟨.cancelQueued id, answer⟩
  | .running => ∃ job number, item.cancel = fun answer => ⟨.stop job number, answer⟩

/-- A build that is cancelled is told to be. -/
theorem accounts_buildCleared {current : Patchsets} {place : BuildPlace} {item : Item}
    {notes : List Note} {part : Cleared} (isItem : IsItemIn item place)
    (cleared : BuildCleared current place item notes part) : Accounts (entriesOf notes) {} := by
  cases cleared with
  | unnamed => exact .nothing
  | unreadable => exact .nothing
  | kept => exact .nothing
  | refused =>
      cases place with
      | queue =>
          obtain ⟨id, cancel⟩ := isItem
          rw [cancel]
          exact .nothing
      | running =>
          obtain ⟨job, number, cancel⟩ := isItem
          rw [cancel]
          exact .nothing
  | cancelled =>
      cases place with
      | queue =>
          obtain ⟨id, cancel⟩ := isItem
          rw [cancel]
          constructor <;> simp [entriesOf, entriesOfNote, Entries.append, Event.frames,
            Event.cancelledIn, Event.outcome?]
      | running =>
          obtain ⟨job, number, cancel⟩ := isItem
          rw [cancel]
          constructor <;> simp [entriesOf, entriesOfNote, Entries.append, Event.frames,
            Event.cancelledIn, Event.outcome?]

theorem accounts_each_buildCleared {current : Patchsets} {place : BuildPlace} {items : List Item}
    {notes : List Note} {parts : List Cleared} (areItems : ∀ item ∈ items, IsItemIn item place)
    (each : Each (BuildCleared current place) items notes parts) :
    Accounts (entriesOf notes) {} := by
  induction each with
  | nil => exact .nothing
  | cons first _ inductionHypothesis =>
      obtain ⟨isItem, areOthers⟩ := List.forall_mem_cons.mp areItems
      exact (accounts_buildCleared isItem first).append_notes (inductionHypothesis areOthers)

theorem accounts_placeCleared {current : Patchsets} {place : BuildPlace}
    {items : Except Failure (List Item)} {notes : List Note} {cleared : Cleared}
    (areItems : ∀ listed, items = .ok listed → ∀ item ∈ listed, IsItemIn item place)
    (placeCleared : PlaceCleared current place items notes cleared) :
    Accounts (entriesOf notes) {} := by
  cases placeCleared with
  | unlisted => exact .nothing
  | listed each => exact accounts_each_buildCleared (areItems _ rfl) each

theorem isItemIn_queuedItems {queue : Except Failure (List QueuedBuild)} {listed : List Item}
    (isListed : queuedItems queue = .ok listed) : ∀ item ∈ listed, IsItemIn item .queue := by
  cases queue with
  | error failure => cases isListed
  | ok builds =>
      cases isListed
      intro item member
      obtain ⟨build, -, rfl⟩ := List.mem_map.mp member
      exact ⟨build.id, rfl⟩

theorem isItemIn_startedItems {job : String} {started : Except Failure (List StartedBuild)}
    {listed : List Item} (isListed : startedItems job started = .ok listed) :
    ∀ item ∈ listed, IsItemIn item .running := by
  cases started with
  | error failure => cases isListed
  | ok builds =>
      cases isListed
      intro item member
      obtain ⟨build, -, rfl⟩ := List.mem_map.mp member
      exact ⟨job, build.number, rfl⟩

theorem accounts_staleCleared {job : String} {current : Patchsets} {notes : List Note}
    {cleared : Cleared} (staleCleared : StaleCleared job current notes cleared) :
    Accounts (entriesOf notes) {} := by
  cases staleCleared with
  | intro queueCleared runningCleared =>
      have inQueue := accounts_placeCleared (fun _ => isItemIn_queuedItems) queueCleared
      have running := accounts_placeCleared (fun _ => isItemIn_startedItems) runningCleared
      refine Accounts.append_notes (.cons_nothing ?_ inQueue) (.cons_nothing ?_ running)
      · exact .nothing
      · exact .nothing

theorem accounts_failures (attempt : Attempt) (failures : List Failure) :
    Accounts (entriesOf (failures.map fun failure => .tell (.recoverableError attempt failure)))
      {} := by
  induction failures with
  | nil => exact .nothing
  | cons failure rest inductionHypothesis =>
      exact .cons_nothing (.failed attempt failure) inductionHypothesis

theorem accounts_failureEvents (outcome : Outcome) :
    Accounts (entriesOf (outcome.failureEvents.map .tell)) {} := by
  cases outcome with
  | dispatched => exact .nothing
  | skipped => exact .nothing
  | errored attempt failure => exact .cons_nothing (.failed attempt failure) .nothing

/-! ## Groups -/

/-- A message that starts in another way reports no rejected set. -/
theorem reportsRejected_eq_false {message : String} {first : Char}
    (starts : message.toList.head? = some first) (other : first ≠ 'f') (reference : String)
    (verified : Bool) : Post.reportsRejected ⟨reference, message, verified⟩ = false := by
  rw [Post.reportsRejected, Bool.eq_false_iff, ne_eq, List.isPrefixOf_iff_prefix]
  rintro ⟨rest, same⟩
  have head : message.toList.head? = some 'f' := by
    rw [← same]
    rfl
  rw [starts] at head
  exact other (Option.some.inj head)

/-- A post that reports no rejected set comes to nothing. -/
theorem accounts_post {message : String} {first : Char}
    (starts : message.toList.head? = some first) (other : first ≠ 'f') (references : List String)
    (verified : Bool) (answer : Except Failure Unit) :
    Accounts (entriesOfNote ⟨.post message references verified, answer⟩) {} := by
  have none : ((acceptedRefs references answer).map fun reference =>
      (⟨reference, message, verified⟩ : Post)).countP (·.reportsRejected) = 0 := by
    rw [List.countP_eq_zero]
    intro post member
    obtain ⟨reference, -, rfl⟩ := List.mem_map.mp member
    rw [reportsRejected_eq_false starts other]
    exact Bool.false_ne_true
  exact { Accounts.nothing with reportedSets := none }

theorem accounts_posted {group : Group} {message : String} {verified : Bool} {attempt : Attempt}
    {reason : SkipReason} {notes : List Note} {outcome : Outcome} {first : Char}
    (starts : message.toList.head? = some first) (other : first ≠ 'f')
    (posted : Posted group message verified attempt reason notes outcome) :
    Accounts (entriesOf notes) {} ∧ outcome.state ≠ .dispatched := by
  obtain ⟨answer, rfl, rfl⟩ := posted
  refine ⟨.cons_nothing (accounts_post starts other _ _ _) (accounts_failureEvents _), ?_⟩
  cases answer with
  | ok => simp [attempted, Outcome.state]
  | error failure => simp [attempted, Outcome.state]

/-- A group that got its build, and no other, has one among those added. -/
theorem accounts_started {job : String} {group : Group} {params : BuildParams}
    {tests : List String} {notes : List Note} {outcome : Outcome}
    (started : Started job group params tests notes outcome) :
    Accounts (entriesOf notes)
      { added := if outcome.state = .dispatched then [⟨job, params⟩] else [] } := by
  obtain ⟨clearing, cleared, answer, isCleared, rfl, rfl⟩ := started
  let outcome := attempted .startBuild (.dispatched tests) answer
  have start : Accounts (entriesOfNote ⟨.start job params, answer⟩)
      { added := if outcome.state = .dispatched then [⟨job, params⟩] else [] } := by
    cases answer with
    | ok => exact { Accounts.nothing with added := rfl }
    | error failure => exact .nothing
  have all := (accounts_staleCleared isCleared).append_notes
    ((accounts_failures .cancelStale cleared.failures).append_notes
      (start.cons (accounts_failureEvents outcome)))
  rw [Account.nothing_append, Account.nothing_append, Account.append_nothing] at all
  exact all

/-- None of the refs of some changes holds a colon. -/
def ColonFree (changes : List Change) : Prop :=
  ∀ change ∈ changes, ':' ∉ change.reference.toList

/-- The report tells of a group that was dispatched. -/
def isDispatched (report : GroupReport) : Bool :=
  report.outcome.state = .dispatched

/-- The build is one for a group on which there is a report: its joined refs fall into as many
pieces as changes took part, if the refs themselves can be told apart. -/
def BuiltFor (toldApart : Prop) (build : AddedBuild) (report : GroupReport) : Prop :=
  toldApart → build.pieces.length = report.changes

theorem length_pieces_paramsFor (job : String) {known : Group} (tests : List String)
    (present : known.members ≠ []) (colonFree : ColonFree known.members) :
    (AddedBuild.pieces ⟨job, paramsFor known tests⟩).length = known.members.length := by
  have references : known.references ≠ [] := by simpa [Group.references] using present
  have noColon : ∀ reference ∈ known.references, ':' ∉ reference.toList := by
    intro reference member
    obtain ⟨change, isMember, rfl⟩ := List.mem_map.mp member
    exact colonFree change isMember
  rw [AddedBuild.pieces, paramsFor, refs_buildParams,
    splitOn_toList_intercalate rfl references noColon]
  simp [Group.references]

/-- Carrying out a verdict adds a build if the group was dispatched, and none otherwise. -/
theorem accounts_carried {settings : Settings} {link : BuildParams → String} {known : Group}
    {notes : List Note} {outcome : Outcome}
    (carried :
      Carried settings.ci.job link known (verdict settings known) notes outcome) :
    ∃ builds, Accounts (entriesOf notes) { added := builds } ∧
      List.Forall₂ (BuiltFor (ColonFree known.members)) builds
        ([⟨known.label, known.members.length, outcome⟩].filter isDispatched) := by
  have unbuilt (accounts : Accounts (entriesOf notes) {} ∧ outcome.state ≠ .dispatched) :
      ∃ builds, Accounts (entriesOf notes) { added := builds } ∧
        List.Forall₂ (BuiltFor (ColonFree known.members)) builds
          ([⟨known.label, known.members.length, outcome⟩].filter isDispatched) := by
    refine ⟨[], accounts.1, ?_⟩
    rw [List.filter_cons_of_neg (by simpa [isDispatched] using accounts.2)]
    exact .nil
  cases decided : verdict settings known with
  | empty =>
      rw [decided] at carried
      obtain ⟨rfl, rfl⟩ := carried
      exact unbuilt ⟨.nothing, by decide⟩
  | optedOut =>
      rw [decided] at carried
      have starts : optedOutMessage.toList.head? = some 'P' := by decide
      exact unbuilt (accounts_posted starts (by decide) carried)
  | noTests =>
      rw [decided] at carried
      have starts : noTestsMessage.toList.head? = some 'N' := by decide
      exact unbuilt (accounts_posted starts (by decide) carried)
  | askPerson params =>
      rw [decided] at carried
      exact unbuilt (accounts_posted (head?_manualMessage (link params)) (by decide) carried)
  | build params tests =>
      rw [decided] at carried
      have present : known.members ≠ [] := by
        intro absent
        rw [verdict_eq_empty absent] at decided
        cases decided
      refine ⟨_, accounts_started carried, ?_⟩
      by_cases dispatched : outcome.state = .dispatched
      · rw [if_pos dispatched, List.filter_cons_of_pos (by simpa [isDispatched] using dispatched),
          eq_paramsFor_of_verdict decided]
        exact .cons (length_pieces_paramsFor _ tests present) .nil
      · rw [if_neg dispatched, List.filter_cons_of_neg (by simpa [isDispatched] using dispatched)]
        exact .nil

/-- A group that is handled leaves its outcome, and a build if it was dispatched. -/
theorem accounts_handled {settings : Settings} {link : BuildParams → String} {group : Group}
    {notes : List Note} {report : GroupReport}
    (handled : Handled settings link group notes report) :
    ∃ builds,
      Accounts (entriesOf notes)
        { outcomes := [(report.group, report.outcome.state)], added := builds } ∧
      List.Forall₂ (BuiltFor (ColonFree group.members)) builds ([report].filter isDispatched) := by
  obtain ⟨carried, isCarried, rfl, isReport⟩ := handled
  obtain ⟨builds, accounts, built⟩ := accounts_carried isCarried
  have told : Accounts
      (entriesOf [.tell (.groupOutcome (considered settings group).label report.outcome.state)])
      { outcomes := [(report.group, report.outcome.state)] } := by
    rw [isReport]
    constructor <;> simp [entriesOf, entriesOfNote, Entries.append, Event.frames,
      Event.cancelledIn, Event.outcome?]
  refine ⟨builds, ?_, ?_⟩
  · simpa [Account.append] using accounts.append_notes told
  · rw [isReport]
    refine built.imp fun build other isBuilt colonFree => isBuilt ?_
    intro change member
    exact colonFree change (List.mem_filter.mp member).1

theorem accounts_each_handled {settings : Settings} {link : BuildParams → String}
    {groups : List Group} {notes : List Note} {reports : List GroupReport}
    (each : Each (Handled settings link) groups notes reports) :
    ∃ builds,
      Accounts (entriesOf notes)
        { outcomes := reports.map fun report => (report.group, report.outcome.state)
          added := builds } ∧
      List.Forall₂ (BuiltFor (∀ group ∈ groups, ColonFree group.members)) builds
        (reports.filter isDispatched) := by
  induction each with
  | nil => exact ⟨[], .nothing, .nil⟩
  | @cons group rest segment notes report reports first _ inductionHypothesis =>
      obtain ⟨builds, accounts, built⟩ := accounts_handled first
      obtain ⟨others, accountsOthers, builtOthers⟩ := inductionHypothesis
      refine ⟨builds ++ others, accounts.append_notes accountsOthers, ?_⟩
      have split : (report :: reports).filter isDispatched =
          [report].filter isDispatched ++ reports.filter isDispatched :=
        List.filter_append [report] reports
      rw [split]
      refine List.rel_append (built.imp ?_) (builtOthers.imp ?_)
      · exact fun _ _ isBuilt colonFree => isBuilt (colonFree group List.mem_cons_self)
      · exact fun _ _ isBuilt colonFree =>
          isBuilt fun other member => colonFree other (List.mem_cons_of_mem group member)

/-! ## Rejected sets and landing -/

theorem reportsRejected_rejectedMessage (rejected : RejectedSet) (reference : String)
    (verified : Bool) :
    Post.reportsRejected ⟨reference, rejectedMessage rejected, verified⟩ = true := by
  have regroup (start first second third last : String) :
      start ++ first ++ second ++ third ++ last =
        start ++ (first ++ (second ++ (third ++ last))) := by
    simp only [String.append_assoc]
  have split : rejectedMessage rejected =
      rejectionStart ++ (rejected.change.reference ++
        (":\n" ++ (rejected.issue.message ++ "\n"))) := regroup _ _ _ _ _
  rw [Post.reportsRejected, List.isPrefixOf_iff_prefix, split, String.toList_append]
  exact List.prefix_append _ _

/-- A set is reported in one post, or in none if that is refused. -/
theorem accounts_reported {rejected : RejectedSet} {notes : List Note} {posted : Bool}
    (reported : Reported rejected notes posted) :
    Accounts (entriesOf notes) { reportedSets := [posted].countP id } := by
  cases reported with
  | posted =>
      constructor <;> simp [entriesOf, entriesOfNote, Entries.append, acceptedRefs,
        reportsRejected_rejectedMessage]
  | refused failure =>
      refine .cons_nothing ?_ (.cons_nothing (.failed .reportRejected failure) .nothing)
      constructor <;> simp [entriesOfNote, acceptedRefs_singleton]

theorem accounts_each_reported {sets : List RejectedSet} {notes : List Note} {posted : List Bool}
    (each : Each Reported sets notes posted) :
    Accounts (entriesOf notes) { reportedSets := posted.countP id } := by
  induction each with
  | nil => exact .nothing
  | @cons _ _ _ _ isPosted others first _ inductionHypothesis =>
      have both := (accounts_reported first).append_notes inductionHypothesis
      rw [Account.append, ← List.countP_append] at both
      exact both

/-- Where all groups land, all their refs are submitted. -/
theorem accounts_landed {groups : List Group} {notes : List Note} {answer : Except Failure Nat}
    (landed : Landed groups notes answer) :
    ∃ submits, Accounts (entriesOf notes) { submits } ∧
      ∀ count, answer = .ok count → submits.length = count := by
  induction landed with
  | nil =>
      refine ⟨[], .nothing, ?_⟩
      intro count isCount
      exact Except.ok.inj isCount
  | refused group rest failure =>
      refine ⟨acceptedRefs group.references (.error failure), ?_, ?_⟩
      · constructor <;> simp [entriesOf, entriesOfNote, Entries.append]
      · intro count isCount
        cases isCount
  | @landed group rest notes answer _ inductionHypothesis =>
      obtain ⟨submits, accounts, counted⟩ := inductionHypothesis
      have submitted : Accounts (entriesOfNote ⟨.submit group.references, .ok ()⟩)
          { submits := group.references } := by
        constructor <;> simp [entriesOfNote, acceptedRefs]
      have told : Accounts (entriesOfNote (.tell (.groupSubmitted group.label))) {} :=
        .told rfl rfl fun _ => rfl
      refine ⟨group.references ++ submits, submitted.cons (.cons_nothing told accounts), ?_⟩
      intro count isCount
      cases answer with
      | error failure => cases isCount
      | ok others =>
          rw [List.length_append, counted others rfl, ← Except.ok.inj isCount]
          simp [Group.references]

/-! ## Rounds -/

theorem accounts_looked {settings : Settings} {notes : List Note} {failed : Bool}
    (looked : Looked settings notes failed) : Accounts (entriesOf notes) {} := by
  cases looked with
  | disabled => exact .nothing
  | answered => exact .nothing
  | unanswered _ failure =>
      refine .cons_nothing ?_ (.cons_nothing (.failed .readStatus failure) .nothing)
      exact .nothing

/-- The events that end a round: why it stopped early, if it did, and its counters. A round that
fails just breaks off. -/
def endingEvents : Except Failure Report → List Event
  | .ok report => report.stopped.toList.map .runSkipped ++ [report.finishedEvent]
  | .error _ => []

/-- The notes come to an account, apart from the events that end the round. -/
def Ends (notes : List Note) (answer : Except Failure Report) (account : Account) : Prop :=
  ∃ entries, entriesOf notes = entries.append { events := endingEvents answer } ∧
    Accounts entries account

theorem Ends.append {notes others : List Note} {answer : Except Failure Report}
    {first second : Account} (accounts : Accounts (entriesOf notes) first)
    (ends : Ends others answer second) : Ends (notes ++ others) answer (first.append second) := by
  obtain ⟨entries, isEntries, accountsOthers⟩ := ends
  refine ⟨(entriesOf notes).append entries, ?_, accounts.append accountsOthers⟩
  rw [entriesOf_append, isEntries]
  simp only [Entries.append, List.append_assoc]

/-- Notes that come to nothing change no account. -/
theorem Ends.append_nothing {notes others : List Note} {answer : Except Failure Report}
    {account : Account} (accounts : Accounts (entriesOf notes) {})
    (ends : Ends others answer account) : Ends (notes ++ others) answer account := by
  have both := Ends.append accounts ends
  rw [Account.nothing_append] at both
  exact both

theorem ends_of_error {notes : List Note} {account : Account}
    (accounts : Accounts (entriesOf notes) account) (failure : Failure) :
    Ends notes (.error failure) account :=
  ⟨entriesOf notes, by simp [Entries.append, endingEvents], accounts⟩

theorem ends_stopped (reason : StopReason) :
    Ends (stopped reason) (.ok { stopped := some reason }) {} :=
  ⟨{}, rfl, .nothing⟩

theorem ends_finished {report : Report} (unstopped : report.stopped = none) :
    Ends [.tell report.finishedEvent] (.ok report) {} :=
  ⟨{}, by simp [entriesOf, entriesOfNote, Entries.append, endingEvents, unstopped], .nothing⟩

/-- The report tells what the account does. -/
structure Fits (toldApart : Prop) (report : Report) (account : Account) : Prop where
  outcomes : account.outcomes = report.groups.map fun group => (group.group, group.outcome.state)
  built : List.Forall₂ (BuiltFor toldApart) account.added (report.groups.filter isDispatched)
  submitted : account.submits.length = report.submitted
  reportedSets : account.reportedSets = report.reportedSets
  idle : ∀ reason, report.stopped = some reason → report = { stopped := some reason }

theorem fits_stopped (toldApart : Prop) (reason : StopReason) :
    Fits toldApart { stopped := some reason } {} where
  outcomes := rfl
  built := .nil
  submitted := rfl
  reportedSets := rfl
  idle _ isReason := by cases isReason; rfl

/-- The notes of a round that looked at the last build come to an account in which each dispatched
group has its build, and the report, if there is one, fits it. -/
def Settled (toldApart : Prop) (notes : List Note) (answer : Except Failure Report) : Prop :=
  ∃ account, Ends notes answer account ∧
    account.added.length = account.outcomes.countP (·.2 = .dispatched) ∧
    ∀ report, answer = .ok report → Fits toldApart report account

theorem Settled.append {toldApart : Prop} {notes others : List Note}
    {answer : Except Failure Report} (accounts : Accounts (entriesOf notes) {})
    (settled : Settled toldApart others answer) : Settled toldApart (notes ++ others) answer := by
  obtain ⟨account, ends, dispatched, fits⟩ := settled
  exact ⟨account, .append_nothing accounts ends, dispatched, fits⟩

theorem settled_of_error {notes : List Note} (toldApart : Prop)
    (accounts : Accounts (entriesOf notes) {}) (failure : Failure) :
    Settled toldApart notes (.error failure) := by
  refine ⟨{}, ends_of_error accounts failure, rfl, ?_⟩
  intro report finished
  cases finished

theorem settled_stopped (toldApart : Prop) (reason : StopReason) :
    Settled toldApart (stopped reason) (.ok { stopped := some reason }) := by
  refine ⟨{}, ends_stopped reason, rfl, ?_⟩
  intro report finished
  rw [← Except.ok.inj finished]
  exact fits_stopped toldApart reason

/-- From the record on, some refs are submitted, and a report tells how many. -/
theorem ends_concluded {changes : List Change} {groups : List GroupReport} {reportedSets : Nat}
    {notes : List Note} {answer : Except Failure Report}
    (concluded : Concluded changes groups reportedSets notes answer) :
    ∃ submits, Ends notes answer { submits } ∧
      ∀ report, answer = .ok report →
        report = { groups, submitted := submits.length, reportedSets } := by
  have writes (written : Except FileError Unit) :
      Accounts (entriesOf [⟨.replace (recordBytes changes), written⟩]) {} := .nothing
  cases concluded with
  | unwritten cause =>
      refine ⟨[], ends_of_error (writes _) _, ?_⟩
      intro report finished
      cases finished
  | unlanded landed =>
      obtain ⟨submits, accounts, -⟩ := accounts_landed landed
      refine ⟨submits, .append_nothing (writes _) (ends_of_error accounts _), ?_⟩
      intro report finished
      cases finished
  | @finished notes submitted landed =>
      obtain ⟨submits, accounts, counted⟩ := accounts_landed landed
      have finishes : Ends [.tell (Report.finishedEvent { groups, submitted, reportedSets })]
          (.ok { groups, submitted, reportedSets }) {} := ends_finished rfl
      have ends := Ends.append accounts finishes
      rw [Account.append_nothing] at ends
      have all := Ends.append_nothing (writes (.ok ())) ends
      refine ⟨submits, all, ?_⟩
      intro report finished
      rw [counted _ rfl]
      exact (Except.ok.inj finished).symm

/-- What is new is found among the open changes. -/
theorem colonFree_fresh {changes : List Change} (colonFree : ColonFree changes)
    (seen : Patchsets) :
    ∀ group ∈ ((Grouping.ofChanges changes).fresh seen).groups, ColonFree group.members := by
  intro group isFresh change member
  obtain ⟨-, listed, -⟩ :=
    Grouping.of_mem_memberLists_fresh (Grouping.mem_memberLists_of_mem_groups isFresh)
  have grouped : change ∈ (Grouping.ofChanges changes).members := by
    rw [← Grouping.flatten_memberLists]
    exact List.mem_flatten.mpr ⟨_, listed, member⟩
  have found := (Grouping.perm_members_ofChanges changes).mem_iff.mp grouped
  exact colonFree change (List.mem_filter.mp found).1

theorem settled_proceeded {settings : Settings} {link : BuildParams → String} {seen : Patchsets}
    {changes : List Change} {notes : List Note} {answer : Except Failure Report}
    (proceeded : Proceeded settings link seen changes notes answer) :
    Settled (ColonFree changes) notes answer := by
  have writes (written : Except FileError Unit) :
      Accounts (entriesOf [⟨.replace (recordBytes changes), written⟩]) {} := .nothing
  cases proceeded with
  | unwritten _ cause => exact settled_of_error _ (writes _) _
  | @stopped reason _ => exact .append (writes _) (settled_stopped _ reason)
  | @compared reports handling ending posted groups _ _ reported handled concluded =>
      have reportAccounts := accounts_each_reported reported
      obtain ⟨builds, handlingAccounts, built⟩ := accounts_each_handled handled
      obtain ⟨submits, ends, isReport⟩ := ends_concluded concluded
      have all := Ends.append (reportAccounts.append_notes handlingAccounts) ends
      refine ⟨_, all, ?_, ?_⟩
      · simp only [Account.append, List.nil_append, List.append_nil]
        rw [built.length_eq, List.countP_map, ← List.countP_eq_length_filter]
        rfl
      · intro report finished
        rw [isReport report finished]
        constructor
        case outcomes => simp [Account.append]
        case built =>
          simp only [Account.append, List.nil_append, List.append_nil]
          exact built.imp fun _ _ isBuilt colonFree => isBuilt (colonFree_fresh colonFree seen)
        case submitted => simp [Account.append]
        case reportedSets => simp [Account.append]
        case idle =>
          intro reason isStopped
          cases isStopped

theorem Settled.imp {toldApart other : Prop} {notes : List Note} {answer : Except Failure Report}
    (settled : Settled toldApart notes answer) (implies : other → toldApart) :
    Settled other notes answer := by
  obtain ⟨account, ends, dispatched, fits⟩ := settled
  refine ⟨account, ends, dispatched, ?_⟩
  intro report finished
  have fit := fits report finished
  exact { fit with built := fit.built.imp fun _ _ isBuilt holds => isBuilt (implies holds) }

/-- The refs of the changes that the queries of some notes found can be told apart. -/
def FindsColonFree (notes : List Note) : Prop :=
  ∀ text changes, ⟨.query text, .ok changes⟩ ∈ notes → ColonFree changes

theorem settled_compared {settings : Settings} {link : BuildParams → String} {notes : List Note}
    {answer : Except Failure Report} (compared : Compared settings link notes answer) :
    Settled (FindsColonFree notes) notes answer := by
  cases compared with
  | unreadable =>
      refine settled_of_error _ ?_ _
      exact .nothing
  | unanswered =>
      refine settled_of_error _ ?_ _
      exact .nothing
  | @proceeded content seen changes rest _ _ proceeded =>
      have reads : Accounts (entriesOf
          [⟨.read, content⟩, ⟨.query settings.review.query, .ok changes⟩]) {} := .nothing
      apply Settled.append reads
      apply (settled_proceeded proceeded).imp
      intro colonFree
      exact colonFree settings.review.query changes (List.mem_cons_of_mem _ List.mem_cons_self)

theorem settled_ran {settings : Settings} {path : String} {link : BuildParams → String}
    {notes : List Note} {answer : Except Failure Report}
    (ran : Ran settings path link notes answer) :
    ∃ later, notes = .tell (.runStarted settings.review.query path) :: later ∧
      Settled (FindsColonFree notes) later answer := by
  cases ran with
  | red looked =>
      exact ⟨_, rfl, .append (accounts_looked looked) (settled_stopped _ .lastBuildFailed)⟩
  | @compared looked rest _ running compared =>
      refine ⟨_, rfl, .append (accounts_looked running) ?_⟩
      apply (settled_compared compared).imp
      intro colonFree text changes member
      exact colonFree text changes
        (List.mem_cons_of_mem _ (List.mem_append_right looked member))

/-! ## The three accounts of a round -/

/-- How many changes took part in the groups that some reports tell of. -/
def changesOf (reports : List GroupReport) : Nat :=
  (reports.map (·.changes)).foldr (· + ·) 0

/-- What a round reported, the entries that it added to the records of the servers, and its
events. -/
structure AccountsAgree (settings : Settings) (path : String) (world : World)
    (answer : Except Failure Report) (after : World) (entries : Entries) : Prop where
  adds : Adds world entries after
  /-- A round tells that it starts, and at its end why it stopped early, if it did, and its
  counters. In between it tells no such thing. A round that fails just breaks off. -/
  framed : ∃ middle,
    entries.events = .runStarted settings.review.query path :: middle ++ endingEvents answer ∧
      ∀ event ∈ middle, event.frames = false
  /-- It is told that a round stopped early exactly when its report says so. -/
  toldStopped : ∀ report, answer = .ok report → ∀ reason,
    .runSkipped reason ∈ entries.events ↔ report.stopped = some reason
  /-- As many builds are told to be cancelled as the build server took out of its queue. -/
  cancelledQueued :
    entries.events.countP (·.cancelledIn .queue) = entries.cancelledQueued.length
  /-- As many running builds are told to be cancelled as it stopped. -/
  stopped : entries.events.countP (·.cancelledIn .running) = entries.stopped.length
  /-- One build is added for each group that is told to be dispatched. -/
  dispatched : entries.added.length =
    (entries.events.filterMap (·.outcome?)).countP (·.2 = .dispatched)
  /-- The outcomes that are told are those of the report, in order. -/
  outcomes : ∀ report, answer = .ok report → entries.events.filterMap (·.outcome?) =
    report.groups.map fun group => (group.group, group.outcome.state)
  /-- The groups of the report are dispatched, skipped or in error, and each dispatched one has its
  build. -/
  counted : ∀ report, answer = .ok report →
    let groups := report.groups
    entries.added.length = groups.countP (·.outcome.state = .dispatched) ∧
      report.skipped = groups.countP (·.outcome.state = .skipped) ∧
      report.errored = groups.countP (·.outcome.state = .errored) ∧
      entries.added.length + report.skipped + report.errored = groups.length
  /-- What was sent are the changes of dispatched groups, and the refs that the added builds name
  where no ref holds a colon. -/
  sent : ∀ report, answer = .ok report →
    report.sent = changesOf (report.groups.filter isDispatched) ∧
      (ColonFree world.review.changes →
        report.sent = (entries.added.flatMap (·.pieces)).length)
  submitted : ∀ report, answer = .ok report → report.submitted = entries.submits.length
  /-- Reported sets are counted by the posts that were made of them. -/
  reportedSets : ∀ report, answer = .ok report →
    report.reportedSets = entries.posts.countP (·.reportsRejected)
  /-- A round that stopped early reports on nothing. -/
  idle : ∀ report, answer = .ok report → report.stopped ≠ none →
    report.groups = [] ∧ report.sent = 0 ∧ report.skipped = 0 ∧ report.errored = 0 ∧
      report.submitted = 0 ∧ report.reportedSets = 0

theorem count_states (groups : List GroupReport) :
    groups.countP (·.outcome.state = .dispatched) + groups.countP (·.outcome.state = .skipped) +
      groups.countP (·.outcome.state = .errored) = groups.length := by
  induction groups with
  | nil => rfl
  | cons group rest inductionHypothesis =>
      rw [List.length_cons, ← inductionHypothesis]
      cases state : group.outcome.state <;> simp [state] <;> omega

theorem length_flatMap_pieces {builds : List AddedBuild} {reports : List GroupReport}
    {toldApart : Prop} (built : List.Forall₂ (BuiltFor toldApart) builds reports)
    (holds : toldApart) :
    (builds.flatMap (·.pieces)).length = changesOf reports := by
  induction built with
  | nil => rfl
  | cons first _ inductionHypothesis =>
      rw [List.flatMap_cons, List.length_append, first holds, inductionHypothesis]
      rfl

theorem sent_eq (report : Report) :
    report.sent = changesOf (report.groups.filter isDispatched) := by
  rw [Report.sent, changesOf, List.foldr_map]
  rfl

namespace Fits

variable {toldApart : Prop} {report : Report} {account : Account}

/-- One build is added for each dispatched group, and every group is counted. -/
theorem counted (fits : Fits toldApart report account) :
    account.added.length = report.groups.countP (·.outcome.state = .dispatched) ∧
      report.skipped = report.groups.countP (·.outcome.state = .skipped) ∧
      report.errored = report.groups.countP (·.outcome.state = .errored) ∧
      account.added.length + report.skipped + report.errored = report.groups.length := by
  have added : account.added.length =
      report.groups.countP (·.outcome.state = .dispatched) := by
    rw [fits.built.length_eq, ← List.countP_eq_length_filter]
    rfl
  refine ⟨added, rfl, rfl, ?_⟩
  rw [added]
  exact count_states report.groups

/-- What was sent is told apart among the builds that were added. -/
theorem sent (fits : Fits toldApart report account) :
    report.sent = changesOf (report.groups.filter isDispatched) ∧
      (toldApart → report.sent = (account.added.flatMap (·.pieces)).length) := by
  refine ⟨sent_eq report, ?_⟩
  intro holds
  rw [sent_eq, length_flatMap_pieces fits.built holds]

end Fits

/-! ## The frame of a round -/

/-- The entries of a round: those that some notes leave, between the event that starts the round
and the events that end it. -/
def framed (middle : Entries) (query path : String) (answer : Except Failure Report) : Entries :=
  { middle with events := .runStarted query path :: middle.events ++ endingEvents answer }

section
variable {middle : Entries} {query path : String} {answer : Except Failure Report}

theorem entriesOf_eq_framed {notes : List Note}
    (isMiddle : entriesOf notes = middle.append { events := endingEvents answer }) :
    entriesOf (.tell (.runStarted query path) :: notes) = framed middle query path answer := by
  change Entries.append { events := [.runStarted query path] } (entriesOf notes) = _
  rw [isMiddle]
  simp [Entries.append, framed]

/-- The events that end a round tell neither outcomes nor cancellations. -/
theorem endingEvents_quiet (answer : Except Failure Report) :
    (endingEvents answer).filterMap (·.outcome?) = [] ∧
      ∀ place, (endingEvents answer).countP (·.cancelledIn place) = 0 := by
  cases answer with
  | error failure => exact ⟨rfl, fun _ => rfl⟩
  | ok report =>
      rw [endingEvents]
      cases report.stopped with
      | none => exact ⟨rfl, fun _ => rfl⟩
      | some reason => exact ⟨rfl, fun _ => rfl⟩

theorem outcomes_framed : (framed middle query path answer).events.filterMap (·.outcome?) =
    middle.events.filterMap (·.outcome?) := by
  rw [framed, List.filterMap_append, List.filterMap_cons_none rfl, (endingEvents_quiet answer).1,
    List.append_nil]

theorem cancellations_framed (place : BuildPlace) :
    (framed middle query path answer).events.countP (·.cancelledIn place) =
      middle.events.countP (·.cancelledIn place) := by
  have noStart : ¬ (Event.runStarted query path).cancelledIn place = true := Bool.false_ne_true
  rw [framed, List.countP_append, List.countP_cons_of_neg noStart,
    (endingEvents_quiet answer).2 place, Nat.add_zero]

/-- Among the events of a round only those that end it tell that it stopped early. -/
theorem runSkipped_mem_framed {report : Report}
    (unframed : ∀ event ∈ middle.events, event.frames = false) (reason : StopReason) :
    .runSkipped reason ∈ (framed middle query path (.ok report)).events ↔
      report.stopped = some reason := by
  have notMiddle : Event.runSkipped reason ∉ middle.events := fun member => by
    cases unframed _ member
  simp [framed, notMiddle, endingEvents, Report.finishedEvent]

/-- Entries that come to an account agree with a report that fits it. -/
theorem accountsAgree_framed {settings : Settings} {toldApart : Prop} {world after : World}
    {account : Account}
    (adds : Adds world (framed middle settings.review.query path answer) after)
    (accounts : Accounts middle account)
    (dispatched : account.added.length = account.outcomes.countP (·.2 = .dispatched))
    (fits : ∀ report, answer = .ok report → Fits toldApart report account)
    (holds : ColonFree world.review.changes → toldApart) :
    AccountsAgree settings path world answer after
      (framed middle settings.review.query path answer) where
  adds := adds
  framed := ⟨middle.events, rfl, accounts.unframed⟩
  toldStopped := by
    intro report finished reason
    rw [finished]
    exact runSkipped_mem_framed accounts.unframed reason
  cancelledQueued := by
    rw [cancellations_framed, accounts.cancelledQueued]
    rfl
  stopped := by
    rw [cancellations_framed, accounts.stopped]
    rfl
  dispatched := by
    rw [outcomes_framed, accounts.outcomes, ← dispatched, ← accounts.added]
    rfl
  outcomes := by
    intro report finished
    rw [outcomes_framed, accounts.outcomes, (fits report finished).outcomes]
  counted := by
    intro report finished
    have counted := (fits report finished).counted
    rw [← accounts.added] at counted
    exact counted
  sent := by
    intro report finished
    obtain ⟨isSum, isLength⟩ := (fits report finished).sent
    rw [← accounts.added] at isLength
    exact ⟨isSum, fun colonFree => isLength (holds colonFree)⟩
  submitted := by
    intro report finished
    rw [← (fits report finished).submitted, ← accounts.submits]
    rfl
  reportedSets := by
    intro report finished
    rw [← (fits report finished).reportedSets, ← accounts.reportedSets]
    rfl
  idle := by
    intro report finished isStopped
    obtain ⟨reason, isReason⟩ := Option.ne_none_iff_exists'.mp isStopped
    rw [(fits report finished).idle reason isReason]
    exact ⟨rfl, rfl, rfl, rfl, rfl, rfl⟩

end

/-- Whatever the servers hold and wherever they fail, what a round reports, what it did and what it
told agree. -/
theorem accountsAgree_run (settings : Settings) (path : String) (world : World) :
    let (answer, after) := (run settings (services path)).run world
    ∃ entries, AccountsAgree settings path world answer after entries := by
  let done := follow (run settings (services path).noted) world
  have replays : Replays (services path) world done.notes done.after :=
    replays_run (services path) settings world
  have ran : Ran settings path (manualLink settings.ci.job) done.notes done.answer :=
    (yields_run (services path) settings).tells world
  have colonFree : ColonFree world.review.changes → FindsColonFree done.notes := by
    intro holds text changes member
    rw [changes_of_replays replays member]
    exact holds
  obtain ⟨later, isNotes, account, ⟨middle, isLater, accounts⟩, dispatched, fits⟩ :=
    settled_ran ran
  have isEntries : entriesOf done.notes =
      framed middle settings.review.query path done.answer := by
    rw [isNotes, entriesOf_eq_framed isLater]
  have adds := adds_of_replays replays
  rw [isEntries] at adds
  rw [run_eq_follow]
  exact ⟨_, accountsAgree_framed adds accounts dispatched fits colonFree⟩

end ChangeGate.Memory
