import ChangeGate.Proofs.Round.Handling
import ChangeGate.Proofs.Round.Trace

/-!
# What a round posts

Every message of a round is one of four: on a rejected set, on a group that opted out of tests, on
one without tests, and on one whose build a person is to start, with a link to do so.
-/

namespace ChangeGate.Round

open ChangeGate.Ci ChangeGate.Review ChangeGate.Service ChangeGate.Round.Trace

/-- The messages of a round whose links are made in this way. -/
inductive Message (link : BuildParams → String) : String → Prop where
  | rejected (rejected : RejectedSet) : Message link (rejectedMessage rejected)
  | optedOut : Message link optedOutMessage
  | noTests : Message link noTestsMessage
  | manual (params : BuildParams) : Message link (manualMessage (link params))

/-- Texts between the same two texts are the same if the whole texts are. -/
theorem eq_of_between (before after : String) {text other : String}
    (same : before ++ text ++ after = before ++ other ++ after) : text = other := by
  rwa [String.append_left_inj, String.append_right_inj] at same

/-- A message that asks a person tells where to start the build. -/
theorem manualMessage_injective {link other : String}
    (same : manualMessage link = manualMessage other) : link = other :=
  eq_of_between _ _ same

/-- No message of a round has an empty link if no link is empty. -/
theorem Message.ne_manualMessage {link : BuildParams → String} (present : ∀ params, link params ≠ "")
    {message : String} (isMessage : Message link message) : message ≠ manualMessage "" := by
  cases isMessage with
  | rejected rejected =>
      exact (ne_rejectedMessage (head?_manualMessage "") (by decide) rejected).symm
  | optedOut => decide
  | noTests => decide
  | manual params => exact fun same => present params (manualMessage_injective same)

/-- All messages that are posted are of a kind. -/
def PostsOnly (allowed : String → Prop) (notes : List Note) : Prop :=
  ∀ note ∈ notes, ∀ message references verified,
    note.call = .post message references verified → allowed message

namespace PostsOnly

variable {allowed : String → Prop} {notes others : List Note}

@[simp] theorem nil : PostsOnly allowed [] := by simp [PostsOnly]

@[simp] theorem append_iff :
    PostsOnly allowed (notes ++ others) ↔ PostsOnly allowed notes ∧ PostsOnly allowed others :=
  List.forall_mem_append

@[simp] theorem cons_iff {note : Note} :
    PostsOnly allowed (note :: notes) ↔
      (∀ message references verified, note.call = .post message references verified →
        allowed message) ∧ PostsOnly allowed notes :=
  List.forall_mem_cons

@[simp] theorem tell (events : List Event) : PostsOnly allowed (events.map .tell) := by
  simp [PostsOnly]

theorem of_each {α β : Type} {Of : α → List Note → β → Prop} {items : List α} {results : List β}
    (each : Each Of items notes results)
    (posts : ∀ item ∈ items, ∀ segment result, Of item segment result → PostsOnly allowed segment) :
    PostsOnly allowed notes := by
  intro note member
  obtain ⟨item, isItem, segment, result, holds, isNote⟩ := each.exists_of_mem member
  exact posts item isItem segment result holds note isNote

theorem of_placeCleared {current : Patchsets} {place : BuildPlace}
    {listing : Except Failure (List Item)} {cleared : Cleared}
    (isCleared : PlaceCleared current place listing notes cleared)
    (cancels : ∀ items, listing = .ok items → ∀ item ∈ items, ∀ answer,
      PostsOnly allowed [item.cancel answer]) :
    PostsOnly allowed notes := by
  cases isCleared with
  | unlisted => exact nil
  | listed each =>
      refine of_each each ?_
      intro item member segment result holds
      have cancels := cancels _ rfl item member
      cases holds with
      | unnamed | unreadable | kept => exact nil
      | refused => exact cancels _
      | cancelled => simpa using cancels (.ok ())

end PostsOnly

/-- The items of a queue are cancelled as queued builds. -/
theorem exists_of_queuedItems {queue : Except Failure (List QueuedBuild)} {items : List Item}
    (isQueue : queuedItems queue = .ok items) :
    ∀ item ∈ items, ∃ build, item = Item.queued build := by
  cases queue with
  | error failure => cases isQueue
  | ok builds =>
      cases isQueue
      simp only [List.mem_map]
      rintro _ ⟨build, -, rfl⟩
      exact ⟨build, rfl⟩

/-- The items of a list of builds are cancelled as builds of their job. -/
theorem exists_of_startedItems {job : String} {started : Except Failure (List StartedBuild)}
    {items : List Item} (isStarted : startedItems job started = .ok items) :
    ∀ item ∈ items, ∃ build, item = Item.started job build := by
  cases started with
  | error failure => cases isStarted
  | ok builds =>
      cases isStarted
      simp only [List.mem_map]
      rintro _ ⟨build, -, rfl⟩
      exact ⟨build, rfl⟩

section
variable {link : BuildParams → String} {settings : Settings} {notes : List Note}

/-- Starting a build posts nothing. -/
theorem postsOnly_of_started {allowed : String → Prop} {job : String} {group : Group}
    {params : BuildParams} {tests : List String} {outcome : Outcome}
    (started : Started job group params tests notes outcome) : PostsOnly allowed notes := by
  obtain ⟨_, cleared, answer, ⟨queueCleared, runningCleared⟩, -, rfl⟩ := started
  have queue : PostsOnly allowed _ := .of_placeCleared queueCleared
    fun items isQueue item member answer => by
      obtain ⟨build, rfl⟩ := exists_of_queuedItems isQueue item member
      simp [Item.queued]
  have running : PostsOnly allowed _ := .of_placeCleared runningCleared
    fun items isStarted item member answer => by
      obtain ⟨build, rfl⟩ := exists_of_startedItems isStarted item member
      simp [Item.started]
  have complain : ∀ failures, PostsOnly allowed (complaints failures) := by
    intro failures
    rw [complaints_eq]
    exact .tell _
  simp [queue, running, complain]

theorem postsOnly_of_posted {group : Group} {message : String} {verified : Bool} {attempt : Attempt}
    {reason : SkipReason} {outcome : Outcome} (isMessage : Message link message)
    (posted : Posted group message verified attempt reason notes outcome) :
    PostsOnly (Message link) notes := by
  obtain ⟨answer, -, rfl⟩ := posted
  simp [isMessage]

theorem postsOnly_of_handled {group : Group} {report : GroupReport}
    (handled : Handled settings link group notes report) : PostsOnly (Message link) notes := by
  obtain ⟨carried, isCarried, rfl, -⟩ := handled
  have posts : PostsOnly (Message link) carried := by
    cases isVerdict : verdict settings (considered settings group) with
    | empty =>
        rw [isVerdict] at isCarried
        rw [isCarried.1]
        exact .nil
    | optedOut =>
        rw [isVerdict] at isCarried
        exact postsOnly_of_posted .optedOut isCarried
    | noTests =>
        rw [isVerdict] at isCarried
        exact postsOnly_of_posted .noTests isCarried
    | askPerson params =>
        rw [isVerdict] at isCarried
        exact postsOnly_of_posted (.manual params) isCarried
    | build params tests =>
        rw [isVerdict] at isCarried
        exact postsOnly_of_started isCarried
  simp [posts]

theorem postsOnly_of_reported {rejected : RejectedSet} {posted : Bool}
    (reported : Reported rejected notes posted) : PostsOnly (Message link) notes := by
  cases reported with
  | posted => simp [Message.rejected]
  | refused => simp [Message.rejected]

theorem postsOnly_of_landed {allowed : String → Prop} {groups : List Group}
    {answer : Except Failure Nat} (landed : Landed groups notes answer) :
    PostsOnly allowed notes := by
  induction landed with
  | nil => exact .nil
  | refused => simp
  | landed _ inductionHypothesis => simpa using inductionHypothesis

theorem postsOnly_of_proceeded {seen : Patchsets} {changes : List Change}
    {answer : Except Failure Report} (proceeded : Proceeded settings link seen changes notes answer) :
    PostsOnly (Message link) notes := by
  cases proceeded with
  | unwritten => simp
  | stopped => simp [stopped]
  | compared compares reported handled concluded =>
      have reports : PostsOnly (Message link) _ :=
        .of_each reported fun _ _ _ _ => postsOnly_of_reported
      have groups : PostsOnly (Message link) _ :=
        .of_each handled fun _ _ _ _ => postsOnly_of_handled
      cases concluded with
      | unwritten => simp [reports, groups]
      | unlanded landed => simp [reports, groups, postsOnly_of_landed landed]
      | finished landed => simp [reports, groups, postsOnly_of_landed landed]

/-- A round posts messages of its kinds only. -/
theorem postsOnly_of_ran {path : String} {answer : Except Failure Report}
    (ran : Ran settings path link notes answer) : PostsOnly (Message link) notes := by
  have looks : ∀ {looked failed}, Looked settings looked failed → PostsOnly (Message link) looked := by
    intro looked failed isLooked
    cases isLooked with
    | disabled => exact .nil
    | answered => simp
    | unanswered => simp
  cases ran with
  | red failed => simp [looks failed, stopped]
  | @compared looked notes answer running compared =>
      have compares : PostsOnly (Message link) notes := by
        cases compared with
        | unreadable => simp
        | unanswered => simp
        | proceeded _ proceeded => simpa using postsOnly_of_proceeded proceeded
      simp [looks running, compares]

end

end ChangeGate.Round
