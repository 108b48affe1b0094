import ChangeGate.Memory.Session
import ChangeGate.Proofs.Round.Log
import Mathlib.Logic.Function.Iterate

/-!
# The log as a store

The log over any history of what is done to it. Reading it changes nothing, and neither does a write
that fails. A write that succeeds puts the lines of one record into it, and that record is read from
then on, until something else is put there.
-/

namespace ChangeGate.SeenLog

open ChangeGate.Review

/-- The bytes of a log with some refs: the text of each of them on a line of its own. -/
def lines (refs : List ChangeRef) : ByteArray :=
  (String.ofList (refs.flatMap fun ref => ref.text.toList ++ ['\n'])).toUTF8

/-- Some refs are those of the changes that can be fetched: each number that they have comes once,
by rising number and with the highest patchset that is listed for it. -/
structure Lists (changes : List Change) (refs : List ChangeRef) : Prop where
  rising : refs.Pairwise fun ref other => ref.number < other.number
  mem_iff : ∀ ref, ref ∈ refs ↔
    (∃ change ∈ changes, change.reference ≠ "" ∧ change.ref = ref) ∧
      ∀ change ∈ changes, change.reference ≠ "" → change.number = ref.number →
        change.patchset ≤ ref.patchset

/-- The record of some changes lists them. -/
theorem lists_record (changes : List Change) : Lists changes (record changes).refs where
  rising := (record changes).refs_pairwise
  mem_iff ref := by
    rw [Patchsets.mem_refs_iff, record, Patchsets.getElem?_highest_eq_some_iff]
    simp only [List.mem_map, List.mem_filter, Change.fetchable_iff]
    constructor
    · rintro ⟨⟨change, ⟨member, present⟩, isRef⟩, isHighest⟩
      refine ⟨⟨change, member, present, isRef⟩, ?_⟩
      intro other otherMember otherPresent same
      refine isHighest other.patchset ⟨other, ⟨otherMember, otherPresent⟩, ?_⟩
      rw [Change.ref, same]
    · rintro ⟨⟨change, member, present, isRef⟩, isHighest⟩
      refine ⟨⟨change, ⟨member, present⟩, isRef⟩, ?_⟩
      rintro patchset ⟨other, ⟨otherMember, otherPresent⟩, isOther⟩
      obtain ⟨sameNumber, samePatchset⟩ := ChangeRef.mk.inj isOther
      exact samePatchset ▸ isHighest other otherMember otherPresent sameNumber

end ChangeGate.SeenLog

namespace ChangeGate.Memory

open ChangeGate.Review ChangeGate.SeenLog

namespace LogFile

/-- The content of the file that the log is, if it is one. -/
def content? : LogFile → Option ByteArray
  | .file content => some content
  | .locked content _ => some content
  | _ => none

/-- The log is written where it is a file that can be replaced, and where there is none but one can
be put. -/
theorem replace_ok_iff {log : LogFile} (content : ByteArray) :
    (log.replace content).1 = .ok () ↔ log = .missing ∨ ∃ old, log = .file old := by
  cases log <;> simp [replace]

/-- A failing write leaves the file as it was. It leaves all as it was, unless it makes a folder. -/
theorem replace_of_error {log : LogFile} {content : ByteArray} {cause : FileError}
    (failed : (log.replace content).1 = .error cause) :
    (log.replace content).2.content? = log.content? ∧
      (log ≠ .unmade → (log.replace content).2 = log) := by
  cases log with
  | missing | file => cases failed
  | locked | folder | barred | unusable => exact ⟨rfl, fun _ => rfl⟩
  | unmade => exact ⟨rfl, fun made => absurd rfl made⟩

end LogFile

/-- The record that a step writes, if it writes one. -/
def Step.record? : Step → Option Patchsets
  | .saveChanges changes => some (record changes)
  | .saveSeen seen => some seen
  | _ => none

/-- Only the log takes part in a step. -/
def Step.OnLog : Step → Prop
  | .writeLog _ | .removeLog | .obstructLog | .load | .saveChanges _ | .saveSeen _ => True
  | _ => False

namespace Session

/-- The session after some steps. -/
def after (session : Session) (steps : List Step) : Session :=
  steps.foldl (fun session step => (session.step step).2) session

/-- A step that loads the log, or fails in writing it. -/
inductive LeavesLog (session : Session) : Step → Prop where
  | load : LeavesLog session .load
  | failed {step : Step} {seen : Patchsets} {failure : Failure} (saves : step.record? = some seen)
      (failed : (session.step step).1 = .done (.error failure)) : LeavesLog session step

/-- Steps that only load the log or fail in writing it. -/
def AllLeaveLog : Session → List Step → Prop
  | _, [] => True
  | session, step :: rest => session.LeavesLog step ∧ AllLeaveLog (session.step step).2 rest

/-- The log holds a record: it has a line for each of its refs, and the record is what is loaded
until something else is written. -/
structure Holds (session : Session) (seen : Patchsets) : Prop where
  isFile : session.world.log = .file (lines seen.refs)
  loads : ∀ steps, session.AllLeaveLog steps →
    ((session.after steps).step .load).1 = .seen (.ok seen)

/-- Write what is loaded. A log that cannot be loaded is left alone. -/
def writeBack (session : Session) : Session :=
  match (session.step .load).1 with
  | .seen (.ok seen) => (session.step (.saveSeen seen)).2
  | _ => session

theorem step_load (session : Session) :
    session.step .load = (.seen (SeenLog.load session.world.log.read), session) := rfl

/-- A step that writes a record replaces the log by its lines. -/
theorem step_of_record? (session : Session) {step : Step} {seen : Patchsets}
    (saves : step.record? = some seen) :
    session.step step =
      (.done ((session.world.log.replace (SeenLog.lines seen.refs)).1.mapError .file),
        { session with
          world :=
            { session.world with
              log := (session.world.log.replace (SeenLog.lines seen.refs)).2 } }) := by
  obtain ⟨settings, review, ci, log, events⟩ := session
  cases step with
  | saveChanges changes =>
      cases saves
      cases log <;> rfl
  | saveSeen seen =>
      cases saves
      cases log <;> rfl
  | _ => cases saves

/-- A step that leaves the log alone leaves what it holds. -/
theorem log_of_leavesLog {session : Session} {step : Step} (leaves : session.LeavesLog step)
    {content : ByteArray} (isFile : session.world.log = .file content) :
    (session.step step).2.world.log = .file content := by
  cases leaves with
  | load => exact isFile
  | failed saves failed =>
      rw [session.step_of_record? saves, isFile] at failed
      cases failed

/-- Where the log is the lines of a record, that record is held. -/
theorem holds_of_log_eq {session : Session} {seen : Patchsets}
    (isFile : session.world.log = .file (SeenLog.lines seen.refs)) : session.Holds seen where
  isFile := isFile
  loads := by
    intro steps
    induction steps generalizing session with
    | nil =>
        intro _
        rw [after, List.foldl_nil, step_load, isFile]
        exact congrArg Answer.seen (SeenLog.load_render seen)
    | cons step rest inductionHypothesis =>
        rintro ⟨leaves, others⟩
        exact inductionHypothesis (log_of_leavesLog leaves isFile) others

/-- A record that was written is held. -/
theorem holds_of_written {session : Session} {step : Step} {seen : Patchsets}
    (saves : step.record? = some seen) (succeeds : (session.step step).1 = .done (.ok ())) :
    (session.step step).2.Holds seen := by
  rw [session.step_of_record? saves] at succeeds ⊢
  apply holds_of_log_eq
  apply LogFile.replace_of_ok
  cases written : (session.world.log.replace (SeenLog.lines seen.refs)).1 with
  | ok => rfl
  | error cause =>
      rw [written] at succeeds
      cases succeeds

theorem writeBack_of_loaded {session : Session} {seen : Patchsets}
    (loaded : (session.step .load).1 = .seen (.ok seen)) :
    session.writeBack = (session.step (.saveSeen seen)).2 := by
  rw [writeBack, loaded]

/-- Writing back what is held changes no byte. -/
theorem writeBack_of_holds {session : Session} {seen : Patchsets} (holds : session.Holds seen) :
    session.writeBack.world.log = session.world.log := by
  have loaded : (session.step .load).1 = .seen (.ok seen) := holds.loads [] trivial
  rw [writeBack_of_loaded loaded, session.step_of_record? rfl, holds.isFile]
  rfl

theorem log_iterate_writeBack {session : Session} {seen : Patchsets} (holds : session.Holds seen)
    (count : Nat) : (writeBack^[count] session).world.log = session.world.log := by
  induction count generalizing session with
  | zero => rfl
  | succ count inductionHypothesis =>
      have unchanged := writeBack_of_holds holds
      rw [Function.iterate_succ_apply]
      rw [inductionHypothesis (holds_of_log_eq (unchanged.trans holds.isFile)), unchanged]

/-- How the log answers, in the state that a session is in. -/
structure LogLaws (session : Session) : Prop where
  /-- Loading changes nothing. -/
  load_keeps : (session.step .load).2 = session
  /-- A record is written where the log is a file that can be replaced, or can be one. -/
  written_iff : ∀ {step seen}, step.record? = some seen →
    ((session.step step).1 = .done (.ok ()) ↔
      session.world.log = .missing ∨ ∃ old, session.world.log = .file old)
  /-- A write that fails leaves the file as it was, and everything else too, unless it makes a
  folder. -/
  failed_keeps : ∀ {step seen failure}, step.record? = some seen →
    (session.step step).1 = .done (.error failure) →
    (session.step step).2.world.log.content? = session.world.log.content? ∧
      (session.world.log ≠ .unmade → (session.step step).2 = session)
  /-- A record that was written is held. -/
  written_holds : ∀ {step seen}, step.record? = some seen →
    (session.step step).1 = .done (.ok ()) → (session.step step).2.Holds seen
  /-- Writing back what was loaded gives a log that is loaded as the same, and that does not change
  however often this is done again. -/
  writeBack_holds : ∀ {seen}, (session.step .load).1 = .seen (.ok seen) →
    (session.step (.saveSeen seen)).1 = .done (.ok ()) →
    session.writeBack.Holds seen ∧
      ∀ count, (writeBack^[count] session.writeBack).world.log = session.writeBack.world.log

theorem logLaws (session : Session) : session.LogLaws where
  load_keeps := rfl
  written_iff := by
    intro step seen saves
    rw [session.step_of_record? saves, ← LogFile.replace_ok_iff (SeenLog.lines seen.refs)]
    cases (session.world.log.replace (SeenLog.lines seen.refs)).1 <;> simp [Except.mapError]
  failed_keeps := by
    intro step seen failure saves failed
    rw [session.step_of_record? saves] at failed ⊢
    cases written : (session.world.log.replace (SeenLog.lines seen.refs)).1 with
    | ok =>
        rw [written] at failed
        cases failed
    | error cause =>
        obtain ⟨fileKept, allKept⟩ := LogFile.replace_of_error written
        refine ⟨fileKept, ?_⟩
        intro made
        rw [allKept made]
  written_holds := holds_of_written
  writeBack_holds := by
    intro seen loaded succeeds
    have holds : session.writeBack.Holds seen := by
      rw [writeBack_of_loaded loaded]
      exact holds_of_written rfl succeeds
    exact ⟨holds, log_iterate_writeBack holds⟩

/-- No step on the log turns its path into one where a failing write makes a folder. -/
theorem made_step {session : Session} {step : Step} (onLog : step.OnLog)
    (made : session.world.log ≠ .unmade) : (session.step step).2.world.log ≠ .unmade := by
  have put (other : LogFile) (placed : other ≠ .unmade) :
      session.world.log.put other ≠ .unmade := by
    rw [LogFile.put]
    split
    · exact placed
    · exact made
  have replaced {step : Step} {seen : Patchsets} (saves : step.record? = some seen) :
      (session.step step).2.world.log ≠ .unmade := by
    rw [session.step_of_record? saves]
    rcases session.world.log.replace_cases (SeenLog.lines seen.refs) with isFile | kept | isFolder
    · simp [isFile]
    · simpa [kept] using made
    · simp [isFolder.2]
  cases step with
  | writeLog content => exact put (.file content) (by simp)
  | removeLog => exact put .missing (by simp)
  | obstructLog => exact put .folder (by simp)
  | load => exact made
  | saveChanges changes => exact replaced rfl
  | saveSeen seen => exact replaced rfl
  | _ => cases onLog

theorem made_after {session : Session} {steps : List Step} (onLog : ∀ step ∈ steps, step.OnLog)
    (made : session.world.log ≠ .unmade) : (session.after steps).world.log ≠ .unmade := by
  induction steps generalizing session with
  | nil => exact made
  | cons step rest inductionHypothesis =>
      obtain ⟨first, others⟩ := List.forall_mem_cons.mp onLog
      exact inductionHypothesis others (made_step first made)

end Session

/-- The log is a store over every history of steps. The record of some changes lists them, and where
a failing write makes no folder, none does after any steps on the log. -/
theorem log_stores :
    (∀ changes, Lists changes (record changes).refs) ∧
      (∀ (session : Session) (steps : List Step), (session.after steps).LogLaws) ∧
      ∀ (session : Session) (steps : List Step), (∀ step ∈ steps, step.OnLog) →
        session.world.log ≠ .unmade → (session.after steps).world.log ≠ .unmade :=
  ⟨lists_record, fun session steps => (session.after steps).logLaws,
    fun _ _ onLog made => Session.made_after onLog made⟩

/-- A change is recorded once nothing is in the way of its log any more. -/
theorem log_stores_after_obstruction :
    let change : Change := { number := 7, patchset := 2 }
    let steps : List Step := [.obstructLog, .saveSeen ∅, .load, .removeLog]
    Lists [change] (record [change]).refs ∧
      ((Session.after {} steps).step (.saveChanges [change])).2.Holds (record [change]) ∧
      (Session.after {} steps).world.log ≠ .unmade := by
  intro change steps
  have onLog : ∀ step ∈ steps, step.OnLog := by simp [steps, Step.OnLog]
  exact ⟨log_stores.1 [change], (log_stores.2.1 {} steps).written_holds rfl rfl,
    log_stores.2.2 {} steps onLog (by simp)⟩

end ChangeGate.Memory
