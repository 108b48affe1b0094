import Mathlib.Data.List.Forall2

/-!
# Texts in pieces

A text that is joined from pieces is split at the separator and read piece by piece. It is read when
every piece is, and fails when one of them does.
-/

namespace ChangeGate.Text

section
variable {α β ε : Type} {read : α → Except ε β} {items : List α}

/-- Several values are read when each of them is. -/
theorem mapM_eq_ok_iff {values : List β} :
    items.mapM read = .ok values ↔
      List.Forall₂ (fun item value => read item = .ok value) items values := by
  induction items generalizing values with
  | nil =>
      rw [List.mapM_nil, List.forall₂_nil_left_iff]
      exact ⟨fun isNil => (Except.ok.inj isNil).symm, congrArg Except.ok ∘ Eq.symm⟩
  | cons first rest inductionHypothesis =>
      rw [List.mapM_cons, List.forall₂_cons_left_iff]
      cases isRead : read first with
      | error cause =>
          constructor
          · intro all
            cases all
          · rintro ⟨value, others, isValue, -⟩
            cases isValue
      | ok value =>
          cases later : rest.mapM read with
          | error cause =>
              constructor
              · intro all
                cases all
              · rintro ⟨_, others, -, each, -⟩
                cases later.symm.trans (inductionHypothesis.mpr each)
          | ok others =>
              constructor
              · intro all
                obtain rfl := Except.ok.inj all
                exact ⟨value, others, rfl, inductionHypothesis.mp later, rfl⟩
              · rintro ⟨_, _, isValue, each, rfl⟩
                obtain rfl := Except.ok.inj isValue
                obtain rfl := Except.ok.inj (later.symm.trans (inductionHypothesis.mpr each))
                rfl

/-- Reading several values fails when one of them cannot be read. -/
theorem exists_error_of_mapM {item : α} {cause : ε} (member : item ∈ items)
    (unreadable : read item = .error cause) : ∃ first, items.mapM read = .error first := by
  induction items with
  | nil => cases member
  | cons next rest inductionHypothesis =>
      rw [List.mapM_cons]
      cases isRead : read next with
      | error first => exact ⟨first, rfl⟩
      | ok value =>
          rcases List.mem_cons.mp member with rfl | later
          · rw [isRead] at unreadable
            cases unreadable
          · obtain ⟨first, fails⟩ := inductionHypothesis later
            exact ⟨first, by rw [fails]; rfl⟩

/-- Reading several values fails only as one of them does. -/
theorem exists_mem_of_mapM_eq_error {cause : ε} (fails : items.mapM read = .error cause) :
    ∃ item ∈ items, read item = .error cause := by
  induction items with
  | nil => cases fails
  | cons first rest inductionHypothesis =>
      rw [List.mapM_cons] at fails
      cases isRead : read first with
      | error other =>
          rw [isRead] at fails
          obtain rfl := Except.error.inj fails
          exact ⟨first, List.mem_cons_self, isRead⟩
      | ok value =>
          rw [isRead] at fails
          cases later : rest.mapM read with
          | error other =>
              rw [later] at fails
              obtain rfl := Except.error.inj fails
              obtain ⟨item, member, stops⟩ := inductionHypothesis later
              exact ⟨item, List.mem_cons_of_mem first member, stops⟩
          | ok others =>
              rw [later] at fails
              cases fails

end

/-- No piece of a text holds the separator. -/
theorem notMem_of_mem_splitOn {separator : Char} {text piece : List Char}
    (member : piece ∈ text.splitOn separator) : separator ∉ piece := by
  induction text generalizing piece with
  | nil =>
      rw [List.splitOn_nil, List.mem_singleton] at member
      rw [member]
      exact List.not_mem_nil
  | cons c rest inductionHypothesis =>
      rw [List.splitOn_cons_eq_if_modifyHead] at member
      split at member
      · rcases List.mem_cons.mp member with rfl | later
        · exact List.not_mem_nil
        · exact inductionHypothesis later
      · next other =>
        have ⟨first, others, pieces⟩ :=
          List.exists_cons_of_ne_nil (List.splitOn_ne_nil separator rest)
        rw [pieces] at inductionHypothesis member
        rw [List.modifyHead_cons] at member
        rcases List.mem_cons.mp member with rfl | later
        · intro inside
          rcases List.mem_cons.mp inside with same | inFirst
          · exact other (beq_iff_eq.mpr same.symm)
          · exact inductionHypothesis List.mem_cons_self inFirst
        · exact inductionHypothesis (List.mem_cons_of_mem first later)

/-- The pieces of a text are the texts without the separator that it is joined from. -/
theorem splitOn_eq_iff {separator : Char} {text : List Char} {pieces : List (List Char)} :
    text.splitOn separator = pieces ↔
      pieces ≠ [] ∧ (∀ piece ∈ pieces, separator ∉ piece) ∧
        text = [separator].intercalate pieces := by
  constructor
  · rintro rfl
    exact ⟨List.splitOn_ne_nil separator text, fun _ => notMem_of_mem_splitOn,
      (List.intercalate_splitOn separator).symm⟩
  · rintro ⟨present, whole, rfl⟩
    exact List.splitOn_intercalate separator whole present

/-- A joined text holds each of its pieces between separators or the ends of the text. -/
theorem exists_between_of_mem {separator : Char} {pieces : List (List Char)} {piece : List Char}
    (member : piece ∈ pieces) :
    ∃ front back, [separator].intercalate pieces = front ++ piece ++ back ∧
      (∀ c ∈ front.getLast?, c = separator) ∧ ∀ c ∈ back.head?, c = separator := by
  induction pieces with
  | nil => cases member
  | cons first rest inductionHypothesis =>
      cases rest with
      | nil =>
          rw [List.intercalate_singleton, ← List.mem_singleton.mp member]
          exact ⟨[], [], by simp⟩
      | cons second others =>
          rw [List.intercalate_cons_cons]
          rcases List.mem_cons.mp member with rfl | later
          · exact ⟨[], [separator] ++ [separator].intercalate (second :: others), by simp⟩
          · obtain ⟨front, back, joined, starts, ends⟩ := inductionHypothesis later
            refine ⟨first ++ [separator] ++ front, back, ?_, ?_, ends⟩
            · rw [joined]
              simp only [List.append_assoc]
            · rcases List.eq_nil_or_concat' front with rfl | ⟨earlier, last, rfl⟩
              · simp
              · rw [← List.append_assoc, List.getLast?_concat]
                rw [List.getLast?_concat] at starts
                exact starts

/-- The pieces of a text are what stands between separators or the ends of the text. -/
theorem mem_splitOn_iff {separator : Char} {text piece : List Char} :
    piece ∈ text.splitOn separator ↔ separator ∉ piece ∧ ∃ front back,
      text = front ++ piece ++ back ∧ (∀ c ∈ front.getLast?, c = separator) ∧
        ∀ c ∈ back.head?, c = separator := by
  constructor
  · intro member
    have found := @exists_between_of_mem separator _ _ member
    rw [List.intercalate_splitOn] at found
    exact ⟨notMem_of_mem_splitOn member, found⟩
  · rintro ⟨whole, front, back, rfl, starts, ends⟩
    have untilEnd : piece ∈ (piece ++ back).splitOn separator := by
      cases back with
      | nil =>
          rw [List.append_nil, List.splitOn_eq_singleton whole]
          exact List.mem_singleton_self piece
      | cons c others =>
          rw [ends c rfl, List.splitOn_append_cons_self_of_not_mem whole]
          exact List.mem_cons_self
    rcases List.eq_nil_or_concat' front with rfl | ⟨earlier, last, rfl⟩
    · exact untilEnd
    · rw [starts last (by simp), List.append_assoc, List.append_assoc, List.singleton_append,
        List.splitOn_append_cons_self]
      exact List.mem_append_right _ untilEnd

/-- Texts without the separator are the pieces of the text they are joined to. -/
theorem splitOn_toList_intercalate {separator : String} {mark : Char} {texts : List String}
    (isMark : separator.toList = [mark]) (present : texts ≠ [])
    (whole : ∀ text ∈ texts, mark ∉ text.toList) :
    (String.intercalate separator texts).toList.splitOn mark = texts.map (·.toList) := by
  rw [String.toList_intercalate, isMark]
  refine List.splitOn_intercalate mark ?_ (mt List.map_eq_nil_iff.mp present)
  intro piece member
  obtain ⟨text, isText, rfl⟩ := List.mem_map.mp member
  exact whole text isText

/-- A mark that is not among the characters after it stands where it is found last. -/
theorem eq_nil_of_cons_eq_append {mark : Char} {between rest others : List Char}
    (absent : mark ∉ rest) (cut : mark :: rest = between ++ mark :: others) : between = [] := by
  cases between with
  | nil => rfl
  | cons c between =>
      have later : rest = between ++ mark :: others := (List.cons.inj cut).2
      rw [later] at absent
      exact absurd (List.mem_append_right between List.mem_cons_self) absent

/-- Texts are told apart at the last place of a mark. -/
theorem eq_of_append_mark {mark : Char} {front back rest others : List Char}
    (absent : mark ∉ rest) (absentOthers : mark ∉ others)
    (same : front ++ mark :: rest = back ++ mark :: others) : front = back ∧ rest = others := by
  rcases List.append_eq_append_iff.mp same with ⟨between, isBack, cut⟩ | ⟨between, isFront, cut⟩
  · have isNil := eq_nil_of_cons_eq_append absent cut
    rw [isNil, List.append_nil] at isBack
    rw [isNil] at cut
    exact ⟨isBack.symm, (List.cons.inj cut).2⟩
  · have isNil := eq_nil_of_cons_eq_append absentOthers cut
    rw [isNil, List.append_nil] at isFront
    rw [isNil] at cut
    exact ⟨isFront, (List.cons.inj cut).2.symm⟩

end ChangeGate.Text
