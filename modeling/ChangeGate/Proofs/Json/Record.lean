import ChangeGate.Json.Decode
import Mathlib.Data.List.Forall2

/-!
# Looking into documents

What a record holds under a key and which items an array has, told of the document alone. A reader
of records that accepts a document takes exactly these, in their order.
-/

namespace ChangeGate.Json

namespace Value

/-- The items of an array. Other values have none. -/
def items : Value → List Value
  | .array items => items
  | _ => []

/-- What a record with some keys holds under one of them, whether it is an object or an array. -/
def under? (keys : List String) (key : String) : Value → Option Value
  | .object members => (members.find? fun member => member.1 = some key).map (·.2)
  | .array items => items[keys.idxOf key]?
  | _ => none

/-- The items of the array that a record holds under a key. -/
def itemsUnder (keys : List String) (key : String) (record : Value) : List Value :=
  ((record.under? keys key).map items).getD []

end Value

/-! ## Reading several values -/

/-- Values that are read are read one by one. -/
theorem forall₂_of_mapM {α β : Type} {decode : α → Option β} {items : List α} {values : List β}
    (read : items.mapM decode = some values) :
    List.Forall₂ (fun item value => decode item = some value) items values := by
  induction items generalizing values with
  | nil =>
      cases Option.some.inj read
      exact List.Forall₂.nil
  | cons item rest inductionHypothesis =>
      simp only [List.mapM_cons, Option.bind_eq_bind, Option.bind_eq_some_iff, Option.pure_def,
        Option.some.injEq] at read
      obtain ⟨value, first, others, later, rfl⟩ := read
      exact List.Forall₂.cons first (inductionHypothesis later)

/-- A value of one of the related lists has one of the other list to go with. -/
theorem exists_mem_of_forall₂ {α β : Type} {related : α → β → Prop} {items : List α}
    {values : List β} (all : List.Forall₂ related items values) {value : β}
    (member : value ∈ values) : ∃ item ∈ items, related item value := by
  induction all with
  | nil => cases member
  | cons first _ inductionHypothesis =>
      rcases List.mem_cons.mp member with rfl | later
      · exact ⟨_, List.mem_cons_self, first⟩
      · obtain ⟨item, isItem, isRelated⟩ := inductionHypothesis later
        exact ⟨item, List.mem_cons_of_mem _ isItem, isRelated⟩

/-- A list that may be left out is read item by item. -/
theorem forall₂_of_orDefault_list? {α : Type} {decode : Value → Option α} {value : Option Value}
    {values : List α} (read : orDefault [] (list? decode) value = some values) :
    List.Forall₂ (fun item value => decode item = some value) ((value.map Value.items).getD [])
      values := by
  cases value with
  | none =>
      cases Option.some.inj read
      exact List.Forall₂.nil
  | some value =>
      cases value with
      | array items => exact forall₂_of_mapM read
      | _ => cases read

/-! ## Reading a record -/

/-- A text that must be present is there. -/
theorem eq_ofText_of_required {value : Option Value} {text : String}
    (read : required text? value = some text) : value = some (.ofText text) := by
  cases value with
  | none => cases read
  | some value =>
      cases value with
      | string written =>
          simp only [required, text?, Option.bind_some] at read
          rw [read, Value.ofText]
      | _ => cases read

theorem eq_map_of_textKeys {members : List (Option String × Value)} {texts : List (String × Value)}
    (read : textKeys members = some texts) :
    members = texts.map fun (key, value) => (some key, value) := by
  have one : List.Forall₂ (fun member text => member = (some text.1, text.2)) members texts := by
    refine (forall₂_of_mapM read).imp ?_
    rintro ⟨key, value⟩ text isText
    obtain ⟨name, rfl, rfl⟩ := Option.map_eq_some_iff.mp isText
    rfl
  rw [← List.forall₂_map_right_iff, List.forall₂_eq_eq_eq] at one
  exact one

theorem eq_find?_of_uniqueValue {members : List (String × Value)} {name : String}
    {value : Option Value} (read : uniqueValue members name = some value) :
    value = (members.find? (·.1 = name)).map (·.2) := by
  rw [← List.head?_filter]
  simp only [uniqueValue] at read
  split at read
  · next none => rw [none, ← Option.some.inj read]; rfl
  · next one => rw [one, ← Option.some.inj read]; rfl
  · cases read

/-- A record that is read gives what it holds under each of its keys. -/
theorem eq_under?_of_fields {keys : List String} (distinct : keys.Nodup) {record : Value}
    {values : List (Option Value)} (read : fields keys record = some values) :
    values = keys.map fun key => record.under? keys key := by
  cases record with
  | object members =>
      simp only [fields, Option.bind_eq_bind, Option.bind_eq_some_iff] at read
      obtain ⟨texts, areTexts, read⟩ := read
      have one := (forall₂_of_mapM read).imp fun name value isValue =>
        (eq_find?_of_uniqueValue isValue).symm
      rw [← List.forall₂_map_left_iff, List.forall₂_eq_eq_eq] at one
      rw [← one, eq_map_of_textKeys areTexts]
      apply List.map_congr_left
      intro key _
      simp [Value.under?, List.find?_map, Function.comp_def]
  | array items =>
      simp only [fields] at read
      split at read
      · rw [← Option.some.inj read]
        apply List.ext_getElem
        · simp
        · intro place inside otherInside
          simp [Value.under?, distinct.idxOf_getElem]
      · cases read
  | _ => cases read

/-- What is made of the values of a record is made of what it holds under its keys. -/
theorem eq_some_of_fields_bind {α : Type} {keys : List String} (distinct : keys.Nodup)
    {record : Value} {next : List (Option Value) → Option α} {answer : α}
    (read : fields keys record >>= next = some answer) :
    next (keys.map fun key => record.under? keys key) = some answer := by
  rw [Option.bind_eq_bind, Option.bind_eq_some_iff] at read
  obtain ⟨values, areFields, made⟩ := read
  rwa [eq_under?_of_fields distinct areFields] at made

end ChangeGate.Json
