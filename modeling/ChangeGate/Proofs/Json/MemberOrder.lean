import ChangeGate.Proofs.Json.Record
import Mathlib.Data.List.Perm.Basic

/-!
# The order of members

Documents that differ only in the order in which their objects list their members hold the same
values under the same keys. A reader that takes values by their keys reads them alike; a reader of a
whole map does so as long as no key is repeated, for of a repeated key the last value counts.
-/

namespace ChangeGate.Json

/-! ## Documents in another order -/

/-- No object of a document lists a key twice. -/
inductive KeysOnce : Value → Prop where
  | null : KeysOnce .null
  | bool (value : Bool) : KeysOnce (.bool value)
  | number (literal : NumberLiteral) : KeysOnce (.number literal)
  | string (text : Option String) : KeysOnce (.string text)
  | array {items : List Value} (each : ∀ item ∈ items, KeysOnce item) : KeysOnce (.array items)
  | object {members : List (Option String × Value)}
      (distinct : (members.filterMap Prod.fst).Nodup)
      (each : ∀ member ∈ members, KeysOnce member.2) : KeysOnce (.object members)

/-- Two documents differ only in the order of members, in any of their objects. -/
inductive Reordered : Value → Value → Prop where
  | same (document : Value) : Reordered document document
  | array {items others : List Value} (each : List.Forall₂ Reordered items others) :
      Reordered (.array items) (.array others)
  | object {members listed others : List (Option String × Value)} (perm : members.Perm listed)
      (keys : listed.map Prod.fst = others.map Prod.fst)
      (values : List.Forall₂ Reordered (listed.map Prod.snd) (others.map Prod.snd)) :
      Reordered (.object members) (.object others)

/-- A document without repeated keys, and the same in another order. -/
structure Rearranged (document other : Value) : Prop where
  once : KeysOnce document
  reordered : Reordered document other

/-- A reader that makes the same of a document without repeated keys in every order. -/
def IgnoresOrder {α : Type} (decode : Value → Option α) : Prop :=
  ∀ document other, Rearranged document other → decode document = decode other

/-- Two entries hold the same under the same key. -/
structure SameEntry {κ : Type} (entry other : κ × Value) : Prop where
  key : entry.1 = other.1
  value : Rearranged entry.2 other.2

/-- An object with each key once holds no key twice, if none of its values does. -/
theorem keysOnce_ofMembers {members : List (String × Value)}
    (distinct : (members.map Prod.fst).Nodup) (each : ∀ member ∈ members, KeysOnce member.2) :
    KeysOnce (.ofMembers members) := by
  apply KeysOnce.object
  · rw [List.filterMap_map]
    change (members.filterMap (some ∘ Prod.fst)).Nodup
    rwa [List.filterMap_eq_map]
  · rw [List.forall_mem_map]
    exact each

/-- The members of an object may stand in any order. -/
theorem reordered_ofMembers_of_perm {members others : List (String × Value)}
    (perm : members.Perm others) : Reordered (.ofMembers members) (.ofMembers others) :=
  .object (perm.map _) rfl (List.forall₂_same.mpr fun _ _ => .same _)

/-- The last member of an object may be in another order. -/
theorem reordered_ofMembers_concat (members : List (String × Value)) (key : String)
    {value other : Value} (reordered : Reordered value other) :
    Reordered (.ofMembers (members ++ [(key, value)]))
      (.ofMembers (members ++ [(key, other)])) := by
  apply Reordered.object (.refl _)
  · simp
  · simp only [List.map_append, List.map_map, List.map_singleton]
    exact List.rel_append (List.forall₂_same.mpr fun _ _ => .same _) (.cons reordered .nil)

section
variable {items : List Value} {members : List (Option String × Value)} {other : Value}

theorem forall₂_rearranged {others : List Value} (once : ∀ item ∈ items, KeysOnce item)
    (each : List.Forall₂ Reordered items others) : List.Forall₂ Rearranged items others := by
  induction each with
  | nil => exact .nil
  | cons first _ inductionHypothesis =>
      exact .cons ⟨once _ List.mem_cons_self, first⟩
        (inductionHypothesis fun item member => once item (List.mem_cons_of_mem _ member))

theorem forall₂_sameEntry {κ : Type} {entries others : List (κ × Value)}
    (keys : entries.map Prod.fst = others.map Prod.fst)
    (values : List.Forall₂ Rearranged (entries.map Prod.snd) (others.map Prod.snd)) :
    List.Forall₂ SameEntry entries others := by
  induction entries generalizing others with
  | nil =>
      rw [List.map_eq_nil_iff.mp keys.symm]
      exact .nil
  | cons entry rest inductionHypothesis =>
      cases others with
      | nil => cases keys
      | cons other later =>
          rw [List.map_cons, List.map_cons] at keys values
          obtain ⟨sameKey, sameKeys⟩ := List.cons.inj keys
          obtain ⟨sameValue, sameValues⟩ := List.forall₂_cons.mp values
          exact .cons ⟨sameKey, sameValue⟩ (inductionHypothesis sameKeys sameValues)

/-- An array in another order of members has its items where they were. -/
theorem Rearranged.of_array (same : Rearranged (.array items) other) :
    ∃ others, other = .array others ∧ List.Forall₂ Rearranged items others := by
  obtain ⟨once, reordered⟩ := same
  cases once with
  | array once =>
      cases reordered with
      | same =>
          refine ⟨items, rfl, ?_⟩
          exact List.forall₂_same.mpr fun item member => ⟨once item member, .same item⟩
      | @array _ others each => exact ⟨others, rfl, forall₂_rearranged once each⟩

/-- An object in another order has its entries in some order. -/
theorem Rearranged.of_object (same : Rearranged (.object members) other) :
    ∃ listed others, other = .object others ∧ members.Perm listed ∧
      List.Forall₂ SameEntry listed others ∧ (members.filterMap Prod.fst).Nodup := by
  obtain ⟨once, reordered⟩ := same
  cases once with
  | object distinct once =>
      cases reordered with
      | same =>
          refine ⟨members, members, rfl, .refl _, ?_, distinct⟩
          exact List.forall₂_same.mpr fun member isMember => ⟨rfl, once member isMember, .same _⟩
      | @object _ listed others perm keys values =>
          refine ⟨listed, others, rfl, perm, forall₂_sameEntry keys ?_, distinct⟩
          apply forall₂_rearranged ?_ values
          intro value isValue
          obtain ⟨member, isMember, rfl⟩ := List.mem_map.mp isValue
          exact once member (perm.mem_iff.mpr isMember)

/-- What is neither an array nor an object has no order. -/
theorem ignoresOrder_of_scalar {α : Type} {decode : Value → Option α}
    (arrays : ∀ items, decode (.array items) = none)
    (objects : ∀ members, decode (.object members) = none) : IgnoresOrder decode := by
  intro document other same
  cases document with
  | array items =>
      obtain ⟨others, rfl, -⟩ := same.of_array
      rw [arrays, arrays]
  | object members =>
      obtain ⟨_, others, rfl, -⟩ := same.of_object
      rw [objects, objects]
  | _ =>
      cases same.reordered
      rfl

end

/-! ## Reading several values -/

section
variable {α β γ δ : Type}

/-- Values that are read alike one by one are read alike together. -/
theorem rel_mapM {decode : α → Option γ} {also : β → Option δ} {related : γ → δ → Prop}
    {items : List α} {others : List β}
    (each : List.Forall₂ (fun item other => Option.Rel related (decode item) (also other)) items
      others) :
    Option.Rel (List.Forall₂ related) (items.mapM decode) (others.mapM also) := by
  induction each with
  | nil => exact .some .nil
  | @cons item other rest later first _ inductionHypothesis =>
      rw [List.mapM_cons, List.mapM_cons]
      generalize decode item = value at first ⊢
      generalize also other = otherValue at first ⊢
      generalize rest.mapM decode = values at inductionHypothesis ⊢
      generalize later.mapM also = otherValues at inductionHypothesis ⊢
      cases first with
      | none => exact .none
      | some first =>
          cases inductionHypothesis with
          | none => exact .none
          | some rest => exact .some (.cons first rest)

theorem mapM_congr {decode : α → Option γ} {also : β → Option γ} {items : List α}
    {others : List β}
    (each : List.Forall₂ (fun item other => decode item = also other) items others) :
    items.mapM decode = others.mapM also := by
  induction each with
  | nil => rfl
  | cons first _ inductionHypothesis =>
      rw [List.mapM_cons, List.mapM_cons, first, inductionHypothesis]

/-- Values in another order are read in that order. -/
theorem rel_mapM_of_perm (decode : α → Option γ) {items others : List α}
    (perm : items.Perm others) :
    Option.Rel List.Perm (items.mapM decode) (others.mapM decode) := by
  induction perm with
  | nil => exact .some (.refl _)
  | @cons item rest later _ inductionHypothesis =>
      rw [List.mapM_cons, List.mapM_cons]
      generalize rest.mapM decode = values at inductionHypothesis ⊢
      generalize later.mapM decode = otherValues at inductionHypothesis ⊢
      cases decode item with
      | none => exact .none
      | some value =>
          cases inductionHypothesis with
          | none => exact .none
          | some same => exact .some (same.cons value)
  | swap first second rest =>
      rw [List.mapM_cons, List.mapM_cons, List.mapM_cons, List.mapM_cons]
      cases decode first with
      | none =>
          cases decode second with
          | none => exact .none
          | some _ => exact .none
      | some value =>
          cases decode second with
          | none => exact .none
          | some other =>
              cases rest.mapM decode with
              | none => exact .none
              | some values => exact .some (.swap value other values)
  | @trans items middle others _ _ before after =>
      generalize items.mapM decode = values at before ⊢
      generalize middle.mapM decode = between at before after
      generalize others.mapM decode = otherValues at after ⊢
      cases before with
      | none => exact after
      | some before =>
          cases after with
          | some after => exact .some (before.trans after)

end

/-! ## Records -/

/-- The value under a key is the same in any order of the entries. -/
theorem rel_uniqueValue {entries listed others : List (String × Value)}
    (perm : entries.Perm listed) (each : List.Forall₂ SameEntry listed others) (name : String) :
    Option.Rel (Option.Rel Rearranged) (uniqueValue entries name) (uniqueValue others name) := by
  have kept := perm.filter fun entry => decide (entry.1 = name)
  have keptEach : List.Forall₂ SameEntry (listed.filter fun entry => decide (entry.1 = name))
      (others.filter fun entry => decide (entry.1 = name)) := by
    apply List.rel_filter ?_ each
    intro entry other same
    simp only [same.key]
  rw [uniqueValue, uniqueValue]
  generalize entries.filter _ = found at kept ⊢
  generalize listed.filter _ = middle at kept keptEach
  generalize others.filter _ = otherFound at keptEach ⊢
  cases keptEach with
  | nil =>
      rw [List.perm_nil.mp kept]
      exact .some .none
  | cons same rest =>
      cases rest with
      | nil =>
          obtain rfl := List.perm_singleton.mp kept
          exact .some (.some same.value)
      | cons _ _ =>
          -- A key that comes twice among the others came twice before.
          cases found with
          | nil => cases kept.length_eq
          | cons _ later =>
              cases later with
              | nil => cases kept.length_eq
              | cons _ _ => exact .none

/-- The places of related arrays hold related items. -/
theorem rel_getElem? {items others : List Value} (each : List.Forall₂ Rearranged items others)
    (place : Nat) : Option.Rel Rearranged items[place]? others[place]? := by
  induction each generalizing place with
  | nil => exact .none
  | cons first _ inductionHypothesis =>
      cases place with
      | zero => exact .some first
      | succ place => exact inductionHypothesis place

/-- A record has the same values under its keys in any order of its members. -/
theorem rel_fields (names : List String) {document other : Value}
    (same : Rearranged document other) :
    Option.Rel (List.Forall₂ (Option.Rel Rearranged)) (fields names document)
      (fields names other) := by
  cases document with
  | array items =>
      obtain ⟨others, rfl, each⟩ := same.of_array
      rw [fields, fields, each.length_eq]
      split
      · apply Option.Rel.some
        rw [List.forall₂_map_left_iff, List.forall₂_map_right_iff]
        exact List.forall₂_same.mpr fun place _ => rel_getElem? each place
      · exact .none
  | object members =>
      obtain ⟨listed, others, rfl, perm, each, -⟩ := same.of_object
      have keyed : Option.Rel (List.Forall₂ SameEntry) (textKeys listed) (textKeys others) := by
        apply rel_mapM
        apply each.imp
        rintro ⟨key, value⟩ ⟨_, otherValue⟩ ⟨rfl, sameValue⟩
        cases key with
        | none => exact .none
        | some key => exact .some ⟨rfl, sameValue⟩
      have listedKeys : Option.Rel List.Perm (textKeys members) (textKeys listed) :=
        rel_mapM_of_perm _ perm
      rw [fields, fields]
      generalize textKeys members = entries at listedKeys ⊢
      generalize textKeys listed = between at listedKeys keyed
      generalize textKeys others = otherEntries at keyed ⊢
      cases listedKeys with
      | none =>
          cases keyed
          exact .none
      | some perm =>
          cases keyed with
          | some each =>
              apply rel_mapM
              exact List.forall₂_same.mpr fun name _ => rel_uniqueValue perm each name
  | _ =>
      cases same.reordered
      exact .none

/-- What is made of the values of a record is the same in any order of its members, if it is the
same for values in any order. -/
theorem ignoresOrder_fields_bind {α : Type} {names : List String}
    {next : List (Option Value) → Option α}
    (ignores : ∀ values others, List.Forall₂ (Option.Rel Rearranged) values others →
      next values = next others) : IgnoresOrder fun document => fields names document >>= next := by
  intro document other same
  have related := rel_fields names same
  dsimp only
  generalize fields names document = values at related ⊢
  generalize fields names other = others at related ⊢
  cases related with
  | none => rfl
  | some each => exact ignores _ _ each

/-! ## Values of records -/

section
variable {α : Type} {decode : Value → Option α}

theorem IgnoresOrder.nullable (ignores : IgnoresOrder decode) :
    IgnoresOrder (Json.nullable decode) := by
  intro document other same
  have read := ignores document other same
  cases document with
  | array items =>
      obtain ⟨others, rfl, -⟩ := same.of_array
      rw [Json.nullable, Json.nullable, read]
      all_goals nofun
  | object members =>
      obtain ⟨_, others, rfl, -⟩ := same.of_object
      rw [Json.nullable, Json.nullable, read]
      all_goals nofun
  | _ =>
      cases same.reordered
      rfl

/-- A value that may be left out is read the same in any order. -/
theorem IgnoresOrder.orDefault_eq (ignores : IgnoresOrder decode) (default : α)
    {value other : Option Value} (same : Option.Rel Rearranged value other) :
    orDefault default decode value = orDefault default decode other := by
  cases same with
  | none => rfl
  | some same => exact ignores _ _ same

/-- The items of a list are read where they are. -/
theorem IgnoresOrder.list? (ignores : IgnoresOrder decode) : IgnoresOrder (Json.list? decode) := by
  intro document other same
  cases document with
  | array items =>
      obtain ⟨others, rfl, each⟩ := same.of_array
      exact mapM_congr (each.imp ignores)
  | object members =>
      obtain ⟨_, others, rfl, -⟩ := same.of_object
      rfl
  | _ =>
      cases same.reordered
      rfl

/-- A map holds the same in any order of the entries it is made of, when no key is repeated. -/
theorem ofList_congr {entries others : List (String × α)}
    (distinct : (entries.map Prod.fst).Nodup) (perm : entries.Perm others) :
    (Std.ExtTreeMap.ofList entries : Std.ExtTreeMap String α) = .ofList others := by
  have apart {list : List (String × α)} (distinct : (list.map Prod.fst).Nodup) :
      list.Pairwise fun entry other => ¬ compare entry.1 other.1 = .eq := by
    apply (List.pairwise_map.mp distinct).imp
    intro entry other differs same
    exact differs (Std.LawfulEqCmp.eq_of_compare same)
  apply Std.ExtTreeMap.ext_getElem?
  intro key
  by_cases present : ∃ value, (key, value) ∈ entries
  · obtain ⟨value, member⟩ := present
    have otherDistinct : (others.map Prod.fst).Nodup := (perm.map _).nodup_iff.mp distinct
    rw [Std.ExtTreeMap.getElem?_ofList_of_mem Std.ReflCmp.compare_self (apart distinct) member,
      Std.ExtTreeMap.getElem?_ofList_of_mem Std.ReflCmp.compare_self (apart otherDistinct)
        (perm.mem_iff.mp member)]
  · have absent {list : List (String × α)} (same : entries.Perm list) :
        (list.map Prod.fst).contains key = false := by
      simpa [List.contains_eq_mem, same.mem_iff] using present
    rw [Std.ExtTreeMap.getElem?_ofList_of_contains_eq_false (absent (.refl _)),
      Std.ExtTreeMap.getElem?_ofList_of_contains_eq_false (absent perm)]

/-- An entry of a map from a member of an object. -/
def entryOf (decode : Value → Option α) (member : Option String × Value) :
    Option (String × α) := do
  pure ((← member.1), (← decode member.2))

theorem map?_object (decode : Value → Option α) (members : List (Option String × Value)) :
    Json.map? decode (.object members) =
      (members.mapM (entryOf decode)).map fun entries => .ofList entries := by
  rw [Option.map_eq_bind]
  rfl

/-- The entries of a map have the keys of its members. -/
theorem map_fst_of_entryOf {members : List (Option String × Value)}
    {entries : List (String × α)} (read : members.mapM (entryOf decode) = some entries) :
    entries.map Prod.fst = members.filterMap Prod.fst := by
  have each := forall₂_of_mapM read
  clear read
  induction each with
  | nil => rfl
  | @cons member entry _ _ isEntry _ inductionHypothesis =>
      simp only [entryOf, Option.bind_eq_bind, Option.bind_eq_some_iff, Option.pure_def,
        Option.some.injEq] at isEntry
      obtain ⟨key, isKey, value, -, rfl⟩ := isEntry
      rw [List.map_cons, List.filterMap_cons_some isKey, inductionHypothesis]

/-- A map is read the same in any order of the members. -/
theorem IgnoresOrder.map? (ignores : IgnoresOrder decode) : IgnoresOrder (Json.map? decode) := by
  intro document other same
  cases document with
  | array items =>
      obtain ⟨others, rfl, -⟩ := same.of_array
      rfl
  | object members =>
      obtain ⟨listed, others, rfl, perm, each, distinct⟩ := same.of_object
      have inOrder := rel_mapM_of_perm (entryOf decode) perm
      have alike : listed.mapM (entryOf decode) = others.mapM (entryOf decode) := by
        apply mapM_congr
        apply each.imp
        intro member other same
        rw [entryOf, entryOf, same.key, ignores _ _ same.value]
      rw [alike] at inOrder
      rw [map?_object, map?_object]
      cases read : members.mapM (entryOf decode) with
      | none =>
          rw [read] at inOrder
          generalize others.mapM (entryOf decode) = values at inOrder ⊢
          cases inOrder
          rfl
      | some entries =>
          rw [read] at inOrder
          generalize others.mapM (entryOf decode) = values at inOrder ⊢
          cases inOrder with
          | some perm =>
              rw [← map_fst_of_entryOf read] at distinct
              exact congrArg some (ofList_congr distinct perm)
  | _ =>
      cases same.reordered
      rfl

end

end ChangeGate.Json
