import ChangeGate.Review.Grouping
import Mathlib.Data.List.Nodup
import Mathlib.Data.List.Range

/-!
# Sets of parts

A set of parts becomes a group exactly when it is complete: its parts declare the indices from one
up to a total, each once and all with that total. Otherwise it is rejected, and the first of three
checks that fails decides the issue and the change that it is reported on: the totals, the number of
parts, the places.
-/

namespace ChangeGate.Review

/-! ## Order -/

/-- Some parts by rising index, where equal indices keep their order. -/
structure StablySorted (parts sorted : List Part) : Prop where
  perm : sorted.Perm parts
  rising : sorted.Pairwise fun first later => first.marker.index ≤ later.marker.index
  stable : ∀ index,
    (sorted.filter fun part => part.marker.index = index) =
      parts.filter fun part => part.marker.index = index

theorem stablySorted_sortParts (parts : List Part) : StablySorted parts (sortParts parts) := by
  have perm : (sortParts parts).Perm parts := List.mergeSort_perm parts _
  have transitive : ∀ first second third : Part,
      decide (first.marker.index ≤ second.marker.index) = true →
      decide (second.marker.index ≤ third.marker.index) = true →
      decide (first.marker.index ≤ third.marker.index) = true := by
    simp only [decide_eq_true_eq]
    exact fun _ _ _ => UInt32.le_trans
  have total : ∀ first second : Part,
      (decide (first.marker.index ≤ second.marker.index) ||
        decide (second.marker.index ≤ first.marker.index)) = true := by
    simp only [Bool.or_eq_true, decide_eq_true_eq]
    exact fun _ _ => UInt32.le_total _ _
  refine ⟨perm, ?_, ?_⟩
  · exact (List.pairwise_mergeSort transitive total parts).imp of_decide_eq_true
  · intro index
    have sameIndex : (parts.filter fun part => part.marker.index = index).Pairwise
        fun first later => decide (first.marker.index ≤ later.marker.index) = true := by
      apply List.pairwise_of_forall_mem_list
      intro first isFirst later isLater
      rw [of_decide_eq_true (List.mem_filter.mp isFirst).2]
      rw [of_decide_eq_true (List.mem_filter.mp isLater).2]
      exact decide_eq_true (UInt32.le_refl index)
    -- Parts of one index are in order already, so sorting keeps them as a sublist.
    have kept : (parts.filter fun part => part.marker.index = index).Sublist (sortParts parts) :=
      List.sublist_mergeSort transitive total sameIndex List.filter_sublist
    have atIndex := kept.filter fun part => decide (part.marker.index = index)
    rw [List.filter_filter] at atIndex
    simp only [Bool.and_self] at atIndex
    exact (atIndex.eq_of_length (perm.filter _).length_eq.symm).symm

/-! ## Complete sets -/

/-- The parts declare the indices from one up to a total, each once, and all with that total. -/
def Complete (parts : List Part) : Prop :=
  ∃ total : Nat,
    (parts.map fun part => (part.marker.index.toNat, part.marker.total.toNat)).Perm
      ((List.range' 1 total).map fun index => (index, total))

/-- Whether a set is complete does not depend on the order of its parts. -/
theorem complete_congr {parts other : List Part} (perm : parts.Perm other) :
    Complete parts ↔ Complete other := by
  constructor
  · rintro ⟨total, markers⟩
    exact ⟨total, (perm.map _).symm.trans markers⟩
  · rintro ⟨total, markers⟩
    exact ⟨total, (perm.map _).trans markers⟩

/-- The index of each part is its place, counted from one. -/
def InPlace (parts : List Part) : Prop :=
  parts.map (·.marker.index.toNat) = List.range' 1 parts.length

/-- A complete set has as many parts as all of them declare, and by rising index each is in its
place. -/
theorem Complete.of_rising {parts : List Part} (complete : Complete parts)
    (rising : parts.Pairwise fun first later => first.marker.index ≤ later.marker.index) :
    (∀ part ∈ parts, part.marker.total.toNat = parts.length) ∧ InPlace parts := by
  obtain ⟨total, markers⟩ := complete
  have length : parts.length = total := by
    simpa using markers.length_eq
  have indices : (parts.map (·.marker.index.toNat)).Perm (List.range' 1 total) := by
    simpa [Function.comp_def] using markers.map Prod.fst
  constructor
  · intro part member
    have listed : (part.marker.index.toNat, part.marker.total.toNat) ∈
        (List.range' 1 total).map fun index => (index, total) :=
      markers.mem_iff.mp (List.mem_map_of_mem member)
    obtain ⟨index, -, same⟩ := List.mem_map.mp listed
    rw [length]
    exact (congrArg Prod.snd same).symm
  · rw [InPlace, length]
    have risingIndices : (parts.map (·.marker.index.toNat)).Pairwise (· ≤ ·) :=
      List.pairwise_map.mpr (rising.imp UInt32.le_iff_toNat_le.mp)
    have risingRange : (List.range' 1 total).Pairwise (· ≤ ·) :=
      (List.pairwise_lt_range' 1).imp Nat.le_of_lt
    exact indices.eq_of_pairwise (fun _ _ _ _ => Nat.le_antisymm) risingIndices risingRange

/-- Parts in their places that declare their number are a complete set. -/
theorem InPlace.complete {parts : List Part} (inPlace : InPlace parts)
    (totals : ∀ part ∈ parts, part.marker.total.toNat = parts.length) : Complete parts := by
  refine ⟨parts.length, ?_⟩
  have markers : (parts.map fun part => (part.marker.index.toNat, part.marker.total.toNat)) =
      (parts.map (·.marker.index.toNat)).map fun index => (index, parts.length) := by
    rw [List.map_map]
    apply List.map_congr_left
    intro part member
    rw [totals part member]
    rfl
  rw [markers, inPlace]

/-! ## The checks -/

/-- The first part that is out of place stands behind parts that are in their places. -/
theorem misplaced?_cases (place : Nat) (parts : List Part) :
    (misplaced? place parts = none ∧
        parts.map (·.marker.index.toNat) = List.range' place parts.length) ∨
      ∃ before part after, parts = before ++ part :: after ∧
        before.map (·.marker.index.toNat) = List.range' place before.length ∧
        part.marker.index.toNat ≠ place + before.length ∧
        misplaced? place parts = some (place + before.length, part) := by
  induction parts generalizing place with
  | nil => exact Or.inl ⟨rfl, rfl⟩
  | cons first rest inductionHypothesis =>
      by_cases here : first.marker.index.toNat = place
      · rw [misplaced?, if_pos here]
        rcases inductionHypothesis (place + 1) with
          ⟨none, inPlace⟩ | ⟨before, part, after, split, inPlace, misplaced, found⟩
        · refine Or.inl ⟨none, ?_⟩
          rw [List.map_cons, inPlace, here, List.length_cons, List.range'_succ]
        · refine Or.inr ⟨first :: before, part, after, by rw [split, List.cons_append], ?_, ?_, ?_⟩
          · rw [List.map_cons, inPlace, here, List.length_cons, List.range'_succ]
          · rw [List.length_cons, ← Nat.add_assoc, Nat.add_right_comm]
            exact misplaced
          · rw [found, List.length_cons, ← Nat.add_assoc, Nat.add_right_comm]
      · refine Or.inr ⟨[], first, rest, rfl, rfl, here, ?_⟩
        rw [misplaced?, if_neg here]
        rfl

/-- What is wrong with a set that is not complete, and on which change it is reported. The parts of
`sorted` are those of `parts` by rising index. -/
structure Rejects (topic : String) (parts sorted : List Part) (rejected : RejectedSet) :
    Prop where
  members : rejected.members = sorted.map (·.change)
  /-- Totals that differ come first: the first one that is not that of the lowest index. -/
  totalMismatch :
    (∃ part ∈ parts, ∃ other ∈ parts, part.marker.total ≠ other.marker.total) →
    ∃ first before part after, sorted = first :: (before ++ part :: after) ∧
      (∀ other ∈ before, other.marker.total = first.marker.total) ∧
      part.marker.total ≠ first.marker.total ∧
      rejected.change = part.change ∧
      rejected.issue =
        .totalMismatch part.change.reference first.marker.total part.marker.total
  /-- Under one total the number of parts comes next, on the lowest index. -/
  incomplete : ∀ total, (∀ part ∈ parts, part.marker.total = total) →
    parts.length ≠ total.toNat →
    ∃ first rest, sorted = first :: rest ∧ rejected.change = first.change ∧
      rejected.issue = .incomplete topic total parts.length
  /-- With the right number of parts it is the first one out of place. -/
  indexMismatch : ∀ total, (∀ part ∈ parts, part.marker.total = total) →
    parts.length = total.toNat →
    ∃ before part after expected, sorted = before ++ part :: after ∧ InPlace before ∧
      expected.toNat = before.length + 1 ∧ part.marker.index ≠ expected ∧
      rejected.change = part.change ∧
      rejected.issue = .indexMismatch part.change.reference expected part.marker.index

/-- Under one total the number of parts and then their places decide. -/
theorem diagnose?_of_totals {first : Part} {parts : List Part} (topic : String)
    (totals : ∀ part ∈ parts, part.marker.total = first.marker.total) :
    diagnose? topic first parts =
      if parts.length ≠ first.marker.total.toNat then
        some (first.change, .incomplete topic first.marker.total parts.length)
      else
        (misplaced? 1 parts).map fun (place, part) =>
          (part.change,
            .indexMismatch part.change.reference (UInt32.ofNat place) part.marker.index) := by
  have agree : parts.find? (·.marker.total ≠ first.marker.total) = none := by
    rw [List.find?_eq_none]
    intro part member
    simp [totals part member]
  rw [diagnose?, agree]

/-- Parts in their places have no one out of place among them. -/
theorem InPlace.misplaced?_eq_none {parts : List Part} (inPlace : InPlace parts) :
    misplaced? 1 parts = none := by
  rcases misplaced?_cases 1 parts with
    ⟨none, -⟩ | ⟨before, part, after, split, -, misplaced, -⟩
  · exact none
  · rw [InPlace, split, List.map_append, List.map_cons, List.length_append, List.length_cons,
      ← List.range'_append_1, List.range'_succ] at inPlace
    obtain ⟨-, atPlace⟩ := List.append_inj inPlace (by simp)
    exact absurd (List.cons.inj atPlace).1 misplaced

/-! ## The verdict on a set -/

section
variable (topic : String) {parts : List Part}

/-- A complete set is a group, by rising index. -/
theorem assemble_of_complete (complete : Complete parts) :
    assemble topic parts = .ok ⟨(sortParts parts).map (·.change)⟩ ∧ InPlace (sortParts parts) := by
  have sorted := stablySorted_sortParts parts
  obtain ⟨totals, inPlace⟩ := ((complete_congr sorted.perm).mpr complete).of_rising sorted.rising
  have sound : (sortParts parts).head?.bind (diagnose? topic · (sortParts parts)) = none := by
    cases leading : (sortParts parts).head? with
    | none => rfl
    | some first =>
        have member : first ∈ sortParts parts := List.mem_of_mem_head? leading
        have agree : ∀ part ∈ sortParts parts, part.marker.total = first.marker.total :=
          fun part isPart => UInt32.toNat_inj.mp
            ((totals part isPart).trans (totals first member).symm)
        rw [Option.bind_some, diagnose?_of_totals topic agree, totals first member,
          inPlace.misplaced?_eq_none]
        simp
  refine ⟨?_, inPlace⟩
  simp only [assemble, sound]

/-- Two parts that are listed in order are a group. -/
theorem assemble_twoParts (first second : Change) :
    assemble topic [⟨⟨1, 2⟩, first⟩, ⟨⟨2, 2⟩, second⟩] = .ok ⟨[first, second]⟩ := by
  have sorted : sortParts [⟨⟨1, 2⟩, first⟩, ⟨⟨2, 2⟩, second⟩] =
      [⟨⟨1, 2⟩, first⟩, ⟨⟨2, 2⟩, second⟩] := by
    apply List.mergeSort_of_pairwise
    simp
  rw [assemble, sorted]
  rfl

/-- What the checks find on the part of the lowest index rejects the set. -/
theorem assemble_of_diagnosis {first : Part} {rest : List Part} {change : Change} {issue : Issue}
    (sorted : sortParts parts = first :: rest)
    (diagnosed : diagnose? topic first (sortParts parts) = some (change, issue)) :
    assemble topic parts = .error ⟨change, (sortParts parts).map (·.change), issue⟩ := by
  have leading : (sortParts parts).head? = some first := by rw [sorted, List.head?_cons]
  simp only [assemble, leading, Option.bind_some, diagnosed]

/-- Parts that differ in their totals are rejected on the first one that is not that of the lowest
index. -/
theorem rejects_of_totals_ne {first part : Part} {rest : List Part}
    (sorted : sortParts parts = first :: rest)
    (found : (sortParts parts).find? (·.marker.total ≠ first.marker.total) = some part) :
    ∃ rejected, assemble topic parts = .error rejected ∧
      Rejects topic parts (sortParts parts) rejected := by
  have diagnosed : diagnose? topic first (sortParts parts) =
      some (part.change,
        .totalMismatch part.change.reference first.marker.total part.marker.total) := by
    rw [diagnose?, found]
  have perm := (stablySorted_sortParts parts).perm
  obtain ⟨differs, before, after, split, agree⟩ := List.find?_eq_some_iff_append.mp found
  have differs : part.marker.total ≠ first.marker.total := of_decide_eq_true differs
  have isPart : part ∈ parts := perm.mem_iff.mp (List.mem_of_find?_eq_some found)
  have isFirst : first ∈ parts := perm.mem_iff.mp (sorted ▸ List.mem_cons_self)
  have noTotal (total : UInt32) : ¬ ∀ part ∈ parts, part.marker.total = total := by
    intro totals
    exact differs ((totals part isPart).trans (totals first isFirst).symm)
  refine ⟨_, assemble_of_diagnosis topic sorted diagnosed, rfl, ?_, ?_, ?_⟩
  · intro _
    cases before with
    | nil =>
        rw [sorted] at split
        exact absurd (congrArg (·.marker.total) (List.cons.inj split).1.symm) differs
    | cons leading between =>
        obtain rfl : first = leading := (List.cons.inj (sorted.symm.trans split)).1
        refine ⟨first, between, part, after, split, ?_, differs, rfl, rfl⟩
        intro other member
        simpa using agree other (List.mem_cons_of_mem first member)
  · intro total totals
    exact absurd totals (noTotal total)
  · intro total totals
    exact absurd totals (noTotal total)

/-- A set of another number of parts than they declare is rejected on the lowest index. -/
theorem rejects_of_length_ne {first : Part} {rest : List Part}
    (sorted : sortParts parts = first :: rest)
    (totals : ∀ part ∈ sortParts parts, part.marker.total = first.marker.total)
    (miscounted : (sortParts parts).length ≠ first.marker.total.toNat) :
    ∃ rejected, assemble topic parts = .error rejected ∧
      Rejects topic parts (sortParts parts) rejected := by
  have perm := (stablySorted_sortParts parts).perm
  have agree : ∀ part ∈ parts, part.marker.total = first.marker.total :=
    fun part member => totals part (perm.mem_iff.mpr member)
  have isFirst : first ∈ parts := perm.mem_iff.mp (sorted ▸ List.mem_cons_self)
  have diagnosed : diagnose? topic first (sortParts parts) =
      some (first.change, .incomplete topic first.marker.total (sortParts parts).length) := by
    rw [diagnose?_of_totals topic totals, if_pos miscounted]
  refine ⟨_, assemble_of_diagnosis topic sorted diagnosed, rfl, ?_, ?_, ?_⟩
  · rintro ⟨part, member, other, otherMember, differs⟩
    exact absurd ((agree part member).trans (agree other otherMember).symm) differs
  · intro total declared _
    refine ⟨first, rest, sorted, rfl, ?_⟩
    rw [← declared first isFirst, perm.length_eq]
  · intro total declared counted
    rw [← declared first isFirst, ← perm.length_eq] at counted
    exact absurd counted miscounted

/-- A set of the right number of parts is rejected on the first one that is out of place. -/
theorem rejects_of_misplaced {first part : Part} {rest before after : List Part}
    (sorted : sortParts parts = first :: rest)
    (totals : ∀ part ∈ sortParts parts, part.marker.total = first.marker.total)
    (counted : (sortParts parts).length = first.marker.total.toNat)
    (split : sortParts parts = before ++ part :: after) (inPlace : InPlace before)
    (misplaced : part.marker.index.toNat ≠ 1 + before.length)
    (found : misplaced? 1 (sortParts parts) = some (1 + before.length, part)) :
    ∃ rejected, assemble topic parts = .error rejected ∧
      Rejects topic parts (sortParts parts) rejected := by
  have perm := (stablySorted_sortParts parts).perm
  have agree : ∀ part ∈ parts, part.marker.total = first.marker.total :=
    fun part member => totals part (perm.mem_iff.mpr member)
  have isFirst : first ∈ parts := perm.mem_iff.mp (sorted ▸ List.mem_cons_self)
  have diagnosed : diagnose? topic first (sortParts parts) =
      some (part.change,
        .indexMismatch part.change.reference (UInt32.ofNat (1 + before.length))
          part.marker.index) := by
    rw [diagnose?_of_totals topic totals, if_neg (not_not_intro counted), found]
    rfl
  -- A place is at most the number of parts, which is a total.
  have place : (UInt32.ofNat (1 + before.length)).toNat = 1 + before.length := by
    apply UInt32.toNat_ofNat_of_lt'
    have bound : first.marker.total.toNat < UInt32.size := first.marker.total.toNat_lt
    rw [← counted, split, List.length_append, List.length_cons] at bound
    omega
  refine ⟨_, assemble_of_diagnosis topic sorted diagnosed, rfl, ?_, ?_, ?_⟩
  · rintro ⟨part, member, other, otherMember, differs⟩
    exact absurd ((agree part member).trans (agree other otherMember).symm) differs
  · intro total declared miscounted
    rw [← declared first isFirst, ← perm.length_eq] at miscounted
    exact absurd counted miscounted
  · intro total _ _
    refine ⟨before, part, after, _, split, inPlace, place.trans (Nat.add_comm _ _), ?_, rfl, rfl⟩
    intro same
    rw [same] at misplaced
    exact misplaced place

/-- A set that is not complete is rejected with what is wrong with it. -/
theorem assemble_of_not_complete (broken : ¬ Complete parts) :
    ∃ rejected, assemble topic parts = .error rejected ∧
      Rejects topic parts (sortParts parts) rejected := by
  have perm := (stablySorted_sortParts parts).perm
  have broken : ¬ Complete (sortParts parts) := fun whole => broken ((complete_congr perm).mp whole)
  cases sorted : sortParts parts with
  | nil =>
      rw [sorted] at broken
      exact absurd ⟨0, List.Perm.refl []⟩ broken
  | cons first rest =>
      rw [← sorted]
      cases found : (sortParts parts).find? (·.marker.total ≠ first.marker.total) with
      | some part => exact rejects_of_totals_ne topic sorted found
      | none =>
          have totals : ∀ part ∈ sortParts parts, part.marker.total = first.marker.total := by
            intro part member
            simpa using List.find?_eq_none.mp found part member
          by_cases counted : (sortParts parts).length = first.marker.total.toNat
          · rcases misplaced?_cases 1 (sortParts parts) with
              ⟨-, inPlace⟩ | ⟨before, part, after, split, inPlace, misplaced, isFound⟩
            · refine absurd (InPlace.complete inPlace ?_) broken
              intro part member
              rw [totals part member, counted]
            · exact rejects_of_misplaced topic sorted totals counted split inPlace misplaced isFound
          · exact rejects_of_length_ne topic sorted totals counted

/-- The parts of a complete set have one order by index, however they are listed. -/
theorem Complete.sortParts_congr {other : List Part} (complete : Complete parts)
    (perm : parts.Perm other) : sortParts parts = sortParts other := by
  have sorted := stablySorted_sortParts parts
  have otherSorted := stablySorted_sortParts other
  have same : (sortParts parts).Perm (sortParts other) :=
    sorted.perm.trans (perm.trans otherSorted.perm.symm)
  have inPlace := ((complete_congr sorted.perm).mpr complete).of_rising sorted.rising |>.2
  have distinct : ((sortParts parts).map (·.marker.index.toNat)).Nodup := by
    rw [inPlace]
    exact List.nodup_range'
  apply same.eq_of_pairwise ?_ sorted.rising otherSorted.rising
  intro part twin member isTwin atMost atLeast
  have sameIndex := congrArg UInt32.toNat (UInt32.le_antisymm atMost atLeast)
  exact List.inj_on_of_nodup_map distinct member (same.mem_iff.mpr isTwin) sameIndex

/-- The group of a set does not depend on the order in which its parts are listed. -/
theorem assemble_toOption_congr {other : List Part} (perm : parts.Perm other) :
    (assemble topic parts).toOption = (assemble topic other).toOption := by
  by_cases complete : Complete parts
  · rw [(assemble_of_complete topic complete).1,
      (assemble_of_complete topic ((complete_congr perm).mp complete)).1,
      complete.sortParts_congr perm]
  · obtain ⟨rejected, isRejected, -⟩ := assemble_of_not_complete topic complete
    obtain ⟨otherRejected, isOtherRejected, -⟩ := assemble_of_not_complete topic
      (fun whole => complete ((complete_congr perm).mpr whole))
    rw [isRejected, isOtherRejected]
    rfl

end

end ChangeGate.Review
