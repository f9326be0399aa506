/-
This file treats a database table as the list of its rows and gives the bulk
statements of a relational client on it: change the rows that match, delete the
rows that match, change or insert. A lookup is `List.find?`.
-/

import Mathlib.Data.List.Nodup
import Mathlib.Data.List.Perm.Subperm

namespace Rows

variable {Row : Type}

/-- Change every row that matches. -/
def updateWhere (matching : Row → Bool) (change : Row → Row) (rows : List Row) : List Row :=
  rows.map fun row => if matching row then change row else row

/-- Delete every row that matches. -/
def deleteWhere (matching : Row → Bool) (rows : List Row) : List Row :=
  rows.filter fun row => !matching row

/-- Change the rows that match, or insert a row when none does. -/
def upsertWhere (matching : Row → Bool) (change : Row → Row) (fresh : Row) (rows : List Row) :
    List Row :=
  if rows.any matching then updateWhere matching change rows else rows ++ [fresh]

/-- Every row after a bulk change is a row from before, changed if it matched. -/
theorem mem_updateWhere {matching : Row → Bool} {change : Row → Row} {rows : List Row}
    {row : Row} :
    row ∈ updateWhere matching change rows ↔
      ∃ old ∈ rows, row = if matching old then change old else old := by
  simp only [updateWhere, List.mem_map, eq_comm]

theorem mem_deleteWhere {matching : Row → Bool} {rows : List Row} {row : Row} :
    row ∈ deleteWhere matching rows ↔ row ∈ rows ∧ matching row = false := by
  simp only [deleteWhere, List.mem_filter, Bool.not_eq_true']

/-- A change that a lookup does not see maps the found row. -/
theorem find?_updateWhere {matching wanted : Row → Bool} {change : Row → Row}
    (unseen : ∀ row, wanted (change row) = wanted row) (rows : List Row) :
    (updateWhere matching change rows).find? wanted =
      (rows.find? wanted).map fun row => if matching row then change row else row := by
  induction rows with
  | nil => rfl
  | cons row rest inductionHypothesis =>
    have same : wanted (if matching row then change row else row) = wanted row := by
      split
      · exact unseen row
      · rfl
    simp only [updateWhere, List.map_cons, List.find?_cons, same]
    cases wanted row with
    | true => rfl
    | false => exact inductionHypothesis

/-- A change that neither a lookup nor a column sees leaves that column of the found row. -/
theorem map_find?_updateWhere {Column : Type} {matching wanted : Row → Bool} {change : Row → Row}
    {column : Row → Column} (unseen : ∀ row, wanted (change row) = wanted row)
    (kept : ∀ row, column (change row) = column row) (rows : List Row) :
    ((updateWhere matching change rows).find? wanted).map column =
      (rows.find? wanted).map column := by
  rw [find?_updateWhere unseen, Option.map_map]
  refine congrArg (Option.map · _) (funext fun row => ?_)
  simp only [Function.comp_apply]
  split
  · exact kept row
  · rfl

/-- What a lookup has found it still finds when rows are added. -/
theorem map_find?_append {Column : Type} {wanted : Row → Bool} {column : Row → Column}
    {rows : List Row} {value : Column} (found : (rows.find? wanted).map column = some value)
    (more : List Row) : ((rows ++ more).find? wanted).map column = some value := by
  obtain ⟨row, foundRow, same⟩ := Option.map_eq_some_iff.mp found
  simp only [List.find?_append, foundRow, Option.some_or, Option.map_some, same]

/-- A column that a change keeps is unchanged as a whole. -/
theorem map_updateWhere {Column : Type} {matching : Row → Bool} {change : Row → Row}
    {column : Row → Column} (kept : ∀ row, column (change row) = column row)
    (rows : List Row) : (updateWhere matching change rows).map column = rows.map column := by
  simp only [updateWhere, List.map_map]
  refine List.map_congr_left fun row _ => ?_
  simp only [Function.comp_apply]
  split
  · exact kept row
  · rfl

/-- A change that leaves the table as it is leaves every row that matches as it is. -/
theorem updateWhere_eq_self_iff {matching : Row → Bool} {change : Row → Row} {rows : List Row} :
    updateWhere matching change rows = rows ↔
      ∀ row ∈ rows, matching row = true → change row = row := by
  constructor
  · intro same row stored matched
    obtain ⟨index, bound, rfl⟩ := List.mem_iff_getElem.mp stored
    have changed : (updateWhere matching change rows)[index]? = rows[index]? := by rw [same]
    rw [updateWhere, List.getElem?_map, List.getElem?_eq_getElem bound, Option.map_some,
      if_pos matched, Option.some.injEq] at changed
    exact changed
  · intro kept
    refine (List.map_congr_left fun row stored => ?_).trans (List.map_id rows)
    split
    · rename_i matched
      exact kept row stored matched
    · rfl

/-- A change that makes no row wanted leaves at most the wanted rows there were. -/
theorem filter_updateWhere_sublist {Column : Type} {matching wanted : Row → Bool}
    {change : Row → Row} {column : Row → Column} (kept : ∀ row, column (change row) = column row)
    (fewer : ∀ row, wanted (change row) = true → wanted row = true) (rows : List Row) :
    (((updateWhere matching change rows).filter wanted).map column).Sublist
      ((rows.filter wanted).map column) := by
  induction rows with
  | nil => exact .slnil
  | cons row rest inductionHypothesis =>
    have same : column (if matching row then change row else row) = column row := by
      split
      · exact kept row
      · rfl
    have still : wanted (if matching row then change row else row) = true → wanted row = true := by
      split
      · exact fewer row
      · exact id
    simp only [updateWhere, List.map_cons, List.filter_cons] at inductionHypothesis ⊢
    by_cases after : wanted (if matching row then change row else row) = true
    · rw [if_pos after, if_pos (still after), List.map_cons, List.map_cons, same]
      exact inductionHypothesis.cons_cons _
    · rw [if_neg after]
      split
      · exact inductionHypothesis.cons _
      · exact inductionHypothesis

/-- The wanted rows after a change that leaves none of the changed rows wanted. -/
theorem filter_updateWhere_unwanted {matching wanted : Row → Bool} {change : Row → Row}
    (unwanted : ∀ row, wanted (change row) = false) (rows : List Row) :
    (updateWhere matching change rows).filter wanted =
      (rows.filter wanted).filter fun row => !matching row := by
  induction rows with
  | nil => rfl
  | cons row rest inductionHypothesis =>
    have rest_ : (rest.map fun row => if matching row then change row else row).filter wanted =
        (rest.filter wanted).filter fun row => !matching row := inductionHypothesis
    rw [updateWhere, List.map_cons, List.filter_cons, List.filter_cons, rest_]
    cases matched : matching row with
    | true => cases wanted row <;> simp [unwanted, matched]
    | false => cases given : wanted row <;> simp [given, matched]

/-- A selection that no changed row is in, and that does not see the change, is as before. -/
theorem filter_updateWhere_other {matching wanted : Row → Bool} {change : Row → Row}
    (unseen : ∀ row, wanted (change row) = wanted row) {rows : List Row}
    (apart : ∀ row ∈ rows, matching row = true → wanted row = false) :
    (updateWhere matching change rows).filter wanted = rows.filter wanted := by
  induction rows with
  | nil => rfl
  | cons row rest inductionHypothesis =>
    obtain ⟨first, later⟩ := List.forall_mem_cons.mp apart
    have rest_ : (rest.map fun row => if matching row then change row else row).filter wanted =
        rest.filter wanted := inductionHypothesis later
    rw [updateWhere, List.map_cons, List.filter_cons, List.filter_cons, rest_]
    cases matched : matching row with
    | true => simp [unseen, first matched]
    | false => simp

/-- A selection that no deleted row is in is as before. -/
theorem filter_deleteWhere_other {matching wanted : Row → Bool} {rows : List Row}
    (apart : ∀ row ∈ rows, matching row = true → wanted row = false) :
    (deleteWhere matching rows).filter wanted = rows.filter wanted := by
  rw [deleteWhere, List.filter_filter]
  refine List.filter_congr fun row member => ?_
  cases matched : matching row with
  | true => simp [apart row member matched]
  | false => simp

/-- A selection that the new row is not in is as before. -/
theorem filter_concat_other {wanted : Row → Bool} {row : Row} (unwanted : wanted row = false)
    (rows : List Row) : (rows ++ [row]).filter wanted = rows.filter wanted := by
  simp [unwanted]

/-- A lookup that sees neither the change nor the fresh row differently finds what an upsert under
it leaves. -/
theorem find?_upsertWhere {matching : Row → Bool} {change : Row → Row} {fresh : Row}
    (unseen : ∀ row, matching (change row) = matching row) (matched : matching fresh = true)
    (rows : List Row) :
    (upsertWhere matching change fresh rows).find? matching =
      some (((rows.find? matching).map change).getD fresh) := by
  unfold upsertWhere
  split
  · rename_i stored
    obtain ⟨row, found⟩ :=
      Option.isSome_iff_exists.mp (List.find?_isSome.mpr (by simpa using stored))
    rw [find?_updateWhere unseen, found]
    simp only [Option.map_some, Option.getD_some, if_pos (List.find?_some found)]
  · rename_i absent
    have nothing : rows.find? matching = none := by simpa using absent
    rw [List.find?_append, nothing]
    simp [matched]

/-- A lookup that an upsert does not concern finds what it found before. -/
theorem find?_upsertWhere_other {matching wanted : Row → Bool} {change : Row → Row} {fresh : Row}
    (unseen : ∀ row, wanted (change row) = wanted row) (unmatched : wanted fresh = false)
    (apart : ∀ row, matching row = true → wanted row = false) (rows : List Row) :
    (upsertWhere matching change fresh rows).find? wanted = rows.find? wanted := by
  unfold upsertWhere
  split
  · rw [find?_updateWhere unseen]
    cases found : rows.find? wanted with
    | none => rfl
    | some row =>
      have unchanged : ¬matching row = true := fun matches_ => by
        have := apart row matches_
        rw [List.find?_some found] at this
        cases this
      simp only [Option.map_some, if_neg unchanged]
  · rw [List.find?_append]
    simp [unmatched]

/-- Every row after an upsert is the fresh row, or a row from before, changed if it matched. -/
theorem mem_upsertWhere {matching : Row → Bool} {change : Row → Row} {fresh : Row}
    {rows : List Row} {row : Row} (member : row ∈ upsertWhere matching change fresh rows) :
    row = fresh ∨ ∃ old ∈ rows, row = if matching old then change old else old := by
  unfold upsertWhere at member
  split at member
  · exact .inr (mem_updateWhere.mp member)
  · rcases List.mem_append.mp member with old | new
    · rename_i absent
      refine .inr ⟨row, old, ?_⟩
      have unmatched : ¬matching row = true := fun matched =>
        absent (List.any_eq_true.mpr ⟨row, old, matched⟩)
      rw [if_neg unmatched]
    · exact .inl (List.mem_singleton.mp new)

/-! ### Ids drawn from a counter -/

/-- The ids are distinct and were all drawn from a counter that stands at `bound`. -/
structure Keyed (bound : Nat) (ids : List Nat) : Prop where
  distinct : ids.Nodup
  below : ∀ id ∈ ids, id < bound

theorem Keyed.grow {bound later : Nat} {ids : List Nat} (keyed : Keyed bound ids)
    (grown : bound ≤ later) : Keyed later ids :=
  ⟨keyed.distinct, fun id member => Nat.lt_of_lt_of_le (keyed.below id member) grown⟩

theorem Keyed.append {bound later : Nat} {ids : List Nat} (keyed : Keyed bound ids) {id : Nat}
    (fresh : bound ≤ id) (drawn : id < later) : Keyed later (ids ++ [id]) := by
  refine ⟨?_, fun other member => ?_⟩
  · rw [List.nodup_append]
    refine ⟨keyed.distinct, List.nodup_singleton id, fun other member new single => ?_⟩
    obtain rfl := List.mem_singleton.mp single
    rintro rfl
    exact absurd (keyed.below other member) (Nat.not_lt.mpr fresh)
  · rcases List.mem_append.mp member with old | single
    · have := keyed.below other old
      omega
    · obtain rfl := List.mem_singleton.mp single
      exact drawn

theorem Keyed.sublist {bound : Nat} {ids kept : List Nat} (keyed : Keyed bound ids)
    (sublist : kept.Sublist ids) : Keyed bound kept :=
  ⟨keyed.distinct.sublist sublist, fun id member => keyed.below id (sublist.subset member)⟩

theorem Keyed.updateWhere {bound : Nat} {key : Row → Nat} {matching : Row → Bool}
    {change : Row → Row} {rows : List Row} (keyed : Keyed bound (rows.map key))
    (kept : ∀ row, key (change row) = key row) :
    Keyed bound ((Rows.updateWhere matching change rows).map key) := by
  rw [map_updateWhere kept]
  exact keyed

/-- The row with an id belongs to an owner as long as it is there, and the id is not drawn
again. -/
structure Held (key owner : Row → Nat) (bound : Nat) (rows : List Row) (id holder : Nat) :
    Prop where
  drawn : id < bound
  owned : ∀ row ∈ rows, key row = id → owner row = holder

section Held

variable {key owner : Row → Nat} {bound later id holder : Nat} {rows : List Row}

theorem Keyed.held (keyed : Keyed bound (rows.map key)) {row : Row} (stored : row ∈ rows)
    (owner : Row → Nat) : Held key owner bound rows (key row) (owner row) where
  drawn := keyed.below _ (List.mem_map_of_mem stored)
  owned other member same := by
    rw [List.inj_on_of_nodup_map keyed.distinct member stored same]

theorem Held.grow (held : Held key owner bound rows id holder) (grown : bound ≤ later) :
    Held key owner later rows id holder :=
  ⟨Nat.lt_of_lt_of_le held.drawn grown, held.owned⟩

theorem Held.subset (held : Held key owner bound rows id holder) {kept : List Row}
    (inside : kept ⊆ rows) : Held key owner bound kept id holder :=
  ⟨held.drawn, fun row member => held.owned row (inside member)⟩

theorem Held.concat (held : Held key owner bound rows id holder) {row : Row}
    (fresh : bound ≤ key row) (grown : bound ≤ later) :
    Held key owner later (rows ++ [row]) id holder := by
  refine ⟨Nat.lt_of_lt_of_le held.drawn grown, fun other member same => ?_⟩
  rcases List.mem_append.mp member with old | new
  · exact held.owned other old same
  · obtain rfl := List.mem_singleton.mp new
    exact absurd (same ▸ held.drawn) (Nat.not_lt.mpr fresh)

theorem Held.updateWhere (held : Held key owner bound rows id holder) {matching : Row → Bool}
    {change : Row → Row} (sameKey : ∀ row, key (change row) = key row)
    (sameOwner : ∀ row, owner (change row) = owner row) :
    Held key owner bound (Rows.updateWhere matching change rows) id holder := by
  refine ⟨held.drawn, fun row member same => ?_⟩
  obtain ⟨old, stored, rfl⟩ := mem_updateWhere.mp member
  split at same
  · rw [if_pos ‹_›, sameOwner]
    exact held.owned old stored ((sameKey old).symm.trans same)
  · rw [if_neg ‹_›]
    exact held.owned old stored same

end Held

/-- Rows with distinct keys that are all found among others are not more than those. -/
theorem length_le_of_keys {Key : Type} {key : Row → Key} {rows others : List Row}
    (distinct : (rows.map key).Nodup)
    (found : ∀ row ∈ rows, ∃ other ∈ others, key other = key row) :
    rows.length ≤ others.length := by
  have inside : rows.map key ⊆ others.map key := by
    intro wanted member
    obtain ⟨row, stored, rfl⟩ := List.mem_map.mp member
    obtain ⟨other, storedOther, same⟩ := found row stored
    exact List.mem_map.mpr ⟨other, storedOther, same⟩
  have shorter := (distinct.subperm inside).length_le
  rwa [List.length_map, List.length_map] at shorter

/-- The rows that have stored a wanted item are not more than the wanted items. -/
theorem countP_any_le {Item : Type} (stored : Row → List Item) (wanted : Item → Bool)
    (rows : List Row) :
    rows.countP (fun row => (stored row).any wanted) ≤ (rows.flatMap stored).countP wanted := by
  induction rows with
  | nil => exact Nat.le_refl _
  | cons row rest inductionHypothesis =>
    rw [List.flatMap_cons, List.countP_append, List.countP_cons]
    split
    · rename_i found
      have := List.one_le_countP_iff.mpr (List.any_eq_true.mp found)
      omega
    · omega

/-- Rows with distinct keys are equal when their keys are. -/
theorem eq_of_key {Key : Type} {key : Row → Key} {rows : List Row}
    (distinct : (rows.map key).Nodup) {first second : Row} (memberFirst : first ∈ rows)
    (memberSecond : second ∈ rows) (same : key first = key second) : first = second :=
  List.inj_on_of_nodup_map distinct memberFirst memberSecond same

/-- A column stays unique when the one row with a key takes a value that no other row has. -/
theorem nodup_map_updateWhere {Key Column : Type} [DecidableEq Key] {key : Row → Key}
    {column : Row → Column} {rows : List Row} {wanted : Key} {change : Row → Row} {value : Column}
    (keys : (rows.map key).Nodup) (columns : (rows.map column).Nodup)
    (sets : ∀ row, column (change row) = value)
    (free : ∀ row ∈ rows, column row = value → key row = wanted) :
    ((updateWhere (fun row => key row == wanted) change rows).map column).Nodup := by
  rw [updateWhere, List.map_map]
  refine keys.of_map.map_on fun first memberFirst second memberSecond same => ?_
  simp only [Function.comp_apply, beq_iff_eq] at same
  by_cases one : key first = wanted
  · by_cases two : key second = wanted
    · exact eq_of_key keys memberFirst memberSecond (one.trans two.symm)
    · rw [if_pos one, if_neg two, sets] at same
      exact absurd (free second memberSecond same.symm) two
  · by_cases two : key second = wanted
    · rw [if_neg one, if_pos two, sets] at same
      exact absurd (free first memberFirst same) one
    · rw [if_neg one, if_neg two] at same
      exact eq_of_key columns memberFirst memberSecond same

/-- A value of a column leads to a row. -/
theorem exists_find? {Column : Type} [BEq Column] [LawfulBEq Column] {column : Row → Column}
    {rows : List Row} {value : Column} (member : value ∈ rows.map column) :
    ∃ row, rows.find? (fun row => column row == value) = some row := by
  obtain ⟨row, stored, same⟩ := List.mem_map.mp member
  exact Option.isSome_iff_exists.mp (List.find?_isSome.mpr ⟨row, stored, beq_iff_eq.mpr same⟩)

/-- A row is found by its key. -/
theorem find?_key {Key : Type} [BEq Key] [LawfulBEq Key] {key : Row → Key} {rows : List Row}
    (distinct : (rows.map key).Nodup) {row : Row} (stored : row ∈ rows) :
    rows.find? (fun other => key other == key row) = some row := by
  cases found : rows.find? (fun other => key other == key row) with
  | none => exact absurd (beq_self_eq_true _) (List.find?_eq_none.mp found row stored)
  | some other =>
    have matched := List.find?_some found
    have same : key other = key row := by simpa using matched
    rw [eq_of_key distinct (List.mem_of_find?_eq_some found) stored same]

end Rows
