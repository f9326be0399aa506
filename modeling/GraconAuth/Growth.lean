/-
This file is about tables that only grow. A row of such a table stays at its place for
good and changes only as its kind of row may change; new rows come after it, and their
keys have not been given out before.
-/

import GraconAuth.Rows

namespace Rows

variable {Row : Type} {becomes : Row → Row → Prop} {key : Row → Nat} {bound : Nat}
  {rows next : List Row}

/-- Every row has become what it may become, at its place, and the rows after them have keys from
the bound on. -/
structure Grows (becomes : Row → Row → Prop) (key : Row → Nat) (bound : Nat)
    (rows next : List Row) : Prop where
  kept : ∀ (index : Nat) (row : Row), rows[index]? = some row →
    ∃ later, next[index]? = some later ∧ becomes row later
  fresh : ∀ (index : Nat) (later : Row), rows[index]? = none → next[index]? = some later →
    bound ≤ key later

theorem Grows.refl (unchanged : ∀ row, becomes row row) : Grows becomes key bound rows rows where
  kept _ row stored := ⟨row, stored, unchanged row⟩
  fresh _ _ absent present := by cases absent.symm.trans present

/-- Growth after growth. The key of a row does not change. -/
theorem Grows.trans {larger : Nat} {last : List Row} (grown : bound ≤ larger)
    (lasting : ∀ first second third, becomes first second → becomes second third →
      becomes first third)
    (keyed : ∀ old row, becomes old row → key row = key old)
    (first : Grows becomes key bound rows next) (second : Grows becomes key larger next last) :
    Grows becomes key bound rows last where
  kept index row stored := by
    obtain ⟨between, there, became⟩ := first.kept index row stored
    obtain ⟨later, present, becoming⟩ := second.kept index between there
    exact ⟨later, present, lasting row between later became becoming⟩
  fresh index later absent present := by
    cases there : next[index]? with
    | none => exact Nat.le_trans grown (second.fresh index later there present)
    | some between =>
      obtain ⟨_, same, becoming⟩ := second.kept index between there
      obtain rfl := Option.some.inj (same.symm.trans present)
      rw [keyed between _ becoming]
      exact first.fresh index between absent there

/-- A row that is added at the end. -/
theorem Grows.append (unchanged : ∀ row, becomes row row) {row : Row} (new : bound ≤ key row) :
    Grows becomes key bound rows (rows ++ [row]) where
  kept index old stored := by
    obtain ⟨inside, -⟩ := List.getElem?_eq_some_iff.mp stored
    exact ⟨old, (List.getElem?_append_left inside).trans stored, unchanged old⟩
  fresh index later absent present := by
    rw [List.getElem?_append_right (List.getElem?_eq_none_iff.mp absent)] at present
    obtain rfl := List.mem_singleton.mp (List.mem_of_getElem? present)
    exact new

theorem Grows.updateWhere (unchanged : ∀ row, becomes row row) {matching : Row → Bool}
    {change : Row → Row} (changes : ∀ row, becomes row (change row)) :
    Grows becomes key bound rows (updateWhere matching change rows) where
  kept index row stored := by
    refine ⟨if matching row then change row else row, ?_, ?_⟩
    · rw [Rows.updateWhere, List.getElem?_map, stored]
      rfl
    · split
      · exact changes row
      · exact unchanged row
  fresh index later absent present := by
    rw [Rows.updateWhere, List.getElem?_map, absent] at present
    cases present

theorem Grows.upsertWhere (unchanged : ∀ row, becomes row row) {matching : Row → Bool}
    {change : Row → Row} {row : Row} (changes : ∀ row, becomes row (change row))
    (new : bound ≤ key row) :
    Grows becomes key bound rows (upsertWhere matching change row rows) := by
  unfold Rows.upsertWhere
  split
  · exact Grows.updateWhere unchanged changes
  · exact Grows.append unchanged new

/-- A row that has once been there is there for good. -/
theorem Grows.lasts (grows : Grows becomes key bound rows next) {row : Row} (stored : row ∈ rows) :
    ∃ later ∈ next, becomes row later := by
  obtain ⟨index, there⟩ := List.getElem?_of_mem stored
  obtain ⟨later, present, became⟩ := grows.kept index row there
  exact ⟨later, List.mem_of_getElem? present, became⟩

end Rows
