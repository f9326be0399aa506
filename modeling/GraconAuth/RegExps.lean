/-
This file is a library of the regular expressions of ECMAScript as far as validators
use them: classes of letters, runs of a class, sequences, the start of the text and
what must stand ahead. It names nothing of the system; the letters are any type.

A pattern is read by backtracking: from a place in the text it can end at several
places, in the order in which they are tried. A test asks for a place of the text
from which it can end at all.
-/

import Mathlib.Data.List.Basic
import Mathlib.Data.List.TakeWhile

namespace RegExps

variable {α : Type*}

inductive RegExp (α : Type*) where
  | empty
  | start
  | letter (accepts : α → Bool)
  | many (accepts : α → Bool)
  | sequence (first second : RegExp α)
  | lookahead (body : RegExp α)

/-- A place in a text: what was read, latest first, and what follows. -/
structure Place (α : Type*) where
  before : List α
  rest : List α

/-- Where a run of accepted letters can end, the longest run first. -/
def runs (accepts : α → Bool) (before : List α) : List α → List (Place α)
  | [] => [⟨before, []⟩]
  | letter :: rest =>
    if accepts letter then runs accepts (letter :: before) rest ++ [⟨before, letter :: rest⟩]
    else [⟨before, letter :: rest⟩]

def RegExp.ends : RegExp α → Place α → List (Place α)
  | .empty, place => [place]
  | .start, place => if place.before.isEmpty then [place] else []
  | .letter accepts, place =>
    match place.rest with
    | [] => []
    | next :: rest => if accepts next then [⟨next :: place.before, rest⟩] else []
  | .many accepts, place => runs accepts place.before place.rest
  | .sequence first second, place => (first.ends place).flatMap second.ends
  | .lookahead body, place => if (body.ends place).isEmpty then [] else [place]

def places (before : List α) : List α → List (Place α)
  | [] => [⟨before, []⟩]
  | letter :: rest => ⟨before, letter :: rest⟩ :: places (letter :: before) rest

/-- The pattern can be read from this place. -/
def RegExp.reads (pattern : RegExp α) (place : Place α) : Bool := !(pattern.ends place).isEmpty

/-- `RegExp.prototype.test` -/
def RegExp.test (pattern : RegExp α) (text : List α) : Bool := (places [] text).any pattern.reads

/-! ### Reading -/

section

variable {first second body : RegExp α} {accepts passes : α → Bool} {place : Place α}
  {before rest text : List α}

theorem reads_empty : (RegExp.empty : RegExp α).reads place = true := rfl

theorem reads_letter_cons {letter : α} :
    (RegExp.letter accepts).reads ⟨before, letter :: rest⟩ = accepts letter := by
  cases accepted : accepts letter <;> simp [RegExp.reads, RegExp.ends, accepted]

theorem reads_letter :
    (RegExp.letter accepts).reads ⟨before, rest⟩ = rest.head?.any accepts := by
  cases rest with
  | nil => rfl
  | cons letter rest => exact reads_letter_cons

theorem reads_sequence :
    (RegExp.sequence first second).reads place = (first.ends place).any second.reads := by
  rw [RegExp.reads, RegExp.ends]
  induction first.ends place with
  | nil => rfl
  | cons middle others ih =>
    rw [List.flatMap_cons, List.any_cons, ← ih, RegExp.reads]
    cases second.ends middle <;> rfl

/-- What must stand ahead is checked and not read. -/
theorem reads_lookahead :
    (RegExp.sequence (.lookahead body) second).reads place =
      (body.reads place && second.reads place) := by
  rw [reads_sequence, RegExp.ends, RegExp.reads]
  cases (body.ends place).isEmpty <;> simp

/-- A run of passed letters, and then an accepted one. -/
theorem reads_many_letter :
    (RegExp.sequence (.many passes) (.letter accepts)).reads ⟨before, rest⟩ = true ↔
      ∃ read letter left, rest = read ++ letter :: left ∧ (∀ passed ∈ read, passes passed) ∧
        accepts letter := by
  rw [reads_sequence, RegExp.ends]
  induction rest generalizing before with
  | nil => simp [runs, reads_letter]
  | cons next rest ih =>
    have here : (RegExp.letter accepts).reads ⟨before, next :: rest⟩ = accepts next :=
      reads_letter_cons
    constructor
    · intro reads
      by_cases passed : passes next
      · rw [runs, if_pos passed, List.any_append, Bool.or_eq_true, ih, List.any_cons, here] at reads
        obtain ⟨read, letter, left, rfl, run, accepted⟩ | accepted := reads
        · exact ⟨next :: read, letter, left, rfl, List.forall_mem_cons.mpr ⟨passed, run⟩, accepted⟩
        · exact ⟨[], next, rest, rfl, by simp, by simpa using accepted⟩
      · rw [runs, if_neg passed, List.any_cons, here] at reads
        exact ⟨[], next, rest, rfl, by simp, by simpa using reads⟩
    · rintro ⟨read, letter, left, whole, run, accepted⟩
      cases read with
      | nil =>
        obtain ⟨rfl, rfl⟩ := List.cons.inj whole
        rw [runs]
        split <;> simp [here, accepted]
      | cons head read =>
        obtain ⟨rfl, rfl⟩ := List.cons.inj whole
        obtain ⟨passed, run⟩ := List.forall_mem_cons.mp run
        rw [runs, if_pos passed, List.any_append, Bool.or_eq_true]
        exact Or.inl (ih.mpr ⟨read, letter, left, rfl, run, accepted⟩)

/-- When the accepted letters are passed ones, one of them stands in the run. -/
theorem reads_many_letter_of_passes (passed : ∀ letter, accepts letter → passes letter) :
    (RegExp.sequence (.many passes) (.letter accepts)).reads ⟨before, rest⟩ = true ↔
      ∃ letter ∈ rest.takeWhile passes, accepts letter := by
  rw [reads_many_letter]
  constructor
  · rintro ⟨read, letter, left, rfl, run, accepted⟩
    refine ⟨letter, ?_, accepted⟩
    rw [List.takeWhile_append_of_pos run, List.takeWhile_cons_of_pos (passed letter accepted)]
    simp
  · rintro ⟨letter, inside, accepted⟩
    obtain ⟨read, left, whole⟩ := List.append_of_mem inside
    refine ⟨read, letter, left ++ rest.dropWhile passes, ?_, fun other among => ?_, accepted⟩
    · rw [← List.cons_append, ← List.append_assoc, ← whole, List.takeWhile_append_dropWhile]
    · have among : other ∈ rest.takeWhile passes := by
        rw [whole]
        exact List.mem_append_left _ among
      exact List.mem_takeWhile_imp among

/-! ### Testing -/

theorem before_of_mem_places {place : Place α} (among : place ∈ places before text)
    (first : place.before = []) : before = [] := by
  induction text generalizing before with
  | nil =>
    obtain rfl := List.mem_singleton.mp among
    exact first
  | cons letter text ih =>
    obtain rfl | later := List.mem_cons.mp among
    · exact first
    · exact absurd (ih later) (List.cons_ne_nil letter before)

/-- An anchored pattern is read from the start of the text or not at all. -/
theorem test_start : (RegExp.sequence .start second).test text = second.reads ⟨[], text⟩ := by
  have anchored (place : Place α) : (RegExp.sequence .start second).reads place =
      (place.before.isEmpty && second.reads place) := by
    rw [reads_sequence, RegExp.ends]
    cases place.before.isEmpty <;> simp
  have later (letter : α) (text : List α) :
      (places [letter] text).any (RegExp.sequence .start second).reads = false := by
    rw [List.any_eq_false]
    intro place among
    rw [anchored, Bool.and_eq_true, List.isEmpty_iff]
    rintro ⟨first, -⟩
    exact List.cons_ne_nil letter [] (before_of_mem_places among first)
  cases text with
  | nil => simp [RegExp.test, places, anchored]
  | cons letter text =>
    rw [RegExp.test, places, List.any_cons, later, anchored]
    simp

end

end RegExps
