/-
This file runs two programs side by side within one call, as `Promise.all` does: the
pair of results comes when both have ended, and the first failure is raised at once,
while the other program may still go on. A schedule says whose effect is carried out
next. Whatever the schedule, what has been performed is a shuffle of what each of
the two has performed.
-/

import GraconAuth.Serial
import Mathlib.Data.List.Perm.Basic

namespace Interleaving

namespace Program

variable {Effect : Type} {Reply : Effect → Type} {Failure First Second Result : Type}

/-- The other program has failed. This one goes on while the schedule lasts, then the failure is
raised. -/
def outlast (failure : Failure) :
    List Bool → Program Effect Reply Failure First → Program Effect Reply Failure Result
  | _ :: rest, .await effect resume =>
    .await effect fun reply => outlast failure rest (resume reply)
  | _, _ => .raise failure

/-- Two programs side by side. The schedule says for one effect after another whether the first
program goes on, or the second one; when it has run out, the first one goes on to its end, then
the second one. -/
def both : List Bool → Program Effect Reply Failure First → Program Effect Reply Failure Second →
    Program Effect Reply Failure (First × Second)
  | schedule, .raise failure, second => outlast failure schedule second
  | schedule, first, .raise failure => outlast failure schedule first
  | true :: rest, .await effect resume, second =>
    .await effect fun reply => both rest (resume reply) second
  | false :: rest, first, .await effect resume =>
    .await effect fun reply => both rest first (resume reply)
  | _ :: rest, first, second => both rest first second
  | [], first, second => do
    let one ← first
    let two ← second
    return (one, two)

theorem uses_outlast {allowed : Effect → Prop} {program : Program Effect Reply Failure First}
    (uses : program.Uses allowed) (failure : Failure) (schedule : List Bool) :
    (outlast failure schedule program : Program Effect Reply Failure Result).Uses allowed := by
  induction program generalizing schedule with
  | done result => cases schedule <;> trivial
  | raise failure => cases schedule <;> trivial
  | await effect resume inductionHypothesis =>
    cases schedule with
    | nil => trivial
    | cons turn rest => exact ⟨uses.1, fun reply => inductionHypothesis reply (uses.2 reply) rest⟩

/-- Two programs side by side await what each of them awaits. -/
theorem uses_both {allowed : Effect → Prop} {first : Program Effect Reply Failure First}
    {second : Program Effect Reply Failure Second} (usesFirst : first.Uses allowed)
    (usesSecond : second.Uses allowed) (schedule : List Bool) :
    (both schedule first second).Uses allowed := by
  fun_induction both schedule first second with
  | case1 schedule failure second => exact uses_outlast usesSecond _ _
  | case2 schedule first failure _ => exact uses_outlast usesFirst _ _
  | case3 rest effect resume second _ inductionHypothesis =>
    exact ⟨usesFirst.1, fun reply => inductionHypothesis reply (usesFirst.2 reply) usesSecond⟩
  | case4 rest first effect resume _ inductionHypothesis =>
    exact ⟨usesSecond.1, fun reply => inductionHypothesis reply usesFirst (usesSecond.2 reply)⟩
  | case5 turn rest first second _ _ _ _ inductionHypothesis =>
    exact inductionHypothesis usesFirst usesSecond
  | case6 first second _ _ =>
    exact uses_bind usesFirst fun _ => uses_bind usesSecond fun _ => trivial

/-- With these effects and replies, oldest first, the program comes to what is left of it. -/
inductive ComesTo : Program Effect Reply Failure Result → List (Event Reply Failure) →
    Program Effect Reply Failure Result → Prop
  | here (program : Program Effect Reply Failure Result) : ComesTo program [] program
  | next {effect : Effect} {resume : Except Failure (Reply effect) →
        Program Effect Reply Failure Result} {reply : Except Failure (Reply effect)}
      {trace : List (Event Reply Failure)} {rest : Program Effect Reply Failure Result}
      (later : ComesTo (resume reply) trace rest) :
      ComesTo (.await effect resume) (⟨effect, reply⟩ :: trace) rest

/-- How two programs side by side end: with both results, or with a failure of one of them. -/
def EndsBoth (first : Program Effect Reply Failure First)
    (second : Program Effect Reply Failure Second) : Except Failure (First × Second) → Prop
  | .ok (one, two) => first = .done one ∧ second = .done two
  | .error failure => first = .raise failure ∨ second = .raise failure

/-- The events are a shuffle of what the two programs have performed until they ended. -/
def Shuffles (first : Program Effect Reply Failure First)
    (second : Program Effect Reply Failure Second) (trace : List (Event Reply Failure))
    (outcome : Except Failure (First × Second)) : Prop :=
  ∃ left right restFirst restSecond, trace.Perm (left ++ right) ∧ first.ComesTo left restFirst ∧
    second.ComesTo right restSecond ∧ EndsBoth restFirst restSecond outcome

theorem Shuffles.first {effect : Effect} {resume : Except Failure (Reply effect) →
      Program Effect Reply Failure First} {reply : Except Failure (Reply effect)}
    {second : Program Effect Reply Failure Second} {trace : List (Event Reply Failure)}
    {outcome : Except Failure (First × Second)}
    (shuffles : Shuffles (resume reply) second trace outcome) :
    Shuffles (.await effect resume) second (⟨effect, reply⟩ :: trace) outcome := by
  obtain ⟨left, right, restFirst, restSecond, shuffled, one, two, ends⟩ := shuffles
  exact ⟨_ :: left, right, restFirst, restSecond, shuffled.cons _, .next one, two, ends⟩

theorem Shuffles.second {first : Program Effect Reply Failure First} {effect : Effect}
    {resume : Except Failure (Reply effect) → Program Effect Reply Failure Second}
    {reply : Except Failure (Reply effect)} {trace : List (Event Reply Failure)}
    {outcome : Except Failure (First × Second)}
    (shuffles : Shuffles first (resume reply) trace outcome) :
    Shuffles first (.await effect resume) (⟨effect, reply⟩ :: trace) outcome := by
  obtain ⟨left, right, restFirst, restSecond, shuffled, one, two, ends⟩ := shuffles
  refine ⟨left, _ :: right, restFirst, restSecond, ?_, one, .next two, ends⟩
  exact (shuffled.cons _).trans List.perm_middle.symm

end Program

open Program

variable {State Choice Effect Failure First Second Result : Type} {Reply : Effect → Type}
  {environment : Environment State Choice Reply Failure} {before after : State}
  {trace : List (Event Reply Failure)}

theorem Runs.comesTo {program : Program Effect Reply Failure Result}
    {outcome : Except Failure Result} (run : Runs environment program before trace outcome after) :
    program.ComesTo trace (ofOutcome outcome) := by
  induction program generalizing before trace with
  | done result =>
    obtain ⟨rfl, rfl, rfl⟩ := run
    exact .here _
  | raise failure =>
    obtain ⟨rfl, rfl, rfl⟩ := run
    exact .here _
  | await effect resume inductionHypothesis =>
    obtain ⟨reply, between, rest, rfl, _, inner⟩ := run
    exact .next (inductionHypothesis reply inner)

/-- What a program has performed lies in its footprint. -/
theorem Program.ComesTo.uses {allowed : Effect → Prop}
    {program rest : Program Effect Reply Failure Result} (comesTo : program.ComesTo trace rest)
    (uses : program.Uses allowed) : ∀ event ∈ trace, allowed event.effect := by
  induction comesTo with
  | here program => simp
  | next _ inductionHypothesis =>
    exact List.forall_mem_cons.mpr ⟨uses.1, inductionHypothesis (uses.2 _)⟩

/-- A program that outlasts the other one has performed some of its effects. -/
theorem runs_outlast {failure : Failure} {schedule : List Bool}
    {program : Program Effect Reply Failure First} {outcome : Except Failure Result}
    (run : Runs environment (outlast failure schedule program) before trace outcome after) :
    outcome = .error failure ∧ ∃ rest, program.ComesTo trace rest := by
  induction schedule generalizing program before trace with
  | nil =>
    obtain ⟨rfl, rfl, _⟩ := run
    exact ⟨rfl, program, .here _⟩
  | cons _ later inductionHypothesis =>
    cases program with
    | done result =>
      obtain ⟨rfl, rfl, _⟩ := run
      exact ⟨rfl, _, .here _⟩
    | raise other =>
      obtain ⟨rfl, rfl, _⟩ := run
      exact ⟨rfl, _, .here _⟩
    | await effect resume =>
      obtain ⟨reply, between, rest, rfl, _, inner⟩ := run
      obtain ⟨failed, last, comesTo⟩ := inductionHypothesis inner
      exact ⟨failed, last, .next comesTo⟩

/-- One program after the other has ended is a special way of running both. -/
theorem runs_sequence {first : Program Effect Reply Failure First}
    {second : Program Effect Reply Failure Second} {outcome : Except Failure (First × Second)}
    (run : Runs environment (do let one ← first; let two ← second; return (one, two)) before trace
      outcome after) : Shuffles first second trace outcome := by
  obtain ⟨left, right, ended, between, rfl, runFirst, rest⟩ := runs_bind.mp run
  cases ended with
  | error failure =>
    obtain ⟨rfl, rfl, _⟩ := rest
    exact ⟨left, [], _, _, .refl _, runFirst.comesTo, .here _, .inl rfl⟩
  | ok one =>
    rw [ofOutcome_ok, done_bind] at rest
    obtain ⟨right, tail, ended, last, rfl, runSecond, rest⟩ := runs_bind.mp rest
    cases ended with
    | error failure =>
      obtain ⟨rfl, rfl, _⟩ := rest
      rw [List.append_nil]
      exact ⟨left, right, _, _, .refl _, runFirst.comesTo, runSecond.comesTo, .inr rfl⟩
    | ok two =>
      obtain ⟨rfl, rfl, _⟩ := rest
      rw [List.append_nil]
      exact ⟨left, right, _, _, .refl _, runFirst.comesTo, runSecond.comesTo, rfl, rfl⟩

/-- A program that has failed performs nothing more. -/
theorem runs_both_raised {schedule : List Bool} {first : Program Effect Reply Failure First}
    {second : Program Effect Reply Failure Second} {outcome : Except Failure (First × Second)}
    (raised : (∃ failure, first = .raise failure) ∨ ∃ failure, second = .raise failure)
    (run : Runs environment (both schedule first second) before trace outcome after) :
    Shuffles first second trace outcome := by
  have ofFirst : ∀ failure, first = .raise failure → Shuffles first second trace outcome := by
    rintro failure rfl
    rw [both] at run
    obtain ⟨rfl, rest, comesTo⟩ := runs_outlast run
    exact ⟨[], trace, _, rest, .refl _, .here _, comesTo, .inl rfl⟩
  rcases raised with ⟨failure, raised⟩ | ⟨failure, rfl⟩
  · exact ofFirst failure raised
  · by_cases raisedToo : ∃ failure, first = .raise failure
    · obtain ⟨failure, raised⟩ := raisedToo
      exact ofFirst failure raised
    · rw [both] at run
      · obtain ⟨rfl, rest, comesTo⟩ := runs_outlast run
        exact ⟨trace, [], rest, _, by rw [List.append_nil], comesTo, .here _, .inr rfl⟩
      · exact fun failure raised => raisedToo ⟨failure, raised⟩

/-- What two programs side by side have performed is a shuffle of what each has performed. -/
theorem runs_both {schedule : List Bool} {first : Program Effect Reply Failure First}
    {second : Program Effect Reply Failure Second} {outcome : Except Failure (First × Second)}
    (run : Runs environment (both schedule first second) before trace outcome after) :
    Shuffles first second trace outcome := by
  induction schedule generalizing first second before trace with
  | nil =>
    cases first with
    | raise failure => exact runs_both_raised (.inl ⟨failure, rfl⟩) run
    | done one =>
      cases second with
      | raise failure => exact runs_both_raised (.inr ⟨failure, rfl⟩) run
      | done two => exact runs_sequence run
      | await effect resume => exact runs_sequence run
    | await effect resume =>
      cases second with
      | raise failure => exact runs_both_raised (.inr ⟨failure, rfl⟩) run
      | done two => exact runs_sequence run
      | await other resumeToo => exact runs_sequence run
  | cons turn later inductionHypothesis =>
    cases first with
    | raise failure => exact runs_both_raised (.inl ⟨failure, rfl⟩) run
    | done one =>
      cases second with
      | raise failure => exact runs_both_raised (.inr ⟨failure, rfl⟩) run
      | done two => cases turn <;> exact inductionHypothesis run
      | await effect resume =>
        cases turn with
        | true => exact inductionHypothesis run
        | false =>
          obtain ⟨reply, between, rest, rfl, _, inner⟩ := run
          exact (inductionHypothesis inner).second
    | await effect resume =>
      cases second with
      | raise failure => exact runs_both_raised (.inr ⟨failure, rfl⟩) run
      | done two =>
        cases turn with
        | true =>
          obtain ⟨reply, between, rest, rfl, _, inner⟩ := run
          exact (inductionHypothesis inner).first
        | false => exact inductionHypothesis run
      | await other resumeToo =>
        cases turn with
        | true =>
          obtain ⟨reply, between, rest, rfl, _, inner⟩ := run
          exact (inductionHypothesis inner).first
        | false =>
          obtain ⟨reply, between, rest, rfl, _, inner⟩ := run
          exact (inductionHypothesis inner).second

end Interleaving
