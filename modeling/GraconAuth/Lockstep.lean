/-
This file compares two programs that do the same. Programs in lockstep await the
same effects, whatever they are answered, and differ in their results only. When
each effect is chosen the same answer for both, the two runs are the same up to the
results, whatever the environment is.
-/

import GraconAuth.Serial

namespace Interleaving

variable {State Choice Effect Failure First Second Third Fourth : Type} {Reply : Effect → Type}

/-- The programs await the same effects and raise the same failures, and their results are
related. -/
inductive Lockstep (related : First → Second → Prop) :
    Program Effect Reply Failure First → Program Effect Reply Failure Second → Prop
  | done {one : First} {two : Second} (alike : related one two) :
    Lockstep related (.done one) (.done two)
  | raise (failure : Failure) : Lockstep related (.raise failure) (.raise failure)
  | await {effect : Effect} {resume : Except Failure (Reply effect) → Program Effect Reply Failure
      First} {other : Except Failure (Reply effect) → Program Effect Reply Failure Second}
    (alike : ∀ reply, Lockstep related (resume reply) (other reply)) :
    Lockstep related (.await effect resume) (.await effect other)

/-- The outcomes are the same failure, or related results. -/
inductive Alike (related : First → Second → Prop) :
    Except Failure First → Except Failure Second → Prop
  | ok {one : First} {two : Second} (alike : related one two) : Alike related (.ok one) (.ok two)
  | error (failure : Failure) : Alike related (.error failure) (.error failure)

/-- The runs have performed the same, and have ended in the same state with outcomes that are
alike. -/
structure EndsAlike (related : First → Second → Prop)
    (one : List (Event Reply Failure) × Except Failure First × State)
    (two : List (Event Reply Failure) × Except Failure Second × State) : Prop where
  trace : one.1 = two.1
  outcome : Alike related one.2.1 two.2.1
  state : one.2.2 = two.2.2

namespace Lockstep

variable {related : First → Second → Prop} {weaker : Third → Fourth → Prop}

/-- A program is in lockstep with itself. -/
theorem refl {related : First → First → Prop} (reflexive : ∀ result, related result result)
    (program : Program Effect Reply Failure First) : Lockstep related program program := by
  induction program with
  | done result => exact .done (reflexive result)
  | raise failure => exact .raise failure
  | await effect resume inductionHypothesis => exact .await inductionHypothesis

theorem bind {one : Program Effect Reply Failure First} {two : Program Effect Reply Failure Second}
    {next : First → Program Effect Reply Failure Third}
    {other : Second → Program Effect Reply Failure Fourth} (lockstep : Lockstep related one two)
    (rest : ∀ first second, related first second → Lockstep weaker (next first) (other second)) :
    Lockstep weaker (one >>= next) (two >>= other) := by
  induction lockstep with
  | done alike => exact rest _ _ alike
  | raise failure => exact .raise failure
  | await alike inductionHypothesis => exact .await inductionHypothesis

/-- The same program, and then programs in lockstep. -/
theorem after (program : Program Effect Reply Failure First)
    {next : First → Program Effect Reply Failure Third}
    {other : First → Program Effect Reply Failure Fourth}
    (rest : ∀ result, Lockstep weaker (next result) (other result)) :
    Lockstep weaker (program >>= next) (program >>= other) :=
  Lockstep.bind (refl (fun _ => rfl) program) fun _ _ same => same ▸ rest _

/-- The next effect is the same, and the runs go on alike once it is answered. -/
theorem play_await {environment : Environment State Choice Reply Failure} {state : State}
    {effect : Effect} {resume : Except Failure (Reply effect) → Program Effect Reply Failure First}
    {other : Except Failure (Reply effect) → Program Effect Reply Failure Second}
    {choices : List Choice}
    (later : ∀ choice reply next rest, environment state choice effect = some (reply, next) →
      Option.Rel (EndsAlike related) ((resume reply).play environment next rest)
        ((other reply).play environment next rest)) :
    Option.Rel (EndsAlike related)
      ((Program.await effect resume).play environment state choices)
      ((Program.await effect other).play environment state choices) := by
  cases choices with
  | nil => exact .none
  | cons choice rest =>
    cases answered : environment state choice effect with
    | none =>
      simp only [Program.play, answered]
      exact .none
    | some answer =>
      have ended := later choice answer.1 answer.2 rest answered
      simp only [Program.play, answered]
      generalize (resume answer.1).play environment answer.2 rest = one at ended ⊢
      generalize (other answer.1).play environment answer.2 rest = two at ended ⊢
      cases ended with
      | none => exact .none
      | some ends => exact .some ⟨congrArg (_ :: ·) ends.trace, ends.outcome, ends.state⟩

/-- Answered alike, programs in lockstep run alike. -/
theorem play {one : Program Effect Reply Failure First}
    {two : Program Effect Reply Failure Second} (lockstep : Lockstep related one two)
    (environment : Environment State Choice Reply Failure) (state : State)
    (choices : List Choice) :
    Option.Rel (EndsAlike related) (one.play environment state choices)
      (two.play environment state choices) := by
  induction lockstep generalizing state choices with
  | done alike => exact .some ⟨rfl, .ok alike, rfl⟩
  | raise failure => exact .some ⟨rfl, .error failure, rfl⟩
  | await alike inductionHypothesis =>
    exact play_await fun choice reply next rest _ => inductionHypothesis reply next rest

end Lockstep

end Interleaving
