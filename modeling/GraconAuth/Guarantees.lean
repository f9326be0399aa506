/-
This file says what a program, run alone, is bound to come to.

A program guarantees a postcondition from a state when none of its effects can be
blocked and when, however the environment answers them, it ends with an outcome and
in a state that the postcondition accepts. What is guaranteed of a sequence is put
together from what is guaranteed of its parts.

An environment can be restricted to some of its choices. What a program guarantees
there, it guarantees as long as the environment makes these choices only.
-/

import GraconAuth.Serial

namespace Interleaving

variable {State Choice Effect Failure First Result : Type} {Reply : Effect → Type}

/-! ### Restricted environments -/

/-- The environment that makes only the permitted choices. -/
def Environment.restrict (environment : Environment State Choice Reply Failure)
    (permits : Choice → Effect → Bool) : Environment State Choice Reply Failure :=
  fun state choice effect => if permits choice effect then environment state choice effect else none

theorem Environment.performs_restrict {environment : Environment State Choice Reply Failure}
    {permits : Choice → Effect → Bool} {state next : State} {effect : Effect}
    {reply : Except Failure (Reply effect)} :
    (environment.restrict permits).Performs state effect reply next ↔
      ∃ choice, permits choice effect = true ∧
        environment state choice effect = some (reply, next) := by
  refine exists_congr fun choice => ?_
  unfold Environment.restrict
  by_cases permitted : permits choice effect = true
  · rw [if_pos permitted]
    exact ⟨fun answered => ⟨permitted, answered⟩, And.right⟩
  · rw [if_neg permitted]
    exact ⟨nofun, fun answered => absurd answered.1 permitted⟩

namespace Program

/-! ### Guarantees -/

/-- Run alone from a state, the program is never blocked, and it ends as the postcondition says
however its effects are answered. -/
def Guarantees (environment : Environment State Choice Reply Failure)
    (post : Except Failure Result → State → Prop) :
    Program Effect Reply Failure Result → State → Prop
  | .done result, state => post (.ok result) state
  | .raise failure, state => post (.error failure) state
  | .await effect resume, state =>
    (∃ reply next, environment.Performs state effect reply next) ∧
      ∀ reply next, environment.Performs state effect reply next →
        (resume reply).Guarantees environment post next

variable {environment : Environment State Choice Reply Failure} {state : State}

@[simp] theorem guarantees_done {post : Except Failure Result → State → Prop} {result : Result} :
    (Program.done result : Program Effect Reply Failure Result).Guarantees environment post state ↔
      post (.ok result) state := Iff.rfl

@[simp] theorem guarantees_raise {post : Except Failure Result → State → Prop}
    {failure : Failure} :
    (Program.raise failure : Program Effect Reply Failure Result).Guarantees environment post
      state ↔ post (.error failure) state := Iff.rfl

@[simp] theorem guarantees_ofOutcome {post : Except Failure Result → State → Prop}
    {outcome : Except Failure Result} :
    (ofOutcome outcome : Program Effect Reply Failure Result).Guarantees environment post state ↔
      post outcome state := by
  cases outcome <;> exact Iff.rfl

/-- Sequencing. -/
theorem guarantees_bind {post : Except Failure Result → State → Prop}
    {program : Program Effect Reply Failure First}
    {next : First → Program Effect Reply Failure Result} :
    (program >>= next).Guarantees environment post state ↔
      program.Guarantees environment (fun outcome now =>
        (ofOutcome outcome >>= next).Guarantees environment post now) state := by
  induction program generalizing state with
  | done result => exact Iff.rfl
  | raise failure => exact Iff.rfl
  | await effect resume inductionHypothesis =>
    exact and_congr_right fun _ => forall_congr' fun reply => forall_congr' fun _ =>
      imp_congr_right fun _ => inductionHypothesis reply

theorem guarantees_rescue {post : Except Failure Result → State → Prop}
    {program : Program Effect Reply Failure Result}
    {handler : Failure → Program Effect Reply Failure Result} :
    (program.rescue handler).Guarantees environment post state ↔
      program.Guarantees environment (fun outcome now =>
        match outcome with
        | .ok result => post (.ok result) now
        | .error failure => (handler failure).Guarantees environment post now) state := by
  induction program generalizing state with
  | done result => exact Iff.rfl
  | raise failure => exact Iff.rfl
  | await effect resume inductionHypothesis =>
    exact and_congr_right fun _ => forall_congr' fun reply => forall_congr' fun _ =>
      imp_congr_right fun _ => inductionHypothesis reply

theorem guarantees_attempt {post : Except Failure (Except Failure Result) → State → Prop}
    {program : Program Effect Reply Failure Result} :
    program.attempt.Guarantees environment post state ↔
      program.Guarantees environment (fun outcome now => post (.ok outcome) now) state := by
  induction program generalizing state with
  | done result => exact Iff.rfl
  | raise failure => exact Iff.rfl
  | await effect resume inductionHypothesis =>
    exact and_congr_right fun _ => forall_congr' fun reply => forall_congr' fun _ =>
      imp_congr_right fun _ => inductionHypothesis reply

theorem guarantees_throwIf_bind {post : Except Failure Result → State → Prop} {condition : Bool}
    {failure : Failure} {next : Unit → Program Effect Reply Failure Result} :
    (throwIf condition failure >>= next).Guarantees environment post state ↔
      (condition = true → post (.error failure) state) ∧
        (condition = false → (next ()).Guarantees environment post state) := by
  cases condition <;> simp [throwIf]

/-- A check that holds up is passed. -/
theorem guarantees_passed {post : Except Failure Result → State → Prop} {condition : Bool}
    {failure : Failure} {next : Unit → Program Effect Reply Failure Result}
    (passed : condition = false) (rest : (next ()).Guarantees environment post state) :
    (throwIf condition failure >>= next).Guarantees environment post state := by
  rw [passed]
  exact rest

theorem Guarantees.weaken {post weaker : Except Failure Result → State → Prop}
    {program : Program Effect Reply Failure Result}
    (guaranteed : program.Guarantees environment post state)
    (implies : ∀ outcome now, post outcome now → weaker outcome now) :
    program.Guarantees environment weaker state := by
  induction program generalizing state with
  | done result => exact implies _ _ guaranteed
  | raise failure => exact implies _ _ guaranteed
  | await effect resume inductionHypothesis =>
    exact ⟨guaranteed.1, fun reply next performs =>
      inductionHypothesis reply (guaranteed.2 reply next performs)⟩

/-- A program that ends well, whatever follows it. -/
theorem Guarantees.bind {middle : First → State → Prop}
    {post : Except Failure Result → State → Prop} {program : Program Effect Reply Failure First}
    {next : First → Program Effect Reply Failure Result}
    (first : program.Guarantees environment
      (fun outcome now => ∃ value, outcome = .ok value ∧ middle value now) state)
    (rest : ∀ value now, middle value now → (next value).Guarantees environment post now) :
    (program >>= next).Guarantees environment post state := by
  refine guarantees_bind.mpr (first.weaken ?_)
  rintro outcome now ⟨value, rfl, holds⟩
  exact rest value now holds

/-- What is guaranteed happens: there is a run, and every run ends as guaranteed. -/
theorem Guarantees.exists_run {post : Except Failure Result → State → Prop}
    {program : Program Effect Reply Failure Result}
    (guaranteed : program.Guarantees environment post state) :
    ∃ trace outcome after, Runs environment program state trace outcome after := by
  induction program generalizing state with
  | done result => exact ⟨[], .ok result, state, rfl, rfl, rfl⟩
  | raise failure => exact ⟨[], .error failure, state, rfl, rfl, rfl⟩
  | await effect resume inductionHypothesis =>
    obtain ⟨⟨reply, between, performs⟩, rest⟩ := guaranteed
    obtain ⟨trace, outcome, after, run⟩ :=
      inductionHypothesis reply (rest reply between performs)
    exact ⟨⟨effect, reply⟩ :: trace, outcome, after, reply, between, trace, rfl, performs, run⟩

theorem Guarantees.post {post : Except Failure Result → State → Prop}
    {program : Program Effect Reply Failure Result}
    (guaranteed : program.Guarantees environment post state)
    {trace : List (Event Reply Failure)} {outcome : Except Failure Result} {after : State}
    (run : Runs environment program state trace outcome after) : post outcome after := by
  induction program generalizing state trace with
  | done result =>
    obtain ⟨-, rfl, rfl⟩ := run
    exact guaranteed
  | raise failure =>
    obtain ⟨-, rfl, rfl⟩ := run
    exact guaranteed
  | await effect resume inductionHypothesis =>
    obtain ⟨reply, between, rest, -, performs, inner⟩ := run
    exact inductionHypothesis reply (guaranteed.2 reply between performs) inner

/-! ### Success -/

/-- Run alone from a state, the program returns, and its result is as the postcondition says. -/
def Returns (environment : Environment State Choice Reply Failure)
    (post : Result → State → Prop) (program : Program Effect Reply Failure Result)
    (state : State) : Prop :=
  program.Guarantees environment
    (fun outcome now => ∃ value, outcome = .ok value ∧ post value now) state

theorem returns_done {post : Result → State → Prop} {result : Result}
    (holds : post result state) :
    (Program.done result : Program Effect Reply Failure Result).Returns environment post state :=
  ⟨result, rfl, holds⟩

/-- Sequencing. -/
theorem Returns.bind {middle : First → State → Prop} {post : Result → State → Prop}
    {program : Program Effect Reply Failure First}
    {next : First → Program Effect Reply Failure Result}
    (first : program.Returns environment middle state)
    (rest : ∀ value now, middle value now → (next value).Returns environment post now) :
    (program >>= next).Returns environment post state :=
  Guarantees.bind first rest

theorem Returns.weaken {post weaker : Result → State → Prop}
    {program : Program Effect Reply Failure Result}
    (returns : program.Returns environment post state)
    (implies : ∀ value now, post value now → weaker value now) :
    program.Returns environment weaker state := by
  refine Guarantees.weaken returns ?_
  rintro outcome now ⟨value, rfl, holds⟩
  exact ⟨value, rfl, implies value now holds⟩

/-- What returns needs no handler. -/
theorem Returns.rescue {post : Result → State → Prop}
    {program : Program Effect Reply Failure Result}
    (returns : program.Returns environment post state)
    (handler : Failure → Program Effect Reply Failure Result) :
    (program.rescue handler).Returns environment post state := by
  refine guarantees_rescue.mpr (Guarantees.weaken returns ?_)
  rintro outcome now ⟨value, rfl, holds⟩
  exact ⟨value, rfl, holds⟩

/-- What returns is caught as its result. -/
theorem Returns.attempt {post : Result → State → Prop}
    {program : Program Effect Reply Failure Result}
    (returns : program.Returns environment post state) :
    program.attempt.Returns environment
      (fun outcome now => ∃ value, outcome = .ok value ∧ post value now) state := by
  refine guarantees_attempt.mpr (Guarantees.weaken returns ?_)
  intro outcome now ends
  exact ⟨outcome, rfl, ends⟩

/-- An effect that always succeeds. -/
theorem returns_perform {effect : Effect} {post : Reply effect → State → Prop}
    (moves : ∃ reply after, environment.Performs state effect reply after)
    (succeeds : ∀ reply after, environment.Performs state effect reply after →
      ∃ value, reply = .ok value ∧ post value after) :
    (perform effect : Program Effect Reply Failure (Reply effect)).Returns environment post
      state := by
  refine ⟨moves, fun reply after performs => ?_⟩
  obtain ⟨value, rfl, holds⟩ := succeeds reply after performs
  exact ⟨value, rfl, holds⟩

end Program

end Interleaving
