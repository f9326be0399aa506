/-
This file defines programs that talk to their environment one effect at a time.

A program is a tree. It has ended with a result, it has ended with a failure, or
it awaits the reply to one effect and continues with whatever comes back, a reply
or a failure. An `async` function whose `await`s are the only points at which
other work can run is such a tree: the code between two awaits is pure, and the
tree branches only on what the environment answers. The same tree is read in two
ways: many trees interleaved at their effects (`Pool`), and one tree run to its
end before the next one starts (`Serial`).

Two things are said about a program without running it: its footprint, the effects
it can ever await, and its conduct, a rule that relates each effect it awaits to
the effects it has performed before and to what they were answered.

Nothing here depends on what the effects are.
-/

import Mathlib.Data.List.Infix

namespace Interleaving

/-- A program over an effect alphabet. `Reply effect` is what the environment returns when
the effect succeeds; any effect may fail instead. -/
inductive Program (Effect : Type) (Reply : Effect → Type) (Failure Result : Type) : Type where
  | done (result : Result)
  | raise (failure : Failure)
  | await (effect : Effect)
      (resume : Except Failure (Reply effect) → Program Effect Reply Failure Result)

/-- A performed effect with its reply. -/
structure Event {Effect : Type} (Reply : Effect → Type) (Failure : Type) where
  effect : Effect
  reply : Except Failure (Reply effect)

namespace Program

variable {Effect : Type} {Reply : Effect → Type} {Failure First Second Third : Type}

/-! ### Sequencing -/

/-- Run a program and continue with its result; a failure skips the continuation. -/
def bind (program : Program Effect Reply Failure First)
    (next : First → Program Effect Reply Failure Second) :
    Program Effect Reply Failure Second :=
  match program with
  | .done result => next result
  | .raise failure => .raise failure
  | .await effect resume => .await effect fun reply => (resume reply).bind next

instance : Monad (Program Effect Reply Failure) where
  pure := .done
  bind := bind

/-- Run a program and hand its failure to a handler. -/
def rescue (program : Program Effect Reply Failure First)
    (handler : Failure → Program Effect Reply Failure First) :
    Program Effect Reply Failure First :=
  match program with
  | .done result => .done result
  | .raise failure => handler failure
  | .await effect resume => .await effect fun reply => (resume reply).rescue handler

instance : MonadExcept Failure (Program Effect Reply Failure) where
  throw := .raise
  tryCatch := rescue

/-- Run a program to its outcome without letting a failure escape. -/
def attempt (program : Program Effect Reply Failure First) :
    Program Effect Reply Failure (Except Failure First) :=
  match program with
  | .done result => .done (.ok result)
  | .raise failure => .done (.error failure)
  | .await effect resume => .await effect fun reply => (resume reply).attempt

/-- The program that has already reached an outcome. -/
def ofOutcome : Except Failure First → Program Effect Reply Failure First
  | .ok result => .done result
  | .error failure => .raise failure

/-- Await one effect: its reply is the result and its failure is raised. -/
def perform (effect : Effect) : Program Effect Reply Failure (Reply effect) :=
  .await effect ofOutcome

/-- Raise a failure when a check fails to hold up. -/
def throwIf (condition : Bool) (failure : Failure) : Program Effect Reply Failure Unit :=
  if condition then .raise failure else .done ()

/-- A statement guarded by a condition. -/
def onlyIf (condition : Bool) (program : Program Effect Reply Failure Unit) :
    Program Effect Reply Failure Unit :=
  if condition then program else .done ()

@[simp] theorem pure_eq (result : First) :
    (pure result : Program Effect Reply Failure First) = .done result := rfl

@[simp] theorem throw_eq (failure : Failure) :
    (throw failure : Program Effect Reply Failure First) = .raise failure := rfl

@[simp] theorem tryCatch_eq (program : Program Effect Reply Failure First)
    (handler : Failure → Program Effect Reply Failure First) :
    tryCatch program handler = program.rescue handler := rfl

@[simp] theorem done_bind (result : First) (next : First → Program Effect Reply Failure Second) :
    (Program.done result >>= next) = next result := rfl

@[simp] theorem raise_bind (failure : Failure)
    (next : First → Program Effect Reply Failure Second) :
    (Program.raise failure >>= next) = .raise failure := rfl

@[simp] theorem await_bind (effect : Effect)
    (resume : Except Failure (Reply effect) → Program Effect Reply Failure First)
    (next : First → Program Effect Reply Failure Second) :
    (Program.await effect resume >>= next) = .await effect fun reply => resume reply >>= next :=
  rfl

@[simp] theorem ofOutcome_ok (result : First) :
    (ofOutcome (.ok result) : Program Effect Reply Failure First) = .done result := rfl

@[simp] theorem ofOutcome_error (failure : Failure) :
    (ofOutcome (.error failure) : Program Effect Reply Failure First) = .raise failure := rfl

@[simp] theorem done_rescue (result : First)
    (handler : Failure → Program Effect Reply Failure First) :
    (Program.done result : Program Effect Reply Failure First).rescue handler = .done result := rfl

@[simp] theorem raise_rescue (failure : Failure)
    (handler : Failure → Program Effect Reply Failure First) :
    (Program.raise failure : Program Effect Reply Failure First).rescue handler = handler failure :=
  rfl

theorem bind_assoc (program : Program Effect Reply Failure First)
    (second : First → Program Effect Reply Failure Second)
    (third : Second → Program Effect Reply Failure Third) :
    ((program >>= second) >>= third) = program >>= fun result => second result >>= third := by
  induction program with
  | done result => rfl
  | raise failure => rfl
  | await effect resume inductionHypothesis =>
    simp only [await_bind]
    exact congrArg (Program.await effect) (funext fun reply => inductionHypothesis reply)

/-! ### Footprints -/

/-- Every effect the program can ever await, whatever it is answered, is allowed. -/
def Uses (allowed : Effect → Prop) : Program Effect Reply Failure First → Prop
  | .done _ => True
  | .raise _ => True
  | .await effect resume => allowed effect ∧ ∀ reply, (resume reply).Uses allowed

variable {allowed : Effect → Prop}

@[simp] theorem uses_done (result : First) :
    (Program.done result : Program Effect Reply Failure First).Uses allowed := trivial

@[simp] theorem uses_raise (failure : Failure) :
    (Program.raise failure : Program Effect Reply Failure First).Uses allowed := trivial

/-- Every program uses some effects. -/
theorem uses_any (program : Program Effect Reply Failure First) :
    program.Uses fun _ => True := by
  induction program with
  | done result => trivial
  | raise failure => trivial
  | await effect resume inductionHypothesis => exact ⟨trivial, inductionHypothesis⟩

theorem uses_ofOutcome (outcome : Except Failure First) :
    (ofOutcome outcome : Program Effect Reply Failure First).Uses allowed := by
  cases outcome <;> trivial

theorem uses_perform {effect : Effect} (permitted : allowed effect) :
    (perform effect : Program Effect Reply Failure (Reply effect)).Uses allowed :=
  ⟨permitted, uses_ofOutcome⟩

theorem uses_bind {program : Program Effect Reply Failure First}
    {next : First → Program Effect Reply Failure Second} (first : program.Uses allowed)
    (rest : ∀ result, (next result).Uses allowed) : (program >>= next).Uses allowed := by
  induction program with
  | done result => exact rest result
  | raise failure => trivial
  | await effect resume inductionHypothesis =>
    exact ⟨first.1, fun reply => inductionHypothesis reply (first.2 reply)⟩

theorem uses_rescue {program : Program Effect Reply Failure First}
    {handler : Failure → Program Effect Reply Failure First} (body : program.Uses allowed)
    (handled : ∀ failure, (handler failure).Uses allowed) :
    (program.rescue handler).Uses allowed := by
  induction program with
  | done result => trivial
  | raise failure => exact handled failure
  | await effect resume inductionHypothesis =>
    exact ⟨body.1, fun reply => inductionHypothesis reply (body.2 reply)⟩

theorem uses_attempt {program : Program Effect Reply Failure First}
    (body : program.Uses allowed) : program.attempt.Uses allowed := by
  induction program with
  | done result => trivial
  | raise failure => trivial
  | await effect resume inductionHypothesis =>
    exact ⟨body.1, fun reply => inductionHypothesis reply (body.2 reply)⟩

theorem uses_throwIf (condition : Bool) (failure : Failure) :
    (throwIf condition failure : Program Effect Reply Failure Unit).Uses allowed := by
  cases condition <;> trivial

theorem Uses.mono {weaker : Effect → Prop} {program : Program Effect Reply Failure First}
    (uses : program.Uses allowed) (implies : ∀ effect, allowed effect → weaker effect) :
    program.Uses weaker := by
  induction program with
  | done result => trivial
  | raise failure => trivial
  | await effect resume inductionHypothesis =>
    exact ⟨implies effect uses.1, fun reply => inductionHypothesis reply (uses.2 reply)⟩

/-! ### Conduct -/

/-- A rule of conduct: what a program may count on in the replies, and the effects it may await
after what it has performed, newest first. -/
structure Conduct {Effect : Type} (Reply : Effect → Type) (Failure : Type) where
  expects : Event Reply Failure → Prop
  allows : List (Event Reply Failure) → Effect → Prop

/-- The program keeps to a rule, having performed what is in `past`: every effect it awaits is
allowed after what it has performed by then, whatever the replies, and its outcome meets the
postcondition. -/
def Follows (rule : Conduct Reply Failure)
    (post : List (Event Reply Failure) → Except Failure First → Prop) :
    Program Effect Reply Failure First → List (Event Reply Failure) → Prop
  | .done result, past => post past (.ok result)
  | .raise failure, past => post past (.error failure)
  | .await effect resume, past =>
    rule.allows past effect ∧ ∀ reply, rule.expects ⟨effect, reply⟩ →
      (resume reply).Follows rule post (⟨effect, reply⟩ :: past)

variable {rule : Conduct Reply Failure}
  {post : List (Event Reply Failure) → Except Failure First → Prop}
  {past : List (Event Reply Failure)}

@[simp] theorem follows_done {result : First} :
    (Program.done result : Program Effect Reply Failure First).Follows rule post past ↔
      post past (.ok result) := Iff.rfl

@[simp] theorem follows_raise {failure : Failure} :
    (Program.raise failure : Program Effect Reply Failure First).Follows rule post past ↔
      post past (.error failure) := Iff.rfl

@[simp] theorem follows_ofOutcome {outcome : Except Failure First} :
    (ofOutcome outcome : Program Effect Reply Failure First).Follows rule post past ↔
      post past outcome := by
  cases outcome <;> exact Iff.rfl

@[simp] theorem follows_perform {effect : Effect}
    {post : List (Event Reply Failure) → Except Failure (Reply effect) → Prop} :
    (perform effect : Program Effect Reply Failure (Reply effect)).Follows rule post past ↔
      rule.allows past effect ∧
        ∀ reply, rule.expects ⟨effect, reply⟩ → post (⟨effect, reply⟩ :: past) reply := by
  simp only [perform, Follows, follows_ofOutcome]

/-- Sequencing. -/
theorem follows_bind {post : List (Event Reply Failure) → Except Failure Second → Prop}
    {program : Program Effect Reply Failure First}
    {next : First → Program Effect Reply Failure Second} :
    (program >>= next).Follows rule post past ↔
      program.Follows rule
        (fun now outcome => (ofOutcome outcome >>= next).Follows rule post now) past := by
  induction program generalizing past with
  | done result => exact Iff.rfl
  | raise failure => exact Iff.rfl
  | await effect resume inductionHypothesis =>
    exact and_congr_right fun _ => forall_congr' fun reply => imp_congr_right fun _ =>
      inductionHypothesis reply

/-- One effect followed by the rest of the program: a reply is passed on, a failure ends it. -/
theorem follows_perform_bind {post : List (Event Reply Failure) → Except Failure Second → Prop}
    {effect : Effect} {next : Reply effect → Program Effect Reply Failure Second} :
    (perform effect >>= next).Follows rule post past ↔
      rule.allows past effect ∧
        (∀ value, rule.expects ⟨effect, .ok value⟩ →
          (next value).Follows rule post (⟨effect, .ok value⟩ :: past)) ∧
        ∀ failure, rule.expects ⟨effect, .error failure⟩ →
          post (⟨effect, .error failure⟩ :: past) (.error failure) := by
  rw [follows_bind, follows_perform]
  refine and_congr_right fun _ => ⟨fun rest => ⟨fun value => ?_, fun failure => ?_⟩, ?_⟩
  · exact rest (.ok value)
  · exact rest (.error failure)
  · rintro ⟨passes, fails⟩ (failure | value)
    · exact fails failure
    · exact passes value

theorem follows_rescue {program : Program Effect Reply Failure First}
    {handler : Failure → Program Effect Reply Failure First} :
    (program.rescue handler).Follows rule post past ↔
      program.Follows rule (fun now outcome =>
        match outcome with
        | .ok result => post now (.ok result)
        | .error failure => (handler failure).Follows rule post now) past := by
  induction program generalizing past with
  | done result => exact Iff.rfl
  | raise failure => exact Iff.rfl
  | await effect resume inductionHypothesis =>
    exact and_congr_right fun _ => forall_congr' fun reply => imp_congr_right fun _ =>
      inductionHypothesis reply

theorem follows_attempt
    {post : List (Event Reply Failure) → Except Failure (Except Failure First) → Prop}
    {program : Program Effect Reply Failure First} :
    program.attempt.Follows rule post past ↔
      program.Follows rule (fun now outcome => post now (.ok outcome)) past := by
  induction program generalizing past with
  | done result => exact Iff.rfl
  | raise failure => exact Iff.rfl
  | await effect resume inductionHypothesis =>
    exact and_congr_right fun _ => forall_congr' fun reply => imp_congr_right fun _ =>
      inductionHypothesis reply

theorem follows_throwIf_bind
    {post : List (Event Reply Failure) → Except Failure Second → Prop} {condition : Bool}
    {failure : Failure} {next : Unit → Program Effect Reply Failure Second} :
    (throwIf condition failure >>= next).Follows rule post past ↔
      (condition = true → post past (.error failure)) ∧
        (condition = false → (next ()).Follows rule post past) := by
  cases condition <;> simp [throwIf]

/-- A postcondition may be weakened. -/
theorem Follows.weaken {weaker : List (Event Reply Failure) → Except Failure First → Prop}
    {program : Program Effect Reply Failure First} (follows : program.Follows rule post past)
    (implies : ∀ now outcome, post now outcome → weaker now outcome) :
    program.Follows rule weaker past := by
  induction program generalizing past with
  | done result => exact implies _ _ follows
  | raise failure => exact implies _ _ follows
  | await effect resume inductionHypothesis =>
    exact ⟨follows.1, fun reply expected => inductionHypothesis reply (follows.2 reply expected)⟩

/-- Two postconditions hold together. -/
theorem Follows.and {other : List (Event Reply Failure) → Except Failure First → Prop}
    {program : Program Effect Reply Failure First} (first : program.Follows rule post past)
    (second : program.Follows rule other past) :
    program.Follows rule (fun now outcome => post now outcome ∧ other now outcome) past := by
  induction program generalizing past with
  | done result => exact ⟨first, second⟩
  | raise failure => exact ⟨first, second⟩
  | await effect resume inductionHypothesis =>
    exact ⟨first.1, fun reply expected =>
      inductionHypothesis reply (first.2 reply expected) (second.2 reply expected)⟩

/-- Sequencing with an intermediate assertion. -/
theorem Follows.bind {middle : List (Event Reply Failure) → Except Failure First → Prop}
    {post : List (Event Reply Failure) → Except Failure Second → Prop}
    {program : Program Effect Reply Failure First}
    {next : First → Program Effect Reply Failure Second}
    (first : program.Follows rule middle past)
    (rest : ∀ now result, middle now (.ok result) → (next result).Follows rule post now)
    (fails : ∀ now failure, middle now (.error failure) → post now (.error failure)) :
    (program >>= next).Follows rule post past := by
  rw [follows_bind]
  refine first.weaken fun now outcome holds => ?_
  cases outcome with
  | ok result => exact rest now result holds
  | error failure => exact fails now failure holds

/-- What has been performed stays performed. -/
theorem Follows.grown {program : Program Effect Reply Failure First}
    (follows : program.Follows rule post past) :
    program.Follows rule (fun now outcome => post now outcome ∧ past ⊆ now) past := by
  suffices general : ∀ now, past ⊆ now → program.Follows rule post now →
      program.Follows rule (fun later outcome => post later outcome ∧ past ⊆ later) now from
    general past (List.Subset.refl past) follows
  clear follows
  induction program with
  | done result => exact fun now kept holds => ⟨holds, kept⟩
  | raise failure => exact fun now kept holds => ⟨holds, kept⟩
  | await effect resume inductionHypothesis =>
    exact fun now kept follows => ⟨follows.1, fun reply expected =>
      inductionHypothesis reply _ (List.subset_cons_of_subset _ kept) (follows.2 reply expected)⟩

/-- The past has grown by effects of a footprint. -/
def Extends (allowed : Effect → Prop) (past now : List (Event Reply Failure)) : Prop :=
  ∃ recent, now = recent ++ past ∧ ∀ event ∈ recent, allowed event.effect

theorem extends_refl (past : List (Event Reply Failure)) : Extends allowed past past :=
  ⟨[], rfl, by simp⟩

theorem Extends.mem {now : List (Event Reply Failure)} (grown : Extends allowed past now)
    {event : Event Reply Failure} (member : event ∈ past) : event ∈ now := by
  obtain ⟨recent, rfl, _⟩ := grown
  exact List.mem_append_right _ member

theorem Extends.mono {weaker : Effect → Prop} {now : List (Event Reply Failure)}
    (grown : Extends allowed past now) (implies : ∀ effect, allowed effect → weaker effect) :
    Extends weaker past now := by
  obtain ⟨recent, rfl, inside⟩ := grown
  exact ⟨recent, rfl, fun event member => implies _ (inside event member)⟩

/-- What is new is in the footprint. -/
theorem Extends.mem_or {now : List (Event Reply Failure)} (grown : Extends allowed past now)
    {event : Event Reply Failure} (member : event ∈ now) :
    event ∈ past ∨ allowed event.effect := by
  obtain ⟨recent, rfl, inside⟩ := grown
  rcases List.mem_append.mp member with new | old
  · exact .inr (inside event new)
  · exact .inl old

theorem Extends.trans {now last : List (Event Reply Failure)} (first : Extends allowed past now)
    (second : Extends allowed now last) : Extends allowed past last := by
  obtain ⟨recent, rfl, inside⟩ := first
  obtain ⟨latest, rfl, insideToo⟩ := second
  refine ⟨latest ++ recent, (List.append_assoc _ _ _).symm, fun event member => ?_⟩
  rcases List.mem_append.mp member with new | old
  · exact insideToo event new
  · exact inside event old

/-- A program keeps to a rule that allows its whole footprint, and adds nothing else to the
past. -/
theorem Uses.follows {program : Program Effect Reply Failure First}
    (uses : program.Uses allowed)
    (permits : ∀ now effect, Extends allowed past now → allowed effect → rule.allows now effect) :
    program.Follows rule (fun now _ => Extends allowed past now) past := by
  have general : ∀ now, Extends allowed past now →
      program.Follows rule (fun now _ => Extends allowed past now) now := by
    induction program with
    | done result => exact fun now grown => grown
    | raise failure => exact fun now grown => grown
    | await effect resume inductionHypothesis =>
      intro now grown
      refine ⟨permits now effect grown uses.1, fun reply _ => ?_⟩
      exact inductionHypothesis reply (uses.2 reply) _
        (grown.trans ⟨[⟨effect, reply⟩], rfl, by simpa using uses.1⟩)
  exact general past (extends_refl past)

/-- A program with a harmless footprint, then the rest. -/
theorem Uses.follows_bind {post : List (Event Reply Failure) → Except Failure Second → Prop}
    {program : Program Effect Reply Failure First}
    {next : First → Program Effect Reply Failure Second} (uses : program.Uses allowed)
    (permits : ∀ now effect, Extends allowed past now → allowed effect → rule.allows now effect)
    (rest : ∀ now result, Extends allowed past now → (next result).Follows rule post now)
    (fails : ∀ now failure, Extends allowed past now → post now (.error failure)) :
    (program >>= next).Follows rule post past :=
  (uses.follows permits).bind rest fails

/-- A program that stays within a footprint keeps to a stricter rule, which may count on what has
been performed lying in the footprint too. -/
theorem Follows.within {stricter : Conduct Reply Failure}
    {program : Program Effect Reply Failure First}
    (follows : program.Follows rule post past) (uses : program.Uses allowed)
    (inside : ∀ event ∈ past, allowed event.effect)
    (expects : ∀ event, stricter.expects event → rule.expects event)
    (permits : ∀ now effect, rule.allows now effect → allowed effect →
      (∀ event ∈ now, allowed event.effect) → stricter.allows now effect) :
    program.Follows stricter
      (fun now outcome => post now outcome ∧ ∀ event ∈ now, allowed event.effect) past := by
  induction program generalizing past with
  | done result => exact ⟨follows, inside⟩
  | raise failure => exact ⟨follows, inside⟩
  | await effect resume inductionHypothesis =>
    refine ⟨permits past effect follows.1 uses.1 inside, fun reply expected => ?_⟩
    exact inductionHypothesis reply (follows.2 reply (expects _ expected)) (uses.2 reply)
      (List.forall_mem_cons.mpr ⟨uses.1, inside⟩)

/-! ### Conduct without a postcondition -/

/-- The program keeps to a rule, whatever its outcome. -/
abbrev Abides (rule : Conduct Reply Failure) (program : Program Effect Reply Failure First)
    (past : List (Event Reply Failure)) : Prop :=
  program.Follows rule (fun _ _ => True) past

theorem Follows.abides {program : Program Effect Reply Failure First}
    (follows : program.Follows rule post past) : program.Abides rule past :=
  follows.weaken fun _ _ _ => trivial

/-- A program that keeps to two rules keeps to both at once. -/
theorem Abides.both {expects : Event Reply Failure → Prop}
    {one two : List (Event Reply Failure) → Effect → Prop}
    {program : Program Effect Reply Failure First} (first : program.Abides ⟨expects, one⟩ past)
    (second : program.Abides ⟨expects, two⟩ past) :
    program.Abides ⟨expects, fun now effect => one now effect ∧ two now effect⟩ past := by
  induction program generalizing past with
  | done result => trivial
  | raise failure => trivial
  | await effect resume inductionHypothesis =>
    exact ⟨⟨first.1, second.1⟩, fun reply expected =>
      inductionHypothesis reply (first.2 reply expected) (second.2 reply expected)⟩

theorem abides_perform {effect : Effect} (allowed : rule.allows past effect) :
    (perform effect : Program Effect Reply Failure (Reply effect)).Abides rule past :=
  follows_perform.mpr ⟨allowed, fun _ _ => trivial⟩

theorem abides_perform_bind {effect : Effect}
    {next : Reply effect → Program Effect Reply Failure Second}
    (allowed : rule.allows past effect)
    (rest : ∀ value, rule.expects ⟨effect, .ok value⟩ →
      (next value).Abides rule (⟨effect, .ok value⟩ :: past)) :
    (perform effect >>= next).Abides rule past :=
  follows_perform_bind.mpr ⟨allowed, rest, fun _ _ => trivial⟩

theorem abides_throwIf_bind {condition : Bool} {failure : Failure}
    {next : Unit → Program Effect Reply Failure Second}
    (rest : condition = false → (next ()).Abides rule past) :
    (throwIf condition failure >>= next).Abides rule past :=
  follows_throwIf_bind.mpr ⟨fun _ => trivial, rest⟩

theorem abides_rescue {program : Program Effect Reply Failure First}
    {handler : Failure → Program Effect Reply Failure First} (body : program.Abides rule past)
    (handled : ∀ now failure, (handler failure).Abides rule now) :
    (program.rescue handler).Abides rule past := by
  refine follows_rescue.mpr (body.weaken fun now outcome _ => ?_)
  cases outcome with
  | ok result => trivial
  | error failure => exact handled now failure

/-- One effect whose failure is handled, then the rest. -/
theorem abides_rescue_perform_bind {effect : Effect}
    {handler : Failure → Program Effect Reply Failure (Reply effect)}
    {next : Reply effect → Program Effect Reply Failure Second}
    (allowed : rule.allows past effect)
    (rest : ∀ value, (next value).Abides rule (⟨effect, .ok value⟩ :: past))
    (handled : ∀ failure,
      (handler failure >>= next).Abides rule (⟨effect, .error failure⟩ :: past)) :
    ((perform effect).rescue handler >>= next).Abides rule past := by
  rw [Abides, follows_bind, follows_rescue, follows_perform]
  refine ⟨allowed, fun reply _ => ?_⟩
  cases reply with
  | ok value => exact rest value
  | error failure => exact follows_bind.mp (handled failure)

theorem Abides.attempt {program : Program Effect Reply Failure First}
    (body : program.Abides rule past) : program.attempt.Abides rule past :=
  follows_attempt.mpr body

/-- Sequencing when the second program keeps to the rule whatever its past. -/
theorem Abides.bind {program : Program Effect Reply Failure First}
    {next : First → Program Effect Reply Failure Second} (first : program.Abides rule past)
    (rest : ∀ now result, (next result).Abides rule now) : (program >>= next).Abides rule past :=
  Follows.bind first (fun now result _ => rest now result) fun _ _ _ => trivial

/-- Sequencing when the second program may count on what had been performed before the first. -/
theorem Abides.bind_grown {program : Program Effect Reply Failure First}
    {next : First → Program Effect Reply Failure Second} (first : program.Abides rule past)
    (rest : ∀ now result, past ⊆ now → (next result).Abides rule now) :
    (program >>= next).Abides rule past :=
  Follows.bind first.grown (fun now result kept => rest now result kept.2) fun _ _ _ => trivial

theorem Uses.abides {program : Program Effect Reply Failure First} (uses : program.Uses allowed)
    (permits : ∀ now effect, allowed effect → rule.allows now effect) :
    program.Abides rule past :=
  (uses.follows fun now effect _ inside => permits now effect inside).abides

theorem Uses.abides_bind {program : Program Effect Reply Failure First}
    {next : First → Program Effect Reply Failure Second} (uses : program.Uses allowed)
    (permits : ∀ now effect, allowed effect → rule.allows now effect)
    (rest : ∀ now result, Extends allowed past now → (next result).Abides rule now) :
    (program >>= next).Abides rule past :=
  uses.follows_bind (fun now effect _ inside => permits now effect inside) rest
    fun _ _ _ => trivial

/-! ### Conduct with a postcondition on the results -/

/-- A postcondition that asks nothing of a failure. -/
def Results (holds : List (Event Reply Failure) → First → Prop) (now : List (Event Reply Failure))
    (outcome : Except Failure First) : Prop :=
  ∀ result, outcome = .ok result → holds now result

variable {holds : List (Event Reply Failure) → First → Prop}

@[simp] theorem results_ok {now : List (Event Reply Failure)} {result : First} :
    Results holds now (.ok result) ↔ holds now result :=
  ⟨fun results => results result rfl, fun given _ same => Except.ok.inj same ▸ given⟩

@[simp] theorem results_error {now : List (Event Reply Failure)} {failure : Failure} :
    Results holds now (.error failure) :=
  nofun

theorem results_perform_bind {holds : List (Event Reply Failure) → Second → Prop} {effect : Effect}
    {next : Reply effect → Program Effect Reply Failure Second} (allowed : rule.allows past effect)
    (rest : ∀ value, rule.expects ⟨effect, .ok value⟩ →
      (next value).Follows rule (Results holds) (⟨effect, .ok value⟩ :: past)) :
    (perform effect >>= next).Follows rule (Results holds) past :=
  follows_perform_bind.mpr ⟨allowed, rest, fun _ _ => results_error⟩

theorem results_throwIf_bind {holds : List (Event Reply Failure) → Second → Prop}
    {condition : Bool} {failure : Failure}
    {next : Unit → Program Effect Reply Failure Second}
    (rest : condition = false → (next ()).Follows rule (Results holds) past) :
    (throwIf condition failure >>= next).Follows rule (Results holds) past :=
  follows_throwIf_bind.mpr ⟨fun _ => results_error, rest⟩

/-- Sequencing: the second program may count on what the first has come to, and on what had been
performed before. -/
theorem Follows.results_bind {other : List (Event Reply Failure) → Second → Prop}
    {program : Program Effect Reply Failure First}
    {next : First → Program Effect Reply Failure Second}
    (first : program.Follows rule (Results holds) past)
    (rest : ∀ now result, holds now result → past ⊆ now →
      (next result).Follows rule (Results other) now) :
    (program >>= next).Follows rule (Results other) past :=
  first.grown.bind (fun now result reached => rest now result (results_ok.mp reached.1) reached.2)
    fun _ _ _ => results_error

/-- The same after a program of which nothing is asked. -/
theorem Abides.results_bind {other : List (Event Reply Failure) → Second → Prop}
    {program : Program Effect Reply Failure First}
    {next : First → Program Effect Reply Failure Second} (first : program.Abides rule past)
    (rest : ∀ now result, past ⊆ now → (next result).Follows rule (Results other) now) :
    (program >>= next).Follows rule (Results other) past :=
  Follows.bind first.grown (fun now result kept => rest now result kept.2)
    fun _ _ _ => results_error

end Program

end Interleaving
