/-
This file runs programs one at a time: each request is served to its end before
the next one arrives. A run of a program keeps its trace, the effects it performed
with their replies, so that a fault is visible at the effect it struck. A serial
run is a special run of the pool, so whatever holds in every reachable pool holds
along every serial run.
-/

import GraconAuth.Pool

namespace Interleaving

open Relation

variable {State Choice Effect Failure Request Result First : Type} {Reply : Effect → Type}

/-! ### One program -/

/-- A program, run alone from one state, can perform the effects of a trace, oldest first, and
end in another state with an outcome. -/
def Runs (environment : Environment State Choice Reply Failure) :
    Program Effect Reply Failure Result → State → List (Event Reply Failure) →
      Except Failure Result → State → Prop
  | .done result, before, trace, outcome, after =>
    trace = [] ∧ outcome = .ok result ∧ after = before
  | .raise failure, before, trace, outcome, after =>
    trace = [] ∧ outcome = .error failure ∧ after = before
  | .await effect resume, before, trace, outcome, after => ∃ reply between rest,
      trace = ⟨effect, reply⟩ :: rest ∧
        environment.Performs before effect reply between ∧
          Runs environment (resume reply) between rest outcome after

variable {environment : Environment State Choice Reply Failure} {before after : State}
  {trace : List (Event Reply Failure)}

@[simp] theorem runs_done {result : Result} {outcome : Except Failure Result} :
    Runs environment (.done result) before trace outcome after ↔
      trace = [] ∧ outcome = .ok result ∧ after = before := Iff.rfl

@[simp] theorem runs_raise {failure : Failure} {outcome : Except Failure Result} :
    Runs environment (.raise failure) before trace outcome after ↔
      trace = [] ∧ outcome = .error failure ∧ after = before := Iff.rfl

@[simp] theorem runs_ofOutcome {ended outcome : Except Failure Result} :
    Runs environment (Program.ofOutcome ended) before trace outcome after ↔
      trace = [] ∧ outcome = ended ∧ after = before := by
  cases ended <;> exact Iff.rfl

@[simp] theorem runs_perform {effect : Effect} {outcome : Except Failure (Reply effect)} :
    Runs environment (Program.perform effect) before trace outcome after ↔
      trace = [⟨effect, outcome⟩] ∧ environment.Performs before effect outcome after := by
  constructor
  · rintro ⟨reply, between, rest, rfl, performs, run⟩
    obtain ⟨rfl, rfl, rfl⟩ := runs_ofOutcome.mp run
    exact ⟨rfl, performs⟩
  · rintro ⟨rfl, performs⟩
    exact ⟨outcome, after, [], rfl, performs, runs_ofOutcome.mpr ⟨rfl, rfl, rfl⟩⟩

/-- A sequence either passes the result on or stops at the first failure. -/
theorem runs_bind {program : Program Effect Reply Failure First}
    {next : First → Program Effect Reply Failure Result} {outcome : Except Failure Result} :
    Runs environment (program >>= next) before trace outcome after ↔
      ∃ first second ended between, trace = first ++ second ∧
        Runs environment program before first ended between ∧
          Runs environment (Program.ofOutcome ended >>= next) between second outcome after := by
  induction program generalizing before trace with
  | done result =>
    constructor
    · intro rest
      exact ⟨[], trace, .ok result, before, rfl, ⟨rfl, rfl, rfl⟩, rest⟩
    · rintro ⟨_, _, _, _, rfl, ⟨rfl, rfl, rfl⟩, rest⟩
      exact rest
  | raise failure =>
    constructor
    · intro rest
      exact ⟨[], trace, .error failure, before, rfl, ⟨rfl, rfl, rfl⟩, rest⟩
    · rintro ⟨_, _, _, _, rfl, ⟨rfl, rfl, rfl⟩, rest⟩
      exact rest
  | await effect resume inductionHypothesis =>
    constructor
    · rintro ⟨reply, between, rest, rfl, performs, run⟩
      obtain ⟨first, second, ended, last, rfl, runFirst, runSecond⟩ :=
        (inductionHypothesis reply).mp run
      exact ⟨⟨effect, reply⟩ :: first, second, ended, last, rfl,
        ⟨reply, between, first, rfl, performs, runFirst⟩, runSecond⟩
    · rintro ⟨_, second, ended, last, rfl, ⟨reply, between, first, rfl, performs, runFirst⟩,
        runSecond⟩
      exact ⟨reply, between, first ++ second, rfl, performs,
        (inductionHypothesis reply).mpr ⟨first, second, ended, last, rfl, runFirst, runSecond⟩⟩

/-- One effect followed by the rest of the program. -/
theorem runs_perform_bind {effect : Effect}
    {next : Reply effect → Program Effect Reply Failure Result}
    {outcome : Except Failure Result} :
    Runs environment (Program.perform effect >>= next) before trace outcome after ↔
      ∃ reply between rest, trace = ⟨effect, reply⟩ :: rest ∧
        environment.Performs before effect reply between ∧
          Runs environment (Program.ofOutcome reply >>= next) between rest outcome after := Iff.rfl

/-- One effect whose failure is handled, followed by the rest of the program. -/
theorem runs_rescue_perform_bind {effect : Effect}
    {handler : Failure → Program Effect Reply Failure (Reply effect)}
    {next : Reply effect → Program Effect Reply Failure Result}
    {outcome : Except Failure Result} :
    Runs environment ((Program.perform effect).rescue handler >>= next) before trace outcome
        after ↔
      ∃ reply between rest, trace = ⟨effect, reply⟩ :: rest ∧
        environment.Performs before effect reply between ∧
          Runs environment ((Program.ofOutcome reply).rescue handler >>= next) between rest outcome
            after := Iff.rfl

/-- A handled program ends as it ended, or as the handler of its failure does. -/
theorem runs_rescue {program : Program Effect Reply Failure Result}
    {handler : Failure → Program Effect Reply Failure Result}
    {outcome : Except Failure Result} :
    Runs environment (program.rescue handler) before trace outcome after ↔
      ∃ first second ended between, trace = first ++ second ∧
        Runs environment program before first ended between ∧
          Runs environment ((Program.ofOutcome ended).rescue handler) between second outcome
            after := by
  induction program generalizing before trace with
  | done result =>
    constructor
    · intro rest
      exact ⟨[], trace, .ok result, before, rfl, ⟨rfl, rfl, rfl⟩, rest⟩
    · rintro ⟨_, _, _, _, rfl, ⟨rfl, rfl, rfl⟩, rest⟩
      exact rest
  | raise failure =>
    constructor
    · intro rest
      exact ⟨[], trace, .error failure, before, rfl, ⟨rfl, rfl, rfl⟩, rest⟩
    · rintro ⟨_, _, _, _, rfl, ⟨rfl, rfl, rfl⟩, rest⟩
      exact rest
  | await effect resume inductionHypothesis =>
    constructor
    · rintro ⟨reply, between, rest, rfl, performs, run⟩
      obtain ⟨first, second, ended, last, rfl, runFirst, runSecond⟩ :=
        (inductionHypothesis reply).mp run
      exact ⟨⟨effect, reply⟩ :: first, second, ended, last, rfl,
        ⟨reply, between, first, rfl, performs, runFirst⟩, runSecond⟩
    · rintro ⟨_, second, ended, last, rfl, ⟨reply, between, first, rfl, performs, runFirst⟩,
        runSecond⟩
      exact ⟨reply, between, first ++ second, rfl, performs,
        (inductionHypothesis reply).mpr ⟨first, second, ended, last, rfl, runFirst, runSecond⟩⟩

theorem runs_throwIf_bind {condition : Bool} {failure : Failure}
    {next : Unit → Program Effect Reply Failure Result} {outcome : Except Failure Result} :
    Runs environment (Program.throwIf condition failure >>= next) before trace outcome after ↔
      (condition = true ∧ trace = [] ∧ outcome = .error failure ∧ after = before) ∨
        (condition = false ∧ Runs environment (next ()) before trace outcome after) := by
  cases condition <;> simp [Program.throwIf]

/-- Attempting a program ends well, with the program's own outcome. -/
theorem runs_attempt {program : Program Effect Reply Failure First}
    {outcome : Except Failure (Except Failure First)} :
    Runs environment program.attempt before trace outcome after ↔
      ∃ ended, outcome = .ok ended ∧ Runs environment program before trace ended after := by
  induction program generalizing before trace with
  | done result =>
    constructor
    · rintro ⟨rfl, rfl, rfl⟩
      exact ⟨_, rfl, rfl, rfl, rfl⟩
    · rintro ⟨_, rfl, rfl, rfl, rfl⟩
      exact ⟨rfl, rfl, rfl⟩
  | raise failure =>
    constructor
    · rintro ⟨rfl, rfl, rfl⟩
      exact ⟨_, rfl, rfl, rfl, rfl⟩
    · rintro ⟨_, rfl, rfl, rfl, rfl⟩
      exact ⟨rfl, rfl, rfl⟩
  | await effect resume inductionHypothesis =>
    constructor
    · rintro ⟨reply, between, rest, rfl, performs, run⟩
      obtain ⟨ended, same, inner⟩ := (inductionHypothesis reply).mp run
      exact ⟨ended, same, reply, between, rest, rfl, performs, inner⟩
    · rintro ⟨ended, same, reply, between, rest, rfl, performs, inner⟩
      exact ⟨reply, between, rest, rfl, performs, (inductionHypothesis reply).mpr
        ⟨ended, same, inner⟩⟩

/-- An invariant of what has been performed and the state, kept by every effect that the rule of
the program allows. -/
theorem Runs.invariant {rule : Program.Conduct Reply Failure}
    {post : List (Event Reply Failure) → Except Failure Result → Prop}
    {past : List (Event Reply Failure)} {program : Program Effect Reply Failure Result}
    {outcome : Except Failure Result} (run : Runs environment program before trace outcome after)
    (expects : ∀ state effect reply next, environment.Performs state effect reply next →
      rule.expects ⟨effect, reply⟩)
    (follows : program.Follows rule post past)
    (inv : List (Event Reply Failure) → State → Prop) (base : inv past before)
    (keeps : ∀ past state effect reply next, rule.allows past effect → inv past state →
      environment.Performs state effect reply next → inv (⟨effect, reply⟩ :: past) next) :
    inv (trace.reverse ++ past) after := by
  induction program generalizing before trace past with
  | done result =>
    obtain ⟨rfl, _, rfl⟩ := run
    exact base
  | raise failure =>
    obtain ⟨rfl, _, rfl⟩ := run
    exact base
  | await effect resume inductionHypothesis =>
    obtain ⟨reply, between, rest, rfl, performs, inner⟩ := run
    have ended := inductionHypothesis reply inner (follows.2 reply (expects _ _ _ _ performs))
      (keeps past before effect reply between follows.1 base performs)
    rwa [List.reverse_cons, List.append_assoc, List.singleton_append]

/-- A run ends as the postcondition of its program says. -/
theorem Runs.post {rule : Program.Conduct Reply Failure}
    {post : List (Event Reply Failure) → Except Failure Result → Prop}
    {past : List (Event Reply Failure)} {program : Program Effect Reply Failure Result}
    {outcome : Except Failure Result} (run : Runs environment program before trace outcome after)
    (expects : ∀ state effect reply next, environment.Performs state effect reply next →
      rule.expects ⟨effect, reply⟩)
    (follows : program.Follows rule post past) : post (trace.reverse ++ past) outcome := by
  induction program generalizing before trace past with
  | done result =>
    obtain ⟨rfl, rfl, _⟩ := run
    exact follows
  | raise failure =>
    obtain ⟨rfl, rfl, _⟩ := run
    exact follows
  | await effect resume inductionHypothesis =>
    obtain ⟨reply, between, rest, rfl, performs, inner⟩ := run
    have ended := inductionHypothesis reply inner (follows.2 reply (expects _ _ _ _ performs))
    rwa [List.reverse_cons, List.append_assoc, List.singleton_append]

/-- A run performs only effects of the footprint. -/
theorem Runs.uses {allowed : Effect → Prop} {program : Program Effect Reply Failure Result}
    {outcome : Except Failure Result}
    (run : Runs environment program before trace outcome after) (uses : program.Uses allowed) :
    ∀ event ∈ trace, allowed event.effect := by
  induction program generalizing before trace with
  | done result =>
    obtain ⟨rfl, _, _⟩ := run
    simp
  | raise failure =>
    obtain ⟨rfl, _, _⟩ := run
    simp
  | await effect resume inductionHypothesis =>
    obtain ⟨reply, between, rest, rfl, _, inner⟩ := run
    exact List.forall_mem_cons.mpr ⟨uses.1, inductionHypothesis reply inner (uses.2 reply)⟩

/-- What every effect of a footprint preserves, a run of the program preserves. -/
theorem Runs.preserves {allowed : Effect → Prop} {program : Program Effect Reply Failure Result}
    {outcome : Except Failure Result} {holds : State → Prop}
    (run : Runs environment program before trace outcome after) (uses : program.Uses allowed)
    (keeps : ∀ now effect reply next, allowed effect → holds now →
      environment.Performs now effect reply next → holds next)
    (base : holds before) : holds after := by
  induction program generalizing before trace with
  | done result =>
    obtain ⟨_, _, rfl⟩ := run
    exact base
  | raise failure =>
    obtain ⟨_, _, rfl⟩ := run
    exact base
  | await effect resume inductionHypothesis =>
    obtain ⟨reply, between, rest, _, performs, inner⟩ := run
    exact inductionHypothesis reply inner (uses.2 reply)
      (keeps before effect reply between uses.1 base performs)

/-- Every run of the program that starts in a state with the property ends in one. -/
def Program.Keeps (environment : Environment State Choice Reply Failure) (holds : State → Prop)
    (program : Program Effect Reply Failure Result) : Prop :=
  ∀ before trace outcome after, Runs environment program before trace outcome after →
    holds before → holds after

theorem Program.Keeps.bind {holds : State → Prop} {program : Program Effect Reply Failure First}
    {next : First → Program Effect Reply Failure Result} (first : program.Keeps environment holds)
    (rest : ∀ result, (next result).Keeps environment holds) :
    (program >>= next).Keeps environment holds := by
  intro before trace outcome after run base
  obtain ⟨_, second, ended, between, _, runFirst, runSecond⟩ := runs_bind.mp run
  have kept := first _ _ _ _ runFirst base
  cases ended with
  | ok result => exact rest result _ _ _ _ runSecond kept
  | error failure =>
    obtain ⟨_, _, rfl⟩ := runSecond
    exact kept

theorem Program.Keeps.attempt {holds : State → Prop}
    {program : Program Effect Reply Failure Result} (body : program.Keeps environment holds) :
    program.attempt.Keeps environment holds := by
  intro before trace outcome after run base
  obtain ⟨_, _, inner⟩ := runs_attempt.mp run
  exact body _ _ _ _ inner base

/-- A program keeps what every effect of its footprint keeps. -/
theorem Program.Uses.keeps {allowed : Effect → Prop} {holds : State → Prop}
    {program : Program Effect Reply Failure Result} (uses : program.Uses allowed)
    (keeps : ∀ now effect reply next, allowed effect → holds now →
      environment.Performs now effect reply next → holds next) :
    program.Keeps environment holds :=
  fun _ _ _ _ run base => run.preserves uses keeps base

/-- Every run of the program fails exactly when it has an event of this kind. -/
def Program.FailsOn (environment : Environment State Choice Reply Failure)
    (fatal : Event Reply Failure → Prop) (program : Program Effect Reply Failure Result) : Prop :=
  ∀ before trace outcome after, Runs environment program before trace outcome after →
    ((∃ failure, outcome = .error failure) ↔ ∃ event ∈ trace, fatal event)

section FailsOn

variable {fatal : Event Reply Failure → Prop}

theorem Program.failsOn_done (result : Result) :
    (Program.done result : Program Effect Reply Failure Result).FailsOn environment fatal := by
  rintro before trace outcome after ⟨rfl, rfl, rfl⟩
  exact iff_of_false nofun (by simp)

theorem Program.failsOn_perform {effect : Effect}
    (strikes : ∀ reply, fatal ⟨effect, reply⟩ ↔ ∃ failure, reply = .error failure) :
    (Program.perform effect : Program Effect Reply Failure (Reply effect)).FailsOn environment
      fatal := by
  intro before trace outcome after run
  obtain ⟨rfl, _⟩ := runs_perform.mp run
  rw [← strikes outcome]
  simp

theorem Program.FailsOn.bind {program : Program Effect Reply Failure First}
    {next : First → Program Effect Reply Failure Result}
    (first : program.FailsOn environment fatal)
    (rest : ∀ result, (next result).FailsOn environment fatal) :
    (program >>= next).FailsOn environment fatal := by
  intro before trace outcome after run
  obtain ⟨earlier, later, ended, between, rfl, runFirst, runSecond⟩ := runs_bind.mp run
  have fails := first _ _ _ _ runFirst
  cases ended with
  | error failure =>
    obtain ⟨rfl, rfl, rfl⟩ := runSecond
    obtain ⟨event, member, struck⟩ := fails.mp ⟨failure, rfl⟩
    exact iff_of_true ⟨failure, rfl⟩ ⟨event, List.mem_append_left _ member, struck⟩
  | ok result =>
    have unharmed : ¬∃ event ∈ earlier, fatal event := fun struck => nomatch fails.mpr struck
    rw [rest result _ _ _ _ runSecond]
    constructor
    · rintro ⟨event, member, struck⟩
      exact ⟨event, List.mem_append_right _ member, struck⟩
    · rintro ⟨event, member, struck⟩
      rcases List.mem_append.mp member with inside | member
      · exact absurd ⟨event, inside, struck⟩ unharmed
      · exact ⟨event, member, struck⟩

/-- A program that passes its failure on as another one. -/
theorem Program.FailsOn.rescue {program : Program Effect Reply Failure Result}
    (body : program.FailsOn environment fatal) (translate : Failure → Failure) :
    (program.rescue fun failure => .raise (translate failure)).FailsOn environment fatal := by
  intro before trace outcome after run
  obtain ⟨earlier, later, ended, between, rfl, inner, run⟩ := runs_rescue.mp run
  have fails := body _ _ _ _ inner
  cases ended with
  | error failure =>
    obtain ⟨rfl, rfl, rfl⟩ := run
    rw [List.append_nil]
    exact iff_of_true ⟨_, rfl⟩ (fails.mp ⟨failure, rfl⟩)
  | ok result =>
    obtain ⟨rfl, rfl, rfl⟩ := run
    rw [List.append_nil]
    exact iff_of_false nofun fun struck => nomatch fails.mpr struck

end FailsOn

/-- What some event brings about and every effect keeps holds after a run that has the event. -/
theorem Runs.leads {program : Program Effect Reply Failure Result}
    {outcome : Except Failure Result} (run : Runs environment program before trace outcome after)
    (pre post : State → Prop) (brings : Event Reply Failure → Prop)
    (keepsPre : ∀ state effect reply next, environment.Performs state effect reply next →
      pre state → pre next)
    (keepsPost : ∀ state effect reply next, environment.Performs state effect reply next →
      post state → post next)
    (establishes : ∀ state effect reply next, environment.Performs state effect reply next →
      pre state → brings ⟨effect, reply⟩ → post next)
    (base : pre before) {event : Event Reply Failure} (member : event ∈ trace)
    (brought : brings event) : post after := by
  induction program generalizing before trace with
  | done result =>
    obtain ⟨rfl, _, _⟩ := run
    cases member
  | raise failure =>
    obtain ⟨rfl, _, _⟩ := run
    cases member
  | await effect resume inductionHypothesis =>
    obtain ⟨reply, between, rest, rfl, performs, inner⟩ := run
    rcases List.mem_cons.mp member with rfl | later
    · exact inner.preserves (Program.uses_any _)
        (fun now effect reply next _ held performed =>
          keepsPost now effect reply next performed held)
        (establishes before effect reply between performs base brought)
    · exact inductionHypothesis reply inner (keepsPre before effect reply between performs base)
        later

/-! ### One request after another -/

/-- One served request: what was asked, the state before, the effects with their replies, how it
ended and the state after. -/
structure Served (State : Type) {Effect : Type} (Reply : Effect → Type)
    (Failure Request Result : Type) where
  request : Request
  before : State
  trace : List (Event Reply Failure)
  outcome : Except Failure Result
  after : State

variable (service : Service State Choice Reply Failure Request Result)

/-- A request that can arrive and is served to its end. -/
structure Served.Valid (served : Served State Reply Failure Request Result) : Prop where
  accepted : service.accepts served.before served.request = true
  runs : Runs service.environment (service.serve served.request) served.before served.trace
    served.outcome served.after

/-- The states that serving requests one at a time leads to, with the requests served, newest
first. -/
inductive SerialRun (initial : State) :
    List (Served State Reply Failure Request Result) → State → Prop
  | start : SerialRun initial [] initial
  | serve {log : List (Served State Reply Failure Request Result)}
      {served : Served State Reply Failure Request Result}
      (earlier : SerialRun initial log served.before) (valid : served.Valid service) :
      SerialRun initial (served :: log) served.after

variable {service}

/-- What every effect preserves, a serial run preserves. -/
theorem SerialRun.preserves {holds : State → Prop} {initial state : State}
    {log : List (Served State Reply Failure Request Result)}
    (serial : SerialRun service initial log state)
    (keeps : ∀ now effect reply next, service.environment.Performs now effect reply next →
      holds now → holds next)
    (base : holds initial) : holds state := by
  induction serial with
  | start => exact base
  | serve earlier valid inductionHypothesis =>
    exact valid.runs.preserves (Program.uses_any _)
      (fun now effect reply next _ holding performs => keeps now effect reply next performs holding)
      inductionHypothesis

/-- Every request of the log was served to its end. -/
theorem SerialRun.valid {initial state : State}
    {log : List (Served State Reply Failure Request Result)}
    {served : Served State Reply Failure Request Result}
    (serial : SerialRun service initial log state) (member : served ∈ log) :
    served.Valid service := by
  induction serial with
  | start => cases member
  | serve earlier valid inductionHypothesis =>
    rcases List.mem_cons.mp member with rfl | old
    · exact valid
    · exact inductionHypothesis old

/-- Every request of the log was served from the state that the older ones led to. -/
theorem SerialRun.split {initial state : State}
    {newer older : List (Served State Reply Failure Request Result)}
    {served : Served State Reply Failure Request Result}
    (serial : SerialRun service initial (newer ++ served :: older) state) :
    SerialRun service initial older served.before ∧ served.Valid service := by
  generalize whole : newer ++ served :: older = log at serial
  induction serial generalizing newer with
  | start => simp at whole
  | serve earlier valid inductionHypothesis =>
    cases newer with
    | nil =>
      simp only [List.nil_append, List.cons.injEq] at whole
      obtain ⟨rfl, rfl⟩ := whole
      exact ⟨earlier, valid⟩
    | cons head rest =>
      simp only [List.cons_append, List.cons.injEq] at whole
      exact inductionHypothesis whole.2

/-- A serial run goes through the state that its older part has led to. -/
theorem SerialRun.cut {initial state : State}
    {newer older : List (Served State Reply Failure Request Result)}
    (serial : SerialRun service initial (newer ++ older) state) :
    ∃ between, SerialRun service initial older between ∧ SerialRun service between newer state := by
  induction newer generalizing state with
  | nil => exact ⟨state, serial, .start⟩
  | cons served rest inductionHypothesis =>
    rw [List.cons_append] at serial
    cases serial with
    | serve earlier valid =>
      obtain ⟨between, first, second⟩ := inductionHypothesis earlier
      exact ⟨between, first, second.serve valid⟩

/-! ### Two requests of a log -/

/-- The part of a log that is newer than an older part. -/
def newerThan {Item : Type} (older log : List Item) : List Item :=
  log.take (log.length - older.length)

theorem newerThan_append {Item : Type} (newer older : List Item) :
    newerThan older (newer ++ older) = newer := by
  rw [newerThan, List.length_append, Nat.add_sub_cancel, List.take_left]

/-- This holds of any two items of a log, the later first, with the items between them. -/
def AtPairs {Item : Type} (holds : Item → List Item → Item → Prop) (log : List Item) : Prop :=
  ∀ past ∈ log.tails, ∀ later ∈ past.head?, ∀ older ∈ past.tail.tails, ∀ earlier ∈ older.head?,
    holds later (newerThan older past.tail) earlier

instance {Item : Type} (holds : Item → List Item → Item → Prop)
    [∀ later between earlier, Decidable (holds later between earlier)] (log : List Item) :
    Decidable (AtPairs holds log) :=
  inferInstanceAs (Decidable (∀ past ∈ _, _))

/-- Two laws about pairs of requests agree on a serial run when they agree on each pair, given how
the run goes through the two. -/
theorem SerialRun.atPairs_congr {initial state : State}
    {log : List (Served State Reply Failure Request Result)}
    (serial : SerialRun service initial log state)
    {first second : Served State Reply Failure Request Result →
      List (Served State Reply Failure Request Result) →
        Served State Reply Failure Request Result → Prop}
    (same : ∀ {newer later between earlier oldest},
      SerialRun service initial oldest earlier.before →
      earlier.Valid service → SerialRun service earlier.after between later.before →
        later.Valid service → SerialRun service later.after newer state →
          (first later between earlier ↔ second later between earlier)) :
    AtPairs first log ↔ AtPairs second log := by
  refine forall₂_congr fun past suffix => forall₂_congr fun later head =>
    forall₂_congr fun older inner => forall₂_congr fun earlier next => ?_
  obtain ⟨newer, rfl⟩ := (List.mem_tails _ _).mp suffix
  obtain ⟨rest, rfl⟩ : ∃ rest, past = later :: rest := ⟨past.tail, List.eq_cons_of_mem_head? head⟩
  rw [List.tail_cons] at inner ⊢
  obtain ⟨between, rfl⟩ := (List.mem_tails _ _).mp inner
  obtain ⟨oldest, rfl⟩ : ∃ oldest, older = earlier :: oldest :=
    ⟨older.tail, List.eq_cons_of_mem_head? next⟩
  rw [newerThan_append]
  obtain ⟨_, ⟨⟩ | ⟨run, validLater⟩, after⟩ := serial.cut
  obtain ⟨_, ⟨⟩ | ⟨opening, validEarlier⟩, middle⟩ := run.cut
  exact same opening validEarlier middle validLater after

/-- A run of one program is a run of the pool in which only its call moves. -/
theorem Runs.advances {program : Program Effect Reply Failure Result}
    {outcome : Except Failure Result}
    (run : Runs service.environment program before trace outcome after)
    {pool : Pool State Reply Failure Request Result} {thread : Nat} {request : Request}
    (running : pool.calls[thread]? = some ⟨request, program⟩)
    (same : pool.world.state = before) :
    ∃ last, ReflTransGen (Step service Regime.free) pool last ∧ last.world.state = after := by
  induction program generalizing before trace pool with
  | done result =>
    obtain ⟨_, _, rfl⟩ := run
    exact ⟨pool, .refl, same⟩
  | raise failure =>
    obtain ⟨_, _, rfl⟩ := run
    exact ⟨pool, .refl, same⟩
  | await effect resume inductionHypothesis =>
    obtain ⟨reply, between, rest, _, performs, inner⟩ := run
    subst same
    have bound : thread < pool.calls.length := (List.getElem?_eq_some_iff.mp running).1
    have advanced : ∃ last, ReflTransGen (Step service Regime.free)
        { world := pool.world.record ⟨thread, request, pool.world.state, effect, reply, between⟩
          calls := pool.calls.set thread ⟨request, resume reply⟩ } last ∧
        last.world.state = after :=
      inductionHypothesis reply inner (List.getElem?_set_self bound) rfl
    obtain ⟨last, steps, ended⟩ := advanced
    exact ⟨last, .head (.advance pool thread request effect resume reply between running performs
      trivial) steps, ended⟩

/-- Every state of a serial run is the state of a reachable pool. -/
theorem SerialRun.reachable {initial state : State}
    {log : List (Served State Reply Failure Request Result)}
    (serial : SerialRun service initial log state) :
    ∃ pool, Reachable service Regime.free initial pool ∧ pool.world.state = state := by
  induction serial with
  | start => exact ⟨Pool.start initial, .refl, rfl⟩
  | @serve _ served _ valid inductionHypothesis =>
    obtain ⟨pool, reachable, same⟩ := inductionHypothesis
    have accepted : service.accepts pool.world.state served.request := by
      rw [same]
      exact valid.accepted
    have called : ∃ last, ReflTransGen (Step service Regime.free) { pool with
        calls := pool.calls ++ [⟨served.request, service.serve served.request⟩] } last ∧
        last.world.state = served.after :=
      valid.runs.advances List.getElem?_concat_length same
    obtain ⟨last, steps, ended⟩ := called
    exact ⟨last, (reachable.tail (.accept pool served.request accepted trivial)).trans steps, ended⟩

/-! ### Scripts

A script spells a serial run out, so that it can be evaluated. -/

/-- Run a program alone, with a choice for each effect. -/
def Program.play (environment : Environment State Choice Reply Failure) :
    Program Effect Reply Failure Result → State → List Choice →
      Option (List (Event Reply Failure) × Except Failure Result × State)
  | .done result, state, _ => some ([], .ok result, state)
  | .raise failure, state, _ => some ([], .error failure, state)
  | .await _ _, _, [] => none
  | .await effect resume, state, choice :: rest =>
    match environment state choice effect with
    | some (reply, next) =>
      match (resume reply).play environment next rest with
      | some (trace, ended) => some (⟨effect, reply⟩ :: trace, ended)
      | none => none
    | none => none

theorem Program.play_runs {program : Program Effect Reply Failure Result} {choices : List Choice}
    {outcome : Except Failure Result}
    (played : program.play environment before choices = some (trace, outcome, after)) :
    Runs environment program before trace outcome after := by
  induction program generalizing before choices trace with
  | done result =>
    simp only [Program.play, Option.some.injEq, Prod.mk.injEq] at played
    obtain ⟨rfl, rfl, rfl⟩ := played
    exact ⟨rfl, rfl, rfl⟩
  | raise failure =>
    simp only [Program.play, Option.some.injEq, Prod.mk.injEq] at played
    obtain ⟨rfl, rfl, rfl⟩ := played
    exact ⟨rfl, rfl, rfl⟩
  | await effect resume inductionHypothesis =>
    cases choices with
    | nil => simp [Program.play] at played
    | cons choice rest =>
      simp only [Program.play] at played
      split at played
      · rename_i reply next answered
        split at played
        · rename_i later ended inner
          simp only [Option.some.injEq, Prod.mk.injEq] at played
          obtain ⟨rfl, rfl⟩ := played
          exact ⟨reply, next, later, rfl, ⟨choice, answered⟩, inductionHypothesis reply inner⟩
        · cases played
      · cases played

/-- A play that can be checked is a run with what was checked. -/
theorem Program.exists_runs_of_play {program : Program Effect Reply Failure Result}
    {choices : List Choice}
    {holds : List (Event Reply Failure) × Except Failure Result × State → Bool}
    (checked : (program.play environment before choices).any holds = true) :
    ∃ trace outcome after, Runs environment program before trace outcome after ∧
      holds (trace, outcome, after) = true := by
  cases played : program.play environment before choices with
  | none =>
    rw [played] at checked
    cases checked
  | some result =>
    rw [played] at checked
    exact ⟨_, _, _, Program.play_runs played, checked⟩

/-- Serve the requests of a script one after another, with the log of those served so far. -/
def serveAll (service : Service State Choice Reply Failure Request Result)
    (log : List (Served State Reply Failure Request Result)) (state : State) :
    List (Request × List Choice) →
      Option (List (Served State Reply Failure Request Result) × State)
  | [] => some (log, state)
  | (request, choices) :: rest =>
    if service.accepts state request then
      match (service.serve request).play service.environment state choices with
      | some (trace, outcome, after) =>
        serveAll service (⟨request, state, trace, outcome, after⟩ :: log) after rest
      | none => none
    else none

theorem serveAll_serialRun {initial state last : State}
    {log final : List (Served State Reply Failure Request Result)}
    {script : List (Request × List Choice)} (serial : SerialRun service initial log state)
    (served : serveAll service log state script = some (final, last)) :
    SerialRun service initial final last := by
  induction script generalizing log state with
  | nil =>
    cases served
    exact serial
  | cons head rest inductionHypothesis =>
    simp only [serveAll] at served
    split at served
    · rename_i accepted
      split at served
      · rename_i trace outcome after played
        have valid : Served.Valid service ⟨head.1, state, trace, outcome, after⟩ :=
          ⟨accepted, Program.play_runs played⟩
        exact inductionHypothesis (serial.serve valid) served
      · cases served
    · cases served

end Interleaving
