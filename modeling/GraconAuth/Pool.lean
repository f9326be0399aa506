/-
This file runs any number of programs over one shared state, one effect at a
time and in any order, and gives the rule by which a property of every run is
proved from the programs one at a time.

A service answers effects, serves each request by a program, and accepts some
requests in some states. A pool holds the shared world and one program per
accepted request. A step either accepts one more request or lets one program
perform its next effect. The world carries a history of the effects performed,
newest first, so that a statement about a whole run is a statement about the
world it ended in. A regime restricts the runs under consideration: which
requests arrive and which steps are taken.

The rule separates the programs from the runs. For the programs one shows that
each keeps to a rule of conduct, which speaks of its own past only. Every run is
then told by its history alone: each entry is answered by the environment in the
state that the entries before it lead to, and is allowed by the rule after what
its own thread has done before (`Chronicle`). An invariant of the runs is proved
by induction on the history, one entry at a time.
-/

import GraconAuth.Program
import Mathlib.Logic.Relation

namespace Interleaving

open Relation

variable {State Choice Effect Failure Request Result : Type} {Reply : Effect → Type}

/-! ### Services and their pools -/

/-- One performed effect: who performed it and for which request, what it was and what it was
answered, and the shared state on either side of it. -/
structure Entry (State : Type) {Effect : Type} (Reply : Effect → Type)
    (Failure Request : Type) where
  thread : Nat
  request : Request
  before : State
  effect : Effect
  reply : Except Failure (Reply effect)
  after : State

/-- The entry without its surroundings. -/
def Entry.event {State Effect Failure Request : Type} {Reply : Effect → Type}
    (entry : Entry State Reply Failure Request) : Event Reply Failure :=
  ⟨entry.effect, entry.reply⟩

/-- The shared state together with the effects performed so far, newest first. -/
structure World (State : Type) {Effect : Type} (Reply : Effect → Type)
    (Failure Request : Type) where
  state : State
  history : List (Entry State Reply Failure Request)

/-- How effects are answered, depending on a choice that the environment makes. An effect
without an answer is blocked. -/
abbrev Environment (State Choice : Type) {Effect : Type} (Reply : Effect → Type)
    (Failure : Type) :=
  State → Choice → (effect : Effect) → Option (Except Failure (Reply effect) × State)

/-- What a server does: the environment it runs in, the program that serves a request, and when
a request can arrive. -/
structure Service (State Choice : Type) {Effect : Type} (Reply : Effect → Type)
    (Failure Request Result : Type) where
  environment : Environment State Choice Reply Failure
  serve : Request → Program Effect Reply Failure Result
  accepts : State → Request → Bool

/-- An accepted request and what is left of the program that serves it. -/
structure Call {Effect : Type} (Reply : Effect → Type) (Failure Request Result : Type) where
  request : Request
  rest : Program Effect Reply Failure Result

/-- A pool of calls over one world. A call is named by its position. -/
structure Pool (State : Type) {Effect : Type} (Reply : Effect → Type)
    (Failure Request Result : Type) where
  world : World State Reply Failure Request
  calls : List (Call Reply Failure Request Result)

/-- The runs under consideration: which requests arrive and which steps are taken. -/
structure Regime (State : Type) {Effect : Type} (Reply : Effect → Type)
    (Failure Request : Type) where
  admits : Request → Prop
  permits : World State Reply Failure Request → Entry State Reply Failure Request → Prop

/-- No restriction: every request arrives at any time and every step is taken. -/
def Regime.free : Regime State Reply Failure Request where
  admits _ := True
  permits _ _ := True

/-- The world after one more entry. -/
def World.record (world : World State Reply Failure Request)
    (entry : Entry State Reply Failure Request) : World State Reply Failure Request where
  state := entry.after
  history := entry :: world.history

@[simp] theorem World.record_state (world : World State Reply Failure Request)
    (entry : Entry State Reply Failure Request) : (world.record entry).state = entry.after := rfl

@[simp] theorem World.record_history (world : World State Reply Failure Request)
    (entry : Entry State Reply Failure Request) :
    (world.record entry).history = entry :: world.history := rfl

/-- What a thread has done so far, newest first. -/
def World.past (world : World State Reply Failure Request) (thread : Nat) :
    List (Event Reply Failure) :=
  (world.history.filter fun entry => entry.thread == thread).map Entry.event

theorem World.mem_past {world : World State Reply Failure Request} {thread : Nat}
    {event : Event Reply Failure} :
    event ∈ world.past thread ↔
      ∃ entry ∈ world.history, entry.thread = thread ∧ entry.event = event := by
  simp only [World.past, List.mem_map, List.mem_filter, beq_iff_eq, and_assoc]

theorem World.past_subset {earlier world : World State Reply Failure Request}
    (kept : earlier.history ⊆ world.history) (thread : Nat) :
    earlier.past thread ⊆ world.past thread := by
  intro event member
  obtain ⟨entry, old, same, rfl⟩ := World.mem_past.mp member
  exact World.mem_past.mpr ⟨entry, kept old, same, rfl⟩

theorem World.past_record_self (world : World State Reply Failure Request)
    (entry : Entry State Reply Failure Request) :
    (world.record entry).past entry.thread = entry.event :: world.past entry.thread := by
  simp [World.past, World.record]

theorem World.past_record_other (world : World State Reply Failure Request)
    {entry : Entry State Reply Failure Request} {thread : Nat} (other : entry.thread ≠ thread) :
    (world.record entry).past thread = world.past thread := by
  simp [World.past, World.record, other]

theorem World.past_cons_self (state : State) {later : State}
    {entry : Entry State Reply Failure Request} {older : List (Entry State Reply Failure Request)}
    {event : Event Reply Failure} {rest : List (Event Reply Failure)}
    (past : World.past ⟨later, entry :: older⟩ entry.thread = event :: rest) :
    entry.event = event ∧ World.past ⟨state, older⟩ entry.thread = rest := by
  have grown := World.past_record_self ⟨state, older⟩ entry
  exact List.cons.inj (grown.symm.trans past)

theorem World.past_cons_other (state : State) {later : State}
    {entry : Entry State Reply Failure Request} {older : List (Entry State Reply Failure Request)}
    {thread : Nat} {past : List (Event Reply Failure)} (other : entry.thread ≠ thread)
    (same : World.past ⟨later, entry :: older⟩ thread = past) :
    World.past ⟨state, older⟩ thread = past :=
  (World.past_record_other ⟨state, older⟩ other).symm.trans same

/-- The entries after the latest marked one, newest first; all of them when none is marked. -/
def World.since (world : World State Reply Failure Request)
    (marks : Entry State Reply Failure Request → Bool) : List (Entry State Reply Failure Request) :=
  world.history.takeWhile fun entry => !marks entry

theorem World.since_split {world : World State Reply Failure Request}
    (marks : Entry State Reply Failure Request → Bool) {entry : Entry State Reply Failure Request}
    (member : entry ∈ world.history) (marked : marks entry = true) :
    ∃ latest older, world.history = world.since marks ++ latest :: older ∧ marks latest = true := by
  unfold World.since
  generalize world.history = history at member ⊢
  induction history with
  | nil => cases member
  | cons head rest inductionHypothesis =>
    by_cases first : marks head = true
    · exact ⟨head, rest, by simp [first], first⟩
    · have later : entry ∈ rest := by
        rcases List.mem_cons.mp member with rfl | later
        · exact absurd marked first
        · exact later
      obtain ⟨latest, older, split, found⟩ := inductionHypothesis later
      refine ⟨latest, older, ?_, found⟩
      rw [List.takeWhile_cons_of_pos (by simp [first]), List.cons_append, ← split]

/-- The pool before any request has arrived. -/
def Pool.start (state : State) : Pool State Reply Failure Request Result where
  world := ⟨state, []⟩
  calls := []

/-- The environment can answer an effect in this way. -/
def Environment.Performs (environment : Environment State Choice Reply Failure) (state : State)
    (effect : Effect) (reply : Except Failure (Reply effect)) (next : State) : Prop :=
  ∃ choice, environment state choice effect = some (reply, next)

variable (service : Service State Choice Reply Failure Request Result)

/-- One step of a pool. -/
inductive Step (regime : Regime State Reply Failure Request) :
    Pool State Reply Failure Request Result → Pool State Reply Failure Request Result → Prop
  | accept (pool : Pool State Reply Failure Request Result) (request : Request)
      (accepted : service.accepts pool.world.state request = true)
      (admitted : regime.admits request) :
      Step regime pool
        { pool with calls := pool.calls ++ [⟨request, service.serve request⟩] }
  | advance (pool : Pool State Reply Failure Request Result) (thread : Nat) (request : Request)
      (effect : Effect) (resume : Except Failure (Reply effect) →
        Program Effect Reply Failure Result) (reply : Except Failure (Reply effect))
      (next : State) (running : pool.calls[thread]? = some ⟨request, .await effect resume⟩)
      (performs : service.environment.Performs pool.world.state effect reply next)
      (permitted : regime.permits pool.world
        ⟨thread, request, pool.world.state, effect, reply, next⟩) :
      Step regime pool
        { world := pool.world.record ⟨thread, request, pool.world.state, effect, reply, next⟩
          calls := pool.calls.set thread ⟨request, resume reply⟩ }

/-- The pools a service reaches from a state by steps of a regime. -/
def Reachable (regime : Regime State Reply Failure Request) (initial : State)
    (pool : Pool State Reply Failure Request Result) : Prop :=
  ReflTransGen (Step service regime) (Pool.start initial) pool

/-! ### Schedules

A schedule spells a run out, so that it can be evaluated. -/

/-- One move of a schedule. -/
inductive Move (Choice Request : Type) where
  | accept (request : Request)
  | advance (thread : Nat) (choice : Choice)

/-- A referee lets moves through by tests that can be evaluated. -/
structure Referee (State : Type) {Effect : Type} (Reply : Effect → Type)
    (Failure Request : Type) where
  admits : Request → Bool
  permits : World State Reply Failure Request → Entry State Reply Failure Request → Bool

/-- The referee that lets everything through. -/
def Referee.lax : Referee State Reply Failure Request where
  admits _ := true
  permits _ _ := true

/-- What the referee lets through, the regime considers. -/
structure Referee.Upholds (referee : Referee State Reply Failure Request)
    (regime : Regime State Reply Failure Request) : Prop where
  admits : ∀ request, referee.admits request = true → regime.admits request
  permits : ∀ world entry, referee.permits world entry = true → regime.permits world entry

/-- The referee that applies a regime as it stands. -/
def Referee.strict (regime : Regime State Reply Failure Request)
    [∀ request, Decidable (regime.admits request)]
    [∀ world entry, Decidable (regime.permits world entry)] :
    Referee State Reply Failure Request where
  admits request := decide (regime.admits request)
  permits world entry := decide (regime.permits world entry)

theorem Referee.strict_upholds (regime : Regime State Reply Failure Request)
    [∀ request, Decidable (regime.admits request)]
    [∀ world entry, Decidable (regime.permits world entry)] :
    (Referee.strict regime).Upholds regime :=
  ⟨fun _ => of_decide_eq_true, fun _ _ => of_decide_eq_true⟩

theorem Referee.lax_upholds :
    (Referee.lax : Referee State Reply Failure Request).Upholds Regime.free :=
  ⟨fun _ _ => trivial, fun _ _ _ => trivial⟩

/-- Play one move, if it is enabled and let through. -/
def Pool.play (referee : Referee State Reply Failure Request)
    (pool : Pool State Reply Failure Request Result) :
    Move Choice Request → Option (Pool State Reply Failure Request Result)
  | .accept request =>
    if service.accepts pool.world.state request && referee.admits request then
      some { pool with calls := pool.calls ++ [⟨request, service.serve request⟩] }
    else none
  | .advance thread choice =>
    match pool.calls[thread]? with
    | some ⟨request, .await effect resume⟩ =>
      match service.environment pool.world.state choice effect with
      | some (reply, next) =>
        if referee.permits pool.world
            ⟨thread, request, pool.world.state, effect, reply, next⟩ then
          some {
            world := pool.world.record ⟨thread, request, pool.world.state, effect, reply, next⟩
            calls := pool.calls.set thread ⟨request, resume reply⟩ }
        else none
      | none => none
    | _ => none

/-- Play a schedule. A move that cannot be played is skipped. -/
def Pool.playAll (referee : Referee State Reply Failure Request)
    (pool : Pool State Reply Failure Request Result) :
    List (Move Choice Request) → Pool State Reply Failure Request Result
  | [] => pool
  | move :: rest => ((pool.play service referee move).getD pool).playAll referee rest

section Schedules

variable {service} {referee : Referee State Reply Failure Request}
  {regime : Regime State Reply Failure Request}

theorem Pool.play_step (upholds : referee.Upholds regime)
    {pool next : Pool State Reply Failure Request Result} {move : Move Choice Request}
    (played : pool.play service referee move = some next) : Step service regime pool next := by
  cases move with
  | accept request =>
    simp only [Pool.play] at played
    split at played
    · rename_i accepted
      rw [Bool.and_eq_true] at accepted
      cases played
      exact .accept pool request accepted.1 (upholds.admits request accepted.2)
    · cases played
  | advance thread choice =>
    simp only [Pool.play] at played
    split at played
    · rename_i request effect resume running
      split at played
      · rename_i reply after answered
        split at played
        · rename_i permitted
          cases played
          exact .advance pool thread request effect resume reply after running
            ⟨choice, answered⟩ (upholds.permits _ _ permitted)
        · cases played
      · cases played
    · cases played

theorem Pool.playAll_steps (upholds : referee.Upholds regime)
    (pool : Pool State Reply Failure Request Result) (moves : List (Move Choice Request)) :
    ReflTransGen (Step service regime) pool (pool.playAll service referee moves) := by
  induction moves generalizing pool with
  | nil => exact .refl
  | cons move rest inductionHypothesis =>
    simp only [Pool.playAll]
    cases played : pool.play service referee move with
    | none => exact inductionHypothesis pool
    | some next => exact .head (Pool.play_step upholds played) (inductionHypothesis next)

/-- The pool that a schedule ends in is reachable. -/
theorem Pool.playAll_reachable (upholds : referee.Upholds regime) (initial : State)
    (moves : List (Move Choice Request)) :
    Reachable service regime initial ((Pool.start initial).playAll service referee moves) :=
  Pool.playAll_steps upholds _ moves

end Schedules

/-! ### Runs told by their history -/

variable (regime : Regime State Reply Failure Request)
  (rule : Request → Program.Conduct Reply Failure)

/-- What is known of an entry when it is recorded. -/
structure Admissible (world : World State Reply Failure Request)
    (entry : Entry State Reply Failure Request) : Prop where
  current : entry.before = world.state
  performs : service.environment.Performs entry.before entry.effect entry.reply entry.after
  accepted : service.accepts entry.before entry.request = true
  admitted : regime.admits entry.request
  permitted : regime.permits world entry
  ruled : (rule entry.request).allows (world.past entry.thread) entry.effect
  expected : (rule entry.request).expects entry.event
  owned : ∀ other ∈ world.history, other.thread = entry.thread → other.request = entry.request

/-- The worlds that runs lead to, one entry after another. -/
inductive Chronicle (initial : State) : World State Reply Failure Request → Prop
  | start : Chronicle initial ⟨initial, []⟩
  | record {world : World State Reply Failure Request}
      {entry : Entry State Reply Failure Request} (earlier : Chronicle initial world)
      (admissible : Admissible service regime rule world entry) :
      Chronicle initial (world.record entry)

variable {service regime rule}

/-- The calls of a pool agree with its history: every entry was made by one of them, and each of
them has kept to the rule. -/
structure Pool.Orderly (service : Service State Choice Reply Failure Request Result)
    (regime : Regime State Reply Failure Request)
    (rule : Request → Program.Conduct Reply Failure)
    (pool : Pool State Reply Failure Request Result) : Prop where
  recorded : ∀ entry ∈ pool.world.history, ∃ call, pool.calls[entry.thread]? = some call ∧
    call.request = entry.request
  accepted : ∀ call ∈ pool.calls, service.accepts pool.world.state call.request = true ∧
    regime.admits call.request
  follows : ∀ (thread : Nat) (call : Call Reply Failure Request Result),
    pool.calls[thread]? = some call →
    call.rest.Abides (rule call.request) (pool.world.past thread)

theorem Pool.Orderly.accept {pool : Pool State Reply Failure Request Result}
    (orderly : pool.Orderly service regime rule) {request : Request}
    (accepted : service.accepts pool.world.state request = true)
    (admitted : regime.admits request)
    (follows : (service.serve request).Abides (rule request) []) :
    Pool.Orderly service regime rule
      { pool with calls := pool.calls ++ [⟨request, service.serve request⟩] } := by
  have inRange : ∀ entry ∈ pool.world.history, entry.thread < pool.calls.length := by
    intro entry member
    obtain ⟨call, running, _⟩ := orderly.recorded entry member
    exact (List.getElem?_eq_some_iff.mp running).1
  refine ⟨fun entry member => ?_, fun call member => ?_, fun thread call found => ?_⟩
  · obtain ⟨call, running, same⟩ := orderly.recorded entry member
    exact ⟨call, by rw [List.getElem?_append_left (inRange entry member)]; exact running, same⟩
  · rcases List.mem_append.mp member with old | new
    · exact orderly.accepted call old
    · obtain rfl := List.mem_singleton.mp new
      exact ⟨accepted, admitted⟩
  · rcases Nat.lt_or_ge thread pool.calls.length with bound | bound
    · rw [List.getElem?_append_left bound] at found
      exact orderly.follows thread call found
    · rw [List.getElem?_append_right bound] at found
      obtain ⟨position, rfl⟩ := List.getElem?_eq_some_iff.mp found
      have nothing : pool.world.past thread = [] := by
        simp only [World.past, List.map_eq_nil_iff, List.filter_eq_nil_iff, beq_iff_eq]
        intro entry member same
        have := inRange entry member
        omega
      have single : thread - pool.calls.length = 0 := by simpa using position
      simp only [single, List.getElem_cons_zero]
      rw [nothing]
      exact follows

theorem Pool.Orderly.advance {pool : Pool State Reply Failure Request Result}
    (orderly : pool.Orderly service regime rule)
    (lasting : ∀ state effect reply next request, service.environment.Performs state effect reply
      next → service.accepts state request = true → service.accepts next request = true)
    {thread : Nat} {request : Request} {effect : Effect}
    {resume : Except Failure (Reply effect) → Program Effect Reply Failure Result}
    {reply : Except Failure (Reply effect)} {next : State}
    (running : pool.calls[thread]? = some ⟨request, .await effect resume⟩)
    (performs : service.environment.Performs pool.world.state effect reply next)
    (expected : (rule request).expects ⟨effect, reply⟩) :
    Pool.Orderly service regime rule {
      world := pool.world.record ⟨thread, request, pool.world.state, effect, reply, next⟩
      calls := pool.calls.set thread ⟨request, resume reply⟩ } := by
  have bound : thread < pool.calls.length := (List.getElem?_eq_some_iff.mp running).1
  refine ⟨fun entry member => ?_, fun call member => ?_, fun other call found => ?_⟩
  · simp only [World.record_history, List.mem_cons] at member
    rcases member with rfl | member
    · exact ⟨_, List.getElem?_set_self bound, rfl⟩
    · obtain ⟨call, found, same⟩ := orderly.recorded entry member
      by_cases self : thread = entry.thread
      · subst self
        rw [running] at found
        cases found
        exact ⟨_, List.getElem?_set_self bound, same⟩
      · exact ⟨call, by rw [List.getElem?_set_ne self]; exact found, same⟩
  · have old : ∃ earlier ∈ pool.calls, earlier.request = call.request := by
      rcases List.mem_or_eq_of_mem_set member with old | rfl
      · exact ⟨call, old, rfl⟩
      · exact ⟨_, List.mem_of_getElem? running, rfl⟩
    obtain ⟨earlier, member, same⟩ := old
    obtain ⟨accepted, admitted⟩ := orderly.accepted earlier member
    rw [same] at accepted admitted
    exact ⟨lasting _ _ _ _ _ performs accepted, admitted⟩
  · by_cases self : thread = other
    · subst self
      rw [List.getElem?_set_self bound] at found
      cases found
      rw [World.past_record_self _ ⟨thread, request, pool.world.state, effect, reply, next⟩]
      exact (orderly.follows thread _ running).2 reply expected
    · rw [List.getElem?_set_ne self] at found
      rw [World.past_record_other _ self]
      exact orderly.follows other call found

/-- Every run has a chronicle. It is enough that every program keeps to the rule from its start,
that the environment replies as the rule expects, and that a request that could arrive can still
arrive later. -/
theorem Reachable.chronicle {initial : State} {pool : Pool State Reply Failure Request Result}
    (reachable : Reachable service regime initial pool)
    (lasting : ∀ state effect reply next request, service.environment.Performs state effect reply
      next → service.accepts state request = true → service.accepts next request = true)
    (expects : ∀ state effect reply next request, service.environment.Performs state effect reply
      next → (rule request).expects ⟨effect, reply⟩)
    (follows : ∀ request, regime.admits request →
      (service.serve request).Abides (rule request) []) :
    Chronicle service regime rule initial pool.world := by
  have general : Chronicle service regime rule initial pool.world ∧
      pool.Orderly service regime rule := by
    induction reachable with
    | refl =>
      exact ⟨.start, ⟨by simp [Pool.start], by simp [Pool.start], by simp [Pool.start]⟩⟩
    | tail _ step inductionHypothesis =>
      obtain ⟨chronicle, orderly⟩ := inductionHypothesis
      cases step with
      | accept request accepted admitted =>
        exact ⟨chronicle, orderly.accept accepted admitted (follows request admitted)⟩
      | advance thread request effect resume reply next running performs permitted =>
        obtain ⟨accepted, admitted⟩ := orderly.accepted _ (List.mem_of_getElem? running)
        refine ⟨.record chronicle ⟨rfl, performs, accepted, admitted, permitted,
          (orderly.follows thread _ running).1, expects _ _ _ _ _ performs,
          fun other member same => ?_⟩,
          orderly.advance lasting running performs (expects _ _ _ _ _ performs)⟩
        obtain ⟨call, found, requestEq⟩ := orderly.recorded other member
        rw [same, running] at found
        cases found
        exact requestEq.symm
  exact general.1

namespace Chronicle

variable {initial : State} {world : World State Reply Failure Request}

/-- An invariant of the runs, kept by every entry. -/
theorem invariant (chronicle : Chronicle service regime rule initial world)
    (inv : World State Reply Failure Request → Prop) (base : inv ⟨initial, []⟩)
    (step : ∀ world entry, Chronicle service regime rule initial world → inv world →
      Admissible service regime rule world entry → inv (world.record entry)) : inv world := by
  induction chronicle with
  | start => exact base
  | record earlier admissible inductionHypothesis =>
    exact step _ _ earlier inductionHypothesis admissible

/-- The state is the one that the latest entry has left. -/
theorem state_eq (chronicle : Chronicle service regime rule initial world) :
    world.state = (world.history.head?.map Entry.after).getD initial := by
  cases chronicle with
  | start => rfl
  | record earlier admissible => rfl

/-- An entry of the history was admissible when it was recorded. -/
theorem admissible {newer older : List (Entry State Reply Failure Request)}
    {entry : Entry State Reply Failure Request}
    (chronicle : Chronicle service regime rule initial world)
    (split : world.history = newer ++ entry :: older) :
    Chronicle service regime rule initial ⟨entry.before, older⟩ ∧
      Admissible service regime rule ⟨entry.before, older⟩ entry := by
  induction chronicle generalizing newer with
  | start => simp at split
  | @record earlierWorld latest earlier admissible inductionHypothesis =>
    cases newer with
    | nil =>
      simp only [World.record_history, List.nil_append, List.cons.injEq] at split
      obtain ⟨rfl, rfl⟩ := split
      obtain ⟨state, history⟩ := earlierWorld
      obtain rfl : latest.before = state := admissible.current
      exact ⟨earlier, admissible⟩
    | cons head rest =>
      simp only [World.record_history, List.cons_append, List.cons.injEq] at split
      exact inductionHypothesis split.2

/-- The latest entry was admissible when it was recorded. -/
theorem latest {older : List (Entry State Reply Failure Request)}
    {entry : Entry State Reply Failure Request}
    (chronicle : Chronicle service regime rule initial world)
    (split : world.history = entry :: older) :
    Chronicle service regime rule initial ⟨entry.before, older⟩ ∧
      Admissible service regime rule ⟨entry.before, older⟩ entry :=
  chronicle.admissible (split.trans (List.nil_append _).symm)

/-- What an entry was performed in was admissible, whatever has happened since. -/
theorem recalls {entry : Entry State Reply Failure Request}
    (chronicle : Chronicle service regime rule initial world) (member : entry ∈ world.history) :
    ∃ earlier, Chronicle service regime rule initial earlier ∧
      Admissible service regime rule earlier entry ∧ earlier.history ⊆ world.history := by
  obtain ⟨newer, older, split⟩ := List.append_of_mem member
  obtain ⟨earlier, admissible⟩ := chronicle.admissible split
  refine ⟨_, earlier, admissible, fun other inside => ?_⟩
  rw [split]
  exact List.mem_append_right _ (List.mem_cons_of_mem _ inside)

/-- What a thread has done was admissible after what the thread had done before it. -/
theorem recalls_past {thread : Nat} {newer older : List (Event Reply Failure)}
    {event : Event Reply Failure} (chronicle : Chronicle service regime rule initial world)
    (split : world.past thread = newer ++ event :: older) :
    ∃ earlier entry, Chronicle service regime rule initial earlier ∧
      Admissible service regime rule earlier entry ∧ entry ∈ world.history ∧
      entry.event = event ∧ entry.thread = thread ∧ earlier.past thread = older ∧
      earlier.history ⊆ world.history := by
  induction chronicle generalizing newer with
  | start => simp [World.past] at split
  | @record earlierWorld latest earlier admissible inductionHypothesis =>
    by_cases self : latest.thread = thread
    · subst self
      rw [World.past_record_self] at split
      cases newer with
      | nil =>
        obtain ⟨same, past⟩ := List.cons.inj split
        exact ⟨earlierWorld, latest, earlier, admissible, List.mem_cons_self, same, rfl, past,
          List.subset_cons_self _ _⟩
      | cons head rest =>
        obtain ⟨before, entry, chronicle, allowed, member, event, thread, past, inside⟩ :=
          inductionHypothesis (List.cons.inj split).2
        exact ⟨before, entry, chronicle, allowed, List.mem_cons_of_mem _ member, event, thread,
          past, List.subset_cons_of_subset _ inside⟩
    · rw [World.past_record_other _ self] at split
      obtain ⟨before, entry, chronicle, allowed, member, event, thread, past, inside⟩ :=
        inductionHypothesis split
      exact ⟨before, entry, chronicle, allowed, List.mem_cons_of_mem _ member, event, thread,
        past, List.subset_cons_of_subset _ inside⟩

/-- The entries of a thread are of one request. -/
theorem request_of_thread {first second : Entry State Reply Failure Request}
    (chronicle : Chronicle service regime rule initial world) (memberFirst : first ∈ world.history)
    (memberSecond : second ∈ world.history) (same : first.thread = second.thread) :
    first.request = second.request := by
  refine chronicle.invariant (fun world => ∀ first ∈ world.history,
    ∀ second ∈ world.history, first.thread = second.thread → first.request = second.request)
    (by simp) ?_ first memberFirst second memberSecond same
  intro world entry _ agree admissible first memberFirst second memberSecond same
  rcases List.mem_cons.mp memberFirst with rfl | oldFirst
  · rcases List.mem_cons.mp memberSecond with rfl | oldSecond
    · rfl
    · exact (admissible.owned second oldSecond same.symm).symm
  · rcases List.mem_cons.mp memberSecond with rfl | oldSecond
    · exact admissible.owned first oldFirst same
    · exact agree first oldFirst second oldSecond same

/-- What can be used only while it is unspent, is spent by its use and stays spent is used by at
most one entry. -/
theorem once {Item : Type} (chronicle : Chronicle service regime rule initial world)
    (uses : Entry State Reply Failure Request → Item → Prop)
    (spent : Item → World State Reply Failure Request → Prop)
    (spends : ∀ world entry item, Chronicle service regime rule initial world →
      Admissible service regime rule world entry → uses entry item →
      ¬spent item world ∧ spent item (world.record entry))
    (lasting : ∀ world entry item, Chronicle service regime rule initial world →
      Admissible service regime rule world entry → spent item world →
      spent item (world.record entry))
    {first second : Entry State Reply Failure Request} {item : Item}
    (memberFirst : first ∈ world.history) (memberSecond : second ∈ world.history)
    (usesFirst : uses first item) (usesSecond : uses second item) : first = second := by
  have general : (∀ entry ∈ world.history, uses entry item → spent item world) ∧
      ∀ first ∈ world.history, ∀ second ∈ world.history, uses first item → uses second item →
        first = second := by
    refine chronicle.invariant (fun world =>
      (∀ entry ∈ world.history, uses entry item → spent item world) ∧
        ∀ first ∈ world.history, ∀ second ∈ world.history, uses first item → uses second item →
          first = second) ⟨by simp, by simp⟩ ?_
    rintro world entry earlier ⟨used, unique⟩ admissible
    refine ⟨fun other member usesOther => ?_, fun one memberOne two memberTwo usesOne usesTwo => ?_⟩
    · rcases List.mem_cons.mp member with rfl | old
      · exact (spends world other item earlier admissible usesOther).2
      · exact lasting world entry item earlier admissible (used other old usesOther)
    · rcases List.mem_cons.mp memberOne with rfl | oldOne
      · rcases List.mem_cons.mp memberTwo with rfl | oldTwo
        · rfl
        · exact absurd (used two oldTwo usesTwo)
            (spends world one item earlier admissible usesOne).1
      · rcases List.mem_cons.mp memberTwo with rfl | oldTwo
        · exact absurd (used one oldOne usesOne)
            (spends world two item earlier admissible usesTwo).1
        · exact unique one oldOne two oldTwo usesOne usesTwo
  exact general.2 first memberFirst second memberSecond usesFirst usesSecond

/-- What a call does only when it has not done it yet, it does at most once. -/
theorem once_each (chronicle : Chronicle service regime rule initial world)
    (marks : Entry State Reply Failure Request → Prop)
    (unmarked : ∀ world entry, Admissible service regime rule world entry → marks entry →
      ∀ older ∈ world.history, older.thread = entry.thread → ¬marks older)
    {first second : Entry State Reply Failure Request} (memberFirst : first ∈ world.history)
    (memberSecond : second ∈ world.history) (same : first.thread = second.thread)
    (marksFirst : marks first) (marksSecond : marks second) : first = second := by
  refine chronicle.once (fun entry thread => entry.thread = thread ∧ marks entry)
    (fun thread world => ∃ entry ∈ world.history, entry.thread = thread ∧ marks entry)
    ?_ ?_ memberFirst memberSecond ⟨rfl, marksFirst⟩ ⟨same.symm, marksSecond⟩
  · rintro world entry _ _ admissible ⟨rfl, marked⟩
    refine ⟨?_, entry, List.mem_cons_self, rfl, marked⟩
    rintro ⟨older, member, thread, already⟩
    exact unmarked world entry admissible marked older member thread already
  · rintro world entry thread _ _ ⟨older, member, marked⟩
    exact ⟨older, List.mem_cons_of_mem _ member, marked⟩

/-- What lasts, once it holds after an entry, holds at the end. -/
theorem lasts (chronicle : Chronicle service regime rule initial world) (holds : State → Prop)
    (lasting : ∀ state effect reply next, service.environment.Performs state effect reply next →
      holds state → holds next)
    {entry : Entry State Reply Failure Request} (member : entry ∈ world.history)
    (then_ : holds entry.before ∨ holds entry.after) : holds world.state := by
  induction chronicle with
  | start => simp at member
  | record earlier admissible inductionHypothesis =>
    rcases List.mem_cons.mp member with rfl | old
    · rcases then_ with before | after
      · exact lasting _ _ _ _ admissible.performs before
      · exact after
    · refine lasting _ _ _ _ admissible.performs ?_
      rw [admissible.current]
      exact inductionHypothesis old

/-- What there is at the end was there right after an entry, or a later entry has brought it. -/
theorem inherits {Item : Type} {newer older : List (Entry State Reply Failure Request)}
    {anchor : Entry State Reply Failure Request}
    (chronicle : Chronicle service regime rule initial world)
    (split : world.history = newer ++ anchor :: older) (has : State → Item → Prop)
    (brings : Entry State Reply Failure Request → Item → Prop)
    (traced : ∀ world entry item, Admissible service regime rule world entry →
      has entry.after item → has entry.before item ∨ brings entry item)
    {item : Item} (there : has world.state item) :
    has anchor.after item ∨ ∃ entry ∈ newer, brings entry item := by
  induction chronicle generalizing newer with
  | start => simp at split
  | @record earlierWorld latest earlier admissible inductionHypothesis =>
    cases newer with
    | nil =>
      obtain ⟨rfl, _⟩ := List.cons.inj split
      exact .inl there
    | cons head rest =>
      obtain ⟨rfl, rest⟩ := List.cons.inj split
      rcases traced _ _ item admissible there with old | brought
      · rw [admissible.current] at old
        rcases inductionHypothesis rest old with first | ⟨entry, member, brought⟩
        · exact .inl first
        · exact .inr ⟨entry, List.mem_cons_of_mem _ member, brought⟩
      · exact .inr ⟨_, List.mem_cons_self, brought⟩

/-- What joins the states before and after every entry joins the first state and the last. -/
theorem spans (chronicle : Chronicle service regime rule initial world)
    (joins : State → State → Prop) (stays : ∀ state, joins state state)
    (chains : ∀ first second third, joins first second → joins second third → joins first third)
    (each : ∀ newer older entry, world.history = newer ++ entry :: older →
      joins entry.before entry.after) : joins initial world.state := by
  induction chronicle with
  | start => exact stays _
  | @record earlierWorld latest earlier admissible inductionHypothesis =>
    have first : joins initial earlierWorld.state :=
      inductionHypothesis fun newer older entry split =>
        each (latest :: newer) older entry (congrArg (latest :: ·) split)
    rw [← admissible.current] at first
    exact chains _ _ _ first (each [] earlierWorld.history latest rfl)

/-- What an entry keeps unless it ends it holds at the end, or an entry since has ended it. -/
theorem outlasts {newer older : List (Entry State Reply Failure Request)}
    {anchor : Entry State Reply Failure Request}
    (chronicle : Chronicle service regime rule initial world)
    (split : world.history = newer ++ anchor :: older) (holds : State → Prop)
    (ends : Entry State Reply Failure Request → Prop)
    (keeps : ∀ world entry, Chronicle service regime rule initial world →
      Admissible service regime rule world entry → holds entry.before →
        holds entry.after ∨ ends entry)
    (base : holds anchor.before) :
    holds world.state ∨ ∃ entry ∈ newer ++ [anchor], ends entry := by
  induction chronicle generalizing newer with
  | start => simp at split
  | @record earlierWorld latest earlier admissible inductionHypothesis =>
    have kept : holds latest.before → holds latest.after ∨ ends latest :=
      keeps earlierWorld latest earlier admissible
    cases newer with
    | nil =>
      obtain ⟨rfl, _⟩ := List.cons.inj split
      exact (kept base).imp_right fun ended => ⟨latest, List.mem_cons_self, ended⟩
    | cons head rest =>
      obtain ⟨rfl, rest⟩ := List.cons.inj split
      rcases inductionHypothesis rest with there | ⟨entry, member, ended⟩
      · rw [← admissible.current] at there
        exact (kept there).imp_right fun ended => ⟨latest, List.mem_cons_self, ended⟩
      · exact .inr ⟨entry, List.mem_cons_of_mem _ member, ended⟩

end Chronicle

end Interleaving
