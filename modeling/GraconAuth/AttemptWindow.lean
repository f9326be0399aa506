/-
This file is about the retry time of the attempt window being exact: the instant and
the seconds that a rejected submission reports. The window is looked at at one instant,
at which no time passes and nothing fails. An attempt counts up to and including the
instant at which it is a window old, and the reported instant is the one at which the
oldest counted attempt is, so a submission is still rejected then.
-/

import GraconAuth.Steps

namespace GraconAuth

open Interleaving Program VerificationService

variable {runtime : Runtime} {state next : State}

/-! ### At one instant -/

/-- No time passes, and no effect fails. -/
def atOnce : Interleaving.Environment State Choice Effect.Reply Failure :=
  fun state choice effect =>
    if choice.elapsed = 0 ∧ choice.fails = none then environment state choice effect else none

theorem atOnce_performs {effect : Effect} {reply : Except Failure effect.Reply} :
    atOnce.Performs state effect reply next ↔
      ∃ choice : Choice, choice.fails = none ∧ state.answer choice effect = some (reply, next) := by
  have standing : state.tick 0 = state := by simp [State.tick]
  constructor
  · rintro ⟨choice, answered⟩
    unfold atOnce at answered
    split at answered
    · rename_i still
      refine ⟨choice, still.2, ?_⟩
      rwa [environment, still.1, standing] at answered
    · cases answered
  · rintro ⟨choice, unfailing, answered⟩
    refine ⟨{ choice with elapsed := 0 }, ?_⟩
    rw [atOnce, if_pos ⟨rfl, unfailing⟩, environment, standing]
    rw [← answered]
    cases effect <;> rfl

theorem atOnce_now {reply : Except Failure Timestamp} :
    atOnce.Performs state .now reply next ↔ reply = .ok state.clock ∧ next = state := by
  rw [atOnce_performs]
  constructor
  · rintro ⟨choice, _, answered⟩
    simp only [State.answer, Option.some.injEq, Prod.mk.injEq] at answered
    exact ⟨answered.1.symm, answered.2.symm⟩
  · rintro ⟨rfl, rfl⟩
    exact ⟨{}, rfl, rfl⟩

/-- A query answers from the tables as they are. -/
theorem atOnce_query {effect : Effect} {value : effect.Reply}
    (queries : ∀ choice, state.answer choice effect = state.query choice value)
    {reply : Except Failure effect.Reply} :
    atOnce.Performs state effect reply next ↔ reply = .ok value ∧ next = state := by
  rw [atOnce_performs]
  constructor
  · rintro ⟨choice, unfailing, answered⟩
    rw [queries, State.query, unfailing] at answered
    simp only [Option.isSome_none, Bool.false_eq_true, if_false, Option.some.injEq,
      Prod.mk.injEq] at answered
    exact ⟨answered.1.symm, answered.2.symm⟩
  · rintro ⟨rfl, rfl⟩
    exact ⟨{}, rfl, by rw [queries]; rfl⟩

/-! ### The window at one instant -/

/-- The attempts of a user that count at this instant, oldest first. -/
def State.counted (runtime : Runtime) (state : State) (userId : UserId) : List Timestamp :=
  state.db.attemptsSince userId (state.clock - attemptWindowMs runtime)

/-- The window state at this instant. -/
def State.window (runtime : Runtime) (state : State) (userId : UserId) : VerificationWindowState :=
  if isAttemptWindowEnabled runtime then
    windowState runtime (state.counted runtime userId) state.clock
  else ⟨0, MAX_ATTEMPTS, none, none⟩

theorem runs_getVerificationWindowState {userId : UserId} {trace : List ServiceEvent}
    {outcome : Except Failure VerificationWindowState}
    (run : Runs atOnce (getVerificationWindowState runtime userId) state trace outcome next) :
    outcome = .ok (state.window runtime userId) ∧ next = state := by
  unfold getVerificationWindowState at run
  unfold State.window
  cases enabled : isAttemptWindowEnabled runtime with
  | false =>
    rw [enabled] at run
    obtain ⟨_, rfl, rfl⟩ := run
    exact ⟨rfl, rfl⟩
  | true =>
    rw [enabled] at run
    obtain ⟨_, _, _, _, performsNow, run⟩ := run
    obtain ⟨rfl, rfl⟩ := atOnce_now.mp performsNow
    obtain ⟨_, _, _, _, performsFind, run⟩ := run
    obtain ⟨rfl, rfl⟩ := (atOnce_query fun _ => rfl).mp performsFind
    obtain ⟨_, _, _, _, performsNow, run⟩ := run
    obtain ⟨rfl, rfl⟩ := atOnce_now.mp performsNow
    obtain ⟨_, rfl, rfl⟩ := run
    exact ⟨rfl, rfl⟩

theorem window_runs (runtime : Runtime) (state : State) (userId : UserId) :
    ∃ trace, Runs atOnce (getVerificationWindowState runtime userId) state trace
      (.ok (state.window runtime userId)) state := by
  unfold getVerificationWindowState State.window
  cases isAttemptWindowEnabled runtime with
  | false => exact ⟨[], rfl, rfl, rfl⟩
  | true =>
    exact ⟨_, _, state, _, rfl, atOnce_now.mpr ⟨rfl, rfl⟩, _, state, _, rfl,
      (atOnce_query fun _ => rfl).mpr ⟨rfl, rfl⟩, _, state, _, rfl, atOnce_now.mpr ⟨rfl, rfl⟩,
      rfl, rfl, rfl⟩

/-- The gate of a submission rejects at this instant, with this failure. -/
def Rejects (runtime : Runtime) (state : State) (userId : UserId) (failure : Failure) : Prop :=
  ∃ trace after, Runs atOnce (enforceAttemptLimit runtime userId) state trace (.error failure) after

/-- The gate of a submission lets it through at this instant. -/
def Admits (runtime : Runtime) (state : State) (userId : UserId) : Prop :=
  ∃ trace used after, Runs atOnce (enforceAttemptLimit runtime userId) state trace (.ok used) after

/-- What a rejection reports. -/
def State.rejection (runtime : Runtime) (state : State) (userId : UserId) : Failure :=
  .tooManyVerificationAttempts runtime.attemptWindowHours
    (state.window runtime userId).retryAvailableAt (state.window runtime userId).retryAfterSeconds

/-- The gate comes to one outcome at one instant. -/
theorem runs_enforceAttemptLimit {userId : UserId} {trace : List ServiceEvent}
    {outcome : Except Failure Nat}
    (run : Runs atOnce (enforceAttemptLimit runtime userId) state trace outcome next) :
    outcome = if (state.window runtime userId).attemptsUsed ≥ MAX_ATTEMPTS then
      .error (state.rejection runtime userId)
    else .ok (state.window runtime userId).attemptsUsed := by
  unfold enforceAttemptLimit at run
  cases enabled : isAttemptWindowEnabled runtime with
  | false =>
    rw [enabled] at run
    obtain ⟨_, rfl, rfl⟩ := run
    rw [State.window, enabled]
    rfl
  | true =>
    rw [enabled] at run
    obtain ⟨_, _, ended, between, _, runWindow, run⟩ := runs_bind.mp run
    obtain ⟨rfl, rfl⟩ := runs_getVerificationWindowState runWindow
    rcases runs_throwIf_bind.mp run with ⟨used, _, rfl, _⟩ | ⟨unused, run⟩
    · rw [if_pos (of_decide_eq_true used)]
      rfl
    · obtain ⟨_, rfl, _⟩ := run
      rw [if_neg (of_decide_eq_false unused)]

theorem enforceAttemptLimit_runs (runtime : Runtime) (state : State) (userId : UserId) :
    ∃ trace outcome,
      Runs atOnce (enforceAttemptLimit runtime userId) state trace outcome state := by
  unfold enforceAttemptLimit
  cases isAttemptWindowEnabled runtime with
  | false => exact ⟨[], _, rfl, rfl, rfl⟩
  | true =>
    obtain ⟨trace, run⟩ := window_runs runtime state userId
    by_cases used : (state.window runtime userId).attemptsUsed ≥ MAX_ATTEMPTS
    · exact ⟨_, _, runs_bind.mpr ⟨trace, [], _, state, rfl, run, runs_throwIf_bind.mpr
        (.inl ⟨decide_eq_true used, rfl, rfl, rfl⟩)⟩⟩
    · exact ⟨_, _, runs_bind.mpr ⟨trace, [], _, state, rfl, run, runs_throwIf_bind.mpr
        (.inr ⟨decide_eq_false used, rfl, rfl, rfl⟩)⟩⟩

theorem rejects_iff {userId : UserId} {failure : Failure} :
    Rejects runtime state userId failure ↔
      (state.window runtime userId).attemptsUsed ≥ MAX_ATTEMPTS ∧
        failure = state.rejection runtime userId := by
  constructor
  · rintro ⟨trace, after, run⟩
    have outcome := runs_enforceAttemptLimit run
    split at outcome
    · rename_i used
      exact ⟨used, Except.error.inj outcome⟩
    · cases outcome
  · rintro ⟨used, rfl⟩
    obtain ⟨trace, outcome, run⟩ := enforceAttemptLimit_runs runtime state userId
    have ended := runs_enforceAttemptLimit run
    rw [if_pos used] at ended
    subst ended
    exact ⟨trace, state, run⟩

theorem admits_iff {userId : UserId} :
    Admits runtime state userId ↔ (state.window runtime userId).attemptsUsed < MAX_ATTEMPTS := by
  constructor
  · rintro ⟨trace, used, after, run⟩
    have outcome := runs_enforceAttemptLimit run
    split at outcome
    · cases outcome
    · rename_i unused
      exact Nat.lt_of_not_le unused
  · intro unused
    obtain ⟨trace, outcome, run⟩ := enforceAttemptLimit_runs runtime state userId
    have ended := runs_enforceAttemptLimit run
    rw [if_neg (Nat.not_le.mpr unused)] at ended
    subst ended
    exact ⟨trace, _, state, run⟩

/-! ### The reported retry time -/

/-- The same tables at another instant: no further attempt is recorded. -/
def State.at (state : State) (instant : Timestamp) : State :=
  { state with clock := instant }

/-- The reported retry time is exact: the gate rejects until the reported instant and admits from
then on, and a client that waits the reported seconds is admitted. -/
def RetryExact (runtime : Runtime) (state : State) (userId : UserId) : Prop :=
  ∀ hours available seconds,
    Rejects runtime state userId (.tooManyVerificationAttempts hours (some available)
      (some seconds)) →
      (∀ instant, state.clock ≤ instant → instant < available →
        ∃ failure, Rejects runtime (state.at instant) userId failure) ∧
      (∀ instant, available ≤ instant → Admits runtime (state.at instant) userId) ∧
      Admits runtime (state.at (state.clock + seconds * 1000)) userId

/-- Three attempts at the instants 0, 1 and 2, seen at the instant 3. -/
def threeAttempts : State :=
  let attempt (id : RowId) (createdAt : Timestamp) : IdVerificationRow :=
    ⟨id, 0, id + 1, false, 0, 0, 0, false, none, "ip", createdAt⟩
  let empty := State.empty 3
  { empty with db := { empty.db with
      nextId := 3
      idVerifications := [attempt 0 0, attempt 1 1, attempt 2 2] } }

/-- The reported retry time is not exact whenever the gate rejects. -/
theorem retry_not_exact :
    ¬ ∀ (runtime : Runtime) (state : State) (userId : UserId) (failure : Failure),
      Rejects runtime state userId failure → RetryExact runtime state userId := by
  intro exact
  have reported : Rejects legibleRuntime threeAttempts 0
      (.tooManyVerificationAttempts 24 (some 86400000) (some 86400)) :=
    rejects_iff.mpr ⟨by decide +kernel, by decide +kernel⟩
  obtain ⟨_, admits, _⟩ := exact _ _ _ _ reported _ _ _ reported
  have late := admits_iff.mp (admits 86400000 (Int.le_refl _))
  exact absurd late (by decide +kernel)

/-- What counts at one bound counts at a later one that it does not precede. -/
theorem length_attemptsSince_le {db : Database} {userId : UserId} {since later : Timestamp}
    (kept : ∀ time ∈ db.attemptsSince userId since, later ≤ time) :
    (db.attemptsSince userId since).length ≤ (db.attemptsSince userId later).length := by
  simp only [Database.attemptsSince, List.length_insertionSort, List.length_map,
    ← List.countP_eq_length_filter]
  refine List.countP_mono_left fun row stored matched => ?_
  simp only [Bool.and_eq_true, decide_eq_true_eq] at matched ⊢
  refine ⟨matched.1, kept row.createdAt ?_⟩
  rw [Database.attemptsSince, List.mem_insertionSort, List.mem_map]
  exact ⟨row, List.mem_filter.mpr ⟨stored, by simpa using matched⟩, rfl⟩

/-- The attempts that count are found oldest first. -/
theorem head_le_counted {userId : UserId} {oldest time : Timestamp} {rest : List Timestamp}
    (counted : state.counted runtime userId = oldest :: rest)
    (member : time ∈ state.counted runtime userId) : oldest ≤ time := by
  have sorted : (state.counted runtime userId).Pairwise (· ≤ ·) :=
    List.pairwise_insertionSort _ _
  rw [counted] at sorted member
  rcases List.mem_cons.mp member with rfl | later
  · exact Int.le_refl _
  · exact (List.pairwise_cons.mp sorted).1 time later

/-- The gate rejects with a window that is enabled and has its oldest counted attempt. -/
theorem counted_of_used {userId : UserId}
    (used : (state.window runtime userId).attemptsUsed ≥ MAX_ATTEMPTS) :
    ∃ oldest rest, state.counted runtime userId = oldest :: rest ∧
      (state.counted runtime userId).length ≥ MAX_ATTEMPTS ∧
      isAttemptWindowEnabled runtime = true := by
  unfold State.window at used
  split at used
  · rename_i enabled
    have several : (state.counted runtime userId).length ≥ MAX_ATTEMPTS := used
    cases counted : state.counted runtime userId with
    | nil =>
      rw [counted] at several
      exact absurd several (by decide)
    | cons oldest rest => exact ⟨oldest, rest, rfl, counted ▸ several, enabled⟩
  · exact absurd used (by decide)

/-- A rejection reports the instant at which the oldest counted attempt is a window old, and the
gate rejects up to and including that instant. -/
theorem rejects_available {userId : UserId} {failure : Failure}
    (rejects : Rejects runtime state userId failure) :
    ∃ available seconds,
      failure = .tooManyVerificationAttempts runtime.attemptWindowHours (some available)
        (some seconds) ∧
      ∀ instant ≤ available, ∃ failure, Rejects runtime (state.at instant) userId failure := by
  obtain ⟨used, rfl⟩ := rejects_iff.mp rejects
  obtain ⟨oldest, rest, counted, several, enabled⟩ := counted_of_used used
  have window : state.window runtime userId =
      windowState runtime (oldest :: rest) state.clock := by
    rw [State.window, if_pos enabled, counted]
  rw [counted] at several
  refine ⟨oldest + attemptWindowMs runtime,
    max (ceilSeconds (oldest + attemptWindowMs runtime - state.clock)) 0, ?_,
    fun instant before => ?_⟩
  · rw [State.rejection, window, windowState, if_pos several]
    rfl
  · refine ⟨_, rejects_iff.mpr ⟨?_, rfl⟩⟩
    have more : (state.counted runtime userId).length ≤
        ((state.at instant).counted runtime userId).length := by
      refine length_attemptsSince_le fun time member => ?_
      exact Int.le_trans (Int.sub_right_le_of_le_add before) (head_le_counted counted member)
    rw [State.window, if_pos enabled]
    exact Nat.le_trans (counted ▸ several) more

/-- The reported retry time is never exact: at the reported instant itself the gate still
rejects, since the oldest counted attempt still counts. -/
theorem retry_never_exact (runtime : Runtime) (state : State) (userId : UserId)
    (failure : Failure) (rejects : Rejects runtime state userId failure) :
    ¬RetryExact runtime state userId := by
  intro exact
  obtain ⟨available, seconds, rfl, remains⟩ := rejects_available rejects
  obtain ⟨late, rejected⟩ := remains available (Int.le_refl _)
  have admitted := admits_iff.mp ((exact _ _ _ rejects).2.1 available (Int.le_refl _))
  exact absurd (rejects_iff.mp rejected).1 (Nat.not_le.mpr admitted)

/-- The gate rejects at the instant 3, and the retry time it reports is not exact. -/
theorem retry_never_exact_three :
    Rejects legibleRuntime threeAttempts 0 (threeAttempts.rejection legibleRuntime 0) ∧
      ¬RetryExact legibleRuntime threeAttempts 0 := by
  have rejects : Rejects legibleRuntime threeAttempts 0
      (threeAttempts.rejection legibleRuntime 0) :=
    rejects_iff.mpr ⟨by decide +kernel, rfl⟩
  exact ⟨rejects, retry_never_exact legibleRuntime threeAttempts 0 _ rejects⟩

end GraconAuth
