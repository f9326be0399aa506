/-
This file proves that sharing a rotation never holds a call up for good. A call that
waits for a flight has not started one, and the call that has started a flight never
waits: it settles its flight before it ends, whatever the rotation has come to. So
the calls that have been accepted always run to their ends, in whatever order they
take turns, and no refresh stays pending behind them.
-/

import GraconAuth.Flights
import GraconAuth.Progress

namespace GraconAuth

open Interleaving Program Relation

variable (runtime : Runtime)

/-! ### What a call waits for -/

/-- The effects that have nothing to do with a flight. -/
def Effect.Flightless : Effect → Prop
  | .joinFlight _ | .awaitFlight _ | .settleFlight _ _ _ => False
  | _ => True

/-- A call waits only for a flight that it has joined, and not once it has started one. -/
def patient (past : List ServiceEvent) : Effect → Prop
  | .awaitFlight flight =>
    (∃ event ∈ past, joins event = some flight) ∧ ∀ event ∈ past, leads event = none
  | _ => True

/-- A call that has started a flight has settled it. -/
def Settles (past : List ServiceEvent) : Prop :=
  (∀ event ∈ past, leads event = none) ∨ ∃ event ∈ past, lands event = true

theorem flightless_leads {event : ServiceEvent} (flightless : event.effect.Flightless) :
    leads event = none := by
  unfold leads
  split
  · exact flightless.elim
  · rfl

theorem Effect.Flightless.patient {effect : Effect} (flightless : effect.Flightless)
    (past : List ServiceEvent) : patient past effect := by
  cases effect with
  | awaitFlight flight => exact flightless.elim
  | _ => trivial

theorem Effect.Harmless.flightless {effect : Effect} (harmless : effect.Harmless) :
    effect.Flightless := by
  cases effect <;> first | exact harmless.elim | trivial

theorem Effect.Issues.flightless {effect : Effect} (issues : effect.Issues) :
    effect.Flightless := by
  cases effect <;> first | exact issues.elim | trivial

theorem Settles.cons {past : List ServiceEvent} (settles : Settles past)
    {event : ServiceEvent} (leadless : leads event = none) : Settles (event :: past) := by
  rcases settles with idle | ⟨landing, member, lands⟩
  · exact .inl (List.forall_mem_cons.mpr ⟨leadless, idle⟩)
  · exact .inr ⟨landing, List.mem_cons_of_mem _ member, lands⟩

/-- A program without flights keeps to the rule. -/
theorem follows_patient {Result : Type} {program : Async Result} {past : List ServiceEvent}
    (uses : program.Uses Effect.Flightless) :
    program.Follows (conduct patient)
      (fun now _ => Extends Effect.Flightless past now) past :=
  uses.follows fun now _ _ flightless => flightless.patient now

theorem settles_of_extends {now : List ServiceEvent} (grown : Extends Effect.Flightless [] now) :
    Settles now :=
  .inl fun _ member => flightless_leads ((grown.mem_or member).resolve_left List.not_mem_nil)

theorem rotateRefreshToken_flightless (tokenHash : TokenHash) (ipAddress userAgent : String)
    (requireFullToken : Bool) :
    (AuthService.rotateRefreshToken runtime tokenHash ipAddress userAgent requireFullToken).Uses
      Effect.Flightless := by
  refine uses_bind (uses_perform trivial) fun found => ?_
  match found with
  | none => trivial
  | some (storedToken, user) =>
    dsimp only
    split
    · exact uses_bind (uses_perform trivial) fun _ => uses_bind (uses_perform trivial)
        fun _ => trivial
    · refine uses_bind (uses_perform trivial) fun _ => uses_bind (uses_throwIf _ _) fun _ =>
        uses_bind (uses_throwIf _ _) fun _ => uses_bind (uses_throwIf _ _) fun _ =>
        uses_bind (uses_perform trivial) fun _ => ?_
      exact (generateTokens_uses runtime _ _ _ _ _).mono fun _ inside =>
        inside.elim Effect.Harmless.flightless Effect.Issues.flightless

/-- The call that starts a flight settles it; the others wait for the one they have joined. -/
theorem runSingleFlightRefresh_settles {key : FlightKey} {task : Async AuthTokens}
    (inner : task.Uses Effect.Flightless) :
    (AuthService.runSingleFlightRefresh key task).Follows (conduct patient)
      (fun now _ => Settles now) [] := by
  refine follows_perform_bind.mpr ⟨trivial, fun role _ => ?_, fun _ impossible =>
    impossible.elim⟩
  cases role with
  | follower flight =>
    have idle : ∀ event ∈ [(⟨.joinFlight key, .ok (.follower flight)⟩ : ServiceEvent)],
        leads event = none := List.forall_mem_singleton.mpr rfl
    exact follows_perform.mpr ⟨⟨⟨_, List.mem_singleton_self _, rfl⟩, idle⟩, fun _ _ =>
      Settles.cons (.inl idle) rfl⟩
  | leader flight =>
    refine follows_bind.mpr (follows_attempt.mpr ((follows_patient inner).weaken
      fun now outcome _ => ?_))
    exact follows_perform_bind.mpr ⟨trivial, fun _ _ => follows_ofOutcome.mpr
      (.inr ⟨_, List.mem_cons_self, rfl⟩), fun _ _ => .inr ⟨_, List.mem_cons_self, rfl⟩⟩

/-- What a handler keeps, the call keeps. -/
theorem serve_settles_of_guarded {request : Request}
    (guarded : (request.guarded runtime).Follows (conduct patient) (fun now _ => Settles now) []) :
    (serve runtime request).Follows (conduct patient) (fun now _ => Settles now) [] := by
  refine follows_bind.mpr (follows_attempt.mpr (guarded.weaken fun now outcome settles => ?_))
  exact follows_perform_bind.mpr ⟨trivial, fun _ _ => follows_ofOutcome.mpr (settles.cons rfl),
    fun _ _ => settles.cons rfl⟩

/-- Every call keeps to the rule, and when it has ended it has settled the flight that it has
started. -/
theorem serve_settles (request : Request) :
    (serve runtime request).Follows (conduct patient) (fun now _ => Settles now) [] := by
  by_cases rotates : request.rotates = true
  · cases request with
    | refreshTokens process refreshToken ipAddress userAgent =>
      refine serve_settles_of_guarded runtime (Follows.bind (runSingleFlightRefresh_settles
        (rotateRefreshToken_flightless runtime _ _ _ _)) (fun now tokens settles => settles)
          fun now failure settles => settles)
    | upgradeSession process refreshToken ipAddress userAgent =>
      refine serve_settles_of_guarded runtime (follows_bind.mpr (Follows.bind
        (runSingleFlightRefresh_settles (rotateRefreshToken_flightless runtime _ _ _ _))
          (fun now tokens settles => ?_) fun now failure settles => settles))
      exact follows_throwIf_bind.mpr ⟨fun _ => settles, fun _ => settles⟩
    | _ => cases rotates
  · have flightless : (serve runtime request).Uses Effect.Flightless := by
      refine (serve_uses runtime request).mono fun effect inside => ?_
      rcases inside with harmless | awaits | ⟨outcome, rfl⟩
      · exact harmless.flightless
      · cases effect with
        | joinFlight _ | awaitFlight _ | settleFlight _ _ _ =>
          exact absurd (awaits_rotates awaits rfl) rotates
        | _ => trivial
      · trivial
    exact (follows_patient flightless).weaken fun now _ grown => settles_of_extends grown

/-! ### Calls at rest -/

/-- Every effect but the wait for a flight is answered. -/
theorem performs_of_unawaited (state : State) {effect : Effect}
    (unawaited : ∀ flight, effect ≠ .awaitFlight flight) :
    ∃ reply next, environment.Performs state effect reply next := by
  suffices answered : ∃ answer, environment state {} effect = some answer by
    obtain ⟨⟨reply, next⟩, answered⟩ := answered
    exact ⟨reply, next, {}, answered⟩
  cases effect with
  | awaitFlight flight => exact absurd rfl (unawaited flight)
  | execute statements =>
    simp only [environment, State.answer, State.commit]
    cases runAll _ _ statements <;> exact ⟨_, rfl⟩
  | registerTransaction data =>
    simp only [environment, State.answer, State.commit]
    cases Database.register _ _ data <;> exact ⟨_, rfl⟩
  | joinFlight key =>
    simp only [environment, State.answer]
    split <;> exact ⟨_, rfl⟩
  | _ => exact ⟨_, rfl⟩

/-- The wait for a flight that has landed is answered. -/
theorem performs_of_landed {state : State} {flight : FlightId}
    {outcome : Except Failure AuthTokens}
    (landed : state.memory.flights[flight]? = some (some outcome)) :
    ∃ next, environment.Performs state (.awaitFlight flight) outcome next := by
  refine ⟨state.tick 0, {}, ?_⟩
  simp [environment, State.answer, State.tick, landed]

section Rest

variable {runtime} {clock : Timestamp} {pool : ServicePool}

/-- The call that has started a flight and has not settled it can go on. -/
theorem leader_advances
    (reachable : Reachable (service runtime) .free (State.empty clock) pool)
    (rests : pool.AtRest (service runtime) .free) {thread : Nat} {key : FlightKey}
    {flight : FlightId} : ¬InFlight (pool.world.past thread) key flight := by
  rintro ⟨⟨event, past, led⟩, landless⟩
  obtain ⟨entry, member, rfl, rfl⟩ := World.mem_past.mp past
  obtain ⟨⟨request, rest⟩, found⟩ : ∃ call, pool.calls[entry.thread]? = some call :=
    ⟨_, List.getElem?_eq_getElem (reachable.inRange entry member)⟩
  have kept := reachable.kept (fun _ _ _ _ _ performs => performs_plausible performs)
    (serve_settles runtime) found
  have aloft : ¬Settles (pool.world.past entry.thread) := by
    rintro (idle | ⟨landing, pastToo, lands⟩)
    · rw [idle _ past] at led
      cases led
    · rw [landless landing pastToo] at lands
      cases lands
  cases rest with
  | done result => exact aloft kept
  | raise failure => exact aloft kept
  | await effect resume =>
    by_cases unawaited : ∀ flight, effect ≠ .awaitFlight flight
    · obtain ⟨reply, next, performs⟩ := performs_of_unawaited pool.world.state unawaited
      exact rests.blocked found reply next performs
    · simp only [not_forall, not_not] at unawaited
      obtain ⟨awaited, rfl⟩ := unawaited
      rw [kept.1.2 _ past] at led
      cases led

/-- A flight that a call has joined is under way or has landed. -/
theorem aloft_or_landed {regime : Regime State Effect.Reply Failure Request}
    {world : ServiceWorld} (chronicle : Chronicle (service runtime) regime
      (fun request => conduct (coalesced runtime request)) (State.empty clock) world)
    {join : ServiceEntry} (member : join ∈ world.history) {flight : FlightId}
    (joined : joins join.event = some flight) :
    (∃ thread key, InFlight (world.past thread) key flight) ∨
      ∃ outcome, world.state.memory.flights[flight]? = some (some outcome) := by
  obtain ⟨key, _, none | ⟨lead, memberLead, led⟩⟩ := origin_of_joined chronicle member joined
  · cases none
  by_cases landless : ∀ event ∈ world.past lead.thread, lands event = false
  · exact .inl ⟨lead.thread, key, ⟨_, World.mem_past.mpr ⟨lead, memberLead, rfl, rfl⟩, led⟩,
      landless⟩
  · right
    simp only [not_forall, Bool.not_eq_false] at landless
    obtain ⟨event, past, landed⟩ := landless
    obtain ⟨settle, memberSettle, same, rfl⟩ := World.mem_past.mp past
    obtain ⟨settledKey, settled, outcome, settles⟩ :
        ∃ key flight outcome, settle.effect = .settleFlight key flight outcome := by
      obtain ⟨thread, request, before, effect, reply, after⟩ := settle
      unfold lands at landed
      split at landed
      · rename_i same
        cases same
        exact ⟨_, _, _, rfl⟩
      · cases landed
    obtain ⟨earlier, _, admissible, kept⟩ := chronicle.recalls memberSettle
    have ruled : coalesced runtime settle.request (earlier.past settle.thread) settle.effect :=
      admissible.ruled
    rw [settles] at ruled
    obtain ⟨⟨_, pastToo, ledToo⟩, _⟩ := ruled
    obtain ⟨leadToo, memberToo, sameToo, rfl⟩ := World.mem_past.mp pastToo
    obtain rfl := join_once chronicle memberLead (kept memberToo) (same.symm.trans sameToo.symm)
      (joins_of_leads led) (joins_of_leads ledToo)
    rw [led] at ledToo
    cases ledToo
    exact ⟨outcome, (outcomes_of_chronicle chronicle).settled settle memberSettle _ _ _ settles⟩

/-- At rest every call has ended and no refresh is pending. -/
theorem rest_is_final
    (reachable : Reachable (service runtime) .free (State.empty clock) pool)
    (rests : pool.AtRest (service runtime) .free) :
    (∀ call ∈ pool.calls, call.rest.Ended) ∧ pool.world.state.memory.pendingRefreshes = [] := by
  have chronicle := reachable_chronicle (coalesced runtime) reachable fun request _ =>
    serve_coalesced runtime request
  constructor
  · intro call member
    obtain ⟨thread, found⟩ := List.getElem?_of_mem member
    obtain ⟨request, rest⟩ := call
    have kept := reachable.kept (fun _ _ _ _ _ performs => performs_plausible performs)
      (serve_settles runtime) found
    cases rest with
    | done result => trivial
    | raise failure => trivial
    | await effect resume =>
      by_cases unawaited : ∀ flight, effect ≠ .awaitFlight flight
      · obtain ⟨reply, next, performs⟩ := performs_of_unawaited pool.world.state unawaited
        exact (rests.blocked found reply next performs).elim
      · simp only [not_forall, not_not] at unawaited
        obtain ⟨flight, rfl⟩ := unawaited
        obtain ⟨event, past, joined⟩ := kept.1.1
        obtain ⟨join, memberJoin, _, rfl⟩ := World.mem_past.mp past
        rcases aloft_or_landed chronicle memberJoin joined with
          ⟨leader, key, inFlight⟩ | ⟨outcome, landed⟩
        · exact (leader_advances reachable rests inFlight).elim
        · obtain ⟨next, performs⟩ := performs_of_landed landed
          exact (rests.blocked found outcome next performs).elim
  · refine List.eq_nil_iff_forall_not_mem.mpr fun ⟨key, flight⟩ pending => ?_
    obtain ⟨thread, inFlight⟩ := ((pending_of_chronicle chronicle).shown key flight).mp pending
    exact leader_advances reachable rests inFlight

/-- No refresh hangs: whatever has been accepted, no order of turns keeps the calls going forever,
and wherever the calls can take no further turn each of them has ended and nothing is left in the
map of pending refreshes. -/
theorem calls_always_finish
    (reachable : Reachable (service runtime) .free (State.empty clock) pool) :
    (¬∃ run : Nat → ServicePool, run 0 = pool ∧
      ∀ turn, Advance (service runtime) .free (run turn) (run (turn + 1))) ∧
    (∃ final, ReflTransGen (Advance (service runtime) .free) pool final ∧
      final.AtRest (service runtime) .free) ∧
    ∀ final, ReflTransGen (Advance (service runtime) .free) pool final →
      final.AtRest (service runtime) .free →
        (∀ call ∈ final.calls, call.rest.Ended) ∧
          final.world.state.memory.pendingRefreshes = [] := by
  refine ⟨?_, comes_to_rest pool, fun final later rests =>
    rest_is_final (Advance.reaches reachable later) rests⟩
  rintro ⟨run, _, advances⟩
  obtain ⟨turn, stops⟩ : ∃ turn, ¬Advance (service runtime) .free (run turn) (run (turn + 1)) :=
    no_endless_advance run
  exact stops (advances turn)

end Rest

/-- Two refreshes with one token: the first has started the rotation, the second waits for it. -/
def oneTokenTwice : List ServiceMove :=
  signedIn ++ [.accept (.refreshTokens 0 "r1" "ip" "agent"),
    .accept (.refreshTokens 0 "r1" "ip" "agent"), .advance 3 {}, .advance 4 {}]

theorem calls_always_finish_twice :
    (played .lax oneTokenTwice).world.state.memory.pendingRefreshes.length = 1 ∧
      ∃ final, ReflTransGen (Advance (service legibleRuntime) .free) (played .lax oneTokenTwice)
        final ∧ (∀ call ∈ final.calls, call.rest.Ended) ∧
          final.world.state.memory.pendingRefreshes = [] := by
  refine ⟨by decide, ?_⟩
  obtain ⟨_, ⟨final, later, rests⟩, finished⟩ :=
    calls_always_finish (played_reachable Referee.lax_upholds oneTokenTwice)
  exact ⟨final, later, finished final later rests⟩

end GraconAuth
