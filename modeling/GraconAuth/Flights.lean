/-
This file follows the refreshes that share one rotation. A call starts a flight for
its token hash or joins the one under way; the call that has started a flight runs
the rotation and settles the flight whatever the rotation has come to. So the map
of pending refreshes always shows exactly the calls that are between the two, one
for each key, and every call on a flight answers from one outcome.
-/

import GraconAuth.Footprints
import GraconAuth.Tables

namespace GraconAuth

open Interleaving Program Rows

variable (runtime : Runtime)

/-! ### Flights in a history -/

/-- The key under which a refresh is pending. -/
def Request.flightKey : Request → Option FlightKey
  | .refreshTokens process refreshToken _ _ | .upgradeSession process refreshToken _ _ =>
    some ⟨process, runtime.hash refreshToken⟩
  | _ => none

/-- The flight that the event has started. -/
def leads : ServiceEvent → Option (FlightKey × FlightId)
  | ⟨.joinFlight key, .ok (.leader flight)⟩ => some (key, flight)
  | _ => none

/-- The flight that the event has started or joined. -/
def joins : ServiceEvent → Option FlightId
  | ⟨.joinFlight _, .ok (.leader flight)⟩ | ⟨.joinFlight _, .ok (.follower flight)⟩ => some flight
  | _ => none

/-- The event has settled a flight. -/
def lands : ServiceEvent → Bool
  | ⟨.settleFlight _ _ _, _⟩ => true
  | _ => false

/-- The call has started the flight and has not settled it. -/
def InFlight (past : List ServiceEvent) (key : FlightKey) (flight : FlightId) : Prop :=
  (∃ event ∈ past, leads event = some (key, flight)) ∧ ∀ event ∈ past, lands event = false

/-- The call has read the live token with this id and hash. -/
def Taken (past : List ServiceEvent) (id : RowId) (tokenHash : TokenHash) : Prop :=
  ∃ event ∈ past, ∃ found ∈ readToken event,
    found.1.id = id ∧ found.1.tokenHash = tokenHash ∧ found.1.revoked = false

/-- The call has revoked the token that it has read. -/
def Exchanged (past : List ServiceEvent) : Prop :=
  ∃ read ∈ past, ∃ found ∈ readToken read, ∃ update ∈ past,
    executed update = [.refreshTokenUpdate found.1.id]

/-- The call has stored no token. -/
def Issueless (past : List ServiceEvent) : Prop :=
  ∀ event ∈ past, ∀ data, executed event ≠ [.refreshTokenCreate data]

/-- The outcome of the flight that the call has joined has come to the call. -/
def Came (past : List ServiceEvent) (outcome : Except Failure AuthTokens) : Prop :=
  ∃ flight, (∃ event ∈ past, joins event = some flight) ∧
    ((∃ key, ⟨.settleFlight key flight outcome, .ok ()⟩ ∈ past) ∨
      ⟨.awaitFlight flight, outcome⟩ ∈ past ∧ ∀ event ∈ past, leads event = none)

/-- What a call answers when its flight has come to an outcome: an upgrade adds its own check of
the token type. -/
def Request.answer : Request → Except Failure AuthTokens → Except Failure Response
  | .upgradeSession _ _ _ _, .ok tokens =>
    if tokens.tokenType = .full then .ok (.tokens tokens)
    else .error (ForbiddenException
      "Identity verification is required before this session can be upgraded.")
  | _, outcome => outcome.map .tokens

/-! ### The rule -/

/-- What has been done before a statement is carried out. -/
def flown (request : Request) (past : List ServiceEvent) : Statement → Prop
  | .refreshTokenUpdate id => ∃ key flight, request.flightKey runtime = some key ∧
    InFlight past key flight ∧ Taken past id key.tokenHash
  | .refreshTokenCreate _ => ∀ key, request.flightKey runtime = some key →
    (∃ flight, InFlight past key flight) ∧ Exchanged past ∧ Issueless past
  | _ => ∀ key, request.flightKey runtime = some key → ∃ flight, InFlight past key flight

/-- A refresh joins a flight once and first of all; it rotates only in the flight that it has
started, one token at most into one token at most; and it answers once the outcome of the flight
has come to it. -/
def coalesced (request : Request) (past : List ServiceEvent) : Effect → Prop
  | .joinFlight key => request.flightKey runtime = some key ∧
    ∀ event ∈ past, event.effect.Harmless
  | .refreshTokenFindUnique tokenHash => ∃ key flight, request.flightKey runtime = some key ∧
    tokenHash = key.tokenHash ∧ InFlight past key flight ∧
    ∀ event ∈ past, readToken event = none
  | .execute statements => ∀ statement ∈ statements, flown runtime request past statement
  | .settleFlight key flight _ => InFlight past key flight
  | .awaitFlight flight => ∃ event ∈ past, joins event = some flight
  | .respond outcome => ∀ key, request.flightKey runtime = some key →
    ∃ came, Came past came ∧ outcome = request.answer came
  | _ => True

theorem harmless_coalesced {request : Request} (past : List ServiceEvent) (effect : Effect)
    (harmless : effect.Harmless) : coalesced runtime request past effect := by
  cases effect with
  | joinFlight key => exact harmless.elim
  | refreshTokenFindUnique tokenHash => exact harmless.elim
  | execute statements => exact harmless.elim
  | settleFlight key flight outcome => exact harmless.elim
  | awaitFlight flight => exact harmless.elim
  | respond outcome => exact harmless.elim
  | _ => trivial

theorem InFlight.cons {past : List ServiceEvent} {key : FlightKey} {flight : FlightId}
    (inFlight : InFlight past key flight) {event : ServiceEvent} (flying : lands event = false) :
    InFlight (event :: past) key flight := by
  obtain ⟨⟨lead, member, leads⟩, unsettled⟩ := inFlight
  refine ⟨⟨lead, List.mem_cons_of_mem _ member, leads⟩, fun other memberOther => ?_⟩
  rcases List.mem_cons.mp memberOther with rfl | old
  · exact flying
  · exact unsettled other old

theorem harmless_joinless {event : ServiceEvent} (harmless : event.effect.Harmless) :
    joins event = none := by
  unfold joins
  split
  · exact harmless.elim
  · exact harmless.elim
  · rfl

theorem joins_of_leads {event : ServiceEvent} {key : FlightKey} {flight : FlightId}
    (led : leads event = some (key, flight)) : joins event = some flight := by
  unfold leads at led
  split at led
  · cases led
    rfl
  · cases led

section Traversal

variable {request : Request} {past : List ServiceEvent} {key : FlightKey} {flight : FlightId}

theorem generateTokens_coalesced (userId : UserId) (email : Email) (ipAddress userAgent : String)
    (tokenType : TokenType) (inFlight : InFlight past key flight)
    (keyed : request.flightKey runtime = some key) (exchanged : Exchanged past)
    (issueless : Issueless past) :
    (AuthService.generateTokens runtime userId email ipAddress userAgent tokenType).Follows
      (conduct (coalesced runtime request)) (fun now _ => InFlight now key flight) past := by
  refine follows_perform_bind.mpr ⟨trivial, fun accessToken _ => follows_perform_bind.mpr
    ⟨trivial, fun token _ => follows_perform_bind.mpr ⟨trivial, fun now _ =>
      follows_perform_bind.mpr ⟨?_, fun _ _ => ?_, fun _ _ => ?_⟩, fun _ _ => ?_⟩,
        fun _ _ => ?_⟩, fun _ _ => ?_⟩
  · intro statement listed
    obtain rfl := List.mem_singleton.mp listed
    intro other same
    obtain rfl : key = other := Option.some.inj (keyed.symm.trans same)
    obtain ⟨read, memberRead, found, reads, update, memberUpdate, updates⟩ := exchanged
    refine ⟨⟨flight, ((inFlight.cons rfl).cons rfl).cons rfl⟩,
      ⟨read, by simp [memberRead], found, reads, update, by simp [memberUpdate], updates⟩, ?_⟩
    intro event member data
    simp only [List.mem_cons] at member
    rcases member with rfl | rfl | rfl | old
    · exact nofun
    · exact nofun
    · exact nofun
    · exact issueless event old data
  · exact (((inFlight.cons rfl).cons rfl).cons rfl).cons rfl
  · exact (((inFlight.cons rfl).cons rfl).cons rfl).cons rfl
  · exact ((inFlight.cons rfl).cons rfl).cons rfl
  · exact (inFlight.cons rfl).cons rfl
  · exact inFlight.cons rfl

theorem rotateRefreshToken_coalesced (ipAddress userAgent : String) (requireFullToken : Bool)
    (inFlight : InFlight past key flight) (keyed : request.flightKey runtime = some key)
    (readless : ∀ event ∈ past, readToken event = none) (issueless : Issueless past) :
    (AuthService.rotateRefreshToken runtime key.tokenHash ipAddress userAgent
      requireFullToken).Follows (conduct (coalesced runtime request))
        (fun now _ => InFlight now key flight) past := by
  refine follows_perform_bind.mpr ⟨⟨key, flight, keyed, rfl, inFlight, readless⟩,
    fun found expected => ?_, fun _ _ => inFlight.cons rfl⟩
  match found with
  | none => exact inFlight.cons rfl
  | some (storedToken, user) =>
    have inFlight : InFlight
        (⟨.refreshTokenFindUnique key.tokenHash, .ok (some (storedToken, user))⟩ :: past)
        key flight := inFlight.cons rfl
    dsimp only
    split
    · refine follows_perform_bind.mpr ⟨?_, fun _ _ => follows_perform_bind.mpr ⟨trivial,
        fun _ _ => (inFlight.cons rfl).cons rfl, fun _ _ => (inFlight.cons rfl).cons rfl⟩,
        fun _ _ => inFlight.cons rfl⟩
      intro statement listed
      obtain rfl := List.mem_singleton.mp listed
      intro other same
      obtain rfl : key = other := Option.some.inj (keyed.symm.trans same)
      exact ⟨flight, inFlight⟩
    · rename_i live
      refine follows_perform_bind.mpr ⟨trivial, fun now _ => ?_, fun _ _ => inFlight.cons rfl⟩
      have inFlight : InFlight (⟨.now, .ok now⟩ :: _) key flight := inFlight.cons rfl
      refine follows_throwIf_bind.mpr ⟨fun _ => inFlight, fun _ => follows_throwIf_bind.mpr
        ⟨fun _ => inFlight, fun _ => follows_throwIf_bind.mpr ⟨fun _ => inFlight, fun _ =>
          follows_perform_bind.mpr ⟨?_, fun _ _ => ?_, fun _ _ => inFlight.cons rfl⟩⟩⟩⟩
      · intro statement listed
        obtain rfl := List.mem_singleton.mp listed
        exact ⟨key, flight, keyed, inFlight, _, List.mem_cons_of_mem _ List.mem_cons_self, _, rfl,
          rfl, expected.1, by simpa using live⟩
      · refine generateTokens_coalesced runtime _ _ _ _ _ (inFlight.cons rfl) keyed ?_ ?_
        · exact ⟨_, List.mem_cons_of_mem _ (List.mem_cons_of_mem _ List.mem_cons_self), _, rfl,
            _, List.mem_cons_self, rfl⟩
        · intro event member data
          simp only [List.mem_cons] at member
          rcases member with rfl | rfl | rfl | old
          · exact nofun
          · exact nofun
          · exact nofun
          · exact issueless event old data

theorem runSingleFlightRefresh_coalesced (ipAddress userAgent : String) (requireFullToken : Bool)
    (keyed : request.flightKey runtime = some key)
    (harmless : ∀ event ∈ past, event.effect.Harmless) :
    (AuthService.runSingleFlightRefresh key (AuthService.rotateRefreshToken runtime key.tokenHash
      ipAddress userAgent requireFullToken)).Follows (conduct (coalesced runtime request))
        Came past := by
  refine follows_perform_bind.mpr ⟨⟨keyed, harmless⟩, fun role _ => ?_,
    fun _ impossible => impossible.elim⟩
  cases role with
  | follower flight =>
    refine follows_perform.mpr ⟨⟨_, List.mem_cons_self, rfl⟩, fun outcome _ =>
      ⟨flight, ⟨_, List.mem_cons_of_mem _ List.mem_cons_self, rfl⟩, .inr ⟨List.mem_cons_self, ?_⟩⟩⟩
    intro event member
    simp only [List.mem_cons] at member
    rcases member with rfl | rfl | old
    · rfl
    · rfl
    · unfold leads
      split
      · exact (harmless _ old).elim
      · rfl
  | leader flight =>
    have inFlight : InFlight (⟨.joinFlight key, .ok (.leader flight)⟩ :: past) key flight := by
      refine ⟨⟨_, List.mem_cons_self, rfl⟩, fun event member => ?_⟩
      rcases List.mem_cons.mp member with rfl | old
      · rfl
      · unfold lands
        split
        · exact (harmless _ old).elim
        · rfl
    refine follows_bind.mpr (follows_attempt.mpr ((rotateRefreshToken_coalesced runtime _ _ _
      inFlight keyed ?_ ?_).weaken fun now outcome stillInFlight => ?_))
    · intro event member
      rcases List.mem_cons.mp member with rfl | old
      · rfl
      · exact harmless_readless (harmless event old)
    · intro event member data carriedOut
      rcases List.mem_cons.mp member with rfl | old
      · cases carriedOut
      · exact harmless_issueless (harmless event old) _
          (congrArg Event.effect (event_of_executed carriedOut))
    · obtain ⟨lead, member, led⟩ := stillInFlight.1
      refine follows_perform_bind.mpr ⟨stillInFlight, fun _ _ => follows_ofOutcome.mpr
        ⟨flight, ⟨lead, List.mem_cons_of_mem _ member, joins_of_leads led⟩,
          .inl ⟨key, List.mem_cons_self⟩⟩, fun _ impossible => impossible.elim⟩

end Traversal

/-- A request that does not refresh keeps to the rule by its footprint. -/
theorem awaits_coalesced {request : Request} (still : request.flightKey runtime = none)
    (past : List ServiceEvent) (effect : Effect) (awaits : request.Awaits effect) :
    coalesced runtime request past effect := by
  have idle : request.rotates = false := by cases request <;> first | rfl | cases still
  cases effect with
  | joinFlight _ | awaitFlight _ | settleFlight _ _ _ | refreshTokenFindUnique _ =>
    rw [awaits_rotates awaits rfl] at idle
    cases idle
  | execute statements =>
    intro statement listed
    have writes := awaits_writes awaits statement listed
    cases statement with
    | refreshTokenUpdate id => cases request <;> first | exact writes.elim | cases still
    | _ =>
      intro key keyed
      rw [still] at keyed
      cases keyed
  | respond outcome =>
    intro key keyed
    rw [still] at keyed
    cases keyed
  | _ => trivial

/-- Every call keeps to the rule. -/
theorem serve_coalesced (request : Request) :
    (serve runtime request).Abides (conduct (coalesced runtime request)) [] := by
  refine serve_follows runtime request (harmless_coalesced runtime) (fun guarded _ _ _ key keyed =>
    ?_) fun past userId grown => ?_
  · cases request <;> first | exact absurd rfl guarded | cases keyed
  have harmless : ∀ event ∈ past, event.effect.Harmless := fun event member =>
    (grown.mem_or member).resolve_left List.not_mem_nil
  cases keyed : request.flightKey runtime with
  | none =>
    refine ((handle_uses runtime userId request).follows fun now effect _ inside =>
      inside.elim (harmless_coalesced runtime now effect)
        (awaits_coalesced runtime keyed now effect)).weaken fun now outcome _ key same => ?_
    rw [keyed] at same
    cases same
  | some key =>
    cases request with
    | refreshTokens process refreshToken ipAddress userAgent =>
      cases keyed
      exact (runSingleFlightRefresh_coalesced runtime _ _ _ rfl harmless).bind
        (fun now tokens came => fun _ _ => ⟨.ok tokens, came, rfl⟩)
        fun now failure came => fun _ _ => ⟨.error failure, came, rfl⟩
    | upgradeSession process refreshToken ipAddress userAgent =>
      cases keyed
      refine follows_bind.mpr ((runSingleFlightRefresh_coalesced runtime _ _ _ rfl harmless).bind
        (fun now tokens came => ?_) fun now failure came => fun _ _ => ⟨.error failure, came, rfl⟩)
      refine follows_throwIf_bind.mpr ⟨fun limited => ?_, fun full => ?_⟩
      · refine fun _ _ => ⟨.ok tokens, came, ?_⟩
        have : tokens.tokenType ≠ .full := by simpa using limited
        simp only [Request.answer, if_neg this]
      · refine fun _ _ => ⟨.ok tokens, came, ?_⟩
        have : tokens.tokenType = .full := by simpa using full
        simp only [Request.answer, if_pos this]
    | _ => cases keyed

/-! ### The map in a run -/

theorem lands_of_settles {event : ServiceEvent} {key : FlightKey} {flight : FlightId}
    {outcome : Except Failure AuthTokens}
    (settles : event.effect = .settleFlight key flight outcome) :
    lands event = true := by
  obtain ⟨effect, reply⟩ := event
  change effect = _ at settles
  subst settles
  rfl

theorem effect_of_joins {event : ServiceEvent} {flight : FlightId}
    (joined : joins event = some flight) : ∃ key, event.effect = .joinFlight key := by
  unfold joins at joined
  split at joined
  · exact ⟨_, rfl⟩
  · exact ⟨_, rfl⟩
  · cases joined

theorem event_of_leads {event : ServiceEvent} {key : FlightKey} {flight : FlightId}
    (led : leads event = some (key, flight)) : event = ⟨.joinFlight key, .ok (.leader flight)⟩ := by
  unfold leads at led
  split at led
  · cases led
    rfl
  · cases led

theorem inFlight_cons {past : List ServiceEvent} {event : ServiceEvent}
    (leadless : leads event = none) (landless : lands event = false) {key : FlightKey}
    {flight : FlightId} : InFlight (event :: past) key flight ↔ InFlight past key flight := by
  simp [InFlight, leadless, landless]

theorem inFlight_lead {past : List ServiceEvent} (harmless : ∀ event ∈ past, event.effect.Harmless)
    {event : ServiceEvent} {key other : FlightKey} {flight another : FlightId}
    (led : leads event = some (key, flight)) :
    InFlight (event :: past) other another ↔ other = key ∧ another = flight := by
  have leadless : ∀ event ∈ past, leads event = none := by
    intro event member
    unfold leads
    split
    · exact (harmless _ member).elim
    · rfl
  have landless : ∀ event ∈ past, lands event = false := by
    intro event member
    unfold lands
    split
    · exact (harmless _ member).elim
    · rfl
  constructor
  · rintro ⟨⟨lead, member, ledToo⟩, _⟩
    rcases List.mem_cons.mp member with rfl | old
    · rw [led] at ledToo
      cases ledToo
      exact ⟨rfl, rfl⟩
    · rw [leadless lead old] at ledToo
      cases ledToo
  · rintro ⟨rfl, rfl⟩
    refine ⟨⟨event, List.mem_cons_self, led⟩, fun other member => ?_⟩
    rcases List.mem_cons.mp member with rfl | old
    · rw [event_of_leads led]
      rfl
    · exact landless other old

theorem performs_flights {state next : State} {effect : Effect}
    {reply : Except Failure effect.Reply}
    (performs : environment.Performs state effect reply next) :
    state.memory.flights.length ≤ next.memory.flights.length := by
  cases effect with
  | joinFlight key =>
    rcases performs_joinFlight performs with ⟨_, _, memory⟩ | ⟨_, _, _, memory⟩
    · rw [memory, List.length_append]
      exact Nat.le_add_right _ _
    · rw [memory]
  | settleFlight key flight outcome =>
    rw [(performs_settleFlight performs).2, List.length_set]
  | _ => rw [performs_memory performs rfl]

section Recorded

variable {runtime} {regime : Regime State Effect.Reply Failure Request}
  {rule : Request → ServiceConduct} {initial : State} {world : ServiceWorld}
  (chronicle : Chronicle (service runtime) regime rule initial world)

include chronicle

/-- A flight that has been started is on record. -/
theorem lead_recorded {lead : ServiceEntry} (member : lead ∈ world.history) {key : FlightKey}
    {flight : FlightId} (led : leads lead.event = some (key, flight)) :
    flight < world.state.memory.flights.length := by
  refine chronicle.lasts (fun state => flight < state.memory.flights.length)
    (fun _ _ _ _ performs holds => Nat.lt_of_lt_of_le holds (performs_flights performs)) member
    (.inr ?_)
  obtain ⟨_, _, admissible, _⟩ := chronicle.recalls member
  have performs : environment.Performs lead.before lead.effect lead.reply lead.after :=
    admissible.performs
  rcases performs_joinFlight (performs_event performs (event_of_leads led)) with
    ⟨same, _, memory⟩ | ⟨_, same, _⟩
  · cases same
    rw [memory, List.length_append]
    exact Nat.lt_succ_self _
  · cases same

/-- A flight is started once. -/
theorem lead_once {first second : ServiceEntry} (memberFirst : first ∈ world.history)
    (memberSecond : second ∈ world.history) {one two : FlightKey} {flight : FlightId}
    (ledFirst : leads first.event = some (one, flight))
    (ledSecond : leads second.event = some (two, flight)) : first = second := by
  refine chronicle.once (fun entry flight => ∃ key, leads entry.event = some (key, flight))
    (fun flight world => flight < world.state.memory.flights.length) ?_ ?_ memberFirst
    memberSecond ⟨one, ledFirst⟩ ⟨two, ledSecond⟩
  · rintro world entry flight _ admissible ⟨key, led⟩
    have performs : environment.Performs entry.before entry.effect entry.reply entry.after :=
      admissible.performs
    rcases performs_joinFlight (performs_event performs (event_of_leads led)) with
      ⟨same, _, memory⟩ | ⟨_, same, _⟩
    · cases same
      rw [← admissible.current, World.record_state, memory, List.length_append]
      exact ⟨Nat.lt_irrefl _, Nat.lt_succ_self _⟩
    · cases same
  · intro world entry flight _ admissible recorded
    rw [← admissible.current] at recorded
    exact Nat.lt_of_lt_of_le recorded (performs_flights admissible.performs)

/-- The flights on record from before the run stay. -/
theorem flights_grown :
    initial.memory.flights.length ≤ world.state.memory.flights.length := by
  refine chronicle.invariant
    (fun world => initial.memory.flights.length ≤ world.state.memory.flights.length)
    (Nat.le_refl _) fun world entry _ grown admissible => Nat.le_trans grown ?_
  rw [← admissible.current]
  exact performs_flights admissible.performs

/-- A flight that has been started comes behind those from before the run. -/
theorem lead_recent {lead : ServiceEntry} (member : lead ∈ world.history) {key : FlightKey}
    {flight : FlightId} (led : leads lead.event = some (key, flight)) :
    initial.memory.flights.length ≤ flight := by
  obtain ⟨earlier, chronicleEarlier, admissible, _⟩ := chronicle.recalls member
  have performs : environment.Performs lead.before lead.effect lead.reply lead.after :=
    admissible.performs
  rcases performs_joinFlight (performs_event performs (event_of_leads led)) with
    ⟨same, _⟩ | ⟨_, same, _⟩
  · cases same
    rw [admissible.current]
    exact flights_grown chronicleEarlier
  · cases same

/-- A flight that is pending has been so from the start, or a call has started it. -/
theorem pending_or_led {key : FlightKey} {flight : FlightId}
    (pending : (key, flight) ∈ world.state.memory.pendingRefreshes) :
    (key, flight) ∈ initial.memory.pendingRefreshes ∨
      ∃ lead ∈ world.history, leads lead.event = some (key, flight) := by
  refine chronicle.invariant (fun world => ∀ key flight,
    (key, flight) ∈ world.state.memory.pendingRefreshes →
      (key, flight) ∈ initial.memory.pendingRefreshes ∨
        ∃ lead ∈ world.history, leads lead.event = some (key, flight))
    (fun _ _ => .inl) ?_ key flight pending
  intro world entry _ traced admissible key flight pending
  have performs : environment.Performs entry.before entry.effect entry.reply entry.after :=
    admissible.performs
  have old : (key, flight) ∈ world.state.memory.pendingRefreshes →
      (key, flight) ∈ initial.memory.pendingRefreshes ∨
        ∃ lead ∈ (world.record entry).history, leads lead.event = some (key, flight) := by
    intro before
    rcases traced key flight before with first | ⟨lead, member, led⟩
    · exact .inl first
    · exact .inr ⟨lead, List.mem_cons_of_mem _ member, led⟩
  rw [← admissible.current] at old
  obtain ⟨thread, request, before, effect, reply, after⟩ := entry
  dsimp only at performs old
  rw [World.record_state] at pending
  cases effect with
  | joinFlight other =>
    rcases performs_joinFlight performs with ⟨rfl, _, memory⟩ | ⟨_, _, _, memory⟩
    · rw [memory] at pending
      rcases List.mem_cons.mp pending with same | before
      · cases same
        exact .inr ⟨_, List.mem_cons_self, rfl⟩
      · exact old before
    · rw [memory] at pending
      exact old pending
  | settleFlight other another outcome =>
    rw [(performs_settleFlight performs).2] at pending
    exact old (List.mem_filter.mp pending).1
  | _ =>
    rw [performs_memory performs rfl] at pending
    exact old pending

/-- A flight that a call has joined was pending from the start, or a call has started it. -/
theorem origin_of_joined {entry : ServiceEntry} (member : entry ∈ world.history)
    {flight : FlightId} (joined : joins entry.event = some flight) :
    ∃ key, entry.effect = .joinFlight key ∧ ((key, flight) ∈ initial.memory.pendingRefreshes ∨
      ∃ lead ∈ world.history, leads lead.event = some (key, flight)) := by
  obtain ⟨earlier, chronicleEarlier, admissible, kept⟩ := chronicle.recalls member
  have performs : environment.Performs entry.before entry.effect entry.reply entry.after :=
    admissible.performs
  have current := admissible.current
  obtain ⟨key, same⟩ := effect_of_joins joined
  obtain ⟨thread, request, before, effect, reply, after⟩ := entry
  dsimp only [Entry.event] at performs current same
  subst same current
  refine ⟨key, rfl, ?_⟩
  rcases performs_joinFlight performs with ⟨rfl, _⟩ | ⟨another, rfl, found, _⟩
  · cases joined
    exact .inr ⟨_, member, rfl⟩
  · cases joined
    rcases pending_or_led chronicleEarlier found with first | ⟨lead, old, led⟩
    · exact .inl first
    · exact .inr ⟨lead, kept old, led⟩

/-- An outcome on record has been there from the start, or a call has settled its flight with it. -/
theorem landed_or_settled {flight : FlightId} {outcome : Except Failure AuthTokens}
    (found : world.state.memory.flights[flight]? = some (some outcome)) :
    initial.memory.flights[flight]? = some (some outcome) ∨
      ∃ settle ∈ world.history, ∃ key, settle.effect = .settleFlight key flight outcome := by
  refine chronicle.invariant (fun world => ∀ (flight : FlightId) outcome,
    world.state.memory.flights[flight]? = some (some outcome) →
      initial.memory.flights[flight]? = some (some outcome) ∨
        ∃ settle ∈ world.history, ∃ key, settle.effect = .settleFlight key flight outcome)
    (fun _ _ => .inl) ?_ flight outcome found
  intro world entry _ traced admissible flight outcome found
  have performs : environment.Performs entry.before entry.effect entry.reply entry.after :=
    admissible.performs
  have old : world.state.memory.flights[flight]? = some (some outcome) →
      initial.memory.flights[flight]? = some (some outcome) ∨
        ∃ settle ∈ (world.record entry).history, ∃ key,
          settle.effect = .settleFlight key flight outcome := by
    intro before
    rcases traced flight outcome before with first | ⟨settle, member, settled⟩
    · exact .inl first
    · exact .inr ⟨settle, List.mem_cons_of_mem _ member, settled⟩
  rw [← admissible.current] at old
  obtain ⟨thread, request, before, effect, reply, after⟩ := entry
  dsimp only at performs old
  rw [World.record_state] at found
  cases effect with
  | joinFlight other =>
    rcases performs_joinFlight performs with ⟨_, _, memory⟩ | ⟨_, _, _, memory⟩
    · rw [memory, List.getElem?_append] at found
      split at found
      · exact old found
      · rw [List.getElem?_singleton] at found
        split at found <;> cases found
    · rw [memory] at found
      exact old found
  | settleFlight other settled came =>
    rw [(performs_settleFlight performs).2, List.getElem?_set] at found
    split at found
    · rename_i same
      split at found
      · cases found
        exact .inr ⟨_, List.mem_cons_self, other, by rw [same]⟩
      · cases found
    · exact old found
  | _ =>
    rw [performs_memory performs rfl] at found
    exact old found

end Recorded

section Chronicles

variable {runtime} {regime : Regime State Effect.Reply Failure Request} {clock : Timestamp}
  {world : ServiceWorld}
  (chronicle : Chronicle (service runtime) regime
    (fun request => conduct (coalesced runtime request)) (State.empty clock) world)

include chronicle

/-- A call joins at most once. -/
theorem join_once {first second : ServiceEntry} (memberFirst : first ∈ world.history)
    (memberSecond : second ∈ world.history) (same : first.thread = second.thread)
    {one two : FlightId} (joinedFirst : joins first.event = some one)
    (joinedSecond : joins second.event = some two) : first = second := by
  refine chronicle.once_each (fun entry => (joins entry.event).isSome = true)
    (fun world entry admissible joined older member thread joinedToo => ?_) memberFirst memberSecond
    same
    (by rw [joinedFirst]; rfl) (by rw [joinedSecond]; rfl)
  obtain ⟨flight, joined⟩ := Option.isSome_iff_exists.mp joined
  obtain ⟨key, effect⟩ := effect_of_joins joined
  have ruled : coalesced runtime entry.request (world.past entry.thread) entry.effect :=
    admissible.ruled
  rw [show entry.effect = _ from effect] at ruled
  have harmless := ruled.2 older.event (World.mem_past.mpr ⟨older, member, thread, rfl⟩)
  rw [harmless_joinless harmless] at joinedToo
  cases joinedToo

omit chronicle in
/-- The map of pending refreshes shows the flights under way, one for each key. -/
structure Pending (world : ServiceWorld) : Prop where
  distinct : (world.state.memory.pendingRefreshes.map (·.1)).Nodup
  shown : ∀ key flight, (key, flight) ∈ world.state.memory.pendingRefreshes ↔
    ∃ thread, InFlight (world.past thread) key flight

omit chronicle in
theorem Pending.flight_eq (pending : Pending world) {key : FlightKey} {one two : FlightId}
    (first : (key, one) ∈ world.state.memory.pendingRefreshes)
    (second : (key, two) ∈ world.state.memory.pendingRefreshes) : one = two :=
  congrArg Prod.snd (eq_of_key pending.distinct first second rfl)

/-- Two calls that have started one flight are one call. -/
theorem thread_of_flight {one two : Nat} {key other : FlightKey} {flight : FlightId}
    (first : InFlight (world.past one) key flight)
    (second : InFlight (world.past two) other flight) :
    one = two := by
  obtain ⟨⟨event, past, led⟩, _⟩ := first
  obtain ⟨⟨eventToo, pastToo, ledToo⟩, _⟩ := second
  obtain ⟨lead, member, rfl, rfl⟩ := World.mem_past.mp past
  obtain ⟨leadToo, memberToo, rfl, rfl⟩ := World.mem_past.mp pastToo
  exact congrArg Entry.thread (lead_once chronicle member memberToo led ledToo)

/-- A call that is in flight is so on one flight. -/
theorem key_of_thread {thread : Nat} {key other : FlightKey} {one two : FlightId}
    (first : InFlight (world.past thread) key one)
    (second : InFlight (world.past thread) other two) : key = other := by
  obtain ⟨⟨event, past, led⟩, _⟩ := first
  obtain ⟨⟨eventToo, pastToo, ledToo⟩, _⟩ := second
  obtain ⟨lead, member, same, rfl⟩ := World.mem_past.mp past
  obtain ⟨leadToo, memberToo, rfl, rfl⟩ := World.mem_past.mp pastToo
  obtain rfl := join_once chronicle member memberToo same (joins_of_leads led)
    (joins_of_leads ledToo)
  rw [led] at ledToo
  exact congrArg Prod.fst (Option.some.inj ledToo)

omit chronicle in
/-- An event that neither starts nor settles a flight leaves both sides as they are. -/
theorem Pending.record_other (pending : Pending world) {entry : ServiceEntry}
    (current : entry.before = world.state) (leadless : leads entry.event = none)
    (landless : lands entry.event = false) (memory : entry.after.memory = entry.before.memory) :
    Pending (world.record entry) := by
  have same : ∀ thread key flight, InFlight ((world.record entry).past thread) key flight ↔
      InFlight (world.past thread) key flight := by
    intro thread key flight
    by_cases self : entry.thread = thread
    · subst self
      rw [World.past_record_self]
      exact inFlight_cons leadless landless
    · rw [World.past_record_other world self]
  refine ⟨?_, fun key flight => ?_⟩
  · rw [World.record_state, memory, current]
    exact pending.distinct
  · simp only [World.record_state, memory, current, same]
    exact pending.shown key flight

omit chronicle in
/-- Starting a flight enters it. -/
theorem Pending.record_lead (pending : Pending world) {entry : ServiceEntry}
    (current : entry.before = world.state) {key : FlightKey} {flight : FlightId}
    (led : leads entry.event = some (key, flight))
    (harmless : ∀ event ∈ world.past entry.thread, event.effect.Harmless)
    (absent : ∀ other ∈ entry.before.memory.pendingRefreshes, other.1 ≠ key)
    (memory : entry.after.memory.pendingRefreshes =
      (key, flight) :: entry.before.memory.pendingRefreshes) :
    Pending (world.record entry) := by
  rw [current] at absent memory
  refine ⟨?_, fun other another => ?_⟩
  · rw [World.record_state, memory, List.map_cons, List.nodup_cons]
    refine ⟨fun member => ?_, pending.distinct⟩
    obtain ⟨shown, stored, same⟩ := List.mem_map.mp member
    exact absent shown stored same
  · rw [World.record_state, memory, List.mem_cons, Prod.mk.injEq]
    constructor
    · rintro (same | old)
      · refine ⟨entry.thread, ?_⟩
        rw [World.past_record_self]
        exact (inFlight_lead harmless led).mpr same
      · obtain ⟨thread, inFlight⟩ := (pending.shown other another).mp old
        refine ⟨thread, ?_⟩
        by_cases self : entry.thread = thread
        · subst self
          obtain ⟨⟨event, past, ledToo⟩, _⟩ := inFlight
          have none := harmless_joinless (harmless event past)
          rw [joins_of_leads ledToo] at none
          cases none
        · rw [World.past_record_other world self]
          exact inFlight
    · rintro ⟨thread, inFlight⟩
      by_cases self : entry.thread = thread
      · subst self
        rw [World.past_record_self] at inFlight
        exact .inl ((inFlight_lead harmless led).mp inFlight)
      · rw [World.past_record_other world self] at inFlight
        exact .inr ((pending.shown other another).mpr ⟨thread, inFlight⟩)

/-- Settling a flight takes it out, and no other. -/
theorem Pending.record_land (pending : Pending world) {entry : ServiceEntry}
    (current : entry.before = world.state) {key : FlightKey} {flight : FlightId}
    (landed : lands entry.event = true) (inFlight : InFlight (world.past entry.thread) key flight)
    (memory : entry.after.memory.pendingRefreshes =
      entry.before.memory.pendingRefreshes.filter fun other => other.1 != key) :
    Pending (world.record entry) := by
  rw [current] at memory
  refine ⟨?_, fun other another => ?_⟩
  · rw [World.record_state, memory]
    exact pending.distinct.sublist (List.filter_sublist.map _)
  · rw [World.record_state, memory, List.mem_filter, bne_iff_ne]
    constructor
    · rintro ⟨old, different⟩
      obtain ⟨thread, inFlightToo⟩ := (pending.shown other another).mp old
      refine ⟨thread, ?_⟩
      by_cases self : entry.thread = thread
      · subst self
        exact absurd (key_of_thread chronicle inFlightToo inFlight) different
      · rw [World.past_record_other world self]
        exact inFlightToo
    · rintro ⟨thread, inFlightToo⟩
      by_cases self : entry.thread = thread
      · subst self
        rw [World.past_record_self] at inFlightToo
        rw [inFlightToo.2 _ List.mem_cons_self] at landed
        cases landed
      · rw [World.past_record_other world self] at inFlightToo
        have shown := (pending.shown other another).mpr ⟨thread, inFlightToo⟩
        refine ⟨shown, fun same => self ?_⟩
        change other = key at same
        subst same
        obtain rfl := pending.flight_eq shown ((pending.shown other flight).mpr ⟨_, inFlight⟩)
        exact thread_of_flight chronicle inFlight inFlightToo

/-- In every run the map shows exactly the flights under way. -/
theorem pending_of_chronicle : Pending world := by
  refine chronicle.invariant Pending ⟨List.nodup_nil, fun key flight => ?_⟩ ?_
  · simp [State.empty, World.past, InFlight]
  intro world entry chronicle pending admissible
  have performs : environment.Performs entry.before entry.effect entry.reply entry.after :=
    admissible.performs
  have ruled : coalesced runtime entry.request (world.past entry.thread) entry.effect :=
    admissible.ruled
  have current := admissible.current
  obtain ⟨thread, request, before, effect, reply, after⟩ := entry
  dsimp only at performs ruled current
  cases effect with
  | joinFlight key =>
    rcases performs_joinFlight performs with ⟨rfl, absent, memory⟩ | ⟨flight, rfl, _, memory⟩
    · exact pending.record_lead current rfl ruled.2 absent (by rw [memory])
    · exact pending.record_other current rfl rfl memory
  | settleFlight key flight outcome =>
    exact pending.record_land chronicle current rfl ruled
      (by rw [(performs_settleFlight performs).2])
  | _ =>
    exact pending.record_other current rfl rfl (performs_memory performs rfl)

/-- Two calls that are in flight for one key are one call. -/
theorem thread_of_key {one two : Nat} {key : FlightKey} {flight another : FlightId}
    (first : InFlight (world.past one) key flight)
    (second : InFlight (world.past two) key another) : one = two := by
  have pending := pending_of_chronicle chronicle
  obtain rfl := pending.flight_eq ((pending.shown key flight).mpr ⟨one, first⟩)
    ((pending.shown key another).mpr ⟨two, second⟩)
  exact thread_of_flight chronicle first second

omit chronicle in
/-- The flights on record have the outcomes they were settled with. -/
structure Outcomes (world : ServiceWorld) : Prop where
  settled : ∀ settle ∈ world.history, ∀ key flight outcome,
    settle.effect = .settleFlight key flight outcome →
      world.state.memory.flights[flight]? = some (some outcome)
  came : ∀ flight outcome, world.state.memory.flights[flight]? = some (some outcome) →
    ∃ settle ∈ world.history, ∃ key, settle.effect = .settleFlight key flight outcome

/-- A flight that has been settled is not settled again. -/
theorem settle_once {settle : ServiceEntry} (member : settle ∈ world.history)
    {key other : FlightKey} {flight : FlightId} {outcome : Except Failure AuthTokens} {thread : Nat}
    (settles : settle.effect = .settleFlight key flight outcome) :
    ¬InFlight (world.past thread) other flight := by
  rintro ⟨⟨event, past, led⟩, landless⟩
  obtain ⟨earlier, _, admissible, kept⟩ := chronicle.recalls member
  have ruled : coalesced runtime settle.request (earlier.past settle.thread) settle.effect :=
    admissible.ruled
  rw [settles] at ruled
  obtain ⟨⟨eventToo, pastToo, ledToo⟩, _⟩ := ruled
  obtain ⟨lead, memberLead, rfl, rfl⟩ := World.mem_past.mp past
  obtain ⟨leadToo, memberLeadToo, same, rfl⟩ := World.mem_past.mp pastToo
  obtain rfl := lead_once chronicle memberLead (kept memberLeadToo) led ledToo
  have landed : lands settle.event = false :=
    landless _ (World.mem_past.mpr ⟨settle, member, same.symm, rfl⟩)
  rw [lands_of_settles (show settle.event.effect = _ from settles)] at landed
  cases landed

/-- In every run the outcomes on record are those the flights were settled with. -/
theorem outcomes_of_chronicle : Outcomes world := by
  refine ⟨?_, fun flight outcome found => (landed_or_settled chronicle found).resolve_left
    (by simp [State.empty])⟩
  refine chronicle.invariant (fun world => ∀ settle ∈ world.history, ∀ key flight outcome,
    settle.effect = .settleFlight key flight outcome →
      world.state.memory.flights[flight]? = some (some outcome)) (by simp) ?_
  intro world entry chronicle recorded admissible settle member key flight outcome settles
  have performs : environment.Performs entry.before entry.effect entry.reply entry.after :=
    admissible.performs
  have ruled : coalesced runtime entry.request (world.past entry.thread) entry.effect :=
    admissible.ruled
  rcases List.mem_cons.mp member with rfl | old
  · rw [settles] at ruled
    obtain ⟨⟨event, past, led⟩, _⟩ := ruled
    obtain ⟨lead, memberLead, _, rfl⟩ := World.mem_past.mp past
    have bound := lead_recorded chronicle memberLead led
    obtain ⟨thread, request, before, effect, reply, after⟩ := settle
    subst settles
    rw [World.record_state, (performs_settleFlight performs).2]
    rw [← admissible.current] at bound
    exact List.getElem?_set_self bound
  · have found := recorded settle old key flight outcome settles
    rw [← admissible.current] at found
    rw [World.record_state]
    obtain ⟨thread, request, before, effect, reply, after⟩ := entry
    dsimp only at performs ruled found ⊢
    cases effect with
    | joinFlight other =>
      rcases performs_joinFlight performs with ⟨_, _, memory⟩ | ⟨_, _, _, memory⟩
      · rw [memory, List.getElem?_append_left (List.getElem?_eq_some_iff.mp found).1]
        exact found
      · rw [memory]
        exact found
    | settleFlight other another came =>
      rw [(performs_settleFlight performs).2, List.getElem?_set_ne]
      · exact found
      · rintro rfl
        exact settle_once chronicle old settles ruled
    | _ =>
      rw [performs_memory performs rfl]
      exact found

/-- What has come to a call is what the flight it has joined was settled with. -/
theorem settled_of_came {thread : Nat} {outcome : Except Failure AuthTokens}
    (came : Came (world.past thread) outcome) :
    ∃ flight, (∃ join ∈ world.history, join.thread = thread ∧ joins join.event = some flight) ∧
      ∃ settle ∈ world.history, ∃ key, settle.effect = .settleFlight key flight outcome := by
  obtain ⟨flight, ⟨event, past, joined⟩, arrived⟩ := came
  obtain ⟨join, member, same, rfl⟩ := World.mem_past.mp past
  refine ⟨flight, ⟨join, member, same, joined⟩, ?_⟩
  rcases arrived with ⟨key, pastSettle⟩ | ⟨pastAwait, _⟩
  · obtain ⟨settle, memberSettle, _, settles⟩ := World.mem_past.mp pastSettle
    exact ⟨settle, memberSettle, key, congrArg Event.effect settles⟩
  · obtain ⟨await, memberAwait, _, awaits⟩ := World.mem_past.mp pastAwait
    obtain ⟨earlier, chronicleEarlier, admissible, kept⟩ := chronicle.recalls memberAwait
    have performs : environment.Performs await.before await.effect await.reply await.after :=
      admissible.performs
    have found := performs_awaitFlight (performs_event performs awaits)
    rw [admissible.current] at found
    obtain ⟨settle, memberSettle, settles⟩ :=
      (outcomes_of_chronicle chronicleEarlier).came flight outcome found
    exact ⟨settle, kept memberSettle, settles⟩

/-- A refresh that has joined a flight answers when the outcome of the flight has come to it. -/
theorem came_of_answer {join answer : ServiceEntry} (memberJoin : join ∈ world.history)
    (memberAnswer : answer ∈ world.history) (same : answer.thread = join.thread)
    {flight : FlightId} (joined : joins join.event = some flight)
    {outcome : Except Failure Response} (responds : answer.effect = .respond outcome) :
    ∃ earlier, Chronicle (service runtime) regime
        (fun request => conduct (coalesced runtime request)) (State.empty clock) earlier ∧
      earlier.history ⊆ world.history ∧
      ∃ came, Came (earlier.past join.thread) came ∧ outcome = join.request.answer came := by
  obtain ⟨earlier, chronicleEarlier, admissible, kept⟩ := chronicle.recalls memberAnswer
  obtain ⟨earlierJoin, _, admissibleJoin, _⟩ := chronicle.recalls memberJoin
  have ruledJoin : coalesced runtime join.request (earlierJoin.past join.thread) join.effect :=
    admissibleJoin.ruled
  obtain ⟨key, effect⟩ := effect_of_joins joined
  rw [show join.effect = _ from effect] at ruledJoin
  have ruled : coalesced runtime answer.request (earlier.past answer.thread) answer.effect :=
    admissible.ruled
  rw [responds, chronicle.request_of_thread memberAnswer memberJoin same, same] at ruled
  exact ⟨earlier, chronicleEarlier, kept, ruled key ruledJoin.1⟩

end Chronicles

end GraconAuth
