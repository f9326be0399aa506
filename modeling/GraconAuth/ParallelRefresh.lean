/-
This file is about refreshes that a client sends in parallel with one token: each of
them is answered with tokens, and none of them ends a session. The map of pending
refreshes makes a call share the rotation that is under way. A call that is handled
when that rotation has already been settled finds the token revoked, takes it for a
replay and ends every session of the user.
-/

import GraconAuth.Flights
import GraconAuth.Rotations

namespace GraconAuth

open Interleaving Program Rows

variable (runtime : Runtime)

/-! ### Parallel refreshes -/

/-- The request refreshes with this token at this server process. -/
def Request.carries (process : Nat) (token : RawToken) : Request → Bool
  | .refreshTokens taker refreshToken _ _ => taker == process && refreshToken == token
  | _ => false

/-- The response carries tokens. -/
def givesTokens : ServiceEvent → Bool
  | ⟨.respond (.ok (.tokens _)), _⟩ => true
  | _ => false

/-- The token is stored, live and unexpired, its account is active, and no refresh with it is under
way. -/
structure State.Holds (state : State) (key : FlightKey) (row : RefreshTokenRow) (user : UserRow) :
    Prop where
  found : state.db.findRefreshTokenWithUser key.tokenHash = some (row, user)
  live : row.revoked = false
  unexpired : state.clock ≤ row.expiresAt
  active : user.isActive = true
  idle : ∀ entry ∈ state.memory.pendingRefreshes, entry.1 ≠ key

/-- The runs in which nothing but refreshes with this token arrives, at any moment, while the token
is unexpired and the database does what it is asked to. -/
def parallel (process : Nat) (token : RawToken) (row : RefreshTokenRow) :
    Regime State Effect.Reply Failure Request where
  admits request := request.carries process token = true
  permits _ entry := entry.after.clock ≤ row.expiresAt ∧ struck entry.event = false

instance (process : Nat) (token : RawToken) (row : RefreshTokenRow) (request : Request) :
    Decidable ((parallel process token row).admits request) :=
  inferInstanceAs (Decidable (_ = true))

instance (process : Nat) (token : RawToken) (row : RefreshTokenRow) (world : ServiceWorld)
    (entry : ServiceEntry) : Decidable ((parallel process token row).permits world entry) :=
  inferInstanceAs (Decidable (_ ∧ _))

/-- The session goes on: every response carries tokens, and the only token that has been revoked is
the presented one, which has been exchanged. -/
structure GoesOn (initial : State) (row : RefreshTokenRow) (world : ServiceWorld) : Prop where
  answered : ∀ entry ∈ world.history, responds entry.event = true → givesTokens entry.event = true
  unrevoked : ∀ stored ∈ world.state.db.refreshTokens, stored.revoked = true →
    stored.id = row.id ∨ stored ∈ initial.db.refreshTokens

/-! ### A refresh that is handled too late -/

/-- The state in which the foreigner has logged in. -/
def loggedIn : State := (playedSerially signedInSerially).2

/-- The token that the login has stored. -/
def loginToken : RefreshTokenRow :=
  ⟨5, 0, "#r1", some .full, 2592000000, false, some "ip", some "agent"⟩

/-- Its account. -/
def loginUser : UserRow :=
  ⟨0, "a@x", none, "pw", true, true, true, some 0, 0, none, 0, 0⟩

theorem loggedIn_holds : loggedIn.Holds ⟨0, legibleRuntime.hash "r1"⟩ loginToken loginUser :=
  ⟨by decide +kernel, rfl, by decide +kernel, rfl, by decide +kernel⟩

/-- Two refreshes with that token arrive, and the second is handled when the first is done. -/
def lateRefresh : List ServiceMove :=
  .accept (.refreshTokens 0 "r1" "ip" "agent") :: .accept (.refreshTokens 0 "r1" "ip" "agent") ::
    steps 0 [{}, {}, {}, {}, {}, { text := "r2" }, {}, {}, {}, {}] ++
    steps 1 [{}, {}, {}, {}, {}, {}]

/-- Of two parallel refreshes the later one can be refused and end the session. -/
theorem parallel_refreshes_end_session :
    ¬ ∀ (runtime : Runtime) (process : Nat) (token : RawToken) (initial : State)
      (row : RefreshTokenRow) (user : UserRow),
      initial.Holds ⟨process, runtime.hash token⟩ row user →
        ∀ pool, Reachable (service runtime) (parallel process token row) initial pool →
          pool.calls.length = 2 → GoesOn initial row pool.world := by
  intro goes
  have late := goes legibleRuntime 0 "r1" loggedIn loginToken loginUser loggedIn_holds _
    (Pool.playAll_reachable (Referee.strict_upholds (parallel 0 "r1" loginToken)) loggedIn
      lateRefresh) (by decide +kernel)
  exact absurd late.answered (by decide +kernel)

/-! ### Refreshes that share one rotation -/

/-- The parallel refreshes of which only one starts a rotation: every other is handled while that
rotation is under way. -/
def sharing (process : Nat) (token : RawToken) (row : RefreshTokenRow) :
    Regime State Effect.Reply Failure Request where
  admits := (parallel process token row).admits
  permits world entry := (parallel process token row).permits world entry ∧
    ((leads entry.event).isSome = true → ∀ older ∈ world.history, leads older.event = none)

instance (process : Nat) (token : RawToken) (row : RefreshTokenRow) (request : Request) :
    Decidable ((sharing process token row).admits request) :=
  inferInstanceAs (Decidable (_ = true))

instance (process : Nat) (token : RawToken) (row : RefreshTokenRow) (world : ServiceWorld)
    (entry : ServiceEntry) : Decidable ((sharing process token row).permits world entry) :=
  inferInstanceAs (Decidable (_ ∧ (_ → ∀ older ∈ _, _)))

/-- What keeps a refresh from coming to tokens: it has not found the token and its account, or only
when the token had expired, or it has met a failure. -/
def Hinders (row : RefreshTokenRow) (user : UserRow) : ServiceEvent → Prop
  | ⟨.refreshTokenFindUnique _, .ok found⟩ => found ≠ some (row, user)
  | ⟨.now, .ok clock⟩ => row.expiresAt < clock
  | ⟨_, .ok _⟩ => False
  | ⟨_, .error _⟩ => True

/-- Nothing has hindered the call. -/
def Unhindered (row : RefreshTokenRow) (user : UserRow) (past : List ServiceEvent) : Prop :=
  ∀ event ∈ past, ¬Hinders row user event

/-- The call has started a flight. -/
def Leading (past : List ServiceEvent) : Prop :=
  ∃ event ∈ past, (leads event).isSome = true

/-- The statement is one of an exchange of the token. -/
def Statement.Exchanges (row : RefreshTokenRow) : Statement → Prop
  | .refreshTokenUpdate id => id = row.id
  | .refreshTokenCreate _ => True
  | _ => False

/-- A refresh reads the token in the flight that it has started, before it writes; and unless it is
hindered it writes an exchange only, and settles its flight and responds with tokens. -/
def smooth (key : FlightKey) (row : RefreshTokenRow) (user : UserRow) (past : List ServiceEvent) :
    Effect → Prop
  | .joinFlight other => other = key
  | .awaitFlight flight => ∃ event ∈ past, joins event = some flight
  | .refreshTokenFindUnique tokenHash => tokenHash = key.tokenHash ∧ Leading past ∧
    ∀ event ∈ past, executed event = []
  | .execute statements => Leading past ∧
    (Unhindered row user past → ∀ statement ∈ statements, statement.Exchanges row)
  | .settleFlight _ _ outcome => Unhindered row user past → outcome.isOk = true
  | .respond outcome => Unhindered row user past → givesTokens ⟨.respond outcome, .ok ()⟩ = true
  | .now | .randomToken | .sign _ _ | .securityEvent _ _ _ => True
  | _ => False

section Traversal

variable {key : FlightKey} {row : RefreshTokenRow} {user : UserRow} {past : List ServiceEvent}

/-- The call has gone on from a past, and has succeeded unless it was hindered. -/
def Continued (row : RefreshTokenRow) (user : UserRow) (past now : List ServiceEvent)
    (outcome : Except Failure AuthTokens) : Prop :=
  past ⊆ now ∧ (Unhindered row user now → outcome.isOk = true)

theorem Continued.weaken {before now : List ServiceEvent} {outcome : Except Failure AuthTokens}
    (continued : Continued row user now before outcome) (grown : past ⊆ now) :
    Continued row user past before outcome :=
  ⟨List.Subset.trans grown continued.1, continued.2⟩

/-- A call that is hindered at once need not succeed. -/
theorem continued_of_hinders {event : ServiceEvent} {outcome : Except Failure AuthTokens}
    (hinders : Hinders row user event) : Continued row user past (event :: past) outcome :=
  ⟨List.subset_cons_self _ _, fun unhindered =>
    absurd hinders (unhindered event List.mem_cons_self)⟩

theorem Leading.cons (leading : Leading past) (event : ServiceEvent) : Leading (event :: past) := by
  obtain ⟨lead, member, led⟩ := leading
  exact ⟨lead, List.mem_cons_of_mem _ member, led⟩

/-- One effect, whose failure hinders the call, followed by the rest. -/
theorem smooth_perform_bind {effect : Effect} {next : effect.Reply → Async AuthTokens}
    (allowed : smooth key row user past effect)
    (fails : ∀ failure, Hinders row user ⟨effect, .error failure⟩)
    (rest : ∀ value, (next value).Follows (conduct (smooth key row user))
      (Continued row user (⟨effect, .ok value⟩ :: past)) (⟨effect, .ok value⟩ :: past)) :
    (request effect >>= next).Follows (conduct (smooth key row user)) (Continued row user past)
      past :=
  follows_perform_bind.mpr ⟨allowed, fun value _ => (rest value).weaken fun _ _ continued =>
    continued.weaken (List.subset_cons_self _ _), fun failure _ =>
    continued_of_hinders (fails failure)⟩

theorem generateTokens_smooth (userId : UserId) (email : Email) (ipAddress userAgent : String)
    (tokenType : TokenType) (leading : Leading past) :
    (AuthService.generateTokens runtime userId email ipAddress userAgent tokenType).Follows
      (conduct (smooth key row user)) (Continued row user past) past := by
  refine smooth_perform_bind trivial (fun _ => trivial) fun accessToken => ?_
  refine smooth_perform_bind trivial (fun _ => trivial) fun token => ?_
  refine smooth_perform_bind trivial (fun _ => trivial) fun now => ?_
  refine smooth_perform_bind ⟨((leading.cons _).cons _).cons _, fun _ statement listed => ?_⟩
    (fun _ => trivial) fun _ => ⟨List.Subset.refl _, fun _ => rfl⟩
  obtain rfl := List.mem_singleton.mp listed
  trivial

theorem rotateRefreshToken_smooth (ipAddress userAgent : String) (live : row.revoked = false)
    (active : user.isActive = true) (leading : Leading past)
    (unwritten : ∀ event ∈ past, executed event = []) :
    (AuthService.rotateRefreshToken runtime key.tokenHash ipAddress userAgent false).Follows
      (conduct (smooth key row user)) (Continued row user past) past := by
  refine smooth_perform_bind ⟨rfl, leading, unwritten⟩ (fun _ => trivial) fun found => ?_
  match found with
  | none => exact ⟨List.Subset.refl _, fun unhindered =>
      absurd (unhindered _ List.mem_cons_self) (by simp [Hinders])⟩
  | some (storedToken, owner) =>
    have leading :=
      leading.cons ⟨.refreshTokenFindUnique key.tokenHash, .ok (some (storedToken, owner))⟩
    -- As long as nothing hinders the call, what it has found is the token and its account.
    have same : ∀ now,
        ⟨.refreshTokenFindUnique key.tokenHash, .ok (some (storedToken, owner))⟩ ∈ now →
        Unhindered row user now → storedToken = row ∧ owner = user := by
      intro now member unhindered
      simpa [Hinders] using unhindered _ member
    dsimp only
    split
    · rename_i revoked
      have hindered : ∀ now, ⟨.refreshTokenFindUnique key.tokenHash,
          .ok (some (storedToken, owner))⟩ ∈ now → ¬Unhindered row user now := by
        intro now member unhindered
        rw [(same now member unhindered).1, live] at revoked
        cases revoked
      refine smooth_perform_bind ⟨leading, fun unhindered =>
        absurd unhindered (hindered _ List.mem_cons_self)⟩ (fun _ => trivial) fun _ => ?_
      refine smooth_perform_bind trivial (fun _ => trivial) fun _ => ?_
      exact ⟨List.Subset.refl _, fun unhindered => absurd unhindered (hindered _ (by simp))⟩
    · refine smooth_perform_bind trivial (fun _ => trivial) fun now => ?_
      refine follows_throwIf_bind.mpr ⟨fun expired => ?_, fun _ => ?_⟩
      · refine ⟨List.Subset.refl _, fun unhindered => ?_⟩
        rw [(same _ (by simp) unhindered).1] at expired
        exact absurd (of_decide_eq_true expired) (unhindered _ List.mem_cons_self)
      refine follows_throwIf_bind.mpr ⟨fun inactive => ?_, fun _ => ?_⟩
      · refine ⟨List.Subset.refl _, fun unhindered => ?_⟩
        rw [(same _ (by simp) unhindered).2, active] at inactive
        cases inactive
      refine follows_throwIf_bind.mpr ⟨fun limited => (by cases limited), fun _ => ?_⟩
      refine smooth_perform_bind ⟨leading.cons _, fun unhindered statement listed => ?_⟩
        (fun _ => trivial) fun _ =>
        generateTokens_smooth runtime _ _ _ _ _ ((leading.cons _).cons _)
      obtain rfl := List.mem_singleton.mp listed
      exact congrArg RefreshTokenRow.id (same _ (by simp) unhindered).1

theorem runSingleFlightRefresh_smooth (ipAddress userAgent : String) (live : row.revoked = false)
    (active : user.isActive = true) :
    (AuthService.runSingleFlightRefresh key
      (AuthService.rotateRefreshToken runtime key.tokenHash ipAddress userAgent false)).Follows
        (conduct (smooth key row user)) (Continued row user []) [] := by
  refine smooth_perform_bind rfl (fun _ => trivial) fun role => ?_
  cases role with
  | follower flight =>
    refine follows_perform.mpr ⟨⟨_, List.mem_cons_self, rfl⟩, fun outcome _ => ?_⟩
    cases outcome with
    | ok tokens => exact ⟨List.subset_cons_self _ _, fun _ => rfl⟩
    | error failure => exact continued_of_hinders trivial
  | leader flight =>
    refine follows_bind.mpr (follows_attempt.mpr ((rotateRefreshToken_smooth runtime _ _ live active
      ⟨_, List.mem_cons_self, rfl⟩ (by simp [executed])).weaken fun now outcome continued => ?_))
    refine follows_perform_bind.mpr ⟨continued.2, fun _ _ => follows_ofOutcome.mpr ?_,
      fun _ impossible => impossible.elim⟩
    refine ⟨List.subset_cons_of_subset _ continued.1, fun unhindered => continued.2 ?_⟩
    exact fun event member => unhindered event (List.mem_cons_of_mem _ member)

theorem serve_smooth (process : Nat) (token : RawToken) (live : row.revoked = false)
    (active : user.isActive = true) {request : Request}
    (carries : request.carries process token = true) :
    (serve runtime request).Abides
      (conduct (smooth ⟨process, runtime.hash token⟩ row user)) [] := by
  cases request with
  | refreshTokens taker refreshToken ipAddress userAgent =>
    obtain ⟨rfl, rfl⟩ : taker = process ∧ refreshToken = token := by
      simpa [Request.carries] using carries
    refine follows_bind.mpr (follows_attempt.mpr (follows_bind.mpr
      ((runSingleFlightRefresh_smooth runtime ipAddress userAgent live active).weaken
        fun now outcome continued => ?_)))
    cases outcome with
    | error failure =>
      refine follows_perform_bind.mpr ⟨fun unhindered => ?_, fun _ _ => trivial, fun _ _ => trivial⟩
      cases continued.2 unhindered
    | ok tokens =>
      exact follows_perform_bind.mpr ⟨fun _ => rfl, fun _ _ => trivial, fun _ _ => trivial⟩
  | _ => cases carries

end Traversal

/-! ### What holds along such a run -/

theorem performs_respond {state next : State} {outcome : Except Failure Response}
    {reply : Except Failure Unit}
    (performs : environment.Performs state (.respond outcome) reply next) : reply = .ok () := by
  obtain ⟨choice, answered⟩ := performs
  simp only [environment, State.answer, Option.some.injEq, Prod.mk.injEq] at answered
  exact answered.1.symm

/-- A token is looked up as before when nothing has been written. -/
theorem performs_unwritten {state next : State} {effect : Effect}
    {reply : Except Failure effect.Reply}
    (performs : environment.Performs state effect reply next)
    (unwritten : executed ⟨effect, reply⟩ = [])
    (unregistered : ∀ data, effect ≠ .registerTransaction data)
    (tokenHash : TokenHash) :
    next.db.findRefreshTokenWithUser tokenHash = state.db.findRefreshTokenWithUser tokenHash := by
  rcases performs_db performs with same | ⟨statements, event, ran⟩ | ⟨data, event, _⟩ | ⟨log, same⟩
  · rw [same]
  · rw [event] at unwritten
    obtain rfl : statements = [] := unwritten
    rw [← Except.ok.inj ran]
  · exact absurd (congrArg Event.effect event) (unregistered data)
  · rw [same]
    rfl

section Runs

variable {runtime} {process : Nat} {token : RawToken} {key : FlightKey} {row : RefreshTokenRow}
  {user : UserRow} {initial : State} {world : ServiceWorld}
  (chronicle : Chronicle (service runtime) (sharing process token row)
    (fun _ => conduct (smooth key row user)) initial world)

include chronicle

/-- Whatever has started a flight is one call. -/
theorem leader_unique {one two : ServiceEntry} (memberOne : one ∈ world.history)
    (memberTwo : two ∈ world.history) (ledOne : (leads one.event).isSome = true)
    (ledTwo : (leads two.event).isSome = true) : one.thread = two.thread := by
  refine chronicle.invariant (fun world => ∀ one ∈ world.history, ∀ two ∈ world.history,
    (leads one.event).isSome = true → (leads two.event).isSome = true → one.thread = two.thread)
    (by simp) ?_ one memberOne two memberTwo ledOne ledTwo
  intro world entry _ unique admissible
  have first : (leads entry.event).isSome = true → ∀ older ∈ world.history,
      leads older.event = none := admissible.permitted.2
  intro one memberOne two memberTwo ledOne ledTwo
  rcases List.mem_cons.mp memberOne with rfl | oldOne
  · rcases List.mem_cons.mp memberTwo with rfl | oldTwo
    · rfl
    · rw [first ledOne two oldTwo] at ledTwo
      cases ledTwo
  · rcases List.mem_cons.mp memberTwo with rfl | oldTwo
    · rw [first ledTwo one oldOne] at ledOne
      cases ledOne
    · exact unique one oldOne two oldTwo ledOne ledTwo

/-- What has written has started a flight. -/
theorem leading_of_executed {entry : ServiceEntry} (member : entry ∈ world.history)
    (wrote : executed entry.event ≠ []) :
    ∃ lead ∈ world.history, lead.thread = entry.thread ∧ (leads lead.event).isSome = true := by
  obtain ⟨earlier, _, admissible, kept⟩ := chronicle.recalls member
  obtain ⟨statement, listed⟩ := List.exists_mem_of_ne_nil _ wrote
  have ruled : smooth key row user (earlier.past entry.thread) entry.effect := admissible.ruled
  rw [show entry.effect = _ from congrArg Event.effect (mem_executed listed)] at ruled
  obtain ⟨event, past, led⟩ := ruled.1
  obtain ⟨lead, memberLead, same, rfl⟩ := World.mem_past.mp past
  exact ⟨lead, kept memberLead, same, led⟩

/-- Before the token is read nothing has been written. -/
theorem unwritten_of_leading {thread : Nat} (leading : Leading (world.past thread))
    (unwritten : ∀ event ∈ world.past thread, executed event = []) :
    ∀ entry ∈ world.history, executed entry.event = [] := by
  intro entry member
  by_contra wrote
  obtain ⟨lead, memberLead, same, led⟩ := leading_of_executed chronicle member wrote
  obtain ⟨event, past, ledToo⟩ := leading
  obtain ⟨leadToo, memberToo, rfl, rfl⟩ := World.mem_past.mp past
  have one := leader_unique chronicle memberLead memberToo led ledToo
  exact wrote (unwritten _ (World.mem_past.mpr ⟨entry, member, same.symm.trans one, rfl⟩))

/-- The flights that calls have joined come behind those from before the run. -/
theorem joined_recent (idle : ∀ entry ∈ initial.memory.pendingRefreshes, entry.1 ≠ key)
    {entry : ServiceEntry} (member : entry ∈ world.history) {flight : FlightId}
    (joined : joins entry.event = some flight) : initial.memory.flights.length ≤ flight := by
  obtain ⟨other, effect, first | ⟨lead, memberLead, led⟩⟩ :=
    origin_of_joined chronicle member joined
  · obtain ⟨earlier, _, admissible, _⟩ := chronicle.recalls member
    have ruled : smooth key row user (earlier.past entry.thread) entry.effect := admissible.ruled
    rw [effect] at ruled
    exact absurd ruled (idle _ first)
  · exact lead_recent chronicle memberLead led

omit chronicle in
/-- Nothing has hindered a call, so the flights of the run have come to tokens, and only the
presented token has been revoked. -/
structure Sound (key : FlightKey) (row : RefreshTokenRow) (user : UserRow) (initial : State)
    (world : ServiceWorld) : Prop where
  unhindered : ∀ entry ∈ world.history, ¬Hinders row user entry.event
  untouched : (∀ entry ∈ world.history, executed entry.event = []) →
    world.state.db.findRefreshTokenWithUser key.tokenHash = some (row, user)
  landed : ∀ flight outcome, initial.memory.flights.length ≤ flight →
    world.state.memory.flights[flight]? = some (some outcome) → outcome.isOk = true
  unrevoked : ∀ stored ∈ world.state.db.refreshTokens, stored.revoked = true →
    stored.id = row.id ∨ stored ∈ initial.db.refreshTokens

omit chronicle in
theorem Sound.past (sound : Sound key row user initial world) (thread : Nat) :
    Unhindered row user (world.past thread) := by
  intro event member
  obtain ⟨entry, old, _, rfl⟩ := World.mem_past.mp member
  exact sound.unhindered entry old

variable {entry : ServiceEntry}

/-- Nothing hinders a call. -/
theorem Sound.record_unhindered (sound : Sound key row user initial world)
    (idle : ∀ entry ∈ initial.memory.pendingRefreshes, entry.1 ≠ key)
    (admissible : Admissible (service runtime) (sharing process token row)
      (fun _ => conduct (smooth key row user)) world entry) : ¬Hinders row user entry.event := by
  have performs : environment.Performs entry.before entry.effect entry.reply entry.after :=
    admissible.performs
  have ruled : smooth key row user (world.past entry.thread) entry.effect := admissible.ruled
  obtain ⟨⟨unexpired, unstruck⟩, _⟩ := admissible.permitted
  have current := admissible.current
  obtain ⟨thread, request, before, effect, reply, after⟩ := entry
  dsimp only at performs ruled current unexpired unstruck
  subst current
  cases effect with
  | joinFlight other =>
    rcases performs_joinFlight performs with ⟨rfl, _⟩ | ⟨flight, rfl, _⟩
    · exact id
    · exact id
  | awaitFlight flight =>
    obtain ⟨event, past, joined⟩ := ruled
    obtain ⟨join, member, _, rfl⟩ := World.mem_past.mp past
    have came := sound.landed flight reply (joined_recent chronicle idle member joined)
      (performs_awaitFlight performs)
    cases reply with
    | ok tokens => exact id
    | error failure => cases came
  | refreshTokenFindUnique tokenHash =>
    obtain ⟨rfl, leading, unwritten⟩ := ruled
    cases reply with
    | error failure => cases unstruck
    | ok found =>
      obtain rfl := performs_refreshTokenFindUnique performs
      exact not_not_intro (sound.untouched (unwritten_of_leading chronicle leading unwritten))
  | execute statements =>
    cases reply with
    | error failure => cases unstruck
    | ok done => exact id
  | settleFlight other flight outcome =>
    obtain ⟨rfl, _⟩ := performs_settleFlight performs
    exact id
  | respond outcome =>
    obtain rfl := performs_respond performs
    exact id
  | now =>
    obtain rfl := performs_now performs
    exact Int.not_lt.mpr unexpired
  | randomToken =>
    obtain ⟨raw, rfl, _⟩ := performs_randomToken performs
    exact id
  | sign payload expiresIn =>
    obtain rfl := performs_sign performs
    exact id
  | securityEvent eventType userId ipAddress =>
    obtain rfl := performs_securityEvent performs
    exact id
  | _ => exact ruled.elim

omit chronicle in
theorem Sound.record_landed (sound : Sound key row user initial world)
    (admissible : Admissible (service runtime) (sharing process token row)
      (fun _ => conduct (smooth key row user)) world entry) (flight : FlightId)
    (outcome : Except Failure AuthTokens) (recent : initial.memory.flights.length ≤ flight)
    (found : entry.after.memory.flights[flight]? = some (some outcome)) : outcome.isOk = true := by
  have performs : environment.Performs entry.before entry.effect entry.reply entry.after :=
    admissible.performs
  have ruled : smooth key row user (world.past entry.thread) entry.effect := admissible.ruled
  have current := admissible.current
  obtain ⟨thread, request, before, effect, reply, after⟩ := entry
  dsimp only at performs ruled current found
  subst current
  cases effect with
  | joinFlight other =>
    rcases performs_joinFlight performs with ⟨_, _, memory⟩ | ⟨_, _, _, memory⟩
    · rw [memory, List.getElem?_append] at found
      split at found
      · exact sound.landed flight outcome recent found
      · rw [List.getElem?_singleton] at found
        split at found <;> cases found
    · rw [memory] at found
      exact sound.landed flight outcome recent found
  | settleFlight other settled came =>
    rw [(performs_settleFlight performs).2, List.getElem?_set] at found
    split at found
    · split at found
      · cases found
        exact ruled (sound.past thread)
      · cases found
    · exact sound.landed flight outcome recent found
  | _ =>
    rw [performs_memory performs rfl] at found
    exact sound.landed flight outcome recent found

omit chronicle in
/-- An exchange revokes the presented token only. -/
theorem Sound.record_unrevoked (sound : Sound key row user initial world)
    (admissible : Admissible (service runtime) (sharing process token row)
      (fun _ => conduct (smooth key row user)) world entry) :
    ∀ stored ∈ entry.after.db.refreshTokens, stored.revoked = true →
      stored.id = row.id ∨ stored ∈ initial.db.refreshTokens := by
  have performs : environment.Performs entry.before entry.effect entry.reply entry.after :=
    admissible.performs
  have ruled : smooth key row user (world.past entry.thread) entry.effect := admissible.ruled
  refine performs_preserves (fun db => ∀ stored ∈ db.refreshTokens, stored.revoked = true →
    stored.id = row.id ∨ stored ∈ initial.db.refreshTokens) performs ?_ ?_ (fun _ holds => holds) ?_
  · intro statements effect statement listed now next holds carried stored member revoked
    rw [effect] at ruled
    have exchanges := ruled.2 (sound.past entry.thread) statement listed
    cases carried with
    | refreshTokenUpdate id present =>
      obtain ⟨old, before, rfl⟩ := mem_updateWhere.mp member
      split
      · rename_i matched
        exact .inl ((beq_iff_eq.mp matched).trans exchanges)
      · rename_i unmatched
        rw [if_neg unmatched] at revoked
        exact holds old before revoked
    | refreshTokenCreate data free =>
      rcases List.mem_append.mp member with old | new
      · exact holds stored old revoked
      · obtain rfl := List.mem_singleton.mp new
        cases revoked
    | _ => exact exchanges.elim
  · intro data next holds ran
    obtain ⟨_, _, tokens, _⟩ := register_tables ran
    rw [tokens]
    exact holds
  · rw [admissible.current]
    exact sound.unrevoked

theorem sound_of_chronicle (holds : initial.Holds key row user) :
    Sound key row user initial world := by
  refine chronicle.invariant (Sound key row user initial) ⟨by simp, fun _ => holds.found, ?_, ?_⟩ ?_
  · intro flight outcome recent found
    rw [List.getElem?_eq_none recent] at found
    cases found
  · exact fun stored member _ => .inr member
  intro world entry chronicle sound admissible
  refine ⟨List.forall_mem_cons.mpr
    ⟨sound.record_unhindered chronicle holds.idle admissible, sound.unhindered⟩,
    fun unwritten => ?_, sound.record_landed admissible,
    sound.record_unrevoked admissible⟩
  obtain ⟨unwritten, before⟩ := List.forall_mem_cons.mp unwritten
  have ruled : smooth key row user (world.past entry.thread) entry.effect := admissible.ruled
  rw [World.record_state, performs_unwritten admissible.performs unwritten ?_, admissible.current]
  · exact sound.untouched before
  · intro data effect
    rw [effect] at ruled
    exact ruled

end Runs

/-! ### The runs in which parallel refreshes are safe -/

/-- Parallel refreshes go on in every run in which only one of them starts a rotation. -/
theorem parallel_refreshes_go_on (runtime : Runtime) (process : Nat) (token : RawToken)
    (initial : State) (row : RefreshTokenRow) (user : UserRow)
    (holds : initial.Holds ⟨process, runtime.hash token⟩ row user) (pool : ServicePool)
    (reachable : Reachable (service runtime) (sharing process token row) initial pool) :
    GoesOn initial row pool.world := by
  have chronicle := reachable_chronicle
    (fun _ => smooth ⟨process, runtime.hash token⟩ row user) reachable fun request carries =>
      serve_smooth runtime process token holds.live holds.active carries
  have sound := sound_of_chronicle chronicle holds
  refine ⟨fun entry member sent => ?_, sound.unrevoked⟩
  obtain ⟨earlier, _, admissible, kept⟩ := chronicle.recalls member
  have ruled : smooth ⟨process, runtime.hash token⟩ row user (earlier.past entry.thread)
      entry.effect := admissible.ruled
  have unhindered : Unhindered row user (earlier.past entry.thread) := by
    intro event past
    obtain ⟨older, old, _, rfl⟩ := World.mem_past.mp past
    exact sound.unhindered older (kept old)
  obtain ⟨thread, request, before, effect, reply, after⟩ := entry
  cases effect with
  | respond outcome =>
    have gives := ruled unhindered
    cases outcome with
    | error failure => cases gives
    | ok response =>
      cases response with
      | tokens tokens => rfl
      | _ => cases gives
  | _ => cases sent

/-- The second refresh is handled while the first one has not stored the successor yet. -/
def sharedRefresh : List ServiceMove :=
  .accept (.refreshTokens 0 "r1" "ip" "agent") :: .accept (.refreshTokens 0 "r1" "ip" "agent") ::
    steps 0 [{}, {}, {}, {}, {}] ++ steps 1 [{}] ++ steps 0 [{ text := "r2" }, {}, {}, {}] ++
    steps 1 [{}, {}] ++ steps 0 [{}]

/-- Both are answered, and the session that has logged in goes on. -/
theorem parallel_refreshes_go_on_shared :
    ((Pool.start loggedIn).playAll (service legibleRuntime)
      (Referee.strict (sharing 0 "r1" loginToken)) sharedRefresh).world.history.countP
        (fun entry => responds entry.event) = 2 ∧
    GoesOn loggedIn loginToken ((Pool.start loggedIn).playAll (service legibleRuntime)
      (Referee.strict (sharing 0 "r1" loginToken)) sharedRefresh).world :=
  ⟨by decide +kernel,
    parallel_refreshes_go_on legibleRuntime 0 "r1" loggedIn loginToken loginUser loggedIn_holds _
      (Pool.playAll_reachable (Referee.strict_upholds (sharing 0 "r1" loginToken)) loggedIn
        sharedRefresh)⟩

end GraconAuth
