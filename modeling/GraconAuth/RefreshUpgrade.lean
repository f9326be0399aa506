/-
This file is about a refresh and an upgrade that are in flight together with one
token, on an account whose identity is not verified. The map of pending refreshes
is keyed by the token alone, so the two share a rotation, although only the upgrade
asks it for a full token. A refresh that joins the rotation of the upgrade is
refused what the upgrade is refused. This is the only way in which the one spoils
the other: the upgrade on its own leaves the token as it is.
-/

import GraconAuth.Gathering
import GraconAuth.ParallelRefresh

namespace GraconAuth

open Interleaving Program Rows

variable (runtime : Runtime)

/-! ### A refresh and an upgrade -/

/-- What only an upgrade may be refused with. -/
def notUpgradable : Failure :=
  ForbiddenException "Identity verification is required before this session can be upgraded."

/-- The event refuses its call as an upgrade is refused. -/
def refuses : ServiceEvent → Bool
  | ⟨.respond (.error failure), _⟩ => failure == notUpgradable
  | _ => false

/-- The call has read the clock, which had not passed the expiry of the token. -/
def Unlapsed (row : RefreshTokenRow) (past : List ServiceEvent) : Prop :=
  ∃ clock, ⟨.now, .ok clock⟩ ∈ past ∧ clock ≤ row.expiresAt

/-- The refresh, which is the call `0`, is not refused as an upgrade is. And a refusal has left the
token unrevoked when nothing but the upgrade, which is the call `1`, has started a rotation; so when
no other call has started at all. -/
structure Unpoisoned (tokenHash : TokenHash) (world : ServiceWorld) : Prop where
  refreshed : ∀ entry ∈ world.history, entry.thread = 0 → refuses entry.event = false
  unrevoked : (∀ entry ∈ world.history, (leads entry.event).isSome = true → entry.thread = 1) →
    ∀ entry ∈ world.history, refuses entry.event = true →
      ∃ stored, world.state.db.findRefreshToken tokenHash = some stored ∧ stored.revoked = false

/-- The refresh has joined the rotation that the upgrade has started, the upgrade has come as far as
to find the token unexpired, and the refresh has been answered. -/
structure Poisoned (row : RefreshTokenRow) (world : ServiceWorld) : Prop where
  joined : ∃ key flight, ⟨.joinFlight key, .ok (.follower flight)⟩ ∈ world.past 0 ∧
    ⟨.joinFlight key, .ok (.leader flight)⟩ ∈ world.past 1
  unlapsed : Unlapsed row (world.past 1)
  answered : Answered world 0

/-! ### A refusal that spreads -/

/-- The state in which the citizen has a limited session and is not verified. -/
def limitedIn : State := (playedSerially citizenSerially).2

/-- The token of that session. -/
def limitedToken : RefreshTokenRow :=
  ⟨4, 0, "#r1", some .limited, 2592000000, false, none, none⟩

/-- Its account. -/
def limitedUser : UserRow :=
  ⟨0, "b@x", none, "pw", true, true, false, none, 0, none, 0, 0⟩

theorem limitedIn_holds (process : Nat) :
    limitedIn.Holds ⟨process, legibleRuntime.hash "r1"⟩ limitedToken limitedUser := by
  have idle : limitedIn.memory.pendingRefreshes = [] := by decide +kernel
  refine ⟨?_, rfl, ?_, rfl, by simp [idle]⟩
  · change limitedIn.db.findRefreshTokenWithUser "#r1" = _
    decide +kernel
  · decide +kernel

/-- A refresh and an upgrade with that token. -/
def limitedCalls : List Request :=
  [.refreshTokens 0 "r1" "ip" "agent", .upgradeSession 0 "r1" "ip" "agent"]

/-- What a schedule of the two leads to. -/
def limitedTogether (moves : List ServiceMove) : ServicePool :=
  (Pool.gathered (service legibleRuntime) limitedIn limitedCalls).playAll (service legibleRuntime)
    (Referee.strict Regime.free.closed) moves

theorem limitedTogether_gathers (moves : List ServiceMove) :
    Gathers (service legibleRuntime) Regime.free limitedIn limitedCalls (limitedTogether moves) :=
  Pool.playAll_steps (Referee.strict_upholds _) _ moves

/-- The upgrade starts a rotation, which the refresh joins before it is refused. -/
def joinedUpgrade : List ServiceMove :=
  steps 1 [{}] ++ steps 0 [{}] ++ steps 1 [{}, {}, {}, {}] ++ steps 0 [{}, {}]

/-- A refresh can be refused what only an upgrade may be refused. -/
theorem refresh_refused :
    ¬ ∀ (runtime : Runtime) (refresher upgrader : Nat) (token : RawToken)
      (ipAddress userAgent ipOther agentOther : String) (initial : State) (row : RefreshTokenRow)
      (user : UserRow), user.isIdVerified = false →
        (∀ process, initial.Holds ⟨process, runtime.hash token⟩ row user) →
        ∀ pool, Gathers (service runtime) Regime.free initial [
            .refreshTokens refresher token ipAddress userAgent,
            .upgradeSession upgrader token ipOther agentOther] pool →
          Unpoisoned (runtime.hash token) pool.world := by
  intro unpoisoned
  have spread := unpoisoned legibleRuntime 0 0 "r1" "ip" "agent" "ip" "agent" limitedIn limitedToken
    limitedUser rfl limitedIn_holds _ (limitedTogether_gathers joinedUpgrade)
  have refused : (limitedTogether joinedUpgrade).world.history.any (fun entry =>
      entry.thread == 0 && refuses entry.event) = true := by decide +kernel
  obtain ⟨entry, member, matched⟩ := List.any_eq_true.mp refused
  rw [Bool.and_eq_true, beq_iff_eq] at matched
  rw [spread.refreshed entry member matched.1] at matched
  cases matched.2

/-! ### The rule -/

/-- What a reply of this traffic says about itself: the database fails with errors of its own, and
nothing else fails. -/
def Grounded : ServiceEvent → Prop
  | ⟨.refreshTokenFindUnique _, .error failure⟩ | ⟨.execute _, .error failure⟩ =>
    ∃ error, failure = .database error
  | ⟨.joinFlight _, .error _⟩ | ⟨.settleFlight _ _ _, .error _⟩ | ⟨.now, .error _⟩
  | ⟨.sign _ _, .error _⟩ | ⟨.randomToken, .error _⟩ | ⟨.securityEvent _ _ _, .error _⟩ => False
  | _ => True

/-- A read of the token has found it and its account as they are. -/
def Shows (row : RefreshTokenRow) (user : UserRow) : ServiceEvent → Prop
  | ⟨.refreshTokenFindUnique _, .ok found⟩ => found = some (row, user)
  | _ => True

/-- Every read of the call has found the token and its account as they are. -/
def Steady (row : RefreshTokenRow) (user : UserRow) (past : List ServiceEvent) : Prop :=
  ∀ event ∈ past, Shows row user event

/-- The call asks its rotation for a full token. -/
def Request.demandsFull : Request → Bool
  | .upgradeSession _ _ _ _ => true
  | _ => false

/-- What a rotation can come to: that of a refresh is not refused as an upgrade is, and that of an
upgrade is refused exactly when it comes as far as to find the token unexpired. -/
structure Verdict (demandsFull : Bool) (row : RefreshTokenRow) (user : UserRow)
    (past : List ServiceEvent) (outcome : Except Failure AuthTokens) : Prop where
  granted : demandsFull = false → outcome ≠ .error notUpgradable
  denied : demandsFull = true → Steady row user past →
    (outcome = .error notUpgradable ↔ Unlapsed row past)

/-- What a refresh has come to: in a rotation of its own not the refusal of an upgrade, and
otherwise what the flight that it awaits has come to. -/
def Brought (past : List ServiceEvent) (outcome : Except Failure AuthTokens) : Prop :=
  (Leading past ∧ outcome ≠ .error notUpgradable) ∨
    ∃ flight, ⟨.awaitFlight flight, outcome⟩ ∈ past

/-- A call joins a flight first of all. It rotates only in the flight that it has started, an
upgrade without writing anything as long as its reads are steady, and settles the flight with a
verdict; otherwise it awaits the flight that it has joined. A refresh responds with what its flight
has come to. -/
def relying (tokenHash : TokenHash) (row : RefreshTokenRow) (user : UserRow) (request : Request)
    (past : List ServiceEvent) : Effect → Prop
  | .joinFlight key => key.tokenHash = tokenHash ∧ past = []
  | .awaitFlight flight => ∃ key, past = [⟨.joinFlight key, .ok (.follower flight)⟩]
  | .refreshTokenFindUnique presented => presented = tokenHash
  | .now => ∃ key flight, InFlight past key flight
  | .execute _ => Leading past ∧ (request.demandsFull = true → ¬Steady row user past)
  | .settleFlight key flight outcome =>
    InFlight past key flight ∧ Verdict request.demandsFull row user past outcome
  | .respond outcome => request.demandsFull = false →
    ∃ brought, Brought past brought ∧ outcome = brought.map .tokens
  | .randomToken | .sign _ _ | .securityEvent _ _ _ => True
  | _ => False

/-- The rule, for calls that count on grounded replies. -/
abbrev reliance (tokenHash : TokenHash) (row : RefreshTokenRow) (user : UserRow)
    (request : Request) : ServiceConduct where
  expects := Grounded
  allows := relying tokenHash row user request

theorem performs_grounded {state next : State} {effect : Effect}
    {reply : Except Failure effect.Reply}
    (performs : environment.Performs state effect reply next) : Grounded ⟨effect, reply⟩ := by
  unfold Grounded
  split
  · rename_i tokenHash failure same
    cases same
    obtain ⟨choice, answered⟩ := performs
    rcases (query_cases answered).2 with found | failed
    · cases found
    · exact ⟨_, Except.error.inj failed⟩
  · rename_i statements failure same
    cases same
    obtain ⟨choice, answered⟩ := performs
    rcases commit_cases answered with ⟨⟨error, failed⟩, _⟩ | ⟨_, _, succeeded, _⟩
    · exact ⟨error, Except.error.inj failed⟩
    · cases succeeded
  · rename_i key failure same
    cases same
    rcases performs_joinFlight performs with ⟨failed, _⟩ | ⟨_, failed, _⟩ <;> cases failed
  · rename_i key flight outcome failure same
    cases same
    cases (performs_settleFlight performs).1
  · rename_i failure same
    cases same
    cases performs_now performs
  · rename_i payload expiresIn failure same
    cases same
    cases performs_sign performs
  · rename_i failure same
    cases same
    obtain ⟨_, failed, _⟩ := performs_randomToken performs
    cases failed
  · rename_i eventType userId ipAddress failure same
    cases same
    cases performs_securityEvent performs
  · trivial

section Traversal

variable {tokenHash : TokenHash} {row : RefreshTokenRow} {user : UserRow} {request : Request}
  {past : List ServiceEvent} {key : FlightKey} {flight : FlightId}

/-- No failure of the database is a refusal. -/
theorem database_ordinary {Value : Type} (error : DatabaseError) :
    (.error (.database error) : Except Failure Value) ≠ .error notUpgradable := nofun

/-- Nor is the refusal of a token. -/
theorem unauthorized_ordinary {Value : Type} (message : String) :
    (.error (UnauthorizedException message) : Except Failure Value) ≠ .error notUpgradable := nofun

theorem Steady.of_cons {event : ServiceEvent} (steady : Steady row user (event :: past)) :
    Steady row user past :=
  fun other member => steady other (List.mem_cons_of_mem _ member)

theorem InFlight.leading (inFlight : InFlight past key flight) : Leading past := by
  obtain ⟨⟨lead, member, led⟩, _⟩ := inFlight
  exact ⟨lead, member, by rw [led]; rfl⟩

/-- A rotation that has come to something else, and not as far as to find the token unexpired. -/
theorem Verdict.ordinary {demandsFull : Bool} {outcome : Except Failure AuthTokens}
    (ordinary : outcome ≠ .error notUpgradable)
    (lapsed : demandsFull = true → Steady row user past → ¬Unlapsed row past) :
    Verdict demandsFull row user past outcome :=
  ⟨fun _ => ordinary, fun demands steady =>
    iff_of_false ordinary (lapsed demands steady)⟩

theorem generateTokens_relying (userId : UserId) (email : Email) (ipAddress userAgent : String)
    (tokenType : TokenType) (inFlight : InFlight past key flight)
    (unsteady : request.demandsFull = true → ¬Steady row user past) :
    (AuthService.generateTokens runtime userId email ipAddress userAgent tokenType).Follows
      (reliance tokenHash row user request)
      (fun now outcome => InFlight now key flight ∧
        Verdict request.demandsFull row user now outcome) past := by
  refine follows_perform_bind.mpr ⟨trivial, fun accessToken _ => follows_perform_bind.mpr
    ⟨trivial, fun token _ => follows_perform_bind.mpr ⟨?_, fun now _ =>
      follows_perform_bind.mpr ⟨?_, fun _ _ => ⟨?_, .ordinary nofun ?_⟩, fun _ grounded => ?_⟩,
        fun _ impossible => impossible.elim⟩, fun _ impossible => impossible.elim⟩,
        fun _ impossible => impossible.elim⟩
  · exact ⟨key, flight, (inFlight.cons rfl).cons rfl⟩
  · refine ⟨(((inFlight.cons rfl).cons rfl).cons rfl).leading, fun demands steady => ?_⟩
    exact unsteady demands steady.of_cons.of_cons.of_cons
  · exact (((inFlight.cons rfl).cons rfl).cons rfl).cons rfl
  · intro demands steady
    exact absurd steady.of_cons.of_cons.of_cons.of_cons (unsteady demands)
  · obtain ⟨error, rfl⟩ := grounded
    refine ⟨(((inFlight.cons rfl).cons rfl).cons rfl).cons rfl,
      .ordinary (database_ordinary error) fun demands steady => ?_⟩
    exact absurd steady.of_cons.of_cons.of_cons.of_cons (unsteady demands)

theorem rejectRevoked_relying (userId : UserId) (ipAddress : String)
    (inFlight : InFlight past key flight) (unsteady : ¬Steady row user past) :
    (AuthService.rejectRevoked userId ipAddress).Follows (reliance tokenHash row user request)
      (fun now outcome => InFlight now key flight ∧
        Verdict request.demandsFull row user now outcome) past := by
  refine follows_perform_bind.mpr ⟨⟨inFlight.leading, fun _ => unsteady⟩, fun _ _ =>
    follows_perform_bind.mpr ⟨trivial, fun _ _ => ?_, fun _ impossible => impossible.elim⟩,
    fun _ grounded => ?_⟩
  · exact ⟨(inFlight.cons rfl).cons rfl, .ordinary (unauthorized_ordinary _)
      fun _ steady => absurd steady.of_cons.of_cons unsteady⟩
  · obtain ⟨error, rfl⟩ := grounded
    exact ⟨inFlight.cons rfl, .ordinary (database_ordinary error)
      fun _ steady => absurd steady.of_cons unsteady⟩

/-- The checks on a live token, which is the one that is held as long as the reads are steady. -/
theorem rotateLiveToken_relying (storedToken : RefreshTokenRow) (owner : UserRow)
    (ipAddress userAgent : String) (active : user.isActive = true)
    (unverified : user.isIdVerified = false) (inFlight : InFlight past key flight)
    (unclocked : ∀ clock, ⟨.now, .ok clock⟩ ∉ past)
    (same : Steady row user past → storedToken = row ∧ owner = user) :
    (AuthService.rotateLiveToken runtime storedToken owner ipAddress userAgent
      request.demandsFull).Follows (reliance tokenHash row user request)
        (fun now outcome => InFlight now key flight ∧
          Verdict request.demandsFull row user now outcome) past := by
  refine follows_perform_bind.mpr ⟨⟨key, flight, inFlight⟩, fun now _ => ?_,
    fun _ impossible => impossible.elim⟩
  have inFlight : InFlight (⟨.now, .ok now⟩ :: past) key flight := inFlight.cons rfl
  refine follows_throwIf_bind.mpr ⟨fun expired => ?_, fun unexpired => ?_⟩
  · refine ⟨inFlight, .ordinary (unauthorized_ordinary _) fun _ steady => ?_⟩
    rintro ⟨clock, member, before⟩
    obtain rfl : clock = now := by simpa [unclocked] using member
    rw [(same steady.of_cons).1] at expired
    exact absurd (of_decide_eq_true expired) (Int.not_lt.mpr before)
  refine follows_throwIf_bind.mpr ⟨fun inactive => ?_, fun _ => ?_⟩
  · refine ⟨inFlight, .ordinary (unauthorized_ordinary _) fun _ steady => ?_⟩
    rw [(same steady.of_cons).2, active] at inactive
    cases inactive
  refine follows_throwIf_bind.mpr ⟨fun limited => ?_, fun passed => ?_⟩
  · rw [Bool.and_eq_true] at limited
    refine ⟨inFlight, fun lenient => ?_, fun _ steady => iff_of_true rfl ?_⟩
    · rw [limited.1] at lenient
      cases lenient
    · refine ⟨now, List.mem_cons_self, ?_⟩
      rw [(same steady.of_cons).1] at unexpired
      exact Int.not_lt.mp (of_decide_eq_false unexpired)
  -- An upgrade that gets here has found the account verified.
  have unsteady : request.demandsFull = true → ¬Steady row user past := by
    intro demands steady
    rw [(same steady).2, unverified, demands] at passed
    cases passed
  refine follows_perform_bind.mpr ⟨⟨inFlight.leading, fun demands steady =>
    unsteady demands steady.of_cons⟩, fun _ _ => ?_, fun _ grounded => ?_⟩
  · exact generateTokens_relying runtime _ _ _ _ _ (inFlight.cons rfl) fun demands steady =>
      unsteady demands steady.of_cons.of_cons
  · obtain ⟨error, rfl⟩ := grounded
    exact ⟨inFlight.cons rfl, .ordinary (database_ordinary error) fun demands steady =>
      absurd steady.of_cons.of_cons (unsteady demands)⟩

theorem rotateRefreshToken_relying (ipAddress userAgent : String) (live : row.revoked = false)
    (active : user.isActive = true) (unverified : user.isIdVerified = false)
    (inFlight : InFlight past key flight) (unclocked : ∀ clock, ⟨.now, .ok clock⟩ ∉ past) :
    (AuthService.rotateRefreshToken runtime tokenHash ipAddress userAgent
      request.demandsFull).Follows (reliance tokenHash row user request)
        (fun now outcome => InFlight now key flight ∧
          Verdict request.demandsFull row user now outcome) past := by
  refine follows_perform_bind.mpr ⟨rfl, fun found _ => ?_, fun failure grounded => ?_⟩
  · match found with
    | none =>
      refine ⟨inFlight.cons rfl, .ordinary (unauthorized_ordinary _) fun _ steady => ?_⟩
      exact absurd (steady _ List.mem_cons_self) nofun
    | some (storedToken, owner) =>
      have same : Steady row user
          (⟨.refreshTokenFindUnique tokenHash, .ok (some (storedToken, owner))⟩ :: past) →
          storedToken = row ∧ owner = user := by
        intro steady
        simpa [Shows] using steady _ List.mem_cons_self
      dsimp only
      split
      · rename_i revoked
        refine rejectRevoked_relying _ _ (inFlight.cons rfl) fun steady => ?_
        rw [(same steady).1, live] at revoked
        cases revoked
      · exact rotateLiveToken_relying runtime _ _ _ _ active unverified (inFlight.cons rfl)
          (by simp [unclocked]) same
  · obtain ⟨error, rfl⟩ := grounded
    refine ⟨inFlight.cons rfl, .ordinary (database_ordinary error) fun _ _ => ?_⟩
    rintro ⟨clock, member, _⟩
    simp [unclocked] at member

theorem runSingleFlightRefresh_relying (request : Request) (key : FlightKey)
    (ipAddress userAgent : String) (live : row.revoked = false) (active : user.isActive = true)
    (unverified : user.isIdVerified = false) :
    (AuthService.runSingleFlightRefresh key (AuthService.rotateRefreshToken runtime key.tokenHash
      ipAddress userAgent request.demandsFull)).Follows (reliance key.tokenHash row user request)
        (fun now outcome => request.demandsFull = false → Brought now outcome) [] := by
  refine follows_perform_bind.mpr ⟨⟨rfl, rfl⟩, fun role _ => ?_, fun _ impossible =>
    impossible.elim⟩
  cases role with
  | follower flight =>
    exact follows_perform.mpr ⟨⟨key, rfl⟩, fun outcome _ _ => .inr ⟨flight, List.mem_cons_self⟩⟩
  | leader flight =>
    have inFlight : InFlight [⟨.joinFlight key, .ok (.leader flight)⟩] key flight :=
      ⟨⟨_, List.mem_cons_self, rfl⟩, by simp [lands]⟩
    refine follows_bind.mpr (follows_attempt.mpr ((rotateRefreshToken_relying runtime _ _ live
      active unverified inFlight (by simp)).weaken fun now outcome flown => ?_))
    obtain ⟨stillInFlight, verdict⟩ := flown
    refine follows_perform_bind.mpr ⟨⟨stillInFlight, verdict⟩, fun _ _ => follows_ofOutcome.mpr
      fun lenient => .inl ⟨stillInFlight.leading.cons _, verdict.granted lenient⟩,
      fun _ impossible => impossible.elim⟩

theorem serve_relying (token : RawToken) (live : row.revoked = false)
    (active : user.isActive = true) (unverified : user.isIdVerified = false)
    {refresher upgrader : Nat} {ipAddress userAgent ipOther agentOther : String}
    (member : request ∈ [.refreshTokens refresher token ipAddress userAgent,
      .upgradeSession upgrader token ipOther agentOther]) :
    (serve runtime request).Abides (reliance (runtime.hash token) row user request) [] := by
  simp only [List.mem_cons, List.not_mem_nil, or_false] at member
  rcases member with rfl | rfl
  · refine follows_bind.mpr (follows_attempt.mpr (follows_bind.mpr
      ((runSingleFlightRefresh_relying runtime (.refreshTokens refresher token ipAddress userAgent)
        ⟨refresher, runtime.hash token⟩ ipAddress userAgent live active unverified).weaken
        fun now outcome brought => ?_)))
    have brought := brought rfl
    cases outcome with
    | error failure =>
      exact follows_perform_bind.mpr ⟨fun _ => ⟨_, brought, rfl⟩, fun _ _ => trivial,
        fun _ _ => trivial⟩
    | ok tokens =>
      exact follows_perform_bind.mpr ⟨fun _ => ⟨_, brought, rfl⟩, fun _ _ => trivial,
        fun _ _ => trivial⟩
  · have responds : ∀ past outcome, (GraconAuth.request (.respond outcome) >>= fun _ =>
        ofOutcome outcome : Async Response).Abides (reliance (runtime.hash token) row user
          (.upgradeSession upgrader token ipOther agentOther)) past := fun past outcome =>
      follows_perform_bind.mpr ⟨nofun, fun _ _ => follows_ofOutcome.mpr trivial, fun _ _ => trivial⟩
    refine follows_bind.mpr (follows_attempt.mpr (follows_bind.mpr (follows_bind.mpr
      ((runSingleFlightRefresh_relying runtime (.upgradeSession upgrader token ipOther agentOther)
        ⟨upgrader, runtime.hash token⟩ ipOther agentOther live active unverified).weaken
        fun now outcome _ => ?_))))
    cases outcome with
    | error failure => exact responds now _
    | ok tokens =>
      exact follows_throwIf_bind.mpr ⟨fun _ => responds now _, fun _ => responds now _⟩

end Traversal

theorem refuses_iff {event : ServiceEvent} :
    refuses event = true ↔ event.effect = .respond (.error notUpgradable) := by
  constructor
  · intro refused
    unfold refuses at refused
    split at refused
    · rw [beq_iff_eq.mp refused]
    · cases refused
  · intro effect
    obtain ⟨_, reply⟩ := event
    subst effect
    exact beq_self_eq_true _

theorem responds_iff {event : ServiceEvent} :
    responds event = true ↔ ∃ outcome, event.effect = .respond outcome := by
  constructor
  · intro sent
    unfold responds at sent
    split at sent
    · exact ⟨_, rfl⟩
    · cases sent
  · rintro ⟨outcome, effect⟩
    obtain ⟨_, reply⟩ := event
    subst effect
    rfl

/-! ### What holds along such a run -/

section Runs

variable {runtime} {regime : Regime State Effect.Reply Failure Request} {tokenHash : TokenHash}
  {row : RefreshTokenRow} {user : UserRow} {initial : State} {world : ServiceWorld}
  (chronicle : Chronicle (service runtime) regime (reliance tokenHash row user) initial world)

include chronicle

/-- A call joins a flight first of all, and so once. -/
theorem joined_first {thread : Nat} {event : ServiceEvent} {flight : FlightId}
    (member : event ∈ world.past thread) (joined : joins event = some flight) :
    ∃ newer, world.past thread = newer ++ [event] := by
  obtain ⟨newer, older, split⟩ := List.append_of_mem member
  obtain ⟨earlier, entry, _, admissible, _, same, rfl, past, _⟩ := chronicle.recalls_past split
  have ruled : relying tokenHash row user entry.request (earlier.past entry.thread) entry.effect :=
    admissible.ruled
  obtain ⟨key, effect⟩ := effect_of_joins joined
  rw [show entry.effect = _ from (congrArg Event.effect same).trans effect] at ruled
  obtain rfl : older = [] := past.symm.trans ruled.2
  exact ⟨newer, split⟩

theorem joined_unique {thread : Nat} {one two : ServiceEvent} {flight another : FlightId}
    (memberOne : one ∈ world.past thread) (memberTwo : two ∈ world.past thread)
    (joinedOne : joins one = some flight) (joinedTwo : joins two = some another) : one = two := by
  obtain ⟨newer, split⟩ := joined_first chronicle memberOne joinedOne
  obtain ⟨other, splitToo⟩ := joined_first chronicle memberTwo joinedTwo
  exact List.singleton_inj.mp (List.append_inj_right' (split.symm.trans splitToo) rfl)

omit chronicle in
/-- Nothing has been written, and every read has found the token and its account as they are. -/
structure Undisturbed (tokenHash : TokenHash) (row : RefreshTokenRow) (user : UserRow)
    (world : ServiceWorld) : Prop where
  stored : world.state.db.findRefreshTokenWithUser tokenHash = some (row, user)
  shown : ∀ entry ∈ world.history, Shows row user entry.event

omit chronicle in
theorem Undisturbed.steady (undisturbed : Undisturbed tokenHash row user world) (thread : Nat) :
    Steady row user (world.past thread) := by
  intro event member
  obtain ⟨entry, old, _, rfl⟩ := World.mem_past.mp member
  exact undisturbed.shown entry old

/-- As long as only upgrades have started rotations, nothing has been written. -/
theorem undisturbed_of_upgrades
    (found : initial.db.findRefreshTokenWithUser tokenHash = some (row, user))
    (upgrades : ∀ lead ∈ world.history, (leads lead.event).isSome = true →
      lead.request.demandsFull = true) : Undisturbed tokenHash row user world := by
  refine chronicle.invariant (fun world => (∀ lead ∈ world.history,
    (leads lead.event).isSome = true → lead.request.demandsFull = true) →
      Undisturbed tokenHash row user world) (fun _ => ⟨found, by simp⟩) ?_ upgrades
  intro world entry _ before admissible upgrades
  have undisturbed := before fun lead member => upgrades lead (List.mem_cons_of_mem _ member)
  have performs : environment.Performs entry.before entry.effect entry.reply entry.after :=
    admissible.performs
  have ruled : relying tokenHash row user entry.request (world.past entry.thread) entry.effect :=
    admissible.ruled
  -- The rule forbids the write to an upgrade, and a refresh would have started the rotation.
  have unwritten : executed entry.event = [] := by
    by_contra wrote
    obtain ⟨statement, listed⟩ := List.exists_mem_of_ne_nil _ wrote
    rw [show entry.effect = _ from congrArg Event.effect (mem_executed listed)] at ruled
    obtain ⟨⟨event, past, led⟩, unsteady⟩ := ruled
    obtain ⟨lead, member, same, rfl⟩ := World.mem_past.mp past
    refine unsteady ?_ (undisturbed.steady _)
    rw [← admissible.owned lead member same]
    exact upgrades lead (List.mem_cons_of_mem _ member) led
  refine ⟨?_, List.forall_mem_cons.mpr ⟨?_, undisturbed.shown⟩⟩
  · rw [World.record_state, performs_unwritten performs unwritten ?_, admissible.current]
    · exact undisturbed.stored
    · intro data effect
      rw [effect] at ruled
      exact ruled
  · have current := admissible.current
    obtain ⟨thread, request, state, effect, reply, after⟩ := entry
    dsimp only at performs ruled current
    unfold Shows
    split
    · rename_i presented shown same
      cases same
      obtain rfl : presented = tokenHash := ruled
      obtain rfl := performs_refreshTokenFindUnique performs
      rw [current]
      exact undisturbed.stored
    · trivial

omit chronicle in
/-- The refresh is the call `0`, and the upgrade is the call `1`. -/
def Numbered (world : ServiceWorld) : Prop :=
  ∀ entry ∈ world.history, entry.thread = 0 ∧ entry.request.demandsFull = false ∨
    entry.thread = 1 ∧ entry.request.demandsFull = true

/-- When the refresh has joined a flight, only the upgrade has started one. -/
theorem lead_of_upgrade (numbered : Numbered world) {key : FlightKey} {flight : FlightId}
    (joined : ⟨.joinFlight key, .ok (.follower flight)⟩ ∈ world.past 0) :
    ∀ lead ∈ world.history, (leads lead.event).isSome = true →
      lead.thread = 1 ∧ lead.request.demandsFull = true := by
  intro lead member led
  rcases numbered lead member with ⟨refresh, _⟩ | upgrade
  · obtain ⟨⟨other, another⟩, led⟩ := Option.isSome_iff_exists.mp led
    have same := joined_unique chronicle (World.mem_past.mpr ⟨lead, member, refresh, rfl⟩) joined
      (joins_of_leads led) rfl
    rw [same] at led
    cases led
  · exact upgrade

/-- The flight that the refresh has joined was started by the upgrade. -/
theorem led_of_joined (numbered : Numbered world)
    (idle : ∀ entry ∈ initial.memory.pendingRefreshes, entry.1.tokenHash ≠ tokenHash)
    {key : FlightKey} {flight : FlightId}
    (joined : ⟨.joinFlight key, .ok (.follower flight)⟩ ∈ world.past 0) :
    ∃ lead ∈ world.history, lead.thread = 1 ∧ leads lead.event = some (key, flight) := by
  obtain ⟨join, member, _, same⟩ := World.mem_past.mp joined
  obtain ⟨other, effect, first | ⟨lead, memberLead, led⟩⟩ :=
    origin_of_joined chronicle member (by rw [same]; rfl)
  · obtain ⟨earlier, _, admissible, _⟩ := chronicle.recalls member
    have ruled : relying tokenHash row user join.request (earlier.past join.thread) join.effect :=
      admissible.ruled
    rw [effect] at ruled
    exact absurd ruled.1 (idle _ first)
  · cases effect.symm.trans (congrArg Event.effect same)
    exact ⟨lead, memberLead, (lead_of_upgrade chronicle numbered joined lead memberLead
      (by rw [led]; rfl)).1, led⟩

/-- A call that has settled its flight reads the clock no more. -/
theorem unlapsed_of_settled {thread : Nat} {newer older : List ServiceEvent} {settle : ServiceEvent}
    (split : world.past thread = newer ++ settle :: older) (landed : lands settle = true)
    (unlapsed : Unlapsed row (world.past thread)) : Unlapsed row older := by
  obtain ⟨clock, member, before⟩ := unlapsed
  rw [split] at member
  rcases List.mem_append.mp member with late | member
  · obtain ⟨latest, between, splitToo⟩ := List.append_of_mem late
    rw [splitToo, List.append_assoc, List.cons_append] at split
    obtain ⟨earlier, entry, _, admissible, _, same, rfl, past, _⟩ := chronicle.recalls_past split
    have ruled : relying tokenHash row user entry.request (earlier.past entry.thread)
        entry.effect := admissible.ruled
    rw [show entry.effect = _ from congrArg Event.effect same, past] at ruled
    obtain ⟨key, flight, _, flying⟩ := ruled
    rw [flying settle (by simp)] at landed
    cases landed
  · rcases List.mem_cons.mp member with rfl | early
    · cases landed
    · exact ⟨clock, early, before⟩

/-- What a call gets from a flight of the run is what the flight has been settled with. -/
theorem settled_of_awaited {lead : ServiceEntry} (memberLead : lead ∈ world.history)
    {key : FlightKey} {flight : FlightId} (led : leads lead.event = some (key, flight))
    {thread : Nat} {came : Except Failure AuthTokens}
    (awaited : ⟨.awaitFlight flight, came⟩ ∈ world.past thread) :
    ∃ settle ∈ world.history, ∃ other, settle.effect = .settleFlight other flight came := by
  obtain ⟨await, member, _, same⟩ := World.mem_past.mp awaited
  obtain ⟨earlier, chronicleEarlier, admissible, kept⟩ := chronicle.recalls member
  have performs : environment.Performs await.before await.effect await.reply await.after :=
    admissible.performs
  have found := performs_awaitFlight (performs_event performs same)
  rw [admissible.current] at found
  rcases landed_or_settled chronicleEarlier found with first | ⟨settle, old, settles⟩
  · rw [List.getElem?_eq_none (lead_recent chronicle memberLead led)] at first
    cases first
  · exact ⟨settle, kept old, settles⟩

/-- The call that has started a flight settles it, with a verdict on what it has done. -/
theorem verdict_of_settled {lead settle : ServiceEntry} (memberLead : lead ∈ world.history)
    (memberSettle : settle ∈ world.history) {key other : FlightKey} {flight : FlightId}
    {came : Except Failure AuthTokens} (led : leads lead.event = some (key, flight))
    (settles : settle.effect = .settleFlight other flight came) :
    ∃ newer older, world.past lead.thread = newer ++ settle.event :: older ∧
      Verdict lead.request.demandsFull row user older came := by
  obtain ⟨newer, older, split⟩ := List.append_of_mem
    (World.mem_past.mpr ⟨settle, memberSettle, rfl, rfl⟩)
  obtain ⟨earlier, entry, _, admissible, _, event, thread, past, kept⟩ :=
    chronicle.recalls_past split
  have ruled : relying tokenHash row user entry.request (earlier.past entry.thread) entry.effect :=
    admissible.ruled
  rw [show entry.effect = _ from (congrArg Event.effect event).trans settles] at ruled
  obtain ⟨⟨⟨eventToo, pastToo, ledToo⟩, _⟩, verdict⟩ := ruled
  obtain ⟨leadToo, memberToo, same, rfl⟩ := World.mem_past.mp pastToo
  obtain rfl := lead_once chronicle memberLead (kept memberToo) led ledToo
  refine ⟨newer, older, by rw [same, thread, split], ?_⟩
  rw [admissible.owned lead memberToo same, ← past, ← thread]
  exact verdict

/-- A refresh that has joined the flight of the upgrade gets its refusal exactly when the upgrade
has come as far as to find the token unexpired. -/
theorem refused_iff_unlapsed (numbered : Numbered world)
    (found : initial.db.findRefreshTokenWithUser tokenHash = some (row, user))
    (idle : ∀ entry ∈ initial.memory.pendingRefreshes, entry.1.tokenHash ≠ tokenHash)
    {key : FlightKey} {flight : FlightId} {came : Except Failure AuthTokens}
    (joined : ⟨.joinFlight key, .ok (.follower flight)⟩ ∈ world.past 0)
    (awaited : ⟨.awaitFlight flight, came⟩ ∈ world.past 0) :
    came = .error notUpgradable ↔ Unlapsed row (world.past 1) := by
  have upgrades := lead_of_upgrade chronicle numbered joined
  have undisturbed := undisturbed_of_upgrades chronicle found fun lead member led =>
    (upgrades lead member led).2
  obtain ⟨lead, member, upgrade, led⟩ := led_of_joined chronicle numbered idle joined
  obtain ⟨settle, memberSettle, other, settles⟩ :=
    settled_of_awaited chronicle member led awaited
  obtain ⟨newer, older, split, verdict⟩ :=
    verdict_of_settled chronicle member memberSettle led settles
  rw [upgrade] at split
  have earlier : older ⊆ world.past 1 := by
    rw [split]
    exact List.subset_append_of_subset_right _ (List.subset_cons_self _ _)
  rw [verdict.denied (upgrades lead member (by rw [led]; rfl)).2
    fun event old => undisturbed.steady 1 event (earlier old)]
  refine ⟨fun unlapsed => ?_, unlapsed_of_settled chronicle split (lands_of_settles settles)⟩
  obtain ⟨clock, old, before⟩ := unlapsed
  exact ⟨clock, earlier old, before⟩

/-- A refresh answers with what it has come to in a rotation of its own, or with what the flight
that it has joined has come to. -/
theorem brought_of_answer (numbered : Numbered world) {answer : ServiceEntry}
    (member : answer ∈ world.history) (refresh : answer.thread = 0)
    {outcome : Except Failure Response} (responds : answer.effect = .respond outcome) :
    ∃ brought : Except Failure AuthTokens, outcome = brought.map .tokens ∧
      ((Leading (world.past 0) ∧ brought ≠ .error notUpgradable) ∨ ∃ key flight,
        ⟨.joinFlight key, .ok (.follower flight)⟩ ∈ world.past 0 ∧
        ⟨.awaitFlight flight, brought⟩ ∈ world.past 0) := by
  obtain ⟨earlier, _, admissible, kept⟩ := chronicle.recalls member
  have ruled : relying tokenHash row user answer.request (earlier.past answer.thread)
      answer.effect := admissible.ruled
  have lenient : answer.request.demandsFull = false := by
    rcases numbered answer member with ⟨_, lenient⟩ | ⟨upgrade, _⟩
    · exact lenient
    · rw [refresh] at upgrade
      cases upgrade
  rw [responds, refresh] at ruled
  obtain ⟨brought, came, rfl⟩ := ruled lenient
  refine ⟨brought, rfl, ?_⟩
  rcases came with ⟨⟨lead, past, led⟩, ordinary⟩ | ⟨flight, awaited⟩
  · exact .inl ⟨⟨lead, World.past_subset kept 0 past, led⟩, ordinary⟩
  · have awaited := World.past_subset kept 0 awaited
    obtain ⟨await, memberAwait, same, event⟩ := World.mem_past.mp awaited
    obtain ⟨before, _, admissibleAwait, keptAwait⟩ := chronicle.recalls memberAwait
    have ruledAwait : relying tokenHash row user await.request (before.past await.thread)
        await.effect := admissibleAwait.ruled
    rw [show await.effect = _ from congrArg Event.effect event, same] at ruledAwait
    obtain ⟨key, joined⟩ := ruledAwait
    refine .inr ⟨key, flight, World.past_subset keptAwait 0 ?_, awaited⟩
    rw [joined]
    exact List.mem_singleton_self _

/-- A refresh that is refused as an upgrade is has joined the flight of the upgrade, and one that
has joined it after all gets what the upgrade gets. -/
theorem refreshed_iff (numbered : Numbered world)
    (found : initial.db.findRefreshTokenWithUser tokenHash = some (row, user))
    (idle : ∀ entry ∈ initial.memory.pendingRefreshes, entry.1.tokenHash ≠ tokenHash) :
    (∃ entry ∈ world.history, entry.thread = 0 ∧ refuses entry.event = true) ↔
      Poisoned row world := by
  constructor
  · rintro ⟨entry, member, refresh, refused⟩
    have effect := refuses_iff.mp refused
    obtain ⟨brought, same, came⟩ := brought_of_answer chronicle numbered member refresh effect
    cases brought with
    | ok tokens => cases same
    | error failure =>
      cases same
      rcases came with ⟨_, ordinary⟩ | ⟨key, flight, joined, awaited⟩
      · exact absurd rfl ordinary
      · obtain ⟨lead, memberLead, upgrade, led⟩ := led_of_joined chronicle numbered idle joined
        refine ⟨⟨key, flight, joined, World.mem_past.mpr
          ⟨lead, memberLead, upgrade, event_of_leads led⟩⟩,
          (refused_iff_unlapsed chronicle numbered found idle joined awaited).mp rfl,
          entry, member, refresh, responds_iff.mpr ⟨_, effect⟩⟩
  · rintro ⟨⟨key, flight, joined, _⟩, unlapsed, answer, member, refresh, sent⟩
    obtain ⟨outcome, effect⟩ := responds_iff.mp sent
    obtain ⟨brought, rfl, came⟩ := brought_of_answer chronicle numbered member refresh effect
    rcases came with ⟨⟨lead, past, led⟩, _⟩ | ⟨other, another, joinedToo, awaited⟩
    · obtain ⟨⟨other, another⟩, led⟩ := Option.isSome_iff_exists.mp led
      obtain rfl := joined_unique chronicle past joined (joins_of_leads led) rfl
      cases led
    · cases joined_unique chronicle joined joinedToo rfl rfl
      obtain rfl := (refused_iff_unlapsed chronicle numbered found idle joined awaited).mpr unlapsed
      exact ⟨answer, member, refresh, refuses_iff.mpr effect⟩

end Runs

/-! ### The runs in which the two do not spoil each other -/

/-- A refresh and an upgrade spoil each other exactly when the refresh has joined the rotation of
the upgrade, which has found the token unexpired, and has been answered. -/
theorem unpoisoned_iff (runtime : Runtime) (refresher upgrader : Nat) (token : RawToken)
    (ipAddress userAgent ipOther agentOther : String) (initial : State) (row : RefreshTokenRow)
    (user : UserRow) (unverified : user.isIdVerified = false)
    (holds : ∀ process, initial.Holds ⟨process, runtime.hash token⟩ row user) (pool : ServicePool)
    (gathers : Gathers (service runtime) Regime.free initial [
      .refreshTokens refresher token ipAddress userAgent,
      .upgradeSession upgrader token ipOther agentOther] pool) :
    Unpoisoned (runtime.hash token) pool.world ↔ ¬Poisoned row pool.world := by
  have chronicle : Chronicle (service runtime) _ (reliance (runtime.hash token) row user) initial
      pool.world :=
    (gathers.reachable (by simp [service, accepts, Request.guard])).chronicle
      (fun _ _ _ _ _ performs accepted => accepts_lasting performs accepted)
      (fun _ _ _ _ _ performs => performs_grounded performs)
      fun request asked => serve_relying runtime token (holds 0).live (holds 0).active unverified
        asked
  have numbered : Numbered pool.world := by
    intro entry member
    have owned := gathers.owned entry member
    obtain ⟨thread, request, before, effect, reply, after⟩ := entry
    rcases thread with _ | _ | _
    · cases owned
      exact .inl ⟨rfl, rfl⟩
    · cases owned
      exact .inr ⟨rfl, rfl⟩
    · cases owned
  have found := (holds 0).found
  have idle : ∀ entry ∈ initial.memory.pendingRefreshes,
      entry.1.tokenHash ≠ runtime.hash token := by
    intro entry pending same
    refine (holds entry.1.process).idle entry pending ?_
    rw [← same]
  rw [← refreshed_iff chronicle numbered found idle]
  refine ⟨fun unpoisoned => ?_, fun unrefused => ⟨?_, fun upgrades entry member refused => ?_⟩⟩
  · rintro ⟨entry, member, refresh, refused⟩
    rw [unpoisoned.refreshed entry member refresh] at refused
    cases refused
  · intro entry member refresh
    exact Bool.eq_false_iff.mpr fun refused => unrefused ⟨entry, member, refresh, refused⟩
  · have undisturbed := undisturbed_of_upgrades chronicle found fun lead member led => by
      rcases numbered lead member with ⟨refresh, _⟩ | ⟨_, demands⟩
      · rw [upgrades lead member led] at refresh
        cases refresh
      · exact demands
    exact ⟨row, findRefreshToken_of_withUser undisturbed.stored, (holds 0).live⟩

/-- The refresh starts the rotation, and the upgrade joins it. -/
def joinedRefresh : List ServiceMove :=
  steps 0 [{}] ++ steps 1 [{}] ++ steps 0 [{}, {}, {}, {}, { text := "r2" }, {}, {}, {}, {}] ++
    steps 1 [{}, {}]

/-- Then the refresh is answered with tokens, although the upgrade is refused. -/
theorem unpoisoned_iff_joinedRefresh :
    ((limitedTogether joinedRefresh).world.history.any (fun entry =>
      entry.thread == 0 && givesTokens entry.event) = true ∧
        (limitedTogether joinedRefresh).world.history.any (fun entry =>
          entry.thread == 1 && refuses entry.event) = true) ∧
      Unpoisoned (legibleRuntime.hash "r1") (limitedTogether joinedRefresh).world := by
  refine ⟨by decide +kernel, (unpoisoned_iff legibleRuntime 0 0 "r1" "ip" "agent" "ip" "agent"
    limitedIn limitedToken limitedUser rfl limitedIn_holds _
    (limitedTogether_gathers joinedRefresh)).mpr ?_⟩
  rintro ⟨⟨key, flight, joined, _⟩, _, _⟩
  have leads : ((limitedTogether joinedRefresh).world.past 0).all (fun event =>
      (joins event).isSome == (leads event).isSome) = true := by decide +kernel
  cases List.all_eq_true.mp leads _ joined

end GraconAuth
