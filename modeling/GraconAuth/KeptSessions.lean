/-
This file proves that a session lasts until it is ended. As long as its token is
refreshed before it expires, a session stays alive, refresh after refresh, and it
becomes a full one once the identity is verified. A logout ends it, and a logout from
all devices ends every session of the account: the tokens are refused from then on,
whatever else the service does.
-/

import GraconAuth.Recovery

namespace GraconAuth

open Interleaving Program Rows

variable {runtime : Runtime} {db next : Database} {user : UserRow} {clock : Timestamp}
  {state : State} {token : RawToken} {supply : Supply} {row : RefreshTokenRow}

/-! ### The flight -/

/-- No refresh is pending under the key. -/
def State.NonePending (state : State) (key : FlightKey) : Prop :=
  state.memory.pendingRefreshes.find? (fun entry => entry.1 == key) = none

theorem returns_joinFlight {key : FlightKey} (alone : state.NonePending key) :
    (request (.joinFlight key)).Returns (calm supply) (fun role now =>
      (∃ flight, role = .leader flight) ∧ Meanwhile state now state.db state.outbox) state := by
  refine returns_request fun choice _ => ?_
  unfold State.answer
  dsimp only
  rw [show (state.tick choice.elapsed).memory.pendingRefreshes.find? _ = none from alone]
  exact ⟨_, _, rfl, ⟨_, rfl⟩, meanwhile_tick choice.elapsed rfl⟩

theorem returns_settleFlight (key : FlightKey) (flight : FlightId)
    (outcome : Except Failure AuthTokens) :
    (request (.settleFlight key flight outcome)).Returns (calm supply) (fun _ now =>
      Meanwhile state now state.db state.outbox) state :=
  returns_request fun choice _ => ⟨_, _, rfl, meanwhile_tick choice.elapsed rfl⟩

/-- A flight that is not shared comes to what its task comes to. -/
theorem runSingleFlightRefresh_guarantees {key : FlightKey} {task : Async AuthTokens}
    {post : Except Failure AuthTokens → State → Prop} (alone : state.NonePending key)
    (flown : ∀ now, Meanwhile state now state.db state.outbox →
      task.Guarantees (calm supply) (fun outcome landed =>
        ∀ later, Meanwhile landed later landed.db landed.outbox → post outcome later) now) :
    (AuthService.runSingleFlightRefresh key task).Guarantees (calm supply) post state := by
  unfold AuthService.runSingleFlightRefresh
  refine Guarantees.bind (returns_joinFlight alone) ?_
  rintro _ joined ⟨⟨flight, rfl⟩, first⟩
  refine guarantees_bind.mpr (guarantees_attempt.mpr ((flown joined first).weaken ?_))
  intro outcome landed holds
  rw [ofOutcome_ok, done_bind]
  refine Guarantees.bind (returns_settleFlight _ _ _) fun _ settled second => ?_
  exact guarantees_ofOutcome.mpr (holds settled second)

/-! ### The session -/

/-- The token is that of a session of an active account that stands. -/
structure OpenSession (runtime : Runtime) (db : Database) (user : UserRow) (token : RawToken)
    (row : RefreshTokenRow) : Prop extends Stands runtime db user where
  activated : user.isActive = true
  found : db.findRefreshToken (runtime.hash token) = some row
  owner : row.userId = user.id
  unrevoked : row.revoked = false

/-- A token of the account is found with it. -/
theorem Listed.foundWithUser (listed : Listed db user)
    (found : db.findRefreshToken (runtime.hash token) = some row) (owner : row.userId = user.id) :
    db.findRefreshTokenWithUser (runtime.hash token) = some (row, user) := by
  unfold Database.findRefreshTokenWithUser
  rw [found, Option.bind_eq_bind, Option.bind_some, owner, listed.byId]
  rfl

theorem OpenSession.foundWithUser (session : OpenSession runtime db user token row) :
    db.findRefreshTokenWithUser (runtime.hash token) = some (row, user) :=
  session.toStands.listed.foundWithUser session.found session.owner

theorem OpenSession.kept (session : OpenSession runtime db user token row) :
    row ∈ db.refreshTokens := List.mem_of_find?_eq_some session.found

theorem returns_refreshTokenFindUnique (tokenHash : TokenHash) :
    (request (.refreshTokenFindUnique tokenHash)).Returns (calm supply) (fun found now =>
      found = state.db.findRefreshTokenWithUser tokenHash ∧
        Meanwhile state now state.db state.outbox) state :=
  returns_request fun choice calm =>
    ⟨_, _, query_calm (calmly_fails calm) _, rfl, meanwhile_tick choice.elapsed rfl⟩

theorem run_refreshTokenUpdate (stored : row ∈ db.refreshTokens) :
    Statement.run clock db (.refreshTokenUpdate row.id) = .ok { db with
      refreshTokens := updateWhere (fun other => other.id == row.id) RefreshTokenRow.revoke
        db.refreshTokens } := by
  have ran : updateUnique (fun other => other.id == row.id) RefreshTokenRow.revoke
      db.refreshTokens = .ok _ := updateUnique_of_mem stored (beq_self_eq_true _)
  simp only [Statement.run, ran]
  rfl

/-- A revocation issues nothing. -/
theorem unissued_updateWhere {matching : RefreshTokenRow → Bool} {now : State}
    (unused : state.Unissued runtime token)
    (revoked : now.db.refreshTokens =
      updateWhere matching RefreshTokenRow.revoke state.db.refreshTokens) :
    now.Unissued runtime token := by
  unfold State.Unissued
  rw [revoked]
  intro other member
  obtain ⟨old, stored, rfl⟩ := mem_updateWhere.mp member
  split
  · exact unused old stored
  · exact unused old stored

/-! ### The rotation -/

/-- The rotation hands over a session of the account that lasts until the deadline. -/
structure Rotated (runtime : Runtime) (user : UserRow) (row : RefreshTokenRow)
    (tokens : AuthTokens) (deadline : Timestamp) (now : State) : Prop where
  accessToken : tokens.accessToken.payload = ⟨user.id, user.email, some tokens.tokenType⟩
  tokenType : tokens.tokenType = AuthService.rotatedTokenType row user
  session : ∃ successor, OpenSession runtime now.db user tokens.refreshToken successor ∧
    successor.tokenType = some tokens.tokenType ∧ deadline ≤ successor.expiresAt

theorem Rotated.later {tokens : AuthTokens} {deadline : Timestamp} {now : State}
    (rotated : Rotated runtime user row tokens deadline state) (same : now.db = state.db) :
    Rotated runtime user row tokens deadline now :=
  ⟨rotated.accessToken, rotated.tokenType, same ▸ rotated.session⟩

theorem exchangeToken_returns (session : OpenSession runtime state.db user token row)
    (unused : state.Unissued runtime supply.token) (ipAddress userAgent : String) :
    (AuthService.exchangeToken runtime row user ipAddress userAgent).Returns (calm supply)
      (fun tokens now => Rotated runtime user row tokens
        (state.clock + AuthService.REFRESH_TOKEN_EXPIRY_MS) now) state := by
  unfold AuthService.exchangeToken AuthService.generateTokens
  refine (returns_execute fun _ => exists_runAll_cons (run_refreshTokenUpdate session.kept)
    ⟨_, rfl⟩).bind ?_
  rintro _ revoked ⟨db, ran, first⟩
  have carried := runAll_singleton ran
  have standing : Stands runtime revoked.db user := by
    rw [first.db]
    exact session.toStands.amended carried rfl trivial (by cases carried; rfl)
  have unissued : revoked.Unissued runtime supply.token := by
    refine unissued_updateWhere unused (?_ : _ = updateWhere (fun other => other.id == row.id) _ _)
    rw [first.db]
    cases carried
    rfl
  refine Returns.weaken (issue_returns standing unissued _ _ (fun _ => rfl) (fun _ => rfl)
    (fun _ => rfl) fun _ => rfl) ?_
  rintro tokens now ⟨stood, -, kind, live⟩
  obtain ⟨successor, found, owner, typed, unrevoked, lasts⟩ := (live.since first.clock).stored
  exact ⟨live.accessToken, kind, successor, ⟨stood, session.activated, found, owner, unrevoked⟩,
    typed, lasts⟩

/-- The token of an open session is rotated, unless it comes too late. -/
theorem rotateRefreshToken_guarantees (session : OpenSession runtime state.db user token row)
    (unused : state.Unissued runtime supply.token) {requireFullToken : Bool}
    (permitted : (requireFullToken && !user.isIdVerified) = false) (ipAddress userAgent : String) :
    (AuthService.rotateRefreshToken runtime (runtime.hash token) ipAddress userAgent
      requireFullToken).Guarantees (calm supply) (fun outcome now => now.clock ≤ row.expiresAt →
        ∃ tokens, outcome = .ok tokens ∧ Rotated runtime user row tokens
          (state.clock + AuthService.REFRESH_TOKEN_EXPIRY_MS) now) state := by
  unfold AuthService.rotateRefreshToken
  refine Guarantees.bind (returns_refreshTokenFindUnique _) ?_
  rintro _ looked ⟨rfl, first⟩
  rw [session.foundWithUser]
  dsimp only
  rw [session.unrevoked, if_neg Bool.false_ne_true]
  unfold AuthService.rotateLiveToken
  refine Guarantees.bind returns_now ?_
  rintro _ timed ⟨rfl, second⟩
  have meanwhile : Meanwhile state timed state.db state.outbox := first.wait second
  refine guarantees_throwIf_bind.mpr ⟨fun late inTime => ?_, fun _ => ?_⟩
  · exact absurd (of_decide_eq_true late) (Int.not_lt.mpr inTime)
  refine guarantees_passed (by rw [session.activated]; rfl) ?_
  refine guarantees_passed permitted ?_
  refine Guarantees.weaken (exchangeToken_returns (meanwhile.db ▸ session)
    (unused.later (by rw [meanwhile.db])) ipAddress userAgent) ?_
  rintro _ now ⟨tokens, rfl, kept, typed, successor, opened, same, lasts⟩ -
  exact ⟨tokens, rfl, kept, typed, successor, opened, same,
    (Int.add_le_add_right meanwhile.clock _).trans lasts⟩

/-- So it is by a flight that is not shared. -/
theorem sharedRotation_guarantees (session : OpenSession runtime state.db user token row)
    (unused : state.Unissued runtime supply.token) {process : Nat}
    (alone : state.NonePending ⟨process, runtime.hash token⟩) {requireFullToken : Bool}
    (permitted : (requireFullToken && !user.isIdVerified) = false) (ipAddress userAgent : String) :
    (AuthService.runSingleFlightRefresh ⟨process, runtime.hash token⟩
      (AuthService.rotateRefreshToken runtime (runtime.hash token) ipAddress userAgent
        requireFullToken)).Guarantees (calm supply) (fun outcome now => now.clock ≤ row.expiresAt →
          ∃ tokens, outcome = .ok tokens ∧ Rotated runtime user row tokens
            (state.clock + AuthService.REFRESH_TOKEN_EXPIRY_MS) now) state := by
  refine runSingleFlightRefresh_guarantees alone fun joined first => ?_
  refine (rotateRefreshToken_guarantees (first.db ▸ session) (unused.later (by rw [first.db]))
    permitted ipAddress userAgent).weaken ?_
  intro outcome landed ends later meanwhile inTime
  obtain ⟨tokens, rotated, kept, typed, successor, opened, same, lasts⟩ :=
    ends (meanwhile.clock.trans inTime)
  exact ⟨tokens, rotated, kept, typed, successor, meanwhile.db ▸ opened, same,
    (Int.add_le_add_right first.clock _).trans lasts⟩

/-- A session stays alive through so many refreshes: each that comes by the deadline hands over
the token for the next one, which has as long as the row of that token says, and this is another
thirty days. Its access token is a full one when the identity is verified. -/
def StaysAlive (runtime : Runtime) (user : UserRow) :
    Nat → RawToken → Timestamp → State → Prop
  | 0, _, _, _ => True
  | count + 1, token, deadline, state =>
    ∀ (supply : Supply) process ipAddress userAgent, state.Unissued runtime supply.token →
      state.NonePending ⟨process, runtime.hash token⟩ →
      (serve runtime (.refreshTokens process token ipAddress userAgent)).Guarantees (calm supply)
        (fun outcome now => now.clock ≤ deadline → ∃ tokens successor,
          outcome = .ok (.tokens tokens) ∧
          tokens.accessToken.payload = ⟨user.id, user.email, some tokens.tokenType⟩ ∧
          (user.isIdVerified = true → tokens.tokenType = .full) ∧
          now.db.findRefreshToken (runtime.hash tokens.refreshToken) = some successor ∧
          state.clock + AuthService.REFRESH_TOKEN_EXPIRY_MS ≤ successor.expiresAt ∧
          StaysAlive runtime user count tokens.refreshToken successor.expiresAt now) state

theorem rotatedTokenType_full (row : RefreshTokenRow) (proven : user.isIdVerified = true) :
    AuthService.rotatedTokenType row user = .full := by
  unfold AuthService.rotatedTokenType
  rw [proven]
  cases row.tokenType.getD .full <;> rfl

theorem OpenSession.staysAlive (session : OpenSession runtime state.db user token row)
    (count : Nat) : StaysAlive runtime user count token row.expiresAt state := by
  induction count generalizing state token row with
  | zero => trivial
  | succ count inductionHypothesis =>
    intro supply process ipAddress userAgent unused alone
    refine guarantees_serve rfl ?_
    unfold Request.handle AuthService.refreshTokens
    refine (guarantees_inTime (sharedRotation_guarantees session unused alone rfl ipAddress
      userAgent) fun tokens now later same rotated => rotated.later same).weaken ?_
    intro outcome now ends later meanwhile inTime
    obtain ⟨tokens, answered, kept, typed, successor, opened, -, extended⟩ :=
      ends later meanwhile inTime
    refine ⟨tokens, successor, answered, kept, fun proven => ?_, opened.found, extended,
      inductionHypothesis opened⟩
    exact typed.trans (rotatedTokenType_full row proven)

/-! ### The end -/

/-- A refresh and an upgrade with the token are refused. -/
structure RefusesToken (runtime : Runtime) (token : RawToken) (state : State) : Prop where
  refreshTokens : ∀ (supply : Supply) process ipAddress userAgent,
    state.NonePending ⟨process, runtime.hash token⟩ →
    (serve runtime (.refreshTokens process token ipAddress userAgent)).Guarantees (calm supply)
      (fun outcome _ => ∃ message, outcome = .error (UnauthorizedException message)) state
  upgradeSession : ∀ (supply : Supply) process ipAddress userAgent,
    state.NonePending ⟨process, runtime.hash token⟩ →
    (serve runtime (.upgradeSession process token ipAddress userAgent)).Guarantees (calm supply)
      (fun outcome _ => ∃ message, outcome = .error (UnauthorizedException message)) state

/-- Every session with the token has been revoked. -/
def Database.Ended (runtime : Runtime) (token : RawToken) (db : Database) : Prop :=
  ∀ row ∈ db.refreshTokens, row.tokenHash = runtime.hash token → row.revoked = true

/-- A token that has been revoked is refused, once the sessions of its account are ended. -/
theorem rejectRevoked_guarantees (userId : UserId) (ipAddress : String) :
    (AuthService.rejectRevoked userId ipAddress).Guarantees (calm supply) (fun outcome _ =>
      outcome = .error (UnauthorizedException "Refresh token has been revoked...")) state := by
  unfold AuthService.rejectRevoked AuthService.revokeAllUserTokens
  refine Guarantees.bind (returns_execute fun _ => ⟨_, rfl⟩) fun _ revoked _ => ?_
  exact Guarantees.bind (returns_securityEvent _ _ _) fun _ logged _ => rfl

theorem rotateRefreshToken_refused (ended : state.db.Ended runtime token)
    (ipAddress userAgent : String) (requireFullToken : Bool) :
    (AuthService.rotateRefreshToken runtime (runtime.hash token) ipAddress userAgent
      requireFullToken).Guarantees (calm supply) (fun outcome _ =>
        ∃ message, outcome = .error (UnauthorizedException message)) state := by
  unfold AuthService.rotateRefreshToken
  refine Guarantees.bind (returns_refreshTokenFindUnique _) ?_
  rintro _ looked ⟨rfl, -⟩
  cases found : state.db.findRefreshTokenWithUser (runtime.hash token) with
  | none => exact ⟨_, rfl⟩
  | some pair =>
    obtain ⟨stored, hashed, -⟩ := findRefreshTokenWithUser_some found
    dsimp only
    rw [if_pos (ended pair.1 stored hashed)]
    exact (rejectRevoked_guarantees _ ipAddress).weaken fun outcome _ refused => ⟨_, refused⟩

/-- So it is by a flight that is not shared. -/
theorem sharedRotation_refused (ended : state.db.Ended runtime token) {process : Nat}
    (alone : state.NonePending ⟨process, runtime.hash token⟩) (ipAddress userAgent : String)
    (requireFullToken : Bool) :
    (AuthService.runSingleFlightRefresh ⟨process, runtime.hash token⟩
      (AuthService.rotateRefreshToken runtime (runtime.hash token) ipAddress userAgent
        requireFullToken)).Guarantees (calm supply) (fun outcome _ =>
          ∃ message, outcome = .error (UnauthorizedException message)) state := by
  refine runSingleFlightRefresh_guarantees alone fun joined first => ?_
  have still : joined.db.Ended runtime token := first.db ▸ ended
  exact (rotateRefreshToken_refused still ipAddress userAgent requireFullToken).weaken
    fun outcome _ refused _ _ => refused

theorem Database.Ended.refusesToken (ended : state.db.Ended runtime token) :
    RefusesToken runtime token state := by
  refine ⟨fun supply process ipAddress userAgent alone => ?_,
    fun supply process ipAddress userAgent alone => ?_⟩
  · refine guarantees_serve rfl (guarantees_bind.mpr
      ((sharedRotation_refused ended alone ipAddress userAgent false).weaken ?_))
    rintro _ now ⟨message, rfl⟩
    exact fun _ _ => ⟨message, rfl⟩
  · refine guarantees_serve rfl (guarantees_bind.mpr (guarantees_bind.mpr
      ((sharedRotation_refused ended alone ipAddress userAgent true).weaken ?_)))
    rintro _ now ⟨message, rfl⟩
    exact fun _ _ => ⟨message, rfl⟩

/-- No session has been stored with the token. -/
def Unrenewed (runtime : Runtime) (token : RawToken) (history : List ServiceEntry) : Prop :=
  ∀ entry ∈ history, ∀ data, Statement.refreshTokenCreate data ∈ executed entry.event →
    data.tokenHash ≠ runtime.hash token

/-- The token is refused from now on: whatever calls come and run together, and whichever of their
effects fail, it is refused in every state that they lead to, unless it is drawn for a session once
more. -/
def EndsSession (runtime : Runtime) (token : RawToken) (state : State) : Prop :=
  ∀ pool : ServicePool, Reachable (service runtime) .free state pool →
    Unrenewed runtime token pool.world.history → RefusesToken runtime token pool.world.state

/-- A session that has ended stays so. -/
theorem performs_ended {next : State} {effect : Effect} {reply : Except Failure effect.Reply}
    (performs : environment.Performs state effect reply next)
    (unrenewed : ∀ data, Statement.refreshTokenCreate data ∈ executed ⟨effect, reply⟩ →
      data.tokenHash ≠ runtime.hash token)
    (ended : state.db.Ended runtime token) : next.db.Ended runtime token := by
  rcases performs_db performs with
    same | ⟨statements, event, ran⟩ | ⟨data, event, ran⟩ | ⟨log, same⟩
  · rw [same]
    exact ended
  · rw [event] at unrenewed
    refine runAll_preserves (Database.Ended runtime token) ran ?_ ended
    intro statement listed now later holds carried row member same
    rcases carried.refreshTokens member with ⟨old, stored, continues⟩ | ⟨data, rfl, rfl⟩
    · exact continues.revoked (holds old stored (continues.tokenHash.symm.trans same))
    · exact absurd same (unrenewed data listed)
  · obtain ⟨-, -, tokens, -⟩ := register_tables ran
    unfold Database.Ended
    rw [tokens]
    exact ended
  · rw [same]
    exact ended

theorem Database.Ended.endsSession (ended : state.db.Ended runtime token) :
    EndsSession runtime token state := by
  intro pool reachable unrenewed
  refine Database.Ended.refusesToken ?_
  have chronicle := reachable_chronicle (ledger runtime) reachable fun request _ =>
    serve_ledger runtime request
  refine chronicle.invariant (fun world => Unrenewed runtime token world.history →
    world.state.db.Ended runtime token) (fun _ => ended) ?_ unrenewed
  intro world entry _ kept admissible unrenewed
  have before := kept fun other member => unrenewed other (List.mem_cons_of_mem _ member)
  rw [← admissible.current] at before
  exact performs_ended admissible.performs (unrenewed entry List.mem_cons_self) before

/-- A revocation of tokens that the filter holds of ends their sessions. -/
theorem ended_of_revokeMany {filter : RefreshTokenWhere}
    (carried : Carried clock db (.refreshTokenUpdateMany filter) next)
    (holds : ∀ row ∈ db.refreshTokens, row.tokenHash = runtime.hash token → row.revoked = false →
      filter.holds row = true) : next.Ended runtime token := by
  cases carried
  intro row member same
  obtain ⟨old, stored, rfl⟩ := mem_updateWhere.mp member
  split
  · rfl
  · rename_i unheld
    rw [if_neg unheld] at same
    by_contra unrevoked
    exact unheld (holds old stored same (Bool.eq_false_of_not_eq_true unrevoked))

/-- A token has one row. -/
theorem Database.WellFormed.only (wellFormed : db.WellFormed)
    (found : db.findRefreshToken (runtime.hash token) = some row) {other : RefreshTokenRow}
    (stored : other ∈ db.refreshTokens) (same : other.tokenHash = runtime.hash token) :
    other = row := by
  have hashed : row.tokenHash = runtime.hash token := by simpa using List.find?_some found
  exact List.inj_on_of_nodup_map wellFormed.tokenHashes stored (List.mem_of_find?_eq_some found)
    (same.trans hashed.symm)

/-- A revocation of all that an account has ends each of its sessions. -/
theorem Database.WellFormed.ended_of_revokeAll (wellFormed : db.WellFormed) {userId : UserId}
    (carried : Carried clock db (.refreshTokenUpdateMany { userId := some userId }) next)
    (found : db.findRefreshToken (runtime.hash token) = some row) (owner : row.userId = userId) :
    next.Ended runtime token := by
  refine ended_of_revokeMany carried fun other stored hashed unrevoked => ?_
  rw [wellFormed.only found stored hashed] at unrevoked ⊢
  simp [RefreshTokenWhere.holds, columnHolds, owner, unrevoked]

/-- A logout with the token ends its session. -/
def LogoutEnds (runtime : Runtime) (user : UserRow) (token : RawToken) (state : State) : Prop :=
  ∀ (supply : Supply) (jwt : Jwt), jwt.payload.sub = user.id →
    jwt.payload.tokenType = some .full →
    (serve runtime (.logout jwt token)).Guarantees (calm supply) (fun outcome now =>
      (∃ result, outcome = .ok (.message result)) ∧ EndsSession runtime token now) state

/-- A logout from all devices ends every session of the account. -/
def LogoutAllEnds (runtime : Runtime) (user : UserRow) (state : State) : Prop :=
  ∀ (supply : Supply) (jwt : Jwt), jwt.payload.sub = user.id →
    jwt.payload.tokenType = some .full →
    (serve runtime (.logoutAllDevices jwt)).Guarantees (calm supply) (fun outcome now =>
      (∃ result, outcome = .ok (.message result)) ∧
      ∀ token row, state.db.findRefreshToken (runtime.hash token) = some row →
        row.userId = user.id → EndsSession runtime token now) state

theorem handleRequest_full {jwt : Jwt} (full : jwt.payload.tokenType = some .full)
    (metadata : Option RequiredType) :
    JwtAuthGuard.handleRequest metadata (.ok (user.authenticated jwt)) =
      .ok (user.authenticated jwt) := by
  have unlimited : (user.authenticated jwt).tokenType ≠ .limited := by
    rw [UserRow.authenticated, full]
    exact (by decide : TokenType.full ≠ .limited)
  unfold JwtAuthGuard.handleRequest
  dsimp only
  rw [if_neg unlimited, ite_self]

theorem logout_returns :
    (AuthService.logout runtime token).Returns (calm supply) (fun _ now =>
      now.db.Ended runtime token) state := by
  unfold AuthService.logout
  refine (returns_execute fun _ => ⟨_, rfl⟩).bind ?_
  rintro _ revoked ⟨db, ran, first⟩
  rw [← first.db] at ran
  refine returns_done (ended_of_revokeMany (runAll_singleton ran) fun row _ hashed unrevoked => ?_)
  simp [RefreshTokenWhere.holds, columnHolds, hashed, unrevoked]

theorem logoutAllDevices_returns (stands : Stands runtime state.db user) :
    (AuthService.logoutAllDevices user.id).Returns (calm supply) (fun _ now =>
      ∀ token row, state.db.findRefreshToken (runtime.hash token) = some row →
        row.userId = user.id → now.db.Ended runtime token) state := by
  unfold AuthService.logoutAllDevices AuthService.revokeAllUserTokens
  refine (returns_execute fun _ => ⟨_, rfl⟩).bind ?_
  rintro _ revoked ⟨db, ran, first⟩
  refine (returns_securityEvent _ _ _).bind ?_
  rintro _ logged ⟨last, ⟨log, rfl⟩, second⟩
  rw [← first.db] at ran
  refine returns_done fun token row found owner => ?_
  have ended : revoked.db.Ended runtime token :=
    stands.wellFormed.ended_of_revokeAll (runAll_singleton ran) found owner
  rw [second.db]
  exact ended

theorem OpenSession.logoutEnds (session : OpenSession runtime state.db user token row) :
    LogoutEnds runtime user token state := by
  intro supply jwt subject full
  refine guarantees_admitted rfl session.toStands session.activated subject
    (handleRequest_full full none) fun between _ => ?_
  refine Guarantees.bind logout_returns fun result now ended later meanwhile => ?_
  have there : later.db.Ended runtime token := meanwhile.db ▸ ended
  exact ⟨⟨result, rfl⟩, there.endsSession⟩

theorem Stands.logoutAllEnds (stands : Stands runtime state.db user)
    (active : user.isActive = true) : LogoutAllEnds runtime user state := by
  intro supply jwt subject full
  refine guarantees_admitted rfl stands active subject (handleRequest_full full none)
    fun between first => ?_
  have still : Stands runtime between.db user := first.db ▸ stands
  refine Guarantees.bind (logoutAllDevices_returns still) fun result now ended later meanwhile => ?_
  refine ⟨⟨result, rfl⟩, fun token row found owner => ?_⟩
  have there : later.db.Ended runtime token := by
    rw [meanwhile.db]
    exact ended token row (first.db ▸ found) owner
  exact there.endsSession

/-- An upgrade hands over a full session once the identity is verified, and leaves the session
alone until then. -/
def CanUpgrade (runtime : Runtime) (user : UserRow) (token : RawToken) (row : RefreshTokenRow)
    (state : State) : Prop :=
  ∀ (supply : Supply) process ipAddress userAgent, state.Unissued runtime supply.token →
    state.NonePending ⟨process, runtime.hash token⟩ →
    (serve runtime (.upgradeSession process token ipAddress userAgent)).Guarantees (calm supply)
      (fun outcome now => now.clock ≤ row.expiresAt →
        (user.isIdVerified = true → ∃ tokens, outcome = .ok (.tokens tokens) ∧
          tokens.tokenType = .full ∧ Enters runtime user tokens.accessToken now) ∧
        (user.isIdVerified = false → outcome = .error (ForbiddenException
          "Identity verification is required before this session can be upgraded.") ∧
          OpenSession runtime now.db user token row)) state

/-- Without a verified identity the rotation that asks for a full token is denied. -/
theorem sharedRotation_denied (session : OpenSession runtime state.db user token row)
    {process : Nat} (alone : state.NonePending ⟨process, runtime.hash token⟩)
    (unproven : user.isIdVerified = false) (ipAddress userAgent : String) :
    (AuthService.runSingleFlightRefresh ⟨process, runtime.hash token⟩
      (AuthService.rotateRefreshToken runtime (runtime.hash token) ipAddress userAgent
        true)).Guarantees (calm supply) (fun outcome now => now.clock ≤ row.expiresAt →
          outcome = .error (ForbiddenException
            "Identity verification is required before this session can be upgraded.") ∧
            now.db = state.db) state := by
  refine runSingleFlightRefresh_guarantees alone fun joined first => ?_
  unfold AuthService.rotateRefreshToken
  refine Guarantees.bind (returns_refreshTokenFindUnique _) ?_
  rintro _ looked ⟨rfl, second⟩
  rw [first.db, session.foundWithUser]
  dsimp only
  rw [session.unrevoked, if_neg Bool.false_ne_true]
  unfold AuthService.rotateLiveToken
  refine Guarantees.bind returns_now ?_
  rintro _ timed ⟨rfl, third⟩
  refine guarantees_throwIf_bind.mpr ⟨fun late later meanwhile inTime => ?_, fun _ => ?_⟩
  · exact absurd (of_decide_eq_true late) (Int.not_lt.mpr (meanwhile.clock.trans inTime))
  refine guarantees_passed (by rw [session.activated]; rfl) ?_
  refine guarantees_throwIf_bind.mpr ⟨fun _ later meanwhile _ => ⟨rfl, ?_⟩, fun allowed => ?_⟩
  · exact meanwhile.db.trans ((first.wait second).wait third).db
  · rw [unproven] at allowed
    cases allowed

theorem OpenSession.canUpgrade (session : OpenSession runtime state.db user token row) :
    CanUpgrade runtime user token row state := by
  intro supply process ipAddress userAgent unused alone
  refine guarantees_serve rfl ?_
  unfold Request.handle AuthService.upgradeSession
  by_cases proven : user.isIdVerified = true
  · refine guarantees_bind.mpr (guarantees_bind.mpr ((sharedRotation_guarantees session unused alone
      (by rw [proven]; rfl) ipAddress userAgent).weaken ?_))
    intro outcome now ends
    cases outcome with
    | error failure =>
      intro later meanwhile inTime
      obtain ⟨_, impossible, -⟩ := ends (meanwhile.clock.trans inTime)
      cases impossible
    | ok tokens =>
      have full : now.clock ≤ row.expiresAt → tokens.tokenType = .full ∧
          Rotated runtime user row tokens (state.clock + AuthService.REFRESH_TOKEN_EXPIRY_MS)
            now := by
        intro inTime
        obtain ⟨_, same, rotated⟩ := ends inTime
        cases same
        exact ⟨rotated.tokenType.trans (rotatedTokenType_full row proven), rotated⟩
      rw [ofOutcome_ok, done_bind]
      refine guarantees_throwIf_bind.mpr ⟨fun limited later meanwhile inTime => ?_,
        fun _ later meanwhile inTime => ⟨fun _ => ⟨tokens, rfl, ?_⟩, fun unproven => ?_⟩⟩
      · rw [(full (meanwhile.clock.trans inTime)).1] at limited
        cases limited
      · obtain ⟨kind, rotated⟩ := full (meanwhile.clock.trans inTime)
        obtain ⟨successor, opened, -⟩ := (rotated.later meanwhile.db).session
        refine ⟨kind, opened.toStands.enters session.activated ?_ ?_⟩
        · rw [rotated.accessToken]
        · rw [rotated.accessToken, kind]
      · cases proven.symm.trans unproven
  · have unproven : user.isIdVerified = false := Bool.eq_false_of_not_eq_true proven
    refine guarantees_bind.mpr (guarantees_bind.mpr
      ((sharedRotation_denied session alone unproven ipAddress userAgent).weaken ?_))
    intro outcome now ends
    cases outcome with
    | error failure =>
      intro later meanwhile inTime
      obtain ⟨denied, same⟩ := ends (meanwhile.clock.trans inTime)
      have still : OpenSession runtime later.db user token row :=
        (meanwhile.db.trans same).symm ▸ session
      exact ⟨fun impossible => absurd impossible proven,
        fun _ => ⟨congrArg _ (Except.error.inj denied), still⟩⟩
    | ok tokens =>
      rw [ofOutcome_ok, done_bind]
      refine guarantees_throwIf_bind.mpr ⟨fun _ later meanwhile inTime => ?_,
        fun _ later meanwhile inTime => ?_⟩
      · cases (ends (meanwhile.clock.trans inTime)).1
      · cases (ends (meanwhile.clock.trans inTime)).1

/-- **A session lasts until it is ended.** In every state that the service reaches, a session that
is open can be kept alive for any number of refreshes, each within the lifetime of the last; it
becomes a full one once the identity is verified, by a refresh or an upgrade; and a logout with
its token or from all devices ends it. -/
theorem session_lasts_until_ended (works : runtime.Works) {pool : ServicePool}
    (reachable : Reachable (service runtime) .free (State.empty clock) pool)
    (stored : user ∈ pool.world.state.db.users) (active : user.isActive = true)
    (found : pool.world.state.db.findRefreshToken (runtime.hash token) = some row)
    (owner : row.userId = user.id) (unrevoked : row.revoked = false) :
    (∀ count, StaysAlive runtime user count token row.expiresAt pool.world.state) ∧
      CanUpgrade runtime user token row pool.world.state ∧
      LogoutEnds runtime user token pool.world.state ∧
      LogoutAllEnds runtime user pool.world.state := by
  have session : OpenSession runtime pool.world.state.db user token row :=
    ⟨⟨reachable_settled works reachable, stored⟩, active, found, owner, unrevoked⟩
  exact ⟨session.staysAlive, session.canUpgrade, session.logoutEnds,
    session.toStands.logoutAllEnds active⟩

/-- The session of the foreigner who has logged in. -/
theorem session_lasts_until_ended_signedIn :
    ∃ user row, (played .lax signedIn).world.state.db.findRefreshToken "#r1" = some row ∧
      (∀ count, StaysAlive legibleRuntime user count "r1" row.expiresAt
        (played .lax signedIn).world.state) ∧
      CanUpgrade legibleRuntime user "r1" row (played .lax signedIn).world.state ∧
      LogoutEnds legibleRuntime user "r1" (played .lax signedIn).world.state ∧
      LogoutAllEnds legibleRuntime user (played .lax signedIn).world.state := by
  obtain ⟨user, stored, row, -, found, active, owner, unrevoked⟩ :
      ∃ user ∈ (played .lax signedIn).world.state.db.users,
        ∃ row ∈ (played .lax signedIn).world.state.db.refreshTokens,
          (played .lax signedIn).world.state.db.findRefreshToken "#r1" = some row ∧
            user.isActive = true ∧ row.userId = user.id ∧ row.revoked = false := by
    decide +kernel
  exact ⟨user, row, found, session_lasts_until_ended legibleRuntime_works
    (played_reachable Referee.lax_upholds signedIn) stored active found owner unrevoked⟩

end GraconAuth
