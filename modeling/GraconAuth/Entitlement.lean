/-
This file says what lets a call at an account. A guarded call acts for the subject of
its access token. The others have to name something of the account first: its
address with the password, a stored refresh token, the token of a mailed link. Every
statement that a call carries out and every token that it signs is for an account
that the call is entitled to by then.
-/

import GraconAuth.Footprints

namespace GraconAuth

open Interleaving Program

variable (runtime : Runtime)

/-! ### The entitlement -/

/-- The call has read the account under an id. -/
def ReadById (past : List ServiceEvent) (userId : UserId) (record : UserRecord) : Prop :=
  ⟨.userFindUnique (.byId userId), .ok (some record)⟩ ∈ past

/-- The call has read the account under an address. -/
def ReadByEmail (past : List ServiceEvent) (email : Email) (record : UserRecord) : Prop :=
  ⟨.userFindUnique (.byEmail email), .ok (some record)⟩ ∈ past

/-- The call has read the stored token, with its user, that a hash leads to. -/
def ReadToken (past : List ServiceEvent) (tokenHash : TokenHash) (storedToken : RefreshTokenRow)
    (user : UserRow) : Prop :=
  ⟨.refreshTokenFindUnique tokenHash, .ok (some (storedToken, user))⟩ ∈ past

/-- The call has read the verification token of an account. -/
def ReadLink (past : List ServiceEvent) (userId : UserId) (tokenRecord : EmailVerificationTokenRow)
    (record : UserRecord) : Prop :=
  ⟨.emailVerificationTokenFindUnique userId, .ok (some (tokenRecord, record))⟩ ∈ past

/-- The call has read the reset token of an account that a hash leads to. -/
def ReadReset (past : List ServiceEvent) (userId : UserId) (tokenHash : TokenHash)
    (row : PasswordResetTokenRow) : Prop :=
  ⟨.passwordResetTokenFindFirst userId tokenHash, .ok (some row)⟩ ∈ past

/-- By the clock that the call has read an instant has not passed. -/
def InTime (past : List ServiceEvent) (expiresAt : Timestamp) : Prop :=
  ∃ now, ⟨.now, .ok now⟩ ∈ past ∧ now ≤ expiresAt

/-- What a call has done by the time it acts for an account. -/
def EntitledTo (past : List ServiceEvent) (userId : UserId) : Request → Prop
  | .verifyEmail dto => userId = dto.userId ∧ ∃ tokenRecord record,
    ReadLink past dto.userId tokenRecord record ∧ record.user.isVerified = false ∧
      tokenRecord.used = false ∧ InTime past tokenRecord.expiresAt ∧
      tokenRecord.tokenHash = runtime.hash dto.token
  | .resendVerificationEmail dto => ∃ filter ∈ dto.lookup, ∃ record,
    ⟨.userFindUnique filter, .ok (some record)⟩ ∈ past ∧ record.user.id = userId ∧
      record.user.isVerified = false
  | .login dto _ _ => ∃ record, ReadByEmail past dto.email record ∧ record.user.id = userId ∧
    runtime.bcryptCompare dto.password record.user.passwordHash = true ∧
      record.user.isVerified = true ∧ record.user.isActive = true
  | .refreshTokens _ refreshToken _ _ | .upgradeSession _ refreshToken _ _ =>
    ∃ storedToken user, ReadToken past (runtime.hash refreshToken) storedToken user ∧
      user.id = userId
  | .requestReset email => ∃ record, ReadByEmail past email record ∧ record.user.id = userId ∧
    record.user.isActive = true
  | .resetPassword dto => userId = dto.userId ∧ ∃ row,
    ReadReset past dto.userId (runtime.hash dto.token) row ∧ row.used = false ∧
      InTime past row.expiresAt
  | .logoutAllDevices jwt => userId = jwt.payload.sub
  | .updateProfile jwt _ | .submitVerification jwt _ _ =>
    userId = jwt.payload.sub ∧ ∃ record, ReadById past userId record
  | .changePassword jwt dto => userId = jwt.payload.sub ∧ ∃ record, ReadById past userId record ∧
    runtime.bcryptCompare dto.currentPassword record.user.passwordHash = true
  | _ => False

/-- The account that a statement is for, as far as its call knows, is one that the call is
entitled to. -/
def backs (request : Request) (past : List ServiceEvent) : Statement → Prop
  | .userUpdate userId _ => EntitledTo runtime past userId request
  | .refreshTokenUpdate id => ∃ tokenHash storedToken user,
    ReadToken past tokenHash storedToken user ∧ storedToken.id = id ∧
      storedToken.revoked = false ∧ InTime past storedToken.expiresAt ∧ user.isActive = true ∧
      EntitledTo runtime past storedToken.userId request
  | .refreshTokenUpdateMany filter =>
    (∃ userId, filter.userId = some userId ∧ EntitledTo runtime past userId request) ∨
      ∃ jwt refreshToken, request = .logout jwt refreshToken ∧
        filter = { tokenHash := some (runtime.hash refreshToken) }
  | .refreshTokenCreate data => EntitledTo runtime past data.userId request
  | .refreshTokenDeleteMany now => request = .cleanupExpiredTokens ∧ ⟨.now, .ok now⟩ ∈ past
  | .emailVerificationTokenUpdate id => ∃ userId tokenRecord record,
    ReadLink past userId tokenRecord record ∧ tokenRecord.id = id ∧
      EntitledTo runtime past tokenRecord.userId request
  | .emailVerificationTokenUpsert userId _ _ _ => EntitledTo runtime past userId request
  | .passwordResetTokenUpdateMany userId => EntitledTo runtime past userId request
  | .passwordResetTokenCreate data => EntitledTo runtime past data.userId request
  | .passwordResetTokenUpdate id => ∃ userId tokenHash row, ReadReset past userId tokenHash row ∧
    row.id = id ∧ EntitledTo runtime past row.userId request
  | .idVerificationCreate data => EntitledTo runtime past data.userId request

/-- A call writes and signs only for accounts that it is entitled to. -/
def entitling (request : Request) (past : List ServiceEvent) : Effect → Prop
  | .execute statements => ∀ statement ∈ statements, backs runtime request past statement
  | .sign payload _ => EntitledTo runtime past payload.sub request
  | _ => True

theorem harmless_entitling {request : Request} (past : List ServiceEvent) (effect : Effect)
    (harmless : effect.Harmless) : entitling runtime request past effect := by
  cases effect with
  | execute statements => exact harmless.elim
  | sign payload expiresIn => exact harmless.elim
  | _ => trivial

theorem InTime.mono {past now : List ServiceEvent} {expiresAt : Timestamp}
    (inTime : InTime past expiresAt) (grown : past ⊆ now) : InTime now expiresAt := by
  obtain ⟨instant, read, early⟩ := inTime
  exact ⟨instant, grown read, early⟩

/-- What a call has become entitled to it stays entitled to. -/
theorem EntitledTo.mono {runtime : Runtime} {request : Request} {past now : List ServiceEvent}
    {userId : UserId} (entitled : EntitledTo runtime past userId request) (grown : past ⊆ now) :
    EntitledTo runtime now userId request := by
  cases request with
  | verifyEmail dto =>
    obtain ⟨owner, tokenRecord, record, read, unverified, unused, inTime, same⟩ := entitled
    exact ⟨owner, tokenRecord, record, grown read, unverified, unused, inTime.mono grown, same⟩
  | resendVerificationEmail dto =>
    obtain ⟨filter, lookup, record, read, owner, unverified⟩ := entitled
    exact ⟨filter, lookup, record, grown read, owner, unverified⟩
  | login dto ipAddress userAgent =>
    obtain ⟨record, read, rest⟩ := entitled
    exact ⟨record, grown read, rest⟩
  | refreshTokens process refreshToken ipAddress userAgent
  | upgradeSession process refreshToken ipAddress userAgent =>
    obtain ⟨storedToken, user, read, owner⟩ := entitled
    exact ⟨storedToken, user, grown read, owner⟩
  | requestReset email =>
    obtain ⟨record, read, rest⟩ := entitled
    exact ⟨record, grown read, rest⟩
  | resetPassword dto =>
    obtain ⟨owner, row, read, unused, inTime⟩ := entitled
    exact ⟨owner, row, grown read, unused, inTime.mono grown⟩
  | logoutAllDevices jwt => exact entitled
  | updateProfile jwt dto | submitVerification jwt dto ipAddress =>
    obtain ⟨owner, record, read⟩ := entitled
    exact ⟨owner, record, grown read⟩
  | changePassword jwt dto =>
    obtain ⟨owner, record, read, matching⟩ := entitled
    exact ⟨owner, record, grown read, matching⟩
  | _ => exact entitled.elim

theorem EntitledTo.cons {runtime : Runtime} {request : Request} {past : List ServiceEvent}
    {userId : UserId} (entitled : EntitledTo runtime past userId request) (event : ServiceEvent) :
    EntitledTo runtime (event :: past) userId request :=
  entitled.mono (List.subset_cons_self _ _)

theorem EntitledTo.extends {runtime : Runtime} {request : Request} {past now : List ServiceEvent}
    {userId : UserId} (entitled : EntitledTo runtime past userId request) {allowed : Effect → Prop}
    (grown : Extends allowed past now) : EntitledTo runtime now userId request :=
  entitled.mono fun _ => grown.mem

/-! ### The calls -/

section Traversal

variable {request : Request} {past : List ServiceEvent}

theorem generateTokens_entitling {userId : UserId} (email : Email) (ipAddress userAgent : String)
    (tokenType : TokenType) (entitled : EntitledTo runtime past userId request) :
    (AuthService.generateTokens runtime userId email ipAddress userAgent tokenType).Abides
      (conduct (entitling runtime request)) past := by
  refine abides_perform_bind entitled fun accessToken _ => abides_perform_bind trivial
    fun token _ => abides_perform_bind trivial fun now _ => abides_perform_bind ?_ fun _ _ =>
      trivial
  exact List.forall_mem_singleton.mpr (((entitled.cons _).cons _).cons _)

theorem replaceVerificationToken_entitling {userId : UserId} (recipient : Email)
    (identity : Option CitizenIdentityRow) (entitled : EntitledTo runtime past userId request) :
    (UsersService.replaceVerificationToken runtime userId recipient identity).Abides
      (conduct (entitling runtime request)) past := by
  refine abides_perform_bind trivial fun token _ => abides_perform_bind trivial fun now _ =>
    abides_perform_bind ?_ fun _ _ => ?_
  · exact List.forall_mem_singleton.mpr ((entitled.cons _).cons _)
  · exact abides_rescue (abides_perform trivial) fun _ _ => trivial

/-- A registration writes the new account in its one transaction. -/
theorem register_entitling (dto : UsersService.RegisterDto) :
    (UsersService.register runtime dto).Abides (conduct (entitling runtime (.register dto)))
      past := by
  have harmless : ∀ past effect, effect.Harmless →
      entitling runtime (.register dto) past effect := harmless_entitling runtime
  refine (assertExclusiveIdentityInput_uses dto).abides_bind harmless fun _ _ _ =>
    (resolveRegistrationIdentity_uses dto).abides_bind harmless fun _ identity _ =>
    abides_perform_bind trivial fun _ _ => abides_throwIf_bind fun _ =>
    abides_perform_bind trivial fun _ _ => abides_throwIf_bind fun _ =>
    (bcryptHash_uses runtime _).abides_bind harmless fun _ _ _ =>
    (encrypt_uses runtime _).abides_bind harmless fun _ _ _ =>
    (generate_uses runtime _).abides_bind harmless fun _ _ _ =>
    (encrypt_uses runtime _).abides_bind harmless fun _ _ _ =>
    abides_perform_bind trivial fun _ _ => abides_perform_bind trivial fun _ _ =>
    abides_rescue_perform_bind trivial (fun _ => ?_) fun _ => trivial
  exact Abides.bind (abides_rescue (abides_perform trivial) fun _ _ => trivial) fun _ _ => trivial

theorem login_entitling (dto : AuthService.LoginDto) (ipAddress userAgent : String) :
    (AuthService.login runtime dto ipAddress userAgent).Abides
      (conduct (entitling runtime (.login dto ipAddress userAgent))) past := by
  refine abides_perform_bind trivial fun user _ => ?_
  split
  · exact abides_perform_bind trivial fun _ _ => trivial
  · rename_i record matched
    obtain ⟨rfl, valid⟩ := Option.filter_eq_some_iff.mp matched
    refine abides_perform_bind trivial fun _ _ => abides_throwIf_bind fun verified =>
      abides_throwIf_bind fun active => Abides.bind (generateTokens_entitling runtime _ _ _ _ ?_)
        fun now _ => ?_
    · exact ⟨record, List.mem_cons_of_mem _ List.mem_cons_self, rfl, valid,
        by simpa using verified, by simpa using active⟩
    · exact (buildSafeProfile_uses runtime record).abides_bind (harmless_entitling runtime)
        fun _ _ _ => trivial

theorem verifyEmail_entitling (dto : UsersService.VerifyEmailDto) :
    (UsersService.verifyEmail runtime dto).Abides
      (conduct (entitling runtime (.verifyEmail dto))) past := by
  refine abides_perform_bind trivial fun found expected => ?_
  match found with
  | none => trivial
  | some (tokenRecord, record) =>
    dsimp only
    split
    · trivial
    · rename_i unverified
      refine abides_throwIf_bind fun unused => abides_perform_bind trivial fun now _ =>
        abides_throwIf_bind fun early => abides_throwIf_bind fun matched => ?_
      have entitled : EntitledTo runtime (⟨.now, .ok now⟩ ::
          ⟨.emailVerificationTokenFindUnique dto.userId, .ok (some (tokenRecord, record))⟩ :: past)
          dto.userId (.verifyEmail dto) :=
        ⟨rfl, tokenRecord, record, List.mem_cons_of_mem _ List.mem_cons_self,
          by simpa using unverified, unused, ⟨now, List.mem_cons_self, by simpa using early⟩,
          Eq.symm (by simpa [EncryptionService.compareHash] using matched)⟩
      refine abides_perform_bind (List.forall_mem_cons.mpr ⟨entitled,
        List.forall_mem_singleton.mpr ⟨dto.userId, tokenRecord, record,
          List.mem_cons_of_mem _ List.mem_cons_self, rfl, expected.1 ▸ entitled⟩⟩) fun _ _ => ?_
      refine (decryptPid_uses runtime record).abides_bind (harmless_entitling runtime)
        fun later rawPid grown => (sendWelcomeEmail_uses _ _ _ _).abides_bind
          (harmless_entitling runtime) fun last _ grownToo => ?_
      split
      · trivial
      · have entitled := ((entitled.cons ⟨.execute _, .ok ()⟩).extends grown).extends grownToo
        refine Abides.bind (abides_perform_bind ?_ fun _ _ => abides_perform_bind trivial
          fun _ _ => abides_perform_bind trivial fun _ _ => abides_perform_bind ?_
            fun _ _ => trivial) fun _ _ => ?_
        · exact expected.2 ▸ entitled
        · exact List.forall_mem_singleton.mpr
            (expected.2 ▸ ((entitled.cons _).cons _).cons _)
        · exact (buildVerificationSessionProfile_uses runtime record).abides_bind
            (harmless_entitling runtime) fun _ _ _ => trivial

theorem resendVerificationEmail_entitling (dto : UsersService.ResendVerificationDto) :
    (UsersService.resendVerificationEmail runtime dto).Abides
      (conduct (entitling runtime (.resendVerificationEmail dto))) past := by
  unfold UsersService.resendVerificationEmail
  split
  · trivial
  · rename_i filter lookup
    refine abides_perform_bind trivial fun user _ => ?_
    cases user with
    | none => trivial
    | some record =>
      dsimp only
      split
      · trivial
      · rename_i unverified
        refine abides_perform_bind trivial fun _ _ => abides_perform_bind trivial fun _ _ => ?_
        split
        · trivial
        · refine Abides.bind (replaceVerificationToken_entitling runtime _ _ ?_) fun _ _ => trivial
          exact ⟨filter, lookup, record, List.mem_cons_of_mem _ (List.mem_cons_of_mem _
            List.mem_cons_self), rfl, by simpa using unverified⟩

/-- A rotation acts for the owner of the token that was presented. -/
theorem rotateRefreshToken_entitling {refreshToken : RawToken} (ipAddress userAgent : String)
    (requireFullToken : Bool)
    (presents : ∀ now userId storedToken user,
      ReadToken now (runtime.hash refreshToken) storedToken user → user.id = userId →
        EntitledTo runtime now userId request) :
    (AuthService.rotateRefreshToken runtime (runtime.hash refreshToken) ipAddress userAgent
      requireFullToken).Abides (conduct (entitling runtime request)) past := by
  refine abides_perform_bind trivial fun found expected => ?_
  match found with
  | none => trivial
  | some (storedToken, user) =>
    have entitled : EntitledTo runtime (⟨.refreshTokenFindUnique (runtime.hash refreshToken),
        .ok (some (storedToken, user))⟩ :: past) user.id request :=
      presents _ _ storedToken user List.mem_cons_self rfl
    dsimp only
    split
    · refine abides_perform_bind (List.forall_mem_singleton.mpr (.inl ⟨_, rfl, ?_⟩))
        fun _ _ => abides_perform_bind trivial fun _ _ => trivial
      exact expected.2 ▸ entitled
    · rename_i live
      refine abides_perform_bind trivial fun now _ => abides_throwIf_bind fun early =>
        abides_throwIf_bind fun active => abides_throwIf_bind fun _ =>
        abides_perform_bind (List.forall_mem_singleton.mpr ?_) fun _ _ =>
          generateTokens_entitling runtime _ _ _ _ ((entitled.cons _).cons _)
      exact ⟨_, storedToken, user, List.mem_cons_of_mem _ List.mem_cons_self, rfl,
        by simpa using live, ⟨now, List.mem_cons_self, by simpa using early⟩,
        by simpa using active, expected.2 ▸ entitled.cons _⟩

theorem runSingleFlightRefresh_entitling {key : FlightKey} {task : Async AuthTokens}
    (inner : ∀ now, task.Abides (conduct (entitling runtime request)) now) :
    (AuthService.runSingleFlightRefresh key task).Abides (conduct (entitling runtime request))
      past := by
  refine abides_perform_bind trivial fun role _ => ?_
  cases role with
  | follower flight => exact abides_perform trivial
  | leader flight =>
    exact Abides.bind (inner _).attempt fun _ outcome => abides_perform_bind trivial fun _ _ =>
      follows_ofOutcome.mpr trivial

theorem requestReset_entitling (email : Email) :
    (PasswordResetService.requestReset runtime email).Abides
      (conduct (entitling runtime (.requestReset email))) past := by
  refine abides_perform_bind trivial fun user _ => ?_
  split
  · exact (bcryptHash_uses runtime email).abides_bind (harmless_entitling runtime)
      fun _ _ _ => trivial
  · rename_i record matched
    obtain ⟨rfl, active⟩ := Option.filter_eq_some_iff.mp matched
    have entitled : EntitledTo runtime (⟨.userFindUnique (.byEmail email), .ok (some record)⟩ ::
        past) record.user.id (.requestReset email) :=
      ⟨record, List.mem_cons_self, rfl, active⟩
    refine abides_perform_bind (List.forall_mem_singleton.mpr entitled) fun _ _ =>
      abides_perform_bind trivial fun _ _ => abides_perform_bind trivial fun _ _ => ?_
    refine abides_rescue_perform_bind (List.forall_mem_singleton.mpr
      (((entitled.cons _).cons _).cons _)) (fun _ => ?_) fun _ => trivial
    exact (sendPasswordResetEmail_uses _ _ _ _ _).abides_bind (harmless_entitling runtime)
      fun _ _ _ => abides_perform_bind trivial fun _ _ => trivial

theorem resetPassword_entitling (dto : PasswordResetService.ResetPasswordDto) :
    (PasswordResetService.resetPassword runtime dto).Abides
      (conduct (entitling runtime (.resetPassword dto))) past := by
  refine abides_throwIf_bind fun _ => Follows.bind (?_ : Follows _ (fun now outcome => ∀ tokenId,
    outcome = .ok (.ok tokenId) → ∃ row, ReadReset now dto.userId (runtime.hash dto.token) row ∧
      row.id = tokenId ∧ row.userId = dto.userId ∧ row.used = false ∧ InTime now row.expiresAt)
    _ _) (fun now tokenLookup valid => ?_) fun _ _ _ => trivial
  · refine follows_perform_bind.mpr ⟨trivial, fun found expected => ?_, fun _ _ => nofun⟩
    match found with
    | none => exact nofun
    | some record =>
      dsimp only
      split
      · exact nofun
      · rename_i unused
        refine follows_perform_bind.mpr ⟨trivial, fun now _ => ?_, fun _ _ => nofun⟩
        split
        · exact nofun
        · rename_i early
          rintro tokenId ⟨⟩
          exact ⟨record, List.mem_cons_of_mem _ List.mem_cons_self, rfl, expected.1,
            by simpa using unused, now, List.mem_cons_self, by simpa using early⟩
  · cases tokenLookup with
    | error reason => trivial
    | ok tokenId =>
      obtain ⟨row, read, same, owner, unused, inTime⟩ := valid tokenId rfl
      have entitled : EntitledTo runtime now dto.userId (.resetPassword dto) :=
        ⟨rfl, row, read, unused, inTime⟩
      refine (bcryptHash_uses runtime _).abides_bind (harmless_entitling runtime)
        fun later _ grown => abides_perform_bind ?_ fun _ _ => abides_perform_bind trivial
          fun _ _ => trivial
      refine List.forall_mem_cons.mpr ⟨entitled.extends grown, List.forall_mem_cons.mpr
        ⟨⟨_, _, row, grown.mem read, same, ?_⟩, List.forall_mem_singleton.mpr
          (.inl ⟨_, rfl, entitled.extends grown⟩)⟩⟩
      exact owner ▸ entitled.extends grown

theorem updateProfile_entitling (jwt : Jwt) (dto : UsersService.UpdateProfileDto) :
    (UsersService.updateProfile runtime jwt.payload.sub dto).Abides
      (conduct (entitling runtime (.updateProfile jwt dto))) past := by
  refine abides_perform_bind trivial fun user _ => ?_
  cases user with
  | none => trivial
  | some record =>
    have entitled : EntitledTo runtime
        (⟨.userFindUnique (.byId jwt.payload.sub), .ok (some record)⟩ :: past) jwt.payload.sub
        (.updateProfile jwt dto) := ⟨rfl, record, List.mem_cons_self⟩
    dsimp only
    split
    · exact abides_perform_bind (List.forall_mem_singleton.mpr entitled) fun _ _ =>
        (getProfile_uses runtime _).abides (harmless_entitling runtime)
    · refine (rejectTakenEmail_uses _ _).abides_bind (harmless_entitling runtime)
        fun now _ grown => abides_perform_bind
          (List.forall_mem_singleton.mpr (entitled.extends grown)) fun _ _ => Abides.bind
            (replaceVerificationToken_entitling runtime _ _ ((entitled.extends grown).cons _))
              fun _ _ => (getProfile_uses runtime _).abides (harmless_entitling runtime)

theorem changePassword_entitling (jwt : Jwt) (dto : UsersService.ChangePasswordDto) :
    (UsersService.changePassword runtime jwt.payload.sub dto).Abides
      (conduct (entitling runtime (.changePassword jwt dto))) past := by
  refine abides_throwIf_bind fun _ => abides_perform_bind trivial fun user _ => ?_
  cases user with
  | none => trivial
  | some record =>
    refine abides_throwIf_bind fun matched => abides_throwIf_bind fun _ =>
      abides_perform_bind trivial fun _ _ => (bcryptHash_uses runtime _).abides_bind
        (harmless_entitling runtime) fun now _ grown => abides_perform_bind ?_ fun _ _ => trivial
    have entitled : EntitledTo runtime now jwt.payload.sub (.changePassword jwt dto) :=
      ⟨rfl, record, grown.mem (List.mem_cons_of_mem _ List.mem_cons_self),
        by simpa using matched⟩
    exact List.forall_mem_cons.mpr ⟨entitled, List.forall_mem_singleton.mpr
      (.inl ⟨_, rfl, entitled⟩)⟩

theorem upgradeToken_entitling {userId : UserId} (ipAddress userAgent : String)
    (entitled : EntitledTo runtime past userId request) :
    (AuthService.upgradeToken runtime userId ipAddress userAgent).Abides
      (conduct (entitling runtime request)) past := by
  refine abides_perform_bind (List.forall_mem_singleton.mpr (.inl ⟨_, rfl, entitled⟩))
    fun _ _ => abides_perform_bind trivial fun user expected => ?_
  cases user with
  | none => trivial
  | some record =>
    refine generateTokens_entitling runtime _ _ _ _ ?_
    rw [show record.user.id = userId from expected]
    exact (entitled.cons _).cons _

theorem submitVerification_entitling (jwt : Jwt) (dto : VerificationService.SubmitVerificationDto)
    (ipAddress : String) :
    (VerificationService.submitVerification runtime jwt.payload.sub dto ipAddress).Abides
      (conduct (entitling runtime (.submitVerification jwt dto ipAddress))) past := by
  have window : ∀ (now : List ServiceEvent) (effect : Effect),
      (effect.Harmless ∨ ∃ userId since, effect = .idVerificationFindMany userId since) →
        entitling runtime (.submitVerification jwt dto ipAddress) now effect := by
    rintro now effect (harmless | ⟨_, _, rfl⟩)
    · exact harmless_entitling runtime now effect harmless
    · trivial
  refine abides_perform_bind trivial fun user _ => ?_
  cases user with
  | none => trivial
  | some record =>
    have entitled : EntitledTo runtime
        (⟨.userFindUnique (.byId jwt.payload.sub), .ok (some record)⟩ :: past) jwt.payload.sub
        (.submitVerification jwt dto ipAddress) := ⟨rfl, record, List.mem_cons_self⟩
    have records : ∀ (data : IdVerificationCreate) (now : List ServiceEvent),
        EntitledTo runtime now data.userId (.submitVerification jwt dto ipAddress) →
          (VerificationService.recordAttempt data).Abides
            (conduct (entitling runtime (.submitVerification jwt dto ipAddress))) now :=
      fun data now entitled => abides_rescue
        (abides_perform (List.forall_mem_singleton.mpr entitled)) fun _ _ => trivial
    refine abides_throwIf_bind fun _ => abides_throwIf_bind fun _ => abides_throwIf_bind fun _ =>
      (enforceAttemptLimit_uses runtime jwt.payload.sub).abides_bind window fun gated _ grown => ?_
    have entitled := entitled.extends grown
    unfold VerificationService.verifyIdentity
    split
    · trivial
    · refine abides_throwIf_bind fun _ => (decrypt_uses runtime _).abides_bind
        (harmless_entitling runtime) fun opened _ grown => (uploadImages_uses _ _ _).abides_bind
          (harmless_entitling runtime) fun uploaded keys grownToo => ?_
      have entitled := (entitled.extends grown).extends grownToo
      refine Abides.bind_grown (Abides.attempt (abides_rescue (abides_perform trivial)
        fun _ _ => trivial)) fun asked answer kept => ?_
      have entitled := entitled.mono kept
      cases answer with
      | error failure =>
        exact (cleanupImages_uses _ _).abides_bind (harmless_entitling runtime) fun _ _ cleaned =>
          (getNextAttemptNumber_uses _).abides_bind (harmless_entitling runtime)
            fun _ _ numbered => (records _ _ ((entitled.extends cleaned).extends numbered)).bind
              fun _ _ => trivial
      | ok answer =>
        refine (getNextAttemptNumber_uses _).abides_bind (harmless_entitling runtime)
          fun _ _ numbered => (records _ _ (entitled.extends numbered)).bind_grown
            fun _ _ recorded => (cleanupImages_uses _ _).abides_bind (harmless_entitling runtime)
              fun later _ cleaned => ?_
        have entitled := ((entitled.extends numbered).mono recorded).extends cleaned
        refine Abides.bind ?_ fun _ _ => abides_perform_bind trivial fun _ _ =>
          (getVerificationWindowState_uses runtime jwt.payload.sub).abides_bind window
            fun _ _ _ => trivial
        unfold VerificationService.applyVerdict
        split
        · exact abides_perform_bind trivial fun _ _ => abides_perform_bind
            (List.forall_mem_singleton.mpr (entitled.cons _)) fun _ _ =>
              (upgradeToken_entitling runtime _ _ ((entitled.cons _).cons _)).bind
                fun _ _ => trivial
        · exact abides_perform_bind (List.forall_mem_singleton.mpr entitled) fun _ _ => trivial

end Traversal

/-- Every call keeps to the rule. -/
theorem serve_entitling (request : Request) :
    (serve runtime request).Abides (conduct (entitling runtime request)) [] := by
  have expectation : ∀ event : ServiceEvent, Plausible event → Plausible event := fun _ => id
  cases request with
  | logout jwt refreshToken =>
    exact serve_abides runtime _ (harmless_entitling runtime) (fun _ _ => trivial)
      fun past userId _ => Abides.bind (abides_perform_bind (List.forall_mem_singleton.mpr
        (.inr ⟨jwt, refreshToken, rfl, rfl⟩)) fun _ _ => trivial) fun _ _ => trivial
  | logoutAllDevices jwt =>
    exact serve_subject_abides runtime rfl expectation trivial (fun _ _ => trivial)
      fun past => Abides.bind (abides_perform_bind (List.forall_mem_singleton.mpr
        (.inl ⟨_, rfl, rfl⟩)) fun _ _ => abides_perform_bind trivial fun _ _ => trivial)
          fun _ _ => trivial
  | updateProfile jwt dto =>
    exact serve_subject_abides runtime rfl expectation trivial (fun _ _ => trivial)
      fun past => (updateProfile_entitling runtime jwt dto).bind fun _ _ => trivial
  | changePassword jwt dto =>
    exact serve_subject_abides runtime rfl expectation trivial (fun _ _ => trivial)
      fun past => (changePassword_entitling runtime jwt dto).bind fun _ _ => trivial
  | submitVerification jwt dto ipAddress =>
    exact serve_subject_abides runtime rfl expectation trivial (fun _ _ => trivial)
      fun past => (submitVerification_entitling runtime jwt dto ipAddress).bind fun _ _ => trivial
  | getProfile jwt =>
    exact (serve_uses runtime _).abides fun past effect inside => by
      rcases inside with harmless | awaits | ⟨_, rfl⟩
      · exact harmless_entitling runtime past effect harmless
      · exact awaits.elim
      · trivial
  | getVerificationStatus jwt =>
    exact (serve_uses runtime _).abides fun past effect inside => by
      rcases inside with harmless | ⟨_, _, rfl⟩ | ⟨_, rfl⟩
      · exact harmless_entitling runtime past effect harmless
      · trivial
      · trivial
  | validateResetToken userId token =>
    exact (serve_uses runtime _).abides fun past effect inside => by
      rcases inside with harmless | ⟨_, rfl⟩ | ⟨_, rfl⟩
      · exact harmless_entitling runtime past effect harmless
      · trivial
      · trivial
  | register dto =>
    exact serve_abides runtime _ (harmless_entitling runtime) (fun _ _ => trivial)
      fun past userId _ => (register_entitling runtime dto).bind fun _ _ => trivial
  | cleanupExpiredTokens =>
    exact serve_abides runtime _ (harmless_entitling runtime) (fun _ _ => trivial)
      fun past userId _ => Abides.bind (abides_rescue (abides_perform_bind trivial fun now _ =>
        abides_perform (List.forall_mem_singleton.mpr ⟨rfl, List.mem_cons_self⟩))
          fun _ _ => trivial) fun _ _ => trivial
  | verifyEmail dto =>
    exact serve_abides runtime _ (harmless_entitling runtime) (fun _ _ => trivial)
      fun past userId _ => (verifyEmail_entitling runtime dto).bind fun _ _ => trivial
  | resendVerificationEmail dto =>
    exact serve_abides runtime _ (harmless_entitling runtime) (fun _ _ => trivial)
      fun past userId _ => (resendVerificationEmail_entitling runtime dto).bind fun _ _ => trivial
  | login dto ipAddress userAgent =>
    exact serve_abides runtime _ (harmless_entitling runtime) (fun _ _ => trivial)
      fun past userId _ => (login_entitling runtime dto ipAddress userAgent).bind
        fun _ _ => trivial
  | refreshTokens process refreshToken ipAddress userAgent =>
    have rotates : ∀ now, (AuthService.rotateRefreshToken runtime (runtime.hash refreshToken)
        ipAddress userAgent false).Abides (conduct (entitling runtime
          (.refreshTokens process refreshToken ipAddress userAgent))) now := fun now =>
      rotateRefreshToken_entitling runtime _ _ _ fun _ _ storedToken user read owner =>
        ⟨storedToken, user, read, owner⟩
    exact serve_abides runtime _ (harmless_entitling runtime) (fun _ _ => trivial)
      fun past userId _ => (runSingleFlightRefresh_entitling runtime rotates).bind
        fun _ _ => trivial
  | upgradeSession process refreshToken ipAddress userAgent =>
    have rotates : ∀ now, (AuthService.rotateRefreshToken runtime (runtime.hash refreshToken)
        ipAddress userAgent true).Abides (conduct (entitling runtime
          (.upgradeSession process refreshToken ipAddress userAgent))) now := fun now =>
      rotateRefreshToken_entitling runtime _ _ _ fun _ _ storedToken user read owner =>
        ⟨storedToken, user, read, owner⟩
    exact serve_abides runtime _ (harmless_entitling runtime) (fun _ _ => trivial)
      fun past userId _ => Abides.bind (Abides.bind (runSingleFlightRefresh_entitling runtime
        rotates) fun _ _ => abides_throwIf_bind fun _ => trivial) fun _ _ => trivial
  | requestReset email =>
    exact serve_abides runtime _ (harmless_entitling runtime) (fun _ _ => trivial)
      fun past userId _ => (requestReset_entitling runtime email).bind fun _ _ => trivial
  | resetPassword dto =>
    exact serve_abides runtime _ (harmless_entitling runtime) (fun _ _ => trivial)
      fun past userId _ => (resetPassword_entitling runtime dto).bind fun _ _ => trivial

end GraconAuth
