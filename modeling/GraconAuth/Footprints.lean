/-
This file bounds the footprints of the helper functions: which effects they can
ever await. A helper that only reads accounts, the clock or random bytes, stores
images, or sends mail without a verification link is harmless, and no claim about
tokens, links or attempts needs to look inside it.
-/

import GraconAuth.Steps

namespace GraconAuth

open Interleaving Program

variable (runtime : Runtime)

/-- The effects that neither write a table other than the log, nor draw or sign a token, nor
touch the pending refreshes, nor mail a verification link, nor call the engine. -/
def Effect.Harmless : Effect → Prop
  | .userFindUnique _ | .citizenIdentityFindFirst _ _ | .emailVerificationTokenCount _ _
  | .idVerificationFindLatest _ | .idVerificationCount _ | .securityEvent _ _ _ | .now
  | .randomBytes | .randomDigits _ | .bcryptSalt | .putObject _ | .deleteObjects _
  | .getSignedUrl _ | .lookupCitizen _ | .lookupForeignIdentity _ => True
  | .sendMail mail => mail.template ≠ .emailVerification
  | _ => False

theorem harmless_readless {event : ServiceEvent} (harmless : event.effect.Harmless) :
    readToken event = none := by
  unfold readToken
  split
  · exact harmless.elim
  · rfl

theorem harmless_issueless {event : ServiceEvent} (harmless : event.effect.Harmless)
    (statements : List Statement) : event.effect ≠ .execute statements := by
  intro same
  rw [same] at harmless
  exact harmless

/-! ### Shared services -/

theorem encrypt_uses (plainText : String) :
    (EncryptionService.encrypt runtime plainText).Uses Effect.Harmless :=
  uses_bind (uses_perform trivial) fun _ => trivial

theorem decrypt_uses (encryptedText : String) :
    (EncryptionService.decrypt runtime encryptedText).Uses Effect.Harmless :=
  uses_ofOutcome _

theorem generate_uses (dateOfBirth : Timestamp) :
    (PidService.generate runtime dateOfBirth).Uses Effect.Harmless :=
  uses_bind (uses_perform trivial) fun _ => trivial

theorem send_uses {allowed : Effect → Prop} {mail : Mail} (permitted : allowed (.sendMail mail)) :
    (AppMailerService.send mail).Uses allowed :=
  uses_rescue (uses_perform permitted) fun _ => trivial

theorem sendWelcomeEmail_uses (recipient : Email) (surName postNames platformId : String) :
    (AppMailerService.sendWelcomeEmail recipient surName postNames platformId).Uses
      Effect.Harmless :=
  send_uses (by simp [Effect.Harmless])

theorem sendPasswordResetEmail_uses (recipient : Email) (surName postNames : String)
    (userId : UserId) (token : RawToken) :
    (AppMailerService.sendPasswordResetEmail recipient surName postNames userId token).Uses
      Effect.Harmless :=
  send_uses (by simp [Effect.Harmless])

theorem getPresignedUrl_uses (key : ObjectKey) :
    (S3Service.getPresignedUrl key).Uses Effect.Harmless :=
  uses_rescue (uses_bind (uses_perform trivial) fun _ =>
    uses_bind (uses_perform trivial) fun _ => trivial) fun _ => trivial

theorem bcryptHash_uses (password : String) : (bcryptHash runtime password).Uses Effect.Harmless :=
  uses_bind (uses_perform trivial) fun _ => trivial

/-! ### Users -/

theorem assertExclusiveIdentityInput_uses (dto : UsersService.RegisterDto) :
    (UsersService.assertExclusiveIdentityInput dto).Uses Effect.Harmless :=
  uses_bind (uses_throwIf _ _) fun _ => uses_throwIf _ _

theorem resolveRegistrationIdentity_uses (dto : UsersService.RegisterDto) :
    (UsersService.resolveRegistrationIdentity dto).Uses Effect.Harmless := by
  unfold UsersService.resolveRegistrationIdentity
  split
  · refine uses_bind (uses_perform trivial) fun found => ?_
    split
    · trivial
    · split <;> trivial
  · exact uses_bind (uses_perform trivial) fun _ => trivial

theorem decryptFin_uses (record : UserRecord) :
    (UsersService.decryptFin runtime record).Uses Effect.Harmless := by
  unfold UsersService.decryptFin
  split
  · split
    · exact uses_bind (decrypt_uses runtime _) fun _ => trivial
    · trivial
  · trivial

theorem decryptPid_uses (record : UserRecord) :
    (UsersService.decryptPid runtime record).Uses Effect.Harmless := by
  unfold UsersService.decryptPid
  split
  · exact uses_bind (decrypt_uses runtime _) fun _ => trivial
  · trivial

theorem buildVerificationSessionProfile_uses (record : UserRecord) :
    (UsersService.buildVerificationSessionProfile runtime record).Uses Effect.Harmless :=
  uses_bind (decryptFin_uses runtime record) fun _ => trivial

theorem resolveProfileImageAccess_uses (imageUrl : Option String) :
    (UsersService.resolveProfileImageAccess imageUrl).Uses Effect.Harmless := by
  unfold UsersService.resolveProfileImageAccess
  split
  · trivial
  · split
    · trivial
    · exact uses_bind (getPresignedUrl_uses _) fun _ => trivial

theorem getProfile_uses (userId : UserId) :
    (UsersService.getProfile runtime userId).Uses Effect.Harmless := by
  refine uses_bind (uses_perform trivial) fun found => ?_
  cases found with
  | none => trivial
  | some record =>
    exact uses_bind (decryptPid_uses runtime record) fun _ =>
      uses_bind (decryptFin_uses runtime record) fun _ =>
        uses_bind (resolveProfileImageAccess_uses _) fun _ => trivial

theorem rejectTakenEmail_uses (userId : UserId) (email : Email) :
    (UsersService.rejectTakenEmail userId email).Uses Effect.Harmless :=
  uses_bind (uses_perform trivial) fun _ => uses_throwIf _ _

theorem buildSafeProfile_uses (record : UserRecord) :
    (AuthService.buildSafeProfile runtime record).Uses Effect.Harmless :=
  uses_bind (resolveProfileImageAccess_uses _) fun _ =>
    uses_bind (decryptFin_uses runtime record) fun _ => trivial

/-! ### Verification -/

/-- The effects of an upload. -/
def Effect.Uploads : Effect → Prop
  | .randomBytes | .putObject _ => True
  | _ => False

theorem uploadVerificationImage_uses (userId : UserId) (imageType : String)
    (file : UploadedFile) :
    (S3Service.uploadVerificationImage userId imageType file).Uses Effect.Uploads := by
  refine uses_bind ?_ fun _ => uses_bind (uses_perform trivial) fun _ => ?_
  · exact uses_bind (uses_throwIf _ _) fun _ => uses_bind (uses_throwIf _ _) fun _ =>
      uses_throwIf _ _
  · exact uses_bind (uses_rescue (uses_perform trivial) fun _ => trivial) fun _ => trivial

theorem uploadImages_uploads (userId : UserId) (idCardFile selfieFile : UploadedFile) :
    (VerificationService.uploadImages userId idCardFile selfieFile).Uses Effect.Uploads := by
  refine uses_bind (uses_attempt (uploadVerificationImage_uses _ _ _)) fun idCardUpload =>
    uses_bind (uses_attempt (uploadVerificationImage_uses _ _ _)) fun selfieUpload => ?_
  cases idCardUpload <;> cases selfieUpload <;> trivial

theorem Effect.Uploads.harmless {effect : Effect} (uploads : effect.Uploads) :
    effect.Harmless := by
  cases effect <;> first | exact uploads.elim | trivial

theorem uploadImages_uses (userId : UserId) (idCardFile selfieFile : UploadedFile) :
    (VerificationService.uploadImages userId idCardFile selfieFile).Uses Effect.Harmless :=
  (uploadImages_uploads userId idCardFile selfieFile).mono fun _ => Effect.Uploads.harmless

theorem cleanupImages_uses (idCardKey selfieKey : ObjectKey) :
    (VerificationService.cleanupImages idCardKey selfieKey).Uses Effect.Harmless :=
  uses_rescue (uses_perform trivial) fun _ => trivial

theorem getNextAttemptNumber_uses (userId : UserId) :
    (VerificationService.getNextAttemptNumber userId).Uses Effect.Harmless :=
  uses_bind (uses_perform trivial) fun _ => trivial

/-! ### The guard -/

theorem canActivate_uses (metadata : Option RequiredType) (jwt : Jwt) :
    (JwtAuthGuard.canActivate metadata jwt).Uses Effect.Harmless :=
  uses_bind (uses_attempt (uses_bind (uses_perform trivial) fun _ => uses_ofOutcome _)) fun _ =>
    uses_ofOutcome _

/-! ### The footprint of a request -/

/-- The effects of issuing a session. -/
def Effect.Issues : Effect → Prop
  | .sign _ _ | .randomToken => True
  | .execute [.refreshTokenCreate _] => True
  | _ => False

/-- The effects of mailing a new verification link. -/
def Effect.Links : Effect → Prop
  | .randomToken | .sendMail _ => True
  | .execute [.emailVerificationTokenUpsert _ _ _ _] => True
  | _ => False

/-- The effects of a rotation behind the map of pending refreshes. -/
def Effect.Rotates : Effect → Prop
  | .joinFlight _ | .awaitFlight _ | .settleFlight _ _ _ | .refreshTokenFindUnique _ => True
  | .execute [.refreshTokenUpdate _] | .execute [.refreshTokenUpdateMany _] => True
  | effect => effect.Issues

/-- The effects of a request besides the harmless ones. -/
def Request.Awaits : Request → Effect → Prop
  | .register _, effect => effect.Links ∨ ∃ data, effect = .registerTransaction data
  | .verifyEmail dto, effect =>
    effect.Issues ∨ effect = .emailVerificationTokenFindUnique dto.userId ∨
      ∃ id, effect = .execute [
        .userUpdate dto.userId { isVerified := some true, isActive := some true },
        .emailVerificationTokenUpdate id]
  | .resendVerificationEmail _, effect => effect.Links
  | .login _ _ _, effect => effect.Issues
  | .refreshTokens _ _ _ _, effect | .upgradeSession _ _ _ _, effect => effect.Rotates
  | .requestReset _, effect =>
    effect = .randomToken ∨ (∃ userId, effect = .execute [.passwordResetTokenUpdateMany userId]) ∨
      ∃ data, effect = .execute [.passwordResetTokenCreate data]
  | .validateResetToken userId _, effect =>
    ∃ tokenHash, effect = .passwordResetTokenFindFirst userId tokenHash
  | .resetPassword dto, effect =>
    (∃ tokenHash, effect = .passwordResetTokenFindFirst dto.userId tokenHash) ∨
      ∃ passwordHash id, effect = .execute [
        .userUpdate dto.userId { passwordHash := some passwordHash },
        .passwordResetTokenUpdate id,
        .refreshTokenUpdateMany { userId := some dto.userId }]
  | .logout _ _, effect =>
    ∃ tokenHash, effect = .execute [.refreshTokenUpdateMany { tokenHash := some tokenHash }]
  | .logoutAllDevices _, effect =>
    ∃ userId, effect = .execute [.refreshTokenUpdateMany { userId := some userId }]
  | .getProfile _, _ => False
  | .updateProfile _ dto, effect =>
    effect.Links ∨ ∃ userId email, effect = .execute [.userUpdate userId (dto.updateData email)]
  | .changePassword _ _, effect =>
    ∃ userId passwordHash, effect = .execute [
      .userUpdate userId { passwordHash := some passwordHash },
      .refreshTokenUpdateMany { userId := some userId }]
  | .submitVerification _ _ _, effect =>
    effect.Issues ∨ (∃ userId since, effect = .idVerificationFindMany userId since) ∨
      (∃ payload, effect = .callEngine payload) ∨
      (∃ data, effect = .execute [.idVerificationCreate data]) ∨
      (∃ userId now, effect = .execute [.userUpdate userId {
        isIdVerified := some true
        idVerifiedAt := some now
        incrementVerificationAttempts := true }]) ∨
      (∃ userId, effect = .execute [
        .userUpdate userId { incrementVerificationAttempts := true }]) ∨
      ∃ userId, effect = .execute [
        .refreshTokenUpdateMany { userId := some userId, tokenType := some .limited }]
  | .getVerificationStatus _, effect =>
    ∃ userId since, effect = .idVerificationFindMany userId since
  | .cleanupExpiredTokens, effect => ∃ now, effect = .execute [.refreshTokenDeleteMany now]

/-- The call submits an identity verification. -/
def Request.submits : Request → Bool
  | .submitVerification _ _ _ => true
  | _ => false

/-- The call may issue a session. -/
def Request.issues : Request → Bool
  | .verifyEmail _ | .login _ _ _ | .refreshTokens _ _ _ _ | .upgradeSession _ _ _ _
  | .submitVerification _ _ _ => true
  | _ => false

/-- The statements that a request may write, with what is known of the accounts it updates. -/
def Request.Writes : Request → Statement → Prop
  | .register _, .emailVerificationTokenUpsert _ _ _ _ => True
  | .verifyEmail dto, .userUpdate id data =>
    id = dto.userId ∧ data = { isVerified := some true, isActive := some true }
  | .verifyEmail _, .emailVerificationTokenUpdate _ => True
  | .verifyEmail _, .refreshTokenCreate _ => True
  | .resendVerificationEmail _, .emailVerificationTokenUpsert _ _ _ _ => True
  | .login _ _ _, .refreshTokenCreate _ => True
  | .refreshTokens _ _ _ _, .refreshTokenUpdate _ | .upgradeSession _ _ _ _, .refreshTokenUpdate _
  | .refreshTokens _ _ _ _, .refreshTokenUpdateMany _
  | .upgradeSession _ _ _ _, .refreshTokenUpdateMany _
  | .refreshTokens _ _ _ _, .refreshTokenCreate _
  | .upgradeSession _ _ _ _, .refreshTokenCreate _ => True
  | .requestReset _, .passwordResetTokenUpdateMany _ => True
  | .requestReset _, .passwordResetTokenCreate _ => True
  | .resetPassword dto, .userUpdate id data =>
    id = dto.userId ∧ ∃ passwordHash, data = { passwordHash := some passwordHash }
  | .resetPassword _, .passwordResetTokenUpdate _ => True
  | .resetPassword _, .refreshTokenUpdateMany _ => True
  | .logout _ _, .refreshTokenUpdateMany _ => True
  | .logoutAllDevices _, .refreshTokenUpdateMany _ => True
  | .updateProfile _ _, .emailVerificationTokenUpsert _ _ _ _ => True
  | .updateProfile _ dto, .userUpdate _ data => ∃ email, data = dto.updateData email
  | .changePassword _ _, .userUpdate _ data =>
    ∃ passwordHash, data = { passwordHash := some passwordHash }
  | .changePassword _ _, .refreshTokenUpdateMany _ => True
  | .submitVerification _ _ _, .refreshTokenCreate _ => True
  | .submitVerification _ _ _, .idVerificationCreate _ => True
  | .submitVerification _ _ _, .userUpdate _ data =>
    data = { incrementVerificationAttempts := true } ∨ ∃ now, data = {
      isIdVerified := some true
      idVerifiedAt := some now
      incrementVerificationAttempts := true }
  | .submitVerification _ _ _, .refreshTokenUpdateMany _ => True
  | .cleanupExpiredTokens, .refreshTokenDeleteMany _ => True
  | _, _ => False

theorem issues_writes {statements : List Statement} (issues : (Effect.execute statements).Issues) :
    ∃ data, statements = [.refreshTokenCreate data] := by
  unfold Effect.Issues at issues
  split at issues
  · rename_i same
    cases same
  · rename_i same
    cases same
  · rename_i data same
    cases same
    exact ⟨data, rfl⟩
  · exact issues.elim

theorem links_writes {statements : List Statement} (links : (Effect.execute statements).Links) :
    ∃ userId tokenHash expiresAt createdAt,
      statements = [.emailVerificationTokenUpsert userId tokenHash expiresAt createdAt] := by
  unfold Effect.Links at links
  split at links
  · rename_i same
    cases same
  · rename_i same
    cases same
  · rename_i userId tokenHash expiresAt createdAt same
    cases same
    exact ⟨userId, tokenHash, expiresAt, createdAt, rfl⟩
  · exact links.elim

theorem rotates_writes {statements : List Statement}
    (rotates : (Effect.execute statements).Rotates) :
    (∃ id, statements = [.refreshTokenUpdate id]) ∨
      (∃ filter, statements = [.refreshTokenUpdateMany filter]) ∨
      ∃ data, statements = [.refreshTokenCreate data] := by
  unfold Effect.Rotates at rotates
  split at rotates
  any_goals
    rename_i same
    cases same
  · exact .inl ⟨_, rfl⟩
  · exact .inr (.inl ⟨_, rfl⟩)
  · exact .inr (.inr (issues_writes rotates))

/-- A request writes statements of its own. -/
theorem awaits_writes {request : Request} {statements : List Statement}
    (awaits : request.Awaits (.execute statements)) :
    ∀ statement ∈ statements, request.Writes statement := by
  cases request with
  | register dto =>
    rcases awaits with links | ⟨_, same⟩
    · obtain ⟨_, _, _, _, rfl⟩ := links_writes links
      exact List.forall_mem_singleton.mpr trivial
    · cases same
  | verifyEmail dto =>
    rcases awaits with issues | same | ⟨_, same⟩
    · obtain ⟨_, rfl⟩ := issues_writes issues
      exact List.forall_mem_singleton.mpr trivial
    · cases same
    · cases same
      exact List.forall_mem_cons.mpr ⟨⟨rfl, rfl⟩, List.forall_mem_singleton.mpr trivial⟩
  | resendVerificationEmail dto =>
    obtain ⟨_, _, _, _, rfl⟩ := links_writes awaits
    exact List.forall_mem_singleton.mpr trivial
  | login dto ipAddress userAgent =>
    obtain ⟨_, rfl⟩ := issues_writes awaits
    exact List.forall_mem_singleton.mpr trivial
  | refreshTokens process refreshToken ipAddress userAgent
  | upgradeSession process refreshToken ipAddress userAgent =>
    rcases rotates_writes awaits with ⟨_, rfl⟩ | ⟨_, rfl⟩ | ⟨_, rfl⟩ <;>
      exact List.forall_mem_singleton.mpr trivial
  | requestReset email =>
    rcases awaits with same | ⟨_, same⟩ | ⟨_, same⟩ <;> cases same <;>
      exact List.forall_mem_singleton.mpr trivial
  | resetPassword dto =>
    rcases awaits with ⟨_, same⟩ | ⟨_, _, same⟩
    · cases same
    · cases same
      exact List.forall_mem_cons.mpr ⟨⟨rfl, _, rfl⟩,
        List.forall_mem_cons.mpr ⟨trivial, List.forall_mem_singleton.mpr trivial⟩⟩
  | logout jwt refreshToken | logoutAllDevices jwt | cleanupExpiredTokens =>
    obtain ⟨_, same⟩ := awaits
    cases same
    exact List.forall_mem_singleton.mpr trivial
  | getProfile jwt => exact awaits.elim
  | updateProfile jwt dto =>
    rcases awaits with links | ⟨_, _, same⟩
    · obtain ⟨_, _, _, _, rfl⟩ := links_writes links
      exact List.forall_mem_singleton.mpr trivial
    · cases same
      exact List.forall_mem_singleton.mpr ⟨_, rfl⟩
  | changePassword jwt dto =>
    obtain ⟨_, _, same⟩ := awaits
    cases same
    exact List.forall_mem_cons.mpr ⟨⟨_, rfl⟩, List.forall_mem_singleton.mpr trivial⟩
  | submitVerification jwt dto ipAddress =>
    rcases awaits with issues | ⟨_, _, same⟩ | ⟨_, same⟩ | ⟨_, same⟩ | ⟨_, _, same⟩ | ⟨_, same⟩ |
      ⟨_, same⟩
    · obtain ⟨_, rfl⟩ := issues_writes issues
      exact List.forall_mem_singleton.mpr trivial
    · cases same
    · cases same
    · cases same
      exact List.forall_mem_singleton.mpr trivial
    · cases same
      exact List.forall_mem_singleton.mpr (.inr ⟨_, rfl⟩)
    · cases same
      exact List.forall_mem_singleton.mpr (.inl rfl)
    · cases same
      exact List.forall_mem_singleton.mpr trivial
  | getVerificationStatus jwt =>
    obtain ⟨_, _, same⟩ := awaits
    cases same
  | validateResetToken userId token =>
    obtain ⟨_, same⟩ := awaits
    cases same

/-- A request takes no identity back, and writes the two account flags together. -/
theorem writes_flags {request : Request} {id : UserId} {data : UserUpdate}
    (writes : request.Writes (.userUpdate id data)) :
    data.isActive = data.isVerified ∧ data.isIdVerified ≠ some false := by
  cases request with
  | verifyEmail dto =>
    obtain ⟨_, rfl⟩ := writes
    exact ⟨rfl, nofun⟩
  | resetPassword dto =>
    obtain ⟨_, _, rfl⟩ := writes
    exact ⟨rfl, nofun⟩
  | updateProfile jwt dto | changePassword jwt dto =>
    obtain ⟨_, rfl⟩ := writes
    exact ⟨rfl, nofun⟩
  | submitVerification jwt dto ipAddress =>
    rcases writes with rfl | ⟨_, rfl⟩
    · exact ⟨rfl, nofun⟩
    · exact ⟨rfl, nofun⟩
  | _ => exact writes.elim

/-- Only a submission confirms an identity or counts an attempt. -/
theorem writes_unsubmitted {request : Request} (other : request.submits = false) {id : UserId}
    {data : UserUpdate} (writes : request.Writes (.userUpdate id data)) :
    data.isIdVerified = none ∧ data.incrementVerificationAttempts = false := by
  cases request with
  | submitVerification jwt dto ipAddress => cases other
  | verifyEmail dto =>
    obtain ⟨_, rfl⟩ := writes
    exact ⟨rfl, rfl⟩
  | resetPassword dto =>
    obtain ⟨_, _, rfl⟩ := writes
    exact ⟨rfl, rfl⟩
  | updateProfile jwt dto | changePassword jwt dto =>
    obtain ⟨_, rfl⟩ := writes
    exact ⟨rfl, rfl⟩
  | _ => exact writes.elim

/-- The effects of a rotation that are no writes. -/
def Effect.rotates : Effect → Bool
  | .joinFlight _ | .awaitFlight _ | .settleFlight _ _ _ | .refreshTokenFindUnique _ => true
  | _ => false

/-- Only a refresh takes part in a rotation. -/
theorem awaits_rotates {request : Request} {effect : Effect} (awaits : request.Awaits effect)
    (rotates : effect.rotates = true) : request.rotates = true := by
  cases effect with
  | joinFlight _ | awaitFlight _ | settleFlight _ _ _ | refreshTokenFindUnique _ =>
    cases request <;> simp_all [Request.Awaits, Effect.Issues, Effect.Links, Request.rotates]
  | _ => cases rotates

/-- Only a submission calls the engine. -/
theorem awaits_callEngine {request : Request} {payload : EngineRequest}
    (awaits : request.Awaits (.callEngine payload)) :
    ∃ jwt dto ipAddress, request = .submitVerification jwt dto ipAddress := by
  cases request with
  | submitVerification jwt dto ipAddress => exact ⟨jwt, dto, ipAddress, rfl⟩
  | _ => simp [Request.Awaits, Effect.Rotates, Effect.Issues, Effect.Links] at awaits

theorem Uses.harmless {Result : Type} {program : Async Result} {allowed : Effect → Prop}
    (uses : program.Uses Effect.Harmless) : program.Uses fun e => e.Harmless ∨ allowed e :=
  uses.mono fun _ inside => .inl inside

theorem generateTokens_uses (userId : UserId) (email : Email) (ipAddress userAgent : String)
    (tokenType : TokenType) :
    (AuthService.generateTokens runtime userId email ipAddress userAgent tokenType).Uses
      fun e => e.Harmless ∨ e.Issues :=
  uses_bind (uses_perform (.inr trivial)) fun _ => uses_bind (uses_perform (.inr trivial)) fun _ =>
    uses_bind (uses_perform (.inl trivial)) fun _ =>
      uses_bind (uses_perform (.inr trivial)) fun _ =>
      trivial

theorem login_uses (dto : AuthService.LoginDto) (ipAddress userAgent : String) :
    (AuthService.login runtime dto ipAddress userAgent).Uses fun e => e.Harmless ∨ e.Issues := by
  refine uses_bind (uses_perform (.inl trivial)) fun user => ?_
  split
  · exact uses_bind (uses_perform (.inl trivial)) fun _ => trivial
  · exact uses_bind (uses_perform (.inl trivial)) fun _ => uses_bind (uses_throwIf _ _) fun _ =>
      uses_bind (uses_throwIf _ _) fun _ => uses_bind (generateTokens_uses runtime _ _ _ _ _)
        fun _ => uses_bind (Uses.harmless (buildSafeProfile_uses runtime _)) fun _ => trivial

theorem replaceVerificationToken_uses (userId : UserId) (recipient : Email)
    (identity : Option CitizenIdentityRow) :
    (UsersService.replaceVerificationToken runtime userId recipient identity).Uses
      fun e => e.Harmless ∨ e.Links :=
  uses_bind (uses_perform (.inr trivial)) fun _ => uses_bind (uses_perform (.inl trivial)) fun _ =>
    uses_bind (uses_perform (.inr trivial)) fun _ => send_uses (.inr trivial)

theorem register_uses (dto : UsersService.RegisterDto) :
    (UsersService.register runtime dto).Uses
      fun e => e.Harmless ∨ (Request.register dto).Awaits e := by
  refine uses_bind (Uses.harmless (assertExclusiveIdentityInput_uses dto)) fun _ =>
    uses_bind (Uses.harmless (resolveRegistrationIdentity_uses dto)) fun identity =>
    uses_bind (uses_perform (.inl trivial)) fun _ => uses_bind (uses_throwIf _ _) fun _ =>
    uses_bind (uses_perform (.inl trivial)) fun _ => uses_bind (uses_throwIf _ _) fun _ =>
    uses_bind (Uses.harmless (bcryptHash_uses runtime _)) fun _ =>
    uses_bind (Uses.harmless (encrypt_uses runtime _)) fun _ =>
    uses_bind (Uses.harmless (generate_uses runtime _)) fun _ =>
    uses_bind (Uses.harmless (encrypt_uses runtime _)) fun _ =>
    uses_bind (uses_perform (.inr (.inl trivial))) fun _ =>
    uses_bind (uses_perform (.inl trivial)) fun _ =>
    uses_bind (uses_rescue (uses_perform (.inr (.inr ⟨_, rfl⟩))) fun _ => trivial) fun _ =>
    uses_bind (send_uses (.inr (.inl trivial))) fun _ => trivial

theorem verifyEmail_uses (dto : UsersService.VerifyEmailDto) :
    (UsersService.verifyEmail runtime dto).Uses
      fun e => e.Harmless ∨ (Request.verifyEmail dto).Awaits e := by
  refine uses_bind (uses_perform (.inr (.inr (.inl rfl)))) fun found => ?_
  match found with
  | none => trivial
  | some (tokenRecord, record) =>
    dsimp only
    split
    · trivial
    · refine uses_bind (uses_throwIf _ _) fun _ => uses_bind (uses_perform (.inl trivial)) fun _ =>
        uses_bind (uses_throwIf _ _) fun _ => uses_bind (uses_throwIf _ _) fun _ =>
        uses_bind (uses_perform (.inr (.inr (.inr ⟨_, rfl⟩)))) fun _ =>
        uses_bind (Uses.harmless (decryptPid_uses runtime _)) fun _ =>
        uses_bind (Uses.harmless (sendWelcomeEmail_uses _ _ _ _)) fun _ => ?_
      split
      · trivial
      · refine uses_bind ?_ fun _ =>
          uses_bind (Uses.harmless (buildVerificationSessionProfile_uses runtime _)) fun _ =>
            trivial
        exact uses_bind (uses_perform (.inr (.inl trivial))) fun _ =>
          uses_bind (uses_perform (.inr (.inl trivial))) fun _ =>
          uses_bind (uses_perform (.inl trivial)) fun _ =>
          uses_bind (uses_perform (.inr (.inl trivial))) fun _ => trivial

theorem resendVerificationEmail_uses (dto : UsersService.ResendVerificationDto) :
    (UsersService.resendVerificationEmail runtime dto).Uses
      fun e => e.Harmless ∨ e.Links := by
  unfold UsersService.resendVerificationEmail
  split
  · trivial
  · refine uses_bind (uses_perform (.inl trivial)) fun user => ?_
    cases user with
    | none => trivial
    | some record =>
      dsimp only
      split
      · trivial
      · refine uses_bind (uses_perform (.inl trivial)) fun _ =>
          uses_bind (uses_perform (.inl trivial)) fun _ => ?_
        split
        · trivial
        · exact uses_bind (replaceVerificationToken_uses runtime _ _ _) fun _ => trivial

theorem rotateRefreshToken_uses (tokenHash : TokenHash) (ipAddress userAgent : String)
    (requireFullToken : Bool) :
    (AuthService.rotateRefreshToken runtime tokenHash ipAddress userAgent requireFullToken).Uses
      fun e => e.Harmless ∨ e.Rotates ∧ e.flies = false := by
  refine uses_bind (uses_perform (.inr ⟨trivial, rfl⟩)) fun found => ?_
  match found with
  | none => trivial
  | some (storedToken, user) =>
    dsimp only
    split
    · exact uses_bind (uses_perform (.inr ⟨trivial, rfl⟩)) fun _ =>
        uses_bind (uses_perform (.inl trivial)) fun _ => trivial
    · refine uses_bind (uses_perform (.inl trivial)) fun _ => uses_bind (uses_throwIf _ _) fun _ =>
        uses_bind (uses_throwIf _ _) fun _ => uses_bind (uses_throwIf _ _) fun _ =>
        uses_bind (uses_perform (.inr ⟨trivial, rfl⟩)) fun _ => ?_
      refine (generateTokens_uses runtime _ _ _ _ _).mono fun effect inside => ?_
      rcases inside with harmless | issues
      · exact .inl harmless
      · refine .inr ⟨?_, ?_⟩
        · unfold Effect.Rotates
          split <;> trivial
        · unfold Effect.flies
          split
          · exact issues.elim
          · exact issues.elim
          · rfl

theorem runSingleFlightRefresh_uses {key : FlightKey} {task : Async AuthTokens}
    (inner : task.Uses fun e => e.Harmless ∨ e.Rotates) :
    (AuthService.runSingleFlightRefresh key task).Uses fun e => e.Harmless ∨ e.Rotates := by
  refine uses_bind (uses_perform (.inr trivial)) fun role => ?_
  cases role with
  | follower flight => exact uses_perform (.inr trivial)
  | leader flight =>
    exact uses_bind (uses_attempt inner) fun _ => uses_bind (uses_perform (.inr trivial)) fun _ =>
      uses_ofOutcome _

theorem requestReset_uses (email : Email) :
    (PasswordResetService.requestReset runtime email).Uses
      fun e => e.Harmless ∨ (Request.requestReset email).Awaits e := by
  refine uses_bind (uses_perform (.inl trivial)) fun user => ?_
  split
  · exact uses_bind (Uses.harmless (bcryptHash_uses runtime _)) fun _ => trivial
  · exact uses_bind (uses_perform (.inr (.inr (.inl ⟨_, rfl⟩)))) fun _ =>
      uses_bind (uses_perform (.inr (.inl rfl))) fun _ =>
      uses_bind (uses_perform (.inl trivial)) fun _ =>
      uses_bind (uses_rescue (uses_perform (.inr (.inr (.inr ⟨_, rfl⟩)))) fun _ => trivial)
        fun _ =>
      uses_bind (Uses.harmless (sendPasswordResetEmail_uses _ _ _ _ _)) fun _ =>
      uses_bind (uses_perform (.inl trivial)) fun _ => trivial

/-- The lookup of a reset link looks into the table of the account it is given. -/
theorem findValidToken_uses (userId : UserId) (rawToken : RawToken) :
    (PasswordResetService.findValidToken runtime userId rawToken).Uses fun e => e.Harmless ∨
      ∃ tokenHash, e = .passwordResetTokenFindFirst userId tokenHash := by
  refine uses_bind (uses_perform (.inr ⟨_, rfl⟩)) fun record => ?_
  cases record with
  | none => trivial
  | some record =>
    dsimp only
    split
    · trivial
    · refine uses_bind (uses_perform (.inl trivial)) fun now => ?_
      split <;> trivial

theorem validateResetToken_uses (userId : UserId) (token : RawToken) :
    (PasswordResetService.validateResetToken runtime userId token).Uses
      fun e => e.Harmless ∨ (Request.validateResetToken userId token).Awaits e := by
  refine uses_bind (findValidToken_uses runtime userId token) fun result => ?_
  cases result <;> trivial

theorem resetPassword_uses (dto : PasswordResetService.ResetPasswordDto) :
    (PasswordResetService.resetPassword runtime dto).Uses
      fun e => e.Harmless ∨ (Request.resetPassword dto).Awaits e := by
  refine uses_bind (uses_throwIf _ _) fun _ => uses_bind ((findValidToken_uses runtime _ _).mono
    fun _ inside => inside.imp id .inl) fun tokenLookup => ?_
  cases tokenLookup with
  | error reason => trivial
  | ok tokenId =>
    exact uses_bind (Uses.harmless (bcryptHash_uses runtime _)) fun _ =>
      uses_bind (uses_perform (.inr (.inr ⟨_, _, rfl⟩))) fun _ =>
      uses_bind (uses_perform (.inl trivial)) fun _ => trivial

theorem updateProfile_uses (jwt : Jwt) (userId : UserId) (dto : UsersService.UpdateProfileDto) :
    (UsersService.updateProfile runtime userId dto).Uses
      fun e => e.Harmless ∨ (Request.updateProfile jwt dto).Awaits e := by
  refine uses_bind (uses_perform (.inl trivial)) fun user => ?_
  cases user with
  | none => trivial
  | some record =>
    dsimp only
    split
    · exact uses_bind (uses_perform (.inr (.inr ⟨_, _, rfl⟩))) fun _ =>
        Uses.harmless (getProfile_uses runtime _)
    · refine uses_bind (Uses.harmless (rejectTakenEmail_uses _ _)) fun _ =>
        uses_bind (uses_perform (.inr (.inr ⟨_, _, rfl⟩))) fun _ =>
        uses_bind ?_ fun _ => Uses.harmless (getProfile_uses runtime _)
      exact (replaceVerificationToken_uses runtime _ _ _).mono fun effect inside =>
        inside.imp id .inl

theorem changePassword_uses (jwt : Jwt) (userId : UserId) (dto : UsersService.ChangePasswordDto) :
    (UsersService.changePassword runtime userId dto).Uses
      fun e => e.Harmless ∨ (Request.changePassword jwt dto).Awaits e := by
  refine uses_bind (uses_throwIf _ _) fun _ => uses_bind (uses_perform (.inl trivial))
    fun user => ?_
  cases user with
  | none => trivial
  | some record =>
    exact uses_bind (uses_throwIf _ _) fun _ => uses_bind (uses_throwIf _ _) fun _ =>
      uses_bind (uses_perform (.inl trivial)) fun _ =>
      uses_bind (Uses.harmless (bcryptHash_uses runtime _)) fun _ =>
      uses_bind (uses_perform (.inr ⟨_, _, rfl⟩)) fun _ => trivial

theorem getVerificationWindowState_uses (userId : UserId) :
    (VerificationService.getVerificationWindowState runtime userId).Uses
      fun e => e.Harmless ∨ ∃ userId since, e = .idVerificationFindMany userId since := by
  unfold VerificationService.getVerificationWindowState
  split
  · trivial
  · exact uses_bind (uses_perform (.inl trivial)) fun _ =>
      uses_bind (uses_perform (.inr ⟨_, _, rfl⟩)) fun _ =>
      uses_bind (uses_perform (.inl trivial)) fun _ => trivial

theorem enforceAttemptLimit_uses (userId : UserId) :
    (VerificationService.enforceAttemptLimit runtime userId).Uses
      fun e => e.Harmless ∨ ∃ userId since, e = .idVerificationFindMany userId since := by
  unfold VerificationService.enforceAttemptLimit
  split
  · trivial
  · exact uses_bind (getVerificationWindowState_uses runtime userId) fun _ =>
      uses_bind (uses_throwIf _ _) fun _ => trivial

theorem upgradeToken_uses (userId : UserId) (ipAddress userAgent : String) :
    (AuthService.upgradeToken runtime userId ipAddress userAgent).Uses fun e =>
      e.Harmless ∨ e.Issues ∨ ∃ userId, e = .execute [
        .refreshTokenUpdateMany { userId := some userId, tokenType := some .limited }] := by
  refine uses_bind (uses_perform (.inr (.inr ⟨_, rfl⟩))) fun _ =>
    uses_bind (uses_perform (.inl trivial)) fun user => ?_
  cases user with
  | none => trivial
  | some record =>
    exact (generateTokens_uses runtime _ _ _ _ _).mono fun effect inside => inside.imp id .inl

theorem submitVerification_uses (jwt : Jwt) (userId : UserId)
    (dto : VerificationService.SubmitVerificationDto) (ipAddress : String) :
    (VerificationService.submitVerification runtime userId dto ipAddress).Uses
      fun e => e.Harmless ∨ (Request.submitVerification jwt dto ipAddress).Awaits e := by
  have window : ∀ effect : Effect,
      (effect.Harmless ∨ ∃ userId since, effect = .idVerificationFindMany userId since) →
      effect.Harmless ∨ (Request.submitVerification jwt dto ipAddress).Awaits effect :=
    fun effect inside => inside.imp id fun found => .inr (.inl found)
  have record : ∀ data, (VerificationService.recordAttempt data).Uses
      fun e => e.Harmless ∨ (Request.submitVerification jwt dto ipAddress).Awaits e := fun data =>
    uses_rescue (uses_perform (.inr (.inr (.inr (.inr (.inl ⟨data, rfl⟩)))))) fun _ => trivial
  refine uses_bind (uses_perform (.inl trivial)) fun user => ?_
  cases user with
  | none => trivial
  | some user =>
    refine uses_bind (uses_throwIf _ _) fun _ => uses_bind (uses_throwIf _ _) fun _ =>
      uses_bind (uses_throwIf _ _) fun _ =>
      uses_bind ((enforceAttemptLimit_uses runtime userId).mono window) fun _ => ?_
    unfold VerificationService.verifyIdentity
    split
    · trivial
    · refine uses_bind (uses_throwIf _ _) fun _ =>
        uses_bind (Uses.harmless (decrypt_uses runtime _)) fun _ =>
        uses_bind (Uses.harmless (uploadImages_uses _ _ _)) fun keys =>
        uses_bind (uses_attempt (uses_rescue (uses_perform
          (.inr (.inr (.inr (.inl ⟨_, rfl⟩))))) fun _ => trivial)) fun answer => ?_
      cases answer with
      | error failure =>
        exact uses_bind (Uses.harmless (cleanupImages_uses _ _)) fun _ =>
          uses_bind (Uses.harmless (getNextAttemptNumber_uses _)) fun _ =>
          uses_bind (record _) fun _ => trivial
      | ok answer =>
        refine uses_bind (Uses.harmless (getNextAttemptNumber_uses _)) fun _ =>
          uses_bind (record _) fun _ =>
          uses_bind (Uses.harmless (cleanupImages_uses _ _)) fun _ => uses_bind ?_ fun _ =>
          uses_bind (uses_perform (.inl (by unfold Effect.Harmless; trivial))) fun _ =>
          uses_bind ((getVerificationWindowState_uses runtime userId).mono window) fun _ => trivial
        unfold VerificationService.applyVerdict
        split
        · refine uses_bind (uses_perform (.inl trivial)) fun _ =>
            uses_bind (uses_perform (.inr (.inr (.inr (.inr (.inr (.inl ⟨_, _, rfl⟩))))))) fun _ =>
            uses_bind ?_ fun _ => trivial
          refine (upgradeToken_uses runtime _ _ _).mono fun effect inside => ?_
          rcases inside with harmless | issues | revokes
          · exact .inl harmless
          · exact .inr (.inl issues)
          · exact .inr (.inr (.inr (.inr (.inr (.inr (.inr revokes))))))
        · exact uses_bind (uses_perform (.inr (.inr (.inr (.inr (.inr (.inr (.inl ⟨_, rfl⟩))))))))
            fun _ => trivial

theorem getVerificationStatus_uses (userId : UserId) :
    (VerificationService.getVerificationStatus runtime userId).Uses
      fun e => e.Harmless ∨ ∃ userId since, e = .idVerificationFindMany userId since :=
  uses_bind (uses_perform (.inl trivial)) fun _ => uses_bind (uses_perform (.inl trivial)) fun _ =>
    uses_bind (getVerificationWindowState_uses runtime userId) fun _ => trivial

/-- A handler stays within the footprint of its request. -/
theorem handle_uses (userId : UserId) (request : Request) :
    (request.handle runtime userId).Uses fun e => e.Harmless ∨ request.Awaits e := by
  cases request with
  | register dto => exact uses_bind (register_uses runtime dto) fun _ => trivial
  | verifyEmail dto => exact uses_bind (verifyEmail_uses runtime dto) fun _ => trivial
  | resendVerificationEmail dto =>
    exact uses_bind (resendVerificationEmail_uses runtime dto) fun _ => trivial
  | login dto ipAddress userAgent =>
    exact uses_bind (login_uses runtime dto ipAddress userAgent) fun _ => trivial
  | refreshTokens process refreshToken ipAddress userAgent =>
    exact uses_bind (runSingleFlightRefresh_uses ((rotateRefreshToken_uses runtime _ _ _ _).mono
      fun _ inside => inside.imp id And.left)) fun _ => trivial
  | upgradeSession process refreshToken ipAddress userAgent =>
    exact uses_bind (uses_bind (runSingleFlightRefresh_uses
      ((rotateRefreshToken_uses runtime _ _ _ _).mono fun _ inside => inside.imp id And.left))
      fun _ => uses_bind (uses_throwIf _ _) fun _ => trivial) fun _ => trivial
  | requestReset email => exact uses_bind (requestReset_uses runtime email) fun _ => trivial
  | validateResetToken resetUserId token =>
    exact uses_bind (validateResetToken_uses runtime resetUserId token) fun _ => trivial
  | resetPassword dto => exact uses_bind (resetPassword_uses runtime dto) fun _ => trivial
  | logout jwt refreshToken =>
    exact uses_bind (uses_bind (uses_perform (.inr ⟨_, rfl⟩)) fun _ => trivial) fun _ => trivial
  | logoutAllDevices jwt =>
    exact uses_bind (uses_bind (uses_perform (.inr ⟨_, rfl⟩)) fun _ =>
      uses_bind (uses_perform (.inl trivial)) fun _ => trivial) fun _ => trivial
  | getProfile jwt =>
    exact uses_bind (Uses.harmless (getProfile_uses runtime userId)) fun _ => trivial
  | updateProfile jwt dto =>
    exact uses_bind (updateProfile_uses runtime jwt userId dto) fun _ => trivial
  | changePassword jwt dto =>
    exact uses_bind (changePassword_uses runtime jwt userId dto) fun _ => trivial
  | submitVerification jwt dto ipAddress =>
    exact uses_bind (submitVerification_uses runtime jwt userId dto ipAddress) fun _ => trivial
  | getVerificationStatus jwt =>
    exact uses_bind (getVerificationStatus_uses runtime userId) fun _ => trivial
  | cleanupExpiredTokens =>
    exact uses_bind (uses_rescue (uses_bind (uses_perform (.inl trivial)) fun _ =>
      uses_perform (.inr ⟨_, rfl⟩)) fun _ => trivial) fun _ => trivial

/-! ### From the handler to the call -/

/-- A call stays within a footprint that contains the harmless effects and the response when its
handler does, whatever the guard has let through. -/
theorem serve_uses_of_handle {allowed : Effect → Prop} (request : Request)
    (harmless : ∀ effect, effect.Harmless → allowed effect)
    (responds : ∀ outcome, allowed (.respond outcome))
    (handles : ∀ userId, (request.handle runtime userId).Uses allowed) :
    (serve runtime request).Uses allowed := by
  have guarded : (request.guarded runtime).Uses allowed := by
    unfold Request.guarded
    split
    · exact handles 0
    · exact uses_bind ((canActivate_uses _ _).mono harmless) fun user => handles user.userId
  exact uses_bind (uses_attempt guarded) fun _ =>
    uses_bind (uses_perform (responds _)) fun _ => uses_ofOutcome _

/-- A call stays within the footprint of its request, and responds. -/
theorem serve_uses (request : Request) :
    (serve runtime request).Uses fun e =>
      e.Harmless ∨ request.Awaits e ∨ ∃ outcome, e = .respond outcome :=
  serve_uses_of_handle runtime request (fun _ harmless => .inl harmless)
    (fun outcome => .inr (.inr ⟨outcome, rfl⟩)) fun userId =>
      (handle_uses runtime userId request).mono fun _ inside => inside.imp id .inl

/-- A call keeps to a rule that allows harmless effects when its handler does, whatever the guard
has let through, and its response is allowed. -/
theorem serve_follows {rule : ServiceConduct} (request : Request)
    (harmless : ∀ past effect, effect.Harmless → rule.allows past effect)
    (denied : request.guard ≠ none → ∀ past failure, Extends Effect.Harmless [] past →
      rule.allows past (.respond (.error failure)))
    (handles : ∀ past userId, Extends Effect.Harmless [] past →
      (request.handle runtime userId).Follows rule
        (fun now outcome => rule.allows now (.respond outcome)) past) :
    (serve runtime request).Abides rule [] := by
  have guarded : (request.guarded runtime).Follows rule
      (fun now outcome => rule.allows now (.respond outcome)) [] := by
    unfold Request.guarded
    split
    · exact handles [] 0 (extends_refl [])
    · rename_i guard
      exact (canActivate_uses _ _).follows_bind (fun now effect _ inside =>
        harmless now effect inside)
        (fun now user grown => handles now user.userId grown) fun now failure grown =>
          denied (by rw [guard]; nofun) now failure grown
  unfold serve
  rw [Abides, follows_bind, follows_attempt]
  refine guarded.weaken fun now outcome allowed => ?_
  refine follows_perform_bind.mpr ⟨allowed, fun _ _ => ?_, fun _ _ => trivial⟩
  exact follows_ofOutcome.mpr trivial

/-- The same for a rule that allows every response. -/
theorem serve_abides {rule : ServiceConduct} (request : Request)
    (harmless : ∀ past effect, effect.Harmless → rule.allows past effect)
    (responds : ∀ past outcome, rule.allows past (.respond outcome))
    (handles : ∀ past userId, Extends Effect.Harmless [] past →
      (request.handle runtime userId).Abides rule past) :
    (serve runtime request).Abides rule [] :=
  serve_follows runtime request harmless (fun _ past failure _ => responds past (.error failure))
    fun past userId grown => (handles past userId grown).weaken fun now outcome _ =>
      responds now outcome

/-- The guard lets in the subject of the token. -/
theorem canActivate_subject {rule : ServiceConduct} {metadata : Option RequiredType} {jwt : Jwt}
    {past : List ServiceEvent} (expectation : ∀ event, rule.expects event → Plausible event)
    (reads : rule.allows past (.userFindUnique (.byId jwt.payload.sub))) :
    (JwtAuthGuard.canActivate metadata jwt).Follows rule
      (fun _ outcome => ∀ user, outcome = .ok user → user.userId = jwt.payload.sub) past := by
  refine follows_bind.mpr (follows_attempt.mpr (follows_perform_bind.mpr
    ⟨reads, fun found expected => ?_, fun failure _ => ?_⟩))
  · refine follows_ofOutcome.mpr (follows_ofOutcome.mpr fun user admitted => ?_)
    cases found with
    | none => simp [JwtStrategy.validateRow, JwtAuthGuard.handleRequest] at admitted
    | some record =>
      have subject : record.user.id = jwt.payload.sub := expectation _ expected
      simp only [Option.map_some, JwtStrategy.validateRow] at admitted
      split at admitted
      · simp [JwtAuthGuard.handleRequest] at admitted
      · simp only [JwtAuthGuard.handleRequest] at admitted
        split at admitted
        · cases admitted
          exact subject
        · split at admitted
          · cases admitted
          · cases admitted
            exact subject
  · rw [ofOutcome_ok, done_bind]
    refine follows_ofOutcome.mpr fun user admitted => ?_
    cases admitted

/-- A guarded call keeps to a rule that allows the read of the guard and what the guard answers a
request that it turns away, when its handler does for the subject of the token and its response is
allowed. -/
theorem serve_subject_follows {rule : ServiceConduct} {request : Request} {jwt : Jwt}
    {metadata : Option RequiredType} (guard : request.guard = some (jwt, metadata))
    (expectation : ∀ event, rule.expects event → Plausible event)
    (reads : rule.allows [] (.userFindUnique (.byId jwt.payload.sub)))
    (denied : ∀ past failure, rule.allows past (.respond (.error failure)))
    (handles : ∀ past, (request.handle runtime jwt.payload.sub).Follows rule
      (fun now outcome => rule.allows now (.respond outcome)) past) :
    (serve runtime request).Abides rule [] := by
  have guarded : (request.guarded runtime).Follows rule
      (fun now outcome => rule.allows now (.respond outcome)) [] := by
    unfold Request.guarded
    simp only [guard]
    refine (canActivate_subject expectation reads).bind (fun now user admitted => ?_)
      fun now failure _ => denied now failure
    rw [admitted user rfl]
    exact handles now
  unfold serve
  rw [Abides, follows_bind, follows_attempt]
  refine guarded.weaken fun now outcome allowed => ?_
  exact follows_perform_bind.mpr ⟨allowed, fun _ _ => follows_ofOutcome.mpr trivial,
    fun _ _ => trivial⟩

/-- The same for a rule that allows every response. -/
theorem serve_subject_abides {rule : ServiceConduct} {request : Request} {jwt : Jwt}
    {metadata : Option RequiredType} (guard : request.guard = some (jwt, metadata))
    (expectation : ∀ event, rule.expects event → Plausible event)
    (reads : rule.allows [] (.userFindUnique (.byId jwt.payload.sub)))
    (responds : ∀ past outcome, rule.allows past (.respond outcome))
    (handles : ∀ past, (request.handle runtime jwt.payload.sub).Abides rule past) :
    (serve runtime request).Abides rule [] :=
  serve_subject_follows runtime guard expectation reads (fun past _ => responds past _)
    fun past => (handles past).weaken fun now outcome _ => responds now outcome

/-- A handler keeps to a rule that allows the whole footprint of its request. -/
theorem handle_abides {rule : ServiceConduct} (request : Request) (userId : UserId)
    {past : List ServiceEvent}
    (harmless : ∀ past effect, effect.Harmless → rule.allows past effect)
    (awaits : ∀ past effect, request.Awaits effect → rule.allows past effect) :
    (request.handle runtime userId).Abides rule past :=
  (handle_uses runtime userId request).abides fun now effect inside =>
    inside.elim (harmless now effect) (awaits now effect)

end GraconAuth
