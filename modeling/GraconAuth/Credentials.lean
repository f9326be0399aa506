/-
This file follows the tokens that are handed out with a lifetime: refresh tokens,
verification links and reset links. Each of the three tables is read as a store of
credentials, so that one argument serves all of them. A call that spends the row of a
credential has read one in that row which an earlier entry has issued for the account,
under the hash of the token that the request carries, and it has read the clock while
the credential was good: within thirty days, a day or an hour. Between the two a resend
may have put another link into the row.
-/

import GraconAuth.Entitlement
import GraconAuth.Tables

namespace GraconAuth

open Interleaving Program Rows

/-! ### Credentials -/

inductive CredentialKind where
  | session
  | link
  | reset
  deriving DecidableEq, Repr

/-- How long a credential is good for, in milliseconds. -/
def CredentialKind.lifetime : CredentialKind → Int
  | .session => AuthService.REFRESH_TOKEN_EXPIRY_MS
  | .link => UsersService.TOKEN_EXPIRY_MS
  | .reset => PasswordResetService.TOKEN_EXPIRY_MS

structure Credential where
  kind : CredentialKind
  userId : UserId
  tokenHash : TokenHash
  expiresAt : Timestamp
  deriving DecidableEq, Repr

def RefreshTokenRow.credential (row : RefreshTokenRow) : Credential :=
  ⟨.session, row.userId, row.tokenHash, row.expiresAt⟩

def EmailVerificationTokenRow.credential (row : EmailVerificationTokenRow) : Credential :=
  ⟨.link, row.userId, row.tokenHash, row.expiresAt⟩

def PasswordResetTokenRow.credential (row : PasswordResetTokenRow) : Credential :=
  ⟨.reset, row.userId, row.tokenHash, row.expiresAt⟩

/-- The credentials that the tables hold. -/
def Database.credentials (db : Database) : List Credential :=
  db.refreshTokens.map RefreshTokenRow.credential ++
    db.emailVerificationTokens.map EmailVerificationTokenRow.credential ++
    db.passwordResetTokens.map PasswordResetTokenRow.credential

/-- The credential that a statement stores. -/
def Statement.credential : Statement → Option Credential
  | .refreshTokenCreate data => some ⟨.session, data.userId, data.tokenHash, data.expiresAt⟩
  | .emailVerificationTokenUpsert userId tokenHash expiresAt _ =>
    some ⟨.link, userId, tokenHash, expiresAt⟩
  | .passwordResetTokenCreate data => some ⟨.reset, data.userId, data.tokenHash, data.expiresAt⟩
  | _ => none

/-- The row of a credential that a statement spends. -/
def Statement.spends : Statement → Option (CredentialKind × RowId)
  | .refreshTokenUpdate id => some (.session, id)
  | .emailVerificationTokenUpdate id => some (.link, id)
  | .passwordResetTokenUpdate id => some (.reset, id)
  | _ => none

/-- The credentials that an event has issued. -/
def issued : ServiceEvent → List Credential
  | ⟨.execute statements, .ok _⟩ => statements.filterMap Statement.credential
  | ⟨.registerTransaction data, .ok userId⟩ =>
    [⟨.link, userId, data.tokenHash, data.tokenExpiry⟩]
  | _ => []

/-- The credential that an event has read, with the id of its row. -/
def shown : ServiceEvent → Option (RowId × Credential)
  | ⟨.refreshTokenFindUnique _, .ok (some (row, _))⟩ => some (row.id, row.credential)
  | ⟨.emailVerificationTokenFindUnique _, .ok (some (row, _))⟩ => some (row.id, row.credential)
  | ⟨.passwordResetTokenFindFirst _ _, .ok (some row)⟩ => some (row.id, row.credential)
  | _ => none

/-- The token that a request carries to spend a credential. -/
def Request.token : Request → Option RawToken
  | .refreshTokens _ refreshToken _ _ | .upgradeSession _ refreshToken _ _ => some refreshToken
  | .verifyEmail dto => some dto.token
  | .resetPassword dto => some dto.token
  | _ => none

/-! ### The tables -/

variable {clock : Timestamp} {db next : Database}

theorem mem_credentials {credential : Credential} :
    credential ∈ db.credentials ↔
      (∃ row ∈ db.refreshTokens, row.credential = credential) ∨
        (∃ row ∈ db.emailVerificationTokens, row.credential = credential) ∨
        ∃ row ∈ db.passwordResetTokens, row.credential = credential := by
  simp only [Database.credentials, List.mem_append, List.mem_map, or_assoc]

/-- A statement stores its own credential and no other. -/
theorem Carried.credentials {statement : Statement} (carried : Carried clock db statement next)
    {credential : Credential} (member : credential ∈ next.credentials) :
    credential ∈ db.credentials ∨ statement.credential = some credential := by
  rw [mem_credentials] at member ⊢
  cases carried with
  | refreshTokenUpdate id present | refreshTokenUpdateMany filter =>
    left
    refine member.imp_left ?_
    rintro ⟨row, stored, rfl⟩
    obtain ⟨old, before, rfl⟩ := mem_updateWhere.mp stored
    refine ⟨old, before, ?_⟩
    split <;> rfl
  | refreshTokenCreate data free =>
    rcases member with ⟨row, stored, rfl⟩ | other
    · rcases List.mem_append.mp stored with old | new
      · exact .inl (.inl ⟨row, old, rfl⟩)
      · rw [List.mem_singleton.mp new]
        exact .inr rfl
    · exact .inl (.inr other)
  | refreshTokenDeleteMany now =>
    left
    refine member.imp_left ?_
    rintro ⟨row, stored, same⟩
    exact ⟨row, (mem_deleteWhere.mp stored).1, same⟩
  | emailVerificationTokenUpdate id present =>
    left
    refine member.imp_right (Or.imp_left ?_)
    rintro ⟨row, stored, rfl⟩
    obtain ⟨old, before, rfl⟩ := mem_updateWhere.mp stored
    refine ⟨old, before, ?_⟩
    split <;> rfl
  | emailVerificationTokenUpsert userId tokenHash expiresAt createdAt =>
    rcases member with session | ⟨row, stored, rfl⟩ | reset
    · exact .inl (.inl session)
    · rcases mem_upsertWhere stored with rfl | ⟨old, before, rfl⟩
      · exact .inr rfl
      · split
        · rename_i own
          rw [← beq_iff_eq.mp own]
          exact .inr rfl
        · exact .inl (.inr (.inl ⟨old, before, rfl⟩))
    · exact .inl (.inr (.inr reset))
  | passwordResetTokenUpdateMany userId | passwordResetTokenUpdate id present =>
    left
    refine member.imp_right (Or.imp_right ?_)
    rintro ⟨row, stored, rfl⟩
    obtain ⟨old, before, rfl⟩ := mem_updateWhere.mp stored
    refine ⟨old, before, ?_⟩
    split <;> rfl
  | passwordResetTokenCreate data =>
    rcases member with session | link | ⟨row, stored, rfl⟩
    · exact .inl (.inl session)
    · exact .inl (.inr (.inl link))
    · rcases List.mem_append.mp stored with old | new
      · exact .inl (.inr (.inr ⟨row, old, rfl⟩))
      · rw [List.mem_singleton.mp new]
        exact .inr rfl
  | _ => exact .inl member

theorem register_credentials {data : RegistrationCreate} (ran : db.register clock data = .ok next)
    {credential : Credential} (member : credential ∈ next.credentials) :
    credential ∈ db.credentials ∨
      credential = ⟨.link, db.nextId, data.tokenHash, data.tokenExpiry⟩ := by
  rw [mem_credentials] at member ⊢
  unfold Database.register at ran
  split at ran
  · cases ran
  · cases ran
    rcases member with session | ⟨row, stored, rfl⟩ | reset
    · exact .inl (.inl session)
    · rcases List.mem_append.mp stored with old | new
      · exact .inl (.inr (.inl ⟨row, old, rfl⟩))
      · rw [List.mem_singleton.mp new]
        exact .inr rfl
    · exact .inl (.inr (.inr reset))

/-- A credential was there before an effect, or the effect has issued it. -/
theorem performs_credentials {state after : State} {effect : Effect}
    {reply : Except Failure effect.Reply} (performs : environment.Performs state effect reply after)
    {credential : Credential} (member : credential ∈ after.db.credentials) :
    credential ∈ state.db.credentials ∨ credential ∈ issued ⟨effect, reply⟩ := by
  rcases performs_db performs with
    same | ⟨statements, event, ran⟩ | ⟨data, event, ran⟩ | ⟨log, same⟩
  · rw [same] at member
    exact .inl member
  · rw [event]
    refine runAll_preserves (fun db => ∀ credential ∈ db.credentials,
      credential ∈ state.db.credentials ∨ credential ∈ issued ⟨.execute statements, .ok ()⟩) ran ?_
      (fun _ stored => .inl stored) credential member
    intro statement listed now later traced carried other stored
    rcases carried.credentials stored with old | new
    · exact traced other old
    · exact .inr (List.mem_filterMap.mpr ⟨statement, listed, new⟩)
  · rw [event]
    exact (register_credentials ran member).imp_right List.mem_singleton.mpr
  · rw [same] at member
    exact .inl member

/-- What is read as a credential is in the tables. -/
theorem performs_shown {state after : State} {effect : Effect} {reply : Except Failure effect.Reply}
    (performs : environment.Performs state effect reply after) {id : RowId}
    {credential : Credential} (reads : shown ⟨effect, reply⟩ = some (id, credential)) :
    credential ∈ state.db.credentials := by
  rw [mem_credentials]
  unfold shown at reads
  split at reads
  · rename_i tokenHash row user same
    cases same
    cases reads
    exact .inl ⟨row, (findRefreshTokenWithUser_some
      (performs_refreshTokenFindUnique performs).symm).1, rfl⟩
  · rename_i userId row record same
    cases same
    cases reads
    exact .inr (.inl ⟨row, (findEmailVerificationTokenWithUser_some
      (performs_emailVerificationTokenFindUnique performs).symm).1, rfl⟩)
  · rename_i userId tokenHash row same
    cases same
    cases reads
    exact .inr (.inr ⟨row, (findPasswordResetToken_some
      (performs_passwordResetTokenFindFirst performs).symm).1, rfl⟩)
  · cases reads

/-! ### The rule -/

variable (runtime : Runtime)

/-- By the clock that the call has read, a credential is good for its lifetime from now on. -/
def Dated (past : List ServiceEvent) (credential : Credential) : Prop :=
  ∃ now, ⟨.now, .ok now⟩ ∈ past ∧ credential.expiresAt = now + credential.kind.lifetime

/-- The call has read a credential that is good, under the token that its request carries, for an
account that it is entitled to. -/
def Spendable (request : Request) (past : List ServiceEvent) (kind : CredentialKind) (id : RowId) :
    Prop :=
  ∃ credential rawToken, (∃ event ∈ past, shown event = some (id, credential)) ∧
    credential.kind = kind ∧ request.token = some rawToken ∧
    credential.tokenHash = runtime.hash rawToken ∧ InTime past credential.expiresAt ∧
    EntitledTo runtime past credential.userId request

/-- What is stored as a credential is dated, and what is spent is good. -/
def Statement.Punctual (request : Request) (past : List ServiceEvent) (statement : Statement) :
    Prop :=
  (∀ credential ∈ statement.credential, Dated past credential) ∧
    ∀ kind id, statement.spends = some (kind, id) → Spendable runtime request past kind id

/-- A call issues credentials for their lifetime and spends good ones. -/
def punctual (request : Request) (past : List ServiceEvent) : Effect → Prop
  | .execute statements => ∀ statement ∈ statements, statement.Punctual runtime request past
  | .registerTransaction data => ∃ now, ⟨.now, .ok now⟩ ∈ past ∧
    data.tokenExpiry = now + CredentialKind.lifetime .link
  | _ => True

theorem harmless_punctual {request : Request} (past : List ServiceEvent) (effect : Effect)
    (harmless : effect.Harmless) : punctual runtime request past effect := by
  cases effect with
  | execute statements => exact harmless.elim
  | registerTransaction data => exact harmless.elim
  | _ => trivial

variable {runtime}

theorem idle_punctual {request : Request} {past : List ServiceEvent} {statement : Statement}
    (storeless : statement.credential = none) (unspent : statement.spends = none) :
    statement.Punctual runtime request past := by
  refine ⟨fun credential stores => ?_, fun kind id spends => ?_⟩
  · rw [storeless] at stores
    cases stores
  · rw [unspent] at spends
    cases spends

theorem store_punctual {request : Request} {past : List ServiceEvent} {statement : Statement}
    {credential : Credential} (stores : statement.credential = some credential)
    (unspent : statement.spends = none) (dated : Dated past credential) :
    ∀ other ∈ [statement], other.Punctual runtime request past := by
  refine List.forall_mem_singleton.mpr ⟨fun other stored => ?_, fun kind id spends => ?_⟩
  · rw [stores] at stored
    cases stored
    exact dated
  · rw [unspent] at spends
    cases spends

theorem spend_punctual {request : Request} {past : List ServiceEvent} {statement : Statement}
    {kind : CredentialKind} {id : RowId} (storeless : statement.credential = none)
    (spends : statement.spends = some (kind, id))
    (spendable : Spendable runtime request past kind id) :
    statement.Punctual runtime request past := by
  refine ⟨fun credential stores => ?_, fun other row spent => ?_⟩
  · rw [storeless] at stores
    cases stores
  · rw [spends] at spent
    cases spent
    exact spendable

/-! ### The calls -/

section Traversal

variable {request : Request} {past : List ServiceEvent}

theorem generateTokens_punctual (userId : UserId) (email : Email) (ipAddress userAgent : String)
    (tokenType : TokenType) :
    (AuthService.generateTokens runtime userId email ipAddress userAgent tokenType).Abides
      (conduct (punctual runtime request)) past := by
  refine abides_perform_bind trivial fun accessToken _ => abides_perform_bind trivial
    fun token _ => abides_perform_bind trivial fun now _ => abides_perform_bind ?_ fun _ _ =>
      trivial
  exact store_punctual rfl rfl ⟨now, List.mem_cons_self, rfl⟩

theorem replaceVerificationToken_punctual (userId : UserId) (recipient : Email)
    (identity : Option CitizenIdentityRow) :
    (UsersService.replaceVerificationToken runtime userId recipient identity).Abides
      (conduct (punctual runtime request)) past := by
  refine abides_perform_bind trivial fun token _ => abides_perform_bind trivial fun now _ =>
    abides_perform_bind (store_punctual rfl rfl ⟨now, List.mem_cons_self, rfl⟩) fun _ _ =>
      abides_rescue (abides_perform trivial) fun _ _ => trivial

theorem register_punctual (dto : UsersService.RegisterDto) :
    (UsersService.register runtime dto).Abides (conduct (punctual runtime (.register dto)))
      past := by
  have harmless : ∀ past effect, effect.Harmless → punctual runtime (.register dto) past effect :=
    harmless_punctual runtime
  refine (assertExclusiveIdentityInput_uses dto).abides_bind harmless fun _ _ _ =>
    (resolveRegistrationIdentity_uses dto).abides_bind harmless fun _ identity _ =>
    abides_perform_bind trivial fun _ _ => abides_throwIf_bind fun _ =>
    abides_perform_bind trivial fun _ _ => abides_throwIf_bind fun _ =>
    (bcryptHash_uses runtime _).abides_bind harmless fun _ _ _ =>
    (encrypt_uses runtime _).abides_bind harmless fun _ _ _ =>
    (generate_uses runtime _).abides_bind harmless fun _ _ _ =>
    (encrypt_uses runtime _).abides_bind harmless fun _ _ _ =>
    abides_perform_bind trivial fun _ _ => abides_perform_bind trivial fun now _ =>
    abides_rescue_perform_bind ⟨now, List.mem_cons_self, rfl⟩ (fun _ => ?_) fun _ => trivial
  exact Abides.bind (abides_rescue (abides_perform trivial) fun _ _ => trivial) fun _ _ => trivial

theorem login_punctual (dto : AuthService.LoginDto) (ipAddress userAgent : String) :
    (AuthService.login runtime dto ipAddress userAgent).Abides (conduct (punctual runtime request))
      past := by
  refine abides_perform_bind trivial fun user _ => ?_
  split
  · exact abides_perform_bind trivial fun _ _ => trivial
  · exact abides_perform_bind trivial fun _ _ => abides_throwIf_bind fun _ => abides_throwIf_bind
      fun _ => Abides.bind (generateTokens_punctual _ _ _ _ _) fun _ _ =>
        (buildSafeProfile_uses runtime _).abides_bind (harmless_punctual runtime)
          fun _ _ _ => trivial

theorem verifyEmail_punctual (dto : UsersService.VerifyEmailDto) :
    (UsersService.verifyEmail runtime dto).Abides (conduct (punctual runtime (.verifyEmail dto)))
      past := by
  have harmless : ∀ past effect, effect.Harmless →
      punctual runtime (.verifyEmail dto) past effect := harmless_punctual runtime
  refine abides_perform_bind trivial fun found expected => ?_
  match found with
  | none => trivial
  | some (tokenRecord, record) =>
    dsimp only
    split
    · trivial
    · rename_i unverified
      refine abides_throwIf_bind fun unused => abides_perform_bind trivial fun now _ =>
        abides_throwIf_bind fun early => abides_throwIf_bind fun matching =>
          abides_perform_bind (List.forall_mem_cons.mpr ⟨idle_punctual rfl rfl,
            List.forall_mem_singleton.mpr (spend_punctual rfl rfl ?_)⟩) fun _ _ =>
              (decryptPid_uses runtime record).abides_bind harmless fun _ _ _ =>
                (sendWelcomeEmail_uses _ _ _ _).abides_bind harmless fun _ _ _ => ?_
      · have inTime : InTime (⟨.now, .ok now⟩ :: ⟨.emailVerificationTokenFindUnique dto.userId,
            .ok (some (tokenRecord, record))⟩ :: past) tokenRecord.expiresAt :=
          ⟨now, List.mem_cons_self, by simpa using early⟩
        have same : tokenRecord.tokenHash = runtime.hash dto.token :=
          Eq.symm (by simpa [EncryptionService.compareHash] using matching)
        exact ⟨tokenRecord.credential, dto.token,
          ⟨_, List.mem_cons_of_mem _ List.mem_cons_self, rfl⟩, rfl, rfl, same, inTime, expected.1,
          tokenRecord, record, List.mem_cons_of_mem _ List.mem_cons_self,
          by simpa using unverified, unused, inTime, same⟩
      · split
        · trivial
        · refine Abides.bind (abides_perform_bind trivial fun _ _ => abides_perform_bind trivial
            fun _ _ => abides_perform_bind trivial fun now _ => abides_perform_bind ?_
              fun _ _ => trivial) fun _ _ => (buildVerificationSessionProfile_uses runtime
                record).abides_bind harmless fun _ _ _ => trivial
          exact store_punctual rfl rfl ⟨now, List.mem_cons_self, rfl⟩

theorem resendVerificationEmail_punctual (dto : UsersService.ResendVerificationDto) :
    (UsersService.resendVerificationEmail runtime dto).Abides (conduct (punctual runtime request))
      past := by
  unfold UsersService.resendVerificationEmail
  split
  · trivial
  · refine abides_perform_bind trivial fun user _ => ?_
    cases user with
    | none => trivial
    | some record =>
      dsimp only
      split
      · trivial
      · refine abides_perform_bind trivial fun _ _ => abides_perform_bind trivial fun _ _ => ?_
        split
        · trivial
        · exact Abides.bind (replaceVerificationToken_punctual _ _ _) fun _ _ => trivial

theorem rotateRefreshToken_punctual {refreshToken : RawToken} (ipAddress userAgent : String)
    (requireFullToken : Bool) (carries : request.token = some refreshToken)
    (presents : ∀ now storedToken user,
      ReadToken now (runtime.hash refreshToken) storedToken user →
        EntitledTo runtime now user.id request) :
    (AuthService.rotateRefreshToken runtime (runtime.hash refreshToken) ipAddress userAgent
      requireFullToken).Abides (conduct (punctual runtime request)) past := by
  refine abides_perform_bind trivial fun found expected => ?_
  match found with
  | none => trivial
  | some (storedToken, user) =>
    dsimp only
    split
    · exact abides_perform_bind (List.forall_mem_singleton.mpr (idle_punctual rfl rfl))
        fun _ _ => abides_perform_bind trivial fun _ _ => trivial
    · refine abides_perform_bind trivial fun now _ => abides_throwIf_bind fun early =>
        abides_throwIf_bind fun _ => abides_throwIf_bind fun _ => abides_perform_bind
          (List.forall_mem_singleton.mpr (spend_punctual rfl rfl ?_)) fun _ _ =>
            generateTokens_punctual _ _ _ _ _
      have read : ReadToken (⟨.now, .ok now⟩ :: ⟨.refreshTokenFindUnique
          (runtime.hash refreshToken), .ok (some (storedToken, user))⟩ :: past)
          (runtime.hash refreshToken) storedToken user :=
        List.mem_cons_of_mem _ List.mem_cons_self
      have inTime : InTime (⟨.now, .ok now⟩ :: ⟨.refreshTokenFindUnique (runtime.hash refreshToken),
          .ok (some (storedToken, user))⟩ :: past) storedToken.expiresAt :=
        ⟨now, List.mem_cons_self, by simpa using early⟩
      have entitled := presents _ storedToken user read
      rw [show user.id = storedToken.userId from expected.2] at entitled
      exact ⟨storedToken.credential, refreshToken, ⟨_, read, rfl⟩, rfl, carries, expected.1,
        inTime, entitled⟩

theorem runSingleFlightRefresh_punctual {key : FlightKey} {task : Async AuthTokens}
    (inner : ∀ now, task.Abides (conduct (punctual runtime request)) now) :
    (AuthService.runSingleFlightRefresh key task).Abides (conduct (punctual runtime request))
      past := by
  refine abides_perform_bind trivial fun role _ => ?_
  cases role with
  | follower flight => exact abides_perform trivial
  | leader flight =>
    exact Abides.bind (inner _).attempt fun _ outcome => abides_perform_bind trivial fun _ _ =>
      follows_ofOutcome.mpr trivial

theorem requestReset_punctual (email : Email) :
    (PasswordResetService.requestReset runtime email).Abides (conduct (punctual runtime request))
      past := by
  refine abides_perform_bind trivial fun user _ => ?_
  split
  · exact (bcryptHash_uses runtime email).abides_bind (harmless_punctual runtime)
      fun _ _ _ => trivial
  · refine abides_perform_bind (List.forall_mem_singleton.mpr (idle_punctual rfl rfl)) fun _ _ =>
      abides_perform_bind trivial fun _ _ => abides_perform_bind trivial fun now _ =>
        abides_rescue_perform_bind (store_punctual rfl rfl ⟨now, List.mem_cons_self, rfl⟩)
          (fun _ => ?_) fun _ => trivial
    exact (sendPasswordResetEmail_uses _ _ _ _ _).abides_bind (harmless_punctual runtime)
      fun _ _ _ => abides_perform_bind trivial fun _ _ => trivial

theorem resetPassword_punctual (dto : PasswordResetService.ResetPasswordDto) :
    (PasswordResetService.resetPassword runtime dto).Abides
      (conduct (punctual runtime (.resetPassword dto))) past := by
  refine abides_throwIf_bind fun _ => Follows.bind (?_ : Follows _ (Results fun now tokenLookup =>
    ∀ tokenId, tokenLookup = .ok tokenId →
      Spendable runtime (.resetPassword dto) now .reset tokenId)
    _ _) (fun now tokenLookup valid => ?_) fun _ _ _ => trivial
  · refine results_perform_bind trivial fun found expected => ?_
    match found with
    | none => exact results_ok.mpr nofun
    | some row =>
      dsimp only
      split
      · exact results_ok.mpr nofun
      · rename_i unused
        refine results_perform_bind trivial fun now _ => ?_
        split
        · exact results_ok.mpr nofun
        · rename_i early
          refine results_ok.mpr fun tokenId same => ?_
          cases same
          have inTime : InTime (⟨.now, .ok now⟩ :: ⟨.passwordResetTokenFindFirst dto.userId
              (runtime.hash dto.token), .ok (some row)⟩ :: past) row.expiresAt :=
            ⟨now, List.mem_cons_self, by simpa using early⟩
          exact ⟨row.credential, dto.token, ⟨_, List.mem_cons_of_mem _ List.mem_cons_self, rfl⟩,
            rfl, rfl, expected.2, inTime, expected.1, row,
            List.mem_cons_of_mem _ List.mem_cons_self, by simpa using unused, inTime⟩
  · cases tokenLookup with
    | error reason => trivial
    | ok tokenId =>
      have spendable := results_ok.mp valid tokenId rfl
      refine (bcryptHash_uses runtime _).abides_bind (harmless_punctual runtime)
        fun later _ grown => abides_perform_bind (List.forall_mem_cons.mpr ⟨idle_punctual rfl rfl,
          List.forall_mem_cons.mpr ⟨spend_punctual rfl rfl ?_, List.forall_mem_singleton.mpr
            (idle_punctual rfl rfl)⟩⟩) fun _ _ => abides_perform_bind trivial fun _ _ => trivial
      obtain ⟨credential, rawToken, ⟨event, past, reads⟩, kind, carries, same, inTime, entitled⟩ :=
        spendable
      exact ⟨credential, rawToken, ⟨event, grown.mem past, reads⟩, kind, carries, same,
        inTime.mono fun _ => grown.mem, entitled.extends grown⟩

theorem updateProfile_punctual (userId : UserId) (dto : UsersService.UpdateProfileDto) :
    (UsersService.updateProfile runtime userId dto).Abides (conduct (punctual runtime request))
      past := by
  refine abides_perform_bind trivial fun user _ => ?_
  cases user with
  | none => trivial
  | some record =>
    have write : ∀ (email : Option Email) (now : List ServiceEvent),
        ∀ statement ∈ [Statement.userUpdate userId (dto.updateData email)],
          statement.Punctual runtime request now := fun _ _ =>
      List.forall_mem_singleton.mpr (idle_punctual rfl rfl)
    dsimp only
    split
    · exact abides_perform_bind (write none _) fun _ _ =>
        (getProfile_uses runtime _).abides (harmless_punctual runtime)
    · exact (rejectTakenEmail_uses _ _).abides_bind (harmless_punctual runtime)
        fun now _ _ => abides_perform_bind (write (some _) now) fun _ _ =>
          Abides.bind (replaceVerificationToken_punctual _ _ _) fun _ _ =>
            (getProfile_uses runtime _).abides (harmless_punctual runtime)

theorem submitVerification_punctual (userId : UserId)
    (dto : VerificationService.SubmitVerificationDto) (ipAddress : String) :
    (VerificationService.submitVerification runtime userId dto ipAddress).Abides
      (conduct (punctual runtime request)) past := by
  have harmless : ∀ past effect, effect.Harmless → punctual runtime request past effect :=
    harmless_punctual runtime
  have window : ∀ past effect,
      (effect.Harmless ∨ ∃ userId since, effect = .idVerificationFindMany userId since) →
        punctual runtime request past effect := by
    rintro past effect (inside | ⟨_, _, rfl⟩)
    · exact harmless past effect inside
    · trivial
  have idle : ∀ {now : List ServiceEvent} {statement : Statement}, statement.credential = none →
      statement.spends = none → ∀ other ∈ [statement], other.Punctual runtime request now :=
    fun storeless unspent => List.forall_mem_singleton.mpr (idle_punctual storeless unspent)
  have records : ∀ data past,
      (VerificationService.recordAttempt data).Abides (conduct (punctual runtime request)) past :=
    fun data past => abides_rescue (abides_perform (idle rfl rfl)) fun _ _ => trivial
  refine abides_perform_bind trivial fun user _ => ?_
  cases user with
  | none => trivial
  | some record =>
    refine abides_throwIf_bind fun _ => abides_throwIf_bind fun _ => abides_throwIf_bind fun _ =>
      (enforceAttemptLimit_uses runtime userId).abides_bind window fun _ _ _ => ?_
    unfold VerificationService.verifyIdentity
    split
    · trivial
    · refine abides_throwIf_bind fun _ => (decrypt_uses runtime _).abides_bind harmless
        fun _ _ _ => (uploadImages_uses _ _ _).abides_bind harmless fun _ _ _ => Abides.bind
          (Abides.attempt (abides_rescue (abides_perform trivial) fun _ _ => trivial))
            fun _ answer => ?_
      cases answer with
      | error failure =>
        exact (cleanupImages_uses _ _).abides_bind harmless fun _ _ _ =>
          (getNextAttemptNumber_uses _).abides_bind harmless fun _ _ _ =>
            (records _ _).bind fun _ _ => trivial
      | ok answer =>
        refine (getNextAttemptNumber_uses _).abides_bind harmless fun _ _ _ =>
          (records _ _).bind fun _ _ => (cleanupImages_uses _ _).abides_bind harmless
            fun _ _ _ => Abides.bind ?_ fun _ _ => abides_perform_bind trivial fun _ _ =>
              (getVerificationWindowState_uses runtime userId).abides_bind window
                fun _ _ _ => trivial
        unfold VerificationService.applyVerdict
        split
        · refine abides_perform_bind trivial fun _ _ => abides_perform_bind (idle rfl rfl)
            fun _ _ => Abides.bind (abides_perform_bind (idle rfl rfl) fun _ _ =>
              abides_perform_bind trivial fun user _ => ?_) fun _ _ => trivial
          cases user with
          | none => trivial
          | some record => exact generateTokens_punctual _ _ _ _ _
        · exact abides_perform_bind (idle rfl rfl) fun _ _ => trivial

end Traversal

/-- A request that is not looked into stores and spends nothing. -/
theorem awaits_punctual {request : Request}
    (idle : ∀ statement, request.Writes statement →
      statement.credential = none ∧ statement.spends = none)
    (past : List ServiceEvent) (effect : Effect) (awaits : request.Awaits effect)
    (registerless : ∀ data, effect ≠ .registerTransaction data) :
    punctual runtime request past effect := by
  cases effect with
  | execute statements =>
    intro statement listed
    obtain ⟨storeless, unspent⟩ := idle statement (awaits_writes awaits statement listed)
    exact idle_punctual storeless unspent
  | registerTransaction data => exact absurd rfl (registerless data)
  | _ => trivial

variable (runtime)

/-- Every call keeps to the rule. -/
theorem serve_punctual (request : Request) :
    (serve runtime request).Abides (conduct (punctual runtime request)) [] := by
  refine serve_abides runtime request (harmless_punctual runtime) (fun _ _ => trivial)
    fun past userId _ => ?_
  cases request with
  | register dto => exact (register_punctual dto).bind fun _ _ => trivial
  | verifyEmail dto => exact (verifyEmail_punctual dto).bind fun _ _ => trivial
  | resendVerificationEmail dto =>
    exact (resendVerificationEmail_punctual dto).bind fun _ _ => trivial
  | login dto ipAddress userAgent =>
    exact (login_punctual dto ipAddress userAgent).bind fun _ _ => trivial
  | refreshTokens process refreshToken ipAddress userAgent =>
    have rotates : ∀ now, (AuthService.rotateRefreshToken runtime (runtime.hash refreshToken)
        ipAddress userAgent false).Abides (conduct (punctual runtime
          (.refreshTokens process refreshToken ipAddress userAgent))) now := fun now =>
      rotateRefreshToken_punctual _ _ _ rfl fun _ storedToken user read =>
        ⟨storedToken, user, read, rfl⟩
    exact (runSingleFlightRefresh_punctual rotates).bind fun _ _ => trivial
  | upgradeSession process refreshToken ipAddress userAgent =>
    have rotates : ∀ now, (AuthService.rotateRefreshToken runtime (runtime.hash refreshToken)
        ipAddress userAgent true).Abides (conduct (punctual runtime
          (.upgradeSession process refreshToken ipAddress userAgent))) now := fun now =>
      rotateRefreshToken_punctual _ _ _ rfl fun _ storedToken user read =>
        ⟨storedToken, user, read, rfl⟩
    exact Abides.bind (Abides.bind (runSingleFlightRefresh_punctual rotates) fun _ _ =>
      abides_throwIf_bind fun _ => trivial) fun _ _ => trivial
  | requestReset email => exact (requestReset_punctual email).bind fun _ _ => trivial
  | resetPassword dto => exact (resetPassword_punctual dto).bind fun _ _ => trivial
  | updateProfile jwt dto => exact (updateProfile_punctual userId dto).bind fun _ _ => trivial
  | submitVerification jwt dto ipAddress =>
    exact (submitVerification_punctual userId dto ipAddress).bind fun _ _ => trivial
  | validateResetToken _ _ | logout _ _ | logoutAllDevices _ | getProfile _ | changePassword _ _
  | getVerificationStatus _ | cleanupExpiredTokens =>
    refine handle_abides runtime _ userId (harmless_punctual runtime) fun now effect awaits =>
      awaits_punctual (fun statement writes => ?_) now effect awaits ?_
    · cases statement <;> first | exact writes.elim | exact ⟨rfl, rfl⟩
    · rintro data rfl
      simp [Request.Awaits] at awaits

variable {runtime}

/-! ### The runs -/

section Chronicles

variable {regime : Regime State Effect.Reply Failure Request} {world : ServiceWorld}

/-- Some entry has issued the credential, and it is good for no longer than its lifetime from
then. -/
def HandedOut (history : List ServiceEntry) (credential : Credential) : Prop :=
  ∃ issue ∈ history, credential ∈ issued issue.event ∧
    credential.expiresAt ≤ issue.after.clock + credential.kind.lifetime

theorem HandedOut.mono {history later : List ServiceEntry} {credential : Credential}
    (handedOut : HandedOut history credential) (grown : history ⊆ later) :
    HandedOut later credential := by
  obtain ⟨issue, member, rest⟩ := handedOut
  exact ⟨issue, grown member, rest⟩

/-- A clock that has been read has not gone back. -/
theorem dated_bound {initial : State} {rule : Request → ServiceConduct}
    (chronicle : Chronicle (service runtime) regime rule initial world) {thread : Nat}
    {credential : Credential} (dated : Dated (world.past thread) credential) :
    credential.expiresAt ≤ world.state.clock + credential.kind.lifetime := by
  obtain ⟨now, past, expires⟩ := dated
  obtain ⟨entry, member, _, same⟩ := World.mem_past.mp past
  have read : now ≤ world.state.clock := by
    refine chronicle.lasts (fun state => now ≤ state.clock)
      (fun _ _ _ _ performs holds => Int.le_trans holds (performs_clock performs)) member (.inr ?_)
    obtain ⟨_, _, admissible, _⟩ := chronicle.recalls member
    have performs : environment.Performs entry.before entry.effect entry.reply entry.after :=
      admissible.performs
    exact Int.le_of_eq (Except.ok.inj (performs_now (performs_event performs same)))
  rw [expires]
  exact Int.add_le_add_right read _

/-- The credentials of an event that keeps to the rule are dated. -/
theorem issued_dated {request : Request} {past : List ServiceEvent} {event : ServiceEvent}
    (ruled : punctual runtime request past event.effect) {credential : Credential}
    (member : credential ∈ issued event) : Dated past credential := by
  obtain ⟨effect, reply⟩ := event
  unfold issued at member
  split at member
  · rename_i statements value same
    cases same
    obtain ⟨statement, listed, stores⟩ := List.mem_filterMap.mp member
    exact (ruled statement listed).1 credential stores
  · rename_i data userId same
    cases same
    obtain rfl := List.mem_singleton.mp member
    exact ruled
  · cases member

theorem chronicle_handedOut {clock : Timestamp}
    (chronicle : Chronicle (service runtime) regime
      (fun request => conduct (punctual runtime request)) (State.empty clock) world) :
    ∀ credential ∈ world.state.db.credentials, HandedOut world.history credential := by
  refine chronicle.invariant (fun world => ∀ credential ∈ world.state.db.credentials,
    HandedOut world.history credential) (fun credential member => absurd member List.not_mem_nil) ?_
  intro world entry earlier handedOut admissible credential member
  have performs : environment.Performs entry.before entry.effect entry.reply entry.after :=
    admissible.performs
  have current : entry.before = world.state := admissible.current
  rw [World.record_state] at member
  rcases performs_credentials performs member with old | new
  · exact (handedOut credential (current ▸ old)).mono (List.subset_cons_self _ _)
  · refine ⟨entry, List.mem_cons_self, new, ?_⟩
    have dated : Dated (world.past entry.thread) credential :=
      @issued_dated runtime entry.request _ entry.event admissible.ruled credential new
    refine Int.le_trans (dated_bound earlier dated) (Int.add_le_add_right ?_ _)
    rw [← current]
    exact performs_clock performs

end Chronicles

/-- In every run the row of a credential is spent by a call that has read one in this row. Its
request carries the token of what it has read, and it is entitled to the account; an earlier entry
has issued the credential, for that account and under the hash of that token, and the call has read
the clock within its lifetime from then. -/
theorem credentials_expire {clock : Timestamp} {pool : ServicePool}
    (reachable : Reachable (service runtime) .free (State.empty clock) pool)
    {newer older : List ServiceEntry} {entry : ServiceEntry}
    (split : pool.world.history = newer ++ entry :: older) {statement : Statement}
    (listed : statement ∈ executed entry.event) {kind : CredentialKind} {id : RowId}
    (spends : statement.spends = some (kind, id)) :
    ∃ credential rawToken,
      (∃ event ∈ World.past ⟨entry.before, older⟩ entry.thread,
        shown event = some (id, credential)) ∧
      credential.kind = kind ∧ entry.request.token = some rawToken ∧
      credential.tokenHash = runtime.hash rawToken ∧
      EntitledTo runtime (World.past ⟨entry.before, older⟩ entry.thread) credential.userId
        entry.request ∧
      ∃ issue ∈ older, credential ∈ issued issue.event ∧
        ∃ now, ⟨.now, .ok now⟩ ∈ World.past ⟨entry.before, older⟩ entry.thread ∧
          now ≤ issue.after.clock + kind.lifetime := by
  have chronicle := reachable_chronicle (punctual runtime) reachable fun request _ =>
    serve_punctual runtime request
  obtain ⟨earlier, admissible⟩ := chronicle.admissible split
  have executes := mem_executed listed
  have ruled : punctual runtime entry.request
      (World.past ⟨entry.before, older⟩ entry.thread) entry.effect := admissible.ruled
  rw [show entry.effect = .execute (executed entry.event) from
    congrArg Event.effect executes] at ruled
  obtain ⟨credential, rawToken, ⟨event, past, reads⟩, same, carries, hashed, ⟨now, clocked, early⟩,
    entitled⟩ := (ruled statement listed).2 kind id spends
  subst same
  refine ⟨credential, rawToken, ⟨event, past, reads⟩, rfl, carries, hashed, entitled, ?_⟩
  obtain ⟨read, member, _, rfl⟩ := World.mem_past.mp past
  obtain ⟨before, chronicleBefore, admissibleRead, kept⟩ := earlier.recalls member
  have stored := performs_shown admissibleRead.performs reads
  rw [admissibleRead.current] at stored
  obtain ⟨issue, old, issues, bound⟩ := chronicle_handedOut chronicleBefore credential stored
  exact ⟨issue, kept old, issues, now, clocked, Int.le_trans early bound⟩

/-- The link of the registration is spent by the verification that follows it. -/
theorem credentials_expire_signedIn :
    ∃ (entry : ServiceEntry) (older : List ServiceEntry) (credential : Credential)
      (rawToken : RawToken),
      (∃ event ∈ World.past ⟨entry.before, older⟩ entry.thread,
        shown event = some (3, credential)) ∧
      entry.request.token = some rawToken ∧
      credential.tokenHash = legibleRuntime.hash rawToken ∧
      ∃ issue ∈ older, credential ∈ issued issue.event ∧
        ∃ now, ⟨.now, .ok now⟩ ∈ World.past ⟨entry.before, older⟩ entry.thread ∧
          now ≤ issue.after.clock + CredentialKind.lifetime .link := by
  obtain ⟨entry, member, statement, listed, spends⟩ :
      ∃ entry ∈ (played .lax signedIn).world.history, ∃ statement ∈ executed entry.event,
        statement.spends = some (.link, 3) := by
    decide
  obtain ⟨newer, older, split⟩ := List.append_of_mem member
  obtain ⟨credential, rawToken, read, _, carries, hashed, _, issue⟩ := credentials_expire
    (played_reachable Referee.lax_upholds signedIn) split listed spends
  exact ⟨entry, older, credential, rawToken, read, carries, hashed, issue⟩

end GraconAuth
