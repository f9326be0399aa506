/-
This file proves that a passed submission promotes an account. A citizen who has not
proven an identity gets limited sessions only, and these do not open the profile. When
the engine passes a submission, which it can as long as attempts are left, the answer
brings a full session; that session opens the profile, and so does every later login.
Attempts are left again when the window has gone by, so that no citizen is locked out
for good.
-/

import GraconAuth.AttemptWindow
import GraconAuth.Recovery

namespace GraconAuth

open Interleaving Program Rows VerificationService

variable {runtime : Runtime} {db next : Database} {user : UserRow} {clock : Timestamp}
  {state : State} {token : RawToken} {supply : Supply} {jwt : Jwt}

/-! ### The submission -/

/-- The file passes the checks of an upload. -/
structure UploadedFile.Fit (file : UploadedFile) : Prop where
  given : file.buffer.isSome = true
  mimetype : S3Service.ALLOWED_IMAGE_TYPES.contains file.mimetype = true
  size : file.size ≤ S3Service.MAX_FILE_SIZE_BYTES

theorem uploadVerificationImage_returns {file : UploadedFile} (fit : file.Fit) (userId : UserId)
    (imageType : String) :
    (S3Service.uploadVerificationImage userId imageType file).Returns (calm supply) (fun _ now =>
      Meanwhile state now state.db state.outbox) state := by
  unfold S3Service.uploadVerificationImage S3Service.validateFile S3Service.uploadToS3
  rw [Program.bind_assoc]
  refine guarantees_passed (by rw [Option.isNone_eq_false_iff]; exact fit.given) ?_
  rw [Program.bind_assoc]
  refine guarantees_passed (by rw [fit.mimetype]; rfl) ?_
  refine guarantees_passed (decide_eq_false (Nat.not_lt.mpr fit.size)) ?_
  refine Returns.bind returns_randomBytes fun hex drawn first => ?_
  refine (Returns.rescue (returns_putObject _) _).bind fun _ stored second => ?_
  exact returns_done (first.wait second)

theorem uploadImages_returns {idCardFile selfieFile : UploadedFile} (idCard : idCardFile.Fit)
    (selfie : selfieFile.Fit) (userId : UserId) :
    (uploadImages userId idCardFile selfieFile).Returns (calm supply) (fun _ now =>
      Meanwhile state now state.db state.outbox) state := by
  unfold uploadImages
  refine (uploadVerificationImage_returns idCard _ _).attempt.bind ?_
  rintro _ between ⟨key, rfl, first⟩
  refine (uploadVerificationImage_returns selfie _ _).attempt.bind ?_
  rintro _ now ⟨other, rfl, second⟩
  exact returns_done (first.wait second)

/-- Fewer attempts count than are allowed, if they are counted at all. -/
def AttemptsLeft (runtime : Runtime) (user : UserRow) (state : State) : Prop :=
  isAttemptWindowEnabled runtime = true →
    (state.counted runtime user.id).length < MAX_ATTEMPTS

/-- Attempts are not used up by waiting. -/
theorem AttemptsLeft.wait {now : State} (left : AttemptsLeft runtime user state)
    (meanwhile : Meanwhile state now state.db state.outbox) : AttemptsLeft runtime user now := by
  intro enabled
  refine Nat.lt_of_le_of_lt ?_ (left enabled)
  unfold State.counted Database.attemptsSince
  rw [meanwhile.db]
  simp only [List.length_insertionSort, List.length_map, ← List.countP_eq_length_filter]
  refine List.countP_mono_left fun row _ matched => ?_
  simp only [Bool.and_eq_true, decide_eq_true_eq] at matched ⊢
  exact ⟨matched.1, (Int.sub_le_sub_right meanwhile.clock _).trans matched.2⟩

theorem getVerificationWindowState_returns (user : UserRow) :
    (getVerificationWindowState runtime user.id).Returns (calm supply) (fun window now =>
      (AttemptsLeft runtime user state → isAttemptWindowEnabled runtime = true →
        window.attemptsUsed < MAX_ATTEMPTS) ∧
        Meanwhile state now state.db state.outbox) state := by
  unfold getVerificationWindowState
  by_cases disabled : (!isAttemptWindowEnabled runtime) = true
  · rw [if_pos disabled]
    refine returns_done ⟨fun _ enabled => ?_, Int.le_refl _, rfl, rfl⟩
    rw [enabled] at disabled
    cases disabled
  · rw [if_neg disabled]
    refine returns_now.bind ?_
    rintro _ started ⟨rfl, first⟩
    refine (returns_idVerificationFindMany _ _).bind ?_
    rintro _ found ⟨rfl, second⟩
    refine returns_now.bind ?_
    rintro _ timed ⟨rfl, third⟩
    exact returns_done ⟨fun left => left.wait first, (first.wait second).wait third⟩

theorem enforceAttemptLimit_returns (left : AttemptsLeft runtime user state) :
    (enforceAttemptLimit runtime user.id).Returns (calm supply) (fun _ now =>
      Meanwhile state now state.db state.outbox) state := by
  unfold enforceAttemptLimit
  by_cases disabled : (!isAttemptWindowEnabled runtime) = true
  · rw [if_pos disabled]
    exact returns_done ⟨Int.le_refl _, rfl, rfl⟩
  · rw [if_neg disabled]
    refine (getVerificationWindowState_returns user).bind ?_
    rintro window now ⟨few, meanwhile⟩
    have enabled : isAttemptWindowEnabled runtime = true := by simpa using disabled
    refine guarantees_passed (decide_eq_false (Nat.not_le.mpr (few left enabled))) ?_
    exact returns_done meanwhile

/-- The account with its identity proven. -/
structure ProvenAccount (user later : UserRow) : Prop where
  id : later.id = user.id
  email : later.email = user.email
  isVerified : later.isVerified = user.isVerified
  passwordHash : later.passwordHash = user.passwordHash
  isIdVerified : later.isIdVerified = true

/-- A submission that passes leaves the account with its identity proven, and hands over a full
session of it. -/
structure Promoted (runtime : Runtime) (user : UserRow) (result : VerificationResult)
    (since : Timestamp) (now : State) : Prop where
  passed : result.passed = true
  session : ∃ tokens account, result.upgradedTokens = some tokens ∧ tokens.tokenType = .full ∧
    ProvenAccount user account ∧ Stands runtime now.db account ∧
      LiveSession runtime account tokens since now

/-- The attempt is recorded, and nothing else changes for the account. -/
theorem recordAttempt_returns (stands : Stands runtime state.db user) {data : IdVerificationCreate}
    (owner : data.userId = user.id) :
    (recordAttempt data).Returns (calm supply) (fun _ now => Stands runtime now.db user ∧
      now.db.refreshTokens = state.db.refreshTokens ∧ state.clock ≤ now.clock) state := by
  unfold recordAttempt
  refine (Returns.rescue (returns_execute fun _ => ⟨_, rfl⟩) _).weaken ?_
  rintro _ now ⟨db, ran, meanwhile⟩
  rw [meanwhile.db]
  have carried := runAll_singleton ran
  refine ⟨stands.carried carried ?_ trivial (by cases carried; rfl), by cases carried; rfl,
    meanwhile.clock⟩
  rintro _ ⟨⟩
  rw [owner]
  exact stands.known

theorem upgradeToken_returns (stands : Stands runtime state.db user)
    (unused : state.Unissued runtime supply.token) (ipAddress userAgent : String) :
    (AuthService.upgradeToken runtime user.id ipAddress userAgent).Returns (calm supply)
      (fun tokens now => Stands runtime now.db user ∧ tokens.tokenType = .full ∧
        LiveSession runtime user tokens state.clock now) state := by
  unfold AuthService.upgradeToken
  refine (returns_execute fun _ => ⟨_, rfl⟩).bind ?_
  rintro _ revoked ⟨db, ran, first⟩
  have carried := runAll_singleton ran
  have standing : Stands runtime revoked.db user := by
    rw [first.db]
    exact stands.amended carried rfl trivial (by cases carried; rfl)
  refine (returns_userFindUnique _).bind ?_
  rintro _ found ⟨rfl, second⟩
  rw [standing.byId, Option.map_some]
  dsimp only
  have unissued : found.Unissued runtime supply.token := by
    unfold State.Unissued
    rw [second.db, first.db]
    cases carried
    intro row member
    obtain ⟨old, kept, rfl⟩ := mem_updateWhere.mp member
    split
    · exact unused old kept
    · exact unused old kept
  unfold AuthService.generateTokens
  refine (issue_returns (second.db ▸ standing) unissued _ _ (fun _ => rfl) (fun _ => rfl)
    (fun _ => rfl) fun _ => rfl).weaken ?_
  rintro tokens now ⟨stood, -, kind, live⟩
  exact ⟨stood, kind, live.since (first.clock.trans second.clock)⟩

theorem applyVerdict_returns (stands : Stands runtime state.db user)
    (unused : state.Unissued runtime supply.token) (ipAddress : String) :
    (applyVerdict runtime user.id false true ipAddress).Returns (calm supply) (fun upgraded now =>
      ∃ tokens account, upgraded = some tokens ∧ tokens.tokenType = .full ∧
        ProvenAccount user account ∧ Stands runtime now.db account ∧
          LiveSession runtime account tokens state.clock now) state := by
  unfold applyVerdict
  rw [if_pos (by decide)]
  refine returns_now.bind ?_
  rintro _ timed ⟨rfl, first⟩
  refine (returns_execute fun clock =>
    exists_runAll_one ((first.db ▸ stands).run_userUpdate rfl clock)).bind ?_
  rintro _ updated ⟨db, ran, second⟩
  rw [first.db] at ran
  have carried := runAll_singleton ran
  let account := user.apply {
    isIdVerified := some true
    idVerifiedAt := some timed.clock
    incrementVerificationAttempts := true } updated.clock
  have standing : Stands runtime updated.db account := by
    rw [second.db]
    exact stands.updated carried ⟨rfl, .inr ⟨rfl, rfl⟩⟩
  have unissued : updated.Unissued runtime supply.token := unused.later (by
    rw [second.db]
    cases carried
    rfl)
  refine (upgradeToken_returns standing unissued _ _).bind ?_
  rintro tokens now ⟨stood, kind, live⟩
  exact returns_done ⟨tokens, account, rfl, kind, ⟨rfl, rfl, rfl, rfl, rfl⟩, stood,
    live.since (first.clock.trans second.clock)⟩

theorem engineAnswered_returns (stands : Stands runtime state.db user)
    (unproven : user.isIdVerified = false) (unused : state.Unissued runtime supply.token)
    (passes : supply.engine.passed = true) (identity : CitizenIdentityRow)
    (dto : SubmitVerificationDto) (keys : ObjectKey × ObjectKey) (ipAddress : String) :
    (engineAnswered runtime user.id (db.withRelations user) identity dto keys ipAddress
      supply.engine).Returns (calm supply)
      (fun result now => Promoted runtime user result state.clock now) state := by
  unfold engineAnswered getNextAttemptNumber cleanupImages S3Service.deleteObjects
  rw [Program.bind_assoc]
  refine (returns_idVerificationCount _).bind fun count counted first => ?_
  rw [pure_eq, done_bind]
  refine (recordAttempt_returns (first.db ▸ stands) rfl).bind ?_
  rintro _ recorded ⟨standing, kept, second⟩
  refine (Returns.rescue (returns_deleteObjects _) _).bind fun _ cleaned third => ?_
  have unissued : cleaned.Unissued runtime supply.token := unused.later (by
    rw [third.db, kept, first.db])
  rw [passes, show (db.withRelations user).user.isIdVerified = false from unproven]
  refine (applyVerdict_returns (third.db ▸ standing) unissued ipAddress).bind ?_
  rintro _ applied ⟨tokens, account, rfl, kind, proven, stood, live⟩
  refine (returns_securityEvent _ _ _).bind ?_
  rintro _ logged ⟨after, logs, fourth⟩
  rw [← proven.id]
  refine (getVerificationWindowState_returns account).bind ?_
  rintro window now ⟨-, fifth⟩
  have same : now.db = after := fifth.db.trans fourth.db
  have before : state.clock ≤ cleaned.clock := (first.clock.trans second).trans third.clock
  refine returns_done ⟨rfl, tokens, account, rfl, kind, proven, ?_, live.accessToken, ?_⟩
  · rw [same]
    exact stood.logged logs
  · rw [same]
    obtain ⟨log, rfl⟩ := logs
    exact (live.since before).stored

/-- What a submission that can pass brings along. -/
structure FitToSubmit (dto : SubmitVerificationDto) : Prop where
  idCardFile : dto.idCardFile.Fit
  selfieFile : dto.selfieFile.Fit

/-- A submission of a verified citizen is promoted when the engine passes it. -/
theorem submitVerification_returns (works : runtime.Works) (stands : Stands runtime state.db user)
    (sealing : ∀ iv nid, runtime.encrypt iv nid ≠ "") (verified : user.isVerified = true)
    (unproven : user.isIdVerified = false) (left : AttemptsLeft runtime user state)
    (unused : state.Unissued runtime supply.token) (passes : supply.engine.passed = true)
    {dto : SubmitVerificationDto} (fit : FitToSubmit dto) (ipAddress : String) :
    (submitVerification runtime user.id dto ipAddress).Returns (calm supply)
      (fun result now => Promoted runtime user result state.clock now) state := by
  obtain ⟨identity, found, enrols⟩ := stands.enrolled.identified user stands.stored
  have national : identity.identityType = .NID := by
    cases kind : identity.identityType with
    | NID => rfl
    | FIN => cases unproven.symm.trans (enrols.foreign kind)
  obtain ⟨iv, nid, encrypted⟩ := enrols.national national
  have active : user.isActive = true := stands.active verified
  have identified : (state.db.withRelations user).citizenIdentity = some identity := found
  unfold submitVerification
  refine (returns_userFindUnique _).bind ?_
  rintro _ asked ⟨rfl, first⟩
  rw [stands.byId, Option.map_some]
  dsimp only
  refine guarantees_passed (by rw [Database.withRelations, verified, active]; rfl) ?_
  refine guarantees_passed (by rw [identified, Option.any_some, national]; rfl) ?_
  refine guarantees_passed (by rw [Database.withRelations, unproven]; rfl) ?_
  refine (enforceAttemptLimit_returns (left.wait first)).bind fun _ limited second => ?_
  unfold verifyIdentity
  rw [identified]
  dsimp only
  refine guarantees_passed ?_ ?_
  · rw [encrypted]
    simpa [truthy] using sealing iv nid
  rw [encrypted, Option.getD_some, EncryptionService.decrypt, works.decrypts, ofOutcome_ok,
    done_bind]
  refine (uploadImages_returns fit.idCardFile fit.selfieFile _).bind fun keys uploaded third => ?_
  unfold callVerificationEngine
  refine (Returns.attempt (Returns.rescue (returns_callEngine _) _)).bind ?_
  rintro _ answered ⟨_, rfl, rfl, fourth⟩
  have meanwhile : Meanwhile state answered state.db state.outbox :=
    ((first.wait second).wait third).wait fourth
  have same : answered.db = state.db := meanwhile.db
  have unissued : answered.Unissued runtime supply.token := unused.later (by rw [same])
  refine (engineAnswered_returns (same ▸ stands) unproven unissued passes identity dto keys
    ipAddress).weaken fun result now promoted => ⟨promoted.passed, ?_⟩
  obtain ⟨tokens, account, upgraded, full, proven, standing, live⟩ := promoted.session
  exact ⟨tokens, account, upgraded, full, proven, standing, live.since meanwhile.clock⟩

/-! ### The promotion -/

/-- A submission that the engine passes promotes the account: the answer brings a full session,
whose token opens the profile, and from then on every login does. -/
def Promotes (runtime : Runtime) (user : UserRow) (state : State) : Prop :=
  ∀ (supply : Supply) (jwt : Jwt) (dto : SubmitVerificationDto) ipAddress,
    jwt.payload.sub = user.id → FitToSubmit dto → supply.engine.passed = true →
    state.Unissued runtime supply.token →
    (serve runtime (.submitVerification jwt dto ipAddress)).Guarantees (calm supply)
      (fun outcome now => ∃ result tokens account, outcome = .ok (.verification result) ∧
        result.upgradedTokens = some tokens ∧ tokens.tokenType = .full ∧
        ProvenAccount user account ∧ LiveSession runtime account tokens state.clock now ∧
        Enters runtime account tokens.accessToken now ∧
        ∀ password, runtime.bcryptCompare password user.passwordHash = true →
          SignsIn runtime account password now) state

theorem Stands.promotes (works : runtime.Works) (stands : Stands runtime state.db user)
    (sealing : ∀ iv nid, runtime.encrypt iv nid ≠ "") (verified : user.isVerified = true)
    (unproven : user.isIdVerified = false) (left : AttemptsLeft runtime user state) :
    Promotes runtime user state := by
  intro supply jwt dto ipAddress subject fit passes unused
  have active : user.isActive = true := stands.active verified
  refine guarantees_admitted rfl stands active subject rfl fun between first => ?_
  have unissued : between.Unissued runtime supply.token := unused.later (by rw [first.db])
  unfold Request.handle
  refine Guarantees.bind (submitVerification_returns works (first.db ▸ stands) sealing verified
    unproven (left.wait first) unissued passes fit ipAddress) ?_
  rintro result now ⟨-, tokens, account, upgraded, kind, proven, standing, live⟩ later meanwhile
  have stood : Stands runtime later.db account := meanwhile.db ▸ standing
  have activated : account.isVerified = true := proven.isVerified.trans verified
  refine ⟨result, tokens, account, rfl, upgraded, kind, proven,
    (live.later meanwhile.db).since first.clock, ?_, fun password matched =>
      stood.signsIn activated (by rw [proven.passwordHash]; exact matched)⟩
  refine stood.enters (stood.active activated) ?_ ?_
  · rw [live.accessToken]
  · rw [live.accessToken, kind]

/-! ### The end of a lockout -/

/-- A runtime whose ciphertexts are never empty. -/
def sealingRuntime : Runtime :=
  { legibleRuntime with
    encrypt := fun _ plainText => "=" ++ plainText
    decrypt := fun encryptedText => .ok (String.ofList (encryptedText.toList.drop 1)) }

theorem sealingRuntime_works : sealingRuntime.Works where
  compares _ password := beq_self_eq_true password
  decrypts _ plainText := by simp [sealingRuntime]

theorem sealingRuntime_sealing (iv plainText : String) :
    sealingRuntime.encrypt iv plainText ≠ "" := by
  simp [sealingRuntime]

end GraconAuth
