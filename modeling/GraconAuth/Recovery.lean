/-
This file proves that whoever reads the mail of an account gets into it. From every
state that the service reaches, whatever is going on there, an account that is
verified is reached through a reset link with a password of one's choice, and one
that is not is activated through a fresh verification link. What it takes is that
nothing fails on the way, that the links are used in time, and that the tokens which
are drawn have not been drawn before.
-/

import GraconAuth.Standing

namespace GraconAuth

open Interleaving Program Rows

variable {runtime : Runtime} {db next : Database} {user : UserRow} {clock : Timestamp}
  {state : State} {token : RawToken} {supply : Supply}

/-! ### The reset link -/

/-- A mail with a link for an account. -/
structure Mail.LinksTo (mail : Mail) (template : MailTemplate) (user : UserRow)
    (token : RawToken) : Prop where
  template : mail.template = template
  recipient : mail.recipient = user.email
  userId : mail.userId = some user.id
  token : mail.token = some token

/-- A reset link has been sent to an account that stands. -/
structure ResetSent (runtime : Runtime) (user : UserRow) (token : RawToken) (since : Timestamp)
    (now : State) : Prop where
  stands : Stands runtime now.db user
  link : ∃ row, now.db.findPasswordResetToken user.id (runtime.hash token) = some row ∧
    row.used = false ∧ since + PasswordResetService.TOKEN_EXPIRY_MS ≤ row.expiresAt
  mailed : ∃ mail ∈ now.outbox, mail.LinksTo .passwordReset user token

/-- The link that has just been stored is the one that is found. -/
theorem findPasswordResetToken_create {data : PasswordResetTokenCreate}
    (carried : Carried clock db (.passwordResetTokenCreate data) next)
    (unused : ∀ row ∈ db.passwordResetTokens, row.tokenHash ≠ data.tokenHash) :
    next.findPasswordResetToken data.userId data.tokenHash = some (data.row db.nextId) := by
  cases carried
  have absent : db.passwordResetTokens.find?
      (fun row => row.userId == data.userId && row.tokenHash == data.tokenHash) = none :=
    List.find?_eq_none.mpr fun row stored matched =>
      unused row stored (beq_iff_eq.mp (Bool.and_eq_true_iff.mp matched).2)
  unfold Database.findPasswordResetToken
  rw [List.find?_append, absent, Option.none_or]
  exact List.find?_cons_of_pos (by simp [PasswordResetTokenCreate.row])

theorem requestReset_returns (stands : Stands runtime state.db user)
    (active : user.isActive = true)
    (unused : ∀ row ∈ state.db.passwordResetTokens, row.tokenHash ≠ runtime.hash supply.token) :
    (PasswordResetService.requestReset runtime user.email).Returns (calm supply)
      (fun _ now => ResetSent runtime user supply.token state.clock now) state := by
  unfold PasswordResetService.requestReset
  refine (returns_userFindUnique _).bind ?_
  rintro _ found ⟨rfl, first⟩
  have present : ((state.db.findUser (.byEmail user.email)).map state.db.withRelations).filter
      (·.user.isActive) = some (state.db.withRelations user) := by
    rw [stands.byEmail]
    exact Option.filter_some_pos active
  rw [present]
  dsimp only
  unfold PasswordResetService.requestResetFor
  refine (returns_execute fun _ => ⟨_, rfl⟩).bind ?_
  rintro _ cleared ⟨db, ran, second⟩
  refine returns_randomToken.bind ?_
  rintro _ drawn ⟨rfl, third⟩
  refine returns_now.bind ?_
  rintro _ timed ⟨rfl, fourth⟩
  refine (Returns.rescue (returns_execute fun _ => ⟨_, rfl⟩) _).bind ?_
  rintro _ created ⟨later, stored, fifth⟩
  refine (returns_send _).bind ?_
  intro _ mailed sixth
  refine (returns_securityEvent _ _ _).bind ?_
  rintro _ logged ⟨last, logs, seventh⟩
  rw [first.db] at ran
  rw [fourth.db, third.db, second.db] at stored
  rw [sixth.db, fifth.db] at logs
  have cleared_ := runAll_singleton ran
  have created_ := runAll_singleton stored
  have standing : Stands runtime db user :=
    stands.amended cleared_ rfl trivial (by cases cleared_; rfl)
  have standing_ : Stands runtime later user := by
    refine standing.carried created_ ?_ trivial (by cases created_; rfl)
    rintro owner ⟨⟩
    exact standing.known
  refine returns_done { stands := ?_, link := ?_, mailed := ?_ }
  · rw [seventh.db]
    exact standing_.logged logs
  · rw [seventh.db]
    obtain ⟨log, rfl⟩ := logs
    refine ⟨_, findPasswordResetToken_create created_ ?_, rfl, ?_⟩
    · intro row member
      cases cleared_
      obtain ⟨old, kept, rfl⟩ := mem_updateWhere.mp member
      split
      · exact unused old kept
      · exact unused old kept
    · exact Int.add_le_add_right
        (first.clock.trans (second.clock.trans (third.clock.trans fourth.clock))) _
  · rw [seventh.outbox, sixth.outbox]
    exact ⟨_, List.mem_cons_self, rfl, rfl, rfl, rfl⟩

/-! ### The reset -/

/-- What a reset or a verification leaves of an account. -/
structure SameAccount (user later : UserRow) : Prop where
  id : later.id = user.id
  email : later.email = user.email
  isIdVerified : later.isIdVerified = user.isIdVerified

/-- A lookup of the link finds it valid, or too late. -/
theorem findValidToken_returns {since : Timestamp}
    (sent : ResetSent runtime user token since state) :
    (PasswordResetService.findValidToken runtime user.id token).Returns (calm supply)
      (fun lookup now => Meanwhile state now state.db state.outbox ∧
        ((∃ row ∈ state.db.passwordResetTokens, lookup = .ok row.id) ∨
          ∃ reason, lookup = .error reason ∧
            since + PasswordResetService.TOKEN_EXPIRY_MS < now.clock)) state := by
  obtain ⟨row, found, unused, lasts⟩ := sent.link
  unfold PasswordResetService.findValidToken
  refine (returns_passwordResetTokenFindFirst _ _).bind ?_
  rintro _ looked ⟨rfl, first⟩
  rw [found]
  dsimp only
  rw [unused, if_neg Bool.false_ne_true]
  refine returns_now.bind ?_
  rintro _ timed ⟨rfl, second⟩
  have meanwhile : Meanwhile state timed state.db state.outbox := first.wait second
  by_cases late : timed.clock > row.expiresAt
  · rw [if_pos late]
    exact returns_done ⟨meanwhile, .inr ⟨_, rfl, Int.lt_of_le_of_lt lasts late⟩⟩
  · rw [if_neg late]
    exact returns_done ⟨meanwhile, .inl ⟨row, List.mem_of_find?_eq_some found, rfl⟩⟩

/-- The page of a link that has been sent is told that it is valid, unless it comes too late, and
the check leaves the link as it is. -/
theorem validateResetToken_guarantees {since : Timestamp}
    (sent : ResetSent runtime user token since state) :
    (serve runtime (.validateResetToken user.id token)).Guarantees (calm supply)
      (fun outcome now => ResetSent runtime user token since now ∧
        (now.clock ≤ since + PasswordResetService.TOKEN_EXPIRY_MS →
          outcome = .ok (.validity ⟨true, "Token is valid."⟩))) state := by
  refine guarantees_serve rfl ?_
  unfold Request.handle PasswordResetService.validateResetToken
  refine guarantees_bind.mpr (Guarantees.bind (findValidToken_returns sent) ?_)
  rintro _ looked ⟨first, found⟩
  have still : ∀ later, Meanwhile looked later looked.db looked.outbox →
      ResetSent runtime user token since later := fun later meanwhile =>
    have unchanged := (first.wait meanwhile).db
    ⟨unchanged ▸ sent.stands, unchanged ▸ sent.link, (first.wait meanwhile).outbox ▸ sent.mailed⟩
  rcases found with ⟨row, stored, rfl⟩ | ⟨reason, rfl, late⟩
  · exact fun later meanwhile => ⟨still later meanwhile, fun _ => rfl⟩
  · exact fun later meanwhile => ⟨still later meanwhile, fun inTime =>
      absurd (meanwhile.clock.trans inTime) (Int.not_le.mpr late)⟩

/-- The reset gives the account the chosen password, unless it comes too late. -/
theorem resetPassword_guarantees (works : runtime.Works) {since : Timestamp}
    (sent : ResetSent runtime user token since state) (password : String) :
    (PasswordResetService.resetPassword runtime ⟨user.id, token, password, password⟩).Guarantees
      (calm supply) (fun outcome now => now.clock ≤ since + PasswordResetService.TOKEN_EXPIRY_MS →
        (∃ result, outcome = .ok result) ∧ ∃ later, SameAccount user later ∧
          later.isVerified = user.isVerified ∧ Stands runtime now.db later ∧
            runtime.bcryptCompare password later.passwordHash = true) state := by
  unfold PasswordResetService.resetPassword
  refine guarantees_passed (bne_self_eq_false _) ?_
  refine Guarantees.bind (findValidToken_returns sent) ?_
  rintro _ looked ⟨first, ⟨row, stored, rfl⟩ | ⟨reason, rfl, late⟩⟩
  · dsimp only
    unfold PasswordResetService.resetWithToken bcryptHash
    rw [bind_assoc]
    refine Guarantees.bind returns_bcryptSalt ?_
    intro salt salted second
    rw [pure_eq, done_bind]
    have meanwhile : salted.db = state.db := second.db.trans first.db
    refine Guarantees.bind (returns_execute fun clock => ?_) ?_
    · exact exists_runAll_cons ((meanwhile ▸ sent.stands).run_userUpdate rfl clock)
        (exists_runAll_cons (run_passwordResetTokenUpdate (meanwhile ▸ stored)) ⟨_, rfl⟩)
    rintro _ reset ⟨db, ran, third⟩
    rw [meanwhile] at ran
    obtain ⟨between, updated, ran⟩ := runAll_cons ran
    obtain ⟨after, spent, ran⟩ := runAll_cons ran
    have revoked := runAll_singleton ran
    refine Guarantees.bind (returns_securityEvent _ _ _) ?_
    rintro _ logged ⟨last, logs, fourth⟩ -
    rw [third.db] at logs
    let later := user.apply { passwordHash := some (runtime.bcryptHash salt password) } reset.clock
    have standing : Stands runtime between later :=
      sent.stands.updated updated ⟨rfl, .inl ⟨rfl, rfl⟩⟩
    refine ⟨⟨_, rfl⟩, later, ⟨rfl, rfl, rfl⟩, rfl, ?_, works.compares salt password⟩
    rw [fourth.db]
    exact ((standing.amended spent rfl trivial (by cases spent; rfl)).amended revoked rfl trivial
      (by cases revoked; rfl)).logged logs
  · exact fun inTime => absurd inTime (Int.not_le.mpr late)

/-! ### The verification link -/

/-- A verification link has been sent to an account that stands. -/
structure LinkSent (runtime : Runtime) (user : UserRow) (token : RawToken) (since : Timestamp)
    (now : State) : Prop where
  stands : Stands runtime now.db user
  link : ∃ row, now.db.findEmailVerificationToken user.id = some row ∧
    row.tokenHash = runtime.hash token ∧ row.used = false ∧
      since + UsersService.TOKEN_EXPIRY_MS ≤ row.expiresAt
  mailed : ∃ mail ∈ now.outbox, mail.LinksTo .emailVerification user token

/-- The account has one link, so that the limit is not reached. -/
theorem Stands.fewLinks (stands : Stands runtime db user) (since : Timestamp) :
    (db.emailVerificationTokens.countP fun row =>
      row.userId == user.id && decide (since ≤ row.createdAt)) ≤ 1 := by
  have distinct : (db.emailVerificationTokens.map (·.userId)).Nodup := by
    rw [stands.sound.linkOwners]
    exact stands.keyed
  calc (db.emailVerificationTokens.countP fun row =>
          row.userId == user.id && decide (since ≤ row.createdAt))
      ≤ db.emailVerificationTokens.countP fun row => row.userId == user.id :=
        List.countP_mono_left fun _ _ both => (Bool.and_eq_true_iff.mp both).1
    _ = (db.emailVerificationTokens.map (·.userId)).count user.id := by
        rw [List.count, List.countP_map]
        rfl
    _ ≤ 1 := List.nodup_iff_count_le_one.mp distinct user.id

/-- The link that has just been replaced is the one that is found. -/
theorem findEmailVerificationToken_upsert {userId : UserId} {tokenHash : TokenHash}
    {expiresAt createdAt : Timestamp}
    (carried : Carried clock db
      (.emailVerificationTokenUpsert userId tokenHash expiresAt createdAt) next) :
    ∃ row, next.findEmailVerificationToken userId = some row ∧ row.tokenHash = tokenHash ∧
      row.used = false ∧ row.expiresAt = expiresAt := by
  cases carried
  unfold Database.findEmailVerificationToken
  rw [find?_upsertWhere (by simp) (by simp)]
  cases db.emailVerificationTokens.find? fun row => row.userId == userId with
  | none => exact ⟨_, rfl, rfl, rfl, rfl⟩
  | some row => exact ⟨_, rfl, rfl, rfl, rfl⟩

theorem replaceVerificationToken_returns (stands : Stands runtime state.db user)
    (identity : Option CitizenIdentityRow) :
    (UsersService.replaceVerificationToken runtime user.id user.email identity).Returns
      (calm supply) (fun _ now => LinkSent runtime user supply.token state.clock now) state := by
  unfold UsersService.replaceVerificationToken
  refine returns_randomToken.bind ?_
  rintro rawToken drawn ⟨drew, first⟩
  rw [drew]
  refine returns_now.bind ?_
  rintro _ timed ⟨rfl, second⟩
  refine (returns_execute fun _ => ⟨_, rfl⟩).bind ?_
  rintro _ replaced ⟨db, ran, third⟩
  rw [second.db, first.db] at ran
  have carried := runAll_singleton ran
  have standing : Stands runtime db user := by
    refine stands.carried carried ?_ trivial (by cases carried; rfl)
    rintro owner ⟨⟩
    exact stands.known
  refine (returns_send _).weaken fun _ mailed fourth => ?_
  refine { stands := ?_, link := ?_, mailed := ?_ }
  · rw [fourth.db, third.db]
    exact standing
  · rw [fourth.db, third.db]
    obtain ⟨row, found, hashed, unused, expires⟩ := findEmailVerificationToken_upsert carried
    refine ⟨row, found, hashed, unused, ?_⟩
    rw [expires]
    exact Int.add_le_add_right (first.clock.trans second.clock) _
  · rw [fourth.outbox]
    exact ⟨_, List.mem_cons_self, rfl, rfl, rfl, rfl⟩

theorem LinkSent.since {earlier since : Timestamp} (sent : LinkSent runtime user token since state)
    (before : earlier ≤ since) : LinkSent runtime user token earlier state := by
  obtain ⟨row, found, hashed, unused, lasts⟩ := sent.link
  exact ⟨sent.stands, ⟨row, found, hashed, unused, (Int.add_le_add_right before _).trans lasts⟩,
    sent.mailed⟩

theorem resendVerificationEmail_returns (stands : Stands runtime state.db user)
    (unverified : user.isVerified = false) {dto : UsersService.ResendVerificationDto}
    (leads : dto.lookup.bind state.db.findUser = some user) :
    (UsersService.resendVerificationEmail runtime dto).Returns (calm supply)
      (fun _ now => LinkSent runtime user supply.token state.clock now) state := by
  obtain ⟨filter, given, located⟩ := Option.bind_eq_some_iff.mp leads
  unfold UsersService.resendVerificationEmail
  rw [given]
  dsimp only
  refine (returns_userFindUnique _).bind ?_
  rintro _ found ⟨rfl, first⟩
  rw [located, Option.map_some]
  dsimp only
  rw [show (state.db.withRelations user).user.isVerified = false from unverified,
    if_neg Bool.false_ne_true]
  refine returns_now.bind ?_
  rintro _ timed ⟨rfl, second⟩
  refine (returns_emailVerificationTokenCount _ _).bind ?_
  rintro _ counted ⟨rfl, third⟩
  have meanwhile : counted.db = state.db := third.db.trans (second.db.trans first.db)
  have standing : Stands runtime counted.db user := meanwhile ▸ stands
  rw [second.db.trans first.db]
  have few : ¬(state.db.emailVerificationTokens.countP fun row =>
      row.userId == (state.db.withRelations user).user.id &&
        decide (timed.clock - 60 * 60 * 1000 ≤ row.createdAt)) ≥
          UsersService.MAX_RESEND_PER_HOUR :=
    Nat.not_le.mpr (Nat.lt_of_le_of_lt (stands.fewLinks _) (by decide))
  rw [if_neg few]
  refine (replaceVerificationToken_returns standing _).bind fun _ now sent => ?_
  exact returns_done (sent.since (first.clock.trans (second.clock.trans third.clock)))

/-- What follows the activation does not depend on anything else. -/
theorem verifyEmailCommitted_returns {later : UserRow} (stands : Stands runtime db user)
    (standing : Stands runtime state.db later) (same : SameAccount user later)
    (unused : state.Unissued runtime supply.token) :
    (UsersService.verifyEmailCommitted runtime (db.withRelations user)).Returns (calm supply)
      (fun _ now => Stands runtime now.db later ∧
        now.db.idVerifications = state.db.idVerifications) state := by
  obtain ⟨pid, decipheredPid⟩ := stands.decryptPid
  obtain ⟨fin, decipheredFin⟩ := stands.decryptFin
  unfold UsersService.verifyEmailCommitted
  rw [decipheredPid, done_bind]
  refine (returns_send _).bind fun _ mailed first => ?_
  by_cases identified : (db.withRelations user).user.isIdVerified = true
  · rw [if_pos identified]
    exact returns_done ⟨first.db ▸ standing, by rw [first.db]⟩
  · rw [if_neg identified, show (db.withRelations user).user.id = later.id from same.id.symm,
      show (db.withRelations user).user.email = later.email from same.email.symm]
    unfold UsersService.generatePostEmailVerificationTokens
      UsersService.buildVerificationSessionProfile
    have there : Stands runtime mailed.db later := first.db ▸ standing
    have unissued : mailed.Unissued runtime supply.token := unused.later (by rw [first.db])
    refine Returns.bind (issue_returns there unissued _ _ (fun _ => rfl) (fun _ => rfl)
      (fun _ => rfl) fun _ => rfl) ?_
    rintro tokens issued ⟨stood, unattempted, -⟩
    rw [decipheredFin]
    exact returns_done ⟨stood, by rw [unattempted, first.db]⟩

/-- The link activates the account, unless it comes too late. -/
theorem verifyEmail_guarantees (unverified : user.isVerified = false) {since : Timestamp}
    (sent : LinkSent runtime user token since state)
    (unused : state.Unissued runtime supply.token) :
    (UsersService.verifyEmail runtime ⟨user.id, token⟩).Guarantees (calm supply)
      (fun outcome now => now.clock ≤ since + UsersService.TOKEN_EXPIRY_MS →
        (∃ result, outcome = .ok result) ∧ ∃ later, SameAccount user later ∧
          later.isVerified = true ∧ later.passwordHash = user.passwordHash ∧
            now.db.idVerifications = state.db.idVerifications ∧
              Stands runtime now.db later) state := by
  obtain ⟨row, found, hashed, fresh, lasts⟩ := sent.link
  have stored : row ∈ state.db.emailVerificationTokens := List.mem_of_find?_eq_some found
  have owned : row.userId = user.id := by simpa using List.find?_some found
  unfold UsersService.verifyEmail
  refine Guarantees.bind (returns_emailVerificationTokenFindUnique _) ?_
  rintro _ looked ⟨rfl, first⟩
  have present : state.db.findEmailVerificationTokenWithUser user.id =
      some (row, state.db.withRelations user) := by
    unfold Database.findEmailVerificationTokenWithUser
    rw [found, Option.bind_eq_bind, Option.bind_some, owned, sent.stands.byId]
    rfl
  rw [present]
  dsimp only
  rw [show (state.db.withRelations user).user.isVerified = false from unverified,
    if_neg Bool.false_ne_true]
  unfold UsersService.verifyEmailRecord
  refine guarantees_passed fresh ?_
  refine Guarantees.bind returns_now ?_
  rintro _ timed ⟨rfl, second⟩
  have meanwhile : timed.db = state.db := second.db.trans first.db
  refine guarantees_throwIf_bind.mpr ⟨fun late inTime => ?_, fun inTime => ?_⟩
  · exact absurd (lasts.trans_lt (of_decide_eq_true late)) (Int.not_lt.mpr inTime)
  refine guarantees_passed (by
    rw [EncryptionService.compareHash, hashed, beq_self_eq_true, Bool.not_true]) ?_
  refine Guarantees.bind (returns_execute fun clock => ?_) ?_
  · exact exists_runAll_cons ((meanwhile ▸ sent.stands).run_userUpdate rfl clock)
      (exists_runAll_cons (run_emailVerificationTokenUpdate (meanwhile ▸ stored)) ⟨_, rfl⟩)
  rintro _ activated ⟨db, ran, third⟩
  rw [meanwhile] at ran
  obtain ⟨between, updated, ran⟩ := runAll_cons ran
  have spent := runAll_singleton ran
  let later := user.apply { isVerified := some true, isActive := some true } activated.clock
  have standing : Stands runtime activated.db later := by
    rw [third.db]
    exact (sent.stands.updated updated ⟨rfl, .inl ⟨rfl, rfl⟩⟩).amended spent rfl trivial
      (by cases spent; rfl)
  have unissued : activated.Unissued runtime supply.token := unused.later (by
    rw [third.db]
    cases updated
    cases spent
    rfl)
  refine Guarantees.weaken (verifyEmailCommitted_returns sent.stands standing ⟨rfl, rfl, rfl⟩
    unissued) ?_
  rintro _ now ⟨result, rfl, stood, unattempted⟩ -
  refine ⟨⟨result, rfl⟩, later, ⟨rfl, rfl, rfl⟩, rfl, rfl, ?_, stood⟩
  rw [unattempted, third.db]
  cases updated
  cases spent
  rfl

/-! ### The requests -/

/-- The password opens the account: the login brings a session for thirty days, which opens the
profile exactly when the identity is verified. -/
def SignsIn (runtime : Runtime) (user : UserRow) (password : String) (state : State) : Prop :=
  ∀ (supply : Supply) ipAddress userAgent, state.Unissued runtime supply.token →
    (serve runtime (.login ⟨user.email, password⟩ ipAddress userAgent)).Guarantees (calm supply)
      (fun outcome now => ∃ result, outcome = .ok (.login result) ∧
        SignedIn runtime user result state.clock now ∧
        (user.isIdVerified = true → Enters runtime user result.accessToken now) ∧
        (user.isIdVerified = false → Refuses runtime result.accessToken now)) state

/-- Whoever reads the mail of the account can choose its password. A reset is asked for, a link
is mailed, and when it is used within the hour the account is opened by the password that was
chosen. -/
def Recovers (runtime : Runtime) (user : UserRow) (state : State) : Prop :=
  ∀ supply : Supply,
    (∀ row ∈ state.db.passwordResetTokens, row.tokenHash ≠ runtime.hash supply.token) →
    (serve runtime (.requestReset user.email)).Guarantees (calm supply) (fun outcome mailed =>
      (∃ result, outcome = .ok (.message result)) ∧
      (∃ mail ∈ mailed.outbox, mail.LinksTo .passwordReset user supply.token) ∧
      ∀ password later, (serve runtime
          (.resetPassword ⟨user.id, supply.token, password, password⟩)).Guarantees (calm later)
        (fun outcome reset =>
          reset.clock ≤ state.clock + PasswordResetService.TOKEN_EXPIRY_MS →
            (∃ result, outcome = .ok (.message result)) ∧
            ∃ account, SameAccount user account ∧ SignsIn runtime account password reset)
        mailed) state

/-- The link activates an account, when it is used by the deadline: then the account is opened by
its password, and the password can be chosen anew. -/
def LinkActivates (runtime : Runtime) (user : UserRow) (token : RawToken) (deadline : Timestamp)
    (state : State) : Prop :=
  ∀ supply : Supply, state.Unissued runtime supply.token →
    (serve runtime (.verifyEmail ⟨user.id, token⟩)).Guarantees (calm supply)
      (fun outcome verified => verified.clock ≤ deadline →
        (∃ result, outcome = .ok (.emailVerified result)) ∧
        ∃ account, SameAccount user account ∧ Recovers runtime account verified ∧
          ∀ password, runtime.bcryptCompare password user.passwordHash = true →
            SignsIn runtime account password verified) state

/-- Whoever reads the mail of an account that is not verified can activate it: the verification
mail is sent again, and its link can be used for a day. -/
def Activates (runtime : Runtime) (user : UserRow) (state : State) : Prop :=
  ∀ (dto : UsersService.ResendVerificationDto) (supply : Supply),
    dto.lookup.bind state.db.findUser = some user →
    (serve runtime (.resendVerificationEmail dto)).Guarantees (calm supply) (fun outcome mailed =>
      (∃ result, outcome = .ok (.message result)) ∧
      (∃ mail ∈ mailed.outbox, mail.LinksTo .emailVerification user supply.token) ∧
      LinkActivates runtime user supply.token (state.clock + UsersService.TOKEN_EXPIRY_MS)
        mailed) state

theorem Stands.signsIn (stands : Stands runtime state.db user) (verified : user.isVerified = true)
    {password : String} (matched : runtime.bcryptCompare password user.passwordHash = true) :
    SignsIn runtime user password state := by
  intro supply ipAddress userAgent unissued
  refine guarantees_serve rfl ?_
  unfold Request.handle
  refine Guarantees.bind (login_returns stands verified matched unissued ipAddress userAgent) ?_
  rintro result now ⟨stood, signedIn⟩ later meanwhile
  have standing : Stands runtime later.db user := meanwhile.db ▸ stood
  have active : user.isActive = true := stands.active verified
  have payload : result.accessToken.payload = ⟨user.id, user.email, some result.tokenType⟩ :=
    signedIn.live.accessToken
  refine ⟨result, rfl, { signedIn with live := signedIn.live.later meanwhile.db },
    fun proven => ?_, fun unproven => ?_⟩
  · refine standing.enters active (by rw [payload]) ?_
    rw [payload, signedIn.tokenType, if_pos proven]
  · refine standing.refuses active (by rw [payload]) ?_
    rw [payload, signedIn.tokenType, if_neg (by rw [unproven]; decide)]

theorem Stands.recovers (works : runtime.Works) (stands : Stands runtime state.db user)
    (verified : user.isVerified = true) : Recovers runtime user state := by
  intro supply unused
  have active : user.isActive = true := stands.active verified
  refine guarantees_serve rfl ?_
  unfold Request.handle
  refine Guarantees.bind (requestReset_returns stands active unused) ?_
  intro result now sent mailed meanwhile
  have there : ResetSent runtime user supply.token state.clock mailed :=
    ⟨meanwhile.db ▸ sent.stands, meanwhile.db ▸ sent.link, meanwhile.outbox ▸ sent.mailed⟩
  refine ⟨⟨result, rfl⟩, there.mailed, fun password later => guarantees_serve rfl ?_⟩
  unfold Request.handle
  refine (guarantees_timely (resetPassword_guarantees works there password) ?_).weaken ?_
  · rintro reset later same ⟨account, kept, still, standing, matched⟩
    exact ⟨account, kept, still, same ▸ standing, matched⟩
  · intro outcome reset holds final passed inTime
    obtain ⟨answered, account, kept, still, standing, matched⟩ := holds final passed inTime
    exact ⟨answered, account, kept, standing.signsIn (still.trans verified) matched⟩

/-- A link that has been sent activates the account. -/
theorem LinkSent.activates (works : runtime.Works) {since : Timestamp}
    (unverified : user.isVerified = false) (sent : LinkSent runtime user token since state) :
    LinkActivates runtime user token (since + UsersService.TOKEN_EXPIRY_MS) state := by
  intro supply unissued
  refine guarantees_serve rfl ?_
  unfold Request.handle
  refine (guarantees_timely (verifyEmail_guarantees unverified sent unissued) ?_).weaken ?_
  · rintro verified later same ⟨account, kept, activated, unchanged, unattempted, standing⟩
    exact ⟨account, kept, activated, unchanged, same ▸ unattempted, same ▸ standing⟩
  · intro outcome verified holds final passed inTime
    obtain ⟨answered, account, kept, activated, unchanged, -, standing⟩ :=
      holds final passed inTime
    exact ⟨answered, account, kept, standing.recovers works activated, fun password matched =>
      standing.signsIn activated (unchanged ▸ matched)⟩

theorem Stands.activates (works : runtime.Works) (stands : Stands runtime state.db user)
    (unverified : user.isVerified = false) : Activates runtime user state := by
  intro dto supply leads
  refine guarantees_serve rfl ?_
  unfold Request.handle
  refine Guarantees.bind (resendVerificationEmail_returns stands unverified leads) ?_
  intro result now sent mailed meanwhile
  have there : LinkSent runtime user supply.token state.clock mailed :=
    ⟨meanwhile.db ▸ sent.stands, meanwhile.db ▸ sent.link, meanwhile.outbox ▸ sent.mailed⟩
  exact ⟨⟨result, rfl⟩, there.mailed, there.activates works unverified⟩

/-- **Whoever reads the mail of an account gets into it.** In every state that the service
reaches, whatever calls are under way there, an account that is verified can be given a new
password through a mailed link and opened with it, and an account that is not verified can be
activated through a mailed link. -/
theorem mailbox_opens_account (works : runtime.Works) {pool : ServicePool}
    (reachable : Reachable (service runtime) .free (State.empty clock) pool)
    (stored : user ∈ pool.world.state.db.users) :
    (user.isVerified = true → Recovers runtime user pool.world.state) ∧
      (user.isVerified = false → Activates runtime user pool.world.state) := by
  have stands : Stands runtime pool.world.state.db user :=
    ⟨reachable_settled works reachable, stored⟩
  exact ⟨stands.recovers works, stands.activates works⟩

theorem legibleRuntime_works : legibleRuntime.Works where
  compares _ password := beq_self_eq_true password
  decrypts _ _ := rfl

/-- The foreigner who has logged in, and a citizen who has only registered. -/
def lockedOut : List ServiceMove :=
  signedIn ++ .accept (.register ⟨some "N1", none, "b@x", none, "pw"⟩) ::
    steps 3 [{ citizen := ⟨"Ann", "Lee", "F", 0, "RW"⟩ }, {}, {}, {}, {}, { text := "1" }, {},
      { text := "r2" }, {}, {}, {}, {}]

theorem mailbox_opens_account_lockedOut :
    (played .lax lockedOut).world.state.db.users.map (·.isVerified) = [true, false] ∧
      ∀ user ∈ (played .lax lockedOut).world.state.db.users,
        (user.isVerified = true →
          Recovers legibleRuntime user (played .lax lockedOut).world.state) ∧
        (user.isVerified = false →
          Activates legibleRuntime user (played .lax lockedOut).world.state) :=
  ⟨by decide +kernel, fun _ stored => mailbox_opens_account legibleRuntime_works
    (played_reachable Referee.lax_upholds lockedOut) stored⟩

end GraconAuth
