/-
This file follows what an account shows of its owner from the registration to every
place where it is shown again: the answers to a login, to a verification and to a
request for the profile, and the welcome mail. The number and the platform id go
through the ciphers and the tables on the way, and come back as the answer to the
registration has shown them.
-/

import GraconAuth.IdentifierCiphers
import GraconAuth.Integrity

namespace GraconAuth

open Interleaving Program Rows
open EncryptionService (Aes256Cbc Key Iv encryptWith decryptWith decryptWith_encryptWith)

/-! ### Records -/

/-- The account that an event has read, by its own columns or with its verification link. -/
def readRecord : ServiceEvent → Option UserRecord
  | ⟨.userFindUnique _, .ok found⟩ => found
  | ⟨.emailVerificationTokenFindUnique _, .ok found⟩ => found.map (·.2)
  | _ => none

/-- The call has read a record of an account. -/
def ReadRecord (past : List ServiceEvent) (record : UserRecord) : Prop :=
  ∃ event ∈ past, readRecord event = some record

theorem ReadRecord.mono {past now : List ServiceEvent} {record : UserRecord}
    (read : ReadRecord past record) (grown : past ⊆ now) : ReadRecord now record := by
  obtain ⟨event, member, same⟩ := read
  exact ⟨event, grown member, same⟩

variable (runtime : Runtime)

/-- What a record shows as the platform id. -/
def UserRecord.ShowsPid (record : UserRecord) (platformId : Option String) : Prop :=
  match record.platformId with
  | none => platformId = none
  | some row => ∃ rawPid, runtime.decrypt row.pidEncrypted = .ok rawPid ∧ platformId = some rawPid

/-- What a record shows as the foreign identity number. -/
def UserRecord.ShowsFin (record : UserRecord) (fin : Option String) : Prop :=
  match record.citizenIdentity with
  | none => fin = none
  | some identity =>
    if identity.identityType = .FIN ∧ truthy identity.finEncrypted = true then
      ∃ number, runtime.decrypt (identity.finEncrypted.getD "") = .ok number ∧ fin = some number
    else fin = none

/-- A profile shows a record. -/
structure SafeUserProfile.Shows (profile : SafeUserProfile) (record : UserRecord) : Prop where
  userId : profile.userId = record.user.id
  surName : profile.surName = (record.citizenIdentity.map (·.surName)).getD ""
  postNames : profile.postNames = (record.citizenIdentity.map (·.postNames)).getD ""
  identityType : profile.identityType = (record.citizenIdentity.map (·.identityType)).getD .NID
  fin : record.ShowsFin runtime profile.fin

structure UserProfile.Shows (profile : UserProfile) (record : UserRecord) : Prop where
  id : profile.id = record.user.id
  platformId : record.ShowsPid runtime profile.platformId
  identityType : profile.identityType = (record.citizenIdentity.map (·.identityType)).getD .NID
  fin : record.ShowsFin runtime profile.fin
  names : profile.citizenIdentity.map (fun identity => (identity.surName, identity.postNames)) =
    record.citizenIdentity.map fun identity => (identity.surName, identity.postNames)

/-- The welcome mail greets the owner of a record. -/
structure Mail.Welcomes (mail : Mail) (record : UserRecord) : Prop where
  surName : mail.surName = (record.citizenIdentity.map (·.surName)).getD ""
  postNames : mail.postNames = (record.citizenIdentity.map (·.postNames)).getD ""
  platformId : ∃ rawPid, record.ShowsPid runtime rawPid ∧ mail.platformId = some (rawPid.getD "")

/-- The answer to a registration tells what its transaction has stored. -/
structure RegistrationResult.Tells (result : RegistrationResult) (data : RegistrationCreate) :
    Prop where
  surName : result.surName = data.surName
  postNames : result.postNames = data.postNames
  identityType : result.identityType = data.identityType
  platformId : ∃ iv, data.pidEncrypted = runtime.encrypt iv result.platformId
  fin : ∃ iv, data.finEncrypted = result.fin.map (runtime.encrypt iv)
  kind : result.identityType = .FIN ↔ result.fin.isSome = true

/-! ### The rule -/

/-- What an answer shows of its account comes from a record that the call has read. -/
def Response.Reports (past : List ServiceEvent) : Response → Prop
  | .registration result => ∃ data,
    ⟨.registerTransaction data, .ok result.userId⟩ ∈ past ∧ result.Tells runtime data
  | .login result => ∃ record, ReadRecord past record ∧ result.user.Shows runtime record
  | .emailVerified result => ∀ session ∈ result.session, ∃ record,
    ReadRecord past record ∧ session.2.Shows runtime record
  | .profile result => ∃ record, ReadRecord past record ∧ result.Shows runtime record
  | _ => True

/-- Answers report, and a verification welcomes the owner of the account. -/
def reporting (request : Request) (past : List ServiceEvent) : Effect → Prop
  | .respond (.ok response) => Response.Reports runtime past response
  | .sendMail mail => ∀ dto, request = .verifyEmail dto → ∃ record,
    ReadRecord past record ∧ record.user.id = dto.userId ∧ mail.Welcomes runtime record
  | _ => True

theorem harmless_reporting {request : Request} (other : ∀ dto, request ≠ .verifyEmail dto)
    (past : List ServiceEvent) (effect : Effect) (harmless : effect.Harmless) :
    reporting runtime request past effect := by
  cases effect with
  | respond outcome => exact harmless.elim
  | sendMail mail => exact fun dto same => absurd same (other dto)
  | _ => trivial

theorem awaits_reporting {request : Request} (other : ∀ dto, request ≠ .verifyEmail dto)
    (past : List ServiceEvent) (effect : Effect) (awaits : request.Awaits effect) :
    reporting runtime request past effect := by
  cases effect with
  | respond outcome =>
    cases request <;> simp [Request.Awaits, Effect.Links, Effect.Issues, Effect.Rotates] at awaits
  | sendMail mail => exact fun dto same => absurd same (other dto)
  | _ => trivial

/-! ### The calls -/

section Traversal

variable {runtime} {rule : ServiceConduct} {request : Request} {past : List ServiceEvent}

theorem decryptPid_shows (record : UserRecord) :
    (UsersService.decryptPid runtime record).Follows rule
      (Results fun _ platformId => record.ShowsPid runtime platformId) past := by
  unfold UsersService.decryptPid UserRecord.ShowsPid
  cases record.platformId with
  | none => exact results_ok.mpr rfl
  | some row =>
    refine follows_bind.mpr (follows_ofOutcome.mpr ?_)
    cases decrypted : runtime.decrypt row.pidEncrypted with
    | error failure => exact results_error
    | ok rawPid => exact results_ok.mpr ⟨rawPid, decrypted, rfl⟩

theorem decryptFin_shows (record : UserRecord) :
    (UsersService.decryptFin runtime record).Follows rule
      (Results fun _ fin => record.ShowsFin runtime fin) past := by
  unfold UsersService.decryptFin UserRecord.ShowsFin
  cases record.citizenIdentity with
  | none => exact results_ok.mpr rfl
  | some identity =>
    dsimp only
    by_cases foreign : identity.identityType = .FIN ∧ truthy identity.finEncrypted = true
    · rw [if_pos (by simpa using foreign)]
      refine follows_bind.mpr (follows_ofOutcome.mpr ?_)
      cases decrypted : runtime.decrypt (identity.finEncrypted.getD "") with
      | error failure => exact results_error
      | ok number =>
        refine results_ok.mpr ?_
        rw [if_pos foreign]
        exact ⟨number, rfl, rfl⟩
    · rw [if_neg (by simpa using foreign)]
      refine results_ok.mpr ?_
      rw [if_neg foreign]

theorem encrypt_shows (plainText : String)
    (allowed : ∀ past, rule.allows past .randomBytes) :
    (EncryptionService.encrypt runtime plainText).Follows rule
      (Results fun _ cipherText => ∃ iv, cipherText = runtime.encrypt iv plainText) past :=
  results_perform_bind (allowed past) fun iv _ => results_ok.mpr ⟨iv, rfl⟩

theorem register_reports (dto : UsersService.RegisterDto) :
    (UsersService.register runtime dto).Follows (conduct (reporting runtime (.register dto)))
      (Results fun now result => ∃ data, ⟨.registerTransaction data, .ok result.userId⟩ ∈ now ∧
        result.Tells runtime data) past := by
  have harmless : ∀ past effect, effect.Harmless →
      reporting runtime (.register dto) past effect := harmless_reporting runtime nofun
  refine ((assertExclusiveIdentityInput_uses dto).abides harmless).results_bind fun _ _ _ =>
    ((resolveRegistrationIdentity_uses dto).abides harmless).results_bind fun _ identity _ =>
    results_perform_bind trivial fun _ _ => results_throwIf_bind fun _ =>
    results_perform_bind trivial fun _ _ => results_throwIf_bind fun _ =>
    ((bcryptHash_uses runtime _).abides harmless).results_bind fun _ _ _ =>
    (encrypt_shows identity.identityNumber fun _ => trivial).results_bind
      fun _ identityEncrypted number _ =>
    ((generate_uses runtime _).abides harmless).results_bind fun _ rawPid _ =>
    (encrypt_shows rawPid fun _ => trivial).results_bind fun _ pidEncrypted pid _ =>
    results_perform_bind trivial fun rawToken _ => results_perform_bind trivial fun now _ => ?_
  obtain ⟨iv, rfl⟩ := number
  obtain ⟨pidIv, rfl⟩ := pid
  refine Follows.results_bind (?_ : Follows _ (Results fun now userId => ∃ data,
    ⟨.registerTransaction data, .ok userId⟩ ∈ now ∧ data.surName = identity.surName ∧
      data.postNames = identity.postNames ∧ data.identityType = identity.identityType ∧
      data.pidEncrypted = runtime.encrypt pidIv rawPid ∧
      data.finEncrypted = if identity.identityType = .FIN then
        some (runtime.encrypt iv identity.identityNumber) else none) _ _) ?_
  · refine follows_rescue.mpr (follows_perform.mpr ⟨trivial, fun reply _ => ?_⟩)
    cases reply with
    | error failure => exact results_error
    | ok userId =>
      refine results_ok.mpr ⟨_, List.mem_cons_self, rfl, rfl, rfl, rfl, ?_⟩
      by_cases foreign : identity.identityType = .FIN <;> simp [foreign]
  · rintro now userId ⟨data, made, surName, postNames, identityType, pid, fin⟩ _
    refine Abides.results_bind (abides_rescue (abides_perform nofun) fun _ _ => trivial)
      fun _ _ grown => results_ok.mpr ⟨data, grown made, surName.symm, postNames.symm,
        identityType.symm, ⟨pidIv, pid⟩, ⟨iv, ?_⟩, ?_⟩
    · rw [fin]
      by_cases foreign : identity.identityType = .FIN <;> simp [foreign]
    · by_cases foreign : identity.identityType = .FIN <;> simp [foreign]

theorem login_reports (dto : AuthService.LoginDto) (ipAddress userAgent : String) :
    (AuthService.login runtime dto ipAddress userAgent).Follows
      (conduct (reporting runtime (.login dto ipAddress userAgent)))
      (Results fun now result => ∃ record, ReadRecord now record ∧ result.user.Shows runtime record)
      past := by
  have other : ∀ verified, Request.login dto ipAddress userAgent ≠ .verifyEmail verified := nofun
  have harmless : ∀ past effect, effect.Harmless →
      reporting runtime (.login dto ipAddress userAgent) past effect :=
    harmless_reporting runtime other
  have awaits : ∀ past effect, (effect.Harmless ∨ effect.Issues) →
      reporting runtime (.login dto ipAddress userAgent) past effect := by
    rintro past effect (inside | issues)
    · exact harmless past effect inside
    · exact awaits_reporting runtime other past effect issues
  refine results_perform_bind trivial fun user _ => ?_
  split
  · exact results_perform_bind trivial fun _ _ => results_error
  · rename_i record matched
    obtain ⟨rfl, _⟩ := Option.filter_eq_some_iff.mp matched
    have read : ReadRecord (⟨.userFindUnique (.byEmail dto.email), .ok (some record)⟩ :: past)
        record := ⟨_, List.mem_cons_self, rfl⟩
    refine results_perform_bind trivial fun _ _ => results_throwIf_bind fun _ =>
      results_throwIf_bind fun _ => ((generateTokens_uses runtime _ _ _ _ _).abides
        awaits).results_bind fun _ _ grown => Follows.results_bind
          (?_ : Follows _ (Results fun _ profile => profile.Shows runtime record) _ _) fun _ profile shows kept =>
            results_ok.mpr ⟨record, read.mono fun _ member =>
              kept (grown (List.mem_cons_of_mem _ member)), shows⟩
    exact ((resolveProfileImageAccess_uses _).abides harmless).results_bind fun _ _ _ =>
      (decryptFin_shows record).results_bind fun _ fin shows _ =>
        results_ok.mpr ⟨rfl, rfl, rfl, rfl, shows⟩

theorem getProfile_reports (other : ∀ dto, request ≠ .verifyEmail dto) (userId : UserId) :
    (UsersService.getProfile runtime userId).Follows (conduct (reporting runtime request))
      (Results fun now profile => ∃ record, ReadRecord now record ∧ profile.Shows runtime record)
      past := by
  refine results_perform_bind trivial fun user _ => ?_
  cases user with
  | none => exact results_error
  | some record =>
    have read : ReadRecord (⟨.userFindUnique (.byId userId), .ok (some record)⟩ :: past) record :=
      ⟨_, List.mem_cons_self, rfl⟩
    refine (decryptPid_shows record).results_bind fun _ platformId pid grown =>
      (decryptFin_shows record).results_bind fun _ fin number kept =>
        ((resolveProfileImageAccess_uses _).abides (harmless_reporting runtime other)).results_bind
          fun _ _ stays => results_ok.mpr ⟨record, read.mono fun _ member =>
            stays (kept (grown member)), rfl, pid, rfl, number, ?_⟩
    cases record.citizenIdentity <;> rfl

theorem updateProfile_reports (jwt : Jwt) (userId : UserId) (dto : UsersService.UpdateProfileDto) :
    (UsersService.updateProfile runtime userId dto).Follows
      (conduct (reporting runtime (.updateProfile jwt dto)))
      (Results fun now profile => ∃ record, ReadRecord now record ∧ profile.Shows runtime record)
      past := by
  have other : ∀ verified, Request.updateProfile jwt dto ≠ .verifyEmail verified := nofun
  refine results_perform_bind trivial fun user _ => ?_
  cases user with
  | none => exact results_error
  | some record =>
    dsimp only
    split
    · exact results_perform_bind trivial fun _ _ => getProfile_reports other userId
    · refine ((rejectTakenEmail_uses _ _).abides (harmless_reporting runtime other)).results_bind
        fun _ _ _ => results_perform_bind trivial fun _ _ => Abides.results_bind
          ((replaceVerificationToken_uses runtime _ _ _).abides ?_) fun _ _ _ =>
            getProfile_reports other userId
      rintro now effect (harmless | links)
      · exact harmless_reporting runtime other now effect harmless
      · exact awaits_reporting runtime other now effect (.inl links)

theorem verifyEmail_reports (dto : UsersService.VerifyEmailDto) :
    (UsersService.verifyEmail runtime dto).Follows
      (conduct (reporting runtime (.verifyEmail dto)))
      (Results fun now result => ∀ session ∈ result.session, ∃ record,
        ReadRecord now record ∧ session.2.Shows runtime record) past := by
  refine results_perform_bind trivial fun found expected => ?_
  match found with
  | none => exact results_error
  | some (tokenRecord, record) =>
    have owner : record.user.id = dto.userId := expected.2
    have read : ReadRecord (⟨.emailVerificationTokenFindUnique dto.userId,
        .ok (some (tokenRecord, record))⟩ :: past) record := ⟨_, List.mem_cons_self, rfl⟩
    dsimp only
    split
    · exact results_ok.mpr fun session member => absurd member (Option.not_mem_none session)
    · refine results_throwIf_bind fun _ => results_perform_bind trivial fun now _ =>
        results_throwIf_bind fun _ => results_throwIf_bind fun _ => results_perform_bind trivial
          fun _ _ => (decryptPid_shows record).results_bind fun later rawPid pid grown => ?_
      have read : ReadRecord later record := read.mono fun _ member =>
        grown (List.mem_cons_of_mem _ (List.mem_cons_of_mem _ member))
      refine Abides.results_bind (abides_rescue (abides_perform ?_) fun _ _ => trivial)
        fun mailed _ kept => ?_
      · rintro _ ⟨⟩
        exact ⟨record, read, owner, rfl, rfl, rawPid, pid, rfl⟩
      · split
        · exact results_ok.mpr fun session member => absurd member (Option.not_mem_none session)
        · refine Abides.results_bind (abides_perform_bind trivial fun _ _ => abides_perform_bind
            trivial fun _ _ => abides_perform_bind trivial fun _ _ => abides_perform_bind trivial
              fun _ _ => trivial) fun _ tokens stays => Follows.results_bind
                (?_ : Follows _ (Results fun _ profile => profile.Shows runtime record) _ _)
                  fun _ profile shows lasts => results_ok.mpr ?_
          · exact (decryptFin_shows record).results_bind fun _ fin shows _ =>
              results_ok.mpr ⟨rfl, rfl, rfl, rfl, shows⟩
          · rintro session ⟨⟩
            exact ⟨record, read.mono fun _ member => lasts (stays (kept member)), shows⟩

end Traversal

/-- Every call keeps to the rule. -/
theorem serve_reporting (request : Request) :
    (serve runtime request).Abides (conduct (reporting runtime request)) [] := by
  have silent : ∀ {Result : Type} {program : Async Result} {answer : Result → Response}
      {past : List ServiceEvent}, (∀ dto, request ≠ .verifyEmail dto) →
        (∀ now result, Response.Reports runtime now (answer result)) →
        (program >>= fun result => pure (answer result)).Uses
          (fun effect => effect.Harmless ∨ request.Awaits effect) →
        (program >>= fun result => pure (answer result)).Follows
          (conduct (reporting runtime request))
          (fun now outcome => reporting runtime request now (.respond outcome)) past := by
    intro Result program answer past other reports uses
    have abides : Abides (conduct (reporting runtime request))
        (program >>= fun result => pure (answer result)) past :=
      uses.abides fun now effect inside => inside.elim
        (harmless_reporting runtime other now effect) (awaits_reporting runtime other now effect)
    refine follows_bind.mpr ((follows_bind.mp abides).weaken fun now outcome _ => ?_)
    cases outcome with
    | error failure => trivial
    | ok result => exact reports now result
  -- What a result reports, its answer reports.
  have answers : ∀ {Result : Type} {program : Async Result} {answer : Result → Response}
      {past : List ServiceEvent}, program.Follows (conduct (reporting runtime request))
        (Results fun now result => Response.Reports runtime now (answer result)) past →
        (program >>= fun result => pure (answer result)).Follows
          (conduct (reporting runtime request))
          (fun now outcome => reporting runtime request now (.respond outcome)) past :=
    fun follows => follows.bind (fun _ result reports => reports result rfl) fun _ _ _ => trivial
  have expectation : ∀ event : ServiceEvent, Plausible event → Plausible event := fun _ => id
  cases request with
  | register dto =>
    exact serve_follows runtime _ (harmless_reporting runtime nofun) (fun _ _ _ _ => trivial)
      fun past userId _ => answers (register_reports dto)
  | login dto ipAddress userAgent =>
    exact serve_follows runtime _ (harmless_reporting runtime nofun) (fun _ _ _ _ => trivial)
      fun past userId _ => answers (login_reports dto ipAddress userAgent)
  | verifyEmail dto =>
    refine follows_bind.mpr (follows_attempt.mpr (Follows.weaken (answers (verifyEmail_reports dto))
      fun now outcome reports => follows_perform_bind.mpr ⟨reports, fun _ _ => ?_, fun _ _ => ?_⟩))
    · exact follows_ofOutcome.mpr trivial
    · trivial
  | getProfile jwt =>
    have other : ∀ verified, Request.getProfile jwt ≠ .verifyEmail verified := nofun
    exact serve_follows runtime _ (harmless_reporting runtime nofun) (fun _ _ _ _ => trivial)
      fun past userId _ => answers (getProfile_reports other userId)
  | updateProfile jwt dto =>
    exact serve_follows runtime _ (harmless_reporting runtime nofun) (fun _ _ _ _ => trivial)
      fun past userId _ => answers (updateProfile_reports jwt userId dto)
  | resendVerificationEmail _ | refreshTokens _ _ _ _ | upgradeSession _ _ _ _ | requestReset _
  | validateResetToken _ _ | resetPassword _ | logout _ _ | logoutAllDevices _ | changePassword _ _
  | submitVerification _ _ _ | getVerificationStatus _ | cleanupExpiredTokens =>
    exact serve_follows runtime _ (harmless_reporting runtime nofun) (fun _ _ _ _ => trivial)
      fun past userId _ => silent nofun (fun _ _ => trivial) (handle_uses runtime userId _)

/-! ### The tables -/

/-- The platform id stored for an account. -/
def Database.platformIdRow (db : Database) (userId : UserId) : Option PlatformIdRow :=
  db.platformIds.find? fun row => row.userId == userId

theorem register_platformIdRow {db next : Database} {clock : Timestamp} {data : RegistrationCreate}
    (ran : db.register clock data = .ok next) :
    ∃ row : PlatformIdRow, next.platformIds = db.platformIds ++ [row] ∧ row.userId = db.nextId ∧
      row.pidEncrypted = data.pidEncrypted := by
  unfold Database.register at ran
  split at ran
  · cases ran
  · cases ran
    exact ⟨_, rfl, rfl, rfl⟩

/-- The platform id stored for an account stays. -/
theorem performs_platformIdRow {state next : State} {effect : Effect}
    {reply : Except Failure effect.Reply} (performs : environment.Performs state effect reply next)
    {userId : UserId} {row : PlatformIdRow}
    (found : state.db.platformIdRow userId = some row) :
    next.db.platformIdRow userId = some row := by
  refine performs_preserves (fun db => db.platformIdRow userId = some row) performs ?_ ?_
    (fun _ holds => holds) found
  · intro _ _ statement _ now later holds carried
    cases carried <;> exact holds
  · intro data later holds ran
    obtain ⟨fresh, platformIds, _⟩ := register_platformIdRow ran
    unfold Database.platformIdRow at holds ⊢
    rw [platformIds, List.find?_append, holds, Option.some_or]

/-- A record is read from the tables. -/
theorem performs_readRecord {state next : State} {effect : Effect}
    {reply : Except Failure effect.Reply} (performs : environment.Performs state effect reply next)
    {record : UserRecord} (read : readRecord ⟨effect, reply⟩ = some record) :
    ∃ user ∈ state.db.users, record = state.db.withRelations user := by
  unfold readRecord at read
  split at read
  · rename_i filter found same
    cases same
    subst read
    obtain ⟨user, stored, rfl⟩ := Option.map_eq_some_iff.mp (performs_userFindUnique performs).symm
    exact ⟨user, List.mem_of_find?_eq_some stored, rfl⟩
  · rename_i userId found same
    cases same
    obtain ⟨⟨tokenRecord, other⟩, rfl, rfl⟩ := Option.map_eq_some_iff.mp read
    have found := (performs_emailVerificationTokenFindUnique performs).symm
    simp only [Database.findEmailVerificationTokenWithUser, Bind.bind, Option.bind_eq_some_iff,
      pure, Option.some.injEq, Prod.mk.injEq] at found
    obtain ⟨row, _, user, stored, rfl, rfl⟩ := found
    exact ⟨user, List.mem_of_find?_eq_some stored, rfl⟩
  · cases read

variable {runtime}

section Chronicles

variable {regime : Regime State Effect.Reply Failure Request} {clock : Timestamp}
  {world : ServiceWorld}
  (chronicle : Chronicle (service runtime) regime
    (fun request => conduct (ledger runtime request)) (State.empty clock) world)

include chronicle

/-- The account keeps the platform id that the registration has given to it. -/
theorem platformIdRow_created {entry : ServiceEntry} {data : RegistrationCreate} {userId : UserId}
    (member : entry ∈ world.history)
    (event : entry.event = ⟨.registerTransaction data, .ok userId⟩) :
    ∃ row, world.state.db.platformIdRow userId = some row ∧
      row.pidEncrypted = data.pidEncrypted := by
  obtain ⟨earlier, before, admissible, _⟩ := chronicle.recalls member
  have performs : environment.Performs entry.before entry.effect entry.reply entry.after :=
    admissible.performs
  obtain ⟨rfl, ran⟩ := performs_registerTransaction (performs_event performs event)
  obtain ⟨row, platformIds, owner, stored⟩ := register_platformIdRow ran
  refine ⟨row, chronicle.lasts (fun state =>
    state.db.platformIdRow entry.before.db.nextId = some row)
    (fun _ _ _ _ performs found => performs_platformIdRow performs found) member (.inr ?_), stored⟩
  have fresh : entry.before.db.platformIds.find?
      (fun row => row.userId == entry.before.db.nextId) = none := by
    refine List.find?_eq_none.mpr fun other present taken => ?_
    have owners := (chronicle_sound before).platformOwners
    have numbered := (chronicle_wellFormed before).users.below
    rw [← admissible.current] at owners numbered
    have known : entry.before.db.nextId ∈ entry.before.db.accounts := by
      rw [← owners]
      exact List.mem_map.mpr ⟨other, present, beq_iff_eq.mp taken⟩
    exact Nat.lt_irrefl _ (numbered _ known)
  rw [Database.platformIdRow, platformIds, List.find?_append, fresh, Option.none_or]
  exact List.find?_cons_of_pos (by simp [owner])

/-- What a call has read of an account is what its registration has stored. -/
theorem record_created {entry : ServiceEntry} {data : RegistrationCreate} {userId : UserId}
    (member : entry ∈ world.history)
    (event : entry.event = ⟨.registerTransaction data, .ok userId⟩) {thread : Nat}
    {record : UserRecord} (read : ReadRecord (world.past thread) record)
    (owner : record.user.id = userId) :
    (∃ id, record.citizenIdentity = some (data.identity id userId)) ∧
      ∃ row, record.platformId = some row ∧ row.pidEncrypted = data.pidEncrypted := by
  obtain ⟨_, past, reads⟩ := read
  obtain ⟨reading, recorded, _, rfl⟩ := World.mem_past.mp past
  obtain ⟨_, before, admissible, _⟩ := chronicle.recalls recorded
  have performs : environment.Performs reading.before reading.effect reading.reply reading.after :=
    admissible.performs
  obtain ⟨user, stored, rfl⟩ := performs_readRecord performs reads
  obtain rfl : user.id = userId := owner
  have sound := chronicle_sound before
  rw [← admissible.current] at sound
  have known : user.id ∈ reading.before.db.accounts := List.mem_map_of_mem stored
  refine ⟨?_, ?_⟩
  · obtain ⟨id, created⟩ := identityOf_created chronicle member event
    obtain ⟨identity, found⟩ := exists_find? (sound.identityOwners.symm ▸ known)
    have lasting := chronicle.lasts (fun state => state.db.identityOf user.id = some identity)
      (fun _ _ _ _ performs found => performs_identityOf performs found) recorded (.inl found)
    rw [created] at lasting
    exact ⟨id, found.trans lasting.symm⟩
  · obtain ⟨row, created, same⟩ := platformIdRow_created chronicle member event
    obtain ⟨platformId, found⟩ := exists_find? (sound.platformOwners.symm ▸ known)
    have lasting := chronicle.lasts (fun state => state.db.platformIdRow user.id = some platformId)
      (fun _ _ _ _ performs found => performs_platformIdRow performs found) recorded (.inl found)
    rw [created] at lasting
    exact ⟨row, found.trans lasting.symm, same⟩

end Chronicles

/-! ### What is shown is what was registered -/

variable {aes : Aes256Cbc} {key : Key} {drawn : String → Iv}

theorem truthy_encryptWith (iv : Iv) (plainText : String) :
    truthy (some (encryptWith aes key iv plainText)) = true := by
  have separated : ':' ∈ (encryptWith aes key iv plainText).toList := by
    simp [encryptWith]
  simp only [truthy, Option.any_some, bne_iff_ne]
  intro none
  rw [none] at separated
  cases separated

/-- The number of the registration comes back. -/
theorem shown_fin {result : RegistrationResult} {data : RegistrationCreate} {id : RowId}
    {userId : UserId} (tells : result.Tells (runtime.enciphering aes key drawn) data)
    {record : UserRecord} (stored : record.citizenIdentity = some (data.identity id userId))
    {fin : Option String} (shows : record.ShowsFin (runtime.enciphering aes key drawn) fin) :
    fin = result.fin := by
  obtain ⟨iv, encrypted⟩ := tells.fin
  simp only [UserRecord.ShowsFin, stored, RegistrationCreate.identity, encrypted,
    ← tells.identityType] at shows
  cases given : result.fin with
  | none =>
    rw [given, if_neg (by simp [truthy])] at shows
    exact shows
  | some number =>
    have foreign : result.identityType = .FIN := tells.kind.mpr (by rw [given]; rfl)
    rw [given, Option.map_some, if_pos ⟨foreign, truthy_encryptWith (drawn iv) number⟩] at shows
    obtain ⟨raw, decrypted, rfl⟩ := shows
    have same := (decryptWith_encryptWith aes key (drawn iv) number).symm.trans decrypted
    rw [Except.ok.inj same]

/-- The platform id of the registration comes back. -/
theorem shown_pid {result : RegistrationResult} {data : RegistrationCreate}
    (tells : result.Tells (runtime.enciphering aes key drawn) data) {record : UserRecord}
    {row : PlatformIdRow} (stored : record.platformId = some row)
    (same : row.pidEncrypted = data.pidEncrypted) {platformId : Option String}
    (shows : record.ShowsPid (runtime.enciphering aes key drawn) platformId) :
    platformId = some result.platformId := by
  obtain ⟨iv, encrypted⟩ := tells.platformId
  simp only [UserRecord.ShowsPid, stored, same, encrypted] at shows
  obtain ⟨raw, decrypted, rfl⟩ := shows
  have same := (decryptWith_encryptWith aes key (drawn iv) result.platformId).symm.trans decrypted
  rw [Except.ok.inj same]

/-- A profile shows the account as its registration was answered. -/
structure SafeUserProfile.Agrees (profile : SafeUserProfile) (result : RegistrationResult) :
    Prop where
  surName : profile.surName = result.surName
  postNames : profile.postNames = result.postNames
  identityType : profile.identityType = result.identityType
  fin : profile.fin = result.fin

structure UserProfile.Agrees (profile : UserProfile) (result : RegistrationResult) : Prop where
  platformId : profile.platformId = some result.platformId
  identityType : profile.identityType = result.identityType
  fin : profile.fin = result.fin
  names : profile.citizenIdentity.map (fun identity => (identity.surName, identity.postNames)) =
    some (result.surName, result.postNames)

structure Mail.Agrees (mail : Mail) (result : RegistrationResult) : Prop where
  surName : mail.surName = result.surName
  postNames : mail.postNames = result.postNames
  platformId : mail.platformId = some result.platformId

/-- An answer shows the account as its registration was answered, if it shows it at all. -/
def Response.Agrees (result : RegistrationResult) : Response → Prop
  | .login shown => shown.user.userId = result.userId → shown.user.Agrees result
  | .emailVerified shown => ∀ session ∈ shown.session,
    session.2.userId = result.userId → session.2.Agrees result
  | .profile shown => shown.id = result.userId → shown.Agrees result
  | _ => True

theorem SafeUserProfile.Shows.agrees {profile : SafeUserProfile} {record : UserRecord}
    {result : RegistrationResult} {data : RegistrationCreate} {id : RowId} {userId : UserId}
    (shows : profile.Shows (runtime.enciphering aes key drawn) record)
    (tells : result.Tells (runtime.enciphering aes key drawn) data)
    (stored : record.citizenIdentity = some (data.identity id userId)) :
    profile.Agrees result where
  surName := by rw [shows.surName, stored, tells.surName]; rfl
  postNames := by rw [shows.postNames, stored, tells.postNames]; rfl
  identityType := by rw [shows.identityType, stored, tells.identityType]; rfl
  fin := shown_fin tells stored shows.fin

/-- Every entry that shows an account agrees with the answer to its registration: the answers to a
login, to a verification and to a request for the profile, and the welcome mail. -/
theorem identity_cards_intact (aes : Aes256Cbc) (key : Key) (drawn : String → Iv)
    (runtime : Runtime) {clock : Timestamp} {pool : ServicePool}
    (reachable : Reachable (service (runtime.enciphering aes key drawn)) .free
      (State.empty clock) pool)
    {registered shown : ServiceEntry} (memberRegistered : registered ∈ pool.world.history)
    (memberShown : shown ∈ pool.world.history) {result : RegistrationResult}
    (registers : registered.effect = .respond (.ok (.registration result))) :
    (∀ response, shown.effect = .respond (.ok response) → response.Agrees result) ∧
      ∀ mail dto, shown.effect = .sendMail mail → shown.request = .verifyEmail dto →
        dto.userId = result.userId → mail.Agrees result := by
  have sound := reachable_chronicle (ledger (runtime.enciphering aes key drawn)) reachable
    fun request _ => serve_ledger _ request
  have reports := reachable_chronicle (reporting (runtime.enciphering aes key drawn)) reachable
    fun request _ => serve_reporting _ request
  -- What the registration has stored.
  obtain ⟨earlier, _, admissible, kept⟩ := reports.recalls memberRegistered
  have ruled : reporting _ registered.request (earlier.past registered.thread) registered.effect :=
    admissible.ruled
  rw [registers] at ruled
  obtain ⟨data, made, tells⟩ := ruled
  obtain ⟨creation, old, _, event⟩ := World.mem_past.mp made
  have stored := fun {thread : Nat} {record : UserRecord} =>
    @record_created _ _ _ _ sound creation data result.userId (kept old) event thread record
  -- What the other entry shows.
  obtain ⟨before, _, known, inside⟩ := reports.recalls memberShown
  have shows : reporting _ shown.request (before.past shown.thread) shown.effect := known.ruled
  refine ⟨fun response answers => ?_, fun mail dto sends verifies own => ?_⟩
  · rw [answers] at shows
    cases response with
    | login login =>
      intro own
      obtain ⟨record, read, profile⟩ := shows
      obtain ⟨⟨id, identity⟩, _⟩ := stored (read.mono (World.past_subset inside _))
        (profile.userId.symm.trans own)
      exact profile.agrees tells identity
    | emailVerified verified =>
      intro session given own
      obtain ⟨record, read, profile⟩ := shows session given
      obtain ⟨⟨id, identity⟩, _⟩ := stored (read.mono (World.past_subset inside _))
        (profile.userId.symm.trans own)
      exact profile.agrees tells identity
    | profile profile =>
      intro own
      obtain ⟨record, read, profile⟩ := shows
      obtain ⟨⟨id, identity⟩, row, platformId, same⟩ :=
        stored (read.mono (World.past_subset inside _)) (profile.id.symm.trans own)
      exact {
        platformId := shown_pid tells platformId same profile.platformId
        identityType := by rw [profile.identityType, identity, tells.identityType]; rfl
        fin := shown_fin tells identity profile.fin
        names := by rw [profile.names, identity, tells.surName, tells.postNames]; rfl }
    | _ => trivial
  · rw [sends] at shows
    obtain ⟨record, read, owner, welcomes⟩ := shows dto verifies
    obtain ⟨⟨id, identity⟩, row, platformId, same⟩ :=
      stored (read.mono (World.past_subset inside _)) (owner.trans own)
    obtain ⟨rawPid, pid, mailed⟩ := welcomes.platformId
    exact {
      surName := by rw [welcomes.surName, identity, tells.surName]; rfl
      postNames := by rw [welcomes.postNames, identity, tells.postNames]; rfl
      platformId := by rw [mailed, shown_pid tells platformId same pid]; rfl }

/-- The result that an effect answers a registration with. -/
def Effect.registration : Effect → Option RegistrationResult
  | .respond (.ok (.registration result)) => some result
  | _ => none

theorem Effect.registration_some {effect : Effect} {result : RegistrationResult}
    (answers : effect.registration = some result) :
    effect = .respond (.ok (.registration result)) := by
  unfold Effect.registration at answers
  split at answers
  · cases answers
    rfl
  · cases answers

/-- So it is in the run of a citizen who registers and verifies the address. -/
theorem identity_cards_intact_sample :
    ∃ registered ∈ sampleRun.world.history, ∃ result,
      registered.effect = .respond (.ok (.registration result)) ∧
        ∀ shown ∈ sampleRun.world.history, ∀ response,
          shown.effect = .respond (.ok response) → response.Agrees result := by
  obtain ⟨registered, member, answers⟩ : ∃ registered ∈ sampleRun.world.history,
      registered.effect.registration.isSome = true := by
    decide +kernel
  obtain ⟨result, answers⟩ := Option.isSome_iff_exists.mp answers
  have answers := Effect.registration_some answers
  have reachable : Reachable (service (legibleRuntime.enciphering sampleAes sampleKey
      fun _ => sampleIv)) .free (State.empty 0) sampleRun :=
    Pool.playAll_reachable Referee.lax_upholds _ _
  refine ⟨registered, member, result, answers, fun shown memberShown => ?_⟩
  exact (identity_cards_intact sampleAes sampleKey (fun _ => sampleIv) legibleRuntime reachable
    member memberShown answers).1

end GraconAuth
