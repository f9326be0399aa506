/-
This file is about the one password that opens an account. An account stores the hash
of the password that was last chosen for it, by its registration, a change or a reset,
and a login and a change compare with what is stored. The comparison reads 72 bytes, so
a login with another password is refused, and a change to it is not taken for a reuse,
exactly when the two passwords differ in these bytes.
-/

import GraconAuth.PasswordPolicy
import GraconAuth.SecurityLog
import GraconAuth.StoredIdentity
import GraconAuth.IdentifierCiphers

namespace GraconAuth

open Encodings Interleaving Program Rows

/-! ### What a password is compared by -/

/-- What `bcrypt` reads of a password. -/
def readByBcrypt (password : String) : Bytes := (utf8 password.toList).take 72

/-- A password is taken for the hashed one when what is read of them is the same. -/
def Runtime.Bcrypt (runtime : Runtime) : Prop :=
  ∀ salt hashed password, runtime.bcryptCompare password (runtime.bcryptHash salt hashed) = true ↔
    readByBcrypt password = readByBcrypt hashed

/-- The password that the entry has committed for an account. -/
def chosenPassword (entry : ServiceEntry) : Option (UserId × String) :=
  match entry.request, entry.event with
  | .register dto, ⟨.registerTransaction _, .ok userId⟩ => some (userId, dto.password)
  | .changePassword jwt dto, ⟨.execute _, .ok _⟩ => some (jwt.payload.sub, dto.newPassword)
  | .resetPassword dto, ⟨.execute _, .ok _⟩ => some (dto.userId, dto.newPassword)
  | _, _ => none

/-- The password that was last committed for the account. -/
def lastPassword (userId : UserId) (history : List ServiceEntry) : Option String :=
  history.findSome? fun entry =>
    (chosenPassword entry).bind fun (id, password) => if id = userId then some password else none

variable (runtime : Runtime)

/-! ### What is written -/

/-- The hash of the password of a request is all that it writes, as a password. -/
def choosesPassword : Request → Effect → Prop
  | .changePassword jwt dto, .execute statements => ∃ salt, statements = [
      .userUpdate jwt.payload.sub
        { passwordHash := some (runtime.bcryptHash salt dto.newPassword) },
      .refreshTokenUpdateMany { userId := some jwt.payload.sub }]
  | .resetPassword dto, .execute statements => ∃ salt id, statements = [
      .userUpdate dto.userId { passwordHash := some (runtime.bcryptHash salt dto.newPassword) },
      .passwordResetTokenUpdate id,
      .refreshTokenUpdateMany { userId := some dto.userId }]
  | request, .execute statements => ∀ statement ∈ statements, request.Writes statement
  | _, .registerTransaction _ => False
  | _, _ => True

def choosesFor : Request → List ServiceEvent → Effect → Prop
  | .register dto => registers runtime dto
  | request => fun _ effect => choosesPassword runtime request effect

section Traversal

variable {runtime}

theorem harmless_chooses {request : Request} {effect : Effect} (harmless : effect.Harmless) :
    choosesPassword runtime request effect := by
  cases effect with
  | execute _ | registerTransaction _ => exact harmless.elim
  | _ => cases request <;> trivial

theorem changePassword_chooses (jwt : Jwt) (dto : UsersService.ChangePasswordDto) :
    (UsersService.changePassword runtime jwt.payload.sub dto).Uses
      (choosesPassword runtime (.changePassword jwt dto)) := by
  refine uses_bind (uses_throwIf _ _) fun _ => uses_bind (uses_perform trivial) fun user => ?_
  cases user with
  | none => trivial
  | some record =>
    refine uses_bind (uses_throwIf _ _) fun _ => uses_bind (uses_throwIf _ _) fun _ =>
      uses_bind (uses_perform trivial) fun _ => ?_
    rw [bcryptHash, bind_assoc]
    refine uses_bind (uses_perform trivial) fun salt => ?_
    rw [pure_eq, done_bind]
    exact uses_bind (uses_perform ⟨salt, rfl⟩) fun _ => trivial

theorem resetPassword_chooses (dto : PasswordResetService.ResetPasswordDto) :
    (PasswordResetService.resetPassword runtime dto).Uses
      (choosesPassword runtime (.resetPassword dto)) := by
  refine uses_bind (uses_throwIf _ _) fun _ => uses_bind ?_ fun tokenLookup => ?_
  · refine uses_bind (uses_perform trivial) fun record => ?_
    cases record with
    | none => trivial
    | some record =>
      dsimp only
      split
      · trivial
      · refine uses_bind (uses_perform trivial) fun now => ?_
        split <;> trivial
  · cases tokenLookup with
    | error reason => trivial
    | ok tokenId =>
      dsimp only
      unfold PasswordResetService.resetWithToken
      rw [bcryptHash, bind_assoc]
      refine uses_bind (uses_perform trivial) fun salt => ?_
      rw [pure_eq, done_bind]
      exact uses_bind (uses_perform ⟨salt, tokenId, rfl⟩) fun _ =>
        uses_bind (uses_perform trivial) fun _ => trivial

/-- The request chooses a password for an account that exists. -/
def Request.replaces : Request → Bool
  | .changePassword _ _ | .resetPassword _ => true
  | _ => false

theorem awaits_chooses {request : Request} (other : request.replaces = false)
    (fresh : ∀ dto, request ≠ .register dto) {effect : Effect} (awaits : request.Awaits effect) :
    choosesPassword runtime request effect := by
  cases effect with
  | execute statements =>
    have writes := awaits_writes awaits
    cases request with
    | changePassword jwt dto | resetPassword dto => cases other
    | _ => exact writes
  | registerTransaction data =>
    cases request with
    | register dto => exact absurd rfl (fresh dto)
    | _ => simp [Request.Awaits, Effect.Rotates, Effect.Issues, Effect.Links] at awaits
  | _ => cases request <;> trivial

end Traversal

/-- Every call keeps to the rule. -/
theorem serve_chooses (request : Request) :
    (serve runtime request).Abides (conduct (choosesFor runtime request)) [] := by
  have plain (other : request.replaces = false) (fresh : ∀ dto, request ≠ .register dto) :
      (serve runtime request).Uses (choosesPassword runtime request) := by
    refine (serve_uses runtime request).mono fun effect inside => ?_
    rcases inside with harmless | awaits | ⟨outcome, rfl⟩
    · exact harmless_chooses harmless
    · exact awaits_chooses other fresh awaits
    · cases request <;> trivial
  cases request with
  | register dto => exact serve_registers runtime (.register dto)
  | changePassword jwt dto =>
    have handled : ((Request.changePassword jwt dto).handle runtime jwt.payload.sub).Uses
        (choosesPassword runtime (.changePassword jwt dto)) :=
      uses_bind (changePassword_chooses jwt dto) fun _ => trivial
    exact serve_subject_abides runtime rfl (fun _ expected => expected) trivial
      (fun _ _ => trivial) fun _ => handled.abides fun _ _ inside => inside
  | resetPassword dto =>
    have handled (userId : UserId) : ((Request.resetPassword dto).handle runtime userId).Uses
        (choosesPassword runtime (.resetPassword dto)) :=
      uses_bind (resetPassword_chooses dto) fun _ => trivial
    exact serve_abides runtime _ (fun _ _ harmless => harmless_chooses harmless)
      (fun _ _ => trivial) fun _ userId _ => (handled userId).abides fun _ _ inside => inside
  | _ => exact (plain rfl (fun _ => nofun)).abides fun _ _ inside => inside

/-! ### What is stored -/

section Chronicles

variable {runtime}

/-- Each account of a table is stored with a hash of the password that `last` gives for it. -/
def Database.Hashes (runtime : Runtime) (last : UserId → Option String) (db : Database) : Prop :=
  ∀ row ∈ db.users, ∃ password salt, last row.id = some password ∧
    row.passwordHash = runtime.bcryptHash salt password

theorem Carried.hashes {clock : Timestamp} {db next : Database} {statement : Statement}
    {last : UserId → Option String} (carried : Carried clock db statement next)
    (silent : ∀ id data, statement = .userUpdate id data → data.passwordHash = none)
    (hashes : db.Hashes runtime last) : next.Hashes runtime last := by
  cases carried with
  | userUpdate id data present free =>
    intro row member
    obtain ⟨old, stored, rfl⟩ := mem_updateWhere.mp member
    obtain ⟨password, salt, chosen, hashed⟩ := hashes old stored
    refine ⟨password, salt, ?_, ?_⟩
    · split <;> exact chosen
    · split
      · rw [← hashed, UserRow.apply, silent id data rfl]
        rfl
      · exact hashed
  | _ => exact hashes

/-- A replaced password is the last one from then on. -/
theorem Carried.replaces {clock : Timestamp} {db next : Database} {userId : UserId}
    {salt password : String} {last later : UserId → Option String}
    (carried : Carried clock db
      (.userUpdate userId { passwordHash := some (runtime.bcryptHash salt password) }) next)
    (chosen : later userId = some password) (others : ∀ id, id ≠ userId → later id = last id)
    (hashes : db.Hashes runtime last) : next.Hashes runtime later := by
  cases carried with
  | userUpdate id data present free =>
    intro row member
    obtain ⟨old, stored, rfl⟩ := mem_updateWhere.mp member
    by_cases same : old.id = userId
    · rw [if_pos (beq_iff_eq.mpr same)]
      exact ⟨password, salt, same ▸ chosen, rfl⟩
    · rw [if_neg (by simpa using same)]
      obtain ⟨password, salt, before, hashed⟩ := hashes old stored
      exact ⟨password, salt, (others _ same).trans before, hashed⟩

theorem lastPassword_cons_none {entry : ServiceEntry} {history : List ServiceEntry}
    (silent : chosenPassword entry = none) :
    (fun id => lastPassword id (entry :: history)) = fun id => lastPassword id history := by
  funext id
  rw [lastPassword, List.findSome?_cons, silent]
  rfl

theorem lastPassword_cons_self {entry : ServiceEntry} {history : List ServiceEntry}
    {userId : UserId} {password : String}
    (chosen : chosenPassword entry = some (userId, password)) :
    lastPassword userId (entry :: history) = some password := by
  simp [lastPassword, chosen]

theorem lastPassword_cons_other {entry : ServiceEntry} {history : List ServiceEntry}
    {userId id : UserId} {password : String}
    (chosen : chosenPassword entry = some (userId, password)) (other : id ≠ userId) :
    lastPassword id (entry :: history) = lastPassword id history := by
  simp [lastPassword, chosen, other.symm]

variable {clock : Timestamp} {world : ServiceWorld}
  (chronicle : Chronicle (service runtime) Regime.free
    (fun request => conduct (choosesFor runtime request)) (State.empty clock) world)

/-- What a request writes that chooses no password leaves the passwords. -/
theorem writes_silent {request : Request} (other : request.replaces = false) {id : UserId}
    {data : UserUpdate} (writes : request.Writes (.userUpdate id data)) :
    data.passwordHash = none := by
  cases request with
  | changePassword jwt dto | resetPassword dto => cases other
  | verifyEmail dto =>
    obtain ⟨_, rfl⟩ := writes
    rfl
  | updateProfile jwt dto =>
    obtain ⟨_, rfl⟩ := writes
    rfl
  | submitVerification jwt dto ipAddress =>
    rcases writes with rfl | ⟨_, rfl⟩
    · rfl
    · rfl
  | _ => exact writes.elim

/-- A registration stores the hash of the chosen password. -/
theorem register_hashes {entry : ServiceEntry} {dto : UsersService.RegisterDto}
    {data : RegistrationCreate} {db next : Database} {history : List ServiceEntry} {salt : String}
    (wellFormed : db.WellFormed) (ran : db.register clock data = .ok next)
    (request : entry.request = .register dto)
    (event : entry.event = ⟨.registerTransaction data, .ok db.nextId⟩)
    (hashed : data.passwordHash = runtime.bcryptHash salt dto.password)
    (hashes : db.Hashes runtime fun id => lastPassword id history) :
    next.Hashes runtime fun id => lastPassword id (entry :: history) := by
  have chosen : chosenPassword entry = some (db.nextId, dto.password) := by
    rw [chosenPassword, request, event]
  unfold Database.register at ran
  split at ran
  · cases ran
  · cases ran
    intro row member
    rcases List.mem_append.mp member with old | new
    · obtain ⟨password, salt, before, stored⟩ := hashes row old
      have known : row.id < db.nextId := wellFormed.users.below _ (List.mem_map_of_mem old)
      exact ⟨password, salt, (lastPassword_cons_other chosen (Nat.ne_of_lt known)).trans before,
        stored⟩
    · rw [List.mem_singleton.mp new]
      exact ⟨dto.password, salt, lastPassword_cons_self chosen, hashed⟩

/-- A replacement stores the hash of the chosen password, and its other statements write no
account. -/
theorem replacement_hashes {entry : ServiceEntry} {userId : UserId} {salt password : String}
    {rest : List Statement} {db next : Database} {history : List ServiceEntry}
    (ran : runAll clock db (.userUpdate userId
      { passwordHash := some (runtime.bcryptHash salt password) } :: rest) = .ok next)
    (chosen : chosenPassword entry = some (userId, password))
    (silent : ∀ statement ∈ rest, ∀ id data, statement ≠ .userUpdate id data)
    (hashes : db.Hashes runtime fun id => lastPassword id history) :
    next.Hashes runtime fun id => lastPassword id (entry :: history) := by
  obtain ⟨between, carried, ran⟩ := runAll_cons ran
  refine runAll_preserves (Database.Hashes runtime fun id => lastPassword id (entry :: history)) ran
    (fun statement member now later holds carried => ?_) ?_
  · exact carried.hashes (fun id data same => absurd same (silent statement member id data)) holds
  · exact carried.replaces (lastPassword_cons_self chosen)
      (fun id other => lastPassword_cons_other chosen other) hashes

/-- Statements that are written store the hash of the password that their request has chosen. -/
theorem executed_hashes {entry : ServiceEntry} {statements : List Statement}
    {past : List ServiceEvent} {db next : Database} {history : List ServiceEntry}
    (event : entry.event = ⟨.execute statements, .ok ()⟩)
    (ruled : choosesFor runtime entry.request past (.execute statements))
    (ran : runAll clock db statements = .ok next)
    (hashes : db.Hashes runtime fun id => lastPassword id history) :
    next.Hashes runtime fun id => lastPassword id (entry :: history) := by
  obtain ⟨_, request, _, effect, reply, _⟩ := entry
  cases event
  cases request with
  | register dto => exact ruled.elim
  | changePassword jwt dto =>
    obtain ⟨salt, rfl⟩ := ruled
    exact replacement_hashes ran rfl (by simp) hashes
  | resetPassword dto =>
    obtain ⟨salt, id, rfl⟩ := ruled
    exact replacement_hashes ran rfl (by simp) hashes
  | _ =>
    rw [lastPassword_cons_none rfl]
    refine runAll_preserves (Database.Hashes runtime fun id => lastPassword id history) ran
      (fun statement member now later holds carried =>
        carried.hashes (fun id data same => ?_) holds) hashes
    have writes := ruled statement member
    rw [same] at writes
    exact writes_silent rfl writes

/-- What neither writes nor registers leaves the passwords and chooses none. -/
theorem idle_hashes {entry : ServiceEntry} {history : List ServiceEntry}
    (performs : environment.Performs entry.before entry.effect entry.reply entry.after)
    (unwritten : ∀ statements, entry.event ≠ ⟨.execute statements, .ok ()⟩)
    (unregistered : ∀ data userId, entry.event ≠ ⟨.registerTransaction data, .ok userId⟩)
    (hashes : entry.before.db.Hashes runtime fun id => lastPassword id history) :
    entry.after.db.Hashes runtime fun id => lastPassword id (entry :: history) := by
  have silent : chosenPassword entry = none := by
    unfold chosenPassword
    split
    · rename_i event
      exact absurd event (unregistered _ _)
    · rename_i event
      exact absurd event (unwritten _)
    · rename_i event
      exact absurd event (unwritten _)
    · rfl
  rw [lastPassword_cons_none silent]
  rcases performs_db performs with same | ⟨_, event, _⟩ | ⟨_, event, _⟩ | ⟨log, same⟩
  · rw [same]
    exact hashes
  · exact absurd event (unwritten _)
  · exact absurd event (unregistered _ _)
  · rw [same]
    exact hashes

include chronicle

/-- Every account stores a hash of the password that was last chosen for it. -/
theorem chronicle_hashes :
    world.state.db.Hashes runtime fun id => lastPassword id world.history := by
  refine chronicle.invariant (fun world => world.state.db.Hashes runtime fun id =>
    lastPassword id world.history) (by simp [Database.Hashes, State.empty]) ?_
  intro world entry earlier hashes admissible
  have wellFormed := chronicle_wellFormed earlier
  have performs : environment.Performs entry.before entry.effect entry.reply entry.after :=
    admissible.performs
  have ruled : choosesFor runtime entry.request (world.past entry.thread) entry.effect :=
    admissible.ruled
  rw [← admissible.current] at hashes wellFormed
  obtain ⟨thread, request, before, effect, reply, after⟩ := entry
  cases effect with
  | execute statements =>
    rcases performs_execute performs with ⟨rfl, ran⟩ | ⟨⟨error, rfl⟩, _⟩
    · exact executed_hashes rfl ruled ran hashes
    · exact idle_hashes performs (fun _ same => by cases same) (fun _ _ same => by cases same)
        hashes
  | registerTransaction data =>
    cases reply with
    | ok userId =>
      cases request with
      | register dto =>
        obtain ⟨answered, ran⟩ := performs_registerTransaction performs
        obtain rfl : userId = before.db.nextId := answered
        obtain ⟨_, _, _, _, _, _, _, _, _, _, rfl⟩ := ruled
        exact register_hashes wellFormed ran rfl rfl rfl hashes
      | _ => exact ruled.elim
    | error failure =>
      exact idle_hashes performs (fun _ same => by cases same) (fun _ _ same => by cases same)
        hashes
  | _ =>
    exact idle_hashes performs (fun _ same => by cases same) (fun _ _ same => by cases same) hashes

end Chronicles

/-! ### How a password is judged -/

/-- The answer to a login with another password. -/
def loginRefused : Failure := UnauthorizedException "Invalid email or password"

/-- The answer to a change to the current password. -/
def reuseRefused : Failure :=
  BadRequestException "New password must be different from the current password"

/-- The accounts that a call has read, latest first. -/
def accountsRead (past : List ServiceEvent) : List UserRecord := past.filterMap readAccount

/-- A login compares with the account it has read. A change compares with the account it has read
after its guard. -/
def judges : Request → List ServiceEvent → Effect → Prop
  | .login dto _ _, past, .respond outcome => ∀ record ∈ accountsRead past,
    (outcome = .error loginRefused ↔
      runtime.bcryptCompare dto.password record.user.passwordHash = false)
  | .changePassword _ dto, past, .respond outcome => (accountsRead past).length ≤ 2 ∧
    ∀ record guarded, accountsRead past = [record, guarded] →
      dto.newPassword = dto.confirmNewPassword →
      runtime.bcryptCompare dto.currentPassword record.user.passwordHash = true →
      (outcome = .error reuseRefused ↔
        runtime.bcryptCompare dto.newPassword record.user.passwordHash = true)
  | _, _, _ => True

/-- What every run may count on: the process does not fail by itself, and a write fails by the
database. -/
structure Reliable (event : ServiceEvent) : Prop where
  fitting : Plausible event
  prompt : Prompt event
  written : ∀ statements failure, event = ⟨.execute statements, .error failure⟩ →
    ∃ error, failure = .database error

theorem performs_reliable {state next : State} {effect : Effect}
    {reply : Except Failure effect.Reply}
    (performs : environment.Performs state effect reply next) : Reliable ⟨effect, reply⟩ := by
  have fitting := performs_plausible performs
  refine ⟨fitting, performs_prompt performs, ?_⟩
  rintro statements failure ⟨⟩
  rcases performs_execute performs with ⟨done, _⟩ | ⟨⟨error, failed⟩, _⟩
  · cases done
  · exact ⟨error, Except.error.inj failed⟩

abbrev judging (request : Request) : ServiceConduct where
  expects := Reliable
  allows := judges runtime request

section Traversal

variable {runtime} {rule : ServiceConduct} {refused : Failure} {accounts : List UserRecord}
  {past : List ServiceEvent} {Value Result : Type}

/-- The call has read these accounts, and its outcome is another one. -/
def Mild (refused : Failure) (accounts : List UserRecord) (now : List ServiceEvent)
    (outcome : Except Failure Result) : Prop :=
  accountsRead now = accounts ∧ outcome ≠ .error refused

theorem accountsRead_cons {event : ServiceEvent} (unread : readAccount event = none) :
    accountsRead (event :: past) = accountsRead past :=
  List.filterMap_cons_none unread

/-- Only responses are judged. -/
theorem judges_unspoken {request : Request} {effect : Effect} (silent : effect.Unspoken) :
    judges runtime request past effect := by
  cases effect with
  | respond outcome => exact silent.elim
  | _ => cases request <;> trivial

/-- An effect that reads no account, then the rest. -/
theorem follows_unread {request : Request} {effect : Effect} {next : effect.Reply → Async Result}
    (silent : effect.Unspoken) (unread : ∀ reply, readAccount ⟨effect, reply⟩ = none)
    (plain : ∀ failure, Reliable ⟨effect, .error failure⟩ → failure ≠ refused)
    (read : accountsRead past = accounts)
    (rest : ∀ value now, accountsRead now = accounts →
      (next value).Follows (judging runtime request) (Mild refused accounts) now) :
    (perform effect >>= next).Follows (judging runtime request) (Mild refused accounts) past := by
  refine follows_perform_bind.mpr
    ⟨judges_unspoken silent, fun value _ => ?_, fun failure expected => ?_⟩
  · exact rest value _ ((accountsRead_cons (unread _)).trans read)
  · exact ⟨(accountsRead_cons (unread _)).trans read,
      fun same => plain failure expected (Except.error.inj same)⟩

/-- A write that reads no account fails by the database. -/
theorem written_plain {statements : List Statement} {failure : Failure}
    (http : ∀ error, refused ≠ .database error)
    (reliable : Reliable ⟨.execute statements, .error failure⟩) : failure ≠ refused := by
  obtain ⟨error, rfl⟩ := reliable.written _ _ rfl
  exact fun same => http error same.symm

/-- What decryption fails with is no refusal. -/
def Undisguised (runtime : Runtime) (refused : Failure) : Prop :=
  ∀ text failure, runtime.decrypt text = .error failure → failure ≠ refused

variable {request : Request} {dto : AuthService.LoginDto} {ipAddress userAgent : String}

theorem generateTokens_mild (http : ∀ error, refused ≠ .database error)
    (read : accountsRead past = accounts) (userId : UserId) (email : Email)
    (tokenType : TokenType) :
    (AuthService.generateTokens runtime userId email ipAddress userAgent tokenType).Follows
      (judging runtime request) (Mild refused accounts) past := by
  refine follows_unread trivial (fun _ => rfl) (fun _ reliable => reliable.prompt.elim) read
    fun accessToken _ read => ?_
  refine follows_unread trivial (fun _ => rfl) (fun _ reliable => reliable.prompt.elim) read
    fun rawRefreshToken _ read => ?_
  refine follows_unread trivial (fun _ => rfl) (fun _ reliable => reliable.prompt.elim) read
    fun clock _ read => ?_
  exact follows_unread trivial (fun _ => rfl) (fun _ reliable => written_plain http reliable) read
    fun _ _ read => ⟨read, fun same => by cases same⟩

/-- An image that is not there is another failure. -/
theorem resolveProfileImageAccess_mild
    (other : refused ≠ InternalServerErrorException "Failed to generate image access URL")
    (read : accountsRead past = accounts) (imageUrl : Option String) :
    (UsersService.resolveProfileImageAccess imageUrl).Follows (judging runtime request)
      (Mild refused accounts) past := by
  unfold UsersService.resolveProfileImageAccess
  split
  · exact ⟨read, fun same => by cases same⟩
  · split
    · exact ⟨read, fun same => by cases same⟩
    · unfold S3Service.getPresignedUrl
      refine follows_bind.mpr (follows_rescue.mpr (follows_perform_bind.mpr
        ⟨judges_unspoken trivial, fun url _ => follows_perform_bind.mpr
          ⟨judges_unspoken trivial, fun clock _ => ?_, fun failure _ => ?_⟩, fun failure _ => ?_⟩))
      · exact ⟨read, fun same => by cases same⟩
      · exact ⟨read, fun same => other (Except.error.inj same).symm⟩
      · exact ⟨read, fun same => other (Except.error.inj same).symm⟩

theorem decryptFin_mild (undisguised : Undisguised runtime refused)
    (read : accountsRead past = accounts) (record : UserRecord) :
    (UsersService.decryptFin runtime record).Follows (judging runtime request)
      (Mild refused accounts) past := by
  unfold UsersService.decryptFin
  split
  · split
    · unfold EncryptionService.decrypt
      cases decrypted : runtime.decrypt _ with
      | error failure =>
        exact ⟨read, fun same => undisguised _ _ decrypted (Except.error.inj same)⟩
      | ok fin => exact ⟨read, fun same => by cases same⟩
    · exact ⟨read, fun same => by cases same⟩
  · exact ⟨read, fun same => by cases same⟩

/-- A failure is passed on. -/
theorem Mild.failed {Other : Type} {now : List ServiceEvent} {failure : Failure}
    (mild : Mild refused accounts now (.error failure : Except Failure Value)) :
    Mild refused accounts now (.error failure : Except Failure Other) :=
  ⟨mild.1, fun same => mild.2 (congrArg _ (Except.error.inj same))⟩

/-- After the password a login fails for other reasons. -/
theorem loginWithRecord_mild (undisguised : Undisguised runtime loginRefused)
    (read : accountsRead past = accounts) (record : UserRecord) :
    (AuthService.loginWithRecord runtime record ipAddress userAgent).Follows
      (judging runtime request) (Mild loginRefused accounts) past := by
  have http (error : DatabaseError) : loginRefused ≠ .database error := by
    simp [loginRefused, UnauthorizedException]
  refine follows_unread trivial (fun _ => rfl) (fun _ reliable => reliable.prompt.elim) read
    fun _ _ read => follows_throwIf_bind.mpr ⟨fun _ => ⟨read, by decide⟩, fun _ =>
      follows_throwIf_bind.mpr ⟨fun _ => ⟨read, by decide⟩, fun _ => ?_⟩⟩
  refine (generateTokens_mild http read _ _ _).bind (fun now tokens issued => ?_)
    fun _ _ mild => mild.failed
  have profiled : (AuthService.buildSafeProfile runtime record).Follows (judging runtime request)
      (Mild loginRefused accounts) now := by
    refine (resolveProfileImageAccess_mild (by decide) issued.1 _).bind (fun now image shown => ?_)
      fun _ _ mild => mild.failed
    exact (decryptFin_mild undisguised shown.1 record).bind
      (fun now fin decrypted => ⟨decrypted.1, fun same => by cases same⟩)
      fun _ _ mild => mild.failed
  exact profiled.bind (fun now profile built => ⟨built.1, fun same => by cases same⟩)
    fun _ _ mild => mild.failed

/-- A login is refused when the password does not compare with the account it has read, and is not
otherwise. -/
theorem login_judged (undisguised : Undisguised runtime loginRefused) :
    (AuthService.login runtime dto ipAddress userAgent).Follows (judging runtime request)
      (fun now outcome => ∀ record ∈ accountsRead now, (outcome = .error loginRefused ↔
        runtime.bcryptCompare dto.password record.user.passwordHash = false)) [] := by
  have unread {now : List ServiceEvent} {holds : UserRecord → Prop} (none : accountsRead now = []) :
      ∀ record ∈ accountsRead now, holds record := by
    simp [none]
  refine follows_perform_bind.mpr
    ⟨judges_unspoken trivial, fun user _ => ?_, fun _ _ => unread rfl⟩
  cases user with
  | none =>
    exact follows_perform_bind.mpr
      ⟨judges_unspoken trivial, fun _ _ => unread rfl, fun _ _ => unread rfl⟩
  | some record =>
    have single {now : List ServiceEvent} {holds : UserRecord → Prop}
        (read : accountsRead now = [record]) (judged : holds record) :
        ∀ other ∈ accountsRead now, holds other := by
      simpa [read] using judged
    cases valid : runtime.bcryptCompare dto.password record.user.passwordHash with
    | false =>
      have failed : (some record).filter (fun record =>
          AuthService.passwordValid runtime dto.password (some record)) = none := by
        simp [AuthService.passwordValid, valid]
      simp only [failed]
      refine follows_perform_bind.mpr ⟨judges_unspoken trivial, fun _ _ => ?_,
        fun _ reliable => reliable.prompt.elim⟩
      exact single rfl (by simp [valid, loginRefused])
    | true =>
      have passed : (some record).filter (fun record =>
          AuthService.passwordValid runtime dto.password (some record)) = some record := by
        simp [AuthService.passwordValid, valid]
      simp only [passed]
      refine (loginWithRecord_mild undisguised rfl record).weaken fun now outcome mild => ?_
      exact single mild.1 (by simp [valid, mild.2])

variable {change : UsersService.ChangePasswordDto}

/-- What a change answers for the account that it has read itself. -/
def Changed (runtime : Runtime) (change : UsersService.ChangePasswordDto) (now : List ServiceEvent)
    (outcome : Except Failure Result) : Prop :=
  (accountsRead now).length ≤ 2 ∧ ∀ record guarded, accountsRead now = [record, guarded] →
    change.newPassword = change.confirmNewPassword →
    runtime.bcryptCompare change.currentPassword record.user.passwordHash = true →
    (outcome = .error reuseRefused ↔
      runtime.bcryptCompare change.newPassword record.user.passwordHash = true)

/-- Before the change has read the account there is nothing to answer for. -/
theorem changed_early {now : List ServiceEvent} (once : (accountsRead now).length ≤ 1)
    (outcome : Except Failure Result) : Changed runtime change now outcome := by
  refine ⟨once.trans (by decide), fun record guarded read => ?_⟩
  rw [read] at once
  cases once
  contradiction

/-- A change is refused as a reuse when the new password compares with the account, and is not
otherwise. -/
theorem changePassword_judged (userId : UserId) (once : (accountsRead past).length ≤ 1) :
    (UsersService.changePassword runtime userId change).Follows (judging runtime request)
      (Changed runtime change) past := by
  refine follows_throwIf_bind.mpr ⟨fun _ => changed_early once _, fun _ => follows_perform_bind.mpr
    ⟨judges_unspoken trivial, fun user _ => ?_, fun _ _ => changed_early once _⟩⟩
  cases user with
  | none => exact changed_early once _
  | some record =>
    have decided {now : List ServiceEvent} {outcome : Except Failure MessageResult}
        (read : accountsRead now = record :: accountsRead past)
        (judged : runtime.bcryptCompare change.currentPassword record.user.passwordHash = true →
          (outcome = .error reuseRefused ↔
            runtime.bcryptCompare change.newPassword record.user.passwordHash = true)) :
        Changed runtime change now outcome := by
      refine ⟨by rw [read]; exact Nat.succ_le_succ once, fun other guarded whole _ current => ?_⟩
      rw [read] at whole
      obtain ⟨rfl, -⟩ := List.cons.inj whole
      exact judged current
    have http (error : DatabaseError) : reuseRefused ≠ .database error := by
      simp [reuseRefused, BadRequestException]
    refine follows_throwIf_bind.mpr ⟨fun wrong => decided rfl fun current => ?_, fun _ =>
      follows_throwIf_bind.mpr ⟨fun same => decided rfl fun _ => ?_, fun fresh => ?_⟩⟩
    · simp [current] at wrong
    · exact iff_of_true rfl same
    · refine Follows.weaken (?_ : Follows _ (Mild reuseRefused (record :: accountsRead past)) _ _)
        fun now outcome mild => decided mild.1 fun _ => by simp [fresh, mild.2]
      refine follows_unread trivial (fun _ => rfl) (fun _ reliable => reliable.prompt.elim) rfl
        fun _ _ read => ?_
      rw [bcryptHash, bind_assoc]
      refine follows_unread trivial (fun _ => rfl) (fun _ reliable => reliable.prompt.elim) read
        fun salt _ read => ?_
      rw [pure_eq, done_bind]
      exact follows_unread trivial (fun _ => rfl) (fun _ reliable => written_plain http reliable)
        read fun _ _ read => ⟨read, fun same => by cases same⟩

/-- The guard reads one account. -/
theorem canActivate_reads (metadata : Option RequiredType) (jwt : Jwt) :
    (JwtAuthGuard.canActivate metadata jwt).Follows (judging runtime request)
      (fun now _ => (accountsRead now).length ≤ 1) [] := by
  have once (reply : Except Failure (Option UserRecord)) :
      (accountsRead [⟨.userFindUnique (.byId jwt.payload.sub), reply⟩]).length ≤ 1 :=
    List.length_filterMap_le _ _
  refine follows_bind.mpr (follows_attempt.mpr (follows_perform_bind.mpr
    ⟨judges_unspoken trivial, fun found _ => ?_, fun failure _ => once _⟩))
  exact follows_ofOutcome.mpr (follows_ofOutcome.mpr (once _))

end Traversal

/-- Every call keeps to the rule. -/
theorem serve_judged (undisguised : Undisguised runtime loginRefused) (request : Request) :
    (serve runtime request).Abides (judging runtime request) [] := by
  cases request with
  | login dto ipAddress userAgent =>
    refine follows_bind.mpr (follows_attempt.mpr (follows_bind.mpr
      ((login_judged undisguised).weaken fun now outcome judged => ?_)))
    cases outcome with
    | ok result =>
      exact follows_perform_bind.mpr ⟨fun record member => by simpa using judged record member,
        fun _ _ => trivial, fun _ _ => trivial⟩
    | error failure =>
      exact follows_perform_bind.mpr ⟨fun record member => by simpa using judged record member,
        fun _ _ => trivial, fun _ _ => trivial⟩
  | changePassword jwt change =>
    have responds (now : List ServiceEvent) (outcome : Except Failure Response)
        (changed : Changed runtime change now outcome) :
        (request (.respond outcome) >>= fun _ => ofOutcome outcome : Async Response).Abides
          (judging runtime (.changePassword jwt change)) now :=
      follows_perform_bind.mpr
        ⟨changed, fun _ _ => follows_ofOutcome.mpr trivial, fun _ _ => trivial⟩
    refine follows_bind.mpr (follows_attempt.mpr (((canActivate_reads none jwt).bind
      (fun now user once => follows_bind.mpr ((changePassword_judged user.userId once).weaken
        fun now outcome changed => ?_)) fun now failure once => ?_)))
    · have passed (other : Except Failure Response)
          (same : other = .error reuseRefused ↔ outcome = .error reuseRefused) :
          Changed runtime change now other :=
        ⟨changed.1, fun record guarded read confirmed current =>
          same.trans (changed.2 record guarded read confirmed current)⟩
      cases outcome with
      | ok result => exact responds _ _ (passed _ (by simp))
      | error failure => exact responds _ _ (passed _ (by simp))
    · exact responds _ _ (changed_early once _)
  | _ =>
    refine (uses_any _).abides fun past effect _ => ?_
    cases effect <;> trivial

/-! ### Attempts -/

/-- The entry has read an account for which `chosen` was the last password committed. -/
def SeesPassword (older : List ServiceEntry) (read : ServiceEntry) (chosen : String) : Prop :=
  ((readAccount read.event).bind fun record => lastPassword record.user.id older) = some chosen

/-- The call has been answered since. -/
def AnswersWith (newer : List ServiceEntry) (read : ServiceEntry)
    (outcome : Except Failure Response) : Prop :=
  ∃ answer ∈ newer, answer.thread = read.thread ∧ answer.effect = .respond outcome

/-- A login with `given`, against an account with the password `chosen`, and its answer. -/
def LogsIn (world : ServiceWorld) (chosen given : String) (outcome : Except Failure Response) :
    Prop :=
  ∃ newer read older dto ipAddress userAgent, world.history = newer ++ read :: older ∧
    read.request = .login dto ipAddress userAgent ∧ dto.password = given ∧
    SeesPassword older read chosen ∧ AnswersWith newer read outcome

/-- A change from `chosen` to `given`, of an account with the password `chosen`, and its answer.
The read is not the one of the guard. -/
def ChangesTo (world : ServiceWorld) (chosen given : String)
    (outcome : Except Failure Response) : Prop :=
  ∃ newer read older jwt dto, world.history = newer ++ read :: older ∧
    read.request = .changePassword jwt dto ∧ dto.currentPassword = chosen ∧
    dto.newPassword = given ∧ dto.confirmNewPassword = given ∧
    (∃ guarded ∈ older, guarded.thread = read.thread ∧ (readAccount guarded.event).isSome) ∧
    SeesPassword older read chosen ∧ AnswersWith newer read outcome

/-- Only the chosen password opens the account, and the other one is a new one. -/
structure OpensAlone (world : ServiceWorld) (chosen given : String) : Prop where
  refused : ∀ outcome, LogsIn world chosen given outcome → outcome = .error loginRefused
  changed : ∀ outcome, ChangesTo world chosen given outcome → outcome ≠ .error reuseRefused

/-- Somebody has tried the other password. -/
def Tried (world : ServiceWorld) (chosen given : String) : Prop :=
  ∃ outcome, LogsIn world chosen given outcome ∨ ChangesTo world chosen given outcome

section Attempts

variable {runtime} {initial : State} {world : ServiceWorld} {newer older : List ServiceEntry}
  {read : ServiceEntry} {chosen : String} {outcome : Except Failure Response}

/-- What a call has read compares with the last password. -/
theorem read_compares {clock : Timestamp} (bcrypt : runtime.Bcrypt)
    (chronicle : Chronicle (service runtime) Regime.free
      (fun request => conduct (choosesFor runtime request)) (State.empty clock) world)
    (split : world.history = newer ++ read :: older) (sees : SeesPassword older read chosen) :
    ∃ record, readAccount read.event = some record ∧ ∀ given,
      (runtime.bcryptCompare given record.user.passwordHash = true ↔
        readByBcrypt given = readByBcrypt chosen) := by
  obtain ⟨record, seen, last⟩ := Option.bind_eq_some_iff.mp sees
  obtain ⟨before, admissible⟩ := chronicle.admissible split
  refine ⟨record, seen, fun given => ?_⟩
  have stored : record.user ∈ read.before.db.users := by
    have performs : environment.Performs read.before read.effect read.reply read.after :=
      admissible.performs
    unfold readAccount at seen
    split at seen
    · rename_i filter found event
      have same := performs_userFindUnique (performs_event performs event)
      rw [seen] at same
      obtain ⟨user, located, rfl⟩ := Option.map_eq_some_iff.mp same.symm
      exact List.mem_of_find?_eq_some located
    · cases seen
  obtain ⟨password, salt, known, hashed⟩ := chronicle_hashes before record.user stored
  obtain rfl := Option.some.inj (last.symm.trans known)
  rw [hashed]
  exact bcrypt salt chosen given

/-- The answer of a call was judged by what it had read. -/
theorem answer_judged
    (chronicle : Chronicle (service runtime) Regime.free (judging runtime) initial world)
    (split : world.history = newer ++ read :: older) {record : UserRecord}
    (seen : readAccount read.event = some record) (answers : AnswersWith newer read outcome) :
    ∃ past recent, judges runtime read.request past (.respond outcome) ∧ accountsRead past =
      recent ++ record :: accountsRead (World.past ⟨read.before, older⟩ read.thread) := by
  obtain ⟨answer, among, same, effect⟩ := answers
  obtain ⟨latest, recent, rfl⟩ := List.append_of_mem among
  rw [List.append_assoc, List.cons_append] at split
  obtain ⟨_, admissible⟩ := chronicle.admissible split
  have owned : read.request = answer.request :=
    admissible.owned read (List.mem_append_right _ List.mem_cons_self) same.symm
  have judged : judges runtime answer.request _ answer.effect := admissible.ruled
  rw [← owned, effect, same] at judged
  refine ⟨_, accountsRead (World.past ⟨read.before, recent⟩ read.thread), judged, ?_⟩
  simp [World.past, accountsRead, seen]

variable {given : String} {clock : Timestamp} (bcrypt : runtime.Bcrypt)
  (hashing : Chronicle (service runtime) Regime.free
    (fun request => conduct (choosesFor runtime request)) (State.empty clock) world)
  (judged : Chronicle (service runtime) Regime.free (judging runtime) (State.empty clock) world)

include bcrypt hashing judged

/-- A login is refused exactly when the comparison tells the passwords apart. -/
theorem login_refused_iff (attempt : LogsIn world chosen given outcome) :
    outcome = .error loginRefused ↔ readByBcrypt given ≠ readByBcrypt chosen := by
  obtain ⟨newer, read, older, dto, ipAddress, userAgent, split, request, rfl, sees, answers⟩ :=
    attempt
  obtain ⟨record, seen, compares⟩ := read_compares bcrypt hashing split sees
  obtain ⟨past, recent, verdict, accounts⟩ := answer_judged judged split seen answers
  rw [request] at verdict
  have among : record ∈ accountsRead past := by simp [accounts]
  rw [verdict record among, ← Bool.not_eq_true, compares]

/-- A change is refused as a reuse exactly when the comparison takes the passwords for one. -/
theorem change_refused_iff (attempt : ChangesTo world chosen given outcome) :
    outcome = .error reuseRefused ↔ readByBcrypt given = readByBcrypt chosen := by
  obtain ⟨newer, read, older, jwt, dto, split, request, current, rfl, confirmed, guarded, sees,
    answers⟩ := attempt
  obtain ⟨record, seen, compares⟩ := read_compares bcrypt hashing split sees
  obtain ⟨past, recent, verdict, accounts⟩ := answer_judged judged split seen answers
  rw [request] at verdict
  obtain ⟨twice, verdict⟩ := verdict
  -- The guard has read the account too, so the read after it is the last one.
  have earlier : accountsRead (World.past ⟨read.before, older⟩ read.thread) ≠ [] := by
    obtain ⟨guard, member, same, found⟩ := guarded
    obtain ⟨account, found⟩ := Option.isSome_iff_exists.mp found
    exact List.ne_nil_of_mem (List.mem_filterMap.mpr
      ⟨guard.event, World.mem_past.mpr ⟨guard, member, same, rfl⟩, found⟩)
  have pair : ∃ account, accountsRead past = [record, account] := by
    rw [accounts] at twice ⊢
    cases recent with
    | cons latest recent =>
      cases below : accountsRead (World.past ⟨read.before, older⟩ read.thread) with
      | nil => exact absurd below earlier
      | cons account rest =>
        simp only [below, List.length_append, List.length_cons] at twice
        omega
    | nil =>
      cases below : accountsRead (World.past ⟨read.before, older⟩ read.thread) with
      | nil => exact absurd below earlier
      | cons account rest =>
        cases rest with
        | nil => exact ⟨account, rfl⟩
        | cons other rest =>
          simp only [below, List.nil_append, List.length_cons] at twice
          omega
  obtain ⟨account, two⟩ := pair
  rw [verdict record account two confirmed.symm ((compares _).mpr (by rw [current])), compares]

end Attempts

theorem undisguised_enciphering (aes : EncryptionService.Aes256Cbc) (key : EncryptionService.Key)
    (drawn : String → EncryptionService.Iv) :
    Undisguised (runtime.enciphering aes key drawn) loginRefused := by
  intro text failure failed
  have failed : EncryptionService.decryptWith aes key text = .error failure := failed
  unfold EncryptionService.decryptWith at failed
  split at failed
  · split at failed
    · split at failed
      · cases failed
      · cases failed
        exact nofun
    · cases failed
      exact nofun
  · cases failed
    exact nofun

/-- Where the other password is tried, only the chosen one opens the account exactly when the two
differ in what the comparison reads. -/
theorem opens_alone_iff (bcrypt : runtime.Bcrypt) (aes : EncryptionService.Aes256Cbc)
    (key : EncryptionService.Key) (drawn : String → EncryptionService.Iv) (clock : Timestamp)
    (pool : ServicePool) (reachable : Reachable (service (runtime.enciphering aes key drawn))
      Regime.free (State.empty clock) pool) (chosen given : String)
    (tried : Tried pool.world chosen given) :
    OpensAlone pool.world chosen given ↔ readByBcrypt given ≠ readByBcrypt chosen := by
  have comparing : (runtime.enciphering aes key drawn).Bcrypt := bcrypt
  have hashing := reachable_chronicle _ reachable fun request _ => serve_chooses _ request
  have judged : Chronicle (service (runtime.enciphering aes key drawn)) Regime.free
      (judging (runtime.enciphering aes key drawn)) (State.empty clock) pool.world :=
    reachable.chronicle (fun _ _ _ _ _ performs accepted => accepts_lasting performs accepted)
      (fun _ _ _ _ _ performs => performs_reliable performs) fun request _ =>
      serve_judged _ (undisguised_enciphering runtime aes key drawn) request
  constructor
  · intro alone
    obtain ⟨outcome, attempt | attempt⟩ := tried
    · exact (login_refused_iff comparing hashing judged attempt).mp (alone.refused outcome attempt)
    · exact fun same => alone.changed outcome attempt
        ((change_refused_iff comparing hashing judged attempt).mpr same)
  · intro apart
    exact ⟨fun outcome attempt => (login_refused_iff comparing hashing judged attempt).mpr apart,
      fun outcome attempt same =>
        apart ((change_refused_iff comparing hashing judged attempt).mp same)⟩

/-! ### A run in which another password opens the account -/

/-- At this position of the history a login has read the account, and was answered. -/
def triesAt (world : ServiceWorld) (position : Nat) (chosen given : String)
    (answers : ServiceEvent → Bool) : Bool :=
  match world.history.drop position with
  | read :: older =>
    (match read.request with
      | .login dto _ _ => dto.password == given
      | _ => false) &&
    ((readAccount read.event).bind fun record => lastPassword record.user.id older) ==
      some chosen &&
    (world.history.take position).any fun answer =>
      answer.thread == read.thread && answers answer.event
  | [] => false

/-- The call has succeeded. -/
def succeeds : ServiceEvent → Bool
  | ⟨.respond (.ok _), _⟩ => true
  | _ => false

theorem logsIn_of_triesAt {world : ServiceWorld} {position : Nat} {chosen given : String}
    {answers : ServiceEvent → Bool} (tries : triesAt world position chosen given answers = true) :
    ∃ newer read, (∀ outcome, AnswersWith newer read outcome → LogsIn world chosen given outcome) ∧
      ∃ answer ∈ newer, answer.thread = read.thread ∧ answers answer.event = true := by
  unfold triesAt at tries
  split at tries
  · rename_i read older dropped
    simp only [Bool.and_eq_true, beq_iff_eq, List.any_eq_true] at tries
    obtain ⟨⟨asks, sees⟩, answer, among, same, good⟩ := tries
    split at asks
    · rename_i dto ipAddress userAgent request
      refine ⟨world.history.take position, read, fun outcome answered => ⟨_, read, older, dto,
        ipAddress, userAgent, ?_, request, beq_iff_eq.mp asks, sees, answered⟩,
        answer, among, same, good⟩
      rw [← dropped, List.take_append_drop]
    · cases asks
  · cases tries

/-- A runtime whose digests and passwords can be read off, and whose comparison reads 72 bytes. -/
def truncatingRuntime : Runtime :=
  { legibleRuntime with
    bcryptCompare := fun password hash => readByBcrypt password == readByBcrypt hash }

theorem truncatingRuntime_bcrypt : truncatingRuntime.Bcrypt := fun _ _ _ => beq_iff_eq

/-- A citizen registers with one password, verifies the email and logs in with another. -/
def otherPassword (chosen given : String) (logsIn : Nat) : List ServiceMove :=
  .accept (.register ⟨some sampleNumber, none, "b@x", none, chosen⟩) ::
    steps 0 [{ citizen := ⟨"Ann", "Lee", "F", 0, "RW"⟩ }, {}, {}, {}, {}, {}, {},
      { text := "r0" }, {}, {}, {}, {}] ++
  .accept (.verifyEmail ⟨0, "r0"⟩) ::
    steps 1 [{}, {}, {}, {}, {}, { text := "r1" }, {}, {}, {}] ++
  .accept (.login ⟨"b@x", given⟩ "ip" "agent") :: steps 2 (List.replicate logsIn {})

def otherPasswordPool (chosen given : String) (logsIn : Nat) : ServicePool :=
  (Pool.start (State.empty 0)).playAll
    (service (truncatingRuntime.enciphering sampleAes sampleKey fun _ => sampleIv)) .lax
    (otherPassword chosen given logsIn)

/-- Two passwords that differ in the last of 73 characters. -/
def longPassword (last : Char) : String := "Aa1!" ++ String.ofList (List.replicate 68 'x' ++ [last])

/-- The second of them opens the account of the first. -/
theorem not_opens_alone :
    ¬ ∀ (runtime : Runtime) (_ : runtime.Bcrypt) (aes : EncryptionService.Aes256Cbc)
      (key : EncryptionService.Key) (drawn : String → EncryptionService.Iv) (clock : Timestamp)
      (pool : ServicePool) (_ : Reachable (service (runtime.enciphering aes key drawn)) Regime.free
        (State.empty clock) pool) (chosen given : String), chosen ≠ given →
      Takes List.length RegisterDto.passwordRules (codeUnits chosen) →
      Takes List.length RegisterDto.passwordRules (codeUnits given) →
      OpensAlone pool.world chosen given := by
  intro opens
  have alone := opens truncatingRuntime truncatingRuntime_bcrypt sampleAes sampleKey
    (fun _ => sampleIv) 0 (otherPasswordPool (longPassword '1') (longPassword '2') 7)
    (Pool.playAll_reachable Referee.lax_upholds _ _) (longPassword '1') (longPassword '2')
    (by decide +kernel) (by unfold Takes; decide +kernel) (by unfold Takes; decide +kernel)
  have tries : triesAt (otherPasswordPool (longPassword '1') (longPassword '2') 7).world 6
      (longPassword '1') (longPassword '2') succeeds = true := by decide +kernel
  obtain ⟨newer, read, logsIn, answer, among, same, good⟩ := logsIn_of_triesAt tries
  unfold succeeds at good
  split at good
  · rename_i response reply event
    have refused := alone.refused (.ok response)
      (logsIn _ ⟨answer, among, same, congrArg Event.effect event⟩)
    cases refused
  · cases good

/-- A password that differs early is refused. -/
theorem opens_alone_sample :
    OpensAlone (otherPasswordPool "Secure@2024!" "Kwizera@2025!" 3).world "Secure@2024!"
        "Kwizera@2025!" ↔
      readByBcrypt "Kwizera@2025!" ≠ readByBcrypt "Secure@2024!" := by
  have tries : triesAt (otherPasswordPool "Secure@2024!" "Kwizera@2025!" 3).world 2
      "Secure@2024!" "Kwizera@2025!" responds = true := by decide +kernel
  obtain ⟨newer, read, logsIn, answer, among, same, good⟩ := logsIn_of_triesAt tries
  refine opens_alone_iff truncatingRuntime truncatingRuntime_bcrypt sampleAes sampleKey
    (fun _ => sampleIv) 0 _ (Pool.playAll_reachable Referee.lax_upholds _ _) _ _ ?_
  unfold responds at good
  split at good
  · rename_i outcome reply event
    exact ⟨outcome, .inl (logsIn _ ⟨answer, among, same, congrArg Event.effect event⟩)⟩
  · cases good

end GraconAuth
