/-
This file asks what a call leaves behind when it fails between two writes. A change of
email locks the account under the new address, then replaces the verification token and
reads the profile back; a request for a reset revokes the links in use before it stores
the new one. Neither runs in a transaction, and each has a point from which a failure
leaves the account changed.
-/

import GraconAuth.Enumeration

namespace GraconAuth

open Interleaving Program Rows

/-! ### What a failed call may not change -/

/-- The reset links of a user that can be used at an instant. -/
def Database.usableResets (db : Database) (userId : UserId) (clock : Timestamp) :
    List PasswordResetTokenRow :=
  db.passwordResetTokens.filter fun row =>
    row.userId == userId && !row.used && decide (clock ≤ row.expiresAt)

/-- What the calls write of an account: its row, its verification token and the reset links that
can be used at an instant. -/
structure AccountRows where
  user : Option UserRow
  verificationToken : Option EmailVerificationTokenRow
  usableResets : List PasswordResetTokenRow
  deriving DecidableEq

def Database.accountRows (db : Database) (userId : UserId) (clock : Timestamp) : AccountRows where
  user := db.findUser (.byId userId)
  verificationToken := db.findEmailVerificationToken userId
  usableResets := db.usableResets userId clock

/-- The two calls that write the rows of an account one after another. -/
inductive AccountCall : Type → Type where
  | updateProfile (userId : UserId) (dto : UsersService.UpdateProfileDto) : AccountCall UserProfile
  | requestReset (email : Email) : AccountCall MessageResult

def AccountCall.program (runtime : Runtime) {Result : Type} : AccountCall Result → Async Result
  | .updateProfile userId dto => UsersService.updateProfile runtime userId dto
  | .requestReset email => PasswordResetService.requestReset runtime email

/-- The account that the call is about. -/
def AccountCall.account (db : Database) {Result : Type} : AccountCall Result → Option UserRow
  | .updateProfile userId _ => db.findUser (.byId userId)
  | .requestReset email => db.findUser (.byEmail email)

/-- An update counts when it changes the address. -/
def AccountCall.Counts (db : Database) {Result : Type} : AccountCall Result → Prop
  | .updateProfile userId dto => ∃ user, db.findUser (.byId userId) = some user ∧
      (dto.changedEmail user.email).isSome = true
  | .requestReset _ => True

/-- If the call throws, the rows of the account are as they were. -/
def RowsKept {Result : Type} (account : Option UserRow) (before : State)
    (outcome : Except Failure Result) (after : State) : Prop :=
  (∃ failure, outcome = .error failure) → ∀ user ∈ account,
    after.db.accountRows user.id after.clock = before.db.accountRows user.id after.clock

/-! ### The points of no return -/

/-- A call does not need its mails. -/
def Effect.needed : Effect → Bool
  | .sendMail _ => false
  | _ => true

/-- A failure that ends the call. -/
def Fatal (event : ServiceEvent) : Prop :=
  event.effect.needed = true ∧ ∃ failure, event.reply = .error failure

/-- The platform id of the record can be decrypted. -/
def UserRecord.PidReadable (runtime : Runtime) (record : UserRecord) : Prop :=
  ∀ platformId ∈ record.platformId, ∃ pid, runtime.decrypt platformId.pidEncrypted = .ok pid

/-- The FIN of the record can be decrypted, if there is one. -/
def UserRecord.FinReadable (runtime : Runtime) (record : UserRecord) : Prop :=
  ∀ identity ∈ record.citizenIdentity, identity.identityType = .FIN →
    truthy identity.finEncrypted = true →
      ∃ fin, runtime.decrypt (identity.finEncrypted.getD "") = .ok fin

/-- The call is broken off where its writes cannot be undone. An update that has been carried out
is followed by a failure, or the profile of the account cannot be decrypted. A request for a reset
cannot store its link, and the account had one that could still be used. -/
def AccountCall.BrokenOff (runtime : Runtime) (before : State) (trace : List ServiceEvent)
    (after : State) {Result : Type} : AccountCall Result → Prop
  | .updateProfile userId _ =>
    (∃ data, ⟨.execute [.userUpdate userId data], .ok ()⟩ ∈ trace) ∧
      ((∃ event ∈ trace, Fatal event) ∨ ∃ user, before.db.findUser (.byId userId) = some user ∧
        ¬((before.db.withRelations user).PidReadable runtime ∧
          (before.db.withRelations user).FinReadable runtime))
  | .requestReset email =>
    (∃ data failure, ⟨.execute [.passwordResetTokenCreate data], .error failure⟩ ∈ trace) ∧
      ∃ user, before.db.findUser (.byEmail email) = some user ∧
        (before.db.accountRows user.id after.clock).usableResets ≠ []

/-- The signed-in user changes the address. -/
def addressChange : AccountCall UserProfile := .updateProfile 0 ⟨some "b@x", none⟩

/-- The change of address, with these choices of the environment. -/
def addressChanged (choices : List Choice) :
    Option (List ServiceEvent × Except Failure UserProfile × State) :=
  (addressChange.program legibleRuntime).play environment (playedSerially signedInSerially).2
    choices

theorem addressChange_counts : addressChange.Counts (playedSerially signedInSerially).2.db := by
  have changes : ((playedSerially signedInSerially).2.db.findUser (.byId 0)).any
      (fun user => (UsersService.UpdateProfileDto.changedEmail ⟨some "b@x", none⟩
        user.email).isSome) = true := by decide +kernel
  exact (Option.any_eq_true _ _).mp changes

/-- An address can be changed by half: the account is locked, and then the verification token
cannot be replaced. -/
theorem address_half_changed :
    ¬ ∀ (runtime : Runtime) (Result : Type) (call : AccountCall Result) (before after : State)
      (trace : List ServiceEvent) (outcome : Except Failure Result), call.Counts before.db →
        Runs environment (call.program runtime) before trace outcome after →
          RowsKept (call.account before.db) before outcome after := by
  intro atomic
  have changed : (addressChanged [{}, {}, {}, {}, {}, { fails := some databaseDown }]).any
      (fun played => !played.2.1.isOk && played.2.2.db.findUser (.byId 0) !=
        (playedSerially signedInSerially).2.db.findUser (.byId 0)) = true := by decide +kernel
  obtain ⟨trace, outcome, after, run, facts⟩ := Program.exists_runs_of_play changed
  rw [Bool.and_eq_true, bne_iff_ne] at facts
  obtain ⟨user, found, _⟩ := addressChange_counts
  have same := atomic _ _ _ _ _ _ _ addressChange_counts run (by
    cases outcome with
    | ok profile => cases facts.1
    | error failure => exact ⟨failure, rfl⟩) user found
  rw [(findUser_byId found).2] at same
  exact facts.2 (congrArg AccountRows.user same)

/-! ### What the effects leave alone -/

section Effects

variable {state next : State} {effect : Effect} {reply : Except Failure effect.Reply}
  {db later : Database}

/-- The tables are the same but for the log and the ids it has drawn. -/
def SameButLog (db later : Database) : Prop :=
  ∃ nextId log, later = { db with nextId := nextId, securityEventLog := log }

theorem SameButLog.trans {last : Database} (first : SameButLog db later)
    (second : SameButLog later last) : SameButLog db last := by
  obtain ⟨_, _, rfl⟩ := first
  obtain ⟨_, _, rfl⟩ := second
  exact ⟨_, _, rfl⟩

/-- What is no write leaves everything but the log. -/
theorem performs_sameButLog (performs : environment.Performs state effect reply next)
    (reads : effect.writes = false) : SameButLog state.db next.db := by
  rcases performs_db performs with same | ⟨statements, event, _⟩ | ⟨data, event, _⟩ | ⟨log, same⟩
  · exact ⟨_, _, same⟩
  · rw [show effect = _ from congrArg Event.effect event] at reads
    cases reads
  · rw [show effect = _ from congrArg Event.effect event] at reads
    cases reads
  · exact ⟨_, _, same⟩

theorem SameButLog.accountRows (same : SameButLog db later) (userId : UserId) (clock : Timestamp) :
    later.accountRows userId clock = db.accountRows userId clock := by
  obtain ⟨_, _, rfl⟩ := same
  rfl

/-- A revocation leaves no reset link that can be used. -/
theorem usableResets_revoked (now : Timestamp) {clock : Timestamp} {userId : UserId}
    (carried : Carried clock db (.passwordResetTokenUpdateMany userId) later) :
    later.accountRows userId now = { db.accountRows userId now with usableResets := [] } := by
  cases carried with
  | passwordResetTokenUpdateMany userId =>
    have revoked : Database.usableResets { db with
        passwordResetTokens := updateWhere (fun row => row.userId == userId && !row.used)
          (fun row => { row with used := true }) db.passwordResetTokens } userId now = [] := by
      refine List.filter_eq_nil_iff.mpr fun row member => ?_
      obtain ⟨old, _, rfl⟩ := mem_updateWhere.mp member
      split
      · simp
      · rename_i unmatched
        simp_all
    exact congrArg _ revoked

/-- What a profile is read from is the same. -/
structure SameProfiles (db later : Database) : Prop where
  users : later.users = db.users
  citizenIdentities : later.citizenIdentities = db.citizenIdentities
  platformIds : later.platformIds = db.platformIds

theorem SameProfiles.trans {last : Database} (first : SameProfiles db later)
    (second : SameProfiles later last) : SameProfiles db last :=
  ⟨second.users.trans first.users, second.citizenIdentities.trans first.citizenIdentities,
    second.platformIds.trans first.platformIds⟩

theorem SameProfiles.findUser (same : SameProfiles db later) (filter : UserWhere) :
    later.findUser filter = db.findUser filter := by
  rw [Database.findUser, same.users]
  rfl

theorem SameProfiles.withRelations (same : SameProfiles db later) (user : UserRow) :
    later.withRelations user = db.withRelations user := by
  rw [Database.withRelations, same.citizenIdentities, same.platformIds]
  rfl

theorem sameProfiles_performs (performs : environment.Performs state effect reply next)
    (spares : effect.SparesUsers) : SameProfiles state.db next.db := by
  rcases performs_db performs with same | ⟨statements, event, ran⟩ | ⟨data, event, _⟩ | ⟨log, same⟩
  · rw [same]
    exact ⟨rfl, rfl, rfl⟩
  · obtain rfl : effect = _ := congrArg Event.effect event
    refine runAll_preserves (SameProfiles state.db) ran
      (fun statement member now later same carried => same.trans ?_) ⟨rfl, rfl, rfl⟩
    have spared := spares statement member
    cases carried with
    | userUpdate id data present free => cases spared
    | _ => exact ⟨rfl, rfl, rfl⟩
  · obtain rfl : effect = _ := congrArg Event.effect event
    exact spares.elim
  · rw [same]
    exact ⟨rfl, rfl, rfl⟩

theorem runs_sameProfiles {before after : State} {trace : List ServiceEvent} {Result : Type}
    {program : Async Result} {outcome : Except Failure Result}
    (run : Runs environment program before trace outcome after)
    (spares : program.Uses Effect.SparesUsers) : SameProfiles before.db after.db := by
  have keeps : ∀ (now : State) (effect : Effect) reply next, effect.SparesUsers →
      SameProfiles before.db now.db → environment.Performs now effect reply next →
        SameProfiles before.db next.db :=
    fun _ _ _ _ spares same performs => same.trans (sameProfiles_performs performs spares)
  exact run.preserves spares keeps ⟨rfl, rfl, rfl⟩

end Effects

/-! ### When the parts of a call fail -/

section Parts

variable {runtime : Runtime} {before after : State} {trace : List ServiceEvent}

theorem failsOn_needed {effect : Effect} (needed : effect.needed = true) :
    (perform effect : Async effect.Reply).FailsOn environment Fatal :=
  failsOn_perform fun _ => ⟨And.right, And.intro needed⟩

/-- A mail that is not sent ends nothing. -/
theorem send_failsOn (mail : Mail) : (AppMailerService.send mail).FailsOn environment Fatal := by
  intro before trace outcome after run
  have uses : (AppMailerService.send mail).Uses (·.needed = false) := send_uses rfl
  have unneeded : ∀ event ∈ trace, event.effect.needed = false := run.uses uses
  rw [runs_send run]
  refine iff_of_false nofun fun struck => ?_
  obtain ⟨event, member, needed, _⟩ := struck
  rw [unneeded event member] at needed
  cases needed

theorem replaceVerificationToken_failsOn (userId : UserId) (recipient : Email)
    (identity : Option CitizenIdentityRow) :
    (UsersService.replaceVerificationToken runtime userId recipient identity).FailsOn environment
      Fatal :=
  (failsOn_needed rfl).bind fun _ => (failsOn_needed rfl).bind
    fun _ => (failsOn_needed rfl).bind fun _ => send_failsOn _

theorem resolveProfileImageAccess_failsOn (imageUrl : Option String) :
    (UsersService.resolveProfileImageAccess imageUrl).FailsOn environment Fatal := by
  unfold UsersService.resolveProfileImageAccess
  split
  · exact failsOn_done _
  · split
    · exact failsOn_done _
    · have body : (do
          let url ← request (.getSignedUrl (imageUrl.getD ""))
          let now ← request .now
          return (url, now + S3Service.PRESIGNED_URL_EXPIRY_SECONDS * 1000) :
          Async (String × Timestamp)).FailsOn environment Fatal :=
        (failsOn_needed rfl).bind fun _ =>
          (failsOn_needed rfl).bind fun _ => failsOn_done _
      exact (body.rescue fun _ => _).bind fun _ => failsOn_done _

/-- The platform id of a record is decrypted at once, or the call ends there. -/
theorem decryptPid_cases (runtime : Runtime) (record : UserRecord) :
    (record.PidReadable runtime ∧ ∃ pid, UsersService.decryptPid runtime record = .done pid) ∨
      (¬record.PidReadable runtime ∧
        ∃ failure, UsersService.decryptPid runtime record = .raise failure) := by
  unfold UsersService.decryptPid UserRecord.PidReadable EncryptionService.decrypt
  cases record.platformId with
  | none => exact .inl ⟨fun _ absent => (by cases absent), none, rfl⟩
  | some platformId =>
    dsimp only
    cases decrypted : runtime.decrypt platformId.pidEncrypted with
    | ok pid =>
      refine .inl ⟨?_, some pid, rfl⟩
      rintro _ ⟨⟩
      exact ⟨pid, decrypted⟩
    | error failure =>
      refine .inr ⟨fun readable => ?_, failure, rfl⟩
      obtain ⟨pid, same⟩ := readable platformId rfl
      rw [decrypted] at same
      cases same

theorem decryptFin_cases (runtime : Runtime) (record : UserRecord) :
    (record.FinReadable runtime ∧ ∃ fin, UsersService.decryptFin runtime record = .done fin) ∨
      (¬record.FinReadable runtime ∧
        ∃ failure, UsersService.decryptFin runtime record = .raise failure) := by
  unfold UsersService.decryptFin UserRecord.FinReadable EncryptionService.decrypt
  cases record.citizenIdentity with
  | none => exact .inl ⟨fun _ absent => (by cases absent), none, rfl⟩
  | some identity =>
    dsimp only
    split
    · rename_i given
      rw [Bool.and_eq_true, decide_eq_true_eq] at given
      cases decrypted : runtime.decrypt (identity.finEncrypted.getD "") with
      | ok fin =>
        refine .inl ⟨?_, some fin, rfl⟩
        rintro _ ⟨⟩ _ _
        exact ⟨fin, decrypted⟩
      | error failure =>
        refine .inr ⟨fun readable => ?_, failure, rfl⟩
        obtain ⟨fin, same⟩ := readable identity rfl given.1 given.2
        rw [decrypted] at same
        cases same
    · rename_i absent
      refine .inl ⟨?_, none, rfl⟩
      rintro _ ⟨⟩ isFin given
      exact absurd (by simp [isFin, given]) absent

/-- A profile is read back unless something it needs fails or the account cannot be decrypted. -/
theorem runs_getProfile {userId : UserId} {user : UserRow} {outcome : Except Failure UserProfile}
    (located : before.db.findUser (.byId userId) = some user)
    (run : Runs environment (UsersService.getProfile runtime userId) before trace outcome after) :
    (∃ failure, outcome = .error failure) ↔ (∃ event ∈ trace, Fatal event) ∨
      ¬((before.db.withRelations user).PidReadable runtime ∧
        (before.db.withRelations user).FinReadable runtime) := by
  obtain ⟨reply, read, rest, rfl, performs, run⟩ := runs_perform_bind.mp run
  cases reply with
  | error failure =>
    obtain ⟨rfl, rfl, _⟩ := run
    exact iff_of_true ⟨failure, rfl⟩ (.inl ⟨_, List.mem_singleton_self _, rfl, failure, rfl⟩)
  | ok found =>
    obtain rfl := performs_userFindUnique performs
    have quiet : ¬Fatal ⟨.userFindUnique (.byId userId),
        .ok ((before.db.findUser (.byId userId)).map before.db.withRelations)⟩ :=
      fun fatal => nomatch fatal.2
    rw [located, ofOutcome_ok, done_bind] at run
    dsimp only [Option.map_some] at run
    rcases decryptPid_cases runtime (before.db.withRelations user) with
      ⟨pidReadable, pid, decrypted⟩ | ⟨unreadable, failure, raised⟩
    · rw [decrypted, done_bind] at run
      rcases decryptFin_cases runtime (before.db.withRelations user) with
        ⟨finReadable, fin, decrypted⟩ | ⟨unreadable, failure, raised⟩
      · rw [decrypted, done_bind] at run
        have fails := ((resolveProfileImageAccess_failsOn user.imageUrl).bind
          fun _ => failsOn_done _) _ _ _ _ run
        simp [fails, quiet, pidReadable, finReadable]
      · rw [raised, raise_bind] at run
        obtain ⟨_, rfl, _⟩ := run
        exact iff_of_true ⟨failure, rfl⟩ (.inr fun readable => unreadable readable.2)
    · rw [raised, raise_bind] at run
      obtain ⟨_, rfl, _⟩ := run
      exact iff_of_true ⟨failure, rfl⟩ (.inr fun readable => unreadable readable.1)

theorem replaceVerificationToken_sparesUsers (userId : UserId) (recipient : Email)
    (identity : Option CitizenIdentityRow) :
    (UsersService.replaceVerificationToken runtime userId recipient identity).Uses
      Effect.SparesUsers :=
  uses_bind (uses_perform trivial) fun _ => uses_bind (uses_perform trivial) fun _ =>
    uses_bind (uses_perform (by simp [Effect.SparesUsers, Statement.sparesUsers])) fun _ =>
      send_uses trivial

/-- What follows the update of an account keeps its row, and fails with what it needs. -/
theorem runs_afterUpdate {userId : UserId} {recipient : Email}
    {identity : Option CitizenIdentityRow} {user : UserRow} {outcome : Except Failure UserProfile}
    (located : before.db.findUser (.byId userId) = some user)
    (run : Runs environment (do
      UsersService.replaceVerificationToken runtime userId recipient identity
      UsersService.getProfile runtime userId) before trace outcome after) :
    after.db.findUser (.byId userId) = some user ∧
      ((∃ failure, outcome = .error failure) ↔ (∃ event ∈ trace, Fatal event) ∨
        ¬((before.db.withRelations user).PidReadable runtime ∧
          (before.db.withRelations user).FinReadable runtime)) := by
  obtain ⟨first, second, ended, between, rfl, replace, run⟩ := runs_bind.mp run
  have same := runs_sameProfiles replace (replaceVerificationToken_sparesUsers _ _ _)
  have fails := replaceVerificationToken_failsOn _ _ _ _ _ _ _ replace
  have kept : between.db.findUser (.byId userId) = some user := (same.findUser _).trans located
  cases ended with
  | error failure =>
    obtain ⟨rfl, rfl, rfl⟩ := run
    rw [List.append_nil]
    exact ⟨kept, iff_of_true ⟨failure, rfl⟩ (.inl (fails.mp ⟨failure, rfl⟩))⟩
  | ok replaced =>
    rw [ofOutcome_ok, done_bind] at run
    have unharmed : ¬∃ event ∈ first, Fatal event := fun struck => nomatch fails.mpr struck
    have reads := runs_sameProfiles run
      ((getProfile_uses runtime userId).mono fun _ => harmless_sparesUsers)
    refine ⟨(reads.findUser _).trans kept, ?_⟩
    rw [runs_getProfile kept run, same.withRelations]
    simp only [List.mem_append, or_and_right, exists_or, unharmed, false_or]

/-- A change of address ends before it has written anything, or the account is locked under the
new address and the rest of the call follows. -/
theorem runs_addressUpdate {userId : UserId} {dto : UsersService.UpdateProfileDto} {user : UserRow}
    {email : Email} {outcome : Except Failure UserProfile}
    (located : before.db.findUser (.byId userId) = some user)
    (changes : dto.changedEmail user.email = some email)
    (run : Runs environment (UsersService.updateProfile runtime userId dto) before trace outcome
      after) :
    (SameButLog before.db after.db ∧
      ∀ data, ⟨.execute [.userUpdate userId data], .ok ()⟩ ∉ trace) ∨
      ∃ first rest between, trace = first ++ rest ∧ (∀ event ∈ first, ¬Fatal event) ∧
        (∃ data, ⟨.execute [.userUpdate userId data], .ok ()⟩ ∈ first) ∧
          ∃ locked, locked.email = email ∧ between.db.findUser (.byId userId) = some locked ∧
            between.db.withRelations locked = { before.db.withRelations user with user := locked } ∧
              Runs environment (do
                UsersService.replaceVerificationToken runtime userId email
                  (before.db.withRelations user).citizenIdentity
                UsersService.getProfile runtime userId) between rest outcome after := by
  obtain ⟨reply, read, rest, rfl, performs, run⟩ := runs_perform_bind.mp run
  have kept := performs_sameButLog performs rfl
  cases reply with
  | error failure =>
    obtain ⟨rfl, _, rfl⟩ := run
    exact .inl ⟨kept, by simp⟩
  | ok found =>
    obtain rfl := performs_userFindUnique performs
    rw [located, ofOutcome_ok, done_bind] at run
    dsimp only [Option.map_some] at run
    rw [show (before.db.withRelations user).user = user from rfl, changes] at run
    simp only [UsersService.rejectTakenEmail, Program.bind_assoc] at run
    obtain ⟨reply, asked, rest, rfl, performs, run⟩ := runs_perform_bind.mp run
    have kept := kept.trans (performs_sameButLog performs rfl)
    cases reply with
    | error failure =>
      obtain ⟨rfl, _, rfl⟩ := run
      exact .inl ⟨kept, by simp⟩
    | ok taken =>
      rw [ofOutcome_ok, done_bind] at run
      rcases runs_throwIf_bind.mp run with ⟨_, rfl, _, rfl⟩ | ⟨_, run⟩
      · exact .inl ⟨kept, by simp⟩
      · obtain ⟨reply, between, rest, rfl, performs, run⟩ := runs_perform_bind.mp run
        rcases performs_execute performs with ⟨rfl, ran⟩ | ⟨⟨error, rfl⟩, same⟩
        · have carried := runAll_singleton ran
          obtain ⟨old, found, written⟩ := findUser_userUpdate carried
          obtain ⟨nextId, log, same⟩ := kept
          rw [same] at found carried
          obtain rfl : user = old := Option.some.inj (located.symm.trans found)
          refine .inr ⟨[_, _, _], rest, between, rfl, ?_, ?_, _, rfl, written, ?_, run⟩
          · simp [Fatal]
          · exact ⟨_, List.mem_cons_of_mem _ (List.mem_cons_of_mem _ List.mem_cons_self)⟩
          · generalize between.db = later at carried
            cases carried
            rfl
        · obtain ⟨rfl, _, rfl⟩ := run
          rw [same]
          exact .inl ⟨kept, by simp⟩

/-- A change of address is all or nothing unless it is broken off after its first write. -/
theorem addressUpdate_atomic_iff {userId : UserId} {dto : UsersService.UpdateProfileDto}
    {user : UserRow} {outcome : Except Failure UserProfile}
    (located : before.db.findUser (.byId userId) = some user)
    (changes : (dto.changedEmail user.email).isSome = true)
    (run : Runs environment (UsersService.updateProfile runtime userId dto) before trace outcome
      after) :
    RowsKept (some user) before outcome after ↔
      ¬((∃ data, ⟨.execute [.userUpdate userId data], .ok ()⟩ ∈ trace) ∧
        ((∃ event ∈ trace, Fatal event) ∨
          ¬((before.db.withRelations user).PidReadable runtime ∧
            (before.db.withRelations user).FinReadable runtime))) := by
  obtain ⟨email, changed⟩ := Option.isSome_iff_exists.mp changes
  rcases runs_addressUpdate located changed run with ⟨same, unwritten⟩ |
    ⟨first, rest, between, rfl, unharmed, ⟨data, updated⟩, locked, new, stored, relations, run⟩
  · refine iff_of_true (fun _ user _ => same.accountRows _ _) ?_
    rintro ⟨⟨data, written⟩, _⟩
    exact unwritten data written
  · obtain ⟨kept, fails⟩ := runs_afterUpdate stored run
    have unharmed : ¬∃ event ∈ first, Fatal event := fun ⟨event, member, fatal⟩ =>
      unharmed event member fatal
    have written : ∃ data, ⟨.execute [.userUpdate userId data], .ok ()⟩ ∈ first ++ rest :=
      ⟨data, List.mem_append_left _ updated⟩
    have readable : (∃ failure, outcome = .error failure) ↔ (∃ event ∈ first ++ rest, Fatal event) ∨
        ¬((before.db.withRelations user).PidReadable runtime ∧
          (before.db.withRelations user).FinReadable runtime) := by
      simp only [fails, relations, List.mem_append, or_and_right, exists_or, unharmed, false_or]
      rfl
    rw [← readable]
    constructor
    · rintro atomic ⟨_, failed⟩
      have rows := congrArg AccountRows.user (atomic failed user rfl)
      rw [(findUser_byId located).2] at rows
      have same : locked = user := Option.some.inj (kept.symm.trans (rows.trans located))
      have differs := (Option.filter_eq_some_iff.mp changed).2
      rw [← new, same] at differs
      simp at differs
    · intro unbroken failed
      exact absurd ⟨written, failed⟩ unbroken

/-- A request that finds an account fails before it has written anything, or when it cannot store
its link, with the others revoked. -/
theorem runs_resetIssue {record : UserRecord} {outcome : Except Failure MessageResult}
    (run : Runs environment (PasswordResetService.requestResetFor runtime record) before trace
      outcome after) :
    (SameButLog before.db after.db ∨ ∃ result, outcome = .ok result) ∧
        (∀ data failure, ⟨.execute [.passwordResetTokenCreate data], .error failure⟩ ∉ trace) ∨
      (∃ data failure, ⟨.execute [.passwordResetTokenCreate data], .error failure⟩ ∈ trace) ∧
        (∃ failure, outcome = .error failure) ∧
          ∀ clock, after.db.accountRows record.user.id clock =
            { before.db.accountRows record.user.id clock with usableResets := [] } := by
  obtain ⟨reply, revoked, rest, rfl, performs, run⟩ := runs_perform_bind.mp run
  rcases performs_execute performs with ⟨rfl, ran⟩ | ⟨⟨error, rfl⟩, same⟩
  · have rows := fun clock => usableResets_revoked clock (runAll_singleton ran)
    rw [ofOutcome_ok, done_bind] at run
    obtain ⟨reply, drawn, rest, rfl, performs, run⟩ := runs_perform_bind.mp run
    have kept := performs_sameButLog performs rfl
    obtain ⟨token, rfl, _⟩ := performs_randomToken performs
    rw [ofOutcome_ok, done_bind] at run
    obtain ⟨reply, timed, rest, rfl, performs, run⟩ := runs_perform_bind.mp run
    have kept := kept.trans (performs_sameButLog performs rfl)
    obtain rfl := performs_now performs
    rw [ofOutcome_ok, done_bind] at run
    obtain ⟨reply, stored, rest, rfl, performs, run⟩ := runs_rescue_perform_bind.mp run
    rcases performs_execute performs with ⟨rfl, _⟩ | ⟨⟨error, rfl⟩, same⟩
    · rw [ofOutcome_ok, done_rescue, done_bind] at run
      obtain ⟨_, _, ended, mailed, rfl, runSend, run⟩ := runs_bind.mp run
      have mails := runSend.uses (sendPasswordResetEmail_uses _ _ _ _ _)
      obtain rfl := runs_send runSend
      rw [ofOutcome_ok, done_bind] at run
      obtain ⟨reply, logged, rest, rfl, performs, run⟩ := runs_perform_bind.mp run
      obtain rfl := performs_securityEvent performs
      obtain ⟨rfl, rfl, rfl⟩ := run
      refine .inl ⟨.inr ⟨_, rfl⟩, fun data failure member => ?_⟩
      simp only [List.mem_cons, List.mem_append, List.not_mem_nil, or_false] at member
      rcases member with same | same | same | same | inside | same
      · cases same
      · cases same
      · cases same
      · cases same
      · exact mails _ inside
      · cases same
    · obtain ⟨rfl, rfl, rfl⟩ := run
      refine .inr ⟨⟨_, _, List.mem_cons_of_mem _ (List.mem_cons_of_mem _
        (List.mem_cons_of_mem _ List.mem_cons_self))⟩, ⟨_, rfl⟩, fun clock => ?_⟩
      rw [same, kept.accountRows, rows]
  · obtain ⟨rfl, rfl, rfl⟩ := run
    refine .inl ⟨.inl ⟨_, _, same⟩, fun data failure member => ?_⟩
    cases List.mem_singleton.mp member

/-- A request for a reset is all or nothing unless it has to give up its link where there was one
that could be used. -/
theorem requestReset_atomic_iff {email : Email} {outcome : Except Failure MessageResult}
    (run : Runs environment (PasswordResetService.requestReset runtime email) before trace outcome
      after) :
    RowsKept (before.db.findUser (.byEmail email)) before outcome after ↔
      ¬((∃ data failure, ⟨.execute [.passwordResetTokenCreate data], .error failure⟩ ∈ trace) ∧
        ∃ user, before.db.findUser (.byEmail email) = some user ∧
          (before.db.accountRows user.id after.clock).usableResets ≠ []) := by
  obtain ⟨reply, read, rest, rfl, performs, run⟩ := runs_perform_bind.mp run
  have kept := performs_sameButLog performs rfl
  cases reply with
  | error failure =>
    obtain ⟨rfl, rfl, rfl⟩ := run
    refine iff_of_true (fun _ user _ => kept.accountRows _ _) ?_
    rintro ⟨⟨data, failure, member⟩, _⟩
    cases List.mem_singleton.mp member
  | ok found =>
    obtain rfl := performs_userFindUnique performs
    rw [ofOutcome_ok, done_bind] at run
    split at run
    · have hashes : ∀ event ∈ rest, event.effect.Harmless := run.uses
        (uses_bind (bcryptHash_uses runtime _) fun _ => trivial)
      obtain rfl := runs_dummyHash run
      refine iff_of_true nofun ?_
      rintro ⟨⟨data, failure, member⟩, _⟩
      rcases List.mem_cons.mp member with same | member
      · cases same
      · exact hashes _ member
    · rename_i record active
      obtain ⟨found, _⟩ := Option.filter_eq_some_iff.mp active
      obtain ⟨user, located, rfl⟩ := Option.map_eq_some_iff.mp found
      rw [located]
      rcases runs_resetIssue run with ⟨ended, stored⟩ | ⟨⟨data, failure, member⟩, failed, rows⟩
      · refine iff_of_true (fun failed user _ => ?_) ?_
        · rcases ended with same | ⟨result, rfl⟩
          · exact (kept.trans same).accountRows _ _
          · exact nomatch failed
        · rintro ⟨⟨data, failure, member⟩, _⟩
          rcases List.mem_cons.mp member with same | member
          · cases same
          · exact stored data failure member
      · have emptied : after.db.accountRows user.id after.clock =
            { before.db.accountRows user.id after.clock with usableResets := [] } := by
          rw [← kept.accountRows]
          exact rows after.clock
        constructor
        · rintro atomic ⟨_, _, ⟨⟩, usable⟩
          have same := congrArg AccountRows.usableResets (atomic failed user rfl)
          rw [emptied] at same
          exact usable same.symm
        · rintro unbroken _ _ ⟨⟩
          have none : (before.db.accountRows user.id after.clock).usableResets = [] :=
            of_not_not fun usable => unbroken
              ⟨⟨data, failure, List.mem_cons_of_mem _ member⟩, user, rfl, usable⟩
          rw [emptied, ← none]

end Parts

/-- A failed call leaves the rows of its account as they were unless it has been broken off at its
point of no return. -/
theorem failed_calls_atomic_iff (runtime : Runtime) {Result : Type} (call : AccountCall Result)
    {before after : State} {trace : List ServiceEvent} {outcome : Except Failure Result}
    (counts : call.Counts before.db)
    (run : Runs environment (call.program runtime) before trace outcome after) :
    RowsKept (call.account before.db) before outcome after ↔
      ¬call.BrokenOff runtime before trace after := by
  cases call with
  | updateProfile userId dto =>
    obtain ⟨user, located, changes⟩ := counts
    simp only [AccountCall.account, AccountCall.BrokenOff, located, Option.some.injEq,
      exists_eq_left']
    exact addressUpdate_atomic_iff located changes run
  | requestReset email => exact requestReset_atomic_iff run

/-- The new address cannot be written, and nothing has changed. -/
theorem failed_calls_atomic_iff_unwritten :
    ∃ trace outcome after, Runs environment (addressChange.program legibleRuntime)
      (playedSerially signedInSerially).2 trace outcome after ∧
        (∃ failure, outcome = .error failure) ∧
          RowsKept (addressChange.account (playedSerially signedInSerially).2.db)
            (playedSerially signedInSerially).2 outcome after := by
  have refused : (addressChanged [{}, {}, { fails := some databaseDown }]).any (fun played =>
      !played.2.1.isOk && played.1.all fun event => (executed event).isEmpty) = true := by
    decide +kernel
  obtain ⟨trace, outcome, after, run, facts⟩ := Program.exists_runs_of_play refused
  rw [Bool.and_eq_true, List.all_eq_true] at facts
  refine ⟨trace, outcome, after, run, ?_,
    (failed_calls_atomic_iff _ _ addressChange_counts run).mpr ?_⟩
  · cases outcome with
    | ok profile => cases facts.1
    | error failure => exact ⟨failure, rfl⟩
  · rintro ⟨⟨data, member⟩, _⟩
    exact nomatch facts.2 _ member

end GraconAuth
