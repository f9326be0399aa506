/-
This file keeps the accounts apart. What the tables hold of an account is its rows
in each of them. A call changes the rows of an account only when it is entitled to
the account, and only in the tables that its request is about; whatever else runs at
the same time, the rows of every other account are left as they are. Three kinds of
call are entitled to nothing: a registration makes the account it writes, a logout
ends the sessions of the token that it is given, and the daily task throws away
tokens that are of no use to anyone.

The log is not one of these tables. Whoever tries a password at an address writes a
line about its account.
-/

import GraconAuth.Integrity

namespace GraconAuth

open Interleaving Program Rows

/-! ### What the tables hold of an account -/

/-- The tables that hold rows of accounts. The log is left out. -/
inductive Table where
  | users
  | citizenIdentities
  | platformIds
  | refreshTokens
  | emailVerificationTokens
  | passwordResetTokens
  | idVerifications
  deriving DecidableEq, Repr

/-- A table leaves the rows of an account as they are. -/
def Table.Keeps (before after : Database) (userId : UserId) : Table → Prop
  | .users => after.users.filter (·.id == userId) = before.users.filter (·.id == userId)
  | .citizenIdentities =>
    after.citizenIdentities.filter (·.userId == userId) =
      before.citizenIdentities.filter (·.userId == userId)
  | .platformIds =>
    after.platformIds.filter (·.userId == userId) = before.platformIds.filter (·.userId == userId)
  | .refreshTokens =>
    after.refreshTokens.filter (·.userId == userId) =
      before.refreshTokens.filter (·.userId == userId)
  | .emailVerificationTokens =>
    after.emailVerificationTokens.filter (·.userId == userId) =
      before.emailVerificationTokens.filter (·.userId == userId)
  | .passwordResetTokens =>
    after.passwordResetTokens.filter (·.userId == userId) =
      before.passwordResetTokens.filter (·.userId == userId)
  | .idVerifications =>
    after.idVerifications.filter (·.userId == userId) =
      before.idVerifications.filter (·.userId == userId)

/-- The table that a statement writes. -/
def Statement.table : Statement → Table
  | .userUpdate _ _ => .users
  | .refreshTokenUpdate _ | .refreshTokenUpdateMany _ | .refreshTokenCreate _
  | .refreshTokenDeleteMany _ => .refreshTokens
  | .emailVerificationTokenUpdate _ | .emailVerificationTokenUpsert _ _ _ _ =>
    .emailVerificationTokens
  | .passwordResetTokenUpdateMany _ | .passwordResetTokenCreate _
  | .passwordResetTokenUpdate _ => .passwordResetTokens
  | .idVerificationCreate _ => .idVerifications

/-- The tables that a request is about. -/
def Request.tables : Request → List Table
  | .register _ => [.users, .citizenIdentities, .platformIds, .emailVerificationTokens]
  | .verifyEmail _ => [.users, .emailVerificationTokens, .refreshTokens]
  | .resendVerificationEmail _ => [.emailVerificationTokens]
  | .login _ _ _ | .refreshTokens _ _ _ _ | .upgradeSession _ _ _ _ | .logout _ _
  | .logoutAllDevices _ | .cleanupExpiredTokens => [.refreshTokens]
  | .requestReset _ => [.passwordResetTokens]
  | .resetPassword _ => [.users, .passwordResetTokens, .refreshTokens]
  | .updateProfile _ _ => [.users, .emailVerificationTokens]
  | .changePassword _ _ => [.users, .refreshTokens]
  | .submitVerification _ _ _ => [.users, .refreshTokens, .idVerifications]
  | .validateResetToken _ _ | .getProfile _ | .getVerificationStatus _ => []

/-- The statement is about a row of the account. -/
def Statement.IsAbout (db : Database) (userId : UserId) : Statement → Prop
  | .userUpdate id _ => id = userId
  | .refreshTokenUpdate id => ∃ row ∈ db.refreshTokens, row.id = id ∧ row.userId = userId
  | .refreshTokenUpdateMany filter =>
    ∃ row ∈ db.refreshTokens, filter.holds row = true ∧ row.userId = userId
  | .refreshTokenCreate data => data.userId = userId
  | .refreshTokenDeleteMany now => ∃ row ∈ db.refreshTokens,
    (row.expiresAt < now ∨ row.revoked = true) ∧ row.userId = userId
  | .emailVerificationTokenUpdate id =>
    ∃ row ∈ db.emailVerificationTokens, row.id = id ∧ row.userId = userId
  | .emailVerificationTokenUpsert owner _ _ _ => owner = userId
  | .passwordResetTokenUpdateMany owner => owner = userId
  | .passwordResetTokenCreate data => data.userId = userId
  | .passwordResetTokenUpdate id =>
    ∃ row ∈ db.passwordResetTokens, row.id = id ∧ row.userId = userId
  | .idVerificationCreate data => data.userId = userId

variable {clock : Timestamp} {db next : Database} {statement : Statement} {userId : UserId}

theorem Table.keeps_refl (table : Table) (db : Database) (userId : UserId) :
    table.Keeps db db userId := by
  cases table <;> rfl

theorem Table.Keeps.trans {table : Table} {first second third : Database}
    (earlier : table.Keeps first second userId) (later : table.Keeps second third userId) :
    table.Keeps first third userId := by
  cases table <;> exact Eq.trans later earlier

/-- A statement leaves every other table as it is. -/
theorem Carried.keeps_table (carried : Carried clock db statement next) {table : Table}
    (other : table ≠ statement.table) (userId : UserId) : table.Keeps db next userId := by
  cases carried <;> cases table <;> first | rfl | exact absurd rfl other

/-- A statement leaves the rows of an account as they are that it is not about. -/
theorem Carried.keeps_account (carried : Carried clock db statement next)
    (elsewhere : ¬statement.IsAbout db userId) (table : Table) :
    table.Keeps db next userId := by
  by_cases same : table = statement.table
  · subst same
    cases carried <;> dsimp only [Statement.table, Table.Keeps]
    case userUpdate id data present free =>
      refine filter_updateWhere_other (by intro row; rfl) fun row _ matched => ?_
      exact beq_false_of_ne fun owner => elsewhere ((beq_iff_eq.mp matched).symm.trans owner)
    case refreshTokenUpdate id present =>
      refine filter_updateWhere_other (by intro row; rfl) fun row member matched => ?_
      exact beq_false_of_ne fun owner => elsewhere ⟨row, member, beq_iff_eq.mp matched, owner⟩
    case refreshTokenUpdateMany filter =>
      refine filter_updateWhere_other (by intro row; rfl) fun row member matched => ?_
      exact beq_false_of_ne fun owner => elsewhere ⟨row, member, matched, owner⟩
    case refreshTokenCreate data free =>
      exact filter_concat_other (by exact beq_false_of_ne elsewhere) _
    case refreshTokenDeleteMany now =>
      refine filter_deleteWhere_other fun row member matched => ?_
      exact beq_false_of_ne fun owner => elsewhere ⟨row, member, by simpa using matched, owner⟩
    case emailVerificationTokenUpdate id present =>
      refine filter_updateWhere_other (by intro row; rfl) fun row member matched => ?_
      exact beq_false_of_ne fun owner => elsewhere ⟨row, member, beq_iff_eq.mp matched, owner⟩
    case emailVerificationTokenUpsert owner tokenHash expiresAt createdAt =>
      unfold upsertWhere
      split
      · refine filter_updateWhere_other (by intro row; rfl) fun row _ matched => ?_
        exact beq_false_of_ne fun same => elsewhere ((beq_iff_eq.mp matched).symm.trans same)
      · exact filter_concat_other (by exact beq_false_of_ne elsewhere) _
    case passwordResetTokenUpdateMany owner =>
      refine filter_updateWhere_other (by intro row; rfl) fun row _ matched => ?_
      simp only [Bool.and_eq_true, beq_iff_eq] at matched
      exact beq_false_of_ne fun same => elsewhere (matched.1.symm.trans same)
    case passwordResetTokenCreate data =>
      exact filter_concat_other (by exact beq_false_of_ne elsewhere) _
    case passwordResetTokenUpdate id present =>
      refine filter_updateWhere_other (by intro row; rfl) fun row member matched => ?_
      exact beq_false_of_ne fun owner => elsewhere ⟨row, member, beq_iff_eq.mp matched, owner⟩
    case idVerificationCreate data row stored =>
      exact filter_concat_other (by
        exact beq_false_of_ne fun owner => elsewhere (stored.2.1.symm.trans owner)) _
  · exact carried.keeps_table same userId

/-- A registration writes the new account only. -/
theorem register_keeps {data : RegistrationCreate} (ran : db.register clock data = .ok next)
    (other : db.nextId ≠ userId) (table : Table) : table.Keeps db next userId := by
  unfold Database.register at ran
  split at ran
  · cases ran
  · cases ran
    cases table <;> dsimp only [Table.Keeps] <;>
      exact filter_concat_other (by exact beq_false_of_ne other) _

theorem register_keeps_table {data : RegistrationCreate} {dto : UsersService.RegisterDto}
    (ran : db.register clock data = .ok next) {table : Table}
    (other : table ∉ (Request.register dto).tables) : table.Keeps db next userId := by
  unfold Database.register at ran
  split at ran
  · cases ran
  · cases ran
    cases table <;> first | rfl | simp [Request.tables] at other

/-- A request writes the tables that it is about. -/
theorem writes_table {request : Request} (writes : request.Writes statement) :
    statement.table ∈ request.tables := by
  cases request <;> cases statement <;>
    first | exact writes.elim | simp [Statement.table, Request.tables]

/-! ### Whose row it is -/

/-- The rows that a call has read belong to the accounts that it has read them of, as long as they
are there. -/
structure Database.Recalls (db : Database) (past : List ServiceEvent) : Prop where
  tokens : ∀ tokenHash storedToken user, ReadToken past tokenHash storedToken user →
    Held RefreshTokenRow.id RefreshTokenRow.userId db.nextId db.refreshTokens storedToken.id
      storedToken.userId
  links : ∀ owner tokenRecord record, ReadLink past owner tokenRecord record →
    Held EmailVerificationTokenRow.id EmailVerificationTokenRow.userId db.nextId
      db.emailVerificationTokens tokenRecord.id tokenRecord.userId
  resets : ∀ owner tokenHash reset, ReadReset past owner tokenHash reset →
    Held PasswordResetTokenRow.id PasswordResetTokenRow.userId db.nextId db.passwordResetTokens
      reset.id reset.userId

section Held

variable {id holder : Nat}

theorem Carried.heldToken (carried : Carried clock db statement next)
    (held : Held RefreshTokenRow.id RefreshTokenRow.userId db.nextId db.refreshTokens id holder) :
    Held RefreshTokenRow.id RefreshTokenRow.userId next.nextId next.refreshTokens id holder := by
  have grown := held.grow carried.nextId
  cases carried with
  | refreshTokenUpdate _ _ | refreshTokenUpdateMany _ =>
    exact held.updateWhere (fun _ => rfl) fun _ => rfl
  | refreshTokenCreate data free => exact held.concat (Nat.le_refl _) (Nat.le_succ _)
  | refreshTokenDeleteMany now => exact held.subset fun _ member => (mem_deleteWhere.mp member).1
  | _ => exact grown

theorem Carried.heldLink (carried : Carried clock db statement next)
    (held : Held EmailVerificationTokenRow.id EmailVerificationTokenRow.userId db.nextId
      db.emailVerificationTokens id holder) :
    Held EmailVerificationTokenRow.id EmailVerificationTokenRow.userId next.nextId
      next.emailVerificationTokens id holder := by
  have grown := held.grow carried.nextId
  cases carried with
  | emailVerificationTokenUpdate _ _ => exact held.updateWhere (fun _ => rfl) fun _ => rfl
  | emailVerificationTokenUpsert userId tokenHash expiresAt createdAt =>
    dsimp only [upsertWhere]
    split
    · exact grown.updateWhere (fun _ => rfl) fun _ => rfl
    · exact held.concat (Nat.le_refl _) (Nat.le_succ _)
  | _ => exact grown

theorem Carried.heldReset (carried : Carried clock db statement next)
    (held : Held PasswordResetTokenRow.id PasswordResetTokenRow.userId db.nextId
      db.passwordResetTokens id holder) :
    Held PasswordResetTokenRow.id PasswordResetTokenRow.userId next.nextId
      next.passwordResetTokens id holder := by
  have grown := held.grow carried.nextId
  cases carried with
  | passwordResetTokenUpdate _ _ | passwordResetTokenUpdateMany _ =>
    exact held.updateWhere (fun _ => rfl) fun _ => rfl
  | passwordResetTokenCreate data => exact held.concat (Nat.le_refl _) (Nat.le_succ _)
  | _ => exact grown

end Held

theorem Carried.recalls (carried : Carried clock db statement next) {past : List ServiceEvent}
    (recalls : db.Recalls past) : next.Recalls past where
  tokens _ _ _ read := carried.heldToken (recalls.tokens _ _ _ read)
  links _ _ _ read := carried.heldLink (recalls.links _ _ _ read)
  resets _ _ _ read := carried.heldReset (recalls.resets _ _ _ read)

theorem performs_recalls {state later : State} {effect : Effect}
    {reply : Except Failure effect.Reply}
    (performs : environment.Performs state effect reply later) {past : List ServiceEvent}
    (recalls : state.db.Recalls past) : later.db.Recalls past := by
  refine performs_preserves (fun db => db.Recalls past) performs
    (fun _ _ _ _ _ _ holds carried => carried.recalls holds) ?_ ?_ recalls
  · intro data registered holds ran
    unfold Database.register at ran
    split at ran
    · cases ran
    · cases ran
      exact ⟨fun _ _ _ read => (holds.tokens _ _ _ read).grow (Nat.le_add_right _ _),
        fun _ _ _ read => (holds.links _ _ _ read).concat (Nat.le_add_right _ _)
          (Nat.le_add_right _ _),
        fun _ _ _ read => (holds.resets _ _ _ read).grow (Nat.le_add_right _ _)⟩
  · intro log holds
    exact ⟨fun _ _ _ read => (holds.tokens _ _ _ read).grow (Nat.le_succ _),
      fun _ _ _ read => (holds.links _ _ _ read).grow (Nat.le_succ _),
      fun _ _ _ read => (holds.resets _ _ _ read).grow (Nat.le_succ _)⟩

/-- What an effect has read of an account is the account's. -/
theorem reads_recalled {state later : State} {event : ServiceEvent}
    (performs : environment.Performs state event.effect event.reply later)
    (wellFormed : state.db.WellFormed) (sound : state.db.Sound) :
    state.db.Recalls [event] where
  tokens tokenHash storedToken user read := by
    have stored := (findRefreshTokenWithUser_some (performs_refreshTokenFindUnique
      (performs_event performs (List.mem_singleton.mp read).symm)).symm).1
    exact wellFormed.refreshTokens.held stored _
  links owner tokenRecord record read := by
    have stored := (findEmailVerificationTokenWithUser_some
      (performs_emailVerificationTokenFindUnique
        (performs_event performs (List.mem_singleton.mp read).symm)).symm).1
    exact sound.links.held stored _
  resets owner tokenHash reset read := by
    have stored := (findPasswordResetToken_some (performs_passwordResetTokenFindFirst
      (performs_event performs (List.mem_singleton.mp read).symm)).symm).1
    exact wellFormed.passwordResetTokens.held stored _

/-- A call that carries out a statement about an account is entitled to the account, or it ends the
sessions of the token that it was given, or it is the daily task. -/
theorem backed_entitled {runtime : Runtime} {request : Request} {past : List ServiceEvent}
    (backed : backs runtime request past statement) (recalls : db.Recalls past)
    (about : statement.IsAbout db userId) :
    EntitledTo runtime past userId request ∨
      (∃ jwt refreshToken, request = .logout jwt refreshToken) ∨
        request = .cleanupExpiredTokens := by
  cases statement with
  | userUpdate owner data =>
    obtain rfl : owner = userId := about
    exact .inl backed
  | refreshTokenUpdate id =>
    obtain ⟨tokenHash, storedToken, user, read, rfl, _, _, _, entitled⟩ := backed
    obtain ⟨row, stored, same, rfl⟩ := about
    rw [(recalls.tokens _ _ _ read).owned row stored same]
    exact .inl entitled
  | refreshTokenUpdateMany filter =>
    rcases backed with ⟨owner, given, entitled⟩ | ⟨jwt, refreshToken, logout, _⟩
    · obtain ⟨row, _, held, rfl⟩ := about
      have same : row.userId = owner := by
        simp only [RefreshTokenWhere.holds, given, columnHolds, Bool.and_eq_true,
          decide_eq_true_eq] at held
        exact held.1.1.1
      exact .inl (same ▸ entitled)
    · exact .inr (.inl ⟨jwt, refreshToken, logout⟩)
  | refreshTokenDeleteMany now => exact .inr (.inr backed.1)
  | emailVerificationTokenUpdate id =>
    obtain ⟨owner, tokenRecord, record, read, rfl, entitled⟩ := backed
    obtain ⟨row, stored, same, rfl⟩ := about
    rw [(recalls.links _ _ _ read).owned row stored same]
    exact .inl entitled
  | passwordResetTokenUpdate id =>
    obtain ⟨owner, tokenHash, reset, read, rfl, entitled⟩ := backed
    obtain ⟨row, stored, same, rfl⟩ := about
    rw [(recalls.resets _ _ _ read).owned row stored same]
    exact .inl entitled
  | refreshTokenCreate data | passwordResetTokenCreate data | idVerificationCreate data =>
    obtain rfl : data.userId = userId := about
    exact .inl backed
  | emailVerificationTokenUpsert owner _ _ _ | passwordResetTokenUpdateMany owner =>
    obtain rfl : owner = userId := about
    exact .inl backed

/-! ### The runs -/

section Chronicles

variable {runtime : Runtime} {regime : Regime State Effect.Reply Failure Request}
  {world : ServiceWorld}
  (chronicle : Chronicle (service runtime) regime
    (fun request => conduct (ledger runtime request)) (State.empty clock) world)

include chronicle

/-- What a call has read of an account is still the account's. -/
theorem chronicle_recalls (thread : Nat) : world.state.db.Recalls (world.past thread) := by
  have each : ∀ event ∈ world.past thread, world.state.db.Recalls [event] := by
    intro event past
    obtain ⟨entry, member, _, rfl⟩ := World.mem_past.mp past
    obtain ⟨_, before, admissible, _⟩ := chronicle.recalls member
    refine chronicle.lasts (fun state => state.db.Recalls [entry.event])
      (fun _ _ _ _ performs recalls => performs_recalls performs recalls) member (.inl ?_)
    exact reads_recalled admissible.performs (admissible.current ▸ chronicle_wellFormed before)
      (admissible.current ▸ chronicle_sound before)
  exact ⟨fun _ _ _ read => (each _ read).tokens _ _ _ (List.mem_singleton_self _),
    fun _ _ _ read => (each _ read).links _ _ _ (List.mem_singleton_self _),
    fun _ _ _ read => (each _ read).resets _ _ _ (List.mem_singleton_self _)⟩

/-- A clock that has been read does not run ahead of the clock. -/
theorem clock_read {thread : Nat} {now : Timestamp}
    (past : ⟨.now, .ok now⟩ ∈ world.past thread) : now ≤ world.state.clock := by
  obtain ⟨entry, member, _, event⟩ := World.mem_past.mp past
  obtain ⟨_, _, admissible, _⟩ := chronicle.recalls member
  refine chronicle.lasts (fun state => now ≤ state.clock)
    (fun _ _ _ _ performs early => Int.le_trans early (performs_clock performs)) member (.inr ?_)
  have performs : environment.Performs entry.before entry.effect entry.reply entry.after :=
    admissible.performs
  have read := performs_now (performs_event performs event)
  exact Int.le_of_eq (Except.ok.inj read)

end Chronicles

/-- What lets an entry at the rows of an account: the entitlement of its call; or it has registered
the account; or it ends the sessions of the token that its logout was given; or it is the daily
task throwing away what is revoked or out of date. -/
def LetAt (runtime : Runtime) (past : List ServiceEvent) (entry : ServiceEntry)
    (userId : UserId) : Prop :=
  EntitledTo runtime past userId entry.request ∨
    (∃ data, entry.event = ⟨.registerTransaction data, .ok userId⟩) ∨
    (∃ jwt refreshToken, entry.request = .logout jwt refreshToken ∧
      ∃ row ∈ entry.before.db.refreshTokens, row.tokenHash = runtime.hash refreshToken ∧
        row.userId = userId) ∨
    entry.request = .cleanupExpiredTokens ∧ ∀ row ∈ entry.before.db.refreshTokens,
      row ∉ entry.after.db.refreshTokens →
        row.revoked = true ∨ row.expiresAt < entry.after.clock

section Entries

variable {runtime : Runtime} {regime : Regime State Effect.Reply Failure Request}
  {world : ServiceWorld} {request : Request} {statements : List Statement}

/-- A logout carries out one statement. -/
theorem logout_let {jwt : Jwt} {refreshToken : RawToken} {past : List ServiceEvent}
    (ruled : ledger runtime (.logout jwt refreshToken) past (.execute statements))
    (ran : runAll clock db statements = .ok next) {table : Table}
    (changed : ¬table.Keeps db next userId) :
    ∃ row ∈ db.refreshTokens, row.tokenHash = runtime.hash refreshToken ∧ row.userId = userId := by
  obtain ⟨tokenHash, rfl⟩ : ∃ tokenHash, statements =
      [.refreshTokenUpdateMany { tokenHash := some tokenHash }] := by
    rcases ruled.2 with harmless | ⟨tokenHash, same⟩ | ⟨_, same⟩
    · exact harmless.elim
    · cases same
      exact ⟨tokenHash, rfl⟩
    · cases same
  obtain ⟨row, stored, held, rfl⟩ := not_imp_comm.mp
    (fun elsewhere => (runAll_singleton ran).keeps_account elsewhere table) changed
  refine ⟨row, stored, ?_, rfl⟩
  rcases ruled.1.1 _ (List.mem_singleton_self _) with ⟨_, none, _⟩ | ⟨_, _, same, filter⟩
  · cases none
  · cases same
    cases filter
    have both : row.tokenHash = runtime.hash refreshToken ∧ row.revoked = false := by
      simpa [RefreshTokenWhere.holds, columnHolds] using held
    exact both.1

/-- The daily task carries out one statement. -/
theorem cleanup_let {past : List ServiceEvent}
    (ruled : ledger runtime .cleanupExpiredTokens past (.execute statements))
    (ran : runAll clock db statements = .ok next)
    (read : ∀ now, ⟨.now, .ok now⟩ ∈ past → now ≤ clock) {row : RefreshTokenRow}
    (stored : row ∈ db.refreshTokens) (gone : row ∉ next.refreshTokens) :
    row.revoked = true ∨ row.expiresAt < clock := by
  obtain ⟨now, rfl⟩ : ∃ now, statements = [.refreshTokenDeleteMany now] := by
    rcases ruled.2 with harmless | ⟨now, same⟩ | ⟨_, same⟩
    · exact harmless.elim
    · cases same
      exact ⟨now, rfl⟩
    · cases same
  have early := read now (ruled.1.1 _ (List.mem_singleton_self _)).2
  cases runAll_singleton ran with
  | refreshTokenDeleteMany now =>
    by_cases useless : row.revoked = true ∨ row.expiresAt < now
    · exact useless.imp id fun expired => Int.lt_of_lt_of_le expired early
    · refine absurd (mem_deleteWhere.mpr ⟨stored, ?_⟩) gone
      simpa [not_or, and_comm] using useless

/-- A call that is neither changes only what it is entitled to. -/
theorem entitled_of_changed {past : List ServiceEvent}
    (ruled : ledger runtime request past (.execute statements)) (recalls : db.Recalls past)
    (ran : runAll clock db statements = .ok next) {table : Table}
    (changed : ¬table.Keeps db next userId) :
    table ∈ request.tables ∧ (EntitledTo runtime past userId request ∨
      (∃ jwt refreshToken, request = .logout jwt refreshToken) ∨
        request = .cleanupExpiredTokens) := by
  have written := ledger_execute ruled
  constructor
  · by_contra elsewhere
    refine changed (runAll_preserves (fun now => table.Keeps db now userId) ran ?_
      (table.keeps_refl db userId))
    intro statement listed now later keeps carried
    refine keeps.trans (carried.keeps_table ?_ userId)
    rintro rfl
    exact elsewhere (writes_table (written statement listed).2)
  · by_contra stranger
    refine changed (runAll_preserves (fun now => table.Keeps db now userId ∧ now.Recalls past)
      ran ?_ ⟨table.keeps_refl db userId, recalls⟩).1
    rintro statement listed now later ⟨keeps, recalls⟩ carried
    exact ⟨keeps.trans (carried.keeps_account (fun about =>
      stranger (backed_entitled (written statement listed).1 recalls about)) table),
      carried.recalls recalls⟩

/-- An entry changes the rows of an account only when something lets it at them. -/
theorem entry_isolated {entry : ServiceEntry}
    (chronicle : Chronicle (service runtime) regime
      (fun request => conduct (ledger runtime request)) (State.empty clock) world)
    (admissible : Admissible (service runtime) regime
      (fun request => conduct (ledger runtime request)) world entry) {table : Table}
    (changed : ¬table.Keeps entry.before.db entry.after.db userId) :
    table ∈ entry.request.tables ∧ LetAt runtime (world.past entry.thread) entry userId := by
  have performs : environment.Performs entry.before entry.effect entry.reply entry.after :=
    admissible.performs
  have ruled : ledger runtime entry.request (world.past entry.thread) entry.effect :=
    admissible.ruled
  have recalls := chronicle_recalls chronicle entry.thread
  have read : ∀ now, ⟨.now, .ok now⟩ ∈ world.past entry.thread → now ≤ entry.after.clock :=
    fun now past => Int.le_trans (clock_read chronicle past)
      (admissible.current ▸ performs_clock performs)
  rw [← admissible.current] at recalls
  obtain ⟨thread, request, before, effect, reply, after⟩ := entry
  dsimp only [LetAt, Entry.event] at performs ruled recalls read changed ⊢
  rcases performs_db performs with
    same | ⟨statements, event, ran⟩ | ⟨data, event, ran⟩ | ⟨log, same⟩
  · rw [same] at changed
    exact absurd (table.keeps_refl before.db userId) changed
  · obtain rfl := congrArg Event.effect event
    obtain ⟨about, entitled | ⟨jwt, refreshToken, rfl⟩ | rfl⟩ :=
      entitled_of_changed ruled recalls ran changed
    · exact ⟨about, .inl entitled⟩
    · exact ⟨about, .inr (.inr (.inl ⟨jwt, refreshToken, rfl, logout_let ruled ran changed⟩))⟩
    · exact ⟨about, .inr (.inr (.inr ⟨rfl, fun row stored gone =>
        cleanup_let ruled ran read stored gone⟩))⟩
  · have own : before.db.nextId = userId := by
      by_contra other
      exact changed (register_keeps ran other table)
    subst own
    refine ⟨?_, .inr (.inl ⟨data, event⟩)⟩
    obtain rfl := congrArg Event.effect event
    obtain ⟨dto, rfl⟩ := ledger_register ruled
    by_contra elsewhere
    exact changed (register_keeps_table ran elsewhere)
  · rw [same] at changed
    cases table <;> exact absurd rfl changed

end Entries

/-- Accounts are kept apart in every run: whatever calls run together, an entry that changes the
rows of an account in a table was made for a request that is about that table, by a call that is
let at the account. -/
theorem accounts_isolated {runtime : Runtime} {pool : ServicePool}
    (reachable : Reachable (service runtime) .free (State.empty clock) pool)
    {newer older : List ServiceEntry} {entry : ServiceEntry}
    (split : pool.world.history = newer ++ entry :: older) (userId : UserId) (table : Table)
    (changed : ¬table.Keeps entry.before.db entry.after.db userId) :
    table ∈ entry.request.tables ∧
      LetAt runtime (World.past ⟨entry.before, older⟩ entry.thread) entry userId := by
  have chronicle := reachable_chronicle (ledger runtime) reachable fun request _ =>
    serve_ledger runtime request
  obtain ⟨earlier, admissible⟩ := chronicle.admissible split
  exact entry_isolated earlier admissible changed

theorem accounts_isolated_signedIn :
    ∃ newer entry older, (played .lax signedIn).world.history = newer ++ entry :: older ∧
      Table.refreshTokens ∈ entry.request.tables ∧
        LetAt legibleRuntime (World.past ⟨entry.before, older⟩ entry.thread) entry 0 := by
  obtain ⟨entry, member, changed⟩ : ∃ entry ∈ (played .lax signedIn).world.history,
      ¬entry.after.db.refreshTokens.filter (·.userId == 0) =
        entry.before.db.refreshTokens.filter (·.userId == 0) := by
    decide
  obtain ⟨newer, older, split⟩ := List.append_of_mem member
  exact ⟨newer, entry, older, split, accounts_isolated
    (played_reachable Referee.lax_upholds signedIn) split 0 .refreshTokens changed⟩

end GraconAuth
