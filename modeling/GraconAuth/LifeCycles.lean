/-
This file proves that the service takes nothing back. In every run the tables at any later
moment hold what they held before: an account keeps its id, its proof of identity and its
count of attempts, an identity, a platform id, an attempt or a line of the log stays as it
was written, a link stays its account's and a reset link that is used stays used. Only
refresh tokens leave their table, and only for the daily task, which throws away no token
that is still good. Only a new address locks an account.
-/

import GraconAuth.Growth
import GraconAuth.Isolation
import GraconAuth.OwnedEmail

namespace GraconAuth

open Interleaving Program Rows

variable {clock : Timestamp} {db next : Database} {statement : Statement}

/-! ### What a row may become -/

/-- What became of an account: it is the same one and has lost nothing. -/
structure UserRow.Develops (old row : UserRow) : Prop where
  id : row.id = old.id
  createdAt : row.createdAt = old.createdAt
  identified : old.isIdVerified = true → row.isIdVerified = true
  timed : old.idVerifiedAt.isSome = true → row.idVerifiedAt.isSome = true
  phone : old.phoneNumber.isSome = true → row.phoneNumber.isSome = true
  image : old.imageUrl.isSome = true → row.imageUrl.isSome = true
  attempts : old.verificationAttempts ≤ row.verificationAttempts

theorem UserRow.develops_refl (row : UserRow) : row.Develops row :=
  ⟨rfl, rfl, fun proven => proven, fun timed => timed, fun given => given, fun given => given,
    Nat.le_refl _⟩

theorem UserRow.Develops.trans {first second third : UserRow} (earlier : first.Develops second)
    (later : second.Develops third) : first.Develops third where
  id := later.id.trans earlier.id
  createdAt := later.createdAt.trans earlier.createdAt
  identified := later.identified ∘ earlier.identified
  timed := later.timed ∘ earlier.timed
  phone := later.phone ∘ earlier.phone
  image := later.image ∘ earlier.image
  attempts := Nat.le_trans earlier.attempts later.attempts

/-- What became of a link: it is the same account's. A resend gives it a new token. -/
structure EmailVerificationTokenRow.Stays (old row : EmailVerificationTokenRow) : Prop where
  id : row.id = old.id
  userId : row.userId = old.userId

theorem EmailVerificationTokenRow.stays_refl (row : EmailVerificationTokenRow) : row.Stays row :=
  ⟨rfl, rfl⟩

/-- What became of a reset link: it is the same one, and used if it was. -/
structure PasswordResetTokenRow.Ages (old row : PasswordResetTokenRow) : Prop where
  id : row.id = old.id
  userId : row.userId = old.userId
  tokenHash : row.tokenHash = old.tokenHash
  expiresAt : row.expiresAt = old.expiresAt
  used : old.used = true → row.used = true

theorem PasswordResetTokenRow.ages_refl (row : PasswordResetTokenRow) : row.Ages row :=
  ⟨rfl, rfl, rfl, rfl, fun used => used⟩

theorem PasswordResetTokenRow.Ages.trans {first second third : PasswordResetTokenRow}
    (earlier : first.Ages second) (later : second.Ages third) : first.Ages third :=
  ⟨later.id.trans earlier.id, later.userId.trans earlier.userId,
    later.tokenHash.trans earlier.tokenHash, later.expiresAt.trans earlier.expiresAt,
    later.used ∘ earlier.used⟩

/-! ### What the tables may become -/

/-- What became of the tables. Rows stay at their places and new ones come after them with new
ids; refresh tokens alone may leave. -/
structure Database.Develops (old db : Database) : Prop where
  counter : old.nextId ≤ db.nextId
  users : Grows UserRow.Develops (·.id) old.nextId old.users db.users
  identities : old.citizenIdentities <+: db.citizenIdentities
  platformIds : old.platformIds <+: db.platformIds
  links : Grows EmailVerificationTokenRow.Stays (·.id) old.nextId
    old.emailVerificationTokens db.emailVerificationTokens
  resets : Grows PasswordResetTokenRow.Ages (·.id) old.nextId
    old.passwordResetTokens db.passwordResetTokens
  attempts : old.idVerifications <+: db.idVerifications
  events : old.securityEventLog <+: db.securityEventLog
  tokens : ∀ row ∈ db.refreshTokens,
    (∃ before ∈ old.refreshTokens, before.Continues row) ∨ old.nextId ≤ row.id

theorem Database.develops_refl (db : Database) : db.Develops db where
  counter := Nat.le_refl _
  users := Grows.refl UserRow.develops_refl
  identities := List.prefix_refl _
  platformIds := List.prefix_refl _
  links := Grows.refl EmailVerificationTokenRow.stays_refl
  resets := Grows.refl PasswordResetTokenRow.ages_refl
  attempts := List.prefix_refl _
  events := List.prefix_refl _
  tokens row stored := .inl ⟨row, stored, row.continues_refl⟩

theorem Database.Develops.trans {first second third : Database} (earlier : first.Develops second)
    (later : second.Develops third) : first.Develops third where
  counter := Nat.le_trans earlier.counter later.counter
  users := earlier.users.trans earlier.counter (fun _ _ _ => UserRow.Develops.trans)
    (fun _ _ develops => develops.id) later.users
  identities := earlier.identities.trans later.identities
  platformIds := earlier.platformIds.trans later.platformIds
  links := earlier.links.trans earlier.counter
    (fun _ _ _ before after => ⟨after.id.trans before.id, after.userId.trans before.userId⟩)
    (fun _ _ stays => stays.id) later.links
  resets := earlier.resets.trans earlier.counter (fun _ _ _ => PasswordResetTokenRow.Ages.trans)
    (fun _ _ ages => ages.id) later.resets
  attempts := earlier.attempts.trans later.attempts
  events := earlier.events.trans later.events
  tokens row stored := by
    rcases later.tokens row stored with ⟨between, there, continues⟩ | new
    · rcases earlier.tokens between there with ⟨before, held, started⟩ | new
      · exact .inl ⟨before, held, started.trans continues⟩
      · exact .inr (continues.id ▸ new)
    · exact .inr (Nat.le_trans earlier.counter new)

/-! ### One step -/

/-- What a request writes to an account takes nothing from it. -/
theorem writes_develops {request : Request} {id : UserId} {data : UserUpdate}
    (writes : request.Writes (.userUpdate id data)) (row : UserRow) (clock : Timestamp) :
    row.Develops (row.apply data clock) := by
  cases request with
  | verifyEmail dto =>
    obtain ⟨_, rfl⟩ := writes
    constructor <;> simp [UserRow.apply]
  | resetPassword dto =>
    obtain ⟨_, _, rfl⟩ := writes
    constructor <;> simp [UserRow.apply]
  | updateProfile jwt dto =>
    obtain ⟨_, rfl⟩ := writes
    constructor <;> simp +contextual [UserRow.apply, UsersService.UpdateProfileDto.updateData,
      Option.isSome_or]
  | changePassword jwt dto =>
    obtain ⟨_, rfl⟩ := writes
    constructor <;> simp [UserRow.apply]
  | submitVerification jwt dto ipAddress =>
    rcases writes with rfl | ⟨_, rfl⟩
    · constructor <;> simp [UserRow.apply]
    · constructor <;> simp [UserRow.apply]
  | _ => exact writes.elim

theorem Carried.develops (carried : Carried clock db statement next) {request : Request}
    (writes : request.Writes statement) : db.Develops next := by
  have same := db.develops_refl
  have grown : db.nextId ≤ db.nextId + 1 := Nat.le_succ _
  have tokens : ∀ row ∈ next.refreshTokens,
      (∃ before ∈ db.refreshTokens, before.Continues row) ∨ db.nextId ≤ row.id := by
    intro row stored
    rcases carried.refreshTokens stored with old | ⟨data, _, rfl⟩
    · exact .inl old
    · exact .inr (Nat.le_refl _)
  cases carried with
  | userUpdate id data present free =>
    exact { same with
      users := Grows.updateWhere UserRow.develops_refl fun row => writes_develops writes row clock }
  | refreshTokenUpdate id present => exact { same with tokens }
  | refreshTokenUpdateMany filter => exact { same with tokens }
  | refreshTokenCreate data free => exact { same with counter := grown, tokens }
  | refreshTokenDeleteMany now => exact { same with tokens }
  | emailVerificationTokenUpdate id present =>
    exact { same with
      links := Grows.updateWhere EmailVerificationTokenRow.stays_refl fun _ => ⟨rfl, rfl⟩ }
  | emailVerificationTokenUpsert userId tokenHash expiresAt createdAt =>
    exact { same with
      counter := grown
      links := Grows.upsertWhere EmailVerificationTokenRow.stays_refl (fun _ => ⟨rfl, rfl⟩)
        (Nat.le_refl _) }
  | passwordResetTokenUpdateMany userId | passwordResetTokenUpdate id present =>
    exact { same with
      resets := Grows.updateWhere PasswordResetTokenRow.ages_refl
        fun _ => ⟨rfl, rfl, rfl, rfl, fun _ => rfl⟩ }
  | passwordResetTokenCreate data =>
    exact { same with
      counter := grown
      resets := Grows.append PasswordResetTokenRow.ages_refl (Nat.le_refl _) }
  | idVerificationCreate data row stored =>
    exact { same with counter := grown, attempts := List.prefix_append _ _ }

theorem register_develops {data : RegistrationCreate} (ran : db.register clock data = .ok next) :
    db.Develops next := by
  have same := db.develops_refl
  unfold Database.register at ran
  split at ran
  · cases ran
  · cases ran
    exact { same with
      counter := Nat.le_add_right _ _
      users := Grows.append UserRow.develops_refl (Nat.le_refl _)
      identities := List.prefix_append _ _
      platformIds := List.prefix_append _ _
      links := Grows.append EmailVerificationTokenRow.stays_refl (Nat.le_add_right _ _) }

/-- Of a token that a statement does not throw away something stays stored. -/
theorem Carried.tokens_grow (carried : Carried clock db statement next)
    (other : ∀ now, statement ≠ .refreshTokenDeleteMany now) :
    Grows RefreshTokenRow.Continues (·.id) db.nextId db.refreshTokens next.refreshTokens := by
  have unchanged : ∀ row : RefreshTokenRow, row.Continues row := RefreshTokenRow.continues_refl
  cases carried with
  | refreshTokenUpdate id present =>
    exact Grows.updateWhere unchanged RefreshTokenRow.continues_revoke
  | refreshTokenUpdateMany filter =>
    exact Grows.updateWhere unchanged RefreshTokenRow.continues_revoke
  | refreshTokenCreate data free => exact Grows.append unchanged (Nat.le_refl _)
  | refreshTokenDeleteMany now => exact absurd rfl (other now)
  | _ => exact Grows.refl unchanged

/-- An account that is active stays so under what does not lock it. -/
theorem Carried.keeps_active (carried : Carried clock db statement next) {userId : UserId}
    (unlocked : ∀ data, statement = .userUpdate userId data → data.isActive ≠ some false)
    (active : ∃ row ∈ db.users, row.id = userId ∧ row.isActive = true) :
    ∃ row ∈ next.users, row.id = userId ∧ row.isActive = true := by
  cases carried with
  | userUpdate id data present free =>
    obtain ⟨row, stored, same, active⟩ := active
    refine ⟨_, mem_updateWhere.mpr ⟨row, stored, rfl⟩, ?_⟩
    split
    · rename_i matched
      obtain rfl : id = userId := (beq_iff_eq.mp matched).symm.trans same
      refine ⟨same, ?_⟩
      rw [apply_isActive]
      cases given : data.isActive with
      | none => exact active
      | some value =>
        cases value with
        | false => exact absurd given (unlocked data rfl)
        | true => rfl
    · exact ⟨same, active⟩
  | _ => exact active

/-- Only an update of the profile that writes a new address locks an account. -/
theorem locks_readdresses {request : Request} {id : UserId} {data : UserUpdate}
    (writes : request.Writes (.userUpdate id data)) (locks : data.isActive = some false) :
    (∃ jwt dto, request = .updateProfile jwt dto) ∧ data.email.isSome = true := by
  cases request with
  | updateProfile jwt dto =>
    obtain ⟨email, rfl⟩ := writes
    cases email with
    | none => cases locks
    | some email => exact ⟨⟨jwt, dto, rfl⟩, rfl⟩
  | verifyEmail dto =>
    obtain ⟨_, rfl⟩ := writes
    cases locks
  | resetPassword dto =>
    obtain ⟨_, _, rfl⟩ := writes
    cases locks
  | changePassword jwt dto =>
    obtain ⟨_, rfl⟩ := writes
    cases locks
  | submitVerification jwt dto ipAddress =>
    rcases writes with rfl | ⟨_, rfl⟩ <;> cases locks
  | _ => exact writes.elim

/-! ### The entries of a run -/

/-- An entry throws a token away: it is the daily task's, and the token is revoked or out of
date. -/
def ThrowsAway (entry : ServiceEntry) (row : RefreshTokenRow) : Prop :=
  entry.request = .cleanupExpiredTokens ∧ ∃ swept ∈ entry.before.db.refreshTokens,
    row.Continues swept ∧ (swept.revoked = true ∨ swept.expiresAt < entry.after.clock)

/-- An entry locks an account: an update of the profile writes a new address to it. -/
def Locks (entry : ServiceEntry) (userId : UserId) : Prop :=
  (∃ jwt dto, entry.request = .updateProfile jwt dto) ∧ Readdresses entry userId

section Entries

variable {runtime : Runtime} {regime : Regime State Effect.Reply Failure Request}
  {world : ServiceWorld} {entry : ServiceEntry}
  (admissible : Admissible (service runtime) regime
    (fun request => conduct (ledger runtime request)) world entry)

include admissible

/-- Whatever an entry does, it takes nothing back. -/
theorem entry_develops : entry.before.db.Develops entry.after.db := by
  have performs : environment.Performs entry.before entry.effect entry.reply entry.after :=
    admissible.performs
  have ruled : ledger runtime entry.request (world.past entry.thread) entry.effect :=
    admissible.ruled
  obtain ⟨thread, request, before, effect, reply, after⟩ := entry
  dsimp only at performs ruled ⊢
  obtain ⟨elapsed, change⟩ := performs_change performs
  generalize same : (⟨effect, reply⟩ : ServiceEvent) = event at change
  cases change with
  | executed statements db ran =>
    obtain rfl := congrArg Event.effect same
    refine runAll_preserves (fun now => before.db.Develops now) ran ?_ before.db.develops_refl
    intro statement listed now later develops carried
    exact develops.trans (carried.develops (ledger_execute ruled statement listed).2)
  | registered data db ran => exact register_develops ran
  | logged eventType userId ipAddress =>
    have nothing := before.db.develops_refl
    exact { nothing with counter := Nat.le_succ _, events := List.prefix_append _ _ }
  | _ => exact before.db.develops_refl

/-- A token stays stored unless the daily task throws it away. -/
theorem entry_keeps_token
    (chronicle : Chronicle (service runtime) regime
      (fun request => conduct (ledger runtime request)) (State.empty clock) world)
    {row : RefreshTokenRow} (held : ∃ now ∈ entry.before.db.refreshTokens, row.Continues now) :
    (∃ now ∈ entry.after.db.refreshTokens, row.Continues now) ∨ ThrowsAway entry row := by
  have performs : environment.Performs entry.before entry.effect entry.reply entry.after :=
    admissible.performs
  have ruled : ledger runtime entry.request (world.past entry.thread) entry.effect :=
    admissible.ruled
  have read : ∀ now, ⟨.now, .ok now⟩ ∈ world.past entry.thread → now ≤ entry.after.clock :=
    fun now past => Int.le_trans (clock_read chronicle past)
      (admissible.current ▸ performs_clock performs)
  obtain ⟨thread, request, before, effect, reply, after⟩ := entry
  dsimp only [ThrowsAway] at performs ruled read held ⊢
  rcases performs_db performs with
    same | ⟨statements, event, ran⟩ | ⟨data, event, ran⟩ | ⟨log, same⟩
  · exact .inl (same ▸ held)
  · obtain rfl := congrArg Event.effect event
    have written := ledger_execute ruled
    by_cases sweeps : ∃ now, .refreshTokenDeleteMany now ∈ statements
    · obtain ⟨now, listed⟩ := sweeps
      obtain rfl : request = .cleanupExpiredTokens := (written _ listed).1.1
      obtain ⟨swept, stored, continues⟩ := held
      by_cases kept : swept ∈ after.db.refreshTokens
      · exact .inl ⟨swept, kept, continues⟩
      · exact .inr ⟨rfl, swept, stored, continues, cleanup_let ruled ran read stored kept⟩
    · refine .inl (runAll_preserves (fun db => ∃ now ∈ db.refreshTokens, row.Continues now) ran
        ?_ held)
      rintro statement listed now later ⟨kept, stored, continues⟩ carried
      obtain ⟨next, there, became⟩ := (carried.tokens_grow fun time same =>
        sweeps ⟨time, same ▸ listed⟩).lasts stored
      exact ⟨next, there, continues.trans became⟩
  · obtain ⟨_, _, tokens, _⟩ := register_tables ran
    exact .inl (tokens ▸ held)
  · rw [same]
    exact .inl held

/-- An active account stays active unless it is given a new address. -/
theorem entry_keeps_active {userId : UserId}
    (active : ∃ row ∈ entry.before.db.users, row.id = userId ∧ row.isActive = true) :
    (∃ row ∈ entry.after.db.users, row.id = userId ∧ row.isActive = true) ∨
      Locks entry userId := by
  have performs : environment.Performs entry.before entry.effect entry.reply entry.after :=
    admissible.performs
  have ruled : ledger runtime entry.request (world.past entry.thread) entry.effect :=
    admissible.ruled
  obtain ⟨thread, request, before, effect, reply, after⟩ := entry
  dsimp only [Locks, Readdresses, Entry.event] at performs ruled active ⊢
  rcases performs_db performs with
    same | ⟨statements, event, ran⟩ | ⟨data, event, ran⟩ | ⟨log, same⟩
  · exact .inl (same ▸ active)
  · rw [event]
    obtain rfl := congrArg Event.effect event
    have written := ledger_execute ruled
    by_cases locks : ∃ data, .userUpdate userId data ∈ statements ∧ data.isActive = some false
    · obtain ⟨data, listed, locked⟩ := locks
      obtain ⟨updates, readdressed⟩ := locks_readdresses (written _ listed).2 locked
      exact .inr ⟨updates, _, listed, by simp [Statement.readdresses, readdressed]⟩
    · refine .inl (runAll_preserves
        (fun db => ∃ row ∈ db.users, row.id = userId ∧ row.isActive = true) ran ?_ active)
      intro statement listed now later kept carried
      exact carried.keeps_active (fun data same locked => locks ⟨data, same ▸ listed, locked⟩) kept
  · obtain ⟨_, ⟨user, users, _⟩, _⟩ := register_tables ran
    obtain ⟨row, stored, kept⟩ := active
    exact .inl ⟨row, users ▸ List.mem_append_left _ stored, kept⟩
  · rw [same]
    exact .inl active

end Entries

/-! ### The runs -/

/-- **Nothing is taken back.** Whatever calls run together, what the tables held before an entry
they hold at any later time. A refresh token is gone only when the daily task has thrown it away,
revoked or out of date; an active account is locked only when an update of the profile has given it
a new address. -/
theorem nothing_taken_back {runtime : Runtime} {pool : ServicePool}
    (reachable : Reachable (service runtime) .free (State.empty clock) pool)
    {newer older : List ServiceEntry} {entry : ServiceEntry}
    (split : pool.world.history = newer ++ entry :: older) :
    entry.before.db.Develops pool.world.state.db ∧
      (∀ row ∈ entry.before.db.refreshTokens,
        (∃ now ∈ pool.world.state.db.refreshTokens, row.Continues now) ∨
          ∃ sweep ∈ newer ++ [entry], ThrowsAway sweep row) ∧
      ∀ row ∈ entry.before.db.users, row.isActive = true →
        (∃ now ∈ pool.world.state.db.users, now.id = row.id ∧ now.isActive = true) ∨
          ∃ change ∈ newer ++ [entry], Locks change row.id := by
  have chronicle := reachable_chronicle (ledger runtime) reachable fun request _ =>
    serve_ledger runtime request
  refine ⟨?_, fun row stored => ?_, fun row stored active => ?_⟩
  · refine (chronicle.outlasts split (fun state => entry.before.db.Develops state.db)
      (fun _ => False) (fun world later _ admissible develops => ?_)
      entry.before.db.develops_refl).resolve_right (fun ⟨_, _, never⟩ => never)
    exact .inl (develops.trans (entry_develops admissible))
  · exact chronicle.outlasts split
      (fun state => ∃ now ∈ state.db.refreshTokens, row.Continues now) (ThrowsAway · row)
      (fun world later earlier admissible => entry_keeps_token admissible earlier)
      ⟨row, stored, row.continues_refl⟩
  · exact chronicle.outlasts split
      (fun state => ∃ now ∈ state.db.users, now.id = row.id ∧ now.isActive = true)
      (Locks · row.id)
      (fun world later earlier admissible => entry_keeps_active admissible)
      ⟨row, stored, rfl, active⟩

/-- The foreigner's session, from the moment it is stored. -/
theorem nothing_taken_back_signedIn :
    ∃ newer entry older, (played .lax signedIn).world.history = newer ++ entry :: older ∧
      entry.before.db.refreshTokens ≠ [] ∧
      entry.before.db.Develops (played .lax signedIn).world.state.db ∧
      ∀ row ∈ entry.before.db.refreshTokens,
        (∃ now ∈ (played .lax signedIn).world.state.db.refreshTokens, row.Continues now) ∨
          ∃ sweep ∈ newer ++ [entry], ThrowsAway sweep row := by
  obtain ⟨entry, member, stored⟩ : ∃ entry ∈ (played .lax signedIn).world.history,
      entry.before.db.refreshTokens ≠ [] := by
    decide +kernel
  obtain ⟨newer, older, split⟩ := List.append_of_mem member
  obtain ⟨develops, tokens, _⟩ :=
    nothing_taken_back (played_reachable Referee.lax_upholds signedIn) split
  exact ⟨newer, entry, older, split, stored, develops, tokens⟩

end GraconAuth
