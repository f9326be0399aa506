/-
This file proves that the tables hang together in every state that the service
reaches: what has to be unique is unique, every account has its identity, its
platform id and its one verification link, every other row belongs to an account
that is there, and the columns of a row agree with one another. The database
promises the unique columns only; the rest is the work of the calls, which write
rows for accounts that they have read.
-/

import GraconAuth.Entitlement
import GraconAuth.StoredIdentity

namespace GraconAuth

open Interleaving Program Rows
open UsersService (RegisterDto RegistrationIdentityRecord)

/-! ### Sound tables -/

/-- The ids of the accounts. -/
def Database.accounts (db : Database) : List UserId := db.users.map (·.id)

/-- An account is active once its address is verified, and its identity has been verified at some
time or not at all. -/
structure UserRow.Coherent (row : UserRow) : Prop where
  active : row.isActive = row.isVerified
  identified : row.idVerifiedAt.isSome = row.isIdVerified

/-- The columns of an identity are those of its type. -/
def CitizenIdentityRow.Coherent (row : CitizenIdentityRow) : Prop :=
  match row.identityType with
  | .NID => row.nidEncrypted.isSome ∧ row.nidHash.isSome ∧ row.finEncrypted = none ∧
    row.finHash = none
  | .FIN => row.finEncrypted.isSome ∧ row.finHash.isSome ∧ row.nidEncrypted = none ∧
    row.nidHash = none

/-- The tables hang together. -/
structure Database.Sound (db : Database) : Prop where
  emails : (db.users.map (·.email)).Nodup
  users : ∀ row ∈ db.users, row.Coherent
  identityOwners : db.citizenIdentities.map (·.userId) = db.accounts
  identities : ∀ row ∈ db.citizenIdentities, row.Coherent
  nidHashes : (db.citizenIdentities.filterMap (·.nidHash)).Nodup
  finHashes : (db.citizenIdentities.filterMap (·.finHash)).Nodup
  platformOwners : db.platformIds.map (·.userId) = db.accounts
  pidHashes : (db.platformIds.map (·.pidHash)).Nodup
  linkOwners : db.emailVerificationTokens.map (·.userId) = db.accounts
  links : Keyed db.nextId (db.emailVerificationTokens.map (·.id))
  tokenOwners : ∀ row ∈ db.refreshTokens, row.userId ∈ db.accounts
  resetOwners : ∀ row ∈ db.passwordResetTokens, row.userId ∈ db.accounts
  attemptOwners : ∀ row ∈ db.idVerifications, row.userId ∈ db.accounts

variable {clock : Timestamp} {db next : Database} {statement : Statement}

/-- The account that a statement adds a row to. -/
def Statement.owner : Statement → Option UserId
  | .refreshTokenCreate data => some data.userId
  | .emailVerificationTokenUpsert userId _ _ _ => some userId
  | .passwordResetTokenCreate data => some data.userId
  | .idVerificationCreate data => some data.userId
  | _ => none

/-- What an update writes into the columns of an account agrees. -/
structure UserUpdate.Coherent (data : UserUpdate) : Prop where
  active : data.isActive = data.isVerified
  identified : data.isIdVerified = none ∧ data.idVerifiedAt = none ∨
    data.isIdVerified = some true ∧ data.idVerifiedAt.isSome = true

theorem UserRow.Coherent.apply {row : UserRow} {data : UserUpdate} (coherent : row.Coherent)
    (agrees : data.Coherent) (clock : Timestamp) : (row.apply data clock).Coherent := by
  refine ⟨?_, ?_⟩
  · rw [apply_isActive, apply_isVerified, agrees.active, coherent.active]
  · rw [apply_isIdVerified]
    rcases agrees.identified with ⟨unset, untimed⟩ | ⟨set, timed⟩
    · simpa [UserRow.apply, unset, untimed] using coherent.identified
    · simp [UserRow.apply, set, Option.isSome_or, timed]

/-- No statement adds or removes an account. -/
theorem Carried.accounts (carried : Carried clock db statement next) :
    next.accounts = db.accounts := by
  cases carried with
  | userUpdate id data present free =>
    have kept : ∀ row : UserRow, (row.apply data clock).id = row.id := fun _ => rfl
    exact map_updateWhere kept _
  | _ => rfl

/-- An address is unique as long as it is. -/
theorem Carried.emails (carried : Carried clock db statement next) (keyed : db.accounts.Nodup)
    (emails : (db.users.map (·.email)).Nodup) : (next.users.map (·.email)).Nodup := by
  cases carried with
  | userUpdate id data present free =>
    cases given : data.email with
    | none =>
      have kept : ∀ row : UserRow, (row.apply data clock).email = row.email := fun row => by
        rw [apply_email, given, Option.getD_none]
      simpa only [map_updateWhere kept] using emails
    | some email =>
      exact nodup_map_updateWhere keyed emails (fun row => by
        rw [apply_email, given, Option.getD_some]) (free email given)
  | _ => exact emails

/-- What a statement writes agrees. -/
def Statement.Coherent : Statement → Prop
  | .userUpdate _ data => data.Coherent
  | _ => True

theorem Carried.users (carried : Carried clock db statement next) (coherent : statement.Coherent)
    (users : ∀ row ∈ db.users, row.Coherent) : ∀ row ∈ next.users, row.Coherent := by
  cases carried with
  | userUpdate id data present free =>
    intro row member
    obtain ⟨old, stored, rfl⟩ := mem_updateWhere.mp member
    split
    · exact (users old stored).apply coherent clock
    · exact users old stored
  | _ => exact users

theorem Carried.linkOwners (carried : Carried clock db statement next)
    (known : ∀ owner ∈ statement.owner, owner ∈ db.accounts)
    (owners : db.emailVerificationTokens.map (·.userId) = db.accounts) :
    next.emailVerificationTokens.map (·.userId) = db.accounts := by
  cases carried with
  | emailVerificationTokenUpdate id present =>
    have kept : ∀ row : EmailVerificationTokenRow,
        ({ row with used := true } : EmailVerificationTokenRow).userId = row.userId := fun _ => rfl
    simpa only [map_updateWhere kept] using owners
  | emailVerificationTokenUpsert userId tokenHash expiresAt createdAt =>
    have kept : ∀ row : EmailVerificationTokenRow, ({ row with
        tokenHash, expiresAt, used := false, createdAt } : EmailVerificationTokenRow).userId =
          row.userId := fun _ => rfl
    have present : db.emailVerificationTokens.any (fun row => row.userId == userId) = true := by
      have owned : userId ∈ db.emailVerificationTokens.map (·.userId) := by
        rw [owners]
        exact known userId rfl
      obtain ⟨row, stored, same⟩ := List.mem_map.mp owned
      exact List.any_eq_true.mpr ⟨row, stored, beq_iff_eq.mpr same⟩
    simpa only [upsertWhere, if_pos present, map_updateWhere kept] using owners
  | _ => exact owners

theorem Carried.links (carried : Carried clock db statement next)
    (links : Keyed db.nextId (db.emailVerificationTokens.map (·.id))) :
    Keyed next.nextId (next.emailVerificationTokens.map (·.id)) := by
  have grown : db.nextId ≤ db.nextId + 1 := Nat.le_succ _
  cases carried with
  | emailVerificationTokenUpdate id present => exact links.updateWhere fun _ => rfl
  | emailVerificationTokenUpsert userId tokenHash expiresAt createdAt =>
    dsimp only [upsertWhere]
    split
    · exact (links.grow grown).updateWhere fun _ => rfl
    · rw [List.map_append]
      exact links.append (Nat.le_refl _) (Nat.lt_succ_self _)
  | refreshTokenCreate data free => exact links.grow grown
  | passwordResetTokenCreate data => exact links.grow grown
  | idVerificationCreate data row stored => exact links.grow grown
  | _ => exact links

/-- A row that belongs to an account was there before, or its statement has named the account. -/
theorem Carried.tokenOwners (carried : Carried clock db statement next)
    (known : ∀ owner ∈ statement.owner, owner ∈ db.accounts)
    (owners : ∀ row ∈ db.refreshTokens, row.userId ∈ db.accounts) :
    ∀ row ∈ next.refreshTokens, row.userId ∈ db.accounts := by
  intro row member
  rcases carried.refreshTokens member with ⟨old, stored, continues⟩ | ⟨data, rfl, rfl⟩
  · rw [continues.userId]
    exact owners old stored
  · exact known _ rfl

theorem Carried.resetOwners (carried : Carried clock db statement next)
    (known : ∀ owner ∈ statement.owner, owner ∈ db.accounts)
    (owners : ∀ row ∈ db.passwordResetTokens, row.userId ∈ db.accounts) :
    ∀ row ∈ next.passwordResetTokens, row.userId ∈ db.accounts := by
  intro row member
  cases carried with
  | passwordResetTokenUpdateMany userId | passwordResetTokenUpdate id present =>
    obtain ⟨old, stored, rfl⟩ := mem_updateWhere.mp member
    split <;> exact owners old stored
  | passwordResetTokenCreate data =>
    rcases List.mem_append.mp member with old | new
    · exact owners row old
    · rw [List.mem_singleton.mp new]
      exact known _ rfl
  | _ => exact owners row member

theorem Carried.attemptOwners (carried : Carried clock db statement next)
    (known : ∀ owner ∈ statement.owner, owner ∈ db.accounts)
    (owners : ∀ row ∈ db.idVerifications, row.userId ∈ db.accounts) :
    ∀ row ∈ next.idVerifications, row.userId ∈ db.accounts := by
  intro row member
  cases carried with
  | idVerificationCreate data fresh stored =>
    rcases List.mem_append.mp member with old | new
    · exact owners row old
    · rw [List.mem_singleton.mp new, stored.2.1]
      exact known _ rfl
  | _ => exact owners row member

/-- A statement that names only accounts that are there, and whose columns agree, leaves sound
tables sound. -/
theorem Carried.sound (carried : Carried clock db statement next)
    (known : ∀ owner ∈ statement.owner, owner ∈ db.accounts) (coherent : statement.Coherent)
    (keyed : db.accounts.Nodup) (sound : db.Sound) : next.Sound := by
  have identities : next.citizenIdentities = db.citizenIdentities := by cases carried <;> rfl
  have platformIds : next.platformIds = db.platformIds := by cases carried <;> rfl
  have accounts := carried.accounts
  exact {
    emails := carried.emails keyed sound.emails
    users := carried.users coherent sound.users
    identityOwners := by rw [identities, accounts, sound.identityOwners]
    identities := by rw [identities]; exact sound.identities
    nidHashes := by rw [identities]; exact sound.nidHashes
    finHashes := by rw [identities]; exact sound.finHashes
    platformOwners := by rw [platformIds, accounts, sound.platformOwners]
    pidHashes := by rw [platformIds]; exact sound.pidHashes
    linkOwners := by rw [accounts]; exact carried.linkOwners known sound.linkOwners
    links := carried.links sound.links
    tokenOwners := by rw [accounts]; exact carried.tokenOwners known sound.tokenOwners
    resetOwners := by rw [accounts]; exact carried.resetOwners known sound.resetOwners
    attemptOwners := by rw [accounts]; exact carried.attemptOwners known sound.attemptOwners }

/-! ### A registration -/

/-- What a registration writes agrees. -/
structure RegistrationCreate.Coherent (data : RegistrationCreate) : Prop where
  identified : data.idVerifiedAt.isSome = data.isIdVerified
  identity : ∀ id userId, (data.identity id userId).Coherent

theorem draft_coherent (runtime : Runtime) (dto : RegisterDto)
    (identity : RegistrationIdentityRecord) (salt iv pidIv digits : String) (rawToken : RawToken)
    (now : Timestamp) :
    (dto.draft runtime identity salt iv pidIv digits rawToken now).Coherent := by
  refine ⟨?_, fun id userId => ?_⟩
  · by_cases foreign : identity.identityType = .FIN <;> simp [RegisterDto.draft, foreign]
  · cases kind : identity.identityType <;>
      simp [RegisterDto.draft, RegistrationCreate.identity, CitizenIdentityRow.Coherent, kind]

/-- A column that may be empty keeps its values apart when a new one clashes with none of them. -/
theorem nodup_filterMap_concat {Row : Type} {column : Row → Option String} {rows : List Row}
    (distinct : (rows.filterMap column).Nodup) {row : Row}
    (free : rows.any (fun other => clashes (column other) (column row)) = false) :
    ((rows ++ [row]).filterMap column).Nodup := by
  rw [List.filterMap_append]
  refine List.nodup_append.mpr ⟨distinct, ?_, ?_⟩
  · cases held : column row <;> simp [held]
  · intro value member other single same
    subst same
    obtain ⟨holder, stored, held⟩ := List.mem_filterMap.mp member
    obtain ⟨newcomer, sole, taken⟩ := List.mem_filterMap.mp single
    obtain rfl := List.mem_singleton.mp sole
    have apart := List.any_eq_false.mp free holder stored
    simp [held, taken, clashes] at apart

theorem nodup_map_concat {Row Column : Type} [BEq Column] [LawfulBEq Column]
    {column : Row → Column} {rows : List Row} (distinct : (rows.map column).Nodup) {row : Row}
    (free : rows.any (fun other => column other == column row) = false) :
    ((rows ++ [row]).map column).Nodup := by
  rw [List.map_append]
  refine List.nodup_append.mpr ⟨distinct, List.nodup_singleton _, ?_⟩
  intro value member other single same
  obtain rfl := List.mem_singleton.mp single
  obtain ⟨holder, stored, rfl⟩ := List.mem_map.mp member
  exact List.any_eq_false.mp free holder stored (beq_iff_eq.mpr same)

theorem register_accounts {data : RegistrationCreate} (ran : db.register clock data = .ok next) :
    next.accounts = db.accounts ++ [db.nextId] := by
  obtain ⟨_, ⟨user, users, same, _⟩, _⟩ := register_tables ran
  rw [Database.accounts, users, List.map_append, List.map_singleton, same]
  rfl

/-- A registration adds one account with all that belongs to it. -/
theorem register_sound {data : RegistrationCreate} (coherent : data.Coherent)
    (ran : db.register clock data = .ok next) (sound : db.Sound) : next.Sound := by
  have accounts := register_accounts ran
  have grown : ∀ userId ∈ db.accounts, userId ∈ next.accounts := fun _ known => by
    rw [accounts]
    exact List.mem_append_left _ known
  unfold Database.register at ran
  split at ran
  · cases ran
  · rename_i free
    simp only [Bool.or_eq_true, not_or, Bool.not_eq_true] at free
    obtain ⟨⟨⟨emailFree, nidFree⟩, finFree⟩, pidFree⟩ := free
    cases ran
    exact {
      emails := nodup_map_concat sound.emails emailFree
      users := List.forall_mem_append.mpr ⟨sound.users, List.forall_mem_singleton.mpr
        ⟨rfl, coherent.identified⟩⟩
      identityOwners := by rw [accounts, List.map_append, sound.identityOwners]; rfl
      identities := List.forall_mem_append.mpr ⟨sound.identities, List.forall_mem_singleton.mpr
        (coherent.identity (db.nextId + 1) db.nextId)⟩
      nidHashes := nodup_filterMap_concat sound.nidHashes nidFree
      finHashes := nodup_filterMap_concat sound.finHashes finFree
      platformOwners := by rw [accounts, List.map_append, sound.platformOwners]; rfl
      pidHashes := nodup_map_concat sound.pidHashes pidFree
      linkOwners := by rw [accounts, List.map_append, sound.linkOwners]; rfl
      links := by
        rw [List.map_append]
        exact sound.links.append (Nat.le_add_right _ _) (Nat.lt_succ_self _)
      tokenOwners := fun row member => grown _ (sound.tokenOwners row member)
      resetOwners := fun row member => grown _ (sound.resetOwners row member)
      attemptOwners := fun row member => grown _ (sound.attemptOwners row member) }

/-! ### The calls -/

/-- What a request writes agrees. -/
theorem writes_coherent {request : Request} (writes : request.Writes statement) :
    statement.Coherent := by
  cases statement with
  | userUpdate id data =>
    refine ⟨(writes_flags writes).1, ?_⟩
    cases request with
    | submitVerification jwt dto ipAddress =>
      rcases writes with rfl | ⟨now, rfl⟩
      · exact .inl ⟨rfl, rfl⟩
      · exact .inr ⟨rfl, rfl⟩
    | verifyEmail dto =>
      obtain ⟨_, rfl⟩ := writes
      exact .inl ⟨rfl, rfl⟩
    | resetPassword dto =>
      obtain ⟨_, _, rfl⟩ := writes
      exact .inl ⟨rfl, rfl⟩
    | updateProfile jwt dto | changePassword jwt dto =>
      obtain ⟨_, rfl⟩ := writes
      exact .inl ⟨rfl, rfl⟩
    | _ => exact writes.elim
  | _ => trivial

/-- Only the verification of an address unlocks an account, and it is the one that is named. -/
theorem unlocks_verifies {request : Request} {id : UserId} {data : UserUpdate}
    (writes : request.Writes (.userUpdate id data)) (unlocks : data.isActive = some true) :
    ∃ dto, request = .verifyEmail dto ∧ id = dto.userId := by
  cases request with
  | verifyEmail dto => exact ⟨dto, rfl, writes.1⟩
  | updateProfile jwt dto =>
    obtain ⟨email, rfl⟩ := writes
    cases email <;> cases unlocks
  | resetPassword dto =>
    obtain ⟨_, _, rfl⟩ := writes
    cases unlocks
  | changePassword jwt dto =>
    obtain ⟨_, rfl⟩ := writes
    cases unlocks
  | submitVerification jwt dto ipAddress =>
    rcases writes with rfl | ⟨_, rfl⟩ <;> cases unlocks
  | _ => exact writes.elim

/-- A row is added to an account that its call has read. -/
theorem owner_read {runtime : Runtime} {request : Request} {past : List ServiceEvent}
    (backed : backs runtime request past statement) (writes : request.Writes statement)
    {owner : UserId} (owned : statement.owner = some owner) :
    ∃ event ∈ past, ∃ user, readUser event = some user ∧ (Plausible event → user.id = owner) := by
  have entitled : EntitledTo runtime past owner request := by
    cases statement with
    | refreshTokenCreate _ | emailVerificationTokenUpsert _ _ _ _ | passwordResetTokenCreate _
    | idVerificationCreate _ =>
      cases owned
      exact backed
    | _ => cases owned
  cases request with
  | verifyEmail dto =>
    obtain ⟨rfl, tokenRecord, record, read, _⟩ := entitled
    exact ⟨_, read, record.user, rfl, And.right⟩
  | resendVerificationEmail dto =>
    obtain ⟨filter, _, record, read, rfl, _⟩ := entitled
    exact ⟨_, read, record.user, rfl, fun _ => rfl⟩
  | login dto ipAddress userAgent =>
    obtain ⟨record, read, rfl, _⟩ := entitled
    exact ⟨_, read, record.user, rfl, fun _ => rfl⟩
  | refreshTokens process refreshToken ipAddress userAgent
  | upgradeSession process refreshToken ipAddress userAgent =>
    obtain ⟨storedToken, user, read, rfl⟩ := entitled
    exact ⟨_, read, user, rfl, fun _ => rfl⟩
  | requestReset email =>
    obtain ⟨record, read, rfl, _⟩ := entitled
    exact ⟨_, read, record.user, rfl, fun _ => rfl⟩
  | updateProfile jwt dto | submitVerification jwt dto ipAddress =>
    obtain ⟨rfl, record, read⟩ := entitled
    exact ⟨_, read, record.user, rfl, id⟩
  | changePassword jwt dto =>
    obtain ⟨rfl, record, read, _⟩ := entitled
    exact ⟨_, read, record.user, rfl, id⟩
  | resetPassword dto => cases statement <;> first | exact writes.elim | cases owned
  | logoutAllDevices jwt => cases statement <;> first | exact writes.elim | cases owned
  | _ => exact entitled.elim

variable (runtime : Runtime)

/-- A call is entitled to what it writes, writes what its request may write, and registers what it
has resolved. -/
def ledger (request : Request) (past : List ServiceEvent) (effect : Effect) : Prop :=
  (entitling runtime request past effect ∧ registersFor runtime request past effect) ∧
    (effect.Harmless ∨ request.Awaits effect ∨ ∃ outcome, effect = .respond outcome)

/-- Every call keeps to the rule. -/
theorem serve_ledger (request : Request) :
    (serve runtime request).Abides (conduct (ledger runtime request)) [] :=
  ((serve_entitling runtime request).both (serve_registers runtime request)).both
    ((serve_uses runtime request).abides fun _ _ inside => inside)

variable {runtime}

/-- The statements of a call are backed for and are its own. -/
theorem ledger_execute {request : Request} {past : List ServiceEvent}
    {statements : List Statement} (ruled : ledger runtime request past (.execute statements)) :
    ∀ statement ∈ statements,
      backs runtime request past statement ∧ request.Writes statement := by
  obtain ⟨⟨entitled, _⟩, inside⟩ := ruled
  intro statement listed
  refine ⟨entitled statement listed, ?_⟩
  rcases inside with harmless | awaits | ⟨_, same⟩
  · exact harmless.elim
  · exact awaits_writes awaits statement listed
  · cases same

/-- Only a registration registers an account. -/
theorem ledger_register {request : Request} {past : List ServiceEvent}
    {data : RegistrationCreate} (ruled : ledger runtime request past (.registerTransaction data)) :
    ∃ dto, request = .register dto := by
  rcases ruled.2 with harmless | awaits | ⟨_, same⟩
  · exact harmless.elim
  · cases request with
    | register dto => exact ⟨dto, rfl⟩
    | _ => simp [Request.Awaits, Effect.Rotates, Effect.Issues, Effect.Links] at awaits
  · cases same

theorem ledger_registerTransaction {request : Request} {past : List ServiceEvent}
    {data : RegistrationCreate} (ruled : ledger runtime request past (.registerTransaction data)) :
    data.Coherent := by
  obtain ⟨dto, rfl⟩ := ledger_register ruled
  obtain ⟨_, identity, salt, iv, pidIv, digits, rawToken, now, _, _, rfl⟩ := ruled.1.2
  exact draft_coherent runtime dto identity salt iv pidIv digits rawToken now

/-! ### The runs -/

theorem performs_accounts {state next : State} {effect : Effect}
    {reply : Except Failure effect.Reply} (performs : environment.Performs state effect reply next)
    {userId : UserId} (known : userId ∈ state.db.accounts) : userId ∈ next.db.accounts := by
  refine performs_preserves (fun db => userId ∈ db.accounts) performs ?_ ?_
    (fun _ holds => holds) known
  · intro _ _ statement _ now later holds carried
    rw [carried.accounts]
    exact holds
  · intro data later holds ran
    rw [register_accounts ran]
    exact List.mem_append_left _ holds

section Chronicles

variable {regime : Regime State Effect.Reply Failure Request} {clock : Timestamp}
  {world : ServiceWorld}

/-- An account that has been read is there. -/
theorem read_known {rule : Request → ServiceConduct} {initial : State}
    (chronicle : Chronicle (service runtime) regime rule initial world) {thread : Nat}
    {event : ServiceEvent} (past : event ∈ world.past thread) {user : UserRow}
    (read : readUser event = some user) :
    user.id ∈ world.state.db.accounts ∧ Plausible event := by
  obtain ⟨entry, member, _, rfl⟩ := World.mem_past.mp past
  obtain ⟨_, _, admissible, _⟩ := chronicle.recalls member
  have performs : environment.Performs entry.before entry.effect entry.reply entry.after :=
    admissible.performs
  exact ⟨chronicle.lasts (fun state => user.id ∈ state.db.accounts)
    (fun _ _ _ _ performs known => performs_accounts performs known) member
    (.inl (List.mem_map_of_mem (performs_readUser performs read).1)), performs_plausible performs⟩

/-- An account that a statement names is there. -/
theorem owner_known {rule : Request → ServiceConduct} {initial : State}
    (chronicle : Chronicle (service runtime) regime rule initial world) {thread : Nat}
    {request : Request} {statement : Statement}
    (backed : backs runtime request (world.past thread) statement)
    (writes : request.Writes statement) {owner : UserId} (owned : statement.owner = some owner) :
    owner ∈ world.state.db.accounts := by
  obtain ⟨event, past, user, read, named⟩ := owner_read backed writes owned
  obtain ⟨known, credible⟩ := read_known chronicle past read
  exact named credible ▸ known

/-- Every entry leaves sound tables sound. -/
theorem entry_sound {initial : State} {entry : ServiceEntry}
    (chronicle : Chronicle (service runtime) regime
      (fun request => conduct (ledger runtime request)) initial world)
    (wellFormed : world.state.db.WellFormed)
    (admissible : Admissible (service runtime) regime
      (fun request => conduct (ledger runtime request)) world entry)
    (sound : world.state.db.Sound) : entry.after.db.Sound := by
  have performs : environment.Performs entry.before entry.effect entry.reply entry.after :=
    admissible.performs
  have ruled : ledger runtime entry.request (world.past entry.thread) entry.effect :=
    admissible.ruled
  have current : entry.before = world.state := admissible.current
  rw [← current] at sound wellFormed
  obtain ⟨thread, request, before, effect, reply, after⟩ := entry
  dsimp only at performs ruled sound wellFormed current ⊢
  rcases performs_db performs with
    same | ⟨statements, event, ran⟩ | ⟨data, event, ran⟩ | ⟨log, same⟩
  · rw [same]
    exact sound
  · obtain rfl := congrArg Event.effect event
    have written := ledger_execute ruled
    suffices kept : after.db.accounts = before.db.accounts ∧ after.db.Sound from kept.2
    refine runAll_preserves (fun db => db.accounts = before.db.accounts ∧ db.Sound) ran ?_
      ⟨rfl, sound⟩
    rintro statement listed now later ⟨accounts, sound⟩ carried
    obtain ⟨backed, writes⟩ := written statement listed
    refine ⟨carried.accounts.trans accounts, carried.sound (fun owner owned => ?_)
      (writes_coherent writes) (accounts ▸ wellFormed.users.distinct) sound⟩
    rw [accounts, current]
    exact owner_known chronicle backed writes owned
  · obtain rfl := congrArg Event.effect event
    exact register_sound (ledger_registerTransaction ruled) ran sound
  · rw [same]
    exact { sound with links := sound.links.grow (Nat.le_succ _) }

/-- The tables of a new service are empty. -/
theorem empty_sound (clock : Timestamp) : (State.empty clock).db.Sound where
  emails := List.nodup_nil
  users := nofun
  identityOwners := rfl
  identities := nofun
  nidHashes := List.nodup_nil
  finHashes := List.nodup_nil
  platformOwners := rfl
  pidHashes := List.nodup_nil
  linkOwners := rfl
  links := ⟨List.nodup_nil, nofun⟩
  tokenOwners := nofun
  resetOwners := nofun
  attemptOwners := nofun

/-- Whatever state a run sets out from, it leaves sound tables sound. -/
theorem chronicle_keeps_sound {initial : State}
    (chronicle : Chronicle (service runtime) regime
      (fun request => conduct (ledger runtime request)) initial world)
    (wellFormed : initial.db.WellFormed) (sound : initial.db.Sound) : world.state.db.Sound :=
  chronicle.invariant (fun world => world.state.db.Sound) sound fun _ _ earlier sound admissible =>
    entry_sound earlier (chronicle_keeps_wellFormed earlier wellFormed) admissible sound

theorem chronicle_sound
    (chronicle : Chronicle (service runtime) regime
      (fun request => conduct (ledger runtime request)) (State.empty clock) world) :
    world.state.db.Sound :=
  chronicle_keeps_sound chronicle (empty_wellFormed clock) (empty_sound clock)

/-- In every state that the service reaches, in whatever order its calls take turns and whichever
of their effects fail, the tables hang together. -/
theorem tables_stay_sound {pool : ServicePool}
    (reachable : Reachable (service runtime) .free (State.empty clock) pool) :
    pool.world.state.db.Sound ∧ pool.world.state.db.WellFormed := by
  have chronicle := reachable_chronicle (ledger runtime) reachable fun request _ =>
    serve_ledger runtime request
  exact ⟨chronicle_sound chronicle, chronicle_wellFormed chronicle⟩

end Chronicles

theorem tables_stay_sound_signedIn :
    (played .lax signedIn).world.state.db.accounts = [0] ∧
      (played .lax signedIn).world.state.db.Sound :=
  ⟨by decide, (tables_stay_sound (played_reachable Referee.lax_upholds signedIn)).1⟩

end GraconAuth
