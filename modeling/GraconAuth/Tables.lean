/-
This file says what each statement makes of the tables, and which facts about the
tables no statement can undo: ids stay distinct, a verified identity stays
verified, a revoked token stays revoked, an audit row stays stored.
-/

import GraconAuth.Steps

namespace GraconAuth

open Interleaving Rows

variable {clock : Timestamp} {db next : Database}

/-! ### One statement -/

theorem updateUnique_bind_ok {Row Value : Type} {matching : Row → Bool} {change : Row → Row}
    {rows : List Row} {rest : List Row → Except DatabaseError Value} {value : Value}
    (ran : (updateUnique matching change rows >>= rest) = .ok value) :
    rows.any matching = true ∧ rest (updateWhere matching change rows) = .ok value := by
  unfold updateUnique at ran
  split at ran
  · rename_i present
    exact ⟨present, ran⟩
  · cases ran

section Apply

variable (row : UserRow) (data : UserUpdate) (clock : Timestamp)

@[simp] theorem apply_id : (row.apply data clock).id = row.id := rfl

@[simp] theorem apply_email : (row.apply data clock).email = data.email.getD row.email := rfl

@[simp] theorem apply_isVerified :
    (row.apply data clock).isVerified = data.isVerified.getD row.isVerified := rfl

@[simp] theorem apply_isActive :
    (row.apply data clock).isActive = data.isActive.getD row.isActive := rfl

@[simp] theorem apply_isIdVerified :
    (row.apply data clock).isIdVerified = data.isIdVerified.getD row.isIdVerified := rfl

end Apply

/-- The row that a refresh token is stored as. -/
def RefreshTokenCreate.row (data : RefreshTokenCreate) (id : RowId) : RefreshTokenRow where
  id := id
  userId := data.userId
  tokenHash := data.tokenHash
  tokenType := some data.tokenType
  expiresAt := data.expiresAt
  revoked := false
  ipAddress := data.ipAddress
  userAgent := data.userAgent

/-- The row that a reset token is stored as. -/
def PasswordResetTokenCreate.row (data : PasswordResetTokenCreate) (id : RowId) :
    PasswordResetTokenRow where
  id := id
  userId := data.userId
  tokenHash := data.tokenHash
  expiresAt := data.expiresAt
  used := false

/-- What a statement that is carried out makes of the tables. -/
inductive Carried (clock : Timestamp) (db : Database) : Statement → Database → Prop
  | userUpdate (id : UserId) (data : UserUpdate) (present : ∃ row ∈ db.users, row.id = id)
      (free : ∀ email, data.email = some email →
        ∀ row ∈ db.users, row.email = email → row.id = id) :
      Carried clock db (.userUpdate id data) { db with
        users := updateWhere (fun row => row.id == id) (fun row => row.apply data clock) db.users }
  | refreshTokenUpdate (id : RowId) (present : ∃ row ∈ db.refreshTokens, row.id = id) :
      Carried clock db (.refreshTokenUpdate id) { db with
        refreshTokens :=
          updateWhere (fun row => row.id == id) RefreshTokenRow.revoke db.refreshTokens }
  | refreshTokenUpdateMany (filter : RefreshTokenWhere) :
      Carried clock db (.refreshTokenUpdateMany filter) { db with
        refreshTokens := updateWhere filter.holds RefreshTokenRow.revoke db.refreshTokens }
  | refreshTokenCreate (data : RefreshTokenCreate)
      (free : ∀ row ∈ db.refreshTokens, row.tokenHash ≠ data.tokenHash) :
      Carried clock db (.refreshTokenCreate data) { db with
        nextId := db.nextId + 1
        refreshTokens := db.refreshTokens ++ [data.row db.nextId] }
  | refreshTokenDeleteMany (now : Timestamp) :
      Carried clock db (.refreshTokenDeleteMany now) { db with
        refreshTokens :=
          deleteWhere (fun row => decide (row.expiresAt < now) || row.revoked) db.refreshTokens }
  | emailVerificationTokenUpdate (id : RowId)
      (present : ∃ row ∈ db.emailVerificationTokens, row.id = id) :
      Carried clock db (.emailVerificationTokenUpdate id) { db with
        emailVerificationTokens := updateWhere (fun row => row.id == id)
          (fun row => { row with used := true }) db.emailVerificationTokens }
  | emailVerificationTokenUpsert (userId : UserId) (tokenHash : TokenHash)
      (expiresAt createdAt : Timestamp) :
      Carried clock db (.emailVerificationTokenUpsert userId tokenHash expiresAt createdAt)
        { db with
        nextId := db.nextId + 1
        emailVerificationTokens := upsertWhere (fun row => row.userId == userId)
          (fun row => { row with tokenHash, expiresAt, used := false, createdAt })
          { id := db.nextId, userId, tokenHash, expiresAt, used := false, createdAt := clock }
          db.emailVerificationTokens }
  | passwordResetTokenUpdateMany (userId : UserId) :
      Carried clock db (.passwordResetTokenUpdateMany userId) { db with
        passwordResetTokens := updateWhere (fun row => row.userId == userId && !row.used)
          (fun row => { row with used := true }) db.passwordResetTokens }
  | passwordResetTokenCreate (data : PasswordResetTokenCreate) :
      Carried clock db (.passwordResetTokenCreate data) { db with
        nextId := db.nextId + 1
        passwordResetTokens := db.passwordResetTokens ++ [data.row db.nextId] }
  | passwordResetTokenUpdate (id : RowId)
      (present : ∃ row ∈ db.passwordResetTokens, row.id = id) :
      Carried clock db (.passwordResetTokenUpdate id) { db with
        passwordResetTokens := updateWhere (fun row => row.id == id)
          (fun row => { row with used := true }) db.passwordResetTokens }
  | idVerificationCreate (data : IdVerificationCreate) (row : IdVerificationRow)
      (stored : row.id = db.nextId ∧ row.userId = data.userId ∧ row.createdAt = clock) :
      Carried clock db (.idVerificationCreate data) { db with
        nextId := db.nextId + 1
        idVerifications := db.idVerifications ++ [row] }

theorem run_carried {statement : Statement} (ran : statement.run clock db = .ok next) :
    Carried clock db statement next := by
  cases statement with
  | userUpdate id data =>
    simp only [Statement.run] at ran
    split at ran
    · cases ran
    · rename_i free
      obtain ⟨present, ran⟩ := updateUnique_bind_ok ran
      cases ran
      refine .userUpdate id data (by simpa using present) fun email given row member same => ?_
      by_contra other
      exact free (by simpa [given] using ⟨row, member, same, other⟩)
  | refreshTokenUpdate id =>
    obtain ⟨present, ran⟩ := updateUnique_bind_ok ran
    cases ran
    exact .refreshTokenUpdate id (by simpa using present)
  | refreshTokenUpdateMany filter =>
    cases ran
    exact .refreshTokenUpdateMany filter
  | refreshTokenCreate data =>
    simp only [Statement.run] at ran
    split at ran
    · cases ran
    · rename_i free
      cases ran
      exact .refreshTokenCreate data (by simpa using free)
  | refreshTokenDeleteMany now =>
    cases ran
    exact .refreshTokenDeleteMany now
  | emailVerificationTokenUpdate id =>
    obtain ⟨present, ran⟩ := updateUnique_bind_ok ran
    cases ran
    exact .emailVerificationTokenUpdate id (by simpa using present)
  | emailVerificationTokenUpsert userId tokenHash expiresAt createdAt =>
    cases ran
    exact .emailVerificationTokenUpsert userId tokenHash expiresAt createdAt
  | passwordResetTokenUpdateMany userId =>
    cases ran
    exact .passwordResetTokenUpdateMany userId
  | passwordResetTokenCreate data =>
    cases ran
    exact .passwordResetTokenCreate data
  | passwordResetTokenUpdate id =>
    obtain ⟨present, ran⟩ := updateUnique_bind_ok ran
    cases ran
    exact .passwordResetTokenUpdate id (by simpa using present)
  | idVerificationCreate data =>
    cases ran
    exact .idVerificationCreate data _ ⟨rfl, rfl, rfl⟩

/-- What each statement of a transaction preserves, the transaction preserves. -/
theorem runAll_preserves (holds : Database → Prop) {statements : List Statement}
    (ran : runAll clock db statements = .ok next)
    (keeps : ∀ statement ∈ statements, ∀ now later, holds now →
      Carried clock now statement later → holds later)
    (base : holds db) : holds next := by
  induction statements generalizing db with
  | nil =>
    cases ran
    exact base
  | cons statement rest inductionHypothesis =>
    simp only [runAll] at ran
    split at ran
    · rename_i between first
      exact inductionHypothesis ran (fun other member =>
        keeps other (List.mem_cons_of_mem _ member))
        (keeps statement List.mem_cons_self db between base (run_carried first))
    · cases ran

/-- Where one statement of a transaction leads from what all statements preserve to what all
preserve, the transaction leads there. -/
theorem runAll_leads (pre post : Database → Prop) {statements : List Statement}
    {statement : Statement} (ran : runAll clock db statements = .ok next)
    (listed : statement ∈ statements)
    (keepsPre : ∀ statement ∈ statements, ∀ now later, pre now →
      Carried clock now statement later → pre later)
    (keepsPost : ∀ statement ∈ statements, ∀ now later, post now →
      Carried clock now statement later → post later)
    (leads : ∀ now later, pre now → Carried clock now statement later → post later)
    (base : pre db) : post next := by
  induction statements generalizing db with
  | nil => cases listed
  | cons first rest inductionHypothesis =>
    simp only [runAll] at ran
    split at ran
    · rename_i between started
      have keepsRest : ∀ other ∈ rest, ∀ now later, post now →
          Carried clock now other later → post later :=
        fun other member => keepsPost other (List.mem_cons_of_mem _ member)
      rcases List.mem_cons.mp listed with rfl | later
      · exact runAll_preserves post ran keepsRest (leads db between base (run_carried started))
      · exact inductionHypothesis ran later
          (fun other member => keepsPre other (List.mem_cons_of_mem _ member)) keepsRest
          (keepsPre first List.mem_cons_self db between base (run_carried started))
    · cases ran

/-- What one statement of a transaction establishes and all preserve, the transaction
establishes. -/
theorem runAll_establishes (holds : Database → Prop) {statements : List Statement}
    {statement : Statement} (ran : runAll clock db statements = .ok next)
    (listed : statement ∈ statements)
    (establishes : ∀ now later, Carried clock now statement later → holds later)
    (keeps : ∀ statement ∈ statements, ∀ now later, holds now →
      Carried clock now statement later → holds later) : holds next :=
  runAll_leads (fun _ => True) holds ran listed (fun _ _ _ _ _ _ => trivial) keeps
    (fun now later _ => establishes now later) trivial

theorem runAll_cons {statement : Statement} {rest : List Statement}
    (ran : runAll clock db (statement :: rest) = .ok next) :
    ∃ between, Carried clock db statement between ∧ runAll clock between rest = .ok next := by
  simp only [runAll] at ran
  split at ran
  · rename_i between first
    exact ⟨between, run_carried first, ran⟩
  · cases ran

theorem runAll_singleton {statement : Statement} (ran : runAll clock db [statement] = .ok next) :
    Carried clock db statement next := by
  obtain ⟨between, carried, ran⟩ := runAll_cons ran
  cases ran
  exact carried

/-- An updated user is found with the given columns written. -/
theorem findUser_userUpdate {id : UserId} {data : UserUpdate}
    (carried : Carried clock db (.userUpdate id data) next) :
    ∃ user, db.findUser (.byId id) = some user ∧
      next.findUser (.byId id) = some (user.apply data clock) := by
  cases carried with
  | userUpdate id data present free =>
    obtain ⟨stored, member, same⟩ := present
    have wanted : (stored.id == id) = true := beq_iff_eq.mpr same
    obtain ⟨user, found⟩ : ∃ user, db.users.find? (fun row => row.id == id) = some user :=
      Option.isSome_iff_exists.mp (List.find?_isSome.mpr ⟨stored, member, wanted⟩)
    refine ⟨user, found, ?_⟩
    have matched : (user.id == id) = true := by simpa using List.find?_some found
    have updated := @find?_updateWhere _ (fun row => row.id == id) (fun row => row.id == id)
      (fun row => row.apply data clock) (fun _ => rfl) db.users
    rw [found, Option.map_some, if_pos matched] at updated
    exact updated

/-- What a registration makes of the tables the other statements look at. -/
theorem register_tables {data : RegistrationCreate} (ran : db.register clock data = .ok next) :
    next.nextId = db.nextId + 4 ∧
      (∃ user : UserRow, next.users = db.users ++ [user] ∧ user.id = db.nextId ∧
        user.email = data.email ∧ user.isVerified = false ∧ user.isActive = false) ∧
      next.refreshTokens = db.refreshTokens ∧
      (∃ token : EmailVerificationTokenRow,
        next.emailVerificationTokens = db.emailVerificationTokens ++ [token] ∧
        token.id = db.nextId + 3 ∧ token.userId = db.nextId ∧ token.tokenHash = data.tokenHash) ∧
      next.passwordResetTokens = db.passwordResetTokens ∧
      next.idVerifications = db.idVerifications := by
  unfold Database.register at ran
  split at ran
  · cases ran
  · cases ran
    exact ⟨rfl, ⟨_, rfl, rfl, rfl, rfl, rfl⟩, rfl, ⟨_, rfl, rfl, rfl, rfl⟩, rfl, rfl⟩

/-- A registration adds an identity. -/
theorem register_citizenIdentities {data : RegistrationCreate}
    (ran : db.register clock data = .ok next) :
    ∃ identity, next.citizenIdentities = db.citizenIdentities ++ [identity] := by
  unfold Database.register at ran
  split at ran
  · cases ran
  · cases ran
    exact ⟨_, rfl⟩

/-! ### Any effect -/

/-- What the statements, the registration and the log preserve, every effect preserves. -/
theorem performs_preserves {state next : State} {effect : Effect}
    {reply : Except Failure effect.Reply} (holds : Database → Prop)
    (performs : environment.Performs state effect reply next)
    (carried : ∀ statements, effect = .execute statements → ∀ statement ∈ statements,
      ∀ now later, holds now → Carried next.clock now statement later → holds later)
    (registered : ∀ data later, holds state.db → state.db.register next.clock data = .ok later →
      holds later)
    (logged : ∀ log, holds state.db → holds { state.db with
      nextId := state.db.nextId + 1, securityEventLog := log })
    (base : holds state.db) : holds next.db := by
  rcases performs_db performs with same | ⟨statements, event, ran⟩ | ⟨data, _, ran⟩ | ⟨log, same⟩
  · rw [same]
    exact base
  · exact runAll_preserves holds ran (carried statements (congrArg Event.effect event)) base
  · exact registered data _ base ran
  · rw [same]
    exact logged log base

/-! ### Keys -/

/-- The ids of each table come from the counter, and refresh tokens have distinct hashes. -/
structure Database.WellFormed (db : Database) : Prop where
  users : Keyed db.nextId (db.users.map (·.id))
  refreshTokens : Keyed db.nextId (db.refreshTokens.map (·.id))
  passwordResetTokens : Keyed db.nextId (db.passwordResetTokens.map (·.id))
  idVerifications : Keyed db.nextId (db.idVerifications.map (·.id))
  tokenHashes : (db.refreshTokens.map (·.tokenHash)).Nodup

theorem Carried.wellFormed {statement : Statement} (carried : Carried clock db statement next)
    (wellFormed : db.WellFormed) : next.WellFormed := by
  obtain ⟨users, refreshTokens, passwordResetTokens, idVerifications, tokenHashes⟩ := wellFormed
  have grown : db.nextId ≤ db.nextId + 1 := Nat.le_succ _
  cases carried with
  | userUpdate id data present free =>
    exact ⟨users.updateWhere fun _ => rfl, refreshTokens, passwordResetTokens, idVerifications,
      tokenHashes⟩
  | refreshTokenUpdate id present =>
    refine ⟨users, refreshTokens.updateWhere fun _ => rfl, passwordResetTokens, idVerifications, ?_⟩
    have kept : ∀ row : RefreshTokenRow, row.revoke.tokenHash = row.tokenHash := fun _ => rfl
    simpa only [map_updateWhere kept] using tokenHashes
  | refreshTokenUpdateMany filter =>
    refine ⟨users, refreshTokens.updateWhere fun _ => rfl, passwordResetTokens, idVerifications, ?_⟩
    have kept : ∀ row : RefreshTokenRow, row.revoke.tokenHash = row.tokenHash := fun _ => rfl
    simpa only [map_updateWhere kept] using tokenHashes
  | refreshTokenCreate data free =>
    refine ⟨users.grow grown, ?_, passwordResetTokens.grow grown, idVerifications.grow grown, ?_⟩
    · rw [List.map_append]
      exact refreshTokens.append (Nat.le_refl _) (Nat.lt_succ_self _)
    · rw [List.map_append]
      refine List.nodup_append.mpr ⟨tokenHashes, List.nodup_singleton _, ?_⟩
      intro hash member other single
      obtain rfl := List.mem_singleton.mp single
      obtain ⟨row, stored, rfl⟩ := List.mem_map.mp member
      exact free row stored
  | refreshTokenDeleteMany now =>
    have kept : (deleteWhere (fun row => decide (row.expiresAt < now) || row.revoked)
        db.refreshTokens).Sublist db.refreshTokens := List.filter_sublist
    exact ⟨users, refreshTokens.sublist (kept.map _), passwordResetTokens, idVerifications,
      tokenHashes.sublist (kept.map _)⟩
  | emailVerificationTokenUpdate id present =>
    exact ⟨users, refreshTokens, passwordResetTokens, idVerifications, tokenHashes⟩
  | emailVerificationTokenUpsert userId tokenHash expiresAt createdAt =>
    exact ⟨users.grow grown, refreshTokens.grow grown, passwordResetTokens.grow grown,
      idVerifications.grow grown, tokenHashes⟩
  | passwordResetTokenUpdateMany userId =>
    exact ⟨users, refreshTokens, passwordResetTokens.updateWhere fun _ => rfl, idVerifications,
      tokenHashes⟩
  | passwordResetTokenCreate data =>
    refine ⟨users.grow grown, refreshTokens.grow grown, ?_, idVerifications.grow grown,
      tokenHashes⟩
    rw [List.map_append]
    exact passwordResetTokens.append (Nat.le_refl _) (Nat.lt_succ_self _)
  | passwordResetTokenUpdate id present =>
    exact ⟨users, refreshTokens, passwordResetTokens.updateWhere fun _ => rfl, idVerifications,
      tokenHashes⟩
  | idVerificationCreate data row stored =>
    refine ⟨users.grow grown, refreshTokens.grow grown, passwordResetTokens.grow grown, ?_,
      tokenHashes⟩
    rw [List.map_append]
    exact idVerifications.append (Nat.le_of_eq stored.1.symm)
      (stored.1 ▸ Nat.lt_succ_self _)

theorem register_wellFormed {data : RegistrationCreate}
    (ran : db.register clock data = .ok next) (wellFormed : db.WellFormed) : next.WellFormed := by
  obtain ⟨counter, ⟨user, users, userId, _⟩, tokens, _, resets, verifications⟩ :=
    register_tables ran
  have grown : db.nextId ≤ next.nextId := counter ▸ Nat.le_add_right _ _
  refine ⟨?_, ?_, ?_, ?_, ?_⟩
  · rw [users, List.map_append]
    exact wellFormed.users.append (Nat.le_of_eq userId.symm)
      (counter ▸ userId ▸ Nat.lt_add_of_pos_right (by decide))
  · rw [tokens]
    exact wellFormed.refreshTokens.grow grown
  · rw [resets]
    exact wellFormed.passwordResetTokens.grow grown
  · rw [verifications]
    exact wellFormed.idVerifications.grow grown
  · rw [tokens]
    exact wellFormed.tokenHashes

/-- A line of the log takes a number and leaves the other tables alone. -/
theorem Database.WellFormed.logged (wellFormed : db.WellFormed) (log : List SecurityEventRow) :
    ({ db with nextId := db.nextId + 1, securityEventLog := log } : Database).WellFormed :=
  ⟨wellFormed.users.grow (Nat.le_succ _), wellFormed.refreshTokens.grow (Nat.le_succ _),
    wellFormed.passwordResetTokens.grow (Nat.le_succ _),
    wellFormed.idVerifications.grow (Nat.le_succ _), wellFormed.tokenHashes⟩

theorem performs_wellFormed {state next : State} {effect : Effect}
    {reply : Except Failure effect.Reply}
    (performs : environment.Performs state effect reply next) (wellFormed : state.db.WellFormed) :
    next.db.WellFormed :=
  performs_preserves Database.WellFormed performs
    (fun _ _ _ _ _ _ holds carried => carried.wellFormed holds)
    (fun _ _ holds ran => register_wellFormed ran holds)
    (fun _ holds => holds.logged _) wellFormed

theorem empty_wellFormed (clock : Timestamp) : (State.empty clock).db.WellFormed :=
  ⟨⟨List.nodup_nil, by simp [State.empty]⟩, ⟨List.nodup_nil, by simp [State.empty]⟩,
    ⟨List.nodup_nil, by simp [State.empty]⟩, ⟨List.nodup_nil, by simp [State.empty]⟩,
    List.nodup_nil⟩

/-- Whatever state a run sets out from, its tables keep their keys. -/
theorem chronicle_keeps_wellFormed {runtime : Runtime}
    {regime : Regime State Effect.Reply Failure Request} {rule : Request → ServiceConduct}
    {initial : State} {world : ServiceWorld}
    (chronicle : Chronicle (service runtime) regime rule initial world)
    (wellFormed : initial.db.WellFormed) : world.state.db.WellFormed := by
  refine chronicle.invariant (fun world => world.state.db.WellFormed) wellFormed
    fun world entry _ wellFormed admissible => ?_
  rw [← admissible.current] at wellFormed
  exact performs_wellFormed admissible.performs wellFormed

theorem chronicle_wellFormed {runtime : Runtime}
    {regime : Regime State Effect.Reply Failure Request} {rule : Request → ServiceConduct}
    {clock : Timestamp} {world : ServiceWorld}
    (chronicle : Chronicle (service runtime) regime rule (State.empty clock) world) :
    world.state.db.WellFormed :=
  chronicle_keeps_wellFormed chronicle (empty_wellFormed clock)

/-! ### Refresh tokens -/

/-- A stored row is what became of an older one: the same columns, and revoked if that was. -/
structure RefreshTokenRow.Continues (old row : RefreshTokenRow) : Prop where
  id : row.id = old.id
  userId : row.userId = old.userId
  tokenHash : row.tokenHash = old.tokenHash
  tokenType : row.tokenType = old.tokenType
  expiresAt : row.expiresAt = old.expiresAt
  revoked : old.revoked = true → row.revoked = true

theorem RefreshTokenRow.continues_refl (row : RefreshTokenRow) : row.Continues row :=
  ⟨rfl, rfl, rfl, rfl, rfl, fun revoked => revoked⟩

theorem RefreshTokenRow.continues_revoke (row : RefreshTokenRow) : row.Continues row.revoke :=
  ⟨rfl, rfl, rfl, rfl, rfl, fun _ => rfl⟩

theorem RefreshTokenRow.Continues.trans {first second third : RefreshTokenRow}
    (earlier : first.Continues second) (later : second.Continues third) :
    first.Continues third :=
  ⟨later.id.trans earlier.id, later.userId.trans earlier.userId,
    later.tokenHash.trans earlier.tokenHash, later.tokenType.trans earlier.tokenType,
    later.expiresAt.trans earlier.expiresAt, fun revoked => later.revoked (earlier.revoked revoked)⟩

theorem continues_of_mem_updateWhere {matching : RefreshTokenRow → Bool}
    {rows : List RefreshTokenRow} {row : RefreshTokenRow}
    (member : row ∈ updateWhere matching RefreshTokenRow.revoke rows) :
    ∃ old ∈ rows, old.Continues row := by
  obtain ⟨old, stored, rfl⟩ := mem_updateWhere.mp member
  refine ⟨old, stored, ?_⟩
  split
  · exact old.continues_revoke
  · exact old.continues_refl

/-- A stored refresh token was stored before or has just been created. -/
theorem Carried.refreshTokens {statement : Statement}
    (carried : Carried clock db statement next) {row : RefreshTokenRow}
    (member : row ∈ next.refreshTokens) :
    (∃ old ∈ db.refreshTokens, old.Continues row) ∨
      ∃ data, statement = .refreshTokenCreate data ∧ row = data.row db.nextId := by
  cases carried with
  | refreshTokenUpdate id present => exact .inl (continues_of_mem_updateWhere member)
  | refreshTokenUpdateMany filter => exact .inl (continues_of_mem_updateWhere member)
  | refreshTokenCreate data free =>
    rcases List.mem_append.mp member with old | new
    · exact .inl ⟨row, old, row.continues_refl⟩
    · exact .inr ⟨data, rfl, List.mem_singleton.mp new⟩
  | refreshTokenDeleteMany now =>
    exact .inl ⟨row, (mem_deleteWhere.mp member).1, row.continues_refl⟩
  | _ => exact .inl ⟨row, member, row.continues_refl⟩

theorem Carried.nextId {statement : Statement} (carried : Carried clock db statement next) :
    db.nextId ≤ next.nextId := by
  cases carried <;> first | exact Nat.le_refl _ | exact Nat.le_succ _

theorem performs_nextId {state next : State} {effect : Effect}
    {reply : Except Failure effect.Reply}
    (performs : environment.Performs state effect reply next) :
    state.db.nextId ≤ next.db.nextId := by
  refine performs_preserves (fun db => state.db.nextId ≤ db.nextId) performs
    (fun _ _ _ _ _ _ holds carried => Nat.le_trans holds carried.nextId) ?_
    (fun _ holds => Nat.le_trans holds (Nat.le_succ _)) (Nat.le_refl _)
  intro data later holds ran
  obtain ⟨counter, _⟩ := register_tables ran
  exact Nat.le_trans holds (counter ▸ Nat.le_add_right _ _)

/-- A stored refresh token was stored before the effect, or the effect has created it. -/
theorem performs_refreshTokens {state next : State} {effect : Effect}
    {reply : Except Failure effect.Reply}
    (performs : environment.Performs state effect reply next) {row : RefreshTokenRow}
    (member : row ∈ next.db.refreshTokens) :
    (∃ old ∈ state.db.refreshTokens, old.Continues row) ∨
      ∃ statements data id, effect = .execute statements ∧
        .refreshTokenCreate data ∈ statements ∧ state.db.nextId ≤ id ∧
        (data.row id).Continues row := by
  suffices general : state.db.nextId ≤ next.db.nextId ∧ ∀ row ∈ next.db.refreshTokens,
      (∃ old ∈ state.db.refreshTokens, old.Continues row) ∨
        ∃ statements data id, effect = .execute statements ∧
          .refreshTokenCreate data ∈ statements ∧ state.db.nextId ≤ id ∧
          (data.row id).Continues row from general.2 row member
  refine performs_preserves (fun db => state.db.nextId ≤ db.nextId ∧
    ∀ row ∈ db.refreshTokens, (∃ old ∈ state.db.refreshTokens, old.Continues row) ∨
      ∃ statements data id, effect = .execute statements ∧
        .refreshTokenCreate data ∈ statements ∧ state.db.nextId ≤ id ∧
        (data.row id).Continues row) performs ?_ ?_ ?_ ?_
  · rintro statements performed statement listed now later ⟨grown, traced⟩ carried
    refine ⟨Nat.le_trans grown carried.nextId, fun row member => ?_⟩
    rcases carried.refreshTokens member with ⟨old, stored, continues⟩ | ⟨data, rfl, rfl⟩
    · rcases traced old stored with
        ⟨first, before, earlier⟩ | ⟨all, data, id, same, listed', fresh, earlier⟩
      · exact .inl ⟨first, before, earlier.trans continues⟩
      · exact .inr ⟨all, data, id, same, listed', fresh, earlier.trans continues⟩
    · exact .inr ⟨statements, data, _, performed, listed, grown,
        RefreshTokenRow.continues_refl _⟩
  · rintro data later ⟨grown, traced⟩ ran
    obtain ⟨counter, _, tokens, _⟩ := register_tables ran
    refine ⟨counter ▸ Nat.le_add_right _ _, ?_⟩
    rw [tokens]
    exact traced
  · rintro log ⟨grown, traced⟩
    exact ⟨Nat.le_trans grown (Nat.le_succ _), traced⟩
  · exact ⟨Nat.le_refl _, fun row stored => .inl ⟨row, stored, row.continues_refl⟩⟩

/-- A refresh token that is stored is stored last, under the next id. -/
theorem performs_refreshTokenCreate {state next : State} {data : RefreshTokenCreate}
    (performs : environment.Performs state (.execute [.refreshTokenCreate data]) (.ok ()) next) :
    next.db = { state.db with
      nextId := state.db.nextId + 1
      refreshTokens := state.db.refreshTokens ++ [data.row state.db.nextId] } ∧
    ∀ row ∈ state.db.refreshTokens, row.tokenHash ≠ data.tokenHash := by
  rcases performs_execute performs with ⟨_, ran⟩ | ⟨⟨_, failed⟩, _⟩
  · generalize next.db = after at ran ⊢
    cases runAll_singleton ran with
    | refreshTokenCreate data free => exact ⟨rfl, free⟩
  · cases failed

/-- The token with this id has been issued, and it is revoked as long as it is stored. -/
def Database.Revoked (db : Database) (id : RowId) : Prop :=
  id < db.nextId ∧ ∀ row ∈ db.refreshTokens, row.id = id → row.revoked = true

theorem Carried.revoked {statement : Statement} (carried : Carried clock db statement next)
    {id : RowId} (revoked : db.Revoked id) : next.Revoked id := by
  refine ⟨Nat.lt_of_lt_of_le revoked.1 carried.nextId, fun row member same => ?_⟩
  rcases carried.refreshTokens member with ⟨old, stored, continues⟩ | ⟨data, rfl, rfl⟩
  · exact continues.revoked (revoked.2 old stored (continues.id.symm.trans same))
  · exact absurd (same ▸ revoked.1) (Nat.lt_irrefl _)

/-- A revoked token stays revoked. -/
theorem performs_revoked {state next : State} {effect : Effect}
    {reply : Except Failure effect.Reply}
    (performs : environment.Performs state effect reply next) {id : RowId}
    (revoked : state.db.Revoked id) : next.db.Revoked id := by
  refine ⟨Nat.lt_of_lt_of_le revoked.1 (performs_nextId performs), fun row member same => ?_⟩
  rcases performs_refreshTokens performs member with
    ⟨old, stored, continues⟩ | ⟨_, data, fresh, _, _, above, continues⟩
  · exact continues.revoked (revoked.2 old stored (continues.id.symm.trans same))
  · have : fresh = id := continues.id.symm.trans same
    exact absurd (this ▸ above) (Nat.not_le.mpr revoked.1)

/-- A bulk revocation of a user leaves no live token of the user. -/
theorem revokes_user {clock : Timestamp} {db next : Database} {statements : List Statement}
    {userId : UserId} (ran : runAll clock db statements = .ok next)
    (listed : .refreshTokenUpdateMany { userId := some userId } ∈ statements)
    (storeless : ∀ data, .refreshTokenCreate data ∉ statements) :
    ∀ row ∈ next.refreshTokens, row.userId = userId → row.revoked = true := by
  refine runAll_establishes (fun db =>
    ∀ row ∈ db.refreshTokens, row.userId = userId → row.revoked = true) ran listed ?_ ?_
  · intro now later carried row member owner
    cases carried with
    | refreshTokenUpdateMany filter =>
      obtain ⟨old, stored, rfl⟩ := mem_updateWhere.mp member
      split
      · rfl
      · rename_i unmatched
        rw [if_neg unmatched] at owner
        cases live : old.revoked with
        | true => rfl
        | false => simp [RefreshTokenWhere.holds, columnHolds, owner, live] at unmatched
  · intro statement member now later holds carried row stored owner
    rcases carried.refreshTokens stored with ⟨old, before, continues⟩ | ⟨data, rfl, _⟩
    · exact continues.revoked (holds old before (continues.userId.symm.trans owner))
    · exact absurd member (storeless data)

/-- The token that a rotation has exchanged is revoked. -/
theorem exchanges_revoked {state next : State} {id : RowId} (wellFormed : state.db.WellFormed)
    (performs : environment.Performs state (.execute [.refreshTokenUpdate id]) (.ok ()) next) :
    next.db.Revoked id := by
  rcases performs_execute performs with ⟨_, ran⟩ | ⟨⟨_, failed⟩, _⟩
  · have counted := performs_nextId performs
    generalize next.db = after at ran counted ⊢
    cases runAll_singleton ran with
    | refreshTokenUpdate id present =>
      obtain ⟨row, stored, rfl⟩ := present
      refine ⟨wellFormed.refreshTokens.below _ (List.mem_map_of_mem stored), ?_⟩
      intro other member same
      obtain ⟨old, before, rfl⟩ := mem_updateWhere.mp member
      split
      · rfl
      · rename_i unmatched
        rw [if_neg unmatched] at same
        exact absurd (beq_iff_eq.mpr same) unmatched
  · cases failed

/-! ### Refresh tokens in a history -/

/-- The refresh token that the entry has stored. -/
def created (entry : ServiceEntry) : Option RefreshTokenRow :=
  match executed entry.event with
  | [.refreshTokenCreate data] => some (data.row entry.before.db.nextId)
  | _ => none

/-- The entry has revoked the token with this id as a rotation does. -/
def Exchanges (entry : ServiceEntry) (id : RowId) : Prop :=
  executed entry.event = [.refreshTokenUpdate id]

theorem created_some {entry : ServiceEntry} {row : RefreshTokenRow}
    (stored : row ∈ created entry) :
    ∃ data, executed entry.event = [.refreshTokenCreate data] ∧
      row = data.row entry.before.db.nextId := by
  unfold created at stored
  split at stored
  · rename_i data carriedOut
    exact ⟨data, carriedOut, (Option.some.inj stored).symm⟩
  · cases stored

/-! ### Password reset tokens -/

/-- The reset token with this id has been issued, and it is used as long as it is stored. -/
def Database.ResetSpent (db : Database) (id : RowId) : Prop :=
  id < db.nextId ∧ ∀ row ∈ db.passwordResetTokens, row.id = id → row.used = true

/-- A used reset token stays used. -/
theorem performs_resetSpent {state next : State} {effect : Effect}
    {reply : Except Failure effect.Reply}
    (performs : environment.Performs state effect reply next) {id : RowId}
    (spent : state.db.ResetSpent id) : next.db.ResetSpent id := by
  refine performs_preserves (fun db => db.ResetSpent id) performs ?_ ?_ ?_ spent
  · rintro _ _ statement _ now later ⟨below, used⟩ carried
    refine ⟨Nat.lt_of_lt_of_le below carried.nextId, fun row member same => ?_⟩
    cases carried with
    | passwordResetTokenUpdateMany userId =>
      obtain ⟨old, stored, rfl⟩ := mem_updateWhere.mp member
      split
      · rfl
      · rename_i unmatched
        rw [if_neg unmatched] at same
        exact used old stored same
    | passwordResetTokenUpdate other present =>
      obtain ⟨old, stored, rfl⟩ := mem_updateWhere.mp member
      split
      · rfl
      · rename_i unmatched
        rw [if_neg unmatched] at same
        exact used old stored same
    | passwordResetTokenCreate data =>
      rcases List.mem_append.mp member with old | new
      · exact used row old same
      · obtain rfl := List.mem_singleton.mp new
        exact absurd (show now.nextId = id from same) (Nat.ne_of_gt below)
    | _ => exact used row member same
  · rintro data later ⟨below, used⟩ ran
    obtain ⟨counter, _, _, _, resets, _⟩ := register_tables ran
    exact ⟨counter ▸ Nat.lt_of_lt_of_le below (Nat.le_add_right _ _), by rw [resets]; exact used⟩
  · rintro log ⟨below, used⟩
    exact ⟨Nat.lt_succ_of_lt below, used⟩

/-- A link leads to the same reset token whenever it is followed. -/
theorem performs_resetLookup {state next : State} {effect : Effect}
    {reply : Except Failure effect.Reply}
    (performs : environment.Performs state effect reply next) {userId : UserId}
    {tokenHash : TokenHash} {id : RowId}
    (found : (state.db.findPasswordResetToken userId tokenHash).map (·.id) = some id) :
    (next.db.findPasswordResetToken userId tokenHash).map (·.id) = some id := by
  refine performs_preserves
    (fun db => (db.findPasswordResetToken userId tokenHash).map (·.id) = some id)
    performs ?_ ?_ (fun _ holds => holds) found
  · intro _ _ statement _ now later holds carried
    unfold Database.findPasswordResetToken at holds ⊢
    cases carried with
    | passwordResetTokenUpdateMany other =>
      exact (map_find?_updateWhere (by simp) (by simp) _).trans holds
    | passwordResetTokenUpdate other present =>
      exact (map_find?_updateWhere (by simp) (by simp) _).trans holds
    | passwordResetTokenCreate data => exact map_find?_append holds _
    | _ => exact holds
  · intro data later holds ran
    obtain ⟨_, _, _, _, resets, _⟩ := register_tables ran
    unfold Database.findPasswordResetToken at holds ⊢
    rw [resets, holds]

/-! ### Email verification tokens -/

/-- An account leads to the same verification token whenever it is looked up. -/
theorem performs_verificationLookup {state next : State} {effect : Effect}
    {reply : Except Failure effect.Reply}
    (performs : environment.Performs state effect reply next) {userId : UserId} {id : RowId}
    (found : (state.db.findEmailVerificationToken userId).map (·.id) = some id) :
    (next.db.findEmailVerificationToken userId).map (·.id) = some id := by
  refine performs_preserves
    (fun db => (db.findEmailVerificationToken userId).map (·.id) = some id)
    performs ?_ ?_ (fun _ holds => holds) found
  · intro _ _ statement _ now later holds carried
    unfold Database.findEmailVerificationToken at holds ⊢
    cases carried with
    | emailVerificationTokenUpdate other present =>
      exact (map_find?_updateWhere (by simp) (by simp) _).trans holds
    | emailVerificationTokenUpsert other tokenHash expiresAt createdAt =>
      simp only [upsertWhere]
      split
      · exact (map_find?_updateWhere (by simp) (by simp) _).trans holds
      · exact map_find?_append holds _
    | _ => exact holds
  · intro data later holds ran
    obtain ⟨_, _, _, ⟨token, tokens, _⟩, _⟩ := register_tables ran
    unfold Database.findEmailVerificationToken at holds ⊢
    rw [tokens]
    exact map_find?_append holds _

/-- No user has two verification tokens. -/
def Database.OneLinkEach (db : Database) : Prop :=
  (db.emailVerificationTokens.map (·.userId)).Nodup

theorem Carried.oneLinkEach {statement : Statement} (carried : Carried clock db statement next)
    (each : db.OneLinkEach) : next.OneLinkEach := by
  unfold Database.OneLinkEach at each ⊢
  cases carried with
  | emailVerificationTokenUpdate id present =>
    have kept : ∀ row : EmailVerificationTokenRow,
        ({ row with used := true } : EmailVerificationTokenRow).userId = row.userId := fun _ => rfl
    simpa only [map_updateWhere kept] using each
  | emailVerificationTokenUpsert userId tokenHash expiresAt createdAt =>
    have kept : ∀ row : EmailVerificationTokenRow, ({ row with
        tokenHash, expiresAt, used := false, createdAt } : EmailVerificationTokenRow).userId =
          row.userId := fun _ => rfl
    simp only [upsertWhere]
    split
    · simpa only [map_updateWhere kept] using each
    · rename_i absent
      rw [List.map_append]
      refine List.nodup_append.mpr ⟨each, List.nodup_singleton _, ?_⟩
      intro owner member other single same
      obtain rfl := List.mem_singleton.mp single
      obtain ⟨row, stored, rfl⟩ := List.mem_map.mp member
      exact absent (List.any_eq_true.mpr ⟨row, stored, beq_iff_eq.mpr same⟩)
  | _ => exact each

/-- At most one verification token of a user is counted. -/
theorem countP_link_le {db : Database} (each : db.OneLinkEach) (userId : UserId)
    (counts : EmailVerificationTokenRow → Bool) :
    db.emailVerificationTokens.countP (fun row => row.userId == userId && counts row) ≤ 1 := by
  have owned := List.nodup_iff_count_le_one.mp each userId
  rw [List.count, List.countP_map] at owned
  refine Nat.le_trans (List.countP_mono_left fun row _ matched => ?_) owned
  exact (Bool.and_eq_true _ _ ▸ matched).1

/-- A stored row is what became of an older one: the same token, and used if that was. -/
structure EmailVerificationTokenRow.Continues (old row : EmailVerificationTokenRow) : Prop where
  id : row.id = old.id
  userId : row.userId = old.userId
  tokenHash : row.tokenHash = old.tokenHash
  used : old.used = true → row.used = true

/-- The link that a statement stores: whose it is and the hash of its token. -/
def Statement.link : Statement → Option (UserId × TokenHash)
  | .emailVerificationTokenUpsert userId tokenHash _ _ => some (userId, tokenHash)
  | _ => none

/-- The verification links that the event has stored. -/
def storedLinks : ServiceEvent → List (UserId × TokenHash)
  | ⟨.execute statements, .ok _⟩ => statements.filterMap Statement.link
  | ⟨.registerTransaction data, .ok userId⟩ => [(userId, data.tokenHash)]
  | _ => []

/-- A stored verification token was stored before the effect, or the effect has stored it. -/
theorem performs_emailVerificationTokens {state next : State} {effect : Effect}
    {reply : Except Failure effect.Reply}
    (performs : environment.Performs state effect reply next) {row : EmailVerificationTokenRow}
    (member : row ∈ next.db.emailVerificationTokens) :
    (∃ old ∈ state.db.emailVerificationTokens, old.Continues row) ∨
      (row.userId, row.tokenHash) ∈ storedLinks ⟨effect, reply⟩ := by
  rcases performs_db performs with
    same | ⟨statements, event, ran⟩ | ⟨data, event, ran⟩ | ⟨log, same⟩
  · rw [same] at member
    exact .inl ⟨row, member, rfl, rfl, rfl, fun used => used⟩
  · rw [event]
    refine runAll_preserves (fun db => ∀ row ∈ db.emailVerificationTokens,
      (∃ old ∈ state.db.emailVerificationTokens, old.Continues row) ∨
        (row.userId, row.tokenHash) ∈ storedLinks ⟨.execute statements, .ok ()⟩) ran ?_
      (fun row stored => .inl ⟨row, stored, rfl, rfl, rfl, fun used => used⟩) row member
    intro statement listed now later traced carried row member
    cases carried with
    | emailVerificationTokenUpdate id present =>
      obtain ⟨before, stored, rfl⟩ := mem_updateWhere.mp member
      rcases traced before stored with ⟨old, storedOld, continues⟩ | link
      · refine .inl ⟨old, storedOld, ?_⟩
        split
        · exact ⟨continues.id, continues.userId, continues.tokenHash, fun _ => rfl⟩
        · exact continues
      · right
        split <;> exact link
    | emailVerificationTokenUpsert userId tokenHash expiresAt createdAt =>
      have link : (userId, tokenHash) ∈ storedLinks ⟨.execute statements, .ok ()⟩ :=
        List.mem_filterMap.mpr ⟨_, listed, rfl⟩
      unfold upsertWhere at member
      split at member
      · obtain ⟨before, stored, rfl⟩ := mem_updateWhere.mp member
        split
        · rename_i matched
          obtain rfl := beq_iff_eq.mp matched
          exact .inr link
        · exact traced before stored
      · rcases List.mem_append.mp member with old | new
        · exact traced row old
        · obtain rfl := List.mem_singleton.mp new
          exact .inr link
    | _ => exact traced row member
  · rw [event]
    obtain ⟨_, _, _, ⟨token, tokens, _, owner, hash⟩, _⟩ := register_tables ran
    rw [tokens] at member
    rcases List.mem_append.mp member with old | new
    · exact .inl ⟨row, old, rfl, rfl, rfl, fun used => used⟩
    · obtain rfl := List.mem_singleton.mp new
      right
      rw [owner, hash]
      exact List.mem_singleton.mpr rfl
  · rw [same] at member
    exact .inl ⟨row, member, rfl, rfl, rfl, fun used => used⟩

end GraconAuth
