/-
This file says when the tables are settled: they hang together, every account is
enrolled with its identity, and what is stored in cipher can be deciphered. The tables
are settled in every state that the service reaches. An account of settled tables can
be read, updated and logged in to, as long as nothing fails, and the guard decides on
its sessions by their type.
-/

import GraconAuth.AtomicWrites
import GraconAuth.CalmRuns
import GraconAuth.Integrity
import GraconAuth.StatusGate

namespace GraconAuth

open Interleaving Program Rows

/-! ### The standing of an account -/

/-- The primitives work: a password matches each of its hashes, and a ciphertext can be
deciphered. -/
structure Runtime.Works (runtime : Runtime) : Prop where
  compares : ∀ salt password,
    runtime.bcryptCompare password (runtime.bcryptHash salt password) = true
  decrypts : ∀ iv plainText, runtime.decrypt (runtime.encrypt iv plainText) = .ok plainText

/-- What is stored in cipher can be deciphered. -/
structure Database.Readable (runtime : Runtime) (db : Database) : Prop where
  fins : ∀ row ∈ db.citizenIdentities, ∀ text ∈ row.finEncrypted,
    ∃ fin, runtime.decrypt text = .ok fin
  pids : ∀ row ∈ db.platformIds, ∃ pid, runtime.decrypt row.pidEncrypted = .ok pid

/-- The tables hang together, and their accounts can be read. -/
structure Database.Settled (runtime : Runtime) (db : Database) : Prop where
  wellFormed : db.WellFormed
  sound : db.Sound
  enrolled : db.Enrolled runtime
  readable : db.Readable runtime

/-- An account of settled tables. -/
structure Stands (runtime : Runtime) (db : Database) (user : UserRow) : Prop
    extends db.Settled runtime where
  stored : user ∈ db.users

variable {runtime : Runtime} {db next : Database} {user : UserRow} {clock : Timestamp}
  {statement : Statement} {state : State} {token : RawToken} {supply : Supply} {jwt : Jwt}

/-- An account of tables that hang together, whatever can be read of it. -/
structure Listed (db : Database) (user : UserRow) : Prop where
  wellFormed : db.WellFormed
  sound : db.Sound
  stored : user ∈ db.users

theorem Stands.listed (stands : Stands runtime db user) : Listed db user :=
  ⟨stands.wellFormed, stands.sound, stands.stored⟩

theorem Listed.byId (listed : Listed db user) : db.findUser (.byId user.id) = some user :=
  find?_key listed.wellFormed.users.distinct listed.stored

theorem Listed.byEmail (listed : Listed db user) :
    db.findUser (.byEmail user.email) = some user := find?_key listed.sound.emails listed.stored

/-- An account is active when its address is verified, and not before. -/
theorem Listed.active (listed : Listed db user) : user.isActive = user.isVerified :=
  (listed.sound.users user listed.stored).active

theorem Database.Settled.keyed (settled : db.Settled runtime) : db.accounts.Nodup :=
  settled.wellFormed.users.distinct

theorem Stands.known (stands : Stands runtime db user) : user.id ∈ db.accounts :=
  List.mem_map_of_mem stands.stored

theorem Stands.byId (stands : Stands runtime db user) :
    db.findUser (.byId user.id) = some user := stands.listed.byId

theorem Stands.byEmail (stands : Stands runtime db user) :
    db.findUser (.byEmail user.email) = some user := stands.listed.byEmail

theorem Stands.active (stands : Stands runtime db user) (verified : user.isVerified = true) :
    user.isActive = true := stands.listed.active.trans verified

theorem Stands.decryptFin (stands : Stands runtime db user) :
    ∃ fin, UsersService.decryptFin runtime (db.withRelations user) = .done fin := by
  refine ((decryptFin_cases runtime _).resolve_right fun unreadable => unreadable.1 ?_).2
  intro identity found _ given
  have stored : identity ∈ db.citizenIdentities := List.mem_of_find?_eq_some found
  obtain ⟨text, present, -⟩ := (Option.any_eq_true _ _).mp given
  rw [present]
  exact stands.readable.fins identity stored text present

theorem Stands.decryptPid (stands : Stands runtime db user) :
    ∃ pid, UsersService.decryptPid runtime (db.withRelations user) = .done pid := by
  refine ((decryptPid_cases runtime _).resolve_right fun unreadable => unreadable.1 ?_).2
  intro platformId found
  exact stands.readable.pids platformId (List.mem_of_find?_eq_some found)

theorem UserUpdate.Coherent.screened {data : UserUpdate} (coherent : data.Coherent) :
    data.isActive = data.isVerified ∧ data.isIdVerified ≠ some false := by
  refine ⟨coherent.active, fun revoked => ?_⟩
  rcases coherent.identified with ⟨unset, -⟩ | ⟨set, -⟩
  · cases unset.symm.trans revoked
  · cases set.symm.trans revoked

theorem Statement.Coherent.screened (coherent : statement.Coherent) : statement.Screened := by
  cases statement with
  | userUpdate id data => exact UserUpdate.Coherent.screened coherent
  | _ => trivial

/-- A statement that names only accounts that are there, and whose columns agree, leaves settled
tables settled. -/
theorem Carried.settled (carried : Carried clock db statement next)
    (known : ∀ owner ∈ statement.owner, owner ∈ db.accounts) (coherent : statement.Coherent)
    (settled : db.Settled runtime) : next.Settled runtime where
  wellFormed := carried.wellFormed settled.wellFormed
  sound := carried.sound known coherent settled.keyed settled.sound
  enrolled := enrolled_carried settled.enrolled coherent.screened carried
  readable := by
    have identities : next.citizenIdentities = db.citizenIdentities := by cases carried <;> rfl
    have platformIds : next.platformIds = db.platformIds := by cases carried <;> rfl
    exact ⟨identities ▸ settled.readable.fins, platformIds ▸ settled.readable.pids⟩

theorem Database.Settled.logged (settled : db.Settled runtime) (logs : db.Logs next) :
    next.Settled runtime := by
  obtain ⟨log, rfl⟩ := logs
  exact ⟨settled.wellFormed.logged log,
    { settled.sound with links := settled.sound.links.grow (Nat.le_succ _) },
    ⟨settled.enrolled.keyed.grow (Nat.le_succ _), fun identity member =>
      Nat.lt_succ_of_lt (settled.enrolled.issued identity member), settled.enrolled.active,
      settled.enrolled.identified⟩, settled.readable.fins, settled.readable.pids⟩

/-- A statement that is not about the users leaves the account standing. -/
theorem Stands.carried (stands : Stands runtime db user)
    (carried : Carried clock db statement next)
    (known : ∀ owner ∈ statement.owner, owner ∈ db.accounts) (coherent : statement.Coherent)
    (users : next.users = db.users) : Stands runtime next user :=
  ⟨carried.settled known coherent stands.toSettled, users ▸ stands.stored⟩

/-- A statement that is not about the users, and adds no row. -/
theorem Stands.amended (stands : Stands runtime db user)
    (carried : Carried clock db statement next) (ownerless : statement.owner = none)
    (coherent : statement.Coherent) (users : next.users = db.users) : Stands runtime next user := by
  refine stands.carried carried ?_ coherent users
  rw [ownerless]
  intro owner impossible
  cases impossible

/-- An update of the account leaves it standing with what was written. -/
theorem Stands.updated {data : UserUpdate} (stands : Stands runtime db user)
    (carried : Carried clock db (.userUpdate user.id data) next) (coherent : data.Coherent) :
    Stands runtime next (user.apply data clock) := by
  refine ⟨carried.settled nofun coherent stands.toSettled, ?_⟩
  cases carried
  exact mem_updateWhere.mpr ⟨user, stands.stored, (if_pos (beq_self_eq_true _)).symm⟩

theorem Stands.logged (stands : Stands runtime db user) (logs : db.Logs next) :
    Stands runtime next user := by
  refine ⟨stands.toSettled.logged logs, ?_⟩
  obtain ⟨log, rfl⟩ := logs
  exact stands.stored

/-- An update of an account that stands is carried out when it leaves the address alone. -/
theorem Stands.run_userUpdate (stands : Stands runtime db user) {data : UserUpdate}
    (kept : data.email = none) (clock : Timestamp) :
    Statement.run clock db (.userUpdate user.id data) = .ok { db with
      users := updateWhere (fun row => row.id == user.id) (fun row => row.apply data clock)
        db.users } := by
  simp only [Statement.run, kept, Option.any_none, Bool.false_eq_true, if_false]
  have ran : updateUnique (fun row => row.id == user.id) (fun row => row.apply data clock)
      db.users = .ok _ := updateUnique_of_mem stands.stored (beq_self_eq_true _)
  rw [ran]
  rfl

/-! ### The accounts of a run -/

/-- A registration stores ciphertexts of its runtime. -/
theorem register_readable (works : runtime.Works) {dto : UsersService.RegisterDto}
    {identity : UsersService.RegistrationIdentityRecord} {salt iv pidIv digits : String}
    {rawToken : RawToken} {now : Timestamp}
    (ran : db.register clock
      (dto.draft runtime identity salt iv pidIv digits rawToken now) = .ok next)
    (readable : db.Readable runtime) : next.Readable runtime := by
  unfold Database.register at ran
  split at ran
  · cases ran
  · cases ran
    refine ⟨List.forall_mem_append.mpr ⟨readable.fins, List.forall_mem_singleton.mpr ?_⟩,
      List.forall_mem_append.mpr ⟨readable.pids, List.forall_mem_singleton.mpr
        ⟨_, works.decrypts _ _⟩⟩⟩
    intro text present
    have stored : (if identity.identityType = .FIN then
        some (runtime.encrypt iv identity.identityNumber) else none) = some text := present
    by_cases foreign : identity.identityType = .FIN
    · rw [if_pos foreign] at stored
      exact ⟨_, Option.some.inj stored ▸ works.decrypts _ _⟩
    · rw [if_neg foreign] at stored
      cases stored

section Runs

variable {world : ServiceWorld} {regime : Regime State Effect.Reply Failure Request}

theorem chronicle_readable (works : runtime.Works)
    (chronicle : Chronicle (service runtime) regime
      (fun request => conduct (ledger runtime request)) (State.empty clock) world) :
    world.state.db.Readable runtime := by
  refine chronicle.invariant (fun world => world.state.db.Readable runtime) ⟨nofun, nofun⟩ ?_
  intro world entry _ readable admissible
  have performs : environment.Performs entry.before entry.effect entry.reply entry.after :=
    admissible.performs
  have ruled : ledger runtime entry.request (world.past entry.thread) entry.effect :=
    admissible.ruled
  rw [← admissible.current] at readable
  rw [World.record_state]
  rcases performs_db performs with
    same | ⟨statements, event, ran⟩ | ⟨data, event, ran⟩ | ⟨log, same⟩
  · rw [same]
    exact readable
  · refine runAll_preserves (Database.Readable runtime) ran ?_ readable
    intro statement _ now later holds carried
    have identities : later.citizenIdentities = now.citizenIdentities := by cases carried <;> rfl
    have platformIds : later.platformIds = now.platformIds := by cases carried <;> rfl
    exact ⟨identities ▸ holds.fins, platformIds ▸ holds.pids⟩
  · rw [show entry.effect = .registerTransaction data from congrArg Event.effect event] at ruled
    obtain ⟨dto, request⟩ := ledger_register ruled
    rw [request] at ruled
    obtain ⟨-, identity, salt, iv, pidIv, digits, rawToken, now, -, -, rfl⟩ := ruled.1.2
    exact register_readable works ran readable
  · rw [same]
    exact ⟨readable.fins, readable.pids⟩

/-- The tables are settled in every state that the service reaches. -/
theorem reachable_settled (works : runtime.Works) {pool : ServicePool}
    (reachable : Reachable (service runtime) .free (State.empty clock) pool) :
    pool.world.state.db.Settled runtime := by
  have chronicle := reachable_chronicle (ledger runtime) reachable fun request _ =>
    serve_ledger runtime request
  exact ⟨chronicle_wellFormed chronicle, chronicle_sound chronicle,
    enrolled_of_provisioned (Provisioned.start.steps reachable),
    chronicle_readable works chronicle⟩

end Runs

/-! ### The login -/

/-- The token has not been issued as a refresh token. -/
def State.Unissued (state : State) (runtime : Runtime) (token : RawToken) : Prop :=
  ∀ row ∈ state.db.refreshTokens, row.tokenHash ≠ runtime.hash token

theorem State.Unissued.later {now : State} (unused : state.Unissued runtime token)
    (same : now.db.refreshTokens = state.db.refreshTokens) : now.Unissued runtime token := by
  unfold State.Unissued
  rw [same]
  exact unused

/-- The tokens are those of a session of the account that has been stored, and that lasts for
thirty days from then. -/
structure LiveSession (runtime : Runtime) (user : UserRow) (tokens : AuthTokens)
    (since : Timestamp) (now : State) : Prop where
  accessToken : tokens.accessToken.payload = ⟨user.id, user.email, some tokens.tokenType⟩
  stored : ∃ row, now.db.findRefreshToken (runtime.hash tokens.refreshToken) = some row ∧
    row.userId = user.id ∧ row.tokenType = some tokens.tokenType ∧ row.revoked = false ∧
      since + AuthService.REFRESH_TOKEN_EXPIRY_MS ≤ row.expiresAt

variable {tokens : AuthTokens} {before after : Timestamp}

theorem LiveSession.later {now : State} (live : LiveSession runtime user tokens after state)
    (same : now.db = state.db) : LiveSession runtime user tokens after now :=
  ⟨live.accessToken, same ▸ live.stored⟩

theorem LiveSession.since (live : LiveSession runtime user tokens after state)
    (earlier : before ≤ after) : LiveSession runtime user tokens before state := by
  obtain ⟨row, found, owner, kind, unrevoked, lasts⟩ := live.stored
  exact ⟨live.accessToken, row, found, owner, kind, unrevoked,
    (Int.add_le_add_right earlier _).trans lasts⟩

/-- The login has opened a session of the account, a full one if its identity is verified. -/
structure SignedIn (runtime : Runtime) (user : UserRow) (result : LoginResult)
    (since : Timestamp) (now : State) : Prop where
  account : result.user.userId = user.id
  tokenType : result.tokenType = if user.isIdVerified then .full else .limited
  live : LiveSession runtime user ⟨result.accessToken, result.refreshToken, result.tokenType⟩
    since now

/-- The image of an account is resolved. -/
theorem resolveProfileImageAccess_returns (imageUrl : Option String) :
    (UsersService.resolveProfileImageAccess imageUrl).Returns (calm supply)
      (fun _ now => Meanwhile state now state.db state.outbox) state := by
  unfold UsersService.resolveProfileImageAccess
  by_cases absent : (!truthy imageUrl) = true
  · rw [if_pos absent]
    exact returns_done ⟨Int.le_refl _, rfl, rfl⟩
  · rw [if_neg absent]
    by_cases foreign : UsersService.isHttpUrl (imageUrl.getD "") = true
    · rw [if_pos foreign]
      exact returns_done ⟨Int.le_refl _, rfl, rfl⟩
    · rw [if_neg foreign]
      unfold S3Service.getPresignedUrl
      refine (Returns.rescue ?_ _).bind fun _ now meanwhile => returns_done meanwhile
      refine (returns_getSignedUrl _).bind fun _ signed first => ?_
      refine returns_now.bind ?_
      rintro _ timed ⟨-, second⟩
      exact returns_done (first.wait second)

/-- The session that has just been stored is the one that is found. -/
theorem findRefreshToken_create {data : RefreshTokenCreate}
    (carried : Carried clock db (.refreshTokenCreate data) next) :
    next.findRefreshToken data.tokenHash = some (data.row db.nextId) := by
  cases carried with
  | refreshTokenCreate data free =>
    have absent : db.refreshTokens.find? (fun row => row.tokenHash == data.tokenHash) = none :=
      List.find?_eq_none.mpr fun row stored matched => free row stored (beq_iff_eq.mp matched)
    unfold Database.findRefreshToken
    rw [List.find?_append, absent, Option.none_or]
    exact List.find?_cons_of_pos (beq_self_eq_true data.tokenHash)

/-- The part of every login and verification that opens a session. -/
theorem issue_returns (stands : Stands runtime state.db user)
    (unused : state.Unissued runtime supply.token)
    (expiresIn : String) (tokenType : TokenType)
    {data : RawToken → Timestamp → RefreshTokenCreate}
    (owner : ∀ now, (data supply.token now).userId = user.id)
    (hashed : ∀ now, (data supply.token now).tokenHash = runtime.hash supply.token)
    (kind : ∀ now, (data supply.token now).tokenType = tokenType)
    (expires : ∀ now, (data supply.token now).expiresAt =
      now + AuthService.REFRESH_TOKEN_EXPIRY_MS) :
    (do
      let accessToken ← request (.sign ⟨user.id, user.email, some tokenType⟩ expiresIn)
      let rawRefreshToken ← request .randomToken
      let now ← request .now
      execute [.refreshTokenCreate (data rawRefreshToken now)]
      return ⟨accessToken, rawRefreshToken, tokenType⟩ : Async AuthTokens).Returns
      (calm supply) (fun tokens now => Stands runtime now.db user ∧
        now.db.idVerifications = state.db.idVerifications ∧ tokens.tokenType = tokenType ∧
        LiveSession runtime user tokens state.clock now) state := by
  refine (returns_sign _ _).bind ?_
  rintro _ signed ⟨rfl, first⟩
  refine returns_randomToken.bind ?_
  rintro rawToken drawn ⟨drew, second⟩
  rw [drew]
  refine returns_now.bind ?_
  rintro _ timed ⟨rfl, third⟩
  have meanwhile : timed.db = state.db := third.db.trans (second.db.trans first.db)
  refine (returns_execute fun clock => exists_runAll_refreshTokenCreate ?_).bind ?_
  · rw [meanwhile, hashed]
    exact unused
  rintro _ stored ⟨db, ran, fourth⟩
  rw [meanwhile] at ran
  have created := runAll_singleton ran
  have found := findRefreshToken_create created
  rw [hashed] at found
  refine returns_done ⟨?_, ?_, rfl, rfl, ?_⟩
  · rw [fourth.db]
    refine stands.carried created ?_ trivial (by cases created; rfl)
    rintro _ ⟨⟩
    rw [owner]
    exact stands.known
  · rw [fourth.db]
    cases created
    rfl
  · rw [fourth.db]
    refine ⟨_, found, owner _, congrArg some (kind _), rfl, ?_⟩
    rw [RefreshTokenCreate.row, expires]
    exact Int.add_le_add_right ((first.clock.trans second.clock).trans third.clock) _

theorem login_returns (stands : Stands runtime state.db user) (verified : user.isVerified = true)
    {password : String} (matched : runtime.bcryptCompare password user.passwordHash = true)
    (unused : state.Unissued runtime supply.token)
    (ipAddress userAgent : String) :
    (AuthService.login runtime ⟨user.email, password⟩ ipAddress userAgent).Returns (calm supply)
      (fun result now => Stands runtime now.db user ∧
        SignedIn runtime user result state.clock now) state := by
  unfold AuthService.login
  refine (returns_userFindUnique _).bind ?_
  rintro _ found ⟨rfl, first⟩
  have present : ((state.db.findUser (.byEmail user.email)).map state.db.withRelations).filter
      (fun record => AuthService.passwordValid runtime password (some record)) =
        some (state.db.withRelations user) := by
    rw [stands.byEmail]
    exact Option.filter_some_pos matched
  rw [present]
  dsimp only
  unfold AuthService.loginWithRecord
  refine (returns_securityEvent _ _ _).bind ?_
  rintro _ logged ⟨db, logs, second⟩
  rw [first.db] at logs
  have active : user.isActive = true := stands.active verified
  refine guarantees_passed (by rw [Database.withRelations, verified]; rfl) ?_
  refine guarantees_passed (by rw [Database.withRelations, active]; rfl) ?_
  have standing : Stands runtime logged.db user := second.db ▸ stands.logged logs
  have unissued : logged.Unissued runtime supply.token := unused.later (by
    rw [second.db]
    obtain ⟨log, rfl⟩ := logs
    rfl)
  unfold AuthService.generateTokens
  refine Returns.bind (issue_returns standing unissued _ _ (fun _ => rfl) (fun _ => rfl)
    (fun _ => rfl) fun _ => rfl) ?_
  rintro tokens issued ⟨stood, -, kind, live⟩
  unfold AuthService.buildSafeProfile
  rw [bind_assoc]
  refine (resolveProfileImageAccess_returns _).bind fun image resolved third => ?_
  obtain ⟨fin, deciphered⟩ := stands.decryptFin
  rw [deciphered]
  exact returns_done ⟨third.db ▸ stood, rfl, rfl,
    kind ▸ (live.later third.db).since (first.clock.trans second.clock)⟩

/-! ### The guard -/

/-- What the strategy makes of a token of the account. -/
def UserRow.authenticated (user : UserRow) (jwt : Jwt) : AuthenticatedUser :=
  ⟨user.id, user.email, jwt.payload.tokenType.getD .full⟩

theorem validate_returns (stands : Stands runtime state.db user) (active : user.isActive = true)
    (subject : jwt.payload.sub = user.id) :
    (JwtStrategy.validate jwt.payload).Returns (calm supply) (fun found now =>
      found = user.authenticated jwt ∧ Meanwhile state now state.db state.outbox) state := by
  unfold JwtStrategy.validate
  refine (returns_userFindUnique _).bind ?_
  rintro _ now ⟨rfl, meanwhile⟩
  rw [subject, stands.byId]
  refine guarantees_ofOutcome.mpr ⟨_, ?_, rfl, meanwhile⟩
  exact if_neg (by rw [show (state.db.withRelations user).user.isActive = true from active]; decide)

/-- The guard decides on the type of the token. -/
theorem canActivate_guarantees (stands : Stands runtime state.db user)
    (active : user.isActive = true) (subject : jwt.payload.sub = user.id)
    (metadata : Option RequiredType) :
    (JwtAuthGuard.canActivate metadata jwt).Guarantees (calm supply) (fun outcome now =>
      outcome = JwtAuthGuard.handleRequest metadata (.ok (user.authenticated jwt)) ∧
        Meanwhile state now state.db state.outbox) state := by
  unfold JwtAuthGuard.canActivate
  refine Guarantees.bind (Returns.attempt (validate_returns stands active subject)) ?_
  rintro _ now ⟨_, rfl, rfl, meanwhile⟩
  exact guarantees_ofOutcome.mpr ⟨rfl, meanwhile⟩

/-- The handler of a route runs when the guard lets the account in. -/
theorem guarantees_admitted {request : Request} {metadata : Option RequiredType}
    {post : Except Failure Response → State → Prop} (guarded : request.guard = some (jwt, metadata))
    (stands : Stands runtime state.db user) (active : user.isActive = true)
    (subject : jwt.payload.sub = user.id)
    (admitted : JwtAuthGuard.handleRequest metadata (.ok (user.authenticated jwt)) =
      .ok (user.authenticated jwt))
    (handled : ∀ between, Meanwhile state between state.db state.outbox →
      (request.handle runtime user.id).Guarantees (calm supply) (fun outcome now =>
        ∀ later, Meanwhile now later now.db now.outbox → post outcome later) between) :
    (serve runtime request).Guarantees (calm supply) post state := by
  unfold serve Request.guarded
  rw [guarded]
  refine guarantees_bind.mpr (guarantees_attempt.mpr (guarantees_bind.mpr
    ((canActivate_guarantees stands active subject metadata).weaken ?_)))
  rintro _ between ⟨rfl, first⟩
  rw [admitted, ofOutcome_ok, done_bind]
  refine (handled between first).weaken fun outcome now holds => ?_
  rw [ofOutcome_ok, done_bind]
  refine Guarantees.bind (returns_respond outcome) fun _ later meanwhile => ?_
  exact guarantees_ofOutcome.mpr (holds later meanwhile)

/-- A limited session does not open the profile. -/
def Refuses (runtime : Runtime) (jwt : Jwt) (state : State) : Prop :=
  ∀ supply : Supply, (serve runtime (.getProfile jwt)).Guarantees (calm supply)
    (fun outcome _ => outcome = .error (ForbiddenException
      "Please complete your identity verification before accessing this feature.")) state

theorem Stands.refuses (stands : Stands runtime state.db user) (active : user.isActive = true)
    (subject : jwt.payload.sub = user.id) (limited : jwt.payload.tokenType = some .limited) :
    Refuses runtime jwt state := by
  intro supply
  unfold serve Request.guarded
  refine guarantees_bind.mpr (guarantees_attempt.mpr (guarantees_bind.mpr
    ((canActivate_guarantees stands active subject none).weaken ?_)))
  rintro _ between ⟨rfl, -⟩
  have kind : (user.authenticated jwt).tokenType = .limited := by
    rw [UserRow.authenticated, limited]
    rfl
  have refused : JwtAuthGuard.handleRequest none (.ok (user.authenticated jwt)) =
      .error (ForbiddenException
        "Please complete your identity verification before accessing this feature.") := by
    exact if_pos kind
  rw [refused, ofOutcome_error, raise_bind, guarantees_raise, ofOutcome_ok, done_bind]
  refine Guarantees.bind (returns_respond _) fun _ later _ => ?_
  exact guarantees_ofOutcome.mpr rfl

/-! ### The profile -/

/-- The token opens the profile of the account. -/
def Enters (runtime : Runtime) (user : UserRow) (jwt : Jwt) (state : State) : Prop :=
  ∀ supply : Supply, (serve runtime (.getProfile jwt)).Guarantees (calm supply)
    (fun outcome _ => ∃ profile, outcome = .ok (.profile profile) ∧ profile.id = user.id ∧
      profile.email = user.email ∧ profile.isIdVerified = user.isIdVerified) state

theorem getProfile_returns (stands : Stands runtime state.db user) :
    (UsersService.getProfile runtime user.id).Returns (calm supply) (fun profile now =>
      (profile.id = user.id ∧ profile.email = user.email ∧
        profile.isIdVerified = user.isIdVerified) ∧
        Meanwhile state now state.db state.outbox) state := by
  unfold UsersService.getProfile
  refine (returns_userFindUnique _).bind ?_
  rintro _ found ⟨rfl, first⟩
  rw [stands.byId, Option.map_some]
  dsimp only
  obtain ⟨pid, decipheredPid⟩ := stands.decryptPid
  obtain ⟨fin, decipheredFin⟩ := stands.decryptFin
  rw [decipheredPid, done_bind, decipheredFin, done_bind]
  refine (resolveProfileImageAccess_returns _).bind fun image now second => ?_
  exact returns_done ⟨⟨rfl, rfl, rfl⟩, first.wait second⟩

theorem Stands.enters (stands : Stands runtime state.db user) (active : user.isActive = true)
    (subject : jwt.payload.sub = user.id) (full : jwt.payload.tokenType = some .full) :
    Enters runtime user jwt state := by
  intro supply
  refine guarantees_admitted rfl stands active subject ?_ fun between first => ?_
  · exact if_neg (by rw [UserRow.authenticated, full]; nofun)
  · unfold Request.handle
    refine Guarantees.bind (getProfile_returns (first.db ▸ stands)) fun profile now shows => ?_
    exact fun later _ => ⟨profile, rfl, shows.1⟩

end GraconAuth
