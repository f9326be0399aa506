/-
This file proves that full access takes a proven identity. Two facts about the
tables carry it: an active account has a verified email, and a session that is not
limited belongs to a user whose identity is verified. The rule of conduct says
where the calls take their right to a full token from; the invariant says that a
proof, once seen, stays true.
-/

import GraconAuth.Footprints
import GraconAuth.Tables

namespace GraconAuth

open Interleaving Program Rows

variable (runtime : Runtime)

/-! ### The rule -/

/-- An event that proves the identity of a user: a user row that says so, a session that is not
limited, or the verdict of the engine being written. -/
def Proves (userId : UserId) : ServiceEvent → Prop
  | ⟨.userFindUnique _, .ok (some record)⟩ =>
    record.user.id = userId ∧ record.user.isIdVerified = true
  | ⟨.refreshTokenFindUnique _, .ok (some (storedToken, user))⟩ =>
    user.id = userId ∧ (user.isIdVerified = true ∨ storedToken.tokenType ≠ some .limited)
  | ⟨.execute statements, .ok _⟩ =>
    ∃ data, .userUpdate userId data ∈ statements ∧ data.isIdVerified = some true
  | _ => False

def Proven (past : List ServiceEvent) (userId : UserId) : Prop :=
  ∃ event ∈ past, Proves userId event

theorem Proven.cons {past : List ServiceEvent} {userId : UserId} (proven : Proven past userId)
    (event : ServiceEvent) : Proven (event :: past) userId := by
  obtain ⟨evidence, member, proves⟩ := proven
  exact ⟨evidence, List.mem_cons_of_mem _ member, proves⟩

/-- A statement writes the two account flags together, never takes an identity back, and stores
a full token only for a user whose identity is proven. -/
def Statement.Earned (past : List ServiceEvent) : Statement → Prop
  | .userUpdate _ data => data.isActive = data.isVerified ∧ data.isIdVerified ≠ some false
  | .refreshTokenCreate data => data.tokenType = .full → Proven past data.userId
  | _ => True

/-- Every token is earned: a full one is stored or signed only with a proof in the past. -/
def earned (past : List ServiceEvent) : Effect → Prop
  | .execute statements => ∀ statement ∈ statements, statement.Earned past
  | .sign payload _ => payload.tokenType ≠ some .limited → Proven past payload.sub
  | _ => True

theorem harmless_earned (past : List ServiceEvent) (effect : Effect) (harmless : effect.Harmless) :
    earned past effect := by
  cases effect <;> trivial

/-- One statement that is earned on its own. -/
theorem execute_earned {past : List ServiceEvent} {statement : Statement}
    (single : statement.Earned past) : earned past (.execute [statement]) := by
  intro other member
  obtain rfl := List.mem_singleton.mp member
  exact single

/-! ### Every call keeps to the rule -/

theorem generateTokens_earned (userId : UserId) (email : Email) (ipAddress userAgent : String)
    (tokenType : TokenType) {past : List ServiceEvent}
    (proven : tokenType = .full → Proven past userId) :
    (AuthService.generateTokens runtime userId email ipAddress userAgent tokenType).Abides
      (conduct earned)
      past := by
  refine abides_perform_bind (fun full => proven ?_) fun accessToken _ =>
    abides_perform_bind trivial fun rawRefreshToken _ => abides_perform_bind trivial fun now _ =>
      abides_perform_bind (execute_earned ?_) fun _ _ => trivial
  · cases tokenType with
    | full => rfl
    | limited => exact absurd rfl full
  · exact fun full => (((proven full).cons _).cons _).cons _

theorem login_earned (dto : AuthService.LoginDto) (ipAddress userAgent : String)
    (past : List ServiceEvent) :
    (AuthService.login runtime dto ipAddress userAgent).Abides (conduct earned) past := by
  refine abides_perform_bind trivial fun user _ => ?_
  cases found : user.filter fun record =>
      AuthService.passwordValid runtime dto.password (some record) with
  | none => exact abides_perform_bind trivial fun _ _ => trivial
  | some record =>
    have read : user = some record := (Option.filter_eq_some_iff.mp found).1
    refine abides_perform_bind trivial fun _ _ => abides_throwIf_bind fun _ =>
      abides_throwIf_bind fun _ => Abides.bind (generateTokens_earned runtime _ _ _ _ _ ?_)
        fun now tokens => (buildSafeProfile_uses runtime record).abides_bind harmless_earned
          fun _ _ _ => trivial
    intro full
    refine ⟨_, List.mem_cons_of_mem _ List.mem_cons_self, ?_⟩
    subst read
    cases verified : record.user.isIdVerified with
    | true => exact ⟨rfl, verified⟩
    | false => simp [verified] at full

theorem rotateRefreshToken_earned (tokenHash : TokenHash) (ipAddress userAgent : String)
    (requireFullToken : Bool) (past : List ServiceEvent) :
    (AuthService.rotateRefreshToken runtime tokenHash ipAddress userAgent requireFullToken).Abides
      (conduct earned) past := by
  refine abides_perform_bind trivial fun found _ => ?_
  match found with
  | none => trivial
  | some (storedToken, user) =>
    dsimp only
    split
    · exact abides_perform_bind (execute_earned trivial) fun _ _ =>
        abides_perform_bind trivial fun _ _ => trivial
    · refine abides_perform_bind trivial fun now _ => abides_throwIf_bind fun _ =>
        abides_throwIf_bind fun _ => abides_throwIf_bind fun _ =>
          abides_perform_bind (execute_earned trivial) fun _ _ =>
            generateTokens_earned runtime _ _ _ _ _ fun full => ?_
      refine ⟨_, List.mem_cons_of_mem _ (List.mem_cons_of_mem _ List.mem_cons_self), rfl, ?_⟩
      -- A successor is full when the user row is verified or the presented token was full.
      simp only [AuthService.rotatedTokenType] at full
      split at full
      · rename_i upgraded
        simp only [Bool.and_eq_true] at upgraded
        exact .inl upgraded.1
      · refine .inr fun limited => ?_
        simp [limited] at full

theorem runSingleFlightRefresh_earned (key : FlightKey) (task : Async AuthTokens)
    {past : List ServiceEvent} (keeps : ∀ past, task.Abides (conduct earned) past) :
    (AuthService.runSingleFlightRefresh key task).Abides (conduct earned) past := by
  refine abides_perform_bind trivial fun role _ => ?_
  cases role with
  | follower flight => exact abides_perform trivial
  | leader flight =>
    exact (keeps _).attempt.bind fun now outcome => abides_perform_bind trivial fun _ _ =>
      follows_ofOutcome.mpr trivial

theorem verifyEmail_earned (dto : UsersService.VerifyEmailDto) (past : List ServiceEvent) :
    (UsersService.verifyEmail runtime dto).Abides (conduct earned) past := by
  refine abides_perform_bind trivial fun found _ => ?_
  match found with
  | none => trivial
  | some (tokenRecord, record) =>
    dsimp only
    split
    · trivial
    · refine abides_throwIf_bind fun _ => abides_perform_bind trivial fun _ _ =>
        abides_throwIf_bind fun _ => abides_throwIf_bind fun _ => abides_perform_bind ?_ fun _ _ =>
        (decryptPid_uses runtime _).abides_bind harmless_earned fun _ _ _ =>
        (sendWelcomeEmail_uses _ _ _ _).abides_bind harmless_earned fun _ _ _ => ?_
      · intro statement member
        simp only [List.mem_cons, List.not_mem_nil, or_false] at member
        rcases member with rfl | rfl
        · exact ⟨rfl, by simp⟩
        · trivial
      · split
        · trivial
        · -- The session is a limited one.
          refine Abides.bind ?_ fun _ _ =>
            (buildVerificationSessionProfile_uses runtime _).abides_bind harmless_earned
              fun _ _ _ => trivial
          exact abides_perform_bind (fun full => absurd rfl full) fun _ _ =>
            abides_perform_bind trivial fun _ _ => abides_perform_bind trivial fun _ _ =>
            abides_perform_bind (execute_earned nofun) fun _ _ => trivial

theorem upgradeToken_earned (userId : UserId) (ipAddress userAgent : String)
    {past : List ServiceEvent} (proven : Proven past userId) :
    (AuthService.upgradeToken runtime userId ipAddress userAgent).Abides (conduct earned) past := by
  refine abides_perform_bind (execute_earned trivial) fun _ _ =>
    abides_perform_bind trivial fun user expected => ?_
  cases user with
  | none => trivial
  | some record =>
    have owner : record.user.id = userId := expected
    refine generateTokens_earned runtime _ _ _ _ _ fun _ => ?_
    rw [owner]
    exact (proven.cons _).cons _

theorem submitVerification_earned (userId : UserId)
    (dto : VerificationService.SubmitVerificationDto) (ipAddress : String)
    (past : List ServiceEvent) :
    (VerificationService.submitVerification runtime userId dto ipAddress).Abides (conduct earned)
      past := by
  have window : ∀ past effect,
      (effect.Harmless ∨ ∃ userId since, effect = .idVerificationFindMany userId since) →
      earned past effect := by
    rintro past effect (harmless | ⟨_, _, rfl⟩)
    · exact harmless_earned past effect harmless
    · trivial
  have record : ∀ data past,
      (VerificationService.recordAttempt data).Abides (conduct earned) past := by
    intro data past
    refine abides_rescue (abides_perform (execute_earned trivial)) fun _ _ => ?_
    trivial
  have engine : ∀ payload past,
      (VerificationService.callVerificationEngine payload).Abides (conduct earned) past := by
    intro payload past
    refine abides_rescue (abides_perform trivial) fun _ _ => ?_
    trivial
  refine abides_perform_bind trivial fun user _ => ?_
  cases user with
  | none => trivial
  | some user =>
    refine abides_throwIf_bind fun _ => abides_throwIf_bind fun _ => abides_throwIf_bind fun _ =>
      (enforceAttemptLimit_uses runtime userId).abides_bind window fun _ _ _ => ?_
    unfold VerificationService.verifyIdentity
    split
    · trivial
    · refine abides_throwIf_bind fun _ =>
        (decrypt_uses runtime _).abides_bind harmless_earned fun _ _ _ =>
        (uploadImages_uses _ _ _).abides_bind harmless_earned fun _ _ _ =>
        Abides.bind (engine _ _).attempt fun _ answer => ?_
      cases answer with
      | error failure =>
        exact (cleanupImages_uses _ _).abides_bind harmless_earned fun _ _ _ =>
          (getNextAttemptNumber_uses _).abides_bind harmless_earned fun _ _ _ =>
          (record _ _).bind fun _ _ => trivial
      | ok answer =>
        refine (getNextAttemptNumber_uses _).abides_bind harmless_earned fun _ _ _ =>
          (record _ _).bind fun _ _ =>
          (cleanupImages_uses _ _).abides_bind harmless_earned fun _ _ _ => Abides.bind ?_
            fun _ _ => abides_perform_bind trivial
              fun _ _ => (getVerificationWindowState_uses runtime userId).abides_bind window
                fun _ _ _ => trivial
        unfold VerificationService.applyVerdict
        split
        · refine abides_perform_bind trivial fun now _ =>
            abides_perform_bind (execute_earned ⟨rfl, by simp⟩) fun _ _ =>
            (upgradeToken_earned runtime userId _ _ ?_).bind fun _ _ => trivial
          exact ⟨_, List.mem_cons_self, _, List.mem_singleton_self _, rfl⟩
        · exact abides_perform_bind (execute_earned ⟨rfl, by simp⟩) fun _ _ => trivial

/-- A request that issues no session keeps to the rule by its footprint. -/
theorem awaits_earned {request : Request} (issueless : request.issues = false)
    (past : List ServiceEvent) (effect : Effect) (awaits : request.Awaits effect) :
    earned past effect := by
  cases effect with
  | execute statements =>
    intro statement listed
    have writes := awaits_writes awaits statement listed
    cases statement with
    | userUpdate id data => exact writes_flags writes
    | refreshTokenCreate data => cases request <;> first | exact writes.elim | cases issueless
    | _ => trivial
  | sign payload expiresIn =>
    cases request with
    | verifyEmail _ | login _ _ _ | refreshTokens _ _ _ _ | upgradeSession _ _ _ _
    | submitVerification _ _ _ => cases issueless
    | _ => simp [Request.Awaits, Effect.Links] at awaits
  | _ => trivial

/-- Every call keeps to the rule. -/
theorem serve_earned (request : Request) :
    (serve runtime request).Abides (conduct earned) [] := by
  refine serve_abides runtime request harmless_earned (fun _ _ => trivial)
    fun past userId _ => ?_
  cases request with
  | login dto ipAddress userAgent =>
    exact (login_earned runtime dto ipAddress userAgent past).bind fun _ _ => trivial
  | refreshTokens process refreshToken ipAddress userAgent =>
    exact (runSingleFlightRefresh_earned _ _ (rotateRefreshToken_earned runtime _ _ _ _)).bind
      fun _ _ => trivial
  | upgradeSession process refreshToken ipAddress userAgent =>
    exact Abides.bind (Abides.bind
      (runSingleFlightRefresh_earned _ _ (rotateRefreshToken_earned runtime _ _ _ _))
      fun _ _ => abides_throwIf_bind fun _ => trivial) fun _ _ => trivial
  | verifyEmail dto => exact (verifyEmail_earned runtime dto past).bind fun _ _ => trivial
  | submitVerification jwt dto ipAddress =>
    exact (submitVerification_earned runtime userId dto ipAddress past).bind fun _ _ => trivial
  | _ => exact handle_abides runtime _ userId harmless_earned (awaits_earned rfl)

/-! ### The invariant -/

/-- The identity of the user is verified. -/
def Database.IdVerified (db : Database) (userId : UserId) : Prop :=
  ∃ row ∈ db.users, row.id = userId ∧ row.isIdVerified = true

/-- An active account has a verified email. -/
def Database.ActiveVerified (db : Database) : Prop :=
  ∀ row ∈ db.users, row.isActive = true → row.isVerified = true

theorem idVerified_carried {clock : Timestamp} {db next : Database} {past : List ServiceEvent}
    {statement : Statement} {userId : UserId} (verified : db.IdVerified userId)
    (ruled : statement.Earned past) (carried : Carried clock db statement next) :
    next.IdVerified userId := by
  cases carried with
  | userUpdate id data present free =>
    obtain ⟨row, stored, same, isIdVerified⟩ := verified
    refine ⟨_, mem_updateWhere.mpr ⟨row, stored, rfl⟩, ?_⟩
    have kept := ruled.2
    split
    · refine ⟨same, ?_⟩
      rw [apply_isIdVerified]
      cases given : data.isIdVerified with
      | none => exact isIdVerified
      | some flag =>
        cases flag with
        | true => rfl
        | false => exact absurd given kept
    · exact ⟨same, isIdVerified⟩
  | _ => exact verified

theorem activeVerified_carried {clock : Timestamp} {db next : Database}
    {past : List ServiceEvent} {statement : Statement} (sound : db.ActiveVerified)
    (ruled : statement.Earned past) (carried : Carried clock db statement next) :
    next.ActiveVerified := by
  cases carried with
  | userUpdate id data present free =>
    intro row member active
    obtain ⟨old, stored, rfl⟩ := mem_updateWhere.mp member
    have together : data.isActive = data.isVerified := ruled.1
    split at active
    · rename_i written
      rw [if_pos written, apply_isVerified]
      rw [apply_isActive, together] at active
      cases given : data.isVerified with
      | none =>
        rw [given] at active
        exact sound old stored active
      | some flag =>
        rw [given] at active
        exact active
    · rename_i other
      rw [if_neg other]
      exact sound old stored active
  | _ => exact sound

/-- What the rule says of the statements of an effect. -/
theorem earned_statements {past : List ServiceEvent} {effect : Effect}
    (ruled : earned past effect) : ∀ statements, effect = .execute statements →
      ∀ statement ∈ statements, statement.Earned past := by
  rintro statements rfl
  exact ruled

theorem idVerified_performs {state next : State} {effect : Effect}
    {reply : Except Failure effect.Reply} {past : List ServiceEvent} {userId : UserId}
    (performs : environment.Performs state effect reply next) (ruled : earned past effect)
    (verified : state.db.IdVerified userId) : next.db.IdVerified userId := by
  refine performs_preserves (fun db => db.IdVerified userId) performs ?_ ?_
    (fun _ holds => holds) verified
  · intro statements same statement listed now later holds carried
    exact idVerified_carried holds (earned_statements ruled statements same statement listed)
      carried
  · rintro data later ⟨row, stored, same⟩ ran
    obtain ⟨_, ⟨user, users, _⟩, _⟩ := register_tables ran
    exact ⟨row, by rw [users]; exact List.mem_append_left _ stored, same⟩

theorem activeVerified_performs {state next : State} {effect : Effect}
    {reply : Except Failure effect.Reply} {past : List ServiceEvent}
    (performs : environment.Performs state effect reply next) (ruled : earned past effect)
    (sound : state.db.ActiveVerified) : next.db.ActiveVerified := by
  refine performs_preserves Database.ActiveVerified performs ?_ ?_
    (fun _ holds => holds) sound
  · intro statements same statement listed now later holds carried
    exact activeVerified_carried holds (earned_statements ruled statements same statement listed)
      carried
  · intro data later holds ran row member active
    obtain ⟨_, ⟨user, users, _, _, _, inactive⟩, _⟩ := register_tables ran
    rw [users] at member
    rcases List.mem_append.mp member with old | new
    · exact holds row old active
    · obtain rfl := List.mem_singleton.mp new
      rw [inactive] at active
      cases active

/-- The session a stored token or a signed one stands for is not limited. -/
abbrev Unlimited (tokenType : Option TokenType) : Prop := tokenType ≠ some .limited

/-- A request of a route that requires a full token is let in by the guard only when the user row
read for it is active, has a verified email and a verified identity. -/
def AdmitsVerified (entry : ServiceEntry) : Prop :=
  ∀ jwt metadata, entry.request.guard = some (jwt, metadata) →
    JwtAuthGuard.requiredType metadata ≠ .any →
    ∀ found, entry.event = ⟨.userFindUnique (.byId jwt.payload.sub), .ok found⟩ →
    ∀ admitted, JwtAuthGuard.handleRequest metadata
      (JwtStrategy.validateRow jwt.payload (found.map (·.user))) = .ok admitted →
    ∃ record, found = some record ∧ record.user.isActive = true ∧
      record.user.isVerified = true ∧ record.user.isIdVerified = true

/-- The invariant: the tables are sound, every unlimited session belongs to a verified identity,
and every proof that a call has seen still holds. -/
structure Entitled (world : ServiceWorld) : Prop where
  wellFormed : world.state.db.WellFormed
  active : world.state.db.ActiveVerified
  tokens : ∀ row ∈ world.state.db.refreshTokens, Unlimited row.tokenType →
    world.state.db.IdVerified row.userId
  signed : ∀ jwt ∈ world.state.signed, Unlimited jwt.payload.tokenType →
    world.state.db.IdVerified jwt.payload.sub
  evidence : ∀ entry ∈ world.history, ∀ userId, Proves userId entry.event →
    world.state.db.IdVerified userId
  issued : ∀ entry ∈ world.history, ∀ data, .refreshTokenCreate data ∈ executed entry.event →
    data.tokenType = .full → world.state.db.IdVerified data.userId
  admits : ∀ entry ∈ world.history, AdmitsVerified entry

/-- What a call has seen proven is true. -/
theorem Entitled.proven {world : ServiceWorld} (entitled : Entitled world) {thread : Nat}
    {userId : UserId} (proven : Proven (world.past thread) userId) :
    world.state.db.IdVerified userId := by
  obtain ⟨event, member, proves⟩ := proven
  obtain ⟨entry, recorded, _, rfl⟩ := World.mem_past.mp member
  exact entitled.evidence entry recorded userId proves

/-- The reply to an effect proves only what is true. -/
theorem proves_performs {state next : State} {effect : Effect}
    {reply : Except Failure effect.Reply} {past : List ServiceEvent} {userId : UserId}
    (performs : environment.Performs state effect reply next) (ruled : earned past effect)
    (tokens : ∀ row ∈ state.db.refreshTokens, Unlimited row.tokenType →
      state.db.IdVerified row.userId)
    (proves : Proves userId ⟨effect, reply⟩) : next.db.IdVerified userId := by
  unfold Proves at proves
  split at proves
  · rename_i filter record same
    cases same
    have found := (performs_userFindUnique performs).symm
    simp only [Option.map_eq_some_iff] at found
    obtain ⟨user, foundUser, rfl⟩ := found
    exact idVerified_performs performs ruled
      ⟨user, List.mem_of_find?_eq_some foundUser, proves⟩
  · rename_i tokenHash storedToken user same
    cases same
    obtain ⟨stored, _, member, owner⟩ :=
      findRefreshTokenWithUser_some (performs_refreshTokenFindUnique performs).symm
    refine idVerified_performs performs ruled ?_
    rcases proves with ⟨rfl, verified | unlimited⟩
    · exact ⟨user, member, rfl, verified⟩
    · rw [owner]
      exact tokens storedToken stored unlimited
  · rename_i statements value same
    cases same
    obtain ⟨data, listed, given⟩ := proves
    rcases performs_execute performs with ⟨_, ran⟩ | ⟨⟨_, failed⟩, _⟩
    · refine runAll_establishes (fun db => db.IdVerified userId) ran listed ?_ ?_
      · intro now later carried
        cases carried with
        | userUpdate id data present free =>
          obtain ⟨row, stored, same⟩ := present
          refine ⟨_, mem_updateWhere.mpr ⟨row, stored, rfl⟩, ?_⟩
          simp [same, given]
      · intro statement other now later holds carried
        exact idVerified_carried holds (ruled statement other) carried
    · cases failed
  · exact proves.elim

/-- The guard admits only verified users. -/
theorem admitsVerified_of_state {entry : ServiceEntry}
    (performs : environment.Performs entry.before entry.effect entry.reply entry.after)
    (accepted : accepts entry.before entry.request = true)
    (wellFormed : entry.before.db.WellFormed) (active : entry.before.db.ActiveVerified)
    (signed : ∀ jwt ∈ entry.before.signed, Unlimited jwt.payload.tokenType →
      entry.before.db.IdVerified jwt.payload.sub) : AdmitsVerified entry := by
  obtain ⟨thread, request, before, effect, reply, after⟩ := entry
  intro jwt metadata guard required found event admitted decision
  cases event
  have member : jwt ∈ before.signed := by
    simpa [accepts, guard] using accepted
  have answered : found = (before.db.findUser (.byId jwt.payload.sub)).map
    before.db.withRelations := performs_userFindUnique performs
  subst answered
  cases foundUser : before.db.findUser (.byId jwt.payload.sub) with
  | none => simp [foundUser, JwtStrategy.validateRow, JwtAuthGuard.handleRequest] at decision
  | some user =>
    obtain ⟨stored, same⟩ := findUser_byId foundUser
    simp only [foundUser, Option.map_some, Database.withRelations, JwtStrategy.validateRow]
      at decision
    cases isActive : user.isActive with
    | false => simp [isActive, JwtAuthGuard.handleRequest] at decision
    | true =>
      simp only [isActive, Bool.not_true, Bool.false_eq_true, if_false,
        JwtAuthGuard.handleRequest, if_neg required] at decision
      have unlimited : Unlimited jwt.payload.tokenType := by
        intro limited
        simp [limited] at decision
      obtain ⟨row, storedRow, sameRow, verified⟩ := signed jwt member unlimited
      obtain rfl : row = user :=
        eq_of_key wellFormed.users.distinct storedRow stored (sameRow.trans same.symm)
      exact ⟨_, rfl, isActive, active row stored isActive, verified⟩

/-- One entry keeps the invariant. -/
theorem Entitled.record {world : ServiceWorld} {entry : ServiceEntry} (entitled : Entitled world)
    {regime : Regime State Effect.Reply Failure Request}
    (admissible : Admissible (service runtime) regime (fun _ => conduct earned) world entry) :
    Entitled (world.record entry) := by
  have performs : environment.Performs entry.before entry.effect entry.reply entry.after :=
    admissible.performs
  have ruled : earned (world.past entry.thread) entry.effect := admissible.ruled
  have current := admissible.current
  have lasting : ∀ userId, world.state.db.IdVerified userId → entry.after.db.IdVerified userId :=
    fun userId verified => idVerified_performs performs ruled (current ▸ verified)
  refine ⟨?_, ?_, ?_, ?_, ?_, ?_, ?_⟩
  · exact performs_wellFormed performs (current ▸ entitled.wellFormed)
  · exact activeVerified_performs performs ruled (current ▸ entitled.active)
  · intro row member unlimited
    rcases performs_refreshTokens performs member with
      ⟨old, stored, continues⟩ | ⟨statements, data, id, same, listed, _, continues⟩
    · rw [continues.userId]
      exact lasting _ (entitled.tokens old (current ▸ stored) (continues.tokenType ▸ unlimited))
    · rw [continues.userId]
      have full : data.tokenType = .full := by
        rw [continues.tokenType] at unlimited
        cases kind : data.tokenType with
        | full => rfl
        | limited => exact absurd (congrArg some kind) unlimited
      exact lasting _ (entitled.proven
        (earned_statements ruled statements same _ listed full))
  · intro jwt member unlimited
    rcases performs_signed performs with same | ⟨payload, expiresIn, signs, same⟩
    · rw [World.record_state, same, current] at member
      exact lasting _ (entitled.signed jwt member unlimited)
    · rw [World.record_state, same, current] at member
      rcases List.mem_cons.mp member with rfl | old
      · rw [signs] at ruled
        exact lasting _ (entitled.proven (ruled unlimited))
      · exact lasting _ (entitled.signed jwt old unlimited)
  · intro other member userId proves
    rcases List.mem_cons.mp member with rfl | old
    · exact proves_performs performs ruled (current ▸ entitled.tokens) proves
    · exact lasting _ (entitled.evidence other old userId proves)
  · intro other member data listed full
    rcases List.mem_cons.mp member with rfl | old
    · exact lasting _ (entitled.proven (earned_statements ruled _
        (congrArg Event.effect (mem_executed listed)) _ listed full))
    · exact lasting _ (entitled.issued other old data listed full)
  · intro other member
    rcases List.mem_cons.mp member with rfl | old
    · exact admitsVerified_of_state performs admissible.accepted (current ▸ entitled.wellFormed)
        (current ▸ entitled.active) (current ▸ entitled.signed)
    · exact entitled.admits other old

/-- Every run from an empty service keeps the invariant. -/
theorem chronicle_entitled {regime : Regime State Effect.Reply Failure Request}
    {clock : Timestamp} {world : ServiceWorld}
    (chronicle : Chronicle (service runtime) regime (fun _ => conduct earned) (State.empty clock)
      world) : Entitled world := by
  refine chronicle.invariant Entitled ?_ fun world entry _ entitled admissible =>
    entitled.record runtime admissible
  exact ⟨empty_wellFormed clock, by simp [Database.ActiveVerified, State.empty],
    by simp [State.empty], by simp [State.empty], by simp, by simp, by simp⟩

theorem entitled_of_reachable {clock : Timestamp} {pool : ServicePool}
    (reachable : Reachable (service runtime) Regime.free (State.empty clock) pool) :
    Entitled pool.world :=
  chronicle_entitled runtime (reachable_chronicle (fun _ => earned) reachable
    fun request _ => serve_earned runtime request)

/-- Full access takes a proven identity. In every run, whatever the interleaving, a full token
that is stored, that was ever stored or that was ever signed belongs to a user whose identity is
verified, and the guard of a route that requires a full token lets a request in only when the
user row read for it is active, has a verified email and a verified identity. -/
theorem full_access_requires_identity (runtime : Runtime) (clock : Timestamp) (pool : ServicePool)
    (reachable : Reachable (service runtime) Regime.free (State.empty clock) pool) :
    (∀ row ∈ pool.world.state.db.refreshTokens, row.tokenType = some .full →
        pool.world.state.db.IdVerified row.userId) ∧
      (∀ entry ∈ pool.world.history, ∀ data, .refreshTokenCreate data ∈ executed entry.event →
        data.tokenType = .full → pool.world.state.db.IdVerified data.userId) ∧
      (∀ jwt ∈ pool.world.state.signed, jwt.payload.tokenType = some .full →
        pool.world.state.db.IdVerified jwt.payload.sub) ∧
      ∀ entry ∈ pool.world.history, AdmitsVerified entry := by
  have entitled := entitled_of_reachable runtime reachable
  have unlimited : ∀ tokenType : Option TokenType, tokenType = some .full →
      Unlimited tokenType := by
    rintro _ rfl
    exact nofun
  exact ⟨fun row member full => entitled.tokens row member (unlimited _ full), entitled.issued,
    fun jwt member full => entitled.signed jwt member (unlimited _ full), entitled.admits⟩

/-- A foreigner registers, verifies the email, logs in and reads the profile. -/
def foreignerSchedule : List ServiceMove :=
  signedIn ++
  .accept (.getProfile ⟨⟨0, "a@x", some .full⟩, "15m"⟩) :: steps 3 [{}, {}, {}]

/-- In that run a full token is stored and signed. -/
theorem full_access_requires_identity_foreigner :
    (played .lax foreignerSchedule).world.state.db.refreshTokens.map (·.tokenType) =
        [some .full] ∧
      (played .lax foreignerSchedule).world.state.db.IdVerified 0 ∧
      ∀ entry ∈ (played .lax foreignerSchedule).world.history, AdmitsVerified entry := by
  obtain ⟨_, _, signed, admits⟩ := full_access_requires_identity legibleRuntime 0 _
    (played_reachable Referee.lax_upholds foreignerSchedule)
  have member : (⟨⟨0, "a@x", some .full⟩, "15m"⟩ : Jwt) ∈
      (played .lax foreignerSchedule).world.state.signed := by decide +kernel
  exact ⟨by decide +kernel, signed _ member rfl, admits⟩

end GraconAuth
