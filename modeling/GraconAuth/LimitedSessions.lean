/-
This file is about verified users holding no live limited session. Calls are served
one at a time and the database does not fail. A limited session is issued only to a
user whose row, read by the same call, is not verified, and the one call that
verifies a user revokes the limited sessions of that user before it ends.
-/

import GraconAuth.Rotations

namespace GraconAuth

open Interleaving Program Rows

variable (runtime : Runtime)

/-! ### A database that does not fail -/

/-- The environment without the answers in which the database fails. -/
def faultless : Interleaving.Environment State Choice Effect.Reply Failure :=
  fun state choice effect =>
    (environment state choice effect).filter fun answer => !struck ⟨effect, answer.1⟩

theorem faultless_performs {state next : State} {effect : Effect}
    {reply : Except Failure effect.Reply} :
    faultless.Performs state effect reply next ↔
      environment.Performs state effect reply next ∧ struck ⟨effect, reply⟩ = false := by
  constructor
  · rintro ⟨choice, answered⟩
    obtain ⟨answered, unstruck⟩ := Option.filter_eq_some_iff.mp answered
    exact ⟨⟨choice, answered⟩, by simpa using unstruck⟩
  · rintro ⟨⟨choice, answered⟩, unstruck⟩
    exact ⟨choice, Option.filter_eq_some_iff.mpr ⟨answered, by simpa using unstruck⟩⟩

theorem runs_faultless {Result : Type} {program : Async Result} {before after : State}
    {trace : List ServiceEvent} {outcome : Except Failure Result}
    (run : Runs environment program before trace outcome after)
    (unstruck : ∀ event ∈ trace, struck event = false) :
    Runs faultless program before trace outcome after := by
  induction program generalizing before trace with
  | done result => exact run
  | raise failure => exact run
  | await effect resume inductionHypothesis =>
    obtain ⟨reply, between, rest, rfl, performs, inner⟩ := run
    have unstruck := List.forall_mem_cons.mp unstruck
    exact ⟨reply, between, rest, rfl, faultless_performs.mpr ⟨performs, unstruck.1⟩,
      inductionHypothesis reply inner unstruck.2⟩

/-! ### Who is issued a limited session -/

/-- A user with this id has been read, and was not verified if the session is limited. -/
def Met (past : List ServiceEvent) (userId : UserId) (tokenType : TokenType) : Prop :=
  ∃ event ∈ past, ∃ user ∈ readUser event, user.id = userId ∧
    (tokenType = .limited → user.isIdVerified = false)

theorem Met.cons {past : List ServiceEvent} {userId : UserId} {tokenType : TokenType}
    (met : Met past userId tokenType) (event : ServiceEvent) :
    Met (event :: past) userId tokenType := by
  obtain ⟨read, member, facts⟩ := met
  exact ⟨read, List.mem_cons_of_mem _ member, facts⟩

/-- No identity is confirmed, and sessions and verification links are issued to users that were
met. -/
def Statement.Founded (past : List ServiceEvent) : Statement → Prop
  | .userUpdate _ data => data.isIdVerified = none
  | .refreshTokenCreate data => Met past data.userId data.tokenType
  | .emailVerificationTokenUpsert userId _ _ _ => Met past userId .full
  | _ => True

def founded (past : List ServiceEvent) : Effect → Prop
  | .execute statements => ∀ statement ∈ statements, statement.Founded past
  | _ => True

theorem harmless_founded (past : List ServiceEvent) (effect : Effect)
    (harmless : effect.Harmless) : founded past effect := by
  cases effect with
  | execute statements => exact harmless.elim
  | _ => trivial

theorem execute_founded {past : List ServiceEvent} {statement : Statement}
    (single : statement.Founded past) : founded past (.execute [statement]) :=
  List.forall_mem_singleton.mpr single

theorem generateTokens_founded (userId : UserId) (email : Email) (ipAddress userAgent : String)
    (tokenType : TokenType) {past : List ServiceEvent} (met : Met past userId tokenType) :
    (AuthService.generateTokens runtime userId email ipAddress userAgent tokenType).Abides
      (conduct founded) past :=
  abides_perform_bind trivial fun _ _ => abides_perform_bind trivial fun _ _ =>
    abides_perform_bind trivial fun _ _ =>
    abides_perform_bind (execute_founded (((met.cons _).cons _).cons _)) fun _ _ => trivial

theorem login_founded (dto : AuthService.LoginDto) (ipAddress userAgent : String)
    (past : List ServiceEvent) :
    (AuthService.login runtime dto ipAddress userAgent).Abides (conduct founded) past := by
  refine abides_perform_bind trivial fun user _ => ?_
  cases found : user.filter fun record =>
      AuthService.passwordValid runtime dto.password (some record) with
  | none => exact abides_perform_bind trivial fun _ _ => trivial
  | some record =>
    have read : user = some record := (Option.filter_eq_some_iff.mp found).1
    subst read
    refine abides_perform_bind trivial fun _ _ => abides_throwIf_bind fun _ =>
      abides_throwIf_bind fun _ => Abides.bind (generateTokens_founded runtime _ _ _ _ _ ?_)
        fun now tokens => (buildSafeProfile_uses runtime record).abides_bind harmless_founded
          fun _ _ _ => trivial
    refine ⟨_, List.mem_cons_of_mem _ List.mem_cons_self, record.user, rfl, rfl, fun limited => ?_⟩
    cases verified : record.user.isIdVerified with
    | false => rfl
    | true => simp [verified] at limited

theorem rotateRefreshToken_founded (tokenHash : TokenHash) (ipAddress userAgent : String)
    (requireFullToken : Bool) (past : List ServiceEvent) :
    (AuthService.rotateRefreshToken runtime tokenHash ipAddress userAgent requireFullToken).Abides
      (conduct founded) past := by
  refine abides_perform_bind trivial fun found _ => ?_
  match found with
  | none => trivial
  | some (storedToken, user) =>
    dsimp only
    split
    · exact abides_perform_bind (execute_founded trivial) fun _ _ =>
        abides_perform_bind trivial fun _ _ => trivial
    · refine abides_perform_bind trivial fun now _ => abides_throwIf_bind fun _ =>
        abides_throwIf_bind fun _ => abides_throwIf_bind fun _ =>
          abides_perform_bind (execute_founded trivial) fun _ _ =>
            generateTokens_founded runtime _ _ _ _ _ ?_
      refine ⟨_, List.mem_cons_of_mem _ (List.mem_cons_of_mem _ List.mem_cons_self), user, rfl, rfl,
        fun limited => ?_⟩
      -- A successor stays limited only when the user row is not verified.
      cases verified : user.isIdVerified with
      | false => rfl
      | true =>
        cases type : storedToken.tokenType.getD .full with
        | full => simp [AuthService.rotatedTokenType, type] at limited
        | limited => simp [AuthService.rotatedTokenType, verified, type] at limited

theorem runSingleFlightRefresh_founded (key : FlightKey) (task : Async AuthTokens)
    {past : List ServiceEvent} (keeps : ∀ past, task.Abides (conduct founded) past) :
    (AuthService.runSingleFlightRefresh key task).Abides (conduct founded) past := by
  refine abides_perform_bind trivial fun role _ => ?_
  cases role with
  | follower flight => exact abides_perform trivial
  | leader flight =>
    exact (keeps _).attempt.bind fun now outcome => abides_perform_bind trivial fun _ _ =>
      follows_ofOutcome.mpr trivial

theorem verifyEmail_founded (dto : UsersService.VerifyEmailDto) (past : List ServiceEvent) :
    (UsersService.verifyEmail runtime dto).Abides (conduct founded) past := by
  refine abides_perform_bind trivial fun found _ => ?_
  match found with
  | none => trivial
  | some (tokenRecord, record) =>
    dsimp only
    split
    · trivial
    · refine abides_throwIf_bind fun _ => abides_perform_bind trivial fun _ _ =>
        abides_throwIf_bind fun _ => abides_throwIf_bind fun _ => abides_perform_bind ?_ fun _ _ =>
        (decryptPid_uses runtime _).abides_bind harmless_founded fun _ _ grown =>
        (sendWelcomeEmail_uses _ _ _ _).abides_bind harmless_founded fun _ _ greeted => ?_
      · refine List.forall_mem_cons.mpr ⟨rfl, List.forall_mem_singleton.mpr trivial⟩
      · split
        · trivial
        · rename_i unverified
          have read := greeted.mem (grown.mem (List.mem_cons_of_mem _ (List.mem_cons_of_mem _
            List.mem_cons_self)))
          refine Abides.bind ?_ fun _ _ =>
            (buildVerificationSessionProfile_uses runtime _).abides_bind harmless_founded
              fun _ _ _ => trivial
          refine abides_perform_bind trivial fun _ _ => abides_perform_bind trivial fun _ _ =>
            abides_perform_bind trivial fun _ _ =>
            abides_perform_bind (execute_founded ?_) fun _ _ => trivial
          refine Met.cons (Met.cons (Met.cons ?_ _) _) _
          exact ⟨_, read, record.user, rfl, rfl, fun _ => Bool.not_eq_true _ |>.mp unverified⟩

theorem replaceVerificationToken_founded (userId : UserId) (recipient : Email)
    (identity : Option CitizenIdentityRow) {past : List ServiceEvent}
    (met : Met past userId .full) :
    (UsersService.replaceVerificationToken runtime userId recipient identity).Abides
      (conduct founded) past :=
  abides_perform_bind trivial fun _ _ => abides_perform_bind trivial fun _ _ =>
    abides_perform_bind (execute_founded ((met.cons _).cons _)) fun _ _ =>
    abides_rescue (abides_perform trivial) fun _ _ => trivial

theorem resendVerificationEmail_founded (dto : UsersService.ResendVerificationDto)
    (past : List ServiceEvent) :
    (UsersService.resendVerificationEmail runtime dto).Abides (conduct founded) past := by
  unfold UsersService.resendVerificationEmail
  split
  · trivial
  · refine abides_perform_bind trivial fun user _ => ?_
    cases user with
    | none => trivial
    | some record =>
      dsimp only
      split
      · trivial
      · refine abides_perform_bind trivial fun _ _ => abides_perform_bind trivial fun _ _ => ?_
        split
        · trivial
        · refine (replaceVerificationToken_founded runtime _ _ _ ?_).bind fun _ _ => trivial
          refine Met.cons (Met.cons ⟨_, List.mem_cons_self, record.user, rfl, rfl, ?_⟩ _) _
          intro limited
          cases limited

theorem updateProfile_founded (userId : UserId) (dto : UsersService.UpdateProfileDto)
    (past : List ServiceEvent) :
    (UsersService.updateProfile runtime userId dto).Abides (conduct founded) past := by
  refine abides_perform_bind trivial fun user expected => ?_
  cases user with
  | none => trivial
  | some record =>
    have owner : record.user.id = userId := expected
    dsimp only
    split
    · exact abides_perform_bind (execute_founded rfl) fun _ _ =>
        (getProfile_uses runtime userId).abides (harmless_founded · ·)
    · refine (rejectTakenEmail_uses _ _).abides_bind harmless_founded fun _ _ grown =>
        abides_perform_bind (execute_founded rfl) fun _ _ => Abides.bind
          (replaceVerificationToken_founded runtime _ _ _ ?_) fun _ _ =>
          (getProfile_uses runtime userId).abides (harmless_founded · ·)
      refine Met.cons ⟨_, grown.mem List.mem_cons_self, record.user, rfl, owner, ?_⟩ _
      intro limited
      cases limited

/-- A registration writes nothing but its transaction. -/
theorem register_founded (dto : UsersService.RegisterDto) (past : List ServiceEvent) :
    (UsersService.register runtime dto).Abides (conduct founded) past := by
  have harmless : ∀ effect : Effect, effect.Harmless → ∀ past, founded past effect :=
    fun effect harmless past => harmless_founded past effect harmless
  have uses : (UsersService.register runtime dto).Uses fun effect =>
      ∀ past, founded past effect := by
    refine uses_bind ((assertExclusiveIdentityInput_uses dto).mono harmless) fun _ =>
      uses_bind ((resolveRegistrationIdentity_uses dto).mono harmless) fun _ =>
      uses_bind (uses_perform fun _ => trivial) fun _ => uses_bind (uses_throwIf _ _) fun _ =>
      uses_bind (uses_perform fun _ => trivial) fun _ => uses_bind (uses_throwIf _ _) fun _ =>
      uses_bind ((bcryptHash_uses runtime _).mono harmless) fun _ =>
      uses_bind ((encrypt_uses runtime _).mono harmless) fun _ =>
      uses_bind ((generate_uses runtime _).mono harmless) fun _ =>
      uses_bind ((encrypt_uses runtime _).mono harmless) fun _ =>
      uses_bind (uses_perform fun _ => trivial) fun _ =>
      uses_bind (uses_perform fun _ => trivial) fun _ =>
      uses_bind (uses_rescue (uses_perform fun _ => trivial) fun _ => trivial) fun _ =>
      uses_bind (send_uses fun _ => trivial) fun _ => trivial
  exact uses.abides fun now _ allowed => allowed now

/-- Every call keeps to the rule, save the one that verifies an identity. -/
theorem serve_founded (request : Request) (other : request.submits = false) :
    (serve runtime request).Abides (conduct founded) [] := by
  refine serve_abides runtime request harmless_founded (fun _ _ => trivial) fun past userId _ => ?_
  cases request with
  | submitVerification jwt dto ipAddress => cases other
  | login dto ipAddress userAgent =>
    exact (login_founded runtime dto ipAddress userAgent past).bind fun _ _ => trivial
  | refreshTokens process refreshToken ipAddress userAgent =>
    exact (runSingleFlightRefresh_founded _ _ (rotateRefreshToken_founded runtime _ _ _ _)).bind
      fun _ _ => trivial
  | upgradeSession process refreshToken ipAddress userAgent =>
    exact Abides.bind (Abides.bind
      (runSingleFlightRefresh_founded _ _ (rotateRefreshToken_founded runtime _ _ _ _))
      fun _ _ => abides_throwIf_bind fun _ => trivial) fun _ _ => trivial
  | verifyEmail dto => exact (verifyEmail_founded runtime dto past).bind fun _ _ => trivial
  | register dto =>
    exact (register_founded runtime dto past).bind fun _ _ => trivial
  | resendVerificationEmail dto =>
    exact (resendVerificationEmail_founded runtime dto past).bind fun _ _ => trivial
  | updateProfile jwt dto =>
    exact (updateProfile_founded runtime userId dto past).bind fun _ _ => trivial
  | _ =>
    refine handle_abides runtime _ userId harmless_founded fun past effect awaits => ?_
    cases effect with
    | execute statements =>
      intro statement listed
      have writes := awaits_writes awaits statement listed
      cases statement with
      | userUpdate id data => exact (writes_unsubmitted rfl writes).1
      | refreshTokenCreate _ | emailVerificationTokenUpsert _ _ _ _ => exact writes.elim
      | _ => trivial
    | _ => trivial

/-! ### The invariant -/

/-- Between calls: every session belongs to an account, and no verified user has a live limited
one. -/
structure Database.Upgraded (db : Database) : Prop where
  users : Keyed db.nextId (db.users.map (·.id))
  owned : ∀ row ∈ db.refreshTokens, row.userId < db.nextId
  ended : ∀ user ∈ db.users, user.isIdVerified = true → ∀ row ∈ db.refreshTokens,
    row.userId = user.id → row.tokenType = some .limited → row.revoked = true

/-- What was read of a user still holds: the account is stored, and not verified if it was not. -/
def Database.Remembers (db : Database) (user : UserRow) : Prop :=
  user.id < db.nextId ∧ (user.isIdVerified = false →
    ∀ row ∈ db.users, row.id = user.id → row.isIdVerified = false)

/-- During a call that confirms no identity. -/
structure Unconfirmed (past : List ServiceEvent) (db : Database) : Prop where
  upgraded : db.Upgraded
  remembers : ∀ event ∈ past, ∀ user ∈ readUser event, db.Remembers user

section Keeps

variable {clock : Timestamp} {db next : Database} {past : List ServiceEvent}

/-- A change of users that keeps the columns in question. -/
theorem verified_of_updated {id : UserId} {data : UserUpdate} {user : UserRow}
    (unconfirming : data.isIdVerified = none)
    (member : user ∈ updateWhere (fun row => row.id == id) (fun row => row.apply data clock)
      db.users) :
    ∃ old ∈ db.users, user.id = old.id ∧ user.isIdVerified = old.isIdVerified := by
  obtain ⟨old, stored, rfl⟩ := mem_updateWhere.mp member
  refine ⟨old, stored, ?_⟩
  split
  · rw [apply_id, apply_isIdVerified, unconfirming]
    exact ⟨rfl, rfl⟩
  · exact ⟨rfl, rfl⟩

theorem upgraded_continues (upgraded : db.Upgraded) (users : next.users = db.users)
    (grown : db.nextId ≤ next.nextId)
    (continues : ∀ row ∈ next.refreshTokens, ∃ old ∈ db.refreshTokens, old.Continues row) :
    next.Upgraded := by
  refine ⟨?_, fun row stored => ?_, fun user member verified row stored owner limited => ?_⟩
  · rw [users]
    exact upgraded.users.grow grown
  · obtain ⟨old, before, same⟩ := continues row stored
    rw [same.userId]
    exact Nat.lt_of_lt_of_le (upgraded.owned old before) grown
  · obtain ⟨old, before, same⟩ := continues row stored
    rw [users] at member
    exact same.revoked (upgraded.ended user member verified old before
      (same.userId.symm.trans owner) (same.tokenType.symm.trans limited))

theorem unconfirmed_carried {statement : Statement} (founded : statement.Founded past)
    (unconfirmed : Unconfirmed past db) (carried : Carried clock db statement next) :
    Unconfirmed past next := by
  obtain ⟨upgraded, remembers⟩ := unconfirmed
  have still : next.users = db.users →
      ∀ event ∈ past, ∀ user ∈ readUser event, next.Remembers user := by
    intro same event member user read
    obtain ⟨known, unverified⟩ := remembers event member user read
    refine ⟨Nat.lt_of_lt_of_le known carried.nextId, ?_⟩
    rw [same]
    exact unverified
  have grown := carried.nextId
  cases carried with
  | userUpdate id data present free =>
    refine ⟨⟨upgraded.users.updateWhere fun _ => rfl, upgraded.owned, ?_⟩, ?_⟩
    · intro user member verified row stored owner limited
      obtain ⟨old, before, sameId, same⟩ := verified_of_updated founded member
      exact upgraded.ended old before (same ▸ verified) row stored (owner.trans sameId) limited
    · intro event member user read
      obtain ⟨known, unverified⟩ := remembers event member user read
      refine ⟨known, fun unproven row stored sameRow => ?_⟩
      obtain ⟨old, before, sameId, same⟩ := verified_of_updated founded stored
      rw [same]
      exact unverified unproven old before (sameId.symm.trans sameRow)
  | refreshTokenUpdate id present =>
    exact ⟨upgraded_continues upgraded rfl grown fun row => continues_of_mem_updateWhere, still rfl⟩
  | refreshTokenUpdateMany filter =>
    exact ⟨upgraded_continues upgraded rfl grown fun row => continues_of_mem_updateWhere, still rfl⟩
  | refreshTokenCreate data free =>
    obtain ⟨event, member, user, read, sameId, unproven⟩ := founded
    obtain ⟨known, unverified⟩ := remembers event member user read
    refine ⟨⟨upgraded.users.grow grown, ?_, ?_⟩, still rfl⟩
    · intro row stored
      rcases List.mem_append.mp stored with old | new
      · exact Nat.lt_succ_of_lt (upgraded.owned row old)
      · obtain rfl := List.mem_singleton.mp new
        exact Nat.lt_succ_of_lt (lt_of_eq_of_lt sameId.symm known)
    · intro other stored verified row storedRow owner limited
      rcases List.mem_append.mp storedRow with old | new
      · exact upgraded.ended other stored verified row old owner limited
      · obtain rfl := List.mem_singleton.mp new
        rw [unverified (unproven (Option.some.inj limited)) other stored
          (owner.symm.trans sameId.symm)] at verified
        cases verified
  | refreshTokenDeleteMany now =>
    refine ⟨upgraded_continues upgraded rfl grown fun row stored => ?_, still rfl⟩
    exact ⟨row, (mem_deleteWhere.mp stored).1, row.continues_refl⟩
  | _ =>
    exact ⟨upgraded_continues upgraded rfl grown fun row stored =>
      ⟨row, stored, row.continues_refl⟩, still rfl⟩

theorem unconfirmed_registered {data : RegistrationCreate} (unconfirmed : Unconfirmed past db)
    (ran : db.register clock data = .ok next) : Unconfirmed past next := by
  obtain ⟨upgraded, remembers⟩ := unconfirmed
  obtain ⟨counter, ⟨account, users, fresh, _⟩, tokens, _⟩ := register_tables ran
  have grown : db.nextId ≤ next.nextId := counter ▸ Nat.le_add_right _ _
  refine ⟨⟨?_, ?_, ?_⟩, ?_⟩
  · rw [users, List.map_append]
    exact upgraded.users.append (Nat.le_of_eq fresh.symm)
      (counter ▸ fresh ▸ Nat.lt_add_of_pos_right (by decide))
  · rw [tokens]
    exact fun row stored => Nat.lt_of_lt_of_le (upgraded.owned row stored) grown
  · rw [users, tokens]
    intro user member verified row stored owner limited
    rcases List.mem_append.mp member with old | new
    · exact upgraded.ended user old verified row stored owner limited
    · obtain rfl := List.mem_singleton.mp new
      exact absurd (upgraded.owned row stored) (by rw [owner, fresh]; exact Nat.lt_irrefl _)
  · intro event member user read
    obtain ⟨known, unverified⟩ := remembers event member user read
    refine ⟨Nat.lt_of_lt_of_le known grown, fun unproven row stored same => ?_⟩
    rw [users] at stored
    rcases List.mem_append.mp stored with old | new
    · exact unverified unproven row old same
    · obtain rfl := List.mem_singleton.mp new
      exact absurd known (by rw [← same, fresh]; exact Nat.lt_irrefl _)

end Keeps

/-- One effect that the rule allows. -/
theorem unconfirmed_performs {past : List ServiceEvent} {state next : State} {effect : Effect}
    {reply : Except Failure effect.Reply} (allowed : founded past effect)
    (unconfirmed : Unconfirmed past state.db)
    (performs : environment.Performs state effect reply next) :
    Unconfirmed (⟨effect, reply⟩ :: past) next.db := by
  have kept : Unconfirmed past next.db := by
    refine performs_preserves (Unconfirmed past) performs ?_
      (fun _ _ holds ran => unconfirmed_registered holds ran) ?_ unconfirmed
    · rintro statements rfl statement member now later holds carried
      exact unconfirmed_carried (allowed statement member) holds carried
    · intro log holds
      exact ⟨upgraded_continues holds.upgraded rfl (Nat.le_succ _) fun row stored =>
        ⟨row, stored, row.continues_refl⟩, fun event member user read =>
        ⟨Nat.lt_succ_of_lt (holds.remembers event member user read).1,
          (holds.remembers event member user read).2⟩⟩
  refine ⟨kept.upgraded, fun event member user read => ?_⟩
  rcases List.mem_cons.mp member with rfl | old
  · obtain ⟨stored, same⟩ := performs_readUser performs read
    rw [same]
    refine ⟨unconfirmed.upgraded.users.below _ (List.mem_map_of_mem stored),
      fun unproven row storedRow sameId => ?_⟩
    rw [eq_of_key unconfirmed.upgraded.users.distinct storedRow stored sameId]
    exact unproven
  · exact kept.remembers event old user read

/-! ### The call that verifies an identity -/

/-- The sessions are upgraded in this state. -/
abbrev Upgrades (state : State) : Prop := state.db.Upgraded

theorem Database.Upgraded.unconfirmed {db : Database} (upgraded : db.Upgraded) :
    Unconfirmed [] db :=
  ⟨upgraded, by simp⟩

/-- What neither issues a session nor confirms an identity keeps the sessions upgraded. -/
theorem calm_keeps {Result : Type} {program : Async Result} (calm : program.Uses (founded [])) :
    program.Keeps faultless Upgrades :=
  calm.keeps fun _ _ _ _ allowed upgraded performs => (unconfirmed_performs allowed
    upgraded.unconfirmed (faultless_performs.mp performs).1).upgraded

theorem harmless_keeps {Result : Type} {program : Async Result}
    (harmless : program.Uses Effect.Harmless) : program.Keeps faultless Upgrades :=
  calm_keeps (harmless.mono (harmless_founded []))

theorem perform_keeps (effect : Effect) (calm : founded [] effect) :
    (request effect).Keeps faultless Upgrades :=
  calm_keeps (uses_perform calm)

/-- Confirming an identity and revoking the limited sessions of the user. -/
theorem upgraded_confirmed {clock later : Timestamp} {db between next : Database}
    {userId : UserId} {data : UserUpdate} (upgraded : db.Upgraded)
    (confirms : Carried clock db (.userUpdate userId data) between)
    (revokes : Carried later between
      (.refreshTokenUpdateMany { userId := some userId, tokenType := some .limited }) next) :
    next.Upgraded := by
  cases confirms with
  | userUpdate id data present free =>
    cases revokes with
    | refreshTokenUpdateMany filter =>
      refine ⟨upgraded.users.updateWhere fun _ => rfl, fun row stored => ?_,
        fun user member verified row stored owner limited => ?_⟩
      · obtain ⟨old, before, continues⟩ := continues_of_mem_updateWhere stored
        rw [continues.userId]
        exact upgraded.owned old before
      · obtain ⟨old, before, rfl⟩ := mem_updateWhere.mp stored
        obtain ⟨account, storedAccount, rfl⟩ := mem_updateWhere.mp member
        split
        · rfl
        · rename_i unmatched
          rw [if_neg unmatched] at owner limited
          by_cases confirmed : (account.id == userId) = true
          · rw [if_pos confirmed, apply_id, beq_iff_eq.mp confirmed] at owner
            cases live : old.revoked with
            | true => rfl
            | false =>
              simp [RefreshTokenWhere.holds, columnHolds, owner, limited, live] at unmatched
          · rw [if_neg confirmed] at owner verified
            exact upgraded.ended account storedAccount verified old before owner limited

theorem performs_carried {state next : State} {statement : Statement} {reply : Except Failure Unit}
    (performs : faultless.Performs state (.execute [statement]) reply next) :
    reply = .ok () ∧ Carried next.clock state.db statement next.db := by
  obtain ⟨performs, unstruck⟩ := faultless_performs.mp performs
  rcases performs_execute performs with ⟨rfl, ran⟩ | ⟨⟨error, rfl⟩, _⟩
  · exact ⟨rfl, runAll_singleton ran⟩
  · cases unstruck

/-- The session that follows the upgrade is a full one. -/
theorem upgradeToken_keeps {userId : UserId} {ipAddress userAgent : String} {before after : State}
    {trace : List ServiceEvent} {outcome : Except Failure AuthTokens}
    (run : Runs faultless (AuthService.upgradeToken runtime userId ipAddress userAgent) before trace
      outcome after)
    (revoked : ∀ clock next, Carried clock before.db
      (.refreshTokenUpdateMany { userId := some userId, tokenType := some .limited }) next →
        next.Upgraded) : after.db.Upgraded := by
  obtain ⟨reply, between, rest, rfl, performs, run⟩ := runs_perform_bind.mp run
  obtain ⟨rfl, revokes⟩ := performs_carried performs
  have upgraded := revoked _ _ revokes
  refine (run.invariant
    (fun _ _ _ _ performs => performs_plausible (faultless_performs.mp performs).1)
    (?_ : Program.Abides (conduct founded) _ []) (fun past state => Unconfirmed past state.db)
    upgraded.unconfirmed
    fun _ _ _ _ _ allowed unconfirmed performs => unconfirmed_performs allowed unconfirmed
      (faultless_performs.mp performs).1).upgraded
  refine abides_perform_bind trivial fun user _ => ?_
  cases user with
  | none => trivial
  | some record =>
    exact generateTokens_founded runtime _ _ _ _ _
      ⟨_, List.mem_cons_self, record.user, rfl, rfl, fun limited => by cases limited⟩

theorem applyVerdict_keeps (userId : UserId) (wasAlreadyVerified passed : Bool)
    (ipAddress : String) :
    (VerificationService.applyVerdict runtime userId wasAlreadyVerified passed ipAddress).Keeps
      faultless Upgrades := by
  unfold VerificationService.applyVerdict
  split
  · refine (perform_keeps .now trivial).bind fun now => ?_
    intro before trace outcome after run upgraded
    obtain ⟨reply, confirmed, rest, rfl, performs, run⟩ := runs_perform_bind.mp run
    obtain ⟨rfl, confirms⟩ := performs_carried performs
    rw [ofOutcome_ok, done_bind] at run
    obtain ⟨_, _, ended, between, _, runUpgrade, run⟩ := runs_bind.mp run
    have upgraded := upgradeToken_keeps runtime runUpgrade fun _ _ revokes =>
      upgraded_confirmed upgraded confirms revokes
    cases ended with
    | ok tokens =>
      obtain ⟨_, _, rfl⟩ := run
      exact upgraded
    | error failure =>
      obtain ⟨_, _, rfl⟩ := run
      exact upgraded
  · exact calm_keeps (uses_bind (uses_perform (execute_founded rfl)) fun _ => trivial)

theorem submitVerification_keeps (userId : UserId)
    (dto : VerificationService.SubmitVerificationDto) (ipAddress : String) :
    (VerificationService.submitVerification runtime userId dto ipAddress).Keeps faultless
      Upgrades := by
  have window : ∀ effect : Effect,
      (effect.Harmless ∨ ∃ userId since, effect = .idVerificationFindMany userId since) →
      founded [] effect := by
    rintro effect (harmless | ⟨_, _, rfl⟩)
    · exact harmless_founded [] effect harmless
    · trivial
  have record : ∀ data, (VerificationService.recordAttempt data).Keeps faultless Upgrades :=
    fun data => calm_keeps (uses_rescue (uses_perform (execute_founded trivial)) fun _ => trivial)
  have throws : ∀ condition failure,
      (throwIf condition failure : Async Unit).Keeps faultless Upgrades :=
    fun condition failure => harmless_keeps (uses_throwIf condition failure)
  have engine : ∀ payload,
      (VerificationService.callVerificationEngine payload).Keeps faultless Upgrades :=
    fun payload => calm_keeps (uses_rescue (uses_perform
      (show founded [] (.callEngine payload) from trivial)) fun _ => trivial)
  refine (perform_keeps (.userFindUnique _) trivial).bind fun user => ?_
  cases user with
  | none => exact harmless_keeps trivial
  | some user =>
    refine (throws _ _).bind fun _ => (throws _ _).bind fun _ => (throws _ _).bind fun _ =>
      (calm_keeps ((enforceAttemptLimit_uses runtime userId).mono window)).bind fun _ => ?_
    unfold VerificationService.verifyIdentity
    split
    · exact harmless_keeps trivial
    · refine (throws _ _).bind fun _ => (harmless_keeps (decrypt_uses runtime _)).bind fun _ =>
        (harmless_keeps (uploadImages_uses _ _ _)).bind fun keys =>
        (engine _).attempt.bind fun answer => ?_
      cases answer with
      | error failure =>
        exact (harmless_keeps (cleanupImages_uses _ _)).bind fun _ =>
          (harmless_keeps (getNextAttemptNumber_uses _)).bind fun _ =>
          (record _).bind fun _ => harmless_keeps trivial
      | ok answer =>
        exact (harmless_keeps (getNextAttemptNumber_uses _)).bind fun _ =>
          (record _).bind fun _ => (harmless_keeps (cleanupImages_uses _ _)).bind fun _ =>
          (applyVerdict_keeps runtime _ _ _ _).bind fun _ =>
          (perform_keeps (.securityEvent _ _ _) trivial).bind fun _ =>
          (calm_keeps ((getVerificationWindowState_uses runtime userId).mono window)).bind
            fun _ => harmless_keeps trivial

/-! ### Every run -/

/-- Serving any call keeps the sessions upgraded. -/
theorem serve_keeps (request : Request) :
    (serve runtime request).Keeps faultless Upgrades := by
  by_cases submits : request.submits = true
  · cases request with
    | submitVerification jwt dto ipAddress =>
      refine Program.Keeps.bind (Program.Keeps.attempt ?_) fun _ =>
        (perform_keeps (.respond _) trivial).bind fun _ => calm_keeps (uses_ofOutcome _)
      exact (harmless_keeps (canActivate_uses _ _)).bind fun user =>
        (submitVerification_keeps runtime user.userId dto ipAddress).bind fun _ =>
          harmless_keeps trivial
    | _ => cases submits
  · intro before trace outcome after run upgraded
    exact (run.invariant
      (fun _ _ _ _ performs => performs_plausible (faultless_performs.mp performs).1)
      (serve_founded runtime request (Bool.not_eq_true _ |>.mp submits))
      (fun past state => Unconfirmed past state.db) upgraded.unconfirmed
      fun _ _ _ _ _ allowed unconfirmed performs => unconfirmed_performs allowed unconfirmed
        (faultless_performs.mp performs).1).upgraded

/-- Whatever calls are served one after another without a database failure, between calls no user
whose identity is verified has a limited session that is not revoked. -/
theorem verified_users_hold_no_limited_session (runtime : Runtime) (clock : Timestamp)
    (log : List ServiceServed) (state : State)
    (serial : SerialRun (service runtime) (State.empty clock) log state)
    (unstruck : ∀ served ∈ log, ∀ event ∈ served.trace, struck event = false) :
    ∀ user ∈ state.db.users, user.isIdVerified = true → ∀ row ∈ state.db.refreshTokens,
      row.userId = user.id → row.tokenType = some .limited → row.revoked = true := by
  have upgraded : state.db.Upgraded := by
    induction serial with
    | start =>
      exact ⟨⟨List.nodup_nil, by simp [State.empty]⟩, by simp [State.empty], by simp [State.empty]⟩
    | @serve log served earlier valid inductionHypothesis =>
      have unstruck := List.forall_mem_cons.mp unstruck
      exact serve_keeps runtime served.request _ _ _ _ (runs_faultless valid.runs unstruck.1)
        (inductionHypothesis unstruck.2)
  exact upgraded.ended

/-- The citizen verifies the email and then the identity. -/
def citizenVerified : List (Request × List Choice) :=
  citizenSerially ++ [(submission,
    List.replicate 30 { text := "r2", engine := ⟨true, 1, 1, true, 1, none⟩ })]

/-- The session of the citizen ends when the identity is verified. -/
theorem verified_users_hold_no_limited_session_citizen :
    (∃ user ∈ (playedSerially citizenVerified).2.db.users, user.isIdVerified = true) ∧
      ∀ user ∈ (playedSerially citizenVerified).2.db.users, user.isIdVerified = true →
        ∀ row ∈ (playedSerially citizenVerified).2.db.refreshTokens, row.userId = user.id →
          row.tokenType = some .limited → row.revoked = true :=
  ⟨by decide +kernel, verified_users_hold_no_limited_session legibleRuntime 0 _ _
    (playedSerially_run citizenVerified) (by decide +kernel)⟩

end GraconAuth
