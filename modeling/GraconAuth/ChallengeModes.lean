/-
This file is about the invitation mode of a submission neither weakening nor extending
the verification of an account. For a user that is not verified the two modes run in
lockstep: they await the same effects and differ in the message and in the mode they
report. For a verified user the standard mode is rejected, and the invitation mode
leaves the verification and the sessions of every account as they were.
-/

import GraconAuth.LimitedSessions
import GraconAuth.Lockstep
import GraconAuth.TemporaryImages

namespace GraconAuth

open Interleaving Program Rows VerificationService

variable (runtime : Runtime)

/-- A submission in this mode, with the uploads side by side. -/
def submitIn (challengeMode : ChallengeMode) (schedule : List Bool) (userId : UserId)
    (dto : SubmitVerificationDto) (ipAddress : String) : Async VerificationResult :=
  submitVerificationTogether runtime schedule userId { dto with challengeMode } ipAddress

/-- The results differ in the message and the mode only. -/
def SameButMode (one two : VerificationResult) : Prop :=
  one = { two with message := one.message, challengeMode := one.challengeMode }

/-- The account is not verified, if it exists. -/
def State.Unverified (state : State) (userId : UserId) : Prop :=
  ∀ user, state.db.findUser (.byId userId) = some user → user.isIdVerified = false

/-- The account is verified. -/
def State.Verified (state : State) (userId : UserId) : Prop :=
  ∃ user, state.db.findUser (.byId userId) = some user ∧ user.isIdVerified = true

/-- What the tables say about the verification of every account. -/
def Database.verifications (db : Database) : List (UserId × Bool × Option Timestamp) :=
  db.users.map fun row => (row.id, row.isIdVerified, row.idVerifiedAt)

/-- Nothing has happened but that time has passed. -/
def OnlyTimePassed (before after : State) : Prop :=
  ∃ elapsed, after = before.tick elapsed

/-- No verification and no session has changed. -/
structure KeepsVerified (before after : State) : Prop where
  verifications : after.db.verifications = before.db.verifications
  refreshTokens : after.db.refreshTokens = before.db.refreshTokens

/-- The invitation mode does what the standard mode does for an account that is not verified, and
for a verified account neither has an effect on the verification and the sessions. -/
structure NeitherWeakensNorExtends (runtime : Runtime) (schedule : List Bool) (userId : UserId)
    (dto : SubmitVerificationDto) (ipAddress : String) (state : State) : Prop where
  unverified : state.Unverified userId → ∀ choices,
    Option.Rel (EndsAlike SameButMode)
      ((submitIn runtime .invitation schedule userId dto ipAddress).play environment state choices)
      ((submitIn runtime .standard schedule userId dto ipAddress).play environment state choices)
  standard : state.Verified userId → ∀ trace outcome after,
    Runs environment (submitIn runtime .standard schedule userId dto ipAddress) state trace outcome
      after → outcome.isOk = false ∧ OnlyTimePassed state after
  invitation : state.Verified userId → ∀ trace outcome after,
    Runs environment (submitIn runtime .invitation schedule userId dto ipAddress) state trace
      outcome after →
        (∀ result, outcome = .ok result → result.upgradedTokens = none) ∧
          KeepsVerified state after

/-! ### The two modes in lockstep -/

variable {runtime} {uploads : Async (ObjectKey × ObjectKey)} {userId : UserId}
  {record : UserRecord} {ipAddress : String}

/-- What a submission does for the user that it has read. -/
def submitFor (runtime : Runtime) (uploads : Async (ObjectKey × ObjectKey)) (userId : UserId)
    (dto : SubmitVerificationDto) (ipAddress : String) :
    Option UserRecord → Async VerificationResult
  | none => throw EmailNotVerifiedException
  | some record => do
    throwIf (!record.user.isVerified || !record.user.isActive) EmailNotVerifiedException
    throwIf (record.citizenIdentity.any fun identity => identity.identityType == .FIN)
      (BadRequestException "Biometric verification is not required for foreign identity users.")
    throwIf (record.user.isIdVerified && dto.challengeMode != .invitation)
      VerificationAlreadyPassedException
    let _ ← enforceAttemptLimit runtime userId
    verifyIdentityWith runtime uploads userId record dto ipAddress

theorem submitVerificationWith_eq (dto : SubmitVerificationDto) :
    submitVerificationWith runtime uploads userId dto ipAddress =
      request (.userFindUnique (.byId userId)) >>= submitFor runtime uploads userId dto ipAddress :=
  congrArg (_ >>= ·) (funext fun user => by cases user <;> rfl)

theorem sameButMode_refl (result : VerificationResult) : SameButMode result result := rfl

/-- The engine's answer is dealt with alike. -/
theorem engineAnswered_lockstep (one two : ChallengeMode) (identity : CitizenIdentityRow)
    (dto : SubmitVerificationDto) (keys : ObjectKey × ObjectKey)
    (answer : EngineVerificationResponse) :
    Lockstep SameButMode
      (engineAnswered runtime userId record identity { dto with challengeMode := one } keys
        ipAddress answer)
      (engineAnswered runtime userId record identity { dto with challengeMode := two } keys
        ipAddress answer) := by
  refine .after _ fun attemptNumber => .after _ fun _ => .after _ fun _ => ?_
  exact .after _ fun upgradedTokens => .after _ fun _ => .after _ fun state => .done rfl

/-- From the document check on, the modes do the same. -/
theorem verifyIdentityWith_lockstep (one two : ChallengeMode) (dto : SubmitVerificationDto) :
    Lockstep SameButMode
      (verifyIdentityWith runtime uploads userId record { dto with challengeMode := one } ipAddress)
      (verifyIdentityWith runtime uploads userId record { dto with challengeMode := two }
        ipAddress) := by
  unfold verifyIdentityWith
  split
  · exact .raise _
  · refine .after _ fun _ => .after _ fun storedNid => .after _ fun keys =>
      .after _ fun answer => ?_
    cases answer with
    | error failure => exact .refl sameButMode_refl _
    | ok answer => exact engineAnswered_lockstep one two _ dto keys answer

/-- A user that is not verified passes the same gates in both modes. -/
theorem submitFor_lockstep (dto : SubmitVerificationDto) {user : Option UserRecord}
    (unverified : ∀ record ∈ user, record.user.isIdVerified = false) :
    Lockstep SameButMode
      (submitFor runtime uploads userId { dto with challengeMode := .invitation } ipAddress user)
      (submitFor runtime uploads userId { dto with challengeMode := .standard } ipAddress
        user) := by
  cases user with
  | none => exact .raise _
  | some record =>
    refine .after _ fun _ => .after _ fun _ => ?_
    rw [unverified record rfl, Bool.false_and, Bool.false_and]
    exact .after _ fun _ => .after _ fun _ =>
      verifyIdentityWith_lockstep .invitation .standard dto

theorem submitIn_alike {schedule : List Bool} {dto : SubmitVerificationDto} {state : State}
    (unverified : state.Unverified userId) (choices : List Choice) :
    Option.Rel (EndsAlike SameButMode)
      ((submitIn runtime .invitation schedule userId dto ipAddress).play environment state choices)
      ((submitIn runtime .standard schedule userId dto ipAddress).play environment state
        choices) := by
  unfold submitIn submitVerificationTogether
  rw [submitVerificationWith_eq, submitVerificationWith_eq]
  refine Lockstep.play_await fun choice reply next rest answered => ?_
  cases reply with
  | error failure => exact (Lockstep.raise failure).play environment next rest
  | ok found =>
    have read := performs_userFindUnique ⟨choice, answered⟩
    refine (submitFor_lockstep dto fun record located => ?_).play environment next rest
    rw [read] at located
    obtain ⟨user, stored, rfl⟩ := Option.map_eq_some_iff.mp located
    exact unverified user stored

/-! ### A verified user -/

/-- The effect writes nothing but attempts and the number of them. -/
def Effect.countsOnly : Effect → Prop
  | .execute statements => ∃ data userId, statements = [.idVerificationCreate data] ∨
    statements = [.userUpdate userId { incrementVerificationAttempts := true }]
  | .registerTransaction _ => False
  | _ => True

theorem harmless_countsOnly {effect : Effect} (harmless : effect.Harmless) :
    effect.countsOnly := by
  unfold Effect.countsOnly
  split
  · exact harmless.elim
  · exact harmless.elim
  · trivial

theorem performs_countsOnly {state next : State} {effect : Effect}
    {reply : Except Failure effect.Reply} (countsOnly : effect.countsOnly)
    (performs : environment.Performs state effect reply next) : KeepsVerified state next := by
  rcases performs_db performs with same | ⟨statements, event, ran⟩ | ⟨data, event, _⟩ | ⟨log, same⟩
  · exact ⟨by rw [same], by rw [same]⟩
  · obtain rfl : effect = _ := congrArg Event.effect event
    have kept := runAll_preserves (fun db => db.verifications = state.db.verifications ∧
      db.refreshTokens = state.db.refreshTokens) ran ?_ ⟨rfl, rfl⟩
    · exact ⟨kept.1, kept.2⟩
    intro statement member now later holds carried
    obtain ⟨data, userId, rfl | rfl⟩ := countsOnly
    · obtain rfl := List.mem_singleton.mp member
      cases carried
      exact holds
    · obtain rfl := List.mem_singleton.mp member
      cases carried
      have kept : ∀ row : UserRow, (fun row : UserRow => (row.id, row.isIdVerified,
          row.idVerifiedAt)) (row.apply { incrementVerificationAttempts := true } next.clock) =
          (row.id, row.isIdVerified, row.idVerifiedAt) := fun _ => rfl
      exact ⟨(map_updateWhere kept now.users).trans holds.1, holds.2⟩
  · obtain rfl : effect = _ := congrArg Event.effect event
    exact countsOnly.elim
  · exact ⟨by rw [same]; rfl, by rw [same]⟩

theorem KeepsVerified.trans {first second third : State} (one : KeepsVerified first second)
    (two : KeepsVerified second third) : KeepsVerified first third :=
  ⟨two.verifications.trans one.verifications, two.refreshTokens.trans one.refreshTokens⟩

theorem keepsVerified_of_runs {Result : Type} {program : Async Result} {before after : State}
    {trace : List ServiceEvent} {outcome : Except Failure Result}
    (run : Runs environment program before trace outcome after)
    (uses : program.Uses Effect.countsOnly) : KeepsVerified before after :=
  run.preserves uses
    (fun _ _ _ _ countsOnly kept performs => kept.trans (performs_countsOnly countsOnly performs))
    ⟨rfl, rfl⟩

theorem getVerificationWindowState_countsOnly :
    (getVerificationWindowState runtime userId).Uses Effect.countsOnly := by
  refine (getVerificationWindowState_uses runtime userId).mono fun effect inside => ?_
  rcases inside with harmless | ⟨_, _, rfl⟩
  · exact harmless_countsOnly harmless
  · trivial

theorem recordAttempt_countsOnly (data : IdVerificationCreate) :
    (recordAttempt data).Uses Effect.countsOnly :=
  uses_rescue (uses_perform ⟨data, 0, .inl rfl⟩) fun _ => trivial

/-- For a verified user the verdict only counts the attempt. -/
theorem engineAnswered_countsOnly (verified : record.user.isIdVerified = true)
    (identity : CitizenIdentityRow) (dto : SubmitVerificationDto) (keys : ObjectKey × ObjectKey)
    (answer : EngineVerificationResponse) :
    (engineAnswered runtime userId record identity dto keys ipAddress answer).Uses
      Effect.countsOnly := by
  refine uses_bind ((getNextAttemptNumber_uses userId).mono fun _ => harmless_countsOnly) fun _ =>
    uses_bind (recordAttempt_countsOnly _) fun _ =>
    uses_bind ((cleanupImages_uses _ _).mono fun _ => harmless_countsOnly) fun _ =>
    uses_bind ?_ fun _ => uses_bind (uses_perform trivial) fun _ =>
    uses_bind getVerificationWindowState_countsOnly fun _ => trivial
  rw [verified, applyVerdict, Bool.not_true, Bool.and_false]
  exact uses_bind (uses_perform ⟨⟨0, 0, false, 0, 0, 0, false, none, ""⟩, userId, .inr rfl⟩)
    fun _ => trivial

theorem submitFor_countsOnly (schedule : List Bool) (dto : SubmitVerificationDto)
    (verified : record.user.isIdVerified = true) :
    (submitFor runtime (uploadImagesTogether schedule userId dto.idCardFile dto.selfieFile) userId
      dto ipAddress (some record)).Uses Effect.countsOnly := by
  have uploads : ∀ effect : Effect, effect.Uploads → effect.countsOnly :=
    fun effect inside => harmless_countsOnly inside.harmless
  have gate : (enforceAttemptLimit runtime userId).Uses Effect.countsOnly := by
    unfold enforceAttemptLimit
    split
    · trivial
    · exact uses_bind getVerificationWindowState_countsOnly fun _ =>
        uses_bind (uses_throwIf _ _) fun _ => trivial
  refine uses_bind (uses_throwIf _ _) fun _ => uses_bind (uses_throwIf _ _) fun _ =>
    uses_bind (uses_throwIf _ _) fun _ => uses_bind gate fun _ => ?_
  unfold verifyIdentityWith
  split
  · trivial
  · refine uses_bind (uses_throwIf _ _) fun _ => uses_bind (uses_ofOutcome _) fun _ =>
      uses_bind (uses_rescue (uses_both ((uploadVerificationImage_uses _ _ _).mono uploads)
        ((uploadVerificationImage_uses _ _ _).mono uploads) schedule) fun _ => trivial) fun keys =>
      uses_bind (uses_attempt (uses_rescue (uses_perform trivial) fun _ => trivial))
        fun answer => ?_
    cases answer with
    | error failure =>
      exact uses_bind ((cleanupImages_uses _ _).mono fun _ => harmless_countsOnly) fun _ =>
        uses_bind ((getNextAttemptNumber_uses _).mono fun _ => harmless_countsOnly) fun _ =>
        uses_bind (recordAttempt_countsOnly _) fun _ => trivial
    | ok answer => exact engineAnswered_countsOnly verified _ dto keys answer

/-- The effects are unrestricted. -/
def unrestricted : ServiceConduct where
  expects _ := True
  allows _ _ := True

/-- No session is issued. -/
def IssuesNone (_ : List ServiceEvent) (outcome : Except Failure VerificationResult) : Prop :=
  ∀ result, outcome = .ok result → result.upgradedTokens = none

theorem issuesNone_error (past : List ServiceEvent) (failure : Failure) :
    IssuesNone past (.error failure) :=
  fun _ ended => by cases ended

theorem issuesNone_bind {First : Type} {program : Async First}
    {next : First → Async VerificationResult} {past : List ServiceEvent}
    (rest : ∀ now result, (next result).Follows unrestricted IssuesNone now) :
    (program >>= next).Follows unrestricted IssuesNone past :=
  (uses_any program).follows_bind (fun _ _ _ _ => trivial) (fun now result _ => rest now result)
    fun now failure _ => issuesNone_error now failure

/-- A verified user is not issued a session. -/
theorem submitFor_issuesNone (uploads : Async (ObjectKey × ObjectKey)) (dto : SubmitVerificationDto)
    (verified : record.user.isIdVerified = true) (past : List ServiceEvent) :
    (submitFor runtime uploads userId dto ipAddress (some record)).Follows unrestricted IssuesNone
      past := by
  refine issuesNone_bind fun _ _ => issuesNone_bind fun _ _ => issuesNone_bind fun _ _ =>
    issuesNone_bind fun past _ => ?_
  unfold verifyIdentityWith
  split
  · exact issuesNone_error past _
  · refine issuesNone_bind fun _ _ => issuesNone_bind fun _ _ => issuesNone_bind fun _ _ =>
      issuesNone_bind fun _ answer => ?_
    cases answer with
    | error failure =>
      exact issuesNone_bind fun _ _ => issuesNone_bind fun _ _ => issuesNone_bind fun _ _ =>
        issuesNone_error _ _
    | ok answer =>
      refine issuesNone_bind fun _ _ => issuesNone_bind fun _ _ => issuesNone_bind fun past _ => ?_
      rw [verified, applyVerdict, Bool.not_true, Bool.and_false, if_neg Bool.false_ne_true,
        bind_assoc]
      refine issuesNone_bind fun _ _ => ?_
      rw [pure_eq, done_bind]
      refine issuesNone_bind fun _ _ => issuesNone_bind fun _ _ => ?_
      rintro result ⟨⟩
      rfl

/-! ### What the two modes come to -/

section Verified

variable {schedule : List Bool} {dto : SubmitVerificationDto} {before after : State}
  {trace : List ServiceEvent} {outcome : Except Failure VerificationResult}

/-- A read of the accounts only takes time. -/
theorem performs_onlyTimePassed {filter : UserWhere} {state next : State}
    {reply : Except Failure (Option UserRecord)}
    (performs : environment.Performs state (.userFindUnique filter) reply next) :
    OnlyTimePassed state next := by
  obtain ⟨choice, answered⟩ := performs
  exact ⟨choice.elapsed, (query_cases answered).1⟩

theorem runs_submitIn_standard (verified : before.Verified userId)
    (run : Runs environment (submitIn runtime .standard schedule userId dto ipAddress) before trace
      outcome after) : outcome.isOk = false ∧ OnlyTimePassed before after := by
  obtain ⟨user, stored, passed⟩ := verified
  unfold submitIn submitVerificationTogether at run
  rw [submitVerificationWith_eq] at run
  obtain ⟨reply, between, rest, rfl, performs, run⟩ := run
  have untouched := performs_onlyTimePassed performs
  cases reply with
  | error failure =>
    obtain ⟨_, rfl, rfl⟩ := run
    exact ⟨rfl, untouched⟩
  | ok found =>
    obtain rfl := performs_userFindUnique performs
    rw [stored] at run
    rcases runs_throwIf_bind.mp run with ⟨_, _, rfl, rfl⟩ | ⟨_, run⟩
    · exact ⟨rfl, untouched⟩
    rcases runs_throwIf_bind.mp run with ⟨_, _, rfl, rfl⟩ | ⟨_, run⟩
    · exact ⟨rfl, untouched⟩
    rcases runs_throwIf_bind.mp run with ⟨_, _, rfl, rfl⟩ | ⟨open_, _⟩
    · exact ⟨rfl, untouched⟩
    · rw [show (before.db.withRelations user).user = user from rfl, passed] at open_
      cases open_

theorem runs_submitIn_invitation (verified : before.Verified userId)
    (run : Runs environment (submitIn runtime .invitation schedule userId dto ipAddress) before
      trace outcome after) :
    (∀ result, outcome = .ok result → result.upgradedTokens = none) ∧
      KeepsVerified before after := by
  obtain ⟨user, stored, passed⟩ := verified
  unfold submitIn submitVerificationTogether at run
  rw [submitVerificationWith_eq] at run
  obtain ⟨reply, between, rest, rfl, performs, run⟩ := run
  have asked : (Effect.userFindUnique (.byId userId)).countsOnly := trivial
  have kept := performs_countsOnly asked performs
  cases reply with
  | error failure =>
    obtain ⟨_, rfl, rfl⟩ := run
    exact ⟨issuesNone_error [] failure, kept⟩
  | ok found =>
    obtain rfl := performs_userFindUnique performs
    rw [stored] at run
    have record : (before.db.withRelations user).user.isIdVerified = true := passed
    refine ⟨run.post (fun _ _ _ _ _ => trivial) (submitFor_issuesNone _ _ record []), ?_⟩
    exact kept.trans (keepsVerified_of_runs run (submitFor_countsOnly schedule _ record))

end Verified

/-- Whatever the uploads, the clock, the draws and the answers from outside, an invitation challenge
neither weakens nor extends the verification of an account. -/
theorem invitation_neither_weakens_nor_extends (runtime : Runtime) (schedule : List Bool)
    (userId : UserId) (dto : SubmitVerificationDto) (ipAddress : String) (state : State) :
    NeitherWeakensNorExtends runtime schedule userId dto ipAddress state where
  unverified := submitIn_alike
  standard verified _ _ _ run := runs_submitIn_standard verified run
  invitation verified _ _ _ run := runs_submitIn_invitation verified run

/-- The citizen submits before and after it is verified. -/
theorem invitation_neither_weakens_nor_extends_citizen :
    (∀ choices, Option.Rel (EndsAlike SameButMode)
      ((submitIn legibleRuntime .invitation [] 0 twoImages "ip").play environment
        (playedSerially citizenSerially).2 choices)
      ((submitIn legibleRuntime .standard [] 0 twoImages "ip").play environment
        (playedSerially citizenSerially).2 choices)) ∧
    (∀ trace outcome after, Runs environment
      (submitIn legibleRuntime .standard [] 0 twoImages "ip") (playedSerially citizenVerified).2
      trace outcome after →
        outcome.isOk = false ∧ OnlyTimePassed (playedSerially citizenVerified).2 after) ∧
    ∀ trace outcome after, Runs environment
      (submitIn legibleRuntime .invitation [] 0 twoImages "ip") (playedSerially citizenVerified).2
      trace outcome after →
        (∀ result, outcome = .ok result → result.upgradedTokens = none) ∧
          KeepsVerified (playedSerially citizenVerified).2 after := by
  have unverified : (playedSerially citizenSerially).2.Unverified 0 := by
    intro user found
    have none : ((playedSerially citizenSerially).2.db.findUser (.byId 0)).all
        (!·.isIdVerified) = true := by
      decide +kernel
    rw [found] at none
    simpa using none
  have verified : (playedSerially citizenVerified).2.Verified 0 :=
    Option.any_eq_true _ _ |>.mp (by decide +kernel)
  have signed := invitation_neither_weakens_nor_extends legibleRuntime [] 0 twoImages "ip"
    (playedSerially citizenSerially).2
  have passed := invitation_neither_weakens_nor_extends legibleRuntime [] 0 twoImages "ip"
    (playedSerially citizenVerified).2
  exact ⟨signed.unverified unverified, passed.standard verified, passed.invitation verified⟩

end GraconAuth
