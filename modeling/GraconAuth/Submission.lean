/-
This file follows a submission of an identity verification to the two things that it
gives away: what it tells the engine about the document number, and the identity it
reports when the engine has answered. Both come from the account as the submission has
read it.
-/

import GraconAuth.Footprints

namespace GraconAuth

open Interleaving Program
open VerificationService (trim SubmitVerificationDto)

variable (runtime : Runtime)

/-! ### The rule -/

/-- The submission has read the account with this identity. -/
def ReadIdentity (userId : UserId) (past : List ServiceEvent) (identity : CitizenIdentityRow) :
    Prop :=
  ∃ record, ⟨.userFindUnique (.byId userId), .ok (some record)⟩ ∈ past ∧
    record.citizenIdentity = some identity

/-- What the engine is told: whether the document number, trimmed, is the stored one. -/
def Told (userId : UserId) (dto : SubmitVerificationDto) (past : List ServiceEvent)
    (payload : EngineRequest) : Prop :=
  ∃ identity encrypted storedNid, ReadIdentity userId past identity ∧
    identity.nidEncrypted = some encrypted ∧ runtime.decrypt encrypted = .ok storedNid ∧
    payload.documentMatch = (storedNid == trim dto.documentNumber)

/-- What is reported: the name and the birth date of the identity, and the number as submitted. -/
def IdentityReported (userId : UserId) (dto : SubmitVerificationDto) (past : List ServiceEvent)
    (result : VerificationResult) : Prop :=
  ∃ identity, ReadIdentity userId past identity ∧ result.idInfo = some {
    fullName := trim (identity.surName ++ " " ++ identity.postNames)
    dateOfBirth := CalendarDates.toISOString identity.dateOfBirth
    documentNumber := dto.documentNumber }

def submits (userId : UserId) (dto : SubmitVerificationDto) (past : List ServiceEvent) :
    Effect → Prop
  | .callEngine payload => Told runtime userId dto past payload
  | .respond outcome => ∀ result, outcome = .ok (.verification result) →
    IdentityReported userId dto past result
  | _ => True

/-- The rule for each request: only submissions are looked at. -/
def submitsFor : Request → List ServiceEvent → Effect → Prop
  | .submitVerification jwt dto _ => submits runtime jwt.payload.sub dto
  | _ => fun _ _ => True

/-! ### Every submission keeps to the rule -/

/-- The effects that give nothing away. -/
def Effect.Quiet : Effect → Prop
  | .callEngine _ | .respond _ => False
  | _ => True

theorem Effect.Harmless.quiet {effect : Effect} (harmless : effect.Harmless) : effect.Quiet := by
  cases effect with
  | callEngine _ | respond _ => exact harmless.elim
  | _ => trivial

section Traversal

variable {runtime} {userId : UserId} {dto : SubmitVerificationDto} {past : List ServiceEvent}

theorem quiet_submits {effect : Effect} (quiet : effect.Quiet) :
    submits runtime userId dto past effect := by
  cases effect with
  | callEngine _ | respond _ => exact quiet.elim
  | _ => trivial

theorem ReadIdentity.grown {now : List ServiceEvent} {allowed : Effect → Prop}
    {identity : CitizenIdentityRow} (read : ReadIdentity userId past identity)
    (grown : Extends allowed past now) : ReadIdentity userId now identity := by
  obtain ⟨record, member, stored⟩ := read
  exact ⟨record, grown.mem member, stored⟩

theorem getVerificationWindowState_quiet :
    (VerificationService.getVerificationWindowState runtime userId).Uses Effect.Quiet :=
  (getVerificationWindowState_uses runtime userId).mono fun effect inside => by
    rcases inside with harmless | ⟨_, _, rfl⟩
    · exact harmless.quiet
    · trivial

theorem enforceAttemptLimit_quiet :
    (VerificationService.enforceAttemptLimit runtime userId).Uses Effect.Quiet :=
  (enforceAttemptLimit_uses runtime userId).mono fun effect inside => by
    rcases inside with harmless | ⟨_, _, rfl⟩
    · exact harmless.quiet
    · trivial

theorem recordAttempt_quiet (data : IdVerificationCreate) :
    (VerificationService.recordAttempt data).Uses Effect.Quiet :=
  uses_rescue (uses_perform trivial) fun _ => trivial

theorem applyVerdict_quiet (wasAlreadyVerified passed : Bool) (ipAddress : String) :
    (VerificationService.applyVerdict runtime userId wasAlreadyVerified passed ipAddress).Uses
      Effect.Quiet := by
  unfold VerificationService.applyVerdict
  split
  · refine uses_bind (uses_perform trivial) fun _ => uses_bind (uses_perform trivial) fun _ =>
      uses_bind ((upgradeToken_uses runtime _ _ _).mono fun effect inside => ?_) fun _ => trivial
    rcases inside with harmless | issues | ⟨_, rfl⟩
    · exact harmless.quiet
    · cases effect with
      | callEngine _ | respond _ => exact issues.elim
      | _ => trivial
    · trivial
  · exact uses_bind (uses_perform trivial) fun _ => trivial

/-- A successful outcome reports the identity. -/
def ReportsIdentity (userId : UserId) (dto : SubmitVerificationDto) (now : List ServiceEvent)
    (outcome : Except Failure VerificationResult) : Prop :=
  ∀ result, outcome = .ok result → IdentityReported userId dto now result

theorem reports_error (failure : Failure) : ReportsIdentity userId dto past (.error failure) :=
  fun _ same => by cases same

/-- A quiet part of the submission, then the rest. -/
theorem quiet_bind {First : Type} {program : Async First}
    {next : First → Async VerificationResult} (uses : program.Uses Effect.Quiet)
    (rest : ∀ now result, Extends Effect.Quiet past now → (next result).Follows
      (conduct (submits runtime userId dto)) (ReportsIdentity userId dto) now) :
    (program >>= next).Follows (conduct (submits runtime userId dto)) (ReportsIdentity userId dto)
      past :=
  uses.follows_bind (fun _ _ _ quiet => quiet_submits quiet) rest fun _ failure _ =>
    reports_error failure

theorem engineFailed_follows (documentMatch : Bool) (keys : ObjectKey × ObjectKey)
    (ipAddress : String) (failure : Failure) :
    (VerificationService.engineFailed userId documentMatch keys ipAddress failure).Follows
      (conduct (submits runtime userId dto)) (ReportsIdentity userId dto) past :=
  quiet_bind ((cleanupImages_uses _ _).mono fun _ => Effect.Harmless.quiet) fun _ _ _ =>
    quiet_bind ((getNextAttemptNumber_uses _).mono fun _ => Effect.Harmless.quiet) fun _ _ _ =>
    quiet_bind (recordAttempt_quiet _) fun _ _ _ => reports_error failure

theorem engineAnswered_follows (record : UserRecord) (identity : CitizenIdentityRow)
    (keys : ObjectKey × ObjectKey) (ipAddress : String) (answer : EngineVerificationResponse)
    (read : ReadIdentity userId past identity) :
    (VerificationService.engineAnswered runtime userId record identity dto keys ipAddress
      answer).Follows (conduct (submits runtime userId dto)) (ReportsIdentity userId dto) past := by
  refine quiet_bind ((getNextAttemptNumber_uses _).mono fun _ => Effect.Harmless.quiet)
    fun _ _ numbered => quiet_bind (recordAttempt_quiet _) fun _ _ recorded =>
    quiet_bind ((cleanupImages_uses _ _).mono fun _ => Effect.Harmless.quiet) fun _ _ cleaned =>
    quiet_bind (applyVerdict_quiet _ _ _) fun _ tokens applied =>
    quiet_bind (uses_perform trivial) fun _ _ logged =>
    quiet_bind getVerificationWindowState_quiet fun now state counted => ?_
  rintro result ⟨⟩
  exact ⟨identity, (((((read.grown numbered).grown recorded).grown cleaned).grown applied).grown
    logged).grown counted, rfl⟩

theorem submitVerification_follows (ipAddress : String) :
    (VerificationService.submitVerification runtime userId dto ipAddress).Follows
      (conduct (submits runtime userId dto)) (ReportsIdentity userId dto) past := by
  refine follows_perform_bind.mpr ⟨trivial, fun user _ => ?_, fun failure _ =>
    reports_error failure⟩
  cases user with
  | none => exact reports_error _
  | some record =>
    refine follows_throwIf_bind.mpr ⟨fun _ => reports_error _, fun _ => follows_throwIf_bind.mpr
      ⟨fun _ => reports_error _, fun _ => follows_throwIf_bind.mpr ⟨fun _ => reports_error _,
        fun _ => quiet_bind enforceAttemptLimit_quiet fun now _ limited => ?_⟩⟩⟩
    unfold VerificationService.verifyIdentity
    split
    · exact reports_error _
    · rename_i identity stored
      refine follows_throwIf_bind.mpr ⟨fun _ => reports_error _, fun complete => ?_⟩
      have read : ReadIdentity userId now identity :=
        ⟨record, limited.mem List.mem_cons_self, stored⟩
      cases held : identity.nidEncrypted with
      | none =>
        rw [held] at complete
        cases complete
      | some encrypted =>
        rw [Option.getD_some, EncryptionService.decrypt]
        cases decrypted : runtime.decrypt encrypted with
        | error failure => exact reports_error failure
        | ok storedNid =>
          rw [ofOutcome_ok, done_bind]
          refine quiet_bind ((uploadImages_uses _ _ _).mono fun _ => Effect.Harmless.quiet)
            fun _ keys uploaded => ?_
          have read := read.grown uploaded
          refine follows_bind.mpr (follows_attempt.mpr (follows_rescue.mpr (follows_perform.mpr
            ⟨⟨identity, encrypted, storedNid, read, held, decrypted, rfl⟩, fun reply _ => ?_⟩)))
          have read : ReadIdentity userId (⟨.callEngine _, reply⟩ :: _) identity :=
            let ⟨record, member, same⟩ := read
            ⟨record, List.mem_cons_of_mem _ member, same⟩
          cases reply with
          | error failure => exact engineFailed_follows _ keys ipAddress _
          | ok answer => exact engineAnswered_follows record identity keys ipAddress answer read

end Traversal

/-- Every call keeps to the rule. -/
theorem serve_submits (request : Request) :
    (serve runtime request).Abides (conduct (submitsFor runtime request)) [] := by
  cases request with
  | submitVerification jwt dto ipAddress =>
    refine serve_subject_follows runtime rfl (fun _ expected => expected) trivial
      (fun _ _ _ same => by cases same) fun past => follows_bind.mpr
        ((submitVerification_follows ipAddress).weaken fun now outcome reports => ?_)
    cases outcome with
    | ok result =>
      rintro _ ⟨⟩
      exact reports result rfl
    | error failure =>
      rintro _ same
      cases same
  | _ => exact (uses_any _).abides fun _ _ _ => trivial

end GraconAuth
