/-
This file is about the document number of a submission. The service compares it
with the National ID stored for the account and tells the engine what came of it;
from then on only the verdict of the engine counts. So runs exist in which the
engine passes a foreign number and the identity is confirmed. In the runs in which
it does not, a submission of a foreign number changes neither the standing of an
account nor a session.
-/

import GraconAuth.Footprints
import GraconAuth.Tables

namespace GraconAuth

open Interleaving Program Rows
open VerificationService (trim SubmitVerificationDto)

variable (runtime : Runtime)

/-! ### What a submission may change -/

/-- The identity stored for the account. -/
def Database.identityOf (db : Database) (userId : UserId) : Option CitizenIdentityRow :=
  db.citizenIdentities.find? fun row => row.userId == userId

/-- The National ID that an identity is stored with. -/
def CitizenIdentityRow.nationalId (identity : CitizenIdentityRow) : Option String :=
  identity.nidEncrypted.bind fun encrypted => (runtime.decrypt encrypted).toOption

/-- The document number, trimmed, is the National ID stored for the account. -/
def Database.Matches (db : Database) (userId : UserId) (documentNumber : String) : Prop :=
  (db.identityOf userId).bind (·.nationalId runtime) = some (trim documentNumber)

instance (db : Database) (userId : UserId) (documentNumber : String) :
    Decidable (db.Matches runtime userId documentNumber) :=
  inferInstanceAs (Decidable (_ = _))

/-- What the row of an account says of its identity. -/
def UserRow.standing (row : UserRow) : UserId × Bool × Option Timestamp :=
  (row.id, row.isIdVerified, row.idVerifiedAt)

/-- The entry sets `isIdVerified` of the account to true. -/
def Confirms (entry : ServiceEntry) (userId : UserId) : Prop :=
  ∃ old ∈ entry.before.db.users, ∃ row ∈ entry.after.db.users, old.id = userId ∧ row.id = userId ∧
    old.isIdVerified = false ∧ row.isIdVerified = true

instance (entry : ServiceEntry) (userId : UserId) : Decidable (Confirms entry userId) :=
  inferInstanceAs (Decidable (∃ old ∈ _, _))

/-- The entry leaves the standing of every account and every refresh token as it is. -/
def Restrained (entry : ServiceEntry) : Prop :=
  entry.after.db.users.map UserRow.standing = entry.before.db.users.map UserRow.standing ∧
    entry.after.db.refreshTokens = entry.before.db.refreshTokens

/-- A submission confirms an identity only when its document number is the one stored for that
account. Any other submission leaves the accounts and the sessions as they are. -/
def ConfirmedByDocument (world : ServiceWorld) : Prop :=
  ∀ entry ∈ world.history, ∀ jwt dto ipAddress,
    entry.request = .submitVerification jwt dto ipAddress →
      (∀ userId, Confirms entry userId →
        entry.before.db.Matches runtime userId dto.documentNumber) ∧
      (¬entry.before.db.Matches runtime jwt.payload.sub dto.documentNumber → Restrained entry)

/-! ### A run with a foreign number -/

/-- A submission of that user with the number of somebody else. -/
def foreignSubmission : Request :=
  .submitVerification ⟨⟨0, "b@x", some .limited⟩, "2h"⟩
    ⟨"N2", ⟨some "id", "image/png", 1⟩, ⟨some "me", "image/png", 1⟩, .standard⟩ "ip"

/-- The engine passes the submission, although it was told that the number does not match. -/
def foreignSchedule : List ServiceMove :=
  citizenSignedIn ++ .accept foreignSubmission ::
    steps 2 [{}, {}, {}, {}, {}, {}, {}, {}, {}, { engine := ⟨true, 99, 99, false, 99, none⟩ }, {},
      {}, {}, {}, {}]

/-- An identity can be confirmed on a foreign number. -/
theorem not_confirmed_by_document :
    ¬ ∀ (runtime : Runtime) (clock : Timestamp) (pool : ServicePool),
      Reachable (service runtime) Regime.free (State.empty clock) pool →
        ConfirmedByDocument runtime pool.world := by
  intro confirmed
  have holds := confirmed legibleRuntime 0 _
    (played_reachable Referee.lax_upholds foreignSchedule)
  have broken : ∃ entry ∈ (played .lax foreignSchedule).world.history,
      entry.request = foreignSubmission ∧ Confirms entry 0 ∧
        ¬entry.before.db.Matches legibleRuntime 0 "N2" := by decide +kernel
  obtain ⟨entry, member, request, confirms, foreign⟩ := broken
  exact foreign ((holds entry member _ _ _ request).1 0 confirms)

/-! ### The runs in which the engine passes no foreign number -/

/-- The engine passes a submission, although the document number is not the one stored for the
account, and the account was read without a verified identity. -/
def passesForeign (world : ServiceWorld) (entry : ServiceEntry) : Bool :=
  match entry.request, entry.event with
  | .submitVerification jwt dto _, ⟨.callEngine _, .ok answer⟩ =>
    answer.passed && !decide (entry.before.db.Matches runtime jwt.payload.sub dto.documentNumber) &&
      ((world.past entry.thread).findSome? readAccount).any fun record => !record.user.isIdVerified
  | _, _ => false

/-- The runs in which that does not happen. -/
def heeded : Regime State Effect.Reply Failure Request where
  admits _ := True
  permits world entry := passesForeign runtime world entry = false

instance (request : Request) : Decidable ((heeded runtime).admits request) := .isTrue trivial

instance (world : ServiceWorld) (entry : ServiceEntry) :
    Decidable ((heeded runtime).permits world entry) :=
  inferInstanceAs (Decidable (_ = _))

/-! ### Every call keeps to the rule -/

/-- The engine has passed the submission, and the account read before had no verified identity. -/
def Passed (past : List ServiceEvent) : Prop :=
  ∃ newer older payload answer record, past = newer ++ ⟨.callEngine payload, .ok answer⟩ :: older ∧
    answer.passed = true ∧ older.findSome? readAccount = some record ∧
      record.user.isIdVerified = false

theorem Passed.cons {past : List ServiceEvent} (passed : Passed past) (event : ServiceEvent) :
    Passed (event :: past) := by
  obtain ⟨newer, older, payload, answer, record, rfl, rest⟩ := passed
  exact ⟨event :: newer, older, payload, answer, record, rfl, rest⟩

theorem Passed.grown {past now : List ServiceEvent} {allowed : Effect → Prop}
    (passed : Passed past) (grown : Extends allowed past now) : Passed now := by
  obtain ⟨recent, rfl, _⟩ := grown
  obtain ⟨newer, older, payload, answer, record, rfl, rest⟩ := passed
  exact ⟨recent ++ newer, older, payload, answer, record, (List.append_assoc _ _ _).symm, rest⟩

/-- The statement writes the standing of an account or a refresh token. -/
def Statement.confirming : Statement → Bool
  | .userUpdate _ data => data.isIdVerified.isSome || data.idVerifiedAt.isSome
  | .refreshTokenUpdate _ | .refreshTokenUpdateMany _ | .refreshTokenCreate _
  | .refreshTokenDeleteMany _ => true
  | _ => false

/-- The statement writes no other account. -/
def Statement.Concerns (userId : UserId) : Statement → Prop
  | .userUpdate id _ => id = userId
  | _ => True

/-- A submission writes its own account only, and neither the standing nor a session before the
engine has passed it. -/
def heeds (userId : UserId) (past : List ServiceEvent) : Effect → Prop
  | .execute statements => ∀ statement ∈ statements,
    statement.Concerns userId ∧ (statement.confirming = true → Passed past)
  | .registerTransaction _ => False
  | _ => True

/-- The rule for each request: only submissions are looked at. -/
def heedsFor : Request → List ServiceEvent → Effect → Prop
  | .submitVerification jwt _ _ => heeds jwt.payload.sub
  | _ => fun _ _ => True

/-- The effects that neither read an account nor write. -/
def Effect.Aside : Effect → Prop
  | .now | .idVerificationFindMany _ _ | .randomBytes | .putObject _ => True
  | _ => False

theorem aside_findSome? {past now : List ServiceEvent} (grown : Extends Effect.Aside past now) :
    now.findSome? readAccount = past.findSome? readAccount := by
  obtain ⟨recent, rfl, aside⟩ := grown
  have readless : recent.findSome? readAccount = none := by
    refine List.findSome?_eq_none_iff.mpr fun event member => ?_
    have inside := aside event member
    unfold readAccount
    split
    · exact inside.elim
    · rfl
  rw [List.findSome?_append, readless, Option.none_or]

section Traversal

variable {userId : UserId} {past : List ServiceEvent}

theorem aside_heeds (now : List ServiceEvent) (effect : Effect) (aside : effect.Aside) :
    heeds userId now effect := by
  cases effect with
  | execute statements => exact aside.elim
  | registerTransaction data => exact aside.elim
  | _ => trivial

theorem harmless_heeds (now : List ServiceEvent) (effect : Effect) (harmless : effect.Harmless) :
    heeds userId now effect := by
  cases effect with
  | execute statements => exact harmless.elim
  | registerTransaction data => exact harmless.elim
  | _ => trivial

/-- One statement on its own. -/
theorem execute_heeds {statement : Statement} (concerns : statement.Concerns userId)
    (passed : statement.confirming = true → Passed past) :
    heeds userId past (.execute [statement]) := by
  intro other member
  obtain rfl := List.mem_singleton.mp member
  exact ⟨concerns, passed⟩

theorem enforceAttemptLimit_aside :
    (VerificationService.enforceAttemptLimit runtime userId).Uses Effect.Aside := by
  unfold VerificationService.enforceAttemptLimit VerificationService.getVerificationWindowState
  split
  · trivial
  · exact uses_bind (uses_bind (uses_perform trivial) fun _ => uses_bind (uses_perform trivial)
      fun _ => uses_bind (uses_perform trivial) fun _ => trivial) fun _ =>
        uses_bind (uses_throwIf _ _) fun _ => trivial

theorem uploadImages_aside (idCardFile selfieFile : UploadedFile) :
    (VerificationService.uploadImages userId idCardFile selfieFile).Uses Effect.Aside := by
  refine (uploadImages_uploads userId idCardFile selfieFile).mono fun effect uploads => ?_
  cases effect <;> first | exact uploads.elim | trivial

theorem recordAttempt_heeds (data : IdVerificationCreate) :
    (VerificationService.recordAttempt data).Abides (conduct (heeds userId)) past := by
  refine abides_rescue (abides_perform (execute_heeds trivial nofun)) fun _ _ => ?_
  trivial

theorem engineFailed_heeds (documentMatch : Bool) (keys : ObjectKey × ObjectKey)
    (ipAddress : String) (failure : Failure) :
    (VerificationService.engineFailed userId documentMatch keys ipAddress failure).Abides
      (conduct (heeds userId)) past :=
  (cleanupImages_uses _ _).abides_bind harmless_heeds fun _ _ _ =>
    (getNextAttemptNumber_uses _).abides_bind harmless_heeds fun _ _ _ =>
    (recordAttempt_heeds _).bind fun _ _ => trivial

theorem upgradeToken_heeds (ipAddress userAgent : String) (passed : Passed past) :
    (AuthService.upgradeToken runtime userId ipAddress userAgent).Abides (conduct (heeds userId))
      past := by
  refine ((upgradeToken_uses runtime userId ipAddress userAgent).follows
    fun now effect grown inside => ?_).abides
  have still := passed.grown grown
  rcases inside with harmless | issues | ⟨_, rfl⟩
  · exact harmless_heeds now effect harmless
  · unfold Effect.Issues at issues
    split at issues
    · trivial
    · trivial
    · exact execute_heeds trivial fun _ => still
    · exact issues.elim
  · exact execute_heeds trivial fun _ => still

theorem applyVerdict_heeds (wasAlreadyVerified verdict : Bool) (ipAddress : String)
    (passed : verdict = true → wasAlreadyVerified = false → Passed past) :
    (VerificationService.applyVerdict runtime userId wasAlreadyVerified verdict ipAddress).Abides
      (conduct (heeds userId)) past := by
  unfold VerificationService.applyVerdict
  split
  · rename_i first
    simp only [Bool.and_eq_true, Bool.not_eq_true'] at first
    have passed := passed first.1 first.2
    exact abides_perform_bind trivial fun now _ =>
      abides_perform_bind (execute_heeds rfl fun _ => passed.cons _) fun _ _ =>
      (upgradeToken_heeds runtime _ _ ((passed.cons _).cons _)).bind fun _ _ => trivial
  · exact abides_perform_bind (execute_heeds rfl nofun) fun _ _ => trivial

theorem engineAnswered_heeds (record : UserRecord) (identity : CitizenIdentityRow)
    (dto : SubmitVerificationDto) (keys : ObjectKey × ObjectKey) (ipAddress : String)
    (answer : EngineVerificationResponse)
    (passed : answer.passed = true → record.user.isIdVerified = false → Passed past) :
    (VerificationService.engineAnswered runtime userId record identity dto keys ipAddress
      answer).Abides (conduct (heeds userId)) past := by
  have window : ∀ past effect,
      (effect.Harmless ∨ ∃ userId since, effect = .idVerificationFindMany userId since) →
      heeds userId past effect := by
    rintro past effect (harmless | ⟨_, _, rfl⟩)
    · exact harmless_heeds past effect harmless
    · trivial
  have recorded : ∀ data past, (VerificationService.recordAttempt data).Follows
      (conduct (heeds userId)) (fun now _ => Extends (fun _ => True) past now) past := by
    intro data past
    refine follows_rescue.mpr (follows_perform.mpr
      ⟨execute_heeds trivial nofun, fun reply _ => ?_⟩)
    cases reply with
    | ok value => exact ⟨[_], rfl, by simp⟩
    | error failure => exact ⟨[_], rfl, by simp⟩
  refine (getNextAttemptNumber_uses _).abides_bind harmless_heeds fun _ _ counted =>
    (recorded _ _).bind (fun _ _ stored => (cleanupImages_uses _ _).abides_bind harmless_heeds
      fun _ _ cleaned => (applyVerdict_heeds runtime _ _ _ fun verdict first => ?_).bind fun _ _ =>
        abides_perform_bind trivial fun _ _ =>
        (getVerificationWindowState_uses runtime userId).abides_bind window fun _ _ _ => trivial)
    fun _ _ _ => trivial
  exact (((passed verdict first).grown counted).grown stored).grown cleaned

theorem submitVerification_heeds (dto : SubmitVerificationDto) (ipAddress : String) :
    (VerificationService.submitVerification runtime userId dto ipAddress).Abides
      (conduct (heeds userId)) past := by
  refine abides_perform_bind trivial fun user _ => ?_
  cases user with
  | none => trivial
  | some record =>
    refine abides_throwIf_bind fun _ => abides_throwIf_bind fun _ => abides_throwIf_bind fun _ =>
      (enforceAttemptLimit_aside runtime).abides_bind aside_heeds fun _ _ limited => ?_
    unfold VerificationService.verifyIdentity
    split
    · trivial
    · refine abides_throwIf_bind fun _ =>
        Uses.abides_bind (uses_ofOutcome _) aside_heeds fun _ _ decrypted =>
        (uploadImages_aside _ _).abides_bind aside_heeds fun now keys uploaded => ?_
      have read : now.findSome? readAccount = some record := by
        rw [aside_findSome? uploaded, aside_findSome? decrypted, aside_findSome? limited]
        rfl
      refine follows_bind.mpr (follows_attempt.mpr (follows_rescue.mpr (follows_perform.mpr
        ⟨trivial, fun reply _ => ?_⟩)))
      cases reply with
      | error failure => exact engineFailed_heeds _ keys ipAddress _
      | ok answer =>
        exact engineAnswered_heeds runtime record _ dto keys ipAddress answer
          fun verdict first => ⟨[], now, _, answer, record, rfl, verdict, read, first⟩

end Traversal

/-- Every call keeps to the rule. -/
theorem serve_heeds (request : Request) :
    (serve runtime request).Abides (conduct (heedsFor request)) [] := by
  cases request with
  | submitVerification jwt dto ipAddress =>
    refine serve_subject_abides runtime rfl (fun _ expected => expected) trivial
      (fun _ _ => trivial) fun past => ?_
    exact (submitVerification_heeds runtime dto ipAddress).bind fun _ _ => trivial
  | _ => exact (uses_any _).abides fun _ _ _ => trivial

/-! ### One entry of a submission -/

section Entries

variable {state next : State} {effect : Effect} {reply : Except Failure effect.Reply}

/-- The identity stored for an account stays. -/
theorem performs_identityOf (performs : environment.Performs state effect reply next)
    {userId : UserId} {identity : CitizenIdentityRow}
    (found : state.db.identityOf userId = some identity) :
    next.db.identityOf userId = some identity := by
  refine performs_preserves (fun db => db.identityOf userId = some identity) performs ?_ ?_
    (fun _ holds => holds) found
  · intro _ _ statement _ now later holds carried
    cases carried <;> exact holds
  · intro data later holds ran
    obtain ⟨row, identities⟩ := register_citizenIdentities ran
    unfold Database.identityOf at holds ⊢
    rw [identities, List.find?_append, holds, Option.some_or]

theorem performs_matches (performs : environment.Performs state effect reply next)
    {userId : UserId} {documentNumber : String}
    (matched : state.db.Matches runtime userId documentNumber) :
    next.db.Matches runtime userId documentNumber := by
  unfold Database.Matches at matched ⊢
  cases found : state.db.identityOf userId with
  | none =>
    rw [found] at matched
    cases matched
  | some identity =>
    rw [performs_identityOf performs found, ← found]
    exact matched

variable {entry : ServiceEntry}
  (performs : environment.Performs entry.before entry.effect entry.reply entry.after)

include performs

/-- Without a statement that writes a standing or a session, both stay as they are. -/
theorem restrained_of_plain (unregistered : ∀ data, entry.effect ≠ .registerTransaction data)
    (plain : ∀ statements, entry.effect = .execute statements → ∀ statement ∈ statements,
      statement.confirming = false) : Restrained entry := by
  rcases performs_db performs with same | ⟨statements, event, ran⟩ | ⟨data, event, _⟩ | ⟨log, same⟩
  · exact ⟨by rw [same], by rw [same]⟩
  · refine runAll_preserves (fun db =>
      db.users.map UserRow.standing = entry.before.db.users.map UserRow.standing ∧
        db.refreshTokens = entry.before.db.refreshTokens) ran ?_ ⟨rfl, rfl⟩
    intro statement listed now later holds carried
    have unconfirming := plain statements (congrArg Event.effect event) statement listed
    cases carried with
    | userUpdate id data present free =>
      simp only [Statement.confirming, Bool.or_eq_false_iff, Option.isSome_eq_false_iff,
        Option.isNone_iff_eq_none] at unconfirming
      refine ⟨(map_updateWhere (fun row => ?_) _).trans holds.1, holds.2⟩
      simp only [UserRow.standing, UserRow.apply, unconfirming.1, unconfirming.2, Option.getD_none]
      rfl
    | refreshTokenUpdate id present => cases unconfirming
    | refreshTokenUpdateMany filter => cases unconfirming
    | refreshTokenCreate data free => cases unconfirming
    | refreshTokenDeleteMany now => cases unconfirming
    | _ => exact holds
  · exact absurd (congrArg Event.effect event) (unregistered data)
  · exact ⟨by rw [same], by rw [same]⟩

/-- An identity that is confirmed is that of the account which the statements concern. -/
theorem confirms_concerned {subject userId : UserId} (wellFormed : entry.before.db.WellFormed)
    (unregistered : ∀ data, entry.effect ≠ .registerTransaction data)
    (concerned : ∀ statements, entry.effect = .execute statements → ∀ statement ∈ statements,
      statement.Concerns subject)
    (confirms : Confirms entry userId) : userId = subject := by
  have others : ∀ row ∈ entry.after.db.users, row.id ≠ subject →
      ∃ old ∈ entry.before.db.users, old.id = row.id ∧ old.isIdVerified = row.isIdVerified := by
    rcases performs_db performs with same | ⟨statements, event, ran⟩ | ⟨data, event, _⟩ | ⟨_, same⟩
    · rw [same]
      exact fun row stored _ => ⟨row, stored, rfl, rfl⟩
    · refine runAll_preserves (fun db => ∀ row ∈ db.users, row.id ≠ subject →
        ∃ old ∈ entry.before.db.users, old.id = row.id ∧ old.isIdVerified = row.isIdVerified) ran
        ?_ fun row stored _ => ⟨row, stored, rfl, rfl⟩
      intro statement listed now later holds carried
      have concerns := concerned statements (congrArg Event.effect event) statement listed
      cases carried with
      | userUpdate id data present free =>
        obtain rfl : id = subject := concerns
        intro row member other
        obtain ⟨old, stored, rfl⟩ := mem_updateWhere.mp member
        by_cases matched : (old.id == id) = true
        · rw [if_pos matched] at other
          exact absurd (beq_iff_eq.mp matched) other
        · rw [if_neg matched] at other ⊢
          exact holds old stored other
      | _ => exact holds
    · exact absurd (congrArg Event.effect event) (unregistered data)
    · rw [same]
      exact fun row stored _ => ⟨row, stored, rfl, rfl⟩
  obtain ⟨old, stored, row, member, rfl, sameId, unverified, verified⟩ := confirms
  by_contra other
  obtain ⟨first, before, firstId, sameFlag⟩ := others row member (sameId ▸ other)
  have : first = old :=
    eq_of_key wellFormed.users.distinct before stored (firstId.trans sameId)
  rw [this, unverified, verified] at sameFlag
  cases sameFlag

end Entries

/-! ### Every run -/

section Chronicles

variable {runtime} {clock : Timestamp} {world : ServiceWorld} {entry : ServiceEntry}
  (chronicle : Chronicle (service runtime) (heeded runtime)
    (fun request => conduct (heedsFor request)) (State.empty clock) world)
  (admissible : Admissible (service runtime) (heeded runtime)
    (fun request => conduct (heedsFor request)) world entry)

include chronicle admissible

/-- A submission that the engine has passed has the number stored for its account. -/
theorem matches_of_passed {jwt : Jwt} {dto : SubmitVerificationDto} {ipAddress : String}
    (request : entry.request = .submitVerification jwt dto ipAddress)
    (passed : Passed (world.past entry.thread)) :
    entry.before.db.Matches runtime jwt.payload.sub dto.documentNumber := by
  obtain ⟨newer, older, payload, answer, record, split, verdict, read, first⟩ := passed
  obtain ⟨earlier, call, _, allowed, member, event, thread, past, _⟩ :=
    chronicle.recalls_past split
  have permitted : passesForeign runtime earlier call = false := allowed.permitted
  have submitted := (admissible.owned call member thread).trans request
  unfold passesForeign at permitted
  rw [submitted, event, thread, past, read] at permitted
  simp only [verdict, first, Option.any_some, Bool.not_false, Bool.true_and, Bool.and_true,
    Bool.not_eq_false', decide_eq_true_eq] at permitted
  rw [admissible.current]
  exact chronicle.lasts (fun state => state.db.Matches runtime jwt.payload.sub dto.documentNumber)
    (fun _ _ _ _ performs holds => performs_matches runtime performs holds) member
    (.inl permitted)

/-- What holds of one entry of a submission. -/
theorem submission_entry {jwt : Jwt} {dto : SubmitVerificationDto} {ipAddress : String}
    (request : entry.request = .submitVerification jwt dto ipAddress) :
    (∀ userId, Confirms entry userId →
        entry.before.db.Matches runtime userId dto.documentNumber) ∧
      (¬entry.before.db.Matches runtime jwt.payload.sub dto.documentNumber →
        Restrained entry) := by
  have performs : environment.Performs entry.before entry.effect entry.reply entry.after :=
    admissible.performs
  have ruled : heedsFor entry.request (world.past entry.thread) entry.effect := admissible.ruled
  have wellFormed := chronicle_wellFormed chronicle
  rw [← admissible.current] at wellFormed
  rw [request] at ruled
  have unregistered : ∀ data, entry.effect ≠ .registerTransaction data := by
    intro data same
    rw [same] at ruled
    exact ruled
  have written : ∀ statements, entry.effect = .execute statements → ∀ statement ∈ statements,
      statement.Concerns jwt.payload.sub ∧
        (statement.confirming = true → Passed (world.past entry.thread)) := by
    intro statements same
    rw [same] at ruled
    exact ruled
  have restrained : ¬entry.before.db.Matches runtime jwt.payload.sub dto.documentNumber →
      Restrained entry := by
    intro foreign
    refine restrained_of_plain performs unregistered fun statements same statement listed => ?_
    by_contra confirming
    exact foreign (matches_of_passed chronicle admissible request
      ((written statements same statement listed).2 (Bool.eq_true_of_not_eq_false confirming)))
  refine ⟨fun userId confirms => ?_, restrained⟩
  have subject : userId = jwt.payload.sub := confirms_concerned performs wellFormed unregistered
    (fun statements same statement listed => (written statements same statement listed).1) confirms
  by_contra foreign
  rw [subject] at foreign
  obtain ⟨old, stored, row, member, oldId, rowId, unverified, verified⟩ := confirms
  -- The row with the flag set would be in the table before.
  have standing : row.standing ∈ entry.before.db.users.map UserRow.standing := by
    rw [← (restrained foreign).1]
    exact List.mem_map_of_mem member
  obtain ⟨first, before, same⟩ := List.mem_map.mp standing
  simp only [UserRow.standing, Prod.mk.injEq] at same
  obtain rfl : first = old := eq_of_key wellFormed.users.distinct before stored
    (same.1.trans (rowId.trans oldId.symm))
  rw [unverified, verified] at same
  cases same.2.1

end Chronicles

/-- In every run in which the engine passes no submission of a foreign document number for an
account without a verified identity, whatever the interleaving, an identity is confirmed only by a
submission of the number stored for the account, and any other submission changes nothing. -/
theorem confirmed_by_document_of_heeded (runtime : Runtime) (clock : Timestamp)
    (pool : ServicePool)
    (reachable : Reachable (service runtime) (heeded runtime) (State.empty clock) pool) :
    ConfirmedByDocument runtime pool.world := by
  have chronicle := reachable_chronicle heedsFor reachable fun request _ =>
    serve_heeds runtime request
  refine chronicle.invariant (ConfirmedByDocument runtime) (by simp [ConfirmedByDocument]) ?_
  intro world entry chronicle confirmed admissible other member jwt dto ipAddress request
  rcases List.mem_cons.mp member with rfl | old
  · exact submission_entry chronicle admissible request
  · exact confirmed other old jwt dto ipAddress request

/-- A submission of a foreign number that the engine refuses, and then one of the stored number
that it passes. -/
def heededSchedule : List ServiceMove :=
  citizenSignedIn ++ .accept foreignSubmission :: steps 2 (List.replicate 18 {}) ++
    .accept submission :: steps 3 [{}, {}, {}, {}, {}, {}, {}, {}, {},
      { engine := ⟨true, 99, 99, true, 99, none⟩ }, {}, {}, {}, {}, {}]

/-- In that run the identity is confirmed. -/
theorem confirmed_by_document_of_heeded_both :
    (∃ entry ∈ (played (.strict (heeded legibleRuntime)) heededSchedule).world.history,
        Confirms entry 0) ∧
      ConfirmedByDocument legibleRuntime
        (played (.strict (heeded legibleRuntime)) heededSchedule).world :=
  ⟨by decide +kernel, confirmed_by_document_of_heeded legibleRuntime 0 _
    (played_reachable (Referee.strict_upholds (heeded legibleRuntime)) heededSchedule)⟩

end GraconAuth
