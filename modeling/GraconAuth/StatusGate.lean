/-
This file is about the status and the gate of an identity verification agreeing: the
status says that a user can attempt one exactly when a submission at that instant would
pass its gates and reach the upload of the images. The two look at different columns, so
the agreement rests on how accounts are enrolled: a foreign identity is verified from
the start, a national one has its number encrypted, and an active account is verified.
-/

import GraconAuth.AttemptWindow
import GraconAuth.Footprints
import GraconAuth.Seeding
import GraconAuth.Tables

namespace GraconAuth

open Interleaving Program Rows VerificationService

variable {runtime : Runtime}

/-! ### How accounts are enrolled -/

/-- A foreign identity is verified, and a national one has its number encrypted. -/
structure Enrols (runtime : Runtime) (isIdVerified : Bool) (identityType : IdentityType)
    (nidEncrypted : Option String) : Prop where
  foreign : identityType = .FIN → isIdVerified = true
  national : identityType = .NID → ∃ iv nid, nidEncrypted = some (runtime.encrypt iv nid)

/-- Every account has an identity that enrols it, and is verified when it is active. -/
structure Database.Enrolled (runtime : Runtime) (db : Database) : Prop where
  keyed : Keyed db.nextId (db.users.map (·.id))
  issued : ∀ identity ∈ db.citizenIdentities, identity.userId < db.nextId
  active : ∀ user ∈ db.users, user.isActive = true → user.isVerified = true
  identified : ∀ user ∈ db.users, ∃ identity,
    db.citizenIdentities.find? (fun row => row.userId == user.id) = some identity ∧
      Enrols runtime user.isIdVerified identity.identityType identity.nidEncrypted

/-- The statement takes no identity back, and writes the two account flags together. -/
def Statement.Screened : Statement → Prop
  | .userUpdate _ data => data.isActive = data.isVerified ∧ data.isIdVerified ≠ some false
  | _ => True

/-- The effect keeps accounts enrolled. -/
def Effect.Screened (runtime : Runtime) : Effect → Prop
  | .execute statements => ∀ statement ∈ statements, statement.Screened
  | .registerTransaction data =>
    Enrols runtime data.isIdVerified data.identityType data.nidEncrypted
  | _ => True

theorem enrolled_carried {clock : Timestamp} {db next : Database} {statement : Statement}
    (enrolled : db.Enrolled runtime) (screened : statement.Screened)
    (carried : Carried clock db statement next) : next.Enrolled runtime := by
  obtain ⟨keyed, issued, active, identified⟩ := enrolled
  have grown : db.nextId ≤ db.nextId + 1 := Nat.le_succ _
  have issuedLater : ∀ identity ∈ db.citizenIdentities, identity.userId < db.nextId + 1 :=
    fun identity member => Nat.lt_succ_of_lt (issued identity member)
  cases carried with
  | userUpdate id data present free =>
    refine ⟨keyed.updateWhere fun _ => rfl, issued, fun user member isActive => ?_,
      fun user member => ?_⟩
    · obtain ⟨old, stored, rfl⟩ := mem_updateWhere.mp member
      split at isActive
      · rename_i matched
        rw [if_pos matched]
        rw [apply_isActive, screened.1] at isActive
        rw [apply_isVerified]
        cases given : data.isVerified with
        | none =>
          rw [given] at isActive
          exact active old stored isActive
        | some value =>
          rw [given] at isActive
          exact isActive
      · rename_i unmatched
        rw [if_neg unmatched]
        exact active old stored isActive
    · obtain ⟨old, stored, rfl⟩ := mem_updateWhere.mp member
      obtain ⟨identity, found, foreign, national⟩ := identified old stored
      split
      · refine ⟨identity, found, fun fin => ?_, national⟩
        rw [apply_isIdVerified]
        cases given : data.isIdVerified with
        | none => exact foreign fin
        | some value =>
          cases value with
          | true => rfl
          | false => exact absurd given screened.2
      · exact ⟨identity, found, foreign, national⟩
  | refreshTokenCreate data free => exact ⟨keyed.grow grown, issuedLater, active, identified⟩
  | emailVerificationTokenUpsert userId tokenHash expiresAt createdAt =>
    exact ⟨keyed.grow grown, issuedLater, active, identified⟩
  | passwordResetTokenCreate data => exact ⟨keyed.grow grown, issuedLater, active, identified⟩
  | idVerificationCreate data row stored =>
    exact ⟨keyed.grow grown, issuedLater, active, identified⟩
  | _ => exact ⟨keyed, issued, active, identified⟩

/-- Storing a new user with an identity that enrols it. -/
theorem Database.Enrolled.store {db next : Database} (enrolled : db.Enrolled runtime)
    {user : UserRow} {identity : CitizenIdentityRow} (grown : db.nextId < next.nextId)
    (users : next.users = db.users ++ [user])
    (identities : next.citizenIdentities = db.citizenIdentities ++ [identity])
    (fresh : user.id = db.nextId) (owner : identity.userId = db.nextId)
    (active : user.isActive = true → user.isVerified = true)
    (enrols : Enrols runtime user.isIdVerified identity.identityType identity.nidEncrypted) :
    next.Enrolled runtime := by
  refine ⟨?_, fun row member => ?_, fun row member => ?_, fun row member => ?_⟩
  · have drawn : user.id < next.nextId := by
      rw [fresh]
      exact grown
    rw [users, List.map_append]
    exact enrolled.keyed.append (Nat.le_of_eq fresh.symm) drawn
  · rw [identities] at member
    rcases List.mem_append.mp member with old | new
    · exact Nat.lt_trans (enrolled.issued row old) grown
    · obtain rfl := List.mem_singleton.mp new
      exact owner ▸ grown
  · rw [users] at member
    rcases List.mem_append.mp member with old | new
    · exact enrolled.active row old
    · obtain rfl := List.mem_singleton.mp new
      exact active
  · rw [users] at member
    rw [identities, List.find?_append]
    rcases List.mem_append.mp member with old | new
    · obtain ⟨found, lookup, enrolsOld⟩ := enrolled.identified row old
      exact ⟨found, by rw [lookup, Option.some_or], enrolsOld⟩
    · obtain rfl := List.mem_singleton.mp new
      have absent : db.citizenIdentities.find? (fun other => other.userId == row.id) = none := by
        rw [List.find?_eq_none]
        intro other stored same
        have below := enrolled.issued other stored
        rw [beq_iff_eq.mp same, fresh] at below
        exact Nat.lt_irrefl _ below
      refine ⟨identity, ?_, enrols⟩
      rw [absent, Option.none_or, List.find?_cons_of_pos (by simp [owner, fresh])]

theorem enrolled_registered {clock : Timestamp} {db next : Database} {data : RegistrationCreate}
    (enrolled : db.Enrolled runtime)
    (enrols : Enrols runtime data.isIdVerified data.identityType data.nidEncrypted)
    (ran : db.register clock data = .ok next) : next.Enrolled runtime := by
  unfold Database.register at ran
  split at ran
  · cases ran
  · cases ran
    exact enrolled.store (Nat.lt_add_of_pos_right (by decide)) rfl rfl rfl rfl
      (fun active => active)
      enrols

theorem enrolled_seeded {clock : Timestamp} {db next : Database} {passwordHash : String}
    {verifiedAt : Timestamp} {users : List (FakeVerifiedUserInput × String × String)}
    (enrolled : db.Enrolled runtime)
    (seeded : Database.seedVerifiedUsers runtime clock passwordHash verifiedAt users db =
      .ok next) :
    next.Enrolled runtime := by
  refine seedVerifiedUsers_preserves (fun db => db.Enrolled runtime) seeded ?_ enrolled
  intro db next user nidIv pidIv enrolled created
  unfold Database.createVerifiedUser at created
  split at created
  · cases created
  · cases created
    refine enrolled.store (Nat.lt_add_of_pos_right (by decide)) rfl rfl rfl rfl (fun _ => rfl)
      ⟨?_, ?_⟩
    · intro
      rfl
    · intro
      exact ⟨_, _, rfl⟩

theorem enrolled_performs {state next : State} {effect : Effect}
    {reply : Except Failure effect.Reply} (screened : effect.Screened runtime)
    (enrolled : state.db.Enrolled runtime)
    (performs : environment.Performs state effect reply next) : next.db.Enrolled runtime := by
  rcases performs_db performs with
    same | ⟨statements, event, ran⟩ | ⟨data, event, ran⟩ | ⟨log, same⟩
  · rw [same]
    exact enrolled
  · obtain rfl : effect = _ := congrArg Event.effect event
    exact runAll_preserves (fun db => db.Enrolled runtime) ran
      (fun statement member now later holds carried =>
        enrolled_carried holds (screened statement member) carried) enrolled
  · obtain rfl : effect = _ := congrArg Event.effect event
    exact enrolled_registered enrolled screened ran
  · rw [same]
    exact ⟨enrolled.keyed.grow (Nat.le_succ _),
      fun identity member => Nat.lt_succ_of_lt (enrolled.issued identity member),
      enrolled.active, enrolled.identified⟩

/-! ### What calls await -/

theorem harmless_screened {effect : Effect} (harmless : effect.Harmless) :
    effect.Screened runtime := by
  unfold Effect.Screened
  split
  · exact harmless.elim
  · exact harmless.elim
  · trivial

/-- A ciphertext, then the rest of the program. -/
theorem encrypt_bind_uses {Result : Type} {allowed : Effect → Prop} {plainText : String}
    {next : String → Async Result} (permitted : allowed .randomBytes)
    (rest : ∀ iv, (next (runtime.encrypt iv plainText)).Uses allowed) :
    (EncryptionService.encrypt runtime plainText >>= next).Uses allowed := by
  unfold EncryptionService.encrypt
  rw [bind_assoc]
  exact uses_bind (uses_perform permitted) rest

/-- The registration enrols the account with the identity that it has looked up. -/
theorem register_screened (dto : UsersService.RegisterDto) :
    (UsersService.register runtime dto).Uses (Effect.Screened runtime) := by
  have harmless : ∀ effect : Effect, effect.Harmless → effect.Screened runtime :=
    fun _ => harmless_screened
  refine uses_bind ((assertExclusiveIdentityInput_uses dto).mono harmless) fun _ =>
    uses_bind ((resolveRegistrationIdentity_uses dto).mono harmless) fun identity =>
    uses_bind (uses_perform trivial) fun _ => uses_bind (uses_throwIf _ _) fun _ =>
    uses_bind (uses_perform trivial) fun _ => uses_bind (uses_throwIf _ _) fun _ =>
    uses_bind ((bcryptHash_uses runtime _).mono harmless) fun _ =>
    encrypt_bind_uses trivial fun iv =>
    uses_bind ((generate_uses runtime _).mono harmless) fun _ =>
    uses_bind ((encrypt_uses runtime _).mono harmless) fun _ =>
    uses_bind (uses_perform trivial) fun _ => uses_bind (uses_perform trivial) fun _ =>
    uses_bind (uses_rescue (uses_perform ?_) fun _ => trivial) fun _ =>
    uses_bind (send_uses trivial) fun _ => trivial
  refine ⟨fun fin => decide_eq_true fin, fun nid => ?_⟩
  have national : ¬identity.identityType = .FIN := by
    rw [show identity.identityType = .NID from nid]
    decide
  exact ⟨_, _, if_neg national⟩

/-- Every call keeps accounts enrolled. -/
theorem handle_screened (userId : UserId) (request : Request) :
    (request.handle runtime userId).Uses (Effect.Screened runtime) := by
  cases request with
  | register dto => exact uses_bind (register_screened dto) fun _ => trivial
  | _ =>
    refine (handle_uses runtime userId _).mono fun effect inside =>
      inside.elim harmless_screened fun awaits => ?_
    cases effect with
    | execute statements =>
      intro statement listed
      have writes := awaits_writes awaits statement listed
      cases statement with
      | userUpdate id data => exact writes_flags writes
      | _ => trivial
    | registerTransaction data =>
      simp [Request.Awaits, Effect.Rotates, Effect.Issues, Effect.Links] at awaits
    | _ => trivial

theorem serve_screened (request : Request) :
    (serve runtime request).Uses (Effect.Screened runtime) := by
  have guarded : (request.guarded runtime).Uses (Effect.Screened runtime) := by
    unfold Request.guarded
    split
    · exact handle_screened 0 request
    · exact uses_bind ((canActivate_uses _ _).mono fun _ => harmless_screened) fun user =>
        handle_screened user.userId request
  exact uses_bind (uses_attempt guarded) fun _ => uses_bind (uses_perform trivial) fun _ =>
    uses_ofOutcome _

/-! ### The states that calls and the seed lead to -/

/-- The tables once the seed has been run. -/
def Pool.seeded (pool : ServicePool) (db : Database) : ServicePool :=
  { pool with world := { pool.world with state := { pool.world.state with db } } }

/-- The pools that calls, one effect at a time, and the seed lead to from an empty service. -/
inductive Provisioned (runtime : Runtime) (clock : Timestamp) : ServicePool → Prop
  | start : Provisioned runtime clock (Pool.start (State.empty clock))
  | step {pool next : ServicePool} (earlier : Provisioned runtime clock pool)
      (step : Step (service runtime) Regime.free pool next) : Provisioned runtime clock next
  | seed {pool : ServicePool} {passwordHash : String} {verifiedAt : Timestamp}
      {users : List (FakeVerifiedUserInput × String × String)} {db : Database}
      (earlier : Provisioned runtime clock pool)
      (seeded : Database.seedVerifiedUsers runtime pool.world.state.clock passwordHash verifiedAt
        users pool.world.state.db = .ok db) : Provisioned runtime clock (Pool.seeded pool db)

theorem Provisioned.steps {clock : Timestamp} {pool last : ServicePool}
    (provisioned : Provisioned runtime clock pool)
    (steps : Relation.ReflTransGen (Step (service runtime) Regime.free) pool last) :
    Provisioned runtime clock last := by
  induction steps with
  | refl => exact provisioned
  | tail _ step inductionHypothesis => exact inductionHypothesis.step step

theorem empty_enrolled (clock : Timestamp) : (State.empty clock).db.Enrolled runtime :=
  ⟨⟨List.nodup_nil, by simp [State.empty]⟩, by simp [State.empty], by simp [State.empty],
    by simp [State.empty]⟩

/-- Whatever is called and seeded, every account stays enrolled. -/
theorem enrolled_of_provisioned {clock : Timestamp} {pool : ServicePool}
    (provisioned : Provisioned runtime clock pool) : pool.world.state.db.Enrolled runtime := by
  have general : pool.world.state.db.Enrolled runtime ∧
      ∀ call ∈ pool.calls, call.rest.Uses (Effect.Screened runtime) := by
    induction provisioned with
    | start => exact ⟨empty_enrolled clock, by simp [Pool.start]⟩
    | step earlier step inductionHypothesis =>
      obtain ⟨enrolled, screened⟩ := inductionHypothesis
      cases step with
      | accept request accepted admitted =>
        refine ⟨enrolled, fun call member => ?_⟩
        rcases List.mem_append.mp member with old | new
        · exact screened call old
        · obtain rfl := List.mem_singleton.mp new
          exact serve_screened request
      | advance thread request effect resume reply next running performs permitted =>
        have uses := screened _ (List.mem_of_getElem? running)
        refine ⟨enrolled_performs uses.1 enrolled performs, fun call member => ?_⟩
        rcases List.mem_or_eq_of_mem_set member with old | rfl
        · exact screened call old
        · exact uses.2 reply
    | seed earlier seeded inductionHypothesis =>
      exact ⟨enrolled_seeded inductionHypothesis.1 seeded, inductionHypothesis.2⟩
  exact general.1

/-! ### A submission at one instant -/

/-- The submission has gone on to the upload of the images: it has drawn the key of one, or has
found that neither may be uploaded. -/
def ReachesUpload (trace : List ServiceEvent)
    (outcome : Except Failure VerificationResult) : Prop :=
  (∃ event ∈ trace, event.effect = .randomBytes) ∨
    outcome = .error (ImageUploadFailedException "images")

/-- The effect is always answered. -/
def Effect.answerable : Effect → Bool
  | .awaitFlight _ => false
  | _ => true

theorem atOnce_answers (state : State) {effect : Effect} (answerable : effect.answerable = true) :
    ∃ reply next, atOnce.Performs state effect reply next := by
  have answered : ∃ answer, state.answer {} effect = some answer := by
    cases effect with
    | awaitFlight flight => cases answerable
    | execute statements =>
      simp only [State.answer, State.commit, Option.isSome_none, Bool.false_eq_true, if_false]
      split <;> exact ⟨_, rfl⟩
    | registerTransaction data =>
      simp only [State.answer, State.commit, Option.isSome_none, Bool.false_eq_true, if_false]
      split <;> exact ⟨_, rfl⟩
    | joinFlight key =>
      simp only [State.answer]
      split <;> exact ⟨_, rfl⟩
    | _ => exact ⟨_, rfl⟩
  obtain ⟨⟨reply, next⟩, answered⟩ := answered
  exact ⟨reply, next, atOnce_performs.mpr ⟨{}, rfl, answered⟩⟩

/-- A program that joins no flight runs to its end at one instant. -/
theorem atOnce_runs {Result : Type} {program : Async Result}
    (uses : program.Uses fun effect => effect.answerable = true) (state : State) :
    ∃ trace outcome after, Runs atOnce program state trace outcome after := by
  induction program generalizing state with
  | done result => exact ⟨[], .ok result, state, rfl, rfl, rfl⟩
  | raise failure => exact ⟨[], .error failure, state, rfl, rfl, rfl⟩
  | await effect resume inductionHypothesis =>
    obtain ⟨reply, next, performs⟩ := atOnce_answers state uses.1
    obtain ⟨trace, outcome, after, run⟩ := inductionHypothesis reply (uses.2 reply) next
    exact ⟨_, outcome, after, reply, next, trace, rfl, performs, run⟩

section Upload

variable {environment : Interleaving.Environment State Choice Effect.Reply Failure}
  {before after : State} {trace : List ServiceEvent}

/-- An upload draws a key unless the file may not be uploaded. -/
theorem runs_uploadVerificationImage {userId : UserId} {imageType : String} {file : UploadedFile}
    {outcome : Except Failure ObjectKey}
    (run : Runs environment (S3Service.uploadVerificationImage userId imageType file) before trace
      outcome after) :
    (∃ event ∈ trace, event.effect = .randomBytes) ∨ ∃ failure, outcome = .error failure := by
  obtain ⟨first, second, ended, between, rfl, _, run⟩ := runs_bind.mp run
  cases ended with
  | error failure =>
    obtain ⟨_, rfl, _⟩ := run
    exact .inr ⟨failure, rfl⟩
  | ok valid =>
    obtain ⟨reply, _, rest, rfl, _, _⟩ := run
    exact .inl ⟨_, List.mem_append_right _ List.mem_cons_self, rfl⟩

/-- What goes on to upload the images has reached the upload. -/
theorem runs_uploadImages_bind {userId : UserId} {idCardFile selfieFile : UploadedFile}
    {next : ObjectKey × ObjectKey → Async VerificationResult}
    {outcome : Except Failure VerificationResult}
    (run : Runs environment (uploadImages userId idCardFile selfieFile >>= next)
      before trace outcome after) : ReachesUpload trace outcome := by
  obtain ⟨upload, rest, ended, between, rfl, upload, run⟩ := runs_bind.mp run
  obtain ⟨first, later, idCardUpload, middle, rfl, runFirst, upload⟩ := runs_bind.mp upload
  obtain ⟨idCardEnded, rfl, inner⟩ := runs_attempt.mp runFirst
  rcases runs_uploadVerificationImage inner with ⟨event, member, drawn⟩ | ⟨failure, rfl⟩
  · exact .inl ⟨event, List.mem_append_left _ (List.mem_append_left _ member), drawn⟩
  · rw [ofOutcome_ok, done_bind] at upload
    obtain ⟨second, last, selfieUpload, final, rfl, runSecond, upload⟩ := runs_bind.mp upload
    obtain ⟨selfieEnded, rfl, _⟩ := runs_attempt.mp runSecond
    obtain ⟨_, rfl, _⟩ := upload
    obtain ⟨_, rfl, _⟩ := run
    exact .inr rfl

end Upload

theorem reachesUpload_append {first second : List ServiceEvent}
    {outcome : Except Failure VerificationResult}
    (undrawn : ∀ event ∈ first, event.effect ≠ .randomBytes) :
    ReachesUpload (first ++ second) outcome ↔ ReachesUpload second outcome := by
  refine or_congr_left ⟨?_, ?_⟩
  · rintro ⟨event, member, drawn⟩
    rcases List.mem_append.mp member with early | late
    · exact absurd drawn (undrawn event early)
    · exact ⟨event, late, drawn⟩
  · rintro ⟨event, member, drawn⟩
    exact ⟨event, List.mem_append_right _ member, drawn⟩

theorem enforceAttemptLimit_drawless (userId : UserId) :
    (enforceAttemptLimit runtime userId).Uses (· ≠ .randomBytes) := by
  unfold enforceAttemptLimit getVerificationWindowState
  split
  · trivial
  · exact uses_bind (uses_bind (uses_perform (by simp)) fun _ =>
      uses_bind (uses_perform (by simp)) fun _ => uses_bind (uses_perform (by simp)) fun _ =>
      trivial) fun _ => uses_bind (uses_throwIf _ _) fun _ => trivial

variable {state after : State} {user : UserRow} {trace : List ServiceEvent}

theorem findUser_of_stored (enrolled : state.db.Enrolled runtime) (stored : user ∈ state.db.users) :
    state.db.findUser (.byId user.id) = some user :=
  find?_key enrolled.keyed.distinct stored

/-- A submission of an active user comes to the gates. -/
theorem runs_gates {dto : SubmitVerificationDto} {ipAddress : String}
    {identity : CitizenIdentityRow} {outcome : Except Failure VerificationResult}
    (enrolled : state.db.Enrolled runtime) (stored : user ∈ state.db.users)
    (active : user.isActive = true)
    (found : state.db.citizenIdentities.find? (fun row => row.userId == user.id) = some identity)
    (run : Runs atOnce (submitVerification runtime user.id dto ipAddress) state trace outcome
      after) :
    ∃ reply rest, trace = ⟨.userFindUnique (.byId user.id), reply⟩ :: rest ∧
      Runs atOnce (throwIf (identity.identityType == .FIN) (BadRequestException
          "Biometric verification is not required for foreign identity users.") >>= fun _ =>
        throwIf (user.isIdVerified && dto.challengeMode != .invitation)
          VerificationAlreadyPassedException >>= fun _ =>
        enforceAttemptLimit runtime user.id >>= fun _ =>
        verifyIdentity runtime user.id (state.db.withRelations user) dto ipAddress) state rest
        outcome after := by
  have verified : user.isVerified = true := enrolled.active user stored active
  obtain ⟨reply, asked, rest, rfl, performs, run⟩ := run
  obtain ⟨rfl, rfl⟩ := (atOnce_query fun _ => rfl).mp performs
  rw [findUser_of_stored enrolled stored] at run
  change Runs atOnce (throwIf _ _ >>= fun _ => throwIf (Option.any _
    (asked.db.citizenIdentities.find? _)) _ >>= _) _ _ _ _ at run
  rw [found] at run
  rcases runs_throwIf_bind.mp run with ⟨unverified, _⟩ | ⟨_, gates⟩
  · rw [show (asked.db.withRelations user).user = user from rfl, verified, active] at unverified
    cases unverified
  · exact ⟨_, rest, rfl, gates⟩

/-- A submission goes on to the upload when the identity is not verified yet and the window is not
used up. -/
theorem submission_uploads_iff {dto : SubmitVerificationDto} {ipAddress : String}
    {outcome : Except Failure VerificationResult}
    (decrypts : ∀ iv text, runtime.decrypt (runtime.encrypt iv text) = .ok text)
    (written : ∀ iv text, runtime.encrypt iv text ≠ "")
    (enrolled : state.db.Enrolled runtime) (stored : user ∈ state.db.users)
    (active : user.isActive = true) (standard : dto.challengeMode = .standard)
    (run : Runs atOnce (submitVerification runtime user.id dto ipAddress) state trace outcome
      after) :
    ReachesUpload trace outcome ↔
      user.isIdVerified = false ∧ (state.window runtime user.id).attemptsUsed < MAX_ATTEMPTS := by
  obtain ⟨identity, found, foreign, national⟩ := enrolled.identified user stored
  obtain ⟨reply, rest, rfl, gates⟩ := runs_gates enrolled stored active found run
  rw [← List.singleton_append, reachesUpload_append (by simp)]
  rcases runs_throwIf_bind.mp gates with ⟨fin, rfl, rfl, _⟩ | ⟨nid, gates⟩
  · rw [foreign (beq_iff_eq.mp fin)]
    simp [ReachesUpload, BadRequestException, ImageUploadFailedException]
  rcases runs_throwIf_bind.mp gates with ⟨passed, rfl, rfl, _⟩ | ⟨unpassed, gates⟩
  · rw [Bool.and_eq_true] at passed
    rw [passed.1]
    simp [ReachesUpload, VerificationAlreadyPassedException, ImageUploadFailedException]
  have unproven : user.isIdVerified = false := by
    rw [standard] at unpassed
    simpa using unpassed
  obtain ⟨gate, later, ended, between, rfl, runGate, run⟩ := runs_bind.mp gates
  rw [reachesUpload_append (runGate.uses (enforceAttemptLimit_drawless user.id))]
  have decided := runs_enforceAttemptLimit runGate
  by_cases used : (state.window runtime user.id).attemptsUsed ≥ MAX_ATTEMPTS
  · rw [if_pos used] at decided
    subst decided
    obtain ⟨rfl, rfl, _⟩ := run
    simp [ReachesUpload, State.rejection, ImageUploadFailedException, Nat.not_lt.mpr used]
  · rw [if_neg used] at decided
    subst decided
    refine ⟨fun _ => ⟨unproven, Nat.lt_of_not_le used⟩, fun _ => ?_⟩
    have citizen : identity.identityType = .NID := by
      cases type : identity.identityType with
      | NID => rfl
      | FIN =>
        rw [type] at nid
        cases nid
    obtain ⟨iv, number, encrypted⟩ := national citizen
    rw [ofOutcome_ok, done_bind] at run
    unfold verifyIdentity Database.withRelations at run
    simp only [found] at run
    rcases runs_throwIf_bind.mp run with ⟨missing, _⟩ | ⟨_, run⟩
    · have present : identity.nidEncrypted.any (· != "") = true := by
        rw [encrypted]
        exact bne_iff_ne.mpr (written iv number)
      rw [truthy, present] at missing
      cases missing
    · rw [encrypted, Option.getD_some, EncryptionService.decrypt, decrypts] at run
      exact runs_uploadImages_bind run

/-! ### The status at one instant -/

/-- The status reports this at this instant. -/
def Reports (runtime : Runtime) (state : State) (userId : UserId)
    (result : VerificationStatusResult) : Prop :=
  ∃ trace after, Runs atOnce (getVerificationStatus runtime userId) state trace (.ok result) after

/-- The status reports what the window and the user row say. -/
theorem runs_getVerificationStatus {outcome : Except Failure VerificationStatusResult}
    (run : Runs atOnce (getVerificationStatus runtime user.id) state trace outcome after)
    (found : state.db.findUser (.byId user.id) = some user) :
    ∃ result, outcome = .ok result ∧
      result.canAttempt =
        (!user.isIdVerified && (state.window runtime user.id).attemptsRemaining > 0) ∧
      result.attemptsRemaining = (state.window runtime user.id).attemptsRemaining ∧
      result.lockout = lockoutOf runtime (state.window runtime user.id) := by
  obtain ⟨_, asked, _, rfl, performs, run⟩ := run
  obtain ⟨rfl, rfl⟩ := (atOnce_query fun _ => rfl).mp performs
  obtain ⟨_, _, _, rfl, performs, run⟩ := run
  obtain ⟨rfl, rfl⟩ := (atOnce_query fun _ => rfl).mp performs
  change Runs atOnce (getVerificationWindowState runtime user.id >>= _) _ _ _ _ at run
  obtain ⟨_, _, _, _, _, runWindow, run⟩ := runs_bind.mp run
  obtain ⟨rfl, rfl⟩ := runs_getVerificationWindowState runWindow
  obtain ⟨_, rfl, _⟩ := run
  rw [found]
  exact ⟨_, rfl, rfl, rfl, rfl⟩

theorem getVerificationStatus_answerable (userId : UserId) :
    (getVerificationStatus runtime userId).Uses fun effect => effect.answerable = true := by
  refine (getVerificationStatus_uses runtime userId).mono fun effect inside => ?_
  unfold Effect.answerable
  split
  · rcases inside with harmless | ⟨_, _, other⟩
    · exact harmless.elim
    · cases other
  · rfl

/-- The window is used up exactly when nothing remains of it. -/
theorem window_remaining (runtime : Runtime) (state : State) (userId : UserId) :
    (state.window runtime userId).attemptsRemaining = 0 ↔
      (state.window runtime userId).attemptsUsed ≥ MAX_ATTEMPTS := by
  unfold State.window
  split
  · exact Nat.sub_eq_zero_iff_le
  · decide

/-- A retry time is reported exactly when the window is used up. -/
theorem window_retry (runtime : Runtime) (state : State) (userId : UserId) :
    ((state.window runtime userId).retryAvailableAt.isSome = true ↔
        (state.window runtime userId).attemptsUsed ≥ MAX_ATTEMPTS) ∧
      (state.window runtime userId).retryAfterSeconds.isSome =
        (state.window runtime userId).retryAvailableAt.isSome := by
  unfold State.window
  split
  · refine ⟨?_, Option.isSome_map⟩
    unfold windowState
    cases state.counted runtime userId with
    | nil => simp [MAX_ATTEMPTS]
    | cons oldest rest => simp
  · exact ⟨by decide, rfl⟩

/-! ### The status and the gate -/

/-- The status says what the gate of a submission decides at the same instant. -/
structure StatusAgrees (runtime : Runtime) (state : State) (userId : UserId)
    (dto : SubmitVerificationDto) (ipAddress : String) : Prop where
  reported : ∃ result, Reports runtime state userId result
  submitted : ∃ trace outcome after,
    Runs atOnce (submitVerification runtime userId dto ipAddress) state trace outcome after
  canAttempt : ∀ result, Reports runtime state userId result → ∀ trace outcome after,
    Runs atOnce (submitVerification runtime userId dto ipAddress) state trace outcome after →
      (result.canAttempt = true ↔ ReachesUpload trace outcome)
  retryAvailableAt : ∀ result, Reports runtime state userId result →
    (result.attemptsRemaining = 0 ↔ result.lockout.retryAvailableAt.isSome = true)
  retryAfterSeconds : ∀ result, Reports runtime state userId result →
    (result.attemptsRemaining = 0 ↔ result.lockout.retryAfterSeconds.isSome = true)
  rejects : ∀ result, Reports runtime state userId result →
    (result.attemptsRemaining = 0 ↔ ∃ failure, Rejects runtime state userId failure)

theorem rejects_some_iff {userId : UserId} :
    (∃ failure, Rejects runtime state userId failure) ↔
      (state.window runtime userId).attemptsUsed ≥ MAX_ATTEMPTS := by
  constructor
  · rintro ⟨failure, rejects⟩
    exact (rejects_iff.mp rejects).1
  · intro used
    exact ⟨_, rejects_iff.mpr ⟨used, rfl⟩⟩

theorem submitVerification_answerable (userId : UserId) (dto : SubmitVerificationDto)
    (ipAddress : String) : (submitVerification runtime userId dto ipAddress).Uses
      fun effect => effect.answerable = true := by
  refine (submitVerification_uses runtime ⟨⟨0, "", none⟩, ""⟩ userId dto ipAddress).mono
    fun effect inside => ?_
  unfold Effect.answerable
  split
  · rcases inside with harmless | issues | ⟨_, _, other⟩ | ⟨_, other⟩ | ⟨_, other⟩ | ⟨_, _, other⟩ |
      ⟨_, other⟩ | ⟨_, other⟩
    · exact harmless.elim
    · exact issues.elim
    all_goals cases other
  · rfl

/-- Whatever has been called and seeded, at every instant and for every active user, the status
reports that the user can attempt a verification exactly when a standard submission passes its
gates and reaches the upload, and it reports a retry time exactly when the gate rejects. A
ciphertext is not empty and decrypts to what was encrypted. -/
theorem status_agrees_with_gate (runtime : Runtime) (clock : Timestamp) (pool : ServicePool)
    (user : UserRow) (instant : Timestamp) (dto : SubmitVerificationDto) (ipAddress : String)
    (decrypts : ∀ iv text, runtime.decrypt (runtime.encrypt iv text) = .ok text)
    (written : ∀ iv text, runtime.encrypt iv text ≠ "")
    (provisioned : Provisioned runtime clock pool) (stored : user ∈ pool.world.state.db.users)
    (active : user.isActive = true) (standard : dto.challengeMode = .standard) :
    StatusAgrees runtime (pool.world.state.at instant) user.id dto ipAddress := by
  have enrolled : (pool.world.state.at instant).db.Enrolled runtime :=
    enrolled_of_provisioned provisioned
  have found : (pool.world.state.at instant).db.findUser (.byId user.id) = some user :=
    findUser_of_stored enrolled stored
  generalize pool.world.state.at instant = state at enrolled found ⊢
  have storedNow : user ∈ state.db.users := (findUser_byId found).1
  have remaining := window_remaining runtime state user.id
  have retry := window_retry runtime state user.id
  have reads : ∀ result, Reports runtime state user.id result →
      result.canAttempt =
          (!user.isIdVerified && (state.window runtime user.id).attemptsRemaining > 0) ∧
        result.attemptsRemaining = (state.window runtime user.id).attemptsRemaining ∧
        result.lockout = lockoutOf runtime (state.window runtime user.id) := by
    rintro result ⟨trace, after, run⟩
    obtain ⟨_, same, facts⟩ := runs_getVerificationStatus run found
    obtain rfl := Except.ok.inj same
    exact facts
  refine ⟨?_, atOnce_runs (submitVerification_answerable user.id dto ipAddress) state,
    fun result reports trace outcome after run => ?_, fun result reports => ?_,
    fun result reports => ?_, fun result reports => ?_⟩
  · obtain ⟨trace, outcome, after, run⟩ :=
      atOnce_runs (getVerificationStatus_answerable user.id) state
    obtain ⟨result, rfl, _⟩ := runs_getVerificationStatus run found
    exact ⟨result, trace, after, run⟩
  · rw [submission_uploads_iff decrypts written enrolled storedNow active standard run,
      (reads result reports).1, Bool.and_eq_true, Bool.not_eq_true', decide_eq_true_eq,
      gt_iff_lt, Nat.pos_iff_ne_zero, Ne, remaining, Nat.not_le]
  · rw [(reads result reports).2.1, (reads result reports).2.2, remaining]
    exact retry.1.symm
  · rw [(reads result reports).2.1, (reads result reports).2.2, remaining, ← retry.1, ← retry.2]
    rfl
  · rw [(reads result reports).2.1, remaining, rejects_some_iff]

/-- A runtime whose ciphertexts are never empty. -/
def markedRuntime : Runtime :=
  { legibleRuntime with
    encrypt := fun _ plainText => ":" ++ plainText
    decrypt := fun encryptedText => .ok (String.ofList (encryptedText.toList.drop 1)) }

/-- The citizen that has verified the email, under that runtime. -/
def citizenPool : ServicePool :=
  (Pool.start (State.empty 0)).playAll (service markedRuntime) Referee.lax citizenSignedIn

/-- The status of the citizen agrees with the gate. -/
theorem status_agrees_with_gate_citizen :
    ∃ user ∈ citizenPool.world.state.db.users, user.isActive = true ∧
      StatusAgrees markedRuntime (citizenPool.world.state.at 7) user.id
        ⟨"N1", ⟨some "id", "image/png", 1⟩, ⟨some "me", "image/png", 1⟩, .standard⟩ "ip" := by
  have present : ∃ user ∈ citizenPool.world.state.db.users, user.isActive = true := by
    decide +kernel
  obtain ⟨user, stored, active⟩ := present
  refine ⟨user, stored, active, status_agrees_with_gate markedRuntime 0 citizenPool user 7 _ "ip"
    ?_ ?_ ?_ stored active rfl⟩
  · intro iv text
    simp [markedRuntime, String.toList_append]
  · intro iv text
    simp [markedRuntime, String.append_eq_empty_iff]
  · exact Provisioned.start.steps (Pool.playAll_steps Referee.lax_upholds _ _)

end GraconAuth
