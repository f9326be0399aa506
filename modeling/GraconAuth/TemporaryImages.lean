/-
This file is about the two images of a submission, which are uploaded side by side
to a temporary folder. The submission keeps the keys when both uploads have ended
well, and deletes the objects once the engine has failed or the attempt is recorded.
An image that was stored while the other upload failed is not deleted, nor are the
two when the attempt cannot be counted.
-/

import GraconAuth.Footprints
import GraconAuth.Parallel
import GraconAuth.Server

namespace GraconAuth

open Interleaving Program

/-! ### The uploads side by side -/

namespace VerificationService

variable (runtime : Runtime)

/-- Both uploads run side by side, and the first failure ends the submission. -/
def uploadImagesTogether (schedule : List Bool) (userId : UserId)
    (idCardFile selfieFile : UploadedFile) : Async (ObjectKey × ObjectKey) :=
  rescue (both schedule (S3Service.uploadVerificationImage userId "id-card" idCardFile)
      (S3Service.uploadVerificationImage userId "selfie" selfieFile))
    fun _ => throw (ImageUploadFailedException "images")

/-- `verifyIdentity` with the uploads as a parameter. -/
def verifyIdentityWith (uploads : Async (ObjectKey × ObjectKey)) (userId : UserId)
    (record : UserRecord) (dto : SubmitVerificationDto) (ipAddress : String) :
    Async VerificationResult :=
  match record.citizenIdentity with
  | none => throw EmailNotVerifiedException
  | some identity => do
    throwIf (!truthy identity.nidEncrypted) (InternalServerErrorException
      "Stored National ID data is incomplete for verification.")
    let storedNid ← EncryptionService.decrypt runtime (identity.nidEncrypted.getD "")
    let documentMatch := storedNid == trim dto.documentNumber
    let keys ← uploads
    let answer ← (callVerificationEngine ⟨keys.1, keys.2, userId, documentMatch⟩).attempt
    match answer with
    | .error failure => engineFailed userId documentMatch keys ipAddress failure
    | .ok answer => engineAnswered runtime userId record identity dto keys ipAddress answer

/-- `submitVerification` with the uploads as a parameter. -/
def submitVerificationWith (uploads : Async (ObjectKey × ObjectKey)) (userId : UserId)
    (dto : SubmitVerificationDto) (ipAddress : String) : Async VerificationResult := do
  let user ← request (.userFindUnique (.byId userId))
  match user with
  | none => throw EmailNotVerifiedException
  | some record => do
    throwIf (!record.user.isVerified || !record.user.isActive) EmailNotVerifiedException
    throwIf (record.citizenIdentity.any fun identity => identity.identityType == .FIN)
      (BadRequestException "Biometric verification is not required for foreign identity users.")
    throwIf (record.user.isIdVerified && dto.challengeMode != .invitation)
      VerificationAlreadyPassedException
    let _ ← enforceAttemptLimit runtime userId
    verifyIdentityWith runtime uploads userId record dto ipAddress

/-- A submission whose uploads run side by side. -/
def submitVerificationTogether (schedule : List Bool) (userId : UserId)
    (dto : SubmitVerificationDto) (ipAddress : String) : Async VerificationResult :=
  submitVerificationWith runtime
    (uploadImagesTogether schedule userId dto.idCardFile dto.selfieFile) userId dto ipAddress

theorem submitVerification_eq_with (userId : UserId) (dto : SubmitVerificationDto)
    (ipAddress : String) :
    submitVerification runtime userId dto ipAddress =
      submitVerificationWith runtime (uploadImages userId dto.idCardFile dto.selfieFile) userId dto
        ipAddress := rfl

theorem validateFile_ends (file : UploadedFile) :
    S3Service.validateFile file = .done () ∨
      ∃ failure, S3Service.validateFile file = .raise failure := by
  unfold S3Service.validateFile throwIf
  split
  · exact .inr ⟨_, rfl⟩
  · rw [done_bind]
    split
    · exact .inr ⟨_, rfl⟩
    · rw [done_bind]
      split
      · exact .inr ⟨_, rfl⟩
      · exact .inl rfl

/-- An upload is refused before it has any effect, or draws a key and stores the object. -/
theorem uploadVerificationImage_cases (userId : UserId) (imageType : String)
    (file : UploadedFile) :
    (∃ failure, S3Service.uploadVerificationImage userId imageType file = .raise failure) ∨
      ∃ key : String → ObjectKey, S3Service.uploadVerificationImage userId imageType file =
        request .randomBytes >>= fun randomHex => S3Service.uploadToS3 (key randomHex) := by
  unfold S3Service.uploadVerificationImage
  rcases validateFile_ends file with valid | ⟨failure, invalid⟩
  · rw [valid, done_bind]
    exact .inr ⟨_, rfl⟩
  · rw [invalid]
    exact .inl ⟨failure, rfl⟩

/-- Once the first upload has failed, the second one still runs to its end. -/
theorem attempt_eq_outlast (failure : Failure) (userId : UserId) (imageType : String)
    (file : UploadedFile) (one two : Bool) (rest : List Bool) :
    ((S3Service.uploadVerificationImage userId imageType file).attempt >>= fun _ =>
        (throw (ImageUploadFailedException "images") : Async (ObjectKey × ObjectKey))) =
      (outlast failure (one :: two :: rest)
        (S3Service.uploadVerificationImage userId imageType file)).rescue fun _ =>
          throw (ImageUploadFailedException "images") := by
  rcases uploadVerificationImage_cases userId imageType file with ⟨_, refused⟩ | ⟨key, stores⟩
  · rw [refused]
    rfl
  · rw [stores]
    refine congrArg (Program.await _) (funext fun reply => ?_)
    cases reply with
    | error failure => rfl
    | ok randomHex =>
      refine congrArg (Program.await _) (funext fun stored => ?_)
      cases stored <;> cases rest <;> rfl

/-- Uploads that run one after the other are side by side under one schedule. -/
theorem uploadImages_eq_together (userId : UserId) (idCardFile selfieFile : UploadedFile) :
    uploadImages userId idCardFile selfieFile =
      uploadImagesTogether [true, true, false, false] userId idCardFile selfieFile := by
  unfold uploadImages uploadImagesTogether
  rcases uploadVerificationImage_cases userId "id-card" idCardFile with ⟨failure, refused⟩ |
    ⟨key, stores⟩
  · rw [refused, both]
    exact attempt_eq_outlast failure userId "selfie" selfieFile true true _
  rcases uploadVerificationImage_cases userId "selfie" selfieFile with ⟨failure, refused⟩ |
    ⟨selfieKey, selfieStores⟩
  · rw [refused]
    calc
      _ = ((S3Service.uploadVerificationImage userId "id-card" idCardFile).attempt >>= fun _ =>
          (throw (ImageUploadFailedException "images") : Async (ObjectKey × ObjectKey))) :=
        congrArg ((S3Service.uploadVerificationImage userId "id-card" idCardFile).attempt >>= ·)
          (funext fun idCardUpload => by cases idCardUpload <;> rfl)
      _ = _ := attempt_eq_outlast failure userId "id-card" idCardFile true true [false, false]
      _ = _ := by
        rw [stores]
        rfl
  · have second := fun failure => attempt_eq_outlast failure userId "selfie" selfieFile
    rw [selfieStores] at second
    rw [stores, selfieStores]
    refine congrArg (Program.await _) (funext fun reply => ?_)
    cases reply with
    | error failure => exact second failure true false [false]
    | ok randomHex =>
      refine congrArg (Program.await _) (funext fun stored => ?_)
      cases stored with
      | error failure => exact second _ false false []
      | ok _ =>
        refine congrArg (Program.await _) (funext fun reply => ?_)
        cases reply with
        | error failure => rfl
        | ok randomHex =>
          refine congrArg (Program.await _) (funext fun stored => ?_)
          cases stored <;> rfl

theorem submitVerification_eq_together (userId : UserId) (dto : SubmitVerificationDto)
    (ipAddress : String) :
    submitVerification runtime userId dto ipAddress =
      submitVerificationTogether runtime [true, true, false, false] userId dto ipAddress := by
  rw [submitVerification_eq_with, uploadImages_eq_together, submitVerificationTogether]

end VerificationService

open VerificationService

/-! ### What is stored and what is deleted -/

/-- The key under which an event has stored an object. -/
def storedKey : ServiceEvent → Option ObjectKey
  | ⟨.putObject key, .ok _⟩ => some key
  | _ => none

/-- The objects that were stored. -/
def storedKeys (trace : List ServiceEvent) : List ObjectKey :=
  trace.filterMap storedKey

/-- Every object that was stored has been passed to a delete request. -/
def ImagesDeleted (trace : List ServiceEvent) : Prop :=
  ∀ key ∈ storedKeys trace, ∃ keys reply, ⟨.deleteObjects keys, reply⟩ ∈ trace ∧ key ∈ keys

/-- One image was stored and the other one was not. -/
def HalfUploaded (trace : List ServiceEvent) : Prop :=
  (storedKeys trace).length = 1

/-- The engine has answered, and the attempts could not be counted. -/
def CountFailed (trace : List ServiceEvent) : Prop :=
  ∃ payload answer userId failure, (⟨.callEngine payload, .ok answer⟩ : ServiceEvent) ∈ trace ∧
    ⟨.idVerificationCount userId, .error failure⟩ ∈ trace

/-- The images that are stored are deleted, apart from two kinds of failure. -/
def AccountsForImages (trace : List ServiceEvent) : Prop :=
  ImagesDeleted trace ↔ ¬HalfUploaded trace ∧ ¬CountFailed trace

/-- The effects that neither store nor delete an object, call the engine or count attempts. -/
def Effect.aside : Effect → Bool
  | .putObject _ | .deleteObjects _ | .callEngine _ | .idVerificationCount _ => false
  | _ => true

theorem storedKey_eq_some {event : ServiceEvent} {key : ObjectKey}
    (stored : storedKey event = some key) : event.effect = .putObject key := by
  unfold storedKey at stored
  split at stored
  · cases stored
    rfl
  · cases stored

@[simp] theorem storedKeys_append (first second : List ServiceEvent) :
    storedKeys (first ++ second) = storedKeys first ++ storedKeys second :=
  List.filterMap_append

theorem storedKeys_nil_of {trace : List ServiceEvent}
    (elsewhere : ∀ event ∈ trace, ∀ key, event.effect ≠ .putObject key) :
    storedKeys trace = [] :=
  List.filterMap_eq_nil_iff.mpr fun event member =>
    Option.eq_none_iff_forall_ne_some.mpr fun key stored =>
      elsewhere event member key (storedKey_eq_some stored)

/-- An upload stores what it returns. -/
theorem comesTo_uploadVerificationImage {userId : UserId} {imageType : String}
    {file : UploadedFile} {trace : List ServiceEvent} {rest : Async ObjectKey}
    (comesTo : (S3Service.uploadVerificationImage userId imageType file).ComesTo trace rest) :
    (∃ key, rest = .done key ∧ storedKeys trace = [key]) ∨
      ((∀ key, rest ≠ .done key) ∧ storedKeys trace = []) := by
  rcases uploadVerificationImage_cases userId imageType file with ⟨failure, refused⟩ | ⟨key, stores⟩
  · rw [refused] at comesTo
    cases comesTo
    exact .inr ⟨nofun, rfl⟩
  · rw [stores] at comesTo
    cases comesTo with
    | here => exact .inr ⟨nofun, rfl⟩
    | @next _ _ reply _ _ later =>
      cases reply with
      | error failure =>
        cases later
        exact .inr ⟨nofun, rfl⟩
      | ok randomHex =>
        cases later with
        | here => exact .inr ⟨nofun, rfl⟩
        | @next _ _ stored _ _ last =>
          cases stored with
          | error failure =>
            cases last
            exact .inr ⟨nofun, rfl⟩
          | ok _ =>
            cases last
            exact .inl ⟨_, rfl, rfl⟩

section Runs

variable {World Choice : Type} {environment : Environment World Choice Effect.Reply Failure}
  {before after : World} {trace : List ServiceEvent}

/-- Uploads that both end well have stored the two images; otherwise one image at most was
stored. -/
theorem runs_uploadImagesTogether {schedule : List Bool} {userId : UserId}
    {idCardFile selfieFile : UploadedFile} {outcome : Except Failure (ObjectKey × ObjectKey)}
    (run : Runs environment (uploadImagesTogether schedule userId idCardFile selfieFile) before
      trace outcome after) :
    (∀ event ∈ trace, event.effect.Uploads) ∧
      ((∃ failure, outcome = .error failure ∧ (storedKeys trace).length ≤ 1) ∨
        ∃ keys, outcome = .ok keys ∧ (storedKeys trace).Perm [keys.1, keys.2]) := by
  obtain ⟨trace, handled, ended, between, rfl, run, rest⟩ := runs_rescue.mp run
  obtain ⟨left, right, restFirst, restSecond, shuffled, one, two, ends⟩ := runs_both run
  have inside : ∀ event ∈ trace, event.effect.Uploads := by
    intro event member
    rcases List.mem_append.mp (shuffled.mem_iff.mp member) with ofOne | ofTwo
    · exact one.uses (uploadVerificationImage_uses _ _ _) event ofOne
    · exact two.uses (uploadVerificationImage_uses _ _ _) event ofTwo
  have stored : (storedKeys trace).Perm (storedKeys left ++ storedKeys right) := by
    rw [← storedKeys_append]
    exact shuffled.filterMap _
  have first := comesTo_uploadVerificationImage one
  have second := comesTo_uploadVerificationImage two
  cases ended with
  | ok keys =>
    obtain ⟨rfl, rfl, _⟩ := rest
    obtain ⟨rfl, rfl⟩ := ends
    rw [List.append_nil]
    refine ⟨inside, .inr ⟨keys, rfl, stored.trans ?_⟩⟩
    obtain ⟨key, same, storedFirst⟩ := first.resolve_right fun other => other.1 _ rfl
    obtain ⟨keyToo, sameToo, storedSecond⟩ := second.resolve_right fun other => other.1 _ rfl
    cases same
    cases sameToo
    rw [storedFirst, storedSecond]
    exact .refl _
  | error failure =>
    obtain ⟨rfl, rfl, _⟩ := rest
    rw [List.append_nil]
    refine ⟨inside, .inl ⟨_, rfl, ?_⟩⟩
    have few : (storedKeys left).length ≤ 1 ∧ (storedKeys right).length ≤ 1 := by
      constructor
      · rcases first with ⟨_, _, same⟩ | ⟨_, same⟩ <;> simp [same]
      · rcases second with ⟨_, _, same⟩ | ⟨_, same⟩ <;> simp [same]
    have fewer : (storedKeys left).length = 0 ∨ (storedKeys right).length = 0 := by
      rcases ends with rfl | rfl
      · rcases first with ⟨_, impossible, _⟩ | ⟨_, same⟩
        · cases impossible
        · exact .inl (by rw [same]; rfl)
      · rcases second with ⟨_, impossible, _⟩ | ⟨_, same⟩
        · cases impossible
        · exact .inr (by rw [same]; rfl)
    rw [stored.length_eq, List.length_append]
    omega

/-! ### The rest of a submission -/

/-- What is aside makes no difference at the beginning. -/
theorem accounts_aside_append {first second : List ServiceEvent}
    (aside : ∀ event ∈ first, event.effect.aside = true) :
    AccountsForImages (first ++ second) ↔ AccountsForImages second := by
  have stored : storedKeys (first ++ second) = storedKeys second := by
    rw [storedKeys_append, storedKeys_nil_of fun event member key same => ?_, List.nil_append]
    have := aside event member
    rw [same] at this
    cases this
  have later : ∀ event : ServiceEvent, event.effect.aside = false →
      (event ∈ first ++ second ↔ event ∈ second) := by
    intro event other
    rw [List.mem_append, or_iff_right]
    intro member
    rw [aside event member] at other
    cases other
  have deleted : ImagesDeleted (first ++ second) ↔ ImagesDeleted second := by
    unfold ImagesDeleted
    rw [stored]
    exact forall₂_congr fun _ _ => exists₂_congr fun _ _ => and_congr_left fun _ => later _ rfl
  have counted : CountFailed (first ++ second) ↔ CountFailed second :=
    exists₄_congr fun _ _ _ _ => and_congr (later _ rfl) (later _ rfl)
  rw [AccountsForImages, AccountsForImages, deleted, HalfUploaded, HalfUploaded, stored, counted]

theorem accounts_nil : AccountsForImages [] :=
  iff_of_true (by simp [ImagesDeleted, storedKeys])
    ⟨by simp [HalfUploaded, storedKeys], by simp [CountFailed]⟩

/-- A program with a footprint aside, and then the rest. -/
theorem accounts_aside_bind {First Second : Type} {program : Async First}
    {next : First → Async Second} {outcome : Except Failure Second}
    (uses : program.Uses (·.aside = true))
    (rest : ∀ result between later,
      Runs environment (next result) between later outcome after → AccountsForImages later)
    (run : Runs environment (program >>= next) before trace outcome after) :
    AccountsForImages trace := by
  obtain ⟨first, second, ended, between, rfl, runFirst, later⟩ := runs_bind.mp run
  refine (accounts_aside_append (runFirst.uses uses)).mpr ?_
  cases ended with
  | error failure =>
    obtain ⟨rfl, _, _⟩ := later
    exact accounts_nil
  | ok result => exact rest result between second later

/-- Uploads that have failed have stored nothing or one image, and nothing is deleted. -/
theorem accounts_of_uploads {uploads : List ServiceEvent}
    (inside : ∀ event ∈ uploads, event.effect.Uploads) (few : (storedKeys uploads).length ≤ 1) :
    AccountsForImages uploads := by
  have counted : ¬CountFailed uploads := by
    rintro ⟨_, _, _, _, called, _⟩
    exact inside _ called
  have deleted : ImagesDeleted uploads ↔ storedKeys uploads = [] := by
    constructor
    · intro deleted
      refine List.eq_nil_iff_forall_not_mem.mpr fun key stored => ?_
      obtain ⟨_, _, member, _⟩ := deleted key stored
      exact inside _ member
    · intro empty key stored
      rw [empty] at stored
      cases stored
  rw [AccountsForImages, deleted, and_iff_left counted, HalfUploaded, ← List.length_eq_zero_iff]
  omega

/-- Two images that were stored have to be deleted, and are unless the attempts could not be
counted. -/
theorem accounts_of_stored {uploads later : List ServiceEvent} {keys : ObjectKey × ObjectKey}
    (inside : ∀ event ∈ uploads, event.effect.Uploads)
    (stored : (storedKeys uploads).Perm [keys.1, keys.2])
    (unstored : ∀ event ∈ later, ∀ key, event.effect ≠ .putObject key)
    (deletes : (∃ reply, ⟨.deleteObjects [keys.1, keys.2], reply⟩ ∈ later) ∧ ¬CountFailed later ∨
      (∀ keys reply, ⟨.deleteObjects keys, reply⟩ ∉ later) ∧ CountFailed later) :
    AccountsForImages (uploads ++ later) := by
  have both : (storedKeys (uploads ++ later)).Perm [keys.1, keys.2] := by
    rw [storedKeys_append, storedKeys_nil_of unstored, List.append_nil]
    exact stored
  have full : ¬HalfUploaded (uploads ++ later) := by
    rw [HalfUploaded, both.length_eq]
    exact nofun
  have counted : CountFailed (uploads ++ later) ↔ CountFailed later := by
    have elsewhere : ∀ event : ServiceEvent, ¬event.effect.Uploads →
        (event ∈ uploads ++ later ↔ event ∈ later) := fun event other => by
      rw [List.mem_append, or_iff_right fun member => other (inside event member)]
    exact exists₄_congr fun _ _ _ _ => and_congr (elsewhere _ id) (elsewhere _ id)
  rw [AccountsForImages, and_iff_right full, counted]
  rcases deletes with ⟨⟨reply, deleted⟩, fine⟩ | ⟨undeleted, failed⟩
  · refine iff_of_true (fun key member => ?_) fine
    exact ⟨_, reply, List.mem_append_right _ deleted, both.mem_iff.mp member⟩
  · refine iff_of_false (fun deleted => ?_) (not_not.mpr failed)
    obtain ⟨others, reply, member, _⟩ :=
      deleted keys.1 (both.mem_iff.mpr List.mem_cons_self)
    rcases List.mem_append.mp member with early | late
    · exact inside _ early
    · exact undeleted others reply late

/-! ### The footprints -/

variable (runtime : Runtime)

theorem getVerificationWindowState_imageless (userId : UserId) :
    (getVerificationWindowState runtime userId).Uses (·.aside = true) := by
  unfold getVerificationWindowState
  split
  · trivial
  · exact uses_bind (uses_perform rfl) fun _ => uses_bind (uses_perform rfl) fun _ =>
      uses_bind (uses_perform rfl) fun _ => trivial

theorem enforceAttemptLimit_imageless (userId : UserId) :
    (enforceAttemptLimit runtime userId).Uses (·.aside = true) := by
  unfold enforceAttemptLimit
  split
  · trivial
  · exact uses_bind (getVerificationWindowState_imageless runtime userId) fun _ =>
      uses_bind (uses_throwIf _ _) fun _ => trivial

theorem applyVerdict_imageless (userId : UserId) (wasAlreadyVerified passed : Bool)
    (ipAddress : String) :
    (applyVerdict runtime userId wasAlreadyVerified passed ipAddress).Uses (·.aside = true) := by
  unfold applyVerdict
  split
  · refine uses_bind (uses_perform rfl) fun _ => uses_bind (uses_perform rfl) fun _ =>
      uses_bind (uses_bind (uses_perform rfl) fun _ => uses_bind (uses_perform rfl) fun user => ?_)
        fun _ => trivial
    cases user with
    | none => trivial
    | some record =>
      exact uses_bind (uses_perform rfl) fun _ => uses_bind (uses_perform rfl) fun _ =>
        uses_bind (uses_perform rfl) fun _ => uses_bind (uses_perform rfl) fun _ => trivial
  · exact uses_bind (uses_perform rfl) fun _ => trivial

/-- The effects that neither store an object nor call the engine. -/
def Effect.settles : Effect → Bool
  | .putObject _ | .callEngine _ => false
  | _ => true

theorem engineFailed_settles (userId : UserId) (documentMatch : Bool)
    (keys : ObjectKey × ObjectKey) (ipAddress : String) (failure : Failure) :
    (engineFailed userId documentMatch keys ipAddress failure).Uses (·.settles = true) :=
  uses_bind (uses_rescue (uses_perform rfl) fun _ => trivial) fun _ =>
    uses_bind (uses_bind (uses_perform rfl) fun _ => trivial) fun _ =>
      uses_bind (uses_rescue (uses_perform rfl) fun _ => trivial) fun _ => trivial

/-! ### The engine's answer -/

variable {runtime} {userId : UserId} {keys : ObjectKey × ObjectKey} {ipAddress : String}
  {outcome : Except Failure VerificationResult}

theorem runs_recordAttempt_bind {data : IdVerificationCreate} {Result : Type}
    {next : Unit → Async Result} {outcome : Except Failure Result}
    (run : Runs environment (recordAttempt data >>= next) before trace outcome after) :
    ∃ reply between rest, trace = ⟨.execute [.idVerificationCreate data], reply⟩ :: rest ∧
      environment.Performs before (.execute [.idVerificationCreate data]) reply between ∧
        Runs environment (next ()) between rest outcome after := by
  obtain ⟨reply, between, rest, rfl, performs, run⟩ := runs_rescue_perform_bind.mp run
  refine ⟨reply, between, rest, rfl, performs, ?_⟩
  cases reply <;> exact run

theorem runs_cleanupImages_bind {idCardKey selfieKey : ObjectKey} {Result : Type}
    {next : Unit → Async Result} {outcome : Except Failure Result}
    (run : Runs environment (cleanupImages idCardKey selfieKey >>= next) before trace outcome
      after) :
    ∃ reply between rest, trace = ⟨.deleteObjects [idCardKey, selfieKey], reply⟩ :: rest ∧
      environment.Performs before (.deleteObjects [idCardKey, selfieKey]) reply between ∧
        Runs environment (next ()) between rest outcome after := by
  obtain ⟨reply, between, rest, rfl, performs, run⟩ := runs_rescue_perform_bind.mp run
  refine ⟨reply, between, rest, rfl, performs, ?_⟩
  cases reply <;> exact run

/-- A submission whose engine call has failed deletes the images first of all. -/
theorem runs_engineFailed {documentMatch : Bool} {failure : Failure}
    (run : Runs environment (engineFailed userId documentMatch keys ipAddress failure) before trace
      outcome after) :
    (∀ event ∈ trace, event.effect.settles = true) ∧
      ∃ reply, (⟨.deleteObjects [keys.1, keys.2], reply⟩ : ServiceEvent) ∈ trace := by
  refine ⟨run.uses (engineFailed_settles userId documentMatch keys ipAddress failure), ?_⟩
  obtain ⟨reply, between, rest, rfl, _, _⟩ := run
  exact ⟨reply, List.mem_cons_self⟩

/-- A submission that the engine has answered counts the attempts, and ends there when that fails.
Otherwise it records the attempt and then deletes the images. -/
theorem runs_engineAnswered {record : UserRecord} {identity : CitizenIdentityRow}
    {dto : SubmitVerificationDto} {answer : EngineVerificationResponse}
    (run : Runs environment (engineAnswered runtime userId record identity dto keys ipAddress
      answer) before trace outcome after) :
    (∃ failure, trace = [⟨.idVerificationCount userId, .error failure⟩]) ∨
      ∃ count attempt recorded reply rest, trace =
        ⟨.idVerificationCount userId, .ok count⟩ :: ⟨.execute attempt, recorded⟩ ::
          ⟨.deleteObjects [keys.1, keys.2], reply⟩ :: rest ∧
            ∀ event ∈ rest, event.effect.aside = true := by
  obtain ⟨counted, between, rest, rfl, _, run⟩ := run
  cases counted with
  | error failure =>
    obtain ⟨rfl, _, _⟩ := run
    exact .inl ⟨failure, rfl⟩
  | ok count =>
    obtain ⟨recorded, between, rest, rfl, _, run⟩ := runs_recordAttempt_bind run
    obtain ⟨reply, between, rest, rfl, _, run⟩ := runs_cleanupImages_bind run
    have inside := run.uses (uses_bind (applyVerdict_imageless runtime _ _ _ _) fun _ =>
      uses_bind (uses_perform rfl) fun _ =>
      uses_bind (getVerificationWindowState_imageless runtime _) fun _ => trivial)
    exact .inr ⟨count, _, recorded, reply, rest, rfl, inside⟩

/-- From the engine call on. -/
theorem accounts_engine {uploads : List ServiceEvent} {documentMatch : Bool} {record : UserRecord}
    {identity : CitizenIdentityRow} {dto : SubmitVerificationDto}
    (inside : ∀ event ∈ uploads, event.effect.Uploads)
    (stored : (storedKeys uploads).Perm [keys.1, keys.2])
    (run : Runs environment
      ((callVerificationEngine ⟨keys.1, keys.2, userId, documentMatch⟩).attempt >>= fun answer =>
        match answer with
        | .error failure => engineFailed userId documentMatch keys ipAddress failure
        | .ok answer => engineAnswered runtime userId record identity dto keys ipAddress answer)
      before trace outcome after) : AccountsForImages (uploads ++ trace) := by
  obtain ⟨reply, between, rest, rfl, _, run⟩ := run
  cases reply with
  | error failure =>
    obtain ⟨settled, reply, deleted⟩ := runs_engineFailed run
    refine accounts_of_stored inside stored (List.forall_mem_cons.mpr ⟨nofun, ?_⟩)
      (.inl ⟨⟨reply, List.mem_cons_of_mem _ deleted⟩, ?_⟩)
    · intro event member key same
      have := settled event member
      rw [same] at this
      cases this
    · rintro ⟨payload, answer, _, _, called, _⟩
      rcases List.mem_cons.mp called with same | later
      · cases same
      · exact nomatch settled _ later
  | ok answer =>
    rcases runs_engineAnswered run with ⟨failure, rfl⟩ |
      ⟨count, attempt, recorded, reply, rest, rfl, aside⟩
    · refine accounts_of_stored inside stored ?_ (.inr ⟨?_, ?_⟩)
      · simp
      · simp
      · exact ⟨_, _, _, _, List.mem_cons_self, List.mem_cons_of_mem _ List.mem_cons_self⟩
    · refine accounts_of_stored inside stored ?_ (.inl ⟨⟨reply, by simp⟩, ?_⟩)
      · simp only [List.forall_mem_cons]
        refine ⟨nofun, nofun, nofun, nofun, fun event member key same => ?_⟩
        have := aside event member
        rw [same] at this
        cases this
      · rintro ⟨_, _, _, _, _, counted⟩
        simp only [List.mem_cons] at counted
        rcases counted with same | same | same | same | later
        · cases same
        · cases same
        · cases same
        · cases same
        · exact nomatch aside _ later

end Runs

/-! ### When no image lingers -/

/-- A submission with two images. -/
def twoImages : SubmitVerificationDto :=
  ⟨"N1", ⟨some "id", "image/png", 1⟩, ⟨some "me", "image/png", 1⟩, .standard⟩

/-- What a submission of the citizen does when the effects are answered in this way. -/
def citizenSubmission (schedule : List Bool) (choices : List Choice) :
    Option (List ServiceEvent × Except Failure VerificationResult × State) :=
  (submitVerificationTogether legibleRuntime schedule 0 twoImages "ip").play environment
    (playedSerially citizenSerially).2 choices

/-- Nothing was deleted. -/
def deletesNothing (trace : List ServiceEvent) : Bool :=
  trace.all fun event =>
    match event.effect with
    | .deleteObjects _ => false
    | _ => true

/-- An image can linger: the first one is stored, and then the second one is not. -/
theorem images_linger :
    ¬ ∀ (runtime : Runtime) (schedule : List Bool) (userId : UserId) (dto : SubmitVerificationDto)
      (ipAddress : String) (before after : State) (trace : List ServiceEvent)
      (outcome : Except Failure VerificationResult),
      Runs environment (submitVerificationTogether runtime schedule userId dto ipAddress) before
        trace outcome after → ImagesDeleted trace := by
  intro deleted
  have lingers : (citizenSubmission [true, true] [{}, {}, {}, {}, {}, {}, {},
      { fails := some databaseDown }]).any (fun played =>
        deletesNothing played.1 && (storedKeys played.1).length == 1) = true := by
    decide +kernel
  obtain ⟨trace, outcome, after, run, facts⟩ := Program.exists_runs_of_play lingers
  rw [Bool.and_eq_true, beq_iff_eq] at facts
  obtain ⟨key, stored⟩ := List.length_eq_one_iff.mp facts.2
  obtain ⟨keys, reply, member, _⟩ := deleted _ _ _ _ _ _ _ _ _ run key (by
    rw [stored]
    exact List.mem_singleton_self key)
  exact nomatch List.all_eq_true.mp facts.1 _ member

section Runs

variable {World Choice : Type} {environment : Environment World Choice Effect.Reply Failure}
  {before after : World} {trace : List ServiceEvent}

/-- Whatever is answered, and in whichever order the uploads are carried out: the images that a
submission has stored are passed to a delete request, unless one image was stored and the other
was not, or the engine has answered and the attempts could not be counted. -/
theorem images_deleted_iff (runtime : Runtime) (schedule : List Bool) (userId : UserId)
    (dto : SubmitVerificationDto) (ipAddress : String) {World Choice : Type}
    (environment : Environment World Choice Effect.Reply Failure) (before after : World)
    (trace : List ServiceEvent) (outcome : Except Failure VerificationResult)
    (run : Runs environment (submitVerificationTogether runtime schedule userId dto ipAddress)
      before trace outcome after) :
    ImagesDeleted trace ↔ ¬HalfUploaded trace ∧ ¬CountFailed trace := by
  refine accounts_aside_bind (uses_perform rfl) (fun user between later run => ?_) run
  cases user with
  | none =>
    obtain ⟨rfl, _, _⟩ := run
    exact accounts_nil
  | some record =>
    refine accounts_aside_bind (uses_throwIf _ _) (fun _ between later run => ?_) run
    refine accounts_aside_bind (uses_throwIf _ _) (fun _ between later run => ?_) run
    refine accounts_aside_bind (uses_throwIf _ _) (fun _ between later run => ?_) run
    refine accounts_aside_bind (enforceAttemptLimit_imageless runtime userId)
      (fun _ between later run => ?_) run
    unfold verifyIdentityWith at run
    split at run
    · obtain ⟨rfl, _, _⟩ := run
      exact accounts_nil
    · refine accounts_aside_bind (uses_throwIf _ _) (fun _ between later run => ?_) run
      refine accounts_aside_bind (uses_ofOutcome _) (fun _ between later run => ?_) run
      obtain ⟨uploads, rest, ended, middle, rfl, uploaded, run⟩ := runs_bind.mp run
      obtain ⟨inside, ⟨failure, rfl, few⟩ | ⟨keys, rfl, stored⟩⟩ :=
        runs_uploadImagesTogether uploaded
      · obtain ⟨rfl, _, _⟩ := run
        rw [List.append_nil]
        exact accounts_of_uploads inside few
      · exact accounts_engine inside stored run

end Runs

/-- No count has failed. -/
def countsAttempts (trace : List ServiceEvent) : Bool :=
  trace.all fun event =>
    match event with
    | ⟨.idVerificationCount _, .error _⟩ => false
    | _ => true

/-- The images of a submission whose engine call fails are deleted. -/
theorem images_deleted_iff_unavailable :
    ∃ trace outcome after, Runs environment
      (submitVerificationTogether legibleRuntime [true, true] 0 twoImages "ip")
      (playedSerially citizenSerially).2 trace outcome after ∧
        (storedKeys trace).length = 2 ∧ ImagesDeleted trace := by
  have unavailable : (citizenSubmission [true, true] [{}, {}, {}, {}, {}, {}, {}, {},
      { fails := some databaseDown }, {}, {}, {}]).any (fun played =>
        countsAttempts played.1 && (storedKeys played.1).length == 2) = true := by
    decide +kernel
  obtain ⟨trace, outcome, after, run, facts⟩ := Program.exists_runs_of_play unavailable
  rw [Bool.and_eq_true, beq_iff_eq] at facts
  refine ⟨trace, outcome, after, run, facts.2,
    (images_deleted_iff _ _ _ _ _ _ _ _ _ _ run).mpr ⟨?_, ?_⟩⟩
  · rw [HalfUploaded, facts.2]
    decide
  · rintro ⟨_, _, _, _, _, failed⟩
    exact nomatch List.all_eq_true.mp facts.1 _ failed

end GraconAuth
