/-
This file embeds the replacement of a profile image and is about the reference that
the user row keeps to it. The old object is deleted first, then the new file is
validated, stored and recorded. So the reference dangles after a call that has
deleted the old object and has thrown before the new one was recorded, until a later
call records one, and it dangles after no other calls.
-/

import GraconAuth.Server
import GraconAuth.Tables
import GraconAuth.TemporaryImages

namespace GraconAuth

open Interleaving Program

/-! ### The function -/

namespace S3Service

/-- A deletion failure is logged and swallowed. -/
def deleteObject (key : ObjectKey) : Async Unit :=
  rescue (request (.deleteObjects [key])) fun _ => pure ()

/-- Validate, draw a key in the folder of profile images, store. -/
def uploadProfileImage (userId : UserId) : Option UploadedFile → Async ObjectKey
  | none => throw (BadRequestException "No file provided")
  | some file => do
    validateFile file
    let randomHex ← request .randomBytes
    uploadToS3 ("profile-images/" ++ toString userId ++ "/" ++ randomHex ++ "." ++
      mimeToExtension file.mimetype)

end S3Service

namespace UsersService

structure ProfileImageResult where
  profileImageUrl : String
  profileImageExpiresAt : Timestamp
  deriving DecidableEq, Repr

def uploadProfileImage (userId : UserId) (file : Option UploadedFile) :
    Async ProfileImageResult := do
  let user ← request (.userFindUnique (.byId userId))
  match user with
  | none => throw (NotFoundException "User not found")
  | some record => do
    -- The old object goes before the new file is even validated.
    onlyIf (truthy record.user.imageUrl) (S3Service.deleteObject (record.user.imageUrl.getD ""))
    let key ← S3Service.uploadProfileImage userId file
    execute [.userUpdate userId { imageUrl := some key }]
    let presigned ← S3Service.getPresignedUrl key
    return ⟨presigned.1, presigned.2⟩

end UsersService

/-- The uploads of one user. -/
def profileImageService (userId : UserId) : Service State Choice Effect.Reply Failure
    (Option UploadedFile) UsersService.ProfileImageResult where
  environment := environment
  serve := UsersService.uploadProfileImage userId
  accepts _ _ := true

/-- One served upload. -/
abbrev UploadServed :=
  Served State Effect.Reply Failure (Option UploadedFile) UsersService.ProfileImageResult

/-! ### The reference -/

/-- `user.imageUrl` -/
def State.imageUrl (state : State) (userId : UserId) : Option String :=
  (state.db.findUser (.byId userId)).bind (·.imageUrl)

/-- `user.imageUrl` holds a key, and there is no object with that key. -/
def State.Dangles (state : State) (userId : UserId) : Prop :=
  ∃ key, state.imageUrl userId = some key ∧ key ≠ "" ∧ UsersService.isHttpUrl key = false ∧
    key ∉ state.bucket

/-- An object was deleted. -/
def Deletes (trace : List ServiceEvent) : Prop :=
  ∃ keys, (⟨.deleteObjects keys, .ok ()⟩ : ServiceEvent) ∈ trace

/-- A key was written to the row of the user. -/
def Records (userId : UserId) (trace : List ServiceEvent) : Prop :=
  ∃ key, (⟨.execute [.userUpdate userId { imageUrl := some key }], .ok ()⟩ : ServiceEvent) ∈ trace

/-- What an upload leaves of the reference and the objects. -/
structure KeepsImage (userId : UserId) (served : UploadServed) : Prop where
  recorded : Records userId served.trace →
    ∃ key ∈ served.after.bucket, served.after.imageUrl userId = some key
  returns : (∃ result, served.outcome = .ok result) → Records userId served.trace
  unrecorded : ¬Records userId served.trace →
    served.after.imageUrl userId = served.before.imageUrl userId
  undeleted : ¬Records userId served.trace → ¬Deletes served.trace →
    ∀ key ∈ served.before.bucket, key ∈ served.after.bucket

/-! ### What the effects do to it -/

section Effects

variable {state next : State} {effect : Effect} {reply : Except Failure effect.Reply}
  {userId : UserId} {key : ObjectKey}

/-- The effects of an upload that change neither the tables nor the bucket. -/
def Effect.still : Effect → Bool
  | .userFindUnique _ | .randomBytes | .getSignedUrl _ | .now => true
  | _ => false

theorem performs_still (performs : environment.Performs state effect reply next)
    (still : effect.still = true) : next.db = state.db ∧ next.bucket = state.bucket := by
  obtain ⟨choice, answered⟩ := performs
  cases effect <;> cases still
  case userFindUnique => rw [(query_cases answered).1]; exact ⟨rfl, rfl⟩
  case getSignedUrl => rcases remote_cases answered with ⟨_, rfl⟩ | ⟨_, rfl⟩ <;> exact ⟨rfl, rfl⟩
  case randomBytes | now =>
    cases answered
    exact ⟨rfl, rfl⟩

theorem performs_putObject {reply : Except Failure Unit}
    (performs : environment.Performs state (.putObject key) reply next) :
    next.db = state.db ∧ (∀ other ∈ state.bucket, other ∈ next.bucket) ∧
      (reply = .ok () → key ∈ next.bucket) := by
  obtain ⟨choice, answered⟩ := performs
  rcases remote_cases answered with ⟨⟨_, rfl⟩, rfl⟩ | ⟨rfl, rfl⟩
  · exact ⟨rfl, fun _ member => member, nofun⟩
  · exact ⟨rfl, fun _ => List.mem_cons_of_mem _, fun _ => List.mem_cons_self⟩

theorem performs_deleteObjects {keys : List ObjectKey} {reply : Except Failure Unit}
    (performs : environment.Performs state (.deleteObjects keys) reply next) :
    next.db = state.db ∧ (reply = .ok () ∨ next.bucket = state.bucket) := by
  obtain ⟨choice, answered⟩ := performs
  rcases remote_cases answered with ⟨_, rfl⟩ | ⟨rfl, rfl⟩
  · exact ⟨rfl, .inr rfl⟩
  · exact ⟨rfl, .inl rfl⟩

theorem imageUrl_of_db (same : next.db = state.db) :
    next.imageUrl userId = state.imageUrl userId := by
  rw [State.imageUrl, State.imageUrl, same]

/-- A key that is written to the row is in the row, and no object is touched. -/
theorem performs_imageUpdate {reply : Except Failure Unit}
    (performs : environment.Performs state
      (.execute [.userUpdate userId { imageUrl := some key }]) reply next) :
    next.bucket = state.bucket ∧ ((reply = .ok () ∧ next.imageUrl userId = some key) ∨
      (reply ≠ .ok () ∧ next.imageUrl userId = state.imageUrl userId)) := by
  obtain ⟨choice, answered⟩ := performs
  rcases commit_cases answered with ⟨⟨_, rfl⟩, rfl⟩ | ⟨db, ran, rfl, rfl⟩
  · exact ⟨rfl, .inr ⟨nofun, rfl⟩⟩
  · refine ⟨rfl, .inl ⟨rfl, ?_⟩⟩
    obtain ⟨user, _, updated⟩ := findUser_userUpdate (runAll_singleton ran)
    exact congrArg (Option.bind · (·.imageUrl)) updated

end Effects

/-! ### One call -/

section Calls

variable {before between after : State} {first trace : List ServiceEvent} {userId : UserId}
  {outcome : Except Failure UsersService.ProfileImageResult}

/-- What is left of a call that has dealt with the old object: it records a key with an object, or
throws and changes no reference and removes no object. -/
def Replaces (userId : UserId) (before : State) (trace : List ServiceEvent)
    (outcome : Except Failure UsersService.ProfileImageResult) (after : State) : Prop :=
  ¬Deletes trace ∧
    ((Records userId trace ∧ ∃ key ∈ after.bucket, after.imageUrl userId = some key) ∨
      (¬Records userId trace ∧ (∃ failure, outcome = .error failure) ∧
        after.imageUrl userId = before.imageUrl userId ∧
        ∀ key ∈ before.bucket, key ∈ after.bucket))

/-- The effects that neither write to a table nor delete an object. -/
def Effect.gentle : Effect → Bool
  | .execute _ | .deleteObjects _ => false
  | _ => true

theorem deletes_append (gentle : ∀ event ∈ first, event.effect.gentle = true) :
    Deletes (first ++ trace) ↔ Deletes trace := by
  refine exists_congr fun keys => ?_
  rw [List.mem_append]
  exact or_iff_right fun member => nomatch gentle _ member

theorem records_append
    (writeless : ∀ event ∈ first, ∀ statements, event.effect ≠ .execute statements) :
    Records userId (first ++ trace) ↔ Records userId trace := by
  refine exists_congr fun key => ?_
  rw [List.mem_append]
  exact or_iff_right fun member => writeless _ member _ rfl

theorem records_cons {event : ServiceEvent}
    (writeless : ∀ statements, event.effect ≠ .execute statements) :
    Records userId (event :: trace) ↔ Records userId trace :=
  records_append (List.forall_mem_singleton.mpr writeless)

theorem writeless_of_gentle (gentle : ∀ event ∈ first, event.effect.gentle = true) :
    ∀ event ∈ first, ∀ statements, event.effect ≠ .execute statements := by
  intro event member statements same
  have inside := gentle event member
  rw [same] at inside
  cases inside

theorem not_deletes_of_gentle (gentle : ∀ event ∈ trace, event.effect.gentle = true) :
    ¬Deletes trace :=
  fun ⟨_, member⟩ => nomatch gentle _ member

theorem not_records_of_gentle (gentle : ∀ event ∈ trace, event.effect.gentle = true) :
    ¬Records userId trace :=
  fun ⟨_, member⟩ => nomatch gentle _ member

/-- Effects that add objects at most do not change what the rest replaces. -/
theorem Replaces.prepend (replaces : Replaces userId between trace outcome after)
    (gentle : ∀ event ∈ first, event.effect.gentle = true)
    (same : between.imageUrl userId = before.imageUrl userId)
    (grown : ∀ key ∈ before.bucket, key ∈ between.bucket) :
    Replaces userId before (first ++ trace) outcome after := by
  rw [Replaces, deletes_append gentle, records_append (writeless_of_gentle gentle)]
  refine ⟨replaces.1, replaces.2.imp_right fun rest => ?_⟩
  obtain ⟨unrecorded, failed, kept, stored⟩ := rest
  exact ⟨unrecorded, failed, kept.trans same, fun key member => stored key (grown key member)⟩

/-- A call that throws here replaces nothing. -/
theorem replaces_of_throw (gentle : ∀ event ∈ trace, event.effect.gentle = true)
    (failed : ∃ failure, outcome = .error failure)
    (same : after.imageUrl userId = before.imageUrl userId)
    (grown : ∀ key ∈ before.bucket, key ∈ after.bucket) :
    Replaces userId before trace outcome after :=
  ⟨not_deletes_of_gentle gentle, .inr ⟨not_records_of_gentle gentle, failed, same, grown⟩⟩

theorem getPresignedUrl_still (key : ObjectKey) :
    (S3Service.getPresignedUrl key).Uses (·.still = true) :=
  uses_rescue (uses_bind (uses_perform rfl) fun _ => uses_bind (uses_perform rfl) fun _ => trivial)
    fun _ => trivial

/-- What is still keeps the tables and the bucket. -/
theorem runs_still {Result : Type} {program : Async Result} {outcome : Except Failure Result}
    (run : Runs environment program before trace outcome after)
    (uses : program.Uses (·.still = true)) :
    after.db = before.db ∧ after.bucket = before.bucket := by
  have keeps : ∀ (now : State) (effect : Effect) reply next, effect.still = true →
      now.db = before.db ∧ now.bucket = before.bucket →
      environment.Performs now effect reply next →
        next.db = before.db ∧ next.bucket = before.bucket := by
    intro now effect reply next still same performs
    obtain ⟨db, bucket⟩ := performs_still performs still
    exact ⟨db.trans same.1, bucket.trans same.2⟩
  exact run.preserves uses keeps ⟨rfl, rfl⟩

/-- The key is recorded, or the call throws and the reference is as it was. -/
theorem runs_recordImage {key : ObjectKey} (stored : key ∈ before.bucket)
    (run : Runs environment (do
      execute [.userUpdate userId { imageUrl := some key }]
      let presigned ← S3Service.getPresignedUrl key
      return (⟨presigned.1, presigned.2⟩ : UsersService.ProfileImageResult)) before trace outcome
      after) : Replaces userId before trace outcome after := by
  obtain ⟨reply, between, rest, rfl, performs, run⟩ := run
  obtain ⟨bucket, ⟨rfl, recorded⟩ | ⟨failed, same⟩⟩ := performs_imageUpdate performs
  · have uses : (do
        let presigned ← S3Service.getPresignedUrl key
        return ⟨presigned.1, presigned.2⟩ : Async UsersService.ProfileImageResult).Uses
        (·.still = true) := uses_bind (getPresignedUrl_still key) fun _ => trivial
    have gentle : ∀ event ∈ rest, event.effect.still = true := run.uses uses
    obtain ⟨db, last⟩ := runs_still run uses
    refine ⟨?_, .inl ⟨⟨key, List.mem_cons_self⟩, key, ?_, (imageUrl_of_db db).trans recorded⟩⟩
    · rintro ⟨keys, member⟩
      rcases List.mem_cons.mp member with same | later
      · cases same
      · exact nomatch gentle _ later
    · rw [last, bucket]
      exact stored
  · cases reply with
    | ok _ => exact absurd rfl failed
    | error failure =>
      obtain ⟨rfl, rfl, rfl⟩ := run
      refine ⟨?_, .inr ⟨?_, ⟨failure, rfl⟩, same, fun other member => ?_⟩⟩
      · rintro ⟨keys, member⟩
        cases List.mem_singleton.mp member
      · rintro ⟨key, member⟩
        cases List.mem_singleton.mp member
      · rw [bucket]
        exact member

/-- The object is stored, and then the rest follows; or the call throws here. -/
theorem runs_uploadToS3_bind {key : ObjectKey} {next : ObjectKey → Async
      UsersService.ProfileImageResult}
    (rest : ∀ between trace, key ∈ between.bucket → Runs environment (next key) between trace
      outcome after → Replaces userId between trace outcome after)
    (run : Runs environment (S3Service.uploadToS3 key >>= next) before trace outcome after) :
    Replaces userId before trace outcome after := by
  obtain ⟨reply, between, later, rfl, performs, run⟩ := run
  obtain ⟨db, grown, stored⟩ := performs_putObject performs
  have gentle : ∀ event ∈ [(⟨.putObject key, reply⟩ : ServiceEvent)],
      event.effect.gentle = true := by simp [Effect.gentle]
  cases reply with
  | error failure =>
    obtain ⟨rfl, rfl, rfl⟩ := run
    exact replaces_of_throw gentle ⟨_, rfl⟩ (imageUrl_of_db db) grown
  | ok _ =>
    exact (rest between later (stored rfl) run).prepend gentle (imageUrl_of_db db) grown

/-- Once the old object has been dealt with. -/
theorem runs_replaceImage {file : Option UploadedFile}
    (run : Runs environment (do
      let key ← S3Service.uploadProfileImage userId file
      execute [.userUpdate userId { imageUrl := some key }]
      let presigned ← S3Service.getPresignedUrl key
      return (⟨presigned.1, presigned.2⟩ : UsersService.ProfileImageResult)) before trace outcome
      after) : Replaces userId before trace outcome after := by
  have refused : ∀ failure, Runs environment (Program.raise failure : Async
      UsersService.ProfileImageResult) before trace outcome after →
        Replaces userId before trace outcome after := by
    rintro failure ⟨rfl, rfl, rfl⟩
    exact replaces_of_throw (by simp) ⟨_, rfl⟩ rfl fun _ member => member
  cases file with
  | none => exact refused _ run
  | some file =>
    simp only [S3Service.uploadProfileImage] at run
    rcases VerificationService.validateFile_ends file with valid | ⟨failure, invalid⟩
    · rw [valid, done_bind] at run
      obtain ⟨reply, between, later, rfl, performs, run⟩ := run
      obtain ⟨db, bucket⟩ := performs_still performs rfl
      have gentle : ∀ event ∈ [(⟨.randomBytes, reply⟩ : ServiceEvent)],
          event.effect.gentle = true := by simp [Effect.gentle]
      have grown : ∀ key ∈ before.bucket, key ∈ between.bucket := fun key member => by
        rw [bucket]
        exact member
      cases reply with
      | error failure =>
        obtain ⟨rfl, rfl, rfl⟩ := run
        exact replaces_of_throw gentle ⟨_, rfl⟩ (imageUrl_of_db db) grown
      | ok randomHex =>
        have rest := runs_uploadToS3_bind (fun _ _ stored => runs_recordImage stored) run
        exact rest.prepend gentle (imageUrl_of_db db) grown
    · rw [invalid] at run
      exact refused failure run

theorem keepsImage_of_replaces {file : Option UploadedFile}
    (replaces : Replaces userId before trace outcome after) :
    KeepsImage userId ⟨file, before, trace, outcome, after⟩ := by
  obtain ⟨_, ⟨recorded, stored⟩ | ⟨unrecorded, ⟨failure, rfl⟩, same, grown⟩⟩ := replaces
  · exact ⟨fun _ => stored, fun _ => recorded, fun unrecorded => absurd recorded unrecorded,
      fun unrecorded => absurd recorded unrecorded⟩
  · exact ⟨fun recorded => absurd recorded unrecorded, nofun, fun _ => same, fun _ _ => grown⟩

/-- The deletion of the old object may have been carried out, whatever follows. -/
theorem keepsImage_of_deletion {file : Option UploadedFile} {found : Except Failure
      (Option UserRecord)} {keys : List ObjectKey} {reply : Except Failure Unit}
    (replaces : Replaces userId between trace outcome after)
    (same : between.imageUrl userId = before.imageUrl userId)
    (deleted : reply = .ok () ∨ between.bucket = before.bucket) :
    KeepsImage userId ⟨file, before, ⟨.userFindUnique (.byId userId), found⟩ ::
      ⟨.deleteObjects keys, reply⟩ :: trace, outcome, after⟩ := by
  have records : Records userId (⟨.userFindUnique (.byId userId), found⟩ ::
      ⟨.deleteObjects keys, reply⟩ :: trace) ↔ Records userId trace :=
    (records_cons (by simp)).trans (records_cons (by simp))
  obtain ⟨_, ⟨recorded, stored⟩ | ⟨unrecorded, ⟨failure, rfl⟩, kept, grown⟩⟩ := replaces
  · exact ⟨fun _ => stored, fun _ => records.mpr recorded,
      fun unrecorded => absurd (records.mpr recorded) unrecorded,
      fun unrecorded => absurd (records.mpr recorded) unrecorded⟩
  · refine ⟨fun recorded => absurd (records.mp recorded) unrecorded, nofun,
      fun _ => kept.trans same, fun _ undeleted key member => grown key ?_⟩
    rcases deleted with rfl | bucket
    · exact absurd ⟨keys, List.mem_cons_of_mem _ List.mem_cons_self⟩ undeleted
    · rw [bucket]
      exact member

/-- What an upload does to the reference and the objects. -/
theorem keepsImage_of_runs {file : Option UploadedFile}
    (run : Runs environment (UsersService.uploadProfileImage userId file) before trace outcome
      after) : KeepsImage userId ⟨file, before, trace, outcome, after⟩ := by
  obtain ⟨reply, between, later, rfl, performs, run⟩ := runs_perform_bind.mp run
  obtain ⟨db, bucket⟩ := performs_still performs rfl
  have same : between.imageUrl userId = before.imageUrl userId := imageUrl_of_db db
  have grown : ∀ key ∈ before.bucket, key ∈ between.bucket := fun key member => by
    rw [bucket]
    exact member
  have gentle : ∀ event ∈ [(⟨.userFindUnique (.byId userId), reply⟩ : ServiceEvent)],
      event.effect.gentle = true := by simp [Effect.gentle]
  have refused : ∀ failure, Runs environment (Program.raise failure : Async
      UsersService.ProfileImageResult) between later outcome after →
        Replaces userId between later outcome after := by
    rintro failure ⟨rfl, rfl, rfl⟩
    exact replaces_of_throw (by simp) ⟨_, rfl⟩ rfl fun _ member => member
  cases reply with
  | error failure => exact keepsImage_of_replaces ((refused failure run).prepend gentle same grown)
  | ok user =>
    cases user with
    | none => exact keepsImage_of_replaces ((refused _ run).prepend gentle same grown)
    | some record =>
      change Runs environment (onlyIf _ _ >>= fun _ => _) between later outcome after at run
      unfold onlyIf at run
      split at run
      · obtain ⟨reply, last, rest, rfl, performs, run⟩ := runs_rescue_perform_bind.mp run
        obtain ⟨dbToo, deleted⟩ := performs_deleteObjects performs
        have replaces := runs_replaceImage (show Runs environment _ last rest outcome after by
          cases reply <;> exact run)
        exact keepsImage_of_deletion replaces ((imageUrl_of_db dbToo).trans same)
          (deleted.imp_right fun kept => kept.trans bucket)
      · exact keepsImage_of_replaces ((runs_replaceImage run).prepend gentle same grown)

/-- Every upload of a sequence keeps to it. -/
theorem keepsImage_of_valid {served : UploadServed}
    (valid : served.Valid (profileImageService userId)) : KeepsImage userId served :=
  keepsImage_of_runs valid.runs

end Calls

/-! ### When the reference dangles -/

/-- A picture is stored under the key `old`, and the row of the user `0` refers to it. -/
def pictured : State :=
  let empty := State.empty 0
  { empty with
    db := { empty.db with
      nextId := 1
      users := [⟨0, "a@x", none, "pw", true, true, true, none, 0, some "old", 0, 0⟩] }
    bucket := ["old"] }

theorem pictured_sound : ¬pictured.Dangles 0 := by
  rintro ⟨key, found, _, _, absent⟩
  have same : pictured.imageUrl 0 = some "old" := rfl
  rw [same] at found
  cases found
  exact absent List.mem_cons_self

/-- A reference can dangle: a call without a file deletes the old object and throws. -/
theorem image_reference_dangles :
    ¬ ∀ (userId : UserId) (initial state : State) (log : List UploadServed),
      SerialRun (profileImageService userId) initial log state → ¬initial.Dangles userId →
        ¬state.Dangles userId := by
  intro kept
  have run : serveAll (profileImageService 0) [] pictured [(none, [{}, {}])] = some (_, _) := rfl
  exact kept 0 pictured _ _ (serveAll_serialRun .start run) pictured_sound
    ⟨"old", rfl, by decide, by decide +kernel, by decide⟩

/-- A reference that does not dangle at first dangles only when a call has deleted an object and
has thrown before a key was recorded, and no later call has recorded one. -/
theorem image_dangles_only_after_deletion {userId : UserId} {initial state : State}
    {log : List UploadServed}
    (serial : SerialRun (profileImageService userId) initial log state)
    (sound : ¬initial.Dangles userId) :
    (state.Dangles userId → ∃ newer served older, log = newer ++ served :: older ∧
      Deletes served.trace ∧ (∃ failure, served.outcome = .error failure) ∧
        ∀ later ∈ served :: newer, ¬Records userId later.trace) ∧
      ∀ served ∈ log, KeepsImage userId served := by
  refine ⟨?_, fun served member => keepsImage_of_valid (serial.valid member)⟩
  induction serial with
  | start => exact fun dangles => absurd dangles sound
  | @serve log served earlier valid inductionHypothesis =>
    intro dangles
    have kept := keepsImage_of_valid valid
    obtain ⟨key, found, given, remote, absent⟩ := dangles
    have unrecorded : ¬Records userId served.trace := by
      intro recorded
      obtain ⟨other, stored, same⟩ := kept.recorded recorded
      rw [same] at found
      cases found
      exact absent stored
    by_cases deleted : Deletes served.trace
    · have failed : ∃ failure, served.outcome = .error failure := by
        cases ended : served.outcome with
        | error failure => exact ⟨failure, rfl⟩
        | ok result => exact absurd (kept.returns ⟨result, ended⟩) unrecorded
      exact ⟨[], served, log, rfl, deleted, failed, List.forall_mem_singleton.mpr unrecorded⟩
    · have dangled : served.before.Dangles userId :=
        ⟨key, (kept.unrecorded unrecorded).symm.trans found, given, remote,
          fun member => absent (kept.undeleted unrecorded deleted key member)⟩
      obtain ⟨newer, first, older, rfl, deletes, failed, untouched⟩ := inductionHypothesis dangled
      obtain ⟨firstUnrecorded, rest⟩ := List.forall_mem_cons.mp untouched
      exact ⟨served :: newer, first, older, rfl, deletes, failed, List.forall_mem_cons.mpr
        ⟨firstUnrecorded, List.forall_mem_cons.mpr ⟨unrecorded, rest⟩⟩⟩

/-- A first picture is stored and recorded, and the next call is without a file and cannot delete
the object. -/
def picturesUploaded : List (Option UploadedFile × List Choice) := [
  (some ⟨some "bytes", "image/png", 1⟩,
    [{}, {}, { text := "r1" }, {}, {}, { text := "url" }, {}]),
  (none, [{}, { fails := some databaseDown }])]

/-- The log of these uploads, newest first, and the state. -/
def uploadedPictures : List UploadServed × State :=
  (serveAll (profileImageService 0) [] pictured picturesUploaded).getD ([], pictured)

theorem image_dangles_only_after_deletion_uploaded :
    uploadedPictures.1.length = 2 ∧
      (uploadedPictures.2.Dangles 0 → ∃ newer served older,
        uploadedPictures.1 = newer ++ served :: older ∧ Deletes served.trace ∧
          (∃ failure, served.outcome = .error failure) ∧
            ∀ later ∈ served :: newer, ¬Records 0 later.trace) ∧
        ∀ served ∈ uploadedPictures.1, KeepsImage 0 served :=
  ⟨by decide +kernel, image_dangles_only_after_deletion (serveAll_serialRun .start
    (show serveAll (profileImageService 0) [] pictured picturesUploaded = some uploadedPictures
      from rfl)) pictured_sound⟩

end GraconAuth
