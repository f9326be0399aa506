/-
This file embeds the verification service: the submission of an identity
verification, with its gates, uploads, engine call and audit row, and the status
read.

The two uploads run in parallel in the source and the submission goes on when both
have succeeded. Here they run one after the other and both always run; whether
they were stored is up to the environment either way.
-/

import GraconAuth.AuthService
import GraconAuth.CalendarDates

namespace GraconAuth

open Interleaving Program
open CalendarDates (toISOString)

namespace S3Service

def ALLOWED_IMAGE_TYPES : List String := ["image/jpeg", "image/jpg", "image/png", "image/webp"]
def MAX_FILE_SIZE_BYTES : Nat := 5 * 1024 * 1024

/-- The failure of a file that may not be uploaded. -/
def validateFile (file : UploadedFile) : Async Unit := do
  throwIf file.buffer.isNone (BadRequestException "No file provided")
  throwIf (!ALLOWED_IMAGE_TYPES.contains file.mimetype) (BadRequestException
    ("Invalid file type: " ++ file.mimetype ++ ". Allowed types: JPEG, PNG, WebP"))
  throwIf (file.size > MAX_FILE_SIZE_BYTES) (BadRequestException
    "File too large. Maximum size is 5MB")

def mimeToExtension (mimetype : String) : String :=
  if mimetype == "image/png" then "png"
  else if mimetype == "image/webp" then "webp"
  else "jpg"

def uploadToS3 (key : ObjectKey) : Async ObjectKey := do
  rescue (request (.putObject key))
    fun _ => throw (InternalServerErrorException "Failed to upload image. Please try again.")
  return key

/-- Validate, draw a key in the temporary folder, store. -/
def uploadVerificationImage (userId : UserId) (imageType : String) (file : UploadedFile) :
    Async ObjectKey := do
  validateFile file
  let randomHex ← request .randomBytes
  uploadToS3 ("verification-temp/" ++ toString userId ++ "/" ++ imageType ++ "-" ++ randomHex ++
    "." ++ mimeToExtension file.mimetype)

/-- Deletion failures are logged and swallowed. -/
def deleteObjects (keys : List ObjectKey) : Async Unit :=
  rescue (request (.deleteObjects keys)) fun _ => pure ()

end S3Service

namespace VerificationService

open AuthService (upgradeToken)

variable (runtime : Runtime)

/-- Max attempts allowed within the retry window. -/
def MAX_ATTEMPTS : Nat := 3

/-! ### Exceptions -/

def EmailNotVerifiedException : Failure := .http .forbidden "Email Not Verified"
  "Please verify your email address before proceeding with ID verification."

def VerificationAlreadyPassedException : Failure := .http .conflict "Already Verified"
  "Your identity has already been verified. You can proceed to login."

def EngineUnavailableException : Failure :=
  .http .serviceUnavailable "Verification Service Unavailable"
    "The verification service is temporarily unavailable. Please try again in a few minutes."

def ImageUploadFailedException (imageType : String) : Failure :=
  .http .unprocessableEntity "Image Upload Failed"
    ("Failed to process your " ++ imageType ++
      ". Please ensure the image is clear, well-lit, and under 5MB.")

/-! ### The attempt window -/

structure VerificationWindowState where
  attemptsUsed : Nat
  attemptsRemaining : Nat
  retryAvailableAt : Option Timestamp
  retryAfterSeconds : Option Int
  deriving DecidableEq, Repr

def isAttemptWindowEnabled : Bool :=
  runtime.attemptWindowHours > 0

/-- The window in milliseconds. -/
def attemptWindowMs : Int :=
  runtime.attemptWindowHours * 60 * 60 * 1000

/-- `Math.ceil` of a quotient by a thousand. -/
def ceilSeconds (milliseconds : Int) : Int :=
  -(-milliseconds / 1000)

/-- The window state from the attempts found in it, oldest first, and the time at which the
remaining seconds are computed. -/
def windowState (attempts : List Timestamp) (now : Timestamp) : VerificationWindowState :=
  let retryAvailableAt :=
    if attempts.length ≥ MAX_ATTEMPTS then attempts.head?.map (· + attemptWindowMs runtime)
    else none
  { attemptsUsed := attempts.length
    attemptsRemaining := MAX_ATTEMPTS - attempts.length
    retryAvailableAt := retryAvailableAt
    retryAfterSeconds := retryAvailableAt.map fun available =>
      max (ceilSeconds (available - now)) 0 }

def getVerificationWindowState (userId : UserId) : Async VerificationWindowState :=
  if !isAttemptWindowEnabled runtime then return ⟨0, MAX_ATTEMPTS, none, none⟩
  else do
    let start ← request .now
    let attempts ← request (.idVerificationFindMany userId (start - attemptWindowMs runtime))
    let now ← request .now
    return windowState runtime attempts now

def enforceAttemptLimit (userId : UserId) : Async Nat :=
  if !isAttemptWindowEnabled runtime then return 0
  else do
    let state ← getVerificationWindowState runtime userId
    throwIf (state.attemptsUsed ≥ MAX_ATTEMPTS) (.tooManyVerificationAttempts
      runtime.attemptWindowHours state.retryAvailableAt state.retryAfterSeconds)
    return state.attemptsUsed

/-! ### Helpers -/

def getNextAttemptNumber (userId : UserId) : Async Nat := do
  let count ← request (.idVerificationCount userId)
  return count + 1

def callVerificationEngine (payload : EngineRequest) : Async EngineVerificationResponse :=
  rescue (request (.callEngine payload)) fun _ => throw EngineUnavailableException

/-- An audit row that cannot be written does not break the flow. -/
def recordAttempt (data : IdVerificationCreate) : Async Unit :=
  rescue (execute [.idVerificationCreate data]) fun _ => pure ()

def cleanupImages (idCardKey selfieKey : ObjectKey) : Async Unit :=
  S3Service.deleteObjects [idCardKey, selfieKey]

/-- Both uploads run; the submission goes on when both have stored their image. -/
def uploadImages (userId : UserId) (idCardFile selfieFile : UploadedFile) :
    Async (ObjectKey × ObjectKey) := do
  let idCardUpload ← (S3Service.uploadVerificationImage userId "id-card" idCardFile).attempt
  let selfieUpload ← (S3Service.uploadVerificationImage userId "selfie" selfieFile).attempt
  match idCardUpload, selfieUpload with
  | .ok idCardKey, .ok selfieKey => return (idCardKey, selfieKey)
  | _, _ => throw (ImageUploadFailedException "images")

/-- `lockout` of a result. -/
def lockoutOf (state : VerificationWindowState) : LockoutState where
  maxAttempts := MAX_ATTEMPTS
  attemptWindowHours := runtime.attemptWindowHours
  attemptLimitEnabled := isAttemptWindowEnabled runtime
  retryAvailableAt := state.retryAvailableAt
  retryAfterSeconds := state.retryAfterSeconds

/-- The white space and line terminators of JavaScript. -/
def isWhiteSpace (character : Char) : Bool :=
  let code := character.toNat
  (9 ≤ code && code ≤ 13) || (0x2000 ≤ code && code ≤ 0x200A) ||
    [0x20, 0xA0, 0x1680, 0x2028, 0x2029, 0x202F, 0x205F, 0x3000, 0xFEFF].contains code

/-- White space at either end does not count. -/
def trim (text : String) : String :=
  String.ofList ((text.toList.dropWhile isWhiteSpace).reverse.dropWhile isWhiteSpace).reverse

/-! ### Submission -/

structure SubmitVerificationDto where
  documentNumber : String
  idCardFile : UploadedFile
  selfieFile : UploadedFile
  challengeMode : ChallengeMode
  deriving DecidableEq, Repr

/-- The engine gave no answer: clean up, record the failed attempt, and pass the failure on. -/
def engineFailed (userId : UserId) (documentMatch : Bool) (keys : ObjectKey × ObjectKey)
    (ipAddress : String) (failure : Failure) : Async VerificationResult := do
  cleanupImages keys.1 keys.2
  let attemptNumber ← getNextAttemptNumber userId
  recordAttempt {
    userId := userId
    attemptNumber := attemptNumber
    documentMatch := documentMatch
    faceScore := 0
    livenessScore := 0
    compositeScore := 0
    passed := false
    failReason := some "Verification service temporarily unavailable"
    ipAddress := ipAddress }
  throw failure

/-- What the verdict changes in the user row. A first pass makes the user verified and issues a
full session. -/
def applyVerdict (userId : UserId) (wasAlreadyVerified passed : Bool) (ipAddress : String) :
    Async (Option AuthTokens) :=
  if passed && !wasAlreadyVerified then do
    let now ← request .now
    execute [.userUpdate userId {
      isIdVerified := some true
      idVerifiedAt := some now
      incrementVerificationAttempts := true }]
    let tokens ← upgradeToken runtime userId ipAddress "id-verification-upgrade"
    return some tokens
  else do
    execute [.userUpdate userId { incrementVerificationAttempts := true }]
    return none

/-- The message of a result. -/
def resultMessage (passed : Bool) (challengeMode : ChallengeMode) (attemptsRemaining : Nat) :
    String :=
  if passed then
    if challengeMode = .invitation then
      "Identity verification successful. You can return to the invitation."
    else "Identity verification successful. You can now log in."
  else if isAttemptWindowEnabled runtime then
    "Verification failed. " ++ toString attemptsRemaining ++ " attempt(s) remaining."
  else "Verification failed. You can try again."

/-- The engine has answered: record the attempt, clean up, apply the verdict, report. -/
def engineAnswered (userId : UserId) (record : UserRecord) (identity : CitizenIdentityRow)
    (dto : SubmitVerificationDto) (keys : ObjectKey × ObjectKey) (ipAddress : String)
    (answer : EngineVerificationResponse) : Async VerificationResult := do
  let attemptNumber ← getNextAttemptNumber userId
  recordAttempt {
    userId := userId
    attemptNumber := attemptNumber
    documentMatch := answer.documentMatch
    faceScore := answer.faceSimilarity
    livenessScore := answer.livenessConfidence
    compositeScore := answer.compositeScore
    passed := answer.passed
    failReason := answer.failReason
    ipAddress := ipAddress }
  cleanupImages keys.1 keys.2
  let upgradedTokens ←
    applyVerdict runtime userId record.user.isIdVerified answer.passed ipAddress
  request (.securityEvent (if answer.passed then .verificationPassed else .verificationFailed)
    (some userId) (some ipAddress))
  let state ← getVerificationWindowState runtime userId
  return {
    passed := answer.passed
    compositeScore := answer.compositeScore
    faceScore := answer.faceSimilarity
    livenessScore := answer.livenessConfidence
    documentMatch := answer.documentMatch
    message := resultMessage runtime answer.passed dto.challengeMode state.attemptsRemaining
    failReason := answer.failReason
    attemptsUsed := state.attemptsUsed
    attemptsRemaining := state.attemptsRemaining
    lockout := lockoutOf runtime state
    idInfo := some {
      fullName := trim (identity.surName ++ " " ++ identity.postNames)
      dateOfBirth := toISOString identity.dateOfBirth
      documentNumber := dto.documentNumber }
    upgradedTokens := upgradedTokens
    challengeMode := dto.challengeMode }

/-- From the document check to the engine's answer, for a user that has passed the gates. -/
def verifyIdentity (userId : UserId) (record : UserRecord) (dto : SubmitVerificationDto)
    (ipAddress : String) : Async VerificationResult :=
  match record.citizenIdentity with
  | none => throw EmailNotVerifiedException
  | some identity => do
    throwIf (!truthy identity.nidEncrypted) (InternalServerErrorException
      "Stored National ID data is incomplete for verification.")
    let storedNid ← EncryptionService.decrypt runtime (identity.nidEncrypted.getD "")
    let documentMatch := storedNid == trim dto.documentNumber
    let keys ← uploadImages userId dto.idCardFile dto.selfieFile
    let answer ← (callVerificationEngine ⟨keys.1, keys.2, userId, documentMatch⟩).attempt
    match answer with
    | .error failure => engineFailed userId documentMatch keys ipAddress failure
    | .ok answer => engineAnswered runtime userId record identity dto keys ipAddress answer

def submitVerification (userId : UserId) (dto : SubmitVerificationDto) (ipAddress : String) :
    Async VerificationResult := do
  let user ← request (.userFindUnique (.byId userId))
  match user with
  | none => throw EmailNotVerifiedException
  | some record => do
    throwIf (!record.user.isVerified || !record.user.isActive) EmailNotVerifiedException
    throwIf (record.citizenIdentity.any fun identity => identity.identityType == .FIN)
      (BadRequestException "Biometric verification is not required for foreign identity users.")
    throwIf (record.user.isIdVerified && dto.challengeMode != .invitation)
      VerificationAlreadyPassedException
    let _ ← enforceAttemptLimit runtime userId
    verifyIdentity runtime userId record dto ipAddress

/-! ### Status -/

def getVerificationStatus (userId : UserId) : Async VerificationStatusResult := do
  let user ← request (.userFindUnique (.byId userId))
  let lastAttemptAt ← request (.idVerificationFindLatest userId)
  let state ← getVerificationWindowState runtime userId
  let isIdVerified := (user.map (·.user.isIdVerified)).getD false
  return {
    isIdVerified := isIdVerified
    attemptsUsed := state.attemptsUsed
    attemptsRemaining := state.attemptsRemaining
    canAttempt := !isIdVerified && state.attemptsRemaining > 0
    lastAttemptAt := if user.isSome then lastAttemptAt else none
    lockout := lockoutOf runtime state }

end VerificationService

end GraconAuth
