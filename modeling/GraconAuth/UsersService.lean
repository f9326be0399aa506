/-
This file embeds the users service: registration, email verification, resending the
verification mail, the profile and its update, and the change of password. Each
function is the program that the source's `async` function runs, with the
statements, the checks and the messages in the source's order.

What the process takes from outside itself is a `Runtime`: the digests and ciphers,
the local calendar and the configured attempt window.
-/

import GraconAuth.Effects

namespace GraconAuth

open Interleaving Program

/-- A function of the service. -/
abbrev Async (Result : Type) := Program Effect Effect.Reply Failure Result

/-- Await one effect. -/
abbrev request (effect : Effect) : Async effect.Reply := perform effect

/-- Await one writing statement, or a transaction. -/
abbrev execute (statements : List Statement) : Async Unit :=
  request (.execute statements)

/-- The primitives the code calls and the one setting it reads. `hash` is the hex digest of
SHA-256; `encrypt` takes the initialisation vector that `encrypt` of the source draws. -/
structure Runtime where
  hash : String → TokenHash
  bcryptHash : String → String → String
  bcryptCompare : String → String → Bool
  encrypt : String → String → String
  decrypt : String → Except Failure String
  getFullYear : Timestamp → Int
  attemptWindowHours : Nat

/-- JavaScript's reading of an optional string as a condition. -/
def truthy (value : Option String) : Bool :=
  value.any (· != "")

variable (runtime : Runtime)

/-! ### Shared services -/

namespace EncryptionService

/-- A fresh initialisation vector, then the ciphertext. -/
def encrypt (plainText : String) : Async String := do
  let iv ← request .randomBytes
  return runtime.encrypt iv plainText

def decrypt (encryptedText : String) : Async String :=
  ofOutcome (runtime.decrypt encryptedText)

/-- Both sides are digests of one length, so the buffers are equal when the digests are. -/
def compareHash (plainValue : String) (hash : TokenHash) : Bool :=
  runtime.hash plainValue == hash

end EncryptionService

namespace PidService

/-- Birth year, six random digits, and the fixed last digit. -/
def generate (dateOfBirth : Timestamp) : Async String := do
  let randomPart ← request (.randomDigits 6)
  return toString (runtime.getFullYear dateOfBirth) ++ randomPart ++ "1"

end PidService

namespace AppMailerService

/-- A mail that cannot be sent is logged and forgotten. -/
def send (mail : Mail) : Async Unit :=
  rescue (request (.sendMail mail)) fun _ => pure ()

def sendVerificationEmail (recipient : Email) (surName postNames : String) (userId : UserId)
    (token : RawToken) : Async Unit :=
  send ⟨.emailVerification, recipient, surName, postNames, some userId, some token, none⟩

def sendWelcomeEmail (recipient : Email) (surName postNames platformId : String) : Async Unit :=
  send ⟨.welcome, recipient, surName, postNames, none, none, some platformId⟩

def sendPasswordResetEmail (recipient : Email) (surName postNames : String) (userId : UserId)
    (token : RawToken) : Async Unit :=
  send ⟨.passwordReset, recipient, surName, postNames, some userId, some token, none⟩

end AppMailerService

namespace S3Service

def PRESIGNED_URL_EXPIRY_SECONDS : Int := 3600

def getPresignedUrl (key : ObjectKey) : Async (String × Timestamp) :=
  rescue (do
    let url ← request (.getSignedUrl key)
    let now ← request .now
    return (url, now + PRESIGNED_URL_EXPIRY_SECONDS * 1000))
    fun _ => throw (InternalServerErrorException "Failed to generate image access URL")

end S3Service

/-- `bcrypt.hash`: a random salt, then the hash. -/
def bcryptHash (password : String) : Async String := do
  let salt ← request .bcryptSalt
  return runtime.bcryptHash salt password


namespace UsersService

/-- Verification token expiry: 24 hours. -/
def TOKEN_EXPIRY_MS : Int := 24 * 60 * 60 * 1000
def LIMITED_ACCESS_TOKEN_EXPIRY : String := "2h"
def REFRESH_TOKEN_EXPIRY_MS : Int := 30 * 24 * 60 * 60 * 1000
def MAX_RESEND_PER_HOUR : Nat := 3

/-! ### Registration -/

structure RegisterDto where
  documentNumber : Option String
  fin : Option String
  email : Email
  phoneNumber : Option String
  password : String
  deriving DecidableEq, Repr

structure RegistrationIdentityRecord where
  identityType : IdentityType
  identityNumber : String
  surName : String
  postNames : String
  sex : String
  dateOfBirth : Timestamp
  countryOfBirth : String
  deriving DecidableEq, Repr

def assertExclusiveIdentityInput (dto : RegisterDto) : Async Unit := do
  throwIf (truthy dto.documentNumber && truthy dto.fin) (BadRequestException
    "Provide either documentNumber or fin, not both in the same request.")
  throwIf (!truthy dto.documentNumber && !truthy dto.fin) (BadRequestException
    "Either documentNumber or fin must be provided for registration.")

def resolveCitizenRegistrationIdentity (documentNumber : String) :
    Async RegistrationIdentityRecord := do
  let citizenData ← request (.lookupCitizen documentNumber)
  return {
    identityType := .NID
    identityNumber := documentNumber
    surName := citizenData.surName
    postNames := citizenData.postNames
    sex := citizenData.sex
    dateOfBirth := citizenData.dateOfBirth
    countryOfBirth := citizenData.countryOfBirth }

def resolveForeignRegistrationIdentity (fin : String) : Async RegistrationIdentityRecord := do
  let foreignIdentity ← request (.lookupForeignIdentity fin)
  match foreignIdentity.filter (·.isActive) with
  | none => throw (NotFoundException
      "The provided Foreign Identity Number is not registered or has been deactivated. Contact a platform administrator.")
  | some identity =>
    match identity.dateOfBirth with
    | none => throw (InternalServerErrorException
        "Foreign identity lookup returned an invalid date of birth.")
    | some dateOfBirth =>
      return {
        identityType := .FIN
        identityNumber := identity.fin
        surName := identity.lastName
        postNames := identity.firstName
        sex := identity.gender
        dateOfBirth := dateOfBirth
        countryOfBirth := identity.countryOfOrigin }

def resolveRegistrationIdentity (dto : RegisterDto) : Async RegistrationIdentityRecord :=
  if truthy dto.fin then resolveForeignRegistrationIdentity (dto.fin.getD "")
  else resolveCitizenRegistrationIdentity (dto.documentNumber.getD "")

/-- What a failed registration transaction is reported as. -/
def registrationFailure : Failure → Failure
  | .database .uniqueConstraint =>
    ConflictException "An account with this email or identity number already exists"
  | _ => InternalServerErrorException "Registration failed. Please try again."

def register (dto : RegisterDto) : Async RegistrationResult := do
  assertExclusiveIdentityInput dto
  let identity ← resolveRegistrationIdentity dto
  let existingEmail ← request (.userFindUnique (.byEmail dto.email))
  throwIf existingEmail.isSome (ConflictException
    "An account with this email address already exists")
  let identityHash := runtime.hash identity.identityNumber
  let existingIdentity ← request (.citizenIdentityFindFirst identity.identityType identityHash)
  throwIf existingIdentity.isSome (ConflictException
    (if identity.identityType = .NID then
      "An account with this National ID is already registered"
    else "An account with this Foreign Identity Number is already registered"))
  let passwordHash ← bcryptHash runtime dto.password
  let identityEncrypted ← EncryptionService.encrypt runtime identity.identityNumber
  let rawPid ← PidService.generate runtime identity.dateOfBirth
  let pidEncrypted ← EncryptionService.encrypt runtime rawPid
  let pidHash := runtime.hash rawPid
  let rawToken ← request .randomToken
  let tokenHash := runtime.hash rawToken
  let now ← request .now
  let isFinIdentity := identity.identityType = .FIN
  let userId ← rescue (request (.registerTransaction {
      email := dto.email
      phoneNumber := dto.phoneNumber
      passwordHash := passwordHash
      isIdVerified := isFinIdentity
      idVerifiedAt := if isFinIdentity then some now else none
      identityType := identity.identityType
      nidEncrypted := if isFinIdentity then none else some identityEncrypted
      nidHash := if isFinIdentity then none else some identityHash
      finEncrypted := if isFinIdentity then some identityEncrypted else none
      finHash := if isFinIdentity then some identityHash else none
      surName := identity.surName
      postNames := identity.postNames
      sex := identity.sex
      dateOfBirth := identity.dateOfBirth
      countryOfBirth := identity.countryOfBirth
      pidEncrypted := pidEncrypted
      pidHash := pidHash
      tokenHash := tokenHash
      tokenExpiry := now + TOKEN_EXPIRY_MS }))
    fun failure => throw (registrationFailure failure)
  AppMailerService.sendVerificationEmail dto.email identity.surName identity.postNames userId
    rawToken
  return {
    message := "Registration successful. Please check your email to verify your account."
    userId := userId
    email := dto.email
    surName := identity.surName
    postNames := identity.postNames
    platformId := rawPid
    identityType := identity.identityType
    fin := if isFinIdentity then some identity.identityNumber else none }

/-! ### Email verification -/

structure VerifyEmailDto where
  userId : UserId
  token : RawToken
  deriving DecidableEq, Repr

/-- The limited session that follows the verification of an email. -/
def generatePostEmailVerificationTokens (userId : UserId) (email : Email) : Async AuthTokens := do
  let accessToken ← request (.sign ⟨userId, email, some .limited⟩ LIMITED_ACCESS_TOKEN_EXPIRY)
  let rawRefreshToken ← request .randomToken
  let now ← request .now
  execute [.refreshTokenCreate {
    userId := userId
    tokenHash := runtime.hash rawRefreshToken
    tokenType := .limited
    expiresAt := now + REFRESH_TOKEN_EXPIRY_MS
    ipAddress := none
    userAgent := none }]
  return ⟨accessToken, rawRefreshToken, .limited⟩

/-- The FIN of a record, decrypted, when its identity is one. -/
def decryptFin (record : UserRecord) : Async (Option String) :=
  match record.citizenIdentity with
  | some identity =>
    if identity.identityType = .FIN && truthy identity.finEncrypted then do
      let fin ← EncryptionService.decrypt runtime (identity.finEncrypted.getD "")
      return some fin
    else return none
  | none => return none

/-- The platform id of a record, decrypted. -/
def decryptPid (record : UserRecord) : Async (Option String) :=
  match record.platformId with
  | some platformId => do
    let pid ← EncryptionService.decrypt runtime platformId.pidEncrypted
    return some pid
  | none => return none

/-- The part of a record that every safe profile shows. -/
def safeProfile (record : UserRecord) (imageUrl fin : Option String) : SafeUserProfile where
  userId := record.user.id
  email := record.user.email
  phoneNumber := record.user.phoneNumber
  imageUrl := imageUrl
  surName := (record.citizenIdentity.map (·.surName)).getD ""
  postNames := (record.citizenIdentity.map (·.postNames)).getD ""
  sex := (record.citizenIdentity.map (·.sex)).getD ""
  identityType := (record.citizenIdentity.map (·.identityType)).getD .NID
  fin := fin
  isIdVerified := record.user.isIdVerified
  idVerifiedAt := record.user.idVerifiedAt
  createdAt := record.user.createdAt

def buildVerificationSessionProfile (record : UserRecord) : Async SafeUserProfile := do
  let fin ← decryptFin runtime record
  return safeProfile record record.user.imageUrl fin

/-- What follows once the verification transaction has committed, with the record read before
it. -/
def verifyEmailCommitted (record : UserRecord) : Async VerifyEmailResult := do
  let rawPid ← decryptPid runtime record
  AppMailerService.sendWelcomeEmail record.user.email
    ((record.citizenIdentity.map (·.surName)).getD "")
    ((record.citizenIdentity.map (·.postNames)).getD "") (rawPid.getD "")
  if record.user.isIdVerified then
    return ⟨"Email verified successfully. Your account is ready. Please log in.", none⟩
  else do
    let tokens ← generatePostEmailVerificationTokens runtime record.user.id record.user.email
    let profile ← buildVerificationSessionProfile runtime record
    return ⟨"Email verified successfully. Continue with identity verification.",
      some (tokens, profile)⟩

/-- The checks on a token record of an account that is not verified yet, then the transaction
that activates the account and marks the token used. -/
def verifyEmailRecord (dto : VerifyEmailDto) (tokenRecord : EmailVerificationTokenRow)
    (record : UserRecord) : Async VerifyEmailResult := do
  throwIf tokenRecord.used (BadRequestException
    "This verification link has already been used. Please request a new one.")
  let now ← request .now
  throwIf (now > tokenRecord.expiresAt) (BadRequestException
    "This verification link has expired. Please request a new one.")
  throwIf (!EncryptionService.compareHash runtime dto.token tokenRecord.tokenHash)
    (BadRequestException "Invalid verification link")
  execute [
    .userUpdate dto.userId { isVerified := some true, isActive := some true },
    .emailVerificationTokenUpdate tokenRecord.id]
  verifyEmailCommitted runtime record

def verifyEmail (dto : VerifyEmailDto) : Async VerifyEmailResult := do
  let found ← request (.emailVerificationTokenFindUnique dto.userId)
  match found with
  | none => throw (BadRequestException "Invalid or expired verification link")
  | some (tokenRecord, record) =>
    if record.user.isVerified then
      return ⟨"Email already verified. You can log in.", none⟩
    else verifyEmailRecord runtime dto tokenRecord record

/-! ### Resending the verification mail -/

structure ResendVerificationDto where
  email : Option Email
  userId : Option UserId
  deriving DecidableEq, Repr

def resendSafeResponse : MessageResult :=
  ⟨true, "If this email is registered and unverified, a new verification email has been sent."⟩

/-- The lookup prefers the user id. -/
def ResendVerificationDto.lookup (dto : ResendVerificationDto) : Option UserWhere :=
  match dto.userId with
  | some userId => some (.byId userId)
  | none => if truthy dto.email then dto.email.map .byEmail else none

/-- Replace the verification token of an account and mail the new one to the given address. -/
def replaceVerificationToken (userId : UserId) (recipient : Email)
    (identity : Option CitizenIdentityRow) : Async Unit := do
  let rawToken ← request .randomToken
  let now ← request .now
  execute [.emailVerificationTokenUpsert userId (runtime.hash rawToken) (now + TOKEN_EXPIRY_MS)
    now]
  AppMailerService.sendVerificationEmail recipient ((identity.map (·.surName)).getD "")
    ((identity.map (·.postNames)).getD "") userId rawToken

def resendVerificationEmail (dto : ResendVerificationDto) : Async MessageResult := do
  match dto.lookup with
  | none => return resendSafeResponse
  | some userLookup => do
    let user ← request (.userFindUnique userLookup)
    match user with
    | none => return resendSafeResponse
    | some record =>
      if record.user.isVerified then return resendSafeResponse
      else do
        let now ← request .now
        let recentTokenCount ←
          request (.emailVerificationTokenCount record.user.id (now - 60 * 60 * 1000))
        if recentTokenCount ≥ MAX_RESEND_PER_HOUR then return resendSafeResponse
        else do
          replaceVerificationToken runtime record.user.id record.user.email record.citizenIdentity
          return resendSafeResponse

/-! ### Profile -/

/-- `/^https?:\/\//i` -/
def isHttpUrl (url : String) : Bool :=
  let lower := url.toLower
  lower.startsWith "http://" || lower.startsWith "https://"

def resolveProfileImageAccess (imageUrl : Option String) :
    Async (Option String × Option Timestamp) :=
  if !truthy imageUrl then return (none, none)
  else if isHttpUrl (imageUrl.getD "") then return (imageUrl, none)
  else do
    let presigned ← S3Service.getPresignedUrl (imageUrl.getD "")
    return (some presigned.1, some presigned.2)

def getProfile (userId : UserId) : Async UserProfile := do
  let user ← request (.userFindUnique (.byId userId))
  match user with
  | none => throw (NotFoundException "User not found")
  | some record => do
    let platformId ← decryptPid runtime record
    let fin ← decryptFin runtime record
    let image ← resolveProfileImageAccess record.user.imageUrl
    return {
      id := record.user.id
      email := record.user.email
      phoneNumber := record.user.phoneNumber
      isVerified := record.user.isVerified
      isActive := record.user.isActive
      isIdVerified := record.user.isIdVerified
      idVerifiedAt := record.user.idVerifiedAt
      createdAt := record.user.createdAt
      updatedAt := record.user.updatedAt
      platformId := platformId
      identityType := (record.citizenIdentity.map (·.identityType)).getD .NID
      fin := fin
      profileImageUrl := image.1
      profileImageExpiresAt := image.2
      citizenIdentity := record.citizenIdentity.map fun identity => {
        surName := identity.surName
        postNames := identity.postNames
        sex := identity.sex
        dateOfBirth := identity.dateOfBirth
        countryOfBirth := identity.countryOfBirth } }

structure UpdateProfileDto where
  email : Option Email
  phoneNumber : Option String
  deriving DecidableEq, Repr

/-- The address the update changes to, if it changes it. -/
def UpdateProfileDto.changedEmail (dto : UpdateProfileDto) (current : Email) : Option Email :=
  dto.email.filter fun email => email != "" && email != current

/-- The new address must not belong to another account. -/
def rejectTakenEmail (userId : UserId) (email : Email) : Async Unit := do
  let taken ← request (.userFindUnique (.byEmail email))
  throwIf (taken.any fun record => record.user.id != userId) (ConflictException
    "An account with this email address already exists")

/-- The columns an update writes. A changed address locks the account. -/
def UpdateProfileDto.updateData (dto : UpdateProfileDto) (changedEmail : Option Email) :
    UserUpdate where
  phoneNumber := dto.phoneNumber
  email := changedEmail
  isVerified := if changedEmail.isSome then some false else none
  isActive := if changedEmail.isSome then some false else none

def updateProfile (userId : UserId) (dto : UpdateProfileDto) : Async UserProfile := do
  let user ← request (.userFindUnique (.byId userId))
  match user with
  | none => throw (NotFoundException "User not found")
  | some record =>
    match dto.changedEmail record.user.email with
    | none => do
      execute [.userUpdate userId (dto.updateData none)]
      getProfile runtime userId
    | some email => do
      rejectTakenEmail userId email
      execute [.userUpdate userId (dto.updateData (some email))]
      replaceVerificationToken runtime userId email record.citizenIdentity
      getProfile runtime userId

/-! ### Change of password -/

structure ChangePasswordDto where
  currentPassword : String
  newPassword : String
  confirmNewPassword : String
  deriving DecidableEq, Repr

def changePassword (userId : UserId) (dto : ChangePasswordDto) : Async MessageResult := do
  throwIf (dto.newPassword != dto.confirmNewPassword) (BadRequestException
    "New password and confirmation do not match")
  let user ← request (.userFindUnique (.byId userId))
  match user with
  | none => throw (NotFoundException "User not found")
  | some record => do
    throwIf (!runtime.bcryptCompare dto.currentPassword record.user.passwordHash)
      (UnauthorizedException "Current password is incorrect")
    throwIf (runtime.bcryptCompare dto.newPassword record.user.passwordHash)
      (BadRequestException "New password must be different from the current password")
    request (.securityEvent .passwordChanged (some userId) none)
    let newPasswordHash ← bcryptHash runtime dto.newPassword
    execute [
      .userUpdate userId { passwordHash := some newPasswordHash },
      .refreshTokenUpdateMany { userId := some userId }]
    return ⟨true,
      "Password changed successfully. You have been signed out of all other devices."⟩

end UsersService

end GraconAuth
