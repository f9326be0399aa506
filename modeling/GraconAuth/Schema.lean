/-
This file holds the data model: the tables the service reads and writes, with the
columns its functions use, the tokens it hands out and the failures it raises.

A row id is a number drawn from one counter. A timestamp is in milliseconds. The
tables are the ones that the shared Prisma schema declares; the unique columns are
the ones the code relies on (`findUnique`, `upsert`, and the `P2002` handling).
-/

import Mathlib.Data.Rat.Defs

namespace GraconAuth

/-! ### Scalars -/

abbrev UserId := Nat
abbrev RowId := Nat
abbrev Email := String
abbrev RawToken := String
abbrev TokenHash := String
abbrev ObjectKey := String
abbrev Score := Rat

/-- Milliseconds since the epoch. -/
abbrev Timestamp := Int

inductive IdentityType where
  | NID
  | FIN
  deriving DecidableEq, Repr

inductive TokenType where
  | full
  | limited
  deriving DecidableEq, Repr

inductive ChallengeMode where
  | standard
  | invitation
  deriving DecidableEq, Repr

inductive SecurityEvent where
  | loginSuccess
  | loginFailed
  | verificationPassed
  | verificationFailed
  | passwordResetRequested
  | passwordChanged
  | sessionsRevokedByUser
  | revokedTokenReuse
  | rateLimitExceeded
  deriving DecidableEq, Repr

/-! ### Tables -/

structure UserRow where
  id : UserId
  email : Email
  phoneNumber : Option String
  passwordHash : String
  isVerified : Bool
  isActive : Bool
  isIdVerified : Bool
  idVerifiedAt : Option Timestamp
  verificationAttempts : Nat
  imageUrl : Option ObjectKey
  createdAt : Timestamp
  updatedAt : Timestamp
  deriving DecidableEq, Repr

structure CitizenIdentityRow where
  id : RowId
  userId : UserId
  identityType : IdentityType
  nidEncrypted : Option String
  nidHash : Option String
  finEncrypted : Option String
  finHash : Option String
  surName : String
  postNames : String
  sex : String
  dateOfBirth : Timestamp
  countryOfBirth : String
  deriving DecidableEq, Repr

structure PlatformIdRow where
  id : RowId
  userId : UserId
  pidEncrypted : String
  pidHash : String
  deriving DecidableEq, Repr

/-- The token type is nullable: rotation reads a missing one as `full`. -/
structure RefreshTokenRow where
  id : RowId
  userId : UserId
  tokenHash : TokenHash
  tokenType : Option TokenType
  expiresAt : Timestamp
  revoked : Bool
  ipAddress : Option String
  userAgent : Option String
  deriving DecidableEq, Repr

structure EmailVerificationTokenRow where
  id : RowId
  userId : UserId
  tokenHash : TokenHash
  expiresAt : Timestamp
  used : Bool
  createdAt : Timestamp
  deriving DecidableEq, Repr

structure PasswordResetTokenRow where
  id : RowId
  userId : UserId
  tokenHash : TokenHash
  expiresAt : Timestamp
  used : Bool
  deriving DecidableEq, Repr

structure IdVerificationRow where
  id : RowId
  userId : UserId
  attemptNumber : Nat
  documentMatch : Bool
  faceScore : Score
  livenessScore : Score
  compositeScore : Score
  passed : Bool
  failReason : Option String
  ipAddress : String
  createdAt : Timestamp
  deriving DecidableEq, Repr

structure SecurityEventRow where
  id : RowId
  eventType : SecurityEvent
  userId : Option UserId
  ipAddress : Option String
  createdAt : Timestamp
  deriving DecidableEq, Repr

structure Database where
  nextId : RowId
  users : List UserRow
  citizenIdentities : List CitizenIdentityRow
  platformIds : List PlatformIdRow
  refreshTokens : List RefreshTokenRow
  emailVerificationTokens : List EmailVerificationTokenRow
  passwordResetTokens : List PasswordResetTokenRow
  idVerifications : List IdVerificationRow
  securityEventLog : List SecurityEventRow

/-- A user together with the relations that the queries include. -/
structure UserRecord where
  user : UserRow
  citizenIdentity : Option CitizenIdentityRow
  platformId : Option PlatformIdRow
  deriving DecidableEq, Repr

/-! ### Tokens, mail, images -/

structure JwtPayload where
  sub : UserId
  email : Email
  tokenType : Option TokenType
  deriving DecidableEq, Repr

/-- An access token is what was signed. -/
structure Jwt where
  payload : JwtPayload
  expiresIn : String
  deriving DecidableEq, Repr

structure AuthTokens where
  accessToken : Jwt
  refreshToken : RawToken
  tokenType : TokenType
  deriving DecidableEq, Repr

inductive MailTemplate where
  | emailVerification
  | welcome
  | passwordReset
  deriving DecidableEq, Repr

/-- A mail: the link's user and token for the two link mails, the platform id for the welcome
mail. -/
structure Mail where
  template : MailTemplate
  recipient : Email
  surName : String
  postNames : String
  userId : Option UserId
  token : Option RawToken
  platformId : Option String
  deriving DecidableEq, Repr

/-- An uploaded file as Multer hands it over. -/
structure UploadedFile where
  buffer : Option String
  mimetype : String
  size : Nat
  deriving DecidableEq, Repr

/-- The scores and the verdict of the verification engine. -/
structure EngineVerificationResponse where
  passed : Bool
  faceSimilarity : Score
  livenessConfidence : Score
  documentMatch : Bool
  compositeScore : Score
  failReason : Option String
  deriving DecidableEq, Repr

structure CitizenData where
  surName : String
  postNames : String
  sex : String
  dateOfBirth : Timestamp
  countryOfBirth : String
  deriving DecidableEq, Repr

/-- `dateOfBirth` is what `new Date` makes of the delivered string, if it is a date. -/
structure ForeignIdentityProfile where
  fin : String
  firstName : String
  lastName : String
  gender : String
  dateOfBirth : Option Timestamp
  countryOfOrigin : String
  isActive : Bool
  deriving DecidableEq, Repr

/-! ### Results -/

/-- The user as responses show it. -/
structure SafeUserProfile where
  userId : UserId
  email : Email
  phoneNumber : Option String
  imageUrl : Option String
  surName : String
  postNames : String
  sex : String
  identityType : IdentityType
  fin : Option String
  isIdVerified : Bool
  idVerifiedAt : Option Timestamp
  createdAt : Timestamp
  deriving DecidableEq, Repr

structure MessageResult where
  success : Bool
  message : String
  deriving DecidableEq, Repr

structure ValidityResult where
  valid : Bool
  message : String
  deriving DecidableEq, Repr

structure LoginResult where
  message : String
  tokenType : TokenType
  accessToken : Jwt
  refreshToken : RawToken
  user : SafeUserProfile
  deriving DecidableEq, Repr

/-- The session is present when the email was verified by this call and the identity is still
to be verified. -/
structure VerifyEmailResult where
  message : String
  session : Option (AuthTokens × SafeUserProfile)
  deriving DecidableEq, Repr

structure RegistrationResult where
  message : String
  userId : UserId
  email : Email
  surName : String
  postNames : String
  platformId : String
  identityType : IdentityType
  fin : Option String
  deriving DecidableEq, Repr

/-- The citizen identity as the profile shows it. -/
structure ProfileIdentity where
  surName : String
  postNames : String
  sex : String
  dateOfBirth : Timestamp
  countryOfBirth : String
  deriving DecidableEq, Repr

/-- The profile of the authenticated user: no hash and no ciphertext. -/
structure UserProfile where
  id : UserId
  email : Email
  phoneNumber : Option String
  isVerified : Bool
  isActive : Bool
  isIdVerified : Bool
  idVerifiedAt : Option Timestamp
  createdAt : Timestamp
  updatedAt : Timestamp
  platformId : Option String
  identityType : IdentityType
  fin : Option String
  profileImageUrl : Option String
  profileImageExpiresAt : Option Timestamp
  citizenIdentity : Option ProfileIdentity
  deriving DecidableEq, Repr

structure LockoutState where
  maxAttempts : Nat
  attemptWindowHours : Nat
  attemptLimitEnabled : Bool
  retryAvailableAt : Option Timestamp
  retryAfterSeconds : Option Int
  deriving DecidableEq, Repr

/-- `dateOfBirth` is in its ISO form. -/
structure VerificationIdInfo where
  fullName : String
  dateOfBirth : String
  documentNumber : String
  deriving DecidableEq, Repr

structure VerificationResult where
  passed : Bool
  compositeScore : Score
  faceScore : Score
  livenessScore : Score
  documentMatch : Bool
  message : String
  failReason : Option String
  attemptsUsed : Nat
  attemptsRemaining : Nat
  lockout : LockoutState
  idInfo : Option VerificationIdInfo
  upgradedTokens : Option AuthTokens
  challengeMode : ChallengeMode
  deriving DecidableEq, Repr

structure VerificationStatusResult where
  isIdVerified : Bool
  attemptsUsed : Nat
  attemptsRemaining : Nat
  canAttempt : Bool
  lastAttemptAt : Option Timestamp
  lockout : LockoutState
  deriving DecidableEq, Repr

/-- The body of a successful response. -/
inductive Response where
  | tokens (tokens : AuthTokens)
  | login (result : LoginResult)
  | registration (result : RegistrationResult)
  | emailVerified (result : VerifyEmailResult)
  | message (result : MessageResult)
  | validity (result : ValidityResult)
  | profile (result : UserProfile)
  | verification (result : VerificationResult)
  | verificationStatus (result : VerificationStatusResult)
  | nothing
  deriving DecidableEq, Repr

/-! ### Failures -/

inductive HttpStatus where
  | badRequest
  | unauthorized
  | forbidden
  | notFound
  | conflict
  | unprocessableEntity
  | tooManyRequests
  | internalServerError
  | serviceUnavailable
  | gatewayTimeout
  deriving DecidableEq, Repr

/-- What a statement can fail with: a unique constraint (`P2002`), a row to update that is not
there (`P2025`), or anything else. -/
inductive DatabaseError where
  | uniqueConstraint
  | recordNotFound
  | unavailable
  deriving DecidableEq, Repr

inductive Failure where
  | http (status : HttpStatus) (error message : String)
  | tooManyVerificationAttempts (retryAfterHours : Nat) (retryAvailableAt : Option Timestamp)
      (retryAfterSeconds : Option Int)
  | database (error : DatabaseError)
  | error (message : String)
  deriving DecidableEq, Repr

def BadRequestException (message : String) : Failure := .http .badRequest "Bad Request" message

def UnauthorizedException (message : String) : Failure :=
  .http .unauthorized "Unauthorized" message

def ForbiddenException (message : String) : Failure := .http .forbidden "Forbidden" message

def NotFoundException (message : String) : Failure := .http .notFound "Not Found" message

def ConflictException (message : String) : Failure := .http .conflict "Conflict" message

def InternalServerErrorException (message : String) : Failure :=
  .http .internalServerError "Internal Server Error" message

end GraconAuth
