/-
This file embeds the auth service: login, the rotation of refresh tokens behind the
single-flight map, the upgrade after identity verification, and logout. It also
holds the guard that admits a request with an access token, and the daily cleanup.
-/

import GraconAuth.UsersService

namespace GraconAuth

open Interleaving Program

variable (runtime : Runtime)

namespace AuthService

open UsersService (resolveProfileImageAccess decryptFin safeProfile)

def ACCESS_TOKEN_EXPIRY : String := "15m"
def LIMITED_ACCESS_TOKEN_EXPIRY : String := "2h"
def REFRESH_TOKEN_EXPIRY_MS : Int := 30 * 24 * 60 * 60 * 1000

/-! ### Issuing tokens -/

/-- The first 512 characters of a header, which Node decodes one byte to a character. -/
def truncateUserAgent (userAgent : String) : String :=
  String.ofList (userAgent.toList.take 512)

def generateTokens (userId : UserId) (email : Email) (ipAddress userAgent : String)
    (tokenType : TokenType) : Async AuthTokens := do
  let expiry := if tokenType = .limited then LIMITED_ACCESS_TOKEN_EXPIRY else ACCESS_TOKEN_EXPIRY
  let accessToken ← request (.sign ⟨userId, email, some tokenType⟩ expiry)
  let rawRefreshToken ← request .randomToken
  let now ← request .now
  execute [.refreshTokenCreate {
    userId := userId
    tokenHash := runtime.hash rawRefreshToken
    tokenType := tokenType
    expiresAt := now + REFRESH_TOKEN_EXPIRY_MS
    ipAddress := some ipAddress
    userAgent := some (truncateUserAgent userAgent) }]
  return ⟨accessToken, rawRefreshToken, tokenType⟩

def buildSafeProfile (record : UserRecord) : Async SafeUserProfile := do
  let image ← resolveProfileImageAccess record.user.imageUrl
  let fin ← decryptFin runtime record
  return safeProfile record image.1 fin

/-! ### Login -/

structure LoginDto where
  email : Email
  password : String
  deriving DecidableEq, Repr

def DUMMY_HASH : String := "$2b$12$invalidhashfortimingprotectiononly000000000000000000000"

/-- The gates after the password, with the record read before it was compared. -/
def loginWithRecord (record : UserRecord) (ipAddress userAgent : String) : Async LoginResult := do
  request (.securityEvent .loginSuccess (some record.user.id) (some ipAddress))
  throwIf (!record.user.isVerified) (ForbiddenException
    "Please verify your email address before logging in. Check your inbox for the verification link.")
  throwIf (!record.user.isActive) (ForbiddenException
    "Your account is not active. Please contact support.")
  let tokenType := if record.user.isIdVerified then TokenType.full else .limited
  let tokens ← generateTokens runtime record.user.id record.user.email ipAddress userAgent tokenType
  let profile ← buildSafeProfile runtime record
  return {
    message :=
      if record.user.isIdVerified then "Login successful"
      else "Please complete your identity verification to continue."
    tokenType := tokenType
    accessToken := tokens.accessToken
    refreshToken := tokens.refreshToken
    user := profile }

/-- The password of a record, compared with a dummy hash when there is no record. -/
def passwordValid (password : String) (user : Option UserRecord) : Bool :=
  runtime.bcryptCompare password ((user.map (·.user.passwordHash)).getD DUMMY_HASH)

def login (dto : LoginDto) (ipAddress userAgent : String) : Async LoginResult := do
  let user ← request (.userFindUnique (.byEmail dto.email))
  match user.filter fun record => passwordValid runtime dto.password (some record) with
  | none => do
    request (.securityEvent .loginFailed (user.map (·.user.id)) (some ipAddress))
    throw (UnauthorizedException "Invalid email or password")
  | some record => loginWithRecord runtime record ipAddress userAgent

/-! ### Rotation -/

def revokeAllUserTokens (userId : UserId) : Async Unit :=
  execute [.refreshTokenUpdateMany { userId := some userId }]

/-- A revoked token was presented: end every session of its user. -/
def rejectRevoked (userId : UserId) (ipAddress : String) : Async AuthTokens := do
  revokeAllUserTokens userId
  request (.securityEvent .revokedTokenReuse (some userId) (some ipAddress))
  throw (UnauthorizedException "Refresh token has been revoked...")

/-- The type of the successor: a limited session is upgraded once the user row says that the
identity is verified. -/
def rotatedTokenType (storedToken : RefreshTokenRow) (user : UserRow) : TokenType :=
  let currentTokenType := storedToken.tokenType.getD .full
  if user.isIdVerified && currentTokenType == .limited then .full else currentTokenType

/-- Revoke the presented token and issue its successor. -/
def exchangeToken (storedToken : RefreshTokenRow) (user : UserRow) (ipAddress userAgent : String) :
    Async AuthTokens := do
  execute [.refreshTokenUpdate storedToken.id]
  generateTokens runtime user.id user.email ipAddress userAgent (rotatedTokenType storedToken user)

/-- The checks on a token that is not revoked, then the exchange. -/
def rotateLiveToken (storedToken : RefreshTokenRow) (user : UserRow)
    (ipAddress userAgent : String) (requireFullToken : Bool) : Async AuthTokens := do
  let now ← request .now
  throwIf (now > storedToken.expiresAt) (UnauthorizedException
    "Refresh token has expired. Please log in again.")
  throwIf (!user.isActive) (UnauthorizedException
    "Account is not active. Please contact support.")
  throwIf (requireFullToken && !user.isIdVerified) (ForbiddenException
    "Identity verification is required before this session can be upgraded.")
  exchangeToken runtime storedToken user ipAddress userAgent

def rotateRefreshToken (tokenHash : TokenHash) (ipAddress userAgent : String)
    (requireFullToken : Bool) : Async AuthTokens := do
  let found ← request (.refreshTokenFindUnique tokenHash)
  match found with
  | none => throw (UnauthorizedException "Invalid refresh token")
  | some (storedToken, user) =>
    if storedToken.revoked then rejectRevoked storedToken.userId ipAddress
    else rotateLiveToken runtime storedToken user ipAddress userAgent requireFullToken

/-- Calls of one process that present the same token share one rotation. The first call runs the
task and its `finally` handler takes the entry out of the map, whatever the task came to; the
others await the same promise. -/
def runSingleFlightRefresh (key : FlightKey) (task : Async AuthTokens) : Async AuthTokens := do
  let role ← request (.joinFlight key)
  match role with
  | .follower flight => request (.awaitFlight flight)
  | .leader flight => do
    let outcome ← task.attempt
    request (.settleFlight key flight outcome)
    ofOutcome outcome

def refreshTokens (process : Nat) (refreshToken : RawToken) (ipAddress userAgent : String) :
    Async AuthTokens :=
  runSingleFlightRefresh ⟨process, runtime.hash refreshToken⟩
    (rotateRefreshToken runtime (runtime.hash refreshToken) ipAddress userAgent false)

def upgradeSession (process : Nat) (refreshToken : RawToken) (ipAddress userAgent : String) :
    Async AuthTokens := do
  let tokens ← runSingleFlightRefresh ⟨process, runtime.hash refreshToken⟩
    (rotateRefreshToken runtime (runtime.hash refreshToken) ipAddress userAgent true)
  throwIf (tokens.tokenType != .full) (ForbiddenException
    "Identity verification is required before this session can be upgraded.")
  return tokens

/-- Called once identity verification has passed: revoke the limited sessions, issue a full
one. -/
def upgradeToken (userId : UserId) (ipAddress userAgent : String) : Async AuthTokens := do
  execute [.refreshTokenUpdateMany { userId := some userId, tokenType := some .limited }]
  let user ← request (.userFindUnique (.byId userId))
  match user with
  | none => throw (.error ("User not found: " ++ toString userId))
  | some record =>
    generateTokens runtime record.user.id record.user.email ipAddress userAgent .full

/-! ### Logout -/

def logout (refreshToken : RawToken) : Async MessageResult := do
  execute [.refreshTokenUpdateMany { tokenHash := some (runtime.hash refreshToken) }]
  return ⟨true, "Logged out successfully"⟩

def logoutAllDevices (userId : UserId) : Async MessageResult := do
  revokeAllUserTokens userId
  request (.securityEvent .sessionsRevokedByUser (some userId) none)
  return ⟨true, "Logged out from all devices"⟩

end AuthService

/-! ### The guard -/

/-- What a route requires of the token type. -/
inductive RequiredType where
  | full
  | any
  deriving DecidableEq, Repr

/-- `req.user` as the strategy leaves it. -/
structure AuthenticatedUser where
  userId : UserId
  email : Email
  tokenType : TokenType
  deriving DecidableEq, Repr

namespace JwtStrategy

/-- What `validate` makes of the user row it has read. -/
def validateRow (payload : JwtPayload) : Option UserRow → Except Failure AuthenticatedUser
  | none => .error (UnauthorizedException "Account not found.")
  | some user =>
    if !user.isActive then
      .error (UnauthorizedException
        "Your account has been deactivated. Please contact support.")
    else .ok ⟨user.id, user.email, payload.tokenType.getD .full⟩

def validate (payload : JwtPayload) : Async AuthenticatedUser := do
  let user ← request (.userFindUnique (.byId payload.sub))
  ofOutcome (validateRow payload (user.map (·.user)))

end JwtStrategy

namespace JwtAuthGuard

/-- Metadata of the route, with the default. -/
def requiredType (metadata : Option RequiredType) : RequiredType :=
  metadata.getD .full

def handleRequest (metadata : Option RequiredType) :
    Except Failure AuthenticatedUser → Except Failure AuthenticatedUser
  | .error _ => .error (UnauthorizedException
      "Authentication required. Please log in to continue.")
  | .ok user =>
    if requiredType metadata = .any then .ok user
    else if user.tokenType = .limited then
      .error (ForbiddenException
        "Please complete your identity verification before accessing this feature.")
    else .ok user

/-- Passport has checked the signature; `validate` re-reads the user and `handleRequest` decides. -/
def canActivate (metadata : Option RequiredType) (jwt : Jwt) : Async AuthenticatedUser := do
  let validated ← (JwtStrategy.validate jwt.payload).attempt
  ofOutcome (handleRequest metadata validated)

end JwtAuthGuard

namespace TokenCleanupTask

/-- Errors of the task are logged and swallowed. -/
def cleanupExpiredTokens : Async Unit :=
  rescue (do
    let now ← request .now
    execute [.refreshTokenDeleteMany now])
    fun _ => pure ()

end TokenCleanupTask

end GraconAuth
