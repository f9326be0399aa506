/-
This file embeds the password reset service: the request that mails a link, the check
of a link that the page of the reset asks for, and the reset that the link leads to.
-/

import GraconAuth.UsersService

namespace GraconAuth

open Interleaving Program

namespace PasswordResetService

variable (runtime : Runtime)

/-- Reset links are valid for one hour. -/
def TOKEN_EXPIRY_MS : Int := 60 * 60 * 1000

def safeResponse : MessageResult :=
  ⟨true, "If an account with this email exists, a password reset link has been sent."⟩

/-! ### Requesting a reset -/

/-- What is done for an account that exists and is active. -/
def requestResetFor (record : UserRecord) : Async MessageResult := do
  execute [.passwordResetTokenUpdateMany record.user.id]
  let rawToken ← request .randomToken
  let now ← request .now
  rescue (execute [.passwordResetTokenCreate {
      userId := record.user.id
      tokenHash := runtime.hash rawToken
      expiresAt := now + TOKEN_EXPIRY_MS }])
    fun _ => throw (InternalServerErrorException
      "Failed to process reset request. Please try again.")
  AppMailerService.sendPasswordResetEmail record.user.email
    ((record.citizenIdentity.map (·.surName)).getD "")
    ((record.citizenIdentity.map (·.postNames)).getD "") record.user.id rawToken
  request (.securityEvent .passwordResetRequested (some record.user.id) none)
  return safeResponse

/-- The answer does not depend on the account; without one a hash is computed for its time. -/
def requestReset (email : Email) : Async MessageResult := do
  let user ← request (.userFindUnique (.byEmail email))
  match user.filter (·.user.isActive) with
  | none => do
    let _ ← bcryptHash runtime email
    return safeResponse
  | some record => requestResetFor runtime record

/-! ### Resetting -/

structure ResetPasswordDto where
  userId : UserId
  token : RawToken
  newPassword : String
  confirmPassword : String
  deriving DecidableEq, Repr

/-- What a token lookup comes to: the row id, or the reason it is not valid. -/
def findValidToken (userId : UserId) (rawToken : RawToken) : Async (Except String RowId) := do
  let record ← request (.passwordResetTokenFindFirst userId (runtime.hash rawToken))
  match record with
  | none => return .error "Invalid or expired reset link. Please request a new one."
  | some record =>
    if record.used then
      return .error "This reset link has already been used. Please request a new one."
    else do
      let now ← request .now
      if now > record.expiresAt then
        return .error
          "This reset link has expired. Links are valid for 1 hour. Please request a new one."
      else return .ok record.id

def validateResetToken (userId : UserId) (token : RawToken) : Async ValidityResult := do
  let result ← findValidToken runtime userId token
  match result with
  | .error reason => return ⟨false, reason⟩
  | .ok _ => return ⟨true, "Token is valid."⟩

/-- The reset once the token has been found valid. -/
def resetWithToken (dto : ResetPasswordDto) (tokenId : RowId) : Async MessageResult := do
  let passwordHash ← bcryptHash runtime dto.newPassword
  execute [
    .userUpdate dto.userId { passwordHash := some passwordHash },
    .passwordResetTokenUpdate tokenId,
    .refreshTokenUpdateMany { userId := some dto.userId }]
  request (.securityEvent .passwordChanged (some dto.userId) none)
  return ⟨true,
    "Your password has been reset successfully. Please log in with your new password."⟩

def resetPassword (dto : ResetPasswordDto) : Async MessageResult := do
  throwIf (dto.newPassword != dto.confirmPassword) (BadRequestException "Passwords do not match.")
  let tokenLookup ← findValidToken runtime dto.userId dto.token
  match tokenLookup with
  | .error reason => throw (BadRequestException reason)
  | .ok tokenId => resetWithToken runtime dto tokenId

end PasswordResetService

end GraconAuth
