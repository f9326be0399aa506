/-
This file assembles the service: the requests it serves, the handler of each with
the guard of its route, and the moment its response leaves.

A request behind the guard carries an access token. Tokens are unforgeable: such a
request arrives only when the service has signed the token it carries. Whether the
token has expired is not looked at, so that more runs are considered than the
service allows.
-/

import GraconAuth.PasswordReset
import GraconAuth.Serial
import GraconAuth.VerificationService

namespace GraconAuth

open Interleaving Program

/-- A request of a client, or the daily task. The process is the server process that takes the
request: it owns the map of pending refreshes. -/
inductive Request where
  | register (dto : UsersService.RegisterDto)
  | verifyEmail (dto : UsersService.VerifyEmailDto)
  | resendVerificationEmail (dto : UsersService.ResendVerificationDto)
  | login (dto : AuthService.LoginDto) (ipAddress userAgent : String)
  | refreshTokens (process : Nat) (refreshToken : RawToken) (ipAddress userAgent : String)
  | upgradeSession (process : Nat) (refreshToken : RawToken) (ipAddress userAgent : String)
  | requestReset (email : Email)
  | validateResetToken (userId : UserId) (token : RawToken)
  | resetPassword (dto : PasswordResetService.ResetPasswordDto)
  | logout (jwt : Jwt) (refreshToken : RawToken)
  | logoutAllDevices (jwt : Jwt)
  | getProfile (jwt : Jwt)
  | updateProfile (jwt : Jwt) (dto : UsersService.UpdateProfileDto)
  | changePassword (jwt : Jwt) (dto : UsersService.ChangePasswordDto)
  | submitVerification (jwt : Jwt) (dto : VerificationService.SubmitVerificationDto)
      (ipAddress : String)
  | getVerificationStatus (jwt : Jwt)
  | cleanupExpiredTokens
  deriving DecidableEq, Repr

/-- The access token of a guarded request, with the metadata of its route. The verification
routes are marked `RequireTokenType('any')`. -/
def Request.guard : Request → Option (Jwt × Option RequiredType)
  | .logout jwt _ => some (jwt, none)
  | .logoutAllDevices jwt => some (jwt, none)
  | .getProfile jwt => some (jwt, none)
  | .updateProfile jwt _ => some (jwt, none)
  | .changePassword jwt _ => some (jwt, none)
  | .submitVerification jwt _ _ => some (jwt, some .any)
  | .getVerificationStatus jwt => some (jwt, some .any)
  | _ => none

variable (runtime : Runtime)

/-- The handler of a route, for the user its guard let in. Routes without a guard take no
notice of the user. -/
def Request.handle (userId : UserId) : Request → Async Response
  | .register dto => do
    let result ← UsersService.register runtime dto
    return .registration result
  | .verifyEmail dto => do
    let result ← UsersService.verifyEmail runtime dto
    return .emailVerified result
  | .resendVerificationEmail dto => do
    let result ← UsersService.resendVerificationEmail runtime dto
    return .message result
  | .login dto ipAddress userAgent => do
    let result ← AuthService.login runtime dto ipAddress userAgent
    return .login result
  | .refreshTokens process refreshToken ipAddress userAgent => do
    let tokens ← AuthService.refreshTokens runtime process refreshToken ipAddress userAgent
    return .tokens tokens
  | .upgradeSession process refreshToken ipAddress userAgent => do
    let tokens ← AuthService.upgradeSession runtime process refreshToken ipAddress userAgent
    return .tokens tokens
  | .requestReset email => do
    let result ← PasswordResetService.requestReset runtime email
    return .message result
  | .validateResetToken userId token => do
    let result ← PasswordResetService.validateResetToken runtime userId token
    return .validity result
  | .resetPassword dto => do
    let result ← PasswordResetService.resetPassword runtime dto
    return .message result
  | .logout _ refreshToken => do
    let result ← AuthService.logout runtime refreshToken
    return .message result
  | .logoutAllDevices _ => do
    let result ← AuthService.logoutAllDevices userId
    return .message result
  | .getProfile _ => do
    let profile ← UsersService.getProfile runtime userId
    return .profile profile
  | .updateProfile _ dto => do
    let profile ← UsersService.updateProfile runtime userId dto
    return .profile profile
  | .changePassword _ dto => do
    let result ← UsersService.changePassword runtime userId dto
    return .message result
  | .submitVerification _ dto ipAddress => do
    let result ← VerificationService.submitVerification runtime userId dto ipAddress
    return .verification result
  | .getVerificationStatus _ => do
    let result ← VerificationService.getVerificationStatus runtime userId
    return .verificationStatus result
  | .cleanupExpiredTokens => do
    TokenCleanupTask.cleanupExpiredTokens
    return .nothing

/-- The guard of the route, then its handler. -/
def Request.guarded (request : Request) : Async Response :=
  match request.guard with
  | none => request.handle runtime 0
  | some (jwt, metadata) => do
    let user ← JwtAuthGuard.canActivate metadata jwt
    request.handle runtime user.userId

/-- Serve a request and send its outcome back. -/
def serve (request : Request) : Async Response := do
  let outcome ← (request.guarded runtime).attempt
  GraconAuth.request (.respond outcome)
  ofOutcome outcome

/-- A guarded request arrives only with a token that the service has signed. -/
def accepts (state : State) (request : Request) : Bool :=
  match request.guard with
  | none => true
  | some (jwt, _) => state.signed.contains jwt

/-- The service as a whole. -/
def service : Service State Choice Effect.Reply Failure Request Response where
  environment := environment
  serve := serve runtime
  accepts := accepts

/-- The worlds of the service. -/
abbrev ServiceWorld := World State Effect.Reply Failure Request

/-- The pools of the service. -/
abbrev ServicePool := Pool State Effect.Reply Failure Request Response

/-- One performed effect of the service. -/
abbrev ServiceEntry := Entry State Effect.Reply Failure Request

/-- One move of a schedule of the service. -/
abbrev ServiceMove := Move Choice Request

/-- Consecutive steps of one call. -/
def steps (thread : Nat) (choices : List Choice) : List ServiceMove :=
  choices.map (.advance thread)

/-- The referees of the service. -/
abbrev ServiceReferee := Referee State Effect.Reply Failure Request

/-- One served request of the service. -/
abbrev ServiceServed := Served State Effect.Reply Failure Request Response

/-- A runtime whose digests can be read off, for runs that are spelled out. -/
def legibleRuntime : Runtime where
  hash text := "#" ++ text
  bcryptHash _ password := password
  bcryptCompare password hash := password == hash
  encrypt _ plainText := plainText
  decrypt encryptedText := .ok encryptedText
  getFullYear _ := 1990
  attemptWindowHours := 24

/-- A foreigner registers as the user `0` with the verification token `r0`, verifies the email and
logs in with the refresh token `r1`. -/
def signedIn : List ServiceMove :=
  .accept (.register ⟨none, some "F1", "a@x", none, "pw"⟩) ::
    steps 0 [{ foreign := some ⟨"F1", "Ann", "Lee", "F", some 0, "KE", true⟩ }, {}, {}, {}, {},
      {}, {}, { text := "r0" }, {}, {}, {}, {}] ++
  .accept (.verifyEmail ⟨0, "r0"⟩) :: steps 1 [{}, {}, {}, {}, {}] ++
  .accept (.login ⟨"a@x", "pw"⟩ "ip" "agent") ::
    steps 2 [{}, {}, {}, { text := "r1" }, {}, {}, {}]

/-- A citizen registers as the user `0` and verifies the email. -/
def citizenSignedIn : List ServiceMove :=
  .accept (.register ⟨some "N1", none, "b@x", none, "pw"⟩) ::
    steps 0 [{ citizen := ⟨"Ann", "Lee", "F", 0, "RW"⟩ }, {}, {}, {}, {}, {}, {},
      { text := "r0" }, {}, {}, {}, {}] ++
  .accept (.verifyEmail ⟨0, "r0"⟩) ::
    steps 1 [{}, {}, {}, {}, {}, { text := "r1" }, {}, {}, {}]

/-- A submission of that user. -/
def submission : Request :=
  .submitVerification ⟨⟨0, "b@x", some .limited⟩, "2h"⟩
    ⟨"N1", ⟨some "id", "image/png", 1⟩, ⟨some "me", "image/png", 1⟩, .standard⟩ "ip"

/-- The pool that a schedule leads to from an empty service under that runtime. -/
def played (referee : ServiceReferee) (moves : List ServiceMove) : ServicePool :=
  (Pool.start (State.empty 0)).playAll (service legibleRuntime) referee moves

theorem played_reachable {referee : ServiceReferee}
    {regime : Regime State Effect.Reply Failure Request} (upholds : referee.Upholds regime)
    (moves : List ServiceMove) :
    Reachable (service legibleRuntime) regime (State.empty 0) (played referee moves) :=
  Pool.playAll_reachable upholds _ moves

/-- The same three requests, served one after another. -/
def signedInSerially : List (Request × List Choice) := [
  (.register ⟨none, some "F1", "a@x", none, "pw"⟩,
    [{ foreign := some ⟨"F1", "Ann", "Lee", "F", some 0, "KE", true⟩ }, {}, {}, {}, {}, {}, {},
      { text := "r0" }, {}, {}, {}, {}]),
  (.verifyEmail ⟨0, "r0"⟩, [{}, {}, {}, {}, {}]),
  (.login ⟨"a@x", "pw"⟩ "ip" "agent", [{}, {}, {}, { text := "r1" }, {}, {}, {}])]

/-- The citizen registers as the user `0`, and verifies the email with the limited session `r1`. -/
def citizenSerially : List (Request × List Choice) := [
  (.register ⟨some "N1", none, "b@x", none, "pw"⟩,
    [{ citizen := ⟨"Ann", "Lee", "F", 0, "RW"⟩ }, {}, {}, {}, {}, {}, {}, { text := "r0" }, {}, {},
      {}, {}]),
  (.verifyEmail ⟨0, "r0"⟩, [{}, {}, {}, {}, {}, { text := "r1" }, {}, {}, {}])]

/-- What serving a script from an empty service comes to under that runtime: the requests served,
newest first, and the state. A script that cannot be served comes to nothing. -/
def playedSerially (script : List (Request × List Choice)) : List ServiceServed × State :=
  (serveAll (service legibleRuntime) [] (State.empty 0) script).getD ([], State.empty 0)

theorem playedSerially_run (script : List (Request × List Choice)) :
    SerialRun (service legibleRuntime) (State.empty 0) (playedSerially script).1
      (playedSerially script).2 := by
  unfold playedSerially
  cases served : serveAll (service legibleRuntime) [] (State.empty 0) script with
  | none => exact .start
  | some final => exact serveAll_serialRun .start served

end GraconAuth
