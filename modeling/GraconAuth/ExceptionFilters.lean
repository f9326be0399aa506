/-
This file embeds the global exception filters: what a client is sent when a request has
failed. Every filter builds a body of its own, so of what an exception carries nothing
but a message is ever delivered. The exception of a locked-out user carries the time at
which the user can try again, which the contract of the submission promises to the
client and the status reports. The filter drops it.
-/

import GraconAuth.StatusGate

namespace GraconAuth

open Interleaving Program VerificationService

/-! ### Exceptions -/

/-- The values in a body. An instant is sent in its ISO form. -/
inductive Json where
  | null
  | number (value : Int)
  | string (text : String)
  | instant (time : Timestamp)
  | array (items : List Json)

/-- The fields of a body. -/
abbrev Fields := List (String × Json)

/-- `value ?? null`. -/
def orNull {Value : Type} (value : Option Value) (json : Value → Json) : Json :=
  (value.map json).getD .null

/-- What an `HttpException` is constructed with. -/
inductive ExceptionResponse where
  | text (message : String)
  | object (fields : Fields)

def ExceptionResponse.fields : ExceptionResponse → Fields
  | .text _ => []
  | .object fields => fields

/-- The error classes of the Prisma client. -/
inductive PrismaError where
  | known (code : String)
  | unknown
  | rustPanic
  | initialization
  | validation

/-- What a handler or a guard throws, as far as the filters tell it apart. A `ThrottlerException`
is an `HttpException`. -/
inductive Exception where
  | http (status : Nat) (response : ExceptionResponse)
  | throttler (message : String)
  | prisma (error : PrismaError)
  | other (message : String)

def HttpStatus.code : HttpStatus → Nat
  | .badRequest => 400
  | .unauthorized => 401
  | .forbidden => 403
  | .notFound => 404
  | .conflict => 409
  | .unprocessableEntity => 422
  | .tooManyRequests => 429
  | .internalServerError => 500
  | .serviceUnavailable => 503
  | .gatewayTimeout => 504

/-- What `TooManyVerificationAttemptsException` is constructed with. -/
def TooManyVerificationAttemptsException (retryAfterHours : Nat)
    (retryAvailableAt : Option Timestamp) (retryAfterSeconds : Option Int) : Exception :=
  .http HttpStatus.tooManyRequests.code (.object [
    ("statusCode", .number HttpStatus.tooManyRequests.code),
    ("error", .string "Too Many Attempts"),
    ("message", .string ("Maximum verification attempts reached. Please try again in " ++
      toString retryAfterHours ++ " hour(s) or contact support.")),
    ("retryAfterHours", .number retryAfterHours),
    ("retryAvailableAt", orNull retryAvailableAt .instant),
    ("retryAfterSeconds", orNull retryAfterSeconds .number)])

/-- The exceptions that a failure stands for. What the database could not do is any error of the
client. -/
inductive Failure.Raises : Failure → Exception → Prop
  | http (status : HttpStatus) (error message : String) :
    Raises (.http status error message) (.http status.code (.object [
      ("statusCode", .number status.code), ("error", .string error), ("message", .string message)]))
  | tooManyVerificationAttempts (retryAfterHours : Nat) (retryAvailableAt : Option Timestamp)
      (retryAfterSeconds : Option Int) :
    Raises (.tooManyVerificationAttempts retryAfterHours retryAvailableAt retryAfterSeconds)
      (TooManyVerificationAttemptsException retryAfterHours retryAvailableAt retryAfterSeconds)
  | uniqueConstraint : Raises (.database .uniqueConstraint) (.prisma (.known "P2002"))
  | recordNotFound : Raises (.database .recordNotFound) (.prisma (.known "P2025"))
  | unavailable (error : PrismaError) : Raises (.database .unavailable) (.prisma error)
  | error (message : String) : Raises (.error message) (.other message)

/-! ### The filters -/

/-- What the client is sent. -/
structure ErrorResponse where
  status : Nat
  headers : List (String × String) := []
  body : Fields

/-- The body that all filters send. -/
def envelope (statusCode : Nat) (error message : String) : Fields := [
  ("statusCode", .number statusCode), ("error", .string error), ("message", .string message)]

/-- `@Catch()`: the filter for whatever is thrown. -/
def AllExceptionsFilter.catch : ErrorResponse where
  status := HttpStatus.internalServerError.code
  body := envelope HttpStatus.internalServerError.code "Internal Server Error"
    "An unexpected error occurred. Please try again later."

namespace PrismaExceptionFilter

def KNOWN_CODE_MAP : List (String × Nat × String) := [
  ("P2002", HttpStatus.conflict.code, "A record with the provided value already exists."),
  ("P2003", HttpStatus.conflict.code,
    "The related record referenced by this request was not found."),
  ("P2014", HttpStatus.conflict.code,
    "This operation would violate a data integrity constraint. " ++
      "Ensure all related records exist before retrying."),
  ("P2011", HttpStatus.internalServerError.code,
    "An unexpected data error occurred. Please try again later."),
  ("P2025", HttpStatus.notFound.code, "The requested record was not found.")]

/-- The status and the message for an error of the client. -/
def resolve : PrismaError → Nat × String
  | .known code => (KNOWN_CODE_MAP.lookup code).getD
    (HttpStatus.internalServerError.code, "A database error occurred. Please try again later.")
  | .initialization => (HttpStatus.serviceUnavailable.code,
    "The service is temporarily unavailable. Please try again shortly.")
  | .validation | .unknown | .rustPanic => (HttpStatus.internalServerError.code,
    "An unexpected error occurred. Please try again later.")

def statusLabel (status : Nat) : String :=
  let labels := [(400, "Bad Request"), (404, "Not Found"), (409, "Conflict"),
    (500, "Internal Server Error"), (503, "Service Unavailable")]
  (labels.lookup status).getD "Error"

end PrismaExceptionFilter

open PrismaExceptionFilter in
def PrismaExceptionFilter.catch (error : PrismaError) : ErrorResponse where
  status := (resolve error).1
  body := envelope (resolve error).1 (statusLabel (resolve error).1) (resolve error).2

namespace HttpExceptionFilter

def HTTP_REASON_PHRASES : List (Nat × String) := [
  (400, "Bad Request"),
  (401, "Unauthorized"),
  (403, "Forbidden"),
  (404, "Not Found"),
  (408, "Request Timeout"),
  (409, "Conflict"),
  (410, "Gone"),
  (422, "Unprocessable Entity"),
  (429, "Too Many Requests"),
  (500, "Internal Server Error"),
  (502, "Bad Gateway"),
  (503, "Service Unavailable")]

/-- The message that the client may see. The validation of a request throws an array of messages,
of which a single one is passed on. -/
def safeMessage (status : Nat) : ExceptionResponse → String
  | .text message => message
  | .object body =>
    match body.lookup "message" with
    | some (.array [.string message]) =>
      if message.length > 0 then message
      else "Validation failed. Check your request and try again."
    | some (.array _) => "Validation failed. Check your request and try again."
    | some (.string message) =>
      if message.length > 0 then message
      else (HTTP_REASON_PHRASES.lookup status).getD "An error occurred."
    | _ => (HTTP_REASON_PHRASES.lookup status).getD "An error occurred."

end HttpExceptionFilter

open HttpExceptionFilter in
def HttpExceptionFilter.catch (status : Nat) (exceptionResponse : ExceptionResponse) :
    ErrorResponse where
  status := status
  body := envelope status ((HTTP_REASON_PHRASES.lookup status).getD "Error")
    (safeMessage status exceptionResponse)

def ThrottlerExceptionFilter.catch : ErrorResponse where
  status := HttpStatus.tooManyRequests.code
  headers := [("Retry-After", "60")]
  body := envelope HttpStatus.tooManyRequests.code "Too Many Requests"
    "You have made too many requests. Please wait before trying again." ++
      [("retryAfter", .number 60)]

/-- A registered filter: what it makes of the exceptions that it catches. -/
abbrev ExceptionFilter := Exception → Option ErrorResponse

/-- The filters in the order in which they are registered. -/
def globalFilters : List ExceptionFilter := [
  fun _ => some AllExceptionsFilter.catch,
  fun
    | .prisma error => some (PrismaExceptionFilter.catch error)
    | _ => none,
  fun
    | .http status response => some (HttpExceptionFilter.catch status response)
    | .throttler message =>
      some (HttpExceptionFilter.catch HttpStatus.tooManyRequests.code (.text message))
    | _ => none,
  fun
    | .throttler _ => some ThrottlerExceptionFilter.catch
    | _ => none]

/-- What is delivered for an exception: of the filters that catch it the one that was registered
last takes it. -/
def deliver (exception : Exception) : Option ErrorResponse :=
  globalFilters.reverse.findSome? fun filter => filter exception

/-! ### What is delivered -/

/-- Whatever is thrown, the client is sent the status with a body of a fixed shape, in which at
most the message comes from the exception. -/
theorem deliver_envelope (exception : Exception) :
    ∃ response error message, deliver exception = some response ∧
      (response.body = envelope response.status error message ∨
        response.body =
          envelope response.status error message ++ [("retryAfter", .number 60)]) := by
  cases exception with
  | http status response => exact ⟨_, _, _, rfl, .inl rfl⟩
  | throttler message => exact ⟨_, _, _, rfl, .inr rfl⟩
  | prisma error => exact ⟨_, _, _, rfl, .inl rfl⟩
  | other message => exact ⟨_, _, _, rfl, .inl rfl⟩

/-- No other field is ever delivered. -/
theorem deliver_lookup {exception : Exception} {response : ErrorResponse} {field : String}
    (delivered : deliver exception = some response)
    (other : field ∉ ["statusCode", "error", "message", "retryAfter"]) :
    response.body.lookup field = none := by
  obtain ⟨_, error, message, sent, shape⟩ := deliver_envelope exception
  obtain rfl := Option.some.inj (delivered.symm.trans sent)
  simp only [List.mem_cons, List.not_mem_nil, or_false, not_or] at other
  rcases shape with same | same
  · rw [same, List.lookup_eq_none_iff]
    simpa [envelope] using ⟨other.1, other.2.1, other.2.2.1⟩
  · rw [same, List.lookup_eq_none_iff]
    simpa [envelope] using other

/-! ### The time at which a locked-out user can try again -/

/-- The fields tell the client when it can try again, as the lockout of the status does. -/
def CarriesTiming (fields : Fields) (lockout : LockoutState) : Prop :=
  fields.lookup "retryAvailableAt" = some (orNull lockout.retryAvailableAt .instant) ∧
    fields.lookup "retryAfterSeconds" = some (orNull lockout.retryAfterSeconds .number)

/-- A submission at this instant is rejected, and what the client can see of the exception tells it
when it can try again, as the status does at the same instant. -/
def TellsTiming (seen : Exception → Fields) (runtime : Runtime) (state : State) (userId : UserId)
    (dto : SubmitVerificationDto) (ipAddress : String) : Prop :=
  ∀ result, Reports runtime state userId result → ∀ trace outcome after,
    Runs atOnce (submitVerification runtime userId dto ipAddress) state trace outcome after →
      ∃ failure exception, outcome = .error failure ∧ failure.Raises exception ∧
        CarriesTiming (seen exception) result.lockout

/-- The fields that an exception has when it is thrown. -/
def thrown : Exception → Fields
  | .http _ response => response.fields
  | _ => []

/-- The fields that are left of it when it is delivered. -/
def delivered (exception : Exception) : Fields :=
  ((deliver exception).map ErrorResponse.body).getD []

/-- A citizen that is not verified has used up the attempts of the window at this instant. -/
structure LockedOut (runtime : Runtime) (state : State) (user : UserRow) : Prop where
  enabled : runtime.attemptWindowHours > 0
  unverified : user.isIdVerified = false
  citizen : ∃ identity, state.db.citizenIdentities.find? (fun row => row.userId == user.id) =
    some identity ∧ identity.identityType = .NID
  exhausted : (state.window runtime user.id).attemptsUsed ≥ MAX_ATTEMPTS

variable {runtime : Runtime} {state : State} {user : UserRow} {dto : SubmitVerificationDto}
  {ipAddress : String}

/-- The gate throws the time that the status reports. -/
theorem thrown_tellsTiming (enrolled : state.db.Enrolled runtime) (stored : user ∈ state.db.users)
    (active : user.isActive = true) (lockedOut : LockedOut runtime state user) :
    TellsTiming thrown runtime state user.id dto ipAddress := by
  rintro result ⟨_, _, runStatus⟩ trace outcome after run
  obtain ⟨_, same, _, _, lockout⟩ :=
    runs_getVerificationStatus runStatus (findUser_of_stored enrolled stored)
  obtain rfl := Except.ok.inj same
  obtain ⟨identity, found, citizen⟩ := lockedOut.citizen
  obtain ⟨_, rest, rfl, gates⟩ := runs_gates enrolled stored active found run
  rcases runs_throwIf_bind.mp gates with ⟨foreign, _⟩ | ⟨_, gates⟩
  · rw [citizen] at foreign
    cases foreign
  rcases runs_throwIf_bind.mp gates with ⟨passed, _⟩ | ⟨_, gates⟩
  · rw [lockedOut.unverified] at passed
    cases passed
  obtain ⟨_, _, ended, _, rfl, runGate, run⟩ := runs_bind.mp gates
  have rejected := runs_enforceAttemptLimit runGate
  rw [if_pos lockedOut.exhausted] at rejected
  subst rejected
  obtain ⟨_, rfl, _⟩ := run
  refine ⟨_, _, rfl, .tooManyVerificationAttempts _ _ _, ?_⟩
  rw [lockout]
  exact ⟨rfl, rfl⟩

/-- No failure is delivered with a time. -/
theorem delivered_not_carriesTiming (exception : Exception) (lockout : LockoutState) :
    ¬CarriesTiming (delivered exception) lockout := by
  rintro ⟨available, _⟩
  obtain ⟨response, _, _, sent, _⟩ := deliver_envelope exception
  rw [delivered, sent, Option.map_some, Option.getD_some,
    deliver_lookup sent (by decide)] at available
  cases available

/-- So no client is told. -/
theorem not_tellsTiming_delivered {clock : Timestamp} {pool : ServicePool}
    (provisioned : Provisioned runtime clock pool) (stored : user ∈ pool.world.state.db.users)
    (instant : Timestamp) (dto : SubmitVerificationDto) (ipAddress : String) :
    ¬TellsTiming delivered runtime (pool.world.state.at instant) user.id dto ipAddress := by
  intro tells
  have enrolled : (pool.world.state.at instant).db.Enrolled runtime :=
    enrolled_of_provisioned provisioned
  obtain ⟨_, _, _, runStatus⟩ :=
    atOnce_runs (getVerificationStatus_answerable user.id) (pool.world.state.at instant)
  obtain ⟨result, rfl, _⟩ :=
    runs_getVerificationStatus runStatus (findUser_of_stored enrolled stored)
  obtain ⟨trace, outcome, after, run⟩ :=
    atOnce_runs (submitVerification_answerable user.id dto ipAddress) (pool.world.state.at instant)
  obtain ⟨_, exception, _, _, carries⟩ := tells result ⟨_, _, runStatus⟩ trace outcome after run
  exact delivered_not_carriesTiming exception result.lockout carries

/-- The citizen has failed three times. -/
def lockedOutPool : ServicePool :=
  played Referee.lax (citizenSignedIn ++
    .accept submission :: steps 2 (List.replicate 19 {}) ++
    .accept submission :: steps 3 (List.replicate 19 {}) ++
    .accept submission :: steps 4 (List.replicate 19 {}))

/-- Its row. -/
def lockedOutCitizen : UserRow :=
  ⟨0, "b@x", none, "pw", true, true, false, none, 3, none, 0, 0⟩

theorem lockedOutPool_provisioned : Provisioned legibleRuntime 0 lockedOutPool :=
  Provisioned.start.steps (Pool.playAll_steps Referee.lax_upholds _ _)

theorem lockedOutCitizen_stored : lockedOutCitizen ∈ lockedOutPool.world.state.db.users := by
  decide +kernel

theorem lockedOutCitizen_lockedOut :
    LockedOut legibleRuntime (lockedOutPool.world.state.at 7) lockedOutCitizen where
  enabled := by decide
  unverified := rfl
  citizen := Option.map_eq_some_iff.mp (by decide +kernel)
  exhausted := by decide +kernel

/-- The citizen submits once more and is not told when it can try again. -/
theorem retry_timing_dropped :
    ¬ ∀ (runtime : Runtime) (clock : Timestamp) (pool : ServicePool) (user : UserRow)
      (instant : Timestamp) (dto : SubmitVerificationDto) (ipAddress : String),
      Provisioned runtime clock pool → user ∈ pool.world.state.db.users →
        LockedOut runtime (pool.world.state.at instant) user →
          TellsTiming delivered runtime (pool.world.state.at instant) user.id dto ipAddress := by
  intro tells
  exact not_tellsTiming_delivered lockedOutPool_provisioned lockedOutCitizen_stored 7
    ⟨"N1", ⟨some "id", "image/png", 1⟩, ⟨some "me", "image/png", 1⟩, .standard⟩ "ip"
    (tells _ _ _ _ _ _ _ lockedOutPool_provisioned lockedOutCitizen_stored
      lockedOutCitizen_lockedOut)

/-- The gate throws the time at which a locked-out user can try again, and no client is ever sent
it. -/
theorem retry_timing_never_delivered (runtime : Runtime) (clock : Timestamp) (pool : ServicePool)
    (user : UserRow) (instant : Timestamp) (dto : SubmitVerificationDto) (ipAddress : String)
    (provisioned : Provisioned runtime clock pool) (stored : user ∈ pool.world.state.db.users)
    (lockedOut : LockedOut runtime (pool.world.state.at instant) user) :
    (user.isActive = true →
      TellsTiming thrown runtime (pool.world.state.at instant) user.id dto ipAddress) ∧
    ¬TellsTiming delivered runtime (pool.world.state.at instant) user.id dto ipAddress := by
  have enrolled : (pool.world.state.at instant).db.Enrolled runtime :=
    enrolled_of_provisioned provisioned
  exact ⟨fun active => thrown_tellsTiming enrolled stored active lockedOut,
    not_tellsTiming_delivered provisioned stored instant dto ipAddress⟩

/-- The same for the citizen. -/
theorem retry_timing_never_delivered_citizen :
    (lockedOutCitizen.isActive = true →
      TellsTiming thrown legibleRuntime (lockedOutPool.world.state.at 7) lockedOutCitizen.id
        ⟨"N1", ⟨some "id", "image/png", 1⟩, ⟨some "me", "image/png", 1⟩, .standard⟩ "ip") ∧
    ¬TellsTiming delivered legibleRuntime (lockedOutPool.world.state.at 7) lockedOutCitizen.id
      ⟨"N1", ⟨some "id", "image/png", 1⟩, ⟨some "me", "image/png", 1⟩, .standard⟩ "ip" :=
  retry_timing_never_delivered legibleRuntime 0 lockedOutPool lockedOutCitizen 7 _ "ip"
    lockedOutPool_provisioned lockedOutCitizen_stored lockedOutCitizen_lockedOut

end GraconAuth
