/-
This file embeds the lookup of a citizen: the cache, the call of the citizen API, the
reading of its answer and the handling of what goes wrong.

The handler of errors classifies a failed call by its status, but the client is
configured to take every status for a success, so no answer ever gets there. An answer
is classified by its body alone: one that is not `ok` with data means that there is no
such citizen, and one that is means that there is.
-/

import GraconAuth.CalendarDates
import GraconAuth.Schema
import Mathlib.Logic.Function.Basic

namespace GraconAuth

open CalendarDates Doubles

namespace CitizenService

/-! ### Values of JSON -/

inductive JsonValue where
  | null
  | boolean (value : Bool)
  | number (value : Double)
  | string (text : String)
  | array (items : List JsonValue)
  | object (fields : List (String × JsonValue))

/-- `value?.key`, where nothing stands for `undefined`. -/
def JsonValue.get? (key : String) : JsonValue → Option JsonValue
  | .object fields => fields.lookup key
  | _ => none

/-- What counts as true. -/
def JsonValue.truthy : JsonValue → Bool
  | .null => false
  | .boolean value => value
  | .number value => value ≠ .finite 0 ∧ value ≠ .nan
  | .string text => text ≠ ""
  | .array _ | .object _ => true

/-! ### Exceptions -/

/-- `documentNumber.slice(-4)` -/
def lastFour (documentNumber : String) : String :=
  String.ofList (documentNumber.toList.drop (documentNumber.length - 4))

def CitizenNotFoundException (documentNumber : String) : Failure :=
  .http .notFound "Citizen Not Found"
    ("No citizen found for document ending in ..." ++ lastFour documentNumber)

def CitizenApiUnavailableException : Failure :=
  .http .serviceUnavailable "Citizen API Unavailable"
    "National ID verification service is temporarily unavailable. Please try again later."

def CitizenApiTimeoutException : Failure :=
  .http .gatewayTimeout "Citizen API Timeout"
    "National ID verification service timed out. Please try again."

def InvalidDocumentException : Failure :=
  .http .badRequest "Invalid Document" "The provided National ID number is invalid."

/-! ### Reading an answer -/

/-- What is returned for a citizen. Only the date of birth is parsed; the other fields are taken
as they come. -/
structure CitizenRecord where
  documentType : Option JsonValue
  nid : Option JsonValue
  surName : Option JsonValue
  postNames : Option JsonValue
  sex : Option JsonValue
  dateOfBirth : Timestamp
  countryOfBirth : Option JsonValue

/-- Something thrown, as far as the handler tells it apart. An error of the client carries the
status of the answer, if there was one. -/
inductive Thrown where
  | timeoutError
  | axiosError (status : Option Nat)
  | exception (failure : Failure)
  | other (code : Option String)

variable (zone : TimeZone)

/-- The text is split, its fields are converted to numbers, and a missing one is none. -/
def parseDateOfBirth (dateString : String) : Except Failure Timestamp :=
  let numbers := (dateString.toList.splitOn '/').map number
  let day := numbers.getD 0 .nan
  let month := numbers.getD 1 .nan
  let year := numbers.getD 2 .nan
  match zone.newDate year (month.sub 1) day with
  | some date => .ok date
  | none => .error InvalidDocumentException

/-- A date of birth that is no string has no `split`, which throws a `TypeError`. -/
def extractCitizenData (raw : JsonValue) : Except Thrown CitizenRecord :=
  match raw.get? "dateOfBirth" with
  | some (.string dateString) =>
    match parseDateOfBirth zone dateString with
    | .ok dateOfBirth => .ok {
        documentType := raw.get? "documentType"
        nid := raw.get? "nid"
        surName := raw.get? "surName"
        postNames := raw.get? "postNames"
        sex := raw.get? "sex"
        dateOfBirth := dateOfBirth
        countryOfBirth := raw.get? "countryOfBirth" }
    | .error failure => .error (.exception failure)
  | _ => .error (.other none)

/-- `response.data?.status === 'ok'` -/
def statusOk (data : JsonValue) : Bool :=
  match data.get? "status" with
  | some (.string status) => status == "ok"
  | _ => false

/-- What an answer with status `ok` carries. -/
def payload? (data : JsonValue) : Option JsonValue :=
  if statusOk data then (data.get? "data").filter JsonValue.truthy else none

/-! ### The call -/

/-- What becomes of a request: an answer, or nothing in time, or an error of the client without an
answer. -/
inductive Exchange where
  | response (status : Nat) (data : JsonValue)
  | timeout
  | unreachable

structure CitizenRequest where
  documentType : String
  documentNumber : String
  fosaid : String
  deriving DecidableEq, Repr

def DOCUMENT_TYPE : String := "NID"

def FOSAID : String := "0022"

/-- `validateStatus` of the module -/
def validateStatus (_status : Nat) : Bool := true

/-- The client rejects an answer whose status is not valid. -/
def settle (validateStatus : Nat → Bool) : Exchange → Except Thrown JsonValue
  | .response status data =>
    if validateStatus status then .ok data else .error (.axiosError (some status))
  | .timeout => .error .timeoutError
  | .unreachable => .error (.axiosError none)

/-- Different errors are mapped to exceptions. -/
def handleApiError (documentNumber : String) : Thrown → Failure
  | .timeoutError => CitizenApiTimeoutException
  | .axiosError (some status) =>
    if status = 404 ∨ status = 400 then CitizenNotFoundException documentNumber
    -- 401 and 403 are logged in a way of their own, and the rest is taken for an outage
    else CitizenApiUnavailableException
  | .axiosError none => CitizenApiUnavailableException
  | .exception failure => failure
  | .other _ => CitizenApiUnavailableException

variable (post : CitizenRequest → Exchange)

def citizenRequest (documentNumber : String) : CitizenRequest where
  documentType := DOCUMENT_TYPE
  documentNumber := String.ofList (trim documentNumber.toList)
  fosaid := FOSAID

/-- The body of the `try`. -/
def answeredCitizen (documentNumber : String) : Except Thrown CitizenRecord := do
  let data ← settle validateStatus (post (citizenRequest documentNumber))
  match payload? data with
  | none => throw (.exception (CitizenNotFoundException documentNumber))
  | some raw => extractCitizenData zone raw

def callCitizenApi (documentNumber : String) : Except Failure CitizenRecord :=
  (answeredCitizen zone post documentNumber).mapError (handleApiError documentNumber)

/-! ### The lookup -/

/-- `NID_REGEX` on the trimmed number. The empty number does not match either. -/
def validDocumentNumber (documentNumber : String) : Bool :=
  (trim documentNumber.toList).length == 16 && (trim documentNumber.toList).all Char.isDigit

variable (sha256 : String → String)

def buildCacheKey (documentNumber : String) : String := "citizen:" ++ sha256 documentNumber

/-- What is cached at a time, by key. -/
abbrev Cache := String → Option CitizenRecord

def lookupCitizen (documentNumber : String) (cache : Cache) :
    Except Failure CitizenRecord × Cache :=
  if !validDocumentNumber documentNumber then (.error InvalidDocumentException, cache)
  else
    match cache (buildCacheKey sha256 documentNumber) with
    | some cached => (.ok cached, cache)
    | none =>
      match callCitizenApi zone post documentNumber with
      | .ok citizenData => (.ok citizenData,
          Function.update cache (buildCacheKey sha256 documentNumber) (some citizenData))
      | .error failure => (.error failure, cache)

/-! ### What an answer means -/

section Classification

variable {zone post sha256} {documentNumber : String} {cache : Cache} {status : Nat}
  {data : JsonValue}

def Success (status : Nat) : Prop := 200 ≤ status ∧ status < 300

/-- The API has refused the credentials or failed. -/
def Refused (status : Nat) : Prop :=
  status = 401 ∨ status = 403 ∨ 500 ≤ status ∧ status < 600

/-- The API does not know the number. -/
def Unknown (status : Nat) : Prop := status = 400 ∨ status = 404

/-- The body has the status `ok` with data. -/
def HasData (data : JsonValue) : Prop := ∃ raw, payload? data = some raw

/-- The data has a date of birth that can be parsed. -/
def HasCitizen (zone : TimeZone) (data : JsonValue) : Prop :=
  ∃ raw dateString dateOfBirth, payload? data = some raw ∧
    raw.get? "dateOfBirth" = some (.string dateString) ∧
    parseDateOfBirth zone dateString = .ok dateOfBirth

/-- The data has a date of birth that is no string, or none. -/
def Undated (data : JsonValue) : Prop :=
  ∃ raw, payload? data = some raw ∧ ∀ text, raw.get? "dateOfBirth" ≠ some (.string text)

/-- An answer is classified by its cause. -/
structure Classified (documentNumber : String) (status : Nat) (data : JsonValue) (cache : Cache)
    (outcome : Except Failure CitizenRecord × Cache) : Prop where
  notFound : outcome.1 = .error (CitizenNotFoundException documentNumber) →
    Unknown status ∨ Success status ∧ ¬ HasData data
  unavailable : Refused status → outcome.1 = .error CitizenApiUnavailableException
  returns : ∀ citizenData, outcome.1 = .ok citizenData → Success status
  stores : outcome.2 ≠ cache → ∃ citizenData, outcome.1 = .ok citizenData

/-- Where the classification by the body is that by the cause. -/
def ClassifiedByBody (zone : TimeZone) (status : Nat) (data : JsonValue) : Prop :=
  Success status ∨ Unknown status ∧ ¬ HasCitizen zone data ∨ Refused status ∧ Undated data ∨
    ¬ Unknown status ∧ ¬ Refused status ∧ HasData data ∧ ¬ HasCitizen zone data

theorem hasData_of_citizen (citizen : HasCitizen zone data) : HasData data := by
  obtain ⟨raw, -, -, carried, -, -⟩ := citizen
  exact ⟨raw, carried⟩

theorem hasData_of_undated (undated : Undated data) : HasData data := by
  obtain ⟨raw, carried, -⟩ := undated
  exact ⟨raw, carried⟩

theorem not_undated_of_citizen (citizen : HasCitizen zone data) : ¬ Undated data := by
  obtain ⟨raw, dateString, -, carried, dated, -⟩ := citizen
  rintro ⟨other, same, undated⟩
  cases carried.symm.trans same
  exact undated dateString dated

theorem not_success_of_refused (refused : Refused status) : ¬ Success status := by
  unfold Refused Success at *
  omega

theorem not_unknown_of_refused (refused : Refused status) : ¬ Unknown status := by
  unfold Refused Unknown at *
  omega

/-- The four outcomes of an answer. -/
inductive Outcome (zone : TimeZone) (documentNumber : String) (data : JsonValue) :
    Except Failure CitizenRecord → Prop
  | noData : ¬ HasData data →
    Outcome zone documentNumber data (.error (CitizenNotFoundException documentNumber))
  | undated : Undated data →
    Outcome zone documentNumber data (.error CitizenApiUnavailableException)
  | invalid : HasData data → ¬ HasCitizen zone data → ¬ Undated data →
    Outcome zone documentNumber data (.error InvalidDocumentException)
  | citizen (citizenData : CitizenRecord) : HasCitizen zone data →
    Outcome zone documentNumber data (.ok citizenData)

/-- A date that is not parsed is an invalid document. -/
theorem parseDateOfBirth_error {dateString : String} {failure : Failure}
    (failed : parseDateOfBirth zone dateString = .error failure) :
    failure = InvalidDocumentException := by
  unfold parseDateOfBirth at failed
  dsimp only at failed
  split at failed
  · cases failed
  · exact (Except.error.inj failed).symm

/-- What becomes of the data of an answer. -/
theorem extractCitizenData_outcome {raw : JsonValue} (carried : payload? data = some raw) :
    Outcome zone documentNumber data
      ((extractCitizenData zone raw).mapError (handleApiError documentNumber)) := by
  unfold extractCitizenData
  split
  · rename_i dateString dated
    have notUndated : ¬ Undated data := by
      rintro ⟨other, same, undated⟩
      cases carried.symm.trans same
      exact undated dateString dated
    split
    · rename_i dateOfBirth parsed
      exact .citizen _ ⟨raw, dateString, dateOfBirth, carried, dated, parsed⟩
    · rename_i failure failed
      have notParsed : ¬ HasCitizen zone data := by
        rintro ⟨other, text, dateOfBirth, same, alsoDated, parsed⟩
        cases carried.symm.trans same
        cases dated.symm.trans alsoDated
        cases failed.symm.trans parsed
      rw [parseDateOfBirth_error failed]
      exact .invalid ⟨raw, carried⟩ notParsed notUndated
  · rename_i undated
    exact .undated ⟨raw, carried, undated⟩

/-- An answer is classified by its body alone. -/
theorem callCitizenApi_outcome
    (answered : post (citizenRequest documentNumber) = .response status data) :
    Outcome zone documentNumber data (callCitizenApi zone post documentNumber) := by
  have settled : settle validateStatus (post (citizenRequest documentNumber)) = .ok data := by
    rw [answered]
    rfl
  have read : answeredCitizen zone post documentNumber = match payload? data with
      | none => .error (.exception (CitizenNotFoundException documentNumber))
      | some raw => extractCitizenData zone raw := by
    rw [answeredCitizen, settled]
    rfl
  rw [callCitizenApi, read]
  cases carried : payload? data with
  | none =>
    refine .noData ?_
    rintro ⟨raw, same⟩
    cases carried.symm.trans same
  | some raw => exact extractCitizenData_outcome carried

/-- The exceptions have different statuses. -/
theorem unavailable_ne_notFound :
    CitizenApiUnavailableException ≠ CitizenNotFoundException documentNumber := by
  intro same
  injection same with status
  cases status

theorem invalid_ne_notFound :
    InvalidDocumentException ≠ CitizenNotFoundException documentNumber := by
  intro same
  injection same with status
  cases status

theorem invalid_ne_unavailable : InvalidDocumentException ≠ CitizenApiUnavailableException := by
  decide

/-- The outcomes exclude one another, and each is right for some statuses. -/
theorem classified_iff {result : Except Failure CitizenRecord} {after : Cache}
    (outcome : Outcome zone documentNumber data result)
    (kept : after ≠ cache → ∃ citizenData, result = .ok citizenData) :
    Classified documentNumber status data cache (result, after) ↔
      ClassifiedByBody zone status data := by
  unfold ClassifiedByBody
  cases outcome with
  | noData empty =>
    constructor
    · intro classified
      rcases classified.notFound rfl with unknown | ⟨success, -⟩
      · exact .inr (.inl ⟨unknown, mt hasData_of_citizen empty⟩)
      · exact .inl success
    · rintro (success | ⟨unknown, -⟩ | ⟨-, undated⟩ | ⟨-, -, carried, -⟩)
      · exact ⟨fun _ => .inr ⟨success, empty⟩,
          fun refused => absurd success (not_success_of_refused refused), nofun, kept⟩
      · exact ⟨fun _ => .inl unknown,
          fun refused => absurd unknown (not_unknown_of_refused refused), nofun, kept⟩
      · exact absurd (hasData_of_undated undated) empty
      · exact absurd carried empty
  | undated undated =>
    refine iff_of_true ⟨fun same => absurd (Except.error.inj same) unavailable_ne_notFound,
      fun _ => rfl, nofun, kept⟩ ?_
    have noCitizen : ¬ HasCitizen zone data := fun citizen => not_undated_of_citizen citizen undated
    rcases em (Unknown status) with unknown | known
    · exact .inr (.inl ⟨unknown, noCitizen⟩)
    · rcases em (Refused status) with refused | accepted
      · exact .inr (.inr (.inl ⟨refused, undated⟩))
      · exact .inr (.inr (.inr ⟨known, accepted, hasData_of_undated undated, noCitizen⟩))
  | invalid carried noCitizen dated =>
    have holds (accepted : ¬ Refused status) : Classified documentNumber status data cache
        (.error InvalidDocumentException, after) :=
      ⟨fun same => absurd (Except.error.inj same) invalid_ne_notFound,
        fun refused => absurd refused accepted, nofun, kept⟩
    constructor
    · intro classified
      have accepted : ¬ Refused status := fun refused =>
        invalid_ne_unavailable (Except.error.inj (classified.unavailable refused))
      rcases em (Unknown status) with unknown | known
      · exact .inr (.inl ⟨unknown, noCitizen⟩)
      · exact .inr (.inr (.inr ⟨known, accepted, carried, noCitizen⟩))
    · rintro (success | ⟨unknown, -⟩ | ⟨-, undated⟩ | ⟨-, accepted, -, -⟩)
      · exact holds fun refused => not_success_of_refused refused success
      · exact holds fun refused => not_unknown_of_refused refused unknown
      · exact absurd undated dated
      · exact holds accepted
  | citizen citizenData parsed =>
    constructor
    · exact fun classified => .inl (classified.returns citizenData rfl)
    · rintro (success | ⟨-, noCitizen⟩ | ⟨-, undated⟩ | ⟨-, -, -, noCitizen⟩)
      · exact ⟨nofun, fun refused => absurd success (not_success_of_refused refused),
          fun _ _ => success, kept⟩
      · exact absurd parsed noCitizen
      · exact absurd undated (not_undated_of_citizen parsed)
      · exact absurd parsed noCitizen

/-- **An answer of the citizen API is classified by its cause exactly where its body says the same
as its status.** That is so for every success; for a status that does not know the number, unless
the body has a citizen; for a refusal or a failure, only if the body has data without a date of
birth that is a string; and for any other status, only if the body has data but no citizen. -/
theorem classified_by_cause_iff {zone : TimeZone} {post : CitizenRequest → Exchange}
    {sha256 : String → String} {documentNumber : String} {cache : Cache} {status : Nat}
    {data : JsonValue} (valid : validDocumentNumber documentNumber)
    (absent : cache (buildCacheKey sha256 documentNumber) = none)
    (answered : post (citizenRequest documentNumber) = .response status data) :
    Classified documentNumber status data cache
        (lookupCitizen zone post sha256 documentNumber cache) ↔
      ClassifiedByBody zone status data := by
  have outcome : Outcome zone documentNumber data (callCitizenApi zone post documentNumber) :=
    callCitizenApi_outcome answered
  unfold lookupCitizen
  rw [valid, Bool.not_true, if_neg Bool.false_ne_true, absent]
  dsimp only
  generalize callCitizenApi zone post documentNumber = result at outcome
  cases result with
  | ok citizenData => exact classified_iff outcome fun _ => ⟨citizenData, rfl⟩
  | error failure => exact classified_iff outcome fun changed => absurd rfl changed

/-- A client that is always given one answer. -/
def alwaysAnswers (status : Nat) (data : JsonValue) : CitizenRequest → Exchange :=
  fun _ => .response status data

def emptyCache : Cache := fun _ => none

/-- An answer with a citizen. -/
def sampleAnswer : JsonValue := .object [("status", .string "ok"),
  ("data", .object [("nid", .string "1199080012345678"), ("dateOfBirth", .string "01/02/1990")])]

theorem classified_by_cause_sample : validDocumentNumber "1199080012345678" ∧
    Classified "1199080012345678" 200 sampleAnswer emptyCache
      (lookupCitizen (.fixed 0 (by decide)) (alwaysAnswers 200 sampleAnswer) id "1199080012345678"
        emptyCache) := by
  have valid : validDocumentNumber "1199080012345678" := by decide +kernel
  exact ⟨valid, (classified_by_cause_iff valid rfl rfl).mpr (.inl ⟨by decide, by decide⟩)⟩

/-- An outage looks like a number that does not exist: the handler would call it unavailable by
its status, but the answer does not get there. -/
theorem not_classified_by_cause : ¬ ∀ (zone : TimeZone) (post : CitizenRequest → Exchange)
    (sha256 : String → String) (documentNumber : String) (cache : Cache) (status : Nat)
    (data : JsonValue), validDocumentNumber documentNumber →
      cache (buildCacheKey sha256 documentNumber) = none →
      post (citizenRequest documentNumber) = .response status data →
        Classified documentNumber status data cache
          (lookupCitizen zone post sha256 documentNumber cache) := by
  intro always
  have valid : validDocumentNumber "1199080012345678" := by decide +kernel
  have looked : (lookupCitizen (.fixed 0 (by decide))
      (alwaysAnswers 503 (.string "Service Unavailable")) id "1199080012345678" emptyCache).1 =
        .error (CitizenNotFoundException "1199080012345678") := by
    rw [lookupCitizen, valid]
    rfl
  have outage := always (.fixed 0 (by decide)) (alwaysAnswers 503 (.string "Service Unavailable"))
    id "1199080012345678" emptyCache 503 _ valid rfl rfl
  rcases outage.notFound looked with unknown | ⟨success, -⟩
  · unfold Unknown at unknown
    omega
  · unfold Success at success
    omega

end Classification

end CitizenService

end GraconAuth
