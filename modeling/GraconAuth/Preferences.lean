/-
This file embeds the invitation preferences of the users service: the normaliser,
the read and the patch of a user's row. They are a service of their own, with one
table, which nothing else in the service reads or writes.

The enum of the requests and the enum of the table have the same members, so the
casts between them are left out.
-/

import GraconAuth.Rows
import GraconAuth.Schema
import GraconAuth.Serial

namespace GraconAuth

open Interleaving Program Rows

/-! ### The normaliser -/

inductive UserInviteVerificationPreference where
  | NO_VERIFICATION
  | EMAIL_OTP
  | IDENTITY_VERIFICATION
  deriving DecidableEq, Repr

abbrev PreferenceValues := List UserInviteVerificationPreference

def DEFAULT_USER_INVITE_VERIFICATION_PREFERENCES : PreferenceValues := [.NO_VERIFICATION]

/-- The values without repetitions; a missing or empty list counts as the default. -/
def distinctPreferences : Option PreferenceValues → PreferenceValues
  | some (first :: rest) => (first :: rest).eraseDups
  | _ => DEFAULT_USER_INVITE_VERIFICATION_PREFERENCES

/-- What a list that combines `NO_VERIFICATION` with another value is rejected with. -/
def combinedPreferences (fieldName : String) : Failure :=
  BadRequestException
    (fieldName ++ " cannot combine NO_VERIFICATION with EMAIL_OTP or IDENTITY_VERIFICATION.")

def normalizeUserInviteVerificationPreferences (values : Option PreferenceValues)
    (fieldName : String) : Except Failure PreferenceValues :=
  let normalizedValues := distinctPreferences values
  let hasNoVerification := normalizedValues.contains .NO_VERIFICATION
  if hasNoVerification && normalizedValues.length > 1 then .error (combinedPreferences fieldName)
  else if hasNoVerification then .ok [.NO_VERIFICATION]
  else
    .ok ([.EMAIL_OTP, .IDENTITY_VERIFICATION].filter fun preference =>
      normalizedValues.contains preference)

/-! ### The table -/

structure UserPreferenceRow where
  userId : UserId
  defaultDocumentInviteVerifications : PreferenceValues
  defaultMeetingInviteVerifications : PreferenceValues
  deriving DecidableEq, Repr

abbrev PreferenceTable := List UserPreferenceRow

/-- `userId` is unique. -/
def PreferenceTable.findUnique (table : PreferenceTable) (userId : UserId) :
    Option UserPreferenceRow :=
  table.find? fun row => row.userId == userId

def PreferenceTable.upsert (table : PreferenceTable) (row : UserPreferenceRow) :
    PreferenceTable :=
  upsertWhere (fun other => other.userId == row.userId)
    (fun other => { other with
      defaultDocumentInviteVerifications := row.defaultDocumentInviteVerifications
      defaultMeetingInviteVerifications := row.defaultMeetingInviteVerifications }) row table

/-! ### The functions -/

inductive PreferenceEffect where
  | userPreferenceFindUnique (userId : UserId)
  | userPreferenceUpsert (row : UserPreferenceRow)

abbrev PreferenceEffect.Reply : PreferenceEffect → Type
  | .userPreferenceFindUnique _ => Option UserPreferenceRow
  | .userPreferenceUpsert _ => UserPreferenceRow

/-- A function on the preferences. -/
abbrev PreferenceAsync (Result : Type) :=
  Program PreferenceEffect PreferenceEffect.Reply Failure Result

structure UserPreferencesResponse where
  defaultDocumentInviteVerifications : PreferenceValues
  defaultMeetingInviteVerifications : PreferenceValues
  deriving DecidableEq, Repr

structure UpdateUserPreferencesDto where
  defaultDocumentInviteVerifications : Option PreferenceValues
  defaultMeetingInviteVerifications : Option PreferenceValues
  deriving DecidableEq, Repr

/-- Both lists, normalised under the names that their errors show. -/
def normalizeBoth (documents meetings : Option PreferenceValues) :
    Except Failure UserPreferencesResponse := do
  let defaultDocumentInviteVerifications ←
    normalizeUserInviteVerificationPreferences documents "Document invitation defaults"
  let defaultMeetingInviteVerifications ←
    normalizeUserInviteVerificationPreferences meetings "Meeting invitation defaults"
  return { defaultDocumentInviteVerifications, defaultMeetingInviteVerifications }

def formatUserPreferences (preferences : Option UserPreferenceRow) :
    Except Failure UserPreferencesResponse :=
  normalizeBoth (preferences.map (·.defaultDocumentInviteVerifications))
    (preferences.map (·.defaultMeetingInviteVerifications))

/-- What a patch makes of the preferences that are read first: a field that is omitted is taken
from them. -/
def patchedPreferences (dto : UpdateUserPreferencesDto)
    (currentPreferences : Option UserPreferenceRow) :
    Except Failure UserPreferencesResponse := do
  let current ← formatUserPreferences currentPreferences
  normalizeBoth
    (dto.defaultDocumentInviteVerifications.getD current.defaultDocumentInviteVerifications)
    (dto.defaultMeetingInviteVerifications.getD current.defaultMeetingInviteVerifications)

def getPreferences (userId : UserId) : PreferenceAsync UserPreferencesResponse := do
  let preferences ← perform (.userPreferenceFindUnique userId)
  ofOutcome (formatUserPreferences preferences)

def updatePreferences (userId : UserId) (dto : UpdateUserPreferencesDto) :
    PreferenceAsync UserPreferencesResponse := do
  let currentPreferences ← perform (.userPreferenceFindUnique userId)
  let patched ← ofOutcome (patchedPreferences dto currentPreferences)
  let savedPreferences ← perform (.userPreferenceUpsert ⟨userId,
    patched.defaultDocumentInviteVerifications, patched.defaultMeetingInviteVerifications⟩)
  ofOutcome (formatUserPreferences (some savedPreferences))

/-! ### The service -/

inductive PreferenceRequest where
  | getPreferences (userId : UserId)
  | updatePreferences (userId : UserId) (dto : UpdateUserPreferencesDto)
  deriving DecidableEq, Repr

def PreferenceRequest.serve : PreferenceRequest → PreferenceAsync UserPreferencesResponse
  | .getPreferences userId => GraconAuth.getPreferences userId
  | .updatePreferences userId dto => GraconAuth.updatePreferences userId dto

/-- A statement that the database does not carry out leaves the table. -/
def preferenceEnvironment :
    Environment PreferenceTable Bool PreferenceEffect.Reply Failure :=
  fun table fails effect =>
    if fails then some (.error (.database .unavailable), table)
    else
      match effect with
      | .userPreferenceFindUnique userId => some (.ok (table.findUnique userId), table)
      | .userPreferenceUpsert row => some (.ok row, table.upsert row)

def preferenceService : Service PreferenceTable Bool PreferenceEffect.Reply Failure
    PreferenceRequest UserPreferencesResponse where
  environment := preferenceEnvironment
  serve := PreferenceRequest.serve
  accepts _ _ := true

end GraconAuth
