/-
This file is about the normal form of the invitation preferences. What the
normaliser makes of a list depends on its members only and is not changed by
normalising it again. The same normaliser runs on every read and on every merge of
a patch with what is stored, and it would throw on a row that is not in normal
form; the calls keep every stored row in it.
-/

import GraconAuth.Preferences

namespace GraconAuth

open Interleaving Program Rows

/-! ### Lists without repetitions -/

theorem nodup_eraseDups {Value : Type} [DecidableEq Value] (values : List Value) :
    values.eraseDups.Nodup := by
  induction bound : values.length using Nat.strong_induction_on generalizing values with
  | _ length inductionHypothesis =>
    subst bound
    cases values with
    | nil => exact List.nodup_nil
    | cons first rest =>
      have shorter := Nat.lt_succ_of_le (List.length_filter_le (fun other => !other == first) rest)
      rw [List.eraseDups_cons, List.nodup_cons]
      exact ⟨by simp, inductionHypothesis _ shorter _ rfl⟩

/-- A list without repetitions has more than one member when it has another one. -/
theorem one_lt_length_iff {Value : Type} {value : Value} {values : List Value}
    (distinct : values.Nodup) (member : value ∈ values) :
    1 < values.length ↔ ∃ other ∈ values, other ≠ value := by
  constructor
  · intro longer
    by_contra alone
    have inside : values ⊆ [value] := fun other inside =>
      List.mem_singleton.mpr (not_not.mp fun apart => alone ⟨other, inside, apart⟩)
    have := (distinct.subperm inside).length_le
    rw [List.length_singleton] at this
    omega
  · rintro ⟨other, inside, apart⟩
    match values, member, inside with
    | [only], member, inside =>
      rw [List.mem_singleton] at member inside
      exact absurd (inside.trans member.symm) apart
    | _ :: _ :: _, _, _ => simp

/-! ### What the normaliser makes of a list -/

/-- The members that a list stands for. -/
def givenPreferences : Option PreferenceValues → PreferenceValues
  | some (first :: rest) => first :: rest
  | _ => DEFAULT_USER_INVITE_VERIFICATION_PREFERENCES

/-- `NO_VERIFICATION` stands together with another value. -/
def Combined (values : PreferenceValues) : Prop :=
  .NO_VERIFICATION ∈ values ∧ ∃ other ∈ values, other ≠ .NO_VERIFICATION

instance (values : PreferenceValues) : Decidable (Combined values) :=
  inferInstanceAs (Decidable (_ ∧ ∃ other ∈ values, _))

/-- The order in which the values are stored. -/
def preferenceOrder : PreferenceValues := [.NO_VERIFICATION, .EMAIL_OTP, .IDENTITY_VERIFICATION]

theorem mem_preferenceOrder (preference : UserInviteVerificationPreference) :
    preference ∈ preferenceOrder := by
  cases preference <;> decide

theorem mem_distinctPreferences {values : Option PreferenceValues}
    {preference : UserInviteVerificationPreference} :
    preference ∈ distinctPreferences values ↔ preference ∈ givenPreferences values := by
  match values with
  | some (first :: rest) => exact List.mem_eraseDups
  | some [] => exact Iff.rfl
  | none => exact Iff.rfl

theorem nodup_distinctPreferences (values : Option PreferenceValues) :
    (distinctPreferences values).Nodup := by
  match values with
  | some (first :: rest) => exact nodup_eraseDups _
  | some [] => decide
  | none => decide

/-- A list that combines is rejected; of any other the members are kept, in the fixed order. -/
theorem normalize_eq (values : Option PreferenceValues) (fieldName : String) :
    normalizeUserInviteVerificationPreferences values fieldName =
      if Combined (givenPreferences values) then .error (combinedPreferences fieldName)
      else .ok (preferenceOrder.filter fun preference => preference ∈ givenPreferences values) := by
  have several := @one_lt_length_iff _ .NO_VERIFICATION _ (nodup_distinctPreferences values)
  simp only [mem_distinctPreferences] at several
  simp only [normalizeUserInviteVerificationPreferences, List.contains_iff_mem,
    mem_distinctPreferences, Bool.and_eq_true, decide_eq_true_eq]
  by_cases none_ : .NO_VERIFICATION ∈ givenPreferences values
  · by_cases combined : ∃ other ∈ givenPreferences values, other ≠ .NO_VERIFICATION
    · rw [if_pos ⟨none_, (several none_).mpr combined⟩, if_pos ⟨none_, combined⟩]
    · have alone : ∀ other ∈ givenPreferences values, other = .NO_VERIFICATION :=
        fun other member => not_not.mp fun apart => combined ⟨other, member, apart⟩
      have email : .EMAIL_OTP ∉ givenPreferences values := fun member => by cases alone _ member
      have identity : .IDENTITY_VERIFICATION ∉ givenPreferences values :=
        fun member => by cases alone _ member
      rw [if_neg fun both => combined ((several none_).mp both.2), if_pos none_,
        if_neg fun both => combined both.2]
      simp [preferenceOrder, none_, email, identity]
  · rw [if_neg fun both => none_ both.1, if_neg none_, if_neg fun both => none_ both.1]
    simp [preferenceOrder, none_, List.filter_cons, mem_distinctPreferences]

/-- The normaliser leaves the list as it is. -/
def Canonical (values : PreferenceValues) : Prop :=
  ∀ fieldName, normalizeUserInviteVerificationPreferences (some values) fieldName = .ok values

/-- The laws of the normaliser, for any list under any name. -/
structure Normalizes (values : Option PreferenceValues) (fieldName : String) : Prop where
  throws : (∃ failure, normalizeUserInviteVerificationPreferences values fieldName =
    .error failure) ↔ Combined (values.getD [])
  reason : ∀ failure, normalizeUserInviteVerificationPreferences values fieldName =
    .error failure → failure = combinedPreferences fieldName
  members : ∀ other, (∀ preference, preference ∈ givenPreferences values ↔
    preference ∈ givenPreferences other) →
      normalizeUserInviteVerificationPreferences values fieldName =
        normalizeUserInviteVerificationPreferences other fieldName
  distinct : ∀ result, normalizeUserInviteVerificationPreferences values fieldName = .ok result →
    result.Nodup
  ordered : ∀ result, normalizeUserInviteVerificationPreferences values fieldName = .ok result →
    result.Sublist preferenceOrder
  complete : ∀ result, normalizeUserInviteVerificationPreferences values fieldName = .ok result →
    ∀ preference, preference ∈ result ↔ preference ∈ givenPreferences values
  canonical : ∀ result, normalizeUserInviteVerificationPreferences values fieldName = .ok result →
    Canonical result

theorem normalize_ok {values : Option PreferenceValues} {fieldName : String}
    {result : PreferenceValues}
    (normalized : normalizeUserInviteVerificationPreferences values fieldName = .ok result) :
    ¬Combined (givenPreferences values) ∧
      result = preferenceOrder.filter fun preference => preference ∈ givenPreferences values := by
  rw [normalize_eq] at normalized
  split at normalized
  · cases normalized
  · rename_i apart
    cases normalized
    exact ⟨apart, rfl⟩

/-- A missing and an empty list combine nothing, and stand for a list that does not either. -/
theorem combined_given (values : Option PreferenceValues) :
    Combined (givenPreferences values) ↔ Combined (values.getD []) := by
  match values with
  | some (first :: rest) => exact Iff.rfl
  | some [] => decide
  | none => decide

theorem combined_congr {values others : PreferenceValues}
    (same : ∀ preference, preference ∈ values ↔ preference ∈ others) :
    Combined values ↔ Combined others := by
  simp only [Combined, same]

/-- A list in the fixed order that combines nothing and has a member is in normal form. -/
theorem canonical_filter {values : Option PreferenceValues}
    (apart : ¬Combined (givenPreferences values)) :
    Canonical (preferenceOrder.filter fun preference => preference ∈ givenPreferences values) := by
  have same : ∀ preference, preference ∈ givenPreferences (some (preferenceOrder.filter
      fun preference => preference ∈ givenPreferences values)) ↔
        preference ∈ givenPreferences values := by
    have kept : ∀ preference, preference ∈ (preferenceOrder.filter
        fun preference => preference ∈ givenPreferences values) ↔
          preference ∈ givenPreferences values := by
      simp [mem_preferenceOrder]
    cases filtered : preferenceOrder.filter
        fun preference => preference ∈ givenPreferences values with
    | cons first rest => rwa [filtered] at kept
    | nil =>
      have some_ : ∃ preference, preference ∈ givenPreferences values := by
        match values with
        | some (first :: rest) => exact ⟨first, List.mem_cons_self⟩
        | some [] => exact ⟨_, List.mem_cons_self⟩
        | none => exact ⟨_, List.mem_cons_self⟩
      obtain ⟨preference, member⟩ := some_
      rw [filtered] at kept
      exact absurd ((kept preference).mpr member) List.not_mem_nil
  intro fieldName
  rw [normalize_eq, if_neg ((combined_congr same).not.mpr apart)]
  simp only [same]

theorem normalizes (values : Option PreferenceValues) (fieldName : String) :
    Normalizes values fieldName where
  throws := by
    rw [normalize_eq, ← combined_given]
    split
    · rename_i combined
      exact ⟨fun _ => combined, fun _ => ⟨_, rfl⟩⟩
    · rename_i apart
      exact ⟨nofun, fun combined => absurd combined apart⟩
  reason failure rejected := by
    rw [normalize_eq] at rejected
    split at rejected
    · exact (Except.error.inj rejected).symm
    · cases rejected
  members other same := by
    simp only [normalize_eq, combined_congr same, same]
  distinct result normalized := by
    rw [(normalize_ok normalized).2]
    exact List.Nodup.filter _ (by decide)
  ordered result normalized := by
    rw [(normalize_ok normalized).2]
    exact List.filter_sublist
  complete result normalized preference := by
    rw [(normalize_ok normalized).2]
    simp [mem_preferenceOrder]
  canonical result normalized := by
    obtain ⟨apart, rfl⟩ := normalize_ok normalized
    exact canonical_filter apart

/-! ### One call -/

abbrev PreferenceEvent := Event PreferenceEffect.Reply Failure

/-- One served call on the preferences. -/
abbrev PreferenceServed :=
  Served PreferenceTable PreferenceEffect.Reply Failure PreferenceRequest UserPreferencesResponse

section Calls

variable {table before after : PreferenceTable} {trace : List PreferenceEvent}
  {outcome : Except Failure UserPreferencesResponse} {userId : UserId}

theorem performs_userPreferenceFindUnique {next : PreferenceTable}
    {reply : Except Failure (Option UserPreferenceRow)}
    (performs : preferenceEnvironment.Performs table (.userPreferenceFindUnique userId) reply
      next) :
    next = table ∧ (reply = .error (.database .unavailable) ∨
      reply = .ok (table.findUnique userId)) := by
  obtain ⟨_ | _, answered⟩ := performs
  · cases answered
    exact ⟨rfl, .inr rfl⟩
  · cases answered
    exact ⟨rfl, .inl rfl⟩

theorem performs_userPreferenceUpsert {next : PreferenceTable} {row : UserPreferenceRow}
    {reply : Except Failure UserPreferenceRow}
    (performs : preferenceEnvironment.Performs table (.userPreferenceUpsert row) reply next) :
    (reply = .error (.database .unavailable) ∧ next = table) ∨
      (reply = .ok row ∧ next = table.upsert row) := by
  obtain ⟨_ | _, answered⟩ := performs
  · cases answered
    exact .inr ⟨rfl, rfl⟩
  · cases answered
    exact .inl ⟨rfl, rfl⟩

/-- A read changes nothing. It fails with the query, or formats the row it has read. -/
theorem runs_getPreferences
    (run : Runs preferenceEnvironment (getPreferences userId) before trace outcome after) :
    after = before ∧ ((trace = [⟨.userPreferenceFindUnique userId,
        .error (.database .unavailable)⟩] ∧ outcome = .error (.database .unavailable)) ∨
      outcome = formatUserPreferences (before.findUnique userId)) := by
  obtain ⟨reply, between, rest, rfl, performs, later⟩ := runs_perform_bind.mp run
  obtain ⟨rfl, rfl | rfl⟩ := performs_userPreferenceFindUnique performs
  · obtain ⟨rfl, rfl, rfl⟩ := later
    exact ⟨rfl, .inl ⟨rfl, rfl⟩⟩
  · obtain ⟨_, rfl, rfl⟩ := runs_ofOutcome.mp later
    exact ⟨rfl, .inr rfl⟩

/-- The row that a patch saves. -/
def UserPreferencesResponse.row (response : UserPreferencesResponse) (userId : UserId) :
    UserPreferenceRow :=
  ⟨userId, response.defaultDocumentInviteVerifications,
    response.defaultMeetingInviteVerifications⟩

/-- A patch fails and changes nothing, or saves the row that comes of the row it has read. -/
theorem runs_updatePreferences {dto : UpdateUserPreferencesDto}
    (run : Runs preferenceEnvironment (updatePreferences userId dto) before trace outcome after) :
    ((∃ failure, outcome = .error failure) ∧ after = before) ∨
      ∃ patched, patchedPreferences dto (before.findUnique userId) = .ok patched ∧
        after = before.upsert (patched.row userId) ∧
          outcome = formatUserPreferences (some (patched.row userId)) := by
  obtain ⟨reply, between, rest, rfl, performs, later⟩ := runs_perform_bind.mp run
  obtain ⟨rfl, rfl | rfl⟩ := performs_userPreferenceFindUnique performs
  · obtain ⟨_, rfl, rfl⟩ := later
    exact .inl ⟨⟨_, rfl⟩, rfl⟩
  rw [ofOutcome_ok, done_bind] at later
  cases merged : patchedPreferences dto (between.findUnique userId) with
  | error failure =>
    rw [merged] at later
    obtain ⟨_, rfl, rfl⟩ := later
    exact .inl ⟨⟨_, rfl⟩, rfl⟩
  | ok patched =>
    rw [merged, ofOutcome_ok, done_bind] at later
    obtain ⟨reply, next, rest, rfl, performs, last⟩ := runs_perform_bind.mp later
    rcases performs_userPreferenceUpsert performs with ⟨rfl, rfl⟩ | ⟨rfl, rfl⟩
    · obtain ⟨_, rfl, rfl⟩ := last
      exact .inl ⟨⟨_, rfl⟩, rfl⟩
    · obtain ⟨_, rfl, rfl⟩ := runs_ofOutcome.mp last
      exact .inr ⟨patched, rfl, rfl, rfl⟩

end Calls

/-! ### What is stored -/

/-- Every stored list is in normal form. -/
def PreferenceTable.Canonical (table : PreferenceTable) : Prop :=
  ∀ row ∈ table, GraconAuth.Canonical row.defaultDocumentInviteVerifications ∧
    GraconAuth.Canonical row.defaultMeetingInviteVerifications

/-- The document preferences of a user, with the default for a user without a row. -/
def PreferenceTable.documents (table : PreferenceTable) (userId : UserId) : PreferenceValues :=
  ((table.findUnique userId).map (·.defaultDocumentInviteVerifications)).getD
    DEFAULT_USER_INVITE_VERIFICATION_PREFERENCES

/-- The meeting preferences of a user, with the default for a user without a row. -/
def PreferenceTable.meetings (table : PreferenceTable) (userId : UserId) : PreferenceValues :=
  ((table.findUnique userId).map (·.defaultMeetingInviteVerifications)).getD
    DEFAULT_USER_INVITE_VERIFICATION_PREFERENCES

section Stored

variable {table : PreferenceTable} {userId : UserId}

@[simp] theorem findUnique_upsert (table : PreferenceTable) (row : UserPreferenceRow) :
    (table.upsert row).findUnique row.userId = some row := by
  unfold PreferenceTable.upsert PreferenceTable.findUnique
  rw [find?_upsertWhere (by simp) (by simp)]
  cases found : table.find? fun other => other.userId == row.userId with
  | none => rfl
  | some other =>
    have same : other.userId = row.userId := by simpa using List.find?_some found
    simp only [Option.map_some, Option.getD_some, same]

theorem findUnique_upsert_other (table : PreferenceTable) {row : UserPreferenceRow}
    (other : row.userId ≠ userId) :
    (table.upsert row).findUnique userId = table.findUnique userId := by
  refine find?_upsertWhere_other (by simp) (by simpa using other) (fun stored matched => ?_) table
  have same : stored.userId = row.userId := by simpa using matched
  simpa [same] using other

theorem normalizeBoth_ok {documents meetings : Option PreferenceValues}
    {response : UserPreferencesResponse} :
    normalizeBoth documents meetings = .ok response ↔
      normalizeUserInviteVerificationPreferences documents "Document invitation defaults" =
          .ok response.defaultDocumentInviteVerifications ∧
        normalizeUserInviteVerificationPreferences meetings "Meeting invitation defaults" =
          .ok response.defaultMeetingInviteVerifications := by
  unfold normalizeBoth
  cases normalizeUserInviteVerificationPreferences documents "Document invitation defaults" with
  | error failure => exact ⟨nofun, fun both => nomatch both.1⟩
  | ok first =>
    cases normalizeUserInviteVerificationPreferences meetings "Meeting invitation defaults" with
    | error failure => exact ⟨nofun, fun both => nomatch both.2⟩
    | ok second =>
      constructor
      · intro same
        cases same
        exact ⟨rfl, rfl⟩
      · rintro ⟨same, sameToo⟩
        cases same
        cases sameToo
        rfl

/-- A read of a table in normal form shows what is stored. -/
theorem formatUserPreferences_eq (canonical : table.Canonical) (userId : UserId) :
    formatUserPreferences (table.findUnique userId) =
      .ok ⟨table.documents userId, table.meetings userId⟩ := by
  refine normalizeBoth_ok.mpr ?_
  unfold PreferenceTable.documents PreferenceTable.meetings
  cases found : table.findUnique userId with
  | none => exact ⟨rfl, rfl⟩
  | some row =>
    obtain ⟨documents, meetings⟩ := canonical row (List.mem_of_find?_eq_some found)
    exact ⟨documents _, meetings _⟩

/-- A patch of a table in normal form is normalised field by field; an omitted field is taken from
the table as it is. -/
theorem patchedPreferences_ok (canonical : table.Canonical) {dto : UpdateUserPreferencesDto}
    {patched : UserPreferencesResponse}
    (merged : patchedPreferences dto (table.findUnique userId) = .ok patched) :
    normalizeUserInviteVerificationPreferences
        (some (dto.defaultDocumentInviteVerifications.getD (table.documents userId)))
          "Document invitation defaults" = .ok patched.defaultDocumentInviteVerifications ∧
      normalizeUserInviteVerificationPreferences
        (some (dto.defaultMeetingInviteVerifications.getD (table.meetings userId)))
          "Meeting invitation defaults" = .ok patched.defaultMeetingInviteVerifications := by
  unfold patchedPreferences at merged
  rw [formatUserPreferences_eq canonical] at merged
  exact normalizeBoth_ok.mp merged

theorem documents_canonical (canonical : table.Canonical) (userId : UserId) :
    GraconAuth.Canonical (table.documents userId) := by
  unfold PreferenceTable.documents
  cases found : table.findUnique userId with
  | none => exact fun _ => rfl
  | some row => exact (canonical row (List.mem_of_find?_eq_some found)).1

theorem meetings_canonical (canonical : table.Canonical) (userId : UserId) :
    GraconAuth.Canonical (table.meetings userId) := by
  unfold PreferenceTable.meetings
  cases found : table.findUnique userId with
  | none => exact fun _ => rfl
  | some row => exact (canonical row (List.mem_of_find?_eq_some found)).2

/-- Saving lists in normal form keeps the table in it. -/
theorem upsert_canonical (canonical : table.Canonical) {row : UserPreferenceRow}
    (documents : GraconAuth.Canonical row.defaultDocumentInviteVerifications)
    (meetings : GraconAuth.Canonical row.defaultMeetingInviteVerifications) :
    (table.upsert row).Canonical := by
  intro stored member
  rcases mem_upsertWhere member with rfl | ⟨old, memberOld, rfl⟩
  · exact ⟨documents, meetings⟩
  · split
    · exact ⟨documents, meetings⟩
    · exact canonical old memberOld

end Stored

/-! ### Runs -/

/-- What a served call keeps to. A read throws nothing but the failure of its query, a patch that
throws leaves the table, and a patch that succeeds saves the normal form of the fields it has and
leaves the field it omits and the rows of the other users. -/
structure KeepsCanonical (served : PreferenceServed) : Prop where
  readThrows : ∀ userId failure, served.request = .getPreferences userId →
    served.outcome = .error failure →
      served.trace = [⟨.userPreferenceFindUnique userId, .error failure⟩]
  readAnswers : ∀ userId response, served.request = .getPreferences userId →
    served.outcome = .ok response →
      response = ⟨served.before.documents userId, served.before.meetings userId⟩
  readKeeps : ∀ userId, served.request = .getPreferences userId → served.after = served.before
  rejected : ∀ userId dto failure, served.request = .updatePreferences userId dto →
    served.outcome = .error failure → served.after = served.before
  saved : ∀ userId dto response, served.request = .updatePreferences userId dto →
    served.outcome = .ok response →
      served.after.findUnique userId = some (response.row userId)
  documents : ∀ userId dto response, served.request = .updatePreferences userId dto →
    served.outcome = .ok response →
      match dto.defaultDocumentInviteVerifications with
      | none => served.after.documents userId = served.before.documents userId
      | some values => normalizeUserInviteVerificationPreferences (some values)
          "Document invitation defaults" = .ok (served.after.documents userId)
  meetings : ∀ userId dto response, served.request = .updatePreferences userId dto →
    served.outcome = .ok response →
      match dto.defaultMeetingInviteVerifications with
      | none => served.after.meetings userId = served.before.meetings userId
      | some values => normalizeUserInviteVerificationPreferences (some values)
          "Meeting invitation defaults" = .ok (served.after.meetings userId)
  others : ∀ userId other dto, served.request = .updatePreferences userId dto → userId ≠ other →
    served.after.findUnique other = served.before.findUnique other

section Runs

variable {table : PreferenceTable} {log : List PreferenceServed} {served : PreferenceServed}

/-- A patch of a table in normal form fails and leaves it, or saves the patched row. -/
theorem serve_updatePreferences (valid : served.Valid preferenceService)
    (canonical : served.before.Canonical) {userId : UserId} {dto : UpdateUserPreferencesDto}
    (asked : served.request = .updatePreferences userId dto) :
    ((∃ failure, served.outcome = .error failure) ∧ served.after = served.before) ∨
      ∃ patched, patchedPreferences dto (served.before.findUnique userId) = .ok patched ∧
        served.after = served.before.upsert (patched.row userId) ∧
        served.outcome = .ok patched := by
  have run := valid.runs
  rw [asked] at run
  rcases runs_updatePreferences run with failed | ⟨patched, merged, after, outcome⟩
  · exact .inl failed
  · obtain ⟨documents, meetings⟩ := patchedPreferences_ok canonical merged
    have formatted : formatUserPreferences (some (patched.row userId)) = .ok patched :=
      normalizeBoth_ok.mpr ⟨(normalizes _ _).canonical _ documents _,
        (normalizes _ _).canonical _ meetings _⟩
    exact .inr ⟨patched, merged, after, outcome.trans formatted⟩

/-- A call keeps the table in normal form. -/
theorem serve_canonical (valid : served.Valid preferenceService)
    (canonical : served.before.Canonical) : served.after.Canonical := by
  cases asked : served.request with
  | getPreferences userId =>
    have run := valid.runs
    rw [asked] at run
    rw [(runs_getPreferences run).1]
    exact canonical
  | updatePreferences userId dto =>
    rcases serve_updatePreferences valid canonical asked with ⟨_, same⟩ | ⟨patched, merged, same, _⟩
    · rw [same]
      exact canonical
    · obtain ⟨documents, meetings⟩ := patchedPreferences_ok canonical merged
      rw [same]
      exact upsert_canonical canonical ((normalizes _ _).canonical _ documents)
        ((normalizes _ _).canonical _ meetings)

theorem serve_keepsCanonical (valid : served.Valid preferenceService)
    (canonical : served.before.Canonical) : KeepsCanonical served := by
  have reads : ∀ userId, served.request = .getPreferences userId →
      Runs preferenceEnvironment (getPreferences userId) served.before served.trace served.outcome
        served.after := by
    intro userId asked
    have run := valid.runs
    rwa [asked] at run
  have saves : ∀ userId dto response, served.request = .updatePreferences userId dto →
      served.outcome = .ok response →
        patchedPreferences dto (served.before.findUnique userId) = .ok response ∧
          served.after = served.before.upsert (response.row userId) := by
    intro userId dto response asked answered
    rcases serve_updatePreferences valid canonical asked with
      ⟨⟨failure, failed⟩, _⟩ | ⟨patched, merged, same, outcome⟩
    · rw [answered] at failed
      cases failed
    · rw [answered] at outcome
      cases outcome
      exact ⟨merged, same⟩
  have stored : ∀ userId dto response, served.request = .updatePreferences userId dto →
      served.outcome = .ok response →
        served.after.findUnique userId = some (response.row userId) := by
    intro userId dto response asked answered
    rw [(saves userId dto response asked answered).2]
    exact findUnique_upsert _ _
  refine ⟨fun userId failure asked failed => ?_, fun userId response asked answered => ?_,
    fun userId asked => (runs_getPreferences (reads userId asked)).1,
    fun userId dto failure asked failed => ?_, stored, fun userId dto response asked answered => ?_,
    fun userId dto response asked answered => ?_, fun userId other dto asked apart => ?_⟩
  · rcases (runs_getPreferences (reads userId asked)).2 with ⟨trace, outcome⟩ | outcome
    · rw [failed] at outcome
      cases outcome
      exact trace
    · rw [failed, formatUserPreferences_eq canonical] at outcome
      cases outcome
  · rcases (runs_getPreferences (reads userId asked)).2 with ⟨_, outcome⟩ | outcome
    · rw [answered] at outcome
      cases outcome
    · rw [answered, formatUserPreferences_eq canonical] at outcome
      exact Except.ok.inj outcome
  · rcases serve_updatePreferences valid canonical asked with ⟨_, same⟩ | ⟨_, _, _, outcome⟩
    · exact same
    · rw [failed] at outcome
      cases outcome
  · have after : served.after.documents userId = response.defaultDocumentInviteVerifications := by
      rw [PreferenceTable.documents, stored userId dto response asked answered]
      rfl
    have normalized :=
      (patchedPreferences_ok canonical (saves userId dto response asked answered).1).1
    rw [after]
    cases given : dto.defaultDocumentInviteVerifications with
    | none =>
      rw [given, Option.getD_none, documents_canonical canonical] at normalized
      exact (Except.ok.inj normalized).symm
    | some values => rwa [given] at normalized
  · have after : served.after.meetings userId = response.defaultMeetingInviteVerifications := by
      rw [PreferenceTable.meetings, stored userId dto response asked answered]
      rfl
    have normalized :=
      (patchedPreferences_ok canonical (saves userId dto response asked answered).1).2
    rw [after]
    cases given : dto.defaultMeetingInviteVerifications with
    | none =>
      rw [given, Option.getD_none, meetings_canonical canonical] at normalized
      exact (Except.ok.inj normalized).symm
    | some values => rwa [given] at normalized
  · rcases serve_updatePreferences valid canonical asked with ⟨_, same⟩ | ⟨_, _, same, _⟩
    · rw [same]
    · rw [same]
      exact findUnique_upsert_other _ apart

theorem serial_canonical (serial : SerialRun preferenceService [] log table) :
    table.Canonical ∧ ∀ served ∈ log, KeepsCanonical served := by
  induction serial with
  | start => exact ⟨by simp [PreferenceTable.Canonical], by simp⟩
  | serve earlier valid inductionHypothesis =>
    obtain ⟨canonical, kept⟩ := inductionHypothesis
    exact ⟨serve_canonical valid canonical,
      List.forall_mem_cons.mpr ⟨serve_keepsCanonical valid canonical, kept⟩⟩

end Runs

/-- The normaliser brings every list into normal form or rejects it, and the calls keep every
stored list in normal form. -/
theorem preferences_stay_canonical {log : List PreferenceServed} {table : PreferenceTable}
    (serial : SerialRun preferenceService [] log table) :
    (∀ values fieldName, Normalizes values fieldName) ∧ table.Canonical ∧
      ∀ served ∈ log, KeepsCanonical served :=
  ⟨normalizes, serial_canonical serial⟩

/-- A patch of the documents that repeats a value, a patch of the meetings that is rejected, and a
read. -/
def patchesAndRead : List (PreferenceRequest × List Bool) := [
  (.updatePreferences 0 ⟨some [.IDENTITY_VERIFICATION, .EMAIL_OTP, .EMAIL_OTP], none⟩,
    [false, false]),
  (.updatePreferences 0 ⟨none, some [.EMAIL_OTP, .NO_VERIFICATION]⟩, [false]),
  (.getPreferences 0, [false])]

/-- The log of that script, newest first, and the table. -/
def patchedAndRead : List PreferenceServed × PreferenceTable :=
  (serveAll preferenceService [] [] patchesAndRead).getD ([], [])

theorem preferences_stay_canonical_patched :
    patchedAndRead.2 = [⟨0, [.EMAIL_OTP, .IDENTITY_VERIFICATION], [.NO_VERIFICATION]⟩] ∧
      (∀ values fieldName, Normalizes values fieldName) ∧ patchedAndRead.2.Canonical ∧
        ∀ served ∈ patchedAndRead.1, KeepsCanonical served :=
  ⟨by decide, preferences_stay_canonical (serveAll_serialRun .start
    (show serveAll preferenceService [] [] patchesAndRead = some patchedAndRead by rfl))⟩

end GraconAuth
