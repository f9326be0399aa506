/-
This file follows a birth date from the answer of a lookup to the responses that show
it, and to the platform id that starts with its year.

A citizen's date is made in local time and printed in universal time, so a server that is
ahead of universal time shows the day before. A foreigner's date comes in universal time
and its year is read in local time, so a server that is behind reads the year before from
the first of January.
-/

import GraconAuth.BirthDates
import GraconAuth.StoredIdentity

namespace GraconAuth

open CalendarDates CitizenService Interleaving Program
open UsersService (RegistrationIdentityRecord RegisterDto)
open VerificationService (SubmitVerificationDto)

variable (runtime : Runtime)

/-! ### What a profile shows -/

/-- The birth date of a profile is the one of an identity that was read. -/
def ReportsProfile (userId : UserId) (past : List ServiceEvent)
    (outcome : Except Failure UserProfile) : Prop :=
  ∀ profile shown, outcome = .ok profile → profile.citizenIdentity = some shown →
    ∃ identity, ReadIdentity userId past identity ∧ shown.dateOfBirth = identity.dateOfBirth

def showsProfile (userId : UserId) (past : List ServiceEvent) : Effect → Prop
  | .respond outcome => ∀ profile, outcome = .ok (.profile profile) →
    ReportsProfile userId past (.ok profile)
  | _ => True

/-- The rule for each request: only profiles are looked at. -/
def showsFor : Request → List ServiceEvent → Effect → Prop
  | .getProfile jwt | .updateProfile jwt _ => showsProfile jwt.payload.sub
  | _ => fun _ _ => True

section Traversal

variable {runtime} {userId : UserId} {past : List ServiceEvent}

theorem showsProfile_error (failure : Failure) : ReportsProfile userId past (.error failure) :=
  fun _ _ same => by cases same

/-- The effects that are no response. -/
theorem showsProfile_quiet {effect : Effect} (quiet : effect.Quiet) :
    showsProfile userId past effect := by
  cases effect with
  | callEngine _ | respond _ => exact quiet.elim
  | _ => trivial

/-- A part without a response, then the rest. -/
theorem silent_bind {First : Type} {program : Async First} {next : First → Async UserProfile}
    (uses : program.Uses Effect.Quiet)
    (rest : ∀ now result, Extends Effect.Quiet past now →
      (next result).Follows (conduct (showsProfile userId)) (ReportsProfile userId) now) :
    (program >>= next).Follows (conduct (showsProfile userId)) (ReportsProfile userId) past :=
  uses.follows_bind (fun _ _ _ quiet => showsProfile_quiet quiet) rest fun _ failure _ =>
    showsProfile_error failure

theorem getProfile_follows : (UsersService.getProfile runtime userId).Follows
    (conduct (showsProfile userId)) (ReportsProfile userId) past := by
  refine follows_perform_bind.mpr ⟨trivial, fun user _ => ?_, fun failure _ =>
    showsProfile_error failure⟩
  cases user with
  | none => exact showsProfile_error _
  | some record =>
    refine silent_bind ((decryptPid_uses runtime record).mono fun _ => Effect.Harmless.quiet)
      fun _ _ first => silent_bind ((decryptFin_uses runtime record).mono fun _ =>
        Effect.Harmless.quiet) fun _ _ second =>
      silent_bind ((resolveProfileImageAccess_uses _).mono fun _ => Effect.Harmless.quiet)
        fun _ image third => ?_
    rintro profile shown ⟨⟩ has
    obtain ⟨identity, stored, rfl⟩ := Option.map_eq_some_iff.mp has
    have read : ReadIdentity userId (⟨.userFindUnique (.byId userId), .ok (some record)⟩ :: past)
        identity := ⟨record, List.mem_cons_self, stored⟩
    exact ⟨identity, ((read.grown first).grown second).grown third, rfl⟩

theorem updateProfile_follows (dto : UsersService.UpdateProfileDto) :
    (UsersService.updateProfile runtime userId dto).Follows (conduct (showsProfile userId))
      (ReportsProfile userId) past := by
  refine follows_perform_bind.mpr ⟨trivial, fun user _ => ?_, fun failure _ =>
    showsProfile_error failure⟩
  cases user with
  | none => exact showsProfile_error _
  | some record =>
    dsimp only
    split
    · exact silent_bind (uses_perform trivial) fun _ _ _ => getProfile_follows
    · refine silent_bind ((rejectTakenEmail_uses _ _).mono fun _ => Effect.Harmless.quiet)
        fun _ _ _ => silent_bind (uses_perform trivial) fun _ _ _ => silent_bind ?_
          fun _ _ _ => getProfile_follows
      refine (replaceVerificationToken_uses runtime _ _ _).mono fun effect inside => ?_
      rcases inside with harmless | links
      · exact harmless.quiet
      · cases effect with
        | callEngine _ | respond _ => exact links.elim
        | _ => trivial

end Traversal

/-- Every call keeps to the rule. -/
theorem serve_shows (request : Request) :
    (serve runtime request).Abides (conduct (showsFor request)) [] := by
  cases request with
  | getProfile jwt =>
    refine serve_subject_follows runtime rfl (fun _ expected => expected) trivial
      (fun _ _ _ same => by cases same) fun past =>
      follows_bind.mpr (getProfile_follows.weaken fun now outcome reports => ?_)
    cases outcome with
    | ok result =>
      rintro _ ⟨⟩
      exact reports
    | error failure =>
      rintro _ same
      cases same
  | updateProfile jwt dto =>
    refine serve_subject_follows runtime rfl (fun _ expected => expected) trivial
      (fun _ _ _ same => by cases same) fun past =>
      follows_bind.mpr (updateProfile_follows dto |>.weaken fun now outcome reports => ?_)
    cases outcome with
    | ok result =>
      rintro _ ⟨⟩
      exact reports
    | error failure =>
      rintro _ same
      cases same
  | _ => exact (uses_any _).abides fun _ _ _ => trivial

/-! ### What is shown of an account -/

/-- An entry shows this text of the birth date of a user: in the result of a submission, or in the
profile as JSON. -/
inductive ShowsBirthDate (entry : ServiceEntry) (userId : UserId) : String → Prop
  | submission {jwt : Jwt} {dto : SubmitVerificationDto} {ipAddress : String}
      {result : VerificationResult} {info : VerificationIdInfo}
      (request : entry.request = .submitVerification jwt dto ipAddress)
      (subject : jwt.payload.sub = userId)
      (effect : entry.effect = .respond (.ok (.verification result)))
      (reported : result.idInfo = some info) : ShowsBirthDate entry userId info.dateOfBirth
  | profile {jwt : Jwt} {profile : UserProfile} {shown : ProfileIdentity}
      (request : entry.request = .getProfile jwt)
      (subject : jwt.payload.sub = userId)
      (effect : entry.effect = .respond (.ok (.profile profile)))
      (reported : profile.citizenIdentity = some shown) :
      ShowsBirthDate entry userId (toISOString shown.dateOfBirth)
  | updatedProfile {jwt : Jwt} {dto : UsersService.UpdateProfileDto} {profile : UserProfile}
      {shown : ProfileIdentity}
      (request : entry.request = .updateProfile jwt dto)
      (subject : jwt.payload.sub = userId)
      (effect : entry.effect = .respond (.ok (.profile profile)))
      (reported : profile.citizenIdentity = some shown) :
      ShowsBirthDate entry userId (toISOString shown.dateOfBirth)

/-- A registration has resolved this identity and has been answered with this platform id. -/
def Registered (world : ServiceWorld) (identity : RegistrationIdentityRecord) (userId : UserId)
    (platformId : String) : Prop :=
  ∃ lookup ∈ world.history, ∃ answer ∈ world.history, ∃ dto result,
    lookup.thread = answer.thread ∧ resolved lookup.event = some identity ∧
      answer.request = .register dto ∧ answer.effect = .respond (.ok (.registration result)) ∧
      result.userId = userId ∧ result.platformId = platformId

section Runs

variable {runtime} {pool : ServicePool} {clock : Timestamp}
  (reachable : Reachable (service runtime) Regime.free (State.empty clock) pool)

include reachable

/-- What is shown is what an identity of the user was read with. -/
theorem shown_identity {entry : ServiceEntry} {userId : UserId} {text : String}
    (member : entry ∈ pool.world.history) (shows : ShowsBirthDate entry userId text) :
    ∃ identity, ReadIdentity userId (pool.world.past entry.thread) identity ∧
      text = toISOString identity.dateOfBirth := by
  have submitting := reachable_chronicle _ reachable fun request _ => serve_submits _ request
  have showing := reachable_chronicle _ reachable fun request _ => serve_shows _ request
  obtain ⟨_, _, submitted, insideSubmitted⟩ := submitting.recalls member
  obtain ⟨_, _, shown, insideShown⟩ := showing.recalls member
  have submits : submitsFor _ entry.request _ entry.effect := submitted.ruled
  have profiles : showsFor entry.request _ entry.effect := shown.ruled
  cases shows with
  | submission request subject effect reported =>
    rw [request, effect] at submits
    obtain ⟨identity, ⟨record, past, stored⟩, same⟩ := submits _ rfl
    cases reported.symm.trans same
    rw [subject] at past
    exact ⟨identity, ⟨record, World.past_subset insideSubmitted _ past, stored⟩, rfl⟩
  | profile request subject effect reported =>
    rw [request, effect] at profiles
    obtain ⟨identity, ⟨record, past, stored⟩, same⟩ := profiles _ rfl _ _ rfl reported
    rw [subject] at past
    exact ⟨identity, ⟨record, World.past_subset insideShown _ past, stored⟩, by rw [same]⟩
  | updatedProfile request subject effect reported =>
    rw [request, effect] at profiles
    obtain ⟨identity, ⟨record, past, stored⟩, same⟩ := profiles _ rfl _ _ rfl reported
    rw [subject] at past
    exact ⟨identity, ⟨record, World.past_subset insideShown _ past, stored⟩, by rw [same]⟩

/-- The account of a registration has the birth date that was resolved, and its platform id starts
with the year. -/
theorem registered_account {identity : RegistrationIdentityRecord} {userId : UserId}
    {platformId : String} (registered : Registered pool.world identity userId platformId) :
    (∃ created ∈ pool.world.history, ∃ data,
      created.event = ⟨.registerTransaction data, .ok userId⟩ ∧
        data.dateOfBirth = identity.dateOfBirth) ∧
    ∃ digits, platformId = platformIdOf runtime identity.dateOfBirth digits := by
  obtain ⟨lookup, memberLookup, answer, memberAnswer, dto, result, same, resolves, request, effect,
    rfl, rfl⟩ := registered
  have registering := reachable_chronicle _ reachable fun request _ => serve_registers _ request
  obtain ⟨before, _, admissible, inside⟩ := registering.recalls memberAnswer
  have ruled : registersFor runtime answer.request (before.past answer.thread) answer.effect :=
    admissible.ruled
  rw [request, effect] at ruled
  obtain ⟨ended, ends, outcome⟩ := ruled
  cases ended with
  | error failure => cases outcome
  | ok ended =>
    cases outcome
    cases ends with
    | done accepted found born created drawn platformId =>
      obtain ⟨event, past, seen⟩ := List.exists_of_findSome?_eq_some found
      obtain ⟨other, memberOther, thread, rfl⟩ := World.mem_past.mp past
      have asked := (registering.request_of_thread memberLookup memberAnswer same).trans request
      cases resolved_once reachable (inside memberOther) memberLookup (thread.trans same.symm) asked
        seen resolves
      obtain ⟨event, past, makes⟩ := List.exists_of_findSome?_eq_some created
      obtain ⟨creation, memberCreation, _, rfl⟩ := World.mem_past.mp past
      refine ⟨⟨creation, inside memberCreation, _, createdAccount_event makes, born⟩, ?_⟩
      rw [platformId, born]
      exact ⟨_, rfl⟩

end Runs

/-! ### What the dates come to -/

/-- The runtime of a server in a time zone. -/
def Runtime.inZone (runtime : Runtime) (zone : TimeZone) : Runtime :=
  { runtime with getFullYear := zone.getFullYear }

/-- The citizen API has delivered the birth date as `DD/MM/YYYY`. -/
structure BornAsCitizen (zone : TimeZone) (identity : RegistrationIdentityRecord)
    (day month year : Nat) : Prop where
  national : identity.identityType = .NID
  existing : Exists day month year
  delivered : parseDateOfBirth zone (writeDate day month year) = .ok identity.dateOfBirth

/-- The foreign identity service has delivered the birth date as its midnight in universal time. -/
structure BornAsForeigner (identity : RegistrationIdentityRecord) (day month year : Nat) :
    Prop where
  foreign : identity.identityType = .FIN
  fromOne : 1 ≤ month
  valid : Valid year (month - 1) day
  delivered : identity.dateOfBirth = makeDay year (month - 1 : Nat) day * msPerDay

/-- The platform id starts with the year. -/
def StartsWithYear (platformId : String) (year : Nat) : Prop :=
  (toString year).toList <+: platformId.toList

section Dates

variable {ahead : Int} {bounds : -msPerDay < ahead ∧ ahead < msPerDay} {day month year : Nat}
  {identity : RegistrationIdentityRecord}

/-- The local midnight that a citizen's date is taken for. -/
theorem citizen_midnight (born : BornAsCitizen (.fixed ahead bounds) identity day month year) :
    identity.dateOfBirth = (TimeZone.fixed ahead bounds).utc
      (makeDay (parsedYear year) (month - 1 : Nat) day * msPerDay) :=
  Except.ok.inj (born.delivered.symm.trans (parseDateOfBirth_existing born.existing))

/-- A date that is not taken for one of the twentieth century is made in its year. -/
theorem parsedYear_of_ge (late : 100 ≤ year) : parsedYear year = year := by
  rw [parsedYear, if_neg (by omega)]

/-- The day of a date is in the years that four digits write, and so is the day before, and one of
the first century is taken for another. -/
theorem parsed_day (existing : Exists day month year) :
    dayFromYear 100 ≤ makeDay (parsedYear year) (month - 1 : Nat) day ∧
      makeDay (parsedYear year) (month - 1 : Nat) day < dayFromYear 10000 ∧
      (year < 100 → makeDay year (month - 1 : Nat) day + 1 <
        makeDay (parsedYear year) (month - 1 : Nat) day) := by
  have inYear := existing.valid.inYear
  have positive := existing.valid.positive
  have days := existing.day_le
  obtain ⟨_, before⟩ := yearFromDay_spec (makeDay year (month - 1 : Nat) day)
  rw [yearFromDay_makeDay existing.valid] at before
  rcases Nat.lt_or_ge year 100 with early | late
  · have parsed : parsedYear year = 1900 + year := by rw [parsedYear, if_pos early]
    rw [parsed, makeDay_of_lt inYear]
    have place := daysBeforeMonth_le (1900 + year) (month - 1)
    have one := leapDay_cases (1900 + year)
    have since := dayFromYear_mono (show (1900 : Int) ≤ 1900 + year by omega)
    have until_ := dayFromYear_mono (show 1900 + (year : Int) ≤ 1999 by omega)
    have ancient := dayFromYear_mono (show (year : Int) + 1 ≤ 100 by omega)
    have ages : dayFromYear 100 + 1 < dayFromYear 1900 ∧
        dayFromYear 1999 + 397 < dayFromYear 10000 := by decide
    refine ⟨?_, ?_, fun _ => ?_⟩ <;> omega
  · rw [parsedYear_of_ge late]
    have since := dayFromYear_mono (show (100 : Int) ≤ year by omega)
    have until_ := dayFromYear_mono (show (year : Int) + 1 ≤ 10000 by
      have := existing.fourDigits
      omega)
    have start := (daysBeforeMonth_le year (month - 1)).1
    have placed : makeDay year (month - 1 : Nat) day = _ := makeDay_of_lt inYear
    refine ⟨?_, ?_, fun early => ?_⟩ <;> omega

/-- The date is shown as it was delivered if it is not taken for one of the twentieth century, and
the server is not ahead of universal time. -/
theorem citizen_shown_iff (born : BornAsCitizen (.fixed ahead bounds) identity day month year) :
    datePart (toISOString identity.dateOfBirth) = isoDate year (month - 1) day ↔
      100 ≤ year ∧ ahead ≤ 0 := by
  obtain ⟨low, high, other⟩ := parsed_day born.existing
  have years := born.existing.fourDigits
  rw [datePart_toISOString, citizen_midnight born, TimeZone.dayOfTime_fixed_utc]
  have shown : 0 ≤ yearFromDay (if 0 < ahead then
        makeDay (parsedYear year) (month - 1 : Nat) day - 1
      else makeDay (parsedYear year) (month - 1 : Nat) day) ∧
      yearFromDay (if 0 < ahead then makeDay (parsedYear year) (month - 1 : Nat) day - 1
      else makeDay (parsedYear year) (month - 1 : Nat) day) ≤ 9999 := by
    constructor
    · calc (0 : Int) ≤ yearFromDay (dayFromYear 100 - 1) := by decide
        _ ≤ _ := yearFromDay_mono (by split <;> omega)
    · calc _ ≤ yearFromDay (dayFromYear 10000 - 1) := yearFromDay_mono (by split <;> omega)
        _ = 9999 := by decide
  rw [isoDay_eq_iff born.existing.valid (by omega) shown]
  rcases Nat.lt_or_ge year 100 with early | late
  · have apart := other early
    refine iff_of_false ?_ fun right => absurd right.1 (by omega)
    split <;> omega
  · rw [parsedYear_of_ge late]
    split <;> omega

theorem citizen_year (born : BornAsCitizen (.fixed ahead bounds) identity day month year)
    (late : 100 ≤ year) :
    (TimeZone.fixed ahead bounds).getFullYear identity.dateOfBirth = year := by
  have kept := TimeZone.fixed_keepsDay bounds (makeDay year (month - 1 : Nat) day)
  rw [TimeZone.KeepsDay] at kept
  rw [citizen_midnight born, parsedYear_of_ge late, TimeZone.getFullYear, kept,
    yearFromDay_makeDay born.existing.valid]

/-- The year of a foreigner's date, read in local time. -/
theorem foreign_year (born : BornAsForeigner identity day month year) :
    (TimeZone.fixed ahead bounds).getFullYear identity.dateOfBirth =
      if ahead < 0 ∧ month = 1 ∧ day = 1 then (year : Int) - 1 else year := by
  have fromOne := born.fromOne
  rw [born.delivered, TimeZone.getFullYear, TimeZone.dayOfTime_fixed_localTime]
  by_cases behind : ahead < 0
  · rw [if_pos behind, yearFromDay_makeDay_pred born.valid]
    refine if_congr ?_ rfl rfl
    omega
  · rw [if_neg behind, yearFromDay_makeDay born.valid, if_neg (fun all => behind all.1)]

/-- A text that starts with the numeral of the year before does not start with that of the year. -/
theorem not_starts_pred (year : Nat) (rest : List Char) :
    ¬ (toString year).toList <+: (toString ((year : Int) - 1)).toList ++ rest := by
  cases year with
  | zero =>
    rintro ⟨tail, same⟩
    have nought : (toString 0).toList = ['0'] := by decide
    have minus : (toString (((0 : Nat) : Int) - 1)).toList = ['-', '1'] := by decide
    rw [nought, minus] at same
    exact absurd (List.cons.inj same).1 (by decide)
  | succ year =>
    have before : ((year + 1 : Nat) : Int) - 1 = (year : Int) := by omega
    rw [before]
    exact Numerals.not_prefix_pred rest

/-- The platform id of a foreigner starts with the year if the server is not behind universal time
or the day is not the first of a year. -/
theorem foreign_year_iff (born : BornAsForeigner identity day month year) (rest : List Char) :
    (toString year).toList <+:
        (toString ((TimeZone.fixed ahead bounds).getFullYear identity.dateOfBirth)).toList ++ rest ↔
      0 ≤ ahead ∨ ¬ (month = 1 ∧ day = 1) := by
  rw [foreign_year born]
  split
  · rename_i first
    refine iff_of_false (not_starts_pred year rest) ?_
    rintro (notBehind | notFirst)
    · omega
    · exact notFirst first.2
  · rename_i other
    refine iff_of_true (List.prefix_append _ _) ?_
    omega

end Dates

/-! ### The trips -/

/-- The birth date of every registered account survives: a citizen's is shown as it was delivered,
and every platform id starts with the year. -/
def BirthDatesSurvive (zone : TimeZone) (world : ServiceWorld) : Prop :=
  ∀ identity userId platformId, Registered world identity userId platformId →
    ∀ day month year,
      (BornAsCitizen zone identity day month year → ∀ entry ∈ world.history, ∀ text,
        ShowsBirthDate entry userId text →
          datePart text = isoDate year (month - 1) day ∧ StartsWithYear platformId year) ∧
      (BornAsForeigner identity day month year → StartsWithYear platformId year)

/-- **A citizen's birth date is shown as it was delivered, and the platform id starts with its
year, exactly if the year has more than two digits after the noughts and the server is not ahead of
universal time. A foreigner's platform id starts with the year exactly if the server is not behind
universal time or the day is not the first of a year.** -/
theorem birth_dates_survive_iff (runtime : Runtime) (ahead : Int)
    (bounds : -msPerDay < ahead ∧ ahead < msPerDay) (clock : Timestamp) (pool : ServicePool)
    (reachable : Reachable (service (runtime.inZone (.fixed ahead bounds))) Regime.free
      (State.empty clock) pool)
    {identity : RegistrationIdentityRecord} {userId : UserId} {platformId : String}
    (registered : Registered pool.world identity userId platformId) (day month year : Nat) :
    (BornAsCitizen (.fixed ahead bounds) identity day month year →
      ∀ entry ∈ pool.world.history, ∀ text, ShowsBirthDate entry userId text →
        (datePart text = isoDate year (month - 1) day ∧ StartsWithYear platformId year ↔
          100 ≤ year ∧ ahead ≤ 0)) ∧
    (BornAsForeigner identity day month year →
      (StartsWithYear platformId year ↔ 0 ≤ ahead ∨ ¬ (month = 1 ∧ day = 1))) := by
  obtain ⟨⟨created, memberCreated, data, event, same⟩, digits, rfl⟩ :=
    registered_account reachable registered
  have platformLetters : (platformIdOf (runtime.inZone (.fixed ahead bounds)) identity.dateOfBirth
      digits).toList = (toString ((TimeZone.fixed ahead bounds).getFullYear
        identity.dateOfBirth)).toList ++ (digits.toList ++ "1".toList) := by
    rw [platformIdOf, String.toList_append, String.toList_append, List.append_assoc]
    rfl
  unfold StartsWithYear
  rw [platformLetters]
  refine ⟨fun born entry member text shows => ?_, fun born => foreign_year_iff born _⟩
  obtain ⟨row, read, rfl⟩ := shown_identity reachable member shows
  have submitting := reachable_chronicle _ reachable fun request _ => serve_submits _ request
  obtain ⟨id, rfl⟩ := read_created submitting memberCreated event read
  have kept : (data.identity id userId).dateOfBirth = identity.dateOfBirth := same
  rw [kept, citizen_shown_iff born]
  constructor
  · exact fun right => right.1
  · intro right
    refine ⟨right, ?_⟩
    rw [citizen_year born right.1]
    exact List.prefix_append _ _

/-! ### A citizen who registers and submits -/

/-- The registration of an identity is in the history. -/
def registeredIn (world : ServiceWorld) (identity : RegistrationIdentityRecord) (userId : UserId)
    (platformId : String) : Bool :=
  world.history.any fun lookup => world.history.any fun answer =>
    lookup.thread == answer.thread && resolved lookup.event == some identity &&
      match answer.request, answer.effect with
      | .register _, .respond (.ok (.registration result)) =>
        result.userId == userId && result.platformId == platformId
      | _, _ => false

theorem registered_of_in {world : ServiceWorld} {identity : RegistrationIdentityRecord}
    {userId : UserId} {platformId : String}
    (found : registeredIn world identity userId platformId = true) :
    Registered world identity userId platformId := by
  unfold registeredIn at found
  simp only [List.any_eq_true, Bool.and_eq_true, beq_iff_eq] at found
  obtain ⟨lookup, memberLookup, answer, memberAnswer, ⟨same, resolves⟩, answers⟩ := found
  split at answers
  · rename_i dto result request effect
    simp only [Bool.and_eq_true, beq_iff_eq] at answers
    exact ⟨lookup, memberLookup, answer, memberAnswer, dto, result, same, resolves, request, effect,
      answers.1, answers.2⟩
  · cases answers

/-- A submission of the user shows the text. -/
def showsIn (world : ServiceWorld) (userId : UserId) (text : String) : Bool :=
  world.history.any fun entry =>
    match entry.request, entry.effect with
    | .submitVerification jwt _ _, .respond (.ok (.verification result)) =>
      jwt.payload.sub == userId && (result.idInfo.map (·.dateOfBirth)) == some text
    | _, _ => false

theorem shows_of_in {world : ServiceWorld} {userId : UserId} {text : String}
    (found : showsIn world userId text = true) :
    ∃ entry ∈ world.history, ShowsBirthDate entry userId text := by
  unfold showsIn at found
  obtain ⟨entry, member, shows⟩ := List.any_eq_true.mp found
  split at shows
  · rename_i jwt dto ipAddress result request effect
    simp only [Bool.and_eq_true, beq_iff_eq] at shows
    obtain ⟨info, reported, rfl⟩ := Option.map_eq_some_iff.mp shows.2
    exact ⟨entry, member, .submission request shows.1 effect reported⟩
  · cases shows

/-- A citizen with a birth date registers, verifies the email and submits the number. -/
def bornPool (ahead : Int) (bounds : -msPerDay < ahead ∧ ahead < msPerDay)
    (dateOfBirth : Timestamp) : ServicePool :=
  (Pool.start (State.empty 0)).playAll
    (service (legibleRuntime.inZone (.fixed ahead bounds))) .lax
    (.accept (.register ⟨some "N1", none, "b@x", none, "pw"⟩) ::
      steps 0 [{ citizen := ⟨"Ann", "Lee", "F", dateOfBirth, "RW"⟩ }, {}, {}, {}, {}, {}, {},
        { text := "r0" }, {}, {}, {}, {}] ++
    .accept (.verifyEmail ⟨0, "r0"⟩) ::
      steps 1 [{}, {}, {}, {}, {}, { text := "r1" }, {}, {}, {}] ++
    .accept submission :: steps 2 (List.replicate 19 {}))

def bornIdentity (dateOfBirth : Timestamp) : RegistrationIdentityRecord where
  identityType := .NID
  identityNumber := "N1"
  surName := "Ann"
  postNames := "Lee"
  sex := "F"
  dateOfBirth := dateOfBirth
  countryOfBirth := "RW"

theorem existing_sample : Exists 1 2 1990 := ⟨by decide, by decide, by decide⟩

/-- On a server at universal time a citizen of the first of February is shown so. -/
theorem birth_dates_survive_sample :
    (∃ entry ∈ (bornPool 0 (by decide) (makeDay 1990 1 1 * msPerDay)).world.history,
      ShowsBirthDate entry 0 "1990-02-01T00:00:00.000Z") ∧
    datePart "1990-02-01T00:00:00.000Z" = isoDate 1990 1 1 ∧ StartsWithYear "19901" 1990 := by
  have registered : Registered (bornPool 0 (by decide) (makeDay 1990 1 1 * msPerDay)).world
      (bornIdentity (makeDay 1990 1 1 * msPerDay)) 0 "19901" :=
    registered_of_in (by decide +kernel)
  have shows := shows_of_in (show showsIn (bornPool 0 (by decide) (makeDay 1990 1 1 *
    msPerDay)).world 0 "1990-02-01T00:00:00.000Z" by decide +kernel)
  refine ⟨shows, ?_⟩
  obtain ⟨entry, member, shows⟩ := shows
  refine ((birth_dates_survive_iff legibleRuntime 0 (by decide) 0 _
    (Pool.playAll_reachable Referee.lax_upholds _ _) registered 1 2 1990).1 ⟨rfl, existing_sample,
      ?_⟩ entry member _ shows).mpr ⟨by decide, le_rfl⟩
  exact (parseDateOfBirth_existing existing_sample).trans rfl

/-- On a server that is two hours ahead the citizen is shown with the day before. -/
theorem not_birth_dates_survive : ¬ ∀ (runtime : Runtime) (ahead : Int)
    (bounds : -msPerDay < ahead ∧ ahead < msPerDay) (clock : Timestamp) (pool : ServicePool),
    Reachable (service (runtime.inZone (.fixed ahead bounds))) Regime.free (State.empty clock)
      pool → BirthDatesSurvive (.fixed ahead bounds) pool.world := by
  intro survive
  have registered : Registered (bornPool 7200000 (by decide)
      (makeDay 1990 1 1 * msPerDay - 7200000)).world
      (bornIdentity (makeDay 1990 1 1 * msPerDay - 7200000)) 0 "19901" :=
    registered_of_in (by decide +kernel)
  obtain ⟨entry, member, shows⟩ := shows_of_in (show showsIn (bornPool 7200000 (by decide)
    (makeDay 1990 1 1 * msPerDay - 7200000)).world 0 "1990-01-31T22:00:00.000Z" by decide +kernel)
  have born : BornAsCitizen (.fixed 7200000 (by decide))
      (bornIdentity (makeDay 1990 1 1 * msPerDay - 7200000)) 1 2 1990 :=
    ⟨rfl, existing_sample, (parseDateOfBirth_existing existing_sample).trans rfl⟩
  have shown := ((survive legibleRuntime 7200000 (by decide) 0 _
    (Pool.playAll_reachable Referee.lax_upholds _ _) _ 0 _ registered 1 2 1990).1 born entry
      member _ shows).1
  revert shown
  decide +kernel

end GraconAuth
