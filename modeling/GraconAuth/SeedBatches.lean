/-
This file embeds the generator of the fake verified users and the script that stores
them, and proves that a batch has no collisions and that a second run stores nothing.

The emails and the phone numbers are drawn until they are new, so that they differ
from the reserved ones and from one another. The numbers of the identities are not
drawn: the digits before the sequence are always nine, so the sequence tells the
numbers apart, and a second run looks for the same numbers and finds them all.
-/

import GraconAuth.CalendarDates
import GraconAuth.Numerals
import GraconAuth.Seeding
import GraconAuth.Server

namespace GraconAuth

open CalendarDates Numerals

/-! ### The generator -/

namespace FakeVerifiedUsers

def RWANDAN_SURNAMES : List String := [
  "HABIMANA", "MUGISHA", "UWASE", "NIYONZIMA", "IRADUKUNDA", "MUKAMANA", "KAYITESI", "NDAYISABA",
  "BIZIMANA", "TUYISHIME", "UWIMANA", "HAKIZIMANA", "NSENGIYUMVA", "MUREKATETE", "ISHIMWE",
  "MUTUYIMANA", "NIYONKURU", "MUKESHIMANA", "GASANA", "RUTAYISIRE"]

def GIVEN_NAMES : List String := [
  "Daniel", "Salomon", "Aline", "Jean", "Grace", "Amina", "Yusuf", "Emmanuel", "Claudine",
  "Patrick", "Immaculee", "Olivier", "Nadine", "Theogene", "Fatuma", "Eric", "Alice", "Moses",
  "Sarah", "Ange"]

def RWANDAN_PHONE_PREFIXES : List String := ["+25078", "+25072", "+25073"]

/-- What a run has reserved, and the random draws that are left. -/
structure Reserved where
  emails : List String
  phones : List String
  draws : List Nat

/-- `randomInt(min, max)` -/
def randomInt (min max draw : Nat) : Nat := min + draw % (max - min)

/-- Digits drawn one by one. -/
def randomDigits (draws : List Nat) : String :=
  String.join (draws.map fun draw => toString (randomInt 0 10 draw))

/-- The loop over candidate emails. A loop that runs out of draws has not finished. -/
def retryEmail (base : String) (existingEmails : List String) :
    String → List Nat → Option (String × List Nat)
  | email, [] => if existingEmails.contains email then none else some (email, [])
  | email, draw :: draws =>
    if existingEmails.contains email then
      retryEmail base existingEmails (base ++ toString (randomInt 100 9999 draw) ++ "@gmail.com")
        draws
    else some (email, draw :: draws)

def generateFakeVerifiedUserEmail (surName givenName : String) (reserved : Reserved) :
    Option (String × Reserved) := do
  let base := String.ofList ((surName ++ givenName).toLower.toList.filter fun letter =>
    'a' ≤ letter && letter ≤ 'z')
  let (email, draws) ← retryEmail base reserved.emails (base ++ "@gmail.com") reserved.draws
  return (email, { reserved with emails := email :: reserved.emails, draws := draws })

/-- The loop over candidate numbers, each of a prefix and seven digits. -/
def retryPhoneNumber (existingPhones : List String) : List Nat → Option (String × List Nat)
  | start :: first :: second :: third :: fourth :: fifth :: sixth :: seventh :: draws =>
    let phoneNumber := RWANDAN_PHONE_PREFIXES[randomInt 0 RWANDAN_PHONE_PREFIXES.length start]!
      ++ randomDigits [first, second, third, fourth, fifth, sixth, seventh]
    if existingPhones.contains phoneNumber then retryPhoneNumber existingPhones draws
    else some (phoneNumber, draws)
  | _ => none

def generateFakeVerifiedUserPhoneNumber (reserved : Reserved) : Option (String × Reserved) := do
  let (phoneNumber, draws) ← retryPhoneNumber reserved.phones reserved.draws
  return (phoneNumber, { reserved with phones := phoneNumber :: reserved.phones, draws := draws })

variable (zone : TimeZone)

def generateFakeVerifiedUserNid (index : Nat) (dateOfBirth : Timestamp) (sex : String) : String :=
  let year := toString (zone.getFullYear dateOfBirth)
  let month := padStart 2 (toString (zone.getMonth dateOfBirth + 1))
  let day := padStart 2 (toString (zone.getDate dateOfBirth))
  let sexDigit := if sex = "M" then "1" else "2"
  let sequence := padStart 7 (toString (9000000 + index))
  sexDigit ++ year ++ month ++ day ++ sequence

/-- `PidService.generate` -/
def generatePid (dateOfBirth : Timestamp) (reserved : Reserved) : Option (String × Reserved) :=
  if reserved.draws.length < 6 then none
  else some (toString (zone.getFullYear dateOfBirth) ++ randomDigits (reserved.draws.take 6) ++ "1",
    { reserved with draws := reserved.draws.drop 6 })

def birthDate (index : Nat) : Timestamp :=
  makeDay (1975 + (index % 28 : Nat)) (index % 12 : Nat) ((index % 27 : Nat) + 1) * msPerDay

def sexOf (index : Nat) : String := if index % 2 = 0 then "M" else "F"

/-- One element of the array. -/
def generateFakeVerifiedUser (index : Nat) (reserved : Reserved) :
    Option (FakeVerifiedUserInput × Reserved) := do
  let surName := RWANDAN_SURNAMES[index % RWANDAN_SURNAMES.length]!
  let givenName := GIVEN_NAMES[index * 7 % GIVEN_NAMES.length]!
  let dateOfBirth := birthDate index
  let sex := sexOf index
  let nid := generateFakeVerifiedUserNid zone (index + 1) dateOfBirth sex
  let (pid, reserved) ← generatePid zone dateOfBirth reserved
  let (email, reserved) ← generateFakeVerifiedUserEmail surName givenName reserved
  let (phoneNumber, reserved) ← generateFakeVerifiedUserPhoneNumber reserved
  return ({
    email := email
    phoneNumber := phoneNumber
    nid := nid
    pid := pid
    surName := surName
    postNames := givenName
    sex := sex
    dateOfBirth := dateOfBirth }, reserved)

/-- The elements from an index on. -/
def generateFrom : Nat → Nat → Reserved → Option (List FakeVerifiedUserInput)
  | 0, _, _ => some []
  | count + 1, index, reserved => do
    let (user, reserved) ← generateFakeVerifiedUser zone index reserved
    let users ← generateFrom count (index + 1) reserved
    return user :: users

def generateFakeVerifiedUsers (count : Nat) (existingEmails existingPhones : List String)
    (draws : List Nat) : Option (List FakeVerifiedUserInput) :=
  generateFrom zone count 0 ⟨existingEmails, existingPhones, draws⟩

end FakeVerifiedUsers

open FakeVerifiedUsers

variable {zone : TimeZone}

/-! ### One user -/

/-- The number of the identity at an index. -/
def nidAt (zone : TimeZone) (index : Nat) : String :=
  generateFakeVerifiedUserNid zone (index + 1) (birthDate index) (sexOf index)

/-- A loop that finishes has found a new email. -/
theorem retryEmail_fresh {base email result : String} {existing : List String}
    {draws rest : List Nat}
    (finished : retryEmail base existing email draws = some (result, rest)) :
    result ∉ existing := by
  induction draws generalizing email with
  | nil =>
    rw [retryEmail] at finished
    split at finished
    · cases finished
    · rename_i free
      cases finished
      simpa using free
  | cons draw draws ih =>
    rw [retryEmail] at finished
    split at finished
    · exact ih finished
    · rename_i free
      cases finished
      simpa using free

/-- A loop that finishes has found a new number. -/
theorem retryPhoneNumber_fresh {result : String} {existing : List String} {draws rest : List Nat}
    (finished : retryPhoneNumber existing draws = some (result, rest)) : result ∉ existing := by
  fun_induction retryPhoneNumber existing draws with
  | case1 start first second third fourth fifth sixth seventh draws phoneNumber taken ih =>
    exact ih finished
  | case2 start first second third fourth fifth sixth seventh draws phoneNumber free =>
    obtain ⟨rfl, -⟩ := Prod.mk.inj (Option.some.inj finished)
    simpa using free
  | case3 => cases finished

variable {before after : Reserved}

/-- A drawn platform id reserves nothing. -/
theorem generatePid_reserves {dateOfBirth : Timestamp} {pid : String}
    (finished : generatePid zone dateOfBirth before = some (pid, after)) :
    after.emails = before.emails ∧ after.phones = before.phones := by
  unfold generatePid at finished
  split at finished
  · cases finished
  · cases finished
    exact ⟨rfl, rfl⟩

theorem generateFakeVerifiedUserEmail_reserves {surName givenName email : String}
    (finished : generateFakeVerifiedUserEmail surName givenName before = some (email, after)) :
    email ∉ before.emails ∧ after.emails = email :: before.emails ∧
      after.phones = before.phones := by
  obtain ⟨⟨found, draws⟩, loop, same⟩ := Option.bind_eq_some_iff.mp finished
  cases same
  exact ⟨retryEmail_fresh loop, rfl, rfl⟩

theorem generateFakeVerifiedUserPhoneNumber_reserves {phoneNumber : String}
    (finished : generateFakeVerifiedUserPhoneNumber before = some (phoneNumber, after)) :
    phoneNumber ∉ before.phones ∧ after.phones = phoneNumber :: before.phones ∧
      after.emails = before.emails := by
  obtain ⟨⟨found, draws⟩, loop, same⟩ := Option.bind_eq_some_iff.mp finished
  cases same
  exact ⟨retryPhoneNumber_fresh loop, rfl, rfl⟩

/-- What an element of the array is, and what it reserves. -/
structure Generated (zone : TimeZone) (index : Nat) (before after : Reserved)
    (user : FakeVerifiedUserInput) : Prop where
  nid : user.nid = nidAt zone index
  email : user.email ∉ before.emails
  emails : after.emails = user.email :: before.emails
  phone : user.phoneNumber ∉ before.phones
  phones : after.phones = user.phoneNumber :: before.phones

theorem generateFakeVerifiedUser_generated {index : Nat} {user : FakeVerifiedUserInput}
    (finished : generateFakeVerifiedUser zone index before = some (user, after)) :
    Generated zone index before after user := by
  obtain ⟨⟨pid, numbered⟩, first, finished⟩ := Option.bind_eq_some_iff.mp finished
  obtain ⟨⟨email, mailed⟩, second, finished⟩ := Option.bind_eq_some_iff.mp finished
  obtain ⟨⟨phoneNumber, called⟩, third, same⟩ := Option.bind_eq_some_iff.mp finished
  obtain ⟨keptEmails, keptPhones⟩ := generatePid_reserves first
  obtain ⟨freshEmail, emails, passedPhones⟩ := generateFakeVerifiedUserEmail_reserves second
  obtain ⟨freshPhone, phones, passedEmails⟩ := generateFakeVerifiedUserPhoneNumber_reserves third
  cases same
  refine ⟨rfl, ?_, ?_, ?_, ?_⟩
  · rwa [keptEmails] at freshEmail
  · rw [passedEmails, emails, keptEmails]
  · rwa [passedPhones, keptPhones] at freshPhone
  · rw [phones, passedPhones, keptPhones]

/-! ### A batch -/

/-- A batch has new emails and phone numbers, and the identities of its indices. -/
theorem generateFrom_spec {count index : Nat} {users : List FakeVerifiedUserInput}
    (finished : generateFrom zone count index before = some users) :
    users.map (·.nid) = (List.range' index count).map (nidAt zone) ∧
      (users.map (·.email)).Nodup ∧ (∀ user ∈ users, user.email ∉ before.emails) ∧
      (users.map (·.phoneNumber)).Nodup ∧ ∀ user ∈ users, user.phoneNumber ∉ before.phones := by
  induction count generalizing index before users with
  | zero =>
    cases finished
    simp
  | succ count ih =>
    obtain ⟨⟨user, next⟩, first, finished⟩ := Option.bind_eq_some_iff.mp finished
    obtain ⟨rest, later, same⟩ := Option.bind_eq_some_iff.mp finished
    cases same
    obtain ⟨nid, email, emails, phone, phones⟩ := generateFakeVerifiedUser_generated first
    obtain ⟨nids, emailsApart, emailsNew, phonesApart, phonesNew⟩ := ih later
    rw [emails] at emailsNew
    rw [phones] at phonesNew
    simp only [List.mem_cons, not_or] at emailsNew phonesNew
    refine ⟨?_, ?_, ?_, ?_, ?_⟩
    · rw [List.map_cons, nid, nids, List.range'_succ, List.map_cons]
    · rw [List.map_cons, List.nodup_cons, List.mem_map]
      exact ⟨fun ⟨other, member, same⟩ => (emailsNew other member).1 same, emailsApart⟩
    · exact List.forall_mem_cons.mpr ⟨email, fun other member => (emailsNew other member).2⟩
    · rw [List.map_cons, List.nodup_cons, List.mem_map]
      exact ⟨fun ⟨other, member, same⟩ => (phonesNew other member).1 same, phonesApart⟩
    · exact List.forall_mem_cons.mpr ⟨phone, fun other member => (phonesNew other member).2⟩

/-! ### The numbers of the identities -/

/-- The number has a digit for the sex, four for the year and two for the month and the date. -/
structure Stem (stem : String) : Prop where
  length : stem.length = 9
  digits : ∀ letter ∈ stem.toList, letter.isDigit

theorem valid_birthDate (index : Nat) :
    Valid (1975 + (index % 28 : Nat)) (index % 12) ((index % 27 : Nat) + 1) := by
  have inYear : index % 12 < 12 := Nat.mod_lt _ (by decide)
  have long := (daysInMonth_bounds (1975 + (index % 28 : Nat)) inYear).1
  exact ⟨inYear, by omega, by omega⟩

/-- The local day of a birth date is in one of the years 1974 to 2002. -/
theorem year_birthDate (zone : TimeZone) (index : Nat) :
    1974 ≤ zone.getFullYear (birthDate index) ∧ zone.getFullYear (birthDate index) ≤ 2002 := by
  obtain ⟨low, high⟩ := zone.dayOfTime_localTime
    (makeDay (1975 + (index % 28 : Nat)) (index % 12 : Nat) ((index % 27 : Nat) + 1))
  have inYear := yearFromDay_spec
    (makeDay (1975 + (index % 28 : Nat)) (index % 12 : Nat) ((index % 27 : Nat) + 1))
  rw [yearFromDay_makeDay (valid_birthDate index)] at inYear
  have since := dayFromYear_mono (show (1975 : Int) ≤ 1975 + (index % 28 : Nat) by omega)
  have before := dayFromYear_mono (show 1975 + ((index % 28 : Nat) : Int) + 1 ≤ 2003 by omega)
  unfold TimeZone.getFullYear birthDate
  constructor
  · calc (1974 : Int) = yearFromDay (dayFromYear 1975 - 1) := by decide
      _ ≤ _ := yearFromDay_mono (by omega)
  · calc _ ≤ yearFromDay (dayFromYear 2003 - 1) := yearFromDay_mono (by omega)
      _ = 2002 := by decide

/-- The numeral of a number that is not negative is that of the natural number. -/
theorem toString_ofNat (number : Nat) : toString (number : Int) = toString number := rfl

/-- A stem is made of a digit, four digits and two times two. -/
theorem stem_of_parts {sex : String} {year month date : Nat} (oneDigit : sex = "1" ∨ sex = "2")
    (since : 1000 ≤ year) (before : year < 10000) (short : month < 100) (brief : date < 100) :
    Stem (sex ++ toString year ++ padStart 2 (toString month) ++ padStart 2 (toString date)) := by
  have four : (toString year).length = 4 := length_numeral since before
  have monthWidth := length_padStart_numeral (show 0 < 2 by decide) (show month < 10 ^ 2 from short)
  have dateWidth := length_padStart_numeral (show 0 < 2 by decide) (show date < 10 ^ 2 from brief)
  refine ⟨?_, ?_⟩
  · simp only [String.length_append, monthWidth, dateWidth, four]
    rcases oneDigit with rfl | rfl <;> rfl
  · intro letter member
    simp only [String.toList_append, List.mem_append] at member
    rcases member with ((member | member) | member) | member
    · rcases oneDigit with rfl | rfl
      · rw [List.mem_singleton.mp member]
        decide
      · rw [List.mem_singleton.mp member]
        decide
    · exact isDigit_numeral member
    · exact isDigit_padStart member
    · exact isDigit_padStart member

theorem length_sequence {index : Nat} : 7 ≤ (toString (9000000 + index)).length := by
  rw [Nat.toString_eq_repr]
  have := mt (Nat.length_repr_le_iff (n := 9000000 + index) (k := 6) (by decide)).mp (by omega)
  omega

/-- The digits before the sequence are always nine. -/
theorem nidAt_stem (zone : TimeZone) (index : Nat) :
    ∃ stem, Stem stem ∧ nidAt zone index = stem ++ toString (9000000 + (index + 1)) := by
  obtain ⟨low, high⟩ := year_birthDate zone index
  obtain ⟨year, sameYear⟩ := Int.eq_ofNat_of_zero_le
    (show 0 ≤ zone.getFullYear (birthDate index) by omega)
  have valid := valid_of_day (dayOfTime (zone.localTime (birthDate index)))
  have month : zone.getMonth (birthDate index) < 12 := valid.inYear
  have bound := (daysInMonth_bounds
    (yearFromDay (dayOfTime (zone.localTime (birthDate index)))) month).2
  have positive : 1 ≤ zone.getDate (birthDate index) := valid.positive
  have inMonth : zone.getDate (birthDate index) ≤ 31 := le_trans valid.inMonth bound
  obtain ⟨date, sameDate⟩ := Int.eq_ofNat_of_zero_le
    (show 0 ≤ zone.getDate (birthDate index) by omega)
  rw [sameYear] at low high
  rw [sameDate] at inMonth
  have sexDigit : (if sexOf index = "M" then "1" else "2") = "1" ∨
      (if sexOf index = "M" then "1" else "2") = "2" := by
    split
    · exact .inl rfl
    · exact .inr rfl
  refine ⟨_, stem_of_parts sexDigit (show 1000 ≤ year by omega) (by omega)
    (show zone.getMonth (birthDate index) + 1 < 100 by omega) (show date < 100 by omega), ?_⟩
  unfold nidAt generateFakeVerifiedUserNid
  dsimp only
  rw [sameYear, sameDate, toString_ofNat, toString_ofNat, padStart_of_le length_sequence]

/-- The sequence tells the numbers apart. -/
theorem nidAt_injective (zone : TimeZone) : Function.Injective (nidAt zone) := by
  intro first second same
  obtain ⟨stem, one, firstNid⟩ := nidAt_stem zone first
  obtain ⟨other, two, secondNid⟩ := nidAt_stem zone second
  have letters := congrArg String.toList (firstNid.symm.trans (same.trans secondNid))
  rw [String.toList_append, String.toList_append] at letters
  have sequence := List.append_inj_right letters
    (show stem.toList.length = other.toList.length by
      rw [String.length_toList, String.length_toList, one.length, two.length])
  have := numeral_injective (String.toList_inj.mp sequence)
  omega

/-- A number has sixteen digits as long as its sequence has seven. -/
theorem nidAt_shape (zone : TimeZone) {index : Nat} (bound : index + 1 < 1000000) :
    (nidAt zone index).length = 16 ∧ ∀ letter ∈ (nidAt zone index).toList, letter.isDigit := by
  obtain ⟨stem, nine, number⟩ := nidAt_stem zone index
  rw [number]
  refine ⟨?_, ?_⟩
  · have seven : (toString (9000000 + (index + 1))).length = 6 + 1 :=
      length_numeral (by omega) (by omega)
    rw [String.length_append, nine.length, seven]
  · intro letter member
    rw [String.toList_append, List.mem_append] at member
    rcases member with member | member
    · exact nine.digits letter member
    · exact isDigit_numeral member

/-- What is promised of a batch: so many users, apart from one another and from what there was. -/
structure Batch (count : Nat) (existingEmails existingPhones : List String)
    (users : List FakeVerifiedUserInput) : Prop where
  size : users.length = count
  emails : (users.map (·.email)).Nodup
  phones : (users.map (·.phoneNumber)).Nodup
  nids : (users.map (·.nid)).Nodup
  newEmails : ∀ user ∈ users, user.email ∉ existingEmails
  newPhones : ∀ user ∈ users, user.phoneNumber ∉ existingPhones
  shape : count < 1000000 → ∀ user ∈ users,
    user.nid.length = 16 ∧ ∀ letter ∈ user.nid.toList, letter.isDigit

/-- The numbers of a batch are those of its indices, whatever was drawn. -/
theorem generateFakeVerifiedUsers_nids {count : Nat} {existingEmails existingPhones : List String}
    {draws : List Nat} {users : List FakeVerifiedUserInput}
    (finished : generateFakeVerifiedUsers zone count existingEmails existingPhones draws =
      some users) :
    users.map (·.nid) = (List.range' 0 count).map (nidAt zone) :=
  (generateFrom_spec finished).1

theorem generateFakeVerifiedUsers_batch {count : Nat} {existingEmails existingPhones : List String}
    {draws : List Nat} {users : List FakeVerifiedUserInput}
    (finished : generateFakeVerifiedUsers zone count existingEmails existingPhones draws =
      some users) : Batch count existingEmails existingPhones users := by
  obtain ⟨nids, emails, newEmails, phones, newPhones⟩ := generateFrom_spec finished
  refine ⟨?_, emails, phones, ?_, newEmails, newPhones, fun few user member => ?_⟩
  · rw [← List.length_map (·.nid), nids, List.length_map, List.length_range']
  · rw [nids]
    exact (List.nodup_map_iff (nidAt_injective zone)).mpr List.nodup_range'
  · have listed : user.nid ∈ (List.range' 0 count).map (nidAt zone) := by
      rw [← nids]
      exact List.mem_map_of_mem member
    obtain ⟨index, inBatch, same⟩ := List.mem_map.mp listed
    rw [← same]
    rw [List.mem_range'_1] at inBatch
    exact nidAt_shape zone (by omega)

/-! ### The script -/

/-- The contacts that are stored. A number that is empty counts as none. -/
def Database.loadExistingContactSets (db : Database) : List String × List String :=
  (db.users.map (·.email),
    (db.users.filterMap (·.phoneNumber)).filter fun phoneNumber => phoneNumber != "")

/-- What is of one run of the script: its clock, the hash of the shared password, what it draws
and the initialisation vectors it takes. -/
structure SeedRun where
  clock : Timestamp
  passwordHash : String
  verifiedAt : Timestamp
  draws : List Nat
  nidIv : Nat → String
  pidIv : Nat → String

/-- A run of the script in a time zone, if its loops finish. -/
def Database.seedVerifiedUsersScript (runtime : Runtime) (zone : TimeZone) (count : Nat)
    (run : SeedRun) (db : Database) : Option (Except DatabaseError Database) := do
  let (emails, phones) := db.loadExistingContactSets
  let users ← generateFakeVerifiedUsers zone count emails phones run.draws
  return db.seedVerifiedUsers runtime run.clock run.passwordHash run.verifiedAt
    (users.mapIdx fun index user => (user, run.nidIv index, run.pidIv index))

/-- An identity with the number is stored. -/
def NidStored (runtime : Runtime) (db : Database) (nid : String) : Prop :=
  ∃ row ∈ db.citizenIdentities, row.nidHash = some (runtime.hash nid)

variable {runtime : Runtime} {clock verifiedAt : Timestamp} {passwordHash : String}

theorem findCitizenIdentity_isSome {db : Database} {nid : String} :
    (∃ row, db.findCitizenIdentity .NID (runtime.hash nid) = some row) ↔
      NidStored runtime db nid := by
  unfold Database.findCitizenIdentity NidStored
  rw [← Option.isSome_iff_exists, List.find?_isSome]
  simp only [beq_iff_eq]

/-- Storing a user stores the number, and keeps those that are stored. -/
theorem createVerifiedUser_stores {db next : Database} {user : FakeVerifiedUserInput}
    {nidIv pidIv : String}
    (created : db.createVerifiedUser runtime clock user passwordHash nidIv pidIv verifiedAt =
      .ok next) :
    NidStored runtime next user.nid ∧
      ∀ nid, NidStored runtime db nid → NidStored runtime next nid := by
  unfold Database.createVerifiedUser at created
  split at created
  · cases created
  · cases created
    refine ⟨⟨_, List.mem_append_right _ (List.mem_singleton_self _), rfl⟩, ?_⟩
    rintro nid ⟨row, member, same⟩
    exact ⟨row, List.mem_append_left _ member, same⟩

/-- A run that commits stores every number. -/
theorem seedVerifiedUsers_stores {users : List (FakeVerifiedUserInput × String × String)}
    {db next : Database}
    (seeded : Database.seedVerifiedUsers runtime clock passwordHash verifiedAt users db = .ok next) :
    ∀ entry ∈ users, NidStored runtime next entry.1.nid := by
  have keeps (nid : String) (db next : Database)
      (rest : List (FakeVerifiedUserInput × String × String))
      (seeded : Database.seedVerifiedUsers runtime clock passwordHash verifiedAt rest db = .ok next)
      (stored : NidStored runtime db nid) : NidStored runtime next nid :=
    seedVerifiedUsers_preserves (NidStored runtime · nid) seeded
      (fun _ _ _ _ _ stored created => (createVerifiedUser_stores created).2 nid stored) stored
  induction users generalizing db with
  | nil => exact fun _ member => absurd member List.not_mem_nil
  | cons head rest ih =>
    obtain ⟨user, nidIv, pidIv⟩ := head
    rw [Database.seedVerifiedUsers] at seeded
    split at seeded
    · rename_i row found
      have stored := findCitizenIdentity_isSome.mp ⟨row, found⟩
      exact List.forall_mem_cons.mpr ⟨keeps user.nid db next rest seeded stored, ih seeded⟩
    · split at seeded
      · rename_i between created
        have stored := (createVerifiedUser_stores created).1
        exact List.forall_mem_cons.mpr ⟨keeps user.nid between next rest seeded stored, ih seeded⟩
      · cases seeded

/-- A run whose numbers are all stored skips every user. -/
theorem seedVerifiedUsers_skips {users : List (FakeVerifiedUserInput × String × String)}
    {db : Database} (stored : ∀ entry ∈ users, NidStored runtime db entry.1.nid) :
    Database.seedVerifiedUsers runtime clock passwordHash verifiedAt users db = .ok db := by
  induction users with
  | nil => rfl
  | cons head rest ih =>
    obtain ⟨user, nidIv, pidIv⟩ := head
    obtain ⟨here, later⟩ := List.forall_mem_cons.mp stored
    obtain ⟨row, found⟩ := findCitizenIdentity_isSome.mpr here
    rw [Database.seedVerifiedUsers, found]
    exact ih later

/-- The numbers that a run stores are those of the indices. -/
theorem seedVerifiedUsersScript_runs {count : Nat} {run : SeedRun} {db : Database}
    {outcome : Except DatabaseError Database}
    (ran : db.seedVerifiedUsersScript runtime zone count run = some outcome) :
    ∃ users : List (FakeVerifiedUserInput × String × String),
      users.map (·.1.nid) = (List.range' 0 count).map (nidAt zone) ∧
        outcome = db.seedVerifiedUsers runtime run.clock run.passwordHash run.verifiedAt users := by
  obtain ⟨users, generated, same⟩ := Option.bind_eq_some_iff.mp ran
  refine ⟨_, ?_, (Option.some.inj same).symm⟩
  rw [← generateFakeVerifiedUsers_nids generated]
  ext place : 1
  rw [List.getElem?_map, List.getElem?_mapIdx, List.getElem?_map, Option.map_map]
  rfl

/-- **A batch has no collisions, and a second run of the script stores nothing.** On draws for
which the loops finish, so many users are generated, with emails, phone numbers and numbers that
are apart from one another and contacts that are new, and sixteen digits in every number of a
batch below a million. After a run that has committed, a run in the same time zone leaves the
database as it is, whatever it draws. -/
theorem seed_batches (runtime : Runtime) (zone : TimeZone) (count : Nat) :
    (∀ existingEmails existingPhones draws users,
      generateFakeVerifiedUsers zone count existingEmails existingPhones draws = some users →
        Batch count existingEmails existingPhones users) ∧
    ∀ (db next : Database) (first second : SeedRun) (outcome : Except DatabaseError Database),
      db.seedVerifiedUsersScript runtime zone count first = some (.ok next) →
      next.seedVerifiedUsersScript runtime zone count second = some outcome →
        outcome = .ok next := by
  refine ⟨fun _ _ _ _ finished => generateFakeVerifiedUsers_batch finished, ?_⟩
  intro db next first second outcome committed again
  obtain ⟨users, nids, seeded⟩ := seedVerifiedUsersScript_runs committed
  obtain ⟨others, sameNids, rfl⟩ := seedVerifiedUsersScript_runs again
  refine seedVerifiedUsers_skips fun entry member => ?_
  have listed : entry.1.nid ∈ users.map (·.1.nid) := by
    rw [nids, ← sameNids]
    exact List.mem_map_of_mem member
  obtain ⟨stored, inFirst, same⟩ := List.mem_map.mp listed
  rw [← same]
  exact seedVerifiedUsers_stores seeded.symm stored inFirst

/-- Two hours ahead. -/
def kigali : TimeZone := .fixed 7200000 (by decide)

/-- A run of the script with given draws. -/
def sampleSeedRun (draws : List Nat) : SeedRun where
  clock := 0
  passwordHash := "hash"
  verifiedAt := 0
  draws := draws
  nidIv _ := "iv"
  pidIv _ := "iv"

/-- The database after a run of the sample that is not refused. -/
def afterSample (draws : List Nat) (db : Database) : Database :=
  match db.seedVerifiedUsersScript legibleRuntime kigali 3 (sampleSeedRun draws) with
  | some (.ok next) => next
  | _ => db

/-- The script on the sample commits. -/
def Committed (draws : List Nat) (db : Database) : Bool :=
  match db.seedVerifiedUsersScript legibleRuntime kigali 3 (sampleSeedRun draws) with
  | some (.ok _) => true
  | _ => false

theorem afterSample_committed {draws : List Nat} {db : Database} (committed : Committed draws db) :
    db.seedVerifiedUsersScript legibleRuntime kigali 3 (sampleSeedRun draws) =
      some (.ok (afterSample draws db)) := by
  unfold Committed at committed
  unfold afterSample
  split at committed
  · rename_i next ran
    rw [ran]
  · cases committed

/-- Three users are generated although an email is taken. Three are stored, and a second run on
other draws stores nothing. -/
theorem seed_batches_sample :
    (∃ users, generateFakeVerifiedUsers kigali 3 ["habimanadaniel@gmail.com"] []
        (List.range 50) = some users ∧ Batch 3 ["habimanadaniel@gmail.com"] [] users) ∧
      (afterSample (List.range 50) (State.empty 0).db).users.length = 3 ∧
      (afterSample (List.range 50) (State.empty 0).db).seedVerifiedUsersScript legibleRuntime
          kigali 3 (sampleSeedRun ((List.range 90).map (· + 3))) =
        some (.ok (afterSample (List.range 50) (State.empty 0).db)) := by
  obtain ⟨batches, again⟩ := seed_batches legibleRuntime kigali 3
  have finishes : (generateFakeVerifiedUsers kigali 3 ["habimanadaniel@gmail.com"] []
      (List.range 50)).isSome := by decide +kernel
  have commits := afterSample_committed
    (show Committed (List.range 50) (State.empty 0).db by decide +kernel)
  have runs : ((afterSample (List.range 50) (State.empty 0).db).seedVerifiedUsersScript
      legibleRuntime kigali 3 (sampleSeedRun ((List.range 90).map (· + 3)))).isSome := by
    decide +kernel
  obtain ⟨users, generated⟩ := Option.isSome_iff_exists.mp finishes
  obtain ⟨outcome, ran⟩ := Option.isSome_iff_exists.mp runs
  refine ⟨⟨users, generated, batches _ _ _ users generated⟩, by decide +kernel, ?_⟩
  rw [ran, again _ _ _ _ outcome commits ran]

end GraconAuth
