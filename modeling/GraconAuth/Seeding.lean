/-
This file embeds the seed of verified users: a script that stores login-ready accounts
in one transaction, through the same columns as a registration. The generated users are
taken as they come, and so are the initialisation vectors of their ciphers.
-/

import GraconAuth.UsersService

namespace GraconAuth

structure FakeVerifiedUserInput where
  email : Email
  phoneNumber : String
  nid : String
  pid : String
  surName : String
  postNames : String
  sex : String
  dateOfBirth : Timestamp
  deriving DecidableEq, Repr

variable (runtime : Runtime)

/-- Store one user that can log in, under the unique columns `email`, `nidHash` and `pidHash`. -/
def Database.createVerifiedUser (db : Database) (clock : Timestamp) (user : FakeVerifiedUserInput)
    (passwordHash nidIv pidIv : String) (verifiedAt : Timestamp) :
    Except DatabaseError Database :=
  if db.users.any (fun row => row.email == user.email) ||
      db.citizenIdentities.any (fun row => row.nidHash == some (runtime.hash user.nid)) ||
      db.platformIds.any (fun row => row.pidHash == runtime.hash user.pid) then
    .error .uniqueConstraint
  else
    .ok { db with
      nextId := db.nextId + 3
      users := db.users ++ [{
        id := db.nextId
        email := user.email
        phoneNumber := some user.phoneNumber
        passwordHash := passwordHash
        isVerified := true
        isActive := true
        isIdVerified := true
        idVerifiedAt := some verifiedAt
        verificationAttempts := 0
        imageUrl := none
        createdAt := clock
        updatedAt := clock }]
      citizenIdentities := db.citizenIdentities ++ [{
        id := db.nextId + 1
        userId := db.nextId
        identityType := .NID
        nidEncrypted := some (runtime.encrypt nidIv user.nid)
        nidHash := some (runtime.hash user.nid)
        finEncrypted := none
        finHash := none
        surName := user.surName
        postNames := user.postNames
        sex := user.sex
        dateOfBirth := user.dateOfBirth
        countryOfBirth := "Rwanda" }]
      platformIds := db.platformIds ++ [{
        id := db.nextId + 2
        userId := db.nextId
        pidEncrypted := runtime.encrypt pidIv user.pid
        pidHash := runtime.hash user.pid }] }

/-- The transaction of the seed: users whose NID is stored already are skipped, and one that
cannot be stored undoes them all. -/
def Database.seedVerifiedUsers (clock : Timestamp) (passwordHash : String)
    (verifiedAt : Timestamp) :
    List (FakeVerifiedUserInput × String × String) → Database → Except DatabaseError Database
  | [], db => .ok db
  | (user, nidIv, pidIv) :: rest, db =>
    match db.findCitizenIdentity .NID (runtime.hash user.nid) with
    | some _ => seedVerifiedUsers clock passwordHash verifiedAt rest db
    | none =>
      match db.createVerifiedUser runtime clock user passwordHash nidIv pidIv verifiedAt with
      | .ok next => seedVerifiedUsers clock passwordHash verifiedAt rest next
      | .error error => .error error

/-- What storing a user preserves, the seed preserves. -/
theorem seedVerifiedUsers_preserves {runtime : Runtime} {clock : Timestamp} {passwordHash : String}
    {verifiedAt : Timestamp} {users : List (FakeVerifiedUserInput × String × String)}
    {db next : Database} (holds : Database → Prop)
    (seeded : Database.seedVerifiedUsers runtime clock passwordHash verifiedAt users db = .ok next)
    (keeps : ∀ db next user nidIv pidIv, holds db →
      db.createVerifiedUser runtime clock user passwordHash nidIv pidIv verifiedAt = .ok next →
        holds next)
    (base : holds db) : holds next := by
  induction users generalizing db with
  | nil =>
    cases seeded
    exact base
  | cons head rest inductionHypothesis =>
    obtain ⟨user, nidIv, pidIv⟩ := head
    simp only [Database.seedVerifiedUsers] at seeded
    split at seeded
    · exact inductionHypothesis seeded base
    · split at seeded
      · rename_i between created
        exact inductionHypothesis seeded (keeps db between user nidIv pidIv base created)
      · cases seeded

end GraconAuth
