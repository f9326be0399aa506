/-
This file gives the effects a call of the service awaits and what each of them
does to the shared state.

An effect is one database query, one write (a single statement, or the statements
of a `$transaction`, which become visible together), one use of the in-memory map
of pending refreshes, or one call to something outside the process. The functions
of the service are programs over these effects; the code between two effects
touches nothing shared.

What the environment is free to choose is a `Choice`: how long the effect takes to
happen, whether it fails, what random bytes come out and what a remote service
answers. A statement that fails has no effect.
-/

import GraconAuth.Pool
import GraconAuth.Rows
import GraconAuth.Schema
import Mathlib.Data.List.Sort

namespace GraconAuth

open Rows

/-! ### Effects -/

/-- `where` of a user query. -/
inductive UserWhere where
  | byId (id : UserId)
  | byEmail (email : Email)
  deriving DecidableEq, Repr

/-- `where` of a bulk revocation: the given columns match and the token is not revoked. -/
structure RefreshTokenWhere where
  userId : Option UserId := none
  tokenHash : Option TokenHash := none
  tokenType : Option TokenType := none
  deriving DecidableEq, Repr

/-- `data` of a user update: the columns that are given are written. -/
structure UserUpdate where
  email : Option Email := none
  phoneNumber : Option String := none
  passwordHash : Option String := none
  isVerified : Option Bool := none
  isActive : Option Bool := none
  isIdVerified : Option Bool := none
  idVerifiedAt : Option Timestamp := none
  imageUrl : Option ObjectKey := none
  incrementVerificationAttempts : Bool := false
  deriving DecidableEq, Repr

structure RefreshTokenCreate where
  userId : UserId
  tokenHash : TokenHash
  tokenType : TokenType
  expiresAt : Timestamp
  ipAddress : Option String
  userAgent : Option String
  deriving DecidableEq, Repr

structure PasswordResetTokenCreate where
  userId : UserId
  tokenHash : TokenHash
  expiresAt : Timestamp
  deriving DecidableEq, Repr

structure IdVerificationCreate where
  userId : UserId
  attemptNumber : Nat
  documentMatch : Bool
  faceScore : Score
  livenessScore : Score
  compositeScore : Score
  passed : Bool
  failReason : Option String
  ipAddress : String
  deriving DecidableEq, Repr

/-- One writing statement. -/
inductive Statement where
  | userUpdate (id : UserId) (data : UserUpdate)
  | refreshTokenUpdate (id : RowId)
  | refreshTokenUpdateMany (filter : RefreshTokenWhere)
  | refreshTokenCreate (data : RefreshTokenCreate)
  | refreshTokenDeleteMany (now : Timestamp)
  | emailVerificationTokenUpdate (id : RowId)
  | emailVerificationTokenUpsert (userId : UserId) (tokenHash : TokenHash)
      (expiresAt createdAt : Timestamp)
  | passwordResetTokenUpdateMany (userId : UserId)
  | passwordResetTokenCreate (data : PasswordResetTokenCreate)
  | passwordResetTokenUpdate (id : RowId)
  | idVerificationCreate (data : IdVerificationCreate)
  deriving DecidableEq, Repr

/-- What the transaction of `register` writes besides the ids. -/
structure RegistrationCreate where
  email : Email
  phoneNumber : Option String
  passwordHash : String
  isIdVerified : Bool
  idVerifiedAt : Option Timestamp
  identityType : IdentityType
  nidEncrypted : Option String
  nidHash : Option String
  finEncrypted : Option String
  finHash : Option String
  surName : String
  postNames : String
  sex : String
  dateOfBirth : Timestamp
  countryOfBirth : String
  pidEncrypted : String
  pidHash : String
  tokenHash : TokenHash
  tokenExpiry : Timestamp
  deriving DecidableEq, Repr

/-- A pending refresh belongs to one server process and one token hash. -/
structure FlightKey where
  process : Nat
  tokenHash : TokenHash
  deriving DecidableEq, Repr

abbrev FlightId := Nat

/-- Whether a call starts a flight or joins one. -/
inductive FlightRole where
  | leader (flight : FlightId)
  | follower (flight : FlightId)
  deriving DecidableEq, Repr

/-- What `POST /verify` of the engine receives. -/
structure EngineRequest where
  idImageKey : ObjectKey
  selfieImageKey : ObjectKey
  userId : UserId
  documentMatch : Bool
  deriving DecidableEq, Repr

inductive Effect where
  | userFindUnique (filter : UserWhere)
  | citizenIdentityFindFirst (identityType : IdentityType) (identityHash : String)
  | refreshTokenFindUnique (tokenHash : TokenHash)
  | emailVerificationTokenFindUnique (userId : UserId)
  | emailVerificationTokenCount (userId : UserId) (since : Timestamp)
  | passwordResetTokenFindFirst (userId : UserId) (tokenHash : TokenHash)
  | idVerificationFindMany (userId : UserId) (since : Timestamp)
  | idVerificationFindLatest (userId : UserId)
  | idVerificationCount (userId : UserId)
  | execute (statements : List Statement)
  | registerTransaction (data : RegistrationCreate)
  | securityEvent (eventType : SecurityEvent) (userId : Option UserId) (ipAddress : Option String)
  | now
  | randomToken
  | randomBytes
  | randomDigits (count : Nat)
  | bcryptSalt
  | sign (payload : JwtPayload) (expiresIn : String)
  | joinFlight (key : FlightKey)
  | settleFlight (key : FlightKey) (flight : FlightId) (outcome : Except Failure AuthTokens)
  | awaitFlight (flight : FlightId)
  | sendMail (mail : Mail)
  | putObject (key : ObjectKey)
  | deleteObjects (keys : List ObjectKey)
  | getSignedUrl (key : ObjectKey)
  | callEngine (payload : EngineRequest)
  | lookupCitizen (documentNumber : String)
  | lookupForeignIdentity (fin : String)
  | respond (outcome : Except Failure Response)

/-- What an effect is answered when it succeeds. -/
abbrev Effect.Reply : Effect → Type
  | .userFindUnique _ => Option UserRecord
  | .citizenIdentityFindFirst _ _ => Option RowId
  | .refreshTokenFindUnique _ => Option (RefreshTokenRow × UserRow)
  | .emailVerificationTokenFindUnique _ => Option (EmailVerificationTokenRow × UserRecord)
  | .emailVerificationTokenCount _ _ => Nat
  | .passwordResetTokenFindFirst _ _ => Option PasswordResetTokenRow
  | .idVerificationFindMany _ _ => List Timestamp
  | .idVerificationFindLatest _ => Option Timestamp
  | .idVerificationCount _ => Nat
  | .execute _ => Unit
  | .registerTransaction _ => UserId
  | .securityEvent _ _ _ => Unit
  | .now => Timestamp
  | .randomToken => RawToken
  | .randomBytes => String
  | .randomDigits _ => String
  | .bcryptSalt => String
  | .sign _ _ => Jwt
  | .joinFlight _ => FlightRole
  | .settleFlight _ _ _ => Unit
  | .awaitFlight _ => AuthTokens
  | .sendMail _ => Unit
  | .putObject _ => Unit
  | .deleteObjects _ => Unit
  | .getSignedUrl _ => String
  | .callEngine _ => EngineVerificationResponse
  | .lookupCitizen _ => CitizenData
  | .lookupForeignIdentity _ => Option ForeignIdentityProfile
  | .respond _ => Unit

/-! ### The shared state -/

/-- The pending refreshes of the processes, and what the flights have come to: a flight without
an outcome is still under way. -/
structure Memory where
  pendingRefreshes : List (FlightKey × FlightId)
  flights : List (Option (Except Failure AuthTokens))

/-- Everything the calls share. Besides the tables and the in-memory map these are the clock,
the objects in the bucket, and three records that no function reads: the tokens signed, the
mails delivered and the random tokens drawn. -/
structure State where
  clock : Timestamp
  db : Database
  memory : Memory
  bucket : List ObjectKey
  signed : List Jwt
  outbox : List Mail
  drawn : List RawToken

/-- Nothing has happened yet. -/
def State.empty (clock : Timestamp) : State where
  clock := clock
  db := ⟨0, [], [], [], [], [], [], [], []⟩
  memory := ⟨[], []⟩
  bucket := []
  signed := []
  outbox := []
  drawn := []

/-! ### Queries -/

def UserWhere.holds (filter : UserWhere) (row : UserRow) : Bool :=
  match filter with
  | .byId id => row.id == id
  | .byEmail email => row.email == email

def Database.findUser (db : Database) (filter : UserWhere) : Option UserRow :=
  db.users.find? filter.holds

/-- A user with the included relations. -/
def Database.withRelations (db : Database) (user : UserRow) : UserRecord where
  user := user
  citizenIdentity := db.citizenIdentities.find? fun row => row.userId == user.id
  platformId := db.platformIds.find? fun row => row.userId == user.id

def Database.findRefreshToken (db : Database) (tokenHash : TokenHash) :
    Option RefreshTokenRow :=
  db.refreshTokens.find? fun row => row.tokenHash == tokenHash

/-- A refresh token with its user. The foreign key is never dangling. -/
def Database.findRefreshTokenWithUser (db : Database) (tokenHash : TokenHash) :
    Option (RefreshTokenRow × UserRow) := do
  let row ← db.findRefreshToken tokenHash
  let user ← db.findUser (.byId row.userId)
  return (row, user)

def Database.findEmailVerificationToken (db : Database) (userId : UserId) :
    Option EmailVerificationTokenRow :=
  db.emailVerificationTokens.find? fun row => row.userId == userId

def Database.findEmailVerificationTokenWithUser (db : Database) (userId : UserId) :
    Option (EmailVerificationTokenRow × UserRecord) := do
  let row ← db.findEmailVerificationToken userId
  let user ← db.findUser (.byId row.userId)
  return (row, db.withRelations user)

def Database.findPasswordResetToken (db : Database) (userId : UserId) (tokenHash : TokenHash) :
    Option PasswordResetTokenRow :=
  db.passwordResetTokens.find? fun row => row.userId == userId && row.tokenHash == tokenHash

/-- The creation times of the user's attempts since an instant, oldest first. -/
def Database.attemptsSince (db : Database) (userId : UserId) (since : Timestamp) :
    List Timestamp :=
  ((db.idVerifications.filter fun row => row.userId == userId && decide (since ≤ row.createdAt)).map
    (·.createdAt)).insertionSort (· ≤ ·)

def Database.findCitizenIdentity (db : Database) (identityType : IdentityType)
    (identityHash : String) : Option CitizenIdentityRow :=
  db.citizenIdentities.find? fun row =>
    match identityType with
    | .NID => row.nidHash == some identityHash
    | .FIN => row.finHash == some identityHash

/-! ### Statements -/

def UserRow.apply (row : UserRow) (data : UserUpdate) (clock : Timestamp) : UserRow :=
  { row with
    email := data.email.getD row.email
    phoneNumber := data.phoneNumber <|> row.phoneNumber
    passwordHash := data.passwordHash.getD row.passwordHash
    isVerified := data.isVerified.getD row.isVerified
    isActive := data.isActive.getD row.isActive
    isIdVerified := data.isIdVerified.getD row.isIdVerified
    idVerifiedAt := data.idVerifiedAt <|> row.idVerifiedAt
    imageUrl := data.imageUrl <|> row.imageUrl
    verificationAttempts :=
      if data.incrementVerificationAttempts then row.verificationAttempts + 1
      else row.verificationAttempts
    updatedAt := clock }

/-- A given column filters; an absent one does not. -/
def columnHolds {Column : Type} [DecidableEq Column] (wanted : Option Column) (value : Column) :
    Bool :=
  match wanted with
  | some column => decide (value = column)
  | none => true

def RefreshTokenWhere.holds (filter : RefreshTokenWhere) (row : RefreshTokenRow) : Bool :=
  columnHolds filter.userId row.userId && columnHolds filter.tokenHash row.tokenHash &&
    columnHolds (filter.tokenType.map some) row.tokenType && !row.revoked

def RefreshTokenRow.revoke (row : RefreshTokenRow) : RefreshTokenRow := { row with revoked := true }

/-- Update the row with an id, which has to be there. -/
def updateUnique {Row : Type} (matching : Row → Bool) (change : Row → Row) (rows : List Row) :
    Except DatabaseError (List Row) :=
  if rows.any matching then .ok (updateWhere matching change rows) else .error .recordNotFound

/-- What a statement makes of the tables at an instant. -/
def Statement.run (clock : Timestamp) (db : Database) : Statement → Except DatabaseError Database
  | .userUpdate id data =>
    if data.email.any fun email => db.users.any fun row => row.email == email && row.id != id then
      .error .uniqueConstraint
    else do
      let users ← updateUnique (fun row => row.id == id) (fun row => row.apply data clock) db.users
      return { db with users }
  | .refreshTokenUpdate id => do
    let refreshTokens ←
      updateUnique (fun row => row.id == id) RefreshTokenRow.revoke db.refreshTokens
    return { db with refreshTokens }
  | .refreshTokenUpdateMany filter =>
    .ok { db with
      refreshTokens := updateWhere filter.holds RefreshTokenRow.revoke db.refreshTokens }
  | .refreshTokenCreate data =>
    if db.refreshTokens.any fun row => row.tokenHash == data.tokenHash then
      .error .uniqueConstraint
    else
      .ok { db with
        nextId := db.nextId + 1
        refreshTokens := db.refreshTokens ++ [{
          id := db.nextId
          userId := data.userId
          tokenHash := data.tokenHash
          tokenType := some data.tokenType
          expiresAt := data.expiresAt
          revoked := false
          ipAddress := data.ipAddress
          userAgent := data.userAgent }] }
  | .refreshTokenDeleteMany now =>
    .ok { db with
      refreshTokens :=
        deleteWhere (fun row => decide (row.expiresAt < now) || row.revoked) db.refreshTokens }
  | .emailVerificationTokenUpdate id => do
    let emailVerificationTokens ← updateUnique (fun row => row.id == id)
      (fun row => { row with used := true }) db.emailVerificationTokens
    return { db with emailVerificationTokens }
  | .emailVerificationTokenUpsert userId tokenHash expiresAt createdAt =>
    .ok { db with
      nextId := db.nextId + 1
      emailVerificationTokens := upsertWhere (fun row => row.userId == userId)
        (fun row => { row with tokenHash, expiresAt, used := false, createdAt })
        { id := db.nextId, userId, tokenHash, expiresAt, used := false, createdAt := clock }
        db.emailVerificationTokens }
  | .passwordResetTokenUpdateMany userId =>
    .ok { db with
      passwordResetTokens := updateWhere (fun row => row.userId == userId && !row.used)
        (fun row => { row with used := true }) db.passwordResetTokens }
  | .passwordResetTokenCreate data =>
    .ok { db with
      nextId := db.nextId + 1
      passwordResetTokens := db.passwordResetTokens ++ [{
        id := db.nextId
        userId := data.userId
        tokenHash := data.tokenHash
        expiresAt := data.expiresAt
        used := false }] }
  | .passwordResetTokenUpdate id => do
    let passwordResetTokens ← updateUnique (fun row => row.id == id)
      (fun row => { row with used := true }) db.passwordResetTokens
    return { db with passwordResetTokens }
  | .idVerificationCreate data =>
    .ok { db with
      nextId := db.nextId + 1
      idVerifications := db.idVerifications ++ [{
        id := db.nextId
        userId := data.userId
        attemptNumber := data.attemptNumber
        documentMatch := data.documentMatch
        faceScore := data.faceScore
        livenessScore := data.livenessScore
        compositeScore := data.compositeScore
        passed := data.passed
        failReason := data.failReason
        ipAddress := data.ipAddress
        createdAt := clock }] }

/-- The statements of a transaction, all or none. -/
def runAll (clock : Timestamp) (db : Database) : List Statement → Except DatabaseError Database
  | [] => .ok db
  | statement :: rest =>
    match statement.run clock db with
    | .ok next => runAll clock next rest
    | .error error => .error error

/-- Two optional values of a unique column clash when both are present and equal. -/
def clashes (first second : Option String) : Bool :=
  match first, second with
  | some a, some b => a == b
  | _, _ => false

/-- The transaction of `register`: the user, the identity, the platform id and the email
verification token, under the unique columns `email`, `nidHash`, `finHash` and `pidHash`. -/
def Database.register (db : Database) (clock : Timestamp) (data : RegistrationCreate) :
    Except DatabaseError Database :=
  if db.users.any (fun row => row.email == data.email) ||
      db.citizenIdentities.any (fun row => clashes row.nidHash data.nidHash) ||
      db.citizenIdentities.any (fun row => clashes row.finHash data.finHash) ||
      db.platformIds.any (fun row => row.pidHash == data.pidHash) then
    .error .uniqueConstraint
  else
    .ok { db with
      nextId := db.nextId + 4
      users := db.users ++ [{
        id := db.nextId
        email := data.email
        phoneNumber := data.phoneNumber
        passwordHash := data.passwordHash
        isVerified := false
        isActive := false
        isIdVerified := data.isIdVerified
        idVerifiedAt := data.idVerifiedAt
        verificationAttempts := 0
        imageUrl := none
        createdAt := clock
        updatedAt := clock }]
      citizenIdentities := db.citizenIdentities ++ [{
        id := db.nextId + 1
        userId := db.nextId
        identityType := data.identityType
        nidEncrypted := data.nidEncrypted
        nidHash := data.nidHash
        finEncrypted := data.finEncrypted
        finHash := data.finHash
        surName := data.surName
        postNames := data.postNames
        sex := data.sex
        dateOfBirth := data.dateOfBirth
        countryOfBirth := data.countryOfBirth }]
      platformIds := db.platformIds ++ [{
        id := db.nextId + 2
        userId := db.nextId
        pidEncrypted := data.pidEncrypted
        pidHash := data.pidHash }]
      emailVerificationTokens := db.emailVerificationTokens ++ [{
        id := db.nextId + 3
        userId := db.nextId
        tokenHash := data.tokenHash
        expiresAt := data.tokenExpiry
        used := false
        createdAt := clock }] }

/-! ### The environment -/

/-- What the environment is free to choose when it answers an effect. -/
structure Choice where
  elapsed : Nat := 0
  fails : Option Failure := none
  text : String := ""
  engine : EngineVerificationResponse := ⟨false, 0, 0, false, 0, none⟩
  citizen : CitizenData := ⟨"", "", "", 0, ""⟩
  foreign : Option ForeignIdentityProfile := none

/-- A statement that the database does not carry out. -/
def databaseDown : Failure := .database .unavailable

/-- A query that answers from the tables or fails. -/
def State.query {Value : Type} (state : State) (choice : Choice) (value : Value) :
    Option (Except Failure Value × State) :=
  if choice.fails.isSome then some (.error databaseDown, state) else some (.ok value, state)

/-- A write that replaces the tables, or fails and leaves them. -/
def State.commit {Value : Type} (state : State) (choice : Choice) (value : Value)
    (result : Except DatabaseError Database) : Option (Except Failure Value × State) :=
  if choice.fails.isSome then some (.error databaseDown, state)
  else
    match result with
    | .ok db => some (.ok value, { state with db })
    | .error error => some (.error (.database error), state)

/-- A remote call: it fails as it likes, or succeeds with a change of the state. -/
def State.remote {Value : Type} (state : State) (choice : Choice) (value : Value)
    (next : State) : Option (Except Failure Value × State) :=
  match choice.fails with
  | some failure => some (.error failure, state)
  | none => some (.ok value, next)

def State.tick (state : State) (elapsed : Nat) : State :=
  { state with clock := state.clock + elapsed }

/-- How the effects are answered once the time they take has passed. -/
def State.answer (state : State) (choice : Choice) :
    (effect : Effect) → Option (Except Failure effect.Reply × State)
  | .userFindUnique filter =>
    state.query choice ((state.db.findUser filter).map state.db.withRelations)
  | .citizenIdentityFindFirst identityType identityHash =>
    state.query choice ((state.db.findCitizenIdentity identityType identityHash).map (·.id))
  | .refreshTokenFindUnique tokenHash =>
    state.query choice (state.db.findRefreshTokenWithUser tokenHash)
  | .emailVerificationTokenFindUnique userId =>
    state.query choice (state.db.findEmailVerificationTokenWithUser userId)
  | .emailVerificationTokenCount userId since =>
    state.query choice (state.db.emailVerificationTokens.countP fun row =>
      row.userId == userId && decide (since ≤ row.createdAt))
  | .passwordResetTokenFindFirst userId tokenHash =>
    state.query choice (state.db.findPasswordResetToken userId tokenHash)
  | .idVerificationFindMany userId since =>
    state.query choice (state.db.attemptsSince userId since)
  | .idVerificationFindLatest userId =>
    state.query choice
      ((state.db.idVerifications.filter fun row => row.userId == userId).map (·.createdAt)).max?
  | .idVerificationCount userId =>
    state.query choice (state.db.idVerifications.countP fun row => row.userId == userId)
  | .execute statements => state.commit choice () (runAll state.clock state.db statements)
  | .registerTransaction data =>
    state.commit choice state.db.nextId (state.db.register state.clock data)
  | .securityEvent eventType userId ipAddress =>
    -- The log is written in the background and swallows its own failure.
    if choice.fails.isSome then some (.ok (), state)
    else
      some (.ok (), { state with db := { state.db with
        nextId := state.db.nextId + 1
        securityEventLog := state.db.securityEventLog ++ [{
          id := state.db.nextId, eventType, userId, ipAddress, createdAt := state.clock }] } })
  | .now => some (.ok state.clock, state)
  | .randomToken => some (.ok choice.text, { state with drawn := choice.text :: state.drawn })
  | .randomBytes => some (.ok choice.text, state)
  | .randomDigits _ => some (.ok choice.text, state)
  | .bcryptSalt => some (.ok choice.text, state)
  | .sign payload expiresIn =>
    some (.ok ⟨payload, expiresIn⟩, { state with signed := ⟨payload, expiresIn⟩ :: state.signed })
  | .joinFlight key =>
    match state.memory.pendingRefreshes.find? fun entry => entry.1 == key with
    | some entry => some (.ok (.follower entry.2), state)
    | none => some (.ok (.leader state.memory.flights.length), { state with memory := {
        pendingRefreshes := (key, state.memory.flights.length) :: state.memory.pendingRefreshes
        flights := state.memory.flights ++ [none] } })
  | .settleFlight key flight outcome =>
    some (.ok (), { state with memory := {
      pendingRefreshes := state.memory.pendingRefreshes.filter fun entry => entry.1 != key
      flights := state.memory.flights.set flight (some outcome) } })
  | .awaitFlight flight =>
    match state.memory.flights[flight]? with
    | some (some outcome) => some (outcome, state)
    | _ => none
  | .sendMail mail => state.remote choice () { state with outbox := mail :: state.outbox }
  | .putObject key => state.remote choice () { state with bucket := key :: state.bucket }
  | .deleteObjects keys =>
    state.remote choice () { state with
      bucket := state.bucket.filter fun key => !keys.contains key }
  | .getSignedUrl _ => state.remote choice choice.text state
  | .callEngine _ => state.remote choice choice.engine state
  | .lookupCitizen _ => state.remote choice choice.citizen state
  | .lookupForeignIdentity _ => state.remote choice choice.foreign state
  | .respond _ => some (.ok (), state)

/-- The environment of the service: time passes, then the effect happens. -/
def environment : Interleaving.Environment State Choice Effect.Reply Failure :=
  fun state choice effect => (state.tick choice.elapsed).answer choice effect

end GraconAuth
