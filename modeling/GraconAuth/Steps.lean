/-
This file says once what one performed effect can do to the shared state and what
it is answered. Every later invariant is derived from these facts and does not
look at the environment again.
-/

import GraconAuth.Server

namespace GraconAuth

open Interleaving Rows

/-- One performed effect with its reply. -/
abbrev ServiceEvent := Event Effect.Reply Failure

variable {state next : State} {effect : Effect} {reply : Except Failure effect.Reply}

/-! ### The three kinds of answers -/

theorem query_cases {Value : Type} {choice : Choice} {value : Value}
    {reply : Except Failure Value} (answered : state.query choice value = some (reply, next)) :
    next = state ∧ (reply = .ok value ∨ reply = .error databaseDown) := by
  simp only [State.query] at answered
  split at answered
  · simp only [Option.some.injEq, Prod.mk.injEq] at answered
    exact ⟨answered.2.symm, .inr answered.1.symm⟩
  · simp only [Option.some.injEq, Prod.mk.injEq] at answered
    exact ⟨answered.2.symm, .inl answered.1.symm⟩

theorem query_ok {Value : Type} {choice : Choice} {value found : Value}
    (answered : state.query choice value = some (.ok found, next)) : found = value := by
  rcases (query_cases answered).2 with same | failed
  · exact Except.ok.inj same
  · cases failed

theorem commit_cases {Value : Type} {choice : Choice} {value : Value}
    {result : Except DatabaseError Database} {reply : Except Failure Value}
    (answered : state.commit choice value result = some (reply, next)) :
    ((∃ error, reply = .error (.database error)) ∧ next = state) ∨
      ∃ db, result = .ok db ∧ reply = .ok value ∧ next = { state with db } := by
  simp only [State.commit] at answered
  split at answered
  · simp only [Option.some.injEq, Prod.mk.injEq] at answered
    exact .inl ⟨⟨_, answered.1.symm⟩, answered.2.symm⟩
  · split at answered
    · rename_i db
      simp only [Option.some.injEq, Prod.mk.injEq] at answered
      exact .inr ⟨db, rfl, answered.1.symm, answered.2.symm⟩
    · simp only [Option.some.injEq, Prod.mk.injEq] at answered
      exact .inl ⟨⟨_, answered.1.symm⟩, answered.2.symm⟩

theorem remote_cases {Value : Type} {choice : Choice} {value : Value} {changed : State}
    {reply : Except Failure Value}
    (answered : state.remote choice value changed = some (reply, next)) :
    ((∃ failure, reply = .error failure) ∧ next = state) ∨
      (reply = .ok value ∧ next = changed) := by
  simp only [State.remote] at answered
  split at answered
  · simp only [Option.some.injEq, Prod.mk.injEq] at answered
    exact .inl ⟨⟨_, answered.1.symm⟩, answered.2.symm⟩
  · simp only [Option.some.injEq, Prod.mk.injEq] at answered
    exact .inr ⟨answered.1.symm, answered.2.symm⟩

/-! ### What an effect changes -/

/-- What an effect with its reply can make of a state. -/
inductive Change (state : State) : ServiceEvent → State → Prop
  | nothing (event : ServiceEvent) : Change state event state
  | executed (statements : List Statement) (db : Database)
      (ran : runAll state.clock state.db statements = .ok db) :
      Change state ⟨.execute statements, .ok ()⟩ { state with db }
  | registered (data : RegistrationCreate) (db : Database)
      (ran : state.db.register state.clock data = .ok db) :
      Change state ⟨.registerTransaction data, .ok state.db.nextId⟩ { state with db }
  | logged (eventType : SecurityEvent) (userId : Option UserId) (ipAddress : Option String) :
      Change state ⟨.securityEvent eventType userId ipAddress, .ok ()⟩
        { state with db := { state.db with
          nextId := state.db.nextId + 1
          securityEventLog := state.db.securityEventLog ++ [{
            id := state.db.nextId, eventType, userId, ipAddress, createdAt := state.clock }] } }
  | drew (text : RawToken) :
      Change state ⟨.randomToken, .ok text⟩ { state with drawn := text :: state.drawn }
  | signed (payload : JwtPayload) (expiresIn : String) :
      Change state ⟨.sign payload expiresIn, .ok ⟨payload, expiresIn⟩⟩
        { state with signed := ⟨payload, expiresIn⟩ :: state.signed }
  | joined (key : FlightKey)
      (absent : ∀ entry ∈ state.memory.pendingRefreshes, entry.1 ≠ key) :
      Change state ⟨.joinFlight key, .ok (.leader state.memory.flights.length)⟩
        { state with memory := {
          pendingRefreshes :=
            (key, state.memory.flights.length) :: state.memory.pendingRefreshes
          flights := state.memory.flights ++ [none] } }
  | settled (key : FlightKey) (flight : FlightId) (outcome : Except Failure AuthTokens) :
      Change state ⟨.settleFlight key flight outcome, .ok ()⟩
        { state with memory := {
          pendingRefreshes := state.memory.pendingRefreshes.filter fun entry => entry.1 != key
          flights := state.memory.flights.set flight (some outcome) } }
  | mailed (mail : Mail) :
      Change state ⟨.sendMail mail, .ok ()⟩ { state with outbox := mail :: state.outbox }
  | stored (event : ServiceEvent) (bucket : List ObjectKey) :
      Change state event { state with bucket }

/-- Time passes, and then the effect changes what it can change. -/
theorem performs_change (performs : environment.Performs state effect reply next) :
    ∃ elapsed, Change (state.tick elapsed) ⟨effect, reply⟩ next := by
  obtain ⟨choice, answered⟩ := performs
  refine ⟨choice.elapsed, ?_⟩
  generalize ticked : state.tick choice.elapsed = now
  simp only [environment, ticked] at answered
  have unchanged : ∀ event, next = now → Change now event next := by
    rintro event rfl
    exact .nothing event
  cases effect with
  | userFindUnique _ | citizenIdentityFindFirst _ _ | refreshTokenFindUnique _
  | emailVerificationTokenFindUnique _ | emailVerificationTokenCount _ _
  | passwordResetTokenFindFirst _ _ | idVerificationFindMany _ _
  | idVerificationFindLatest _ | idVerificationCount _ =>
    exact unchanged _ (query_cases answered).1
  | now | randomBytes | randomDigits _ | bcryptSalt | respond _ =>
    simp only [State.answer, Option.some.injEq, Prod.mk.injEq] at answered
    exact unchanged _ answered.2.symm
  | getSignedUrl _ | callEngine _ | lookupCitizen _ | lookupForeignIdentity _ =>
    rcases remote_cases answered with ⟨_, rfl⟩ | ⟨_, rfl⟩
    · exact unchanged _ rfl
    · exact unchanged _ rfl
  | execute statements =>
    rcases commit_cases answered with ⟨_, rfl⟩ | ⟨db, ran, rfl, rfl⟩
    · exact unchanged _ rfl
    · exact .executed statements db ran
  | registerTransaction data =>
    rcases commit_cases answered with ⟨_, rfl⟩ | ⟨db, ran, rfl, rfl⟩
    · exact unchanged _ rfl
    · exact .registered data db ran
  | securityEvent eventType userId ipAddress =>
    simp only [State.answer] at answered
    split at answered
    · simp only [Option.some.injEq, Prod.mk.injEq] at answered
      exact unchanged _ answered.2.symm
    · simp only [Option.some.injEq, Prod.mk.injEq] at answered
      obtain ⟨rfl, rfl⟩ := answered
      exact .logged eventType userId ipAddress
  | randomToken =>
    simp only [State.answer, Option.some.injEq, Prod.mk.injEq] at answered
    obtain ⟨rfl, rfl⟩ := answered
    exact .drew choice.text
  | sign payload expiresIn =>
    simp only [State.answer, Option.some.injEq, Prod.mk.injEq] at answered
    obtain ⟨rfl, rfl⟩ := answered
    exact .signed payload expiresIn
  | joinFlight key =>
    simp only [State.answer] at answered
    split at answered
    · simp only [Option.some.injEq, Prod.mk.injEq] at answered
      exact unchanged _ answered.2.symm
    · rename_i absent
      simp only [Option.some.injEq, Prod.mk.injEq] at answered
      obtain ⟨rfl, rfl⟩ := answered
      exact .joined key (by simpa [List.find?_eq_none] using absent)
  | settleFlight key flight outcome =>
    simp only [State.answer, Option.some.injEq, Prod.mk.injEq] at answered
    obtain ⟨rfl, rfl⟩ := answered
    exact .settled key flight outcome
  | awaitFlight flight =>
    simp only [State.answer] at answered
    split at answered
    · simp only [Option.some.injEq, Prod.mk.injEq] at answered
      exact unchanged _ answered.2.symm
    · cases answered
  | sendMail mail =>
    rcases remote_cases answered with ⟨_, rfl⟩ | ⟨rfl, rfl⟩
    · exact unchanged _ rfl
    · exact .mailed mail
  | putObject _ | deleteObjects _ =>
    rcases remote_cases answered with ⟨_, rfl⟩ | ⟨rfl, rfl⟩
    · exact unchanged _ rfl
    · exact .stored _ _

/-! ### One part of the state at a time -/

theorem performs_clock (performs : environment.Performs state effect reply next) :
    state.clock ≤ next.clock := by
  obtain ⟨elapsed, change⟩ := performs_change performs
  have passed : state.clock ≤ (state.tick elapsed).clock :=
    Int.le_add_of_nonneg_right (Int.natCast_nonneg elapsed)
  cases change <;> exact passed

/-- The tables change by an executed write, by a registration or by a line of the log. -/
theorem performs_db (performs : environment.Performs state effect reply next) :
    next.db = state.db ∨
      (∃ statements, (⟨effect, reply⟩ : ServiceEvent) = ⟨.execute statements, .ok ()⟩ ∧
        runAll next.clock state.db statements = .ok next.db) ∨
      (∃ data, (⟨effect, reply⟩ : ServiceEvent) =
          ⟨.registerTransaction data, .ok state.db.nextId⟩ ∧
        state.db.register next.clock data = .ok next.db) ∨
      ∃ log, next.db = { state.db with
        nextId := state.db.nextId + 1, securityEventLog := log } := by
  obtain ⟨elapsed, change⟩ := performs_change performs
  generalize (⟨effect, reply⟩ : ServiceEvent) = event at change
  cases change with
  | executed statements db ran => exact .inr (.inl ⟨statements, rfl, ran⟩)
  | registered data db ran => exact .inr (.inr (.inl ⟨data, rfl, ran⟩))
  | logged eventType userId ipAddress => exact .inr (.inr (.inr ⟨_, rfl⟩))
  | _ => exact .inl rfl

theorem performs_drawn (performs : environment.Performs state effect reply next) :
    next.drawn = state.drawn ∨
      ∃ text, (⟨effect, reply⟩ : ServiceEvent) = ⟨.randomToken, .ok text⟩ ∧
        next.drawn = text :: state.drawn := by
  obtain ⟨elapsed, change⟩ := performs_change performs
  generalize (⟨effect, reply⟩ : ServiceEvent) = event at change
  cases change with
  | drew text => exact .inr ⟨text, rfl, rfl⟩
  | _ => exact .inl rfl

theorem performs_signed (performs : environment.Performs state effect reply next) :
    next.signed = state.signed ∨
      ∃ payload expiresIn, effect = .sign payload expiresIn ∧
        next.signed = ⟨payload, expiresIn⟩ :: state.signed := by
  obtain ⟨elapsed, change⟩ := performs_change performs
  generalize same : (⟨effect, reply⟩ : ServiceEvent) = event at change
  cases change with
  | signed payload expiresIn => exact .inr ⟨payload, expiresIn, congrArg Event.effect same, rfl⟩
  | _ => exact .inl rfl

theorem performs_outbox (performs : environment.Performs state effect reply next) :
    next.outbox = state.outbox ∨
      ∃ mail, (⟨effect, reply⟩ : ServiceEvent) = ⟨.sendMail mail, .ok ()⟩ ∧
        next.outbox = mail :: state.outbox := by
  obtain ⟨elapsed, change⟩ := performs_change performs
  generalize (⟨effect, reply⟩ : ServiceEvent) = event at change
  cases change with
  | mailed mail => exact .inr ⟨mail, rfl, rfl⟩
  | _ => exact .inl rfl

/-- The effect starts, joins or settles a flight. -/
def Effect.flies : Effect → Bool
  | .joinFlight _ | .settleFlight _ _ _ => true
  | _ => false

/-- No other effect changes the map of pending refreshes. -/
theorem performs_memory (performs : environment.Performs state effect reply next)
    (flightless : effect.flies = false) : next.memory = state.memory := by
  obtain ⟨elapsed, change⟩ := performs_change performs
  generalize same : (⟨effect, reply⟩ : ServiceEvent) = event at change
  cases change with
  | joined key absent =>
    rw [show effect = _ from congrArg Event.effect same] at flightless
    cases flightless
  | settled key flight outcome =>
    rw [show effect = _ from congrArg Event.effect same] at flightless
    cases flightless
  | _ => rfl

/-! ### Replies -/

/-- An executed write was carried out on the tables as they were. -/
theorem performs_execute {statements : List Statement} {reply : Except Failure Unit}
    (performs : environment.Performs state (.execute statements) reply next) :
    (reply = .ok () ∧ runAll next.clock state.db statements = .ok next.db) ∨
      ((∃ error, reply = .error (.database error)) ∧ next.db = state.db) := by
  obtain ⟨choice, answered⟩ := performs
  rcases commit_cases answered with ⟨failed, rfl⟩ | ⟨db, ran, rfl, rfl⟩
  · exact .inr ⟨failed, rfl⟩
  · exact .inl ⟨rfl, ran⟩

/-- A registration answers with the id it has given to the user. -/
theorem performs_registerTransaction {data : RegistrationCreate} {userId : UserId}
    (performs : environment.Performs state (.registerTransaction data) (.ok userId) next) :
    userId = state.db.nextId ∧ state.db.register next.clock data = .ok next.db := by
  obtain ⟨choice, answered⟩ := performs
  rcases commit_cases answered with ⟨⟨_, failed⟩, _⟩ | ⟨db, ran, same, rfl⟩
  · cases failed
  · exact ⟨Except.ok.inj same, ran⟩

/-- A registration that meets the unique columns was refused by the tables. -/
theorem performs_registerTransaction_conflict {data : RegistrationCreate}
    (performs : environment.Performs state (.registerTransaction data)
      (.error (.database .uniqueConstraint)) next) :
    ∃ clock, state.db.register clock data = .error .uniqueConstraint := by
  obtain ⟨choice, answered⟩ := performs
  refine ⟨(state.tick choice.elapsed).clock, ?_⟩
  simp only [environment, State.answer, State.commit] at answered
  split at answered
  · cases answered
  · split at answered
    · cases answered
    · rename_i error ran
      cases answered
      exact ran

theorem performs_citizenIdentityFindFirst {identityType : IdentityType} {identityHash : String}
    {found : Option RowId}
    (performs : environment.Performs state (.citizenIdentityFindFirst identityType identityHash)
      (.ok found) next) :
    found = (state.db.findCitizenIdentity identityType identityHash).map (·.id) := by
  obtain ⟨choice, answered⟩ := performs
  exact query_ok answered

theorem performs_userFindUnique {filter : UserWhere} {found : Option UserRecord}
    (performs : environment.Performs state (.userFindUnique filter) (.ok found) next) :
    found = (state.db.findUser filter).map state.db.withRelations := by
  obtain ⟨choice, answered⟩ := performs
  exact query_ok answered

theorem performs_refreshTokenFindUnique {tokenHash : TokenHash}
    {found : Option (RefreshTokenRow × UserRow)}
    (performs : environment.Performs state (.refreshTokenFindUnique tokenHash) (.ok found) next) :
    found = state.db.findRefreshTokenWithUser tokenHash := by
  obtain ⟨choice, answered⟩ := performs
  exact query_ok answered

theorem performs_emailVerificationTokenFindUnique {userId : UserId}
    {found : Option (EmailVerificationTokenRow × UserRecord)}
    (performs : environment.Performs state (.emailVerificationTokenFindUnique userId) (.ok found)
      next) :
    found = state.db.findEmailVerificationTokenWithUser userId := by
  obtain ⟨choice, answered⟩ := performs
  exact query_ok answered

theorem performs_emailVerificationTokenCount {userId : UserId} {since : Timestamp} {count : Nat}
    (performs : environment.Performs state (.emailVerificationTokenCount userId since) (.ok count)
      next) :
    count = state.db.emailVerificationTokens.countP fun row =>
      row.userId == userId && decide (since ≤ row.createdAt) := by
  obtain ⟨choice, answered⟩ := performs
  exact query_ok answered

theorem performs_passwordResetTokenFindFirst {userId : UserId} {tokenHash : TokenHash}
    {found : Option PasswordResetTokenRow}
    (performs : environment.Performs state (.passwordResetTokenFindFirst userId tokenHash)
      (.ok found) next) :
    found = state.db.findPasswordResetToken userId tokenHash := by
  obtain ⟨choice, answered⟩ := performs
  exact query_ok answered

theorem performs_idVerificationFindMany {userId : UserId} {since : Timestamp}
    {found : List Timestamp}
    (performs : environment.Performs state (.idVerificationFindMany userId since) (.ok found)
      next) :
    found = state.db.attemptsSince userId since := by
  obtain ⟨choice, answered⟩ := performs
  exact query_ok answered

/-- The clock read is the clock afterwards. -/
theorem performs_now {reply : Except Failure Timestamp}
    (performs : environment.Performs state .now reply next) :
    reply = .ok next.clock := by
  obtain ⟨choice, answered⟩ := performs
  simp only [environment, State.answer, Option.some.injEq, Prod.mk.injEq] at answered
  obtain ⟨rfl, rfl⟩ := answered
  rfl

theorem performs_bcryptSalt {reply : Except Failure String}
    (performs : environment.Performs state .bcryptSalt reply next) : ∃ salt, reply = .ok salt := by
  obtain ⟨choice, answered⟩ := performs
  simp only [environment, State.answer, Option.some.injEq, Prod.mk.injEq] at answered
  exact ⟨_, answered.1.symm⟩

theorem performs_randomToken {reply : Except Failure RawToken}
    (performs : environment.Performs state .randomToken reply next) :
    ∃ text, reply = .ok text ∧ next.drawn = text :: state.drawn := by
  obtain ⟨choice, answered⟩ := performs
  simp only [environment, State.answer, Option.some.injEq, Prod.mk.injEq] at answered
  obtain ⟨rfl, rfl⟩ := answered
  exact ⟨_, rfl, rfl⟩

/-- A call joins the flight of its key, or starts one when there is none. -/
theorem performs_joinFlight {key : FlightKey} {reply : Except Failure FlightRole}
    (performs : environment.Performs state (.joinFlight key) reply next) :
    (reply = .ok (.leader state.memory.flights.length) ∧
        (∀ entry ∈ state.memory.pendingRefreshes, entry.1 ≠ key) ∧
        next.memory = ⟨(key, state.memory.flights.length) :: state.memory.pendingRefreshes,
          state.memory.flights ++ [none]⟩) ∨
      ∃ flight, reply = .ok (.follower flight) ∧
        (key, flight) ∈ state.memory.pendingRefreshes ∧ next.memory = state.memory := by
  obtain ⟨choice, answered⟩ := performs
  simp only [environment, State.answer] at answered
  split at answered
  · rename_i entry found
    simp only [Option.some.injEq, Prod.mk.injEq] at answered
    obtain ⟨rfl, rfl⟩ := answered
    have matched : entry.1 = key := by simpa using List.find?_some found
    exact .inr ⟨entry.2, rfl, matched ▸ List.mem_of_find?_eq_some found, rfl⟩
  · rename_i absent
    simp only [Option.some.injEq, Prod.mk.injEq] at answered
    obtain ⟨rfl, rfl⟩ := answered
    refine .inl ⟨rfl, fun entry pending => ?_, rfl⟩
    simpa using List.find?_eq_none.mp absent entry pending

theorem performs_settleFlight {key : FlightKey} {flight : FlightId}
    {outcome : Except Failure AuthTokens} {reply : Except Failure Unit}
    (performs : environment.Performs state (.settleFlight key flight outcome) reply next) :
    reply = .ok () ∧
      next.memory = ⟨state.memory.pendingRefreshes.filter fun entry => entry.1 != key,
        state.memory.flights.set flight (some outcome)⟩ := by
  obtain ⟨choice, answered⟩ := performs
  simp only [environment, State.answer, Option.some.injEq, Prod.mk.injEq] at answered
  obtain ⟨rfl, rfl⟩ := answered
  exact ⟨rfl, rfl⟩

theorem performs_awaitFlight {flight : FlightId} {reply : Except Failure AuthTokens}
    (performs : environment.Performs state (.awaitFlight flight) reply next) :
    state.memory.flights[flight]? = some (some reply) := by
  obtain ⟨choice, answered⟩ := performs
  simp only [environment, State.answer] at answered
  split at answered
  · rename_i settled
    simp only [Option.some.injEq, Prod.mk.injEq] at answered
    obtain ⟨rfl, _⟩ := answered
    exact settled
  · cases answered

/-! ### Reading an event -/

/-- An event that is known is performed as such. -/
theorem performs_event {event : ServiceEvent}
    (performs : environment.Performs state event.effect event.reply next)
    (same : event = ⟨effect, reply⟩) : environment.Performs state effect reply next := by
  subst same
  exact performs

/-- The statements that the event has carried out. -/
def executed : ServiceEvent → List Statement
  | ⟨.execute statements, .ok _⟩ => statements
  | _ => []

theorem mem_executed {event : ServiceEvent} {statement : Statement}
    (listed : statement ∈ executed event) :
    event = ⟨.execute (executed event), .ok ()⟩ := by
  unfold executed at listed ⊢
  split
  · rfl
  · rename_i other
    split at listed
    · exact absurd rfl (other _ _)
    · cases listed

theorem event_of_executed {event : ServiceEvent} {statement : Statement}
    {rest : List Statement} (carriedOut : executed event = statement :: rest) :
    event = ⟨.execute (statement :: rest), .ok ()⟩ := by
  have listed : statement ∈ executed event := by rw [carriedOut]; exact List.mem_cons_self
  rw [← carriedOut]
  exact mem_executed listed

/-- The stored token, with its user, that the event has read. -/
def readToken : ServiceEvent → Option (RefreshTokenRow × UserRow)
  | ⟨.refreshTokenFindUnique _, .ok found⟩ => found
  | _ => none

/-- The account that the event has read. -/
def readAccount : ServiceEvent → Option UserRecord
  | ⟨.userFindUnique _, .ok found⟩ => found
  | _ => none

/-- The user row that the event has read, with the account or with a token. -/
def readUser : ServiceEvent → Option UserRow
  | ⟨.userFindUnique _, .ok found⟩ => found.map (·.user)
  | ⟨.refreshTokenFindUnique _, .ok found⟩ => found.map (·.2)
  | ⟨.emailVerificationTokenFindUnique _, .ok found⟩ => found.map (·.2.user)
  | _ => none

/-- The user whose password the entry has replaced. -/
def replacedPassword (entry : ServiceEntry) : Option UserId :=
  match executed entry.event with
  | .userUpdate id data :: _ => if data.passwordHash.isSome then some id else none
  | _ => none

theorem replacedPassword_some {entry : ServiceEntry} {userId : UserId}
    (replaced : replacedPassword entry = some userId) :
    ∃ data rest, executed entry.event = .userUpdate userId data :: rest ∧
      data.passwordHash.isSome = true := by
  unfold replacedPassword at replaced
  split at replaced
  · rename_i id data rest carriedOut
    split at replaced
    · rename_i given
      cases replaced
      exact ⟨data, rest, carriedOut, given⟩
    · cases replaced
  · cases replaced

/-- The random token that the event has drawn. -/
def drew : ServiceEvent → Option RawToken
  | ⟨.randomToken, .ok text⟩ => some text
  | _ => none

theorem event_of_drew {event : ServiceEvent} {token : RawToken} (drawn : token ∈ drew event) :
    event = ⟨.randomToken, .ok token⟩ := by
  unfold drew at drawn
  split at drawn
  · cases drawn
    rfl
  · cases drawn

/-- The event sends the response of its call. -/
def responds : ServiceEvent → Bool
  | ⟨.respond _, _⟩ => true
  | _ => false

/-- The call of a thread has returned. -/
def Answered (world : ServiceWorld) (thread : Nat) : Prop :=
  ∃ entry ∈ world.history, entry.thread = thread ∧ responds entry.event = true

instance (world : ServiceWorld) (thread : Nat) : Decidable (Answered world thread) :=
  inferInstanceAs (Decidable (∃ entry ∈ _, _))

/-- A refresh behind the map of pending refreshes. -/
def Request.rotates : Request → Bool
  | .refreshTokens _ _ _ _ | .upgradeSession _ _ _ _ => true
  | _ => false

/-! ### What every run may count on -/

/-- What a reply says about itself, whatever the tables hold: which row a read has found, and that
the map in memory never fails. -/
def Plausible : ServiceEvent → Prop
  | ⟨.userFindUnique (.byId id), .ok (some record)⟩ => record.user.id = id
  | ⟨.refreshTokenFindUnique tokenHash, .ok (some (storedToken, user))⟩ =>
    storedToken.tokenHash = tokenHash ∧ user.id = storedToken.userId
  | ⟨.emailVerificationTokenFindUnique userId, .ok (some (tokenRecord, record))⟩ =>
    tokenRecord.userId = userId ∧ record.user.id = userId
  | ⟨.passwordResetTokenFindFirst userId tokenHash, .ok (some row)⟩ =>
    row.userId = userId ∧ row.tokenHash = tokenHash
  | ⟨.joinFlight _, .error _⟩ | ⟨.settleFlight _ _ _, .error _⟩ => False
  | _ => True

theorem findUser_byId {db : Database} {id : UserId} {user : UserRow}
    (found : db.findUser (.byId id) = some user) : user ∈ db.users ∧ user.id = id := by
  refine ⟨List.mem_of_find?_eq_some found, ?_⟩
  simpa [UserWhere.holds] using List.find?_some found

theorem findRefreshTokenWithUser_some {db : Database} {tokenHash : TokenHash}
    {storedToken : RefreshTokenRow} {user : UserRow}
    (found : db.findRefreshTokenWithUser tokenHash = some (storedToken, user)) :
    storedToken ∈ db.refreshTokens ∧ storedToken.tokenHash = tokenHash ∧
      user ∈ db.users ∧ user.id = storedToken.userId := by
  simp only [Database.findRefreshTokenWithUser, bind, Option.bind_eq_some_iff, pure,
    Option.some.injEq, Prod.mk.injEq] at found
  obtain ⟨row, foundRow, owner, foundOwner, rfl, rfl⟩ := found
  obtain ⟨stored, same⟩ := findUser_byId foundOwner
  refine ⟨List.mem_of_find?_eq_some foundRow, ?_, stored, same⟩
  simpa using List.find?_some foundRow

theorem findRefreshToken_of_withUser {db : Database} {tokenHash : TokenHash}
    {found : RefreshTokenRow × UserRow}
    (lookup : db.findRefreshTokenWithUser tokenHash = some found) :
    db.findRefreshToken tokenHash = some found.1 := by
  simp only [Database.findRefreshTokenWithUser, bind, Option.bind_eq_some_iff, pure,
    Option.some.injEq] at lookup
  obtain ⟨row, foundRow, owner, foundOwner, rfl⟩ := lookup
  exact foundRow

theorem findEmailVerificationTokenWithUser_some {db : Database} {userId : UserId}
    {tokenRecord : EmailVerificationTokenRow} {record : UserRecord}
    (found : db.findEmailVerificationTokenWithUser userId = some (tokenRecord, record)) :
    tokenRecord ∈ db.emailVerificationTokens ∧ tokenRecord.userId = userId ∧
      db.findUser (.byId userId) = some record.user := by
  simp only [Database.findEmailVerificationTokenWithUser, bind, Option.bind_eq_some_iff, pure,
    Option.some.injEq, Prod.mk.injEq] at found
  obtain ⟨row, foundRow, owner, foundOwner, rfl, rfl⟩ := found
  have same : row.userId = userId := by simpa using List.find?_some foundRow
  exact ⟨List.mem_of_find?_eq_some foundRow, same, same ▸ foundOwner⟩

theorem findEmailVerificationToken_of_withUser {db : Database} {userId : UserId}
    {tokenRecord : EmailVerificationTokenRow} {record : UserRecord}
    (found : db.findEmailVerificationTokenWithUser userId = some (tokenRecord, record)) :
    db.findEmailVerificationToken userId = some tokenRecord := by
  simp only [Database.findEmailVerificationTokenWithUser, bind, Option.bind_eq_some_iff, pure,
    Option.some.injEq, Prod.mk.injEq] at found
  obtain ⟨row, foundRow, _, _, rfl, _⟩ := found
  exact foundRow

theorem findPasswordResetToken_some {db : Database} {userId : UserId} {tokenHash : TokenHash}
    {row : PasswordResetTokenRow} (found : db.findPasswordResetToken userId tokenHash = some row) :
    row ∈ db.passwordResetTokens ∧ row.userId = userId ∧ row.tokenHash = tokenHash := by
  refine ⟨List.mem_of_find?_eq_some found, ?_⟩
  simpa using List.find?_some found

/-- A user row that was read was stored, and reading it has changed nothing. -/
theorem performs_readUser (performs : environment.Performs state effect reply next)
    {user : UserRow} (read : readUser ⟨effect, reply⟩ = some user) :
    user ∈ state.db.users ∧ next.db = state.db := by
  have unchanged : (∀ statements, effect ≠ .execute statements) →
      (∀ data, effect ≠ .registerTransaction data) →
      (∀ type id ip, effect ≠ .securityEvent type id ip) → next.db = state.db := by
    intro unexecuted unregistered unlogged
    obtain ⟨elapsed, change⟩ := performs_change performs
    generalize same : (⟨effect, reply⟩ : ServiceEvent) = event at change
    cases change with
    | executed statements db ran => exact absurd (congrArg Event.effect same) (unexecuted _)
    | registered data db ran => exact absurd (congrArg Event.effect same) (unregistered _)
    | logged eventType userId ipAddress =>
      exact absurd (congrArg Event.effect same) (unlogged _ _ _)
    | _ => rfl
  unfold readUser at read
  split at read
  · rename_i filter found same
    cases same
    refine ⟨?_, unchanged (by simp) (by simp) (by simp)⟩
    rw [performs_userFindUnique performs] at read
    obtain ⟨record, answered, rfl⟩ := Option.map_eq_some_iff.mp read
    obtain ⟨row, located, rfl⟩ := Option.map_eq_some_iff.mp answered
    exact List.mem_of_find?_eq_some located
  · rename_i tokenHash found same
    cases same
    refine ⟨?_, unchanged (by simp) (by simp) (by simp)⟩
    rw [performs_refreshTokenFindUnique performs] at read
    obtain ⟨⟨row, owner⟩, located, rfl⟩ := Option.map_eq_some_iff.mp read
    exact (findRefreshTokenWithUser_some located).2.2.1
  · rename_i userId found same
    cases same
    refine ⟨?_, unchanged (by simp) (by simp) (by simp)⟩
    rw [performs_emailVerificationTokenFindUnique performs] at read
    obtain ⟨⟨row, record⟩, located, rfl⟩ := Option.map_eq_some_iff.mp read
    exact (findUser_byId (findEmailVerificationTokenWithUser_some located).2.2).1
  · cases read

theorem performs_plausible (performs : environment.Performs state effect reply next) :
    Plausible ⟨effect, reply⟩ := by
  unfold Plausible
  split
  · rename_i id record same
    cases same
    have found := (performs_userFindUnique performs).symm
    simp only [Option.map_eq_some_iff] at found
    obtain ⟨user, foundUser, rfl⟩ := found
    exact (findUser_byId foundUser).2
  · rename_i tokenHash storedToken user same
    cases same
    obtain ⟨_, hash, _, owner⟩ :=
      findRefreshTokenWithUser_some (performs_refreshTokenFindUnique performs).symm
    exact ⟨hash, owner⟩
  · rename_i userId tokenRecord record same
    cases same
    obtain ⟨_, owner, found⟩ := findEmailVerificationTokenWithUser_some
      (performs_emailVerificationTokenFindUnique performs).symm
    exact ⟨owner, (findUser_byId found).2⟩
  · rename_i userId tokenHash row same
    cases same
    exact (findPasswordResetToken_some (performs_passwordResetTokenFindFirst performs).symm).2
  · rename_i key failure same
    cases same
    rcases performs_joinFlight performs with ⟨failed, _⟩ | ⟨_, failed, _⟩ <;> cases failed
  · rename_i key flight outcome failure same
    cases same
    cases (performs_settleFlight performs).1
  · trivial

/-- A rule for calls of the service. -/
abbrev ServiceConduct := Program.Conduct Effect.Reply Failure

/-- The rule that counts on plausible replies. -/
abbrev conduct (allows : List ServiceEvent → Effect → Prop) : ServiceConduct where
  expects := Plausible
  allows := allows

/-- A token once signed stays signed. -/
theorem accepts_lasting {request : Request}
    (performs : environment.Performs state effect reply next)
    (accepted : accepts state request = true) : accepts next request = true := by
  simp only [accepts] at accepted ⊢
  split
  · rfl
  · rename_i jwt metadata guard
    simp only [guard] at accepted
    rcases performs_signed performs with same | ⟨payload, expiresIn, _, same⟩
    · rw [same]
      exact accepted
    · rw [same]
      simp only [List.contains_cons, accepted, Bool.or_true]

/-- Every run of the service has a chronicle when every request keeps to the rule. -/
theorem reachable_chronicle {runtime : Runtime} {regime : Regime State Effect.Reply Failure Request}
    {initial : State} {pool : ServicePool} (allows : Request → List ServiceEvent → Effect → Prop)
    (reachable : Reachable (service runtime) regime initial pool)
    (follows : ∀ request, regime.admits request →
      (serve runtime request).Abides (conduct (allows request)) []) :
    Chronicle (service runtime) regime (fun request => conduct (allows request)) initial
      pool.world :=
  reachable.chronicle (fun _ _ _ _ _ performs accepted => accepts_lasting performs accepted)
    (fun _ _ _ _ _ performs => performs_plausible performs) follows

end GraconAuth
