/-
This file runs the service when nothing goes wrong: the database and the remote
services do what they are asked, however long that takes, and what they hand over and
what is drawn is given. What a program returns there is what the service delivers.

For each effect one lemma says what it returns and what it makes of the tables, the
mails and the clock.
-/

import GraconAuth.Guarantees
import GraconAuth.Steps

namespace GraconAuth

open Interleaving Program Rows

/-- What is handed over from outside: the token and the digits that are drawn, and the answers of
the remote services. -/
structure Supply where
  token : RawToken := ""
  digits : String := ""
  citizen : CitizenData := ⟨"", "", "", 0, ""⟩
  foreign : Option ForeignIdentityProfile := none
  engine : EngineVerificationResponse := ⟨false, 0, 0, false, 0, none⟩

variable {supply : Supply} {state : State}

/-- Nothing fails, and what is handed over is the given supply. -/
def calmly (supply : Supply) (choice : Choice) (effect : Effect) : Bool :=
  choice.fails.isNone && match effect with
    | .randomToken => choice.text == supply.token
    | .randomDigits _ => choice.text == supply.digits
    | .lookupCitizen _ => choice.citizen == supply.citizen
    | .lookupForeignIdentity _ => choice.foreign == supply.foreign
    | .callEngine _ => choice.engine == supply.engine
    | _ => true

/-- The environment in which nothing fails. -/
def calm (supply : Supply) : Environment State Choice Effect.Reply Failure :=
  environment.restrict (calmly supply)

/-- The choice that hands the supply over. -/
def Supply.choice (supply : Supply) (effect : Effect) : Choice where
  text := match effect with
    | .randomDigits _ => supply.digits
    | _ => supply.token
  engine := supply.engine
  citizen := supply.citizen
  foreign := supply.foreign

theorem calmly_choice (effect : Effect) : calmly supply (supply.choice effect) effect = true := by
  cases effect <;> simp [calmly, Supply.choice]

theorem calmly_iff {choice : Choice} {effect : Effect} :
    calmly supply choice effect = true ↔ choice.fails = none ∧ (match effect with
      | .randomToken => choice.text = supply.token
      | .randomDigits _ => choice.text = supply.digits
      | .lookupCitizen _ => choice.citizen = supply.citizen
      | .lookupForeignIdentity _ => choice.foreign = supply.foreign
      | .callEngine _ => choice.engine = supply.engine
      | _ => True) := by
  unfold calmly
  rw [Bool.and_eq_true, Option.isNone_iff_eq_none]
  refine and_congr_right fun _ => ?_
  cases effect <;> simp

theorem calmly_fails {choice : Choice} {effect : Effect}
    (calm : calmly supply choice effect = true) : choice.fails = none := (calmly_iff.mp calm).1

/-- What has become of the tables and the mails in the meantime. -/
structure Meanwhile (state now : State) (db : Database) (outbox : List Mail) : Prop where
  clock : state.clock ≤ now.clock
  db : now.db = db
  outbox : now.outbox = outbox

/-- Time has passed, and the tables and the mails are these. -/
theorem meanwhile_tick {now : State} (elapsed : Nat) (clock : now.clock = state.clock + elapsed) :
    Meanwhile state now now.db now.outbox :=
  ⟨clock ▸ Int.le_add_of_nonneg_right (Int.natCast_nonneg _), rfl, rfl⟩

/-- Nothing has become of them since. -/
theorem Meanwhile.wait {now later : State} {db : Database} {outbox : List Mail}
    (first : Meanwhile state now db outbox) (second : Meanwhile now later now.db now.outbox) :
    Meanwhile state later db outbox :=
  ⟨first.clock.trans second.clock, second.db.trans first.db, second.outbox.trans first.outbox⟩

/-- An effect that every calm choice answers. -/
theorem returns_request {effect : Effect} {post : effect.Reply → State → Prop}
    (answers : ∀ choice, calmly supply choice effect = true →
      ∃ value now, (state.tick choice.elapsed).answer choice effect = some (.ok value, now) ∧
        post value now) :
    (request effect).Returns (calm supply) post state := by
  refine returns_perform ?_ fun reply now performs => ?_
  · obtain ⟨value, now, answered, -⟩ := answers _ (calmly_choice effect)
    exact ⟨.ok value, now, Environment.performs_restrict.mpr
      ⟨_, calmly_choice effect, answered⟩⟩
  · obtain ⟨choice, calm, answered⟩ := Environment.performs_restrict.mp performs
    obtain ⟨value, after, expected, holds⟩ := answers choice calm
    have same : (some (reply, now) : Option (Except Failure effect.Reply × State)) =
        some (.ok value, after) := answered.symm.trans expected
    obtain ⟨rfl, rfl⟩ := Prod.mk.inj (Option.some.inj same)
    exact ⟨value, rfl, holds⟩

/-! ### Queries -/

/-- A query that does not fail. -/
theorem query_calm {Value : Type} {choice : Choice} (fails : choice.fails = none) (value : Value) :
    state.query choice value = some (.ok value, state) := by
  rw [State.query, fails]
  rfl

/-- A remote call that does not fail. -/
theorem remote_calm {Value : Type} {choice : Choice} {next : State}
    (fails : choice.fails = none) (value : Value) :
    state.remote choice value next = some (.ok value, next) := by
  unfold State.remote
  rw [fails]

theorem returns_userFindUnique (filter : UserWhere) :
    (request (.userFindUnique filter)).Returns (calm supply) (fun found now =>
      found = (state.db.findUser filter).map state.db.withRelations ∧
        Meanwhile state now state.db state.outbox) state :=
  returns_request fun choice calm =>
    ⟨_, _, query_calm (calmly_fails calm) _, rfl, meanwhile_tick choice.elapsed rfl⟩

theorem returns_emailVerificationTokenFindUnique (userId : UserId) :
    (request (.emailVerificationTokenFindUnique userId)).Returns (calm supply) (fun found now =>
      found = state.db.findEmailVerificationTokenWithUser userId ∧
        Meanwhile state now state.db state.outbox) state :=
  returns_request fun choice calm =>
    ⟨_, _, query_calm (calmly_fails calm) _, rfl, meanwhile_tick choice.elapsed rfl⟩

theorem returns_emailVerificationTokenCount (userId : UserId) (since : Timestamp) :
    (request (.emailVerificationTokenCount userId since)).Returns (calm supply) (fun count now =>
      count = (state.db.emailVerificationTokens.countP fun row =>
          row.userId == userId && decide (since ≤ row.createdAt)) ∧
        Meanwhile state now state.db state.outbox) state :=
  returns_request fun choice calm =>
    ⟨_, _, query_calm (calmly_fails calm) _, rfl, meanwhile_tick choice.elapsed rfl⟩

theorem returns_passwordResetTokenFindFirst (userId : UserId) (tokenHash : TokenHash) :
    (request (.passwordResetTokenFindFirst userId tokenHash)).Returns (calm supply)
      (fun found now => found = state.db.findPasswordResetToken userId tokenHash ∧
        Meanwhile state now state.db state.outbox) state :=
  returns_request fun choice calm =>
    ⟨_, _, query_calm (calmly_fails calm) _, rfl, meanwhile_tick choice.elapsed rfl⟩

theorem returns_citizenIdentityFindFirst (identityType : IdentityType) (identityHash : String) :
    (request (.citizenIdentityFindFirst identityType identityHash)).Returns (calm supply)
      (fun found now =>
        found = (state.db.findCitizenIdentity identityType identityHash).map (·.id) ∧
          Meanwhile state now state.db state.outbox) state :=
  returns_request fun choice calm =>
    ⟨_, _, query_calm (calmly_fails calm) _, rfl, meanwhile_tick choice.elapsed rfl⟩

theorem returns_idVerificationFindMany (userId : UserId) (since : Timestamp) :
    (request (.idVerificationFindMany userId since)).Returns (calm supply) (fun found now =>
      found = state.db.attemptsSince userId since ∧
        Meanwhile state now state.db state.outbox) state :=
  returns_request fun choice calm =>
    ⟨_, _, query_calm (calmly_fails calm) _, rfl, meanwhile_tick choice.elapsed rfl⟩

theorem returns_idVerificationCount (userId : UserId) :
    (request (.idVerificationCount userId)).Returns (calm supply) (fun _ now =>
      Meanwhile state now state.db state.outbox) state :=
  returns_request fun choice calm =>
    ⟨_, _, query_calm (calmly_fails calm) _, meanwhile_tick choice.elapsed rfl⟩

/-! ### What leaves the tables alone -/

theorem returns_now :
    (request .now).Returns (calm supply) (fun time now =>
      time = now.clock ∧ Meanwhile state now state.db state.outbox) state :=
  returns_request fun choice _ => ⟨_, _, rfl, rfl, meanwhile_tick choice.elapsed rfl⟩

theorem returns_randomToken :
    (request .randomToken).Returns (calm supply) (fun drawn now =>
      drawn = supply.token ∧ Meanwhile state now state.db state.outbox) state := by
  exact returns_request fun choice calm =>
    ⟨_, _, rfl, (calmly_iff.mp calm).2, meanwhile_tick choice.elapsed rfl⟩

theorem returns_bcryptSalt :
    (request .bcryptSalt).Returns (calm supply) (fun _ now =>
      Meanwhile state now state.db state.outbox) state :=
  returns_request fun choice _ => ⟨_, _, rfl, meanwhile_tick choice.elapsed rfl⟩

theorem returns_sign (payload : JwtPayload) (expiresIn : String) :
    (request (.sign payload expiresIn)).Returns (calm supply) (fun jwt now =>
      jwt = ⟨payload, expiresIn⟩ ∧ Meanwhile state now state.db state.outbox) state :=
  returns_request fun choice _ => ⟨_, _, rfl, rfl, meanwhile_tick choice.elapsed rfl⟩

theorem returns_getSignedUrl (key : ObjectKey) :
    (request (.getSignedUrl key)).Returns (calm supply) (fun _ now =>
      Meanwhile state now state.db state.outbox) state := by
  exact returns_request fun choice calm => ⟨_, _, remote_calm (calmly_fails calm) _,
    meanwhile_tick choice.elapsed rfl⟩

theorem returns_randomBytes :
    (request .randomBytes).Returns (calm supply) (fun _ now =>
      Meanwhile state now state.db state.outbox) state :=
  returns_request fun choice _ => ⟨_, _, rfl, meanwhile_tick choice.elapsed rfl⟩

theorem returns_randomDigits (count : Nat) :
    (request (.randomDigits count)).Returns (calm supply) (fun drawn now =>
      drawn = supply.digits ∧ Meanwhile state now state.db state.outbox) state :=
  returns_request fun choice calm =>
    ⟨_, _, rfl, (calmly_iff.mp calm).2, meanwhile_tick choice.elapsed rfl⟩

theorem returns_lookupCitizen (documentNumber : String) :
    (request (.lookupCitizen documentNumber)).Returns (calm supply) (fun found now =>
      found = supply.citizen ∧ Meanwhile state now state.db state.outbox) state :=
  returns_request fun choice calm => ⟨_, _, remote_calm (calmly_fails calm) _,
    (calmly_iff.mp calm).2, meanwhile_tick choice.elapsed rfl⟩

theorem returns_lookupForeignIdentity (fin : String) :
    (request (.lookupForeignIdentity fin)).Returns (calm supply) (fun found now =>
      found = supply.foreign ∧ Meanwhile state now state.db state.outbox) state :=
  returns_request fun choice calm => ⟨_, _, remote_calm (calmly_fails calm) _,
    (calmly_iff.mp calm).2, meanwhile_tick choice.elapsed rfl⟩

theorem returns_callEngine (payload : EngineRequest) :
    (request (.callEngine payload)).Returns (calm supply) (fun answer now =>
      answer = supply.engine ∧ Meanwhile state now state.db state.outbox) state :=
  returns_request fun choice calm => ⟨_, _, remote_calm (calmly_fails calm) _,
    (calmly_iff.mp calm).2, meanwhile_tick choice.elapsed rfl⟩

theorem returns_putObject (key : ObjectKey) :
    (request (.putObject key)).Returns (calm supply) (fun _ now =>
      Meanwhile state now state.db state.outbox) state :=
  returns_request fun choice calm => ⟨_, _, remote_calm (calmly_fails calm) _,
    meanwhile_tick choice.elapsed rfl⟩

theorem returns_deleteObjects (keys : List ObjectKey) :
    (request (.deleteObjects keys)).Returns (calm supply) (fun _ now =>
      Meanwhile state now state.db state.outbox) state :=
  returns_request fun choice calm => ⟨_, _, remote_calm (calmly_fails calm) _,
    meanwhile_tick choice.elapsed rfl⟩

theorem returns_respond (outcome : Except Failure Response) :
    (request (.respond outcome)).Returns (calm supply) (fun _ now =>
      Meanwhile state now state.db state.outbox) state :=
  returns_request fun choice _ => ⟨_, _, rfl, meanwhile_tick choice.elapsed rfl⟩

/-! ### Writes -/

/-- The tables with one more entry in the log. -/
def Database.Logs (db next : Database) : Prop :=
  ∃ log, next = { db with nextId := db.nextId + 1, securityEventLog := log }

theorem returns_securityEvent (eventType : SecurityEvent) (userId : Option UserId)
    (ipAddress : Option String) :
    (request (.securityEvent eventType userId ipAddress)).Returns (calm supply) (fun _ now =>
      ∃ db, state.db.Logs db ∧ Meanwhile state now db state.outbox) state := by
  refine returns_request fun choice calm => ?_
  unfold State.answer
  dsimp only
  rw [calmly_fails calm]
  exact ⟨(), _, rfl, _, ⟨_, rfl⟩, meanwhile_tick choice.elapsed rfl⟩

/-- A write that does not fail. -/
theorem commit_calm {Value : Type} {choice : Choice} (fails : choice.fails = none) (value : Value)
    {result : Except DatabaseError Database} {db : Database} (ran : result = .ok db) :
    state.commit choice value result = some (.ok value, { state with db }) := by
  subst ran
  unfold State.commit
  rw [fails]
  rfl

/-- Statements that can be carried out are carried out. -/
theorem returns_execute {statements : List Statement}
    (runs : ∀ clock, ∃ next, runAll clock state.db statements = .ok next) :
    (execute statements).Returns (calm supply) (fun _ now =>
      ∃ db, runAll now.clock state.db statements = .ok db ∧
        Meanwhile state now db state.outbox) state := by
  refine returns_request fun choice calm => ?_
  obtain ⟨next, ran⟩ := runs (state.clock + choice.elapsed)
  refine ⟨(), { state.tick choice.elapsed with db := next }, ?_, next, ran,
    meanwhile_tick choice.elapsed rfl⟩
  exact commit_calm (calmly_fails calm) () ran

/-- A registration that is not refused is carried out. -/
theorem returns_registerTransaction {data : RegistrationCreate}
    (runs : ∀ clock, ∃ next, state.db.register clock data = .ok next) :
    (request (.registerTransaction data)).Returns (calm supply) (fun userId now =>
      userId = state.db.nextId ∧ ∃ db, state.db.register now.clock data = .ok db ∧
        Meanwhile state now db state.outbox) state := by
  refine returns_request fun choice calm => ?_
  obtain ⟨next, ran⟩ := runs (state.clock + choice.elapsed)
  refine ⟨_, { state.tick choice.elapsed with db := next }, ?_, rfl, next, ran,
    meanwhile_tick choice.elapsed rfl⟩
  exact commit_calm (calmly_fails calm) _ ran

/-- A mail that is sent is delivered. -/
theorem returns_send (mail : Mail) :
    (AppMailerService.send mail).Returns (calm supply) (fun _ now =>
      Meanwhile state now state.db (mail :: state.outbox)) state := by
  have sent : (request (.sendMail mail)).Returns (calm supply) (fun _ now =>
      Meanwhile state now state.db (mail :: state.outbox)) state :=
    returns_request fun choice calm => ⟨_, _, remote_calm (calmly_fails calm) _,
      meanwhile_tick choice.elapsed rfl⟩
  exact sent.rescue _

/-! ### Statements that are carried out -/

theorem updateUnique_of_mem {Row : Type} {matching : Row → Bool} {change : Row → Row}
    {rows : List Row} {row : Row} (stored : row ∈ rows) (matched : matching row = true) :
    updateUnique matching change rows = .ok (updateWhere matching change rows) :=
  if_pos (List.any_eq_true.mpr ⟨row, stored, matched⟩)

variable {clock : Timestamp} {db : Database} {runtime : Runtime}

theorem run_passwordResetTokenUpdate {row : PasswordResetTokenRow}
    (stored : row ∈ db.passwordResetTokens) :
    Statement.run clock db (.passwordResetTokenUpdate row.id) = .ok { db with
      passwordResetTokens := updateWhere (fun other => other.id == row.id)
        (fun other => { other with used := true }) db.passwordResetTokens } := by
  have ran : updateUnique (fun other => other.id == row.id)
      (fun other => { other with used := true }) db.passwordResetTokens = .ok _ :=
    updateUnique_of_mem stored (beq_self_eq_true _)
  simp only [Statement.run, ran]
  rfl

theorem run_emailVerificationTokenUpdate {row : EmailVerificationTokenRow}
    (stored : row ∈ db.emailVerificationTokens) :
    Statement.run clock db (.emailVerificationTokenUpdate row.id) = .ok { db with
      emailVerificationTokens := updateWhere (fun other => other.id == row.id)
        (fun other => { other with used := true }) db.emailVerificationTokens } := by
  have ran : updateUnique (fun other => other.id == row.id)
      (fun other => { other with used := true }) db.emailVerificationTokens = .ok _ :=
    updateUnique_of_mem stored (beq_self_eq_true _)
  simp only [Statement.run, ran]
  rfl

theorem exists_runAll_refreshTokenCreate {data : RefreshTokenCreate}
    (unused : ∀ row ∈ db.refreshTokens, row.tokenHash ≠ data.tokenHash) :
    ∃ next, runAll clock db [.refreshTokenCreate data] = .ok next := by
  have free : ¬(db.refreshTokens.any fun row => row.tokenHash == data.tokenHash) = true := by
    intro taken
    obtain ⟨row, stored, same⟩ := List.any_eq_true.mp taken
    exact unused row stored (beq_iff_eq.mp same)
  simp only [runAll, Statement.run, if_neg free]
  exact ⟨_, rfl⟩

/-- A transaction is carried out when its statements are, one after another. -/
theorem exists_runAll_cons {statement : Statement} {rest : List Statement} {between : Database}
    (ran : statement.run clock db = .ok between)
    (more : ∃ next, runAll clock between rest = .ok next) :
    ∃ next, runAll clock db (statement :: rest) = .ok next := by
  unfold runAll
  rw [ran]
  exact more

/-- A transaction of one statement is carried out. -/
theorem exists_runAll_one {statement : Statement} {next : Database}
    (ran : statement.run clock db = .ok next) :
    ∃ next, runAll clock db [statement] = .ok next :=
  exists_runAll_cons ran ⟨_, rfl⟩

/-! ### Requests -/

/-- The response of a route without a guard is what its handler comes to, and only time passes
until it is sent. -/
theorem guarantees_serve {request : Request} {post : Except Failure Response → State → Prop}
    (unguarded : request.guard = none)
    (handled : (request.handle runtime 0).Guarantees (calm supply) (fun outcome now =>
      ∀ later, Meanwhile now later now.db now.outbox → post outcome later) state) :
    (serve runtime request).Guarantees (calm supply) post state := by
  unfold serve Request.guarded
  rw [unguarded]
  refine guarantees_bind.mpr (guarantees_attempt.mpr (handled.weaken fun outcome now holds => ?_))
  rw [ofOutcome_ok, done_bind]
  refine Guarantees.bind (returns_respond outcome) fun _ later meanwhile => ?_
  exact guarantees_ofOutcome.mpr (holds later meanwhile)

/-- The answer of a handler that does its work in time. -/
theorem guarantees_inTime {Result : Type} {handler : Async Result} {answer : Result → Response}
    {deadline : Timestamp} {holds : Result → State → Prop}
    (guaranteed : handler.Guarantees (calm supply) (fun outcome now =>
      now.clock ≤ deadline → ∃ result, outcome = .ok result ∧ holds result now) state)
    (kept : ∀ result now later, later.db = now.db → holds result now → holds result later) :
    (handler >>= fun result => pure (answer result)).Guarantees (calm supply)
      (fun outcome now => ∀ later, Meanwhile now later now.db now.outbox → later.clock ≤ deadline →
        ∃ result, outcome = .ok (answer result) ∧ holds result later) state := by
  refine guarantees_bind.mpr (guaranteed.weaken fun outcome now ends => ?_)
  cases outcome with
  | ok result =>
    intro later meanwhile inTime
    obtain ⟨_, same, done⟩ := ends (meanwhile.clock.trans inTime)
    cases same
    exact ⟨result, rfl, kept result now later meanwhile.db done⟩
  | error failure =>
    intro later meanwhile inTime
    obtain ⟨_, impossible, -⟩ := ends (meanwhile.clock.trans inTime)
    cases impossible

/-- Where what holds does not depend on the result. -/
theorem guarantees_timely {Result : Type} {handler : Async Result} {answer : Result → Response}
    {deadline : Timestamp} {holds : State → Prop}
    (guaranteed : handler.Guarantees (calm supply) (fun outcome now =>
      now.clock ≤ deadline → (∃ result, outcome = .ok result) ∧ holds now) state)
    (kept : ∀ now later, later.db = now.db → holds now → holds later) :
    (handler >>= fun result => pure (answer result)).Guarantees (calm supply)
      (fun outcome now => ∀ later, Meanwhile now later now.db now.outbox → later.clock ≤ deadline →
        (∃ result, outcome = .ok (answer result)) ∧ holds later) state := by
  simp only [← exists_and_right] at guaranteed ⊢
  exact guarantees_inTime guaranteed fun _ => kept

end GraconAuth
