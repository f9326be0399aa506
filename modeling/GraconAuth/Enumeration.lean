/-
This file is about an outsider finding out which accounts exist, from the answers to
logins with a password that is nobody's, to requests for a reset link and to requests
for another verification mail. The same calls are served in two worlds with different
accounts. A write is attempted only for an account that exists, and its failure is
passed on, so the answers agree exactly when every call during which writes fail
attempts a write in both worlds or in neither.
-/

import GraconAuth.Rotations

namespace GraconAuth

open Interleaving Program

variable {runtime : Runtime} {before after : State} {trace : List ServiceEvent}

/-! ### What an outsider does -/

/-- The calls of an outsider. -/
inductive OutsideCall where
  | login (dto : AuthService.LoginDto) (ipAddress userAgent : String)
  | requestReset (email : Email)
  | resendVerificationEmail (dto : UsersService.ResendVerificationDto)
  deriving DecidableEq, Repr

def OutsideCall.request : OutsideCall → Request
  | .login dto ipAddress userAgent => .login dto ipAddress userAgent
  | .requestReset email => .requestReset email
  | .resendVerificationEmail dto => .resendVerificationEmail dto

/-- The password of a login is that of no account. -/
def OutsideCall.Unmatched (runtime : Runtime) (db : Database) : OutsideCall → Prop
  | .login dto _ _ => ∀ user ∈ db.users,
      runtime.bcryptCompare dto.password user.passwordHash = false
  | _ => True

/-- The effect is a write. -/
def Effect.writes : Effect → Bool
  | .execute _ | .registerTransaction _ => true
  | _ => false

/-- The answers to calls served one after another. During the calls that are marked every write
that is attempted fails; nothing else in the database does. -/
inductive Visits (runtime : Runtime) :
    State → List (OutsideCall × Bool) → List (Except Failure Response) → Prop
  | leave (state : State) : Visits runtime state [] []
  | call {before after : State} {call : OutsideCall} {failing : Bool}
      {trace : List ServiceEvent} {outcome : Except Failure Response}
      {rest : List (OutsideCall × Bool)} {answers : List (Except Failure Response)}
      (runs : Runs environment (serve runtime call.request) before trace outcome after)
      (faults : ∀ event ∈ trace, struck event = (failing && event.effect.writes))
      (later : Visits runtime after rest answers) :
      Visits runtime before ((call, failing) :: rest) (outcome :: answers)

/-- What the tables of a world are assumed to be. -/
structure Visitable (runtime : Runtime) (db : Database) (calls : List (OutsideCall × Bool)) :
    Prop where
  each : db.OneLinkEach
  unmatched : ∀ call ∈ calls, call.1.Unmatched runtime db

/-! ### What a call answers -/

/-- The call attempts to write something for an account. -/
def OutsideCall.attemptsWrite (db : Database) : OutsideCall → Bool
  | .login _ _ _ => false
  | .requestReset email => (db.findUser (.byEmail email)).any (·.isActive)
  | .resendVerificationEmail dto => (dto.lookup.bind db.findUser).any (!·.isVerified)

/-- What is answered when nothing is to be told. -/
def OutsideCall.safeAnswer : OutsideCall → Except Failure Response
  | .login _ _ _ => .error (UnauthorizedException "Invalid email or password")
  | .requestReset _ => .ok (.message PasswordResetService.safeResponse)
  | .resendVerificationEmail _ => .ok (.message UsersService.resendSafeResponse)

/-- What is answered: a write that fails is told. -/
def OutsideCall.answer (db : Database) (failing : Bool) (call : OutsideCall) :
    Except Failure Response :=
  if failing && call.attemptsWrite db then .error databaseDown else call.safeAnswer

/-- Two worlds answer a call alike exactly when a failing write is attempted in both or in
neither. -/
theorem answer_same_iff (first second : Database) (failing : Bool) (call : OutsideCall) :
    call.answer first failing = call.answer second failing ↔
      (failing = true → call.attemptsWrite first = call.attemptsWrite second) := by
  have told : call.safeAnswer ≠ .error databaseDown := by
    cases call with
    | login dto ipAddress userAgent =>
      simp [OutsideCall.safeAnswer, UnauthorizedException, databaseDown]
    | requestReset email => simp [OutsideCall.safeAnswer]
    | resendVerificationEmail dto => simp [OutsideCall.safeAnswer]
  unfold OutsideCall.answer
  cases failing with
  | false => simp
  | true =>
    cases call.attemptsWrite first with
    | false =>
      cases call.attemptsWrite second with
      | false => simp
      | true => simp [told]
    | true =>
      cases call.attemptsWrite second with
      | false => simp [told.symm]
      | true => simp

/-! ### What the calls leave alone -/

/-- The statement leaves the accounts alone. -/
def Statement.sparesUsers : Statement → Bool
  | .userUpdate _ _ => false
  | _ => true

/-- The effect leaves the accounts alone. -/
def Effect.SparesUsers : Effect → Prop
  | .execute statements => ∀ statement ∈ statements, statement.sparesUsers = true
  | .registerTransaction _ => False
  | _ => True

theorem harmless_sparesUsers {effect : Effect} (harmless : effect.Harmless) :
    effect.SparesUsers := by
  unfold Effect.SparesUsers
  split
  · exact harmless.elim
  · exact harmless.elim
  · trivial

/-- The accounts are these, and no user has two verification tokens. -/
def Database.Populated (users : List UserRow) (db : Database) : Prop :=
  db.users = users ∧ db.OneLinkEach

theorem populated_performs {users : List UserRow} {state next : State} {effect : Effect}
    {reply : Except Failure effect.Reply} (spares : effect.SparesUsers)
    (populated : state.db.Populated users)
    (performs : environment.Performs state effect reply next) : next.db.Populated users := by
  rcases performs_db performs with same | ⟨statements, event, ran⟩ | ⟨data, event, _⟩ | ⟨log, same⟩
  · rw [same]
    exact populated
  · obtain rfl : effect = _ := congrArg Event.effect event
    refine runAll_preserves (fun db => db.Populated users) ran
      (fun statement member now later holds carried => ⟨?_, carried.oneLinkEach holds.2⟩) populated
    have spared := spares statement member
    cases carried with
    | userUpdate id data present free => cases spared
    | _ => exact holds.1
  · obtain rfl : effect = _ := congrArg Event.effect event
    exact spares.elim
  · rw [same]
    exact populated

theorem handle_sparesUsers (userId : UserId) (call : OutsideCall) :
    (call.request.handle runtime userId).Uses Effect.SparesUsers := by
  refine (handle_uses runtime userId call.request).mono fun effect inside => ?_
  rcases inside with harmless | awaits
  · exact harmless_sparesUsers harmless
  · cases call with
    | login dto ipAddress userAgent =>
      change effect.Issues at awaits
      unfold Effect.Issues at awaits
      split at awaits
      · trivial
      · trivial
      · exact List.forall_mem_singleton.mpr rfl
      · exact awaits.elim
    | requestReset email =>
      rcases awaits with rfl | ⟨_, rfl⟩ | ⟨_, rfl⟩
      · trivial
      · exact List.forall_mem_singleton.mpr rfl
      · exact List.forall_mem_singleton.mpr rfl
    | resendVerificationEmail dto =>
      change effect.Links at awaits
      unfold Effect.Links at awaits
      split at awaits
      · trivial
      · trivial
      · exact List.forall_mem_singleton.mpr rfl
      · exact awaits.elim

theorem serve_sparesUsers (call : OutsideCall) :
    (serve runtime call.request).Uses Effect.SparesUsers := by
  refine uses_bind (uses_attempt ?_) fun _ => uses_bind (uses_perform trivial) fun _ =>
    uses_ofOutcome _
  cases call with
  | login dto ipAddress userAgent => exact handle_sparesUsers 0 (.login dto ipAddress userAgent)
  | requestReset email => exact handle_sparesUsers 0 (.requestReset email)
  | resendVerificationEmail dto => exact handle_sparesUsers 0 (.resendVerificationEmail dto)

/-! ### One call -/

section Call

variable {failing : Bool}

/-- A query succeeds. -/
theorem query_answered {effect : Effect} {reply : Except Failure effect.Reply}
    (fault : struck ⟨effect, reply⟩ = (failing && effect.writes))
    (asks : effect.asksDatabase = true) (reads : effect.writes = false) :
    ∃ value, reply = .ok value := by
  cases reply with
  | ok value => exact ⟨value, rfl⟩
  | error failure =>
    rw [reads, Bool.and_false, struck, asks] at fault
    cases fault

/-- A write that cannot be refused fails exactly during a call whose writes fail. -/
theorem write_answered {statements : List Statement} {reply : Except Failure Unit}
    {state next : State} (performs : environment.Performs state (.execute statements) reply next)
    (fault : struck ⟨.execute statements, reply⟩ = (failing && true))
    (carriedOut : ∀ clock db, ∃ later, runAll clock db statements = .ok later) :
    reply = if failing then .error databaseDown else .ok () := by
  obtain ⟨choice, answered⟩ := performs
  simp only [environment, State.answer, State.commit] at answered
  obtain ⟨later, ran⟩ := carriedOut (state.tick choice.elapsed).clock (state.tick choice.elapsed).db
  rw [ran] at answered
  rw [Bool.and_true] at fault
  split at answered
  · simp only [Option.some.injEq, Prod.mk.injEq] at answered
    obtain ⟨rfl, _⟩ := answered
    rw [← fault]
    rfl
  · simp only [Option.some.injEq, Prod.mk.injEq] at answered
    obtain ⟨rfl, _⟩ := answered
    rw [← fault]
    rfl

/-- A mail that cannot be sent is forgotten. -/
theorem runs_send {mail : Mail} {outcome : Except Failure Unit}
    (run : Runs environment (AppMailerService.send mail) before trace outcome after) :
    outcome = .ok () := by
  obtain ⟨reply, between, rest, rfl, performs, run⟩ := run
  cases reply with
  | ok sent => exact run.2.1
  | error failure => exact run.2.1

theorem runs_login {dto : AuthService.LoginDto} {ipAddress userAgent : String}
    {outcome : Except Failure LoginResult}
    (run : Runs environment (AuthService.login runtime dto ipAddress userAgent) before trace outcome
      after)
    (faults : ∀ event ∈ trace, struck event = (failing && event.effect.writes))
    (unmatched : ∀ user ∈ before.db.users,
      runtime.bcryptCompare dto.password user.passwordHash = false) :
    outcome = .error (UnauthorizedException "Invalid email or password") := by
  obtain ⟨reply, asked, rest, rfl, performs, run⟩ := runs_perform_bind.mp run
  obtain ⟨found, rfl⟩ := query_answered (faults _ List.mem_cons_self) rfl rfl
  obtain rfl := performs_userFindUnique performs
  have rejected : ((before.db.findUser (.byEmail dto.email)).map before.db.withRelations).filter
      (fun record => AuthService.passwordValid runtime dto.password (some record)) = none := by
    rw [Option.filter_eq_none_iff]
    rintro record located
    obtain ⟨user, stored, rfl⟩ := Option.map_eq_some_iff.mp located
    simp [AuthService.passwordValid, Database.withRelations,
      unmatched user (List.mem_of_find?_eq_some stored)]
  rw [ofOutcome_ok, done_bind, rejected] at run
  obtain ⟨reply, logged, rest, rfl, performs, run⟩ := runs_perform_bind.mp run
  obtain rfl := performs_securityEvent performs
  exact run.2.1

/-- A hash is computed for its time only. -/
theorem runs_dummyHash {text : String} {answer : MessageResult}
    {outcome : Except Failure MessageResult}
    (run : Runs environment (bcryptHash runtime text >>= fun _ => pure answer) before trace outcome
      after) : outcome = .ok answer := by
  obtain ⟨_, _, ended, between, rfl, runHash, run⟩ := runs_bind.mp run
  obtain ⟨reply, salted, rest, rfl, performs, runHash⟩ := runs_perform_bind.mp runHash
  obtain ⟨salt, rfl⟩ := performs_bcryptSalt performs
  obtain ⟨_, rfl, _⟩ := runHash
  exact run.2.1

/-- A request for an account fails during a call whose writes fail. -/
theorem runs_requestResetFor {record : UserRecord} {outcome : Except Failure MessageResult}
    (run : Runs environment (PasswordResetService.requestResetFor runtime record) before trace
      outcome after)
    (faults : ∀ event ∈ trace, struck event = (failing && event.effect.writes)) :
    outcome = if failing then .error databaseDown else .ok PasswordResetService.safeResponse := by
  obtain ⟨reply, revoked, rest, rfl, performs, run⟩ := runs_perform_bind.mp run
  have faults := List.forall_mem_cons.mp faults
  have answered := write_answered performs faults.1 fun _ _ => ⟨_, rfl⟩
  cases failing with
  | true =>
    obtain rfl : reply = .error databaseDown := answered
    exact run.2.1
  | false =>
    obtain rfl : reply = .ok () := answered
    rw [ofOutcome_ok, done_bind] at run
    obtain ⟨reply, drew, rest, rfl, performsDraw, run⟩ := runs_perform_bind.mp run
    obtain ⟨raw, rfl, _⟩ := performs_randomToken performsDraw
    rw [ofOutcome_ok, done_bind] at run
    obtain ⟨reply, read, rest, rfl, performsNow, run⟩ := runs_perform_bind.mp run
    obtain rfl := performs_now performsNow
    rw [ofOutcome_ok, done_bind] at run
    obtain ⟨reply, stored, rest, rfl, performsCreate, run⟩ := runs_rescue_perform_bind.mp run
    have stores := faults.2 _ (List.mem_cons_of_mem _ (List.mem_cons_of_mem _ List.mem_cons_self))
    obtain rfl : reply = .ok () := write_answered performsCreate stores fun _ _ => ⟨_, rfl⟩
    rw [ofOutcome_ok, done_rescue, done_bind] at run
    obtain ⟨_, _, ended, between, rfl, runSend, run⟩ := runs_bind.mp run
    obtain rfl := runs_send runSend
    obtain ⟨reply, logged, rest, rfl, performsLog, run⟩ := runs_perform_bind.mp run
    obtain rfl := performs_securityEvent performsLog
    exact run.2.1

theorem runs_requestReset {email : Email} {outcome : Except Failure MessageResult}
    (run : Runs environment (PasswordResetService.requestReset runtime email) before trace outcome
      after)
    (faults : ∀ event ∈ trace, struck event = (failing && event.effect.writes)) :
    outcome = if failing && (before.db.findUser (.byEmail email)).any (·.isActive) then
      .error databaseDown
    else .ok PasswordResetService.safeResponse := by
  obtain ⟨reply, asked, rest, rfl, performs, run⟩ := runs_perform_bind.mp run
  have faults := List.forall_mem_cons.mp faults
  obtain ⟨found, rfl⟩ := query_answered faults.1 rfl rfl
  obtain rfl := performs_userFindUnique performs
  rw [ofOutcome_ok, done_bind] at run
  cases located : before.db.findUser (.byEmail email) with
  | none =>
    rw [located] at run
    rw [Option.any_none, Bool.and_false]
    exact runs_dummyHash run
  | some user =>
    rw [located, Option.map_some, Option.filter_some] at run
    rw [Option.any_some]
    by_cases active : user.isActive = true
    · rw [if_pos (show (before.db.withRelations user).user.isActive = true from active)] at run
      rw [active, Bool.and_true]
      exact runs_requestResetFor run faults.2
    · rw [if_neg (show ¬(before.db.withRelations user).user.isActive = true from active)] at run
      rw [Bool.not_eq_true _ |>.mp active, Bool.and_false]
      exact runs_dummyHash run

/-- Resending a mail to an account fails during a call whose writes fail. -/
theorem runs_resend {userId : UserId} {recipient : Email} {identity : Option CitizenIdentityRow}
    {outcome : Except Failure MessageResult}
    (run : Runs environment (UsersService.replaceVerificationToken runtime userId recipient identity
      >>= fun _ => pure UsersService.resendSafeResponse) before trace outcome after)
    (faults : ∀ event ∈ trace, struck event = (failing && event.effect.writes)) :
    outcome = if failing then .error databaseDown else .ok UsersService.resendSafeResponse := by
  unfold UsersService.replaceVerificationToken at run
  simp only [bind_assoc] at run
  obtain ⟨reply, drew, rest, rfl, performsDraw, run⟩ := runs_perform_bind.mp run
  obtain ⟨raw, rfl, _⟩ := performs_randomToken performsDraw
  rw [ofOutcome_ok, done_bind] at run
  obtain ⟨reply, read, rest, rfl, performsNow, run⟩ := runs_perform_bind.mp run
  obtain rfl := performs_now performsNow
  rw [ofOutcome_ok, done_bind] at run
  obtain ⟨reply, stored, rest, rfl, performsUpsert, run⟩ := runs_perform_bind.mp run
  have stores := faults _ (List.mem_cons_of_mem _ (List.mem_cons_of_mem _ List.mem_cons_self))
  have answered := write_answered performsUpsert stores fun _ _ => ⟨_, rfl⟩
  cases failing with
  | true =>
    obtain rfl : reply = .error databaseDown := answered
    exact run.2.1
  | false =>
    obtain rfl : reply = .ok () := answered
    rw [ofOutcome_ok, done_bind] at run
    obtain ⟨_, _, ended, between, rfl, runSend, run⟩ := runs_bind.mp run
    obtain rfl := runs_send runSend
    exact run.2.1

theorem runs_resendVerificationEmail {dto : UsersService.ResendVerificationDto}
    {outcome : Except Failure MessageResult}
    (run : Runs environment (UsersService.resendVerificationEmail runtime dto) before trace outcome
      after)
    (faults : ∀ event ∈ trace, struck event = (failing && event.effect.writes))
    (each : before.db.OneLinkEach) :
    outcome = if failing && (dto.lookup.bind before.db.findUser).any (!·.isVerified) then
      .error databaseDown
    else .ok UsersService.resendSafeResponse := by
  unfold UsersService.resendVerificationEmail at run
  cases lookup : dto.lookup with
  | none =>
    rw [lookup] at run
    rw [Option.bind_none, Option.any_none, Bool.and_false]
    exact run.2.1
  | some userLookup =>
    rw [lookup] at run
    rw [Option.bind_some]
    obtain ⟨reply, asked, rest, rfl, performs, run⟩ := runs_perform_bind.mp run
    have faults := List.forall_mem_cons.mp faults
    obtain ⟨found, rfl⟩ := query_answered faults.1 rfl rfl
    obtain rfl := performs_userFindUnique performs
    rw [ofOutcome_ok, done_bind] at run
    cases located : before.db.findUser userLookup with
    | none =>
      rw [located] at run
      rw [Option.any_none, Bool.and_false]
      exact run.2.1
    | some user =>
      rw [located, Option.map_some] at run
      rw [Option.any_some]
      change Runs environment (if user.isVerified then _ else _) _ _ _ _ at run
      by_cases verified : user.isVerified = true
      · rw [if_pos verified] at run
        rw [verified, Bool.not_true, Bool.and_false]
        exact run.2.1
      · rw [if_neg verified] at run
        rw [Bool.not_eq_true _ |>.mp verified, Bool.not_false, Bool.and_true]
        obtain ⟨reply, read, rest, rfl, performsNow, run⟩ := runs_perform_bind.mp run
        obtain rfl := performs_now performsNow
        rw [ofOutcome_ok, done_bind] at run
        obtain ⟨reply, counted, rest, rfl, performsCount, run⟩ := runs_perform_bind.mp run
        have faults := List.forall_mem_cons.mp (List.forall_mem_cons.mp faults.2).2
        obtain ⟨count, rfl⟩ := query_answered faults.1 rfl rfl
        obtain rfl := performs_emailVerificationTokenCount performsCount
        rw [ofOutcome_ok, done_bind] at run
        have finds : Effect.SparesUsers (.userFindUnique userLookup) := trivial
        have reads : Effect.SparesUsers .now := trivial
        have populated : read.db.Populated before.db.users :=
          populated_performs reads (populated_performs finds ⟨rfl, each⟩ performs) performsNow
        have few := countP_link_le populated.2 (before.db.withRelations user).user.id fun row =>
          decide (read.clock - 60 * 60 * 1000 ≤ row.createdAt)
        have below : ¬_ ≥ UsersService.MAX_RESEND_PER_HOUR :=
          Nat.not_le.mpr (Nat.lt_of_le_of_lt few (by decide))
        rw [if_neg below] at run
        exact runs_resend run faults.2

/-- A call answers what its answer says, and leaves the world fit for the next call. -/
theorem runs_outside {call : OutsideCall} {outcome : Except Failure Response}
    (run : Runs environment (serve runtime call.request) before trace outcome after)
    (faults : ∀ event ∈ trace, struck event = (failing && event.effect.writes))
    (each : before.db.OneLinkEach) (unmatched : call.Unmatched runtime before.db) :
    outcome = call.answer before.db failing ∧ after.db.Populated before.db.users := by
  refine ⟨?_, run.preserves (serve_sparesUsers call)
    (fun _ _ _ _ spares populated performs => populated_performs spares populated performs)
    ⟨rfl, each⟩⟩
  obtain ⟨inner, ended, framed, run⟩ := runs_serve run
  have faults : ∀ event ∈ inner, struck event = (failing && event.effect.writes) :=
    fun event member => faults event (framed.kept event member)
  cases call with
  | login dto ipAddress userAgent =>
    obtain ⟨answered, rfl, runService⟩ := runs_wrapped run
    rw [runs_login runService faults unmatched, OutsideCall.answer, OutsideCall.attemptsWrite,
      Bool.and_false]
    rfl
  | requestReset email =>
    obtain ⟨answered, rfl, runService⟩ := runs_wrapped run
    rw [runs_requestReset runService faults, OutsideCall.answer, OutsideCall.attemptsWrite]
    split <;> rfl
  | resendVerificationEmail dto =>
    obtain ⟨answered, rfl, runService⟩ := runs_wrapped run
    rw [runs_resendVerificationEmail runService faults each, OutsideCall.answer,
      OutsideCall.attemptsWrite]
    split <;> rfl

end Call

/-! ### Two worlds -/

theorem attemptsWrite_congr {db other : Database} (same : db.users = other.users)
    (call : OutsideCall) : call.attemptsWrite db = call.attemptsWrite other := by
  have found : db.findUser = other.findUser := by
    funext filter
    rw [Database.findUser, Database.findUser, same]
  cases call with
  | login dto ipAddress userAgent => rfl
  | requestReset email => rw [OutsideCall.attemptsWrite, OutsideCall.attemptsWrite, found]
  | resendVerificationEmail dto =>
    rw [OutsideCall.attemptsWrite, OutsideCall.attemptsWrite, found]

/-- After a call the world is fit for the rest of the calls. -/
theorem Visitable.tail {db later : Database} {call : OutsideCall × Bool}
    {rest : List (OutsideCall × Bool)} (visitable : Visitable runtime db (call :: rest))
    (populated : later.Populated db.users) : Visitable runtime later rest := by
  refine ⟨populated.2, fun other member => ?_⟩
  have unmatched := visitable.unmatched other (List.mem_cons_of_mem _ member)
  unfold OutsideCall.Unmatched at unmatched ⊢
  rw [populated.1]
  exact unmatched

/-- A world without accounts. -/
def emptyWorld : State := State.empty 0

/-- A world with one account. -/
def populatedWorld : State :=
  let empty := State.empty 0
  { empty with db := { empty.db with
      nextId := 1
      users := [⟨0, "a@x", none, "pw", true, true, true, none, 0, none, 0, 0⟩] } }

/-- An outsider can tell worlds apart: a request for a reset link during which writes fail is
answered differently. -/
theorem accounts_enumerable :
    ¬ ∀ (runtime : Runtime) (first second : State) (calls : List (OutsideCall × Bool))
        (answers others : List (Except Failure Response)),
      Visitable runtime first.db calls → Visitable runtime second.db calls →
        Visits runtime first calls answers → Visits runtime second calls others →
          answers = others := by
  intro same
  have visitsFirst : Visits legibleRuntime emptyWorld [(.requestReset "a@x", true)]
      [.ok (.message PasswordResetService.safeResponse)] :=
    .call (Program.play_runs (show Program.play environment _ _ [{}, {}, {}] = some (_, _, _)
      from rfl)) (by decide +kernel) (.leave _)
  have visitsSecond : Visits legibleRuntime populatedWorld [(.requestReset "a@x", true)]
      [.error databaseDown] :=
    .call (Program.play_runs (show Program.play environment _ _
      [{}, { fails := some databaseDown }, {}] = some (_, _, _) from rfl)) (by decide +kernel)
      (.leave _)
  have visitable : ∀ db : Database, db.OneLinkEach →
      Visitable legibleRuntime db [(.requestReset "a@x", true)] := fun db each =>
    ⟨each, List.forall_mem_singleton.mpr trivial⟩
  have answers := same legibleRuntime emptyWorld populatedWorld _ _ _
    (visitable _ List.nodup_nil) (visitable _ List.nodup_nil) visitsFirst visitsSecond
  cases answers

/-- The answers in two worlds are the same exactly when every call during which writes fail
attempts a write in both or in neither. -/
theorem answers_same_iff (runtime : Runtime) (first second : State)
    (calls : List (OutsideCall × Bool)) (answers others : List (Except Failure Response))
    (visitableFirst : Visitable runtime first.db calls)
    (visitableSecond : Visitable runtime second.db calls)
    (visitsFirst : Visits runtime first calls answers)
    (visitsSecond : Visits runtime second calls others) :
    answers = others ↔ ∀ call ∈ calls, call.2 = true →
      call.1.attemptsWrite first.db = call.1.attemptsWrite second.db := by
  induction visitsFirst generalizing second others with
  | leave state =>
    cases visitsSecond
    simp
  | @call before after call failing trace outcome rest answers runs faults later
      inductionHypothesis =>
    cases visitsSecond with
    | @call _ afterSecond _ _ _ outcomeSecond _ answersSecond runsSecond faultsSecond laterSecond =>
      obtain ⟨rfl, populated⟩ := runs_outside runs faults visitableFirst.each
        (visitableFirst.unmatched _ List.mem_cons_self)
      obtain ⟨rfl, populatedSecond⟩ := runs_outside runsSecond faultsSecond visitableSecond.each
        (visitableSecond.unmatched _ List.mem_cons_self)
      have restSame := inductionHypothesis afterSecond answersSecond
        (visitableFirst.tail populated) (visitableSecond.tail populatedSecond) laterSecond
      rw [List.cons.injEq, List.forall_mem_cons, answer_same_iff, restSame]
      refine and_congr_right fun _ => forall₂_congr fun other _ => ?_
      rw [attemptsWrite_congr populated.1, attemptsWrite_congr populatedSecond.1]

/-- A request for an address without an account during which writes fail, then a login. -/
def absentCalls : List (OutsideCall × Bool) :=
  [(.requestReset "b@x", true), (.login ⟨"a@x", "no"⟩ "ip" "agent", false)]

/-- No outsider can tell the two worlds apart by these calls. -/
theorem answers_same_iff_absent :
    ∃ answers others, Visits legibleRuntime emptyWorld absentCalls answers ∧
      Visits legibleRuntime populatedWorld absentCalls others ∧ answers = others := by
  have visits : ∀ {world : State} {trace answer after later answered last},
      Program.play environment (serve legibleRuntime (.requestReset "b@x")) world [{}, {}, {}] =
        some (trace, answer, after) →
      Program.play environment (serve legibleRuntime (.login ⟨"a@x", "no"⟩ "ip" "agent")) after
        [{}, {}, {}] = some (later, answered, last) →
      (∀ event ∈ trace, struck event = event.effect.writes) →
      (∀ event ∈ later, struck event = false) →
        Visits legibleRuntime world absentCalls [answer, answered] :=
    fun first second faults faultless => .call (Program.play_runs first) (by simpa using faults)
      (.call (Program.play_runs second) (by simpa using faultless) (.leave _))
  have visitsFirst : Visits legibleRuntime emptyWorld absentCalls _ :=
    visits rfl rfl (by decide +kernel) (by decide +kernel)
  have visitsSecond : Visits legibleRuntime populatedWorld absentCalls _ :=
    visits rfl rfl (by decide +kernel) (by decide +kernel)
  have visitableFirst : Visitable legibleRuntime emptyWorld.db absentCalls :=
    ⟨List.nodup_nil, by simp [absentCalls, OutsideCall.Unmatched, emptyWorld, State.empty]⟩
  have visitableSecond : Visitable legibleRuntime populatedWorld.db absentCalls :=
    ⟨List.nodup_nil, by
      simp [absentCalls, OutsideCall.Unmatched, populatedWorld, State.empty, legibleRuntime]⟩
  exact ⟨_, _, visitsFirst, visitsSecond, (answers_same_iff legibleRuntime emptyWorld populatedWorld
    _ _ _ visitableFirst visitableSecond visitsFirst visitsSecond).mpr (by decide +kernel)⟩

end GraconAuth
