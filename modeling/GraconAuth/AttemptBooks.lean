/-
This file is about the attempts of a user being counted in two places: the audit rows
with their numbers, and the cumulative counter in the user row. Calls are served one
after another and the database does not fail a submission. Every submission that
reaches the engine records a row under the next number. One that the engine has
answered increments the counter as well; one that it has not answered does not, so
from then on the counter is behind.
-/

import GraconAuth.LimitedSessions
import GraconAuth.TemporaryImages

namespace GraconAuth

open Interleaving Program Rows VerificationService

/-! ### The books -/

/-- The attempt numbers of a user, in the order in which the attempts were recorded. -/
def Database.attemptNumbers (db : Database) (userId : UserId) : List Nat :=
  (db.idVerifications.filter fun row => row.userId == userId).map (·.attemptNumber)

/-- The cumulative counter of a user. -/
def Database.verificationAttempts (db : Database) (userId : UserId) : Option Nat :=
  (db.findUser (.byId userId)).map (·.verificationAttempts)

/-- The attempts are numbered from one without gap or repetition, and their number, the largest
number and the counter are equal. -/
structure Database.Balanced (db : Database) (userId : UserId) : Prop where
  numbered : db.attemptNumbers userId = List.range' 1 (db.attemptNumbers userId).length
  largest : (db.attemptNumbers userId).max?.getD 0 = (db.attemptNumbers userId).length
  counted : db.verificationAttempts userId = some (db.attemptNumbers userId).length

/-- The engine has not answered a submission of the user. -/
def unanswered (userId : UserId) : ServiceEvent → Bool
  | ⟨.callEngine payload, .error _⟩ => payload.userId == userId
  | _ => false

/-- With a trace, this many more attempts are recorded under the next numbers, this many are
counted, and this many submissions are not answered. -/
structure Tallies (userId : UserId) (recorded counted failed : Nat) (before : Database)
    (trace : List ServiceEvent) (after : Database) : Prop where
  numbers : after.attemptNumbers userId = before.attemptNumbers userId ++
    List.range' ((before.attemptNumbers userId).length + 1) recorded
  counter : ∀ count, before.verificationAttempts userId = some count →
    after.verificationAttempts userId = some (count + counted)
  failures : trace.countP (unanswered userId) = failed

/-- Every attempt that is recorded is counted, unless the engine has not answered. -/
def Squares (userId : UserId) (before : Database) (trace : List ServiceEvent)
    (after : Database) : Prop :=
  ∃ counted failed, Tallies userId (counted + failed) counted failed before trace after

section Tally

variable {userId : UserId} {before between after : Database} {first second : List ServiceEvent}

theorem Tallies.append {recorded counted failed recordedToo countedToo failedToo : Nat}
    (one : Tallies userId recorded counted failed before first between)
    (two : Tallies userId recordedToo countedToo failedToo between second after) :
    Tallies userId (recorded + recordedToo) (counted + countedToo) (failed + failedToo) before
      (first ++ second) after := by
  refine ⟨?_, fun count found => ?_, ?_⟩
  · rw [two.numbers, one.numbers, List.append_assoc, List.length_append, List.length_range',
      Nat.add_right_comm, List.range'_append_1]
  · rw [two.counter _ (one.counter count found), Nat.add_assoc]
  · rw [List.countP_append, one.failures, two.failures]

theorem tallies_nil (userId : UserId) (db : Database) : Tallies userId 0 0 0 db [] db :=
  ⟨(List.append_nil _).symm, fun _ found => found, rfl⟩

/-- What spares the books, and then the rest. -/
theorem Tallies.preceded {recorded counted failed : Nat}
    (rest : Tallies userId recorded counted failed between second after)
    (spared : Tallies userId 0 0 0 before first between) :
    Tallies userId recorded counted failed before (first ++ second) after := by
  have whole := spared.append rest
  simp only [Nat.zero_add] at whole
  exact whole

theorem Squares.preceded (rest : Squares userId between second after)
    (spared : Tallies userId 0 0 0 before first between) :
    Squares userId before (first ++ second) after := by
  obtain ⟨counted, failed, tallies⟩ := rest
  exact ⟨counted, failed, tallies.preceded spared⟩

theorem Squares.append (one : Squares userId before first between)
    (two : Squares userId between second after) :
    Squares userId before (first ++ second) after := by
  obtain ⟨counted, failed, tallies⟩ := one
  obtain ⟨countedToo, failedToo, talliesToo⟩ := two
  refine ⟨counted + countedToo, failed + failedToo, ?_⟩
  rw [Nat.add_add_add_comm]
  exact tallies.append talliesToo

/-- The largest of the numbers from one on is their number. -/
theorem largest_numbered (count : Nat) : (List.range' 1 count).max?.getD 0 = count := by
  cases count with
  | zero => rfl
  | succ count =>
    have largest : (List.range' 1 (count + 1)).max? = some (count + 1) := by
      refine List.max?_eq_some_iff.mpr ⟨by simp, fun number member => ?_⟩
      have bounds := List.mem_range'_1.mp member
      omega
    rw [largest, Option.getD_some]

/-- Books that balance go on to balance exactly when every submission is answered. -/
theorem Squares.balanced_iff (squares : Squares userId before first after)
    (balanced : before.Balanced userId) :
    after.Balanced userId ↔ first.countP (unanswered userId) = 0 := by
  obtain ⟨counted, failed, tallies⟩ := squares
  have numbers : after.attemptNumbers userId =
      List.range' 1 ((before.attemptNumbers userId).length + (counted + failed)) := by
    rw [tallies.numbers, balanced.numbered, List.length_range', Nat.add_comm _ 1,
      List.range'_append_1]
  have counter := tallies.counter _ balanced.counted
  rw [tallies.failures]
  constructor
  · intro later
    have same := later.counted
    rw [counter, numbers, List.length_range', Option.some.injEq] at same
    omega
  · rintro rfl
    refine ⟨?_, ?_, ?_⟩
    · rw [numbers, List.length_range']
    · rw [numbers, largest_numbered, List.length_range']
    · rw [counter, numbers, List.length_range', Nat.add_zero]

end Tally

/-! ### What most effects leave alone -/

/-- The statement neither records nor counts an attempt of the user. -/
def Statement.sparesBooks (userId : UserId) : Statement → Prop
  | .idVerificationCreate data => data.userId ≠ userId
  | .userUpdate id data => id ≠ userId ∨ data.incrementVerificationAttempts = false
  | _ => True

/-- The effect neither records nor counts an attempt of the user, nor submits one to the engine. -/
def Effect.sparesBooks (userId : UserId) : Effect → Prop
  | .execute statements => ∀ statement ∈ statements, statement.sparesBooks userId
  | .callEngine payload => payload.userId ≠ userId
  | _ => True

section Spared

variable {userId : UserId} {state next before after : State} {effect : Effect}
  {reply : Except Failure effect.Reply} {trace : List ServiceEvent}

theorem harmless_sparesBooks (harmless : effect.Harmless) : effect.sparesBooks userId := by
  unfold Effect.sparesBooks
  split
  · exact harmless.elim
  · exact harmless.elim
  · trivial

/-- The numbers are the same, and so is the counter if there is one. -/
def SameBooks (userId : UserId) (before after : Database) : Prop :=
  after.attemptNumbers userId = before.attemptNumbers userId ∧
    ∀ count, before.verificationAttempts userId = some count →
      after.verificationAttempts userId = some count

/-- A user is found with its counter as it was, unless it is the one whose attempt is counted. -/
theorem verificationAttempts_userUpdate {id : UserId} {data : UserUpdate} {clock : Timestamp}
    {users : List UserRow} (spares : id ≠ userId ∨ data.incrementVerificationAttempts = false) :
    ((updateWhere (fun row => row.id == id) (fun row => row.apply data clock) users).find?
      (UserWhere.byId userId).holds).map (·.verificationAttempts) =
      (users.find? (UserWhere.byId userId).holds).map (·.verificationAttempts) := by
  have unseen : ∀ row : UserRow, (UserWhere.byId userId).holds (row.apply data clock) =
      (UserWhere.byId userId).holds row := fun _ => rfl
  rcases spares with other | uncounted
  · rw [find?_updateWhere unseen]
    cases found : users.find? (UserWhere.byId userId).holds with
    | none => rfl
    | some user =>
      have same : user.id = userId := by simpa [UserWhere.holds] using List.find?_some found
      have unmatched : ¬(user.id == id) = true := by
        simpa [same] using other.symm
      rw [Option.map_some, if_neg unmatched]
  · refine map_find?_updateWhere unseen (fun row => ?_) users
    simp [UserRow.apply, uncounted]

theorem carried_sparesBooks {clock : Timestamp} {db later : Database} {statement : Statement}
    (spares : statement.sparesBooks userId) (carried : Carried clock db statement later) :
    SameBooks userId db later := by
  cases carried with
  | userUpdate id data present free =>
    exact ⟨rfl, fun count found => (verificationAttempts_userUpdate spares).trans found⟩
  | idVerificationCreate data row stored =>
    have other : (row.userId == userId) = false := by
      rw [stored.2.1]
      exact beq_false_of_ne spares
    refine ⟨?_, fun _ found => found⟩
    simp [Database.attemptNumbers, List.filter_append, other]
  | _ => exact ⟨rfl, fun _ found => found⟩

theorem performs_sparesBooks (spares : effect.sparesBooks userId)
    (performs : environment.Performs state effect reply next) :
    SameBooks userId state.db next.db := by
  refine performs_preserves (SameBooks userId state.db) performs ?_ ?_ (fun _ kept => kept)
    ⟨rfl, fun _ found => found⟩
  · rintro statements rfl statement listed now later kept carried
    have step := carried_sparesBooks (spares statement listed) carried
    exact ⟨step.1.trans kept.1, fun count found => step.2 count (kept.2 count found)⟩
  · intro data later kept ran
    unfold Database.register at ran
    split at ran
    · cases ran
    · cases ran
      exact ⟨rfl, fun count found => map_find?_append found _⟩

/-- What spares the books of a user leaves them as they are. -/
theorem tallies_of_uses {Result : Type} {program : Async Result} {outcome : Except Failure Result}
    (run : Runs environment program before trace outcome after)
    (uses : program.Uses (Effect.sparesBooks userId)) :
    Tallies userId 0 0 0 before.db trace after.db := by
  have keeps : program.Keeps environment fun state => SameBooks userId before.db state.db := by
    refine uses.keeps fun _ _ _ _ spares kept performs => ?_
    have step := performs_sparesBooks spares performs
    exact ⟨step.1.trans kept.1, fun count found => step.2 count (kept.2 count found)⟩
  have same := keeps _ _ _ _ run ⟨rfl, fun _ found => found⟩
  refine ⟨by rw [same.1]; exact (List.append_nil _).symm, same.2, ?_⟩
  rw [List.countP_eq_zero]
  intro event member submitted
  have spared := run.uses uses event member
  unfold unanswered at submitted
  split at submitted
  · exact spared (beq_iff_eq.mp submitted)
  · cases submitted

end Spared

/-! ### The calls that are no submissions -/

section Calls

variable (runtime : Runtime) {userId : UserId}

theorem issues_sparesBooks {effect : Effect} (issues : effect.Issues) :
    effect.sparesBooks userId := by
  unfold Effect.Issues at issues
  split at issues
  · trivial
  · trivial
  · exact List.forall_mem_singleton.mpr trivial
  · exact issues.elim

/-- Only a submission records and counts attempts. -/
theorem awaits_sparesBooks {request : Request} (other : request.submits = false) {effect : Effect}
    (awaits : request.Awaits effect) : effect.sparesBooks userId := by
  cases effect with
  | callEngine payload =>
    obtain ⟨_, _, _, rfl⟩ := awaits_callEngine awaits
    cases other
  | execute statements =>
    intro statement listed
    have writes := awaits_writes awaits statement listed
    cases statement with
    | idVerificationCreate data =>
      cases request with
      | submitVerification jwt dto ipAddress => cases other
      | _ => exact writes.elim
    | userUpdate id data => exact .inr (writes_unsubmitted other writes).2
    | _ => trivial
  | _ => trivial

theorem serve_sparesBooks {request : Request} (other : request.submits = false) :
    (serve runtime request).Uses (Effect.sparesBooks userId) :=
  serve_uses_of_handle runtime request (fun _ => harmless_sparesBooks) (fun _ => trivial)
    fun id => (handle_uses runtime id request).mono fun _ inside =>
      inside.elim harmless_sparesBooks (awaits_sparesBooks other)

end Calls

/-! ### A submission -/

section Submission

variable {runtime : Runtime} {userId : UserId} {before after : State} {trace : List ServiceEvent}
  {ipAddress : String} {keys : ObjectKey × ObjectKey}

/-- The database has done what it was asked to. -/
def Unstruck (trace : List ServiceEvent) : Prop :=
  ∀ event ∈ trace, struck event = false

/-- What spares the books, and then the rest of the program. -/
theorem squares_bind {First Second : Type} {program : Async First} {next : First → Async Second}
    {outcome : Except Failure Second}
    (run : Runs environment (program >>= next) before trace outcome after)
    (unstruck : Unstruck trace) (uses : program.Uses (Effect.sparesBooks userId))
    (rest : ∀ result between later, Runs environment (next result) between later outcome after →
      Unstruck later → Squares userId between.db later after.db) :
    Squares userId before.db trace after.db := by
  obtain ⟨first, second, ended, between, rfl, runFirst, runSecond⟩ := runs_bind.mp run
  refine Squares.preceded ?_ (tallies_of_uses runFirst uses)
  cases ended with
  | ok result =>
    exact rest result between second runSecond fun event member =>
      unstruck event (List.mem_append_right _ member)
  | error failure =>
    obtain ⟨rfl, _, rfl⟩ := runSecond
    exact ⟨0, 0, tallies_nil userId after.db⟩

/-- A check, and then the rest of the program. -/
theorem squares_throwIf_bind {Result : Type} {condition : Bool} {failure : Failure}
    {next : Unit → Async Result} {outcome : Except Failure Result}
    (run : Runs environment (throwIf condition failure >>= next) before trace outcome after)
    (unstruck : Unstruck trace)
    (rest : Runs environment (next ()) before trace outcome after → Unstruck trace →
      Squares userId before.db trace after.db) : Squares userId before.db trace after.db := by
  rcases runs_throwIf_bind.mp run with ⟨_, rfl, _, rfl⟩ | ⟨_, run⟩
  · exact ⟨0, 0, tallies_nil userId after.db⟩
  · exact rest run unstruck

/-- An attempt is recorded under the next number. -/
theorem tallies_idVerificationCreate {state next : State} {data : IdVerificationCreate}
    {reply : Except Failure Unit}
    (performs : environment.Performs state (.execute [.idVerificationCreate data]) reply next)
    (unstruck : struck ⟨.execute [.idVerificationCreate data], reply⟩ = false)
    (own : data.userId = userId)
    (numbered : data.attemptNumber = (state.db.attemptNumbers userId).length + 1) :
    Tallies userId 1 0 0 state.db [⟨.execute [.idVerificationCreate data], reply⟩] next.db := by
  rcases performs_execute performs with ⟨rfl, ran⟩ | ⟨⟨error, rfl⟩, _⟩
  · simp only [runAll, Statement.run, Except.ok.injEq] at ran
    rw [← ran]
    refine ⟨?_, fun _ found => found, rfl⟩
    simp [Database.attemptNumbers, List.filter_append, own, numbered]
  · cases unstruck

/-- The counter is incremented. -/
theorem tallies_userUpdate {state next : State} {data : UserUpdate} {reply : Except Failure Unit}
    (performs : environment.Performs state (.execute [.userUpdate userId data]) reply next)
    (unstruck : struck ⟨.execute [.userUpdate userId data], reply⟩ = false)
    (counts : data.incrementVerificationAttempts = true) :
    Tallies userId 0 1 0 state.db [⟨.execute [.userUpdate userId data], reply⟩] next.db := by
  obtain ⟨rfl, carried⟩ := performs_carried (faultless_performs.mpr ⟨performs, unstruck⟩)
  obtain ⟨user, found, updated⟩ := findUser_userUpdate carried
  refine ⟨?_, fun count counted => ?_, rfl⟩
  · have same : next.db.idVerifications = state.db.idVerifications := by
      generalize next.db = later at carried
      cases carried
      rfl
    rw [Database.attemptNumbers, same]
    exact (List.append_nil _).symm
  · rw [Database.verificationAttempts, found, Option.map_some, Option.some.injEq] at counted
    rw [Database.verificationAttempts, updated, ← counted]
    simp [UserRow.apply, counts]

/-- One effect that spares the books. -/
theorem tallies_performs {state next : State} {effect : Effect}
    {reply : Except Failure effect.Reply} (spares : effect.sparesBooks userId)
    (performs : environment.Performs state effect reply next) :
    Tallies userId 0 0 0 state.db [⟨effect, reply⟩] next.db :=
  tallies_of_uses (runs_perform.mpr ⟨rfl, performs⟩) (uses_perform spares)

/-- The attempt is recorded under the number that has been found for it. -/
theorem tallies_recorded {Result : Type} {data : Nat → IdVerificationCreate}
    {next : Unit → Async Result} {outcome : Except Failure Result}
    (run : Runs environment (getNextAttemptNumber userId >>= fun number =>
      recordAttempt (data number) >>= next) before trace outcome after)
    (unstruck : Unstruck trace)
    (own : ∀ number, (data number).userId = userId ∧ (data number).attemptNumber = number) :
    ∃ first second between, trace = first ++ second ∧
      Tallies userId 1 0 0 before.db first between.db ∧
        Runs environment (next ()) between second outcome after ∧ Unstruck second := by
  obtain ⟨counted, found, rest, rfl, performsCount, run⟩ := run
  have unstruck := List.forall_mem_cons.mp unstruck
  cases counted with
  | error failure => cases unstruck.1
  | ok count =>
    have asked := performsCount
    obtain ⟨choice, answered⟩ := asked
    have same : found.db = before.db := by
      rw [(query_cases answered).1]
      rfl
    have number : count = (before.db.attemptNumbers userId).length := by
      rw [query_ok answered, Database.attemptNumbers, List.length_map, List.countP_eq_length_filter]
      rfl
    obtain ⟨reply, between, second, rfl, performsCreate, run⟩ := runs_recordAttempt_bind run
    have unstruck := List.forall_mem_cons.mp unstruck.2
    refine ⟨[_, _], second, between, rfl, ?_, run, unstruck.2⟩
    have asks : (Effect.idVerificationCount userId).sparesBooks userId := trivial
    refine Tallies.preceded ?_ (tallies_performs asks performsCount)
    refine tallies_idVerificationCreate performsCreate unstruck.1 (own _).1 ?_
    rw [(own _).2, same, number]

/-- The engine has not answered: the attempt is recorded and not counted. -/
theorem tallies_engineFailed {documentMatch : Bool} {failure : Failure}
    {outcome : Except Failure VerificationResult}
    (run : Runs environment (engineFailed userId documentMatch keys ipAddress failure) before trace
      outcome after) (unstruck : Unstruck trace) :
    Tallies userId 1 0 0 before.db trace after.db := by
  obtain ⟨reply, between, rest, rfl, performs, run⟩ := runs_cleanupImages_bind run
  have deletes : (Effect.deleteObjects [keys.1, keys.2]).sparesBooks userId := trivial
  refine Tallies.preceded ?_ (tallies_performs deletes performs)
  obtain ⟨first, second, last, rfl, recorded, run, _⟩ :=
    tallies_recorded run (List.forall_mem_cons.mp unstruck).2 fun _ => ⟨rfl, rfl⟩
  obtain ⟨rfl, _, rfl⟩ := run
  rw [List.append_nil]
  exact recorded

theorem getVerificationWindowState_sparesBooks (other : UserId) :
    (getVerificationWindowState runtime other).Uses (Effect.sparesBooks userId) := by
  refine (getVerificationWindowState_uses runtime other).mono fun effect inside => ?_
  rcases inside with harmless | ⟨_, _, rfl⟩
  · exact harmless_sparesBooks harmless
  · trivial

theorem upgradeToken_sparesBooks (other : UserId) (userAgent : String) :
    (AuthService.upgradeToken runtime other ipAddress userAgent).Uses
      (Effect.sparesBooks userId) := by
  refine (upgradeToken_uses runtime other ipAddress userAgent).mono fun effect inside => ?_
  rcases inside with harmless | issues | ⟨_, rfl⟩
  · exact harmless_sparesBooks harmless
  · exact issues_sparesBooks issues
  · exact List.forall_mem_singleton.mpr trivial

/-- The user row is updated with the attempt counted, and then the rest spares the books. -/
theorem tallies_counted {Result : Type} {data : UserUpdate} {next : Unit → Async Result}
    {outcome : Except Failure Result}
    (run : Runs environment (execute [.userUpdate userId data] >>= next) before trace outcome after)
    (unstruck : Unstruck trace) (counts : data.incrementVerificationAttempts = true)
    (rest : (next ()).Uses (Effect.sparesBooks userId)) :
    Tallies userId 0 1 0 before.db trace after.db := by
  obtain ⟨reply, between, later, rfl, performs, run⟩ := runs_perform_bind.mp run
  have unstruck := List.forall_mem_cons.mp unstruck
  have counted := tallies_userUpdate performs unstruck.1 counts
  cases reply with
  | error failure => cases unstruck.1
  | ok _ => exact counted.append (tallies_of_uses run rest)

/-- The verdict counts the attempt. -/
theorem tallies_applyVerdict {Result : Type} {wasAlreadyVerified passed : Bool}
    {next : Option AuthTokens → Async Result} {outcome : Except Failure Result}
    (run : Runs environment (applyVerdict runtime userId wasAlreadyVerified passed ipAddress >>=
      next) before trace outcome after) (unstruck : Unstruck trace)
    (rest : ∀ tokens, (next tokens).Uses (Effect.sparesBooks userId)) :
    Tallies userId 0 1 0 before.db trace after.db := by
  unfold applyVerdict at run
  split at run
  · rw [Program.bind_assoc] at run
    obtain ⟨reply, between, later, rfl, performs, run⟩ := runs_perform_bind.mp run
    obtain rfl := performs_now performs
    have asks : Effect.now.sparesBooks userId := trivial
    refine Tallies.preceded ?_ (tallies_performs asks performs)
    rw [ofOutcome_ok, done_bind, Program.bind_assoc] at run
    refine tallies_counted run (List.forall_mem_cons.mp unstruck).2 rfl ?_
    rw [Program.bind_assoc]
    exact uses_bind (upgradeToken_sparesBooks _ _) fun tokens => rest (some tokens)
  · rw [Program.bind_assoc] at run
    exact tallies_counted run unstruck rfl (rest none)

/-- The engine has answered: the attempt is recorded and counted. -/
theorem tallies_engineAnswered {record : UserRecord} {identity : CitizenIdentityRow}
    {dto : SubmitVerificationDto} {answer : EngineVerificationResponse}
    {outcome : Except Failure VerificationResult}
    (run : Runs environment (engineAnswered runtime userId record identity dto keys ipAddress
      answer) before trace outcome after) (unstruck : Unstruck trace) :
    Tallies userId 1 1 0 before.db trace after.db := by
  obtain ⟨first, second, between, rfl, recorded, run, unstruck⟩ :=
    tallies_recorded run unstruck fun _ => ⟨rfl, rfl⟩
  obtain ⟨reply, cleaned, rest, rfl, performs, run⟩ := runs_cleanupImages_bind run
  have deletes : (Effect.deleteObjects [keys.1, keys.2]).sparesBooks userId := trivial
  have counted := tallies_applyVerdict run (List.forall_mem_cons.mp unstruck).2 fun tokens =>
    uses_bind (uses_perform trivial) fun _ =>
      uses_bind (getVerificationWindowState_sparesBooks userId) fun _ => trivial
  exact recorded.append (counted.preceded (tallies_performs deletes performs))

/-- The call of the engine, and then what its answer calls for. -/
theorem squares_engine {record : UserRecord} {identity : CitizenIdentityRow}
    {dto : SubmitVerificationDto} {documentMatch : Bool}
    {outcome : Except Failure VerificationResult}
    (run : Runs environment ((callVerificationEngine
        ⟨keys.1, keys.2, userId, documentMatch⟩).attempt >>= fun answer =>
      match answer with
      | .error failure => engineFailed userId documentMatch keys ipAddress failure
      | .ok answer => engineAnswered runtime userId record identity dto keys ipAddress answer)
      before trace outcome after) (unstruck : Unstruck trace) :
    Squares userId before.db trace after.db := by
  obtain ⟨reply, between, rest, rfl, performs, run⟩ := run
  have later : Unstruck rest := (List.forall_mem_cons.mp unstruck).2
  have same : between.db = before.db := by
    obtain ⟨choice, answered⟩ := performs
    rcases remote_cases answered with ⟨_, rfl⟩ | ⟨_, rfl⟩ <;> rfl
  cases reply with
  | error failure =>
    have call : Tallies userId 0 0 1 before.db
        [⟨.callEngine ⟨keys.1, keys.2, userId, documentMatch⟩, .error failure⟩] between.db := by
      rw [same]
      exact ⟨(List.append_nil _).symm, fun _ found => found, by simp [unanswered]⟩
    exact ⟨0, 1, call.append (tallies_engineFailed run later)⟩
  | ok answer =>
    have call : Tallies userId 0 0 0 before.db
        [⟨.callEngine ⟨keys.1, keys.2, userId, documentMatch⟩, .ok answer⟩] between.db := by
      rw [same]
      exact ⟨(List.append_nil _).symm, fun _ found => found, rfl⟩
    exact ⟨1, 0, (tallies_engineAnswered run later).preceded call⟩

theorem enforceAttemptLimit_sparesBooks (other : UserId) :
    (enforceAttemptLimit runtime other).Uses (Effect.sparesBooks userId) := by
  refine (enforceAttemptLimit_uses runtime other).mono fun effect inside => ?_
  rcases inside with harmless | ⟨_, _, rfl⟩
  · exact harmless_sparesBooks harmless
  · trivial

/-- A submission of the user squares the books. -/
theorem squares_submission {dto : SubmitVerificationDto} {outcome : Except Failure
      VerificationResult}
    (run : Runs environment (submitVerification runtime userId dto ipAddress) before trace outcome
      after) (unstruck : Unstruck trace) : Squares userId before.db trace after.db := by
  have asks : (Effect.userFindUnique (.byId userId)).sparesBooks userId := trivial
  refine squares_bind run unstruck (uses_perform asks) fun user between later run unstruck => ?_
  cases user with
  | none =>
    obtain ⟨rfl, _, rfl⟩ := run
    exact ⟨0, 0, tallies_nil userId _⟩
  | some record =>
    refine squares_throwIf_bind run unstruck fun run unstruck => ?_
    refine squares_throwIf_bind run unstruck fun run unstruck => ?_
    refine squares_throwIf_bind run unstruck fun run unstruck => ?_
    refine squares_bind run unstruck (enforceAttemptLimit_sparesBooks userId)
      fun _ between later run unstruck => ?_
    unfold verifyIdentity at run
    split at run
    · obtain ⟨rfl, _, rfl⟩ := run
      exact ⟨0, 0, tallies_nil userId _⟩
    · refine squares_throwIf_bind run unstruck fun run unstruck => ?_
      refine squares_bind run unstruck (uses_ofOutcome _) fun storedNid _ _ run unstruck => ?_
      refine squares_bind run unstruck ((uploadImages_uses _ _ _).mono
        fun _ => harmless_sparesBooks) fun keys _ _ run unstruck => ?_
      exact squares_engine run unstruck

/-- A submission of another user leaves the books alone. -/
theorem submission_sparesBooks {submitter : UserId} (other : submitter ≠ userId)
    (dto : SubmitVerificationDto) :
    (submitVerification runtime submitter dto ipAddress).Uses (Effect.sparesBooks userId) := by
  have records : ∀ data, data.userId = submitter →
      (recordAttempt data).Uses (Effect.sparesBooks userId) := fun data own =>
    uses_rescue (uses_perform (List.forall_mem_singleton.mpr fun same =>
      other (own.symm.trans same))) fun _ => trivial
  have counts : ∀ data : UserUpdate,
      (Effect.execute [.userUpdate submitter data]).sparesBooks userId :=
    fun data => List.forall_mem_singleton.mpr (.inl other)
  refine uses_bind (uses_perform trivial) fun user => ?_
  cases user with
  | none => trivial
  | some record =>
    refine uses_bind (uses_throwIf _ _) fun _ => uses_bind (uses_throwIf _ _) fun _ =>
      uses_bind (uses_throwIf _ _) fun _ =>
      uses_bind (enforceAttemptLimit_sparesBooks submitter) fun _ => ?_
    unfold verifyIdentity
    split
    · trivial
    · refine uses_bind (uses_throwIf _ _) fun _ => uses_bind (uses_ofOutcome _) fun _ =>
        uses_bind ((uploadImages_uses _ _ _).mono fun _ => harmless_sparesBooks) fun keys =>
        uses_bind (uses_attempt (uses_rescue (uses_perform other) fun _ => trivial))
          fun answer => ?_
      cases answer with
      | error failure =>
        exact uses_bind ((cleanupImages_uses _ _).mono fun _ => harmless_sparesBooks) fun _ =>
          uses_bind ((getNextAttemptNumber_uses _).mono fun _ => harmless_sparesBooks) fun _ =>
          uses_bind (records _ rfl) fun _ => trivial
      | ok answer =>
        refine uses_bind ((getNextAttemptNumber_uses _).mono fun _ => harmless_sparesBooks)
          fun _ => uses_bind (records _ rfl) fun _ =>
          uses_bind ((cleanupImages_uses _ _).mono fun _ => harmless_sparesBooks) fun _ =>
          uses_bind ?_ fun _ => uses_bind (uses_perform trivial) fun _ =>
          uses_bind (getVerificationWindowState_sparesBooks submitter) fun _ => trivial
        unfold applyVerdict
        split
        · exact uses_bind (uses_perform trivial) fun _ => uses_bind (uses_perform (counts _))
            fun _ => uses_bind (upgradeToken_sparesBooks _ _) fun _ => trivial
        · exact uses_bind (uses_perform (counts _)) fun _ => trivial

/-- Serving a submission squares the books of every user. -/
theorem squares_serve {jwt : Jwt} {dto : SubmitVerificationDto}
    {outcome : Except Failure Response}
    (run : Runs environment (serve runtime (.submitVerification jwt dto ipAddress)) before trace
      outcome after) (unstruck : Unstruck trace) : Squares userId before.db trace after.db := by
  obtain ⟨first, second, _, between, rfl, runGuarded, run⟩ := runs_bind.mp run
  obtain ⟨ended, rfl, inner⟩ := runs_attempt.mp runGuarded
  have responded : Tallies userId 0 0 0 between.db second after.db :=
    tallies_of_uses run (uses_bind (uses_ofOutcome _) fun _ =>
      uses_bind (uses_perform trivial) fun _ => uses_ofOutcome _)
  refine Squares.append ?_ ⟨0, 0, responded⟩
  have unstruck : Unstruck first := fun event member =>
    unstruck event (List.mem_append_left _ member)
  refine squares_bind inner unstruck ((canActivate_uses _ _).mono
    fun _ => harmless_sparesBooks) fun user _ later run unstruck => ?_
  by_cases own : user.userId = userId
  · obtain ⟨first, second, ended, between, rfl, run, finish⟩ := runs_bind.mp run
    rw [own] at run
    refine (squares_submission run fun event member =>
      unstruck event (List.mem_append_left _ member)).append ⟨0, 0, tallies_of_uses finish ?_⟩
    cases ended <;> trivial
  · exact ⟨0, 0, tallies_of_uses run (uses_bind (submission_sparesBooks own dto) fun _ => trivial)⟩

end Submission

/-! ### Every run -/

section Log

variable {runtime : Runtime} {initial state : State} {userId : UserId} {log : List ServiceServed}

/-- Whatever calls are served, the books are squared. -/
theorem squares_log (serial : SerialRun (service runtime) initial log state)
    (unstruck : ∀ served ∈ log, served.request.submits = true → Unstruck served.trace) :
    Squares userId initial.db (log.reverse.flatMap Served.trace) state.db := by
  induction serial with
  | start => exact ⟨0, 0, tallies_nil userId initial.db⟩
  | @serve log served earlier valid inductionHypothesis =>
    have unstruck := List.forall_mem_cons.mp unstruck
    rw [List.reverse_cons, List.flatMap_append, List.flatMap_singleton]
    refine (inductionHypothesis unstruck.2).append ?_
    have run := valid.runs
    by_cases submits : served.request.submits = true
    · have quiet := unstruck.1 submits
      generalize served.request = request at run submits
      cases request with
      | submitVerification jwt dto ipAddress => exact squares_serve run quiet
      | _ => cases submits
    · exact ⟨0, 0, tallies_of_uses run
        (serve_sparesBooks runtime (Bool.not_eq_true _ |>.mp submits))⟩

/-- No submission of the user has been left without an answer of the engine. -/
def AlwaysAnswered (userId : UserId) (log : List ServiceServed) : Prop :=
  ∀ served ∈ log, ∀ event ∈ served.trace, unanswered userId event = false

/-- Books that balance go on to balance exactly as long as the engine answers. -/
theorem balanced_iff_alwaysAnswered (serial : SerialRun (service runtime) initial log state)
    (unstruck : ∀ served ∈ log, served.request.submits = true → Unstruck served.trace)
    (balanced : initial.db.Balanced userId) :
    state.db.Balanced userId ↔ AlwaysAnswered userId log := by
  rw [(squares_log serial unstruck).balanced_iff balanced, List.countP_eq_zero]
  constructor
  · intro none served member event performed
    refine Bool.not_eq_true _ |>.mp (none event ?_)
    exact List.mem_flatMap.mpr ⟨served, List.mem_reverse.mpr member, performed⟩
  · intro answered event member
    obtain ⟨served, listed, performed⟩ := List.mem_flatMap.mp member
    exact Bool.not_eq_true _ |>.mpr (answered served (List.mem_reverse.mp listed) event performed)

end Log

/-- What serving a script from a state comes to. -/
def servedFrom (initial : State) (script : List (Request × List Choice)) :
    List ServiceServed × State :=
  (serveAll (service legibleRuntime) [] initial script).getD ([], initial)

theorem servedFrom_run (initial : State) (script : List (Request × List Choice)) :
    SerialRun (service legibleRuntime) initial (servedFrom initial script).1
      (servedFrom initial script).2 := by
  unfold servedFrom
  cases served : serveAll (service legibleRuntime) [] initial script with
  | none => exact .start
  | some final => exact serveAll_serialRun .start served

/-- The citizen submits once, and the engine does not answer. -/
def submittedUnavailable : List ServiceServed × State :=
  servedFrom (playedSerially citizenSerially).2 [(submission,
    List.replicate 9 ({} : Choice) ++ [{ fails := some databaseDown }] ++
      List.replicate 4 ({} : Choice))]

/-- The citizen that has signed in has attempted nothing. -/
theorem citizen_balanced : (playedSerially citizenSerially).2.db.Balanced 0 :=
  ⟨by decide +kernel, by decide +kernel, by decide +kernel⟩

/-- After a submission that the engine has not answered the books do not balance. -/
theorem attempt_books_drift :
    ¬ ∀ (runtime : Runtime) (userId : UserId) (initial state : State) (log : List ServiceServed),
      SerialRun (service runtime) initial log state →
        (∀ served ∈ log, served.request.submits = true → Unstruck served.trace) →
          initial.db.Balanced userId → ∀ served ∈ log, served.after.db.Balanced userId := by
  intro balance
  have balanced := balance legibleRuntime 0 _ _ submittedUnavailable.1 (servedFrom_run _ _)
    (by unfold Unstruck; decide +kernel) citizen_balanced
  have behind : ∃ served ∈ submittedUnavailable.1, served.after.db.verificationAttempts 0 ≠
      some (served.after.db.attemptNumbers 0).length := by
    decide +kernel
  obtain ⟨served, member, drifted⟩ := behind
  exact drifted (balanced served member).counted

/-- Whatever calls are served one after another without the database failing a submission, the books
of a user balance after every call exactly when the engine has answered every submission. -/
theorem attempt_books_balance_iff (runtime : Runtime) (userId : UserId) (initial state : State)
    (log : List ServiceServed) (serial : SerialRun (service runtime) initial log state)
    (unstruck : ∀ served ∈ log, served.request.submits = true → Unstruck served.trace)
    (balanced : initial.db.Balanced userId) :
    (∀ served ∈ log, served.after.db.Balanced userId) ↔ AlwaysAnswered userId log := by
  have each : ∀ newer served older, log = newer ++ served :: older →
      (served.after.db.Balanced userId ↔ AlwaysAnswered userId (served :: older)) := by
    rintro newer served older rfl
    obtain ⟨earlier, valid⟩ := serial.split
    exact balanced_iff_alwaysAnswered (earlier.serve valid)
      (fun other member => unstruck other (List.mem_append_right _ member)) balanced
  constructor
  · intro balances served member
    obtain ⟨newer, older, split⟩ := List.append_of_mem member
    exact (each newer served older split).mp (balances served member) served List.mem_cons_self
  · intro answered served member
    obtain ⟨newer, older, rfl⟩ := List.append_of_mem member
    exact (each newer served older rfl).mpr fun other listed =>
      answered other (List.mem_append_right _ listed)

/-- The citizen fails once and then passes. -/
def submittedTwice : List ServiceServed × State :=
  servedFrom (playedSerially citizenSerially).2 [
    (submission, List.replicate 30 {}),
    (submission, List.replicate 30 { engine := ⟨true, 1, 1, true, 1, none⟩, text := "r2" })]

/-- The books of the citizen balance after both. -/
theorem attempt_books_balance_iff_citizen :
    submittedTwice.1.length = 2 ∧ AlwaysAnswered 0 submittedTwice.1 ∧
      ∀ served ∈ submittedTwice.1, served.after.db.Balanced 0 := by
  have answered : AlwaysAnswered 0 submittedTwice.1 := by
    unfold AlwaysAnswered
    decide +kernel
  exact ⟨by decide +kernel, answered, (attempt_books_balance_iff legibleRuntime 0 _ _
    submittedTwice.1 (servedFrom_run _ _) (by unfold Unstruck; decide +kernel)
    citizen_balanced).mpr answered⟩

end GraconAuth
