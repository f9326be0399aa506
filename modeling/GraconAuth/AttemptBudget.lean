/-
This file is about the attempt window: in any interval as long as the window, the
engine is called for a user at most `MAX_ATTEMPTS` times. The gate counts the audit
rows of the user, and a submission stores its row only after its call of the
engine, if at all, so runs exist in which more calls are made. The bound holds in
the runs in which the gate finds the rows of the earlier calls.
-/

import GraconAuth.Footprints
import GraconAuth.Tables

namespace GraconAuth

open Interleaving Program Rows
open VerificationService (MAX_ATTEMPTS attemptWindowMs isAttemptWindowEnabled)

variable (runtime : Runtime)

/-! ### Calls of the engine -/

/-- The user for whom the engine is called. -/
def Effect.callsFor : Effect → Option UserId
  | .callEngine payload => some payload.userId
  | _ => none

/-- The engine is called for the user in an interval of time. -/
def calledWithin (userId : UserId) (start finish : Timestamp) (entry : ServiceEntry) : Bool :=
  decide (entry.effect.callsFor = some userId) && decide (start ≤ entry.after.clock) &&
    decide (entry.after.clock ≤ finish)

theorem calledWithin_iff {userId : UserId} {start finish : Timestamp} {entry : ServiceEntry} :
    calledWithin userId start finish entry = true ↔ entry.effect.callsFor = some userId ∧
      start ≤ entry.after.clock ∧ entry.after.clock ≤ finish := by
  simp only [calledWithin, Bool.and_eq_true, decide_eq_true_eq, and_assoc]

/-- In any interval as long as the window, the engine is called for a user at most
`MAX_ATTEMPTS` times. -/
def BudgetBounded (world : ServiceWorld) : Prop :=
  0 < runtime.attemptWindowHours → ∀ userId start,
    world.history.countP (calledWithin userId start (start + attemptWindowMs runtime)) ≤
      MAX_ATTEMPTS

/-! ### A run with more calls -/

/-- Four submissions overlap: each passes the gate before any of them calls the engine. -/
def overlappingSubmissions : List ServiceMove :=
  citizenSignedIn ++ List.replicate 4 (.accept submission) ++
    [2, 3, 4, 5].flatMap (fun thread => steps thread (List.replicate 9 {})) ++
    [2, 3, 4, 5].flatMap (fun thread => steps thread [{}])

/-- The bound does not hold in every run: all four call the engine. -/
theorem budget_not_bounded :
    ¬ ∀ (runtime : Runtime) (clock : Timestamp) (pool : ServicePool),
      Reachable (service runtime) Regime.free (State.empty clock) pool →
        BudgetBounded runtime pool.world := by
  intro bounded
  have four := bounded legibleRuntime 0 _
    (played_reachable Referee.lax_upholds overlappingSubmissions) (by decide) 0 0
  exact absurd four (by decide +kernel)

/-! ### The runs in which the attempts are counted -/

/-- The audit row that a statement stores, by user and time. -/
def Statement.audits (clock : Timestamp) : Statement → Option (UserId × Timestamp)
  | .idVerificationCreate data => some (data.userId, clock)
  | _ => none

/-- The audit rows that an entry has stored. -/
def auditRows (entry : ServiceEntry) : List (UserId × Timestamp) :=
  (executed entry.event).filterMap (Statement.audits entry.after.clock)

/-- The entry asks for the attempts of a user. -/
def Effect.countsAttempts : Effect → Bool
  | .idVerificationFindMany _ _ => true
  | _ => false

/-- When the gate of one submission asked for the attempts, another submission had stored its
audit row. -/
def FoundByGate (world : ServiceWorld) (thread other : Nat) : Prop :=
  ∀ past ∈ world.history.tails, ∀ gate ∈ past.head?, gate.thread = thread →
    gate.effect.countsAttempts = true → ∃ store ∈ past.tail, store.thread = other ∧
      auditRows store ≠ []

instance (world : ServiceWorld) (thread other : Nat) : Decidable (FoundByGate world thread other) :=
  inferInstanceAs (Decidable (∀ past ∈ _, _))

/-- When a submission calls the engine, its gate has found the audit row of every submission that
has called the engine for the user within the window. -/
def Counted (world : ServiceWorld) (entry : ServiceEntry) : Prop :=
  ∀ userId ∈ entry.effect.callsFor, ∀ earlier ∈ world.history,
    calledWithin userId (entry.after.clock - attemptWindowMs runtime) entry.after.clock earlier →
      FoundByGate world entry.thread earlier.thread

instance (world : ServiceWorld) (entry : ServiceEntry) : Decidable (Counted runtime world entry) :=
  inferInstanceAs (Decidable (∀ userId ∈ _, _))

/-- The runs in which every call of the engine is counted by the later gates. -/
def counted : Regime State Effect.Reply Failure Request where
  admits _ := True
  permits := Counted runtime

instance (request : Request) : Decidable ((counted runtime).admits request) := .isTrue trivial

instance (world : ServiceWorld) (entry : ServiceEntry) :
    Decidable ((counted runtime).permits world entry) :=
  inferInstanceAs (Decidable (Counted runtime world entry))

/-! ### Every call keeps to the rule -/

/-- The engine has not been called yet. -/
def Engineless (past : List ServiceEvent) : Prop :=
  ∀ event ∈ past, event.effect.callsFor = none

/-- The engine has been called for the user. -/
def Engaged (past : List ServiceEvent) (userId : UserId) : Prop :=
  ∃ event ∈ past, event.effect.callsFor = some userId

/-- The gate has found fewer than `MAX_ATTEMPTS` attempts in the window. -/
def Admitted (past : List ServiceEvent) (userId : UserId) : Prop :=
  ∃ start attempts, ⟨.now, .ok start⟩ ∈ past ∧
    ⟨.idVerificationFindMany userId (start - attemptWindowMs runtime), .ok attempts⟩ ∈ past ∧
      attempts.length < MAX_ATTEMPTS

/-- The engine is called once, behind the gate, and an audit row is stored after it. -/
def budgeted (past : List ServiceEvent) : Effect → Prop
  | .callEngine payload => Engineless past ∧
    (isAttemptWindowEnabled runtime = true → Admitted runtime past payload.userId)
  | .execute statements => ∀ data, .idVerificationCreate data ∈ statements →
    Engaged past data.userId
  | _ => True

theorem Engineless.cons {past : List ServiceEvent} (engineless : Engineless past)
    {event : ServiceEvent} (calls : event.effect.callsFor = none) : Engineless (event :: past) := by
  intro other member
  rcases List.mem_cons.mp member with rfl | old
  · exact calls
  · exact engineless other old

theorem Engineless.grown {past now : List ServiceEvent} (engineless : Engineless past)
    (grown : Extends Effect.Harmless past now) : Engineless now := by
  intro event member
  rcases grown.mem_or member with old | harmless
  · exact engineless event old
  · unfold Effect.callsFor
    split
    · rename_i payload effect
      rw [effect] at harmless
      exact harmless.elim
    · rfl

theorem Engaged.grown {past now : List ServiceEvent} {userId : UserId}
    (engaged : Engaged past userId) {allowed : Effect → Prop} (grown : Extends allowed past now) :
    Engaged now userId := by
  obtain ⟨event, member, calls⟩ := engaged
  exact ⟨event, grown.mem member, calls⟩

theorem Admitted.grown {past now : List ServiceEvent} {userId : UserId}
    (admitted : Admitted runtime past userId) {allowed : Effect → Prop}
    (grown : Extends allowed past now) : Admitted runtime now userId := by
  obtain ⟨start, attempts, read, found, few⟩ := admitted
  exact ⟨start, attempts, grown.mem read, grown.mem found, few⟩

theorem harmless_budgeted (past : List ServiceEvent) (effect : Effect)
    (harmless : effect.Harmless) : budgeted runtime past effect := by
  cases effect with
  | callEngine payload => exact harmless.elim
  | execute statements => exact harmless.elim
  | _ => trivial

section Traversal

variable {past : List ServiceEvent} {userId : UserId}

/-- Who passes the gate of an enabled window has been admitted. -/
theorem enforceAttemptLimit_budgeted (engineless : Engineless past) :
    (VerificationService.enforceAttemptLimit runtime userId).Follows (conduct (budgeted runtime))
      (fun now outcome => Engineless now ∧ ∀ attemptsUsed, outcome = .ok attemptsUsed →
        isAttemptWindowEnabled runtime = true → Admitted runtime now userId) past := by
  unfold VerificationService.enforceAttemptLimit VerificationService.getVerificationWindowState
  by_cases enabled : isAttemptWindowEnabled runtime = true
  · simp only [enabled, Bool.not_true, Bool.false_eq_true, if_false, bind_assoc]
    refine follows_perform_bind.mpr ⟨trivial, fun start _ => ?_, fun _ _ =>
      ⟨engineless.cons rfl, nofun⟩⟩
    refine follows_perform_bind.mpr ⟨trivial, fun attempts _ => ?_, fun _ _ =>
      ⟨(engineless.cons rfl).cons rfl, nofun⟩⟩
    refine follows_perform_bind.mpr ⟨trivial, fun now _ => ?_, fun _ _ =>
      ⟨((engineless.cons rfl).cons rfl).cons rfl, nofun⟩⟩
    have engineless : Engineless (⟨.now, .ok now⟩ ::
        ⟨.idVerificationFindMany userId (start - attemptWindowMs runtime), .ok attempts⟩ ::
        ⟨.now, .ok start⟩ :: past) := ((engineless.cons rfl).cons rfl).cons rfl
    refine follows_throwIf_bind.mpr ⟨fun _ => ⟨engineless, nofun⟩, fun few => ⟨engineless, ?_⟩⟩
    intro _ _ _
    refine ⟨start, attempts, by simp, by simp, ?_⟩
    exact Nat.not_le.mp (of_decide_eq_false few)
  · rw [if_pos (by simpa using enabled)]
    exact ⟨engineless, fun _ _ contra => absurd contra enabled⟩

/-- However the engine answers, it has been called. -/
theorem callVerificationEngine_budgeted (payload : EngineRequest) (engineless : Engineless past)
    (admitted : isAttemptWindowEnabled runtime = true → Admitted runtime past payload.userId) :
    (VerificationService.callVerificationEngine payload).attempt.Follows
      (conduct (budgeted runtime)) (fun now _ => Engaged now payload.userId) past := by
  refine follows_attempt.mpr (follows_rescue.mpr (follows_perform.mpr
    ⟨⟨engineless, admitted⟩, fun reply _ => ?_⟩))
  cases reply with
  | ok answer => exact ⟨_, List.mem_cons_self, rfl⟩
  | error failure => exact ⟨_, List.mem_cons_self, rfl⟩

/-- Once the engine has been called for the user, an audit row may be stored. -/
theorem recordAttempt_budgeted {data : IdVerificationCreate} (engaged : Engaged past data.userId) :
    (VerificationService.recordAttempt data).Abides (conduct (budgeted runtime)) past := by
  refine abides_rescue (abides_perform fun other listed => ?_) fun _ _ => ?_
  · cases List.mem_singleton.mp listed
    exact engaged
  · trivial

theorem engineFailed_budgeted (documentMatch : Bool) (keys : ObjectKey × ObjectKey)
    (ipAddress : String) (failure : Failure) (engaged : Engaged past userId) :
    (VerificationService.engineFailed userId documentMatch keys ipAddress failure).Abides
      (conduct (budgeted runtime)) past :=
  (cleanupImages_uses _ _).abides_bind (harmless_budgeted runtime) fun _ _ grown =>
    (getNextAttemptNumber_uses _).abides_bind (harmless_budgeted runtime) fun _ _ grownToo =>
    (recordAttempt_budgeted runtime ((engaged.grown grown).grown grownToo)).bind fun _ _ => trivial

theorem applyVerdict_budgeted (wasAlreadyVerified passed : Bool) (ipAddress : String) :
    (VerificationService.applyVerdict runtime userId wasAlreadyVerified passed ipAddress).Abides
      (conduct (budgeted runtime)) past := by
  have upgrade : ∀ past effect, (effect.Harmless ∨ effect.Issues ∨ ∃ userId, effect = .execute [
      .refreshTokenUpdateMany { userId := some userId, tokenType := some .limited }]) →
      budgeted runtime past effect := by
    rintro past effect (harmless | issues | ⟨_, rfl⟩)
    · exact harmless_budgeted runtime past effect harmless
    · unfold Effect.Issues at issues
      split at issues
      · trivial
      · trivial
      · simp [budgeted]
      · exact issues.elim
    · simp [budgeted]
  unfold VerificationService.applyVerdict
  split
  · exact abides_perform_bind trivial fun _ _ =>
      abides_perform_bind (by simp [budgeted]) fun _ _ =>
      (upgradeToken_uses runtime _ _ _).abides_bind upgrade fun _ _ _ => trivial
  · exact abides_perform_bind (by simp [budgeted]) fun _ _ => trivial

theorem engineAnswered_budgeted (record : UserRecord) (identity : CitizenIdentityRow)
    (dto : VerificationService.SubmitVerificationDto) (keys : ObjectKey × ObjectKey)
    (ipAddress : String) (answer : EngineVerificationResponse) (engaged : Engaged past userId) :
    (VerificationService.engineAnswered runtime userId record identity dto keys ipAddress
      answer).Abides (conduct (budgeted runtime)) past := by
  have window : ∀ past effect,
      (effect.Harmless ∨ ∃ userId since, effect = .idVerificationFindMany userId since) →
      budgeted runtime past effect := by
    rintro past effect (harmless | ⟨_, _, rfl⟩)
    · exact harmless_budgeted runtime past effect harmless
    · trivial
  exact (getNextAttemptNumber_uses _).abides_bind (harmless_budgeted runtime) fun _ _ grown =>
    (recordAttempt_budgeted runtime (engaged.grown grown)).bind fun _ _ =>
    (cleanupImages_uses _ _).abides_bind (harmless_budgeted runtime) fun _ _ _ =>
    (applyVerdict_budgeted runtime _ _ _).bind fun _ _ => abides_perform_bind trivial fun _ _ =>
    (getVerificationWindowState_uses runtime userId).abides_bind window fun _ _ _ => trivial

theorem submitVerification_budgeted (dto : VerificationService.SubmitVerificationDto)
    (ipAddress : String) (engineless : Engineless past) :
    (VerificationService.submitVerification runtime userId dto ipAddress).Abides
      (conduct (budgeted runtime)) past := by
  refine abides_perform_bind trivial fun user _ => ?_
  cases user with
  | none => trivial
  | some record =>
    refine abides_throwIf_bind fun _ => abides_throwIf_bind fun _ => abides_throwIf_bind fun _ =>
      (enforceAttemptLimit_budgeted runtime (engineless.cons rfl)).bind (fun now _ passed => ?_)
        fun _ _ _ => trivial
    obtain ⟨engineless, admitted⟩ := passed
    unfold VerificationService.verifyIdentity
    split
    · trivial
    · refine abides_throwIf_bind fun _ =>
        (decrypt_uses runtime _).abides_bind (harmless_budgeted runtime) fun _ _ grown =>
        (uploadImages_uses _ _ _).abides_bind (harmless_budgeted runtime) fun _ keys grownToo => ?_
      have engineless := (engineless.grown grown).grown grownToo
      refine Follows.bind (callVerificationEngine_budgeted runtime _ engineless
        fun enabled => ((admitted _ rfl enabled).grown runtime grown).grown runtime grownToo)
        (fun later answer engaged => ?_) fun _ _ _ => trivial
      cases answer with
      | error failure => exact engineFailed_budgeted runtime _ keys ipAddress failure engaged
      | ok answer =>
        exact engineAnswered_budgeted runtime record _ dto keys ipAddress answer engaged

end Traversal

/-- The footprint of the requests that do not submit a verification. -/
theorem awaits_budgeted {request : Request}
    (other : ∀ jwt dto ipAddress, request ≠ .submitVerification jwt dto ipAddress)
    (past : List ServiceEvent) (effect : Effect) (awaits : request.Awaits effect) :
    budgeted runtime past effect := by
  cases effect with
  | callEngine payload =>
    obtain ⟨jwt, dto, ipAddress, submits⟩ := awaits_callEngine awaits
    exact absurd submits (other jwt dto ipAddress)
  | execute statements =>
    intro data listed
    have writes := awaits_writes awaits _ listed
    cases request with
    | submitVerification jwt dto ipAddress => exact absurd rfl (other jwt dto ipAddress)
    | _ => exact writes.elim
  | _ => trivial

/-- Every call keeps to the rule. -/
theorem serve_budgeted (request : Request) :
    (serve runtime request).Abides (conduct (budgeted runtime)) [] := by
  refine serve_abides runtime request (harmless_budgeted runtime) (fun _ _ => trivial)
    fun past userId grown => ?_
  by_cases submits : ∃ jwt dto ipAddress, request = .submitVerification jwt dto ipAddress
  · obtain ⟨jwt, dto, ipAddress, rfl⟩ := submits
    have blank : Engineless [] := by simp [Engineless]
    exact (submitVerification_budgeted runtime dto ipAddress (blank.grown grown)).bind
      fun _ _ => trivial
  · exact handle_abides runtime _ userId (harmless_budgeted runtime) (awaits_budgeted runtime
      fun jwt dto ipAddress same => submits ⟨jwt, dto, ipAddress, same⟩)

/-! ### The audit rows are those that the history has stored -/

/-- The audit rows of the table, by user and time. -/
def Database.audits (db : Database) : List (UserId × Timestamp) :=
  db.idVerifications.map fun row => (row.userId, row.createdAt)

theorem length_attemptsSince (db : Database) (userId : UserId) (since : Timestamp) :
    (db.attemptsSince userId since).length =
      db.audits.countP fun audit => audit.1 == userId && decide (since ≤ audit.2) := by
  rw [Database.attemptsSince, List.length_insertionSort, List.length_map, Database.audits,
    List.countP_map, List.countP_eq_length_filter]
  rfl

theorem runAll_audits {clock : Timestamp} {db next : Database} {statements : List Statement}
    (ran : runAll clock db statements = .ok next) :
    next.audits = db.audits ++ statements.filterMap (Statement.audits clock) := by
  induction statements generalizing db with
  | nil =>
    cases ran
    rw [List.filterMap_nil, List.append_nil]
  | cons statement rest inductionHypothesis =>
    obtain ⟨between, carried, ran⟩ := runAll_cons ran
    rw [inductionHypothesis ran]
    cases carried with
    | idVerificationCreate data row stored =>
      simp [Database.audits, Statement.audits, stored]
    | _ => rfl

section Chronicles

variable {runtime} {regime : Regime State Effect.Reply Failure Request} {clock : Timestamp}
  {world : ServiceWorld} {entry : ServiceEntry}

/-- An entry adds its audit rows to the table. -/
theorem performs_audits
    (performs : environment.Performs entry.before entry.effect entry.reply entry.after) :
    entry.after.db.audits = entry.before.db.audits ++ auditRows entry := by
  unfold auditRows
  cases carriedOut : executed entry.event with
  | cons statement rest =>
    rcases performs_execute (performs_event performs (event_of_executed carriedOut)) with
      ⟨_, ran⟩ | ⟨⟨_, failed⟩, _⟩
    · exact runAll_audits ran
    · cases failed
  | nil =>
    rw [List.filterMap_nil, List.append_nil]
    rcases performs_db performs with same | ⟨statements, event, ran⟩ | ⟨data, _, ran⟩ | ⟨log, same⟩
    · rw [same]
    · rw [show executed entry.event = statements by rw [Entry.event, event]; rfl] at carriedOut
      subst carriedOut
      rw [show entry.after.db = entry.before.db from (Except.ok.inj ran).symm]
    · rw [Database.audits, (register_tables ran).2.2.2.2.2, Database.audits]
    · rw [same]
      rfl

variable (chronicle : Chronicle (service runtime) regime
  (fun _ => conduct (budgeted runtime)) (State.empty clock) world)

include chronicle

theorem countP_audits (counts : UserId × Timestamp → Bool) :
    world.state.db.audits.countP counts = (world.history.flatMap auditRows).countP counts := by
  refine chronicle.invariant (fun world =>
    world.state.db.audits.countP counts = (world.history.flatMap auditRows).countP counts) rfl ?_
  intro world entry _ agree admissible
  have grown := performs_audits admissible.performs
  rw [admissible.current] at grown
  rw [World.record_state, World.record_history, grown, List.flatMap_cons, List.countP_append,
    List.countP_append, agree, Nat.add_comm]

/-- The clock does not go back. -/
theorem clock_recorded {other : ServiceEntry} (member : other ∈ world.history) :
    other.after.clock ≤ world.state.clock :=
  chronicle.lasts (fun state => other.after.clock ≤ state.clock)
    (fun _ _ _ _ performs earlier => Int.le_trans earlier (performs_clock performs)) member
    (.inr (Int.le_refl _))

/-- A call of the service calls the engine at most once. -/
theorem calls_distinct :
    ((world.history.filter fun entry => entry.effect.callsFor.isSome).map (·.thread)).Nodup := by
  refine chronicle.invariant (fun world => ((world.history.filter fun entry =>
    entry.effect.callsFor.isSome).map (·.thread)).Nodup) List.nodup_nil ?_
  intro world entry _ distinct admissible
  rw [World.record_history, List.filter_cons]
  split
  · rename_i calls
    rw [List.map_cons]
    refine List.nodup_cons.mpr ⟨fun member => ?_, distinct⟩
    obtain ⟨older, listed, same⟩ := List.mem_map.mp member
    obtain ⟨recorded, called⟩ := List.mem_filter.mp listed
    have ruled : budgeted runtime (world.past entry.thread) entry.effect := admissible.ruled
    obtain ⟨thread, request, before, effect, reply, after⟩ := entry
    cases effect with
    | callEngine payload =>
      have engineless := ruled.1 older.event (World.mem_past.mpr ⟨older, recorded, same, rfl⟩)
      rw [show older.effect.callsFor = none from engineless] at called
      cases called
    | _ => cases calls
  · exact distinct

/-- A submission that has stored an audit row has called the engine for the same user before. -/
theorem call_of_audit {store : ServiceEntry} (member : store ∈ world.history)
    {audit : UserId × Timestamp} (stored : audit ∈ auditRows store) :
    ∃ call ∈ world.history, call.thread = store.thread ∧ call.effect.callsFor = some audit.1 ∧
      call.after.clock ≤ audit.2 := by
  obtain ⟨earlier, chronicleEarlier, admissible, kept⟩ := chronicle.recalls member
  have ruled : budgeted runtime (earlier.past store.thread) store.effect := admissible.ruled
  obtain ⟨statement, listed, audits⟩ := List.mem_filterMap.mp stored
  unfold Statement.audits at audits
  split at audits
  · rename_i data
    cases audits
    rw [show store.effect = _ from congrArg Event.effect (mem_executed listed)] at ruled
    obtain ⟨event, past, calls⟩ := ruled data listed
    obtain ⟨call, recorded, thread, rfl⟩ := World.mem_past.mp past
    refine ⟨call, kept recorded, thread, calls, ?_⟩
    have passed := clock_recorded chronicleEarlier recorded
    rw [← admissible.current] at passed
    exact Int.le_trans passed (performs_clock admissible.performs)
  · cases audits

end Chronicles

/-! ### The bound -/

section Counted

variable {runtime} {clock : Timestamp} {world : ServiceWorld} {entry : ServiceEntry}
  (chronicle : Chronicle (service runtime) (counted runtime) (fun _ => conduct (budgeted runtime))
    (State.empty clock) world)
  (admissible : Admissible (service runtime) (counted runtime)
    (fun _ => conduct (budgeted runtime)) world entry)

include chronicle admissible

/-- The gate has asked for a window that reaches back as far as the call of the engine looks. -/
theorem gate_of_call (enabled : 0 < runtime.attemptWindowHours) {userId : UserId}
    (calls : entry.effect.callsFor = some userId) :
    ∃ newer gate older since, world.history = newer ++ gate :: older ∧
      gate.thread = entry.thread ∧ gate.effect.countsAttempts = true ∧
      since ≤ entry.after.clock - attemptWindowMs runtime ∧
      (gate.before.db.attemptsSince userId since).length < MAX_ATTEMPTS := by
  have ruled : budgeted runtime (world.past entry.thread) entry.effect := admissible.ruled
  have passed := performs_clock admissible.performs
  rw [admissible.current] at passed
  obtain ⟨thread, request, before, effect, reply, after⟩ := entry
  dsimp only at passed ruled calls ⊢
  cases effect with
  | callEngine payload =>
    cases calls
    obtain ⟨start, attempts, read, found, few⟩ := ruled.2 (decide_eq_true enabled)
    obtain ⟨reading, memberReading, _, readNow⟩ := World.mem_past.mp read
    obtain ⟨gate, memberGate, thread, asked⟩ := World.mem_past.mp found
    obtain ⟨_, _, admissibleReading, _⟩ := chronicle.recalls memberReading
    obtain ⟨_, _, admissibleGate, _⟩ := chronicle.recalls memberGate
    obtain ⟨newer, older, split⟩ := List.append_of_mem memberGate
    have performsReading : environment.Performs reading.before reading.effect reading.reply
        reading.after := admissibleReading.performs
    have performsGate : environment.Performs gate.before gate.effect gate.reply gate.after :=
      admissibleGate.performs
    refine ⟨newer, gate, older, start - attemptWindowMs runtime, split, thread, ?_,
      Int.sub_le_sub_right ?_ _, ?_⟩
    · rw [show gate.effect = _ from congrArg Event.effect asked]
      rfl
    · have startEq : start = reading.after.clock :=
        Except.ok.inj (performs_now (performs_event performsReading readNow))
      rw [startEq]
      exact Int.le_trans (clock_recorded chronicle memberReading) passed
    · rw [← performs_idVerificationFindMany (performs_event performsGate asked)]
      exact few
  | _ => cases calls

/-- When the engine is called, fewer than `MAX_ATTEMPTS` earlier calls for the user are in the
window. -/
theorem few_calls (enabled : 0 < runtime.attemptWindowHours) {userId : UserId}
    (calls : entry.effect.callsFor = some userId) :
    world.history.countP (calledWithin userId (entry.after.clock - attemptWindowMs runtime)
      entry.after.clock) < MAX_ATTEMPTS := by
  obtain ⟨newer, gate, older, since, split, thread, counts, reaches, few⟩ :=
    gate_of_call chronicle admissible enabled calls
  obtain ⟨chronicleGate, _⟩ := chronicle.admissible split
  -- Every call in the window has its own audit row among those that the gate has found.
  let counted (audit : UserId × Timestamp) : Bool := audit.1 == userId && decide (since ≤ audit.2)
  have rowed : ∀ call ∈ world.history.filter (calledWithin userId
      (entry.after.clock - attemptWindowMs runtime) entry.after.clock),
      ∃ store ∈ older.filter fun store => (auditRows store).any counted,
        store.thread = call.thread := by
    intro call listed
    obtain ⟨recorded, within⟩ := List.mem_filter.mp listed
    have permitted : Counted runtime world entry := admissible.permitted
    have suffix : gate :: older ∈ world.history.tails := by
      rw [split, List.mem_tails]
      exact List.suffix_append _ _
    obtain ⟨store, stored, same, rows⟩ :=
      permitted userId calls call recorded within _ suffix gate rfl thread counts
    obtain ⟨audit, listedAudit⟩ := List.exists_mem_of_ne_nil _ rows
    refine ⟨store, List.mem_filter.mpr ⟨stored, List.any_eq_true.mpr ⟨audit, listedAudit, ?_⟩⟩,
      same⟩
    obtain ⟨other, memberOther, sameOther, callsOther, before⟩ :=
      call_of_audit chronicleGate stored listedAudit
    obtain ⟨callsCall, start, _⟩ := calledWithin_iff.mp within
    have inside : other ∈ world.history := by
      rw [split]
      exact List.mem_append_right _ (List.mem_cons_of_mem _ memberOther)
    obtain rfl : other = call := eq_of_key (calls_distinct chronicle)
      (List.mem_filter.mpr ⟨inside, by rw [callsOther]; rfl⟩)
      (List.mem_filter.mpr ⟨recorded, by rw [callsCall]; rfl⟩) (sameOther.trans same)
    rw [callsOther] at callsCall
    simp only [counted, Bool.and_eq_true, beq_iff_eq, decide_eq_true_eq]
    exact ⟨Option.some.inj callsCall, Int.le_trans reaches (Int.le_trans start before)⟩
  have distinct : ((world.history.filter (calledWithin userId
      (entry.after.clock - attemptWindowMs runtime) entry.after.clock)).map (·.thread)).Nodup := by
    refine (calls_distinct chronicle).sublist (List.Sublist.map _
      (List.monotone_filter_right _ fun call within => ?_))
    rw [(calledWithin_iff.mp within).1]
    rfl
  calc world.history.countP (calledWithin userId
          (entry.after.clock - attemptWindowMs runtime) entry.after.clock)
      = (world.history.filter (calledWithin userId
          (entry.after.clock - attemptWindowMs runtime) entry.after.clock)).length :=
        List.countP_eq_length_filter
    _ ≤ (older.filter fun store => (auditRows store).any counted).length :=
        length_le_of_keys distinct rowed
    _ = older.countP fun store => (auditRows store).any counted :=
        List.countP_eq_length_filter.symm
    _ ≤ (older.flatMap auditRows).countP counted := countP_any_le auditRows counted older
    _ = gate.before.db.audits.countP counted := (countP_audits chronicleGate counted).symm
    _ = (gate.before.db.attemptsSince userId since).length :=
        (length_attemptsSince gate.before.db userId since).symm
    _ < MAX_ATTEMPTS := few

end Counted

/-- In every run in which the calls of the engine are counted by the later gates, whatever the
interleaving, the engine is called at most `MAX_ATTEMPTS` times in a window. -/
theorem budget_bounded_of_counted (runtime : Runtime) (clock : Timestamp) (pool : ServicePool)
    (reachable : Reachable (service runtime) (counted runtime) (State.empty clock) pool) :
    BudgetBounded runtime pool.world := by
  intro enabled userId start
  have chronicle := reachable_chronicle (fun _ => budgeted runtime) reachable
    fun request _ => serve_budgeted runtime request
  refine chronicle.invariant (fun world => world.history.countP
    (calledWithin userId start (start + attemptWindowMs runtime)) ≤ MAX_ATTEMPTS)
    (Nat.zero_le _) ?_
  intro world entry chronicle bounded admissible
  rw [World.record_history, List.countP_cons]
  split
  · rename_i within
    obtain ⟨calls, _, finish⟩ := calledWithin_iff.mp within
    have few := few_calls chronicle admissible enabled calls
    have passed := performs_clock admissible.performs
    rw [admissible.current] at passed
    refine Nat.lt_of_le_of_lt (List.countP_mono_left fun earlier recorded withinToo => ?_) few
    obtain ⟨callsToo, startToo, _⟩ := calledWithin_iff.mp withinToo
    exact calledWithin_iff.mpr ⟨callsToo, Int.le_trans (Int.sub_right_le_of_le_add finish) startToo,
      Int.le_trans (clock_recorded chronicle recorded) passed⟩
  · exact bounded

/-- Three submissions, one after the other, and a fourth that the gate refuses. -/
def repeatedSubmissions : List ServiceMove :=
  citizenSignedIn ++ [2, 3, 4].flatMap (fun thread =>
    .accept submission :: steps thread (List.replicate 18 {})) ++
  .accept submission :: steps 5 (List.replicate 6 {})

/-- In that run the engine is called three times. -/
theorem budget_bounded_of_counted_repeated :
    (played (.strict (counted legibleRuntime)) repeatedSubmissions).world.history.countP
        (calledWithin 0 0 (attemptWindowMs legibleRuntime)) = 3 ∧
      BudgetBounded legibleRuntime
        (played (.strict (counted legibleRuntime)) repeatedSubmissions).world :=
  ⟨by decide +kernel, budget_bounded_of_counted legibleRuntime 0 _
    (played_reachable (Referee.strict_upholds (counted legibleRuntime)) repeatedSubmissions)⟩

end GraconAuth
