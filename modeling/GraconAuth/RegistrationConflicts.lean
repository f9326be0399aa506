/-
This file settles what the conflict of a registration means. A registration is decided
by one of its statements: a check that finds a row, or the transaction. The two checks
and three of the unique columns are about the email and the identity, but the platform
id is unique as well, it has six drawn digits to a year of birth and is drawn once, and
its clash is reported as the same conflict.
-/

import GraconAuth.Registration

namespace GraconAuth

open Interleaving Program
open UsersService (RegisterDto RegistrationIdentityRecord)

variable (runtime : Runtime)

/-! ### Links and clashes -/

/-- The email or the number of the identity is linked to an account. -/
def Linked (db : Database) (dto : RegisterDto) (identity : RegistrationIdentityRecord) : Prop :=
  (∃ user, db.findUser (.byEmail dto.email) = some user) ∨
    ∃ row, db.findCitizenIdentity identity.identityType (runtime.hash identity.identityNumber) =
      some row

/-- The platform id of the identity with these digits is stored. -/
def IdTaken (db : Database) (identity : RegistrationIdentityRecord) (digits : String) : Prop :=
  ∃ row ∈ db.platformIds,
    row.pidHash = runtime.hash (platformIdOf runtime identity.dateOfBirth digits)

section Tables

variable {runtime} {db next : Database} {clock now : Timestamp} {dto : RegisterDto}
  {identity : RegistrationIdentityRecord} {salt iv pidIv digits : String} {rawToken : RawToken}

theorem findUser_byEmail_iff {email : Email} :
    (∃ user, db.findUser (.byEmail email) = some user) ↔
      db.users.any (fun row => row.email == email) = true := by
  unfold Database.findUser
  rw [← Option.isSome_iff_exists, List.find?_isSome, List.any_eq_true]
  rfl

theorem clashes_some (first : Option String) (second : String) :
    clashes first (some second) = (first == some second) := by
  cases first <;> rfl

theorem clashes_none (first : Option String) : clashes first none = false := by
  cases first <;> rfl

/-- The identity columns of a registration clash with a row that is found by its number. -/
theorem findCitizenIdentity_draft_iff (dto : RegisterDto) :
    (∃ row, db.findCitizenIdentity identity.identityType (runtime.hash identity.identityNumber) =
        some row) ↔
      (db.citizenIdentities.any (fun row => clashes row.nidHash (dto.draft runtime identity salt iv
          pidIv digits rawToken now).nidHash) ||
        db.citizenIdentities.any (fun row => clashes row.finHash (dto.draft runtime identity salt iv
          pidIv digits rawToken now).finHash)) = true := by
  unfold Database.findCitizenIdentity
  rw [← Option.isSome_iff_exists, List.find?_isSome, Bool.or_eq_true, List.any_eq_true,
    List.any_eq_true]
  cases kind : identity.identityType with
  | NID =>
    simp only [RegisterDto.draft, kind, reduceCtorEq, if_false, clashes_some, clashes_none,
      Bool.false_eq_true, and_false, exists_false, or_false]
  | FIN =>
    simp only [RegisterDto.draft, kind, if_true, clashes_some, clashes_none, Bool.false_eq_true,
      and_false, exists_false, false_or]

/-- The transaction is refused exactly if something is linked or the platform id is taken. -/
theorem register_draft_error_iff :
    db.register clock (dto.draft runtime identity salt iv pidIv digits rawToken now) =
        .error .uniqueConstraint ↔
      Linked runtime db dto identity ∨ IdTaken runtime db identity digits := by
  have taken : db.platformIds.any (fun row => row.pidHash == (dto.draft runtime identity salt iv
      pidIv digits rawToken now).pidHash) = true ↔ IdTaken runtime db identity digits := by
    simp only [List.any_eq_true, beq_iff_eq]
    rfl
  have email : db.users.any (fun row => row.email == (dto.draft runtime identity salt iv pidIv
      digits rawToken now).email) = true ↔ ∃ user, db.findUser (.byEmail dto.email) = some user :=
    findUser_byEmail_iff.symm
  unfold Database.register Linked
  rw [← taken, ← email, findCitizenIdentity_draft_iff dto, ← Bool.or_eq_true,
    ← Bool.or_eq_true, ← Bool.or_assoc]
  split
  · rename_i clash
    exact iff_of_true rfl clash
  · rename_i free
    exact iff_of_false nofun free

end Tables

/-! ### One call -/

/-- A registration has been answered, and its identity was resolved. -/
structure RegistrationCall (world : ServiceWorld) (thread : Nat) (dto : RegisterDto)
    (identity : RegistrationIdentityRecord) (outcome : Except Failure RegistrationResult) :
    Prop where
  answered : ∃ answer ∈ world.history, answer.thread = thread ∧ answer.request = .register dto ∧
    answer.effect = .respond (outcome.map .registration)
  resolves : ∃ lookup ∈ world.history, lookup.thread = thread ∧
    resolved lookup.event = some identity

/-- The call has drawn the digits. -/
def Drew (world : ServiceWorld) (thread : Nat) (digits : String) : Prop :=
  ∃ draw ∈ world.history, draw.thread = thread ∧ drawnDigits draw.event = some digits

section Calls

variable {runtime} {pool : ServicePool} {clock : Timestamp}
  (reachable : Reachable (service runtime) Regime.free (State.empty clock) pool)
  {thread : Nat} {dto : RegisterDto} {identity : RegistrationIdentityRecord}
  {outcome : Except Failure RegistrationResult}

/-- A transaction ends a registration. -/
theorem commit_concludes {entry : ServiceEntry} {data : RegistrationCreate}
    (commits : entry.effect = .registerTransaction data) : Concludes entry.event := by
  obtain ⟨_, _, _, effect, reply, _⟩ := entry
  obtain rfl : effect = .registerTransaction data := commits
  cases reply with
  | ok userId => exact .inl (.inr rfl)
  | error failure =>
    cases failure with
    | database error =>
      cases error with
      | uniqueConstraint => exact .inl (.inl rfl)
      | _ => exact .inr rfl
    | _ => exact .inr rfl

theorem concludes_of_creates {event : ServiceEvent} {created : RegistrationCreate × UserId}
    (creates : createdAccount event = some created) : Concludes event :=
  .inl (.inr (by rw [creates]; rfl))

/-- Nothing that a registration does changes a table, unless it creates the account. -/
theorem registers_unchanged {state next : State} {past : List ServiceEvent} {event : ServiceEvent}
    (performs : environment.Performs state event.effect event.reply next)
    (ruled : registers runtime dto past event.effect) (inert : createdAccount event = none) :
    next.db = state.db := by
  obtain ⟨elapsed, changes⟩ := performs_change performs
  have change : Change (state.tick elapsed) event next := changes
  cases change with
  | executed statements db ran => exact ruled.elim
  | registered data db ran => cases inert
  | logged eventType userId ipAddress => exact ruled.elim
  | _ => rfl

include reachable

/-- The effects of a call are asked for by its rule, all but the lookup after the lookup. -/
theorem call_ruled {entry : ServiceEntry}
    (call : RegistrationCall pool.world thread dto identity outcome)
    (member : entry ∈ pool.world.history) (same : entry.thread = thread) :
    entry.request = .register dto ∧
      environment.Performs entry.before entry.event.effect entry.event.reply entry.after ∧
      ∃ past ⊆ pool.world.past thread, registers runtime dto past entry.event.effect ∧
        (resolved entry.event = none → (identityIn past).isSome) := by
  obtain ⟨answer, memberAnswer, answerThread, request, -⟩ := call.answered
  have registering := reachable_chronicle _ reachable fun request _ => serve_registers _ request
  have owner : entry.request = .register dto :=
    (registering.request_of_thread member memberAnswer (same.trans answerThread.symm)).trans request
  obtain ⟨newer, older, split⟩ := List.append_of_mem member
  obtain ⟨-, admissible⟩ := registering.admissible split
  have ruled : registersFor runtime entry.request (World.past ⟨entry.before, older⟩ entry.thread)
      entry.effect := admissible.ruled
  rw [owner, same] at ruled
  refine ⟨owner, admissible.performs, _, World.past_subset ?_ thread, ruled, fun plain => ?_⟩
  · rw [split]
    exact fun other inside => List.mem_append_right _ (List.mem_cons_of_mem _ inside)
  · obtain ⟨lookup, memberLookup, lookupThread, resolves⟩ := call.resolves
    have alike := lookupThread.trans same.symm
    have earlier := resolved_before reachable split memberLookup alike
      ((registering.request_of_thread memberLookup member alike).trans owner)
      (by rw [resolves]; rfl)
    rcases earlier with rfl | earlier
    · rw [plain] at resolves
      cases resolves
    · refine List.findSome?_isSome_iff.mpr ⟨lookup.event, World.mem_past.mpr ⟨lookup, earlier,
        lookupThread, rfl⟩, by rw [resolves]; rfl⟩

/-- The identity of a call is the one that was resolved. -/
theorem call_identity {past : List ServiceEvent} {found : RegistrationIdentityRecord}
    (call : RegistrationCall pool.world thread dto identity outcome)
    (inside : past ⊆ pool.world.past thread) (seen : identityIn past = some found) :
    found = identity := by
  obtain ⟨event, inPast, resolves⟩ := List.exists_of_findSome?_eq_some seen
  obtain ⟨lookup, memberLookup, lookupThread, rfl⟩ := World.mem_past.mp (inside inPast)
  obtain ⟨other, memberOther, otherThread, alsoResolves⟩ := call.resolves
  exact resolved_once reachable memberLookup memberOther (lookupThread.trans otherThread.symm)
    (call_ruled reachable call memberOther otherThread).1 resolves alsoResolves

/-- The transaction of a call writes what it has resolved and drawn. -/
theorem call_commits {entry : ServiceEntry} {data : RegistrationCreate}
    (call : RegistrationCall pool.world thread dto identity outcome)
    (member : entry ∈ pool.world.history) (same : entry.thread = thread)
    (commits : entry.effect = .registerTransaction data) :
    ∃ salt iv pidIv digits rawToken now, Drew pool.world thread digits ∧
      data = dto.draft runtime identity salt iv pidIv digits rawToken now := by
  obtain ⟨-, -, past, inside, ruled, -⟩ := call_ruled reachable call member same
  rw [show entry.event.effect = .registerTransaction data from commits] at ruled
  obtain ⟨-, found, salt, iv, pidIv, digits, rawToken, now, seen, drawn, rfl⟩ := ruled
  obtain rfl := call_identity reachable call inside seen
  obtain ⟨event, inPast, draws⟩ := List.exists_of_findSome?_eq_some drawn
  obtain ⟨draw, memberDraw, drawThread, rfl⟩ := World.mem_past.mp (inside inPast)
  exact ⟨salt, iv, pidIv, digits, rawToken, now, ⟨draw, memberDraw, drawThread, draws⟩, rfl⟩

/-- The digits of a call. -/
theorem drew_unique {digits other : String}
    (call : RegistrationCall pool.world thread dto identity outcome)
    (first : Drew pool.world thread digits) (second : Drew pool.world thread other) :
    digits = other := by
  obtain ⟨draw, member, same, draws⟩ := first
  obtain ⟨alsoDraw, alsoMember, alsoSame, alsoDraws⟩ := second
  exact drawn_once_each reachable member alsoMember (same.trans alsoSame.symm)
    (call_ruled reachable call alsoMember alsoSame).1 draws alsoDraws

/-- An entry that shows a conflict has met a link, or is the transaction and has met a platform id
that is taken. -/
theorem conflict_shown {entry : ServiceEntry}
    (call : RegistrationCall pool.world thread dto identity outcome)
    (member : entry ∈ pool.world.history) (same : entry.thread = thread)
    (shows : showsConflict entry.event = true) :
    Linked runtime entry.before.db dto identity ∨ ∃ data digits,
      entry.effect = .registerTransaction data ∧ Drew pool.world thread digits ∧
        IdTaken runtime entry.before.db identity digits := by
  obtain ⟨-, performs, past, inside, ruled, -⟩ := call_ruled reachable call member same
  unfold showsConflict at shows
  split at shows
  · rename_i filter record event
    have found := performs_userFindUnique (performs_event performs event)
    rw [event] at ruled
    obtain ⟨-, rfl, -⟩ := ruled
    obtain ⟨user, stored, -⟩ := Option.map_eq_some_iff.mp found.symm
    exact .inl (.inl ⟨user, stored⟩)
  · rename_i identityType identityHash id event
    have found := performs_citizenIdentityFindFirst (performs_event performs event)
    rw [event] at ruled
    obtain ⟨-, other, seen, rfl, rfl⟩ := ruled
    obtain rfl := call_identity reachable call inside seen
    obtain ⟨row, stored, -⟩ := Option.map_eq_some_iff.mp found.symm
    exact .inl (.inr ⟨row, stored⟩)
  · rename_i data event
    have commits : entry.effect = .registerTransaction data := congrArg Event.effect event
    obtain ⟨_, _, _, digits, _, _, drew, rfl⟩ := call_commits reachable call member same commits
    obtain ⟨_, refused⟩ :=
      performs_registerTransaction_conflict (performs_event performs event)
    rcases register_draft_error_iff.mp refused with linked | taken
    · exact .inl linked
    · exact .inr ⟨_, digits, commits, drew, taken⟩
  · cases shows

/-- An entry that creates an account has met neither. -/
theorem account_created {entry : ServiceEntry} {created : RegistrationCreate × UserId}
    (call : RegistrationCall pool.world thread dto identity outcome)
    (member : entry ∈ pool.world.history) (same : entry.thread = thread)
    (creates : createdAccount entry.event = some created) :
    ¬ Linked runtime entry.before.db dto identity ∧ ∃ digits, Drew pool.world thread digits ∧
      ¬ IdTaken runtime entry.before.db identity digits := by
  obtain ⟨-, performs, -⟩ := call_ruled reachable call member same
  obtain ⟨data, userId⟩ := created
  have event := createdAccount_event creates
  have commits : entry.effect = .registerTransaction data := congrArg Event.effect event
  obtain ⟨salt, iv, pidIv, digits, rawToken, now, drew, rfl⟩ :=
    call_commits reachable call member same commits
  obtain ⟨-, ran⟩ := performs_registerTransaction (performs_event performs event)
  have free : ¬ (Linked runtime entry.before.db dto identity ∨
      IdTaken runtime entry.before.db identity digits) := by
    intro clash
    have refused : entry.before.db.register entry.after.clock (dto.draft runtime identity salt iv
        pidIv digits rawToken now) = .error .uniqueConstraint := register_draft_error_iff.mpr clash
    rw [ran] at refused
    cases refused
  rw [not_or] at free
  exact ⟨free.1, digits, drew, free.2⟩

/-- How a call has ended: over a conflict, which it reports, over a fault, or with the account that
it has created. -/
theorem call_ending (call : RegistrationCall pool.world thread dto identity outcome) :
    ∃ ending ∈ pool.world.history, ending.thread = thread ∧
      ((showsConflict ending.event = true ∧
          ∃ message, outcome = .error (ConflictException message)) ∨
        (faulty ending.event = true ∧ ∃ failure, outcome = .error failure) ∨
        (∃ created, createdAccount ending.event = some created) ∧
          ∃ result, outcome = .ok result) := by
  obtain ⟨answer, memberAnswer, answerThread, request, responds⟩ := call.answered
  obtain ⟨-, -, past, inside, ruled, known⟩ := call_ruled reachable call memberAnswer answerThread
  rw [show answer.event.effect = _ from responds] at ruled
  obtain ⟨ended, ends, same⟩ := ruled
  have entryOf {event : ServiceEvent} (inPast : event ∈ past) :
      ∃ entry ∈ pool.world.history, entry.thread = thread ∧ entry.event = event :=
    World.mem_past.mp (inside inPast)
  cases ends with
  | unresolved lost nothing =>
    have plain : resolved answer.event = none := by
      obtain ⟨_, _, _, effect, _, _⟩ := answer
      obtain rfl : effect = _ := responds
      rfl
    rw [lost] at known
    cases known plain
  | faulted fault nothing =>
    obtain ⟨event, inPast, faults⟩ := List.any_eq_true.mp fault
    obtain ⟨entry, member, entryThread, rfl⟩ := entryOf inPast
    cases outcome with
    | ok result => cases same
    | error failure => exact ⟨entry, member, entryThread, .inr (.inl ⟨faults, failure, rfl⟩)⟩
  | refused conflict nothing =>
    obtain ⟨event, inPast, shows⟩ := List.any_eq_true.mp conflict
    obtain ⟨entry, member, entryThread, rfl⟩ := entryOf inPast
    cases outcome with
    | ok result => cases same
    | error failure =>
      cases same
      exact ⟨entry, member, entryThread, .inl ⟨shows, _, rfl⟩⟩
  | done accepted found born created drawn platformId =>
    obtain ⟨event, inPast, creates⟩ := List.exists_of_findSome?_eq_some created
    obtain ⟨entry, member, entryThread, rfl⟩ := entryOf inPast
    cases outcome with
    | error failure => cases same
    | ok result => exact ⟨entry, member, entryThread, .inr (.inr ⟨⟨_, creates⟩, result, rfl⟩)⟩

/-- A call that has failed has changed no table. -/
theorem call_unchanged {failure : Failure}
    (call : RegistrationCall pool.world thread dto identity (.error failure)) {entry : ServiceEntry}
    (member : entry ∈ pool.world.history) (same : entry.thread = thread) :
    entry.after.db = entry.before.db := by
  obtain ⟨owner, performs, past, -, ruled, -⟩ := call_ruled reachable call member same
  refine registers_unchanged performs ruled ?_
  by_contra creates
  obtain ⟨⟨data, userId⟩, creates⟩ := Option.ne_none_iff_exists'.mp creates
  obtain ⟨ending, memberEnding, endingThread, ended⟩ := call_ending reachable call
  have one (ends : Concludes ending.event) :
      ending.event = ⟨.registerTransaction data, .ok userId⟩ := by
    rw [concluded_once reachable memberEnding member (endingThread.trans same.symm) owner ends
      (concludes_of_creates creates)]
    exact createdAccount_event creates
  rcases ended with ⟨shows, -⟩ | ⟨faults, -⟩ | ⟨-, _, succeeded⟩
  · rw [one (.inl (.inl shows))] at shows
    cases shows
  · rw [one (.inr faults)] at faults
    cases faults
  · cases succeeded

end Calls

/-! ### What a conflict means -/

/-- What is promised of a call: where it is decided, it has a conflict if and only if something is
linked, it succeeds otherwise, and if it has failed it has changed no table. -/
structure ConflictMeansLinked (world : ServiceWorld) (thread : Nat) (dto : RegisterDto)
    (identity : RegistrationIdentityRecord) (outcome : Except Failure RegistrationResult) :
    Prop where
  decided : ∃ decision ∈ world.history, decision.thread = thread ∧ Decides decision.event ∧
    ((∃ message, outcome = .error (ConflictException message)) ↔
      Linked runtime decision.before.db dto identity) ∧
    (¬ Linked runtime decision.before.db dto identity → ∃ result, outcome = .ok result)
  unchanged : ∀ failure, outcome = .error failure → ∀ entry ∈ world.history,
    entry.thread = thread → entry.after.db = entry.before.db

/-- No effect of the call fails for a reason that does not lie in the request. -/
def Faultless (world : ServiceWorld) (thread : Nat) : Prop :=
  ∀ entry ∈ world.history, entry.thread = thread → faulty entry.event = false

/-- The transaction of the call does not meet the drawn platform id where nothing is linked. -/
def DrawsNewId (world : ServiceWorld) (thread : Nat) (dto : RegisterDto)
    (identity : RegistrationIdentityRecord) : Prop :=
  ∀ commit ∈ world.history, commit.thread = thread → ∀ data,
    commit.effect = .registerTransaction data →
      ¬ Linked runtime commit.before.db dto identity → ∀ digits, Drew world thread digits →
        ¬ IdTaken runtime commit.before.db identity digits

/-- The account has the platform id. -/
def HasPlatformId (db : Database) (userId : UserId) (platformId : String) : Prop :=
  ∃ row ∈ db.platformIds, row.userId = userId ∧ row.pidHash = runtime.hash platformId

/-! ### Platform ids -/

/-- No platform id is stored twice. -/
def Database.PlatformIdsApart (db : Database) : Prop := (db.platformIds.map (·.pidHash)).Nodup

/-- A registration adds a platform id that was not stored. -/
theorem register_platformIds {db next : Database} {clock : Timestamp} {data : RegistrationCreate}
    (ran : db.register clock data = .ok next) :
    (∀ row ∈ db.platformIds, row.pidHash ≠ data.pidHash) ∧
      ∃ row : PlatformIdRow, next.platformIds = db.platformIds ++ [row] ∧
        row.userId = db.nextId ∧ row.pidHash = data.pidHash := by
  unfold Database.register at ran
  split at ran
  · cases ran
  · rename_i free
    cases ran
    refine ⟨fun row member same => free ?_, _, rfl, rfl, rfl⟩
    rw [Bool.or_eq_true]
    exact .inr (List.any_eq_true.mpr ⟨row, member, beq_iff_eq.mpr same⟩)

/-- The new account has the platform id. -/
theorem registered_hasPlatformId {runtime : Runtime} {db next : Database} {clock : Timestamp}
    {data : RegistrationCreate} {platformId : String} (ran : db.register clock data = .ok next)
    (hash : data.pidHash = runtime.hash platformId) :
    HasPlatformId runtime next db.nextId platformId := by
  obtain ⟨-, row, rows, owner, same⟩ := register_platformIds ran
  refine ⟨row, ?_, owner, same.trans hash⟩
  rw [rows]
  exact List.mem_append_right _ (List.mem_singleton_self _)

theorem carried_platformIds {clock : Timestamp} {db next : Database} {statement : Statement}
    (carried : Carried clock db statement next) : next.platformIds = db.platformIds := by
  cases carried <;> rfl

section Apart

variable {runtime} {state next : State} {effect : Effect} {reply : Except Failure effect.Reply}
  (performs : environment.Performs state effect reply next)

include performs

theorem performs_platformIdsApart (apart : state.db.PlatformIdsApart) :
    next.db.PlatformIdsApart := by
  refine performs_preserves Database.PlatformIdsApart performs ?_ ?_ (fun _ holds => holds) apart
  · intro _ _ statement _ now later holds carried
    rw [Database.PlatformIdsApart, carried_platformIds carried]
    exact holds
  · intro data later holds ran
    obtain ⟨fresh, row, rows, -, same⟩ := register_platformIds ran
    rw [Database.PlatformIdsApart, rows, List.map_append, List.map_singleton, same]
    refine List.nodup_append.mpr ⟨holds, List.nodup_singleton _, fun hash member other single => ?_⟩
    obtain ⟨stored, memberStored, rfl⟩ := List.mem_map.mp member
    rw [List.mem_singleton.mp single]
    exact fresh stored memberStored

theorem performs_hasPlatformId {userId : UserId} {platformId : String}
    (has : HasPlatformId runtime state.db userId platformId) :
    HasPlatformId runtime next.db userId platformId := by
  refine performs_preserves (HasPlatformId runtime · userId platformId) performs ?_ ?_
    (fun _ holds => holds) has
  · intro _ _ statement _ now later holds carried
    rw [HasPlatformId, carried_platformIds carried]
    exact holds
  · rintro data later ⟨row, member, owner, same⟩ ran
    obtain ⟨-, added, rows, -⟩ := register_platformIds ran
    exact ⟨row, by rw [rows]; exact List.mem_append_left _ member, owner, same⟩

end Apart

/-- Two accounts with the same platform id are one. -/
theorem hasPlatformId_unique {db : Database} {first second : UserId} {platformId : String}
    (apart : db.PlatformIdsApart) (hasFirst : HasPlatformId runtime db first platformId)
    (hasSecond : HasPlatformId runtime db second platformId) : first = second := by
  obtain ⟨row, member, rfl, same⟩ := hasFirst
  obtain ⟨other, alsoMember, rfl, alsoSame⟩ := hasSecond
  rw [List.inj_on_of_nodup_map apart member alsoMember (same.trans alsoSame.symm)]

section Meaning

variable {runtime} {pool : ServicePool} {clock : Timestamp}
  (reachable : Reachable (service runtime) Regime.free (State.empty clock) pool)
  {thread : Nat} {dto : RegisterDto} {identity : RegistrationIdentityRecord}
  {outcome : Except Failure RegistrationResult}

include reachable

/-- A call that was decided was not disturbed. -/
theorem faultless_of_decided (call : RegistrationCall pool.world thread dto identity outcome)
    {decision : ServiceEntry} (member : decision ∈ pool.world.history)
    (same : decision.thread = thread) (decides : Decides decision.event) :
    Faultless pool.world thread := by
  intro entry memberEntry entryThread
  by_contra faults
  rw [Bool.not_eq_false] at faults
  obtain rfl := concluded_once reachable member memberEntry (same.trans entryThread.symm)
    (call_ruled reachable call memberEntry entryThread).1 (.inl decides) (.inr faults)
  rw [decides.calm] at faults
  cases faults

/-- A call whose conflict means a link has drawn a platform id that is not taken. -/
theorem drawsNewId_of_means (call : RegistrationCall pool.world thread dto identity outcome)
    (means : ConflictMeansLinked runtime pool.world thread dto identity outcome) :
    DrawsNewId runtime pool.world thread dto identity := by
  intro commit member same data commits unlinked digits drew taken
  have owner := (call_ruled reachable call member same).1
  obtain ⟨decision, memberDecision, decisionThread, decides, -, succeeds⟩ := means.decided
  obtain rfl := concluded_once reachable memberDecision member (decisionThread.trans same.symm)
    owner (.inl decides) (commit_concludes commits)
  obtain ⟨result, rfl⟩ := succeeds unlinked
  obtain ⟨ending, memberEnding, endingThread, ⟨-, _, failed⟩ | ⟨-, _, failed⟩ |
    ⟨⟨created, creates⟩, -⟩⟩ := call_ending reachable call
  · cases failed
  · cases failed
  · obtain rfl := concluded_once reachable memberEnding member (endingThread.trans same.symm) owner
      (concludes_of_creates creates) (commit_concludes commits)
    obtain ⟨-, other, alsoDrew, free⟩ := account_created reachable call member same creates
    rw [drew_unique reachable call drew alsoDrew] at taken
    exact free taken

/-- A call that is not disturbed and has drawn a platform id that is not taken has a conflict only
over a link. -/
theorem means_of_drawsNewId (call : RegistrationCall pool.world thread dto identity outcome)
    (calm : Faultless pool.world thread)
    (draws : DrawsNewId runtime pool.world thread dto identity) :
    ConflictMeansLinked runtime pool.world thread dto identity outcome := by
  refine ⟨?_, fun failure failed entry member same => ?_⟩
  · obtain ⟨ending, member, same, ⟨shows, message, rfl⟩ | ⟨faults, -⟩ |
      ⟨⟨created, creates⟩, result, rfl⟩⟩ := call_ending reachable call
    · have linked : Linked runtime ending.before.db dto identity := by
        rcases conflict_shown reachable call member same shows with
          linked | ⟨data, digits, commits, drew, taken⟩
        · exact linked
        · by_contra unlinked
          exact draws ending member same data commits unlinked digits drew taken
      exact ⟨ending, member, same, .inl shows, iff_of_true ⟨message, rfl⟩ linked,
        fun unlinked => absurd linked unlinked⟩
    · rw [calm ending member same] at faults
      cases faults
    · obtain ⟨unlinked, -⟩ := account_created reachable call member same creates
      refine ⟨ending, member, same, .inr (by rw [creates]; rfl), iff_of_false ?_ unlinked,
        fun _ => ⟨result, rfl⟩⟩
      rintro ⟨_, failed⟩
      cases failed
  · rw [failed] at call
    exact call_unchanged reachable call member same

theorem reachable_platformIdsApart : pool.world.state.db.PlatformIdsApart := by
  have registering := reachable_chronicle _ reachable fun request _ => serve_registers _ request
  refine registering.invariant (fun world => world.state.db.PlatformIdsApart) List.nodup_nil ?_
  intro world entry _ apart admissible
  refine performs_platformIdsApart admissible.performs ?_
  rw [admissible.current]
  exact apart

/-- The account of a call has the platform id that it was answered with. -/
theorem call_platformId {result : RegistrationResult}
    (call : RegistrationCall pool.world thread dto identity (.ok result)) :
    HasPlatformId runtime pool.world.state.db result.userId result.platformId := by
  obtain ⟨answer, memberAnswer, answerThread, request, responds⟩ := call.answered
  obtain ⟨-, -, past, inside, ruled, -⟩ := call_ruled reachable call memberAnswer answerThread
  rw [show answer.event.effect = _ from responds] at ruled
  obtain ⟨ended, ends, same⟩ := ruled
  cases ended with
  | error failure => cases same
  | ok ended =>
    cases same
    cases ends with
    | done accepted found born created drawn platformId =>
      obtain ⟨event, inPast, creates⟩ := List.exists_of_findSome?_eq_some created
      obtain ⟨entry, member, entryThread, rfl⟩ := World.mem_past.mp (inside inPast)
      obtain ⟨event, inPast, draws⟩ := List.exists_of_findSome?_eq_some drawn
      obtain ⟨draw, memberDraw, drawThread, rfl⟩ := World.mem_past.mp (inside inPast)
      have event := createdAccount_event creates
      obtain ⟨_, _, _, digits, _, _, drew, rfl⟩ :=
        call_commits reachable call member entryThread (congrArg Event.effect event)
      obtain rfl := drew_unique reachable call drew ⟨draw, memberDraw, drawThread, draws⟩
      obtain ⟨-, performs, -⟩ := call_ruled reachable call member entryThread
      obtain ⟨owner, ran⟩ := performs_registerTransaction (performs_event performs event)
      have has : HasPlatformId runtime entry.after.db result.userId result.platformId := by
        rw [owner, platformId]
        exact registered_hasPlatformId ran rfl
      have registering := reachable_chronicle _ reachable fun request _ => serve_registers _ request
      exact registering.lasts (fun state =>
        HasPlatformId runtime state.db result.userId result.platformId)
        (fun _ _ _ _ performs has => performs_hasPlatformId performs has) member (.inr has)

end Meaning

/-- **A registration has a conflict if and only if the email or the identity is linked where it is
decided, and succeeds otherwise, exactly if no effect of it fails and its transaction does not meet
the drawn platform id where nothing is linked. A call that has failed has changed no table. An
account that is created has the platform id that the call was answered with, and no two accounts
ever have the same.** -/
theorem conflict_means_linked_iff (runtime : Runtime) (clock : Timestamp) (pool : ServicePool)
    (reachable : Reachable (service runtime) Regime.free (State.empty clock) pool) :
    (∀ thread dto identity outcome,
      RegistrationCall pool.world thread dto identity outcome →
        (ConflictMeansLinked runtime pool.world thread dto identity outcome ↔
          Faultless pool.world thread ∧ DrawsNewId runtime pool.world thread dto identity)) ∧
    (∀ thread dto identity failure,
      RegistrationCall pool.world thread dto identity (.error failure) →
        ∀ entry ∈ pool.world.history, entry.thread = thread →
          entry.after.db = entry.before.db) ∧
    (∀ thread dto identity result,
      RegistrationCall pool.world thread dto identity (.ok result) →
        HasPlatformId runtime pool.world.state.db result.userId result.platformId) ∧
    ∀ first second platformId, HasPlatformId runtime pool.world.state.db first platformId →
      HasPlatformId runtime pool.world.state.db second platformId → first = second := by
  refine ⟨fun _ _ _ _ call => ⟨fun means => ?_, fun ⟨calm, draws⟩ => ?_⟩, ?_, ?_, ?_⟩
  · obtain ⟨decision, member, same, decides, -⟩ := means.decided
    exact ⟨faultless_of_decided reachable call member same decides,
      drawsNewId_of_means reachable call means⟩
  · exact means_of_drawsNewId reachable call calm draws
  · exact fun _ _ _ _ call entry member same => call_unchanged reachable call member same
  · exact fun _ _ _ _ call => call_platformId reachable call
  · exact fun _ _ _ => hasPlatformId_unique runtime (reachable_platformIdsApart reachable)

/-! ### Two citizens who draw the same digits -/

def firstDto : RegisterDto where
  documentNumber := some "1199080012345678"
  fin := none
  email := "ann@mail.rw"
  phoneNumber := none
  password := "Secure@2024!"

def secondDto : RegisterDto :=
  { firstDto with documentNumber := some "1199070087654321", email := "bob@mail.rw" }

/-- Two citizens who were born in the same year register one after the other, with different emails
and numbers, and the same six digits are drawn for both. -/
def sameDigits : List ServiceMove :=
  .accept (.register firstDto) ::
    steps 0 [{ citizen := ⟨"Ann", "Lee", "F", 631152000000, "RW"⟩ }, {}, {}, {}, {},
      { text := "482916" }, {}, { text := "r0" }, {}, {}, {}, {}] ++
  .accept (.register secondDto) ::
    steps 1 [{ citizen := ⟨"Bob", "Roy", "M", 631152000000, "RW"⟩ }, {}, {}, {}, {},
      { text := "482916" }, {}, { text := "r1" }, {}, {}, {}]

def firstCitizen : RegistrationIdentityRecord :=
  ⟨.NID, "1199080012345678", "Ann", "Lee", "F", 631152000000, "RW"⟩

def secondCitizen : RegistrationIdentityRecord :=
  ⟨.NID, "1199070087654321", "Bob", "Roy", "M", 631152000000, "RW"⟩

def firstResult : RegistrationResult where
  message := "Registration successful. Please check your email to verify your account."
  userId := 0
  email := "ann@mail.rw"
  surName := "Ann"
  postNames := "Lee"
  platformId := "19904829161"
  identityType := .NID
  fin := none

/-- The effect answers a registration with the outcome. -/
def answersWith (outcome : Except Failure RegistrationResult) : Effect → Bool
  | .respond (.ok (.registration result)) => outcome == .ok result
  | .respond (.error failure) => outcome == .error failure
  | _ => false

/-- A registration of the identity has been answered with the outcome. -/
def registrationCallIn (world : ServiceWorld) (thread : Nat) (dto : RegisterDto)
    (identity : RegistrationIdentityRecord) (outcome : Except Failure RegistrationResult) : Bool :=
  (world.history.any fun answer => answer.thread == thread && answer.request == .register dto &&
    answersWith outcome answer.effect) &&
  world.history.any fun lookup => lookup.thread == thread &&
    resolved lookup.event == some identity

theorem answersWith_respond {outcome : Except Failure RegistrationResult} {effect : Effect}
    (answers : answersWith outcome effect = true) :
    effect = .respond (outcome.map .registration) := by
  unfold answersWith at answers
  split at answers
  · rw [eq_of_beq answers]
    rfl
  · rw [eq_of_beq answers]
    rfl
  · cases answers

theorem registrationCall_of_in {world : ServiceWorld} {thread : Nat} {dto : RegisterDto}
    {identity : RegistrationIdentityRecord} {outcome : Except Failure RegistrationResult}
    (found : registrationCallIn world thread dto identity outcome = true) :
    RegistrationCall world thread dto identity outcome := by
  unfold registrationCallIn at found
  simp only [Bool.and_eq_true, List.any_eq_true, beq_iff_eq] at found
  obtain ⟨⟨answer, memberAnswer, ⟨same, request⟩, answers⟩, lookup, memberLookup, looks⟩ := found
  exact ⟨⟨answer, memberAnswer, same, request, answersWith_respond answers⟩,
    ⟨lookup, memberLookup, looks⟩⟩

/-- What the test says of every entry of a call. -/
theorem holds_of_all {world : ServiceWorld} {thread : Nat} {holds : ServiceEntry → Bool}
    (all : world.history.all (fun entry => entry.thread != thread || holds entry) = true)
    {entry : ServiceEntry} (member : entry ∈ world.history) (same : entry.thread = thread) :
    holds entry = true := by
  have tested := List.all_eq_true.mp all entry member
  rw [same, bne_self_eq_false, Bool.false_or] at tested
  exact tested

def registersAccount : Effect → Bool
  | .registerTransaction _ => true
  | _ => false

/-- The first of them has no conflict and gets the platform id. -/
theorem conflict_means_linked_sample :
    ConflictMeansLinked legibleRuntime (played .lax sameDigits).world 0 firstDto firstCitizen
        (.ok firstResult) ∧
      HasPlatformId legibleRuntime (played .lax sameDigits).world.state.db 0 "19904829161" := by
  have call : RegistrationCall (played .lax sameDigits).world 0 firstDto firstCitizen
      (.ok firstResult) := registrationCall_of_in (by decide +kernel)
  obtain ⟨means, -, has, -⟩ := conflict_means_linked_iff legibleRuntime 0 _
    (played_reachable Referee.lax_upholds sameDigits)
  refine ⟨(means _ _ _ _ call).mpr ⟨?_, ?_⟩, has _ _ _ _ call⟩
  · intro entry member same
    have calm : (played .lax sameDigits).world.history.all (fun entry => entry.thread != 0 ||
        !faulty entry.event) = true := by decide +kernel
    exact Bool.not_eq_true' _ |>.mp (holds_of_all calm member same)
  · intro commit member same data commits _ digits _
    rintro ⟨row, stored, -⟩
    have empty : (played .lax sameDigits).world.history.all (fun entry => entry.thread != 0 ||
        (!registersAccount entry.effect || entry.before.db.platformIds.isEmpty)) = true := by
      decide +kernel
    have fresh := holds_of_all empty member same
    rw [commits] at fresh
    rw [List.isEmpty_iff.mp fresh] at stored
    cases stored

/-- The second is refused over a conflict, and nothing is linked. -/
theorem not_conflict_means_linked : ¬ ∀ (runtime : Runtime) (clock : Timestamp)
    (pool : ServicePool), Reachable (service runtime) Regime.free (State.empty clock) pool →
      ∀ thread dto identity outcome, RegistrationCall pool.world thread dto identity outcome →
        ConflictMeansLinked runtime pool.world thread dto identity outcome := by
  intro means
  have call : RegistrationCall (played .lax sameDigits).world 1 secondDto secondCitizen
      (.error (ConflictException
        "An account with this email or identity number already exists")) :=
    registrationCall_of_in (by decide +kernel)
  obtain ⟨decision, member, same, -, -, succeeds⟩ := (means legibleRuntime 0 _
    (played_reachable Referee.lax_upholds sameDigits) _ _ _ _ call).decided
  have unlinked : (played .lax sameDigits).world.history.all (fun entry => entry.thread != 1 ||
      (entry.before.db.findUser (.byEmail secondDto.email)).isNone &&
        (entry.before.db.findCitizenIdentity secondCitizen.identityType
          (legibleRuntime.hash secondCitizen.identityNumber)).isNone) = true := by
    decide +kernel
  have free := holds_of_all unlinked member same
  rw [Bool.and_eq_true, Option.isNone_iff_eq_none, Option.isNone_iff_eq_none] at free
  obtain ⟨_, succeeded⟩ := succeeds (by
    rintro (⟨user, found⟩ | ⟨row, found⟩)
    · cases free.1.symm.trans found
    · cases free.2.symm.trans found)
  cases succeeded

end GraconAuth
