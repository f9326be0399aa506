/-
This file follows a registration from its identity lookup to its end: what it asks
the database, what its transaction writes, and how it can end. Later files read off
it which number, which birth date and which password an account is stored with, and
what a conflict is due to.
-/

import GraconAuth.Footprints
import GraconAuth.Tables

namespace GraconAuth

open Interleaving Program
open UsersService (RegisterDto RegistrationIdentityRecord TOKEN_EXPIRY_MS)

variable (runtime : Runtime)

/-! ### What a registration has seen -/

/-- The identity that a lookup has resolved to, if it has. -/
def resolved : ServiceEvent → Option RegistrationIdentityRecord
  | ⟨.lookupCitizen documentNumber, .ok citizenData⟩ => some {
      identityType := .NID
      identityNumber := documentNumber
      surName := citizenData.surName
      postNames := citizenData.postNames
      sex := citizenData.sex
      dateOfBirth := citizenData.dateOfBirth
      countryOfBirth := citizenData.countryOfBirth }
  | ⟨.lookupForeignIdentity _, .ok foreignIdentity⟩ =>
    (foreignIdentity.filter (·.isActive)).bind fun identity =>
      identity.dateOfBirth.map fun dateOfBirth => {
        identityType := .FIN
        identityNumber := identity.fin
        surName := identity.lastName
        postNames := identity.firstName
        sex := identity.gender
        dateOfBirth := dateOfBirth
        countryOfBirth := identity.countryOfOrigin }
  | _ => none

/-- The identity of the call so far. -/
def identityIn (past : List ServiceEvent) : Option RegistrationIdentityRecord :=
  past.findSome? resolved

/-- The digits that the call has drawn for its platform id. -/
def drawnDigits : ServiceEvent → Option String
  | ⟨.randomDigits _, .ok digits⟩ => some digits
  | _ => none

/-- The event has failed for no reason that lies in the request: the lookups, the mail and the
response are left out, and so is the unique constraint. -/
def faulty : ServiceEvent → Bool
  | ⟨.lookupCitizen _, _⟩ | ⟨.lookupForeignIdentity _, _⟩ | ⟨.sendMail _, _⟩
  | ⟨.respond _, _⟩ => false
  | ⟨.registerTransaction _, .error (.database .uniqueConstraint)⟩ => false
  | ⟨_, .error _⟩ => true
  | ⟨_, .ok _⟩ => false

/-- The event has shown the registration a conflict. -/
def showsConflict : ServiceEvent → Bool
  | ⟨.userFindUnique _, .ok (some _)⟩ | ⟨.citizenIdentityFindFirst _ _, .ok (some _)⟩
  | ⟨.registerTransaction _, .error (.database .uniqueConstraint)⟩ => true
  | _ => false

/-- The account that the event has created. -/
def createdAccount : ServiceEvent → Option (RegistrationCreate × UserId)
  | ⟨.registerTransaction data, .ok userId⟩ => some (data, userId)
  | _ => none

/-- The call has met no conflict and no fault and has created no account yet. -/
structure Undecided (past : List ServiceEvent) : Prop where
  free : past.any showsConflict = false
  calm : past.any faulty = false
  nothing : past.findSome? createdAccount = none

/-- The platform id of a birth date and six digits. -/
def platformIdOf (dateOfBirth : Timestamp) (digits : String) : String :=
  toString (runtime.getFullYear dateOfBirth) ++ digits ++ "1"

/-- What the call writes with the values it has drawn. -/
def UsersService.RegisterDto.draft (dto : RegisterDto) (identity : RegistrationIdentityRecord)
    (salt iv pidIv digits : String) (rawToken : RawToken) (now : Timestamp) :
    RegistrationCreate where
  email := dto.email
  phoneNumber := dto.phoneNumber
  passwordHash := runtime.bcryptHash salt dto.password
  isIdVerified := identity.identityType = .FIN
  idVerifiedAt := if identity.identityType = .FIN then some now else none
  identityType := identity.identityType
  nidEncrypted :=
    if identity.identityType = .FIN then none
    else some (runtime.encrypt iv identity.identityNumber)
  nidHash :=
    if identity.identityType = .FIN then none else some (runtime.hash identity.identityNumber)
  finEncrypted :=
    if identity.identityType = .FIN then some (runtime.encrypt iv identity.identityNumber)
    else none
  finHash :=
    if identity.identityType = .FIN then some (runtime.hash identity.identityNumber) else none
  surName := identity.surName
  postNames := identity.postNames
  sex := identity.sex
  dateOfBirth := identity.dateOfBirth
  countryOfBirth := identity.countryOfBirth
  pidEncrypted := runtime.encrypt pidIv (platformIdOf runtime identity.dateOfBirth digits)
  pidHash := runtime.hash (platformIdOf runtime identity.dateOfBirth digits)
  tokenHash := runtime.hash rawToken
  tokenExpiry := now + TOKEN_EXPIRY_MS

/-! ### The end and the rule -/

/-- How a registration can end. It has met no conflict and no fault unless it says so, and it has
created an account only when it succeeds. -/
inductive RegistrationEnd (past : List ServiceEvent) : Except Failure RegistrationResult → Prop
  | unresolved {failure : Failure} (lost : identityIn past = none)
      (nothing : past.findSome? createdAccount = none) : RegistrationEnd past (.error failure)
  | faulted {failure : Failure} (fault : past.any faulty = true)
      (nothing : past.findSome? createdAccount = none) : RegistrationEnd past (.error failure)
  | refused {message : String} (conflict : past.any showsConflict = true)
      (nothing : past.findSome? createdAccount = none) :
      RegistrationEnd past (.error (ConflictException message))
  | done {result : RegistrationResult} {data : RegistrationCreate} {digits : String}
      {identity : RegistrationIdentityRecord}
      (accepted : past.any showsConflict = false)
      (found : identityIn past = some identity)
      (born : data.dateOfBirth = identity.dateOfBirth)
      (created : past.findSome? createdAccount = some (data, result.userId))
      (drawn : past.findSome? drawnDigits = some digits)
      (platformId : result.platformId = platformIdOf runtime data.dateOfBirth digits) :
      RegistrationEnd past (.ok result)

/-- What a registration asks for: first the lookup of its dto, then, while nothing is decided, the
two checks for what it has resolved to, its draws, and the transaction with the digits it has
drawn. Its response says how it has ended. -/
def registers (dto : RegisterDto) (past : List ServiceEvent) : Effect → Prop
  | .lookupCitizen documentNumber => documentNumber = dto.documentNumber.getD "" ∧ past = []
  | .lookupForeignIdentity fin => fin = dto.fin.getD "" ∧ past = []
  | .userFindUnique filter =>
    Undecided past ∧ filter = .byEmail dto.email ∧ (identityIn past).isSome
  | .citizenIdentityFindFirst identityType identityHash => Undecided past ∧ ∃ identity,
    identityIn past = some identity ∧ identityType = identity.identityType ∧
      identityHash = runtime.hash identity.identityNumber
  | .randomDigits _ => Undecided past ∧ past.findSome? drawnDigits = none
  | .bcryptSalt | .randomBytes | .randomToken | .now => Undecided past
  | .registerTransaction data => Undecided past ∧ ∃ identity salt iv pidIv digits rawToken now,
    identityIn past = some identity ∧ past.findSome? drawnDigits = some digits ∧
      data = dto.draft runtime identity salt iv pidIv digits rawToken now
  | .respond outcome => ∃ result, RegistrationEnd runtime past result ∧
    outcome = result.map .registration
  | .sendMail _ => True
  | _ => False

/-! ### Every registration keeps to the rule -/

section Traversal

variable {runtime} {dto : RegisterDto} {past : List ServiceEvent}

/-- The event decides nothing. -/
structure Inconclusive (event : ServiceEvent) : Prop where
  free : showsConflict event = false
  calm : faulty event = false
  nothing : createdAccount event = none

theorem Undecided.cons {event : ServiceEvent} (undecided : Undecided past)
    (mild : Inconclusive event) : Undecided (event :: past) where
  free := by rw [List.any_cons, mild.free, undecided.free, Bool.or_false]
  calm := by rw [List.any_cons, mild.calm, undecided.calm, Bool.or_false]
  nothing := by
    rw [List.findSome?_cons, mild.nothing]
    exact undecided.nothing

/-- The call has resolved its identity and is not decided. -/
structure Clear (identity : RegistrationIdentityRecord) (past : List ServiceEvent) : Prop extends
    Undecided past where
  found : identityIn past = some identity

theorem Clear.cons {identity : RegistrationIdentityRecord} (clear : Clear identity past)
    {event : ServiceEvent} (other : resolved event = none) (mild : Inconclusive event) :
    Clear identity (event :: past) where
  toUndecided := clear.toUndecided.cons mild
  found := by
    rw [identityIn, List.findSome?_cons, other]
    exact clear.found

/-- The identity of the request is resolved, or the registration ends. -/
theorem resolveRegistrationIdentity_follows :
    (UsersService.resolveRegistrationIdentity dto).Follows (conduct (registers runtime dto))
      (fun now outcome =>
        (∃ failure, outcome = .error failure ∧ identityIn now = none ∧
          now.findSome? createdAccount = none) ∨
        ∃ identity, outcome = .ok identity ∧ Clear identity now ∧
          now.findSome? drawnDigits = none) [] := by
  unfold UsersService.resolveRegistrationIdentity
  split
  · refine follows_perform_bind.mpr ⟨⟨rfl, rfl⟩, fun foreign _ => ?_, fun failure _ =>
      .inl ⟨failure, rfl, rfl, rfl⟩⟩
    cases active : foreign.filter (·.isActive) with
    | none =>
      refine .inl ⟨_, rfl, ?_, rfl⟩
      simp only [identityIn, List.findSome?_cons, resolved, active, Option.bind_none,
        List.findSome?_nil]
    | some identity =>
      cases born : identity.dateOfBirth with
      | none =>
        simp only [born]
        refine .inl ⟨_, rfl, ?_, rfl⟩
        simp only [identityIn, List.findSome?_cons, resolved, active, Option.bind_some, born,
          Option.map_none, List.findSome?_nil]
      | some dateOfBirth =>
        simp only [born]
        refine .inr ⟨_, rfl, ⟨⟨rfl, rfl, rfl⟩, ?_⟩, rfl⟩
        simp only [identityIn, List.findSome?_cons, resolved, active, Option.bind_some, born,
          Option.map_some]
  · exact follows_perform_bind.mpr ⟨⟨rfl, rfl⟩, fun citizenData _ =>
      .inr ⟨_, rfl, ⟨⟨rfl, rfl, rfl⟩, rfl⟩, rfl⟩,
      fun failure _ => .inl ⟨failure, rfl, rfl, rfl⟩⟩

/-- A draw that fails ends the call without an account. -/
theorem follows_draw {effect : Effect} {identity : RegistrationIdentityRecord}
    {next : effect.Reply → Async RegistrationResult} (clear : Clear identity past)
    (allowed : registers runtime dto past effect)
    (fails : ∀ failure, faulty ⟨effect, .error failure⟩ = true ∧
      createdAccount ⟨effect, .error failure⟩ = none)
    (draws : ∀ value, resolved ⟨effect, .ok value⟩ = none ∧ Inconclusive ⟨effect, .ok value⟩)
    (rest : ∀ value, Clear identity (⟨effect, .ok value⟩ :: past) →
      (next value).Follows (conduct (registers runtime dto)) (RegistrationEnd runtime)
        (⟨effect, .ok value⟩ :: past)) :
    (perform effect >>= next).Follows (conduct (registers runtime dto)) (RegistrationEnd runtime)
      past := by
  refine follows_perform_bind.mpr ⟨allowed, fun value _ => ?_, fun failure _ => ?_⟩
  · obtain ⟨other, mild⟩ := draws value
    exact rest value (clear.cons other mild)
  · refine .faulted ?_ ?_
    · rw [List.any_cons, (fails failure).1, Bool.true_or]
    · rw [List.findSome?_cons, (fails failure).2]
      exact clear.nothing

/-- A registration keeps to the rule, and ends in one of the ways. -/
theorem register_follows :
    (UsersService.register runtime dto).Follows (conduct (registers runtime dto))
      (RegistrationEnd runtime) [] := by
  unfold UsersService.register UsersService.assertExclusiveIdentityInput
  rw [bind_assoc]
  refine follows_throwIf_bind.mpr ⟨fun _ => .unresolved rfl rfl, fun _ =>
    follows_throwIf_bind.mpr ⟨fun _ => .unresolved rfl rfl, fun _ => ?_⟩⟩
  refine resolveRegistrationIdentity_follows.bind ?_ ?_
  · rintro now identity (⟨_, failed, _⟩ | ⟨_, done, clear, undrawn⟩)
    · cases failed
    cases done
    refine follows_perform_bind.mpr ⟨⟨clear.toUndecided, rfl, by rw [clear.found]; rfl⟩,
      fun existingEmail _ =>
      follows_throwIf_bind.mpr ⟨fun taken => ?_, fun free => ?_⟩, fun failure _ => ?_⟩
    · obtain ⟨record, rfl⟩ := Option.isSome_iff_exists.mp taken
      exact .refused rfl (by rw [List.findSome?_cons]; exact clear.nothing)
    · obtain rfl := Option.isNone_iff_eq_none.mp (by simpa using free)
      have clear : Clear identity (⟨.userFindUnique (.byEmail dto.email), .ok none⟩ :: now) :=
        clear.cons rfl ⟨rfl, rfl, rfl⟩
      refine follows_perform_bind.mpr ⟨⟨clear.toUndecided, identity, clear.found, rfl, rfl⟩,
        fun existingIdentity _ =>
        follows_throwIf_bind.mpr ⟨fun taken => ?_, fun free => ?_⟩, fun failure _ =>
        .faulted rfl (by rw [List.findSome?_cons]; exact clear.nothing)⟩
      · obtain ⟨id, rfl⟩ := Option.isSome_iff_exists.mp taken
        exact .refused rfl (by rw [List.findSome?_cons]; exact clear.nothing)
      obtain rfl := Option.isNone_iff_eq_none.mp (by simpa using free)
      have clear : Clear identity (⟨.citizenIdentityFindFirst identity.identityType
          (runtime.hash identity.identityNumber), .ok none⟩ ::
          ⟨.userFindUnique (.byEmail dto.email), .ok none⟩ :: now) := clear.cons rfl ⟨rfl, rfl, rfl⟩
      rw [bcryptHash, bind_assoc]
      refine follows_draw clear clear.toUndecided (fun _ => ⟨rfl, rfl⟩)
        (fun _ => ⟨rfl, rfl, rfl, rfl⟩) fun salt clear => ?_
      rw [pure_eq, done_bind, EncryptionService.encrypt, bind_assoc]
      refine follows_draw clear clear.toUndecided (fun _ => ⟨rfl, rfl⟩)
        (fun _ => ⟨rfl, rfl, rfl, rfl⟩) fun iv clear => ?_
      rw [pure_eq, done_bind, PidService.generate, bind_assoc]
      refine follows_draw clear ⟨clear.toUndecided, undrawn⟩ (fun _ => ⟨rfl, rfl⟩)
        (fun _ => ⟨rfl, rfl, rfl, rfl⟩) fun digits clear => ?_
      rw [pure_eq, done_bind, EncryptionService.encrypt, bind_assoc]
      refine follows_draw clear clear.toUndecided (fun _ => ⟨rfl, rfl⟩)
        (fun _ => ⟨rfl, rfl, rfl, rfl⟩) fun pidIv clear => ?_
      rw [pure_eq, done_bind]
      refine follows_draw clear clear.toUndecided (fun _ => ⟨rfl, rfl⟩)
        (fun _ => ⟨rfl, rfl, rfl, rfl⟩) fun rawToken clear => ?_
      refine follows_draw clear clear.toUndecided (fun _ => ⟨rfl, rfl⟩)
        (fun _ => ⟨rfl, rfl, rfl, rfl⟩) fun clock clear => ?_
      refine follows_bind.mpr (follows_rescue.mpr (follows_perform.mpr
        ⟨⟨clear.toUndecided, identity, salt, iv, pidIv, digits, rawToken, clock, clear.found, rfl,
          rfl⟩,
          fun reply _ => ?_⟩))
      cases reply with
      | ok userId =>
        dsimp only
        rw [ofOutcome_ok, done_bind]
        refine follows_bind.mpr (follows_rescue.mpr (follows_perform.mpr
          ⟨trivial, fun reply _ => ?_⟩))
        have free : ∀ event : ServiceEvent, showsConflict event = false →
            (event :: ⟨.registerTransaction _, .ok userId⟩ :: _).any showsConflict = false :=
          fun event mild => by rw [List.any_cons, mild, List.any_cons, clear.free]; rfl
        -- Whether the mail has been sent makes no difference.
        cases reply with
        | ok value => exact .done (free _ rfl) clear.found rfl rfl rfl rfl
        | error failure => exact .done (free _ rfl) clear.found rfl rfl rfl rfl
      | error failure =>
        cases failure with
        | database error =>
          cases error with
          | uniqueConstraint =>
            exact .refused rfl (by rw [List.findSome?_cons]; exact clear.nothing)
          | _ => exact .faulted rfl (by rw [List.findSome?_cons]; exact clear.nothing)
        | _ => exact .faulted rfl (by rw [List.findSome?_cons]; exact clear.nothing)
    · exact .faulted rfl (by rw [List.findSome?_cons]; exact clear.nothing)
  · rintro now failure (⟨_, failed, lost, nothing⟩ | ⟨_, done, _⟩)
    · exact .unresolved lost nothing
    · cases done

end Traversal

/-- The rule for each request: only registrations are looked at. -/
def registersFor : Request → List ServiceEvent → Effect → Prop
  | .register dto => registers runtime dto
  | _ => fun _ _ => True

/-- Every call keeps to the rule. -/
theorem serve_registers (request : Request) :
    (serve runtime request).Abides (conduct (registersFor runtime request)) [] := by
  cases request with
  | register dto =>
    refine follows_bind.mpr (follows_attempt.mpr (follows_bind.mpr
      (register_follows.weaken fun now outcome ends => ?_)))
    cases outcome with
    | ok result =>
      exact follows_perform_bind.mpr
        ⟨⟨.ok result, ends, rfl⟩, fun _ _ => trivial, fun _ _ => trivial⟩
    | error failure =>
      exact follows_perform_bind.mpr
        ⟨⟨.error failure, ends, rfl⟩, fun _ _ => trivial, fun _ _ => trivial⟩
  | _ => exact (uses_any _).abides fun _ _ _ => trivial

/-- A citizen is looked up by the number of the request. -/
theorem identityIn_number {regime : Regime State Effect.Reply Failure Request} {initial : State}
    {world : ServiceWorld} {entry : ServiceEntry} {dto : RegisterDto}
    {identity : RegistrationIdentityRecord}
    (chronicle : Chronicle (service runtime) regime
      (fun request => conduct (registersFor runtime request)) initial world)
    (admissible : Admissible (service runtime) regime
      (fun request => conduct (registersFor runtime request)) world entry)
    (request : entry.request = .register dto)
    (found : identityIn (world.past entry.thread) = some identity)
    (national : identity.identityType = .NID) :
    identity.identityNumber = dto.documentNumber.getD "" := by
  obtain ⟨event, past, seen⟩ := List.exists_of_findSome?_eq_some found
  obtain ⟨lookup, member, thread, same⟩ := World.mem_past.mp past
  obtain ⟨_, _, before, _⟩ := chronicle.recalls member
  have asked : registersFor runtime lookup.request _ lookup.effect := before.ruled
  rw [admissible.owned lookup member thread, request,
    show lookup.effect = event.effect from congrArg Event.effect same] at asked
  unfold resolved at seen
  split at seen
  · cases seen
    exact asked.1
  · obtain ⟨profile, _, built⟩ := Option.bind_eq_some_iff.mp seen
    obtain ⟨_, _, rfl⟩ := Option.map_eq_some_iff.mp built
    cases national
  · cases seen

/-! ### What a registration does once -/

section Once

variable {runtime} {dto : RegisterDto} {past : List ServiceEvent} {event : ServiceEvent}

/-- The event has decided the registration. -/
def Decides (event : ServiceEvent) : Prop :=
  showsConflict event = true ∨ (createdAccount event).isSome

/-- A lookup comes first. -/
theorem resolved_first (ruled : registers runtime dto past event.effect)
    (resolves : (resolved event).isSome) : past = [] := by
  unfold resolved at resolves
  split at resolves
  · exact ruled.2
  · exact ruled.2
  · cases resolves

theorem createdAccount_event {data : RegistrationCreate} {userId : UserId}
    (creates : createdAccount event = some (data, userId)) :
    event = ⟨.registerTransaction data, .ok userId⟩ := by
  unfold createdAccount at creates
  split at creates
  · cases creates
    rfl
  · cases creates

/-- The event has decided the registration, or a fault has ended it. -/
def Concludes (event : ServiceEvent) : Prop := Decides event ∨ faulty event = true

/-- What decides has not failed. -/
theorem Decides.calm (decides : Decides event) : faulty event = false := by
  obtain conflict | creates := decides
  · unfold showsConflict at conflict
    split at conflict
    · rfl
    · rfl
    · rfl
    · cases conflict
  · obtain ⟨created, creates⟩ := Option.isSome_iff_exists.mp creates
    rw [createdAccount_event creates]
    rfl

/-- What can end a registration is asked for while nothing is decided. -/
theorem concludes_undecided (ruled : registers runtime dto past event.effect)
    (ends : Concludes event) : Undecided past := by
  obtain ⟨effect, reply⟩ := event
  cases effect with
  | userFindUnique filter => exact ruled.1
  | citizenIdentityFindFirst identityType identityHash => exact ruled.1
  | randomDigits count => exact ruled.1
  | registerTransaction data => exact ruled.1
  | bcryptSalt => exact ruled
  | randomBytes => exact ruled
  | randomToken => exact ruled
  | now => exact ruled
  | lookupCitizen documentNumber => rcases ends with (conflict | creates) | fault <;> contradiction
  | lookupForeignIdentity fin => rcases ends with (conflict | creates) | fault <;> contradiction
  | sendMail mail => rcases ends with (conflict | creates) | fault <;> contradiction
  | respond outcome => rcases ends with (conflict | creates) | fault <;> contradiction
  | _ => exact ruled.elim

theorem Undecided.not_concludes (undecided : Undecided past) (member : event ∈ past) :
    ¬ Concludes event := by
  rintro ((conflict | creates) | fault)
  · have := List.any_eq_true.mpr ⟨event, member, conflict⟩
    rw [undecided.free] at this
    cases this
  · have := List.findSome?_eq_none_iff.mp undecided.nothing event member
    rw [this] at creates
    cases creates
  · have := List.any_eq_true.mpr ⟨event, member, fault⟩
    rw [undecided.calm] at this
    cases this

/-- The digits are drawn while none are drawn. -/
theorem drawnDigits_first (ruled : registers runtime dto past event.effect)
    (draws : (drawnDigits event).isSome) : past.findSome? drawnDigits = none := by
  unfold drawnDigits at draws
  split at draws
  · exact ruled.2
  · cases draws

variable {pool : ServicePool} {clock : Timestamp}
  (reachable : Reachable (service runtime) Regime.free (State.empty clock) pool)
  {first second : ServiceEntry}

include reachable

/-- What a registration does only as long as it has not done it, it does once. -/
theorem register_once (marks : ServiceEvent → Prop)
    (unmarked : ∀ past event, registers runtime dto past event.effect → marks event →
      ∀ older ∈ past, ¬ marks older)
    (memberFirst : first ∈ pool.world.history) (memberSecond : second ∈ pool.world.history)
    (same : first.thread = second.thread) (request : second.request = .register dto)
    (marksFirst : marks first.event) (marksSecond : marks second.event) : first = second := by
  have registering := reachable_chronicle _ reachable fun request _ => serve_registers _ request
  have owner : first.request = .register dto :=
    (registering.request_of_thread memberFirst memberSecond same).trans request
  refine registering.once_each (fun entry => entry.request = .register dto ∧ marks entry.event) ?_
    memberFirst memberSecond same ⟨owner, marksFirst⟩ ⟨request, marksSecond⟩
  rintro world entry admissible ⟨register, marked⟩ older member thread ⟨-, alsoMarked⟩
  have ruled : registersFor runtime entry.request (world.past entry.thread) entry.effect :=
    admissible.ruled
  rw [register] at ruled
  exact unmarked _ entry.event ruled marked older.event
    (World.mem_past.mpr ⟨older, member, thread, rfl⟩) alsoMarked

/-- The lookup of a registration comes before anything else that it does. -/
theorem resolved_before {newer older : List ServiceEntry}
    (split : pool.world.history = newer ++ second :: older) (member : first ∈ pool.world.history)
    (same : first.thread = second.thread) (request : first.request = .register dto)
    (resolves : (resolved first.event).isSome) : first = second ∨ first ∈ older := by
  have registering := reachable_chronicle _ reachable fun request _ => serve_registers _ request
  rw [split, List.mem_append, List.mem_cons] at member
  rcases member with later | equal | earlier
  · obtain ⟨front, back, rfl⟩ := List.append_of_mem later
    rw [List.append_assoc, List.cons_append] at split
    obtain ⟨-, admissible⟩ := registering.admissible split
    have ruled : registersFor runtime first.request _ first.event.effect := admissible.ruled
    rw [request] at ruled
    have early := resolved_first ruled resolves
    have late : second.event ∈ World.past ⟨first.before, back ++ second :: older⟩ first.thread :=
      World.mem_past.mpr ⟨second, List.mem_append_right _ List.mem_cons_self, same.symm, rfl⟩
    rw [early] at late
    cases late
  · exact .inl equal
  · exact .inr earlier

/-- A registration looks its identity up once, before anything else. -/
theorem resolved_once {identity other : RegistrationIdentityRecord}
    (memberFirst : first ∈ pool.world.history) (memberSecond : second ∈ pool.world.history)
    (same : first.thread = second.thread) (request : second.request = .register dto)
    (resolvesFirst : resolved first.event = some identity)
    (resolvesSecond : resolved second.event = some other) : identity = other := by
  have one : first = second := by
    refine register_once reachable (fun event => (resolved event).isSome) ?_ memberFirst
      memberSecond same request (by rw [resolvesFirst]; rfl) (by rw [resolvesSecond]; rfl)
    intro past event ruled resolves older member
    rw [resolved_first ruled resolves] at member
    cases member
  rw [one, resolvesSecond] at resolvesFirst
  exact (Option.some.inj resolvesFirst).symm

/-- It draws its digits once. -/
theorem drawn_once_each {digits other : String}
    (memberFirst : first ∈ pool.world.history) (memberSecond : second ∈ pool.world.history)
    (same : first.thread = second.thread) (request : second.request = .register dto)
    (drawsFirst : drawnDigits first.event = some digits)
    (drawsSecond : drawnDigits second.event = some other) : digits = other := by
  have one : first = second := by
    refine register_once reachable (fun event => (drawnDigits event).isSome) ?_ memberFirst
      memberSecond same request (by rw [drawsFirst]; rfl) (by rw [drawsSecond]; rfl)
    intro past event ruled draws older member alsoDraws
    rw [List.findSome?_eq_none_iff.mp (drawnDigits_first ruled draws) older member] at alsoDraws
    cases alsoDraws
  rw [one, drawsSecond] at drawsFirst
  exact (Option.some.inj drawsFirst).symm

/-- It ends once. -/
theorem concluded_once (memberFirst : first ∈ pool.world.history)
    (memberSecond : second ∈ pool.world.history) (same : first.thread = second.thread)
    (request : second.request = .register dto) (endsFirst : Concludes first.event)
    (endsSecond : Concludes second.event) : first = second := by
  refine register_once reachable Concludes ?_ memberFirst memberSecond same request endsFirst
    endsSecond
  intro past event ruled ends older member
  exact (concludes_undecided ruled ends).not_concludes member

end Once

end GraconAuth
