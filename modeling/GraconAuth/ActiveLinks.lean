/-
This file is about the one active reset link of an account. A request for a reset
revokes the links in use and then stores its own, in two statements, and a reset marks
the link that it has looked up and no other, so calls that overlap can leave two links.
There is one in the runs in which no link stored in between can still be used.
-/

import GraconAuth.AtomicWrites
import GraconAuth.OneTimeLinks
import GraconAuth.ResetMailbox

namespace GraconAuth

open Interleaving Program Rows

/-! ### One active link -/

/-- The reset links of a user that can be used now. -/
def State.activeLinks (state : State) (userId : UserId) : List PasswordResetTokenRow :=
  state.db.usableResets userId state.clock

/-- The user whose password a reset has just replaced. -/
def resetOwner (entry : ServiceEntry) : Option UserId :=
  (resets entry).map (·.1)

/-- No request for a reset has arrived that is not answered yet. -/
def NoResetRequested (pool : ServicePool) : Prop :=
  ∀ call ∈ pool.calls, ∀ email, call.request = .requestReset email →
    ∃ outcome, call.rest = ofOutcome outcome

/-- A user has at most one active link, and none when a reset has just been committed with no
request in progress. -/
structure OneActiveLink (userId : UserId) (pool : ServicePool) : Prop where
  one : (pool.world.state.activeLinks userId).length ≤ 1
  none : ∀ entry ∈ pool.world.history.head?, resetOwner entry = some userId →
    NoResetRequested pool → pool.world.state.activeLinks userId = []

/-- Two requests overlap: each revokes before the other stores. -/
def overlappingRequests : List ServiceMove :=
  signedIn ++
  .accept (.requestReset "a@x") :: .accept (.requestReset "a@x") ::
    steps 3 [{}, {}] ++ steps 4 [{}, {}] ++
    steps 3 [{ text := "r2" }, {}, {}] ++ steps 4 [{ text := "r3" }, {}, {}]

/-- A user can have two active links. -/
theorem two_active_links :
    ¬ ∀ (runtime : Runtime) (clock : Timestamp) (pool : ServicePool) (userId : UserId),
      Reachable (service runtime) Regime.free (State.empty clock) pool →
        OneActiveLink userId pool := by
  intro one
  have reached := (one legibleRuntime 0 _ 0
    (played_reachable Referee.lax_upholds overlappingRequests)).one
  exact absurd reached (by decide +kernel)

/-! ### The runs in which there is one -/

/-- The link that the entry has stored. -/
def storedReset (entry : ServiceEntry) : Option PasswordResetTokenRow :=
  match executed entry.event with
  | [.passwordResetTokenCreate data] => some (data.row entry.before.db.nextId)
  | _ => none

/-- The entry has revoked the links of the user. -/
def revokesResets (userId : UserId) (entry : ServiceEntry) : Bool :=
  match executed entry.event with
  | [.passwordResetTokenUpdateMany id] => id == userId
  | _ => false

/-- The effect looks a link up. -/
def Effect.looksReset : Effect → Bool
  | .passwordResetTokenFindFirst _ _ => true
  | _ => false

/-- The links stored by whomever since a thread last did this. -/
def linksSince (world : ServiceWorld) (thread : Nat) (marks : ServiceEntry → Bool) :
    List PasswordResetTokenRow :=
  (world.since fun entry => entry.thread == thread && marks entry).filterMap storedReset

/-- None of these links can be used when the entry takes place. -/
def Outlived (links : List PasswordResetTokenRow) (userId : UserId) (entry : ServiceEntry) : Prop :=
  ∀ link ∈ links, ∀ active ∈ entry.before.db.usableResets userId entry.after.clock,
    active.id ≠ link.id

instance (links : List PasswordResetTokenRow) (userId : UserId) (entry : ServiceEntry) :
    Decidable (Outlived links userId entry) :=
  inferInstanceAs (Decidable (∀ link ∈ links, _))

/-- A link is stored only when those stored since its call has revoked the others cannot be used
any more. -/
def StoresAlone (world : ServiceWorld) (entry : ServiceEntry) : Statement → Prop
  | .passwordResetTokenCreate data =>
    Outlived (linksSince world entry.thread (revokesResets data.userId)) data.userId entry
  | _ => True

instance (world : ServiceWorld) (entry : ServiceEntry) : DecidablePred (StoresAlone world entry)
  | .passwordResetTokenCreate _ => inferInstanceAs (Decidable (Outlived _ _ _))
  | .userUpdate _ _ | .refreshTokenUpdate _ | .refreshTokenUpdateMany _ | .refreshTokenCreate _
  | .refreshTokenDeleteMany _ | .emailVerificationTokenUpdate _
  | .emailVerificationTokenUpsert _ _ _ _ | .passwordResetTokenUpdateMany _
  | .passwordResetTokenUpdate _ | .idVerificationCreate _ => .isTrue trivial

/-- The runs in which requests for a reset do not overlap to any effect. -/
def storesAlone : Regime State Effect.Reply Failure Request where
  admits _ := True
  permits world entry := ∀ statement ∈ entry.effect.statements, StoresAlone world entry statement

instance (request : Request) : Decidable (storesAlone.admits request) := .isTrue trivial

instance (world : ServiceWorld) (entry : ServiceEntry) :
    Decidable (storesAlone.permits world entry) :=
  inferInstanceAs (Decidable (∀ statement ∈ _, _))

/-! ### What the calls do -/

section Calls

variable (runtime : Runtime)

/-- A link is stored by itself, after the others of the user have been revoked. A reset looks its
link up once, and is committed when the link has been read unused, and then the clock before the
link expires. -/
def linking (request : Request) (past : List ServiceEvent) : Effect → Prop
  | .execute statements =>
    (∀ data, .passwordResetTokenCreate data ∈ statements →
      statements = [.passwordResetTokenCreate data] ∧
        ⟨.execute [.passwordResetTokenUpdateMany data.userId], .ok ()⟩ ∈ past) ∧
    ∀ dto, request = .resetPassword dto → ∃ newer older row now passwordHash,
      past = newer ++ ⟨.now, .ok now⟩ :: ⟨.passwordResetTokenFindFirst dto.userId
        (runtime.hash dto.token), .ok (some row)⟩ :: older ∧
      row.used = false ∧ now ≤ row.expiresAt ∧
      statements = [
        .userUpdate dto.userId { passwordHash := some passwordHash },
        .passwordResetTokenUpdate row.id,
        .refreshTokenUpdateMany { userId := some dto.userId }]
  | .passwordResetTokenFindFirst _ _ => ∀ dto, request = .resetPassword dto →
    ∀ event ∈ past, event.effect.looksReset = false
  | _ => True

theorem harmless_linking {request : Request} (past : List ServiceEvent) (effect : Effect)
    (harmless : effect.Harmless) : linking runtime request past effect := by
  cases effect with
  | execute _ | passwordResetTokenFindFirst _ _ => exact harmless.elim
  | _ => trivial

/-- A valid lookup has read the token unused, and then the clock before the token expires. -/
theorem findValidToken_linking {request : Request} (userId : UserId) (token : RawToken)
    {past : List ServiceEvent} (first : ∀ event ∈ past, event.effect.looksReset = false) :
    (PasswordResetService.findValidToken runtime userId token).Follows
      (conduct (linking runtime request))
      (fun done outcome => ∀ id, outcome = .ok (.ok id) → ∃ row now,
        done = ⟨.now, .ok now⟩ :: ⟨.passwordResetTokenFindFirst userId (runtime.hash token),
          .ok (some row)⟩ :: past ∧ row.used = false ∧ now ≤ row.expiresAt ∧ row.id = id) past := by
  refine follows_perform_bind.mpr ⟨fun _ _ => first, fun record _ => ?_, fun _ _ => nofun⟩
  cases record with
  | none => exact nofun
  | some row =>
    dsimp only
    split
    · exact nofun
    · rename_i unused
      refine follows_perform_bind.mpr ⟨trivial, fun now _ => ?_, fun _ _ => nofun⟩
      split
      · exact nofun
      · rename_i unexpired
        rintro _ ⟨⟩
        exact ⟨row, now, rfl, by simpa using unused, Int.not_lt.mp unexpired, rfl⟩

theorem resetPassword_linking (dto : PasswordResetService.ResetPasswordDto)
    {past : List ServiceEvent} (first : ∀ event ∈ past, event.effect.looksReset = false) :
    (PasswordResetService.resetPassword runtime dto).Abides
      (conduct (linking runtime (.resetPassword dto))) past := by
  refine abides_throwIf_bind fun _ => (findValidToken_linking runtime _ _ first).bind
    (fun done tokenLookup found => ?_) fun _ _ _ => trivial
  cases tokenLookup with
  | error reason => trivial
  | ok tokenId =>
    obtain ⟨row, now, rfl, unused, unexpired, rfl⟩ := found tokenId rfl
    refine (bcryptHash_uses runtime _).abides_bind (harmless_linking runtime)
      fun _ passwordHash grown => abides_perform_bind ⟨by simp, ?_⟩ fun _ _ =>
        abides_perform_bind trivial fun _ _ => trivial
    obtain ⟨recent, rfl, _⟩ := grown
    rintro _ ⟨⟩
    exact ⟨recent, past, row, now, passwordHash, rfl, unused, unexpired, rfl⟩

theorem requestReset_linking (email : Email) {past : List ServiceEvent} :
    (PasswordResetService.requestReset runtime email).Abides
      (conduct (linking runtime (.requestReset email))) past := by
  refine abides_perform_bind trivial fun user _ => ?_
  split
  · exact (bcryptHash_uses runtime _).abides_bind (harmless_linking runtime) fun _ _ _ => trivial
  · refine abides_perform_bind ⟨by simp, nofun⟩ fun revoked _ =>
      abides_perform_bind trivial fun token _ => abides_perform_bind trivial fun now _ => ?_
    refine abides_rescue_perform_bind ⟨fun data listed => ?_, nofun⟩ (fun stored => ?_)
      fun _ => trivial
    · obtain rfl : data = _ := by simpa using listed
      exact ⟨rfl, List.mem_cons_of_mem _ (List.mem_cons_of_mem _ List.mem_cons_self)⟩
    · exact (sendPasswordResetEmail_uses _ _ _ _ _).abides_bind (harmless_linking runtime)
        fun _ _ _ => abides_perform_bind trivial fun _ _ => trivial

theorem serve_linking (request : Request) :
    (serve runtime request).Abides (conduct (linking runtime request)) [] := by
  refine serve_abides runtime request (harmless_linking runtime) (fun _ _ => trivial)
    fun past userId grown => ?_
  by_cases asks : ∃ email, request = .requestReset email
  · obtain ⟨email, rfl⟩ := asks
    exact (requestReset_linking runtime email).bind fun _ _ => trivial
  · by_cases resets : ∃ dto, request = .resetPassword dto
    · obtain ⟨dto, rfl⟩ := resets
      have first : ∀ event ∈ past, event.effect.looksReset = false := by
        intro event member
        rcases grown.mem_or member with old | harmless
        · cases old
        · cases effect : event.effect with
          | passwordResetTokenFindFirst _ _ =>
            rw [effect] at harmless
            exact harmless.elim
          | _ => rfl
      exact (resetPassword_linking runtime dto first).bind fun _ _ => trivial
    · refine handle_abides runtime _ userId (harmless_linking runtime) fun done effect awaits => ?_
      have linkless := awaits_linkless (fun email same => asks ⟨email, same⟩) awaits
      cases effect with
      | execute statements =>
        refine ⟨fun data listed => ?_, fun dto same => absurd ⟨dto, same⟩ resets⟩
        have none := List.filterMap_eq_nil_iff.mp (linkless (.ok ())) _ listed
        cases none
      | passwordResetTokenFindFirst userId tokenHash =>
        exact fun dto same => absurd ⟨dto, same⟩ resets
      | _ => trivial

end Calls

/-! ### What an effect makes of the active links -/

section Effects

variable {db later : Database} {userId : UserId} {clock : Timestamp}

/-- A link that has expired stays expired. -/
theorem usableResets_elapsed {before after : Timestamp} (elapsed : before ≤ after) :
    (db.usableResets userId after).Sublist (db.usableResets userId before) := by
  refine List.monotone_filter_right _ fun row usable => ?_
  rw [Bool.and_eq_true, decide_eq_true_eq] at usable ⊢
  exact ⟨usable.1, Int.le_trans elapsed usable.2⟩

/-- A statement that stores no link makes none usable. -/
theorem usableResets_carried {now : Timestamp} {statement : Statement}
    (carried : Carried now db statement later) (linkless : statement.resetLink = none) :
    ((later.usableResets userId clock).map (·.id)).Sublist
      ((db.usableResets userId clock).map (·.id)) := by
  cases carried with
  | passwordResetTokenUpdateMany _ | passwordResetTokenUpdate _ _ =>
    refine filter_updateWhere_sublist ?_ ?_ _
    · exact fun _ => rfl
    · simp
  | passwordResetTokenCreate data => cases linkless
  | _ => exact .refl _

/-- A link is added to the links that can be used when it is the user's. -/
theorem usableResets_create {now : Timestamp} {data : PasswordResetTokenCreate}
    (carried : Carried now db (.passwordResetTokenCreate data) later) :
    (later.usableResets userId clock).Sublist (db.usableResets userId clock ++
      [data.row db.nextId].filter (·.userId == userId)) := by
  cases carried with
  | passwordResetTokenCreate data =>
    rw [Database.usableResets, List.filter_append]
    refine .append (.refl _) (List.monotone_filter_right _ fun row usable => ?_)
    rw [Bool.and_eq_true, Bool.and_eq_true] at usable
    exact usable.1.1

variable {runtime : Runtime} {regime : Regime State Effect.Reply Failure Request}
  {world : ServiceWorld} {entry : ServiceEntry}

/-- The link that the entry has stored for the user. -/
def storedFor (userId : UserId) (entry : ServiceEntry) : List PasswordResetTokenRow :=
  (storedReset entry).toList.filter (·.userId == userId)

theorem storedReset_some {link : PasswordResetTokenRow} (stored : link ∈ storedReset entry) :
    ∃ data, executed entry.event = [.passwordResetTokenCreate data] ∧
      link = data.row entry.before.db.nextId := by
  unfold storedReset at stored
  split at stored
  · rename_i data carriedOut
    exact ⟨data, carriedOut, (Option.some.inj stored).symm⟩
  · cases stored

/-- Only the link that an entry has stored becomes usable. -/
theorem usableResets_recorded (userId : UserId) (clock : Timestamp)
    (admissible : Admissible (service runtime) regime
      (fun request => conduct (linking runtime request)) world entry) :
    ((entry.after.db.usableResets userId clock).map (·.id)).Sublist
      ((entry.before.db.usableResets userId clock ++ storedFor userId entry).map (·.id)) := by
  have ruled : linking runtime entry.request (world.past entry.thread) entry.effect :=
    admissible.ruled
  have fewer : ((entry.after.db.usableResets userId clock).map (·.id)).Sublist
      ((entry.before.db.usableResets userId clock).map (·.id)) →
        ((entry.after.db.usableResets userId clock).map (·.id)).Sublist
          ((entry.before.db.usableResets userId clock ++ storedFor userId entry).map (·.id)) := by
    rw [List.map_append]
    exact fun sublist => sublist.trans (List.sublist_append_left _ _)
  rcases performs_db admissible.performs with
    same | ⟨statements, event, ran⟩ | ⟨data, event, ran⟩ | ⟨log, same⟩
  · rw [same] at fewer ⊢
    exact fewer (.refl _)
  · by_cases stores : ∃ data, Statement.passwordResetTokenCreate data ∈ statements
    · obtain ⟨data, listed⟩ := stores
      rw [show entry.effect = _ from congrArg Event.effect event] at ruled
      obtain ⟨rfl, _⟩ := ruled.1 data listed
      have stored : storedReset entry = some (data.row entry.before.db.nextId) := by
        rw [storedReset, show entry.event = _ from event]
        rfl
      rw [storedFor, stored]
      exact (usableResets_create (runAll_singleton ran)).map _
    · refine fewer (runAll_preserves (fun db => ((db.usableResets userId clock).map (·.id)).Sublist
        ((entry.before.db.usableResets userId clock).map (·.id))) ran ?_ (.refl _))
      intro statement listed now later kept carried
      refine (usableResets_carried carried ?_).trans kept
      cases statement with
      | passwordResetTokenCreate data => exact absurd ⟨data, listed⟩ stores
      | _ => rfl
  · obtain ⟨_, _, _, _, resets, _⟩ := register_tables ran
    refine fewer ?_
    rw [Database.usableResets, resets]
    exact .refl _
  · rw [same] at fewer ⊢
    exact fewer (.refl _)

/-- Only the link that an entry has stored becomes active. -/
theorem activeLinks_recorded (userId : UserId)
    (admissible : Admissible (service runtime) regime
      (fun request => conduct (linking runtime request)) world entry) :
    ((entry.after.activeLinks userId).map (·.id)).Sublist
      ((entry.before.activeLinks userId ++ storedFor userId entry).map (·.id)) := by
  refine (usableResets_recorded userId _ admissible).trans (.map _ (.append ?_ (.refl _)))
  exact usableResets_elapsed (performs_clock admissible.performs)

/-- A revocation leaves no active link. -/
theorem activeLinks_revoked (performs : environment.Performs entry.before entry.effect entry.reply
      entry.after) (revokes : revokesResets userId entry = true) :
    entry.after.activeLinks userId = [] := by
  unfold revokesResets at revokes
  split at revokes
  · rename_i id carriedOut
    obtain rfl : id = userId := beq_iff_eq.mp revokes
    have performs := performs_event performs (event_of_executed carriedOut)
    rcases performs_execute performs with ⟨_, ran⟩ | ⟨⟨_, failed⟩, _⟩
    · exact congrArg AccountRows.usableResets (usableResets_revoked _ (runAll_singleton ran))
    · cases failed
  · cases revokes

/-- A reset spends the link that it has looked up and no other. -/
theorem usableResets_committed {state next : State} {id : RowId} {data : UserUpdate}
    {filter : RefreshTokenWhere}
    (performs : environment.Performs state (.execute [.userUpdate userId data,
      .passwordResetTokenUpdate id, .refreshTokenUpdateMany filter]) (.ok ()) next) :
    next.db.usableResets userId clock =
      (state.db.usableResets userId clock).filter fun link => !(link.id == id) := by
  rcases performs_execute performs with ⟨_, ran⟩ | ⟨⟨_, failed⟩, _⟩
  · generalize next.db = after at ran ⊢
    obtain ⟨between, first, ran⟩ := runAll_cons ran
    obtain ⟨marked, second, ran⟩ := runAll_cons ran
    cases first
    cases second
    cases runAll_singleton ran
    exact filter_updateWhere_unwanted (by simp) _
  · cases failed

end Effects

/-! ### Runs -/

section Runs

variable {runtime : Runtime} {regime : Regime State Effect.Reply Failure Request}
  {initial : State} {world : ServiceWorld} {entry : ServiceEntry} {userId : UserId}

/-- A link is active since a thread last did something, or it has been stored since. -/
theorem active_or_stored (userId : UserId)
    (chronicle : Chronicle (service runtime) regime
      (fun request => conduct (linking runtime request)) initial world)
    {thread : Nat} (marks : ServiceEntry → Bool)
    (marked : ∃ entry ∈ world.history, entry.thread = thread ∧ marks entry = true) :
    ∃ newer anchor older, world.history = newer ++ anchor :: older ∧ anchor.thread = thread ∧
      marks anchor = true ∧ linksSince world thread marks = newer.filterMap storedReset ∧
        ∀ active ∈ world.state.activeLinks userId,
          active.id ∈ (anchor.after.activeLinks userId).map (·.id) ∨
            ∃ link ∈ linksSince world thread marks, link.id = active.id := by
  obtain ⟨entry, member, own, mark⟩ := marked
  obtain ⟨anchor, older, split, found⟩ := World.since_split
    (fun entry => entry.thread == thread && marks entry) member (by simp [own, mark])
  rw [Bool.and_eq_true, beq_iff_eq] at found
  refine ⟨_, anchor, older, split, found.1, found.2, rfl, fun active member => ?_⟩
  have traced := chronicle.inherits split
    (fun state id => id ∈ (state.activeLinks userId).map (·.id))
    (fun entry id => ∃ link ∈ storedReset entry, link.id = id) ?_ (List.mem_map_of_mem member)
  · rcases traced with there | ⟨entry, member, link, stored, same⟩
    · exact .inl there
    · exact .inr ⟨link, List.mem_filterMap.mpr ⟨entry, member, stored⟩, same⟩
  · intro world entry id admissible there
    have before := (activeLinks_recorded userId admissible).subset there
    rw [List.map_append] at before
    rcases List.mem_append.mp before with old | new
    · exact .inl old
    · obtain ⟨link, stored, rfl⟩ := List.mem_map.mp new
      exact .inr ⟨link, Option.mem_toList.mp (List.mem_filter.mp stored).1, rfl⟩

/-- When a link is stored for a user, none of the user's others can be used. -/
theorem unusable_of_stored
    (chronicle : Chronicle (service runtime) storesAlone
      (fun request => conduct (linking runtime request)) initial world)
    (admissible : Admissible (service runtime) storesAlone
      (fun request => conduct (linking runtime request)) world entry)
    {data : PasswordResetTokenCreate}
    (carriedOut : executed entry.event = [.passwordResetTokenCreate data]) :
    entry.before.db.usableResets data.userId entry.after.clock = [] := by
  have effect : entry.effect = .execute [.passwordResetTokenCreate data] :=
    congrArg Event.effect (event_of_executed carriedOut)
  have ruled : linking runtime entry.request (world.past entry.thread) entry.effect :=
    admissible.ruled
  have alone : ∀ statement ∈ entry.effect.statements, StoresAlone world entry statement :=
    admissible.permitted
  rw [effect] at ruled alone
  have outlived : Outlived (linksSince world entry.thread (revokesResets data.userId)) data.userId
      entry := alone _ (List.mem_singleton_self _)
  obtain ⟨_, revoked⟩ := ruled.1 data (List.mem_singleton_self _)
  obtain ⟨revocation, member, own, event⟩ := World.mem_past.mp revoked
  have marks : revokesResets data.userId revocation = true := by
    rw [revokesResets, event]
    exact beq_self_eq_true _
  obtain ⟨newer, anchor, older, split, _, revokes, _, traced⟩ :=
    active_or_stored data.userId chronicle _ ⟨revocation, member, own, marks⟩
  have none := activeLinks_revoked (chronicle.admissible split).2.performs revokes
  refine List.eq_nil_iff_forall_not_mem.mpr fun active usable => ?_
  have current := (usableResets_elapsed (performs_clock admissible.performs)).subset usable
  rw [admissible.current] at current
  rcases traced active current with there | ⟨link, since, same⟩
  · rw [none] at there
    cases there
  · exact outlived link since active usable same.symm

/-- Under the regime a user has at most one active link. -/
theorem one_active (userId : UserId)
    (chronicle : Chronicle (service runtime) storesAlone
      (fun request => conduct (linking runtime request)) initial world)
    (base : (initial.activeLinks userId).length ≤ 1) :
    (world.state.activeLinks userId).length ≤ 1 := by
  refine chronicle.invariant (fun world => (world.state.activeLinks userId).length ≤ 1) base
    fun world entry earlier kept admissible => ?_
  rw [World.record_state]
  by_cases stores : storedFor userId entry = []
  · have recorded := (activeLinks_recorded userId admissible).length_le
    rw [List.length_map, List.length_map, stores, List.append_nil, admissible.current] at recorded
    exact recorded.trans kept
  · obtain ⟨link, stored⟩ := List.exists_mem_of_ne_nil _ stores
    obtain ⟨new, own⟩ := List.mem_filter.mp stored
    obtain ⟨data, carriedOut, rfl⟩ := storedReset_some (Option.mem_toList.mp new)
    obtain rfl : data.userId = userId := beq_iff_eq.mp own
    have recorded := (usableResets_recorded data.userId entry.after.clock admissible).length_le
    rw [List.length_map, List.length_map, unusable_of_stored earlier admissible carriedOut,
      List.nil_append] at recorded
    exact recorded.trans ((List.length_filter_le _ _).trans (Option.length_toList_le))

theorem requests_of_resetOwner (commits : resetOwner entry = some userId) :
    ∃ dto statement rest, entry.request = .resetPassword dto ∧ dto.userId = userId ∧
      entry.event = ⟨.execute (statement :: rest), .ok ()⟩ := by
  obtain ⟨link, used, rfl⟩ := Option.map_eq_some_iff.mp commits
  unfold resets at used
  split at used
  · rename_i dto requested
    obtain ⟨_, replaced, rfl⟩ := Option.map_eq_some_iff.mp used
    obtain ⟨_, _, carriedOut, _⟩ := replacedPassword_some replaced
    exact ⟨dto, _, _, requested, rfl, event_of_executed carriedOut⟩
  · cases used

/-- A reset looks a link up once. -/
theorem looks_once
    (chronicle : Chronicle (service runtime) regime
      (fun request => conduct (linking runtime request)) initial world)
    {first second : ServiceEntry} (memberFirst : first ∈ world.history)
    (memberSecond : second ∈ world.history) (same : first.thread = second.thread)
    (requested : ∃ dto, first.request = .resetPassword dto)
    (looksFirst : first.effect.looksReset = true) (looksSecond : second.effect.looksReset = true) :
    first = second := by
  refine chronicle.once_each (fun entry => (∃ dto, entry.request = .resetPassword dto) ∧
    entry.effect.looksReset = true) ?_ memberFirst memberSecond same ⟨requested, looksFirst⟩
    ⟨chronicle.request_of_thread memberFirst memberSecond same ▸ requested, looksSecond⟩
  rintro world entry admissible ⟨⟨dto, asked⟩, looks⟩ older member own ⟨_, already⟩
  have ruled : linking runtime entry.request (world.past entry.thread) entry.effect :=
    admissible.ruled
  cases effect : entry.effect with
  | passwordResetTokenFindFirst _ _ =>
    rw [effect] at ruled
    have first : older.effect.looksReset = false :=
      ruled dto asked older.event (World.mem_past.mpr ⟨older, member, own, rfl⟩)
    rw [first] at already
    cases already
  | _ =>
    rw [effect] at looks
    cases looks

/-- What is stored after an entry has an id that was not drawn before it. -/
theorem fresh_since
    (chronicle : Chronicle (service runtime) regime
      (fun request => conduct (linking runtime request)) initial world)
    {newer older : List ServiceEntry} {anchor : ServiceEntry}
    (split : world.history = newer ++ anchor :: older) {link : PasswordResetTokenRow}
    (since : link ∈ newer.filterMap storedReset) : anchor.before.db.nextId ≤ link.id := by
  obtain ⟨entry, member, stored⟩ := List.mem_filterMap.mp since
  obtain ⟨data, _, rfl⟩ := storedReset_some stored
  obtain ⟨latest, between, rfl⟩ := List.append_of_mem member
  obtain ⟨earlier, _⟩ := chronicle.admissible
    (split.trans (List.append_assoc latest (entry :: between) (anchor :: older)))
  exact earlier.lasts (fun state => anchor.before.db.nextId ≤ state.db.nextId)
    (fun _ _ _ _ performs below => below.trans (performs_nextId performs))
    (List.mem_append_right _ List.mem_cons_self) (.inl (Nat.le_refl _))

/-- What the commit of a reset rests on: a lookup of the user's one active link. -/
theorem lookup_of_commit {clock : Timestamp}
    (chronicle : Chronicle (service runtime) storesAlone
      (fun request => conduct (linking runtime request)) (State.empty clock) world)
    (admissible : Admissible (service runtime) storesAlone
      (fun request => conduct (linking runtime request)) world entry)
    (commits : resetOwner entry = some userId) :
    ∃ (id : RowId) (passwordHash : String), entry.event = ⟨.execute [
        .userUpdate userId { passwordHash := some passwordHash },
        .passwordResetTokenUpdate id,
        .refreshTokenUpdateMany { userId := some userId }], .ok ()⟩ ∧
      (∀ active ∈ world.state.activeLinks userId, active.id = id ∨
        ∃ link ∈ linksSince world entry.thread (·.effect.looksReset), link.id = active.id) ∧
        ∀ link ∈ linksSince world entry.thread (·.effect.looksReset), link.id ≠ id := by
  obtain ⟨dto, statement, rest, requested, rfl, event⟩ := requests_of_resetOwner commits
  have ruled : linking runtime entry.request (world.past entry.thread) entry.effect :=
    admissible.ruled
  rw [show entry.effect = _ from congrArg Event.effect event] at ruled
  obtain ⟨later, older, row, now, passwordHash, past, unused, unexpired, same⟩ :=
    ruled.2 dto requested
  rw [same] at event
  -- The lookup, and the clock that was read after it.
  obtain ⟨timed, reading, timedChronicle, reads, _, readEvent, own, before, inside⟩ :=
    chronicle.recalls_past past
  obtain ⟨lookup, lookedUp, sameThread, lookupEvent⟩ :=
    World.mem_past.mp (before ▸ List.mem_cons_self)
  have looks : lookup.effect.looksReset = true := by
    rw [show lookup.effect = _ from congrArg Event.effect lookupEvent]
    rfl
  have asks : ∃ dto, lookup.request = .resetPassword dto :=
    ⟨dto, (admissible.owned lookup (inside lookedUp) sameThread).trans requested⟩
  obtain ⟨newer, anchor, oldest, split, anchorThread, anchorLooks, since, traced⟩ :=
    active_or_stored dto.userId chronicle (·.effect.looksReset)
      ⟨lookup, inside lookedUp, sameThread, looks⟩
  have recorded : anchor ∈ world.history := by
    rw [split]
    exact List.mem_append_right _ List.mem_cons_self
  obtain rfl : lookup = anchor := looks_once chronicle (inside lookedUp) recorded
    (sameThread.trans anchorThread.symm) asks looks anchorLooks
  obtain ⟨earlier, allowed⟩ := chronicle.admissible split
  have performs : environment.Performs lookup.before lookup.effect lookup.reply lookup.after :=
    allowed.performs
  have found := performs_passwordResetTokenFindFirst (performs_event performs lookupEvent)
  obtain ⟨stored, owner, _⟩ := findPasswordResetToken_some found.symm
  -- The link was active when it was looked up, so it was the only one.
  have timely : lookup.after.clock ≤ now := by
    have read : environment.Performs reading.before reading.effect reading.reply reading.after :=
      reads.performs
    have same := performs_now (performs_event read readEvent)
    rw [Except.ok.inj same]
    refine Int.le_trans ?_ (performs_clock read)
    rw [reads.current]
    exact timedChronicle.lasts (fun state => lookup.after.clock ≤ state.clock)
      (fun _ _ _ _ performs le => Int.le_trans le (performs_clock performs)) lookedUp
      (.inr (Int.le_refl _))
  have active : row ∈ lookup.after.activeLinks dto.userId := by
    obtain ⟨_, _, same⟩ := performs_sameButLog (performs_event performs lookupEvent) rfl
    rw [State.activeLinks, same]
    refine List.mem_filter.mpr ⟨stored, ?_⟩
    simp [owner, unused, Int.le_trans timely unexpired]
  have single := one_active dto.userId (earlier.record allowed) (Nat.zero_le 1)
  obtain ⟨only, alone⟩ := List.length_eq_one_iff.mp
    (Nat.le_antisymm single (List.length_pos_of_mem active))
  have drawn : row.id < lookup.before.db.nextId :=
    (chronicle_wellFormed earlier).passwordResetTokens.below _ (List.mem_map_of_mem stored)
  refine ⟨row.id, passwordHash, event, fun other member => ?_, fun link later same => ?_⟩
  · refine (traced other member).imp_left fun there => ?_
    rw [World.record_state] at alone
    rw [alone] at there active
    rw [List.mem_singleton.mp active]
    exact List.mem_singleton.mp there
  · rw [since] at later
    exact Nat.not_le.mpr drawn ((fresh_since chronicle split later).trans_eq same)

/-- A reset leaves no active link just when none stored since its lookup can still be used. -/
theorem committed_iff {clock : Timestamp}
    (chronicle : Chronicle (service runtime) storesAlone
      (fun request => conduct (linking runtime request)) (State.empty clock) world)
    (admissible : Admissible (service runtime) storesAlone
      (fun request => conduct (linking runtime request)) world entry)
    (commits : resetOwner entry = some userId) :
    entry.after.activeLinks userId = [] ↔
      Outlived (linksSince world entry.thread (·.effect.looksReset)) userId entry := by
  obtain ⟨id, passwordHash, event, traced, fresh⟩ := lookup_of_commit chronicle admissible commits
  have performs : environment.Performs entry.before entry.effect entry.reply entry.after :=
    admissible.performs
  rw [State.activeLinks, usableResets_committed (performs_event performs event),
    List.filter_eq_nil_iff]
  constructor
  · intro spent link since active usable same
    have same_ : active.id = id := by simpa using spent active usable
    exact fresh link since (same.symm.trans same_)
  · intro outlived active usable
    have current := (usableResets_elapsed (performs_clock admissible.performs)).subset usable
    rw [admissible.current] at current
    rcases traced active current with same | ⟨link, since, same⟩
    · simp [same]
    · exact absurd same.symm (outlived link since active usable)

end Runs

/-- In every run in which no link is stored while one stored since its call has revoked the others
can be used, a user has at most one active link, and a reset that is committed leaves none just
when none stored since its lookup can be used. -/
theorem one_active_link_of_storesAlone (runtime : Runtime) (clock : Timestamp) (pool : ServicePool)
    (userId : UserId)
    (reachable : Reachable (service runtime) storesAlone (State.empty clock) pool) :
    (pool.world.state.activeLinks userId).length ≤ 1 ∧
      ∀ entry older, pool.world.history = entry :: older → resetOwner entry = some userId →
        (pool.world.state.activeLinks userId = [] ↔
          Outlived (linksSince ⟨entry.before, older⟩ entry.thread (·.effect.looksReset)) userId
            entry) := by
  have chronicle := reachable_chronicle (linking runtime) reachable
    fun request _ => serve_linking runtime request
  refine ⟨one_active userId chronicle (Nat.zero_le 1), fun entry older split commits => ?_⟩
  obtain ⟨earlier, admissible⟩ := chronicle.latest split
  have current : pool.world.state = entry.after := by rw [chronicle.state_eq, split]; rfl
  rw [current]
  exact committed_iff earlier admissible commits

/-- A user asks for a link, asks for another one and follows it. -/
def secondLinkFollowed : List ServiceMove :=
  signedIn ++
  .accept (.requestReset "a@x") :: steps 3 [{}, {}, { text := "r2" }, {}, {}, {}, {}, {}] ++
  .accept (.requestReset "a@x") :: steps 4 [{}, {}, { text := "r3" }, {}, {}, {}, {}, {}] ++
  .accept (.resetPassword ⟨0, "r3", "p1", "p1"⟩) :: steps 5 [{}, {}, {}, {}]

theorem one_active_link_of_storesAlone_followed :
    (played (Referee.strict storesAlone) secondLinkFollowed).world.history.head?.bind resetOwner =
        some 0 ∧
      ((played (Referee.strict storesAlone) secondLinkFollowed).world.state.activeLinks
          0).length ≤ 1 ∧
        ∀ entry older, (played (Referee.strict storesAlone) secondLinkFollowed).world.history =
          entry :: older → resetOwner entry = some 0 →
            ((played (Referee.strict storesAlone) secondLinkFollowed).world.state.activeLinks 0 =
                [] ↔
              Outlived (linksSince ⟨entry.before, older⟩ entry.thread (·.effect.looksReset)) 0
                entry) :=
  ⟨by decide +kernel, one_active_link_of_storesAlone legibleRuntime 0 _ 0
    (played_reachable (Referee.strict_upholds storesAlone) secondLinkFollowed)⟩

end GraconAuth
