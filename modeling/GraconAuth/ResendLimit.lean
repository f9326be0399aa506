/-
This file is about the limit on resent verification mails: at most three for a user in
any hour. The limit counts rows of a table in which a user has at most one, so it never
stops a resend, and the mails of an hour are as many as the calls that ask for them.
Calls are served one at a time; the mail is the last thing that a call sends before its
response, so the time of a mail is that of the end of its call.
-/

import GraconAuth.LimitedSessions

namespace GraconAuth

open Interleaving Program Rows UsersService

variable {runtime : Runtime} {before after : State} {trace : List ServiceEvent}

/-! ### The limit -/

/-- The user whose verification link the event has mailed. -/
def mailedLink : ServiceEvent → Option UserId
  | ⟨.sendMail mail, .ok _⟩ => if mail.template = .emailVerification then mail.userId else none
  | _ => none

/-- The call was asked for another verification mail, and has mailed one to this user. -/
def resends (userId : UserId) (served : ServiceServed) : Bool :=
  match served.request with
  | .resendVerificationEmail _ => served.trace.any fun event => mailedLink event == some userId
  | _ => false

/-- The call asks for another verification mail for this user, who is not verified yet, and
nothing that it awaits fails. -/
def asksResend (userId : UserId) (served : ServiceServed) : Bool :=
  match served.request with
  | .resendVerificationEmail dto =>
    ((dto.lookup.bind served.before.db.findUser).any fun user =>
      user.id == userId && !user.isVerified) && served.trace.all (·.reply.isOk)
  | _ => false

/-- The call has ended in the hour that starts at an instant. -/
def endsInHour (start : Timestamp) (served : ServiceServed) : Bool :=
  decide (start ≤ served.after.clock) && decide (served.after.clock ≤ start + 60 * 60 * 1000)

/-- In any hour at most three verification mails are resent to a user. -/
def ResendLimited (log : List ServiceServed) : Prop :=
  ∀ userId start, log.countP (fun served => resends userId served && endsInHour start served) ≤
    MAX_RESEND_PER_HOUR

/-- In any hour at most three calls ask for a mail to a user. -/
def FewResends (log : List ServiceServed) : Prop :=
  ∀ userId start, log.countP (fun served => asksResend userId served && endsInHour start served) ≤
    MAX_RESEND_PER_HOUR

/-- The citizen asks for another mail. -/
def anotherMail : Request × List Choice :=
  (.resendVerificationEmail ⟨none, some 0⟩, [{}, {}, {}, { text := "r1" }, {}, {}, {}, {}])

/-- The citizen registers and asks for another mail four times. -/
def fourResends : List (Request × List Choice) :=
  citizenSerially.take 1 ++ List.replicate 4 anotherMail

/-- More than three mails are resent in an hour. -/
theorem resends_not_limited :
    ¬ ∀ (runtime : Runtime) (clock : Timestamp) (log : List ServiceServed) (state : State),
      SerialRun (service runtime) (State.empty clock) log state → ResendLimited log := by
  intro limited
  have few := limited legibleRuntime 0 _ _ (playedSerially_run fourResends) 0 0
  exact absurd few (by decide +kernel)

/-! ### One link for each user -/

/-- Every verification link belongs to a user of its own. -/
structure Database.LinksOwned (db : Database) : Prop where
  users : Keyed db.nextId (db.users.map (·.id))
  links : Keyed db.nextId (db.emailVerificationTokens.map (·.userId))

/-- The links are owned, and the users that were read are stored. -/
structure Acquainted (past : List ServiceEvent) (db : Database) : Prop where
  owned : db.LinksOwned
  stored : ∀ event ∈ past, ∀ user ∈ readUser event, user.id < db.nextId

/-- A link is stored for a user that was read. -/
def introduced (past : List ServiceEvent) (effect : Effect) : Prop :=
  ∀ statements, effect = .execute statements → ∀ statement ∈ statements, ∀ link ∈ statement.link,
    Met past link.1 .full

theorem founded_introduced {past : List ServiceEvent} {effect : Effect}
    (founded : founded past effect) : introduced past effect := by
  rintro statements rfl statement member link linked
  have grounds := founded statement member
  unfold Statement.link at linked
  split at linked
  · obtain rfl := Option.some.inj linked
    exact grounds
  · cases linked

theorem linksOwned_carried {clock : Timestamp} {db next : Database} {statement : Statement}
    (owned : db.LinksOwned) (known : ∀ link ∈ statement.link, link.1 < db.nextId)
    (carried : Carried clock db statement next) : next.LinksOwned := by
  obtain ⟨users, links⟩ := owned
  have grown : db.nextId ≤ db.nextId + 1 := Nat.le_succ _
  have each := carried.oneLinkEach links.distinct
  cases carried with
  | userUpdate id data present free => exact ⟨users.updateWhere fun _ => rfl, links⟩
  | emailVerificationTokenUpdate id present =>
    refine ⟨users, each, fun owner member => ?_⟩
    obtain ⟨row, stored, rfl⟩ := List.mem_map.mp member
    obtain ⟨old, before, rfl⟩ := mem_updateWhere.mp stored
    have below := links.below _ (List.mem_map_of_mem before)
    split <;> exact below
  | emailVerificationTokenUpsert userId tokenHash expiresAt createdAt =>
    refine ⟨users.grow grown, each, fun owner member => ?_⟩
    obtain ⟨row, stored, rfl⟩ := List.mem_map.mp member
    have below : ∀ old ∈ db.emailVerificationTokens, old.userId < db.nextId + 1 :=
      fun old before => Nat.lt_succ_of_lt (links.below _ (List.mem_map_of_mem before))
    unfold upsertWhere at stored
    split at stored
    · obtain ⟨old, before, rfl⟩ := mem_updateWhere.mp stored
      split
      · exact below old before
      · exact below old before
    · rcases List.mem_append.mp stored with old | new
      · exact below row old
      · obtain rfl := List.mem_singleton.mp new
        exact Nat.lt_succ_of_lt (known _ rfl)
  | refreshTokenCreate data free => exact ⟨users.grow grown, links.grow grown⟩
  | passwordResetTokenCreate data => exact ⟨users.grow grown, links.grow grown⟩
  | idVerificationCreate data row stored => exact ⟨users.grow grown, links.grow grown⟩
  | _ => exact ⟨users, links⟩

theorem acquainted_performs {past : List ServiceEvent} {state next : State} {effect : Effect}
    {reply : Except Failure effect.Reply} (introduces : introduced past effect)
    (acquainted : Acquainted past state.db)
    (performs : environment.Performs state effect reply next) :
    Acquainted (⟨effect, reply⟩ :: past) next.db := by
  obtain ⟨owned, stored⟩ := acquainted
  have grown := performs_nextId performs
  have kept : state.db.nextId ≤ next.db.nextId ∧ next.db.LinksOwned := by
    refine performs_preserves (fun db => state.db.nextId ≤ db.nextId ∧ db.LinksOwned) performs
      ?_ ?_ ?_ ⟨Nat.le_refl _, owned⟩
    · rintro statements same statement member now later ⟨grown, holds⟩ carried
      refine ⟨Nat.le_trans grown carried.nextId,
        linksOwned_carried holds (fun link linked => ?_) carried⟩
      obtain ⟨event, recorded, user, read, sameId, _⟩ :=
        introduces statements same statement member link linked
      exact Nat.lt_of_lt_of_le (lt_of_eq_of_lt sameId.symm (stored event recorded user read)) grown
    · rintro data later ⟨_, holds⟩ ran
      obtain ⟨counter, ⟨user, users, fresh, _⟩, _, ⟨link, links, _, owner, _⟩, _⟩ :=
        register_tables ran
      have drawn : state.db.nextId < later.nextId :=
        counter ▸ Nat.lt_add_of_pos_right (by decide)
      refine ⟨Nat.le_of_lt drawn, ?_, ?_⟩
      · rw [users, List.map_append]
        exact holds.users.append (Nat.le_of_eq fresh.symm) (lt_of_eq_of_lt fresh drawn)
      · rw [links, List.map_append]
        exact holds.links.append (Nat.le_of_eq owner.symm) (lt_of_eq_of_lt owner drawn)
    · rintro log ⟨_, holds⟩
      exact ⟨Nat.le_succ _, holds.users.grow (Nat.le_succ _), holds.links.grow (Nat.le_succ _)⟩
  refine ⟨kept.2, fun event member user read => ?_⟩
  rcases List.mem_cons.mp member with rfl | old
  · refine Nat.lt_of_lt_of_le (owned.users.below _ (List.mem_map_of_mem ?_)) grown
    exact (performs_readUser performs read).1
  · exact Nat.lt_of_lt_of_le (stored event old user read) grown

/-- A submission stores no link. -/
theorem submission_introduces (jwt : Jwt) (dto : VerificationService.SubmitVerificationDto)
    (ipAddress : String) :
    (serve runtime (.submitVerification jwt dto ipAddress)).Uses (introduced []) := by
  have harmless : ∀ effect : Effect, effect.Harmless → introduced [] effect :=
    fun effect inside => founded_introduced (harmless_founded [] effect inside)
  have single : ∀ statement : Statement, statement.link = none →
      introduced [] (.execute [statement]) := by
    rintro statement linkless statements same other member link linked
    cases same
    obtain rfl := List.mem_singleton.mp member
    rw [linkless] at linked
    cases linked
  refine uses_bind (uses_attempt ?_) fun _ => uses_bind (uses_perform (by simp [introduced]))
    fun _ => uses_ofOutcome _
  refine uses_bind ((canActivate_uses _ _).mono harmless) fun user => ?_
  refine (handle_uses runtime user.userId (.submitVerification jwt dto ipAddress)).mono
    fun effect inside => ?_
  rcases inside with inside | issues | ⟨_, _, rfl⟩ | ⟨_, rfl⟩ | ⟨_, rfl⟩ | ⟨_, _, rfl⟩ | ⟨_, rfl⟩ |
    ⟨_, rfl⟩
  · exact harmless effect inside
  · unfold Effect.Issues at issues
    split at issues
    · simp [introduced]
    · simp [introduced]
    · exact single _ rfl
    · exact issues.elim
  · simp [introduced]
  · simp [introduced]
  · exact single _ rfl
  · exact single _ rfl
  · exact single _ rfl
  · exact single _ rfl

/-- Serving any call leaves every link with a user of its own. -/
theorem serve_linksOwned {request : Request} {outcome : Except Failure Response}
    (run : Runs environment (serve runtime request) before trace outcome after)
    (owned : before.db.LinksOwned) : after.db.LinksOwned := by
  by_cases submits : request.submits = true
  · cases request with
    | submitVerification jwt dto ipAddress =>
      exact run.preserves (submission_introduces jwt dto ipAddress)
        (fun _ _ _ _ introduces holds performs =>
          (acquainted_performs introduces ⟨holds, by simp⟩ performs).owned) owned
    | _ => cases submits
  · exact (run.invariant (fun _ _ _ _ performs => performs_plausible performs)
      (serve_founded runtime request (Bool.not_eq_true _ |>.mp submits))
      (fun past state => Acquainted past state.db) ⟨owned, by simp⟩
      fun _ _ _ _ _ allowed acquainted performs =>
        acquainted_performs (founded_introduced allowed) acquainted performs).owned

/-! ### The mails of a call -/

/-- The trace mails a link to this user. -/
def MailsLink (userId : UserId) (trace : List ServiceEvent) : Prop :=
  ∃ event ∈ trace, mailedLink event = some userId

/-- Nothing in the trace has failed. -/
def Unfailed (trace : List ServiceEvent) : Prop :=
  ∀ event ∈ trace, event.reply.isOk = true

theorem mailsLink_cons {userId : UserId} {event : ServiceEvent} (other : mailedLink event = none) :
    MailsLink userId (event :: trace) ↔ MailsLink userId trace := by
  simp only [MailsLink, List.mem_cons, exists_eq_or_imp, other, reduceCtorEq, false_or]

theorem unfailed_cons {event : ServiceEvent} (ok : event.reply.isOk = true) :
    Unfailed (event :: trace) ↔ Unfailed trace := by
  simp only [Unfailed, List.forall_mem_cons, ok, true_and]

/-- What replaces a link mails it unless something fails. -/
theorem runs_replace_mails {userId : UserId} {recipient : Email}
    {identity : Option CitizenIdentityRow} {outcome : Except Failure MessageResult} {other : UserId}
    (run : Runs environment (replaceVerificationToken runtime userId recipient identity >>= fun _ =>
      pure resendSafeResponse) before trace outcome after) :
    MailsLink other trace ↔ userId = other ∧ Unfailed trace := by
  unfold replaceVerificationToken at run
  simp only [Program.bind_assoc] at run
  obtain ⟨reply, drew, rest, rfl, performs, run⟩ := runs_perform_bind.mp run
  obtain ⟨raw, rfl, _⟩ := performs_randomToken performs
  rw [ofOutcome_ok, done_bind] at run
  obtain ⟨reply, read, rest, rfl, performs, run⟩ := runs_perform_bind.mp run
  obtain rfl := performs_now performs
  rw [ofOutcome_ok, done_bind] at run
  obtain ⟨reply, stored, rest, rfl, performs, run⟩ := runs_perform_bind.mp run
  cases reply with
  | error failure =>
    obtain ⟨rfl, _, _⟩ := run
    simp [MailsLink, mailedLink, Unfailed, Except.isOk, Except.toBool]
  | ok done =>
    rw [ofOutcome_ok, done_bind] at run
    obtain ⟨reply, sent, rest, rfl, performs, run⟩ := runs_rescue_perform_bind.mp run
    cases reply with
    | error failure =>
      obtain ⟨rfl, _, _⟩ := run
      simp [MailsLink, mailedLink, Unfailed, Except.isOk, Except.toBool]
    | ok done =>
      obtain ⟨rfl, _, _⟩ := run
      simp [MailsLink, mailedLink, Unfailed, Except.isOk, Except.toBool]

theorem runs_resend_mails {dto : ResendVerificationDto} {outcome : Except Failure MessageResult}
    {userId : UserId}
    (run : Runs environment (resendVerificationEmail runtime dto) before trace outcome after)
    (owned : before.db.LinksOwned) :
    MailsLink userId trace ↔ ((dto.lookup.bind before.db.findUser).any fun user =>
      user.id == userId && !user.isVerified) = true ∧ Unfailed trace := by
  unfold resendVerificationEmail at run
  cases lookup : dto.lookup with
  | none =>
    rw [lookup] at run
    obtain ⟨rfl, _, _⟩ := run
    simp [MailsLink]
  | some userLookup =>
    rw [lookup] at run
    rw [Option.bind_some]
    obtain ⟨reply, asked, rest, rfl, performs, run⟩ := runs_perform_bind.mp run
    have finds : introduced [] (.userFindUnique userLookup) := by simp [introduced]
    have acquainted := acquainted_performs finds ⟨owned, by simp⟩ performs
    cases reply with
    | error failure =>
      obtain ⟨rfl, _, _⟩ := run
      simp [MailsLink, mailedLink, Unfailed, Except.isOk, Except.toBool]
    | ok found =>
      obtain rfl := performs_userFindUnique performs
      rw [ofOutcome_ok, done_bind] at run
      rw [mailsLink_cons rfl, unfailed_cons rfl]
      cases located : before.db.findUser userLookup with
      | none =>
        rw [located] at run
        obtain ⟨rfl, _, _⟩ := run
        simp [MailsLink]
      | some user =>
        rw [located, Option.map_some] at run
        rw [Option.any_some]
        change Runs environment (if user.isVerified then _ else _) _ _ _ _ at run
        by_cases verified : user.isVerified = true
        · rw [if_pos verified] at run
          obtain ⟨rfl, _, _⟩ := run
          simp [MailsLink, verified]
        · rw [if_neg verified] at run
          obtain ⟨reply, read, rest, rfl, performsNow, run⟩ := runs_perform_bind.mp run
          obtain rfl := performs_now performsNow
          have reads : introduced [] .now := by simp [introduced]
          have owned : read.db.LinksOwned :=
            (acquainted_performs reads ⟨acquainted.owned, by simp⟩ performsNow).owned
          rw [ofOutcome_ok, done_bind] at run
          rw [mailsLink_cons rfl, unfailed_cons rfl]
          obtain ⟨reply, counted, rest, rfl, performsCount, run⟩ := runs_perform_bind.mp run
          cases reply with
          | error failure =>
            obtain ⟨rfl, _, _⟩ := run
            simp [MailsLink, mailedLink, Unfailed, Except.isOk, Except.toBool]
          | ok count =>
            obtain rfl := performs_emailVerificationTokenCount performsCount
            rw [ofOutcome_ok, done_bind] at run
            -- A user has one link at most, so the count never reaches the limit.
            have few := countP_link_le owned.links.distinct (before.db.withRelations user).user.id
              fun row => decide (read.clock - 60 * 60 * 1000 ≤ row.createdAt)
            have below : ¬_ ≥ MAX_RESEND_PER_HOUR :=
              Nat.not_le.mpr (Nat.lt_of_le_of_lt few (by decide))
            rw [if_neg below] at run
            rw [mailsLink_cons rfl, unfailed_cons rfl, runs_replace_mails run]
            simp [verified, Database.withRelations]

/-- A call that asks for a mail and meets no fault sends it, and no other call resends one. -/
theorem resends_eq {userId : UserId} {served : ServiceServed}
    (valid : served.Valid (service runtime)) (owned : served.before.db.LinksOwned) :
    resends userId served = asksResend userId served := by
  obtain ⟨inner, ended, split, _, run⟩ := runs_serve_split valid.runs
  obtain ⟨request, before, trace, outcome, after⟩ := served
  cases request with
  | resendVerificationEmail dto =>
    obtain ⟨answered, rfl, runService⟩ := runs_wrapped run
    have mails : MailsLink userId inner ↔ _ := runs_resend_mails runService owned
    dsimp only at split
    subst split
    rw [Bool.eq_iff_iff]
    simp only [resends, asksResend, List.any_append, List.all_append, List.any_cons, List.any_nil,
      List.all_cons, List.all_nil, mailedLink, Except.isOk, Except.toBool, Bool.or_false,
      Bool.and_true, Bool.and_eq_true, List.any_eq_true, List.all_eq_true, beq_iff_eq, reduceCtorEq,
      Bool.or_eq_true, or_false]
    exact mails
  | _ => rfl

/-- In a run the mails that are resent in an hour are limited exactly when the calls are that ask
for them. -/
theorem resend_limited_iff (runtime : Runtime) (clock : Timestamp) (log : List ServiceServed)
    (state : State) (serial : SerialRun (service runtime) (State.empty clock) log state) :
    ResendLimited log ↔ FewResends log := by
  have same : state.db.LinksOwned ∧ ∀ userId, ∀ served ∈ log,
      resends userId served = asksResend userId served := by
    induction serial with
    | start =>
      exact ⟨⟨⟨List.nodup_nil, by simp [State.empty]⟩, ⟨List.nodup_nil, by simp [State.empty]⟩⟩,
        by simp⟩
    | @serve log served earlier valid inductionHypothesis =>
      obtain ⟨owned, same⟩ := inductionHypothesis
      exact ⟨serve_linksOwned valid.runs owned, fun userId =>
        List.forall_mem_cons.mpr ⟨resends_eq valid owned, same userId⟩⟩
  refine forall₂_congr fun userId start => ?_
  rw [List.countP_congr fun served member => by rw [same.2 userId served member]]

/-- Four calls ask for a mail in one hour. -/
theorem resend_limited_iff_four : ¬FewResends (playedSerially fourResends).1 := by
  intro few
  have limited := (resend_limited_iff legibleRuntime 0 _ _ (playedSerially_run fourResends)).mpr few
  exact absurd (limited 0 0) (by decide +kernel)

end GraconAuth
