/-
This file is about verified emails being owned emails: whenever an email
verification makes an account verified, the presented token had been mailed to the
address that is the account's email at that moment. An issuing call picks the
address, stores the token and mails it at different moments, so runs exist in which
another address is verified. It is the right one in the runs in which the account
keeps its email from the moment the issuing call picks the address to the moment the
link is followed.
-/

import GraconAuth.VerificationLinks

namespace GraconAuth

open Interleaving Program Rows

variable (runtime : Runtime)

/-! ### Reading a history -/

/-- The link of an email verification that has written the account. -/
def verifies (entry : ServiceEntry) : Option UsersService.VerifyEmailDto :=
  match entry.request, executed entry.event with
  | .verifyEmail dto, .userUpdate _ _ :: _ => some dto
  | _, _ => none

/-- The account with this id is not verified yet. -/
def Database.Unverified (db : Database) (userId : UserId) : Prop :=
  ∃ row ∈ db.users, row.id = userId ∧ row.isVerified = false

instance (db : Database) (userId : UserId) : Decidable (db.Unverified userId) :=
  inferInstanceAs (Decidable (∃ row ∈ _, _))

/-- The account with this id has this email. -/
def Database.Addressed (db : Database) (userId : UserId) (email : Email) : Prop :=
  ∃ row ∈ db.users, row.id = userId ∧ row.email = email

instance (db : Database) (userId : UserId) (email : Email) :
    Decidable (db.Addressed userId email) :=
  inferInstanceAs (Decidable (∃ row ∈ _, _))

/-- A verification link with this token has been mailed. -/
def Mailed (state : State) (token : RawToken) (holds : Email → Prop) : Prop :=
  ∃ mail ∈ state.outbox, mail.template = .emailVerification ∧ mail.token = some token ∧
    holds mail.recipient

instance (state : State) (token : RawToken) (holds : Email → Prop) [DecidablePred holds] :
    Decidable (Mailed state token holds) :=
  inferInstanceAs (Decidable (∃ mail ∈ _, _))

/-- A verified email is an owned email: an account becomes verified by a token that had been
mailed to its address. -/
def OwnedEmails (world : ServiceWorld) : Prop :=
  ∀ entry ∈ world.history, ∀ dto ∈ verifies entry, entry.before.db.Unverified dto.userId →
    Mailed entry.before dto.token (entry.before.db.Addressed dto.userId)

instance (world : ServiceWorld) : Decidable (OwnedEmails world) :=
  inferInstanceAs (Decidable (∀ entry ∈ _, _))

/-! ### A run in which another address is verified -/

/-- Random tokens are distinct, and a token that leads to a verification has been received by
mail: it cannot be guessed. -/
def Received (world : ServiceWorld) (entry : ServiceEntry) : Prop :=
  Distinct runtime world entry ∧
    ∀ dto ∈ verifies entry, Mailed world.state dto.token fun _ => True

instance (world : ServiceWorld) (entry : ServiceEntry) : Decidable (Received runtime world entry) :=
  inferInstanceAs (Decidable (_ ∧ _))

/-- The runs in which links are only known from mails. -/
def received : Regime State Effect.Reply Failure Request where
  admits _ := True
  permits := Received runtime

instance (request : Request) : Decidable ((received runtime).admits request) := .isTrue trivial

instance (world : ServiceWorld) (entry : ServiceEntry) :
    Decidable ((received runtime).permits world entry) :=
  inferInstanceAs (Decidable (Received runtime world entry))

/-- Two changes of the email cross: the account ends with the address `c@x` and with the token
that is mailed to `b@x`. -/
def crossedChanges : List ServiceMove :=
  signedIn ++
  .accept (.updateProfile ⟨⟨0, "a@x", some .full⟩, "15m"⟩ ⟨some "b@x", none⟩) ::
  .accept (.updateProfile ⟨⟨0, "a@x", some .full⟩, "15m"⟩ ⟨some "c@x", none⟩) ::
    steps 3 [{}, {}, {}] ++ steps 4 [{}, {}, {}] ++ steps 3 [{}] ++
    steps 4 [{}, { text := "r2" }, {}, {}, {}] ++ steps 3 [{ text := "r3" }, {}, {}, {}] ++
  .accept (.verifyEmail ⟨0, "r3"⟩) :: steps 5 [{}, {}, {}]

/-- A verified email is not an owned email in every run. -/
theorem emails_not_owned :
    ¬ ∀ (runtime : Runtime) (clock : Timestamp) (pool : ServicePool),
      Reachable (service runtime) (received runtime) (State.empty clock) pool →
        OwnedEmails pool.world := by
  intro owned
  have crossed := owned legibleRuntime 0 _
    (played_reachable (Referee.strict_upholds (received legibleRuntime)) crossedChanges)
  exact absurd crossed (by decide +kernel)

/-! ### The runs in which the address is right -/

/-- The statement changes the email of the account. -/
def Statement.readdresses (userId : UserId) : Statement → Bool
  | .userUpdate id data => id == userId && data.email.isSome
  | _ => false

/-- The entry has changed the email of the account. -/
def Readdresses (entry : ServiceEntry) (userId : UserId) : Prop :=
  ∃ statement ∈ executed entry.event, statement.readdresses userId = true

instance (entry : ServiceEntry) (userId : UserId) : Decidable (Readdresses entry userId) :=
  inferInstanceAs (Decidable (∃ statement ∈ _, _))

/-- The token of the verification link that the event has mailed. -/
def mailedToken : ServiceEvent → Option RawToken
  | ⟨.sendMail mail, .ok _⟩ => if mail.template = .emailVerification then mail.token else none
  | _ => none

/-- The email of the account has not changed since a call that has mailed the token picked the
address. -/
def Kept (world : ServiceWorld) (userId : UserId) (token : RawToken) : Prop :=
  ∀ sending ∈ world.history, mailedToken sending.event = some token →
    world.history.Pairwise fun newer older =>
      older.thread = sending.thread → (picks older.request older.event).isSome = true →
        ¬Readdresses newer userId

instance (world : ServiceWorld) (userId : UserId) (token : RawToken) :
    Decidable (Kept world userId token) :=
  inferInstanceAs (Decidable (∀ sending ∈ _, _))

/-- The runs in which links are only known from mails, and an account that is verified has kept
its email since the address was picked. -/
def kept : Regime State Effect.Reply Failure Request where
  admits _ := True
  permits world entry := Received runtime world entry ∧
    ∀ dto ∈ verifies entry, entry.before.db.Unverified dto.userId →
      Kept world dto.userId dto.token

instance (request : Request) : Decidable ((kept runtime).admits request) := .isTrue trivial

instance (world : ServiceWorld) (entry : ServiceEntry) :
    Decidable ((kept runtime).permits world entry) :=
  inferInstanceAs (Decidable (_ ∧ _))

section Addresses

variable {runtime} {regime : Regime State Effect.Reply Failure Request} {clock : Timestamp}
  {world : ServiceWorld} {entry : ServiceEntry} {userId : UserId} {email : Email}

/-- An account keeps its email unless it is changed. -/
theorem performs_addressed
    (performs : environment.Performs entry.before entry.effect entry.reply entry.after)
    (addressed : entry.before.db.Addressed userId email) (same : ¬Readdresses entry userId) :
    entry.after.db.Addressed userId email := by
  rcases performs_db performs with
    unchanged | ⟨statements, event, ran⟩ | ⟨data, _, ran⟩ | ⟨log, logged⟩
  · rw [unchanged]
    exact addressed
  · refine runAll_preserves (fun db => db.Addressed userId email) ran ?_ addressed
    rintro statement listed now later ⟨row, stored, owner, held⟩ carried
    cases carried with
    | userUpdate id data present free =>
      refine ⟨_, mem_updateWhere.mpr ⟨row, stored, rfl⟩, ?_⟩
      split
      · rename_i matched
        refine ⟨owner, ?_⟩
        -- A change of the email would be one of this account.
        cases given : data.email with
        | none => rw [apply_email, given, Option.getD_none, held]
        | some address =>
          refine absurd ⟨.userUpdate id data, ?_, ?_⟩ same
          · rw [show entry.event = _ from event]
            exact listed
          · simp [Statement.readdresses, given, ← owner, beq_iff_eq.mp matched]
      · exact ⟨owner, held⟩
    | _ => exact ⟨row, stored, owner, held⟩
  · obtain ⟨_, ⟨user, users, _⟩, _⟩ := register_tables ran
    obtain ⟨row, stored, owner, held⟩ := addressed
    exact ⟨row, by rw [users]; exact List.mem_append_left _ stored, owner, held⟩
  · rw [logged]
    exact addressed

/-- When an address is picked for an account it is the account's email. -/
theorem addressed_of_picks
    (performs : environment.Performs entry.before entry.effect entry.reply entry.after)
    (picked : (userId, email) ∈ picks entry.request entry.event) :
    entry.after.db.Addressed userId email := by
  unfold picks at picked
  split at picked
  · rename_i data id _ event
    cases picked
    obtain ⟨rfl, ran⟩ := performs_registerTransaction (performs_event performs event)
    obtain ⟨_, ⟨user, users, same, address, _⟩, _⟩ := register_tables ran
    exact ⟨user, by rw [users]; exact List.mem_append_right _ (List.mem_singleton.mpr rfl), same,
      address⟩
  · rename_i filter record _ event
    cases picked
    have found := performs_userFindUnique (performs_event performs event)
    obtain ⟨user, foundUser, rfl⟩ := Option.map_eq_some_iff.mp found.symm
    refine performs_addressed performs ⟨user, List.mem_of_find?_eq_some foundUser, rfl, rfl⟩ ?_
    rintro ⟨statement, listed, _⟩
    rw [event] at listed
    cases listed
  · rename_i id data reply _ event
    obtain ⟨address, given, same⟩ := Option.map_eq_some_iff.mp picked
    cases same
    rcases performs_execute (performs_event performs event) with ⟨_, ran⟩ | ⟨⟨_, failed⟩, _⟩
    · generalize entry.after.db = after at ran ⊢
      cases runAll_singleton ran with
      | userUpdate id data present free =>
        obtain ⟨row, stored, rfl⟩ := present
        refine ⟨_, mem_updateWhere.mpr ⟨row, stored, rfl⟩, ?_⟩
        rw [if_pos (beq_self_eq_true _), apply_id, apply_email, given]
        exact ⟨rfl, rfl⟩
    · cases failed
  · cases picked

variable (chronicle : Chronicle (service runtime) regime
  (fun request => conduct (linked runtime request)) (State.empty clock) world)

include chronicle

/-- An address that was picked for an account is its email as long as that has not changed. -/
theorem addressed_since {newer older : List ServiceEntry} {pick : ServiceEntry}
    (split : world.history = newer ++ pick :: older)
    (picked : (userId, email) ∈ picks pick.request pick.event)
    (same : ∀ entry ∈ newer, ¬Readdresses entry userId) :
    world.state.db.Addressed userId email := by
  refine chronicle.invariant (fun world => ∀ newer older pick,
      world.history = newer ++ pick :: older →
      (userId, email) ∈ picks pick.request pick.event →
      (∀ entry ∈ newer, ¬Readdresses entry userId) → world.state.db.Addressed userId email)
    ?_ ?_ newer older pick split picked same
  · intro newer older pick split
    simp at split
  · intro world entry _ since admissible newer older pick split picked same
    cases newer with
    | nil =>
      obtain ⟨rfl, _⟩ := List.cons.inj split
      exact addressed_of_picks admissible.performs picked
    | cons head rest =>
      obtain ⟨rfl, splitRest⟩ := List.cons.inj split
      have before := since rest older pick splitRest picked fun other member =>
        same other (List.mem_cons_of_mem _ member)
      rw [← admissible.current] at before
      exact performs_addressed admissible.performs before (same entry List.mem_cons_self)

/-- A mail in the outbox was sent. -/
theorem sent_of_outbox {mail : Mail} (member : mail ∈ world.state.outbox) :
    ∃ sending ∈ world.history, sending.event = ⟨.sendMail mail, .ok ()⟩ := by
  refine chronicle.invariant (fun world => ∀ mail ∈ world.state.outbox,
    ∃ sending ∈ world.history, sending.event = ⟨.sendMail mail, .ok ()⟩) (by simp [State.empty]) ?_
    mail member
  intro world entry _ sent admissible mail member
  rcases performs_outbox admissible.performs with same | ⟨other, event, same⟩
  · rw [World.record_state, same, admissible.current] at member
    obtain ⟨sending, recorded, event⟩ := sent mail member
    exact ⟨sending, List.mem_cons_of_mem _ recorded, event⟩
  · rw [World.record_state, same, admissible.current] at member
    rcases List.mem_cons.mp member with rfl | old
    · exact ⟨entry, List.mem_cons_self, event⟩
    · obtain ⟨sending, recorded, event⟩ := sent mail old
      exact ⟨sending, List.mem_cons_of_mem _ recorded, event⟩

/-- A verification checks its token against the link that was stored for the account. -/
theorem stored_of_verifies
    (admissible : Admissible (service runtime) regime
      (fun request => conduct (linked runtime request)) world entry)
    {dto : UsersService.VerifyEmailDto} (verified : dto ∈ verifies entry) :
    ∃ store ∈ world.history, (dto.userId, runtime.hash dto.token) ∈ storedLinks store.event := by
  have ruled : linked runtime entry.request (world.past entry.thread) entry.effect :=
    admissible.ruled
  unfold verifies at verified
  split at verified
  · rename_i id data rest requested carriedOut
    cases verified
    rw [show entry.effect = _ from congrArg Event.effect (event_of_executed carriedOut)] at ruled
    obtain ⟨_, _, tokenRecord, record, checked, _, _, hash⟩ :=
      ruled _ List.mem_cons_self dto requested
    obtain ⟨read, memberRead, _, found⟩ := World.mem_past.mp checked
    obtain ⟨earlier, chronicleRead, admissibleRead, kept⟩ := chronicle.recalls memberRead
    have performs : environment.Performs read.before read.effect read.reply read.after :=
      admissibleRead.performs
    obtain ⟨stored, owner, _⟩ := findEmailVerificationTokenWithUser_some
      (performs_emailVerificationTokenFindUnique (performs_event performs found)).symm
    rw [admissibleRead.current] at stored
    obtain ⟨store, recorded, link⟩ := link_stored chronicleRead stored
    rw [owner, ← hash] at link
    exact ⟨store, kept recorded, link⟩
  · cases verified

/-- A mailed link was stored for the account its address was picked for. -/
theorem mailable_of_sent {sending : ServiceEntry} (member : sending ∈ world.history) {mail : Mail}
    (sent : sending.event = ⟨.sendMail mail, .ok ()⟩)
    (verification : mail.template = .emailVerification)
    {token : RawToken} (held : mail.token = some token) :
    ∃ userId, (∃ pick ∈ world.history, pick.thread = sending.thread ∧
        (userId, mail.recipient) ∈ picks pick.request pick.event) ∧
      ∃ store ∈ world.history, storedLinks store.event = [(userId, runtime.hash token)] := by
  obtain ⟨earlier, _, admissible, kept⟩ := chronicle.recalls member
  have ruled : linked runtime sending.request (earlier.past sending.thread) sending.effect :=
    admissible.ruled
  rw [show sending.effect = _ from congrArg Event.effect sent] at ruled
  obtain ⟨userId, other, _, heldToo, ⟨event, past, picked⟩, store, pastStore, stored⟩ :=
    ruled verification
  obtain rfl : token = other := Option.some.inj (held.symm.trans heldToo)
  obtain ⟨pick, memberPick, thread, rfl⟩ := World.mem_past.mp past
  obtain ⟨store, memberStore, _, rfl⟩ := World.mem_past.mp pastStore
  rw [← admissible.owned pick memberPick thread] at picked
  exact ⟨userId, ⟨pick, kept memberPick, thread, picked⟩, store, kept memberStore, stored⟩

end Addresses

/-- In every run in which accounts keep their email until the link is followed, whatever the
interleaving, a verified email is an owned email. -/
theorem emails_owned_of_kept (runtime : Runtime) (clock : Timestamp) (pool : ServicePool)
    (reachable : Reachable (service runtime) (kept runtime) (State.empty clock) pool) :
    OwnedEmails pool.world := by
  have chronicle := reachable_chronicle (linked runtime) reachable
    fun request _ => serve_linked runtime request
  intro entry member dto verified unverified
  obtain ⟨world, chronicle, admissible, _⟩ := chronicle.recalls member
  have permitted : (kept runtime).permits world entry := admissible.permitted
  obtain ⟨⟨_, presented⟩, undisturbed⟩ := permitted
  obtain ⟨mail, delivered, verification, held, _⟩ := presented dto verified
  obtain ⟨sending, memberSending, sent⟩ := sent_of_outbox chronicle delivered
  obtain ⟨userId, ⟨pick, memberPick, thread, picked⟩, store, memberStore, stored⟩ :=
    mailable_of_sent chronicle memberSending sent verification held
  obtain ⟨other, memberOther, storedOther⟩ := stored_of_verifies chronicle admissible verified
  -- The hash was stored once, so the mailed link is the account's own.
  obtain rfl : userId = dto.userId := by
    have distinct : ∀ world entry, (kept runtime).permits world entry →
        Distinct runtime world entry := fun _ _ permitted => permitted.1.1
    have listed : (userId, runtime.hash dto.token) ∈ storedLinks store.event := by
      simp [stored]
    have unique := store_unique distinct chronicle memberStore memberOther listed storedOther rfl
    rw [← unique, stored, List.mem_singleton] at storedOther
    exact (congrArg Prod.fst storedOther).symm
  obtain ⟨newer, older, split⟩ := List.append_of_mem memberPick
  have pairs := undisturbed dto verified unverified sending memberSending
    (by simp [sent, mailedToken, verification, held])
  rw [split, List.pairwise_append] at pairs
  have same : ∀ entry ∈ newer, ¬Readdresses entry dto.userId := fun entry newest =>
    pairs.2.2 entry newest pick List.mem_cons_self thread (by rw [picked]; rfl)
  rw [admissible.current]
  exact ⟨mail, delivered, verification, held, addressed_since chronicle split picked same⟩

/-- The user changes the email and verifies the new one. -/
def changedEmail : List ServiceMove :=
  signedIn ++
  .accept (.updateProfile ⟨⟨0, "a@x", some .full⟩, "15m"⟩ ⟨some "b@x", none⟩) ::
    steps 3 [{}, {}, {}, {}, { text := "r2" }, {}, {}, {}] ++
  .accept (.verifyEmail ⟨0, "r2"⟩) :: steps 4 [{}, {}, {}]

/-- That run is one of them: the account is verified twice, with two addresses it owns. -/
theorem emails_owned_of_kept_changed :
    (played (.strict (kept legibleRuntime)) changedEmail).world.history.reverse.filterMap
        (fun entry => (verifies entry).map (·.token)) = ["r0", "r2"] ∧
      OwnedEmails (played (.strict (kept legibleRuntime)) changedEmail).world :=
  ⟨by decide +kernel, emails_owned_of_kept legibleRuntime 0 _
    (played_reachable (Referee.strict_upholds (kept legibleRuntime)) changedEmail)⟩

end GraconAuth
