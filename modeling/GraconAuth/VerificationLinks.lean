/-
This file follows an email verification link from the token that is drawn for it,
over the hash that is stored and the mail that is sent, to the call that presents
it. Random tokens are taken to be distinct, and so are their digests: two calls
never store the same hash, so a stored hash names the call that has issued it.
-/

import GraconAuth.Footprints
import GraconAuth.Tables

namespace GraconAuth

open Interleaving Program Rows

variable (runtime : Runtime)

/-! ### What a call has done about a link -/

/-- The account and the address that an issuing call has picked with the event: what a
registration and a change of profile write, and what a resend reads. -/
def picks : Request → ServiceEvent → Option (UserId × Email)
  | .register _, ⟨.registerTransaction data, .ok userId⟩ => some (userId, data.email)
  | .resendVerificationEmail _, ⟨.userFindUnique _, .ok (some record)⟩ =>
    some (record.user.id, record.user.email)
  | .updateProfile _ _, ⟨.execute [.userUpdate userId data], .ok _⟩ => data.email.map (userId, ·)
  | _, _ => none

/-- No link has been stored yet. -/
def Storeless (past : List ServiceEvent) : Prop :=
  ∀ event ∈ past, storedLinks event = []

/-- The token with this hash has been drawn, and no link has been stored yet. -/
def Issued (past : List ServiceEvent) (tokenHash : TokenHash) : Prop :=
  (∃ event ∈ past, ∃ token ∈ drew event, runtime.hash token = tokenHash) ∧ Storeless past

/-- The presented token was compared with the stored one of this id, which was unused when it
was read. -/
def Checked (dto : UsersService.VerifyEmailDto) (past : List ServiceEvent) (id : RowId) : Prop :=
  ∃ tokenRecord record,
    ⟨.emailVerificationTokenFindUnique dto.userId, .ok (some (tokenRecord, record))⟩ ∈ past ∧
      tokenRecord.id = id ∧ tokenRecord.used = false ∧
      runtime.hash dto.token = tokenRecord.tokenHash

/-- The address of the mail was picked for the account, and its token was stored for it. -/
def Mailable (request : Request) (past : List ServiceEvent) (mail : Mail) : Prop :=
  ∃ userId token, mail.userId = some userId ∧ mail.token = some token ∧
    (∃ event ∈ past, picks request event = some (userId, mail.recipient)) ∧
    ∃ event ∈ past, storedLinks event = [(userId, runtime.hash token)]

/-- What has been done before a statement is carried out. -/
def lawful (request : Request) (past : List ServiceEvent) : Statement → Prop
  | .emailVerificationTokenUpsert _ tokenHash _ _ =>
    Issued runtime past tokenHash ∧ ∀ dto, request ≠ .verifyEmail dto
  | .emailVerificationTokenUpdate id =>
    ∃ dto, request = .verifyEmail dto ∧ Checked runtime dto past id
  | .userUpdate userId _ => ∀ dto, request = .verifyEmail dto →
    userId = dto.userId ∧ ∃ id, Checked runtime dto past id
  | .refreshTokenCreate _ => ∀ dto, request = .verifyEmail dto →
    ∃ event ∈ past, ∃ id, .emailVerificationTokenUpdate id ∈ executed event
  | _ => True

/-- A call stores at most one link, after it has drawn its token, and mails it after both; an
email is verified after the check, and a session minted after the verification. -/
def linked (request : Request) (past : List ServiceEvent) : Effect → Prop
  | .registerTransaction data => Issued runtime past data.tokenHash
  | .execute statements => ∀ statement ∈ statements, lawful runtime request past statement
  | .sendMail mail => mail.template = .emailVerification → Mailable runtime request past mail
  | _ => True

/-! ### Every call keeps to the rule -/

theorem Storeless.cons {past : List ServiceEvent} (storeless : Storeless past)
    {event : ServiceEvent} (stores : storedLinks event = []) : Storeless (event :: past) := by
  intro other member
  rcases List.mem_cons.mp member with rfl | old
  · exact stores
  · exact storeless other old

theorem harmless_storeless {event : ServiceEvent} (harmless : event.effect.Harmless) :
    storedLinks event = [] := by
  unfold storedLinks
  split
  · exact harmless.elim
  · exact harmless.elim
  · rfl

theorem Storeless.grown {past now : List ServiceEvent} (storeless : Storeless past)
    (grown : Extends Effect.Harmless past now) : Storeless now := by
  intro event member
  rcases grown.mem_or member with old | harmless
  · exact storeless event old
  · exact harmless_storeless harmless

theorem harmless_linked {request : Request} (past : List ServiceEvent) (effect : Effect)
    (harmless : effect.Harmless) : linked runtime request past effect := by
  cases effect with
  | sendMail mail => exact fun verification => absurd verification harmless
  | execute statements => exact harmless.elim
  | registerTransaction data => exact harmless.elim
  | _ => trivial

section Traversal

variable {request : Request} {past : List ServiceEvent}

theorem replaceVerificationToken_linked (userId : UserId) (recipient : Email)
    (identity : Option CitizenIdentityRow) (other : ∀ dto, request ≠ .verifyEmail dto)
    (storeless : Storeless past)
    (picked : ∃ event ∈ past, picks request event = some (userId, recipient)) :
    (UsersService.replaceVerificationToken runtime userId recipient identity).Abides
      (conduct (linked runtime request)) past := by
  obtain ⟨pick, member, picked⟩ := picked
  refine abides_perform_bind trivial fun rawToken _ => abides_perform_bind trivial fun now _ =>
    abides_perform_bind ?_ fun _ _ => abides_rescue (abides_perform fun _ => ?_) fun _ _ => trivial
  · intro statement listed
    obtain rfl := List.mem_singleton.mp listed
    exact ⟨⟨⟨_, List.mem_cons_of_mem _ List.mem_cons_self, rawToken, rfl, rfl⟩,
      (storeless.cons rfl).cons rfl⟩, other⟩
  · exact ⟨userId, rawToken, rfl, rfl, ⟨pick, by simp [member], picked⟩, _, List.mem_cons_self,
      rfl⟩

theorem register_linked (dto : UsersService.RegisterDto) (storeless : Storeless past) :
    (UsersService.register runtime dto).Abides (conduct (linked runtime (.register dto)))
      past := by
  refine (assertExclusiveIdentityInput_uses dto).abides_bind (harmless_linked runtime)
    fun _ _ grown => (resolveRegistrationIdentity_uses dto).abides_bind (harmless_linked runtime)
    fun _ identity grownToo => ?_
  have storeless := (storeless.grown grown).grown grownToo
  refine abides_perform_bind trivial fun existingEmail _ => abides_throwIf_bind fun _ =>
    abides_perform_bind trivial fun existingIdentity _ => abides_throwIf_bind fun _ => ?_
  have storeless : Storeless (⟨.citizenIdentityFindFirst _ _, .ok existingIdentity⟩ ::
      ⟨.userFindUnique _, .ok existingEmail⟩ :: _) := (storeless.cons rfl).cons rfl
  refine (bcryptHash_uses runtime _).abides_bind (harmless_linked runtime)
    fun _ _ grown => (encrypt_uses runtime _).abides_bind (harmless_linked runtime)
    fun _ _ grownToo => (generate_uses runtime _).abides_bind (harmless_linked runtime)
    fun _ rawPid grownThree => (encrypt_uses runtime _).abides_bind (harmless_linked runtime)
    fun _ _ grownFour => ?_
  have storeless := (((storeless.grown grown).grown grownToo).grown grownThree).grown grownFour
  refine abides_perform_bind trivial fun rawToken _ => abides_perform_bind trivial fun now _ =>
    abides_rescue_perform_bind ?_ (fun userId => ?_) fun _ => trivial
  · exact ⟨⟨_, List.mem_cons_of_mem _ List.mem_cons_self, rawToken, rfl, rfl⟩,
      (storeless.cons rfl).cons rfl⟩
  · refine Abides.bind (abides_rescue (abides_perform fun _ => ?_) fun _ _ => trivial)
      fun _ _ => trivial
    exact ⟨userId, rawToken, rfl, rfl, ⟨_, List.mem_cons_self, rfl⟩, _, List.mem_cons_self,
      rfl⟩

theorem resendVerificationEmail_linked (dto : UsersService.ResendVerificationDto)
    (storeless : Storeless past) :
    (UsersService.resendVerificationEmail runtime dto).Abides
      (conduct (linked runtime (.resendVerificationEmail dto))) past := by
  unfold UsersService.resendVerificationEmail
  split
  · trivial
  · refine abides_perform_bind trivial fun user _ => ?_
    cases user with
    | none => trivial
    | some record =>
      dsimp only
      split
      · trivial
      · refine abides_perform_bind trivial fun now _ =>
          abides_perform_bind trivial fun recentTokenCount _ => ?_
        split
        · trivial
        · refine Abides.bind (replaceVerificationToken_linked runtime _ _ _ (by simp)
            (((storeless.cons rfl).cons rfl).cons rfl) ?_) fun _ _ => trivial
          exact ⟨_, List.mem_cons_of_mem _ (List.mem_cons_of_mem _ List.mem_cons_self), rfl⟩

theorem updateProfile_linked (jwt : Jwt) (userId : UserId) (dto : UsersService.UpdateProfileDto)
    (storeless : Storeless past) :
    (UsersService.updateProfile runtime userId dto).Abides
      (conduct (linked runtime (.updateProfile jwt dto))) past := by
  have profile : ∀ now, (UsersService.getProfile runtime userId).Abides
      (conduct (linked runtime (.updateProfile jwt dto))) now :=
    fun _ => (getProfile_uses runtime userId).abides (harmless_linked runtime)
  have update : ∀ now data, linked runtime (.updateProfile jwt dto) now
      (.execute [.userUpdate userId data]) := by
    intro now data statement listed
    obtain rfl := List.mem_singleton.mp listed
    exact nofun
  refine abides_perform_bind trivial fun user _ => ?_
  cases user with
  | none => trivial
  | some record =>
    dsimp only
    split
    · exact abides_perform_bind (update _ _) fun _ _ => profile _
    · rename_i email _
      refine (rejectTakenEmail_uses userId email).abides_bind (harmless_linked runtime)
        fun now _ grown => abides_perform_bind (update _ _) fun _ _ =>
          Abides.bind (replaceVerificationToken_linked runtime _ _ _ (by simp) ?_ ?_) fun now _ =>
            profile now
      · exact ((storeless.cons rfl).grown grown).cons rfl
      · exact ⟨_, List.mem_cons_self, rfl⟩

theorem verifyEmail_linked (dto : UsersService.VerifyEmailDto) :
    (UsersService.verifyEmail runtime dto).Abides (conduct (linked runtime (.verifyEmail dto)))
      past := by
  refine abides_perform_bind trivial fun found _ => ?_
  match found with
  | none => trivial
  | some (tokenRecord, record) =>
    dsimp only
    split
    · trivial
    · refine abides_throwIf_bind fun unused => abides_perform_bind trivial fun now _ =>
        abides_throwIf_bind fun _ => abides_throwIf_bind fun matched => abides_perform_bind ?_
          fun _ _ => ?_
      · have checked : Checked runtime dto (⟨.now, .ok now⟩ ::
            ⟨.emailVerificationTokenFindUnique dto.userId, .ok (some (tokenRecord, record))⟩ ::
            past) tokenRecord.id :=
          ⟨tokenRecord, record, by simp, rfl, unused,
            by simpa [EncryptionService.compareHash] using matched⟩
        intro statement listed
        simp only [List.mem_cons, List.not_mem_nil, or_false] at listed
        rcases listed with rfl | rfl
        · rintro _ ⟨⟩
          exact ⟨rfl, _, checked⟩
        · exact ⟨dto, rfl, checked⟩
      · refine (decryptPid_uses runtime record).abides_bind (harmless_linked runtime)
          fun _ _ grown => (sendWelcomeEmail_uses _ _ _ _).abides_bind (harmless_linked runtime)
          fun _ _ grownToo => ?_
        split
        · trivial
        · refine Abides.bind ?_ fun _ _ => Abides.bind
            ((buildVerificationSessionProfile_uses runtime record).abides (harmless_linked runtime))
            fun _ _ => trivial
          refine abides_perform_bind trivial fun _ _ => abides_perform_bind trivial fun _ _ =>
            abides_perform_bind trivial fun _ _ => abides_perform_bind ?_ fun _ _ => trivial
          intro statement listed
          obtain rfl := List.mem_singleton.mp listed
          -- The verification is in the past, below what has happened since.
          intro _ _
          have committed := grownToo.mem (grown.mem List.mem_cons_self)
          exact ⟨_, List.mem_cons_of_mem _ (List.mem_cons_of_mem _ (List.mem_cons_of_mem _
            committed)), tokenRecord.id, by simp [executed]⟩

end Traversal

/-- The requests that store, mail or follow a verification link. -/
def Request.handlesLinks : Request → Bool
  | .register _ | .verifyEmail _ | .resendVerificationEmail _ | .updateProfile _ _ => true
  | _ => false

/-- A request that has nothing to do with links keeps to the rule by its footprint. -/
theorem awaits_linked {request : Request} (linkless : request.handlesLinks = false)
    (past : List ServiceEvent) (effect : Effect) (awaits : request.Awaits effect) :
    linked runtime request past effect := by
  have apart : ∀ dto, request ≠ .verifyEmail dto := by
    rintro dto rfl
    cases linkless
  cases effect with
  | registerTransaction _ | sendMail _ =>
    cases request with
    | register _ | verifyEmail _ | resendVerificationEmail _ | updateProfile _ _ => cases linkless
    | _ => simp [Request.Awaits, Effect.Rotates, Effect.Issues] at awaits
  | execute statements =>
    intro statement listed
    have writes := awaits_writes awaits statement listed
    cases statement with
    | emailVerificationTokenUpsert _ _ _ _ | emailVerificationTokenUpdate _ =>
      cases request <;> first | exact writes.elim | cases linkless
    | userUpdate _ _ | refreshTokenCreate _ => exact fun dto same => absurd same (apart dto)
    | _ => trivial
  | _ => trivial

/-- Every call keeps to the rule. -/
theorem serve_linked (request : Request) :
    (serve runtime request).Abides (conduct (linked runtime request)) [] := by
  refine serve_abides runtime request (harmless_linked runtime) (fun _ _ => trivial)
    fun past userId grown => ?_
  have blank : Storeless [] := by simp [Storeless]
  have storeless : Storeless past := blank.grown grown
  cases handles : request.handlesLinks with
  | false =>
    exact handle_abides runtime _ userId (harmless_linked runtime) (awaits_linked runtime handles)
  | true =>
    cases request with
    | register dto => exact (register_linked runtime dto storeless).bind fun _ _ => trivial
    | verifyEmail dto => exact (verifyEmail_linked runtime dto).bind fun _ _ => trivial
    | resendVerificationEmail dto =>
      exact (resendVerificationEmail_linked runtime dto storeless).bind fun _ _ => trivial
    | updateProfile jwt dto =>
      exact (updateProfile_linked runtime jwt userId dto storeless).bind fun _ _ => trivial
    | _ => cases handles

/-! ### Distinct draws -/

/-- A token that is drawn differs from every token drawn before, and so does its digest. -/
def Distinct (world : ServiceWorld) (entry : ServiceEntry) : Prop :=
  ∀ token ∈ drew entry.event, runtime.hash token ∉ world.state.drawn.map runtime.hash

instance (world : ServiceWorld) (entry : ServiceEntry) : Decidable (Distinct runtime world entry) :=
  inferInstanceAs (Decidable (∀ token ∈ drew entry.event, _))

/-- The runs in which random tokens are distinct. -/
def distinct : Regime State Effect.Reply Failure Request where
  admits _ := True
  permits := Distinct runtime

instance (request : Request) : Decidable ((distinct runtime).admits request) := .isTrue trivial

instance (world : ServiceWorld) (entry : ServiceEntry) :
    Decidable ((distinct runtime).permits world entry) :=
  inferInstanceAs (Decidable (Distinct runtime world entry))

section Chronicles

variable {runtime} {regime : Regime State Effect.Reply Failure Request} {clock : Timestamp}
  {world : ServiceWorld} {entry : ServiceEntry}

/-- Two draws with one digest are one draw. -/
theorem draw_unique {rule : Request → ServiceConduct}
    (distinct : ∀ world entry, regime.permits world entry → Distinct runtime world entry)
    (chronicle : Chronicle (service runtime) regime rule (State.empty clock) world)
    {first second : ServiceEntry} (memberFirst : first ∈ world.history)
    (memberSecond : second ∈ world.history) {one two : RawToken}
    (drewFirst : one ∈ drew first.event)
    (drewSecond : two ∈ drew second.event) (same : runtime.hash one = runtime.hash two) :
    first = second := by
  refine chronicle.once (fun entry hash => ∃ token ∈ drew entry.event,
      runtime.hash token = hash) (fun hash world =>
      hash ∈ world.state.drawn.map runtime.hash) ?_ ?_ memberFirst memberSecond
    ⟨one, drewFirst, rfl⟩ ⟨two, drewSecond, same.symm⟩
  · rintro world entry _ _ admissible ⟨token, drawn, rfl⟩
    refine ⟨distinct world entry admissible.permitted token drawn, ?_⟩
    have performs : environment.Performs entry.before entry.effect entry.reply entry.after :=
      admissible.performs
    obtain ⟨text, same, grown⟩ :=
      performs_randomToken (performs_event performs (event_of_drew drawn))
    cases same
    rw [World.record_state, grown]
    exact List.mem_cons_self
  · intro world entry hash _ admissible drawn
    rw [← admissible.current] at drawn
    rw [World.record_state]
    rcases performs_drawn admissible.performs with same | ⟨text, _, same⟩
    · rw [same]
      exact drawn
    · rw [same]
      exact List.mem_cons_of_mem _ drawn

variable (distinct : ∀ world entry, regime.permits world entry → Distinct runtime world entry)
  (chronicle : Chronicle (service runtime) regime (fun request => conduct (linked runtime request))
    (State.empty clock) world)

/-- A call that stores a link has drawn its token, and has stored no other before. -/
theorem issued_of_stored
    (admissible : Admissible (service runtime) regime
      (fun request => conduct (linked runtime request)) world entry)
    {link : UserId × TokenHash} (stored : link ∈ storedLinks entry.event) :
    Issued runtime (world.past entry.thread) link.2 := by
  have ruled : linked runtime entry.request (world.past entry.thread) entry.effect :=
    admissible.ruled
  unfold storedLinks at stored
  split at stored
  · rename_i statements reply event
    obtain ⟨statement, listed, link⟩ := List.mem_filterMap.mp stored
    rw [show entry.effect = _ from congrArg Event.effect event] at ruled
    have lawful := ruled statement listed
    unfold Statement.link at link
    split at link
    · cases link
      exact lawful.1
    · cases link
  · rename_i data userId event
    obtain rfl := List.mem_singleton.mp stored
    rw [show entry.effect = _ from congrArg Event.effect event] at ruled
    exact ruled
  · cases stored

include distinct chronicle

/-- The hash that an entry stores has not been stored before. -/
theorem store_fresh
    (admissible : Admissible (service runtime) regime
      (fun request => conduct (linked runtime request)) world entry)
    {link : UserId × TokenHash} (stored : link ∈ storedLinks entry.event)
    {older : ServiceEntry} (member : older ∈ world.history) {other : UserId × TokenHash}
    (storedOther : other ∈ storedLinks older.event) : link.2 ≠ other.2 := by
  intro same
  -- Both calls have drawn the token, so they are one call, which stores only once.
  obtain ⟨⟨event, past, token, drawn, hash⟩, storeless⟩ := issued_of_stored admissible stored
  obtain ⟨earlier, _, admissibleOlder, kept⟩ := chronicle.recalls member
  obtain ⟨⟨eventOlder, pastOlder, tokenOlder, drawnOlder, hashOlder⟩, _⟩ :=
    issued_of_stored admissibleOlder storedOther
  obtain ⟨draw, memberDraw, thread, rfl⟩ := World.mem_past.mp past
  obtain ⟨drawOlder, memberDrawOlder, threadOlder, rfl⟩ := World.mem_past.mp pastOlder
  obtain rfl := draw_unique distinct chronicle memberDraw (kept memberDrawOlder) drawn drawnOlder
    (hash.trans (same.trans hashOlder.symm))
  have none := storeless older.event
    (World.mem_past.mpr ⟨older, member, threadOlder.symm.trans thread, rfl⟩)
  rw [none] at storedOther
  cases storedOther

/-- A hash is stored by one entry. -/
theorem store_unique {first second : ServiceEntry} (memberFirst : first ∈ world.history)
    (memberSecond : second ∈ world.history) {one two : UserId × TokenHash}
    (storedFirst : one ∈ storedLinks first.event) (storedSecond : two ∈ storedLinks second.event)
    (same : one.2 = two.2) : first = second := by
  refine chronicle.once (fun entry hash => ∃ link ∈ storedLinks entry.event,
      link.2 = hash) (fun hash world => ∃ entry ∈ world.history,
      ∃ link ∈ storedLinks entry.event, link.2 = hash) ?_ ?_ memberFirst memberSecond
    ⟨one, storedFirst, rfl⟩ ⟨two, storedSecond, same.symm⟩
  · rintro world entry _ chronicle admissible ⟨link, stored, rfl⟩
    refine ⟨?_, entry, List.mem_cons_self, link, stored, rfl⟩
    rintro ⟨older, member, other, storedOther, same⟩
    exact store_fresh distinct chronicle admissible stored member storedOther same.symm
  · rintro world entry hash _ _ ⟨older, member, stored⟩
    exact ⟨older, List.mem_cons_of_mem _ member, stored⟩

omit distinct in
/-- A stored hash was stored by an entry, for the same account. -/
theorem link_stored {row : EmailVerificationTokenRow}
    (member : row ∈ world.state.db.emailVerificationTokens) :
    ∃ entry ∈ world.history, (row.userId, row.tokenHash) ∈ storedLinks entry.event := by
  refine chronicle.invariant (fun world => ∀ row ∈ world.state.db.emailVerificationTokens,
      ∃ entry ∈ world.history, (row.userId, row.tokenHash) ∈ storedLinks entry.event)
    (by simp [State.empty]) ?_ row member
  intro world entry _ traced admissible row member
  rcases performs_emailVerificationTokens admissible.performs member with
    ⟨old, stored, continues⟩ | stored
  · rw [admissible.current] at stored
    obtain ⟨store, recorded, link⟩ := traced old stored
    rw [← continues.userId, ← continues.tokenHash] at link
    exact ⟨store, List.mem_cons_of_mem _ recorded, link⟩
  · exact ⟨entry, List.mem_cons_self, stored⟩

end Chronicles

end GraconAuth
