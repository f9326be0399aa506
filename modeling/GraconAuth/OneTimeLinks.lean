/-
This file is about mailed links being one-time: with a given reset token at most one
reset replaces the password, and with a given verification token at most one call
mints a session. Both flows check a row that they have read before, and mark it used
by an unconditional update, so runs exist in which a link works twice. It works once
in the runs in which the row still is as it was checked when it is marked.
-/

import GraconAuth.VerificationLinks

namespace GraconAuth

open Interleaving Program Rows

variable (runtime : Runtime)

/-! ### Using a link -/

/-- The link of a reset that has replaced the password. -/
def resets (entry : ServiceEntry) : Option (UserId × RawToken) :=
  match entry.request with
  | .resetPassword dto => (replacedPassword entry).map fun _ => (dto.userId, dto.token)
  | _ => none

/-- The link of an email verification that has stored a session. -/
def mints (entry : ServiceEntry) : Option (UserId × RawToken) :=
  match entry.request, executed entry.event with
  | .verifyEmail dto, [.refreshTokenCreate _] => some (dto.userId, dto.token)
  | _, _ => none

/-- No two calls have used one link. -/
def UsedOnce (uses : ServiceEntry → Option (UserId × RawToken)) (world : ServiceWorld) : Prop :=
  ∀ first ∈ world.history, ∀ second ∈ world.history, ∀ link ∈ uses first,
    link ∈ uses second → first.thread = second.thread

instance (uses : ServiceEntry → Option (UserId × RawToken)) (world : ServiceWorld) :
    Decidable (UsedOnce uses world) :=
  inferInstanceAs (Decidable (∀ first ∈ _, _))

/-- Mailed links are one-time. -/
def OneTimeLinks (world : ServiceWorld) : Prop :=
  UsedOnce resets world ∧ UsedOnce mints world

instance (world : ServiceWorld) : Decidable (OneTimeLinks world) :=
  inferInstanceAs (Decidable (_ ∧ _))

/-! ### A run in which a link works twice -/

/-- A reset link is mailed, and two calls that present it read the token before either of them
marks it used. -/
def doubleReset : List ServiceMove :=
  signedIn ++
  .accept (.requestReset "a@x") :: steps 3 [{}, {}, { text := "r2" }, {}, {}, {}, {}, {}] ++
  .accept (.resetPassword ⟨0, "r2", "p1", "p1"⟩) ::
  .accept (.resetPassword ⟨0, "r2", "p2", "p2"⟩) ::
    steps 4 [{}, {}, {}] ++ steps 5 [{}, {}, {}] ++ steps 4 [{}, {}, {}] ++ steps 5 [{}, {}, {}]

/-- Mailed links are not one-time in every run: both calls replace the password. -/
theorem links_not_one_time :
    ¬ ∀ (runtime : Runtime) (clock : Timestamp) (pool : ServicePool),
      Reachable (service runtime) (distinct runtime) (State.empty clock) pool →
        OneTimeLinks pool.world := by
  intro oneTime
  have twice := oneTime legibleRuntime 0 _
    (played_reachable (Referee.strict_upholds (distinct legibleRuntime)) doubleReset)
  exact absurd twice (by decide +kernel)

/-! ### The runs in which it works once -/

/-- The token that the request presents as an email verification. -/
def Request.presents : Request → Option RawToken
  | .verifyEmail dto => some dto.token
  | _ => none

/-- The row that a statement marks used is unused, and holds the presented token. -/
def Unspent (entry : ServiceEntry) : Statement → Prop
  | .passwordResetTokenUpdate id => ∀ row ∈ entry.before.db.passwordResetTokens,
    row.id = id → row.used = false
  | .emailVerificationTokenUpdate id => ∀ row ∈ entry.before.db.emailVerificationTokens,
    row.id = id → row.used = false ∧
      ∀ token ∈ entry.request.presents, row.tokenHash = runtime.hash token
  | _ => True

instance (entry : ServiceEntry) : DecidablePred (Unspent runtime entry)
  | .passwordResetTokenUpdate _ => inferInstanceAs (Decidable (∀ row ∈ _, _))
  | .emailVerificationTokenUpdate _ => inferInstanceAs (Decidable (∀ row ∈ _, _))
  | .userUpdate _ _ | .refreshTokenUpdate _ | .refreshTokenUpdateMany _ | .refreshTokenCreate _
  | .refreshTokenDeleteMany _ | .emailVerificationTokenUpsert _ _ _ _
  | .passwordResetTokenUpdateMany _ | .passwordResetTokenCreate _
  | .idVerificationCreate _ => .isTrue trivial

/-- The statements that an effect asks for. -/
def Effect.statements : Effect → List Statement
  | .execute statements => statements
  | _ => []

/-- The runs in which random tokens are distinct, and a token is marked used only while it is
unspent. -/
def unspent : Regime State Effect.Reply Failure Request where
  admits _ := True
  permits world entry := Distinct runtime world entry ∧
    ∀ statement ∈ entry.effect.statements, Unspent runtime entry statement

instance (request : Request) : Decidable ((unspent runtime).admits request) := .isTrue trivial

instance (world : ServiceWorld) (entry : ServiceEntry) :
    Decidable ((unspent runtime).permits world entry) :=
  inferInstanceAs (Decidable (_ ∧ _))

/-! ### Resets -/

/-- A reset writes after it has read the token of its link, and marks the token it has read. -/
def resetting (request : Request) (past : List ServiceEvent) : Effect → Prop
  | .execute statements => ∀ dto, request = .resetPassword dto → ∃ row passwordHash,
    ⟨.passwordResetTokenFindFirst dto.userId (runtime.hash dto.token), .ok (some row)⟩ ∈ past ∧
      statements = [
        .userUpdate dto.userId { passwordHash := some passwordHash },
        .passwordResetTokenUpdate row.id,
        .refreshTokenUpdateMany { userId := some dto.userId }]
  | _ => True

theorem harmless_resetting {request : Request} (past : List ServiceEvent) (effect : Effect)
    (harmless : effect.Harmless) : resetting runtime request past effect := by
  cases effect with
  | execute statements => exact harmless.elim
  | _ => trivial

/-- A valid lookup has read the token that it answers with. -/
theorem findValidToken_resetting {request : Request} (userId : UserId) (token : RawToken)
    {past : List ServiceEvent} :
    (PasswordResetService.findValidToken runtime userId token).Follows
      (conduct (resetting runtime request))
      (fun now outcome => ∀ id, outcome = .ok (.ok id) → ∃ row,
        ⟨.passwordResetTokenFindFirst userId (runtime.hash token), .ok (some row)⟩ ∈ now ∧
          row.id = id) past := by
  refine follows_perform_bind.mpr ⟨trivial, fun record _ => ?_, fun _ _ => nofun⟩
  cases record with
  | none => exact nofun
  | some row =>
    dsimp only
    split
    · exact nofun
    · refine follows_perform_bind.mpr ⟨trivial, fun now _ => ?_, fun _ _ => nofun⟩
      split
      · exact nofun
      · rintro _ ⟨⟩
        exact ⟨row, List.mem_cons_of_mem _ List.mem_cons_self, rfl⟩

theorem resetPassword_resetting (dto : PasswordResetService.ResetPasswordDto)
    {past : List ServiceEvent} :
    (PasswordResetService.resetPassword runtime dto).Abides
      (conduct (resetting runtime (.resetPassword dto))) past := by
  refine abides_throwIf_bind fun _ => (findValidToken_resetting runtime _ _).bind
    (fun now tokenLookup found => ?_) fun _ _ _ => trivial
  cases tokenLookup with
  | error reason => trivial
  | ok tokenId =>
    obtain ⟨row, read, rfl⟩ := found tokenId rfl
    refine (bcryptHash_uses runtime _).abides_bind (harmless_resetting runtime)
      fun _ passwordHash grown => abides_perform_bind ?_ fun _ _ =>
        abides_perform_bind trivial fun _ _ => trivial
    rintro _ ⟨⟩
    exact ⟨row, passwordHash, grown.mem read, rfl⟩

theorem serve_resetting (request : Request) :
    (serve runtime request).Abides (conduct (resetting runtime request)) [] := by
  refine serve_abides runtime request (harmless_resetting runtime) (fun _ _ => trivial)
    fun past userId _ => ?_
  by_cases reset : ∃ dto, request = .resetPassword dto
  · obtain ⟨dto, rfl⟩ := reset
    exact (resetPassword_resetting runtime dto).bind fun _ _ => trivial
  · refine handle_abides runtime _ userId (harmless_resetting runtime) fun now effect _ => ?_
    cases effect with
    | execute statements => exact fun dto same => absurd ⟨dto, same⟩ reset
    | _ => trivial

section Resets

variable {runtime} {regime : Regime State Effect.Reply Failure Request} {clock : Timestamp}
  {world : ServiceWorld} {entry : ServiceEntry}

/-- A reset has marked the token with this id. -/
def MarksReset (entry : ServiceEntry) (id : RowId) : Prop :=
  ∃ dto passwordHash, entry.request = .resetPassword dto ∧ entry.event = ⟨.execute [
    .userUpdate dto.userId { passwordHash := some passwordHash },
    .passwordResetTokenUpdate id,
    .refreshTokenUpdateMany { userId := some dto.userId }], .ok ()⟩

/-- A reset that has replaced the password has marked the token that its link leads to. -/
theorem marks_of_resets
    (admissible : Admissible (service runtime) regime
      (fun request => conduct (resetting runtime request)) world entry)
    {link : UserId × RawToken} (used : link ∈ resets entry) :
    ∃ row, MarksReset entry row.id ∧
      ⟨.passwordResetTokenFindFirst link.1 (runtime.hash link.2), .ok (some row)⟩ ∈
        world.past entry.thread := by
  have ruled : resetting runtime entry.request (world.past entry.thread) entry.effect :=
    admissible.ruled
  unfold resets at used
  split at used
  · rename_i dto requested
    obtain ⟨userId, replaced, rfl⟩ := Option.map_eq_some_iff.mp used
    obtain ⟨data, rest, carriedOut, _⟩ := replacedPassword_some replaced
    have event := event_of_executed carriedOut
    rw [show entry.effect = _ from congrArg Event.effect event] at ruled
    obtain ⟨row, passwordHash, read, same⟩ := ruled dto requested
    rw [same] at event
    exact ⟨row, ⟨dto, passwordHash, requested, event⟩, read⟩
  · cases used

/-- Marking an unspent token spends it. -/
theorem marksReset_spends {id : RowId} (wellFormed : entry.before.db.WellFormed)
    (performs : environment.Performs entry.before entry.effect entry.reply entry.after)
    (free : ∀ statement ∈ entry.effect.statements, Unspent runtime entry statement)
    (marks : MarksReset entry id) :
    ¬entry.before.db.ResetSpent id ∧ entry.after.db.ResetSpent id := by
  obtain ⟨dto, passwordHash, _, event⟩ := marks
  have free : ∀ row ∈ entry.before.db.passwordResetTokens, row.id = id → row.used = false := by
    refine free (.passwordResetTokenUpdate id) ?_
    rw [show entry.effect = _ from congrArg Event.effect event]
    simp [Effect.statements]
  have performs := performs_event performs event
  rcases performs_execute performs with ⟨_, ran⟩ | ⟨⟨_, failed⟩, _⟩
  · have counted := performs_nextId performs
    generalize entry.after.db = after at ran counted ⊢
    obtain ⟨between, first, ran⟩ := runAll_cons ran
    obtain ⟨marked, second, ran⟩ := runAll_cons ran
    cases first
    cases second with
    | passwordResetTokenUpdate id present =>
    cases runAll_singleton ran
    obtain ⟨row, stored, same⟩ := present
    refine ⟨fun spent => ?_, same ▸ wellFormed.passwordResetTokens.below _
      (List.mem_map_of_mem stored), fun other member sameId => ?_⟩
    · have := free row stored same
      rw [spent.2 row stored same] at this
      cases this
    · obtain ⟨old, before, rfl⟩ := mem_updateWhere.mp member
      split
      · rfl
      · rename_i unmatched
        rw [if_neg unmatched] at sameId
        exact absurd (beq_iff_eq.mpr sameId) unmatched
  · cases failed

/-- A link that was followed once leads to the same token ever after. -/
theorem reset_lookup_lasts
    (chronicle : Chronicle (service runtime) regime
      (fun request => conduct (resetting runtime request))
      (State.empty clock) world)
    {read : ServiceEntry} (member : read ∈ world.history) {userId : UserId} {tokenHash : TokenHash}
    {row : PasswordResetTokenRow}
    (found : read.event = ⟨.passwordResetTokenFindFirst userId tokenHash, .ok (some row)⟩) :
    (world.state.db.findPasswordResetToken userId tokenHash).map (·.id) = some row.id := by
  refine chronicle.lasts (fun state =>
      (state.db.findPasswordResetToken userId tokenHash).map (·.id) = some row.id)
    (fun _ _ _ _ performs holds => performs_resetLookup performs holds) member (.inl ?_)
  obtain ⟨_, _, admissible, _⟩ := chronicle.recalls member
  have performs : environment.Performs read.before read.effect read.reply read.after :=
    admissible.performs
  rw [← performs_passwordResetTokenFindFirst (performs_event performs found)]
  rfl

/-- At most one reset replaces the password with a given link. -/
theorem resets_once
    (free : ∀ world entry, regime.permits world entry →
      ∀ statement ∈ entry.effect.statements, Unspent runtime entry statement)
    (chronicle : Chronicle (service runtime) regime
      (fun request => conduct (resetting runtime request))
      (State.empty clock) world) : UsedOnce resets world := by
  intro first memberFirst second memberSecond link usedFirst usedSecond
  obtain ⟨_, _, admissibleFirst, keptFirst⟩ := chronicle.recalls memberFirst
  obtain ⟨_, _, admissibleSecond, keptSecond⟩ := chronicle.recalls memberSecond
  obtain ⟨row, marksFirst, readFirst⟩ := marks_of_resets admissibleFirst usedFirst
  obtain ⟨other, marksSecond, readSecond⟩ := marks_of_resets admissibleSecond usedSecond
  obtain ⟨one, memberOne, _, foundOne⟩ := World.mem_past.mp readFirst
  obtain ⟨two, memberTwo, _, foundTwo⟩ := World.mem_past.mp readSecond
  have same : row.id = other.id := by
    have lookup := reset_lookup_lasts chronicle (keptFirst memberOne) foundOne
    rw [reset_lookup_lasts chronicle (keptSecond memberTwo) foundTwo] at lookup
    exact (Option.some.inj lookup).symm
  refine congrArg Entry.thread (chronicle.once MarksReset
    (fun id world => world.state.db.ResetSpent id) ?_ ?_ memberFirst memberSecond marksFirst
    (same ▸ marksSecond))
  · intro world entry id chronicle admissible marks
    rw [← admissible.current]
    refine marksReset_spends ?_ admissible.performs (free world entry admissible.permitted) marks
    rw [admissible.current]
    exact chronicle_wellFormed chronicle
  · intro world entry id _ admissible spent
    rw [← admissible.current] at spent
    exact performs_resetSpent admissible.performs spent

end Resets

/-! ### Email verifications -/

section Verifications

variable {runtime} {regime : Regime State Effect.Reply Failure Request} {clock : Timestamp}
  {world : ServiceWorld} {entry : ServiceEntry}

/-- An email verification has marked the token with this id, which it took for the token with
this hash. -/
def MarksVerified (runtime : Runtime) (entry : ServiceEntry) (item : RowId × TokenHash) : Prop :=
  (∃ token ∈ entry.request.presents, runtime.hash token = item.2) ∧
    .emailVerificationTokenUpdate item.1 ∈ executed entry.event

/-- The hash has been stored, and the token with this id is used as long as it has the hash. -/
def VerificationSpent (item : RowId × TokenHash) (world : ServiceWorld) : Prop :=
  (∃ store ∈ world.history, ∃ link ∈ storedLinks store.event, link.2 = item.2) ∧
    ∀ row ∈ world.state.db.emailVerificationTokens, row.id = item.1 → row.tokenHash = item.2 →
      row.used = true

variable (distinct : ∀ world entry, regime.permits world entry → Distinct runtime world entry)
  (free : ∀ world entry, regime.permits world entry →
    ∀ statement ∈ entry.effect.statements, Unspent runtime entry statement)
  (chronicle : Chronicle (service runtime) regime (fun request => conduct (linked runtime request))
    (State.empty clock) world)
  (admissible : Admissible (service runtime) regime
    (fun request => conduct (linked runtime request)) world entry)

/-- A call that follows a link stores none with the same statements. -/
theorem storeless_of_marks {item : RowId × TokenHash} (marks : MarksVerified runtime entry item)
    (admissible : Admissible (service runtime) regime
      (fun request => conduct (linked runtime request)) world entry) :
    ∀ statement ∈ executed entry.event, statement.link = none := by
  obtain ⟨⟨token, presented, _⟩, listed⟩ := marks
  have ruled : linked runtime entry.request (world.past entry.thread) entry.effect :=
    admissible.ruled
  rw [show entry.effect = _ from congrArg Event.effect (mem_executed listed)] at ruled
  intro statement member
  have lawful := ruled statement member
  unfold Statement.link
  split
  · unfold Request.presents at presented
    split at presented
    · rename_i dto requested
      exact absurd requested (lawful.2 dto)
    · cases presented
  · rfl

/-- After the marking the token is stored, and used. -/
theorem used_of_marks {item : RowId × TokenHash} (marks : MarksVerified runtime entry item)
    (admissible : Admissible (service runtime) regime
      (fun request => conduct (linked runtime request)) world entry) :
    (∃ row ∈ entry.after.db.emailVerificationTokens, row.id = item.1) ∧
      ∀ row ∈ entry.after.db.emailVerificationTokens, row.id = item.1 → row.used = true := by
  have storeless := storeless_of_marks marks admissible
  have performs : environment.Performs entry.before entry.effect entry.reply entry.after :=
    admissible.performs
  rcases performs_execute (performs_event performs (mem_executed marks.2)) with
    ⟨_, ran⟩ | ⟨⟨_, failed⟩, _⟩
  · refine runAll_establishes (fun db =>
      (∃ row ∈ db.emailVerificationTokens, row.id = item.1) ∧
        ∀ row ∈ db.emailVerificationTokens, row.id = item.1 → row.used = true)
      ran marks.2 ?_ ?_
    · intro now later carried
      cases carried with
      | emailVerificationTokenUpdate id present =>
        obtain ⟨row, stored, same⟩ := present
        refine ⟨⟨_, mem_updateWhere.mpr ⟨row, stored, rfl⟩, ?_⟩, fun other member sameId => ?_⟩
        · split <;> exact same
        · obtain ⟨old, before, rfl⟩ := mem_updateWhere.mp member
          split
          · rfl
          · rename_i unmatched
            rw [if_neg unmatched] at sameId
            exact absurd (beq_iff_eq.mpr sameId) unmatched
    · rintro statement listed now later ⟨⟨row, stored, same⟩, used⟩ carried
      cases carried with
      | emailVerificationTokenUpdate id present =>
        refine ⟨⟨_, mem_updateWhere.mpr ⟨row, stored, rfl⟩, ?_⟩, fun other member sameId => ?_⟩
        · split <;> exact same
        · obtain ⟨old, before, rfl⟩ := mem_updateWhere.mp member
          split
          · rfl
          · rename_i unmatched
            rw [if_neg unmatched] at sameId
            exact used old before sameId
      | emailVerificationTokenUpsert userId tokenHash expiresAt createdAt =>
        cases storeless _ listed
      | _ => exact ⟨⟨row, stored, same⟩, used⟩
  · cases failed

include free chronicle admissible

/-- Marking an unspent token spends it. -/
theorem marksVerified_spends {item : RowId × TokenHash} (marks : MarksVerified runtime entry item) :
    ¬VerificationSpent item world ∧ VerificationSpent item (world.record entry) := by
  obtain ⟨⟨row, stored, same⟩, used⟩ := used_of_marks marks admissible
  have before : ∃ old ∈ world.state.db.emailVerificationTokens, old.Continues row := by
    rcases performs_emailVerificationTokens admissible.performs stored with old | link
    · rw [admissible.current] at old
      exact old
    · change _ ∈ storedLinks entry.event at link
      rw [mem_executed marks.2] at link
      obtain ⟨statement, listed, link⟩ := List.mem_filterMap.mp link
      rw [storeless_of_marks marks admissible statement listed] at link
      cases link
  obtain ⟨old, storedOld, continues⟩ := before
  obtain ⟨⟨token, presented, hash⟩, listed⟩ := marks
  have listedToo : .emailVerificationTokenUpdate item.1 ∈ entry.effect.statements := by
    rw [show entry.effect = _ from congrArg Event.effect (mem_executed listed)]
    exact listed
  have unspent : old.used = false ∧ old.tokenHash = item.2 := by
    have free := free world entry admissible.permitted _ listedToo
    rw [← admissible.current] at storedOld
    obtain ⟨unused, held⟩ := free old storedOld (continues.id.symm.trans same)
    exact ⟨unused, (held token presented).trans hash⟩
  refine ⟨fun spent => ?_, ?_, fun other member sameId _ => used other member sameId⟩
  · have := spent.2 old storedOld (continues.id.symm.trans same) unspent.2
    rw [unspent.1] at this
    cases this
  · obtain ⟨store, recorded, link⟩ := link_stored chronicle storedOld
    exact ⟨store, List.mem_cons_of_mem _ recorded, _, link, unspent.2⟩

omit free in
include distinct in
/-- A spent token stays spent: its hash is not stored again. -/
theorem verificationSpent_lasts {item : RowId × TokenHash} (spent : VerificationSpent item world) :
    VerificationSpent item (world.record entry) := by
  obtain ⟨⟨store, recorded, link, stored, hash⟩, used⟩ := spent
  refine ⟨⟨store, List.mem_cons_of_mem _ recorded, link, stored, hash⟩,
    fun row member sameId sameHash => ?_⟩
  rcases performs_emailVerificationTokens admissible.performs member with
    ⟨old, storedOld, continues⟩ | fresh
  · rw [admissible.current] at storedOld
    exact continues.used (used old storedOld (continues.id.symm.trans sameId)
      (continues.tokenHash.symm.trans sameHash))
  · exact absurd (sameHash.trans hash.symm)
      (store_fresh distinct chronicle admissible fresh recorded stored)

omit distinct free admissible in
/-- An account leads to the same token at every later lookup. -/
theorem verification_lookup_lasts {read : ServiceEntry} (member : read ∈ world.history)
    {userId : UserId} {tokenRecord : EmailVerificationTokenRow} {record : UserRecord}
    (found : read.event =
      ⟨.emailVerificationTokenFindUnique userId, .ok (some (tokenRecord, record))⟩) :
    (world.state.db.findEmailVerificationToken userId).map (·.id) = some tokenRecord.id := by
  refine chronicle.lasts (fun state =>
      (state.db.findEmailVerificationToken userId).map (·.id) = some tokenRecord.id)
    (fun _ _ _ _ performs holds => performs_verificationLookup performs holds) member (.inl ?_)
  obtain ⟨_, _, admissible, _⟩ := chronicle.recalls member
  have performs : environment.Performs read.before read.effect read.reply read.after :=
    admissible.performs
  have answered := performs_emailVerificationTokenFindUnique (performs_event performs found)
  rw [findEmailVerificationToken_of_withUser answered.symm]
  rfl

omit distinct free admissible in
/-- A call that mints a session has marked the token of its link before. -/
theorem marks_of_mints {mint : ServiceEntry} (member : mint ∈ world.history)
    {link : UserId × RawToken} (used : link ∈ mints mint) :
    ∃ mark ∈ world.history, mark.thread = mint.thread ∧ ∃ id,
      MarksVerified runtime mark (id, runtime.hash link.2) ∧
        (world.state.db.findEmailVerificationToken link.1).map (·.id) = some id := by
  obtain ⟨_, _, admissible, kept⟩ := chronicle.recalls member
  have ruled : linked runtime mint.request (World.past _ mint.thread) mint.effect :=
    admissible.ruled
  unfold mints at used
  split at used
  · rename_i dto data requested carriedOut
    cases used
    rw [show mint.effect = _ from congrArg Event.effect (event_of_executed carriedOut)] at ruled
    obtain ⟨event, past, id, listed⟩ := ruled _ List.mem_cons_self dto requested
    obtain ⟨mark, recorded, thread, rfl⟩ := World.mem_past.mp past
    have requestedToo := (admissible.owned mark recorded thread).trans requested
    obtain ⟨_, _, admissibleMark, keptMark⟩ := chronicle.recalls (kept recorded)
    have ruledMark : linked runtime mark.request (World.past _ mark.thread) mark.effect :=
      admissibleMark.ruled
    rw [show mark.effect = _ from congrArg Event.effect (mem_executed listed), requestedToo]
      at ruledMark
    obtain ⟨_, ⟨⟩, tokenRecord, record, checked, rfl, _⟩ := ruledMark _ listed
    obtain ⟨read, memberRead, _, found⟩ := World.mem_past.mp checked
    refine ⟨mark, kept recorded, thread, tokenRecord.id, ⟨⟨dto.token, ?_, rfl⟩, listed⟩,
      verification_lookup_lasts chronicle (keptMark memberRead) found⟩
    rw [requestedToo]
    rfl
  · cases used

omit admissible in
include distinct free in
/-- At most one email verification mints a session with a given link. -/
theorem mints_once : UsedOnce mints world := by
  intro first memberFirst second memberSecond link usedFirst usedSecond
  obtain ⟨one, memberOne, threadOne, id, marksOne, lookup⟩ :=
    marks_of_mints chronicle memberFirst usedFirst
  obtain ⟨two, memberTwo, threadTwo, other, marksTwo, lookupToo⟩ :=
    marks_of_mints chronicle memberSecond usedSecond
  obtain rfl : id = other := Option.some.inj (lookup.symm.trans lookupToo)
  have same : one = two := chronicle.once (MarksVerified runtime) VerificationSpent
    (fun _ _ _ chronicle admissible marks => marksVerified_spends free chronicle admissible marks)
    (fun _ _ _ chronicle admissible spent =>
      verificationSpent_lasts distinct chronicle admissible spent)
    memberOne memberTwo marksOne marksTwo
  rw [← threadOne, ← threadTwo, same]

end Verifications

/-- In every run in which a token is marked used only while it is unspent, whatever the
interleaving, mailed links are one-time. -/
theorem links_one_time_of_unspent (runtime : Runtime) (clock : Timestamp) (pool : ServicePool)
    (reachable : Reachable (service runtime) (unspent runtime) (State.empty clock) pool) :
    OneTimeLinks pool.world := by
  have distinct : ∀ world entry, (unspent runtime).permits world entry →
      Distinct runtime world entry := fun _ _ permitted => permitted.1
  have free : ∀ world entry, (unspent runtime).permits world entry →
      ∀ statement ∈ entry.effect.statements, Unspent runtime entry statement :=
    fun _ _ permitted => permitted.2
  constructor
  · exact resets_once free (reachable_chronicle (resetting runtime) reachable
      fun request _ => serve_resetting runtime request)
  · exact mints_once distinct free (reachable_chronicle (linked runtime) reachable
      fun request _ => serve_linked runtime request)

/-- A citizen registers and verifies the email twice with one link, and a reset link is presented
twice, each time one call after the other. -/
def repeatedLinks : List ServiceMove :=
  .accept (.register ⟨some "N1", none, "b@x", none, "pw"⟩) ::
    steps 0 [{ citizen := ⟨"Ann", "Lee", "F", 0, "RW"⟩ }, {}, {}, {}, {}, {}, {},
      { text := "r0" }, {}, {}, {}, {}] ++
  .accept (.verifyEmail ⟨0, "r0"⟩) ::
    steps 1 [{}, {}, {}, {}, {}, { text := "r1" }, {}, {}, {}] ++
  .accept (.verifyEmail ⟨0, "r0"⟩) :: steps 2 [{}, {}] ++
  .accept (.requestReset "b@x") :: steps 3 [{}, {}, { text := "r2" }, {}, {}, {}, {}, {}] ++
  .accept (.resetPassword ⟨0, "r2", "p1", "p1"⟩) :: steps 4 [{}, {}, {}, {}, {}, {}] ++
  .accept (.resetPassword ⟨0, "r2", "p2", "p2"⟩) :: steps 5 [{}, {}]

/-- In that run one call has used each link, and both links are one-time. -/
theorem links_one_time_of_unspent_repeated :
    (played (.strict (unspent legibleRuntime)) repeatedLinks).world.history.reverse.filterMap
        (fun entry => mints entry <|> resets entry) = [(0, "r0"), (0, "r2")] ∧
      OneTimeLinks (played (.strict (unspent legibleRuntime)) repeatedLinks).world :=
  ⟨by decide +kernel, links_one_time_of_unspent legibleRuntime 0 _
    (played_reachable (Referee.strict_upholds (unspent legibleRuntime)) repeatedLinks)⟩

end GraconAuth
