/-
This file follows the refresh tokens along a serial run. A token is stored under the
digest of a random token that the same call has drawn; it stays as it is unless it
is presented, bulk revoked or cleaned up; and a digest that has gone never returns.
-/

import GraconAuth.Histories
import GraconAuth.RevocationFinal
import GraconAuth.SingleSuccessor

namespace GraconAuth

open Interleaving Program Rows

variable (runtime : Runtime)

/-! ### What a call presents and issues -/

/-- The digest of the token that the call presents. -/
def presented (served : ServiceServed) : Option TokenHash :=
  (served.request.rotation runtime).map (·.1)

/-- The tokens that the call has stored. -/
def issuedTokens (served : ServiceServed) : List RefreshTokenRow :=
  served.after.db.refreshTokens.filter fun row => decide (served.before.db.nextId ≤ row.id)

/-! ### Where the digests come from -/

/-- One of the events has drawn a token with this digest. -/
def Minted (past : List ServiceEvent) (tokenHash : TokenHash) : Prop :=
  ∃ event ∈ past, ∃ token ∈ drew event, runtime.hash token = tokenHash

/-- A refresh token is stored under the digest of a token that the call has drawn. -/
def minted (past : List ServiceEvent) : Effect → Prop
  | .execute statements => ∀ data, .refreshTokenCreate data ∈ statements →
    Minted runtime past data.tokenHash
  | _ => True

theorem Minted.cons {past : List ServiceEvent} {tokenHash : TokenHash}
    (mints : Minted runtime past tokenHash) (event : ServiceEvent) :
    Minted runtime (event :: past) tokenHash := by
  obtain ⟨draw, member, drawn⟩ := mints
  exact ⟨draw, List.mem_cons_of_mem _ member, drawn⟩

theorem harmless_minted (past : List ServiceEvent) (effect : Effect) (harmless : effect.Harmless) :
    minted runtime past effect := by
  cases effect with
  | execute statements => exact harmless.elim
  | _ => trivial

/-- Issuing a session draws its token first. -/
theorem generateTokens_minted (userId : UserId) (email : Email) (ipAddress userAgent : String)
    (tokenType : TokenType) (past : List ServiceEvent) :
    (AuthService.generateTokens runtime userId email ipAddress userAgent tokenType).Abides
      (conduct (minted runtime)) past := by
  refine abides_perform_bind trivial fun accessToken _ => abides_perform_bind trivial fun raw _ =>
    abides_perform_bind trivial fun now _ => abides_perform_bind (fun data listed => ?_) fun _ _ =>
    trivial
  obtain rfl := Statement.refreshTokenCreate.inj (List.mem_singleton.mp listed)
  exact ⟨_, List.mem_cons_of_mem _ List.mem_cons_self, raw, rfl, rfl⟩

theorem login_minted (dto : AuthService.LoginDto) (ipAddress userAgent : String)
    (past : List ServiceEvent) :
    (AuthService.login runtime dto ipAddress userAgent).Abides (conduct (minted runtime)) past := by
  refine abides_perform_bind trivial fun user _ => ?_
  split
  · exact abides_perform_bind trivial fun _ _ => trivial
  · refine abides_perform_bind trivial fun _ _ => abides_throwIf_bind fun _ =>
      abides_throwIf_bind fun _ => Abides.bind (generateTokens_minted runtime _ _ _ _ _ _)
        fun now tokens => (buildSafeProfile_uses runtime _).abides_bind (harmless_minted runtime)
          fun _ _ _ => trivial

theorem rotateRefreshToken_minted (tokenHash : TokenHash) (ipAddress userAgent : String)
    (requireFullToken : Bool) (past : List ServiceEvent) :
    (AuthService.rotateRefreshToken runtime tokenHash ipAddress userAgent requireFullToken).Abides
      (conduct (minted runtime)) past := by
  refine abides_perform_bind trivial fun found _ => ?_
  match found with
  | none => trivial
  | some (storedToken, user) =>
    dsimp only
    split
    · exact abides_perform_bind (by simp [minted]) fun _ _ => abides_perform_bind trivial fun _ _ =>
        trivial
    · exact abides_perform_bind trivial fun now _ => abides_throwIf_bind fun _ =>
        abides_throwIf_bind fun _ => abides_throwIf_bind fun _ =>
          abides_perform_bind (by simp [minted]) fun _ _ =>
            generateTokens_minted runtime _ _ _ _ _ _

theorem runSingleFlightRefresh_minted (key : FlightKey) (task : Async AuthTokens)
    {past : List ServiceEvent} (keeps : ∀ past, task.Abides (conduct (minted runtime)) past) :
    (AuthService.runSingleFlightRefresh key task).Abides (conduct (minted runtime)) past := by
  refine abides_perform_bind trivial fun role _ => ?_
  cases role with
  | follower flight => exact abides_perform trivial
  | leader flight =>
    exact (keeps _).attempt.bind fun now outcome => abides_perform_bind trivial fun _ _ =>
      follows_ofOutcome.mpr trivial

theorem verifyEmail_minted (dto : UsersService.VerifyEmailDto) (past : List ServiceEvent) :
    (UsersService.verifyEmail runtime dto).Abides (conduct (minted runtime)) past := by
  refine abides_perform_bind trivial fun found _ => ?_
  match found with
  | none => trivial
  | some (tokenRecord, record) =>
    dsimp only
    split
    · trivial
    · refine abides_throwIf_bind fun _ => abides_perform_bind trivial fun _ _ =>
        abides_throwIf_bind fun _ => abides_throwIf_bind fun _ =>
        abides_perform_bind (by simp [minted]) fun _ _ =>
        (decryptPid_uses runtime _).abides_bind (harmless_minted runtime) fun _ _ _ =>
        (sendWelcomeEmail_uses _ _ _ _).abides_bind (harmless_minted runtime) fun _ _ _ => ?_
      split
      · trivial
      · refine Abides.bind ?_ fun _ _ =>
          (buildVerificationSessionProfile_uses runtime _).abides_bind (harmless_minted runtime)
            fun _ _ _ => trivial
        refine abides_perform_bind trivial fun _ _ => abides_perform_bind trivial fun raw _ =>
          abides_perform_bind trivial fun _ _ => abides_perform_bind (fun data listed => ?_)
            fun _ _ => trivial
        obtain rfl := Statement.refreshTokenCreate.inj (List.mem_singleton.mp listed)
        exact ⟨_, List.mem_cons_of_mem _ List.mem_cons_self, raw, rfl, rfl⟩

theorem upgradeToken_minted (userId : UserId) (ipAddress userAgent : String)
    (past : List ServiceEvent) :
    (AuthService.upgradeToken runtime userId ipAddress userAgent).Abides (conduct (minted runtime))
      past := by
  refine abides_perform_bind (by simp [minted]) fun _ _ => abides_perform_bind trivial
    fun user _ => ?_
  cases user with
  | none => trivial
  | some record => exact generateTokens_minted runtime _ _ _ _ _ _

theorem submitVerification_minted (userId : UserId)
    (dto : VerificationService.SubmitVerificationDto) (ipAddress : String)
    (past : List ServiceEvent) :
    (VerificationService.submitVerification runtime userId dto ipAddress).Abides
      (conduct (minted runtime)) past := by
  have window : ∀ past effect,
      (effect.Harmless ∨ ∃ userId since, effect = .idVerificationFindMany userId since) →
      minted runtime past effect := by
    rintro past effect (harmless | ⟨_, _, rfl⟩)
    · exact harmless_minted runtime past effect harmless
    · trivial
  have record : ∀ data past,
      (VerificationService.recordAttempt data).Abides (conduct (minted runtime)) past :=
    fun data past => abides_rescue (abides_perform (by simp [minted])) fun _ _ => trivial
  have engine : ∀ payload past,
      (VerificationService.callVerificationEngine payload).Abides (conduct (minted runtime)) past :=
    fun payload past => abides_rescue (abides_perform trivial) fun _ _ => trivial
  refine abides_perform_bind trivial fun user _ => ?_
  cases user with
  | none => trivial
  | some user =>
    refine abides_throwIf_bind fun _ => abides_throwIf_bind fun _ => abides_throwIf_bind fun _ =>
      (enforceAttemptLimit_uses runtime userId).abides_bind window fun _ _ _ => ?_
    unfold VerificationService.verifyIdentity
    split
    · trivial
    · refine abides_throwIf_bind fun _ =>
        (decrypt_uses runtime _).abides_bind (harmless_minted runtime) fun _ _ _ =>
        (uploadImages_uses _ _ _).abides_bind (harmless_minted runtime) fun _ _ _ =>
        Abides.bind (engine _ _).attempt fun _ answer => ?_
      cases answer with
      | error failure =>
        exact (cleanupImages_uses _ _).abides_bind (harmless_minted runtime) fun _ _ _ =>
          (getNextAttemptNumber_uses _).abides_bind (harmless_minted runtime) fun _ _ _ =>
          (record _ _).bind fun _ _ => trivial
      | ok answer =>
        refine (getNextAttemptNumber_uses _).abides_bind (harmless_minted runtime) fun _ _ _ =>
          (record _ _).bind fun _ _ =>
          (cleanupImages_uses _ _).abides_bind (harmless_minted runtime) fun _ _ _ =>
          Abides.bind ?_ fun _ _ => abides_perform_bind trivial fun _ _ =>
            (getVerificationWindowState_uses runtime userId).abides_bind window fun _ _ _ => trivial
        unfold VerificationService.applyVerdict
        split
        · exact abides_perform_bind trivial fun now _ => abides_perform_bind (by simp [minted])
            fun _ _ => (upgradeToken_minted runtime userId _ _ _).bind fun _ _ => trivial
        · exact abides_perform_bind (by simp [minted]) fun _ _ => trivial

/-- A request that issues no session keeps to the rule by its footprint. -/
theorem awaits_minted {request : Request} (issueless : request.issues = false)
    (past : List ServiceEvent) (effect : Effect) (awaits : request.Awaits effect) :
    minted runtime past effect := by
  cases effect with
  | execute statements =>
    intro data listed
    have writes := awaits_writes awaits _ listed
    cases request <;> first | exact writes.elim | cases issueless
  | _ => trivial

/-- Every call keeps to the rule. -/
theorem serve_minted (request : Request) :
    (serve runtime request).Abides (conduct (minted runtime)) [] := by
  refine serve_abides runtime request (harmless_minted runtime) (fun _ _ => trivial)
    fun past userId _ => ?_
  cases request with
  | login dto ipAddress userAgent =>
    exact (login_minted runtime dto ipAddress userAgent past).bind fun _ _ => trivial
  | refreshTokens process refreshToken ipAddress userAgent =>
    exact (runSingleFlightRefresh_minted runtime _ _
      (rotateRefreshToken_minted runtime _ _ _ _)).bind fun _ _ => trivial
  | upgradeSession process refreshToken ipAddress userAgent =>
    exact Abides.bind (Abides.bind (runSingleFlightRefresh_minted runtime _ _
      (rotateRefreshToken_minted runtime _ _ _ _)) fun _ _ => abides_throwIf_bind fun _ => trivial)
      fun _ _ => trivial
  | verifyEmail dto => exact (verifyEmail_minted runtime dto past).bind fun _ _ => trivial
  | submitVerification jwt dto ipAddress =>
    exact (submitVerification_minted runtime userId dto ipAddress past).bind fun _ _ => trivial
  | _ => exact handle_abides runtime _ userId (harmless_minted runtime) (awaits_minted runtime rfl)

/-! ### Digests along a run -/

section Runs

variable {runtime} {before after : State} {trace : List ServiceEvent}

/-- A token that is stored after a call was stored before it, or the call has drawn it. -/
theorem serve_tokens {request : Request} {outcome : Except Failure Response}
    (run : Runs environment (serve runtime request) before trace outcome after)
    {row : RefreshTokenRow} (stored : row ∈ after.db.refreshTokens) :
    (∃ old ∈ before.db.refreshTokens, old.Continues row) ∨ Minted runtime trace row.tokenHash := by
  have traced := run.invariant (fun _ _ _ _ performs => performs_plausible performs)
    (serve_minted runtime request) (fun past state => ∀ row ∈ state.db.refreshTokens,
      (∃ old ∈ before.db.refreshTokens, old.Continues row) ∨ Minted runtime past row.tokenHash)
    (fun row stored => .inl ⟨row, stored, row.continues_refl⟩) ?_ row stored
  · refine traced.imp id fun ⟨event, member, drawn⟩ => ⟨event, ?_, drawn⟩
    rwa [List.append_nil, List.mem_reverse] at member
  · intro past state effect reply next ruled traced performs row stored
    rcases performs_refreshTokens performs stored with
      ⟨old, before, continues⟩ | ⟨statements, data, id, rfl, listed, _, continues⟩
    · rcases traced old before with ⟨first, initial, earlier⟩ | mints
      · exact .inl ⟨first, initial, earlier.trans continues⟩
      · rw [continues.tokenHash]
        exact .inr (mints.cons runtime _)
    · rw [continues.tokenHash]
      exact .inr (Minted.cons runtime (ruled data listed) _)

/-! ### What takes a token -/

/-- A bulk revocation takes the row, or the cleanup does. -/
def Statement.takes (row : RefreshTokenRow) : Statement → Bool
  | .refreshTokenDeleteMany now => decide (row.expiresAt < now) || row.revoked
  | statement => statement.revokes row

/-- A revoked token can only be taken by a cleanup. -/
theorem sweeps_of_takes {row : RefreshTokenRow} (revoked : row.revoked = true)
    {statement : Statement} (takes : statement.takes row = true) :
    ∃ now, statement = .refreshTokenDeleteMany now := by
  unfold Statement.takes at takes
  split at takes
  · exact ⟨_, rfl⟩
  · unfold Statement.revokes at takes
    split at takes
    · simp [RefreshTokenWhere.holds, revoked] at takes
    · cases takes

/-- A row stays as it is under a statement that neither takes nor exchanges it. -/
theorem Carried.keeps_row {clock : Timestamp} {db next : Database} {statement : Statement}
    (carried : Carried clock db statement next) {row : RefreshTokenRow}
    (stored : row ∈ db.refreshTokens) (spared : statement.takes row = false)
    (unexchanged : row.revoked = false → statement ≠ .refreshTokenUpdate row.id) :
    row ∈ next.refreshTokens := by
  cases carried with
  | refreshTokenUpdate id present =>
    refine mem_updateWhere.mpr ⟨row, stored, ?_⟩
    split
    · rename_i matched
      obtain rfl := beq_iff_eq.mp matched
      cases revoked : row.revoked with
      | true =>
        rw [RefreshTokenRow.revoke, ← revoked]
      | false => exact absurd rfl (unexchanged revoked)
    · rfl
  | refreshTokenUpdateMany filter =>
    refine mem_updateWhere.mpr ⟨row, stored, ?_⟩
    rw [if_neg]
    rw [show filter.holds row = false from spared]
    exact Bool.false_ne_true
  | refreshTokenCreate data free => exact List.mem_append_left _ stored
  | refreshTokenDeleteMany now => exact mem_deleteWhere.mpr ⟨stored, spared⟩
  | _ => exact stored

/-- A row stays as it is unless the effect takes or exchanges it. -/
theorem performs_row {state next : State} {effect : Effect} {reply : Except Failure effect.Reply}
    (performs : environment.Performs state effect reply next) {row : RefreshTokenRow}
    (stored : row ∈ state.db.refreshTokens)
    (unexchanged : row.revoked = false → ∀ statements, effect = .execute statements →
      .refreshTokenUpdate row.id ∉ statements) :
    row ∈ next.db.refreshTokens ∨
      ∃ statement ∈ executed ⟨effect, reply⟩, statement.takes row = true := by
  rcases performs_db performs with same | ⟨statements, event, ran⟩ | ⟨data, _, ran⟩ | ⟨log, same⟩
  · rw [same]
    exact .inl stored
  · rw [event]
    by_cases taken : ∃ statement ∈ statements, statement.takes row = true
    · exact .inr taken
    · left
      refine runAll_preserves (fun db => row ∈ db.refreshTokens) ran ?_ stored
      intro statement listed now later holds carried
      refine carried.keeps_row holds ?_ fun live same => ?_
      · exact Bool.eq_false_of_not_eq_true fun takes => taken ⟨statement, listed, takes⟩
      · rw [same] at listed
        exact unexchanged live statements (congrArg Event.effect event) listed
  · obtain ⟨_, _, tokens, _⟩ := register_tables ran
    rw [tokens]
    exact .inl stored
  · rw [same]
    exact .inl stored

/-- What is known while a call runs: the tables are well formed, and what has been read under an id
is stored under its digest. -/
structure Reading (past : List ServiceEvent) (state : State) : Prop where
  wellFormed : state.db.WellFormed
  hashed : ∀ event ∈ past, ∀ found ∈ readToken event,
    state.db.Hashed found.1.id found.1.tokenHash

theorem Reading.performs {past : List ServiceEvent} {state next : State} {effect : Effect}
    {reply : Except Failure effect.Reply} (reading : Reading past state)
    (performs : environment.Performs state effect reply next) :
    Reading (⟨effect, reply⟩ :: past) next := by
  refine ⟨performs_wellFormed performs reading.wellFormed, fun event member found reads => ?_⟩
  refine performs_hashed performs ?_
  rcases List.mem_cons.mp member with rfl | old
  · obtain ⟨tokenHash, event⟩ := effect_of_readToken reads
    have stored := (findRefreshTokenWithUser_some
      (performs_refreshTokenFindUnique (performs_event performs event)).symm).1
    refine ⟨reading.wellFormed.refreshTokens.below _ (List.mem_map_of_mem stored),
      fun row other same => ?_⟩
    rw [eq_of_key reading.wellFormed.refreshTokens.distinct other stored same]
  · exact reading.hashed event old found reads

/-- A token stays as it is in a call that does not present it, unless the call takes it. A revoked
one may also be presented. -/
theorem serve_row {request : Request} {outcome : Except Failure Response}
    (run : Runs environment (serve runtime request) before trace outcome after)
    (wellFormed : before.db.WellFormed) {row : RefreshTokenRow}
    (stored : row ∈ before.db.refreshTokens)
    (unpresented : row.revoked = false → ∀ key, request.flightKey runtime = some key →
      key.tokenHash ≠ row.tokenHash) :
    row ∈ after.db.refreshTokens ∨
      ∃ event ∈ trace, ∃ statement ∈ executed event, statement.takes row = true := by
  have traced := run.invariant (fun _ _ _ _ performs => performs_plausible performs)
    (serve_coalesced runtime request) (fun past state => Reading past state ∧
      (row ∈ state.db.refreshTokens ∨
        ∃ event ∈ past, ∃ statement ∈ executed event, statement.takes row = true))
    ⟨⟨wellFormed, by simp⟩, .inl stored⟩ ?_
  · refine traced.2.imp id fun ⟨event, member, takes⟩ => ⟨event, ?_, takes⟩
    rwa [List.append_nil, List.mem_reverse] at member
  · rintro past state effect reply next ruled ⟨reading, kept | taken⟩ performs
    · refine ⟨reading.performs performs, ?_⟩
      refine (performs_row performs kept fun live statements same listed => ?_).imp id
        fun takes => ⟨_, List.mem_cons_self, takes⟩
      -- A call exchanges only what it has read under the digest that it presents.
      subst same
      obtain ⟨key, flight, keyed, _, read, member, found, reads, id, hash, _⟩ := ruled _ listed
      have same := (reading.hashed read member found reads).2 row kept id.symm
      exact unpresented live key keyed (hash.symm.trans same.symm)
    · obtain ⟨event, member, takes⟩ := taken
      exact ⟨reading.performs performs, .inr ⟨event, List.mem_cons_of_mem _ member, takes⟩⟩

end Runs

/-! ### Bulk revocations -/

/-- What is stored under the id of the row is what became of the row. -/
def Database.Tracks (db : Database) (row : RefreshTokenRow) : Prop :=
  row.id < db.nextId ∧ ∀ stored ∈ db.refreshTokens, stored.id = row.id → row.Continues stored

theorem tracks_of_stored {db : Database} (wellFormed : db.WellFormed) {row : RefreshTokenRow}
    (stored : row ∈ db.refreshTokens) : db.Tracks row := by
  refine ⟨wellFormed.refreshTokens.below _ (List.mem_map_of_mem stored), ?_⟩
  intro other member same
  rw [eq_of_key wellFormed.refreshTokens.distinct member stored same]
  exact row.continues_refl

theorem Carried.tracks {clock : Timestamp} {db next : Database} {statement : Statement}
    (carried : Carried clock db statement next) {row : RefreshTokenRow} (tracks : db.Tracks row) :
    next.Tracks row := by
  refine ⟨Nat.lt_of_lt_of_le tracks.1 carried.nextId, fun stored member same => ?_⟩
  rcases carried.refreshTokens member with ⟨old, before, continues⟩ | ⟨data, rfl, rfl⟩
  · exact (tracks.2 old before (continues.id.symm.trans same)).trans continues
  · exact absurd (same ▸ tracks.1) (Nat.lt_irrefl _)

theorem performs_tracks {state next : State} {effect : Effect}
    {reply : Except Failure effect.Reply}
    (performs : environment.Performs state effect reply next) {row : RefreshTokenRow}
    (tracks : state.db.Tracks row) : next.db.Tracks row := by
  refine ⟨Nat.lt_of_lt_of_le tracks.1 (performs_nextId performs), fun stored member same => ?_⟩
  rcases performs_refreshTokens performs member with
    ⟨old, before, continues⟩ | ⟨_, data, fresh, _, _, above, continues⟩
  · exact (tracks.2 old before (continues.id.symm.trans same)).trans continues
  · have : fresh = row.id := continues.id.symm.trans same
    exact absurd (this ▸ above) (Nat.not_le.mpr tracks.1)

/-- A statement that revokes the row revokes what became of it. -/
theorem Carried.ends {clock : Timestamp} {db next : Database} {statement : Statement}
    (carried : Carried clock db statement next) {row : RefreshTokenRow} (tracks : db.Tracks row)
    (revokes : statement.revokes row = true) : next.Revoked row.id := by
  refine ⟨(carried.tracks tracks).1, fun stored member same => ?_⟩
  cases carried with
  | refreshTokenUpdateMany filter =>
    obtain ⟨old, before, rfl⟩ := mem_updateWhere.mp member
    split
    · rfl
    · rename_i unmatched
      rw [if_neg unmatched] at same
      have continues := tracks.2 old before same
      have holds : filter.holds row = true := revokes
      cases live : old.revoked with
      | true => rfl
      | false =>
        simp only [RefreshTokenWhere.holds, Bool.and_eq_true] at holds
        refine absurd ?_ unmatched
        simp only [RefreshTokenWhere.holds, continues.userId, continues.tokenHash,
          continues.tokenType, live, holds, Bool.not_false, Bool.and_true]
  | _ => cases revokes

/-- A run that carries out a bulk revocation of the row ends what became of it. -/
theorem runs_ended {Result : Type} {program : Async Result} {before after : State}
    {trace : List ServiceEvent} {outcome : Except Failure Result}
    (run : Runs environment program before trace outcome after) {row : RefreshTokenRow}
    (tracks : before.db.Tracks row) {event : ServiceEvent} (member : event ∈ trace)
    {statement : Statement} (listed : statement ∈ executed event)
    (revokes : statement.revokes row = true) : after.db.Revoked row.id := by
  refine run.leads (fun state => state.db.Tracks row) (fun state => state.db.Revoked row.id)
    (fun event => ∃ statement ∈ executed event, statement.revokes row = true)
    (fun _ _ _ _ performs held => performs_tracks performs held)
    (fun _ _ _ _ performs held => performs_revoked performs held) ?_ tracks member
    ⟨statement, listed, revokes⟩
  rintro state effect reply next performs tracked ⟨ending, carriedOut, ends⟩
  rcases performs_execute (performs_event performs (mem_executed carriedOut)) with
    ⟨_, ran⟩ | ⟨⟨_, failed⟩, _⟩
  · exact runAll_leads (fun db => db.Tracks row) (fun db => db.Revoked row.id) ran carriedOut
      (fun _ _ _ _ held carried => carried.tracks held)
      (fun _ _ _ _ held carried => carried.revoked held)
      (fun _ _ held carried => carried.ends held ends) tracked
  · cases failed

/-! ### The cleanup -/

section Cleanup

variable {runtime}

/-- The cleanup deletes what has expired and what is revoked, or nothing at all. -/
theorem runs_cleanupExpiredTokens {before after : State} {trace : List ServiceEvent}
    {outcome : Except Failure Unit}
    (run : Runs environment TokenCleanupTask.cleanupExpiredTokens before trace outcome after) :
    (∀ event ∈ trace, executed event = []) ∨ ∃ now, now ≤ after.clock ∧
      (∀ event ∈ trace, executed event = [] ∨ executed event = [.refreshTokenDeleteMany now]) ∧
      after.db.refreshTokens =
        deleteWhere (fun row => decide (row.expiresAt < now) || row.revoked)
          before.db.refreshTokens := by
  obtain ⟨reply, read, rest, rfl, performsNow, run⟩ := run
  obtain rfl := performs_now performsNow
  have agrees := performs_agrees performsNow rfl
  obtain ⟨reply, deleted, last, rfl, performsDelete, run⟩ := run
  cases reply with
  | error failure =>
    obtain ⟨rfl, _, _⟩ := run
    exact .inl (List.forall_mem_cons.mpr ⟨rfl, List.forall_mem_singleton.mpr rfl⟩)
  | ok done =>
    obtain ⟨rfl, _, rfl⟩ := run
    obtain ⟨carried, frames, _⟩ := performs_write_frames performsDelete
      fun clock db later carried => by cases carried; rfl
    refine .inr ⟨_, frames.clock, List.forall_mem_cons.mpr ⟨.inl rfl,
      List.forall_mem_singleton.mpr (.inr rfl)⟩, ?_⟩
    rw [← agrees.refreshTokens]
    generalize after.db = later at carried ⊢
    cases carried
    rfl

/-- Only the daily cleanup deletes tokens. -/
theorem awaits_sweepless {request : Request} (other : request ≠ .cleanupExpiredTokens)
    {statements : List Statement} (awaits : request.Awaits (.execute statements))
    (now : Timestamp) : .refreshTokenDeleteMany now ∉ statements := by
  intro listed
  have writes := awaits_writes awaits _ listed
  cases request with
  | cleanupExpiredTokens => exact other rfl
  | _ => exact writes.elim

section Call

variable {request : Request} {before after : State} {trace : List ServiceEvent}
  {outcome : Except Failure Response}

theorem uses_sweepless (other : request ≠ .cleanupExpiredTokens) {effect : Effect}
    (used : effect.Harmless ∨ request.Awaits effect ∨ ∃ outcome, effect = .respond outcome)
    {statements : List Statement} (writes : effect = .execute statements) (now : Timestamp) :
    .refreshTokenDeleteMany now ∉ statements := by
  subst writes
  rcases used with harmless | awaits | ⟨_, same⟩
  · exact harmless.elim
  · exact awaits_sweepless other awaits now
  · cases same

theorem serve_unswept (other : request ≠ .cleanupExpiredTokens)
    (run : Runs environment (serve runtime request) before trace outcome after)
    {event : ServiceEvent} (member : event ∈ trace) (now : Timestamp) :
    .refreshTokenDeleteMany now ∉ executed event := fun listed =>
  uses_sweepless other (run.uses (serve_uses runtime request) event member)
    (congrArg Event.effect (mem_executed listed)) now listed

/-- Every other call leaves something of each token stored. -/
theorem serve_persists (other : request ≠ .cleanupExpiredTokens)
    (run : Runs environment (serve runtime request) before trace outcome after)
    {row : RefreshTokenRow} (stored : row ∈ before.db.refreshTokens) :
    ∃ now ∈ after.db.refreshTokens, row.Continues now := by
  have kept : ∀ now effect reply next,
      (effect.Harmless ∨ request.Awaits effect ∨ ∃ outcome, effect = .respond outcome) →
        (∃ stored ∈ now.db.refreshTokens, row.Continues stored) →
          environment.Performs now effect reply next →
            ∃ stored ∈ next.db.refreshTokens, row.Continues stored := by
    intro now effect reply next used held performs
    refine performs_preserves (fun db => ∃ stored ∈ db.refreshTokens, row.Continues stored) performs
      ?_ ?_ (fun _ holds => holds) held
    · rintro statements writes statement listed db later ⟨stored, member, continues⟩ carried
      cases carried with
      | refreshTokenUpdate id present =>
        refine ⟨_, mem_updateWhere.mpr ⟨stored, member, rfl⟩, continues.trans ?_⟩
        split
        · exact stored.continues_revoke
        · exact stored.continues_refl
      | refreshTokenUpdateMany filter =>
        refine ⟨_, mem_updateWhere.mpr ⟨stored, member, rfl⟩, continues.trans ?_⟩
        split
        · exact stored.continues_revoke
        · exact stored.continues_refl
      | refreshTokenCreate data free => exact ⟨stored, List.mem_append_left _ member, continues⟩
      | refreshTokenDeleteMany time => exact absurd listed (uses_sweepless other used writes time)
      | _ => exact ⟨stored, member, continues⟩
    · intro data later held ran
      obtain ⟨_, _, tokens, _⟩ := register_tables ran
      rw [tokens]
      exact held
  exact run.preserves (serve_uses runtime request) kept ⟨row, stored, row.continues_refl⟩

/-- A call that deletes tokens deletes every revoked one, and of the others only expired ones. -/
theorem serve_swept
    (run : Runs environment (serve runtime request) before trace outcome after)
    {event : ServiceEvent} (member : event ∈ trace) {now : Timestamp}
    (listed : .refreshTokenDeleteMany now ∈ executed event) :
    now ≤ after.clock ∧ after.db.refreshTokens =
      deleteWhere (fun row => decide (row.expiresAt < now) || row.revoked)
        before.db.refreshTokens := by
  have effect : event.effect = .execute (executed event) :=
    congrArg Event.effect (mem_executed listed)
  have cleanup : request = .cleanupExpiredTokens := by
    by_contra other
    exact serve_unswept other run member now listed
  subst cleanup
  obtain ⟨inner, ended, rfl, ends, run⟩ := runs_serve_split run
  obtain ⟨answered, _, run⟩ := runs_wrapped run
  have inside : event ∈ inner := by
    rcases List.mem_append.mp member with inside | respond
    · exact inside
    · obtain rfl := List.mem_singleton.mp respond
      cases effect
  rcases runs_cleanupExpiredTokens run with idle | ⟨read, early, wrote, tokens⟩
  · rw [idle event inside] at listed
    cases listed
  · rcases wrote event inside with nothing | deletes
    · rw [nothing] at listed
      cases listed
    · rw [deletes, List.mem_singleton] at listed
      obtain rfl := Statement.refreshTokenDeleteMany.inj listed
      exact ⟨Int.le_trans early ends.clock, ends.refreshTokens.trans tokens⟩

end Call

end Cleanup

/-! ### Pending refreshes -/

/-- No refresh is under way. -/
def State.Idle (state : State) : Prop :=
  state.memory.pendingRefreshes = []

theorem harmless_flightless {effect : Effect} (harmless : effect.Harmless) :
    effect.flies = false := by
  cases effect with
  | joinFlight key => exact harmless.elim
  | settleFlight key flight outcome => exact harmless.elim
  | _ => rfl

theorem awaits_flightless {request : Request} (still : request.rotates = false) {effect : Effect}
    (awaits : request.Awaits effect) : effect.flies = false := by
  cases effect with
  | joinFlight _ | settleFlight _ _ _ =>
    rw [awaits_rotates awaits rfl] at still
    cases still
  | _ => rfl

/-- A program that neither starts nor settles a flight leaves the map alone. -/
theorem runs_memory {Result : Type} {program : Async Result} {before after : State}
    {trace : List ServiceEvent} {outcome : Except Failure Result}
    (run : Runs environment program before trace outcome after)
    (uses : program.Uses fun effect => effect.flies = false) : after.memory = before.memory := by
  have kept : ∀ now effect reply next, effect.flies = false → now.memory = before.memory →
      environment.Performs now effect reply next → next.memory = before.memory :=
    fun _ _ _ _ flightless same performs => (performs_memory performs flightless).trans same
  exact run.preserves uses kept rfl

theorem flightless_idle {Result : Type} {program : Async Result}
    (uses : program.Uses fun effect => effect.flies = false) :
    program.Keeps environment State.Idle := by
  intro before trace outcome after run idle
  rw [State.Idle, runs_memory run uses]
  exact idle

/-- A call that starts a flight settles it. -/
theorem runSingleFlightRefresh_idle (key : FlightKey) {task : Async AuthTokens}
    (uses : task.Uses fun effect => effect.flies = false) :
    (AuthService.runSingleFlightRefresh key task).Keeps environment State.Idle := by
  intro before trace outcome after run idle
  obtain ⟨reply, started, rest, rfl, performsJoin, run⟩ := run
  rcases performs_joinFlight performsJoin with ⟨rfl, _, joined⟩ | ⟨flight, rfl, pending, _⟩
  · have run : Runs environment (task.attempt >>= fun outcome => do
        GraconAuth.request (.settleFlight key before.memory.flights.length outcome)
        ofOutcome outcome) started rest outcome after := run
    obtain ⟨inner, last, attempted, ended, rfl, runAttempt, run⟩ := runs_bind.mp run
    obtain ⟨_, rfl, runTask⟩ := runs_attempt.mp runAttempt
    obtain ⟨answer, settled, _, rfl, performsSettle, run⟩ := run
    obtain ⟨rfl, memory⟩ := performs_settleFlight performsSettle
    obtain ⟨rfl, rfl, rfl⟩ := runs_ofOutcome.mp run
    rw [State.Idle, memory, runs_memory runTask uses, joined, idle]
    simp
  · rw [idle] at pending
    cases pending

theorem serve_idle (request : Request) : (serve runtime request).Keeps environment State.Idle := by
  cases rotates : request.rotates with
  | false =>
    refine flightless_idle ((serve_uses runtime request).mono ?_)
    rintro effect (harmless | awaits | ⟨outcome, rfl⟩)
    · exact harmless_flightless harmless
    · exact awaits_flightless rotates awaits
    · rfl
  | true =>
    have rotation : ∀ tokenHash ipAddress userAgent requireFullToken,
        (AuthService.rotateRefreshToken runtime tokenHash ipAddress userAgent
          requireFullToken).Uses fun effect => effect.flies = false :=
      fun tokenHash ipAddress userAgent requireFullToken =>
        (rotateRefreshToken_uses runtime tokenHash ipAddress userAgent requireFullToken).mono
          fun effect inside => inside.elim harmless_flightless And.right
    have respond : ∀ outcome, Program.Keeps environment State.Idle
        (GraconAuth.request (.respond outcome) >>= fun _ => ofOutcome outcome) := fun outcome =>
      flightless_idle (uses_bind (uses_perform rfl) fun _ => uses_ofOutcome _)
    cases request with
    | refreshTokens process refreshToken ipAddress userAgent =>
      refine Program.Keeps.bind (Program.Keeps.attempt (Program.Keeps.bind
        (runSingleFlightRefresh_idle _ (rotation _ _ _ _)) fun _ => ?_)) respond
      exact flightless_idle trivial
    | upgradeSession process refreshToken ipAddress userAgent =>
      refine Program.Keeps.bind (Program.Keeps.attempt (Program.Keeps.bind (Program.Keeps.bind
        (runSingleFlightRefresh_idle _ (rotation _ _ _ _)) fun _ => ?_) fun _ => ?_)) respond
      · exact flightless_idle (uses_bind (uses_throwIf _ _) fun _ => trivial)
      · exact flightless_idle trivial
    | _ => cases rotates

/-! ### Between the calls -/

section Serial

variable {runtime} {initial state : State} {log : List ServiceServed}

theorem wellFormed_after {served : ServiceServed} (valid : served.Valid (service runtime))
    (wellFormed : served.before.db.WellFormed) : served.after.db.WellFormed :=
  valid.runs.preserves (uses_any _)
    (fun _ _ _ _ _ held performs => performs_wellFormed performs held) wellFormed

theorem serial_wellFormed (serial : SerialRun (service runtime) initial log state)
    (wellFormed : initial.db.WellFormed) : state.db.WellFormed :=
  serial.preserves (fun _ _ _ _ performs held => performs_wellFormed performs held) wellFormed

/-- Between the calls no refresh is under way. -/
theorem serial_idle (serial : SerialRun (service runtime) initial log state)
    (idle : initial.Idle) : state.Idle := by
  induction serial with
  | start => exact idle
  | serve earlier valid inductionHypothesis =>
    exact serve_idle runtime _ _ _ _ _ valid.runs inductionHypothesis

/-- Time passes. -/
theorem runs_clock {Result : Type} {program : Async Result} {before after : State}
    {trace : List ServiceEvent} {outcome : Except Failure Result}
    (run : Runs environment program before trace outcome after) : before.clock ≤ after.clock := by
  have later : ∀ now effect reply next, True → before.clock ≤ now.clock →
      environment.Performs now effect reply next → before.clock ≤ next.clock :=
    fun _ _ _ _ _ early performs => Int.le_trans early (performs_clock performs)
  exact run.preserves (uses_any program) later (Int.le_refl _)

/-- There is an account with this id. -/
def Database.Account (db : Database) (userId : UserId) : Prop :=
  ∃ user ∈ db.users, user.id = userId

/-- An account stays. -/
theorem performs_account {state next : State} {effect : Effect}
    {reply : Except Failure effect.Reply}
    (performs : environment.Performs state effect reply next) {userId : UserId}
    (account : state.db.Account userId) : next.db.Account userId := by
  refine performs_preserves (fun db => db.Account userId) performs ?_ ?_ (fun _ holds => holds)
    account
  · intro statements _ statement _ now later holds carried
    cases carried with
    | userUpdate id data present free =>
      obtain ⟨user, stored, same⟩ := holds
      refine ⟨_, mem_updateWhere.mpr ⟨user, stored, rfl⟩, ?_⟩
      split
      · exact same
      · exact same
    | _ => exact holds
  · intro data later holds ran
    obtain ⟨user, stored, same⟩ := holds
    obtain ⟨_, ⟨_, users, _⟩, _⟩ := register_tables ran
    rw [Database.Account, users]
    exact ⟨user, List.mem_append_left _ stored, same⟩

/-- A stored token is found with its account. -/
theorem found_of_stored {db : Database} (wellFormed : db.WellFormed) {row : RefreshTokenRow}
    (stored : row ∈ db.refreshTokens) (account : db.Account row.userId) :
    ∃ user, db.findRefreshTokenWithUser row.tokenHash = some (row, user) := by
  have found : db.findRefreshToken row.tokenHash = some row := by
    unfold Database.findRefreshToken
    cases lookup : db.refreshTokens.find? fun other => other.tokenHash == row.tokenHash with
    | none => exact absurd (beq_self_eq_true _) (List.find?_eq_none.mp lookup row stored)
    | some other =>
      have same : other.tokenHash = row.tokenHash := by simpa using List.find?_some lookup
      rw [eq_of_key wellFormed.tokenHashes (List.mem_of_find?_eq_some lookup) stored same]
  obtain ⟨user, member, same⟩ := account
  have owner : ∃ user, db.findUser (.byId row.userId) = some user := by
    refine Option.isSome_iff_exists.mp (List.find?_isSome.mpr ⟨user, member, ?_⟩)
    simpa [UserWhere.holds] using same
  obtain ⟨owner, foundOwner⟩ := owner
  exact ⟨owner, by simp [Database.findRefreshTokenWithUser, found, foundOwner]⟩

/-- Every stored token is stored under the digest of a token that has been drawn. -/
def Traced (runtime : Runtime) (state : State) : Prop :=
  ∀ row ∈ state.db.refreshTokens, ∃ token ∈ state.drawn, runtime.hash token = row.tokenHash

/-- A token minted by a call is one of those that it has drawn. -/
theorem mem_drawnBy_of_minted {served : ServiceServed} {tokenHash : TokenHash}
    (mints : Minted runtime served.trace tokenHash) :
    ∃ token ∈ drawnBy served, runtime.hash token = tokenHash := by
  obtain ⟨event, member, token, drawn, same⟩ := mints
  exact ⟨token, mem_drawnBy.mpr ⟨event, member, drawn⟩, same⟩

/-- The digest of a token that a call has drawn is not that of a token drawn before. -/
theorem drawn_apart {served : ServiceServed} (valid : served.Valid (service runtime))
    (distinct : (served.after.drawn.map runtime.hash).Nodup) {token earlier : RawToken}
    (fresh : token ∈ drawnBy served) (old : earlier ∈ served.before.drawn) :
    runtime.hash token ≠ runtime.hash earlier := by
  rw [runs_drawn valid.runs, List.map_append] at distinct
  exact (List.nodup_append.mp distinct).2.2 _ (List.mem_map_of_mem fresh) _
    (List.mem_map_of_mem old)

/-- What every row of a digest keeps, the rows of that digest keep in a call that comes after the
digest was drawn: no other row is ever stored under it. -/
theorem digest_serve {served : ServiceServed} (valid : served.Valid (service runtime))
    {tokenHash : TokenHash} (drawn : ∃ raw ∈ served.before.drawn, runtime.hash raw = tokenHash)
    (distinct : (served.after.drawn.map runtime.hash).Nodup) (holds : RefreshTokenRow → Prop)
    (keeps : ∀ old row, RefreshTokenRow.Continues old row → holds old → holds row)
    (held : ∀ row ∈ served.before.db.refreshTokens, row.tokenHash = tokenHash → holds row) :
    ∀ row ∈ served.after.db.refreshTokens, row.tokenHash = tokenHash → holds row := by
  intro row stored same
  rcases serve_tokens valid.runs stored with ⟨old, before, continues⟩ | mints
  · exact keeps old row continues (held old before (continues.tokenHash.symm.trans same))
  · obtain ⟨fresh, drew, hash⟩ := mem_drawnBy_of_minted mints
    obtain ⟨earlier, old, first⟩ := drawn
    exact absurd ((hash.trans same).trans first.symm) (drawn_apart valid distinct drew old)

/-- The tokens drawn before a call are distinct when those drawn after it are. -/
theorem distinct_before {served : ServiceServed} (valid : served.Valid (service runtime))
    (distinct : (served.after.drawn.map runtime.hash).Nodup) :
    (served.before.drawn.map runtime.hash).Nodup := by
  rw [runs_drawn valid.runs, List.map_append] at distinct
  exact distinct.of_append_right

/-- Likewise for those drawn before a run. -/
theorem distinct_initial (serial : SerialRun (service runtime) initial log state)
    (distinct : (state.drawn.map runtime.hash).Nodup) :
    (initial.drawn.map runtime.hash).Nodup := by
  rw [serial_drawn serial, List.map_append] at distinct
  exact distinct.of_append_right

theorem empty_traced (runtime : Runtime) (clock : Timestamp) :
    Traced runtime (State.empty clock) := by
  simp [Traced, State.empty]

theorem serial_traced (serial : SerialRun (service runtime) initial log state)
    (traced : Traced runtime initial) : Traced runtime state := by
  induction serial with
  | start => exact traced
  | @serve log served earlier valid inductionHypothesis =>
    intro row stored
    rw [runs_drawn valid.runs]
    rcases serve_tokens valid.runs stored with ⟨old, before, continues⟩ | mints
    · obtain ⟨token, drawn, same⟩ := inductionHypothesis old before
      exact ⟨token, List.mem_append_right _ drawn, same.trans continues.tokenHash.symm⟩
    · obtain ⟨token, drawn, same⟩ := mem_drawnBy_of_minted mints
      exact ⟨token, List.mem_append_left _ drawn, same⟩

end Serial

end GraconAuth
