/-
This file says once what a call that exchanges a refresh token can do when it is
served alone: which rows it revokes, which row it stores, what it answers, and
which statements the database has refused on the way. The results about serial
runs look at a rotation only through these lemmas.
-/

import GraconAuth.Footprints
import GraconAuth.Tables
import GraconAuth.Serial

namespace GraconAuth

open Interleaving Program Rows

variable {runtime : Runtime} {before after : State} {trace : List ServiceEvent}

/-! ### Faults of the database -/

/-- The effect is a query or a write. -/
def Effect.asksDatabase : Effect → Bool
  | .userFindUnique _ | .citizenIdentityFindFirst _ _ | .refreshTokenFindUnique _
  | .emailVerificationTokenFindUnique _ | .emailVerificationTokenCount _ _
  | .passwordResetTokenFindFirst _ _ | .idVerificationFindMany _ _
  | .idVerificationFindLatest _ | .idVerificationCount _ | .execute _
  | .registerTransaction _ => true
  | _ => false

/-- The database has failed to carry out a query or a write. -/
def struck (event : ServiceEvent) : Bool :=
  event.effect.asksDatabase && !event.reply.isOk

/-- The database has failed to store a refresh token. -/
def struckInsert : ServiceEvent → Bool
  | ⟨.execute [.refreshTokenCreate _], .error _⟩ => true
  | _ => false

theorem struck_of_struckInsert {event : ServiceEvent} (inserts : struckInsert event = true) :
    struck event = true := by
  unfold struckInsert at inserts
  split at inserts
  · rfl
  · cases inserts

/-! ### What most effects leave alone -/

/-- The accounts are the same, and time has passed. -/
structure State.Frames (first second : State) : Prop where
  users : second.db.users = first.db.users
  clock : first.clock ≤ second.clock

/-- The refresh tokens are the same as well, and no random token has been drawn. -/
structure State.Agrees (first second : State) : Prop extends first.Frames second where
  refreshTokens : second.db.refreshTokens = first.db.refreshTokens
  drawn : second.drawn = first.drawn

theorem State.frames_refl (state : State) : state.Frames state :=
  ⟨rfl, Int.le_refl _⟩

theorem State.Frames.trans {first second third : State} (earlier : first.Frames second)
    (later : second.Frames third) : first.Frames third :=
  ⟨later.users.trans earlier.users, Int.le_trans earlier.clock later.clock⟩

theorem State.agrees_refl (state : State) : state.Agrees state :=
  ⟨state.frames_refl, rfl, rfl⟩

theorem State.Agrees.trans {first second third : State} (earlier : first.Agrees second)
    (later : second.Agrees third) : first.Agrees third :=
  ⟨earlier.toFrames.trans later.toFrames, later.refreshTokens.trans earlier.refreshTokens,
    later.drawn.trans earlier.drawn⟩

/-- The effect neither writes nor draws a token. -/
def Effect.quiet : Effect → Bool
  | .execute _ | .registerTransaction _ | .randomToken => false
  | _ => true

section Performs

variable {state next : State} {effect : Effect} {reply : Except Failure effect.Reply}

theorem performs_agrees (performs : environment.Performs state effect reply next)
    (quiet : effect.quiet = true) : state.Agrees next := by
  have clock := performs_clock performs
  obtain ⟨elapsed, change⟩ := performs_change performs
  generalize same : (⟨effect, reply⟩ : ServiceEvent) = event at change
  have quiet : event.effect.quiet = true := by
    rw [← same]
    exact quiet
  cases change with
  | executed statements db ran => cases quiet
  | registered data db ran => cases quiet
  | drew text => cases quiet
  | _ => exact ⟨⟨rfl, clock⟩, rfl, rfl⟩

/-- A write draws no token. -/
theorem performs_write {statements : List Statement} {reply : Except Failure Unit}
    (performs : environment.Performs state (.execute statements) reply next) :
    next.drawn = state.drawn := by
  rcases performs_drawn performs with same | ⟨text, drawn, _⟩
  · exact same
  · cases drawn

/-- A write that fails leaves everything alone. -/
theorem performs_write_failed {statements : List Statement} {failure : Failure}
    (performs : environment.Performs state (.execute statements) (.error failure) next) :
    state.Agrees next := by
  rcases performs_execute performs with ⟨failed, _⟩ | ⟨_, same⟩
  · cases failed
  · exact ⟨⟨by rw [same], performs_clock performs⟩, by rw [same], performs_write performs⟩

/-- A write to the refresh tokens leaves the accounts alone. -/
theorem performs_write_frames {statement : Statement}
    (performs : environment.Performs state (.execute [statement]) (.ok ()) next)
    (users : ∀ clock db later, Carried clock db statement later → later.users = db.users) :
    Carried next.clock state.db statement next.db ∧ state.Frames next ∧
      next.drawn = state.drawn := by
  rcases performs_execute performs with ⟨_, ran⟩ | ⟨⟨_, failed⟩, _⟩
  · have carried := runAll_singleton ran
    exact ⟨carried, ⟨users _ _ _ carried, performs_clock performs⟩, performs_write performs⟩
  · cases failed

theorem performs_refreshTokenUpdate {id : RowId}
    (performs : environment.Performs state (.execute [.refreshTokenUpdate id]) (.ok ()) next) :
    next.db.refreshTokens = updateWhere (fun row => row.id == id) RefreshTokenRow.revoke
      state.db.refreshTokens ∧ state.Frames next ∧ next.drawn = state.drawn := by
  obtain ⟨carried, frames, drawn⟩ := performs_write_frames performs fun clock db later carried => by
    cases carried
    rfl
  refine ⟨?_, frames, drawn⟩
  generalize next.db = later at carried ⊢
  cases carried
  rfl

theorem performs_refreshTokenUpdateMany {filter : RefreshTokenWhere}
    (performs : environment.Performs state (.execute [.refreshTokenUpdateMany filter]) (.ok ())
      next) :
    next.db.refreshTokens = updateWhere filter.holds RefreshTokenRow.revoke
      state.db.refreshTokens ∧ state.Frames next ∧ next.drawn = state.drawn := by
  obtain ⟨carried, frames, drawn⟩ := performs_write_frames performs fun clock db later carried => by
    cases carried
    rfl
  refine ⟨?_, frames, drawn⟩
  generalize next.db = later at carried ⊢
  cases carried
  rfl

theorem performs_insert {data : RefreshTokenCreate}
    (performs : environment.Performs state (.execute [.refreshTokenCreate data]) (.ok ()) next) :
    next.db.refreshTokens = state.db.refreshTokens ++ [data.row state.db.nextId] ∧
      (∀ row ∈ state.db.refreshTokens, row.tokenHash ≠ data.tokenHash) ∧
        state.Frames next ∧ next.drawn = state.drawn := by
  obtain ⟨carried, frames, drawn⟩ := performs_write_frames performs fun clock db later carried => by
    cases carried
    rfl
  obtain ⟨stores, free⟩ := performs_refreshTokenCreate performs
  exact ⟨by rw [stores], free, frames, drawn⟩

/-- A drawn token leaves everything but the record of the draws alone. -/
theorem performs_draw {reply : Except Failure RawToken}
    (performs : environment.Performs state .randomToken reply next) :
    ∃ raw, reply = .ok raw ∧ next.drawn = raw :: state.drawn ∧ state.Frames next ∧
      next.db.refreshTokens = state.db.refreshTokens := by
  have clock := performs_clock performs
  obtain ⟨choice, answered⟩ := performs
  simp only [environment, State.answer, Option.some.injEq, Prod.mk.injEq] at answered
  obtain ⟨rfl, rfl⟩ := answered
  exact ⟨choice.text, rfl, rfl, ⟨rfl, clock⟩, rfl⟩

theorem performs_sign {payload : JwtPayload} {expiresIn : String} {reply : Except Failure Jwt}
    (performs : environment.Performs state (.sign payload expiresIn) reply next) :
    reply = .ok ⟨payload, expiresIn⟩ := by
  obtain ⟨choice, answered⟩ := performs
  simp only [environment, State.answer, Option.some.injEq, Prod.mk.injEq] at answered
  exact answered.1.symm

theorem performs_securityEvent {eventType : SecurityEvent} {userId : Option UserId}
    {ipAddress : Option String} {reply : Except Failure Unit}
    (performs : environment.Performs state (.securityEvent eventType userId ipAddress) reply next) :
    reply = .ok () := by
  obtain ⟨choice, answered⟩ := performs
  simp only [environment, State.answer] at answered
  split at answered
  · simp only [Option.some.injEq, Prod.mk.injEq] at answered
    exact answered.1.symm
  · simp only [Option.some.injEq, Prod.mk.injEq] at answered
    exact answered.1.symm

end Performs

theorem harmless_quiet {effect : Effect} (harmless : effect.Harmless) : effect.quiet = true := by
  cases effect with
  | execute statements => exact harmless.elim
  | registerTransaction data => exact harmless.elim
  | randomToken => exact harmless.elim
  | _ => rfl

theorem runs_agrees {Result : Type} {program : Async Result} {outcome : Except Failure Result}
    (run : Runs environment program before trace outcome after)
    (uses : program.Uses Effect.Harmless) : before.Agrees after :=
  run.preserves uses (fun _ _ _ _ harmless agrees performs =>
    agrees.trans (performs_agrees performs (harmless_quiet harmless))) before.agrees_refl

/-- The lookup of a token looks at the refresh tokens and the accounts only. -/
theorem State.Agrees.lookup (agrees : before.Agrees after) (tokenHash : TokenHash) :
    after.db.findRefreshTokenWithUser tokenHash = before.db.findRefreshTokenWithUser tokenHash := by
  simp only [Database.findRefreshTokenWithUser, Database.findRefreshToken, Database.findUser,
    agrees.refreshTokens, agrees.users]

/-! ### Issuing tokens -/

/-- What issuing a session can come to: the row is stored and its token is given out, or the
database refuses the row. -/
inductive Issue (runtime : Runtime) (userId : UserId) (tokenType : TokenType) (before : State) :
    List ServiceEvent → Except Failure AuthTokens → State → Prop
  | stored {trace : List ServiceEvent} {after : State} (accessToken : Jwt) (raw : RawToken)
      (row : RefreshTokenRow) (unstruck : ∀ event ∈ trace, struck event = false)
      (owner : row.userId = userId) (hash : row.tokenHash = runtime.hash raw)
      (type : row.tokenType = some tokenType) (live : row.revoked = false)
      (free : ∀ old ∈ before.db.refreshTokens, old.tokenHash ≠ row.tokenHash)
      (tokens : after.db.refreshTokens = before.db.refreshTokens ++ [row])
      (drawn : after.drawn = raw :: before.drawn) (frames : before.Frames after) :
      Issue runtime userId tokenType before trace (.ok ⟨accessToken, raw, tokenType⟩) after
  | refused {trace : List ServiceEvent} {after : State} (failure : Failure) (raw : RawToken)
      (insert : ∃ event ∈ trace, struckInsert event = true)
      (tokens : after.db.refreshTokens = before.db.refreshTokens)
      (drawn : after.drawn = raw :: before.drawn) (frames : before.Frames after) :
      Issue runtime userId tokenType before trace (.error failure) after

theorem runs_generateTokens {userId : UserId} {email : Email} {ipAddress userAgent : String}
    {tokenType : TokenType} {outcome : Except Failure AuthTokens}
    (run : Runs environment (AuthService.generateTokens runtime userId email ipAddress userAgent
      tokenType) before trace outcome after) :
    Issue runtime userId tokenType before trace outcome after := by
  obtain ⟨_, signed, _, rfl, performsSign, run⟩ := run
  obtain rfl := performs_sign performsSign
  have agrees := performs_agrees performsSign rfl
  obtain ⟨_, drawn, _, rfl, performsDraw, run⟩ := run
  obtain ⟨raw, rfl, draws, framesDraw, tokensDraw⟩ := performs_draw performsDraw
  obtain ⟨_, read, _, rfl, performsNow, run⟩ := run
  obtain rfl := performs_now performsNow
  have agreesNow := performs_agrees performsNow rfl
  have frames : before.Frames read := (agrees.toFrames.trans framesDraw).trans agreesNow.toFrames
  have tokens : read.db.refreshTokens = before.db.refreshTokens := by
    rw [agreesNow.refreshTokens, tokensDraw, agrees.refreshTokens]
  have draws : read.drawn = raw :: before.drawn := by
    rw [agreesNow.drawn, draws, agrees.drawn]
  obtain ⟨reply, stored, _, rfl, performsInsert, run⟩ := run
  cases reply with
  | ok value =>
    obtain ⟨rfl, rfl, rfl⟩ := run
    obtain ⟨inserted, free, framesInsert, drawnInsert⟩ := performs_insert performsInsert
    rw [tokens] at inserted free
    refine .stored _ raw _ ?_ rfl rfl rfl rfl free inserted (drawnInsert.trans draws)
      (frames.trans framesInsert)
    exact List.forall_mem_cons.mpr ⟨rfl, List.forall_mem_cons.mpr ⟨rfl, List.forall_mem_cons.mpr
      ⟨rfl, List.forall_mem_singleton.mpr rfl⟩⟩⟩
  | error failure =>
    obtain ⟨rfl, rfl, rfl⟩ := run
    have agreesInsert := performs_write_failed performsInsert
    exact .refused failure raw ⟨_, .tail _ (.tail _ (.tail _ (.head _))), rfl⟩
      (agreesInsert.refreshTokens.trans tokens)
      (agreesInsert.drawn.trans draws) (frames.trans agreesInsert.toFrames)

/-! ### Rotating a token -/

/-- What the rotation of a token can come to.

- `kept`: it fails and changes nothing, because the database has failed, the token is unknown, or
  it is live but may not be exchanged now.
- `ended`: the token is revoked, and every session of its user is ended.
- `halted`: the token is revoked now, but the database has refused the row of its successor.
- `exchanged`: the token is revoked now, and its successor is stored and given out. -/
inductive Rotation (runtime : Runtime) (tokenHash : TokenHash) (requireFullToken : Bool)
    (before : State) : List ServiceEvent → Except Failure AuthTokens → State → Prop
  | kept {trace : List ServiceEvent} {after : State} (failure : Failure)
      (uninserted : ∀ event ∈ trace, struckInsert event = false)
      (because : (∃ event ∈ trace, struck event = true) ∨
        before.db.findRefreshTokenWithUser tokenHash = none ∨ ∃ storedToken user,
          before.db.findRefreshTokenWithUser tokenHash = some (storedToken, user) ∧
            storedToken.revoked = false ∧ (storedToken.expiresAt < after.clock ∨
              user.isActive = false ∨ requireFullToken = true ∧ user.isIdVerified = false))
      (agrees : before.Agrees after) :
      Rotation runtime tokenHash requireFullToken before trace (.error failure) after
  | ended {trace : List ServiceEvent} {after : State} (failure : Failure)
      (storedToken : RefreshTokenRow) (user : UserRow)
      (found : before.db.findRefreshTokenWithUser tokenHash = some (storedToken, user))
      (revoked : storedToken.revoked = true) (unstruck : ∀ event ∈ trace, struck event = false)
      (tokens : after.db.refreshTokens = updateWhere
        (RefreshTokenWhere.holds { userId := some storedToken.userId }) RefreshTokenRow.revoke
        before.db.refreshTokens)
      (drawn : after.drawn = before.drawn) (frames : before.Frames after) :
      Rotation runtime tokenHash requireFullToken before trace (.error failure) after
  | halted {trace : List ServiceEvent} {after : State} (failure : Failure)
      (storedToken : RefreshTokenRow) (user : UserRow) (raw : RawToken)
      (found : before.db.findRefreshTokenWithUser tokenHash = some (storedToken, user))
      (live : storedToken.revoked = false)
      (insert : ∃ event ∈ trace, struckInsert event = true)
      (tokens : after.db.refreshTokens = updateWhere (fun row => row.id == storedToken.id)
        RefreshTokenRow.revoke before.db.refreshTokens)
      (drawn : after.drawn = raw :: before.drawn) (frames : before.Frames after) :
      Rotation runtime tokenHash requireFullToken before trace (.error failure) after
  | exchanged {trace : List ServiceEvent} {after : State} (storedToken : RefreshTokenRow)
      (user : UserRow) (accessToken : Jwt) (raw : RawToken) (row : RefreshTokenRow)
      (found : before.db.findRefreshTokenWithUser tokenHash = some (storedToken, user))
      (live : storedToken.revoked = false)
      (permitted : requireFullToken = true → user.isIdVerified = true)
      (unstruck : ∀ event ∈ trace, struck event = false)
      (owner : row.userId = storedToken.userId) (hash : row.tokenHash = runtime.hash raw)
      (unrevoked : row.revoked = false)
      (tokens : after.db.refreshTokens = updateWhere (fun row => row.id == storedToken.id)
        RefreshTokenRow.revoke before.db.refreshTokens ++ [row])
      (drawn : after.drawn = raw :: before.drawn) (frames : before.Frames after) :
      Rotation runtime tokenHash requireFullToken before trace
        (.ok ⟨accessToken, raw, AuthService.rotatedTokenType storedToken user⟩) after

/-- The rejection of a revoked token. -/
theorem runs_rejectRevoked {userId : UserId} {ipAddress : String}
    {outcome : Except Failure AuthTokens}
    (run : Runs environment (AuthService.rejectRevoked userId ipAddress) before trace outcome
      after) :
    (∃ failure, outcome = .error failure) ∧ (∀ event ∈ trace, struckInsert event = false) ∧
      ((∃ event ∈ trace, struck event = true) ∧ before.Agrees after ∨
        (∀ event ∈ trace, struck event = false) ∧
          after.db.refreshTokens = updateWhere
            (RefreshTokenWhere.holds { userId := some userId }) RefreshTokenRow.revoke
            before.db.refreshTokens ∧ after.drawn = before.drawn ∧ before.Frames after) := by
  obtain ⟨reply, between, _, rfl, performsUpdate, run⟩ := run
  cases reply with
  | error failure =>
    obtain ⟨rfl, rfl, rfl⟩ := run
    exact ⟨⟨failure, rfl⟩, List.forall_mem_singleton.mpr rfl, .inl ⟨⟨_, List.mem_cons_self, rfl⟩,
      performs_write_failed performsUpdate⟩⟩
  | ok value =>
    obtain ⟨_, last, _, rfl, performsEvent, run⟩ := run
    obtain rfl := performs_securityEvent performsEvent
    obtain ⟨rfl, rfl, rfl⟩ := run
    obtain ⟨tokens, frames, drawn⟩ := performs_refreshTokenUpdateMany performsUpdate
    have agrees := performs_agrees performsEvent rfl
    exact ⟨⟨_, rfl⟩, List.forall_mem_cons.mpr ⟨rfl, List.forall_mem_singleton.mpr rfl⟩,
      .inr ⟨List.forall_mem_cons.mpr ⟨rfl, List.forall_mem_singleton.mpr rfl⟩,
        agrees.refreshTokens.trans tokens,
      agrees.drawn.trans drawn, frames.trans agrees.toFrames⟩⟩

section Rotate

variable {storedToken : RefreshTokenRow} {user : UserRow} {ipAddress userAgent : String}
  {requireFullToken : Bool} {outcome : Except Failure AuthTokens}

/-- The exchange of a live token. -/
theorem runs_exchangeToken
    (run : Runs environment (AuthService.exchangeToken runtime storedToken user ipAddress userAgent)
      before trace outcome after) :
    ∃ first rest between, trace = first :: rest ∧ struckInsert first = false ∧
      (struck first = true ∧ rest = [] ∧ (∃ failure, outcome = .error failure) ∧
          before.Agrees after ∨
        struck first = false ∧ between.db.refreshTokens = updateWhere
          (fun row => row.id == storedToken.id) RefreshTokenRow.revoke before.db.refreshTokens ∧
            before.Frames between ∧ between.drawn = before.drawn ∧
              Issue runtime user.id (AuthService.rotatedTokenType storedToken user) between rest
                outcome after) := by
  obtain ⟨reply, between, rest, rfl, performsUpdate, run⟩ := run
  refine ⟨_, rest, between, rfl, rfl, ?_⟩
  cases reply with
  | error failure =>
    obtain ⟨rfl, rfl, rfl⟩ := run
    exact .inl ⟨rfl, rfl, ⟨failure, rfl⟩, performs_write_failed performsUpdate⟩
  | ok value =>
    obtain ⟨tokens, frames, drawn⟩ := performs_refreshTokenUpdate performsUpdate
    exact .inr ⟨rfl, tokens, frames, drawn, runs_generateTokens run⟩

theorem runs_rotateRefreshToken {tokenHash : TokenHash}
    (run : Runs environment (AuthService.rotateRefreshToken runtime tokenHash ipAddress userAgent
      requireFullToken) before trace outcome after) :
    Rotation runtime tokenHash requireFullToken before trace outcome after := by
  obtain ⟨reply, asked, rest, rfl, performsFind, run⟩ := run
  have agrees := performs_agrees performsFind rfl
  cases reply with
  | error failure =>
    obtain ⟨rfl, rfl, rfl⟩ := run
    exact .kept failure (List.forall_mem_singleton.mpr rfl)
      (.inl ⟨_, List.mem_singleton_self _, rfl⟩) agrees
  | ok found =>
    have answer := performs_refreshTokenFindUnique performsFind
    cases found with
    | none =>
      obtain ⟨rfl, rfl, rfl⟩ := run
      exact .kept _ (List.forall_mem_singleton.mpr rfl) (.inr (.inl answer.symm)) agrees
    | some pair =>
      obtain ⟨storedToken, user⟩ := pair
      change Runs environment (if storedToken.revoked = true then
        AuthService.rejectRevoked storedToken.userId ipAddress else
        AuthService.rotateLiveToken runtime storedToken user ipAddress userAgent requireFullToken)
        asked rest outcome after at run
      by_cases revoked : storedToken.revoked = true
      · rw [if_pos revoked] at run
        obtain ⟨⟨failure, rfl⟩, uninserted, ended⟩ := runs_rejectRevoked run
        rcases ended with ⟨⟨event, member, stricken⟩, unchanged⟩ |
          ⟨unstruck, tokens, drawn, frames⟩
        · exact .kept failure (List.forall_mem_cons.mpr ⟨rfl, uninserted⟩)
            (.inl ⟨event, List.mem_cons_of_mem _ member, stricken⟩) (agrees.trans unchanged)
        · rw [agrees.refreshTokens] at tokens
          exact .ended failure storedToken user answer.symm revoked
            (List.forall_mem_cons.mpr ⟨rfl, unstruck⟩) tokens (drawn.trans agrees.drawn)
            (agrees.toFrames.trans frames)
      · rw [if_neg revoked] at run
        have live : storedToken.revoked = false := Bool.eq_false_of_not_eq_true revoked
        obtain ⟨reply, read, rest, rfl, performsNow, run⟩ := run
        obtain rfl := performs_now performsNow
        have agrees := agrees.trans (performs_agrees performsNow rfl)
        rcases runs_throwIf_bind.mp run with ⟨late, rfl, rfl, rfl⟩ | ⟨_, run⟩
        · exact .kept _ (List.forall_mem_cons.mpr ⟨rfl, List.forall_mem_singleton.mpr rfl⟩)
            (.inr (.inr ⟨storedToken, user, answer.symm, live, .inl (of_decide_eq_true late)⟩))
            agrees
        rcases runs_throwIf_bind.mp run with ⟨inactive, rfl, rfl, rfl⟩ | ⟨_, run⟩
        · exact .kept _ (List.forall_mem_cons.mpr ⟨rfl, List.forall_mem_singleton.mpr rfl⟩)
            (.inr (.inr ⟨storedToken, user, answer.symm, live,
              .inr (.inl (by simpa using inactive))⟩)) agrees
        rcases runs_throwIf_bind.mp run with ⟨unverified, rfl, rfl, rfl⟩ | ⟨permitted, run⟩
        · exact .kept _ (List.forall_mem_cons.mpr ⟨rfl, List.forall_mem_singleton.mpr rfl⟩)
            (.inr (.inr ⟨storedToken, user, answer.symm, live,
              .inr (.inr (by simpa using unverified))⟩)) agrees
        obtain ⟨first, rest, between, rfl, noInsert, exchange⟩ := runs_exchangeToken run
        rcases exchange with ⟨stricken, rfl, ⟨failure, rfl⟩, unchanged⟩ |
          ⟨unstruck, tokens, frames, drawn, issue⟩
        · exact .kept failure
            (List.forall_mem_cons.mpr ⟨rfl, List.forall_mem_cons.mpr ⟨rfl,
              List.forall_mem_singleton.mpr noInsert⟩⟩)
            (.inl ⟨first, .tail _ (.tail _ (.head _)), stricken⟩) (agrees.trans unchanged)
        · rw [agrees.refreshTokens] at tokens
          have frames := agrees.toFrames.trans frames
          have drawn := drawn.trans agrees.drawn
          cases issue with
          | refused failure raw insert kept draws framesIssue =>
            obtain ⟨event, member, inserted⟩ := insert
            exact .halted failure storedToken user raw answer.symm live
              ⟨event, .tail _ (.tail _ (.tail _ member)), inserted⟩ (kept.trans tokens)
              (draws.trans (congrArg _ drawn)) (frames.trans framesIssue)
          | stored accessToken raw row unstruckIssue owner hash type unrevoked free stored draws
              framesIssue =>
            have ownerOf := (findRefreshTokenWithUser_some answer.symm).2.2.2
            exact .exchanged storedToken user accessToken raw row answer.symm live
              (by simpa using permitted)
              (List.forall_mem_cons.mpr ⟨rfl, List.forall_mem_cons.mpr ⟨rfl,
                List.forall_mem_cons.mpr ⟨unstruck, unstruckIssue⟩⟩⟩)
              (owner.trans ownerOf) hash unrevoked (by rw [stored, tokens])
              (draws.trans (congrArg _ drawn)) (frames.trans framesIssue)

end Rotate

/-- One run is another one with events around it that neither ask the database nor draw a
token. -/
structure Framed (before : State) (trace : List ServiceEvent) (after started : State)
    (inner : List ServiceEvent) (ended : State) : Prop where
  starts : before.Agrees started
  ends : ended.Agrees after
  kept : ∀ event ∈ inner, event ∈ trace
  added : ∀ event ∈ trace, event ∈ inner ∨ event.effect.asksDatabase = false

/-- A rotation stays one when it is framed. -/
theorem Rotation.framed {tokenHash : TokenHash} {requireFullToken : Bool} {started ended : State}
    {inner : List ServiceEvent} {outcome : Except Failure AuthTokens}
    (rotation : Rotation runtime tokenHash requireFullToken started inner outcome ended)
    (framed : Framed before trace after started inner ended) :
    Rotation runtime tokenHash requireFullToken before trace outcome after := by
  obtain ⟨starts, ends, kept, added⟩ := framed
  have unstruck : (∀ event ∈ inner, struck event = false) →
      ∀ event ∈ trace, struck event = false := by
    intro unstruck event member
    rcases added event member with old | framing
    · exact unstruck event old
    · rw [struck, framing, Bool.false_and]
  have uninserted : (∀ event ∈ inner, struckInsert event = false) →
      ∀ event ∈ trace, struckInsert event = false := by
    intro uninserted event member
    rcases added event member with old | framing
    · exact uninserted event old
    · unfold struckInsert
      split
      · cases framing
      · rfl
  cases rotation with
  | kept failure noInsert because agrees =>
    refine .kept failure (uninserted noInsert) ?_ ((starts.trans agrees).trans ends)
    rw [← starts.lookup]
    refine because.imp (fun ⟨event, member, stricken⟩ => ⟨event, kept event member, stricken⟩) ?_
    refine Or.imp id fun ⟨storedToken, user, found, live, reason⟩ =>
      ⟨storedToken, user, found, live, reason.imp (fun late => ?_) id⟩
    exact Int.lt_of_lt_of_le late ends.clock
  | ended failure storedToken user found revoked noStrike tokens drawn frames =>
    rw [starts.lookup] at found
    rw [starts.refreshTokens] at tokens
    exact .ended failure storedToken user found revoked (unstruck noStrike)
      (ends.refreshTokens.trans tokens) (ends.drawn.trans (drawn.trans starts.drawn))
      ((starts.toFrames.trans frames).trans ends.toFrames)
  | halted failure storedToken user raw found live insert tokens drawn frames =>
    rw [starts.lookup] at found
    rw [starts.refreshTokens] at tokens
    rw [starts.drawn] at drawn
    obtain ⟨event, member, inserts⟩ := insert
    exact .halted failure storedToken user raw found live ⟨event, kept event member, inserts⟩
      (ends.refreshTokens.trans tokens) (ends.drawn.trans drawn)
      ((starts.toFrames.trans frames).trans ends.toFrames)
  | exchanged storedToken user accessToken raw row found live permitted noStrike owner hash
      unrevoked tokens drawn frames =>
    rw [starts.lookup] at found
    rw [starts.refreshTokens] at tokens
    rw [starts.drawn] at drawn
    exact .exchanged storedToken user accessToken raw row found live permitted (unstruck noStrike)
      owner hash unrevoked (ends.refreshTokens.trans tokens) (ends.drawn.trans drawn)
      ((starts.toFrames.trans frames).trans ends.toFrames)

/-! ### Rotating behind the map of pending refreshes -/

/-- A call that finds no flight of its key carries the rotation out itself; one that finds a
flight asks the database for nothing. -/
theorem runs_runSingleFlightRefresh {key : FlightKey} {task : Async AuthTokens}
    {outcome : Except Failure AuthTokens}
    (run : Runs environment (AuthService.runSingleFlightRefresh key task) before trace outcome
      after) :
    (∃ started inner ended, Framed before trace after started inner ended ∧
        Runs environment task started inner outcome ended) ∨
      (∃ entry ∈ before.memory.pendingRefreshes, entry.1 = key) ∧
        ∀ event ∈ trace, struck event = false := by
  obtain ⟨reply, started, rest, rfl, performsJoin, run⟩ := run
  have starts := performs_agrees performsJoin rfl
  rcases performs_joinFlight performsJoin with ⟨rfl, _, _⟩ | ⟨flight, rfl, pending, _⟩
  · left
    have run : Runs environment (task.attempt >>= fun outcome => do
        GraconAuth.request (.settleFlight key before.memory.flights.length outcome)
        ofOutcome outcome) started rest outcome after := run
    obtain ⟨inner, last, attempted, ended, rfl, runAttempt, run⟩ := runs_bind.mp run
    obtain ⟨_, rfl, runTask⟩ := runs_attempt.mp runAttempt
    obtain ⟨answer, settled, _, rfl, performsSettle, run⟩ := run
    obtain ⟨rfl, _⟩ := performs_settleFlight performsSettle
    obtain ⟨rfl, rfl, rfl⟩ := runs_ofOutcome.mp run
    refine ⟨started, inner, ended, ⟨starts, performs_agrees performsSettle rfl, ?_, ?_⟩, runTask⟩
    · intro event member
      exact List.mem_cons_of_mem _ (List.mem_append_left _ member)
    · intro event member
      rcases List.mem_cons.mp member with rfl | later
      · exact .inr rfl
      rcases List.mem_append.mp later with inside | settle
      · exact .inl inside
      · obtain rfl := List.mem_singleton.mp settle
        exact .inr rfl
  · right
    refine ⟨⟨_, pending, rfl⟩, ?_⟩
    obtain ⟨rfl, _⟩ := runs_perform.mp run
    exact List.forall_mem_cons.mpr ⟨rfl, List.forall_mem_singleton.mpr rfl⟩

/-- The handler of a refresh, seen as a rotation. -/
theorem runs_refreshTokens {process : Nat} {refreshToken : RawToken} {ipAddress userAgent : String}
    {outcome : Except Failure AuthTokens}
    (run : Runs environment (AuthService.refreshTokens runtime process refreshToken ipAddress
      userAgent) before trace outcome after) :
    Rotation runtime (runtime.hash refreshToken) false before trace outcome after ∨
      (∃ entry ∈ before.memory.pendingRefreshes,
        entry.1 = ⟨process, runtime.hash refreshToken⟩) ∧
        ∀ event ∈ trace, struck event = false := by
  rcases runs_runSingleFlightRefresh run with ⟨_, _, _, framed, run⟩ | shared
  · exact .inl ((runs_rotateRefreshToken run).framed framed)
  · exact .inr shared

/-- The handler of an upgrade, seen as a rotation: the check that follows it always passes. -/
theorem runs_upgradeSession {process : Nat} {refreshToken : RawToken}
    {ipAddress userAgent : String} {outcome : Except Failure AuthTokens}
    (run : Runs environment (AuthService.upgradeSession runtime process refreshToken ipAddress
      userAgent) before trace outcome after) :
    Rotation runtime (runtime.hash refreshToken) true before trace outcome after ∨
      (∃ entry ∈ before.memory.pendingRefreshes,
        entry.1 = ⟨process, runtime.hash refreshToken⟩) ∧
        ∀ event ∈ trace, struck event = false := by
  obtain ⟨first, second, answered, between, rfl, runFirst, rest⟩ := runs_bind.mp run
  have checked : second = [] ∧ after = between ∧ (outcome = answered ∨
      ∃ tokens, answered = .ok tokens ∧ tokens.tokenType ≠ .full) := by
    cases answered with
    | error failure =>
      obtain ⟨rfl, rfl, rfl⟩ := rest
      exact ⟨rfl, rfl, .inl rfl⟩
    | ok tokens =>
      rcases runs_throwIf_bind.mp rest with ⟨limited, rfl, rfl, rfl⟩ | ⟨_, rfl, rfl, rfl⟩
      · exact ⟨rfl, rfl, .inr ⟨tokens, rfl, by simpa using limited⟩⟩
      · exact ⟨rfl, rfl, .inl rfl⟩
  obtain ⟨rfl, rfl, same⟩ := checked
  rw [List.append_nil]
  rcases runs_runSingleFlightRefresh runFirst with ⟨_, _, _, framed, runTask⟩ | shared
  · left
    have rotation := (runs_rotateRefreshToken runTask).framed framed
    rcases same with rfl | ⟨tokens, rfl, limited⟩
    · exact rotation
    · cases rotation with
      | exchanged storedToken user accessToken raw row found live permitted =>
        refine absurd ?_ limited
        simp only [AuthService.rotatedTokenType, permitted rfl, Bool.true_and]
        split
        · rfl
        · rename_i full
          cases type : storedToken.tokenType.getD .full with
          | full => rfl
          | limited => simp [type] at full
  · exact .inr shared

/-! ### Serving a rotation -/

/-- The response is the last thing that a call sends. -/
theorem runs_serve_split {request : Request} {outcome : Except Failure Response}
    (run : Runs environment (serve runtime request) before trace outcome after) :
    ∃ inner ended, trace = inner ++ [⟨.respond outcome, .ok ()⟩] ∧ ended.Agrees after ∧
      Runs environment (request.guarded runtime) before inner outcome ended := by
  obtain ⟨inner, last, attempted, ended, rfl, runAttempt, run⟩ := runs_bind.mp run
  obtain ⟨answered, rfl, runHandler⟩ := runs_attempt.mp runAttempt
  obtain ⟨reply, sent, rest, rfl, performsRespond, run⟩ := run
  have ends := performs_agrees performsRespond rfl
  have respond : reply = .ok () := by
    obtain ⟨choice, replied⟩ := performsRespond
    simp only [environment, State.answer, Option.some.injEq, Prod.mk.injEq] at replied
    exact replied.1.symm
  subst respond
  obtain ⟨rfl, rfl, rfl⟩ := runs_ofOutcome.mp run
  exact ⟨inner, ended, rfl, ends, runHandler⟩

/-- Sending the response back frames the handler. -/
theorem runs_serve {request : Request} {outcome : Except Failure Response}
    (run : Runs environment (serve runtime request) before trace outcome after) :
    ∃ inner ended, Framed before trace after before inner ended ∧
      Runs environment (request.guarded runtime) before inner outcome ended := by
  obtain ⟨inner, ended, rfl, ends, runHandler⟩ := runs_serve_split run
  refine ⟨inner, ended, ⟨before.agrees_refl, ends, ?_, ?_⟩, runHandler⟩
  · intro event member
    exact List.mem_append_left _ member
  · intro event member
    rcases List.mem_append.mp member with inside | respond
    · exact .inl inside
    · obtain rfl := List.mem_singleton.mp respond
      exact .inr rfl

/-- The end of a handler, which wraps its result. -/
theorem runs_wrapped {First : Type} {program : Async First} {wrap : First → Response}
    {outcome : Except Failure Response}
    (run : Runs environment (program >>= fun result => pure (wrap result)) before trace outcome
      after) :
    ∃ answered, outcome = answered.map wrap ∧
      Runs environment program before trace answered after := by
  obtain ⟨first, second, answered, between, rfl, runProgram, run⟩ := runs_bind.mp run
  cases answered with
  | ok result =>
    obtain ⟨rfl, rfl, rfl⟩ := run
    exact ⟨.ok result, rfl, by rw [List.append_nil]; exact runProgram⟩
  | error failure =>
    obtain ⟨rfl, rfl, rfl⟩ := run
    exact ⟨.error failure, rfl, by rw [List.append_nil]; exact runProgram⟩

/-- The hash of the token that a refresh presents, and whether it asks for a full session. -/
def Request.rotation (runtime : Runtime) : Request → Option (TokenHash × Bool)
  | .refreshTokens _ refreshToken _ _ => some (runtime.hash refreshToken, false)
  | .upgradeSession _ refreshToken _ _ => some (runtime.hash refreshToken, true)
  | _ => none

theorem rotation_of_rotates (runtime : Runtime) {request : Request}
    (rotates : request.rotates = true) :
    ∃ tokenHash requireFullToken,
      request.rotation runtime = some (tokenHash, requireFullToken) := by
  cases request with
  | refreshTokens process refreshToken ipAddress userAgent => exact ⟨_, _, rfl⟩
  | upgradeSession process refreshToken ipAddress userAgent => exact ⟨_, _, rfl⟩
  | _ => cases rotates

/-- A call that presents a token, seen as a rotation. It may also find a flight of the token, which
no call does that is served alone. -/
theorem runs_rotation {request : Request} {tokenHash : TokenHash} {requireFullToken : Bool}
    (rotates : request.rotation runtime = some (tokenHash, requireFullToken))
    {outcome : Except Failure Response}
    (run : Runs environment (serve runtime request) before trace outcome after) :
    (∃ answered : Except Failure AuthTokens, outcome = answered.map .tokens ∧
      Rotation runtime tokenHash requireFullToken before trace answered after) ∨
      (∃ entry ∈ before.memory.pendingRefreshes, entry.1.tokenHash = tokenHash) ∧
        ∀ event ∈ trace, struck event = false := by
  obtain ⟨inner, ended, framed, run⟩ := runs_serve run
  have whole : ∃ answered : Except Failure AuthTokens, outcome = answered.map .tokens ∧
      (Rotation runtime tokenHash requireFullToken before inner answered ended ∨
        (∃ entry ∈ before.memory.pendingRefreshes, entry.1.tokenHash = tokenHash) ∧
          ∀ event ∈ inner, struck event = false) := by
    unfold Request.rotation at rotates
    split at rotates
    · cases rotates
      obtain ⟨answered, rfl, runHandler⟩ := runs_wrapped run
      refine ⟨answered, rfl,
        (runs_refreshTokens runHandler).imp id fun ⟨⟨entry, pending, key⟩, unstruck⟩ =>
        ⟨⟨entry, pending, by rw [key]⟩, unstruck⟩⟩
    · cases rotates
      obtain ⟨answered, rfl, runHandler⟩ := runs_wrapped run
      refine ⟨answered, rfl,
        (runs_upgradeSession runHandler).imp id fun ⟨⟨entry, pending, key⟩, unstruck⟩ =>
        ⟨⟨entry, pending, by rw [key]⟩, unstruck⟩⟩
    · cases rotates
  obtain ⟨answered, same, rotation | ⟨shared, unstruck⟩⟩ := whole
  · exact .inl ⟨answered, same, rotation.framed framed⟩
  · refine .inr ⟨shared, fun event member => ?_⟩
    rcases framed.added event member with inside | framing
    · exact unstruck event inside
    · rw [struck, framing, Bool.false_and]

end GraconAuth
