/-
This file is about the exchange of refresh tokens being all-or-nothing: a rotation,
or the upgrade after an identity verification, that fails because the database has
failed leaves the refresh tokens as they were, so that a retry is not taken for a
replay. Both revoke first and store the successor by a later statement outside a
transaction, so the tokens are as they were exactly when the later statement is not
the one that fails.
-/

import GraconAuth.Rotations
import GraconAuth.Server

namespace GraconAuth

open Interleaving Program Rows

variable {runtime : Runtime} {before after : State} {trace : List ServiceEvent}

/-! ### All or nothing -/

/-- The token with this hash is stored and has not been presented yet, nor ended. -/
def Database.Presentable (db : Database) (tokenHash : TokenHash) : Prop :=
  ∃ storedToken user, db.findRefreshTokenWithUser tokenHash = some (storedToken, user) ∧
    storedToken.revoked = false

/-- No way of presenting the token ends the sessions of a user. -/
def Retryable (runtime : Runtime) (state : State) (tokenHash : TokenHash) : Prop :=
  ∀ ipAddress userAgent requireFullToken trace outcome last,
    Runs environment (AuthService.rotateRefreshToken runtime tokenHash ipAddress userAgent
      requireFullToken) state trace outcome last →
      ∀ event ∈ trace, ∀ userId,
        event.effect ≠ .execute [.refreshTokenUpdateMany { userId := some userId }]

/-- The refresh tokens are as before, and presenting one again is a first presentation. -/
def AllOrNothing (runtime : Runtime) (before after : State) : Prop :=
  after.db.refreshTokens = before.db.refreshTokens ∧
    ∀ tokenHash, before.db.Presentable tokenHash → Retryable runtime after tokenHash

/-- The call has thrown, and the database has failed on the way. -/
def Faulted {Result : Type} (trace : List ServiceEvent) (outcome : Except Failure Result) : Prop :=
  outcome.isOk = false ∧ ∃ event ∈ trace, struck event = true

instance {Result : Type} (trace : List ServiceEvent) (outcome : Except Failure Result) :
    Decidable (Faulted trace outcome) :=
  inferInstanceAs (Decidable (_ ∧ _))

/-! ### A fault that leaves half of an exchange -/

/-- The user refreshes, and the database fails to store the successor. -/
def tornExchange : List (Request × List Choice) :=
  signedInSerially.concat (.refreshTokens 0 "r1" "ip" "agent",
    [{}, {}, {}, {}, {}, { text := "r2" }, {}, { fails := some databaseDown }, {}, {}])

/-- An exchange is not all-or-nothing in every state. -/
theorem exchange_not_all_or_nothing :
    ¬ ∀ (runtime : Runtime) (served : ServiceServed), served.Valid (service runtime) →
      served.request.rotates = true → Faulted served.trace served.outcome →
        AllOrNothing runtime served.before served.after := by
  intro claimed
  have kept : ∀ served ∈ (playedSerially tornExchange).1, served.request.rotates = true →
      Faulted served.trace served.outcome →
      served.after.db.refreshTokens = served.before.db.refreshTokens := by
    intro served member rotates faulted
    exact (claimed legibleRuntime served ((playedSerially_run tornExchange).valid member) rotates
      faulted).1
  exact absurd kept (by decide +kernel)

/-! ### When an exchange is all-or-nothing -/

/-- The exchange of a live token ends no session of another token. -/
theorem rotateLiveToken_endless (storedToken : RefreshTokenRow) (user : UserRow)
    (ipAddress userAgent : String) (requireFullToken : Bool) :
    (AuthService.rotateLiveToken runtime storedToken user ipAddress userAgent
      requireFullToken).Uses fun effect =>
        ∀ userId, effect ≠ .execute [.refreshTokenUpdateMany { userId := some userId }] := by
  refine uses_bind (uses_perform (by simp)) fun now => uses_bind (uses_throwIf _ _) fun _ =>
    uses_bind (uses_throwIf _ _) fun _ => uses_bind (uses_throwIf _ _) fun _ => ?_
  refine uses_bind (uses_perform (by simp)) fun _ => uses_bind (uses_perform (by simp)) fun _ => ?_
  exact uses_bind (uses_perform (by simp)) fun _ => uses_bind (uses_perform (by simp)) fun _ =>
    uses_bind (uses_perform (by simp)) fun _ => trivial

theorem retryable_of_presentable {tokenHash : TokenHash}
    (presentable : after.db.Presentable tokenHash) : Retryable runtime after tokenHash := by
  obtain ⟨storedToken, user, found, live⟩ := presentable
  intro ipAddress userAgent requireFullToken trace outcome last run
  obtain ⟨reply, asked, rest, rfl, performsFind, run⟩ := run
  refine List.forall_mem_cons.mpr ⟨by simp, ?_⟩
  cases reply with
  | error failure =>
    obtain ⟨rfl, _, _⟩ := run
    simp
  | ok answer =>
    obtain rfl := performs_refreshTokenFindUnique performsFind
    rw [found] at run
    change Runs environment (if storedToken.revoked = true then _ else
      AuthService.rotateLiveToken runtime storedToken user ipAddress userAgent requireFullToken)
      asked rest outcome last at run
    rw [if_neg (by simp [live])] at run
    exact run.uses (rotateLiveToken_endless storedToken user ipAddress userAgent requireFullToken)

/-- It is enough that the refresh tokens are as before. -/
theorem allOrNothing_iff (frames : before.Frames after) :
    AllOrNothing runtime before after ↔ after.db.refreshTokens = before.db.refreshTokens := by
  refine ⟨And.left, fun same => ⟨same, fun tokenHash presentable => ?_⟩⟩
  refine retryable_of_presentable ?_
  obtain ⟨storedToken, user, found, live⟩ := presentable
  refine ⟨storedToken, user, ?_, live⟩
  rw [← found]
  simp only [Database.findRefreshTokenWithUser, Database.findRefreshToken, Database.findUser, same,
    frames.users]

/-- Revoking a token that is stored unrevoked changes the table. -/
theorem revokes_changes {matching : RefreshTokenRow → Bool} {rows : List RefreshTokenRow}
    {row : RefreshTokenRow} (stored : row ∈ rows) (matched : matching row = true)
    (live : row.revoked = false) : updateWhere matching RefreshTokenRow.revoke rows ≠ rows := by
  intro same
  have revoked := updateWhere_eq_self_iff.mp same row stored matched
  rw [← revoked] at live
  cases live

/-- The database has failed to end the limited sessions. -/
def struckRevocation : ServiceEvent → Bool
  | ⟨.execute [.refreshTokenUpdateMany _], .error _⟩ => true
  | _ => false

/-- What the upgrade after an identity verification can come to when it fails. -/
theorem runs_upgradeToken {userId : UserId} {ipAddress userAgent : String} {failure : Failure}
    (run : Runs environment (AuthService.upgradeToken runtime userId ipAddress userAgent) before
      trace (.error failure) after) :
    before.Frames after ∧
      ((∃ event ∈ trace, struckRevocation event = true) ∧
          after.db.refreshTokens = before.db.refreshTokens ∨
        (∀ event ∈ trace, struckRevocation event = false) ∧
          after.db.refreshTokens = updateWhere (RefreshTokenWhere.holds
            { userId := some userId, tokenType := some .limited }) RefreshTokenRow.revoke
            before.db.refreshTokens) := by
  obtain ⟨reply, ended, rest, rfl, performsUpdate, run⟩ := run
  cases reply with
  | error other =>
    have agrees := performs_write_failed performsUpdate
    obtain ⟨rfl, _, rfl⟩ := run
    exact ⟨agrees.toFrames, .inl ⟨⟨_, List.mem_singleton_self _, rfl⟩, agrees.refreshTokens⟩⟩
  | ok value =>
    obtain ⟨tokens, frames, _⟩ := performs_refreshTokenUpdateMany performsUpdate
    obtain ⟨reply, asked, rest, rfl, performsFind, run⟩ := run
    have agrees := performs_agrees performsFind rfl
    have frames := frames.trans agrees.toFrames
    have tokens := agrees.refreshTokens.trans tokens
    rcases reply with other | _ | record
    · obtain ⟨rfl, _, rfl⟩ := run
      exact ⟨frames, .inr ⟨List.forall_mem_cons.mpr ⟨rfl, List.forall_mem_singleton.mpr rfl⟩,
        tokens⟩⟩
    · obtain ⟨rfl, _, rfl⟩ := run
      exact ⟨frames, .inr ⟨List.forall_mem_cons.mpr ⟨rfl, List.forall_mem_singleton.mpr rfl⟩,
        tokens⟩⟩
    · have run : Runs environment (AuthService.generateTokens runtime record.user.id
        record.user.email ipAddress userAgent .full) asked rest (.error failure) after := run
      have unrevoked : ∀ event ∈ rest, struckRevocation event = false := by
        intro event member
        have inside := run.uses (generateTokens_uses runtime _ _ _ _ _) event member
        unfold struckRevocation
        split
        · exact (inside.elim id id).elim
        · rfl
      cases runs_generateTokens run with
      | refused other raw insert kept drawn framesIssue =>
        exact ⟨frames.trans framesIssue, .inr ⟨List.forall_mem_cons.mpr ⟨rfl,
          List.forall_mem_cons.mpr ⟨rfl, unrevoked⟩⟩, kept.trans tokens⟩⟩

/-- A call that presents a token and fails because the database has failed is all-or-nothing
exactly when it is not the row of the successor that the database has failed to store. The upgrade
after an identity verification is exactly when it is the first statement that has failed, or the
user had no limited session to end. -/
theorem exchange_all_or_nothing_iff (runtime : Runtime) :
    (∀ served : ServiceServed, served.Valid (service runtime) → served.request.rotates = true →
      Faulted served.trace served.outcome →
        (AllOrNothing runtime served.before served.after ↔
          ∀ event ∈ served.trace, struckInsert event = false)) ∧
    ∀ userId ipAddress userAgent before trace outcome after,
      Runs environment (AuthService.upgradeToken runtime userId ipAddress userAgent) before trace
        outcome after → Faulted trace outcome →
        (AllOrNothing runtime before after ↔
          (∃ event ∈ trace, struckRevocation event = true) ∨
            ∀ row ∈ before.db.refreshTokens, row.userId = userId →
              row.tokenType = some .limited → row.revoked = true) := by
  constructor
  · rintro served valid rotates ⟨thrown, event, member, stricken⟩
    obtain ⟨tokenHash, requireFullToken, rotation⟩ := rotation_of_rotates runtime rotates
    rcases runs_rotation rotation valid.runs with ⟨answered, same, rotation⟩ | ⟨_, unstruck⟩
    · cases rotation with
      | kept failure uninserted because agrees =>
        rw [allOrNothing_iff agrees.toFrames]
        exact ⟨fun _ => uninserted, fun _ => agrees.refreshTokens⟩
      | ended failure storedToken user found revoked unstruck tokens drawn frames =>
        rw [unstruck event member] at stricken
        cases stricken
      | halted failure storedToken user raw found live insert tokens drawn frames =>
        rw [allOrNothing_iff frames, tokens]
        obtain ⟨refused, memberRefused, inserts⟩ := insert
        constructor
        · intro unchanged
          have stored := (findRefreshTokenWithUser_some found).1
          exact absurd unchanged (revokes_changes stored (beq_self_eq_true _) live)
        · intro uninserted
          rw [uninserted refused memberRefused] at inserts
          cases inserts
      | exchanged storedToken user accessToken raw row found live permitted unstruck =>
        rw [unstruck event member] at stricken
        cases stricken
    · rw [unstruck event member] at stricken
      cases stricken
  · rintro userId ipAddress userAgent before trace outcome after run ⟨thrown, _⟩
    cases outcome with
    | ok tokens => cases thrown
    | error failure =>
      obtain ⟨frames, ⟨failed, same⟩ | ⟨carriedOut, tokens⟩⟩ := runs_upgradeToken run
      · rw [allOrNothing_iff frames]
        exact ⟨fun _ => .inl failed, fun _ => same⟩
      · rw [allOrNothing_iff frames, tokens, updateWhere_eq_self_iff]
        constructor
        · intro unchanged
          right
          intro row stored owner limited
          by_contra live
          have live := Bool.eq_false_of_not_eq_true live
          refine revokes_changes stored ?_ live (updateWhere_eq_self_iff.mpr unchanged)
          simp [RefreshTokenWhere.holds, columnHolds, owner, limited, live]
        · rintro (⟨event, member, failed⟩ | none) row stored matched
          · rw [carriedOut event member] at failed
            cases failed
          · simp only [RefreshTokenWhere.holds, columnHolds, Option.map_some, Bool.and_eq_true,
              decide_eq_true_eq, Bool.not_eq_true'] at matched
            obtain ⟨⟨⟨owner, _⟩, limited⟩, live⟩ := matched
            rw [none row stored owner limited] at live
            cases live

/-- The user refreshes, and the database fails to revoke the presented token. -/
def unansweredExchange : List (Request × List Choice) :=
  signedInSerially.concat (.refreshTokens 0 "r1" "ip" "agent",
    [{}, {}, {}, { fails := some databaseDown }, {}, {}])

/-- That exchange is all-or-nothing. -/
theorem exchange_all_or_nothing_iff_unanswered :
    ∃ served ∈ (playedSerially unansweredExchange).1, served.request.rotates = true ∧
      Faulted served.trace served.outcome ∧
        AllOrNothing legibleRuntime served.before served.after := by
  have uninserted : ∃ served ∈ (playedSerially unansweredExchange).1,
      served.request.rotates = true ∧ Faulted served.trace served.outcome ∧
        ∀ event ∈ served.trace, struckInsert event = false := by decide +kernel
  obtain ⟨served, member, rotates, faulted, uninserted⟩ := uninserted
  have valid := (playedSerially_run unansweredExchange).valid member
  exact ⟨served, member, rotates, faulted,
    ((exchange_all_or_nothing_iff legibleRuntime).1 served valid rotates faulted).mpr uninserted⟩

end GraconAuth
