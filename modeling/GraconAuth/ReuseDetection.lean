/-
This file is about the replay of a refresh token that has been exchanged: the call
issues nothing and ends every session of the user. A replay is known by the revoked
row of the token, and the daily cleanup deletes revoked rows, so a replay that comes
after a cleanup is refused as unknown and ends nothing. Calls are served one at a
time.
-/

import GraconAuth.Sessions

namespace GraconAuth

open Interleaving Program Rows

variable {runtime : Runtime}

/-! ### Replays -/

/-- The stored token that the call has exchanged. -/
def exchangedToken (runtime : Runtime) (served : ServiceServed) : Option RefreshTokenRow :=
  match served.request.rotation runtime, served.outcome with
  | some (tokenHash, _), .ok _ => served.before.db.findRefreshToken tokenHash
  | _, _ => none

/-- Whenever a call presents a token that an earlier one has exchanged, this holds of that call, of
the calls between the two, and of the token. -/
def AtReplays (runtime : Runtime)
    (holds : ServiceServed → List ServiceServed → RefreshTokenRow → Prop)
    (log : List ServiceServed) : Prop :=
  AtPairs (fun replay between rotation => ∀ token ∈ exchangedToken runtime rotation,
    presented runtime replay = some token.tokenHash → holds replay between token) log

instance (runtime : Runtime)
    (holds : ServiceServed → List ServiceServed → RefreshTokenRow → Prop)
    [∀ replay between token, Decidable (holds replay between token)] (log : List ServiceServed) :
    Decidable (AtReplays runtime holds log) :=
  inferInstanceAs (Decidable (AtPairs _ log))

/-- No session of the user is alive. -/
def Database.SessionsEnded (db : Database) (userId : UserId) : Prop :=
  ∀ row ∈ db.refreshTokens, row.userId = userId → row.revoked = true

instance (db : Database) (userId : UserId) : Decidable (db.SessionsEnded userId) :=
  inferInstanceAs (Decidable (∀ row ∈ _, _))

/-- The call has failed and has stored no token. -/
def IssuesNothing (served : ServiceServed) : Prop :=
  served.outcome.isOk = false ∧
    served.after.db.refreshTokens.map (·.id) = served.before.db.refreshTokens.map (·.id)

instance (served : ServiceServed) : Decidable (IssuesNothing served) :=
  inferInstanceAs (Decidable (_ ∧ _))

/-- Every replay is detected: it issues nothing, and no session of the user survives it. -/
def ReuseDetected (runtime : Runtime) : List ServiceServed → Prop :=
  AtReplays runtime fun replay _ token =>
    IssuesNothing replay ∧ replay.after.db.SessionsEnded token.userId

instance (runtime : Runtime) (log : List ServiceServed) : Decidable (ReuseDetected runtime log) :=
  inferInstanceAs (Decidable (AtReplays _ _ log))

/-- The call has carried out a cleanup. -/
def swept (served : ServiceServed) : Bool :=
  served.trace.any fun event => (executed event).any fun statement =>
    match statement with
    | .refreshTokenDeleteMany _ => true
    | _ => false

/-- Between the exchange and the replay no cleanup has been carried out, and the database does what
the replay asks of it; or no session of the user is alive anyway. -/
def ReplaysHeeded (runtime : Runtime) : List ServiceServed → Prop :=
  AtReplays runtime fun replay between token =>
    ((∀ served ∈ between, swept served = false) ∧ ∀ event ∈ replay.trace, struck event = false) ∨
      replay.before.db.SessionsEnded token.userId

instance (runtime : Runtime) (log : List ServiceServed) : Decidable (ReplaysHeeded runtime log) :=
  inferInstanceAs (Decidable (AtReplays _ _ log))

/-! ### A replay that goes undetected -/

/-- A device exchanges its token `r1` for `r2`. -/
def exchangeFirst : Request × List Choice :=
  (.refreshTokens 0 "r1" "ip" "agent", [{}, {}, {}, {}, {}, { text := "r2" }, {}, {}, {}, {}])

/-- The token is exchanged, the cleanup runs, and the token is presented again. -/
def replayAfterCleanup : List (Request × List Choice) := signedInSerially ++ [
  exchangeFirst,
  (.cleanupExpiredTokens, [{}, {}, {}]),
  (.refreshTokens 0 "r1" "ip" "agent", [{}, {}, {}, {}])]

/-- The replay of a token whose row the cleanup has deleted leaves its descendant alive. -/
theorem reuse_not_always_detected :
    ¬ ∀ (runtime : Runtime) (clock : Timestamp) (log : List ServiceServed) (state : State),
      SerialRun (service runtime) (State.empty clock) log state →
        (state.drawn.map runtime.hash).Nodup → ReuseDetected runtime log := by
  intro detected
  have replayed := detected legibleRuntime 0 _ _ (playedSerially_run replayAfterCleanup)
    (by decide +kernel)
  exact absurd replayed (by decide +kernel)

/-! ### What becomes of an exchanged token -/

theorem swept_iff {served : ServiceServed} :
    swept served = true ↔
      ∃ event ∈ served.trace, ∃ now, .refreshTokenDeleteMany now ∈ executed event := by
  simp only [swept, List.any_eq_true]
  refine exists_congr fun event => and_congr_right fun _ => ⟨?_, ?_⟩
  · rintro ⟨statement, listed, sweeps⟩
    split at sweeps
    · exact ⟨_, listed⟩
    · cases sweeps
  · rintro ⟨now, listed⟩
    exact ⟨_, listed, rfl⟩

/-- What has become of an exchanged token: it is stored revoked as long as no cleanup has been
carried out, and then it is gone for good. -/
def Remembered (token : RefreshTokenRow) (between : List ServiceServed) (state : State) : Prop :=
  (∀ served ∈ between, swept served = false) ∧ token ∈ state.db.refreshTokens ∨
    (∃ served ∈ between, swept served = true) ∧
      ∀ row ∈ state.db.refreshTokens, row.tokenHash ≠ token.tokenHash

/-- One call keeps a revoked token, or it is a cleanup. -/
theorem remembered_serve {served : ServiceServed} (valid : served.Valid (service runtime))
    (wellFormed : served.before.db.WellFormed) {token : RefreshTokenRow}
    (revoked : token.revoked = true) (stored : token ∈ served.before.db.refreshTokens) :
    swept served = false ∧ token ∈ served.after.db.refreshTokens ∨ swept served = true ∧
      ∀ row ∈ served.after.db.refreshTokens, row.tokenHash ≠ token.tokenHash := by
  have unpresented : token.revoked = false → ∀ key, served.request.flightKey runtime = some key →
      key.tokenHash ≠ token.tokenHash := by
    rw [revoked]
    nofun
  cases sweeps : swept served with
  | false =>
    refine .inl ⟨rfl, ?_⟩
    rcases serve_row valid.runs wellFormed stored unpresented with kept | taken
    · exact kept
    · obtain ⟨event, member, statement, listed, takes⟩ := taken
      obtain ⟨now, rfl⟩ := sweeps_of_takes revoked takes
      rw [swept_iff.mpr ⟨event, member, now, listed⟩] at sweeps
      cases sweeps
  | true =>
    refine .inr ⟨rfl, fun row member same => ?_⟩
    obtain ⟨event, memberEvent, now, listed⟩ := swept_iff.mp sweeps
    rw [(serve_swept valid.runs memberEvent listed).2] at member
    obtain ⟨old, spared⟩ := mem_deleteWhere.mp member
    rw [eq_of_key wellFormed.tokenHashes old stored same, revoked, Bool.or_true] at spared
    cases spared

/-- What becomes of a token along a run that starts when it is revoked. -/
theorem remembered_of_serial {initial state : State} {between : List ServiceServed}
    (serial : SerialRun (service runtime) initial between state)
    (wellFormed : initial.db.WellFormed) (traced : Traced runtime initial)
    {token : RefreshTokenRow} (revoked : token.revoked = true)
    (stored : token ∈ initial.db.refreshTokens) (distinct : (state.drawn.map runtime.hash).Nodup) :
    Remembered token between state := by
  obtain ⟨raw, drawn, hash⟩ := traced token stored
  induction serial with
  | start => exact .inl ⟨by simp, stored⟩
  | @serve log served earlier valid inductionHypothesis =>
    have old : ∃ raw ∈ served.before.drawn, runtime.hash raw = token.tokenHash := by
      rw [serial_drawn earlier]
      exact ⟨raw, List.mem_append_right _ drawn, hash⟩
    rcases inductionHypothesis (distinct_before valid distinct) with
      ⟨unswept, kept⟩ | ⟨cleaned, gone⟩
    · rcases remembered_serve valid (serial_wellFormed earlier wellFormed) revoked kept with
        ⟨idle, still⟩ | ⟨sweeps, gone⟩
      · exact .inl ⟨List.forall_mem_cons.mpr ⟨idle, unswept⟩, still⟩
      · exact .inr ⟨⟨served, List.mem_cons_self, sweeps⟩, gone⟩
    · obtain ⟨cleanup, member, sweeps⟩ := cleaned
      exact .inr ⟨⟨cleanup, List.mem_cons_of_mem _ member, sweeps⟩,
        digest_serve valid old distinct (fun _ => False) (fun _ _ _ impossible => impossible) gone⟩

/-- An exchange leaves the token stored, revoked. -/
theorem stored_of_exchangedToken {rotation : ServiceServed}
    (valid : rotation.Valid (service runtime)) (idle : rotation.before.Idle)
    {token : RefreshTokenRow} (exchanged : token ∈ exchangedToken runtime rotation) :
    token.revoke ∈ rotation.after.db.refreshTokens ∧ rotation.after.db.Account token.userId := by
  unfold exchangedToken at exchanged
  split at exchanged
  · rename_i tokenHash requireFullToken response rotates succeeded
    have run := valid.runs
    rw [succeeded] at run
    rcases runs_rotation rotates run with ⟨answered, same, rotation⟩ | ⟨⟨entry, pending, _⟩, _⟩
    · cases rotation with
      | exchanged storedToken user accessToken raw row found live permitted unstruck owner hash
          unrevoked tokens drawn frames =>
        obtain ⟨stored, _, member, ownerOf⟩ := findRefreshTokenWithUser_some found
        obtain rfl : storedToken = token :=
          Option.some.inj ((findRefreshToken_of_withUser found).symm.trans exchanged)
        refine ⟨?_, user, by rw [frames.users]; exact member, ownerOf⟩
        rw [tokens]
        refine List.mem_append_left _ (mem_updateWhere.mpr ⟨storedToken, stored, ?_⟩)
        rw [if_pos (beq_self_eq_true _)]
      | _ => cases same
    · rw [idle] at pending
      cases pending
  · cases exchanged

/-- A replay is detected exactly when the token is still remembered and the database does what it
is asked to, or when nothing is left to end. -/
theorem replay_detected_iff {replay : ServiceServed} (valid : replay.Valid (service runtime))
    (idle : replay.before.Idle) (wellFormed : replay.before.db.WellFormed)
    {token : RefreshTokenRow} (revoked : token.revoked = true)
    (account : replay.before.db.Account token.userId) {between : List ServiceServed}
    (remembered : Remembered token between replay.before)
    (presents : presented runtime replay = some token.tokenHash) :
    IssuesNothing replay ∧ replay.after.db.SessionsEnded token.userId ↔
      ((∀ served ∈ between, swept served = false) ∧ ∀ event ∈ replay.trace, struck event = false) ∨
        replay.before.db.SessionsEnded token.userId := by
  obtain ⟨⟨tokenHash, requireFullToken⟩, rotates, same⟩ := Option.map_eq_some_iff.mp presents
  obtain rfl : tokenHash = token.tokenHash := same
  rcases runs_rotation rotates valid.runs with
    ⟨answered, outcome, rotation⟩ | ⟨⟨entry, pending, _⟩, _⟩
  swap
  · rw [idle] at pending
    cases pending
  -- What is found under the digest is the revoked token, unless a cleanup has deleted it.
  have found : ∀ row user,
      replay.before.db.findRefreshTokenWithUser token.tokenHash = some (row, user) →
        (∀ served ∈ between, swept served = false) ∧ row = token := by
    intro row user found
    obtain ⟨stored, hash, _⟩ := findRefreshTokenWithUser_some found
    rcases remembered with ⟨unswept, kept⟩ | ⟨_, gone⟩
    · exact ⟨unswept, eq_of_key wellFormed.tokenHashes stored kept hash⟩
    · exact absurd hash (gone row stored)
  generalize replay.trace = trace at rotation ⊢
  cases rotation with
  | kept failure uninserted because agrees =>
    have nothing : IssuesNothing replay := by
      rw [IssuesNothing, outcome, agrees.refreshTokens]
      exact ⟨rfl, rfl⟩
    have unheeded : ¬((∀ served ∈ between, swept served = false) ∧
        ∀ event ∈ trace, struck event = false) := by
      rintro ⟨unswept, unstruck⟩
      rcases because with ⟨event, member, stricken⟩ | absent | ⟨row, user, lookup, live, _⟩
      · rw [unstruck event member] at stricken
        cases stricken
      · rcases remembered with ⟨_, kept⟩ | ⟨⟨cleanup, member, sweeps⟩, _⟩
        · obtain ⟨user, lookup⟩ := found_of_stored wellFormed kept account
          rw [absent] at lookup
          cases lookup
        · rw [unswept cleanup member] at sweeps
          cases sweeps
      · rw [(found row user lookup).2, revoked] at live
        cases live
    rw [or_iff_right unheeded, Database.SessionsEnded, agrees.refreshTokens]
    exact and_iff_right nothing
  | ended failure storedToken user lookup _ unstruck tokens drawn frames =>
    obtain ⟨unswept, rfl⟩ := found storedToken user lookup
    have kept : ∀ row : RefreshTokenRow, row.revoke.id = row.id := fun _ => rfl
    refine iff_of_true ⟨⟨by rw [outcome]; rfl, by rw [tokens, map_updateWhere kept]⟩, ?_⟩
      (.inl ⟨unswept, unstruck⟩)
    intro row stored owner
    rw [tokens] at stored
    obtain ⟨old, _, rfl⟩ := mem_updateWhere.mp stored
    split
    · rfl
    · rename_i unmatched
      rw [if_neg unmatched] at owner
      simpa [RefreshTokenWhere.holds, columnHolds, owner] using unmatched
  | halted failure storedToken user raw lookup live =>
    rw [(found storedToken user lookup).2, revoked] at live
    cases live
  | exchanged storedToken user accessToken raw row lookup live =>
    rw [(found storedToken user lookup).2, revoked] at live
    cases live

/-! ### The runs in which replays are detected -/

/-- In a run whose random tokens have distinct digests, every replay is detected exactly when no
cleanup has come between it and the exchange and the database does what it is asked to, or no
session is left to end. -/
theorem reuse_detected_iff (runtime : Runtime) (clock : Timestamp) (log : List ServiceServed)
    (state : State) (serial : SerialRun (service runtime) (State.empty clock) log state)
    (distinct : (state.drawn.map runtime.hash).Nodup) :
    ReuseDetected runtime log ↔ ReplaysHeeded runtime log := by
  unfold ReuseDetected ReplaysHeeded AtReplays
  refine serial.atPairs_congr fun opening rotated later valid rest => ?_
  refine forall₂_congr fun token exchanged => forall_congr' fun presents => ?_
  have ending := opening.serve rotated
  obtain ⟨stored, account⟩ := stored_of_exchangedToken rotated (serial_idle opening rfl) exchanged
  have remembered := remembered_of_serial later (serial_wellFormed ending (empty_wellFormed clock))
    (serial_traced ending (empty_traced runtime clock)) rfl stored
    (distinct_before valid (distinct_initial rest distinct))
  have wellFormed := serial_wellFormed later (serial_wellFormed ending (empty_wellFormed clock))
  have owned := later.preserves (fun _ _ _ _ performs held => performs_account performs held)
    account
  have idle := serial_idle later (serial_idle ending rfl)
  exact replay_detected_iff valid idle wellFormed (show token.revoke.revoked = true from rfl) owned
    remembered presents

/-- A device exchanges its token, and the token is presented again before any cleanup. -/
def replayAtOnce : List (Request × List Choice) := signedInSerially ++ [
  exchangeFirst,
  (.refreshTokens 0 "r1" "ip" "agent", [{}, {}, {}, {}, {}, {}])]

/-- That replay is detected, and the descendant of the token is revoked. -/
theorem reuse_detected_iff_at_once :
    (playedSerially replayAtOnce).2.db.refreshTokens.map (fun row => (row.tokenHash, row.revoked)) =
        [("#r1", true), ("#r2", true)] ∧
      ReuseDetected legibleRuntime (playedSerially replayAtOnce).1 :=
  ⟨by decide +kernel, (reuse_detected_iff legibleRuntime 0 _ _ (playedSerially_run replayAtOnce)
    (by decide +kernel)).mpr (by decide +kernel)⟩

end GraconAuth
