/-
This file is about a limited session that has become stale: its user is verified by
now, and the session is upgraded in place, without ending any other. The upgrade
takes a revoked token for a replay, and the verification of the identity revokes
every limited session of the user, so the stale session of another device is not
upgraded but ends all the others. Calls are served one at a time.
-/

import GraconAuth.Sessions

namespace GraconAuth

open Interleaving Program Rows

variable {runtime : Runtime}

/-! ### Stale sessions -/

/-- The request presents the token for rotation or logout, or ends all sessions of its user. -/
def Request.spends (runtime : Runtime) (row : RefreshTokenRow) : Request → Bool
  | .refreshTokens _ refreshToken _ _ | .upgradeSession _ refreshToken _ _
  | .logout _ refreshToken => runtime.hash refreshToken == row.tokenHash
  | .logoutAllDevices jwt | .changePassword jwt _ => jwt.payload.sub == row.userId
  | .resetPassword dto => dto.userId == row.userId
  | _ => false

/-- The call upgrades a limited session of an active and verified user: the token is unexpired, and
no call in between has presented it or was meant to end it. -/
def UpgradesStale (runtime : Runtime) (upgrade : ServiceServed) (between : List ServiceServed)
    (row : RefreshTokenRow) : Prop :=
  upgrade.request.rotation runtime = some (row.tokenHash, true) ∧
    row.tokenType = some .limited ∧ row.revoked = false ∧ upgrade.after.clock ≤ row.expiresAt ∧
      (∃ user ∈ upgrade.before.db.users, user.id = row.userId ∧ user.isActive = true ∧
        user.isIdVerified = true) ∧
      ∀ served ∈ between, served.request.spends runtime row = false

instance (runtime : Runtime) (upgrade : ServiceServed) (between : List ServiceServed)
    (row : RefreshTokenRow) : Decidable (UpgradesStale runtime upgrade between row) :=
  inferInstanceAs (Decidable (_ ∧ _))

/-- Whenever a stale session is to be upgraded, this holds of the call, of the calls since the
session was issued, and of its token. -/
def AtStaleUpgrades (runtime : Runtime)
    (holds : ServiceServed → List ServiceServed → RefreshTokenRow → Prop)
    (log : List ServiceServed) : Prop :=
  AtPairs (fun upgrade between issue => ∀ row ∈ issuedTokens issue,
    UpgradesStale runtime upgrade between row → holds upgrade between row) log

instance (runtime : Runtime)
    (holds : ServiceServed → List ServiceServed → RefreshTokenRow → Prop)
    [∀ upgrade between row, Decidable (holds upgrade between row)] (log : List ServiceServed) :
    Decidable (AtStaleUpgrades runtime holds log) :=
  inferInstanceAs (Decidable (AtPairs _ log))

/-- The tokens are those of a full session, which is stored for the user and alive. -/
def FullSession (runtime : Runtime) (state : State) (userId : UserId) (tokens : AuthTokens) :
    Prop :=
  tokens.tokenType = .full ∧ ∃ stored ∈ state.db.refreshTokens,
    stored.tokenHash = runtime.hash tokens.refreshToken ∧ stored.userId = userId ∧
      stored.revoked = false

instance (runtime : Runtime) (state : State) (userId : UserId) (tokens : AuthTokens) :
    Decidable (FullSession runtime state userId tokens) :=
  inferInstanceAs (Decidable (_ ∧ _))

/-- The tokens that the call has answered with. -/
def returnedTokens (served : ServiceServed) : Option AuthTokens :=
  match served.outcome with
  | .ok (.tokens tokens) => some tokens
  | _ => none

/-- The call returns a full session, and leaves the other sessions of the user as they are. -/
def UpgradedInPlace (runtime : Runtime) (upgrade : ServiceServed) (row : RefreshTokenRow) : Prop :=
  (∃ tokens ∈ returnedTokens upgrade, FullSession runtime upgrade.after row.userId tokens) ∧
    ∀ other ∈ upgrade.before.db.refreshTokens, other.userId = row.userId → other.id ≠ row.id →
      other ∈ upgrade.after.db.refreshTokens

instance (runtime : Runtime) (upgrade : ServiceServed) (row : RefreshTokenRow) :
    Decidable (UpgradedInPlace runtime upgrade row) :=
  inferInstanceAs (Decidable (_ ∧ _))

/-- Every stale limited session can be upgraded. -/
def StaleUpgradable (runtime : Runtime) : List ServiceServed → Prop :=
  AtStaleUpgrades runtime fun upgrade _ row => UpgradedInPlace runtime upgrade row

instance (runtime : Runtime) (log : List ServiceServed) :
    Decidable (StaleUpgradable runtime log) :=
  inferInstanceAs (Decidable (AtStaleUpgrades _ _ log))

/-- The call has carried out a bulk revocation of the token. -/
def endsToken (row : RefreshTokenRow) (served : ServiceServed) : Bool :=
  served.trace.any fun event => (executed event).any fun statement => statement.revokes row

/-- Since it was issued the session has not been revoked along with others, and the database does
what the upgrade asks of it. -/
def StaleKept (runtime : Runtime) : List ServiceServed → Prop :=
  AtStaleUpgrades runtime fun upgrade between row =>
    (∀ served ∈ between, endsToken row served = false) ∧
      ∀ event ∈ upgrade.trace, struck event = false

instance (runtime : Runtime) (log : List ServiceServed) : Decidable (StaleKept runtime log) :=
  inferInstanceAs (Decidable (AtStaleUpgrades _ _ log))

/-! ### A stale session that cannot be upgraded -/

/-- The citizen logs in on another device, with the limited session `r2`. -/
def citizenLogin : Request × List Choice :=
  (.login ⟨"b@x", "pw"⟩ "ip" "agent", [{}, {}, {}, { text := "r2" }, {}, {}, {}])

/-- The identity is verified from one device, and then the other upgrades its session. -/
def upgradeAfterVerification : List (Request × List Choice) := citizenSerially ++ [
  citizenLogin,
  (submission, List.replicate 30 { text := "r3", engine := ⟨true, 1, 1, true, 1, none⟩ }),
  (.upgradeSession 0 "r1" "ip" "agent", [{}, {}, {}, {}, {}, {}])]

/-- The upgrade is refused and ends the session that the verification has issued. -/
theorem stale_not_upgradable :
    ¬ ∀ (runtime : Runtime) (clock : Timestamp) (log : List ServiceServed) (state : State),
      SerialRun (service runtime) (State.empty clock) log state →
        (state.drawn.map runtime.hash).Nodup → StaleUpgradable runtime log := by
  intro upgradable
  have upgraded := upgradable legibleRuntime 0 _ _ (playedSerially_run upgradeAfterVerification)
    (by decide +kernel)
  exact absurd upgraded (by decide +kernel)

/-! ### What becomes of a session -/

theorem endsToken_iff {row : RefreshTokenRow} {served : ServiceServed} :
    endsToken row served = true ↔
      ∃ event ∈ served.trace, ∃ statement ∈ executed event, statement.revokes row = true := by
  simp only [endsToken, List.any_eq_true]

/-- A request that does not spend the token does not present it. -/
theorem unpresented_of_spares {request : Request} {row : RefreshTokenRow}
    (spares : request.spends runtime row = false) (key : FlightKey)
    (keyed : request.flightKey runtime = some key) : key.tokenHash ≠ row.tokenHash := by
  cases request with
  | refreshTokens process refreshToken ipAddress userAgent =>
    cases keyed
    exact ne_of_beq_false spares
  | upgradeSession process refreshToken ipAddress userAgent =>
    cases keyed
    exact ne_of_beq_false spares
  | _ => cases keyed

/-- What has become of an unspent session: it is alive as long as it has not been revoked along with
others, and then it is revoked for good. -/
def Untouched (row : RefreshTokenRow) (between : List ServiceServed) (state : State) : Prop :=
  (∀ served ∈ between, endsToken row served = false) ∧ row ∈ state.db.refreshTokens ∨
    (∃ served ∈ between, endsToken row served = true) ∧
      ∀ stored ∈ state.db.refreshTokens, stored.tokenHash = row.tokenHash → stored.revoked = true

/-- One call that does not spend an unexpired token keeps it, or revokes it along with others. -/
theorem untouched_serve {served : ServiceServed} (valid : served.Valid (service runtime))
    (wellFormed : served.before.db.WellFormed) {row : RefreshTokenRow}
    (stored : row ∈ served.before.db.refreshTokens)
    (spares : served.request.spends runtime row = false)
    (live : row.revoked = false) (unexpired : served.after.clock ≤ row.expiresAt) :
    endsToken row served = false ∧ row ∈ served.after.db.refreshTokens ∨
      endsToken row served = true ∧ served.after.db.Revoked row.id := by
  cases ends : endsToken row served with
  | true =>
    obtain ⟨event, member, statement, listed, revokes⟩ := endsToken_iff.mp ends
    exact .inr ⟨rfl, runs_ended valid.runs (tracks_of_stored wellFormed stored) member listed
      revokes⟩
  | false =>
    refine .inl ⟨rfl, ?_⟩
    rcases serve_row valid.runs wellFormed stored fun _ => unpresented_of_spares spares with
      kept | ⟨event, member, statement, listed, takes⟩
    · exact kept
    · unfold Statement.takes at takes
      split at takes
      · obtain ⟨early, tokens⟩ := serve_swept valid.runs member listed
        rw [tokens]
        refine mem_deleteWhere.mpr ⟨stored, ?_⟩
        rw [live, Bool.or_false, decide_eq_false_iff_not]
        exact Int.not_lt.mpr (Int.le_trans early unexpired)
      · rw [endsToken_iff.mpr ⟨event, member, _, listed, takes⟩] at ends
        cases ends

theorem untouched_of_serial {initial state : State} {between : List ServiceServed}
    (serial : SerialRun (service runtime) initial between state)
    (wellFormed : initial.db.WellFormed) (traced : Traced runtime initial) {row : RefreshTokenRow}
    (stored : row ∈ initial.db.refreshTokens) (live : row.revoked = false)
    (spares : ∀ served ∈ between, served.request.spends runtime row = false)
    (unexpired : state.clock ≤ row.expiresAt) (distinct : (state.drawn.map runtime.hash).Nodup) :
    Untouched row between state := by
  obtain ⟨raw, drawn, hash⟩ := traced row stored
  induction serial with
  | start => exact .inl ⟨by simp, stored⟩
  | @serve log served earlier valid inductionHypothesis =>
    obtain ⟨spare, spares⟩ := List.forall_mem_cons.mp spares
    have old : ∃ raw ∈ served.before.drawn, runtime.hash raw = row.tokenHash := by
      rw [serial_drawn earlier]
      exact ⟨raw, List.mem_append_right _ drawn, hash⟩
    have wellFormedBefore := serial_wellFormed earlier wellFormed
    rcases inductionHypothesis spares (Int.le_trans (runs_clock valid.runs) unexpired)
      (distinct_before valid distinct) with ⟨unended, kept⟩ | ⟨⟨ending, member, ends⟩, revoked⟩
    · rcases untouched_serve valid wellFormedBefore kept spare live unexpired with
        ⟨idle, still⟩ | ⟨ends, revoked⟩
      · exact .inl ⟨List.forall_mem_cons.mpr ⟨idle, unended⟩, still⟩
      · refine .inr ⟨⟨served, List.mem_cons_self, ends⟩, fun stored member same => ?_⟩
        -- Nothing but what became of the row is stored under its digest.
        have owned : stored.id = row.id :=
          digest_serve valid old distinct (fun stored => stored.id = row.id)
            (fun first second continues same => continues.id.trans same)
            (fun stored member same => by
              rw [eq_of_key wellFormedBefore.tokenHashes member kept same])
            stored member same
        exact revoked.2 stored member owned
    · exact .inr ⟨⟨ending, List.mem_cons_of_mem _ member, ends⟩,
        digest_serve valid old distinct (fun stored => stored.revoked = true)
          (fun _ _ continues => continues.revoked) revoked⟩

/-! ### The upgrade -/

/-- An account is found by its id. -/
theorem user_of_found {db : Database} (wellFormed : db.WellFormed) {tokenHash : TokenHash}
    {row : RefreshTokenRow} {owner user : UserRow}
    (found : db.findRefreshTokenWithUser tokenHash = some (row, owner)) (stored : user ∈ db.users)
    (same : user.id = row.userId) : owner = user := by
  obtain ⟨_, _, member, id⟩ := findRefreshTokenWithUser_some found
  exact eq_of_key wellFormed.users.distinct member stored (id.trans same.symm)

/-- A stale session is upgraded in place exactly when it is still alive and the database does what
it is asked to. -/
theorem upgraded_iff {upgrade : ServiceServed} (valid : upgrade.Valid (service runtime))
    (idle : upgrade.before.Idle) (wellFormed : upgrade.before.db.WellFormed)
    {between : List ServiceServed} {row : RefreshTokenRow}
    (upgrades : UpgradesStale runtime upgrade between row)
    (untouched : Untouched row between upgrade.before) :
    UpgradedInPlace runtime upgrade row ↔
      (∀ served ∈ between, endsToken row served = false) ∧
        ∀ event ∈ upgrade.trace, struck event = false := by
  obtain ⟨rotates, limited, live, unexpired, ⟨user, member, id, active, verified⟩, _⟩ := upgrades
  rcases runs_rotation rotates valid.runs with
    ⟨answered, outcome, rotation⟩ | ⟨⟨entry, pending, _⟩, _⟩
  swap
  · rw [idle] at pending
    cases pending
  have refused : answered.isOk = false → ¬UpgradedInPlace runtime upgrade row := by
    rintro failed ⟨⟨tokens, returned, _⟩, _⟩
    cases answered with
    | ok tokens => cases failed
    | error failure =>
      rw [returnedTokens, outcome] at returned
      cases returned
  -- A live row under the digest is the row of the session, with the account of the user.
  have alive : ∀ stored owner,
      upgrade.before.db.findRefreshTokenWithUser row.tokenHash = some (stored, owner) →
        stored.revoked = false →
          (∀ served ∈ between, endsToken row served = false) ∧ stored = row ∧ owner = user := by
    intro stored owner found unrevoked
    obtain ⟨memberStored, hash, _⟩ := findRefreshTokenWithUser_some found
    rcases untouched with ⟨unended, kept⟩ | ⟨_, revoked⟩
    · obtain rfl := eq_of_key wellFormed.tokenHashes memberStored kept hash
      exact ⟨unended, rfl, user_of_found wellFormed found member id⟩
    · rw [revoked stored memberStored hash] at unrevoked
      cases unrevoked
  -- As long as it is not ended it is stored alive.
  have kept : (∀ served ∈ between, endsToken row served = false) →
      ∃ owner, upgrade.before.db.findRefreshTokenWithUser row.tokenHash = some (row, owner) := by
    intro unended
    rcases untouched with ⟨_, stored⟩ | ⟨⟨ending, memberEnding, ends⟩, _⟩
    · exact found_of_stored wellFormed stored ⟨user, member, id⟩
    · rw [unended ending memberEnding] at ends
      cases ends
  generalize upgrade.trace = trace at rotation ⊢
  cases rotation with
  | kept failure uninserted because agrees =>
    refine iff_of_false (refused rfl) ?_
    rintro ⟨unended, unstruck⟩
    rcases because with
      ⟨event, memberEvent, stricken⟩ | absent | ⟨stored, owner, found, unrevoked, why⟩
    · rw [unstruck event memberEvent] at stricken
      cases stricken
    · obtain ⟨owner, found⟩ := kept unended
      rw [absent] at found
      cases found
    · obtain ⟨_, rfl, rfl⟩ := alive stored owner found unrevoked
      rcases why with late | inactive | ⟨_, unverified⟩
      · exact Int.not_lt.mpr unexpired late
      · rw [active] at inactive
        cases inactive
      · rw [verified] at unverified
        cases unverified
  | ended failure stored owner found revoked =>
    refine iff_of_false (refused rfl) ?_
    rintro ⟨unended, _⟩
    obtain ⟨_, lookup⟩ := kept unended
    rw [found] at lookup
    cases lookup
    rw [live] at revoked
    cases revoked
  | halted failure stored owner raw found unrevoked insert =>
    refine iff_of_false (refused rfl) ?_
    rintro ⟨_, unstruck⟩
    obtain ⟨event, memberEvent, inserts⟩ := insert
    have struck := struck_of_struckInsert inserts
    rw [unstruck event memberEvent] at struck
    cases struck
  | exchanged stored owner accessToken raw successor found unrevoked permitted unstruck owned hash
      fresh tokens drawn frames =>
    obtain ⟨unended, rfl, rfl⟩ := alive stored owner found unrevoked
    refine iff_of_true ⟨⟨_, by rw [returnedTokens, outcome]; rfl, ?_, successor, ?_, hash, owned,
      fresh⟩, fun other before _ different => ?_⟩ ⟨unended, unstruck⟩
    · simp [AuthService.rotatedTokenType, verified, limited]
    · rw [tokens]
      exact List.mem_append_right _ List.mem_cons_self
    · rw [tokens]
      refine List.mem_append_left _ (mem_updateWhere.mpr ⟨other, before, ?_⟩)
      rw [if_neg (by simpa using different)]

/-! ### The runs in which stale sessions can be upgraded -/

/-- In a run whose random tokens have distinct digests, every stale session can be upgraded exactly
when none of them has been revoked along with others and the database does what it is asked to. -/
theorem stale_upgradable_iff (runtime : Runtime) (clock : Timestamp) (log : List ServiceServed)
    (state : State) (serial : SerialRun (service runtime) (State.empty clock) log state)
    (distinct : (state.drawn.map runtime.hash).Nodup) :
    StaleUpgradable runtime log ↔ StaleKept runtime log := by
  unfold StaleUpgradable StaleKept AtStaleUpgrades
  refine serial.atPairs_congr fun opening issuing later valid rest => ?_
  refine forall₂_congr fun row issued => forall_congr' fun upgrades => ?_
  have ending := opening.serve issuing
  have wellFormed := serial_wellFormed ending (empty_wellFormed clock)
  have unexpired := Int.le_trans (runs_clock valid.runs) upgrades.2.2.2.1
  have untouched := untouched_of_serial later wellFormed
    (serial_traced ending (empty_traced runtime clock)) (List.mem_filter.mp issued).1
    upgrades.2.2.1 upgrades.2.2.2.2.2 unexpired
      (distinct_before valid (distinct_initial rest distinct))
  exact upgraded_iff valid (serial_idle later (serial_idle ending rfl))
    (serial_wellFormed later wellFormed) upgrades untouched

/-- The engine lets the citizen pass, and the revocation of the limited session fails. -/
def failingSubmission : List Choice :=
  List.replicate 15 { text := "image", engine := ⟨true, 1, 1, true, 1, none⟩ } ++
    [{ fails := some databaseDown }, { elapsed := 0 }]

/-- The verification of the identity fails before it revokes the limited session, which is then
upgraded. -/
def upgradeAfterFault : List (Request × List Choice) := citizenSerially ++ [
  (submission, failingSubmission),
  (.upgradeSession 0 "r1" "ip" "agent",
    [{}, {}, {}, {}, {}, { text := "r3" }, {}, {}, {}, {}])]

/-- In that run the stale session is upgraded in place. -/
theorem stale_upgradable_iff_after_fault :
    (playedSerially upgradeAfterFault).2.db.refreshTokens.map
        (fun row => (row.tokenHash, row.tokenType, row.revoked)) =
      [("#r1", some .limited, true), ("#r3", some .full, false)] ∧
      StaleUpgradable legibleRuntime (playedSerially upgradeAfterFault).1 :=
  ⟨by decide +kernel, (stale_upgradable_iff legibleRuntime 0 _ _
    (playedSerially_run upgradeAfterFault) (by decide +kernel)).mpr (by decide +kernel)⟩

end GraconAuth
