/-
This file is about devices that hold only the refresh token most recently given to
them and present it to nobody else. A session that a login has opened stays alive
until its own device gives the token up or the user ends all sessions. The server
takes every revoked token for a replay, so a device that refreshes a session which an
earlier logout from all devices has ended also ends the sessions opened since; an
exchanged or logged out token is never presented again. Calls are served one at a
time.
-/

import GraconAuth.Sessions

namespace GraconAuth

open Interleaving Program Rows

/-! ### Devices -/

/-- A device may log in, end all sessions, and refresh or log out with the token it holds. -/
def Request.honest (held : Option RawToken) : Request → Bool
  | .login _ _ _ | .logoutAllDevices _ | .changePassword _ _ | .resetPassword _ => true
  | .refreshTokens _ refreshToken _ _ | .logout _ refreshToken => held == some refreshToken
  | _ => false

/-- What a device holds after its call: the token that the call has given it, nothing once it has
logged out, and otherwise what it held before. -/
def heldAfter (served : ServiceServed) (held : Option RawToken) : Option RawToken :=
  match served.request, served.outcome with
  | .login _ _ _, .ok (.login result) => some result.refreshToken
  | .refreshTokens _ _ _ _, .ok (.tokens tokens) => some tokens.refreshToken
  | .logout _ _, .ok _ => none
  | _, _ => held

variable {Device : Type} [DecidableEq Device]

/-- What a device holds after the calls of a log, each made by a device. -/
def holding : List (Device × ServiceServed) → Device → Option RawToken
  | [], _ => none
  | (caller, served) :: older, device =>
    if device = caller then heldAfter served (holding older device) else holding older device

/-- Every call of the log was made by a device with the token that it held. -/
def HonestLog : List (Device × ServiceServed) → Prop
  | [] => True
  | (caller, served) :: older =>
    served.request.honest (holding older caller) = true ∧ HonestLog older

instance decidableHonestLog : (log : List (Device × ServiceServed)) → Decidable (HonestLog log)
  | [] => .isTrue trivial
  | (_, _) :: older =>
    have := decidableHonestLog older
    inferInstanceAs (Decidable (_ ∧ _))

/-! ### How long a session lasts -/

/-- The digest of the token that the request rotates or logs out. -/
def Request.givesUp (runtime : Runtime) : Request → Option TokenHash
  | .refreshTokens _ refreshToken _ _ | .logout _ refreshToken => some (runtime.hash refreshToken)
  | _ => none

/-- The request ends every session of a user. -/
def Request.endsAll : Request → Bool
  | .logoutAllDevices _ | .changePassword _ _ | .resetPassword _ => true
  | _ => false

/-- The device of the session gives its token up, or all sessions are ended. -/
def Closes (runtime : Runtime) (opener : Device) (row : RefreshTokenRow)
    (act : Device × ServiceServed) : Prop :=
  (act.1 = opener ∧ act.2.request.givesUp runtime = some row.tokenHash) ∨
    act.2.request.endsAll = true

instance (runtime : Runtime) (opener : Device) (row : RefreshTokenRow)
    (act : Device × ServiceServed) : Decidable (Closes runtime opener row act) :=
  inferInstanceAs (Decidable (_ ∨ _))

/-- Every session that a login has opened is alive, or since then its device has given the token up
or all sessions have been ended. -/
def SessionsLast (runtime : Runtime) (log : List (Device × ServiceServed)) (state : State) : Prop :=
  ∀ past ∈ log.tails, ∀ opening ∈ past.head?, opening.2.request.logsIn = true →
    opening.2.outcome.isOk = true → ∀ row ∈ issuedTokens opening.2,
      row ∈ state.db.refreshTokens ∨ ∃ act ∈ newerThan past log, Closes runtime opening.1 row act

instance (runtime : Runtime) (log : List (Device × ServiceServed)) (state : State) :
    Decidable (SessionsLast runtime log state) :=
  inferInstanceAs (Decidable (∀ past ∈ _, _))

/-! ### A device that is taken for a thief -/

/-- The user logs out from all devices. -/
def logoutEverywhere : Request × List Choice :=
  (.logoutAllDevices ⟨⟨0, "a@x", some .full⟩, "15m"⟩, [{}, {}, {}, {}])

/-- The user logs in again and gets `r2`. -/
def loginAgain : Request × List Choice :=
  (.login ⟨"a@x", "pw"⟩ "ip" "agent", [{}, {}, {}, { text := "r2" }, {}, {}, {}])

/-- A device that has logged in with `r1` logs out from all devices, another one logs in, and the
first refreshes. -/
def staleRefresh : List (Request × List Choice) := signedInSerially ++ [
  logoutEverywhere,
  loginAgain,
  (.refreshTokens 0 "r1" "ip" "agent", [{}, {}, {}, {}, {}, {}])]

/-- The newest calls of a script, each with the device that makes it. -/
def playedBy (devices : List Device) (script : List (Request × List Choice)) :
    List (Device × ServiceServed) :=
  devices.zip ((playedSerially script).1.take devices.length)

omit [DecidableEq Device] in
theorem playedBy_run (devices : List Device) (script : List (Request × List Choice)) :
    SerialRun (service legibleRuntime) (State.empty 0)
      ((playedBy devices script).map (·.2) ++ (playedSerially script).1.drop devices.length)
      (playedSerially script).2 := by
  rw [playedBy, List.map_snd_zip (List.length_take_le _ _), List.take_append_drop]
  exact playedSerially_run script

/-- The refresh ends the session of the other device. -/
theorem sessions_not_always_last :
    ¬ ∀ (Device : Type) [DecidableEq Device] (runtime : Runtime) (clock : Timestamp)
      (earlier : List ServiceServed) (log : List (Device × ServiceServed)) (state : State),
      SerialRun (service runtime) (State.empty clock) (log.map (·.2) ++ earlier) state →
        HonestLog log → SessionsLast runtime log state := by
  intro last
  have lasting := last Bool legibleRuntime 0 _ _ _
    (playedBy_run [true, false, true, true] staleRefresh) (by decide +kernel)
  exact absurd lasting (by decide +kernel)

/-! ### What an honest call leaves alone -/

section Honest

variable {runtime : Runtime} {held : Option RawToken}

/-- What the request may revoke in bulk: the tokens of a user when it ends sessions or presents a
token, or the token that it gives up. -/
def Request.MayRevoke (runtime : Runtime) (request : Request) (filter : RefreshTokenWhere) : Prop :=
  (request.endsAll = true ∨ request.rotates = true) ∧
      (∃ userId, filter = { userId := some userId }) ∨
    ∃ tokenHash ∈ request.givesUp runtime, filter = { tokenHash := some tokenHash }

/-- The effect revokes in bulk only what the request may. -/
def Effect.Entitled (runtime : Runtime) (request : Request) : Effect → Prop
  | .execute statements => ∀ filter, .refreshTokenUpdateMany filter ∈ statements →
    request.MayRevoke runtime filter
  | _ => True

theorem harmless_entitled {request : Request} {effect : Effect} (harmless : effect.Harmless) :
    effect.Entitled runtime request := by
  cases effect with
  | execute statements => exact harmless.elim
  | _ => trivial

theorem issues_entitled {request : Request} {effect : Effect} (issues : effect.Issues) :
    effect.Entitled runtime request := by
  unfold Effect.Issues at issues
  split at issues
  · trivial
  · trivial
  · simp [Effect.Entitled]
  · exact issues.elim

theorem rotateRefreshToken_entitled {request : Request} (rotates : request.rotates = true)
    (tokenHash : TokenHash) (ipAddress userAgent : String) (requireFullToken : Bool) :
    (AuthService.rotateRefreshToken runtime tokenHash ipAddress userAgent requireFullToken).Uses
      (Effect.Entitled runtime request) := by
  refine uses_bind (uses_perform trivial) fun found => ?_
  match found with
  | none => trivial
  | some (storedToken, user) =>
    dsimp only
    split
    · refine uses_bind (uses_perform fun filter listed => ?_) fun _ =>
        uses_bind (uses_perform trivial) fun _ => trivial
      rw [List.mem_singleton] at listed
      obtain rfl := Statement.refreshTokenUpdateMany.inj listed
      exact .inl ⟨.inr rotates, _, rfl⟩
    · refine uses_bind (uses_perform trivial) fun _ => uses_bind (uses_throwIf _ _) fun _ =>
        uses_bind (uses_throwIf _ _) fun _ => uses_bind (uses_throwIf _ _) fun _ =>
        uses_bind (uses_perform (by simp [Effect.Entitled])) fun _ =>
        (generateTokens_uses runtime _ _ _ _ _).mono fun effect inside => ?_
      exact inside.elim harmless_entitled issues_entitled

/-- An honest call revokes in bulk only what it may. -/
theorem serve_entitled {request : Request} (honest : request.honest held = true) :
    (serve runtime request).Uses (Effect.Entitled runtime request) := by
  refine serve_uses_of_handle runtime request (fun _ => harmless_entitled) (fun _ => trivial)
    fun userId => ?_
  have awaited : (∀ effect, request.Awaits effect → effect.Entitled runtime request) →
      (request.handle runtime userId).Uses (Effect.Entitled runtime request) :=
    fun awaits => (handle_uses runtime userId request).mono fun effect inside =>
      inside.elim harmless_entitled (awaits effect)
  cases request with
  | login dto ipAddress userAgent => exact awaited fun _ => issues_entitled
  | refreshTokens process refreshToken ipAddress userAgent =>
    refine uses_bind (uses_bind (uses_perform trivial) fun role => ?_) fun _ => trivial
    cases role with
    | follower flight => exact uses_perform trivial
    | leader flight =>
      exact uses_bind (uses_attempt (rotateRefreshToken_entitled rfl _ _ _ _)) fun _ =>
        uses_bind (uses_perform trivial) fun _ => uses_ofOutcome _
  | logout jwt refreshToken =>
    refine uses_bind (uses_bind (uses_perform fun filter listed => ?_) fun _ => trivial) fun _ =>
      trivial
    rw [List.mem_singleton] at listed
    obtain rfl := Statement.refreshTokenUpdateMany.inj listed
    exact .inr ⟨_, rfl, rfl⟩
  | logoutAllDevices jwt =>
    refine awaited ?_
    rintro effect ⟨userId, rfl⟩
    simp [Effect.Entitled, Request.MayRevoke, Request.endsAll]
  | changePassword jwt dto =>
    refine awaited ?_
    rintro effect ⟨userId, passwordHash, rfl⟩
    simp [Effect.Entitled, Request.MayRevoke, Request.endsAll]
  | resetPassword dto =>
    refine awaited ?_
    rintro effect (⟨tokenHash, rfl⟩ | ⟨passwordHash, id, rfl⟩)
    · trivial
    · simp [Effect.Entitled, Request.MayRevoke, Request.endsAll]
  | _ => cases honest

/-- A bulk revocation of the sessions of the user has been carried out by the call. -/
def EndsSessionsOf (userId : UserId) (served : ServiceServed) : Prop :=
  ∃ event ∈ served.trace, .refreshTokenUpdateMany { userId := some userId } ∈ executed event

theorem uncleaned_of_honest {request : Request} (honest : request.honest held = true) :
    request ≠ .cleanupExpiredTokens := by
  rintro rfl
  cases honest

section Served

variable {served : ServiceServed} (valid : served.Valid (service runtime))
  (wellFormed : served.before.db.WellFormed) (honest : served.request.honest held = true)
  {row : RefreshTokenRow} (stored : row ∈ served.before.db.refreshTokens)

include valid wellFormed honest stored

/-- A token that the call does not give up stays as it is, unless the sessions of its user are
ended. -/
theorem serve_spares (unspent : served.request.givesUp runtime ≠ some row.tokenHash) :
    row ∈ served.after.db.refreshTokens ∨
      (served.request.endsAll = true ∨ served.request.rotates = true) ∧
        EndsSessionsOf row.userId served := by
  have unpresented : row.revoked = false → ∀ key, served.request.flightKey runtime = some key →
      key.tokenHash ≠ row.tokenHash := by
    rintro _ key keyed same
    cases request : served.request with
    | refreshTokens process refreshToken ipAddress userAgent =>
      rw [request] at keyed unspent
      cases keyed
      exact unspent (congrArg some same)
    | upgradeSession process refreshToken ipAddress userAgent =>
      rw [request] at honest
      cases honest
    | _ =>
      rw [request] at keyed
      cases keyed
  refine (serve_row valid.runs wellFormed stored unpresented).imp id ?_
  rintro ⟨event, member, statement, listed, takes⟩
  unfold Statement.takes at takes
  split at takes
  · exact absurd listed (serve_unswept (uncleaned_of_honest honest) valid.runs member _)
  · unfold Statement.revokes at takes
    split at takes
    · rename_i filter _
      have entitled := valid.runs.uses (serve_entitled honest) event member
      rw [show event.effect = _ from congrArg Event.effect (mem_executed listed)] at entitled
      rcases entitled filter listed with ⟨entitled, userId, rfl⟩ | ⟨tokenHash, spent, rfl⟩
      · have owner : row.userId = userId := by
          simp only [RefreshTokenWhere.holds, columnHolds, Bool.and_eq_true] at takes
          exact of_decide_eq_true takes.1.1.1
        rw [owner]
        exact ⟨entitled, event, member, listed⟩
      · refine absurd ?_ unspent
        simp only [RefreshTokenWhere.holds, columnHolds, Bool.and_eq_true] at takes
        rw [of_decide_eq_true takes.1.1.2]
        exact spent
    · cases takes

/-- A revoked token stays stored. -/
theorem serve_revoked (revoked : row.revoked = true) : row ∈ served.after.db.refreshTokens := by
  have unpresented : row.revoked = false → ∀ key, served.request.flightKey runtime = some key →
      key.tokenHash ≠ row.tokenHash := by
    rw [revoked]
    nofun
  rcases serve_row valid.runs wellFormed stored unpresented with
    kept | ⟨event, member, statement, listed, takes⟩
  · exact kept
  · obtain ⟨now, rfl⟩ := sweeps_of_takes revoked takes
    exact absurd listed (serve_unswept (uncleaned_of_honest honest) valid.runs member now)

end Served

/-- A logout that fails leaves the tokens as they are. -/
theorem serve_logout {jwt : Jwt} {refreshToken : RawToken} {before after : State}
    {trace : List ServiceEvent} {failure : Failure}
    (run : Runs environment (serve runtime (.logout jwt refreshToken)) before trace (.error failure)
      after) : after.db.refreshTokens = before.db.refreshTokens := by
  obtain ⟨inner, ended, _, ends, run⟩ := runs_serve_split run
  obtain ⟨first, second, admitted, between, _, runGuard, run⟩ := runs_bind.mp run
  have agrees := runs_agrees runGuard (canActivate_uses _ _)
  cases admitted with
  | error failure =>
    obtain ⟨_, _, rfl⟩ := run
    exact ends.refreshTokens.trans agrees.refreshTokens
  | ok user =>
    obtain ⟨answered, failed, run⟩ := runs_wrapped run
    obtain ⟨reply, written, rest, _, performs, run⟩ := run
    cases reply with
    | ok done =>
      obtain ⟨_, rfl, _⟩ := run
      cases failed
    | error failure =>
      obtain ⟨_, _, rfl⟩ := run
      rw [ends.refreshTokens, (performs_write_failed performs).refreshTokens, agrees.refreshTokens]

/-- A login that succeeds stores the token that it gives out. -/
theorem serve_login {dto : AuthService.LoginDto} {ipAddress userAgent : String}
    {before after : State} {trace : List ServiceEvent} {response : Response}
    (run : Runs environment (serve runtime (.login dto ipAddress userAgent)) before trace
      (.ok response) after) :
    ∃ result row, response = .login result ∧
      after.db.refreshTokens = before.db.refreshTokens ++ [row] ∧
        row.tokenHash = runtime.hash result.refreshToken ∧ row.revoked = false := by
  obtain ⟨inner, ended, _, ends, run⟩ := runs_serve_split run
  obtain ⟨answered, same, runLogin⟩ := runs_wrapped run
  cases answered with
  | error failure => cases same
  | ok result =>
    cases same
    obtain ⟨reply, read, rest, _, performsFind, run⟩ := runs_perform_bind.mp runLogin
    have agrees := performs_agrees performsFind rfl
    cases reply with
    | error failure => cases run.2.1
    | ok user =>
      rw [ofOutcome_ok, done_bind] at run
      split at run
      · obtain ⟨_, _, _, _, performs, run⟩ := runs_perform_bind.mp run
        obtain rfl := performs_securityEvent performs
        cases run.2.1
      · obtain ⟨_, logged, _, _, performs, run⟩ := runs_perform_bind.mp run
        obtain rfl := performs_securityEvent performs
        have agrees := agrees.trans (performs_agrees performs rfl)
        rcases runs_throwIf_bind.mp run with ⟨_, _, failed, _⟩ | ⟨_, run⟩
        · cases failed
        rcases runs_throwIf_bind.mp run with ⟨_, _, failed, _⟩ | ⟨_, run⟩
        · cases failed
        obtain ⟨_, _, tokens, issued, _, runIssue, run⟩ := runs_bind.mp run
        cases runs_generateTokens runIssue with
        | refused failure => cases run.2.1
        | stored accessToken raw row unstruck owner hash type live free stores drawn frames =>
          rw [ofOutcome_ok, done_bind] at run
          obtain ⟨_, _, profile, built, _, runProfile, run⟩ := runs_bind.mp run
          have agreesProfile := runs_agrees runProfile (buildSafeProfile_uses runtime _)
          cases profile with
          | error failure => cases run.2.1
          | ok profile =>
            obtain ⟨_, given, rfl⟩ := run
            cases given
            refine ⟨_, row, rfl, ?_, hash, live⟩
            rw [ends.refreshTokens, agreesProfile.refreshTokens, stores, agrees.refreshTokens]

/-! ### What a device holds -/

/-- The server has ended the session in this call: with every session of its user, or because the
database has failed between the two writes of its rotation. -/
def EndedBy (runtime : Runtime) (row : RefreshTokenRow) (served : ServiceServed) : Prop :=
  EndsSessionsOf row.userId served ∨
    presented runtime served = some row.tokenHash ∧
      ∃ event ∈ served.trace, struckInsert event = true

theorem EndedBy.continues {row now : RefreshTokenRow} {served : ServiceServed}
    (ended : EndedBy runtime row served) (continues : row.Continues now) :
    EndedBy runtime now served := by
  rw [EndedBy, continues.userId, continues.tokenHash]
  exact ended

/-- The row is still stored, and if it has been revoked the server has ended its session. -/
def Survives (runtime : Runtime) (row : RefreshTokenRow) (served : ServiceServed) : Prop :=
  ∃ now ∈ served.after.db.refreshTokens, row.Continues now ∧
    (now.revoked = true → row.revoked = true ∨ EndedBy runtime now served)

theorem survives_of_stored {row : RefreshTokenRow} {served : ServiceServed}
    (stored : row ∈ served.after.db.refreshTokens) : Survives runtime row served :=
  ⟨row, stored, row.continues_refl, .inl⟩

/-- A row that is added under a digest of its own. -/
theorem fresh_of_added {db next : Database} (wellFormed : next.WellFormed)
    {rows : List RefreshTokenRow} {row : RefreshTokenRow}
    (tokens : next.refreshTokens = rows ++ [row])
    (same : rows.map (·.tokenHash) = db.refreshTokens.map (·.tokenHash)) :
    ∀ old ∈ db.refreshTokens, old.tokenHash ≠ row.tokenHash := by
  intro old stored
  have distinct := wellFormed.tokenHashes
  rw [tokens, List.map_append, same] at distinct
  exact (List.nodup_append.mp distinct).2.2 _ (List.mem_map_of_mem stored) _
    (List.mem_map_of_mem List.mem_cons_self)

/-- The token is stored alive by the call, under a digest that was not stored before. -/
def Granted (runtime : Runtime) (served : ServiceServed) (token : RawToken) : Prop :=
  ∃ row ∈ served.after.db.refreshTokens, row.tokenHash = runtime.hash token ∧ row.revoked = false ∧
    ∀ old ∈ served.before.db.refreshTokens, old.tokenHash ≠ row.tokenHash

section Served

variable {served : ServiceServed} (valid : served.Valid (service runtime))
  (idle : served.before.Idle) (wellFormed : served.before.db.WellFormed)
  (honest : served.request.honest held = true)

include valid wellFormed honest in
theorem survives_of_unspent {row : RefreshTokenRow}
    (stored : row ∈ served.before.db.refreshTokens)
    (unspent : served.request.givesUp runtime ≠ some row.tokenHash) :
    Survives runtime row served := by
  rcases serve_spares valid wellFormed honest stored unspent with kept | ⟨_, ends⟩
  · exact survives_of_stored kept
  · obtain ⟨now, member, continues⟩ :=
      serve_persists (uncleaned_of_honest honest) valid.runs stored
    refine ⟨now, member, continues, fun _ => .inr (.inl ?_)⟩
    rw [continues.userId]
    exact ends

include valid wellFormed honest in
/-- A refresh that fails leaves the presented token stored, and if it has revoked it the rotation
was cut off. -/
theorem survives_of_failed {failure : Failure} {row : RefreshTokenRow}
    (stored : row ∈ served.before.db.refreshTokens)
    (presents : presented runtime served = some row.tokenHash)
    (rotation : Rotation runtime row.tokenHash false served.before served.trace (.error failure)
      served.after) : Survives runtime row served := by
  have found : ∀ token user,
      served.before.db.findRefreshTokenWithUser row.tokenHash = some (token, user) →
        token = row := by
    intro token user found
    obtain ⟨member, hash, _⟩ := findRefreshTokenWithUser_some found
    exact eq_of_key wellFormed.tokenHashes member stored hash
  cases rotation with
  | kept failure uninserted because agrees =>
    refine survives_of_stored ?_
    rw [agrees.refreshTokens]
    exact stored
  | ended failure storedToken user lookup revoked =>
    rw [found storedToken user lookup] at revoked
    exact survives_of_stored (serve_revoked valid wellFormed honest stored revoked)
  | halted failure storedToken user raw lookup live insert tokens =>
    refine ⟨row.revoke, ?_, row.continues_revoke, fun _ => .inr (.inr ⟨presents, insert⟩)⟩
    rw [tokens, found storedToken user lookup]
    refine mem_updateWhere.mpr ⟨row, stored, ?_⟩
    rw [if_pos (beq_self_eq_true _)]

include valid idle wellFormed honest in
/-- After its call a device holds a token that the call has granted, or nothing, or what it held
before, and then that survives. -/
theorem heldAfter_cases :
    (∃ token, heldAfter served held = some token ∧ Granted runtime served token) ∨
      heldAfter served held = none ∨ heldAfter served held = held ∧
        ∀ token, held = some token → ∀ row ∈ served.before.db.refreshTokens,
          row.tokenHash = runtime.hash token → Survives runtime row served := by
  have wellFormedAfter := wellFormed_after valid wellFormed
  have unspent : served.request.givesUp runtime = none → ∀ token, held = some token →
      ∀ row ∈ served.before.db.refreshTokens, row.tokenHash = runtime.hash token →
        Survives runtime row served := by
    intro nothing token _ row stored _
    refine survives_of_unspent valid wellFormed honest stored ?_
    rw [nothing]
    nofun
  have run := valid.runs
  cases request : served.request with
  | login dto ipAddress userAgent =>
    rw [request] at run unspent
    cases outcome : served.outcome with
    | error failure =>
      refine .inr (.inr ⟨?_, unspent rfl⟩)
      rw [heldAfter, request, outcome]
    | ok response =>
      rw [outcome] at run
      obtain ⟨result, row, rfl, tokens, hash, live⟩ := serve_login run
      refine .inl ⟨result.refreshToken, ?_, row, ?_, hash, live, fresh_of_added wellFormedAfter
        tokens rfl⟩
      · rw [heldAfter, request, outcome]
      · rw [tokens]
        exact List.mem_append_right _ List.mem_cons_self
  | refreshTokens process refreshToken ipAddress userAgent =>
    rw [request] at run
    rcases runs_rotation rfl run with ⟨answered, outcome, rotation⟩ | ⟨⟨entry, pending, _⟩, _⟩
    swap
    · rw [idle] at pending
      cases pending
    cases answered with
    | ok tokens =>
      cases rotation with
      | exchanged storedToken user accessToken raw row found live permitted unstruck owner hash
          unrevoked stores =>
        have digests : ∀ row : RefreshTokenRow, row.revoke.tokenHash = row.tokenHash := fun _ => rfl
        refine .inl ⟨raw, ?_, row, ?_, hash, unrevoked, fresh_of_added wellFormedAfter stores
          (map_updateWhere digests _)⟩
        · rw [heldAfter, request, outcome]
          rfl
        · rw [stores]
          exact List.mem_append_right _ List.mem_cons_self
    | error failure =>
      refine .inr (.inr ⟨by rw [heldAfter, request, outcome]; rfl, ?_⟩)
      intro token holds row stored hash
      obtain rfl : token = refreshToken := by
        rw [request, Request.honest, holds] at honest
        exact Option.some.inj (beq_iff_eq.mp honest)
      rw [← hash] at rotation
      refine survives_of_failed valid wellFormed honest stored ?_ rotation
      rw [presented, request, Request.rotation, Option.map_some, hash]
  | logout jwt refreshToken =>
    rw [request] at run
    cases outcome : served.outcome with
    | ok response => exact .inr (.inl (by rw [heldAfter, request, outcome]))
    | error failure =>
      rw [outcome] at run
      refine .inr (.inr ⟨?_, fun token _ row stored _ => survives_of_stored ?_⟩)
      · rw [heldAfter, request, outcome]
      · rw [serve_logout run]
        exact stored
  | logoutAllDevices jwt =>
    rw [request] at unspent
    exact .inr (.inr ⟨by rw [heldAfter, request], unspent rfl⟩)
  | changePassword jwt dto =>
    rw [request] at unspent
    exact .inr (.inr ⟨by rw [heldAfter, request], unspent rfl⟩)
  | resetPassword dto =>
    rw [request] at unspent
    exact .inr (.inr ⟨by rw [heldAfter, request], unspent rfl⟩)
  | _ =>
    rw [request] at honest
    cases honest

end Served

/-- What is known of the devices: the token that one holds is stored, revoked only when the server
has ended its session, and no other device holds it. -/
structure Custody (runtime : Runtime) (log : List (Device × ServiceServed)) (state : State) :
    Prop where
  stored : ∀ device token, holding log device = some token → ∃ row ∈ state.db.refreshTokens,
    row.tokenHash = runtime.hash token ∧
      (row.revoked = true → ∃ act ∈ log, EndedBy runtime row act.2)
  apart : ∀ device other token another, holding log device = some token →
    holding log other = some another → runtime.hash token = runtime.hash another → device = other

section Custody

variable {log : List (Device × ServiceServed)} {caller : Device} {served : ServiceServed}

theorem holding_caller : holding ((caller, served) :: log) caller =
    heldAfter served (holding log caller) :=
  if_pos rfl

theorem holding_other {device : Device} (other : device ≠ caller) :
    holding ((caller, served) :: log) device = holding log device :=
  if_neg other

/-- A token that the call gives up is the one that the device holds. -/
theorem held_of_givesUp {tokenHash : TokenHash} {request : Request}
    (honest : request.honest held = true) (spent : request.givesUp runtime = some tokenHash) :
    ∃ token, held = some token ∧ runtime.hash token = tokenHash := by
  cases request with
  | refreshTokens process refreshToken ipAddress userAgent =>
    exact ⟨refreshToken, beq_iff_eq.mp honest, Option.some.inj spent⟩
  | logout jwt refreshToken => exact ⟨refreshToken, beq_iff_eq.mp honest, Option.some.inj spent⟩
  | _ => cases spent

/-- A token that survives the call remains in custody. -/
theorem Custody.keeps (custody : Custody runtime log served.before) {device : Device}
    {token : RawToken} (holds : holding log device = some token)
    (survives : ∀ row ∈ served.before.db.refreshTokens, row.tokenHash = runtime.hash token →
      Survives runtime row served) :
    ∃ row ∈ served.after.db.refreshTokens, row.tokenHash = runtime.hash token ∧
      (row.revoked = true → ∃ act ∈ (caller, served) :: log, EndedBy runtime row act.2) := by
  obtain ⟨row, stored, hash, ended⟩ := custody.stored device token holds
  obtain ⟨now, member, continues, revoked⟩ := survives row stored hash
  refine ⟨now, member, continues.tokenHash.trans hash, fun dead => ?_⟩
  rcases revoked dead with before | here
  · obtain ⟨act, recorded, ended⟩ := ended before
    exact ⟨act, List.mem_cons_of_mem _ recorded, ended.continues continues⟩
  · exact ⟨(caller, served), List.mem_cons_self, here⟩

/-- A token that a device holds after a call it has held before, or the call has granted it. -/
theorem held_before (valid : served.Valid (service runtime)) (idle : served.before.Idle)
    (wellFormed : served.before.db.WellFormed)
    (honest : served.request.honest (holding log caller) = true) {device : Device}
    {token : RawToken} (holds : holding ((caller, served) :: log) device = some token) :
    holding log device = some token ∨ device = caller ∧ Granted runtime served token := by
  by_cases same : device = caller
  · subst same
    rw [holding_caller] at holds
    rcases heldAfter_cases valid idle wellFormed honest with
      ⟨given, grants, granted⟩ | nothing | ⟨kept, _⟩
    · obtain rfl := Option.some.inj (holds.symm.trans grants)
      exact .inr ⟨rfl, granted⟩
    · rw [nothing] at holds
      cases holds
    · rw [kept] at holds
      exact .inl holds
  · rw [holding_other same] at holds
    exact .inl holds

/-- A token that the call has granted is not one that a device held before. -/
theorem Custody.foreign (custody : Custody runtime log served.before) {device : Device}
    {token granted : RawToken} (holds : holding log device = some token)
    (grants : Granted runtime served granted) : runtime.hash token ≠ runtime.hash granted := by
  intro same
  obtain ⟨row, _, hash, _, fresh⟩ := grants
  obtain ⟨old, stored, before, _⟩ := custody.stored device token holds
  exact fresh old stored ((before.trans same).trans hash.symm)

/-- A call of a device keeps the custody. -/
theorem Custody.serve (custody : Custody runtime log served.before)
    (valid : served.Valid (service runtime)) (idle : served.before.Idle)
    (wellFormed : served.before.db.WellFormed)
    (honest : served.request.honest (holding log caller) = true) :
    Custody runtime ((caller, served) :: log) served.after := by
  constructor
  · intro device token holds
    by_cases same : device = caller
    · subst same
      rw [holding_caller] at holds
      rcases heldAfter_cases valid idle wellFormed honest with
        ⟨given, grants, row, stored, hash, live, _⟩ | nothing | ⟨kept, survives⟩
      · obtain rfl := Option.some.inj (holds.symm.trans grants)
        refine ⟨row, stored, hash, fun dead => ?_⟩
        rw [live] at dead
        cases dead
      · rw [nothing] at holds
        cases holds
      · rw [kept] at holds
        exact custody.keeps holds (survives token holds)
    · rw [holding_other same] at holds
      refine custody.keeps holds fun row stored hash =>
        survives_of_unspent valid wellFormed honest stored fun spent => ?_
      obtain ⟨given, held, digest⟩ := held_of_givesUp honest spent
      exact same (custody.apart device caller token given holds held (hash.symm.trans digest.symm))
  · intro device other token another holds holdsOther hash
    rcases held_before valid idle wellFormed honest holds with old | ⟨rfl, granted⟩
    · rcases held_before valid idle wellFormed honest holdsOther with oldOther | ⟨_, granted⟩
      · exact custody.apart device other token another old oldOther hash
      · exact absurd hash (custody.foreign old granted)
    · rcases held_before valid idle wellFormed honest holdsOther with oldOther | ⟨rfl, _⟩
      · exact absurd hash.symm (custody.foreign oldOther granted)
      · rfl

variable {clock : Timestamp} {earlier : List ServiceServed} {state : State}

/-- Custody holds along every honest run. -/
theorem custody_of_honest
    (serial : SerialRun (service runtime) (State.empty clock) (log.map (·.2) ++ earlier) state)
    (honest : HonestLog log) : Custody runtime log state := by
  induction log generalizing state with
  | nil => exact ⟨by simp [holding], by simp [holding]⟩
  | cons act older inductionHypothesis =>
    obtain ⟨caller, served⟩ := act
    cases serial with
    | serve opening valid =>
      exact (inductionHypothesis opening honest.2).serve valid (serial_idle opening rfl)
        (serial_wellFormed opening (empty_wellFormed clock)) honest.1

/-! ### How long a session lasts -/

/-- A rotation leaves the token of another session as it is, unless it presents a revoked token of
the same user. -/
theorem rotation_spares {tokenHash : TokenHash} {requireFullToken : Bool} {before after : State}
    {trace : List ServiceEvent} {answered : Except Failure AuthTokens}
    (rotation : Rotation runtime tokenHash requireFullToken before trace answered after)
    (wellFormed : before.db.WellFormed) {row : RefreshTokenRow}
    (stored : row ∈ before.db.refreshTokens) (other : row.tokenHash ≠ tokenHash) :
    row ∈ after.db.refreshTokens ∨ ∃ presented ∈ before.db.refreshTokens,
      presented.tokenHash = tokenHash ∧ presented.userId = row.userId ∧
        presented.revoked = true := by
  have unexchanged : ∀ token user,
      before.db.findRefreshTokenWithUser tokenHash = some (token, user) →
        row ∈ updateWhere (fun row => row.id == token.id) RefreshTokenRow.revoke
          before.db.refreshTokens := by
    intro token user found
    obtain ⟨member, hash, _⟩ := findRefreshTokenWithUser_some found
    refine mem_updateWhere.mpr ⟨row, stored, ?_⟩
    rw [if_neg]
    intro same
    rw [eq_of_key wellFormed.refreshTokens.distinct stored member (beq_iff_eq.mp same)] at other
    exact other hash
  cases rotation with
  | kept failure uninserted because agrees =>
    rw [agrees.refreshTokens]
    exact .inl stored
  | ended failure token user found revoked unstruck tokens =>
    obtain ⟨member, hash, _⟩ := findRefreshTokenWithUser_some found
    by_cases owner : token.userId = row.userId
    · exact .inr ⟨token, member, hash, owner, revoked⟩
    · refine .inl ?_
      rw [tokens]
      refine mem_updateWhere.mpr ⟨row, stored, ?_⟩
      rw [if_neg]
      simp [RefreshTokenWhere.holds, columnHolds, Ne.symm owner]
  | halted failure token user raw found live insert tokens =>
    rw [tokens]
    exact .inl (unexchanged token user found)
  | exchanged token user accessToken raw successor found live permitted unstruck owner hash
      unrevoked tokens =>
    rw [tokens]
    exact .inl (List.mem_append_left _ (unexchanged token user found))

/-- The call presents a session of the user that the server has ended before. -/
def PresentsEnded (runtime : Runtime) (userId : UserId) (served : ServiceServed)
    (older : List (Device × ServiceServed)) : Prop :=
  ∃ row ∈ served.before.db.refreshTokens, presented runtime served = some row.tokenHash ∧
    row.userId = userId ∧ row.revoked = true ∧ ∃ act ∈ older, EndedBy runtime row act.2

/-- Every session that a login has opened is alive, or since then its device has given the token up
or all sessions have been ended, or a device has presented another session of the user that the
server had ended. -/
def SessionsLastUnlessEnded (runtime : Runtime) (log : List (Device × ServiceServed))
    (state : State) : Prop :=
  ∀ past ∈ log.tails, ∀ opening ∈ past.head?, opening.2.request.logsIn = true →
    opening.2.outcome.isOk = true → ∀ row ∈ issuedTokens opening.2,
      row ∈ state.db.refreshTokens ∨
        (∃ act ∈ newerThan past log, Closes runtime opening.1 row act) ∨
          ∃ recent ∈ (newerThan past log).tails, ∃ act ∈ recent.head?,
            PresentsEnded runtime row.userId act.2 (recent.tail ++ past)

/-- No other device than the opener holds the token of the session. -/
def HeldBy (runtime : Runtime) (opener : Device) (row : RefreshTokenRow)
    (log : List (Device × ServiceServed)) : Prop :=
  ∀ device token, holding log device = some token → runtime.hash token = row.tokenHash →
    device = opener

/-- One call leaves the session alive, or closes it, or presents another one of the user that the
server has ended. -/
theorem session_serve (custody : Custody runtime log served.before)
    (valid : served.Valid (service runtime)) (idle : served.before.Idle)
    (wellFormed : served.before.db.WellFormed)
    (honest : served.request.honest (holding log caller) = true) {opener : Device}
    {row : RefreshTokenRow} (stored : row ∈ served.before.db.refreshTokens)
    (held : HeldBy runtime opener row log) :
    row ∈ served.after.db.refreshTokens ∧ HeldBy runtime opener row ((caller, served) :: log) ∨
      Closes runtime opener row (caller, served) ∨ PresentsEnded runtime row.userId served log := by
  by_cases spent : served.request.givesUp runtime = some row.tokenHash
  · obtain ⟨token, holds, hash⟩ := held_of_givesUp honest spent
    exact .inr (.inl (.inl ⟨held caller token holds hash, spent⟩))
  have heldAfter : HeldBy runtime opener row ((caller, served) :: log) := by
    intro device token holds hash
    rcases held_before valid idle wellFormed honest holds with
      old | ⟨_, granted, _, digest, _, fresh⟩
    · exact held device token old hash
    · exact absurd (hash.symm.trans digest.symm) (fresh row stored)
  rcases serve_spares valid wellFormed honest stored spent with kept | ⟨ends | rotates, _⟩
  · exact .inl ⟨kept, heldAfter⟩
  · exact .inr (.inl (.inr ends))
  cases request : served.request with
  | refreshTokens process refreshToken ipAddress userAgent =>
    have run := valid.runs
    rw [request] at run honest spent
    have holds : holding log caller = some refreshToken := beq_iff_eq.mp honest
    rcases runs_rotation rfl run with ⟨answered, outcome, rotation⟩ | ⟨⟨entry, pending, _⟩, _⟩
    swap
    · rw [idle] at pending
      cases pending
    have other : row.tokenHash ≠ runtime.hash refreshToken := fun same =>
      spent (congrArg some same.symm)
    rcases rotation_spares rotation wellFormed stored other with
      kept | ⟨token, member, hash, owner, revoked⟩
    · exact .inl ⟨kept, heldAfter⟩
    · obtain ⟨mine, storedMine, same, ended⟩ := custody.stored caller refreshToken holds
      obtain rfl := eq_of_key wellFormed.tokenHashes storedMine member (same.trans hash.symm)
      refine .inr (.inr ⟨mine, member, ?_, owner, revoked, ended revoked⟩)
      rw [presented, request, Request.rotation, Option.map_some, same]
  | upgradeSession process refreshToken ipAddress userAgent =>
    rw [request] at honest
    cases honest
  | _ =>
    rw [request] at rotates
    cases rotates

/-- A session stays alive along an honest run unless it is closed or a device presents another one
of the user that the server has ended. -/
theorem session_of_honest {opening : Device × ServiceServed}
    {older newer : List (Device × ServiceServed)}
    (serial : SerialRun (service runtime) (State.empty clock)
      ((newer ++ opening :: older).map (·.2) ++ earlier) state)
    (honest : HonestLog (newer ++ opening :: older)) {row : RefreshTokenRow}
    (issued : row ∈ opening.2.after.db.refreshTokens)
    (held : HeldBy runtime opening.1 row (opening :: older)) :
    row ∈ state.db.refreshTokens ∧ HeldBy runtime opening.1 row (newer ++ opening :: older) ∨
      (∃ act ∈ newer, Closes runtime opening.1 row act) ∨
        ∃ recent ∈ newer.tails, ∃ act ∈ recent.head?,
          PresentsEnded runtime row.userId act.2 (recent.tail ++ opening :: older) := by
  induction newer generalizing state with
  | nil =>
    cases serial with
    | serve before valid => exact .inl ⟨issued, held⟩
  | cons act rest inductionHypothesis =>
    obtain ⟨caller, served⟩ := act
    cases serial with
    | serve before valid =>
      rcases inductionHypothesis before honest.2 with
        ⟨stored, held⟩ | ⟨act, member, closes⟩ | ⟨recent, suffix, act, first, presents⟩
      · rcases session_serve (custody_of_honest before honest.2) valid (serial_idle before rfl)
          (serial_wellFormed before (empty_wellFormed clock)) honest.1 stored held with
          alive | closes | presents
        · exact .inl alive
        · exact .inr (.inl ⟨_, List.mem_cons_self, closes⟩)
        · exact .inr (.inr ⟨(caller, served) :: rest, (List.mem_tails _ _).mpr (List.suffix_refl _),
            (caller, served), rfl, presents⟩)
      · exact .inr (.inl ⟨act, List.mem_cons_of_mem _ member, closes⟩)
      · exact .inr (.inr ⟨recent, by rw [List.tails_cons]; exact List.mem_cons_of_mem _ suffix, act,
          first, presents⟩)

/-- The older part of an honest log is honest. -/
theorem honest_older {newer older : List (Device × ServiceServed)}
    (honest : HonestLog (newer ++ older)) : HonestLog older := by
  induction newer with
  | nil => exact honest
  | cons act rest inductionHypothesis => exact inductionHypothesis honest.2

/-- A login that succeeds leaves its token with its device alone. -/
theorem heldBy_of_login {opening : Device × ServiceServed}
    {older : List (Device × ServiceServed)}
    (serial : SerialRun (service runtime) (State.empty clock)
      ((opening :: older).map (·.2) ++ earlier) state)
    (honest : HonestLog (opening :: older)) (logsIn : opening.2.request.logsIn = true)
    (succeeded : opening.2.outcome.isOk = true) {row : RefreshTokenRow}
    (issued : row ∈ issuedTokens opening.2) :
    row ∈ opening.2.after.db.refreshTokens ∧ HeldBy runtime opening.1 row (opening :: older) := by
  have custody := custody_of_honest serial honest
  obtain ⟨opener, served⟩ := opening
  obtain ⟨stored, recent⟩ := List.mem_filter.mp issued
  refine ⟨stored, fun device token holds hash => ?_⟩
  cases serial with
  | serve before valid =>
    have run := valid.runs
    cases request : served.request with
    | login dto ipAddress userAgent =>
      cases outcome : served.outcome with
      | error failure =>
        rw [outcome] at succeeded
        cases succeeded
      | ok response =>
        rw [request, outcome] at run
        obtain ⟨result, added, rfl, tokens, digest, _⟩ := serve_login run
        have same : row = added := by
          rw [tokens] at stored
          rcases List.mem_append.mp stored with old | new
          · have below := (serial_wellFormed before (empty_wellFormed clock)).refreshTokens.below _
              (List.mem_map_of_mem old)
            exact absurd below (Nat.not_lt.mpr (of_decide_eq_true recent))
          · exact List.mem_singleton.mp new
        have holdsOpener :
          holding ((opener, served) :: older) opener = some result.refreshToken := by
          rw [holding_caller, heldAfter, request, outcome]
        refine custody.apart device opener token result.refreshToken holds holdsOpener ?_
        rw [hash, same, digest]
    | _ =>
      rw [request] at logsIn
      cases logsIn

end Custody

end Honest

/-- In every honest run a session lasts until it is closed, or until a device presents another
session of the user that the server had ended. -/
theorem sessions_last_unless_ended (runtime : Runtime) (clock : Timestamp)
    (earlier : List ServiceServed) (log : List (Device × ServiceServed)) (state : State)
    (serial : SerialRun (service runtime) (State.empty clock) (log.map (·.2) ++ earlier) state)
    (honest : HonestLog log) : SessionsLastUnlessEnded runtime log state := by
  intro past suffix opening first logsIn succeeded row issued
  obtain ⟨newer, rfl⟩ := (List.mem_tails _ _).mp suffix
  obtain ⟨older, rfl⟩ : ∃ older, past = opening :: older :=
    ⟨past.tail, List.eq_cons_of_mem_head? first⟩
  rw [newerThan_append]
  have whole := serial
  rw [List.map_append, List.append_assoc] at serial
  obtain ⟨_, opened, _⟩ := serial.cut
  obtain ⟨stored, held⟩ := heldBy_of_login opened (honest_older honest) logsIn succeeded issued
  exact (session_of_honest whole honest stored held).imp And.left id

/-- A device that has logged in with `r1` refreshes after another one has logged in with `r2`. -/
def freshRefresh : List (Request × List Choice) := signedInSerially ++ [
  loginAgain,
  (.refreshTokens 0 "r1" "ip" "agent", [{}, {}, {}, {}, {}, { text := "r3" }, {}, {}, {}, {}])]

/-- In that run both sessions are alive at the end. -/
theorem sessions_last_unless_ended_fresh :
    (playedSerially freshRefresh).2.db.refreshTokens.map (fun row => (row.tokenHash, row.revoked)) =
        [("#r1", true), ("#r2", false), ("#r3", false)] ∧
      SessionsLastUnlessEnded legibleRuntime (playedBy [true, false, true] freshRefresh)
        (playedSerially freshRefresh).2 :=
  ⟨by decide +kernel, sessions_last_unless_ended legibleRuntime 0 _ _ _
    (playedBy_run [true, false, true] freshRefresh) (by decide +kernel)⟩

end GraconAuth
