/-
This file traces sessions back to where they began. A session begins when somebody
shows the password of a verified account or the token of its verification link. Every
other call that issues tokens does so on the strength of a token that it is given, and
that token was issued earlier. So whoever holds a token of an account, and whoever
gets past the guard as its user, has a beginning of that kind behind them.
-/

import GraconAuth.Integrity
import GraconAuth.SingleSuccessor

namespace GraconAuth

open Interleaving Program

variable (runtime : Runtime)

/-- The requests that begin a session. -/
def Request.opens : Request → Bool
  | .login _ _ _ | .verifyEmail _ => true
  | _ => false

/-- Some call has begun a session of the account by what it has shown of it. -/
def Opened (world : ServiceWorld) (userId : UserId) : Prop :=
  ∃ entry ∈ world.history, entry.request.opens = true ∧
    EntitledTo runtime (world.past entry.thread) userId entry.request

/-- Every token of a session has a beginning behind it, stored, signed or read. -/
structure Rooted (world : ServiceWorld) : Prop where
  stored : ∀ row ∈ world.state.db.refreshTokens, Opened runtime world row.userId
  signed : ∀ jwt ∈ world.state.signed, Opened runtime world jwt.payload.sub
  read : ∀ entry ∈ world.history, ∀ found ∈ readToken entry.event,
    Opened runtime world found.1.userId

variable {runtime} {world : ServiceWorld} {userId : UserId}

/-- What has begun has begun. -/
theorem Opened.record (opened : Opened runtime world userId) (entry : ServiceEntry) :
    Opened runtime (world.record entry) userId := by
  obtain ⟨root, member, opens, entitled⟩ := opened
  exact ⟨root, List.mem_cons_of_mem _ member, opens,
    entitled.mono (World.past_subset (List.subset_cons_self _ _) _)⟩

/-- The entry of a call that begins a session of the account. -/
theorem opened_self {entry : ServiceEntry} (opens : entry.request.opens = true)
    (entitled : EntitledTo runtime (world.past entry.thread) userId entry.request) :
    Opened runtime (world.record entry) userId :=
  ⟨entry, List.mem_cons_self, opens,
    entitled.mono (World.past_subset (List.subset_cons_self _ _) _)⟩

/-- A request that is let at an account by a token, or begins a session itself, has a beginning
behind it. -/
theorem Rooted.opened (rooted : Rooted runtime world) {entry : ServiceEntry}
    (issues : entry.request.issues = true) (accepted : accepts world.state entry.request = true)
    (credible : ∀ event ∈ world.past entry.thread, Plausible event)
    (entitled : EntitledTo runtime (world.past entry.thread) userId entry.request) :
    Opened runtime (world.record entry) userId := by
  cases opens : entry.request.opens with
  | true => exact opened_self opens entitled
  | false =>
    cases kind : entry.request with
    | refreshTokens process refreshToken ipAddress userAgent
    | upgradeSession process refreshToken ipAddress userAgent =>
      rw [kind] at entitled
      obtain ⟨storedToken, user, past, rfl⟩ := entitled
      rw [(credible _ past).2]
      obtain ⟨earlier, member, _, same⟩ := World.mem_past.mp past
      exact (rooted.read earlier member (storedToken, user) (by rw [same]; rfl)).record entry
    | submitVerification jwt dto ipAddress =>
      rw [kind] at entitled accepted
      rw [entitled.1]
      exact (rooted.signed jwt (by simpa [accepts, Request.guard] using accepted)).record entry
    | login _ _ _ | verifyEmail _ => rw [kind] at opens; cases opens
    | _ => rw [kind] at issues; cases issues

/-- Only a request that issues sessions signs a token. -/
theorem issues_of_sign {request : Request} {past : List ServiceEvent} {payload : JwtPayload}
    {expiresIn : String} (ruled : ledger runtime request past (.sign payload expiresIn)) :
    request.issues = true := by
  rcases ruled.2 with harmless | awaits | ⟨_, same⟩
  · exact harmless.elim
  · cases request with
    | login _ _ _ | verifyEmail _ | refreshTokens _ _ _ _ | upgradeSession _ _ _ _
    | submitVerification _ _ _ => rfl
    | _ => simp [Request.Awaits, Effect.Links] at awaits
  · cases same

/-- Only a request that issues sessions stores a refresh token. -/
theorem issues_of_create {request : Request} {data : RefreshTokenCreate}
    (writes : request.Writes (.refreshTokenCreate data)) : request.issues = true := by
  cases request <;> first | rfl | exact writes.elim

/-! ### The runs -/

section Chronicles

variable {regime : Regime State Effect.Reply Failure Request} {clock : Timestamp}

theorem Rooted.record (rooted : Rooted runtime world) {entry : ServiceEntry}
    (admissible : Admissible (service runtime) regime
      (fun request => conduct (ledger runtime request)) world entry)
    (credible : ∀ event ∈ world.past entry.thread, Plausible event) :
    Rooted runtime (world.record entry) := by
  have performs : environment.Performs entry.before entry.effect entry.reply entry.after :=
    admissible.performs
  have ruled : ledger runtime entry.request (world.past entry.thread) entry.effect :=
    admissible.ruled
  have accepted : accepts world.state entry.request = true :=
    admissible.current ▸ admissible.accepted
  have current : entry.before = world.state := admissible.current
  refine ⟨fun row member => ?_, fun jwt member => ?_, fun other member found read => ?_⟩
  · rw [World.record_state] at member
    rcases performs_refreshTokens performs member with
      ⟨old, stored, continues⟩ | ⟨statements, data, id, same, listed, _, continues⟩
    · rw [continues.userId]
      exact (rooted.stored old (current ▸ stored)).record entry
    · rw [same] at ruled
      obtain ⟨backed, writes⟩ := ledger_execute ruled _ listed
      rw [continues.userId]
      exact rooted.opened (issues_of_create writes) accepted credible backed
  · rw [World.record_state] at member
    rcases performs_signed performs with same | ⟨payload, expiresIn, effect, same⟩
    · rw [same, current] at member
      exact (rooted.signed jwt member).record entry
    · rw [same] at member
      rw [effect] at ruled
      rcases List.mem_cons.mp member with rfl | old
      · exact rooted.opened (issues_of_sign ruled) accepted credible ruled.1.1
      · exact (rooted.signed jwt (current ▸ old)).record entry
  · rcases List.mem_cons.mp member with rfl | old
    · obtain ⟨storedToken, user⟩ := found
      obtain ⟨tokenHash, event⟩ := effect_of_readToken read
      obtain ⟨stored, _⟩ := findRefreshTokenWithUser_some
        (performs_refreshTokenFindUnique (performs_event performs event)).symm
      exact (rooted.stored storedToken (current ▸ stored)).record other
    · exact (rooted.read other old found read).record entry

theorem chronicle_rooted
    (chronicle : Chronicle (service runtime) regime
      (fun request => conduct (ledger runtime request)) (State.empty clock) world) :
    Rooted runtime world := by
  refine chronicle.invariant (Rooted runtime) ?_ fun world entry earlier rooted admissible =>
    rooted.record admissible fun event past => ?_
  · exact ⟨fun _ member => absurd member List.not_mem_nil,
      fun _ member => absurd member List.not_mem_nil,
      fun _ member => absurd member List.not_mem_nil⟩
  · obtain ⟨old, member, _, rfl⟩ := World.mem_past.mp past
    obtain ⟨_, _, known, _⟩ := earlier.recalls member
    exact performs_plausible known.performs

end Chronicles

/-- In every run a stored refresh token, a signed access token and a call behind the guard have
somebody behind them who has shown, earlier in the run, the password of the account or the token of
its verification link. -/
theorem sessions_have_roots {clock : Timestamp} {pool : ServicePool}
    (reachable : Reachable (service runtime) .free (State.empty clock) pool) :
    (∀ row ∈ pool.world.state.db.refreshTokens, Opened runtime pool.world row.userId) ∧
      (∀ jwt ∈ pool.world.state.signed, Opened runtime pool.world jwt.payload.sub) ∧
      ∀ newer entry older jwt metadata, pool.world.history = newer ++ entry :: older →
        entry.request.guard = some (jwt, metadata) →
          Opened runtime ⟨entry.before, older⟩ jwt.payload.sub := by
  have chronicle := reachable_chronicle (ledger runtime) reachable fun request _ =>
    serve_ledger runtime request
  have rooted := chronicle_rooted chronicle
  refine ⟨rooted.stored, rooted.signed, fun newer entry older jwt metadata split guarded => ?_⟩
  obtain ⟨earlier, admissible⟩ := chronicle.admissible split
  have accepted : accepts entry.before entry.request = true := admissible.accepted
  exact (chronicle_rooted earlier).signed jwt (by simpa [accepts, guarded] using accepted)

theorem sessions_have_roots_signedIn :
    ∃ row ∈ (played .lax signedIn).world.state.db.refreshTokens, row.userId = 0 ∧
      Opened legibleRuntime (played .lax signedIn).world 0 := by
  obtain ⟨row, stored, owner⟩ : ∃ row ∈ (played .lax signedIn).world.state.db.refreshTokens,
      row.userId = 0 := by decide
  exact ⟨row, stored, owner, owner ▸
    (sessions_have_roots (played_reachable Referee.lax_upholds signedIn)).1 row stored⟩

end GraconAuth
