/-
This file is about the finality of revocation: once a logout, a logout from all
devices, a change of password or a reset has returned, nothing that stems from
what it ended is still alive. Rotation and login read a row and write later, so
runs exist in which this fails. It holds in the runs in which no rotation revokes
a token that one of these calls has already ended, and no login stores its token
once the password it checked has been replaced.
-/

import GraconAuth.Footprints
import GraconAuth.Tables

namespace GraconAuth

open Interleaving Program Rows

variable (runtime : Runtime)

/-! ### Reading a history -/

def Request.logsIn : Request → Bool
  | .login _ _ _ => true
  | _ => false

/-- The request ends sessions. -/
def Request.endsSessions : Request → Bool
  | .logout _ _ | .logoutAllDevices _ | .changePassword _ _ | .resetPassword _ => true
  | _ => false

/-- A bulk revocation changes the row. -/
def Statement.revokes (row : RefreshTokenRow) : Statement → Bool
  | .refreshTokenUpdateMany filter => filter.holds row
  | _ => false

/-- A call that ends sessions has revoked the token with this id by the entry. -/
def Ends (entry : ServiceEntry) (id : RowId) : Prop :=
  entry.request.endsSessions = true ∧ ∃ statement ∈ executed entry.event,
    ∃ row ∈ entry.before.db.refreshTokens, row.id = id ∧ statement.revokes row = true

instance (entry : ServiceEntry) (id : RowId) : Decidable (Ends entry id) :=
  inferInstanceAs (Decidable (_ ∧ _))

/-- The token with this id is not stored unrevoked. -/
def Dead (world : ServiceWorld) (id : RowId) : Prop :=
  ∀ row ∈ world.state.db.refreshTokens, row.id = id → row.revoked = true

instance (world : ServiceWorld) (id : RowId) : Decidable (Dead world id) :=
  inferInstanceAs (Decidable (∀ row ∈ _, _))

/-- Whatever a rotation has produced from a token that a returned call has ended is dead. -/
def RotationsEnded (world : ServiceWorld) : Prop :=
  ∀ ending ∈ world.history, Answered world ending.thread →
    ∀ read ∈ world.history, ∀ found ∈ readToken read.event,
      found.1.revoked = false → Ends ending found.1.id →
      ∀ create ∈ world.history, create.thread = read.thread → create.request.rotates = true →
        ∀ row ∈ created create, Dead world row.id

instance (world : ServiceWorld) : Decidable (RotationsEnded world) :=
  inferInstanceAs (Decidable (∀ ending ∈ _, _))

/-- Whatever a login has produced that had read its account before a returned call replaced the
password is dead. -/
def LoginsEnded (world : ServiceWorld) : Prop :=
  ∀ create ∈ world.history, ∀ row ∈ created create,
    world.history.Pairwise fun newer older =>
      Answered world newer.thread → replacedPassword newer = some row.userId →
        older.thread = create.thread → older.request.logsIn = true →
          (readAccount older.event).isSome = true → Dead world row.id

instance (world : ServiceWorld) : Decidable (LoginsEnded world) :=
  inferInstanceAs (Decidable (∀ create ∈ _, _))

/-- Revocation is final. -/
def RevocationFinal (world : ServiceWorld) : Prop :=
  RotationsEnded world ∧ LoginsEnded world

instance (world : ServiceWorld) : Decidable (RevocationFinal world) :=
  inferInstanceAs (Decidable (_ ∧ _))

/-! ### A run in which it fails -/

/-- A device refreshes; between its read and its write the user logs out from all devices. -/
def tornSchedule : List ServiceMove :=
  signedIn ++
  .accept (.refreshTokens 0 "r1" "ip" "agent") :: steps 3 [{}, {}] ++
  .accept (.logoutAllDevices ⟨⟨0, "a@x", some .full⟩, "15m"⟩) :: steps 4 [{}, {}, {}, {}] ++
  steps 3 [{}, {}, {}, { text := "r2" }, {}, {}, {}, {}]

/-- Revocation is not final in every run: the refresh stores a live successor of a token that the
logout has ended. -/
theorem revocation_not_final :
    ¬ ∀ (runtime : Runtime) (clock : Timestamp) (pool : ServicePool),
      Reachable (service runtime) Regime.free (State.empty clock) pool →
        RevocationFinal pool.world := by
  intro final
  have torn := final legibleRuntime 0 _ (played_reachable Referee.lax_upholds tornSchedule)
  exact absurd torn (by decide +kernel)

/-! ### The runs in which it holds -/

/-- The token that the effect revokes as a rotation does. -/
def revokedBy : Effect → Option RowId
  | .execute [.refreshTokenUpdate id] => some id
  | _ => none

/-- The refresh token that the effect stores. -/
def storedBy : Effect → Option RefreshTokenCreate
  | .execute [.refreshTokenCreate data] => some data
  | _ => none

/-- No rotation revokes a token that a call which ends sessions has revoked before, and no login
stores its token once the password has been replaced since it read the account. -/
def Timely (world : ServiceWorld) (entry : ServiceEntry) : Prop :=
  (∀ id ∈ revokedBy entry.effect, ∀ ending ∈ world.history, ¬Ends ending id) ∧
    ∀ data ∈ storedBy entry.effect, entry.request.logsIn = true →
      world.history.Pairwise fun newer older =>
        replacedPassword newer = some data.userId → older.thread = entry.thread →
          (readAccount older.event).isSome = true → False

instance (world : ServiceWorld) (entry : ServiceEntry) : Decidable (Timely world entry) :=
  inferInstanceAs (Decidable (_ ∧ _))

/-- The runs whose rotations and logins are timely. -/
def timely : Regime State Effect.Reply Failure Request where
  admits _ := True
  permits := Timely

instance (request : Request) : Decidable (timely.admits request) := .isTrue trivial

instance (world : ServiceWorld) (entry : ServiceEntry) :
    Decidable (timely.permits world entry) :=
  inferInstanceAs (Decidable (Timely world entry))

/-- A rotation stores a successor only after it has revoked every live token it has read, and a
statement that replaces a password comes with the revocation of the user's tokens. -/
def orderly (request : Request) (past : List ServiceEvent) : Effect → Prop
  | .execute [.refreshTokenCreate _] => request.rotates = true →
    ∀ event ∈ past, ∀ found ∈ readToken event, found.1.revoked = false →
      ⟨.execute [.refreshTokenUpdate found.1.id], .ok ()⟩ ∈ past
  | .refreshTokenFindUnique _ =>
    ∀ event ∈ past, ∀ data, event.effect ≠ .execute [.refreshTokenCreate data]
  | .execute (.userUpdate id data :: rest) => data.passwordHash.isSome = true →
    .refreshTokenUpdateMany { userId := some id } ∈ rest ∧
      ∀ data, .refreshTokenCreate data ∉ rest
  | _ => True

theorem harmless_orderly {request : Request} (past : List ServiceEvent) (effect : Effect)
    (harmless : effect.Harmless) : orderly request past effect := by
  cases effect <;> trivial

theorem issues_orderly {request : Request} (still : request.rotates = false)
    (past : List ServiceEvent) (effect : Effect) (issues : effect.Issues) :
    orderly request past effect := by
  unfold Effect.Issues at issues
  split at issues
  · trivial
  · trivial
  · intro rotates
    rw [still] at rotates
    cases rotates
  · exact issues.elim

theorem links_orderly {request : Request} (past : List ServiceEvent) (effect : Effect)
    (links : effect.Links) : orderly request past effect := by
  unfold Effect.Links at links
  split at links
  · trivial
  · trivial
  · trivial
  · exact links.elim

/-- A request that does not rotate keeps to the rule by its footprint. -/
theorem awaits_orderly {request : Request} (still : request.rotates = false)
    (past : List ServiceEvent) (effect : Effect) (awaits : request.Awaits effect) :
    orderly request past effect := by
  cases request with
  | refreshTokens process refreshToken ipAddress userAgent => cases still
  | upgradeSession process refreshToken ipAddress userAgent => cases still
  | register dto =>
    rcases awaits with links | ⟨_, rfl⟩
    · exact links_orderly past effect links
    · trivial
  | verifyEmail dto =>
    rcases awaits with issues | rfl | ⟨_, rfl⟩
    · exact issues_orderly still past effect issues
    · trivial
    · exact nofun
  | resendVerificationEmail dto => exact links_orderly past effect awaits
  | login dto ipAddress userAgent => exact issues_orderly still past effect awaits
  | requestReset email => rcases awaits with rfl | ⟨_, rfl⟩ | ⟨_, rfl⟩ <;> trivial
  | validateResetToken userId token =>
    obtain ⟨_, rfl⟩ := awaits
    trivial
  | resetPassword dto =>
    rcases awaits with ⟨_, rfl⟩ | ⟨_, _, rfl⟩
    · trivial
    · exact fun _ => ⟨by simp, by simp⟩
  | logout jwt refreshToken =>
    obtain ⟨_, rfl⟩ := awaits
    trivial
  | logoutAllDevices jwt =>
    obtain ⟨_, rfl⟩ := awaits
    trivial
  | getProfile jwt => exact awaits.elim
  | updateProfile jwt dto =>
    rcases awaits with links | ⟨_, _, rfl⟩
    · exact links_orderly past effect links
    · exact nofun
  | changePassword jwt dto =>
    obtain ⟨_, _, rfl⟩ := awaits
    exact fun _ => ⟨by simp, by simp⟩
  | submitVerification jwt dto ipAddress =>
    rcases awaits with
      issues | ⟨_, _, rfl⟩ | ⟨_, rfl⟩ | ⟨_, rfl⟩ | ⟨_, _, rfl⟩ | ⟨_, rfl⟩ | ⟨_, rfl⟩
    · exact issues_orderly still past effect issues
    · trivial
    · trivial
    · trivial
    · exact nofun
    · exact nofun
    · trivial
  | getVerificationStatus jwt =>
    obtain ⟨_, _, rfl⟩ := awaits
    trivial
  | cleanupExpiredTokens =>
    obtain ⟨_, rfl⟩ := awaits
    trivial

/-- No token has been read yet, or the live one that was is revoked by now. -/
def Settled (past : List ServiceEvent) : Prop :=
  ∀ event ∈ past, ∀ found ∈ readToken event, found.1.revoked = false →
    ⟨.execute [.refreshTokenUpdate found.1.id], .ok ()⟩ ∈ past

theorem Settled.cons {past : List ServiceEvent} (settled : Settled past) {event : ServiceEvent}
    (readless : readToken event = none) : Settled (event :: past) := by
  intro other member found read live
  rcases List.mem_cons.mp member with rfl | old
  · rw [readless] at read
    cases read
  · exact List.mem_cons_of_mem _ (settled other old found read live)

theorem generateTokens_orderly {request : Request} (userId : UserId) (email : Email)
    (ipAddress userAgent : String) (tokenType : TokenType) {past : List ServiceEvent}
    (settled : Settled past) :
    (AuthService.generateTokens runtime userId email ipAddress userAgent tokenType).Abides
      (conduct (orderly request)) past := by
  refine abides_perform_bind trivial fun accessToken _ =>
    abides_perform_bind trivial fun rawRefreshToken _ => abides_perform_bind trivial fun now _ =>
      abides_perform_bind (fun _ => ?_) fun _ _ => trivial
  exact ((settled.cons rfl).cons rfl).cons rfl

theorem rotateRefreshToken_orderly {request : Request} (tokenHash : TokenHash)
    (ipAddress userAgent : String) (requireFullToken : Bool) {past : List ServiceEvent}
    (readless : ∀ event ∈ past, readToken event = none)
    (issueless : ∀ event ∈ past, ∀ data, event.effect ≠ .execute [.refreshTokenCreate data]) :
    (AuthService.rotateRefreshToken runtime tokenHash ipAddress userAgent requireFullToken).Abides
      (conduct (orderly request)) past := by
  refine abides_perform_bind issueless fun found _ => ?_
  match found with
  | none => trivial
  | some (storedToken, user) =>
    dsimp only
    split
    · exact abides_perform_bind trivial fun _ _ => abides_perform_bind trivial fun _ _ => trivial
    · refine abides_perform_bind trivial fun now _ => abides_throwIf_bind fun _ =>
        abides_throwIf_bind fun _ => abides_throwIf_bind fun _ =>
          abides_perform_bind trivial fun _ _ => generateTokens_orderly runtime _ _ _ _ _ ?_
      -- The only token read is the presented one, and the latest event has revoked it.
      intro event member found read live
      simp only [List.mem_cons] at member
      rcases member with rfl | rfl | rfl | old
      · cases read
      · cases read
      · cases read
        exact List.mem_cons_self
      · rw [readless event old] at read
        cases read

theorem runSingleFlightRefresh_orderly {request : Request} (key : FlightKey)
    (tokenHash : TokenHash) (ipAddress userAgent : String) (requireFullToken : Bool)
    {past : List ServiceEvent} (harmless : ∀ event ∈ past, event.effect.Harmless) :
    (AuthService.runSingleFlightRefresh key
      (AuthService.rotateRefreshToken runtime tokenHash ipAddress userAgent
        requireFullToken)).Abides (conduct (orderly request)) past := by
  refine abides_perform_bind trivial fun role _ => ?_
  cases role with
  | follower flight => exact abides_perform trivial
  | leader flight =>
    refine (rotateRefreshToken_orderly runtime _ _ _ _ ?_ ?_).attempt.bind fun now outcome =>
      abides_perform_bind trivial fun _ _ => follows_ofOutcome.mpr trivial
    · intro event member
      rcases List.mem_cons.mp member with rfl | old
      · rfl
      · exact harmless_readless (harmless event old)
    · intro event member data
      rcases List.mem_cons.mp member with rfl | old
      · exact nofun
      · exact harmless_issueless (harmless event old) _

/-- Every call keeps to the rule. -/
theorem serve_orderly (request : Request) :
    (serve runtime request).Abides (conduct (orderly request)) [] := by
  refine serve_abides runtime request harmless_orderly (fun _ _ => trivial)
    fun past userId grown => ?_
  have harmless : ∀ event ∈ past, event.effect.Harmless := fun event member =>
    (grown.mem_or member).resolve_left List.not_mem_nil
  cases rotates : request.rotates with
  | false => exact handle_abides runtime _ userId harmless_orderly (awaits_orderly rotates)
  | true =>
    cases request with
    | refreshTokens process refreshToken ipAddress userAgent =>
      exact (runSingleFlightRefresh_orderly runtime _ _ _ _ _ harmless).bind fun _ _ => trivial
    | upgradeSession process refreshToken ipAddress userAgent =>
      exact Abides.bind ((runSingleFlightRefresh_orderly runtime _ _ _ _ _ harmless).bind
        fun _ _ => abides_throwIf_bind fun _ => trivial) fun _ _ => trivial
    | _ => cases rotates

/-! ### The invariant of the timely runs -/

/-- What is known of a timely run. -/
structure TimelyRun (world : ServiceWorld) : Prop where
  wellFormed : world.state.db.WellFormed
  exchanged : ∀ update ∈ world.history, ∀ id, Exchanges update id → world.state.db.Revoked id
  unended : ∀ update ∈ world.history, ∀ id, Exchanges update id →
    ∀ ending ∈ world.history, ¬Ends ending id
  settled : ∀ create ∈ world.history, create.request.rotates = true →
    (created create).isSome = true → ∀ read ∈ world.history, read.thread = create.thread →
      ∀ found ∈ readToken read.event, found.1.revoked = false →
        ∃ update ∈ world.history, Exchanges update found.1.id
  traced : ∀ create ∈ world.history, ∀ row ∈ created create, row.id < world.state.db.nextId ∧
    ∀ stored ∈ world.state.db.refreshTokens, stored.id = row.id → row.Continues stored
  replaced : ∀ create ∈ world.history, ∀ row ∈ created create,
    world.history.Pairwise fun newer older => replacedPassword newer = some row.userId →
      older.thread = create.thread → older.request.logsIn = true →
        (readAccount older.event).isSome = true → world.state.db.Revoked row.id

/-- A token that a call ends was not revoked before. -/
theorem ends_live {entry : ServiceEntry} {id : RowId} (ends : Ends entry id) :
    ¬entry.before.db.Revoked id := by
  obtain ⟨_, statement, _, row, stored, same, revokes⟩ := ends
  intro revoked
  unfold Statement.revokes at revokes
  split at revokes
  · simp [RefreshTokenWhere.holds, revoked.2 row stored same] at revokes
  · cases revokes

section Record

variable {runtime} {world : ServiceWorld} {entry : ServiceEntry}

theorem lasting_of_admissible
    (admissible : Admissible (service runtime) timely (fun request => conduct (orderly request))
      world entry) {id : RowId} (revoked : world.state.db.Revoked id) :
    entry.after.db.Revoked id :=
  performs_revoked admissible.performs (by rw [admissible.current]; exact revoked)

/-- The new entry does not revive what the rotations have exchanged, and exchanges nothing that
has been ended. -/
theorem TimelyRun.record_unended (run : TimelyRun world)
    (admissible : Admissible (service runtime) timely (fun request => conduct (orderly request))
      world entry) :
    ∀ update ∈ (world.record entry).history, ∀ id, Exchanges update id →
      ∀ ending ∈ (world.record entry).history, ¬Ends ending id := by
  intro update memberUpdate id exchanges ending memberEnding ends
  rcases List.mem_cons.mp memberUpdate with rfl | oldUpdate
  · rcases List.mem_cons.mp memberEnding with rfl | oldEnding
    · obtain ⟨_, statement, listed, row, _, _, revokes⟩ := ends
      rw [show executed ending.event = _ from exchanges] at listed
      obtain rfl := List.mem_singleton.mp listed
      cases revokes
    · have permitted : Timely world update := admissible.permitted
      have performed : update.effect = .execute [.refreshTokenUpdate id] :=
        congrArg Event.effect (event_of_executed exchanges)
      exact permitted.1 id (by rw [performed]; rfl) ending oldEnding ends
  · rcases List.mem_cons.mp memberEnding with rfl | oldEnding
    · refine ends_live ends ?_
      rw [admissible.current]
      exact run.exchanged update oldUpdate id exchanges
    · exact run.unended update oldUpdate id exchanges ending oldEnding ends

theorem TimelyRun.record_settled (run : TimelyRun world)
    (admissible : Admissible (service runtime) timely (fun request => conduct (orderly request))
      world entry) :
    ∀ create ∈ (world.record entry).history, create.request.rotates = true →
      (created create).isSome = true → ∀ read ∈ (world.record entry).history,
        read.thread = create.thread → ∀ found ∈ readToken read.event, found.1.revoked = false →
          ∃ update ∈ (world.record entry).history, Exchanges update found.1.id := by
  have ruled : orderly entry.request (world.past entry.thread) entry.effect := admissible.ruled
  intro create memberCreate rotates stored read memberRead same found reads live
  obtain ⟨row, stored⟩ := Option.isSome_iff_exists.mp stored
  obtain ⟨data, carriedOut, _⟩ := created_some stored
  have performed := event_of_executed carriedOut
  rcases List.mem_cons.mp memberCreate with rfl | oldCreate
  · rcases List.mem_cons.mp memberRead with rfl | oldRead
    · rw [performed] at reads
      cases reads
    · rw [show create.effect = _ from congrArg Event.effect performed] at ruled
      have past := ruled rotates read.event (World.mem_past.mpr ⟨read, oldRead, same, rfl⟩) found
        reads live
      obtain ⟨update, recorded, _, event⟩ := World.mem_past.mp past
      exact ⟨update, List.mem_cons_of_mem _ recorded, by rw [Exchanges, event]; rfl⟩
  · rcases List.mem_cons.mp memberRead with rfl | oldRead
    · -- A token is read only before the call stores one.
      have event : ∃ tokenHash, read.effect = .refreshTokenFindUnique tokenHash := by
        unfold readToken at reads
        split at reads
        · rename_i tokenHash _ event
          exact ⟨tokenHash, congrArg Event.effect event⟩
        · cases reads
      obtain ⟨tokenHash, event⟩ := event
      rw [event] at ruled
      exact absurd (congrArg Event.effect performed) (ruled create.event
        (World.mem_past.mpr ⟨create, oldCreate, same.symm, rfl⟩) data)
    · obtain ⟨update, recorded, exchanges⟩ := run.settled create oldCreate rotates
        (Option.isSome_iff_exists.mpr ⟨row, stored⟩) read oldRead same found reads live
      exact ⟨update, List.mem_cons_of_mem _ recorded, exchanges⟩

theorem TimelyRun.record_traced (run : TimelyRun world)
    (admissible : Admissible (service runtime) timely (fun request => conduct (orderly request))
      world entry) :
    ∀ create ∈ (world.record entry).history, ∀ row ∈ created create,
      row.id < entry.after.db.nextId ∧
        ∀ stored ∈ entry.after.db.refreshTokens, stored.id = row.id → row.Continues stored := by
  have performs : environment.Performs entry.before entry.effect entry.reply entry.after :=
    admissible.performs
  have current := admissible.current
  have wellFormed : entry.before.db.WellFormed := by
    rw [current]
    exact run.wellFormed
  intro create member row stored
  rcases List.mem_cons.mp member with rfl | old
  · obtain ⟨data, carriedOut, rfl⟩ := created_some stored
    obtain ⟨stores, _⟩ := performs_refreshTokenCreate
      (performs_event performs (event_of_executed carriedOut))
    rw [stores]
    refine ⟨Nat.lt_succ_self _, fun now member same => ?_⟩
    rcases List.mem_append.mp member with old | new
    · have below := wellFormed.refreshTokens.below _ (List.mem_map_of_mem old)
      exact absurd (same ▸ below) (Nat.lt_irrefl _)
    · obtain rfl := List.mem_singleton.mp new
      exact RefreshTokenRow.continues_refl _
  · obtain ⟨below, traces⟩ := run.traced create old row stored
    rw [← current] at below traces
    refine ⟨Nat.lt_of_lt_of_le below (performs_nextId performs), fun now member same => ?_⟩
    rcases performs_refreshTokens performs member with
      ⟨before, storedBefore, continues⟩ | ⟨_, data, id, _, _, above, continues⟩
    · exact (traces before storedBefore (continues.id.symm.trans same)).trans continues
    · have : id = row.id := continues.id.symm.trans same
      exact absurd (this ▸ above) (Nat.not_le.mpr below)

theorem TimelyRun.record_replaced (run : TimelyRun world)
    (admissible : Admissible (service runtime) timely (fun request => conduct (orderly request))
      world entry) :
    ∀ create ∈ (world.record entry).history, ∀ row ∈ created create,
      (world.record entry).history.Pairwise fun newer older =>
        replacedPassword newer = some row.userId → older.thread = create.thread →
          older.request.logsIn = true → (readAccount older.event).isSome = true →
            entry.after.db.Revoked row.id := by
  have performs : environment.Performs entry.before entry.effect entry.reply entry.after :=
    admissible.performs
  have ruled : orderly entry.request (world.past entry.thread) entry.effect := admissible.ruled
  intro create member row stored
  rcases List.mem_cons.mp member with rfl | old
  · obtain ⟨data, carriedOut, rfl⟩ := created_some stored
    refine List.pairwise_cons.mpr ⟨fun older _ replaced => ?_, ?_⟩
    · obtain ⟨_, _, other, _⟩ := replacedPassword_some replaced
      rw [carriedOut] at other
      cases other
    · -- The login would not be timely.
      have permitted : Timely world create := admissible.permitted
      have performed : create.effect = .execute [.refreshTokenCreate data] :=
        congrArg Event.effect (event_of_executed carriedOut)
      by_cases logsIn : create.request.logsIn = true
      · have apart := permitted.2 data (by rw [performed]; rfl) logsIn
        exact apart.imp fun impossible replaced same _ read =>
          (impossible replaced same read).elim
      · refine List.pairwise_of_forall_mem_list fun newer _ older memberOlder _ same loggedIn => ?_
        rw [admissible.owned older memberOlder same] at loggedIn
        exact absurd loggedIn logsIn
  · refine List.pairwise_cons.mpr ⟨fun older _ replaced _ _ _ => ?_, ?_⟩
    · obtain ⟨data, rest, carriedOut, given⟩ := replacedPassword_some replaced
      have event := event_of_executed carriedOut
      rw [show entry.effect = _ from congrArg Event.effect event] at ruled
      obtain ⟨revokes, storeless⟩ := ruled given
      rcases performs_execute (performs_event performs event) with ⟨_, ran⟩ | ⟨⟨_, failed⟩, _⟩
      · obtain ⟨below, traces⟩ := run.record_traced admissible create member row stored
        refine ⟨below, fun now memberNow sameId => ?_⟩
        refine revokes_user ran (List.mem_cons_of_mem _ revokes) ?_ now memberNow
          (traces now memberNow sameId).userId
        simpa using storeless
      · cases failed
    · exact (run.replaced create old row stored).imp fun revoked replaced same loggedIn read =>
        lasting_of_admissible admissible (revoked replaced same loggedIn read)

/-- One entry keeps the invariant. -/
theorem TimelyRun.record (run : TimelyRun world)
    (admissible : Admissible (service runtime) timely (fun request => conduct (orderly request))
      world entry) : TimelyRun (world.record entry) := by
  have performs : environment.Performs entry.before entry.effect entry.reply entry.after :=
    admissible.performs
  have wellFormed : entry.before.db.WellFormed := by
    rw [admissible.current]
    exact run.wellFormed
  refine ⟨performs_wellFormed performs wellFormed, fun update member id exchanges => ?_,
    run.record_unended admissible, run.record_settled admissible, run.record_traced admissible,
    run.record_replaced admissible⟩
  rcases List.mem_cons.mp member with rfl | old
  · exact exchanges_revoked wellFormed (performs_event performs (event_of_executed exchanges))
  · exact lasting_of_admissible admissible (run.exchanged update old id exchanges)

end Record

/-- In every timely run, whatever the interleaving, revocation is final. -/
theorem revocation_final_of_timely (runtime : Runtime) (clock : Timestamp) (pool : ServicePool)
    (reachable : Reachable (service runtime) timely (State.empty clock) pool) :
    RevocationFinal pool.world := by
  have chronicle := reachable_chronicle orderly reachable
    fun request _ => serve_orderly runtime request
  have run : TimelyRun pool.world :=
    chronicle.invariant TimelyRun
      ⟨empty_wellFormed clock, by simp, by simp, by simp, by simp, by simp⟩
      fun world entry _ run admissible => run.record admissible
  constructor
  · intro ending memberEnding _ read memberRead found reads live ends create memberCreate same
      rotates row stored
    obtain ⟨update, memberUpdate, exchanges⟩ := run.settled create memberCreate rotates
      (Option.isSome_iff_exists.mpr ⟨row, stored⟩) read memberRead same.symm found reads live
    exact absurd ends (run.unended update memberUpdate _ exchanges ending memberEnding)
  · intro create memberCreate row stored
    exact (run.replaced create memberCreate row stored).imp
      fun revoked _ replaced same logsIn read => (revoked replaced same logsIn read).2

/-- A device logs in and refreshes, and then the user logs out from all devices. -/
def logoutSchedule : List ServiceMove :=
  signedIn ++
  .accept (.refreshTokens 0 "r1" "ip" "agent") ::
    steps 3 [{}, {}, {}, {}, {}, { text := "r2" }, {}, {}, {}, {}] ++
  .accept (.logoutAllDevices ⟨⟨0, "a@x", some .full⟩, "15m"⟩) :: steps 4 [{}, {}, {}, {}]

/-- That run is timely, both tokens end revoked, and revocation is final. -/
theorem revocation_final_of_timely_logout :
    (played (.strict timely) logoutSchedule).world.state.db.refreshTokens.map
        (fun row => (row.tokenHash, row.revoked)) = [("#r1", true), ("#r2", true)] ∧
      RevocationFinal (played (.strict timely) logoutSchedule).world :=
  ⟨by decide +kernel, revocation_final_of_timely legibleRuntime 0 _
    (played_reachable (Referee.strict_upholds timely) logoutSchedule)⟩

end GraconAuth
