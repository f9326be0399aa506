/-
This file proves that the service keeps an abstract book of accounts and sessions. The
tables are read as a book: the accounts that are stored, those that are active, those with
a proven identity, and the sessions whose tokens are stored and not revoked. Every entry
of a run is a run of the book, a few acts or none at all, and each act is one that the
request of the entry is entrusted with for that account. So whatever calls run together,
the service as a whole is a run of the book, and its tables show a book in order.
-/

import GraconAuth.AccountBooks
import GraconAuth.FullAccess
import GraconAuth.LifeCycles

namespace GraconAuth

open AccountBooks Interleaving Program Rows

/-! ### The book of the tables -/

/-- The accounts with a flag. -/
def flagged (flag : UserRow → Bool) (users : List UserRow) : Set UserId :=
  {userId | ∃ row ∈ users, row.id = userId ∧ flag row = true}

/-- The session that a token opens. A token of no type counts as a full one. -/
def RefreshTokenRow.session (row : RefreshTokenRow) : Session UserId where
  owner := row.userId
  full := row.tokenType ≠ some .limited
  expires := row.expiresAt

/-- The sessions of the tokens that are not revoked, by the digests of the tokens. -/
def openSessions (rows : List RefreshTokenRow) : Set (TokenHash × Session UserId) :=
  {entry | ∃ row ∈ rows, row.revoked = false ∧ (row.tokenHash, row.session) = entry}

def Database.book (clock : Timestamp) (db : Database) : Book UserId TokenHash where
  clock := clock
  known := {userId | userId ∈ db.accounts}
  active := flagged UserRow.isActive db.users
  proven := flagged UserRow.isIdVerified db.users
  live := openSessions db.refreshTokens

def State.book (state : State) : Book UserId TokenHash := state.db.book state.clock

/-- What is left of a flag when it is written for one account, or is not written. -/
def overwrite (userId : UserId) (flags : Set UserId) : Option Bool → Set UserId
  | none => flags
  | some true => insert userId flags
  | some false => flags \ {userId}

/-! ### Who is entrusted with what -/

/-- The call may end sessions. -/
def Request.finishes : Request → Bool
  | .refreshTokens _ _ _ _ | .upgradeSession _ _ _ _ | .resetPassword _ | .logout _ _
  | .logoutAllDevices _ | .changePassword _ _ | .submitVerification _ _ _ => true
  | _ => false

def Statement.revokesTokens : Statement → Bool
  | .refreshTokenUpdate _ | .refreshTokenUpdateMany _ => true
  | _ => false

/-- The acts of the book that a request is entrusted with at an event, having performed what is in
`past`. A registration is entrusted with the account that it makes, and whoever presents a token at
the logout can end its session; everything else takes a title to the account. -/
def Entrusted (runtime : Runtime) (request : Request) (past : List ServiceEvent)
    (event : ServiceEvent) : Act UserId TokenHash → Prop
  | .wait _ => True
  | .enrol userId => (∃ dto, request = .register dto) ∧
    ∃ data, event = ⟨.registerTransaction data, .ok userId⟩
  | .unlock userId => (∃ dto, request = .verifyEmail dto) ∧ EntitledTo runtime past userId request
  | .lock userId => (∃ jwt dto, request = .updateProfile jwt dto) ∧
    EntitledTo runtime past userId request
  | .prove userId =>
    ((∃ dto, request = .register dto) ∧ ∃ data, event = ⟨.registerTransaction data, .ok userId⟩ ∧
      data.isIdVerified = true) ∨
    (∃ jwt dto ipAddress, request = .submitVerification jwt dto ipAddress) ∧
      EntitledTo runtime past userId request
  | .openSession _ session => request.issues = true ∧ EntitledTo runtime past session.owner request
  | .finish ended => request.finishes = true ∧
    ∀ entry ∈ ended, EntitledTo runtime past entry.2.owner request ∨
      ∃ jwt refreshToken, request = .logout jwt refreshToken ∧ entry.1 = runtime.hash refreshToken
  | .lapse _ => request = .cleanupExpiredTokens

/-- One book comes from another by acts that the request is entrusted with at the event. -/
def Keeps (runtime : Runtime) (request : Request) (past : List ServiceEvent)
    (event : ServiceEvent) (book next : Book UserId TokenHash) : Prop :=
  ∃ acts, Run book acts next ∧ ∀ act ∈ acts, Entrusted runtime request past event act

section Keeping

variable {runtime : Runtime} {request : Request} {past : List ServiceEvent} {event : ServiceEvent}
  {book between next : Book UserId TokenHash}

theorem Keeps.refl (book : Book UserId TokenHash) : Keeps runtime request past event book book :=
  ⟨[], .stay book, by simp⟩

theorem Keeps.trans (first : Keeps runtime request past event book between)
    (second : Keeps runtime request past event between next) :
    Keeps runtime request past event book next := by
  obtain ⟨acts, run, entrusted⟩ := first
  obtain ⟨more, rest, trusted⟩ := second
  exact ⟨acts ++ more, run.trans rest, List.forall_mem_append.mpr ⟨entrusted, trusted⟩⟩

theorem keeps_step {act : Act UserId TokenHash} (step : Step book act next)
    (entrusted : Entrusted runtime request past event act) :
    Keeps runtime request past event book next :=
  ⟨[act], step.run, List.forall_mem_singleton.mpr entrusted⟩

end Keeping

/-! ### One statement -/

section Statements

variable {clock : Timestamp} {db next : Database} {statement : Statement} {runtime : Runtime}
  {request : Request} {past : List ServiceEvent} {event : ServiceEvent}

/-- What an update of an account makes of a flag. -/
theorem flagged_update {flag : UserRow → Bool} {written : Option Bool} {id : UserId}
    {data : UserUpdate} (present : ∃ row ∈ db.users, row.id = id)
    (writes : ∀ row, flag (row.apply data clock) = written.getD (flag row)) :
    flagged flag (updateWhere (fun row => row.id == id) (fun row => row.apply data clock)
        db.users) = overwrite id (flagged flag db.users) written := by
  have same : ∀ row : UserRow,
      (if (row.id == id) = true then row.apply data clock else row).id = row.id := by
    intro row
    split <;> rfl
  have sets : ∀ row : UserRow,
      flag (if (row.id == id) = true then row.apply data clock else row) =
        if row.id = id then written.getD (flag row) else flag row := by
    intro row
    by_cases matched : row.id = id <;> simp [matched, writes]
  ext userId
  have updated : userId ∈ flagged flag (updateWhere (fun row => row.id == id)
      (fun row => row.apply data clock) db.users) ↔ ∃ row ∈ db.users, row.id = userId ∧
        (if row.id = id then written.getD (flag row) else flag row) = true := by
    constructor
    · rintro ⟨_, member, owner, set⟩
      obtain ⟨row, stored, rfl⟩ := mem_updateWhere.mp member
      rw [same] at owner
      rw [sets] at set
      exact ⟨row, stored, owner, set⟩
    · rintro ⟨row, stored, owner, set⟩
      exact ⟨_, mem_updateWhere.mpr ⟨row, stored, rfl⟩, (same row).trans owner,
        (sets row).trans set⟩
  rw [updated]
  obtain ⟨owner, stored, owned⟩ := present
  cases written with
  | none => simp [flagged, overwrite]
  | some value =>
    cases value with
    | true =>
      simp only [Option.getD_some, flagged, overwrite, Set.mem_insert_iff, Set.mem_ofPred_eq]
      constructor
      · rintro ⟨row, member, rfl, set⟩
        by_cases matched : row.id = id
        · exact .inl matched
        · exact .inr ⟨row, member, rfl, by simpa [matched] using set⟩
      · rintro (rfl | ⟨row, member, rfl, set⟩)
        · exact ⟨owner, stored, owned, by simp [owned]⟩
        · exact ⟨row, member, rfl, by simp [set]⟩
    | false =>
      simp only [Option.getD_some, flagged, overwrite, Set.mem_sdiff, Set.mem_singleton_iff,
        Set.mem_ofPred_eq]
      constructor
      · rintro ⟨row, member, rfl, set⟩
        by_cases matched : row.id = id
        · simp [matched] at set
        · exact ⟨⟨row, member, rfl, by simpa [matched] using set⟩, matched⟩
      · rintro ⟨⟨row, member, rfl, set⟩, other⟩
        exact ⟨row, member, rfl, by simp [other, set]⟩

/-- Only a submission proves an identity. -/
theorem proves_submits {id : UserId} {data : UserUpdate}
    (writes : request.Writes (.userUpdate id data)) (proves : data.isIdVerified = some true) :
    ∃ jwt dto ipAddress, request = .submitVerification jwt dto ipAddress := by
  cases request with
  | submitVerification jwt dto ipAddress => exact ⟨jwt, dto, ipAddress, rfl⟩
  | verifyEmail dto =>
    obtain ⟨_, rfl⟩ := writes
    cases proves
  | updateProfile jwt dto =>
    obtain ⟨email, rfl⟩ := writes
    cases email <;> cases proves
  | resetPassword dto =>
    obtain ⟨_, _, rfl⟩ := writes
    cases proves
  | changePassword jwt dto =>
    obtain ⟨_, rfl⟩ := writes
    cases proves
  | _ => exact writes.elim

theorem writes_issues {data : RefreshTokenCreate}
    (writes : request.Writes (.refreshTokenCreate data)) : request.issues = true := by
  cases request <;> first | rfl | exact writes.elim

theorem writes_finishes (writes : request.Writes statement)
    (revokes : statement.revokesTokens = true) : request.finishes = true := by
  cases statement with
  | refreshTokenUpdate _ | refreshTokenUpdateMany _ =>
    cases request <;> first | rfl | exact writes.elim
  | _ => cases revokes

theorem keeps_activity {book : Book UserId TokenHash} {id : UserId} {data : UserUpdate}
    (known : id ∈ book.known) (writes : request.Writes (.userUpdate id data))
    (entitled : EntitledTo runtime past id request) :
    Keeps runtime request past event book
      { book with active := overwrite id book.active data.isActive } := by
  cases given : data.isActive with
  | none => exact Keeps.refl _
  | some value =>
    cases value with
    | true =>
      obtain ⟨dto, verifies, -⟩ := unlocks_verifies writes given
      exact keeps_step (.unlock known) ⟨⟨dto, verifies⟩, entitled⟩
    | false => exact keeps_step .lock ⟨(locks_readdresses writes given).1, entitled⟩

theorem keeps_proof {book : Book UserId TokenHash} {id : UserId} {data : UserUpdate}
    (known : id ∈ book.known) (writes : request.Writes (.userUpdate id data))
    (entitled : EntitledTo runtime past id request) (unshaken : data.isIdVerified ≠ some false) :
    Keeps runtime request past event book
      { book with proven := overwrite id book.proven data.isIdVerified } := by
  cases given : data.isIdVerified with
  | none => exact Keeps.refl _
  | some value =>
    cases value with
    | true => exact keeps_step (.prove known) (.inr ⟨proves_submits writes given, entitled⟩)
    | false => exact absurd given unshaken

/-- An update of an account changes at most its two flags, one after the other. -/
theorem keeps_userUpdate {id : UserId} {data : UserUpdate}
    (present : ∃ row ∈ db.users, row.id = id) (writes : request.Writes (.userUpdate id data))
    (entitled : EntitledTo runtime past id request) (unshaken : data.isIdVerified ≠ some false) :
    Keeps runtime request past event (db.book clock) { db.book clock with
      active := flagged UserRow.isActive (updateWhere (fun row => row.id == id)
        (fun row => row.apply data clock) db.users)
      proven := flagged UserRow.isIdVerified (updateWhere (fun row => row.id == id)
        (fun row => row.apply data clock) db.users) } := by
  have known : id ∈ (db.book clock).known := by
    obtain ⟨row, stored, rfl⟩ := present
    exact List.mem_map_of_mem stored
  rw [flagged_update present fun row => apply_isActive row data clock,
    flagged_update present fun row => apply_isIdVerified row data clock]
  have activity : Keeps runtime request past event (db.book clock) _ :=
    keeps_activity known writes entitled
  exact activity.trans (keeps_proof known writes entitled unshaken)

/-- Tokens that are revoked end the sessions that they open. -/
theorem keeps_revoke {matching : RefreshTokenRow → Bool} (finishes : request.finishes = true)
    (entitled : ∀ row ∈ db.refreshTokens, matching row = true →
      EntitledTo runtime past row.userId request ∨ ∃ jwt refreshToken,
        request = .logout jwt refreshToken ∧ row.tokenHash = runtime.hash refreshToken) :
    Keeps runtime request past event (db.book clock) { db.book clock with
      live := openSessions (updateWhere matching RefreshTokenRow.revoke db.refreshTokens) } := by
  have fewer : openSessions (updateWhere matching RefreshTokenRow.revoke db.refreshTokens) ⊆
      openSessions db.refreshTokens := by
    rintro entry ⟨_, member, unrevoked, rfl⟩
    obtain ⟨row, stored, rfl⟩ := mem_updateWhere.mp member
    split at unrevoked
    · cases unrevoked
    · rename_i other
      rw [if_neg other]
      exact ⟨row, stored, unrevoked, rfl⟩
  rw [← Set.sdiff_sdiff_cancel_left fewer]
  refine keeps_step .finish ⟨finishes, ?_⟩
  rintro entry ⟨⟨row, stored, unrevoked, rfl⟩, closed⟩
  refine entitled row stored ?_
  by_contra other
  exact closed ⟨row, mem_updateWhere.mpr ⟨row, stored, (if_neg other).symm⟩, unrevoked, rfl⟩

/-- Tokens that are thrown away open nothing, or what they open has run out. -/
theorem keeps_sweep {now : Timestamp} (cleans : request = .cleanupExpiredTokens)
    (early : now ≤ clock) :
    Keeps runtime request past event (db.book clock) { db.book clock with
      live := openSessions (deleteWhere (fun row => decide (row.expiresAt < now) || row.revoked)
        db.refreshTokens) } := by
  have fewer : openSessions (deleteWhere (fun row => decide (row.expiresAt < now) || row.revoked)
      db.refreshTokens) ⊆ openSessions db.refreshTokens := by
    rintro entry ⟨row, member, opens⟩
    exact ⟨row, (mem_deleteWhere.mp member).1, opens⟩
  rw [← Set.sdiff_sdiff_cancel_left fewer]
  refine keeps_step (.lapse ?_) cleans
  rintro entry ⟨⟨row, stored, unrevoked, rfl⟩, closed⟩
  refine Int.lt_of_lt_of_le (Int.not_le.mp fun later => closed ?_) early
  have fresh : now ≤ row.expiresAt := later
  exact ⟨row, mem_deleteWhere.mpr ⟨stored, by simp [unrevoked, fresh]⟩, unrevoked, rfl⟩

/-- A token that is stored opens a session. -/
theorem keeps_create {data : RefreshTokenCreate} {id : RowId} (issues : request.issues = true)
    (free : ∀ row ∈ db.refreshTokens, row.tokenHash ≠ data.tokenHash)
    (entitled : EntitledTo runtime past data.userId request) (known : data.userId ∈ db.accounts)
    (proven : data.tokenType = .full → db.IdVerified data.userId) :
    Keeps runtime request past event (db.book clock) { db.book clock with
      live := openSessions (db.refreshTokens ++ [data.row id]) } := by
  have opened : openSessions (db.refreshTokens ++ [data.row id]) =
      insert (data.tokenHash, (data.row id).session) (openSessions db.refreshTokens) := by
    ext entry
    constructor
    · rintro ⟨row, member, unrevoked, rfl⟩
      rcases List.mem_append.mp member with old | new
      · exact .inr ⟨row, old, unrevoked, rfl⟩
      · obtain rfl := List.mem_singleton.mp new
        exact .inl rfl
    · rintro (rfl | ⟨row, old, unrevoked, rfl⟩)
      · exact ⟨_, List.mem_append_right _ (List.mem_singleton_self _), rfl, rfl⟩
      · exact ⟨row, List.mem_append_left _ old, unrevoked, rfl⟩
  rw [opened]
  refine keeps_step (.openSession known (fun access => ?_) fun other live => ?_) ⟨issues, entitled⟩
  · refine proven ?_
    cases kind : data.tokenType with
    | full => rfl
    | limited => simp [RefreshTokenRow.session, RefreshTokenCreate.row, kind] at access
  · obtain ⟨row, stored, _, same⟩ := live
    exact free row stored (congrArg Prod.fst same)

/-- What a call has read and seen proven, as far as the tables still show it. -/
structure Database.Bears (db : Database) (clock : Timestamp) (past : List ServiceEvent) : Prop where
  recalls : db.Recalls past
  proven : ∀ userId, Proven past userId → db.IdVerified userId
  early : ∀ now, ⟨.now, .ok now⟩ ∈ past → now ≤ clock

/-- What a statement makes of the tables is what some acts make of the book. -/
theorem Carried.keeps_book (carried : Carried clock db statement next)
    (backed : backs runtime request past statement) (writes : request.Writes statement)
    (earned : statement.Earned past) (bears : db.Bears clock past)
    (known : ∀ owner ∈ statement.owner, owner ∈ db.accounts) :
    Keeps runtime request past event (db.book clock) (next.book clock) := by
  have accounts := carried.accounts
  cases carried with
  | userUpdate id data present free =>
    have updated : Keeps runtime request past event (db.book clock) _ :=
      keeps_userUpdate present writes backed earned.2
    unfold Database.book
    rw [accounts]
    exact updated
  | refreshTokenUpdate id present =>
    obtain ⟨tokenHash, storedToken, user, read, rfl, _, _, _, entitled⟩ := backed
    refine keeps_revoke (writes_finishes writes rfl) fun row stored matched => .inl ?_
    rw [(bears.recalls.tokens _ _ _ read).owned row stored (beq_iff_eq.mp matched)]
    exact entitled
  | refreshTokenUpdateMany filter =>
    refine keeps_revoke (writes_finishes writes rfl) fun row stored matched => ?_
    rcases backed with ⟨owner, given, entitled⟩ | ⟨jwt, refreshToken, logout, rfl⟩
    · simp only [RefreshTokenWhere.holds, given, columnHolds, Bool.and_eq_true,
        decide_eq_true_eq] at matched
      exact .inl (matched.1.1.1 ▸ entitled)
    · simp only [RefreshTokenWhere.holds, columnHolds, Bool.and_eq_true,
        decide_eq_true_eq] at matched
      exact .inr ⟨jwt, refreshToken, logout, matched.1.1.2⟩
  | refreshTokenCreate data free =>
    exact keeps_create (writes_issues writes) free backed (known _ rfl) fun full =>
      bears.proven _ (earned full)
  | refreshTokenDeleteMany now => exact keeps_sweep backed.1 (bears.early now backed.2)
  | _ => exact Keeps.refl _

theorem Carried.bears (carried : Carried clock db statement next)
    (earned : statement.Earned past) (bears : db.Bears clock past) : next.Bears clock past where
  recalls := carried.recalls bears.recalls
  proven userId seen := idVerified_carried (bears.proven userId seen) earned carried
  early := bears.early

theorem flagged_concat (flag : UserRow → Bool) (users : List UserRow) (user : UserRow) :
    flagged flag (users ++ [user]) =
      if flag user then insert user.id (flagged flag users) else flagged flag users := by
  ext userId
  have added : userId ∈ flagged flag (users ++ [user]) ↔
      userId ∈ flagged flag users ∨ user.id = userId ∧ flag user = true := by
    simp [flagged, or_and_right, exists_or]
  rw [added]
  cases flag user with
  | true => simp [or_comm, eq_comm]
  | false => simp

/-- A registration enrols an account, with a proven identity or without. -/
theorem keeps_register {data : RegistrationCreate} (ran : db.register clock data = .ok next)
    (wellFormed : db.WellFormed) (asked : ∃ dto, request = .register dto)
    (registers : event = ⟨.registerTransaction data, .ok db.nextId⟩) :
    Keeps runtime request past event (db.book clock) (next.book clock) := by
  have known : (next.book clock).known = insert db.nextId (db.book clock).known := by
    ext userId
    show userId ∈ next.accounts ↔ userId ∈ insert db.nextId (db.book clock).known
    rw [register_accounts ran, List.mem_append, List.mem_singleton, or_comm]
    rfl
  have new : db.nextId ∉ (db.book clock).known := fun stored =>
    Nat.lt_irrefl _ (wellFormed.users.below _ stored)
  have registered : next.book clock = { db.book clock with
      known := (next.book clock).known
      proven := if data.isIdVerified then insert db.nextId (db.book clock).proven
        else (db.book clock).proven } := by
    unfold Database.register at ran
    split at ran
    · cases ran
    · cases ran
      simp only [Database.book, flagged_concat, Bool.false_eq_true, if_false]
  rw [known] at registered
  rw [registered]
  refine Keeps.trans (keeps_step (.enrol new) ⟨asked, data, registers⟩) ?_
  cases proven : data.isIdVerified with
  | false => exact Keeps.refl _
  | true =>
    exact keeps_step (.prove (Set.mem_insert _ _)) (.inl ⟨asked, data, registers, proven⟩)

end Statements

/-! ### The runs -/

section Runs

variable {runtime : Runtime} {regime : Regime State Effect.Reply Failure Request}
  {clock : Timestamp} {world : ServiceWorld}
  (chronicle : Chronicle (service runtime) regime
    (fun request => conduct (ledger runtime request)) (State.empty clock) world)

include chronicle

/-- Every entry keeps the book. -/
theorem entry_keeps_book {entry : ServiceEntry}
    (admissible : Admissible (service runtime) regime
      (fun request => conduct (ledger runtime request)) world entry)
    (entitled : Entitled world) (earns : earned (world.past entry.thread) entry.effect) :
    Keeps runtime entry.request (world.past entry.thread) entry.event entry.before.book
      entry.after.book := by
  have performs : environment.Performs entry.before entry.effect entry.reply entry.after :=
    admissible.performs
  have ruled : ledger runtime entry.request (world.past entry.thread) entry.effect :=
    admissible.ruled
  have current : entry.before = world.state := admissible.current
  have wellFormed : entry.before.db.WellFormed := current ▸ chronicle_wellFormed chronicle
  have passed := performs_clock performs
  have bears : entry.before.db.Bears entry.after.clock (world.past entry.thread) :=
    { recalls := current ▸ chronicle_recalls chronicle entry.thread
      proven := fun userId seen => current ▸ entitled.proven seen
      early := fun now read =>
        Int.le_trans (clock_read chronicle read) (current ▸ passed) }
  obtain ⟨thread, request, before, effect, reply, after⟩ := entry
  dsimp only at performs ruled current wellFormed passed bears earns ⊢
  -- the time goes by first, and the tables change at the later instant
  suffices changed : Keeps runtime request (world.past thread) ⟨effect, reply⟩
      (before.db.book after.clock) (after.db.book after.clock) from
    (keeps_step (.wait passed) trivial).trans changed
  rcases performs_db performs with
    same | ⟨statements, event, ran⟩ | ⟨data, event, ran⟩ | ⟨log, same⟩
  · rw [same]
    exact Keeps.refl _
  · obtain rfl := congrArg Event.effect event
    have written := ledger_execute ruled
    suffices kept : Keeps runtime request (world.past thread) ⟨.execute statements, reply⟩
        (before.db.book after.clock) (after.db.book after.clock) ∧
          after.db.accounts = before.db.accounts ∧
            after.db.Bears after.clock (world.past thread) from kept.1
    refine runAll_preserves (fun db => Keeps runtime request (world.past thread)
      ⟨.execute statements, reply⟩ (before.db.book after.clock) (db.book after.clock) ∧
        db.accounts = before.db.accounts ∧ db.Bears after.clock (world.past thread)) ran ?_
      ⟨Keeps.refl _, rfl, bears⟩
    rintro statement listed now later ⟨kept, accounts, bears⟩ carried
    obtain ⟨backed, writes⟩ := written statement listed
    have known : ∀ owner ∈ statement.owner, owner ∈ now.accounts := fun owner owned => by
      rw [accounts, current]
      exact owner_known chronicle backed writes owned
    exact ⟨kept.trans (carried.keeps_book backed writes (earns statement listed) bears known),
      carried.accounts.trans accounts, carried.bears (earns statement listed) bears⟩
  · obtain rfl := congrArg Event.effect event
    exact keeps_register ran wellFormed (ledger_register ruled) event
  · rw [same]
    exact Keeps.refl _

end Runs

/-- **The service keeps a book.** Whatever calls run together, the service as a whole is a run of
the book that starts blank, and its tables show a book in order; and what an entry makes of the
tables comes from acts that its request is entrusted with. -/
theorem service_keeps_book {runtime : Runtime} {clock : Timestamp} {pool : ServicePool}
    (reachable : Reachable (service runtime) .free (State.empty clock) pool) :
    (∃ acts, Run (.blank clock) acts pool.world.state.book) ∧ pool.world.state.book.InOrder ∧
      ∀ newer older entry, pool.world.history = newer ++ entry :: older →
        Keeps runtime entry.request (World.past ⟨entry.before, older⟩ entry.thread)
          entry.event entry.before.book entry.after.book := by
  have chronicle := reachable_chronicle (ledger runtime) reachable fun request _ =>
    serve_ledger runtime request
  have earning := reachable_chronicle (fun _ => earned) reachable fun request _ =>
    serve_earned runtime request
  have each : ∀ newer older entry, pool.world.history = newer ++ entry :: older →
      Keeps runtime entry.request (World.past ⟨entry.before, older⟩ entry.thread)
        entry.event entry.before.book entry.after.book := by
    intro newer older entry split
    obtain ⟨earlier, admissible⟩ := chronicle.admissible split
    obtain ⟨earlierEarning, earns⟩ := earning.admissible split
    exact entry_keeps_book earlier admissible (chronicle_entitled runtime earlierEarning)
      earns.ruled
  have empty : (State.empty clock).book = .blank clock := by
    simp [State.book, State.empty, Database.book, Database.accounts, flagged, openSessions,
      Book.blank, Set.ofPred_false]
  have whole : ∃ acts, Run (State.empty clock).book acts pool.world.state.book := by
    refine chronicle.spans (fun first last => ∃ acts, Run first.book acts last.book)
      (fun state => ⟨[], .stay _⟩) ?_ fun newer older entry split => ?_
    · rintro first second third ⟨acts, run⟩ ⟨more, rest⟩
      exact ⟨acts ++ more, run.trans rest⟩
    · obtain ⟨acts, run, _⟩ := each newer older entry split
      exact ⟨acts, run⟩
  rw [empty] at whole
  obtain ⟨acts, run⟩ := whole
  exact ⟨⟨acts, run⟩, run.inOrder (Book.blank_inOrder clock), each⟩

/-- In the run of a newcomer the book comes to show an active account. -/
theorem service_keeps_book_signedIn :
    (0 ∈ (played .lax signedIn).world.state.book.active ∧
      ∃ acts, Run (.blank 0) acts (played .lax signedIn).world.state.book) ∧
      ∃ newer older entry, (played .lax signedIn).world.history = newer ++ entry :: older ∧
        entry.before.book.active ≠ entry.after.book.active ∧
          Keeps legibleRuntime entry.request (World.past ⟨entry.before, older⟩ entry.thread)
            entry.event entry.before.book entry.after.book := by
  have keeps := service_keeps_book (played_reachable Referee.lax_upholds signedIn)
  obtain ⟨entry, member, locked, unlocked⟩ :
      ∃ entry ∈ (played .lax signedIn).world.history,
        (¬∃ row ∈ entry.before.db.users, row.id = 0 ∧ row.isActive = true) ∧
          ∃ row ∈ entry.after.db.users, row.id = 0 ∧ row.isActive = true := by
    decide
  obtain ⟨newer, older, split⟩ := List.append_of_mem member
  have active : ∃ row ∈ (played .lax signedIn).world.state.db.users,
      row.id = 0 ∧ row.isActive = true := by
    decide
  refine ⟨⟨active, keeps.1⟩, newer, older, entry, split, fun same => ?_,
    keeps.2.2 newer older entry split⟩
  have there : (0 : UserId) ∈ entry.after.book.active := unlocked
  rw [← same] at there
  exact locked there

end GraconAuth
