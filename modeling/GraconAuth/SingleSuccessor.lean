/-
This file is about refresh tokens having a single successor: within one server
process every stored token is rotated at most once, at most one token of a lineage
is live, and the calls that share a rotation answer from one outcome. A rotation
reads and revokes a token by separate, unconditional statements, so this rests on
the map of pending refreshes: the calls that rotate a token do so one after another,
and a later one reads the token revoked.
-/

import GraconAuth.Flights

namespace GraconAuth

open Interleaving Program Rows Relation

variable (runtime : Runtime)

/-! ### Lineages -/

/-- A rotation has read the token with the one id and stored the token with the other. -/
def Succeeds (world : ServiceWorld) (old new : RowId) : Prop :=
  ∃ create ∈ world.history, create.request.rotates = true ∧ (∃ row ∈ created create, row.id = new) ∧
    ∃ read ∈ world.history, read.thread = create.thread ∧ ∃ found ∈ readToken read.event,
      found.1.id = old

/-- The second token stems from the first by rotations. -/
abbrev Lineage (world : ServiceWorld) : RowId → RowId → Prop :=
  ReflTransGen (Succeeds world)

/-- The token with this id is stored unrevoked. -/
def Database.Live (db : Database) (id : RowId) : Prop :=
  ∃ row ∈ db.refreshTokens, row.id = id ∧ row.revoked = false

/-- The call has started a rotation for the key, and its `finally` handler has not run. -/
def Rotating (world : ServiceWorld) (thread : Nat) (key : FlightKey) : Prop :=
  ∃ flight, InFlight (world.past thread) key flight

/-- The effects of a rotation on the tables. -/
def Effect.rotating : Effect → Bool
  | .refreshTokenFindUnique _ | .execute (_ :: _) => true
  | _ => false

/-- Refresh tokens have a single successor: each is rotated into at most one, at most one of a
lineage is live, the calls on a flight answer from one outcome, and a refresh is pending exactly
while a call is rotating, which it no longer is when it has answered. -/
structure SingleSuccessor (world : ServiceWorld) : Prop where
  successor : ∀ old first second, Succeeds world old first → Succeeds world old second →
    first = second
  lineage : ∀ root first second, Lineage world root first → Lineage world root second →
    world.state.db.Live first → world.state.db.Live second → first = second
  coalesced : ∀ flight, ∃ came, ∀ join ∈ world.history, joins join.event = some flight →
    ∀ answer ∈ world.history, answer.thread = join.thread → ∀ outcome,
      answer.effect = .respond outcome → outcome = join.request.answer came
  pending : ∀ key, (∃ flight, (key, flight) ∈ world.state.memory.pendingRefreshes) ↔
    ∃ thread, Rotating world thread key
  covered : ∀ entry ∈ world.history, ∀ key, entry.request.flightKey runtime = some key →
    entry.effect.rotating = true → ∃ flight, (key, flight) ∈ entry.before.memory.pendingRefreshes
  landed : ∀ thread key, Answered world thread → ¬Rotating world thread key

/-! ### Rotations of one process -/

/-- The server process that takes a refresh. -/
def Request.process : Request → Option Nat
  | .refreshTokens process _ _ _ | .upgradeSession process _ _ _ => some process
  | _ => none

/-- The runs of one server process. -/
def oneProcess (process : Nat) : Regime State Effect.Reply Failure Request where
  admits request := ∀ other ∈ request.process, other = process
  permits _ _ := True

instance (process : Nat) (request : Request) : Decidable ((oneProcess process).admits request) :=
  inferInstanceAs (Decidable (∀ other ∈ request.process, other = process))

instance (process : Nat) (world : ServiceWorld) (entry : ServiceEntry) :
    Decidable ((oneProcess process).permits world entry) := .isTrue trivial

theorem process_of_flightKey {request : Request} {key : FlightKey}
    (keyed : request.flightKey runtime = some key) : request.process = some key.process := by
  unfold Request.flightKey at keyed
  split at keyed
  · cases keyed
    rfl
  · cases keyed
    rfl
  · cases keyed

theorem flightKey_of_rotates {request : Request} (rotates : request.rotates = true) :
    ∃ key, request.flightKey runtime = some key := by
  cases request with
  | refreshTokens process refreshToken ipAddress userAgent => exact ⟨_, rfl⟩
  | upgradeSession process refreshToken ipAddress userAgent => exact ⟨_, rfl⟩
  | _ => cases rotates

/-- Whatever is stored under the id has the hash. -/
def Database.Hashed (db : Database) (id : RowId) (tokenHash : TokenHash) : Prop :=
  id < db.nextId ∧ ∀ row ∈ db.refreshTokens, row.id = id → row.tokenHash = tokenHash

theorem performs_hashed {state next : State} {effect : Effect}
    {reply : Except Failure effect.Reply}
    (performs : environment.Performs state effect reply next) {id : RowId} {tokenHash : TokenHash}
    (hashed : state.db.Hashed id tokenHash) : next.db.Hashed id tokenHash := by
  refine ⟨Nat.lt_of_lt_of_le hashed.1 (performs_nextId performs), fun row member same => ?_⟩
  rcases performs_refreshTokens performs member with
    ⟨old, stored, continues⟩ | ⟨_, data, fresh, _, _, above, continues⟩
  · exact continues.tokenHash.trans (hashed.2 old stored (continues.id.symm.trans same))
  · have : fresh = id := continues.id.symm.trans same
    exact absurd (this ▸ above) (Nat.not_le.mpr hashed.1)

section Chronicles

variable {runtime} {regime : Regime State Effect.Reply Failure Request} {clock : Timestamp}
  {world : ServiceWorld}
  (chronicle : Chronicle (service runtime) regime
    (fun request => conduct (coalesced runtime request)) (State.empty clock) world)

theorem effect_of_readToken {event : ServiceEvent} {found : RefreshTokenRow × UserRow}
    (read : found ∈ readToken event) :
    ∃ tokenHash, event = ⟨.refreshTokenFindUnique tokenHash, .ok (some found)⟩ := by
  unfold readToken at read
  split at read
  · cases read
    exact ⟨_, rfl⟩
  · cases read

include chronicle

/-- A token that has been read was stored. -/
theorem read_stored {read : ServiceEntry} (member : read ∈ world.history)
    {found : RefreshTokenRow × UserRow} (reads : found ∈ readToken read.event) :
    found.1 ∈ read.before.db.refreshTokens ∧ read.before.db.WellFormed := by
  obtain ⟨earlier, chronicleEarlier, admissible, _⟩ := chronicle.recalls member
  have performs : environment.Performs read.before read.effect read.reply read.after :=
    admissible.performs
  obtain ⟨tokenHash, event⟩ := effect_of_readToken reads
  refine ⟨(findRefreshTokenWithUser_some
    (performs_refreshTokenFindUnique (performs_event performs event)).symm).1, ?_⟩
  rw [admissible.current]
  exact chronicle_wellFormed chronicleEarlier

/-- A token that has been read keeps its hash. -/
theorem read_hashed {read : ServiceEntry} (member : read ∈ world.history)
    {found : RefreshTokenRow × UserRow} (reads : found ∈ readToken read.event) :
    world.state.db.Hashed found.1.id found.1.tokenHash := by
  obtain ⟨stored, wellFormed⟩ := read_stored chronicle member reads
  refine chronicle.lasts (fun state => state.db.Hashed found.1.id found.1.tokenHash)
    (fun _ _ _ _ performs hashed => performs_hashed performs hashed) member (.inl ?_)
  refine ⟨wellFormed.refreshTokens.below _ (List.mem_map_of_mem stored), fun row other same => ?_⟩
  rw [eq_of_key wellFormed.refreshTokens.distinct other stored same]

/-- Two reads of one token find one hash. -/
theorem read_hash {first second : ServiceEntry} (memberFirst : first ∈ world.history)
    (memberSecond : second ∈ world.history) {one two : RefreshTokenRow × UserRow}
    (readsFirst : one ∈ readToken first.event) (readsSecond : two ∈ readToken second.event)
    (same : one.1.id = two.1.id) : one.1.tokenHash = two.1.tokenHash := by
  refine chronicle.invariant (fun world => ∀ first ∈ world.history,
    ∀ second ∈ world.history, ∀ one ∈ readToken first.event, ∀ two ∈ readToken second.event,
      one.1.id = two.1.id → one.1.tokenHash = two.1.tokenHash) (by simp) ?_ first memberFirst second
    memberSecond one readsFirst two readsSecond same
  intro world entry chronicle agree admissible
  have latest := Chronicle.record chronicle admissible
  -- What the new entry reads is stored, and the old read has fixed its hash.
  have fixed : ∀ older ∈ world.history, ∀ one ∈ readToken older.event,
      ∀ two ∈ readToken entry.event, one.1.id = two.1.id → one.1.tokenHash = two.1.tokenHash := by
    intro older member one readsOlder two readsEntry same
    obtain ⟨stored, _⟩ := read_stored latest List.mem_cons_self readsEntry
    rw [admissible.current] at stored
    exact ((read_hashed chronicle member readsOlder).2 two.1 stored same.symm).symm
  intro first memberFirst second memberSecond one readsFirst two readsSecond same
  rcases List.mem_cons.mp memberFirst with rfl | oldFirst
  · rcases List.mem_cons.mp memberSecond with rfl | oldSecond
    · rw [Option.mem_unique readsFirst readsSecond]
    · exact (fixed second oldSecond two readsSecond one readsFirst same.symm).symm
  · rcases List.mem_cons.mp memberSecond with rfl | oldSecond
    · exact fixed first oldFirst one readsFirst two readsSecond same
    · exact agree first oldFirst second oldSecond one readsFirst two readsSecond same

/-- A token that a rotation has exchanged is revoked. -/
theorem exchange_revoked {update : ServiceEntry} (member : update ∈ world.history) {id : RowId}
    (exchanges : Exchanges update id) : world.state.db.Revoked id := by
  refine chronicle.lasts (fun state => state.db.Revoked id)
    (fun _ _ _ _ performs revoked => performs_revoked performs revoked) member (.inr ?_)
  obtain ⟨earlier, chronicleEarlier, admissible, _⟩ := chronicle.recalls member
  have performs : environment.Performs update.before update.effect update.reply update.after :=
    admissible.performs
  refine exchanges_revoked ?_ (performs_event performs (event_of_executed exchanges))
  rw [admissible.current]
  exact chronicle_wellFormed chronicleEarlier

/-- A call reads at most one token. -/
theorem read_once {first second : ServiceEntry} (memberFirst : first ∈ world.history)
    (memberSecond : second ∈ world.history) (same : first.thread = second.thread)
    {one two : RefreshTokenRow × UserRow} (readsFirst : one ∈ readToken first.event)
    (readsSecond : two ∈ readToken second.event) : first = second := by
  refine chronicle.once_each (fun entry => (readToken entry.event).isSome = true)
    (fun world entry admissible reads older member thread readsToo => ?_) memberFirst memberSecond
    same
    (by rw [readsFirst]; rfl) (by rw [readsSecond]; rfl)
  obtain ⟨found, reads⟩ := Option.isSome_iff_exists.mp reads
  obtain ⟨tokenHash, performed⟩ := effect_of_readToken reads
  have ruled : coalesced runtime entry.request (world.past entry.thread) entry.effect :=
    admissible.ruled
  rw [show entry.effect = _ from congrArg Event.effect performed] at ruled
  obtain ⟨_, _, _, _, _, readless⟩ := ruled
  rw [readless older.event (World.mem_past.mpr ⟨older, member, thread, rfl⟩)] at readsToo
  cases readsToo

omit chronicle in
/-- What a rotation has done before it stores a token. -/
theorem create_ruled {create : ServiceEntry} (rotates : create.request.rotates = true)
    {data : RefreshTokenCreate} (stores : executed create.event = [.refreshTokenCreate data])
    {earlier : ServiceWorld}
    (admissible : Admissible (service runtime) regime
      (fun request => conduct (coalesced runtime request)) earlier create) :
    Exchanged (earlier.past create.thread) ∧ Issueless (earlier.past create.thread) := by
  have ruled : coalesced runtime create.request (earlier.past create.thread) create.effect :=
    admissible.ruled
  rw [show create.effect = _ from congrArg Event.effect (event_of_executed stores)] at ruled
  obtain ⟨key, keyed⟩ := flightKey_of_rotates runtime rotates
  exact (ruled _ List.mem_cons_self key keyed).2

/-- A rotation stores at most one token. -/
theorem create_once {first second : ServiceEntry} (memberFirst : first ∈ world.history)
    (memberSecond : second ∈ world.history) (same : first.thread = second.thread)
    (rotatesFirst : first.request.rotates = true) (rotatesSecond : second.request.rotates = true)
    {one two : RefreshTokenCreate} (storesFirst : executed first.event = [.refreshTokenCreate one])
    (storesSecond : executed second.event = [.refreshTokenCreate two]) : first = second := by
  refine chronicle.once_each (fun entry => entry.request.rotates = true ∧
      ∃ data, executed entry.event = [.refreshTokenCreate data]) ?_ memberFirst memberSecond same
    ⟨rotatesFirst, one, storesFirst⟩ ⟨rotatesSecond, two, storesSecond⟩
  rintro world entry admissible ⟨rotates, _, stores⟩ older member thread ⟨_, data, already⟩
  exact (create_ruled rotates stores admissible).2 older.event
    (World.mem_past.mpr ⟨older, member, thread, rfl⟩) data already

end Chronicles

/-! ### One rotation for each token -/

section Process

variable {runtime} {process : Nat} {clock : Timestamp} {world : ServiceWorld}
  (chronicle : Chronicle (service runtime) (oneProcess process)
    (fun request => conduct (coalesced runtime request)) (State.empty clock) world)

/-- A rotation revokes a token that it has read, in the flight for its hash. -/
theorem update_ruled {entry : ServiceEntry} {id : RowId} (exchanges : Exchanges entry id)
    (admissible : Admissible (service runtime) (oneProcess process)
      (fun request => conduct (coalesced runtime request)) world entry) :
    ∃ tokenHash, Rotating world entry.thread ⟨process, tokenHash⟩ ∧
      Taken (world.past entry.thread) id tokenHash := by
  have ruled : coalesced runtime entry.request (world.past entry.thread) entry.effect :=
    admissible.ruled
  rw [show entry.effect = _ from congrArg Event.effect (event_of_executed exchanges)] at ruled
  obtain ⟨key, flight, keyed, inFlight, taken⟩ := ruled _ List.mem_cons_self
  obtain rfl : key.process = process :=
    admissible.admitted key.process (process_of_flightKey runtime keyed)
  exact ⟨key.tokenHash, ⟨flight, inFlight⟩, taken⟩

/-- As long as the call that has read a live token is rotating, no other call exchanges it; and
all exchanges of a token are of one call. -/
structure Exclusive (process : Nat) (world : ServiceWorld) : Prop where
  reading : ∀ read ∈ world.history, ∀ found ∈ readToken read.event, found.1.revoked = false →
    Rotating world read.thread ⟨process, found.1.tokenHash⟩ →
      ∀ update ∈ world.history, Exchanges update found.1.id → update.thread = read.thread
  sole : ∀ first ∈ world.history, ∀ second ∈ world.history, ∀ id, Exchanges first id →
    Exchanges second id → first.thread = second.thread

/-- A call that is rotating after an entry and has read a token before it was rotating before. -/
theorem rotating_of_record {entry : ServiceEntry} {thread : Nat} {key : FlightKey}
    (rotating : Rotating (world.record entry) thread key)
    (admissible : Admissible (service runtime) (oneProcess process)
      (fun request => conduct (coalesced runtime request)) world entry)
    {read : ServiceEntry} (member : read ∈ world.history) (same : read.thread = thread)
    {found : RefreshTokenRow × UserRow} (reads : found ∈ readToken read.event) :
    Rotating world thread key := by
  obtain ⟨flight, ⟨event, past, led⟩, landless⟩ := rotating
  by_cases self : entry.thread = thread
  · subst self
    rw [World.past_record_self] at past landless
    refine ⟨flight, ⟨event, ?_, led⟩, fun other old => landless other (List.mem_cons_of_mem _ old)⟩
    rcases List.mem_cons.mp past with rfl | old
    · -- A call joins before it reads.
      have ruled : coalesced runtime entry.request (world.past entry.thread) entry.effect :=
        admissible.ruled
      rw [show entry.effect = _ from congrArg Event.effect (event_of_leads led)] at ruled
      have harmless := ruled.2 read.event (World.mem_past.mpr ⟨read, member, same, rfl⟩)
      rw [harmless_readless harmless] at reads
      cases reads
    · exact old
  · rw [World.past_record_other world self] at past landless
    exact ⟨flight, ⟨event, past, led⟩, landless⟩

include chronicle

theorem Exclusive.record (exclusive : Exclusive process world) {entry : ServiceEntry}
    (admissible : Admissible (service runtime) (oneProcess process)
      (fun request => conduct (coalesced runtime request)) world entry) :
    Exclusive process (world.record entry) := by
  have latest := Chronicle.record chronicle admissible
  -- The new exchange is of a token that its own call has read and is rotating.
  have own : ∀ id, Exchanges entry id → ∀ update ∈ world.history, Exchanges update id →
      update.thread = entry.thread := by
    intro id exchanges update member exchangesToo
    obtain ⟨tokenHash, rotating, event, past, found, reads, rfl, rfl, live⟩ :=
      update_ruled exchanges admissible
    obtain ⟨read, memberRead, same, rfl⟩ := World.mem_past.mp past
    rw [← same] at rotating ⊢
    exact exclusive.reading read memberRead found reads live rotating update member exchangesToo
  refine ⟨fun read memberRead found reads live rotating update memberUpdate exchanges => ?_,
    fun first memberFirst second memberSecond id exchangesFirst exchangesSecond => ?_⟩
  · rcases List.mem_cons.mp memberRead with rfl | oldRead
    · -- A live token has not been exchanged.
      rcases List.mem_cons.mp memberUpdate with rfl | oldUpdate
      · rfl
      · have revoked := exchange_revoked chronicle oldUpdate exchanges
        obtain ⟨stored, _⟩ := read_stored latest List.mem_cons_self reads
        rw [admissible.current] at stored
        rw [revoked.2 found.1 stored rfl] at live
        cases live
    · have before := rotating_of_record rotating admissible oldRead rfl reads
      rcases List.mem_cons.mp memberUpdate with rfl | oldUpdate
      · -- Another exchange would be by a call that is rotating for the same hash.
        obtain ⟨tokenHash, rotatingToo, event, past, other, readsToo, same, rfl, _⟩ :=
          update_ruled exchanges admissible
        obtain ⟨readToo, memberToo, _, rfl⟩ := World.mem_past.mp past
        rw [read_hash chronicle memberToo oldRead readsToo reads same] at rotatingToo
        obtain ⟨_, inFlight⟩ := before
        obtain ⟨_, inFlightToo⟩ := rotatingToo
        exact thread_of_key chronicle inFlightToo inFlight
      · exact exclusive.reading read oldRead found reads live before update oldUpdate exchanges
  · rcases List.mem_cons.mp memberFirst with rfl | oldFirst
    · rcases List.mem_cons.mp memberSecond with rfl | oldSecond
      · rfl
      · exact (own id exchangesFirst second oldSecond exchangesSecond).symm
    · rcases List.mem_cons.mp memberSecond with rfl | oldSecond
      · exact own id exchangesSecond first oldFirst exchangesFirst
      · exact exclusive.sole first oldFirst second oldSecond id exchangesFirst exchangesSecond

theorem exclusive_of_chronicle : Exclusive process world :=
  chronicle.invariant (Exclusive process) ⟨by simp, by simp⟩ fun _ _ chronicle exclusive
    admissible =>
    exclusive.record chronicle admissible

/-- A token that has a successor was exchanged by the call that has stored it. -/
theorem exchange_of_succeeds {old new : RowId} (succeeds : Succeeds world old new) :
    ∃ update ∈ world.history, Exchanges update old ∧ ∃ create ∈ world.history,
      create.thread = update.thread ∧ create.request.rotates = true ∧
        ∃ row ∈ created create, row.id = new := by
  obtain ⟨create, member, rotates, ⟨row, stored, same⟩, read, memberRead, thread, found, reads,
    rfl⟩ := succeeds
  obtain ⟨data, stores, _⟩ := created_some stored
  obtain ⟨earlier, _, admissible, kept⟩ := chronicle.recalls member
  obtain ⟨⟨event, past, other, readsToo, updateEvent, pastUpdate, updates⟩, _⟩ :=
    create_ruled rotates stores admissible
  obtain ⟨readToo, memberToo, threadToo, rfl⟩ := World.mem_past.mp past
  obtain ⟨update, memberUpdate, threadUpdate, rfl⟩ := World.mem_past.mp pastUpdate
  obtain rfl := read_once chronicle memberRead (kept memberToo) (thread.trans threadToo.symm) reads
    readsToo
  obtain rfl := Option.mem_unique reads readsToo
  exact ⟨update, kept memberUpdate, updates, create, member, threadUpdate.symm, rotates, row,
    stored,
    same⟩

/-- A token has at most one successor. -/
theorem succeeds_unique {old first second : RowId} (succeedsFirst : Succeeds world old first)
    (succeedsSecond : Succeeds world old second) : first = second := by
  obtain ⟨one, memberOne, exchangesOne, create, memberCreate, threadCreate, rotates, row, stored,
    rfl⟩ := exchange_of_succeeds chronicle succeedsFirst
  obtain ⟨two, memberTwo, exchangesTwo, other, memberOther, threadOther, rotatesOther, rowOther,
    storedOther, rfl⟩ := exchange_of_succeeds chronicle succeedsSecond
  have same := (exclusive_of_chronicle chronicle).sole one memberOne two memberTwo old exchangesOne
    exchangesTwo
  obtain ⟨data, stores, _⟩ := created_some stored
  obtain ⟨dataOther, storesOther, _⟩ := created_some storedOther
  obtain rfl := create_once chronicle memberCreate memberOther
    (threadCreate.trans (same.trans threadOther.symm)) rotates rotatesOther stores storesOther
  rw [Option.mem_unique stored storedOther]

/-- A token that has a successor is not live. -/
theorem not_live_of_succeeds {old new : RowId} (succeeds : Succeeds world old new) :
    ¬world.state.db.Live old := by
  obtain ⟨update, member, exchanges, _⟩ := exchange_of_succeeds chronicle succeeds
  rintro ⟨row, stored, same, live⟩
  rw [(exchange_revoked chronicle member exchanges).2 row stored same] at live
  cases live

/-- A live token ends its lineage. -/
theorem lineage_of_live {first second : RowId} (lineage : Lineage world first second)
    (live : world.state.db.Live first) : first = second := by
  rcases ReflTransGen.cases_head lineage with same | ⟨next, succeeds, _⟩
  · exact same
  · exact absurd live (not_live_of_succeeds chronicle succeeds)

end Process

section Answers

variable {runtime} {regime : Regime State Effect.Reply Failure Request} {clock : Timestamp}
  {world : ServiceWorld}
  (chronicle : Chronicle (service runtime) regime
    (fun request => conduct (coalesced runtime request)) (State.empty clock) world)

include chronicle

/-- The calls on a flight answer from the outcome on record. -/
theorem answer_recorded {join answer : ServiceEntry} (memberJoin : join ∈ world.history)
    (memberAnswer : answer ∈ world.history) (same : answer.thread = join.thread)
    {flight : FlightId} (joined : joins join.event = some flight)
    {outcome : Except Failure Response} (responds : answer.effect = .respond outcome) :
    ∃ came, world.state.memory.flights[flight]? = some (some came) ∧
      outcome = join.request.answer came := by
  obtain ⟨earlier, chronicleEarlier, kept, came, arrived, answers⟩ :=
    came_of_answer chronicle memberJoin memberAnswer same joined responds
  obtain ⟨other, ⟨joinToo, memberToo, sameToo, joinedToo⟩, settle, memberSettle, key, settles⟩ :=
    settled_of_came chronicleEarlier arrived
  obtain rfl := join_once chronicle memberJoin (kept memberToo) sameToo.symm joined joinedToo
  obtain rfl : flight = other := Option.some.inj (joined.symm.trans joinedToo)
  exact ⟨came, (outcomes_of_chronicle chronicle).settled settle (kept memberSettle) key flight came
    settles, answers⟩

/-- A call that has answered is not rotating. -/
theorem landed_of_answered {thread : Nat} {key : FlightKey} (answered : Answered world thread) :
    ¬Rotating world thread key := by
  rintro ⟨flight, ⟨event, past, led⟩, landless⟩
  obtain ⟨lead, memberLead, rfl, rfl⟩ := World.mem_past.mp past
  obtain ⟨answer, memberAnswer, same, responds⟩ := answered
  have effect : ∃ outcome, answer.effect = .respond outcome := by
    unfold GraconAuth.responds at responds
    split at responds
    · rename_i outcome _ event
      exact ⟨outcome, congrArg Event.effect event⟩
    · cases responds
  obtain ⟨outcome, responds⟩ := effect
  obtain ⟨earlier, _, kept, came, ⟨other, ⟨joinEvent, pastJoin, joined⟩, arrived⟩, _⟩ :=
    came_of_answer chronicle memberLead memberAnswer same (joins_of_leads led) responds
  rcases arrived with ⟨other, pastSettle⟩ | ⟨_, leadless⟩
  · obtain ⟨settle, memberSettle, thread, settles⟩ := World.mem_past.mp pastSettle
    have flying := landless settle.event
      (World.mem_past.mpr ⟨settle, kept memberSettle, thread, rfl⟩)
    rw [settles] at flying
    cases flying
  · obtain ⟨join, memberJoin, thread, rfl⟩ := World.mem_past.mp pastJoin
    obtain rfl := join_once chronicle memberLead (kept memberJoin) thread.symm (joins_of_leads led)
      joined
    rw [leadless lead.event pastJoin] at led
    cases led

/-- A rotation works on the tables only while its key is pending. -/
theorem pending_of_rotating {entry : ServiceEntry} (member : entry ∈ world.history)
    {key : FlightKey} (keyed : entry.request.flightKey runtime = some key)
    (rotating : entry.effect.rotating = true) :
    ∃ flight, (key, flight) ∈ entry.before.memory.pendingRefreshes := by
  obtain ⟨earlier, chronicleEarlier, admissible, _⟩ := chronicle.recalls member
  have ruled : coalesced runtime entry.request (earlier.past entry.thread) entry.effect :=
    admissible.ruled
  suffices inFlight : ∃ flight, InFlight (earlier.past entry.thread) key flight by
    obtain ⟨flight, inFlight⟩ := inFlight
    rw [admissible.current]
    exact ⟨flight, ((pending_of_chronicle chronicleEarlier).shown key flight).mpr
      ⟨_, inFlight⟩⟩
  unfold Effect.rotating at rotating
  split at rotating
  · rename_i tokenHash effect
    rw [effect] at ruled
    obtain ⟨other, flight, keyedToo, _, inFlight, _⟩ := ruled
    obtain rfl : key = other := Option.some.inj (keyed.symm.trans keyedToo)
    exact ⟨flight, inFlight⟩
  · rename_i statement rest effect
    rw [effect] at ruled
    have flown := ruled statement List.mem_cons_self
    unfold GraconAuth.flown at flown
    split at flown
    · obtain ⟨other, flight, keyedToo, inFlight, _⟩ := flown
      obtain rfl : key = other := Option.some.inj (keyed.symm.trans keyedToo)
      exact ⟨flight, inFlight⟩
    · exact (flown key keyed).1
    · exact flown key keyed
  · cases rotating

end Answers

/-- In every run of one server process, whatever the interleaving and whatever fails, refresh
tokens have a single successor. -/
theorem single_successor (runtime : Runtime) (process : Nat) (clock : Timestamp)
    (pool : ServicePool)
    (reachable : Reachable (service runtime) (oneProcess process) (State.empty clock) pool) :
    SingleSuccessor runtime pool.world := by
  have chronicle := reachable_chronicle (coalesced runtime) reachable
    fun request _ => serve_coalesced runtime request
  refine ⟨fun old first second => succeeds_unique chronicle, ?_, fun flight => ?_, fun key => ?_,
    fun entry member key => pending_of_rotating chronicle member,
    fun thread key => landed_of_answered chronicle⟩
  · intro root first second lineageFirst lineageSecond liveFirst liveSecond
    have unique : Relator.RightUnique (Succeeds pool.world) := fun _ _ _ =>
      succeeds_unique chronicle
    rcases ReflTransGen.total_of_right_unique unique lineageFirst lineageSecond with
      onward | backward
    · exact lineage_of_live chronicle onward liveFirst
    · exact (lineage_of_live chronicle backward liveSecond).symm
  · by_cases recorded : ∃ came, pool.world.state.memory.flights[flight]? = some (some came)
    · obtain ⟨came, recorded⟩ := recorded
      refine ⟨came, fun join memberJoin joined answer memberAnswer same outcome responds => ?_⟩
      obtain ⟨other, recordedToo, answers⟩ :=
        answer_recorded chronicle memberJoin memberAnswer same joined responds
      rw [recorded] at recordedToo
      cases recordedToo
      exact answers
    · refine ⟨.error databaseDown, fun join memberJoin joined answer memberAnswer same outcome
        responds => ?_⟩
      obtain ⟨other, recordedToo, _⟩ :=
        answer_recorded chronicle memberJoin memberAnswer same joined responds
      exact absurd ⟨other, recordedToo⟩ recorded
  · have pending := pending_of_chronicle chronicle
    constructor
    · rintro ⟨flight, shown⟩
      obtain ⟨thread, inFlight⟩ := (pending.shown key flight).mp shown
      exact ⟨thread, flight, inFlight⟩
    · rintro ⟨thread, flight, inFlight⟩
      exact ⟨flight, (pending.shown key flight).mpr ⟨thread, inFlight⟩⟩

/-- Three calls present one token at once, and later its successor is rotated. -/
def sharedRotation : List ServiceMove :=
  signedIn ++
  .accept (.refreshTokens 0 "r1" "ip" "agent") :: .accept (.refreshTokens 0 "r1" "ip" "agent") ::
  .accept (.upgradeSession 0 "r1" "ip" "agent") ::
    steps 3 [{}] ++ steps 4 [{}] ++ steps 5 [{}] ++
    steps 3 [{}, {}, {}, {}, { text := "r2" }, {}, {}, {}, {}] ++ steps 5 [{}, {}] ++
    steps 4 [{}, {}] ++
  .accept (.refreshTokens 0 "r2" "ip" "agent") ::
    steps 6 [{}, {}, {}, {}, {}, { text := "r3" }, {}, {}, {}, {}]

/-- In that run the calls have made two rotations, of a lineage whose last token is live. -/
theorem single_successor_shared :
    (played (.strict (oneProcess 0)) sharedRotation).world.state.db.refreshTokens.map
        (fun row => (row.tokenHash, row.revoked)) =
          [("#r1", true), ("#r2", true), ("#r3", false)] ∧
      SingleSuccessor legibleRuntime (played (.strict (oneProcess 0)) sharedRotation).world :=
  ⟨by decide +kernel, single_successor legibleRuntime 0 0 _
    (played_reachable (Referee.strict_upholds (oneProcess 0)) sharedRotation)⟩

end GraconAuth
