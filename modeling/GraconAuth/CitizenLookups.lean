/-
This file embeds the lookup of a citizen as the calls of one process make it: they share
a cache and are interleaved at every access to it and at every request. An answer is
what the citizen API said to some lookup of the same number, by this call or by one that
had stored it at most five minutes before this call looked. A failure is this call's own
and is not stored. And no call asks the API about a number that was stored at most five
minutes before it looked, unless the cache has dropped it.

The cache is part of the cache package. It gives back what was put in until it has run
out, and may drop anything before.
-/

import GraconAuth.CitizenService
import GraconAuth.ExpiringCaches
import GraconAuth.Pool

namespace GraconAuth

open CalendarDates Interleaving Program

namespace CitizenService

/-! ### The functions -/

inductive LookupEffect where
  | cacheGet (key : String)
  | post (request : CitizenRequest)
  | cacheSet (key : String) (value : CitizenRecord) (ttl : Int)
  | respond (outcome : Except Failure CitizenRecord)

abbrev LookupEffect.Reply : LookupEffect → Type
  | .cacheGet _ => Option CitizenRecord
  | .post _ => Exchange
  | .cacheSet _ _ _ => Unit
  | .respond _ => Unit

abbrev LookupAsync (Result : Type) := Program LookupEffect LookupEffect.Reply Failure Result

/-- Five minutes. -/
def CACHE_TTL_MS : Int := 5 * 60 * 1000

variable (zone : TimeZone) (sha256 : String → String)

def lookupCitizenAsync (documentNumber : String) : LookupAsync CitizenRecord := do
  throwIf (!validDocumentNumber documentNumber) InvalidDocumentException
  let cacheKey := buildCacheKey sha256 documentNumber
  let cached ← perform (LookupEffect.cacheGet cacheKey)
  match cached with
  | some citizenData => return citizenData
  | none => do
    let exchange ← perform (LookupEffect.post (citizenRequest documentNumber))
    let citizenData ← ofOutcome (callCitizenApi zone (fun _ => exchange) documentNumber)
    perform (LookupEffect.cacheSet cacheKey citizenData CACHE_TTL_MS)
    return citizenData

/-- A lookup, and the moment its answer is handed back. -/
def serveLookup (documentNumber : String) : LookupAsync CitizenRecord := do
  let outcome ← (lookupCitizenAsync zone sha256 documentNumber).attempt
  perform (LookupEffect.respond outcome)
  ofOutcome outcome

/-! ### The process -/

structure LookupState where
  clock : Timestamp
  cache : ExpiringCaches.Cache String CitizenRecord

/-- How long a step takes, what the cache drops, and what the API says. -/
structure LookupChoice where
  elapsed : Nat
  dropped : String → Bool
  exchange : Exchange

/-- The clock runs and the cache makes room. -/
def LookupState.pass (state : LookupState) (choice : LookupChoice) : LookupState where
  clock := state.clock + choice.elapsed
  cache := ExpiringCaches.evict choice.dropped state.cache

def lookupEnvironment : Environment LookupState LookupChoice LookupEffect.Reply Failure :=
  fun state choice effect =>
    let now := state.pass choice
    match effect with
    | .cacheGet key => some (.ok (ExpiringCaches.get now.cache now.clock key), now)
    | .post _ => some (.ok choice.exchange, now)
    | .cacheSet key value ttl =>
      some (.ok (), { now with
        cache := ExpiringCaches.set now.cache ⟨key, value, now.clock + ttl⟩ })
    | .respond _ => some (.ok (), now)

def lookupService : Service LookupState LookupChoice LookupEffect.Reply Failure String
    CitizenRecord where
  environment := lookupEnvironment
  serve := serveLookup zone sha256
  accepts _ _ := true

abbrev LookupEvent := Event LookupEffect.Reply Failure

abbrev LookupEntry := Entry LookupState LookupEffect.Reply Failure String

abbrev LookupWorld := World LookupState LookupEffect.Reply Failure String

variable {zone sha256}

/-! ### One step -/

/-- What a step makes of the shared state. -/
inductive LookupChange (state : LookupState) : LookupEvent → LookupState → Prop
  | got (key : String) :
    LookupChange state ⟨.cacheGet key, .ok (ExpiringCaches.get state.cache state.clock key)⟩ state
  | posted (request : CitizenRequest) (exchange : Exchange) :
    LookupChange state ⟨.post request, .ok exchange⟩ state
  | stored (key : String) (value : CitizenRecord) (ttl : Int) :
    LookupChange state ⟨.cacheSet key value ttl, .ok ()⟩
      { state with cache := ExpiringCaches.set state.cache ⟨key, value, state.clock + ttl⟩ }
  | responded (outcome : Except Failure CitizenRecord) :
    LookupChange state ⟨.respond outcome, .ok ()⟩ state

theorem performs_lookup {state next : LookupState} {effect : LookupEffect}
    {reply : Except Failure effect.Reply}
    (performs : lookupEnvironment.Performs state effect reply next) :
    ∃ choice, LookupChange (state.pass choice) ⟨effect, reply⟩ next := by
  obtain ⟨choice, answered⟩ := performs
  refine ⟨choice, ?_⟩
  cases effect with
  | cacheGet key =>
    obtain ⟨rfl, rfl⟩ := Prod.mk.inj (Option.some.inj answered)
    exact .got key
  | post request =>
    obtain ⟨rfl, rfl⟩ := Prod.mk.inj (Option.some.inj answered)
    exact .posted request choice.exchange
  | cacheSet key value ttl =>
    obtain ⟨rfl, rfl⟩ := Prod.mk.inj (Option.some.inj answered)
    exact .stored key value ttl
  | respond outcome =>
    obtain ⟨rfl, rfl⟩ := Prod.mk.inj (Option.some.inj answered)
    exact .responded outcome

/-! ### What a call does -/

/-- What the API has answered a call. -/
def Asked (documentNumber : String) (past : List LookupEvent) (exchange : Exchange) : Prop :=
  ⟨.post (citizenRequest documentNumber), .ok exchange⟩ ∈ past

/-- What a call has found cached. -/
def Looked (sha256 : String → String) (documentNumber : String) (past : List LookupEvent)
    (cached : Option CitizenRecord) : Prop :=
  ⟨.cacheGet (buildCacheKey sha256 documentNumber), .ok cached⟩ ∈ past

/-- A call asks the API when it has found nothing, stores what a good answer says, and hands back
what it has found or what the API has come to. -/
def looking (zone : TimeZone) (sha256 : String → String) (documentNumber : String)
    (past : List LookupEvent) : LookupEffect → Prop
  | .cacheGet key => key = buildCacheKey sha256 documentNumber
  | .post request => request = citizenRequest documentNumber ∧
    Looked sha256 documentNumber past none
  | .cacheSet key value ttl => key = buildCacheKey sha256 documentNumber ∧ ttl = CACHE_TTL_MS ∧
    ∃ exchange, Asked documentNumber past exchange ∧
      callCitizenApi zone (fun _ => exchange) documentNumber = .ok value
  | .respond outcome => ∃ cached exchange,
    outcome = (lookupCitizen zone (fun _ => exchange) sha256 documentNumber fun _ => cached).1 ∧
      (validDocumentNumber documentNumber = true → Looked sha256 documentNumber past cached ∧
        (cached = none → Asked documentNumber past exchange))

/-- The rule of the lookups. The environment always answers. -/
def lookupConduct (zone : TimeZone) (sha256 : String → String) (documentNumber : String) :
    Conduct LookupEffect.Reply Failure where
  expects event := ∃ value, event.reply = .ok value
  allows := looking zone sha256 documentNumber

theorem lookupCitizen_invalid {post : CitizenRequest → Exchange} {documentNumber : String}
    {cache : Cache} (invalid : validDocumentNumber documentNumber = false) :
    (lookupCitizen zone post sha256 documentNumber cache).1 = .error InvalidDocumentException := by
  rw [lookupCitizen, invalid]
  rfl

theorem lookupCitizen_cached {post : CitizenRequest → Exchange} {documentNumber : String}
    {citizenData : CitizenRecord} (valid : validDocumentNumber documentNumber = true) :
    (lookupCitizen zone post sha256 documentNumber fun _ => some citizenData).1 =
      .ok citizenData := by
  rw [lookupCitizen, valid]
  rfl

theorem lookupCitizen_asked {post : CitizenRequest → Exchange} {documentNumber : String}
    (valid : validDocumentNumber documentNumber = true) :
    (lookupCitizen zone post sha256 documentNumber fun _ => none).1 =
      callCitizenApi zone post documentNumber := by
  rw [lookupCitizen, valid, Bool.not_true, if_neg Bool.false_ne_true]
  dsimp only
  cases callCitizenApi zone post documentNumber <;> rfl

/-- A program that performs one effect keeps to the rule when all its continuations do: no reply
is a failure. -/
theorem follows_answered {First : Type} {documentNumber : String} {past : List LookupEvent}
    {effect : LookupEffect} {next : effect.Reply → LookupAsync First}
    {post : List LookupEvent → Except Failure First → Prop}
    (allowed : looking zone sha256 documentNumber past effect)
    (answers : ∀ value,
      (next value).Follows (lookupConduct zone sha256 documentNumber) post
        (⟨effect, .ok value⟩ :: past)) :
    (perform effect >>= next).Follows (lookupConduct zone sha256 documentNumber) post past := by
  refine follows_perform_bind.mpr ⟨allowed, fun value _ => answers value, ?_⟩
  rintro failure ⟨_, impossible⟩
  cases impossible

/-- Every lookup keeps to the rule: alone it decides as the function on a cache does. -/
theorem serveLookup_looking (documentNumber : String) :
    (serveLookup zone sha256 documentNumber).Abides (lookupConduct zone sha256 documentNumber)
      [] := by
  have answers : ∀ (past : List LookupEvent) (outcome : Except Failure CitizenRecord),
      looking zone sha256 documentNumber past (.respond outcome) →
        (do perform (LookupEffect.respond outcome); ofOutcome outcome :
          LookupAsync CitizenRecord).Abides (lookupConduct zone sha256 documentNumber) past :=
    fun past outcome allowed => abides_perform_bind allowed fun _ _ =>
      follows_ofOutcome.mpr trivial
  unfold serveLookup
  refine follows_bind.mpr (follows_attempt.mpr ?_)
  unfold lookupCitizenAsync
  refine follows_throwIf_bind.mpr ⟨fun invalid => ?_, fun valid => ?_⟩
  · rw [Bool.not_eq_true'] at invalid
    exact answers _ _ ⟨none, .timeout, (lookupCitizen_invalid invalid).symm,
      fun valid => absurd (invalid.symm.trans valid) Bool.false_ne_true⟩
  rw [Bool.not_eq_false'] at valid
  refine follows_answered rfl fun cached => ?_
  cases cached with
  | some citizenData =>
    exact answers _ _ ⟨some citizenData, .timeout, (lookupCitizen_cached valid).symm,
      fun _ => ⟨List.mem_singleton_self _, fun missed => by cases missed⟩⟩
  | none =>
    refine follows_answered ⟨rfl, List.mem_singleton_self _⟩ fun exchange => ?_
    have looked : Looked sha256 documentNumber [⟨.post (citizenRequest documentNumber),
        .ok exchange⟩, ⟨.cacheGet (buildCacheKey sha256 documentNumber), .ok none⟩] none :=
      List.mem_cons_of_mem _ (List.mem_singleton_self _)
    have asked : Asked documentNumber [⟨.post (citizenRequest documentNumber),
        .ok exchange⟩, ⟨.cacheGet (buildCacheKey sha256 documentNumber), .ok none⟩] exchange :=
      List.mem_cons_self
    cases called : callCitizenApi zone (fun _ => exchange) documentNumber with
    | error failure =>
      exact answers _ _ ⟨none, exchange, ((lookupCitizen_asked valid).trans called).symm,
        fun _ => ⟨looked, fun _ => asked⟩⟩
    | ok citizenData =>
      refine follows_answered ⟨rfl, rfl, exchange, asked, called⟩ fun _ => ?_
      exact answers _ _ ⟨none, exchange, ((lookupCitizen_asked valid).trans called).symm,
        fun _ => ⟨List.mem_cons_of_mem _ looked, fun _ => List.mem_cons_of_mem _ asked⟩⟩

/-! ### The runs -/

/-- Nothing is cached yet. -/
def LookupState.empty (clock : Timestamp) : LookupState := ⟨clock, []⟩

/-- A line of the cache is as old as its storing. -/
def Filed (world : LookupWorld) (line : ExpiringCaches.Line String CitizenRecord) : Prop :=
  ∃ storing ∈ world.history,
    storing.event = ⟨.cacheSet line.key line.value CACHE_TTL_MS, .ok ()⟩ ∧
      line.expires = storing.after.clock + CACHE_TTL_MS

/-- What an entry has heard from the API about the number of its call. -/
def Heard (zone : TimeZone) (posting : LookupEntry) (outcome : Except Failure CitizenRecord) :
    Prop :=
  ∃ exchange, posting.event = ⟨.post (citizenRequest posting.request), .ok exchange⟩ ∧
    callCitizenApi zone (fun _ => exchange) posting.request = outcome

section Runs

variable {regime : Regime LookupState LookupEffect.Reply Failure String} {clock : Timestamp}

theorem reachable_lookups {pool : Pool LookupState LookupEffect.Reply Failure String CitizenRecord}
    (reachable : Reachable (lookupService zone sha256) regime (.empty clock) pool) :
    Chronicle (lookupService zone sha256) regime (lookupConduct zone sha256) (.empty clock)
      pool.world := by
  refine reachable.chronicle (fun _ _ _ _ _ _ _ => rfl) ?_ fun request _ =>
    serveLookup_looking request
  intro state effect reply next request performs
  obtain ⟨choice, change⟩ := performs_lookup performs
  cases change <;> exact ⟨_, rfl⟩

variable {world : LookupWorld} {entry : LookupEntry}

/-- An entry is what the rule allows its call. -/
theorem looking_of_effect
    (admissible : Admissible (lookupService zone sha256) regime (lookupConduct zone sha256) world
      entry) {effect : LookupEffect} (performs : entry.effect = effect) :
    looking zone sha256 entry.request (world.past entry.thread) effect :=
  performs ▸ admissible.ruled

/-- What a call is given is what is cached then. -/
theorem performs_cacheGet {state next : LookupState} {key : String}
    {cached : Option CitizenRecord}
    (performs : lookupEnvironment.Performs state (.cacheGet key) (.ok cached) next) :
    cached = ExpiringCaches.get next.cache next.clock key := by
  obtain ⟨choice, answered⟩ := performs
  obtain ⟨same, rfl⟩ := Prod.mk.inj (Option.some.inj answered)
  exact (Except.ok.inj same).symm

/-- What is cached after a step was cached before, or the step has stored it. -/
theorem performs_cache {state next : LookupState} {effect : LookupEffect}
    {reply : Except Failure effect.Reply}
    (performs : lookupEnvironment.Performs state effect reply next)
    {line : ExpiringCaches.Line String CitizenRecord} (cached : line ∈ next.cache) :
    line ∈ state.cache ∨ ∃ ttl, (⟨effect, reply⟩ : LookupEvent) =
      ⟨.cacheSet line.key line.value ttl, .ok ()⟩ ∧ line.expires = next.clock + ttl := by
  obtain ⟨choice, change⟩ := performs_lookup performs
  generalize (⟨effect, reply⟩ : LookupEvent) = event at change ⊢
  cases change with
  | stored key value ttl =>
    rcases ExpiringCaches.mem_set.mp cached with rfl | ⟨kept, _⟩
    · exact .inr ⟨ttl, rfl, rfl⟩
    · exact .inl (ExpiringCaches.mem_evict.mp kept).1
  | _ => exact .inl (ExpiringCaches.mem_evict.mp cached).1

/-- What a call has been answered by the API is in the history. -/
theorem heard_of_asked (zone : TimeZone) {thread : Nat} {documentNumber : String}
    {exchange : Exchange}
    (owned : ∀ other ∈ world.history, other.thread = thread → other.request = documentNumber)
    (asked : Asked documentNumber (world.past thread) exchange) :
    ∃ posting ∈ world.history, posting.thread = thread ∧ posting.request = documentNumber ∧
      Heard zone posting (callCitizenApi zone (fun _ => exchange) documentNumber) := by
  obtain ⟨posting, inside, ofThread, event⟩ := World.mem_past.mp asked
  have request := owned posting inside ofThread
  exact ⟨posting, inside, ofThread, request, exchange, request ▸ event, by rw [request]⟩

theorem digest_of_key {first second : String}
    (same : buildCacheKey sha256 first = buildCacheKey sha256 second) :
    sha256 first = sha256 second :=
  (String.append_right_inj _).mp same

/-- The clock does not run back. -/
theorem performs_lookupClock {state next : LookupState} {effect : LookupEffect}
    {reply : Except Failure effect.Reply}
    (performs : lookupEnvironment.Performs state effect reply next) :
    state.clock ≤ next.clock := by
  obtain ⟨choice, change⟩ := performs_lookup performs
  have passed : state.clock ≤ (state.pass choice).clock :=
    Int.le_add_of_nonneg_right (Int.natCast_nonneg choice.elapsed)
  cases change <;> exact passed

variable (chronicle : Chronicle (lookupService zone sha256) regime (lookupConduct zone sha256)
  (.empty clock) world)

include chronicle

theorem chronicle_filed : ∀ line ∈ world.state.cache, Filed world line := by
  refine chronicle.invariant (fun world => ∀ line ∈ world.state.cache, Filed world line)
    (fun line cached => absurd cached List.not_mem_nil) ?_
  intro world entry earlier filed admissible line cached
  rcases performs_cache admissible.performs cached with old | ⟨ttl, stores, expires⟩
  · rw [admissible.current] at old
    obtain ⟨storing, member, rest⟩ := filed line old
    exact ⟨storing, List.mem_cons_of_mem _ member, rest⟩
  · obtain ⟨_, rfl, _⟩ := looking_of_effect admissible (congrArg Event.effect stores)
    exact ⟨entry, List.mem_cons_self, stores, expires⟩

/-- What was stored was heard by the call that stored it. -/
theorem heard_of_stored {storing : LookupEntry} (member : storing ∈ world.history) {key : String}
    {record : CitizenRecord} {ttl : Int}
    (stores : storing.event = ⟨.cacheSet key record ttl, .ok ()⟩) :
    ttl = CACHE_TTL_MS ∧ key = buildCacheKey sha256 storing.request ∧
      ∃ posting ∈ world.history, posting.thread = storing.thread ∧
        posting.request = storing.request ∧ Heard zone posting (.ok record) := by
  obtain ⟨earlier, before, admissible, inside⟩ := chronicle.recalls member
  obtain ⟨keyed, lifetime, exchange, asked, answered⟩ :=
    looking_of_effect admissible (congrArg Event.effect stores)
  obtain ⟨posting, posted, ofThread, request, heard⟩ :=
    heard_of_asked zone admissible.owned asked
  exact ⟨lifetime, keyed, posting, inside posted, ofThread, request, answered ▸ heard⟩

/-- What a call finds cached was stored at most five minutes before. -/
theorem stored_of_found {reading : LookupEntry}
    (admissible : Admissible (lookupService zone sha256) regime (lookupConduct zone sha256) world
      reading) {key : String} {record : CitizenRecord}
    (reads : reading.event = ⟨.cacheGet key, .ok (some record)⟩) :
    ∃ storing ∈ world.history, storing.event = ⟨.cacheSet key record CACHE_TTL_MS, .ok ()⟩ ∧
      reading.after.clock ≤ storing.after.clock + CACHE_TTL_MS := by
  have performs := admissible.performs
  have current := admissible.current
  obtain ⟨thread, request, before, effect, reply, after⟩ := reading
  cases reads
  obtain ⟨line, cached, keyed, valued, early⟩ :=
    ExpiringCaches.get_some (performs_cacheGet performs).symm
  have old : line ∈ world.state.cache := by
    rcases performs_cache performs cached with old | ⟨_, impossible, _⟩
    · exact current ▸ old
    · cases impossible
  obtain ⟨storing, member, stores, expires⟩ := chronicle_filed chronicle line old
  rw [keyed, valued] at stores
  exact ⟨storing, member, stores, expires ▸ early⟩

end Runs

/-! ### What is handed back -/

/-- An answer comes from the API: it was said to this call, or to one that had stored it at most
five minutes before this call looked. The number was the same, as far as the digest tells. -/
def Sourced (zone : TimeZone) (sha256 : String → String) (older : List LookupEntry)
    (entry : LookupEntry) (record : CitizenRecord) : Prop :=
  ∃ posting ∈ older, sha256 posting.request = sha256 entry.request ∧
    Heard zone posting (.ok record) ∧ (posting.thread = entry.thread ∨
      ∃ between reading earlier, older = between ++ reading :: earlier ∧
        reading.thread = entry.thread ∧
        reading.event = ⟨.cacheGet (buildCacheKey sha256 entry.request), .ok (some record)⟩ ∧
        ∃ storing ∈ earlier, storing.thread = posting.thread ∧
          storing.event = ⟨.cacheSet (buildCacheKey sha256 entry.request) record CACHE_TTL_MS,
            .ok ()⟩ ∧ reading.after.clock ≤ storing.after.clock + CACHE_TTL_MS)

/-- A failure is the call's own: the number is not one, or the API has said so to this call. -/
def OwnFailure (zone : TimeZone) (older : List LookupEntry) (entry : LookupEntry)
    (failure : Failure) : Prop :=
  validDocumentNumber entry.request = false ∧ failure = InvalidDocumentException ∨
    ∃ posting ∈ older, posting.thread = entry.thread ∧ posting.request = entry.request ∧
      Heard zone posting (.error failure)

/-- What a call hands back is the API's word. -/
def Explained (zone : TimeZone) (sha256 : String → String) (older : List LookupEntry)
    (entry : LookupEntry) : Except Failure CitizenRecord → Prop
  | .ok record => Sourced zone sha256 older entry record
  | .error failure => OwnFailure zone older entry failure

section Answers

variable {regime : Regime LookupState LookupEffect.Reply Failure String} {clock : Timestamp}
  {older : List LookupEntry} {entry : LookupEntry}
  (chronicle : Chronicle (lookupService zone sha256) regime (lookupConduct zone sha256)
    (.empty clock) ⟨entry.before, older⟩)

include chronicle

theorem sourced_of_found {reading : LookupEntry} (member : reading ∈ older)
    (ofThread : reading.thread = entry.thread) {record : CitizenRecord}
    (reads : reading.event =
      ⟨.cacheGet (buildCacheKey sha256 entry.request), .ok (some record)⟩) :
    Sourced zone sha256 older entry record := by
  obtain ⟨between, earlier, parted⟩ := List.append_of_mem member
  obtain ⟨before, admissible⟩ := chronicle.admissible parted
  obtain ⟨storing, stored, stores, early⟩ := stored_of_found before admissible reads
  have inside : storing ∈ older := by
    rw [parted]
    exact List.mem_append_right _ (List.mem_cons_of_mem _ stored)
  obtain ⟨_, keyed, posting, posted, storer, asked, heard⟩ :=
    heard_of_stored chronicle inside stores
  refine ⟨posting, posted, ?_, heard, .inr ⟨between, reading, earlier, parted, ofThread, reads,
    storing, stored, storer.symm, stores, early⟩⟩
  exact asked ▸ digest_of_key keyed.symm

theorem answer_explained
    (admissible : Admissible (lookupService zone sha256) regime (lookupConduct zone sha256)
      ⟨entry.before, older⟩ entry) {outcome : Except Failure CitizenRecord}
    (answers : entry.effect = .respond outcome) :
    Explained zone sha256 older entry outcome := by
  obtain ⟨cached, exchange, rfl, looked⟩ := looking_of_effect admissible answers
  cases valid : validDocumentNumber entry.request with
  | false =>
    rw [lookupCitizen_invalid valid]
    exact .inl ⟨valid, rfl⟩
  | true =>
    obtain ⟨found, asks⟩ := looked valid
    cases cached with
    | some record =>
      rw [lookupCitizen_cached valid]
      obtain ⟨reading, member, ofThread, reads⟩ := World.mem_past.mp found
      exact sourced_of_found chronicle member ofThread reads
    | none =>
      rw [lookupCitizen_asked valid]
      obtain ⟨posting, member, ofThread, request, heard⟩ :=
        heard_of_asked zone admissible.owned (asks rfl)
      cases called : callCitizenApi zone (fun _ => exchange) entry.request with
      | ok record =>
        exact ⟨posting, member, by rw [request], called ▸ heard, .inl ofThread⟩
      | error failure => exact .inr ⟨posting, member, ofThread, request, called ▸ heard⟩

end Answers

/-- **A lookup tells what the API has said.** Whatever lookups run together, and whatever the cache
drops, an answer was said by the citizen API about the same number, to the call itself or to one
that had stored it at most five minutes before the call looked; and a failure is the call's own. -/
theorem lookups_are_fresh {clock : Timestamp}
    {pool : Pool LookupState LookupEffect.Reply Failure String CitizenRecord}
    (reachable : Reachable (lookupService zone sha256) .free (.empty clock) pool)
    {newer older : List LookupEntry} {entry : LookupEntry}
    (split : pool.world.history = newer ++ entry :: older)
    {outcome : Except Failure CitizenRecord} (answers : entry.effect = .respond outcome) :
    Explained zone sha256 older entry outcome := by
  obtain ⟨earlier, admissible⟩ := (reachable_lookups reachable).admissible split
  exact answer_explained earlier admissible answers

/-- Steps of a lookup on a cache that drops nothing, with one answer of the API. -/
def lookupSteps (thread count elapsed : Nat) : List (Move LookupChoice String) :=
  List.replicate count (.advance thread ⟨elapsed, fun _ => false, .response 200 sampleAnswer⟩)

/-- Two lookups of one number, the second so much later than the first. -/
def lookedTwice (referee : Referee LookupState LookupEffect.Reply Failure String)
    (elapsed : Nat) : Pool LookupState LookupEffect.Reply Failure String CitizenRecord :=
  (Pool.start (.empty 0)).playAll (lookupService (.fixed 0 (by decide)) id) referee
    ([.accept "1199080012345678"] ++ lookupSteps 0 4 0 ++
      [.accept "1199080012345678"] ++ lookupSteps 1 1 elapsed ++ lookupSteps 1 3 0)

/-- A citizen is handed back. -/
def LookupEffect.succeeds : LookupEffect → Bool
  | .respond (.ok _) => true
  | _ => false

/-- The API is asked. -/
def LookupEffect.asks : LookupEffect → Bool
  | .post _ => true
  | _ => false

/-- A minute later the second lookup is answered from the cache. -/
theorem lookups_are_fresh_cached :
    ∃ newer entry older record, entry.thread = 1 ∧
      (lookedTwice Referee.lax 60000).world.history = newer ++ entry :: older ∧
        Explained (.fixed 0 (by decide)) id older entry (.ok record) := by
  obtain ⟨entry, member, second, answered⟩ :
      ∃ entry ∈ (lookedTwice Referee.lax 60000).world.history,
        entry.thread = 1 ∧ entry.effect.succeeds = true := by
    decide +kernel
  obtain ⟨newer, older, split⟩ := List.append_of_mem member
  obtain ⟨record, answers⟩ : ∃ record, entry.effect = .respond (.ok record) := by
    unfold LookupEffect.succeeds at answered
    split at answered
    · rename_i record same
      exact ⟨record, same⟩
    · cases answered
  exact ⟨newer, entry, older, record, second, split,
    lookups_are_fresh (Pool.playAll_reachable Referee.lax_upholds _ _) split answers⟩

/-- The runs of a cache that drops nothing early: what has not run out stays cached, for as long at
least. -/
def roomy : Regime LookupState LookupEffect.Reply Failure String where
  admits _ := True
  permits _ entry := ∀ line ∈ entry.before.cache, entry.after.clock ≤ line.expires →
    ∃ kept ∈ entry.after.cache, kept.key = line.key ∧ line.expires ≤ kept.expires

section Roomy

variable {clock : Timestamp} {world : LookupWorld}
  (chronicle : Chronicle (lookupService zone sha256) roomy (lookupConduct zone sha256)
    (.empty clock) world)

include chronicle

/-- What has been stored is cached as long as it is at most five minutes old. -/
theorem chronicle_kept : ∀ storing ∈ world.history, storing.after.clock ≤ world.state.clock ∧
    ∀ key value ttl, storing.effect = .cacheSet key value ttl →
      world.state.clock ≤ storing.after.clock + CACHE_TTL_MS →
        ∃ line ∈ world.state.cache, line.key = key ∧
          storing.after.clock + CACHE_TTL_MS ≤ line.expires := by
  refine chronicle.invariant (fun world => ∀ storing ∈ world.history,
    storing.after.clock ≤ world.state.clock ∧
      ∀ key value ttl, storing.effect = .cacheSet key value ttl →
        world.state.clock ≤ storing.after.clock + CACHE_TTL_MS →
          ∃ line ∈ world.state.cache, line.key = key ∧
            storing.after.clock + CACHE_TTL_MS ≤ line.expires) (by simp) ?_
  intro world entry _ kept admissible storing member
  have performs : lookupEnvironment.Performs entry.before entry.effect entry.reply entry.after :=
    admissible.performs
  have passed := performs_lookupClock performs
  rcases List.mem_cons.mp member with rfl | old
  · refine ⟨Int.le_refl _, fun key value ttl stores _ => ?_⟩
    obtain ⟨_, rfl, _⟩ := looking_of_effect admissible stores
    obtain ⟨choice, change⟩ := performs_lookup performs
    obtain ⟨thread, request, before, effect, reply, after⟩ := storing
    dsimp only at stores change ⊢
    subst stores
    cases change
    exact ⟨_, ExpiringCaches.mem_set.mpr (.inl rfl), rfl, Int.le_refl _⟩
  · obtain ⟨early, cached⟩ := kept storing old
    rw [← admissible.current] at early cached
    refine ⟨Int.le_trans early passed, fun key value ttl stores fresh => ?_⟩
    obtain ⟨line, inside, rfl, expires⟩ :=
      cached key value ttl stores (Int.le_trans passed fresh)
    obtain ⟨later, there, keyed, longer⟩ :=
      admissible.permitted line inside (Int.le_trans fresh expires)
    exact ⟨later, there, keyed, Int.le_trans expires longer⟩

end Roomy

/-- **The API is asked only when there is need.** Whatever lookups run together on a cache that
drops nothing early, a call that asks the API has looked before and found nothing, and whatever had
been stored about the number until then was more than five minutes old when it looked. -/
theorem asks_only_when_stale {clock : Timestamp}
    {pool : Pool LookupState LookupEffect.Reply Failure String CitizenRecord}
    (reachable : Reachable (lookupService zone sha256) roomy (.empty clock) pool)
    {newer older : List LookupEntry} {entry : LookupEntry} {asked : CitizenRequest}
    (split : pool.world.history = newer ++ entry :: older) (posts : entry.effect = .post asked) :
    asked = citizenRequest entry.request ∧ ∃ between reading earlier,
      older = between ++ reading :: earlier ∧ reading.thread = entry.thread ∧
        reading.event = ⟨.cacheGet (buildCacheKey sha256 entry.request), .ok none⟩ ∧
        ∀ storing ∈ earlier, ∀ value ttl,
          storing.effect = .cacheSet (buildCacheKey sha256 entry.request) value ttl →
            storing.after.clock + CACHE_TTL_MS < reading.after.clock := by
  obtain ⟨before, admissible⟩ := (reachable_lookups reachable).admissible split
  obtain ⟨same, looked⟩ := looking_of_effect admissible posts
  obtain ⟨reading, member, ofThread, reads⟩ := World.mem_past.mp looked
  obtain ⟨between, earlier, parted⟩ := List.append_of_mem member
  refine ⟨same, between, reading, earlier, parted, ofThread, reads,
    fun storing stored value ttl stores => Int.not_le.mp fun fresh => ?_⟩
  obtain ⟨first, allowed⟩ := before.admissible parted
  have performs := allowed.performs
  have passed : reading.before.clock ≤ reading.after.clock := performs_lookupClock performs
  obtain ⟨_, cached⟩ := chronicle_kept first storing stored
  obtain ⟨line, inside, keyed, expires⟩ := cached _ _ _ stores (Int.le_trans passed fresh)
  obtain ⟨kept, there, same, longer⟩ :=
    allowed.permitted line inside (Int.le_trans fresh expires)
  obtain ⟨thread, request, found, effect, reply, after⟩ := reading
  cases reads
  refine Int.not_le.mpr (ExpiringCaches.get_none (performs_cacheGet performs).symm there
    (same.trans keyed)) ?_
  exact Int.le_trans fresh (Int.le_trans expires longer)

instance (world : LookupWorld) (entry : LookupEntry) : Decidable (roomy.permits world entry) :=
  inferInstanceAs (Decidable (∀ line ∈ _, _ → ∃ kept ∈ _, _ ∧ _))

instance (request : String) : Decidable (roomy.admits request) :=
  inferInstanceAs (Decidable True)

/-- Six minutes later the second lookup asks the API again. -/
theorem asks_only_when_stale_later :
    ∃ newer entry older, entry.thread = 1 ∧
      (lookedTwice (Referee.strict roomy) 360000).world.history = newer ++ entry :: older ∧
        ∃ between reading earlier, older = between ++ reading :: earlier ∧
          reading.thread = entry.thread ∧
          reading.event = ⟨.cacheGet (buildCacheKey id entry.request), .ok none⟩ ∧
          ∀ storing ∈ earlier, ∀ value ttl,
            storing.effect = .cacheSet (buildCacheKey id entry.request) value ttl →
              storing.after.clock + CACHE_TTL_MS < reading.after.clock := by
  obtain ⟨entry, member, second, posts⟩ :
      ∃ entry ∈ (lookedTwice (Referee.strict roomy) 360000).world.history,
        entry.thread = 1 ∧ entry.effect.asks = true := by
    decide +kernel
  obtain ⟨newer, older, split⟩ := List.append_of_mem member
  obtain ⟨asked, same⟩ : ∃ asked, entry.effect = .post asked := by
    unfold LookupEffect.asks at posts
    split at posts
    · rename_i asked same
      exact ⟨asked, same⟩
    · cases posts
  exact ⟨newer, entry, older, second, split,
    (asks_only_when_stale (Pool.playAll_reachable (Referee.strict_upholds roomy) _ _) split
      same).2⟩

end CitizenService

end GraconAuth
