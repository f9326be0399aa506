/-
This file is about which limit applies to a route. Every registered throttler is
asked about every route, an override repeats the options its throttler has anyway,
and the one skip names a throttler that is not registered. So each route has the
limit of the strict throttler, three requests in ten minutes, and the fourth is
rejected whatever the decorator of the route says.
-/

import GraconAuth.Throttler

namespace GraconAuth

open CustomThrottlerGuard (canActivate getTracker handleRequests)

/-! ### Counting in a window -/

/-- How many of the times are less than a window ago. -/
def within (ttl : Int) (now : Timestamp) (times : List Timestamp) : Nat :=
  times.countP fun time => decide (now - time < ttl)

/-- No window has held more than the limit. -/
def Calm (ttl : Int) (limit : Nat) : List Timestamp → Prop
  | [] => True
  | time :: earlier => within ttl time (time :: earlier) ≤ limit ∧ Calm ttl limit earlier

/-- What the package documents of its storage: as long as the limit of requests within a window
has not been exceeded, a hit is blocked exactly when it exceeds it. -/
structure ThrottlerStorage.Documented (storage : ThrottlerStorage) : Prop where
  limits : ∀ ttl limit earlier now, Calm ttl limit earlier →
    (storage ttl limit earlier now = true ↔ limit < within ttl now (now :: earlier))

theorem within_cons_self {ttl : Int} (open_ : 0 < ttl) (now : Timestamp)
    (times : List Timestamp) : within ttl now (now :: times) = within ttl now times + 1 := by
  rw [within, List.countP_cons, if_pos (by simpa using open_)]
  rfl

/-- A later and shorter window holds no more of the times. -/
theorem within_mono {short long : Int} {earlier now : Timestamp} (shorter : short ≤ long)
    (later : earlier ≤ now) (times : List Timestamp) :
    within short now times ≤ within long earlier times := by
  refine List.countP_mono_left fun time _ inside => ?_
  simp only [decide_eq_true_eq] at inside ⊢
  exact Int.lt_of_le_of_lt (Int.sub_le_sub_right later time) (Int.lt_of_lt_of_le inside shorter)

/-- After a calm history the window before the present holds no more than the limit. -/
theorem within_of_calm {short long : Int} {limit : Nat} {now : Timestamp} (shorter : short ≤ long)
    {times : List Timestamp} (calm : Calm long limit times) (past : ∀ time ∈ times, time ≤ now) :
    within short now times ≤ limit := by
  cases times with
  | nil => exact Nat.zero_le _
  | cons time earlier =>
    exact Nat.le_trans (within_mono shorter (past time List.mem_cons_self) _) calm.1

/-- A history that is calm for a longer window and a lower limit is calm. -/
theorem Calm.weaken {short long : Int} {limit larger : Nat} (shorter : short ≤ long)
    (higher : limit ≤ larger) {times : List Timestamp} (calm : Calm long limit times) :
    Calm short larger times := by
  induction times with
  | nil => trivial
  | cons time earlier inductionHypothesis =>
    refine ⟨?_, inductionHypothesis calm.2⟩
    exact Nat.le_trans (within_mono shorter (Int.le_refl _) _) (Nat.le_trans calm.1 higher)

/-! ### What the decorators declare -/

/-- When the requests of a tracker reached a route, newest first. -/
def reaching (tracker : String) (route : Route) (visits : List Visit) : List Timestamp :=
  (visits.filter fun visit => visit.tracker == tracker && visit.route == route).map (·.time)

/-- A request of the tracker to a `ThrottleGeneral` route is rejected only when more than 60
reached the route in the last minute, one to a `ThrottleAuth` route only when more than 5 did, and
one to a `SkipThrottle` route never. -/
def RouteLimited (tracker : String) (visits : List Visit) : Prop :=
  ∀ past ∈ visits.tails, ∀ visit ∈ past.head?, visit.tracker = tracker → visit.admitted = false →
    (visit.route.decorator = some ThrottleGeneral →
      60 < within 60000 visit.time (reaching tracker visit.route past)) ∧
    (visit.route.decorator = some ThrottleAuth →
      5 < within 60000 visit.time (reaching tracker visit.route past)) ∧
    visit.route.decorator ≠ some SkipThrottle

instance (tracker : String) (visits : List Visit) : Decidable (RouteLimited tracker visits) :=
  inferInstanceAs (Decidable (∀ past ∈ _, _))

/-- The route is meant to have a limit above the strict one. -/
def Route.relaxed (route : Route) : Prop :=
  route.decorator = some ThrottleGeneral ∨ route.decorator = some ThrottleAuth ∨
    route.decorator = some SkipThrottle

instance (route : Route) : Decidable route.relaxed :=
  inferInstanceAs (Decidable (_ ∨ _))

/-- A fourth request of the tracker reaches such a route within ten minutes. -/
def Crowded (tracker : String) (visits : List Visit) : Prop :=
  ∃ past ∈ visits.tails, ∃ visit ∈ past.head?, visit.tracker = tracker ∧ visit.route.relaxed ∧
    3 < within 600000 visit.time (reaching tracker visit.route past)

instance (tracker : String) (visits : List Visit) : Decidable (Crowded tracker visits) :=
  inferInstanceAs (Decidable (∃ past ∈ _, _))

theorem routeLimited_cons {tracker : String} {visit : Visit} {visits : List Visit}
    (limited : RouteLimited tracker (visit :: visits)) : RouteLimited tracker visits := by
  intro past member
  exact limited past (by rw [List.tails_cons]; exact List.mem_cons_of_mem _ member)

theorem crowded_cons {tracker : String} {visit : Visit} {visits : List Visit} :
    Crowded tracker (visit :: visits) ↔
      (visit.tracker = tracker ∧ visit.route.relaxed ∧
        3 < within 600000 visit.time (reaching tracker visit.route (visit :: visits))) ∨
      Crowded tracker visits := by
  simp only [Crowded, List.tails_cons, List.exists_mem_cons_iff, List.head?_cons, Option.mem_def,
    Option.some.injEq, exists_eq_left']

theorem reaching_cons_self (visit : Visit) (visits : List Visit) :
    reaching visit.tracker visit.route (visit :: visits) =
      visit.time :: reaching visit.tracker visit.route visits := by
  simp [reaching]

theorem reaching_cons_other {tracker : String} {route : Route} {visit : Visit}
    (other : ¬(visit.tracker = tracker ∧ visit.route = route)) (visits : List Visit) :
    reaching tracker route (visit :: visits) = reaching tracker route visits := by
  rw [reaching, List.filter_cons, if_neg]
  · rfl
  · simpa only [Bool.and_eq_true, beq_iff_eq] using other

/-- Without a fourth request the strict limit was never exceeded on such a route. -/
theorem calm_of_uncrowded {tracker : String} {route : Route} (relaxed : route.relaxed)
    {visits : List Visit} (uncrowded : ¬Crowded tracker visits) :
    Calm 600000 3 (reaching tracker route visits) := by
  induction visits with
  | nil => trivial
  | cons visit visits inductionHypothesis =>
    rw [crowded_cons, not_or] at uncrowded
    by_cases same : visit.tracker = tracker ∧ visit.route = route
    · obtain ⟨rfl, rfl⟩ := same
      have few := Nat.not_lt.mp fun many => uncrowded.1 ⟨rfl, relaxed, many⟩
      rw [reaching_cons_self] at few ⊢
      exact ⟨few, inductionHypothesis uncrowded.2⟩
    · rw [reaching_cons_other same]
      exact inductionHypothesis uncrowded.2

/-! ### What the guard does -/

/-- No decorator takes a registered throttler off a route or changes its options there. -/
theorem decorators_idle (route : Route) {registered : ThrottlerOptions}
    (member : registered ∈ AppModule.throttlers) :
    route.skips registered.name = false ∧ route.resolve registered = registered := by
  simp only [AppModule.throttlers, List.mem_cons, List.not_mem_nil, or_false] at member
  rcases member with rfl | rfl | rfl <;> cases route <;> decide

section Guard

variable (storage : ThrottlerStorage) {tracker : String} {route : Route} {now : Timestamp}
  {hits : List Hit}

/-- The hits of a request, after the first throttlers have let it through. -/
theorem hitTimes_cons {hit : Hit} (name : ThrottlerName) :
    hitTimes tracker route name (hit :: hits) =
      if hit.tracker = tracker ∧ hit.route = route ∧ hit.name = name then
        hit.time :: hitTimes tracker route name hits
      else hitTimes tracker route name hits := by
  simp only [hitTimes, List.filter_cons, Bool.and_eq_true, beq_iff_eq, and_assoc]
  split
  · rfl
  · rfl

/-- The guard asks the three throttlers with their registered options, whatever the route. -/
theorem handleRequests_registered :
    handleRequests storage tracker route now AppModule.throttlers hits =
      let general : Hit := ⟨tracker, route, .general, now⟩
      let auth : Hit := ⟨tracker, route, .auth, now⟩
      let strict : Hit := ⟨tracker, route, .strict, now⟩
      if storage 60000 60 (hitTimes tracker route .general hits) now then
        (false, general :: hits)
      else if storage 60000 5 (hitTimes tracker route .auth hits) now then
        (false, auth :: general :: hits)
      else (!storage 600000 3 (hitTimes tracker route .strict hits) now,
        strict :: auth :: general :: hits) := by
  have idle : ∀ registered ∈ AppModule.throttlers,
      route.skips registered.name = false ∧ route.resolve registered = registered :=
    fun _ member => decorators_idle route member
  have first := idle ⟨.general, 60000, 60⟩ (by simp [AppModule.throttlers])
  have second := idle ⟨.auth, 60000, 5⟩ (by simp [AppModule.throttlers])
  have third := idle ⟨.strict, 600000, 3⟩ (by simp [AppModule.throttlers])
  simp only [AppModule.throttlers, handleRequests, first.1, first.2, second.1, second.2, third.1,
    third.2, Bool.false_eq_true, if_false, hitTimes_cons, reduceCtorEq, and_false]
  split
  · rfl
  · split
    · rfl
    · cases storage 600000 3 (hitTimes tracker route .strict hits) now <;> rfl

/-- Only the hits on the keys of the request change. -/
theorem hitTimes_handleRequests_other {other : String} {elsewhere : Route}
    (distinct : ¬(tracker = other ∧ route = elsewhere)) (name : ThrottlerName) :
    hitTimes other elsewhere name
        (handleRequests storage tracker route now AppModule.throttlers hits).2 =
      hitTimes other elsewhere name hits := by
  have apart : ∀ rest : Prop, ¬(tracker = other ∧ route = elsewhere ∧ rest) :=
    fun _ same => distinct ⟨same.1, same.2.1⟩
  rw [handleRequests_registered]
  dsimp only
  split
  · rw [hitTimes_cons, if_neg (apart _)]
  · split
    · rw [hitTimes_cons, if_neg (apart _), hitTimes_cons, if_neg (apart _)]
    · rw [hitTimes_cons, if_neg (apart _), hitTimes_cons, if_neg (apart _), hitTimes_cons,
        if_neg (apart _)]

end Guard

/-! ### Every sequence of requests -/

section Sequences

variable {storage : ThrottlerStorage} {tracker : String} {gatehouse : Gatehouse}

/-- Every registered throttler has counted every request of the tracker to a relaxed route, and
the requests were let through, until the first fourth one within ten minutes. -/
structure Gatehouse.Counts (tracker : String) (gatehouse : Gatehouse) : Prop where
  past : ∀ visit ∈ gatehouse.visits, visit.time ≤ gatehouse.clock
  counted : ¬Crowded tracker gatehouse.visits → ∀ route : Route, route.relaxed →
    ∀ name, name ≠ .default →
      hitTimes tracker route name gatehouse.hits = reaching tracker route gatehouse.visits
  admitted : ¬Crowded tracker gatehouse.visits → ∀ visit ∈ gatehouse.visits,
    visit.tracker = tracker → visit.route.relaxed → visit.admitted = true
  crowded : Crowded tracker gatehouse.visits → ¬RouteLimited tracker gatehouse.visits

theorem Gatehouse.Counts.reaching_past (counts : gatehouse.Counts tracker) {now : Timestamp}
    (later : gatehouse.clock ≤ now) (route : Route) :
    ∀ time ∈ reaching tracker route gatehouse.visits, time ≤ now := by
  intro time member
  obtain ⟨visit, listed, rfl⟩ := List.mem_map.mp member
  exact Int.le_trans (counts.past visit (List.mem_filter.mp listed).1) later

/-- The first two throttlers let the request through, and the strict one decides. -/
theorem Gatehouse.Counts.decides (documented : storage.Documented)
    (counts : gatehouse.Counts tracker) (uncrowded : ¬Crowded tracker gatehouse.visits)
    {route : Route} (relaxed : route.relaxed) {now : Timestamp} (later : gatehouse.clock ≤ now) :
    let decided := handleRequests storage tracker route now AppModule.throttlers gatehouse.hits
    (decided.1 = false ↔
        3 < within 600000 now (now :: reaching tracker route gatehouse.visits)) ∧
      ∀ name, name ≠ .default → hitTimes tracker route name decided.2 =
        now :: reaching tracker route gatehouse.visits := by
  intro decided
  have calm := calm_of_uncrowded relaxed uncrowded
  have past := counts.reaching_past later route
  have minute : within 60000 now (now :: reaching tracker route gatehouse.visits) ≤ 4 := by
    rw [within_cons_self (by decide)]
    exact Nat.succ_le_succ (within_of_calm (by decide) calm past)
  have general : storage 60000 60 (reaching tracker route gatehouse.visits) now = false := by
    rw [Bool.eq_false_iff, ne_eq,
      documented.limits 60000 60 _ now (calm.weaken (by decide) (by decide))]
    omega
  have auth : storage 60000 5 (reaching tracker route gatehouse.visits) now = false := by
    rw [Bool.eq_false_iff, ne_eq,
      documented.limits 60000 5 _ now (calm.weaken (by decide) (by decide))]
    omega
  have counted := counts.counted uncrowded route relaxed
  have result : decided = (!storage 600000 3 (reaching tracker route gatehouse.visits) now,
      ⟨tracker, route, .strict, now⟩ :: ⟨tracker, route, .auth, now⟩ ::
        ⟨tracker, route, .general, now⟩ :: gatehouse.hits) := by
    show handleRequests storage tracker route now AppModule.throttlers gatehouse.hits = _
    rw [handleRequests_registered]
    simp only [counted .general nofun, counted .auth nofun, counted .strict nofun, general, auth,
      Bool.false_eq_true, if_false]
  rw [result]
  refine ⟨?_, fun name registered => ?_⟩
  · rw [Bool.not_eq_false']
    exact documented.limits 600000 3 _ now calm
  · cases name with
    | default => exact absurd rfl registered
    | general => simp [hitTimes_cons, counted .general nofun]
    | auth => simp [hitTimes_cons, counted .auth nofun]
    | strict => simp [hitTimes_cons, counted .strict nofun]

/-- A request of the tracker to a relaxed route that is rejected as the fourth breaks what the
decorator declares. -/
theorem not_routeLimited_of_fourth {visit : Visit} {visits : List Visit}
    (relaxed : visit.route.relaxed) (rejected : visit.admitted = false)
    (calm : Calm 600000 3 (reaching visit.tracker visit.route visits))
    (past : ∀ time ∈ reaching visit.tracker visit.route visits, time ≤ visit.time) :
    ¬RouteLimited visit.tracker (visit :: visits) := by
  intro limited
  have minute : within 60000 visit.time (reaching visit.tracker visit.route (visit :: visits)) ≤
      4 := by
    rw [reaching_cons_self, within_cons_self (by decide)]
    exact Nat.succ_le_succ (within_of_calm (by decide) calm past)
  obtain ⟨general, auth, skip⟩ := limited (visit :: visits)
    (by rw [List.tails_cons]; exact List.mem_cons_self) visit rfl rfl rejected
  rcases relaxed with isGeneral | isAuth | isSkip
  · have := general isGeneral
    omega
  · have := auth isAuth
    omega
  · exact skip isSkip

/-- In production the guard asks the throttlers about every request. -/
theorem arrive_production (storage : ThrottlerStorage) (gatehouse : Gatehouse)
    (arrival : Arrival) : ∃ visit hits,
    gatehouse.arrive storage (some .production) arrival =
        ⟨visit.time, hits, visit :: gatehouse.visits⟩ ∧
      gatehouse.clock ≤ visit.time ∧
      handleRequests storage visit.tracker visit.route visit.time AppModule.throttlers
        gatehouse.hits = (visit.admitted, hits) :=
  ⟨⟨getTracker arrival.request, arrival.route, _, _⟩, _, rfl,
    Int.le_add_of_nonneg_right (Int.natCast_nonneg arrival.elapsed), rfl⟩

/-- One more request keeps the count. -/
theorem Gatehouse.Counts.arrive (documented : storage.Documented)
    (counts : gatehouse.Counts tracker) (arrival : Arrival) :
    (gatehouse.arrive storage (some .production) arrival).Counts tracker := by
  obtain ⟨visit, hits, arrived, later, decided⟩ := arrive_production storage gatehouse arrival
  rw [arrived]
  have past : ∀ other ∈ visit :: gatehouse.visits, other.time ≤ visit.time := by
    intro other member
    rcases List.mem_cons.mp member with rfl | old
    · exact Int.le_refl _
    · exact Int.le_trans (counts.past other old) later
  by_cases before : Crowded tracker gatehouse.visits
  · have still : Crowded tracker (visit :: gatehouse.visits) := crowded_cons.mpr (.inr before)
    exact ⟨past, fun uncrowded => absurd still uncrowded, fun uncrowded => absurd still uncrowded,
      fun _ limited => counts.crowded before (routeLimited_cons limited)⟩
  have decides : visit.tracker = tracker → visit.route.relaxed →
      (visit.admitted = false ↔
        3 < within 600000 visit.time (reaching tracker visit.route (visit :: gatehouse.visits))) ∧
      ∀ name, name ≠ .default → hitTimes tracker visit.route name hits =
        reaching tracker visit.route (visit :: gatehouse.visits) := by
    rintro rfl relaxed
    have decision := counts.decides documented before relaxed later
    rw [decided] at decision
    rw [reaching_cons_self]
    exact decision
  refine ⟨past, fun uncrowded route relaxed name registered => ?_, ?_, ?_⟩
  · by_cases same : visit.tracker = tracker ∧ visit.route = route
    · obtain ⟨visitor, rfl⟩ := same
      exact (decides visitor relaxed).2 name registered
    · have unchanged : hitTimes tracker route name (handleRequests storage visit.tracker
          visit.route visit.time AppModule.throttlers gatehouse.hits).2 =
          hitTimes tracker route name gatehouse.hits :=
        hitTimes_handleRequests_other storage same name
      rw [decided] at unchanged
      rw [reaching_cons_other same, ← counts.counted before route relaxed name registered]
      exact unchanged
  · intro uncrowded other member visitor relaxed
    rcases List.mem_cons.mp member with rfl | old
    · by_contra rejected
      exact uncrowded (crowded_cons.mpr (.inl ⟨visitor, relaxed,
        (decides visitor relaxed).1.mp (Bool.eq_false_iff.mpr rejected)⟩))
    · exact counts.admitted before other old visitor relaxed
  · intro crowded
    rcases crowded_cons.mp crowded with ⟨visitor, relaxed, many⟩ | already
    · have rejected := (decides visitor relaxed).1.mpr many
      subst visitor
      exact not_routeLimited_of_fourth relaxed rejected (calm_of_uncrowded relaxed before)
        (counts.reaching_past later _)
    · exact absurd already before

theorem serve_counts (documented : storage.Documented) (arrivals : List Arrival) :
    (Gatehouse.serve storage (some .production) arrivals).Counts tracker := by
  have general : ∀ gatehouse : Gatehouse, gatehouse.Counts tracker →
      (arrivals.foldl (Gatehouse.arrive storage (some .production)) gatehouse).Counts tracker := by
    induction arrivals with
    | nil => exact fun _ counts => counts
    | cons arrival rest inductionHypothesis =>
      exact fun gatehouse counts => inductionHypothesis _ (counts.arrive documented arrival)
  exact general _ ⟨by simp, fun _ _ _ _ _ => rfl, by simp, by simp [Crowded]⟩

end Sequences

/-- The storage that blocks a hit when its window holds more than the limit. -/
def slidingWindow : ThrottlerStorage := fun ttl limit earlier now =>
  decide (limit < within ttl now (now :: earlier))

theorem slidingWindow_documented : slidingWindow.Documented :=
  ⟨fun _ _ _ _ _ => decide_eq_true_iff⟩

/-- A page that loads the profile of one user so many times, a second apart. -/
def profileLoads (count : Nat) : List Arrival :=
  List.replicate count ⟨1000, { remoteAddress := some "ip" }, .getProfile⟩

/-- A route can reject a request long before its own limit is reached. -/
theorem route_not_limited :
    ¬ ∀ storage : ThrottlerStorage, storage.Documented → ∀ (arrivals : List Arrival)
      (tracker : String),
      RouteLimited tracker (Gatehouse.serve storage (some .production) arrivals).visits := by
  intro limited
  have four := limited slidingWindow slidingWindow_documented (profileLoads 4) "ip"
  exact absurd four (by decide +kernel)

/-- Whatever the requests and whatever storage counts them as documented, the decorators of the
routes tell the limits of a tracker exactly when none of these routes gets a fourth request of the
tracker within ten minutes. -/
theorem route_limited_iff (storage : ThrottlerStorage) (documented : storage.Documented)
    (arrivals : List Arrival) (tracker : String) :
    RouteLimited tracker (Gatehouse.serve storage (some .production) arrivals).visits ↔
      ¬Crowded tracker (Gatehouse.serve storage (some .production) arrivals).visits := by
  have counts : (Gatehouse.serve storage (some .production) arrivals).Counts tracker :=
    serve_counts documented arrivals
  refine ⟨fun limited crowded => counts.crowded crowded limited, fun uncrowded => ?_⟩
  intro past suffix visit head visitor rejected
  have member : visit ∈ (Gatehouse.serve storage (some .production) arrivals).visits :=
    ((List.mem_tails _ _).mp suffix).subset (List.mem_of_head? head)
  have unrelaxed : ¬visit.route.relaxed := by
    intro relaxed
    rw [counts.admitted uncrowded visit member visitor relaxed] at rejected
    cases rejected
  exact ⟨fun isGeneral => absurd (.inl isGeneral) unrelaxed,
    fun isAuth => absurd (.inr (.inl isAuth)) unrelaxed,
    fun isSkip => unrelaxed (.inr (.inr isSkip))⟩

/-- Three loads of the profile are let through, and the routes are limited as declared. -/
theorem route_limited_iff_three :
    (Gatehouse.serve slidingWindow (some .production) (profileLoads 3)).visits.map (·.admitted) =
        [true, true, true] ∧
      RouteLimited "ip"
        (Gatehouse.serve slidingWindow (some .production) (profileLoads 3)).visits :=
  ⟨by decide +kernel, (route_limited_iff slidingWindow slidingWindow_documented (profileLoads 3)
    "ip").mpr (by decide +kernel)⟩

end GraconAuth
