/-
This file embeds the activity feed of a user and says when its pages partition it. Each
page is a query of its own, ordered by the time alone, and the database may order the
events of one time differently in each. The pages partition the feed when no time has
events on both sides of the end of a page, and only then.
-/

import GraconAuth.Paging
import GraconAuth.Schema
import Mathlib.Algebra.Order.Ring.Int
import Mathlib.Data.List.Infix

namespace GraconAuth

open Paging

/-! ### The presentation of an event -/

namespace UsersService

/-- The categories an event can have. -/
inductive UserActivityVisibleCategory where
  | authentication
  | verification
  | account
  | security
  deriving DecidableEq, Repr

inductive UserActivityCategoryDtoValue where
  | all
  | visible (category : UserActivityVisibleCategory)
  deriving DecidableEq, Repr

inductive UserActivityOrderDtoValue where
  | newest
  | oldest
  deriving DecidableEq, Repr

inductive UserActivityTone where
  | success
  | warning
  | danger
  | neutral
  deriving DecidableEq, Repr

def UserActivityVisibleCategory.value : UserActivityVisibleCategory → String
  | authentication => "authentication"
  | verification => "verification"
  | account => "account"
  | security => "security"

end UsersService

def SecurityEvent.value : SecurityEvent → String
  | loginSuccess => "LOGIN_SUCCESS"
  | loginFailed => "LOGIN_FAILED"
  | verificationPassed => "VERIFICATION_PASSED"
  | verificationFailed => "VERIFICATION_FAILED"
  | passwordResetRequested => "PASSWORD_RESET_REQUESTED"
  | passwordChanged => "PASSWORD_CHANGED"
  | sessionsRevokedByUser => "SESSIONS_REVOKED_BY_USER"
  | revokedTokenReuse => "REVOKED_TOKEN_REUSE"
  | rateLimitExceeded => "RATE_LIMIT_EXCEEDED"

/-- `Object.values(SecurityEvent)` -/
def SecurityEvent.values : List SecurityEvent := [
  .loginSuccess, .loginFailed, .verificationPassed, .verificationFailed, .passwordResetRequested,
  .passwordChanged, .sessionsRevokedByUser, .revokedTokenReuse, .rateLimitExceeded]

namespace UsersService

structure UserActivityPresentation where
  category : UserActivityVisibleCategory
  title : String
  description : String
  tone : UserActivityTone
  deriving DecidableEq, Repr

def USER_ACTIVITY_PRESENTATION : SecurityEvent → UserActivityPresentation
  | .loginSuccess => {
      category := .authentication
      title := "Successful sign in"
      description := "Your account was accessed with a valid password and session."
      tone := .success }
  | .loginFailed => {
      category := .authentication
      title := "Failed sign-in attempt"
      description :=
        "A sign-in attempt for your account was rejected before a session was created."
      tone := .warning }
  | .verificationPassed => {
      category := .verification
      title := "Identity verification passed"
      description := "Your identity verification challenge was completed successfully."
      tone := .success }
  | .verificationFailed => {
      category := .verification
      title := "Identity verification failed"
      description := "An identity verification attempt did not pass the required checks."
      tone := .warning }
  | .passwordResetRequested => {
      category := .account
      title := "Password reset requested"
      description := "A password reset email was requested for your account."
      tone := .neutral }
  | .passwordChanged => {
      category := .account
      title := "Password changed"
      description := "Your password was changed and existing sessions were revoked."
      tone := .success }
  | .sessionsRevokedByUser => {
      category := .account
      title := "Sessions revoked"
      description := "Active sessions were revoked from your account security controls."
      tone := .neutral }
  | .revokedTokenReuse => {
      category := .security
      title := "Revoked token reuse blocked"
      description := "A reused refresh token was detected and blocked by the auth service."
      tone := .danger }
  | .rateLimitExceeded => {
      category := .security
      title := "Rate limit reached"
      description := "A protected action hit the account protection rate limit."
      tone := .warning }

def USER_ACTIVITY_EVENTS_BY_CATEGORY : UserActivityVisibleCategory → List SecurityEvent
  | .authentication => [.loginSuccess, .loginFailed]
  | .verification => [.verificationPassed, .verificationFailed]
  | .account => [.passwordResetRequested, .passwordChanged, .sessionsRevokedByUser]
  | .security => [.revokedTokenReuse, .rateLimitExceeded]

/-! ### The query -/

/-- The query as the validators of its class let it through. -/
structure UserActivityQueryDto where
  page : Option { page : Nat // 1 ≤ page }
  pageSize : Option { size : Nat // 1 ≤ size ∧ size ≤ 50 }
  category : Option UserActivityCategoryDtoValue
  order : Option UserActivityOrderDtoValue
  search : Option String

structure UserActivityItemDto where
  id : RowId
  eventType : SecurityEvent
  category : UserActivityVisibleCategory
  title : String
  description : String
  tone : UserActivityTone
  createdAt : Timestamp
  ipAddress : Option String
  deriving DecidableEq, Repr

structure UserActivityPaginationDto where
  page : Nat
  pageSize : Nat
  totalItems : Nat
  totalPages : Nat
  deriving DecidableEq, Repr

structure UserActivityResponseDto where
  items : List UserActivityItemDto
  pagination : UserActivityPaginationDto
  deriving DecidableEq, Repr

variable (toLowerCase : String → String)

/-- What a search looks through. -/
def searchableText (eventType : SecurityEvent) : String :=
  let presentation := USER_ACTIVITY_PRESENTATION eventType
  toLowerCase (" ".intercalate [eventType.value, presentation.category.value, presentation.title,
    presentation.description])

def resolveUserActivityEventTypes (query : UserActivityQueryDto) : List SecurityEvent :=
  let baseEvents :=
    match query.category.getD .all with
    | .all => SecurityEvent.values
    | .visible category => USER_ACTIVITY_EVENTS_BY_CATEGORY category
  match query.search.map toLowerCase with
  | none | some "" => baseEvents
  | some search => baseEvents.filter fun eventType =>
      decide (search.toList <:+: (searchableText toLowerCase eventType).toList)

/-- What the rows are sorted by. -/
def sortKey (order : UserActivityOrderDtoValue) (row : SecurityEventRow) : Int :=
  match order with
  | .oldest => row.createdAt
  | .newest => -row.createdAt

/-- How the database orders the rows of each query, rows of one time as it likes. -/
structure TieOrder where
  arrange : Nat → UserActivityOrderDtoValue → List SecurityEventRow → List SecurityEventRow
  arranges : ∀ call order rows, Arranges (sortKey order) rows (arrange call order rows)

/-- The log of security events. The id is its primary key. -/
structure EventLog where
  rows : List SecurityEventRow
  keyed : (rows.map (·.id)).Nodup

def presented (event : SecurityEventRow) : UserActivityItemDto :=
  let presentation := USER_ACTIVITY_PRESENTATION event.eventType
  { id := event.id
    eventType := event.eventType
    category := presentation.category
    title := presentation.title
    description := presentation.description
    tone := presentation.tone
    createdAt := event.createdAt
    ipAddress := event.ipAddress }

/-- The call is the one whose query the database orders. -/
def getActivity (log : EventLog) (ties : TieOrder) (call : Nat) (userId : UserId)
    (query : UserActivityQueryDto) : UserActivityResponseDto :=
  let page := (query.page.map Subtype.val).getD 1
  let pageSize := (query.pageSize.map Subtype.val).getD 12
  let eventTypes := resolveUserActivityEventTypes toLowerCase query
  if eventTypes.length = 0 then ⟨[], ⟨page, pageSize, 0, 0⟩⟩
  else
    let found := log.rows.filter fun row =>
      row.userId == some userId && eventTypes.contains row.eventType
    let ordered := ties.arrange call (if query.order = some .oldest then .oldest else .newest)
      found
    let events := (ordered.drop ((page - 1) * pageSize)).take pageSize
    ⟨events.map presented, ⟨page, pageSize, found.length, pagesOf pageSize found.length⟩⟩

end UsersService

open UsersService

/-! ### What the feed should be -/

/-- The event is of the category of the query, and its texts contain what is searched for. -/
def UsersService.UserActivityQueryDto.Selects (query : UserActivityQueryDto)
    (toLowerCase : String → String) (event : SecurityEvent) : Prop :=
  (∀ category, query.category = some (.visible category) →
    (USER_ACTIVITY_PRESENTATION event).category = category) ∧
  ∀ search, query.search.map toLowerCase = some search →
    search.toList <:+: (searchableText toLowerCase event).toList

variable {toLowerCase : String → String} {log : EventLog} {ties : TieOrder} {userId : UserId}
  {query : UserActivityQueryDto}

/-- The tables of categories and of presentations say the same. -/
theorem mem_eventsByCategory {category : UserActivityVisibleCategory} {event : SecurityEvent} :
    event ∈ USER_ACTIVITY_EVENTS_BY_CATEGORY category ↔
      (USER_ACTIVITY_PRESENTATION event).category = category := by
  cases category <;> cases event <;> decide

/-- The types that are asked for are those that the query selects. -/
theorem mem_resolveUserActivityEventTypes {event : SecurityEvent} :
    event ∈ resolveUserActivityEventTypes toLowerCase query ↔ query.Selects toLowerCase event := by
  have based : (event ∈ match query.category.getD .all with
      | .all => SecurityEvent.values
      | .visible category => USER_ACTIVITY_EVENTS_BY_CATEGORY category) ↔
      ∀ category, query.category = some (.visible category) →
        (USER_ACTIVITY_PRESENTATION event).category = category := by
    have every : event ∈ SecurityEvent.values := by cases event <;> decide
    rcases query.category with _ | _ | category
    · simp [every]
    · simp [every]
    · simp [mem_eventsByCategory]
  unfold resolveUserActivityEventTypes UserActivityQueryDto.Selects
  rw [← based]
  cases query.search.map toLowerCase with
  | none => simp
  | some search =>
    by_cases blank : search = ""
    · subst blank
      simp
    · simp

instance (event : SecurityEvent) : Decidable (query.Selects toLowerCase event) :=
  decidable_of_iff _ mem_resolveUserActivityEventTypes

/-- The events of the user that the query selects. -/
def UsersService.EventLog.matching (log : EventLog) (toLowerCase : String → String)
    (userId : UserId) (query : UserActivityQueryDto) : List SecurityEventRow :=
  log.rows.filter fun row =>
    decide (row.userId = some userId ∧ query.Selects toLowerCase row.eventType)

/-- The query for another page. -/
def UsersService.UserActivityQueryDto.turnedTo (query : UserActivityQueryDto) (page : Nat) :
    UserActivityQueryDto :=
  { query with page := some ⟨page + 1, Nat.succ_pos page⟩ }

def UsersService.UserActivityQueryDto.size (query : UserActivityQueryDto) : Nat :=
  (query.pageSize.map Subtype.val).getD 12

def UsersService.UserActivityQueryDto.direction (query : UserActivityQueryDto) :
    UserActivityOrderDtoValue :=
  query.order.getD .newest

/-- The answers to the queries for each page, counted from nought. -/
def activityPage (toLowerCase : String → String) (log : EventLog) (ties : TieOrder)
    (userId : UserId) (query : UserActivityQueryDto) (page : Nat) : UserActivityResponseDto :=
  getActivity toLowerCase log ties page userId (query.turnedTo page)

/-- One item may stand before the other. -/
def inOrder (order : UserActivityOrderDtoValue) (first second : UserActivityItemDto) : Prop :=
  match order with
  | .oldest => first.createdAt ≤ second.createdAt
  | .newest => second.createdAt ≤ first.createdAt

/-- How many pages the answer to the first query speaks of. -/
def totalPages (toLowerCase : String → String) (log : EventLog) (ties : TieOrder)
    (userId : UserId) (query : UserActivityQueryDto) : Nat :=
  (activityPage toLowerCase log ties userId query 0).pagination.totalPages

/-- The items of these pages in a row. -/
def activityFeed (toLowerCase : String → String) (log : EventLog) (ties : TieOrder)
    (userId : UserId) (query : UserActivityQueryDto) : List UserActivityItemDto :=
  (List.range (totalPages toLowerCase log ties userId query)).flatMap fun page =>
    (activityPage toLowerCase log ties userId query page).items

/-- The pages list every matching event once and in the requested order, every answer speaks of as
many, and the later ones are empty. -/
structure PartitionsActivity (toLowerCase : String → String) (log : EventLog) (ties : TieOrder)
    (userId : UserId) (query : UserActivityQueryDto) : Prop where
  told : ∀ page, (activityPage toLowerCase log ties userId query page).pagination.totalPages =
    totalPages toLowerCase log ties userId query
  once : (activityFeed toLowerCase log ties userId query).Perm
    ((log.matching toLowerCase userId query).map presented)
  ordered : (activityFeed toLowerCase log ties userId query).Pairwise (inOrder query.direction)
  rest : ∀ page, totalPages toLowerCase log ties userId query ≤ page →
    (activityPage toLowerCase log ties userId query page).items = []

/-! ### The answers are pages of the matching events -/

theorem size_pos : 0 < query.size := by
  unfold UserActivityQueryDto.size
  cases query.pageSize with
  | none => exact Nat.succ_pos _
  | some size => exact size.2.1

theorem activityPage_eq (page : Nat) : activityPage toLowerCase log ties userId query page =
    ⟨(pageOf query.size (page + 1) (ties.arrange page query.direction
        (log.matching toLowerCase userId query))).map presented,
      ⟨page + 1, query.size, (log.matching toLowerCase userId query).length,
        pagesOf query.size (log.matching toLowerCase userId query).length⟩⟩ := by
  have found : (log.rows.filter fun row => row.userId == some userId &&
      (resolveUserActivityEventTypes toLowerCase query).contains row.eventType) =
      log.matching toLowerCase userId query := by
    refine List.filter_congr fun row _ => ?_
    rw [Bool.decide_and, Bool.beq_eq_decide_eq, List.contains_eq_mem]
    simp only [mem_resolveUserActivityEventTypes]
  have direction : (if query.order = some .oldest then UserActivityOrderDtoValue.oldest
      else .newest) = query.direction := by
    unfold UserActivityQueryDto.direction
    rcases query.order with _ | _ | _ <;> rfl
  have types : resolveUserActivityEventTypes toLowerCase (query.turnedTo page) =
      resolveUserActivityEventTypes toLowerCase query := rfl
  have number : ((query.turnedTo page).page.map Subtype.val).getD 1 = page + 1 := rfl
  have order : (query.turnedTo page).order = query.order := rfl
  have size : ((query.turnedTo page).pageSize.map Subtype.val).getD 12 = query.size := rfl
  simp only [activityPage, getActivity, types, number, order, size, found, direction]
  split
  · rename_i none
    have nothing : log.matching toLowerCase userId query = [] := by
      rw [← found, List.length_eq_zero_iff.mp none]
      simp
    have arranged := (ties.arranges page query.direction []).perm.eq_nil
    have pages : pagesOf query.size 0 = 0 := by
      rw [pagesOf, Nat.zero_add]
      exact Nat.div_eq_of_lt (Nat.sub_lt size_pos Nat.one_pos)
    rw [nothing, arranged, List.length_nil, pages]
    simp [pageOf]
  · rfl

theorem totalPages_eq : totalPages toLowerCase log ties userId query =
    pagesOf query.size (log.matching toLowerCase userId query).length := by
  rw [totalPages, activityPage_eq]

/-- The feed is the one of the pages of the matching events. -/
theorem activityFeed_eq : activityFeed toLowerCase log ties userId query =
    (feed query.size (fun page => ties.arrange (page - 1) query.direction
      (log.matching toLowerCase userId query))
      (pagesOf query.size (log.matching toLowerCase userId query).length)).map presented := by
  rw [activityFeed, totalPages_eq, feed, List.map_flatMap]
  simp only [activityPage_eq, Nat.add_sub_cancel]

theorem inOrder_presented {first second : SecurityEventRow} {order : UserActivityOrderDtoValue} :
    inOrder order (presented first) (presented second) ↔
      sortKey order first ≤ sortKey order second := by
  cases order with
  | newest => exact Int.neg_le_neg_iff.symm
  | oldest => exact Iff.rfl

theorem presented_injective_on {events : List SecurityEventRow}
    (keyed : (events.map (·.id)).Nodup) : (events.map presented).Nodup := by
  refine List.Nodup.of_map (fun item => item.id) ?_
  rw [List.map_map]
  exact keyed

theorem matching_keyed : ((log.matching toLowerCase userId query).map (·.id)).Nodup :=
  log.keyed.sublist (List.filter_sublist.map _)

/-- The answers partition the feed when the pages partition the matching events. -/
theorem partitionsActivity_of_partitions
    (partitions : Partitions (sortKey query.direction) query.size
      (log.matching toLowerCase userId query) fun page => ties.arrange (page - 1) query.direction
        (log.matching toLowerCase userId query)) :
    PartitionsActivity toLowerCase log ties userId query := by
  obtain ⟨once, ordered, rest⟩ := partitions
  refine ⟨fun page => ?_, ?_, ?_, fun page beyond => ?_⟩
  · rw [activityPage_eq, totalPages_eq]
  · rw [activityFeed_eq]
    exact once.map presented
  · rw [activityFeed_eq]
    exact List.pairwise_map.mpr (ordered.imp inOrder_presented.mpr)
  · rw [totalPages_eq] at beyond
    have empty := rest (page + 1) (Nat.lt_succ_of_le beyond)
    rw [Nat.add_sub_cancel] at empty
    rw [activityPage_eq, empty]
    rfl

/-- A database that arranges the queries for these events so. -/
def UsersService.TieOrder.of (order : UserActivityOrderDtoValue) (events : List SecurityEventRow)
    (family : Nat → List SecurityEventRow)
    (arranges : ∀ page, Arranges (sortKey order) events (family page)) : TieOrder where
  arrange call asked rows :=
    if asked = order ∧ rows = events then family (call + 1) else stable (sortKey asked) rows
  arranges call asked rows := by
    split
    · rename_i same
      obtain ⟨rfl, rfl⟩ := same
      exact arranges (call + 1)
    · exact arranges_stable _ _

/-- Where a time has events on both sides of the end of a page, a database can show one twice. -/
theorem unsplit_of_partitionsActivity
    (partitions : ∀ ties, PartitionsActivity toLowerCase log ties userId query) (page : Nat) :
    Unsplit (sortKey query.direction) (log.matching toLowerCase userId query)
      (page * query.size) := by
  by_contra split
  obtain ⟨family, arranges, twice⟩ := exists_twice size_pos split
  have once := (partitions (.of query.direction _ family arranges)).once
  rw [activityFeed_eq] at once
  have distinct := once.nodup_iff.mpr (presented_injective_on matching_keyed)
  refine twice (List.Nodup.of_map presented ?_)
  simpa [feed, TieOrder.of] using distinct

/-- However the database orders events of one time, the pages partition the feed, exactly when no
time has matching events on both sides of the end of a page. -/
theorem activity_partitions_iff (toLowerCase : String → String) (log : EventLog) (userId : UserId)
    (query : UserActivityQueryDto) :
    (∀ ties, PartitionsActivity toLowerCase log ties userId query) ↔
      ∀ page, Unsplit (sortKey query.direction) (log.matching toLowerCase userId query)
        (page * query.size) :=
  ⟨unsplit_of_partitionsActivity, fun unsplit ties => partitionsActivity_of_partitions
    (partitions_of_unsplit size_pos (fun _ => ties.arranges _ _ _) unsplit)⟩

/-! ### Two events of one time -/

/-- Two logins at one time. -/
def twoLogins : EventLog where
  rows := [⟨0, .loginSuccess, some 7, none, 100⟩, ⟨1, .loginSuccess, some 7, none, 100⟩]
  keyed := by decide

/-- One event on each page. -/
def oneByOne : UserActivityQueryDto := ⟨none, some ⟨1, by decide⟩, none, none, none⟩

/-- One of them may be shown twice and the other never. -/
theorem activity_not_partitioned :
    ¬ ∀ (toLowerCase : String → String) (log : EventLog) (ties : TieOrder) (userId : UserId)
      (query : UserActivityQueryDto), PartitionsActivity toLowerCase log ties userId query := by
  intro partitions
  have unsplit := unsplit_of_partitionsActivity (fun ties =>
    partitions id twoLogins ties 7 oneByOne) 1
  exact unsplit ⟨0, .loginSuccess, some 7, none, 100⟩ (by decide) (by decide)

end GraconAuth
