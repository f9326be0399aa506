/-
This file is about two patches of one user's preferences that are in flight
together, one of the document field and one of the meeting field. A patch reads the
whole row, fills the field it omits from what it has read and saves both fields. When
both patches read before either saves, the later save puts the old value of the other
field back.
-/

import GraconAuth.CanonicalPreferences
import GraconAuth.Gathering

namespace GraconAuth

open Interleaving Program Rows

/-! ### Two patches -/

/-- A patch that supplies the document field only. -/
def documentPatch (userId : UserId) (values : PreferenceValues) : PreferenceRequest :=
  .updatePreferences userId ⟨some values, none⟩

/-- A patch that supplies the meeting field only. -/
def meetingPatch (userId : UserId) (values : PreferenceValues) : PreferenceRequest :=
  .updatePreferences userId ⟨none, some values⟩

abbrev PreferenceEntry :=
  Entry PreferenceTable PreferenceEffect.Reply Failure PreferenceRequest

/-- The pools of the preferences. -/
abbrev PreferencePool :=
  Pool PreferenceTable PreferenceEffect.Reply Failure PreferenceRequest UserPreferencesResponse

/-- The stored row has the normal form of the documents and of the meetings that the patches
supply. -/
def KeepsBoth (userId : UserId) (documents meetings : PreferenceValues) (table : PreferenceTable) :
    Prop :=
  ∃ row, table.findUnique userId = some row ∧
    normalizeUserInviteVerificationPreferences (some documents) "Document invitation defaults" =
      .ok row.defaultDocumentInviteVerifications ∧
    normalizeUserInviteVerificationPreferences (some meetings) "Meeting invitation defaults" =
      .ok row.defaultMeetingInviteVerifications

/-- Whatever this call has done it did before the others did anything. -/
def WentFirst (history : List PreferenceEntry) (thread : Nat) : Prop :=
  history.Pairwise fun newer older => newer.thread = thread → older.thread = thread

/-- The patch that saves first supplies what is stored already. The call `0` is the one of the
documents. -/
def RepeatsStored (userId : UserId) (documents meetings : PreferenceValues)
    (initial : PreferenceTable) (history : List PreferenceEntry) : Prop :=
  if history.head?.map Entry.thread = some 0 then
    normalizeUserInviteVerificationPreferences (some meetings) "Meeting invitation defaults" =
      normalizeUserInviteVerificationPreferences
        ((initial.findUnique userId).map (·.defaultMeetingInviteVerifications))
        "Meeting invitation defaults"
  else
    normalizeUserInviteVerificationPreferences (some documents) "Document invitation defaults" =
      normalizeUserInviteVerificationPreferences
        ((initial.findUnique userId).map (·.defaultDocumentInviteVerifications))
        "Document invitation defaults"

/-! ### A lost patch -/

/-- Consecutive steps of one patch, with no failure. -/
def patchSteps (thread count : Nat) : List (Move Bool PreferenceRequest) :=
  List.replicate count (.advance thread false)

/-- What a schedule of the two patches of the user `0` leads to from an empty table. -/
def patchedTogether (moves : List (Move Bool PreferenceRequest)) : PreferencePool :=
  (Pool.gathered preferenceService [] [documentPatch 0 [.EMAIL_OTP],
    meetingPatch 0 [.IDENTITY_VERIFICATION]]).playAll preferenceService
    (Referee.strict Regime.free.closed) moves

theorem patchedTogether_gathers (moves : List (Move Bool PreferenceRequest)) :
    Gathers preferenceService Regime.free [] [documentPatch 0 [.EMAIL_OTP],
      meetingPatch 0 [.IDENTITY_VERIFICATION]] (patchedTogether moves) :=
  Pool.playAll_steps (Referee.strict_upholds _) _ moves

/-- Both patches read, then both save. -/
def bothRead : List (Move Bool PreferenceRequest) :=
  patchSteps 0 1 ++ patchSteps 1 1 ++ patchSteps 0 1 ++ patchSteps 1 1

/-- Of two patches that both succeed one can be lost. -/
theorem patches_not_kept :
    ¬ ∀ (userId : UserId) (documents meetings : PreferenceValues) (initial : PreferenceTable)
      (pool : PreferencePool) (first second : UserPreferencesResponse),
      Gathers preferenceService Regime.free initial
          [documentPatch userId documents, meetingPatch userId meetings] pool →
        pool.calls.map (·.rest) = [.done first, .done second] →
          KeepsBoth userId documents meetings pool.world.state := by
  intro kept
  have lost := kept 0 [.EMAIL_OTP] [.IDENTITY_VERIFICATION] [] _
    ⟨[.EMAIL_OTP], [.NO_VERIFICATION]⟩ ⟨[.NO_VERIFICATION], [.IDENTITY_VERIFICATION]⟩
    (patchedTogether_gathers bothRead) rfl
  obtain ⟨row, found, documents, _⟩ := lost
  have stored : (patchedTogether bothRead).world.state.findUnique 0 =
      some ⟨0, [.NO_VERIFICATION], [.IDENTITY_VERIFICATION]⟩ := rfl
  rw [stored] at found
  cases found
  cases documents

/-! ### What a patch does -/

/-- A patch reads first of all, and then saves what comes of what it has read. -/
def patching : PreferenceRequest → List PreferenceEvent → PreferenceEffect → Prop
  | .updatePreferences userId _, past, .userPreferenceFindUnique asked =>
    past = [] ∧ asked = userId
  | .updatePreferences userId dto, past, .userPreferenceUpsert row =>
    ∃ found patched, past = [⟨.userPreferenceFindUnique userId, .ok found⟩] ∧
      patchedPreferences dto found = .ok patched ∧ row = patched.row userId
  | .getPreferences _, _, _ => True

/-- What a patch has done that has read a row and has saved what comes of it. -/
def PatchDone (userId : UserId) (dto : UpdateUserPreferencesDto)
    (found : Option UserPreferenceRow) (patched : UserPreferencesResponse)
    (past : List PreferenceEvent) : Prop :=
  patchedPreferences dto found = .ok patched ∧ ∃ saved,
    past = [⟨.userPreferenceUpsert (patched.row userId), .ok saved⟩,
      ⟨.userPreferenceFindUnique userId, .ok found⟩]

/-- A patch that succeeds has read and saved. -/
def patchEnds : PreferenceRequest → List PreferenceEvent →
    Except Failure UserPreferencesResponse → Prop
  | .updatePreferences userId dto, past, .ok _ =>
    ∃ found patched, PatchDone userId dto found patched past
  | _, _, _ => True

/-- The rule of the calls on the preferences. -/
def patchConduct (request : PreferenceRequest) :
    Conduct PreferenceEffect.Reply Failure where
  expects _ := True
  allows := patching request

theorem serve_patching (request : PreferenceRequest) :
    (preferenceService.serve request).Follows (patchConduct request) (patchEnds request) [] := by
  cases request with
  | getPreferences userId =>
    exact follows_perform_bind.mpr ⟨trivial, fun _ _ => follows_ofOutcome.mpr trivial,
      fun _ _ => trivial⟩
  | updatePreferences userId dto =>
    refine follows_perform_bind.mpr ⟨⟨rfl, rfl⟩, fun found _ => ?_, fun _ _ => trivial⟩
    cases merged : patchedPreferences dto found with
    | error failure => trivial
    | ok patched =>
      refine follows_perform_bind.mpr ⟨⟨found, patched, rfl, merged, rfl⟩, fun saved _ => ?_,
        fun _ _ => trivial⟩
      refine follows_ofOutcome.mpr ?_
      cases formatUserPreferences (some saved) with
      | error failure => trivial
      | ok response => exact ⟨found, patched, merged, saved, rfl⟩

/-- A patch of a gathering that has succeeded has read and saved. -/
theorem patchDone_of_gathers {initial : PreferenceTable} {requests : List PreferenceRequest}
    {pool : PreferencePool} (gathers : Gathers preferenceService Regime.free initial requests pool)
    {thread : Nat} {userId : UserId} {dto : UpdateUserPreferencesDto}
    {response : UserPreferencesResponse}
    (asked : requests[thread]? = some (.updatePreferences userId dto))
    (succeeded : (pool.calls.map Call.rest)[thread]? = some (.done response)) :
    ∃ found patched, PatchDone userId dto found patched (pool.world.past thread) :=
  gathers.ended (fun _ _ _ _ _ _ => trivial) (fun request _ => serve_patching request)
    (show pool.calls[thread]? = some ⟨_, .ofOutcome (.ok response)⟩ from
      gathers.call asked succeeded)

/-- A field that a patch supplies is normalised, and one that it omits is the normal form of what
the patch has read. -/
theorem patchedPreferences_fields {dto : UpdateUserPreferencesDto}
    {found : Option UserPreferenceRow} {patched : UserPreferencesResponse}
    (merged : patchedPreferences dto found = .ok patched) :
    normalizeUserInviteVerificationPreferences
        (dto.defaultDocumentInviteVerifications.or
          (found.map (·.defaultDocumentInviteVerifications))) "Document invitation defaults" =
        .ok patched.defaultDocumentInviteVerifications ∧
      normalizeUserInviteVerificationPreferences
        (dto.defaultMeetingInviteVerifications.or
          (found.map (·.defaultMeetingInviteVerifications))) "Meeting invitation defaults" =
        .ok patched.defaultMeetingInviteVerifications := by
  unfold patchedPreferences at merged
  cases formatted : formatUserPreferences found with
  | error failure =>
    rw [formatted] at merged
    cases merged
  | ok current =>
    rw [formatted] at merged
    obtain ⟨documents, meetings⟩ := normalizeBoth_ok.mp merged
    obtain ⟨oldDocuments, oldMeetings⟩ := normalizeBoth_ok.mp formatted
    constructor
    · cases given : dto.defaultDocumentInviteVerifications with
      | none =>
        rw [given, Option.getD_none, (normalizes _ _).canonical _ oldDocuments] at documents
        rw [Option.none_or, oldDocuments, documents]
      | some values => rwa [given] at documents
    · cases given : dto.defaultMeetingInviteVerifications with
      | none =>
        rw [given, Option.getD_none, (normalizes _ _).canonical _ oldMeetings] at meetings
        rw [Option.none_or, oldMeetings, meetings]
      | some values => rwa [given] at meetings

/-! ### Who saves last -/

section History

variable {initial : PreferenceTable} {requests : List PreferenceRequest}
  {world : World PreferenceTable PreferenceEffect.Reply Failure PreferenceRequest}
  (chronicle : Chronicle preferenceService (Regime.free.among requests) patchConduct initial world)

include chronicle

/-- The row that has just been saved is stored. -/
theorem stored_of_saved {saving : PreferenceEntry} {older : List PreferenceEntry}
    (split : world.history = saving :: older) {row saved : UserPreferenceRow}
    (saves : saving.event = ⟨.userPreferenceUpsert row, .ok saved⟩) :
    world.state.findUnique row.userId = some row := by
  have admissible := (chronicle.latest split).2
  have same := chronicle.state_eq
  rw [split] at same
  obtain ⟨thread, request, before, effect, reply, after⟩ := saving
  cases saves
  rcases performs_userPreferenceUpsert admissible.performs with ⟨impossible, _⟩ | ⟨_, stored⟩
  · cases impossible
  · have upserted : world.state = before.upsert row := same.trans stored
    rw [upserted]
    exact findUnique_upsert before row

/-- While nothing has been saved the table is as it was. -/
theorem unsaved (reads : ∀ entry ∈ world.history, ∃ userId found,
    entry.event = ⟨.userPreferenceFindUnique userId, .ok found⟩) : world.state = initial := by
  induction chronicle with
  | start => rfl
  | record earlier admissible inductionHypothesis =>
    obtain ⟨now, before⟩ := List.forall_mem_cons.mp reads
    obtain ⟨userId, found, read⟩ := now
    rename_i entry
    obtain ⟨thread, request, between, effect, reply, after⟩ := entry
    cases read
    have kept := (performs_userPreferenceFindUnique admissible.performs).1
    rw [World.record_state]
    exact kept.trans (admissible.current.trans (inductionHypothesis before))

end History

/-- What is read is stored. -/
theorem found_of_read {requests : List PreferenceRequest}
    {earlier : World PreferenceTable PreferenceEffect.Reply Failure PreferenceRequest}
    {reading : PreferenceEntry}
    (admissible : Admissible preferenceService (Regime.free.among requests) patchConduct earlier
      reading) {userId : UserId} {found : Option UserPreferenceRow}
    (reads : reading.event = ⟨.userPreferenceFindUnique userId, .ok found⟩) :
    found = reading.before.findUnique userId := by
  obtain ⟨thread, request, before, effect, reply, after⟩ := reading
  cases reads
  obtain ⟨_, impossible | answered⟩ := performs_userPreferenceFindUnique admissible.performs
  · cases impossible
  · exact Except.ok.inj answered


/-- A call that has read before anything was saved has read what was stored at first. -/
theorem found_of_unsaved {initial : PreferenceTable} {requests : List PreferenceRequest}
    {world : World PreferenceTable PreferenceEffect.Reply Failure PreferenceRequest}
    (chronicle : Chronicle preferenceService (Regime.free.among requests) patchConduct initial
      world)
    (reads : ∀ entry ∈ world.history, ∃ userId found,
      entry.event = ⟨.userPreferenceFindUnique userId, .ok found⟩)
    {reading : PreferenceEntry} (member : reading ∈ world.history) {userId : UserId}
    {found : Option UserPreferenceRow}
    (read : reading.event = ⟨.userPreferenceFindUnique userId, .ok found⟩) :
    found = initial.findUnique userId := by
  obtain ⟨newer, older, split⟩ := List.append_of_mem member
  obtain ⟨earlier, admissible⟩ := chronicle.admissible split
  have untouched := unsaved earlier fun entry inside => reads entry (by
    rw [split]
    exact List.mem_append_right _ (List.mem_cons_of_mem _ inside))
  rw [found_of_read admissible read, ← untouched]

section Overlaps

variable {initial : PreferenceTable} {requests : List PreferenceRequest}
  {world : World PreferenceTable PreferenceEffect.Reply Failure PreferenceRequest}
  {one two : Nat} {userId : UserId}

/-- Two calls that have each only read have changed nothing yet. -/
theorem reads_of_pasts (threads : ∀ entry ∈ world.history, entry.thread = one ∨ entry.thread = two)
    {foundOne foundTwo : Option UserPreferenceRow}
    (pastOne : world.past one = [⟨.userPreferenceFindUnique userId, .ok foundOne⟩])
    (pastTwo : world.past two = [⟨.userPreferenceFindUnique userId, .ok foundTwo⟩]) :
    ∀ entry ∈ world.history, ∃ userId found,
      entry.event = ⟨.userPreferenceFindUnique userId, .ok found⟩ := by
  intro entry member
  rcases threads entry member with ofOne | ofTwo
  · have done : entry.event ∈ world.past one := World.mem_past.mpr ⟨entry, member, ofOne, rfl⟩
    rw [pastOne] at done
    exact ⟨_, _, List.mem_singleton.mp done⟩
  · have done : entry.event ∈ world.past two := World.mem_past.mpr ⟨entry, member, ofTwo, rfl⟩
    rw [pastTwo] at done
    exact ⟨_, _, List.mem_singleton.mp done⟩

/-- When the save of the first call comes after the read of the last one, the last one has read
what was stored before both. -/
theorem read_together (apart : one ≠ two) {next : PreferenceEntry} {oldest : List PreferenceEntry}
    (chronicle : Chronicle preferenceService (Regime.free.among requests) patchConduct initial
      ⟨next.before, oldest⟩)
    (threads : ∀ entry ∈ oldest, entry.thread = one ∨ entry.thread = two)
    (ofOne : next.thread = one) {firstFound lastFound : Option UserPreferenceRow}
    (oldestOne : World.past ⟨next.before, oldest⟩ one =
      [⟨.userPreferenceFindUnique userId, .ok firstFound⟩])
    (oldestTwo : World.past ⟨next.before, oldest⟩ two =
      [⟨.userPreferenceFindUnique userId, .ok lastFound⟩]) :
    ¬WentFirst (next :: oldest) one ∧ lastFound = initial.findUnique userId := by
  have reads := reads_of_pasts threads oldestOne oldestTwo
  have done : (⟨.userPreferenceFindUnique userId, .ok lastFound⟩ : PreferenceEvent) ∈
      World.past ⟨next.before, oldest⟩ two := by
    rw [oldestTwo]
    exact List.mem_singleton_self _
  obtain ⟨reading, inside, thread, read⟩ := World.mem_past.mp done
  refine ⟨fun wentFirst => ?_, found_of_unsaved chronicle reads inside read⟩
  have earlier := (List.pairwise_cons.mp wentFirst).1 reading inside ofOne
  exact apart (earlier.symm.trans thread)

/-- When the last call reads after the first one has saved, it reads the row of the first. -/
theorem read_later (apart : one ≠ two) {next : PreferenceEntry} {oldest : List PreferenceEntry}
    (chronicle : Chronicle preferenceService (Regime.free.among requests) patchConduct initial
      ⟨next.before, oldest⟩)
    (admissible : Admissible preferenceService (Regime.free.among requests) patchConduct
      ⟨next.before, oldest⟩ next)
    (threads : ∀ entry ∈ oldest, entry.thread = one ∨ entry.thread = two)
    (ofTwo : next.thread = two) {lastFound : Option UserPreferenceRow}
    {firstRow firstSaved : UserPreferenceRow} {rest : List PreferenceEvent}
    (read : next.event = ⟨.userPreferenceFindUnique userId, .ok lastFound⟩)
    (ofUser : firstRow.userId = userId)
    (oldestOne : World.past ⟨next.before, oldest⟩ one =
      ⟨.userPreferenceUpsert firstRow, .ok firstSaved⟩ :: rest)
    (oldestTwo : World.past ⟨next.before, oldest⟩ two = []) :
    WentFirst (next :: oldest) one ∧ lastFound = some firstRow := by
  have ofOne : ∀ entry ∈ oldest, entry.thread = one := by
    intro entry member
    refine (threads entry member).resolve_right fun ofTwo => ?_
    have done : entry.event ∈ World.past ⟨next.before, oldest⟩ two :=
      World.mem_past.mpr ⟨entry, member, ofTwo, rfl⟩
    rw [oldestTwo] at done
    exact List.not_mem_nil done
  constructor
  · refine List.pairwise_cons.mpr ⟨fun _ _ same => absurd (same.symm.trans ofTwo) apart, ?_⟩
    exact List.pairwise_of_forall_mem_list fun _ _ entry member _ => ofOne entry member
  · match oldest, oldestOne, ofOne, chronicle with
    | first :: rest, oldestOne, ofOne, chronicle =>
      obtain rfl := ofOne first List.mem_cons_self
      have saved := (World.past_cons_self first.before oldestOne).1
      subst ofUser
      rw [found_of_read admissible read]
      exact stored_of_saved chronicle rfl saved

/-- Of two patches one has done the latest thing. -/
theorem latest_of_two (threads : ∀ entry ∈ world.history, entry.thread = one ∨ entry.thread = two)
    {dto : UpdateUserPreferencesDto} {found : Option UserPreferenceRow}
    {patched : UserPreferencesResponse}
    (done : PatchDone userId dto found patched (world.past one)) :
    world.history.head?.map Entry.thread = some two ∨
      world.history.head?.map Entry.thread = some one := by
  obtain ⟨_, saved, past⟩ := done
  cases history : world.history with
  | nil => simp [World.past, history] at past
  | cons latest older =>
    rw [history] at threads
    rcases threads latest List.mem_cons_self with first | second
    · exact .inr (congrArg some first)
    · exact .inl (congrArg some second)

/-- Of two patches that have both saved, the one that saves last stores its row. It has read the
row of the other patch when that one went first, and otherwise what was stored before both. -/
theorem last_saved (apart : one ≠ two)
    (chronicle : Chronicle preferenceService (Regime.free.among requests) patchConduct initial
      world)
    (threads : ∀ entry ∈ world.history, entry.thread = one ∨ entry.thread = two)
    (last : world.history.head?.map Entry.thread = some two)
    {firstDto lastDto : UpdateUserPreferencesDto}
    {firstFound lastFound : Option UserPreferenceRow}
    {firstPatched lastPatched : UserPreferencesResponse}
    (first : PatchDone userId firstDto firstFound firstPatched (world.past one))
    (second : PatchDone userId lastDto lastFound lastPatched (world.past two)) :
    world.state.findUnique userId = some (lastPatched.row userId) ∧
      ¬WentFirst world.history two ∧
      ((WentFirst world.history one ∧ lastFound = some (firstPatched.row userId)) ∨
        (¬WentFirst world.history one ∧ lastFound = initial.findUnique userId)) := by
  obtain ⟨state, history⟩ := world
  obtain ⟨_, firstSaved, pastOne⟩ := first
  obtain ⟨_, lastSaved, pastTwo⟩ := second
  match history, last with
  | saving :: older, last =>
    obtain rfl : saving.thread = two := Option.some.inj last
    obtain ⟨saves, pastTwo⟩ := World.past_cons_self saving.before pastTwo
    have pastOne := World.past_cons_other saving.before (Ne.symm apart) pastOne
    have before := (chronicle.latest rfl).1
    have threads := (List.forall_mem_cons.mp threads).2
    -- The save that came last is not one of `one`.
    have drop : WentFirst (saving :: older) one ↔ WentFirst older one :=
      List.pairwise_cons.trans
        (and_iff_right fun _ _ same => absurd same (Ne.symm apart))
    have ofOne : ∃ entry ∈ older, entry.thread = one := by
      have done : (⟨.userPreferenceFindUnique userId, .ok firstFound⟩ : PreferenceEvent) ∈
          World.past ⟨saving.before, older⟩ one := by
        rw [pastOne]
        exact List.mem_cons_of_mem _ (List.mem_singleton_self _)
      obtain ⟨entry, inside, thread, _⟩ := World.mem_past.mp done
      exact ⟨entry, inside, thread⟩
    obtain ⟨entry, inside, thread⟩ := ofOne
    have notLast : ¬WentFirst (saving :: older) saving.thread := fun wentFirst =>
      apart (thread.symm.trans ((List.pairwise_cons.mp wentFirst).1 entry inside rfl))
    refine ⟨stored_of_saved chronicle rfl saves, notLast, ?_⟩
    rw [drop]
    match older, inside with
    | next :: oldest, _ =>
      obtain ⟨beforeNext, admissible⟩ := before.latest rfl
      have oldestThreads := (List.forall_mem_cons.mp threads).2
      rcases (List.forall_mem_cons.mp threads).1 with ofOne | ofTwo
      · obtain rfl := ofOne
        exact .inr (read_together apart beforeNext oldestThreads rfl
          (World.past_cons_self next.before pastOne).2
          (World.past_cons_other next.before apart pastTwo))
      · have pastTwo := ofTwo ▸ pastTwo
        obtain ⟨read, oldestTwo⟩ := World.past_cons_self next.before pastTwo
        have oldestOne := World.past_cons_other next.before
          (fun same => apart (same.symm.trans ofTwo)) pastOne
        exact .inl (read_later apart beforeNext admissible oldestThreads ofTwo read rfl oldestOne
          (ofTwo ▸ oldestTwo))

end Overlaps

/-! ### When no patch is lost -/

/-- Whether both patches are kept can be read off the row that is stored. -/
theorem keepsBoth_iff {userId : UserId} {documents meetings : PreferenceValues}
    {table : PreferenceTable} {row : UserPreferenceRow}
    (stored : table.findUnique userId = some row) :
    KeepsBoth userId documents meetings table ↔
      normalizeUserInviteVerificationPreferences (some documents) "Document invitation defaults" =
          .ok row.defaultDocumentInviteVerifications ∧
        normalizeUserInviteVerificationPreferences (some meetings) "Meeting invitation defaults" =
          .ok row.defaultMeetingInviteVerifications := by
  constructor
  · rintro ⟨other, found, both⟩
    rw [stored] at found
    cases found
    exact both
  · exact fun both => ⟨row, stored, both⟩

/-- Two patches that both succeed are both kept exactly when one of them has saved before the other
has read, or the one that saves first supplies what was stored already. -/
theorem patches_kept_iff (userId : UserId) (documents meetings : PreferenceValues)
    (initial : PreferenceTable) (pool : PreferencePool) (first second : UserPreferencesResponse)
    (gathers : Gathers preferenceService Regime.free initial
      [documentPatch userId documents, meetingPatch userId meetings] pool)
    (succeeded : pool.calls.map (·.rest) = [.done first, .done second]) :
    KeepsBoth userId documents meetings pool.world.state ↔
      WentFirst pool.world.history 0 ∨ WentFirst pool.world.history 1 ∨
        RepeatsStored userId documents meetings initial pool.world.history := by
  have chronicle := (gathers.reachable fun _ _ => rfl).chronicle
    (fun _ _ _ _ _ _ _ => rfl) (fun _ _ _ _ _ _ => trivial)
    fun request _ => (serve_patching request).abides
  obtain ⟨found, patched, saved⟩ : ∃ found patched,
      PatchDone userId _ found patched (pool.world.past 0) :=
    patchDone_of_gathers gathers rfl (by rw [succeeded]; rfl)
  obtain ⟨foundToo, patchedToo, savedToo⟩ : ∃ found patched,
      PatchDone userId _ found patched (pool.world.past 1) :=
    patchDone_of_gathers gathers rfl (by rw [succeeded]; rfl)
  have threads : ∀ entry ∈ pool.world.history, entry.thread = 0 ∨ entry.thread = 1 := by
    intro entry member
    have bound : entry.thread < 2 := gathers.thread_lt member
    omega
  have documentsKept : normalizeUserInviteVerificationPreferences (some documents)
      "Document invitation defaults" = .ok patched.defaultDocumentInviteVerifications :=
    (patchedPreferences_fields saved.1).1
  have meetingsRead : normalizeUserInviteVerificationPreferences
      (found.map (·.defaultMeetingInviteVerifications)) "Meeting invitation defaults" =
        .ok patched.defaultMeetingInviteVerifications :=
    (patchedPreferences_fields saved.1).2
  have documentsRead : normalizeUserInviteVerificationPreferences
      (foundToo.map (·.defaultDocumentInviteVerifications)) "Document invitation defaults" =
        .ok patchedToo.defaultDocumentInviteVerifications :=
    (patchedPreferences_fields savedToo.1).1
  have meetingsKept : normalizeUserInviteVerificationPreferences (some meetings)
      "Meeting invitation defaults" = .ok patchedToo.defaultMeetingInviteVerifications :=
    (patchedPreferences_fields savedToo.1).2
  rcases latest_of_two threads saved with last | last
  · obtain ⟨stored, notSecond, early | late⟩ :=
      last_saved (by decide) chronicle threads last saved savedToo
    · obtain ⟨wentFirst, rfl⟩ := early
      have repeated := (normalizes _ _).canonical _ documentsKept "Document invitation defaults"
      refine iff_of_true ((keepsBoth_iff stored).mpr ⟨?_, meetingsKept⟩) (.inl wentFirst)
      exact documentsKept.trans (repeated.symm.trans documentsRead)
    · obtain ⟨notFirst, rfl⟩ := late
      rw [keepsBoth_iff stored, or_iff_right notFirst, or_iff_right notSecond, RepeatsStored,
        if_neg (by rw [last]; decide), documentsRead]
      exact and_iff_left meetingsKept
  · obtain ⟨stored, notFirst, early | late⟩ :=
      last_saved (by decide) chronicle (fun entry member => (threads entry member).symm) last
        savedToo saved
    · obtain ⟨wentFirst, rfl⟩ := early
      have repeated := (normalizes _ _).canonical _ meetingsKept "Meeting invitation defaults"
      refine iff_of_true ((keepsBoth_iff stored).mpr ⟨documentsKept, ?_⟩) (.inr (.inl wentFirst))
      exact meetingsKept.trans (repeated.symm.trans meetingsRead)
    · obtain ⟨notSecond, rfl⟩ := late
      rw [keepsBoth_iff stored, or_iff_right notFirst, or_iff_right notSecond, RepeatsStored,
        if_pos last, meetingsRead]
      exact and_iff_right documentsKept

/-- A patch after another one keeps both. -/
theorem patches_kept_iff_serial :
    KeepsBoth 0 [.EMAIL_OTP] [.IDENTITY_VERIFICATION]
      (patchedTogether (patchSteps 0 2 ++ patchSteps 1 2)).world.state := by
  refine (patches_kept_iff 0 [.EMAIL_OTP] [.IDENTITY_VERIFICATION] [] _
    ⟨[.EMAIL_OTP], [.NO_VERIFICATION]⟩ ⟨[.EMAIL_OTP], [.IDENTITY_VERIFICATION]⟩
    (patchedTogether_gathers _) rfl).mpr (.inl ?_)
  have threads : (patchedTogether (patchSteps 0 2 ++ patchSteps 1 2)).world.history.map
      Entry.thread = [1, 1, 0, 0] := rfl
  have ordered : [1, 1, 0, 0].Pairwise fun newer older => newer = 0 → older = 0 := by decide
  rw [← threads] at ordered
  exact List.pairwise_map.mp ordered

end GraconAuth
