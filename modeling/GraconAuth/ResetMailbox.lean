/-
This file is about reset links and mailboxes: a password is reset by a link that had
been mailed to the address that is the account's email by then. A link is mailed to
the email of the moment at which it is requested, and a change of the email replaces
the verification link of the account but not its reset links. Calls are served one
at a time.
-/

import GraconAuth.Histories
import GraconAuth.OwnedEmail

namespace GraconAuth

open Interleaving Program Rows

variable {runtime : Runtime} {before after : State} {trace : List ServiceEvent}

/-! ### The law -/

/-- The link that the call has followed to a new password. -/
def resetOf (served : ServiceServed) : Option PasswordResetService.ResetPasswordDto :=
  match served.request, served.outcome with
  | .resetPassword dto, .ok _ => some dto
  | _, _ => none

/-- The reset link that the event has mailed. -/
def resetMail : ServiceEvent → Option Mail
  | ⟨.sendMail mail, .ok _⟩ => if mail.template = .passwordReset then some mail else none
  | _ => none

/-- The links that a reset request has mailed. -/
def resetMails (served : ServiceServed) : List Mail :=
  match served.request with
  | .requestReset _ => served.trace.filterMap resetMail
  | _ => []

/-- The account that a reset request has found, with the token it has drawn for it. -/
def resetIssue (served : ServiceServed) : Option (UserRow × RawToken) :=
  match served.request with
  | .requestReset email =>
    (served.before.db.findUser (.byEmail email)).bind fun user =>
      (served.trace.findSome? drew).map fun token => (user, token)
  | _ => none

/-- Whenever a link has led to a new password, this holds of that call, of the link and of the
calls before it. -/
def AtResets (holds : ServiceServed → PasswordResetService.ResetPasswordDto →
    List ServiceServed → Prop) (log : List ServiceServed) : Prop :=
  ∀ past ∈ log.tails, ∀ reset ∈ past.head?, ∀ dto ∈ resetOf reset, holds reset dto past.tail

instance (holds : ServiceServed → PasswordResetService.ResetPasswordDto →
    List ServiceServed → Prop) [∀ reset dto older, Decidable (holds reset dto older)]
    (log : List ServiceServed) : Decidable (AtResets holds log) :=
  inferInstanceAs (Decidable (∀ past ∈ _, _))

/-- Reset links follow the mailbox: a link that leads to a new password had been mailed to the
address that is the account's email. A token is known by its digest. -/
def ResetsFollow (runtime : Runtime) : List ServiceServed → Prop :=
  AtResets fun reset dto older => ∃ issue ∈ older, ∃ mail ∈ resetMails issue,
    mail.token.map runtime.hash = some (runtime.hash dto.token) ∧
      reset.before.db.Addressed dto.userId mail.recipient

instance (runtime : Runtime) (log : List ServiceServed) : Decidable (ResetsFollow runtime log) :=
  inferInstanceAs (Decidable (AtResets _ log))

/-- When a link is followed, the account has the email that it had when the link was requested,
and the mail with the link went out. -/
def EmailsKept (runtime : Runtime) : List ServiceServed → Prop :=
  AtResets fun reset dto older => ∀ issue ∈ older, ∀ link ∈ resetIssue issue,
    runtime.hash link.2 = runtime.hash dto.token →
      resetMails issue ≠ [] ∧ reset.before.db.Addressed dto.userId link.1.email

instance (runtime : Runtime) (log : List ServiceServed) : Decidable (EmailsKept runtime log) :=
  inferInstanceAs (Decidable (AtResets _ log))

/-- The account `0` asks for a reset link at `a@x`. -/
def askReset : Request × List Choice :=
  (.requestReset "a@x", [{}, {}, { text := "r2" }, {}, {}, {}, {}, {}])

/-- The account follows that link. -/
def followReset : Request × List Choice :=
  (.resetPassword ⟨0, "r2", "new", "new"⟩, [{}, {}, {}, {}, {}, {}])

/-- The account changes its email between the two. -/
def resetAfterChange : List (Request × List Choice) := signedInSerially ++ [
  askReset,
  (.updateProfile ⟨⟨0, "a@x", some .full⟩, "15m"⟩ ⟨some "b@x", none⟩,
    [{}, {}, {}, {}, {}, { text := "r3" }, {}, {}, {}, {}, {}, {}]),
  followReset]

/-- A link that was sent to a replaced address sets the password. -/
theorem resets_not_follow_mailbox :
    ¬ ∀ (runtime : Runtime) (clock : Timestamp) (log : List ServiceServed) (state : State),
      SerialRun (service runtime) (State.empty clock) log state →
        (state.drawn.map runtime.hash).Nodup → ResetsFollow runtime log := by
  intro follow
  have followed := follow legibleRuntime 0 _ _ (playedSerially_run resetAfterChange)
    (by decide +kernel)
  exact absurd followed (by decide +kernel)

/-! ### Where the stored links come from -/

/-- The reset link that a statement stores: whose it is and the hash of its token. -/
def Statement.resetLink : Statement → Option (UserId × TokenHash)
  | .passwordResetTokenCreate data => some (data.userId, data.tokenHash)
  | _ => none

/-- The reset links that the event has stored. -/
def storedResets (event : ServiceEvent) : List (UserId × TokenHash) :=
  (executed event).filterMap Statement.resetLink

/-- The reset links that are stored, used or not. -/
def Database.resetLinks (db : Database) : List (UserId × TokenHash) :=
  db.passwordResetTokens.map fun row => (row.userId, row.tokenHash)

/-- A stored link was stored before the effect, or the effect has stored it. -/
theorem performs_resetLinks {state next : State} {effect : Effect}
    {reply : Except Failure effect.Reply}
    (performs : environment.Performs state effect reply next) {link : UserId × TokenHash}
    (stored : link ∈ next.db.resetLinks) :
    link ∈ state.db.resetLinks ∨ link ∈ storedResets ⟨effect, reply⟩ := by
  rcases performs_db performs with
    same | ⟨statements, event, ran⟩ | ⟨data, event, ran⟩ | ⟨log, same⟩
  · rw [same] at stored
    exact .inl stored
  · rw [event]
    refine runAll_preserves (fun db => ∀ link ∈ db.resetLinks, link ∈ state.db.resetLinks ∨
      link ∈ storedResets ⟨.execute statements, .ok ()⟩) ran ?_ (fun _ old => .inl old) link stored
    intro statement listed now later traced carried link stored
    cases carried with
    | passwordResetTokenUpdateMany userId =>
      refine traced link ?_
      rwa [Database.resetLinks, map_updateWhere (by simp)] at stored
    | passwordResetTokenUpdate id present =>
      refine traced link ?_
      rwa [Database.resetLinks, map_updateWhere (by simp)] at stored
    | passwordResetTokenCreate data =>
      rw [Database.resetLinks, List.map_append] at stored
      rcases List.mem_append.mp stored with old | new
      · exact traced link old
      · obtain rfl := List.mem_singleton.mp new
        exact .inr (List.mem_filterMap.mpr ⟨_, listed, rfl⟩)
    | _ => exact traced link stored
  · obtain ⟨_, _, _, _, resets, _⟩ := register_tables ran
    rw [Database.resetLinks, resets] at stored
    exact .inl stored
  · rw [same] at stored
    exact .inl stored

/-- A link stored after a run was stored before it, or the run has stored it. -/
theorem runs_resetLinks {Result : Type} {program : Async Result}
    {outcome : Except Failure Result}
    (run : Runs environment program before trace outcome after) {link : UserId × TokenHash}
    (stored : link ∈ after.db.resetLinks) :
    link ∈ before.db.resetLinks ∨ ∃ event ∈ trace, link ∈ storedResets event := by
  induction program generalizing before trace with
  | done result =>
    obtain ⟨_, _, rfl⟩ := run
    exact .inl stored
  | raise failure =>
    obtain ⟨_, _, rfl⟩ := run
    exact .inl stored
  | await effect resume inductionHypothesis =>
    obtain ⟨reply, between, rest, rfl, performs, inner⟩ := run
    rcases inductionHypothesis reply inner with old | ⟨event, member, new⟩
    · exact (performs_resetLinks performs old).imp id fun new => ⟨_, List.mem_cons_self, new⟩
    · exact .inr ⟨event, List.mem_cons_of_mem _ member, new⟩

/-- The effect stores no reset link. -/
def Effect.Linkless (effect : Effect) : Prop :=
  ∀ reply, storedResets ⟨effect, reply⟩ = []

theorem harmless_linkless {effect : Effect} (harmless : effect.Harmless) : effect.Linkless := by
  intro reply
  cases effect with
  | execute statements => exact harmless.elim
  | _ => rfl

theorem execute_linkless {statements : List Statement}
    (none : ∀ statement ∈ statements, statement.resetLink = none) :
    (Effect.execute statements).Linkless := by
  intro reply
  cases reply with
  | error failure => rfl
  | ok done => exact List.filterMap_eq_nil_iff.mpr none

/-- Only a reset request stores a reset link. -/
theorem awaits_linkless {request : Request} (other : ∀ email, request ≠ .requestReset email)
    {effect : Effect} (awaits : request.Awaits effect) : effect.Linkless := by
  cases effect with
  | execute statements =>
    refine execute_linkless fun statement listed => ?_
    have writes := awaits_writes awaits statement listed
    cases statement with
    | passwordResetTokenCreate data =>
      cases request with
      | requestReset email => exact absurd rfl (other email)
      | _ => exact writes.elim
    | _ => rfl
  | _ => exact fun _ => rfl

/-! ### What a reset request does -/

/-- What the event draws, stores and mails is this token, for this account. -/
structure IssuesReset (runtime : Runtime) (user : UserRow) (token : RawToken)
    (event : ServiceEvent) : Prop where
  draws : ∀ raw ∈ drew event, raw = token
  stores : ∀ link ∈ storedResets event, link = (user.id, runtime.hash token)
  mails : ∀ mail ∈ resetMail event, mail.recipient = user.email ∧ mail.token = some token

/-- The event neither stores nor mails a reset link. -/
def Unissued (event : ServiceEvent) : Prop :=
  storedResets event = [] ∧ resetMail event = none

/-- A request that has found an account issues one link for it. -/
theorem runs_issueReset {record : UserRecord} {outcome : Except Failure MessageResult}
    (run : Runs environment (PasswordResetService.requestResetFor runtime record) before trace
      outcome after) :
    (∀ event ∈ trace, Unissued event) ∨ ∃ token, trace.findSome? drew = some token ∧
      ∀ event ∈ trace, IssuesReset runtime record.user token event := by
  obtain ⟨reply, replaced, rest, rfl, performs, run⟩ := runs_perform_bind.mp run
  cases reply with
  | error failure =>
    obtain ⟨rfl, _, _⟩ := run
    exact .inl (by simp [Unissued, storedResets, executed, resetMail])
  | ok done =>
    rw [ofOutcome_ok, done_bind] at run
    obtain ⟨reply, drawn, rest, rfl, performs, run⟩ := runs_perform_bind.mp run
    obtain ⟨token, rfl, _⟩ := performs_randomToken performs
    rw [ofOutcome_ok, done_bind] at run
    -- Nothing after the draw draws again.
    have issues : ∀ event ∈ rest, ∀ reply,
        IssuesReset runtime record.user token ⟨event.effect, reply⟩ := by
      refine run.uses (?_ : Program.Uses (fun effect => ∀ reply,
        IssuesReset runtime record.user token ⟨effect, reply⟩) _)
      refine uses_bind (uses_perform fun _ => ?_) fun now => uses_bind
        (uses_rescue (uses_perform fun reply => ?_) fun _ => trivial) fun _ => uses_bind
        (send_uses fun reply => ?_) fun _ => uses_bind (uses_perform fun _ => ?_) fun _ => trivial
      · exact ⟨by simp [drew], by simp [storedResets, executed], by simp [resetMail]⟩
      · cases reply <;> exact ⟨by simp [drew],
          by simp [storedResets, executed, Statement.resetLink], by simp [resetMail]⟩
      · cases reply <;> exact ⟨by simp [drew], by simp [storedResets, executed],
          by simp [resetMail]⟩
      · exact ⟨by simp [drew], by simp [storedResets, executed], by simp [resetMail]⟩
    refine .inr ⟨token, rfl, List.forall_mem_cons.mpr ⟨?_, List.forall_mem_cons.mpr ⟨?_, ?_⟩⟩⟩
    · exact ⟨by simp [drew], by simp [storedResets, executed, Statement.resetLink],
        by simp [resetMail]⟩
    · exact ⟨by simp [drew], by simp [storedResets, executed], by simp [resetMail]⟩
    · exact fun event member => issues event member event.reply

/-- A reset request issues one link, for the account it has found, or none. -/
theorem runs_askReset {email : Email} {outcome : Except Failure MessageResult}
    (run : Runs environment (PasswordResetService.requestReset runtime email) before trace outcome
      after) :
    (∀ event ∈ trace, Unissued event) ∨ ∃ user token,
      before.db.findUser (.byEmail email) = some user ∧ trace.findSome? drew = some token ∧
        ∀ event ∈ trace, IssuesReset runtime user token event := by
  obtain ⟨reply, read, rest, rfl, performs, run⟩ := runs_perform_bind.mp run
  have reads : ∀ reply, Unissued ⟨.userFindUnique (.byEmail email), reply⟩ := fun _ => ⟨rfl, rfl⟩
  cases reply with
  | error failure =>
    obtain ⟨rfl, _, _⟩ := run
    exact .inl (List.forall_mem_singleton.mpr (reads _))
  | ok found =>
    obtain rfl := performs_userFindUnique performs
    rw [ofOutcome_ok, done_bind] at run
    split at run
    · refine .inl (List.forall_mem_cons.mpr ⟨reads _, fun event member => ?_⟩)
      refine run.uses (?_ : Program.Uses (fun effect => ∀ reply, Unissued ⟨effect, reply⟩) _)
        event member event.reply
      exact uses_bind (uses_bind (uses_perform fun _ => ⟨rfl, rfl⟩) fun _ => trivial) fun _ =>
        trivial
    · rename_i record active
      obtain ⟨found, _⟩ := Option.filter_eq_some_iff.mp active
      obtain ⟨user, located, rfl⟩ := Option.map_eq_some_iff.mp found
      rcases runs_issueReset run with unissued | ⟨token, drawn, issues⟩
      · exact .inl (List.forall_mem_cons.mpr ⟨reads _, unissued⟩)
      · refine .inr ⟨user, token, located, drawn, List.forall_mem_cons.mpr ⟨?_, issues⟩⟩
        exact ⟨by simp [drew], by simp [storedResets, executed], by simp [resetMail]⟩

/-- What a reset request has stored and mailed is the link that it has issued. -/
theorem issues_of_valid {served : ServiceServed} {email : Email}
    (valid : served.Valid (service runtime)) (asked : served.request = .requestReset email) :
    (∀ event ∈ served.trace, Unissued event) ∨ ∃ user token,
      resetIssue served = some (user, token) ∧
        ∀ event ∈ served.trace, IssuesReset runtime user token event := by
  obtain ⟨inner, ended, split, _, run⟩ := runs_serve_split valid.runs
  obtain ⟨request, before, trace, outcome, after⟩ := served
  dsimp only at asked split run
  subst asked split
  obtain ⟨answered, _, run⟩ := runs_wrapped run
  rcases runs_askReset run with unissued | ⟨user, token, located, drawn, issues⟩
  · refine .inl fun event member => ?_
    rcases List.mem_append.mp member with inside | last
    · exact unissued event inside
    · obtain rfl := List.mem_singleton.mp last
      exact ⟨rfl, rfl⟩
  · refine .inr ⟨user, token, ?_, fun event member => ?_⟩
    · simp [resetIssue, located, List.findSome?_append, drawn]
    · rcases List.mem_append.mp member with inside | last
      · exact issues event inside
      · obtain rfl := List.mem_singleton.mp last
        exact ⟨by simp [drew], by simp [storedResets, executed], by simp [resetMail]⟩

/-- What a reset request has issued is its own. -/
theorem drawn_of_resetIssue {served : ServiceServed} {user : UserRow} {token : RawToken}
    (issued : resetIssue served = some (user, token)) : token ∈ drawnBy served := by
  unfold resetIssue at issued
  split at issued
  · obtain ⟨found, _, same⟩ := Option.bind_eq_some_iff.mp issued
    obtain ⟨raw, drawn, same⟩ := Option.map_eq_some_iff.mp same
    obtain ⟨rfl, rfl⟩ := Prod.mk.inj same
    exact mem_drawnBy.mpr (List.exists_of_findSome?_eq_some drawn)
  · cases issued

/-- A link that a call has stored is one that it has issued. -/
theorem resetIssue_of_stored {served : ServiceServed} (valid : served.Valid (service runtime))
    {event : ServiceEvent} (member : event ∈ served.trace) {link : UserId × TokenHash}
    (stored : link ∈ storedResets event) :
    ∃ user token, resetIssue served = some (user, token) ∧
      link = (user.id, runtime.hash token) := by
  by_cases asked : ∃ email, served.request = .requestReset email
  · obtain ⟨email, asked⟩ := asked
    rcases issues_of_valid valid asked with unissued | ⟨user, token, issued, issues⟩
    · rw [(unissued event member).1] at stored
      cases stored
    · exact ⟨user, token, issued, (issues event member).stores link stored⟩
  · have other : ∀ email, served.request ≠ .requestReset email := fun email same =>
      asked ⟨email, same⟩
    have linkless : event.effect.Linkless := by
      rcases valid.runs.uses (serve_uses runtime served.request) event member with
        harmless | awaits | ⟨outcome, responds⟩
      · exact harmless_linkless harmless
      · exact awaits_linkless other awaits
      · rw [responds]
        exact fun _ => rfl
    rw [show storedResets event = [] from linkless event.reply] at stored
    cases stored

/-- A link that a reset request has mailed is the one that it has issued. -/
theorem resetIssue_of_mailed {served : ServiceServed} (valid : served.Valid (service runtime))
    {mail : Mail} (mailed : mail ∈ resetMails served) :
    ∃ user token, resetIssue served = some (user, token) ∧ mail.recipient = user.email ∧
      mail.token = some token := by
  unfold resetMails at mailed
  split at mailed
  · rename_i email asked
    obtain ⟨event, member, sent⟩ := List.mem_filterMap.mp mailed
    rcases issues_of_valid valid asked with unissued | ⟨user, token, issued, issues⟩
    · rw [(unissued event member).2] at sent
      cases sent
    · exact ⟨user, token, issued, (issues event member).mails mail sent⟩
  · cases mailed

/-- Every stored link was issued by a call of the log. -/
theorem resetIssue_of_resetLinks {clock : Timestamp} {log : List ServiceServed} {state : State}
    (serial : SerialRun (service runtime) (State.empty clock) log state)
    {link : UserId × TokenHash} (stored : link ∈ state.db.resetLinks) :
    ∃ issue ∈ log, ∃ user token, resetIssue issue = some (user, token) ∧
      link = (user.id, runtime.hash token) := by
  induction serial with
  | start => cases stored
  | @serve log served earlier valid inductionHypothesis =>
    rcases runs_resetLinks valid.runs stored with old | ⟨event, member, new⟩
    · obtain ⟨issue, older, issued⟩ := inductionHypothesis old
      exact ⟨issue, List.mem_cons_of_mem _ older, issued⟩
    · exact ⟨served, List.mem_cons_self, resetIssue_of_stored valid member new⟩

/-! ### What a reset consumes -/

/-- A reset consumes a link that is stored for its user. -/
theorem runs_resetPassword {dto : PasswordResetService.ResetPasswordDto} {result : MessageResult}
    (run : Runs environment (PasswordResetService.resetPassword runtime dto) before trace
      (.ok result) after) : (dto.userId, runtime.hash dto.token) ∈ before.db.resetLinks := by
  rcases runs_throwIf_bind.mp run with ⟨_, _, failed, _⟩ | ⟨_, run⟩
  · cases failed
  · unfold PasswordResetService.findValidToken at run
    rw [Program.bind_assoc] at run
    obtain ⟨reply, read, rest, rfl, performs, run⟩ := runs_perform_bind.mp run
    cases reply with
    | error failure =>
      obtain ⟨_, failed, _⟩ := run
      cases failed
    | ok record =>
      obtain rfl := performs_passwordResetTokenFindFirst performs
      rw [ofOutcome_ok, done_bind] at run
      cases found : before.db.findPasswordResetToken dto.userId (runtime.hash dto.token) with
      | none =>
        rw [found] at run
        obtain ⟨_, failed, _⟩ := run
        cases failed
      | some row =>
        obtain ⟨stored, owner, hash⟩ := findPasswordResetToken_some found
        rw [← owner, ← hash]
        exact List.mem_map_of_mem stored

theorem stored_of_resetOf {served : ServiceServed} (valid : served.Valid (service runtime))
    {dto : PasswordResetService.ResetPasswordDto} (reset : dto ∈ resetOf served) :
    (dto.userId, runtime.hash dto.token) ∈ served.before.db.resetLinks := by
  obtain ⟨inner, ended, _, _, run⟩ := runs_serve_split valid.runs
  obtain ⟨request, before, trace, outcome, after⟩ := served
  unfold resetOf at reset
  split at reset
  · rename_i asked answered
    dsimp only at asked answered run
    obtain rfl := Option.some.inj reset
    subst asked answered
    obtain ⟨answered, same, run⟩ := runs_wrapped run
    cases answered with
    | error failure => cases same
    | ok result => exact runs_resetPassword run
  · cases reset

/-! ### The runs in which the law holds -/

/-- In a run whose random tokens have distinct digests, reset links follow the mailbox exactly when
every account that follows one has kept its email since it was requested. -/
theorem resets_follow_mailbox_iff (runtime : Runtime) (clock : Timestamp)
    (log : List ServiceServed) (state : State)
    (serial : SerialRun (service runtime) (State.empty clock) log state)
    (distinct : (state.drawn.map runtime.hash).Nodup) :
    ResetsFollow runtime log ↔ EmailsKept runtime log := by
  refine forall₂_congr fun past suffix => forall₂_congr fun reset first =>
    forall₂_congr fun dto followed => ?_
  obtain ⟨newer, split⟩ := (List.mem_tails _ _).mp suffix
  obtain ⟨older, rfl⟩ : ∃ older, past = reset :: older :=
    ⟨past.tail, List.eq_cons_of_mem_head? first⟩
  rw [List.tail_cons]
  subst split
  obtain ⟨earlier, valid⟩ := serial.split
  have inside : ∀ issue ∈ older, issue ∈ newer ++ reset :: older := fun issue member =>
    List.mem_append_right _ (List.mem_cons_of_mem _ member)
  constructor
  · rintro ⟨mailing, member, mail, mailed, same, addressed⟩
    intro issue memberIssue ⟨user, token⟩ issued hash
    obtain ⟨found, raw, issuedMail, recipient, carried⟩ :=
      resetIssue_of_mailed (serial.valid (inside mailing member)) mailed
    rw [carried, Option.map_some, Option.some.injEq] at same
    obtain ⟨rfl, rfl⟩ := drawn_once serial distinct (inside issue memberIssue)
      (inside mailing member) (drawn_of_resetIssue issued) (drawn_of_resetIssue issuedMail)
      (hash.trans same.symm)
    obtain ⟨rfl, _⟩ := Prod.mk.inj (Option.some.inj (issued.symm.trans issuedMail))
    rw [recipient] at addressed
    exact ⟨List.ne_nil_of_mem mailed, addressed⟩
  · intro kept
    obtain ⟨issue, member, user, token, issued, link⟩ :=
      resetIssue_of_resetLinks earlier (stored_of_resetOf valid followed)
    obtain ⟨owner, hash⟩ := Prod.mk.inj link
    obtain ⟨sent, addressed⟩ := kept issue member (user, token) issued hash.symm
    obtain ⟨mail, mailed⟩ := List.exists_mem_of_ne_nil _ sent
    obtain ⟨found, raw, issuedMail, recipient, carried⟩ :=
      resetIssue_of_mailed (serial.valid (inside issue member)) mailed
    obtain ⟨rfl, rfl⟩ := Prod.mk.inj (Option.some.inj (issued.symm.trans issuedMail))
    refine ⟨issue, member, mail, mailed, ?_, ?_⟩
    · rw [carried, Option.map_some, hash]
    · rw [recipient]
      exact addressed

/-- An account that keeps its email resets its password with the link that it was mailed. -/
theorem resets_follow_mailbox_iff_kept :
    (∃ reset ∈ (playedSerially (signedInSerially ++ [askReset, followReset])).1,
      (resetOf reset).isSome = true) ∧
    ResetsFollow legibleRuntime (playedSerially (signedInSerially ++ [askReset, followReset])).1 :=
  ⟨by decide +kernel, (resets_follow_mailbox_iff legibleRuntime 0 _ _
    (playedSerially_run (signedInSerially ++ [askReset, followReset])) (by decide +kernel)).mpr
    (by decide +kernel)⟩

end GraconAuth
