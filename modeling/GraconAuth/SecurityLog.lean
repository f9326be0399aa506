/-
This file is about what the security log certifies: a login, a change of a
password, a passed verification. A login is reported before its last gates and
before its token is stored, and a change of the password before it is written; a
pass is reported whether or not its audit row could be stored. So events exist that
nothing vouches for. A call that has returned has told the truth exactly when none
of its writes was refused and it has logged nobody in whom it then turned away.
-/

import GraconAuth.Footprints

namespace GraconAuth

open Interleaving Program

variable (runtime : Runtime)

/-! ### What is reported and what vouches for it -/

/-- The events that certify something to the user. -/
def SecurityEvent.certifies : SecurityEvent → Bool
  | .loginSuccess | .passwordChanged | .verificationPassed => true
  | _ => false

/-- What a request certifies when it succeeds. -/
def Request.certificate : Request → Option SecurityEvent
  | .login _ _ _ => some .loginSuccess
  | .changePassword _ _ | .resetPassword _ => some .passwordChanged
  | .submitVerification _ _ _ => some .verificationPassed
  | _ => none

/-- What the event certifies to the log, and for whom. -/
def certified : ServiceEvent → Option (SecurityEvent × Option UserId)
  | ⟨.securityEvent eventType userId _, _⟩ =>
    if eventType.certifies then some (eventType, userId) else none
  | _ => none

/-- The event is what a certificate says: a refresh token stored for the user, a new password hash
of the user, or an audit row of the user that says passed. -/
def vouches (eventType : SecurityEvent) (userId : UserId) (event : ServiceEvent) : Bool :=
  match eventType, executed event with
  | .loginSuccess, [.refreshTokenCreate data] => data.userId == userId
  | .passwordChanged, .userUpdate id data :: _ => id == userId && data.passwordHash.isSome
  | .verificationPassed, [.idVerificationCreate data] => data.userId == userId && data.passed
  | _, _ => false

/-- The event is a write that the database did not carry out. -/
def refused : ServiceEvent → Bool
  | ⟨.execute _, .error _⟩ => true
  | _ => false

/-- The event has read an account that may not log in. -/
def barred (event : ServiceEvent) : Bool :=
  (readAccount event).any fun record => !(record.user.isVerified && record.user.isActive)

/-- A write of the call was refused, or it is a login of an account that may not log in. -/
def excused (eventType : SecurityEvent) (past : List ServiceEvent) : Bool :=
  past.any refused || (eventType == .loginSuccess && past.any barred)

/-- What the entry has certified in the log, if its line was written. -/
def written (entry : ServiceEntry) : Option (SecurityEvent × Option UserId) :=
  if entry.after.db.securityEventLog.length = entry.before.db.securityEventLog.length then none
  else certified entry.event

/-- What an entry has certified is what its call was for, and another entry of the call vouches
for it. -/
def Corroborated (world : ServiceWorld) (entry : ServiceEntry)
    (certificate : SecurityEvent × Option UserId) : Prop :=
  entry.request.certificate = some certificate.1 ∧ ∃ userId ∈ certificate.2,
    ∃ other ∈ world.history, other.thread = entry.thread ∧
      vouches certificate.1 userId other.event = true

instance (world : ServiceWorld) (entry : ServiceEntry)
    (certificate : SecurityEvent × Option UserId) :
    Decidable (Corroborated world entry certificate) :=
  inferInstanceAs (Decidable (_ ∧ ∃ userId ∈ certificate.2, _))

/-- What a call that has returned has certified in the log is corroborated, and it has certified
nothing else. -/
def Truthful (world : ServiceWorld) : Prop :=
  ∀ entry ∈ world.history, ∀ certificate ∈ written entry, Answered world entry.thread →
    Corroborated world entry certificate ∧ ∀ other ∈ world.history,
      other.thread = entry.thread → (written other).isSome → other = entry

/-- No call that has returned and certified something has an excuse for it. -/
def Unexcused (world : ServiceWorld) : Prop :=
  ∀ entry ∈ world.history, ∀ certificate ∈ written entry, Answered world entry.thread →
    excused certificate.1 (world.past entry.thread) = false

instance (world : ServiceWorld) : Decidable (Unexcused world) :=
  inferInstanceAs (Decidable (∀ entry ∈ _, _))

/-- The runs of the requests that certify something. -/
def certifying : Regime State Effect.Reply Failure Request where
  admits request := request.certificate.isSome = true
  permits _ _ := True

instance (request : Request) : Decidable (certifying.admits request) :=
  inferInstanceAs (Decidable (_ = _))

instance (world : ServiceWorld) (entry : ServiceEntry) :
    Decidable (certifying.permits world entry) := .isTrue trivial

/-! ### Effects that leave the ledger alone -/

/-- What the process does by itself never fails. -/
def Prompt : ServiceEvent → Prop
  | ⟨.now, .error _⟩ | ⟨.randomToken, .error _⟩ | ⟨.bcryptSalt, .error _⟩
  | ⟨.sign _ _, .error _⟩ | ⟨.securityEvent _ _ _, .error _⟩ => False
  | _ => True

theorem performs_prompt {state next : State} {effect : Effect}
    {reply : Except Failure effect.Reply}
    (performs : environment.Performs state effect reply next) : Prompt ⟨effect, reply⟩ := by
  obtain ⟨choice, answered⟩ := performs
  unfold Prompt
  split
  · rename_i same
    cases same
    simp [environment, State.answer] at answered
  · rename_i same
    cases same
    simp [environment, State.answer] at answered
  · rename_i same
    cases same
    simp [environment, State.answer] at answered
  · rename_i same
    cases same
    simp [environment, State.answer] at answered
  · rename_i same
    cases same
    simp only [environment, State.answer] at answered
    split at answered <;> simp at answered
  · trivial

/-- The rule that counts on prompt effects and forbids nothing. -/
abbrev promptly : ServiceConduct where
  expects := Prompt
  allows _ _ := True

/-- The effects that neither write nor report. -/
def Effect.Mute : Effect → Prop
  | .execute _ | .registerTransaction _ | .securityEvent _ _ _ => False
  | _ => True

/-- The mute effects that read no account. -/
def Effect.Idle : Effect → Prop
  | .userFindUnique _ => False
  | effect => effect.Mute

theorem Effect.Idle.mute {effect : Effect} (idle : effect.Idle) : effect.Mute := by
  cases effect <;> first | exact idle | trivial

theorem mute_certified {event : ServiceEvent} (mute : event.effect.Mute) :
    certified event = none := by
  unfold certified
  split
  · exact mute.elim
  · rfl

theorem mute_refused {event : ServiceEvent} (mute : event.effect.Mute) :
    refused event = false := by
  unfold refused
  split
  · exact mute.elim
  · rfl

theorem mute_vouches {event : ServiceEvent} (mute : event.effect.Mute)
    (eventType : SecurityEvent) (userId : UserId) : vouches eventType userId event = false := by
  have nothing : executed event = [] := by
    unfold executed
    split
    · exact mute.elim
    · rfl
  unfold vouches
  rw [nothing]
  cases eventType <;> rfl

theorem idle_barred {event : ServiceEvent} (idle : event.effect.Idle) : barred event = false := by
  unfold barred readAccount
  split
  · exact idle.elim
  · rfl

/-- The call has neither certified anything nor written. -/
structure Blank (past : List ServiceEvent) : Prop where
  unreported : past.filterMap certified = []
  unrefused : past.any refused = false
  unvouched : ∀ eventType userId, past.any (vouches eventType userId) = false

theorem blank_nil : Blank [] := ⟨rfl, rfl, fun _ _ => rfl⟩

theorem Blank.cons {past : List ServiceEvent} (blank : Blank past) {event : ServiceEvent}
    (mute : event.effect.Mute) : Blank (event :: past) := by
  refine ⟨?_, ?_, fun eventType userId => ?_⟩
  · rw [List.filterMap_cons_none (mute_certified mute)]
    exact blank.unreported
  · rw [List.any_cons, mute_refused mute]
    exact blank.unrefused
  · rw [List.any_cons, mute_vouches mute]
    exact blank.unvouched eventType userId

/-- An account has been read. -/
theorem Blank.read {past : List ServiceEvent} (blank : Blank past) {filter : UserWhere}
    {reply : Except Failure (Option UserRecord)} :
    Blank (⟨.userFindUnique filter, reply⟩ :: past) :=
  blank.cons trivial

theorem Blank.grown {past now : List ServiceEvent} (blank : Blank past)
    (grown : Extends Effect.Mute past now) : Blank now := by
  obtain ⟨recent, rfl, mute⟩ := grown
  induction recent with
  | nil => exact blank
  | cons event rest inductionHypothesis =>
    exact (inductionHypothesis fun other member => mute other (List.mem_cons_of_mem _ member)).cons
      (mute event List.mem_cons_self)

/-- The call has certified nothing, or what it is for, once, and vouched for unless excused. -/
def Concluded (request : Request) (past : List ServiceEvent) : Prop :=
  past.filterMap certified = [] ∨ ∃ eventType userId,
    past.filterMap certified = [(eventType, some userId)] ∧
      request.certificate = some eventType ∧
      past.any (vouches eventType userId) = !excused eventType past

theorem Blank.concluded {past : List ServiceEvent} (blank : Blank past) (request : Request) :
    Concluded request past :=
  .inl blank.unreported

theorem Concluded.cons {request : Request} {past : List ServiceEvent}
    (concluded : Concluded request past) {event : ServiceEvent} (idle : event.effect.Idle) :
    Concluded request (event :: past) := by
  unfold Concluded excused at concluded ⊢
  simpa only [List.filterMap_cons_none (mute_certified idle.mute), List.any_cons,
    mute_refused idle.mute, mute_vouches idle.mute, idle_barred idle, Bool.false_or] using concluded

theorem Concluded.grown {request : Request} {past now : List ServiceEvent}
    (concluded : Concluded request past) (grown : Extends Effect.Idle past now) :
    Concluded request now := by
  obtain ⟨recent, rfl, idle⟩ := grown
  induction recent with
  | nil => exact concluded
  | cons event rest inductionHypothesis =>
    exact (inductionHypothesis fun other member => idle other (List.mem_cons_of_mem _ member)).cons
      (idle event List.mem_cons_self)

/-! ### Every call settles its account -/

section Traversal

theorem buildSafeProfile_idle (record : UserRecord) :
    (AuthService.buildSafeProfile runtime record).Uses Effect.Idle := by
  have image : ∀ imageUrl, (UsersService.resolveProfileImageAccess imageUrl).Uses Effect.Idle := by
    intro imageUrl
    unfold UsersService.resolveProfileImageAccess
    split
    · trivial
    · split
      · trivial
      · exact uses_bind (uses_rescue (uses_bind (uses_perform trivial) fun _ =>
          uses_bind (uses_perform trivial) fun _ => trivial) fun _ => trivial) fun _ => trivial
  have fin : (UsersService.decryptFin runtime record).Uses Effect.Idle := by
    unfold UsersService.decryptFin
    split
    · split
      · exact uses_bind (uses_ofOutcome _) fun _ => trivial
      · trivial
    · trivial
  exact uses_bind (image _) fun _ => uses_bind fin fun _ => trivial

/-- After the gates a login stores a token or has its write refused. -/
theorem login_settled (dto : AuthService.LoginDto) (ipAddress userAgent : String) :
    (AuthService.login runtime dto ipAddress userAgent).Follows promptly
      (fun now _ => Concluded (.login dto ipAddress userAgent) now) [] := by
  refine follows_perform_bind.mpr ⟨trivial, fun user _ => ?_, fun _ _ => .inl rfl⟩
  cases found : user.filter fun record =>
      AuthService.passwordValid runtime dto.password (some record) with
  | none =>
    exact follows_perform_bind.mpr ⟨trivial, fun _ _ => .inl rfl, fun _ expected => expected.elim⟩
  | some record =>
    obtain rfl : user = some record := (Option.filter_eq_some_iff.mp found).1
    refine follows_perform_bind.mpr ⟨trivial, fun _ _ => ?_, fun _ expected => expected.elim⟩
    refine follows_throwIf_bind.mpr ⟨fun unverified => ?_, fun verified => ?_⟩
    · refine .inr ⟨.loginSuccess, record.user.id, rfl, rfl, ?_⟩
      simp only [Bool.not_eq_true'] at unverified
      simp [excused, vouches, executed, refused, barred, readAccount, unverified]
    refine follows_throwIf_bind.mpr ⟨fun inactive => ?_, fun active => ?_⟩
    · refine .inr ⟨.loginSuccess, record.user.id, rfl, rfl, ?_⟩
      simp only [Bool.not_eq_true'] at inactive
      simp [excused, vouches, executed, refused, barred, readAccount, inactive]
    simp only [Bool.not_eq_false'] at verified active
    have issued : (AuthService.generateTokens runtime record.user.id record.user.email ipAddress
        userAgent (if record.user.isIdVerified then .full else .limited)).Follows promptly
        (fun now _ => Concluded (.login dto ipAddress userAgent) now)
        [⟨.securityEvent .loginSuccess (some record.user.id) (some ipAddress), .ok ()⟩,
          ⟨.userFindUnique (.byEmail dto.email), .ok (some record)⟩] := by
      refine follows_perform_bind.mpr ⟨trivial, fun accessToken _ => ?_, fun _ expected =>
        expected.elim⟩
      refine follows_perform_bind.mpr ⟨trivial, fun rawRefreshToken _ => ?_, fun _ expected =>
        expected.elim⟩
      refine follows_perform_bind.mpr ⟨trivial, fun now _ => ?_, fun _ expected =>
        expected.elim⟩
      refine follows_perform_bind.mpr ⟨trivial, fun _ _ => ?_, fun failure _ => ?_⟩
      · refine .inr ⟨.loginSuccess, record.user.id, rfl, rfl, ?_⟩
        simp [excused, vouches, executed, refused, barred, readAccount, verified, active]
      · refine .inr ⟨.loginSuccess, record.user.id, rfl, rfl, ?_⟩
        simp [excused, vouches, executed, refused]
    exact issued.bind (fun now tokens concluded =>
      (buildSafeProfile_idle runtime record).follows_bind
      (fun _ _ _ _ => trivial) (fun _ _ grown => concluded.grown grown) fun _ _ grown =>
        concluded.grown grown) fun _ _ concluded => concluded

/-- The password is reported as changed just before it is written. -/
theorem changePassword_settled (jwt : Jwt) (userId : UserId)
    (dto : UsersService.ChangePasswordDto) {past : List ServiceEvent} (blank : Blank past) :
    (UsersService.changePassword runtime userId dto).Follows promptly
      (fun now _ => Concluded (.changePassword jwt dto) now) past := by
  refine follows_throwIf_bind.mpr ⟨fun _ => blank.concluded _, fun _ => ?_⟩
  refine follows_perform_bind.mpr ⟨trivial, fun user _ => ?_, fun _ _ => blank.read.concluded _⟩
  cases user with
  | none => exact blank.read.concluded _
  | some record =>
    have blank : Blank (⟨.userFindUnique (.byId userId), .ok (some record)⟩ :: past) := blank.read
    generalize (⟨.userFindUnique (.byId userId), .ok (some record)⟩ : ServiceEvent) :: past = read
      at blank
    refine follows_throwIf_bind.mpr ⟨fun _ => blank.concluded _, fun _ => ?_⟩
    refine follows_throwIf_bind.mpr ⟨fun _ => blank.concluded _, fun _ => ?_⟩
    refine follows_perform_bind.mpr ⟨trivial, fun _ _ => ?_, fun _ expected => expected.elim⟩
    refine follows_bind.mpr (follows_perform_bind.mpr ⟨trivial, fun salt _ => ?_,
      fun _ expected => expected.elim⟩)
    refine follows_perform_bind.mpr ⟨trivial, fun _ _ => ?_, fun failure _ => ?_⟩
    · refine .inr ⟨.passwordChanged, userId,
        congrArg (List.cons (SecurityEvent.passwordChanged, some userId)) blank.unreported, rfl, ?_⟩
      simp only [excused, List.any_cons, blank.unrefused, blank.unvouched]
      simp [vouches, executed, refused]
    · refine .inr ⟨.passwordChanged, userId,
        congrArg (List.cons (SecurityEvent.passwordChanged, some userId)) blank.unreported, rfl, ?_⟩
      simp only [excused, List.any_cons, blank.unrefused, blank.unvouched]
      simp [vouches, executed, refused]

/-- The password is reported as changed after it has been written. -/
theorem resetPassword_settled (dto : PasswordResetService.ResetPasswordDto) :
    (PasswordResetService.resetPassword runtime dto).Follows promptly
      (fun now _ => Concluded (.resetPassword dto) now) [] := by
  refine follows_throwIf_bind.mpr ⟨fun _ => .inl rfl, fun _ => ?_⟩
  have lookup : (PasswordResetService.findValidToken runtime dto.userId dto.token).Uses
      Effect.Mute := by
    refine uses_bind (uses_perform trivial) fun record => ?_
    cases record with
    | none => trivial
    | some record =>
      dsimp only
      split
      · trivial
      · refine uses_bind (uses_perform trivial) fun now => ?_
        split <;> trivial
  refine lookup.follows_bind (fun _ _ _ _ => trivial) (fun now found grown => ?_)
    fun _ _ grown => (blank_nil.grown grown).concluded _
  have blank := blank_nil.grown grown
  cases found with
  | error reason => exact blank.concluded _
  | ok tokenId =>
    refine follows_bind.mpr (follows_perform_bind.mpr ⟨trivial, fun salt _ => ?_,
      fun _ expected => expected.elim⟩)
    refine follows_perform_bind.mpr ⟨trivial, fun _ _ => ?_, fun _ _ => .inl blank.unreported⟩
    refine follows_perform_bind.mpr ⟨trivial, fun _ _ => ?_, fun _ expected => expected.elim⟩
    refine .inr ⟨.passwordChanged, dto.userId,
      congrArg (List.cons (SecurityEvent.passwordChanged, some dto.userId)) blank.unreported,
      rfl, ?_⟩
    simp only [excused, List.any_cons, blank.unrefused, blank.unvouched]
    simp [vouches, executed, refused]

/-- Nothing has been certified, and the audit row of a pass was stored unless a write was
refused. -/
structure Audited (userId : UserId) (past : List ServiceEvent) : Prop where
  unreported : past.filterMap certified = []
  recorded : past.any (vouches .verificationPassed userId) = !past.any refused

variable {userId : UserId} {past : List ServiceEvent}

theorem Audited.cons (audited : Audited userId past) {event : ServiceEvent}
    (plain : certified event = none) (carried : refused event = false)
    (unvouched : vouches .verificationPassed userId event = false) :
    Audited userId (event :: past) := by
  refine ⟨?_, ?_⟩
  · rw [List.filterMap_cons_none plain]
    exact audited.unreported
  · rw [List.any_cons, List.any_cons, carried, unvouched]
    exact audited.recorded

theorem Audited.grown {now : List ServiceEvent} (audited : Audited userId past)
    (grown : Extends Effect.Mute past now) : Audited userId now := by
  obtain ⟨recent, rfl, mute⟩ := grown
  induction recent with
  | nil => exact audited
  | cons event rest inductionHypothesis =>
    have inside := mute event List.mem_cons_self
    exact (inductionHypothesis fun other member => mute other (List.mem_cons_of_mem _ member)).cons
      (mute_certified inside) (mute_refused inside) (mute_vouches inside _ _)

/-- A part of a submission certifies nothing, and goes on only when no write was refused. -/
abbrev AuditedEnd {Result : Type} (userId : UserId) (now : List ServiceEvent)
    (outcome : Except Failure Result) : Prop :=
  now.filterMap certified = [] ∧ ∀ result, outcome = .ok result → Audited userId now

theorem audited_perform_bind {Result : Type} {effect : Effect}
    {next : effect.Reply → Async Result} (audited : Audited userId past)
    (plain : ∀ reply, certified ⟨effect, reply⟩ = none)
    (carried : ∀ value, refused ⟨effect, .ok value⟩ = false)
    (unvouched : ∀ value, vouches .verificationPassed userId ⟨effect, .ok value⟩ = false)
    (rest : ∀ value, Audited userId (⟨effect, .ok value⟩ :: past) →
      (next value).Follows promptly (AuditedEnd userId) (⟨effect, .ok value⟩ :: past)) :
    (perform effect >>= next).Follows promptly (AuditedEnd userId) past := by
  refine follows_perform_bind.mpr ⟨trivial, fun value _ => ?_, fun failure _ => ⟨?_, nofun⟩⟩
  · exact rest value (audited.cons (plain _) (carried value) (unvouched value))
  · rw [List.filterMap_cons_none (plain _)]
    exact audited.unreported

theorem generateTokens_audited (email : Email) (ipAddress userAgent : String)
    (owner : UserId) (tokenType : TokenType) (audited : Audited userId past) :
    (AuthService.generateTokens runtime owner email ipAddress userAgent tokenType).Follows
      promptly (AuditedEnd userId) past :=
  audited_perform_bind audited (fun _ => rfl) (fun _ => rfl) (fun _ => rfl) fun _ audited =>
    audited_perform_bind audited (fun _ => rfl) (fun _ => rfl) (fun _ => rfl) fun _ audited =>
    audited_perform_bind audited (fun _ => rfl) (fun _ => rfl) (fun _ => rfl) fun _ audited =>
    audited_perform_bind audited (fun _ => rfl) (fun _ => rfl) (fun _ => rfl) fun _ audited =>
      ⟨audited.unreported, fun _ _ => audited⟩

theorem upgradeToken_audited (ipAddress userAgent : String) (audited : Audited userId past) :
    (AuthService.upgradeToken runtime userId ipAddress userAgent).Follows promptly
      (AuditedEnd userId) past := by
  refine audited_perform_bind audited (fun _ => rfl) (fun _ => rfl) (fun _ => rfl)
    fun _ audited => audited_perform_bind audited (fun _ => rfl) (fun _ => rfl) (fun _ => rfl)
      fun user audited => ?_
  cases user with
  | none => exact ⟨audited.unreported, nofun⟩
  | some record => exact generateTokens_audited runtime _ _ _ _ _ audited

theorem applyVerdict_audited (wasAlreadyVerified passed : Bool) (ipAddress : String)
    (audited : Audited userId past) :
    (VerificationService.applyVerdict runtime userId wasAlreadyVerified passed ipAddress).Follows
      promptly (AuditedEnd userId) past := by
  unfold VerificationService.applyVerdict
  split
  · exact audited_perform_bind audited (fun _ => rfl) (fun _ => rfl) (fun _ => rfl)
      fun _ audited => audited_perform_bind audited (fun _ => rfl) (fun _ => rfl) (fun _ => rfl)
        fun _ audited => (upgradeToken_audited runtime _ _ audited).bind
          (fun _ _ ended => ⟨ended.1, fun _ _ => ended.2 _ rfl⟩) fun _ _ ended => ⟨ended.1, nofun⟩
  · exact audited_perform_bind audited (fun _ => rfl) (fun _ => rfl) (fun _ => rfl)
      fun _ audited => ⟨audited.unreported, fun _ _ => audited⟩

/-- The effects that write no line of the log. -/
def Effect.Unlogged : Effect → Prop
  | .securityEvent _ _ _ => False
  | _ => True

theorem Effect.Mute.unlogged {effect : Effect} (mute : effect.Mute) : effect.Unlogged := by
  cases effect <;> first | exact mute | trivial

theorem unlogged_unreported {now : List ServiceEvent} (unreported : past.filterMap certified = [])
    (grown : Extends Effect.Unlogged past now) : now.filterMap certified = [] := by
  obtain ⟨recent, rfl, unlogged⟩ := grown
  rw [List.filterMap_append, unreported, List.append_nil, List.filterMap_eq_nil_iff]
  intro event member
  have inside := unlogged event member
  unfold certified
  split
  · exact inside.elim
  · rfl

theorem getVerificationWindowState_idle :
    (VerificationService.getVerificationWindowState runtime userId).Uses Effect.Idle := by
  unfold VerificationService.getVerificationWindowState
  split
  · trivial
  · exact uses_bind (uses_perform trivial) fun _ => uses_bind (uses_perform trivial) fun _ =>
      uses_bind (uses_perform trivial) fun _ => trivial

theorem uploadImages_mute (idCardFile selfieFile : UploadedFile) :
    (VerificationService.uploadImages userId idCardFile selfieFile).Uses Effect.Mute := by
  refine (uploadImages_uploads userId idCardFile selfieFile).mono fun effect uploads => ?_
  cases effect <;> first | exact uploads.elim | trivial

theorem cleanupImages_mute (keys : ObjectKey × ObjectKey) :
    (VerificationService.cleanupImages keys.1 keys.2).Uses Effect.Mute :=
  uses_rescue (uses_perform trivial) fun _ => trivial

theorem getNextAttemptNumber_mute :
    (VerificationService.getNextAttemptNumber userId).Uses Effect.Mute :=
  uses_bind (uses_perform trivial) fun _ => trivial

/-- A submission that the engine has not passed certifies nothing. -/
theorem applyVerdict_unlogged (wasAlreadyVerified passed : Bool) (ipAddress : String) :
    (VerificationService.applyVerdict runtime userId wasAlreadyVerified passed ipAddress).Uses
      Effect.Unlogged := by
  unfold VerificationService.applyVerdict
  split
  · refine uses_bind (uses_perform trivial) fun _ => uses_bind (uses_perform trivial) fun _ =>
      uses_bind (uses_bind (uses_perform trivial) fun _ => uses_bind (uses_perform trivial)
        fun user => ?_) fun _ => trivial
    cases user with
    | none => trivial
    | some record =>
      exact uses_bind (uses_perform trivial) fun _ => uses_bind (uses_perform trivial) fun _ =>
        uses_bind (uses_perform trivial) fun _ => uses_bind (uses_perform trivial) fun _ => trivial
  · exact uses_bind (uses_perform trivial) fun _ => trivial

/-- However the write of the audit row ends, the ledger is in order. -/
theorem recordAttempt_audited (data : IdVerificationCreate) (blank : Blank past) :
    (VerificationService.recordAttempt data).Follows promptly
      (fun now _ => now.filterMap certified = [] ∧
        (data.passed = true → Audited data.userId now)) past := by
  refine follows_rescue.mpr (follows_perform.mpr ⟨trivial, fun reply _ => ?_⟩)
  cases reply with
  | ok value =>
    refine ⟨blank.unreported, fun passed => ⟨blank.unreported, ?_⟩⟩
    simp only [List.any_cons, blank.unrefused, blank.unvouched]
    simp [vouches, executed, refused, passed]
  | error failure =>
    refine ⟨blank.unreported, fun passed => ⟨blank.unreported, ?_⟩⟩
    simp only [List.any_cons, blank.unrefused, blank.unvouched]
    simp [vouches, executed, refused]

theorem engineAnswered_settled {request : Request}
    (certificate : request.certificate = some .verificationPassed) (record : UserRecord)
    (identity : CitizenIdentityRow) (dto : VerificationService.SubmitVerificationDto)
    (keys : ObjectKey × ObjectKey) (ipAddress : String) (answer : EngineVerificationResponse)
    (blank : Blank past) :
    (VerificationService.engineAnswered runtime userId record identity dto keys ipAddress
      answer).Follows promptly (fun now _ => Concluded request now) past := by
  refine getNextAttemptNumber_mute.follows_bind (fun _ _ _ _ => trivial)
    (fun counted attemptNumber grown => ?_) fun _ _ grown => (blank.grown grown).concluded _
  refine (recordAttempt_audited _ (blank.grown grown)).bind (fun stored _ recorded => ?_)
    fun _ _ recorded => .inl recorded.1
  refine (cleanupImages_mute keys).follows_bind (fun _ _ _ _ => trivial)
    (fun cleaned _ grown => ?_) fun _ _ grown =>
      .inl (unlogged_unreported recorded.1 (grown.mono fun _ => Effect.Mute.unlogged))
  cases passed : answer.passed with
  | true =>
    have audited : Audited userId cleaned := (recorded.2 passed).grown grown
    refine (applyVerdict_audited runtime _ _ _ audited).bind (fun now _ ended => ?_)
      fun _ _ ended => .inl ended.1
    replace audited := ended.2 _ rfl
    refine follows_perform_bind.mpr ⟨trivial, fun _ _ => ?_, fun _ expected => expected.elim⟩
    have concluded : Concluded request
        (⟨.securityEvent .verificationPassed (some userId) (some ipAddress), .ok ()⟩ :: now) := by
      refine .inr ⟨.verificationPassed, userId,
        congrArg (List.cons (SecurityEvent.verificationPassed, some userId)) audited.unreported,
        certificate, ?_⟩
      simp only [excused, List.any_cons, audited.recorded]
      simp [vouches, executed, refused]
    exact (getVerificationWindowState_idle runtime).follows_bind (fun _ _ _ _ => trivial)
      (fun _ _ grown => concluded.grown grown) fun _ _ grown => concluded.grown grown
  | false =>
    have unreported := unlogged_unreported recorded.1
      (grown.mono fun _ => Effect.Mute.unlogged)
    refine (applyVerdict_unlogged runtime _ _ _).follows_bind (fun _ _ _ _ => trivial)
      (fun now _ grown => ?_) fun _ _ grown => .inl (unlogged_unreported unreported grown)
    replace unreported := unlogged_unreported unreported grown
    refine follows_perform_bind.mpr ⟨trivial, fun _ _ => ?_, fun _ expected => expected.elim⟩
    have concluded : Concluded request
        (⟨.securityEvent .verificationFailed (some userId) (some ipAddress), .ok ()⟩ :: now) :=
      .inl unreported
    exact (getVerificationWindowState_idle runtime).follows_bind (fun _ _ _ _ => trivial)
      (fun _ _ grown => concluded.grown grown) fun _ _ grown => concluded.grown grown

theorem engineFailed_unlogged (documentMatch : Bool) (keys : ObjectKey × ObjectKey)
    (ipAddress : String) (failure : Failure) :
    (VerificationService.engineFailed userId documentMatch keys ipAddress failure).Uses
      Effect.Unlogged :=
  uses_bind ((cleanupImages_mute keys).mono fun _ => Effect.Mute.unlogged) fun _ =>
    uses_bind (getNextAttemptNumber_mute.mono fun _ => Effect.Mute.unlogged) fun _ =>
    uses_bind (uses_rescue (uses_perform trivial) fun _ => trivial) fun _ => trivial

/-- A pass is reported once its audit row has been written or refused. -/
theorem submitVerification_settled {request : Request}
    (certificate : request.certificate = some .verificationPassed)
    (dto : VerificationService.SubmitVerificationDto) (ipAddress : String)
    (blank : Blank past) :
    (VerificationService.submitVerification runtime userId dto ipAddress).Follows promptly
      (fun now _ => Concluded request now) past := by
  refine follows_perform_bind.mpr ⟨trivial, fun user _ => ?_, fun _ _ => blank.read.concluded _⟩
  cases user with
  | none => exact blank.read.concluded _
  | some record =>
    have blank : Blank (⟨.userFindUnique (.byId userId), .ok (some record)⟩ :: past) := blank.read
    generalize (⟨.userFindUnique (.byId userId), .ok (some record)⟩ : ServiceEvent) :: past = read
      at blank
    refine follows_throwIf_bind.mpr ⟨fun _ => blank.concluded _, fun _ => ?_⟩
    refine follows_throwIf_bind.mpr ⟨fun _ => blank.concluded _, fun _ => ?_⟩
    refine follows_throwIf_bind.mpr ⟨fun _ => blank.concluded _, fun _ => ?_⟩
    have limit : (VerificationService.enforceAttemptLimit runtime userId).Uses Effect.Mute := by
      unfold VerificationService.enforceAttemptLimit
      split
      · trivial
      · exact uses_bind ((getVerificationWindowState_idle runtime).mono fun _ => Effect.Idle.mute)
          fun _ => uses_bind (uses_throwIf _ _) fun _ => trivial
    refine limit.follows_bind (fun _ _ _ _ => trivial) (fun limited _ grown => ?_)
      fun _ _ grown => (blank.grown grown).concluded _
    replace blank := blank.grown grown
    unfold VerificationService.verifyIdentity
    split
    · exact blank.concluded _
    · refine follows_throwIf_bind.mpr ⟨fun _ => blank.concluded _, fun _ => ?_⟩
      refine Uses.follows_bind (uses_ofOutcome _) (fun _ _ _ _ => trivial)
        (fun decrypted _ grown => ?_) fun _ _ grown => (blank.grown grown).concluded _
      replace blank := blank.grown grown
      refine (uploadImages_mute _ _).follows_bind (fun _ _ _ _ => trivial)
        (fun uploaded keys grown => ?_) fun _ _ grown => (blank.grown grown).concluded _
      replace blank := blank.grown grown
      refine follows_bind.mpr (follows_attempt.mpr (follows_rescue.mpr (follows_perform.mpr
        ⟨trivial, fun reply _ => ?_⟩)))
      cases reply with
      | error failure =>
        refine ((engineFailed_unlogged _ keys ipAddress _).follows fun _ _ _ _ =>
          trivial).weaken fun now outcome grown => .inl (unlogged_unreported ?_ grown)
        exact blank.unreported
      | ok answer =>
        exact engineAnswered_settled runtime certificate record _ dto keys ipAddress answer
          (Blank.cons blank trivial)

end Traversal

/-! ### From the call to the run -/

/-- Every effect but the response. -/
def Effect.Unspoken : Effect → Prop
  | .respond _ => False
  | _ => True

theorem unspoken_of_handled (request : Request) {effect : Effect}
    (handled : effect.Harmless ∨ request.Awaits effect) : effect.Unspoken := by
  cases effect with
  | respond outcome =>
    rcases handled with harmless | awaits
    · exact harmless.elim
    · cases request <;> simp [Request.Awaits, Effect.Issues, Effect.Links, Effect.Rotates] at awaits
  | _ => trivial

/-- Nothing follows the response, and the account is concluded when it leaves. -/
def closing (request : Request) (past : List ServiceEvent) (effect : Effect) : Prop :=
  (∀ event ∈ past, event.effect.Unspoken) ∧
    ∀ outcome, effect = .respond outcome → Concluded request past

/-- The rule for each request. -/
abbrev closed (request : Request) : ServiceConduct where
  expects := Prompt
  allows := closing request

theorem canActivate_mute (metadata : Option RequiredType) (jwt : Jwt) :
    (JwtAuthGuard.canActivate metadata jwt).Uses Effect.Mute :=
  uses_bind (uses_attempt (uses_bind (uses_perform trivial) fun _ => uses_ofOutcome _)) fun _ =>
    uses_ofOutcome _

theorem guarded_settled {request : Request} (certifies : request.certificate.isSome = true) :
    (request.guarded runtime).Follows promptly (fun now _ => Concluded request now) [] := by
  cases request with
  | login dto ipAddress userAgent =>
    exact (login_settled runtime dto ipAddress userAgent).bind (fun _ _ concluded => concluded)
      fun _ _ concluded => concluded
  | resetPassword dto =>
    exact (resetPassword_settled runtime dto).bind (fun _ _ concluded => concluded)
      fun _ _ concluded => concluded
  | changePassword jwt dto =>
    refine (canActivate_mute _ jwt).follows_bind (fun _ _ _ _ => trivial) (fun _ user grown => ?_)
      fun _ _ grown => (blank_nil.grown grown).concluded _
    exact (changePassword_settled runtime jwt _ dto (blank_nil.grown grown)).bind
      (fun _ _ concluded => concluded) fun _ _ concluded => concluded
  | submitVerification jwt dto ipAddress =>
    refine (canActivate_mute _ jwt).follows_bind (fun _ _ _ _ => trivial) (fun _ user grown => ?_)
      fun _ _ grown => (blank_nil.grown grown).concluded _
    exact (submitVerification_settled runtime rfl dto ipAddress (blank_nil.grown grown)).bind
      (fun _ _ concluded => concluded) fun _ _ concluded => concluded
  | _ => cases certifies

theorem guarded_unspoken (request : Request) :
    (request.guarded runtime).Uses Effect.Unspoken := by
  have handled : ∀ userId, (request.handle runtime userId).Uses Effect.Unspoken := fun userId =>
    (handle_uses runtime userId request).mono fun _ => unspoken_of_handled request
  unfold Request.guarded
  split
  · exact handled 0
  · exact uses_bind ((canActivate_uses _ _).mono fun _ harmless =>
      unspoken_of_handled request (.inl harmless)) fun user => handled user.userId

/-- Every call that certifies something keeps to the rule. -/
theorem serve_closed {request : Request} (certifies : request.certificate.isSome = true) :
    (serve runtime request).Abides (closed request) [] := by
  have settles : (request.guarded runtime).Follows (closed request)
      (fun now _ => Concluded request now ∧ ∀ event ∈ now, event.effect.Unspoken) [] := by
    refine (guarded_settled runtime certifies).within (guarded_unspoken runtime request) (by simp)
      (fun _ expected => expected) fun now effect _ unspoken inside => ⟨inside, ?_⟩
    rintro outcome rfl
    exact unspoken.elim
  unfold serve
  rw [Abides, follows_bind, follows_attempt]
  refine settles.weaken fun now outcome ended => ?_
  exact follows_perform_bind.mpr ⟨⟨ended.2, fun _ _ => ended.1⟩,
    fun _ _ => follows_ofOutcome.mpr trivial, fun _ _ => trivial⟩

section Chronicles

variable {runtime} {initial : State} {world : ServiceWorld}
  (chronicle : Chronicle (service runtime) certifying closed initial world)

include chronicle

/-- A call that has returned has concluded its account. -/
theorem settled_of_answered {entry : ServiceEntry} (member : entry ∈ world.history)
    (answered : Answered world entry.thread) :
    Concluded entry.request (world.past entry.thread) := by
  refine chronicle.invariant (fun world => ∀ thread, Answered world thread →
    ∀ entry ∈ world.history, entry.thread = thread → Concluded entry.request (world.past thread))
    (by simp) ?_ entry.thread answered entry member rfl
  intro world latest _ concluded admissible thread answered other member same
  have ruled : closing latest.request (world.past latest.thread) latest.effect := admissible.ruled
  by_cases self : latest.thread = thread
  · subst self
    have requestEq : other.request = latest.request := by
      rcases List.mem_cons.mp member with rfl | old
      · rfl
      · exact admissible.owned other old same
    rw [World.past_record_self, requestEq]
    obtain ⟨speaker, recorded, thread, speaks⟩ := answered
    rcases List.mem_cons.mp recorded with rfl | old
    · have spoken : ∃ outcome, speaker.effect = .respond outcome := by
        unfold responds at speaks
        split at speaks
        · rename_i outcome reply event
          exact ⟨outcome, congrArg Event.effect event⟩
        · cases speaks
      obtain ⟨outcome, responded⟩ := spoken
      refine (ruled.2 outcome responded).cons ?_
      rw [show speaker.event.effect = _ from responded]
      trivial
    · have unspoken := ruled.1 speaker.event (World.mem_past.mpr ⟨speaker, old, thread, rfl⟩)
      unfold responds at speaks
      split at speaks
      · rename_i outcome reply event
        rw [event] at unspoken
        exact unspoken.elim
      · cases speaks
  · rw [World.past_record_other _ self]
    have earlier : ∀ {entry : ServiceEntry}, entry ∈ (world.record latest).history →
        entry.thread = thread → entry ∈ world.history := by
      intro entry recorded inThread
      rcases List.mem_cons.mp recorded with rfl | old
      · exact absurd inThread self
      · exact old
    obtain ⟨speaker, recorded, inThread, speaks⟩ := answered
    exact concluded thread ⟨speaker, earlier recorded inThread, inThread, speaks⟩ other
      (earlier member same) same

end Chronicles

theorem eq_of_filterMap_singleton {Item Value : Type} {read : Item → Option Value}
    {items : List Item} {value : Value} (single : items.filterMap read = [value])
    {first second : Item} (memberFirst : first ∈ items) (memberSecond : second ∈ items)
    (readFirst : (read first).isSome = true) (readSecond : (read second).isSome = true) :
    first = second := by
  have one : (items.filter fun item => (read item).isSome).length = 1 := by
    rw [← List.countP_eq_length_filter, ← List.length_filterMap_eq_countP, single]
    rfl
  obtain ⟨only, same⟩ := List.length_eq_one_iff.mp one
  have isOnly : ∀ item ∈ items, (read item).isSome = true → item = only := by
    intro item member found
    exact List.mem_singleton.mp (same ▸ List.mem_filter.mpr ⟨member, found⟩)
  rw [isOnly first memberFirst readFirst, isOnly second memberSecond readSecond]

theorem written_certified {entry : ServiceEntry} {certificate : SecurityEvent × Option UserId}
    (wrote : written entry = some certificate) : certified entry.event = some certificate := by
  unfold written at wrote
  split at wrote
  · cases wrote
  · exact wrote

/-- Whatever the state the runs start in and whatever the interleaving, each line that a returned
call has certified in the log is corroborated by the call, and is its only one, exactly when the
call has no excuse: none of its writes was refused and, for a login, the account it had read may
log in. -/
theorem truthful_iff_unexcused (runtime : Runtime) (initial : State) (pool : ServicePool)
    (reachable : Reachable (service runtime) certifying initial pool) :
    Truthful pool.world ↔ Unexcused pool.world := by
  have chronicle : Chronicle (service runtime) certifying closed initial pool.world :=
    reachable.chronicle (fun _ _ _ _ _ performs accepted => accepts_lasting performs accepted)
      (fun _ _ _ _ _ performs => performs_prompt performs)
      fun request admitted => serve_closed runtime admitted
  -- One certificate of a returned call, and what its concluded account says of it.
  have account : ∀ entry ∈ pool.world.history, ∀ certificate ∈ written entry,
      Answered pool.world entry.thread →
      ∃ userId, certificate.2 = some userId ∧ entry.request.certificate = some certificate.1 ∧
        (pool.world.past entry.thread).any (vouches certificate.1 userId) =
          !excused certificate.1 (pool.world.past entry.thread) ∧
        ∀ other ∈ pool.world.history, other.thread = entry.thread →
          (written other).isSome → other = entry := by
    intro entry member certificate wrote answered
    have reports : certified entry.event = some certificate := written_certified wrote
    have inPast : entry.event ∈ pool.world.past entry.thread :=
      World.mem_past.mpr ⟨entry, member, rfl, rfl⟩
    have listed : certificate ∈ (pool.world.past entry.thread).filterMap certified :=
      List.mem_filterMap.mpr ⟨_, inPast, reports⟩
    rcases settled_of_answered chronicle member answered with none | ⟨eventType, userId, one,
      certifies, agree⟩
    · rw [none] at listed
      cases listed
    obtain rfl : certificate = (eventType, some userId) := by
      rwa [one, List.mem_singleton] at listed
    refine ⟨userId, rfl, certifies, agree, fun other memberOther same wroteOther => ?_⟩
    obtain ⟨certificateOther, found⟩ := Option.isSome_iff_exists.mp wroteOther
    have single : (pool.world.history.filter fun other => other.thread == entry.thread).filterMap
        (certified ∘ Entry.event) = [(eventType, some userId)] := by
      rw [← List.filterMap_map]
      exact one
    refine eq_of_filterMap_singleton single (List.mem_filter.mpr ⟨memberOther, by simp [same]⟩)
      (List.mem_filter.mpr ⟨member, by simp⟩) ?_ ?_
    · rw [Function.comp_apply, written_certified found]
      rfl
    · rw [Function.comp_apply, reports]
      rfl
  constructor
  · intro truthful entry member certificate wrote answered
    obtain ⟨userId, same, _, agree, _⟩ := account entry member certificate wrote answered
    obtain ⟨⟨_, user, given, other, memberOther, thread, vouched⟩, _⟩ :=
      truthful entry member certificate wrote answered
    obtain rfl : userId = user := Option.some.inj (same.symm.trans given)
    have found : (pool.world.past entry.thread).any (vouches certificate.1 userId) = true :=
      List.any_eq_true.mpr ⟨_, World.mem_past.mpr ⟨other, memberOther, thread, rfl⟩, vouched⟩
    rw [found] at agree
    simpa using agree.symm
  · intro unexcused entry member certificate wrote answered
    obtain ⟨userId, same, certifies, agree, once⟩ :=
      account entry member certificate wrote answered
    rw [unexcused entry member certificate wrote answered] at agree
    obtain ⟨event, inPast, vouched⟩ := List.any_eq_true.mp agree
    obtain ⟨other, memberOther, thread, rfl⟩ := World.mem_past.mp inPast
    exact ⟨⟨certifies, userId, same, other, memberOther, thread, vouched⟩, once⟩

/-! ### Two logins -/

/-- The user `0` has registered and not verified the email. -/
def registered : State :=
  (played .lax (signedIn.take 13)).world.state

/-- The user `0` has verified the email. -/
def emailVerified : State :=
  (played .lax (signedIn.take 19)).world.state

/-- That user logs in. -/
def loggingIn (initial : State) : ServicePool :=
  (Pool.start initial).playAll (service legibleRuntime) (.strict certifying)
    (.accept (.login ⟨"a@x", "pw"⟩ "ip" "agent") ::
      steps 0 [{}, {}, {}, { text := "r1" }, {}, {}, {}])

theorem loggingIn_reachable (initial : State) :
    Reachable (service legibleRuntime) certifying initial (loggingIn initial) :=
  Pool.playAll_reachable (Referee.strict_upholds certifying) initial _

/-- The log can certify a login that was turned away. -/
theorem log_not_truthful :
    ¬ ∀ (runtime : Runtime) (initial : State) (pool : ServicePool),
      Reachable (service runtime) certifying initial pool → Truthful pool.world := by
  intro truthful
  have holds := truthful legibleRuntime registered _ (loggingIn_reachable registered)
  have broken : ∃ entry ∈ (loggingIn registered).world.history,
      written entry = some (.loginSuccess, some 0) ∧
        Answered (loggingIn registered).world entry.thread ∧
        ¬Corroborated (loggingIn registered).world entry (.loginSuccess, some 0) := by
    decide +kernel
  obtain ⟨entry, member, wrote, answered, uncorroborated⟩ := broken
  exact uncorroborated (holds entry member _ wrote answered).1

/-- The login of a verified user is certified, and truthfully. -/
theorem truthful_iff_unexcused_login :
    (∃ entry ∈ (loggingIn emailVerified).world.history,
        written entry = some (.loginSuccess, some 0) ∧
          Answered (loggingIn emailVerified).world entry.thread) ∧
      Truthful (loggingIn emailVerified).world :=
  ⟨by decide +kernel, (truthful_iff_unexcused legibleRuntime emailVerified _
    (loggingIn_reachable emailVerified)).mpr (by decide +kernel)⟩

end GraconAuth
