/-
This file says whom an answer may tell of an account. Tokens and profiles leave the
service in answers only. An answer that shows an account goes to a call that is
entitled to it, to the subject of the access token that came with the request, or to
the registration that has made the account. A refresh may be answered by the rotation
of another call: then that call has presented the same refresh token, and the tokens
are for the account that the token leads to.
-/

import GraconAuth.Entitlement
import GraconAuth.Rotations
import GraconAuth.SingleSuccessor

namespace GraconAuth

open Interleaving Program

variable (runtime : Runtime)

/-- The accounts whose access token or whose profile an answer shows. -/
def Response.accounts : Response → List UserId
  | .tokens issued => [issued.accessToken.payload.sub]
  | .login result => [result.accessToken.payload.sub, result.user.userId]
  | .registration result => [result.userId]
  | .emailVerified result =>
    match result.session with
    | none => []
    | some (issued, user) => [issued.accessToken.payload.sub, user.userId]
  | .profile result => [result.id]
  | .verification result =>
    match result.upgradedTokens with
    | none => []
    | some issued => [issued.accessToken.payload.sub]
  | .message _ | .validity _ | .verificationStatus _ | .nothing => []

/-- What lets a call learn of an account. -/
def MayLearn (past : List ServiceEvent) (userId : UserId) (request : Request) : Prop :=
  EntitledTo runtime past userId request ∨
    (∃ jwt metadata, request.guard = some (jwt, metadata) ∧ jwt.payload.sub = userId) ∨
    ∃ data, ⟨.registerTransaction data, .ok userId⟩ ∈ past

/-- The answer that an effect sends. -/
def Effect.answer : Effect → Option Response
  | .respond (.ok response) => some response
  | _ => none

theorem Effect.answer_some {effect : Effect} {response : Response}
    (answers : effect.answer = some response) : effect = .respond (.ok response) := by
  unfold Effect.answer at answers
  split at answers
  · cases answers
    rfl
  · cases answers

/-! ### The rule -/

/-- A rotation comes to tokens for the user of the token that was presented, and every other
answer shows what its call may learn. -/
def revealing (request : Request) (past : List ServiceEvent) : Effect → Prop
  | .settleFlight key _ (.ok tokens) => ∃ storedToken user,
    ReadToken past key.tokenHash storedToken user ∧ user.id = tokens.accessToken.payload.sub
  | .respond (.ok response) => request.flightKey runtime = none →
    ∀ userId ∈ response.accounts, MayLearn runtime past userId request
  | _ => True

/-- A signature is made on what it was asked for. -/
def Signs : ServiceEvent → Prop
  | ⟨.sign payload _, .ok jwt⟩ => jwt.payload = payload
  | _ => True

theorem performs_signs {state next : State} {effect : Effect} {reply : Except Failure effect.Reply}
    (performs : environment.Performs state effect reply next) : Signs ⟨effect, reply⟩ := by
  unfold Signs
  split
  · rename_i same
    cases same
    cases performs_sign performs
    rfl
  · trivial

/-- The rule, for replies that are plausible. -/
def discreet (request : Request) : ServiceConduct where
  expects event := Plausible event ∧ Signs event
  allows := revealing runtime request

theorem harmless_revealing {request : Request} (past : List ServiceEvent) (effect : Effect)
    (harmless : effect.Harmless) : revealing runtime request past effect := by
  cases effect with
  | settleFlight key flight outcome => exact harmless.elim
  | respond outcome => exact harmless.elim
  | _ => trivial

/-- A request that does not refresh settles nothing. -/
theorem awaits_revealing {request : Request} (still : request.flightKey runtime = none)
    (past : List ServiceEvent) (effect : Effect) (awaits : request.Awaits effect) :
    revealing runtime request past effect := by
  cases effect with
  | settleFlight key flight outcome =>
    have idle : request.rotates = false := by cases request <;> first | rfl | cases still
    rw [awaits_rotates awaits rfl] at idle
    cases idle
  | respond outcome =>
    cases request <;> simp [Request.Awaits, Effect.Links, Effect.Issues, Effect.Rotates] at awaits
  | _ => trivial

/-! ### The calls -/

section Traversal

variable {runtime} {request : Request} {past : List ServiceEvent}

theorem generateTokens_subject (userId : UserId) (email : Email) (ipAddress userAgent : String)
    (tokenType : TokenType) :
    (AuthService.generateTokens runtime userId email ipAddress userAgent tokenType).Follows
      (discreet runtime request)
      (Results fun _ tokens => tokens.accessToken.payload.sub = userId) past := by
  refine results_perform_bind trivial fun accessToken expected => results_perform_bind trivial
    fun token _ => results_perform_bind trivial fun now _ => results_perform_bind trivial
      fun _ _ => results_ok.mpr ?_
  have signed : accessToken.payload = ⟨userId, email, some tokenType⟩ := expected.2
  rw [signed]

theorem buildSafeProfile_owner (record : UserRecord) :
    (AuthService.buildSafeProfile runtime record).Follows (discreet runtime request)
      (Results fun _ profile => profile.userId = record.user.id) past :=
  ((resolveProfileImageAccess_uses record.user.imageUrl).abides
    (harmless_revealing runtime)).results_bind fun _ _ _ => ((decryptFin_uses runtime record).abides
      (harmless_revealing runtime)).results_bind fun _ _ _ => results_ok.mpr rfl

theorem buildVerificationSessionProfile_owner (record : UserRecord) :
    (UsersService.buildVerificationSessionProfile runtime record).Follows (discreet runtime request)
      (Results fun _ profile => profile.userId = record.user.id) past :=
  ((decryptFin_uses runtime record).abides (harmless_revealing runtime)).results_bind
    fun _ _ _ => results_ok.mpr rfl

theorem getProfile_owner (userId : UserId) :
    (UsersService.getProfile runtime userId).Follows (discreet runtime request)
      (Results fun _ profile => profile.id = userId) past := by
  refine results_perform_bind trivial fun user expected => ?_
  cases user with
  | none => exact results_error
  | some record =>
    have owner : record.user.id = userId := expected.1
    refine ((decryptPid_uses runtime record).abides (harmless_revealing runtime)).results_bind
      fun _ _ _ => ((decryptFin_uses runtime record).abides
        (harmless_revealing runtime)).results_bind fun _ _ _ =>
          ((resolveProfileImageAccess_uses _).abides (harmless_revealing runtime)).results_bind
            fun _ _ _ => results_ok.mpr owner

theorem register_learns (dto : UsersService.RegisterDto) :
    (UsersService.register runtime dto).Follows (discreet runtime (.register dto))
      (Results fun now result => ∃ data, ⟨.registerTransaction data, .ok result.userId⟩ ∈ now)
      past := by
  have harmless : ∀ past effect, effect.Harmless → revealing runtime (.register dto) past effect :=
    harmless_revealing runtime
  refine ((assertExclusiveIdentityInput_uses dto).abides harmless).results_bind fun _ _ _ =>
    ((resolveRegistrationIdentity_uses dto).abides harmless).results_bind fun _ identity _ =>
    results_perform_bind trivial fun _ _ => results_throwIf_bind fun _ =>
    results_perform_bind trivial fun _ _ => results_throwIf_bind fun _ =>
    ((bcryptHash_uses runtime _).abides harmless).results_bind fun _ _ _ =>
    ((encrypt_uses runtime _).abides harmless).results_bind fun _ _ _ =>
    ((generate_uses runtime _).abides harmless).results_bind fun _ _ _ =>
    ((encrypt_uses runtime _).abides harmless).results_bind fun _ _ _ =>
    results_perform_bind trivial fun _ _ => results_perform_bind trivial fun _ _ => ?_
  refine Follows.results_bind (?_ : Follows _ (Results fun now userId =>
    ∃ data, ⟨.registerTransaction data, .ok userId⟩ ∈ now) _ _) fun now userId registered _ => ?_
  · refine follows_rescue.mpr (follows_perform.mpr ⟨trivial, fun reply _ => ?_⟩)
    cases reply with
    | error failure => exact results_error
    | ok userId => exact results_ok.mpr ⟨_, List.mem_cons_self⟩
  · obtain ⟨data, made⟩ := registered
    exact Abides.results_bind (abides_rescue (abides_perform trivial) fun _ _ => trivial)
      fun _ _ grown => results_ok.mpr ⟨data, grown made⟩

theorem login_learns (dto : AuthService.LoginDto) (ipAddress userAgent : String) :
    (AuthService.login runtime dto ipAddress userAgent).Follows
      (discreet runtime (.login dto ipAddress userAgent))
      (Results fun now result => ∃ userId,
        EntitledTo runtime now userId (.login dto ipAddress userAgent) ∧
          result.accessToken.payload.sub = userId ∧ result.user.userId = userId) past := by
  refine results_perform_bind trivial fun user _ => ?_
  split
  · exact results_perform_bind trivial fun _ _ => results_error
  · rename_i record matched
    obtain ⟨rfl, valid⟩ := Option.filter_eq_some_iff.mp matched
    refine results_perform_bind trivial fun _ _ => results_throwIf_bind fun verified =>
      results_throwIf_bind fun active => (generateTokens_subject _ _ _ _ _).results_bind
        fun now tokens subject grown => (buildSafeProfile_owner record).results_bind
          fun later profile owner still => results_ok.mpr ⟨record.user.id, ?_, subject, owner⟩
    exact ⟨record, still (grown (List.mem_cons_of_mem _ List.mem_cons_self)), rfl, valid,
      by simpa using verified, by simpa using active⟩

theorem generatePostEmailVerificationTokens_subject (userId : UserId) (email : Email) :
    (UsersService.generatePostEmailVerificationTokens runtime userId email).Follows
      (discreet runtime request)
      (Results fun _ tokens => tokens.accessToken.payload.sub = userId) past := by
  refine results_perform_bind trivial fun accessToken expected => results_perform_bind trivial
    fun token _ => results_perform_bind trivial fun now _ => results_perform_bind trivial
      fun _ _ => results_ok.mpr ?_
  have signed : accessToken.payload = ⟨userId, email, some .limited⟩ := expected.2
  rw [signed]

theorem verifyEmail_learns (dto : UsersService.VerifyEmailDto) :
    (UsersService.verifyEmail runtime dto).Follows (discreet runtime (.verifyEmail dto))
      (Results fun now result => ∀ session ∈ result.session,
        EntitledTo runtime now dto.userId (.verifyEmail dto) ∧
          session.1.accessToken.payload.sub = dto.userId ∧ session.2.userId = dto.userId) past := by
  have harmless : ∀ past effect, effect.Harmless →
      revealing runtime (.verifyEmail dto) past effect := harmless_revealing runtime
  refine results_perform_bind trivial fun found expected => ?_
  match found with
  | none => exact results_error
  | some (tokenRecord, record) =>
    have owner : record.user.id = dto.userId := expected.1.2
    dsimp only
    split
    · exact results_ok.mpr fun session member => absurd member (Option.not_mem_none session)
    · rename_i unverified
      refine results_throwIf_bind fun unused => results_perform_bind trivial fun now _ =>
        results_throwIf_bind fun early => results_throwIf_bind fun matching =>
          results_perform_bind trivial fun _ _ => ?_
      refine ((decryptPid_uses runtime record).abides harmless).results_bind fun _ _ grown =>
        ((sendWelcomeEmail_uses _ _ _ _).abides harmless).results_bind fun _ _ still => ?_
      split
      · exact results_ok.mpr fun session member => absurd member (Option.not_mem_none session)
      · refine (generatePostEmailVerificationTokens_subject _ _).results_bind
          fun _ tokens subject kept => (buildVerificationSessionProfile_owner record).results_bind
            fun later profile shown stays => results_ok.mpr ?_
        rintro session ⟨⟩
        refine ⟨⟨rfl, tokenRecord, record, ?_, by simpa using unverified, by simpa using unused,
          ⟨now, ?_, by simpa using early⟩, ?_⟩, subject.trans owner, shown.trans owner⟩
        · exact stays (kept (still (grown (by simp))))
        · exact stays (kept (still (grown (by simp))))
        · rw [Bool.not_eq_false'] at matching
          exact (beq_iff_eq.mp matching).symm

theorem runSingleFlightRefresh_learns {key : FlightKey} {task : Async AuthTokens}
    (rotates : ∀ now, task.Follows (discreet runtime request)
      (Results fun now tokens => ∃ storedToken user,
        ReadToken now key.tokenHash storedToken user ∧
          user.id = tokens.accessToken.payload.sub) now) :
    (AuthService.runSingleFlightRefresh key task).Abides (discreet runtime request) past := by
  refine abides_perform_bind trivial fun role _ => ?_
  cases role with
  | follower flight => exact abides_perform trivial
  | leader flight =>
    refine follows_bind.mpr (follows_attempt.mpr ((rotates _).weaken fun now outcome reached =>
      follows_perform_bind.mpr ⟨?_, fun _ _ => follows_ofOutcome.mpr trivial, fun _ _ => trivial⟩))
    cases outcome with
    | error failure => trivial
    | ok tokens => exact reached tokens rfl

theorem rotateRefreshToken_learns (tokenHash : TokenHash) (ipAddress userAgent : String)
    (requireFullToken : Bool) :
    (AuthService.rotateRefreshToken runtime tokenHash ipAddress userAgent requireFullToken).Follows
      (discreet runtime request)
      (Results fun now tokens => ∃ storedToken user, ReadToken now tokenHash storedToken user ∧
        user.id = tokens.accessToken.payload.sub) past := by
  refine results_perform_bind trivial fun found _ => ?_
  match found with
  | none => exact results_error
  | some (storedToken, user) =>
    dsimp only
    split
    · exact results_perform_bind trivial fun _ _ => results_perform_bind trivial fun _ _ =>
        results_error
    · refine results_perform_bind trivial fun now _ => results_throwIf_bind fun _ =>
        results_throwIf_bind fun _ => results_throwIf_bind fun _ =>
          results_perform_bind trivial fun _ _ => ?_
      refine ((generateTokens_subject _ _ _ _ _).grown).weaken fun later outcome reached => ?_
      rintro tokens rfl
      exact ⟨storedToken, user, reached.2 (by simp), (results_ok.mp reached.1).symm⟩

theorem updateProfile_owner (userId : UserId) (dto : UsersService.UpdateProfileDto) :
    (UsersService.updateProfile runtime userId dto).Follows (discreet runtime request)
      (Results fun _ profile => profile.id = userId) past := by
  refine results_perform_bind trivial fun user _ => ?_
  cases user with
  | none => exact results_error
  | some record =>
    dsimp only
    split
    · exact results_perform_bind trivial fun _ _ => getProfile_owner userId
    · refine ((rejectTakenEmail_uses _ _).abides (harmless_revealing runtime)).results_bind
        fun _ _ _ => results_perform_bind trivial fun _ _ => Abides.results_bind
          ((replaceVerificationToken_uses runtime _ _ _).abides ?_) fun _ _ _ =>
            getProfile_owner userId
      rintro now effect (harmless | links)
      · exact harmless_revealing runtime now effect harmless
      · cases effect <;> trivial

theorem upgradeToken_subject (userId : UserId) (ipAddress userAgent : String) :
    (AuthService.upgradeToken runtime userId ipAddress userAgent).Follows (discreet runtime request)
      (Results fun _ tokens => tokens.accessToken.payload.sub = userId) past := by
  refine results_perform_bind trivial fun _ _ => results_perform_bind trivial
    fun user expected => ?_
  cases user with
  | none => exact results_error
  | some record =>
    have owner : record.user.id = userId := expected.1
    rw [← owner]
    exact generateTokens_subject _ _ _ _ _

theorem submitVerification_subject (userId : UserId)
    (dto : VerificationService.SubmitVerificationDto) (ipAddress : String) :
    (VerificationService.submitVerification runtime userId dto ipAddress).Follows
      (discreet runtime request)
      (Results fun _ result => ∀ tokens ∈ result.upgradedTokens,
        tokens.accessToken.payload.sub = userId) past := by
  have harmless : ∀ past effect, effect.Harmless → revealing runtime request past effect :=
    harmless_revealing runtime
  have window : ∀ past effect,
      (effect.Harmless ∨ ∃ userId since, effect = .idVerificationFindMany userId since) →
        revealing runtime request past effect := by
    rintro past effect (inside | ⟨_, _, rfl⟩)
    · exact harmless past effect inside
    · trivial
  have records : ∀ data past,
      (VerificationService.recordAttempt data).Abides (discreet runtime request) past :=
    fun data past => abides_rescue (abides_perform trivial) fun _ _ => trivial
  refine results_perform_bind trivial fun user _ => ?_
  cases user with
  | none => exact results_error
  | some record =>
    refine results_throwIf_bind fun _ => results_throwIf_bind fun _ => results_throwIf_bind
      fun _ => ((enforceAttemptLimit_uses runtime userId).abides window).results_bind
        fun _ _ _ => ?_
    unfold VerificationService.verifyIdentity
    split
    · exact results_error
    · refine results_throwIf_bind fun _ => ((decrypt_uses runtime _).abides harmless).results_bind
        fun _ _ _ => ((uploadImages_uses _ _ _).abides harmless).results_bind fun _ _ _ =>
          Abides.results_bind (Abides.attempt (abides_rescue (abides_perform trivial)
            fun _ _ => trivial)) fun _ answer _ => ?_
      cases answer with
      | error failure =>
        exact ((cleanupImages_uses _ _).abides harmless).results_bind fun _ _ _ =>
          ((getNextAttemptNumber_uses _).abides harmless).results_bind fun _ _ _ =>
            (records _ _).results_bind fun _ _ _ => results_error
      | ok answer =>
        refine ((getNextAttemptNumber_uses _).abides harmless).results_bind fun _ _ _ =>
          (records _ _).results_bind fun _ _ _ =>
            ((cleanupImages_uses _ _).abides harmless).results_bind fun _ _ _ =>
              Follows.results_bind (?_ : Follows _ (Results fun _ upgraded => ∀ tokens ∈ upgraded,
                tokens.accessToken.payload.sub = userId) _ _) fun _ upgraded subject _ =>
                  results_perform_bind trivial fun _ _ =>
                    ((getVerificationWindowState_uses runtime userId).abides window).results_bind
                      fun _ _ _ => results_ok.mpr subject
        unfold VerificationService.applyVerdict
        split
        · refine results_perform_bind trivial fun _ _ => results_perform_bind trivial fun _ _ =>
            (upgradeToken_subject userId _ _).results_bind fun _ tokens subject _ =>
              results_ok.mpr ?_
          rintro other ⟨⟩
          exact subject
        · exact results_perform_bind trivial fun _ _ => results_ok.mpr fun tokens member =>
            absurd member (Option.not_mem_none tokens)

end Traversal

/-- What a handler makes of a result is answered as the rule allows. -/
theorem answers_revealing {runtime : Runtime} {request : Request} {past : List ServiceEvent}
    {Result : Type} {program : Async Result} {answer : Result → Response}
    (follows : program.Follows (discreet runtime request)
      (Results fun now result => request.flightKey runtime = none →
        ∀ userId ∈ (answer result).accounts, MayLearn runtime now userId request) past) :
    (program >>= fun result => pure (answer result)).Follows (discreet runtime request)
      (fun now outcome => revealing runtime request now (.respond outcome)) past :=
  follows.bind (fun _ result learns => learns result rfl) fun _ _ _ => trivial

/-- Every call keeps to the rule. -/
theorem serve_revealing (request : Request) :
    (serve runtime request).Abides (discreet runtime request) [] := by
  have expectation : ∀ event : ServiceEvent, Plausible event ∧ Signs event → Plausible event :=
    fun _ => And.left
  have silent : ∀ {Result : Type} {program : Async Result} {answer : Result → Response}
      {past : List ServiceEvent}, request.flightKey runtime = none →
        (∀ result, (answer result).accounts = []) →
        (program >>= fun result => pure (answer result)).Uses
          (fun effect => effect.Harmless ∨ request.Awaits effect) →
        (program >>= fun result => pure (answer result)).Follows (discreet runtime request)
          (fun now outcome => revealing runtime request now (.respond outcome)) past := by
    intro Result program answer past still none uses
    have abides : Abides (discreet runtime request) (program >>= fun result => pure (answer result))
        past := uses.abides fun now effect inside => inside.elim
      (harmless_revealing runtime now effect) (awaits_revealing runtime still now effect)
    refine follows_bind.mpr ((follows_bind.mp abides).weaken fun now outcome _ => ?_)
    cases outcome with
    | error failure => trivial
    | ok result =>
      intro _ userId listed
      rw [none] at listed
      cases listed
  cases request with
  | register dto =>
    refine serve_follows runtime _ (harmless_revealing runtime) (fun _ _ _ _ => trivial)
      fun past userId _ => answers_revealing ((register_learns dto).weaken ?_)
    rintro now outcome learns result same _ userId listed
    obtain ⟨data, made⟩ := learns result same
    obtain rfl := List.mem_singleton.mp listed
    exact .inr (.inr ⟨data, made⟩)
  | login dto ipAddress userAgent =>
    refine serve_follows runtime _ (harmless_revealing runtime) (fun _ _ _ _ => trivial)
      fun past userId _ => answers_revealing ((login_learns dto ipAddress userAgent).weaken ?_)
    rintro now outcome learns result same _ other listed
    obtain ⟨userId, entitled, subject, owner⟩ := learns result same
    simp only [Response.accounts, subject, owner, List.mem_cons, List.not_mem_nil, or_false,
      or_self] at listed
    exact .inl (listed ▸ entitled)
  | verifyEmail dto =>
    refine serve_follows runtime _ (harmless_revealing runtime) (fun _ _ _ _ => trivial)
      fun past userId _ => answers_revealing ((verifyEmail_learns dto).weaken ?_)
    rintro now outcome learns result same _ other listed
    cases given : result.session with
    | none => simp [Response.accounts, given] at listed
    | some session =>
      obtain ⟨entitled, subject, owner⟩ := learns result same session given
      simp only [Response.accounts, given, subject, owner, List.mem_cons, List.not_mem_nil,
        or_false, or_self] at listed
      exact .inl (listed ▸ entitled)
  | refreshTokens process refreshToken ipAddress userAgent =>
    refine serve_follows runtime _ (harmless_revealing runtime) (fun _ _ _ _ => trivial)
      fun past userId _ => answers_revealing ((runSingleFlightRefresh_learns fun now =>
        rotateRefreshToken_learns _ _ _ _).weaken ?_)
    intro now outcome _ result _ still
    cases still
  | upgradeSession process refreshToken ipAddress userAgent =>
    refine serve_follows runtime _ (harmless_revealing runtime) (fun _ _ _ _ => trivial)
      fun past userId _ => answers_revealing (Follows.weaken (Abides.bind
        (runSingleFlightRefresh_learns fun now => rotateRefreshToken_learns _ _ _ _)
          fun _ _ => abides_throwIf_bind fun _ => trivial) ?_)
    intro now outcome _ result _ still
    cases still
  | getProfile jwt =>
    refine serve_subject_follows runtime rfl expectation trivial (fun _ _ => trivial)
      fun past => answers_revealing ((getProfile_owner _).weaken ?_)
    rintro now outcome owner result same _ userId listed
    obtain rfl := List.mem_singleton.mp listed
    exact .inr (.inl ⟨jwt, none, rfl, (owner result same).symm⟩)
  | updateProfile jwt dto =>
    refine serve_subject_follows runtime rfl expectation trivial (fun _ _ => trivial)
      fun past => answers_revealing ((updateProfile_owner _ dto).weaken ?_)
    rintro now outcome owner result same _ userId listed
    obtain rfl := List.mem_singleton.mp listed
    exact .inr (.inl ⟨jwt, none, rfl, (owner result same).symm⟩)
  | submitVerification jwt dto ipAddress =>
    refine serve_subject_follows runtime rfl expectation trivial (fun _ _ => trivial)
      fun past => answers_revealing ((submitVerification_subject _ dto ipAddress).weaken ?_)
    rintro now outcome subject result same _ userId listed
    cases given : result.upgradedTokens with
    | none => simp [Response.accounts, given] at listed
    | some tokens =>
      simp only [Response.accounts, given, List.mem_singleton] at listed
      exact .inr (.inl ⟨jwt, some .any, rfl,
        (subject result same tokens given).symm.trans listed.symm⟩)
  | resendVerificationEmail _ | requestReset _ | validateResetToken _ _ | resetPassword _
  | logout _ _ | logoutAllDevices _ | changePassword _ _ | getVerificationStatus _
  | cleanupExpiredTokens =>
    exact serve_follows runtime _ (harmless_revealing runtime) (fun _ _ _ _ => trivial)
      fun past userId _ => silent rfl (fun _ => rfl) (handle_uses runtime userId _)

/-! ### The runs -/

/-- Somebody has presented the refresh token that the request carries, and it has led to the
account. -/
def Presented (history : List ServiceEntry) (userId : UserId) (request : Request) : Prop :=
  ∃ key, request.flightKey runtime = some key ∧ ∃ read ∈ history, ∃ storedToken user,
    read.event = ⟨.refreshTokenFindUnique key.tokenHash, .ok (some (storedToken, user))⟩ ∧
      user.id = userId

variable {runtime}

/-- A refresh that is answered well is answered with the tokens that have come to it. -/
theorem tokens_of_answer {request : Request} {outcome : Except Failure AuthTokens}
    {response : Response} (answered : .ok response = request.answer outcome) :
    ∃ tokens, outcome = .ok tokens ∧ response = .tokens tokens := by
  unfold Request.answer at answered
  split at answered
  · split at answered
    · cases answered
      exact ⟨_, rfl, rfl⟩
    · cases answered
  · cases outcome with
    | error failure => cases answered
    | ok tokens =>
      cases answered
      exact ⟨tokens, rfl, rfl⟩

theorem reachable_discreet {regime : Regime State Effect.Reply Failure Request} {initial : State}
    {pool : ServicePool} (reachable : Reachable (service runtime) regime initial pool) :
    Chronicle (service runtime) regime (discreet runtime) initial pool.world :=
  reachable.chronicle (fun _ _ _ _ _ performs accepted => accepts_lasting performs accepted)
    (fun _ _ _ _ _ performs => ⟨ performs_plausible performs, performs_signs performs⟩)
    fun request _ => serve_revealing runtime request

section Chronicles

variable {regime : Regime State Effect.Reply Failure Request} {clock : Timestamp}
  {world : ServiceWorld}

/-- The tokens that a flight has been settled with are for the account that its key leads to. -/
theorem settled_presented
    (chronicle : Chronicle (service runtime) regime (discreet runtime) (State.empty clock) world)
    {settle : ServiceEntry} (member : settle ∈ world.history) {key : FlightKey} {flight : FlightId}
    {tokens : AuthTokens} (settles : settle.effect = .settleFlight key flight (.ok tokens)) :
    ∃ read ∈ world.history, ∃ storedToken user,
      read.event = ⟨.refreshTokenFindUnique key.tokenHash, .ok (some (storedToken, user))⟩ ∧
        user.id = tokens.accessToken.payload.sub := by
  obtain ⟨earlier, _, admissible, kept⟩ := chronicle.recalls member
  have ruled : revealing runtime settle.request (earlier.past settle.thread) settle.effect :=
    admissible.ruled
  rw [settles] at ruled
  obtain ⟨storedToken, user, past, owner⟩ := ruled
  obtain ⟨read, old, _, same⟩ := World.mem_past.mp past
  exact ⟨read, kept old, storedToken, user, same, owner⟩

/-- A refresh is answered with tokens for the account that its refresh token leads to, whichever
call has run the rotation. -/
theorem refresh_presented
    (coalesces : Chronicle (service runtime) regime
      (fun request => conduct (coalesced runtime request)) (State.empty clock) world)
    (reveals : Chronicle (service runtime) regime (discreet runtime) (State.empty clock) world)
    {request : Request} {thread : Nat} {key : FlightKey}
    (keyed : request.flightKey runtime = some key)
    (own : ∀ other ∈ world.history, other.thread = thread → other.request = request)
    {tokens : AuthTokens} (came : Came (world.past thread) (.ok tokens)) :
    Presented runtime world.history tokens.accessToken.payload.sub request := by
  obtain ⟨flight, ⟨join, memberJoin, sameThread, joined⟩, settle, member, settledKey, settles⟩ :=
    settled_of_came coalesces came
  obtain ⟨joinKey, joins, origin⟩ := origin_of_joined coalesces memberJoin joined
  -- The call has joined under the key of its own request.
  obtain ⟨_, _, admissibleJoin, _⟩ := coalesces.recalls memberJoin
  have ruledJoin := admissibleJoin.ruled
  rw [joins] at ruledJoin
  have ownKey : joinKey = key := by
    have given := ruledJoin.1
    rw [own join memberJoin sameThread, keyed] at given
    exact (Option.some.inj given).symm
  -- The flight was settled by the call that had started it, under the same key.
  obtain ⟨earlier, _, admissible, kept⟩ := coalesces.recalls member
  have ruled := admissible.ruled
  rw [settles] at ruled
  obtain ⟨⟨led, past, leadsSettled⟩, _⟩ := ruled
  obtain ⟨leader, old, _, rfl⟩ := World.mem_past.mp past
  rcases origin with pending | ⟨lead, memberLead, leads⟩
  · cases pending
  · obtain rfl := lead_once coalesces memberLead (kept old) leads leadsSettled
    rw [leads] at leadsSettled
    obtain rfl : joinKey = settledKey := congrArg Prod.fst (Option.some.inj leadsSettled)
    obtain ⟨read, memberRead, storedToken, user, same, owner⟩ :=
      settled_presented reveals member settles
    exact ⟨key, keyed, read, memberRead, storedToken, user, ownKey ▸ same, owner⟩

end Chronicles

/-- In every run an answer that shows the tokens or the profile of an account goes to a call that
may learn of the account, or to a refresh whose token has led to it. -/
theorem answers_stay_with_their_account {clock : Timestamp} {pool : ServicePool}
    (reachable : Reachable (service runtime) .free (State.empty clock) pool)
    {newer older : List ServiceEntry} {entry : ServiceEntry}
    (split : pool.world.history = newer ++ entry :: older) {response : Response}
    (answers : entry.effect = .respond (.ok response)) :
    ∀ userId ∈ response.accounts,
      MayLearn runtime (World.past ⟨entry.before, older⟩ entry.thread) userId entry.request ∨
        Presented runtime older userId entry.request := by
  intro userId listed
  obtain ⟨reveals, admissible⟩ := (reachable_discreet reachable).admissible split
  have ruled : revealing runtime entry.request
      (World.past ⟨entry.before, older⟩ entry.thread) entry.effect := admissible.ruled
  rw [answers] at ruled
  cases keyed : entry.request.flightKey runtime with
  | none => exact .inl (ruled keyed userId listed)
  | some key =>
    obtain ⟨coalesces, shares⟩ := (reachable_chronicle (coalesced runtime) reachable
      fun request _ => serve_coalesced runtime request).admissible split
    have answered : coalesced runtime entry.request
        (World.past ⟨entry.before, older⟩ entry.thread) entry.effect := shares.ruled
    rw [answers] at answered
    obtain ⟨outcome, came, same⟩ := answered key keyed
    obtain ⟨tokens, rfl, rfl⟩ := tokens_of_answer same
    obtain rfl := List.mem_singleton.mp listed
    exact .inr (refresh_presented coalesces reveals keyed shares.owned came)

/-- The login at the end of the run is answered to somebody who has shown the password. -/
theorem answers_stay_with_their_account_signedIn :
    ∃ entry ∈ (played .lax signedIn).world.history, ∃ older response,
      entry.effect = .respond (.ok response) ∧ 0 ∈ response.accounts ∧
        (MayLearn legibleRuntime (World.past ⟨entry.before, older⟩ entry.thread) 0 entry.request ∨
          Presented legibleRuntime older 0 entry.request) := by
  obtain ⟨entry, member, shows⟩ : ∃ entry ∈ (played .lax signedIn).world.history,
      entry.effect.answer.any (fun response => response.accounts.contains 0) = true := by
    decide
  obtain ⟨response, answers, shown⟩ := (Option.any_eq_true _ _).mp shows
  have answers := Effect.answer_some answers
  have shown := List.contains_iff_mem.mp shown
  obtain ⟨newer, older, split⟩ := List.append_of_mem member
  exact ⟨entry, member, older, response, answers, shown, answers_stay_with_their_account
    (played_reachable Referee.lax_upholds signedIn) split answers 0 shown⟩

end GraconAuth
