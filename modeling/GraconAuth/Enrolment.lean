/-
This file proves that a newcomer gets in. Whoever has an identity that a lookup
resolves, and is linked to no account yet, can register, activate the account through
the mailed link and sign in with the chosen password; with a foreign identity the
session is a full one at once, and with a national one a submission that the engine
passes makes it a full one. Full access is never given without a proven identity, and
here it is shown that it is given with one.
-/

import GraconAuth.Promotion
import GraconAuth.RegistrationConflicts

namespace GraconAuth

open Interleaving Program Rows
open UsersService (RegisterDto RegistrationIdentityRecord)
open VerificationService (attemptWindowMs)

variable {runtime : Runtime} {db next : Database} {user : UserRow} {clock : Timestamp}
  {state : State} {token : RawToken} {supply : Supply}

/-! ### The registration -/

/-- The identity that the lookup of a registration resolves to. -/
def Supply.identity (supply : Supply) (dto : RegisterDto) : Option RegistrationIdentityRecord :=
  if truthy dto.fin then
    resolved ⟨.lookupForeignIdentity (dto.fin.getD ""), .ok supply.foreign⟩
  else resolved ⟨.lookupCitizen (dto.documentNumber.getD ""), .ok supply.citizen⟩

/-- The dto gives one number, which resolves to an identity, and neither the address nor the
number nor the platform id that is drawn is taken. -/
structure Newcomer (runtime : Runtime) (supply : Supply) (db : Database) (dto : RegisterDto)
    (identity : RegistrationIdentityRecord) : Prop where
  exclusive : truthy dto.documentNumber = !truthy dto.fin
  resolves : supply.identity dto = some identity
  unlinked : ¬Linked runtime db dto identity
  untaken : ¬IdTaken runtime db identity supply.digits

theorem resolveRegistrationIdentity_returns {dto : RegisterDto}
    {identity : RegistrationIdentityRecord} (resolves : supply.identity dto = some identity) :
    (UsersService.resolveRegistrationIdentity dto).Returns (calm supply) (fun found now =>
      found = identity ∧ Meanwhile state now state.db state.outbox) state := by
  unfold Supply.identity at resolves
  unfold UsersService.resolveRegistrationIdentity
  by_cases foreign : truthy dto.fin = true
  · rw [if_pos foreign] at resolves ⊢
    unfold UsersService.resolveForeignRegistrationIdentity
    refine (returns_lookupForeignIdentity _).bind ?_
    rintro _ found ⟨rfl, meanwhile⟩
    obtain ⟨profile, active, born⟩ := Option.bind_eq_some_iff.mp resolves
    obtain ⟨dateOfBirth, dated, built⟩ := Option.map_eq_some_iff.mp born
    rw [active]
    dsimp only
    rw [dated]
    exact returns_done ⟨built, meanwhile⟩
  · rw [if_neg foreign] at resolves ⊢
    unfold UsersService.resolveCitizenRegistrationIdentity
    refine (returns_lookupCitizen _).bind ?_
    rintro _ found ⟨rfl, meanwhile⟩
    exact returns_done ⟨Option.some.inj resolves, meanwhile⟩

/-- What a registration leaves of the account it makes. -/
structure NewAccount (runtime : Runtime) (dto : RegisterDto)
    (identity : RegistrationIdentityRecord) (user : UserRow) : Prop where
  email : user.email = dto.email
  unverified : user.isVerified = false
  isIdVerified : user.isIdVerified = decide (identity.identityType = .FIN)
  password : runtime.bcryptCompare dto.password user.passwordHash = true

/-- No account has the next number. -/
theorem Database.Settled.fresh (settled : db.Settled runtime) {userId : UserId}
    (known : userId ∈ db.accounts) : userId ≠ db.nextId :=
  Nat.ne_of_lt (settled.enrolled.keyed.below userId known)

theorem draft_enrols (dto : RegisterDto) {identity : RegistrationIdentityRecord}
    {salt iv pidIv digits : String} {rawToken : RawToken} {now : Timestamp} :
    let data := dto.draft runtime identity salt iv pidIv digits rawToken now
    Enrols runtime data.isIdVerified data.identityType data.nidEncrypted := by
  refine ⟨fun foreign => decide_eq_true foreign, fun national => ⟨iv, identity.identityNumber, ?_⟩⟩
  have notForeign : ¬identity.identityType = .FIN := by
    rw [show identity.identityType = .NID from national]
    decide
  exact if_neg notForeign

theorem register_stands (works : runtime.Works) (settled : db.Settled runtime) {dto : RegisterDto}
    {identity : RegistrationIdentityRecord} {salt iv pidIv digits : String} {rawToken : RawToken}
    {now : Timestamp}
    (ran : db.register clock
      (dto.draft runtime identity salt iv pidIv digits rawToken now) = .ok next) :
    ∃ user : UserRow, user.id = db.nextId ∧ NewAccount runtime dto identity user ∧
      Stands runtime next user ∧ next.idVerifications = db.idVerifications ∧
        ∃ row, next.findEmailVerificationToken user.id = some row ∧
          row.tokenHash = runtime.hash rawToken ∧ row.used = false ∧
            row.expiresAt = now + UsersService.TOKEN_EXPIRY_MS := by
  have after : next.Settled runtime :=
    ⟨register_wellFormed ran settled.wellFormed,
      register_sound (draft_coherent runtime dto identity salt iv pidIv digits rawToken now) ran
        settled.sound, enrolled_registered settled.enrolled (draft_enrols dto) ran,
      register_readable works ran settled.readable⟩
  have absent : db.emailVerificationTokens.find? (fun row => row.userId == db.nextId) = none := by
    refine List.find?_eq_none.mpr fun row stored taken => ?_
    refine settled.fresh ?_ (beq_iff_eq.mp taken)
    rw [← settled.sound.linkOwners]
    exact List.mem_map_of_mem stored
  unfold Database.register at ran
  split at ran
  · cases ran
  · cases ran
    refine ⟨_, ?_, ⟨?_, ?_, ?_, ?_⟩, ⟨after, List.mem_concat_self⟩, rfl, ?_⟩
    · rfl
    · rfl
    · rfl
    · rfl
    · exact works.compares salt dto.password
    · unfold Database.findEmailVerificationToken
      rw [List.find?_append]
      dsimp only
      rw [absent, Option.none_or]
      exact ⟨_, List.find?_cons_of_pos (beq_self_eq_true db.nextId), rfl, rfl, rfl⟩

/-- A registration that nothing stands against is carried out. -/
theorem Newcomer.register {dto : RegisterDto} {identity : RegistrationIdentityRecord}
    (newcomer : Newcomer runtime supply db dto identity) (salt iv pidIv : String)
    (rawToken : RawToken) (now clock : Timestamp) :
    ∃ next, db.register clock
      (dto.draft runtime identity salt iv pidIv supply.digits rawToken now) = .ok next := by
  cases ran : db.register clock
      (dto.draft runtime identity salt iv pidIv supply.digits rawToken now) with
  | ok next => exact ⟨next, rfl⟩
  | error error =>
    have refused : error = .uniqueConstraint := by
      unfold Database.register at ran
      split at ran
      · exact (Except.error.inj ran).symm
      · cases ran
    rw [refused] at ran
    rcases register_draft_error_iff.mp ran with linked | taken
    · exact absurd linked newcomer.unlinked
    · exact absurd taken newcomer.untaken

/-- A newcomer is registered, and the link is mailed. -/
theorem register_returns (works : runtime.Works) (settled : state.db.Settled runtime)
    {dto : RegisterDto} {identity : RegistrationIdentityRecord}
    (newcomer : Newcomer runtime supply state.db dto identity) :
    (UsersService.register runtime dto).Returns (calm supply) (fun result now =>
      ∃ user : UserRow, result.userId = user.id ∧ NewAccount runtime dto identity user ∧
        LinkSent runtime user supply.token state.clock now ∧
          ∀ row ∈ now.db.idVerifications, row.userId ≠ user.id) state := by
  unfold UsersService.register UsersService.assertExclusiveIdentityInput
  rw [Program.bind_assoc]
  refine guarantees_passed (by rw [newcomer.exclusive]; cases truthy dto.fin <;> rfl) ?_
  refine guarantees_passed (by rw [newcomer.exclusive]; cases truthy dto.fin <;> rfl) ?_
  refine Returns.bind (resolveRegistrationIdentity_returns newcomer.resolves) ?_
  rintro resolved found ⟨same, first⟩
  rw [same]
  refine (returns_userFindUnique _).bind ?_
  rintro _ asked ⟨rfl, second⟩
  have freeEmail : state.db.findUser (.byEmail dto.email) = none :=
    Option.eq_none_iff_forall_ne_some.mpr fun user taken => newcomer.unlinked (.inl ⟨user, taken⟩)
  refine guarantees_passed (by rw [first.db, freeEmail]; rfl) ?_
  refine (returns_citizenIdentityFindFirst _ _).bind ?_
  rintro _ checked ⟨rfl, third⟩
  have here : asked.db = state.db := (first.wait second).db
  have freeNumber : state.db.findCitizenIdentity identity.identityType
      (runtime.hash identity.identityNumber) = none :=
    Option.eq_none_iff_forall_ne_some.mpr fun row taken => newcomer.unlinked (.inr ⟨row, taken⟩)
  refine guarantees_passed (by rw [here, freeNumber]; rfl) ?_
  unfold bcryptHash EncryptionService.encrypt PidService.generate
  simp only [Program.bind_assoc, pure_eq, done_bind]
  refine returns_bcryptSalt.bind fun salt salted fourth => ?_
  refine returns_randomBytes.bind fun iv drawn fifth => ?_
  refine (returns_randomDigits _).bind ?_
  rintro digits numbered ⟨drew, sixth⟩
  rw [drew]
  refine returns_randomBytes.bind fun pidIv again seventh => ?_
  refine returns_randomToken.bind ?_
  rintro rawToken tokened ⟨drewToken, eighth⟩
  rw [drewToken]
  refine returns_now.bind ?_
  rintro _ timed ⟨rfl, ninth⟩
  have meanwhile : Meanwhile state timed state.db state.outbox :=
    (((((((first.wait second).wait third).wait fourth).wait fifth).wait sixth).wait seventh).wait
      eighth).wait ninth
  have unchanged : timed.db = state.db := meanwhile.db
  refine (Returns.rescue (returns_registerTransaction fun clock =>
    unchanged ▸ newcomer.register salt iv pidIv supply.token timed.clock clock) _).bind ?_
  rintro _ stored ⟨rfl, db, ran, tenth⟩
  rw [unchanged] at ran
  obtain ⟨user, id, registered, stands, unattempted, row, sent, hashed, fresh, expires⟩ :=
    register_stands works settled ran
  refine (returns_send _).bind fun _ mailed eleventh => returns_done ?_
  have after : mailed.db = db := eleventh.db.trans tenth.db
  refine ⟨user, by rw [id, unchanged], registered, ⟨after ▸ stands, ⟨row, after ▸ sent, hashed,
    fresh, ?_⟩, ?_⟩, ?_⟩
  · rw [expires]
    exact Int.add_le_add_right meanwhile.clock _
  · rw [eleventh.outbox]
    exact ⟨_, List.mem_cons_self, rfl, registered.email.symm, by rw [id, unchanged], rfl⟩
  · rw [after, unattempted, id]
    exact fun row attempted => settled.fresh (settled.sound.attemptOwners row attempted)

/-! ### The newcomer -/

/-- The mailed link lets the newcomer in, when it is used by the deadline: the account is opened by
the password that was chosen, and if its identity is not proven yet, a submission can prove it. -/
def LinkWelcomes (runtime : Runtime) (user : UserRow) (password : String) (token : RawToken)
    (deadline : Timestamp) (state : State) : Prop :=
  ∀ supply : Supply, state.Unissued runtime supply.token →
    (serve runtime (.verifyEmail ⟨user.id, token⟩)).Guarantees (calm supply)
      (fun outcome verified => verified.clock ≤ deadline →
        (∃ result, outcome = .ok (.emailVerified result)) ∧
        ∃ account, SameAccount user account ∧ SignsIn runtime account password verified ∧
          (account.isIdVerified = false → Promotes runtime account verified)) state

theorem LinkSent.welcomes (works : runtime.Works)
    (sealing : ∀ iv plainText, runtime.encrypt iv plainText ≠ "") {password : String}
    {since : Timestamp} (sent : LinkSent runtime user token since state)
    (unverified : user.isVerified = false)
    (matched : runtime.bcryptCompare password user.passwordHash = true)
    (unattempted : ∀ row ∈ state.db.idVerifications, row.userId ≠ user.id) :
    LinkWelcomes runtime user password token (since + UsersService.TOKEN_EXPIRY_MS) state := by
  intro supply unissued
  refine guarantees_serve rfl ?_
  unfold Request.handle
  refine (guarantees_timely (verifyEmail_guarantees unverified sent unissued) ?_).weaken ?_
  · rintro verified later same ⟨account, kept, activated, unchanged, still, standing⟩
    exact ⟨account, kept, activated, unchanged, same ▸ still, same ▸ standing⟩
  · intro outcome verified holds final passed inTime
    obtain ⟨answered, account, kept, activated, unchanged, still, standing⟩ :=
      holds final passed inTime
    refine ⟨answered, account, kept, standing.signsIn activated (unchanged ▸ matched),
      fun unproven => standing.promotes works sealing activated unproven fun _ => ?_⟩
    have none : final.db.attemptsSince account.id (final.clock - attemptWindowMs runtime) = [] := by
      unfold Database.attemptsSince
      rw [still, List.filter_eq_nil_iff.mpr fun row stored counted => ?_]
      · rfl
      · refine unattempted row stored ?_
        rw [← kept.id]
        exact beq_iff_eq.mp (Bool.and_eq_true_iff.mp counted).1
    unfold State.counted
    rw [none]
    decide

/-- **A newcomer gets in.** In every state that the service reaches, whoever has an identity that
is linked to no account can register with it, and the link that is mailed leads to an account
which the chosen password opens: with a foreign identity its sessions are full ones, and with a
national one they become so through a submission that the engine passes. -/
theorem newcomer_gets_in (works : runtime.Works)
    (sealing : ∀ iv plainText, runtime.encrypt iv plainText ≠ "") {pool : ServicePool}
    (reachable : Reachable (service runtime) .free (State.empty clock) pool) {dto : RegisterDto}
    {identity : RegistrationIdentityRecord}
    (newcomer : Newcomer runtime supply pool.world.state.db dto identity) :
    (serve runtime (.register dto)).Guarantees (calm supply) (fun outcome registered =>
      ∃ result user, outcome = .ok (.registration result) ∧ result.userId = user.id ∧
        NewAccount runtime dto identity user ∧
        (∃ mail ∈ registered.outbox, mail.LinksTo .emailVerification user supply.token) ∧
        LinkWelcomes runtime user dto.password supply.token
          (pool.world.state.clock + UsersService.TOKEN_EXPIRY_MS) registered)
      pool.world.state := by
  refine guarantees_serve rfl ?_
  unfold Request.handle
  refine Guarantees.bind (register_returns works (reachable_settled works reachable) newcomer) ?_
  rintro result now ⟨user, same, registered, sent, unattempted⟩ later meanwhile
  have there : LinkSent runtime user supply.token pool.world.state.clock later :=
    ⟨meanwhile.db ▸ sent.stands, meanwhile.db ▸ sent.link, meanwhile.outbox ▸ sent.mailed⟩
  exact ⟨result, user, rfl, same, registered, there.mailed, there.welcomes works sealing
    registered.unverified registered.password (meanwhile.db ▸ unattempted)⟩

/-- The foreigner has signed in there. -/
def inhabited : ServicePool :=
  (Pool.start (State.empty 0)).playAll (service sealingRuntime) .lax signedIn

/-- Ann Lee comes with the national number `N1`. -/
theorem newcomer_gets_in_ann :
    inhabited.world.state.db.users.map (·.email) = ["a@x"] ∧
      (serve sealingRuntime (.register ⟨some "N1", none, "b@x", none, "pw"⟩)).Guarantees
        (calm { token := "r2", digits := "1", citizen := ⟨"Ann", "Lee", "F", 0, "RW"⟩ })
        (fun outcome registered => ∃ result user, outcome = .ok (.registration result) ∧
          result.userId = user.id ∧
          NewAccount sealingRuntime ⟨some "N1", none, "b@x", none, "pw"⟩
            ⟨.NID, "N1", "Ann", "Lee", "F", 0, "RW"⟩ user ∧
          (∃ mail ∈ registered.outbox, mail.LinksTo .emailVerification user "r2") ∧
          LinkWelcomes sealingRuntime user "pw" "r2"
            (inhabited.world.state.clock + UsersService.TOKEN_EXPIRY_MS) registered)
        inhabited.world.state := by
  refine ⟨by decide +kernel, newcomer_gets_in sealingRuntime_works
    sealingRuntime_sealing
    (Pool.playAll_reachable Referee.lax_upholds _ signedIn) ⟨by decide, by decide, ?_, ?_⟩⟩
  · have free : inhabited.world.state.db.findUser (.byEmail "b@x") = none ∧
        inhabited.world.state.db.findCitizenIdentity .NID "#N1" = none := by decide +kernel
    rintro (⟨_, taken⟩ | ⟨_, taken⟩)
    · cases free.1.symm.trans taken
    · cases free.2.symm.trans taken
  · unfold IdTaken
    decide +kernel

end GraconAuth
