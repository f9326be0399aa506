/-
This file ties an account to the registration that has created it: the identity that
any call reads of the account is the one which the registration has stored, since
nothing writes the table of identities but registrations.
-/

import GraconAuth.DocumentMatch
import GraconAuth.Registration
import GraconAuth.Submission

namespace GraconAuth

open Interleaving Program Rows
open UsersService (RegisterDto)

variable {runtime : Runtime}

/-- The identity row of a registration. -/
def RegistrationCreate.identity (data : RegistrationCreate) (id : RowId) (userId : UserId) :
    CitizenIdentityRow where
  id := id
  userId := userId
  identityType := data.identityType
  nidEncrypted := data.nidEncrypted
  nidHash := data.nidHash
  finEncrypted := data.finEncrypted
  finHash := data.finHash
  surName := data.surName
  postNames := data.postNames
  sex := data.sex
  dateOfBirth := data.dateOfBirth
  countryOfBirth := data.countryOfBirth

/-- The identities belong to users that have been numbered. -/
def Database.Numbered (db : Database) : Prop :=
  ∀ identity ∈ db.citizenIdentities, identity.userId < db.nextId

theorem register_identity {db next : Database} {clock : Timestamp} {data : RegistrationCreate}
    (ran : db.register clock data = .ok next) :
    next.citizenIdentities = db.citizenIdentities ++ [data.identity (db.nextId + 1) db.nextId] ∧
      next.nextId = db.nextId + 4 := by
  unfold Database.register at ran
  split at ran
  · cases ran
  · cases ran
    exact ⟨rfl, rfl⟩

theorem performs_numbered {state next : State} {effect : Effect}
    {reply : Except Failure effect.Reply} (performs : environment.Performs state effect reply next)
    (numbered : state.db.Numbered) : next.db.Numbered := by
  refine performs_preserves Database.Numbered performs ?_ ?_
    (fun _ holds identity member => Nat.lt_succ_of_lt (holds identity member)) numbered
  · intro _ _ statement _ now later holds carried identity member
    have same : later.citizenIdentities = now.citizenIdentities := by cases carried <;> rfl
    rw [same] at member
    exact Nat.lt_of_lt_of_le (holds identity member) carried.nextId
  · intro data later holds ran identity member
    obtain ⟨identities, counter⟩ := register_identity ran
    rw [identities] at member
    rw [counter]
    rcases List.mem_append.mp member with old | new
    · exact Nat.lt_of_lt_of_le (holds identity old) (Nat.le_add_right _ _)
    · rw [List.mem_singleton.mp new]
      exact Nat.lt_add_of_pos_right (by decide)

section Chronicles

variable {regime : Regime State Effect.Reply Failure Request} {rule : Request → ServiceConduct}
  {clock : Timestamp} {world : ServiceWorld}
  (chronicle : Chronicle (service runtime) regime rule (State.empty clock) world)

include chronicle

theorem chronicle_numbered : world.state.db.Numbered := by
  refine chronicle.invariant (fun world => world.state.db.Numbered)
    (by simp [Database.Numbered, State.empty]) ?_
  intro world entry _ numbered admissible
  refine performs_numbered admissible.performs ?_
  rw [admissible.current]
  exact numbered

/-- The account keeps the identity that the registration has given to it. -/
theorem identityOf_created {entry : ServiceEntry} {data : RegistrationCreate} {userId : UserId}
    (member : entry ∈ world.history)
    (event : entry.event = ⟨.registerTransaction data, .ok userId⟩) :
    ∃ id, world.state.db.identityOf userId = some (data.identity id userId) := by
  obtain ⟨earlier, before, admissible, _⟩ := chronicle.recalls member
  have performs : environment.Performs entry.before entry.effect entry.reply entry.after :=
    admissible.performs
  obtain ⟨rfl, ran⟩ := performs_registerTransaction (performs_event performs event)
  obtain ⟨identities, _⟩ := register_identity ran
  refine ⟨entry.before.db.nextId + 1, chronicle.lasts (fun state =>
    state.db.identityOf entry.before.db.nextId =
      some (data.identity (entry.before.db.nextId + 1) entry.before.db.nextId))
    (fun _ _ _ _ performs found => performs_identityOf performs found) member (.inr ?_)⟩
  have fresh : entry.before.db.citizenIdentities.find?
      (fun row => row.userId == entry.before.db.nextId) = none := by
    refine List.find?_eq_none.mpr fun row stored taken => ?_
    have numbered := chronicle_numbered before
    rw [← admissible.current] at numbered
    exact absurd (numbered row stored) (by rw [beq_iff_eq.mp taken]; exact Nat.lt_irrefl _)
  rw [Database.identityOf, identities, List.find?_append, fresh, Option.none_or]
  exact List.find?_cons_of_pos (by simp [RegistrationCreate.identity])

/-- The identity that a call has read is the one of the account. -/
theorem identityOf_read {thread : Nat} {userId : UserId} {identity : CitizenIdentityRow}
    (read : ReadIdentity userId (world.past thread) identity) :
    world.state.db.identityOf userId = some identity := by
  obtain ⟨record, past, stored⟩ := read
  obtain ⟨entry, member, _, event⟩ := World.mem_past.mp past
  obtain ⟨_, _, admissible, _⟩ := chronicle.recalls member
  have performs : environment.Performs entry.before entry.effect entry.reply entry.after :=
    admissible.performs
  have found := performs_userFindUnique (performs_event performs event)
  obtain ⟨user, foundUser, rfl⟩ := Option.map_eq_some_iff.mp found.symm
  obtain ⟨_, rfl⟩ := findUser_byId foundUser
  exact chronicle.lasts (fun state => state.db.identityOf user.id = some identity)
    (fun _ _ _ _ performs found => performs_identityOf performs found) member (.inl stored)

/-- What a call has read of an account is what the registration has stored. -/
theorem read_created {entry : ServiceEntry} {data : RegistrationCreate} {userId : UserId}
    {thread : Nat} {identity : CitizenIdentityRow} (member : entry ∈ world.history)
    (event : entry.event = ⟨.registerTransaction data, .ok userId⟩)
    (read : ReadIdentity userId (world.past thread) identity) :
    ∃ id, identity = data.identity id userId := by
  obtain ⟨id, created⟩ := identityOf_created chronicle member event
  rw [identityOf_read chronicle read] at created
  exact ⟨id, Option.some.inj created⟩

end Chronicles

end GraconAuth
