/-
This file is about a given number of calls that are in flight together: all of them
have arrived, and no other call arrives. A property of every way in which these
calls overlap is a property of every pool that they reach. The calls keep their
places, so each is known by its position, and what a call has come to is known from
the postcondition of its program.
-/

import GraconAuth.Pool

namespace Interleaving

open Relation

variable {State Choice Effect Failure Request Result : Type} {Reply : Effect → Type}

/-- The regime once no more requests arrive. -/
def Regime.closed (regime : Regime State Reply Failure Request) :
    Regime State Reply Failure Request where
  admits _ := False
  permits := regime.permits

/-- The regime under which these requests arrive. -/
def Regime.among (regime : Regime State Reply Failure Request) (requests : List Request) :
    Regime State Reply Failure Request where
  admits request := request ∈ requests
  permits := regime.permits

instance (regime : Regime State Reply Failure Request) (request : Request) :
    Decidable (regime.closed.admits request) :=
  inferInstanceAs (Decidable False)

instance (regime : Regime State Reply Failure Request)
    [∀ world entry, Decidable (regime.permits world entry)]
    (world : World State Reply Failure Request) (entry : Entry State Reply Failure Request) :
    Decidable (regime.closed.permits world entry) :=
  inferInstanceAs (Decidable (regime.permits world entry))

instance (world : World State Reply Failure Request) (entry : Entry State Reply Failure Request) :
    Decidable ((Regime.free : Regime State Reply Failure Request).permits world entry) :=
  inferInstanceAs (Decidable True)

variable (service : Service State Choice Reply Failure Request Result)

/-- The pool in which these requests have arrived and none has been taken up. -/
def Pool.gathered (initial : State) (requests : List Request) :
    Pool State Reply Failure Request Result where
  world := ⟨initial, []⟩
  calls := requests.map fun request => ⟨request, service.serve request⟩

/-- The pools that these calls lead to, however they overlap. -/
def Gathers (regime : Regime State Reply Failure Request) (initial : State)
    (requests : List Request) (pool : Pool State Reply Failure Request Result) : Prop :=
  ReflTransGen (Step service regime.closed) (Pool.gathered service initial requests) pool

variable {service} {regime : Regime State Reply Failure Request} {initial : State}
  {requests : List Request} {pool : Pool State Reply Failure Request Result}

/-- The calls keep their places. -/
theorem Gathers.places (gathers : Gathers service regime initial requests pool) :
    pool.calls.map Call.request = requests := by
  induction gathers with
  | refl => simp [Pool.gathered, Function.comp_def]
  | tail _ step inductionHypothesis =>
    cases step with
    | accept request accepted admitted => exact admitted.elim
    | advance thread request effect resume reply next running performs permitted =>
      rw [← inductionHypothesis, List.map_set]
      refine List.ext_getElem? fun index => ?_
      rw [List.getElem?_set]
      split
      · rename_i same
        subst same
        rw [List.getElem?_map, running]
        split
        · rfl
        · rename_i beyond
          rw [List.length_map] at beyond
          exact absurd (List.getElem?_eq_some_iff.mp running).1 beyond
      · rfl

/-- What is known of the call at a place: its request, and what is left of its program. -/
theorem Gathers.call (gathers : Gathers service regime initial requests pool) {thread : Nat}
    {request : Request} {rest : Program Effect Reply Failure Result}
    (asked : requests[thread]? = some request)
    (left : (pool.calls.map Call.rest)[thread]? = some rest) :
    pool.calls[thread]? = some ⟨request, rest⟩ := by
  rw [← gathers.places, List.getElem?_map] at asked
  rw [List.getElem?_map] at left
  cases found : pool.calls[thread]? with
  | none =>
    rw [found] at asked
    cases asked
  | some call =>
    rw [found] at asked left
    cases asked
    cases left
    rfl

theorem Step.weaken {weaker : Regime State Reply Failure Request}
    {next : Pool State Reply Failure Request Result}
    (admits : ∀ request, regime.admits request → weaker.admits request)
    (permits : ∀ world entry, regime.permits world entry → weaker.permits world entry)
    (step : Step service regime pool next) : Step service weaker pool next := by
  cases step with
  | accept request accepted admitted => exact .accept pool request accepted (admits _ admitted)
  | advance thread request effect resume reply after running performs permitted =>
    exact .advance pool thread request effect resume reply after running performs
      (permits _ _ permitted)

/-- The calls can arrive one after another before any of them is taken up. -/
theorem gathered_reachable (accepted : ∀ request ∈ requests, service.accepts initial request = true)
    (among : ∀ request ∈ requests, regime.admits request) :
    Reachable service regime initial (Pool.gathered service initial requests) := by
  induction requests using List.reverseRecOn with
  | nil => exact .refl
  | append_singleton earlier request inductionHypothesis =>
    have before := inductionHypothesis
      (fun other member => accepted other (List.mem_append_left _ member))
      (fun other member => among other (List.mem_append_left _ member))
    have arrived := Step.accept (Pool.gathered service initial earlier) request
      (accepted request (List.mem_append_right _ (List.mem_singleton_self _)))
      (among request (List.mem_append_right _ (List.mem_singleton_self _)))
    refine before.tail ?_
    simpa only [Pool.gathered, List.map_append, List.map_singleton] using arrived

/-- What a gathering leads to, a run leads to in which just these requests arrive. -/
theorem Gathers.reachable (gathers : Gathers service regime initial requests pool)
    (accepted : ∀ request ∈ requests, service.accepts initial request = true) :
    Reachable service (regime.among requests) initial pool := by
  induction gathers with
  | refl => exact gathered_reachable accepted fun _ member => member
  | tail _ step inductionHypothesis =>
    have admits : ∀ request, regime.closed.admits request →
        (regime.among requests).admits request := fun _ => False.elim
    have permits : ∀ world entry, regime.closed.permits world entry →
        (regime.among requests).permits world entry := fun _ _ permitted => permitted
    exact inductionHypothesis.tail (step.weaken admits permits)

/-- Everything in the history was done by one of the calls. -/
theorem Gathers.owned (gathers : Gathers service regime initial requests pool) :
    ∀ entry ∈ pool.world.history, requests[entry.thread]? = some entry.request := by
  induction gathers with
  | refl => simp [Pool.gathered]
  | tail before step inductionHypothesis =>
    cases step with
    | accept request accepted admitted => exact inductionHypothesis
    | advance thread request effect resume reply next running performs permitted =>
      refine List.forall_mem_cons.mpr ⟨?_, inductionHypothesis⟩
      rw [← Gathers.places before, List.getElem?_map, running, Option.map_some]

/-- Nothing but these calls has done anything. -/
theorem Gathers.thread_lt (gathers : Gathers service regime initial requests pool)
    {entry : Entry State Reply Failure Request} (member : entry ∈ pool.world.history) :
    entry.thread < requests.length :=
  (List.getElem?_eq_some_iff.mp (gathers.owned entry member)).1

/-- Each call keeps to its rule, towards its postcondition. -/
theorem Gathers.follows {rule : Request → Program.Conduct Reply Failure}
    {post : Request → List (Event Reply Failure) → Except Failure Result → Prop}
    (gathers : Gathers service regime initial requests pool)
    (expects : ∀ state effect reply next request, service.environment.Performs state effect reply
      next → (rule request).expects ⟨effect, reply⟩)
    (follows : ∀ request ∈ requests, (service.serve request).Follows (rule request) (post request)
      []) :
    ∀ (thread : Nat) (call : Call Reply Failure Request Result), pool.calls[thread]? = some call →
      call.rest.Follows (rule call.request) (post call.request) (pool.world.past thread) := by
  induction gathers with
  | refl =>
    intro thread call found
    obtain ⟨request, asked, rfl⟩ := List.mem_map.mp (List.mem_of_getElem? found)
    exact follows request asked
  | tail _ step inductionHypothesis =>
    intro other call found
    cases step with
    | accept request accepted admitted => exact admitted.elim
    | advance thread request effect resume reply next running performs permitted =>
      have bound := (List.getElem?_eq_some_iff.mp running).1
      by_cases self : thread = other
      · subst self
        rw [List.getElem?_set_self bound] at found
        cases found
        rw [World.past_record_self _ ⟨thread, request, _, effect, reply, next⟩]
        exact (inductionHypothesis thread _ running).2 reply (expects _ _ _ _ _ performs)
      · rw [List.getElem?_set_ne self] at found
        rw [World.past_record_other _ self]
        exact inductionHypothesis other call found

/-- A call that has ended meets its postcondition. -/
theorem Gathers.ended {rule : Request → Program.Conduct Reply Failure}
    {post : Request → List (Event Reply Failure) → Except Failure Result → Prop}
    (gathers : Gathers service regime initial requests pool)
    (expects : ∀ state effect reply next request, service.environment.Performs state effect reply
      next → (rule request).expects ⟨effect, reply⟩)
    (follows : ∀ request ∈ requests, (service.serve request).Follows (rule request) (post request)
      []) {thread : Nat} {request : Request} {outcome : Except Failure Result}
    (ended : pool.calls[thread]? = some ⟨request, .ofOutcome outcome⟩) :
    post request (pool.world.past thread) outcome :=
  Program.follows_ofOutcome.mp (gathers.follows expects follows thread _ ended)

end Interleaving
