/-
This file says how the calls of a pool come to an end.

A program is a finite tree, so a pool that lets no further request in can take only
finitely many steps, whatever is chosen. It need not get anywhere on the way: an
effect that the environment does not answer blocks its call. A pool in which no
call can advance is at rest, and the question is whether all its calls have ended
by then. What a call has done when it has ended is the postcondition that its
program keeps.
-/

import GraconAuth.Pool
import Mathlib.Logic.Hydra
import Mathlib.Order.WellFounded

namespace Interleaving

open Relation

variable {State Choice Effect Failure Request Result : Type} {Reply : Effect → Type}

/-- The program has nothing left to do. -/
def Program.Ended : Program Effect Reply Failure Result → Prop
  | .done _ | .raise _ => True
  | .await _ _ => False

/-- One program is what another continues with after its next effect. -/
def Program.Resumes (rest program : Program Effect Reply Failure Result) : Prop :=
  ∃ effect resume reply, program = .await effect resume ∧ rest = resume reply

theorem Program.resumes_wellFounded :
    WellFounded (@Program.Resumes Effect Failure Result Reply) := by
  refine ⟨fun program => ?_⟩
  induction program with
  | done result => exact ⟨_, fun _ ⟨_, _, _, same, _⟩ => nomatch same⟩
  | raise failure => exact ⟨_, fun _ ⟨_, _, _, same, _⟩ => nomatch same⟩
  | await effect resume inductionHypothesis =>
    refine ⟨_, fun rest ⟨_, _, reply, same, continues⟩ => ?_⟩
    cases same
    exact continues ▸ inductionHypothesis reply

variable (service : Service State Choice Reply Failure Request Result)
  (regime : Regime State Reply Failure Request)

/-- A step that lets no request in. -/
def Advance (pool next : Pool State Reply Failure Request Result) : Prop :=
  Step service regime pool next ∧ next.calls.length = pool.calls.length

/-- No call can advance. -/
def Pool.AtRest (pool : Pool State Reply Failure Request Result) : Prop :=
  ∀ next, ¬Advance service regime pool next

variable {service regime}

/-- What is left of the calls. -/
def Pool.remainders (pool : Pool State Reply Failure Request Result) :
    Multiset (Program Effect Reply Failure Result) :=
  Multiset.ofList (pool.calls.map Call.rest)

theorem Advance.cutExpand {pool next : Pool State Reply Failure Request Result}
    (advance : Advance service regime pool next) :
    CutExpand Program.Resumes next.remainders pool.remainders := by
  obtain ⟨step, same⟩ := advance
  cases step with
  | accept request accepted admitted => simp at same
  | advance thread request effect resume reply after running performs permitted =>
    obtain ⟨bound, found⟩ := List.getElem?_eq_some_iff.mp running
    obtain ⟨front, back, split, length⟩ :
        ∃ front back, pool.calls = front ++ ⟨request, .await effect resume⟩ :: back ∧
          front.length = thread := by
      refine ⟨pool.calls.take thread, pool.calls.drop (thread + 1), ?_,
        List.length_take_of_le (Nat.le_of_lt bound)⟩
      rw [← found, List.cons_getElem_drop_succ, List.take_append_drop]
    have replaced : pool.calls.set thread ⟨request, resume reply⟩ =
        front ++ ⟨request, resume reply⟩ :: back := by
      rw [split, ← length, List.set_append_right _ _ (Nat.le_refl _), Nat.sub_self,
        List.set_cons_zero]
    refine ⟨{resume reply}, .await effect resume, fun rest member => ?_, ?_⟩
    · rw [Multiset.mem_singleton.mp member]
      exact ⟨effect, resume, reply, rfl, rfl⟩
    · simp only [Pool.remainders, replaced]
      rw [split]
      simp only [List.map_append, List.map_cons, ← Multiset.coe_add, ← Multiset.cons_coe,
        ← Multiset.singleton_add]
      ac_rfl

/-- No schedule of the calls that have been accepted goes on forever. -/
theorem advance_wellFounded :
    WellFounded fun next pool : Pool State Reply Failure Request Result =>
      Advance service regime pool next :=
  Subrelation.wf (fun advance => advance.cutExpand)
    (InvImage.wf Pool.remainders Program.resumes_wellFounded.cutExpand)

theorem no_endless_advance (run : Nat → Pool State Reply Failure Request Result) :
    ∃ turn, ¬Advance service regime (run turn) (run (turn + 1)) := by
  by_contra endless
  rw [not_exists] at endless
  have wellFounded : WellFounded fun next pool => Advance service regime pool next :=
    advance_wellFounded
  exact (wellFounded_iff_isEmpty_descending_chain.mp wellFounded).elim
    ⟨run, fun turn => not_not.mp (endless turn)⟩

/-- Every pool can be brought to rest. -/
theorem comes_to_rest (pool : Pool State Reply Failure Request Result) :
    ∃ final, ReflTransGen (Advance service regime) pool final ∧ final.AtRest service regime := by
  have wellFounded : WellFounded fun next pool => Advance service regime pool next :=
    advance_wellFounded
  induction pool using wellFounded.induction with
  | _ pool inductionHypothesis =>
    by_cases moves : ∃ next, Advance service regime pool next
    · obtain ⟨next, advance⟩ := moves
      obtain ⟨final, later, rests⟩ := inductionHypothesis next advance
      exact ⟨final, .head advance later, rests⟩
    · exact ⟨pool, .refl, not_exists.mp moves⟩

/-- At rest, the next effect of a call that has not ended is blocked. -/
theorem Pool.AtRest.blocked {pool : Pool State Reply Failure Request Result}
    (rests : pool.AtRest service .free) {thread : Nat} {request : Request} {effect : Effect}
    {resume : Except Failure (Reply effect) → Program Effect Reply Failure Result}
    (running : pool.calls[thread]? = some ⟨request, .await effect resume⟩)
    (reply : Except Failure (Reply effect)) (next : State) :
    ¬service.environment.Performs pool.world.state effect reply next := by
  intro performs
  exact rests _ ⟨.advance pool thread request effect resume reply next running performs trivial,
    List.length_set⟩

theorem Advance.reaches {initial : State} {pool final : Pool State Reply Failure Request Result}
    (reachable : Reachable service regime initial pool)
    (later : ReflTransGen (Advance service regime) pool final) :
    Reachable service regime initial final :=
  reachable.trans (ReflTransGen.mono (fun _ _ advance => advance.1) _ _ later)

/-- Every entry was made by a call of the pool. -/
theorem Reachable.inRange {initial : State} {pool : Pool State Reply Failure Request Result}
    (reachable : Reachable service regime initial pool) :
    ∀ entry ∈ pool.world.history, entry.thread < pool.calls.length := by
  induction reachable with
  | refl => simp [Pool.start]
  | tail _ step inductionHypothesis =>
    cases step with
    | accept request accepted admitted =>
      intro entry member
      exact Nat.lt_of_lt_of_le (inductionHypothesis entry member) (by simp)
    | advance thread request effect resume reply next running performs permitted =>
      intro entry member
      rw [List.length_set]
      rcases List.mem_cons.mp member with rfl | old
      · exact (List.getElem?_eq_some_iff.mp running).1
      · exact inductionHypothesis entry old

/-- What is left of a call keeps to the rule and to the postcondition that the whole call keeps
to, after what the call has done. -/
theorem Reachable.kept {rule : Request → Program.Conduct Reply Failure}
    {post : Request → List (Event Reply Failure) → Except Failure Result → Prop}
    {initial : State} {pool : Pool State Reply Failure Request Result}
    (reachable : Reachable service regime initial pool)
    (expects : ∀ state effect reply next request, service.environment.Performs state effect reply
      next → (rule request).expects ⟨effect, reply⟩)
    (follows : ∀ request, (service.serve request).Follows (rule request) (post request) [])
    {thread : Nat} {call : Call Reply Failure Request Result}
    (found : pool.calls[thread]? = some call) :
    call.rest.Follows (rule call.request) (post call.request) (pool.world.past thread) := by
  induction reachable generalizing thread call with
  | refl => cases found
  | @tail before _ earlier step inductionHypothesis =>
    cases step with
    | accept request accepted admitted =>
      rw [List.getElem?_append] at found
      split at found
      · exact inductionHypothesis found
      · rename_i outside
        have nothing : before.world.past thread = [] := by
          simp only [World.past, List.map_eq_nil_iff, List.filter_eq_nil_iff, beq_iff_eq]
          intro entry member same
          exact outside (same ▸ Reachable.inRange earlier entry member)
        rw [nothing, List.mem_singleton.mp (List.mem_of_getElem? found)]
        exact follows request
    | advance other request effect resume reply next running performs permitted =>
      by_cases self : other = thread
      · subst self
        rw [List.getElem?_set_self (List.getElem?_eq_some_iff.mp running).1] at found
        cases found
        rw [World.past_record_self _ ⟨other, request, _, effect, reply, next⟩]
        exact (inductionHypothesis running).2 reply (expects _ _ _ _ _ performs)
      · rw [List.getElem?_set_ne self] at found
        rw [World.past_record_other _ self]
        exact inductionHypothesis found

end Interleaving
