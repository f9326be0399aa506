/-
This file keeps the account of a serial run: the random tokens that its calls have
drawn, each by one call only when no two of them have the same digest.
-/

import GraconAuth.Rotations
import Mathlib.Data.List.Pairwise

namespace GraconAuth

open Interleaving Program

variable {runtime : Runtime} {before after : State} {trace : List ServiceEvent}

/-! ### Random tokens -/

theorem performs_drew {state next : State} {effect : Effect} {reply : Except Failure effect.Reply}
    (performs : environment.Performs state effect reply next) :
    next.drawn = (drew ⟨effect, reply⟩).toList ++ state.drawn := by
  by_cases draws : effect = .randomToken
  · subst draws
    obtain ⟨raw, rfl, drawn⟩ := performs_randomToken performs
    exact drawn
  · have nothing : drew ⟨effect, reply⟩ = none := by
      cases found : drew ⟨effect, reply⟩ with
      | none => rfl
      | some token => exact absurd (congrArg Event.effect (event_of_drew found)) draws
    rw [nothing]
    rcases performs_drawn performs with same | ⟨text, event, _⟩
    · exact same
    · exact absurd (congrArg Event.effect event) draws

/-- The tokens drawn after a run are those from before and those of its trace. -/
theorem runs_drawn {Result : Type} {program : Async Result} {outcome : Except Failure Result}
    (run : Runs environment program before trace outcome after) :
    after.drawn = (trace.filterMap drew).reverse ++ before.drawn := by
  induction program generalizing before trace with
  | done result =>
    obtain ⟨rfl, _, rfl⟩ := run
    rfl
  | raise failure =>
    obtain ⟨rfl, _, rfl⟩ := run
    rfl
  | await effect resume inductionHypothesis =>
    obtain ⟨reply, between, rest, rfl, performs, inner⟩ := run
    rw [inductionHypothesis reply inner, performs_drew performs, List.filterMap_cons]
    cases drew ⟨effect, reply⟩ with
    | none => rfl
    | some token => simp

/-- The tokens that a call has drawn, newest first. -/
def drawnBy (served : ServiceServed) : List RawToken :=
  (served.trace.filterMap drew).reverse

theorem mem_drawnBy {served : ServiceServed} {token : RawToken} :
    token ∈ drawnBy served ↔ ∃ event ∈ served.trace, drew event = some token := by
  rw [drawnBy, List.mem_reverse, List.mem_filterMap]

/-- The tokens drawn in a serial run are those of its calls. -/
theorem serial_drawn {initial state : State} {log : List ServiceServed}
    (serial : SerialRun (service runtime) initial log state) :
    state.drawn = log.flatMap drawnBy ++ initial.drawn := by
  induction serial with
  | start => rfl
  | @serve log served earlier valid inductionHypothesis =>
    rw [runs_drawn valid.runs, inductionHypothesis, List.flatMap_cons, List.append_assoc]
    rfl

/-- Tokens of one digest are one token, drawn by one call. -/
theorem drawn_once {initial state : State} {log : List ServiceServed}
    (serial : SerialRun (service runtime) initial log state)
    (distinct : (state.drawn.map runtime.hash).Nodup) {first second : ServiceServed}
    (memberFirst : first ∈ log) (memberSecond : second ∈ log) {one other : RawToken}
    (drawnFirst : one ∈ drawnBy first) (drawnSecond : other ∈ drawnBy second)
    (same : runtime.hash one = runtime.hash other) : first = second ∧ one = other := by
  rw [serial_drawn serial, List.map_append] at distinct
  have calls := distinct.of_append_left
  refine ⟨?_, ?_⟩
  · by_contra different
    rw [List.map_flatMap, List.nodup_flatMap] at calls
    have symmetric : Std.Symm (Function.onFun List.Disjoint fun served =>
        (drawnBy served).map runtime.hash) := ⟨fun _ _ disjoint _ one other => disjoint other one⟩
    refine calls.2.forall memberFirst memberSecond different (List.mem_map_of_mem drawnFirst) ?_
    rw [same]
    exact List.mem_map_of_mem drawnSecond
  · exact List.inj_on_of_nodup_map calls (List.mem_flatMap.mpr ⟨first, memberFirst, drawnFirst⟩)
      (List.mem_flatMap.mpr ⟨second, memberSecond, drawnSecond⟩) same

end GraconAuth
