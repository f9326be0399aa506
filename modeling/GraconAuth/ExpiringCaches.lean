/-
This file is a library of caches whose lines run out. It names nothing of the system;
keys and values are any types, and times are integers.

A cache gives back what was put in under a key until the line has run out, or has been
replaced, or has been dropped to make room. So what it gives back was put in at most one
lifetime ago, and when nothing is dropped it gives something back for that long.
-/

import Mathlib.Data.List.Nodup

namespace ExpiringCaches

variable {Key Value : Type} [DecidableEq Key]

structure Line (Key Value : Type) where
  key : Key
  value : Value
  expires : Int

abbrev Cache (Key Value : Type) := List (Line Key Value)

/-- What is cached under a key. A line can be read up to the moment it runs out. -/
def get (cache : Cache Key Value) (now : Int) (key : Key) : Option Value :=
  (cache.find? fun line => line.key = key ∧ now ≤ line.expires).map (·.value)

/-- Put a value in, in place of what the key had. -/
def set (cache : Cache Key Value) (line : Line Key Value) : Cache Key Value :=
  line :: cache.filter fun other => other.key ≠ line.key

/-- Drop the lines of some keys. -/
def evict (dropped : Key → Bool) (cache : Cache Key Value) : Cache Key Value :=
  cache.filter fun line => !dropped line.key

variable {cache : Cache Key Value} {now : Int} {key : Key} {line other : Line Key Value}

theorem get_some {value : Value} (given : get cache now key = some value) :
    ∃ line ∈ cache, line.key = key ∧ line.value = value ∧ now ≤ line.expires := by
  obtain ⟨line, found, rfl⟩ := Option.map_eq_some_iff.mp given
  obtain ⟨same, early⟩ : line.key = key ∧ now ≤ line.expires := by
    simpa using List.find?_some found
  exact ⟨line, List.mem_of_find?_eq_some found, same, rfl, early⟩

/-- A key that nothing is given for has no line that could be read. -/
theorem get_none (missed : get cache now key = none) (cached : line ∈ cache)
    (same : line.key = key) : line.expires < now := by
  have unfit := List.find?_eq_none.mp (Option.map_eq_none_iff.mp missed) line cached
  exact Int.not_le.mp fun early => unfit (decide_eq_true ⟨same, early⟩)

theorem mem_set : other ∈ set cache line ↔
    other = line ∨ other ∈ cache ∧ other.key ≠ line.key := by
  simp [set]

omit [DecidableEq Key] in
theorem mem_evict {dropped : Key → Bool} : line ∈ evict dropped cache ↔
    line ∈ cache ∧ dropped line.key = false := by
  simp [evict]

end ExpiringCaches
