/-
This file is a library of paging over an order with ties. It names nothing of the
system; the items and their keys are any types.

Each page is cut from an arrangement of its own: the items sorted by key, with the
items of one key in any order. The pages agree when no key has items on both sides of
the end of a page. Then the items before that end are the same in every arrangement,
namely those whose whole key comes before it, and the pages are the differences of
these sets. Where a key does stand on both sides, two arrangements show one item twice.
-/

import Mathlib.Data.List.Perm.Basic
import Mathlib.Data.List.Nodup
import Mathlib.Data.Nat.Basic
import Mathlib.Order.Lattice
import Mathlib.Tactic.Push

namespace Paging

variable {Item Key : Type*} [LinearOrder Key]

/-- The page with this number, counted from one. -/
def pageOf (size page : Nat) (items : List Item) : List Item :=
  (items.drop ((page - 1) * size)).take size

/-- How many pages there are. -/
def pagesOf (size total : Nat) : Nat := (total + size - 1) / size

/-- The items in the order of their keys. -/
structure Arranges (key : Item → Key) (items arranged : List Item) : Prop where
  perm : arranged.Perm items
  sorted : arranged.Pairwise fun first second => key first ≤ key second

/-- The first pages in a row, each cut from its own arrangement. -/
def feed (size : Nat) (arranged : Nat → List Item) (pages : Nat) : List Item :=
  (List.range pages).flatMap fun page => pageOf size (page + 1) (arranged (page + 1))

/-- The pages list every item once and in order, and there is nothing after them. -/
structure Partitions (key : Item → Key) (size : Nat) (items : List Item)
    (arranged : Nat → List Item) : Prop where
  once : (feed size arranged (pagesOf size items.length)).Perm items
  ordered : (feed size arranged (pagesOf size items.length)).Pairwise fun first second =>
    key first ≤ key second
  rest : ∀ page, pagesOf size items.length < page → pageOf size page (arranged page) = []

/-- How many items come before those of a key. -/
def below (key : Item → Key) (items : List Item) (bound : Key) : Nat :=
  items.countP fun item => decide (key item < bound)

/-- How many items come before those of any later key. -/
def upTo (key : Item → Key) (items : List Item) (bound : Key) : Nat :=
  items.countP fun item => decide (key item ≤ bound)

/-- No key has items on both sides of this place. -/
def Unsplit (key : Item → Key) (items : List Item) (place : Nat) : Prop :=
  ∀ item ∈ items, ¬(below key items (key item) < place ∧ place < upTo key items (key item))

variable {key : Item → Key} {items arranged : List Item} {place size : Nat}

/-! ### Places in an arrangement -/

/-- What holds of the earlier of two items when it holds of the later, holds at the first places. -/
theorem holds_getElem_iff {holds : Item → Bool} {list : List Item}
    (closed : list.Pairwise fun first second => holds second = true → holds first = true)
    {place : Nat} (bound : place < list.length) :
    holds list[place] = true ↔ place < list.countP holds := by
  induction list generalizing place with
  | nil => exact absurd bound (Nat.not_lt_zero _)
  | cons head rest ih =>
    obtain ⟨first, closed⟩ := List.pairwise_cons.mp closed
    by_cases held : holds head = true
    · rw [List.countP_cons_of_pos held]
      cases place with
      | zero => simp [held]
      | succ place => simpa using ih closed (by simpa using bound)
    · have none : rest.countP holds = 0 :=
        List.countP_eq_zero.mpr fun item member later => held (first item member later)
      rw [List.countP_cons_of_neg held, none]
      cases place with
      | zero => simpa using held
      | succ place =>
        simp only [List.getElem_cons_succ, Nat.not_lt_zero, iff_false]
        exact fun later => held (first _ (List.getElem_mem _) later)

theorem Arranges.length (arranges : Arranges key items arranged) :
    arranged.length = items.length := arranges.perm.length_eq

theorem Arranges.lt_iff (arranges : Arranges key items arranged) (bound : Key)
    (inside : place < arranged.length) :
    key arranged[place] < bound ↔ place < below key items bound := by
  have closed : arranged.Pairwise fun first second =>
      decide (key second < bound) = true → decide (key first < bound) = true :=
    arranges.sorted.imp fun ordered later =>
      decide_eq_true (ordered.trans_lt (of_decide_eq_true later))
  rw [below, ← arranges.perm.countP_eq, ← holds_getElem_iff closed inside, decide_eq_true_eq]

theorem Arranges.le_iff (arranges : Arranges key items arranged) (bound : Key)
    (inside : place < arranged.length) :
    key arranged[place] ≤ bound ↔ place < upTo key items bound := by
  have closed : arranged.Pairwise fun first second =>
      decide (key second ≤ bound) = true → decide (key first ≤ bound) = true :=
    arranges.sorted.imp fun ordered later =>
      decide_eq_true (ordered.trans (of_decide_eq_true later))
  rw [upTo, ← arranges.perm.countP_eq, ← holds_getElem_iff closed inside, decide_eq_true_eq]

theorem upTo_mono {first second : Key} (ordered : first ≤ second) :
    upTo key items first ≤ upTo key items second :=
  List.countP_mono_left fun _ _ inside =>
    decide_eq_true ((of_decide_eq_true inside).trans ordered)

theorem upTo_le_length (bound : Key) : upTo key items bound ≤ items.length :=
  List.countP_le_length

/-! ### The items before a place -/

/-- The key of an item before an unsplit place ends before it. -/
theorem upTo_of_mem_take (arranges : Arranges key items arranged)
    (unsplit : Unsplit key items place) {item : Item} (member : item ∈ arranged.take place) :
    upTo key items (key item) ≤ place := by
  obtain ⟨position, bound, rfl⟩ := List.getElem_of_mem member
  rw [List.length_take] at bound
  rw [List.getElem_take]
  have inside : position < arranged.length := by omega
  have first : ¬position < below key items (key arranged[position]) := fun earlier =>
    lt_irrefl _ ((arranges.lt_iff _ inside).mpr earlier)
  have kept := unsplit _ (arranges.perm.subset (List.getElem_mem inside))
  omega

/-- The key of an item after a place ends after it. -/
theorem lt_upTo_of_mem_drop (arranges : Arranges key items arranged) {item : Item}
    (member : item ∈ arranged.drop place) : place < upTo key items (key item) := by
  obtain ⟨position, bound, rfl⟩ := List.getElem_of_mem member
  rw [List.length_drop] at bound
  rw [List.getElem_drop]
  have inside : place + position < arranged.length := by omega
  have last := (arranges.le_iff (key arranged[place + position]) inside).mp le_rfl
  omega

/-- The items before an unsplit place are the same in every arrangement. -/
theorem take_arranged (arranges : Arranges key items arranged)
    (unsplit : Unsplit key items place) :
    arranged.take place =
      arranged.filter fun item => decide (upTo key items (key item) ≤ place) := by
  conv_rhs => rw [← List.take_append_drop place arranged, List.filter_append]
  rw [List.filter_eq_self.mpr fun item member =>
      decide_eq_true (upTo_of_mem_take arranges unsplit member),
    List.filter_eq_nil_iff.mpr fun item member ended =>
      absurd (of_decide_eq_true ended) (Nat.not_le.mpr (lt_upTo_of_mem_drop arranges member)),
    List.append_nil]

/-! ### Pages that agree -/

variable {family : Nat → List Item}

theorem feed_succ (pages : Nat) :
    feed size family (pages + 1) =
      feed size family pages ++ pageOf size (pages + 1) (family (pages + 1)) := by
  simp [feed, List.range_succ]

theorem pageOf_succ (pages : Nat) (list : List Item) :
    pageOf size (pages + 1) list = (list.drop (pages * size)).take size := rfl

/-- The first pages list the items whose keys end before them. -/
theorem feed_perm (arranges : ∀ page, Arranges key items (family page)) (pages : Nat)
    (unsplit : ∀ page, Unsplit key items (page * size)) :
    (feed size family pages).Perm
      (items.filter fun item => decide (upTo key items (key item) ≤ pages * size)) := by
  induction pages with
  | zero =>
    rw [List.filter_eq_nil_iff.mpr]
    · exact List.Perm.refl _
    · intro item member ended
      have some : 0 < upTo key items (key item) :=
        List.countP_pos_iff.mpr ⟨item, member, decide_eq_true le_rfl⟩
      exact absurd (of_decide_eq_true ended) (by omega)
  | succ pages ih =>
    have own := arranges (pages + 1)
    have page : (family (pages + 1)).filter (fun item =>
          decide (upTo key items (key item) ≤ (pages + 1) * size)) =
        (family (pages + 1)).filter (fun item =>
          decide (upTo key items (key item) ≤ pages * size)) ++
        pageOf size (pages + 1) (family (pages + 1)) := by
      rw [← take_arranged own (unsplit _), ← take_arranged own (unsplit _), pageOf_succ,
        Nat.succ_mul, List.take_add]
    have whole := (own.perm.filter fun item =>
      decide (upTo key items (key item) ≤ (pages + 1) * size)).symm
    rw [page] at whole
    rw [feed_succ]
    exact ((ih.trans (own.perm.filter _).symm).append_right _).trans whole.symm

/-- The first pages are in order. -/
theorem feed_sorted (arranges : ∀ page, Arranges key items (family page)) (pages : Nat)
    (unsplit : ∀ page, Unsplit key items (page * size)) :
    (feed size family pages).Pairwise fun first second => key first ≤ key second := by
  induction pages with
  | zero => exact List.Pairwise.nil
  | succ pages ih =>
    rw [feed_succ]
    have own := arranges (pages + 1)
    refine List.pairwise_append.mpr ⟨ih, ?_, fun earlier before later after => ?_⟩
    · exact own.sorted.sublist ((List.take_sublist _ _).trans (List.drop_sublist _ _))
    · have ended := (List.mem_filter.mp ((feed_perm arranges pages unsplit).subset before)).2
      have begun := lt_upTo_of_mem_drop own (List.mem_of_mem_take after)
      rw [Nat.add_sub_cancel] at begun
      by_contra reversed
      have : upTo key items (key later) ≤ upTo key items (key earlier) :=
        upTo_mono (le_of_not_ge reversed)
      have := of_decide_eq_true ended
      omega

theorem length_le_pages (positive : 0 < size) (total : Nat) :
    total ≤ pagesOf size total * size := by
  have := Nat.div_add_mod (total + size - 1) size
  have := Nat.mod_lt (total + size - 1) positive
  rw [pagesOf, Nat.mul_comm]
  omega

/-- Pages that no key crosses partition the items. -/
theorem partitions_of_unsplit (positive : 0 < size)
    (arranges : ∀ page, Arranges key items (family page))
    (unsplit : ∀ page, Unsplit key items (page * size)) : Partitions key size items family := by
  have enough := length_le_pages positive items.length
  refine ⟨?_, feed_sorted arranges _ unsplit, fun page beyond => ?_⟩
  · have every : items.filter (fun item =>
        decide (upTo key items (key item) ≤ pagesOf size items.length * size)) = items :=
      List.filter_eq_self.mpr fun item _ =>
        decide_eq_true (Nat.le_trans (upTo_le_length (key item)) enough)
    exact (feed_perm arranges _ unsplit).trans (.of_eq every)
  · have passed : pagesOf size items.length * size ≤ (page - 1) * size :=
      Nat.mul_le_mul_right _ (by omega)
    rw [pageOf, List.drop_eq_nil_of_le, List.take_nil]
    rw [(arranges page).length]
    exact Nat.le_trans enough passed

/-! ### Pages that do not -/

/-- An item on a page that is shown is in the feed. -/
theorem mem_feed_twice {pages first second : Nat} (earlier : first < second)
    (shown : second < pages) {item : Item}
    (onFirst : item ∈ pageOf size (first + 1) (family (first + 1)))
    (onSecond : item ∈ pageOf size (second + 1) (family (second + 1))) :
    ¬(feed size family pages).Nodup := by
  intro distinct
  have apart := (List.nodup_flatMap.mp distinct).2
  have separate := List.pairwise_iff_getElem.mp apart first second (by simp; omega) (by simpa)
    earlier
  simp only [List.getElem_range] at separate
  exact separate onFirst onSecond

/-- Two items that stand side by side with one key may change places. -/
theorem Arranges.swap {before after : List Item} {first second : Item}
    (arranges : Arranges key items (before ++ first :: second :: after))
    (tied : key first = key second) :
    Arranges key items (before ++ second :: first :: after) := by
  have swapped := List.Perm.append_left before (List.Perm.swap first second after)
  refine ⟨swapped.trans arranges.perm, ?_⟩
  have sorted := arranges.sorted
  simp only [List.pairwise_append, List.pairwise_cons, List.mem_cons, forall_eq_or_imp] at sorted ⊢
  rw [tied] at sorted
  obtain ⟨start, ⟨⟨_, _⟩, second, rest⟩, cross⟩ := sorted
  rw [tied]
  exact ⟨start, ⟨⟨le_rfl, second⟩, second, rest⟩, fun item member =>
    let ⟨toFirst, toSecond, toRest⟩ := cross item member
    ⟨toSecond, toFirst, toRest⟩⟩

/-- The arrangement that keeps items of one key as they stand. -/
def stable (key : Item → Key) (items : List Item) : List Item :=
  items.mergeSort fun first second => decide (key first ≤ key second)

theorem arranges_stable (key : Item → Key) (items : List Item) :
    Arranges key items (stable key items) := by
  refine ⟨List.mergeSort_perm _ _, ?_⟩
  refine (List.pairwise_mergeSort (fun first second third => ?_) (fun first second => ?_) items).imp
    of_decide_eq_true
  · simpa using fun one two => le_trans one two
  · simpa using le_total (key first) (key second)

/-- Between the two bounds of a key there are only items of that key. -/
theorem Arranges.key_eq {bound : Key} (arranges : Arranges key items arranged)
    (inside : place < arranged.length) (since : below key items bound ≤ place)
    (before : place < upTo key items bound) : key arranged[place] = bound := by
  refine le_antisymm ((arranges.le_iff bound inside).mpr before) (not_lt.mp fun less => ?_)
  have := (arranges.lt_iff bound inside).mp less
  omega

/-- Around a place inside a list two items stand side by side. -/
theorem exists_around {list : List Item} (positive : 0 < place) (inside : place < list.length) :
    ∃ before first second after, list = before ++ first :: second :: after ∧
      before.length + 1 = place := by
  refine ⟨list.take (place - 1), list[place - 1], list[place], list.drop (place + 1), ?_, ?_⟩
  · have step := List.drop_eq_getElem_cons inside
    have back : list.drop (place - 1) = list[place - 1] :: list.drop place := by
      have := List.drop_eq_getElem_cons (show place - 1 < list.length by omega)
      rwa [Nat.sub_add_cancel positive] at this
    rw [← step, ← back, List.take_append_drop]
  · rw [List.length_take]
    omega

/-- Where a key stands on both sides of the end of a page, two arrangements show an item twice. -/
theorem exists_twice {page : Nat} (positive : 0 < size)
    (split : ¬Unsplit key items (page * size)) :
    ∃ family : Nat → List Item, (∀ page, Arranges key items (family page)) ∧
      ¬(feed size family (pagesOf size items.length)).Nodup := by
  unfold Unsplit at split
  push Not at split
  obtain ⟨item, member, start, stop⟩ := split
  have arranges := arranges_stable key items
  generalize stable key items = arranged at arranges
  have within : page * size < items.length := Nat.lt_of_lt_of_le stop (upTo_le_length _)
  obtain ⟨before, first, second, after, rfl, place⟩ :=
    exists_around (Nat.zero_lt_of_lt start) (arranges.length.symm ▸ within)
  have tied : key first = key second := by
    have onFirst : key first = key item := by
      have inside : before.length < (before ++ first :: second :: after).length := by simp
      simpa using arranges.key_eq inside (by omega) (by omega)
    have onSecond : key second = key item := by
      have inside : before.length + 1 < (before ++ first :: second :: after).length := by simp
      simpa using arranges.key_eq inside (by omega) (by omega)
    rw [onFirst, onSecond]
  obtain ⟨page, rfl⟩ : ∃ earlier, page = earlier + 1 := by
    cases page with
    | zero => simp at start
    | succ earlier => exact ⟨earlier, rfl⟩
  refine ⟨fun shown => if shown ≤ page + 1 then before ++ first :: second :: after
    else before ++ second :: first :: after, fun shown => ?_, ?_⟩
  · dsimp only
    split
    · exact arranges
    · exact arranges.swap tied
  have enough := length_le_pages positive items.length
  have shown : page + 1 < pagesOf size items.length := by
    by_contra short
    have := Nat.mul_le_mul_right size (Nat.not_lt.mp short)
    omega
  -- The last item of the page is the first of the next one.
  refine mem_feed_twice (Nat.lt_succ_self page) shown (?_ : first ∈ _) ?_
  · rw [if_pos le_rfl, pageOf_succ]
    have last : before.length = page * size + (size - 1) := by
      rw [Nat.succ_mul] at place
      omega
    rw [List.mem_iff_getElem?]
    refine ⟨size - 1, ?_⟩
    rw [List.getElem?_take_of_lt (by omega), List.getElem?_drop, ← last,
      List.getElem?_append_right le_rfl, Nat.sub_self]
    rfl
  · rw [if_neg (by omega), pageOf_succ]
    rw [List.mem_iff_getElem?]
    refine ⟨0, ?_⟩
    rw [List.getElem?_take_of_lt positive, List.getElem?_drop, Nat.add_zero, ← place,
      List.getElem?_append_right (Nat.le_succ _)]
    simp

end Paging
