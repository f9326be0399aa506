/-
This file is an abstract model of a service with accounts and sessions. It names nothing of
the system; accounts and secrets are any types, and times are integers.

A book says which accounts there are, which of them are active, who has proven an identity
and which sessions are open. An act changes one of these, and each act has its condition: a
session is opened under a secret that opens no other, for an account that there is, and with
full access only if the identity is proven. Whatever acts follow one another, a book that
is in order stays so.
-/

import Mathlib.Data.Set.Insert

namespace AccountBooks

variable {Account Secret : Type}

structure Session (Account : Type) where
  owner : Account
  full : Bool
  expires : Int

structure Book (Account Secret : Type) where
  clock : Int
  known : Set Account
  active : Set Account
  proven : Set Account
  live : Set (Secret × Session Account)

inductive Act (Account Secret : Type) where
  | wait (time : Int)
  | enrol (account : Account)
  | unlock (account : Account)
  | lock (account : Account)
  | prove (account : Account)
  | openSession (secret : Secret) (session : Session Account)
  | finish (ended : Set (Secret × Session Account))
  | lapse (ended : Set (Secret × Session Account))

/-- What an act makes of the book, and when it can be. -/
inductive Step (book : Book Account Secret) : Act Account Secret → Book Account Secret → Prop
  | wait {time : Int} (later : book.clock ≤ time) :
    Step book (.wait time) { book with clock := time }
  | enrol {account : Account} (new : account ∉ book.known) :
    Step book (.enrol account) { book with known := insert account book.known }
  | unlock {account : Account} (known : account ∈ book.known) :
    Step book (.unlock account) { book with active := insert account book.active }
  | lock {account : Account} :
    Step book (.lock account) { book with active := book.active \ {account} }
  | prove {account : Account} (known : account ∈ book.known) :
    Step book (.prove account) { book with proven := insert account book.proven }
  | openSession {secret : Secret} {session : Session Account}
    (known : session.owner ∈ book.known)
    (entitled : session.full = true → session.owner ∈ book.proven)
    (unused : ∀ other, (secret, other) ∉ book.live) :
    Step book (.openSession secret session) { book with live := insert (secret, session) book.live }
  | finish {ended : Set (Secret × Session Account)} :
    Step book (.finish ended) { book with live := book.live \ ended }
  | lapse {ended : Set (Secret × Session Account)}
    (expired : ∀ entry ∈ ended, entry.2.expires < book.clock) :
    Step book (.lapse ended) { book with live := book.live \ ended }

/-- Acts, one after another. -/
inductive Run : Book Account Secret → List (Act Account Secret) → Book Account Secret → Prop
  | stay (book : Book Account Secret) : Run book [] book
  | act {first next last : Book Account Secret} {act : Act Account Secret}
    {acts : List (Act Account Secret)} (step : Step first act next) (rest : Run next acts last) :
    Run first (act :: acts) last

theorem Step.run {book next : Book Account Secret} {act : Act Account Secret}
    (step : Step book act next) : Run book [act] next :=
  .act step (.stay next)

theorem Run.trans {first next last : Book Account Secret} {acts more : List (Act Account Secret)}
    (run : Run first acts next) (rest : Run next more last) : Run first (acts ++ more) last := by
  induction run with
  | stay _ => exact rest
  | act step _ inductionHypothesis => exact .act step (inductionHypothesis rest)

/-- Nobody is known yet. -/
def Book.blank (clock : Int) : Book Account Secret := ⟨clock, ∅, ∅, ∅, ∅⟩

/-- A book in order: every session is of an account that there is, full access is for those who
have proven an identity, and a secret opens one session. -/
structure Book.InOrder (book : Book Account Secret) : Prop where
  active : book.active ⊆ book.known
  proven : book.proven ⊆ book.known
  owners : ∀ entry ∈ book.live, entry.2.owner ∈ book.known
  full : ∀ entry ∈ book.live, entry.2.full = true → entry.2.owner ∈ book.proven
  single : ∀ secret first second, (secret, first) ∈ book.live → (secret, second) ∈ book.live →
    first = second

theorem Book.blank_inOrder (clock : Int) : (blank clock : Book Account Secret).InOrder where
  active := Set.empty_subset _
  proven := Set.empty_subset _
  owners := fun _ live => live.elim
  full := fun _ live => live.elim
  single := fun _ _ _ live => live.elim

/-- A book in order stays so when sessions are taken out. -/
theorem Book.InOrder.close {book : Book Account Secret} (inOrder : book.InOrder)
    (ended : Set (Secret × Session Account)) :
    { book with live := book.live \ ended }.InOrder where
  active := inOrder.active
  proven := inOrder.proven
  owners entry kept := inOrder.owners entry kept.1
  full entry kept := inOrder.full entry kept.1
  single secret first second one other := inOrder.single secret first second one.1 other.1

theorem Step.inOrder {book next : Book Account Secret} {act : Act Account Secret}
    (step : Step book act next) (inOrder : book.InOrder) : next.InOrder := by
  cases step with
  | wait _ => exact ⟨inOrder.active, inOrder.proven, inOrder.owners, inOrder.full, inOrder.single⟩
  | @enrol account new =>
    have grown := Set.subset_insert account book.known
    exact { inOrder with
      active := inOrder.active.trans grown
      proven := inOrder.proven.trans grown
      owners := fun entry kept => grown (inOrder.owners entry kept) }
  | unlock known => exact { inOrder with active := Set.insert_subset known inOrder.active }
  | lock => exact { inOrder with active := fun _ kept => inOrder.active kept.1 }
  | prove known =>
    exact { inOrder with
      proven := Set.insert_subset known inOrder.proven
      full := fun entry kept access => Set.mem_insert_of_mem _ (inOrder.full entry kept access) }
  | openSession known entitled unused =>
    refine { inOrder with owners := ?_, full := ?_, single := ?_ }
    · rintro entry (rfl | kept)
      · exact known
      · exact inOrder.owners entry kept
    · rintro entry (rfl | kept) access
      · exact entitled access
      · exact inOrder.full entry kept access
    · rintro secret first second (one | one) (other | other)
      · cases one
        cases other
        rfl
      · cases one
        exact (unused _ other).elim
      · cases other
        exact (unused _ one).elim
      · exact inOrder.single secret first second one other
  | finish => exact inOrder.close _
  | lapse _ => exact inOrder.close _

theorem Run.inOrder {book next : Book Account Secret} {acts : List (Act Account Secret)}
    (run : Run book acts next) (inOrder : book.InOrder) : next.InOrder := by
  induction run with
  | stay _ => exact inOrder
  | act step _ inductionHypothesis => exact inductionHypothesis (step.inOrder inOrder)

end AccountBooks
