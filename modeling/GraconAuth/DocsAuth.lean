/-
This file embeds the middleware in front of the API documentation and says when it
decides as Basic authentication should: let the exact credentials through, refuse
every other header, never throw. The comparison of Node throws when its arguments
differ in length, and what stands after a second colon is not looked at. So it
decides as it should when both parts of the decoded credentials have the length of
the configured ones and nothing stands behind a match.
-/

import GraconAuth.Encodings
import GraconAuth.UsersService

namespace GraconAuth

open Encodings

/-! ### The middleware -/

/-- What becomes of a request. An error that is thrown is a response of the framework, with the
status 500. -/
inductive MiddlewareAnswer where
  | next
  | respond (status : Nat) (wwwAuthenticate : Option String) (message : String)
  | throws (error : String)
  deriving DecidableEq, Repr

/-- `crypto.timingSafeEqual` -/
def timingSafeEqual (first second : Bytes) : Except String Bool :=
  if first.length = second.length then .ok (first == second)
  else .error "Input buffers must have the same byte length"

namespace DocsAuthMiddleware

def SCHEME : List Char := "Basic ".toList

def REALM : String := "Basic realm=\"API Documentation\""

/-- `Buffer.from(encoded, 'base64').toString('utf8')` -/
def decoded (encoded : List Char) : List Char := decodeUtf8 (fromBase64 encoded)

/-- The two comparisons, of the first two segments of the credentials. -/
def compareCredentials (user pass : String) (credentials : List Char) : MiddlewareAnswer :=
  let segments := credentials.splitOn ':'
  match timingSafeEqual (utf8 (segments[0]?.getD [])) (utf8 user.toList) with
  | .error error => .throws error
  | .ok userMatch =>
    match timingSafeEqual (utf8 (segments[1]?.getD [])) (utf8 pass.toList) with
    | .error error => .throws error
    | .ok passMatch =>
      if !userMatch || !passMatch then .respond 401 (some REALM) "Invalid credentials."
      else .next

def use (user pass authorization : Option String) : MiddlewareAnswer :=
  if !truthy user || !truthy pass then .respond 503 none "API documentation is not available."
  else
    let authHeader := (authorization.getD "").toList
    if !SCHEME.isPrefixOf authHeader then
      .respond 401 (some REALM) "Authentication required to access API documentation."
    else
      compareCredentials (user.getD "") (pass.getD "") (decoded (authHeader.drop SCHEME.length))

end DocsAuthMiddleware

open DocsAuthMiddleware

/-! ### The comparison -/

theorem timingSafeEqual_utf8 {first second : List Char}
    (fits : (utf8 first).length = (utf8 second).length) :
    timingSafeEqual (utf8 first) (utf8 second) = .ok (decide (first = second)) := by
  rw [timingSafeEqual, if_pos fits, beq_eq_decide]
  simp only [utf8_injective.eq_iff]

theorem timingSafeEqual_throws {first second : List Char}
    (differs : (utf8 first).length ≠ (utf8 second).length) :
    timingSafeEqual (utf8 first) (utf8 second) =
      .error "Input buffers must have the same byte length" :=
  if_neg differs

/-- The two segments have the lengths of the configured credentials. -/
def Fits (user pass : String) (credentials : List Char) : Prop :=
  (utf8 ((credentials.splitOn ':')[0]?.getD [])).length = (utf8 user.toList).length ∧
    (utf8 ((credentials.splitOn ':')[1]?.getD [])).length = (utf8 pass.toList).length

/-- The two segments are the configured credentials. -/
def Agrees (user pass : String) (credentials : List Char) : Prop :=
  (credentials.splitOn ':')[0]?.getD [] = user.toList ∧
    (credentials.splitOn ':')[1]?.getD [] = pass.toList

instance (user pass : String) (credentials : List Char) :
    Decidable (Agrees user pass credentials) :=
  inferInstanceAs (Decidable (_ ∧ _))

theorem Agrees.fits {user pass : String} {credentials : List Char}
    (agrees : Agrees user pass credentials) : Fits user pass credentials := by
  rw [Fits, agrees.1, agrees.2]
  exact ⟨rfl, rfl⟩

theorem compareCredentials_throws {user pass : String} {credentials : List Char}
    (misfit : ¬Fits user pass credentials) : compareCredentials user pass credentials =
      .throws "Input buffers must have the same byte length" := by
  unfold compareCredentials
  by_cases first : (utf8 ((credentials.splitOn ':')[0]?.getD [])).length = (utf8 user.toList).length
  · have second := timingSafeEqual_throws fun second => misfit ⟨first, second⟩
    simp only [timingSafeEqual_utf8 first, second]
  · simp only [timingSafeEqual_throws first]

theorem compareCredentials_fitting {user pass : String} {credentials : List Char}
    (fits : Fits user pass credentials) : compareCredentials user pass credentials =
      if Agrees user pass credentials then .next
      else .respond 401 (some REALM) "Invalid credentials." := by
  unfold compareCredentials
  simp only [timingSafeEqual_utf8 fits.1, timingSafeEqual_utf8 fits.2]
  by_cases agrees : Agrees user pass credentials
  · rw [if_pos agrees, decide_eq_true agrees.1, decide_eq_true agrees.2]
    rfl
  · rw [if_neg agrees, if_pos]
    rw [← Bool.not_and, Bool.not_eq_true', Bool.and_eq_false_iff, decide_eq_false_iff_not,
      decide_eq_false_iff_not, ← not_and_or]
    exact agrees

/-- The encoding of a longer text is longer. -/
theorem utf8_length_append (first second : List Char) :
    (utf8 (first ++ second)).length = (utf8 first).length + (utf8 second).length := by
  simp [utf8]

/-- Exact credentials fit only when the password has no colon, and then they are two segments that
agree. -/
theorem exact_fits {user pass : String} {credentials : List Char} (plain : ':' ∉ user.toList)
    (exact : credentials = user.toList ++ ':' :: pass.toList)
    (fits : Fits user pass credentials) :
    Agrees user pass credentials ∧ (credentials.splitOn ':').length = 2 := by
  have split : credentials.splitOn ':' = user.toList :: pass.toList.splitOn ':' := by
    rw [exact, List.splitOn_append_cons_self_of_not_mem plain]
  have colonless : ':' ∉ pass.toList := by
    intro colon
    obtain ⟨segment, rest, whole, before⟩ := List.eq_append_cons_of_mem colon
    have same : (utf8 segment).length = (utf8 pass.toList).length := by
      have fits := fits.2
      rw [split, List.getElem?_cons_succ, whole,
        List.splitOn_append_cons_self_of_not_mem before] at fits
      rw [whole]
      exact fits
    rw [whole, utf8_length_append, ← List.singleton_append, utf8_length_append] at same
    have : (utf8 [':']).length = 1 := by decide
    omega
  rw [List.splitOn_eq_singleton colonless] at split
  refine ⟨⟨?_, ?_⟩, ?_⟩
  · rw [split]
    rfl
  · rw [split]
    rfl
  · rw [split]
    rfl

/-- Two segments that agree are the exact credentials. -/
theorem exact_of_agrees {user pass : String} {credentials : List Char}
    (agrees : Agrees user pass credentials) (two : (credentials.splitOn ':').length = 2) :
    credentials = user.toList ++ ':' :: pass.toList := by
  obtain ⟨first, second, split⟩ := List.length_eq_two.mp two
  have whole : [':'].intercalate (credentials.splitOn ':') = credentials :=
    List.intercalate_splitOn ':'
  rw [Agrees, split] at agrees
  rw [split] at whole
  obtain ⟨rfl, rfl⟩ : first = user.toList ∧ second = pass.toList := agrees
  rw [← whole]
  simp [List.intercalate]

/-! ### What it should decide -/

/-- The header carries exactly the configured credentials. -/
def Opens (user pass : String) (authorization : Option String) : Prop :=
  ∃ encoded, authorization.map String.toList = some (SCHEME ++ encoded) ∧
    decoded encoded = user.toList ++ ':' :: pass.toList

/-- The middleware lets exactly these credentials through, answers 401 to all else and never
throws. -/
structure DecidesExactly (user pass : String) (authorization : Option String) : Prop where
  returns : ∀ error, use (some user) (some pass) authorization ≠ .throws error
  opens : use (some user) (some pass) authorization = .next ↔ Opens user pass authorization
  refuses : ¬Opens user pass authorization → ∃ realm message,
    use (some user) (some pass) authorization = .respond 401 realm message

/-- What stands after the scheme has two parts of the configured lengths, and a match has nothing
behind it. -/
def Fitting (user pass : String) (authorization : Option String) : Prop :=
  ∀ encoded, authorization.map String.toList = some (SCHEME ++ encoded) →
    Fits user pass (decoded encoded) ∧
      (Agrees user pass (decoded encoded) → ((decoded encoded).splitOn ':').length = 2)

section

variable {user pass : String} {authorization : Option String} {encoded : List Char}

theorem truthy_some {text : String} (present : text ≠ "") : truthy (some text) = true := by
  simp [truthy, present]

/-- Another scheme, or no header. -/
theorem use_unprefixed (named : user ≠ "") (guarded : pass ≠ "")
    (other : ∀ encoded, authorization.map String.toList ≠ some (SCHEME ++ encoded)) :
    use (some user) (some pass) authorization =
      .respond 401 (some REALM) "Authentication required to access API documentation." := by
  have outside : SCHEME.isPrefixOf (authorization.getD "").toList = false := by
    rw [← Bool.not_eq_true, List.isPrefixOf_iff_prefix]
    rintro ⟨encoded, whole⟩
    cases authorization with
    | none =>
      rw [Option.getD_none, String.toList_empty, List.append_eq_nil_iff] at whole
      exact absurd whole.1 (List.cons_ne_nil _ _)
    | some header => exact other encoded (congrArg some whole.symm)
  simp only [use, truthy_some named, truthy_some guarded, outside]
  rfl

/-- The comparison gets what the header carries. -/
theorem use_prefixed (named : user ≠ "") (guarded : pass ≠ "")
    (carried : authorization.map String.toList = some (SCHEME ++ encoded)) :
    use (some user) (some pass) authorization = compareCredentials user pass (decoded encoded) := by
  obtain ⟨header, rfl, whole⟩ := Option.map_eq_some_iff.mp carried
  have inside : SCHEME.isPrefixOf (SCHEME ++ encoded) = true :=
    List.isPrefixOf_iff_prefix.mpr (List.prefix_append _ _)
  simp only [use, truthy_some named, truthy_some guarded, Option.getD_some, whole, inside,
    List.drop_left]
  rfl

/-- A header carries one text. -/
theorem opens_iff (carried : authorization.map String.toList = some (SCHEME ++ encoded)) :
    Opens user pass authorization ↔ decoded encoded = user.toList ++ ':' :: pass.toList := by
  constructor
  · rintro ⟨other, also, exact⟩
    rw [carried, Option.some_inj, List.append_cancel_left_eq] at also
    rw [also]
    exact exact
  · intro exact
    exact ⟨encoded, carried, exact⟩

theorem DecidesExactly.fitting (named : user ≠ "") (plain : ':' ∉ user.toList) (guarded : pass ≠ "")
    (decides : DecidesExactly user pass authorization) : Fitting user pass authorization := by
  intro encoded carried
  have answer := use_prefixed named guarded carried
  have fits : Fits user pass (decoded encoded) := by
    by_contra misfit
    exact decides.returns _ (answer.trans (compareCredentials_throws misfit))
  refine ⟨fits, fun agrees => ?_⟩
  rw [compareCredentials_fitting fits, if_pos agrees] at answer
  have exact := (opens_iff carried).mp (decides.opens.mp answer)
  exact (exact_fits plain exact fits).2

theorem Fitting.decides (named : user ≠ "") (plain : ':' ∉ user.toList) (guarded : pass ≠ "")
    (fitting : Fitting user pass authorization) : DecidesExactly user pass authorization := by
  by_cases carried : ∃ encoded, authorization.map String.toList = some (SCHEME ++ encoded)
  · obtain ⟨encoded, carried⟩ := carried
    obtain ⟨fits, two⟩ := fitting encoded carried
    have answer := use_prefixed named guarded carried
    rw [compareCredentials_fitting fits] at answer
    have opens : Opens user pass authorization ↔
        decoded encoded = user.toList ++ ':' :: pass.toList := opens_iff carried
    by_cases agrees : Agrees user pass (decoded encoded)
    · rw [if_pos agrees] at answer
      have opened := opens.mpr (exact_of_agrees agrees (two agrees))
      exact ⟨by simp [answer], by simp [answer, opened], fun closed => absurd opened closed⟩
    · rw [if_neg agrees] at answer
      have closed : ¬Opens user pass authorization := fun opened =>
        agrees (exact_fits plain (opens.mp opened) fits).1
      exact ⟨by simp [answer], by simp [answer, closed], fun _ => ⟨_, _, answer⟩⟩
  · rw [not_exists] at carried
    have answer := use_unprefixed named guarded carried
    have closed : ¬Opens user pass authorization := fun ⟨encoded, also, _⟩ => carried encoded also
    exact ⟨by simp [answer], by simp [answer, closed], fun _ => ⟨_, _, answer⟩⟩

/-- The middleware decides as it should exactly on the headers that fit. -/
theorem docs_decided_iff (named : user ≠ "") (plain : ':' ∉ user.toList) (guarded : pass ≠ "") :
    DecidesExactly user pass authorization ↔ Fitting user pass authorization :=
  ⟨DecidesExactly.fitting named plain guarded, Fitting.decides named plain guarded⟩

end

theorem docs_decided_sample :
    DecidesExactly "docs" "s3cret" (some "Basic ZG9jczpzM2NyZXQ=") ↔
      Fitting "docs" "s3cret" (some "Basic ZG9jczpzM2NyZXQ=") :=
  docs_decided_iff (by decide) (by decide) (by decide)

/-- A password that is too long does not get an answer. -/
theorem docs_not_decided :
    ¬ ∀ (user pass : String) (authorization : Option String), user ≠ "" → ':' ∉ user.toList →
      pass ≠ "" → DecidesExactly user pass authorization := by
  intro decided
  have thrown := (decided "docs" "s3cret" (some "Basic ZG9jczpzM2NyZXRz") (by decide) (by decide)
    (by decide)).returns "Input buffers must have the same byte length"
  exact thrown (by decide +kernel)

end GraconAuth
