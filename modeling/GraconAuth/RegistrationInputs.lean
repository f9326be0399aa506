/-
This file embeds the validation of the body of a registration: its texts are trimmed, the
decorators of its fields are checked, and fields that are not declared are refused. What is
admitted is in form, and sent again it is admitted unchanged.

That one identity number is given, and not two, is checked by two private fields that are
never meant to be set. They are declared, so a body can carry them, and then the check is
passed. The service checks once more, so such a registration is refused all the same.
-/

import GraconAuth.CitizenService
import GraconAuth.PasswordPolicy
import GraconAuth.Server
import Mathlib.Data.List.DropRight

namespace GraconAuth

open CitizenService Doubles UsersService

/-! ### Trimming -/

def trimText (text : String) : String := String.ofList (trim text.toList)

/-- A text that was trimmed has nothing to trim. -/
theorem trim_trim (text : List Char) : trim (trim text) = trim text := by
  have both (letters : List Char) :
      trim letters = (letters.dropWhile isWhiteSpace).rdropWhile isWhiteSpace := rfl
  have settled : ((text.dropWhile isWhiteSpace).rdropWhile isWhiteSpace).dropWhile isWhiteSpace =
      (text.dropWhile isWhiteSpace).rdropWhile isWhiteSpace := by
    obtain ⟨rest, whole⟩ := List.rdropWhile_prefix isWhiteSpace (text.dropWhile isWhiteSpace)
    cases kept : (text.dropWhile isWhiteSpace).rdropWhile isWhiteSpace with
    | nil => rfl
    | cons first letters =>
      rw [kept, List.cons_append] at whole
      have stays := List.dropWhile_idempotent isWhiteSpace text
      rw [← whole] at stays
      have visible := List.dropWhile_eq_self_iff.mp stays (by simp)
      exact List.dropWhile_eq_self_iff.mpr fun _ => visible
  rw [both (trim text), both text, settled, List.rdropWhile_idempotent]

theorem trimText_trimText (text : String) : trimText (trimText text) = trimText text := by
  rw [trimText, trimText, String.toList_ofList, trim_trim]

namespace RegisterDto

/-! ### What the decorators see -/

/-- The fields of a body. -/
abbrev Body := List (String × JsonValue)

/-- A method that a value lacks, or what the decorators say. -/
inductive Refusal where
  | typeError
  | invalid (messages : List String)

/-- `value?.…()`, for a method of texts. -/
def transform (method : String → String) : Option JsonValue → Except Refusal (Option String)
  | none | some .null => .ok none
  | some (.string text) => .ok (some (method text))
  | some _ => .error .typeError

/-- The fields after their transformation. -/
structure Input where
  documentNumber : Option String
  fin : Option String
  email : Option String
  phoneNumber : Option String
  password : Option JsonValue
  identityInputRequired : Option JsonValue
  identityInputExclusive : Option JsonValue

variable (count : List CodeUnit → Nat) (isEmail : String → Bool) (toLowerCase : String → String)

def normalizeEmail (text : String) : String := trimText (toLowerCase text)

def readInput (body : Body) : Except Refusal Input := do
  let documentNumber ← transform trimText (body.lookup "documentNumber")
  let fin ← transform trimText (body.lookup "fin")
  let email ← transform (normalizeEmail toLowerCase) (body.lookup "email")
  let phoneNumber ← transform trimText (body.lookup "phoneNumber")
  return {
    documentNumber, fin, email, phoneNumber
    password := body.lookup "password"
    identityInputRequired := body.lookup "identityInputRequired"
    identityInputExclusive := body.lookup "identityInputExclusive" }

/-! ### The decorators -/

def refusing (failed : Bool) (message : String) : List String := if failed then [message] else []

/-- `/^\d{16}$/` -/
def sixteenDigits (text : String) : Bool :=
  text.toList.length == 16 && text.toList.all Char.isDigit

/-- `/^2\d{15}$/` -/
def finDigits (text : String) : Bool := text.toList.head? == some '2' && sixteenDigits text

/-- `[\d\s\-()]` -/
def phoneLetter (letter : Char) : Bool :=
  letter.isDigit || isWhiteSpace letter || letter == '-' || letter == '(' || letter == ')'

/-- What follows a plus sign, if there is one. -/
def withoutPlus : List Char → List Char
  | '+' :: rest => rest
  | letters => letters

/-- `/^\+?[\d\s\-()]{7,20}$/` -/
def phoneDigits (text : String) : Bool :=
  7 ≤ (withoutPlus text.toList).length && (withoutPlus text.toList).length ≤ 20 &&
    (withoutPlus text.toList).all phoneLetter

/-- `value !== undefined && value !== null` -/
def isDefined : Option JsonValue → Bool
  | none | some .null => false
  | some _ => true

def documentNumberErrors : Option String → List String
  | none => []
  | some text =>
    refusing (count (codeUnits text) != 16) "National ID number must be exactly 16 digits" ++
      refusing (!sixteenDigits text) "National ID number must contain only digits"

def finErrors : Option String → List String
  | none => []
  | some text =>
    refusing (!finDigits text) "Foreign Identity Number must be 16 digits and start with 2."

def emailErrors (email : Option String) : List String :=
  refusing (!email.any isEmail) "Please provide a valid email address"

def phoneNumberErrors : Option String → List String
  | none => []
  | some text => refusing (!phoneDigits text) "Please provide a valid phone number"

def passwordErrors : Option JsonValue → List String
  | some (.string text) => fieldErrors count passwordRules (codeUnits text)
  | _ => passwordRules.map Constraint.message

/-- The two private fields are checked only when the identity numbers are not as they should be. -/
def identityErrors (input : Input) : List String :=
  refusing (!truthy input.documentNumber && !truthy input.fin &&
      !isDefined input.identityInputRequired)
    "Either documentNumber or fin must be provided for registration." ++
  refusing (truthy input.documentNumber && truthy input.fin &&
      !isDefined input.identityInputExclusive)
    "Provide either documentNumber or fin, not both in the same request."

def declared : List String :=
  ["documentNumber", "fin", "email", "phoneNumber", "password", "identityInputRequired",
    "identityInputExclusive"]

def unknownErrors (body : Body) : List String :=
  (body.filter fun field => !declared.contains field.1).map fun field =>
    "property " ++ field.1 ++ " should not exist"

def errors (body : Body) (input : Input) : List String :=
  unknownErrors body ++ documentNumberErrors count input.documentNumber ++ finErrors input.fin ++
    emailErrors isEmail input.email ++ phoneNumberErrors input.phoneNumber ++
    passwordErrors count input.password ++ identityErrors input

/-- The validation of a body, with what is handed to the service. -/
def validate (body : Body) : Except Refusal UsersService.RegisterDto := do
  let input ← readInput toLowerCase body
  match errors count isEmail body input, input.email, input.password with
  | [], some email, some (.string password) => .ok {
      documentNumber := input.documentNumber
      fin := input.fin
      email
      phoneNumber := input.phoneNumber
      password }
  | messages, _, _ => .error (.invalid messages)

/-! ### What is admitted -/

/-- The fields of a registration are in form. -/
structure InForm (dto : UsersService.RegisterDto) : Prop where
  documentNumber : ∀ text ∈ dto.documentNumber, count (codeUnits text) = 16 ∧ sixteenDigits text
  fin : ∀ text ∈ dto.fin, finDigits text
  email : isEmail dto.email
  phoneNumber : ∀ text ∈ dto.phoneNumber, phoneDigits text
  password : Takes count passwordRules (codeUnits dto.password)

/-- The fields have been transformed already. -/
structure Settled (dto : UsersService.RegisterDto) : Prop where
  documentNumber : ∀ text ∈ dto.documentNumber, trimText text = text
  fin : ∀ text ∈ dto.fin, trimText text = text
  email : normalizeEmail toLowerCase dto.email = dto.email
  phoneNumber : ∀ text ∈ dto.phoneNumber, trimText text = text

/-- One identity number is given. -/
def OneIdentity (dto : UsersService.RegisterDto) : Prop :=
  truthy dto.documentNumber ≠ truthy dto.fin

/-- The body carries one of the two private fields. -/
def Marked (body : Body) : Prop :=
  isDefined (body.lookup "identityInputRequired") = true ∨
    isDefined (body.lookup "identityInputExclusive") = true

variable {count isEmail toLowerCase} {body : Body} {dto : UsersService.RegisterDto}

@[simp] theorem refusing_eq_nil {failed : Bool} {message : String} :
    refusing failed message = [] ↔ failed = false := by
  cases failed <;> simp [refusing]

theorem documentNumberErrors_eq_nil {value : Option String} :
    documentNumberErrors count value = [] ↔
      ∀ text ∈ value, count (codeUnits text) = 16 ∧ sixteenDigits text = true := by
  cases value <;> simp [documentNumberErrors]

theorem finErrors_eq_nil {value : Option String} :
    finErrors value = [] ↔ ∀ text ∈ value, finDigits text = true := by
  cases value <;> simp [finErrors]

theorem emailErrors_eq_nil {text : String} :
    emailErrors isEmail (some text) = [] ↔ isEmail text = true := by
  simp [emailErrors]

theorem phoneNumberErrors_eq_nil {value : Option String} :
    phoneNumberErrors value = [] ↔ ∀ text ∈ value, phoneDigits text = true := by
  cases value <;> simp [phoneNumberErrors]

/-- A method that changes nothing the second time leaves what it has made. -/
theorem transform_settles {method : String → String}
    (settles : ∀ text, method (method text) = method text) {value : Option JsonValue}
    {text : Option String} (transformed : transform method value = .ok text) :
    ∀ given ∈ text, method given = given := by
  unfold transform at transformed
  split at transformed
  · cases transformed
    simp
  · cases transformed
    simp
  · cases transformed
    rintro given ⟨⟩
    exact settles _
  · cases transformed

theorem bind_ok {First Second : Type} {first : Except Refusal First}
    {next : First → Except Refusal Second} {result : Second} :
    (first >>= next) = .ok result ↔ ∃ value, first = .ok value ∧ next value = .ok result := by
  cases first <;> simp [Bind.bind, Except.bind]

/-- The parts of what is read. -/
theorem readInput_ok {input : Input} : readInput toLowerCase body = .ok input ↔
    transform trimText (body.lookup "documentNumber") = .ok input.documentNumber ∧
      transform trimText (body.lookup "fin") = .ok input.fin ∧
      transform (normalizeEmail toLowerCase) (body.lookup "email") = .ok input.email ∧
      transform trimText (body.lookup "phoneNumber") = .ok input.phoneNumber ∧
      input.password = body.lookup "password" ∧
      input.identityInputRequired = body.lookup "identityInputRequired" ∧
      input.identityInputExclusive = body.lookup "identityInputExclusive" := by
  unfold readInput
  simp only [bind_ok]
  constructor
  · rintro ⟨_, number, _, fin, _, email, _, phone, made⟩
    cases made
    exact ⟨number, fin, email, phone, rfl, rfl, rfl⟩
  · rintro ⟨number, fin, email, phone, password, required, exclusive⟩
    refine ⟨_, number, _, fin, _, email, _, phone, ?_⟩
    rw [← password, ← required, ← exclusive]
    rfl

/-- What it takes to be admitted. -/
theorem validate_ok : validate count isEmail toLowerCase body = .ok dto ↔
    ∃ input, readInput toLowerCase body = .ok input ∧ errors count isEmail body input = [] ∧
      input.documentNumber = dto.documentNumber ∧ input.fin = dto.fin ∧
      input.email = some dto.email ∧ input.phoneNumber = dto.phoneNumber ∧
      input.password = some (.string dto.password) := by
  unfold validate
  rw [bind_ok]
  refine exists_congr fun input => and_congr_right fun _ => ?_
  constructor
  · intro admitted
    split at admitted
    · rename_i email password nothing emailed given
      cases admitted
      exact ⟨nothing, rfl, rfl, emailed, rfl, given⟩
    · cases admitted
  · rintro ⟨nothing, number, fin, email, phone, password⟩
    rw [nothing, email, password, number, fin, phone]

theorem identityErrors_nil {input : Input} (nothing : identityErrors input = [])
    (number : input.documentNumber = dto.documentNumber) (fin : input.fin = dto.fin)
    (required : input.identityInputRequired = body.lookup "identityInputRequired")
    (exclusive : input.identityInputExclusive = body.lookup "identityInputExclusive") :
    OneIdentity dto ∨ Marked body := by
  simp only [identityErrors, List.append_eq_nil_iff, refusing_eq_nil, number, fin, required,
    exclusive] at nothing
  obtain ⟨oneAtLeast, oneAtMost⟩ := nothing
  unfold OneIdentity Marked
  cases given : truthy dto.documentNumber <;> cases also : truthy dto.fin <;>
    simp_all

/-- What is admitted is in form, has been transformed, and gives one identity number, unless the
body carries a private field. -/
theorem admitted_inForm
    (settles : ∀ text, normalizeEmail toLowerCase (normalizeEmail toLowerCase text) =
      normalizeEmail toLowerCase text)
    (admitted : validate count isEmail toLowerCase body = .ok dto) :
    InForm count isEmail dto ∧ Settled toLowerCase dto ∧ (OneIdentity dto ∨ Marked body) := by
  obtain ⟨input, read, nothing, number, fin, email, phone, password⟩ := validate_ok.mp admitted
  obtain ⟨readNumber, readFin, readEmail, readPhone, -, required, exclusive⟩ := readInput_ok.mp read
  simp only [errors, List.append_eq_nil_iff] at nothing
  obtain ⟨⟨⟨⟨⟨⟨-, numberFits⟩, finFits⟩, emailFits⟩, phoneFits⟩, passwordFits⟩, identity⟩ := nothing
  rw [number] at readNumber numberFits
  rw [fin] at readFin finFits
  rw [email] at readEmail emailFits
  rw [phone] at readPhone phoneFits
  rw [password] at passwordFits
  have inForm : InForm count isEmail dto :=
    { documentNumber := documentNumberErrors_eq_nil.mp numberFits
      fin := finErrors_eq_nil.mp finFits
      email := emailErrors_eq_nil.mp emailFits
      phoneNumber := phoneNumberErrors_eq_nil.mp phoneFits
      password := passwordFits }
  have settled : Settled toLowerCase dto :=
    { documentNumber := transform_settles trimText_trimText readNumber
      fin := transform_settles trimText_trimText readFin
      email := transform_settles settles readEmail dto.email rfl
      phoneNumber := transform_settles trimText_trimText readPhone }
  exact ⟨inForm, settled, identityErrors_nil identity number fin required exclusive⟩

/-! ### Sending it again -/

/-- A body with the fields as the service has them. -/
def toBody (dto : UsersService.RegisterDto) : Body :=
  (dto.documentNumber.map fun text => ("documentNumber", JsonValue.string text)).toList ++
    (dto.fin.map fun text => ("fin", JsonValue.string text)).toList ++
    [("email", .string dto.email)] ++
    (dto.phoneNumber.map fun text => ("phoneNumber", JsonValue.string text)).toList ++
    [("password", .string dto.password)]

/-- What is in form and has been transformed is admitted as it is. -/
theorem validate_toBody (inForm : InForm count isEmail dto) (settled : Settled toLowerCase dto)
    (one : OneIdentity dto) : validate count isEmail toLowerCase (toBody dto) = .ok dto := by
  have reads : readInput toLowerCase (toBody dto) = .ok ⟨dto.documentNumber, dto.fin,
      some dto.email, dto.phoneNumber, some (.string dto.password), none, none⟩ := by
    refine readInput_ok.mpr ?_
    obtain ⟨documentNumber, fin, email, phoneNumber, password⟩ := dto
    obtain ⟨numberSettled, finSettled, emailSettled, phoneSettled⟩ := settled
    cases documentNumber <;> cases fin <;> cases phoneNumber <;>
      simp_all [toBody, List.lookup_cons, transform]
  refine validate_ok.mpr ⟨_, reads, ?_, rfl, rfl, rfl, rfl, rfl⟩
  have known : unknownErrors (toBody dto) = [] := by
    obtain ⟨documentNumber, fin, email, phoneNumber, password⟩ := dto
    cases documentNumber <;> cases fin <;> cases phoneNumber <;>
      simp [unknownErrors, toBody, declared]
  have single : identityErrors ⟨dto.documentNumber, dto.fin, some dto.email, dto.phoneNumber,
      some (.string dto.password), none, none⟩ = [] := by
    unfold OneIdentity at one
    cases given : truthy dto.documentNumber <;> cases also : truthy dto.fin <;>
      simp_all [identityErrors]
  have number := documentNumberErrors_eq_nil.mpr inForm.documentNumber
  have fin := finErrors_eq_nil.mpr inForm.fin
  have email := emailErrors_eq_nil.mpr inForm.email
  have phone := phoneNumberErrors_eq_nil.mpr inForm.phoneNumber
  have password : passwordErrors count (some (.string dto.password)) = [] := inForm.password
  simp only [errors, known, number, fin, email, phone, password, single, List.append_nil]

/-! ### What the service makes of it -/

/-- The lookup takes the numbers that are in form. -/
theorem validDocumentNumber_of_digits {text : String} (digits : sixteenDigits text = true) :
    validDocumentNumber text = true := by
  unfold sixteenDigits at digits
  rw [Bool.and_eq_true] at digits
  unfold validDocumentNumber
  rw [trim_digits (List.all_eq_true.mp digits.2), digits.1, digits.2]
  rfl

/-- The service checks the identity numbers for itself, before it asks for anything. -/
theorem oneIdentity_or_refused (runtime : Runtime) (dto : UsersService.RegisterDto) :
    OneIdentity dto ∨ ∃ message,
      UsersService.register runtime dto = .raise (BadRequestException message) := by
  unfold OneIdentity UsersService.register assertExclusiveIdentityInput
  cases truthy dto.documentNumber <;> cases truthy dto.fin
  · exact .inr ⟨_, rfl⟩
  · exact .inl Bool.false_ne_true
  · exact .inl Bool.false_ne_true.symm
  · exact .inr ⟨_, rfl⟩

/-- **What is admitted is in form.** A body that the validation admits is handed on with numbers
that the lookup takes, and either it gives one identity number and is admitted unchanged when it is
sent again, or it carries a private field and the service refuses it. -/
theorem admitted_registrations_in_form (runtime : Runtime)
    (settles : ∀ text, normalizeEmail toLowerCase (normalizeEmail toLowerCase text) =
      normalizeEmail toLowerCase text)
    (admitted : validate count isEmail toLowerCase body = .ok dto) :
    InForm count isEmail dto ∧ (∀ text ∈ dto.documentNumber, validDocumentNumber text = true) ∧
      (OneIdentity dto ∧ validate count isEmail toLowerCase (toBody dto) = .ok dto ∨
        Marked body ∧ ∃ message,
          UsersService.register runtime dto = .raise (BadRequestException message)) := by
  obtain ⟨inForm, settled, identity⟩ := admitted_inForm settles admitted
  refine ⟨inForm, fun text given =>
    validDocumentNumber_of_digits (inForm.documentNumber text given).2, ?_⟩
  rcases oneIdentity_or_refused runtime dto with one | refused
  · exact .inl ⟨one, validate_toBody inForm settled one⟩
  · rcases identity with one | marked
    · exact .inl ⟨one, validate_toBody inForm settled one⟩
    · exact .inr ⟨marked, refused⟩

def sampleBody (fields : Body) : Body :=
  [("email", .string "a@x.rw"), ("password", .string "Abcdef1!")] ++ fields

def sampleDto (documentNumber : Option String) : UsersService.RegisterDto :=
  ⟨documentNumber, none, "a@x.rw", none, "Abcdef1!"⟩

/-- A padded number is admitted, and so is a body without a number that carries the private field;
the service refuses the second. -/
theorem admitted_registrations_in_form_sample :
    (validate List.length (·.toList.contains '@') id
        (sampleBody [("documentNumber", .string " 1199080012345678 ")]) =
          .ok (sampleDto (some "1199080012345678")) ∧
      validDocumentNumber "1199080012345678" = true) ∧
    validate List.length (·.toList.contains '@') id
        (sampleBody [("identityInputRequired", .string "x")]) = .ok (sampleDto none) ∧
      ∃ message, UsersService.register legibleRuntime (sampleDto none) =
        .raise (BadRequestException message) := by
  have settles : ∀ text, normalizeEmail id (normalizeEmail id text) = normalizeEmail id text :=
    trimText_trimText
  have trimmed : trimText " 1199080012345678 " = "1199080012345678" := by decide +kernel
  have address : normalizeEmail id "a@x.rw" = "a@x.rw" := by decide +kernel
  have number : (codeUnits "1199080012345678").length = 16 ∧
      sixteenDigits "1199080012345678" = true := by decide +kernel
  have password : fieldErrors List.length passwordRules (codeUnits "Abcdef1!") = [] := by
    decide +kernel
  have padded : validate List.length (·.toList.contains '@') id
      (sampleBody [("documentNumber", .string " 1199080012345678 ")]) =
        .ok (sampleDto (some "1199080012345678")) := by
    refine validate_ok.mpr ⟨⟨some "1199080012345678", none, some "a@x.rw", none,
      some (.string "Abcdef1!"), none, none⟩, readInput_ok.mpr ?_, ?_, rfl, rfl, rfl, rfl, rfl⟩
    · simp [sampleBody, List.lookup_cons, transform, trimmed, address]
    · simp [errors, unknownErrors, declared, sampleBody, documentNumberErrors, finErrors,
        emailErrors, phoneNumberErrors, passwordErrors, identityErrors, truthy, number,
        password]
  have marked : validate List.length (·.toList.contains '@') id
      (sampleBody [("identityInputRequired", .string "x")]) = .ok (sampleDto none) := by
    refine validate_ok.mpr ⟨⟨none, none, some "a@x.rw", none, some (.string "Abcdef1!"),
      some (.string "x"), none⟩, readInput_ok.mpr ?_, ?_, rfl, rfl, rfl, rfl, rfl⟩
    · simp [sampleBody, List.lookup_cons, transform, address]
    · simp [errors, unknownErrors, declared, sampleBody, documentNumberErrors, finErrors,
        emailErrors, phoneNumberErrors, passwordErrors, identityErrors, truthy, isDefined,
        password]
  refine ⟨⟨padded, (admitted_registrations_in_form legibleRuntime settles padded).2.1 _ rfl⟩,
    marked, ?_⟩
  rcases (admitted_registrations_in_form legibleRuntime settles marked).2.2 with
    ⟨one, -⟩ | ⟨-, refused⟩
  · exact absurd rfl one
  · exact refused

end RegisterDto

end GraconAuth
