/-
This file embeds the ciphers of the encryption service down to the bytes, and says
what the document check of a submission comes to with them. A number that has been
encrypted is decrypted to itself, so the check passes exactly when the submitted
number, trimmed, is the one that the account was registered with.

The block cipher is part of Node: AES-256-CBC with padding is a parameter whose
decryption undoes its encryption.
-/

import GraconAuth.Encodings
import GraconAuth.StoredIdentity

namespace GraconAuth

open Encodings Interleaving Program
open UsersService (RegisterDto)
open VerificationService (trim SubmitVerificationDto)

/-! ### The ciphers -/

namespace EncryptionService

/-- The digest of the secret. -/
abbrev Key := { bytes : Bytes // bytes.length = 32 }

/-- An initialisation vector. -/
abbrev Iv := { bytes : Bytes // bytes.length = 16 }

/-- AES-256-CBC with padding. Deciphering fails on what is not padded. -/
structure Aes256Cbc where
  encipher : Key → Iv → Bytes → Bytes
  decipher : Key → Iv → Bytes → Except String Bytes
  decipher_encipher : ∀ key iv plain, decipher key iv (encipher key iv plain) = .ok plain

variable (aes : Aes256Cbc) (key : Key)

/-- `ivHex:encryptedHex` -/
def encryptWith (iv : Iv) (plainText : String) : String :=
  String.ofList
    (toHex iv.1 ++ ':' :: toHex (aes.encipher key iv (utf8 plainText.toList)))

def decryptWith (encryptedText : String) : Except Failure String :=
  match encryptedText.toList.splitOn ':' with
  | ivHex :: encryptedHex :: _ =>
    if bound : (fromHex ivHex).length = 16 then
      match aes.decipher key ⟨fromHex ivHex, bound⟩ (fromHex encryptedHex) with
      | .ok decrypted => .ok (String.ofList (decodeUtf8 decrypted))
      | .error message => .error (.error message)
    else .error (.error "Invalid initialization vector")
  | _ => .error (.error
      "The first argument must be of type string or an instance of Buffer, ArrayBuffer, or Array or an Array-like Object. Received undefined")

/-- The separator is not among the digits. -/
theorem colon_not_mem_toHex (bytes : Bytes) : ':' ∉ toHex bytes := fun member => by
  have digit := hexValue_of_mem_toHex member
  cases digit

theorem decryptWith_encryptWith (iv : Iv) (plainText : String) :
    decryptWith aes key (encryptWith aes key iv plainText) = .ok plainText := by
  have split : (encryptWith aes key iv plainText).toList.splitOn ':' =
      [toHex iv.1, toHex (aes.encipher key iv (utf8 plainText.toList))] := by
    rw [encryptWith, String.toList_ofList,
      List.splitOn_append_cons_self_of_not_mem (colon_not_mem_toHex _),
      List.splitOn_eq_singleton (colon_not_mem_toHex _)]
  have bound : (fromHex (toHex iv.1)).length = 16 := by rw [fromHex_toHex, iv.2]
  have vector : (⟨fromHex (toHex iv.1), bound⟩ : Iv) = iv := Subtype.ext (fromHex_toHex _)
  unfold decryptWith
  rw [split]
  simp only
  rw [dif_pos bound, vector, fromHex_toHex, aes.decipher_encipher]
  simp only
  rw [decodeUtf8_utf8, String.ofList_toList]

end EncryptionService

open EncryptionService

/-- The runtime with these ciphers. `drawn` reads what `randomBytes` has drawn. -/
def Runtime.enciphering (runtime : Runtime) (aes : Aes256Cbc) (key : Key) (drawn : String → Iv) :
    Runtime :=
  { runtime with
    encrypt := fun iv plainText => encryptWith aes key (drawn iv) plainText
    decrypt := decryptWith aes key }

/-! ### The document check -/

/-- The engine is told that the document matches exactly when the submitted number, trimmed, is the
one that the account was registered with. -/
def ComparesNumbers (world : ServiceWorld) : Prop :=
  ∀ created ∈ world.history, ∀ told ∈ world.history,
    ∀ dto documentNumber data userId jwt submitted ipAddress payload,
      created.request = .register dto → dto.documentNumber = some documentNumber →
      created.event = ⟨.registerTransaction data, .ok userId⟩ → data.identityType = .NID →
      told.request = .submitVerification jwt submitted ipAddress → jwt.payload.sub = userId →
      told.effect = .callEngine payload →
        (payload.documentMatch = true ↔ trim submitted.documentNumber = documentNumber)

/-- Under every key and every initialisation vector an encrypted text is decrypted to itself. And in
every run, the check of a submission compares with the number of the registration. -/
theorem identifiers_intact (aes : Aes256Cbc) (key : Key) (drawn : String → Iv) (runtime : Runtime)
    (clock : Timestamp) (pool : ServicePool)
    (reachable : Reachable (service (runtime.enciphering aes key drawn)) Regime.free
      (State.empty clock) pool) :
    (∀ iv plainText, decryptWith aes key (encryptWith aes key iv plainText) = .ok plainText) ∧
      ComparesNumbers pool.world := by
  refine ⟨decryptWith_encryptWith aes key, ?_⟩
  intro created memberCreated told memberTold dto documentNumber data userId jwt submitted
    ipAddress payload register given event national submit subject engine
  have registering := reachable_chronicle _ reachable fun request _ => serve_registers _ request
  have submitting := reachable_chronicle _ reachable fun request _ => serve_submits _ request
  obtain ⟨earlier, chronicle, admissible, _⟩ := registering.recalls memberCreated
  have drafted : registersFor _ created.request (earlier.past created.thread) created.effect :=
    admissible.ruled
  rw [register, show created.effect = .registerTransaction data from congrArg Event.effect event]
    at drafted
  obtain ⟨_, identity, salt, iv, pidIv, digits, rawToken, now, found, _, rfl⟩ := drafted
  have number := identityIn_number _ chronicle admissible register found national
  rw [given, Option.getD_some] at number
  obtain ⟨before, _, answered, inside⟩ := submitting.recalls memberTold
  have compared : submitsFor _ told.request (before.past told.thread) told.effect :=
    answered.ruled
  rw [submit, engine] at compared
  obtain ⟨row, encrypted, storedNid, ⟨record, read, stored⟩, held, decrypted, verdict⟩ := compared
  rw [subject] at read
  obtain ⟨id, rfl⟩ := read_created submitting memberCreated event
    ⟨record, World.past_subset inside _ read, stored⟩
  have kept : identity.identityType ≠ .FIN := by
    intro foreign
    rw [show identity.identityType = .NID from national] at foreign
    cases foreign
  simp only [RegistrationCreate.identity, RegisterDto.draft, if_neg kept, Option.some.injEq] at held
  rw [← held] at decrypted
  have same := (decryptWith_encryptWith aes key (drawn iv) identity.identityNumber).symm.trans
    decrypted
  rw [verdict, beq_iff_eq, ← Except.ok.inj same, number]
  exact eq_comm

/-! ### A registration and its submission -/

/-- A key, an initialisation vector and a number. -/
def sampleKey : Key :=
  ⟨[0x00, 0x01, 0x02, 0x03, 0x04, 0x05, 0x06, 0x07, 0x08, 0x09, 0x0a, 0x0b, 0x0c, 0x0d, 0x0e, 0x0f,
    0x10, 0x11, 0x12, 0x13, 0x14, 0x15, 0x16, 0x17, 0x18, 0x19, 0x1a, 0x1b, 0x1c, 0x1d, 0x1e,
    0x1f], rfl⟩

def sampleIv : Iv :=
  ⟨[0x00, 0x01, 0x02, 0x03, 0x04, 0x05, 0x06, 0x07, 0x08, 0x09, 0x0a, 0x0b, 0x0c, 0x0d, 0x0e,
    0x0f], rfl⟩

def sampleNumber : String := "1199880012345678"

/-- What AES-256-CBC makes of the number under that key and vector. -/
def sampleCiphertext : Bytes :=
  [0x1b, 0xc5, 0x11, 0xf5, 0xc6, 0xb2, 0x81, 0x9d, 0x11, 0x80, 0x3b, 0x3f, 0xeb, 0x8b, 0x78, 0x81,
    0x1c, 0xcc, 0x01, 0x99, 0x98, 0xc2, 0x08, 0x74, 0xe7, 0xde, 0x02, 0x01, 0x95, 0x9a, 0xda, 0xc5]

/-- A cipher that agrees with AES-256-CBC on the number, and exchanges nothing else. -/
def sampleAes : Aes256Cbc where
  encipher _ _ plain := Equiv.swap (utf8 sampleNumber.toList) sampleCiphertext plain
  decipher _ _ bytes := .ok (Equiv.swap (utf8 sampleNumber.toList) sampleCiphertext bytes)
  decipher_encipher _ _ plain := by rw [Equiv.swap_apply_self]

/-- A citizen registers with the number, verifies the email and submits the number, with a blank at
either end. -/
def sampleSchedule : List ServiceMove :=
  .accept (.register ⟨some sampleNumber, none, "b@x", none, "pw"⟩) ::
    steps 0 [{ citizen := ⟨"Ann", "Lee", "F", 0, "RW"⟩ }, {}, {}, {}, {}, {}, {},
      { text := "r0" }, {}, {}, {}, {}] ++
  .accept (.verifyEmail ⟨0, "r0"⟩) ::
    steps 1 [{}, {}, {}, {}, {}, { text := "r1" }, {}, {}, {}] ++
  .accept (.submitVerification ⟨⟨0, "b@x", some .limited⟩, "2h"⟩
    ⟨" 1199880012345678 ", ⟨some "id", "image/png", 1⟩, ⟨some "me", "image/png", 1⟩, .standard⟩
    "ip") :: steps 2 (List.replicate 12 {})

/-- The pool that it leads to with these ciphers. -/
def sampleRun : ServicePool :=
  (Pool.start (State.empty 0)).playAll
    (service (legibleRuntime.enciphering sampleAes sampleKey fun _ => sampleIv)) .lax
    sampleSchedule

/-- The engine is told that the number matches. -/
def toldMatch : ServiceEvent → Bool
  | ⟨.callEngine payload, _⟩ => payload.documentMatch
  | _ => false

/-- So it is in that run. -/
theorem identifiers_intact_sample :
    sampleRun.world.history.any (fun entry => toldMatch entry.event) = true ∧
      (∀ iv plainText, decryptWith sampleAes sampleKey (encryptWith sampleAes sampleKey iv
        plainText) = .ok plainText) ∧
      ComparesNumbers sampleRun.world :=
  ⟨by decide +kernel, identifiers_intact sampleAes sampleKey (fun _ => sampleIv) legibleRuntime 0 _
    (Pool.playAll_reachable Referee.lax_upholds _ _)⟩

end GraconAuth
