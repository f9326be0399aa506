/-
This file gives the encodings that take text to bytes and bytes to text: UTF-8,
whose decoder puts a replacement character for what is not well formed, UTF-16, the
hexadecimal digits, and base64 as a lenient decoder reads it: up to the first padding,
whatever stands behind it.

Text is a list of characters and a byte string is a list of bytes. What has been
encoded in UTF-8 or in hexadecimal digits is decoded to what it was.
-/

import Mathlib.Data.List.Basic
import Mathlib.Tactic.IntervalCases

namespace Encodings

abbrev Bytes := List UInt8

/-! ### UTF-8 -/

/-- The UTF-8 encoding of a text. -/
def utf8 (text : List Char) : Bytes := text.flatMap String.utf8EncodeChar

/-- U+FFFD -/
def replacement : Char := Char.ofNat 0xFFFD

/-- A character that has begun: how many bytes it lacks, the bounds of the next one, and the bits
read so far. -/
structure Begun where
  lacking : Nat
  lower : Nat
  upper : Nat
  bits : Nat
  deriving DecidableEq, Repr

/-- The first byte of a character: what it gives at once, and what it begins. -/
def firstByte (byte : Nat) : List Char × Option Begun :=
  if byte < 0x80 then ([Char.ofNat byte], none)
  else if byte < 0xC2 then ([replacement], none)
  else if byte < 0xE0 then ([], some ⟨1, 0x80, 0xBF, byte - 0xC0⟩)
  else if byte < 0xF0 then
    ([], some ⟨2, if byte = 0xE0 then 0xA0 else 0x80, if byte = 0xED then 0x9F else 0xBF,
      byte - 0xE0⟩)
  else if byte < 0xF5 then
    ([], some ⟨3, if byte = 0xF0 then 0x90 else 0x80, if byte = 0xF4 then 0x8F else 0xBF,
      byte - 0xF0⟩)
  else ([replacement], none)

/-- One byte. A byte out of bounds ends the character that has begun, and is read afresh. -/
def nextByte (begun : Option Begun) (byte : Nat) : List Char × Option Begun :=
  match begun with
  | none => firstByte byte
  | some ⟨lacking, lower, upper, bits⟩ =>
    if lower ≤ byte ∧ byte ≤ upper then
      if lacking = 1 then ([Char.ofNat (bits * 64 + (byte - 0x80))], none)
      else ([], some ⟨lacking - 1, 0x80, 0xBF, bits * 64 + (byte - 0x80)⟩)
    else (replacement :: (firstByte byte).1, (firstByte byte).2)

/-- The text of the remaining bytes, with a character begun or none. -/
def decodeFrom (begun : Option Begun) : Bytes → List Char
  | [] => if begun.isSome then [replacement] else []
  | byte :: rest =>
    (nextByte begun byte.toNat).1 ++ decodeFrom (nextByte begun byte.toNat).2 rest

/-- The text of a byte string. -/
def decodeUtf8 (bytes : Bytes) : List Char := decodeFrom none bytes

theorem decodeFrom_cons {begun next : Option Begun} {byte : UInt8} {rest : Bytes}
    {given : List Char} (step : nextByte begun byte.toNat = (given, next)) :
    decodeFrom begun (byte :: rest) = given ++ decodeFrom next rest := by
  rw [decodeFrom, step]

theorem toNat_ofNat_of_lt {value : Nat} (small : value < 256) :
    (UInt8.ofNat value).toNat = value := by
  rw [UInt8.toNat_ofNat', Nat.mod_eq_of_lt small]

/-- The bytes of a character, of which there are between one and four. -/
theorem utf8EncodeChar_cases (character : Char) :
    (character.toNat < 0x80 ∧
      String.utf8EncodeChar character = [UInt8.ofNat character.toNat]) ∨
    (0x80 ≤ character.toNat ∧ character.toNat < 0x800 ∧
      String.utf8EncodeChar character = [UInt8.ofNat (character.toNat / 64 + 0xC0),
        UInt8.ofNat (character.toNat % 64 + 0x80)]) ∨
    (0x800 ≤ character.toNat ∧ character.toNat < 0x10000 ∧
      String.utf8EncodeChar character = [UInt8.ofNat (character.toNat / 4096 + 0xE0),
        UInt8.ofNat (character.toNat / 64 % 64 + 0x80),
        UInt8.ofNat (character.toNat % 64 + 0x80)]) ∨
    (0x10000 ≤ character.toNat ∧ character.toNat < 0x110000 ∧
      String.utf8EncodeChar character = [UInt8.ofNat (character.toNat / 262144 + 0xF0),
        UInt8.ofNat (character.toNat / 4096 % 64 + 0x80),
        UInt8.ofNat (character.toNat / 64 % 64 + 0x80),
        UInt8.ofNat (character.toNat % 64 + 0x80)]) := by
  have valid : character.toNat < 0x110000 := by
    rcases character.valid with low | high
    · exact Nat.lt_trans low (by decide)
    · exact high.2
  have unfolded : String.utf8EncodeChar character =
      if character.toNat ≤ 0x7F then [UInt8.ofNat character.toNat]
      else if character.toNat ≤ 0x7FF then
        [UInt8.ofNat (character.toNat / 64 % 0x20 + 0xC0),
          UInt8.ofNat (character.toNat % 0x40 + 0x80)]
      else if character.toNat ≤ 0xFFFF then
        [UInt8.ofNat (character.toNat / 4096 % 0x10 + 0xE0),
          UInt8.ofNat (character.toNat / 64 % 0x40 + 0x80),
          UInt8.ofNat (character.toNat % 0x40 + 0x80)]
      else
        [UInt8.ofNat (character.toNat / 262144 % 0x08 + 0xF0),
          UInt8.ofNat (character.toNat / 4096 % 0x40 + 0x80),
          UInt8.ofNat (character.toNat / 64 % 0x40 + 0x80),
          UInt8.ofNat (character.toNat % 0x40 + 0x80)] := rfl
  rw [unfolded]
  split
  · exact .inl ⟨by omega, rfl⟩
  · refine .inr ?_
    split
    · refine .inl ⟨by omega, by omega, ?_⟩
      rw [show character.toNat / 64 % 0x20 = character.toNat / 64 by omega]
    · refine .inr ?_
      split
      · refine .inl ⟨by omega, by omega, ?_⟩
        rw [show character.toNat / 4096 % 0x10 = character.toNat / 4096 by omega]
      · refine .inr ⟨by omega, by omega, ?_⟩
        rw [show character.toNat / 262144 % 0x08 = character.toNat / 262144 by omega]

theorem firstByte_single {byte : Nat} (small : byte < 0x80) :
    firstByte byte = ([Char.ofNat byte], none) := if_pos small

theorem firstByte_double {bits : Nat} (least : 2 ≤ bits) (most : bits < 0x20) :
    firstByte (bits + 0xC0) = ([], some ⟨1, 0x80, 0xBF, bits⟩) := by
  unfold firstByte
  rw [if_neg (by omega), if_neg (by omega), if_pos (by omega), Nat.add_sub_cancel]

theorem firstByte_triple {bits : Nat} (most : bits < 0x10) :
    firstByte (bits + 0xE0) = ([], some ⟨2, if bits = 0 then 0xA0 else 0x80,
      if bits = 13 then 0x9F else 0xBF, bits⟩) := by
  unfold firstByte
  rw [if_neg (by omega), if_neg (by omega), if_neg (by omega), if_pos (by omega),
    Nat.add_sub_cancel]
  simp only [show bits + 0xE0 = 0xE0 ↔ bits = 0 by omega,
    show bits + 0xE0 = 0xED ↔ bits = 13 by omega]

theorem firstByte_quadruple {bits : Nat} (most : bits < 5) :
    firstByte (bits + 0xF0) = ([], some ⟨3, if bits = 0 then 0x90 else 0x80,
      if bits = 4 then 0x8F else 0xBF, bits⟩) := by
  unfold firstByte
  rw [if_neg (by omega), if_neg (by omega), if_neg (by omega), if_neg (by omega),
    if_pos (by omega), Nat.add_sub_cancel]
  simp only [show bits + 0xF0 = 0xF0 ↔ bits = 0 by omega,
    show bits + 0xF0 = 0xF4 ↔ bits = 4 by omega]

/-- A byte that does not end a character adds its six bits. -/
theorem nextByte_more {lacking lower upper bits number : Nat} (more : lacking ≠ 1)
    (head : bits = number / 64) (least : lower ≤ number % 64 + 0x80)
    (most : number % 64 + 0x80 ≤ upper) :
    nextByte (some ⟨lacking, lower, upper, bits⟩) (UInt8.ofNat (number % 64 + 0x80)).toNat =
      ([], some ⟨lacking - 1, 0x80, 0xBF, number⟩) := by
  rw [toNat_ofNat_of_lt (by omega)]
  simp only [nextByte]
  rw [if_pos ⟨least, most⟩, if_neg more, Nat.add_sub_cancel, head, Nat.div_add_mod']

/-- The last byte of a character of two bytes or more ends it. -/
theorem nextByte_ends (character : Char) :
    nextByte (some ⟨1, 0x80, 0xBF, character.toNat / 64⟩)
      (UInt8.ofNat (character.toNat % 64 + 0x80)).toNat = ([character], none) := by
  rw [toNat_ofNat_of_lt (by omega)]
  simp only [nextByte]
  rw [if_pos ⟨by omega, by omega⟩, if_pos trivial, Nat.add_sub_cancel, Nat.div_add_mod',
    Char.ofNat_toNat]

/-- The bytes of a character are read as that character. -/
theorem decodeFrom_character (character : Char) (rest : Bytes) :
    decodeFrom none (String.utf8EncodeChar character ++ rest) =
      character :: decodeFrom none rest := by
  have scalar : character.toNat < 0xD800 ∨ 0xDFFF < character.toNat :=
    character.valid.imp id And.left
  rcases utf8EncodeChar_cases character with ⟨small, bytes⟩ | ⟨least, most, bytes⟩ |
    ⟨least, most, bytes⟩ | ⟨least, most, bytes⟩
  · have only : nextByte none (UInt8.ofNat character.toNat).toNat = ([character], none) := by
      rw [toNat_ofNat_of_lt (by omega), nextByte, firstByte_single small, Char.ofNat_toNat]
    rw [bytes, List.singleton_append, decodeFrom_cons only, List.singleton_append]
  · have first : nextByte none (UInt8.ofNat (character.toNat / 64 + 0xC0)).toNat =
        ([], some ⟨1, 0x80, 0xBF, character.toNat / 64⟩) := by
      rw [toNat_ofNat_of_lt (by omega), nextByte, firstByte_double (by omega) (by omega)]
    rw [bytes, List.cons_append, decodeFrom_cons first, List.nil_append, List.singleton_append,
      decodeFrom_cons (nextByte_ends character), List.singleton_append]
  · have first : nextByte none (UInt8.ofNat (character.toNat / 4096 + 0xE0)).toNat =
        ([], some ⟨2, if character.toNat / 4096 = 0 then 0xA0 else 0x80,
          if character.toNat / 4096 = 13 then 0x9F else 0xBF, character.toNat / 4096⟩) := by
      rw [toNat_ofNat_of_lt (by omega), nextByte, firstByte_triple (by omega)]
    have second : nextByte (some ⟨2, if character.toNat / 4096 = 0 then 0xA0 else 0x80,
          if character.toNat / 4096 = 13 then 0x9F else 0xBF, character.toNat / 4096⟩)
        (UInt8.ofNat (character.toNat / 64 % 64 + 0x80)).toNat =
          ([], some ⟨1, 0x80, 0xBF, character.toNat / 64⟩) :=
      nextByte_more (by decide) (by omega) (by split <;> omega) (by split <;> omega)
    rw [bytes, List.cons_append, decodeFrom_cons first, List.nil_append, List.cons_append,
      decodeFrom_cons second, List.nil_append, List.singleton_append,
      decodeFrom_cons (nextByte_ends character), List.singleton_append]
  · have first : nextByte none (UInt8.ofNat (character.toNat / 262144 + 0xF0)).toNat =
        ([], some ⟨3, if character.toNat / 262144 = 0 then 0x90 else 0x80,
          if character.toNat / 262144 = 4 then 0x8F else 0xBF, character.toNat / 262144⟩) := by
      rw [toNat_ofNat_of_lt (by omega), nextByte, firstByte_quadruple (by omega)]
    have second : nextByte (some ⟨3, if character.toNat / 262144 = 0 then 0x90 else 0x80,
          if character.toNat / 262144 = 4 then 0x8F else 0xBF, character.toNat / 262144⟩)
        (UInt8.ofNat (character.toNat / 4096 % 64 + 0x80)).toNat =
          ([], some ⟨2, 0x80, 0xBF, character.toNat / 4096⟩) :=
      nextByte_more (by decide) (by omega) (by split <;> omega) (by split <;> omega)
    have third : nextByte (some ⟨2, 0x80, 0xBF, character.toNat / 4096⟩)
        (UInt8.ofNat (character.toNat / 64 % 64 + 0x80)).toNat =
          ([], some ⟨1, 0x80, 0xBF, character.toNat / 64⟩) :=
      nextByte_more (by decide) (by omega) (by omega) (by omega)
    rw [bytes, List.cons_append, decodeFrom_cons first, List.nil_append, List.cons_append,
      decodeFrom_cons second, List.nil_append, List.cons_append, decodeFrom_cons third,
      List.nil_append, List.singleton_append, decodeFrom_cons (nextByte_ends character),
      List.singleton_append]

theorem decodeUtf8_utf8 (text : List Char) : decodeUtf8 (utf8 text) = text := by
  induction text with
  | nil => rfl
  | cons character rest inductionHypothesis =>
    rw [utf8, List.flatMap_cons, decodeUtf8, decodeFrom_character]
    exact congrArg (List.cons character) inductionHypothesis

theorem utf8_injective : Function.Injective utf8 := fun first second same => by
  rw [← decodeUtf8_utf8 first, same, decodeUtf8_utf8]

/-! ### Hexadecimal digits -/

def hexDigit (value : Nat) : Char :=
  Char.ofNat (if value < 10 then 0x30 + value else 0x57 + value)

/-- The value of a digit in either case. -/
def hexValue (digit : Char) : Option Nat :=
  let code := digit.toNat
  if 0x30 ≤ code ∧ code ≤ 0x39 then some (code - 0x30)
  else if 0x61 ≤ code ∧ code ≤ 0x66 then some (code - 0x57)
  else if 0x41 ≤ code ∧ code ≤ 0x46 then some (code - 0x37)
  else none

/-- Two digits for each byte. -/
def toHex (bytes : Bytes) : List Char :=
  bytes.flatMap fun byte => [hexDigit (byte.toNat / 16), hexDigit (byte.toNat % 16)]

/-- The bytes of the digits up to the first pair that is not one. -/
def fromHex : List Char → Bytes
  | high :: low :: rest =>
    match hexValue high, hexValue low with
    | some first, some second => UInt8.ofNat (16 * first + second) :: fromHex rest
    | _, _ => []
  | _ => []

theorem hexValue_hexDigit {value : Nat} (small : value < 16) :
    hexValue (hexDigit value) = some value := by
  interval_cases value <;> rfl

theorem fromHex_toHex (bytes : Bytes) : fromHex (toHex bytes) = bytes := by
  induction bytes with
  | nil => rfl
  | cons byte rest inductionHypothesis =>
    have bound : byte.toNat < 256 := byte.toNat_lt
    change fromHex (hexDigit (byte.toNat / 16) :: hexDigit (byte.toNat % 16) :: toHex rest) = _
    rw [fromHex, hexValue_hexDigit (by omega), hexValue_hexDigit (by omega)]
    simp only
    rw [Nat.div_add_mod, UInt8.ofNat_toNat, inductionHypothesis]

/-- Nothing but digits is written. -/
theorem hexValue_of_mem_toHex {bytes : Bytes} {digit : Char} (member : digit ∈ toHex bytes) :
    (hexValue digit).isSome = true := by
  obtain ⟨byte, _, written⟩ := List.mem_flatMap.mp member
  have bound : byte.toNat < 256 := byte.toNat_lt
  rcases List.mem_pair.mp written with rfl | rfl
  · rw [hexValue_hexDigit (by omega)]
    rfl
  · rw [hexValue_hexDigit (by omega)]
    rfl

/-! ### UTF-16 -/

/-- The code units of a text, with a pair of surrogates beyond the first plane. -/
def utf16 (text : List Char) : List UInt16 :=
  text.flatMap fun letter =>
    if letter.toNat < 0x10000 then [letter.toNat.toUInt16]
    else [(0xD800 + (letter.toNat - 0x10000) / 0x400).toUInt16,
      (0xDC00 + (letter.toNat - 0x10000) % 0x400).toUInt16]

/-! ### Base64 -/

/-- The six bits of a letter of the standard alphabet, or of the one for URLs. -/
def base64Value (letter : Nat) : Option Nat :=
  if 0x41 ≤ letter ∧ letter ≤ 0x5A then some (letter - 0x41)
  else if 0x61 ≤ letter ∧ letter ≤ 0x7A then some (letter - 0x47)
  else if 0x30 ≤ letter ∧ letter ≤ 0x39 then some (letter + 4)
  else if letter = 0x2B ∨ letter = 0x2D then some 62
  else if letter = 0x2F ∨ letter = 0x5F then some 63
  else none

/-- `=` -/
def padding : Nat := 0x3D

/-- Four times six bits are three bytes. What six bits leave over at the end is dropped. -/
def fromSextets : List Nat → Bytes
  | first :: second :: third :: fourth :: rest =>
    UInt8.ofNat (first * 4 + second / 16) :: UInt8.ofNat (second % 16 * 16 + third / 4) ::
      UInt8.ofNat (third % 4 * 64 + fourth) :: fromSextets rest
  | [first, second, third] =>
    [UInt8.ofNat (first * 4 + second / 16), UInt8.ofNat (second % 16 * 16 + third / 4)]
  | [first, second] => [UInt8.ofNat (first * 4 + second / 16)]
  | _ => []

/-- The bytes of a base64 text. Of a code unit the decoder reads the low byte. It ends at the first
padding, and skips all else that is outside of the alphabets. -/
def fromBase64 (text : List Char) : Bytes :=
  let letters := (utf16 text).map fun unit => unit.toNat % 256
  fromSextets ((letters.takeWhile (· ≠ padding)).filterMap base64Value)

end Encodings
