/-
# Bytes that are no text

Bytes that are UTF-8 are read as the text that they stand for. In others a byte
that starts no character, and the start of a character that breaks off, are each
read as one replacement character.

Key definitions: `Text.Started`, `Text.readByte`, `Text.repaired`, `Text.ofBytes`.
-/

namespace ThriftPages.Text

/-- A character that has been started: the bits so far, the range that its next byte must
be in, and how many bytes come after that one. -/
structure Started where
  bits : Nat
  low : UInt8
  high : UInt8
  more : Nat

/-- The character that stands for what cannot be read. -/
def replacement : Char := '\ufffd'

/-- The character of several bytes that a byte starts. -/
def Started.ofByte? (byte : UInt8) : Option Started :=
  if 0xC2 ≤ byte ∧ byte ≤ 0xDF then some ⟨byte.toNat - 0xC0, 0x80, 0xBF, 0⟩
  else if byte = 0xE0 then some ⟨0x0, 0xA0, 0xBF, 1⟩
  else if byte = 0xED then some ⟨0xD, 0x80, 0x9F, 1⟩
  else if 0xE1 ≤ byte ∧ byte ≤ 0xEF then some ⟨byte.toNat - 0xE0, 0x80, 0xBF, 1⟩
  else if byte = 0xF0 then some ⟨0x0, 0x90, 0xBF, 2⟩
  else if 0xF1 ≤ byte ∧ byte ≤ 0xF3 then some ⟨byte.toNat - 0xF0, 0x80, 0xBF, 2⟩
  else if byte = 0xF4 then some ⟨0x4, 0x80, 0x8F, 2⟩
  else none

/-- Reads a byte where no character has been started. -/
def readFirst (byte : UInt8) : List Char × Option Started :=
  if byte < 0x80 then ([Char.ofNat byte.toNat], none)
  else
    match Started.ofByte? byte with
    | some started => ([], some started)
    | none => ([replacement], none)

/-- Reads a byte: the characters that are finished by it, and the one that is started. -/
def readByte : Option Started → UInt8 → List Char × Option Started
  | none, byte => readFirst byte
  | some ⟨bits, low, high, more⟩, byte =>
    if low ≤ byte ∧ byte ≤ high then
      let bits := 0x40 * bits + (byte.toNat - 0x80)
      match more with
      | 0 => ([Char.ofNat bits], none)
      | more + 1 => ([], some ⟨bits, 0x80, 0xBF, more⟩)
    else (replacement :: (readFirst byte).1, (readFirst byte).2)

/-- The characters of bytes, with replacements for what is none. -/
def repaired : Option Started → List UInt8 → List Char
  | none, [] => []
  | some _, [] => [replacement]
  | started, byte :: bytes =>
    let (chars, started) := readByte started byte
    chars ++ repaired started bytes

/-- The text that bytes are read as. -/
def ofBytes (bytes : ByteArray) : String :=
  (String.fromUTF8? bytes).getD (String.ofList (repaired none bytes.data.toList))

end ThriftPages.Text
