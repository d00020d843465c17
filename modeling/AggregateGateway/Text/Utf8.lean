/-!
Reading bytes as UTF-8 whatever they are. Each longest run of bytes that begins a character without finishing it, and
each byte that begins none, is read as the replacement character.
-/

namespace AggregateGateway.Text

/-- A character that is not finished: how many bytes are owed, the range of the next one, and the bits so far. -/
structure OpenChar where
  owed : Nat
  low : Nat
  high : Nat
  bits : Nat
deriving DecidableEq, Repr

/-- The character in place of bytes that are none. -/
def replacement : Char := '\uFFFD'

/-- What the first byte of a character gives: the character, or what it leaves open. -/
def beginChar (b : Nat) : List Char × Option OpenChar :=
  if b < 0x80 then ([Char.ofNat b], none)
  else if 0xC2 ≤ b && b ≤ 0xDF then ([], some ⟨1, 0x80, 0xBF, b - 0xC0⟩)
  else if 0xE0 ≤ b && b ≤ 0xEF then
    ([], some ⟨2, if b = 0xE0 then 0xA0 else 0x80, if b = 0xED then 0x9F else 0xBF, b - 0xE0⟩)
  else if 0xF0 ≤ b && b ≤ 0xF4 then
    ([], some ⟨3, if b = 0xF0 then 0x90 else 0x80, if b = 0xF4 then 0x8F else 0xBF, b - 0xF0⟩)
  else ([replacement], none)

/-- What a byte gives after the bytes before it. -/
def stepUtf8 (state : Option OpenChar) (b : Nat) : List Char × Option OpenChar :=
  match state with
  | none => beginChar b
  | some char =>
    if char.low ≤ b && b ≤ char.high then
      let bits := char.bits * 64 + (b - 0x80)
      if char.owed = 1 then ([Char.ofNat bits], none) else ([], some ⟨char.owed - 1, 0x80, 0xBF, bits⟩)
    else
      let (chars, next) := beginChar b
      (replacement :: chars, next)

/-- Reads bytes on from a state. -/
def readUtf8 (state : Option OpenChar) : List UInt8 → List Char
  | [] => if state.isSome then [replacement] else []
  | b :: rest =>
    let (chars, next) := stepUtf8 state b.toNat
    chars ++ readUtf8 next rest

/-- The text of bytes, with replacement characters where they are no UTF-8. -/
def ofBytesLossy (bytes : List UInt8) : String := String.ofList (readUtf8 none bytes)

/-- The text of bytes that are UTF-8. -/
def ofBytes? (bytes : List UInt8) : Option String := String.fromUTF8? ⟨bytes.toArray⟩

/-- A text is read from its bytes. -/
theorem fromUTF8?_toUTF8 (text : String) : String.fromUTF8? text.toUTF8 = some text := dif_pos text.isValidUTF8

end AggregateGateway.Text
