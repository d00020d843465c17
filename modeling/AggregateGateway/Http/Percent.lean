import AggregateGateway.Number.Digits
import AggregateGateway.Text.Utf8

/-!
Percent decoding. A percent sign with two hexadecimal digits behind it is one byte; any other stands for itself.
-/

namespace AggregateGateway.Http

/-- The byte that two hexadecimal digits write. -/
def hexByte? (high low : UInt8) : Option UInt8 := do
  let high ← baseDigit? 16 (Char.ofNat high.toNat)
  let low ← baseDigit? 16 (Char.ofNat low.toNat)
  return (high * 16 + low).toUInt8

/-- Bytes with their percent signs resolved. -/
def percentDecode : List UInt8 → List UInt8
  | b :: high :: low :: rest =>
    match if b = 0x25 then hexByte? high low else none with
    | some byte => byte :: percentDecode rest
    | none => b :: percentDecode (high :: low :: rest)
  | bytes => bytes

/-- Bytes without a percent sign stay as they are. -/
theorem percentDecode_eq_self {bytes : List UInt8} (h : 0x25 ∉ bytes) : percentDecode bytes = bytes := by
  fun_induction percentDecode bytes <;> simp_all

/-- A part of a path without its percent signs, if its bytes are UTF-8. -/
def decodeSegment? (segment : String) : Option String := Text.ofBytes? (percentDecode segment.toUTF8.toList)

end AggregateGateway.Http
