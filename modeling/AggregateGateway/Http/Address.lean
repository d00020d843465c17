import AggregateGateway.Number.Digits
import AggregateGateway.Text.Split

/-!
Addresses of clients. An address of eight groups is written with its longest run of at least two zero groups left out,
the first of equally long ones, and its groups in lower case without leading zeros; an address that stands for one of
four bytes ends with that one.
-/

namespace AggregateGateway.Http

/-- The address of a client. -/
inductive IpAddress
  | v4 (a b c d : UInt8)
  | v6 (groups : Vector UInt16 8)
deriving DecidableEq, Repr

namespace IpAddress

/-- Four bytes with dots between them. -/
def dotted (bytes : List Nat) : String := ".".intercalate (bytes.map toString)

/-- Groups in hexadecimal with colons between them. -/
def grouped (groups : List Nat) : String := ":".intercalate (groups.map fun n => String.ofList (Nat.toDigits 16 n))

/-- How many zeros a list begins with. -/
def leadingZeros (groups : List Nat) : Nat := (groups.takeWhile (· = 0)).length

/-- Where the longest run of zeros begins and how long it is, the first of equally long ones; `start` is where the
list begins. -/
def longestZeros (start : Nat) : List Nat → Nat × Nat
  | [] => (start, 0)
  | group :: rest =>
    let here := leadingZeros (group :: rest)
    let later := longestZeros (start + 1) rest
    if later.2 ≤ here then (start, here) else later

def toText : IpAddress → String
  | v4 a b c d => dotted [a.toNat, b.toNat, c.toNat, d.toNat]
  | v6 groups =>
    match groups.toList.map UInt16.toNat with
    | [0, 0, 0, 0, 0, 0xFFFF, high, low] => "::ffff:" ++ dotted [high / 256, high % 256, low / 256, low % 256]
    | groups =>
      let (start, length) := longestZeros 0 groups
      if length < 2 then grouped groups
      else grouped (groups.take start) ++ "::" ++ grouped (groups.drop (start + length))

/-- A byte in decimal digits without leading zeros. -/
def byte? (digits : List Char) : Option UInt8 :=
  if digits.length > 1 && digits.head? = some '0' then none
  else if digits.length > 3 then none
  else (digitsValue? 10 256 digits).map Nat.toUInt8

/-- The four bytes of a dotted address. -/
def bytes? (chars : List Char) : Option (UInt8 × UInt8 × UInt8 × UInt8) := do
  match ← (Text.pieces '.' chars).mapM byte? with
  | [a, b, c, d] => return (a, b, c, d)
  | _ => failure

/-- The groups that a piece between colons writes; only the last piece may be four bytes with dots. -/
def piece? (isLast : Bool) (chars : List Char) : Option (List UInt16) :=
  match bytes? chars with
  | some (a, b, c, d) =>
    if isLast then some [(a.toNat * 256 + b.toNat).toUInt16, (c.toNat * 256 + d.toNat).toUInt16] else none
  | none =>
    if chars.length > 4 then none else (digitsValue? 16 65536 chars).map fun n => [n.toUInt16]

/-- The groups of a part without a double colon. -/
def groups? (mayEndDotted : Bool) (chars : List Char) : Option (List UInt16) :=
  if chars.isEmpty then some []
  else
    let pieces := Text.pieces ':' chars
    let last := pieces.length - 1
    (pieces.zipIdx.mapM fun (piece, i) => piece? (mayEndDotted && i = last) piece).map List.flatten

/-- The parts around the first double colon. -/
def splitDoubleColon? : List Char → Option (List Char × List Char)
  | ':' :: ':' :: rest => some ([], rest)
  | [] => none
  | c :: rest => (splitDoubleColon? rest).map fun (before, behind) => (c :: before, behind)

/-- An address of eight groups. -/
def v6? (chars : List Char) : Option IpAddress := do
  let groups ← match splitDoubleColon? chars with
    | none => groups? true chars
    | some (before, behind) =>
      let before ← groups? false before
      let behind ← groups? true behind
      if before.length + behind.length < 8 then
        pure (before ++ List.replicate (8 - before.length - behind.length) 0 ++ behind)
      else failure
  if h : groups.toArray.size = 8 then return .v6 ⟨groups.toArray, h⟩ else failure

/-- The address in a text that also holds a port, such as `10.0.0.7:80` or `[::1]:80`. -/
def ofPeer? (text : String) : Option IpAddress := do
  match text.toList with
  | '[' :: rest =>
    let (address, port) ← Text.splitFirst? ']' rest
    let zoneless := address.takeWhile (· ≠ '%')
    match port with
    | ':' :: digits => (digitsValue? 10 65536 digits).bind fun _ => v6? zoneless
    | _ => failure
  | chars =>
    let (address, digits) ← Text.splitFirst? ':' chars
    let _ ← digitsValue? 10 65536 digits
    let (a, b, c, d) ← bytes? address
    return .v4 a b c d

end IpAddress

end AggregateGateway.Http
