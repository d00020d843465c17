/-!
UUIDs as thirty-two hexadecimal digits. One form is written, in lower case with hyphens; it is also read in upper case,
without hyphens, in braces and as a URN.
-/

namespace AggregateGateway

/-- A UUID: its digits, most significant first. -/
structure Uuid where
  digits : List (Fin 16)
  length_digits : digits.length = 32
deriving DecidableEq, Repr

namespace Uuid

/-- The digit of a hexadecimal character of either case. -/
def digit? (c : Char) : Option (Fin 16) :=
  if c.isDigit then some (Fin.ofNat 16 (c.toNat - '0'.toNat))
  else if 'a' ≤ c ∧ c ≤ 'f' then some (Fin.ofNat 16 (c.toNat - 'a'.toNat + 10))
  else if 'A' ≤ c ∧ c ≤ 'F' then some (Fin.ofNat 16 (c.toNat - 'A'.toNat + 10))
  else none

/-- The UUID of exactly thirty-two digits. -/
def ofDigits? (digits : List (Fin 16)) : Option Uuid :=
  if h : digits.length = 32 then some ⟨digits, h⟩ else none

/-- The UUID with all digits zero. -/
def zero : Uuid := ⟨List.replicate 32 0, List.length_replicate⟩

instance : Inhabited Uuid := ⟨zero⟩

/-- The lower-case characters of digits. -/
def digitChars (digits : List (Fin 16)) : List Char := digits.map fun d => Nat.digitChar d.val

/-- The characters of the written form: groups of 8, 4, 4, 4 and 12 digits with hyphens between them. -/
def toChars (id : Uuid) : List Char :=
  let chars := digitChars id.digits
  chars.take 8 ++ '-' :: ((chars.drop 8).take 4 ++ '-' :: ((chars.drop 12).take 4 ++ '-' ::
    ((chars.drop 16).take 4 ++ '-' :: chars.drop 20)))

/-- The written form. -/
def toText (id : Uuid) : String := String.ofList id.toChars

instance : ToString Uuid := ⟨toText⟩

/-- Reads thirty-two digits without hyphens. -/
def ofSimple? (chars : List Char) : Option Uuid := (chars.mapM digit?).bind ofDigits?

/-- Reads digits with hyphens after 8, 12, 16 and 20 of them. -/
def ofHyphenated? (chars : List Char) : Option Uuid :=
  let hyphenAt (i : Nat) := chars[i]? = some '-'
  if chars.length = 36 ∧ hyphenAt 8 ∧ hyphenAt 13 ∧ hyphenAt 18 ∧ hyphenAt 23 then
    ofSimple? (chars.take 8 ++ (chars.drop 9).take 4 ++ (chars.drop 14).take 4 ++ (chars.drop 19).take 4 ++ chars.drop 24)
  else none

/-- The URN scheme, in the two spellings that are read. -/
def urnSchemes : List (List Char) := ["urn:uuid:".toList, "URN:UUID:".toList]

/-- Reads any of the forms. -/
def ofText? (text : String) : Option Uuid :=
  let chars := text.toList
  if chars.length = 32 then ofSimple? chars
  else if chars.length = 38 ∧ chars.head? = some '\x7b' ∧ chars.getLast? = some '\x7d' then
    ofHyphenated? (chars.drop 1).dropLast
  else if chars.length = 45 ∧ chars.take 9 ∈ urnSchemes then ofHyphenated? (chars.drop 9)
  else ofHyphenated? chars

end Uuid

end AggregateGateway
