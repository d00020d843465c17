import AggregateGateway.Json.Numeral
import AggregateGateway.Json.Shape

/-!
Reading JSON text against a shape. The text is read once from left to right, and the first problem met decides: either
the text is not well formed there, or what stands there is not what the shape expects. Values nest at most 127 deep;
what no record lists is passed over, however deep it nests and however large its numbers are.
-/

namespace AggregateGateway.Json

/-- Why a text is refused. -/
inductive Problem
  /-- The text is not JSON from here on. -/
  | malformed
  /-- The text is JSON so far but does not have the expected shape. -/
  | mismatch
deriving DecidableEq, Repr

namespace Reader

/-- One more than the number of arrays and objects that may be open at a time. -/
def maxDepth : Nat := 128

/-- Passes over blanks, tabs and line breaks. -/
def skipBlank : List Char → List Char
  | [] => []
  | c :: cs => if c = ' ' ∨ c = '\n' ∨ c = '\t' ∨ c = '\r' then skipBlank cs else c :: cs

/-- The value of a hexadecimal digit. -/
def hexValue? (c : Char) : Option Nat :=
  if isDigit c then some (digitValue c)
  else if 'a' ≤ c ∧ c ≤ 'f' then some (c.toNat - 'a'.toNat + 10)
  else if 'A' ≤ c ∧ c ≤ 'F' then some (c.toNat - 'A'.toNat + 10)
  else none

/-- The value of four hexadecimal digits. -/
def hexUnit? (a b c d : Char) : Option Nat := do
  let a ← hexValue? a
  let b ← hexValue? b
  let c ← hexValue? c
  let d ← hexValue? d
  some (((a * 16 + b) * 16 + c) * 16 + d)

/-- The character that a one-letter escape stands for. -/
def shortEscape? (c : Char) : Option Char :=
  if c = '"' ∨ c = '\\' ∨ c = '/' then some c
  else if c = 'b' then some '\x08'
  else if c = 'f' then some '\x0c'
  else if c = 'n' then some '\n'
  else if c = 'r' then some '\r'
  else if c = 't' then some '\t'
  else none

/-- The character of a pair of surrogates. -/
def surrogatePair (high low : Nat) : Char := Char.ofNat (0x10000 + (high - 0xD800) * 0x400 + (low - 0xDC00))

/-- Reads a text up to its closing quotation mark. Control characters and surrogates without partner are refused. -/
def readText (acc : String) : List Char → Option (String × List Char)
  | [] => none
  | '"' :: cs => some (acc, cs)
  | '\\' :: 'u' :: a :: b :: c :: d :: cs =>
    match hexUnit? a b c d with
    | none => none
    | some unit =>
      if unit < 0xD800 ∨ 0xE000 ≤ unit then readText (acc.push (Char.ofNat unit)) cs
      else if 0xDC00 ≤ unit then none
      else match cs with
        | '\\' :: 'u' :: e :: f :: g :: h :: cs =>
          match hexUnit? e f g h with
          | none => none
          | some low =>
            if 0xDC00 ≤ low ∧ low < 0xE000 then readText (acc.push (surrogatePair unit low)) cs else none
        | _ => none
  | '\\' :: c :: cs =>
    match shortEscape? c with
    | some e => readText (acc.push e) cs
    | none => none
  | c :: cs => if c.toNat < 32 ∨ c = '\\' then none else readText (acc.push c) cs

/-- Passes over a text up to its closing quotation mark; surrogates need no partner here. -/
def skipText : List Char → Option (List Char)
  | [] => none
  | '"' :: cs => some cs
  | '\\' :: 'u' :: a :: b :: c :: d :: cs => if (hexUnit? a b c d).isSome then skipText cs else none
  | '\\' :: c :: cs => if (shortEscape? c).isSome then skipText cs else none
  | c :: cs => if c.toNat < 32 ∨ c = '\\' then none else skipText cs

/-- Passes over a numeral, whatever its size. -/
def skipNumeral (cs : List Char) : Option (List Char) := do
  let cs := if cs.head? = some '-' then cs.drop 1 else cs
  let cs ← match cs with
    | '0' :: cs => if (cs.head?.map isDigit).getD false then none else some cs
    | c :: cs => if isDigit c then some (cs.dropWhile isDigit) else none
    | [] => none
  let cs ← match cs with
    | '.' :: cs => if (cs.head?.map isDigit).getD false then some (cs.dropWhile isDigit) else none
    | cs => some cs
  match cs with
  | c :: rest =>
    if c = 'e' ∨ c = 'E' then
      let rest := if rest.head? = some '+' ∨ rest.head? = some '-' then rest.drop 1 else rest
      if (rest.head?.map isDigit).getD false then some (rest.dropWhile isDigit) else none
    else some cs
  | [] => some []

/-- The text after `word`, if it starts with it. -/
def afterWord? (word : String) (cs : List Char) : Option (List Char) := word.toList.isPrefixOf? cs

/-- Reads `null`, a truth value, a number or a text. -/
def readScalar : List Char → Option (Value × List Char)
  | '"' :: cs => (readText "" cs).map fun (text, cs) => (.string text, cs)
  | 'n' :: cs => (afterWord? "ull" cs).map fun cs => (.null, cs)
  | 't' :: cs => (afterWord? "rue" cs).map fun cs => (.bool true, cs)
  | 'f' :: cs => (afterWord? "alse" cs).map fun cs => (.bool false, cs)
  | cs => (readNumeral cs).map fun (n, cs) => (.number n, cs)

/-- What is still open while a value is passed over. -/
inductive Awaited
  | value
  | firstItem
  | firstMember
  | nextMember
  | afterValue

/-- Passes over a value. `openArrays` holds an entry for each open array (`true`) or object (`false`), innermost
first, and `fuel` bounds the steps. -/
def skipValue : Nat → Awaited → List Bool → List Char → Option (List Char)
  | 0, _, _, _ => none
  | fuel + 1, awaited, openArrays, cs =>
    match awaited, skipBlank cs with
    | .afterValue, cs' =>
      match openArrays, cs' with
      | [], _ => some cs
      | true :: outer, ']' :: cs => skipValue fuel .afterValue outer cs
      | true :: _, ',' :: cs => skipValue fuel .value openArrays cs
      | false :: outer, '\x7d' :: cs => skipValue fuel .afterValue outer cs
      | false :: _, ',' :: cs => skipValue fuel .nextMember openArrays cs
      | _, _ => none
    | .firstItem, ']' :: cs => skipValue fuel .afterValue (openArrays.drop 1) cs
    | .firstItem, cs => skipValue fuel .value openArrays cs
    | .firstMember, '\x7d' :: cs => skipValue fuel .afterValue (openArrays.drop 1) cs
    | .firstMember, cs => skipValue fuel .nextMember openArrays cs
    | .nextMember, '"' :: cs =>
      match (skipText cs).map skipBlank with
      | some (':' :: cs) => skipValue fuel .value openArrays cs
      | _ => none
    | .nextMember, _ => none
    | .value, '[' :: cs => skipValue fuel .firstItem (true :: openArrays) cs
    | .value, '\x7b' :: cs => skipValue fuel .firstMember (false :: openArrays) cs
    | .value, '"' :: cs => (skipText cs).bind (skipValue fuel .afterValue openArrays)
    | .value, 'n' :: cs => (afterWord? "ull" cs).bind (skipValue fuel .afterValue openArrays)
    | .value, 't' :: cs => (afterWord? "rue" cs).bind (skipValue fuel .afterValue openArrays)
    | .value, 'f' :: cs => (afterWord? "alse" cs).bind (skipValue fuel .afterValue openArrays)
    | .value, cs => (skipNumeral cs).bind (skipValue fuel .afterValue openArrays)

/-- The problem with a value that stands where another kind was expected: a scalar must still be well formed. -/
def misplaced : List Char → Problem
  | '[' :: _ => .mismatch
  | '\x7b' :: _ => .mismatch
  | cs => if (readScalar cs).isSome then .mismatch else .malformed

/-- What to do with a member of an object: read it, pass over it, or refuse it, given the members read before. -/
abbrev MemberRule := List (String × Value) → String → Except Problem (Option Shape)

/-- Every member is read with one shape. -/
def everyMember (shape : Shape) : MemberRule := fun _ _ => .ok (some shape)

/-- Only listed members are read, and each at most once. -/
def listedMember (members : List (String × Bool × Shape)) : MemberRule := fun seen name =>
  match members.lookup name with
  | none => .ok none
  | some (_, shape) => if (seen.lookup name).isSome then .error .mismatch else .ok (some shape)

/-- Whether every required member was read. -/
def isComplete (members : List (String × Bool × Shape)) (seen : List (String × Value)) : Bool :=
  members.all fun (name, required, _) => !required || (seen.lookup name).isSome

mutual
/-- Reads a value of the given shape. `depth` is one more than the nesting still allowed, and `fuel` bounds the steps. -/
def readValue (fuel : Nat) (depth : Nat) (shape : Shape) (cs : List Char) : Except Problem (Value × List Char) :=
  match fuel with
  | 0 => .error .malformed
  | fuel + 1 =>
    let cs := skipBlank cs
    match shape, cs with
    | .any, '[' :: cs => if depth ≤ 1 then .error .malformed else readItems fuel (depth - 1) true [] cs
    | .any, '\x7b' :: cs =>
      if depth ≤ 1 then .error .malformed else
        match readMembers fuel (depth - 1) (everyMember .any) true [] cs with
        | .ok (members, cs) => .ok (.ofMembers members, cs)
        | .error problem => .error problem
    | .any, cs => match readScalar cs with
      | some (value, cs) => .ok (value, cs)
      | none => .error .malformed
    | .text, '"' :: cs => match readText "" cs with
      | some (text, cs) => .ok (.string text, cs)
      | none => .error .malformed
    | .text, cs => .error (misplaced cs)
    | .flag, cs => match cs.head?, readScalar cs with
      | some 't', some result => .ok result
      | some 'f', some result => .ok result
      | some 't', none => .error .malformed
      | some 'f', none => .error .malformed
      | _, _ => .error (misplaced cs)
    | .nullable shape, cs => match cs with
      | 'n' :: _ => match readScalar cs with
        | some result => .ok result
        | none => .error .malformed
      | cs => readValue fuel depth shape cs
    | .mapping shape, '\x7b' :: cs =>
      if depth ≤ 1 then .error .malformed else
        match readMembers fuel (depth - 1) (everyMember shape) true [] cs with
        | .ok (members, cs) => .ok (.ofMembers members, cs)
        | .error problem => .error problem
    | .mapping _, cs => .error (misplaced cs)
    | .fields shape, '\x7b' :: cs =>
      if depth ≤ 1 then .error .malformed else
        match readMembers fuel (depth - 1) (everyMember shape) true [] cs with
        | .ok (members, cs) => .ok (.ofMembers members, cs)
        | .error problem => .error problem
    | .fields _, cs => match cs with
      | 'n' :: _ => match readScalar cs with
        | some result => .ok result
        | none => .error .malformed
      | '[' :: _ => .error (if depth ≤ 1 then .malformed else .mismatch)
      | cs => .error (misplaced cs)
    | .record members, '\x7b' :: cs =>
      if depth ≤ 1 then .error .malformed else
        match readMembers fuel (depth - 1) (listedMember members) true [] cs with
        | .ok (seen, cs) => if isComplete members seen then .ok (.object seen, cs) else .error .mismatch
        | .error problem => .error problem
    | .record members, '[' :: cs =>
      if depth ≤ 1 then .error .malformed else readPositions fuel (depth - 1) members true [] cs
    | .record _, cs => .error (misplaced cs)

/-- Reads the items of an array up to its closing bracket. -/
def readItems (fuel : Nat) (depth : Nat) (first : Bool) (acc : List Value) (cs : List Char) :
    Except Problem (Value × List Char) :=
  match fuel with
  | 0 => .error .malformed
  | fuel + 1 =>
    match first, skipBlank cs with
    | true, ']' :: cs => .ok (.array acc.reverse, cs)
    | true, cs => match readValue fuel depth .any cs with
      | .ok (value, cs) => readItems fuel depth false (value :: acc) cs
      | .error problem => .error problem
    | false, ']' :: cs => .ok (.array acc.reverse, cs)
    | false, ',' :: cs => match readValue fuel depth .any cs with
      | .ok (value, cs) => readItems fuel depth false (value :: acc) cs
      | .error problem => .error problem
    | false, _ => .error .malformed

/-- Reads the members of an object up to its closing brace, in reverse order of `acc`. -/
def readMembers (fuel : Nat) (depth : Nat) (rule : MemberRule) (first : Bool) (acc : List (String × Value))
    (cs : List Char) : Except Problem (List (String × Value) × List Char) :=
  match fuel with
  | 0 => .error .malformed
  | fuel + 1 =>
    let start := match first, skipBlank cs with
      | true, cs => some cs
      | false, ',' :: cs => some (skipBlank cs)
      | false, '\x7d' :: cs => some ('\x7d' :: cs)
      | false, _ => none
    match start with
    | some ('\x7d' :: rest) =>
      -- A brace may follow an opening brace or a member, but no comma.
      if first ∨ (skipBlank cs).head? = some '\x7d' then .ok (acc.reverse, rest) else .error .malformed
    | some ('"' :: cs) =>
      match readText "" cs with
      | none => .error .malformed
      | some (name, cs) =>
        match rule acc name with
        | .error problem => .error problem
        | .ok expected =>
          match skipBlank cs with
          | ':' :: cs =>
            match expected with
            | none => match skipValue (2 * cs.length + 2) .value [] cs with
              | some cs => readMembers fuel depth rule false acc cs
              | none => .error .malformed
            | some shape => match readValue fuel depth shape cs with
              | .ok (value, cs) => readMembers fuel depth rule false ((name, value) :: acc) cs
              | .error problem => .error problem
          | _ => .error .malformed
    | _ => .error .malformed

/-- Reads the members of a record from an array. A required member that is missing is a matter of shape, items left
over are a matter of form. -/
def readPositions (fuel : Nat) (depth : Nat) (members : List (String × Bool × Shape)) (first : Bool)
    (acc : List (String × Value)) (cs : List Char) : Except Problem (Value × List Char) :=
  match fuel with
  | 0 => .error .malformed
  | fuel + 1 =>
    match members with
    | [] => match skipBlank cs with
      | ']' :: cs => .ok (.object acc.reverse, cs)
      | _ => .error .malformed
    | (name, required, shape) :: members =>
      match skipBlank cs with
      | ']' :: rest =>
        if required then .error .mismatch else readPositions fuel depth members first acc (']' :: rest)
      | rest =>
        let start := match first, rest with
          | true, cs => some cs
          | false, ',' :: cs => if (skipBlank cs).head? = some ']' then none else some cs
          | false, _ => none
        match start with
        | none => .error .malformed
        | some cs => match readValue fuel depth shape cs with
          | .ok (value, cs) => readPositions fuel depth members false ((name, value) :: acc) cs
          | .error problem => .error problem
end

end Reader

/-- Reads a whole text against a shape. -/
def Shape.read (shape : Shape) (text : String) : Except Problem Value :=
  let cs := text.toList
  -- Every step but one per value and closing bracket consumes a character.
  match Reader.readValue (2 * cs.length + 64) Reader.maxDepth shape cs with
  | .ok (value, rest) => if (Reader.skipBlank rest).isEmpty then .ok value else .error .malformed
  | .error problem => .error problem

/-- Reads a whole text as one value. -/
def Value.parse? (text : String) : Option Value := (Shape.any.read text).toOption

end AggregateGateway.Json
