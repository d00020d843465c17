import AggregateGateway.Json.Writer
import Mathlib.Data.String.Basic

/-!
The compact text of a value by its characters. The writer appends to what is written before, so that the characters of
a value do not depend on where it stands.
-/

namespace AggregateGateway.Json

/-! ### Texts -/

/-- A character as the writer puts it between quotation marks. -/
def written (c : Char) : List Char :=
  if c.toNat < 32 ∨ c = '"' ∨ c = '\\' then escapeChar c else [c]

def quoted (text : String) : List Char := '"' :: text.toList.flatMap written ++ ['"']

theorem toList_foldl_push (out : String) (chars : List Char) :
    (chars.foldl String.push out).toList = out.toList ++ chars := by
  induction chars generalizing out with
  | nil => simp
  | cons c chars ih => simp [ih]

theorem toList_writeChars (out text : String) :
    (writeChars out text).toList = out.toList ++ text.toList.flatMap written := by
  rw [writeChars, String.foldl_eq_foldl_toList]
  generalize text.toList = chars
  induction chars generalizing out with
  | nil => simp
  | cons c chars ih =>
    rw [List.foldl_cons, ih, List.flatMap_cons, ← List.append_assoc]
    congr 1
    rw [written]
    split
    · exact toList_foldl_push out (escapeChar c)
    · simp

theorem toList_writeString (out text : String) : (writeString out text).toList = out.toList ++ quoted text := by
  simp [writeString, toList_writeChars, quoted]

/-! ### Values -/

namespace Value

def chars (value : Value) : List Char := value.compact.toList

/-- Items behind the first, each with its comma. -/
def moreItems (items : List Value) : List Char := items.flatMap fun item => ',' :: item.chars

def memberChars (member : String × Value) : List Char := quoted member.1 ++ ':' :: member.2.chars

theorem length_chars_le (member : String × Value) : member.2.chars.length ≤ (memberChars member).length := by
  simp only [memberChars, List.length_append, List.length_cons]
  omega

/-- Members behind the first, each with its comma. -/
def moreMembers (members : List (String × Value)) : List Char := members.flatMap fun member => ',' :: memberChars member

mutual
theorem toList_writeTo (out : String) (value : Value) : (writeTo out value).toList = out.toList ++ value.chars := by
  match value with
  | .null | .bool true | .bool false | .number _ => simp [chars, compact, writeTo]
  | .string text => simp [chars, compact, writeTo, toList_writeString]
  | .array [] => simp [chars, compact, writeTo, writeItems]
  | .array (item :: items) =>
    have h : ∀ out, (writeTo out (.array (item :: items))).toList =
        out.toList ++ '[' :: item.chars ++ moreItems items ++ [']'] := by
      intro out
      simp [writeTo, writeItems, toList_writeItems _ items, toList_writeTo _ item]
    simp [chars, compact, h]
  | .object [] => simp [chars, compact, writeTo, writeMembers]
  | .object ((name, value) :: members) =>
    have h : ∀ out, (writeTo out (.object ((name, value) :: members))).toList =
        out.toList ++ '\x7b' :: memberChars (name, value) ++ moreMembers members ++ ['\x7d'] := by
      intro out
      simp [writeTo, writeMembers, toList_writeMembers _ members, toList_writeTo _ value, toList_writeString,
        memberChars]
    simp [chars, compact, h]

theorem toList_writeItems (out : String) (items : List Value) :
    (writeItems out false items).toList = out.toList ++ moreItems items := by
  match items with
  | [] => simp [writeItems, moreItems]
  | item :: items => simp [writeItems, toList_writeItems _ items, toList_writeTo _ item, moreItems]

theorem toList_writeMembers (out : String) (members : List (String × Value)) :
    (writeMembers out false members).toList = out.toList ++ moreMembers members := by
  match members with
  | [] => simp [writeMembers, moreMembers]
  | (name, value) :: members =>
    simp [writeMembers, toList_writeMembers _ members, toList_writeTo _ value, toList_writeString, moreMembers,
      memberChars]
end

@[simp] theorem chars_null : chars .null = ['n', 'u', 'l', 'l'] := by
  simp [chars, compact, writeTo]

@[simp] theorem chars_true : chars (.bool true) = ['t', 'r', 'u', 'e'] := by
  simp [chars, compact, writeTo]

@[simp] theorem chars_false : chars (.bool false) = ['f', 'a', 'l', 's', 'e'] := by
  simp [chars, compact, writeTo]

@[simp] theorem chars_number (value : Number) : chars (.number value) = value.toText.toList := by
  simp [chars, compact, writeTo]

@[simp] theorem chars_string (text : String) : chars (.string text) = quoted text := by
  simp [chars, compact, writeTo, toList_writeString]

@[simp] theorem chars_array_nil : chars (.array []) = ['[', ']'] := by
  simp [chars, compact, writeTo, writeItems]

@[simp] theorem chars_array_cons (item : Value) (items : List Value) :
    chars (.array (item :: items)) = '[' :: (item.chars ++ moreItems items ++ [']']) := by
  rw [chars, compact]
  simp [writeTo, writeItems, toList_writeItems, toList_writeTo]

@[simp] theorem chars_object_nil : chars (.object []) = ['\x7b', '\x7d'] := by
  simp [chars, compact, writeTo, writeMembers]

@[simp] theorem chars_object_cons (member : String × Value) (members : List (String × Value)) :
    chars (.object (member :: members)) = '\x7b' :: (memberChars member ++ moreMembers members ++ ['\x7d']) := by
  rw [chars, compact, memberChars]
  simp [writeTo, writeMembers, toList_writeMembers, toList_writeTo, toList_writeString]

end Value

end AggregateGateway.Json
