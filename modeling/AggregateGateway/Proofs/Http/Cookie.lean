import AggregateGateway.Http.Cookie
import AggregateGateway.Proofs.Json.Distinct
import AggregateGateway.Proofs.Map.OrderedMap
import AggregateGateway.Proofs.Text.SplitOn

/-!
Cookies are read as they are written. Pairs may be written in one header or in several, with blanks around every
semicolon and equals sign, and between pieces that are no cookies: what is read are the pairs, each name at its first
position with its last value. A header that cannot be read as text tells nothing.
-/

namespace AggregateGateway

/-! ### Blanks -/

namespace Text

/-- Text that neither begins nor ends with white space. -/
structure IsTrimmed (chars : List Char) : Prop where
  first : ∀ c ∈ chars.head?, isWhiteSpace c = false
  last : ∀ c ∈ chars.getLast?, isWhiteSpace c = false

theorem isTrimmed_iff {chars : List Char} :
    (chars.head?.all (!isWhiteSpace ·) && chars.getLast?.all (!isWhiteSpace ·)) = true ↔ IsTrimmed chars := by
  simp only [Bool.and_eq_true, Option.all_eq_true, Bool.not_eq_true']
  exact ⟨fun h => ⟨h.1, h.2⟩, fun h => ⟨h.first, h.last⟩⟩

-- Not by the instance for all members of an option, in place of which one for all characters may be found.
instance (chars : List Char) : Decidable (IsTrimmed chars) := decidable_of_iff _ isTrimmed_iff

/-- Text of nothing but white space. -/
def IsSpace (chars : List Char) : Prop := ∀ c ∈ chars, isWhiteSpace c = true

theorem trimChars_of_space {chars : List Char} (h : IsSpace chars) : trimChars chars = [] := by
  rw [trimChars, ← List.append_nil chars, List.dropWhile_append_of_pos h]
  rfl

/-- White space around a text is dropped, and nothing of the text. -/
theorem trimChars_padded {before chars behind : List Char} (hbefore : IsSpace before) (hbehind : IsSpace behind)
    (h : IsTrimmed chars) : trimChars (before ++ chars ++ behind) = chars := by
  cases chars with
  | nil =>
    refine trimChars_of_space fun c hc => ?_
    rw [List.append_nil, List.mem_append] at hc
    exact hc.elim (hbefore c) (hbehind c)
  | cons c rest =>
    have hstart : (before ++ (c :: rest) ++ behind).dropWhile isWhiteSpace = c :: rest ++ behind := by
      rw [List.append_assoc, List.dropWhile_append_of_pos hbefore, List.cons_append, List.dropWhile_cons_of_neg]
      rw [h.first c rfl]
      exact Bool.false_ne_true
    have hend : (behind.reverse ++ (c :: rest).reverse).dropWhile isWhiteSpace =
        (c :: rest).reverse.dropWhile isWhiteSpace :=
      List.dropWhile_append_of_pos fun d hd => hbehind d (List.mem_reverse.mp hd)
    have hkept := trimChars_eq_self h.first h.last
    rw [trimChars, List.dropWhile_cons_of_neg (by rw [h.first c rfl]; exact Bool.false_ne_true), trimEnd] at hkept
    rw [trimChars, hstart, trimEnd, List.reverse_append, hend, hkept]

end Text

namespace Http

open Json

/-! ### Written cookies -/

/-- Spaces and tabs. -/
structure Blanks where
  chars : List Char
  blank : chars.all (fun c => c = ' ' || c = '\t') = true := by decide

/-- A cookie that can be written: name and value are readable and trimmed, hold no semicolon, and the name is not empty
and holds no equals sign. -/
structure Cookie where
  name : String
  value : String
  readable : (name.toList ++ value.toList).all isReadable = true := by decide
  noSemicolon : ';' ∉ name.toList ++ value.toList := by decide
  name_trimmed : Text.IsTrimmed name.toList := by decide
  value_trimmed : Text.IsTrimmed value.toList := by decide
  name_ne_empty : name ≠ "" := by decide
  name_noEquals : '=' ∉ name.toList := by decide

/-- What is written between semicolons and is no cookie: it has no equals sign, or nothing but blanks before it. -/
structure Junk where
  chars : List Char
  readable : chars.all isReadable = true := by decide
  noSemicolon : ';' ∉ chars := by decide
  noName : '=' ∉ chars ∨ ∃ (blanks : Blanks) (rest : List Char), chars = blanks.chars ++ '=' :: rest

/-- What is written between two semicolons. -/
inductive CookiePiece
  | cookie (before : Blanks) (cookie : Cookie) (behindName beforeValue behind : Blanks)
  | junk (other : Junk)

namespace CookiePiece

/-- A piece as it is written. -/
def chars : CookiePiece → List Char
  | cookie before pair behindName beforeValue behind =>
    before.chars ++ pair.name.toList ++ behindName.chars ++
      '=' :: (beforeValue.chars ++ pair.value.toList ++ behind.chars)
  | junk other => other.chars

def cookie? : CookiePiece → Option Cookie
  | cookie _ pair _ _ _ => some pair
  | junk _ => none

end CookiePiece

/-- The value of a cookie header: pieces between semicolons, or something that cannot be read as text. -/
inductive CookieLine
  | pieces (line : List CookiePiece)
  | unreadable (value : String) (h : readable? value = none)

namespace CookieLine

/-- A header value as it is written. -/
def text : CookieLine → String
  | pieces line => String.ofList ([';'].intercalate (line.map CookiePiece.chars))
  | unreadable value _ => value

/-- The cookies of a header, in their order. -/
def cookies : CookieLine → List Cookie
  | pieces line => line.filterMap CookiePiece.cookie?
  | unreadable _ _ => []

end CookieLine

/-- A cookie as a member of an object. -/
def Cookie.member (pair : Cookie) : String × Value := (pair.name, .string pair.value)

/-! ### Reading a header -/

namespace Blanks

variable (blanks : Blanks)

theorem eq_of_mem {c : Char} (h : c ∈ blanks.chars) : c = ' ' ∨ c = '\t' := by
  simpa using List.all_eq_true.mp blanks.blank c h

theorem isSpace : Text.IsSpace blanks.chars := by
  intro c hc
  rcases blanks.eq_of_mem hc with rfl | rfl <;> rfl

theorem readable : blanks.chars.all isReadable = true := by
  rw [List.all_eq_true]
  intro c hc
  rcases blanks.eq_of_mem hc with rfl | rfl <;> rfl

theorem not_mem {c : Char} (hspace : c ≠ ' ') (htab : c ≠ '\t') : c ∉ blanks.chars :=
  fun hc => (blanks.eq_of_mem hc).elim hspace htab

end Blanks

namespace CookiePiece

variable (piece : CookiePiece)

theorem cookie?_chars : Http.cookie? piece.chars = piece.cookie?.map Cookie.member := by
  cases piece with
  | cookie before pair behindName beforeValue behind =>
    have hname : '=' ∉ before.chars ++ pair.name.toList ++ behindName.chars := by
      simp [before.not_mem, behindName.not_mem, pair.name_noEquals]
    have hsome : pair.name.toList.isEmpty = false := by simpa using pair.name_ne_empty
    rw [chars, Http.cookie?, Text.splitFirst?_append hname]
    simp only [Text.trimChars_padded before.isSpace behindName.isSpace pair.name_trimmed,
      Text.trimChars_padded beforeValue.isSpace behind.isSpace pair.value_trimmed, hsome, String.ofList_toList]
    rfl
  | junk other =>
    rw [chars, Http.cookie?]
    rcases other.noName with hequals | ⟨blanks, rest, hchars⟩
    · rw [Text.splitFirst?_of_not_mem hequals]
      rfl
    · rw [hchars, Text.splitFirst?_append (blanks.not_mem (by decide) (by decide))]
      simp only [Text.trimChars_of_space blanks.isSpace]
      rfl

theorem readable : piece.chars.all isReadable = true := by
  cases piece with
  | cookie before pair behindName beforeValue behind =>
    have hpair := pair.readable
    rw [List.all_append, Bool.and_eq_true] at hpair
    have hequals : isReadable '=' = true := rfl
    simp only [chars, List.all_append, List.all_cons, Blanks.readable, hpair.1, hpair.2, hequals, Bool.and_true]
  | junk other => exact other.readable

theorem noSemicolon : ';' ∉ piece.chars := by
  cases piece with
  | cookie before pair behindName beforeValue behind =>
    obtain ⟨hname, hvalue⟩ := not_or.mp (mt List.mem_append.mpr pair.noSemicolon)
    simp [chars, Blanks.not_mem, hname, hvalue]
  | junk other => exact other.noSemicolon

end CookiePiece

namespace CookieLine

theorem readable_pieces (pieces : List CookiePiece) :
    ([';'].intercalate (pieces.map CookiePiece.chars)).all isReadable = true := by
  induction pieces with
  | nil => rfl
  | cons piece pieces ih =>
    by_cases hne : pieces.map CookiePiece.chars = []
    · rw [List.map_cons, hne, List.intercalate_singleton]
      exact piece.readable
    · have hsemicolon : [';'].all isReadable = true := rfl
      rw [List.map_cons, List.intercalate_cons_of_ne_nil hne, List.all_append, List.all_append, piece.readable,
        hsemicolon, ih]
      rfl

theorem readable?_text_pieces (line : List CookiePiece) : readable? (pieces line).text = some (pieces line).text := by
  rw [readable?, if_pos]
  rw [text, String.toList_ofList]
  exact readable_pieces line

/-- The cookies of a header are read as they are written. -/
theorem cookiesOfLine_text_pieces (line : List CookiePiece) :
    cookiesOfLine (pieces line).text = (pieces line).cookies.map Cookie.member := by
  rw [cookiesOfLine, text, String.toList_ofList, Text.pieces_eq_splitOn, cookies, List.map_filterMap]
  by_cases hne : line.map CookiePiece.chars = []
  · obtain rfl := List.map_eq_nil_iff.mp hne
    rfl
  · have hplain : ∀ chars ∈ line.map CookiePiece.chars, ';' ∉ chars := by
      intro chars hchars
      obtain ⟨piece, -, rfl⟩ := List.mem_map.mp hchars
      exact piece.noSemicolon
    rw [List.splitOn_intercalate ';' hplain hne, List.filterMap_map]
    exact List.filterMap_congr fun piece _ => piece.cookie?_chars

/-- A header that is readable tells its cookies, and no other header tells any. -/
theorem flatMap_readable? (lines : List CookieLine) :
    ((lines.map text).filterMap readable?).flatMap cookiesOfLine = (lines.flatMap cookies).map Cookie.member := by
  induction lines with
  | nil => rfl
  | cons line lines ih =>
    rw [List.map_cons, List.flatMap_cons, List.map_append]
    cases line with
    | pieces line =>
      rw [List.filterMap_cons_some (readable?_text_pieces line), List.flatMap_cons, ih, cookiesOfLine_text_pieces]
    | unreadable value h =>
      rw [text, List.filterMap_cons_none h, ih]
      rfl

end CookieLine

/-! ### All headers -/

theorem lookup_reverse_members (cookies : List Cookie) (name : String) :
    (cookies.map Cookie.member).reverse.lookup name =
      (cookies.reverse.find? fun pair => pair.name = name).map fun pair => .string pair.value := by
  rw [← List.map_reverse]
  induction cookies.reverse with
  | nil => rfl
  | cons pair rest ih =>
    rw [List.map_cons, Cookie.member, Entries.lookup_cons_ite, ih, List.find?_cons]
    by_cases h : pair.name = name
    · simp [h]
    · simp [h, Ne.symm h]

/-- However cookies are distributed over headers, spaced out and mixed with other pieces, what is read has the distinct
names in the order in which they come first, each with its last value; headers that cannot be read make no
difference. -/
theorem cookies_are_read_back {headers : Headers} {lines : List CookieLine}
    (h : headers.all "cookie" = lines.map CookieLine.text) :
    ∃ members, headers.cookies = .object members ∧
      Entries.keys members = ((lines.flatMap CookieLine.cookies).map Cookie.name).eraseDups ∧
      ∀ name, members.lookup name =
        ((lines.flatMap CookieLine.cookies).reverse.find? fun pair => pair.name = name).map
          fun pair => .string pair.value := by
  have hnames : (lines.flatMap CookieLine.cookies).map Cookie.name =
      Entries.keys ((lines.flatMap CookieLine.cookies).map Cookie.member) := by
    rw [Entries.keys, List.map_map]
    rfl
  have hobject : headers.cookies = .ofMembers ((lines.flatMap CookieLine.cookies).map Cookie.member) := by
    rw [Headers.cookies, h, CookieLine.flatMap_readable?]
  refine ⟨_, hobject.trans (Value.ofMembers_eq _), ?_, fun name => ?_⟩
  · rw [Entries.keys_foldl_put, hnames]
  · rw [Entries.lookup_foldl_put, lookup_reverse_members]
    exact Option.or_none

/-- Two readable headers with blanks, empty pieces and a value with an equals sign, and between them one that cannot be
read. -/
theorem spread_cookies_are_read :
    let none : Blanks := { chars := [] }
    let space : Blanks := { chars := [' '] }
    let first : Cookie := { name := "a", value := "1" }
    let second : Cookie := { name := "b", value := "x=y" }
    let last : Cookie := { name := "a", value := "" }
    let empty : Junk := { chars := [], noName := .inl (by decide) }
    let nameless : Junk := { chars := " =z".toList, noName := .inr ⟨space, ['z'], rfl⟩ }
    let headers : Headers := [("cookie", "a=1;; b = x=y ; =z"), ("host", "shop"), ("cookie", "a=é"), ("cookie", "a= ")]
    let lines : List CookieLine := [
      .pieces [.cookie none first none none none, .junk empty, .cookie space second space space space, .junk nameless],
      .unreadable "a=é" (by decide), .pieces [.cookie none last none none space]]
    headers.all "cookie" = lines.map CookieLine.text ∧ ∃ members, headers.cookies = .object members ∧
      Entries.keys members = ["a", "b"] ∧ members.lookup "a" = some (.string "") ∧
      members.lookup "b" = some (.string "x=y") := by
  intro none space first second last empty nameless headers lines
  have hlines : headers.all "cookie" = lines.map CookieLine.text := by decide +kernel
  obtain ⟨members, hmembers, hkeys, hlookup⟩ := cookies_are_read_back hlines
  exact ⟨hlines, members, hmembers, hkeys.trans (by decide +kernel), (hlookup "a").trans rfl, (hlookup "b").trans rfl⟩

end Http

end AggregateGateway
