import AggregateGateway.Text.Split

/-!
Authorities, such as `user@shop.example:8000` or `[::1]:80`. A text is an authority if it holds only characters that
may stand there, one pair of brackets at most, and outside of user information and brackets at most one colon and no
percent sign.
-/

namespace AggregateGateway.Http

/-- A character that may stand in an authority, percent signs apart. -/
def isAuthorityChar (c : Char) : Bool := c.isAlphanum || "!$&'()*+,-.:;=@[]_~".toList.contains c

/-- What has been seen of an authority since the last `@` or `]`, and of its brackets. -/
structure AuthorityScan where
  colons : Nat := 0
  percent : Bool := false
  opened : Bool := false
  closed : Bool := false
deriving DecidableEq, Repr

namespace AuthorityScan

/-- How many colons may stand between brackets. -/
def maxColons : Nat := 8

/-- Takes one more character. -/
def next? (scan : AuthorityScan) (c : Char) : Option AuthorityScan :=
  if c = ':' then if scan.colons < maxColons then some { scan with colons := scan.colons + 1 } else none
  else if c = '[' then if scan.percent || scan.opened then none else some { scan with opened := true }
  else if c = ']' then
    if !scan.opened || scan.closed then none else some { scan with colons := 0, percent := false, closed := true }
  else if c = '@' then some { scan with colons := 0, percent := false }
  else if c = '%' then some { scan with percent := true }
  else if isAuthorityChar c then some scan
  else none

/-- Whether the authority may end here. -/
def isComplete (scan : AuthorityScan) : Bool := scan.opened = scan.closed && scan.colons ≤ 1 && !scan.percent

end AuthorityScan

/-- Whether a text is an authority, possibly the empty one. -/
def isAuthority (chars : List Char) : Bool :=
  (chars.foldlM AuthorityScan.next? {}).any AuthorityScan.isComplete && chars.getLast? ≠ some '@'

/-- The text behind the last `@`. -/
def withoutUser (chars : List Char) : List Char := (chars.reverse.takeWhile (· ≠ '@')).reverse

/-- The host of an authority without its port. Brackets stay, and a text that is no authority stands for itself. -/
def hostPart (authority : String) : String :=
  let chars := authority.toList
  if chars.isEmpty || !isAuthority chars then authority
  else
    let host := withoutUser chars
    String.ofList (if host.head? = some '[' then host.takeWhile (· ≠ ']') ++ [']'] else host.takeWhile (· ≠ ':'))

end AggregateGateway.Http
