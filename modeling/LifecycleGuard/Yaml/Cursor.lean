/-!
# Positions in a text

A cursor is what is left of a text together with where that is: how many bytes are behind it, in
which line it stands and in which column.  Bytes are those of the text in UTF-8, while a column
is a character wide whatever the character.  Besides line feed and carriage return three
further characters break lines; a carriage return and a line feed behind it are one break.
-/

namespace LifecycleGuard.Yaml

/-- Whether a character breaks the line. -/
def isBreak (c : Char) : Bool :=
  c = '\n' || c = '\r' || c.toNat = 0x85 || c.toNat = 0x2028 || c.toNat = 0x2029

/-- Whether a character is a space or a tab. -/
def isGap (c : Char) : Bool := c = ' ' || c = '\t'

/-- Whether a character may stand in a document at all. -/
def isAllowed (c : Char) : Bool :=
  let n := c.toNat
  n = 0x09 || n = 0x0A || n = 0x0D || (0x20 ≤ n && n ≤ 0x7E) || n = 0x85 ||
    (0xA0 ≤ n && n ≤ 0xD7FF) || (0xE000 ≤ n && n ≤ 0xFFFD) || 0x10000 ≤ n

/-- A position in a text. -/
structure Cursor where
  rest : List Char
  /-- How many bytes are behind it. -/
  index : Nat
  line : Nat
  column : Nat

namespace Cursor

/-- The beginning of a text. -/
def start (s : List Char) : Cursor := ⟨s, 0, 0, 0⟩

/-- The character `k` places on. -/
def peek (c : Cursor) (k : Nat) : Option Char := c.rest[k]?

/-- Whether the character `k` places on is `x`. -/
def sees (c : Cursor) (k : Nat) (x : Char) : Bool := c.rest[k]? = some x

/-- Whether the text ends here. -/
def atEnd (c : Cursor) : Bool := c.rest.isEmpty

/-- Whether the line ends `k` places on. -/
def breaksAt (c : Cursor) (k : Nat) : Bool :=
  match c.rest[k]? with
  | some x => isBreak x
  | none => false

/-- Whether a word ends `k` places on, by a blank, a line break or the end of the text. -/
def endsWordAt (c : Cursor) (k : Nat) : Bool :=
  match c.rest[k]? with
  | some x => isGap x || isBreak x
  | none => true

/-- How many bytes some characters take. -/
def bytes (s : List Char) : Nat := s.foldl (fun n x => n + x.utf8Size) 0

/-- The position `n` characters on, in the same line. -/
def advance (c : Cursor) (n : Nat) : Cursor :=
  ⟨c.rest.drop n, c.index + bytes (c.rest.take n), c.line, c.column + n⟩

/-- The characters from here on that have a property, none of them a line break, and the position
behind them. -/
def span (c : Cursor) (p : Char → Bool) : List Char × Cursor :=
  let s := c.rest.takeWhile p
  (s, c.advance s.length)

/-- The position behind the characters that have a property. -/
def skipWhile (c : Cursor) (p : Char → Bool) : Cursor := (c.span p).2

/-- The beginning of the next line, from the end of this one. -/
def nextLine (c : Cursor) : Cursor :=
  match c.rest with
  | '\r' :: '\n' :: r => ⟨r, c.index + 2, c.line + 1, 0⟩
  | x :: r => ⟨r, c.index + x.utf8Size, c.line + 1, 0⟩
  | [] => c

/-- What the line break here stands for in a text: a line feed, or one of the two separators. -/
def lineBreak (c : Cursor) : List Char :=
  match c.rest with
  | x :: _ =>
    if x.toNat = 0x2028 ∨ x.toNat = 0x2029 then [x] else if isBreak x then ['\n'] else []
  | [] => []

/-- The position behind a comment, if there is one here. -/
def skipComment (c : Cursor) : Cursor :=
  if c.sees 0 '#' then c.skipWhile (fun x => !isBreak x) else c

/-- Whether three equal marks stand alone at the beginning of a line. -/
def isMarker (c : Cursor) (x : Char) : Bool :=
  c.column = 0 && c.sees 0 x && c.sees 1 x && c.sees 2 x && c.endsWordAt 3

/-- Whether a document begins or ends here. -/
def isDocumentMarker (c : Cursor) : Bool := c.isMarker '-' || c.isMarker '.'

end Cursor

end LifecycleGuard.Yaml
