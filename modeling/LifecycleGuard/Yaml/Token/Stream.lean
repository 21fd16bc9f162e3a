import LifecycleGuard.Yaml.Token.Property

/-!
# From a text to its tokens

`Token.ofChars?` cuts a text into tokens, or gives nothing if the text is not YAML.

A key is recognized late: whether a scalar is one shows only at the colon behind it.  Wherever a
key may begin its place is remembered, and a `key` token is put there when the colon comes.  The
colon must come in the same line and within 1024 bytes.  At most one place is remembered for each
level of brackets.

Block structure follows from columns.  A token further to the right than the block that it stands
in begins a new block, and one further to the left ends blocks.
-/

namespace LifecycleGuard.Yaml

/-- The place where a key may begin. -/
structure KeyPlace where
  /-- The number of the token that begins there. -/
  number : Nat
  index : Nat
  line : Nat
  column : Nat
  /-- Whether nothing but a key may begin there. -/
  required : Bool

/-- A scanner at work. -/
structure Scanner where
  cursor : Cursor
  /-- The column of the innermost block, or -1. -/
  indent : Int
  /-- The columns of the blocks around it. -/
  outer : List Int
  /-- The places where keys may begin, innermost level first; the last level is outside brackets. -/
  places : List (Option KeyPlace)
  /-- Whether a key may begin here. -/
  keyAllowed : Bool
  /-- The tokens so far, last first. -/
  tokens : List Token

namespace Scanner

/-- At the beginning of a text. -/
def start (s : List Char) : Scanner := ⟨.start s, -1, [], [none], true, []⟩

/-- Whether the scanner is inside brackets. -/
def inFlow (s : Scanner) : Bool := 1 < s.places.length

/-- The column. -/
def column (s : Scanner) : Int := s.cursor.column

/-- Add a token. -/
def emit (s : Scanner) (t : Token) : Scanner := { s with tokens := t :: s.tokens }

/-- Put a token before the token of a number. -/
def insert (s : Scanner) (number : Nat) (t : Token) : Scanner :=
  let later := s.tokens.length - number
  { s with tokens := s.tokens.take later ++ t :: s.tokens.drop later }

/-- Go on behind some characters. -/
def advance (s : Scanner) (n : Nat) : Scanner := { s with cursor := s.cursor.advance n }

/-- Say whether a key may begin. -/
def allow (s : Scanner) (b : Bool) : Scanner := { s with keyAllowed := b }

/-! ## Blocks -/

/-- End the blocks to the right of a column. -/
def unrollTo (column : Int) : List Int → Int → List Token → Int × List Int × List Token
  | [], indent, tokens => (indent, [], tokens)
  | o :: outer, indent, tokens =>
    if column < indent then unrollTo column outer o (.blockEnd :: tokens)
    else (indent, o :: outer, tokens)

/-- End the blocks to the right of a column, unless inside brackets. -/
def unroll (s : Scanner) (column : Int) : Scanner :=
  if s.inFlow then s
  else
    let (indent, outer, tokens) := unrollTo column s.outer s.indent s.tokens
    { s with indent, outer, tokens }

/-- Begin a block at a column, unless it is there already or the scanner is inside brackets.  The
start token goes before the token of a number. -/
def roll (s : Scanner) (column : Int) (number : Nat) (t : Token) : Scanner :=
  if s.inFlow || column ≤ s.indent then s
  else { s.insert number t with indent := column, outer := s.indent :: s.outer }

/-! ## Places for keys -/

/-- Forget the place of this level, unless a key must begin there. -/
def forget (s : Scanner) : Option Scanner :=
  match s.places with
  | some p :: rest => if p.required then none else some { s with places := none :: rest }
  | _ => some s

/-- Remember this place, if a key may begin here. -/
def remember (s : Scanner) : Option Scanner :=
  if s.keyAllowed then do
    let s ← s.forget
    let place : KeyPlace :=
      ⟨s.tokens.length, s.cursor.index, s.cursor.line, s.cursor.column,
        !s.inFlow && s.indent = s.column⟩
    return { s with places := some place :: s.places.drop 1 }
  else some s

/-- Drop the places that are too far behind. -/
def dropStale (c : Cursor) : List (Option KeyPlace) → Option (List (Option KeyPlace))
  | [] => some []
  | none :: rest => (dropStale c rest).map (none :: ·)
  | some p :: rest =>
    if p.line < c.line ∨ p.index + 1024 < c.index then
      if p.required then none else (dropStale c rest).map (none :: ·)
    else (dropStale c rest).map (some p :: ·)

/-! ## One token -/

/-- Go to the next token, over blanks, comments and line breaks.  Tabs count as blanks only where
they cannot be taken for indentation.  A line may begin with a byte order mark, which takes up a
column. -/
def toNextToken : Nat → Scanner → Scanner
  | 0, s => s
  | fuel + 1, s =>
    let marked := s.cursor.column = 0 && s.cursor.sees 0 (Char.ofNat 0xFEFF)
    let c := if marked then s.cursor.advance 1 else s.cursor
    let tabs := s.inFlow || !s.keyAllowed
    let c := (c.skipWhile fun x => x = ' ' || (tabs && x = '\t')).skipComment
    if c.breaksAt 0 then
      toNextToken fuel { s with cursor := c.nextLine, keyAllowed := s.keyAllowed || !s.inFlow }
    else { s with cursor := c }

/-- A token that separates documents, or stands before one. -/
def scanBetweenDocuments (s : Scanner) : Option Scanner := do
  let s ← (s.unroll (-1)).forget
  return s.allow false

/-- The opening bracket of a collection. -/
def scanFlowStart (s : Scanner) (t : Token) : Option Scanner := do
  let s ← s.remember
  return ({ s with places := none :: s.places, keyAllowed := true }.advance 1).emit t

/-- The closing bracket of a collection. -/
def scanFlowEnd (s : Scanner) (t : Token) : Option Scanner := do
  let s ← s.forget
  let places := if s.inFlow then s.places.drop 1 else s.places
  return ({ s with places, keyAllowed := false }.advance 1).emit t

/-- The comma between members. -/
def scanFlowEntry (s : Scanner) : Option Scanner := do
  let s ← s.forget
  return ((s.allow true).advance 1).emit .flowEntry

/-- The hyphen before an item. -/
def scanBlockEntry (s : Scanner) : Option Scanner := do
  if !s.inFlow && !s.keyAllowed then none
  let s := s.roll s.column s.tokens.length .blockSequenceStart
  let s ← s.forget
  return ((s.allow true).advance 1).emit .blockEntry

/-- The question mark before a key. -/
def scanKey (s : Scanner) : Option Scanner := do
  if !s.inFlow && !s.keyAllowed then none
  let s := s.roll s.column s.tokens.length .blockMappingStart
  let s ← s.forget
  return ((s.allow !s.inFlow).advance 1).emit .key

/-- The colon before a value. -/
def scanValue (s : Scanner) : Option Scanner :=
  match s.places with
  | some p :: rest =>
    let s := { s with places := none :: rest }
    let s := (s.insert p.number .key).roll p.column p.number .blockMappingStart
    some (((s.allow false).advance 1).emit .value)
  | _ =>
    if !s.inFlow && !s.keyAllowed then none
    else
      let s := s.roll s.column s.tokens.length .blockMappingStart
      some (((s.allow !s.inFlow).advance 1).emit .value)

/-- A token at which a key may begin, and behind which none may. -/
def scanProperty (s : Scanner) (read : Cursor → Option (Token × Cursor)) : Option Scanner := do
  let s ← s.remember
  let (t, cursor) ← read s.cursor
  return { s with cursor, keyAllowed := false }.emit t

/-- A plain scalar. -/
def scanPlain (s : Scanner) : Option Scanner := do
  let s ← s.remember
  let (t, broken, cursor) ← readPlain s.inFlow (s.indent + 1) s.cursor
  return { s with cursor, keyAllowed := broken }.emit t

/-- A block scalar. -/
def scanBlock (s : Scanner) (folded : Bool) : Option Scanner := do
  let s ← s.forget
  let (t, cursor) ← readBlock folded s.indent s.cursor
  return { s with cursor, keyAllowed := true }.emit t

/-- Whether a character is a mark, which does not begin a plain scalar. -/
def isMark (c : Char) : Bool :=
  c = '-' || c = '?' || c = ':' || isFlowMark c || c = '#' || c = '&' || c = '*' || c = '!' ||
    c = '|' || c = '>' || c = '\'' || c.toNat = 0x22 || c = '%' || c = '@' || c.toNat = 0x60

/-- Whether a plain scalar begins here. -/
def beginsPlain (s : Scanner) (x : Char) : Bool :=
  !(isGap x || isBreak x || isMark x)
    || (x = '-' && (match s.cursor.peek 1 with
      | some y => !isGap y
      | none => true))
    || (!s.inFlow && (x = '?' || x = ':') && !s.cursor.endsWordAt 1)

/-- The token that begins with a character. -/
def scanToken (s : Scanner) (x : Char) : Option Scanner :=
  let c := s.cursor
  let ends := c.endsWordAt 1
  if c.column = 0 && x = '%' then do
    let s ← s.scanBetweenDocuments
    let (t, cursor) ← readDirective s.cursor
    return { s with cursor }.emit t
  else if c.isMarker '-' then do
    let s ← s.scanBetweenDocuments
    return (s.advance 3).emit .documentStart
  else if c.isMarker '.' then do
    let s ← s.scanBetweenDocuments
    return (s.advance 3).emit .documentEnd
  else if x = '[' then s.scanFlowStart .flowSequenceStart
  else if x = Char.ofNat 0x7B then s.scanFlowStart .flowMappingStart
  else if x = ']' then s.scanFlowEnd .flowSequenceEnd
  else if x = Char.ofNat 0x7D then s.scanFlowEnd .flowMappingEnd
  else if x = ',' then s.scanFlowEntry
  else if x = '-' && ends then s.scanBlockEntry
  else if x = '?' && (s.inFlow || ends) then s.scanKey
  else if x = ':' && (s.inFlow || ends) then s.scanValue
  else if x = '*' then s.scanProperty fun c => (readName c).map fun n => (.alias n.1, n.2)
  else if x = '&' then s.scanProperty fun c => (readName c).map fun n => (.anchor n.1, n.2)
  else if x = '!' then s.scanProperty (readTag s.inFlow)
  else if x = '|' && !s.inFlow then s.scanBlock false
  else if x = '>' && !s.inFlow then s.scanBlock true
  else if x = '\'' then s.scanProperty (readQuoted true)
  else if x.toNat = 0x22 then s.scanProperty (readQuoted false)
  else if s.beginsPlain x then s.scanPlain
  else none

/-- The end of the text. -/
def finish (s : Scanner) : Option (List Token) := do
  let s ← (s.unroll (-1)).forget
  return s.tokens.reverse

/-- Scan to the end of the text. -/
def run : Nat → Scanner → Option (List Token)
  | 0, _ => none
  | fuel + 1, s => do
    let s := toNextToken (s.cursor.rest.length + 1) s
    let places ← dropStale s.cursor s.places
    let s := { s with places }.unroll s.column
    match s.cursor.peek 0 with
    | none => s.finish
    | some x => run fuel (← s.scanToken x)

end Scanner

/-- The tokens of a text, if it is YAML as far as tokens go. -/
def Token.ofChars? (s : List Char) : Option (List Token) :=
  if s.all isAllowed then Scanner.run (s.length + 2) (Scanner.start s) else none

end LifecycleGuard.Yaml
