import LifecycleGuard.Yaml.Token.Scalar

/-!
# Names, tags and directives in a text

Anchors and aliases are names.  A tag is written out in full between angle brackets, or as a
handle and a suffix.  Directives stand in front of a document and fix its version and its tag
handles.
-/

namespace LifecycleGuard.Yaml

/-- Whether a character may stand in a name. -/
def isNameChar (c : Char) : Bool :=
  ('0' ≤ c && c ≤ '9') || ('A' ≤ c && c ≤ 'Z') || ('a' ≤ c && c ≤ 'z') || c = '_' || c = '-'

/-- Read the name of an anchor or alias, behind its mark. -/
def readName (c : Cursor) : Option (String × Cursor) :=
  let (name, c) := (c.advance 1).span isNameChar
  let ends := c.endsWordAt 0 || (match c.peek 0 with
    | some x => x = '?' || x = ':' || x = ',' || x = ']' || x = Char.ofNat 0x7D || x = '%' ||
        x = '@' || x = Char.ofNat 0x60
    | none => true)
  if name.isEmpty || !ends then none else some (String.ofList name, c)

/-! ## Tags -/

/-- Whether a character may stand in a tag.  Between angle brackets three more may. -/
def isTagChar (verbatim : Bool) (c : Char) : Bool :=
  isNameChar c || c = ';' || c = '/' || c = '?' || c = ':' || c = '@' || c = '&' || c = '=' ||
    c = '+' || c = '$' || c = '.' || c = '!' || c = '~' || c = '*' || c = '\'' || c = '(' ||
    c = ')' || (verbatim && (c = ',' || c = '[' || c = ']'))

/-- The byte that an escape in a tag names. -/
def tagByte? (c : Cursor) : Option Nat := do
  if c.sees 0 '%' then hexValue? [← c.peek 1, ← c.peek 2] else none

/-- What the bytes behind the first byte of an escaped character contribute. -/
def tagBytes : Nat → Cursor → Option (List Nat × Cursor)
  | 0, c => some ([], c)
  | n + 1, c => do
    let b ← tagByte? c
    if b / 64 ≠ 2 then none
    let (bs, c) ← tagBytes n (c.advance 3)
    return (b % 64 :: bs, c)

/-- The character of a number, if there is one and no fewer bytes than `bytes` would have done for
it. -/
def encodedChar? (bytes n : Nat) : Option Char :=
  let least := match bytes with
    | 1 => 0
    | 2 => 0x80
    | 3 => 0x800
    | _ => 0x10000
  if n < least ∨ (0xD800 ≤ n ∧ n ≤ 0xDFFF) ∨ 0x10FFFF < n then none else some (Char.ofNat n)

/-- A character of a tag that is escaped byte by byte, or a hole.  The bytes must be as many as
the first of them announces; that is all that is asked of them. -/
def readTagEscape (c : Cursor) : Option (Option Char × Cursor) := do
  let b ← tagByte? c
  let c := c.advance 3
  let (head, more) ←
    if b < 0x80 then some (b, 0)
    else if b / 32 = 6 then some (b % 32, 1)
    else if b / 16 = 14 then some (b % 16, 2)
    else if b / 8 = 30 then some (b % 8, 3)
    else none
  let (bs, c) ← tagBytes more c
  return (encodedChar? (more + 1) (bs.foldl (fun n x => n * 64 + x) head), c)

/-- Read the characters of a tag. -/
def readTagChars (verbatim : Bool) : Nat → Cursor → Option (List (Option Char) × Cursor)
  | 0, c => some ([], c)
  | fuel + 1, c =>
    match c.peek 0 with
    | none => some ([], c)
    | some x =>
      if x = '%' then do
        let (y, c) ← readTagEscape c
        let (ys, c) ← readTagChars verbatim fuel c
        return (y :: ys, c)
      else if isTagChar verbatim x then do
        let (ys, c) ← readTagChars verbatim fuel (c.advance 1)
        return (some x :: ys, c)
      else some ([], c)

/-- Read a handle: an exclamation mark, a name, and another mark where there is one. -/
def readHandle (c : Cursor) : Option (List Char × Cursor) :=
  if c.sees 0 '!' then
    let (name, c) := (c.advance 1).span isNameChar
    if c.sees 0 '!' then some ('!' :: name ++ ['!'], c.advance 1) else some ('!' :: name, c)
  else none

/-- Read a tag that is written out in full, behind the mark and the opening bracket. -/
def readVerbatimTag (c : Cursor) : Option (Token × Cursor) := do
  let (uri, c) ← readTagChars true (c.rest.length + 1) c
  if uri.isEmpty || !c.sees 0 '>' then none
  return (.tag "" (Tag.ofChars uri), c.advance 1)

/-- Read a tag that is written with a handle.  A mark with nothing behind it is a tag in full. -/
def readShortTag (c : Cursor) : Option (Token × Cursor) := do
  let (handle, c) ← readHandle c
  if 1 < handle.length ∧ handle.getLast? = some '!' then
    let (suffix, c) ← readTagChars false (c.rest.length + 1) c
    if suffix.isEmpty then none
    return (.tag (String.ofList handle) (Tag.ofChars suffix), c)
  else
    let (more, c) ← readTagChars false (c.rest.length + 1) c
    let suffix := Tag.ofChars ((handle.drop 1).map some ++ more)
    if suffix.chars.isEmpty then return (.tag "" Tag.bare, c)
    return (.tag "!" suffix, c)

/-- Read a tag. -/
def readTag (flow : Bool) (c : Cursor) : Option (Token × Cursor) := do
  let (t, c) ← if c.sees 1 '<' then readVerbatimTag (c.advance 2) else readShortTag c
  if (flow && c.sees 0 ',') || c.endsWordAt 0 then return (t, c) else none

/-! ## Directives -/

/-- Read a number of one to nine digits. -/
def readVersionNumber (c : Cursor) : Option (Nat × Cursor) :=
  let (ds, c) := c.span fun x => '0' ≤ x && x ≤ '9'
  if ds.isEmpty || 9 < ds.length then none
  else some (ds.foldl (fun n d => n * 10 + (d.toNat - 48)) 0, c)

/-- Read what follows the name of a version directive. -/
def readVersion (c : Cursor) : Option (Token × Cursor) := do
  let (major, c) ← readVersionNumber (c.skipWhile isGap)
  if !c.sees 0 '.' then none
  let (minor, c) ← readVersionNumber (c.advance 1)
  return (.version major minor, c)

/-- Read what follows the name of a tag directive. -/
def readTagDirective (c : Cursor) : Option (Token × Cursor) := do
  let (handle, c) ← readHandle (c.skipWhile isGap)
  if 1 < handle.length ∧ handle.getLast? ≠ some '!' then none
  if !(match c.peek 0 with
    | some x => isGap x
    | none => false) then none
  let c := c.skipWhile isGap
  let (uri, c) ← readTagChars true (c.rest.length + 1) c
  if uri.isEmpty || !c.endsWordAt 0 then none
  return (.tagHandle (String.ofList handle) (Tag.ofChars uri), c)

/-- Read a directive with the rest of its line. -/
def readDirective (c : Cursor) : Option (Token × Cursor) := do
  let (name, c) := (c.advance 1).span isNameChar
  if name.isEmpty || !c.endsWordAt 0 then none
  let (t, c) ←
    if name = ['Y', 'A', 'M', 'L'] then readVersion c
    else if name = ['T', 'A', 'G'] then readTagDirective c
    else none
  let c := (c.skipWhile isGap).skipComment
  if c.atEnd then return (t, c)
  if c.breaksAt 0 then return (t, c.nextLine)
  none

end LifecycleGuard.Yaml
