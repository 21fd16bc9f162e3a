import LifecycleGuard.Yaml.Cursor
import LifecycleGuard.Yaml.Token

/-!
# Scalars in a text

The three ways to write a scalar: plain, quoted, and as a block.

Plain and quoted scalars go over several lines by *folding*: between two words a single line
break counts as a space and further ones as themselves, while blanks around line breaks do not
count.  A `Fold` is what has been seen between two words.  In block scalars lines are kept, or
folded where both neighbours are neither empty nor indented further.
-/

namespace LifecycleGuard.Yaml

/-! ## Between two words -/

/-- What stands between two words. -/
structure Fold where
  /-- The blanks, as long as no line break has been seen. -/
  blanks : List Char
  /-- The first line break. -/
  first : List Char
  /-- The other line breaks. -/
  others : List Char
  /-- Whether the line has been broken. -/
  broken : Bool

namespace Fold

/-- Nothing between two words. -/
def none : Fold := ⟨[], [], [], false⟩

/-- A line break that was escaped, and so does not count. -/
def escaped : Fold := ⟨[], [], [], true⟩

/-- What stands for it in the scalar. -/
def text (f : Fold) : List Char :=
  if f.broken then
    if f.first = ['\n'] then if f.others.isEmpty then [' '] else f.others
    else f.first ++ f.others
  else f.blanks

/-- The fold with another line break. -/
def addBreak (f : Fold) (b : List Char) : Fold :=
  if f.broken then { f with others := f.others ++ b } else ⟨[], b, f.others, true⟩

end Fold

/-- Read what stands between two words.  In a plain scalar a tab must not stand in the
indentation, which reaches up to column `indent`. -/
def readFold (indent : Option Int) : Nat → Cursor → Fold → Option (Cursor × Fold)
  | 0, c, f => some (c, f)
  | fuel + 1, c, f =>
    match c.rest with
    | [] => some (c, f)
    | x :: _ =>
      if isGap x then
        if f.broken then
          match indent with
          | some n =>
            if x = '\t' ∧ (c.column : Int) < n then .none else readFold indent fuel (c.advance 1) f
          | none => readFold indent fuel (c.advance 1) f
        else readFold indent fuel (c.advance 1) { f with blanks := f.blanks ++ [x] }
      else if isBreak x then readFold indent fuel c.nextLine (f.addBreak c.lineBreak)
      else some (c, f)

/-! ## Plain scalars -/

/-- Whether a character ends a plain scalar inside brackets. -/
def isFlowMark (c : Char) : Bool :=
  c = ',' || c = '[' || c = ']' || c = Char.ofNat 0x7B || c = Char.ofNat 0x7D

/-- Read a word of a plain scalar.  The text so far is kept backwards; what was seen before the
word is added with its first character. -/
def readPlainWord (flow : Bool) : Nat → Cursor → Fold → List Char →
    Option (Cursor × Fold × List Char)
  | 0, c, f, acc => some (c, f, acc)
  | fuel + 1, c, f, acc =>
    match c.rest with
    | [] => some (c, f, acc)
    | x :: _ =>
      if isGap x || isBreak x then some (c, f, acc)
      else if flow && x = ':' && (match c.peek 1 with
          | some y => isFlowMark y || y = '?'
          | none => false) then none
      else if (x = ':' && c.endsWordAt 1) || (flow && isFlowMark x) then some (c, f, acc)
      else readPlainWord flow fuel (c.advance 1) .none (x :: (f.text.reverse ++ acc))

/-- Read the words of a plain scalar, which must stand at column `indent` or further right. -/
def readPlainWords (flow : Bool) (indent : Int) : Nat → Cursor → Fold → List Char →
    Option (Cursor × Fold × List Char)
  | 0, c, f, acc => some (c, f, acc)
  | fuel + 1, c, f, acc =>
    if c.isDocumentMarker || c.sees 0 '#' then some (c, f, acc)
    else do
      let (c, f, acc) ← readPlainWord flow (c.rest.length + 1) c f acc
      match c.rest with
      | [] => return (c, f, acc)
      | x :: _ =>
        if isGap x || isBreak x then
          let (c, f) ← readFold (some indent) (c.rest.length + 1) c f
          if !flow && (c.column : Int) < indent then return (c, f, acc)
          readPlainWords flow indent fuel c f acc
        else return (c, f, acc)

/-- Read a plain scalar.  The answer says whether a line was broken behind it. -/
def readPlain (flow : Bool) (indent : Int) (c : Cursor) : Option (Token × Bool × Cursor) := do
  let (c, f, acc) ← readPlainWords flow indent (c.rest.length + 1) c .none []
  return (.scalar .plain (String.ofList acc.reverse), f.broken, c)

/-! ## Quoted scalars -/

/-- The value of a hexadecimal digit. -/
def hexDigit? (c : Char) : Option Nat :=
  if '0' ≤ c && c ≤ '9' then some (c.toNat - 48)
  else if 'a' ≤ c && c ≤ 'f' then some (c.toNat - 87)
  else if 'A' ≤ c && c ≤ 'F' then some (c.toNat - 55)
  else none

/-- The number that hexadecimal digits write. -/
def hexValue? (ds : List Char) : Option Nat :=
  ds.foldlM (fun n d => (hexDigit? d).map fun v => n * 16 + v) 0

/-- The character that an escape by number names. -/
def numbered? (c : Cursor) (digits : Nat) : Option (Char × Cursor) := do
  let ds := c.rest.take digits
  if ds.length < digits then none
  let n ← hexValue? ds
  if (0xD800 ≤ n ∧ n ≤ 0xDFFF) ∨ 0x10FFFF < n then none
  return (Char.ofNat n, c.advance digits)

/-- The character that an escape names, and the position behind it. -/
def readEscape (c : Cursor) : Option (Char × Cursor) := do
  let e ← c.peek 1
  let next := c.advance 2
  let simple (n : Nat) : Option (Char × Cursor) := some (Char.ofNat n, next)
  match e with
  | '0' => simple 0
  | 'a' => simple 7
  | 'b' => simple 8
  | 't' => simple 9
  | '\t' => simple 9
  | 'n' => simple 10
  | 'v' => simple 11
  | 'f' => simple 12
  | 'r' => simple 13
  | 'e' => simple 0x1B
  | ' ' => simple 0x20
  | '/' => simple 0x2F
  | '\\' => simple 0x5C
  | 'N' => simple 0x85
  | '_' => simple 0xA0
  | 'L' => simple 0x2028
  | 'P' => simple 0x2029
  | 'x' => numbered? next 2
  | 'u' => numbered? next 4
  | 'U' => numbered? next 8
  | _ => if e.toNat = 0x22 then simple 0x22 else none

/-- The quotation mark of a style. -/
def quoteMark (single : Bool) : Char := if single then '\'' else Char.ofNat 0x22

/-- Read a word of a quoted scalar.  The answer says whether it ends with an escaped line break. -/
def readQuotedWord (single : Bool) : Nat → Cursor → List Char → Option (Cursor × Bool × List Char)
  | 0, c, acc => some (c, false, acc)
  | fuel + 1, c, acc =>
    match c.rest with
    | [] => some (c, false, acc)
    | x :: _ =>
      if isGap x || isBreak x then some (c, false, acc)
      else if single && x = '\'' && c.sees 1 '\'' then
        readQuotedWord single fuel (c.advance 2) ('\'' :: acc)
      else if x = quoteMark single then some (c, false, acc)
      else if !single && x = '\\' then
        if c.breaksAt 1 then some ((c.advance 1).nextLine, true, acc)
        else do
          let (y, c) ← readEscape c
          readQuotedWord single fuel c (y :: acc)
      else readQuotedWord single fuel (c.advance 1) (x :: acc)

/-- Read the words of a quoted scalar up to the closing mark. -/
def readQuotedWords (single : Bool) : Nat → Cursor → List Char → Option (Cursor × List Char)
  | 0, _, _ => none
  | fuel + 1, c, acc => do
    if c.isDocumentMarker || c.atEnd then none
    let (c, broken, acc) ← readQuotedWord single (c.rest.length + 1) c acc
    if c.sees 0 (quoteMark single) then return (c.advance 1, acc)
    let (c, f) ← readFold none (c.rest.length + 1) c (if broken then .escaped else .none)
    readQuotedWords single fuel c (f.text.reverse ++ acc)

/-- Read a quoted scalar. -/
def readQuoted (single : Bool) (c : Cursor) : Option (Token × Cursor) := do
  let (c, acc) ← readQuotedWords single (c.rest.length + 1) (c.advance 1) []
  return (.scalar .other (String.ofList acc.reverse), c)

/-! ## Block scalars -/

/-- What to do with the line breaks at the end of a block. -/
inductive Chomping where
  | strip
  | clip
  | keep
deriving DecidableEq

/-- The chomping that a sign asks for. -/
def chomping? (c : Cursor) : Option Chomping :=
  if c.sees 0 '+' then some .keep else if c.sees 0 '-' then some .strip else none

/-- The indentation that a digit asks for, or a failure if it is zero. -/
def increment? (c : Cursor) : Option (Option Nat) :=
  match c.peek 0 with
  | some d =>
    if '1' ≤ d && d ≤ '9' then some (some (d.toNat - 48))
    else if d = '0' then none
    else some none
  | none => some none

/-- The head of a block scalar: chomping and indentation, in either order. -/
def readBlockHead (c : Cursor) : Option (Chomping × Option Nat × Cursor) :=
  match chomping? c with
  | some ch => do
    let c := c.advance 1
    match ← increment? c with
    | some n => return (ch, some n, c.advance 1)
    | none => return (ch, none, c)
  | none => do
    match ← increment? c with
    | some n =>
      let c := c.advance 1
      match chomping? c with
      | some ch => return (ch, some n, c.advance 1)
      | none => return (.clip, some n, c)
    | none => return (.clip, none, c)

/-- Read indentation and empty lines before a line of a block.  Where the indentation is not known
yet, all spaces belong to it.  The answer holds the line breaks and the furthest column. -/
def readBlockBreaks (indent : Option Nat) : Nat → Cursor → Nat → List Char →
    Option (Cursor × Nat × List Char)
  | 0, c, most, acc => some (c, most, acc)
  | fuel + 1, c, most, acc =>
    let spaces := match indent with
      | none => (c.rest.takeWhile (· = ' ')).length
      | some n => ((c.rest.take (n - c.column)).takeWhile (· = ' ')).length
    let c := c.advance spaces
    let most := max most c.column
    let inside := match indent with
      | none => true
      | some n => decide (c.column < n)
    if inside && c.sees 0 '\t' then none
    else if c.breaksAt 0 then readBlockBreaks indent fuel c.nextLine most (acc ++ c.lineBreak)
    else some (c, most, acc)

/-- What is known of a block while its lines are read. -/
structure Block where
  text : List Char
  /-- The line break behind the last line. -/
  lead : List Char
  /-- The breaks of the empty lines behind that. -/
  trail : List Char
  /-- Whether the last line begins with a blank. -/
  blank : Bool

/-- The text with what stands between its last line and the next, which may begin with a blank. -/
def Block.joined (b : Block) (folded blank : Bool) : List Char :=
  if folded && b.lead = ['\n'] && !b.blank && !blank then
    b.text ++ (if b.trail.isEmpty then [' '] else b.trail)
  else b.text ++ b.lead ++ b.trail

/-- Read the lines of a block. -/
def readBlockLines (folded : Bool) (indent : Nat) : Nat → Cursor → Block → Option (Cursor × Block)
  | 0, c, b => some (c, b)
  | fuel + 1, c, b =>
    if c.column = indent && !c.atEnd then do
      let blank := match c.peek 0 with
        | some x => isGap x
        | none => false
      let joined := b.joined folded blank
      let (line, c) := c.span fun x => !isBreak x
      let lead := c.lineBreak
      let c := if c.atEnd then c else c.nextLine
      let (c, _, trail) ← readBlockBreaks (some indent) (c.rest.length + 1) c 0 []
      readBlockLines folded indent fuel c ⟨joined ++ line, lead, trail, blank⟩
    else some (c, b)

/-- Read a block scalar, whose surroundings are indented by `outer`, or by -1 at the top. -/
def readBlock (folded : Bool) (outer : Int) (c : Cursor) : Option (Token × Cursor) := do
  let (ch, inc, c) ← readBlockHead (c.advance 1)
  let c := (c.skipWhile isGap).skipComment
  if !(c.atEnd || c.breaksAt 0) then none
  let c := if c.atEnd then c else c.nextLine
  let base := (max outer 0).toNat
  let known := inc.map (base + ·)
  let (c, most, trail) ← readBlockBreaks known (c.rest.length + 1) c 0 []
  let indent := known.getD (max (max most (outer + 1).toNat) 1)
  let (c, b) ← readBlockLines folded indent (c.rest.length + 1) c ⟨[], [], trail, false⟩
  let tail := match ch with
    | .strip => []
    | .clip => b.lead
    | .keep => b.lead ++ b.trail
  return (.scalar (if folded then .other else .literal) (String.ofList (b.text ++ tail)), c)

end LifecycleGuard.Yaml
