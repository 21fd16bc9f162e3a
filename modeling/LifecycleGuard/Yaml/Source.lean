import LifecycleGuard.Decoding.Source
import LifecycleGuard.Json.Source
import LifecycleGuard.Yaml.Node.Grammar
import LifecycleGuard.Yaml.Scalar

/-!
# YAML documents as sources

What decoders find in a YAML document.  A text is any scalar, whatever it would mean otherwise.
Where a list, a map or a record is wanted, a scalar that is not written counts as empty.  One of
several alternatives is the text of a scalar, or a tag whose scalar stands for nothing.

Documents may nest containers 128 deep, aliases included.  While a document is read, aliases may
be followed a hundred times for each of its parts; a decoder that goes beyond that fails.  Parts
that are passed over do not count.
-/

namespace LifecycleGuard.Yaml

/-- What it takes to look at a document: it may fail, and it uses up a number of aliases that may
still be followed. -/
abbrev Walk : Type → Type := StateT Nat (Except ReadError)

/-- A node of a document, as a decoder sees it. -/
structure View where
  document : Document
  /-- How many more containers may be entered. -/
  room : Nat
  node : Node

/-- How many containers may enclose each other. -/
def nestingLimit : Nat := 128

/-- How many aliases may be followed while a document is read. -/
def aliasLimit (d : Document) : Nat := 100 * d.root.weight

/-- Something is not what was asked for. -/
def mismatch {α : Type} : Walk α := throw .mismatch

/-- What an option holds. -/
def given {α : Type} : Option α → Walk α
  | some x => return x
  | none => mismatch

/-- The node that a node stands for. -/
def follow (d : Document) : Node → Walk Node
  | .alias number => do
    match ← get with
    | 0 => mismatch
    | left + 1 =>
      set left
      given (d.anchors.node? number)
  | n => return n

/-- What a scalar stands for.  A core tag decides; otherwise only plain scalars stand for anything
but their text, and under a tag that is neither local nor known not even they do.  With a chosen
tag a scalar is an alternative, and stands for nothing else. -/
def scalarMeaning? (tag : Option Tag) (style : Style) (text : String) : Option Scalar.Meaning :=
  let usual := if style = .plain then Scalar.meaning text else .text
  match tag with
  | none => some usual
  | some t =>
    if t.chosen?.isSome then none
    else if t = Tag.core "bool" then (Scalar.flag? text).map .flag
    else if t = Tag.core "int" then
      ((Scalar.integer? text.toList).filter Scalar.isWide).map .integer
    else if t = Tag.core "float" then (Scalar.double? text).map .double
    else if t = Tag.core "null" then if Scalar.isNull text then some .null else none
    else if t.isLocal then some usual
    else some .text

/-- Whether a tag names an alternative. -/
def isChoice (tag : Option Tag) : Bool := (tag.bind Tag.chosen?).isSome

/-! ## Values of unknown shape -/

/-- The text of a scalar. -/
def textOf? : Node → Option String
  | .scalar _ _ text => some text
  | _ => none

/-- The JSON value of a scalar. -/
def scalarJson? (tag : Option Tag) (style : Style) (text : String) : Option Json := do
  match ← scalarMeaning? tag style text with
  | .null => return .null
  | .flag b => return .bool b
  | .integer i => Scalar.integerJson? i
  | .double x => return Scalar.doubleJson x
  | .text => return .string text

/-- The content of a scalar. -/
def scalarContent? (tag : Option Tag) (style : Style) (text : String) : Option Content := do
  match ← scalarMeaning? tag style text with
  | .text => return .text text
  | .integer i => (Scalar.integerJson? i).map fun _ => .other
  | _ => return .other

/-- The JSON value of a node. -/
def jsonOf (d : Document) : Nat → Node → Walk Json
  | room, n => do
    match ← follow d n with
    | .void => return .null
    | .scalar tag style text => given (scalarJson? tag style text)
    | .sequence tag items =>
      match room with
      | 0 => mismatch
      | room + 1 => if isChoice tag then mismatch else .array <$> items.mapM (jsonOf d room)
    | .mapping tag entries =>
      match room with
      | 0 => mismatch
      | room + 1 =>
        if isChoice tag then mismatch
        else Json.ofMembers <$> entries.mapM fun e => do
          let k ← given (textOf? (← follow d e.1))
          let j ← jsonOf d room e.2
          return (k, j)
    | .alias _ => mismatch

/-- The content of a node. -/
def contentOf (d : Document) : Nat → Node → Walk Content
  | room, n => do
    match ← follow d n with
    | .void => return .other
    | .scalar tag style text => given (scalarContent? tag style text)
    | .sequence tag items =>
      match room with
      | 0 => mismatch
      | room + 1 => if isChoice tag then mismatch else .list <$> items.mapM (contentOf d room)
    | .mapping tag entries =>
      match room with
      | 0 => mismatch
      | room + 1 =>
        if isChoice tag then mismatch
        else .map <$> entries.mapM fun e => do
          let k ← contentOf d room e.1
          let c ← contentOf d room e.2
          return (k, c)
    | .alias _ => mismatch

/-! ## Views -/

namespace View

/-- The node that is meant. -/
def target (v : View) : Walk Node := follow v.document v.node

/-- The view of a part of this node. -/
def inner (v : View) (n : Node) : View := { v with room := v.room - 1, node := n }

/-- Whether a node counts as an empty container. -/
def isHollow : Node → Bool
  | .void => true
  | .scalar _ .plain "" => true
  | _ => false

/-- A text. -/
def text (v : View) : Walk String := do given (textOf? (← v.target))

/-- The text of a scalar that may stand for something else than its text. -/
def barText (name : String) (v : View) : Walk String := do
  match ← v.target with
  | .scalar tag style text =>
    if style = .plain || (style = .literal && tag = some (Tag.core name)) then return text
    else mismatch
  | _ => mismatch

/-- A truth value. -/
def flag (v : View) : Walk Bool := do given (Scalar.flag? (← v.barText "bool"))

/-- A signed whole number. -/
def integer (v : View) : Walk Int64 := do
  let n ← given (Scalar.integer? (← v.barText "int").toList)
  if -9223372036854775808 ≤ n ∧ n < 9223372036854775808 then return Int64.ofInt n
  else mismatch

/-- Nothing, or something. -/
def optional (v : View) : Walk (Option View) := do
  let n ← v.target
  let there := some { v with node := n }
  match n with
  | .void => return none
  | .scalar tag .plain text =>
    match tag with
    | some t =>
      if t = Tag.core "null" then if Scalar.isNull text then return none else mismatch
      else return there
    | none => return if text = "" || Scalar.isNull text then none else there
  | _ => return there

/-- The items of a list. -/
def items (v : View) : Walk (Listing View) := do
  let n ← v.target
  if isHollow n then return ⟨[], none⟩
  match n with
  | .sequence _ ns => if v.room = 0 then mismatch else return ⟨ns.map v.inner, none⟩
  | _ => mismatch

/-- The members of a map. -/
def members (v : View) : Walk (Listing (View × View)) := do
  let n ← v.target
  if isHollow n then return ⟨[], none⟩
  match n with
  | .mapping _ es =>
    if v.room = 0 then mismatch else return ⟨es.map fun e => (v.inner e.1, v.inner e.2), none⟩
  | _ => mismatch

/-- Whether a scalar behind a tag stands for nothing. -/
def isUnit (style : Style) (text : String) : Bool :=
  style = .plain && (text = "" || Scalar.isNull text)

/-- One of several alternatives. -/
def choice (v : View) : Walk (String × Walk Unit) := do
  match ← v.target with
  | .scalar tag style text =>
    match tag.bind Tag.chosen? with
    | some t => return (t, if isUnit style text then return () else mismatch)
    | none => return (text, return ())
  | _ => mismatch

end View

instance : Source View Walk where
  text := View.text
  flag := View.flag
  integer := View.integer
  optional := View.optional
  items := View.items
  members := View.members
  name := View.text
  fields v := Fields.byName <$> v.members
  choice := View.choice
  json v := jsonOf v.document v.room v.node
  content v := contentOf v.document v.room v.node
  skip _ := return ()

/-- Read a text with a decoder. -/
def decode {α : Type} (decoder : View → Walk α) (text : String) : Except ReadError α :=
  match Document.ofChars? text.toList with
  | some d => (decoder ⟨d, nestingLimit, d.root⟩).run' (aliasLimit d)
  | none => .error .malformed

end LifecycleGuard.Yaml
