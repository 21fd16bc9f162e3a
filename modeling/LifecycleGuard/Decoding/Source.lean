import LifecycleGuard.Decoding.Error
import LifecycleGuard.Json.Value

/-!
# What a decoder asks of a document

Declarations and audit entries are written in two formats.  A decoder does not depend on the
format: it asks a `Source` for a text, a flag, the items of a list, and so on, and each format
says in its instance of the class what it accepts as such.

Lists are handed out with the error at their end, if there is one, instead of failing at once.
A decoder that works through a list from front to back then reports the first thing that is
wrong in the order of the document.

Decoders work in any monad with read errors, and each format chooses its own.

**Records** are handled by `readRecord`.  A decoder for a record keeps a draft with a place for
each field, `Slot.fill` reads a field into its place and refuses a second value for it, and fields
that nobody knows are passed over.  A format may also offer a record as a list of field values in
the order of the declaration.
-/

namespace LifecycleGuard

/-- A list in a document, with the error that ends it, if one does. -/
structure Listing (α : Type) where
  parts : List α
  close : Option ReadError

/-- The two ways to write down a record. -/
inductive Fields (σ : Type) where
  | byName (members : Listing (σ × σ))
  | byPosition (values : Listing σ)

/-- A value read without being told what to expect, as far as texts, lists and maps go. -/
inductive Content where
  | text (value : String)
  | list (items : List Content)
  | map (members : List (Content × Content))
  | other

/-- A document format, as seen by a decoder.  Besides failing, asking may have the effects of the
monad `m`, such as to keep count of what has been looked at. -/
class Source (σ : Type) (m : outParam (Type → Type)) where
  /-- A text. -/
  text : σ → m String
  /-- A truth value. -/
  flag : σ → m Bool
  /-- A signed whole number of sixty-four bits. -/
  integer : σ → m Int64
  /-- Nothing, or something that is still to be read. -/
  optional : σ → m (Option σ)
  /-- The items of a list. -/
  items : σ → m (Listing σ)
  /-- The members of a map. -/
  members : σ → m (Listing (σ × σ))
  /-- The name of a member of a map or of a record. -/
  name : σ → m String
  /-- The fields of a record. -/
  fields : σ → m (Fields σ)
  /-- The name of one of several alternatives, and what is wrong after the name. -/
  choice : σ → m (String × m Unit)
  /-- Any JSON value. -/
  json : σ → m Json
  /-- Any value, to be looked at later. -/
  content : σ → m Content
  /-- Anything, without looking at it. -/
  skip : σ → m Unit

namespace Decoding

variable {σ α β δ : Type} {m : Type → Type} [Monad m] [MonadExcept ReadError m] [Source σ m]

/-- The error at the end of a list, if there is one. -/
def finish : Option ReadError → m Unit
  | none => return
  | some e => throw e

/-- Every item of a list. -/
def readList (item : σ → m α) (s : σ) : m (List α) := do
  let l ← Source.items s
  let xs ← l.parts.mapM item
  finish l.close
  return xs

/-- Every entry of a map, in the order of the document. -/
def readEntries (key : σ → m α) (value : σ → m β) (s : σ) : m (List (α × β)) := do
  let l ← Source.members s
  let xs ← l.parts.mapM fun e => do
    let k ← key e.1
    let x ← value e.2
    return (k, x)
  finish l.close
  return xs

/-- Every member of a map with names, in the order of the document. -/
def readMembers (value : σ → m α) : σ → m (List (String × α)) := readEntries Source.name value

/-- Nothing, or a value. -/
def readOptional (value : σ → m α) (s : σ) : m (Option α) := do
  match ← Source.optional s with
  | none => return none
  | some s => some <$> value s

/-- One of several alternatives. -/
def readChoice (known : String → Option α) (s : σ) : m α := do
  let (name, rest) ← Source.choice s
  match known name with
  | none => throw .mismatch
  | some x => do rest; return x

/-- The value of a field that has none yet. -/
def Slot.fill (value : σ → m α) (slot : Option α) (s : σ) : m (Option α) :=
  if slot.isSome then throw .mismatch else some <$> value s

/-- The value of a field that must be there. -/
def Slot.required (slot : Option α) : m α :=
  match slot with
  | some x => return x
  | none => throw .mismatch

/-- Give each known name the value in its position.  Too few values leave places empty; too many
are not a record. -/
def fillPositions (step : δ → String → σ → m δ) (close : Option ReadError) :
    List String → List σ → δ → m δ
  | [], [], d => do finish close; return d
  | [], _ :: _, _ => throw .malformed
  | _ :: _, [], d => do finish close; return d
  | name :: names, s :: rest, d => do fillPositions step close names rest (← step d name s)

/-- The draft of a record: `step` reads the field of a given name into its place. -/
def readRecord (names : List String) (step : δ → String → σ → m δ) (start : δ) (s : σ) : m δ := do
  match ← Source.fields s with
  | .byName l =>
    let d ← l.parts.foldlM (fun d e => do step d (← Source.name e.1) e.2) start
    finish l.close
    return d
  | .byPosition l => fillPositions step l.close names l.parts start

end Decoding

end LifecycleGuard
