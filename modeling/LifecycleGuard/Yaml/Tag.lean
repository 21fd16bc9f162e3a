/-!
# Tags

A tag says what kind of value a node is.  Its characters may be escaped byte by byte, and nothing
keeps an author from escaping bytes that are not a character; where that happens the tag has a
hole.  A tag ends at its first NUL.

Three kinds of tags matter.  The *core tags* name the kinds of scalars that every document knows.
A *chosen tag* is an author's own: it begins with an exclamation mark, and what follows the mark
names one of several alternatives.  Every other tag, and one that has holes, names nothing.
-/

namespace LifecycleGuard.Yaml

/-- A tag; a hole stands for bytes that are no character. -/
structure Tag where
  chars : List (Option Char)
deriving DecidableEq

namespace Tag

/-- The tag without holes that a text writes. -/
def ofString (s : String) : Tag := ⟨s.toList.map some⟩

/-- The tag that characters and holes write, up to the first NUL. -/
def ofChars (cs : List (Option Char)) : Tag := ⟨cs.takeWhile (· ≠ some (Char.ofNat 0))⟩

/-- One tag behind another. -/
def append (t u : Tag) : Tag := ⟨t.chars ++ u.chars⟩

/-- The tag that is nothing but the mark. -/
def bare : Tag := ofString "!"

/-- What every core tag begins with. -/
def coreBase : Tag := ofString "tag:yaml.org,2002:"

/-- The core tag of a name. -/
def core (name : String) : Tag := coreBase.append (ofString name)

/-- Whether the tag begins with an exclamation mark. -/
def isLocal (t : Tag) : Bool := t.chars.head? = some (some '!')

/-- The text of a tag without holes. -/
def text? (t : Tag) : Option String := (t.chars.mapM id).map String.ofList

/-- The name of the alternative that a chosen tag names.  The bare mark names itself. -/
def chosen? (t : Tag) : Option String := do
  if !t.isLocal then none
  let s ← t.text?
  match s.toList with
  | _ :: c :: rest => return String.ofList (c :: rest)
  | _ => return s

end Tag

end LifecycleGuard.Yaml
