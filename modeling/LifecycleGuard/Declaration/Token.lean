import LifecycleGuard.Action
import LifecycleGuard.Collections.SortedMap
import LifecycleGuard.Decoding.Source

/-!
# Declaration tokens

A rule is declared by a list of tokens.  A token is a symbol, which names an action or an
attribute, or a mapping from keys to names.  Under a key there is one name or a list of names,
and the two are kept apart: `title` and `[title]` are different declarations that happen to mean
the same.

Tokens are recognized by their shape alone, so a document is first read as `Content`.
-/

namespace LifecycleGuard

/-- A single name or a list of names. -/
inductive NameList where
  | one (name : String)
  | many (names : List String)
deriving DecidableEq

namespace NameList

/-- The names, in order. -/
def names : NameList → List String
  | one name => [name]
  | many names => names

/-- The written form. -/
def toJson : NameList → Json
  | one name => .string name
  | many names => .array (names.map .string)

/-- The text of some content, if it is a text. -/
def text? : Content → Option String
  | .text s => some s
  | _ => none

/-- The names that some content holds. -/
def ofContent? : Content → Option NameList
  | .text s => some (.one s)
  | .list items => many <$> items.mapM text?
  | _ => none

/-- Read a name or a list of names. -/
def read {σ : Type} {m : Type → Type} [Monad m] [MonadExcept ReadError m]
    [Source σ m] (s : σ) : m NameList := do
  match ofContent? (← Source.content s) with
  | some n => return n
  | none => throw .mismatch

end NameList

/-- One token of a rule declaration. -/
inductive RuleToken where
  | symbol (name : String)
  | mapping (members : SortedMap String NameList)
deriving DecidableEq

namespace RuleToken

/-- The token that names an action. -/
def ofAction (a : Action) : RuleToken := .symbol a.name

/-- The written form. -/
def toJson : RuleToken → Json
  | symbol name => .string name
  | mapping members => .object (members.entries.map fun m => (m.1, m.2.toJson))

/-- The key and the names that one member of a mapping holds. -/
def member? (m : Content × Content) : Option (String × NameList) := do
  let key ← NameList.text? m.1
  let names ← NameList.ofContent? m.2
  return (key, names)

/-- The token that some content is. -/
def ofContent? : Content → Option RuleToken
  | .text s => some (.symbol s)
  | .map members => (fun ms => .mapping (SortedMap.ofList ms)) <$> members.mapM member?
  | _ => none

variable {σ : Type} {m : Type → Type} [Monad m] [MonadExcept ReadError m] [Source σ m]

/-- Read a token. -/
def read (s : σ) : m RuleToken := do
  match ofContent? (← Source.content s) with
  | some t => return t
  | none => throw .mismatch

/-- Read a list of tokens. -/
def readList (s : σ) : m (List RuleToken) := Decoding.readList read s

/-- The written form of a list of tokens. -/
def listJson (tokens : List RuleToken) : Json := .array (tokens.map toJson)

end RuleToken

end LifecycleGuard
