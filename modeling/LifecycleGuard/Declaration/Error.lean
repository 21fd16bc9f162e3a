import LifecycleGuard.Action
import LifecycleGuard.Decoding.Error
import LifecycleGuard.Files.Error

/-!
# What is wrong with a declaration

A declaration is refused for one of the causes of `DeclarationError`; `message` is the only place
where a cause becomes words.  An error found while a whole document is checked is wrapped in
`inEntity`, which names the entity type and repeats the inner message in full.

Loading a document can also fail before any declaration is looked at, because the file cannot be
read or because its text is not a document; `LoadError` adds these two.
-/

namespace LifecycleGuard

/-- Why a declaration is refused. -/
inductive DeclarationError where
  /-- A mapping stands before the last token. -/
  | misplacedMapping
  /-- A word under `actions` names no action. -/
  | unknownAction (token : String)
  /-- A key of a mapping is neither a word of the language nor an association action. -/
  | unknownKey (key : String)
  /-- Nothing is declared. -/
  | emptyRule
  /-- Both `only` and `except` are given. -/
  | conflictingFilter
  /-- The schema does not list these attributes. -/
  | unknownAttributes (names : List String)
  /-- A grant carries a change filter. -/
  | filteredGrant
  /-- A grant of a document carries a change filter. -/
  | filteredGrantOf (predicate : String)
  /-- An attribute grant names an action or a relation. -/
  | attributeGrantScope
  /-- An attribute grant names no attribute. -/
  | attributeGrantEmpty
  /-- An audit declaration names an attribute or a relation. -/
  | auditScope
  /-- An audit declaration names no action. -/
  | auditEmpty
  /-- An audit declaration of a document names no action. -/
  | auditWithoutActions
  /-- A word of an audit declaration of a document names no action. -/
  | unknownAuditAction (token : String)
  /-- Nobody supplied a predicate of this name. -/
  | unknownPredicate (type predicate : String)
  /-- What is wrong in the declarations of one entity type. -/
  | inEntity (type : String) (inner : DeclarationError)
deriving DecidableEq

namespace DeclarationError

/-- What stands before the description of every declaration error. -/
def heading : String := "Configuration error: "

/-- What is wrong, without the heading. -/
def description : DeclarationError → String
  | misplacedMapping => "only the last declaration token may be a mapping"
  | unknownAction token => Symbol.normalize token ++ " is not a valid action; :create, :find, " ++
      ":update, and :destroy are the only valid actions"
  | unknownKey key => AssociationAction.unknownMessage key
  | emptyRule => "at least one :create, :find, :update, or :destroy action, attribute, or " ++
      "association must be specified"
  | conflictingFilter => "only one of :except or :only may be specified"
  | unknownAttributes names => "unknown attribute(s): " ++ String.intercalate ", " names
  | filteredGrant => ":only and :except apply to audit declarations, not grants"
  | filteredGrantOf predicate => "grant '" ++ predicate ++
      "': :only and :except apply to audit declarations, not grants"
  | attributeGrantScope => "attribute grants may only name attributes"
  | attributeGrantEmpty => "at least one attribute must be specified"
  | auditScope => "audit declarations may only name :create, :find, :update, or :destroy"
  | auditEmpty => "at least one :create, :find, :update, or :destroy action must be specified"
  | auditWithoutActions => "an audit declaration needs at least one action"
  | unknownAuditAction token => Action.unknownMessage token
  | unknownPredicate type predicate => "entity '" ++ type ++ "': unknown predicate '" ++
      predicate ++ "'"
  | inEntity type inner => "entity '" ++ type ++ "': " ++ (heading ++ inner.description)

/-- What is wrong. -/
def message (e : DeclarationError) : String := heading ++ e.description

end DeclarationError

/-- Why a declaration document cannot be loaded. -/
inductive LoadError where
  | declaration (error : DeclarationError)
  | file (error : FileError)
  /-- The text is not a document of declarations. -/
  | notDocument
deriving DecidableEq

end LifecycleGuard
