import LifecycleGuard.Declaration.Error
import LifecycleGuard.Entity

/-!
# Change filters

Which pending changes of an entity are written into an audit entry.  A filter lists the
attributes to keep, or the attributes to leave out; an empty list does not restrict.  A valid
filter uses at most one of the two lists, but `apply` is defined for every filter: an attribute
passes when it is not left out and, if there is a list to keep, stands in it.
-/

namespace LifecycleGuard

/-- Restricts change-sets to some attributes. -/
structure ChangeFilter where
  only : SortedSet String
  except : SortedSet String
deriving DecidableEq

namespace ChangeFilter

/-- The filter that lets everything through. -/
def all : ChangeFilter := ⟨.empty, .empty⟩

/-- Whether the filter restricts nothing. -/
def isEmpty (f : ChangeFilter) : Bool := f.only.isEmpty && f.except.isEmpty

/-- Whether both lists are used. -/
def conflicting (f : ChangeFilter) : Bool := !f.only.isEmpty && !f.except.isEmpty

/-- Refuse a filter that uses both lists. -/
def validate (f : ChangeFilter) : Except DeclarationError Unit :=
  if f.conflicting then .error .conflictingFilter else .ok ()

/-- Whether changes of an attribute pass. -/
def lets (f : ChangeFilter) (name : String) : Bool :=
  !SortedSet.mem f.except name && (f.only.isEmpty || SortedSet.mem f.only name)

/-- The changes that pass. -/
def apply (f : ChangeFilter) (changes : ChangeSet) : ChangeSet := changes.filterKeys f.lets

/-- A list of names as an array. -/
def namesJson (names : SortedSet String) : Json := .array (names.toList.map .string)

/-- The written form; an empty list is left out. -/
def toJson (f : ChangeFilter) : Json :=
  .object ((if f.only.isEmpty then [] else [("only", namesJson f.only)])
    ++ (if f.except.isEmpty then [] else [("except", namesJson f.except)]))

variable {σ : Type} {m : Type → Type} [Monad m] [MonadExcept ReadError m] [Source σ m]

/-- Read a set of names. -/
def readNames (s : σ) : m (SortedSet String) :=
  SortedSet.ofList <$> Decoding.readList Source.text s

/-- Read one field into its place. -/
def step (d : Option (SortedSet String) × Option (SortedSet String)) (name : String) (s : σ) :
    m (Option (SortedSet String) × Option (SortedSet String)) := do
  match name with
  | "only" => return (← Decoding.Slot.fill readNames d.1 s, d.2)
  | "except" => return (d.1, ← Decoding.Slot.fill readNames d.2 s)
  | _ => Source.skip s; return d

/-- Read a filter; a list that is missing is empty. -/
def read (s : σ) : m ChangeFilter := do
  let d ← Decoding.readRecord ["only", "except"] step (none, none) s
  return ⟨d.1.getD .empty, d.2.getD .empty⟩

end ChangeFilter

end LifecycleGuard
