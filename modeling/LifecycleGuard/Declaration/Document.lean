import LifecycleGuard.Declaration.Entity

/-!
# Declaration documents

A whole document: how auditing is set up, and the declarations of each entity type.  Everything
has a default, so the empty document declares nothing and audits to the console.
-/

namespace LifecycleGuard

/-- The kinds of store that a document can ask for. -/
inductive StoreKind where
  | console
  | file
  | memory
  | null
deriving DecidableEq

namespace StoreKind

/-- All kinds. -/
def all : List StoreKind := [console, file, memory, null]

/-- The name of a kind. -/
def name : StoreKind → String
  | console => "console"
  | file => "file"
  | memory => "memory"
  | null => "none"

/-- The kind with exactly this name. -/
def ofName? (s : String) : Option StoreKind := all.find? fun k => k.name = s

end StoreKind

/-- Which store is asked for. -/
structure StorageSettings where
  kind : StoreKind
  /-- The path of a file store. -/
  path : Option String
deriving DecidableEq

/-- How auditing is set up. -/
structure AuditSettings where
  enabled : Bool
  storage : StorageSettings
deriving DecidableEq

/-- A whole document. -/
structure Declarations where
  audit : AuditSettings
  entities : SortedMap String EntityDeclaration
deriving DecidableEq

namespace StorageSettings

/-- The console. -/
def standard : StorageSettings := ⟨.console, none⟩

/-- The path of a file store that does not say where. -/
def standardPath : String := "audit.log"

/-- The written form. -/
def toJson (s : StorageSettings) : Json :=
  .object [("backend", .string s.kind.name),
    ("file_path", match s.path with
      | some p => .string p
      | none => .null)]

variable {σ : Type} {m : Type → Type} [Monad m] [MonadExcept ReadError m] [Source σ m]

/-- Read one field into its place. -/
def step (d : Option StoreKind × Option (Option String)) (name : String) (s : σ) :
    m (Option StoreKind × Option (Option String)) := do
  match name with
  | "backend" =>
    return (← Decoding.Slot.fill (Decoding.readChoice StoreKind.ofName?) d.1 s, d.2)
  | "file_path" =>
    return (d.1, ← Decoding.Slot.fill (Decoding.readOptional Source.text) d.2 s)
  | _ => Source.skip s; return d

/-- Read which store is asked for. -/
def read (s : σ) : m StorageSettings := do
  let d ← Decoding.readRecord ["backend", "file_path"] step (none, none) s
  return ⟨d.1.getD .console, d.2.getD none⟩

end StorageSettings

namespace AuditSettings

/-- Auditing to the console. -/
def standard : AuditSettings := ⟨true, .standard⟩

/-- The written form. -/
def toJson (a : AuditSettings) : Json :=
  .object [("enabled", .bool a.enabled), ("storage", a.storage.toJson)]

variable {σ : Type} {m : Type → Type} [Monad m] [MonadExcept ReadError m] [Source σ m]

/-- Read one field into its place. -/
def step (d : Option Bool × Option StorageSettings) (name : String) (s : σ) :
    m (Option Bool × Option StorageSettings) := do
  match name with
  | "enabled" => return (← Decoding.Slot.fill Source.flag d.1 s, d.2)
  | "storage" => return (d.1, ← Decoding.Slot.fill StorageSettings.read d.2 s)
  | _ => Source.skip s; return d

/-- Read how auditing is set up. -/
def read (s : σ) : m AuditSettings := do
  let d ← Decoding.readRecord ["enabled", "storage"] step (none, none) s
  return ⟨d.1.getD true, d.2.getD .standard⟩

end AuditSettings

namespace Declarations

/-- The document that declares nothing. -/
def empty : Declarations := ⟨.standard, .empty⟩

/-- The declarations of an entity type. -/
def entity? (d : Declarations) (type : String) : Option EntityDeclaration := d.entities.get? type

/-- Check the declarations of the listed entity types, one after the other. -/
def validateAll : List (String × EntityDeclaration) → Except DeclarationError Unit
  | [] => .ok ()
  | (type, d) :: rest => do
    d.validate type
    validateAll rest

/-- Check the declarations of every entity type, in the order of the names. -/
def validate (d : Declarations) : Except DeclarationError Unit := validateAll d.entities.entries

/-- The written form. -/
def toJson (d : Declarations) : Json :=
  .object [("audit", d.audit.toJson),
    ("entities", .object (d.entities.entries.map fun e => (e.1, e.2.toJson)))]

variable {σ : Type} {m : Type → Type} [Monad m] [MonadExcept ReadError m] [Source σ m]

/-- A document that is being read. -/
abbrev Draft : Type := Option AuditSettings × Option (SortedMap String EntityDeclaration)

/-- Read the declarations of each entity type; of two for one type the later counts. -/
def readEntities (s : σ) : m (SortedMap String EntityDeclaration) :=
  SortedMap.ofList <$> Decoding.readMembers EntityDeclaration.read s

/-- Read one field into its place. -/
def step (d : Draft) (name : String) (s : σ) : m Draft := do
  match name with
  | "audit" => return (← Decoding.Slot.fill AuditSettings.read d.1 s, d.2)
  | "entities" => return (d.1, ← Decoding.Slot.fill readEntities d.2 s)
  | _ => Source.skip s; return d

/-- Read a document. -/
def read (s : σ) : m Declarations := do
  let d ← Decoding.readRecord ["audit", "entities"] step (none, none) s
  return ⟨d.1.getD .standard, d.2.getD .empty⟩

end Declarations

end LifecycleGuard
