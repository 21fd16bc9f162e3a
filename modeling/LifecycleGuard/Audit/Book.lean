import LifecycleGuard.Declaration.Spec
import LifecycleGuard.Text.Escaped
import LifecycleGuard.Work.Noted

/-!
# Audit books

What is captured for which action of one entity type.  Declarations are kept in the order in
which they were made; for an action the last one counts.  What a message rule is, is left to the
host.
-/

namespace LifecycleGuard

/-- What to capture for an action. -/
structure AuditDeclaration (μ : Type) where
  action : Action
  filter : ChangeFilter
  message : Option μ

namespace AuditDeclaration

variable {μ : Type}

/-- A set of names as it is shown to a developer. -/
def debugNames (names : SortedSet String) : String :=
  "\x7b" ++ String.intercalate ", " (names.toList.map Text.quoted) ++ "\x7d"

/-- How a declaration is shown to a developer. -/
def debugText (d : AuditDeclaration μ) : String :=
  "AuditDeclaration \x7b action: " ++ d.action.name.capitalize ++
    ", filter: ChangeFilter \x7b only: " ++ debugNames d.filter.only ++ ", except: " ++
    debugNames d.filter.except ++ " \x7d, message: " ++
    (if d.message.isSome then "true" else "false") ++ " \x7d"

end AuditDeclaration

/-- The audit declarations of one entity type. -/
structure AuditBook (μ : Type) where
  declarations : List (AuditDeclaration μ)

namespace AuditBook

variable {μ : Type}

/-- A book without declarations. -/
def blank : AuditBook μ := ⟨[]⟩

/-- The declaration that counts for an action. -/
def declaration? (b : AuditBook μ) (a : Action) : Option (AuditDeclaration μ) :=
  (b.declarations.filter fun d => d.action = a).getLast?

/-- Whether an action is captured. -/
def declares (b : AuditBook μ) (a : Action) : Bool := (b.declaration? a).isSome

/-- Declare what to capture for one action. -/
def register (type : String) (d : AuditDeclaration μ) (b : AuditBook μ) :
    Noted DeclarationError (AuditBook μ) :=
  match d.filter.validate with
  | .error e => .ofExcept (.error e)
  | .ok () =>
    ⟨if b.declares d.action then [.replacedDeclaration type d.action] else [],
      .ok ⟨b.declarations ++ [d]⟩⟩

/-- Declare several in a row. -/
def registerAll (type : String) : List (AuditDeclaration μ) → AuditBook μ →
    Noted DeclarationError (AuditBook μ)
  | [], b => pure b
  | d :: rest, b => do registerAll type rest (← b.register type d)

/-- Declare every action that a specification names. -/
def auditOn (type : String) (s : RuleSpec) (message : Option μ) (b : AuditBook μ) :
    Noted DeclarationError (AuditBook μ) :=
  if !s.attributes.isEmpty || s.namesRelation then .ofExcept (.error .auditScope)
  else if s.actions.isEmpty then .ofExcept (.error .auditEmpty)
  else b.registerAll type (s.actions.toList.map fun a => ⟨a, s.filter, message⟩)

end AuditBook

end LifecycleGuard
