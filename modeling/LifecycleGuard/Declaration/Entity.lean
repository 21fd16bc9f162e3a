import LifecycleGuard.Declaration.Grammar

/-!
# Declarations of one entity type

What a document declares for an entity type: its attribute names, grants, grants of attributes,
and what is audited.  Each grant names the predicate that decides; audits may carry a template
for the message.

`validate` checks everything that can be checked without knowing the predicates, and reports the
first error with the name of the entity type.  The names in an audit clause are used as they are
written, unlike the names in a rule.
-/

namespace LifecycleGuard

/-- A rule with the name of its predicate. -/
structure GrantDeclaration where
  rule : List RuleToken
  predicate : String
deriving DecidableEq

/-- What is captured for some actions. -/
structure AuditClause where
  actions : List String
  only : List String
  except : List String
  template : Option String
deriving DecidableEq

/-- The declarations of one entity type. -/
structure EntityDeclaration where
  attributes : Option (List String)
  grants : List GrantDeclaration
  attributeGrants : List GrantDeclaration
  attributeSecurity : Bool
  audits : List AuditClause
deriving DecidableEq

namespace AuditClause

/-- The actions that words name. -/
def parseActions : List String → Except DeclarationError (List Action)
  | [] => .ok []
  | word :: rest =>
    match Action.parse? word with
    | none => .error (.unknownAuditAction word)
    | some a => (parseActions rest).map (a :: ·)

/-- The change filter. -/
def filter (c : AuditClause) : ChangeFilter :=
  ⟨SortedSet.ofList c.only, SortedSet.ofList c.except⟩

/-- The actions and the filter of a clause. -/
def parse (c : AuditClause) : Except DeclarationError (List Action × ChangeFilter) := do
  if c.actions.isEmpty then .error .auditWithoutActions
  let actions ← parseActions c.actions
  c.filter.validate
  return (actions, c.filter)

end AuditClause

namespace EntityDeclaration

/-- The declaration that declares nothing. -/
def empty : EntityDeclaration := ⟨none, [], [], false, []⟩

/-- The schema, if attribute names are declared. -/
def schema (d : EntityDeclaration) : Option Schema := d.attributes.map Schema.mk

/-- The rule of a grant, which must not carry a change filter. -/
def parseRule (d : EntityDeclaration) (g : GrantDeclaration) :
    Except DeclarationError RuleSpec := do
  let s ← RuleSpec.ofTokens d.schema g.rule
  if s.filter.isEmpty then return s else .error (.filteredGrantOf g.predicate)

/-- Check every item of a list. -/
def checkAll {α β : Type} (parse : α → Except DeclarationError β) :
    List α → Except DeclarationError Unit
  | [] => .ok ()
  | x :: rest => do
    discard (parse x)
    checkAll parse rest

/-- Check every grant and every audit clause. -/
def check (d : EntityDeclaration) : Except DeclarationError Unit := do
  checkAll d.parseRule (d.grants ++ d.attributeGrants)
  checkAll AuditClause.parse d.audits

/-- Check a declaration and name the entity type in the error. -/
def validate (type : String) (d : EntityDeclaration) : Except DeclarationError Unit :=
  d.check.mapError (.inEntity type)

end EntityDeclaration

/-! ## Written form -/

/-- The written form of a list of texts. -/
def Json.texts (l : List String) : Json := .array (l.map .string)

namespace GrantDeclaration

/-- The written form. -/
def toJson (g : GrantDeclaration) : Json :=
  .object [("rule", RuleToken.listJson g.rule), ("when", .string g.predicate)]

variable {σ : Type} {m : Type → Type} [Monad m] [MonadExcept ReadError m] [Source σ m]

/-- Read one field into its place. -/
def step (d : Option (List RuleToken) × Option String) (name : String) (s : σ) :
    m (Option (List RuleToken) × Option String) := do
  match name with
  | "rule" => return (← Decoding.Slot.fill RuleToken.readList d.1 s, d.2)
  | "when" => return (d.1, ← Decoding.Slot.fill Source.text d.2 s)
  | _ => Source.skip s; return d

/-- Read a grant. -/
def read (s : σ) : m GrantDeclaration := do
  let d ← Decoding.readRecord ["rule", "when"] step (none, none) s
  return ⟨← Decoding.Slot.required d.1, ← Decoding.Slot.required d.2⟩

end GrantDeclaration

namespace AuditClause

/-- The written form; empty lists and a missing template are left out. -/
def toJson (c : AuditClause) : Json :=
  .object ([("actions", Json.texts c.actions)]
    ++ (if c.only.isEmpty then [] else [("only", Json.texts c.only)])
    ++ (if c.except.isEmpty then [] else [("except", Json.texts c.except)])
    ++ (match c.template with
      | some t => [("message", .string t)]
      | none => []))

/-- A clause that is being read. -/
structure Draft where
  actions : Option (List String)
  only : Option (List String)
  except : Option (List String)
  template : Option (Option String)

variable {σ : Type} {m : Type → Type} [Monad m] [MonadExcept ReadError m] [Source σ m]

/-- Read a list of texts. -/
def readTexts (s : σ) : m (List String) := Decoding.readList Source.text s

/-- Read one field into its place. -/
def Draft.step (d : Draft) (name : String) (s : σ) : m Draft := do
  match name with
  | "actions" => return { d with actions := ← Decoding.Slot.fill readTexts d.actions s }
  | "only" => return { d with only := ← Decoding.Slot.fill readTexts d.only s }
  | "except" => return { d with except := ← Decoding.Slot.fill readTexts d.except s }
  | "message" =>
    return { d with template :=
      ← Decoding.Slot.fill (Decoding.readOptional Source.text) d.template s }
  | _ => Source.skip s; return d

/-- Read a clause; only the actions must be there. -/
def read (s : σ) : m AuditClause := do
  let d ← Decoding.readRecord ["actions", "only", "except", "message"] Draft.step
    ⟨none, none, none, none⟩ s
  return {
    actions := ← Decoding.Slot.required d.actions
    only := d.only.getD []
    except := d.except.getD []
    template := d.template.getD none }

end AuditClause

namespace EntityDeclaration

/-- The written form; missing attribute names are left out. -/
def toJson (d : EntityDeclaration) : Json :=
  .object ((match d.attributes with
      | some names => [("attributes", Json.texts names)]
      | none => [])
    ++ [("grants", .array (d.grants.map GrantDeclaration.toJson)),
      ("attribute_grants", .array (d.attributeGrants.map GrantDeclaration.toJson)),
      ("attribute_security", .bool d.attributeSecurity),
      ("audits", .array (d.audits.map AuditClause.toJson))])

/-- A declaration that is being read. -/
structure Draft where
  attributes : Option (Option (List String))
  grants : Option (List GrantDeclaration)
  attributeGrants : Option (List GrantDeclaration)
  attributeSecurity : Option Bool
  audits : Option (List AuditClause)

/-- The names of the fields. -/
def fieldNames : List String :=
  ["attributes", "grants", "attribute_grants", "attribute_security", "audits"]

variable {σ : Type} {m : Type → Type} [Monad m] [MonadExcept ReadError m] [Source σ m]

/-- Read a list of grants. -/
def readGrants (s : σ) : m (List GrantDeclaration) :=
  Decoding.readList GrantDeclaration.read s

/-- Read one field into its place. -/
def Draft.step (d : Draft) (name : String) (s : σ) : m Draft := do
  match name with
  | "attributes" =>
    return { d with attributes :=
      ← Decoding.Slot.fill (Decoding.readOptional AuditClause.readTexts) d.attributes s }
  | "grants" => return { d with grants := ← Decoding.Slot.fill readGrants d.grants s }
  | "attribute_grants" =>
    return { d with attributeGrants := ← Decoding.Slot.fill readGrants d.attributeGrants s }
  | "attribute_security" =>
    return { d with attributeSecurity := ← Decoding.Slot.fill Source.flag d.attributeSecurity s }
  | "audits" =>
    return { d with audits :=
      ← Decoding.Slot.fill (Decoding.readList AuditClause.read) d.audits s }
  | _ => Source.skip s; return d

/-- Read a declaration; every field may be missing. -/
def read (s : σ) : m EntityDeclaration := do
  let d ← Decoding.readRecord fieldNames Draft.step ⟨none, none, none, none, none⟩ s
  return {
    attributes := d.attributes.getD none
    grants := d.grants.getD []
    attributeGrants := d.attributeGrants.getD []
    attributeSecurity := d.attributeSecurity.getD false
    audits := d.audits.getD [] }

end EntityDeclaration

end LifecycleGuard
