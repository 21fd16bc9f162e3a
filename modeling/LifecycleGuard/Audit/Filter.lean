import LifecycleGuard.Audit.Entry

/-!
# Queries for audit entries

A filter selects entries by any combination of criteria; a criterion that is not set matches
everything.  The page that is asked for is cut out of the selected entries: first `offset` of
them are passed over, then at most `limit` are taken.
-/

namespace LifecycleGuard

/-- Which entries are asked for. -/
structure AuditFilter where
  subjectType : Option String
  subjectId : Option String
  actorType : Option String
  actorId : Option String
  action : Option Action
  success : Option Bool
  /-- Entries before this instant do not match. -/
  start : Option Instant
  /-- Entries after this instant do not match. -/
  stop : Option Instant
  limit : Option Nat
  offset : Option Nat
deriving DecidableEq

namespace AuditFilter

/-- The filter for every entry. -/
def all : AuditFilter := ⟨none, none, none, none, none, none, none, none, none, none⟩

/-- The filter for the entries about one entity. -/
def forSubject (type id : String) : AuditFilter :=
  { all with subjectType := some type, subjectId := some id }

/-- The filter for the entries of one actor. -/
def forActor (type id : String) : AuditFilter :=
  { all with actorType := some type, actorId := some id }

/-- Whether a criterion is met or not set. -/
def met {α : Type} (criterion : Option α) (holds : α → Bool) : Bool :=
  match criterion with
  | some x => holds x
  | none => true

/-- Whether an entry meets every criterion that is set. -/
def selects (f : AuditFilter) (e : AuditEntry) : Bool :=
  met f.subjectType (· = e.subjectType) && met f.subjectId (· = e.subjectId) &&
    met f.actorType (· = e.actorType) && met f.actorId (· = e.actorId) &&
    met f.action (· = e.action) && met f.success (· = e.success) &&
    met f.start (fun t => t.le e.createdAt) && met f.stop (fun t => e.createdAt.le t)

/-- The page of the selected entries that is asked for. -/
def page (f : AuditFilter) (selected : List AuditEntry) : List AuditEntry :=
  let rest := selected.drop (f.offset.getD 0)
  match f.limit with
  | some n => rest.take n
  | none => rest

/-- The entries that are asked for, in their order. -/
def apply (f : AuditFilter) (entries : List AuditEntry) : List AuditEntry :=
  f.page (entries.filter f.selects)

end AuditFilter

end LifecycleGuard
