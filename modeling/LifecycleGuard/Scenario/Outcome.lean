import LifecycleGuard.Scenario.Op

/-!
# Reports of a scenario

What is seen of each operation: its outcome, the context behind it, and what happened on the way.
Identifiers are random, so a report is compared by the order in which identifiers are first
shown; `Report.ids` is that order for one report.
-/

namespace LifecycleGuard.Scenario

/-- Why an operation fails. -/
inductive Failure where
  | declaration (error : DeclarationError)
  | load (error : LoadError)
  | audit (error : AuditError)
  | denied (denial : Denial)

/-- The failure of a registry. -/
def Failure.ofRegistry : RegistryError → Failure
  | .load e => .load e
  | .audit e => .audit e

/-- The failure of a policy. -/
def Failure.ofPolicy : PolicyError → Failure
  | .denied d => .denied d
  | .audit e => .audit e

/-- A line of a file with its line end, and the entry on it if there is one. -/
structure FileLine where
  text : String
  entry : Option AuditEntry

/-- What an operation comes to. -/
inductive Outcome where
  | done
  | flag (b : Bool)
  | actor (a : Option Actor)
  | entry (e : Option AuditEntry)
  | entries (es : List AuditEntry)
  /-- Everything in a memory store. -/
  | contents (es : List AuditEntry)
  /-- The lines of a file, if it can be read. -/
  | lines (ls : Option (List FileLine))
  | typeName (type : String)
  | registry (types : List String) (auditing : Bool)
  | rules (e : Evaluator Condition)
  | declarations (r : Recorder MessageRule)
  | granted (actions : List Action) (attributes : List String)
  | failed (f : Failure)
  | interrupted (i : Interrupt)
  /-- There is nothing of this name that the operation could work on. -/
  | unknownName (name : String)

namespace Outcome

/-- The outcome of something that gives nothing or fails. -/
def ofUnit {ε : Type} (failure : ε → Failure) : Except ε Unit → Outcome
  | .ok () => done
  | .error e => failed (failure e)

/-- The outcome of something that gives an entry, or none, or fails. -/
def ofEntry {ε : Type} (failure : ε → Failure) : Except ε (Option AuditEntry) → Outcome
  | .ok e => entry e
  | .error e => failed (failure e)

/-- The identifiers that an outcome shows, in order. -/
def ids : Outcome → List Uuid
  | entry e => e.toList.map AuditEntry.id
  | entries es => es.map AuditEntry.id
  | contents es => es.map AuditEntry.id
  | lines ls => (ls.getD []).filterMap fun l => l.entry.map AuditEntry.id
  | _ => []

end Outcome

/-- What is seen beside the outcome of an operation. -/
structure Observation where
  context : Context
  events : List Event
  labels : List String
  /-- What was printed, line by line. -/
  printed : List String

/-- What is seen of an operation.  Of a scope the reports of its body are seen, and the text of the
failure that ended it. -/
inductive Report where
  | step (outcome : Outcome) (seen : Observation)
  | scope (body : List Report) (failure : Option String) (seen : Observation)

/-- The identifier that an event shows. -/
def eventId? : Event → Option Uuid
  | .holdingEntry _ _ id => some id
  | _ => none

namespace Observation

/-- The identifiers that the events show, in order. -/
def ids (o : Observation) : List Uuid := o.events.filterMap eventId?

end Observation

namespace Report

/-- The identifiers that a report shows by itself, in order: events come before the outcome. -/
def ids : Report → List Uuid
  | step outcome seen => seen.ids ++ outcome.ids
  | scope _ _ seen => seen.ids

end Report

/-! ## Numbers for identifiers -/

/-- Identifiers by the order in which they were first shown. -/
abbrev Shown : Type := List Uuid

namespace Shown

/-- Show an identifier. -/
def add (s : Shown) (u : Uuid) : Shown := if s.contains u then s else s ++ [u]

/-- Show identifiers in order. -/
def addAll (s : Shown) (us : List Uuid) : Shown := us.foldl add s

/-- The number of an identifier, from one on. -/
def number? (s : Shown) (u : Uuid) : Option Nat :=
  (s.findIdx? (· = u)).map (· + 1)

/-- The identifier of a number. -/
def id? (s : Shown) (n : Nat) : Option Uuid :=
  match n with
  | 0 => none
  | n + 1 => s[n]?

end Shown

end LifecycleGuard.Scenario
