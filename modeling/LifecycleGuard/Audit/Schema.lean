import LifecycleGuard.Audit.Entry
import LifecycleGuard.Json.Schema

/-!
# The schema of audit entries

What is published about the written form of audit entries.  Readers of a log go by it; the library
itself never does.
-/

namespace LifecycleGuard.AuditEntry

open JsonSchema

/-- A text that is there. -/
def someText : JsonSchema := text 1 none

/-- The schema of a change. -/
def changeSchema : JsonSchema := object [("old", anything), ("new", anything)] ["old", "new"] none 0

/-- The fields of an entry. -/
def described : List (String × JsonSchema) :=
  [("entry_id", text 0 none),
    ("subject_id", someText),
    ("subject_type", someText),
    ("subject_version", integer),
    ("actor_id", someText),
    ("actor_type", someText),
    ("action", text 0 (some ["create", "update", "destroy", "find"])),
    ("success", flag),
    ("message", text 0 none),
    ("changes", object [] [] (some changeSchema) 1),
    ("created_at", text 0 none)]

/-- The schema of an entry. -/
def schema : JsonSchema :=
  object described
    ["entry_id", "subject_id", "subject_type", "actor_id", "actor_type", "action", "success",
      "created_at"]
    none 0

end LifecycleGuard.AuditEntry
