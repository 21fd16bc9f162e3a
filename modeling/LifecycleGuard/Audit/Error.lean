import LifecycleGuard.Audit.Entry
import LifecycleGuard.Files.Error

/-!
# Why an entry is not persisted or not found

The failures of stores and of the recorder in front of them.
-/

namespace LifecycleGuard

/-- Why an audit entry cannot be persisted or read. -/
inductive AuditError where
  /-- The store refuses. -/
  | storage (text : String)
  /-- A line of a log is not an entry. -/
  | unreadable (error : ReadError)
  /-- A file cannot be used. -/
  | file (error : FileError)
  /-- The entry is not valid. -/
  | invalid (text : String)
  /-- Something else went wrong inside a store. -/
  | internal (text : String)
deriving DecidableEq

namespace AuditError

/-- What is wrong.  What is wrong with the text of a log line has no wording of its own. -/
def message : AuditError → String
  | storage text => "storage error: " ++ text
  | unreadable _ => "serialization error"
  | file error => error.message
  | invalid text => "invalid audit entry: " ++ text
  | internal text => "internal error: " ++ text

end AuditError

end LifecycleGuard
