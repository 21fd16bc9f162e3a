import LifecycleGuard.Audit.Error
import LifecycleGuard.Permission.Denial

/-!
# Why a policy refuses or fails

A transition is refused when a check denies it; it fails when the entry about it cannot be
persisted.
-/

namespace LifecycleGuard

/-- Why a policy refuses or fails. -/
inductive PolicyError where
  | denied (denial : Denial)
  | audit (error : AuditError)
deriving DecidableEq

/-- The error in words. -/
def PolicyError.message : PolicyError → String
  | denied d => d.message
  | audit e => e.message

end LifecycleGuard
