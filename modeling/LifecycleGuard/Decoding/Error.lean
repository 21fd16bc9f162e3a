/-!
# Why a document cannot be read

Reading a document fails for one of three reasons, and callers tell them apart: the text is not
in the format, the text stops too early, or the text is fine but does not hold what was asked
for.
-/

namespace LifecycleGuard

/-- Why a document cannot be read as the value that was asked for. -/
inductive ReadError where
  /-- The text is not in the format. -/
  | malformed
  /-- The text ends before the value does. -/
  | truncated
  /-- The text holds something else than what was asked for. -/
  | mismatch
deriving DecidableEq, Repr, Inhabited

end LifecycleGuard
