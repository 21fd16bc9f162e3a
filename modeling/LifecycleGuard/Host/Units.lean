import LifecycleGuard.Host.Program

/-!
# Units of work

A host serves several units of work at a time.  Each of them has a context of its own, under a name;
policies and stores are shared.  An `Operation` is one thing that a unit does: a call, a capture
with the recorder of a policy, something with an entry in flight, or to enter or leave a scope.

A schedule lists operations in the order in which they take place, each with the name of its unit.
So it is one way to interleave the units, and what a single unit does is the list of the operations
under its name.  Operations are not interrupted by other units; an operation that is interrupted by
a panic is over, and the schedule goes on.

Scopes are entered and left one by one, and found again by a key.  So a unit can have others take
their turns while its scopes are open, and leave its scopes in any order.
-/

namespace LifecycleGuard

variable {π μ : Type}

/-- Scopes that are open, by their keys. -/
abbrev Guards := SortedMap String Guard

namespace Guards

/-- The context when the scope of a key, if there is one, is left. -/
def release (gs : Guards) (key : String) (c : Context) : Context :=
  match gs.get? key with
  | some g => g.release c
  | none => c

end Guards

/-- Something that a unit of work does. -/
inductive Operation where
  | call (c : Command)
  /-- Begin a capture with the recorder of a policy. -/
  | begin (policy : String) (a : Action) (subject : Entity)
  | commit (policy : String) (a : Action) (subject : Entity)
  | record (policy : String) (subject : Entity)
  /-- Put an entry in flight. -/
  | hold (type : String) (e : AuditEntry)
  /-- Take the entry in flight out. -/
  | take (type : String)
  | drop (type : String)
  /-- Enter a scope.  A scope that is open under the key is left after that. -/
  | enter (key : String) (s : Scope)
  | leave (key : String)
deriving DecidableEq

namespace Operation

/-- What an operation is answered with. -/
def Answer : Operation → Type
  | call c => c.Answer
  | begin .. => Unit
  | commit .. => Except AuditError (Option AuditEntry)
  | record .. => Except AuditError (Option AuditEntry)
  | hold .. => Unit
  | take _ => Option AuditEntry
  | drop _ => Unit
  | enter .. => Unit
  | leave _ => Bool

/-- Do an operation in the current context, where some scopes are open. -/
def perform (h : Host π μ) (o : Oracle π μ) (gs : Guards) : (op : Operation) → Run op.Answer
  | call c => h.perform o c
  | begin p a subject => h.withPolicy p fun p => p.recorder.begin o.compose a subject
  | commit p a subject => h.withPolicy p fun p => p.recorder.commit a subject
  | record p subject => h.withPolicy p fun p => p.recorder.record o.compose subject
  | hold type e => Run.hold type e
  | take type => do
    let e := (← Run.context).inFlight.get? type
    Run.modifyContext fun c => c.release type
    return e
  | drop type => Run.abandon type
  | enter key s => Run.modifyContext fun c => gs.release key (Guard.acquire s c).2
  | leave key => do
    Run.modifyContext (gs.release key)
    return gs.contains key

/-- The scopes that are open after an operation in a context. -/
def guards (gs : Guards) (c : Context) : Operation → Guards
  | enter key s => gs.insert key (Guard.acquire s c).1
  | leave key => gs.erase key
  | _ => gs

end Operation

/-- All units of work that a host serves. -/
structure Units where
  work : Work
  /-- The scopes that a unit has open. -/
  guards : String → Guards

/-- An operation that took place. -/
structure Turn where
  /-- The unit whose operation it is. -/
  name : String
  operation : Operation
  answer : Except Interrupt operation.Answer
  /-- The media before the operation. -/
  before : Media
  /-- The media after the operation. -/
  after : Media

namespace Units

variable (h : Host π μ) (o : Oracle π μ)

/-- Do an operation of a unit. -/
def step (u : Units) (name : String) (op : Operation) : Turn × Units :=
  let (x, w) := Run.on name (op.perform h o (u.guards name)) u.work
  let opened := op.guards (u.guards name) (u.work.contextOf name)
  (⟨name, op, x, u.work.media, w.media⟩,
    ⟨w, fun other => if other = name then opened else u.guards other⟩)

/-- Do the operations of a schedule. -/
def run (u : Units) : List (String × Operation) → List Turn × Units
  | [] => ([], u)
  | (name, op) :: rest =>
    let (turn, u) := u.step h o name op
    let (turns, u) := run u rest
    (turn :: turns, u)

end Units

end LifecycleGuard
