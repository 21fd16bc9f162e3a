import LifecycleGuard.Scenario.Calling
import LifecycleGuard.Scenario.Declaring
import LifecycleGuard.Scenario.Storage

/-!
# Running a scenario

A session is the state of a scenario between two operations.  `Session.runOp` does one operation
and reports it; `Session.runBody` does operations in order, up to the first failure.

* Every operation works in one of several contexts, which share everything else.
* A panic is the outcome of the operation in which it happens and goes no further.  A failure of
  the scenario itself ends the body that it stands in, and the scope around that body is left.
* A scope may also be entered by one operation and left by another.  It belongs to the context in
  which it was entered.  If its name is used again, the new scope is entered and then the old one
  is left.
-/

namespace LifecycleGuard.Scenario

/-! ## The current context -/

/-- Do an operation on the current context. -/
def ContextOp.perform : ContextOp → Run Outcome
  | look => pure .done
  | actor => do return .actor (← Run.context).actor
  | setActor a => do
    Run.modifyContext fun c => c.withActor a
    return .done
  | reset => do
    Run.modifyContext Context.reset
    return .done
  | hold type e => do
    Run.hold type e
    return .done
  | take type => do
    let e := (← Run.context).inFlight.get? type
    Run.modifyContext fun c => c.release type
    return .entry e
  | peek type => do return .entry ((← Run.context).inFlight.get? type)
  | backdate type created => do
    match (← Run.context).inFlight.get? type with
    | none => return .flag false
    | some e =>
      Run.modifyContext fun c => c.hold type { e with createdAt := created }
      return .flag true
  | abandon type => do
    Run.abandon type
    return .done

/-- The scope that is meant. -/
def ScopeChoice.resolve (os : Objects) : ScopeChoice → Except String Scope
  | plain s => .ok s
  | withoutSecurity policy =>
    match os.find? Object.policy? policy with
    | some p => .ok p.withoutSecurity
    | none => .error policy
  | withoutAudit policy =>
    match os.find? Object.policy? policy with
    | some p => .ok p.withoutAudit
    | none => .error policy

/-! ## Sessions -/

/-- The state of a scenario. -/
structure Session where
  objects : Objects
  /-- Scopes that are open, by name, with the context of each. -/
  guards : SortedMap String (String × Guard)
  work : Work
  shown : Shown
  /-- Whether events are shown. -/
  logging : Bool

namespace Session

/-- The beginning of a scenario at a point of time. -/
def start (contexts : SortedMap String Context) (logging : Bool) (now : Instant) : Session where
  objects := .empty
  guards := .empty
  work := { Work.start now with contexts }
  shown := []
  logging

/-- The context of a name; one that was not given is fresh. -/
def context (s : Session) (name : String) : Context := s.work.contextOf name

/-- The session with another context under a name. -/
def withContext (s : Session) (name : String) (c : Context) : Session :=
  { s with work := s.work.put name c }

/-- Do some work in a context. -/
def perform {α : Type} (s : Session) (name : String) (r : Run α) : Except Interrupt α × Session :=
  let (x, w) := r.on name s.work
  (x, { s with work := w })

/-- Look at a context and at what has happened since the last look. -/
def observe (s : Session) (name : String) : Observation × Session :=
  let w := s.work
  (⟨s.context name, if s.logging then w.events else [], w.labels, w.media.printed⟩,
    { s with work := w.seen })

/-- Take note of the identifiers that a report shows. -/
def showing (s : Session) (r : Report) : Report × Session :=
  (r, { s with shown := s.shown.addAll r.ids })

/-- Report an operation that is over. -/
def report (s : Session) (name : String) (outcome : Outcome) : Report × Session :=
  let (seen, s) := s.observe name
  s.showing (.step outcome seen)

/-- The outcome of some work, which may have been interrupted. -/
def outcomeOf : Except Interrupt Outcome → Outcome
  | .ok outcome => outcome
  | .error i => .interrupted i

/-- Do some work in a context and report it. -/
def reportWork (s : Session) (name : String) (r : Run Outcome) : Report × Session :=
  let (x, s) := s.perform name r
  s.report name (outcomeOf x)

/-- Declare something and report it. -/
def reportDeclared (s : Session) (name : String) (r : Run Declared) : Report × Session :=
  match s.perform name r with
  | (.ok (outcome, objects), s) => { s with objects }.report name outcome
  | (.error i, s) => s.report name (.interrupted i)

/-! ## Scopes with names -/

/-- Leave a scope in the context that it belongs to. -/
def leave (s : Session) : Option (String × Guard) → Session
  | some (name, g) => s.withContext name (g.release (s.context name))
  | none => s

/-- Do an operation on a scope with a name. -/
def performGuard (s : Session) (name : String) : GuardOp → Outcome × Session
  | .acquire guard scope =>
    let (g, c) := Guard.acquire scope (s.context name)
    let replaced := s.guards.get? guard
    let s := { s with guards := s.guards.insert guard (name, g) }
    (.done, (s.withContext name c).leave replaced)
  | .release guard =>
    let g := s.guards.get? guard
    (.flag g.isSome, { s with guards := s.guards.erase guard }.leave g)
  | .forget guard =>
    (.flag (s.guards.contains guard), { s with guards := s.guards.erase guard })

/-! ## Running -/

mutual

/-- Do an operation in a context and report it. -/
def runOp (s : Session) (name : String) : Op → Report × Session
  | .context op => s.reportWork name op.perform
  | .guard op =>
    let (outcome, s) := s.performGuard name op
    s.report name outcome
  | .store op => s.reportWork name (op.perform s.objects s.shown)
  | .file op => s.reportWork name op.perform
  | .declare op => s.reportDeclared name (op.perform s.objects)
  | .ask op => s.reportWork name (op.perform s.objects)
  | .transition op => s.reportWork name (op.perform s.objects)
  | .within choice body =>
    match choice.resolve s.objects with
    | .error policy => s.report name (.unknownName policy)
    | .ok scope =>
      let (mark, c) := scope.enter (s.context name)
      let (reports, failure, s) := runBody (s.withContext name c) body
      let s := s.withContext name (scope.leave mark (s.context name))
      let (seen, s) := s.observe name
      s.showing (.scope reports failure seen)
  | .fail text => s.report name (.interrupted (.panic text))

/-- Do operations in order.  The first failure among them ends the work. -/
def runBody (s : Session) : List (String × Op) → List Report × Option String × Session
  | [] => ([], none, s)
  | (_, .fail text) :: _ => ([], some text, s)
  | (name, op) :: rest =>
    let (r, s) := runOp s name op
    let (rs, failure, s) := runBody s rest
    (r :: rs, failure, s)

end

end Session

end LifecycleGuard.Scenario
