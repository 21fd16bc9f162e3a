import LifecycleGuard.Host.Command
import LifecycleGuard.Policy

/-!
# Host programs

Predicates and message rules are supplied by a host, and may themselves use the library: look at
the context, change it, open scopes, and call policies, which may call further host code.
A `Program` is such a piece of host code as data.  It is a tree of the calls it makes, each with
what the program does with the answer.  It works on one context, and can turn to another one for
a part of its work.

`Host.oracle` gives the meaning of the host code of a set of policies.  Its argument bounds how
deeply calls from host code into the library and back may nest.
-/

namespace LifecycleGuard

/-- A piece of host code. -/
inductive Program : Type → Type 1 where
  /-- End with a result. -/
  | done {α : Type} (x : α) : Program α
  /-- Fail. -/
  | panic {α : Type} (text : String) : Program α
  /-- Make a call and go on with its answer. -/
  | ask {α : Type} (c : Command) (k : c.Answer → Program α) : Program α
  /-- Do some work, and go on with its result or with the text of its panic. -/
  | attempt {α β : Type} (p : Program β) (k : Except String β → Program α) : Program α
  /-- Do some work within a scope and go on with its result. -/
  | within {α β : Type} (s : Scope) (p : Program β) (k : β → Program α) : Program α
  /-- Do some work on another context and go on with its result. -/
  | on {α β : Type} (name : String) (p : Program β) (k : β → Program α) : Program α

namespace Program

/-- Go on with the result. -/
def bind {α β : Type} : Program α → (α → Program β) → Program β
  | .done x, f => f x
  | .panic text, _ => .panic text
  | .ask c k, f => .ask c fun r => (k r).bind f
  | .attempt p k, f => .attempt p fun r => (k r).bind f
  | .within s p k, f => .within s p fun r => (k r).bind f
  | .on name p k, f => .on name p fun r => (k r).bind f

instance : Monad Program where
  pure := .done
  bind := bind

/-- Make a call. -/
def call (c : Command) : Program c.Answer := .ask c .done

/-- Do the work of a program, whose calls are answered by `perform`. -/
def run (perform : (c : Command) → Run c.Answer) {α : Type} : Program α → Run α
  | .done x => pure x
  | .panic text => Run.panic text
  | .ask c k => Run.bind (Run.answering c (perform c)) fun r => (k r).run perform
  | .attempt p k => Run.bind (Run.attempt (p.run perform)) fun r => (k r).run perform
  | .within s p k => Run.bind (Run.within s (p.run perform)) fun r => (k r).run perform
  | .on name p k => Run.bind (Run.on name (p.run perform)) fun r => (k r).run perform

end Program

/-- Policies by name, and the programs behind their predicates and message rules. -/
structure Host (π μ : Type) where
  policy? : String → Option (Policy π μ)
  judge : π → Request → Program Bool
  compose : μ → Entity → Option Actor → Program String

namespace Host

variable {π μ : Type} (h : Host π μ)

/-- Work with the policy of a name.  To call a policy that does not exist is a failure of the host
code. -/
def withPolicy {α : Type} (name : String) (f : Policy π μ → Run α) : Run α :=
  match h.policy? name with
  | some p => f p
  | none => Run.panic ("no policy " ++ name)

variable {h} in
/-- A relation between what is done with any policy is one between what is done with the policy of a
name, if runs that fail alike are related. -/
theorem withPolicy_rel {α : Type} {R : Run α → Run α → Prop} (name : String)
    (f f' : Policy π μ → Run α) (hpanic : ∀ text, R (Run.panic text) (Run.panic text))
    (hf : ∀ p, h.policy? name = some p → R (f p) (f' p)) :
    R (h.withPolicy name f) (h.withPolicy name f') := by
  unfold withPolicy
  cases hp : h.policy? name with
  | none => exact hpanic _
  | some p => exact hf p hp

/-- Answer a call, where the host code of policies means `o`. -/
def perform (o : Oracle π μ) : (c : Command) → Run c.Answer
  | .actor => do return (← Run.context).actor
  | .isEnforcing => do return (← Run.context).enforcing
  | .isAuditing => do return (← Run.context).auditing
  | .isSecurityBypassed type => do return (← Run.context).isSecurityBypassed type
  | .isAuditBypassed type => do return (← Run.context).isAuditBypassed type
  | .hasInFlight type => do return (← Run.context).hasInFlight type
  | .setActor a => Run.modifyContext fun c => c.withActor a
  | .reset => Run.modifyContext Context.reset
  | .label text => Run.leaveLabel text
  | .checkAction p a subject => h.withPolicy p fun p => p.evaluator.checkAction o.judge a subject
  | .checkAttributes p a subject =>
    h.withPolicy p fun p => p.evaluator.checkAttributes o.judge a subject
  | .isGranted p a subject => h.withPolicy p fun p => p.evaluator.isGranted o.judge a subject
  | .isAttributeGranted p name subject =>
    h.withPolicy p fun p => p.evaluator.isAttributeGranted o.judge name subject
  | .granted p subject actions attributes wanted =>
    h.withPolicy p fun p => p.evaluator.granted o.judge subject actions attributes wanted
  | .before p a subject => h.withPolicy p fun p => p.before o a subject
  | .after p a subject => h.withPolicy p fun p => p.after a subject
  | .abandon p => h.withPolicy p fun p => p.abandon
  | .afterFind p subject => h.withPolicy p fun p => p.afterFind o subject
  | .beforeAssociation p a relation subject associated =>
    h.withPolicy p fun p => p.beforeAssociation o a relation subject associated

/-- The meaning of predicates and message rules, where host code may be entered up to `depth`
times one within the other. -/
def oracle : Nat → Oracle π μ
  | 0 => ⟨fun _ _ => Run.tooDeep, fun _ _ _ => Run.tooDeep⟩
  | depth + 1 =>
    { judge := fun p r => (h.judge p r).run (h.perform (oracle depth))
      compose := fun m subject actor => (h.compose m subject actor).run (h.perform (oracle depth)) }

/-- Do the work of a program of the host. -/
def run (depth : Nat) {α : Type} (p : Program α) : Run α := p.run (h.perform (h.oracle depth))

end Host

end LifecycleGuard
