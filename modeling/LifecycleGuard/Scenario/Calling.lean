import LifecycleGuard.Scenario.Object

/-!
# Asking and calling policies in a scenario

Questions to policies and to their halves, and the calls around transitions.
-/

namespace LifecycleGuard.Scenario

/-- The outcome of a check. -/
def Outcome.ofCheck : Except Denial Unit → Outcome := Outcome.ofUnit .denied

/-- Ask a question. -/
def AskOp.perform (os : Objects) : AskOp → Run Outcome
  | registry owner => os.use Object.registry? owner fun r =>
    pure (.registry r.entityTypes r.declarations.audit.enabled)
  | rules owner => os.use Object.evaluator? owner fun e => pure (.rules e)
  | declarations owner => os.use Object.recorder? owner fun r => pure (.declarations r)
  | policyType owner => os.use Object.policy? owner fun p => pure (.typeName p.entityType)
  | isGranted owner a subject => os.use Object.evaluator? owner fun e => do
    return .flag (← e.isGranted os.oracle.judge a subject)
  | isAttributeGranted owner name subject => os.use Object.evaluator? owner fun e => do
    return .flag (← e.isAttributeGranted os.oracle.judge name subject)
  | granted owner subject actions attributes wanted =>
    os.use Object.evaluator? owner fun e => do
      let (as, ns) ← e.granted os.oracle.judge subject actions attributes wanted
      return .granted as ns
  | checkAction owner a subject => os.use Object.evaluator? owner fun e => do
    return .ofCheck (← e.checkAction os.oracle.judge a subject)
  | checkAttributes owner a subject => os.use Object.evaluator? owner fun e => do
    return .ofCheck (← e.checkAttributes os.oracle.judge a subject)
  | checkAssociation owner a relation subject associated =>
    os.use Object.evaluator? owner fun e => do
      return .ofCheck (← e.checkAssociation os.oracle.judge a relation subject associated)

/-- Make a call around a transition. -/
def TransitionOp.perform (os : Objects) : TransitionOp → Run Outcome
  | begin owner a subject => os.use Object.recorder? owner fun r => do
    r.begin os.oracle.compose a subject
    return .done
  | commit owner a subject => os.use Object.recorder? owner fun r => do
    return .ofEntry .audit (← r.commit a subject)
  | record owner subject => os.use Object.recorder? owner fun r => do
    return .ofEntry .audit (← r.record os.oracle.compose subject)
  | abandon owner => os.use Object.recorder? owner fun r => do
    r.abandon
    return .done
  | before owner a subject => os.use Object.policy? owner fun p => do
    return .ofUnit Failure.ofPolicy (← p.before os.oracle a subject)
  | after owner a subject => os.use Object.policy? owner fun p => do
    return .ofEntry Failure.ofPolicy (← p.after a subject)
  | afterFind owner subject => os.use Object.policy? owner fun p => do
    return .ofEntry Failure.ofPolicy (← p.afterFind os.oracle subject)
  | beforeAssociation owner a relation subject associated =>
    os.use Object.policy? owner fun p => do
      return .ofUnit Failure.ofPolicy
        (← p.beforeAssociation os.oracle a relation subject associated)

end LifecycleGuard.Scenario
