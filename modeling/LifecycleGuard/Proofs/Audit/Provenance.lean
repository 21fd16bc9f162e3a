import LifecycleGuard.Proofs.Audit.Integrity
import LifecycleGuard.Proofs.Collections.SortedMap

/-!
# Where the fields of an entry come from

An entry about a mutation is begun by the call before it and completed by the call after it, and
between the two a host may do almost anything.

**The capture.**  `Policy.checks` is the part of the call before a mutation that asks predicates.
`Policy.inFlight_of_before` says what is in flight once the call has answered: an unfinished entry
made from the context as it was when the checks were over.

**In between.**  `Proceeds` is what a host can do meanwhile: run programs, and enter and leave
scopes in any order, on any context.  `Call.Interferes` lists the calls that end or replace a
capture.  All others leave it in flight (`Call.Follows.keeps`), so it stays there over any number of
them (`Traced.keeps`).

**The entry.**  `Policy.provenance` puts the three together: the call after the mutation returns and
persists one entry, and `AuditEntry.TellsOf` says from which moment each of its fields is.
-/

namespace LifecycleGuard

variable {π μ : Type}

/-! ## The capture -/

/-- The checks before a mutation. -/
def Policy.checks (p : Policy π μ) (o : Oracle π μ) (a : Action) (subject : Entity) :
    Run (Except Denial Unit) := do
  match ← p.evaluator.checkAction o.judge a subject with
  | .error d => return .error d
  | .ok () =>
    if checksAttributes a then p.evaluator.checkAttributes o.judge a subject else pure (.ok ())

/-- A call before a mutation makes its checks and then begins the capture. -/
theorem Policy.before_eq (p : Policy π μ) (o : Oracle π μ) (a : Action) (subject : Entity) :
    p.before o a subject = p.checks o a subject >>= fun checked => match checked with
      | .error d => pure (.error (.denied d))
      | .ok () => p.recorder.begin o.compose a subject >>= fun _ => pure (.ok ()) := by
  rw [before, checks, Run.bind_assoc]
  congr 1
  funext checked
  cases checked with
  | error d => rfl
  | ok _ => cases checksAttributes a <;> rfl

/-- A mutation that is permitted was checked, and then captured. -/
theorem Policy.begin_of_before {p : Policy π μ} {o : Oracle π μ} {a : Action} {subject : Entity}
    {w w₁ : Work} (hbefore : p.before o a subject w = (.ok (.ok ()), w₁)) :
    p.recorder.begin o.compose a subject (p.checks o a subject w).2 = (.ok (), w₁) := by
  rw [before_eq] at hbefore
  rcases hchecks : p.checks o a subject w with ⟨i | d | _, w'⟩
  · rw [Run.bind_of_error hchecks] at hbefore
    simp at hbefore
  · rw [Run.bind_of_ok hchecks] at hbefore
    simp at hbefore
  · rw [Run.bind_of_ok hchecks] at hbefore
    change (p.recorder.begin o.compose a subject >>= fun _ => pure (Except.ok ())) w' = _ at hbefore
    rcases hbegin : p.recorder.begin o.compose a subject w' with ⟨i | x, w''⟩
    · rw [Run.bind_of_error hbegin] at hbefore
      simp at hbefore
    · rw [Run.bind_of_ok hbegin] at hbefore
      obtain ⟨-, rfl⟩ := Prod.mk.inj hbefore
      rfl

/-- Nothing that host code does turns away from its context for good. -/
theorem Reaches.current {h : Host π μ} {w w₁ : Work} (hreach : Reaches h w w₁) :
    w₁.current = w.current := by
  induction hreach with
  | trans _ _ ih ih' => exact ih'.trans ih
  | scope _ _ ih => exact ih
  | _ => rfl

/-- What a capture puts in flight is made from the context in which it began. -/
theorem Recorder.inFlight_of_begin {h : Host π μ} {o : Oracle π μ} (ho : o.Obeys h)
    {r : Recorder μ} {a : Action} {subject : Entity} {w w₁ : Work} {d : AuditDeclaration μ}
    (ha : a.isMutation = true) (hd : r.applicable? a subject w.context = some d)
    (hbegin : r.begin o.compose a subject w = (.ok (), w₁)) :
    ∃ message id now,
      (composed o.compose d.message subject w.context.actor w).1 = .ok message ∧
      w₁.current = w.current ∧
      w₁.ledger.inFlight w.current r.entityType = some (.unfinished id now a subject
        w.context.actor (d.filter.apply subject.changes) message) := by
  rw [r.begin_of_some o.compose ha hd] at hbegin
  rcases hmessage : composed o.compose d.message subject w.context.actor w with ⟨i | message, w'⟩
  · rw [Run.bind_of_error hmessage] at hbegin
    simp at hbegin
  have hcurrent : w'.current = w.current := by
    have hobeys := obeys_composed ho.compose d.message subject w.context.actor w
    rw [hmessage] at hobeys
    exact hobeys.current
  rw [Run.bind_of_ok hmessage] at hbegin
  obtain ⟨events, hpark⟩ := r.park_apply d a subject w.context.actor message w'
  rw [hpark] at hbegin
  obtain ⟨-, rfl⟩ := Prod.mk.inj hbegin
  refine ⟨message, .ofSerial w'.serial, w'.now, rfl, hcurrent, ?_⟩
  show (w'.change fun c => c.hold r.entityType (.unfinished (.ofSerial w'.serial) w'.now a subject
    w.context.actor (d.filter.apply subject.changes) message)).ledger.inFlight w.current
      r.entityType = _
  rw [w'.ledger_hold, hcurrent]
  exact if_pos ⟨rfl, rfl⟩

/-- The checks do only what host code can. -/
theorem Policy.reaches_checks {h : Host π μ} {o : Oracle π μ} (p : Policy π μ) (ho : o.Obeys h)
    (a : Action) (subject : Entity) (w : Work) : Reaches h w (p.checks o a subject w).2 := by
  refine Run.Obeys.bind (congruence_oneObeys.checkTarget (obeys_permits ho p)) (fun checked => ?_) w
  cases checked with
  | error d => exact .pure _
  | ok _ =>
      cases checksAttributes a with
      | false => exact .pure _
      | true => exact congruence_oneObeys.checkAttributes (obeys_permits ho p) a subject

/-- What is in flight after a mutation was permitted is made from the context in which its checks
were over. -/
theorem Policy.inFlight_of_before {h : Host π μ} {depth : Nat} {p : Policy π μ} {a : Action}
    {subject : Entity} {w w₁ : Work} {d : AuditDeclaration μ} (ha : a.isMutation = true)
    (hbefore : p.before (h.oracle depth) a subject w = (.ok (.ok ()), w₁))
    (hd : p.recorder.applicable? a subject (p.checks (h.oracle depth) a subject w).2.context
      = some d) :
    ∃ message id now,
      (Recorder.composed (h.oracle depth).compose d.message subject
        (p.checks (h.oracle depth) a subject w).2.context.actor
        (p.checks (h.oracle depth) a subject w).2).1 = .ok message ∧
      w₁.current = w.current ∧
      w₁.ledger.inFlight w.current p.entityType = some (.unfinished id now a subject
        (p.checks (h.oracle depth) a subject w).2.context.actor
        (d.filter.apply subject.changes) message) := by
  have ho := h.obeys_oracle depth
  obtain ⟨message, id, now, hmessage, hcurrent, hin⟩ :=
    Recorder.inFlight_of_begin ho ha hd (begin_of_before hbefore)
  rw [(p.reaches_checks ho a subject w).current] at hcurrent hin
  exact ⟨message, id, now, hmessage, hcurrent, hin⟩

/-! ## In between -/

/-- What can become of work while a host goes on with it. -/
inductive Proceeds (h : Host π μ) : Work → Work → Prop where
  | refl (w : Work) : Proceeds h w w
  | trans {w w₁ w₂ : Work} : Proceeds h w w₁ → Proceeds h w₁ w₂ → Proceeds h w w₂
  /-- A program runs, to its end or until it is interrupted. -/
  | run (depth : Nat) {α : Type} (p : Program α) (w : Work) : Proceeds h w (h.run depth p w).2
  | acquire (s : Scope) (w : Work) : Proceeds h w (w.change fun c => (Guard.acquire s c).2)
  /-- A scope is left that was entered at any time before. -/
  | release (g : Guard) (w : Work) : Proceeds h w (w.change g.release)
  /-- The host turns to another context in between. -/
  | turn (name : String) {w w₁ : Work} :
      Proceeds h { w with current := name } w₁ → Proceeds h w { w₁ with current := w.current }

namespace Proceeds

variable {h : Host π μ} {w w₁ : Work}

theorem current (hw : Proceeds h w w₁) : w₁.current = w.current := by
  induction hw with
  | trans _ _ ih ih' => exact ih'.trans ih
  | run depth p w => exact (h.reaches_run depth p w).current
  | _ => rfl

/-- Scopes hold nothing in flight, so the calls tell everything. -/
theorem traced (hw : Proceeds h w w₁) : Work.Traced h w w₁ := by
  induction hw with
  | refl w => exact .of_ledger rfl rfl
  | trans _ _ ih ih' => exact ih.trans ih'
  | run depth p w => exact h.traced_run depth p w
  | acquire s w => exact .of_ledger rfl (w.ledger_entering s)
  | release g w =>
      refine .of_ledger rfl (World.ledger_put_of_inFlight ?_)
      obtain ⟨s, mark⟩ := g
      cases s <;> cases mark <;> rfl
  | turn _ _ ih => exact ih

end Proceeds

/-- The policy of a name is one for an entity type. -/
def Host.Governs (h : Host π μ) (policy type : String) : Prop :=
  ∃ p ∈ h.policy? policy, p.entityType = type

instance (h : Host π μ) (policy type : String) : Decidable (h.Governs policy type) :=
  inferInstanceAs (Decidable (∃ p ∈ h.policy? policy, p.entityType = type))

/-- A call that can end a capture of an action on a type, or put another one in its place.  A call
before a mutation does so if it captures, `replaced` that is. -/
def Command.Interferes (h : Host π μ) (type : String) (a : Action) (replaced : Prop) :
    Command → Prop
  | .reset => True
  | .after policy b _ => b = a ∧ h.Governs policy type
  | .abandon policy => h.Governs policy type
  | .before policy _ _ => h.Governs policy type ∧ replaced
  | _ => False

/-- A call interferes with a capture in the context of a name.  `l` is the ledger before the call,
and a mutation was captured if something else is in flight now. -/
def Call.Interferes (h : Host π μ) (name type : String) (a : Action) (l : Ledger) (c : Call) :
    Prop :=
  c.world.current = name ∧ c.command.Interferes h type a
    (c.world.ledger.inFlight name type ≠ l.inFlight name type)

/-- None of the calls that are made after a ledger interferes. -/
def Undisturbed (h : Host π μ) (name type : String) (a : Action) : Ledger → List Call → Prop
  | _, [] => True
  | l, c :: rest => ¬ c.Interferes h name type a l ∧ Undisturbed h name type a c.world.ledger rest

instance (h : Host π μ) (type : String) (a : Action) (replaced : Prop) [Decidable replaced] :
    (c : Command) → Decidable (c.Interferes h type a replaced)
  | .reset => .isTrue trivial
  | .after _ _ _ => inferInstanceAs (Decidable (_ ∧ _))
  | .abandon policy => inferInstanceAs (Decidable (h.Governs policy type))
  | .before _ _ _ => inferInstanceAs (Decidable (_ ∧ _))
  | .actor | .isEnforcing | .isAuditing | .isSecurityBypassed _ | .isAuditBypassed _
  | .hasInFlight _ | .setActor _ | .label _ | .checkAction .. | .checkAttributes ..
  | .isGranted .. | .isAttributeGranted .. | .granted .. | .afterFind ..
  | .beforeAssociation .. => .isFalse id

instance (h : Host π μ) (name type : String) (a : Action) :
    (l : Ledger) → (calls : List Call) → Decidable (Undisturbed h name type a l calls)
  | _, [] => .isTrue trivial
  | _, c :: rest =>
    have : Decidable (Undisturbed h name type a c.world.ledger rest) :=
      instDecidableUndisturbed h name type a c.world.ledger rest
    inferInstanceAs (Decidable (¬ (_ ∧ _) ∧ _))

/-- What is put in flight in another place leaves what is in flight in this one. -/
theorem Ledger.inFlight_put_of_ne {l : Ledger} {name type n t : String} {e : Option AuditEntry}
    (hne : ¬ (name = n ∧ type = t)) : (l.put n t e).inFlight name type = l.inFlight name type :=
  if_neg hne

/-- **One call** that does not interfere leaves a capture in flight. -/
theorem Call.Follows.keeps {h : Host π μ} {l : Ledger} {c : Call} {name type : String}
    {e : AuditEntry} (hc : c.Follows h l) (hi : ¬ c.Interferes h name type e.action l)
    (he : l.inFlight name type = some e) : c.world.ledger.inFlight name type = some e := by
  cases hc with
  | idle _ hl => exact hl.symm ▸ he
  | actor hl => exact hl.symm ▸ he
  | uncommitted _ _ hl => exact hl.symm ▸ he
  | recorded _ hl =>
      rw [hl]
      exact he
  | @reset w hl =>
      have hother : ¬ name = w.current := fun hname => hi ⟨hname.symm, trivial⟩
      rw [hl]
      exact (if_neg hother).trans he
  | @captured policy p b d subject id now actor message w hp _ _ hl =>
      by_cases hplace : name = w.current ∧ type = p.entityType
      · -- In this place it would be another capture, unless it made no difference.
        by_cases hsame : w.ledger.inFlight name type = l.inFlight name type
        · exact hsame.trans he
        · exact absurd ⟨hplace.1.symm, ⟨p, hp, hplace.2.symm⟩, hsame⟩ hi
      · rw [hl, Ledger.inFlight_put_of_ne hplace]
        exact he
  | @committed policy p b e' subject now w hp he' hb hl =>
      have hother : ¬ (name = w.current ∧ type = p.entityType) := by
        rintro ⟨rfl, rfl⟩
        have hsame : e' = e := Option.some.inj (he'.symm.trans he)
        have haction : b = e.action := hb.symm.trans (congrArg AuditEntry.action hsame)
        subst haction
        exact hi ⟨rfl, rfl, p, hp, rfl⟩
      rw [hl]
      exact (Ledger.inFlight_put_of_ne hother).trans he
  | @abandoned policy p w hp hl =>
      have hother : ¬ (name = w.current ∧ type = p.entityType) := fun hplace =>
        hi ⟨hplace.1.symm, p, hp, hplace.2.symm⟩
      rw [hl, Ledger.inFlight_put_of_ne hother]
      exact he

/-- **Any number of calls** that do not interfere leave a capture in flight. -/
theorem Traced.keeps {h : Host π μ} {name type : String} {e : AuditEntry} :
    ∀ {calls : List Call} {l : Ledger}, Traced h l calls →
      Undisturbed h name type e.action l calls → l.inFlight name type = some e →
      (l.after calls).inFlight name type = some e
  | [], _, _, _, he => he
  | _ :: _, _, ⟨hc, hrest⟩, ⟨hi, hundisturbed⟩, he => hrest.keeps hundisturbed (hc.keeps hi he)

/-- A capture is still in flight after anything that does not interfere with it. -/
theorem Proceeds.keeps {h : Host π μ} {w w₁ : Work} {type : String} {e : AuditEntry}
    {calls : List Call} (hw : Proceeds h w w₁) (hcalls : w₁.calls = w.calls ++ calls)
    (hundisturbed : Undisturbed h w.current type e.action w.ledger calls)
    (hin : w.ledger.inFlight w.current type = some e) :
    w₁.context.inFlight.get? type = some e := by
  obtain ⟨calls', hcalls', htraced, hledger⟩ := hw.traced
  obtain rfl : calls = calls' := List.append_cancel_left (hcalls.symm.trans hcalls')
  have hkept := htraced.keeps hundisturbed hin
  rw [← hledger, ← hw.current] at hkept
  exact hkept

/-! ## The entry -/

/-- What passes a filter is not left out and, if there is a list of what to keep, stands in it. -/
theorem ChangeFilter.lets_iff (f : ChangeFilter) (name : String) :
    f.lets name = true ↔
      name ∉ f.except.toList ∧ (f.only.toList = [] ∨ name ∈ f.only.toList) := by
  have honly : f.only.isEmpty = true ↔ f.only.toList = [] :=
    List.isEmpty_iff.trans List.map_eq_nil_iff.symm
  simp only [lets, Bool.and_eq_true, Bool.or_eq_true, Bool.not_eq_true', SortedSet.mem_toList_iff,
    Bool.not_eq_true, honly]

/-- An entry tells of a mutation of `subject`, of which `outcome` came.  The actor, the message and
the filter are those of its capture. -/
structure AuditEntry.TellsOf (e : AuditEntry) (a : Action) (subject outcome : Entity)
    (actor : Option Actor) (message : Option String) (filter : ChangeFilter) : Prop where
  action : e.action = a
  subjectType : e.subjectType = subject.type
  subjectId : outcome.id = some e.subjectId
  subjectVersion : e.subjectVersion = outcome.version
  actorType : e.actorType = (actor.map Actor.kind).getD "anonymous"
  actorId : e.actorId = (actor.map Actor.id).getD "0"
  message : e.message = message
  success : e.success = true
  /-- The changes are the pending ones whose names are not left out and, if there is a list of names
  to keep, stand in it. -/
  changes : ∀ name change, (∃ c, e.changes = some c ∧ c.get? name = some change) ↔
    subject.changes.get? name = some change ∧ name ∉ filter.except.toList ∧
      (filter.only.toList = [] ∨ name ∈ filter.only.toList)
  /-- Where no name passes, there are none. -/
  nonempty : ∀ c, e.changes = some c → c.isEmpty = false

theorem AuditEntry.changes_unfinished (id : Uuid) (now : Instant) (a : Action) (subject : Entity)
    (actor : Option Actor) (changes : ChangeSet) (message : Option String) :
    (unfinished id now a subject actor changes message).changes
      = if changes.isEmpty then none else some changes := rfl

/-- A capture that is completed tells of its mutation. -/
theorem AuditEntry.tellsOf_finished (id : Uuid) (now : Instant) (a : Action) (subject : Entity)
    (actor : Option Actor) (message : Option String) (filter : ChangeFilter) {outcome : Entity}
    {shown : String} (hid : outcome.id = some shown) (finish : Instant) :
    ((unfinished id now a subject actor (filter.apply subject.changes) message).finished outcome
      finish).TellsOf a subject outcome actor message filter where
  action := action_unfinished _ _ _ _ _ (filter.apply subject.changes) message
  subjectType := by cases actor <;> rfl
  subjectId := by
    show outcome.id = some (outcome.id.getD "")
    rw [hid]
    rfl
  subjectVersion := rfl
  actorType := by cases actor <;> rfl
  actorId := by cases actor <;> rfl
  message := rfl
  success := rfl
  changes := by
    intro name change
    rw [← filter.lets_iff, ← SortedMap.get?_filterKeys]
    show (∃ c, (unfinished id now a subject actor (filter.apply subject.changes) message).changes
      = some c ∧ c.get? name = some change) ↔ (filter.apply subject.changes).get? name = some change
    rw [changes_unfinished]
    cases hempty : (filter.apply subject.changes).isEmpty with
    | true =>
        have hnone : (filter.apply subject.changes).get? name = none := by
          rw [SortedMap.get?, List.isEmpty_iff.mp hempty]
          rfl
        simp [hnone]
    | false => simp
  nonempty := changing_nonempty (((blank id now a subject.type).about subject).withActor actor) _

/-- A store that takes an entry takes it if no required text is blank. -/
theorem Store.receive_of_complete {s : Store} {e : AuditEntry} {m : Media}
    (hcomplete : e.missingField? = none) (hsave : (s.save e m).1 = .ok ()) :
    s.receive e m = (.ok (some e), (s.save e m).2) := by
  rw [receive, hcomplete]
  simp only [hsave]
  rfl

theorem AuditEntry.missingField?_of_tellsOf {e : AuditEntry} {a : Action} {subject outcome : Entity}
    {actor : Option Actor} {message : Option String} {filter : ChangeFilter}
    (he : e.TellsOf a subject outcome actor message filter)
    (hid : ∀ id, outcome.id = some id → Text.isBlankText id = false)
    (htype : Text.isBlankText subject.type = false)
    (hactor : ∀ a, actor = some a →
      Text.isBlankText a.kind = false ∧ Text.isBlankText a.id = false) :
    e.missingField? = none := by
  have hid' : Text.isBlankText e.subjectId = false := hid _ he.subjectId
  have htype' : Text.isBlankText e.subjectType = false := by rw [he.subjectType, htype]
  have hactor' : Text.isBlankText e.actorType = false ∧ Text.isBlankText e.actorId = false := by
    rw [he.actorType, he.actorId]
    cases actor with
    | none => exact ⟨by decide, by decide⟩
    | some a => exact hactor a rfl
  simp [missingField?, required, hid', htype', hactor']

namespace Policy

theorem applicable?_of_declared {p : Policy π μ} {a : Action} {d : AuditDeclaration μ}
    {subject : Entity} {c : Context} (hdeclared : p.audits.declaration? a = some d)
    (hrecording : p.recording = true) (hpolicy : c.isAuditBypassed p.entityType = false)
    (hsubject : c.isAuditBypassed subject.type = false) :
    p.recorder.applicable? a subject c = some d := by
  have hbypassed : p.recorder.bypassed subject c = false := by
    simp [Recorder.bypassed, recorder, hrecording, hpolicy, hsubject]
  rw [Recorder.applicable?, hbypassed]
  exact hdeclared

/-- The call after a mutation persists what is in flight for it, completed, if it is complete then
and the store takes it. -/
theorem after_of_inFlight {p : Policy π μ} {a : Action} {outcome : Entity} {w : Work}
    {capture : AuditEntry} (hin : w.context.inFlight.get? p.entityType = some capture)
    (haction : capture.action = a)
    (hcomplete : (capture.finished outcome w.now).missingField? = none)
    (haccepts : (p.store.save (capture.finished outcome w.now) w.media).1 = .ok ()) :
    (p.after a outcome w).1 = .ok (.ok (some (capture.finished outcome w.now))) ∧
      (p.after a outcome w).2.media
        = (p.store.save (capture.finished outcome w.now) w.media).2 := by
  obtain ⟨events, hcommit⟩ := p.recorder.commit_of_some outcome hin haction
  have hafter : p.after a outcome w = (.ok (.ok (some (capture.finished outcome w.now))),
      { w.change (fun c => c.release p.entityType) with
        media := (p.store.save (capture.finished outcome w.now) w.media).2, events }) := by
    rw [after, Run.bind_of_ok hcommit]
    show (_, _) = _
    rw [show p.recorder.store = p.store from rfl, Store.receive_of_complete hcomplete haccepts]
    rfl
  rw [hafter]
  exact ⟨rfl, rfl⟩

/-- **Provenance of an entry.**  A mutation is permitted and captured, and then a host goes on in
any way that does not interfere with the capture.  The call after the mutation returns one entry
and hands just that to the store; it tells of the mutation as it was captured, and of what came of
it. -/
theorem provenance (h : Host π μ) (depth : Nat) (p : Policy π μ) {a : Action}
    (ha : a.isMutation = true) (subject outcome : Entity) {w w₁ w₂ : Work}
    (hbefore : p.before (h.oracle depth) a subject w = (.ok (.ok ()), w₁))
    {d : AuditDeclaration μ} (hdeclared : p.audits.declaration? a = some d)
    (hrecording : p.recording = true) {start : Work}
    (hstart : start = (p.checks (h.oracle depth) a subject w).2)
    (hpolicy : start.context.isAuditBypassed p.entityType = false)
    (hsubject : start.context.isAuditBypassed subject.type = false)
    (hproceeds : Proceeds h w₁ w₂) {calls : List Call} (hcalls : w₂.calls = w₁.calls ++ calls)
    (hundisturbed : Undisturbed h w.current p.entityType a w₁.ledger calls)
    {id : String} (hid : outcome.id = some id) (hidText : Text.isBlankText id = false)
    (htype : Text.isBlankText subject.type = false)
    (hactor : ∀ actor, start.context.actor = some actor →
      Text.isBlankText actor.kind = false ∧ Text.isBlankText actor.id = false)
    (haccepts : ∀ e, (p.store.save e w₂.media).1 = .ok ()) :
    ∃ message e,
      (Recorder.composed (h.oracle depth).compose d.message subject start.context.actor start).1
        = .ok message ∧
      e.TellsOf a subject outcome start.context.actor message d.filter ∧
      (p.after a outcome w₂).1 = .ok (.ok (some e)) ∧
      (p.after a outcome w₂).2.media = (p.store.save e w₂.media).2 ∧
      ∀ number, p.store = .memory number →
        (p.after a outcome w₂).2.media.entries number = w₂.media.entries number ++ [e] := by
  subst hstart
  have happlies := applicable?_of_declared hdeclared hrecording hpolicy hsubject
  obtain ⟨message, serial, now, hmessage, hcurrent, hin⟩ := inFlight_of_before ha hbefore happlies
  generalize hcapture : AuditEntry.unfinished serial now a subject
    (p.checks (h.oracle depth) a subject w).2.context.actor (d.filter.apply subject.changes) message
    = capture at hin
  have haction : capture.action = a := by
    rw [← hcapture]
    exact AuditEntry.action_unfinished ..
  -- The capture is still in flight when the last call is made.
  have hslot : w₂.context.inFlight.get? p.entityType = some capture := by
    rw [← haction, ← hcurrent] at hundisturbed
    rw [← hcurrent] at hin
    exact hproceeds.keeps hcalls hundisturbed hin
  have htells : (capture.finished outcome w₂.now).TellsOf a subject outcome
      (p.checks (h.oracle depth) a subject w).2.context.actor message d.filter := by
    rw [← hcapture]
    exact AuditEntry.tellsOf_finished _ _ _ _ _ _ _ hid _
  have hcomplete : (capture.finished outcome w₂.now).missingField? = none := by
    refine AuditEntry.missingField?_of_tellsOf htells (fun id' hid' => ?_) htype hactor
    rw [← Option.some.inj (hid.symm.trans hid')]
    exact hidText
  obtain ⟨hanswer, hmedia⟩ := after_of_inFlight hslot haction hcomplete (haccepts _)
  refine ⟨message, capture.finished outcome w₂.now, hmessage, htells, hanswer, hmedia, ?_⟩
  intro number hstore
  rw [hmedia, hstore, Store.entries_save_memory]

end Policy

/-! ### A note that changes hands -/

namespace Host

/-- Updates of notes are captured without their bodies. -/
def discreetPolicy : Policy Unit Unit :=
  { notePolicy with audits := ⟨[⟨.update, ⟨.empty, .ofList ["body"]⟩, none⟩]⟩ }

/-- A host that knows these notes only. -/
def discreetHost : Host Unit Unit :=
  { noteHost with policy? := fun name => if name = "notes" then some discreetPolicy else none }

/-- A note whose title and body are new. -/
def draft : Entity :=
  { note "1" "a" with
    changes := (note "1" "a").changes.insert "body" ⟨.null, .string "b"⟩ }

/-- Who begins an update. -/
def editor : Actor := ⟨"User", "7", [], .null⟩

/-- Work of the editor. -/
def edited : Work := (Work.start .epoch).change fun c => c.withActor (some editor)

/-- The editor leaves, another note is updated without being audited, and another unit of work is
over. -/
def handOver : Program Unit :=
  .ask (.setActor none) fun _ =>
    .ask (.after "notes" .create (note "1" "a")) fun _ =>
      .within .audit (.ask (.before "notes" .update (note "2" "b")) .done) fun _ =>
        .on "other" (.ask .reset .done) .done

/-- The work when the update has begun. -/
def begun : Work := (discreetPolicy.before (discreetHost.oracle 1) .update draft edited).2

/-- The work when it was handed over, while enforcement is off. -/
def handedOver : Work :=
  (discreetHost.run 1 handOver begun).2.change fun c => (Guard.acquire .enforcement c).2

/-- The entry tells of the editor's update, though nobody acts when it is persisted, and of the
title only. -/
theorem provenance_handOver :
    handedOver.context.actor = none ∧ handedOver.context.enforcing = false ∧ ∃ e : AuditEntry,
      e.TellsOf .update draft draft (some editor) none ⟨.empty, .ofList ["body"]⟩ ∧
      (∃ c, e.changes = some c ∧ c.get? "title" = some ⟨.null, .string "a"⟩) ∧
      (∀ c, e.changes = some c → c.get? "body" = none) ∧
      (discreetPolicy.after .update draft handedOver).1 = .ok (.ok (some e)) ∧
      (discreetPolicy.after .update draft handedOver).2.media.entries 0 = [e] := by
  have hbefore : discreetPolicy.before (discreetHost.oracle 1) .update draft edited
      = (.ok (.ok ()), begun) := Prod.ext (by decide +kernel) rfl
  have hproceeds : Proceeds discreetHost begun handedOver :=
    (Proceeds.run 1 handOver begun).trans (.acquire .enforcement _)
  have hcalls : handedOver.calls = begun.calls ++ handedOver.calls := rfl
  have hundisturbed : Undisturbed discreetHost edited.current discreetPolicy.entityType .update
      begun.ledger handedOver.calls := by decide +kernel
  obtain ⟨message, e, hmessage, htells, hanswer, -, hentries⟩ :=
    Policy.provenance discreetHost 1 discreetPolicy rfl draft draft hbefore rfl rfl rfl
      (by decide +kernel) (by decide +kernel) hproceeds hcalls hundisturbed rfl (by decide)
      (by decide) (by decide +kernel) fun _ => rfl
  obtain rfl : none = message := Except.ok.inj hmessage
  refine ⟨by decide +kernel, by decide +kernel, e, htells,
    (htells.changes _ _).mpr (by decide +kernel), fun c hc => ?_, hanswer, hentries 0 rfl⟩
  refine Option.eq_none_iff_forall_ne_some.mpr fun change hbody => ?_
  exact absurd ((htells.changes "body" change).mp ⟨c, hc, hbody⟩).2.1 (by decide +kernel)

end Host

end LifecycleGuard
